import DeclaredTriggers.Sql.Quoting
import DeclaredTriggers.Text.Blank

/-!
# Lists of names

How Postgres reads a list of names, as a search path is one: the names stand between commas, with blanks
around them or without. A name in double quotes is taken as it stands, two quotes being one; a bare name
is taken in small letters, up to the next blank or comma.

> `names_joined`: quoted names, joined by commas, are read back as they are and in their order, whatever
> stands in them.

Blanks behind a name end it (`NameMode.read_of_blanks`); if one name is all that is read, nothing but blanks can
have ended it (`NameMode.exists_of_read_bare`, `NameMode.blanks_of_read_quoteEnd`).
-/

namespace DeclaredTriggers.Sql

open Text (replaced)

/-- The blanks between names. -/
def isNameBlank (c : Char) : Bool := c = ' ' || (9 ≤ c.toNat && c.toNat ≤ 13)

/-- Where the reader of a list of names is. A name in it has its last character first. -/
inductive NameMode where
  /-- In front of a name, or of the end if there is no name yet. -/
  | before (mayEnd : Bool)
  | bare (name : List Char)
  | quoted (name : List Char)
  /-- Behind a quote that ends the name, unless a second one follows. -/
  | quoteEnd (name : List Char)
  /-- Behind a name and a blank. -/
  | behind (name : List Char)

namespace NameMode

/-- The name that would end here. -/
def name? : NameMode → Option String
  | bare name => some (folded (String.ofList name.reverse))
  | quoteEnd name | behind name => some (String.ofList name.reverse)
  | before _ | quoted _ => none

/-- Where the reader is after a character that ends no name. -/
def step? : NameMode → Char → Option NameMode
  | before mayEnd, c =>
    if isNameBlank c then some (before mayEnd)
    else if c = '"' then some (quoted [])
    else if c = ',' then none
    else some (bare [c])
  | bare name, c => some (if isNameBlank c then behind (name.map Char.toLower) else bare (c :: name))
  | quoted name, c => some (if c = '"' then quoteEnd name else quoted (c :: name))
  | quoteEnd name, c =>
    if c = '"' then some (quoted (c :: name))
    else if isNameBlank c then some (behind name)
    else none
  | behind name, c => if isNameBlank c then some (behind name) else none

/-- The names that are still to come. -/
def read : NameMode → List Char → Option (List String)
  | before true, [] => some []
  | m, [] => m.name?.map fun name => [name]
  | m, c :: s =>
    match if c = ',' then m.name? else none with
    | some name => ((before false).read s).map (name :: ·)
    | none =>
      match m.step? c with
      | some next => next.read s
      | none => none

end NameMode

/-- The names in a list of names. -/
def names? (s : List Char) : Option (List String) := (NameMode.before true).read s

/-! ## Quoted names -/

namespace NameMode

theorem read_step {m next : NameMode} {c : Char} (hc : c = ',' → m.name? = none)
    (h : m.step? c = some next) (s : List Char) : m.read (c :: s) = next.read s := by
  have hends : (if c = ',' then m.name? else none) = none := by
    split
    next hcomma => exact hc hcomma
    next => rfl
  rw [read, hends, h]

/-- Inside quotes every character is taken as it comes, and a quote that is written twice is one. -/
theorem read_quoted (cs name s : List Char) :
    (quoted name).read (replaced '"' ['"', '"'] cs ++ '"' :: s) =
      (quoteEnd (cs.reverse ++ name)).read s := by
  induction cs generalizing name with
  | nil => exact read_step (fun _ => rfl) rfl s
  | cons c cs ih =>
    rw [List.reverse_cons, List.append_assoc, List.singleton_append]
    unfold replaced at ih ⊢
    rw [List.flatMap_cons]
    by_cases hc : c = '"'
    · -- a quote in a name is written twice
      subst hc
      rw [if_pos rfl, List.append_assoc]
      show (quoted name).read ('"' :: '"' :: _) = _
      have hfirst : (quoted name).step? '"' = some (quoteEnd name) := rfl
      have hsecond : (quoteEnd name).step? '"' = some (quoted ('"' :: name)) := rfl
      rw [read_step (fun _ => rfl) hfirst, read_step (fun h => absurd h (by decide)) hsecond]
      exact ih _
    · have hstep : (quoted name).step? c = some (quoted (c :: name)) := by
        simp only [step?, if_neg hc]
      rw [if_neg hc, List.append_assoc, List.singleton_append, read_step (fun _ => rfl) hstep]
      exact ih _

theorem read_quoteName (name : String) (mayEnd : Bool) (s : List Char) :
    (before mayEnd).read ((quoteName name).toList ++ s) = (quoteEnd name.toList.reverse).read s := by
  have hquote : (quoteName name).toList ++ s =
      '"' :: (replaced '"' ['"', '"'] name.toList ++ '"' :: s) := by
    unfold quoteName
    simp
  have hstep : (before mayEnd).step? '"' = some (quoted []) := rfl
  rw [hquote, read_step (fun h => absurd h (by decide)) hstep, read_quoted, List.append_nil]

theorem read_joined (name : String) (names : List String) (mayEnd : Bool) :
    (before mayEnd).read (",".intercalate ((name :: names).map quoteName)).toList =
      some (name :: names) := by
  have hback : String.ofList name.toList.reverse.reverse = name := by
    rw [List.reverse_reverse, String.ofList_toList]
  induction names generalizing name mayEnd with
  | nil =>
    have h := read_quoteName name mayEnd []
    rw [List.append_nil] at h
    rw [List.map_singleton, String.intercalate_singleton, h]
    show some [String.ofList name.toList.reverse.reverse] = _
    rw [hback]
  | cons next names ih =>
    rw [List.map_cons, List.map_cons, String.intercalate_cons_cons, String.toList_append,
      String.toList_append, List.append_assoc, read_quoteName]
    show ((before false).read (",".intercalate ((next :: names).map quoteName)).toList).map
      (String.ofList name.toList.reverse.reverse :: ·) = _
    rw [ih next false (by rw [List.reverse_reverse, String.ofList_toList]), hback]
    rfl

end NameMode

/-- Quoted names, joined by commas, are read back as they are. -/
theorem names_joined (names : List String) :
    names? (",".intercalate (names.map quoteName)).toList = some names := by
  cases names with
  | nil => rfl
  | cons name names => exact NameMode.read_joined name names true

example : names? "Books, \"a\"\", b\" ,c".toList = some ["books", "a\", b", "c"] := by decide

/-! ## One name between blanks -/

theorem ne_comma_of_isNameBlank {c : Char} (h : isNameBlank c) : c ≠ ',' := by
  rintro rfl
  revert h
  decide

theorem ne_quote_of_isNameBlank {c : Char} (h : isNameBlank c) : c ≠ '"' := by
  rintro rfl
  revert h
  decide

namespace NameMode

variable {m : NameMode} {n : String} {s : List Char}

/-- Blanks in front of a name are passed over. -/
theorem read_before_blanks {b : List Char} (hb : ∀ c ∈ b, isNameBlank c) (mayEnd : Bool) (s : List Char) :
    (before mayEnd).read (b ++ s) = (before mayEnd).read s := by
  induction b with
  | nil => rfl
  | cons c b ih =>
    obtain ⟨hc, hb⟩ := List.forall_mem_cons.1 hb
    have hstep : (before mayEnd).step? c = some (before mayEnd) := if_pos hc
    rw [List.cons_append, read_step (fun _ => rfl) hstep]
    exact ih hb

/-- A blank behind a name leaves the name as it is. -/
theorem name?_of_blank (hm : m.name? = some n) {c : Char} (hc : isNameBlank c) :
    ∃ next, m.step? c = some next ∧ next.name? = some n := by
  cases m with
  | before | quoted => cases hm
  | bare name =>
    refine ⟨behind (name.map Char.toLower), congrArg some (if_pos hc), ?_⟩
    rw [← hm]
    show some (String.ofList (name.map Char.toLower).reverse) = some (folded (String.ofList name.reverse))
    rw [folded, String.toList_ofList, List.map_reverse]
  | quoteEnd name => exact ⟨behind name, (if_neg (ne_quote_of_isNameBlank hc)).trans (if_pos hc), hm⟩
  | behind name => exact ⟨behind name, if_pos hc, hm⟩

/-- Blanks behind a name end it. -/
theorem read_of_blanks (hm : m.name? = some n) (hs : ∀ c ∈ s, isNameBlank c) : m.read s = some [n] := by
  induction s generalizing m with
  | nil =>
    have hnil : m.read [] = m.name?.map fun name => [name] := by
      cases m with
      | before => cases hm
      | bare | quoted | quoteEnd | behind => rfl
    rw [hnil, hm]
    rfl
  | cons c s ih =>
    obtain ⟨hc, hs⟩ := List.forall_mem_cons.1 hs
    obtain ⟨next, hstep, hnext⟩ := name?_of_blank hm hc
    rw [read_step (fun h => absurd h (ne_comma_of_isNameBlank hc)) hstep]
    exact ih hnext hs

/-- No character leads back to the front of a list. -/
theorem eq_before_of_step? {c : Char} (h : m.step? c = some (before true)) : m = before true := by
  cases m with
  | before mayEnd => grind [step?]
  | bare name | quoted name | quoteEnd name | behind name => grind [step?]

/-- Only in front of a list can there be no name to come. -/
theorem eq_before_of_read (h : m.read s = some []) : m = before true := by
  induction s generalizing m with
  | nil =>
    cases m with
    | before mayEnd =>
      cases mayEnd with
      | true => rfl
      | false => cases h
    | bare | quoted | quoteEnd | behind => cases h
  | cons c s ih =>
    rw [read] at h
    split at h
    next =>
      obtain ⟨names, -, hnames⟩ := Option.map_eq_some_iff.1 h
      cases hnames
    next =>
      split at h
      next next hstep =>
        obtain rfl := ih h
        exact eq_before_of_step? hstep
      next => cases h

/-- Where one name is all that is read, no comma follows what is a name. -/
theorem exists_step_of_read {k : String} {c : Char} (hm : m.name? = some n) (h : m.read (c :: s) = some [k]) :
    ∃ next, m.step? c = some next ∧ next.read s = some [k] := by
  by_cases hc : c = ','
  · rw [read, if_pos hc, hm] at h
    obtain ⟨names, hnames, hsame⟩ := Option.map_eq_some_iff.1 h
    obtain rfl := (List.cons.inj hsame).2
    cases eq_before_of_read hnames
  · rw [read, if_neg hc] at h
    simp only at h
    split at h
    next next hstep => exact ⟨next, hstep, h⟩
    next => cases h

/-- Behind a name and a blank there are blanks only. -/
theorem blanks_of_read_behind {k : String} {w : List Char} (h : (behind w).read s = some [k]) :
    ∀ c ∈ s, isNameBlank c := by
  induction s with
  | nil => exact fun c hc => absurd hc List.not_mem_nil
  | cons c s ih =>
    obtain ⟨next, hstep, hnext⟩ := exists_step_of_read rfl h
    simp only [step?] at hstep
    split at hstep
    next hc =>
      obtain rfl := Option.some.inj hstep
      exact List.forall_mem_cons.2 ⟨hc, ih hnext⟩
    next => cases hstep

/-- Behind a closing quote that no other follows there are blanks only. -/
theorem blanks_of_read_quoteEnd {k : String} {w : List Char} (hs : '"' ∉ s)
    (h : (quoteEnd w).read s = some [k]) : ∀ c ∈ s, isNameBlank c := by
  cases s with
  | nil => exact fun c hc => absurd hc List.not_mem_nil
  | cons c s =>
    have hquote : c ≠ '"' := fun hc => hs (hc ▸ List.mem_cons_self)
    obtain ⟨next, hstep, hnext⟩ := exists_step_of_read rfl h
    simp only [step?, if_neg hquote] at hstep
    split at hstep
    next hc =>
      obtain rfl := Option.some.inj hstep
      exact List.forall_mem_cons.2 ⟨hc, blanks_of_read_behind hnext⟩
    next => cases hstep

/-- Where a bare name is all that is read, it goes up to the blanks at the end. -/
theorem exists_of_read_bare {k : String} {w : List Char} (h : (bare w).read s = some [k]) :
    ∃ u b, s = u ++ b ∧ (∀ c ∈ b, isNameBlank c) ∧ k = folded (String.ofList (w.reverse ++ u)) := by
  induction s generalizing w with
  | nil =>
    refine ⟨[], [], rfl, fun c hc => absurd hc List.not_mem_nil, ?_⟩
    rw [List.append_nil]
    exact (List.cons.inj (Option.some.inj h)).1.symm
  | cons c s ih =>
    obtain ⟨next, hstep, hnext⟩ := exists_step_of_read rfl h
    by_cases hc : isNameBlank c
    · obtain rfl : behind (w.map Char.toLower) = next := by
        simpa only [step?, if_pos hc] using Option.some.inj hstep
      have hblanks : ∀ d ∈ c :: s, isNameBlank d :=
        List.forall_mem_cons.2 ⟨hc, blanks_of_read_behind hnext⟩
      have hread := read_of_blanks (m := bare w) rfl hblanks
      refine ⟨[], c :: s, rfl, hblanks, ?_⟩
      rw [List.append_nil]
      exact (List.cons.inj (Option.some.inj (h.symm.trans hread))).1
    · obtain rfl : bare (c :: w) = next := by
        simpa only [step?, if_neg hc] using Option.some.inj hstep
      obtain ⟨u, b, rfl, hb, rfl⟩ := ih hnext
      refine ⟨c :: u, b, rfl, hb, ?_⟩
      rw [List.reverse_cons, List.append_assoc]
      rfl

end NameMode

end DeclaredTriggers.Sql
