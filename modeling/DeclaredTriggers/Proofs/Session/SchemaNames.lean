import DeclaredTriggers.Proofs.Session.Nesting
import DeclaredTriggers.Proofs.Sql.FirstWord
import DeclaredTriggers.Proofs.Sql.Grammar
import DeclaredTriggers.Proofs.Sql.NameList
import DeclaredTriggers.Proofs.Trigger.Identifier

/-!
# Names of schemas

A scope takes names of schemas as they are spelled in SQL, and what it searches is written between quotes. The
written name is the one that the database would read in the spelling, except where the spelling stands between
blanks that are none for the database: there the scope leaves out what the database takes for a part of the
name, or refuses.

> `names?_eq_iff`: a part of an identifier between blanks is read as the name that it stands for, exactly if
> the database knows the blanks for blanks.
>
> `identifiers_exact`: which texts are identifiers, that reading and writing them are inverse to each other,
> and which schemas are searched.

A blank of another kind in front begins a bare name that goes on through the whole part, so that the name is too
long; behind the part, it makes a bare name longer or follows a closing quote.
-/

namespace DeclaredTriggers

namespace Sql

open Text (isBlank trim)

/-! ## Parts in a list of names -/

/-- The name that a part stands for in the database. -/
def Part.denoted : Part → String
  | .bare name => folded name
  | .quoted name => name

/-- Where the reader of a list of names is behind a part. -/
def Part.mode : Part → NameMode
  | .bare name => .bare name.toList.reverse
  | .quoted name => .quoteEnd name.toList.reverse

theorem Part.name?_mode (p : Part) : p.mode.name? = some p.denoted := by
  cases p with
  | bare name =>
    show some (folded (String.ofList name.toList.reverse.reverse)) = _
    rw [List.reverse_reverse, String.ofList_toList]
    rfl
  | quoted name =>
    show some (String.ofList name.toList.reverse.reverse) = _
    rw [List.reverse_reverse, String.ofList_toList]
    rfl

theorem isBlank_of_isNameBlank {c : Char} (h : isNameBlank c) : isBlank c := by
  unfold isNameBlank at h
  rw [Bool.or_eq_true, decide_eq_true_eq] at h
  obtain rfl | h := h
  · decide
  · simp only [isBlank, h, Bool.true_or]

theorem isNameRest_of_isNameStart {c : Char} (h : isNameStart c) : isNameRest c := by
  rw [isNameStart_iff] at h
  rw [isNameRest_iff]
  exact h.imp_right fun h => .inr (.inl h)

/-- The characters of a bare name are no blanks, and have no meaning in a list of names. -/
theorem plain_of_isNameRest {c : Char} (h : isNameRest c) :
    isBlank c = false ∧ isNameBlank c = false ∧ c ≠ '"' ∧ c ≠ ',' := by
  have hall : ∀ n < 128, isNameRest (Char.ofNat n) → isBlank (Char.ofNat n) = false ∧
      isNameBlank (Char.ofNat n) = false ∧ Char.ofNat n ≠ '"' ∧ Char.ofNat n ≠ ',' := by decide
  have hc : c.toNat < 128 := by
    by_cases hdollar : c = '$'
    · subst hdollar
      decide
    · refine Definition.toNat_lt_of_isNameCharacter ?_
      simp only [isNameRest, hdollar, Bool.or_eq_true, decide_eq_true_eq, decide_false, Bool.or_false] at h
      simp only [Definition.isNameCharacter, Bool.or_eq_true, decide_eq_true_eq]
      exact .inl h.symm
  exact forall_ascii (P := fun c => isNameRest c → isBlank c = false ∧ isNameBlank c = false ∧ c ≠ '"' ∧ c ≠ ',')
    hall c hc h

theorem read_bare_append {s : List Char} (hs : ∀ c ∈ s, isNameRest c) (w t : List Char) :
    (NameMode.bare w).read (s ++ t) = (NameMode.bare (s.reverse ++ w)).read t := by
  induction s generalizing w with
  | nil => rfl
  | cons c s ih =>
    obtain ⟨hc, hs⟩ := List.forall_mem_cons.1 hs
    obtain ⟨-, hblank, -, hcomma⟩ := plain_of_isNameRest hc
    have hstep : (NameMode.bare w).step? c = some (.bare (c :: w)) := by
      simp only [NameMode.step?, hblank, Bool.false_eq_true, if_false]
    rw [List.cons_append, NameMode.read_step (fun h => absurd h hcomma) hstep, ih hs, List.reverse_cons,
      List.append_assoc]
    rfl

/-- A part is read up to its end. -/
theorem read_part {p : Part} (hp : p.Spelled) (mayEnd : Bool) (t : List Char) :
    (NameMode.before mayEnd).read (p.sql.toList ++ t) = p.mode.read t := by
  cases p with
  | quoted name => exact NameMode.read_quoteName name mayEnd t
  | bare name =>
    obtain ⟨c, s, hname, hc, hs⟩ := hp
    obtain ⟨-, hblank, hquote, hcomma⟩ := plain_of_isNameRest (isNameRest_of_isNameStart hc)
    have hstep : (NameMode.before mayEnd).step? c = some (.bare [c]) := by
      simp only [NameMode.step?, hblank, hquote, hcomma, Bool.false_eq_true, if_false]
    show (NameMode.before mayEnd).read (name.toList ++ t) = (NameMode.bare name.toList.reverse).read t
    rw [hname, List.cons_append, NameMode.read_step (fun h => absurd h hcomma) hstep, read_bare_append hs,
      List.reverse_cons]

theorem length_folded (s : String) : (folded s).toList.length = s.toList.length := by
  rw [folded, String.toList_ofList, List.length_map]

theorem length_le_replaced (name : List Char) : name.length ≤ (Text.replaced '"' ['"', '"'] name).length := by
  induction name with
  | nil => exact Nat.zero_le _
  | cons c name ih =>
    by_cases hc : c = '"'
    · subst hc
      exact Nat.le_succ_of_le (Nat.succ_le_succ ih)
    · rw [replaced_cons_of_ne hc]
      exact Nat.succ_le_succ ih

/-- A name is not longer than it is written. -/
theorem Part.length_denoted_le (p : Part) : p.denoted.toList.length ≤ p.sql.toList.length := by
  cases p with
  | bare name => exact Nat.le_of_eq (length_folded name)
  | quoted name =>
    show name.toList.length ≤ (quoteName name).toList.length
    rw [quoteName_eq, List.length_append, List.length_cons]
    have := length_le_replaced name.toList
    omega

/-- No blank ends a part. -/
theorem Part.Spelled.exists_last {p : Part} (hp : p.Spelled) : ∃ s d, p.sql.toList = s ++ [d] ∧ isBlank d = false := by
  cases p with
  | quoted name => exact ⟨'"' :: Text.replaced '"' ['"', '"'] name.toList, '"', quoteName_eq name, by decide⟩
  | bare name =>
    obtain ⟨c, rest, hname, hc, hrest⟩ := hp
    show ∃ s d, name.toList = s ++ [d] ∧ isBlank d = false
    have hall : ∀ d ∈ name.toList, isNameRest d := by
      rw [hname]
      exact List.forall_mem_cons.2 ⟨isNameRest_of_isNameStart hc, hrest⟩
    have hne : name.toList ≠ [] := by
      rw [hname]
      exact List.cons_ne_nil c rest
    exact ⟨_, _, (List.dropLast_concat_getLast hne).symm, (plain_of_isNameRest (hall _ (List.getLast_mem hne))).1⟩

/-! ## Blanks around a part -/

/-- Whether what stands around a text is blank for the database. -/
def PlainlySpaced (s : List Char) : Prop :=
  ∃ a b, s = a ++ trim s ++ b ∧ (∀ c ∈ a, isNameBlank c) ∧ ∀ c ∈ b, isNameBlank c

/-- Behind a part, what is read as its name ends with blanks of the database. -/
theorem blanks_of_read_mode {p : Part} {b : List Char} (hb : ∀ c ∈ b, isBlank c)
    (h : p.mode.read b = some [p.denoted]) : ∀ c ∈ b, isNameBlank c := by
  cases p with
  | quoted name =>
    refine NameMode.blanks_of_read_quoteEnd (fun hmem => ?_) h
    have := hb _ hmem
    revert this
    decide
  | bare name =>
    obtain ⟨u, post, rfl, hpost, hname⟩ := NameMode.exists_of_read_bare h
    have hlength := congrArg (·.toList.length) hname
    simp only [Part.denoted, length_folded, String.toList_ofList, List.reverse_reverse, List.length_append] at hlength
    obtain rfl := List.length_eq_zero_iff.1 (show u.length = 0 by omega)
    exact hpost

/-- A bare name that begins in front of a part goes on to its end. -/
theorem length_lt_of_read_bare {p : Part} (hp : p.Spelled) {x : Char} {a b : List Char} {k : String}
    (h : (NameMode.bare [x]).read (a ++ p.sql.toList ++ b) = some [k]) :
    p.sql.toList.length < k.toList.length := by
  obtain ⟨u, post, hsplit, hpost, rfl⟩ := NameMode.exists_of_read_bare h
  obtain ⟨s, d, hd, hblank⟩ := hp.exists_last
  have hlong : (a ++ p.sql.toList).length ≤ u.length := by
    rcases List.append_eq_append_iff.1 hsplit with ⟨l, hu, -⟩ | ⟨l, hu, hl⟩
    · rw [hu]
      exact (List.prefix_append _ l).length_le
    · -- what is left of the part would end with its last character, which is no blank
      rcases List.eq_nil_or_concat l with rfl | ⟨l, e, rfl⟩
      · rw [hu, List.append_nil]
      · rw [hd] at hu
        obtain rfl : d = e := by
          have hlast := congrArg List.getLast? hu
          simpa using hlast
        have hmem : d ∈ post := by
          rw [hl]
          simp
        rw [isBlank_of_isNameBlank (hpost d hmem)] at hblank
        cases hblank
  rw [length_folded, String.toList_ofList]
  simp only [List.length_append, List.length_reverse, List.length_singleton] at hlong ⊢
  omega

/-- A part between blanks is read as the name it stands for, exactly if the database knows them for blanks. -/
theorem names?_eq_iff {p : Part} (hp : p.Spelled) {s : List Char} (hs : trim s = p.sql.toList) :
    names? s = some [p.denoted] ↔ PlainlySpaced s := by
  constructor
  · intro h
    obtain ⟨a, b, hsplit, ha, hb⟩ := exists_blanks_trim s
    refine ⟨a, b, hsplit, ?_⟩
    rw [hs] at hsplit
    subst hsplit
    by_cases hfront : ∀ c ∈ a, isNameBlank c
    · unfold names? at h
      rw [List.append_assoc, NameMode.read_before_blanks hfront, read_part hp] at h
      exact ⟨hfront, blanks_of_read_mode hb h⟩
    · -- the first of the other blanks begins a name
      exfalso
      obtain ⟨x, rest, hrest⟩ := List.exists_cons_of_ne_nil (l := a.dropWhile isNameBlank)
        (fun hnil => hfront (List.dropWhile_eq_nil_iff.1 hnil))
      have hx : ¬ isNameBlank x := by
        have := List.head?_dropWhile_not isNameBlank a
        rw [hrest] at this
        simpa using this
      have hblank : isBlank x := ha x (List.dropWhile_suffix _ |>.subset (hrest ▸ List.mem_cons_self))
      have hstep : (NameMode.before true).step? x = some (.bare [x]) := by
        have hquote : x ≠ '"' := by
          rintro rfl
          revert hblank
          decide
        have hcomma : x ≠ ',' := by
          rintro rfl
          revert hblank
          decide
        simp only [NameMode.step?, hx, hquote, hcomma, Bool.false_eq_true, if_false]
      have htake : ∀ c ∈ a.takeWhile isNameBlank, isNameBlank c := List.all_eq_true.1 List.all_takeWhile
      unfold names? at h
      rw [← List.takeWhile_append_dropWhile (p := isNameBlank) (l := a), hrest, List.append_assoc, List.append_assoc,
        NameMode.read_before_blanks htake, List.cons_append, NameMode.read_step (fun _ => rfl) hstep,
        ← List.append_assoc] at h
      exact absurd (length_lt_of_read_bare hp h) (Nat.not_lt.2 p.length_denoted_le)
  · rintro ⟨a, b, hsplit, ha, hb⟩
    rw [hsplit, hs, names?, List.append_assoc, NameMode.read_before_blanks ha, read_part hp]
    exact NameMode.read_of_blanks p.name?_mode hb

end Sql

/-! ## What a scope searches -/

/-- The name of a schema is what a part of an identifier stands for, between blanks. -/
theorem exists_part_of_schemaName {text name : String} (h : schemaName text = .ok name) :
    ∃ p : Sql.Part, p.Spelled ∧ Text.trim text.toList = p.sql.toList ∧ name = p.denoted := by
  unfold schemaName at h
  split at h
  next => cases h
  next i hi =>
    obtain ⟨-, -, hall, htext⟩ := Sql.parts_of_parse hi
    have hsql : ∀ p : Sql.Part, i.parts = [p] → p.Spelled ∧ Text.trim text.toList = p.sql.toList := by
      intro p hp
      refine ⟨hall p (by rw [hp]; exact List.mem_singleton_self p), ?_⟩
      have hwritten : Sql.Identifier.sql i = p.sql := by
        unfold Sql.Identifier.sql
        rw [hp, List.map_cons, List.map_nil, String.intercalate_singleton]
      rw [← hwritten, ← htext]
      exact String.toList_ofList.symm
    split at h
    next bare hp =>
      obtain rfl := Except.ok.inj h
      exact ⟨.bare bare, (hsql _ hp).1, (hsql _ hp).2, rfl⟩
    next quoted hp =>
      obtain rfl := Except.ok.inj h
      exact ⟨.quoted quoted, (hsql _ hp).1, (hsql _ hp).2, rfl⟩
    next => cases h

/-- Schemas to search are written as a list of as many names, which are read back. -/
theorem Overrides.pathSql?_eq {o : Overrides} (h : o.schemas ≠ []) (isLocal : Bool) :
    ∃ list : String, o.pathSql? isLocal = some (setWord isLocal ++ " search_path=" ++ list ++ ";") ∧
      Sql.names? list.toList = some o.schemas := by
  refine ⟨",".intercalate (o.schemas.map Sql.quoteName), ?_, Sql.names_joined o.schemas⟩
  unfold pathSql?
  rw [if_neg (by simpa using h)]

/-- Identifiers are just the texts of the grammar without a NUL. What is read is written as the text, and what is
written is read back. Of the schemas that a scope is given, each is searched under one name, and that is the name
which the database reads in the text, exactly if it knows the blanks around it for blanks. -/
theorem identifiers_exact (text : String) (i : Sql.Identifier) (name : String) (texts names : List String)
    (o : Overrides) (isLocal : Bool) :
    ((∃ i, Sql.Identifier.parse text = .ok i) ↔ '\x00' ∉ text.toList ∧ Sql.IsSpelling text.toList) ∧
      (Sql.Identifier.parse text = .ok i → i.sql = text) ∧
      (i.parts ≠ [] → (∀ p ∈ i.parts, p.IsNamed) → Sql.Identifier.parse i.sql = .ok i) ∧
      (name ≠ "" → '\x00' ∉ name.toList → Sql.Identifier.parse (Sql.quoteName name) = .ok ⟨[.quoted name]⟩) ∧
      ((texts.mapM schemaName : Except Error _) = .ok names →
        let searched := (o.addSchemas names).2
        (texts ≠ [] → ∃ list : String,
          searched.pathSql? isLocal = some (Overrides.setWord isLocal ++ " search_path=" ++ list ++ ";") ∧
            Sql.names? list.toList = some searched.schemas) ∧
          (∀ name ∈ names, name ∈ searched.schemas ∧ Sql.names? (Sql.quoteName name).toList = some [name]) ∧
          List.Forall₂ (fun text name =>
            Sql.names? text.toList = some [name] ↔ Sql.PlainlySpaced text.toList) texts names) := by
  refine ⟨Sql.parse_iff, Sql.Identifier.sql_of_parse, Sql.Identifier.parse_sql_of_named, Sql.parse_quoteName, ?_⟩
  intro hnames searched
  have hall := forall₂_of_mapM hnames
  have hsearched : ∀ name ∈ names, name ∈ searched.schemas := by
    intro name hname
    refine (Overrides.mem_names_add (x := .path)).2 ?_
    by_cases hold : name ∈ o.names .path
    · exact .inl hold
    · exact .inr (Overrides.mem_added.2 ⟨hname, hold⟩)
  refine ⟨fun hne => Overrides.pathSql?_eq (fun hnone => ?_) isLocal, fun name hname => ⟨hsearched name hname, ?_⟩, ?_⟩
  · obtain ⟨name, rest, hsome⟩ := List.exists_cons_of_ne_nil (l := names) fun hnil => by
      rw [hnil] at hall
      exact hne (List.forall₂_nil_right_iff.1 hall)
    have hname := hsearched name (hsome ▸ List.mem_cons_self)
    rw [hnone] at hname
    cases hname
  · have hread := Sql.names_joined [name]
    rwa [List.map_cons, List.map_nil, String.intercalate_singleton] at hread
  · refine hall.imp fun text name htext => ?_
    obtain ⟨p, hp, htrim, rfl⟩ := exists_part_of_schemaName htext
    exact Sql.names?_eq_iff hp htrim

/-- One schema between blanks of the database and one behind a no-break space: of the first the database reads the
name that is searched, of the second it does not. -/
theorem identifiers_exact_spaced :
    let searched := (Overrides.addSchemas {} ["books", "Old \"books"]).2
    ([" Books\t", "\u00a0\"Old \"\"books\""].mapM schemaName : Except Error _) = .ok ["books", "Old \"books"] ∧
      (∃ list : String,
        searched.pathSql? false = some (Overrides.setWord false ++ " search_path=" ++ list ++ ";") ∧
          Sql.names? list.toList = some ["books", "Old \"books"]) ∧
      Sql.names? " Books\t".toList = some ["books"] ∧
      ¬ Sql.PlainlySpaced "\u00a0\"Old \"\"books\"".toList := by
  intro searched
  have hnames : ([" Books\t", "\u00a0\"Old \"\"books\""].mapM schemaName : Except Error _) =
      .ok ["books", "Old \"books"] := rfl
  obtain ⟨-, -, -, -, hsearched⟩ := identifiers_exact "" ⟨[]⟩ "" _ ["books", "Old \"books"] {} false
  obtain ⟨hlist, -, hspelled⟩ := hsearched hnames
  obtain ⟨hfirst, hrest⟩ := List.forall₂_cons.1 hspelled
  obtain ⟨hsecond, -⟩ := List.forall₂_cons.1 hrest
  have hspaced : Sql.PlainlySpaced " Books\t".toList := ⟨[' '], ['\t'], by decide, by decide, by decide⟩
  refine ⟨hnames, hlist (List.cons_ne_nil _ _), hfirst.2 hspaced, fun h => ?_⟩
  have hread := hsecond.2 h
  revert hread
  decide

/-- A no-break space is no blank for the database, which takes it for a part of the name behind it. -/
theorem noBreakSpace_left_out :
    ¬ ∀ text name, schemaName text = .ok name → Sql.names? text.toList = some [name] := by
  intro h
  have hname : schemaName "\u00a0books" = .ok "books" := rfl
  have hread : Sql.names? "\u00a0books".toList = some ["\u00a0books"] := by decide
  have hsame := (h _ _ hname).symm.trans hread
  revert hsame
  decide

end DeclaredTriggers
