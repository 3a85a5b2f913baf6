import DeclaredTriggers.Proofs.Sql.Splitting
import Mathlib.Data.List.DropRight

/-!
# Array literals

How Postgres reads an array of texts that is written as a string literal: the literal's quotes come
off first (`literalText?`), and what is between the braces is cut at its commas (`arrayElements?`).
An element may stand in double quotes; without them it ends where its last character is that is no
blank, and is null if it says so. Arrays of one dimension are read, and those of more are not.

> `elements_joined`: texts joined by commas between braces are read back without the blanks around them.
>
> `elements_literal`: texts of bare characters, joined by commas between braces and quotes, are read
> back as they are.
-/

namespace DeclaredTriggers.Sql

/-! ## String literals -/

/-- What stands between the quotes of a string literal, behind the first. -/
def literalRest? : List Char → Option (List Char)
  | [] => none
  | ['\''] => some []
  | '\'' :: '\'' :: s => (literalRest? s).map ('\'' :: ·)
  | '\'' :: _ :: _ => none
  | c :: s => (literalRest? s).map (c :: ·)

/-- The text that a string literal stands for. -/
def literalText? : List Char → Option (List Char)
  | '\'' :: s => literalRest? s
  | _ => none

theorem literalRest?_append {s : List Char} (h : '\'' ∉ s) : literalRest? (s ++ ['\'']) = some s := by
  induction s with
  | nil => rfl
  | cons c s ih =>
    have hc : c ≠ '\'' := fun hc => h (hc ▸ List.mem_cons_self)
    have hs : '\'' ∉ s := fun hs => h (List.mem_cons_of_mem _ hs)
    have hcons : literalRest? (c :: (s ++ ['\''])) = (literalRest? (s ++ ['\''])).map (c :: ·) := by
      rw [literalRest?]
      · exact fun heq => absurd heq hc
      · exact fun _ heq => absurd heq hc
      · exact fun _ _ heq => absurd heq hc
    rw [List.cons_append, hcons, ih hs]
    rfl

/-! ## Arrays -/

/-- The blanks between the elements of an array. -/
def isArrayBlank (c : Char) : Bool := c = ' ' || (9 ≤ c.toNat && c.toNat ≤ 13)

/-- Where the reader of an array literal is. A text in it has its last character first. -/
inductive ArrayMode where
  /-- In front of an element, or of the end if there is none yet. -/
  | before (mayEnd : Bool)
  /-- In an element without quotes, behind some blanks. -/
  | bare (text blanks : List Char) (escaped : Bool)
  /-- Behind a backslash in such an element. -/
  | bareEscape (text : List Char)
  | quoted (text : List Char)
  | quotedEscape (text : List Char)
  /-- Behind the quotes of an element. -/
  | closed (text : List Char)
  /-- Behind the array. -/
  | done

namespace ArrayMode

/-- The element that would end here; `some none` is null. -/
def element? : ArrayMode → Option (Option String)
  | bare text _ escaped =>
    if !escaped && text.reverse.map Char.toLower = "null".toList then some none
    else some (some (String.ofList text.reverse))
  | closed text => some (some (String.ofList text.reverse))
  | before _ | bareEscape _ | quoted _ | quotedEscape _ | done => none

/-- The element that a character ends, and where the reader is then. -/
def ended? (m : ArrayMode) (c : Char) : Option (Option String × ArrayMode) :=
  if c = ',' then m.element?.map fun e => (e, before false)
  else if c = '\x7d' then m.element?.map fun e => (e, done)
  else none

/-- Where the reader is after a character that ends no element. -/
def step? : ArrayMode → Char → Option ArrayMode
  | before mayEnd, c =>
    if isArrayBlank c then some (before mayEnd)
    else if c = '"' then some (quoted [])
    else if c = '\\' then some (bareEscape [])
    else if c = '\x7d' then if mayEnd then some done else none
    else if c = '\x7b' || c = ',' then none
    else some (bare [c] [] false)
  | bare text blanks escaped, c =>
    if isArrayBlank c then some (bare text (c :: blanks) escaped)
    else if c = '\\' then some (bareEscape (blanks ++ text))
    else if c = '\x7b' || c = '"' then none
    else some (bare (c :: (blanks ++ text)) [] escaped)
  | bareEscape text, c => some (bare (c :: text) [] true)
  | quoted text, c =>
    if c = '"' then some (closed text)
    else if c = '\\' then some (quotedEscape text)
    else some (quoted (c :: text))
  | quotedEscape text, c => some (quoted (c :: text))
  | closed text, c => if isArrayBlank c then some (closed text) else none
  | done, c => if isArrayBlank c then some done else none

/-- The elements that are still to come. -/
def read : ArrayMode → List Char → Option (List (Option String))
  | done, [] => some []
  | _, [] => none
  | m, c :: s =>
    match m.ended? c with
    | some (e, next) => (next.read s).map (e :: ·)
    | none =>
      match m.step? c with
      | some next => next.read s
      | none => none

end ArrayMode

/-- The elements of an array literal; null ones are none. -/
def arrayElements? (s : List Char) : Option (List (Option String)) :=
  match s.dropWhile isArrayBlank with
  | '\x7b' :: s => (ArrayMode.before true).read s
  | _ => none

/-! ## Elements without quotes -/

/-- Whether a character stands for itself in an element without quotes, wherever it stands. -/
def isBare (c : Char) : Bool :=
  !(isArrayBlank c || c = '"' || c = '\\' || c = '\x7d' || c = '\x7b' || c = ',')

/-- A text that is read back as it is. -/
structure Bare (id : String) : Prop where
  nonempty : id.toList ≠ []
  isBare : ∀ c ∈ id.toList, isBare c
  not_null : id.toList.map Char.toLower ≠ "null".toList

/-- A text without the blanks around it. -/
def unpadded (s : List Char) : List Char := (s.dropWhile isArrayBlank).rdropWhile isArrayBlank

/-- A text that is read back without the blanks around it. -/
structure Padded (id : String) : Prop where
  isBare : ∀ c ∈ id.toList, isArrayBlank c ∨ isBare c
  nonempty : unpadded id.toList ≠ []
  not_null : (unpadded id.toList).map Char.toLower ≠ "null".toList

theorem isArrayBlank_of_isBare {c : Char} (h : isBare c) : isArrayBlank c = false := by
  simp only [isBare, Bool.not_eq_true', Bool.or_eq_false_iff] at h
  exact h.1.1.1.1.1

theorem unpadded_of_isBare {s : List Char} (h : ∀ c ∈ s, isBare c) : unpadded s = s := by
  have hkeep : ∀ t : List Char, (∀ c ∈ t, isBare c) → t.dropWhile isArrayBlank = t := by
    intro t ht
    cases t with
    | nil => rfl
    | cons c t => rw [List.dropWhile_cons_of_neg (by simp [isArrayBlank_of_isBare (ht c List.mem_cons_self)])]
  unfold unpadded List.rdropWhile
  rw [hkeep s h, hkeep _ fun c hc => h c (List.mem_reverse.1 hc), List.reverse_reverse]

theorem Bare.padded {id : String} (h : Bare id) : Padded id := by
  have hsame := unpadded_of_isBare h.isBare
  exact ⟨fun c hc => .inr (h.isBare c hc), hsame.symm ▸ h.nonempty, hsame.symm ▸ h.not_null⟩

namespace ArrayMode

/-- In an element without quotes, of which all of `w` has been read; the last character comes first. -/
def within (w : List Char) : ArrayMode := bare (w.dropWhile isArrayBlank) (w.takeWhile isArrayBlank) false

/-- Neither a blank nor a bare character ends an element. -/
theorem ended?_eq_none {c : Char} (h : isArrayBlank c ∨ isBare c) (m : ArrayMode) : m.ended? c = none := by
  have hc : c ≠ ',' ∧ c ≠ '\x7d' := by
    rcases h with h | h
    · constructor <;> (rintro rfl; exact absurd h (by decide))
    · simp only [isBare, Bool.not_eq_true', Bool.or_eq_false_iff, decide_eq_false_iff_not] at h
      exact ⟨h.2, h.1.1.2⟩
  rw [ended?, if_neg hc.1, if_neg hc.2]

theorem read_step {m next : ArrayMode} {c : Char} (h : isArrayBlank c ∨ isBare c) (hstep : m.step? c = some next)
    (s : List Char) : m.read (c :: s) = next.read s := by
  rw [read, ended?_eq_none h, hstep]

theorem step?_before {c : Char} (h : isBare c) (mayEnd : Bool) : (before mayEnd).step? c = some (within [c]) := by
  have hblank := isArrayBlank_of_isBare h
  simp only [isBare, Bool.not_eq_true', Bool.or_eq_false_iff, decide_eq_false_iff_not] at h
  obtain ⟨⟨⟨⟨⟨-, hquote⟩, hescape⟩, hclose⟩, hopen⟩, hcomma⟩ := h
  simp [step?, within, hblank, hquote, hescape, hclose, hopen, hcomma]

theorem step?_within {c : Char} (h : isArrayBlank c ∨ isBare c) (w : List Char) :
    (within w).step? c = some (within (c :: w)) := by
  by_cases hblank : isArrayBlank c
  · simp [within, step?, hblank]
  · have hbare := h.resolve_left hblank
    simp only [isBare, Bool.not_eq_true', Bool.or_eq_false_iff, decide_eq_false_iff_not] at hbare
    obtain ⟨⟨⟨⟨⟨-, hquote⟩, hescape⟩, hclose⟩, hopen⟩, hcomma⟩ := hbare
    simp [within, step?, hblank, hquote, hescape, hopen, List.takeWhile_append_dropWhile]

/-- Blanks in front of an element are passed over. -/
theorem read_blanks {b : List Char} (h : ∀ c ∈ b, isArrayBlank c) (mayEnd : Bool) (s : List Char) :
    (before mayEnd).read (b ++ s) = (before mayEnd).read s := by
  induction b with
  | nil => rfl
  | cons c b ih =>
    have hc := h c List.mem_cons_self
    have hstep : (before mayEnd).step? c = some (before mayEnd) := if_pos hc
    rw [List.cons_append, read_step (.inl hc) hstep, ih fun d hd => h d (List.mem_cons_of_mem _ hd)]

/-- The characters of an element are taken as they come. -/
theorem read_within {cs : List Char} (h : ∀ c ∈ cs, isArrayBlank c ∨ isBare c) (w s : List Char) :
    (within w).read (cs ++ s) = (within (cs.reverse ++ w)).read s := by
  induction cs generalizing w with
  | nil => rfl
  | cons c cs ih =>
    have hc := h c List.mem_cons_self
    rw [List.cons_append, read_step hc (step?_within hc w), ih fun d hd => h d (List.mem_cons_of_mem _ hd)]
    simp

/-- An element with blanks around it, and the character that ends it. -/
theorem read_element {id : String} (h : Padded id) {c : Char} {next : ArrayMode}
    (hends : ∀ m : ArrayMode, m.ended? c = m.element?.map fun e => (e, next)) (mayEnd : Bool) (s : List Char) :
    (before mayEnd).read (id.toList ++ c :: s) =
      (next.read s).map (some (String.ofList (unpadded id.toList)) :: ·) := by
  have hblanks : ∀ d ∈ id.toList.takeWhile isArrayBlank, isArrayBlank d := fun d hd => List.mem_takeWhile_imp hd
  have hmem : ∀ d ∈ id.toList.dropWhile isArrayBlank, d ∈ id.toList :=
    fun d hd => (List.dropWhile_suffix _).subset hd
  obtain ⟨first, others, hrest⟩ : ∃ first others, id.toList.dropWhile isArrayBlank = first :: others := by
    refine List.exists_cons_of_ne_nil fun hnil => h.nonempty ?_
    rw [unpadded, hnil, List.rdropWhile_nil]
  have hfirst : isBare first := by
    refine (h.isBare first (hmem first (hrest ▸ List.mem_cons_self))).resolve_left ?_
    have hhead := List.head_dropWhile_not isArrayBlank (l := id.toList) (by rw [hrest]; simp)
    simpa [hrest] using hhead
  have hothers : ∀ d ∈ others, isArrayBlank d ∨ isBare d :=
    fun d hd => h.isBare d (hmem d (hrest ▸ List.mem_cons_of_mem _ hd))
  have hreverse : ((others.reverse ++ [first]).dropWhile isArrayBlank).reverse = unpadded id.toList := by
    rw [unpadded, hrest, List.rdropWhile, List.reverse_cons]
  have helement : (within (others.reverse ++ [first])).ended? c =
      some (some (String.ofList (unpadded id.toList)), next) := by
    rw [hends]
    simp only [within, element?, hreverse]
    rw [if_neg (by simpa using h.not_null)]
    rfl
  rw [← List.takeWhile_append_dropWhile (p := isArrayBlank) (l := id.toList), List.append_assoc,
    read_blanks hblanks, List.takeWhile_append_dropWhile, hrest, List.cons_append,
    read_step (.inr hfirst) (step?_before hfirst mayEnd), read_within hothers, read, helement]

theorem read_joined {ids : List String} (h : ∀ id ∈ ids, Padded id) :
    (before true).read ((",".intercalate ids).toList ++ ['\x7d']) =
      some (ids.map fun id => some (String.ofList (unpadded id.toList))) := by
  have hcomma : ∀ m : ArrayMode, m.ended? ',' = m.element?.map fun e => (e, before false) :=
    fun m => if_pos rfl
  have hbrace : ∀ m : ArrayMode, m.ended? '\x7d' = m.element?.map fun e => (e, done) :=
    fun m => (if_neg (by decide)).trans (if_pos rfl)
  have hsome : ∀ (id : String) (ids : List String) (mayEnd : Bool), (∀ t ∈ id :: ids, Padded t) →
      (before mayEnd).read ((",".intercalate (id :: ids)).toList ++ ['\x7d']) =
        some ((id :: ids).map fun id => some (String.ofList (unpadded id.toList))) := by
    intro id ids mayEnd h
    induction ids generalizing id mayEnd with
    | nil =>
      rw [String.intercalate_singleton, read_element (h id List.mem_cons_self) hbrace]
      rfl
    | cons next ids ih =>
      rw [String.intercalate_cons_cons, String.toList_append, String.toList_append,
        List.append_assoc, List.append_assoc, show ",".toList = [','] from rfl,
        List.singleton_append, read_element (h id List.mem_cons_self) hcomma,
        ih next false fun t ht => h t (List.mem_cons_of_mem _ ht)]
      rfl
  cases ids with
  | nil => decide
  | cons id ids => exact hsome id ids true h

end ArrayMode

/-- Texts with blanks around them, joined by commas between braces, are read back without these blanks. -/
theorem elements_joined {ids : List String} (h : ∀ id ∈ ids, Padded id) :
    arrayElements? ('\x7b' :: (",".intercalate ids).toList ++ ['\x7d']) =
      some (ids.map fun id => some (String.ofList (unpadded id.toList))) :=
  ArrayMode.read_joined h

/-- Bare texts, joined by commas between braces and quotes, are read back as they are. -/
theorem elements_literal {ids : List String} (h : ∀ id ∈ ids, Bare id)
    (hquote : '\'' ∉ '\x7b' :: (",".intercalate ids).toList ++ ['\x7d']) :
    (literalText? ('\'' :: ('\x7b' :: (",".intercalate ids).toList ++ ['\x7d']) ++ ['\''])).bind
      arrayElements? = some (ids.map some) := by
  have hsame : ∀ id ∈ ids, some (String.ofList (unpadded id.toList)) = some id := fun id hid => by
    rw [unpadded_of_isBare (h id hid).isBare, String.ofList_toList]
  show (literalRest? (('\x7b' :: (",".intercalate ids).toList ++ ['\x7d']) ++ ['\''])).bind
    arrayElements? = _
  rw [literalRest?_append hquote, Option.bind_some, elements_joined fun id hid => (h id hid).padded,
    List.map_congr_left hsame]

end DeclaredTriggers.Sql
