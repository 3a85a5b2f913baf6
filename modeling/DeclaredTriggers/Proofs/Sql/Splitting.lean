import DeclaredTriggers.Sql.Scan

/-!
# Statements put one behind another

A batch is often made of texts that are put together: a preamble and the caller's own batch, or a
preamble between the first statement and the others. This file says when the scanner sees the same
statements in the whole as in the parts.

The notion it rests on is `isClosed`: no semicolon in the text ends a statement, and one right
behind it would. A closed text followed by a semicolon is then one segment, whatever follows:

> `segments_closed`: `segments (a ++ ';' :: b) = a :: segments b`.

The converse direction reads a cut back. The segments of a text in front of its last one are
closed (`exists_rest_of_segments`), so a batch cut behind its first statement can have anything put
in between:

> `statements_of_split`: where `splitStatement? s = some (head, rest)`, the text `head ++ t` has
> the first statement of `s` and then those of `t`, and `s` itself is the case `t = rest`.
-/

namespace DeclaredTriggers.Sql

open Text (trim trimStart trimEnd isBlank)

/-- What holds of each character of a text is decided along the text: an instance that runs
through all characters there are never gets to an answer. -/
instance (priority := high) decidableEachCharacter {P : Char → Prop} [DecidablePred P] (s : List Char) :
    Decidable (∀ c ∈ s, P c) := List.decidableBAll P s

/-! ## Texts without an end of statement -/

/-- The mode after a text in which no semicolon ends a statement; none if one does. -/
def Mode.through : Mode → List Char → Option Mode
  | m, [] => some m
  | m, c :: s => if c = ';' && m.isTop then none else (m.step c).through s

/-- Whether a text stays within one statement and a semicolon behind it would end that. -/
def isClosed (s : List Char) : Bool := (Mode.plain.through s).any Mode.isTop

theorem Mode.through_append (m : Mode) (a b : List Char) :
    m.through (a ++ b) = (m.through a).bind (·.through b) := by
  induction a generalizing m with
  | nil => rfl
  | cons c a ih =>
    simp only [List.cons_append, Mode.through]
    split
    next => rfl
    next => exact ih (m.step c)

/-- A text that no semicolon ends is a part of the first segment. -/
theorem segmentsFrom_append {m m' : Mode} {a : List Char} (h : m.through a = some m')
    (b : List Char) :
    segmentsFrom m (a ++ b) = (a ++ (segmentsFrom m' b).1, (segmentsFrom m' b).2) := by
  induction a generalizing m with
  | nil =>
    simp only [Mode.through, Option.some.injEq] at h
    subst h
    rfl
  | cons c a ih =>
    simp only [Mode.through] at h
    split at h
    next => cases h
    next hc =>
      simp only [List.cons_append, segmentsFrom, hc, if_false, Bool.false_eq_true]
      rw [ih h]

theorem segmentsFrom_semicolon {m : Mode} (h : m.isTop) (b : List Char) :
    segmentsFrom m (';' :: b) = ([], segments b) := by
  simp [segmentsFrom, h, segments]

/-- A closed text and the semicolon behind it are one segment. -/
theorem segments_closed {a : List Char} (h : isClosed a) (b : List Char) :
    segments (a ++ ';' :: b) = a :: segments b := by
  obtain ⟨m, hm, htop⟩ := (Option.any_eq_true _ _).1 h
  show (segmentsFrom .plain (a ++ ';' :: b)).1 :: (segmentsFrom .plain (a ++ ';' :: b)).2 = _
  rw [segmentsFrom_append hm, segmentsFrom_semicolon htop, List.append_nil]

/-- A text without an end of statement is its only segment. -/
theorem segments_of_through {a : List Char} {m : Mode} (h : Mode.plain.through a = some m) :
    segments a = [a] := by
  have := segmentsFrom_append h []
  rw [List.append_nil] at this
  simp [segments, this, segmentsFrom]

/-! ## Statements of texts put together -/

/-- The statement that a segment is, if it is not blank. -/
def statementOf (a : List Char) : List (List Char) := if (trim a).isEmpty then [] else [trim a]

theorem statements_closed {a : List Char} (h : isClosed a) (b : List Char) :
    statements (a ++ ';' :: b) = statementOf a ++ statements b := by
  unfold statements statementOf
  rw [segments_closed h, List.map_cons, List.filter_cons]
  cases (trim a).isEmpty <;> rfl

theorem statements_of_through {a : List Char} {m : Mode} (h : Mode.plain.through a = some m) :
    statements a = statementOf a := by
  unfold statements statementOf
  rw [segments_of_through h, List.map_cons, List.map_nil, List.filter_cons]
  cases (trim a).isEmpty <;> rfl

theorem statements_nil : statements [] = [] := rfl

/-! ## Cutting a batch behind its first statement -/

/-- What stands in front of a semicolon that ends a statement is closed. -/
theorem exists_rest_of_segmentsFrom {m : Mode} {s t u : List Char} {others : List (List Char)}
    (h : segmentsFrom m s = (t, u :: others)) :
    (m.through t).any Mode.isTop ∧
      ∃ rest, s = t ++ ';' :: rest ∧ segments rest = u :: others := by
  induction s generalizing m t with
  | nil => simp [segmentsFrom] at h
  | cons c s ih =>
    simp only [segmentsFrom] at h
    split at h
    next hc =>
      obtain ⟨rfl, htop⟩ : c = ';' ∧ m.isTop := by simpa using hc
      simp only [Prod.mk.injEq] at h
      obtain ⟨rfl, h⟩ := h
      exact ⟨by simpa [Mode.through] using htop, s, rfl, h⟩
    next hc =>
      simp only [Prod.mk.injEq] at h
      obtain ⟨rfl, h⟩ := h
      obtain ⟨hclosed, rest, hs, hrest⟩ := ih (Prod.ext rfl h)
      refine ⟨?_, rest, by rw [List.cons_append, ← hs], hrest⟩
      simp only [Mode.through, hc, Bool.false_eq_true, if_false]
      exact hclosed

theorem exists_rest_of_segments {s t u : List Char} {others : List (List Char)}
    (h : segments s = t :: u :: others) :
    isClosed t ∧ ∃ rest, s = t ++ ';' :: rest ∧ segments rest = u :: others := by
  simp only [segments, List.cons.injEq] at h
  exact exists_rest_of_segmentsFrom (Prod.ext h.1 h.2)

/-- A batch cut behind its first statement: what is put behind the cut does not change it. -/
theorem statements_of_splitSegments {segs : List (List Char)} {s head : List Char}
    {others : List (List Char)} (hs : segments s = segs)
    (h : splitSegments segs = some (head, others)) :
    ∃ first, (∀ t, statements (head ++ t) = first :: statements t) ∧
      statements s = first :: statements (joinSegments others) := by
  induction segs generalizing s head with
  | nil => simp [splitSegments] at h
  | cons t segs ih =>
    match segs, h with
    | u :: tail, h =>
      obtain ⟨hclosed, rest, rfl, hrest⟩ := exists_rest_of_segments hs
      simp only [splitSegments] at h
      split at h
      next hblank =>
        -- a blank segment in front adds no statement
        obtain ⟨⟨head', others'⟩, hsplit, he⟩ := Option.map_eq_some_iff.1 h
        simp only [Prod.mk.injEq] at he
        obtain ⟨rfl, rfl⟩ := he
        obtain ⟨first, hput, hall⟩ := ih hrest hsplit
        refine ⟨first, fun x => ?_, ?_⟩
        · rw [List.append_assoc, List.cons_append, statements_closed hclosed, hput x]
          simp [statementOf, hblank]
        · rw [statements_closed hclosed, hall]
          simp [statementOf, hblank]
      next hfull =>
        simp only [Option.some.injEq, Prod.mk.injEq] at h
        obtain ⟨rfl, rfl⟩ := h
        refine ⟨trim t, fun x => ?_, ?_⟩
        · rw [List.append_assoc, List.singleton_append, statements_closed hclosed]
          simp [statementOf, hfull]
        · rw [statements_closed hclosed, ← hrest, join_segments]
          simp [statementOf, hfull]

/-- Whatever is put behind the first statement of a batch, that statement stays the first. -/
theorem statements_of_split {s head rest : List Char} (h : splitStatement? s = some (head, rest)) :
    ∃ first, (∀ t, statements (head ++ t) = first :: statements t) ∧
      statements s = first :: statements rest := by
  unfold splitStatement? at h
  split at h
  next head' others hsplit =>
    simp only at h
    split at h
    next => cases h
    next =>
      simp only [Option.some.injEq, Prod.mk.injEq] at h
      obtain ⟨rfl, rfl⟩ := h
      exact statements_of_splitSegments rfl hsplit
  next => cases h

/-- The two sides of a cut are the batch. -/
theorem append_of_split {s head rest : List Char} (h : splitStatement? s = some (head, rest)) :
    head ++ rest = s := by
  have hjoin : ∀ {segs : List (List Char)} {head : List Char} {others : List (List Char)},
      splitSegments segs = some (head, others) → head ++ joinSegments others = joinSegments segs := by
    intro segs
    induction segs with
    | nil => intro head others h; cases h
    | cons t segs ih =>
      intro head others h
      match segs, h with
      | u :: tail, h =>
        simp only [splitSegments] at h
        split at h
        next =>
          obtain ⟨⟨head', others'⟩, hsplit, he⟩ := Option.map_eq_some_iff.1 h
          cases he
          have := ih hsplit
          rw [List.append_assoc, List.cons_append, this]
          rfl
        next =>
          cases h
          rw [List.append_assoc, List.singleton_append]
          rfl
  unfold splitStatement? at h
  split at h
  next head' others hsplit =>
    simp only at h
    split at h
    next => cases h
    next =>
      cases h
      rw [hjoin hsplit, join_segments]
  next => cases h

/-- A batch that is a single segment is not cut. -/
theorem splitStatement?_of_segments {s t : List Char} (h : segments s = [t]) :
    splitStatement? s = none := by
  simp [splitStatement?, h, splitSegments]

end DeclaredTriggers.Sql
