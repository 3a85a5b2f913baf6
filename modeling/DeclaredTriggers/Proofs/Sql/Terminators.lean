import DeclaredTriggers.Proofs.Sql.Concurrent
import DeclaredTriggers.Proofs.Sql.Passages
import DeclaredTriggers.Text.Bytes

/-!
# Where statements end

A statement ends at a semicolon, and its place is an offset in bytes (`terminators`). A batch is cut at these places,
and the statements are the parts that are not blank:

> `mem_terminators_iff`: statements end at the semicolons with a whole text in front of them, and nowhere else.
>
> `cutFrom_terminators`: the segments of a text are its parts between these places.

At such a place the scanner is in the middle of nothing, or in a mode that a semicolon takes it out of, so that it
goes on as at the beginning of a text (`Mode.step_semicolon`). This makes splitting compositional:

> `segments_append`: behind a whole text and a semicolon, the segments are those of what follows.
>
> `statements_statement`: no statement is split again.
>
> `splitting_exact`: all of this together, and what it says of a batch that is cut behind its first statement.
-/

namespace DeclaredTriggers

namespace Text

theorem trimStart_trim (s : List Char) : trimStart (trim s) = trim s := by
  cases htrim : trim s with
  | nil => rfl
  | cons c rest =>
    obtain ⟨more, hmore⟩ := Sql.trimEnd_leads (trimStart s)
    have hhead : (s.dropWhile isBlank).head? = some c := by
      show (trimStart s).head? = some c
      rw [← hmore, show trimEnd (trimStart s) = c :: rest from htrim]
      rfl
    have hblank := List.head?_dropWhile_not isBlank s
    rw [hhead] at hblank
    exact List.dropWhile_cons_of_neg (by simpa using hblank)

/-- A text that has been trimmed has no blanks to lose. -/
theorem trim_trim (s : List Char) : trim (trim s) = trim s := by
  show trimEnd (trimStart (trim s)) = _
  rw [trimStart_trim]
  exact trimEnd_trimEnd (trimStart s)

end Text

namespace Sql

open Text (isBlank trim byteLength takeBytes)

/-! ## Places in a text -/

/-- What stands between two offsets. -/
def between (start stop : Nat) (s : List Char) : List Char :=
  takeBytes (stop - start) (s.drop (takeBytes start s).length)

/-- The parts of a text from an offset on, cut at one-byte characters. -/
def cutFrom (start : Nat) (s : List Char) : List Nat → List (List Char)
  | [] => [between start (byteLength s) s]
  | stop :: stops => between start stop s :: cutFrom (stop + 1) s stops

/-- Where statements end in a text that begins at `place`. -/
def terminatorsFrom (m : Mode) (place : Nat) : List Char → List Nat
  | [] => []
  | c :: s =>
    if c = ';' && m.isTop then place :: terminatorsFrom .plain (place + c.utf8Size) s
    else terminatorsFrom (m.step c) (place + c.utf8Size) s

/-- Where the statements of a text end. -/
def terminators (s : List Char) : List Nat := terminatorsFrom .plain 0 s

theorem between_append (a b c : List Char) :
    between (byteLength a) (byteLength a + byteLength b) (a ++ (b ++ c)) = b := by
  rw [between, Text.takeBytes_byteLength, List.drop_left, Nat.add_sub_cancel_left, Text.takeBytes_byteLength]

/-- A text is cut where statements end, and `b` is what has been read of the first part. -/
theorem cutFrom_terminatorsFrom (m : Mode) (a b s : List Char) :
    cutFrom (byteLength a) (a ++ (b ++ s)) (terminatorsFrom m (byteLength a + byteLength b) s) =
      (b ++ (segmentsFrom m s).1) :: (segmentsFrom m s).2 := by
  induction s generalizing m a b with
  | nil =>
    have hlength : byteLength (a ++ (b ++ [])) = byteLength a + byteLength b := by
      rw [List.append_nil, Text.byteLength_append]
    show [between _ (byteLength (a ++ (b ++ []))) _] = [b ++ []]
    rw [hlength, between_append, List.append_nil]
  | cons c s ih =>
    simp only [terminatorsFrom, segmentsFrom]
    split
    next hc =>
      obtain ⟨rfl, -⟩ : c = ';' ∧ m.isTop := by simpa using hc
      have hplace : byteLength (a ++ (b ++ [';'])) = byteLength a + byteLength b + 1 := by
        rw [Text.byteLength_append, Text.byteLength_append, ← Nat.add_assoc]
        rfl
      have htext : a ++ (b ++ [';']) ++ ([] ++ s) = a ++ (b ++ ';' :: s) := by simp
      have hrest := ih .plain (a ++ (b ++ [';'])) []
      rw [hplace, htext] at hrest
      rw [cutFrom, between_append, List.append_nil]
      exact congrArg (b :: ·) hrest
    next =>
      have hrest := ih (m.step c) a (b ++ [c])
      rw [Text.byteLength_append, ← Nat.add_assoc, List.append_assoc, List.append_assoc] at hrest
      exact hrest

/-- The segments of a text are its parts between the places where statements end. -/
theorem cutFrom_terminators (s : List Char) : cutFrom 0 s (terminators s) = segments s :=
  cutFrom_terminatorsFrom .plain [] [] s

/-! ## Behind the end of a statement -/

/-- Where a semicolon ends a statement, the scanner is in the middle of nothing behind it. -/
theorem Mode.step_semicolon {m : Mode} (hm : m.IsReal) (htop : m.isTop) : m.step ';' = .plain := by
  cases m with
  | plain | dash | slash | tag _ => rfl
  | quoteEnd q => rcases hm with rfl | rfl <;> rfl
  | quoted _ | line | block | blockStar | body _ _ => cases htop

section

variable {m : Mode} (hm : m.IsReal)

include hm

theorem terminatorsFrom_cons (place : Nat) (c : Char) (s : List Char) :
    terminatorsFrom m place (c :: s) =
      (if c = ';' && m.isTop then [place] else []) ++ terminatorsFrom (m.step c) (place + c.utf8Size) s := by
  rw [terminatorsFrom]
  split
  next hc =>
    obtain ⟨rfl, htop⟩ : c = ';' ∧ m.isTop := by simpa using hc
    rw [Mode.step_semicolon hm htop]
    rfl
  next => rfl

/-- Statements end in the second of two texts where the scanner goes on from the first. -/
theorem terminatorsFrom_append (place : Nat) (a b : List Char) :
    terminatorsFrom m place (a ++ b) =
      terminatorsFrom m place a ++ terminatorsFrom (m.run a) (place + byteLength a) b := by
  induction a generalizing m place with
  | nil => rfl
  | cons c a ih =>
    rw [List.cons_append, terminatorsFrom_cons hm, terminatorsFrom_cons hm, ih (Mode.isReal_step hm c),
      List.append_assoc, byteLength, Nat.add_assoc]
    rfl

theorem mem_terminatorsFrom_iff {place i : Nat} {s : List Char} :
    i ∈ terminatorsFrom m place s ↔ ∃ a b, s = a ++ ';' :: b ∧ i = place + byteLength a ∧ (m.run a).isTop := by
  constructor
  · intro h
    induction s generalizing m place with
    | nil => cases h
    | cons c s ih =>
      rw [terminatorsFrom_cons hm, List.mem_append] at h
      rcases h with h | h
      · split at h
        next hc =>
          obtain ⟨rfl, htop⟩ : c = ';' ∧ m.isTop := by simpa using hc
          exact ⟨[], s, rfl, List.mem_singleton.1 h, htop⟩
        next => cases h
      · obtain ⟨a, b, rfl, rfl, htop⟩ := ih (Mode.isReal_step hm c) h
        exact ⟨c :: a, b, rfl, Nat.add_assoc .., htop⟩
  · rintro ⟨a, b, rfl, rfl, htop⟩
    rw [terminatorsFrom_append hm, terminatorsFrom, if_pos (by simpa using htop)]
    exact List.mem_append_right _ List.mem_cons_self

theorem pairwise_terminatorsFrom (place : Nat) (s : List Char) : (terminatorsFrom m place s).Pairwise (· < ·) := by
  induction s generalizing m place with
  | nil => exact .nil
  | cons c s ih =>
    have hrest := ih (Mode.isReal_step hm c) (place + c.utf8Size)
    rw [terminatorsFrom_cons hm]
    split
    next =>
      refine List.pairwise_cons.2 ⟨fun i hi => ?_, hrest⟩
      obtain ⟨a, b, -, rfl, -⟩ := (mem_terminatorsFrom_iff (Mode.isReal_step hm c)).1 hi
      have := c.utf8Size_pos
      omega
    next => exact hrest

/-- Behind a semicolon that ends a statement, the text is cut as if it began there. -/
theorem segmentsFrom_append_semicolon {a : List Char} (htop : (m.run a).isTop) (b : List Char) :
    segmentsFrom m (a ++ ';' :: b) = ((segmentsFrom m a).1, (segmentsFrom m a).2 ++ segments b) := by
  induction a generalizing m with
  | nil => exact segmentsFrom_semicolon htop b
  | cons c a ih =>
    simp only [List.cons_append, segmentsFrom]
    split
    next hc =>
      obtain ⟨rfl, hm'⟩ : c = ';' ∧ m.isTop := by simpa using hc
      have hplain : Mode.plain.run a = m.run (';' :: a) := congrArg (Mode.run · a) (Mode.step_semicolon hm hm').symm
      rw [ih (m := .plain) trivial (hplain ▸ htop)]
      rfl
    next => rw [ih (Mode.isReal_step hm c) htop]

end

/-- Statements end at the semicolons with a whole text in front of them. -/
theorem mem_terminators_iff {i : Nat} {s : List Char} :
    i ∈ terminators s ↔ ∃ a b, s = a ++ ';' :: b ∧ i = byteLength a ∧ Whole a := by
  rw [terminators, mem_terminatorsFrom_iff (m := .plain) trivial]
  simp only [whole_iff, Nat.zero_add]

/-- A text is whole if a semicolon behind it is the last place where a statement ends. -/
theorem getLast?_terminators_iff {a : List Char} :
    (terminators (a ++ [';'])).getLast? = some (byteLength a) ↔ Whole a := by
  constructor
  · intro h
    obtain ⟨p, b, ha, hp, hwhole⟩ := mem_terminators_iff.1 (List.mem_of_getLast? h)
    -- the text in front of that semicolon is as long as `a`
    rw [← Text.takeBytes_byteLength a [';'], hp, ha, Text.takeBytes_byteLength]
    exact hwhole
  · intro h
    have htop := whole_iff.1 h
    rw [terminators, terminatorsFrom_append (m := .plain) trivial, terminatorsFrom, if_pos (by simpa using htop)]
    simp [terminatorsFrom]

/-- Behind a whole text and a semicolon, the segments are those of what follows. -/
theorem segments_append {a : List Char} (h : Whole a) (b : List Char) :
    segments (a ++ ';' :: b) = segments a ++ segments b := by
  show (segmentsFrom .plain (a ++ ';' :: b)).1 :: (segmentsFrom .plain (a ++ ';' :: b)).2 = _
  rw [segmentsFrom_append_semicolon (m := .plain) trivial (whole_iff.1 h)]
  rfl

theorem statements_append {a : List Char} (h : Whole a) (b : List Char) :
    statements (a ++ ';' :: b) = statements a ++ statements b := by
  unfold statements
  rw [segments_append h, List.map_append, List.filter_append]

/-! ## Statements on their own -/

theorem isSome_through_segmentsFrom (m : Mode) (s : List Char) :
    (m.through (segmentsFrom m s).1).isSome ∧ ∀ t ∈ (segmentsFrom m s).2, (Mode.plain.through t).isSome := by
  induction s generalizing m with
  | nil => exact ⟨rfl, nofun⟩
  | cons c s ih =>
    simp only [segmentsFrom]
    split
    next => exact ⟨rfl, List.forall_mem_cons.2 (ih .plain)⟩
    next hc =>
      obtain ⟨hfirst, hothers⟩ := ih (m.step c)
      refine ⟨?_, hothers⟩
      rw [Mode.through, if_neg hc]
      exact hfirst

/-- No semicolon in a segment ends a statement. -/
theorem isSome_through_of_mem_segments {t s : List Char} (h : t ∈ segments s) : (Mode.plain.through t).isSome := by
  obtain ⟨hfirst, hothers⟩ := isSome_through_segmentsFrom .plain s
  rcases List.mem_cons.1 h with rfl | h
  · exact hfirst
  · exact hothers t h

theorem through_blanks {b : List Char} (h : ∀ c ∈ b, isBlank c) : Mode.plain.through b = some .plain := by
  induction b with
  | nil => rfl
  | cons c b ih =>
    obtain ⟨hc, hb⟩ := List.forall_mem_cons.1 h
    have hother : ∀ d, isBlank d = false → c ≠ d := by
      rintro d hd rfl
      rw [hd] at hc
      cases hc
    have hstart : Mode.start c = .plain := by
      have hquotes : ¬(c = '\'' || c = '"') := by simp [hother '\'' (by decide), hother '"' (by decide)]
      rw [Mode.start, if_neg hquotes, if_neg (hother '-' (by decide)), if_neg (hother '/' (by decide)),
        if_neg (hother '$' (by decide))]
    rw [Mode.through, if_neg (by simp [hother ';' (by decide)])]
    show (Mode.start c).through b = _
    rw [hstart, ih hb]

/-- What is left of a segment without blanks at its ends is still one. -/
theorem exists_through_trim {t : List Char} (h : (Mode.plain.through t).isSome) :
    ∃ m, Mode.plain.through (trim t) = some m := by
  obtain ⟨a, b, ht, ha, -⟩ := exists_blanks_trim t
  rw [ht, List.append_assoc, Mode.through_append, through_blanks ha, Option.bind_some, Mode.through_append] at h
  cases htrim : Mode.plain.through (trim t) with
  | none =>
    rw [htrim] at h
    cases h
  | some m => exact ⟨m, rfl⟩

/-- No statement is split again. -/
theorem statements_statement {t s : List Char} (h : t ∈ statements s) : statements t = [t] := by
  obtain ⟨hmem, hfull⟩ := List.mem_filter.1 h
  obtain ⟨u, hu, rfl⟩ := List.mem_map.1 hmem
  obtain ⟨m, hm⟩ := exists_through_trim (isSome_through_of_mem_segments hu)
  rw [statements_of_through hm, statementOf, Text.trim_trim, if_neg (by simpa using hfull)]

/-- Splitting loses nothing but the semicolons at which statements end, and these stand behind the whole texts that
the batch begins with. The statements are the parts between them that are not blank, and none of them is split
again. Texts are split apart where the first is whole; and a batch that is cut behind its first statement, as every
batch of several is, has that statement and those of what is left. -/
theorem splitting_exact (s : List Char) :
    ((terminators s).Pairwise (· < ·) ∧
      ∀ i, i ∈ terminators s ↔ ∃ a b, s = a ++ ';' :: b ∧ i = byteLength a ∧ Whole a) ∧
    (statements s = ((cutFrom 0 s (terminators s)).map trim).filter (!·.isEmpty) ∧
      joinSegments (cutFrom 0 s (terminators s)) = s) ∧
    (∀ t ∈ statements s, statements t = [t]) ∧
    ((terminators (s ++ [';'])).getLast? = some (byteLength s) →
      ∀ b, statements (s ++ ';' :: b) = statements s ++ statements b) ∧
    (∀ head rest, splitStatement? s = some (head, rest) →
      head ++ rest = s ∧ (statements head).length = 1 ∧ statements s = statements head ++ statements rest) ∧
    (1 < (statements s).length → (splitStatement? s).isSome) := by
  refine ⟨⟨pairwise_terminatorsFrom (m := .plain) trivial 0 s, fun i => mem_terminators_iff⟩, ?_,
    fun t => statements_statement, fun hlast => statements_append (getLast?_terminators_iff.1 hlast),
    fun head rest hsplit => ?_, fun hseveral => ?_⟩
  · rw [cutFrom_terminators]
    exact ⟨rfl, join_segments s⟩
  · obtain ⟨first, hhead, hs⟩ := statements_of_split hsplit
    have hone : statements head = [first] := by
      have hnil := hhead []
      rwa [List.append_nil, statements_nil] at hnil
    refine ⟨append_of_split hsplit, by rw [hone]; rfl, ?_⟩
    rw [hs, hone]
    rfl
  · rw [Option.isSome_iff_ne_none]
    intro huncut
    rcases statements_of_uncut huncut with hnone | ⟨first, hone⟩
    · rw [hnone] at hseveral
      cases hseveral
    · rw [hone] at hseveral
      exact absurd hseveral (Nat.lt_irrefl 1)

/-- A batch with semicolons in a body, a literal and a comment. -/
def batch : List Char := "DO $b$;é$$;$b$ ; SELECT 'a'';' -- ;\n".toList

/-- Places are counted in bytes. A line break ends the comment, so that the batch is whole. -/
theorem splitting_exact_batch :
    terminators batch = [16] ∧ statements batch = ["DO $b$;é$$;$b$".toList, "SELECT 'a'';' -- ;".toList] ∧
      (∀ b, statements (batch ++ ';' :: b) = statements batch ++ statements b) ∧
      (statements "SELECT 'a'';' -- ;".toList = ["SELECT 'a'';' -- ;".toList]) ∧
      ∃ head rest, splitStatement? batch = some (head, rest) ∧ head ++ rest = batch ∧
        statements head = ["DO $b$;é$$;$b$".toList] := by
  have hstatements : statements batch = ["DO $b$;é$$;$b$".toList, "SELECT 'a'';' -- ;".toList] := by decide
  obtain ⟨-, -, hagain, happend, hcut, hseveral⟩ := splitting_exact batch
  obtain ⟨⟨head, rest⟩, hsplit⟩ := Option.isSome_iff_exists.1 (hseveral (by rw [hstatements]; decide))
  obtain ⟨hjoin, hone, hboth⟩ := hcut head rest hsplit
  have hlast : "SELECT 'a'';' -- ;".toList ∈ statements batch := by
    rw [hstatements]
    exact List.mem_cons_of_mem _ List.mem_cons_self
  refine ⟨by decide, hstatements, happend (by decide), hagain _ hlast, head, rest, hsplit, hjoin, ?_⟩
  obtain ⟨first, hfirst⟩ := List.length_eq_one_iff.1 hone
  rw [hstatements, hfirst] at hboth
  rw [hfirst]
  exact congrArg (· :: []) (List.cons.inj hboth).1.symm

end Sql

end DeclaredTriggers
