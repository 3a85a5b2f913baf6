import DeclaredTriggers.Proofs.Session.Requests

/-!
# What becomes of a batch

A client does not send a batch as it is: what it owes and what its open sessions need is written into
the text, at a place that the scanner finds. This file says that the caller's statements come out of it
unchanged, whatever the names are that the runtime writes:

> `batch_keeps_statements`: the text that is sent has the caller's statements, in order, and one row of
> others; the row comes first, or behind a statement that opens a transaction or takes a savepoint.

The others are the four things that a client says of its own accord (`Session.sayings`), each at most
once. The scanner and the quoting carry this together: a preamble announces its statements to whatever
stands behind it, and the rest of a text that was cut at a semicolon reads as it read there.
-/

namespace DeclaredTriggers

open Sql (Announces Control)

/-! ## What a client says of its own accord -/

namespace Session

/-- The statements that a session puts into a batch, if all of them are due. -/
def sayings (s : Session) (o : Overrides) : List (List Char) :=
  resetIgnore :: (s.initialPath.elim [] fun path => [undoPathStatement path]) ++
    [(Effect.setLead .ignore true).toList ++ o.ignoreLiteral,
      (Effect.setLead .path true).toList ++ o.pathList]

/-- No two of them are the same: one resets, and the others set something else or in another way. -/
theorem nodup_sayings (s : Session) (o : Overrides) : (s.sayings o).Nodup := by
  refine List.Pairwise.of_map Effect.ofStatement (S := (· ≠ ·))
    (fun _ _ hne heq => hne (congrArg _ heq)) ?_
  unfold sayings undoPathStatement
  cases s.initialPath <;> simp [effect_reset, effect_set]

/-- What is due in a batch is among them, in that order. -/
theorem dues_sublist_sayings (s : Session) (o : Overrides) :
    (s.dues o true).Sublist (s.sayings o) := by
  have hif : ∀ (p : Prop) [Decidable p] (l : List (List Char)), (if p then l else []).Sublist l := by
    intro p _ l
    split
    next => exact .refl l
    next => exact List.nil_sublist l
  have hunless : ∀ (p : Prop) [Decidable p] (l : List (List Char)),
      (if p then [] else l).Sublist l := by
    intro p _ l
    split
    next => exact List.nil_sublist l
    next => exact .refl l
  unfold dues undoings settings sayings
  rw [o.trimEnd_pathList]
  exact .append (.append (hif _ [resetIgnore]) (hif _ _)) (.append (hunless _ [_]) (hunless _ [_]))

/-- `Inserted block mine sent`: the statements `sent` are the statements `mine` with a row of others put
in, first or behind a statement that opens a transaction or takes a savepoint. -/
def Inserted (block mine sent : List (List Char)) : Prop :=
  ∃ pre post, mine = pre ++ post ∧ sent = pre ++ block ++ post ∧
    (pre = [] ∨ ∃ first c, pre = [first] ∧ Control.ofStatement? first = some c ∧ c.entersBlock)

/-- However a batch is sent, its own statements are all there, with a row of what is due put in. -/
theorem inserted_withPreamble {s : Session} (hpath : s.PathClosed) {o : Overrides}
    (ho : o.Registered) (sql : String) :
    ∃ block, block.Sublist (s.dues o true) ∧
      Inserted block (Sql.statements sql.toList) (Sql.statements (s.withPreamble o sql).1.toList) := by
  have hpreamble : ∀ statement, ∃ block, block.Sublist (s.dues o true) ∧
      Announces (s.preamble o statement true).1.toList block := by
    intro statement
    cases hback : s.holdsBack statement with
    | true =>
      rw [preamble_of_holdsBack hback]
      exact ⟨[], List.nil_sublist _, .nil⟩
    | false => exact ⟨_, .refl _, announces_preamble true hback hpath ho⟩
  have hplaced := placed_withPreamble s o sql
  generalize s.withPreamble o sql = sent at hplaced ⊢
  cases hplaced with
  | first =>
    obtain ⟨block, hblock, hannounces⟩ := hpreamble sql
    refine ⟨block, hblock, [], Sql.statements sql.toList, rfl, ?_, .inl rfl⟩
    rw [String.toList_append, hannounces, List.nil_append]
  | @second c head rest hc henters hsplit _ =>
    -- both parts of a text that is cut behind its first statement read as they read in it
    obtain ⟨first, hput, hall⟩ := Sql.statements_of_split hsplit
    obtain ⟨block, hblock, hannounces⟩ := hpreamble (String.ofList rest)
    rw [hall] at hc
    refine ⟨block, hblock, [first], Sql.statements rest, hall, ?_, .inr ⟨first, c, rfl, hc, henters⟩⟩
    rw [String.toList_append, String.toList_append, String.toList_ofList, String.toList_ofList,
      List.append_assoc, hput, hannounces]
    rfl
  | nowhere => exact ⟨[], List.nil_sublist _, [], Sql.statements sql.toList, rfl, rfl, .inl rfl⟩

end Session

/-! ## Calls -/

namespace Client

variable {σ : Type} [Server σ] {c : Client σ}

/-- Whatever a client knows, searches and ignores: a batch that its hooks let through is sent as one text
that has the statements they left, in order, and one row of the client's own among them. The row stands
first, or behind a first statement that opens a transaction or takes a savepoint; and it is made of the
undoings and settings of the client, each at most once. -/
theorem batch_keeps_statements (hopen : c.wire.isOpen) (hpath : c.session.PathClosed)
    (ho : c.overrides.Registered) {sql left : String} (hleft : c.left sql 0 = some left) :
    ∃ text block, (c.after (.batch sql)).journal.sent =
        c.journal.sent ++ [(c.wire.number, .batch text)] ∧
      Session.Inserted block (Sql.statements left.toList) (Sql.statements text.toList) ∧
      block.Nodup ∧ ∀ st ∈ block, st = "RESET pgtrigger.ignore".toList ∨
        (∃ path, c.session.initialPath = some path ∧
          st = "SET search_path=".toList ++ Text.trimEnd path.toList) ∨
        st = "SET LOCAL pgtrigger.ignore=".toList ++ c.overrides.ignoreLiteral ∨
        st = "SET LOCAL search_path=".toList ++ c.overrides.pathList := by
  obtain ⟨reqs, ok, hgoes⟩ := c.goes_after (.batch sql)
  have hmove : c.move (.batch sql) = .batch left := by
    rw [show c.move (.batch sql) = (c.left sql 0).elim .rest .batch from rfl, hleft]
    rfl
  have hsession := hgoes.session
  rw [hmove] at hsession
  generalize (c.after (.batch sql)).session = s' at hsession
  cases hsession with
  | batch =>
    obtain ⟨block, hdues, hinserted⟩ := Session.inserted_withPreamble hpath ho left
    have hblock := hdues.trans (c.session.dues_sublist_sayings c.overrides)
    refine ⟨_, block, ?_, hinserted, hblock.nodup (c.session.nodup_sayings c.overrides),
      fun st hst => ?_⟩
    · rw [hgoes.sent.sent, if_pos hopen]
      rfl
    · have hsaying := hblock.subset hst
      unfold Session.sayings at hsaying
      simp only [List.cons_append, List.mem_cons, List.mem_append, List.not_mem_nil, or_false]
        at hsaying
      rcases hsaying with hreset | hundo | hignore | hsearch
      · exact .inl hreset
      · -- the path is undone only if it is known
        cases hinitial : c.session.initialPath with
        | none =>
          rw [hinitial] at hundo
          cases hundo
        | some path =>
          rw [hinitial] at hundo
          exact .inr (.inl ⟨path, rfl, List.mem_singleton.1 hundo⟩)
      · exact .inr (.inr (.inl hignore))
      · exact .inr (.inr (.inr hsearch))

/-- Names that would end the statement, open a comment or close their quotes do not: the batch is sent
with four statements behind its `BEGIN`. -/
theorem batch_keeps_statements_of_names :
    let c : Client Backend :=
      { wire := { server := { conduct := .cancelling none } }
        session :=
          { ignore := { sessions := 1, pending := true }, path := { sessions := 1, pending := true }
            initialPath := some "public " }
        overrides := { schemas := ["a\"; DROP TABLE book; --", "/* b"] } }
    let block := ["RESET pgtrigger.ignore".toList, "SET search_path=public".toList,
      "SET LOCAL pgtrigger.ignore='\x7b\x7d'".toList,
      "SET LOCAL search_path=\"a\"\"; DROP TABLE book; --\",\"/* b\"".toList]
    ∃ text, (c.after (.batch "BEGIN/* ; */; DELETE FROM book; COMMIT")).journal.sent =
        [(0, .batch text)] ∧
      Session.Inserted block ["BEGIN/* ; */".toList, "DELETE FROM book".toList, "COMMIT".toList]
        (Sql.statements text.toList) ∧ block.Nodup := by
  intro c block
  have hpath : c.session.PathClosed := by
    intro path hinitial
    cases hinitial
    decide
  have ho : c.overrides.Registered := fun id hid => nomatch hid
  have hleft : c.left "BEGIN/* ; */; DELETE FROM book; COMMIT" 0 =
      some "BEGIN/* ; */; DELETE FROM book; COMMIT" := rfl
  obtain ⟨text, block', hsent, hinserted, hnodup, -⟩ := batch_keeps_statements rfl hpath ho hleft
  have hmine : Sql.statements "BEGIN/* ; */; DELETE FROM book; COMMIT".toList =
      ["BEGIN/* ; */".toList, "DELETE FROM book".toList, "COMMIT".toList] := by decide
  have hall : ∀ request ∈ (c.after (.batch "BEGIN/* ; */; DELETE FROM book; COMMIT")).journal.sent,
      Sql.statements request.2.sql.toList =
        "BEGIN/* ; */".toList :: block ++ ["DELETE FROM book".toList, "COMMIT".toList] := by
    decide +kernel
  have htext : Sql.statements text.toList =
      "BEGIN/* ; */".toList :: block ++ ["DELETE FROM book".toList, "COMMIT".toList] :=
    hall (0, .batch text) (hsent ▸ List.mem_append_right _ List.mem_cons_self)
  rw [hmine] at hinserted
  refine ⟨text, hsent, ?_⟩
  -- the row that was put in is all that the text has besides, and its place is behind the `BEGIN`
  suffices h : block' = block from h ▸ ⟨hinserted, hnodup⟩
  obtain ⟨pre, post, hsplit, hput, hpre⟩ := hinserted
  rw [htext] at hput
  rcases hpre with rfl | ⟨first, k, rfl, -⟩
  · -- in front of all, it would leave the `BEGIN` next to the `DELETE`
    cases hsplit
    have hcut : "BEGIN/* ; */".toList :: block = block' ++ ["BEGIN/* ; */".toList] := by
      rw [List.nil_append, List.append_cons block'] at hput
      exact List.append_cancel_right hput
    have hlast := congrArg List.getLast? hcut
    rw [List.getLast?_concat] at hlast
    exact absurd hlast (by decide)
  · cases hsplit
    exact (List.cons.inj (List.append_cancel_right hput)).2.symm

end Client

end DeclaredTriggers
