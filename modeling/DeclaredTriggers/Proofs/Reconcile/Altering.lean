import DeclaredTriggers.Proofs.Act
import DeclaredTriggers.Proofs.Install.Script
import DeclaredTriggers.Reconcile.Alter

/-!
# The rounds of an alteration

What `alterColumn` can do, said once for every channel: the alteration is tried, and each time a registered
trigger is named as being in the way, that trigger is dropped and the rest is tried without it (`Clears`);
then what was dropped is installed again (`Reinstalls`); around this stands the transaction (`Alters`). Each
of the three relations has a constructor for every way the work can go, and says what was asked of the
channel on that way, so what is proved about alterations is proved by induction on them.

> `clears`: the work of `alterDropping` goes one of the ways of `Clears`, and so on for the others.
-/

namespace DeclaredTriggers

open Act (result)
open Channel

/-- The entry whose trigger an error names as being in the way. -/
def inTheWay? (entries : List Entry) (e : Error) : Option Entry :=
  e.blocker?.bind fun pgid => entries.find? (·.pgid = pgid)

theorem mem_of_inTheWay? {entries : List Entry} {e : Error} {x : Entry}
    (h : inTheWay? entries e = some x) : x ∈ entries := by
  obtain ⟨pgid, -, hfind⟩ := Option.bind_eq_some_iff.1 h
  exact List.mem_of_find?_eq_some hfind

theorem length_without_of_inTheWay? {entries : List Entry} {e : Error} {x : Entry}
    (h : inTheWay? entries e = some x) : (without x.pgid entries).length < entries.length := by
  refine length_without_lt (x := x) ?_
  obtain ⟨pgid, -, hfind⟩ := Option.bind_eq_some_iff.1 h
  rwa [show x.pgid = pgid by simpa using List.find?_some hfind]

theorem mem_without {pgid : String} {entries : List Entry} {x : Entry} :
    x ∈ without pgid entries ↔ x ∈ entries ∧ x.pgid ≠ pgid := by simp [without]

variable {κ : Type} [Channel κ]

/-- A channel with one more notice in its journal. -/
def noted (n : Notice) (k : κ) : κ := (result (notify n) k).2

/-- What dropping a trigger for an alteration sends. -/
theorem result_giveWay (x : Entry) (k : κ) :
    result (giveWay x) k = result (withSavepoint (dropTriggerSql x.pgid x.table))
      (noted (.giveWay x.pgid x.table) k) := by
  unfold giveWay
  rw [Act.result_bind_ok (show result (notify (.giveWay x.pgid x.table)) k = (.ok (), noted _ k) from rfl),
    Act.result_bind_ok (show result (liftM (x.trigger.uninstallSql x.entity) : Act κ String) _ =
      (.ok (dropTriggerSql x.pgid x.table), _) by rw [Act.result_lift, x.uninstallSql_eq])]

/-! ## Dropping what is in the way -/

/-- The ways in which an alteration can be tried while some entries' triggers can be dropped for it. -/
inductive Clears (sql : String) : List Entry → κ → Except Error (List Entry) → κ → Prop where
  | done {entries : List Entry} {k k' : κ} :
      result (withSavepoint sql) k = (.ok (), k') → Clears sql entries k (.ok []) k'
  | hopeless {entries : List Entry} {k k' : κ} {e : Error} :
      result (withSavepoint sql) k = (.error e, k') → inTheWay? entries e = none →
        Clears sql entries k (.error e) k'
  | stuck {entries : List Entry} {k k' k'' : κ} {e e' : Error} {x : Entry} :
      result (withSavepoint sql) k = (.error e, k') → inTheWay? entries e = some x →
        result (giveWay x) k' = (.error e', k'') → Clears sql entries k (.error e') k''
  | cleared {entries : List Entry} {k k₁ k₂ k₃ : κ} {e : Error} {x : Entry}
      {out : Except Error (List Entry)} :
      result (withSavepoint sql) k = (.error e, k₁) → inTheWay? entries e = some x →
        result (giveWay x) k₁ = (.ok (), k₂) → Clears sql (without x.pgid entries) k₂ out k₃ →
          Clears sql entries k (out.map (x :: ·)) k₃

/-- The work of dropping what is in the way, with the search for it in one piece. -/
theorem alterDropping_eq (sql : String) (entries : List Entry) :
    (alterDropping sql entries : Act κ (List Entry)) = (do
      match ← Act.attempt (withSavepoint sql) with
      | .ok () => pure []
      | .error e =>
        match inTheWay? entries e with
        | none => throw e
        | some x =>
          giveWay x
          let others ← alterDropping sql (without x.pgid entries)
          pure (x :: others)) := by
  rw [alterDropping]
  congr 1
  funext came
  rcases came with e | ⟨⟩
  · dsimp only
    unfold inTheWay?
    split
    next hblocker => rw [hblocker, Option.bind_none]
    next pgid hblocker =>
      rw [hblocker, Option.bind_some]
      split
      next hfind => rw [hfind]
      next x hfind =>
        obtain rfl : x.pgid = pgid := by simpa using List.find?_some hfind
        rw [hfind]
  · rfl

theorem clears (sql : String) (entries : List Entry) (k : κ) :
    Clears sql entries k (result (alterDropping sql entries) k).1
      (result (alterDropping sql entries) k).2 := by
  generalize hn : entries.length = n
  induction n using Nat.strongRecOn generalizing entries k with
  | ind n ih =>
    rw [alterDropping_eq]
    generalize hattempt : result (withSavepoint sql) k = came
    obtain ⟨e | u, k₁⟩ := came <;> rw [Act.result_bind_ok (Act.result_attempt hattempt)]
    · dsimp only
      cases hway : inTheWay? entries e with
      | none => exact .hopeless hattempt hway
      | some x =>
        simp only
        generalize hgive : result (giveWay x) k₁ = gave
        obtain ⟨e' | u, k₂⟩ := gave
        · rw [Act.result_bind_error hgive]
          exact .stuck hattempt hway hgive
        · rw [Act.result_bind_ok hgive, Act.result_bind]
          have hrest := ih _ (hn ▸ length_without_of_inTheWay? hway) _ k₂ rfl
          have hcleared := Clears.cleared hattempt hway hgive hrest
          generalize result (alterDropping sql (without x.pgid entries)) k₂ = rest at hcleared
          obtain ⟨e' | others, k₃⟩ := rest <;> exact hcleared
    · exact .done hattempt

/-! ## Installing again -/

/-- The ways in which dropped triggers can be installed again. -/
inductive Reinstalls (s : Settings) : List Entry → κ → Except Error (List String) → κ → Prop where
  | done {k : κ} : Reinstalls s [] k (.ok []) k
  | unwritten {x : Entry} {xs : List Entry} {k : κ} {e : Error} :
      x.trigger.installSql x.entity s = .error e → Reinstalls s (x :: xs) k (.error e) k
  | refused {x : Entry} {xs : List Entry} {k k' : κ} {text : String} {e : Error} :
      x.trigger.installSql x.entity s = .ok text →
        result (withSavepoint text) k = (.error e, k') → Reinstalls s (x :: xs) k (.error e) k'
  | installed {x : Entry} {xs : List Entry} {k k₁ k₂ : κ} {text : String}
      {out : Except Error (List String)} :
      x.trigger.installSql x.entity s = .ok text → result (withSavepoint text) k = (.ok (), k₁) →
        Reinstalls s xs k₁ out k₂ → Reinstalls s (x :: xs) k (out.map (x.pgid :: ·)) k₂

theorem reinstalls (s : Settings) (xs : List Entry) (k : κ) :
    Reinstalls s xs k (result (xs.mapM (reinstall s)) k).1 (result (xs.mapM (reinstall s)) k).2 := by
  induction xs generalizing k with
  | nil => exact .done
  | cons x xs ih =>
    rw [List.mapM_cons]
    have hlift := Act.result_lift (x.trigger.installSql x.entity s) k
    cases htext : x.trigger.installSql x.entity s with
    | error e =>
      have hone : result (reinstall s x) k = (.error e, k) := by
        unfold reinstall
        rw [Act.result_bind_error (hlift.trans (by rw [htext]))]
      rw [Act.result_bind_error hone]
      exact .unwritten htext
    | ok text =>
      have hone : result (reinstall s x) k = result (do withSavepoint text; pure x.pgid) k := by
        unfold reinstall
        rw [Act.result_bind_ok (hlift.trans (by rw [htext]))]
      generalize hsent : result (withSavepoint text) k = came
      obtain ⟨e | u, k₁⟩ := came
      · rw [Act.result_bind_error (hone.trans (Act.result_bind_error hsent _))]
        exact .refused htext hsent
      · rw [Act.result_bind_ok (hone.trans (Act.result_bind_ok hsent _)), Act.result_bind]
        have hinstalled := Reinstalls.installed htext hsent (ih k₁)
        generalize result (xs.mapM (reinstall s)) k₁ = rest at hinstalled
        obtain ⟨e | ids, k₂⟩ := rest <;> exact hinstalled

/-! ## The transaction around it -/

/-- The ways in which the alteration can go inside a transaction. -/
inductive Body (r : Registry) (s : Settings) (sql : String) :
    κ → Except Error (List String) → κ → Prop where
  | failed {k k' : κ} {e : Error} :
      Clears sql r.entries k (.error e) k' → Body r s sql k (.error e) k'
  | cleared {k k₁ k₂ : κ} {xs : List Entry} {out : Except Error (List String)} :
      Clears sql r.entries k (.ok xs) k₁ → Reinstalls s xs k₁ out k₂ → Body r s sql k out k₂

theorem body (r : Registry) (s : Settings) (sql : String) (k : κ) :
    Body r s sql k (result (alterAndReinstall r s sql) k).1
      (result (alterAndReinstall r s sql) k).2 := by
  unfold alterAndReinstall
  have hclears := clears sql r.entries k
  rw [Act.result_bind]
  generalize result (alterDropping sql r.entries) k = came at hclears
  obtain ⟨e | xs, k₁⟩ := came
  · exact .failed hclears
  · exact .cleared hclears (reinstalls s xs k₁)

/-- The ways in which a column can be altered. -/
inductive Alters (r : Registry) (s : Settings) (sql : String) :
    κ → Except Error (List String) → κ → Prop where
  | inside {k k' : κ} {out : Except Error (List String)} : inTransaction k = true →
      Body r s sql k out k' → Alters r s sql k out k'
  | unopened {k k' : κ} {e : Error} : inTransaction k = false →
      result (batch "BEGIN") k = (.error e, k') → Alters r s sql k (.error e) k'
  | finished {k k₁ k₂ k₃ : κ} {ids : List String} {came : Except Error Unit} :
      inTransaction k = false → result (batch "BEGIN") k = (.ok (), k₁) →
        Body r s sql k₁ (.ok ids) k₂ → result (batch "COMMIT") k₂ = (came, k₃) →
          Alters r s sql k (came.map fun _ => ids) k₃
  | undone {k k₁ k₂ k₃ : κ} {e : Error} : inTransaction k = false →
      result (batch "BEGIN") k = (.ok (), k₁) → Body r s sql k₁ (.error e) k₂ →
        result (batch "ROLLBACK") k₂ = (.ok (), k₃) → Alters r s sql k (.error e) k₃
  | lost {k k₁ k₂ k₃ : κ} {e again : Error} : inTransaction k = false →
      result (batch "BEGIN") k = (.ok (), k₁) → Body r s sql k₁ (.error e) k₂ →
        result (batch "ROLLBACK") k₂ = (.error again, k₃) →
          Alters r s sql k (.error e) (noted (.rollbackFailed again) k₃)

theorem alters (r : Registry) (s : Settings) (sql : String) (k : κ) :
    Alters r s sql k (result (alterColumn r s sql) k).1 (result (alterColumn r s sql) k).2 := by
  unfold alterColumn
  rw [Act.result_bind_ok (Act.result_get k)]
  cases hin : inTransaction k with
  | true => exact .inside hin (body r s sql k)
  | false =>
    simp only [Bool.false_eq_true, if_false]
    generalize hbegin : result (batch "BEGIN") k = began
    obtain ⟨e | u, k₁⟩ := began
    · rw [Act.result_bind_error hbegin]
      exact .unopened hin hbegin
    · rw [Act.result_bind_ok hbegin]
      have hbody := body r s sql k₁
      generalize hcame : result (alterAndReinstall r s sql) k₁ = came at hbody
      obtain ⟨e | ids, k₂⟩ := came <;> rw [Act.result_bind_ok (Act.result_attempt hcame)]
      · simp only
        generalize hrollback : result (batch "ROLLBACK") k₂ = back
        rw [Act.result_bind_ok (Act.result_attempt hrollback)]
        obtain ⟨again | u, k₃⟩ := back
        · exact .lost hin hbegin hbody hrollback
        · exact .undone hin hbegin hbody hrollback
      · simp only
        rw [Act.result_bind]
        generalize hcommit : result (batch "COMMIT") k₂ = committed
        obtain ⟨e | u, k₃⟩ := committed <;> exact .finished hin hbegin hbody hcommit

end DeclaredTriggers
