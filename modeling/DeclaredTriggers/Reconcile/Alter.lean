import DeclaredTriggers.Reconcile.Basic

/-!
# Altering a column

The database refuses to alter a column that a trigger's definition uses, and names the trigger.
`alterColumn` drops the triggers that are named, one after the other, alters the column and
installs them again, all in one transaction or, inside the caller's, under savepoints. It ends
because each attempt takes one more registered trigger out of the way.
-/

namespace DeclaredTriggers

open Channel
open Text (strip?)

/-- Whether the server refuses to alter a column because a trigger uses it. -/
def Error.isColumnUsedInTrigger (e : Error) : Bool :=
  match e.refusal? with
  | some r => r.code = "0A000" && Text.includes r.message "used in a trigger definition"
  | none => false

/-- What the server adds to its refusal. -/
def Error.detail? (e : Error) : Option String := e.refusal?.bind (·.detail)

/-- A text without a double quote it may begin with. -/
def withoutQuote (s : List Char) : List Char := (strip? ['"'] s).getD s

/-- Whether what follows a trigger's name in a detail says, on one line, that it depends on a
column. -/
def namesDependency (s : List Char) : Bool :=
  match strip? " on table ".toList s with
  | some (c :: rest) =>
    match Text.splitFirst? " depends on column".toList rest with
    | some (before, _) => !(c :: before).contains '\n'
    | none => false
  | _ => false

/-- The trigger that a detail names: a word, perhaps between double quotes. -/
def triggerInDetail? (detail : String) : Option String :=
  match strip? "trigger ".toList detail.toList with
  | none => none
  | some rest =>
    let (name, after) := (withoutQuote rest).span fun c => c ≠ '"' && !Text.isBlank c
    if !name.isEmpty && namesDependency (withoutQuote after) then some (String.ofList name)
    else none

/-- The trigger that is in the way of an alteration. -/
def Error.blocker? (e : Error) : Option String :=
  if e.isColumnUsedInTrigger then e.detail?.bind triggerInDetail? else none

variable {κ : Type} [Channel κ]

/-- Drops an entry's trigger for the time of an alteration. -/
def giveWay (x : Entry) : Act κ Unit := do
  notify (.giveWay x.pgid x.table)
  let sql ← x.trigger.uninstallSql x.entity
  withSavepoint sql

/-- The entries with another identifier. -/
def without (pgid : String) (entries : List Entry) : List Entry :=
  entries.filter (·.pgid ≠ pgid)

/-- Taking out an identifier that is there leaves fewer entries. -/
theorem length_without_lt {pgid : String} {entries : List Entry} {x : Entry}
    (h : entries.find? (·.pgid = pgid) = some x) :
    (without pgid entries).length < entries.length := by
  have hp : x.pgid = pgid := by simpa using List.find?_some h
  rw [without, List.length_filter_lt_length_iff_exists]
  exact ⟨x, List.mem_of_find?_eq_some h, by simp [hp]⟩

/-- Tries an alteration until it succeeds, dropping the trigger in the way each time; gives the
entries that were dropped, in order. A trigger that is not among `entries` cannot be dropped. -/
def alterDropping (sql : String) (entries : List Entry) : Act κ (List Entry) := do
  match ← Act.attempt (withSavepoint sql) with
  | .ok () => pure []
  | .error e =>
    match e.blocker? with
    | none => throw e
    | some pgid =>
      match h : entries.find? (·.pgid = pgid) with
      | none => throw e
      | some x =>
        have := length_without_lt h
        giveWay x
        let others ← alterDropping sql (without pgid entries)
        pure (x :: others)
termination_by entries.length

/-- Installs an entry's trigger again. -/
def reinstall (s : Settings) (x : Entry) : Act κ String := do
  let sql ← x.trigger.installSql x.entity s
  withSavepoint sql
  pure x.pgid

/-- Alters a column and installs the dropped triggers again; gives their identifiers. -/
def alterAndReinstall (r : Registry) (s : Settings) (sql : String) : Act κ (List String) := do
  let dropped ← alterDropping sql r.entries
  dropped.mapM (reinstall s)

/-- Alters a column that triggers may use, in a transaction of its own if none is open. -/
def alterColumn (r : Registry) (s : Settings) (sql : String) : Act κ (List String) := do
  if inTransaction (← get) then alterAndReinstall r s sql
  else
    batch "BEGIN"
    match ← Act.attempt (alterAndReinstall r s sql) with
    | .ok recreated =>
      batch "COMMIT"
      pure recreated
    | .error e =>
      match ← Act.attempt (batch "ROLLBACK") with
      | .ok () => throw e
      | .error again =>
        notify (.rollbackFailed again)
        throw e

end DeclaredTriggers
