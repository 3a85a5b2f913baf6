import DeclaredTriggers.Connection.Channel
import DeclaredTriggers.Proofs.Backend.Phase

/-!
# A backend with transactions and session variables

The server process behind one connection, as far as the runtime depends on it: whether a
transaction is open, and what the two session variables hold that overrides set. It is the second
side of everything that is said about sessions: what a client believes of its connection is
compared with what this backend is in, and what a statement was executed with is read off its log.

The rules are those of Postgres:

- `SET` and `RESET` last if the transaction they are sent in commits; `SET LOCAL` ends with it
  (`Held`).
- `SAVEPOINT` remembers what the variables hold, `ROLLBACK TO` brings that back, and `ROLLBACK`, a
  commit that fails and a commit of a failed transaction bring back what was held before the
  transaction.
- A batch that is sent while no transaction is open is a transaction of its own; `BEGIN` inside it
  turns that into a lasting one.
- The first statement that fails ends the batch, and undoes what was done since the newest
  savepoint.

What the rules leave open is `Conduct`: which statements fail, what they give, how a savepoint's
name is read. Statements about backends are about every conduct.
-/

namespace DeclaredTriggers

open Sql (Control)

/-- The session variables that overrides set. -/
inductive Variable where
  | ignore
  | path
  deriving DecidableEq

/-- What a variable can hold: a text that closes the quotes and comments it opens. -/
structure Content where
  text : List Char
  closed : Sql.isClosed text = true
  deriving DecidableEq

/-- What a variable holds inside a transaction. -/
structure Held where
  /-- What it keeps if the transaction commits. -/
  lasting : Content
  /-- What `SET LOCAL` put over that until the transaction ends. -/
  passing : Option Content := none
  deriving DecidableEq

/-- What the variable is worth to a statement. -/
def Held.value (h : Held) : Content := h.passing.getD h.lasting

/-- A variable after a `SET`. -/
def Held.set (h : Held) (isLocal : Bool) (v : Content) : Held :=
  if isLocal then { h with passing := some v } else ⟨v, none⟩

/-- What all variables hold. -/
abbrev Holdings := Variable → Held

/-- What a statement is to a backend. The words that set a variable are those of the runtime,
since nobody else sets these variables. -/
inductive Effect where
  | control (c : Control)
  | set (x : Variable) (isLocal : Bool) (text : List Char)
  | reset (x : Variable)
  | showPath
  | ordinary
  deriving DecidableEq

namespace Effect

/-- How a statement begins that sets a variable. -/
def setLead : Variable → Bool → String
  | .ignore, true => "SET LOCAL pgtrigger.ignore="
  | .ignore, false => "SET pgtrigger.ignore="
  | .path, true => "SET LOCAL search_path="
  | .path, false => "SET search_path="

/-- What a statement sets if it begins that way. -/
def assigned? (x : Variable) (isLocal : Bool) (s : List Char) : Option Effect :=
  (Text.strip? (setLead x isLocal).toList s).map (.set x isLocal)

/-- What a statement is to a backend. -/
def ofStatement (s : List Char) : Effect :=
  match Control.ofStatement? s with
  | some c => .control c
  | none =>
    if s = "RESET pgtrigger.ignore".toList then .reset .ignore
    else if s = "RESET search_path".toList then .reset .path
    else if s = "SHOW search_path".toList then .showPath
    else
      (assigned? .ignore true s <|> assigned? .path true s <|> assigned? .ignore false s <|>
        assigned? .path false s).getD .ordinary

/-- Whether a statement sets or resets a variable. -/
def writes (x : Variable) : Effect → Bool
  | .set y _ _ | .reset y => y = x
  | .control _ | .showPath | .ordinary => false

end Effect

/-- What the rules leave open about a backend. -/
structure Conduct where
  /-- What variables hold where nobody set them. -/
  defaults : Variable → Content
  /-- The name of the savepoint that a statement is about. -/
  savepointName : List Char → List Char
  /-- What is said to the `n`-th statement if nothing speaks against it. -/
  verdict : Nat → Except Refusal Answer

/-- The conduct in which the `n`-th statement is cancelled, and no other: nothing is ignored where
nobody says so, and a savepoint is called what stands at the end of its statement. -/
def Conduct.cancelling (n : Option Nat) : Conduct where
  defaults := fun
    | .ignore => ⟨[], by decide⟩
    | .path => ⟨"\"$user\", public".toList, by decide⟩
  savepointName s := (s.reverse.takeWhile (!Text.isBlank ·)).reverse
  verdict k :=
    if n = some k then .error ⟨"57014", "canceling statement due to user request", none⟩
    else .ok ⟨[], 0⟩

/-- A statement that was executed, and what the variables were worth to it. -/
structure Execution where
  statement : List Char
  values : Variable → Content

/-- A log of some of the statements that there were is no longer than they are. -/
theorem Execution.length_le {ran : List Execution} {ss : List (List Char)}
    (h : ran.map Execution.statement <+: ss) : ran.length ≤ ss.length := by
  have hlength := h.length_le
  rwa [List.length_map] at hlength

/-- The server process behind one connection. -/
structure Backend where
  conduct : Conduct
  phase : Phase := .idle
  /-- What variables held before the transaction. -/
  outside : Variable → Content := conduct.defaults
  holdings : Holdings := fun x => ⟨conduct.defaults x, none⟩
  /-- The savepoints of the transaction, the newest first, and what variables held at each. -/
  savepoints : List (List Char × Holdings) := []
  /-- How many statements were received. -/
  clock : Nat := 0
  /-- What was executed so far. -/
  executed : List Execution := []

namespace Backend

/-- What a variable is worth to a statement. -/
def value (b : Backend) (x : Variable) : Content := (b.holdings x).value

/-- The transaction ended and kept its work. -/
def committed (b : Backend) : Backend :=
  { b with
    phase := .idle
    outside := fun x => (b.holdings x).lasting
    holdings := fun x => ⟨(b.holdings x).lasting, none⟩
    savepoints := [] }

/-- The transaction ended and its work is undone. -/
def rolledBack (b : Backend) : Backend :=
  { b with phase := .idle, holdings := fun x => ⟨b.outside x, none⟩, savepoints := [] }

/-- A backend in which one variable holds something else. -/
def hold (b : Backend) (x : Variable) (h : Held) : Backend :=
  { b with holdings := fun y => if y = x then h else b.holdings y }

/-- The savepoints up from the newest of a name. -/
def savepointsFrom (b : Backend) (name : List Char) : List (List Char × Holdings) :=
  b.savepoints.dropWhile (·.1 ≠ name)

/-- The transaction as it was at a savepoint, which stays. -/
def rolledBackTo? (b : Backend) (name : List Char) : Option Backend :=
  match b.savepointsFrom name with
  | [] => none
  | p :: older =>
    some { b with phase := .inTransaction, holdings := p.2, savepoints := p :: older }

/-- The transaction without a savepoint and those after it. -/
def released? (b : Backend) (name : List Char) : Option Backend :=
  match b.savepointsFrom name with
  | [] => none
  | _ :: older => some { b with savepoints := older }

/-- The backend after a statement that sets a variable; a text that does not close is an error. -/
def assigned? (b : Backend) (x : Variable) (isLocal : Bool) (text : List Char) : Option Backend :=
  if h : Sql.isClosed text then some (b.hold x ((b.holdings x).set isLocal ⟨text, h⟩)) else none

/-- The backend after a statement that controls the transaction, where the rules allow it. -/
def controlled? (b : Backend) (c : Control) (name : List Char) : Option Backend :=
  match c, b.phase with
  | .opens, .failed => none
  | .opens, _ => some { b with phase := .inTransaction }
  | .commit, .failed => some b.rolledBack
  | .commit, _ => some b.committed
  | .rollback, _ => some b.rolledBack
  | .savepoint, .inTransaction =>
    some { b with savepoints := (name, b.holdings) :: b.savepoints }
  | .savepoint, _ => none
  | .rollbackTo, .idle => none
  | .rollbackTo, _ => b.rolledBackTo? name
  | .release, .inTransaction => b.released? name
  | .release, _ => none

/-- The backend after a statement, where the rules allow it. A failed transaction takes nothing
but its end and the way back to a savepoint. -/
def accepted? (b : Backend) (s : List Char) : Option Backend :=
  match Effect.ofStatement s with
  | .control c => b.controlled? c (b.conduct.savepointName s)
  | .set x isLocal text => if b.phase = .failed then none else b.assigned? x isLocal text
  | .reset x => if b.phase = .failed then none else some (b.hold x ⟨b.conduct.defaults x, none⟩)
  | .showPath | .ordinary => if b.phase = .failed then none else some b

/-- Whether a statement ends the transaction even if it fails. -/
def isEnd (s : List Char) : Bool :=
  Effect.ofStatement s = .control .commit || Effect.ofStatement s = .control .rollback

/-- What variables hold where the work since the newest savepoint is undone. -/
def sheltered (b : Backend) : Holdings :=
  match b.savepoints with
  | [] => fun x => ⟨b.outside x, none⟩
  | p :: _ => p.2

/-- The backend after something went wrong. The work since the newest savepoint is undone at
once. -/
def aborted (b : Backend) : Backend :=
  if b.phase = .idle then b.rolledBack else { b with phase := .failed, holdings := b.sheltered }

/-- The backend after a statement that failed. -/
def failedAt (b : Backend) (s : List Char) : Backend :=
  if isEnd s then b.rolledBack else b.aborted

/-- The backend that has received one more statement. -/
def ticked (b : Backend) : Backend := { b with clock := b.clock + 1 }

/-- The backend `b` that came of `before` by a statement, with that written down. -/
def logged (before : Backend) (s : List Char) (b : Backend) : Backend :=
  { b with executed := b.executed ++ [⟨s, before.value⟩] }

/-- What a statement gives: the search path if it asks for that. -/
def answer (b : Backend) (s : List Char) (a : Answer) : Answer :=
  if Effect.ofStatement s = .showPath then ⟨[[some (String.ofList (b.value .path).text)]], 0⟩
  else a

/-- Why a statement is refused where the rules do not allow it. -/
def misplaced : Refusal := ⟨"25000", "the statement has no place here", none⟩

/-- One statement. -/
def step (b : Backend) (s : List Char) : Except Refusal Answer × Backend :=
  match b.conduct.verdict b.clock, b.accepted? s with
  | .ok a, some after => (.ok (b.answer s a), (logged b s after).ticked)
  | .ok _, none => (.error misplaced, (b.failedAt s).ticked)
  | .error refusal, _ => (.error refusal, (b.failedAt s).ticked)

/-- Statements one after another, up to the first that fails; the last has the say on what the
whole gives. -/
def run (b : Backend) (last : Answer) : List (List Char) → Except Refusal Answer × Backend
  | [] => (.ok last, b)
  | s :: rest =>
    match b.step s with
    | (.ok a, after) => after.run a rest
    | (.error refusal, after) => (.error refusal, after)

/-- Without an open transaction, what was done is kept at the end of a request. -/
def rested (b : Backend) : Backend := if b.phase = .idle then b.committed else b

/-- The statements of a request, and what they come to. -/
def serve (b : Backend) (statements : List (List Char)) : Reply × Backend :=
  match b.run ⟨[], 0⟩ statements with
  | (.ok a, after) => (.done a.rows a.affected, after.rested)
  | (.error refusal, after) => (.refused refusal, after)

/-- A request. A statement with parameters has to come alone. -/
def receive : Request → Backend → Reply × Backend
  | .batch sql, b => b.serve (Sql.statements sql.toList)
  | .prepared sql _, b =>
    if 1 < (Sql.statements sql.toList).length then (.refused misplaced, b.aborted)
    else b.serve (Sql.statements sql.toList)

instance : Server Backend := ⟨receive⟩

theorem server_receive (q : Request) (b : Backend) : Server.receive q b = b.receive q := rfl

end Backend

end DeclaredTriggers
