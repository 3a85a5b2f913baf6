import DeclaredTriggers.Command.Help
import DeclaredTriggers.Command.Listing
import DeclaredTriggers.Command.Plan
import DeclaredTriggers.Command.Variables
import DeclaredTriggers.Connection.Pool
import DeclaredTriggers.Reconcile.Basic
import DeclaredTriggers.Registry.Scoped
import DeclaredTriggers.Session.Scope

/-!
# Running a command

A command reads its configuration, makes its plan, and acts on one database after the other,
each over a connection of its own. The first failure ends it.
-/

namespace DeclaredTriggers.Command

variable {σ : Type} [Server σ]

/-- What a command finds around it. -/
structure Surroundings where
  files : String → Stored
  environment : Environment
  /-- The triggers that the program declares. -/
  registrations : List Registration

/-- The servers and the places where they listen, what was sent to them, and the lines that were
written. -/
structure World (σ : Type) where
  servers : List (Endpoint × σ)
  journal : Journal := {}
  output : List String := []

/-- A client, and the lines that were written. -/
structure Desk (σ : Type) where
  client : Client σ
  output : List String := []

/-- Work of the client. -/
def byClient {α : Type} (act : Act (Client σ) α) : Act (Desk σ) α :=
  Act.focus Desk.client (fun client d => { d with client }) act

/-- Writes lines. -/
def write (lines : List String) : Act (Desk σ) Unit :=
  modify fun d => { d with output := d.output ++ lines }

/-- Lists how triggers stand, and without URIs also what pruning would drop. -/
def writeListing (r : Reconciler) (uris : List String) : Act (Desk σ) Unit := do
  let statuses ← byClient (r.statuses uris)
  write (statuses.map fun (x, s) => statusLine false x.uri r.database s)
  if uris.isEmpty then
    let candidates ← byClient (prunable r.registry)
    write (candidates.map (pruneLine false r.database))

/-- Carries out a command in one database. -/
def apply (c : Command) (pruning : Bool) (r : Reconciler) (uris : List String) :
    Act (Desk σ) Unit :=
  match c with
  | .list => writeListing r uris
  | .install => byClient (r.runAndPrune .install uris pruning)
  | .uninstall => byClient (r.runAndPrune .uninstall uris pruning)
  | .enable => byClient (r.enable uris)
  | .disable => byClient (r.disable uris)
  | .prune => byClient do let _ ← r.prune

/-- Carries out a command in one database, with schemas on the search path. -/
def applyWithin (c : Command) (o : Options) (r : Reconciler) (uris : List String) :
    Act (Desk σ) Unit :=
  let body := apply c (!o.noPrune && r.settings.pruneOnInstall) r uris
  if o.schemas.isEmpty then body
  else
    Act.within (byClient (Client.searching o.schemas)) (fun scope => byClient scope.release) body

/-- The state of work that a command does, and why it may fail. -/
abbrev Work (σ α : Type) := ExceptT Fault (StateM (World σ)) α

/-- A world whose server of a number has another state, after what a journal holds. -/
def World.after (w : World σ) (number : Nat) (server : σ) (journal : Journal) : World σ :=
  { w with servers := w.servers.modify number (fun (place, _) => (place, server)), journal }

/-- What a server is asked where not every kind of session will do. -/
def readOnlySql : String := "SHOW transaction_read_only"

/-- The number and the state of a server that listens at a place and takes the session. A server
that is asked for a kind of session has to answer with a row, and none answers a batch with one. -/
def tryPlace (p : ConnectionParams) (place : Endpoint) : StateM (World σ) (Option (Nat × σ)) :=
  fun w =>
    match w.servers.findFinIdx? (·.1 = place) with
    | none => (none, w)
    | some number =>
      let (_, server) := w.servers[number]
      if !p.canBegin then (none, w)
      else if p.session = .any then (some (number, server), w)
      else
        let line : Line σ := ⟨{ number, server }, w.journal⟩
        let (_, line) := (Line.send (.batch readOnlySql)).run.run line
        (none, w.after number line.wire.server line.journal)

/-- The number and the state of the first server that takes the session. -/
def tryPlaces (p : ConnectionParams) : List Endpoint → StateM (World σ) (Option (Nat × σ))
  | [] => pure none
  | place :: rest => do
    match ← tryPlace p place with
    | some found => pure (some found)
    | none => tryPlaces p rest

/-- The number and the state of the server at a connection string. -/
def connect (url : String) : Work σ (Nat × σ) := do
  let some p := ConnectionParams.parse? url | throw (.connect .invalidString)
  let some places := p.endpoints? | throw (.connect .unreachable)
  let some found ← (tryPlaces p places : StateM (World σ) _) | throw (.connect .unreachable)
  pure found

/-- Works on the database at a connection string, with a client that logs its statements. -/
def withClient (url tag : String) (act : Act (Desk σ) Unit) : Work σ Unit := do
  let (number, server) ← connect url
  ExceptT.mk fun w =>
    let client : Client σ := {
      wire := { number, server, isOpen := true }
      hook := some (Hook.statementLog .debug (some Hook.defaultLogLimit) false)
      tag := some tag
      journal := w.journal }
    let (result, d) := act.run.run { client, output := w.output }
    (result.mapError .error,
      { w.after number d.client.wire.server d.client.journal with output := d.output })

/-- The variables of the environment and of the file of variables. -/
def Surroundings.variables (around : Surroundings) : Environment :=
  match around.files ".env" with
  | .file document => around.environment.read document
  | _ => around.environment

/-- Carries out a command. -/
def perform (around : Surroundings) (c : Command) (o : Options) : Work σ Unit := do
  let configuration ← Configuration.load around.variables o.config (around.files o.config)
  let registry ←
    match (Registry.bootstrap around.registrations).run.run {} with
    | (.ok _, registry) => pure registry
    | (.error e, _) => throw (.error e)
  let plan ← Plan.make o configuration registry
  plan.entries.forM fun (name, uris) =>
    match configuration.find? name with
    | none => throw (.notConfigured name)
    | some database =>
      let r : Reconciler := { registry, settings := configuration.settings, database := name }
      withClient database.url c.name (applyWithin c o r uris)

/-- Does what the words of a command line ask for. -/
def run (around : Surroundings) (words : List String) : Work σ Unit :=
  match Request.ofWords words with
  | .error fault => throw (.request fault)
  | .ok (.help topic) => modify fun w => { w with output := w.output ++ [help topic] }
  | .ok (.perform c o) => perform around c o

end DeclaredTriggers.Command
