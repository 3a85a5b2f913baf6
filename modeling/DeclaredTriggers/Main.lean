import DeclaredTriggers.Command.Run
import DeclaredTriggers.Connection.Script

/-!
# The program

Carries out the command line of a program that declares no trigger and knows no server, so that
every command that needs a database fails to connect to it.
-/

namespace DeclaredTriggers

/-- What a path leads to. -/
def storedAt (path : String) : IO Stored := do
  match ← (IO.FS.readFile path).toBaseIO with
  | .ok content => pure (.file content)
  | .error (.noFileOrDirectory ..) => pure (.missing .absent)
  | .error (.inappropriateType _ 20 _) => pure (.missing .throughFile)
  | .error _ => pure .directory

/-- The variables that a file may refer to or define. -/
def namesIn (s : Stored) : List String :=
  match s with
  | .file content =>
    let references := (Command.pieces none content.toList).filterMap fun
      | .reference key => some key
      | _ => none
    references ++ content.splitToList fun c => !(c.isAlphanum || c = '_')
  | _ => []

/-- Where the configuration of a command line stands. -/
def configOf (words : List String) : String :=
  match Command.Request.ofWords words with
  | .ok (.perform _ o) => o.config
  | _ => ({} : Command.Options).config

/-- What the program finds around it. -/
def surroundings (words : List String) : IO Command.Surroundings := do
  let path := configOf words
  let config ← storedAt path
  let stored ← storedAt ".env"
  let names := "DATABASE_URL" :: namesIn config ++ namesIn stored
  let held ← (names.filter (!·.isEmpty)).mapM fun name => do pure (name, ← IO.getEnv name)
  pure {
    files := fun p => if p = ".env" then stored else if p = path then config else .missing .absent
    environment := fun name => (held.lookup name).join
    registrations := [] }

/-- Runs the program on the words of its command line. -/
def program (words : List String) : IO UInt32 := do
  let around ← surroundings words
  let world : Command.World Script := { servers := [] }
  let (result, world) := (Command.run around words).run.run world
  world.output.forM IO.println
  match result with
  | .ok () => pure 0
  | .error fault =>
    IO.eprintln fault.message
    pure 1

end DeclaredTriggers

def main (words : List String) : IO UInt32 := DeclaredTriggers.program words
