import DeclaredTriggers.Command.Configuration
import DeclaredTriggers.Command.Request

/-!
# Why a command fails

A command fails for a reason of its own or for one of the triggers and the database.
-/

namespace DeclaredTriggers.Command

/-- Why a database is not connected to. -/
inductive ConnectFault where
  | invalidString
  | unreachable
  deriving DecidableEq

/-- Why a command fails. -/
inductive Fault where
  | request (fault : RequestFault)
  /-- Neither a configuration nor the variable that stands in for one is there. -/
  | noConfiguration (path : String)
  | unreadable (path reason : String)
  | configuration (path : String) (fault : ConfigurationFault)
  | notConfigured (database : String)
  | connect (fault : ConnectFault)
  /-- The triggers or the database are why. -/
  | error (e : Error)

def Fault.message : Fault → String
  | .request fault => fault.message
  | .noConfiguration path => s!"config file {path} not found and DATABASE_URL is not set"
  | .unreadable path reason => s!"failed to read config file {path}: {reason}"
  | .configuration path fault => s!"invalid config file {path}: {fault.message}"
  | .notConfigured database => "database " ++ Text.shown database ++ " is not configured"
  | .connect .invalidString => "failed to connect to database: invalid connection string"
  | .connect .unreachable => "failed to connect to database"
  | .error e => e.message

/-- The configuration at a path. Where there is none, the variable `DATABASE_URL` stands in for
it. -/
def Configuration.load (env : Environment) (path : String) (stored : Stored) :
    Except Fault Configuration :=
  match stored, stored.content with
  | .missing _, _ =>
    match env "DATABASE_URL" with
    | some url => pure (ofUrl url)
    | none => throw (.noConfiguration path)
  | _, .error reason => throw (.unreadable path reason)
  | _, .ok document => (read env document).mapError (.configuration path)

end DeclaredTriggers.Command
