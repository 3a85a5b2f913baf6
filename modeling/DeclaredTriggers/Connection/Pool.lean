import DeclaredTriggers.Connection.Channel
import DeclaredTriggers.Connection.Spelling

/-!
# Pools

A pool keeps connections to one database for the next to use. A connection that is used again is
first recycled: what a client may have left set on it is undone.
-/

namespace DeclaredTriggers

/-- Connections to one database. -/
structure Pool where
  url : String
  /-- How many connections there may be. -/
  maxSize : Nat
  deriving DecidableEq

/-- A pool for a connection string. -/
def Pool.make (url : String) (maxSize : Nat) : Except Error Pool :=
  if (ConnectionParams.parse? url).isSome then pure ⟨url, maxSize⟩
  else throw (.connection .invalidString)

/-- How many connections a pool may have if nothing else is said. -/
def Pool.defaultSize : Nat := 16

/-- What a connection is sent before it is used again. -/
def recycleSql : String := "RESET pgtrigger.ignore; RESET search_path;"

/-- Makes a connection ready for its next user. -/
def recycle {κ : Type} [Channel κ] : Act κ Unit := Channel.batch recycleSql

end DeclaredTriggers
