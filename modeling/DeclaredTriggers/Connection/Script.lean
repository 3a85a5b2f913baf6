import DeclaredTriggers.Connection.Server
import DeclaredTriggers.Text.Search

/-!
# Scripted servers

A server that answers by rules, for trying out what would be sent without a database. The first
rule that applies to a request answers it; a request no rule applies to is done, with no rows.
-/

namespace DeclaredTriggers

/-- One rule of a script. -/
structure Rule where
  /-- A text that the request has to contain. -/
  contains : String := ""
  /-- The parameters the request has to have, if that matters. -/
  params : Option (List String) := none
  reply : Reply
  /-- How many times it may still be used, if that is limited. -/
  uses : Option Nat := none

namespace Rule

/-- Whether a rule answers a request. -/
def applies (r : Rule) (q : Request) : Bool :=
  Text.includes q.sql r.contains && r.params.all (· = q.params) && r.uses ≠ some 0

/-- A rule that was used once more. -/
def used (r : Rule) : Rule := { r with uses := r.uses.map (· - 1) }

end Rule

/-- A list of rules. -/
abbrev Script := List Rule

/-- The reply of the first rule that applies, and the rules afterwards. -/
def Script.receive (q : Request) : Script → Reply × Script
  | [] => (.done [] 0, [])
  | r :: rest =>
    if r.applies q then (r.reply, r.used :: rest)
    else
      let (reply, rest) := Script.receive q rest
      (reply, r :: rest)

instance : Server Script := ⟨Script.receive⟩

end DeclaredTriggers
