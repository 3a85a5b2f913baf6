import DeclaredTriggers.Sql.Keyword

/-!
# Transaction control

The statements that open, close and divide transactions, told by their first words.
-/

namespace DeclaredTriggers.Sql

/-- What a statement does to the transaction it runs in. -/
inductive Control where
  /-- It opens one. -/
  | opens
  /-- It ends it and keeps its work. -/
  | commit
  /-- It ends it and undoes its work. -/
  | rollback
  | savepoint
  /-- It undoes the work since a savepoint. -/
  | rollbackTo
  | release
  deriving DecidableEq

/-- A text from its first blank on. -/
def fromBlank (s : List Char) : List Char := s.dropWhile (!Text.isBlank ·)

/-- A text behind its first word and the blanks after it. -/
def afterWord (s : List Char) : List Char := Text.trimStart (fromBlank s)

/-- Whether what follows the first word of a rollback names a savepoint. -/
def namesSavepoint (s : List Char) : Bool :=
  let noise := startsWith "WORK" s || startsWith "TRANSACTION" s
  startsWith "TO" (if noise then afterWord s else s)

/-- What a statement does to its transaction, if it is there for that. -/
def Control.ofStatement? (s : List Char) : Option Control :=
  let s := withoutLead s
  if startsWith "BEGIN" s || startsWith "START" s then some .opens
  else if startsWith "COMMIT" s || startsWith "END" s then some .commit
  else if startsWith "ROLLBACK" s || startsWith "ABORT" s then
    some (if namesSavepoint (afterWord s) then .rollbackTo else .rollback)
  else if startsWith "SAVEPOINT" s then some .savepoint
  else if startsWith "RELEASE" s then some .release
  else none

end DeclaredTriggers.Sql
