import DeclaredTriggers.Text.Bytes
import DeclaredTriggers.Text.Search

/-!
# Stored files

What a path leads to. A folder is its files under their paths; the folders inside it are the ones
that these paths go through. A path is followed part by part, so a part that is no folder, or has
too long a name, ends it wherever it stands. Outside the folder nothing is known but that there
are folders above it.
-/

namespace DeclaredTriggers

/-- Why a path leads nowhere. -/
inductive PathFault where
  | absent
  /-- It goes on behind a file. -/
  | throughFile
  /-- It, or a name in it, is too long. -/
  | tooLong
  /-- It has a NUL in it. -/
  | nul
  deriving DecidableEq

def PathFault.message : PathFault → String
  | .absent => "No such file or directory (os error 2)"
  | .throughFile => "Not a directory (os error 20)"
  | .tooLong => "File name too long (os error 36)"
  | .nul => "file name contained an unexpected NUL byte"

/-- What a path leads to. -/
inductive Stored where
  | file (content : String)
  | directory
  | missing (fault : PathFault)
  deriving DecidableEq

/-- The content of a file, or why there is none. -/
def Stored.content : Stored → Except String String
  | .file content => pure content
  | .directory => throw "Is a directory (os error 21)"
  | .missing fault => throw fault.message

/-- The files of a folder and of those inside it, by path. -/
abbrev Folder := List (String × String)

namespace Folder

/-- The most bytes that a name may have. -/
def maxName : Nat := 255

/-- The least number of bytes that a path may not have. -/
def pathLimit : Nat := 4096

/-- The parts of a path between slashes. -/
def partsOf (path : String) : List (List Char) := Text.splitAll '/' path.toList

/-- Whether a part of a path stays where it is, so that only a folder can be there. -/
def stays (part : List Char) : Bool := part = [] || part = ['.']

/-- The names of a path inside a folder. -/
def namesOf (path : String) : List (List Char) := (partsOf path).filter (!stays ·)

/-- What stands under names; outside the folder, nothing but folders. -/
def entry (folder : Folder) : Option (List (List Char)) → Stored
  | none => .directory
  | some names =>
    match folder.find? (namesOf ·.1 = names) with
    | some (_, content) => .file content
    | none =>
      if names = [] || folder.any fun f => names.isPrefixOf (namesOf f.1) then .directory
      else .missing .absent

/-- The names of the folder around another; around the outermost one nothing is known. -/
def above : Option (List (List Char)) → Option (List (List Char))
  | none | some [] => none
  | some names => some names.dropLast

/-- What the parts of a path lead to, followed from under names. -/
def follow (folder : Folder) (here : Option (List (List Char))) : List (List Char) → Stored
  | [] => folder.entry here
  | part :: rest =>
    match folder.entry here with
    | .missing fault => .missing fault
    | .file _ => .missing .throughFile
    | .directory =>
      if stays part then folder.follow here rest
      else if part = ['.', '.'] then folder.follow (above here) rest
      else if maxName < Text.byteLength part then .missing .tooLong
      else
        match here with
        | none => .missing .absent
        | some names => folder.follow (some (names ++ [part])) rest

/-- What a path leads to from a folder. One that begins with a slash begins outside of it. -/
def stored (folder : Folder) (path : String) : Stored :=
  if path.toList.contains '\x00' then .missing .nul
  else if path = "" then .missing .absent
  else if pathLimit ≤ Text.byteSize path then .missing .tooLong
  else folder.follow (if path.toList.head? = some '/' then none else some []) (partsOf path)

end Folder

end DeclaredTriggers
