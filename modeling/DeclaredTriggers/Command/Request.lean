import DeclaredTriggers.Text.Search

/-!
# Requests

What the command line asks for: the help on a command, or a command with its options. Options and
URIs may stand in any order behind the command. An option's value stands behind a sign of equality
or is the next word.
-/

namespace DeclaredTriggers

/-- What can be done from the command line. -/
inductive Command where
  | list
  | install
  | uninstall
  | enable
  | disable
  | prune
  deriving DecidableEq

namespace Command

/-- The word for a command. -/
def name : Command → String
  | .list => "ls"
  | .install => "install"
  | .uninstall => "uninstall"
  | .enable => "enable"
  | .disable => "disable"
  | .prune => "prune"

/-- All commands. -/
def all : List Command := [.list, .install, .uninstall, .enable, .disable, .prune]

/-- The command that a word is for. -/
def ofName? (word : String) : Option Command := all.find? (·.name = word)

/-- How a command is to be carried out. -/
structure Options where
  /-- Where the configuration stands. -/
  config : String := "pgtrigger.toml"
  /-- The triggers to act on; none for all of them. -/
  uris : List String := []
  /-- The databases to act on; none for all that are configured. -/
  databases : List String := []
  /-- The schemas that are put on the search path. -/
  schemas : List String := []
  noPrune : Bool := false
  deriving DecidableEq

/-- What the command line asks for. -/
inductive Request where
  /-- The help on a command, or on all of them. -/
  | help (topic : Option Command)
  | perform (command : Command) (options : Options)
  deriving DecidableEq

/-- Why the command line asks for nothing that can be done. -/
inductive RequestFault where
  | unknownCommand (word : String)
  | missingValue (option : String)
  | needlessNoPrune
  | unknownOption (word : String)
  | prunesAll
  | urisAndDatabase
  deriving DecidableEq

def RequestFault.message : RequestFault → String
  | .unknownCommand word => s!"unknown command: {word}"
  | .missingValue option => s!"{option} requires a value"
  | .needlessNoPrune => "--no-prune only applies to install and uninstall"
  | .unknownOption word => s!"unknown option: {word}"
  | .prunesAll => "prune does not take trigger URIs"
  | .urisAndDatabase => "cannot supply both trigger URIs and a database"

/-- An option that has a value. -/
inductive OptionName where
  | config
  | database
  | schema
  deriving DecidableEq

/-- What one word behind the command is. -/
inductive Word where
  | help
  /-- An option whose value is the next word. -/
  | named (option : OptionName)
  /-- An option with its value. -/
  | assigned (option : OptionName) (value : String)
  | noPrune
  | unknown
  | uri
  deriving DecidableEq

/-- What is left of a text after all the times it begins with `lead`. -/
def withoutLeads (lead s : List Char) : List Char :=
  match Text.strip? lead s with
  | some rest => if rest.length < s.length then withoutLeads lead rest else s
  | none => s
termination_by s.length

/-- The value behind a lead. A lead that is there more than once counts once. -/
def valueBehind? (lead word : String) : Option String :=
  if Text.begins lead.toList word.toList then
    some (String.ofList (withoutLeads lead.toList word.toList))
  else none

/-- An option's value in the word of its name. -/
def assignment? (word : String) : Option Word :=
  ((valueBehind? "--config=" word).map (.assigned .config)).or <|
    ((valueBehind? "--database=" word).map (.assigned .database)).or <|
      (valueBehind? "--schema=" word).map (.assigned .schema)

/-- What a word is. -/
def wordOf (word : String) : Word :=
  match word with
  | "-h" | "--help" => .help
  | "--config" => .named .config
  | "-d" | "--database" => .named .database
  | "-s" | "--schema" => .named .schema
  | "--no-prune" => .noPrune
  | word =>
    (assignment? word).getD (if Text.begins ['-'] word.toList then .unknown else .uri)

/-- The options with a value added. Of configurations the last counts. -/
def Options.add (o : Options) (option : OptionName) (value : String) : Options :=
  match option with
  | .config => { o with config := value }
  | .database => { o with databases := o.databases ++ [value] }
  | .schema => { o with schemas := o.schemas ++ [value] }

/-- Whether pruning follows a command, so that it can be left out. -/
def mayPrune (c : Command) : Bool := c = .install || c = .uninstall

/-- The options behind a command, put to the ones before; nothing if help is asked for. -/
def readOptions (c : Command) : Options → List String → Except RequestFault (Option Options)
  | o, [] => pure (some o)
  | o, word :: rest =>
    match wordOf word, rest with
    | .help, _ => pure none
    | .named _, [] => throw (.missingValue word)
    | .named option, value :: rest => readOptions c (o.add option value) rest
    | .assigned option value, rest => readOptions c (o.add option value) rest
    | .noPrune, rest =>
      if c.mayPrune then readOptions c { o with noPrune := true } rest else throw .needlessNoPrune
    | .unknown, _ => throw (.unknownOption word)
    | .uri, rest => readOptions c { o with uris := o.uris ++ [word] } rest

/-- The request for a command, if its options go together. -/
def request (c : Command) (o : Options) : Except RequestFault Request := do
  if c = .prune && !o.uris.isEmpty then throw .prunesAll
  if !o.uris.isEmpty && !o.databases.isEmpty then throw .urisAndDatabase
  pure (.perform c o)

/-- What the words of a command line ask for. -/
def Request.ofWords : List String → Except RequestFault Request
  | [] => pure (.help none)
  | word :: rest =>
    if word = "-h" || word = "--help" || word = "help" then pure (.help none)
    else
      match ofName? word with
      | none => throw (.unknownCommand word)
      | some c => do
        match ← readOptions c {} rest with
        | none => pure (.help (some c))
        | some o => c.request o

end Command

end DeclaredTriggers
