import DeclaredTriggers.Proofs.Condition.Comparison
import DeclaredTriggers.Proofs.Sql.ArrayLiteral

/-!
# Routines

What stands between `BEGIN` and `END` in the function of a trigger is a routine: statements that keep the value
of a condition in a variable, choose between statements, raise an exception or return a row. A semicolon ends a
statement, the branches of an `IF` among them, so a text is cut at its semicolons first (`parts?`); what an `IF`
holds is told from where its `ELSE` and its `END IF` stand (`structured?`). A routine that names a variable it
does not declare, or raises an exception with more or fewer arguments than its format has places for, does not
compile and is none.

> `Spells.parts?_append`: a text that is read as lexemes is a part of its own in front of a semicolon.
-/

namespace DeclaredTriggers

open Sql.Expression

namespace Routine

/-! ## Conditions -/

/-- Where a text is taken from. -/
inductive Source where
  | column (r : Row) (name : String)
  | literal (text : String)
  /-- The table whose trigger it is. -/
  | tableName

/-- What a routine is run on: the two rows, each with a text for every column or nothing, and the table. -/
structure Firing where
  rows : Row → String → Option String
  table : String

def Source.text? (f : Firing) : Source → Option String
  | .column r name => f.rows r name
  | .literal text => some text
  | .tableName => some f.table

/-- A condition that joins no others. -/
inductive Test where
  | isFalse (name : String)
  | isDistinct (left right : Source)
  /-- Some texts, put together, are an element of an array. -/
  | isElement (parts : List Source) (elements : List (Option String))

/-- The values of the variables; one that was never set is neither true nor false. -/
abbrev Variables := String → Truth

/-- Texts put together, without those that are nothing. -/
def concatenated (f : Firing) (parts : List Source) : String :=
  String.join (parts.map fun part => (part.text? f).getD "")

/-- The value of a condition. Whether a text equals an element that is null is not known. -/
def Test.value (f : Firing) (vars : Variables) : Test → Truth
  | .isFalse name => .ofBool (vars name = .no)
  | .isDistinct left right => .ofBool (left.text? f ≠ right.text? f)
  | .isElement parts elements =>
    .any (elements.map fun
      | some element => .ofBool (concatenated f parts = element)
      | none => .unknown)

/-! ## Statements -/

/-- A statement of a routine. -/
inductive Statement where
  /-- Keep the value of a condition in a variable. -/
  | select (test : Formula Test) (target : String)
  | branch (test : Formula Test) (body otherwise : List Statement)
  /-- Raise an exception; the message is the format with an argument in each of its places. -/
  | raise (format : List Char) (arguments : List Source)
  | returnRow (r : Row)

/-- How a routine ends. -/
inductive Outcome where
  | raised (message : String)
  | returned (r : Row)
  deriving DecidableEq

/-- How many places for an argument a format has: its percent signs, but two of them in a row are one that
stands for itself. -/
def places : List Char → Nat
  | '%' :: '%' :: s => places s
  | '%' :: s => places s + 1
  | _ :: s => places s
  | [] => 0

/-- A format with the arguments in its places. -/
def filled : List Char → List String → List Char
  | '%' :: '%' :: s, arguments => '%' :: filled s arguments
  | '%' :: s, argument :: arguments => argument.toList ++ filled s arguments
  | c :: s, arguments => c :: filled s arguments
  | [], _ => []

mutual

/-- The variables behind a statement, or how the routine ends with it. -/
def Statement.run (f : Firing) (vars : Variables) : Statement → Except Outcome Variables
  | .select test target => pure (Function.update vars target (test.value (Test.value f vars)))
  | .branch test body otherwise =>
    if test.value (Test.value f vars) = .yes then runAll f vars body else runAll f vars otherwise
  | .raise format arguments =>
    throw (.raised (String.ofList (filled format (arguments.map fun a => (a.text? f).getD "<NULL>"))))
  | .returnRow r => throw (.returned r)

/-- The same of several statements, one after the other. -/
def runAll (f : Firing) (vars : Variables) : List Statement → Except Outcome Variables
  | [] => pure vars
  | s :: ss =>
    match s.run f vars with
    | .ok vars => runAll f vars ss
    | .error outcome => .error outcome

end

/-- How a routine ends, unless it runs out of statements. -/
def outcome? (f : Firing) (statements : List Statement) : Option Outcome :=
  match runAll f (fun _ => .unknown) statements with
  | .ok _ => none
  | .error outcome => some outcome

/-- A routine raises an exception. -/
def Raises (statements : List Statement) (f : Firing) : Prop :=
  ∃ message, outcome? f statements = some (.raised message)

/-- A routine admits certain pairs of an old and a new text in a column, and no others: it begins with a test that
holds for these, and raises an exception for the others unless the text stays as it is. -/
def Admits (statements : List Statement) (column : String) (pairs : List (String × String)) : Prop :=
  ∃ test target rest, statements = .select test target :: rest ∧
    ∀ (f : Firing) (old new : String), f.rows .old column = some old → f.rows .new column = some new →
      (test.value (Test.value f fun _ => .unknown) = .yes ↔ (old, new) ∈ pairs) ∧
        (Raises statements f ↔ (old, new) ∉ pairs ∧ old ≠ new)

/-- Two rows that hold the same text in every column. -/
def Firing.ofPair (old new : String) : Firing where
  rows
    | .old, _ => some old
    | .new, _ => some new
  table := ""

/-- A routine admits one set of pairs only. -/
theorem Admits.mem_iff {statements : List Statement} {column : String} {pairs pairs' : List (String × String)}
    (h : Admits statements column pairs) (h' : Admits statements column pairs') (p : String × String) :
    p ∈ pairs ↔ p ∈ pairs' := by
  obtain ⟨test, target, rest, rfl, hvalue⟩ := h
  obtain ⟨test', target', rest', heq, hvalue'⟩ := h'
  obtain ⟨rfl, rfl⟩ := Statement.select.inj (List.cons.inj heq).1
  exact (hvalue (.ofPair p.1 p.2) p.1 p.2 rfl rfl).1.symm.trans
    (hvalue' (.ofPair p.1 p.2) p.1 p.2 rfl rfl).1

section

variable {f : Firing} {vars : Variables}

theorem runAll_select (test : Formula Test) (target : String) (ss : List Statement) :
    runAll f vars (.select test target :: ss) =
      runAll f (Function.update vars target (test.value (Test.value f vars))) ss := rfl

theorem runAll_branch (test : Formula Test) (body otherwise : List Statement) :
    runAll f vars [.branch test body otherwise] =
      if test.value (Test.value f vars) = .yes then runAll f vars body else runAll f vars otherwise := by
  have hlast : ∀ result : Except Outcome Variables, (match result with
      | .ok vars => runAll f vars []
      | .error outcome => .error outcome) = result := fun result => by cases result <;> rfl
  rw [runAll, hlast, Statement.run]

theorem runAll_raise (format : List Char) (arguments : List Source) (ss : List Statement) :
    runAll f vars (.raise format arguments :: ss) =
      .error (.raised (String.ofList (filled format (arguments.map fun a => (a.text? f).getD "<NULL>")))) := rfl

theorem runAll_return (r : Row) (ss : List Statement) :
    runAll f vars (.returnRow r :: ss) = .error (.returned r) := rfl

end

/-! ## Reading -/

/-- The lexemes of each part of a text, with a semicolon behind each; `sofar` is what has been read of a part. -/
def parts? (m : Scan) (sofar : List Lexeme) : List Char → Option (List (List Lexeme))
  | [] => if m.isSettled && (sofar ++ m.ended).isEmpty then some [] else none
  | c :: s =>
    if c = ';' && m.isSettled then (parts? .between [] s).map ((sofar ++ m.ended) :: ·)
    else parts? (m.step c).2 (sofar ++ (m.step c).1) s

/-- The name of a variable, which is folded. -/
def variableName (word : List Char) : String := String.ofList (word.map Char.toLower)

def Source.ofTrees? : List Tree → Option Source
  | [.leaf (.literal text)] => some (.literal (String.ofList text))
  | [.leaf (.word word)] => if variableName word = "tg_table_name" then some .tableName else none
  | us =>
    match column? us with
    | some (.column r name, []) => some (.column r name)
    | _ => none

section

variable (declared : List String)

/-- The condition that trees are, given the variables that are declared. -/
def Test.ofTrees? (us : List Tree) : Option Test :=
  match us with
  | [concat, .group .round parts, .leaf (.operator ['=']), any,
      .group .round [.leaf (.literal array), .leaf (.operator [':', ':']), type, .group .square []]] =>
    if concat.isKeyword "CONCAT" && any.isKeyword "ANY" && type.isKeyword "TEXT" then
      ((parts.splitOnP (Tree.isMark ',')).mapM Source.ofTrees?).bind fun sources =>
        (Sql.arrayElements? array).map (.isElement sources)
    else none
  | [.leaf (.word word), u, v] =>
    if u.isKeyword "IS" && v.isKeyword "FALSE" && variableName word ∈ declared then
      some (.isFalse (variableName word))
    else none
  | us =>
    match column? us with
    | some (.column r name, us) =>
      (behindKeywords? ["IS", "DISTINCT", "FROM"] us).bind fun us =>
        (Source.ofTrees? us).map (.isDistinct (.column r name))
    | _ => none

/-- Conditions that are joined. -/
def formula? (us : List Tree) : Option (Formula Test) :=
  (clauses? (Test.ofTrees? declared) (readings (Test.ofTrees? declared) us)).map ofClauses

/-- What is behind `SELECT`: a condition and the variable that keeps it. -/
def selection? (us : List Tree) : Option Statement :=
  match us.splitOnP (Tree.isKeyword "INTO") with
  | [test, [.leaf (.word target)]] =>
    if variableName target ∈ declared then (formula? declared test).map (.select · (variableName target)) else none
  | _ => none

/-- What is behind `RAISE`: the format and as many arguments as it has places. -/
def exception? : List Tree → Option Statement
  | level :: .leaf (.literal format) :: us =>
    if level.isKeyword "EXCEPTION" then
      match us.splitOnP (Tree.isMark ',') with
      | [] :: arguments =>
        (arguments.mapM Source.ofTrees?).bind fun arguments =>
          if places format = arguments.length then some (.raise format arguments) else none
      | _ => none
    else none
  | _ => none

/-- What is behind `RETURN`: a row. -/
def returned? : List Tree → Option Statement
  | [row] =>
    if row.isKeyword "OLD" then some (.returnRow .old)
    else if row.isKeyword "NEW" then some (.returnRow .new)
    else none
  | _ => none

/-- A statement that is no `IF`. -/
def statement? : List Tree → Option Statement
  | [] => none
  | u :: us =>
    if u.isKeyword "SELECT" then selection? declared us
    else if u.isKeyword "RAISE" then exception? us
    else if u.isKeyword "RETURN" then returned? us
    else none

/-- A statement, or what tells the branches of an `IF`. -/
inductive Item where
  | statement (s : Statement)
  | ifThen (test : Formula Test)
  | otherwise
  | endIf

/-- The items of a part; behind an `IF`, `test` is what has been read of its condition, the last first. -/
def items? (test : Option (List Tree)) : List Tree → Option (List Item)
  | [] => none
  | u :: us =>
    match test with
    | some sofar =>
      if u.isKeyword "THEN" then
        (formula? declared sofar.reverse).bind fun test => (items? none us).map (.ifThen test :: ·)
      else items? (some (u :: sofar)) us
    | none =>
      if u.isKeyword "IF" then items? (some []) us
      else if u.isKeyword "ELSE" then (items? none us).map (.otherwise :: ·)
      else (statement? declared (u :: us)).map fun s => [.statement s]

/-- The items that some lexemes are. -/
def itemsOf? (ts : List Lexeme) : Option (List Item) :=
  if ts.map (·.isKeyword "END") = [true, false] && ts.map (·.isKeyword "IF") = [false, true] then some [.endIf]
  else
    match Nesting.run ⟨[], []⟩ ts with
    | some ⟨[], content⟩ => items? declared none content.reverse
    | _ => none

end

/-- An `IF` that is open: what stands before it, the last first, its condition and, behind its `ELSE`, what
stands before that. -/
structure Frame where
  before : List Statement
  test : Formula Test
  body : Option (List Statement)

/-- The statements that items are; `sofar` is what has been read of the innermost branch, the last first. -/
def structured? : List Frame → List Statement → List Item → Option (List Statement)
  | [], sofar, [] => some sofar.reverse
  | frames, sofar, .statement s :: items => structured? frames (s :: sofar) items
  | frames, sofar, .ifThen test :: items => structured? (⟨sofar, test, none⟩ :: frames) [] items
  | ⟨before, test, none⟩ :: frames, sofar, .otherwise :: items =>
    structured? (⟨before, test, some sofar.reverse⟩ :: frames) [] items
  | ⟨before, test, none⟩ :: frames, sofar, .endIf :: items =>
    structured? frames (.branch test sofar.reverse [] :: before) items
  | ⟨before, test, some body⟩ :: frames, sofar, .endIf :: items =>
    structured? frames (.branch test body sofar.reverse :: before) items
  | _, _, _ => none

/-- The routine that a text is, given the variables that are declared. -/
def read? (declared : List String) (text : String) : Option (List Statement) :=
  (parts? .between [] text.toList).bind fun parts =>
    (parts.mapM (itemsOf? declared)).bind fun items => structured? [] [] items.flatten

/-! ## Reading parts -/

section

variable {declared : List String}

theorem Source.ofTrees?_columnTrees (r : Row) (name : String) :
    Source.ofTrees? (columnTrees r name) = some (.column r name) := by
  have hcolumn := column?_columnTrees r name []
  rw [List.append_nil] at hcolumn
  show (match column? (columnTrees r name) with
    | some (.column r name, []) => some (Source.column r name)
    | _ => none) = _
  rw [hcolumn]

theorem Test.ofTrees?_element {parts : List Tree} {sources : List Source} {array : List Char}
    {elements : List (Option String)}
    (hparts : (parts.splitOnP (Tree.isMark ',')).mapM Source.ofTrees? = some sources)
    (harray : Sql.arrayElements? array = some elements) :
    Test.ofTrees? declared [.leaf (.word "CONCAT".toList), .group .round parts, .leaf (.operator ['=']),
      .leaf (.word "ANY".toList), .group .round [.leaf (.literal array), .leaf (.operator [':', ':']),
        .leaf (.word "text".toList), .group .square []]] = some (.isElement sources elements) := by
  show ((parts.splitOnP (Tree.isMark ',')).mapM Source.ofTrees?).bind (fun sources =>
    (Sql.arrayElements? array).map (Test.isElement sources)) = _
  rw [hparts, harray]
  rfl

theorem Test.ofTrees?_distinct (r : Row) (name : String) {us : List Tree} {right : Source}
    (h : Source.ofTrees? us = some right) :
    Test.ofTrees? declared (columnTrees r name ++ (.leaf (.word "IS".toList) :: .leaf (.word "DISTINCT".toList) ::
      .leaf (.word "FROM".toList) :: us)) = some (.isDistinct (.column r name) right) := by
  have hcolumn := column?_columnTrees r name (.leaf (.word "IS".toList) :: .leaf (.word "DISTINCT".toList) ::
    .leaf (.word "FROM".toList) :: us)
  show (match column? (columnTrees r name ++ _) with
    | some (.column r name, us) =>
      (behindKeywords? ["IS", "DISTINCT", "FROM"] us).bind fun us =>
        (Source.ofTrees? us).map (Test.isDistinct (.column r name))
    | _ => none) = _
  rw [hcolumn]
  show (Source.ofTrees? us).map _ = _
  rw [h]
  rfl

theorem formula?_atom {us : List Tree} {test : Test} (hus : isComparison us)
    (h : Test.ofTrees? declared us = some test) : formula? declared us = some (.atom test) := by
  unfold formula?
  rw [clauses?_atom hus h]
  rfl

/-- Two tests that are joined by `AND` between parentheses. -/
theorem formula?_and {us vs : List Tree} {test test' : Test} (hus : isComparison us) (hvs : isComparison vs)
    (h : Test.ofTrees? declared us = some test) (h' : Test.ofTrees? declared vs = some test') :
    formula? declared [.group .round (us ++ .leaf (.word "AND".toList) :: vs)] =
      some (.all [.atom test, .atom test']) := by
  have hboth : clauses? (Test.ofTrees? declared)
      (readings (Test.ofTrees? declared) (us ++ .leaf (.word "AND".toList) :: vs)) =
        some [[.atom test, .atom test']] := by
    have hleft := clauses?_atom hus h
    have hright := clauses?_atom hvs h'
    rw [readings_eq] at hleft hright
    rw [readings_eq, List.map_append, List.map_cons]
    have hand : Tree.isKeyword "AND" (.leaf (.word "AND".toList)) := by decide
    have hor : Tree.isKeyword "OR" (.leaf (.word "AND".toList)) = false := by decide
    exact clauses?_and (x := (Tree.leaf (.word "AND".toList), Tree.inner? _ _)) hand hor rfl hleft hright
  unfold formula?
  rw [clauses?_group hboth]
  rfl

theorem selection?_append {test : List Tree} {f : Formula Test} {target : List Char}
    (hinto : ∀ u ∈ test, u.isKeyword "INTO" = false) (htest : formula? declared test = some f)
    (htarget : variableName target ∈ declared) (htarget' : Tree.isKeyword "INTO" (.leaf (.word target)) = false) :
    selection? declared (test ++ [.leaf (.word "INTO".toList), .leaf (.word target)]) =
      some (.select f (variableName target)) := by
  have hsplit : (test ++ [Tree.leaf (.word "INTO".toList), .leaf (.word target)]).splitOnP
      (Tree.isKeyword "INTO") = [test, [.leaf (.word target)]] := by
    have hword : Tree.isKeyword "INTO" (.leaf (.word "INTO".toList)) := by decide
    rw [List.splitOnP_append_cons _ _ hword, List.splitOnP_eq_singleton hinto,
      List.splitOnP_eq_singleton (by simpa using htarget')]
    rfl
  unfold selection?
  rw [hsplit]
  show (if variableName target ∈ declared then (formula? declared test).map _ else none) = _
  rw [if_pos htarget, htest]
  rfl

theorem exception?_eq {us : List Tree} {arguments : List (List Tree)} {sources : List Source}
    (hsplit : us.splitOnP (Tree.isMark ',') = [] :: arguments)
    (hsources : arguments.mapM Source.ofTrees? = some sources) (format : List Char) :
    exception? (.leaf (.word "EXCEPTION".toList) :: .leaf (.literal format) :: us) =
      if places format = sources.length then some (.raise format sources) else none := by
  have hlevel : Lexeme.isKeyword "EXCEPTION" (.word "EXCEPTION".toList) := by decide
  simp only [exception?, Tree.isKeyword, hlevel, if_true, hsplit, hsources, Option.bind_some]

theorem statement?_select (us : List Tree) :
    statement? declared (.leaf (.word "SELECT".toList) :: us) = selection? declared us := by
  rw [statement?, if_pos (by decide)]

theorem statement?_raise (us : List Tree) :
    statement? declared (.leaf (.word "RAISE".toList) :: us) = exception? us := by
  rw [statement?, if_neg (by decide), if_pos (by decide)]

theorem items?_statement {u : Tree} (hif : u.isKeyword "IF" = false) (helse : u.isKeyword "ELSE" = false)
    (us : List Tree) :
    items? declared none (u :: us) = (statement? declared (u :: us)).map fun s => [.statement s] := by
  rw [items?, hif, helse]
  rfl

theorem items?_if (content us : List Tree) : items? declared none (.leaf (.word "IF".toList) ::
    .group .round content :: .leaf (.word "THEN".toList) :: us) =
      (formula? declared [.group .round content]).bind fun test =>
        (items? declared none us).map (.ifThen test :: ·) := by
  have hif : Lexeme.isKeyword "IF" (.word "IF".toList) := by decide
  have hthen : Lexeme.isKeyword "THEN" (.word "THEN".toList) := by decide
  simp only [items?, hif, hthen, Tree.isKeyword, if_true, Bool.false_eq_true, if_false, List.reverse_singleton]

theorem itemsOf?_of_nests {ts : List Lexeme} {us : List Tree} (h : Nests ts us) (hlength : ts.length ≠ 2) :
    itemsOf? declared ts = items? declared none us := by
  have hend : ts.map (·.isKeyword "END") ≠ [true, false] := by
    intro heq
    exact hlength (by simpa using congrArg List.length heq)
  unfold itemsOf?
  rw [if_neg (by simp [hend]), h.run]
  show items? declared none us.reverse.reverse = _
  rw [List.reverse_reverse]

end

/-! ## Values -/

/-- Among elements of which none is null, whether one equals a text is known. -/
theorem Test.value_isElement (f : Firing) (vars : Variables) (parts : List Source) (texts : List String) :
    (Test.isElement parts (texts.map some)).value f vars = .ofBool (decide (concatenated f parts ∈ texts)) := by
  have hvalues : (Test.isElement parts (texts.map some)).value f vars =
      .any (texts.map fun text => .ofBool (decide (concatenated f parts = text))) := by
    show Truth.any ((texts.map some).map _) = _
    rw [List.map_map]
    rfl
  rw [hvalues, Truth.any_map_ofBool]
  exact congrArg Truth.ofBool (by rw [Bool.eq_iff_iff]; simp)

/-! ## Semicolons -/

theorem read_broken (s : List Char) : (Scan.broken.read s).2 = .broken := by
  induction s with
  | nil => rfl
  | cons c s ih => exact ih

/-- A semicolon where the scanner is in no quotes has no place in an expression. -/
theorem step_semicolon {m : Scan} (h : m.isSettled) : (m.step ';').2 = .broken := by
  have hends : m.endsAt ';' := by
    cases m with
    | quoteEnd q _ => cases q <;> rfl
    | between | word _ | number _ | operator _ => rfl
    | quoted _ _ | backslash _ | tag _ | body _ _ | broken => cases h
  rw [Scan.step_of_endsAt hends]
  rfl

theorem parts?_append {m : Scan} {a : List Char} (h : (m.read a).2.isSettled) (sofar : List Lexeme)
    (s : List Char) : parts? m sofar (a ++ ';' :: s) =
      (parts? .between [] s).map ((sofar ++ ((m.read a).1 ++ (m.read a).2.ended)) :: ·) := by
  induction a generalizing m sofar with
  | nil =>
    have hsettled : m.isSettled := h
    rw [List.nil_append, parts?, if_pos (by simp [hsettled])]
    rfl
  | cons c a ih =>
    have hread : (m.read (c :: a)).2 = ((m.step c).2.read a).2 := rfl
    have hopen : ¬(c = ';' && m.isSettled) := by
      rintro hc
      simp only [Bool.and_eq_true, decide_eq_true_eq] at hc
      obtain ⟨rfl, hsettled⟩ := hc
      rw [hread, step_semicolon hsettled, read_broken] at h
      cases h
    rw [List.cons_append, parts?, if_neg hopen, ih (hread ▸ h), hread, Scan.read_cons]
    simp only [List.append_assoc]

end Routine

/-- Behind lexemes, a semicolon ends a part. -/
theorem Sql.Expression.Spells.parts?_append {a : List Char} {ts : List Lexeme} (h : Spells a ts) (s : List Char) :
    Routine.parts? .between [] (a ++ ';' :: s) = (Routine.parts? .between [] s).map (ts :: ·) := by
  rw [Routine.parts?_append h.settled, ← h.lexemes]
  rfl

end DeclaredTriggers
