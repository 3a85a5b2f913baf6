import DeclaredTriggers.Proofs.Act
import DeclaredTriggers.Proofs.Routine.Basic
import DeclaredTriggers.Proofs.Trigger.Building

/-!
# State machines

The body of a state machine puts the old and the new state together, with a colon between them, and asks whether
the text is an element of an array of all transitions. The states of a declared transition hold no colon and no
quotes, braces or commas, so each transition is one element, and no other pair of texts makes that element. But
blanks at either end of an element are no part of it:

> `Trigger.machine_admits_iff`: a state machine admits exactly the declared transitions if and only if no old
> state begins with a blank and no new one ends with one, and the field's name has its percent signs in pairs;
> otherwise it admits the transitions without these blanks, or does not compile.
-/

namespace DeclaredTriggers

open Sql.Expression
open Sql (arrayElements? isArrayBlank)
open Text (replaced)

namespace Kind

/-! ## The text of the body -/

/-- The first statement, which tests the transition. -/
def selection (column array : String) : List Char :=
  "SELECT CONCAT(OLD.".toList ++ ((Sql.quoteName column).toList ++ (", ':', NEW.".toList ++
    ((Sql.quoteName column).toList ++ (") = ANY(".toList ++ (array.toList ++
      "::text[]) INTO _is_valid_transition".toList)))))

/-- The format of the exception. -/
def refusalFormat (field : String) : List Char :=
  "pgtrigger: Invalid transition of field \"".toList ++
    (field.toList ++ "\" from \"%\" to \"%\" on table %".toList)

/-- The second statement up to its `ELSE`. -/
def refusal (column field : String) : List Char :=
  "IF (_is_valid_transition IS FALSE AND OLD.".toList ++ ((Sql.quoteName column).toList ++
    (" IS DISTINCT FROM NEW.".toList ++ ((Sql.quoteName column).toList ++ (") THEN RAISE EXCEPTION ".toList ++
      (('\'' :: replaced '\'' ['\'', '\''] (refusalFormat field) ++ ['\'']) ++ (", OLD.".toList ++
        ((Sql.quoteName column).toList ++ (", NEW.".toList ++
          ((Sql.quoteName column).toList ++ ", TG_TABLE_NAME".toList)))))))))

theorem toList_machineBody (column array field : String) :
    (machineBody (Sql.quoteName column) array field).toList =
      selection column array ++ ';' :: ' ' :: (refusal column field ++ ';' :: ' ' ::
        ("ELSE RETURN NEW".toList ++ ';' :: ' ' :: ("END IF".toList ++ [';']))) := by
  have hformat : replaced '\'' ['\'', '\''] (refusalFormat field) =
      "pgtrigger: Invalid transition of field \"".toList ++ (replaced '\'' ['\'', '\''] field.toList ++
        "\" from \"%\" to \"%\" on table %".toList) := by
    unfold refusalFormat replaced
    rw [List.flatMap_append, List.flatMap_append]
    rfl
  -- where the source breaks its literals is not where the statements break
  have hmoved : ∀ {a b c d : List Char}, a ++ b = c ++ d → ∀ s, a ++ (b ++ s) = c ++ (d ++ s) :=
    fun h s => by rw [← List.append_assoc, h, List.append_assoc]
  have htarget := @hmoved "::text[]) ".toList "INTO _is_valid_transition; ".toList
    "::text[]) INTO _is_valid_transition".toList [';', ' '] (by decide)
  have hopen := @hmoved ") THEN ".toList "RAISE EXCEPTION 'pgtrigger: Invalid transition of field \"".toList
    ") THEN RAISE EXCEPTION ".toList ('\'' :: "pgtrigger: Invalid transition of field \"".toList) (by decide)
  have hclose := @hmoved "\" from \"%\" to \"%\" on table %', ".toList "OLD.".toList
    "\" from \"%\" to \"%\" on table %".toList ('\'' :: ", OLD.".toList) (by decide)
  have hend : ", TG_TABLE_NAME; ".toList = ", TG_TABLE_NAME".toList ++ [';', ' '] := by decide
  have hrest : "ELSE RETURN NEW; END IF;".toList =
      "ELSE RETURN NEW".toList ++ ';' :: ' ' :: ("END IF".toList ++ [';']) := by decide
  unfold machineBody selection refusal
  simp only [toString, String.toList_append, List.append_assoc, Text.quotesDoubled, String.toList_ofList,
    List.cons_append, List.nil_append, hformat, htarget, hopen, hclose, hend, hrest]

/-! ## The lexemes of the body -/

/-- A column of a row, as lexemes. -/
def columnLexemes (r : Row) (column : String) : List Lexeme :=
  [.word r.sql.toList, .mark '.', .name column.toList]

def selectionLexemes (column : String) (array : List Char) : List Lexeme :=
  List.flatten [
    [.word "SELECT".toList, .word "CONCAT".toList, .mark '('], columnLexemes .old column,
    [.mark ',', .literal [':'], .mark ','], columnLexemes .new column,
    [.mark ')', .operator ['='], .word "ANY".toList, .mark '(', .literal array, .operator [':', ':'],
      .word "text".toList, .mark '[', .mark ']', .mark ')', .word "INTO".toList,
      .word "_is_valid_transition".toList]]

def refusalLexemes (column field : String) : List Lexeme :=
  List.flatten [
    [.word "IF".toList, .mark '(', .word "_is_valid_transition".toList, .word "IS".toList, .word "FALSE".toList,
      .word "AND".toList], columnLexemes .old column,
    [.word "IS".toList, .word "DISTINCT".toList, .word "FROM".toList], columnLexemes .new column,
    [.mark ')', .word "THEN".toList, .word "RAISE".toList, .word "EXCEPTION".toList,
      .literal (refusalFormat field), .mark ','], columnLexemes .old column, [.mark ','],
    columnLexemes .new column, [.mark ',', .word "TG_TABLE_NAME".toList]]

theorem spells_selection (column : String) {text array : String} (h : Sql.quoteLiteral text = .ok array) :
    Spells (selection column array) (selectionLexemes column text.toList) := by
  have hname := spells_quoteName column
  have hcast : Spells "::text[]) INTO _is_valid_transition".toList [.operator [':', ':'], .word "text".toList,
    .mark '[', .mark ']', .mark ')', .word "INTO".toList, .word "_is_valid_transition".toList] := ⟨rfl, rfl⟩
  have harray := (spells_quoteLiteral h).meet (by
    obtain ⟨q, -, hread⟩ := read_quoteLiteral h
    rw [hread]
    cases q <;> rfl) hcast
  have hany := harray.behind (p := ") = ANY(".toList)
    (q := [.mark ')', .operator ['='], .word "ANY".toList, .mark '(']) rfl
  have hnew := (hname.delimited (by decide) hany).behind (p := ", ':', NEW.".toList)
    (q := [.mark ',', .literal [':'], .mark ',', .word "NEW".toList, .mark '.']) rfl
  exact (hname.delimited (by decide) hnew).behind (p := "SELECT CONCAT(OLD.".toList)
    (q := [.word "SELECT".toList, .word "CONCAT".toList, .mark '(', .word "OLD".toList, .mark '.']) rfl

theorem spells_refusal (column field : String) :
    Spells (refusal column field) (refusalLexemes column field) := by
  have hname := spells_quoteName column
  have hformat : Spells ('\'' :: replaced '\'' ['\'', '\''] (refusalFormat field) ++ ['\''])
      [.literal (refusalFormat field)] := by
    have hspells := spells_of_quoteEnd (read_doubled (refusalFormat field))
    rwa [List.reverse_reverse] at hspells
  have htable : Spells ", TG_TABLE_NAME".toList [.mark ',', .word "TG_TABLE_NAME".toList] := ⟨rfl, rfl⟩
  have hnew := (hname.delimited (by decide) htable).behind (p := ", NEW.".toList)
    (q := [.mark ',', .word "NEW".toList, .mark '.']) rfl
  have hold := (hname.delimited (by decide) hnew).behind (p := ", OLD.".toList)
    (q := [.mark ',', .word "OLD".toList, .mark '.']) rfl
  have hraise := (hformat.delimited (by decide) hold).behind (p := ") THEN RAISE EXCEPTION ".toList)
    (q := [.mark ')', .word "THEN".toList, .word "RAISE".toList, .word "EXCEPTION".toList]) rfl
  have hdistinct := (hname.delimited (by decide) hraise).behind (p := "IS DISTINCT FROM NEW.".toList)
    (q := [.word "IS".toList, .word "DISTINCT".toList, .word "FROM".toList, .word "NEW".toList, .mark '.']) rfl
  exact (hname.delimited (c := ' ') (by decide) (hdistinct.blank (by decide))).behind
    (p := "IF (_is_valid_transition IS FALSE AND OLD.".toList)
    (q := [.word "IF".toList, .mark '(', .word "_is_valid_transition".toList, .word "IS".toList,
      .word "FALSE".toList, .word "AND".toList, .word "OLD".toList, .mark '.']) rfl

/-- The statements of the body, each in lexemes. -/
theorem parts?_machineBody (column field : String) {text array : String} (h : Sql.quoteLiteral text = .ok array) :
    Routine.parts? .between [] (machineBody (Sql.quoteName column) array field).toList =
      some [selectionLexemes column text.toList, refusalLexemes column field,
        [.word "ELSE".toList, .word "RETURN".toList, .word "NEW".toList],
        [.word "END".toList, .word "IF".toList]] := by
  have helse : Spells "ELSE RETURN NEW".toList [.word "ELSE".toList, .word "RETURN".toList, .word "NEW".toList] :=
    ⟨rfl, rfl⟩
  have hend : Spells "END IF".toList [.word "END".toList, .word "IF".toList] := ⟨rfl, rfl⟩
  have hblank : ∀ {a : List Char} {ts : List Lexeme}, Spells a ts → Spells (' ' :: a) ts :=
    fun ha => ha.blank (by decide)
  rw [toList_machineBody, (spells_selection column h).parts?_append, ← List.cons_append,
    (hblank (spells_refusal column field)).parts?_append, ← List.cons_append, (hblank helse).parts?_append,
    ← List.cons_append, (hblank hend).parts?_append]
  rfl

/-! ## The routine of the body -/

open Routine

/-- The variable of the body. -/
abbrev verdict : String := "_is_valid_transition"

/-- The body as a routine. -/
def machineRoutine (column field : String) (elements : List (Option String)) : List Statement := [
  .select (.atom (.isElement [.column .old column, .literal ":", .column .new column] elements)) verdict,
  .branch (.all [.atom (.isFalse verdict), .atom (.isDistinct (.column .old column) (.column .new column))])
    [.raise (refusalFormat field) [.column .old column, .column .new column, .tableName]] [.returnRow .new]]

/-- What the first statement puts together, as trees. -/
def stateTrees (column : String) : List Tree :=
  List.flatten [columnTrees .old column, [.leaf (.mark ','), .leaf (.literal [':']), .leaf (.mark ',')],
    columnTrees .new column]

/-- What the first statement tests, as trees. -/
def selectionTrees (column : String) (array : List Char) : List Tree := [
  .leaf (.word "CONCAT".toList), .group .round (stateTrees column), .leaf (.operator ['=']),
  .leaf (.word "ANY".toList), .group .round [.leaf (.literal array), .leaf (.operator [':', ':']),
    .leaf (.word "text".toList), .group .square []]]

theorem nests_selection (column : String) (array : List Char) :
    Nests (selectionLexemes column array) (.leaf (.word "SELECT".toList) :: (selectionTrees column array ++
      [.leaf (.word "INTO".toList), .leaf (.word verdict.toList)])) := ⟨rfl, rfl⟩

theorem itemsOf?_selection (column : String) {array : List Char} {elements : List (Option String)}
    (h : arrayElements? array = some elements) :
    itemsOf? [verdict] (selectionLexemes column array) = some [.statement (.select
      (.atom (.isElement [.column .old column, .literal ":", .column .new column] elements)) verdict)] := by
  have hparts : ((stateTrees column).splitOnP (Tree.isMark ',')).mapM Source.ofTrees? =
      some [.column .old column, .literal ":", .column .new column] := by
    have hsplit : (stateTrees column).splitOnP (Tree.isMark ',') =
        [columnTrees .old column, [.leaf (.literal [':'])], columnTrees .new column] := rfl
    simp only [hsplit, List.mapM_cons, List.mapM_nil, Source.ofTrees?_columnTrees]
    rfl
  have htest : formula? [verdict] (selectionTrees column array) =
      some (.atom (.isElement [.column .old column, .literal ":", .column .new column] elements)) :=
    formula?_atom rfl (Test.ofTrees?_element hparts h)
  have hinto : (selectionTrees column array).all (fun u => !u.isKeyword "INTO") := rfl
  have hstatement := selection?_append (by simpa using hinto) htest
    (show variableName verdict.toList ∈ [verdict] by decide) (by decide)
  rw [itemsOf?_of_nests (nests_selection column array) (by simp [selectionLexemes, columnLexemes]),
    items?_statement (by decide) (by decide), statement?_select, hstatement]
  rfl

/-- What decides about the exception, as trees. -/
def refusalTrees (column : String) : List Tree :=
  [.leaf (.word verdict.toList), .leaf (.word "IS".toList), .leaf (.word "FALSE".toList)] ++
    .leaf (.word "AND".toList) :: (columnTrees .old column ++ (.leaf (.word "IS".toList) ::
      .leaf (.word "DISTINCT".toList) :: .leaf (.word "FROM".toList) :: columnTrees .new column))

/-- The arguments of the exception, as trees. -/
def argumentTrees (column : String) : List Tree :=
  .leaf (.mark ',') :: (columnTrees .old column ++ .leaf (.mark ',') :: (columnTrees .new column ++
    [.leaf (.mark ','), .leaf (.word "TG_TABLE_NAME".toList)]))

theorem nests_refusal (column field : String) :
    Nests (refusalLexemes column field) (.leaf (.word "IF".toList) :: .group .round (refusalTrees column) ::
      .leaf (.word "THEN".toList) :: .leaf (.word "RAISE".toList) :: .leaf (.word "EXCEPTION".toList) ::
      .leaf (.literal (refusalFormat field)) :: argumentTrees column) := ⟨rfl, rfl⟩

theorem formula?_refusal (column : String) : formula? [verdict] [.group .round (refusalTrees column)] =
    some (.all [.atom (.isFalse verdict), .atom (.isDistinct (.column .old column) (.column .new column))]) :=
  formula?_and rfl rfl rfl (Test.ofTrees?_distinct .old column (Source.ofTrees?_columnTrees .new column))

theorem exception?_refusal (column field : String) :
    exception? (.leaf (.word "EXCEPTION".toList) :: .leaf (.literal (refusalFormat field)) :: argumentTrees column) =
      if places (refusalFormat field) = 3 then
        some (.raise (refusalFormat field) [.column .old column, .column .new column, .tableName])
      else none := by
  have harguments : [columnTrees .old column, columnTrees .new column,
      [.leaf (.word "TG_TABLE_NAME".toList)]].mapM Source.ofTrees? =
        some [.column .old column, .column .new column, .tableName] := by
    simp only [List.mapM_cons, List.mapM_nil, Source.ofTrees?_columnTrees]
    rfl
  exact exception?_eq rfl harguments _

theorem itemsOf?_refusal (column field : String) : itemsOf? [verdict] (refusalLexemes column field) =
    if places (refusalFormat field) = 3 then some [
      .ifThen (.all [.atom (.isFalse verdict), .atom (.isDistinct (.column .old column) (.column .new column))]),
      .statement (.raise (refusalFormat field) [.column .old column, .column .new column, .tableName])]
    else none := by
  rw [itemsOf?_of_nests (nests_refusal column field) (by simp [refusalLexemes, columnLexemes]), items?_if,
    formula?_refusal, Option.bind_some, items?_statement (by decide) (by decide), statement?_raise,
    exception?_refusal]
  split <;> rfl

/-! ## Formats -/

/-- A format that begins with no percent sign has its own places behind another. -/
theorem places_append {t : List Char} (h : t.head? ≠ some '%') (s : List Char) :
    places (s ++ t) = places s + places t := by
  induction s using places.induct with
  | case1 s ih => exact ih
  | case2 s hs ih =>
    have hne : ∀ r, s ++ t ≠ '%' :: r := by
      intro r heq
      cases s with
      | nil => exact h (by rw [List.nil_append] at heq; rw [heq]; rfl)
      | cons c s => exact hs s (by rw [(List.cons.inj heq).1])
    rw [List.cons_append, places.eq_2 _ hne, places.eq_2 _ hs, ih]
    omega
  | case3 c s hc hc' ih =>
    rw [List.cons_append, places.eq_3 _ _ (fun _ hpercent _ => hc' hpercent) hc', places.eq_3 _ _ hc hc', ih]
  | case4 => exact (Nat.zero_add _).symm

theorem places_behind {s : List Char} (h : '%' ∉ s) (t : List Char) : places (s ++ t) = places t := by
  induction s with
  | nil => rfl
  | cons c s ih =>
    have hc : c ≠ '%' := fun heq => h (heq ▸ List.mem_cons_self)
    rw [List.cons_append, places.eq_3 _ _ (fun _ hpercent _ => hc hpercent) hc,
      ih fun hmem => h (List.mem_cons_of_mem _ hmem)]

/-- The format has a place for both states and for the table, besides those that the field brings with it. -/
theorem places_refusalFormat (field : String) : places (refusalFormat field) = places field.toList + 3 := by
  have hlead : '%' ∉ "pgtrigger: Invalid transition of field \"".toList := by decide
  have hrest : places "\" from \"%\" to \"%\" on table %".toList = 3 := by decide +kernel
  exact (places_behind hlead _).trans ((places_append (by decide) _).trans (congrArg _ hrest))

theorem read?_machineBody (column field : String) {text array : String} (h : Sql.quoteLiteral text = .ok array)
    {elements : List (Option String)} (helements : arrayElements? text.toList = some elements) :
    Routine.read? [verdict] (machineBody (Sql.quoteName column) array field) =
      if places field.toList = 0 then some (machineRoutine column field elements) else none := by
  unfold Routine.read?
  rw [parts?_machineBody column field h, Option.bind_some]
  simp only [List.mapM_cons, List.mapM_nil, itemsOf?_selection column helements, itemsOf?_refusal,
    places_refusalFormat]
  by_cases hfield : places field.toList = 0
  · rw [if_pos hfield, if_pos (by omega)]
    rfl
  · rw [if_neg hfield, if_neg (by omega)]
    rfl

/-! ## Transitions as elements -/

/-- A transition without the blanks that its element in an array does not keep. -/
def stripped (p : String × String) : String × String :=
  (String.ofList (p.1.toList.dropWhile isArrayBlank), String.ofList (p.2.toList.rdropWhile isArrayBlank))

/-- A transition as one text. -/
def joined (p : String × String) : String := p.1 ++ ":" ++ p.2

theorem toList_joined (p : String × String) : (joined p).toList = p.1.toList ++ ':' :: p.2.toList := by
  unfold joined
  rw [String.toList_append, String.toList_append, List.append_assoc]
  rfl

theorem dropWhile_colon (s t : List Char) :
    (s ++ ':' :: t).dropWhile isArrayBlank = s.dropWhile isArrayBlank ++ ':' :: t := by
  induction s with
  | nil => rfl
  | cons c s ih =>
    rw [List.cons_append, List.dropWhile_cons, List.dropWhile_cons]
    split
    next => exact ih
    next => rfl

theorem unpadded_joined (p : String × String) : Sql.unpadded (joined p).toList = (joined (stripped p)).toList := by
  have hreverse : ∀ s t : List Char, (s ++ ':' :: t).reverse = t.reverse ++ ':' :: s.reverse := by simp
  rw [Sql.unpadded, toList_joined, toList_joined, dropWhile_colon, List.rdropWhile, hreverse, dropWhile_colon,
    hreverse, List.reverse_reverse]
  simp [stripped, List.rdropWhile]

/-- A character that a state may hold is a blank or stands for itself in an array. -/
theorem isBare_of_not_reserved {state : String} (h : isReservedState state = false) {c : Char}
    (hc : c ∈ state.toList) : isArrayBlank c ∨ Sql.isBare c := by
  have hne : ∀ d ∈ reserved, c ≠ d := fun d hd heq => isReservedState_eq_false_iff.1 h d hd (heq ▸ hc)
  simp only [reserved, List.forall_mem_cons] at hne
  obtain ⟨-, hcomma, hopen, hclose, hquote, hescape, -⟩ := hne
  by_cases hblank : isArrayBlank c
  · exact .inl hblank
  · exact .inr (by simp [Sql.isBare, hblank, hcomma, hopen, hclose, hquote, hescape])

theorem padded_joined {p : String × String} (h : isReservedState p.1 = false) (h' : isReservedState p.2 = false) :
    Sql.Padded (joined p) := by
  have hcolon : ':' ∈ Sql.unpadded (joined p).toList := by
    rw [unpadded_joined, toList_joined]
    exact List.mem_append_right _ List.mem_cons_self
  refine ⟨fun c hc => ?_, List.ne_nil_of_mem hcolon, fun hnull => ?_⟩
  · rw [toList_joined] at hc
    rcases List.mem_append.1 hc with hc | hc
    · exact isBare_of_not_reserved h hc
    · rcases List.mem_cons.1 hc with rfl | hc
      · exact .inr (by decide)
      · exact isBare_of_not_reserved h' hc
  · have hlower := List.mem_map_of_mem (f := Char.toLower) hcolon
    rw [hnull] at hlower
    exact absurd hlower (by decide)

theorem elements_transitionArray {transitions : List (String × String)}
    (h : ∀ p ∈ transitions, isReservedState p.1 = false ∧ isReservedState p.2 = false) :
    arrayElements? (transitionArray transitions).toList =
      some (((transitions.map stripped).map joined).map some) := by
  have hpadded : ∀ id ∈ transitions.map joined, Sql.Padded id := by
    intro id hid
    obtain ⟨p, hp, rfl⟩ := List.mem_map.1 hid
    exact padded_joined (h p hp).1 (h p hp).2
  have harray : (transitionArray transitions).toList =
      '\x7b' :: (",".intercalate (transitions.map joined)).toList ++ ['\x7d'] := by
    unfold transitionArray
    rw [String.toList_append, String.toList_append]
    rfl
  rw [harray, Sql.elements_joined hpadded, List.map_map, List.map_map, List.map_map]
  refine congrArg some (List.map_congr_left fun p _ => ?_)
  simp only [Function.comp, unpadded_joined, String.ofList_toList]

/-- A pair of states is told from its text, if it is one of a transition without a colon in its states. -/
theorem joined_inj {p q : String × String} (h : ':' ∉ p.1.toList) (h' : ':' ∉ p.2.toList) :
    joined p = joined q ↔ p = q := by
  rw [← String.toList_inj, toList_joined, toList_joined, List.append_cons_inj_of_notMem h h']
  simp only [String.toList_inj, true_and, Prod.ext_iff]

/-! ## What the routine does -/

section

variable {f : Firing} {column old new : String} (hold : f.rows .old column = some old)
  (hnew : f.rows .new column = some new)

include hold hnew

theorem value_transition (vars : Variables) (texts : List String) :
    (Test.isElement [.column .old column, .literal ":", .column .new column] (texts.map some)).value f vars =
      .ofBool (decide (joined (old, new) ∈ texts)) := by
  have htext : concatenated f [.column .old column, .literal ":", .column .new column] = joined (old, new) := by
    simp only [concatenated, List.map_cons, List.map_nil, Source.text?, hold, hnew, Option.getD_some]
    simp [String.join, joined]
  rw [Test.value_isElement, htext]

theorem outcome?_machineRoutine (field : String) (texts : List String) :
    outcome? f (machineRoutine column field (texts.map some)) =
      some (if joined (old, new) ∈ texts ∨ old = new then .returned .new
        else .raised (String.ofList (filled (refusalFormat field) [old, new, f.table]))) := by
  have hrefused : ∀ vars : Variables, (Formula.all [.atom (.isFalse verdict),
      .atom (.isDistinct (.column .old column) (.column .new column))]).value (Test.value f vars) =
        .ofBool (decide (vars verdict = .no ∧ old ≠ new)) := by
    intro vars
    simp only [Formula.value, Formula.values, Test.value, Source.text?, hold, hnew]
    by_cases hno : vars verdict = .no <;> by_cases heq : old = new <;> simp [hno, heq] <;> rfl
  have hmessage : [Source.column .old column, .column .new column, .tableName].map
      (fun a => (a.text? f).getD "<NULL>") = [old, new, f.table] := by
    simp [Source.text?, hold, hnew]
  unfold outcome? machineRoutine
  rw [runAll_select, runAll_branch, hrefused, runAll_raise, runAll_return, hmessage, Function.update_self,
    Formula.value, value_transition hold hnew]
  by_cases heq : old = new
  · simp [heq, Truth.ofBool]
  · by_cases hlisted : joined (old, new) ∈ texts <;> simp [hlisted, heq, Truth.ofBool]

end

example : outcome? { Firing.ofPair "published" "draft" with table := "book" }
    (machineRoutine "status" "status" [some "draft:published"]) =
      some (.raised ("pgtrigger: Invalid transition of field \"status\" from \"published\" to \"draft\" " ++
        "on table book")) := by
  decide +kernel

/-- The routine admits the pairs whose texts are the elements of its array. -/
theorem admits_machineRoutine (column field : String) {pairs : List (String × String)}
    (h : ∀ p ∈ pairs, ':' ∉ p.1.toList ∧ ':' ∉ p.2.toList) :
    Admits (machineRoutine column field ((pairs.map joined).map some)) column pairs := by
  refine ⟨_, _, _, rfl, fun f old new hold hnew => ?_⟩
  have hlisted : joined (old, new) ∈ pairs.map joined ↔ (old, new) ∈ pairs := by
    rw [List.mem_map]
    constructor
    · rintro ⟨p, hp, heq⟩
      exact (joined_inj (h p hp).1 (h p hp).2).1 heq ▸ hp
    · exact fun hmem => ⟨_, hmem, rfl⟩
  constructor
  · rw [Formula.value, value_transition hold hnew, ← hlisted]
    by_cases hmem : joined (old, new) ∈ pairs.map joined <;> simp [hmem, Truth.ofBool]
  · unfold Raises
    rw [outcome?_machineRoutine hold hnew, ← hlisted]
    by_cases hmem : joined (old, new) ∈ pairs.map joined ∨ old = new
    · simp only [if_pos hmem, Option.some.injEq, reduceCtorEq, exists_false, false_iff]
      tauto
    · simp only [if_neg hmem, Option.some.injEq, Outcome.raised.injEq, exists_eq', true_iff]
      tauto

/-! ## Blanks -/

theorem stripped_stripped (p : String × String) : stripped (stripped p) = stripped p := by
  simp only [stripped, String.toList_ofList, List.dropWhile_idempotent, List.rdropWhile_idempotent]

/-- A transition loses nothing if its old state begins with no blank and its new one ends with none. -/
theorem stripped_eq_iff (p : String × String) : stripped p = p ↔
    (∀ c ∈ p.1.toList.head?, isArrayBlank c = false) ∧
      ∀ c ∈ p.2.toList.getLast?, isArrayBlank c = false := by
  have hhead : ∀ s : List Char, s.dropWhile isArrayBlank = s ↔ ∀ c ∈ s.head?, isArrayBlank c = false := by
    intro s
    rw [List.dropWhile_eq_self_iff]
    cases s <;> simp
  have hlast : ∀ s : List Char, s.rdropWhile isArrayBlank = s ↔ ∀ c ∈ s.getLast?, isArrayBlank c = false := by
    intro s
    rw [List.rdropWhile_eq_self_iff]
    by_cases hs : s = []
    · simp [hs]
    · simp [List.getLast?_eq_some_getLast hs, hs]
  rw [← hhead, ← hlast, Prod.ext_iff, ← String.toList_inj, ← String.toList_inj]
  simp only [stripped, String.toList_ofList]

theorem not_reserved_of_fault? {field : String} {transitions : List (String × String)}
    (h : (stateMachine field transitions).fault? = none) :
    ∀ p ∈ transitions, isReservedState p.1 = false ∧ isReservedState p.2 = false := by
  obtain ⟨-, -, hall⟩ := fault?_eq_none_iff.1 h
  exact fun p hp => ⟨isReservedState_eq_false_iff.2 fun c hc => (hall p hp c hc).1,
    isReservedState_eq_false_iff.2 fun c hc => (hall p hp c hc).2⟩

/-- The body of a state machine is a routine if the field's name has its percent signs in pairs, and none
otherwise; the routine admits the declared transitions without the blanks that an array does not keep. -/
theorem exists_routine {field : String} {transitions : List (String × String)} {e : Entity} {op : Operation}
    {text : String} (h : (stateMachine field transitions).fault? = none)
    (hbody : (stateMachine field transitions).body e op = .ok text) :
    ∃ column routine, e.column field = .ok column ∧ Admits routine column (transitions.map stripped) ∧
      Routine.read? [verdict] text = if places field.toList = 0 then some routine else none := by
  obtain ⟨column, hcolumn, hrest⟩ := exists_ok_of_bind hbody
  obtain ⟨array, harray, htext⟩ := exists_ok_of_bind hrest
  obtain rfl := Except.ok.inj htext
  have hstates := not_reserved_of_fault? h
  have hcolon : ∀ p ∈ transitions.map stripped, ':' ∉ p.1.toList ∧ ':' ∉ p.2.toList := by
    intro p hp
    obtain ⟨q, hq, rfl⟩ := List.mem_map.1 hp
    obtain ⟨hold, hnew⟩ := hstates q hq
    simp only [stripped, String.toList_ofList]
    exact ⟨fun hmem => isReservedState_eq_false_iff.1 hold _ (by decide) ((List.dropWhile_suffix _).subset hmem),
      fun hmem => isReservedState_eq_false_iff.1 hnew _ (by decide) ((List.rdropWhile_prefix _ _).subset hmem)⟩
  refine ⟨column, _, hcolumn, admits_machineRoutine column field hcolon, ?_⟩
  exact read?_machineBody column field harray (elements_transitionArray hstates)

end Kind

namespace Trigger

/-- For every state machine whose body can be written: the body compiles if and only if the field's name has its
percent signs in pairs. The routine that it then is admits exactly the declared transitions without the blanks in
front of their old and behind their new states: the test holds for these pairs of texts and no others, and the
routine raises an exception for the others unless the text stays as it is. So exactly the declared transitions
are admitted if and only if the body compiles and no old state begins with a blank and no new one ends with one. -/
theorem machine_admits_iff {t : Trigger} {field : String} {transitions : List (String × String)}
    (hkind : t.kind = .stateMachine field transitions) {e : Entity} {text : String}
    (hbody : t.kind.body e t.operation = .ok text) :
    ∃ column, e.column field = .ok column ∧
      ((∃ routine, Routine.read? ((t.kind.declarations t.declare).map (·.1)) text = some routine) ↔
        Routine.places field.toList = 0) ∧
      (∀ routine, Routine.read? ((t.kind.declarations t.declare).map (·.1)) text = some routine →
        Routine.Admits routine column (transitions.map Kind.stripped)) ∧
      ((∃ routine, Routine.read? ((t.kind.declarations t.declare).map (·.1)) text = some routine ∧
          Routine.Admits routine column transitions) ↔
        Routine.places field.toList = 0 ∧
          ∀ p ∈ transitions, (∀ c ∈ p.1.toList.head?, isArrayBlank c = false) ∧
            ∀ c ∈ p.2.toList.getLast?, isArrayBlank c = false) := by
  have hfault := Kind.fault?_eq_none_iff.2 t.wellFormed.kind
  rw [hkind] at hbody hfault ⊢
  have hdeclared : ((Kind.stateMachine field transitions).declarations t.declare).map (·.1) =
      [Kind.verdict] := rfl
  rw [hdeclared]
  obtain ⟨column, routine, hcolumn, hadmits, hread⟩ := Kind.exists_routine hfault hbody
  have hreads : ∀ r, Routine.read? [Kind.verdict] text = some r ↔
      Routine.places field.toList = 0 ∧ routine = r := by
    intro r
    rw [hread]
    split <;> simp [*]
  simp only [hreads, ← Kind.stripped_eq_iff]
  refine ⟨column, hcolumn, ⟨fun ⟨_, hplaces, _⟩ => hplaces, fun hplaces => ⟨_, hplaces, rfl⟩⟩,
    fun _ ⟨_, heq⟩ => heq ▸ hadmits, ?_⟩
  constructor
  · rintro ⟨_, ⟨hplaces, rfl⟩, hadmits'⟩
    refine ⟨hplaces, fun p hp => ?_⟩
    -- a declared transition is one that lost its blanks, and has none to lose
    obtain ⟨q, -, rfl⟩ := List.mem_map.1 ((hadmits'.mem_iff hadmits p).1 hp)
    exact Kind.stripped_stripped q
  · rintro ⟨hplaces, hstripped⟩
    refine ⟨routine, ⟨hplaces, rfl⟩, ?_⟩
    rwa [List.map_congr_left hstripped, List.map_id'] at hadmits

/-- A state machine for the status of a book. -/
def publishing (transitions : List (String × String))
    (h : (Kind.stateMachine "status" transitions).fault? = none) : Trigger where
  name := "status_fsm"
  level := .row
  moment := .before
  operation := .update
  condition := none
  tables := none
  declare := []
  timing := none
  kind := .stateMachine "status" transitions
  named := by decide +kernel
  sound := h

end Trigger

/-- Books with a status. -/
def Entity.statused : Entity := { label := "library.Book", table := "book", fields := [{ name := "status" }] }

namespace Trigger

/-- A draft may be published and what was published may be archived, and nothing else. -/
theorem machine_admits_archived :
    ∃ text, (publishing [("draft", "published"), ("published", "archived")] (by decide)).kind.body .statused
        .update = .ok text ∧
      ∃ routine, Routine.read? ["_is_valid_transition"] text = some routine ∧
        Routine.Admits routine "status" [("draft", "published"), ("published", "archived")] := by
  obtain ⟨column, hcolumn, -, -, hexact⟩ := machine_admits_iff
    (t := publishing [("draft", "published"), ("published", "archived")] (by decide)) rfl (e := .statused) rfl
  obtain rfl := Except.ok.inj hcolumn
  have hstripped : ∀ p ∈ [("draft", "published"), ("published", "archived")], Kind.stripped p = p := by decide
  exact ⟨_, rfl, hexact.2 ⟨by decide, fun p hp => (Kind.stripped_eq_iff p).1 (hstripped p hp)⟩⟩

/-- A blank in front of a declared state: the declared transition is refused, and one that was not declared is
admitted. -/
theorem machine_refuses_declared :
    ∃ text routine, (publishing [(" draft", "published")] (by decide)).kind.body .statused .update = .ok text ∧
      Routine.read? ["_is_valid_transition"] text = some routine ∧
      Routine.Raises routine (.ofPair " draft" "published") ∧
      ¬Routine.Raises routine (.ofPair "draft" "published") ∧
      ¬Routine.Admits routine "status" [(" draft", "published")] := by
  have hfault : (Kind.stateMachine "status" [(" draft", "published")]).fault? = none := by decide
  have hbody : (Kind.stateMachine "status" [(" draft", "published")]).body .statused .update = .ok _ := rfl
  obtain ⟨column, routine, hcolumn, hadmits, hread⟩ := Kind.exists_routine hfault hbody
  obtain rfl := Except.ok.inj hcolumn
  rw [if_pos (by decide)] at hread
  have hstripped : [(" draft", "published")].map Kind.stripped = [("draft", "published")] := by decide
  rw [hstripped] at hadmits
  refine ⟨_, routine, rfl, hread, ?_, ?_, fun hdeclared => ?_⟩
  · obtain ⟨_, _, _, _, hraises⟩ := hadmits
    exact (hraises (.ofPair " draft" "published") _ _ rfl rfl).2.2 (by decide)
  · obtain ⟨_, _, _, _, hraises⟩ := hadmits
    intro hraised
    exact absurd ((hraises (.ofPair "draft" "published") _ _ rfl rfl).2.1 hraised) (by decide)
  · exact absurd ((hdeclared.mem_iff hadmits (" draft", "published")).1 List.mem_cons_self) (by decide)

end Trigger

end DeclaredTriggers
