import DeclaredTriggers.Condition.Basic
import DeclaredTriggers.Proofs.Act
import DeclaredTriggers.Proofs.Sql.Expression.Reading

/-!
# Comparisons

What a lookup says, apart from how it is written: a comparison of a column with a value or a column, a test
for nothing, a list of values, a pattern. `Comparison.ofTrees?` reads one from the trees of an expression,
and `Comparison.value` gives its value for two rows, over any data: with nothing on a side, a comparison is
unknown unless it asks for that.

> `Lookup.reads`: the text of a lookup is read as the comparison that the lookup asks for.
-/

namespace DeclaredTriggers

open Sql.Expression
open Text (isBlank)

/-! ## Comparisons and their values -/

/-- One side of a comparison. -/
inductive Side where
  | column (r : Row) (name : String)
  | null
  | bool (b : Bool)
  | number (text : String)
  | text (s : String)
  deriving DecidableEq

/-- A condition that joins no others. -/
inductive Comparison where
  | relation (r : Relation) (left right : Side)
  | isNull (left : Side)
  | isNotNull (left : Side)
  | oneOf (left : Side) (items : List Side)
  | like (left : Side) (pattern : String)
  /-- The same without regard to letter case. -/
  | likeAnyCase (left : Side) (pattern : String)
  /-- Some column of the rows is distinct. -/
  | rowsDistinct
  deriving DecidableEq

/-- What a database makes of the data of its columns. -/
structure Data (D : Type) where
  bool : Bool → D
  number : String → D
  text : String → D
  compare : Relation → D → D → Bool
  like : D → String → Bool
  likeAnyCase : D → String → Bool

/-- The two rows, each a datum for every column or nothing. -/
abbrev Rows (D : Type) := Row → String → Option D

section

variable {D : Type} (data : Data D) (rows : Rows D)

def Side.datum? : Side → Option D
  | .column r name => rows r name
  | .null => none
  | .bool b => some (data.bool b)
  | .number digits => some (data.number digits)
  | .text t => some (data.text t)

/-- How two sides compare. Only asking for what is distinct has an answer where one of them is nothing. -/
def Data.truth (r : Relation) : Option D → Option D → Truth
  | some a, some b =>
    .ofBool (match r with
      | .distinct => !data.compare .equal a b
      | .notDistinct => data.compare .equal a b
      | r => data.compare r a b)
  | a, b =>
    match r with
    | .distinct => .ofBool (a.isSome || b.isSome)
    | .notDistinct => .ofBool (!(a.isSome || b.isSome))
    | _ => .unknown

/-- The value of a comparison for two rows with some columns. -/
def Comparison.value (columns : List String) : Comparison → Truth
  | .relation r left right => data.truth r (left.datum? data rows) (right.datum? data rows)
  | .isNull left => .ofBool (left.datum? data rows).isNone
  | .isNotNull left => .ofBool (left.datum? data rows).isSome
  | .oneOf left items =>
    .any (items.map fun item => data.truth .equal (left.datum? data rows) (item.datum? data rows))
  | .like left pattern =>
    match left.datum? data rows with
    | some d => .ofBool (data.like d pattern)
    | none => .unknown
  | .likeAnyCase left pattern =>
    match left.datum? data rows with
    | some d => .ofBool (data.likeAnyCase d pattern)
    | none => .unknown
  | .rowsDistinct =>
    .any (columns.map fun column => data.truth .distinct (rows .old column) (rows .new column))

end

/-! ## What a lookup asks for -/

/-- A value as a side of a comparison. -/
def Value.side : Value → Side
  | .null => .null
  | .bool b => .bool b
  | .int i => .number (toString i)
  | .float x => .number x.text
  | .text s => .text s

/-- An operand as a side of a comparison. -/
def Operand.side? (e : Entity) : Operand → Option Side
  | .value v => some v.side
  | .values _ => none
  | .field reference =>
    match Row.split reference with
    | .ok (row, name) => (e.column? name).map (.column row)
    | .error _ => none

/-- The comparison of a side with an operand. -/
def LookupKind.comparison? (e : Entity) (left : Side) : LookupKind → Operand → Option Comparison
  | .relation .equal, .value .null => some (.isNull left)
  | .isNull, .value (.bool b) => some (if b then .isNull left else .isNotNull left)
  | .oneOf, .values (v :: vs) => some (.oneOf left ((v :: vs).map Value.side))
  | .text m, .value (.text t) =>
    let pattern := Lookup.TextMatch.pattern m t
    some (if m = .containsAnyCase then .likeAnyCase left pattern else .like left pattern)
  | .relation r, operand => (operand.side? e).map (.relation r left)
  | _, _ => none

/-- The comparison that a lookup asks for. -/
def Lookup.comparison? (l : Lookup) (e : Entity) : Option Comparison :=
  match Lookup.decode l.key with
  | .ok (row, name, kind) =>
    (e.column? name).bind fun column => kind.comparison? e (.column row column) l.operand
  | .error _ => none

/-! ## Reading a comparison -/

/-- What follows some keywords. -/
def behindKeywords? : List String → List Tree → Option (List Tree)
  | [], us => some us
  | _ :: _, [] => none
  | keyword :: keywords, u :: us =>
    if u.isKeyword keyword then behindKeywords? keywords us else none

/-- The column at the beginning, and what follows it. -/
def column? : List Tree → Option (Side × List Tree)
  | row :: .leaf (.mark '.') :: .leaf (.name column) :: us =>
    if row.isKeyword "OLD" then some (.column .old (String.ofList column), us)
    else if row.isKeyword "NEW" then some (.column .new (String.ofList column), us)
    else none
  | _ => none

/-- One side of a comparison, up to its end. -/
def side? : List Tree → Option Side
  | [.leaf (.number digits)] => some (.number (String.ofList digits))
  | [.leaf (.operator ['-']), .leaf (.number digits)] => some (.number (String.ofList ('-' :: digits)))
  | [.leaf (.literal text)] => some (.text (String.ofList text))
  | [.leaf (.word word)] =>
    if Lexeme.isKeyword "NULL" (.word word) then some .null
    else if Lexeme.isKeyword "TRUE" (.word word) then some (.bool true)
    else if Lexeme.isKeyword "FALSE" (.word word) then some (.bool false)
    else none
  | us =>
    match column? us with
    | some (side, []) => some side
    | _ => none

/-- The operators that compare. -/
def comparators : List (String × Relation) :=
  [("=", .equal), (">", .greater), (">=", .greaterOrEqual), ("<", .less), ("<=", .lessOrEqual)]

/-- The relation at the beginning, and what follows it. -/
def relation? : List Tree → Option (Relation × List Tree)
  | .leaf (.operator o) :: us => (comparators.lookup (String.ofList o)).map fun r => (r, us)
  | us =>
    match behindKeywords? ["IS", "DISTINCT", "FROM"] us with
    | some us => some (.distinct, us)
    | none => (behindKeywords? ["IS", "NOT", "DISTINCT", "FROM"] us).map fun us => (.notDistinct, us)

/-- What follows the left side. -/
def behindLeft? (left : Side) (us : List Tree) : Option Comparison :=
  match relation? us with
  | some (r, us) => (side? us).map (.relation r left)
  | none =>
    match us with
    | [.leaf (.operator [':', ':']), type, word, .leaf (.literal pattern)] =>
      if type.isKeyword "TEXT" && word.isKeyword "LIKE" then some (.like left (String.ofList pattern))
      else none
    | [word, .group .round items] =>
      if word.isKeyword "IN" then
        ((items.splitOnP (Tree.isMark ',')).mapM side?).map (.oneOf left)
      else none
    | us =>
      match behindKeywords? ["IS", "NULL"] us, behindKeywords? ["IS", "NOT", "NULL"] us with
      | some [], _ => some (.isNull left)
      | _, some [] => some (.isNotNull left)
      | _, _ => none

/-- A column that is made a text. -/
def cast? (us : List Tree) : Option Side :=
  match column? us with
  | some (side, [.leaf (.operator [':', ':']), type]) => if type.isKeyword "TEXT" then some side else none
  | _ => none

/-- The comparison of a column's text in capitals with a pattern in capitals. -/
def anyCase? : List Tree → Option Comparison
  | [upper, .group .round text, word, upper', .group .round [.leaf (.literal pattern)]] =>
    if upper.isKeyword "UPPER" && upper'.isKeyword "UPPER" && word.isKeyword "LIKE" then
      (cast? text).map fun left => .likeAnyCase left (String.ofList pattern)
    else none
  | _ => none

/-- Whether trees compare the rows as wholes. -/
def areRowsDistinct : List Tree → Bool
  | [old, .leaf (.mark '.'), .leaf (.operator ['*']), word, word', word'', new, .leaf (.mark '.'),
      .leaf (.operator ['*'])] =>
    old.isKeyword "OLD" && word.isKeyword "IS" && word'.isKeyword "DISTINCT" && word''.isKeyword "FROM" &&
      new.isKeyword "NEW"
  | _ => false

/-- The comparison that trees are. -/
def Comparison.ofTrees? (us : List Tree) : Option Comparison :=
  if areRowsDistinct us then some .rowsDistinct
  else
    match column? us with
    | some (left, us) => behindLeft? left us
    | none => anyCase? us

/-! ## Columns -/

/-- The trees of a column in one of the rows. -/
def columnTrees (r : Row) (name : String) : List Tree :=
  [.leaf (.word r.sql.toList), .leaf (.mark '.'), .leaf (.name name.toList)]

theorem read_column (r : Row) (name : String) :
    Scan.between.read (r.sql ++ "." ++ Sql.quoteName name).toList =
      ([.word r.sql.toList, .mark '.'], .quoteEnd .name name.toList.reverse) := by
  have hrow : Scan.between.read (r.sql ++ ".").toList = ([.word r.sql.toList, .mark '.'], .between) := by
    cases r <;> decide
  rw [String.toList_append, Scan.read_append, hrow, read_quoteName]
  rfl

theorem nests_column (r : Row) (name : String) :
    Nests [.word r.sql.toList, .mark '.', .name name.toList] (columnTrees r name) := by
  cases r <;> exact ⟨rfl, rfl⟩

theorem spells_column (r : Row) (name : String) :
    Spells (r.sql ++ "." ++ Sql.quoteName name).toList
      [.word r.sql.toList, .mark '.', .name name.toList] := by
  refine ⟨?_, by rw [read_column]; rfl⟩
  unfold lexemes
  rw [read_column]
  simp [Scan.ended, Quotes.lexeme]

theorem balanced_column (r : Row) (name : String) :
    Balanced (r.sql ++ "." ++ Sql.quoteName name).toList (columnTrees r name) :=
  ⟨_, spells_column r name, nests_column r name⟩

theorem column?_columnTrees (r : Row) (name : String) (us : List Tree) :
    column? (columnTrees r name ++ us) = some (.column r name, us) := by
  have hname := String.ofList_toList (s := name)
  cases r
  · show some (Side.column .old (String.ofList name.toList), us) = _
    rw [hname]
  · show some (Side.column .new (String.ofList name.toList), us) = _
    rw [hname]

/-! ## Sides -/

/-- A text that is one side of a comparison. -/
structure Writes (s : List Char) (us : List Tree) (side : Side) : Prop where
  balanced : Balanced s us
  side : side? us = some side
  whole : us.all fun u => !u.separates

theorem writes_column (r : Row) (name : String) :
    Writes (r.sql ++ "." ++ Sql.quoteName name).toList (columnTrees r name) (.column r name) where
  balanced := balanced_column r name
  side := by
    have hcolumn := column?_columnTrees r name []
    rw [List.append_nil] at hcolumn
    show (match column? (columnTrees r name) with | some (side, []) => some side | _ => none) = _
    rw [hcolumn]
  whole := by cases r <;> rfl

/-- The digits of a number. -/
structure IsNumeral (digits : List Char) : Prop where
  first : digits.head?.any Char.isDigit
  rest : ∀ c ∈ digits, isNumberRest c

theorem IsNumeral.spells {digits : List Char} (h : IsNumeral digits) : Spells digits [.number digits] := by
  obtain ⟨c, hhead, hc⟩ := (Option.any_eq_true _ _).1 h.first
  obtain ⟨digits, rfl⟩ := List.head?_eq_some_iff.1 hhead
  exact spells_number hc fun d hd => h.rest d (List.mem_cons_of_mem _ hd)

/-- A number is a side, with a minus in front or without. -/
theorem writes_number {digits : List Char} (h : IsNumeral digits) :
    Writes digits [.leaf (.number digits)] (.number (String.ofList digits)) ∧
      Writes ('-' :: digits) [.leaf (.operator ['-']), .leaf (.number digits)]
        (.number (String.ofList ('-' :: digits))) := by
  refine ⟨⟨⟨_, h.spells, rfl, rfl⟩, rfl, rfl⟩, ⟨⟨[.operator ['-'], .number digits], ?_, rfl, rfl⟩, rfl, rfl⟩⟩
  have hminus : Spells ['-'] [.operator ['-']] := ⟨rfl, rfl⟩
  obtain ⟨c, hhead, hc⟩ := (Option.any_eq_true _ _).1 h.first
  obtain ⟨rest, rfl⟩ := List.head?_eq_some_iff.1 hhead
  refine hminus.meet (a := ['-']) ?_ h.spells
  have hall : ∀ n < 128, (Char.ofNat n).isDigit → isOperator (Char.ofNat n) = false := by decide +kernel
  have hoperator := forall_ascii (P := fun c => c.isDigit → isOperator c = false) hall c
    (Definition.toNat_lt_of_isNameCharacter (by simp [Definition.isNameCharacter, Char.isAlphanum, hc])) hc
  show (!isOperator c) = true
  rw [hoperator]
  rfl

/-- A text that is a number, with a minus in front or without. -/
theorem exists_writes_number {text : String} {digits : List Char} (h : IsNumeral digits)
    (htext : text.toList = digits ∨ text.toList = '-' :: digits) :
    ∃ us, Writes text.toList us (.number text) := by
  have hnumber := writes_number h
  rcases htext with htext | htext
  · rw [← htext, String.ofList_toList] at hnumber
    exact ⟨_, hnumber.1⟩
  · rw [← htext, String.ofList_toList] at hnumber
    exact ⟨_, hnumber.2⟩

theorem IsNumeral.of_digits {digits : List Char} (hne : digits ≠ []) (h : ∀ c ∈ digits, c.isDigit) :
    IsNumeral digits := by
  obtain ⟨c, rest, rfl⟩ := List.exists_cons_of_ne_nil hne
  exact ⟨h c List.mem_cons_self, fun d hd => by simp [isNumberRest, h d hd]⟩

theorem isDigit_of_toDigits {n : Nat} : ∀ c ∈ Nat.toDigits 10 n, c.isDigit := fun _ hc =>
  Nat.isDigit_of_mem_toDigits (by decide) (by decide) hc

theorem isNumeral_positional (digits : Nat) (exponent : Int) :
    IsNumeral (Decimal.positional digits exponent) := by
  have hzeros : ∀ n, ∀ c ∈ List.replicate n '0', c.isDigit := fun n c hc => by
    rw [(List.mem_replicate.1 hc).2]
    rfl
  unfold Decimal.positional
  simp only
  split
  next =>
    refine .of_digits (by simp [Nat.toDigits_ne_nil]) fun c hc => ?_
    exact (List.mem_append.1 hc).elim (isDigit_of_toDigits c) (hzeros _ c)
  next hexponent =>
    -- the digits are padded so that at least one stands in front of the point
    generalize hpadded : List.replicate ((-exponent).toNat + 1 - (Nat.toDigits 10 digits).length) '0' ++
      Nat.toDigits 10 digits = padded
    have hdigit : ∀ c ∈ padded, c.isDigit := by
      rw [← hpadded]
      exact fun c hc => (List.mem_append.1 hc).elim (hzeros _ c) (isDigit_of_toDigits c)
    have hlength : (-exponent).toNat < padded.length := by
      rw [← hpadded, List.length_append, List.length_replicate]
      omega
    rw [List.splitAt_eq]
    simp only
    have hne : padded.take (padded.length - (-exponent).toNat) ≠ [] := by
      intro hnil
      have := congrArg List.length hnil
      rw [List.length_take, List.length_nil] at this
      omega
    have hwhole := IsNumeral.of_digits hne fun c hc => hdigit c (List.mem_of_mem_take hc)
    split
    next => exact hwhole
    next =>
      refine ⟨?_, fun c hc => ?_⟩
      · obtain ⟨c, rest, hcons⟩ := List.exists_cons_of_ne_nil hne
        have hfirst := hwhole.first
        rw [hcons] at hfirst ⊢
        exact hfirst
      · rcases List.mem_append.1 hc with hc | hc
        · exact hwhole.rest c hc
        · rcases List.mem_cons.1 hc with rfl | hc
          · rfl
          · have hmem := List.mem_of_mem_drop
              ((List.dropWhile_suffix _).subset (List.mem_reverse.1 hc) |> List.mem_reverse.1)
            simp [isNumberRest, hdigit c hmem]

/-- The text of a number is its digits, with a minus in front or without. -/
theorem Value.exists_numeral {v : Value} {text : String} (h : v.sql = .ok text)
    (hnumber : v.side = .number text) :
    ∃ digits, IsNumeral digits ∧ (text.toList = digits ∨ text.toList = '-' :: digits) := by
  cases v with
  | null | bool _ | text _ => cases hnumber
  | int i =>
    obtain rfl := Except.ok.inj h
    have hdigits : ∀ n, IsNumeral (Nat.toDigits 10 n) := fun n =>
      .of_digits Nat.toDigits_ne_nil isDigit_of_toDigits
    have htext : toString i = if 0 ≤ i then i.toNat.repr else "-" ++ (-i).toNat.repr :=
      Int.toString_eq_repr.trans Int.repr_eq_if
    by_cases hi : 0 ≤ i
    · refine ⟨_, hdigits i.toNat, .inl ?_⟩
      rw [htext, if_pos hi, Nat.toList_repr]
    · refine ⟨_, hdigits (-i).toNat, .inr ?_⟩
      rw [htext, if_neg hi, String.toList_append, Nat.toList_repr]
      rfl
  | float x =>
    simp only [Value.sql] at h
    split at h
    next hfinite =>
      obtain rfl := Except.ok.inj h
      cases x with
      | nan | infinite _ => cases hfinite
      | finite negative m e =>
        have hmagnitude : IsNumeral (if m = 0 then ['0']
            else Decimal.positional (Decimal.shortest m e).1 (Decimal.shortest m e).2) := by
          split
          · exact .of_digits (by simp) (by simp)
          · exact isNumeral_positional _ _
        refine ⟨_, hmagnitude, ?_⟩
        cases negative
        · exact .inl (String.toList_ofList ..)
        · exact .inr (String.toList_ofList ..)
    next => cases h

/-- Only a number has a text that is the number's. -/
theorem Value.side_of_number {v : Value} {text : String} (h : v.sql = .ok text)
    (hv : (∃ i, v = .int i) ∨ ∃ x, v = .float x) : v.side = .number text := by
  rcases hv with ⟨i, rfl⟩ | ⟨x, rfl⟩
  · obtain rfl := Except.ok.inj h
    rfl
  · simp only [Value.sql] at h
    split at h
    next =>
      obtain rfl := Except.ok.inj h
      rfl
    next => cases h

/-- The text of a value is read as that value. -/
theorem Value.writes {v : Value} {text : String} (h : v.sql = .ok text) :
    ∃ us, Writes text.toList us v.side := by
  cases v with
  | null =>
    obtain rfl := Except.ok.inj h
    exact ⟨[.leaf (.word "NULL".toList)],
      ⟨⟨[.word "NULL".toList], ⟨by decide, by decide⟩, rfl, rfl⟩, by decide, rfl⟩⟩
  | bool b =>
    obtain rfl := Except.ok.inj h
    cases b
    · exact ⟨[.leaf (.word "false".toList)],
        ⟨⟨[.word "false".toList], ⟨by decide, by decide⟩, rfl, rfl⟩, by decide, rfl⟩⟩
    · exact ⟨[.leaf (.word "true".toList)],
        ⟨⟨[.word "true".toList], ⟨by decide, by decide⟩, rfl, rfl⟩, by decide, rfl⟩⟩
  | int i =>
    have hside := Value.side_of_number h (.inl ⟨i, rfl⟩)
    obtain ⟨digits, hdigits, htext⟩ := Value.exists_numeral h hside
    rw [hside]
    exact exists_writes_number hdigits htext
  | float x =>
    have hside := Value.side_of_number h (.inr ⟨x, rfl⟩)
    obtain ⟨digits, hdigits, htext⟩ := Value.exists_numeral h hside
    rw [hside]
    exact exists_writes_number hdigits htext
  | text s =>
    have hliteral := spells_quoteLiteral h
    refine ⟨[.leaf (.literal s.toList)], ⟨⟨_, hliteral, rfl, rfl⟩, ?_, rfl⟩⟩
    show some (Side.text (String.ofList s.toList)) = _
    rw [String.ofList_toList]
    rfl

theorem Entity.column?_of_column {e : Entity} {field name : String} (h : e.column field = .ok name) :
    e.column? field = some name := by
  unfold Entity.column at h
  split at h
  next hcolumn => exact Except.ok.inj h ▸ hcolumn
  next => cases h

/-- The text of an operand is read as that operand. -/
theorem Lookup.writes_operandSql {e : Entity} {key : String} {operand : Operand} {text : String}
    (h : Lookup.operandSql e key operand = .ok text) :
    ∃ us side, operand.side? e = some side ∧ Writes text.toList us side := by
  cases operand with
  | value v =>
    obtain ⟨us, hus⟩ := Value.writes h
    exact ⟨us, _, rfl, hus⟩
  | values vs => cases h
  | field reference =>
    obtain ⟨⟨row, field⟩, hsplit, hrest⟩ := exists_ok_of_bind h
    obtain ⟨name, hname, htext⟩ := exists_ok_of_bind hrest
    obtain rfl := Except.ok.inj htext
    refine ⟨_, _, ?_, writes_column row name⟩
    simp only [Operand.side?, hsplit, Entity.column?_of_column hname, Option.map_some]

/-- The texts of several values, with commas between them. -/
theorem balanced_values {vs : List Value} {items : List String} (h : vs.mapM Value.sql = .ok items)
    (hne : vs ≠ []) : ∃ us, Balanced (", ".intercalate items).toList us ∧
      (us.splitOnP (Tree.isMark ',')).mapM side? = some (vs.map Value.side) := by
  have hcomma : ∀ {us : List Tree}, (us.all fun u => !u.separates) → ∀ u ∈ us, u.isMark ',' = false := by
    intro us hus u hu
    have hone := List.all_eq_true.1 hus u hu
    simp only [Tree.separates, Bool.not_eq_true', Bool.or_eq_false_iff] at hone
    exact hone.2
  induction vs generalizing items with
  | nil => exact absurd rfl hne
  | cons v vs ih =>
    rw [List.mapM_cons] at h
    obtain ⟨item, hitem, h⟩ := exists_ok_of_bind h
    obtain ⟨others, hothers, h⟩ := exists_ok_of_bind h
    obtain rfl := Except.ok.inj h
    obtain ⟨us, hus⟩ := Value.writes hitem
    cases vs with
    | nil =>
      obtain rfl : [] = others := Except.ok.inj hothers
      refine ⟨us, by rw [String.intercalate_singleton]; exact hus.balanced, ?_⟩
      rw [List.splitOnP_eq_singleton (hcomma hus.whole), List.mapM_cons, List.mapM_nil, hus.side]
      rfl
    | cons v' vs =>
      obtain ⟨us', hus', hsides⟩ := ih hothers (by simp)
      obtain ⟨item', others', rfl⟩ : ∃ item' others', others = item' :: others' := by
        rw [List.mapM_cons] at hothers
        obtain ⟨item', -, h⟩ := exists_ok_of_bind hothers
        obtain ⟨others', -, h⟩ := exists_ok_of_bind h
        exact ⟨item', others', (Except.ok.inj h).symm⟩
      refine ⟨us ++ .leaf (.mark ',') :: us', ?_, ?_⟩
      · rw [String.intercalate_cons_cons, String.toList_append, String.toList_append, List.append_assoc]
        exact hus.balanced.joined (c := ',') (p := [' ']) (by decide) (by decide)
          (.leaf (by decide) (by decide) (by decide)) hus'
      · rw [List.splitOnP_append_cons_of_forall_mem (hcomma hus.whole) _ rfl, List.mapM_cons, hus.side, hsides]
        rfl

/-! ## Lookups -/

/-- A text that is a comparison and begins with a word. -/
structure Compares (s : List Char) (us : List Tree) (c : Comparison) : Prop where
  balanced : Balanced s us
  comparison : Comparison.ofTrees? us = some c
  whole : isComparison us
  first : ∃ x rest, s = x :: rest ∧ x.isAlpha

theorem ofTrees?_column (r : Row) (name : String) (us : List Tree) :
    Comparison.ofTrees? (columnTrees r name ++ us) = behindLeft? (.column r name) us := by
  have hrows : areRowsDistinct (columnTrees r name ++ us) = false := rfl
  unfold Comparison.ofTrees?
  rw [hrows, column?_columnTrees]
  rfl

/-- A column and what is said of it. -/
theorem compares_column {r : Row} {name : String} {rest : List Char} {us : List Tree} {c : Comparison}
    (hbalanced : Balanced ((r.sql ++ "." ++ Sql.quoteName name).toList ++ rest) (columnTrees r name ++ us))
    (hc : behindLeft? (.column r name) us = some c) (hwhole : us.all fun u => !u.separates) :
    Compares ((r.sql ++ "." ++ Sql.quoteName name).toList ++ rest) (columnTrees r name ++ us) c where
  balanced := hbalanced
  comparison := (ofTrees?_column r name us).trans hc
  whole := by
    have hall : ((columnTrees r name ++ us).all fun u => !u.separates) = true := by
      rw [List.all_append, hwhole]
      cases r <;> rfl
    refine Bool.and_eq_true_iff.2 ⟨hall, ?_⟩
    cases r <;> rfl
  first := by
    rw [String.toList_append, String.toList_append]
    cases r
    · exact ⟨'O', _, rfl, by decide⟩
    · exact ⟨'N', _, rfl, by decide⟩

/-- Words as trees. -/
def words (ws : List String) : List Tree := ws.map fun w => .leaf (.word w.toList)

/-- A column and some words. -/
theorem compares_words {r : Row} {name phrase : String} {ws : List String} {c : Comparison}
    (hphrase : Balanced phrase.toList (words ws))
    (hc : behindLeft? (.column r name) (words ws) = some c) (hwhole : (words ws).all fun u => !u.separates) :
    Compares ((r.sql ++ "." ++ Sql.quoteName name).toList ++ ' ' :: phrase.toList)
      (columnTrees r name ++ words ws) c :=
  compares_column ((balanced_column r name).blank (by decide) hphrase) hc hwhole

/-- The words of a relation are read as it. -/
theorem balanced_relation (r : Relation) : ∃ us, Balanced r.sql.toList us ∧
    (us.all fun u => !u.separates) ∧ ∀ vs, relation? (us ++ vs) = some (r, vs) := by
  have hsymbol : ∀ o : List Char, Spells o [.operator o] → (String.ofList o, r) ∈ comparators →
      comparators.lookup (String.ofList o) = some r → ∃ us, Balanced o us ∧
        (us.all fun u => !u.separates) ∧ ∀ vs, relation? (us ++ vs) = some (r, vs) := by
    intro o ho _ hlookup
    refine ⟨[.leaf (.operator o)], ⟨_, ho, rfl, rfl⟩, rfl, fun vs => ?_⟩
    show ((comparators.lookup (String.ofList o)).map fun r => (r, vs)) = _
    rw [hlookup]
    rfl
  cases r with
  | equal => exact hsymbol ['='] ⟨by decide, by decide⟩ (by decide) (by decide)
  | greater => exact hsymbol ['>'] ⟨by decide, by decide⟩ (by decide) (by decide)
  | greaterOrEqual => exact hsymbol ['>', '='] ⟨by decide, by decide⟩ (by decide) (by decide)
  | less => exact hsymbol ['<'] ⟨by decide, by decide⟩ (by decide) (by decide)
  | lessOrEqual => exact hsymbol ['<', '='] ⟨by decide, by decide⟩ (by decide) (by decide)
  | distinct =>
    exact ⟨words ["IS", "DISTINCT", "FROM"],
      ⟨[.word "IS".toList, .word "DISTINCT".toList, .word "FROM".toList], ⟨by decide, by decide⟩, rfl, rfl⟩,
      by rfl, fun vs => rfl⟩
  | notDistinct =>
    exact ⟨words ["IS", "NOT", "DISTINCT", "FROM"],
      ⟨[.word "IS".toList, .word "NOT".toList, .word "DISTINCT".toList, .word "FROM".toList],
        ⟨by decide, by decide⟩, rfl, rfl⟩, by rfl, fun vs => rfl⟩

/-- A list of values is read as that list. -/
theorem compares_oneOf (r : Row) (name : String) {vs : List Value} {items : List String}
    (h : vs.mapM Value.sql = .ok items) (hne : vs ≠ []) :
    ∃ us, Compares (r.sql ++ "." ++ Sql.quoteName name ++ " IN (" ++ ", ".intercalate items ++ ")").toList us
      (.oneOf (.column r name) (vs.map Value.side)) := by
  obtain ⟨us, hus, hsides⟩ := balanced_values h hne
  have hin : Balanced ("IN ".toList ++ ('(' :: (", ".intercalate items).toList ++ [')']))
      (words ["IN"] ++ [.group .round us]) :=
    hus.parenthesised.behind (q := [.word "IN".toList]) (by decide) ⟨rfl, rfl⟩
  have hlist : (r.sql ++ "." ++ Sql.quoteName name ++ " IN (" ++ ", ".intercalate items ++ ")").toList =
      (r.sql ++ "." ++ Sql.quoteName name).toList ++
        ' ' :: ("IN ".toList ++ ('(' :: (", ".intercalate items).toList ++ [')'])) := by
    simp only [String.toList_append, List.append_assoc]
    rfl
  rw [hlist]
  refine ⟨_, compares_column ((balanced_column r name).blank (by decide) hin) ?_ rfl⟩
  show ((us.splitOnP (Tree.isMark ',')).mapM side?).map (Comparison.oneOf (.column r name)) = _
  rw [hsides]
  rfl

/-- A column goes on to a colon as to the end. -/
theorem spells_column_colon (r : Row) (name : String) {rest : List Char} {ts : List Lexeme}
    (h : Spells (':' :: rest) ts) :
    Spells ((r.sql ++ "." ++ Sql.quoteName name).toList ++ ':' :: rest)
      ([.word r.sql.toList, .mark '.', .name name.toList] ++ ts) := by
  refine (spells_column r name).meet ?_ h
  rw [read_column]
  rfl

/-- A search for a text is read as that search. -/
theorem compares_like (r : Row) (name : String) {pattern literal : String}
    (h : Sql.quoteLiteral pattern = .ok literal) :
    ∃ us, Compares (r.sql ++ "." ++ Sql.quoteName name ++ "::text LIKE " ++ literal).toList us
      (.like (.column r name) pattern) := by
  have hlead : "::text LIKE ".toList = ':' :: ":text LIKE ".toList := by decide
  have hlist : (r.sql ++ "." ++ Sql.quoteName name ++ "::text LIKE " ++ literal).toList =
      (r.sql ++ "." ++ Sql.quoteName name).toList ++ ':' :: (":text LIKE ".toList ++ literal.toList) := by
    simp only [String.toList_append, List.append_assoc, hlead, List.cons_append]
  have htail : Spells (':' :: (":text LIKE ".toList ++ literal.toList))
      ([.operator "::".toList, .word "text".toList, .word "LIKE".toList] ++ [.literal pattern.toList]) := by
    have hall := (spells_quoteLiteral h).behind (p := "::text LIKE ".toList)
      (q := [.operator "::".toList, .word "text".toList, .word "LIKE".toList]) (by decide)
    rwa [hlead] at hall
  have hrest : Nests ([.operator "::".toList, .word "text".toList, .word "LIKE".toList] ++
      [.literal pattern.toList]) [.leaf (.operator "::".toList), .leaf (.word "text".toList),
        .leaf (.word "LIKE".toList), .leaf (.literal pattern.toList)] := ⟨rfl, rfl⟩
  rw [hlist]
  refine ⟨_, compares_column ⟨_, spells_column_colon r name htail,
    (nests_column r name).append hrest⟩ ?_ rfl⟩
  show some (Comparison.like (.column r name) (String.ofList pattern.toList)) = _
  rw [String.ofList_toList]

/-- The same without regard to letter case. -/
theorem compares_likeAnyCase (r : Row) (name : String) {pattern literal : String}
    (h : Sql.quoteLiteral pattern = .ok literal) :
    ∃ us, Compares
      ("UPPER(" ++ (r.sql ++ "." ++ Sql.quoteName name) ++ "::text) LIKE UPPER(" ++ literal ++ ")").toList us
      (.likeAnyCase (.column r name) pattern) := by
  have hcast : Balanced ((r.sql ++ "." ++ Sql.quoteName name).toList ++ ':' :: ":text".toList)
      (columnTrees r name ++ [.leaf (.operator "::".toList), .leaf (.word "text".toList)]) := by
    have htype : Spells (':' :: ":text".toList) [.operator "::".toList, .word "text".toList] :=
      ⟨by decide, by decide⟩
    exact ⟨_, spells_column_colon r name htype, (nests_column r name).append ⟨rfl, rfl⟩⟩
  have hupper : Balanced "UPPER".toList (words ["UPPER"]) :=
    ⟨[.word "UPPER".toList], ⟨by decide, by decide⟩, rfl, rfl⟩
  have hword : Balanced "LIKE UPPER".toList (words ["LIKE", "UPPER"]) :=
    ⟨[.word "LIKE".toList, .word "UPPER".toList], ⟨by decide, by decide⟩, rfl, rfl⟩
  have hliteral : Balanced literal.toList [.leaf (.literal pattern.toList)] :=
    ⟨_, spells_quoteLiteral h, rfl, rfl⟩
  have hpattern := hword.delimited (c := '(') (by decide) hliteral.parenthesised
  have hall := hupper.delimited (c := '(') (by decide)
    (hcast.parenthesised.blank (c := ' ') (by decide) hpattern)
  have hlist : ("UPPER(" ++ (r.sql ++ "." ++ Sql.quoteName name) ++ "::text) LIKE UPPER(" ++ literal ++
      ")").toList = "UPPER".toList ++ '(' :: (((r.sql ++ "." ++ Sql.quoteName name).toList ++
        ':' :: ":text".toList) ++ [')'] ++ ' ' :: ("LIKE UPPER".toList ++ '(' :: (literal.toList ++ [')']))) := by
    have hopen : "UPPER(".toList = "UPPER".toList ++ ['('] := by decide
    have hmiddle : "::text) LIKE UPPER(".toList =
        ':' :: ":text".toList ++ ([')'] ++ ' ' :: ("LIKE UPPER".toList ++ ['('])) := by decide
    have hclose : ")".toList = [')'] := by decide
    simp only [String.toList_append, hopen, hmiddle, hclose, List.append_assoc, List.cons_append,
      List.nil_append]
  have hleft : cast? (columnTrees r name ++ [.leaf (.operator "::".toList), .leaf (.word "text".toList)]) =
      some (.column r name) := by
    unfold cast?
    rw [column?_columnTrees]
    rfl
  rw [hlist]
  refine ⟨_, hall, ?_, rfl, 'U', _, rfl, by decide⟩
  show (cast? (columnTrees r name ++ _)).map _ = _
  rw [hleft]
  show some (Comparison.likeAnyCase (.column r name) (String.ofList pattern.toList)) = _
  rw [String.ofList_toList]

/-- A comparison with an operand is read as that comparison. -/
theorem compares_relation (r : Row) (name : String) (relation : Relation) {right : String}
    {us : List Tree} {side : Side} (h : Writes right.toList us side) :
    ∃ us, Compares (r.sql ++ "." ++ Sql.quoteName name ++ " " ++ relation.sql ++ " " ++ right).toList us
      (.relation relation (.column r name) side) := by
  obtain ⟨vs, hvs, hwhole, hrelation⟩ := balanced_relation relation
  have hlist : (r.sql ++ "." ++ Sql.quoteName name ++ " " ++ relation.sql ++ " " ++ right).toList =
      (r.sql ++ "." ++ Sql.quoteName name).toList ++ ' ' :: (relation.sql.toList ++ ' ' :: right.toList) := by
    have hblank : " ".toList = [' '] := by decide
    simp only [String.toList_append, List.append_assoc, hblank, List.cons_append, List.nil_append]
  have hright : behindLeft? (.column r name) (vs ++ us) = some (.relation relation (.column r name) side) := by
    unfold behindLeft?
    rw [hrelation]
    show (side? us).map _ = _
    rw [h.side]
    rfl
  rw [hlist]
  refine ⟨_, compares_column ((balanced_column r name).blank (by decide)
    (hvs.blank (by decide) h.balanced)) hright ?_⟩
  rw [List.all_append, hwhole, h.whole]
  rfl

theorem LookupKind.comparison?_relation {e : Entity} {left : Side} {r : Relation} {operand : Operand}
    (h : ¬ (operand = .value .null ∧ r = .equal)) :
    LookupKind.comparison? e left (.relation r) operand = (operand.side? e).map (.relation r left) := by
  by_cases hr : r = .equal
  · subst hr
    have hnull : operand ≠ .value .null := fun hoperand => h ⟨hoperand, rfl⟩
    cases operand with
    | value v =>
      cases v with
      | null => exact absurd rfl hnull
      | bool _ | int _ | float _ | text _ => rfl
    | values _ | field _ => rfl
  · cases r with
    | equal => exact absurd rfl hr
    | greater | greaterOrEqual | less | lessOrEqual | distinct | notDistinct => rfl

/-- What is written for a kind of comparison is read as that comparison. -/
theorem LookupKind.reads {e : Entity} {key : String} {r : Row} {name : String} {kind : LookupKind}
    {operand : Operand} {text : String}
    (h : Lookup.comparison e key (r.sql ++ "." ++ Sql.quoteName name) kind operand = .ok text) :
    ∃ us c, kind.comparison? e (.column r name) operand = some c ∧ Compares text.toList us c := by
  have hnull : Balanced "IS NULL".toList (words ["IS", "NULL"]) :=
    ⟨[.word "IS".toList, .word "NULL".toList], ⟨by decide, by decide⟩, rfl, rfl⟩
  have hsome : Balanced "IS NOT NULL".toList (words ["IS", "NOT", "NULL"]) :=
    ⟨[.word "IS".toList, .word "NOT".toList, .word "NULL".toList], ⟨by decide, by decide⟩, rfl, rfl⟩
  unfold Lookup.comparison at h
  split at h
  next =>
    obtain rfl := Except.ok.inj h
    rw [String.toList_append]
    exact ⟨_, _, rfl, compares_words hnull rfl rfl⟩
  next =>
    obtain rfl := Except.ok.inj h
    rw [String.toList_append]
    exact ⟨_, _, rfl, compares_words hnull rfl rfl⟩
  next =>
    obtain rfl := Except.ok.inj h
    rw [String.toList_append]
    exact ⟨_, _, rfl, compares_words hsome rfl rfl⟩
  next => cases h
  next => cases h
  next vs hne =>
    obtain ⟨items, hitems, hrest⟩ := exists_ok_of_bind h
    obtain rfl := Except.ok.inj hrest
    obtain ⟨us, hus⟩ := compares_oneOf r name hitems hne
    obtain ⟨v, vs, rfl⟩ := List.exists_cons_of_ne_nil hne
    exact ⟨us, _, rfl, hus⟩
  next => cases h
  next m t =>
    obtain ⟨literal, hliteral, hrest⟩ := exists_ok_of_bind h
    split at hrest
    next hcase =>
      obtain rfl := Except.ok.inj hrest
      obtain ⟨us, hus⟩ := compares_likeAnyCase r name hliteral
      exact ⟨us, _, by simp [LookupKind.comparison?, hcase], hus⟩
    next hcase =>
      obtain rfl := Except.ok.inj hrest
      obtain ⟨us, hus⟩ := compares_like r name hliteral
      exact ⟨us, _, by simp [LookupKind.comparison?, hcase], hus⟩
  next => cases h
  next operand relation hplain =>
    obtain ⟨right, hright, hrest⟩ := exists_ok_of_bind h
    obtain rfl := Except.ok.inj hrest
    obtain ⟨us, side, hside, hus⟩ := Lookup.writes_operandSql hright
    obtain ⟨us, hus⟩ := compares_relation r name relation hus
    refine ⟨us, _, ?_, hus⟩
    rw [LookupKind.comparison?_relation fun h => hplain h.1 h.2, hside]
    rfl

/-- The text of a lookup is read as the comparison that the lookup asks for. -/
theorem Lookup.reads {l : Lookup} {e : Entity} {text : String} (h : l.sql e = .ok text) :
    ∃ us c, l.comparison? e = some c ∧ Compares text.toList us c := by
  obtain ⟨⟨row, field, kind⟩, hdecode, hrest⟩ := exists_ok_of_bind h
  simp only at hrest
  split at hrest
  next => cases hrest
  next =>
    obtain ⟨left, hleft, htext⟩ := exists_ok_of_bind hrest
    obtain ⟨name, hname, hcolumn⟩ := exists_ok_of_bind hleft
    obtain rfl := Except.ok.inj hcolumn
    obtain ⟨us, c, hc, hus⟩ := LookupKind.reads htext
    refine ⟨us, c, ?_, hus⟩
    unfold Lookup.comparison?
    rw [hdecode]
    show ((e.column? field).bind _) = _
    rw [Entity.column?_of_column hname]
    exact hc

end DeclaredTriggers
