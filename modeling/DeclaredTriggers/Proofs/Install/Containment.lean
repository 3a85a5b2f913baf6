import DeclaredTriggers.Proofs.Condition.Contained
import DeclaredTriggers.Proofs.Install.Bodies
import DeclaredTriggers.Proofs.Install.Script
import DeclaredTriggers.Proofs.Install.When
import DeclaredTriggers.Proofs.Sql.Identifiers

/-!
# What declarations can do to the install script

A declarative trigger brings no SQL with it (`Trigger.IsDeclarative`): what a caller says of it are names, a
value and states. Where these stand in the open, they are quoted and end no statement. In the body of the
trigger's function they are quoted as well, but that body is itself between dollar signs, and what is done to
names and literals does nothing about those.

> `Trigger.installSql_contained_iff`: the script has the statements of the template, and the body of its
> function ends where the template ends it, if and only if no text in that body has a pair of dollar signs.
>
> `Trigger.installSql_drops_book`: a value that has one can drop a table where the trigger is installed.
-/

namespace DeclaredTriggers

open Sql (Announces Closes Mode isClosed)
open Text (occurs)

/-! ## The fragments in the open -/

/-- The function that a schema's triggers ask has a closed name, if nothing is wrong with the settings. -/
theorem Settings.isClosed_ignoreFunction {s : Settings} (h : s.fault? = none) :
    isClosed (Sql.ignoreFunction s.schema).toList := by
  have hquote : isClosed (Sql.quote s.schema).toList := by
    unfold fault? at h
    split at h
    next => cases h
    next i hparse =>
      split at h
      next hone => exact Sql.isClosed_quote_of_parse hparse hone
      next => cases h
  unfold Sql.ignoreFunction
  rw [String.toList_append]
  exact Sql.isClosed_fragment hquote (by decide) (by decide)

namespace Operation

mutual

/-- An operation is closed if the columns that it names are, as they are written. -/
theorem isClosed_text (column : String → String) :
    ∀ op : Operation, (∀ c ∈ op.columns, isClosed (Sql.quote (column c)).toList) →
      isClosed (op.text column).toList
  | .insert, _ | .update, _ | .delete, _ | .truncate, _ => by
    rw [text]
    decide
  | .updateOf cs, h => by
    rw [text, String.toList_append]
    refine Sql.isClosed_append (by decide) (Sql.isClosed_intercalate (by decide) (by decide) fun name hname => ?_)
    obtain ⟨c, hc, rfl⟩ := List.mem_map.1 hname
    exact h c hc
  | .anyOf ops, h => by
    rw [text]
    exact Sql.isClosed_intercalate (by decide) (by decide) (isClosed_texts column ops h)

theorem isClosed_texts (column : String → String) :
    ∀ ops : List Operation, (∀ c ∈ columnsEach ops, isClosed (Sql.quote (column c)).toList) →
      ∀ t ∈ texts column ops, isClosed t.toList
  | [], _ => by simp [texts]
  | op :: ops, h => by
    intro t ht
    rw [texts] at ht
    rcases List.mem_cons.1 ht with rfl | ht
    · exact isClosed_text column op fun c hc => h c (List.mem_append_left _ hc)
    · exact isClosed_texts column ops (fun c hc => h c (List.mem_append_right _ hc)) t ht

end

end Operation

/-- An entity whose table and columns have no quotes of their own. -/
structure Entity.IsUnquoted (e : Entity) : Prop where
  table : '"' ∉ e.table.toList
  primaryKey : '"' ∉ e.primaryKey.toList
  columns : ∀ f ∈ e.fields, '"' ∉ f.column.toList

theorem Entity.IsUnquoted.column? {e : Entity} (h : e.IsUnquoted) {name column : String}
    (hcolumn : e.column? name = some column) : '"' ∉ column.toList := by
  unfold Entity.column? at hcolumn
  split at hcolumn
  next =>
    obtain rfl := Option.some.inj hcolumn
    exact h.primaryKey
  next =>
    obtain ⟨f, hf, rfl⟩ := Option.map_eq_some_iff.1 hcolumn
    exact h.columns f (Entity.name_or_column_of_field? hf).1

/-- Whether the library writes the body of a kind's function itself. -/
def Kind.writesBody : Kind → Bool
  | .protect | .readOnly .. | .softDelete .. | .stateMachine .. => true
  | .custom _ | .searchVector .. => false

/-- A trigger without SQL of the caller's own. -/
structure Trigger.IsDeclarative (t : Trigger) : Prop where
  kind : t.kind.writesBody
  condition : ∀ own, t.condition = some own → ∀ s, .raw s ∉ own.parts
  declare : t.declare = []
  tables : t.tables = none

namespace Trigger

variable {t : Trigger} {e : Entity}

/-- The clause of a condition without free SQL is closed. -/
theorem isClosed_whenClause (hraw : ∀ own, t.condition = some own → ∀ s, .raw s ∉ own.parts) {text : String}
    (h : t.whenClause e = .ok text) : isClosed text.toList := by
  unfold whenClause at h
  split at h
  next =>
    obtain rfl := Except.ok.inj h
    rfl
  next c hc =>
    obtain ⟨written, hwritten, hclause⟩ := exists_ok_of_bind h
    have hfirm : Firm written.toList := by
      refine Condition.firm (fun s hs => ?_) written hwritten
      obtain ⟨own, hown, hmem⟩ := raw_of_fullCondition? hc hs
      exact hraw own hown s hmem
    have htrimmed : (Text.trimmed written).toList = written.toList := (toList_trimmed written).trans hfirm.trim_eq
    obtain rfl := Except.ok.inj hclause
    split
    next =>
      rw [String.toList_append, htrimmed]
      exact Sql.isClosed_append (by decide) hfirm.closed
    next =>
      rw [String.toList_append, String.toList_append, htrimmed, List.append_assoc]
      exact Sql.isClosed_append (by decide) (Sql.isClosed_fragment hfirm.closed (by decide) (by decide))

/-- No fragment of a declarative trigger that stands in the open leaves its place. -/
theorem IsDeclarative.closed (ht : t.IsDeclarative) (he : e.IsUnquoted)
    (hcolumns : ∀ c ∈ t.operation.columns, e.column? c = none → isClosed (Sql.quote c).toList)
    {s : Settings} (hs : s.fault? = none) {p : InstallParams} (h : t.installParams e s = .ok p) :
    ∀ text ∈ p.inTheOpen, isClosed text.toList := by
  obtain ⟨pgid, func, condition, execute, -, -, hcondition, hexecute, rfl⟩ := installParams_eq h
  have hoperation : isClosed (t.operation.sql e).toList := by
    refine Operation.isClosed_text _ _ fun c hc => ?_
    cases hcolumn : e.column? c with
    | none => exact hcolumns c hc hcolumn
    | some column =>
      rw [Option.getD_some, Sql.quote_of_plain (he.column? hcolumn)]
      exact Sql.isClosed_quoteName column
  have hprocedure : execute = Sql.triggerName pgid ++ "()" := by
    have hkind := ht.kind
    cases hk : t.kind with
    | custom _ | searchVector _ _ _ =>
      rw [hk] at hkind
      cases hkind
    | protect | readOnly _ _ | softDelete _ _ | stateMachine _ _ =>
      rw [hk] at hexecute
      exact (Except.ok.inj hexecute).symm
  simp only [InstallParams.inTheOpen, InstallParams.ignoring, Option.getD_some, List.mem_cons,
    List.not_mem_nil, or_false, forall_eq_or_imp, forall_eq, ht.tables, Option.map_none, Option.getD_none]
  refine ⟨s.isClosed_ignoreFunction hs, ?_, ?_, hoperation, ?_, rfl, ?_,
    isClosed_whenClause ht.condition hcondition, ?_⟩
  · have hword : isClosed "CONSTRAINT".toList := by decide
    cases t.timing with
    | none => rfl
    | some _ => exact hword
  · cases t.moment <;> decide
  · rcases t.timing with _ | _ | _ <;> decide
  · cases t.level <;> decide
  · rw [hprocedure, String.toList_append]
    exact Sql.isClosed_fragment (Sql.isClosed_triggerName pgid) (by decide) (by decide)

/-- A declarative trigger declares no pair of dollar signs, and the function that it asks has those of the
schema. -/
theorem IsDeclarative.occurs_beside_func (ht : t.IsDeclarative) {s : Settings} {p : InstallParams}
    (h : t.installParams e s = .ok p) :
    occurs ['$', '$'] (p.declare.getD "").toList = false ∧
      occurs ['$', '$'] p.ignoring.toList = occurs ['$', '$'] s.schema.toList := by
  obtain ⟨pgid, func, condition, execute, -, -, -, -, rfl⟩ := installParams_eq h
  constructor
  · have hkind := ht.kind
    show occurs _ t.declareBlock.toList = false
    unfold declareBlock
    rw [ht.declare]
    cases hk : t.kind with
    | custom _ | searchVector _ _ _ =>
      rw [hk] at hkind
      cases hkind
    | protect | readOnly _ _ | softDelete _ _ => rfl
    | stateMachine _ _ =>
      simp only [Kind.declarations]
      decide
  · show occurs _ (Sql.ignoreFunction s.schema).toList = _
    unfold Sql.ignoreFunction
    rw [String.toList_append, Text.occurs_in_front (by decide) (by decide), Sql.occurs_quote]

/-- In the bodies of a declarative trigger's script, the pairs of dollar signs are those of the schema and of
the texts that the kind inserts. -/
theorem IsDeclarative.occurs_inBodies (ht : t.IsDeclarative) {s : Settings} {p : InstallParams}
    (h : t.installParams e s = .ok p) :
    (∀ text ∈ p.inBodies, occurs ['$', '$'] text.toList = false) ↔
      ∀ x ∈ s.schema :: t.kind.insertions e t.operation, occurs ['$', '$'] x.toList = false := by
  obtain ⟨hdeclare, hignoring⟩ := ht.occurs_beside_func h
  have hbody : occurs ['$', '$'] p.func.toList =
      (t.kind.insertions e t.operation).any fun x => occurs ['$', '$'] x.toList := by
    obtain ⟨pgid, func, condition, execute, -, hfunc, -, -, rfl⟩ := installParams_eq h
    exact Kind.occurs_body hfunc
  simp only [InstallParams.inBodies, List.forall_mem_cons, List.not_mem_nil, false_imp_iff, implies_true,
    and_true, hdeclare, hignoring, hbody, true_and, List.any_eq_false, Bool.not_eq_true]

end Trigger

/-! ## The script and its function's body -/

namespace InstallParams

variable (p : InstallParams) (hash : String)

/-- The script up to the body of the trigger's function. -/
def beforeBody : String :=
  ignoreFunctionSql p.ignoring ++ "\n            CREATE OR REPLACE FUNCTION " ++ Sql.triggerName p.pgid ++
    "()\n            RETURNS TRIGGER AS $$"

/-- The body of the trigger's function. -/
def functionBody : String :=
  let declare := p.declare.getD ""
  let ignoreFunction := p.ignoring
  let func := p.func
  s!"
                {declare}
                BEGIN
                    IF ({ignoreFunction}(TG_NAME) IS TRUE) THEN
                        IF (TG_OP = 'DELETE') THEN
                            RETURN OLD;
                        ELSE
                            RETURN NEW;
                        END IF;
                    END IF;
                    {func}
                END;
            "

/-- The script behind the dollar signs that end that body. -/
def afterBody : String :=
  " LANGUAGE plpgsql;\n" ++
    triggerSql (Sql.triggerName p.pgid) (Sql.quote p.table) (p.constraint.getD "") p.moment p.operation
      (p.timing.getD "") (p.referencing.getD "") (p.level.getD "ROW") (p.condition.getD "")
      (p.execute.getD p.defaultExecute) ++
    commentSql (Sql.triggerName p.pgid) (Sql.quote p.table) hash

theorem renderV1_eq_body :
    p.renderV1 hash = p.beforeBody ++ p.functionBody ++ "$$" ++ p.afterBody hash := by
  have hopen : "()\n            RETURNS TRIGGER AS $$\n                " =
      "()\n            RETURNS TRIGGER AS $$" ++ "\n                " := by decide
  have hclose : "\n                END;\n            $$ LANGUAGE plpgsql;\n" =
      "\n                END;\n            " ++ "$$" ++ " LANGUAGE plpgsql;\n" := by decide
  unfold renderV1 triggerFunctionSql beforeBody functionBody afterBody
  simp only [toString, hopen, hclose, String.append_assoc]
  rfl

set_option maxRecDepth 8000 in
/-- What the bodies of the script hold, its function's body holds. -/
theorem occurs_functionBody :
    occurs ['$', '$'] p.functionBody.toList = p.inBodies.any fun x => occurs ['$', '$'] x.toList := by
  -- the fixed parts are named as lists, which are looked through faster than texts
  obtain ⟨first, beginning, asking, ending, hbody, hfirst, hbeginning, hasking, hending⟩ :
      ∃ first beginning asking ending : List Char,
        p.functionBody = String.ofList first ++ p.declare.getD "" ++ String.ofList beginning ++ p.ignoring ++
          String.ofList asking ++ p.func ++ String.ofList ending ∧
        '$' ∉ first ∧ ('$' ∉ beginning ∧ beginning ≠ []) ∧ ('$' ∉ asking ∧ asking ≠ []) ∧
          ('$' ∉ ending ∧ ending ≠ []) := by
    unfold functionBody
    exact Exists.intro _ (Exists.intro _ (Exists.intro _ (Exists.intro _ (And.intro rfl
      ⟨by decide +kernel, ⟨by decide +kernel, List.cons_ne_nil _ _⟩, ⟨by decide +kernel, List.cons_ne_nil _ _⟩,
        by decide +kernel, List.cons_ne_nil _ _⟩))))
  rw [hbody]
  simp only [String.toList_append, List.append_assoc, String.toList_ofList (l := first),
    String.toList_ofList (l := beginning), String.toList_ofList (l := asking), String.toList_ofList (l := ending)]
  rw [Text.occurs_behind hfirst, Text.occurs_around hbeginning.1 hbeginning.2,
    Text.occurs_around hasking.1 hasking.2, Text.occurs_in_front hending.1 hending.2]
  simp only [inBodies, List.any_cons, List.any_nil, Bool.or_false]

/-- The first pair of dollar signs behind the beginning of the body is the template's if and only if no
fragment in a body holds one. -/
theorem splitFirst?_functionBody_iff :
    Text.splitFirst? ['$', '$'] (p.functionBody ++ "$$" ++ p.afterBody hash).toList =
        some (p.functionBody.toList, (p.afterBody hash).toList) ↔
      ∀ text ∈ p.inBodies, occurs ['$', '$'] text.toList = false := by
  have hlast : p.functionBody.toList.getLast? ≠ some '$' := by
    unfold functionBody
    simp only [toString, String.toList_append]
    have hend : "\n                END;\n            ".toList.getLast? = some ' ' := by decide
    rw [List.getLast?_append, hend]
    exact fun h => absurd (Option.some.inj h) (by decide)
  have hpair : "$$".toList = ['$', '$'] := by decide
  rw [String.toList_append, String.toList_append, hpair, List.append_assoc, List.cons_append, List.cons_append,
    List.nil_append, Text.splitFirst?_body_iff hlast, occurs_functionBody, List.any_eq_false]
  simp only [Bool.not_eq_true]

end InstallParams

/-! ## What the script does -/

/-- The script of a declarative trigger has the five statements of the template and the body of its function
ends where the template ends it if and only if neither the schema nor a text that the kind inserts into the
body has two dollar signs next to each other. -/
theorem Trigger.installSql_contained_iff {t : Trigger} {e : Entity} {s : Settings} {text : String}
    (ht : t.IsDeclarative) (he : e.IsUnquoted)
    (hcolumns : ∀ c ∈ t.operation.columns, e.column? c = none → isClosed (Sql.quote c).toList)
    (hs : s.fault? = none) (h : t.installSql e s = .ok text) :
    ∃ p, t.installParams e s = .ok p ∧
      text = p.beforeBody ++ p.functionBody ++ "$$" ++ p.afterBody p.ownHash ∧
      ((Sql.statements text.toList = p.script p.ownHash ∧
          Text.splitFirst? ['$', '$'] (p.functionBody ++ "$$" ++ p.afterBody p.ownHash).toList =
            some (p.functionBody.toList, (p.afterBody p.ownHash).toList)) ↔
        ∀ x ∈ s.schema :: t.kind.insertions e t.operation, occurs ['$', '$'] x.toList = false) := by
  obtain ⟨p, hp, rfl⟩ := exists_installParams h
  have hclosed := ht.closed he hcolumns hs hp
  have htable : '"' ∉ p.table.toList := by
    rw [(fills_of_installParams hp).table]
    exact he.table
  refine ⟨p, hp, p.renderV1_eq_body p.ownHash, ?_⟩
  rw [p.splitFirst?_functionBody_iff, ht.occurs_inBodies hp]
  refine and_iff_right_of_imp fun hkept => ?_
  exact InstallParams.statements_script ⟨hclosed, (ht.occurs_inBodies hp).2 hkept, htable⟩ p.not_mem_ownHash

/-! ## A value with dollar signs -/

/-- A trigger that puts a value for the title where a book was to be deleted. -/
def Trigger.retitling (value : String) : Trigger where
  name := "keep_books"
  level := .row
  moment := .before
  operation := .delete
  condition := none
  tables := none
  declare := []
  timing := none
  kind := .softDelete "title" (.text value)
  named := by decide
  sound := rfl

theorem Trigger.isDeclarative_retitling (value : String) : (retitling value).IsDeclarative :=
  ⟨rfl, nofun, rfl, rfl⟩

theorem Entity.isUnquoted_drafts : Entity.drafts.IsUnquoted :=
  ⟨by decide, by decide, by decide⟩

theorem Trigger.exists_installParams_retitling {value literal : String}
    (h : Sql.quoteLiteral value = .ok literal) :
    ∃ p, (retitling value).installParams .drafts {} = .ok p ∧
      p.func = "UPDATE \"book\" SET \"title\" = " ++ literal ++ " WHERE \"id\" = OLD.\"id\"; RETURN NULL;" := by
  obtain ⟨pgid, hpgid⟩ := (retitling value).exists_pgid .drafts
  have hbody : (retitling value).body .drafts =
      .ok ("UPDATE \"book\" SET \"title\" = " ++ literal ++ " WHERE \"id\" = OLD.\"id\"; RETURN NULL;") := by
    have hfront : "UPDATE " ++ Sql.quote "book" ++ " SET " ++ Sql.quoteName "title" ++ " = " =
        "UPDATE \"book\" SET \"title\" = " := by decide
    have hback : " WHERE " ++ Sql.quoteName "id" ++ " = OLD." ++ Sql.quoteName "id" ++ "; RETURN NULL;" =
        " WHERE \"id\" = OLD.\"id\"; RETURN NULL;" := by decide
    unfold body retitling Kind.body
    show (Sql.quoteLiteral value >>= fun literal => _) = _
    rw [h]
    show Except.ok ("UPDATE " ++ Sql.quote "book" ++ " SET " ++ Sql.quoteName "title" ++ " = " ++ literal ++
      (" WHERE " ++ Sql.quoteName "id" ++ " = OLD." ++ Sql.quoteName "id" ++ "; RETURN NULL;")) = _
    rw [hfront, hback]
  unfold installParams
  rw [hpgid, hbody]
  exact ⟨_, rfl, rfl⟩

/-- Single dollar signs and quotes in a value do nothing to the script. -/
theorem Trigger.installSql_contained_iff_dollar :
    ∃ text p, (retitling "it's $5 off").installSql .drafts {} = .ok text ∧
      (retitling "it's $5 off").installParams .drafts {} = .ok p ∧
      Sql.statements text.toList = p.script p.ownHash ∧
      Text.splitFirst? ['$', '$'] (p.functionBody ++ "$$" ++ p.afterBody p.ownHash).toList =
        some (p.functionBody.toList, (p.afterBody p.ownHash).toList) := by
  obtain ⟨_, hparams, -⟩ := exists_installParams_retitling
    (show Sql.quoteLiteral "it's $5 off" = .ok "'it''s $5 off'" from rfl)
  have htext := (compiled_of_installParams hparams).1
  obtain ⟨p, hp, -, hiff⟩ := installSql_contained_iff (isDeclarative_retitling _) Entity.isUnquoted_drafts
    nofun (s := {}) (by decide) htext
  exact ⟨_, p, htext, hp, hiff.2 (by decide)⟩

/-- A value that ends the function around it, says something else and begins another block. -/
def leavingTitle : String := "$$ LANGUAGE plpgsql;\nDROP TABLE book;\nDO $$"

/-- A value with two dollar signs can drop a table where the trigger is installed. -/
theorem Trigger.installSql_drops_book :
    ∃ text, (retitling leavingTitle).installSql .drafts {} = .ok text ∧
      (Sql.statements text.toList).length = 7 ∧ "DROP TABLE book".toList ∈ Sql.statements text.toList := by
  obtain ⟨p, hp, hfunc⟩ := exists_installParams_retitling
    (show Sql.quoteLiteral leavingTitle = .ok "'$$ LANGUAGE plpgsql;\nDROP TABLE book;\nDO $$'" from rfl)
  have hclosed := (isDeclarative_retitling leavingTitle).closed Entity.isUnquoted_drafts nofun
    (s := {}) (by decide) hp
  have htable : '"' ∉ p.table.toList := by
    rw [(fills_of_installParams hp).table]
    decide
  obtain ⟨hdeclare, hignoring⟩ := (isDeclarative_retitling leavingTitle).occurs_beside_func hp
  have hschema : occurs ['$', '$'] ({} : Settings).schema.toList = false := by decide
  have hdrop : Announces "DROP TABLE book;\n".toList ["DROP TABLE book".toList] :=
    (Announces.statement (a := "DROP TABLE book".toList) (by decide)).append
      (Sql.announces_blank (c := '\n') (by decide) (by decide))
  have hlist : p.func.toList = "UPDATE \"book\" SET \"title\" = '$$ LANGUAGE plpgsql;\n".toList ++
      ("DROP TABLE book;\n".toList ++
        ("DO ".toList ++ "$$' WHERE \"id\" = OLD.\"id\"; RETURN NULL;".toList)) := by
    rw [hfunc]
    decide
  obtain ⟨r₁, r₂, -, hfunction⟩ := InstallParams.announces_triggerFunctionSql_leaving
    (Sql.isClosed_triggerName p.pgid) hdeclare (hignoring.trans hschema) hlist (by decide) hdrop (by decide)
  obtain ⟨s₁, s₂, -, hstatements⟩ :=
    InstallParams.statements_renderV1_of_function hclosed htable hfunction p.not_mem_ownHash
  refine ⟨_, (compiled_of_installParams hp).1, ?_, ?_⟩
  · rw [hstatements]
    rfl
  · rw [hstatements]
    simp

end DeclaredTriggers
