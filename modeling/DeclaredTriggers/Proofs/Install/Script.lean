import DeclaredTriggers.Install.Compiled
import DeclaredTriggers.Proofs.Act
import DeclaredTriggers.Proofs.Sql.Tokens
import DeclaredTriggers.Sql.Control

/-!
# The statements of the install script

The script that installs a trigger is the template with a caller's fragments in it: bodies and conditions
as they were written, a schema, the names of columns. A fragment can leave its place. A body that holds two
dollar signs ends the function around it, and what follows runs as statements of the script. Where no
fragment does (`InstallParams.Contained`), the script is what it looks like:

> `statements_renderV1`: it creates two functions, drops the trigger, creates it and comments on it.
>
> `statements_script`: its statements are those of the template, to the letter.
-/

namespace DeclaredTriggers

open Sql (Announces Closes Mode isClosed statementIn)

namespace InstallParams

variable (p : InstallParams)

/-- The function that knows which triggers are ignored, as it is written. -/
def ignoring : String := p.ignoreFuncName.getD defaultIgnoreFunction

/-- The fragments of the script that stand in the open. -/
def inTheOpen : List String := [
  p.ignoring, p.constraint.getD "", p.moment, p.operation, p.timing.getD "", p.referencing.getD "",
  p.level.getD "ROW", p.condition.getD "", p.execute.getD p.defaultExecute]

/-- The fragments of the script that stand in the bodies of its functions. -/
def inBodies : List String := [p.declare.getD "", p.ignoring, p.func]

/-- No fragment leaves its place in the script: one in the open ends no statement and leaves nothing open,
one in a body does not end it, and the table's name has no quotes of its own. -/
structure Contained : Prop where
  closed : ∀ text ∈ p.inTheOpen, isClosed text.toList
  kept : ∀ text ∈ p.inBodies, Text.occurs ['$', '$'] text.toList = false
  table : '"' ∉ p.table.toList

instance : Decidable p.Contained :=
  decidable_of_iff ((∀ text ∈ p.inTheOpen, isClosed text.toList) ∧
      (∀ text ∈ p.inBodies, Text.occurs ['$', '$'] text.toList = false) ∧ '"' ∉ p.table.toList)
    ⟨fun h => ⟨h.1, h.2.1, h.2.2⟩, fun h => ⟨h.closed, h.kept, h.table⟩⟩

end InstallParams

namespace InstallParams

/-! ## Functions -/

/-- What creates a function is announced as that. -/
theorem announces_create {t : List Char} (h : Closes .plain t) :
    ∃ r, Announces ("\n            CREATE OR REPLACE FUNCTION ".toList ++ t)
      ["CREATE OR REPLACE FUNCTION".toList ++ r] := by
  have hclosed : Closes .plain ("\n            CREATE OR REPLACE FUNCTION ".toList ++ t) :=
    .append (n := .plain) (by decide) h
  obtain ⟨a, rfl, -⟩ := h
  obtain ⟨r, -, hone⟩ := hclosed.announces (b := "\n            ".toList) (c := 'C')
    (a := "REATE OR REPLACE FUNCTIO".toList) (d := 'N') (t := ' ' :: (a ++ [';', '\n'])) (by decide)
    (by decide) (by decide) ⟨' ' :: a, rfl⟩
  exact ⟨r, hone⟩

/-- Whether a part of the template closes what is in mode `m` at its beginning. -/
def closesWith (m : Mode) (part : List Char) : Bool :=
  part = part.dropLast.dropLast ++ [';', '\n'] && (m.through part.dropLast.dropLast).any Mode.isTop

theorem closes_of_closesWith {m : Mode} {part : List Char} (h : closesWith m part) : Closes m part := by
  simp only [closesWith, Bool.and_eq_true, decide_eq_true_eq] at h
  exact .of_text h.1 h.2

set_option maxRecDepth 8000 in
/-- The function that knows which triggers are ignored is created up to the end of its text. -/
theorem exists_closes_ignoreFunctionSql {name : String} (h : isClosed name.toList) :
    ∃ t, (ignoreFunctionSql name).toList = "\n            CREATE OR REPLACE FUNCTION ".toList ++ t ∧
      Closes .plain t := by
  obtain ⟨part, hsql, hpart⟩ : ∃ part,
      ignoreFunctionSql name =
          "\n            CREATE OR REPLACE FUNCTION " ++ name ++ String.ofList part ∧
        (part.head?.any Mode.isNeutral && closesWith .plain part) = true := by
    unfold ignoreFunctionSql
    exact Exists.intro _ (And.intro rfl (by decide +kernel))
  obtain ⟨hhead, hcloses⟩ := Bool.and_eq_true_iff.1 hpart
  refine ⟨name.toList ++ part, ?_, .fragment h hhead (closes_of_closesWith hcloses)⟩
  rw [hsql, String.toList_append, String.toList_append, String.toList_ofList (l := part),
    List.append_assoc]

theorem announces_ignoreFunctionSql {name : String} (h : isClosed name.toList) :
    ∃ r, Announces (ignoreFunctionSql name).toList ["CREATE OR REPLACE FUNCTION".toList ++ r] := by
  obtain ⟨t, hlist, ht⟩ := exists_closes_ignoreFunctionSql h
  rw [hlist]
  exact announces_create ht

set_option maxRecDepth 8000 in
/-- The text of the trigger's function in front of its body and behind it. -/
theorem triggerFunctionSql_eq {pgid declare ignoring : String} (hpgid : isClosed pgid.toList)
    (hdeclare : Text.occurs ['$', '$'] declare.toList = false)
    (hignoring : Text.occurs ['$', '$'] ignoring.toList = false) (func : String) :
    ∃ front ending, (triggerFunctionSql pgid declare ignoring func).toList =
        "\n            CREATE OR REPLACE FUNCTION ".toList ++ (front ++ (func.toList ++ ending)) ∧
      (∀ t, Closes (.body [] none) t → Closes .plain (front ++ t)) ∧
      ending.head?.any (· ≠ '$') = true ∧ closesWith (.body [] none) ending = true := by
  obtain ⟨opening, beginning, asking, ending, hsql, hopening, hbeginning, hasking, hending⟩ :
      ∃ opening beginning asking ending,
        triggerFunctionSql pgid declare ignoring func =
          "\n            CREATE OR REPLACE FUNCTION " ++ pgid ++ String.ofList opening ++ declare ++
            String.ofList beginning ++ ignoring ++ String.ofList asking ++ func ++
              String.ofList ending ∧
        (opening.head?.any Mode.isNeutral = true ∧
          Mode.plain.through opening = some (.body [] none)) ∧
        (beginning.head?.any (· ≠ '$') = true ∧
          (Mode.body [] none).through beginning = some (.body [] none)) ∧
        (asking.head?.any (· ≠ '$') = true ∧
          (Mode.body [] none).through asking = some (.body [] none)) ∧
        ending.head?.any (· ≠ '$') = true ∧ closesWith (.body [] none) ending = true := by
    unfold triggerFunctionSql
    exact Exists.intro _ (Exists.intro _ (Exists.intro _ (Exists.intro _ (And.intro rfl
      ⟨by decide +kernel, by decide +kernel, by decide +kernel, by decide +kernel⟩))))
  have hhead : ∀ {q : Char → Bool} {a : List Char} (t : List Char), a.head?.any q = true →
      (a ++ t).head?.any q = true := by
    intro q a t h
    cases a with
    | nil => cases h
    | cons c a => exact h
  refine ⟨pgid.toList ++ (opening ++ (declare.toList ++ (beginning ++ (ignoring.toList ++ asking)))), ending,
    ?_, fun t ht => ?_, hending⟩
  · rw [hsql]
    simp only [String.toList_append, List.append_assoc, String.toList_ofList (l := opening),
      String.toList_ofList (l := beginning), String.toList_ofList (l := asking),
      String.toList_ofList (l := ending)]
  · simp only [List.append_assoc]
    refine .fragment hpgid (hhead _ hopening.1) (.append hopening.2 ?_)
    refine .inBody hdeclare (hhead _ hbeginning.1) (.append hbeginning.2 ?_)
    exact .inBody hignoring (hhead _ hasking.1) (.append hasking.2 ht)

/-- A body without a pair of dollar signs stays in the function, which is created up to the end of its
text. -/
theorem exists_closes_triggerFunctionSql {pgid declare ignoring func : String}
    (hpgid : isClosed pgid.toList) (hdeclare : Text.occurs ['$', '$'] declare.toList = false)
    (hignoring : Text.occurs ['$', '$'] ignoring.toList = false)
    (hfunc : Text.occurs ['$', '$'] func.toList = false) :
    ∃ t, (triggerFunctionSql pgid declare ignoring func).toList =
        "\n            CREATE OR REPLACE FUNCTION ".toList ++ t ∧ Closes .plain t := by
  obtain ⟨front, ending, hlist, hfront, hhead, hending⟩ :=
    triggerFunctionSql_eq hpgid hdeclare hignoring func
  exact ⟨_, hlist, hfront _ (.inBody hfunc hhead (closes_of_closesWith hending))⟩

theorem announces_triggerFunctionSql {pgid declare ignoring func : String}
    (hpgid : isClosed pgid.toList) (hdeclare : Text.occurs ['$', '$'] declare.toList = false)
    (hignoring : Text.occurs ['$', '$'] ignoring.toList = false)
    (hfunc : Text.occurs ['$', '$'] func.toList = false) :
    ∃ r, Announces (triggerFunctionSql pgid declare ignoring func).toList
      ["CREATE OR REPLACE FUNCTION".toList ++ r] := by
  obtain ⟨t, hlist, ht⟩ := exists_closes_triggerFunctionSql hpgid hdeclare hignoring hfunc
  rw [hlist]
  exact announces_create ht

/-- A body that ends the function, says something else and begins another block in dollar quotes, in which
the function's text then ends. -/
theorem announces_triggerFunctionSql_leaving {pgid declare ignoring func : String}
    (hpgid : isClosed pgid.toList) (hdeclare : Text.occurs ['$', '$'] declare.toList = false)
    (hignoring : Text.occurs ['$', '$'] ignoring.toList = false) {leaving between entering : List Char}
    {ds : List (List Char)} (hfunc : func.toList = leaving ++ (between ++ ("DO ".toList ++ entering)))
    (hleaving : closesWith (.body [] none) leaving) (hbetween : Announces between ds)
    (hentering : Mode.plain.through entering = some (.body [] none)) :
    ∃ r₁ r₂, (∀ c ∈ r₂.head?, Text.isBlank c) ∧
      Announces (triggerFunctionSql pgid declare ignoring func).toList
        (("CREATE OR REPLACE FUNCTION".toList ++ r₁) :: (ds ++ ["DO".toList ++ r₂])) := by
  obtain ⟨front, ending, hlist, hfront, -, hending⟩ :=
    triggerFunctionSql_eq hpgid hdeclare hignoring func
  obtain ⟨r₁, h₁⟩ := announces_create (hfront _ (closes_of_closesWith hleaving))
  have hlast : Closes .plain ("DO ".toList ++ (entering ++ ending)) :=
    .append (n := .plain) (by decide) (.append hentering (closes_of_closesWith hending))
  obtain ⟨init, hinit, -⟩ := closes_of_closesWith hending
  obtain ⟨r₂, hr₂, h₂⟩ := hlast.announces (b := []) (c := 'D') (a := []) (d := 'O')
    (t := ' ' :: (entering ++ ending)) (by simp) (by decide) (by decide)
    ⟨' ' :: (entering ++ init), by rw [hinit]; simp⟩
  have hblank : ∀ c ∈ r₂.head?, Text.isBlank c := by
    intro c hc
    obtain ⟨rest, rfl⟩ := List.head?_eq_some_iff.1 hc
    obtain ⟨more, hmore⟩ := hr₂
    obtain rfl : c = ' ' := (List.cons.inj hmore).1
    decide
  refine ⟨r₁, r₂, hblank, ?_⟩
  have hword : "DO".toList = ['D', 'O'] := by decide
  have hlead : "DO ".toList = ['D', 'O', ' '] := by decide
  have hall := h₁.append (hbetween.append h₂)
  rw [hlist, hfunc]
  simpa only [hword, hlead, List.append_assoc, List.cons_append, List.nil_append] using hall

end InstallParams

/-! ## Dropping a trigger -/

/-- The statement that drops a trigger if it is there. -/
def dropping (pgid table : String) : List Char :=
  "DROP TRIGGER IF EXISTS ".toList ++ ((Sql.triggerName pgid).toList ++
    (" ON ".toList ++ (Sql.quoteName table).toList))

/-- A statement that ends in a quoted name and is announced behind blanks. -/
theorem announces_named {b : List Char} {c : Char} {middle : List Char} (lead : List Char) (name : String)
    (hlead : lead = c :: middle) (hb : Mode.plain.through b = some .plain) (hblank : ∀ x ∈ b, Text.isBlank x)
    (hc : Text.isBlank c = false) (hclosed : isClosed (lead ++ (Sql.quoteName name).toList)) :
    Announces (b ++ (lead ++ (Sql.quoteName name).toList) ++ [';'])
      [lead ++ (Sql.quoteName name).toList] := by
  have hone : lead ++ (Sql.quoteName name).toList =
      c :: (middle ++ '"' :: Text.replaced '"' ['"', '"'] name.toList) ++ ['"'] := by
    rw [hlead, Sql.quoteName_eq]
    simp
  have hall := Announces.statement (Sql.isClosed_append hb hclosed)
  rw [hone, Sql.statementOf_blanks hblank hc (by decide)] at hall
  rw [hone]
  exact hall

theorem isClosed_dropping (pgid table : String) : isClosed (dropping pgid table) :=
  Sql.isClosed_append (by decide) (Sql.isClosed_fragment (Sql.isClosed_triggerName pgid) rfl
    (Sql.isClosed_append (by decide) (Sql.isClosed_quoteName table)))

theorem announces_dropping {b : List Char} (hb : Mode.plain.through b = some .plain)
    (hblank : ∀ x ∈ b, Text.isBlank x) (pgid table : String) :
    Announces (b ++ dropping pgid table ++ [';']) [dropping pgid table] := by
  have hall := announces_named (b := b) (c := 'D')
    ("DROP TRIGGER IF EXISTS ".toList ++ ((Sql.triggerName pgid).toList ++ " ON ".toList))
    table rfl hb hblank (by decide) (by
      have h := isClosed_dropping pgid table
      unfold dropping at h
      simpa only [List.append_assoc] using h)
  unfold dropping
  simpa only [List.append_assoc] using hall

namespace InstallParams

/-! ## Creating a trigger -/

/-- The statement that creates the trigger, up to its table. -/
def creating (p : InstallParams) : List Char :=
  "CREATE ".toList ++ ((p.constraint.getD "").toList ++ (" TRIGGER ".toList ++
    ((Sql.triggerName p.pgid).toList ++ ("\n                ".toList ++ (p.moment.toList ++
      (" ".toList ++ (p.operation.toList ++ (" ON ".toList ++ (Sql.quoteName p.table).toList))))))))

/-- The statement that comments on the trigger. -/
def commenting (p : InstallParams) (hash : String) : List Char :=
  "COMMENT ON TRIGGER ".toList ++ ((Sql.triggerName p.pgid).toList ++ (" ON ".toList ++
    ((Sql.quoteName p.table).toList ++ (" IS ".toList ++ ('\'' :: hash.toList ++ ['\''])))))

theorem isClosed_commenting (p : InstallParams) {hash : String} (h : '\'' ∉ hash.toList) :
    isClosed (p.commenting hash) := by
  have hliteral : isClosed ('\'' :: hash.toList ++ ['\'']) := by
    unfold isClosed
    rw [Sql.through_literal h]
    rfl
  exact Sql.isClosed_append (by decide) (Sql.isClosed_fragment (Sql.isClosed_triggerName _) rfl
    (Sql.isClosed_append (by decide) (Sql.isClosed_fragment (Sql.isClosed_quoteName _) rfl
      (Sql.isClosed_append (by decide) hliteral))))

/-- What follows the table in the statement that creates the trigger. -/
def afterTable (p : InstallParams) : List Char :=
  "\n                ".toList ++ ((p.timing.getD "").toList ++ ("\n                ".toList ++
    ((p.referencing.getD "").toList ++ ("\n                FOR EACH ".toList ++
      ((p.level.getD "ROW").toList ++ (" ".toList ++ ((p.condition.getD "").toList ++
        ("\n                EXECUTE PROCEDURE ".toList ++
          ((p.execute.getD p.defaultExecute).toList ++ [';', '\n'])))))))))

theorem closes_afterTable {p : InstallParams} (hclosed : ∀ text ∈ p.inTheOpen, isClosed text.toList) :
    Closes .plain p.afterTable := by
  simp only [inTheOpen, List.mem_cons, List.not_mem_nil, or_false, forall_eq_or_imp, forall_eq] at hclosed
  obtain ⟨-, -, -, -, htiming, hreferencing, hlevel, hcondition, hexecute⟩ := hclosed
  exact .append (n := .plain) (by decide) <| .fragment htiming rfl <|
    .append (n := .plain) (by decide) <| .fragment hreferencing rfl <|
    .append (n := .plain) (by decide) <| .fragment hlevel rfl <|
    .append (n := .plain) (by decide) <| .fragment hcondition rfl <|
    .append (n := .plain) (by decide) <| .of_isClosed hexecute

theorem closes_creating {p : InstallParams} (h : ∀ text ∈ p.inTheOpen, isClosed text.toList) :
    Closes .plain (p.creating ++ p.afterTable) := by
  have hclosed := h
  simp only [inTheOpen, List.mem_cons, List.not_mem_nil, or_false, forall_eq_or_imp, forall_eq] at hclosed
  obtain ⟨-, hconstraint, hmoment, hoperation, -⟩ := hclosed
  unfold creating
  simp only [List.append_assoc]
  exact .append (n := .plain) (by decide) <| .fragment hconstraint rfl <|
    .append (n := .plain) (by decide) <| .fragment (Sql.isClosed_triggerName _) rfl <|
    .append (n := .plain) (by decide) <| .fragment hmoment rfl <|
    .append (n := .plain) (by decide) <| .fragment hoperation rfl <|
    .append (n := .plain) (by decide) <| .fragment (Sql.isClosed_quoteName _) rfl (closes_afterTable h)

/-- The text that drops the trigger and the text that creates it. -/
theorem toList_triggerSql {p : InstallParams} (htable : '"' ∉ p.table.toList) :
    (triggerSql (Sql.triggerName p.pgid) (Sql.quote p.table) (p.constraint.getD "") p.moment p.operation
      (p.timing.getD "") (p.referencing.getD "") (p.level.getD "ROW") (p.condition.getD "")
      (p.execute.getD p.defaultExecute)).toList =
      ("\n            ".toList ++ dropping p.pgid p.table ++ [';']) ++
        ("\n            ".toList ++ (p.creating ++ p.afterTable)) := by
  have hdrop : "\n            DROP TRIGGER IF EXISTS ".toList =
      "\n            ".toList ++ "DROP TRIGGER IF EXISTS ".toList := by decide
  have hcreate : ";\n            CREATE ".toList =
      ';' :: ("\n            ".toList ++ "CREATE ".toList) := by decide
  have hend : ";\n".toList = [';', '\n'] := by decide
  unfold triggerSql dropping creating afterTable
  rw [Sql.quote_of_plain htable]
  simp only [toString, String.toList_append, hdrop, hcreate, hend, List.append_assoc, List.cons_append,
    List.nil_append]

/-- The trigger is dropped if it is there, and created. -/
theorem announces_triggerSql {p : InstallParams} (h : ∀ text ∈ p.inTheOpen, isClosed text.toList)
    (htable : '"' ∉ p.table.toList) :
    ∃ r, (∀ c ∈ r.head?, Text.isBlank c) ∧ Announces
      (triggerSql (Sql.triggerName p.pgid) (Sql.quote p.table) (p.constraint.getD "") p.moment p.operation
        (p.timing.getD "") (p.referencing.getD "") (p.level.getD "ROW") (p.condition.getD "")
        (p.execute.getD p.defaultExecute)).toList
      [dropping p.pgid p.table, p.creating ++ r] := by
  obtain ⟨a, ha⟩ : ∃ a, p.creating = 'C' :: a ++ ['"'] := by
    refine ⟨"REATE ".toList ++ ((p.constraint.getD "").toList ++ (" TRIGGER ".toList ++
      ((Sql.triggerName p.pgid).toList ++ ("\n                ".toList ++ (p.moment.toList ++
        (" ".toList ++ (p.operation.toList ++ (" ON ".toList ++
          '"' :: Text.replaced '"' ['"', '"'] p.table.toList)))))))), ?_⟩
    have hlead : "CREATE ".toList = 'C' :: "REATE ".toList := by decide
    unfold creating
    rw [Sql.quoteName_eq, hlead]
    simp only [List.append_assoc, List.cons_append]
  have hcloses : Closes .plain ("\n            ".toList ++ ('C' :: a ++ '"' :: p.afterTable)) := by
    have hall := Closes.append (m := .plain) (s := "\n            ".toList) (by decide) (closes_creating h)
    rw [ha] at hall
    simpa only [List.append_assoc, List.cons_append, List.nil_append] using hall
  obtain ⟨init, hinit, -⟩ := closes_afterTable h
  obtain ⟨r, hr, hannounces⟩ := hcloses.announces (by decide) (by decide) (by decide) ⟨init, hinit⟩
  have hsame : p.creating ++ r = 'C' :: a ++ '"' :: r := by
    rw [ha]
    simp
  refine ⟨r, ?_, ?_⟩
  · intro c hc
    obtain ⟨rest, rfl⟩ := List.head?_eq_some_iff.1 hc
    obtain ⟨more, hmore⟩ := hr
    unfold afterTable at hmore
    obtain rfl : c = '\n' := (List.cons.inj hmore).1
    decide
  · rw [toList_triggerSql htable, hsame]
    have hall := (announces_dropping (b := "\n            ".toList) (by decide) (by decide) p.pgid
      p.table).append hannounces
    rw [ha]
    simpa only [List.append_assoc, List.cons_append, List.nil_append] using hall

/-- The comment is the last statement. -/
theorem statements_commentSql {p : InstallParams} (htable : '"' ∉ p.table.toList) {hash : String}
    (hhash : '\'' ∉ hash.toList) :
    Sql.statements (commentSql (Sql.triggerName p.pgid) (Sql.quote p.table) hash).toList =
      [p.commenting hash] := by
  have hlist : (commentSql (Sql.triggerName p.pgid) (Sql.quote p.table) hash).toList =
      ("\n            ".toList ++ p.commenting hash ++ [';']) ++ "\n        ".toList := by
    have hlead : "\n            COMMENT ON TRIGGER ".toList =
        "\n            ".toList ++ "COMMENT ON TRIGGER ".toList := by decide
    have his : " IS '".toList = " IS ".toList ++ ['\''] := by decide
    have hend : "';\n        ".toList = '\'' :: ';' :: "\n        ".toList := by decide
    unfold commentSql commenting
    rw [Sql.quote_of_plain htable]
    simp only [toString, String.toList_append, hlead, his, hend, List.append_assoc, List.cons_append,
      List.nil_append]
  have hends : p.commenting hash = 'C' :: ("OMMENT ON TRIGGER ".toList ++
      ((Sql.triggerName p.pgid).toList ++ (" ON ".toList ++ ((Sql.quoteName p.table).toList ++
        (" IS ".toList ++ '\'' :: hash.toList))))) ++ ['\''] := by
    have hlead : "COMMENT ON TRIGGER ".toList = 'C' :: "OMMENT ON TRIGGER ".toList := by decide
    unfold commenting
    rw [hlead]
    simp only [List.append_assoc, List.cons_append]
  have hannounces := Announces.statement (Sql.isClosed_append (s := "\n            ".toList) (by decide)
    (isClosed_commenting p hhash))
  rw [hends, Sql.statementOf_blanks (by decide) (by decide) (by decide), ← hends] at hannounces
  rw [hlist, hannounces]
  have hblank : Sql.statements "\n        ".toList = [] := by decide
  rw [hblank]
  rfl

/-! ## The script -/

/-- The texts of the script. -/
theorem toList_renderV1 (p : InstallParams) (hash : String) :
    (p.renderV1 hash).toList = (ignoreFunctionSql p.ignoring).toList ++
      ((triggerFunctionSql (Sql.triggerName p.pgid) (p.declare.getD "") p.ignoring p.func).toList ++
        (triggerSql (Sql.triggerName p.pgid) (Sql.quote p.table) (p.constraint.getD "") p.moment
          p.operation (p.timing.getD "") (p.referencing.getD "") (p.level.getD "ROW")
          (p.condition.getD "") (p.execute.getD p.defaultExecute)).toList) ++
      (commentSql (Sql.triggerName p.pgid) (Sql.quote p.table) hash).toList := by
  unfold renderV1
  simp only [String.toList_append, List.append_assoc]
  rfl

/-- The script around the trigger's function, whatever statements that comes to. -/
theorem statements_renderV1_of_function {p : InstallParams}
    (hclosed : ∀ text ∈ p.inTheOpen, isClosed text.toList) (htable : '"' ∉ p.table.toList)
    {ds : List (List Char)} (hfunction : Announces
      (triggerFunctionSql (Sql.triggerName p.pgid) (p.declare.getD "") p.ignoring p.func).toList ds)
    {hash : String} (hhash : '\'' ∉ hash.toList) :
    ∃ r₁ r₃, (∀ c ∈ r₃.head?, Text.isBlank c) ∧ Sql.statements (p.renderV1 hash).toList =
      ("CREATE OR REPLACE FUNCTION".toList ++ r₁) ::
        (ds ++ [dropping p.pgid p.table, p.creating ++ r₃, p.commenting hash]) := by
  obtain ⟨r₁, h₁⟩ := announces_ignoreFunctionSql (hclosed p.ignoring List.mem_cons_self)
  obtain ⟨r₃, hr₃, h₃⟩ := announces_triggerSql hclosed htable
  refine ⟨r₁, r₃, hr₃, ?_⟩
  rw [toList_renderV1, h₁.append (hfunction.append h₃), statements_commentSql htable hhash]
  simp only [List.append_assoc, List.cons_append, List.nil_append]

/-- The script of fragments that keep their places creates two functions, drops the trigger, creates it and
comments on it. -/
theorem statements_renderV1 {p : InstallParams} (h : p.Contained) {hash : String}
    (hhash : '\'' ∉ hash.toList) :
    ∃ r₁ r₂ r₃, (∀ c ∈ r₃.head?, Text.isBlank c) ∧ Sql.statements (p.renderV1 hash).toList =
      ["CREATE OR REPLACE FUNCTION".toList ++ r₁, "CREATE OR REPLACE FUNCTION".toList ++ r₂,
        dropping p.pgid p.table, p.creating ++ r₃, p.commenting hash] := by
  have hkept := h.kept
  simp only [inBodies, List.mem_cons, List.not_mem_nil, or_false, forall_eq_or_imp, forall_eq] at hkept
  obtain ⟨hdeclare, hignoring, hfunc⟩ := hkept
  obtain ⟨r₂, hfunction⟩ := announces_triggerFunctionSql (Sql.isClosed_triggerName p.pgid) hdeclare
    hignoring hfunc
  obtain ⟨r₁, r₃, hr₃, hall⟩ := statements_renderV1_of_function h.closed h.table hfunction hhash
  exact ⟨r₁, r₂, r₃, hr₃, hall⟩

/-- The statements of the template: they create the function that knows which triggers are ignored and the
trigger's function, drop the trigger, create it and comment on it. -/
def script (p : InstallParams) (hash : String) : List (List Char) := [
  statementIn (ignoreFunctionSql p.ignoring).toList,
  statementIn
    (triggerFunctionSql (Sql.triggerName p.pgid) (p.declare.getD "") p.ignoring p.func).toList,
  dropping p.pgid p.table,
  statementIn (p.creating ++ p.afterTable),
  p.commenting hash]

theorem announces_createFunction {text : String} {t : List Char}
    (htext : text.toList = "\n            CREATE OR REPLACE FUNCTION ".toList ++ t) (ht : Closes .plain t) :
    Announces text.toList [statementIn text.toList] := by
  rw [htext]
  exact (Closes.append (n := .plain) (by decide) ht).announces_statementIn ht (by decide)

theorem announces_createTrigger {p : InstallParams} (h : ∀ text ∈ p.inTheOpen, isClosed text.toList) :
    Announces ("\n            ".toList ++ (p.creating ++ p.afterTable))
      [statementIn (p.creating ++ p.afterTable)] := by
  have hafter := closes_afterTable h
  have hall := Closes.append (m := .plain) (s := "\n            ".toList) (by decide) (closes_creating h)
  have hfull : ("\n            ".toList ++ p.creating).any fun c => !Text.isBlank c := by
    have hC : 'C' ∈ "CREATE ".toList := by decide
    exact List.any_eq_true.2 ⟨'C', List.mem_append_right _ (List.mem_append_left _ hC), by decide⟩
  rw [← List.append_assoc] at hall ⊢
  have hsame : statementIn ("\n            ".toList ++ p.creating ++ p.afterTable) =
      statementIn (p.creating ++ p.afterTable) := by
    unfold statementIn
    rw [hafter.dropLast_append, hafter.dropLast_append, List.append_assoc, Sql.trim_blanks (by decide)]
  exact hsame ▸ hall.announces_statementIn hafter hfull

/-- The script of fragments that keep their places has the statements of the template. -/
theorem statements_script {p : InstallParams} (h : p.Contained) {hash : String} (hhash : '\'' ∉ hash.toList) :
    Sql.statements (p.renderV1 hash).toList = p.script hash := by
  have hkept := h.kept
  simp only [inBodies, List.mem_cons, List.not_mem_nil, or_false, forall_eq_or_imp, forall_eq] at hkept
  obtain ⟨hdeclare, hignoring, hfunc⟩ := hkept
  obtain ⟨t₁, htext₁, ht₁⟩ := exists_closes_ignoreFunctionSql (h.closed p.ignoring List.mem_cons_self)
  obtain ⟨t₂, htext₂, ht₂⟩ := exists_closes_triggerFunctionSql (Sql.isClosed_triggerName p.pgid) hdeclare
    hignoring hfunc
  have hfunctions := (announces_createFunction htext₁ ht₁).append (announces_createFunction htext₂ ht₂)
  have htrigger := (announces_dropping (b := "\n            ".toList) (by decide) (by decide) p.pgid
    p.table).append (announces_createTrigger h.closed)
  rw [toList_renderV1, toList_triggerSql h.table, ← List.append_assoc, hfunctions.append htrigger,
    statements_commentSql h.table hhash]
  rfl

/-- Such a script controls no transaction. -/
theorem Contained.control_renderV1 {p : InstallParams} (h : p.Contained) {hash : String}
    (hhash : '\'' ∉ hash.toList) :
    ∀ s ∈ Sql.statements (p.renderV1 hash).toList, Sql.Control.ofStatement? s = none := by
  obtain ⟨r₁, r₂, r₃, -, hstatements⟩ := statements_renderV1 h hhash
  rw [hstatements]
  simp only [List.mem_cons, List.not_mem_nil, or_false, forall_eq_or_imp, forall_eq]
  exact ⟨rfl, rfl, rfl, rfl, rfl⟩

/-- The hash that the script of some parameters leaves. -/
def ownHash (p : InstallParams) : String := p.normalized.contentHash .v1

theorem not_mem_ownHash (p : InstallParams) : '\'' ∉ p.ownHash.toList := by
  intro h
  have hname := Digest.isNameCharacter_of_mem_sha1 h
  revert hname
  decide

end InstallParams

/-! ## Scripts of triggers -/

/-- What is known of the parameters of a trigger that was compiled for an entity. -/
structure Trigger.Fills (t : Trigger) (e : Entity) (p : InstallParams) : Prop where
  pgid : t.pgid e = .ok p.pgid
  table : p.table = e.table
  constraint : p.constraint.getD "" = "" ∨ p.constraint.getD "" = "CONSTRAINT"
  moment : p.moment = t.moment.sql
  operation : p.operation = t.operation.sql e

/-- The parameters of a trigger and what they are made of. -/
theorem Trigger.installParams_eq {t : Trigger} {e : Entity} {s : Settings} {p : InstallParams}
    (h : t.installParams e s = .ok p) :
    ∃ pgid func condition execute, t.pgid e = .ok pgid ∧ t.body e = .ok func ∧
      t.whenClause e = .ok condition ∧ t.kind.execute e pgid = .ok execute ∧
      p = { ignoreFuncName := some (Sql.ignoreFunction s.schema)
            pgid
            declare := some t.declareBlock
            func
            table := e.table
            constraint := t.timing.map fun _ => "CONSTRAINT"
            moment := t.moment.sql
            operation := t.operation.sql e
            timing := t.timing.map fun d => "DEFERRABLE INITIALLY " ++ d.sql
            referencing := t.tables.map TransitionTables.sql
            level := some t.level.sql
            condition := some condition
            execute := some execute } := by
  obtain ⟨pgid, hpgid, hrest⟩ := exists_ok_of_bind h
  obtain ⟨func, hfunc, hrest⟩ := exists_ok_of_bind hrest
  obtain ⟨condition, hcondition, hrest⟩ := exists_ok_of_bind hrest
  obtain ⟨execute, hexecute, hparams⟩ := exists_ok_of_bind hrest
  exact ⟨pgid, func, condition, execute, hpgid, hfunc, hcondition, hexecute, (Except.ok.inj hparams).symm⟩

theorem Trigger.fills_of_installParams {t : Trigger} {e : Entity} {s : Settings} {p : InstallParams}
    (h : t.installParams e s = .ok p) : t.Fills e p := by
  obtain ⟨pgid, func, condition, execute, hpgid, -, -, -, rfl⟩ := installParams_eq h
  refine ⟨hpgid, rfl, ?_, rfl, rfl⟩
  cases t.timing with
  | none => exact .inl rfl
  | some d => exact .inr rfl

/-- The script and the hash are made from the same parameters. -/
theorem Trigger.compiled_of_installParams {t : Trigger} {e : Entity} {s : Settings} {p : InstallParams}
    (h : t.installParams e s = .ok p) :
    t.installSql e s = .ok (p.renderV1 p.ownHash) ∧ t.hash e s = .ok p.ownHash := by
  have hcompile : t.compile e s = .ok ⟨t.name, .ofParams p⟩ := by
    unfold Trigger.compile
    rw [h]
    rfl
  unfold Trigger.installSql Trigger.hash
  rw [hcompile]
  exact ⟨congrArg Except.ok (p.render_normalized .v1 p.ownHash), rfl⟩

/-- A script that can be written is made from parameters. -/
theorem Trigger.exists_installParams {t : Trigger} {e : Entity} {s : Settings} {text : String}
    (h : t.installSql e s = .ok text) :
    ∃ p, t.installParams e s = .ok p ∧ text = p.renderV1 p.ownHash := by
  cases hparams : t.installParams e s with
  | error fault =>
    unfold Trigger.installSql Trigger.compile at h
    rw [hparams] at h
    cases h
  | ok p =>
    refine ⟨p, rfl, ?_⟩
    rw [(Trigger.compiled_of_installParams hparams).1] at h
    exact (Except.ok.inj h).symm

/-- No fragment of an entry leaves its place in the script that installs it. The columns that its operation
names have no quotes of their own. -/
structure Entry.Contained (x : Entry) (s : Settings) : Prop where
  params : ∀ p, x.trigger.installParams x.entity s = .ok p → p.Contained
  columns : ∀ c ∈ x.trigger.operation.columns, '"' ∉ ((x.entity.column? c).getD c).toList

/-- The script of a contained entry controls no transaction. -/
theorem Entry.Contained.control {x : Entry} {s : Settings} (h : x.Contained s) {text : String}
    (htext : x.trigger.installSql x.entity s = .ok text) :
    ∀ t ∈ Sql.statements text.toList, Sql.Control.ofStatement? t = none := by
  obtain ⟨p, hparams, rfl⟩ := Trigger.exists_installParams htext
  exact (h.params p hparams).control_renderV1 p.not_mem_ownHash

/-- The text that drops a trigger from a table, in quotes or not. -/
theorem announces_dropTriggerSql (pgid : String) {table relation : String}
    (h : Sql.quote table = Sql.quoteName relation) :
    Announces (dropTriggerSql pgid table).toList [dropping pgid relation] := by
  have hlist : (dropTriggerSql pgid table).toList = [] ++ dropping pgid relation ++ [';'] := by
    unfold dropTriggerSql dropping
    rw [h]
    simp only [String.toList_append, List.append_assoc, List.nil_append]
    rfl
  rw [hlist]
  exact announces_dropping rfl (by simp) pgid relation

theorem statements_dropTriggerSql (pgid : String) {table : String} (h : '"' ∉ table.toList) :
    Sql.statements (dropTriggerSql pgid table).toList = [dropping pgid table] :=
  (announces_dropTriggerSql pgid (Sql.quote_of_plain h)).statements_eq

/-- An entry's trigger can always be dropped by a statement. -/
theorem Entry.uninstallSql_eq (x : Entry) :
    x.trigger.uninstallSql x.entity = .ok (dropTriggerSql x.pgid x.table) := by
  unfold Trigger.uninstallSql
  rw [x.pgid_eq]
  rfl

end DeclaredTriggers
