import DeclaredTriggers.Digest.Sha1
import DeclaredTriggers.Sql.Quoting

/-!
# The install template

Installing a trigger runs five statements: they create the function that knows which triggers are
ignored, the trigger's own function and the trigger, and leave a hash of all this as a comment on
the trigger. The statements are a fixed text filled with parameters, most of which have a
default. `InstallParams.normalized` drops the parameters that only repeat a default; the text is
the same without them. The hash is the digest of the text with no hash in it.

A template that was published is never changed, because persisted triggers are written from the
version they name. What is written differently is a new version.
-/

namespace DeclaredTriggers

/-- The published templates. -/
inductive TemplateVersion where
  | v1
  deriving DecidableEq, Inhabited

/-- The schema-qualified name of the function that knows which triggers are ignored. -/
def defaultIgnoreFunction : String := "\"public\"._pgtrigger_should_ignore"

/-- What a template is filled with; a parameter that is not set has its default. -/
structure InstallParams where
  ignoreFuncName : Option String := none
  pgid : String
  declare : Option String := none
  func : String
  table : String
  constraint : Option String := none
  moment : String
  operation : String
  timing : Option String := none
  referencing : Option String := none
  level : Option String := none
  condition : Option String := none
  execute : Option String := none
  deriving DecidableEq, Inhabited

namespace InstallParams

/-- The procedure that is executed if no other is given. -/
def defaultExecute (p : InstallParams) : String := Sql.triggerName p.pgid ++ "()"

/-- A parameter, unless it repeats its default. -/
def unlessDefault (default : String) (value : Option String) : Option String :=
  if value = some default then none else value

/-- The parameters without those that repeat a default. -/
def normalized (p : InstallParams) : InstallParams :=
  { p with
    ignoreFuncName := unlessDefault defaultIgnoreFunction p.ignoreFuncName
    declare := unlessDefault "" p.declare
    constraint := unlessDefault "" p.constraint
    timing := unlessDefault "" p.timing
    referencing := unlessDefault "" p.referencing
    level := unlessDefault "ROW" p.level
    condition := unlessDefault "" p.condition
    execute := unlessDefault p.defaultExecute p.execute }

/-- The function that knows which triggers are ignored. -/
def ignoreFunctionSql (name : String) : String :=
  s!"
            CREATE OR REPLACE FUNCTION {name}(
                trigger_name NAME
            )
            RETURNS BOOLEAN AS $$
                DECLARE
                    _pgtrigger_ignore TEXT[];
                    _result BOOLEAN;
                BEGIN
                    BEGIN
                        SELECT INTO _pgtrigger_ignore
                            CURRENT_SETTING('pgtrigger.ignore');
                        EXCEPTION WHEN OTHERS THEN
                    END;
                    IF _pgtrigger_ignore IS NOT NULL THEN
                        SELECT trigger_name = ANY(_pgtrigger_ignore)
                        INTO _result;
                        RETURN _result;
                    ELSE
                        RETURN FALSE;
                    END IF;
                END;
            $$ LANGUAGE plpgsql;
"

/-- The trigger's own function. -/
def triggerFunctionSql (pgid declare ignoreFunction func : String) : String :=
  s!"
            CREATE OR REPLACE FUNCTION {pgid}()
            RETURNS TRIGGER AS $$
                {declare}
                BEGIN
                    IF ({ignoreFunction}(TG_NAME) IS TRUE) THEN
                        IF (TG_OP = 'DELETE') THEN
                            RETURN OLD;
                        ELSE
                            RETURN NEW;
                        END IF;
                    END IF;
                    {func}
                END;
            $$ LANGUAGE plpgsql;
"

/-- The trigger: dropped if it is there, and created. -/
def triggerSql (pgid table constraint moment operation timing referencing level condition
    execute : String) : String :=
  s!"
            DROP TRIGGER IF EXISTS {pgid} ON {table};
            CREATE {constraint} TRIGGER {pgid}
                {moment} {operation} ON {table}
                {timing}
                {referencing}
                FOR EACH {level} {condition}
                EXECUTE PROCEDURE {execute};
"

/-- The hash, left as a comment on the trigger. -/
def commentSql (pgid table hash : String) : String :=
  s!"
            COMMENT ON TRIGGER {pgid} ON {table} IS '{hash}';
        "

/-- The first template filled with the parameters and a hash. -/
def renderV1 (p : InstallParams) (hash : String) : String :=
  let ignoreFunction := p.ignoreFuncName.getD defaultIgnoreFunction
  let pgid := Sql.triggerName p.pgid
  let table := Sql.quote p.table
  ignoreFunctionSql ignoreFunction ++
    triggerFunctionSql pgid (p.declare.getD "") ignoreFunction p.func ++
    triggerSql pgid table (p.constraint.getD "") p.moment p.operation (p.timing.getD "")
      (p.referencing.getD "") (p.level.getD "ROW") (p.condition.getD "")
      (p.execute.getD p.defaultExecute) ++
    commentSql pgid table hash

/-- A template filled with the parameters and a hash. -/
def render (p : InstallParams) : TemplateVersion → String → String
  | .v1, hash => p.renderV1 hash

/-- The digest of a template filled with the parameters and no hash. -/
def contentHash (p : InstallParams) (v : TemplateVersion) : String := Digest.sha1 (p.render v "")

theorem getD_unlessDefault (default : String) (value : Option String) :
    (unlessDefault default value).getD default = value.getD default := by
  unfold unlessDefault
  split
  next h => simp [h]
  next => rfl

/-- What is dropped in normalizing does not show in the text. -/
theorem render_normalized (p : InstallParams) (v : TemplateVersion) (hash : String) :
    p.normalized.render v hash = p.render v hash := by
  cases v
  have he : p.normalized.defaultExecute = p.defaultExecute := rfl
  simp only [render, renderV1, he]
  simp only [normalized, getD_unlessDefault]

end InstallParams

/-- The statements that install a trigger: parameters, a template and the hash to leave. -/
structure InstallSql where
  version : TemplateVersion
  params : InstallParams
  hash : String
  deriving DecidableEq, Inhabited

namespace InstallSql

/-- The statements for some parameters, with their own hash. -/
def ofParams (p : InstallParams) : InstallSql :=
  { version := .v1, params := p.normalized, hash := p.normalized.contentHash .v1 }

/-- Persisted statements; their hash is taken as it is. -/
def withHash (version : TemplateVersion) (p : InstallParams) (hash : String) : InstallSql :=
  { version, params := p.normalized, hash }

/-- The statements. -/
def text (s : InstallSql) : String := s.params.render s.version s.hash

/-- The hash of the statements, computed anew. -/
def computedHash (s : InstallSql) : String := s.params.contentHash s.version

end InstallSql

/-- The statement that drops a trigger. -/
def dropTriggerSql (pgid table : String) : String :=
  "DROP TRIGGER IF EXISTS " ++ Sql.triggerName pgid ++ " ON " ++ Sql.quote table ++ ";"

/-- The statement that enables a trigger. -/
def enableTriggerSql (pgid table : String) : String :=
  "ALTER TABLE " ++ Sql.quote table ++ " ENABLE TRIGGER " ++ Sql.triggerName pgid ++ ";"

/-- The statement that disables a trigger. -/
def disableTriggerSql (pgid table : String) : String :=
  "ALTER TABLE " ++ Sql.quote table ++ " DISABLE TRIGGER " ++ Sql.triggerName pgid ++ ";"

end DeclaredTriggers
