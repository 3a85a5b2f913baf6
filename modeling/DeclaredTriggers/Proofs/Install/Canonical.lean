import DeclaredTriggers.Install.Compiled

/-!
# One hash for every spelling

A parameter that repeats its default says no more than one that is left out. Both spellings fill the template
alike, and the hash is taken of the parameters without what they repeat, so it does not tell them apart. What
it does tell apart is everything that shows in the script, as far as the digest does:

> `InstallParams.render_of_render`: scripts that agree for one hash agree for all, because the hash stands in
> one place and in front of the same end.
>
> `InstallSql.hash_canonical`: parameters have the same hash if and only if their scripts are the same; and a
> trigger put together again from its parts writes the same statements.
-/

namespace DeclaredTriggers

namespace InstallParams

/-! ## Parameters without defaults -/

theorem unlessDefault_unlessDefault (default : String) (value : Option String) :
    unlessDefault default (unlessDefault default value) = unlessDefault default value := by
  by_cases h : value = some default
  · simp [unlessDefault, h]
  · simp only [unlessDefault, if_neg h]

/-- Normalizing twice is normalizing once: the default of the procedure hangs on the identifier, which stays. -/
theorem normalized_normalized (p : InstallParams) : p.normalized.normalized = p.normalized := by
  have hexecute : p.normalized.defaultExecute = p.defaultExecute := rfl
  unfold normalized at hexecute ⊢
  simp only [hexecute, unlessDefault_unlessDefault]

/-- The hash is that of the parameters as they were given. -/
theorem contentHash_normalized (p : InstallParams) (v : TemplateVersion) :
    p.normalized.contentHash v = p.contentHash v :=
  congrArg Digest.sha1 (p.render_normalized v "")

/-! ## Where the hash stands -/

theorem exists_commentSql_eq (pgid table : String) :
    ∃ lead, ∀ hash, commentSql pgid table hash = lead ++ hash ++ "';\n        " := ⟨_, fun _ => rfl⟩

/-- A script is a text that the parameters give, the hash, and an end that is always the same. -/
theorem exists_render_eq (p : InstallParams) (v : TemplateVersion) :
    ∃ lead, ∀ hash, p.render v hash = lead ++ hash ++ "';\n        " := by
  cases v
  obtain ⟨lead, hlead⟩ := exists_commentSql_eq (Sql.triggerName p.pgid) (Sql.quote p.table)
  simp only [render, renderV1, hlead, ← String.append_assoc]
  exact ⟨_, fun _ => rfl⟩

/-- Scripts that agree for one hash agree for all. -/
theorem render_of_render {p q : InstallParams} {v : TemplateVersion} {hash : String}
    (h : p.render v hash = q.render v hash) (other : String) : p.render v other = q.render v other := by
  obtain ⟨pLead, hp⟩ := p.exists_render_eq v
  obtain ⟨qLead, hq⟩ := q.exists_render_eq v
  have hleads : pLead = qLead := by
    rw [hp, hq] at h
    exact (String.append_left_inj hash).1 ((String.append_left_inj _).1 h)
  rw [hp, hq, hleads]

/-- Parameters whose scripts differ without a hash have different digests, or else the digest collides; those
whose scripts agree have the same. -/
theorem contentHash_eq_iff {p q : InstallParams} {v : TemplateVersion}
    (hfree : Digest.sha1 (p.render v "") = Digest.sha1 (q.render v "") → p.render v "" = q.render v "") :
    p.contentHash v = q.contentHash v ↔ ∀ hash, p.render v hash = q.render v hash := by
  constructor
  · intro h
    exact render_of_render (hfree h)
  · intro h
    exact congrArg Digest.sha1 (h "")

end InstallParams

namespace CompiledTrigger

/-- Putting a trigger together again from its parts only normalizes its parameters. -/
theorem ofParts_parts (c : CompiledTrigger) :
    ofParts c.name c.sql.version c.sql.params c.hash =
      { c with sql := { c.sql with params := c.sql.params.normalized } } := rfl

end CompiledTrigger

namespace InstallSql

/-- For all parameters, texts of a hash and compiled triggers: normalizing does not show in the script and is
done at once; the hash that is stored is the one computed anew; it tells parameters apart exactly if their
scripts differ, provided that the digest of the two scripts without a hash does not collide; and a trigger put
together again from its parts writes the same statements and has the same hash computed. -/
theorem hash_canonical (p q : InstallParams) (v : TemplateVersion) (h : String) (c : CompiledTrigger) :
    p.normalized.render v h = p.render v h ∧
      p.normalized.normalized = p.normalized ∧
      (ofParams p).hash = (ofParams p).computedHash ∧
      ((Digest.sha1 (p.render .v1 "") = Digest.sha1 (q.render .v1 "") → p.render .v1 "" = q.render .v1 "") →
        ((ofParams p).hash = (ofParams q).hash ↔ ∀ hash, p.render .v1 hash = q.render .v1 hash)) ∧
      (let d := CompiledTrigger.ofParts c.name c.sql.version c.sql.params c.hash;
        d.installSql = c.installSql ∧ d.uninstallSql = c.uninstallSql ∧ d.enableSql = c.enableSql ∧
          d.disableSql = c.disableSql ∧ d.sql.computedHash = c.sql.computedHash) := by
  refine ⟨p.render_normalized v h, p.normalized_normalized, rfl, fun hfree => ?_, ?_⟩
  · have hhash : ∀ r : InstallParams, (ofParams r).hash = r.contentHash .v1 :=
      fun r => r.contentHash_normalized .v1
    rw [hhash, hhash]
    exact InstallParams.contentHash_eq_iff hfree
  · rw [c.ofParts_parts]
    exact ⟨c.sql.params.render_normalized c.sql.version c.hash, rfl, rfl, rfl,
      c.sql.params.contentHash_normalized c.sql.version⟩

/-- A trigger's parameters with every default left out. -/
def plainParams : InstallParams :=
  { pgid := "pgtrigger_Keep-books_1a2b3", func := "RAISE EXCEPTION 'no';", table := "book", moment := "BEFORE",
    operation := "DELETE" }

/-- The same with every default said; the identifier is one that has to be quoted. -/
def spelledParams : InstallParams :=
  { plainParams with
    ignoreFuncName := some defaultIgnoreFunction
    declare := some ""
    constraint := some ""
    timing := some ""
    referencing := some ""
    level := some "ROW"
    condition := some ""
    execute := some "\"pgtrigger_Keep-books_1a2b3\"()" }

/-- Parameters that are spelled differently, with the same script and therefore the same hash. -/
theorem hash_canonical_spelled :
    spelledParams ≠ plainParams ∧
      (ofParams spelledParams).hash = (ofParams plainParams).hash ∧
      ∀ hash, spelledParams.render .v1 hash = plainParams.render .v1 hash := by
  have hnormalized : spelledParams.normalized = plainParams.normalized := by decide
  have hsame : spelledParams.render .v1 "" = plainParams.render .v1 "" := by
    rw [← spelledParams.render_normalized, hnormalized, plainParams.render_normalized]
  obtain ⟨-, -, -, hiff, -⟩ := hash_canonical spelledParams plainParams .v1 ""
    ⟨"keep_books", ofParams plainParams⟩
  have hhash : (ofParams spelledParams).hash = (ofParams plainParams).hash := congrArg Digest.sha1 (by
    rw [hnormalized])
  exact ⟨by decide, hhash, (hiff fun _ => hsame).1 hhash⟩

end InstallSql

end DeclaredTriggers
