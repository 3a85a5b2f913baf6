import DeclaredTriggers.Proofs.Reconcile.Unblocking

/-!
# Databases that guard a column

A database whose rules refuse an alteration while some triggers are in its catalog, and refuse nothing else
that an alteration sends, guards the column (`Rules.Guard.guarding`): what is shown of it is which triggers of
the registry its catalog holds (`ShowsTriggers`), and a drop takes one out of it and a script puts one back.
With such servers among all others, what is known of alterations comes to this:

> `alterColumn_gets_through`: every alteration takes its course, and one that only registered triggers are in
> the way of succeeds and leaves them as they were.
-/

namespace DeclaredTriggers

open Act (result)
open Channel
open Sql (Control)

/-! ## Rules that spare what controls the transaction -/

namespace Database

variable {d : Database}

theorem settled_of_control (hspares : ¬ d.rules.Meddling) {s : List Char} {c : Control}
    (hcontrol : Control.ofStatement? s = some c) (after : Database) :
    d.settled s (some after) = (none, after.ticked) := by
  rcases d.settled_some after s with ⟨-, hdone⟩ | ⟨refusal, hrefused, -⟩
  · exact hdone
  · refine absurd ⟨d.clock, d.work, s, ?_, ?_⟩ hspares
    · rw [hcontrol]
      nofun
    · rw [hrefused]
      nofun

theorem heard_begin_of_spared (hspares : ¬ d.rules.Meddling) (hphase : d.phase = .idle) :
    d.heard "BEGIN" = (none, ticked { d with phase := .inTransaction, outside := d.work }) := by
  have hbegun : d.begun = { d with outside := d.work } := if_pos hphase
  have hallowed : controlled? { d with outside := d.work } .opens (lastWord "BEGIN".toList) =
      some { d with phase := .inTransaction, outside := d.work } := by
    unfold controlled?
    rw [hphase]
  rw [heard_of_control (c := .opens) (by decide) (by decide), hbegun, hallowed]
  have hcontrol : Control.ofStatement? "BEGIN".toList = some .opens := by decide
  exact settled_of_control (d := { d with outside := d.work }) hspares hcontrol _

theorem heard_commit_of_spared (hspares : ¬ d.rules.Meddling) (hphase : d.phase = .inTransaction) :
    d.heard "COMMIT" = (none, d.committed.ticked) := by
  rw [heard_of_control (c := .commit) (by decide) (by decide),
    begun_of_open (by rw [hphase]; nofun)]
  unfold controlled?
  simp only [hphase]
  have hcontrol : Control.ofStatement? "COMMIT".toList = some .commit := by decide
  exact settled_of_control hspares hcontrol _

end Database

/-! ## What is shown of a database -/

/-- Which triggers of a registry are there after some work. -/
def Stands (r : Registry) (m : Catalog) (work : Work) (ids : List String) : Prop :=
  ∀ id, id ∈ ids ↔ ∃ x ∈ r.entries, x.pgid = id ∧ (m.after work).lookup x.key ≠ none

/-- What a connection to a database shows of the triggers of a registry. -/
structure ShowsTriggers (rules : Rules) (m : Catalog) (r : Registry) (c : Direct Database) (S : Scene) :
    Prop where
  isOpen : c.wire.isOpen = true
  rules : c.database.rules = rules
  phase : c.database.phase = S.phase
  standing : S.phase ≠ .failed → Stands r m c.database.work S.standing
  savepoints : List.Forall₂ (fun p q => p.1 = (savepointName q.1).toList ∧ Stands r m p.2 q.2)
    c.database.savepoints S.savepoints

namespace ShowsTriggers

variable {rules : Rules} {m : Catalog} {r : Registry} {c c' : Direct Database} {S : Scene}

theorem exists_savepoint (h : ShowsTriggers rules m r c S) {n : Nat} {ids : List String}
    {older : List (Nat × List String)} (hS : S.savepoints = (n, ids) :: older) :
    ∃ work older', c.database.savepoints = ((savepointName n).toList, work) :: older' ∧
      Stands r m work ids ∧ List.Forall₂ (fun p q => p.1 = (savepointName q.1).toList ∧
        Stands r m p.2 q.2) older' older := by
  have hall := h.savepoints
  rw [hS] at hall
  obtain ⟨⟨name, work⟩, older', ⟨hname, hstands⟩, holder, hd⟩ := List.forall₂_cons_right_iff.1 hall
  obtain rfl : name = (savepointName n).toList := hname
  exact ⟨work, older', hd, hstands, holder⟩

theorem does (h : ShowsTriggers rules m r c S) {text : String} {d : Database}
    (hdone : c.database.heard text = (none, d)) {S' : Scene} (hrules : d.rules = rules)
    (hphase : d.phase = S'.phase) (hstanding : S'.phase ≠ .failed → Stands r m d.work S'.standing)
    (hsavepoints : List.Forall₂ (fun p q => p.1 = (savepointName q.1).toList ∧ Stands r m p.2 q.2)
      d.savepoints S'.savepoints) : Does (ShowsTriggers rules m r) text c S' := by
  obtain ⟨c', hresult, hsends⟩ := Direct.sends_batch_of_done h.isOpen hdone
  obtain rfl := hsends.database
  exact ⟨c', hresult, hsends.isOpen, hrules, hphase, hstanding, hsavepoints⟩

/-- A database that refuses no statement which controls the transaction transacts. -/
theorem transacts (hspares : ¬ rules.Meddling) : Transacts (ShowsTriggers rules m r) where
  withJournal h _ := ⟨h.isOpen, h.rules, h.phase, h.standing, h.savepoints⟩
  begins h hphase := by
    have hheard := Database.heard_begin_of_spared (h.rules ▸ hspares) (h.phase.trans hphase)
    exact h.does hheard h.rules rfl (fun _ => h.standing (by rw [hphase]; nofun)) h.savepoints
  commits h hphase := by
    have hheard := Database.heard_commit_of_spared (h.rules ▸ hspares) (h.phase.trans hphase)
    exact h.does hheard h.rules rfl (fun _ => h.standing (by rw [hphase]; nofun)) .nil
  saves h hphase n := by
    rcases Database.heard_savepoint (h.phase.trans hphase) n with hheard | hspoils
    · have hstands := h.standing (by rw [hphase]; nofun)
      exact h.does hheard h.rules h.phase (fun _ => hstands) (.cons ⟨rfl, hstands⟩ h.savepoints)
    · exact absurd (h.rules ▸ hspoils.meddling) hspares
  releases h hphase hS := by
    obtain ⟨work, older', hsaved, -, holder⟩ := h.exists_savepoint hS
    rcases Database.heard_release (h.phase.trans hphase) hsaved with hheard | hspoils
    · exact h.does hheard h.rules h.phase (fun _ => h.standing (by rw [hphase]; nofun)) holder
    · exact absurd (h.rules ▸ hspoils.meddling) hspares
  leadsBack h hphase hS := by
    obtain ⟨work, older', hsaved, hstands, -⟩ := h.exists_savepoint hS
    rcases Database.heard_rollbackTo (by rw [h.phase]; exact hphase) hsaved with hheard | hspoils
    · exact h.does hheard h.rules rfl (fun _ => hstands) h.savepoints
    · exact absurd (h.rules ▸ hspoils.meddling) hspares

end ShowsTriggers

/-! ## Rules that guard a column -/

/-- Under these rules, an alteration is refused exactly while the trigger of an entry that guards the column
is there, and then such a trigger is blamed. -/
structure Rules.Guard (rules : Rules) (m : Catalog) (r : Registry) (s : Settings) (sql : String)
    (guards : Entry → Prop) : Prop where
  spares : ¬ rules.Meddling
  contained : ∀ x ∈ r.entries, x.Contained s ∧ '"' ∉ x.table.toList
  registered : ∀ {x}, guards x → x ∈ r.entries
  written : ∀ {x}, guards x → ∃ text, x.trigger.installSql x.entity s = .ok text
  ordinary : Ordinary sql
  /-- The alteration is not about triggers. -/
  foreign : ∀ t ∈ Sql.statements sql.toList, TriggerChange.of? t = none
  drops : ∀ {x}, guards x → ∀ t ∈ Sql.statements (dropTriggerSql x.pgid x.table).toList,
    ∀ n work, rules.refusal? n work t = none
  installs : ∀ {x text}, guards x → x.trigger.installSql x.entity s = .ok text →
    ∀ t ∈ Sql.statements text.toList, ∀ n work, rules.refusal? n work t = none
  refuses : ∀ n work, (∃ x, guards x ∧ (m.after work).lookup x.key ≠ none) →
    ∃ x refusal, guards x ∧ (m.after work).lookup x.key ≠ none ∧ refusal.Blames x ∧
      rules.verdict n work (Sql.statements sql.toList) = some refusal
  alters : ∀ n work, (¬ ∃ x, guards x ∧ (m.after work).lookup x.key ≠ none) →
    rules.verdict n work (Sql.statements sql.toList) = none

namespace Stands

variable {r : Registry} {m : Catalog} {work : Work} {ids : List String}

theorem mem_iff (h : Stands r m work ids) (hdistinct : (r.entries.map (·.pgid)).Nodup) {x : Entry}
    (hx : x ∈ r.entries) : x.pgid ∈ ids ↔ (m.after work).lookup x.key ≠ none := by
  rw [h x.pgid]
  constructor
  · rintro ⟨y, hy, heq, hthere⟩
    rwa [List.inj_on_of_nodup_map hdistinct hy hx heq] at hthere
  · exact fun hthere => ⟨x, hx, rfl, hthere⟩

theorem blocked_iff {guards : Entry → Prop} (h : Stands r m work ids)
    (hdistinct : (r.entries.map (·.pgid)).Nodup) (hguards : ∀ {x}, guards x → x ∈ r.entries) :
    Blocked guards ids ↔ ∃ x, guards x ∧ (m.after work).lookup x.key ≠ none :=
  exists_congr fun _ => and_congr_right fun hx => h.mem_iff hdistinct (hguards hx)

theorem of_foreign (h : Stands r m work ids) {ss : Work}
    (hforeign : ∀ t ∈ ss, TriggerChange.of? t = none) : Stands r m (work ++ ss) ids := by
  have hsame : (m.after work).after ss = m.after work := by
    generalize m.after work = m'
    induction ss with
    | nil => rfl
    | cons t rest ih =>
      rw [Catalog.after_cons, m'.next_of_none (hforeign t List.mem_cons_self)]
      exact ih fun u hu => hforeign u (List.mem_cons_of_mem _ hu)
  intro id
  rw [Catalog.after_append, hsame]
  exact h id

theorem lacking (h : Stands r m work ids) (hdistinct : (r.entries.map (·.pgid)).Nodup) {x : Entry}
    (hx : x ∈ r.entries) (htable : '"' ∉ x.table.toList) :
    Stands r m (work ++ Sql.statements (dropTriggerSql x.pgid x.table).toList)
      (ids.filter (· ≠ x.pgid)) := by
  intro id
  rw [List.mem_filter, h id, Catalog.after_append]
  constructor
  · rintro ⟨⟨y, hy, rfl, hthere⟩, hne⟩
    refine ⟨y, hy, rfl, ?_⟩
    rwa [Catalog.lookup_after_dropping _ _ x.pgid_ne_empty htable, if_neg]
    exact fun hkey => of_decide_eq_true hne (congrArg Prod.snd hkey)
  · rintro ⟨y, hy, rfl, hthere⟩
    rw [Catalog.lookup_after_dropping _ _ x.pgid_ne_empty htable] at hthere
    split at hthere
    next => exact absurd rfl hthere
    next hne =>
      refine ⟨⟨y, hy, rfl, hthere⟩, decide_eq_true fun heq => hne ?_⟩
      rw [List.inj_on_of_nodup_map hdistinct hy hx heq]
      rfl

theorem having (h : Stands r m work ids) {x : Entry} {s : Settings} (hx : x ∈ r.entries) (hcontained : x.Contained s) {text : String}
    (htext : x.trigger.installSql x.entity s = .ok text) :
    Stands r m (work ++ Sql.statements text.toList) (x.pgid :: ids) := by
  obtain ⟨hash, -, hlookup⟩ := hcontained.lookup_after htext
  intro id
  rw [List.mem_cons, h id, Catalog.after_append]
  constructor
  · rintro (rfl | ⟨y, hy, rfl, hthere⟩)
    · refine ⟨x, hx, rfl, ?_⟩
      rw [hlookup, if_pos rfl]
      nofun
    · refine ⟨y, hy, rfl, ?_⟩
      rw [hlookup]
      split
      next => nofun
      next => exact hthere
  · rintro ⟨y, hy, rfl, hthere⟩
    by_cases heq : y.pgid = x.pgid
    · exact .inl heq
    · rw [hlookup, if_neg fun hkey => heq (congrArg Prod.snd hkey)] at hthere
      exact .inr ⟨y, hy, rfl, hthere⟩

end Stands

/-- A text that is not refused adds its statements to the work. -/
theorem ShowsTriggers.does_text {rules : Rules} {m : Catalog} {r : Registry} {c : Direct Database}
    {S : Scene} (h : ShowsTriggers rules m r c S) (hphase : S.phase = .inTransaction) {text : String}
    (htext : Ordinary text)
    (hverdict : rules.verdict c.database.clock c.database.work (Sql.statements text.toList) = none)
    {ids : List String} (hids : Stands r m (c.database.work ++ Sql.statements text.toList) ids) :
    Does (ShowsTriggers rules m r) text c { S with standing := ids } := by
  rcases Database.heard_of_ordinary htext (h.phase.trans hphase) with
    ⟨-, n, hheard⟩ | ⟨refusal, hrefused, -⟩
  · exact h.does hheard h.rules h.phase (fun _ => hids) h.savepoints
  · rw [h.rules, hverdict] at hrefused
    cases hrefused

/-- A database with such rules guards the column. -/
theorem Rules.Guard.guarding {rules : Rules} {m : Catalog} {r : Registry} {s : Settings} {sql : String}
    {guards : Entry → Prop} (h : rules.Guard m r s sql guards)
    (hdistinct : (r.entries.map (·.pgid)).Nodup) :
    Guarding (ShowsTriggers rules m r) guards r s sql where
  toTransacts := ShowsTriggers.transacts h.spares
  registered := h.registered
  written := h.written
  refuses := by
    intro c S hshows hphase hblocked
    have hstands := hshows.standing (by rw [hphase]; nofun)
    obtain ⟨x, refusal, hx, hthere, hblames, hverdict⟩ := h.refuses c.database.clock _
      ((hstands.blocked_iff hdistinct h.registered).1 hblocked)
    refine ⟨x, refusal, ?_⟩
    rcases Database.heard_of_ordinary h.ordinary (hshows.phase.trans hphase) with
      ⟨hdone, -⟩ | ⟨refusal', hrefused, n, hheard⟩
    · rw [hshows.rules, hverdict] at hdone
      cases hdone
    · rw [hshows.rules, hverdict] at hrefused
      obtain rfl := Option.some.inj hrefused
      obtain ⟨c', hresult, hsends⟩ := Direct.sends_batch_of_refused hshows.isOpen hheard
      rw [Database.aborted_of_open (by rw [hshows.phase, hphase]; nofun)] at hsends
      have hdatabase := hsends.database
      refine ⟨c', hx, (hstands.mem_iff hdistinct (h.registered hx)).2 hthere, hblames, hresult,
        hsends.isOpen, ?_, ?_, nofun, ?_⟩
      · rw [hdatabase]
        exact hshows.rules
      · rw [hdatabase]
      · rw [hdatabase]
        exact hshows.savepoints
  alters := by
    intro c S hshows hphase hfree
    have hstands := hshows.standing (by rw [hphase]; nofun)
    rw [hstands.blocked_iff hdistinct h.registered] at hfree
    exact hshows.does_text hphase h.ordinary (h.alters _ _ hfree) (hstands.of_foreign h.foreign)
  drops := by
    intro c S x hshows hphase hx
    have htable := (h.contained x (h.registered hx)).2
    have htext : Ordinary (dropTriggerSql x.pgid x.table) :=
      (Registry.ordinary_of_contained h.ordinary h.contained).dropping x (h.registered hx)
    exact hshows.does_text hphase htext (Rules.verdict_of_spared (h.drops hx) _ _)
      ((hshows.standing (by rw [hphase]; nofun)).lacking hdistinct (h.registered hx) htable)
  installs := by
    intro c S x text hshows hphase hx htext
    have hcontained := (h.contained x (h.registered hx)).1
    exact hshows.does_text hphase (hcontained.control htext)
      (Rules.verdict_of_spared (h.installs hx htext) _ _)
      ((hshows.standing (by rw [hphase]; nofun)).having (h.registered hx) hcontained htext)

/-! ## Every alteration -/

/-- Every alteration ends and takes its course, whatever the server says. Where the triggers of some entries
guard the column, they are dropped and installed again, these and no others, and the alteration succeeds. -/
theorem alterColumn_gets_through (r : Registry) (s : Settings) (sql : String)
    (hdistinct : (r.entries.map (·.pgid)).Nodup) {κ : Type} [Channel κ] (k : κ) :
    ∃ out k' log, result (alterColumn r s sql) k = (out, k') ∧
      result (alterColumn r s sql) (⟨k, []⟩ : Watched κ) = (out, ⟨k', log⟩) ∧
      Altering r s sql (inTransaction k) log out ∧
      ∀ (shows : κ → Scene → Prop) (guards : Entry → Prop) (S : Scene),
        Guarding shows guards r s sql → shows k S →
        S.phase = (if inTransaction k then .inTransaction else .idle) →
          ∃ S' gone, out = .ok gone ∧ shows k' S' ∧ S'.phase = S.phase ∧
            (∀ id, id ∈ gone ↔ ∃ x, guards x ∧ x.pgid = id ∧ id ∈ S.standing) ∧
              ∀ id, id ∈ S'.standing ↔ id ∈ S.standing := by
  obtain ⟨out, k', log, hresult, hwatched, haltering⟩ := alterColumn_course r s sql k
  refine ⟨out, k', log, hresult, hwatched, haltering, fun shows guards S hguarding hk hphase => ?_⟩
  have halters := alters r s sql k
  rw [hresult] at halters
  exact halters.unblocks hguarding hk hphase hdistinct

/-! ## A trigger in the way -/

/-- How the trigger on the title is blamed. -/
def titleBlamed : Refusal where
  code := "0A000"
  message := "cannot alter type of a column used in a trigger definition"
  detail := some (dependency false "pgtrigger_title_frozen_ddd05" "book" "\"title\"")

/-- The trigger on the title is in the way of the alteration as long as it is there. -/
def Rules.titleGuarded : Rules where
  refusal? _ work s :=
    if s = titleToInteger.toList ∧ ((∅ : Catalog).after work).lookup Entry.titleFrozen.key ≠ none then
      some titleBlamed
    else none

theorem refusal?_titleGuarded {t : List Char} (h : t ≠ titleToInteger.toList) (n : Nat) (work : Work) :
    Rules.titleGuarded.refusal? n work t = none := if_neg fun ⟨ht, _⟩ => h ht

theorem verdict_titleGuarded (n : Nat) (work : Work) :
    Rules.titleGuarded.verdict n work (Sql.statements titleToInteger.toList) =
      if ((∅ : Catalog).after work).lookup Entry.titleFrozen.key ≠ none then some titleBlamed else none := by
  rw [show Sql.statements titleToInteger.toList = [titleToInteger.toList] by decide +kernel]
  rw [Rules.verdict_singleton]
  exact if_congr (and_iff_right rfl) rfl rfl

/-- The script of a contained trigger does not alter the title. -/
theorem ne_titleToInteger {x : Entry} {s : Settings} (hx : x.Contained s) {text : String}
    (htext : x.trigger.installSql x.entity s = .ok text) {t : List Char}
    (ht : t ∈ Sql.statements text.toList) : t ≠ titleToInteger.toList := by
  obtain ⟨p, hparams, rfl⟩ := Trigger.exists_installParams htext
  obtain ⟨r₁, r₂, r₃, -, hstatements⟩ :=
    InstallParams.statements_renderV1 (hx.params p hparams) p.not_mem_ownHash
  rw [hstatements] at ht
  have hhead : t.head? = some 'C' ∨ t.head? = some 'D' := by
    simp only [List.mem_cons, List.not_mem_nil, or_false] at ht
    rcases ht with rfl | rfl | rfl | rfl | rfl
    · exact .inl rfl
    · exact .inl rfl
    · exact .inr rfl
    · exact .inl rfl
    · exact .inl rfl
  rintro rfl
  revert hhead
  decide

theorem guard_titleGuarded :
    Rules.titleGuarded.Guard ∅ .titleFrozen {} titleToInteger (· = .titleFrozen) where
  spares := by
    rintro ⟨n, work, s, hcontrol, hrefused⟩
    refine hrefused (refusal?_titleGuarded ?_ n work)
    rintro rfl
    exact hcontrol (by decide)
  contained x hx := by
    rw [show Registry.titleFrozen.entries = [.titleFrozen] from rfl] at hx
    obtain rfl := List.mem_singleton.1 hx
    exact ⟨contained_titleFrozen, by decide⟩
  registered := by
    rintro x rfl
    exact List.mem_singleton.2 rfl
  written := by
    rintro x rfl
    have hwritten : (Trigger.titleFrozen.installParams .book {}).toOption.isSome := by decide +kernel
    cases hparams : Trigger.titleFrozen.installParams .book {} with
    | error e =>
      rw [hparams] at hwritten
      cases hwritten
    | ok p => exact ⟨_, (Trigger.compiled_of_installParams hparams).1⟩
  ordinary := by decide
  foreign := by decide +kernel
  drops := by
    rintro x rfl t ht
    refine refusal?_titleGuarded ?_
    rintro rfl
    revert ht
    decide +kernel
  installs := by
    rintro x text rfl htext t ht
    exact refusal?_titleGuarded (ne_titleToInteger contained_titleFrozen htext ht)
  refuses := by
    rintro n work ⟨x, rfl, hthere⟩
    refine ⟨_, titleBlamed, rfl, hthere, ?_, ?_⟩
    · exact ⟨rfl, by decide +kernel, false, "book", "\"title\"", by decide, by decide, rfl⟩
    · rw [verdict_titleGuarded, if_pos hthere]
  alters := by
    intro n work hfree
    rw [verdict_titleGuarded, if_neg fun hthere => hfree ⟨_, rfl, hthere⟩]

/-- A connection to a database in which the trigger is there. -/
def guardedBookshop : Direct Database where
  wire := { server := { rules := .titleGuarded, work := titleFrozenInstalled } }

theorem shows_guardedBookshop : ShowsTriggers .titleGuarded ∅ .titleFrozen guardedBookshop
    ⟨.idle, ["pgtrigger_title_frozen_ddd05"], []⟩ where
  isOpen := rfl
  rules := rfl
  phase := rfl
  standing _ id := by
    have hthere : ((∅ : Catalog).after titleFrozenInstalled).lookup Entry.titleFrozen.key ≠ none := by
      decide +kernel
    rw [List.mem_singleton]
    refine ⟨fun h => ⟨.titleFrozen, List.mem_singleton.2 rfl, h.symm, hthere⟩, ?_⟩
    rintro ⟨x, hx, rfl, -⟩
    obtain rfl := List.mem_singleton.1 hx
    rfl
  savepoints := .nil

/-- The alteration gets through, and the trigger, which gave way, is there as before. -/
theorem alterColumn_gets_through_guardedBookshop :
    ∃ gone k' S', result (alterColumn .titleFrozen {} titleToInteger) guardedBookshop = (.ok gone, k') ∧
      ShowsTriggers .titleGuarded ∅ .titleFrozen k' S' ∧ S'.phase = .idle ∧
      (∀ id, id ∈ gone ↔ id = "pgtrigger_title_frozen_ddd05") ∧
      ∀ id, id ∈ S'.standing ↔ id = "pgtrigger_title_frozen_ddd05" := by
  have hdistinct : (Registry.titleFrozen.entries.map (·.pgid)).Nodup := List.nodup_singleton _
  obtain ⟨out, k', log, hresult, -, -, hthrough⟩ :=
    alterColumn_gets_through .titleFrozen {} titleToInteger hdistinct guardedBookshop
  obtain ⟨S', gone, rfl, hshows, hphase, hgone, hstanding⟩ :=
    hthrough _ _ _ (guard_titleGuarded.guarding hdistinct) shows_guardedBookshop rfl
  refine ⟨gone, k', S', hresult, hshows, hphase, fun id => ?_, fun id => ?_⟩
  · rw [hgone]
    constructor
    · rintro ⟨x, rfl, rfl, -⟩
      rfl
    · rintro rfl
      exact ⟨.titleFrozen, rfl, rfl, List.mem_singleton.2 rfl⟩
  · rw [hstanding, List.mem_singleton]

end DeclaredTriggers
