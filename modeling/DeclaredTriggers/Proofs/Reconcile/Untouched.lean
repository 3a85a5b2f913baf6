import DeclaredTriggers.Proofs.Database.Isolated
import DeclaredTriggers.Proofs.Install.Script
import DeclaredTriggers.Proofs.Reconcile.Altering

/-!
# Alterations that fail

An alteration that fails is meant to leave everything as it was. In a transaction of its own it does: that
ends in a rollback, whatever was done before. In the caller's, only the text that failed is undone, under
its own savepoint. The drops that went before it were released and stay in force, in a transaction that
the caller may go on with and commit.

What each part of an alteration leaves (`Direct.Leaves`) is followed through its rounds, and shows which
failures leave nothing behind:

> `alterColumn_untouched_iff`: in the caller's transaction, exactly those before the first drop.
-/

namespace DeclaredTriggers

open Act (result)
open Channel
open Sql (Control)

/-- The texts of an alteration control no transaction. -/
structure Registry.Ordinary (r : Registry) (s : Settings) (sql : String) : Prop where
  altering : DeclaredTriggers.Ordinary sql
  dropping : ∀ x ∈ r.entries, DeclaredTriggers.Ordinary (dropTriggerSql x.pgid x.table)
  installing : ∀ x ∈ r.entries, ∀ text, x.trigger.installSql x.entity s = .ok text →
    DeclaredTriggers.Ordinary text

/-- The scripts of contained entries control none. -/
theorem Registry.ordinary_of_contained {r : Registry} {s : Settings} {sql : String}
    (hsql : DeclaredTriggers.Ordinary sql)
    (hentries : ∀ x ∈ r.entries, x.Contained s ∧ '"' ∉ x.table.toList) : r.Ordinary s sql where
  altering := hsql
  dropping x hx := by
    unfold DeclaredTriggers.Ordinary
    rw [statements_dropTriggerSql _ (hentries x hx).2]
    intro t ht
    obtain rfl := List.mem_singleton.1 ht
    rfl
  installing x hx _ htext := (hentries x hx).1.control htext

/-- The statements that drop the triggers of some entries. -/
def dropsOf (xs : List Entry) : Work :=
  xs.flatMap fun x => Sql.statements (dropTriggerSql x.pgid x.table).toList

theorem dropsOf_cons (x : Entry) (xs : List Entry) :
    dropsOf (x :: xs) = Sql.statements (dropTriggerSql x.pgid x.table).toList ++ dropsOf xs := rfl

namespace Direct

/-- What some work inside a transaction leaves: the same connection, and either some more work is in force,
or the transaction has failed. -/
structure Leaves (c : Direct Database) (more? : Option Work) (c' : Direct Database) : Prop where
  isOpen : c'.wire.isOpen = true
  held : c'.held = c.held
  rules : c'.database.rules = c.database.rules
  outside : c'.database.outside = c.database.outside
  usable : ∀ more, more? = some more →
    c'.database.phase = .inTransaction ∧ c'.database.work = c.database.work ++ more
  failed : more? = none → c'.database.phase = .failed ∧ c.database.rules.Meddling

namespace Leaves

variable {c c' c'' : Direct Database} {more more' : Work} {more? : Option Work}

theorem phase (h : c.Leaves (some more) c') : c'.database.phase = .inTransaction := (h.usable _ rfl).1

theorem trans (h : c.Leaves (some more) c') (h' : c'.Leaves (some more') c'') :
    c.Leaves (some (more ++ more')) c'' where
  isOpen := h'.isOpen
  held := h'.held.trans h.held
  rules := h'.rules.trans h.rules
  outside := h'.outside.trans h.outside
  usable := by
    rintro all ⟨⟩
    rw [(h'.usable _ rfl).1, (h'.usable _ rfl).2, (h.usable _ rfl).2, List.append_assoc]
    exact ⟨rfl, rfl⟩
  failed := nofun

/-- What fails after some work has failed. -/
theorem trans_none (h : c.Leaves (some more) c') (h' : c'.Leaves none c'') : c.Leaves none c'' where
  isOpen := h'.isOpen
  held := h'.held.trans h.held
  rules := h'.rules.trans h.rules
  outside := h'.outside.trans h.outside
  usable := nofun
  failed _ := h.rules ▸ h'.failed rfl

/-- What comes after work that left nothing. -/
theorem nothing_trans (h : c.Leaves (some []) c') (h' : c'.Leaves more? c'') : c.Leaves more? c'' := by
  cases more? with
  | none => exact h.trans_none h'
  | some more => exact h.trans h'

/-- A transaction that has failed stays so. -/
theorem trans_failed (h : c.Leaves none c') (h' : c'.Leaves none c'') : c.Leaves none c'' where
  isOpen := h'.isOpen
  held := h'.held.trans h.held
  rules := h'.rules.trans h.rules
  outside := h'.outside.trans h.outside
  usable _ hsome := nomatch hsome
  failed _ := ⟨(h'.failed rfl).1, (h.failed rfl).2⟩

theorem of_sends {texts : List String} {d : Database} (h : c.Sends texts d c')
    (hrules : d.rules = c.database.rules) (houtside : d.outside = c.database.outside)
    (husable : ∀ more, more? = some more → d.phase = .inTransaction ∧ d.work = c.database.work ++ more)
    (hfailed : more? = none → d.phase = .failed ∧ c.database.rules.Meddling) :
    c.Leaves more? c' := by
  obtain rfl := h.database
  exact ⟨h.isOpen, h.held, hrules, houtside, husable, hfailed⟩

/-- A notice changes nothing. -/
theorem of_noted {n : Notice} (h : (noted n c).Leaves more? c') : c.Leaves more? c' :=
  ⟨h.isOpen, h.held, h.rules, h.outside, h.usable, h.failed⟩

theorem noted (h : c.Leaves more? c') (n : Notice) : c.Leaves more? (DeclaredTriggers.noted n c') :=
  ⟨h.isOpen, h.held, h.rules, h.outside, h.usable, h.failed⟩

end Leaves

end Direct

/-- A text under a savepoint is in force, or it leaves nothing behind but a transaction that may have
failed. -/
theorem Isolation.leaves {c c' : Direct Database} {text : String} {r : Except Error Unit}
    (h : Isolation c text r c') (hphase : c.database.phase = .inTransaction) :
    (r = .ok () ∧ c.Leaves (some (Sql.statements text.toList)) c') ∨
      ∃ e, r = .error e ∧ (c.Leaves (some []) c' ∨ c.Leaves none c') := by
  cases h with
  | kept n clock clock' hsends =>
    refine .inl ⟨rfl, .of_sends hsends rfl rfl ?_ nofun⟩
    rintro more ⟨⟩
    exact ⟨hphase, rfl⟩
  | undone clock clock' refusal hsends =>
    refine .inr ⟨_, rfl, .inl (.of_sends hsends rfl rfl ?_ nofun)⟩
    rintro more ⟨⟩
    exact ⟨rfl, (List.append_nil _).symm⟩
  | spoiled e hsends hmeddling hfailed houtside hrules =>
    exact .inr ⟨e, rfl, .inr (.of_sends hsends hrules houtside nofun fun _ => ⟨hfailed, hmeddling⟩)⟩

theorem withSavepoint_leaves {c c' : Direct Database} {text : String} {r : Except Error Unit}
    (h : result (withSavepoint text) c = (r, c')) (hopen : c.wire.isOpen = true)
    (hphase : c.database.phase = .inTransaction) (htext : DeclaredTriggers.Ordinary text) :
    (r = .ok () ∧ c.Leaves (some (Sql.statements text.toList)) c') ∨
      ∃ e, r = .error e ∧ (c.Leaves (some []) c' ∨ c.Leaves none c') := by
  obtain ⟨r₀, c₀, hresult, hisolation⟩ := withSavepoint_cases hopen hphase htext
  obtain ⟨rfl, rfl⟩ := Prod.mk.inj (hresult.symm.trans h)
  exact hisolation.leaves hphase

/-- Nothing can be done under a savepoint once the transaction has failed. -/
theorem Direct.Leaves.withSavepoint {c c' c'' : Direct Database} {text : String}
    {r : Except Error Unit} (hleaves : c.Leaves none c')
    (h : result (withSavepoint text) c' = (r, c'')) :
    (∃ e, r = .error e) ∧ c.Leaves none c'' := by
  obtain ⟨hfailed, hmeddling⟩ := hleaves.failed rfl
  obtain ⟨e, texts, d, c₀, hresult, hsends, hphase, houtside, hrules⟩ :=
    withSavepoint_of_failed hleaves.isOpen hfailed text
  obtain ⟨rfl, rfl⟩ := Prod.mk.inj (hresult.symm.trans h)
  exact ⟨⟨e, rfl⟩, hleaves.trans_failed (.of_sends hsends hrules houtside nofun fun _ =>
    ⟨hphase, hleaves.rules ▸ hmeddling⟩)⟩

/-! ## The rounds of an alteration -/

/-- What is kept of an alteration that clears its way: everything if it succeeds, and the drops that went
before if it does not. -/
theorem Clears.leaves {sql : String} {entries : List Entry} {c c' : Direct Database}
    {out : Except Error (List Entry)} (h : Clears sql entries c out c')
    (hopen : c.wire.isOpen = true) (hphase : c.database.phase = .inTransaction)
    (hsql : DeclaredTriggers.Ordinary sql)
    (hdrops : ∀ x ∈ entries, DeclaredTriggers.Ordinary (dropTriggerSql x.pgid x.table)) :
    (∀ xs, out = .ok xs → (∀ x ∈ xs, x ∈ entries) ∧
        c.Leaves (some (dropsOf xs ++ Sql.statements sql.toList)) c') ∧
      ∀ e, out = .error e → c.Leaves none c' ∨
        ∃ xs, (∀ x ∈ xs, x ∈ entries) ∧ c.Leaves (some (dropsOf xs)) c' := by
  induction h with
  | done hsent =>
    refine ⟨?_, nofun⟩
    rintro xs ⟨⟩
    rcases withSavepoint_leaves hsent hopen hphase hsql with ⟨-, hleaves⟩ | ⟨e, he, -⟩
    · exact ⟨by simp, hleaves⟩
    · cases he
  | hopeless hsent =>
    refine ⟨nofun, fun e' _ => ?_⟩
    rcases withSavepoint_leaves hsent hopen hphase hsql with ⟨hok, -⟩ | ⟨e, -, hleaves | hleaves⟩
    · cases hok
    · exact .inr ⟨[], by simp, hleaves⟩
    · exact .inl hleaves
  | stuck hsent hway hgave =>
    refine ⟨nofun, fun e' _ => ?_⟩
    rw [result_giveWay] at hgave
    rcases withSavepoint_leaves hsent hopen hphase hsql with ⟨hok, -⟩ | ⟨e, -, hleaves | hleaves⟩
    · cases hok
    · have hx := mem_of_inTheWay? hway
      rcases withSavepoint_leaves hgave hleaves.isOpen hleaves.phase (hdrops _ hx) with
        ⟨hok, -⟩ | ⟨e, -, hgiven | hgiven⟩
      · cases hok
      · exact .inr ⟨[], by simp, hleaves.nothing_trans hgiven.of_noted⟩
      · exact .inl (hleaves.nothing_trans hgiven.of_noted)
    · exact .inl ((hleaves.noted _).withSavepoint hgave).2
  | @cleared _ _ _ _ _ _ x out hsent hway hgave _ ih =>
    rw [result_giveWay] at hgave
    rcases withSavepoint_leaves hsent hopen hphase hsql with ⟨hok, -⟩ | ⟨e, -, hleaves | hleaves⟩
    · cases hok
    · have hx := mem_of_inTheWay? hway
      rcases withSavepoint_leaves hgave hleaves.isOpen hleaves.phase (hdrops _ hx) with
        ⟨-, hgiven⟩ | ⟨e, he, -⟩
      · have hdropped := hleaves.nothing_trans hgiven.of_noted
        obtain ⟨hdone, hfails⟩ := ih hdropped.isOpen hdropped.phase fun y hy =>
          hdrops y (mem_without.1 hy).1
        have hmem : ∀ {xs : List Entry}, (∀ y ∈ xs, y ∈ without x.pgid _) →
            ∀ y ∈ x :: xs, y ∈ _ := fun hxs y hy => (List.mem_cons.1 hy).elim (· ▸ hx)
              fun hy => (mem_without.1 (hxs y hy)).1
        cases out with
        | ok xs =>
          refine ⟨?_, nofun⟩
          rintro ys ⟨⟩
          obtain ⟨hxs, hrest⟩ := hdone xs rfl
          refine ⟨hmem hxs, ?_⟩
          rw [dropsOf_cons, List.append_assoc]
          exact hdropped.trans hrest
        | error e =>
          refine ⟨nofun, fun e' _ => ?_⟩
          rcases hfails e rfl with hrest | ⟨xs, hxs, hrest⟩
          · exact .inl (hdropped.trans_none hrest)
          · exact .inr ⟨x :: xs, hmem hxs, hdropped.trans hrest⟩
      · cases he
    · obtain ⟨⟨e, he⟩, -⟩ := (hleaves.noted _).withSavepoint hgave
      cases he

/-- Whatever is installed again, some work is in force or the transaction has failed; only a trigger can
fail to be. -/
theorem Reinstalls.leaves {s : Settings} {xs : List Entry} {c c' : Direct Database}
    {out : Except Error (List String)} (h : Reinstalls s xs c out c')
    (hopen : c.wire.isOpen = true) (hphase : c.database.phase = .inTransaction)
    (hinstalls : ∀ x ∈ xs, ∀ text, x.trigger.installSql x.entity s = .ok text →
      DeclaredTriggers.Ordinary text) :
    (∀ ids, out = .ok ids → ∃ more, c.Leaves (some more) c') ∧
      ∀ e, out = .error e → xs ≠ [] ∧ (c.Leaves none c' ∨ ∃ more, c.Leaves (some more) c') := by
  have hsame : ∀ {c : Direct Database}, c.wire.isOpen = true → c.database.phase = .inTransaction →
      c.Leaves (some []) c := by
    intro c hopen hphase
    refine ⟨hopen, rfl, rfl, rfl, ?_, nofun⟩
    rintro more ⟨⟩
    exact ⟨hphase, (List.append_nil _).symm⟩
  induction h with
  | done => exact ⟨fun _ _ => ⟨[], hsame hopen hphase⟩, nofun⟩
  | unwritten => exact ⟨nofun, fun _ _ => ⟨List.cons_ne_nil _ _, .inr ⟨[], hsame hopen hphase⟩⟩⟩
  | refused htext hsent =>
    refine ⟨nofun, fun e' _ => ⟨List.cons_ne_nil _ _, ?_⟩⟩
    rcases withSavepoint_leaves hsent hopen hphase (hinstalls _ List.mem_cons_self _ htext) with
      ⟨hok, -⟩ | ⟨e, -, hleaves | hleaves⟩
    · cases hok
    · exact .inr ⟨[], hleaves⟩
    · exact .inl hleaves
  | @installed x xs _ _ _ text out htext hsent _ ih =>
    rcases withSavepoint_leaves hsent hopen hphase (hinstalls _ List.mem_cons_self _ htext) with
      ⟨-, hleaves⟩ | ⟨e, he, -⟩
    · obtain ⟨hdone, hfails⟩ := ih hleaves.isOpen hleaves.phase fun y hy =>
        hinstalls y (List.mem_cons_of_mem _ hy)
      cases out with
      | ok ids =>
        obtain ⟨more, hrest⟩ := hdone ids rfl
        exact ⟨fun _ _ => ⟨_, hleaves.trans hrest⟩, nofun⟩
      | error e =>
        refine ⟨nofun, fun _ _ => ⟨List.cons_ne_nil _ _, ?_⟩⟩
        rcases (hfails e rfl).2 with hrest | ⟨more, hrest⟩
        · exact .inl (hleaves.trans_none hrest)
        · exact .inr ⟨_, hleaves.trans hrest⟩
    · cases he

/-- What is kept of an alteration inside a transaction. If it fails, that begins with the drops of some
triggers, and is nothing if there were none. -/
theorem Body.leaves {r : Registry} {s : Settings} {sql : String} {c c' : Direct Database}
    {out : Except Error (List String)} (h : Body r s sql c out c') (hopen : c.wire.isOpen = true)
    (hphase : c.database.phase = .inTransaction) (htexts : r.Ordinary s sql) :
    (∀ ids, out = .ok ids → ∃ more, c.Leaves (some more) c') ∧
      ∀ e, out = .error e → c.Leaves none c' ∨ ∃ xs more, (∀ x ∈ xs, x ∈ r.entries) ∧
        (xs = [] → more = []) ∧ c.Leaves (some (dropsOf xs ++ more)) c' := by
  cases h with
  | failed hclears =>
    refine ⟨nofun, fun e _ => ?_⟩
    rcases (hclears.leaves hopen hphase htexts.altering htexts.dropping).2 _ rfl with
      hnone | ⟨xs, hxs, hleaves⟩
    · exact .inl hnone
    · refine .inr ⟨xs, [], hxs, fun _ => rfl, ?_⟩
      rw [List.append_nil]
      exact hleaves
  | @cleared _ _ xs _ hclears hreinstalls =>
    obtain ⟨hxs, hcleared⟩ :=
      (hclears.leaves hopen hphase htexts.altering htexts.dropping).1 xs rfl
    obtain ⟨hdone, hfails⟩ := hreinstalls.leaves hcleared.isOpen hcleared.phase fun x hx =>
      htexts.installing x (hxs x hx)
    refine ⟨fun ids hids => ?_, fun e he => ?_⟩
    · obtain ⟨more, hrest⟩ := hdone ids hids
      exact ⟨_, hcleared.trans hrest⟩
    · obtain ⟨hne, hrest | ⟨more, hrest⟩⟩ := hfails e he
      · exact .inl (hcleared.trans_none hrest)
      · refine .inr ⟨xs, Sql.statements sql.toList ++ more, hxs, fun h => absurd h hne, ?_⟩
        have hall := hcleared.trans hrest
        rwa [List.append_assoc] at hall

/-! ## The transaction around them -/

theorem dropsOf_ne_nil (x : Entry) (xs : List Entry) : dropsOf (x :: xs) ≠ [] := by
  intro h
  rw [dropsOf_cons] at h
  have hlead : ∃ rest, (dropTriggerSql x.pgid x.table).toList = 'D' :: rest := by
    unfold dropTriggerSql
    simp only [String.toList_append]
    exact ⟨_, rfl⟩
  obtain ⟨rest, hrest⟩ := hlead
  rw [hrest] at h
  exact absurd (List.append_eq_nil_iff.1 h).1 (Sql.statements_ne_nil (by decide) (by decide) rest)

/-- Where a drop is kept, more work is in force than there was. -/
theorem append_dropsOf_ne (work more : Work) (x : Entry) (xs : List Entry) :
    work ++ (dropsOf (x :: xs) ++ more) ≠ work := by
  intro h
  exact dropsOf_ne_nil x xs (List.append_eq_nil_iff.1 (List.append_right_eq_self.1 h)).1

/-- A connection whose transaction an alteration has begun, and what it was before. -/
structure Direct.Begins (c c₁ : Direct Database) : Prop where
  isOpen : c₁.wire.isOpen = true
  phase : c₁.database.phase = .inTransaction
  outside : c₁.database.outside = c.database.work
  rules : c₁.database.rules = c.database.rules

/-- A beginning that is refused changes nothing. -/
theorem Direct.begin_cases {c c₁ : Direct Database} {came : Except Error Unit}
    (hopen : c.wire.isOpen = true) (hidle : c.database.phase = .idle)
    (h : result (batch "BEGIN") c = (came, c₁)) :
    (came = .ok () ∧ c.Begins c₁) ∨ (∃ e, came = .error e) ∧ c₁.database.phase = .idle ∧
      c₁.database.work = c.database.work := by
  obtain ⟨c₀, hresult, hsends⟩ := sends_batch hopen "BEGIN"
  obtain ⟨rfl, rfl⟩ := Prod.mk.inj (hresult.symm.trans h)
  have hdatabase := hsends.database
  rcases Database.heard_begin hidle with ⟨n, hheard⟩ | ⟨refusal, after, hheard, hphase, hwork⟩
  · rw [hheard] at hdatabase ⊢
    exact .inl ⟨rfl, hsends.isOpen, by rw [hdatabase], by rw [hdatabase], by rw [hdatabase]⟩
  · rw [hheard] at hdatabase ⊢
    rw [hdatabase]
    exact .inr ⟨⟨_, rfl⟩, hphase, hwork⟩

/-- The end of a transaction that undoes it, be it a rollback or a commit that is refused. -/
theorem Direct.Begins.undone {c c₁ c₂ c₃ : Direct Database} {more? : Option Work}
    {came : Except Error Unit} {text : String} (hbegins : c.Begins c₁) (hleaves : c₁.Leaves more? c₂)
    (hback : c.database.rules.LeadsBack)
    (hend : text = "ROLLBACK" ∨ text = "COMMIT" ∧ ∃ e, came = .error e)
    (h : result (batch text) c₂ = (came, c₃)) :
    c₃.database.phase = .idle ∧ c₃.database.work = c.database.work := by
  have hphase : c₂.database.phase ≠ .idle := by
    cases more? with
    | none => rw [(hleaves.failed rfl).1]; nofun
    | some more => rw [hleaves.phase]; nofun
  have houtside : c₂.database.outside = c.database.work := hleaves.outside.trans hbegins.outside
  have hrules : c₂.database.rules.LeadsBack := by rwa [hleaves.rules, hbegins.rules]
  obtain ⟨c₀, hresult, hsends⟩ := Direct.sends_batch hleaves.isOpen text
  obtain ⟨rfl, rfl⟩ := Prod.mk.inj (hresult.symm.trans h)
  rw [hsends.database]
  rcases hend with rfl | ⟨rfl, e, he⟩
  · rw [Database.heard_rollback hphase hrules]
    exact ⟨rfl, houtside⟩
  · generalize hheard : c₂.database.heard "COMMIT" = heard at he ⊢
    obtain ⟨_ | refusal, after⟩ := heard
    · cases he
    · obtain ⟨hidle, hwork⟩ := Database.heard_commit hphase hheard
      exact ⟨hidle, hwork.trans houtside⟩

/-- In a transaction of its own, an alteration that fails leaves everything as it was. -/
theorem Alters.untouched {r : Registry} {s : Settings} {sql : String} {c c' : Direct Database}
    {out : Except Error (List String)} (h : Alters r s sql c out c') {e : Error} (he : out = .error e)
    (hopen : c.wire.isOpen = true) (hheld : c.held = false) (hidle : c.database.phase = .idle)
    (htexts : r.Ordinary s sql) (hback : c.database.rules.LeadsBack) :
    c'.database.phase = .idle ∧ c'.database.work = c.database.work := by
  have hleaves : ∀ {c₁ c₂ : Direct Database} {came : Except Error (List String)}, c.Begins c₁ →
      Body r s sql c₁ came c₂ → ∃ more?, c₁.Leaves more? c₂ := by
    intro c₁ c₂ came hbegins hbody
    obtain ⟨hdone, hfails⟩ := hbody.leaves hbegins.isOpen hbegins.phase htexts
    cases came with
    | ok ids => exact (hdone ids rfl).imp' some fun _ h => h
    | error e =>
      rcases hfails e rfl with hnone | ⟨xs, more, -, -, hsome⟩
      · exact ⟨none, hnone⟩
      · exact ⟨_, hsome⟩
  cases h with
  | inside hin => cases hheld.symm.trans hin
  | unopened _ hbegin =>
    rcases Direct.begin_cases hopen hidle hbegin with ⟨hok, -⟩ | ⟨-, hsame⟩
    · cases hok
    · exact hsame
  | @finished _ _ _ ids came _ hbegin hbody hcommit =>
    rcases Direct.begin_cases hopen hidle hbegin with ⟨-, hbegins⟩ | ⟨⟨e', he'⟩, -⟩
    · obtain ⟨more?, hmore⟩ := hleaves hbegins hbody
      refine hbegins.undone hmore hback (.inr ⟨rfl, ?_⟩) hcommit
      cases came with
      | ok _ => cases he
      | error e' => exact ⟨e', rfl⟩
    · cases he'
  | undone _ hbegin hbody hrollback =>
    rcases Direct.begin_cases hopen hidle hbegin with ⟨-, hbegins⟩ | ⟨⟨e', he'⟩, -⟩
    · obtain ⟨more?, hmore⟩ := hleaves hbegins hbody
      exact hbegins.undone hmore hback (.inl rfl) hrollback
    · cases he'
  | lost _ hbegin hbody hrollback =>
    rcases Direct.begin_cases hopen hidle hbegin with ⟨-, hbegins⟩ | ⟨⟨e', he'⟩, -⟩
    · obtain ⟨more?, hmore⟩ := hleaves hbegins hbody
      have hundone := hbegins.undone hmore hback (.inl rfl) hrollback
      exact hundone
    · cases he'

/-- In the caller's transaction, what is kept of an alteration that fails begins with the drops of some
triggers, and is nothing if there were none. -/
theorem Alters.kept {r : Registry} {s : Settings} {sql : String} {c c' : Direct Database}
    {out : Except Error (List String)} (h : Alters r s sql c out c') {e : Error} (he : out = .error e)
    (hopen : c.wire.isOpen = true) (hheld : c.held = true) (hphase : c.database.phase = .inTransaction)
    (htexts : r.Ordinary s sql) :
    c.Leaves none c' ∨ ∃ xs more, (∀ x ∈ xs, x ∈ r.entries) ∧ (xs = [] → more = []) ∧
      c.Leaves (some (dropsOf xs ++ more)) c' := by
  cases h with
  | inside _ hbody => exact (hbody.leaves hopen hphase htexts).2 e he
  | unopened hin | finished hin | undone hin | lost hin => cases hheld.symm.trans hin

/-- An alteration that fails in a transaction of its own leaves everything as it was. In the caller's, it
leaves the transaction usable unless a statement around its texts was refused, and it leaves everything as
it was exactly if no drop of a registered trigger is kept. -/
theorem alterColumn_untouched_iff (r : Registry) (s : Settings) (sql : String)
    {c c' : Direct Database} {e : Error} (hfit : c.Fit) (htexts : r.Ordinary s sql)
    (hback : c.database.rules.LeadsBack) (h : result (alterColumn r s sql) c = (.error e, c')) :
    (c.held = false → c'.database.phase = .idle ∧ c'.database.work = c.database.work) ∧
    (c.held = true →
      (¬ c.database.rules.Meddling → c'.database.phase = .inTransaction) ∧
      c'.database.outside = c.database.outside ∧
      (c'.database.phase = .inTransaction ∧ c'.database.work = c.database.work ↔
        c'.database.phase = .inTransaction ∧ ¬ ∃ x ∈ r.entries, ∃ more,
          c'.database.work = c.database.work ++ (dropsOf [x] ++ more))) := by
  have halters := alters r s sql c
  rw [h] at halters
  have hphase := hfit.phase
  constructor
  · intro hheld
    rw [hheld] at hphase
    exact halters.untouched rfl hfit.isOpen hheld hphase htexts hback
  · intro hheld
    rw [hheld] at hphase
    rcases halters.kept rfl hfit.isOpen hheld hphase htexts with
      hnone | ⟨xs, more, hxs, hmore, hleaves⟩
    · have hfailed := (hnone.failed rfl).1
      refine ⟨fun hspares => absurd (hnone.failed rfl).2 hspares, hnone.outside, ?_⟩
      rw [hfailed]
      exact iff_of_false (fun h => nomatch h.1) (fun h => nomatch h.1)
    · obtain ⟨husable, hwork⟩ := hleaves.usable _ rfl
      refine ⟨fun _ => husable, hleaves.outside, and_congr_right fun _ => ?_⟩
      rw [hwork]
      cases xs with
      | nil =>
        rw [hmore rfl]
        refine iff_of_true (List.append_nil _) ?_
        rintro ⟨x, -, rest, hrest⟩
        exact append_dropsOf_ne _ _ _ _ (hrest.symm.trans (List.append_nil _))
      | cons x xs =>
        refine iff_of_false (append_dropsOf_ne _ _ _ _) (not_not_intro ⟨x, hxs x List.mem_cons_self,
          dropsOf xs ++ more, ?_⟩)
        rw [dropsOf_cons, dropsOf_cons, List.append_assoc, List.append_assoc]
        rfl

/-! ## A trigger left dropped -/

theorem Definition.nameFault?_title_frozen : Definition.nameFault? "title_frozen" = none := by decide

/-- A trigger that forbids updates of a book's title. -/
def Trigger.titleFrozen : Trigger where
  name := "title_frozen"
  level := .row
  moment := .before
  operation := .updateOf ["title"]
  condition := none
  tables := none
  declare := []
  timing := none
  kind := .protect
  named := Definition.nameFault?_title_frozen
  sound := by decide

def Entity.book : Entity := { label := "library.Book", table := "book", fields := [{ name := "title" }] }

theorem pgid_titleFrozen : Trigger.titleFrozen.pgid .book = .ok "pgtrigger_title_frozen_ddd05" :=
  eq_ok_of_toOption (by decide +kernel)

def Entry.titleFrozen : Entry := ⟨.book, .titleFrozen, _, pgid_titleFrozen⟩

/-- A registry of that trigger alone. -/
def Registry.titleFrozen : Registry := Registry.put {} .titleFrozen

theorem contained_titleFrozen : Entry.titleFrozen.Contained {} := by
  have hall : (Trigger.titleFrozen.installParams .book {}).toOption.all (decide ·.Contained) = true := by
    decide +kernel
  refine ⟨fun p hp => ?_, by decide⟩
  rw [show Trigger.titleFrozen.installParams .book {} = .ok p from hp] at hall
  exact of_decide_eq_true hall

/-- An alteration of the title that no text can be cast for. -/
def titleToInteger : String := "ALTER TABLE book ALTER COLUMN title TYPE INTEGER"

-- What has been done is a list of texts; whether a drop is among it is decided by comparing these.
local instance lawfulBEq_chars : LawfulBEq (List Char) := inferInstance

/-- The trigger is in the way of the alteration, and where it is dropped, there is no cast. -/
def Rules.uncast : Rules where
  refusal? _ work s :=
    if s ≠ titleToInteger.toList then none
    else if dropping "pgtrigger_title_frozen_ddd05" "book" ∈ work then
      some ⟨"42804", "column \"title\" cannot be cast automatically to type integer", none⟩
    else
      some ⟨"0A000", "cannot alter type of a column used in a trigger definition",
        some "trigger pgtrigger_title_frozen_ddd05 on table book depends on column \"title\""⟩

theorem leadsBack_uncast : Rules.uncast.LeadsBack := by
  intro n work s hs
  refine if_pos ?_
  rintro rfl
  revert hs
  decide

theorem ordinary_titleFrozen : Registry.titleFrozen.Ordinary {} titleToInteger := by
  have hentries : Registry.titleFrozen.entries = [.titleFrozen] := rfl
  refine Registry.ordinary_of_contained (by decide) fun x hx => ?_
  rw [hentries] at hx
  obtain rfl := List.mem_singleton.1 hx
  exact ⟨contained_titleFrozen, by decide⟩

/-- The statement that had installed it. -/
def titleFrozenInstalled : Work :=
  ["CREATE TRIGGER pgtrigger_title_frozen_ddd05 BEFORE UPDATE OF \"title\" ON \"book\" ".toList ++
    "FOR EACH ROW EXECUTE PROCEDURE pgtrigger_title_frozen_ddd05()".toList]

/-- A connection to a database in which the trigger is installed. -/
def bookshop (held : Bool) : Direct Database where
  wire := { server :=
    { rules := .uncast
      phase := if held then .inTransaction else .idle
      work := titleFrozenInstalled
      outside := titleFrozenInstalled } }
  held

/-- In the caller's transaction, the alteration fails after the trigger was dropped, and stays so. -/
theorem alterColumn_bookshop :
    (result (alterColumn .titleFrozen {} titleToInteger) (bookshop true)).1.toBool = false ∧
      (result (alterColumn .titleFrozen {} titleToInteger) (bookshop true)).2.database.phase =
        .inTransaction ∧
      (result (alterColumn .titleFrozen {} titleToInteger) (bookshop true)).2.database.work =
        titleFrozenInstalled ++ (dropsOf [.titleFrozen] ++ []) := by decide +kernel

theorem fit_bookshop (held : Bool) : (bookshop held).Fit := ⟨rfl, rfl⟩

/-- An alteration that fails does not always leave the triggers as they were. -/
theorem alterColumn_leaves_dropped :
    ¬ ∀ (r : Registry) (s : Settings) (sql : String) (c c' : Direct Database) (e : Error),
      c.Fit → r.Ordinary s sql → c.database.rules.LeadsBack →
        result (alterColumn r s sql) c = (.error e, c') →
          c'.database.phase = c.database.phase ∧ c'.database.work = c.database.work := by
  intro h
  obtain ⟨hfails, -, hwork⟩ := alterColumn_bookshop
  generalize hresult : result (alterColumn .titleFrozen {} titleToInteger) (bookshop true) = came
    at hfails hwork
  obtain ⟨e | ids, c'⟩ := came
  · have hsame := (h _ _ _ _ _ _ (fit_bookshop true) ordinary_titleFrozen leadsBack_uncast hresult).2
    exact append_dropsOf_ne _ _ _ _ (hwork.symm.trans hsame)
  · cases hfails

/-- There the transaction is usable, and what is kept begins with the trigger's drop. -/
theorem alterColumn_untouched_iff_bookshop :
    ∃ e c', result (alterColumn .titleFrozen {} titleToInteger) (bookshop true) = (.error e, c') ∧
      c'.database.phase = .inTransaction ∧ ∃ x ∈ Registry.titleFrozen.entries, ∃ more,
        c'.database.work = (bookshop true).database.work ++ (dropsOf [x] ++ more) := by
  obtain ⟨hfails, hphase, hwork⟩ := alterColumn_bookshop
  generalize hresult : result (alterColumn .titleFrozen {} titleToInteger) (bookshop true) = came
    at hfails hphase hwork
  obtain ⟨e | ids, c'⟩ := came
  · obtain ⟨-, -, hiff⟩ := (alterColumn_untouched_iff .titleFrozen {} titleToInteger (fit_bookshop true)
      ordinary_titleFrozen leadsBack_uncast hresult).2 rfl
    refine ⟨e, c', rfl, hphase, ?_⟩
    refine Classical.byContradiction fun hnone => ?_
    have hsame := (hiff.2 ⟨hphase, hnone⟩).2
    exact append_dropsOf_ne _ _ _ _ (hwork.symm.trans hsame)
  · cases hfails

end DeclaredTriggers
