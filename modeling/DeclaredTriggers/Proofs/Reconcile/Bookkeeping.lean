import DeclaredTriggers.Proofs.Connection.Watched
import DeclaredTriggers.Proofs.Reconcile.Altering
import Mathlib.Data.List.Nodup
import Mathlib.Data.List.Perm.Subperm

/-!
# What an alteration sends

Whatever the server says, an alteration ends, and what it has sent by then is one of a few shapes. It is
made of turns: the alteration, a drop or an installation, each under a savepoint of its own (`Turn`). Their
order is that of `clearing`: an attempt for each trigger that is dropped, then the attempt that succeeds,
then the installations in the order of the drops; an alteration that fails stops somewhere on that way.
A trigger that was dropped is not among those that can be dropped next, which bounds the attempts.

> `Course`: what the turns of an alteration are, whether it succeeds or fails.
>
> `alterColumn_course`: every alteration takes such a course, within the caller's transaction or between
> the beginning and the end of its own, and it does so watched or not.
-/

namespace DeclaredTriggers

open Act (result)
open Channel Watched

/-- Something that an alteration does under a savepoint. -/
inductive Errand where
  | attempt
  | giveWay (x : Entry)
  | reinstall (x : Entry)

namespace Errand

def isAttempt : Errand → Bool
  | .attempt => true
  | .giveWay _ | .reinstall _ => false

/-- The entry whose trigger is dropped. -/
def dropped? : Errand → Option Entry
  | .giveWay x => some x
  | .attempt | .reinstall _ => none

/-- The text that is sent. -/
def text (s : Settings) (sql : String) : Errand → Except Error String
  | .attempt => .ok sql
  | .giveWay x => x.trigger.uninstallSql x.entity
  | .reinstall x => x.trigger.installSql x.entity s

end Errand

/-- One errand of an alteration: what was sent for it, and what came of it. -/
structure Turn (s : Settings) (sql : String) where
  errand : Errand
  text : String
  sent : List Sent
  outcome : Except Error Unit
  text_eq : errand.text s sql = .ok text
  isolated : ∃ n, Isolated (savepointName n) text sent outcome

/-- What was sent in some turns. -/
def sentIn {s : Settings} {sql : String} (turns : List (Turn s sql)) : List Sent :=
  turns.flatMap (·.sent)

/-- The errands by which triggers get out of the way. -/
def clearing (xs : List Entry) : List Errand := xs.flatMap fun x => [.attempt, .giveWay x]

theorem clearing_cons (x : Entry) (xs : List Entry) :
    clearing (x :: xs) = .attempt :: .giveWay x :: clearing xs := rfl

variable {κ : Type} [Channel κ] {s : Settings} {sql : String}

theorem exists_turn (s : Settings) (sql : String) (errand : Errand) {text : String}
    (h : errand.text s sql = .ok text) (w : Watched κ) : ∃ (t : Turn s sql) (k : κ), t.errand = errand ∧
      result (withSavepoint text) w = (t.outcome, ⟨k, w.log ++ t.sent⟩) := by
  obtain ⟨n, sent, outcome, k, hresult, hisolated⟩ := withSavepoint_sent text w
  exact ⟨⟨errand, text, sent, outcome, h, n, hisolated⟩, k, rfl, hresult⟩

/-! ## Turns that clear the way -/

/-- The turns in which the triggers of `xs` were dropped, or should have been. -/
structure Clearing (entries xs : List Entry) (turns : List (Turn s sql))
    (out : Except Error (List Entry)) : Prop where
  registered : ∀ x ∈ xs, x ∈ entries
  distinct : (xs.map (·.pgid)).Nodup
  scheduled : turns.map (·.errand) <+: clearing xs ++ [.attempt]
  done : ∀ ys, out = .ok ys → ys = xs ∧ ∃ earlier last, turns = earlier ++ [last] ∧
    earlier.map (·.errand) = clearing xs ∧ last.errand = .attempt ∧ last.outcome = .ok () ∧
    ∀ t ∈ earlier, t.outcome = .ok () ↔ t.errand.isAttempt = false

namespace Clearing

theorem done_at_once {entries : List Entry} {t : Turn s sql} (ht : t.errand = .attempt)
    (hok : t.outcome = .ok ()) : Clearing entries [] [t] (.ok []) where
  registered _ h := absurd h List.not_mem_nil
  distinct := .nil
  scheduled := ⟨[], by simp [ht, clearing]⟩
  done := by
    rintro ys ⟨⟩
    exact ⟨rfl, [], t, rfl, rfl, ht, hok, fun _ h => absurd h List.not_mem_nil⟩

theorem failed {entries : List Entry} {t : Turn s sql} (ht : t.errand = .attempt) (e : Error) :
    Clearing entries [] [t] (.error e) where
  registered _ h := absurd h List.not_mem_nil
  distinct := .nil
  scheduled := ⟨[], by simp [ht, clearing]⟩
  done := by rintro ys ⟨⟩

theorem stuck {entries : List Entry} {x : Entry} {t u : Turn s sql} (ht : t.errand = .attempt)
    (hu : u.errand = .giveWay x) (hx : x ∈ entries) (e : Error) :
    Clearing entries [x] [t, u] (.error e) where
  registered y h := List.mem_singleton.1 h ▸ hx
  distinct := List.nodup_singleton _
  scheduled := ⟨[.attempt], by simp [ht, hu, clearing]⟩
  done := by rintro ys ⟨⟩

/-- A trigger that was dropped is not dropped again. -/
theorem cons {entries xs : List Entry} {x : Entry} {t u : Turn s sql} {turns : List (Turn s sql)}
    {out : Except Error (List Entry)} (ht : t.errand = .attempt) (htfails : t.outcome ≠ .ok ())
    (hu : u.errand = .giveWay x) (huok : u.outcome = .ok ()) (hx : x ∈ entries)
    (h : Clearing (without x.pgid entries) xs turns out) :
    Clearing entries (x :: xs) (t :: u :: turns) (out.map (x :: ·)) where
  registered y hy := by
    rcases List.mem_cons.1 hy with rfl | hy
    · exact hx
    · exact (mem_without.1 (h.registered y hy)).1
  distinct := by
    refine List.nodup_cons.2 ⟨fun hmem => ?_, h.distinct⟩
    obtain ⟨y, hy, heq⟩ := List.mem_map.1 hmem
    exact (mem_without.1 (h.registered y hy)).2 heq
  scheduled := by
    obtain ⟨rest, hrest⟩ := h.scheduled
    exact ⟨rest, by simp [ht, hu, clearing_cons, ← hrest]⟩
  done ys hys := by
    cases out with
    | error e => cases hys
    | ok zs =>
      cases hys
      obtain ⟨rfl, earlier, last, rfl, hearlier, hlast, hlastok, houtcomes⟩ := h.done zs rfl
      refine ⟨rfl, t :: u :: earlier, last, rfl, ?_, hlast, hlastok, ?_⟩
      · rw [List.map_cons, List.map_cons, hearlier, ht, hu]
        rfl
      · intro v hv
        rcases List.mem_cons.1 hv with rfl | hv
        · simp [ht, htfails, Errand.isAttempt]
        · rcases List.mem_cons.1 hv with rfl | hv
          · simp [hu, huok, Errand.isAttempt]
          · exact houtcomes v hv

end Clearing

/-- Whichever way the triggers in the way are dropped, this is done in turns. -/
theorem Clears.turns {entries : List Entry} {w w' : Watched κ} {out : Except Error (List Entry)}
    (h : Clears sql entries w out w') : ∃ (xs : List Entry) (turns : List (Turn s sql)),
      w'.log = w.log ++ sentIn turns ∧ Clearing entries xs turns out := by
  have hattempt : ∀ {w w' : Watched κ} {out : Except Error Unit},
      result (withSavepoint sql) w = (out, w') → ∃ t : Turn s sql,
        t.errand = .attempt ∧ t.outcome = out ∧ w'.log = w.log ++ t.sent := by
    intro w w' out hresult
    obtain ⟨t, k, ht, htresult⟩ := exists_turn s sql .attempt rfl w
    obtain ⟨rfl, rfl⟩ := Prod.mk.inj (htresult.symm.trans hresult)
    exact ⟨t, ht, rfl, rfl⟩
  have hgive : ∀ {x : Entry} {w w' : Watched κ} {out : Except Error Unit},
      result (giveWay x) w = (out, w') → ∃ t : Turn s sql,
        t.errand = .giveWay x ∧ t.outcome = out ∧ w'.log = w.log ++ t.sent := by
    intro x w w' out hresult
    rw [result_giveWay] at hresult
    obtain ⟨t, k, ht, htresult⟩ := exists_turn s sql (.giveWay x)
      x.uninstallSql_eq (noted (.giveWay x.pgid x.table) w)
    obtain ⟨rfl, rfl⟩ := Prod.mk.inj (htresult.symm.trans hresult)
    exact ⟨t, ht, rfl, rfl⟩
  induction h with
  | done hsent =>
    obtain ⟨t, ht, hok, hlog⟩ := hattempt hsent
    exact ⟨[], [t], by simp [hlog, sentIn], .done_at_once ht hok⟩
  | @hopeless _ _ _ e hsent =>
    obtain ⟨t, ht, -, hlog⟩ := hattempt hsent
    exact ⟨[], [t], by simp [hlog, sentIn], .failed ht e⟩
  | @stuck _ _ _ _ _ e' x hsent hway hgave =>
    obtain ⟨t, ht, -, hlog⟩ := hattempt hsent
    obtain ⟨u, hu, -, hlog'⟩ := hgive hgave
    exact ⟨[x], [t, u], by simp [hlog', hlog, sentIn], .stuck ht hu (mem_of_inTheWay? hway) e'⟩
  | @cleared _ _ _ _ _ e x _ hsent hway hgave _ ih =>
    obtain ⟨t, ht, hfails, hlog⟩ := hattempt hsent
    obtain ⟨u, hu, hok, hlog'⟩ := hgive hgave
    obtain ⟨xs, turns, hrest, hclearing⟩ := ih
    refine ⟨x :: xs, t :: u :: turns, by simp [hrest, hlog', hlog, sentIn], ?_⟩
    exact hclearing.cons ht (by simp [hfails]) hu hok (mem_of_inTheWay? hway)

/-! ## Turns that install again -/

/-- The turns in which the triggers of `xs` were installed again, or should have been. -/
structure Reinstalling (xs : List Entry) (turns : List (Turn s sql))
    (out : Except Error (List String)) : Prop where
  scheduled : turns.map (·.errand) <+: xs.map .reinstall
  done : ∀ ids, out = .ok ids → ids = xs.map (·.pgid) ∧
    turns.map (·.errand) = xs.map .reinstall ∧ ∀ t ∈ turns, t.outcome = .ok ()

/-- Whichever way triggers are installed again, this is done in turns. -/
theorem Reinstalls.turns {xs : List Entry} {w w' : Watched κ} {out : Except Error (List String)}
    (h : Reinstalls s xs w out w') (sql : String) : ∃ turns : List (Turn s sql),
      w'.log = w.log ++ sentIn turns ∧ Reinstalling xs turns out := by
  have hinstall : ∀ {x : Entry} {text : String} {w w' : Watched κ} {out : Except Error Unit},
      x.trigger.installSql x.entity s = .ok text → result (withSavepoint text) w = (out, w') →
        ∃ t : Turn s sql, t.errand = .reinstall x ∧ t.outcome = out ∧ w'.log = w.log ++ t.sent := by
    intro x text w w' out htext hresult
    obtain ⟨t, k, ht, htresult⟩ := exists_turn s sql (.reinstall x) htext w
    obtain ⟨rfl, rfl⟩ := Prod.mk.inj (htresult.symm.trans hresult)
    exact ⟨t, ht, rfl, rfl⟩
  induction h with
  | done =>
    refine ⟨[], by simp [sentIn], List.nil_prefix, ?_⟩
    rintro ids ⟨⟩
    exact ⟨rfl, rfl, fun _ ht => absurd ht List.not_mem_nil⟩
  | unwritten =>
    exact ⟨[], by simp [sentIn], List.nil_prefix, by rintro ids ⟨⟩⟩
  | refused htext hsent =>
    obtain ⟨t, ht, -, hlog⟩ := hinstall htext hsent
    exact ⟨[t], by simp [hlog, sentIn], ⟨_, by simp [ht]; rfl⟩, by rintro ids ⟨⟩⟩
  | @installed x xs _ _ _ text out htext hsent _ ih =>
    obtain ⟨t, ht, hok, hlog⟩ := hinstall htext hsent
    obtain ⟨turns, hrest, ⟨rest, hscheduled⟩, hdone⟩ := ih
    refine ⟨t :: turns, by simp [hrest, hlog, sentIn], ⟨rest, by simp [ht, ← hscheduled]⟩, ?_⟩
    intro ids hids
    cases out with
    | error e => cases hids
    | ok others =>
      cases hids
      obtain ⟨rfl, hturns, houtcomes⟩ := hdone others rfl
      refine ⟨rfl, by simp [ht, hturns], fun u hu => ?_⟩
      rcases List.mem_cons.1 hu with rfl | hu
      · exact hok
      · exact houtcomes u hu

/-! ## All turns of an alteration -/

/-- The errands of an alteration for which the triggers of `xs` have to be dropped. -/
def schedule (xs : List Entry) : List Errand := clearing xs ++ .attempt :: xs.map .reinstall

theorem countP_schedule (xs : List Entry) : (schedule xs).countP Errand.isAttempt = xs.length + 1 := by
  have hclearing : (clearing xs).countP Errand.isAttempt = xs.length := by
    induction xs with
    | nil => rfl
    | cons x xs ih =>
      rw [clearing_cons, List.countP_cons_of_pos rfl, List.countP_cons_of_neg (by nofun), ih]
      rfl
  have hreinstall : (xs.map Errand.reinstall).countP Errand.isAttempt = 0 := by
    simp [List.countP_map, Function.comp_def, Errand.isAttempt]
  unfold schedule
  rw [List.countP_append, List.countP_cons, hclearing, hreinstall]
  rfl

theorem filterMap_dropped?_schedule (xs : List Entry) :
    (schedule xs).filterMap Errand.dropped? = xs := by
  have hclearing : (clearing xs).filterMap Errand.dropped? = xs := by
    induction xs with
    | nil => rfl
    | cons x xs ih =>
      rw [clearing_cons, List.filterMap_cons_none (by rfl), List.filterMap_cons_some (by rfl), ih]
  have hreinstall : (xs.map Errand.reinstall).filterMap Errand.dropped? = [] := by
    simp [List.filterMap_map, Function.comp_def, Errand.dropped?]
  unfold schedule
  rw [List.filterMap_append, hclearing, List.filterMap_cons_none (by rfl), hreinstall,
    List.append_nil]

/-- Turns by which everything was done: the triggers with the identifiers were dropped, each after an
attempt that failed, then the alteration succeeded, and then they were installed in the order of the
drops. -/
def Completes (turns : List (Turn s sql)) (ids : List String) : Prop :=
  ∃ xs earlier last later, ids = xs.map Entry.pgid ∧ turns = earlier ++ last :: later ∧
    earlier.map (·.errand) = clearing xs ∧
    (∀ t ∈ earlier, t.outcome = .ok () ↔ t.errand.isAttempt = false) ∧
    last.errand = .attempt ∧ last.outcome = .ok () ∧
    later.map (·.errand) = xs.map .reinstall ∧ ∀ t ∈ later, t.outcome = .ok ()

/-- What the turns of an alteration are, and what comes of them. -/
structure Course (r : Registry) (turns : List (Turn s sql)) (out : Except Error (List String)) :
    Prop where
  /-- The alteration is attempted once, and once more for each trigger at most. -/
  attempts : turns.countP (·.errand.isAttempt) ≤ 1 + r.size
  /-- Only registered triggers are dropped. -/
  registered : ∀ x ∈ turns.filterMap (·.errand.dropped?), x ∈ r.entries
  /-- No trigger is dropped twice. -/
  drops : ((turns.filterMap (·.errand.dropped?)).map (·.pgid)).Nodup
  done : ∀ ids, out = .ok ids → ids.Nodup ∧ Completes turns ids

/-- Turns that keep to a schedule take a course. -/
theorem Course.of_schedule {r : Registry} {xs : List Entry} {turns : List (Turn s sql)}
    {out : Except Error (List String)} (hxs : ∀ x ∈ xs, x ∈ r.entries)
    (hdistinct : (xs.map (·.pgid)).Nodup) (hturns : turns.map (·.errand) <+: schedule xs)
    (hdone : ∀ ids, out = .ok ids → ids = xs.map (·.pgid) ∧ Completes turns ids) :
    Course r turns out := by
  have hdropped : (turns.filterMap (·.errand.dropped?)).Sublist xs := by
    have hsub := hturns.sublist.filterMap Errand.dropped?
    rwa [filterMap_dropped?_schedule, List.filterMap_map] at hsub
  refine ⟨?_, fun x hx => hxs x (hdropped.subset hx), hdistinct.sublist (hdropped.map _), ?_⟩
  · -- there is one attempt more than there are triggers to drop, and these are registered
    have hlength : xs.length ≤ r.size := by
      have hle := ((List.Nodup.of_map _ hdistinct).subperm hxs).length_le
      unfold Registry.entries Keyed.values at hle
      rwa [List.length_map] at hle
    have hle := hturns.sublist.countP_le (p := Errand.isAttempt)
    rw [countP_schedule, List.countP_map] at hle
    show turns.countP (Errand.isAttempt ∘ fun t => t.errand) ≤ _
    omega
  · intro ids hids
    obtain ⟨rfl, hcompletes⟩ := hdone ids hids
    exact ⟨hdistinct, hcompletes⟩

/-- The work inside the transaction takes a course. -/
theorem Body.course {r : Registry} {w w' : Watched κ} {out : Except Error (List String)}
    (h : Body r s sql w out w') : ∃ turns : List (Turn s sql),
      w'.log = w.log ++ sentIn turns ∧ Course r turns out := by
  cases h with
  | failed hclears =>
    obtain ⟨xs, turns, hlog, hclearing⟩ := hclears.turns (s := s)
    refine ⟨turns, hlog, .of_schedule hclearing.registered hclearing.distinct ?_ (by rintro ids ⟨⟩)⟩
    refine hclearing.scheduled.trans ⟨xs.map .reinstall, ?_⟩
    unfold schedule
    rw [List.append_assoc]
    rfl
  | cleared hclears hreinstalls =>
    obtain ⟨xs, turns, hlog, hclearing⟩ := hclears.turns (s := s)
    obtain ⟨rfl, earlier, last, rfl, hearlier, hlast, hok, houtcomes⟩ := hclearing.done _ rfl
    obtain ⟨later, hlog', hscheduled, hdone⟩ := hreinstalls.turns sql
    refine ⟨earlier ++ last :: later, by simp [hlog', hlog, sentIn],
      .of_schedule hclearing.registered hclearing.distinct ?_ fun ids hids => ?_⟩
    · rw [List.map_append, List.map_cons, hearlier, hlast]
      exact List.prefix_append_right_inj _ |>.2 (List.prefix_cons_inj _ |>.2 hscheduled)
    · obtain ⟨rfl, hlater, hlaterok⟩ := hdone ids hids
      exact ⟨rfl, _, earlier, last, later, rfl, rfl, hearlier, houtcomes, hlast, hok, hlater, hlaterok⟩

/-! ## The transaction around them -/

/-- What is sent by an alteration that opens a transaction of its own: the turns `inner`, of which `came`
came, stand between the beginning of the transaction and its end. -/
inductive Enclosed (inner : List Sent) (came : Except Error (List String)) :
    List Sent → Except Error (List String) → Prop where
  | committed {ids : List String} : came = .ok ids →
      Enclosed inner came (⟨"BEGIN", .ok ()⟩ :: inner ++ [⟨"COMMIT", .ok ()⟩]) (.ok ids)
  | uncommitted {ids : List String} (e : Error) : came = .ok ids →
      Enclosed inner came (⟨"BEGIN", .ok ()⟩ :: inner ++ [⟨"COMMIT", .error e⟩]) (.error e)
  | rolledBack {e : Error} (r : Except Error Unit) : came = .error e →
      Enclosed inner came (⟨"BEGIN", .ok ()⟩ :: inner ++ [⟨"ROLLBACK", r⟩]) (.error e)

/-- What an alteration sends, and what comes of it: nothing but its turns if a transaction is open; if
none is, its turns within a transaction, or a beginning that is refused. -/
inductive Altering (r : Registry) (s : Settings) (sql : String) :
    Bool → List Sent → Except Error (List String) → Prop where
  | inside {turns : List (Turn s sql)} {out : Except Error (List String)} : Course r turns out →
      Altering r s sql true (sentIn turns) out
  | enclosed {turns : List (Turn s sql)} {came out : Except Error (List String)} {log : List Sent} :
      Course r turns came → Enclosed (sentIn turns) came log out → Altering r s sql false log out
  | unopened (e : Error) : Altering r s sql false [⟨"BEGIN", .error e⟩] (.error e)

/-- Whichever way a column is altered, what is sent is what an alteration sends. -/
theorem Alters.altering {r : Registry} {w w' : Watched κ} {out : Except Error (List String)}
    (h : Alters r s sql w out w') :
    ∃ log, w'.log = w.log ++ log ∧ Altering r s sql (inTransaction w.inner) log out := by
  have hbatch : ∀ {text : String} {w w' : Watched κ} {out : Except Error Unit},
      result (batch text) w = (out, w') → w'.log = w.log ++ [⟨text, out⟩] := by
    intro text w w' out hresult
    obtain ⟨rfl, rfl⟩ := Prod.mk.inj ((result_batch text w).symm.trans hresult)
    rfl
  cases h with
  | inside hin hbody =>
    obtain ⟨turns, hlog, hcourse⟩ := hbody.course
    rw [show inTransaction w.inner = true from hin]
    exact ⟨_, hlog, .inside hcourse⟩
  | unopened hin hbegin =>
    rw [show inTransaction w.inner = false from hin]
    exact ⟨_, hbatch hbegin, .unopened _⟩
  | @finished w₁ w₂ _ ids came hin hbegin hbody hcommit =>
    obtain ⟨turns, hlog, hcourse⟩ := hbody.course
    rw [show inTransaction w.inner = false from hin]
    refine ⟨⟨"BEGIN", .ok ()⟩ :: sentIn turns ++ [⟨"COMMIT", came⟩],
      by simp [hbatch hcommit, hlog, hbatch hbegin], .enclosed hcourse ?_⟩
    cases came with
    | error e => exact .uncommitted e rfl
    | ok _ => exact .committed rfl
  | undone hin hbegin hbody hback =>
    obtain ⟨turns, hlog, hcourse⟩ := hbody.course
    rw [show inTransaction w.inner = false from hin]
    exact ⟨⟨"BEGIN", .ok ()⟩ :: sentIn turns ++ [⟨"ROLLBACK", .ok ()⟩],
      by simp [hbatch hback, hlog, hbatch hbegin], .enclosed hcourse (.rolledBack _ rfl)⟩
  | @lost w₁ w₂ w₃ e again hin hbegin hbody hback =>
    obtain ⟨turns, hlog, hcourse⟩ := hbody.course
    rw [show inTransaction w.inner = false from hin]
    refine ⟨⟨"BEGIN", .ok ()⟩ :: sentIn turns ++ [⟨"ROLLBACK", .error again⟩], ?_,
      .enclosed hcourse (.rolledBack _ rfl)⟩
    show w₃.log = _
    simp [hbatch hback, hlog, hbatch hbegin]

/-! ## Alterations that nobody watches -/

theorem mirrors_giveWay (x : Entry) : Mirrors (κ := κ) (giveWay x) (giveWay x) :=
  mirrors_bind (mirrors_notify _) fun _ => mirrors_bind (mirrors_lift _) fun text =>
    mirrors_withSavepoint text

theorem mirrors_alterDropping (sql : String) (entries : List Entry) :
    Mirrors (κ := κ) (alterDropping sql entries) (alterDropping sql entries) := by
  generalize hn : entries.length = n
  induction n using Nat.strongRecOn generalizing entries with
  | ind n ih =>
    rw [alterDropping_eq, alterDropping_eq]
    refine mirrors_bind (mirrors_attempt (mirrors_withSavepoint sql)) fun came => ?_
    rcases came with e | ⟨⟩
    · dsimp only
      cases hway : inTheWay? entries e with
      | none => exact mirrors_throw e
      | some x =>
        exact mirrors_bind (mirrors_giveWay x) fun _ =>
          mirrors_bind (ih _ (hn ▸ length_without_of_inTheWay? hway) _ rfl) fun _ => mirrors_pure _
    · exact mirrors_pure _

theorem mirrors_reinstall (s : Settings) (x : Entry) :
    Mirrors (κ := κ) (reinstall s x) (reinstall s x) :=
  mirrors_bind (mirrors_lift _) fun text =>
    mirrors_bind (mirrors_withSavepoint text) fun _ => mirrors_pure _

theorem mirrors_alterColumn (r : Registry) (s : Settings) (sql : String) :
    Mirrors (κ := κ) (alterColumn r s sql) (alterColumn r s sql) := by
  have hinner : Mirrors (κ := κ) (alterAndReinstall r s sql) (alterAndReinstall r s sql) :=
    mirrors_bind (mirrors_alterDropping sql _) fun xs => mirrors_mapM (mirrors_reinstall s) xs
  refine mirrors_get_bind fun w => ?_
  show Mirrors (if inTransaction w.inner then _ else _) (if inTransaction w.inner then _ else _)
  split
  · exact hinner
  · refine mirrors_bind (mirrors_batch _) fun _ => mirrors_bind (mirrors_attempt hinner) fun came => ?_
    cases came with
    | ok ids => exact mirrors_bind (mirrors_batch _) fun _ => mirrors_pure _
    | error e =>
      refine mirrors_bind (mirrors_attempt (mirrors_batch _)) fun back => ?_
      cases back with
      | ok _ => exact mirrors_throw e
      | error again => exact mirrors_bind (mirrors_notify _) fun _ => mirrors_throw e

/-- Every alteration takes its course, whatever the server says: it ends, and what it has sent by then is
what an alteration sends. Writing that down changes nothing. -/
theorem alterColumn_course (r : Registry) (s : Settings) (sql : String) (k : κ) :
    ∃ out k' log, result (alterColumn r s sql) k = (out, k') ∧
      result (alterColumn r s sql) (⟨k, []⟩ : Watched κ) = (out, ⟨k', log⟩) ∧
      Altering r s sql (inTransaction k) log out := by
  obtain ⟨log, hlog, haltering⟩ := (alters r s sql (⟨k, []⟩ : Watched κ)).altering
  have hmirrors := mirrors_alterColumn r s sql ⟨k, []⟩
  generalize result (alterColumn r s sql) (⟨k, []⟩ : Watched κ) = came at hlog haltering hmirrors
  obtain ⟨out, k', log'⟩ := came
  obtain rfl : log' = log := hlog
  exact ⟨out, k', log', hmirrors, rfl, haltering⟩

end DeclaredTriggers
