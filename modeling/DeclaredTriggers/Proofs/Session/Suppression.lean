import DeclaredTriggers.Proofs.Session.Executions
import DeclaredTriggers.Proofs.Sql.ArrayLiteral

/-!
# What an open scope suppresses

While a scope is open, each call of a client tells the backend once which triggers to ignore: in front
of its text, or behind the statement that opens a block. What it tells is an array literal, and
Postgres reads from it the identifiers that are ignored, since none of them holds a character that
means something there (`Overrides.Registered.elements`). This file says which statements find it:

> `open_suppresses`: what the dues of a call cover is executed with exactly the ignored triggers, up to
> the first statement that ends the transaction, goes back to a savepoint from before the dues, or sets
> the variable itself; and a text without dues is sent as it is. So where nothing else tells the backend
> which triggers to ignore, a call is suppressed as a whole exactly if all that stands beyond its dues
> controls a transaction.

A scope is meant to suppress every statement until it is released, and it does so if these are sent one
by one. Sent as a batch they can get beyond the dues, which are not repeated behind a `COMMIT` in the
middle; and a batch that goes from one control statement to the next before its first delete has no
dues at all, although it opens with the `BEGIN` that they belong behind (`open_suppresses_nothing`).
-/

namespace DeclaredTriggers

open Sql (Control)

/-! ## The literal -/

/-- What Postgres reads of a variable that names triggers; null elements are none. -/
def Content.elements? (v : Content) : Option (List (Option String)) :=
  (Sql.literalText? v.text).bind Sql.arrayElements?

theorem Definition.isBare_of_isNameCharacter {c : Char} (h : Definition.isNameCharacter c) :
    Sql.isBare c := by
  have hall : ∀ n < 128, Definition.isNameCharacter (Char.ofNat n) → Sql.isBare (Char.ofNat n) := by
    decide
  exact forall_ascii (P := fun c => isNameCharacter c → Sql.isBare c) hall c
    (toNat_lt_of_isNameCharacter h) h

/-- An entry's identifier is read back as it is. -/
theorem Entry.bare_pgid (x : Entry) : Sql.Bare x.pgid := by
  obtain ⟨rest, hrest⟩ := x.pgid_eq_append
  refine ⟨?_, fun c hc => Definition.isBare_of_isNameCharacter (x.isNameCharacter_of_mem_pgid hc), ?_⟩
  · rw [hrest]
    exact fun h => (nomatch h)
  · rw [hrest]
    intro h
    have hfirst := congrArg List.head? h
    exact absurd hfirst (by simp [identifierLead])

/-- From the literal that names the ignored triggers, exactly these are read. -/
theorem Overrides.Registered.elements {o : Overrides} (h : o.Registered) :
    h.content.elements? = some (o.ignored.keys.map some) := by
  refine Sql.elements_literal (fun id hid => ?_) h.quote_not_mem
  obtain ⟨x, rfl⟩ := h id hid
  exact x.bare_pgid

/-! ## Texts without dues -/

/-- A text that no dues cover is sent as it is. -/
theorem Link.sent_of_uncovered {l : Link Backend} {o : Overrides} {m : Move} {q : Request}
    (hrequest : m.request? = some q) (h : m.covered? = none) :
    l.succeeds o m = (l.server.receive q).1.isDone ∧
      (l.move o m).server = (l.server.receive q).2 := by
  cases m with
  | batch sql =>
    cases hrequest
    show (l.batch o sql).1 = _ ∧ (l.batch o sql).2.server = _
    unfold batch
    simp only [Session.withPreamble_of_uncovered h, send_eq, learn, and_self]
  | prepared sql params =>
    cases hrequest
    cases hcontrol : controlOf? sql with
    | none =>
      rw [show (Move.prepared sql params).covered? = some ([], sql) from
        if_pos (by rw [hcontrol]; rfl)] at h
      cases h
    | some c =>
      show (l.prepared o sql params).1 = _ ∧ (l.prepared o sql params).2.server = _
      unfold prepared
      simp only [preamble_of_control hcontrol, send_eq, learn, and_self]
  | openIgnore | closeIgnore | openPath | closePath | rest => cases hrequest

/-- What a text that no dues cover is executed with is what the variable can come back to. -/
theorem Client.behind_of_uncovered {c : Client Backend} (hc : c.Composed) {call : Call}
    {text : String} (htext : (c.move call).text? = some text) (h : (c.move call).covered? = none)
    {P : Content → Prop} (hall : (c.wire.server.ledger .ignore).All P)
    (hsilent : ∀ st ∈ Sql.statements text.toList, (Effect.ofStatement st).writes .ignore = false) :
    (c.behind call).map Execution.statement <+: Sql.statements text.toList ∧
      (c.succeeds call → (c.behind call).map Execution.statement = Sql.statements text.toList) ∧
      ∀ e ∈ c.behind call, P (e.values .ignore) := by
  obtain ⟨q, hrequest, rfl⟩ := Move.request_of_text htext
  obtain ⟨hok, hmoved⟩ := Link.sent_of_uncovered (l := c.link) (o := c.overrides) hrequest h
  have hserver : (c.after call).wire.server = (c.wire.server.receive q).2 :=
    (server_after hc call).trans hmoved
  obtain ⟨ran, hexec, hpre, hdone, hvalues⟩ := Backend.receive_executed_all hall hsilent
  have hbehind : c.behind call = ran := by
    unfold behind front
    rw [h, hserver, hexec]
    exact List.drop_left
  rw [hbehind]
  refine ⟨hpre, fun hsucceeds => hdone ?_, hvalues⟩
  rw [succeeds_of_text hc.isOpen htext, hok] at hsucceeds
  exact hsucceeds

/-! ## Texts with dues -/

theorem Held.value_set (h : Held) (isLocal : Bool) (v : Content) : (h.set isLocal v).value = v := by
  cases isLocal <;> rfl

/-- What the dues set for an open session is what is found behind them. -/
theorem Setting.value_heldAlong {s : Setting} (h : 0 < s.sessions) (home : Content) (isLocal : Bool)
    (v : Content) (held : Held) : (s.heldAlong home isLocal (some v) held).value = v := by
  show (if s.sessions = 0 then _ else _ : Held).value = v
  rw [if_neg (by omega)]
  exact Held.value_set _ _ _

/-- What they set for good gets over the end of a transaction. -/
theorem Setting.passing_heldAlong {s : Setting} (h : 0 < s.sessions) (home v : Content)
    (held : Held) : (s.heldAlong home false (some v) held).passing = none := by
  show (if s.sessions = 0 then _ else _ : Held).passing = none
  rw [if_neg (by omega)]
  rfl

/-- A statement with parameters that goes through is one. -/
theorem Link.length_le_of_prepared {l : Link Backend} {o : Overrides} {sql : String}
    {params : List String} (h : (l.prepared o sql params).1 = true) :
    (Sql.statements sql.toList).length ≤ 1 := by
  unfold prepared at h
  generalize l.preamble o sql = p at h
  obtain ⟨_ | _, l'⟩ := p
  · cases h
  · simp only [send_eq] at h
    exact Backend.length_le_of_prepared h

namespace Client

section

variable {c : Client Backend} {P : Content → Prop}

/-- The dues of an open scope hide what the variable can come back to. -/
theorem kept_of_dues (hc : c.Composed) (hopen : 0 < c.session.ignore.sessions) (hhome : P c.home)
    (hall : (c.wire.server.ledger .ignore).All P) {pre : List (List Char)}
    (hpre : ∀ st ∈ pre, (Control.ofStatement? st).isSome) {after : Backend}
    (h : Backend.Ran c.wire.server (pre ++ c.session.dues c.overrides true) true after) :
    Backend.Kept .ignore hc.registered.content P [] after := by
  obtain ⟨mid, hmid, hledger⟩ := Link.ledger_of_dues (l := c.link) (x := .ignore) hc.registered
    (fun _ => rfl) h
  have hleft : (mid.ledger .ignore).All P := by
    refine hmid.all hall fun st hst => Effect.leaves_of_not_writes ?_
    obtain ⟨k, hk⟩ := Option.isSome_iff_exists.1 (hpre st hst)
    rw [Backend.ofStatement_control.2 hk]
    rfl
  have hheld : after.holdings .ignore = c.session.ignore.heldAlong c.home true
      (some hc.registered.content) (mid.holdings .ignore) := congrArg Ledger.held hledger
  refine Backend.kept_of_value ?_ ?_ ?_ ?_
  · show (after.holdings .ignore).value = _
    rw [hheld]
    exact Setting.value_heldAlong hopen _ _ _ _
  · rw [hheld, Setting.lasting_heldAlong (by simp)]
    unfold Setting.heldPaid
    split
    next => exact hhome
    next => exact hleft.held.lasting
  · have hout : after.outside .ignore = mid.outside .ignore := congrArg Ledger.outside hledger
    rw [hout]
    exact hleft.outside
  · rw [hledger]
    exact hleft.marks

/-- What gets beyond the dues of an open scope is executed with what they hide. -/
theorem beyond_of_covered (hc : c.Composed) (hopen : 0 < c.session.ignore.sessions)
    (hhome : P c.home) (hall : (c.wire.server.ledger .ignore).All P) {call : Call} {target : String}
    {pre : List (List Char)} (hcovered : (c.move call).covered? = some (pre, target))
    (hback : c.session.holdsBack target = false) (hsucceeds : c.succeeds call)
    (hbehind : (c.behind call).map Execution.statement <+: Sql.statements target.toList)
    (hsilent : ∀ st ∈ Sql.statements target.toList,
      (Effect.ofStatement st).writes .ignore = false) :
    ∀ e ∈ (c.behind call).drop (Backend.span .ignore c.wire.server.conduct.savepointName []
      (Sql.statements target.toList)), P (e.values .ignore) := by
  obtain ⟨text, htext, -, hpre⟩ := Move.text_of_covered hcovered
  rw [succeeds_of_text hc.isOpen htext] at hsucceeds
  have hserver : (c.after call).wire.server = (c.link.move c.overrides (c.move call)).server :=
    server_after hc call
  cases hmove : c.move call with
  | batch sql =>
    have hfront : c.front call = pre ++ c.session.dues c.overrides true := by
      unfold front
      rw [hcovered, hmove]
      rfl
    rw [hmove] at hcovered hserver
    unfold behind
    rw [hserver, hfront]
    exact Link.batch_behind_span (l := c.link) hc.pathClosed hc.registered hcovered hback
      (fun _ => kept_of_dues hc hopen hhome hall hpre) hsilent
  | prepared sql params =>
    -- it is one statement, which the dues reach
    rw [hmove] at hcovered hsucceeds
    obtain ⟨-, -, rfl⟩ := Move.covered?_prepared hcovered
    have hone := Backend.length_le_span .ignore c.wire.server.conduct.savepointName []
      (Link.length_le_of_prepared hsucceeds)
    rw [List.drop_of_length_le ((Execution.length_le hbehind).trans hone)]
    simp
  | openIgnore | closeIgnore | openPath | closePath | rest =>
    rw [hmove] at hcovered
    cases hcovered

/-- What is executed while a scope is open and what the dues of a call cover: all of it if it succeeds,
and with exactly the ignored triggers until a statement undoes the setting. -/
theorem behind_of_open (hc : c.Composed) (hopen : 0 < c.session.ignore.sessions)
    (htracks : c.Tracks) {call : Call} {target : String} {pre : List (List Char)}
    (hcovered : (c.move call).covered? = some (pre, target))
    (hback : c.session.holdsBack target = false) :
    (c.behind call).map Execution.statement <+: Sql.statements target.toList ∧
      (c.succeeds call → (c.behind call).map Execution.statement = Sql.statements target.toList) ∧
      ∀ e ∈ (c.behind call).take (Backend.span .ignore c.wire.server.conduct.savepointName []
        (Sql.statements target.toList)),
        (e.values .ignore).elements? = some (c.overrides.ignored.keys.map some) := by
  obtain ⟨hpre, hall, hvalues⟩ := behind_after hc hcovered hback (v := hc.registered.content)
    (fun mid _ => Setting.value_heldAlong hopen _ _ _ _)
    (fun sql params hmove hidle => by
      -- no transaction is open, so what is known says so too
      have hglobal : (c.move call).isLocal c.session = false := by
        rw [hmove]
        refine decide_eq_false fun hin => ?_
        have htracks : c.session.status.Tracks c.wire.server.phase := htracks
        rw [hin, hidle] at htracks
        cases htracks
      rw [hglobal]
      exact Setting.passing_heldAlong hopen _ _ _)
  refine ⟨hpre, hall, fun e he => ?_⟩
  rw [hvalues e he]
  exact hc.registered.elements

end

/-! ### What is suppressed as a whole -/

/-- The statements of a call that its dues do not reach: those behind the first that undoes the
setting, or all of them if no dues cover the text. -/
def beyond (c : Client Backend) (call : Call) : List (List Char) :=
  match (c.move call).covered? with
  | some (_, target) =>
    (Sql.statements target.toList).drop (Backend.span .ignore c.wire.server.conduct.savepointName []
      (Sql.statements target.toList))
  | none => (c.move call).text?.elim [] fun text => Sql.statements text.toList

/-- Every statement of a call that does not control a transaction is executed with exactly the ignored
triggers. -/
def Suppresses (c : Client Backend) (call : Call) : Prop :=
  ∀ e ∈ c.behind call, Control.ofStatement? e.statement = none →
    (e.values .ignore).elements? = some (c.overrides.ignored.keys.map some)

/-- Without the dues, the backend would not ignore exactly the ignored triggers: neither by default, nor
with anything else that the variable can come back to. -/
structure NeedsDues (c : Client Backend) : Prop where
  home : c.home.elements? ≠ some (c.overrides.ignored.keys.map some)
  ledger : (c.wire.server.ledger .ignore).All
    fun v => v.elements? ≠ some (c.overrides.ignored.keys.map some)

/-- So it is where nobody has set the variable. -/
theorem needsDues_of_untouched {c : Client Backend} (h : c.wire.server.Untouched .ignore)
    (hhome : c.home.elements? ≠ some (c.overrides.ignored.keys.map some)) : c.NeedsDues := by
  refine ⟨hhome, ?_, ?_, fun m hm => ?_⟩
  · show (c.wire.server.outside .ignore).elements? ≠ _
    rw [h.outside]
    exact hhome
  · show (c.wire.server.holdings .ignore).All _
    rw [h.held]
    exact .alone hhome
  · obtain ⟨p, hp, rfl⟩ := List.mem_map.1 hm
    rw [h.savepoints p hp]
    exact .alone hhome

section

variable {c : Client Backend} (hc : c.Composed) (hopen : 0 < c.session.ignore.sessions)
  (htracks : c.Tracks) (herror : c.session.status ≠ .inError)

include hc hopen htracks herror

/-- What a call has executed is split by its dues: they reach the first part, and not the second. -/
theorem exists_reached {call : Call} {text : String} (htext : (c.move call).text? = some text)
    (hconcurrent : ∀ pre target, (c.move call).covered? = some (pre, target) →
      Sql.isConcurrent target.toList = false)
    (hsilent : ∀ st ∈ Sql.statements text.toList, (Effect.ofStatement st).writes .ignore = false)
    (hneeds : c.NeedsDues) (hsucceeds : c.succeeds call) :
    ∃ reached rest, c.behind call = reached ++ rest ∧
      rest.map Execution.statement = c.beyond call ∧
      (∀ e ∈ reached, (e.values .ignore).elements? = some (c.overrides.ignored.keys.map some)) ∧
      ∀ e ∈ rest, (e.values .ignore).elements? ≠ some (c.overrides.ignored.keys.map some) := by
  unfold beyond
  cases hcovered : (c.move call).covered? with
  | none =>
    obtain ⟨-, hall, hvalues⟩ := behind_of_uncovered hc htext hcovered hneeds.ledger hsilent
    refine ⟨[], c.behind call, rfl, ?_, by simp, hvalues⟩
    rw [hall hsucceeds, htext]
    rfl
  | some covered =>
    obtain ⟨pre, target⟩ := covered
    have hback := Session.holdsBack_eq_false herror (hconcurrent pre target hcovered)
    obtain ⟨text', htext', hstatements, -⟩ := Move.text_of_covered hcovered
    cases htext.symm.trans htext'
    obtain ⟨hpre, hall, hvalues⟩ := behind_of_open hc hopen htracks hcovered hback
    have hbeyond := beyond_of_covered hc hopen hneeds.home hneeds.ledger hcovered hback hsucceeds
      hpre fun st hst => hsilent st (hstatements ▸ List.mem_append_right _ hst)
    refine ⟨_, _, (List.take_append_drop _ _).symm, ?_, hvalues, hbeyond⟩
    rw [List.map_drop, hall hsucceeds]

/-- Where nothing else tells the backend which triggers to ignore, a call is suppressed as a whole
exactly if all that its dues do not reach controls a transaction. -/
theorem suppresses_iff {call : Call} {text : String} (htext : (c.move call).text? = some text)
    (hconcurrent : ∀ pre target, (c.move call).covered? = some (pre, target) →
      Sql.isConcurrent target.toList = false)
    (hsilent : ∀ st ∈ Sql.statements text.toList, (Effect.ofStatement st).writes .ignore = false)
    (hneeds : c.NeedsDues) (hsucceeds : c.succeeds call) :
    c.Suppresses call ↔ ∀ st ∈ c.beyond call, (Control.ofStatement? st).isSome := by
  obtain ⟨reached, rest, hbehind, hrest, hreached, hleft⟩ :=
    exists_reached hc hopen htracks herror htext hconcurrent hsilent hneeds hsucceeds
  unfold Suppresses
  rw [hbehind, ← hrest]
  constructor
  · intro hall st hst
    obtain ⟨e, he, rfl⟩ := List.mem_map.1 hst
    by_contra hordinary
    exact hleft e he (hall e (List.mem_append_right _ he) (by simpa using hordinary))
  · intro hcontrol e he hordinary
    rcases List.mem_append.1 he with he | he
    · exact hreached e he
    · have := hcontrol _ (List.mem_map_of_mem he)
      rw [hordinary] at this
      cases this

end

/-- While a scope is open, after whatever run, what the dues of a call cover is executed with exactly
the ignored triggers, until a statement undoes the setting. It is the whole text of the call, but for
at most one statement in front that opens a block. A text without dues is sent as it is. So where
nothing but the dues makes the backend ignore these triggers, a call that succeeds and does not set the
variable itself is suppressed as a whole exactly if all that its dues do not reach controls a
transaction. -/
theorem open_suppresses {c : Client Backend} (hfresh : c.Fresh) (calls : List Call)
    (hopen : 0 < (c.run calls).session.ignore.sessions) (htracks : (c.run calls).Tracks)
    (herror : (c.run calls).session.status ≠ .inError) (call : Call) :
    (∀ pre target, ((c.run calls).move call).covered? = some (pre, target) →
      Sql.isConcurrent target.toList = false →
      (∃ sql, ((c.run calls).move call).text? = some sql ∧
        Sql.statements sql.toList = pre ++ Sql.statements target.toList ∧
        ∀ st ∈ pre, (Control.ofStatement? st).isSome) ∧
      ((c.run calls).succeeds call →
        ((c.run calls).behind call).map Execution.statement = Sql.statements target.toList) ∧
      ∀ e ∈ ((c.run calls).behind call).take (Backend.span .ignore
          (c.run calls).wire.server.conduct.savepointName [] (Sql.statements target.toList)),
        (e.values .ignore).elements? = some ((c.run calls).overrides.ignored.keys.map some)) ∧
    (∀ q, ((c.run calls).move call).request? = some q →
      ((c.run calls).move call).covered? = none →
      ((c.run calls).after call).wire.server = ((c.run calls).wire.server.receive q).2) ∧
    ((c.run calls).succeeds call → ∀ text, ((c.run calls).move call).text? = some text →
      (∀ pre target, ((c.run calls).move call).covered? = some (pre, target) →
        Sql.isConcurrent target.toList = false) →
      (∀ st ∈ Sql.statements text.toList, (Effect.ofStatement st).writes .ignore = false) →
      (c.run calls).NeedsDues →
      ((c.run calls).Suppresses call ↔
        ∀ st ∈ (c.run calls).beyond call, (Control.ofStatement? st).isSome)) := by
  have hc := composed_run hfresh.composed calls
  refine ⟨fun pre target hcovered hconcurrent => ⟨Move.text_of_covered hcovered, ?_⟩,
    fun q hrequest huncovered => ?_, fun hsucceeds text htext hconcurrent hsilent hneeds => ?_⟩
  · have hback := Session.holdsBack_eq_false herror hconcurrent
    exact (behind_of_open hc hopen htracks hcovered hback).2
  · exact (server_after hc call).trans (Link.sent_of_uncovered hrequest huncovered).2
  · exact suppresses_iff hc hopen htracks herror htext hconcurrent hsilent hneeds hsucceeds

/-- To enter a scope sends nothing. -/
theorem server_after_ignore {c : Client Backend} (hc : c.Composed) (registry : Registry)
    (uris : List String) : (c.after (.ignore registry uris)).wire.server = c.wire.server := by
  rw [server_after hc]
  by_cases hids : (registry.ignorable uris).toBool
  · rw [show c.move (.ignore registry uris) = .openIgnore from if_pos hids]
    rfl
  · rw [show c.move (.ignore registry uris) = .rest from if_neg hids]
    rfl

/-- A batch that opens a transaction and closes it deletes without the trigger that forbids it. What
stands behind it in the batch does not. -/
theorem open_suppresses_in_block :
    let c : Client Backend := connectedTo { conduct := .cancelling none } .idle
    let d := c.run [.ignore .specimen ["library.Book:protect_deletes"]]
    let call : Call := .batch "BEGIN; DELETE FROM library_book; COMMIT"
    (d.behind call).map Execution.statement = ["DELETE FROM library_book".toList, "COMMIT".toList] ∧
      (∀ e ∈ d.behind call,
        (e.values .ignore).elements? = some [some "pgtrigger_protect_deletes_910fe"]) ∧
      d.Suppresses call ∧
      ¬ d.Suppresses (.batch "BEGIN; DELETE FROM library_book; COMMIT; DELETE FROM library_book") := by
  intro c d call
  let longer : Call := .batch "BEGIN; DELETE FROM library_book; COMMIT; DELETE FROM library_book"
  have hfresh : c.Fresh := fresh_connectedTo _ (by simp)
  have hfacts : 0 < d.session.ignore.sessions ∧ d.Tracks ∧ d.session.status ≠ .inError ∧
      d.succeeds call ∧ d.succeeds longer ∧
      (d.move call).covered? = some (["BEGIN".toList], " DELETE FROM library_book; COMMIT") ∧
      (d.move longer).covered? = some (["BEGIN".toList],
        " DELETE FROM library_book; COMMIT; DELETE FROM library_book") ∧
      Backend.span .ignore d.wire.server.conduct.savepointName []
        ["DELETE FROM library_book".toList, "COMMIT".toList] = 2 ∧
      d.beyond call = [] ∧ d.beyond longer = ["DELETE FROM library_book".toList] ∧
      d.overrides.ignored.keys = ["pgtrigger_protect_deletes_910fe"] := by decide +kernel
  obtain ⟨hopen, htracks, herror, hsucceeds, hlonger, hcovered, hcovers, hspan, hall, hbeyond, hkeys⟩ :=
    hfacts
  have hserver : d.wire.server = c.wire.server := server_after_ignore hfresh.composed _ _
  have hneeds : d.NeedsDues := by
    refine needsDues_of_untouched (hserver ▸ (starts_connectedTo _).untouched) ?_
    rw [hkeys]
    unfold home
    rw [hserver]
    decide
  obtain ⟨hreach, -, hiff⟩ := open_suppresses hfresh _ hopen htracks herror call
  obtain ⟨-, hdone, hvalues⟩ := hreach _ _ hcovered (by decide)
  have htarget : Sql.statements " DELETE FROM library_book; COMMIT".toList =
      ["DELETE FROM library_book".toList, "COMMIT".toList] := by decide
  have hbehind := hdone hsucceeds
  have hlength := congrArg List.length hbehind
  rw [htarget] at hbehind hlength hvalues
  rw [List.length_map] at hlength
  rw [hspan, List.take_of_length_le (by rw [hlength]; simp), hkeys] at hvalues
  refine ⟨hbehind, hvalues, ?_, ?_⟩
  · refine (hiff hsucceeds _ rfl (fun pre target h => ?_) (by decide) hneeds).2 ?_
    · cases hcovered.symm.trans h
      decide
    · rw [hall]
      exact fun st hst => (nomatch hst)
  · intro hsuppresses
    have hcontrol := ((open_suppresses hfresh _ hopen htracks herror longer).2.2 hlonger _ rfl
      (fun pre target h => by
        cases hcovers.symm.trans h
        decide)
      (by decide) hneeds).1 hsuppresses
    rw [hbeyond] at hcontrol
    exact absurd (hcontrol _ List.mem_cons_self) (by decide)

/-- A batch that opens a transaction and takes a savepoint in it is sent as it is, and its delete
meets the trigger that forbids it. -/
theorem open_suppresses_nothing :
    ¬ ∀ (c : Client Backend) (calls : List Call) (sql : String), c.Fresh →
      0 < (c.run calls).session.ignore.sessions → (c.run calls).Tracks →
      (c.run calls).session.status ≠ .inError → (c.run calls).succeeds (.batch sql) →
      Sql.isConcurrent sql.toList = false →
      ∀ e ∈ (c.run calls).behind (.batch sql), Control.ofStatement? e.statement = none →
        (e.values .ignore).elements? = some ((c.run calls).overrides.ignored.keys.map some) := by
  intro hall
  let c : Client Backend := connectedTo { conduct := .cancelling none } .idle
  let calls : List Call := [.ignore .specimen ["library.Book:protect_deletes"]]
  let sql := "BEGIN; SAVEPOINT a; DELETE FROM library_book; COMMIT"
  have hfresh : c.Fresh := fresh_connectedTo _ (by simp)
  have hfacts : 0 < (c.run calls).session.ignore.sessions ∧ (c.run calls).Tracks ∧
      (c.run calls).session.status ≠ .inError ∧ (c.run calls).succeeds (.batch sql) ∧
      ¬ ∀ e ∈ (c.run calls).behind (.batch sql), Control.ofStatement? e.statement = none →
        (e.values .ignore).elements? =
          some ((c.run calls).overrides.ignored.keys.map some) := by decide +kernel
  obtain ⟨hopen, htracks, herror, hsucceeds, hmeets⟩ := hfacts
  exact hmeets (hall c calls sql hfresh hopen htracks herror hsucceeds (by decide))

end Client

end DeclaredTriggers
