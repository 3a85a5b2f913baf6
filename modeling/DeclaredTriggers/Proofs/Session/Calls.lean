import DeclaredTriggers.Proofs.Session.Dues
import DeclaredTriggers.Proofs.Session.Link
import DeclaredTriggers.Session.Targets

/-!
# Runs of a client

A run is a row of calls (`Call`): statements, scopes that are entered, released and dropped, and
sessions over several clients that this one joins and leaves, in any order. Other clients of the same
worker change the overrides they share with it at any time (`Elsewhere`).

All that a call does to the link is one of seven moves (`Move`), and which one it is depends on the
hooks, the registry and the names that were given:

> `link_after`: a call takes the link where its move takes it.

So whatever every move keeps holds along every run. The overrides are kept apart from the link: they
name registered triggers only, whoever changed them (`after_eq`).
-/

namespace DeclaredTriggers

open Act (result result_bind)
open Sql (Control)

/-! ## Moves of a link -/

/-- What can happen to a link. -/
inductive Move where
  | batch (sql : String)
  | prepared (sql : String) (params : List String)
  | openIgnore
  | closeIgnore (queueOnly : Bool)
  | openPath
  | closePath (queueOnly : Bool)
  /-- Nothing. -/
  | rest
  deriving DecidableEq

/-- A link after a move. -/
def Link.move {σ : Type} [Server σ] (o : Overrides) (l : Link σ) : Move → Link σ
  | .batch sql => (l.batch o sql).2
  | .prepared sql params => (l.prepared o sql params).2
  | .openIgnore => l.learn fun s => { s with ignore := s.ignore.opened }
  | .closeIgnore queueOnly => (l.closeIgnore queueOnly).2
  | .openPath => l.openPath.2
  | .closePath queueOnly => (l.closePath queueOnly).2
  | .rest => l

/-! ### Texts that are sent -/

/-- The text of the caller's that a move sends. -/
def Move.text? : Move → Option String
  | .batch sql | .prepared sql _ => some sql
  | .openIgnore | .closeIgnore _ | .openPath | .closePath _ | .rest => none

/-- The request that a text of the caller's is sent with. -/
def Move.request? : Move → Option Request
  | .batch sql => some (.batch sql)
  | .prepared sql params => some (.prepared sql params)
  | .openIgnore | .closeIgnore _ | .openPath | .closePath _ | .rest => none

theorem Move.request_of_text {m : Move} {text : String} (h : m.text? = some text) :
    ∃ q, m.request? = some q ∧ q.sql = text := by
  cases m with
  | batch sql | prepared sql params =>
    cases h
    exact ⟨_, rfl, rfl⟩
  | openIgnore | closeIgnore | openPath | closePath | rest => cases h

/-- The text that the dues of a batch cover, and the statements in front of them; none if they go
nowhere. -/
def Session.covered? (sql : String) : Option (List (List Char) × String) :=
  match Control.ofStatement? ((Sql.statements sql.toList).headD []) with
  | none => some ([], sql)
  | some c =>
    if c.entersBlock then
      match Sql.splitStatement? sql.toList with
      | none => none
      | some (_, rest) =>
        if (Control.ofStatement? rest).isNone then
          some ((Sql.statements sql.toList).take 1, String.ofList rest)
        else none
    else none

/-- The two places where dues go: in front of a batch, and behind its first statement. -/
theorem Session.cases_of_covered {sql target : String} {pre : List (List Char)}
    (h : covered? sql = some (pre, target)) :
    (Control.ofStatement? ((Sql.statements sql.toList).headD []) = none ∧ pre = [] ∧ target = sql) ∨
      ∃ c head rest first, Control.ofStatement? first = some c ∧ c.entersBlock ∧
        Sql.splitStatement? sql.toList = some (head, rest) ∧ Control.ofStatement? rest = none ∧
        (∀ t, Sql.statements (head ++ t) = first :: Sql.statements t) ∧
        Sql.statements sql.toList = first :: Sql.statements rest ∧
        pre = [first] ∧ target = String.ofList rest := by
  unfold covered? at h
  split at h
  next hnone =>
    cases h
    exact .inl ⟨hnone, rfl, rfl⟩
  next c hc =>
    split at h
    next henters =>
      split at h
      next => cases h
      next head rest hsplit =>
        split at h
        next hrest =>
          obtain ⟨first, hput, hall⟩ := Sql.statements_of_split hsplit
          rw [hall] at hc h
          cases h
          exact .inr ⟨c, head, rest, first, hc, henters, hsplit, Option.isNone_iff_eq_none.1 hrest,
            hput, hall, rfl, rfl⟩
        next => cases h
    next => cases h

/-- The text that the dues of a move cover, and the statements in front of them. -/
def Move.covered? : Move → Option (List (List Char) × String)
  | .batch sql => Session.covered? sql
  | .prepared sql _ => if (controlOf? sql).isNone then some ([], sql) else none
  | .openIgnore | .closeIgnore _ | .openPath | .closePath _ | .rest => none

theorem Move.covered?_prepared {sql target : String} {params : List String}
    {pre : List (List Char)} (h : (Move.prepared sql params).covered? = some (pre, target)) :
    controlOf? sql = none ∧ pre = [] ∧ target = sql := by
  by_cases hcontrol : (controlOf? sql).isNone
  · have hcovered : (Move.prepared sql params).covered? = some ([], sql) := if_pos hcontrol
    rw [hcovered] at h
    cases h
    exact ⟨Option.isNone_iff_eq_none.1 hcontrol, rfl, rfl⟩
  · have hcovered : (Move.prepared sql params).covered? = none := if_neg hcontrol
    rw [hcovered] at h
    cases h

/-! ### The server -/

/-- What every request keeps of a server, a move keeps. -/
theorem Link.server_move {σ : Type} [Server σ] {I : σ → Prop}
    (hreceive : ∀ q s, I s → I (Server.receive q s).2) {l : Link σ} (h : I l.server)
    (o : Overrides) (m : Move) : I (l.move o m).server := by
  have hown : ∀ (sql : String) (l : Link σ), I l.server → I (l.own sql).2.server := by
    intro sql l h
    have hsent := hreceive (.batch sql) l.server h
    unfold own
    split
    next l' heq =>
      rw [show l' = (l.send (.batch sql)).2 from by rw [heq]]
      exact hsent
    next l' heq =>
      rw [show l' = (l.send (.batch sql)).2 from by rw [heq]]
      exact hsent
  have hundo : ∀ (undo : Option String) (l : Link σ), I l.server → I (l.undo undo).2.server := by
    intro undo l h
    cases undo with
    | none => exact h
    | some sql => exact hown sql l h
  cases m with
  | batch sql => exact hreceive _ l.server h
  | prepared sql params =>
    have hpreamble : I (l.preamble o sql).2.server := by
      unfold preamble
      split
      next =>
        simp only
        split
        next => exact hown _ { l with session := _ } h
        next => exact h
      next => exact h
    show I (l.prepared o sql params).2.server
    unfold prepared
    generalize l.preamble o sql = p at hpreamble ⊢
    obtain ⟨_ | _, l'⟩ := p
    · exact hpreamble
    · exact hreceive _ _ hpreamble
  | openIgnore | rest => exact h
  | closeIgnore queueOnly => exact hundo _ { l with session := _ } h
  | closePath queueOnly => exact hundo _ { l with session := _ } h
  | openPath =>
    show I l.openPath.2.server
    unfold openPath
    split
    next =>
      split
      next => exact hreceive _ _ h
      next => exact hreceive _ _ h
    next => exact h

/-! ## Overrides stay registered -/

namespace Overrides

theorem Registered.addIgnored {o : Overrides} (h : o.Registered) {ids : List String}
    (hids : ∀ id ∈ ids, ∃ x : Entry, x.pgid = id) : (o.addIgnored ids).2.Registered := by
  induction ids generalizing o with
  | nil => exact h
  | cons id ids ih =>
    have hrest : ∀ id ∈ ids, ∃ x : Entry, x.pgid = id :=
      fun i hi => hids i (List.mem_cons_of_mem _ hi)
    unfold Overrides.addIgnored
    split
    next => exact ih h hrest
    next =>
      refine ih (o := { o with ignored := o.ignored.add id }) (fun key hkey => ?_) hrest
      obtain ⟨e, he, rfl⟩ := List.mem_map.1 hkey
      rcases Keyed.mem_insertEntry he with rfl | he
      · exact hids id List.mem_cons_self
      · exact h e.1 (List.mem_map_of_mem he)

theorem Registered.removeIgnored {o : Overrides} (h : o.Registered) (ids : List String) :
    (o.removeIgnored ids).Registered := by
  have herase : ∀ (ids : List String) (m : Names), ∀ key ∈ (ids.foldl Keyed.erase m).keys,
      key ∈ m.keys := by
    intro ids
    induction ids with
    | nil => exact fun m key hkey => hkey
    | cons id ids ih =>
      intro m key hkey
      obtain ⟨e, he, rfl⟩ := List.mem_map.1 (ih (m.erase id) key hkey)
      exact List.mem_map_of_mem (List.mem_filter.1 he).1
  exact fun key hkey => h key (herase ids o.ignored key hkey)

theorem ignored_addSchemas (o : Overrides) (schemas : List String) :
    (o.addSchemas schemas).2.ignored = o.ignored := by
  induction schemas generalizing o with
  | nil => rfl
  | cons schema schemas ih =>
    unfold addSchemas
    split
    next => exact ih o
    next => exact ih { o with schemas := o.schemas ++ [schema] }

theorem Registered.of_ignored_eq {o o' : Overrides} (h : o.Registered)
    (heq : o'.ignored = o.ignored) : o'.Registered := by
  unfold Registered
  rw [heq]
  exact h

end Overrides

/-- What can be ignored is registered. -/
theorem Registry.registered_of_ignorable {r : Registry} {uris ids : List String}
    (h : r.ignorable uris = .ok ids) : ∀ id ∈ ids, ∃ x : Entry, x.pgid = id := by
  have hmap : ∀ entries : List Entry, ∀ id ∈ entries.map (·.pgid), ∃ x : Entry, x.pgid = id := by
    intro entries id hid
    obtain ⟨x, -, hx⟩ := List.mem_map.1 hid
    exact ⟨x, hx⟩
  unfold ignorable at h
  split at h
  next =>
    cases h
    exact hmap _
  next =>
    cases htargets : r.resolve uris with
    | error e =>
      rw [htargets] at h
      cases h
    | ok targets =>
      rw [htargets] at h
      simp only [bind, Except.bind] at h
      split at h
      next => cases h
      next =>
        cases h
        exact hmap _

/-! ## Calls -/

/-- What another client does to the overrides that it shares with this one. -/
inductive Elsewhere where
  | ignore (registry : Registry) (uris : List String)
  | ignoreNoLonger (ids : List String)
  | search (schemas : List String)
  | searchNoLonger (schemas : List String)

/-- The overrides after a change. -/
def Elsewhere.apply (o : Overrides) : Elsewhere → Overrides
  | .ignore registry uris =>
    match registry.ignorable uris with
    | .ok ids => (o.addIgnored ids).2
    | .error _ => o
  | .ignoreNoLonger ids => o.removeIgnored ids
  | .search schemas => (o.addSchemas schemas).2
  | .searchNoLonger schemas => o.removeSchemas schemas

/-- What is asked of a client. -/
inductive Call where
  | batch (sql : String)
  | query (sql : String) (params : List String)
  | execute (sql : String) (params : List String)
  /-- A scope in which triggers are ignored is entered, released or dropped. -/
  | ignore (registry : Registry) (uris : List String)
  | releaseIgnore (scope : IgnoreScope)
  | dropIgnore (scope : IgnoreScope)
  /-- A scope in which schemas are searched is entered, released or dropped. -/
  | search (schemas : List String)
  | releaseSchema (scope : SchemaScope)
  | dropSchema (scope : SchemaScope)
  /-- A session over several clients is entered, released (`queueOnly` is false) or dropped. -/
  | joinIgnore
  | leaveIgnore (queueOnly : Bool)
  | joinPath
  | leavePath (queueOnly : Bool)
  | elsewhere (change : Elsewhere)

namespace Call

variable {σ : Type} [Server σ]

/-- The work that is asked for. -/
def act : Call → Act (Client σ) Unit
  | .batch sql => Client.batch sql
  | .query sql params => do let _ ← Client.query sql params
  | .execute sql params => do let _ ← Client.execute sql params
  | .ignore registry uris => do let _ ← Client.ignore registry uris
  | .releaseIgnore scope => scope.release
  | .dropIgnore scope => scope.drop
  | .search schemas => do let _ ← Client.searching schemas
  | .releaseSchema scope => scope.release
  | .dropSchema scope => scope.drop
  | .joinIgnore => Client.learn fun s => { s with ignore := s.ignore.opened }
  | .leaveIgnore false => Client.closeIgnore
  | .leaveIgnore true => Client.learn fun s => (s.closeIgnore true).2
  | .joinPath => Client.openPath
  | .leavePath false => Client.closePath
  | .leavePath true => Client.learn fun s => (s.closePath true).2
  | .elsewhere change => Client.override fun o => ((), change.apply o)

end Call

namespace Client

variable {σ : Type}

/-- The move that a call is. -/
def move (c : Client σ) : Call → Move
  | .batch sql => (c.left sql 0).elim .rest .batch
  | .query sql params | .execute sql params =>
    (c.left sql params.length).elim .rest (.prepared · params)
  | .ignore registry uris => if (registry.ignorable uris).toBool then .openIgnore else .rest
  | .releaseIgnore _ => .closeIgnore false
  | .dropIgnore _ => .closeIgnore true
  | .search schemas =>
    if (schemas.mapM schemaName : Except Error _).toBool then .openPath else .rest
  | .releaseSchema _ => .closePath false
  | .dropSchema _ => .closePath true
  | .joinIgnore => .openIgnore
  | .leaveIgnore queueOnly => .closeIgnore queueOnly
  | .joinPath => .openPath
  | .leavePath queueOnly => .closePath queueOnly
  | .elsewhere _ => .rest

section

variable [Server σ]

/-- The client after a call. -/
def after (c : Client σ) (call : Call) : Client σ := (result call.act c).2

/-- The client after some calls. -/
def run (c : Client σ) (calls : List Call) : Client σ := calls.foldl after c

/-- `Along P c calls`: `P` holds of each of the calls at the client that it is asked of. -/
def Along (P : Client σ → Call → Prop) (c : Client σ) : List Call → Prop
  | [] => True
  | call :: rest => P c call ∧ Along P (c.after call) rest

instance decidableAlong {P : Client σ → Call → Prop} [∀ c call, Decidable (P c call)] :
    ∀ (c : Client σ) (calls : List Call), Decidable (Along P c calls)
  | _, [] => isTrue trivial
  | c, call :: rest =>
    have := decidableAlong (P := P) (c.after call) rest
    inferInstanceAs (Decidable (P c call ∧ Along P (c.after call) rest))

@[simp] theorem run_nil (c : Client σ) : c.run [] = c := rfl

@[simp] theorem run_cons (c : Client σ) (call : Call) (rest : List Call) :
    c.run (call :: rest) = (c.after call).run rest := rfl

theorem Along.imp {P Q : Client σ → Call → Prop} (hPQ : ∀ c call, P c call → Q c call)
    {c : Client σ} {calls : List Call} (h : Along P c calls) : Along Q c calls := by
  induction calls generalizing c with
  | nil => trivial
  | cons call rest ih => exact ⟨hPQ c call h.1, ih h.2⟩

theorem Along.and {P Q : Client σ → Call → Prop} {c : Client σ} {calls : List Call}
    (hP : Along P c calls) (hQ : Along Q c calls) :
    Along (fun c call => P c call ∧ Q c call) c calls := by
  induction calls generalizing c with
  | nil => trivial
  | cons call rest ih => exact ⟨⟨hP.1, hQ.1⟩, ih hP.2 hQ.2⟩

/-- What a call keeps, a run keeps. -/
theorem run_keeps {I : Client σ → Prop} {P : Client σ → Call → Prop}
    (hstep : ∀ c call, I c → P c call → I (c.after call)) {c : Client σ} {calls : List Call}
    (hc : I c) (h : Along P c calls) : I (c.run calls) := by
  induction calls generalizing c with
  | nil => exact hc
  | cons call rest ih => exact ih (hstep c call hc h.1) h.2

/-! ## The move that a call is -/

theorem move_closeIgnore (o : Overrides) (l : Link σ) :
    l.move o (.closeIgnore true) = l.learn fun s => (s.closeIgnore true).2 := by
  have hnone : (l.session.closeIgnore true).1 = none := by
    unfold Session.closeIgnore Setting.close
    simp only [Bool.not_true, Bool.false_and]
    split <;> rfl
  unfold Link.move Link.closeIgnore Link.undo
  simp only [hnone]
  rfl

theorem move_closePath (o : Overrides) (l : Link σ) :
    l.move o (.closePath true) = l.learn fun s => (s.closePath true).2 := by
  have hnone : (l.session.closePath true).1 = none := by
    unfold Session.closePath Setting.close
    simp only [Bool.not_true, Bool.false_and]
    split
    next => rfl
    next => split <;> rfl
  unfold Link.move Link.closePath Link.undo
  simp only [hnone]
  rfl

end

section

variable {c : Client σ}

theorem Acts.discard {α : Type} {act : Act (Client σ) α} {ok : Bool} {l : Link σ}
    (h : Acts act c ok l) : Acts (do let _ ← act) c ok l := by
  obtain ⟨r, j, hj, hr⟩ := h
  cases r with
  | ok a => exact ⟨.ok (), j, Act.result_bind_ok hj _, hr⟩
  | error e => exact ⟨.error e, j, Act.result_bind_error hj _, hr⟩

theorem Acts.after {act : Act (Client σ) Unit} {ok : Bool} {l : Link σ} (h : Acts act c ok l) :
    ∃ j, (result act c).2 = c.put l j := by
  obtain ⟨r, j, hj, -⟩ := h
  exact ⟨j, by rw [hj]⟩

/-- Work that changes the overrides first. -/
theorem Acts.after_override {act : Act (Client σ) Unit} {ok : Bool} {l : Link σ} {o : Overrides}
    (h : Acts act { c with overrides := o } ok l) :
    ∃ j, (result (do override fun _ => ((), o); act) c).2 =
      { c.put l j with overrides := o } := by
  obtain ⟨r, j, hj, -⟩ := h
  have hover : result (override fun _ => ((), o)) c = (.ok (), { c with overrides := o }) := rfl
  refine ⟨j, ?_⟩
  rw [Act.result_bind_ok hover, hj]
  rfl

end

variable [Transactional σ] {c : Client σ}

theorem after_batch (hopen : c.wire.isOpen) (sql : String) :
    ∃ j, c.after (.batch sql) = c.put (c.link.move c.overrides (c.move (.batch sql))) j := by
  have hacts := acts_batch hopen sql
  rw [show c.move (.batch sql) = (c.left sql 0).elim .rest .batch from rfl]
  cases hleft : c.left sql 0 with
  | none =>
    rw [hleft] at hacts
    exact hacts.after
  | some x =>
    rw [hleft] at hacts
    exact hacts.after

theorem after_prepared {α : Type} (hopen : c.wire.isOpen) (sql : String) (params : List String)
    (value : Answer → α) (outcome : α → Hook.Outcome) :
    ∃ j, (result (do let _ ← prepared sql params value outcome) c).2 =
      c.put (c.link.move c.overrides (c.move (.query sql params))) j := by
  have hacts := acts_prepared hopen sql params value outcome
  rw [show c.move (.query sql params) =
    (c.left sql params.length).elim .rest (.prepared · params) from rfl]
  cases hleft : c.left sql params.length with
  | none =>
    rw [hleft] at hacts
    exact hacts.discard.after
  | some x =>
    rw [hleft] at hacts
    exact hacts.discard.after

theorem after_ignore (registry : Registry) (uris : List String) :
    ∃ o, c.after (.ignore registry uris) =
        { c.put (c.link.move c.overrides (c.move (.ignore registry uris))) c.journal with
          overrides := o } ∧ (c.overrides.Registered → o.Registered) := by
  show ∃ o, (result (do let _ ← ignore registry uris) c).2 = _ ∧ _
  rw [show c.move (.ignore registry uris) =
    if (registry.ignorable uris).toBool then .openIgnore else .rest from rfl]
  have hlift := Act.result_lift (registry.ignorable uris) c
  cases hids : registry.ignorable uris with
  | error e =>
    rw [hids] at hlift
    have hignore : result (ignore registry uris) c = (.error e, c) := by
      unfold ignore
      rw [hids]
      exact Act.result_bind_error hlift _
    rw [Act.result_bind_error hignore]
    exact ⟨c.overrides, rfl, id⟩
  | ok ids =>
    rw [hids] at hlift
    have hignore : result (ignore registry uris) c = result (ignoring ids) c := by
      unfold ignore
      rw [hids]
      exact Act.result_bind_ok hlift _
    rw [result_bind, hignore]
    exact ⟨(c.overrides.addIgnored ids).2, rfl,
      fun h => h.addIgnored (Registry.registered_of_ignorable hids)⟩

theorem after_search (hopen : c.wire.isOpen) (schemas : List String) :
    ∃ j o, c.after (.search schemas) =
        { c.put (c.link.move c.overrides (c.move (.search schemas))) j with overrides := o } ∧
      (c.overrides.Registered → o.Registered) := by
  show ∃ j o, (result (do let _ ← searching schemas) c).2 = _ ∧ _
  rw [show c.move (.search schemas) =
    if (schemas.mapM schemaName : Except Error _).toBool then .openPath else .rest from rfl]
  have hlift := Act.result_lift (schemas.mapM schemaName : Except Error _) c
  cases hnames : (schemas.mapM schemaName : Except Error _) with
  | error e =>
    rw [hnames] at hlift
    have hsearching : result (searching schemas) c = (.error e, c) := by
      unfold searching
      rw [hnames]
      exact Act.result_bind_error hlift _
    rw [Act.result_bind_error hsearching]
    exact ⟨c.journal, c.overrides, rfl, id⟩
  | ok names =>
    rw [hnames] at hlift
    obtain ⟨r, j, hj, -⟩ := acts_openPath hopen
    refine ⟨j, ?_⟩
    cases r with
    | error e =>
      have hsearching : result (searching schemas) c = (.error e, c.put c.link.openPath.2 j) := by
        unfold searching
        rw [hnames]
        exact (Act.result_bind_ok hlift _).trans (Act.result_bind_error hj _)
      rw [Act.result_bind_error hsearching]
      exact ⟨c.overrides, rfl, id⟩
    | ok u =>
      have hsearching : result (searching schemas) c =
          (.ok ⟨(c.overrides.addSchemas names).1⟩, { c.put c.link.openPath.2 j with
            overrides := (c.overrides.addSchemas names).2 }) := by
        unfold searching
        rw [hnames]
        exact (Act.result_bind_ok hlift _).trans (Act.result_bind_ok hj _)
      rw [Act.result_bind_ok hsearching]
      exact ⟨(c.overrides.addSchemas names).2, rfl,
        fun h => h.of_ignored_eq (Overrides.ignored_addSchemas _ _)⟩

/-- A call takes the link where its move takes it, and leaves registered overrides registered. -/
theorem after_eq (hopen : c.wire.isOpen) (call : Call) :
    ∃ j o, c.after call =
        { c.put (c.link.move c.overrides (c.move call)) j with overrides := o } ∧
      (c.overrides.Registered → o.Registered) := by
  cases call with
  | batch sql =>
    obtain ⟨j, hj⟩ := after_batch hopen sql
    exact ⟨j, c.overrides, hj, id⟩
  | query sql params =>
    obtain ⟨j, hj⟩ := after_prepared hopen sql params Answer.rows fun rows => .rows rows.length
    exact ⟨j, c.overrides, hj, id⟩
  | execute sql params =>
    obtain ⟨j, hj⟩ := after_prepared hopen sql params Answer.affected .affected
    exact ⟨j, c.overrides, hj, id⟩
  | ignore registry uris => exact ⟨c.journal, after_ignore registry uris⟩
  | releaseIgnore scope =>
    obtain ⟨j, hj⟩ := (acts_closeIgnore (c := { c with
      overrides := c.overrides.removeIgnored scope.added }) hopen).after_override
    exact ⟨j, _, hj, fun h => h.removeIgnored _⟩
  | dropIgnore scope =>
    refine ⟨c.journal, _, ?_, fun h => h.removeIgnored scope.added⟩
    rw [show c.move (.dropIgnore scope) = .closeIgnore true from rfl, move_closeIgnore]
    rfl
  | search schemas => exact after_search hopen schemas
  | releaseSchema scope =>
    obtain ⟨j, hj⟩ := (acts_closePath (c := { c with
      overrides := c.overrides.removeSchemas scope.added }) hopen).after_override
    exact ⟨j, _, hj, fun h => h.of_ignored_eq rfl⟩
  | dropSchema scope =>
    refine ⟨c.journal, c.overrides.removeSchemas scope.added, ?_, fun h => h.of_ignored_eq rfl⟩
    rw [show c.move (.dropSchema scope) = .closePath true from rfl, move_closePath]
    rfl
  | joinIgnore => exact ⟨c.journal, c.overrides, rfl, id⟩
  | leaveIgnore queueOnly =>
    cases queueOnly with
    | false =>
      obtain ⟨j, hj⟩ := (acts_closeIgnore hopen).after
      exact ⟨j, c.overrides, hj, id⟩
    | true =>
      refine ⟨c.journal, c.overrides, ?_, id⟩
      rw [show c.move (.leaveIgnore true) = .closeIgnore true from rfl, move_closeIgnore]
      rfl
  | joinPath =>
    obtain ⟨j, hj⟩ := (acts_openPath hopen).after
    exact ⟨j, c.overrides, hj, id⟩
  | leavePath queueOnly =>
    cases queueOnly with
    | false =>
      obtain ⟨j, hj⟩ := (acts_closePath hopen).after
      exact ⟨j, c.overrides, hj, id⟩
    | true =>
      refine ⟨c.journal, c.overrides, ?_, id⟩
      rw [show c.move (.leavePath true) = .closePath true from rfl, move_closePath]
      rfl
  | elsewhere change =>
    refine ⟨c.journal, change.apply c.overrides, rfl, fun h => ?_⟩
    cases change with
    | ignore registry uris =>
      show Overrides.Registered (match registry.ignorable uris with
        | .ok ids => (c.overrides.addIgnored ids).2
        | .error _ => c.overrides)
      split
      next ids hids => exact h.addIgnored (Registry.registered_of_ignorable hids)
      next => exact h
    | ignoreNoLonger ids => exact h.removeIgnored ids
    | search schemas => exact h.of_ignored_eq (Overrides.ignored_addSchemas _ _)
    | searchNoLonger schemas => exact h.of_ignored_eq rfl

end Client

end DeclaredTriggers
