import DeclaredTriggers.Proofs.Keyed
import DeclaredTriggers.Proofs.Session.Groups
import Mathlib.Data.List.Basic
import Mathlib.Tactic.Tauto

/-!
# Scopes inside scopes

Clients of one worker share their overrides, and their scopes ask for triggers and schemas that other open
scopes may have asked for already. A scope remembers only what was missing when it was entered, and takes
no more than that away when it is closed. This file says that this is exact as long as scopes are closed in
the reverse order of their entering, whoever enters them, and however they are closed.

The invariant is `Coherent`: read from the oldest open scope to the newest, each was entered in the overrides
that those before it had left. Entering a scope puts one more on top, and closing the newest leaves the
overrides it was entered in, because what is taken away is just what was added:

> `remove_add`: `(o.add x ids).2.remove x (o.add x ids).1 = o`.

Statements and sessions in between leave the overrides alone (`overrides_after_of_spares`), so what a step
keeps, a run keeps (`coherent_run`), and everything that is said about the open scopes is read off the stack
by induction.
-/

namespace DeclaredTriggers

open Act (result)

/-! ## What is overridden -/

namespace Overrides

/-- The names that a variable is overridden with. -/
def names (o : Overrides) : Variable → List String
  | .ignore => o.ignored.keys
  | .path => o.schemas

/-- The overrides with names added, behind those of them that were missing. -/
def add (o : Overrides) : Variable → List String → List String × Overrides
  | .ignore, ids => o.addIgnored ids
  | .path, schemas => o.addSchemas schemas

/-- The overrides without some names. -/
def remove (o : Overrides) : Variable → List String → Overrides
  | .ignore, ids => o.removeIgnored ids
  | .path, schemas => o.removeSchemas schemas

theorem addIgnored_cons (o : Overrides) (id : String) (ids : List String) :
    o.addIgnored (id :: ids) =
      if o.ignored.contains id then o.addIgnored ids
      else (id :: (addIgnored { o with ignored := o.ignored.add id } ids).1,
        (addIgnored { o with ignored := o.ignored.add id } ids).2) := rfl

theorem addSchemas_cons (o : Overrides) (s : String) (rest : List String) :
    o.addSchemas (s :: rest) =
      if o.schemas.contains s then o.addSchemas rest
      else (s :: (addSchemas { o with schemas := o.schemas ++ [s] } rest).1,
        (addSchemas { o with schemas := o.schemas ++ [s] } rest).2) := rfl

/-- What is added is what was asked for and was missing, each once, in the order of the asking. -/
theorem add_fst (o : Overrides) (x : Variable) (ids : List String) :
    (o.add x ids).1 = (ids.filter (· ∉ o.names x)).eraseDups := by
  -- once one is added, it is missing no longer
  have hcons : ∀ (id : String) (ids present present' : List String), id ∉ present →
      (∀ a, a ∈ present' ↔ a = id ∨ a ∈ present) →
      ((id :: ids).filter (· ∉ present)).eraseDups =
        id :: (ids.filter (· ∉ present')).eraseDups := by
    intro id ids present present' hid hpresent
    rw [List.filter_cons_of_pos (by simpa using hid), List.eraseDups_cons, List.filter_filter]
    congr 2
    refine List.filter_congr fun a _ => ?_
    by_cases ha : a = id <;> simp [ha, hpresent]
  cases x with
  | ignore =>
    show (o.addIgnored ids).1 = (ids.filter (· ∉ o.ignored.keys)).eraseDups
    induction ids generalizing o with
    | nil => rfl
    | cons id ids ih =>
      rw [addIgnored_cons]
      by_cases hid : id ∈ o.ignored.keys
      · rw [if_pos (Keyed.contains_iff.2 hid), ih, List.filter_cons_of_neg (by simpa using hid)]
      · rw [if_neg fun h => hid (Keyed.contains_iff.1 h), ih]
        exact (hcons id ids _ _ hid fun a => Keyed.mem_keys_insert).symm
  | path =>
    show (o.addSchemas ids).1 = (ids.filter (· ∉ o.schemas)).eraseDups
    induction ids generalizing o with
    | nil => rfl
    | cons id ids ih =>
      rw [addSchemas_cons]
      by_cases hid : id ∈ o.schemas
      · rw [if_pos (List.contains_iff_mem.2 hid), ih, List.filter_cons_of_neg (by simpa using hid)]
      · rw [if_neg fun h => hid (List.contains_iff_mem.1 h), ih]
        refine (hcons id ids _ _ hid fun a => ?_).symm
        simp [or_comm]

theorem mem_added {o : Overrides} {x : Variable} {ids : List String} {id : String} :
    id ∈ (o.add x ids).1 ↔ id ∈ ids ∧ id ∉ o.names x := by
  rw [add_fst, List.mem_eraseDups, List.mem_filter, decide_eq_true_eq]

/-- Schemas are added behind those that are searched already. -/
theorem schemas_add (o : Overrides) (schemas : List String) :
    (o.add .path schemas).2.schemas = o.schemas ++ (o.add .path schemas).1 := by
  show (o.addSchemas schemas).2.schemas = o.schemas ++ (o.addSchemas schemas).1
  induction schemas generalizing o with
  | nil => exact (List.append_nil _).symm
  | cons s rest ih =>
    rw [addSchemas_cons]
    split
    next => exact ih o
    next =>
      rw [ih]
      exact List.append_assoc _ _ _

theorem ignored_add (o : Overrides) (ids : List String) (id : String) :
    id ∈ (o.add .ignore ids).2.ignored.keys ↔
      id ∈ o.ignored.keys ∨ id ∈ (o.add .ignore ids).1 := by
  show id ∈ (o.addIgnored ids).2.ignored.keys ↔ id ∈ o.ignored.keys ∨ id ∈ (o.addIgnored ids).1
  induction ids generalizing o with
  | nil => exact (or_iff_left (List.not_mem_nil)).symm
  | cons first ids ih =>
    rw [addIgnored_cons]
    split
    next => exact ih o
    next =>
      rw [ih, List.mem_cons, ← or_assoc]
      exact or_congr_left (Keyed.mem_keys_insert.trans or_comm)

/-- Names that are added are there along with those that were. -/
theorem mem_names_add {o : Overrides} {x : Variable} {ids : List String} {id : String} :
    id ∈ (o.add x ids).2.names x ↔ id ∈ o.names x ∨ id ∈ (o.add x ids).1 := by
  cases x with
  | ignore => exact o.ignored_add ids id
  | path =>
    show id ∈ (o.add .path ids).2.schemas ↔ _
    rw [schemas_add, List.mem_append]
    rfl

theorem schemas_addIgnored (o : Overrides) (ids : List String) :
    (o.addIgnored ids).2.schemas = o.schemas := by
  induction ids generalizing o with
  | nil => rfl
  | cons id ids ih =>
    rw [addIgnored_cons]
    split
    next => exact ih o
    next => exact ih _

theorem names_empty (x : Variable) : names {} x = [] := by cases x <;> rfl

/-- What is added to one variable is not added to the other. -/
theorem names_add_of_ne (o : Overrides) {x y : Variable} (h : y ≠ x) (ids : List String) :
    (o.add y ids).2.names x = o.names x := by
  cases x <;> cases y
  · exact absurd rfl h
  · exact congrArg Keyed.keys (o.ignored_addSchemas ids)
  · exact o.schemas_addIgnored ids
  · exact absurd rfl h

/-- Taking away what was added leaves what was there before. -/
theorem remove_add (o : Overrides) (x : Variable) (ids : List String) :
    (o.add x ids).2.remove x (o.add x ids).1 = o := by
  cases x with
  | ignore =>
    have hignored : ((o.addIgnored ids).2.removeIgnored (o.addIgnored ids).1).ignored =
        o.ignored := by
      refine Names.ext_keys fun id => ?_
      show id ∈ ((o.addIgnored ids).1.foldl Keyed.erase (o.addIgnored ids).2.ignored).keys ↔ _
      have hadded : id ∈ (o.addIgnored ids).1 → id ∉ o.ignored.keys :=
        fun h => (mem_added (x := .ignore).1 h).2
      rw [Keyed.mem_keys_eraseAll, show id ∈ (o.addIgnored ids).2.ignored.keys ↔ _ from
        o.ignored_add ids id]
      constructor
      · rintro ⟨hnot, h | h⟩
        · exact h
        · exact absurd h hnot
      · exact fun h => ⟨fun ha => hadded ha h, .inl h⟩
    show (o.addIgnored ids).2.removeIgnored (o.addIgnored ids).1 = o
    generalize hremoved : (o.addIgnored ids).2.removeIgnored (o.addIgnored ids).1 = removed
      at hignored
    have hschemas : removed.schemas = o.schemas := by
      rw [← hremoved]
      exact o.schemas_addIgnored ids
    cases removed
    cases o
    simp_all
  | path =>
    have hschemas : ((o.addSchemas ids).2.removeSchemas (o.addSchemas ids).1).schemas =
        o.schemas := by
      show (o.add .path ids).2.schemas.filter (!(o.add .path ids).1.contains ·) = o.schemas
      rw [schemas_add, List.filter_append, List.filter_eq_self.2, List.filter_eq_nil_iff.2,
        List.append_nil]
      · intro a ha
        simp [ha]
      · intro a ha
        have hnot : a ∉ (o.add .path ids).1 := fun h => (mem_added.1 h).2 ha
        simp [hnot]
    show (o.addSchemas ids).2.removeSchemas (o.addSchemas ids).1 = o
    generalize hremoved : (o.addSchemas ids).2.removeSchemas (o.addSchemas ids).1 = removed
      at hschemas
    have hignored : removed.ignored = o.ignored := by
      rw [← hremoved]
      exact o.ignored_addSchemas ids
    cases removed
    cases o
    simp_all

end Overrides

/-! ## Scopes of one client -/

/-- A call that enters no scope and closes none. -/
def Call.Spares : Call → Prop
  | .batch _ | .query .. | .execute .. | .joinIgnore | .leaveIgnore _ | .joinPath | .leavePath _ => True
  | .ignore .. | .releaseIgnore _ | .dropIgnore _ | .search _ | .releaseSchema _ | .dropSchema _
  | .elsewhere _ => False

namespace Client

variable {σ : Type} [Server σ]

/-- Enters a scope and gives the names that it added. -/
def enter : Variable → List String → Act (Client σ) (List String)
  | .ignore, ids => do pure (← ignoring ids).added
  | .path, schemas => do pure (← searching schemas).added

/-- Closes a scope that added some names. -/
def close : Variable → (byDrop : Bool) → List String → Act (Client σ) Unit
  | .ignore, false, added => IgnoreScope.release ⟨added⟩
  | .ignore, true, added => IgnoreScope.drop ⟨added⟩
  | .path, false, added => SchemaScope.release ⟨added⟩
  | .path, true, added => SchemaScope.drop ⟨added⟩

/-- The names that a scope asks for: schemas are asked for as the database understands them. -/
def asked : Variable → List String → List String
  | .ignore, ids => ids
  | .path, schemas => (schemas.mapM schemaName : Except Error _).toOption.getD []

/-- A scope on the search path adds the schemas that its names stand for, unless a name is none or the
search path cannot be asked for. -/
theorem searching_cases (c : Client σ) (names : List String) :
    (∃ e c', result (searching names) c = (.error e, c') ∧ c'.overrides = c.overrides) ∨
      ∃ schemas c', (names.mapM schemaName : Except Error _) = .ok schemas ∧
        result (searching names) c = (.ok ⟨(c.overrides.addSchemas schemas).1⟩, c') ∧
        c'.overrides = (c.overrides.addSchemas schemas).2 := by
  have hlift := Act.result_lift (names.mapM schemaName : Except Error _) c
  unfold searching
  cases hnames : (names.mapM schemaName : Except Error _) with
  | error e =>
    rw [hnames] at hlift
    exact .inl ⟨e, c, Act.result_bind_error hlift _, rfl⟩
  | ok schemas =>
    rw [hnames] at hlift
    obtain ⟨_, _, _, -, r, c', hopen, -, -, -, ho, -⟩ := leads_openPath c
    cases r with
    | error e =>
      exact .inl ⟨e, c', (Act.result_bind_ok hlift _).trans (Act.result_bind_error hopen _), ho⟩
    | ok u =>
      refine .inr ⟨schemas, { c' with overrides := (c'.overrides.addSchemas schemas).2 }, rfl, ?_,
        congrArg (fun o : Overrides => (o.addSchemas schemas).2) ho⟩
      rw [← ho]
      exact (Act.result_bind_ok hlift _).trans (Act.result_bind_ok hopen _)

/-- A scope that is entered adds what it asks for; one that cannot be entered adds nothing. -/
theorem enter_cases (c : Client σ) (x : Variable) (names : List String) :
    (∃ e c', result (enter x names) c = (.error e, c') ∧ c'.overrides = c.overrides) ∨
      ∃ c', result (enter x names) c = (.ok (c.overrides.add x (asked x names)).1, c') ∧
        c'.overrides = (c.overrides.add x (asked x names)).2 := by
  cases x with
  | ignore =>
    exact .inr ⟨{ c with session := { c.session with ignore := c.session.ignore.opened }
                         overrides := (c.overrides.addIgnored names).2 }, rfl, rfl⟩
  | path =>
    rcases searching_cases c names with ⟨e, c', hresult, ho⟩ | ⟨schemas, c', hnames, hresult, ho⟩
    · exact .inl ⟨e, c', Act.result_bind_error hresult _, ho⟩
    · have hasked : asked .path names = schemas := by
        simp only [asked, hnames]
        rfl
      rw [hasked]
      exact .inr ⟨c', Act.result_bind_ok hresult _, ho⟩

/-- However a scope is closed, and whether its undoing is done or not, what it added is taken away. -/
theorem overrides_close (c : Client σ) (x : Variable) (byDrop : Bool) (added : List String) :
    (result (close x byDrop added) c).2.overrides = c.overrides.remove x added := by
  have hover : ∀ o : Overrides,
      result (override fun _ => ((), o)) c = (.ok (), { c with overrides := o }) := fun _ => rfl
  cases x <;> cases byDrop
  · obtain ⟨_, _, _, -, r, c', hclose, -, -, -, ho, -⟩ :=
      leads_closeIgnore { c with overrides := c.overrides.removeIgnored added }
    show (result (do override fun o => ((), o.removeIgnored added); closeIgnore) c).2.overrides = _
    rw [Act.result_bind_ok (show result (override fun o => ((), o.removeIgnored added)) c = _ from
      hover (c.overrides.removeIgnored added)), hclose]
    exact ho
  · rfl
  · obtain ⟨_, _, _, -, r, c', hclose, -, -, -, ho, -⟩ :=
      leads_closePath { c with overrides := c.overrides.removeSchemas added }
    show (result (do override fun o => ((), o.removeSchemas added); closePath) c).2.overrides = _
    rw [Act.result_bind_ok (show result (override fun o => ((), o.removeSchemas added)) c = _ from
      hover (c.overrides.removeSchemas added)), hclose]
    exact ho
  · rfl

/-- Statements and sessions leave the overrides alone. -/
theorem overrides_after_of_spares (c : Client σ) {call : Call} (h : call.Spares) :
    (c.after call).overrides = c.overrides := by
  have hleads : ∀ {act : Act (Client σ) Unit} {reqs : List Request} {ok : Bool} {s : Session},
      Leads act c reqs ok s → (result act c).2.overrides = c.overrides := by
    rintro act reqs ok s ⟨r, c', hresult, -, -, -, ho, -⟩
    rw [hresult]
    exact ho
  cases call with
  | batch sql =>
    obtain ⟨_, _, _, -, hl⟩ := leads_batch sql c
    exact hleads hl
  | query sql params =>
    obtain ⟨_, _, _, -, hl⟩ := leads_prepared sql params Answer.rows (fun rows => .rows rows.length) c
    exact hleads hl.forget
  | execute sql params =>
    obtain ⟨_, _, _, -, hl⟩ := leads_prepared sql params Answer.affected .affected c
    exact hleads hl.forget
  | joinIgnore => rfl
  | joinPath =>
    obtain ⟨_, _, _, -, hl⟩ := leads_openPath c
    exact hleads hl
  | leaveIgnore queueOnly =>
    cases queueOnly with
    | true => rfl
    | false =>
      obtain ⟨_, _, _, -, hl⟩ := leads_closeIgnore c
      exact hleads hl
  | leavePath queueOnly =>
    cases queueOnly with
    | true => rfl
    | false =>
      obtain ⟨_, _, _, -, hl⟩ := leads_closePath c
      exact hleads hl
  | ignore | releaseIgnore | dropIgnore | search | releaseSchema | dropSchema | elsewhere => cases h

end Client

/-! ## Scopes of several clients -/

/-- A scope that is open on one of several clients. -/
structure OpenScope (n : Nat) where
  client : Fin n
  about : Variable
  /-- The names that it asked for. -/
  asked : List String
  /-- The names that it added. -/
  added : List String
  /-- The overrides that it was entered in. -/
  before : Overrides

/-- Clients of one worker, and the scopes that are open on them, the newest first. -/
structure Nest (σ : Type) (n : Nat) where
  group : Group σ (n + 1)
  shared : ∀ i : Fin (n + 1), group.worker[i] = 0
  opened : List (OpenScope (n + 1)) := []

namespace Nest

variable {σ : Type} {n : Nat}

/-- The overrides that the clients share. -/
def overrides (s : Nest σ n) : Overrides := s.group.overrides[(0 : Fin (n + 1))]

/-- The open scopes on a variable, the newest first. -/
def openedOn (s : Nest σ n) (x : Variable) : List (OpenScope (n + 1)) :=
  s.opened.filter (·.about = x)

/-- Clients that share overrides in which nothing is overridden yet. -/
def start (seats : Vector (Seat σ) (n + 1)) (journal : Journal := {}) : Nest σ n where
  group := { seats, worker := .replicate _ 0, journal }
  shared i := by simp

/-- What can happen to the clients: a scope is entered on one of them, the newest scope is closed, or a
client is asked for something else. -/
inductive Step (n : Nat) where
  | enter (client : Fin (n + 1)) (about : Variable) (names : List String)
  | close (byDrop : Bool)
  | other (client : Fin (n + 1)) (call : Call) (spares : call.Spares)

/-- Work on one of the clients. -/
def on {α : Type} (s : Nest σ n) (i : Fin (n + 1)) (act : Act (Client σ) α) :
    Except Error α × Nest σ n :=
  ((result (Group.on i act) s.group).1,
    { s with group := (result (Group.on i act) s.group).2, shared := s.shared })

section

variable [Server σ]

/-- The clients after a scope was entered on one of them, if it can be. -/
def enter (s : Nest σ n) (i : Fin (n + 1)) (x : Variable) (names : List String) : Nest σ n :=
  match s.on i (Client.enter x names) with
  | (.ok added, s') =>
    { s' with opened := ⟨i, x, Client.asked x names, added, s.overrides⟩ :: s'.opened }
  | (.error _, s') => s'

/-- The clients after the newest scope was closed, if one is open. -/
def close (s : Nest σ n) (byDrop : Bool) : Nest σ n :=
  match s.opened with
  | [] => s
  | scope :: older =>
    { (s.on scope.client (Client.close scope.about byDrop scope.added)).2 with opened := older }

/-- What a step leaves. -/
def after (s : Nest σ n) : Step n → Nest σ n
  | .enter i x names => s.enter i x names
  | .close byDrop => s.close byDrop
  | .other i call _ => (s.on i call.act).2

/-- What some steps leave. -/
def run (s : Nest σ n) (steps : List (Step n)) : Nest σ n := steps.foldl after s

end

/-- `Coherent opened o`: each scope was entered in the overrides that those before it had left, and the
newest left `o`. -/
inductive Coherent {n : Nat} : List (OpenScope n) → Overrides → Prop
  | none : Coherent [] {}
  | entered {older : List (OpenScope n)} (scope : OpenScope n) : Coherent older scope.before →
      scope.added = (scope.before.add scope.about scope.asked).1 →
      Coherent (scope :: older) (scope.before.add scope.about scope.asked).2

/-! ### Steps keep the scopes coherent -/

theorem overrides_client (s : Nest σ n) (i : Fin (n + 1)) :
    (s.group.client i).overrides = s.overrides := by
  have hshared := s.shared i
  unfold Group.client overrides
  simp only [hshared]

/-- Work on a client changes the overrides as it does for that client. -/
theorem overrides_on {α : Type} (s : Nest σ n) (i : Fin (n + 1)) (act : Act (Client σ) α) :
    (s.on i act).2.overrides = (result act (s.group.client i)).2.overrides := by
  have hshared := s.shared i
  show (s.group.withClient i (result act (s.group.client i)).2).overrides[_] = _
  unfold Group.withClient
  simp only [hshared]
  exact Vector.getElem_set_self _

variable [Server σ]

theorem coherent_enter {s : Nest σ n} (h : Coherent s.opened s.overrides) (i : Fin (n + 1))
    (x : Variable) (names : List String) :
    Coherent (s.enter i x names).opened (s.enter i x names).overrides := by
  have hover := s.overrides_on i (Client.enter x names)
  have hresult : (s.on i (Client.enter x names)).1 =
      (result (Client.enter x names) (s.group.client i)).1 := rfl
  have hopened : (s.on i (Client.enter x names)).2.opened = s.opened := rfl
  unfold enter
  generalize s.on i (Client.enter x names) = came at hover hresult hopened
  obtain ⟨r, s'⟩ := came
  rcases Client.enter_cases (s.group.client i) x names with ⟨e, c', hc, ho⟩ | ⟨c', hc, ho⟩ <;>
    rw [hc] at hover hresult <;> rw [overrides_client] at ho <;> simp only at hover hresult hopened <;>
    subst hresult
  · simp only [hover, ho, hopened]
    exact h
  · show Coherent (_ :: s'.opened) s'.overrides
    rw [hover, ho, hopened]
    simp only [overrides_client]
    exact .entered _ h rfl

theorem coherent_close {s : Nest σ n} (h : Coherent s.opened s.overrides) (byDrop : Bool) :
    Coherent (s.close byDrop).opened (s.close byDrop).overrides ∧
      ∀ scope older, s.opened = scope :: older → (s.close byDrop).overrides = scope.before := by
  unfold close
  split
  next hopened =>
    refine ⟨h, fun scope older heq => ?_⟩
    rw [hopened] at heq
    cases heq
  next scope older hopened =>
    have hbefore : (s.on scope.client (Client.close scope.about byDrop scope.added)).2.overrides =
        scope.before ∧ Coherent older scope.before := by
      rw [hopened] at h
      rw [overrides_on, Client.overrides_close, overrides_client]
      generalize s.overrides = o at h
      cases h with
      | entered _ holder hadded =>
        rw [hadded, Overrides.remove_add]
        exact ⟨rfl, holder⟩
    refine ⟨?_, fun _ _ heq => ?_⟩
    · show Coherent older
        (s.on scope.client (Client.close scope.about byDrop scope.added)).2.overrides
      rw [hbefore.1]
      exact hbefore.2
    · rw [hopened] at heq
      cases heq
      exact hbefore.1

theorem coherent_after {s : Nest σ n} (h : Coherent s.opened s.overrides) (step : Step n) :
    Coherent (s.after step).opened (s.after step).overrides := by
  cases step with
  | enter i x names => exact coherent_enter h i x names
  | close byDrop => exact (coherent_close h byDrop).1
  | other i call spares =>
    show Coherent s.opened (s.on i call.act).2.overrides
    rw [overrides_on, show (result call.act (s.group.client i)).2 = (s.group.client i).after call
      from rfl, Client.overrides_after_of_spares _ spares, overrides_client]
    exact h

theorem coherent_run {s : Nest σ n} (h : Coherent s.opened s.overrides) (steps : List (Step n)) :
    Coherent (s.run steps).opened (s.run steps).overrides := by
  induction steps generalizing s with
  | nil => exact h
  | cons step rest ih => exact ih (coherent_after h step)

/-- What a run leaves, from clients in whose overrides nothing is overridden yet. -/
theorem coherent_run_start (seats : Vector (Seat σ) (n + 1)) (journal : Journal)
    (steps : List (Step n)) :
    Coherent ((start seats journal).run steps).opened ((start seats journal).run steps).overrides := by
  refine coherent_run ?_ steps
  have hnothing : (start seats journal).overrides = {} := by
    show (Vector.replicate (n + 1) ({} : Overrides))[(0 : Fin (n + 1))] = {}
    exact Vector.getElem_replicate _
  rw [hnothing]
  exact .none

/-! ### What the open scopes say about the overrides -/

section

omit [Server σ]

variable {opened : List (OpenScope n)} {o : Overrides}

/-- What is overridden is what the open scopes have added. -/
theorem Coherent.mem_names (h : Coherent opened o) (x : Variable) (id : String) :
    id ∈ o.names x ↔ ∃ scope ∈ opened.filter (·.about = x), id ∈ scope.added := by
  induction h with
  | none => cases x <;> simp [Overrides.names_empty]
  | @entered older scope _ hadded ih =>
    by_cases hx : scope.about = x
    · subst hx
      rw [Overrides.mem_names_add, ih, List.filter_cons_of_pos (by simp), ← hadded]
      simp [or_comm]
    · rw [Overrides.names_add_of_ne _ hx, ih, List.filter_cons_of_neg (by simpa using hx)]

/-- What is overridden is what the open scopes have asked for. -/
theorem Coherent.mem_names_asked (h : Coherent opened o) (x : Variable) (id : String) :
    id ∈ o.names x ↔ ∃ scope ∈ opened.filter (·.about = x), id ∈ scope.asked := by
  induction h with
  | none => cases x <;> simp [Overrides.names_empty]
  | @entered older scope _ hadded ih =>
    by_cases hx : scope.about = x
    · subst hx
      rw [Overrides.mem_names_add, Overrides.mem_added, List.filter_cons_of_pos (by simp)]
      simp only [List.mem_cons, exists_eq_or_imp, ← ih]
      -- asked for and missing, or there before: the same as asked for, or there before
      tauto
    · rw [Overrides.names_add_of_ne _ hx, ih, List.filter_cons_of_neg (by simpa using hx)]

/-- No name is added by two open scopes. -/
theorem Coherent.disjoint (h : Coherent opened o) (x : Variable) :
    (opened.filter (·.about = x)).Pairwise fun a b => a.added.Disjoint b.added := by
  induction h with
  | none => exact .nil
  | @entered older scope holder hadded ih =>
    by_cases hx : scope.about = x
    · subst hx
      rw [List.filter_cons_of_pos (by simp)]
      refine .cons (fun earlier hearlier id hid hid' => ?_) ih
      rw [hadded] at hid
      exact (Overrides.mem_added.1 hid).2 ((holder.mem_names _ _).2 ⟨earlier, hearlier, hid'⟩)
    · rw [List.filter_cons_of_neg (by simpa using hx)]
      exact ih

/-- The schemas are searched in the order in which they were first asked for. -/
theorem Coherent.schemas (h : Coherent opened o) :
    o.schemas = ((opened.filter (·.about = .path)).reverse.flatMap (·.asked)).eraseDups := by
  induction h with
  | none => rfl
  | @entered older scope _ hadded ih =>
    by_cases hx : scope.about = .path
    · rw [List.filter_cons_of_pos (by simpa using hx), hx, Overrides.schemas_add,
        Overrides.add_fst, List.reverse_cons, List.flatMap_append, List.eraseDups_append, ← ih]
      congr 2
      show _ = (List.flatMap _ [scope]).filter _
      rw [List.flatMap_singleton]
      refine List.filter_congr fun id _ => ?_
      rw [show scope.before.names .path = scope.before.schemas from rfl, ih]
      simp only [List.mem_eraseDups, List.elem_eq_mem, decide_not]
    · rw [List.filter_cons_of_neg (by simpa using hx), ← ih]
      exact Overrides.names_add_of_ne _ hx scope.asked

end

/-- A scope that is entered remembers the overrides that it was entered in. -/
theorem before_of_enter {s : Nest σ n} {i : Fin (n + 1)} {x : Variable} {names : List String}
    {scope : OpenScope (n + 1)} (h : (s.enter i x names).opened = scope :: s.opened) :
    scope.before = s.overrides := by
  unfold enter at h
  split at h
  next hon =>
    obtain ⟨-, rfl⟩ := Prod.mk.inj hon
    exact (congrArg OpenScope.before (List.cons.inj h).1).symm
  next hon =>
    obtain ⟨-, rfl⟩ := Prod.mk.inj hon
    exact absurd h (List.cons_ne_self _ _).symm

/-- Nesting is exact: after any steps, whatever scopes were entered on whichever clients and closed newest
first, the ignored triggers are those that the open scopes ask for, in order; the searched schemas are
those that they ask for, each once and in the order of first request; what the open scopes added makes up
either without overlap; and a scope that is entered now and closed when it is the newest again leaves the
overrides as they are. -/
theorem nesting_exact (seats : Vector (Seat σ) (n + 1)) (journal : Journal) (steps : List (Step n)) :
    let s := (start seats journal).run steps
    (s.overrides.ignored.keys.Pairwise (· < ·) ∧
      ∀ id, id ∈ s.overrides.ignored.keys ↔ ∃ scope ∈ s.openedOn .ignore, id ∈ scope.asked) ∧
    s.overrides.schemas = ((s.openedOn .path).reverse.flatMap (·.asked)).eraseDups ∧
    (∀ x, ((s.openedOn x).Pairwise fun a b => a.added.Disjoint b.added) ∧
      ∀ id, id ∈ s.overrides.names x ↔ ∃ scope ∈ s.openedOn x, id ∈ scope.added) ∧
    ∀ i x names scope between, (s.enter i x names).opened = scope :: s.opened →
      ((s.enter i x names).run between).opened = scope :: s.opened →
      ∀ byDrop, (((s.enter i x names).run between).close byDrop).overrides = s.overrides := by
  intro s
  have h : Coherent s.opened s.overrides := coherent_run_start seats journal steps
  refine ⟨⟨Keyed.pairwise_keys _, h.mem_names_asked .ignore⟩, h.schemas,
    fun x => ⟨h.disjoint x, h.mem_names x⟩, ?_⟩
  intro i x names scope between hentered hback byDrop
  have hbetween := coherent_run (coherent_enter h i x names) between
  rw [(coherent_close hbetween byDrop).2 scope s.opened hback]
  exact before_of_enter hentered

end Nest

end DeclaredTriggers
