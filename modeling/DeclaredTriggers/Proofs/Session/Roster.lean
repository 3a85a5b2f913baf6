import DeclaredTriggers.Proofs.Session.Counts
import Mathlib.Algebra.BigOperators.Group.List.Basic
import Mathlib.Algebra.Ring.Nat
import Mathlib.Data.List.Perm.Basic

/-!
# Who holds sessions open

A client only counts its sessions. Who holds them is known to those who entered them: there are four kinds of
guards (`Guard`), two of them on one client and two on a row of clients, in which one can stand more than once. A
guard is closed by its owner, at some time and in whichever order, or it is never closed. A `Roster` is a group
together with its live guards, and a step of it enters one, closes one or asks a client for a statement.

> `Roster.sessions_exact`: after any steps, whatever fails in them, each client counts exactly the guards that
> hold it, no closing ever finds nothing open, and the search path to go back to is known wherever it may be
> asked for.

A step is a row of calls on single clients (`group_after`), so the counts of a group along its runs are all that is
needed, and what is new here is the sum over the guards.
-/

namespace DeclaredTriggers

open Act (result)

/-! ## Guards -/

/-- What holds sessions open: a scope on one client, or a session on several. -/
inductive Guard (n : Nat) where
  | ignoring (client : Fin n) (scope : IgnoreScope)
  | searching (client : Fin n) (scope : SchemaScope)
  | ignoreSession (session : IgnoreSession n)
  | schemaSession (session : SchemaSession n)

namespace Guard

variable {σ : Type} {n : Nat}

/-- The variable that a guard holds sessions on. -/
def about : Guard n → Variable
  | .ignoring .. | .ignoreSession _ => .ignore
  | .searching .. | .schemaSession _ => .path

/-- The clients that it holds sessions on, each as often as it does. -/
def clients : Guard n → List (Fin n)
  | .ignoring i _ | .searching i _ => [i]
  | .ignoreSession session => session.clients
  | .schemaSession session => session.clients

/-- How many sessions a guard holds on a client. -/
def holds (guard : Guard n) (x : Variable) (i : Fin n) : Nat :=
  if guard.about = x then guard.clients.count i else 0

/-- What closing a guard asks of each of its clients. -/
def call (byDrop : Bool) : Guard n → Call
  | .ignoring _ scope => if byDrop then .dropIgnore scope else .releaseIgnore scope
  | .searching _ scope => if byDrop then .dropSchema scope else .releaseSchema scope
  | .ignoreSession _ => .leaveIgnore byDrop
  | .schemaSession _ => .leavePath byDrop

theorem opens?_call (guard : Guard n) (byDrop : Bool) :
    (guard.call byDrop).opens? = none ∧ (guard.call byDrop).closes? = some guard.about := by
  cases guard <;> cases byDrop <;> exact ⟨rfl, rfl⟩

/-- Closes a guard: it is released, or dropped. -/
def close [Server σ] (byDrop : Bool) : Guard n → Act (Group σ n) Unit
  | .ignoring i scope => Group.on i (if byDrop then scope.drop else scope.release)
  | .searching i scope => Group.on i (if byDrop then scope.drop else scope.release)
  | .ignoreSession session => if byDrop then session.drop else session.release
  | .schemaSession session => if byDrop then session.drop else session.release

theorem run_close [Server σ] (guard : Guard n) (byDrop : Bool) (g : Group σ n) :
    (result (guard.close byDrop) g).2 = g.run (guard.clients.map (·, guard.call byDrop)) := by
  cases guard with
  | ignoring i scope => cases byDrop <;> rfl
  | searching i scope => cases byDrop <;> rfl
  | ignoreSession session =>
    cases byDrop with
    | false => exact Group.run_releaseIgnore session g
    | true => exact congrArg Prod.snd (Group.run_dropIgnore session g)
  | schemaSession session =>
    cases byDrop with
    | false => exact Group.run_releaseSchemas session g
    | true => exact congrArg Prod.snd (Group.run_dropSchemas session g)

end Guard

/-! ## Steps -/

/-- Some clients, and the guards that are live on them. -/
structure Roster (σ : Type) (n : Nat) where
  group : Group σ n
  guards : List (Guard n) := []

namespace Roster

/-- What can happen to a roster. -/
inductive Step (n : Nat) where
  /-- A scope is entered on a client. -/
  | ignore (client : Fin n) (registry : Registry) (uris : List String)
  | search (client : Fin n) (schemas : List String)
  /-- A session is entered on a row of clients. -/
  | ignoreSession (clients : List (Fin n))
  | schemaSession (clients : List (Fin n))
  /-- The guard in some place is closed, if there is one. -/
  | close (place : Nat) (byDrop : Bool)
  /-- A client is asked for a statement. -/
  | state (client : Fin n) (call : Call) (plain : call.IsStatement)

variable {σ : Type} {n : Nat}

/-- A guard is entered, or it is not and there is none. -/
def enter {α : Type} (s : Roster σ n) (act : Act (Group σ n) α) (guard : α → Guard n) : Roster σ n :=
  match result act s.group with
  | (.ok a, group) => ⟨group, guard a :: s.guards⟩
  | (.error _, group) => ⟨group, s.guards⟩

/-- How many sessions the live guards hold on a client. -/
def held (s : Roster σ n) (x : Variable) (i : Fin n) : Nat := (s.guards.map (·.holds x i)).sum

/-- Each client counts the sessions that the live guards hold on it. -/
def Exact (s : Roster σ n) : Prop := ∀ x i, s.group.sessions x i = s.held x i

section

variable [Server σ]

/-- What a step leaves. -/
def after (s : Roster σ n) : Step n → Roster σ n
  | .ignore i registry uris => s.enter (Group.on i (Client.ignore registry uris)) (.ignoring i)
  | .search i schemas => s.enter (Group.on i (Client.searching schemas)) (.searching i)
  | .ignoreSession clients => s.enter (IgnoreSession.enter clients) .ignoreSession
  | .schemaSession clients => s.enter (SchemaSession.enter clients) .schemaSession
  | .close place byDrop =>
    match s.guards[place]? with
    | some guard => ⟨(result (guard.close byDrop) s.group).2, s.guards.eraseIdx place⟩
    | none => s
  | .state i call _ => { s with group := s.group.after (i, call) }

/-- What some steps leave. -/
def run (s : Roster σ n) (steps : List (Step n)) : Roster σ n := steps.foldl after s

/-- The calls on single clients that a step is. -/
def calls (s : Roster σ n) : Step n → List (Fin n × Call)
  | .ignore i registry uris => [(i, .ignore registry uris)]
  | .search i schemas => [(i, .search schemas)]
  | .ignoreSession clients => clients.map (·, .joinIgnore)
  | .schemaSession clients => s.group.joining [] clients
  | .close place byDrop =>
    match s.guards[place]? with
    | some guard => guard.clients.map (·, guard.call byDrop)
    | none => []
  | .state i call _ => [(i, call)]

/-! ## Steps are calls -/

omit [Server σ] in
theorem group_enter {α : Type} (s : Roster σ n) (act : Act (Group σ n) α) (guard : α → Guard n) :
    (s.enter act guard).group = (result act s.group).2 := by
  unfold enter
  split
  next h => rw [h]
  next h => rw [h]

/-- Work on a client whose result is kept leaves what the call leaves. -/
theorem result_on {α : Type} {act : Act (Client σ) α} {call : Call} (hcall : call.act = do let _ ← act)
    (g : Group σ n) (i : Fin n) : (result (Group.on i act) g).2 = g.after (i, call) ∧
      (result (Group.on i act) g).1.toOption.isSome = (result call.act (g.client i)).1.toOption.isSome := by
  show g.withClient i (result act (g.client i)).2 = g.withClient i (result call.act (g.client i)).2 ∧
    (result act (g.client i)).1.toOption.isSome = _
  rw [hcall, Act.result_bind]
  rcases result act (g.client i) with ⟨_ | a, c'⟩ <;> exact ⟨rfl, rfl⟩

/-- What a step leaves of the group is what its calls leave. -/
theorem group_after (s : Roster σ n) (step : Step n) : (s.after step).group = s.group.run (s.calls step) := by
  cases step with
  | ignore i registry uris => exact (s.group_enter _ _).trans (result_on rfl s.group i).1
  | search i schemas => exact (s.group_enter _ _).trans (result_on rfl s.group i).1
  | ignoreSession clients =>
    refine (s.group_enter _ _).trans ?_
    rw [Group.run_enterIgnore]
    rfl
  | schemaSession clients =>
    refine (s.group_enter _ _).trans ?_
    rcases s.group.joining_cases [] clients with ⟨-, -, hresult⟩ | ⟨_, _, _, _, -, -, -, -, hresult⟩
    · exact congrArg Prod.snd hresult
    · exact congrArg Prod.snd hresult
  | close place byDrop =>
    cases hguard : s.guards[place]? with
    | some guard =>
      simp only [after, calls, hguard]
      exact guard.run_close byDrop s.group
    | none =>
      simp only [after, calls, hguard]
      rfl
  | state i call plain => rfl

/-! ## Counting -/

omit [Server σ] in
/-- The guard that is closed was one of those that held. -/
theorem held_eraseIdx {s : Roster σ n} {place : Nat} {guard : Guard n} (h : s.guards[place]? = some guard)
    (g : Group σ n) (x : Variable) (i : Fin n) :
    s.held x i = guard.holds x i + (⟨g, s.guards.eraseIdx place⟩ : Roster σ n).held x i := by
  obtain ⟨hplace, rfl⟩ := List.getElem?_eq_some_iff.1 h
  exact (((List.getElem_cons_eraseIdx_perm hplace).map (Guard.holds · x i)).sum_eq).symm

omit [Server σ] in
/-- Entering a guard keeps the counts exact if it counts where it succeeds, and only there. -/
theorem Exact.enter {α : Type} {s : Roster σ n} (h : s.Exact) {act : Act (Group σ n) α} {guard : α → Guard n}
    (hentered : ∀ x i, (result act s.group).2.sessions x i = s.group.sessions x i +
      match (result act s.group).1 with
      | .ok a => (guard a).holds x i
      | .error _ => 0) : (s.enter act guard).Exact := by
  unfold Roster.enter
  generalize result act s.group = came at hentered
  rcases came with ⟨e | a, g⟩
  · exact fun x i => (hentered x i).trans (h x i)
  · intro x i
    have hcount : g.sessions x i = s.group.sessions x i + (guard a).holds x i := hentered x i
    have hheld : (⟨g, guard a :: s.guards⟩ : Roster σ n).held x i = (guard a).holds x i + s.held x i := rfl
    have hexact := h x i
    show g.sessions x i = (⟨g, guard a :: s.guards⟩ : Roster σ n).held x i
    omega

/-- A scope is entered on one client. -/
theorem Exact.enter_on {α : Type} {s : Roster σ n} (h : s.Exact) {i : Fin n} {act : Act (Client σ) α} (call : Call)
    (hcall : call.act = do let _ ← act) {y : Variable} (hopens : call.opens? = some y) (hcloses : call.closes? = none)
    {guard : α → Guard n} (hguard : ∀ a x j, (guard a).holds x j = if y = x then [i].count j else 0) :
    (s.enter (Group.on i act) guard).Exact := by
  obtain ⟨hgroup, hsucceeds⟩ := result_on hcall s.group i
  refine h.enter fun x j => ?_
  rw [hgroup, Group.sessions_after]
  generalize (result (Group.on i act) s.group).1 = r at hsucceeds
  dsimp only
  split
  next heq =>
    subst heq
    rw [hopens, hcloses, ← hsucceeds]
    cases r with
    | ok a =>
      show _ = _ + (guard a).holds x i
      rw [hguard]
      simp [Except.toOption]
    | error e => simp [Except.toOption]
  next hne =>
    cases r with
    | ok a =>
      show _ = _ + (guard a).holds x j
      rw [hguard]
      simp [hne]
    | error e => rfl

/-- A step keeps the counts exact, and closes nothing that is not open. -/
theorem Exact.after {s : Roster σ n} (h : s.Exact) (step : Step n) :
    (s.after step).Exact ∧ s.group.Along Group.FindsOpen (s.calls step) := by
  cases step with
  | ignore i registry uris =>
    refine ⟨h.enter_on (.ignore registry uris) (y := .ignore) rfl rfl rfl fun a x j => rfl, ?_⟩
    exact ⟨fun x hx => (nomatch hx), trivial⟩
  | search i schemas =>
    refine ⟨h.enter_on (.search schemas) (y := .path) rfl rfl rfl fun a x j => rfl, ?_⟩
    exact ⟨fun x hx => (nomatch hx), trivial⟩
  | ignoreSession clients =>
    refine ⟨h.enter fun x i => ?_, Group.findsOpen_of_closes_none (fun step hstep => ?_) s.group⟩
    · have hall := Group.succeeds_joinIgnore clients s.group
      rw [Group.run_enterIgnore]
      exact Group.sessions_run_opening (y := .ignore) rfl rfl hall x i
    · obtain ⟨i, -, rfl⟩ := List.mem_map.1 hstep
      rfl
  | schemaSession clients =>
    obtain ⟨halong, hentered⟩ := Group.sessions_joining clients s.group
    refine ⟨h.enter fun x i => ?_, halong⟩
    rcases hentered with ⟨g', hresult, hcount⟩ | ⟨e, g', hresult, hcount⟩
    · rw [hresult]
      exact hcount x i
    · rw [hresult]
      exact hcount x i
  | close place byDrop =>
    cases hguard : s.guards[place]? with
    | none =>
      simp only [Roster.after, calls, hguard]
      exact ⟨h, trivial⟩
    | some guard =>
      obtain ⟨hopens, hcloses⟩ := guard.opens?_call byDrop
      have hheld := held_eraseIdx hguard (result (guard.close byDrop) s.group).2
      have henough : ∀ j, guard.clients.count j ≤ s.group.sessions guard.about j := by
        intro j
        have hholds : guard.holds guard.about j = guard.clients.count j := if_pos rfl
        have hexact := h guard.about j
        rw [hheld, hholds] at hexact
        omega
      obtain ⟨halong, hcount⟩ := Group.sessions_run_closing (guard.call byDrop) hopens hcloses henough
      simp only [Roster.after, calls, hguard]
      refine ⟨fun x j => ?_, halong⟩
      have hexact := h x j
      rw [hheld] at hexact
      show (result (guard.close byDrop) s.group).2.sessions x j = _
      rw [guard.run_close] at hexact ⊢
      rw [hcount, show (if guard.about = x then guard.clients.count j else 0) = guard.holds x j from rfl]
      omega
  | state i call plain =>
    obtain ⟨hopens, hcloses⟩ := plain.opens?
    refine ⟨fun x j => ?_, ⟨fun x hx => ?_, trivial⟩⟩
    · show (s.group.after (i, call)).sessions x j = s.held x j
      rw [Group.sessions_after, ← h x j]
      simp [hopens, hcloses]
    · rw [hcloses] at hx
      cases hx

/-! ## Runs -/

theorem Exact.run {s : Roster σ n} (h : s.Exact) (steps : List (Step n)) : (s.run steps).Exact := by
  induction steps generalizing s with
  | nil => exact h
  | cons step rest ih => exact ih (h.after step).1

/-- Some steps are calls on single clients as well. -/
theorem exists_group_run (s : Roster σ n) (steps : List (Step n)) :
    ∃ calls, (s.run steps).group = s.group.run calls := by
  induction steps generalizing s with
  | nil => exact ⟨[], rfl⟩
  | cons step rest ih =>
    obtain ⟨calls, hcalls⟩ := ih (s.after step)
    refine ⟨s.calls step ++ calls, ?_⟩
    rw [Group.run_append, ← group_after]
    exact hcalls

section

variable {g : Group σ n} (hnew : ∀ i, ∃ status, (g.client i).session = { status }) (steps : List (Step n))

include hnew

theorem exact_of_new : ((⟨g, []⟩ : Roster σ n).run steps).Exact := by
  refine Exact.run (fun x i => ?_) steps
  obtain ⟨status, hstatus⟩ := hnew i
  show ((g.client i).session.setting x).sessions = 0
  rw [hstatus]
  cases x <;> rfl

/-- No undoing is lost on the way, and none is made up. -/
theorem sound_of_new (i : Fin n) : (((⟨g, []⟩ : Roster σ n).run steps).group.client i).session.Sound ∧
    (((⟨g, []⟩ : Roster σ n).run steps).group.client i).session.Settled := by
  obtain ⟨calls, hcalls⟩ := (⟨g, []⟩ : Roster σ n).exists_group_run steps
  obtain ⟨status, hstatus⟩ := hnew i
  rw [hcalls]
  exact Group.sound_run hstatus calls

end

/-- Session counts are exact: from clients on which nothing was entered, after any steps, whatever fails in them and
whatever their servers do, each client counts on either variable exactly what the live guards hold on it. While
that is something on the search path, and while the search path is set for good or has its undoing pending, the path
to go back to is known. The calls that a further step is find a session open wherever they close one, so no count
is ever held at zero. -/
theorem sessions_exact {g : Group σ n} (hnew : ∀ i, ∃ status, (g.client i).session = { status })
    (steps : List (Step n)) :
    let s := (⟨g, []⟩ : Roster σ n).run steps
    (∀ x i, s.group.sessions x i = s.held x i) ∧
      (∀ i, 0 < s.group.sessions .path i ∨ (s.group.client i).session.path.isOwed →
        ∃ path, (s.group.client i).session.initialPath = some path ∧
          (s.group.client i).session.undoPath? = some (setPathSql path)) ∧
      ∀ step, (s.after step).group = s.group.run (s.calls step) ∧ s.group.Along Group.FindsOpen (s.calls step) := by
  intro s
  have hexact : s.Exact := exact_of_new hnew steps
  refine ⟨hexact, fun i huse => ?_, fun step => ⟨s.group_after step, (hexact.after step).2⟩⟩
  cases hinitial : (s.group.client i).session.initialPath with
  | some path => exact ⟨path, rfl, by rw [Session.undoPath?, hinitial]; rfl⟩
  | none =>
    -- then the search path was not touched yet
    have hpath : (s.group.client i).session.path = {} := (sound_of_new hnew steps i).1.known hinitial
    rw [hpath, show s.group.sessions .path i = (s.group.client i).session.path.sessions from rfl, hpath] at huse
    rcases huse with huse | huse <;> cases huse

end

/-- A session on a row in which one client stands twice, a scope on that client and a session on another one, and the
first is dropped again. -/
def enteredTwice (first other : Fin 2) : List (Step 2) :=
  [.schemaSession [first, other, first], .search first ["archive"], .ignoreSession [other], .close 2 true]

/-- Of the three sessions on the client's search path the scope's is left. -/
theorem sessions_exact_twice :
    let s := (⟨Group.pair, []⟩ : Roster Backend 2).run (enteredTwice 0 1)
    s.group.sessions .path 0 = 1 ∧ s.group.sessions .path 1 = 0 ∧ s.group.sessions .ignore 1 = 1 ∧
      ∃ path, (s.group.client 0).session.initialPath = some path := by
  have hnew : ∀ i, ∃ status, (Group.pair.client i).session = { status } :=
    fun i => ⟨.idle, by simp [Group.pair, Group.client]⟩
  have hheld : ((⟨Group.pair, []⟩ : Roster Backend 2).run (enteredTwice 0 1)).held .path 0 = 1 ∧
      ((⟨Group.pair, []⟩ : Roster Backend 2).run (enteredTwice 0 1)).held .path 1 = 0 ∧
      ((⟨Group.pair, []⟩ : Roster Backend 2).run (enteredTwice 0 1)).held .ignore 1 = 1 := by decide +kernel
  obtain ⟨hcount, hknown, -⟩ := sessions_exact hnew (enteredTwice 0 1)
  have hopen := (hcount .path 0).trans hheld.1
  have hused := Nat.lt_of_lt_of_eq Nat.one_pos hopen.symm
  obtain ⟨path, hpath, -⟩ := hknown 0 (.inl hused)
  exact ⟨hopen, (hcount .path 1).trans hheld.2.1, (hcount .ignore 1).trans hheld.2.2, path, hpath⟩

end Roster

end DeclaredTriggers
