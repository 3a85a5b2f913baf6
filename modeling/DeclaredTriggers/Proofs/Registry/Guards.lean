import DeclaredTriggers.Proofs.Act
import DeclaredTriggers.Proofs.Registry.Places
import DeclaredTriggers.Registry.Scoped

/-!
# Changes under guards

A call under a guard changes what stands under one URI, and its guard puts back what stood there. Guards on
different URIs can be undone in any order (`undo_comm`); of the guards on one URI the newest remembers what
the others have put there, so they are to be undone in turn. What carries a run of calls and drops is that
undoing the guards that are left, the newest first, gives the registry the run began with (`undone_next`):
a call puts a guard in front that takes the call back, and a guard whose turn it is can be moved to the front.

> `registry_restored`: in such a run a call that fails changes nothing, a URI under which no guard is left
> stands as it did, and with the last guard the whole registry does.
-/

namespace DeclaredTriggers

/-- Registries in which every URI names the same entry are equal. -/
theorem Registry.ext_find? {r r' : Registry} (h : ∀ uri, r.find? uri = r'.find? uri) : r = r' := by
  obtain ⟨m⟩ := r
  obtain ⟨m'⟩ := r'
  rw [Keyed.ext_find? (m := m) (n := m') h]

/-! ## Undoing -/

namespace RegistrationGuard

variable {g g' : RegistrationGuard} {r : Registry}

/-- Whether what a guard puts back belongs under its URI. -/
def Faithful (g : RegistrationGuard) : Prop := ∀ x, g.previous = some x → x.uri = g.uri

theorem find?_undo (h : g.Faithful) (r : Registry) (uri : String) :
    (g.undo r).find? uri = if uri = g.uri then g.previous else r.find? uri := by
  unfold undo
  split
  next x hx =>
    rw [Registry.find?_put, Registry.find?_erase, h x hx, hx]
    by_cases huri : uri = g.uri
    · rw [if_pos huri, if_pos huri]
    · rw [if_neg huri, if_neg huri, if_neg huri]
  next hnone => rw [Registry.find?_erase, hnone]

theorem Faithful.sound_undo (h : g.Faithful) (hr : r.Sound) : (g.undo r).Sound := by
  intro uri x hx
  rw [find?_undo h] at hx
  split at hx
  next huri => exact (h x hx).trans huri.symm
  next => exact hr uri x hx

/-- Guards on different URIs can be undone in either order. -/
theorem undo_comm (h : g.Faithful) (h' : g'.Faithful) (hne : g.uri ≠ g'.uri) (r : Registry) :
    g.undo (g'.undo r) = g'.undo (g.undo r) := by
  refine Registry.ext_find? fun uri => ?_
  rw [find?_undo h, find?_undo h', find?_undo h', find?_undo h]
  by_cases huri : uri = g.uri
  · have hother : uri ≠ g'.uri := huri ▸ hne
    rw [if_pos huri, if_neg hother, if_pos huri]
  · rw [if_neg huri, if_neg huri]

/-- The registry after some guards are undone, the first of them first. -/
def undone (guards : List RegistrationGuard) (r : Registry) : Registry :=
  guards.foldl (fun r g => g.undo r) r

/-- A guard can be undone before others that are on other URIs. -/
theorem undone_append_cons {newer older : List RegistrationGuard} (h : g.Faithful)
    (hnewer : ∀ g' ∈ newer, g'.Faithful) (hturn : ∀ g' ∈ newer, g'.uri ≠ g.uri) (r : Registry) :
    undone (newer ++ g :: older) r = undone (newer ++ older) (g.undo r) := by
  induction newer generalizing r with
  | nil => rfl
  | cons g' newer ih =>
    have hfront := undo_comm h (hnewer g' List.mem_cons_self) (hturn g' List.mem_cons_self).symm r
    have hrest := ih (fun k hk => hnewer k (List.mem_cons_of_mem _ hk))
      (fun k hk => hturn k (List.mem_cons_of_mem _ hk)) (g'.undo r)
    calc undone (g' :: newer ++ g :: older) r
        = undone (newer ++ g :: older) (g'.undo r) := rfl
      _ = undone (newer ++ older) (g.undo (g'.undo r)) := hrest
      _ = undone (newer ++ older) (g'.undo (g.undo r)) := by rw [hfront]
      _ = undone (g' :: newer ++ older) (g.undo r) := rfl

/-- What stands under a URI is not touched by guards on others. -/
theorem find?_undone {guards : List RegistrationGuard} {uri : String}
    (hfaithful : ∀ g ∈ guards, g.Faithful) (hother : ∀ g ∈ guards, g.uri ≠ uri) (r : Registry) :
    (undone guards r).find? uri = r.find? uri := by
  induction guards generalizing r with
  | nil => rfl
  | cons g guards ih =>
    have hne : uri ≠ g.uri := (hother g List.mem_cons_self).symm
    calc (undone (g :: guards) r).find? uri
        = (g.undo r).find? uri := ih (fun k hk => hfaithful k (List.mem_cons_of_mem _ hk))
          (fun k hk => hother k (List.mem_cons_of_mem _ hk)) (g.undo r)
      _ = r.find? uri := by
        rw [find?_undo (hfaithful g List.mem_cons_self), if_neg hne]

end RegistrationGuard

/-! ## Calls -/

theorem Registry.result_declare (e : Entity) (t : Trigger) (r : Registry) :
    Act.result (declare e t) r = match r.register e t with
      | .ok r' => (.ok (), r')
      | .error fault => (.error fault, r) := by
  unfold declare
  rw [Act.result_bind_ok (Act.result_get r), Act.result_bind, Act.result_lift]
  cases r.register e t with
  | error fault => rfl
  | ok r' => rfl

/-- A call that changes the registry until its guard is dropped. -/
inductive ScopedCall where
  | register (x : Registration)
  | unregister (uri : String)

namespace ScopedCall

variable {r r' : Registry} {g : RegistrationGuard} {fault : Error}

def act : ScopedCall → Act Registry RegistrationGuard
  | .register x => do RegistrationGuard.register x.entity (← x.trigger)
  | .unregister uri => RegistrationGuard.unregister uri

theorem result_register (x : Registration) (r : Registry) :
    Act.result (act (.register x)) r = match x.trigger with
      | .error fault => (.error fault, r)
      | .ok t => match r.register x.entity t with
        | .error fault => (.error fault, r)
        | .ok r' => (.ok ⟨t.uri x.entity, r.find? (t.uri x.entity)⟩, r') := by
  unfold act
  rw [Act.result_bind, Act.result_lift]
  cases x.trigger with
  | error fault => rfl
  | ok t =>
    dsimp only
    unfold RegistrationGuard.register
    rw [Act.result_bind_ok (Act.result_get r), Act.result_bind, Registry.result_declare]
    cases r.register x.entity t with
    | error fault => rfl
    | ok r' => rfl

theorem result_unregister (uri : String) (r : Registry) :
    Act.result (act (.unregister uri)) r = match r.find? uri with
      | none => (.error (.notRegistered uri), r)
      | some x => (.ok ⟨uri, some x⟩, r.erase uri) := by
  unfold act RegistrationGuard.unregister
  rw [Act.result_bind_ok (Act.result_get r)]
  cases r.find? uri with
  | none => rfl
  | some x => rfl

/-- A call that fails leaves the registry as it is. -/
theorem unchanged_of_error {c : ScopedCall} (h : Act.result c.act r = (.error fault, r')) : r' = r := by
  cases c with
  | register x =>
    rw [result_register] at h
    split at h
    next => exact (congrArg Prod.snd h).symm
    next =>
      split at h
      next => exact (congrArg Prod.snd h).symm
      next => cases h
  | unregister uri =>
    rw [result_unregister] at h
    split at h
    next => exact (congrArg Prod.snd h).symm
    next => cases h

/-- A call that succeeds changes what stands under one URI, and its guard remembers what stood there. -/
theorem guard_of_ok {c : ScopedCall} (h : Act.result c.act r = (.ok g, r')) :
    g.previous = r.find? g.uri ∧ (∀ uri, uri ≠ g.uri → r'.find? uri = r.find? uri) ∧
      (r.Sound → r'.Sound) := by
  cases c with
  | register x =>
    rw [result_register] at h
    split at h
    next => cases h
    next t ht =>
      split at h
      next => cases h
      next r'' hregister =>
        obtain ⟨z, hentity, htrigger, rfl, -⟩ := Registry.register_cases hregister
        cases h
        have huri : z.uri = t.uri x.entity := by
          unfold Entry.uri
          rw [hentity, htrigger]
        refine ⟨rfl, fun uri hne => ?_, fun hr => hr.put z⟩
        exact (r.find?_put z uri).trans (if_neg (huri ▸ hne))
  | unregister uri =>
    rw [result_unregister] at h
    split at h
    next => cases h
    next x hx =>
      cases h
      refine ⟨hx.symm, fun uri' hne => (r.find?_erase uri uri').trans (if_neg hne), fun hr => hr.erase uri⟩

/-- Undoing a call at once takes it back. -/
theorem undo_of_ok {c : ScopedCall} (hr : r.Sound) (h : Act.result c.act r = (.ok g, r')) :
    g.Faithful ∧ g.undo r' = r := by
  obtain ⟨hprevious, hother, -⟩ := guard_of_ok h
  have hfaithful : g.Faithful := fun x hx => hr g.uri x (hprevious.symm.trans hx)
  refine ⟨hfaithful, Registry.ext_find? fun uri => ?_⟩
  rw [RegistrationGuard.find?_undo hfaithful]
  by_cases huri : uri = g.uri
  · rw [if_pos huri, hprevious, huri]
  · rw [if_neg huri, hother uri huri]

end ScopedCall

/-! ## Registries that others share -/

variable {r : Registry}

theorem Registry.Sound.declared (h : r.Sound) (e : Entity) (t : Trigger) :
    (Act.result (Registry.declare e t) r).2.Sound := by
  rw [Registry.result_declare]
  split
  next r' hregister =>
    obtain ⟨z, -, -, rfl, -⟩ := Registry.register_cases hregister
    exact h.put z
  next => exact h

theorem Registry.Sound.registered (h : r.Sound) (x : Registration) :
    (Act.result (do Registry.declare x.entity (← x.trigger)) r).2.Sound := by
  refine Act.of_bind ?_ fun t r' hr' => hr'.declared x.entity t
  rw [Act.result_lift]
  exact h

theorem Registry.Sound.bootstrapped (h : r.Sound) (xs : List Registration) :
    (Act.result (Registry.bootstrap xs) r).2.Sound := by
  have hall : ∀ r : Registry, r.Sound → (Act.result
      (xs.forM fun x => do Registry.declare x.entity (← x.trigger)) r).2.Sound := by
    induction xs with
    | nil => exact fun r hr => hr
    | cons x xs ih => exact fun r hr => Act.of_bind (hr.registered x) fun _ r' hr' => ih r' hr'
  exact Act.of_bind (hall r h) fun _ r' hr' => hr'

/-- A registry that others share, and the guards that were not dropped yet, the newest first. -/
structure Shared where
  registry : Registry := {}
  guards : List RegistrationGuard := []

namespace Shared

variable {s : Shared} {r : Registry}

/-- What is done by those who hold guards: a call, or the drop of the guard behind `newer` others. -/
inductive Move where
  | call (c : ScopedCall)
  | drop (newer : Nat)

def next (s : Shared) : Move → Shared
  | .call c =>
    match Act.result c.act s.registry with
    | (.ok g, r) => ⟨r, g :: s.guards⟩
    | (.error _, r) => ⟨r, s.guards⟩
  | .drop newer =>
    match s.guards[newer]? with
    | some g => ⟨g.undo s.registry, s.guards.eraseIdx newer⟩
    | none => s

/-- What changes a shared registry: what the holders of guards do, and calls whose effect stays. -/
inductive Change where
  | move (m : Move)
  | register (x : Registration)
  | unregister (uri : String)
  | bootstrap (xs : List Registration)
  | reset

def change (s : Shared) : Change → Shared
  | .move m => s.next m
  | .register x => { s with
      registry := (Act.result (do Registry.declare x.entity (← x.trigger)) s.registry).2 }
  | .unregister uri => { s with registry := s.registry.erase uri }
  | .bootstrap xs => { s with registry := (Act.result (Registry.bootstrap xs) s.registry).2 }
  | .reset => { s with registry := {} }

/-- What an empty registry comes to by some changes. -/
def reached (changes : List Change) : Shared := changes.foldl change {}

/-- The entries are stored under their URIs, and so will those be that guards put back. -/
structure Sound (s : Shared) : Prop where
  registry : s.registry.Sound
  guards : ∀ g ∈ s.guards, g.Faithful

theorem Sound.next (h : s.Sound) (m : Move) : (s.next m).Sound := by
  unfold Shared.next
  cases m with
  | call c =>
    dsimp only
    split
    next g r' hresult =>
      have hguard := ScopedCall.undo_of_ok h.registry hresult
      refine ⟨(ScopedCall.guard_of_ok hresult).2.2 h.registry, ?_⟩
      rintro g' (_ | ⟨_, hg'⟩)
      · exact hguard.1
      · exact h.guards g' hg'
    next fault r' hresult =>
      obtain rfl := ScopedCall.unchanged_of_error hresult
      exact h
  | drop newer =>
    dsimp only
    split
    next g hg =>
      have hmem : g ∈ s.guards := List.mem_of_getElem? hg
      refine ⟨(h.guards g hmem).sound_undo h.registry, fun g' hg' => h.guards g' ?_⟩
      exact List.mem_of_mem_eraseIdx hg'
    next => exact h

theorem Sound.change (h : s.Sound) (c : Change) : (s.change c).Sound := by
  cases c with
  | move m => exact h.next m
  | register x => exact ⟨h.registry.registered x, h.guards⟩
  | unregister uri => exact ⟨h.registry.erase uri, h.guards⟩
  | bootstrap xs => exact ⟨h.registry.bootstrapped xs, h.guards⟩
  | reset => exact ⟨Registry.sound_empty, h.guards⟩

theorem sound_reached (changes : List Change) : (reached changes).Sound := by
  have hrun : ∀ s : Shared, s.Sound → (changes.foldl change s).Sound := by
    induction changes with
    | nil => exact fun s hs => hs
    | cons c changes ih => exact fun s hs => ih _ (hs.change c)
  exact hrun {} ⟨Registry.sound_empty, fun g hg => nomatch hg⟩

/-! ## Guards that are dropped in turn -/

/-- A guard is dropped in turn if no newer one is on its URI. Calls may be made at any time. -/
def InTurn (s : Shared) : Move → Prop
  | .call _ => True
  | .drop newer =>
    match s.guards[newer]? with
    | some g => ∀ g' ∈ s.guards.take newer, g'.uri ≠ g.uri
    | none => False

instance (s : Shared) (m : Move) : Decidable (s.InTurn m) :=
  match m with
  | .call _ => isTrue trivial
  | .drop newer =>
    match h : s.guards[newer]? with
    | some g => decidable_of_iff (∀ g' ∈ s.guards.take newer, g'.uri ≠ g.uri) (by simp [InTurn, h])
    | none => isFalse (by simp [InTurn, h])

/-- All guards are dropped in turn. -/
def Orderly (s : Shared) : List Move → Prop
  | [] => True
  | m :: ms => s.InTurn m ∧ (s.next m).Orderly ms

def decideOrderly : (ms : List Move) → (s : Shared) → Decidable (s.Orderly ms)
  | [], _ => isTrue trivial
  | m :: ms, s =>
    have := decideOrderly ms (s.next m)
    inferInstanceAs (Decidable (s.InTurn m ∧ (s.next m).Orderly ms))

instance (s : Shared) (ms : List Move) : Decidable (s.Orderly ms) := decideOrderly ms s

/-- What some moves come to. -/
def after (s : Shared) (ms : List Move) : Shared := ms.foldl next s

/-- A move in turn does not change what undoing all guards gives. -/
theorem undone_next (h : s.Sound) {m : Move} (hturn : s.InTurn m) :
    RegistrationGuard.undone (s.next m).guards (s.next m).registry =
      RegistrationGuard.undone s.guards s.registry := by
  cases m with
  | call c =>
    unfold next
    dsimp only
    split
    next g r' hresult =>
      -- the new guard is undone first, and takes the call back
      show RegistrationGuard.undone s.guards (g.undo r') = _
      rw [(ScopedCall.undo_of_ok h.registry hresult).2]
    next fault r' hresult => rw [ScopedCall.unchanged_of_error hresult]
  | drop newer =>
    unfold InTurn at hturn
    unfold next
    dsimp only at hturn ⊢
    split at hturn
    next g hg =>
      obtain ⟨hlt, rfl⟩ := List.getElem?_eq_some_iff.1 hg
      have hsplit : s.guards = s.guards.take newer ++ s.guards[newer] :: s.guards.drop (newer + 1) := by
        rw [List.getElem_cons_drop, List.take_append_drop]
      have hfaithful : ∀ g' ∈ s.guards.take newer, g'.Faithful := fun g' hg' =>
        h.guards g' (List.mem_of_mem_take hg')
      dsimp only
      rw [List.eraseIdx_eq_take_drop_succ]
      conv_rhs => rw [hsplit]
      exact (RegistrationGuard.undone_append_cons (h.guards _ (List.getElem_mem hlt)) hfaithful hturn
        s.registry).symm
    next => exact hturn.elim

theorem Sound.after (h : s.Sound) (ms : List Move) : (s.after ms).Sound := by
  induction ms generalizing s with
  | nil => exact h
  | cons m ms ih => exact ih (h.next m)

theorem undone_after (h : s.Sound) {ms : List Move} (horderly : s.Orderly ms) :
    RegistrationGuard.undone (s.after ms).guards (s.after ms).registry =
      RegistrationGuard.undone s.guards s.registry := by
  induction ms generalizing s with
  | nil => rfl
  | cons m ms ih => exact (ih (h.next m) horderly.2).trans (undone_next h horderly.1)

/-- Calls under guards undo themselves. However calls that succeed or fail and drops follow on one another,
if the guards on one URI are dropped in turn, then a call that fails leaves the registry as it is, a URI under
which no guard is left stands as it did at first, and when all guards were dropped so does the whole registry. -/
theorem registry_restored (changes : List Change) (ms : List Move) :
    let r := (reached changes).registry
    Orderly ⟨r, []⟩ ms →
      let s := after ⟨r, []⟩ ms
      (∀ c fault r', Act.result (ScopedCall.act c) s.registry = (.error fault, r') → r' = s.registry) ∧
        (∀ uri, (∀ g ∈ s.guards, g.uri ≠ uri) → s.registry.find? uri = r.find? uri) ∧
        (s.guards = [] → s.registry = r) := by
  intro r horderly s
  have hstart : Sound ⟨r, []⟩ := ⟨(sound_reached changes).registry, fun g hg => nomatch hg⟩
  have hundone : RegistrationGuard.undone s.guards s.registry = r := undone_after hstart horderly
  refine ⟨fun c fault r' hresult => ScopedCall.unchanged_of_error hresult, fun uri hother => ?_, fun hnone => ?_⟩
  · rw [← RegistrationGuard.find?_undone (hstart.after ms).guards hother s.registry, hundone]
  · rw [hnone] at hundone
    exact hundone

/-- A trigger of the book's table, declared from the start. -/
def fromTheStart : List Change :=
  [.register ⟨Registry.labelled "library.Book" "book", .ok Registry.deletesForbidden⟩]

/-- It is declared once more and then taken away, another is declared, and a call fails that takes away what is
not there. The newest guard is dropped last. -/
def amongOthers : List Move :=
  [.call (.register ⟨Registry.labelled "library.Book" "book", .ok Registry.deletesForbidden⟩),
    .call (.unregister "library.Book:protect_deletes"),
    .call (.register ⟨Registry.labelled "library.Page" "page", .ok Registry.deletesForbidden⟩),
    .call (.unregister "library.Shelf:protect_deletes"), .drop 1, .drop 1, .drop 0]

theorem registry_restored_amongOthers :
    let r := (reached fromTheStart).registry
    Orderly ⟨r, []⟩ amongOthers ∧ (after ⟨r, []⟩ amongOthers).guards = [] ∧
      (after ⟨r, []⟩ (amongOthers.take 4)).registry.entries.map (·.place) = [("page", "protect_deletes")] ∧
      (after ⟨r, []⟩ amongOthers).registry = r := by
  intro r
  have horderly : Orderly ⟨r, []⟩ amongOthers := by decide +kernel
  have hnone : (after ⟨r, []⟩ amongOthers).guards = [] := List.isEmpty_iff.1 (by decide +kernel)
  exact ⟨horderly, hnone, by decide +kernel, (registry_restored fromTheStart amongOthers horderly).2.2 hnone⟩

end Shared

end DeclaredTriggers
