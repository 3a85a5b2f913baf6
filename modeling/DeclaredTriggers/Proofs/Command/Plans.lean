import DeclaredTriggers.Command.Run
import DeclaredTriggers.Connection.Script
import DeclaredTriggers.Proofs.Registry.Guards

/-!
# Plans of commands

A plan gives each database the triggers that a command acts on there, and no triggers stand for all of them. So
a plan for triggers that are named must leave no database without one: the command would act in bulk there, and
prune. It does not, and it neither loses a trigger nor names one twice. The entries that the URIs name are grouped
by their databases (`find?_ofEntries`), and groups by a key are a permutation of what was grouped
(`perm_flatMap_filter`); what a command does about a group is what it does about triggers by name (`apply_named`).

> `Plan.make_exact`: when a command has a plan, what is in it, and that a command that is given URIs acts on the
> triggers that they name and on nothing else.
-/

namespace DeclaredTriggers

/-! ## Groups -/

/-- Groups by a key are a permutation of what was grouped. -/
theorem perm_flatMap_filter {α β : Type} [DecidableEq β] {f : α → β} {ks : List β} (hnodup : ks.Nodup)
    {xs : List α} (hkeys : ∀ x ∈ xs, f x ∈ ks) : (ks.flatMap fun k => xs.filter (f · = k)).Perm xs := by
  induction ks generalizing xs with
  | nil =>
    obtain rfl := List.eq_nil_iff_forall_not_mem.2 fun x hx => List.not_mem_nil (hkeys x hx)
    exact .nil
  | cons k ks ih =>
    obtain ⟨hk, hnodup⟩ := List.nodup_cons.1 hnodup
    -- the other groups are those of what is not in this one
    have hothers : (ks.flatMap fun l => xs.filter (f · = l)) =
        ks.flatMap fun l => (xs.filter fun x => !decide (f x = k)).filter (f · = l) := by
      refine List.flatMap_congr fun l hl => ?_
      have hne : l ≠ k := fun h => hk (h ▸ hl)
      rw [List.filter_filter]
      refine List.filter_congr fun x _ => ?_
      by_cases hx : f x = l
      · simp [hx, hne]
      · simp [hx]
    have hrest : (ks.flatMap fun l => xs.filter (f · = l)).Perm (xs.filter fun x => !decide (f x = k)) := by
      rw [hothers]
      refine ih hnodup fun x hx => ?_
      obtain ⟨hx, hne⟩ := List.mem_filter.1 hx
      exact (List.mem_cons.1 (hkeys x hx)).resolve_left (by simpa using hne)
    rw [List.flatMap_cons]
    exact (hrest.append_left _).trans (List.filter_append_perm _ xs)

namespace Registry

variable {r : Registry} {uris : List String} {xs : List Entry}

theorem lookup_eq_ok_iff {uri : String} {x : Entry} :
    r.lookup uri = .ok x ↔ ':' ∈ uri.toList ∧ r.find? uri = some x := by
  unfold lookup
  by_cases hcolon : ':' ∈ uri.toList
  · rw [if_neg (by simpa using hcolon)]
    cases r.find? uri with
    | none => exact ⟨nofun, nofun⟩
    | some y => exact ⟨fun h => ⟨hcolon, congrArg some (Except.ok.inj h)⟩, fun h => congrArg _ (Option.some.inj h.2)⟩
  · rw [if_pos (by simpa using hcolon)]
    exact ⟨nofun, fun h => absurd h.1 hcolon⟩

theorem exists_resolve_iff : (∃ xs, r.resolve uris = .ok xs) ↔
    ∀ uri ∈ uris, ':' ∈ uri.toList ∧ ∃ x, r.find? uri = some x := by
  unfold resolve
  rw [exists_mapM_iff]
  simp only [lookup_eq_ok_iff, exists_and_left]

theorem forall₂_of_resolve (h : r.resolve uris = .ok xs) :
    List.Forall₂ (fun uri x => r.find? uri = some x) uris xs :=
  (forall₂_of_mapM h).imp fun _ _ hx => (lookup_eq_ok_iff.1 hx).2

/-- What URIs name has these URIs. -/
theorem map_uri_of_resolve (hsound : r.Sound) (h : r.resolve uris = .ok xs) : xs.map (·.uri) = uris := by
  have hall := forall₂_of_resolve h
  clear h
  induction hall with
  | nil => rfl
  | cons hfind _ ih => rw [List.map_cons, ih, hsound _ _ hfind]

theorem mem_of_resolve (hsound : r.Sound) (h : r.resolve uris = .ok xs) {x : Entry} :
    x ∈ xs ↔ x.uri ∈ uris ∧ r.find? x.uri = some x := by
  have hfind : ∀ y ∈ xs, r.find? y.uri = some y := by
    intro y hy
    obtain ⟨uri, -, hlookup⟩ := exists_of_mem_mapM h hy
    obtain ⟨-, hfind⟩ := lookup_eq_ok_iff.1 hlookup
    rwa [hsound uri y hfind]
  rw [← map_uri_of_resolve hsound h, List.mem_map]
  constructor
  · exact fun hx => ⟨⟨x, hx, rfl⟩, hfind x hx⟩
  · rintro ⟨⟨y, hy, huri⟩, hx⟩
    rw [← huri, hfind y hy] at hx
    exact Option.some.inj hx ▸ hy

end Registry

/-! ## Triggers that are named -/

namespace Reconciler

variable {κ : Type} [Channel κ] {r : Reconciler} {uris : List String} {xs : List Entry}

theorem entries_named (huris : uris ≠ []) (h : r.registry.resolve uris = .ok xs) : r.entries uris = .ok xs := by
  unfold entries
  rw [if_neg (by simpa using huris), h]

/-- A run that names its triggers does the one thing to each, whether it needs it or not. -/
theorem run_named (hrouter : r.router = .standard) (huris : uris ≠ []) (h : r.registry.resolve uris = .ok xs)
    (verb : Verb) : (r.run verb uris : Act κ Unit) = xs.forM (r.perform verb) := by
  have hnamed : uris.isEmpty = false := by simpa using huris
  have hallowed : ∀ x, r.allows x = true := fun x => by
    unfold allows
    rw [hrouter]
    rfl
  have htarget : (r.isTarget false (needs verb) : Entry → Act κ Bool) = fun _ => pure true := by
    funext x
    unfold isTarget
    rw [hallowed x]
    rfl
  unfold run targets
  rw [entries_named huris h, hnamed, htarget]
  show (xs.filterM (fun _ => pure true) >>= fun targets => targets.forM (r.perform verb)) = _
  rw [filterM_pure_true, pure_bind]

/-- Nothing is pruned after it. -/
theorem runAndPrune_named (huris : uris ≠ []) (verb : Verb) (pruning : Bool) :
    (r.runAndPrune verb uris pruning : Act κ Unit) = r.run verb uris := by
  unfold runAndPrune
  rw [show uris.isEmpty = false by simpa using huris]
  exact bind_pure _

end Reconciler

namespace Command

/-! ## Plans -/

namespace Plan

variable {c : Configuration} {r : Registry} {o : Options} {p q : Plan}

/-- The names of the databases that are configured. -/
def configured (c : Configuration) : List String := c.databases.map (·.name)

theorem checked_eq_ok_iff : p.checked c = .ok q ↔ (∀ name ∈ p.keys, name ∈ configured c) ∧ q = p := by
  have hconfigured : ∀ name, (c.find? name).isNone = true ↔ name ∉ configured c := by
    intro name
    rw [Option.isNone_iff_eq_none, Configuration.find?, List.find?_eq_none, configured, List.mem_map]
    simp
  unfold checked
  cases hmissing : p.keys.find? fun name => (c.find? name).isNone with
  | some name =>
    have hname : name ∉ configured c := (hconfigured name).1 (by simpa using List.find?_some hmissing)
    exact ⟨nofun, fun h => absurd (h.1 name (List.mem_of_find?_eq_some hmissing)) hname⟩
  | none =>
    have hall : ∀ name ∈ p.keys, name ∈ configured c := fun name hname =>
      not_not.1 fun h => List.find?_eq_none.1 hmissing name hname ((hconfigured name).2 h)
    exact ⟨fun h => ⟨hall, (Except.ok.inj h).symm⟩, fun h => congrArg _ h.2.symm⟩

/-- The URIs of the entries that live in a database, in their order. -/
def group (xs : List Entry) (name : String) : List String :=
  (xs.filter (·.database .standard = name)).map (·.uri)

theorem find?_ofEntries (xs : List Entry) (name : String) :
    (ofEntries xs).find? name = if group xs name = [] then none else some (group xs name) := by
  induction xs using List.reverseRecOn with
  | nil => rfl
  | append_singleton xs x ih =>
    have hput : ofEntries (xs ++ [x]) = (ofEntries xs).update (x.database .standard) [] (· ++ [x.uri]) := by
      unfold ofEntries
      rw [List.foldl_concat]
    have hgroup : group (xs ++ [x]) name =
        group xs name ++ if x.database .standard = name then [x.uri] else [] := by
      unfold group
      rw [List.filter_append, List.map_append, List.filter_singleton]
      split <;> simp_all
    rw [hput, Keyed.find?_update, hgroup]
    by_cases hx : name = x.database .standard
    · rw [if_pos hx, if_pos hx.symm, ← hx, ih]
      split <;> simp_all
    · rw [if_neg hx, if_neg (Ne.symm hx), List.append_nil, ih]

theorem find?_ofDatabases (names : List String) (name : String) :
    (ofDatabases names).find? name = if name ∈ names then some [] else none := by
  unfold ofDatabases Keyed.ofList
  rw [List.foldl_map]
  induction names using List.reverseRecOn with
  | nil => rfl
  | append_singleton names other ih =>
    rw [List.foldl_concat, Keyed.find?_insert, ih]
    by_cases h : name = other <;> simp [h]

theorem mem_keys_ofEntries {xs : List Entry} {name : String} :
    name ∈ (ofEntries xs).keys ↔ ∃ x ∈ xs, x.database .standard = name := by
  rw [Keyed.mem_keys_iff, find?_ofEntries]
  unfold group
  simp [List.filter_eq_nil_iff]

theorem values_ofEntries (xs : List Entry) : (ofEntries xs).values = (ofEntries xs).keys.map (group xs) := by
  unfold Keyed.values Keyed.keys
  rw [List.map_map]
  refine List.map_congr_left ?_
  rintro ⟨name, uris⟩ hentry
  have hfind := Keyed.mem_entries_iff.1 hentry
  rw [find?_ofEntries] at hfind
  split at hfind
  next => cases hfind
  next => exact (Option.some.inj hfind).symm

theorem perm_ofEntries (xs : List Entry) : (ofEntries xs).values.flatten.Perm (xs.map (·.uri)) := by
  rw [values_ofEntries, ← List.flatMap_def]
  unfold group
  rw [← List.map_flatMap]
  refine (perm_flatMap_filter (Keyed.nodup_keys _) fun x hx => ?_).map _
  exact mem_keys_ofEntries.2 ⟨x, hx, rfl⟩

/-- Grouping what URIs name is grouping the URIs. -/
theorem group_eq_filter (hsound : r.Sound) {uris : List String} {xs : List Entry} (h : r.resolve uris = .ok xs)
    (name : String) :
    group xs name = uris.filter fun uri => (r.find? uri).map (·.database .standard) = some name := by
  have hall := Registry.forall₂_of_resolve h
  clear h
  unfold group
  induction hall with
  | nil => rfl
  | @cons uri x uris xs hfind _ ih =>
    by_cases hx : x.database .standard = name
    · rw [List.filter_cons_of_pos (by simpa using hx), List.filter_cons_of_pos (by simp [hfind, hx]),
        List.map_cons, ih, hsound uri x hfind]
    · rw [List.filter_cons_of_neg (by simpa using hx), List.filter_cons_of_neg (by simp [hfind, hx]), ih]

theorem make_eq_ok_iff_of_uris (h : o.uris ≠ []) : make o c r = .ok p ↔ ∃ xs, r.resolve o.uris = .ok xs ∧
    (∀ x ∈ xs, x.database .standard ∈ configured c) ∧ p = ofEntries xs := by
  have hkeys : ∀ xs : List Entry, (∀ name ∈ (ofEntries xs).keys, name ∈ configured c) ↔
      ∀ x ∈ xs, x.database .standard ∈ configured c := fun xs => by
    simp only [mem_keys_ofEntries, forall_exists_index, and_imp, forall_apply_eq_imp_iff₂]
  unfold make
  rw [if_pos (by simpa using h)]
  cases hresolve : r.resolve o.uris with
  | error fault => exact ⟨nofun, fun ⟨xs, hxs, _⟩ => nomatch hxs⟩
  | ok xs =>
    refine checked_eq_ok_iff.trans ?_
    rw [hkeys]
    simp only [Except.ok.injEq, exists_eq_left']

/-- There is a plan for URIs exactly if each names an entry whose database is configured. -/
theorem exists_make_iff_of_uris (hsound : r.Sound) (h : o.uris ≠ []) : (∃ p, make o c r = .ok p) ↔
    ∀ uri ∈ o.uris, ':' ∈ uri.toList ∧ ∃ x, r.find? uri = some x ∧ x.database .standard ∈ configured c := by
  constructor
  · rintro ⟨p, hp⟩ uri huri
    obtain ⟨xs, hresolve, hall, -⟩ := (make_eq_ok_iff_of_uris h).1 hp
    obtain ⟨hcolon, x, hx⟩ := Registry.exists_resolve_iff.1 ⟨xs, hresolve⟩ uri huri
    obtain rfl := hsound uri x hx
    exact ⟨hcolon, x, hx, hall x ((Registry.mem_of_resolve hsound hresolve).2 ⟨huri, hx⟩)⟩
  · intro hall
    obtain ⟨xs, hresolve⟩ := Registry.exists_resolve_iff.2 fun uri huri =>
      let ⟨hcolon, x, hx, _⟩ := hall uri huri
      ⟨hcolon, x, hx⟩
    refine ⟨_, (make_eq_ok_iff_of_uris h).2 ⟨xs, hresolve, fun x hx => ?_, rfl⟩⟩
    obtain ⟨huri, hfind⟩ := (Registry.mem_of_resolve hsound hresolve).1 hx
    obtain ⟨-, y, hy, hconfigured⟩ := hall x.uri huri
    obtain rfl := Option.some.inj (hfind.symm.trans hy)
    exact hconfigured

/-- In a plan for URIs a database has those whose entries live there, if there are any. -/
theorem find?_of_make (hsound : r.Sound) (h : o.uris ≠ []) (hp : make o c r = .ok p) (name : String)
    (uris : List String) : p.find? name = some uris ↔ uris ≠ [] ∧
      uris = o.uris.filter fun uri => (r.find? uri).map (·.database .standard) = some name := by
  obtain ⟨xs, hresolve, -, rfl⟩ := (make_eq_ok_iff_of_uris h).1 hp
  rw [find?_ofEntries, group_eq_filter hsound hresolve]
  split
  next hnone => exact ⟨nofun, fun ⟨hne, heq⟩ => absurd (heq.trans hnone) hne⟩
  next hsome =>
    rw [Option.some.injEq]
    exact ⟨fun heq => ⟨heq ▸ hsome, heq.symm⟩, fun heq => heq.2.symm⟩

/-- The databases that options without URIs ask for. -/
def asked (o : Options) (c : Configuration) : List String :=
  if o.databases = [] then configured c else o.databases

theorem make_eq_ok_iff_of_no_uris (h : o.uris = []) : make o c r = .ok p ↔
    (∀ name ∈ asked o c, name ∈ configured c) ∧ p = ofDatabases (asked o c) := by
  have hmake : make o c r = (ofDatabases (asked o c)).checked c := by
    unfold make asked
    rw [h]
    by_cases hnone : o.databases = []
    · rw [if_pos hnone, hnone]
      rfl
    · rw [if_neg hnone]
      simp [hnone]
  rw [hmake, checked_eq_ok_iff]
  simp only [Keyed.mem_keys_iff, find?_ofDatabases]
  simp

end Plan

/-! ## What is done about a group -/

variable {σ : Type} [Server σ]

/-- What a command does about triggers that are named: it lists each, or does the one thing to each that its
name says. -/
def actOn (c : Command) (r : Reconciler) (xs : List Entry) : Act (Desk σ) Unit :=
  match c with
  | .list => do
    let statuses ← byClient (xs.mapM fun x => do pure (x, ← r.status x))
    write (statuses.map fun (x, s) => statusLine false x.uri r.database s)
  | .install => byClient (xs.forM (r.perform .install))
  | .uninstall => byClient (xs.forM (r.perform .uninstall))
  | .enable => byClient (xs.forM (r.perform .enable))
  | .disable => byClient (xs.forM (r.perform .disable))
  | .prune => pure ()

theorem apply_named {c : Command} {r : Reconciler} {uris : List String} {xs : List Entry} (hc : c ≠ .prune)
    (hrouter : r.router = .standard) (huris : uris ≠ []) (h : r.registry.resolve uris = .ok xs)
    (pruning : Bool) : apply (σ := σ) c pruning r uris = actOn c r xs := by
  have hrun := fun verb => Reconciler.run_named (κ := Client σ) hrouter huris h verb
  have hprune := fun verb => (Reconciler.runAndPrune_named huris verb pruning).trans (hrun verb)
  cases c with
  | list =>
    unfold apply writeListing Reconciler.statuses
    rw [Reconciler.entries_named huris h, if_neg (by simpa using huris)]
    exact congrArg (byClient (xs.mapM _) >>= ·) (funext fun statuses => bind_pure _)
  | install => exact congrArg byClient (hprune .install)
  | uninstall => exact congrArg byClient (hprune .uninstall)
  | enable => exact congrArg byClient (hrun .enable)
  | disable => exact congrArg byClient (hrun .disable)
  | prune => exact absurd rfl hc

theorem request_eq_ok {c c' : Command} {o o' : Options} (h : request c o = .ok (.perform c' o')) :
    c' = c ∧ o' = o ∧ (o.uris ≠ [] → c ≠ .prune) := by
  unfold request at h
  simp only at h
  split at h
  next => cases h
  next hkept =>
    split at h
    next => cases h
    next =>
      cases h
      exact ⟨rfl, rfl, fun huris hc => hkept (by simpa [hc] using huris)⟩

/-- A command that is given URIs is not the one that only prunes. -/
theorem ne_prune_of_ofWords {words : List String} {c : Command} {o : Options}
    (h : Request.ofWords words = .ok (.perform c o)) (huris : o.uris ≠ []) : c ≠ .prune := by
  unfold Request.ofWords at h
  split at h
  next => cases h
  next word rest =>
    split at h
    next => cases h
    next =>
      split at h
      next => cases h
      next named _ =>
        obtain ⟨read, -, h⟩ := exists_ok_of_bind h
        cases read with
        | none => cases h
        | some options =>
          obtain ⟨rfl, rfl, hne⟩ := request_eq_ok h
          exact hne huris

/-- Planning neither loses nor repeats a trigger and stays with what is named. A plan for URIs is there exactly if
each is well formed, registered and in a configured database; its groups are a permutation of the URIs, each is
the URIs of its database in their order, and none is empty, so that what a command does in a database is what it
does about the triggers named. Without URIs a plan is there exactly if all databases asked for are configured,
which are then its keys, each without a URI. And a command with URIs is never the one that only prunes. -/
theorem Plan.make_exact (changes : List Shared.Change) (c : Configuration) (o : Options) :
    let r := (Shared.reached changes).registry
    (o.uris ≠ [] →
      ((∃ p, Plan.make o c r = .ok p) ↔ ∀ uri ∈ o.uris, ':' ∈ uri.toList ∧
        ∃ x, r.find? uri = some x ∧ x.database .standard ∈ Plan.configured c) ∧
      ∀ p, Plan.make o c r = .ok p →
        p.values.flatten.Perm o.uris ∧
        (∀ name uris, p.find? name = some uris ↔ uris ≠ [] ∧
          uris = o.uris.filter fun uri => (r.find? uri).map (·.database .standard) = some name) ∧
        ∀ name uris settings, p.find? name = some uris →
          let reconciler : Reconciler := { registry := r, settings, database := name }
          ∃ xs, List.Forall₂ (fun uri x => r.find? uri = some x) uris xs ∧
            ∀ command pruning, command ≠ .prune →
              apply (σ := σ) command pruning reconciler uris = actOn command reconciler xs) ∧
    (o.uris = [] →
      ((∃ p, Plan.make o c r = .ok p) ↔ ∀ name ∈ Plan.asked o c, name ∈ Plan.configured c) ∧
      ∀ p, Plan.make o c r = .ok p →
        ∀ name uris, p.find? name = some uris ↔ name ∈ Plan.asked o c ∧ uris = []) ∧
    ∀ words command, Request.ofWords words = .ok (.perform command o) → o.uris ≠ [] → command ≠ .prune := by
  intro r
  have hsound : r.Sound := (Shared.sound_reached changes).registry
  refine ⟨fun h => ⟨Plan.exists_make_iff_of_uris hsound h, fun p hp => ?_⟩,
    fun h => ⟨?_, fun p hp name uris => ?_⟩, fun words command => ne_prune_of_ofWords⟩
  · have hfind := Plan.find?_of_make hsound h hp
    obtain ⟨xs, hresolve, -, rfl⟩ := (Plan.make_eq_ok_iff_of_uris h).1 hp
    refine ⟨?_, hfind, fun name uris settings hname => ?_⟩
    · rw [← Registry.map_uri_of_resolve hsound hresolve]
      exact Plan.perm_ofEntries xs
    · obtain ⟨hne, huris⟩ := (hfind name uris).1 hname
      obtain ⟨ys, hys⟩ : ∃ ys, r.resolve uris = .ok ys := Registry.exists_resolve_iff.2 fun uri huri =>
        Registry.exists_resolve_iff.1 ⟨xs, hresolve⟩ uri (List.mem_of_mem_filter (huris ▸ huri))
      exact ⟨ys, Registry.forall₂_of_resolve hys, fun command pruning hcommand =>
        apply_named hcommand rfl hne hys pruning⟩
  · simp only [Plan.make_eq_ok_iff_of_no_uris h, exists_and_left, exists_eq, and_true]
  · obtain ⟨-, rfl⟩ := (Plan.make_eq_ok_iff_of_no_uris h).1 hp
    rw [Plan.find?_ofDatabases]
    split <;> simp_all [eq_comm]

namespace Plan

/-- One trigger on books, and one on pages, which live in a database of their own. -/
def booksAndPages : List Shared.Change :=
  [.register ⟨Registry.labelled "library.Book" "book", .ok Registry.deletesForbidden⟩,
    .register ⟨{ Registry.labelled "library.Page" "page" with database := some "pages" },
      .ok Registry.deletesForbidden⟩]

/-- Both databases are configured. -/
def bothConfigured : Configuration := { databases := [⟨"default", ""⟩, ⟨"pages", ""⟩] }

/-- The trigger on books is named twice, and in between the one on pages. -/
def booksTwice : Options :=
  { uris := ["library.Book:protect_deletes", "library.Page:protect_deletes", "library.Book:protect_deletes"] }

theorem make_exact_booksTwice : ∃ p, make booksTwice bothConfigured (Shared.reached booksAndPages).registry = .ok p ∧
    p.find? "default" = some ["library.Book:protect_deletes", "library.Book:protect_deletes"] ∧
    p.find? "pages" = some ["library.Page:protect_deletes"] := by
  have huris : booksTwice.uris ≠ [] := List.cons_ne_nil _ _
  obtain ⟨hexists, hplan⟩ := (make_exact (σ := Script) booksAndPages bothConfigured booksTwice).1 huris
  have hnamed : ∀ uri ∈ booksTwice.uris, ':' ∈ uri.toList ∧ ∃ name ∈ configured bothConfigured,
      ((Shared.reached booksAndPages).registry.find? uri).map (·.database .standard) = some name := by
    decide +kernel
  obtain ⟨p, hp⟩ := hexists.2 fun uri huri => by
    obtain ⟨hcolon, name, hname, hfind⟩ := hnamed uri huri
    obtain ⟨x, hx, rfl⟩ := Option.map_eq_some_iff.1 hfind
    exact ⟨hcolon, x, hx, hname⟩
  obtain ⟨-, hgroups, -⟩ := hplan p hp
  exact ⟨p, hp, (hgroups _ _).2 ⟨by decide, by decide +kernel⟩, (hgroups _ _).2 ⟨by decide, by decide +kernel⟩⟩

end Plan

end Command

end DeclaredTriggers
