import DeclaredTriggers.Proofs.Keyed
import DeclaredTriggers.Proofs.Trigger.Identifier
import Mathlib.Data.List.Induction

/-!
# Places of registered triggers

A trigger has a place in the database: the table it is on and its name. A registry looks a new trigger up by
its place and by its identifier, but stores it under its URI, which says neither. The three agree as long as
the same trigger is not declared for one table under two labels. Declaring it so is not refused: the second
entry is put beside the first, and both have the same place. Up to the first such call (`Registry.Repeats`)
every registry is as it should be, and behind it none is:

> `distinct_iff`: along a run of calls, places and identifiers are distinct and no call makes a place
> disappear, exactly if no call declares a trigger of the table once more under another URI.

What one call does is `register_of_repeats` in the one case and `Sound.keeps` in the other.
-/

namespace DeclaredTriggers

/-! ## URIs -/

theorem Trigger.not_mem_name (t : Trigger) : ':' ∉ t.name.toList := by
  intro h
  have hname := Definition.isNameCharacter_of_nameFault? t.named h
  revert hname
  decide

/-- A URI has one label and one name: the name is what follows its last colon. -/
theorem Trigger.name_eq_of_uri_eq {t u : Trigger} {e f : Entity} (h : t.uri e = u.uri f) :
    t.name = u.name := by
  have hlast : ∀ (label : String) (t : Trigger),
      (label ++ ":" ++ t.name).toList.reverse.takeWhile (· ≠ ':') = t.name.toList.reverse := by
    intro label t
    have hmem : ∀ c ∈ t.name.toList.reverse, decide (c ≠ ':') = true := by
      intro c hc
      refine decide_eq_true ?_
      rintro rfl
      exact t.not_mem_name (List.mem_reverse.1 hc)
    rw [String.toList_append, String.toList_append, List.reverse_append, List.reverse_append,
      List.takeWhile_append_of_pos hmem]
    simp
  unfold Trigger.uri at h
  have hsame := hlast e.label t
  rw [h, hlast f.label u] at hsame
  exact (String.toList_injective (List.reverse_injective hsame)).symm

namespace Entry

/-- The table that an entry's trigger is on, and its name. -/
def place (x : Entry) : String × String := (x.table, x.trigger.name)

/-- An identifier is made from the URI. -/
theorem pgid_eq_of_uri_eq {x y : Entry} (h : x.uri = y.uri) : x.pgid = y.pgid := by
  have hname : x.trigger.name = y.trigger.name := Trigger.name_eq_of_uri_eq h
  have huri : x.trigger.uri x.entity = y.trigger.uri y.entity := h
  rw [x.pgid_eq_folded, y.pgid_eq_folded, hname, huri]

end Entry

namespace Registry

variable {r r' : Registry} {e : Entity} {t : Trigger}

/-! ## Calls -/

/-- A call that may change a registry. -/
inductive Call where
  | register (e : Entity) (t : Trigger)
  | unregister (uri : String)

/-- The registry after a call. One that fails leaves it as it is. -/
def next (r : Registry) : Call → Registry
  | .register e t => (r.register e t).toOption.getD r
  | .unregister uri => r.erase uri

/-- The registry after some calls. -/
def after (r : Registry) (calls : List Call) : Registry := calls.foldl next r

theorem after_concat (r : Registry) (calls : List Call) (call : Call) :
    r.after (calls ++ [call]) = (r.after calls).next call := by
  unfold after
  rw [List.foldl_append]
  rfl

theorem next_of_register (h : r.register e t = .ok r') : r.next (.register e t) = r' := by
  show (r.register e t).toOption.getD r = r'
  rw [h]
  rfl

theorem next_of_error {fault : Error} (h : r.register e t = .error fault) :
    r.next (.register e t) = r := by
  show (r.register e t).toOption.getD r = r
  rw [h]
  rfl

/-- Whether a registry takes an entry: the trigger in its place is the same, or there is none and the
identifier is free. -/
def Takes (r : Registry) (z : Entry) : Prop :=
  (∃ x, r.named? z.table z.trigger.name = some x ∧ x.trigger.same z.trigger) ∨
    r.named? z.table z.trigger.name = none ∧ r.byPgid? z.pgid = none

theorem register_eq_ok_iff {z : Entry} :
    r.register z.entity z.trigger = .ok r' ↔ r.Takes z ∧ r' = r.put z := by
  have hput : ∀ {taken : Prop}, taken → ((.ok (r.put z) : Except Error Registry) = .ok r' ↔ taken ∧ r' = r.put z) :=
    fun htaken => ⟨fun h => ⟨htaken, (Except.ok.inj h).symm⟩, fun h => congrArg _ h.2.symm⟩
  unfold register Takes
  split
  next fault hfault => cases z.pgid_eq.symm.trans hfault
  next pgid hpgid =>
    obtain rfl := Except.ok.inj (z.pgid_eq.symm.trans hpgid)
    split
    next x hx =>
      have hx : r.named? z.table z.trigger.name = some x := hx
      simp only [hx, Option.some.injEq, exists_eq_left', reduceCtorEq, false_and, or_false]
      split
      next hsame => exact hput hsame
      next hother => exact ⟨nofun, fun h => absurd h.1 hother⟩
    next hnone =>
      have hnone : r.named? z.table z.trigger.name = none := hnone
      simp only [hnone, reduceCtorEq, false_and, exists_false, true_and, false_or]
      split
      next x hx => exact ⟨nofun, fun h => nomatch hx.symm.trans h.1⟩
      next hfree => exact hput hfree

/-- What a call that succeeds puts into its place: a trigger that is there already, or one whose place and
identifier are free. -/
theorem register_cases (h : r.register e t = .ok r') : ∃ z : Entry, z.entity = e ∧ z.trigger = t ∧
    r' = r.put z ∧ r.Takes z := by
  obtain ⟨pgid, hpgid⟩ := t.exists_pgid e
  obtain ⟨htakes, hput⟩ := register_eq_ok_iff (z := ⟨e, t, pgid, hpgid⟩).1 h
  exact ⟨_, rfl, rfl, hput, htakes⟩

/-! ## What is stored -/

/-- Each entry is stored under its URI. -/
def Sound (r : Registry) : Prop := ∀ uri x, r.find? uri = some x → x.uri = uri

/-- No two entries have a place or an identifier in common. -/
structure Distinct (r : Registry) : Prop where
  places : (r.entries.map (·.place)).Nodup
  pgids : (r.entries.map (·.pgid)).Nodup

/-- Every place of an entry of `r` is one of `r'` too. -/
def KeepsPlaces (r r' : Registry) : Prop := ∀ x ∈ r.entries, ∃ y ∈ r'.entries, y.place = x.place

theorem mem_entries_iff {x : Entry} : x ∈ r.entries ↔ ∃ uri, r.find? uri = some x := Keyed.mem_values_iff

theorem find?_put (r : Registry) (z : Entry) (uri : String) :
    (r.put z).find? uri = if uri = z.uri then some z else r.find? uri := Keyed.find?_insert

theorem find?_erase (r : Registry) (gone uri : String) :
    (r.erase gone).find? uri = if uri = gone then none else r.find? uri := Keyed.find?_erase

theorem named?_eq_some {table name : String} {x : Entry} (h : r.named? table name = some x) :
    x ∈ r.entries ∧ x.place = (table, name) := by
  have hplace := List.find?_some h
  simp only [Bool.and_eq_true, decide_eq_true_eq] at hplace
  exact ⟨List.mem_of_find?_eq_some h, Prod.ext hplace.1 hplace.2⟩

theorem named?_eq_none_iff {table name : String} :
    r.named? table name = none ↔ ∀ x ∈ r.entries, x.place ≠ (table, name) := by
  unfold named?
  rw [List.find?_eq_none]
  simp [Entry.place]

theorem byPgid?_eq_none_iff {pgid : String} :
    r.byPgid? pgid = none ↔ ∀ x ∈ r.entries, x.pgid ≠ pgid := by
  unfold byPgid?
  rw [List.find?_eq_none]
  simp

/-! ## The same trigger under two labels -/

/-- Whether a trigger is declared for a table that has the same one under another URI. -/
def Repeats (r : Registry) (e : Entity) (t : Trigger) : Prop :=
  ∃ x ∈ r.entries, x.place = (e.table, t.name) ∧ x.trigger.same t ∧ x.uri ≠ t.uri e

/-- Such a declaration is accepted, and then two entries have one place. -/
theorem register_of_repeats (hsound : r.Sound) (h : r.Distinct) (hrepeats : r.Repeats e t) :
    ∃ r', r.register e t = .ok r' ∧ ¬ (r'.entries.map (·.place)).Nodup := by
  obtain ⟨x, hx, hplace, hsame, huri⟩ := hrepeats
  obtain ⟨pgid, hpgid⟩ := t.exists_pgid e
  have hnamed : r.named? e.table t.name = some x := by
    cases hfound : r.named? e.table t.name with
    | none => exact absurd hplace (named?_eq_none_iff.1 hfound x hx)
    | some y =>
      -- there is only one entry at the place
      obtain ⟨hy, hyplace⟩ := named?_eq_some hfound
      exact congrArg some (List.inj_on_of_nodup_map h.places hy hx (hyplace.trans hplace.symm))
  refine ⟨r.put ⟨e, t, pgid, hpgid⟩, ?_, fun hnodup => huri ?_⟩
  · exact register_eq_ok_iff (z := ⟨e, t, pgid, hpgid⟩).2 ⟨.inl ⟨x, hnamed, hsame⟩, rfl⟩
  · obtain ⟨uri, hfind⟩ := mem_entries_iff.1 hx
    obtain rfl := hsound uri x hfind
    by_contra hne
    refine hne (Keyed.nodup_map_values_iff.1 hnodup x.uri (t.uri e) x ⟨e, t, pgid, hpgid⟩ ?_ ?_ hplace)
    · exact (r.find?_put _ _).trans ((if_neg hne).trans hfind)
    · exact (r.find?_put _ _).trans (if_pos rfl)

/-! ## All other calls -/

/-- What is read off the entries stays distinct where an entry is put whose own is not that of another. -/
theorem nodup_put {β : Type} {f : Entry → β} {z : Entry} (hsound : r.Sound)
    (h : (r.entries.map f).Nodup) (hnew : ∀ y ∈ r.entries, y.uri ≠ z.uri → f y ≠ f z) :
    ((r.put z).entries.map f).Nodup := by
  have hother : ∀ k y, k ≠ z.uri → r.find? k = some y → f y ≠ f z := fun k y hk hy =>
    hnew y (mem_entries_iff.2 ⟨k, hy⟩) (by rwa [hsound k y hy])
  refine Keyed.nodup_map_values_iff.2 fun k l a b hk hl hf => ?_
  change (r.put z).find? k = some a at hk
  change (r.put z).find? l = some b at hl
  rw [find?_put] at hk hl
  split at hk <;> split at hl
  next hkz hlz => exact hkz.trans hlz.symm
  next hkz hlz =>
    obtain rfl := Option.some.inj hk
    exact absurd hf.symm (hother l b hlz hl)
  next hkz hlz =>
    obtain rfl := Option.some.inj hl
    exact absurd hf (hother k a hkz hk)
  next => exact Keyed.nodup_map_values_iff.1 h k l a b hk hl hf

theorem Sound.put (h : r.Sound) (z : Entry) : (r.put z).Sound := by
  intro uri x hx
  rw [find?_put] at hx
  split at hx
  next huri =>
    obtain rfl := Option.some.inj hx
    exact huri.symm
  next => exact h uri x hx

theorem Sound.erase (h : r.Sound) (uri : String) : (r.erase uri).Sound := by
  intro uri' x hx
  rw [find?_erase] at hx
  split at hx
  next => cases hx
  next => exact h uri' x hx

theorem sound_empty : Sound {} := fun uri x hx => by cases hx

/-- A call that succeeds and repeats nothing keeps everything distinct, and every place. -/
theorem Sound.keeps (hsound : r.Sound) (h : r.Distinct) (hrepeats : ¬ r.Repeats e t)
    (hresult : r.register e t = .ok r') : r'.Distinct ∧ r.KeepsPlaces r' := by
  obtain ⟨z, rfl, rfl, rfl, ⟨x, hnamed, hsame⟩ | ⟨hnone, hfree⟩⟩ := register_cases hresult
  · -- the trigger is there already, so it is under this URI and gives way
    obtain ⟨hx, hplace⟩ := named?_eq_some hnamed
    have huri : x.uri = z.uri := by
      by_contra hne
      exact hrepeats ⟨x, hx, hplace, hsame, hne⟩
    have hplace : x.place = z.place := hplace
    have hpgid := Entry.pgid_eq_of_uri_eq huri
    have hone : ∀ {β : Type} {f : Entry → β}, f x = f z → (r.entries.map f).Nodup →
        ∀ y ∈ r.entries, y.uri ≠ z.uri → f y ≠ f z := by
      intro β f hf hnodup y hy hne hyz
      exact hne (List.inj_on_of_nodup_map hnodup hy hx (hyz.trans hf.symm) ▸ huri)
    refine ⟨⟨nodup_put hsound h.places (hone hplace h.places), nodup_put hsound h.pgids (hone hpgid h.pgids)⟩,
      fun y hy => ?_⟩
    obtain ⟨uri, hfind⟩ := mem_entries_iff.1 hy
    by_cases hz : uri = z.uri
    · refine ⟨z, mem_entries_iff.2 ⟨z.uri, (find?_put r z _).trans (if_pos rfl)⟩, ?_⟩
      rw [List.inj_on_of_nodup_map h.places hy hx ?_, hplace]
      obtain ⟨uri', hfind'⟩ := mem_entries_iff.1 hx
      rw [← hsound uri' x hfind', huri, ← hz, hfind] at hfind'
      rw [Option.some.inj hfind']
    · exact ⟨y, mem_entries_iff.2 ⟨uri, (find?_put r z _).trans ((if_neg hz).trans hfind)⟩, rfl⟩
  · -- nothing has the URI, since it would have the identifier too
    have hplaces : ∀ y ∈ r.entries, y.place ≠ z.place := named?_eq_none_iff.1 hnone
    have hpgids : ∀ y ∈ r.entries, y.pgid ≠ z.pgid := byPgid?_eq_none_iff.1 hfree
    refine ⟨⟨nodup_put hsound h.places fun y hy _ => hplaces y hy,
      nodup_put hsound h.pgids fun y hy _ => hpgids y hy⟩, fun y hy => ⟨y, ?_, rfl⟩⟩
    obtain ⟨uri, hfind⟩ := mem_entries_iff.1 hy
    have hz : uri ≠ z.uri := fun hz =>
      hpgids y hy (Entry.pgid_eq_of_uri_eq ((hsound uri y hfind).trans hz))
    exact mem_entries_iff.2 ⟨uri, (find?_put r z _).trans ((if_neg hz).trans hfind)⟩

theorem sound_after (calls : List Call) : (after {} calls).Sound := by
  induction calls using List.reverseRecOn with
  | nil => exact sound_empty
  | append_singleton calls call ih =>
    rw [after_concat]
    cases call with
    | register e t =>
      cases hresult : (after {} calls).register e t with
      | error fault =>
        rw [next_of_error hresult]
        exact ih
      | ok r' =>
        rw [next_of_register hresult]
        obtain ⟨z, -, -, rfl, -⟩ := register_cases hresult
        exact ih.put z
    | unregister uri => exact ih.erase uri

theorem Distinct.erase (h : r.Distinct) (uri : String) : (r.erase uri).Distinct := by
  have hfilter : (r.erase uri).entries.Sublist r.entries := List.filter_sublist.map _
  exact ⟨h.places.sublist (hfilter.map _), h.pgids.sublist (hfilter.map _)⟩

/-! ## Runs -/

/-- No call among some declares a trigger that the table has under another URI. -/
def NeverRepeats (calls : List Call) : Prop :=
  ∀ before e t later, calls = before ++ .register e t :: later → ¬ (after {} before).Repeats e t

theorem distinct_of_neverRepeats {calls : List Call} (h : NeverRepeats calls) :
    (after {} calls).Distinct := by
  induction calls using List.reverseRecOn with
  | nil => exact ⟨List.nodup_nil, List.nodup_nil⟩
  | append_singleton calls call ih =>
    have hbefore : (after {} calls).Distinct := by
      refine ih fun before e t later hcalls => h before e t (later ++ [call]) ?_
      rw [hcalls, List.append_assoc, List.cons_append]
    rw [after_concat]
    cases call with
    | register e t =>
      cases hresult : (after {} calls).register e t with
      | error fault =>
        rw [next_of_error hresult]
        exact hbefore
      | ok r' =>
        rw [next_of_register hresult]
        exact ((sound_after calls).keeps hbefore (h calls e t [] rfl) hresult).1
    | unregister uri => exact hbefore.erase uri

/-- Along a run of calls, places and identifiers are distinct and no call that registers makes a place
disappear, exactly if no call declares a trigger of the table once more under another URI. -/
theorem distinct_iff (calls : List Call) :
    ((∀ before later, calls = before ++ later → (after {} before).Distinct) ∧
      ∀ before e t later r', calls = before ++ .register e t :: later →
        (after {} before).register e t = .ok r' → (after {} before).KeepsPlaces r') ↔
      NeverRepeats calls := by
  constructor
  · rintro ⟨hdistinct, -⟩ before e t later hcalls hrepeats
    obtain ⟨r', hresult, hshared⟩ := register_of_repeats (sound_after before)
      (hdistinct before (.register e t :: later) hcalls) hrepeats
    refine hshared ?_
    have hnext := hdistinct (before ++ [.register e t]) later
      (by rw [hcalls, List.append_assoc, List.singleton_append])
    rw [after_concat, next_of_register hresult] at hnext
    exact hnext.places
  · intro h
    have hdistinct : ∀ before later, calls = before ++ later → (after {} before).Distinct := by
      intro before later hcalls
      refine distinct_of_neverRepeats fun before' e t later' hbefore => h before' e t (later' ++ later) ?_
      rw [hcalls, hbefore, List.append_assoc, List.cons_append]
    refine ⟨hdistinct, fun before e t later r' hcalls hresult => ?_⟩
    exact ((sound_after before).keeps (hdistinct before _ hcalls) (h before e t later hcalls) hresult).2

/-! ## One trigger under two labels -/

/-- A trigger that forbids deletes. -/
def deletesForbidden : Trigger where
  name := "protect_deletes"
  level := .row
  moment := .before
  operation := .delete
  condition := none
  tables := none
  declare := []
  timing := none
  kind := .protect
  named := by decide
  sound := by decide

/-- What is called `label` and kept in `table`. -/
def labelled (label table : String) : Entity := { label, table, fields := [{ name := "id" }] }

/-- The trigger declared for some tables, each under a label. -/
def declared (places : List (String × String)) : List Call :=
  places.map fun (label, table) => .register (labelled label table) deletesForbidden

/-- Declared for one table under two labels, a trigger has two entries in one place. The second may take the
identifier of a trigger on another table, or the URI of one, whose place is then gone. -/
theorem places_shared :
    (¬ ∀ calls, ((after {} calls).entries.map (·.place)).Nodup) ∧
      (¬ ∀ calls, ((after {} calls).entries.map (·.pgid)).Nodup) ∧
      ¬ ∀ calls e t r', (after {} calls).register e t = .ok r' → (after {} calls).KeepsPlaces r' := by
  refine ⟨fun h => ?_, fun h => ?_, fun h => ?_⟩
  · have hshared := h (declared [("library.Book", "book"), ("library.BookProxy", "book")])
    revert hshared
    decide +kernel
  · -- the URIs of the first and the last have digests that begin with the same five digits
    have hshared := h (declared
      [("library.Book361", "book"), ("library.Page", "page"), ("library.Book1596", "page")])
    revert hshared
    decide +kernel
  · let calls := declared [("library.Book", "book"), ("library.Page", "page")]
    have hplaces : (after {} calls).entries.map (·.place) =
        [("book", "protect_deletes"), ("page", "protect_deletes")] := by decide +kernel
    have hlost : ((after {} calls).register (labelled "library.Book" "page") deletesForbidden).toOption.map
        (·.entries.map (·.place)) = some [("page", "protect_deletes"), ("page", "protect_deletes")] := by
      decide +kernel
    cases hresult : (after {} calls).register (labelled "library.Book" "page") deletesForbidden with
    | error fault =>
      rw [hresult] at hlost
      cases hlost
    | ok r' =>
      rw [hresult] at hlost
      have hlost : r'.entries.map (·.place) = [("page", "protect_deletes"), ("page", "protect_deletes")] :=
        Option.some.inj hlost
      have hmem : ("book", "protect_deletes") ∈ (after {} calls).entries.map (·.place) := by
        rw [hplaces]
        exact List.mem_cons_self
      obtain ⟨x, hx, hplace⟩ := List.mem_map.1 hmem
      obtain ⟨y, hy, hsame⟩ := h calls _ _ r' hresult x hx
      have hkept : ("book", "protect_deletes") ∈ r'.entries.map (·.place) :=
        List.mem_map.2 ⟨y, hy, hsame.trans hplace⟩
      rw [hlost] at hkept
      revert hkept
      decide

end Registry

end DeclaredTriggers
