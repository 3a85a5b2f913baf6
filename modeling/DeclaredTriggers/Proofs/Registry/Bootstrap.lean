import DeclaredTriggers.Proofs.Registry.Guards
import DeclaredTriggers.Proofs.Trigger.Sameness

/-!
# Filling a registry twice

A registry is filled from a list of triggers, each for its entity, and it should make no difference to do so
once more. The second time every trigger finds one of its name on its table, which is not looked at but for
being the same. What carries both passes is that the triggers in one place are the same, and that each one
that was declared has its place under its URI (`Settled`); a trigger that is declared again is taken then,
and what the whole list leaves is what it left before, the last entry under each URI (`putEach_putEach`).

Two things stand in the way. A trigger that holds a NaN is not the same as itself, and a URI may be declared
for two tables, where the later entry takes away the earlier one's place.

> `bootstrap_repeats_iff`: a list that fills an empty registry fills it a second time with nothing changed,
> and each of its triggers is there under its URI and on its table, if and only if none holds a NaN and no
> URI is declared for two tables.
-/

namespace DeclaredTriggers

/-- What an entry is made of. -/
def Entry.parts (x : Entry) : Entity × Trigger := (x.entity, x.trigger)

theorem Entry.parts_surjective : Function.Surjective Entry.parts := fun p =>
  let ⟨pgid, h⟩ := p.2.exists_pgid p.1
  ⟨⟨p.1, p.2, pgid, h⟩, rfl⟩

theorem Entry.place_eq_of_uri_eq {x y : Entry} (huri : x.uri = y.uri) (htable : x.table = y.table) :
    x.place = y.place :=
  Prod.ext htable (Trigger.name_eq_of_uri_eq huri)

namespace Registry

variable {r r' : Registry} {z : Entry} {zs seen later : List Entry} {n : Nat}

/-! ## One pass -/

/-- Whether a registry takes some entries, one after another. -/
def TakesEach (r : Registry) : List Entry → Prop
  | [] => True
  | z :: zs => r.Takes z ∧ (r.put z).TakesEach zs

/-- The registry with some entries put one after another. -/
def putEach (r : Registry) (zs : List Entry) : Registry := zs.foldl put r

/-- Registrations of triggers that were built. -/
def built (ps : List (Entity × Trigger)) : List Registration := ps.map fun (e, t) => ⟨e, .ok t⟩

theorem result_forM_declare_eq_ok_iff :
    Act.result (zs.forM fun z => declare z.entity z.trigger) r = (.ok (), r') ↔
      r.TakesEach zs ∧ r' = r.putEach zs := by
  induction zs generalizing r with
  | nil => exact ⟨fun h => ⟨trivial, (Prod.mk.inj h).2.symm⟩, fun h => Prod.ext rfl h.2.symm⟩
  | cons z zs ih =>
    rw [List.forM_eq_forM, List.forM_cons, Act.result_bind, result_declare]
    cases hz : r.register z.entity z.trigger with
    | ok s =>
      obtain ⟨htakes, rfl⟩ := register_eq_ok_iff.1 hz
      exact ih.trans (and_congr_left' (and_iff_right htakes).symm)
    | error fault =>
      refine ⟨nofun, fun h => ?_⟩
      cases hz.symm.trans (register_eq_ok_iff.2 ⟨h.1.1, rfl⟩)

/-- A pass succeeds if each entry is taken, and puts them all. -/
theorem result_bootstrap_eq_ok_iff : Act.result (bootstrap (built (zs.map Entry.parts))) r = (.ok n, r') ↔
    r.TakesEach zs ∧ r' = r.putEach zs ∧ n = r'.size := by
  have hpass : (built (zs.map Entry.parts)).forM (fun x => do
      let t ← x.trigger
      declare x.entity t) = zs.forM fun z => declare z.entity z.trigger := by
    unfold built
    rw [List.forM_eq_forM, List.map_map, List.forM_map]
    rfl
  unfold bootstrap
  rw [hpass]
  constructor
  · intro h
    obtain ⟨u, s, hs, hend⟩ := Act.exists_ok_of_result_bind h
    obtain ⟨htakes, rfl⟩ := result_forM_declare_eq_ok_iff.1 hs
    cases hend
    exact ⟨htakes, rfl, rfl⟩
  · rintro ⟨htakes, rfl, rfl⟩
    exact Act.result_bind_ok (result_forM_declare_eq_ok_iff.2 ⟨htakes, rfl⟩) _

/-! ## What is settled -/

theorem eq_or_mem_of_mem_put {x : Entry} (h : x ∈ (r.put z).entries) : x = z ∨ x ∈ r.entries := by
  obtain ⟨uri, hfind⟩ := mem_entries_iff.1 h
  rw [find?_put] at hfind
  split at hfind
  next => exact .inl (Option.some.inj hfind).symm
  next => exact .inr (mem_entries_iff.2 ⟨uri, hfind⟩)

/-- The triggers in one place are the same, and each of some entries has its place under its URI. -/
structure Settled (seen : List Entry) (r : Registry) : Prop where
  stored : ∀ x ∈ seen, ∃ y, r.find? x.uri = some y ∧ y.place = x.place ∧ y.trigger.same x.trigger
  same : ∀ x ∈ r.entries, ∀ y ∈ r.entries, x.place = y.place → x.trigger.same y.trigger

/-- None of some entries holds a NaN, and no two have one URI but different tables. -/
structure Repeatable (zs : List Entry) : Prop where
  numbers : ∀ z ∈ zs, Value.notANumber ∉ z.trigger.held
  tables : ∀ x ∈ zs, ∀ y ∈ zs, x.uri = y.uri → x.table = y.table

theorem settled_empty : Settled [] {} :=
  ⟨fun _ hx => absurd hx List.not_mem_nil, fun _ hx => absurd hx List.not_mem_nil⟩

namespace Settled

/-- A trigger in the place of one that is taken is the same. -/
theorem same_of_takes (h : Settled seen r) (htakes : r.Takes z) {y : Entry} (hy : y ∈ r.entries)
    (hplace : y.place = z.place) : y.trigger.same z.trigger := by
  rcases htakes with ⟨x, hnamed, hsame⟩ | ⟨hnone, -⟩
  · obtain ⟨hx, hxplace⟩ := named?_eq_some hnamed
    exact Trigger.same_trans (h.same y hy x hx (hplace.trans hxplace.symm)) hsame
  · exact absurd hplace (named?_eq_none_iff.1 hnone y hy)

/-- What was declared is taken again. -/
theorem takes (h : Settled seen r) (hz : z ∈ seen) : r.Takes z := by
  obtain ⟨y, hfind, hplace, hsame⟩ := h.stored z hz
  have hy : y ∈ r.entries := mem_entries_iff.2 ⟨z.uri, hfind⟩
  cases hnamed : r.named? z.table z.trigger.name with
  | none => exact absurd hplace (named?_eq_none_iff.1 hnamed y hy)
  | some x =>
    obtain ⟨hx, hxplace⟩ := named?_eq_some hnamed
    exact .inl ⟨x, hnamed, Trigger.same_trans (h.same x hx y hy (hxplace.trans hplace.symm)) hsame⟩

variable (hall : Repeatable zs)
include hall

theorem put (h : Settled seen r) (htakes : r.Takes z) (hseen : seen ⊆ zs) (hz : z ∈ zs) :
    Settled (seen ++ [z]) (r.put z) := by
  have hself : z.trigger.same z.trigger := Trigger.same_self_iff.2 (hall.numbers z hz)
  constructor
  · intro x hx
    rw [find?_put]
    by_cases huri : x.uri = z.uri
    · refine ⟨z, if_pos huri, ?_⟩
      rcases List.mem_append.1 hx with hx | hx
      · -- the earlier entry under this URI has this place too, so the trigger there is the same
        have hplace := Entry.place_eq_of_uri_eq huri (hall.tables x (hseen hx) z hz huri)
        obtain ⟨y, hfind, hyplace, hysame⟩ := h.stored x hx
        have hy : y ∈ r.entries := mem_entries_iff.2 ⟨x.uri, hfind⟩
        have hyz := h.same_of_takes htakes hy (hyplace.trans hplace)
        exact ⟨hplace.symm, Trigger.same_trans (Trigger.same_symm hyz) hysame⟩
      · obtain rfl := List.mem_singleton.1 hx
        exact ⟨rfl, hself⟩
    · rcases List.mem_append.1 hx with hx | hx
      · rw [if_neg huri]
        exact h.stored x hx
      · exact absurd (congrArg Entry.uri (List.mem_singleton.1 hx)) huri
  · intro x hx y hy hplace
    rcases eq_or_mem_of_mem_put hx with hxz | hxr <;> rcases eq_or_mem_of_mem_put hy with hyz | hyr
    · rw [hxz, hyz]
      exact hself
    · rw [hxz] at hplace ⊢
      exact Trigger.same_symm (h.same_of_takes htakes hyr hplace.symm)
    · rw [hyz] at hplace ⊢
      exact h.same_of_takes htakes hxr hplace
    · exact h.same x hxr y hyr hplace

/-- A pass in which each entry is taken leaves them all settled. -/
theorem putEach (h : Settled seen r) (htakes : r.TakesEach later) (hseen : seen ⊆ zs) (hlater : later ⊆ zs) :
    Settled (seen ++ later) (r.putEach later) := by
  induction later generalizing seen r with
  | nil => rwa [List.append_nil]
  | cons z later ih =>
    obtain ⟨hz, hlater⟩ := List.cons_subset.1 hlater
    rw [List.append_cons]
    exact ih (h.put hall htakes.1 hseen hz) htakes.2 (List.append_subset.2 ⟨hseen, by simpa using hz⟩) hlater

/-- Entries that are settled are taken again, one after another. -/
theorem takesEach (h : Settled seen r) (hseen : seen ⊆ zs) (hlater : later ⊆ seen) : r.TakesEach later := by
  induction later generalizing seen r with
  | nil => trivial
  | cons z later ih =>
    obtain ⟨hz, hlater⟩ := List.cons_subset.1 hlater
    refine ⟨h.takes hz, ih (h.put hall (h.takes hz) hseen (hseen hz)) ?_ ?_⟩
    · exact List.append_subset.2 ⟨hseen, by simpa using hseen hz⟩
    · exact List.Subset.trans hlater (List.subset_append_left _ _)

end Settled

/-! ## What is left -/

/-- A URI names the last entry put there. -/
theorem find?_putEach (r : Registry) (zs : List Entry) (uri : String) :
    (r.putEach zs).find? uri = (zs.reverse.find? (·.uri = uri)).or (r.find? uri) := by
  induction zs generalizing r with
  | nil => rfl
  | cons z zs ih =>
    show ((r.put z).putEach zs).find? uri = _
    rw [ih, find?_put, List.reverse_cons, List.find?_append, Option.or_assoc]
    congr 1
    by_cases h : uri = z.uri
    · simp [h]
    · simp [h, Ne.symm h]

theorem putEach_putEach (r : Registry) (zs : List Entry) : (r.putEach zs).putEach zs = r.putEach zs := by
  refine ext_find? fun uri => ?_
  rw [find?_putEach, find?_putEach, ← Option.or_assoc, Option.or_self]

/-! ## Two passes -/

theorem takesEach_append {as bs : List Entry} :
    r.TakesEach (as ++ bs) ↔ r.TakesEach as ∧ (r.putEach as).TakesEach bs := by
  induction as generalizing r with
  | nil => exact (and_iff_right trivial).symm
  | cons a as ih => exact (and_congr_right' ih).trans and_assoc.symm

/-- A place that is under its URI stays there while entries are put that have it too. -/
theorem exists_find?_putEach (hstored : ∃ y, r.find? z.uri = some y ∧ y.place = z.place)
    (htables : ∀ x ∈ zs, x.uri = z.uri → x.table = z.table) :
    ∃ y, (r.putEach zs).find? z.uri = some y ∧ y.place = z.place := by
  rw [find?_putEach]
  cases hlast : zs.reverse.find? (·.uri = z.uri) with
  | none => exact hstored
  | some x =>
    have huri : x.uri = z.uri := by simpa using List.find?_some hlast
    have hx : x ∈ zs := List.mem_reverse.1 (List.mem_of_find?_eq_some hlast)
    exact ⟨x, rfl, Entry.place_eq_of_uri_eq huri (htables x hx huri)⟩

/-- Where all are taken that are there already, none holds a NaN: it would not be the same as what it finds. -/
theorem repeatable_of_takesEach (hsound : r.Sound) (htakes : r.TakesEach zs)
    (hstored : ∀ z ∈ zs, ∃ y, r.find? z.uri = some y ∧ y.table = z.table) : Repeatable zs := by
  have htables : ∀ x ∈ zs, ∀ y ∈ zs, x.uri = y.uri → x.table = y.table := by
    intro x hx y hy huri
    obtain ⟨a, ha, hax⟩ := hstored x hx
    obtain ⟨b, hb, hby⟩ := hstored y hy
    rw [huri, hb] at ha
    obtain rfl := Option.some.inj ha
    exact hax.symm.trans hby
  refine ⟨fun z hz => ?_, htables⟩
  obtain ⟨before, after, rfl⟩ := List.append_of_mem hz
  obtain ⟨y, hfind, hplace⟩ : ∃ y, (r.putEach before).find? z.uri = some y ∧ y.place = z.place := by
    refine exists_find?_putEach ?_ fun x hx => htables x (List.mem_append_left _ hx) z hz
    obtain ⟨y, hfind, htable⟩ := hstored z hz
    exact ⟨y, hfind, Entry.place_eq_of_uri_eq (hsound z.uri y hfind) htable⟩
  rcases (takesEach_append.1 htakes).2.1 with ⟨x, -, hsame⟩ | ⟨hnone, -⟩
  · exact (Trigger.same_iff.1 hsame).2.1
  · exact absurd hplace (named?_eq_none_iff.1 hnone y (mem_entries_iff.2 ⟨z.uri, hfind⟩))

/-- A list of triggers, each for its entity, that fills an empty registry fills it a second time with the
same count and nothing changed, and each of them is there under its URI and on its entity's table, if and only
if none of them holds a NaN and no URI is declared for two tables. -/
theorem bootstrap_repeats_iff (ps : List (Entity × Trigger)) (n : Nat) (r : Registry)
    (h : Act.result (bootstrap (built ps)) {} = (.ok n, r)) :
    (Act.result (bootstrap (built ps)) r = (.ok n, r) ∧
      ∀ p ∈ ps, ∃ y, r.find? (p.2.uri p.1) = some y ∧ y.table = p.1.table) ↔
      (∀ p ∈ ps, Value.notANumber ∉ p.2.held) ∧
        ∀ p ∈ ps, ∀ q ∈ ps, p.2.uri p.1 = q.2.uri q.1 → p.1.table = q.1.table := by
  have hsound : r.Sound := by
    have hfilled := sound_empty.bootstrapped (built ps)
    rwa [h] at hfilled
  obtain ⟨zs, rfl⟩ := List.map_surjective_iff.2 Entry.parts_surjective ps
  obtain ⟨htakes, rfl, rfl⟩ := result_bootstrap_eq_ok_iff.1 h
  simp only [List.forall_mem_map]
  constructor
  · rintro ⟨hagain, hstored⟩
    have hall := repeatable_of_takesEach hsound (result_bootstrap_eq_ok_iff.1 hagain).1 hstored
    exact ⟨hall.numbers, hall.tables⟩
  · rintro ⟨hnumbers, htables⟩
    have hall : Repeatable zs := ⟨hnumbers, htables⟩
    have hsettled := settled_empty.putEach hall htakes (List.nil_subset zs) (List.Subset.refl zs)
    refine ⟨result_bootstrap_eq_ok_iff.2 ⟨?_, (putEach_putEach _ zs).symm, rfl⟩, fun z hz => ?_⟩
    · exact hsettled.takesEach hall (List.Subset.refl zs) (List.Subset.refl zs)
    · obtain ⟨y, hfind, hplace, -⟩ := hsettled.stored z hz
      exact ⟨y, hfind, (Prod.mk.inj hplace).1⟩

/-- A trigger declared for some tables, each under a label. -/
def declaredFor (t : Trigger) (places : List (String × String)) : List (Entity × Trigger) :=
  places.map fun (label, table) => (labelled label table, t)

/-- One trigger for a table under two labels, and under the first once more. -/
def proxied : List (Entity × Trigger) :=
  declaredFor deletesForbidden
    [("library.Book", "book"), ("library.BookProxy", "book"), ("library.Book", "book")]

theorem bootstrap_repeats_proxied :
    let once := Act.result (bootstrap (built proxied)) {}
    once.1 = .ok 2 ∧ Act.result (bootstrap (built proxied)) once.2 = (.ok 2, once.2) := by
  intro once
  have honce : once.1 = .ok 2 := eq_ok_of_toOption (by decide +kernel)
  refine ⟨honce, ((bootstrap_repeats_iff proxied 2 once.2 (Prod.ext honce rfl)).2 ⟨?_, by decide⟩).1⟩
  intro p hp
  obtain ⟨place, -, rfl⟩ := List.mem_map.1 hp
  exact List.not_mem_nil

/-- A trigger that sets a price to NaN in place of a delete. -/
def priceLost : Trigger where
  name := "price_lost"
  level := .row
  moment := .before
  operation := .delete
  condition := none
  tables := none
  declare := []
  timing := none
  kind := .softDelete "price" Value.notANumber
  named := by decide
  sound := by decide

/-- A trigger for two tables, the second of them under a label of its own and then under that of the first. -/
def moved : List (Entity × Trigger) :=
  declaredFor deletesForbidden
    [("library.Book", "book"), ("library.Page", "page"), ("library.Book", "page")]

/-- A trigger with a NaN is refused the second time, and the first of two tables with one URI is left without
its trigger. -/
theorem bootstrap_not_repeated :
    (¬ ∀ ps n r, Act.result (bootstrap (built ps)) {} = (.ok n, r) →
      ∃ r', Act.result (bootstrap (built ps)) r = (.ok n, r')) ∧
      ¬ ∀ ps n r, Act.result (bootstrap (built ps)) {} = (.ok n, r) →
        ∀ p ∈ ps, ∃ y, r.find? (p.2.uri p.1) = some y ∧ y.table = p.1.table := by
  refine ⟨fun h => ?_, fun h => ?_⟩
  · let ps := declaredFor priceLost [("library.Book", "book")]
    obtain ⟨r, hfirst, hsecond⟩ : ∃ r, Act.result (bootstrap (built ps)) {} = (.ok 1, r) ∧
        (Act.result (bootstrap (built ps)) r).1.toOption = none :=
      ⟨_, Prod.ext (eq_ok_of_toOption (by decide +kernel)) rfl, by decide +kernel⟩
    obtain ⟨r', hr'⟩ := h ps 1 r hfirst
    rw [hr'] at hsecond
    cases hsecond
  · obtain ⟨r, hfirst, hleft⟩ : ∃ r, Act.result (bootstrap (built moved)) {} = (.ok 2, r) ∧
        (r.find? "library.Book:protect_deletes").map (·.table) = some "page" :=
      ⟨_, Prod.ext (eq_ok_of_toOption (by decide +kernel)) rfl, by decide +kernel⟩
    have huri : deletesForbidden.uri (labelled "library.Book" "book") = "library.Book:protect_deletes" := by
      decide +kernel
    have hmem : (labelled "library.Book" "book", deletesForbidden) ∈ moved := List.mem_cons_self
    obtain ⟨y, hfind, htable⟩ := h moved 2 r hfirst _ hmem
    rw [← huri, hfind, Option.map_some, htable] at hleft
    revert hleft
    decide

end Registry

end DeclaredTriggers
