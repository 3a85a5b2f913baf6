import DeclaredTriggers.Proofs.Sql.Expression.Reading
import Mathlib.Data.List.Forall2
import Mathlib.Tactic.Ring

/-!
# Regrouping

A conjunction in a conjunction may as well be spliced into it, and a disjunction into a disjunction; a group
of one member is that member. Formulas that differ by no more than that (`Regroups`) have the same value, and
as many pairs of atoms under a common conjunction (`Formula.pairs`).

A text whose parts are joined by `AND` is the conjunction of the parts, up to regrouping, if each of them has
a single clause. If one has more, then the text has fewer such pairs than the conjunction:

> `Regroups.value`, `Regroups.pairs`: what regrouping keeps.
>
> `Part.joined_isFaithful`: parts that are joined say what they stand for, where `AND` joins single clauses.
>
> `Part.joined_isWithin`: and where they have all the pairs, it joins no others.
-/

namespace DeclaredTriggers.Sql.Expression

variable {α : Type}

/-- Formulas that are the same but for groups in groups of the same kind, and for groups of one member. -/
inductive Regroups : Formula α → Formula α → Prop
  | refl (f : Formula α) : Regroups f f
  | symm {f g : Formula α} : Regroups f g → Regroups g f
  | trans {f g h : Formula α} : Regroups f g → Regroups g h → Regroups f h
  | not {f g : Formula α} : Regroups f g → Regroups (.not f) (.not g)
  | member (k : Connective) (fs hs : List (Formula α)) {f g : Formula α} :
      Regroups f g → Regroups (k.group (fs ++ f :: hs)) (k.group (fs ++ g :: hs))
  | only (k : Connective) (f : Formula α) : Regroups (k.group [f]) f
  | splice (k : Connective) (fs hs : List (Formula α)) {gs : List (Formula α)} :
      gs ≠ [] → Regroups (k.group (fs ++ k.group gs :: hs)) (k.group (fs ++ (gs ++ hs)))

namespace Regroups

/-- Regrouping changes no value. -/
theorem value {f g : Formula α} (h : Regroups f g) (v : α → Truth) : f.value v = g.value v := by
  induction h with
  | refl => rfl
  | symm _ ih => exact ih.symm
  | trans _ _ ih ih' => exact ih.trans ih'
  | not _ ih => exact congrArg Truth.not ih
  | member k fs hs _ ih => rw [k.value_group, k.value_group, List.map_append, List.map_append,
      List.map_cons, List.map_cons, ih]
  | only k f => rw [k.value_group]; exact k.truth_singleton _
  | @splice k fs hs gs _ =>
    rw [k.value_group, k.value_group, List.map_append, List.map_append, List.map_append, List.map_cons,
      k.value_group, k.truth_append, k.truth_append _ (gs.map _ ++ _), k.truth_append (gs.map _),
      k.truth_cons (k.truth (gs.map _))]

theorem groupOf (k : Connective) (fs : List (Formula α)) : Regroups (k.groupOf fs) (k.group fs) := by
  match fs with
  | [] => exact .refl _
  | [f] => exact (only k f).symm
  | f :: f' :: fs => exact .refl _

/-- The members of a pair may be regrouped. -/
theorem pair (k : Connective) {f f' g g' : Formula α} (hf : Regroups f f') (hg : Regroups g g') :
    Regroups (k.group [f, g]) (k.group [f', g']) :=
  (member k [] [g] hf).trans (member k [f'] [] hg)

/-- A group of the same kind at the end of a pair is spliced. -/
theorem splice_last (k : Connective) (f : Formula α) {gs : List (Formula α)} (h : gs ≠ []) :
    Regroups (k.group [f, k.group gs]) (k.group (f :: gs)) := by
  have hall := splice k [f] [] h
  rwa [List.append_nil] at hall

/-- So is one at its beginning. -/
theorem splice_first (k : Connective) {fs : List (Formula α)} (g : Formula α) (h : fs ≠ []) :
    Regroups (k.group [k.group fs, g]) (k.group (fs ++ [g])) := splice k [] [g] h

/-- A group of several groups of the same kind is one group. -/
theorem append (k : Connective) {fs gs : List (Formula α)} (hfs : fs ≠ []) (hgs : gs ≠ []) :
    Regroups (k.group [k.group fs, k.group gs]) (k.group (fs ++ gs)) := by
  have hlast := splice k fs [] hgs
  rw [List.append_nil] at hlast
  exact (splice_first k _ hfs).trans hlast

/-- The formula of some clauses is the disjunction of their conjunctions. -/
theorem ofClauses (cs : List (List (Formula α))) : Regroups (ofClauses cs) (.any (cs.map .all)) := by
  have hclauses : ∀ before : List (Formula α), Regroups (.any (before ++ cs.map Connective.and.groupOf))
      (.any (before ++ cs.map .all)) := by
    induction cs with
    | nil => exact fun _ => .refl _
    | cons c cs ih =>
      intro before
      have hrest := ih (before ++ [.all c])
      rw [List.append_assoc, List.append_assoc] at hrest
      exact (member .or before _ (groupOf .and c)).trans hrest
  exact (groupOf .or _).trans (hclauses [])

end Regroups

/-! ## Pairs of atoms under a conjunction -/

/-- The number of pairs of things from different heaps. -/
def crossing : List Nat → Nat
  | [] => 0
  | n :: ns => n * ns.sum + crossing ns

theorem crossing_append (ms ns : List Nat) :
    crossing (ms ++ ns) = crossing ms + crossing ns + ms.sum * ns.sum := by
  induction ms with
  | nil => simp [crossing]
  | cons m ms ih =>
    rw [List.cons_append, crossing, crossing, ih, List.sum_append, List.sum_cons]
    ring

namespace Formula

mutual

/-- How many atoms a formula has; an empty group counts as one. -/
def size : Formula α → Nat
  | .atom _ => 1
  | .not f => size f
  | .all fs | .any fs => max 1 (sizes fs).sum

/-- The sizes of several formulas. -/
def sizes : List (Formula α) → List Nat
  | [] => []
  | f :: fs => size f :: sizes fs

end

mutual

/-- How many pairs of atoms stand in different members of one conjunction. -/
def pairs : Formula α → Nat
  | .atom _ => 0
  | .not f => pairs f
  | .all fs => (pairsEach fs).sum + crossing (fs.map size)
  | .any fs => (pairsEach fs).sum

/-- The pairs within each of several formulas. -/
def pairsEach : List (Formula α) → List Nat
  | [] => []
  | f :: fs => pairs f :: pairsEach fs

end

theorem sizes_eq (fs : List (Formula α)) : sizes fs = fs.map size := by
  induction fs with
  | nil => rw [sizes, List.map_nil]
  | cons f fs ih => rw [sizes, ih, List.map_cons]

theorem pairsEach_eq (fs : List (Formula α)) : pairsEach fs = fs.map pairs := by
  induction fs with
  | nil => rw [pairsEach, List.map_nil]
  | cons f fs ih => rw [pairsEach, ih, List.map_cons]

end Formula

open Formula (size pairs)

/-- The atoms of several formulas. -/
def total (fs : List (Formula α)) : Nat := (fs.map size).sum

theorem total_append (fs gs : List (Formula α)) : total (fs ++ gs) = total fs + total gs := by
  unfold total
  rw [List.map_append, List.sum_append]

theorem total_cons (f : Formula α) (fs : List (Formula α)) : total (f :: fs) = f.size + total fs := rfl

theorem Formula.size_group (k : Connective) (fs : List (Formula α)) : (k.group fs).size = max 1 (total fs) := by
  unfold total
  rw [← sizes_eq]
  cases k <;> rw [Connective.group, size]

theorem Formula.size_pos (f : Formula α) : 0 < f.size := by
  have hgroup : ∀ (k : Connective) (fs : List (Formula α)), 0 < (k.group fs).size := fun k fs => by
    rw [size_group]
    omega
  match f with
  | .atom _ => rw [size]; omega
  | .not f => rw [size]; exact size_pos f
  | .all fs => exact hgroup .and fs
  | .any fs => exact hgroup .or fs

theorem total_pos {fs : List (Formula α)} (h : fs ≠ []) : 0 < total fs := by
  obtain ⟨f, fs, rfl⟩ := List.exists_cons_of_ne_nil h
  rw [total_cons]
  have := f.size_pos
  omega

theorem Formula.size_group_of_ne_nil (k : Connective) {fs : List (Formula α)} (h : fs ≠ []) :
    (k.group fs).size = total fs := by
  have := total_pos h
  rw [size_group]
  omega

theorem Formula.pairs_any (fs : List (Formula α)) : (Formula.any fs).pairs = (fs.map pairs).sum := by
  rw [pairs, pairsEach_eq]

theorem Formula.pairs_all_append (fs gs : List (Formula α)) :
    (Formula.all (fs ++ gs)).pairs = (Formula.all fs).pairs + (Formula.all gs).pairs + total fs * total gs := by
  rw [pairs, pairs, pairs, pairsEach_eq, pairsEach_eq, pairsEach_eq, List.map_append, List.map_append,
    List.sum_append, crossing_append]
  unfold total
  ring

/-- The pairs that a connective makes of the atoms on either side of it. -/
def Connective.crossed : Connective → Nat → Nat → Nat
  | .and, m, n => m * n
  | .or, _, _ => 0

theorem Formula.pairs_all_singleton (f : Formula α) : (Formula.all [f]).pairs = f.pairs := by
  simp [pairs, pairsEach, crossing]

theorem Formula.pairs_all_cons (f : Formula α) (fs : List (Formula α)) :
    (Formula.all (f :: fs)).pairs = f.pairs + (Formula.all fs).pairs + f.size * total fs := by
  rw [← List.singleton_append, pairs_all_append, pairs_all_singleton, total_cons]
  rfl

theorem Formula.pairs_group_cons (k : Connective) (f : Formula α) (fs : List (Formula α)) :
    (k.group (f :: fs)).pairs = f.pairs + (k.group fs).pairs + k.crossed f.size (total fs) := by
  cases k with
  | and => exact pairs_all_cons f fs
  | or => exact pairs_any (f :: fs) |>.trans (by rw [List.map_cons, List.sum_cons, Connective.group, pairs_any]; rfl)

namespace Regroups

theorem size {f g : Formula α} (h : Regroups f g) : f.size = g.size := by
  induction h with
  | refl => rfl
  | symm _ ih => exact ih.symm
  | trans _ _ ih ih' => exact ih.trans ih'
  | not _ ih => rw [Formula.size, Formula.size, ih]
  | member k fs hs _ ih =>
    rw [Formula.size_group, Formula.size_group, total_append, total_append, total_cons, total_cons, ih]
  | only k f =>
    rw [Formula.size_group_of_ne_nil k (by simp)]
    rfl
  | splice k fs hs hgs =>
    rw [Formula.size_group, Formula.size_group, total_append, total_append, total_append, total_cons,
      Formula.size_group_of_ne_nil k hgs]

/-- Regrouping keeps the pairs. -/
theorem pairs {f g : Formula α} (h : Regroups f g) : f.pairs = g.pairs := by
  induction h with
  | refl => rfl
  | symm _ ih => exact ih.symm
  | trans _ _ ih ih' => exact ih.trans ih'
  | not _ ih => rw [Formula.pairs, Formula.pairs, ih]
  | member k fs hs hfg ih =>
    cases k with
    | and =>
      rw [Connective.group, Formula.pairs_all_append, Formula.pairs_all_append, Formula.pairs_all_cons,
        Formula.pairs_all_cons, total_cons, total_cons, ih, hfg.size]
    | or =>
      rw [Connective.group, Formula.pairs_any, Formula.pairs_any, List.map_append, List.map_append,
        List.map_cons, List.map_cons, ih]
  | only k f =>
    cases k with
    | and => exact Formula.pairs_all_singleton f
    | or => rw [Connective.group, Formula.pairs_any]; simp
  | splice k fs hs hgs =>
    cases k with
    | and =>
      have hsize := Formula.size_group_of_ne_nil .and hgs
      rw [Connective.group] at hsize ⊢
      rw [Formula.pairs_all_append, Formula.pairs_all_append, Formula.pairs_all_append,
        Formula.pairs_all_cons, total_cons, total_append, hsize]
    | or =>
      rw [Connective.group, Formula.pairs_any, Formula.pairs_any, List.map_append, List.map_append,
        List.map_append, List.map_cons, List.sum_append, List.sum_append, List.sum_append, List.sum_cons,
        Formula.pairs_any]

end Regroups

/-! ## Texts that are joined -/

/-- The atoms of some clauses. -/
def clausesTotal (cs : List (List (Formula α))) : Nat := (cs.map total).sum

/-- The pairs in some clauses. -/
def clausesPairs (cs : List (List (Formula α))) : Nat := (cs.map fun c => (Formula.all c).pairs).sum

/-- Clauses of an expression, none of which is empty. -/
structure Proper (cs : List (List (Formula α))) : Prop where
  ne_nil : cs ≠ []
  clauses : ∀ c ∈ cs, c ≠ []

/-- What several computations give, one of them gives. -/
theorem mem_of_mapM {β γ : Type} {f : β → Option γ} {xs : List β} {ys : List γ} (h : xs.mapM f = some ys) :
    ∀ y ∈ ys, ∃ x ∈ xs, f x = some y := by
  induction xs generalizing ys with
  | nil =>
    obtain rfl := Option.some.inj h
    exact List.forall_mem_nil _
  | cons x xs ih =>
    rw [List.mapM_cons] at h
    obtain ⟨y, hy, h⟩ := Option.bind_eq_some_iff.1 h
    obtain ⟨zs, hzs, h⟩ := Option.bind_eq_some_iff.1 h
    obtain rfl := Option.some.inj h
    refine List.forall_mem_cons.2 ⟨⟨x, List.mem_cons_self, hy⟩, fun z hz => ?_⟩
    obtain ⟨x', hx', hz⟩ := ih hzs z hz
    exact ⟨x', List.mem_cons_of_mem _ hx', hz⟩

/-- The clauses of a text are none of them empty. -/
theorem Reads.proper {atom? : List Tree → Option α} {s : List Char} {cs : List (List (Formula α))}
    (h : Reads atom? s cs) : Proper cs := by
  have hne : ∀ {β γ : Type} {p : β → Bool} {f : List β → Option γ} {xs : List β} {ys : List γ},
      (xs.splitOnP p).mapM f = some ys → ys ≠ [] := by
    rintro β γ p f xs ys hys rfl
    obtain ⟨z, zs, hzs⟩ := List.exists_cons_of_ne_nil (List.splitOnP_ne_nil p xs)
    rw [hzs, List.mapM_cons] at hys
    obtain ⟨_, -, hrest⟩ := Option.bind_eq_some_iff.1 hys
    obtain ⟨_, -, hnil⟩ := Option.bind_eq_some_iff.1 hrest
    cases hnil
  obtain ⟨us, -, hus⟩ := h
  have hclauses := (clauses?_eq_some_iff.1 hus).2
  refine ⟨hne hclauses, fun c hc => ?_⟩
  obtain ⟨part, -, hpart⟩ := mem_of_mapM hclauses c hc
  exact hne hpart

theorem Proper.total_pos {cs : List (List (Formula α))} (h : Proper cs) : 0 < clausesTotal cs := by
  obtain ⟨c, cs, rfl⟩ := List.exists_cons_of_ne_nil h.ne_nil
  have := Expression.total_pos (h.clauses c List.mem_cons_self)
  unfold clausesTotal
  rw [List.map_cons, List.sum_cons]
  omega

theorem Proper.size_ofClauses {cs : List (List (Formula α))} (h : Proper cs) :
    (ofClauses cs).size = clausesTotal cs := by
  have hsizes : total (cs.map .all) = clausesTotal cs := by
    unfold total clausesTotal
    rw [List.map_map]
    exact congrArg List.sum (List.map_congr_left fun c hc => Formula.size_group_of_ne_nil .and (h.clauses c hc))
  rw [(Regroups.ofClauses cs).size, ← hsizes]
  exact Formula.size_group_of_ne_nil .or (by simpa using h.ne_nil)

theorem pairs_ofClauses (cs : List (List (Formula α))) : (ofClauses cs).pairs = clausesPairs cs := by
  rw [(Regroups.ofClauses cs).pairs, Formula.pairs_any, List.map_map]
  rfl

theorem clausesTotal_nil : clausesTotal ([] : List (List (Formula α))) = 0 := rfl

theorem clausesPairs_nil : clausesPairs ([] : List (List (Formula α))) = 0 := rfl

theorem clausesTotal_cons (c : List (Formula α)) (cs : List (List (Formula α))) :
    clausesTotal (c :: cs) = total c + clausesTotal cs := rfl

theorem clausesPairs_cons (c : List (Formula α)) (cs : List (List (Formula α))) :
    clausesPairs (c :: cs) = (Formula.all c).pairs + clausesPairs cs := rfl

/-- Where two texts are joined by `AND`, only the last clause of one and the first clause of the other are
under a common conjunction. -/
theorem glued_pairs {cs ds : List (List (Formula α))} (hcs : Proper cs) (hds : Proper ds) :
    Proper (glued cs ds) ∧ clausesTotal (glued cs ds) = clausesTotal cs + clausesTotal ds ∧
      ∃ missing, clausesPairs (glued cs ds) + missing =
          clausesPairs cs + clausesPairs ds + clausesTotal cs * clausesTotal ds ∧
        (missing = 0 → cs.length = 1 ∧ ds.length = 1) := by
  induction cs with
  | nil => exact absurd rfl hcs.ne_nil
  | cons c cs ih =>
    have hc := total_pos (hcs.clauses c List.mem_cons_self)
    cases cs with
    | nil =>
      obtain ⟨d, ds, rfl⟩ := List.exists_cons_of_ne_nil hds.ne_nil
      have hglued : glued [c] (d :: ds) = (c ++ d) :: ds := rfl
      have hproper : Proper ((c ++ d) :: ds) := by
        refine ⟨by simp, fun x hx => ?_⟩
        rcases List.mem_cons.1 hx with rfl | hx
        · simp [hcs.clauses c List.mem_cons_self]
        · exact hds.clauses x (List.mem_cons_of_mem _ hx)
      rw [hglued]
      refine ⟨hproper, ?_, total c * clausesTotal ds, ?_, fun hmissing => ⟨rfl, ?_⟩⟩
      · rw [clausesTotal_cons, clausesTotal_cons, clausesTotal_cons, total_append, clausesTotal_nil]
        omega
      · rw [clausesPairs_cons, clausesPairs_cons, clausesPairs_cons, clausesTotal_cons, clausesTotal_cons,
          Formula.pairs_all_append, clausesTotal_nil, clausesPairs_nil]
        ring
      · cases ds with
        | nil => rfl
        | cons d' ds =>
          have hrest : Proper (d' :: ds) := ⟨by simp, fun x hx => hds.clauses x (List.mem_cons_of_mem _ hx)⟩
          have := Nat.mul_pos hc hrest.total_pos
          omega
    | cons c' cs =>
      obtain ⟨hproper, htotal, missing, hpairs, -⟩ :=
        ih ⟨by simp, fun x hx => hcs.clauses x (List.mem_cons_of_mem _ hx)⟩
      have hglued : glued (c :: c' :: cs) ds = c :: glued (c' :: cs) ds := rfl
      rw [hglued]
      refine ⟨⟨by simp, ?_⟩, ?_, missing + total c * clausesTotal ds, ?_, fun hmissing => ?_⟩
      · exact List.forall_mem_cons.2 ⟨hcs.clauses c List.mem_cons_self, hproper.clauses⟩
      · rw [clausesTotal_cons, clausesTotal_cons c, htotal]
        omega
      · rw [clausesPairs_cons, clausesPairs_cons c, clausesTotal_cons c, add_mul]
        omega
      · have := Nat.mul_pos hc hds.total_pos
        omega

/-- Two texts have all their atoms where they are joined. Of the pairs, some are missing where `AND` joins them
and one of them has clauses more than one. -/
theorem glue_pairs (k : Connective) {cs ds : List (List (Formula α))} (hcs : Proper cs) (hds : Proper ds) :
    Proper (k.glue cs ds) ∧ clausesTotal (k.glue cs ds) = clausesTotal cs + clausesTotal ds ∧
      ∃ missing, clausesPairs (k.glue cs ds) + missing =
          clausesPairs cs + clausesPairs ds + k.crossed (clausesTotal cs) (clausesTotal ds) ∧
        (missing = 0 → k = .and → cs.length = 1 ∧ ds.length = 1) := by
  cases k with
  | and =>
    obtain ⟨hproper, htotal, missing, hpairs, hone⟩ := glued_pairs hcs hds
    exact ⟨hproper, htotal, missing, hpairs, fun hmissing _ => hone hmissing⟩
  | or =>
    refine ⟨⟨by simp [Connective.glue, hcs.ne_nil], ?_⟩, ?_, 0, ?_, fun _ hand => by cases hand⟩
    · exact fun c hc => (List.mem_append.1 hc).elim (hcs.clauses c) (hds.clauses c)
    · simp [Connective.glue, clausesTotal]
    · simp [Connective.glue, Connective.crossed, clausesPairs]

/-- Two texts that are joined say what the connective makes of them, where `AND` joins single clauses. -/
theorem regroups_glue (k : Connective) {cs ds : List (List (Formula α))} (hcs : Proper cs) (hds : Proper ds)
    (hone : k = .and → cs.length = 1 ∧ ds.length = 1) :
    Regroups (ofClauses (k.glue cs ds)) (k.group [ofClauses cs, ofClauses ds]) := by
  cases k with
  | and =>
    obtain ⟨c, rfl⟩ := List.length_eq_one_iff.1 (hone rfl).1
    obtain ⟨d, rfl⟩ := List.length_eq_one_iff.1 (hone rfl).2
    have hc := hcs.clauses c List.mem_cons_self
    have hd := hds.clauses d List.mem_cons_self
    refine (Regroups.groupOf .and (c ++ d)).trans ((Regroups.append .and hc hd).symm.trans ?_)
    exact .pair .and (Regroups.groupOf .and c).symm (Regroups.groupOf .and d).symm
  | or =>
    refine (Regroups.ofClauses _).trans ?_
    have hne : ∀ {cs : List (List (Formula α))}, cs ≠ [] → cs.map Formula.all ≠ [] := fun h => by simpa using h
    have happend := Regroups.append .or (hne hcs.ne_nil) (hne hds.ne_nil)
    rw [← List.map_append] at happend
    exact happend.symm.trans (.pair .or (Regroups.ofClauses cs).symm (Regroups.ofClauses ds).symm)

/-! ## Parts of a text -/

/-- The clauses of a part of a text, and the formula that the part stands for. -/
structure Part (α : Type) where
  clauses : List (List (Formula α))
  meant : Formula α

namespace Part

/-- A part with all the atoms of what it stands for and no pairs beyond those. -/
structure IsWithin (x : Part α) : Prop where
  proper : Proper x.clauses
  total : clausesTotal x.clauses = x.meant.size
  pairs : clausesPairs x.clauses ≤ x.meant.pairs

/-- Whether a part has the pairs of what it stands for. -/
def IsFull (x : Part α) : Prop := clausesPairs x.clauses = x.meant.pairs

/-- Whether what a part says is what it stands for, up to regrouping. -/
def IsFaithful (x : Part α) : Prop := Regroups (ofClauses x.clauses) x.meant

theorem IsFaithful.isFull {x : Part α} (h : x.IsFaithful) : x.IsFull := by
  rw [IsFull, ← h.pairs, pairs_ofClauses]

/-- A part between parentheses is a single operand. -/
def operand (x : Part α) : Part α := ⟨[[ofClauses x.clauses]], x.meant⟩

/-- A part behind a `NOT`, for the negation. -/
def negated (x : Part α) : Part α := ⟨[[.not (ofClauses x.clauses)]], .not x.meant⟩

theorem proper_operand (f : Formula α) : Proper [[f]] := ⟨by simp, by simp⟩

theorem total_operand (f : Formula α) : clausesTotal [[f]] = f.size :=
  (proper_operand f).size_ofClauses.symm

theorem pairs_operand (f : Formula α) : clausesPairs [[f]] = f.pairs := (pairs_ofClauses [[f]]).symm

theorem IsWithin.operand {x : Part α} (h : x.IsWithin) : x.operand.IsWithin := by
  refine ⟨proper_operand _, ?_, ?_⟩
  · rw [Part.operand, total_operand, h.proper.size_ofClauses]
    exact h.total
  · rw [Part.operand, pairs_operand, pairs_ofClauses]
    exact h.pairs

theorem isFull_operand {x : Part α} : x.operand.IsFull ↔ x.IsFull := by
  rw [IsFull, operand, pairs_operand, pairs_ofClauses, IsFull]

theorem IsWithin.negated {x : Part α} (h : x.IsWithin) : x.negated.IsWithin := by
  refine ⟨proper_operand _, ?_, ?_⟩
  · rw [Part.negated, total_operand, Formula.size, Formula.size, h.proper.size_ofClauses]
    exact h.total
  · rw [Part.negated, pairs_operand, Formula.pairs, Formula.pairs, pairs_ofClauses]
    exact h.pairs

theorem isFull_negated {x : Part α} : x.negated.IsFull ↔ x.IsFull := by
  rw [IsFull, negated, pairs_operand, Formula.pairs, Formula.pairs, pairs_ofClauses, IsFull]

/-- Parts that are joined, for the group of what they stand for. -/
def joined (k : Connective) (xs : List (Part α)) : Part α :=
  ⟨(xs.map clauses).foldr k.glue [], k.group (xs.map meant)⟩

variable {k : Connective}

theorem joined_cons (x : Part α) (xs : List (Part α)) :
    (joined k (x :: xs)).clauses = k.glue x.clauses (joined k xs).clauses := rfl

theorem clauses_joined_singleton (x : Part α) : (joined k [x]).clauses = x.clauses := k.glue_nil _

theorem meant_joined_singleton (x : Part α) : Regroups (joined k [x]).meant x.meant := .only k _

theorem meant_joined_cons (x : Part α) {xs : List (Part α)} (h : xs ≠ []) :
    (joined k (x :: xs)).meant.size = x.meant.size + (joined k xs).meant.size ∧
      (joined k (x :: xs)).meant.pairs =
        x.meant.pairs + (joined k xs).meant.pairs + k.crossed x.meant.size (joined k xs).meant.size := by
  have hsize : ∀ {ys : List (Part α)}, ys ≠ [] → (joined k ys).meant.size = total (ys.map meant) :=
    fun hys => Formula.size_group_of_ne_nil k (by simpa using hys)
  rw [hsize h, hsize (List.cons_ne_nil x xs)]
  exact ⟨rfl, Formula.pairs_group_cons k _ _⟩

/-- Parts that are joined have the pairs of their group only if each has its own and, where `AND` joins
several, none has clauses more than one. -/
theorem joined_isWithin {xs : List (Part α)} (hne : xs ≠ []) (h : ∀ x ∈ xs, x.IsWithin) :
    (joined k xs).IsWithin ∧ ((joined k xs).IsFull →
      ∀ x ∈ xs, x.IsFull ∧ (k = .and → 2 ≤ xs.length → x.clauses.length = 1)) := by
  induction xs with
  | nil => exact absurd rfl hne
  | cons x xs ih =>
    have hx := h x List.mem_cons_self
    cases xs with
    | nil =>
      have hmeant := meant_joined_singleton (k := k) x
      rw [IsFull, clauses_joined_singleton, hmeant.pairs]
      refine ⟨⟨?_, ?_, ?_⟩, fun hfull => List.forall_mem_singleton.2 ⟨hfull, by simp⟩⟩
      · rw [clauses_joined_singleton]
        exact hx.proper
      · rw [clauses_joined_singleton, hmeant.size]
        exact hx.total
      · rw [clauses_joined_singleton, hmeant.pairs]
        exact hx.pairs
    | cons y ys =>
      obtain ⟨hwithin, hfull⟩ := ih (by simp) fun z hz => h z (List.mem_cons_of_mem _ hz)
      obtain ⟨hproper, htotal, missing, hpairs, hone⟩ := glue_pairs k hx.proper hwithin.proper
      obtain ⟨hsize, hmeant⟩ := meant_joined_cons (k := k) x (List.cons_ne_nil y ys)
      have hxle := hx.pairs
      have hle := hwithin.pairs
      rw [hx.total, hwithin.total, ← joined_cons] at htotal hpairs
      refine ⟨⟨hproper, htotal.trans hsize.symm, by omega⟩, fun hall => ?_⟩
      rw [IsFull] at hall
      have hends := hone (by omega)
      have hxfull : x.IsFull := by
        rw [IsFull]
        omega
      have hrestfull := hfull (by rw [IsFull]; omega)
      refine List.forall_mem_cons.2 ⟨⟨hxfull, fun hand _ => (hends hand).1⟩, fun z hz =>
        ⟨(hrestfull z hz).1, fun hand _ => ?_⟩⟩
      cases ys with
      | nil =>
        obtain rfl := List.mem_singleton.1 hz
        have hrest := (hends hand).2
        rwa [clauses_joined_singleton] at hrest
      | cons y' ys => exact (hrestfull z hz).2 hand (by simp)

theorem length_joined {xs : List (Part α)} (hne : xs ≠ []) (h : ∀ x ∈ xs, x.clauses.length = 1) :
    (joined .and xs).clauses.length = 1 := by
  induction xs with
  | nil => exact absurd rfl hne
  | cons x xs ih =>
    cases xs with
    | nil =>
      rw [clauses_joined_singleton]
      exact h x List.mem_cons_self
    | cons y ys =>
      obtain ⟨c, hc⟩ := List.length_eq_one_iff.1 (h x List.mem_cons_self)
      obtain ⟨d, hd⟩ := List.length_eq_one_iff.1 (ih (by simp) fun z hz => h z (List.mem_cons_of_mem _ hz))
      rw [joined_cons, hc, hd]
      rfl

/-- Parts that are joined say the group of what they stand for, where `AND` joins single clauses. -/
theorem joined_isFaithful {xs : List (Part α)} (hne : xs ≠ []) (h : ∀ x ∈ xs, x.IsWithin)
    (hone : k = .and → 2 ≤ xs.length → ∀ x ∈ xs, x.clauses.length = 1)
    (hfaithful : ∀ x ∈ xs, x.IsFaithful) : (joined k xs).IsFaithful := by
  induction xs with
  | nil => exact absurd rfl hne
  | cons x xs ih =>
    cases xs with
    | nil =>
      rw [IsFaithful, clauses_joined_singleton]
      exact (hfaithful x List.mem_cons_self).trans (meant_joined_singleton x).symm
    | cons y ys =>
      have hrest := ih (by simp) (fun z hz => h z (List.mem_cons_of_mem _ hz))
        (fun hand hlength z hz => hone hand (by simp) z (List.mem_cons_of_mem _ hz))
        fun z hz => hfaithful z (List.mem_cons_of_mem _ hz)
      have hwithin := (joined_isWithin (k := k) (List.cons_ne_nil y ys) fun z hz =>
        h z (List.mem_cons_of_mem _ hz)).1
      have hends : k = .and → x.clauses.length = 1 ∧ (joined k (y :: ys)).clauses.length = 1 := by
        rintro rfl
        obtain ⟨hx, hys⟩ := List.forall_mem_cons.1 (hone rfl (by simp))
        exact ⟨hx, length_joined (by simp) hys⟩
      refine (regroups_glue k (h x List.mem_cons_self).proper hwithin.proper hends).trans ?_
      refine (Regroups.pair k (hfaithful x List.mem_cons_self) hrest).trans ?_
      exact .splice_last k _ (by simp)

end Part

end DeclaredTriggers.Sql.Expression
