import DeclaredTriggers.Proofs.Sql.Expression.Formula
import DeclaredTriggers.Proofs.Sql.Expression.Tree

/-!
# Reading an expression as a formula

How a database reads a condition: an `OR` joins what the `AND`s have joined, a `NOT` binds tighter than
both, and what these leave is a comparison, or a condition between parentheses. The clauses of an expression
are the conjunctions that its `OR`s join, each the list of what its `AND`s join.

What a text is made of can be told from its parts. One that is joined by `OR` has the clauses of both; one
that is joined by `AND` goes on with the last clause of the first and the first clause of the second
(`glued`), and so says something else than the conjunction of the two where one of them has several.
Parentheses make any text a single operand:

> `Reads.or`, `Reads.and`, `Reads.parenthesised`, `Reads.negated`.
-/

namespace DeclaredTriggers.Sql.Expression

/-! ## Lists put end to end -/

/-- Two lists of lists, the last of one going on with the first of the other. -/
def glued {β : Type} : List (List β) → List (List β) → List (List β)
  | [], ys => ys
  | [x], [] => [x]
  | [x], y :: ys => (x ++ y) :: ys
  | x :: x' :: xs, ys => x :: glued (x' :: xs) ys

/-- What stands between conditions that are joined. -/
def Connective.joiner : Connective → String
  | .and => " AND "
  | .or => " OR "

theorem glued_nil {β : Type} (xs : List (List β)) : glued xs [] = xs := by
  induction xs with
  | nil => rfl
  | cons x xs ih =>
    cases xs with
    | nil => rfl
    | cons x' xs => exact congrArg (x :: ·) ih

/-- How what stands on either side of a connective is put end to end: conjunctions go on. -/
def Connective.glue {β : Type} : Connective → List (List β) → List (List β) → List (List β)
  | .and => glued
  | .or => (· ++ ·)

theorem Connective.glue_nil (k : Connective) {β : Type} (xs : List (List β)) : k.glue xs [] = xs := by
  cases k with
  | and => exact glued_nil xs
  | or => exact List.append_nil xs

/-- A separator of another kind is no place to split at. -/
theorem splitOnP_append_cons_of_not {β : Type} {p : β → Bool} {x : β} (hx : p x = false) (xs ys : List β)
    {z : List β} {zs : List (List β)} (hys : ys.splitOnP p = z :: zs) :
    (xs ++ x :: ys).splitOnP p = glued (xs.splitOnP p) ((x :: z) :: zs) := by
  induction xs with
  | nil =>
    rw [List.nil_append, List.splitOnP_cons_eq_if_modifyHead, if_neg (by simp [hx]), hys,
      List.splitOnP_nil]
    rfl
  | cons w xs ih =>
    rw [List.cons_append, List.splitOnP_cons_eq_if_modifyHead, List.splitOnP_cons_eq_if_modifyHead, ih]
    obtain ⟨u, us, hus⟩ := List.exists_cons_of_ne_nil (List.splitOnP_ne_nil p xs)
    rw [hus]
    split
    next => rfl
    next => cases us <;> rfl

/-- Reading the parts of two lists, where the last of one and the first of the other are read as one. -/
theorem mapM_glued {β γ : Type} {f : List β → Option (List γ)} {x : β}
    (hf : ∀ {a b : List β} {c d : List γ}, f a = some c → f b = some d → f (a ++ x :: b) = some (c ++ d))
    {xs : List (List β)} {z : List β} {zs : List (List β)} {cs ds : List (List γ)} (hne : xs ≠ [])
    (hxs : xs.mapM f = some cs) (hys : (z :: zs).mapM f = some ds) :
    (glued xs ((x :: z) :: zs)).mapM f = some (glued cs ds) := by
  obtain ⟨d, hd, hrest⟩ := Option.bind_eq_some_iff.1 (List.mapM_cons.symm.trans hys)
  obtain ⟨ds, hds, he⟩ := Option.bind_eq_some_iff.1 hrest
  obtain rfl := Option.some.inj he
  induction xs generalizing cs with
  | nil => exact absurd rfl hne
  | cons w xs ih =>
    obtain ⟨c, hc, hrest⟩ := Option.bind_eq_some_iff.1 (List.mapM_cons.symm.trans hxs)
    obtain ⟨cs', hcs', he⟩ := Option.bind_eq_some_iff.1 hrest
    obtain rfl := Option.some.inj he
    cases xs with
    | nil =>
      obtain rfl : [] = cs' := Option.some.inj hcs'
      show List.mapM f ((w ++ x :: z) :: zs) = some ((c ++ d) :: ds)
      rw [List.mapM_cons, hf hc hd]
      show (zs.mapM f).bind _ = _
      rw [hds]
      rfl
    | cons w' xs =>
      have hglued := ih (by simp) hcs'
      have hne' : cs' ≠ [] := by
        rintro rfl
        obtain ⟨c', -, hrest⟩ := Option.bind_eq_some_iff.1 (List.mapM_cons.symm.trans hcs')
        obtain ⟨_, -, he⟩ := Option.bind_eq_some_iff.1 hrest
        cases he
      obtain ⟨c', cs', rfl⟩ := List.exists_cons_of_ne_nil hne'
      show List.mapM f (w :: glued (w' :: xs) ((x :: z) :: zs)) = some (c :: glued (c' :: cs') (d :: ds))
      rw [List.mapM_cons, hc]
      show (List.mapM f (glued (w' :: xs) ((x :: z) :: zs))).bind _ = _
      rw [hglued]
      rfl

/-! ## Formulas of trees -/

variable {α : Type} (atom? : List Tree → Option α)

/-- A tree and, of a group, what stands in it. -/
abbrev Read (α : Type) := Tree × Option (Formula α)

/-- Whether a tree that was read is a keyword. -/
def Read.isKeyword (keyword : String) (u : Read α) : Bool := u.1.isKeyword keyword

/-- An operand: a formula between parentheses, one behind a `NOT`, or an atom. -/
def operand? : List (Read α) → Option (Formula α)
  | [] => none
  | [(.group .round _, inner)] => inner
  | (u, _) :: us =>
    if u.isKeyword "NOT" then (operand? us).map .not else (atom? (u :: us.map (·.1))).map .atom

/-- The operands that are joined by `AND`. -/
def clause? (us : List (Read α)) : Option (List (Formula α)) :=
  (us.splitOnP (Read.isKeyword "AND")).mapM (operand? atom?)

/-- Whether a keyword begins a query. -/
def Tree.beginsQuery (u : Tree) : Bool := ["SELECT", "WITH", "VALUES", "TABLE"].any (u.isKeyword ·)

/-- Whether trees are a list or a query and not an expression. -/
def isListing (us : List Tree) : Bool := us.any (Tree.isMark ',') || us.head?.any Tree.beginsQuery

/-- The clauses that are joined by `OR`. -/
def clauses? (us : List (Read α)) : Option (List (List (Formula α))) :=
  if isListing (us.map (·.1)) then none
  else (us.splitOnP (Read.isKeyword "OR")).mapM (clause? atom?)

/-- The formula of some clauses: the disjunction of their conjunctions. -/
def ofClauses (cs : List (List (Formula α))) : Formula α :=
  Connective.or.groupOf (cs.map Connective.and.groupOf)

mutual

/-- What stands in a group. -/
def Tree.inner? : Tree → Option (Formula α)
  | .leaf _ => none
  | .group _ content => (clauses? atom? (readings content)).map ofClauses

/-- Trees with what stands in them. -/
def readings : List Tree → List (Read α)
  | [] => []
  | u :: us => (u, u.inner?) :: readings us

end

theorem readings_eq (us : List Tree) : readings atom? us = us.map fun u => (u, u.inner? atom?) := by
  induction us with
  | nil => rw [readings, List.map_nil]
  | cons u us ih => rw [readings, ih, List.map_cons]

theorem map_readings (us : List Tree) : (readings atom? us).map (·.1) = us := by
  rw [readings_eq, List.map_map]
  exact List.map_id us

/-- The formula of a text, its atoms read by `atom?`. -/
def read? (s : List Char) : Option (Formula α) :=
  (trees? s).bind fun us => (clauses? atom? (readings atom? us)).map ofClauses

/-- A text that is an expression, and its clauses. -/
def Reads (s : List Char) (cs : List (List (Formula α))) : Prop :=
  ∃ us, Balanced s us ∧ clauses? atom? (readings atom? us) = some cs

variable {atom?}

theorem read?_eq_some_iff {s : List Char} {f : Formula α} :
    read? atom? s = some f ↔ ∃ cs, Reads atom? s cs ∧ ofClauses cs = f := by
  unfold read? Reads
  simp only [Option.bind_eq_some_iff, Option.map_eq_some_iff, trees?_eq_some_iff]
  constructor
  · rintro ⟨us, hus, cs, hcs, rfl⟩
    exact ⟨cs, ⟨us, hus, hcs⟩, rfl⟩
  · rintro ⟨cs, ⟨us, hus, hcs⟩, rfl⟩
    exact ⟨us, hus, cs, hcs, rfl⟩

/-! ## Texts joined by keywords -/

section

variable {us vs : List (Read α)} {x : Read α} {cs ds : List (List (Formula α))}

theorem clause?_append (hx : x.isKeyword "AND") {c d : List (Formula α)} (hus : clause? atom? us = some c)
    (hvs : clause? atom? vs = some d) : clause? atom? (us ++ x :: vs) = some (c ++ d) := by
  unfold clause? at hus hvs ⊢
  rw [List.splitOnP_append_cons _ _ hx, List.mapM_append, hus, hvs]
  rfl

theorem clauses?_eq_some_iff : clauses? atom? us = some cs ↔
    isListing (us.map (·.1)) = false ∧ (us.splitOnP (Read.isKeyword "OR")).mapM (clause? atom?) = some cs := by
  unfold clauses?
  split
  next h => simp [h]
  next h => simp [h]

/-- Nothing is no expression. -/
theorem ne_nil_of_clauses? (h : clauses? atom? us = some cs) : us ≠ [] := by
  rintro rfl
  cases h

theorem isListing_joined (hus : clauses? atom? us = some cs) (hvs : clauses? atom? vs = some ds)
    (hx : x.1.isMark ',' = false) : isListing ((us ++ x :: vs).map (·.1)) = false := by
  obtain ⟨u, us, rfl⟩ := List.exists_cons_of_ne_nil (ne_nil_of_clauses? hus)
  have hus' := (clauses?_eq_some_iff.1 hus).1
  have hvs' := (clauses?_eq_some_iff.1 hvs).1
  simp only [isListing, Bool.or_eq_false_iff] at hus' hvs' ⊢
  refine ⟨?_, hus'.2⟩
  rw [List.map_append, List.any_append, hus'.1, List.map_cons, List.any_cons, hx, hvs'.1]
  rfl

theorem clauses?_or (hx : x.isKeyword "OR") (hcomma : x.1.isMark ',' = false)
    (hus : clauses? atom? us = some cs) (hvs : clauses? atom? vs = some ds) :
    clauses? atom? (us ++ x :: vs) = some (cs ++ ds) := by
  refine clauses?_eq_some_iff.2 ⟨isListing_joined hus hvs hcomma, ?_⟩
  rw [List.splitOnP_append_cons _ _ hx, List.mapM_append, (clauses?_eq_some_iff.1 hus).2,
    (clauses?_eq_some_iff.1 hvs).2]
  rfl

theorem clauses?_and (hx : x.isKeyword "AND") (hor : x.isKeyword "OR" = false)
    (hcomma : x.1.isMark ',' = false) (hus : clauses? atom? us = some cs)
    (hvs : clauses? atom? vs = some ds) : clauses? atom? (us ++ x :: vs) = some (glued cs ds) := by
  refine clauses?_eq_some_iff.2 ⟨isListing_joined hus hvs hcomma, ?_⟩
  have hus' := (clauses?_eq_some_iff.1 hus).2
  have hvs' := (clauses?_eq_some_iff.1 hvs).2
  obtain ⟨z, zs, hzs⟩ := List.exists_cons_of_ne_nil
    (List.splitOnP_ne_nil (Read.isKeyword (α := α) "OR") vs)
  rw [splitOnP_append_cons_of_not hor _ _ hzs]
  rw [hzs] at hvs'
  exact mapM_glued (clause?_append hx) (List.splitOnP_ne_nil _ _) hus' hvs'

/-- What stands between parentheses is one operand. -/
theorem clauses?_group {us : List Tree} (h : clauses? atom? (readings atom? us) = some cs) :
    clauses? atom? (readings atom? [.group .round us]) = some [[ofClauses cs]] := by
  rw [readings_eq, List.map_singleton, Tree.inner?, h]
  rfl

end

namespace Reads

variable {a b : List Char} {cs ds : List (List (Formula α))}

/-- A text joined by `OR` has the clauses of both. -/
theorem or (ha : Reads atom? a cs) (hb : Reads atom? b ds) :
    Reads atom? (a ++ (" OR ".toList ++ b)) (cs ++ ds) := by
  obtain ⟨us, hus, hcs⟩ := ha
  obtain ⟨vs, hvs, hds⟩ := hb
  have hword : Nests [.word "OR".toList] [.leaf (.word "OR".toList)] :=
    .leaf (by decide) (by decide) (by decide)
  refine ⟨_, hus.joined (c := ' ') (p := "OR ".toList) (by decide) (by decide) hword hvs, ?_⟩
  have hor : Tree.isKeyword "OR" (.leaf (.word "OR".toList)) := by decide
  rw [readings_eq, List.map_append, List.map_cons]
  rw [readings_eq] at hcs hds
  exact clauses?_or hor rfl hcs hds

/-- A text joined by `AND` goes on with the last clause of the first and the first clause of the second. -/
theorem and (ha : Reads atom? a cs) (hb : Reads atom? b ds) :
    Reads atom? (a ++ (" AND ".toList ++ b)) (glued cs ds) := by
  obtain ⟨us, hus, hcs⟩ := ha
  obtain ⟨vs, hvs, hds⟩ := hb
  have hword : Nests [.word "AND".toList] [.leaf (.word "AND".toList)] :=
    .leaf (by decide) (by decide) (by decide)
  refine ⟨_, hus.joined (c := ' ') (p := "AND ".toList) (by decide) (by decide) hword hvs, ?_⟩
  have hand : Tree.isKeyword "AND" (.leaf (.word "AND".toList)) := by decide
  have hor : Tree.isKeyword "OR" (.leaf (.word "AND".toList)) = false := by decide
  rw [readings_eq, List.map_append, List.map_cons]
  rw [readings_eq] at hcs hds
  exact clauses?_and hand hor rfl hcs hds

/-- An expression between parentheses is one operand. -/
theorem parenthesised (ha : Reads atom? a cs) : Reads atom? ('(' :: a ++ [')']) [[ofClauses cs]] := by
  obtain ⟨us, hus, hcs⟩ := ha
  exact ⟨_, hus.parenthesised, clauses?_group hcs⟩

theorem of_parenthesised {us : List Tree} (ha : Balanced a us) (h : Reads atom? ('(' :: a ++ [')']) cs) :
    ∃ ds, Reads atom? a ds ∧ cs = [[ofClauses ds]] := by
  obtain ⟨vs, hvs, hcs⟩ := h
  obtain rfl := hvs.unique ha.parenthesised
  rw [readings_eq, List.map_singleton, Tree.inner?] at hcs
  cases hinner : clauses? atom? (readings atom? us) with
  | none =>
    rw [hinner] at hcs
    cases hcs
  | some ds =>
    rw [hinner] at hcs
    exact ⟨ds, ⟨us, ha, hinner⟩, (Option.some.inj hcs).symm⟩

/-- An expression between parentheses behind a `NOT` is its negation. -/
theorem negated (ha : Reads atom? a cs) :
    Reads atom? ("NOT ".toList ++ ('(' :: a ++ [')'])) [[.not (ofClauses cs)]] := by
  obtain ⟨us, hus, hcs⟩ := ha
  have hword : Nests [.word "NOT".toList] [.leaf (.word "NOT".toList)] :=
    .leaf (by decide) (by decide) (by decide)
  obtain ⟨ts, hts, hgroup⟩ := hus.parenthesised
  refine ⟨_, ⟨_, hts.behind (p := "NOT ".toList) (q := [.word "NOT".toList]) (by decide),
    hword.append hgroup⟩, ?_⟩
  rw [readings_eq, List.map_append, List.map_singleton, List.map_singleton, Tree.inner?.eq_2, hcs]
  rfl

/-- Several texts with a connective between them. -/
theorem joined (k : Connective) {parts : List String} {css : List (List (List (Formula α)))}
    (h : List.Forall₂ (fun (part : String) cs => Reads atom? part.toList cs) parts css) (hne : parts ≠ []) :
    Reads atom? (k.joiner.intercalate parts).toList (css.foldr k.glue []) := by
  induction h with
  | nil => exact absurd rfl hne
  | @cons part cs parts css hpart hrest ih =>
    cases hrest with
    | nil =>
      rw [String.intercalate_singleton, List.foldr_cons, List.foldr_nil, k.glue_nil]
      exact hpart
    | cons hnext hrest =>
      have hall := ih (by simp)
      rw [String.intercalate_cons_cons, String.toList_append, String.toList_append, List.append_assoc,
        List.foldr_cons]
      cases k with
      | and => exact hpart.and hall
      | or => exact hpart.or hall

/-- A text is the expression that it is without the blanks around it. -/
theorem trim (ha : Reads atom? a cs) : Reads atom? (Text.trim a) cs := by
  obtain ⟨us, hus, hcs⟩ := ha
  exact ⟨us, hus.trim, hcs⟩

theorem unique (h : Reads atom? a cs) (h' : Reads atom? a ds) : cs = ds := by
  obtain ⟨us, hus, hcs⟩ := h
  obtain ⟨vs, hvs, hds⟩ := h'
  obtain rfl := hus.unique hvs
  exact Option.some.inj (hcs.symm.trans hds)

end Reads

/-! ## Atoms -/

/-- Whether a tree stands between expressions. -/
def Tree.separates (u : Tree) : Bool := u.isKeyword "AND" || u.isKeyword "OR" || u.isMark ','

/-- Whether trees are a comparison and nothing that is joined. -/
def isComparison (us : List Tree) : Bool :=
  (us.all fun u => !u.separates) &&
    match us with
    | [] | [.group .round _] => false
    | u :: _ => !u.isKeyword "NOT" && !u.beginsQuery

/-- A comparison is one clause of one operand. -/
theorem clauses?_atom {us : List Tree} {a : α} (hus : isComparison us) (ha : atom? us = some a) :
    clauses? atom? (readings atom? us) = some [[.atom a]] := by
  obtain ⟨hall, hfirst⟩ := Bool.and_eq_true_iff.1 hus
  simp only [List.all_eq_true, Bool.not_eq_true', Tree.separates, Bool.or_eq_false_iff] at hall
  refine clauses?_eq_some_iff.2 ⟨?_, ?_⟩
  · rw [map_readings, isListing, Bool.or_eq_false_iff, List.any_eq_false]
    refine ⟨fun u hu => by simp [(hall u hu).2], ?_⟩
    match us with
    | [] => rfl
    | .leaf t :: us => simpa using (Bool.and_eq_true_iff.1 hfirst).2
    | .group _ _ :: us => rfl
  · have hone : ∀ keyword, (∀ u ∈ us, u.isKeyword keyword = false) →
        (readings atom? us).splitOnP (Read.isKeyword keyword) = [readings atom? us] := by
      intro keyword hkeyword
      refine List.splitOnP_eq_singleton fun x hx => ?_
      rw [readings_eq] at hx
      obtain ⟨u, hu, rfl⟩ := List.mem_map.1 hx
      exact hkeyword u hu
    have hoperand : operand? atom? (readings atom? us) = some (.atom a) := by
      match us with
      | [] => cases hfirst
      | [.group .round _] => cases hfirst
      | .leaf t :: us =>
        have hnot : Tree.isKeyword "NOT" (.leaf t) = false := by
          simpa using (Bool.and_eq_true_iff.1 hfirst).1
        rw [readings, operand?, if_neg (by simp [hnot]), map_readings, ha]
        · rfl
        · simp
      | .group b content :: u :: us =>
        rw [readings, operand?, if_neg (by simp [Tree.isKeyword]), map_readings, ha]
        · rfl
        · simp [readings]
      | [.group .square _] | [.group .choice _] | [.group .range _] =>
        rw [readings, operand?, if_neg (by simp [Tree.isKeyword]), map_readings, ha]
        · rfl
        · simp
    rw [hone "OR" fun u hu => (hall u hu).1.2, List.mapM_cons, List.mapM_nil, clause?,
      hone "AND" fun u hu => (hall u hu).1.1, List.mapM_cons, List.mapM_nil, hoperand]
    rfl

theorem Reads.atom {s : List Char} {us : List Tree} {a : α} (hs : Balanced s us) (hus : isComparison us)
    (ha : atom? us = some a) : Reads atom? s [[.atom a]] := ⟨us, hs, clauses?_atom hus ha⟩

end DeclaredTriggers.Sql.Expression
