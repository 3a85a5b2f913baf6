import DeclaredTriggers.Proofs.Condition.Meaning
import DeclaredTriggers.Proofs.Sql.Expression.Regrouping

/-!
# Free SQL among other conditions

Free SQL stands in the text of a condition as it is. Under a `NOT`, or alone, it is one operand; next to others
it need not be: where `AND` joins it with others and it has an `OR` of its own outside brackets, the `AND` goes
to the clause next to it. So the text of a condition says what was declared, with each free text as one
operand (`Condition.declared?`), exactly if no conjunction of several has such a text for a member
(`Condition.KeepsApart`):

> `Condition.exists_said`: the text of a condition whose free texts are expressions is read as a part that is
> faithful to what was declared if, and full only if, every conjunction in it keeps its members apart.
-/

namespace DeclaredTriggers

open Sql.Expression

/-- The formula of a text, if there is one. -/
def readText? : Except Error String → Option (Formula (List Tree))
  | .ok text => read? some text.toList
  | .error _ => none

/-- Whether a text is an expression without an `OR` outside brackets. -/
def IsConjunct (s : String) : Prop := ∃ clause, Reads some s.toList [clause]

/-- Whether a text is an expression between parentheses that belong together. -/
def IsEnclosed (s : List Char) : Prop := ∃ content us, s = '(' :: content ++ [')'] ∧ Balanced content us

namespace Condition

mutual

/-- What was declared: the tree with the comparisons, and each free text as one operand, at its leaves. -/
def declared? (e : Entity) : Condition → Option (Formula (List Tree))
  | .raw s => read? some s.toList
  | .lookup l => readText? (l.sql e)
  | .change c => readText? (c.sql e)
  | .all cs => (declaredEach? e cs).map .all
  | .any cs => (declaredEach? e cs).map .any
  | .not c => (declared? e c).map .not

/-- The same of several conditions. -/
def declaredEach? (e : Entity) : List Condition → Option (List (Formula (List Tree)))
  | [] => some []
  | c :: cs => (declared? e c).bind fun f => (declaredEach? e cs).map (f :: ·)

end

mutual

/-- The free text that a condition is, alone or in groups of one. -/
def bare? : Condition → Option String
  | .raw s => some s
  | .all cs | .any cs => onlyBare? cs
  | .lookup _ | .change _ | .not _ => none

/-- The free text that the only member of a group is. -/
def onlyBare? : List Condition → Option String
  | [c] => bare? c
  | _ => none

end

/-- Whether a conjunction of several has no member that is a free text with an `OR` of its own. -/
def KeepsApart : Condition → Prop
  | .all cs => 2 ≤ cs.length → ∀ c ∈ cs, ∀ s, c.bare? = some s → IsConjunct s
  | _ => True

theorem declared?_group (k : Connective) (e : Entity) (cs : List Condition) :
    declared? e (k.condition cs) = (declaredEach? e cs).map k.group := by
  cases k <;> rw [Connective.condition, declared?] <;> rfl

theorem bare?_group (k : Connective) (cs : List Condition) : (k.condition cs).bare? = onlyBare? cs := by
  cases k <;> rw [Connective.condition, bare?]

theorem keepsApart_singleton (k : Connective) (c : Condition) : (k.condition [c]).KeepsApart := by
  cases k with
  | and => exact fun h => absurd h (by simp)
  | or => exact trivial

/-- How the text of a condition is read, for what was declared. -/
structure Said (e : Entity) (c : Condition) (text : String) (x : Sql.Expression.Part (List Tree)) : Prop where
  declared : c.declared? e = some x.meant
  reads : Reads some text.toList x.clauses
  within : x.IsWithin
  apart : x.IsFull → ∀ p ∈ c.parts, p.KeepsApart
  faithful : (∀ p ∈ c.parts, p.KeepsApart) → x.IsFaithful
  bare : ∀ s, c.bare? = some s → text = s
  /-- What is no free text is one operand. -/
  operand : c.bare? = none → x.clauses.length = 1
  shape : c.bare? = none → (∃ a rest, text.toList = a :: rest ∧ a.isAlpha) ∨ IsEnclosed text.toList

/-- A member of a group with its text. -/
structure Member where
  condition : Condition
  text : String
  part : Sql.Expression.Part (List Tree)

/-- Whether a member is read as what was declared. -/
def Member.IsSaid (e : Entity) (m : Member) : Prop := Said e m.condition m.text m.part

theorem exists_members {e : Entity} {cs : List Condition} {texts : List String}
    (htexts : List.Forall₂ (fun c text => sql e c = .ok text) cs texts)
    (h : ∀ c ∈ cs, ∀ text, c.sql e = .ok text → ∃ x, Said e c text x) :
    ∃ ms : List Member, ms.map Member.condition = cs ∧ ms.map Member.text = texts ∧ ∀ m ∈ ms, m.IsSaid e := by
  induction htexts with
  | nil => exact ⟨[], rfl, rfl, List.forall_mem_nil _⟩
  | @cons c text cs texts htext _ ih =>
    obtain ⟨x, hx⟩ := h c List.mem_cons_self text htext
    obtain ⟨ms, rfl, rfl, hms⟩ := ih fun c hc => h c (List.mem_cons_of_mem _ hc)
    exact ⟨⟨c, text, x⟩ :: ms, rfl, rfl, List.forall_mem_cons.2 ⟨hx, hms⟩⟩

section

variable {e : Entity} {ms : List Member} (k : Connective)

theorem declaredEach?_members (h : ∀ m ∈ ms, m.IsSaid e) :
    declaredEach? e (ms.map Member.condition) = some ((ms.map Member.part).map Part.meant) := by
  induction ms with
  | nil => rw [List.map_nil, declaredEach?]; rfl
  | cons m ms ih =>
    rw [List.map_cons, declaredEach?, (h m List.mem_cons_self).declared,
      ih fun m hm => h m (List.mem_cons_of_mem _ hm)]
    rfl

theorem reads_members (h : ∀ m ∈ ms, m.IsSaid e) :
    List.Forall₂ (fun (text : String) cs => Reads some text.toList cs) (ms.map Member.text)
      ((ms.map Member.part).map Part.clauses) := by
  rw [List.map_map, List.forall₂_map_left_iff, List.forall₂_map_right_iff, List.forall₂_same]
  exact fun m hm => (h m hm).reads

/-- The text of a group of one is that of its member. -/
theorem said_only {m : Member} (h : m.IsSaid e) :
    Said e (k.condition [m.condition]) (grouped k.joiner [m.text]) (.joined k [m.part]) := by
  have hclauses : (Part.joined k [m.part]).clauses = m.part.clauses := Part.clauses_joined_singleton _
  have hparts : ∀ {P : Condition → Prop}, (∀ p ∈ (k.condition [m.condition]).parts, P p) ↔
      P (k.condition [m.condition]) ∧ ∀ p ∈ m.condition.parts, P p := fun {P} => by
    rw [forall_parts_group, List.forall_mem_singleton]
  obtain ⟨hwithin, hfull⟩ := Part.joined_isWithin (k := k) (List.cons_ne_nil m.part [])
    (List.forall_mem_singleton.2 h.within)
  have hbare : (k.condition [m.condition]).bare? = m.condition.bare? := bare?_group k _
  refine ⟨?_, ?_, hwithin, ?_, ?_, ?_, ?_, ?_⟩
  · rw [declared?_group]
    exact congrArg _ (declaredEach?_members (List.forall_mem_singleton.2 h))
  · rw [hclauses]
    exact h.reads
  · intro hall
    exact hparts.2 ⟨keepsApart_singleton k _, h.apart (hfull hall _ List.mem_cons_self).1⟩
  · intro hall
    exact Part.joined_isFaithful (by simp) (List.forall_mem_singleton.2 h.within)
      (fun _ hlength => absurd hlength (by simp))
      (List.forall_mem_singleton.2 (h.faithful (hparts.1 hall).2))
  · rw [hbare]
    exact h.bare
  · rw [hbare, hclauses]
    exact h.operand
  · rw [hbare]
    exact h.shape

/-- A conjunction keeps its members apart exactly if each of them has a single clause. -/
theorem keepsApart_members (hlength : 2 ≤ ms.length) (h : ∀ m ∈ ms, m.IsSaid e) :
    (k.condition (ms.map Member.condition)).KeepsApart ↔
      (k = .and → ∀ m ∈ ms, m.part.clauses.length = 1) := by
  cases k with
  | or => exact ⟨fun _ => nofun, fun _ => trivial⟩
  | and =>
    have hone : ∀ m ∈ ms, m.part.clauses.length = 1 ↔
        ∀ s, m.condition.bare? = some s → IsConjunct s := by
      intro m hm
      have hsaid := h m hm
      cases hbare : m.condition.bare? with
      | none => exact ⟨fun _ => nofun, fun _ => hsaid.operand hbare⟩
      | some s =>
        have hreads := hsaid.reads
        rw [hsaid.bare s hbare] at hreads
        constructor
        · rintro hlength t ht
          obtain rfl := Option.some.inj ht
          obtain ⟨clause, hclause⟩ := List.length_eq_one_iff.1 hlength
          exact ⟨clause, hclause ▸ hreads⟩
        · intro hall
          obtain ⟨clause, hclause⟩ := hall s rfl
          rw [hreads.unique hclause]
          rfl
    have hiff : (Connective.and.condition (ms.map Member.condition)).KeepsApart ↔
        ∀ m ∈ ms, ∀ s, m.condition.bare? = some s → IsConjunct s := by
      rw [Connective.condition, KeepsApart, List.length_map]
      constructor
      · exact fun hall m hm => hall hlength _ (List.mem_map_of_mem hm)
      · intro hall _ c hc
        obtain ⟨m, hm, rfl⟩ := List.mem_map.1 hc
        exact hall m hm
    rw [hiff]
    exact ⟨fun hall _ m hm => (hone m hm).2 (hall m hm), fun hall m hm => (hone m hm).1 (hall rfl m hm)⟩

/-- The text of a group of several is one operand, and says what was declared if the group keeps its members
apart. -/
theorem said_several (hlength : 2 ≤ ms.length) (h : ∀ m ∈ ms, m.IsSaid e) :
    Said e (k.condition (ms.map Member.condition)) (grouped k.joiner (ms.map Member.text))
      (Part.joined k (ms.map Member.part)).operand := by
  obtain ⟨m, m', rest, rfl⟩ : ∃ m m' rest, ms = m :: m' :: rest := by
    match ms with
    | m :: m' :: rest => exact ⟨m, m', rest, rfl⟩
  have hne : (m :: m' :: rest).map Member.part ≠ [] := by simp
  have hwithins : ∀ x ∈ (m :: m' :: rest).map Member.part, x.IsWithin := List.forall_mem_map.2 fun m hm =>
    (h m hm).within
  obtain ⟨hwithin, hfull⟩ := Part.joined_isWithin (k := k) hne hwithins
  have hkeeps := keepsApart_members k hlength h
  have hbare : (k.condition ((m :: m' :: rest).map Member.condition)).bare? = none := bare?_group k _
  have hmembers := reads_members h
  have hjoined := Reads.joined k hmembers (by simp)
  refine ⟨?_, reads_grouped k hmembers (by simp), hwithin.operand, fun hall => ?_, fun hall => ?_, ?_,
    fun _ => rfl, fun _ => .inr ?_⟩
  · rw [declared?_group, declaredEach?_members h]
    rfl
  · have hmember := List.forall_mem_map.1 (hfull (Part.isFull_operand.1 hall))
    refine (forall_parts_group k).2 ⟨hkeeps.2 fun hand m hm => (hmember m hm).2 hand (by simp), ?_⟩
    exact List.forall_mem_map.2 fun m hm => (h m hm).apart (hmember m hm).1
  · obtain ⟨hgroup, hparts⟩ := (forall_parts_group k).1 hall
    exact Part.joined_isFaithful hne hwithins
      (fun hand _ => List.forall_mem_map.2 (hkeeps.1 hgroup hand))
      (List.forall_mem_map.2 fun m hm => (h m hm).faithful (List.forall_mem_map.1 hparts m hm))
  · rw [hbare]
    exact fun _ hs => by cases hs
  · obtain ⟨us, hus, -⟩ := hjoined
    refine ⟨_, us, ?_, hus⟩
    show ("(" ++ k.joiner.intercalate _ ++ ")").toList = _
    rw [String.toList_append, String.toList_append]
    rfl

end

/-- A leaf that is an expression is read as what was declared. -/
theorem said_leaf {e : Entity} {c : Condition} {text : String} {cs : List (List (Formula (List Tree)))}
    (hreads : Reads some text.toList cs) (hdeclared : c.declared? e = read? some text.toList)
    (hparts : ∀ p ∈ c.parts, p.KeepsApart) (hbare : ∀ s, c.bare? = some s → text = s)
    (hone : c.bare? = none → cs.length = 1)
    (hshape : c.bare? = none → (∃ a rest, text.toList = a :: rest ∧ a.isAlpha) ∨ IsEnclosed text.toList) :
    Said e c text ⟨cs, ofClauses cs⟩ where
  declared := hdeclared.trans (read?_eq_some_iff.2 ⟨cs, hreads, rfl⟩)
  reads := hreads
  within := ⟨hreads.proper, hreads.proper.size_ofClauses.symm, (pairs_ofClauses cs).ge⟩
  apart _ := hparts
  faithful _ := .refl _
  bare := hbare
  operand := hone
  shape := hshape

end Condition

/-- Texts that are each an operand, and these operands. -/
theorem exists_operands {β : Type} {R : β → String → Prop} {xs : List β} {texts : List String}
    (h : List.Forall₂ R xs texts) (hreads : ∀ x text, R x text → ∃ f, Reads some text.toList [[f]]) :
    ∃ fs, List.Forall₂ (fun (text : String) f => Reads some text.toList [[f]]) texts fs := by
  induction h with
  | nil => exact ⟨[], .nil⟩
  | cons hx _ ih =>
    obtain ⟨f, hf⟩ := hreads _ _ hx
    obtain ⟨fs, hfs⟩ := ih
    exact ⟨f :: fs, .cons hf hfs⟩

theorem Compares.reads {s : List Char} {us : List Tree} {c : Comparison} (h : Compares s us c) :
    Reads some s [[.atom us]] := .atom h.balanced h.whole rfl

/-- The text of a change predicate is one operand. -/
theorem Change.reads_operand {c : Change} {e : Entity} {text : String} (h : c.sql e = .ok text) :
    (∃ f, Reads some text.toList [[f]]) ∧
      ((∃ a rest, text.toList = a :: rest ∧ a.isAlpha) ∨ IsEnclosed text.toList) := by
  obtain ⟨fields, -, hne, ⟨-, us, hus⟩ | ⟨-, parts, rfl, hparts⟩⟩ := Change.sql_eq h
  · exact ⟨⟨_, hus.reads⟩, .inl hus.first⟩
  · have hsome : parts ≠ [] := by
      rintro rfl
      cases hparts
      exact hne rfl
    obtain ⟨fs, hfs⟩ := exists_operands hparts fun field part ⟨us, name, _, hus⟩ => ⟨_, hus.reads⟩
    refine ⟨⟨_, reads_operands _ hfs hsome⟩, ?_⟩
    match hparts with
    | .cons ⟨us, name, _, hus⟩ .nil => exact .inl hus.first
    | .cons _ (.cons _ _) =>
      obtain ⟨us, hus, -⟩ := Reads.joined c.kind.connective (List.forall₂_map_right_iff.2 hfs) hsome
      refine .inr ⟨_, us, ?_, hus⟩
      show ("(" ++ c.kind.connective.joiner.intercalate _ ++ ")").toList = _
      rw [String.toList_append, String.toList_append]
      rfl

namespace Condition

/-- The text of a condition whose free texts are expressions is read as a part that is faithful to what was
declared if, and full only if, every conjunction in it keeps its members apart. -/
theorem exists_said {e : Entity} {c : Condition}
    (hraw : ∀ s, .raw s ∈ c.parts → ∃ f, read? some s.toList = some f) :
    ∀ text, c.sql e = .ok text → ∃ x, Said e c text x := by
  induction c using induct with
  | raw s =>
    intro text h
    rw [sql] at h
    split at h
    next => cases h
    next =>
      obtain rfl := Except.ok.inj h
      obtain ⟨f, hf⟩ := hraw s (mem_parts_self _)
      obtain ⟨cs, hcs, -⟩ := read?_eq_some_iff.1 hf
      refine ⟨_, said_leaf hcs (by rw [declared?]) ?_ ?_ (fun h => by cases h) fun h => by cases h⟩
      · rw [parts]
        exact List.forall_mem_singleton.2 trivial
      · intro t ht
        exact Option.some.inj ht
  | lookup l =>
    intro text h
    rw [sql] at h
    obtain ⟨us, c, -, hus⟩ := Lookup.reads h
    refine ⟨_, said_leaf hus.reads (by rw [declared?, h]; rfl) ?_ (fun _ h => by cases h) (fun _ => rfl)
      fun _ => .inl hus.first⟩
    rw [parts]
    exact List.forall_mem_singleton.2 trivial
  | change c =>
    intro text h
    rw [sql] at h
    obtain ⟨⟨f, hf⟩, hshape⟩ := Change.reads_operand h
    refine ⟨_, said_leaf hf (by rw [declared?, h]; rfl) ?_ (fun _ h => by cases h) (fun _ => rfl) fun _ => hshape⟩
    rw [parts]
    exact List.forall_mem_singleton.2 trivial
  | group k cs ih =>
    intro text h
    obtain ⟨hne, texts, htexts, rfl⟩ := sql_group_eq k h
    obtain ⟨ms, rfl, rfl, hms⟩ := exists_members (forall₂_of_mapM htexts) fun c hc =>
      ih c hc fun s hs => hraw s (mem_parts_of_mem k hc hs)
    obtain _ | ⟨m, _ | ⟨m', rest⟩⟩ := ms
    · exact absurd rfl hne
    · exact ⟨_, said_only k (hms m List.mem_cons_self)⟩
    · exact ⟨_, said_several k (by simp) hms⟩
  | not c ih =>
    intro text h
    rw [sql] at h
    obtain ⟨part, hpart, htext⟩ := exists_ok_of_bind h
    obtain rfl := Except.ok.inj htext
    obtain ⟨x, hx⟩ := ih (fun s hs => hraw s (by rw [parts]; exact List.mem_cons_of_mem _ hs)) part hpart
    have hparts : (∀ p ∈ (Condition.not c).parts, p.KeepsApart) ↔ ∀ p ∈ c.parts, p.KeepsApart := by
      rw [parts, List.forall_mem_cons]
      exact and_iff_right trivial
    have hlist : ("NOT (" ++ part ++ ")").toList = "NOT ".toList ++ ('(' :: part.toList ++ [')']) :=
      toList_not part
    refine ⟨x.negated, ?_, ?_, hx.within.negated, fun hfull => ?_, fun hall => ?_, (fun _ h => by cases h),
      fun _ => rfl,
      fun _ => .inl ⟨'N', _, hlist, by decide⟩⟩
    · rw [declared?, hx.declared]
      rfl
    · rw [hlist]
      exact hx.reads.negated
    · exact hparts.2 (hx.apart (Part.isFull_negated.1 hfull))
    · exact (hx.faithful (hparts.1 hall)).not

end Condition

end DeclaredTriggers
