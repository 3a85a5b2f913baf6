import DeclaredTriggers.Install.Compiled
import DeclaredTriggers.Proofs.Condition.Grouping

/-!
# What the `WHEN` clause says

The clause holds the trigger's own condition and the one its kind brings. It is written without parentheses
of its own where the text seems to have them already, which is told by counting parentheses outside single
quotes. For free SQL with parentheses in a quoted name, or behind a quote that a backslash escapes, that count
is another than the database's.

> `Trigger.whenClause_says_iff`: the clause is one expression between parentheses that says what was declared
> exactly if every conjunction keeps its members apart and a free text that seems enclosed is.
-/

namespace DeclaredTriggers

open Sql.Expression
open Text (isBlank trim)

/-! ## Texts that seem enclosed -/

theorem toList_trimmed (s : String) : (Text.trimmed s).toList = trim s.toList := String.toList_ofList

/-- A text that begins with what is no blank keeps its beginning. -/
theorem trim_cons {c : Char} (hc : isBlank c = false) (s : List Char) : ∃ rest, trim (c :: s) = c :: rest := by
  have hstart : Text.trimStart (c :: s) = c :: s := List.dropWhile_cons_of_neg (by simp [hc])
  have hend := Sql.trimEnd_append (a := []) hc s
  rw [List.nil_append, List.nil_append] at hend
  exact ⟨_, by rw [Text.trim, hstart, hend]⟩

theorem isBlank_of_isAlpha {c : Char} (h : c.isAlpha) : isBlank c = false := by
  have hall : ∀ n < 128, (Char.ofNat n).isAlpha → isBlank (Char.ofNat n) = false := by decide +kernel
  refine forall_ascii (P := fun c => c.isAlpha → isBlank c = false) hall c ?_ h
  exact Definition.toNat_lt_of_isNameCharacter (by simp [Definition.isNameCharacter, Char.isAlphanum, h])

/-- A text that seems enclosed stands between two parentheses. -/
theorem exists_content_of_isParenthesised {s : List Char} (h : isParenthesised s) :
    ∃ content, s = '(' :: content ++ [')'] := by
  simp only [isParenthesised, Text.begins, Text.ends, Bool.and_eq_true, Option.isSome_iff_exists] at h
  obtain ⟨⟨⟨rest, hbegins⟩, last, hends⟩, -⟩ := h
  have hfirst := Text.eq_append_of_strip? hbegins
  have hlast := congrArg List.reverse (Text.eq_append_of_strip? hends)
  rw [List.reverse_reverse, List.reverse_append, List.reverse_reverse] at hlast
  cases hinit : last.reverse with
  | nil =>
    rw [hinit, hfirst] at hlast
    cases hlast
  | cons c init =>
    rw [hinit] at hlast
    have hcons : '(' :: rest = c :: (init ++ [')']) := hfirst.symm.trans hlast
    obtain ⟨rfl, -⟩ := List.cons.inj hcons
    exact ⟨init, hlast⟩

/-- What is no free text is enclosed if it seems so. -/
theorem Condition.Said.isEnclosed {e : Entity} {c : Condition} {text : String} {x : Sql.Expression.Part (List Tree)}
    (h : Said e c text x) (hbare : c.bare? = none) (hseems : isParenthesised (trim text.toList)) :
    IsEnclosed (trim text.toList) := by
  rcases h.shape hbare with ⟨a, rest, htext, ha⟩ | ⟨content, us, htext, hus⟩
  · obtain ⟨content, hcontent⟩ := exists_content_of_isParenthesised hseems
    obtain ⟨rest', hrest⟩ := trim_cons (isBlank_of_isAlpha ha) rest
    rw [htext, hrest] at hcontent
    obtain ⟨rfl, -⟩ := List.cons.inj hcontent
    cases ha
  · have htrim := Sql.trim_of_ends (c := '(') (d := ')') (s := content) (by decide) (by decide)
    rw [htext, htrim]
    exact ⟨content, us, rfl, hus⟩

/-- What was declared of several conditions and one more. -/
theorem Condition.declaredEach?_snoc {e : Entity} {cs : List Condition} {d : Condition}
    {fs : List (Formula (List Tree))} (h : declaredEach? e (cs ++ [d]) = some fs) :
    ∃ before g, declaredEach? e cs = some before ∧ d.declared? e = some g ∧ fs = before ++ [g] := by
  induction cs generalizing fs with
  | nil =>
    rw [List.nil_append, declaredEach?] at h
    obtain ⟨g, hg, hrest⟩ := Option.bind_eq_some_iff.1 h
    rw [declaredEach?] at hrest
    exact ⟨[], g, by rw [declaredEach?], hg, (Option.some.inj hrest).symm⟩
  | cons c cs ih =>
    rw [List.cons_append, declaredEach?] at h
    obtain ⟨f, hf, hrest⟩ := Option.bind_eq_some_iff.1 h
    obtain ⟨fs, hfs, rfl⟩ := Option.map_eq_some_iff.1 hrest
    obtain ⟨before, g, hbefore, hg, rfl⟩ := ih hfs
    exact ⟨f :: before, g, by rw [declaredEach?, hf, hbefore]; rfl, hg, rfl⟩

namespace Trigger

/-- What was declared of when to fire: the trigger's own condition and the one its kind brings. An empty
conjunction adds nothing. -/
def declared? (t : Trigger) (e : Entity) : Option (Formula (List Tree)) :=
  match t.condition, t.kind.condition? with
  | some (.all []), some implied => implied.declared? e
  | some own, some implied =>
    (own.declared? e).bind fun f => (implied.declared? e).map fun g => .all [f, g]
  | some own, none => own.declared? e
  | none, implied => implied.bind (·.declared? e)

theorem exists_change {k : Kind} {c : Condition} (h : k.condition? = some c) : ∃ d, c = .change d := by
  cases k with
  | readOnly fields exclude => exact ⟨_, (Option.some.inj h).symm⟩
  | custom _ | protect | softDelete _ _ | stateMachine _ _ | searchVector _ _ _ => cases h

/-- The free texts in the whole condition are those of the trigger's own. -/
theorem raw_of_fullCondition? {t : Trigger} {c : Condition} (h : t.fullCondition? = some c) {s : String}
    (hs : .raw s ∈ c.parts) : ∃ own, t.condition = some own ∧ .raw s ∈ own.parts := by
  unfold fullCondition? at h
  split at h
  next own implied hown himplied =>
    obtain rfl := Option.some.inj h
    obtain ⟨d, rfl⟩ := exists_change himplied
    refine ⟨own, hown, ?_⟩
    have hmember : ∀ cs : List Condition, .raw s ∈ (Condition.all (cs ++ [.change d])).parts →
        ∃ c ∈ cs, .raw s ∈ c.parts := by
      intro cs hcs
      rw [Condition.parts, List.mem_cons] at hcs
      obtain ⟨c, hc, hpart⟩ := Condition.mem_partsEach.1 (hcs.resolve_left fun h => by cases h)
      rcases List.mem_append.1 hc with hc | hc
      · exact ⟨c, hc, hpart⟩
      · obtain rfl := List.mem_singleton.1 hc
        rw [Condition.parts, List.mem_singleton] at hpart
        cases hpart
    cases own with
    | all cs =>
      obtain ⟨c, hc, hpart⟩ := hmember cs hs
      exact Condition.mem_parts_of_mem .and hc hpart
    | raw _ | lookup _ | change _ | any _ | not _ =>
      obtain ⟨c, hc, hpart⟩ := hmember [_] hs
      obtain rfl := List.mem_singleton.1 hc
      exact hpart
  next own hown _ =>
    obtain rfl := Option.some.inj h
    exact ⟨_, hown, hs⟩
  next _ =>
    obtain ⟨d, rfl⟩ := exists_change h
    rw [Condition.parts, List.mem_singleton] at hs
    cases hs

/-- The whole condition is what was declared, up to regrouping. -/
theorem declared?_of_fullCondition? {t : Trigger} {e : Entity} {c : Condition} {f : Formula (List Tree)}
    (h : t.fullCondition? = some c) (hf : c.declared? e = some f) :
    ∃ g, t.declared? e = some g ∧ Regroups f g := by
  unfold fullCondition? at h
  unfold declared?
  split at h
  next own implied hown himplied =>
    obtain rfl := Option.some.inj h
    rw [hown, himplied]
    cases own with
    | all cs =>
      rw [Condition.and, Condition.declared?] at hf
      obtain ⟨fs, hfs, rfl⟩ := Option.map_eq_some_iff.1 hf
      obtain ⟨before, g, hbefore, hg, rfl⟩ := Condition.declaredEach?_snoc hfs
      cases cs with
      | nil =>
        rw [Condition.declaredEach?] at hbefore
        obtain rfl := Option.some.inj hbefore
        exact ⟨g, hg, .only .and g⟩
      | cons c cs =>
        refine ⟨.all [.all before, g], ?_, (Regroups.splice_first .and g ?_).symm⟩
        · simp only [Condition.declared?, hbefore, hg, Option.map_some, Option.bind_some]
        · rintro rfl
          rw [Condition.declaredEach?] at hbefore
          obtain ⟨_, -, hrest⟩ := Option.bind_eq_some_iff.1 hbefore
          obtain ⟨_, -, hnil⟩ := Option.map_eq_some_iff.1 hrest
          cases hnil
    | raw _ | lookup _ | change _ | any _ | not _ =>
      rw [Condition.and, Condition.declared?] at hf
      · obtain ⟨fs, hfs, rfl⟩ := Option.map_eq_some_iff.1 hf
        obtain ⟨before, g, hbefore, hg, rfl⟩ := Condition.declaredEach?_snoc
          (show Condition.declaredEach? e ([_] ++ [_]) = some fs from hfs)
        rw [Condition.declaredEach?] at hbefore
        obtain ⟨f, hfirst, hrest⟩ := Option.bind_eq_some_iff.1 hbefore
        rw [Condition.declaredEach?] at hrest
        obtain rfl := Option.some.inj hrest
        refine ⟨.all [f, g], ?_, .refl _⟩
        simp only [hfirst, hg, Option.map_some, Option.bind_some]
      · simp
  next own hown himplied =>
    obtain rfl := Option.some.inj h
    rw [hown, himplied]
    refine ⟨f, ?_, .refl f⟩
    simpa using hf
  next hown =>
    rw [hown, h]
    exact ⟨f, hf, .refl f⟩

/-- The clause is one expression between parentheses that says what was declared, up to regrouping, if and
only if every conjunction in the condition keeps its members apart and, where the condition is nothing but
free SQL that seems enclosed, it is. -/
theorem whenClause_says_iff {t : Trigger} {e : Entity} {text : String}
    (hraw : ∀ own, t.condition = some own → ∀ s, .raw s ∈ own.parts → ∃ f, read? some s.toList = some f)
    (h : t.whenClause e = .ok text) (hne : text ≠ "") :
    (∃ content, text.toList = "WHEN (".toList ++ content ++ [')'] ∧
        ∃ f g, read? some content = some f ∧ t.declared? e = some g ∧ Regroups f g) ↔
      ∀ c, t.fullCondition? = some c → (∀ p ∈ c.parts, p.KeepsApart) ∧
        ∀ s, c.bare? = some s → isParenthesised (trim s.toList) → IsEnclosed (trim s.toList) := by
  unfold whenClause at h
  split at h
  next => exact absurd (Except.ok.inj h).symm hne
  next c hc =>
    obtain ⟨written, hwritten, hclause⟩ := exists_ok_of_bind h
    obtain ⟨x, hx⟩ := Condition.exists_said (fun s hs => by
      obtain ⟨own, hown, hmem⟩ := raw_of_fullCondition? hc hs
      exact hraw own hown s hmem) written hwritten
    obtain ⟨g, hg, hmeant⟩ := declared?_of_fullCondition? hc hx.declared
    have htext : text = if isParenthesised (trim written.toList) then "WHEN " ++ Text.trimmed written
        else "WHEN (" ++ Text.trimmed written ++ ")" := by
      rw [← toList_trimmed]
      exact (Except.ok.inj hclause).symm
    have hreads : Reads some (trim written.toList) x.clauses := hx.reads.trim
    -- the formula that is read is that of the condition's text, with the clause's parentheses or without
    have hfaithful : Regroups (ofClauses x.clauses) g ↔ ∀ p ∈ c.parts, p.KeepsApart := by
      constructor
      · intro hall
        exact hx.apart (Part.IsFaithful.isFull (hall.trans hmeant.symm))
      · intro hall
        exact (hx.faithful hall).trans hmeant
    have hiff : ∀ {content : List Char} {cs : List (List (Formula (List Tree)))}, Reads some content cs →
        ofClauses cs = ofClauses x.clauses →
        ((∃ f g, read? some content = some f ∧ t.declared? e = some g ∧ Regroups f g) ↔
          ∀ p ∈ c.parts, p.KeepsApart) := by
      intro content cs hcontent hsame
      have hread := read?_eq_some_iff.2 ⟨cs, hcontent, rfl⟩
      rw [← hfaithful, ← hsame]
      constructor
      · rintro ⟨f, g', hf, hg', hall⟩
        obtain rfl := Option.some.inj (hread.symm.trans hf)
        obtain rfl := Option.some.inj (hg.symm.trans hg')
        exact hall
      · exact fun hall => ⟨_, g, hread, hg, hall⟩
    have hunique : ∀ {content content' : List Char}, text.toList = "WHEN (".toList ++ content ++ [')'] →
        text.toList = "WHEN (".toList ++ content' ++ [')'] → content' = content := fun hcontent hcontent' =>
      List.append_cancel_left (List.append_cancel_right (hcontent'.symm.trans hcontent))
    simp only [hc, Option.some.injEq, forall_eq']
    split at htext
    next hseems =>
      obtain ⟨content, hcontent⟩ := exists_content_of_isParenthesised hseems
      have htoList : text.toList = "WHEN (".toList ++ content ++ [')'] := by
        have hlead : "WHEN (".toList = "WHEN ".toList ++ ['('] := by decide
        rw [htext, String.toList_append, toList_trimmed, hcontent, hlead]
        simp only [List.append_assoc, List.cons_append, List.nil_append]
      by_cases henclosed : IsEnclosed (trim written.toList)
      · obtain ⟨inside, us, hinside, hus⟩ := henclosed
        obtain rfl : inside = content :=
          List.append_cancel_right (List.cons.inj (hinside.symm.trans hcontent)).2
        rw [hcontent] at hreads
        obtain ⟨ds, hds, hclauses⟩ := Reads.of_parenthesised hus hreads
        rw [← hiff hds (by rw [hclauses]; rfl)]
        constructor
        · rintro ⟨content', hcontent', hall⟩
          obtain rfl := hunique htoList hcontent'
          refine ⟨hall, fun s hs _ => ?_⟩
          rw [← hx.bare s hs]
          exact ⟨_, us, hinside, hus⟩
        · exact fun hall => ⟨_, htoList, hall.1⟩
      · refine iff_of_false ?_ ?_
        · rintro ⟨content', hcontent', f, g', hf, -⟩
          obtain rfl := hunique htoList hcontent'
          obtain ⟨cs, ⟨us, hus, -⟩, -⟩ := read?_eq_some_iff.1 hf
          exact henclosed ⟨_, us, hcontent, hus⟩
        · rintro ⟨-, hbare⟩
          cases hfree : c.bare? with
          | none => exact henclosed (hx.isEnclosed hfree hseems)
          | some s =>
            rw [hx.bare s hfree] at henclosed hseems
            exact henclosed (hbare s hfree hseems)
    next hseems =>
      have htoList : text.toList = "WHEN (".toList ++ trim written.toList ++ [')'] := by
        have hclose : ")".toList = [')'] := by decide
        rw [htext, String.toList_append, String.toList_append, toList_trimmed, hclose]
      rw [← hiff hreads rfl]
      constructor
      · rintro ⟨content', hcontent', hall⟩
        obtain rfl := hunique htoList hcontent'
        refine ⟨hall, fun s hs hseems' => ?_⟩
        rw [hx.bare s hs] at hseems
        exact absurd hseems' hseems
      · exact fun hall => ⟨_, htoList, hall.1⟩

end Trigger

/-- A text with parentheses in quoted names seems enclosed and is not. -/
example : isParenthesised "(OLD.\"a(\" = 1) OR (NEW.\"b)\" = 2)".toList ∧
    (trees? "OLD.\"a(\" = 1) OR (NEW.\"b)\" = 2".toList).isNone := by decide +kernel

/-! ## Free SQL with an `OR` -/

/-- Books that may be drafts. -/
def Entity.drafts : Entity :=
  { label := "library.Book", table := "book", fields := [{ name := "title" }, { name := "draft" }] }

/-- A trigger that forbids changes of the title on some condition. -/
def Trigger.freezing (condition : String) : Trigger where
  name := "title_frozen"
  level := .row
  moment := .before
  operation := .update
  condition := some (.raw condition)
  tables := none
  declare := []
  timing := none
  kind := .readOnly ["title"] []
  named := by decide
  sound := rfl

theorem isConjunct_of_length {s : String}
    (h : ((trees? s.toList).bind fun us => clauses? some (readings some us)).map List.length = some 1) :
    IsConjunct s := by
  obtain ⟨cs, hcs, hlength⟩ := Option.map_eq_some_iff.1 h
  obtain ⟨us, hus, hcs⟩ := Option.bind_eq_some_iff.1 hcs
  obtain ⟨clause, rfl⟩ := List.length_eq_one_iff.1 hlength
  exact ⟨clause, us, trees?_eq_some_iff.1 hus, hcs⟩

/-- With an `AND` of its own, the free text is an operand of the conjunction. -/
theorem Trigger.whenClause_says_iff_and :
    ∃ content, ("WHEN (OLD.\"draft\" AND NEW.\"draft\" AND " ++
        "OLD.\"title\" IS DISTINCT FROM NEW.\"title\")").toList = "WHEN (".toList ++ content ++ [')'] ∧
      ∃ f g, read? some content = some f ∧
        (Trigger.freezing "OLD.\"draft\" AND NEW.\"draft\"").declared? .drafts = some g ∧ Regroups f g := by
  have hclause : (Trigger.freezing "OLD.\"draft\" AND NEW.\"draft\"").whenClause .drafts =
      .ok ("WHEN (OLD.\"draft\" AND NEW.\"draft\" AND " ++ "OLD.\"title\" IS DISTINCT FROM NEW.\"title\")") := by
    decide +kernel
  have hreads : ∃ f, read? some "OLD.\"draft\" AND NEW.\"draft\"".toList = some f :=
    Option.isSome_iff_exists.1 (by decide +kernel)
  have hconjunct : IsConjunct "OLD.\"draft\" AND NEW.\"draft\"" := isConjunct_of_length (by decide +kernel)
  refine (whenClause_says_iff ?_ hclause (by decide)).2 ?_
  · rintro own hown s hs
    obtain rfl := Option.some.inj hown
    rw [Condition.parts, List.mem_singleton] at hs
    obtain rfl := Condition.raw.inj hs
    exact hreads
  · rintro c hc
    obtain rfl := Option.some.inj hc
    refine ⟨(Condition.forall_parts_group .and).2 ⟨fun _ c hc s hs => ?_, ?_⟩, fun _ h => by cases h⟩
    · rcases List.mem_cons.1 hc with rfl | hc
      · obtain rfl := Option.some.inj hs
        exact hconjunct
      · obtain rfl := List.mem_singleton.1 hc
        cases hs
    · simp [Condition.parts, Condition.KeepsApart]

/-- With an `OR` of its own it is not: the change of the title goes to the new row alone. -/
theorem Trigger.whenClause_splices_or :
    (read? some "OLD.\"draft\" OR NEW.\"draft\"".toList).isSome ∧
      ∃ text, (Trigger.freezing "OLD.\"draft\" OR NEW.\"draft\"").whenClause .drafts = .ok text ∧ text ≠ "" ∧
        ¬ ∃ content, text.toList = "WHEN (".toList ++ content ++ [')'] ∧
          ∃ f g, read? some content = some f ∧
            (Trigger.freezing "OLD.\"draft\" OR NEW.\"draft\"").declared? .drafts = some g ∧ Regroups f g := by
  refine ⟨by decide +kernel, "WHEN (OLD.\"draft\" OR NEW.\"draft\" AND " ++
    "OLD.\"title\" IS DISTINCT FROM NEW.\"title\")", by decide +kernel, by decide, ?_⟩
  rintro ⟨content, hcontent, f, g, hf, hg, hregroups⟩
  have hinside : ("WHEN (OLD.\"draft\" OR NEW.\"draft\" AND " ++
      "OLD.\"title\" IS DISTINCT FROM NEW.\"title\")").toList = "WHEN (".toList ++
        ("OLD.\"draft\" OR NEW.\"draft\" AND " ++
          "OLD.\"title\" IS DISTINCT FROM NEW.\"title\"").toList ++ [')'] := by decide
  obtain rfl := List.append_cancel_left (List.append_cancel_right (hinside.symm.trans hcontent))
  have hread : (read? some ("OLD.\"draft\" OR NEW.\"draft\" AND " ++
      "OLD.\"title\" IS DISTINCT FROM NEW.\"title\"").toList).map Formula.pairs = some 1 := by decide +kernel
  have hdeclared : ((Trigger.freezing "OLD.\"draft\" OR NEW.\"draft\"").declared? .drafts).map Formula.pairs =
      some 2 := by decide +kernel
  rw [hf] at hread
  rw [hg] at hdeclared
  have hpairs := hregroups.pairs
  rw [Option.some.inj hread, Option.some.inj hdeclared] at hpairs
  exact absurd hpairs (by decide)

end DeclaredTriggers
