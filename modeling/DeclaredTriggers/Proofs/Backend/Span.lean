import DeclaredTriggers.Proofs.Backend.Remembered
import Mathlib.Data.List.Infix
import Mathlib.Data.List.TakeWhile

/-!
# How long a setting lasts

A setting that is made in front of some statements lasts for those behind it until one of them undoes
it: the end of the transaction, a rollback to a savepoint that was taken before the setting, or another
setting. `span` counts the statements up to there, the savepoints taken since the setting being all
that it has to remember; nothing about the backend enters but how the names of savepoints are read.

> `Ran.executed_span`: where statements run behind a setting, as many of them as the span says are
> executed with it, and the others with what it hid, unless they set the variable themselves.

The invariant that carries this is `Kept`: the variable has its value, and so has it at every savepoint
taken since. Beneath that value and at the older savepoints is what comes back behind the span.
-/

namespace DeclaredTriggers

open Sql (Control)

/-- A variable holds `v`, and what that hides is as `P` says. -/
structure Held.Over (v : Content) (P : Content → Prop) (h : Held) : Prop where
  value : h.value = v
  lasting : P h.lasting

namespace Backend

/-! ## Counting -/

/-- The savepoints taken since a variable was set, the newest first, after one more statement; none if
that may undo the setting. -/
def since? (x : Variable) (nameOf : List Char → List Char) (names : List (List Char))
    (s : List Char) : Option (List (List Char)) :=
  match Control.ofStatement? s with
  | none => if (Effect.ofStatement s).writes x then none else some names
  | some .opens => some names
  | some .commit | some .rollback => none
  | some .savepoint => some (nameOf s :: names)
  | some .rollbackTo =>
    if nameOf s ∈ names then some (names.dropWhile (· ≠ nameOf s)) else none
  | some .release => some (names.dropWhile (· ≠ nameOf s)).tail

/-- How many statements find a variable as it was set in front of them. -/
def span (x : Variable) (nameOf : List Char → List Char) (names : List (List Char)) :
    List (List Char) → Nat
  | [] => 0
  | s :: rest =>
    match since? x nameOf names s with
    | some names => span x nameOf names rest + 1
    | none => 1

/-- The first of them finds it so. -/
theorem span_pos (x : Variable) (nameOf : List Char → List Char) (names : List (List Char))
    (s : List Char) (rest : List (List Char)) : 0 < span x nameOf names (s :: rest) := by
  unfold span
  split <;> omega

/-- So no single statement is beyond the span. -/
theorem length_le_span (x : Variable) (nameOf : List Char → List Char) (names : List (List Char))
    {ss : List (List Char)} (h : ss.length ≤ 1) : ss.length ≤ span x nameOf names ss := by
  cases ss with
  | nil => exact Nat.zero_le _
  | cons s rest => exact h.trans (span_pos x nameOf names s rest)

/-- Statements that control nothing and do not set the variable all find it so. -/
theorem span_of_ordinary {x : Variable} {ss : List (List Char)}
    (hss : ∀ s ∈ ss, Control.ofStatement? s = none ∧ (Effect.ofStatement s).writes x = false)
    (nameOf : List Char → List Char) (names : List (List Char)) :
    span x nameOf names ss = ss.length := by
  induction ss with
  | nil => rfl
  | cons s rest ih =>
    obtain ⟨hs, hx⟩ := hss s List.mem_cons_self
    have hsince : since? x nameOf names s = some names := by
      unfold since?
      rw [hs, hx]
      rfl
    unfold span
    rw [hsince]
    exact congrArg (· + 1) (ih fun t ht => hss t (List.mem_cons_of_mem _ ht))

/-! ## What is kept -/

/-- A variable has its value, and has it at every savepoint taken since. What that hides, and all else
that the variable can come back to, is as `P` says. -/
structure Kept (x : Variable) (v : Content) (P : Content → Prop) (names : List (List Char))
    (b : Backend) : Prop where
  held : (b.holdings x).Over v P
  outside : P (b.outside x)
  savepoints : ∃ taken before, b.savepoints = taken ++ before ∧ taken.map (·.1) = names ∧
    (∀ p ∈ taken, (p.2 x).Over v P) ∧ ∀ p ∈ before, (p.2 x).All P

/-- The newest savepoint of a name that was taken since. -/
theorem exists_of_name_mem {name : List Char} {taken : List (List Char × Holdings)}
    (h : name ∈ taken.map (·.1)) :
    ∃ newer q rest, taken = newer ++ q :: rest ∧ q.1 = name ∧ ∀ r ∈ newer, r.1 ≠ name := by
  induction taken with
  | nil => cases h
  | cons p ps ih =>
    by_cases hp : p.1 = name
    · exact ⟨[], p, ps, rfl, hp, by simp⟩
    · have hps : name ∈ ps.map (·.1) := (List.mem_cons.1 h).resolve_left fun heq => hp heq.symm
      obtain ⟨newer, q, rest, rfl, hq, hnewer⟩ := ih hps
      exact ⟨p :: newer, q, rest, rfl, hq, List.forall_mem_cons.2 ⟨hp, hnewer⟩⟩

/-- There is only one newest savepoint of a name. -/
theorem dropWhile_of_split {name : List Char} {p : List Char × Holdings}
    {newer older : List (List Char × Holdings)} (hname : p.1 = name)
    (hnewer : ∀ q ∈ newer, q.1 ≠ name) :
    (newer ++ p :: older).dropWhile (·.1 ≠ name) = p :: older := by
  rw [List.dropWhile_append_of_pos (by simpa using hnewer),
    List.dropWhile_cons_of_neg (by simp [hname])]

theorem dropWhile_names {name : List Char} {q : List Char × Holdings}
    {newer rest : List (List Char × Holdings)} (hname : q.1 = name)
    (hnewer : ∀ r ∈ newer, r.1 ≠ name) :
    ((newer ++ q :: rest).map (·.1)).dropWhile (· ≠ name) = name :: rest.map (·.1) := by
  have h := congrArg (List.map (·.1)) (@dropWhile_of_split _ _ _ rest hname hnewer)
  rw [List.map_cons, hname] at h
  rw [List.dropWhile_map, ← h]
  rfl

/-- A savepoint of a name that was not taken since is an older one, and so are those before it. -/
theorem mem_before_of_not_mem {name : List Char} {p : List Char × Holdings}
    {newer older taken before : List (List Char × Holdings)}
    (hsplit : newer ++ p :: older = taken ++ before) (hname : p.1 = name)
    (hnewer : ∀ q ∈ newer, q.1 ≠ name) (hmem : name ∉ taken.map (·.1)) :
    ∀ r ∈ p :: older, r ∈ before := by
  have hnone : ∀ q ∈ taken, decide (q.1 ≠ name) = true := fun q hq =>
    decide_eq_true fun heq => hmem (heq ▸ List.mem_map_of_mem hq)
  have hfrom : p :: older = before.dropWhile (·.1 ≠ name) := by
    rw [← dropWhile_of_split hname hnewer, hsplit, List.dropWhile_append_of_pos hnone]
  rw [hfrom]
  exact fun r hr => (List.dropWhile_suffix _).subset hr

/-- A statement that does not undo a setting keeps it. -/
theorem Kept.accepted {x : Variable} {v : Content} {P : Content → Prop}
    {names names' : List (List Char)} {b after : Backend} {s : List Char} (h : Kept x v P names b)
    (hsince : since? x b.conduct.savepointName names s = some names')
    (hafter : b.accepted? s = some after) : Kept x v P names' (logged b s after).ticked := by
  obtain ⟨hheld, hout, taken, before, hsplit, rfl, htaken, hbefore⟩ := h
  unfold since? at hsince
  cases hc : Control.ofStatement? s with
  | none =>
    rw [hc] at hsince
    simp only at hsince
    split at hsince
    next => cases hsince
    next hwrites =>
      cases hsince
      have hsame := holdings_of_ordinary hc hafter x
      rw [Effect.on_of_not_writes (by simpa using hwrites)] at hsame
      have hafter := (accepted?_of_ordinary hc hafter).2
      refine ⟨?_, ?_, taken, before, ?_, rfl, htaken, hbefore⟩
      · show (after.holdings x).Over v P
        rw [hsame]
        exact hheld
      · show P (after.outside x)
        rw [hafter]
        exact hout
      · show after.savepoints = _
        rw [hafter]
        exact hsplit
  | some c =>
    rw [hc] at hsince
    generalize hname : b.conduct.savepointName s = name at hsince
    have hcontrolled := controlled_of_accepted? hc hafter
    rw [hname] at hcontrolled
    cases hcontrolled with
    | opens =>
      cases hsince
      exact ⟨hheld, hout, taken, before, hsplit, rfl, htaken, hbefore⟩
    | commit | commitFailed | rollback => cases hsince
    | savepoint =>
      cases hsince
      refine ⟨hheld, hout, (name, b.holdings) :: taken, before, ?_, rfl, ?_, hbefore⟩
      · exact congrArg ((name, b.holdings) :: ·) hsplit
      · exact List.forall_mem_cons.2 ⟨hheld, htaken⟩
    | @rollbackTo p newer older hphase hsp hp hnewer =>
      simp only at hsince
      split at hsince
      next hmem =>
        cases hsince
        -- the savepoint is one of those taken since
        obtain ⟨newer', q, rest, rfl, hq, hnewer'⟩ := exists_of_name_mem hmem
        have hfrom : p :: older = q :: (rest ++ before) := by
          rw [← dropWhile_of_split hp hnewer, ← hsp, hsplit, List.append_assoc, List.cons_append,
            dropWhile_of_split hq hnewer']
        cases hfrom
        have hback : ∀ r ∈ p :: rest, (r.2 x).Over v P :=
          fun r hr => htaken r (List.mem_append_right _ hr)
        refine ⟨hback p List.mem_cons_self, hout, p :: rest, before, rfl, ?_, hback, hbefore⟩
        rw [dropWhile_names hq hnewer', ← hq]
        rfl
      next => cases hsince
    | @release p newer older hphase hsp hp hnewer =>
      cases hsince
      by_cases hmem : name ∈ taken.map (·.1)
      · obtain ⟨newer', q, rest, rfl, hq, hnewer'⟩ := exists_of_name_mem hmem
        have hfrom : p :: older = q :: (rest ++ before) := by
          rw [← dropWhile_of_split hp hnewer, ← hsp, hsplit, List.append_assoc, List.cons_append,
            dropWhile_of_split hq hnewer']
        refine ⟨hheld, hout, rest, before, (List.cons.inj hfrom).2, ?_, fun r hr => ?_, hbefore⟩
        · rw [dropWhile_names hq hnewer']
          rfl
        · exact htaken r (List.mem_append_right _ (List.mem_cons_of_mem _ hr))
      · -- it was taken before the setting, and all taken since go with it
        have hnone : (taken.map (·.1)).dropWhile (· ≠ name) = [] := by
          refine List.dropWhile_eq_nil_iff.2 fun n hn => ?_
          simpa using fun heq : n = name => hmem (heq ▸ hn)
        have holder := mem_before_of_not_mem (hsp.symm.trans hsplit) hp hnewer hmem
        rw [hnone]
        exact ⟨hheld, hout, [], older, rfl, rfl, by simp, fun r hr =>
          hbefore r (holder r (List.mem_cons_of_mem _ hr))⟩

/-- One that undoes it, and does not set the variable, leaves what it hid. -/
theorem Kept.undone {x : Variable} {v : Content} {P : Content → Prop} {names : List (List Char)}
    {b after : Backend} {s : List Char} (h : Kept x v P names b)
    (hsince : since? x b.conduct.savepointName names s = none)
    (hs : (Effect.ofStatement s).writes x = false) (hafter : b.accepted? s = some after) :
    (after.ledger x).All P := by
  obtain ⟨hheld, hout, taken, before, hsplit, rfl, -, hbefore⟩ := h
  unfold since? at hsince
  cases hc : Control.ofStatement? s with
  | none =>
    rw [hc, hs] at hsince
    cases hsince
  | some c =>
    rw [hc] at hsince
    generalize hname : b.conduct.savepointName s = name at hsince
    have hcontrolled := controlled_of_accepted? hc hafter
    rw [hname] at hcontrolled
    cases hcontrolled with
    | opens | savepoint | release => cases hsince
    | commit => exact ⟨hheld.lasting, .alone hheld.lasting, fun _ hm => (nomatch hm)⟩
    | commitFailed | rollback => exact ⟨hout, .alone hout, fun _ hm => (nomatch hm)⟩
    | @rollbackTo p newer older hphase hsp hp hnewer =>
      simp only at hsince
      split at hsince
      next => cases hsince
      next hmem =>
        -- the savepoint is older than the setting, and so are those that it leaves
        have holder := mem_before_of_not_mem (hsp.symm.trans hsplit) hp hnewer hmem
        have hleft : ∀ r ∈ p :: older, (r.2 x).All P := fun r hr => hbefore r (holder r hr)
        refine ⟨hout, hleft p List.mem_cons_self, fun m hm => ?_⟩
        obtain ⟨r, hr, rfl⟩ := List.mem_map.1 hm
        exact hleft r hr

/-! ## What is executed -/

/-- Where statements run behind a setting, as many of them as the span says are executed with it. If
none of them sets the variable, the others are executed with what it hid. -/
theorem Ran.executed_span {x : Variable} {v : Content} {P : Content → Prop}
    {names : List (List Char)} {b b' : Backend} {ss : List (List Char)} {ok : Bool}
    (h : Ran b ss ok b') (hkept : Kept x v P names b) :
    ∃ ran : List Execution, b'.executed = b.executed ++ ran ∧
      ran.map Execution.statement <+: ss ∧ (ok → ran.map Execution.statement = ss) ∧
      (∀ e ∈ ran.take (span x b.conduct.savepointName names ss), e.values x = v) ∧
      ((∀ s ∈ ss, (Effect.ofStatement s).writes x = false) →
        ∀ e ∈ ran.drop (span x b.conduct.savepointName names ss), P (e.values x)) := by
  induction h generalizing names with
  | done b => exact ⟨[], by simp⟩
  | @went b after b' s rest ok hafter hrest ih =>
    have hrest' : ∃ ran : List Execution,
        b'.executed = (logged b s after).ticked.executed ++ ran ∧
          ran.map Execution.statement <+: rest ∧ (ok → ran.map Execution.statement = rest) ∧
          (∀ e ∈ ran.take (span x b.conduct.savepointName names (s :: rest) - 1),
            e.values x = v) ∧
          ((∀ t ∈ s :: rest, (Effect.ofStatement t).writes x = false) →
            ∀ e ∈ ran.drop (span x b.conduct.savepointName names (s :: rest) - 1),
              P (e.values x)) := by
      unfold span
      cases hsince : since? x b.conduct.savepointName names s with
      | some names' =>
        have hconduct : after.conduct = b.conduct := conduct_of_accepted? hafter
        obtain ⟨ran, hexec, hpre, hall, hvalues, hleft⟩ := ih (hkept.accepted hsince hafter)
        rw [ticked_conduct, logged_conduct, hconduct] at hvalues hleft
        exact ⟨ran, hexec, hpre, hall, hvalues, fun hss =>
          hleft fun t ht => hss t (List.mem_cons_of_mem _ ht)⟩
      | none =>
        -- from there on the variable only comes back to what was hidden
        obtain ⟨ran, hexec, hpre, hall, hmid⟩ := hrest.executed
          (I := fun b => (∀ t ∈ s :: rest, (Effect.ofStatement t).writes x = false) →
            (b.ledger x).All P)
          (fun hss => by
            rw [ticked_ledger, logged_ledger]
            exact hkept.undone hsince (hss s List.mem_cons_self) hafter)
          fun t ht mid next hmid hnext hss => by
            rw [ticked_ledger, logged_ledger]
            have hsilent := hss t (List.mem_cons_of_mem _ ht)
            exact all_of_accepted? (hmid hss) (Effect.leaves_of_not_writes hsilent) hnext
        refine ⟨ran, hexec, hpre, hall, by simp, fun hss e he => ?_⟩
        obtain ⟨mid, hmid, hvalue⟩ := hmid e (List.mem_of_mem_drop he)
        rw [hvalue]
        exact (hmid hss).held.value
    obtain ⟨ran, hexec, hpre, hall, hvalues, hleft⟩ := hrest'
    have hpos := span_pos x b.conduct.savepointName names s rest
    refine ⟨⟨s, b.value⟩ :: ran, ?_, ?_, ?_, ?_, ?_⟩
    · rw [hexec, logged_executed hafter, List.append_assoc, List.singleton_append]
    · exact (List.prefix_cons_inj s).2 hpre
    · intro hok
      rw [List.map_cons, hall hok]
    · intro e he
      rw [← Nat.sub_add_cancel hpos, List.take_succ_cons] at he
      rcases List.mem_cons.1 he with rfl | he
      · exact hkept.held.value
      · exact hvalues e he
    · intro hss e he
      rw [← Nat.sub_add_cancel hpos, List.drop_succ_cons] at he
      exact hleft hss e he
  | stopped b s rest => exact ⟨[], by simp [failedAt_executed]⟩

/-- `Executes x v b b' ok front back n`: between `b` and `b'` the statements `front ++ back` were executed,
all of them if `ok` and else those before some failure, and the first `n` of `back` found the variable
at `v`. -/
def Executes (x : Variable) (v : Content) (b b' : Backend) (ok : Bool)
    (front back : List (List Char)) (n : Nat) : Prop :=
  ∃ ran : List Execution, b'.executed = b.executed ++ ran ∧
    ran.map Execution.statement <+: front ++ back ∧
    (ok → ran.map Execution.statement = front ++ back) ∧
    ∀ e ∈ (ran.drop front.length).take n, e.values x = v

/-- A variable that was just set. -/
theorem kept_of_value {b : Backend} {x : Variable} {v : Content} {P : Content → Prop}
    (h : b.value x = v) (hlasting : P (b.holdings x).lasting) (hout : P (b.outside x))
    (hmarks : ∀ m ∈ (b.ledger x).marks, m.All P) : Kept x v P [] b :=
  ⟨⟨h, hlasting⟩, hout, [], b.savepoints, rfl, rfl, by simp,
    fun _ hp => hmarks _ (List.mem_map_of_mem hp)⟩

section

variable {x : Variable} {v : Content} {b b' : Backend} {ok : Bool} {front back : List (List Char)}

/-- What was executed behind the front. -/
theorem Executes.behind {n : Nat} (h : Executes x v b b' ok front back n) :
    ((b'.executed.drop (b.executed.length + front.length)).map Execution.statement <+: back) ∧
      (ok → (b'.executed.drop (b.executed.length + front.length)).map Execution.statement = back) ∧
      ∀ e ∈ (b'.executed.drop (b.executed.length + front.length)).take n, e.values x = v := by
  obtain ⟨ran, hexec, hpre, hall, hvalues⟩ := h
  have hdrop : b'.executed.drop (b.executed.length + front.length) = ran.drop front.length := by
    rw [hexec, ← List.drop_drop, List.drop_left]
  rw [hdrop, List.map_drop]
  refine ⟨?_, fun hok => ?_, hvalues⟩
  · have := hpre.drop front.length
    rwa [List.drop_left] at this
  · rw [hall hok, List.drop_left]

/-- What was stopped in front shows nothing of what is behind. -/
theorem executes_of_stopped (h : ∃ ran : List Execution, b'.executed = b.executed ++ ran ∧
    ran.map Execution.statement <+: front) (n : Nat) : Executes x v b b' false front back n := by
  obtain ⟨ran, hexec, hpre⟩ := h
  refine ⟨ran, hexec, hpre.trans (List.prefix_append _ _), fun hok => (nomatch hok), ?_⟩
  rw [List.drop_of_length_le (Execution.length_le hpre)]
  simp

/-- What was done in front is followed by what is behind. -/
theorem executes_of_done {mid : Backend} {n : Nat} (hfront : ∃ own : List Execution,
      mid.executed = b.executed ++ own ∧ own.map Execution.statement = front)
    (hback : Executes x v mid b' ok [] back n) : Executes x v b b' ok front back n := by
  obtain ⟨own, hown, rfl⟩ := hfront
  obtain ⟨ran, hran, hpre, hall, hvalues⟩ := hback
  refine ⟨own ++ ran, ?_, ?_, fun hok => ?_, ?_⟩
  · rw [hran, hown, List.append_assoc]
  · rw [List.map_append]
    exact (List.prefix_append_right_inj _).2 hpre
  · rw [List.map_append, hall hok, List.nil_append]
  · rw [List.length_map, List.drop_left]
    exact hvalues

theorem Ran.executes (h : Ran b (front ++ back) ok b')
    (hfront : ∀ mid, Ran b front true mid → mid.value x = v) :
    Executes x v b b' ok front back (span x b.conduct.savepointName [] back) := by
  rcases h.split with ⟨rfl, hstopped⟩ | ⟨mid, hmid, hback⟩
  · obtain ⟨ran, hexec, hpre, -⟩ := hstopped.executed (I := fun _ => True) trivial
      fun _ _ _ _ _ _ => trivial
    exact executes_of_stopped ⟨ran, hexec, hpre⟩ _
  · obtain ⟨own, hown, -, hall, -⟩ := hmid.executed (I := fun _ => True) trivial
      fun _ _ _ _ _ _ => trivial
    refine executes_of_done ⟨own, hown, hall rfl⟩ ?_
    rw [← hmid.conduct_eq]
    obtain ⟨ran, hexec, hpre, hall', hvalues, -⟩ := hback.executed_span (P := fun _ => True)
      (kept_of_value (hfront mid hmid) trivial trivial fun _ _ => ⟨trivial, fun _ _ => trivial⟩)
    exact ⟨ran, hexec, hpre, hall', hvalues⟩

/-- What a request executes is what a run executes. -/
theorem exists_ran_serve (b : Backend) (ss : List (List Char)) :
    ∃ after, Ran b ss (b.serve ss).1.isDone after ∧ (b.serve ss).2.executed = after.executed := by
  obtain ⟨after, hran, hafter⟩ := b.ran_serve ss
  refine ⟨after, hran, ?_⟩
  rw [hafter]
  split
  next =>
    unfold rested
    split <;> rfl
  next => rfl

theorem serve_executes {ss : List (List Char)} (hss : ss = front ++ back)
    (hfront : ∀ mid, Ran b front true mid → mid.value x = v) :
    Executes x v b (b.serve ss).2 (b.serve ss).1.isDone front back
      (span x b.conduct.savepointName [] back) := by
  obtain ⟨after, hran, hexecuted⟩ := b.exists_ran_serve ss
  rw [hss] at hran hexecuted ⊢
  unfold Executes
  rw [hexecuted]
  exact hran.executes hfront

/-- Behind the span of a setting that is made in front, a request executes with what that hid. -/
theorem serve_behind_span {P : Content → Prop} {ss : List (List Char)} (hss : ss = front ++ back)
    (hfront : ∀ mid, Ran b front true mid → Kept x v P [] mid)
    (hback : ∀ s ∈ back, (Effect.ofStatement s).writes x = false) :
    ∀ e ∈ ((b.serve ss).2.executed.drop (b.executed.length + front.length)).drop
      (span x b.conduct.savepointName [] back), P (e.values x) := by
  obtain ⟨after, hran, hexecuted⟩ := b.exists_ran_serve ss
  rw [hss] at hran hexecuted ⊢
  rw [hexecuted]
  rcases hran.split with ⟨-, hstopped⟩ | ⟨mid, hmid, hrest⟩
  · -- what was stopped in front has executed no more than that
    obtain ⟨ran, hexec, hpre, -⟩ := hstopped.executed (I := fun _ => True) trivial
      fun _ _ _ _ _ _ => trivial
    rw [hexec, ← List.drop_drop, List.drop_left, List.drop_of_length_le (Execution.length_le hpre)]
    simp
  · obtain ⟨own, hown, -, hall, -⟩ := hmid.executed (I := fun _ => True) trivial
      fun _ _ _ _ _ _ => trivial
    obtain ⟨ran, hexec, -, -, -, hleft⟩ := hrest.executed_span (hfront mid hmid)
    have hlength : own.length = front.length := by
      rw [← hall rfl, List.length_map]
    rw [hexec, hown, List.append_assoc, ← List.drop_drop, List.drop_left, ← hlength,
      List.drop_left, ← hmid.conduct_eq]
    exact hleft hback

end

end Backend

end DeclaredTriggers
