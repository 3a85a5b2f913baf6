import DeclaredTriggers.Connection.Script
import DeclaredTriggers.Proofs.Session.Link

/-!
# Hooks in a row

A composite hook runs its hooks in a row, but says only what their words come to: how the context at the end
differs from the one at the beginning. That nothing is lost on the way is a matter of the kind of the
statement, which is no part of that word. It is read off the canonical statement again wherever a word is
applied, so two contexts between which hooks lead differ in nothing but the two texts (`applied_wordFor`).

> `nest_eq_row`: hooks composed in any way see the same contexts in the same order as in one row and come to
> the same, for the client that uses them too; what they refuse is not sent and leaves the client as it was.

The step is one hook in front of others (`row_cons`), the run is by induction on how the hooks are composed
(`applied_toHook`).
-/

namespace DeclaredTriggers.Hook

variable {c d : Context} {h : Hook} {hs : List Hook}

/-! ## Contexts -/

namespace Context

/-- Whether the kind is that of the canonical statement. -/
def Typed (c : Context) : Prop := c.kind = kindOf c.canonical

/-- A context that hooks make of another: they can change its texts only. -/
structure Leads (c d : Context) : Prop where
  typed : d.Typed
  params : d.params = c.params
  tag : d.tag = c.tag
  fields : d.fields = c.fields

theorem Typed.leads (h : c.Typed) : c.Leads c := ⟨h, rfl, rfl, rfl⟩

theorem Leads.trans {e : Context} (h : c.Leads d) (h' : d.Leads e) : c.Leads e :=
  ⟨h'.typed, h'.params.trans h.params, h'.tag.trans h.tag, h'.fields.trans h.fields⟩

theorem Typed.applied {action : Action} (h : c.Typed) (happlied : c.applied action = .ok d) :
    c.Leads d := by
  unfold Context.applied at happlied
  cases action with
  | proceed =>
    obtain rfl := Except.ok.inj happlied
    exact h.leads
  | modify exec canonical =>
    obtain rfl := Except.ok.inj happlied
    exact ⟨rfl, rfl, rfl, rfl⟩
  | abort reason => cases happlied

/-- A context that hooks make of another is known by its texts. -/
theorem Leads.ext {d' : Context} (h : c.Leads d) (h' : c.Leads d') (hexec : d.exec = d'.exec)
    (hcanonical : d.canonical = d'.canonical) : d = d' := by
  have hkind : d.kind = d'.kind := by rw [h.typed, h'.typed, hcanonical]
  have hparams := h.params.trans h'.params.symm
  have htag := h.tag.trans h'.tag.symm
  have hfields := h.fields.trans h'.fields.symm
  cases d
  cases d'
  cases hexec
  cases hcanonical
  cases hkind
  cases hparams
  cases htag
  cases hfields
  rfl

/-- The word that takes a context to another does so. -/
theorem Leads.applied_wordFor (hc : c.Typed) (h : c.Leads d) : c.applied (wordFor c d) = .ok d := by
  unfold wordFor
  by_cases hexec : d.exec = c.exec
  · by_cases hcanonical : d.canonical = c.canonical
    · -- what hooks change and change back is not changed
      rw [if_neg (by simp [hexec, hcanonical])]
      exact congrArg Except.ok (hc.leads.ext h hexec.symm hcanonical.symm)
    · rw [if_pos (by simp [hcanonical]), if_pos hcanonical]
      exact congrArg Except.ok (Leads.ext (c := c) ⟨rfl, rfl, rfl, rfl⟩ h rfl rfl)
  · rw [if_pos (by simp [hexec])]
    by_cases hcanonical : d.canonical = c.canonical
    · rw [if_neg (not_not_intro hcanonical)]
      exact congrArg Except.ok (Leads.ext (c := c) ⟨rfl, rfl, rfl, rfl⟩ h rfl hcanonical.symm)
    · rw [if_pos hcanonical]
      exact congrArg Except.ok (Leads.ext (c := c) ⟨rfl, rfl, rfl, rfl⟩ h rfl rfl)

end Context

/-! ## Hooks in a row -/

/-- What hooks in a row leave of a statement, each word applied before the next hook is asked. -/
def row : List Hook → Context → Except String Context
  | [], c => pure c
  | h :: hs, c => c.applied (h.before c).1 >>= row hs

/-- The hooks of a row that are asked, each with what it is shown. -/
def shown : List Hook → Context → List (Hook × Context)
  | [], _ => []
  | h :: hs, c =>
    (h, c) :: match c.applied (h.before c).1 with
      | .ok d => shown hs d
      | .error _ => []

/-- The events that hooks leave when they are shown contexts. -/
def eventsOf (asked : List (Hook × Context)) : List Event := asked.flatMap fun (h, c) => (h.before c).2

theorem row_cons (h : Hook) (hs : List Hook) (c : Context) :
    row (h :: hs) c = c.applied (h.before c).1 >>= row hs := rfl

theorem shown_cons (h : Hook) (hs : List Hook) (c : Context) :
    shown (h :: hs) c = (h, c) :: match c.applied (h.before c).1 with
      | .ok d => shown hs d
      | .error _ => [] := rfl

theorem row_append (hs hs' : List Hook) (c : Context) : row (hs ++ hs') c = row hs c >>= row hs' := by
  induction hs generalizing c with
  | nil => rfl
  | cons h hs ih =>
    rw [List.cons_append, row_cons, row_cons]
    cases c.applied (h.before c).1 with
    | error reason => rfl
    | ok d => exact ih d

theorem shown_append (hs hs' : List Hook) (c : Context) :
    shown (hs ++ hs') c = shown hs c ++ match row hs c with
      | .ok d => shown hs' d
      | .error _ => [] := by
  induction hs generalizing c with
  | nil => rfl
  | cons h hs ih =>
    rw [List.cons_append, row_cons, shown_cons, shown_cons]
    cases c.applied (h.before c).1 with
    | error reason => rfl
    | ok d => exact congrArg ((h, c) :: ·) (ih d)

/-- What hooks in a row leave is what their words lead to. -/
theorem leads_of_row (hc : c.Typed) (h : row hs c = .ok d) : c.Leads d := by
  induction hs generalizing c with
  | nil =>
    obtain rfl := Except.ok.inj h
    exact hc.leads
  | cons first hs ih =>
    obtain ⟨c', hfirst, hrest⟩ := exists_ok_of_bind h
    have hlead := hc.applied hfirst
    exact hlead.trans (ih hlead.typed hrest)

theorem applyAll_eq (hs : List Hook) (c : Context) : applyAll hs c = (row hs c, eventsOf (shown hs c)) := by
  induction hs generalizing c with
  | nil => rfl
  | cons h hs ih =>
    unfold applyAll
    rw [row_cons, shown_cons]
    dsimp only
    cases c.applied (h.before c).1 with
    | error reason => exact congrArg (Prod.mk _) (List.append_nil _).symm
    | ok d =>
      dsimp only
      rw [ih d]
      rfl

/-- A composite hook comes to what its hooks come to in a row, and leaves the events they leave. -/
theorem applied_composite (hs : List Hook) (hc : c.Typed) :
    c.applied ((composite hs).before c).1 = row hs c ∧
      ((composite hs).before c).2 = eventsOf (shown hs c) := by
  unfold composite
  dsimp only
  rw [applyAll_eq]
  cases hrow : row hs c with
  | error reason => exact ⟨rfl, rfl⟩
  | ok d => exact ⟨(leads_of_row hc hrow).applied_wordFor hc, rfl⟩

/-! ## Hooks composed in any way -/

/-- Hooks and how they are composed. -/
inductive Nest where
  | hook (h : Hook)
  | composite (ns : List Nest)

mutual

/-- A nest as one hook. -/
def Nest.toHook : Nest → Hook
  | .hook h => h
  | .composite ns => Hook.composite (Nest.toHooks ns)

def Nest.toHooks : List Nest → List Hook
  | [] => []
  | n :: ns => n.toHook :: Nest.toHooks ns

end

mutual

/-- The hooks of a nest, one after another. -/
def Nest.leaves : Nest → List Hook
  | .hook h => [h]
  | .composite ns => Nest.allLeaves ns

def Nest.allLeaves : List Nest → List Hook
  | [] => []
  | n :: ns => n.leaves ++ Nest.allLeaves ns

end

mutual

/-- The hooks that a nest asks about a context, each with what it is shown. Where a nest has others in it, the
next sees what the word of the one before makes of the context. -/
def Nest.asked : Nest → Context → List (Hook × Context)
  | .hook h, c => [(h, c)]
  | .composite ns, c => Nest.allAsked ns c

def Nest.allAsked : List Nest → Context → List (Hook × Context)
  | [], _ => []
  | n :: ns, c =>
    n.asked c ++ match c.applied (n.toHook.before c).1 with
      | .ok d => Nest.allAsked ns d
      | .error _ => []

end

/-- A nest and one more hook behind it. -/
def Nest.append (n : Nest) (h : Hook) : Nest := .composite [n, .hook h]

theorem Nest.leaves_append (n : Nest) (h : Hook) : (n.append h).leaves = n.leaves ++ [h] := rfl

/-- Hooks that are added one after another make a nest. -/
theorem Nest.foldl_append (hs : List Hook) (n : Nest) :
    (hs.foldl Nest.append n).toHook = hs.foldl (fun g h => Hook.append (some g) h) n.toHook ∧
      (hs.foldl Nest.append n).leaves = n.leaves ++ hs := by
  induction hs generalizing n with
  | nil => exact ⟨rfl, (List.append_nil _).symm⟩
  | cons h hs ih =>
    obtain ⟨hhook, hleaves⟩ := ih (n.append h)
    refine ⟨hhook, hleaves.trans ?_⟩
    rw [Nest.leaves_append, List.append_assoc, List.singleton_append]

theorem eventsOf_cons (h : Hook) (c : Context) (asked : List (Hook × Context)) :
    eventsOf ((h, c) :: asked) = (h.before c).2 ++ eventsOf asked := rfl

theorem eventsOf_append (asked asked' : List (Hook × Context)) :
    eventsOf (asked ++ asked') = eventsOf asked ++ eventsOf asked' := List.flatMap_append

theorem row_singleton (h : Hook) (c : Context) : row [h] c = c.applied (h.before c).1 := by
  rw [row_cons]
  cases c.applied (h.before c).1 with
  | error reason => rfl
  | ok d => rfl

theorem shown_singleton (h : Hook) (c : Context) : shown [h] c = [(h, c)] := by
  rw [shown_cons]
  cases c.applied (h.before c).1 with
  | error reason => rfl
  | ok d => rfl

mutual

/-- A nest comes to what its hooks come to in a row, and shows them what they are shown there. -/
theorem Nest.applied_toHook : ∀ (n : Nest) {c : Context}, c.Typed →
    c.applied (n.toHook.before c).1 = row n.leaves c ∧ (n.toHook.before c).2 = eventsOf (n.asked c) ∧
      n.asked c = shown n.leaves c
  | .hook h, c, _ => ⟨(row_singleton h c).symm, (List.append_nil _).symm, (shown_singleton h c).symm⟩
  | .composite ns, c, hc => by
    obtain ⟨hword, hevents⟩ := applied_composite (Nest.toHooks ns) hc
    obtain ⟨hrow, hasked, hshown⟩ := Nest.row_toHooks ns hc
    exact ⟨hword.trans hrow, hevents.trans hasked, hshown⟩

theorem Nest.row_toHooks : ∀ (ns : List Nest) {c : Context}, c.Typed →
    row (Nest.toHooks ns) c = row (Nest.allLeaves ns) c ∧
      eventsOf (shown (Nest.toHooks ns) c) = eventsOf (Nest.allAsked ns c) ∧
        Nest.allAsked ns c = shown (Nest.allLeaves ns) c
  | [], _, _ => ⟨rfl, rfl, rfl⟩
  | n :: ns, c, hc => by
    obtain ⟨hword, hevents, hasked⟩ := Nest.applied_toHook n hc
    unfold Nest.toHooks Nest.allLeaves Nest.allAsked
    rw [row_append, shown_append, row_cons, shown_cons, eventsOf_cons, eventsOf_append, hword, hevents, hasked]
    cases hrow : row n.leaves c with
    | error reason => exact ⟨rfl, rfl, rfl⟩
    | ok d =>
      -- the hooks behind see what this nest leaves, whose kind is right again
      obtain ⟨hrest, hevents, hshown⟩ := Nest.row_toHooks ns (leads_of_row hc hrow).typed
      exact ⟨hrest, congrArg (eventsOf (shown n.leaves c) ++ ·) hevents,
        congrArg (shown n.leaves c ++ ·) hshown⟩

end

end DeclaredTriggers.Hook

/-! ## Clients with hooks -/

/-- A client shows its hooks a context of the right kind. -/
theorem DeclaredTriggers.Client.typed_contextOf {σ : Type} (c : Client σ) (sql : String) (params : Nat) :
    (c.contextOf sql params).Typed := rfl

namespace DeclaredTriggers.Hook

open Act (result)

/-- Composition of hooks is associative. However hooks are composed, as one they come to what they come to one
after another, each shown the same context in the same turn, and so does the composite of the flat list; the
hooks that a client is given one after another are composed in one such way. A client goes on with what its
hooks come to. If that is a reason, then it fails with it, has sent nothing and is as it was but for the events
that the hooks left. -/
theorem nest_eq_row (n : Nest) :
    (∀ c : Context, c.Typed →
      (c.applied (n.toHook.before c).1 = row n.leaves c ∧
        (n.toHook.before c).2 = eventsOf (n.asked c) ∧ n.asked c = shown n.leaves c) ∧
      c.applied ((composite n.leaves).before c).1 = row n.leaves c ∧
        ((composite n.leaves).before c).2 = eventsOf (shown n.leaves c)) ∧
    (∀ hs : List Hook, (hs.foldl Nest.append n).toHook =
        hs.foldl (fun g h => Hook.append (some g) h) n.toHook ∧
      (hs.foldl Nest.append n).leaves = n.leaves ++ hs) ∧
    ∀ (σ : Type) [Server σ] (c : Client σ), c.hook = some n.toHook → ∀ (sql : String) (params : List String),
      let context := c.contextOf sql params.length
      let c' := c.noting (eventsOf (shown n.leaves context))
      (∀ d, row n.leaves context = .ok d → result (Client.inspect sql params.length) c = (.ok d, c')) ∧
      ∀ reason, row n.leaves context = .error reason →
        let refusal := Error.usage (.abortedByHook reason)
        result (Client.query sql params) c = (.error refusal, c') ∧
          result (Client.execute sql params) c = (.error refusal, c') ∧
          (params = [] → result (Client.batch sql) c = (.error refusal, c')) := by
  refine ⟨fun c hc => ⟨n.applied_toHook hc, applied_composite n.leaves hc⟩,
    fun hs => n.foldl_append hs, ?_⟩
  intro σ _ c hhook sql params context c'
  obtain ⟨hword, hevents, hasked⟩ := n.applied_toHook (c.typed_contextOf sql params.length)
  have hinspect := Client.inspect_of_hook hhook sql params.length
  rw [hword, hevents, hasked] at hinspect
  refine ⟨fun d hrow => ?_, fun reason hrow => ?_⟩
  · rw [hrow] at hinspect
    exact hinspect
  · rw [hrow] at hinspect
    refine ⟨Act.result_bind_error hinspect _, Act.result_bind_error hinspect _, ?_⟩
    rintro rfl
    exact Act.result_bind_error hinspect _

/-- A hook that says another statement were the caller's, and sends it. -/
def replacing (sql : String) : Hook where
  before _ := (.modify sql (some sql), [])

/-- A hook that refuses deletes and records what it was shown. -/
def denyingDeletes : Hook where
  before c := (if c.kind = .delete then .abort "deletes are disabled" else .proceed, [.before "deny" c])

theorem row_replacing (sql : String) (hs : List Hook) (c : Context) :
    row (replacing sql :: hs) c = row hs { c with exec := sql, canonical := sql, kind := kindOf sql } := rfl

theorem before_denyingDeletes (hdelete : c.kind = .delete) :
    (denyingDeletes.before c).1 = .abort "deletes are disabled" := by
  unfold denyingDeletes
  dsimp only
  rw [if_pos hdelete]

/-- The first composite comes to no change at all, and the hook behind it is shown what the caller wrote. -/
def backAndForth : Nest :=
  .composite [.composite [.hook (replacing "SELECT 1"), .hook (replacing "DELETE FROM book")],
    .composite [.hook denyingDeletes, .hook (replacing "SELECT 2")]]

theorem nest_eq_row_backAndForth :
    let c : Client Script := { wire := { server := [] }, hook := some backAndForth.toHook }
    let context := c.contextOf "DELETE FROM book" 0
    context.Typed ∧ backAndForth.asked context = shown backAndForth.leaves context ∧
      (backAndForth.asked context).map (·.2.exec) = ["DELETE FROM book", "SELECT 1", "DELETE FROM book"] ∧
      row backAndForth.leaves context = .error "deletes are disabled" ∧
      (result (Client.batch "DELETE FROM book") c).1 =
        .error (.usage (.abortedByHook "deletes are disabled")) := by
  intro c context
  have htyped : context.Typed := c.typed_contextOf "DELETE FROM book" 0
  have hkind : kindOf "DELETE FROM book" = .delete := by decide +kernel
  have hrow : row backAndForth.leaves context = .error "deletes are disabled" := by
    show row [replacing "SELECT 1", replacing "DELETE FROM book", denyingDeletes, replacing "SELECT 2"]
      context = _
    -- the third hook is shown the caller's statement again
    rw [row_replacing, row_replacing, row_cons, before_denyingDeletes hkind]
    rfl
  have htheorem := nest_eq_row backAndForth
  exact ⟨htyped, (htheorem.1 context htyped).1.2.2, by decide +kernel, hrow,
    congrArg Prod.fst (((htheorem.2.2 Script c rfl "DELETE FROM book" []).2 _ hrow).2.2 rfl)⟩

end DeclaredTriggers.Hook
