import DeclaredTriggers.Proofs.Session.Requests
import DeclaredTriggers.Session.Group

/-!
# Clients that share their overrides

A run of a group is a row of calls, each on one of its clients. A session over several clients is such a
run: it is entered, released and dropped on one client after the other (`run_enterIgnore`,
`run_releaseIgnore`, `run_dropIgnore`, and so for the search path).

What others do reaches a client through the overrides alone. So whatever a client's own calls keep, and
whatever a change of the overrides keeps that somebody else makes, holds of the client along every run of
its group:

> `client_run_keeps`: what one client's own calls keep, and what changes elsewhere keep, every run of the
> group keeps.
-/

namespace DeclaredTriggers

open Act (result result_bind)

namespace Group

variable {σ : Type} {n : Nat}

/-! ## One client of a group -/

@[simp] theorem client_withClient (g : Group σ n) (i : Fin n) (c : Client σ) :
    (g.withClient i c).client i = c := by
  simp [client, withClient]

/-- Another client sees a change of the overrides, if it shares them, and of the journal. -/
theorem client_withClient_of_ne (g : Group σ n) {i j : Fin n} (h : i ≠ j) (c : Client σ) :
    ∃ o, (g.withClient j c).client i = { g.client i with overrides := o, journal := c.journal } ∧
      (o = (g.client i).overrides ∨
        o = c.overrides ∧ (g.client j).overrides = (g.client i).overrides) := by
  have hseat : (j : Nat) ≠ i := fun heq => h (Fin.ext heq.symm)
  by_cases hworker : g.worker[i] = g.worker[j]
  · refine ⟨c.overrides, ?_, .inr ⟨rfl, by simp [client, hworker]⟩⟩
    simp [client, withClient, hworker, Vector.getElem_set_ne, hseat]
  · have hne : ((g.worker[j] : Fin n) : Nat) ≠ (g.worker[i] : Fin n) :=
      fun heq => hworker (Fin.ext heq.symm)
    refine ⟨(g.client i).overrides, ?_, .inl rfl⟩
    simp [client, withClient, Vector.getElem_set_ne, hseat]
    exact Vector.getElem_set_ne _ _ hne

section

variable [Server σ]

/-! ## Runs -/

/-- A group after a call on one of its clients. -/
def after (g : Group σ n) (step : Fin n × Call) : Group σ n := (result (on step.1 step.2.act) g).2

/-- A group after some calls. -/
def run (g : Group σ n) (steps : List (Fin n × Call)) : Group σ n := steps.foldl after g

/-- `Along P g steps`: `P` holds of each of the calls at the group that it is made in. -/
def Along (P : Group σ n → Fin n × Call → Prop) (g : Group σ n) : List (Fin n × Call) → Prop
  | [] => True
  | step :: rest => P g step ∧ Along P (g.after step) rest

theorem after_eq (g : Group σ n) (i : Fin n) (call : Call) :
    g.after (i, call) = g.withClient i ((g.client i).after call) := rfl

@[simp] theorem run_nil (g : Group σ n) : g.run [] = g := rfl

@[simp] theorem run_cons (g : Group σ n) (step : Fin n × Call) (rest : List (Fin n × Call)) :
    g.run (step :: rest) = (g.after step).run rest := rfl

theorem run_append (g : Group σ n) (steps more : List (Fin n × Call)) :
    g.run (steps ++ more) = (g.run steps).run more := List.foldl_append

theorem run_snoc (g : Group σ n) (steps : List (Fin n × Call)) (step : Fin n × Call) :
    g.run (steps ++ [step]) = (g.run steps).after step := run_append g steps [step]

/-- What a client knows is its own. -/
theorem session_after_of_ne (g : Group σ n) {i j : Fin n} (h : j ≠ i) (call : Call) :
    ((g.after (j, call)).client i).session = (g.client i).session := by
  obtain ⟨o, hclient, -⟩ := client_withClient_of_ne g h.symm ((g.client j).after call)
  rw [after_eq, hclient]

/-- What one client's own calls keep, and what changes elsewhere keep, every run of the group keeps. -/
theorem client_run_keeps {I : Client σ → Prop} {P : Client σ → Call → Prop} {i : Fin n}
    (hown : ∀ c call, I c → P c call → I (c.after call))
    (helsewhere : ∀ c change, I c → I (c.after (.elsewhere change)))
    (hjournal : ∀ (c : Client σ) j, I c → I { c with journal := j }) {g : Group σ n}
    {steps : List (Fin n × Call)} (hg : I (g.client i))
    (hrun : Along (fun g step => step.1 = i → P (g.client i) step.2) g steps) :
    I ((g.run steps).client i) := by
  induction steps generalizing g with
  | nil => exact hg
  | cons step rest ih =>
    obtain ⟨j, call⟩ := step
    refine ih ?_ hrun.2
    rw [after_eq]
    by_cases hij : j = i
    · subst hij
      rw [client_withClient]
      exact hown _ _ hg (hrun.1 rfl)
    · -- the other client changes the overrides as a call of this one could, or not at all
      obtain ⟨reqs, ok, hgoes⟩ := (g.client j).goes_after call
      obtain ⟨o, hclient, ho⟩ :=
        client_withClient_of_ne g (fun h => hij h.symm) ((g.client j).after call)
      rw [hclient]
      rcases ho with rfl | ⟨rfl, hshared⟩
      · exact hjournal (g.client i) _ hg
      · rcases hgoes.overrides with heq | ⟨change, heq⟩
        · rw [heq, hshared]
          exact hjournal (g.client i) _ hg
        · rw [heq, hshared]
          exact hjournal ((g.client i).after (.elsewhere change)) _ (helsewhere _ change hg)

theorem along_of_forall {P : Fin n × Call → Prop} {steps : List (Fin n × Call)}
    (h : ∀ step ∈ steps, P step) (g : Group σ n) : Along (fun _ step => P step) g steps := by
  induction steps generalizing g with
  | nil => trivial
  | cons step rest ih =>
    exact ⟨h step List.mem_cons_self,
      ih (fun other hother => h other (List.mem_cons_of_mem _ hother)) _⟩

/-! ## Sessions over several clients -/

/-- The same call on some clients, one after the other. -/
theorem run_forM (act : Act (Client σ) Unit) (call : Call)
    (hact : ∀ c, result act c = (.ok (), c.after call)) (clients : List (Fin n)) (g : Group σ n) :
    result (clients.forM fun i => on i act) g = (.ok (), g.run (clients.map (·, call))) := by
  induction clients generalizing g with
  | nil => rfl
  | cons i rest ih =>
    have hfirst : result (on i act) g = (.ok (), g.after (i, call)) := by
      show ((result act (g.client i)).1, g.withClient i (result act (g.client i)).2) = _
      rw [hact]
      rfl
    show result (do on i act; rest.forM fun i => on i act) g = _
    rw [Act.result_bind_ok hfirst, ih]
    rfl

/-- The same call on some clients, whether it succeeds on each or not. -/
theorem run_all (call : Call) (clients : List (Fin n)) (g : Group σ n) :
    (result (Act.all (clients.map fun i => on i call.act)) g).2 =
      g.run (clients.map (·, call)) := by
  induction clients generalizing g with
  | nil => rfl
  | cons i rest ih =>
    generalize hfirst : result (on i call.act) g = first
    obtain ⟨r, g'⟩ := first
    have hg' : g' = g.after (i, call) := (congrArg Prod.snd hfirst).symm
    generalize hrest : result (Act.all (rest.map fun i => on i call.act)) g' = others
    obtain ⟨r', g''⟩ := others
    have hlast := ih g'
    rw [hrest] at hlast
    rw [List.map_cons, Act.all, Act.result_bind_ok (Act.result_attempt hfirst),
      Act.result_bind_ok (Act.result_attempt hrest)]
    rw [List.map_cons, run_cons, ← hg', ← hlast]
    cases r <;> rfl

theorem run_enterIgnore (clients : List (Fin n)) (g : Group σ n) :
    result (IgnoreSession.enter clients) g =
      (.ok ⟨clients⟩, g.run (clients.map (·, .joinIgnore))) := by
  have hall := run_forM (Client.learn fun s => { s with ignore := s.ignore.opened }) .joinIgnore
    (fun _ => rfl) clients g
  unfold IgnoreSession.enter
  rw [Act.result_bind_ok hall]
  rfl

theorem run_releaseIgnore (session : IgnoreSession n) (g : Group σ n) :
    (result session.release g).2 = g.run (session.clients.map (·, .leaveIgnore false)) :=
  run_all (.leaveIgnore false) session.clients g

theorem run_dropIgnore (session : IgnoreSession n) (g : Group σ n) :
    result session.drop g = (.ok (), g.run (session.clients.map (·, .leaveIgnore true))) :=
  run_forM (Client.learn fun s => (s.closeIgnore true).2) (.leaveIgnore true)
    (fun _ => rfl) session.clients g

theorem run_dropSchemas (session : SchemaSession n) (g : Group σ n) :
    result session.drop g = (.ok (), g.run (session.clients.map (·, .leavePath true))) :=
  run_forM (Client.learn fun s => (s.closePath true).2) (.leavePath true)
    (fun _ => rfl) session.clients g

theorem run_releaseSchemas (session : SchemaSession n) (g : Group σ n) :
    (result session.release g).2 = g.run (session.clients.map (·, .leavePath false)) :=
  run_all (.leavePath false) session.clients g

end

end Group

end DeclaredTriggers
