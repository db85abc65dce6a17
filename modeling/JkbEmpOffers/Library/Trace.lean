import Mathlib.Tactic.Common

/-!
# Runs That May Abort

A step takes a state and an event to the next state and to something that it
puts out, or it aborts. A run goes through a list of events and aborts with
the first step that does.

Whether a step aborts may depend on more than an invariant of the state: what
the environment promises of its events is a condition on an event and the
state in which it is handled. `Meets` says that a run keeps such a condition
as far as it gets. Where an invariant and the condition let a step succeed
and keep the invariant, `run_of_step` is the same for the run, with all that
was put out as a chain of single steps.

## Main definitions

* `run`: The state after a list of events, and what was put out.
* `Meets`: Every event meets a condition in the state it is handled in.
* `Chain`: What was put out leads from one state to another.

## Theorems

* `run_of_foldl`, `run_of_step`: From one step to a run.
* `meets_and`: Conditions on the events alone.
-/

namespace Trace

variable {σ ε α : Type*}

/-- The state after the events, and what was put out. -/
def run (step : σ → ε → Option (σ × α)) : σ → List ε → Option (σ × List α)
  | s, [] => some (s, [])
  | s, e :: es =>
    (step s e).bind fun r => (run step r.1 es).map fun rest => (rest.1, r.2 :: rest.2)

/-- Each event meets `C` in the state in which it is handled. -/
def Meets (step : σ → ε → Option (σ × α)) (C : σ → ε → Prop) : σ → List ε → Prop
  | _, [] => True
  | s, e :: es => C s e ∧ ∀ r, step s e = some r → Meets step C r.1 es

/-- What was put out leads from one state to another, by steps of `R`. -/
inductive Chain (R : σ → α → σ → Prop) : σ → List α → σ → Prop where
  | nil (s : σ) : Chain R s [] s
  | cons {s m t : σ} {a : α} {as : List α} (hstep : R s a m) (hrest : Chain R m as t) :
      Chain R s (a :: as) t

/-- A condition on the events alone can be added to any other. -/
theorem meets_and {step : σ → ε → Option (σ × α)} {C : σ → ε → Prop} {P : ε → Prop} {es : List ε}
    {s : σ} (h : Meets step C s es) (hall : ∀ e ∈ es, P e) :
    Meets step (fun s e => C s e ∧ P e) s es := by
  induction es generalizing s with
  | nil => trivial
  | cons e es ih =>
      refine ⟨⟨h.1, hall e List.mem_cons_self⟩, fun r hr => ih (h.2 r hr) fun e' he' => ?_⟩
      exact hall e' (List.mem_cons_of_mem e he')

/-- If every step that meets `C` succeeds, keeps `I` and puts out what `R`
    says, then so does a run. The invariant may speak of something that is
    computed from the events. -/
theorem run_of_foldl {γ : Type*} {step : σ → ε → Option (σ × α)} {C : σ → ε → Prop}
    {I : γ → σ → Prop} {R : σ → α → σ → Prop} (u : γ → ε → γ)
    (hstep : ∀ g s e, I g s → C s e → ∃ m a, step s e = some (m, a) ∧ I (u g e) m ∧ R s a m)
    {es : List ε} {g : γ} {s : σ} (hs : I g s) (hes : Meets step C s es) :
    ∃ t as, run step s es = some (t, as) ∧ I (es.foldl u g) t ∧ Chain R s as t := by
  induction es generalizing g s with
  | nil => exact ⟨s, [], rfl, hs, .nil s⟩
  | cons e es ih =>
      rcases hes with ⟨hc, hrest⟩
      rcases hstep g s e hs hc with ⟨m, a, hsome, hm, hr⟩
      rcases ih hm (hrest _ hsome) with ⟨t, as, hrun, ht, hchain⟩
      refine ⟨t, a :: as, ?_, ht, .cons hr hchain⟩
      rw [run, hsome, Option.bind_some, hrun]
      rfl

theorem run_of_step {step : σ → ε → Option (σ × α)} {C : σ → ε → Prop} {I : σ → Prop}
    {R : σ → α → σ → Prop}
    (hstep : ∀ s e, I s → C s e → ∃ m a, step s e = some (m, a) ∧ I m ∧ R s a m)
    {es : List ε} {s : σ} (hs : I s) (hes : Meets step C s es) :
    ∃ t as, run step s es = some (t, as) ∧ I t ∧ Chain R s as t := by
  have hstep' : ∀ (_ : Unit) s e, I s → C s e →
      ∃ m a, step s e = some (m, a) ∧ I m ∧ R s a m := fun _ => hstep
  rcases run_of_foldl (fun g _ => g) hstep' (g := ()) hs hes with ⟨t, as, h⟩
  exact ⟨t, as, h⟩

end Trace
