import Mathlib.Data.List.Basic
import Mathlib.Data.List.Forall2

/-!
# Runs of Event-Driven Systems

A system that reacts to events, one at a time, is a total step function on a
state. A run is a list of events, and an event that cannot happen in a state
leaves the state as it is.

Two predicates say what is known about a run. `Along C` is a condition on
its steps: each event meets `C` in the state it is handled in. `Always P` is
a property of its states: `P` holds at the start and after every event.

The rules connect the two. `always_of_along` is the usual induction: a
property kept by every step that meets the condition holds throughout a run
of such steps. `along_of_always` is the other direction, for a condition
that is exact: when a step that breaks the condition breaks the property,
a run that keeps the property meets the condition at every step. Both may
lean on an auxiliary invariant `I` that the steps keep as long as the
property holds and the condition is met.

A system may also put something out at each step. `outputs` collects it, and
two rules compare the runs of two lists of events that are related event by
event: when they must put out the same, and when they cannot unless they are
the same.

## Main definitions

* `run`: The state after a list of events.
* `Along`: Every step of a run meets a condition.
* `Always`: A property holds in every state of a run.
* `outputs`: Everything a run puts out.

## Theorems

* `always_iff_prefix`: `Always` is a statement about every prefix of a run.
* `always_of_step`: An invariant, and what follows from it, holds throughout.
* `run_of_step`: An invariant holds at the end.
* `run_of_clock`: So does one that speaks of a clock.
* `always_of_along`: A property kept under the condition holds throughout.
* `along_of_always`: A property that no other step keeps forces the
  condition.
* `always_iff_along`: The two together, for an exact condition.
* `outputs_of_lockstep`: Two runs in lockstep put out the same.
* `eq_of_outputs_eq`: Two runs in lockstep that do are the same.
-/

namespace Run

section Step

variable {σ ε : Type*} (step : σ → ε → σ)

/-- The state after the events, handled in order. -/
def run (s : σ) (es : List ε) : σ :=
  es.foldl step s

/-- Each event meets `C` in the state it is handled in. -/
def Along (C : σ → ε → Prop) : σ → List ε → Prop
  | _, [] => True
  | s, e :: es => C s e ∧ Along C (step s e) es

/-- `P` holds at the start and after each event. -/
def Always (P : σ → Prop) : σ → List ε → Prop
  | s, [] => P s
  | s, e :: es => P s ∧ Always P (step s e) es

instance decidableAlong (C : σ → ε → Prop) [∀ s e, Decidable (C s e)] :
    ∀ (s : σ) (es : List ε), Decidable (Along step C s es)
  | _, [] => .isTrue trivial
  | s, e :: es =>
      have := decidableAlong C (step s e) es
      inferInstanceAs (Decidable (C s e ∧ Along step C (step s e) es))

instance decidableAlways (P : σ → Prop) [DecidablePred P] :
    ∀ (s : σ) (es : List ε), Decidable (Always step P s es)
  | s, [] => inferInstanceAs (Decidable (P s))
  | s, e :: es =>
      have := decidableAlways P (step s e) es
      inferInstanceAs (Decidable (P s ∧ Always step P (step s e) es))

@[simp] theorem run_nil (s : σ) : run step s [] = s := rfl

@[simp] theorem run_cons (s : σ) (e : ε) (es : List ε) :
    run step s (e :: es) = run step (step s e) es := rfl

/-- A run may be cut anywhere. -/
theorem run_append (s : σ) (es fs : List ε) :
    run step s (es ++ fs) = run step (run step s es) fs :=
  List.foldl_append

theorem Always.head {P : σ → Prop} {s : σ} {es : List ε} (h : Always step P s es) : P s := by
  cases es with
  | nil => exact h
  | cons e es => exact h.1

/-- What holds all along holds at the end of every part of the run. -/
theorem always_iff_prefix (P : σ → Prop) (s : σ) (es : List ε) :
    Always step P s es ↔ ∀ pre, pre <+: es → P (run step s pre) := by
  -- The run starts elsewhere in the tail, so the start is generalized.
  induction es generalizing s with
  | nil =>
      constructor
      · intro h pre hpre
        rw [List.prefix_nil.mp hpre]
        exact h
      · intro h
        exact h [] (List.prefix_refl _)
  | cons e es ih =>
      simp only [Always, ih]
      constructor
      · intro h pre hpre
        rcases h with ⟨hs, hrest⟩
        -- A prefix is empty, or starts with the same event.
        cases pre with
        | nil => exact hs
        | cons f pre =>
            rcases List.cons_prefix_cons.mp hpre with ⟨rfl, hpre'⟩
            exact hrest pre hpre'
      · intro h
        have hs : P s := h [] List.nil_prefix
        refine ⟨hs, fun pre hpre => ?_⟩
        exact h (e :: pre) (List.cons_prefix_cons.mpr ⟨rfl, hpre⟩)

theorem always_of_step (I P : σ → Prop) (hI : ∀ s e, I s → I (step s e)) (hP : ∀ s, I s → P s)
    (es : List ε) (s : σ) (hs : I s) : Always step P s es := by
  induction es generalizing s with
  | nil => exact hP s hs
  | cons e es ih => exact ⟨hP s hs, ih (step s e) (hI s e hs)⟩

/-- An invariant holds at the end of a run. -/
theorem run_of_step (I : σ → Prop) (hI : ∀ s e, I s → I (step s e)) (es : List ε) (s : σ)
    (hs : I s) : I (run step s es) := by
  induction es generalizing s with
  | nil => exact hs
  | cons e es ih => exact ih (step s e) (hI s e hs)

/-- A condition that asks for nothing. -/
theorem along_true (s : σ) (es : List ε) : Along step (fun _ _ => True) s es := by
  induction es generalizing s with
  | nil => trivial
  | cons e es ih => exact ⟨trivial, ih (step s e)⟩

/-- A system with a clock that some of its events read: what the events keep
    from one reading to the next holds at the end of a run whose readings are
    in the order `R`, if its events meet `C`. -/
theorem run_of_clock {τ : Type*} (time : ε → Option τ) (R : τ → τ → Prop) (C : σ → ε → Prop)
    (I : τ → σ → Prop)
    (hidle : ∀ t s e, time e = none → C s e → I t s → I t (step s e))
    (htick : ∀ t t' s e, time e = some t' → R t t' → C s e → I t s → I t' (step s e))
    (es : List ε) (t : τ) (s : σ) (hs : I t s) (hclock : (t :: es.filterMap time).IsChain R)
    (hc : Along step C s es) : ∃ t', I t' (run step s es) := by
  induction es generalizing t s with
  | nil => exact ⟨t, hs⟩
  | cons e es ih =>
      rcases hc with ⟨hc, hrest⟩
      rcases htime : time e with _ | t'
      · rw [List.filterMap_cons_none htime] at hclock
        exact ih t _ (hidle t s e htime hc hs) hclock hrest
      · rw [List.filterMap_cons_some htime, List.isChain_cons_cons] at hclock
        exact ih t' _ (htick t t' s e htime hclock.1 hc hs) hclock.2 hrest

section Rules

variable (I : σ → Prop) (P : σ → Prop) (C : σ → ε → Prop)
  (hI : ∀ s e, I s → P s → C s e → I (step s e))

include hI

/-- A property that every step meeting the condition keeps holds in every
    state of a run whose steps all meet it. -/
theorem always_of_along (hkeep : ∀ s e, I s → P s → C s e → P (step s e))
    (es : List ε) (s : σ) (hs : I s) (hp : P s) (hc : Along step C s es) :
    Always step P s es := by
  induction es generalizing s with
  | nil => exact hp
  | cons e es ih =>
      rcases hc with ⟨hc, hrest⟩
      have hs' : I (step s e) := hI s e hs hp hc
      have hp' : P (step s e) := hkeep s e hs hp hc
      exact ⟨hp, ih (step s e) hs' hp' hrest⟩

/-- When only the steps meeting the condition keep the property, a run that
    has the property throughout meets the condition at every step. -/
theorem along_of_always (hforce : ∀ s e, I s → P s → P (step s e) → C s e)
    (es : List ε) (s : σ) (hs : I s) (hp : Always step P s es) :
    Along step C s es := by
  induction es generalizing s with
  | nil => trivial
  | cons e es ih =>
      rcases hp with ⟨hp, hrest⟩
      -- The property still holds after the step, so the step met the condition.
      have hc : C s e := hforce s e hs hp (Always.head step hrest)
      have hs' : I (step s e) := hI s e hs hp hc
      exact ⟨hc, ih (step s e) hs' hrest⟩

/-- An exact condition: the property holds throughout a run if and only if
    every step of the run meets the condition. -/
theorem always_iff_along (hexact : ∀ s e, I s → P s → (P (step s e) ↔ C s e))
    (es : List ε) (s : σ) (hs : I s) (hp : P s) :
    Always step P s es ↔ Along step C s es :=
  ⟨along_of_always step I P C hI (fun s e hs hp h => (hexact s e hs hp).mp h) es s hs,
    always_of_along step I P C hI (fun s e hs hp h => (hexact s e hs hp).mpr h) es s hs hp⟩

end Rules

section Outputs

variable {α : Type*} (out : σ → ε → List α)

/-- Everything a run puts out, in order. -/
def outputs : σ → List ε → List α
  | _, [] => []
  | s, e :: es => out s e ++ outputs (step s e) es

variable {R : σ → σ → Prop} {E : ε → ε → Prop}

/-- Two runs in lockstep put out the same and end in related states, when
    related events in related states do. -/
theorem outputs_of_lockstep
    (hstep : ∀ s s' e e', R s s' → E e e' → out s e = out s' e' ∧ R (step s e) (step s' e'))
    {es es' : List ε} (hes : List.Forall₂ E es es') {s s' : σ} (hs : R s s') :
    outputs step out s es = outputs step out s' es' ∧ R (run step s es) (run step s' es') := by
  induction hes generalizing s s' with
  | nil => exact ⟨rfl, hs⟩
  | cons he _ ih =>
      rcases hstep s s' _ _ hs he with ⟨hout, hs'⟩
      rcases ih hs' with ⟨houts, hend⟩
      rw [outputs, outputs, hout, houts, run_cons, run_cons]
      exact ⟨rfl, hend⟩

/-- Two runs in lockstep that put out the same are the same, when related
    events put out equally many and only equal ones put out the same. -/
theorem eq_of_outputs_eq
    (hstep : ∀ s s' e e', R s s' → E e e' → (out s e).length = (out s' e').length ∧
      (out s e = out s' e' → e = e') ∧ R (step s e) (step s' e'))
    {es es' : List ε} (hes : List.Forall₂ E es es') {s s' : σ} (hs : R s s')
    (houts : outputs step out s es = outputs step out s' es') : es = es' := by
  induction hes generalizing s s' with
  | nil => rfl
  | cons he _ ih =>
      rcases hstep s s' _ _ hs he with ⟨hlength, hinj, hs'⟩
      rw [outputs, outputs] at houts
      rcases List.append_inj houts hlength with ⟨hout, hrest⟩
      rw [hinj hout, ih hs' hrest]

end Outputs

end Step

end Run
