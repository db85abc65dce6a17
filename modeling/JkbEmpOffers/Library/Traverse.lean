import Mathlib.Data.List.Forall2
import Mathlib.Data.List.Induction
import Mathlib.Tactic.Common

/-!
# Traversals That May Fail

`List.mapM` in the exception monad stops at the first element that fails.
The lemmas here say what that comes to as a whole: the traversal succeeds
exactly when every element does, and then its result lists theirs in order;
it fails exactly when some element does.

## Theorems

* `mapM_ok`: Every element succeeding gives the list of results.
* `mapM_error`: One element failing fails the traversal.
* `mapM_ok_iff`: Success, element by element.
* `mapM_eq_ok_iff`: The results of a success, element by element.
* `mapM_transport`: Two traversals related element by element.
* `mapM_range_ok`: Rebuilding a list by reading it index by index.
-/

namespace Traverse

variable {ε α β : Type}

/-- Where every element succeeds, so does the list. -/
theorem mapM_ok {f : α → Except ε β} {g : α → β} {xs : List α}
    (h : ∀ x ∈ xs, f x = .ok (g x)) : xs.mapM f = .ok (xs.map g) := by
  induction xs with
  | nil => rfl
  | cons x xs ih =>
      rw [List.mapM_cons, h x List.mem_cons_self, ih fun y hy => h y (List.mem_cons_of_mem _ hy)]
      rfl

/-- One element failing fails the traversal, though not always with that
    element's error: an earlier one may fail first. -/
theorem mapM_error {f : α → Except ε β} {xs : List α} {x : α} {e : ε}
    (hx : x ∈ xs) (h : f x = .error e) : ∃ e', xs.mapM f = .error e' := by
  induction xs with
  | nil => exact absurd hx List.not_mem_nil
  | cons y ys ih =>
      rw [List.mapM_cons]
      rcases hy : f y with e' | b
      · exact ⟨e', rfl⟩
      · -- The head succeeds, so the failing element is in the tail.
        have hmem : x ∈ ys := by
          rcases List.mem_cons.mp hx with rfl | hmem
          · rw [hy] at h
            exact absurd h (by simp only [reduceCtorEq, not_false_eq_true])
          · exact hmem
        rcases ih hmem with ⟨e', he'⟩
        exact ⟨e', by rw [he']; rfl⟩

/-- And only there. -/
theorem mapM_ok_iff {f : α → Except ε β} {xs : List α} :
    (∃ ys, xs.mapM f = .ok ys) ↔ ∀ x ∈ xs, ∃ y, f x = .ok y := by
  constructor
  · intro h x hx
    rcases h with ⟨ys, hys⟩
    rcases h : f x with e | y
    · -- A failing element fails the traversal, whatever comes before it.
      rcases mapM_error hx h with ⟨e', he'⟩
      rw [he'] at hys
      exact absurd hys (by simp only [reduceCtorEq, not_false_eq_true])
    · exact ⟨y, rfl⟩
  · intro h
    induction xs with
    | nil => exact ⟨[], rfl⟩
    | cons x xs ih =>
        rcases h x List.mem_cons_self with ⟨y, hy⟩
        rcases ih fun z hz => h z (List.mem_cons_of_mem _ hz) with ⟨ys, hys⟩
        exact ⟨y :: ys, by rw [List.mapM_cons, hy, hys]; rfl⟩

/-- The results are those of the elements, in their order. -/
theorem mapM_eq_ok_iff {f : α → Except ε β} {xs : List α} {ys : List β} :
    xs.mapM f = .ok ys ↔ List.Forall₂ (fun x y => f x = .ok y) xs ys := by
  induction xs generalizing ys with
  | nil =>
      rw [List.forall₂_nil_left_iff, List.mapM_nil]
      exact ⟨fun h => (Except.ok.inj h).symm, fun h => congrArg Except.ok h.symm⟩
  | cons x xs ih =>
      rw [List.forall₂_cons_left_iff, List.mapM_cons]
      constructor
      · intro h
        rcases hx : f x with e | y
        · rw [hx] at h
          exact absurd h (by simp only [bind, Except.bind, reduceCtorEq, not_false_eq_true])
        rcases hxs : xs.mapM f with e | zs
        · rw [hx, hxs] at h
          exact absurd h (by simp only [bind, Except.bind, reduceCtorEq, not_false_eq_true])
        rw [hx, hxs] at h
        exact ⟨y, zs, rfl, ih.mp hxs, (Except.ok.inj h).symm⟩
      · intro h
        rcases h with ⟨y, zs, hx, hzs, rfl⟩
        rw [hx, ih.mpr hzs]
        rfl

/-- A traversal follows another that succeeds, when each of its elements
    does. -/
theorem mapM_transport {γ : Type} {f : α → Except ε β} {g : α → Except ε γ} {h : β → γ}
    (hfg : ∀ x y, f x = .ok y → g x = .ok (h y)) {xs : List α} {ys : List β}
    (hys : xs.mapM f = .ok ys) : xs.mapM g = .ok (ys.map h) := by
  induction xs generalizing ys with
  | nil =>
      rw [← Except.ok.inj hys]
      rfl
  | cons x xs ih =>
      rw [List.mapM_cons] at hys ⊢
      -- The first traversal has come through, so its head and its tail have.
      rcases hx : f x with e | y
      · rw [hx] at hys
        exact absurd hys (by simp only [bind, Except.bind, reduceCtorEq, not_false_eq_true])
      rcases hxs : xs.mapM f with e | zs
      · rw [hx, hxs] at hys
        exact absurd hys (by simp only [bind, Except.bind, reduceCtorEq, not_false_eq_true])
      rw [hx, hxs] at hys
      rw [hfg x y hx, ih hxs, ← Except.ok.inj hys]
      rfl

/-- The same for a list that is read by index. -/
theorem mapM_range_ok {f : Nat → Except ε β} {ys : List β}
    (h : ∀ i (hi : i < ys.length), f i = .ok ys[i]) :
    (List.range ys.length).mapM f = .ok ys := by
  -- The indices grow at the end, so the induction takes the list from there.
  induction ys using List.reverseRecOn with
  | nil => rfl
  | append_singleton ys y ih =>
      have hpre : (List.range ys.length).mapM f = .ok ys := by
        refine ih fun i hi => ?_
        rw [h i (by rw [List.length_append]; omega), List.getElem_append_left hi]
      have hlast : f ys.length = .ok y := by
        rw [h ys.length (by rw [List.length_append, List.length_singleton]; omega),
          List.getElem_concat_length rfl]
      rw [List.length_append, List.length_singleton, List.range_succ, List.mapM_append, hpre,
        List.mapM_cons, hlast]
      rfl

end Traverse
