import Mathlib.Data.List.Nodup
import Mathlib.Tactic.Common

/-!
# Properties of Logs

A log records what a system did, oldest entry first, and only ever grows at
its end. Two properties of logs recur.

A keyed log answers each key at most once. `AtMostOnce` is that property,
and `atMostOnce_append` says when a batch of answers to one key keeps it:
exactly when the batch has at most one entry, and none if the log has the
key already.

`NeverAfter` is a temporal property of a log: once a trigger has been
recorded, no bad entry follows it. `neverAfter_append_singleton` says when
one more entry keeps it.

## Main definitions

* `AtMostOnce`: No key of the log is answered twice.
* `NeverAfter`: No bad entry comes after a trigger.

## Theorems

* `atMostOnce_append_fresh`, `atMostOnce_append_answered`: Appending the
  answers to a new key, or to one that the log has.
* `atMostOnce_append`: The two together.
* `atMostOnce_append_singleton`: Appending one answer.
* `neverAfter_append_singleton`: Appending one entry.
-/

namespace Log

section Keyed

variable {κ α : Type*}

/-- No two entries of the log have the same key. -/
def AtMostOnce (log : List (κ × α)) : Prop :=
  (log.map Prod.fst).Nodup

instance [DecidableEq κ] (log : List (κ × α)) : Decidable (AtMostOnce log) :=
  inferInstanceAs (Decidable (log.map Prod.fst).Nodup)

theorem atMostOnce_nil : AtMostOnce ([] : List (κ × α)) :=
  List.nodup_nil

/-- Answers to one key that the log does not have yet keep it once-only
    exactly when there is at most one of them. -/
theorem atMostOnce_append_fresh (log : List (κ × α)) (k : κ) (as : List α)
    (hk : k ∉ log.map Prod.fst) :
    AtMostOnce (log ++ as.map (fun a => (k, a))) ↔ AtMostOnce log ∧ as.length ≤ 1 := by
  have hkeys : (as.map (fun a => (k, a))).map Prod.fst = List.replicate as.length k := by
    rw [List.map_map, List.eq_replicate_iff]
    refine ⟨by rw [List.length_map], fun b hb => ?_⟩
    rcases List.mem_map.mp hb with ⟨a, _, rfl⟩
    rfl
  -- The new key is not among the old ones, so only the batch can repeat it.
  have hdisj : List.Disjoint (log.map Prod.fst) (List.replicate as.length k) := by
    intro b hb hb'
    rw [List.eq_of_mem_replicate hb'] at hb
    exact hk hb
  rw [AtMostOnce, AtMostOnce, List.map_append, hkeys, List.nodup_append', List.nodup_replicate]
  constructor
  · intro h
    exact ⟨h.1, h.2.1⟩
  · intro h
    exact ⟨h.1, h.2, hdisj⟩

/-- Answers to a key that the log already has keep it once-only exactly when
    there are none. -/
theorem atMostOnce_append_answered (log : List (κ × α)) (k : κ) (as : List α)
    (hk : k ∈ log.map Prod.fst) :
    AtMostOnce (log ++ as.map (fun a => (k, a))) ↔ AtMostOnce log ∧ as = [] := by
  constructor
  · intro h
    rw [AtMostOnce, List.map_append, List.nodup_append'] at h
    -- Any answer of the batch would repeat the key.
    have hnone : ∀ a, a ∉ as := by
      intro a ha
      refine h.2.2 hk ?_
      rw [List.map_map]
      exact List.mem_map.mpr ⟨a, ha, rfl⟩
    exact ⟨h.1, List.eq_nil_iff_forall_not_mem.mpr hnone⟩
  · intro h
    rw [h.2, List.map_nil, List.append_nil]
    exact h.1

/-- How many answers to one key keep the log once-only: one, or none if it
    has the key already. -/
theorem atMostOnce_append [DecidableEq κ] (log : List (κ × α)) (k : κ) (as : List α) :
    AtMostOnce (log ++ as.map (fun a => (k, a))) ↔
      AtMostOnce log ∧ as.length ≤ if k ∈ log.map Prod.fst then 0 else 1 := by
  split_ifs with hk
  · rw [atMostOnce_append_answered log k as hk, Nat.le_zero, List.length_eq_zero_iff]
  · exact atMostOnce_append_fresh log k as hk

theorem atMostOnce_append_singleton (log : List (κ × α)) (k : κ) (a : α)
    (hlog : AtMostOnce log) :
    AtMostOnce (log ++ [(k, a)]) ↔ k ∉ log.map Prod.fst := by
  constructor
  · intro h hk
    rw [AtMostOnce, List.map_append, List.nodup_append'] at h
    exact h.2.2 hk (List.mem_singleton.mpr rfl)
  · intro hk
    exact (atMostOnce_append_fresh log k [a] hk).mpr ⟨hlog, Nat.le_refl 1⟩

end Keyed

section Temporal

variable {α : Type*} (trigger bad : α → Prop)

/-- No bad entry comes after a trigger. -/
def NeverAfter : List α → Prop
  | [] => True
  | x :: xs => (trigger x → ∀ y ∈ xs, ¬ bad y) ∧ NeverAfter xs

instance decidableNeverAfter [DecidablePred trigger] [DecidablePred bad] :
    ∀ log, Decidable (NeverAfter trigger bad log)
  | [] => .isTrue trivial
  | x :: xs =>
      have := decidableNeverAfter xs
      inferInstanceAs (Decidable ((trigger x → ∀ y ∈ xs, ¬ bad y) ∧ NeverAfter trigger bad xs))

/-- One more entry keeps the order exactly when it is not a bad one after a
    trigger already recorded. -/
theorem neverAfter_append_singleton (log : List α) (y : α) :
    NeverAfter trigger bad (log ++ [y]) ↔
      NeverAfter trigger bad log ∧ ((∃ x ∈ log, trigger x) → ¬ bad y) := by
  induction log with
  | nil =>
      simp only [List.nil_append, NeverAfter, List.not_mem_nil, false_and, exists_false,
        IsEmpty.forall_iff, implies_true, and_self]
  | cons x xs ih =>
      rw [List.cons_append, NeverAfter, NeverAfter, ih]
      constructor
      · intro h
        rcases h with ⟨hx, hxs, hy⟩
        refine ⟨⟨fun ht z hz => hx ht z (List.mem_append_left _ hz), hxs⟩, fun htrig => ?_⟩
        -- The trigger is the head, or one of the tail.
        rcases htrig with ⟨w, hw, htw⟩
        rcases List.mem_cons.mp hw with rfl | hw
        · exact hx htw y (List.mem_append_right _ (List.mem_singleton.mpr rfl))
        · exact hy ⟨w, hw, htw⟩
      · intro h
        rcases h with ⟨⟨hx, hxs⟩, hy⟩
        have htail : (∃ w ∈ xs, trigger w) → ¬ bad y := by
          intro htrig
          rcases htrig with ⟨w, hw, htw⟩
          exact hy ⟨w, List.mem_cons_of_mem _ hw, htw⟩
        refine ⟨fun ht z hz => ?_, hxs, htail⟩
        rcases List.mem_append.mp hz with hz | hz
        · exact hx ht z hz
        · rw [List.mem_singleton.mp hz]
          exact hy ⟨x, List.mem_cons_self, ht⟩

end Temporal

end Log
