import Mathlib.Data.List.Forall2
import Mathlib.Data.List.Sort
import Mathlib.Tactic.Common

/-!
# Stable Sorting

Insertion sort leaves elements that compare equal in the order in which it
found them. `Lexicographic r t` says that as one relation: two elements are
in the order `r`, and where `r` holds both ways also in the order `t`. A list
that is in the order `t` before it is sorted by `r` is in the lexicographic
order after it.

When `t` is strict, a list in the lexicographic order is determined by its
elements, so one such list is a sublist of another exactly when its elements
are among the other's.

## Main definitions

* `Lexicographic`: One order, and another where the first ties.

## Theorems

* `pairwise_insertionSort_lexicographic`: Sorting is stable.
* `pairwise_mergeSort_of_ne`: Sorting what does not tie.
* `sublist_iff_subset`: Sublists of lists in a strict lexicographic order.
* `forall₂_of_pairwise`: Ascending lists are paired off one after the other.
* `filter_eq_take`, `filter_eq_drop`: Elements that stand at one end.
-/

namespace Sorting

variable {α : Type*} {r t : α → α → Prop}

/-- Two elements are in the order `r`, and in the order `t` if `r` ties. -/
def Lexicographic (r t : α → α → Prop) (a b : α) : Prop :=
  r a b ∧ (r b a → t a b)

section Stable

variable [DecidableRel r] (htotal : ∀ a b, r a b ∨ r b a)
  (htrans : ∀ a b c, r a b → r b c → r a c)

include htotal htrans

/-- Inserting an element that comes before all others in the order `t`. -/
theorem pairwise_orderedInsert_lexicographic {a : α} {l : List α}
    (hl : l.Pairwise (Lexicographic r t)) (ha : ∀ b ∈ l, t a b) :
    (l.orderedInsert r a).Pairwise (Lexicographic r t) := by
  induction l with
  | nil => exact List.pairwise_singleton _ _
  | cons b l ih =>
      rcases List.pairwise_cons.mp hl with ⟨hb, htail⟩
      rw [List.orderedInsert_cons]
      split_ifs with hab
      · -- It stays in front of everything.
        refine List.pairwise_cons.mpr ⟨fun c hc => ⟨?_, fun _ => ha c hc⟩, hl⟩
        rcases List.mem_cons.mp hc with rfl | hc
        · exact hab
        · exact htrans a b c hab (hb c hc).1
      · -- It goes behind the head, which is strictly below it.
        have hba : r b a := (htotal a b).resolve_left hab
        refine List.pairwise_cons.mpr
          ⟨fun c hc => ?_, ih htail fun c hc => ha c (List.mem_cons_of_mem _ hc)⟩
        rcases (List.mem_orderedInsert r).mp hc with rfl | hc
        · exact ⟨hba, fun h => absurd h hab⟩
        · exact hb c hc

theorem pairwise_insertionSort_lexicographic {l : List α} (hl : l.Pairwise t) :
    (l.insertionSort r).Pairwise (Lexicographic r t) := by
  induction l with
  | nil => exact List.Pairwise.nil
  | cons a l ih =>
      rcases List.pairwise_cons.mp hl with ⟨ha, htail⟩
      rw [List.insertionSort_cons]
      refine pairwise_orderedInsert_lexicographic htotal htrans (ih htail) fun b hb => ?_
      exact ha b ((List.mem_insertionSort r).mp hb)

end Stable

/-- Sorting by a comparator brings elements that it tells apart into strictly
    ascending order. -/
theorem pairwise_mergeSort_of_ne {cmp : α → α → Ordering} [Std.TransCmp cmp] {l : List α}
    (hl : l.Pairwise fun a b => cmp a b ≠ .eq) :
    (l.mergeSort fun a b => (cmp a b).isLE).Pairwise fun a b => cmp a b = .lt := by
  have hle : (l.mergeSort fun a b => (cmp a b).isLE).Pairwise fun a b => (cmp a b).isLE = true :=
    List.pairwise_mergeSort (fun _ _ _ => Std.TransCmp.isLE_trans)
      (fun a b => by
        rw [@Std.OrientedCmp.eq_swap _ cmp _ b a]
        cases cmp a b <;> rfl) _
  have hne : (l.mergeSort fun a b => (cmp a b).isLE).Pairwise fun a b => cmp a b ≠ .eq :=
    (List.mergeSort_perm _ _).symm.pairwise hl fun {a b} hab hba => by
      rw [@Std.OrientedCmp.eq_swap _ cmp _ a b, hba] at hab
      exact hab rfl
  refine (hle.and hne).imp fun {a b} h => ?_
  rcases hcmp : cmp a b with _ | _ | _
  · rfl
  · exact absurd hcmp h.2
  · rw [hcmp] at h
    exact absurd h.1 Bool.false_ne_true

/-- A list in a strict lexicographic order is a sublist of another exactly
    when its elements are among the other's. -/
theorem sublist_iff_subset {l l' : List α} (ht : ∀ a b, t a b → ¬ t b a)
    (hl : l.Pairwise (Lexicographic r t)) (hl' : l'.Pairwise (Lexicographic r t)) :
    l.Sublist l' ↔ l ⊆ l' := by
  -- Two elements each before the other would tie, and then `t` both ways.
  have hasymm : ∀ a b, Lexicographic r t a b → ¬ Lexicographic r t b a :=
    fun a b hab hba => ht a b (hab.2 hba.1) (hba.2 hab.1)
  have hanti : Std.Antisymm (Lexicographic r t) :=
    ⟨fun a b hab hba => absurd hba (hasymm a b hab)⟩
  have hirrefl : Std.Irrefl (Lexicographic r t) := ⟨fun a haa => hasymm a a haa haa⟩
  constructor
  · exact fun h => h.subset
  · intro h
    exact List.sublist_of_subperm_of_pairwise (List.subperm_of_subset hl.nodup h) hl hl'

/-- Two strictly ascending lists whose elements can be paired off, in a way
    that keeps the order, are paired off one after the other. -/
theorem forall₂_of_pairwise {β : Type*} {s : β → β → Prop} {R : α → β → Prop}
    (hr : ∀ a b, r a b → ¬ r b a) (hs : ∀ a b, s a b → ¬ s b a)
    (hR : ∀ x y x' y', R x y → R x' y' → (r x x' ↔ s y y'))
    {l : List α} {l' : List β} (hl : l.Pairwise r) (hl' : l'.Pairwise s)
    (hleft : ∀ x ∈ l, ∃ y ∈ l', R x y) (hright : ∀ y ∈ l', ∃ x ∈ l, R x y) :
    List.Forall₂ R l l' := by
  induction l generalizing l' with
  | nil =>
      cases l' with
      | nil => exact .nil
      | cons y l' =>
          rcases hright y List.mem_cons_self with ⟨x, hx, -⟩
          exact absurd hx List.not_mem_nil
  | cons x l ih =>
      cases l' with
      | nil =>
          rcases hleft x List.mem_cons_self with ⟨y, hy, -⟩
          exact absurd hy List.not_mem_nil
      | cons y l' =>
          rcases List.pairwise_cons.mp hl with ⟨hx, hl⟩
          rcases List.pairwise_cons.mp hl' with ⟨hy, hl'⟩
          -- The partners of the heads cannot both be further on.
          have hhead : R x y := by
            rcases hleft x List.mem_cons_self with ⟨y', hy', hxy'⟩
            rcases hright y List.mem_cons_self with ⟨x', hx', hx'y⟩
            rcases List.mem_cons.mp hy' with rfl | hy'
            · exact hxy'
            · rcases List.mem_cons.mp hx' with rfl | hx'
              · exact hx'y
              · exact absurd ((hR x y' x' y hxy' hx'y).mp (hx x' hx')) (hs y y' (hy y' hy'))
          refine .cons hhead (ih hl hl' (fun x' hx' => ?_) fun y' hy' => ?_)
          · rcases hleft x' (List.mem_cons_of_mem x hx') with ⟨y', hy', hxy'⟩
            rcases List.mem_cons.mp hy' with rfl | hy'
            · have hyy := (hR x y' x' y' hhead hxy').mp (hx x' hx')
              exact absurd hyy (hs y' y' hyy)
            · exact ⟨y', hy', hxy'⟩
          · rcases hright y' (List.mem_cons_of_mem y hy') with ⟨x', hx', hxy'⟩
            rcases List.mem_cons.mp hx' with rfl | hx'
            · have hxx := (hR x' y x' y' hhead hxy').mpr (hy y' hy')
              exact absurd hxx (hr x' x' hxx)
            · exact ⟨x', hx', hxy'⟩

/-- Where the elements that meet a condition stand before the others, they
    are the first of the list. -/
theorem filter_eq_take {p : α → Bool} {l : List α}
    (hl : l.Pairwise fun a b => p b = true → p a = true) :
    l.filter p = l.take (l.filter p).length := by
  induction l with
  | nil => rfl
  | cons a l ih =>
      rcases List.pairwise_cons.mp hl with ⟨ha, htail⟩
      rcases hp : p a with _ | _
      · have hnone : l.filter p = [] := by
          refine List.filter_eq_nil_iff.mpr fun b hb h => ?_
          rw [ha b hb h] at hp
          exact Bool.noConfusion hp
        rw [List.filter_cons, hp, if_neg Bool.false_ne_true, hnone]
        rfl
      · rw [List.filter_cons, if_pos hp, List.length_cons, List.take_succ_cons, ← ih htail]

/-- Where they stand behind the others, they are the last. -/
theorem filter_eq_drop {p : α → Bool} {l : List α}
    (hl : l.Pairwise fun a b => p a = true → p b = true) :
    l.filter p = l.drop (l.length - (l.filter p).length) := by
  have htake := filter_eq_take (List.pairwise_reverse.mpr hl)
  rw [List.filter_reverse, List.length_reverse, List.take_reverse] at htake
  exact List.reverse_injective htake

end Sorting
