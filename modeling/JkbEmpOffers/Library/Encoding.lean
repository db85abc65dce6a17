import Mathlib.Tactic.Common

/-!
# Comparators Read Off an Encoding

A comparator of trees that looks at one part after another compares what it
would read if it wrote both trees out as lists of tokens. `Encodes` says so
in a form that goes through a recursion: the tokens of one value, followed by
anything, compare with those of another, followed by anything, as the values
do, and only where the values tie as what follows.

An encoding is put together from those of the parts. If the tokens are
compared by an order, then so are the values: `transCmp_of_encodes` is where
transitivity comes from, without a case distinction on three trees.

## Main definitions

* `Encodes`: The tokens of a value compare as the value does.

## Theorems

* `encodes_token`, `encodes_list`: Encodings of parts.
* `compareLex_encoding`: The comparator is that of the tokens.
* `transCmp_on`: Comparing by a part.
* `transCmp_of_encodes`: It is transitive if that one is.
-/

namespace Encoding

variable {α β τ : Type*}

/-- The tokens of `a`, before anything else, compare with those of any other
    value as `a` does with it. -/
def Encodes (t : τ → τ → Ordering) (enc : α → List τ) (cmp : α → α → Ordering) (a : α) : Prop :=
  ∀ b s u, List.compareLex t (enc a ++ s) (enc b ++ u) = (cmp a b).then (List.compareLex t s u)

variable {t : τ → τ → Ordering} {enc : α → List τ} {cmp : α → α → Ordering} {a : α}

/-- One token. -/
theorem encodes_token {f : α → τ} (h : ∀ b, cmp a b = t (f a) (f b)) :
    Encodes t (fun a => [f a]) cmp a := by
  intro b s u
  rw [List.singleton_append, List.singleton_append, List.compareLex_cons_cons, h]

/-- A list, with a token at its end that is below the first of every
    element. -/
theorem encodes_list {stop : τ} {xs : List α} (hstop : t stop stop = .eq)
    (hfirst : ∀ x, ∃ k ks, enc x = k :: ks ∧ t stop k = .lt ∧ t k stop = .gt)
    (h : ∀ x ∈ xs, Encodes t enc cmp x) :
    Encodes t (fun xs => xs.flatMap enc ++ [stop]) (List.compareLex cmp) xs := by
  intro ys s u
  induction xs generalizing ys with
  | nil =>
      cases ys with
      | nil =>
          simp only [List.flatMap_nil, List.nil_append, List.cons_append,
            List.compareLex_cons_cons, hstop, List.compareLex_nil_nil]
      | cons y ys =>
          rcases hfirst y with ⟨k, ks, hk, hlt, -⟩
          simp only [List.flatMap_nil, List.flatMap_cons, hk, List.nil_append, List.cons_append,
            List.compareLex_cons_cons, hlt, List.compareLex_nil_cons, Ordering.then]
  | cons x xs ih =>
      cases ys with
      | nil =>
          rcases hfirst x with ⟨k, ks, hk, -, hgt⟩
          simp only [List.flatMap_nil, List.flatMap_cons, hk, List.nil_append, List.cons_append,
            List.compareLex_cons_cons, hgt, List.compareLex_cons_nil, Ordering.then]
      | cons y ys =>
          have hrest := ih (fun z hz => h z (List.mem_cons_of_mem x hz)) ys
          simp only [List.flatMap_cons, List.append_assoc] at hrest ⊢
          rw [h x List.mem_cons_self, hrest, List.compareLex_cons_cons, Ordering.then_assoc]

/-- Comparing by what a function reads. -/
theorem transCmp_on (cmp : β → β → Ordering) [Std.TransCmp cmp] (f : α → β) :
    Std.TransCmp fun a b => cmp (f a) (f b) where
  eq_swap {_ _} := @Std.OrientedCmp.eq_swap _ cmp _ _ _
  isLE_trans {_ _ _} := @Std.TransCmp.isLE_trans _ cmp _ _ _ _

/-- The comparator is that of the tokens. -/
theorem compareLex_encoding (h : ∀ a, Encodes t enc cmp a) (a b : α) :
    List.compareLex t (enc a) (enc b) = cmp a b := by
  have hab := h a b [] []
  rwa [List.append_nil, List.append_nil, List.compareLex_nil_nil, Ordering.then_eq] at hab

/-- The comparator is transitive if that of the tokens is. -/
theorem transCmp_of_encodes [Std.TransCmp t] (h : ∀ a, Encodes t enc cmp a) :
    Std.TransCmp cmp where
  eq_swap {a b} := by
    rw [← compareLex_encoding h, ← compareLex_encoding h]
    exact Std.OrientedCmp.eq_swap
  isLE_trans {a b c} hab hbc := by
    rw [← compareLex_encoding h] at hab hbc ⊢
    exact Std.TransCmp.isLE_trans hab hbc

end Encoding
