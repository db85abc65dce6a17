import Mathlib.Data.List.Sort
import Mathlib.Data.List.Nodup
import Mathlib.Data.List.Pairwise
import Mathlib.Tactic.Common

/-!
# Sets and Maps as Sorted Lists

A comparator that is oriented and transitive need not tell all elements
apart. A list in strictly ascending order holds at most one element of each
class of ties, and is determined by its elements. `SortedSet` is such a list:
inserting replaces the element that ties with the new one, and erasing
removes it.

A map is a set of entries that are compared by their keys, so that no two
entries tie unless they have one key.

## Main definitions

* `SortedSet`: A strictly ascending list.
* `insertList`, `SortedSet.insert`, `SortedSet.erase`: Its operations.
* `SortedMap`: A set of entries, compared by key.
* `SortedMap.find`: The value under a key.

## Theorems

* `eq_of_mem_iff`: A strictly ascending list is determined by its elements.
* `mem_insert`, `mem_erase`: What an operation leaves in the set, and
  `mem_insert_iff`, `mem_erase_iff` where only equal elements tie.
* `size_insert`, `size_erase`: How many elements that are.
* `elements_erase_eraseIdx`, `elements_insert_insertIdx`: The operations by
  place.
* `find_insert`, `find_erase`, `find_union`, `find_filterValues`: The same for
  the values of a map.
* `ext_find`: A map is determined by its values.
-/

/-- A strictly ascending list. -/
@[ext] structure SortedSet {α : Type*} (cmp : α → α → Ordering) where
  elements : List α
  sorted : elements.Pairwise fun a b => cmp a b = .lt

namespace SortedSet

variable {α : Type*} {cmp : α → α → Ordering}

/-- An element put in its place in a list, over the first that ties. -/
def insertList (cmp : α → α → Ordering) (x : α) : List α → List α
  | [] => [x]
  | y :: ys =>
    match cmp x y with
    | .lt => x :: y :: ys
    | .eq => x :: ys
    | .gt => y :: insertList cmp x ys

/-- A list without what ties with an element. -/
def eraseList (cmp : α → α → Ordering) (x : α) (ys : List α) : List α :=
  ys.filter fun y => cmp x y != .eq

instance [DecidableEq α] : DecidableEq (SortedSet cmp) :=
  fun s t => decidable_of_iff (s.elements = t.elements) SortedSet.ext_iff.symm

/-- The set with no element. -/
def empty : SortedSet cmp := ⟨[], List.Pairwise.nil⟩

instance : Inhabited (SortedSet cmp) := ⟨empty⟩

instance : Membership α (SortedSet cmp) := ⟨fun s x => x ∈ s.elements⟩

/-- How many elements there are. -/
def size (s : SortedSet cmp) : Nat := s.elements.length

/-- Whether there is an element that ties. -/
def contains (s : SortedSet cmp) (x : α) : Bool := s.elements.any fun y => cmp x y == .eq

theorem mem_def {s : SortedSet cmp} {x : α} : x ∈ s ↔ x ∈ s.elements := Iff.rfl

@[simp] theorem not_mem_empty (x : α) : x ∉ (empty : SortedSet cmp) := List.not_mem_nil

/-- Erasing what ties with an element. -/
def erase (x : α) (s : SortedSet cmp) : SortedSet cmp :=
  ⟨eraseList cmp x s.elements, s.sorted.filter _⟩

@[simp] theorem elements_erase (x : α) (s : SortedSet cmp) :
    (s.erase x).elements = eraseList cmp x s.elements := rfl

theorem mem_erase {s : SortedSet cmp} {x z : α} : z ∈ s.erase x ↔ z ∈ s ∧ cmp x z ≠ .eq := by
  exact List.mem_filter.trans (and_congr_right fun _ => bne_iff_ne)

section Oriented

variable [Std.OrientedCmp cmp]

/-- An element ties with itself. -/
theorem cmp_self (cmp : α → α → Ordering) [Std.OrientedCmp cmp] (x : α) : cmp x x = .eq :=
  Std.ReflCmp.compare_self

/-- Ties go both ways. -/
theorem eq_comm_of_eq {x y : α} : cmp x y = .eq ↔ cmp y x = .eq := by
  rw [@Std.OrientedCmp.eq_swap _ cmp _ x y]
  cases cmp y x <;> simp only [Ordering.swap, reduceCtorEq]

/-- Where only equal elements tie, what ties with an element is that one. -/
theorem contains_iff [Std.LawfulEqCmp cmp] {s : SortedSet cmp} {x : α} :
    s.contains x = true ↔ x ∈ s := by
  rw [contains, List.any_eq_true]
  constructor
  · rintro ⟨y, hy, heq⟩
    exact Std.LawfulEqCmp.eq_of_compare (beq_iff_eq.mp heq) ▸ hy
  · exact fun hx => ⟨x, hx, beq_iff_eq.mpr (cmp_self cmp x)⟩

end Oriented

section Trans

variable [Std.TransCmp cmp]

/-- What ties with an element compares as it does. -/
theorem cmp_congr {x y : α} (h : cmp x y = .eq) (z : α) : cmp x z = cmp y z :=
  Std.TransCmp.congr_left h

/-- Inserting keeps a list in strictly ascending order. -/
theorem sorted_insertList (x : α) {ys : List α} (hys : ys.Pairwise fun a b => cmp a b = .lt) :
    (insertList cmp x ys).Pairwise fun a b => cmp a b = .lt := by
  have hmem : ∀ {ys : List α} {z : α}, z ∈ insertList cmp x ys → z = x ∨ z ∈ ys := by
    intro ys z hz
    induction ys with
    | nil => exact Or.inl (List.mem_singleton.mp hz)
    | cons y ys ih =>
        rw [insertList] at hz
        split at hz
        · exact List.mem_cons.mp hz
        · rcases List.mem_cons.mp hz with rfl | hz
          · exact Or.inl rfl
          · exact Or.inr (List.mem_cons_of_mem y hz)
        · rcases List.mem_cons.mp hz with rfl | hz
          · exact Or.inr List.mem_cons_self
          · exact (ih hz).imp_right (List.mem_cons_of_mem y)
  induction ys with
  | nil => exact List.pairwise_singleton _ _
  | cons y ys ih =>
      rcases List.pairwise_cons.mp hys with ⟨hy, htail⟩
      rw [insertList]
      split
      · rename_i hlt
        refine List.pairwise_cons.mpr ⟨fun z hz => ?_, hys⟩
        rcases List.mem_cons.mp hz with rfl | hz
        · exact hlt
        · exact Std.TransCmp.lt_trans hlt (hy z hz)
      · rename_i heq
        refine List.pairwise_cons.mpr ⟨fun z hz => ?_, htail⟩
        rw [cmp_congr heq]
        exact hy z hz
      · rename_i hgt
        refine List.pairwise_cons.mpr ⟨fun z hz => ?_, ih htail⟩
        rcases hmem hz with rfl | hz
        · exact Std.OrientedCmp.lt_of_gt hgt
        · exact hy z hz

/-- What is in a list after an element has been put in its place. -/
theorem mem_insertList {x z : α} {ys : List α} (hys : ys.Pairwise fun a b => cmp a b = .lt) :
    z ∈ insertList cmp x ys ↔ z = x ∨ z ∈ ys ∧ cmp x z ≠ .eq := by
  induction ys with
  | nil => simp only [insertList, List.mem_singleton, List.not_mem_nil, false_and, or_false]
  | cons y ys ih =>
      rcases List.pairwise_cons.mp hys with ⟨hy, htail⟩
      rw [insertList]
      split
      · -- Everything is above the new element.
        rename_i hlt
        have hne : ∀ z ∈ y :: ys, cmp x z ≠ .eq := by
          intro z hz
          have hxz : cmp x z = .lt := by
            rcases List.mem_cons.mp hz with rfl | hz
            · exact hlt
            · exact Std.TransCmp.lt_trans hlt (hy z hz)
          rw [hxz]
          exact Ordering.noConfusion
        rw [List.mem_cons]
        exact or_congr_right (iff_self_and.mpr (hne z))
      · -- Only the head ties with it.
        rename_i heq
        have hne : ∀ z ∈ ys, cmp x z ≠ .eq := by
          intro z hz
          rw [cmp_congr heq, hy z hz]
          exact Ordering.noConfusion
        rw [List.mem_cons, List.mem_cons]
        refine or_congr_right ⟨fun hz => ⟨Or.inr hz, hne z hz⟩, fun ⟨hz, hxz⟩ => ?_⟩
        rcases hz with rfl | hz
        · exact absurd heq hxz
        · exact hz
      · rename_i hgt
        have hne : cmp x y ≠ .eq := by
          rw [hgt]
          exact Ordering.noConfusion
        rw [List.mem_cons, List.mem_cons, ih htail]
        constructor
        · rintro (rfl | rfl | ⟨hz, hxz⟩)
          · exact Or.inr ⟨Or.inl rfl, hne⟩
          · exact Or.inl rfl
          · exact Or.inr ⟨Or.inr hz, hxz⟩
        · rintro (rfl | ⟨rfl | hz, hxz⟩)
          · exact Or.inr (Or.inl rfl)
          · exact Or.inl rfl
          · exact Or.inr (Or.inr ⟨hz, hxz⟩)

/-- Inserting an element, over the one that ties with it. -/
def insert (x : α) (s : SortedSet cmp) : SortedSet cmp :=
  ⟨insertList cmp x s.elements, sorted_insertList x s.sorted⟩

/-- The new element takes the place of the one that ties with it. -/
theorem mem_insert {s : SortedSet cmp} {x z : α} :
    z ∈ s.insert x ↔ z = x ∨ z ∈ s ∧ cmp x z ≠ .eq :=
  mem_insertList s.sorted

section Lawful

variable [Std.LawfulEqCmp cmp] {s : SortedSet cmp} {x z : α}

/-- Where only equal elements tie, nothing is lost. -/
theorem mem_insert_iff : z ∈ s.insert x ↔ z = x ∨ z ∈ s := by
  rw [mem_insert]
  constructor
  · exact fun h => h.imp_right And.left
  · intro h
    by_cases heq : cmp x z = .eq
    · exact Or.inl (Std.LawfulEqCmp.eq_of_compare heq).symm
    · exact h.imp_right fun hz => ⟨hz, heq⟩

/-- And only the element itself is erased. -/
theorem mem_erase_iff : z ∈ s.erase x ↔ z ∈ s ∧ z ≠ x := by
  rw [mem_erase]
  refine and_congr_right fun _ => not_congr ⟨fun h => (Std.LawfulEqCmp.eq_of_compare h).symm, ?_⟩
  rintro rfl
  exact cmp_self cmp z

end Lawful

/-- Two elements of a set do not tie. -/
theorem eq_of_cmp_eq {s : SortedSet cmp} {x y : α} (hx : x ∈ s) (hy : y ∈ s)
    (h : cmp x y = .eq) : x = y := by
  by_contra hne
  have hsymm : Std.Symm fun a b : α => cmp a b ≠ .eq :=
    ⟨fun a b hab hba => hab (eq_comm_of_eq.mp hba)⟩
  have hpair : s.elements.Pairwise fun a b => cmp a b ≠ .eq :=
    s.sorted.imp fun hlt heq => Ordering.noConfusion (hlt.symm.trans heq)
  exact hpair.forall hx hy hne h

/-- No element is there twice. -/
theorem nodup_elements (s : SortedSet cmp) : s.elements.Nodup :=
  s.sorted.imp fun {a b} (hlt : cmp a b = .lt) heq => by
    rw [heq, cmp_self cmp] at hlt
    exact Ordering.noConfusion hlt

/-- A strictly ascending list is determined by its elements. -/
theorem eq_of_mem_iff {s t : SortedSet cmp} (h : ∀ x, x ∈ s ↔ x ∈ t) : s = t := by
  have hperm : s.elements.Perm t.elements :=
    (List.perm_ext_iff_of_nodup s.nodup_elements t.nodup_elements).mpr h
  have hanti : ∀ a b, a ∈ s.elements → b ∈ t.elements → cmp a b = .lt → cmp b a = .lt → a = b :=
    fun a b _ _ hab hba => absurd (Std.OrientedCmp.gt_of_lt hab) (by
      rw [hba]
      exact Ordering.noConfusion)
  exact SortedSet.ext (hperm.eq_of_pairwise hanti s.sorted t.sorted)

/-- A set has what it has without an element, and the element. -/
theorem elements_perm_erase {s : SortedSet cmp} {x : α} (hx : x ∈ s) :
    s.elements.Perm (x :: (s.erase x).elements) := by
  have hnodup : (x :: (s.erase x).elements).Nodup :=
    List.nodup_cons.mpr ⟨fun h => (mem_erase.mp h).2 (cmp_self cmp x), (s.erase x).nodup_elements⟩
  refine (List.perm_ext_iff_of_nodup s.nodup_elements hnodup).mpr fun z => ?_
  rw [List.mem_cons]
  constructor
  · intro hz
    by_cases hxz : cmp x z = .eq
    · exact Or.inl (eq_of_cmp_eq hx hz hxz).symm
    · exact Or.inr (mem_erase.mpr ⟨hz, hxz⟩)
  · rintro (rfl | hz)
    · exact hx
    · exact (mem_erase.mp hz).1

theorem size_erase {s : SortedSet cmp} {x : α} (hx : x ∈ s) : (s.erase x).size + 1 = s.size :=
  (elements_perm_erase hx).length_eq.symm

/-- An element that ties with none makes the set larger by one. -/
theorem size_insert {s : SortedSet cmp} {x : α} (hx : ∀ z ∈ s, cmp x z ≠ .eq) :
    (s.insert x).size = s.size + 1 := by
  have hmem : x ∈ s.insert x := mem_insert.mpr (Or.inl rfl)
  have herase : (s.insert x).erase x = s := by
    refine eq_of_mem_iff fun z => ?_
    rw [mem_erase, mem_insert]
    constructor
    · rintro ⟨rfl | ⟨hz, -⟩, hne⟩
      · exact absurd (cmp_self cmp z) hne
      · exact hz
    · exact fun hz => ⟨Or.inr ⟨hz, hx z hz⟩, hx z hz⟩
  rw [← size_erase hmem, herase]

/-- The place of what ties with an element. -/
def indexOf (s : SortedSet cmp) (x : α) : Nat := s.elements.findIdx fun y => cmp x y == .eq

/-- Erasing an element is erasing at its place. -/
theorem elements_erase_eraseIdx (s : SortedSet cmp) (x : α) :
    (s.erase x).elements = s.elements.eraseIdx (s.indexOf x) := by
  have hlist : ∀ ys : List α, (ys.Pairwise fun a b => cmp a b = .lt) →
      eraseList cmp x ys = ys.eraseIdx (ys.findIdx fun y => cmp x y == .eq) := by
    intro ys hys
    induction ys with
    | nil => rfl
    | cons y ys ih =>
        rcases List.pairwise_cons.mp hys with ⟨hy, htail⟩
        rw [eraseList, List.filter_cons, List.findIdx_cons]
        by_cases heq : cmp x y = .eq
        · -- Nothing else ties.
          have hrest : ys.filter (fun y => cmp x y != .eq) = ys := by
            refine List.filter_eq_self.mpr fun z hz => bne_iff_ne.mpr fun hxz => ?_
            rw [cmp_congr heq, hy z hz] at hxz
            exact Ordering.noConfusion hxz
          rw [heq, hrest]
          rfl
        · rw [if_pos (bne_iff_ne.mpr heq), beq_eq_false_iff_ne.mpr heq, cond_false,
            List.eraseIdx_cons_succ, ← ih htail, eraseList]
  exact hlist s.elements s.sorted

/-- Inserting an element is inserting at what is then its place. -/
theorem elements_insert_insertIdx {s : SortedSet cmp} {x : α} (hx : ∀ z ∈ s, cmp x z ≠ .eq) :
    (s.insert x).elements = s.elements.insertIdx ((s.insert x).indexOf x) x := by
  have hself : (cmp x x == .eq) = true := beq_iff_eq.mpr (cmp_self cmp x)
  have hlist : ∀ ys : List α, (∀ z ∈ ys, cmp x z ≠ .eq) →
      insertList cmp x ys
        = ys.insertIdx ((insertList cmp x ys).findIdx fun y => cmp x y == .eq) x := by
    intro ys hys
    induction ys with
    | nil =>
        rw [insertList, List.findIdx_cons, hself]
        rfl
    | cons y ys ih =>
        have hy := hys y List.mem_cons_self
        rw [insertList]
        split
        · rw [List.findIdx_cons, hself]
          rfl
        · rename_i heq
          exact absurd heq hy
        · rw [List.findIdx_cons, beq_eq_false_iff_ne.mpr hy, cond_false, List.insertIdx_succ_cons,
            ← ih fun z hz => hys z (List.mem_cons_of_mem y hz)]
  exact hlist s.elements hx

/-- Erasing the last element. -/
theorem erase_getLast {s : SortedSet cmp} {x : α} (hx : s.elements.getLast? = some x) :
    (s.erase x).elements = s.elements.dropLast := by
  rcases List.getLast?_eq_some_iff.mp hx with ⟨ys, hys⟩
  have hsorted := s.sorted
  rw [hys, List.pairwise_append] at hsorted
  have hself : (cmp x x != .eq) = false := by
    rw [cmp_self cmp]
    rfl
  have hrest : ys.filter (fun y => cmp x y != .eq) = ys := by
    refine List.filter_eq_self.mpr fun y hy => bne_iff_ne.mpr fun heq => ?_
    have hlt := hsorted.2.2 y hy x List.mem_cons_self
    rw [eq_comm_of_eq.mp heq] at hlt
    exact Ordering.noConfusion hlt
  rw [elements_erase, hys, List.dropLast_concat]
  simp only [eraseList, List.filter_append, hrest, List.filter_cons, hself, Bool.false_eq_true,
    if_false, List.filter_nil, List.append_nil]

/-- Erasing the first element. -/
theorem erase_head {s : SortedSet cmp} {x : α} (hx : s.elements.head? = some x) :
    (s.erase x).elements = s.elements.tail := by
  rcases List.head?_eq_some_iff.mp hx with ⟨ys, hys⟩
  have hsorted := s.sorted
  rw [hys, List.pairwise_cons] at hsorted
  have hself : (cmp x x != .eq) = false := by
    rw [cmp_self cmp]
    rfl
  have hrest : ys.filter (fun y => cmp x y != .eq) = ys :=
    List.filter_eq_self.mpr fun y hy => bne_iff_ne.mpr fun heq =>
      Ordering.noConfusion ((hsorted.1 y hy).symm.trans heq)
  rw [elements_erase, hys, List.tail_cons]
  simp only [eraseList, List.filter_cons, hself, Bool.false_eq_true, if_false, hrest]

end Trans

end SortedSet

/-- A map: entries that are compared by their keys. -/
abbrev SortedMap {κ : Type*} (cmp : κ → κ → Ordering) (ν : Type*) :=
  SortedSet fun a b : κ × ν => cmp a.1 b.1

namespace SortedMap

variable {κ ν : Type*} {cmp : κ → κ → Ordering}

instance [Std.TransCmp cmp] : Std.TransCmp fun a b : κ × ν => cmp a.1 b.1 where
  eq_swap {_ _} := @Std.OrientedCmp.eq_swap _ cmp _ _ _
  isLE_trans {_ _ _} := @Std.TransCmp.isLE_trans _ cmp _ _ _ _

/-- The map with no key. -/
def empty : SortedMap cmp ν := SortedSet.empty

/-- The value under a key. -/
def find (m : SortedMap cmp ν) (k : κ) : Option ν :=
  (m.elements.find? fun e => cmp k e.1 == .eq).map Prod.snd

/-- Whether there is a value under a key. -/
def contains (m : SortedMap cmp ν) (k : κ) : Bool :=
  (m.find k).isSome

/-- Writing a value under a key. -/
def insert [Std.TransCmp cmp] (m : SortedMap cmp ν) (k : κ) (v : ν) : SortedMap cmp ν :=
  SortedSet.insert (k, v) m

/-- Removing a key. -/
def erase (m : SortedMap cmp ν) (k : κ) : SortedMap cmp ν :=
  ⟨m.elements.filter fun e => cmp k e.1 != .eq, m.sorted.filter _⟩

/-- The keys, in their order. -/
def keys (m : SortedMap cmp ν) : List κ :=
  m.elements.map Prod.fst

/-- What is under any key in one map, over what is in another. -/
def union [Std.TransCmp cmp] (m m' : SortedMap cmp ν) : SortedMap cmp ν :=
  m'.elements.foldr (fun e m => m.insert e.1 e.2) m

/-- The values that meet a condition. -/
def filterValues (p : ν → Bool) (m : SortedMap cmp ν) : SortedMap cmp ν :=
  ⟨m.elements.filter fun e => p e.2, m.sorted.filter _⟩

@[simp] theorem find_empty (k : κ) : (empty : SortedMap cmp ν).find k = none := rfl

theorem mem_erase {m : SortedMap cmp ν} {k : κ} {e : κ × ν} :
    e ∈ m.erase k ↔ e ∈ m ∧ cmp k e.1 ≠ .eq :=
  List.mem_filter.trans (and_congr_right fun _ => bne_iff_ne)

section Lawful

variable [Std.TransCmp cmp] [Std.LawfulEqCmp cmp] {m m' : SortedMap cmp ν} {k : κ} {v : ν}

/-- What is found is under its key. -/
theorem find_eq_some : m.find k = some v ↔ (k, v) ∈ m := by
  constructor
  · intro h
    rcases Option.map_eq_some_iff.mp h with ⟨⟨k', v'⟩, hfind, rfl⟩
    have hcmp := List.find?_some hfind
    have hmem := List.mem_of_find?_eq_some hfind
    rw [Std.LawfulEqCmp.eq_of_compare (beq_iff_eq.mp hcmp)]
    exact hmem
  · intro h
    rcases hfind : m.elements.find? fun e => cmp k e.1 == .eq with _ | ⟨k', v'⟩
    · have hself : (cmp k k == .eq) = true := beq_iff_eq.mpr (SortedSet.cmp_self cmp k)
      exact absurd hself (List.find?_eq_none.mp hfind _ h)
    · -- An entry that is found is the one under the key.
      have hcmp := List.find?_some hfind
      have heq := SortedSet.eq_of_cmp_eq h (List.mem_of_find?_eq_some hfind)
        (beq_iff_eq.mp hcmp)
      rw [find, hfind, ← heq]
      rfl

/-- And nothing is found where nothing is under the key. -/
theorem find_eq_none : m.find k = none ↔ ∀ v, (k, v) ∉ m := by
  rw [Option.eq_none_iff_forall_ne_some]
  exact forall_congr' fun v => not_congr find_eq_some

/-- A map is determined by its values. -/
theorem ext_find (h : ∀ k, m.find k = m'.find k) : m = m' := by
  refine SortedSet.eq_of_mem_iff fun e => ?_
  rw [← find_eq_some, ← find_eq_some, h]

theorem mem_insert {e : κ × ν} : e ∈ m.insert k v ↔ e = (k, v) ∨ e ∈ m ∧ e.1 ≠ k := by
  refine SortedSet.mem_insert.trans (or_congr_right (and_congr_right fun _ => ?_))
  refine not_congr ⟨fun h => (Std.LawfulEqCmp.eq_of_compare h).symm, ?_⟩
  rintro rfl
  exact SortedSet.cmp_self cmp e.1

/-- A value that is put under a key replaces the one that was there. -/
theorem find_insert [DecidableEq κ] (k' : κ) :
    (m.insert k v).find k' = if k' = k then some v else m.find k' := by
  split_ifs with h
  · rw [h]
    exact find_eq_some.mpr (mem_insert.mpr (Or.inl rfl))
  · refine Option.ext fun w => ?_
    rw [find_eq_some, find_eq_some, mem_insert]
    constructor
    · rintro (heq | ⟨hmem, -⟩)
      · exact absurd (congrArg Prod.fst heq) h
      · exact hmem
    · exact fun hmem => Or.inr ⟨hmem, h⟩

/-- A key that is erased has none. -/
theorem find_erase [DecidableEq κ] (k' : κ) :
    (m.erase k).find k' = if k' = k then none else m.find k' := by
  split_ifs with h
  · rw [h]
    exact find_eq_none.mpr fun w hmem => (mem_erase.mp hmem).2 (SortedSet.cmp_self cmp k)
  · refine Option.ext fun w => ?_
    rw [find_eq_some, find_eq_some, mem_erase]
    exact and_iff_left fun heq => h (Std.LawfulEqCmp.eq_of_compare heq).symm

/-- The values of the second map go before those of the first. -/
theorem find_union [DecidableEq κ] (k : κ) : (m.union m').find k = (m'.find k).or (m.find k) := by
  have hfold : ∀ es : List (κ × ν), (es.foldr (fun e m => m.insert e.1 e.2) m).find k
      = ((es.find? fun e => cmp k e.1 == .eq).map Prod.snd).or (m.find k) := by
    intro es
    induction es with
    | nil => rfl
    | cons e es ih =>
        rw [List.foldr_cons, find_insert, ih, List.find?_cons]
        split_ifs with h
        · rw [h, beq_iff_eq.mpr (SortedSet.cmp_self cmp e.1)]
          rfl
        · have hne : (cmp k e.1 == .eq) = false :=
            beq_eq_false_iff_ne.mpr fun heq => h (Std.LawfulEqCmp.eq_of_compare heq)
          rw [hne]
  exact hfold m'.elements

/-- Values that fail the test are not found. -/
theorem find_filterValues (p : ν → Bool) (k : κ) :
    (m.filterValues p).find k = (m.find k).filter p := by
  refine Option.ext fun v => ?_
  rw [find_eq_some, Option.filter_eq_some_iff, find_eq_some]
  exact List.mem_filter

/-- A key is there if something is under it. -/
theorem contains_iff : m.contains k = true ↔ ∃ v, (k, v) ∈ m := by
  rw [contains, Option.isSome_iff_exists]
  exact exists_congr fun v => find_eq_some

end Lawful

end SortedMap
