import JkbEmpOffers.FirestoreCore.Value

/-!
# Pending Times

A time that the server has yet to fill in is kept as a map, which says so
under one key and has the local time of its write under another. Two of them
compare by the second. The source aborts where it is missing, and so does
every comparison that comes upon such a map, at whatever depth.

Whatever writes a pending time writes both, and no document can be given a
field that is called like one of the keys. So `dated`, which says that no time
is missing, is a field of all that is compared later: of documents, of filters
and of bounds. Dated values compare without an abort.

The abort of a comparison is that of the first pair that it looks at and
cannot compare. Arrays and maps stop at the first difference, so an undated
value behind it does no harm, and `compareOrAbort` follows the source in
this. For dated values it makes no difference: by induction over how a value
nests, every pair that is looked at has an answer, and the answers are those
of `compare`. The same is done for `equals`, which in addition tells lists of
different counts apart before it looks into them.

## Main definitions

* `Value.compareOrAbort`, `Value.equalsOrAbort`: Both relations, with the
  abort of the source.
* `Value.dated`: Every pending time has a local time.

## Theorems

* `compareOrAbort_eq`, `equalsOrAbort_eq`: Dated values compare without an
  abort.
* `compare_order`: What is said of the order of values, in one statement.
-/

namespace JkbEmpOffers

namespace FirestoreCore

namespace Value

mutual

/-- `Compare`, with its abort as `none`. -/
def compareOrAbort (left right : Value) : Option ComparisonResult :=
  if left.typeOrder ≠ right.typeOrder then
    some (Ord.compare left.typeOrder.toInt right.typeOrder.toInt)
  else
    match left, right with
    | .array xs, .array ys => compareArraysOrAbort xs ys
    | .map xs, .map ys =>
      if isServerTimestamp xs then
        (getLocalWriteTime xs).bind fun left =>
          (getLocalWriteTime ys).map fun right => compareTimestamps left right
      else if isMaxValue xs then some .eq
      else compareObjectsOrAbort xs ys
    -- The other types do not nest, and none of them aborts.
    | left, right => some (compare left right)

/-- `CompareArrays`, which aborts where one of its elements does. -/
def compareArraysOrAbort : List Value → List Value → Option ComparisonResult
  | x :: xs, y :: ys =>
    (compareOrAbort x y).bind fun cmp =>
      match cmp with
      | .eq => compareArraysOrAbort xs ys
      | cmp => some cmp
  | [], [] => some .eq
  | [], _ :: _ => some .lt
  | _ :: _, [] => some .gt

/-- `CompareObjects`, which aborts where one of its values does. -/
def compareObjectsOrAbort :
    List (String × Value) → List (String × Value) → Option ComparisonResult
  | (k, x) :: xs, (l, y) :: ys =>
    match Ord.compare k l with
    | .eq =>
      (compareOrAbort x y).bind fun cmp =>
        match cmp with
        | .eq => compareObjectsOrAbort xs ys
        | cmp => some cmp
    | cmp => some cmp
  | [], [] => some .eq
  | [], _ :: _ => some .lt
  | _ :: _, [] => some .gt

end

mutual

/-- `Equals`, with its abort as `none`. Arrays and maps of different counts
    are not looked into. -/
def equalsOrAbort (lhs rhs : Value) : Option Bool :=
  if lhs.typeOrder ≠ rhs.typeOrder then some false
  else
    match lhs, rhs with
    | .array xs, .array ys =>
      if xs.length ≠ ys.length then some false else arrayEqualsOrAbort xs ys
    | .map xs, .map ys =>
      if isServerTimestamp xs then
        (getLocalWriteTime xs).bind fun left =>
          (getLocalWriteTime ys).map fun right => left == right
      else if xs.length ≠ ys.length then some false
      else objectEqualsOrAbort xs ys
    | lhs, rhs => some (equals lhs rhs)

/-- `ArrayEquals`, of equal counts. -/
def arrayEqualsOrAbort : List Value → List Value → Option Bool
  | x :: xs, y :: ys =>
    (equalsOrAbort x y).bind fun same => if same then arrayEqualsOrAbort xs ys else some false
  | _, _ => some true

/-- `ObjectEquals`, of equal counts. -/
def objectEqualsOrAbort : List (String × Value) → List (String × Value) → Option Bool
  | (k, x) :: xs, (l, y) :: ys =>
    if k == l then
      (equalsOrAbort x y).bind fun same => if same then objectEqualsOrAbort xs ys else some false
    else some false
  | _, _ => some true

end

mutual

/-- Every map that says it is a time that the server has yet to fill in has
    the local time of its write, at whatever depth. -/
def dated : Value → Bool
  | .array xs => datedValues xs
  | .map xs => (!isServerTimestamp xs || (getLocalWriteTime xs).isSome) && datedEntries xs
  | _ => true

/-- The elements of an array are dated. -/
def datedValues : List Value → Bool
  | [] => true
  | x :: xs => x.dated && datedValues xs

/-- The values of a map are dated. -/
def datedEntries : List (String × Value) → Bool
  | [] => true
  | (_, x) :: xs => x.dated && datedEntries xs

end

variable {v w : Value}

/-- An array is dated where all its elements are. -/
theorem datedValues_eq (xs : List Value) : datedValues xs = xs.all dated := by
  induction xs with
  | nil => rfl
  | cons x xs ih => rw [datedValues, ih, List.all_cons]

/-- The entries of a map are dated where all their values are. -/
theorem datedEntries_eq (xs : List (String × Value)) :
    datedEntries xs = xs.all fun e => e.2.dated := by
  induction xs with
  | nil => rfl
  | cons x xs ih => rw [datedEntries, ih, List.all_cons]

/-- So an element of a dated array is dated. -/
theorem dated_of_array {xs : List Value} (h : (array xs).dated = true) :
    ∀ x ∈ xs, x.dated = true := by
  rw [dated, datedValues_eq] at h
  exact List.all_eq_true.mp h

/-- And so is a value in a dated map. -/
theorem dated_of_map {xs : List (String × Value)} (h : (map xs).dated = true) :
    ∀ e ∈ xs, e.2.dated = true := by
  rw [dated, datedEntries_eq, Bool.and_eq_true] at h
  exact List.all_eq_true.mp h.2

/-- A pending time that is dated has a local time. -/
theorem writeTime_of_dated {xs : List (String × Value)} (h : (map xs).dated = true)
    (hserver : isServerTimestamp xs = true) : ∃ t, getLocalWriteTime xs = some t := by
  rw [dated, hserver, Bool.and_eq_true] at h
  exact Option.isSome_iff_exists.mp h.1

/-- Two arrays compare without an abort if any two of their elements do. -/
theorem compareArraysOrAbort_eq {xs ys : List Value}
    (ih : ∀ x ∈ xs, ∀ y ∈ ys, compareOrAbort x y = some (compare x y)) :
    compareArraysOrAbort xs ys = some (compareArrays xs ys) := by
  induction xs generalizing ys with
  | nil => cases ys <;> rfl
  | cons x xs ihxs =>
      cases ys with
      | nil => rfl
      | cons y ys =>
          have hrest := ihxs fun x' hx y' hy =>
            ih x' (List.mem_cons_of_mem x hx) y' (List.mem_cons_of_mem y hy)
          rw [compareArraysOrAbort, ih x List.mem_cons_self y List.mem_cons_self, compareArrays]
          cases compare x y with
          | eq => exact hrest
          | lt => rfl
          | gt => rfl

/-- Two maps, if any two of their values do. -/
theorem compareObjectsOrAbort_eq {xs ys : List (String × Value)}
    (ih : ∀ e ∈ xs, ∀ f ∈ ys, compareOrAbort e.2 f.2 = some (compare e.2 f.2)) :
    compareObjectsOrAbort xs ys = some (compareObjects xs ys) := by
  induction xs generalizing ys with
  | nil => cases ys <;> rfl
  | cons x xs ihxs =>
      cases ys with
      | nil => rfl
      | cons y ys =>
          have hrest := ihxs fun x' hx y' hy =>
            ih x' (List.mem_cons_of_mem x hx) y' (List.mem_cons_of_mem y hy)
          rw [compareObjectsOrAbort, ih x List.mem_cons_self y List.mem_cons_self, compareObjects]
          cases Ord.compare x.1 y.1 with
          | lt => rfl
          | gt => rfl
          | eq =>
              cases compare x.2 y.2 with
              | eq => exact hrest
              | lt => rfl
              | gt => rfl

/-- Values of different types are not looked into. -/
theorem compareOrAbort_of_ne (h : v.typeOrder ≠ w.typeOrder) :
    compareOrAbort v w = some (compare v w) := by
  rw [compareOrAbort.eq_def, compare.eq_def, if_pos h, if_pos h]

/-- An array, by what is known of its elements. -/
theorem compareOrAbort_array {xs : List Value}
    (ih : ∀ x ∈ xs, ∀ y, y.dated = true → compareOrAbort x y = some (compare x y))
    (hw : w.dated = true) : compareOrAbort (array xs) w = some (compare (array xs) w) := by
  by_cases htype : (array xs).typeOrder = w.typeOrder
  · cases sameType_of_eq htype with
    | array _ ys =>
        exact compareArraysOrAbort_eq fun x hx y hy => ih x hx y (dated_of_array hw y hy)
  · exact compareOrAbort_of_ne htype

/-- A map, by what is known of its values. Only here the local times matter. -/
theorem compareOrAbort_map {xs : List (String × Value)} (hxs : (map xs).dated = true)
    (ih : ∀ e ∈ xs, ∀ y, y.dated = true → compareOrAbort e.2 y = some (compare e.2 y))
    (hw : w.dated = true) : compareOrAbort (map xs) w = some (compare (map xs) w) := by
  by_cases htype : (map xs).typeOrder = w.typeOrder
  · cases sameType_of_eq htype with
    | map _ ys =>
        rw [compareOrAbort.eq_def, compare.eq_def, if_neg (not_not_intro htype),
          if_neg (not_not_intro htype)]
        rw [typeOrder, typeOrder] at htype
        dsimp only
        split_ifs at htype ⊢ with hx hy
        -- Two pending times, the greatest value twice, or two maps.
        · rcases writeTime_of_dated hxs hx with ⟨s, hs⟩
          rcases writeTime_of_dated hw hy with ⟨t, ht⟩
          rw [hs, ht]
          rfl
        · rfl
        · exact compareObjectsOrAbort_eq fun e he f hf => ih e he f.2 (dated_of_map hw f hf)
  · exact compareOrAbort_of_ne htype

/-- The types that do not nest. -/
theorem compareOrAbort_scalar (harray : ∀ xs, v ≠ .array xs) (hmap : ∀ xs, v ≠ .map xs) :
    compareOrAbort v w = some (compare v w) := by
  by_cases htype : v.typeOrder = w.typeOrder
  · cases sameType_of_eq htype with
    | array xs ys => exact absurd rfl (harray xs)
    | map xs ys _ => exact absurd rfl (hmap xs)
    | _ => rfl
  · exact compareOrAbort_of_ne htype

/-- Dated values compare without an abort. -/
theorem compareOrAbort_eq (v w : Value) (hv : v.dated = true) (hw : w.dated = true) :
    compareOrAbort v w = some (compare v w) := by
  refine induct (P := fun v => v.dated = true → ∀ w, w.dated = true →
      compareOrAbort v w = some (compare v w))
    (fun v harray hmap _ w _ => compareOrAbort_scalar harray hmap) (fun xs ih hv w hw => ?_)
    (fun xs ih hv w hw => ?_) v hv w hw
  · exact compareOrAbort_array (fun x hx => ih x hx (dated_of_array hv x hx)) hw
  · exact compareOrAbort_map hv (fun e he => ih e he (dated_of_map hv e he)) hw

/-- Equal arrays have one count, so the test of the counts changes nothing. -/
theorem length_of_arrayEquals {xs ys : List Value} (h : arrayEquals xs ys = true) :
    xs.length = ys.length := by
  induction xs generalizing ys with
  | nil =>
      cases ys with
      | nil => rfl
      | cons y ys => exact absurd h Bool.false_ne_true
  | cons x xs ih =>
      cases ys with
      | nil => exact absurd h Bool.false_ne_true
      | cons y ys =>
          rw [arrayEquals, Bool.and_eq_true] at h
          rw [List.length_cons, List.length_cons, ih h.2]

/-- And so have equal maps. -/
theorem length_of_objectEquals {xs ys : List (String × Value)} (h : objectEquals xs ys = true) :
    xs.length = ys.length := by
  induction xs generalizing ys with
  | nil =>
      cases ys with
      | nil => rfl
      | cons y ys => exact absurd h Bool.false_ne_true
  | cons x xs ih =>
      cases ys with
      | nil => exact absurd h Bool.false_ne_true
      | cons y ys =>
          rw [objectEquals, Bool.and_eq_true] at h
          rw [List.length_cons, List.length_cons, ih h.2]

/-- Two arrays of one count, if any two of their elements are tested. -/
theorem arrayEqualsOrAbort_eq {xs ys : List Value} (hlength : xs.length = ys.length)
    (ih : ∀ x ∈ xs, ∀ y ∈ ys, equalsOrAbort x y = some (equals x y)) :
    arrayEqualsOrAbort xs ys = some (arrayEquals xs ys) := by
  induction xs generalizing ys with
  | nil =>
      rw [List.length_eq_zero_iff.mp hlength.symm]
      rfl
  | cons x xs ihxs =>
      cases ys with
      | nil => exact absurd hlength (Nat.succ_ne_zero _)
      | cons y ys =>
          have hrest := ihxs (Nat.succ.inj hlength) fun x' hx y' hy =>
            ih x' (List.mem_cons_of_mem x hx) y' (List.mem_cons_of_mem y hy)
          rw [arrayEqualsOrAbort, ih x List.mem_cons_self y List.mem_cons_self, arrayEquals]
          cases equals x y with
          | false => rfl
          | true => exact hrest

/-- Two maps of one count, if any two of their values are. -/
theorem objectEqualsOrAbort_eq {xs ys : List (String × Value)} (hlength : xs.length = ys.length)
    (ih : ∀ e ∈ xs, ∀ f ∈ ys, equalsOrAbort e.2 f.2 = some (equals e.2 f.2)) :
    objectEqualsOrAbort xs ys = some (objectEquals xs ys) := by
  induction xs generalizing ys with
  | nil =>
      rw [List.length_eq_zero_iff.mp hlength.symm]
      rfl
  | cons x xs ihxs =>
      cases ys with
      | nil => exact absurd hlength (Nat.succ_ne_zero _)
      | cons y ys =>
          have hrest := ihxs (Nat.succ.inj hlength) fun x' hx y' hy =>
            ih x' (List.mem_cons_of_mem x hx) y' (List.mem_cons_of_mem y hy)
          rw [objectEqualsOrAbort, ih x List.mem_cons_self y List.mem_cons_self, objectEquals]
          cases x.1 == y.1 with
          | false => rfl
          | true =>
              cases equals x.2 y.2 with
              | false => rfl
              | true => exact hrest

/-- Values of different types differ, whatever they hold. -/
theorem equalsOrAbort_of_ne (h : v.typeOrder ≠ w.typeOrder) :
    equalsOrAbort v w = some (equals v w) := by
  rw [equalsOrAbort.eq_def, equals.eq_def, if_pos h, if_pos h]

/-- An array, by what is known of its elements. -/
theorem equalsOrAbort_array {xs : List Value}
    (ih : ∀ x ∈ xs, ∀ y, y.dated = true → equalsOrAbort x y = some (equals x y))
    (hw : w.dated = true) : equalsOrAbort (array xs) w = some (equals (array xs) w) := by
  by_cases htype : (array xs).typeOrder = w.typeOrder
  · cases sameType_of_eq htype with
    | array _ ys =>
        have hequals : equals (array xs) (array ys) = arrayEquals xs ys := rfl
        rw [equalsOrAbort.eq_def, if_neg (not_not_intro htype), hequals]
        dsimp only
        split_ifs with hlength
        · have hne : arrayEquals xs ys = false :=
            Bool.eq_false_iff.mpr fun h => hlength (length_of_arrayEquals h)
          rw [hne]
        · exact arrayEqualsOrAbort_eq (not_not.mp hlength)
            fun x hx y hy => ih x hx y (dated_of_array hw y hy)
  · exact equalsOrAbort_of_ne htype

/-- A map, by what is known of its values. -/
theorem equalsOrAbort_map {xs : List (String × Value)} (hxs : (map xs).dated = true)
    (ih : ∀ e ∈ xs, ∀ y, y.dated = true → equalsOrAbort e.2 y = some (equals e.2 y))
    (hw : w.dated = true) : equalsOrAbort (map xs) w = some (equals (map xs) w) := by
  by_cases htype : (map xs).typeOrder = w.typeOrder
  · cases sameType_of_eq htype with
    | map _ ys =>
        rw [equalsOrAbort.eq_def, equals.eq_def, if_neg (not_not_intro htype),
          if_neg (not_not_intro htype)]
        dsimp only
        by_cases hx : isServerTimestamp xs = true
        -- The other one is a pending time as well, being of the same type.
        · have hy : isServerTimestamp ys = true := by
            by_contra hy
            rw [typeOrder, typeOrder, if_pos hx, if_neg hy] at htype
            split_ifs at htype
          rcases writeTime_of_dated hxs hx with ⟨s, hs⟩
          rcases writeTime_of_dated hw hy with ⟨t, ht⟩
          rw [if_pos hx, if_pos hx, hs, ht]
          rfl
        · rw [if_neg hx, if_neg hx]
          split_ifs with hlength
          · have hne : objectEquals xs ys = false :=
              Bool.eq_false_iff.mpr fun h => hlength (length_of_objectEquals h)
            rw [hne]
          · exact objectEqualsOrAbort_eq (not_not.mp hlength)
              fun e he f hf => ih e he f.2 (dated_of_map hw f hf)
  · exact equalsOrAbort_of_ne htype

/-- The types that do not nest. -/
theorem equalsOrAbort_scalar (harray : ∀ xs, v ≠ .array xs) (hmap : ∀ xs, v ≠ .map xs) :
    equalsOrAbort v w = some (equals v w) := by
  by_cases htype : v.typeOrder = w.typeOrder
  · cases sameType_of_eq htype with
    | array xs ys => exact absurd rfl (harray xs)
    | map xs ys _ => exact absurd rfl (hmap xs)
    | _ => rfl
  · exact equalsOrAbort_of_ne htype

/-- Dated values are tested for equality without an abort. -/
theorem equalsOrAbort_eq (v w : Value) (hv : v.dated = true) (hw : w.dated = true) :
    equalsOrAbort v w = some (equals v w) := by
  refine induct (P := fun v => v.dated = true → ∀ w, w.dated = true →
      equalsOrAbort v w = some (equals v w))
    (fun v harray hmap _ w _ => equalsOrAbort_scalar harray hmap) (fun xs ih hv w hw => ?_)
    (fun xs ih hv w hw => ?_) v hv w hw
  · exact equalsOrAbort_array (fun x hx => ih x hx (dated_of_array hv x hx)) hw
  · exact equalsOrAbort_map hv (fun e he => ih e he (dated_of_map hv e he)) hw

/-- Dated values, whatever they are and however they nest, compare without an
    abort. Their comparison is an order in which any two values compare, and
    equal values tie. -/
theorem compare_order :
    (∀ v w, v.dated = true → w.dated = true →
      compareOrAbort v w = some (compare v w) ∧ equalsOrAbort v w = some (equals v w)) ∧
      (∀ v w, compare v w = (compare w v).swap) ∧
      (∀ u v w, (compare u v).isLE → (compare v w).isLE → (compare u w).isLE) ∧
      ∀ v w, equals v w = true → compare v w = .eq :=
  ⟨fun v w hv hw => ⟨compareOrAbort_eq v w hv hw, equalsOrAbort_eq v w hv hw⟩,
    fun _ _ => Std.OrientedCmp.eq_swap, fun _ _ _ => Std.TransCmp.isLE_trans, compare_of_equals⟩

/-- A map that only looks like a pending time aborts even against itself. -/
example :
    let undated := map [(typeKey, .string serverTimestampSentinel)]
    compareOrAbort undated undated = none ∧ equalsOrAbort undated undated = none :=
  ⟨rfl, rfl⟩

end Value

end FirestoreCore

end JkbEmpOffers
