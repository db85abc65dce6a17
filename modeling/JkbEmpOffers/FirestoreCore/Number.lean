import Mathlib.Algebra.Order.Ring.Int
import Mathlib.Data.Nat.Log
import Mathlib.Tactic.Linarith
import Mathlib.Tactic.Ring
import Mathlib.Tactic.Common

/-!
# Comparing Numbers

A field may hold a 64-bit integer or a double, and an order by that field has
to put the two kinds in one line. The comparison of a double with an integer
casts both ways: the double to an integer first, and where that ties the
integer to a double, which rounds above 2^53. The comments of the source
argue that no case is lost. `compareMixedNumber_eq` is that argument: for
every double and every integer the answer is the order of the two numbers,
with NaN before all of them.

A double is given by its three fields. Every finite one is a multiple of
2^-1074, so `scaled` is its value as an integer in that unit; the two
infinities have the value that their fields would stand for, which is beyond
all others.

## Main definitions

* `ComparisonResult`: The result of a comparison.
* `Double`: A double by its fields, `Double.scaled` its value.
* `Double.toInt64`, `Double.ofInt64`: The two casts.
* `compareDouble`, `compareMixedNumber`: The comparisons.
* `Double.key`, `intKey`: Where a number stands in the order of all.

## Theorems

* `scaled_ofInt64`: Casting a number that a double can hold is exact.
* `toInt64_exact`: A cast double whose result ties casts back exactly.
* `compareDouble_eq`, `compareMixedNumber_eq`: Both comparisons are that of
  the keys.
-/

namespace JkbEmpOffers

namespace FirestoreCore

/-- `ComparisonResult`: `Ascending`, `Same` and `Descending`. -/
abbrev ComparisonResult := Ordering

/-- `ReverseOrder` -/
abbrev reverseOrder (result : ComparisonResult) : ComparisonResult := result.swap

/-- A double. -/
structure Double where
  negative : Bool
  exponent : Fin 0x800
  fraction : Fin 0x10000000000000
  deriving DecidableEq

namespace Double

/-- 1.0 in the unit of `scaled`. -/
def one : Nat := 2 ^ 1074

/-- `isnan` -/
def isnan (d : Double) : Bool :=
  d.exponent = 0x7FF ∧ d.fraction ≠ 0

/-- The digits of a double, with the leading one that is not stored. -/
def significand (d : Double) : Nat :=
  if d.exponent = 0 then d.fraction else 0x10000000000000 + d.fraction

/-- The absolute value, in units of 2^-1074. -/
def magnitude (d : Double) : Nat :=
  d.significand * 2 ^ (d.exponent.val - 1)

/-- The value, in units of 2^-1074. -/
def scaled (d : Double) : Int :=
  if d.negative then -d.magnitude else d.magnitude

/-- `<`, false when one of them is not a number. -/
def lt (left right : Double) : Bool :=
  !left.isnan && !right.isnan && left.scaled < right.scaled

/-- `==` -/
def eq (left right : Double) : Bool :=
  !left.isnan && !right.isnan && left.scaled == right.scaled

/-- `static_cast<int64_t>`, towards zero. It is only used in range. -/
def toInt64 (d : Double) : Int64 :=
  Int64.ofInt (d.scaled.tdiv one)

/-- Dropping the last `s` binary digits, to the nearest and to even where
    there are two. -/
def roundHalfEven (m s : Nat) : Nat :=
  let q := m / 2 ^ s
  let r := m % 2 ^ s
  if 2 ^ s < 2 * r ∨ 2 ^ s = 2 * r ∧ q % 2 = 1 then q + 1 else q

/-- The double closest to an integer that is given by its sign and its
    absolute value. -/
def fromMagnitude (negative : Bool) (m : Nat) : Double :=
  let e := m.log2
  if m = 0 then ⟨false, 0, 0⟩
  else if e ≤ 52 then ⟨negative, Fin.ofNat _ (1023 + e), Fin.ofNat _ (m * 2 ^ (52 - e))⟩
  else
    let q := roundHalfEven m (e - 52)
    -- Rounding up may need one more digit.
    if q = 0x20000000000000 then ⟨negative, Fin.ofNat _ (1024 + e), 0⟩
    else ⟨negative, Fin.ofNat _ (1023 + e), Fin.ofNat _ q⟩

/-- `static_cast<double>` -/
def ofInt64 (n : Int64) : Double :=
  fromMagnitude (n.toInt < 0) n.toInt.natAbs

/-- Where a double stands among all numbers. -/
def key (d : Double) : Int × Int :=
  if d.isnan then (0, 0) else (1, d.scaled)

end Double

/-- `Comparator<double>::Compare` -/
def compareDouble (left right : Double) : ComparisonResult :=
  if left.lt right then .lt
  else if right.lt left then .gt
  else if left.eq right then .eq
  else if !right.isnan then .lt
  else if !left.isnan then .gt
  else .eq

/-- `CompareMixedNumber` -/
def compareMixedNumber (doubleValue : Double) (int64Value : Int64) : ComparisonResult :=
  if doubleValue.lt (Double.ofInt64 Int64.minValue) then .lt
  -- `>=`
  else if (Double.ofInt64 Int64.maxValue).lt doubleValue ||
      (Double.ofInt64 Int64.maxValue).eq doubleValue then .gt
  else if doubleValue.isnan then .lt
  else
    match compare doubleValue.toInt64.toInt int64Value.toInt with
    | .eq => compareDouble doubleValue (Double.ofInt64 int64Value)
    | cmp => cmp

/-- Where an integer stands among all numbers. -/
def intKey (n : Int64) : Int × Int :=
  (1, n.toInt * Double.one)

/-- The order of all numbers. -/
def compareKey : Int × Int → Int × Int → ComparisonResult :=
  compareLex (compareOn Prod.fst) (compareOn Prod.snd)

instance : Std.TransCmp compareKey :=
  inferInstanceAs (Std.TransCmp (compareLex (compareOn Prod.fst) (compareOn Prod.snd)))

namespace Double

variable {d : Double}

theorem one_eq {n : Nat} (h : 1074 = n) : one = 2 ^ n :=
  congrArg (fun n => 2 ^ n) h

theorem one_pos : 0 < one := by
  obtain ⟨n, hn⟩ : ∃ n, one = 2 ^ n := ⟨1074, one_eq rfl⟩
  rw [hn]
  exact Nat.two_pow_pos n

/-- A significand has 53 bits. -/
theorem significand_lt (d : Double) : d.significand < 0x20000000000000 := by
  have hfraction := d.fraction.isLt
  rw [significand]
  split_ifs <;> omega

/-- The fields of a number that is not too small. -/
theorem magnitude_normal (negative : Bool) {e q : Nat} (he : e < 1024)
    (hq : 0x10000000000000 ≤ q) (hq' : q < 0x20000000000000) :
    magnitude ⟨negative, Fin.ofNat _ (1023 + e), Fin.ofNat _ q⟩ = q * 2 ^ (1022 + e) := by
  have hexponent : (Fin.ofNat 0x800 (1023 + e)).val = 1023 + e :=
    Nat.mod_eq_of_lt (show 1023 + e < 0x800 by omega)
  have hfraction : (Fin.ofNat 0x10000000000000 q).val = q - 0x10000000000000 := by
    rw [Fin.val_ofNat]
    omega
  have hne : Fin.ofNat 0x800 (1023 + e) ≠ 0 := by
    rw [Ne, ← Fin.val_inj, hexponent]
    exact Nat.succ_ne_zero _ ∘ (Nat.add_comm e 1023).trans
  rw [magnitude, significand, if_neg hne, hexponent, hfraction, Nat.add_sub_cancel' hq,
    show 1023 + e - 1 = 1022 + e by omega]

/-- A number with at most 53 digits before its trailing zeros, which is in
    the range of the integers, is cast exactly. -/
theorem magnitude_fromMagnitude (negative : Bool) {m : Nat} (hm : m < 0x10000000000000000)
    (hdigits : ∃ M k, m = M * 2 ^ k ∧ M < 0x20000000000000) :
    (fromMagnitude negative m).magnitude = m * one := by
  by_cases hzero : m = 0
  · rw [fromMagnitude, if_pos hzero, hzero, Nat.zero_mul]
    rfl
  have hle : 2 ^ m.log2 ≤ m := Nat.log2_self_le hzero
  have hlt : m < 2 ^ (m.log2 + 1) := Nat.lt_log2_self
  have he : m.log2 < 64 := (Nat.log2_lt hzero).mpr hm
  simp only [fromMagnitude, if_neg hzero]
  generalize m.log2 = e at hle hlt he
  by_cases h52 : e ≤ 52
  · -- All digits fit.
    have hpow : 2 ^ e * 2 ^ (52 - e) = 0x10000000000000 := by
      rw [← Nat.pow_add, Nat.add_sub_cancel' h52]
    have hlow : 0x10000000000000 ≤ m * 2 ^ (52 - e) := by
      rw [← hpow]
      exact Nat.mul_le_mul_right _ hle
    have hhigh : m * 2 ^ (52 - e) < 0x20000000000000 := calc
      m * 2 ^ (52 - e) < 2 ^ (e + 1) * 2 ^ (52 - e) :=
        Nat.mul_lt_mul_of_pos_right hlt (Nat.two_pow_pos _)
      _ = 0x20000000000000 := by rw [Nat.pow_succ, Nat.mul_right_comm, hpow]
    rw [if_pos h52, magnitude_normal negative (by omega) hlow hhigh, Nat.mul_assoc,
      ← Nat.pow_add, ← one_eq (by omega)]
  · -- The digits that do not fit are zeros.
    obtain ⟨M, k, rfl, hM⟩ := hdigits
    have hek : 2 ^ e < 2 ^ (53 + k) := calc
      2 ^ e ≤ M * 2 ^ k := hle
      _ < 0x20000000000000 * 2 ^ k := Nat.mul_lt_mul_of_pos_right hM (Nat.two_pow_pos _)
      _ = 2 ^ (53 + k) := by rw [Nat.pow_add]
    have hdvd : 2 ^ (e - 52) ∣ M * 2 ^ k := by
      have hk := (Nat.pow_lt_pow_iff_right Nat.one_lt_two).mp hek
      exact Dvd.dvd.mul_left (pow_dvd_pow 2 (by omega)) M
    obtain ⟨q, hq⟩ := hdvd
    have hround : roundHalfEven (M * 2 ^ k) (e - 52) = q := by
      have hpos : 0 < 2 ^ (e - 52) := Nat.two_pow_pos _
      rw [roundHalfEven, hq, Nat.mul_mod_right, Nat.mul_div_cancel_left _ hpos]
      exact if_neg (by omega)
    have hsplit : 2 ^ e = 2 ^ (e - 52) * 0x10000000000000 := by
      rw [show (0x10000000000000 : Nat) = 2 ^ 52 from rfl, ← Nat.pow_add,
        Nat.sub_add_cancel (by omega)]
    rw [hq, Nat.pow_succ, hsplit] at hlt
    rw [hq, hsplit] at hle
    have hlow := Nat.le_of_mul_le_mul_left hle (Nat.two_pow_pos _)
    rw [Nat.mul_assoc] at hlt
    have hhigh : q < 0x20000000000000 := Nat.lt_of_mul_lt_mul_left hlt
    rw [if_neg h52, hround, if_neg (by omega), magnitude_normal negative (by omega) hlow hhigh,
      hq, Nat.mul_comm _ q, Nat.mul_assoc, one_eq (show 1074 = 1022 + e - (e - 52) by omega),
      ← Nat.pow_add, Nat.add_sub_cancel' (by omega)]

/-- What is not zero has the sign that it is given. -/
theorem negative_fromMagnitude (negative : Bool) {m : Nat} (hm : m ≠ 0) :
    (fromMagnitude negative m).negative = negative := by
  rw [fromMagnitude]
  simp only [if_neg hm]
  split_ifs <;> rfl

/-- No integer of 64 bits becomes NaN. -/
theorem isnan_fromMagnitude (negative : Bool) {m : Nat} (hm : m < 0x10000000000000000) :
    (fromMagnitude negative m).isnan = false := by
  have hexponent : (fromMagnitude negative m).exponent.val < 0x7FF := by
    rw [fromMagnitude]
    by_cases hzero : m = 0
    · simp only [if_pos hzero]
      decide
    · have he : m.log2 < 64 := (Nat.log2_lt hzero).mpr hm
      simp only [if_neg hzero]
      split_ifs <;> simp only [Fin.val_ofNat] <;> omega
  rw [isnan, decide_eq_false_iff_not]
  rintro ⟨h, -⟩
  rw [h] at hexponent
  exact absurd hexponent (by decide)

/-- The magnitude of an integer has 64 bits. -/
theorem natAbs_lt (n : Int64) : n.toInt.natAbs < 0x10000000000000000 := by
  have hlow := n.le_toInt
  have hhigh := n.toInt_lt
  omega

/-- So the cast of an integer is a number. -/
theorem isnan_ofInt64 (n : Int64) : (ofInt64 n).isnan = false :=
  isnan_fromMagnitude _ (natAbs_lt n)

/-- Casting an integer to a double is exact if a double can hold it. -/
theorem scaled_ofInt64 {n : Int64}
    (hdigits : ∃ M k, n.toInt.natAbs = M * 2 ^ k ∧ M < 0x20000000000000) :
    (ofInt64 n).scaled = n.toInt * one := by
  rw [ofInt64, scaled, magnitude_fromMagnitude _ (natAbs_lt n) hdigits]
  by_cases hzero : n.toInt.natAbs = 0
  · rw [hzero, Nat.zero_mul, Int.natAbs_eq_zero.mp hzero, Int.zero_mul]
    split_ifs <;> rfl
  · rw [negative_fromMagnitude _ hzero, Nat.cast_mul]
    by_cases hneg : n.toInt < 0
    · rw [if_pos (decide_eq_true hneg), Int.ofNat_natAbs_of_nonpos (by omega), Int.neg_mul,
        Int.neg_neg]
    · rw [if_neg (by rw [decide_eq_true_eq]; exact hneg), Int.natAbs_of_nonneg (by omega)]

/-- Where the casts of a double and an integer to the smaller kind tie, the
    other cast is exact: either the double has no digits after the point, or
    it is below 2^53. -/
theorem toInt64_exact {n : Int64} (h : (d.scaled.tdiv one).natAbs = n.toInt.natAbs) :
    (ofInt64 n).scaled = n.toInt * one := by
  refine scaled_ofInt64 ?_
  have habs : d.scaled.natAbs = d.magnitude := by
    rw [scaled]
    split_ifs
    · rw [Int.natAbs_neg, Int.natAbs_natCast]
    · rw [Int.natAbs_natCast]
  rw [← h, Int.natAbs_tdiv, habs, Int.natAbs_natCast, magnitude]
  by_cases hshift : 1074 ≤ d.exponent.val - 1
  · refine ⟨d.significand, d.exponent.val - 1 - 1074, ?_, significand_lt d⟩
    have hsplit : 2 ^ (d.exponent.val - 1) = 2 ^ (d.exponent.val - 1 - 1074) * one := by
      rw [one_eq (show 1074 = d.exponent.val - 1 - (d.exponent.val - 1 - 1074) by omega),
        ← Nat.pow_add, Nat.add_sub_cancel' (by omega)]
    rw [hsplit, ← Nat.mul_assoc]
    exact Nat.mul_div_cancel _ one_pos
  · have hle : d.significand * 2 ^ (d.exponent.val - 1) / one ≤ d.significand := by
      obtain ⟨n, hn⟩ : ∃ n, 1074 = n := ⟨1074, rfl⟩
      refine Nat.div_le_of_le_mul ?_
      rw [Nat.mul_comm, one_eq hn]
      exact Nat.mul_le_mul_right _ (Nat.pow_le_pow_right (by omega) (by omega))
    exact ⟨_, 0, (Nat.mul_one _).symm, Nat.lt_of_le_of_lt hle (significand_lt d)⟩

/-- A quotient that is cut off is below an integer only if the number is. -/
theorem lt_of_tdiv_lt {a b n : Int} (hb : 0 < b) (h : a.tdiv b < n) : a < n * b := by
  have hsplit := Int.mul_tdiv_add_tmod a b
  have hlow := Int.tmod_lt_of_pos a hb
  have hmul : b * (a.tdiv b + 1) ≤ b * n := Int.mul_le_mul_of_nonneg_left h hb.le
  rw [Int.mul_comm n]
  linarith

theorem lt_of_lt_tdiv {a b n : Int} (hb : 0 < b) (h : n < a.tdiv b) : n * b < a := by
  have hsplit := Int.mul_tdiv_add_tmod a b
  have hhigh := Int.lt_tmod_of_pos a hb
  have hmul : b * (n + 1) ≤ b * a.tdiv b := Int.mul_le_mul_of_nonneg_left h hb.le
  rw [Int.mul_comm n]
  linarith

/-- Nor does it leave the range in which the number is. -/
theorem tdiv_lt {a b n : Int} (hb : 0 < b) (hn : 0 < n) (h : a < n * b) : a.tdiv b < n := by
  rcases Int.le_total 0 a with ha | ha
  · rw [Int.tdiv_eq_ediv_of_nonneg ha]
    exact Int.ediv_lt_of_lt_mul hb h
  · have hneg : 0 ≤ (-a).tdiv b := Int.tdiv_nonneg (Int.neg_nonneg_of_nonpos ha) hb.le
    rw [Int.neg_tdiv] at hneg
    omega

/-- A number is ordered by its value, in units of the smallest one. -/
theorem key_of_number (h : d.isnan = false) : d.key = (1, d.scaled) := by
  rw [key, h, if_neg Bool.false_ne_true]

/-- Every NaN is before all numbers. -/
theorem key_of_nan (h : d.isnan = true) : d.key = (0, 0) := by
  rw [key, h, if_pos rfl]

/-- `<` of two numbers is that of their values. -/
theorem lt_iff {left right : Double} (hleft : left.isnan = false) (hright : right.isnan = false) :
    left.lt right = true ↔ left.scaled < right.scaled := by
  rw [lt, hleft, hright]
  simp only [Bool.not_false, Bool.and_self, Bool.true_and, decide_eq_true_eq]

/-- And so is `==`. -/
theorem eq_iff {left right : Double} (hleft : left.isnan = false) (hright : right.isnan = false) :
    left.eq right = true ↔ left.scaled = right.scaled := by
  rw [eq, hleft, hright]
  simp only [Bool.not_false, Bool.and_self, Bool.true_and, beq_iff_eq]

/-- So it is transitive, NaN being equal to nothing. -/
theorem eq_trans {a b c : Double} (hab : a.eq b = true) (hbc : b.eq c = true) :
    a.eq c = true := by
  simp only [eq, Bool.and_eq_true, Bool.not_eq_true', beq_iff_eq] at hab hbc ⊢
  exact ⟨⟨hab.1.1, hbc.1.2⟩, hab.2.trans hbc.2⟩

/-- Nothing is less than NaN, or equal to it, nor the other way round. -/
theorem not_lt_of_nan {left right : Double} (h : left.isnan = true ∨ right.isnan = true) :
    left.lt right = false ∧ left.eq right = false := by
  rw [lt, eq]
  rcases h with h | h <;>
    simp only [h, Bool.not_true, Bool.false_and, Bool.and_false, and_self]

end Double

/-- A unit does not matter for the order. -/
theorem compare_mul_one (m n : Int) :
    compare (m * Double.one) (n * Double.one) = compare m n := by
  have hpos : (0 : Int) < Double.one := Int.natCast_pos.mpr Double.one_pos
  rcases lt_trichotomy m n with h | h | h
  · rw [Int.compare_eq_lt.mpr h, Int.compare_eq_lt]
    exact Int.mul_lt_mul_of_pos_right h hpos
  · rw [h]
    exact (Int.compare_eq_eq.mpr rfl).trans (Int.compare_eq_eq.mpr rfl).symm
  · rw [Int.compare_eq_gt.mpr h, Int.compare_eq_gt]
    exact Int.mul_lt_mul_of_pos_right h hpos

theorem compareKey_numbers (m n : Int) : compareKey (1, m) (1, n) = compare m n :=
  rfl

/-- Doubles compare by their values, NaN before all others. -/
theorem compareDouble_eq (left right : Double) :
    compareDouble left right = compareKey left.key right.key := by
  rw [compareDouble]
  rcases hleft : left.isnan with _ | _ <;> rcases hright : right.isnan with _ | _
  · rw [Double.key_of_number hleft, Double.key_of_number hright, compareKey_numbers]
    rcases lt_trichotomy left.scaled right.scaled with h | h | h
    · rw [if_pos ((Double.lt_iff hleft hright).mpr h), Int.compare_eq_lt.mpr h]
    · rw [if_neg (fun hlt => absurd ((Double.lt_iff hleft hright).mp hlt) (by omega)),
        if_neg (fun hlt => absurd ((Double.lt_iff hright hleft).mp hlt) (by omega)),
        if_pos ((Double.eq_iff hleft hright).mpr h), Int.compare_eq_eq.mpr h]
    · rw [if_neg (fun hlt => absurd ((Double.lt_iff hleft hright).mp hlt) (by omega)),
        if_pos ((Double.lt_iff hright hleft).mpr h), Int.compare_eq_gt.mpr h]
  all_goals
    have hnan : left.isnan = true ∨ right.isnan = true := by simp only [hleft, hright, or_true,
      true_or]
    rw [(Double.not_lt_of_nan hnan).1, (Double.not_lt_of_nan hnan).2,
      (Double.not_lt_of_nan hnan.symm).1, Double.key, Double.key, hleft, hright]
    rfl

/-- The least integer is a double. -/
theorem scaled_minValue :
    (Double.ofInt64 Int64.minValue).scaled = -0x8000000000000000 * Double.one := by
  decide +kernel

/-- The greatest integer is rounded up. -/
theorem scaled_maxValue :
    (Double.ofInt64 Int64.maxValue).scaled = 0x8000000000000000 * Double.one := by
  decide +kernel

/-- A double compares with an integer by its value, for all doubles and all
    integers. -/
theorem compareMixedNumber_eq (doubleValue : Double) (int64Value : Int64) :
    compareMixedNumber doubleValue int64Value
      = compareKey doubleValue.key (intKey int64Value) := by
  have hmin := Double.isnan_ofInt64 Int64.minValue
  have hmax := Double.isnan_ofInt64 Int64.maxValue
  rw [compareMixedNumber]
  rcases hnan : doubleValue.isnan with _ | _
  · rw [Double.key_of_number hnan, intKey, compareKey_numbers]
    have hpos : (0 : Int) < Double.one := Int.natCast_pos.mpr Double.one_pos
    have hlow := Int.mul_le_mul_of_nonneg_right int64Value.le_toInt hpos.le
    have hhigh := Int.mul_lt_mul_of_pos_right int64Value.toInt_lt hpos
    rw [Double.lt, hnan, hmin, Double.lt, hmax, Double.eq, hmax, hnan, scaled_minValue,
      scaled_maxValue]
    simp only [Bool.not_false, Bool.and_self, Bool.true_and, Bool.or_eq_true, decide_eq_true_eq,
      beq_iff_eq, Bool.false_eq_true, if_false]
    -- Out of the range of the integers the answer is clear.
    split_ifs with hbelow habove
    · rw [eq_comm, Int.compare_eq_lt]
      omega
    · rw [eq_comm, Int.compare_eq_gt]
      omega
    · have hrange : doubleValue.toInt64.toInt = doubleValue.scaled.tdiv Double.one := by
        refine Int64.toInt_ofInt_of_le ?_ (Double.tdiv_lt hpos (by decide) (by omega))
        by_contra hlt
        exact hbelow (Double.lt_of_tdiv_lt hpos (Int.not_le.mp hlt))
      rw [hrange]
      rcases lt_trichotomy (doubleValue.scaled.tdiv Double.one) int64Value.toInt with h | h | h
      · rw [Int.compare_eq_lt.mpr h, eq_comm, Int.compare_eq_lt]
        exact Double.lt_of_tdiv_lt hpos h
      · rw [Int.compare_eq_eq.mpr h, compareDouble_eq, Double.key_of_number hnan,
          Double.key_of_number (Double.isnan_ofInt64 _), compareKey_numbers,
          Double.toInt64_exact (congrArg Int.natAbs h)]
      · rw [Int.compare_eq_gt.mpr h, eq_comm, Int.compare_eq_gt]
        exact Double.lt_of_lt_tdiv hpos h
  · -- NaN is neither below the least integer nor above the greatest.
    rw [(Double.not_lt_of_nan (Or.inl hnan)).1, (Double.not_lt_of_nan (Or.inr hnan)).1,
      (Double.not_lt_of_nan (Or.inr hnan)).2, Double.key_of_nan hnan]
    rfl

end FirestoreCore

end JkbEmpOffers
