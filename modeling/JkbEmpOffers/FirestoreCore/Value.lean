import JkbEmpOffers.FirestoreCore.Number
import JkbEmpOffers.Library.Encoding
import Mathlib.Data.String.Basic

/-!
# Comparing Values

A field of a document holds a value of one of eleven types, which nest. The
order by a field puts all of them in one line: first by `TypeOrder`, then by
a comparison of its own for each type. A map may stand for something else, a
time that the server has yet to fill in or the greatest of all values, and is
then ordered as that.

`Value.compare` is written as the source has it, one function for two values
that may be any. That it is an order is not visible there. `encode` writes a
value as a list of tokens that compare the same, and the rest follows.

The tokens are chosen so that no list of them is the beginning of another. The
first is the number of the type, a list of values ends with a token below all
that can stand in it, and a number is two tokens, whichever of its two types
it has. So two encodings that follow each other compare by the first and then
by the second, which is what `Encodes` says, and an array or a map needs no
more than this of what is in it. What the source has for each type that does
not nest is rewritten to a comparison of such tokens by a lemma of its own.

`Value.equals` is the other relation on values: it tells an integer from a
double, and -0.0 from 0.0, where `compare` does not.

A pending time without the local time of its write is not compared: the
source aborts there. `compare` and `equals` are for values without one, and
`FirestoreCore.Dated` has them with this abort.

## Main definitions

* `Value`, `Timestamp`: The values of fields.
* `TypeOrder`, `Value.typeOrder`: The types in their order.
* `Value.compare`: The order of values.
* `Value.equals`: Equality of values.
* `Value.contains`: Membership in an array.
* `encode`: The tokens of a value.
* `SameType`: The pairs that are compared by their content.

## Theorems

* `Value.induct`: Induction over the nesting of values.
* `sameType_of_eq`: Two values of one `TypeOrder` are such a pair.
* `encodes_value`: The tokens compare as the value does.
* `compare_of_equals`: Equal values tie in it.
* `equals_trans`: Equality of values is transitive.
-/

namespace JkbEmpOffers

namespace FirestoreCore

/-- `google_protobuf_Timestamp` -/
structure Timestamp where
  seconds : Int64
  nanos : Int32
  deriving DecidableEq

/-- `google_firestore_v1_Value`. The pointer of a blob may be null, and the
    entries of a map are in the order of their keys. -/
inductive Value where
  | null
  | boolean (value : Bool)
  | integer (value : Int64)
  | double (value : Double)
  | timestamp (value : Timestamp)
  | string (value : String)
  | bytes (value : Option (List UInt8))
  | reference (value : String)
  | geoPoint (latitude longitude : Double)
  | array (values : List Value)
  | map (fields : List (String × Value))

mutual

/-- Induction over the nesting of values: what holds of the types that do not
    nest, and of an array or a map if it holds of what is in it, holds of all
    values. -/
theorem Value.induct {P : Value → Prop}
    (hscalar : ∀ v, (∀ xs, v ≠ .array xs) → (∀ xs, v ≠ .map xs) → P v)
    (harray : ∀ xs, (∀ x ∈ xs, P x) → P (.array xs))
    (hmap : ∀ xs, (∀ e ∈ xs, P e.2) → P (.map xs)) : ∀ v, P v
  | .array xs => harray xs (induct_values hscalar harray hmap xs)
  | .map xs => hmap xs (induct_entries hscalar harray hmap xs)
  | .null | .boolean _ | .integer _ | .double _ | .timestamp _ | .string _ | .bytes _
  | .reference _ | .geoPoint _ _ => hscalar _ (fun _ => nofun) fun _ => nofun

/-- What holds of all values holds of the elements of an array. -/
theorem Value.induct_values {P : Value → Prop}
    (hscalar : ∀ v, (∀ xs, v ≠ .array xs) → (∀ xs, v ≠ .map xs) → P v)
    (harray : ∀ xs, (∀ x ∈ xs, P x) → P (.array xs))
    (hmap : ∀ xs, (∀ e ∈ xs, P e.2) → P (.map xs)) : ∀ (xs : List Value), ∀ x ∈ xs, P x
  | [], _, hx => absurd hx List.not_mem_nil
  | y :: ys, x, hx => by
      rcases List.mem_cons.mp hx with heq | hx
      · exact heq ▸ induct hscalar harray hmap y
      · exact induct_values hscalar harray hmap ys x hx

/-- And of the values in the entries of a map. -/
theorem Value.induct_entries {P : Value → Prop}
    (hscalar : ∀ v, (∀ xs, v ≠ .array xs) → (∀ xs, v ≠ .map xs) → P v)
    (harray : ∀ xs, (∀ x ∈ xs, P x) → P (.array xs))
    (hmap : ∀ xs, (∀ e ∈ xs, P e.2) → P (.map xs)) :
    ∀ (xs : List (String × Value)), ∀ e ∈ xs, P e.2
  | [], _, he => absurd he List.not_mem_nil
  | (k, y) :: ys, e, he => by
      rcases List.mem_cons.mp he with heq | he
      · exact heq ▸ induct hscalar harray hmap y
      · exact induct_entries hscalar harray hmap ys e he

end

/-- `TypeOrder` -/
inductive TypeOrder where
  | null
  | boolean
  | number
  | timestamp
  | serverTimestamp
  | string
  | blob
  | reference
  | geoPoint
  | array
  | map
  | maxValue
  deriving DecidableEq

/-- The number of a `TypeOrder`. -/
def TypeOrder.toInt : TypeOrder → Int
  | .null => 0
  | .boolean => 1
  | .number => 2
  | .timestamp => 3
  | .serverTimestamp => 4
  | .string => 5
  | .blob => 6
  | .reference => 7
  | .geoPoint => 8
  | .array => 9
  | .map => 10
  | .maxValue => 11

/-- `kTypeKey`, also `kRawMaxValueFieldKey`. -/
def typeKey : String := "__type__"

/-- `kLocalWriteTimeKey` -/
def localWriteTimeKey : String := "__local_write_time__"

/-- `kServerTimestampSentinel` -/
def serverTimestampSentinel : String := "server_timestamp"

/-- `kRawMaxValueFieldValue` -/
def maxValueFieldValue : String := "__max__"

namespace Value

/-- `IsServerTimestamp`, of the entries of a map: the first that is called
    `__type__` decides. -/
def isServerTimestamp (fields : List (String × Value)) : Bool :=
  fields.length ≤ 3 &&
    match fields.find? fun e => e.1 == typeKey with
    | some (_, .string s) => s == serverTimestampSentinel
    | _ => false

/-- `GetLocalWriteTime`, where `none` is its abort. -/
def getLocalWriteTime (fields : List (String × Value)) : Option Timestamp :=
  fields.findSome? fun e =>
    match e with
    | (key, .timestamp t) => if key = localWriteTimeKey then some t else none
    | _ => none

/-- `IsMaxValue`, of the entries of a map. -/
def isMaxValue : List (String × Value) → Bool
  | [(key, .string s)] => key == typeKey && s == maxValueFieldValue
  | _ => false

/-- `GetTypeOrder` -/
def typeOrder : Value → TypeOrder
  | .null => .null
  | .boolean _ => .boolean
  | .integer _ | .double _ => .number
  | .timestamp _ => .timestamp
  | .string _ => .string
  | .bytes _ => .blob
  | .reference _ => .reference
  | .geoPoint _ _ => .geoPoint
  | .array _ => .array
  | .map fields =>
    if isServerTimestamp fields then .serverTimestamp
    else if isMaxValue fields then .maxValue
    else .map

/-- `CompareNumbers` -/
def compareNumbers : Value → Value → ComparisonResult
  | .double left, .double right => compareDouble left right
  | .double left, .integer right => compareMixedNumber left right
  | .integer left, .integer right => Ord.compare left.toInt right.toInt
  | .integer left, .double right => reverseOrder (compareMixedNumber right left)
  | _, _ => .eq

/-- `CompareTimestamps` -/
def compareTimestamps (left right : Timestamp) : ComparisonResult :=
  match Ord.compare left.seconds.toInt right.seconds.toInt with
  | .eq => Ord.compare left.nanos.toInt right.nanos.toInt
  | cmp => cmp

/-- `CompareTimestamps` of two `GetLocalWriteTime`. Only dated values are
    compared so: where a time is missing, the source aborts, and what stands
    here only makes the comparison one of all values. -/
def compareWriteTimes : Option Timestamp → Option Timestamp → ComparisonResult
  | some left, some right => compareTimestamps left right
  | none, none => .eq
  | none, some _ => .lt
  | some _, none => .gt

/-- `CompareBlobs`: the bytes up to the shorter length and then the lengths,
    unless a pointer is null. -/
def compareBlobs : Option (List UInt8) → Option (List UInt8) → ComparisonResult
  | some left, some right => List.compareLex Ord.compare left right
  | left, right => Ord.compare (!(left.getD []).isEmpty) (!(right.getD []).isEmpty)

/-- `absl::StrSplit(name, '/', absl::SkipEmpty())` -/
def segments (name : String) : List String :=
  (name.splitOn "/").filter fun s => !s.isEmpty

/-- `CompareReferences` -/
def compareReferences (left right : String) : ComparisonResult :=
  List.compareLex Ord.compare (segments left) (segments right)

/-- `CompareGeoPoints` -/
def compareGeoPoints (latitude longitude latitude' longitude' : Double) : ComparisonResult :=
  match compareDouble latitude latitude' with
  | .eq => compareDouble longitude longitude'
  | cmp => cmp

mutual

/-- `Compare`, of dated values. -/
def compare (left right : Value) : ComparisonResult :=
  if left.typeOrder ≠ right.typeOrder then
    Ord.compare left.typeOrder.toInt right.typeOrder.toInt
  else
    match left, right with
    | .boolean a, .boolean b => Ord.compare a b
    | .timestamp a, .timestamp b => compareTimestamps a b
    | .string a, .string b => Ord.compare a b
    | .bytes a, .bytes b => compareBlobs a b
    | .reference a, .reference b => compareReferences a b
    | .geoPoint a b, .geoPoint c d => compareGeoPoints a b c d
    | .array xs, .array ys => compareArrays xs ys
    | .map xs, .map ys =>
      if isServerTimestamp xs then compareWriteTimes (getLocalWriteTime xs) (getLocalWriteTime ys)
      else if isMaxValue xs then .eq
      else compareObjects xs ys
    -- Two numbers, or null twice.
    | left, right => compareNumbers left right

/-- `CompareArrays` -/
def compareArrays : List Value → List Value → ComparisonResult
  | x :: xs, y :: ys =>
    match compare x y with
    | .eq => compareArrays xs ys
    | cmp => cmp
  | [], [] => .eq
  | [], _ :: _ => .lt
  | _ :: _, [] => .gt

/-- `CompareObjects` -/
def compareObjects : List (String × Value) → List (String × Value) → ComparisonResult
  | (k, x) :: xs, (l, y) :: ys =>
    match Ord.compare k l with
    | .eq =>
      match compare x y with
      | .eq => compareObjects xs ys
      | cmp => cmp
    | cmp => cmp
  | [], [] => .eq
  | [], _ :: _ => .lt
  | _ :: _, [] => .gt

end

/-- `DoubleBits`, where every NaN has the bits of one. -/
def doubleBits (d : Double) : Double :=
  if d.isnan then ⟨false, ⟨0x7FF, by decide⟩, ⟨0x8000000000000, by decide⟩⟩ else d

/-- `NumberEquals` -/
def numberEquals : Value → Value → Bool
  | .integer left, .integer right => left == right
  | .double left, .double right => doubleBits left == doubleBits right
  | _, _ => false

mutual

/-- `Equals`, also `==` of two values, if both are dated. -/
def equals (lhs rhs : Value) : Bool :=
  if lhs.typeOrder ≠ rhs.typeOrder then false
  else
    match lhs, rhs with
    | .null, .null => true
    | .boolean a, .boolean b => a == b
    | .timestamp a, .timestamp b => a == b
    | .string a, .string b => a == b
    | .bytes a, .bytes b => compareBlobs a b == .eq
    | .reference a, .reference b => a == b
    | .geoPoint a b, .geoPoint c d => a.eq c && b.eq d
    | .array xs, .array ys => arrayEquals xs ys
    | .map xs, .map ys =>
      if isServerTimestamp xs then getLocalWriteTime xs == getLocalWriteTime ys
      else objectEquals xs ys
    | lhs, rhs => numberEquals lhs rhs

/-- `ArrayEquals` -/
def arrayEquals : List Value → List Value → Bool
  | x :: xs, y :: ys => equals x y && arrayEquals xs ys
  | [], [] => true
  | [], _ :: _ | _ :: _, [] => false

/-- `ObjectEquals` -/
def objectEquals : List (String × Value) → List (String × Value) → Bool
  | (k, x) :: xs, (l, y) :: ys => k == l && equals x y && objectEquals xs ys
  | [], [] => true
  | [], _ :: _ | _ :: _, [] => false

end

/-- `Contains` -/
def contains (haystack : List Value) (needle : Value) : Bool :=
  haystack.any fun v => v.equals needle

end Value

/-! ## The tokens of a value -/

/-- A token: a number, or a string before which stands 0. -/
abbrev Token := Int × String

namespace Token

/-- The order of tokens. -/
def compare : Token → Token → Ordering :=
  compareLex (compareOn Prod.fst) (compareOn Prod.snd)

instance : Std.TransCmp compare :=
  inferInstanceAs (Std.TransCmp (compareLex (compareOn Prod.fst) (compareOn Prod.snd)))

/-- A number. -/
def number (n : Int) : Token := (n, "")

/-- A string. -/
def text (s : String) : Token := (0, s)

/-- The end of a list. -/
def stop : Token := (-1, "")

/-- Two numbers. -/
def pair (p : Int × Int) : List Token := [number p.1, number p.2]

end Token

namespace Value

/-- A time as two numbers. -/
def timeKey (t : Timestamp) : Int × Int := (t.seconds.toInt, t.nanos.toInt)

mutual

/-- What follows the type in the tokens of a value. -/
def body : Value → List Token
  | .null => []
  | .boolean b => [Token.number b.toNat]
  | .integer n => Token.pair (intKey n)
  | .double d => Token.pair d.key
  | .timestamp t => Token.pair (timeKey t)
  | .string s => [Token.text s]
  | .bytes b => (b.getD []).flatMap (fun x => [Token.number x.toNat]) ++ [Token.stop]
  | .reference r => (segments r).flatMap (fun s => [Token.text s]) ++ [Token.stop]
  | .geoPoint a b => Token.pair a.key ++ Token.pair b.key
  | .array xs => arrayTokens xs ++ [Token.stop]
  | .map xs =>
    if isServerTimestamp xs then
      (getLocalWriteTime xs).toList.flatMap (fun t => Token.number 0 :: Token.pair (timeKey t)) ++
        [Token.stop]
    else if isMaxValue xs then []
    else objectTokens xs ++ [Token.stop]

/-- The tokens of the elements of an array. -/
def arrayTokens : List Value → List Token
  | [] => []
  | x :: xs => Token.number x.typeOrder.toInt :: body x ++ arrayTokens xs

/-- The tokens of the entries of a map. -/
def objectTokens : List (String × Value) → List Token
  | [] => []
  | (k, x) :: xs => Token.text k :: Token.number x.typeOrder.toInt :: body x ++ objectTokens xs

end

/-- The tokens of a value. -/
def encode (v : Value) : List Token := Token.number v.typeOrder.toInt :: body v

/-- The tokens of an entry of a map. -/
def encodeEntry (e : String × Value) : List Token := Token.text e.1 :: encode e.2

/-- The order of entries that `CompareObjects` uses. -/
def compareEntry (e f : String × Value) : ComparisonResult :=
  (Ord.compare e.1 f.1).then (compare e.2 f.2)

section

open Encoding

variable {v w : Value}

/-- Two values of one type. An integer and a double are of one, and two maps
    if they stand for the same kind of thing. -/
inductive SameType : Value → Value → Prop where
  | null : SameType .null .null
  | boolean (a b : Bool) : SameType (.boolean a) (.boolean b)
  | integers (m n : Int64) : SameType (.integer m) (.integer n)
  | integerDouble (m : Int64) (d : Double) : SameType (.integer m) (.double d)
  | doubleInteger (d : Double) (n : Int64) : SameType (.double d) (.integer n)
  | doubles (c d : Double) : SameType (.double c) (.double d)
  | timestamp (a b : Timestamp) : SameType (.timestamp a) (.timestamp b)
  | string (a b : String) : SameType (.string a) (.string b)
  | bytes (a b : Option (List UInt8)) : SameType (.bytes a) (.bytes b)
  | reference (a b : String) : SameType (.reference a) (.reference b)
  | geoPoint (a b c d : Double) : SameType (.geoPoint a b) (.geoPoint c d)
  | array (xs ys : List Value) : SameType (.array xs) (.array ys)
  | map (xs ys : List (String × Value)) (h : (map xs).typeOrder = (map ys).typeOrder) :
      SameType (.map xs) (.map ys)

/-- A map is never of a type that does not nest. -/
theorem typeOrder_of_map {o : TypeOrder} {ys : List (String × Value)}
    (h : o = (map ys).typeOrder) : o = .serverTimestamp ∨ o = .maxValue ∨ o = .map := by
  rw [h, typeOrder]
  split_ifs
  · exact Or.inl rfl
  · exact Or.inr (Or.inl rfl)
  · exact Or.inr (Or.inr rfl)

/-- Values of one `TypeOrder` can be compared by their content. -/
theorem sameType_of_eq (h : v.typeOrder = w.typeOrder) : SameType v w := by
  -- Only a map has a type that depends on what is in it.
  cases v with
  | map xs =>
      cases w with
      | map ys => exact .map xs ys h
      | _ => rcases typeOrder_of_map h.symm with h | h | h <;> exact TypeOrder.noConfusion h
  | _ =>
      cases w with
      | map ys => rcases typeOrder_of_map h with h | h | h <;> exact TypeOrder.noConfusion h
      | _ => first | exact TypeOrder.noConfusion h | constructor

/-- Numbers compare as tokens as they do. -/
theorem compare_number (m n : Int) :
    Token.compare (Token.number m) (Token.number n) = Ord.compare m n :=
  Ordering.then_eq

/-- And so do strings. -/
theorem compare_text (s r : String) :
    Token.compare (Token.text s) (Token.text r) = Ord.compare s r := by
  rw [Token.compare, compareLex, compareOn, compareOn]
  exact congrArg (Ordering.then · _) Std.ReflOrd.compare_self

/-- Two numbers that compare one after the other. -/
theorem encodes_pair (p : Int × Int) : Encodes Token.compare Token.pair compareKey p := by
  intro q s u
  simp only [Token.pair, List.cons_append, List.nil_append, List.compareLex_cons_cons,
    compare_number, compareKey, compareLex, compareOn, Ordering.then_assoc]

/-- Times compare by their seconds and then by their nanoseconds. -/
theorem compareTimestamps_eq (left right : Timestamp) :
    compareTimestamps left right = compareKey (timeKey left) (timeKey right) := by
  rw [compareTimestamps, compareKey, compareLex, compareOn, compareOn]
  rfl

/-- Bytes compare as the numbers that they are. -/
theorem compare_byte (a b : UInt8) :
    Ord.compare a b = Token.compare (Token.number a.toNat) (Token.number b.toNat) := by
  have hdef : Ord.compare a b = compareOfLessAndEq a b := rfl
  rw [compare_number, hdef, compareOfLessAndEq]
  split_ifs with hlt heq
  · exact (Int.compare_eq_lt.mpr (Int.ofNat_lt.mpr hlt)).symm
  · rw [heq, Int.compare_eq_eq.mpr rfl]
  · have hne : a.toNat ≠ b.toNat := fun h => heq (UInt8.toNat_inj.mp h)
    have hle : b.toNat ≤ a.toNat := UInt8.not_lt.mp hlt
    exact (Int.compare_eq_gt.mpr (Int.ofNat_lt.mpr (by omega))).symm

/-- A blob with a null pointer compares as the empty one. -/
theorem compareBlobs_eq (left right : Option (List UInt8)) :
    compareBlobs left right
      = List.compareLex Ord.compare (left.getD []) (right.getD []) := by
  rcases left with _ | left <;> rcases right with _ | right
  · rfl
  · cases right <;> rfl
  · cases left <;> rfl
  · rfl

/-- The local time of a write is a list of at most one time. -/
theorem compareWriteTimes_eq (left right : Option Timestamp) :
    compareWriteTimes left right = List.compareLex compareTimestamps left.toList right.toList := by
  rcases left with _ | left <;> rcases right with _ | right
  · rfl
  · rfl
  · rfl
  · simp only [Option.toList_some, List.compareLex_cons_cons, List.compareLex_nil_nil,
      Ordering.then_eq, compareWriteTimes]

/-- Geo points compare by their latitude and then by their longitude. -/
theorem compareGeoPoints_eq (a b c d : Double) :
    compareGeoPoints a b c d = (compareKey a.key c.key).then (compareKey b.key d.key) := by
  rw [compareGeoPoints, compareDouble_eq, compareDouble_eq]
  rfl

/-- Every number but -1 can stand first before the end of a list. -/
theorem compare_stop {n : Int} (hn : 0 ≤ n) (s : String) :
    Token.compare Token.stop (n, s) = .lt ∧ Token.compare (n, s) Token.stop = .gt := by
  have hlt : Ord.compare (-1 : Int) n = .lt := Int.compare_eq_lt.mpr (by omega)
  have hgt : Ord.compare n (-1 : Int) = .gt := Int.compare_eq_gt.mpr (by omega)
  simp only [Token.compare, Token.stop, compareLex, compareOn, hlt, hgt, Ordering.then, and_self]

/-- Two lists that end at one place tie there. -/
theorem compare_stop_stop : Token.compare Token.stop Token.stop = .eq :=
  Std.ReflCmp.compare_self

/-- Lists of what one token encodes, or several, compare as the source does:
    element by element, and the shorter one first. -/
theorem encodes_bytes (xs : List UInt8) :
    Encodes Token.compare
      (fun xs => xs.flatMap (fun x : UInt8 => [Token.number x.toNat]) ++ [Token.stop])
      (List.compareLex Ord.compare) xs :=
  encodes_list compare_stop_stop
    (fun x => ⟨_, _, rfl, compare_stop (Int.natCast_nonneg x.toNat) ""⟩)
    fun x _ => encodes_token (compare_byte x)

theorem encodes_strings (xs : List String) :
    Encodes Token.compare (fun xs => xs.flatMap (fun x => [Token.text x]) ++ [Token.stop])
      (List.compareLex Ord.compare) xs :=
  encodes_list compare_stop_stop (fun x => ⟨_, _, rfl, compare_stop le_rfl x⟩)
    fun x _ => encodes_token fun y => (compare_text x y).symm

theorem encodes_times (xs : List Timestamp) :
    Encodes Token.compare
      (fun xs => xs.flatMap (fun t => Token.number 0 :: Token.pair (timeKey t)) ++ [Token.stop])
      (List.compareLex compareTimestamps) xs := by
  refine encodes_list compare_stop_stop (fun x => ⟨_, _, rfl, compare_stop le_rfl ""⟩)
    fun x _ y s u => ?_
  rw [List.cons_append, List.cons_append, List.compareLex_cons_cons, compare_number,
    encodes_pair, compareTimestamps_eq]
  rfl

/-- Arrays compare element by element. -/
theorem compareArrays_eq (xs ys : List Value) :
    compareArrays xs ys = List.compareLex compare xs ys := by
  induction xs generalizing ys with
  | nil => cases ys <;> rfl
  | cons x xs ih =>
      cases ys with
      | nil => rfl
      | cons y ys =>
          rw [compareArrays, List.compareLex_cons_cons, ← ih]
          cases compare x y <;> rfl

/-- Maps compare entry by entry, each by its key and then by its value. -/
theorem compareObjects_eq (xs ys : List (String × Value)) :
    compareObjects xs ys = List.compareLex compareEntry xs ys := by
  induction xs generalizing ys with
  | nil => cases ys <;> rfl
  | cons x xs ih =>
      cases ys with
      | nil => rfl
      | cons y ys =>
          rw [compareObjects, List.compareLex_cons_cons, ← ih, compareEntry]
          cases Ord.compare x.1 y.1 <;> cases compare x.2 y.2 <;> rfl

/-- The tokens of an array are those of its elements. -/
theorem arrayTokens_eq (xs : List Value) : arrayTokens xs = xs.flatMap encode := by
  induction xs with
  | nil => rfl
  | cons x xs ih =>
      rw [arrayTokens, List.flatMap_cons, ih]
      rfl

/-- The tokens of a map are those of its entries. -/
theorem objectTokens_eq (xs : List (String × Value)) :
    objectTokens xs = xs.flatMap encodeEntry := by
  induction xs with
  | nil => rfl
  | cons x xs ih =>
      rw [objectTokens, List.flatMap_cons, ih]
      rfl

/-- No two types have one number. -/
theorem toInt_inj {a b : TypeOrder} (h : a.toInt = b.toInt) : a = b := by
  cases a <;> cases b <;> first | rfl | exact absurd h (by decide)

theorem toInt_nonneg (a : TypeOrder) : 0 ≤ a.toInt := by
  cases a <;> decide

/-- Values of one type compare by what follows the type. -/
theorem encodes_of_body
    (h : ∀ w s u, v.typeOrder = w.typeOrder →
      List.compareLex Token.compare (body v ++ s) (body w ++ u)
        = (compare v w).then (List.compareLex Token.compare s u)) :
    Encodes Token.compare encode compare v := by
  intro w s u
  rw [encode, encode, List.cons_append, List.cons_append, List.compareLex_cons_cons,
    compare_number]
  by_cases htype : v.typeOrder = w.typeOrder
  · rw [h w s u htype, htype, Std.ReflOrd.compare_self]
    rfl
  · have hne : Ord.compare v.typeOrder.toInt w.typeOrder.toInt ≠ .eq :=
      fun heq => htype (toInt_inj (Std.LawfulEqOrd.eq_of_compare heq))
    have hcompare : compare v w = Ord.compare v.typeOrder.toInt w.typeOrder.toInt := by
      rw [compare.eq_def, if_pos htype]
    rw [hcompare]
    cases hcmp : Ord.compare v.typeOrder.toInt w.typeOrder.toInt with
    | eq => exact absurd hcmp hne
    | lt => rfl
    | gt => rfl

/-- The types that do not nest. -/
theorem encodes_scalar (harray : ∀ xs, v ≠ .array xs) (hmap : ∀ xs, v ≠ .map xs) :
    Encodes Token.compare encode compare v := by
  refine encodes_of_body fun w s u htype => ?_
  cases sameType_of_eq htype with
  | null => rfl
  | boolean a b =>
      rw [body, body, List.singleton_append, List.singleton_append, List.compareLex_cons_cons,
        compare_number]
      cases a <;> cases b <;> rfl
  | integers m n =>
      have hcompare : compare (.integer m) (.integer n) = Ord.compare m.toInt n.toInt := rfl
      rw [hcompare, ← compare_mul_one, ← compareKey_numbers]
      exact encodes_pair _ _ s u
  | integerDouble m d =>
      have hcompare : compare (.integer m) (.double d)
        = reverseOrder (compareMixedNumber d m) := rfl
      rw [hcompare, compareMixedNumber_eq, reverseOrder, ← Std.OrientedCmp.eq_swap]
      exact encodes_pair _ _ s u
  | doubleInteger d n =>
      have hcompare : compare (.double d) (.integer n) = compareMixedNumber d n := rfl
      rw [hcompare, compareMixedNumber_eq]
      exact encodes_pair _ _ s u
  | doubles c d =>
      have hcompare : compare (.double c) (.double d) = compareDouble c d := rfl
      rw [hcompare, compareDouble_eq]
      exact encodes_pair _ _ s u
  | timestamp a b =>
      have hcompare : compare (.timestamp a) (.timestamp b) = compareTimestamps a b := rfl
      rw [hcompare, compareTimestamps_eq]
      exact encodes_pair _ _ s u
  | string a b =>
      rw [body, body, List.singleton_append, List.singleton_append, List.compareLex_cons_cons,
        compare_text]
      rfl
  | bytes a b =>
      have hcompare : compare (.bytes a) (.bytes b) = compareBlobs a b := rfl
      rw [hcompare, compareBlobs_eq]
      exact encodes_bytes _ _ s u
  | reference a b => exact encodes_strings _ _ s u
  | geoPoint a b c d =>
      have hcompare : compare (.geoPoint a b) (.geoPoint c d) = compareGeoPoints a b c d := rfl
      rw [hcompare, compareGeoPoints_eq, body, body, List.append_assoc, List.append_assoc,
        encodes_pair, encodes_pair, Ordering.then_assoc]
  | array xs ys => exact absurd rfl (harray xs)
  | map xs ys h => exact absurd rfl (hmap xs)

/-- An array, if its elements compare by their tokens. -/
theorem encodes_array {xs : List Value}
    (h : ∀ x ∈ xs, Encodes Token.compare encode compare x) :
    Encodes Token.compare encode compare (.array xs) := by
  refine encodes_of_body fun w s u htype => ?_
  cases sameType_of_eq htype with
  | array _ ys =>
      have hlist : Encodes Token.compare (fun xs => xs.flatMap encode ++ [Token.stop])
          (List.compareLex compare) xs :=
        encodes_list compare_stop_stop
          (fun x => ⟨_, _, rfl, compare_stop (toInt_nonneg x.typeOrder) ""⟩) h
      have hcompare : compare (.array xs) (.array ys) = compareArrays xs ys := rfl
      rw [hcompare, compareArrays_eq, body, body, arrayTokens_eq, arrayTokens_eq]
      exact hlist ys s u

/-- A map, if the values of its entries do. -/
theorem encodes_map {xs : List (String × Value)}
    (h : ∀ e ∈ xs, Encodes Token.compare encode compare e.2) :
    Encodes Token.compare encode compare (.map xs) := by
  refine encodes_of_body fun w s u htype => ?_
  cases sameType_of_eq htype with
  | map _ ys =>
      rw [compare.eq_def, if_neg (not_not_intro htype)]
      rw [typeOrder, typeOrder] at htype
      simp only [body]
      -- The two maps stand for the same kind of thing.
      split_ifs at htype ⊢
      · rw [compareWriteTimes_eq]
        exact encodes_times _ _ s u
      · rfl
      · have hentry : ∀ e ∈ xs, Encodes Token.compare encodeEntry compareEntry e := by
          intro e he f s u
          rw [encodeEntry, encodeEntry, List.cons_append, List.cons_append,
            List.compareLex_cons_cons, compare_text, h e he, compareEntry, Ordering.then_assoc]
        have hlist : Encodes Token.compare (fun xs => xs.flatMap encodeEntry ++ [Token.stop])
            (List.compareLex compareEntry) xs :=
          encodes_list compare_stop_stop (fun x => ⟨_, _, rfl, compare_stop le_rfl x.1⟩) hentry
        rw [compareObjects_eq, objectTokens_eq, objectTokens_eq]
        exact hlist ys s u

/-- All values compare by their tokens, by induction over how they nest. -/
theorem encodes_value (v : Value) : Encodes Token.compare encode compare v :=
  induct (fun _ => encodes_scalar) (fun _ => encodes_array) (fun _ => encodes_map) v

instance : Std.TransCmp compare :=
  transCmp_of_encodes encodes_value

end

section

variable {v w : Value}

/-- Equal values are of one type. -/
theorem typeOrder_of_equals (h : v.equals w = true) : v.typeOrder = w.typeOrder := by
  by_contra hne
  rw [equals.eq_def, if_pos hne] at h
  exact absurd h Bool.false_ne_true

/-- The bits that stand for every NaN compare as any NaN. -/
theorem key_doubleBits (d : Double) : (doubleBits d).key = d.key := by
  rw [doubleBits]
  split_ifs with h
  · rw [Double.key_of_nan h]
    rfl
  · rfl

/-- Doubles with one key tie, as -0.0 and 0.0 do. -/
theorem compareDouble_of_key {c d : Double} (h : c.key = d.key) : compareDouble c d = .eq := by
  rw [compareDouble_eq, h]
  exact Std.ReflCmp.compare_self

/-- `==` of two doubles holds of numbers only, and of those with one key. -/
theorem key_of_eq {c d : Double} (h : c.eq d = true) : c.key = d.key := by
  have hnan : c.isnan = false ∧ d.isnan = false := by
    rw [Double.eq] at h
    simp only [Bool.and_eq_true, Bool.not_eq_true'] at h
    exact h.1
  rw [Double.key_of_number hnan.1, Double.key_of_number hnan.2,
    (Double.eq_iff hnan.1 hnan.2).mp h]

/-- Equal arrays tie, if their elements do. -/
theorem compare_of_equals_array {xs ys : List Value}
    (ih : ∀ x ∈ xs, ∀ y, x.equals y = true → compare x y = .eq)
    (h : arrayEquals xs ys = true) : compareArrays xs ys = .eq := by
  induction xs generalizing ys with
  | nil =>
      cases ys with
      | nil => rfl
      | cons y ys => exact absurd h Bool.false_ne_true
  | cons x xs ihxs =>
      cases ys with
      | nil => exact absurd h Bool.false_ne_true
      | cons y ys =>
          rw [arrayEquals, Bool.and_eq_true] at h
          rw [compareArrays, ih x List.mem_cons_self y h.1]
          exact ihxs (fun z hz => ih z (List.mem_cons_of_mem x hz)) h.2

/-- Equal maps tie, if their values do. -/
theorem compare_of_equals_object {xs ys : List (String × Value)}
    (ih : ∀ e ∈ xs, ∀ y, e.2.equals y = true → compare e.2 y = .eq)
    (h : objectEquals xs ys = true) : compareObjects xs ys = .eq := by
  induction xs generalizing ys with
  | nil =>
      cases ys with
      | nil => rfl
      | cons y ys => exact absurd h Bool.false_ne_true
  | cons x xs ihxs =>
      cases ys with
      | nil => exact absurd h Bool.false_ne_true
      | cons y ys =>
          rw [objectEquals, Bool.and_eq_true, Bool.and_eq_true, beq_iff_eq] at h
          rw [compareObjects, h.1.1, Std.ReflOrd.compare_self, ih x List.mem_cons_self y.2 h.1.2]
          exact ihxs (fun z hz => ih z (List.mem_cons_of_mem x hz)) h.2

/-- Equal values that do not nest tie. -/
theorem compare_of_equals_scalar (harray : ∀ xs, v ≠ .array xs) (hmap : ∀ xs, v ≠ .map xs)
    (h : v.equals w = true) : compare v w = .eq := by
  cases sameType_of_eq (typeOrder_of_equals h) with
  | null => rfl
  | boolean a b =>
      rw [beq_iff_eq.mp (show (a == b) = true from h)]
      exact Std.ReflCmp.compare_self
  | integers m n =>
      rw [beq_iff_eq.mp (show (m == n) = true from h)]
      exact Std.ReflCmp.compare_self
  | integerDouble m d => exact absurd h Bool.false_ne_true
  | doubleInteger d n => exact absurd h Bool.false_ne_true
  | doubles c d =>
      have hbits := beq_iff_eq.mp (show (doubleBits c == doubleBits d) = true from h)
      exact compareDouble_of_key (by rw [← key_doubleBits c, hbits, key_doubleBits])
  | timestamp a b =>
      rw [beq_iff_eq.mp (show (a == b) = true from h)]
      exact Std.ReflCmp.compare_self
  | string a b =>
      rw [beq_iff_eq.mp (show (a == b) = true from h)]
      exact Std.ReflCmp.compare_self
  | bytes a b => exact beq_iff_eq.mp h
  | reference a b =>
      rw [beq_iff_eq.mp (show (a == b) = true from h)]
      exact Std.ReflCmp.compare_self
  | geoPoint a b c d =>
      have hboth := Bool.and_eq_true_iff.mp (show (a.eq c && b.eq d) = true from h)
      have hcompare : compare (.geoPoint a b) (.geoPoint c d) = compareGeoPoints a b c d := rfl
      rw [hcompare, compareGeoPoints, compareDouble_of_key (key_of_eq hboth.1)]
      exact compareDouble_of_key (key_of_eq hboth.2)
  | array xs ys => exact absurd rfl (harray xs)
  | map xs ys _ => exact absurd rfl (hmap xs)

/-- What a map stands for ties with what an equal one does. -/
theorem compare_of_equals_map {xs : List (String × Value)}
    (ih : ∀ e ∈ xs, ∀ y, e.2.equals y = true → compare e.2 y = .eq)
    (h : (map xs).equals w = true) : compare (map xs) w = .eq := by
  have htype := typeOrder_of_equals h
  cases sameType_of_eq htype with
  | map _ ys =>
      rw [equals.eq_def, if_neg (not_not_intro htype)] at h
      rw [compare.eq_def, if_neg (not_not_intro htype)]
      simp only at h ⊢
      -- A pending time, the greatest value, or a map.
      split_ifs at h ⊢
      · rw [beq_iff_eq.mp h]
        rcases getLocalWriteTime ys with _ | t
        · rfl
        · rw [compareWriteTimes, compareTimestamps_eq]
          exact Std.ReflCmp.compare_self
      · rfl
      · exact compare_of_equals_object ih h

/-- Equal values tie. -/
theorem compare_of_equals (v w : Value) (h : v.equals w = true) : compare v w = .eq := by
  refine induct (P := fun v => ∀ w, v.equals w = true → compare v w = .eq)
    (fun v harray hmap w h => compare_of_equals_scalar harray hmap h) (fun xs ih w h => ?_)
    (fun xs ih w h => compare_of_equals_map ih h) v w h
  cases sameType_of_eq (typeOrder_of_equals h) with
  | array _ ys => exact compare_of_equals_array ih h

/-- Equality of arrays is transitive, if that of their elements is. -/
theorem equals_trans_array {xs ys zs : List Value}
    (ih : ∀ x ∈ xs, ∀ y z, x.equals y = true → y.equals z = true → x.equals z = true)
    (hxy : arrayEquals xs ys = true) (hyz : arrayEquals ys zs = true) :
    arrayEquals xs zs = true := by
  induction xs generalizing ys zs with
  | nil =>
      cases ys with
      | nil => exact hyz
      | cons y ys => exact absurd hxy Bool.false_ne_true
  | cons x xs ihxs =>
      cases ys with
      | nil => exact absurd hxy Bool.false_ne_true
      | cons y ys =>
          cases zs with
          | nil => exact absurd hyz Bool.false_ne_true
          | cons z zs =>
              rw [arrayEquals, Bool.and_eq_true] at hxy hyz ⊢
              exact ⟨ih x List.mem_cons_self y z hxy.1 hyz.1,
                ihxs (fun v hv => ih v (List.mem_cons_of_mem x hv)) hxy.2 hyz.2⟩

/-- Equality of maps, if that of their values is. -/
theorem equals_trans_object {xs ys zs : List (String × Value)}
    (ih : ∀ e ∈ xs, ∀ y z, e.2.equals y = true → y.equals z = true → e.2.equals z = true)
    (hxy : objectEquals xs ys = true) (hyz : objectEquals ys zs = true) :
    objectEquals xs zs = true := by
  induction xs generalizing ys zs with
  | nil =>
      cases ys with
      | nil => exact hyz
      | cons y ys => exact absurd hxy Bool.false_ne_true
  | cons x xs ihxs =>
      cases ys with
      | nil => exact absurd hxy Bool.false_ne_true
      | cons y ys =>
          cases zs with
          | nil => exact absurd hyz Bool.false_ne_true
          | cons z zs =>
              rw [objectEquals, Bool.and_eq_true, Bool.and_eq_true, beq_iff_eq] at hxy hyz ⊢
              exact ⟨⟨hxy.1.1.trans hyz.1.1, ih x List.mem_cons_self y.2 z.2 hxy.1.2 hyz.1.2⟩,
                ihxs (fun v hv => ih v (List.mem_cons_of_mem x hv)) hxy.2 hyz.2⟩

/-- Equality of values that do not nest. It is that of the content, but for
    blobs, which are compared, and for doubles, whose bits are. -/
theorem equals_trans_scalar {u : Value} (harray : ∀ xs, u ≠ .array xs)
    (hmap : ∀ xs, u ≠ .map xs) (huv : u.equals v = true) (hvw : v.equals w = true) :
    u.equals w = true := by
  cases sameType_of_eq (typeOrder_of_equals huv) with
  | null => exact hvw
  | boolean a b => exact beq_iff_eq.mp (show (a == b) = true from huv) ▸ hvw
  | integers a b => exact beq_iff_eq.mp (show (a == b) = true from huv) ▸ hvw
  | integerDouble a d => exact absurd huv Bool.false_ne_true
  | doubleInteger d a => exact absurd huv Bool.false_ne_true
  | doubles c d =>
      cases sameType_of_eq (typeOrder_of_equals hvw) with
      | doubles _ e =>
          have hcd := beq_iff_eq.mp (show (doubleBits c == doubleBits d) = true from huv)
          have hde := beq_iff_eq.mp (show (doubleBits d == doubleBits e) = true from hvw)
          exact beq_iff_eq.mpr (hcd.trans hde)
      | doubleInteger _ n => exact absurd hvw Bool.false_ne_true
  | timestamp a b => exact beq_iff_eq.mp (show (a == b) = true from huv) ▸ hvw
  | string a b => exact beq_iff_eq.mp (show (a == b) = true from huv) ▸ hvw
  | bytes a b =>
      cases sameType_of_eq (typeOrder_of_equals hvw) with
      | bytes _ c =>
          have hab := beq_iff_eq.mp (show (compareBlobs a b == .eq) = true from huv)
          have hbc := beq_iff_eq.mp (show (compareBlobs b c == .eq) = true from hvw)
          rw [compareBlobs_eq] at hab hbc
          refine beq_iff_eq.mpr ?_
          rw [compareBlobs_eq]
          exact Std.TransCmp.eq_trans hab hbc
  | reference a b => exact beq_iff_eq.mp (show (a == b) = true from huv) ▸ hvw
  | geoPoint a b c d =>
      cases sameType_of_eq (typeOrder_of_equals hvw) with
      | geoPoint _ _ e f =>
          have hleft := Bool.and_eq_true_iff.mp (show (a.eq c && b.eq d) = true from huv)
          have hright := Bool.and_eq_true_iff.mp (show (c.eq e && d.eq f) = true from hvw)
          exact Bool.and_eq_true_iff.mpr
            ⟨Double.eq_trans hleft.1 hright.1, Double.eq_trans hleft.2 hright.2⟩
  | array xs ys => exact absurd rfl (harray xs)
  | map xs ys _ => exact absurd rfl (hmap xs)

/-- Equality of what maps stand for. -/
theorem equals_trans_map {xs : List (String × Value)}
    (ih : ∀ e ∈ xs, ∀ y z, e.2.equals y = true → y.equals z = true → e.2.equals z = true)
    (huv : (map xs).equals v = true) (hvw : v.equals w = true) : (map xs).equals w = true := by
  have hxy := typeOrder_of_equals huv
  have hyz := typeOrder_of_equals hvw
  cases sameType_of_eq hxy with
  | map _ ys =>
      cases sameType_of_eq hyz with
      | map _ zs =>
          rw [equals.eq_def, if_neg (not_not_intro hxy)] at huv
          rw [equals.eq_def, if_neg (not_not_intro hyz)] at hvw
          rw [equals.eq_def, if_neg (not_not_intro (hxy.trans hyz))]
          rw [typeOrder, typeOrder] at hxy
          simp only at huv hvw ⊢
          split_ifs at huv hvw hxy ⊢
          · exact beq_iff_eq.mpr ((beq_iff_eq.mp huv).trans (beq_iff_eq.mp hvw))
          · exact equals_trans_object ih huv hvw
          · exact equals_trans_object ih huv hvw

/-- Values equal to one value are equal. -/
theorem equals_trans (u v w : Value) (huv : u.equals v = true) (hvw : v.equals w = true) :
    u.equals w = true := by
  refine induct (P := fun u => ∀ v w, u.equals v = true → v.equals w = true → u.equals w = true)
    (fun u harray hmap v w huv hvw => equals_trans_scalar harray hmap huv hvw)
    (fun xs ih v w huv hvw => ?_) (fun xs ih v w huv hvw => equals_trans_map ih huv hvw)
    u v w huv hvw
  cases sameType_of_eq (typeOrder_of_equals huv) with
  | array _ ys =>
      cases sameType_of_eq (typeOrder_of_equals hvw) with
      | array _ zs => exact equals_trans_array ih huv hvw

end

end Value

end FirestoreCore

end JkbEmpOffers
