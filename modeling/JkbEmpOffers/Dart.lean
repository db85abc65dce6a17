import Mathlib.Data.List.Nodup
import Mathlib.Tactic.Common

/-!
# Dart Values

What the app reads out of a Firestore document is `dynamic`: a field may hold
anything, and the code finds out by using it. `Value` is such a value, and
the operations the code performs on it are the ones that can throw: reading
`length`, `values` and `entries`, indexing, and the implicit downcast to
`String` or `String?` where a parameter has that type.

A map keeps its entries in insertion order and has no two entries under one
key. `DartMap` carries that fact, so the i-th key and the i-th value always
belong together (`DartMap.lookup_getElem`).

Strings are indexed by UTF-16 code unit. Half of a surrogate pair is not a
Lean character, so it is represented by the replacement character, which is
also what Dart encodes it as.

## Main definitions

* `DartError`, `DartError.toText`: What an operation throws, and its text.
* `Scalar`, `Value`: The values of a document field.
* `DartMap`: A map with its insertion order.
* `Value.length`, `Value.getIndex`, `Value.values`, `Value.entries`: The
  dynamic operations.
* `Value.toText`: `toString()`.
* `trim`: `String.trim()`.
* `parseInt`: `int.parse`.

## Theorems

* `lookup_getElem`: The value stored under the i-th key is the i-th value.
* `length_list`, `length_map`: What `length` answers for a list and a map.
* `asString_eq_ok`: What can be cast to `String`.
* `getIndex_list`: Indexing a list within its length.
-/

namespace JkbEmpOffers

/-- What a Dart operation throws. -/
inductive DartError where
  | noSuchMethod (member type : String)
  | typeError (type target : String)
  | rangeError (index length : Nat)
  | stateError (message : String)
  deriving DecidableEq, Repr

/-- `error.toString()` -/
def DartError.toText : DartError → String
  | .noSuchMethod member type =>
    "NoSuchMethodError: Class '" ++ type ++ "' has no instance member '" ++ member ++ "'."
  | .typeError type target => "type '" ++ type ++ "' is not a subtype of type '" ++ target ++ "'"
  | .rangeError index length =>
    "RangeError (index): Invalid value: Not in inclusive range 0.." ++ toString (length - 1) ++
      ": " ++ toString index
  | .stateError message => "Bad state: " ++ message

/-- A value that has no parts. `other` is a double, a timestamp, a geopoint,
    a blob or a reference: the code only ever prints one. -/
inductive Scalar where
  | null
  | bool (b : Bool)
  | int (n : Int)
  | string (s : String)
  | other (type text : String)
  deriving DecidableEq, Repr

/-- A value of a document field. -/
inductive Value where
  | scalar (s : Scalar)
  | list (xs : List Value)
  | map (entries : List (String × Value))
  deriving Repr

namespace Value

@[match_pattern] abbrev null : Value := .scalar .null

@[match_pattern] abbrev str (s : String) : Value := .scalar (.string s)

mutual

/-- Equality of values is decided along their structure. -/
def decEq : (v w : Value) → Decidable (v = w)
  | .scalar a, .scalar b => decidable_of_iff (a = b) (by rw [Value.scalar.injEq])
  | .list xs, .list ys => @decidable_of_iff _ (xs = ys) (by rw [Value.list.injEq]) (decEqList xs ys)
  | .map xs, .map ys => @decidable_of_iff _ (xs = ys) (by rw [Value.map.injEq]) (decEqEntries xs ys)
  | .scalar _, .list _ | .scalar _, .map _ | .list _, .scalar _ | .list _, .map _
  | .map _, .scalar _ | .map _, .list _ => .isFalse Value.noConfusion

def decEqList : (xs ys : List Value) → Decidable (xs = ys)
  | [], [] => .isTrue rfl
  | [], _ :: _ => .isFalse (List.cons_ne_nil _ _).symm
  | _ :: _, [] => .isFalse (List.cons_ne_nil _ _)
  | x :: xs, y :: ys =>
      have := decEq x y
      have := decEqList xs ys
      decidable_of_iff (x = y ∧ xs = ys) (by rw [List.cons.injEq])

def decEqEntries : (xs ys : List (String × Value)) → Decidable (xs = ys)
  | [], [] => .isTrue rfl
  | [], _ :: _ => .isFalse (List.cons_ne_nil _ _).symm
  | _ :: _, [] => .isFalse (List.cons_ne_nil _ _)
  | (k, x) :: xs, (l, y) :: ys =>
      have := decEq x y
      have := decEqEntries xs ys
      decidable_of_iff (k = l ∧ x = y ∧ xs = ys)
        (by rw [List.cons.injEq, Prod.mk.injEq, and_assoc])

end

instance : DecidableEq Value := decEq

/-- The type a `TypeError` or a `NoSuchMethodError` names. -/
def runtimeType : Value → String
  | .scalar .null => "Null"
  | .scalar (.bool _) => "bool"
  | .scalar (.int _) => "int"
  | .scalar (.string _) => "String"
  | .scalar (.other type _) => type
  | .list _ => "List<dynamic>"
  | .map _ => "Map<String, dynamic>"

/-- The code units of a string, each as the string that indexing gives. -/
def codeUnits (s : String) : List String :=
  s.toList.flatMap fun c =>
    if c.toNat < 0x10000 then [String.singleton c] else ["\uFFFD", "\uFFFD"]

/-- `v.length` -/
def length : Value → Except DartError Nat
  -- Of the types that Firestore stores, these three have a `length`.
  | .list xs => .ok xs.length
  | .map es => .ok es.length
  | .scalar (.string s) => .ok (codeUnits s).length
  | v => .error (.noSuchMethod "length" v.runtimeType)

/-- `xs[i]` on a list whose elements are known. -/
def index {α : Type} (xs : List α) (i : Nat) : Except DartError α :=
  match xs[i]? with
  | some x => .ok x
  | none => .error (.rangeError i xs.length)

/-- `v[i]` with an integer index. A map has only string keys, so it answers
    null. -/
def getIndex (v : Value) (i : Nat) : Except DartError Value :=
  match v with
  | .list xs => index xs i
  | .scalar (.string s) => (index (codeUnits s) i).map .str
  | .map _ => .ok .null
  | v => .error (.noSuchMethod "[]" v.runtimeType)

/-- `v.entries.toList()` -/
def entries : Value → Except DartError (List (String × Value))
  | .map es => .ok es
  | v => .error (.noSuchMethod "entries" v.runtimeType)

/-- `v.values.toList()` -/
def values : Value → Except DartError (List Value)
  | .map es => .ok (es.map Prod.snd)
  | v => .error (.noSuchMethod "values" v.runtimeType)

/-- The implicit downcast to `String`. -/
def asString : Value → Except DartError String
  | .str s => .ok s
  | v => .error (.typeError v.runtimeType "String")

/-- The implicit downcast to `String?`. -/
def asStringOrNull : Value → Except DartError (Option String)
  | .null => .ok none
  | .str s => .ok (some s)
  | v => .error (.typeError v.runtimeType "String?")

mutual

/-- `v.toString()` -/
def toText : Value → String
  | .scalar .null => "null"
  | .scalar (.bool b) => if b then "true" else "false"
  | .scalar (.int n) => toString n
  | .scalar (.string s) => s
  | .scalar (.other _ text) => text
  | .list xs => "[" ++ String.intercalate ", " (toTexts xs) ++ "]"
  | .map es => "\x7b" ++ String.intercalate ", " (toEntryTexts es) ++ "\x7d"

def toTexts : List Value → List String
  | [] => []
  | x :: xs => toText x :: toTexts xs

def toEntryTexts : List (String × Value) → List String
  | [] => []
  | (k, x) :: es => (k ++ ": " ++ toText x) :: toEntryTexts es

end

@[simp] theorem length_list (xs : List Value) : length (.list xs) = .ok xs.length := rfl

@[simp] theorem length_map (es : List (String × Value)) : length (.map es) = .ok es.length := rfl

theorem asString_eq_ok {v : Value} {s : String} : v.asString = .ok s ↔ v = .str s := by
  rcases v with (_ | _ | _ | s' | _) | _ | _
  case scalar.string =>
    simp only [asString, Except.ok.injEq, scalar.injEq, Scalar.string.injEq]
  all_goals simp only [asString, reduceCtorEq, scalar.injEq]

theorem index_eq_ok {α : Type} {xs : List α} {i : Nat} {x : α} (h : xs[i]? = some x) :
    index xs i = .ok x := by
  rw [index, h]

theorem getIndex_list {xs : List Value} {i : Nat} (hi : i < xs.length) :
    getIndex (.list xs) i = .ok xs[i] :=
  index_eq_ok (List.getElem?_eq_getElem hi)

end Value

/-- A map from strings, in insertion order, with no key entered twice. -/
structure DartMap where
  entries : List (String × Value)
  nodup : (entries.map Prod.fst).Nodup
  deriving DecidableEq

namespace DartMap

/-- The value stored under a key, if the map has the key. -/
def lookup (m : DartMap) (k : String) : Option Value :=
  m.entries.lookup k

/-- Looking a key up in a list of entries that has it once finds its value. -/
theorem lookup_of_nodup {es : List (String × Value)} (hes : (es.map Prod.fst).Nodup)
    {k : String} {v : Value} (hmem : (k, v) ∈ es) : es.lookup k = some v := by
  induction es with
  | nil => exact absurd hmem (List.not_mem_nil)
  | cons e es ih =>
      rw [List.map_cons, List.nodup_cons] at hes
      rcases List.mem_cons.mp hmem with rfl | hmem
      · exact List.lookup_cons_self
      · -- The head has another key, its own key being absent from the tail.
        have hne : k ≠ e.1 := fun hk => hes.1 (hk ▸ List.mem_map_of_mem hmem)
        rw [List.lookup_cons, beq_false_of_ne hne]
        exact ih hes.2 hmem

theorem lookup_getElem (m : DartMap) (i : Nat) (hi : i < m.entries.length) :
    m.lookup m.entries[i].1 = some m.entries[i].2 :=
  lookup_of_nodup m.nodup (List.getElem_mem hi)

end DartMap

/-- White space, as `String.trim()` removes it. -/
def isWhitespace (c : Char) : Bool :=
  let n := c.toNat
  (0x09 ≤ n && n ≤ 0x0D) || n == 0x20 || n == 0x85 || n == 0xA0 || n == 0x1680 ||
    (0x2000 ≤ n && n ≤ 0x200A) || n == 0x2028 || n == 0x2029 || n == 0x202F || n == 0x205F ||
    n == 0x3000 || n == 0xFEFF

/-- `s.trim()` -/
def trim (s : String) : String :=
  String.ofList ((s.toList.dropWhile isWhitespace).reverse.dropWhile isWhitespace).reverse

/-- The value of a hexadecimal digit. -/
def hexDigit (c : Char) : Option Nat :=
  let n := c.toNat
  if 0x30 ≤ n ∧ n ≤ 0x39 then some (n - 0x30)
  else if 0x41 ≤ n ∧ n ≤ 0x46 then some (n - 0x37)
  else if 0x61 ≤ n ∧ n ≤ 0x66 then some (n - 0x57)
  else none

/-- The value of digits that are all hexadecimal, of which there is at least
    one. -/
def parseHex (cs : List Char) : Option Nat :=
  if cs = [] then none else cs.foldlM (fun n c => (hexDigit c).map (16 * n + ·)) 0

/-- The value of digits that are all decimal, of which there is at least
    one. -/
def parseDecimal (cs : List Char) : Option Nat :=
  if cs ≠ [] ∧ cs.all Char.isDigit = true then some (Nat.ofDigitChars 10 cs 0) else none

/-- A number without its sign, and whether it is hexadecimal. -/
def parseDigits : List Char → Option (Bool × Nat)
  | '0' :: 'x' :: ds | '0' :: 'X' :: ds => (parseHex ds).map (true, ·)
  | ds => (parseDecimal ds).map (false, ·)

/-- A number with the sign `+` or none. A hexadecimal one may use all 64 bits
    and wraps around. -/
def parsePositive (cs : List Char) : Option Int :=
  (parseDigits cs).bind fun (hex, n) =>
    if n < 0x8000000000000000 then some n
    else if hex ∧ n < 0x10000000000000000 then some (n - 0x10000000000000000)
    else none

/-- A number with the sign `-`. -/
def parseNegative (cs : List Char) : Option Int :=
  (parseDigits cs).bind fun (_, n) => if n ≤ 0x8000000000000000 then some (-n) else none

/-- `int.parse(s)`, which throws where this is `none`. -/
def parseInt (s : String) : Option Int :=
  match (trim s).toList with
  | '-' :: cs => parseNegative cs
  | '+' :: cs => parsePositive cs
  | cs => parsePositive cs

end JkbEmpOffers
