import JkbEmpOffers.FirestoreCore.Dated

/-!
# Documents

What the client keeps of a document: its key, whether it exists, whether it
was changed here and the change has reached the backend, and its fields. A
key is a path with an even number of segments, which it carries as a field,
and a document carries that its pending times have their local times.

A field is read along a path through nested maps. Two documents whose values
are equal agree along every path, unless the path leads through a time that
the server has yet to fill in: two of these are equal already when the local
times are.

## Main definitions

* `DocumentKey`: A path to a document.
* `FieldPath`: A path to a field.
* `Value.get`: The value along a path.
* `Document`, `DocumentComparator`: A document, and an order of them.
* `Value.Agree`: Two fields are equal, or both missing.
* `Value.Plain`: A path does not lead through a pending time.

## Theorems

* `eq_of_compareTo`: Two keys that tie are the same.
* `dated_get`: What a path leads to in a dated value is dated.
* `get_of_equals`: Equal values agree along a path.
* `plain_of_equals`: A path is plain in both of two equal values.
-/

namespace JkbEmpOffers

namespace FirestoreCore

/-- `ResourcePath` -/
abbrev ResourcePath := List String

/-- `DocumentKey`, with what `AssertValidPath` checks. -/
structure DocumentKey where
  path : ResourcePath
  valid : path.length % 2 = 0
  deriving DecidableEq

namespace DocumentKey

/-- `IsDocumentKey` -/
def isDocumentKey (path : ResourcePath) : Bool :=
  path.length % 2 = 0

/-- `CompareTo` -/
def compareTo (key other : DocumentKey) : ComparisonResult :=
  List.compareLex compare key.path other.path

instance : Std.TransCmp compareTo :=
  Encoding.transCmp_on (List.compareLex compare) path

/-- Two keys that tie are the same. -/
theorem eq_of_compareTo {key other : DocumentKey} (h : key.compareTo other = .eq) :
    key = other := by
  have hpath : key.path = other.path := Std.LawfulEqCmp.eq_of_compare h
  cases key
  cases other
  simp only at hpath
  simp only [hpath]

instance : Std.LawfulEqCmp compareTo where
  eq_of_compare := eq_of_compareTo

/-- `ResourcePath::FromString`, which rejects a path with `//`. -/
def fromString (path : String) : Option ResourcePath :=
  let pieces := path.splitOn "/"
  -- An empty piece between two others is what `//` leaves.
  if (pieces.drop 1).dropLast.any String.isEmpty then none
  else some (pieces.filter fun s => !s.isEmpty)

/-- `FromName`: the path that follows `projects/p/databases/d/documents`. The
    source aborts where there is none. -/
def fromName (name : String) : Option DocumentKey :=
  match fromString name with
  | some ("projects" :: _ :: "databases" :: _ :: "documents" :: path) =>
    if h : path.length % 2 = 0 then some ⟨path, h⟩ else none
  | _ => none

/-- `GetCollectionGroup` -/
def getCollectionGroup (key : DocumentKey) : Option String :=
  if key.path.length < 2 then none else key.path[key.path.length - 2]?

/-- `HasCollectionGroup` -/
def hasCollectionGroup (key : DocumentKey) (collectionGroup : String) : Bool :=
  key.getCollectionGroup == some collectionGroup

end DocumentKey

/-- `FieldPath` -/
abbrev FieldPath := List String

namespace FieldPath

/-- `KeyFieldPath` -/
def keyFieldPath : FieldPath := ["__name__"]

/-- `IsKeyFieldPath` -/
def isKeyFieldPath (path : FieldPath) : Bool :=
  path == keyFieldPath

end FieldPath

namespace Value

/-- `FindEntry` -/
def findEntry (value : Value) (segment : String) : Option Value :=
  match value with
  | .map fields => (fields.find? fun e => e.1 == segment).map Prod.snd
  | _ => none

/-- `ObjectValue::Get` -/
def get (value : Value) : FieldPath → Option Value
  | [] => some value
  | segment :: path => (value.findEntry segment).bind fun v => v.get path

/-- No value that a path leads through is a time that the server has yet to
    fill in. -/
def Plain (value : Value) : FieldPath → Prop
  | [] => True
  | segment :: path => value.typeOrder ≠ .serverTimestamp ∧
    ∀ v, value.findEntry segment = some v → v.Plain path

/-- What two values hold is nothing for both, or equal. -/
def Agree : Option Value → Option Value → Prop
  | none, none => True
  | some x, some y => x.equals y = true
  | _, _ => False

/-- What a path leads to in a dated value is dated. -/
theorem dated_get {value v : Value} {path : FieldPath} (hdated : value.dated = true)
    (h : value.get path = some v) : v.dated = true := by
  induction path generalizing value with
  | nil => exact Option.some.inj h ▸ hdated
  | cons segment path ih =>
      rw [get] at h
      rcases Option.bind_eq_some_iff.mp h with ⟨entry, hentry, hrest⟩
      refine ih ?_ hrest
      cases value with
      | map fields =>
          rw [findEntry] at hentry
          rcases Option.map_eq_some_iff.mp hentry with ⟨e, hfind, rfl⟩
          exact dated_of_map hdated e (List.mem_of_find?_eq_some hfind)
      | _ => exact absurd hentry.symm (Option.some_ne_none entry)

/-- Equal maps have equal entries. -/
theorem findEntry_of_objectEquals {xs ys : List (String × Value)}
    (h : objectEquals xs ys = true) (segment : String) :
    Agree ((map xs).findEntry segment) ((map ys).findEntry segment) := by
  induction xs generalizing ys with
  | nil =>
      cases ys with
      | nil => exact trivial
      | cons y ys => exact absurd h Bool.false_ne_true
  | cons x xs ih =>
      cases ys with
      | nil => exact absurd h Bool.false_ne_true
      | cons y ys =>
          rw [objectEquals, Bool.and_eq_true, Bool.and_eq_true, beq_iff_eq] at h
          simp only [findEntry, List.find?_cons, ← h.1.1]
          rcases hkey : x.1 == segment with _ | _
          · exact ih h.2
          · exact h.1.2

/-- Equal values have equal entries. -/
theorem findEntry_of_equals {v w : Value} (htype : v.typeOrder ≠ .serverTimestamp)
    (h : v.equals w = true) (segment : String) :
    Agree (v.findEntry segment) (w.findEntry segment) := by
  have hsame := typeOrder_of_equals h
  cases sameType_of_eq hsame with
  | map xs ys _ =>
      rw [equals.eq_def, if_neg (not_not_intro hsame)] at h
      have hxs : isServerTimestamp xs = false := by
        by_contra hserver
        rw [typeOrder, if_pos (Bool.eq_true_of_not_eq_false hserver)] at htype
        exact htype rfl
      simp only [hxs, Bool.false_eq_true, if_false] at h
      exact findEntry_of_objectEquals h segment
  | _ => exact trivial

/-- No path leads through a pending time in a value that is equal to one
    where it does not. -/
theorem plain_of_equals {v w : Value} {path : FieldPath} (hplain : w.Plain path)
    (h : v.equals w = true) : v.Plain path := by
  induction path generalizing v w with
  | nil => trivial
  | cons segment path ih =>
      rw [Plain] at hplain ⊢
      have htype : v.typeOrder ≠ .serverTimestamp := typeOrder_of_equals h ▸ hplain.1
      refine ⟨htype, fun x hx => ?_⟩
      have hentry := findEntry_of_equals htype h segment
      rcases hw : w.findEntry segment with _ | y
      · rw [hx, hw] at hentry
        exact hentry.elim
      · rw [hx, hw] at hentry
        exact ih (hplain.2 y hw) hentry

/-- Equal values agree along a path. -/
theorem get_of_equals {v w : Value} {path : FieldPath} (hplain : v.Plain path)
    (h : v.equals w = true) : Agree (v.get path) (w.get path) := by
  induction path generalizing v w with
  | nil => exact h
  | cons segment path ih =>
      rw [Plain] at hplain
      rw [get, get]
      have hentry := findEntry_of_equals hplain.1 h segment
      rcases hv : v.findEntry segment with _ | x <;> rcases hw : w.findEntry segment with _ | y
      · exact trivial
      · rw [hv, hw] at hentry
        exact hentry.elim
      · rw [hv, hw] at hentry
        exact hentry.elim
      · rw [hv, hw] at hentry
        exact ih (hplain.2 x hv) hentry

end Value

/-- `MutableDocument::DocumentType` -/
inductive DocumentType where
  | invalid
  | foundDocument
  | noDocument
  | unknownDocument
  deriving DecidableEq

/-- `MutableDocument::DocumentState` -/
inductive DocumentState where
  | hasLocalMutations
  | hasCommittedMutations
  | synced
  deriving DecidableEq

/-- `MutableDocument`, with what its values have. -/
structure Document where
  key : DocumentKey
  documentType : DocumentType
  value : Value
  documentState : DocumentState
  dated : value.dated = true

namespace Document

/-- A document that the backend has, with a text as its name. -/
def ofText (path : ResourcePath) (valid : path.length % 2 = 0) (text : String) : Document :=
  ⟨⟨path, valid⟩, .foundDocument, .map [("name", .string text)], .synced, rfl⟩

/-- `has_local_mutations` -/
def hasLocalMutations (d : Document) : Bool :=
  d.documentState = .hasLocalMutations

/-- `has_committed_mutations` -/
def hasCommittedMutations (d : Document) : Bool :=
  d.documentState = .hasCommittedMutations

/-- `is_found_document` -/
def isFoundDocument (d : Document) : Bool :=
  d.documentType = .foundDocument

/-- `field` -/
def field (d : Document) (path : FieldPath) : Option Value :=
  d.value.get path

/-- Two fields of documents compare without an abort. -/
theorem compareOrAbort_field {d e : Document} {path path' : FieldPath} {v w : Value}
    (hd : d.field path = some v) (he : e.field path' = some w) :
    v.compareOrAbort w = some (v.compare w) :=
  Value.compareOrAbort_eq v w (Value.dated_get d.dated hd) (Value.dated_get e.dated he)

end Document

/-- `DocumentComparator`: an order of documents that tells those with
    different keys apart. -/
structure DocumentComparator where
  compare : Document → Document → ComparisonResult
  transCmp : Std.TransCmp compare
  key_of_compare : ∀ {d e : Document}, compare d e = .eq → d.key = e.key

instance (c : DocumentComparator) : Std.TransCmp c.compare := c.transCmp

/-- `ByKey` -/
def DocumentComparator.byKey : DocumentComparator where
  compare lhs rhs := lhs.key.compareTo rhs.key
  transCmp := Encoding.transCmp_on DocumentKey.compareTo Document.key
  key_of_compare := DocumentKey.eq_of_compareTo

end FirestoreCore

end JkbEmpOffers
