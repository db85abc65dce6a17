import JkbEmpOffers.Dart
import Mathlib.Data.String.Basic
import Mathlib.Data.List.Sort

/-!
# Firestore Documents and Queries

A collection is a list of documents in the order of their ids, which is the
order in which a query without `orderBy` returns its matches. `Collection`
carries that order as a field, and with it that no two documents share an
id.

The app asks three kinds of question: all documents, the documents whose
field equals a string, and the documents whose array field contains one.
Only the unfiltered list of an offers page is ordered by a field. A document
without that field is not part of an ordered result.

How Firestore compares two field values is a parameter `le`: only the
ordered query reads it.

## Main definitions

* `Doc`: A document, an id with the map of its fields.
* `Collection`: Documents in id order.
* `Collection.put`: Creating or overwriting a document.
* `Filter`, `Lookup`, `Query`: The questions the app asks.
* `Lookup.run`, `Query.run`: The documents a snapshot holds.
* `ValueOrder`: An order of the field values.

## Theorems

* `mem_putDoc`: What a collection holds after a write.
* `pairwise_putDoc`: A write keeps the id order.
* `mem_lookup_run`: A lookup returns exactly the matching documents.
* `mem_query_run`: So does an ordered query, of those that have the field.
-/

namespace JkbEmpOffers

/-- A document: its id and `data()`. -/
structure Doc where
  id : String
  data : DartMap
  deriving DecidableEq

namespace Doc

/-- `data()[name]`, null when the document has no such field. -/
def field (d : Doc) (name : String) : Value :=
  (d.data.lookup name).getD .null

/-- Whether the document has the field at all, null or not. -/
def has (d : Doc) (name : String) : Bool :=
  (d.data.lookup name).isSome

/-- A field that is not null is in the document. -/
theorem lookup_of_field {d : Doc} {name : String} {v : Value} (hv : v ≠ .null)
    (h : d.field name = v) : d.data.lookup name = some v := by
  rw [field] at h
  rcases hlookup : d.data.lookup name with _ | w
  · rw [hlookup] at h
    exact absurd h.symm hv
  · rw [hlookup] at h
    exact congrArg some h

end Doc

/-- A collection: its documents in id order. -/
structure Collection where
  docs : List Doc
  ordered : docs.Pairwise fun d e => d.id < e.id

namespace Collection

/-- The collection with no document. -/
def empty : Collection := ⟨[], List.Pairwise.nil⟩

/-- Writing a document into a list in id order, over the one that has its id
    if there is one. -/
def putDoc (d : Doc) : List Doc → List Doc
  | [] => [d]
  | e :: es =>
    if d.id < e.id then d :: e :: es
    else if d.id = e.id then d :: es
    else e :: putDoc d es

/-- After a write the list holds the written document and none that was not
    there before. -/
theorem mem_putDoc {d x : Doc} {es : List Doc} (h : x ∈ putDoc d es) : x = d ∨ x ∈ es := by
  induction es with
  | nil => exact Or.inl (List.mem_singleton.mp h)
  | cons e es ih =>
      rw [putDoc] at h
      split_ifs at h
      -- Put in front, put over its namesake, or put further back.
      · exact List.mem_cons.mp h
      · rcases List.mem_cons.mp h with rfl | h
        · exact Or.inl rfl
        · exact Or.inr (List.mem_cons_of_mem _ h)
      · rcases List.mem_cons.mp h with rfl | h
        · exact Or.inr List.mem_cons_self
        · rcases ih h with rfl | h
          · exact Or.inl rfl
          · exact Or.inr (List.mem_cons_of_mem _ h)

theorem pairwise_putDoc (d : Doc) {es : List Doc}
    (hes : es.Pairwise fun x y => x.id < y.id) :
    (putDoc d es).Pairwise fun x y => x.id < y.id := by
  induction es with
  | nil => exact List.pairwise_singleton _ _
  | cons e es ih =>
      rcases List.pairwise_cons.mp hes with ⟨he, htail⟩
      rw [putDoc]
      split_ifs with hlt heq
      -- In front, the document is below the head and so below all of them.
      · refine List.pairwise_cons.mpr ⟨fun x hx => ?_, hes⟩
        rcases List.mem_cons.mp hx with rfl | hx
        · exact hlt
        · exact lt_trans hlt (he x hx)
      -- Over its namesake, it takes the place of an equal id.
      · refine List.pairwise_cons.mpr ⟨fun x hx => ?_, htail⟩
        rw [heq]
        exact he x hx
      -- Further back, the head stays below the document and the rest.
      · refine List.pairwise_cons.mpr ⟨fun x hx => ?_, ih htail⟩
        rcases mem_putDoc hx with rfl | hx
        · exact lt_of_le_of_ne (not_lt.mp hlt) (Ne.symm heq)
        · exact he x hx

/-- Creating a document, or overwriting the one with its id. -/
def put (c : Collection) (d : Doc) : Collection :=
  ⟨putDoc d c.docs, pairwise_putDoc d c.ordered⟩

end Collection

/-- The collections by name. -/
abbrev Store := String → Collection

/-- A `where` clause. -/
inductive Filter where
  | isEqualTo (field value : String)
  | arrayContains (field value : String)
  deriving DecidableEq

/-- Whether a document matches a `where` clause. -/
def Filter.accepts (f : Filter) (d : Doc) : Bool :=
  match f with
  | .isEqualTo field value => d.data.lookup field == some (.str value)
  | .arrayContains field value =>
    match d.data.lookup field with
    | some (.list xs) => xs.contains (.str value)
    | _ => false

/-- A query without an order. -/
structure Lookup where
  collection : String
  filter : Option Filter
  deriving DecidableEq

/-- Whether a document belongs to the result. -/
def Lookup.accepts (q : Lookup) (d : Doc) : Bool :=
  match q.filter with
  | none => true
  | some f => f.accepts d

/-- The snapshot of a query without an order: its matches by id. -/
def Lookup.run (q : Lookup) (store : Store) : List Doc :=
  (store q.collection).docs.filter q.accepts

/-- A query, with `orderBy(field, descending: true)` if it has one. -/
structure Query extends Lookup where
  orderBy : Option String
  deriving DecidableEq

/-- The snapshot of a query. With an order, the documents that have the field
    come by its value, the greatest first, and by id in the same direction
    where the values are equal. -/
def Query.run (le : Value → Value → Bool) (q : Query) (store : Store) : List Doc :=
  match q.orderBy with
  | none => q.toLookup.run store
  | some f =>
    -- The reversal puts the ids in descending order, which the sort keeps.
    ((q.toLookup.run store).filter (·.has f)).reverse.insertionSort
      fun d e => le (e.field f) (d.field f) = true

/-- How Firestore compares two field values. Any two compare, and different
    ones may be equal in its order. -/
structure ValueOrder where
  le : Value → Value → Bool
  total : ∀ v w, le v w = true ∨ le w v = true
  trans : ∀ u v w, le u v = true → le v w = true → le u w = true

theorem mem_lookup_run (q : Lookup) (store : Store) (d : Doc) :
    d ∈ q.run store ↔ d ∈ (store q.collection).docs ∧ q.accepts d = true :=
  List.mem_filter

theorem mem_query_run (le : Value → Value → Bool) (q : Query) (store : Store) (d : Doc) :
    d ∈ q.run le store ↔ d ∈ q.toLookup.run store ∧ ∀ f, q.orderBy = some f → d.has f = true := by
  rw [Query.run]
  cases q.orderBy with
  | none =>
      simp only [reduceCtorEq, IsEmpty.forall_iff, implies_true, and_true]
  | some f =>
      rw [List.mem_insertionSort, List.mem_reverse, List.mem_filter]
      simp only [Option.some.injEq, forall_eq']

end JkbEmpOffers
