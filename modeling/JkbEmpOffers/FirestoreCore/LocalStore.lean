import JkbEmpOffers.FirestoreCore.DocumentSet
import JkbEmpOffers.FirestoreCore.Query
import JkbEmpOffers.Library.Sorting

/-!
# What the Client Has

The local store answers a query by reading all of its documents, and tells
the views which of them have changed. Both are maps of documents by key;
`Documents` is such a map in which every document is under its own key.

`Query.result` is the answer to a query as the query itself says it: the
documents that match, in order, as far as the limit allows. No function of
the source computes it like this. It is what the views are measured by.

## Main definitions

* `Documents`: Documents under their keys.
* `Documents.union`: What there is after a change.
* `Documents.executeFullCollectionScan`: The documents that match.
* `Query.inward`: The order that a limit goes by.
* `Query.result`: The answer to a query.

## Theorems

* `find_union`, `find_scan`: What is found after a change, and in a scan.
-/

namespace JkbEmpOffers

namespace FirestoreCore

/-- A `DocumentMap` with every document under its own key. -/
structure Documents where
  map : DocumentMap
  keyed : ∀ e ∈ map.elements, e.2.key = e.1

namespace Documents

/-- The document with a key. -/
def find (documents : Documents) (key : DocumentKey) : Option Document :=
  documents.map.find key

/-- An entry is what is found under its key. -/
theorem mem_elements {documents : Documents} {k : DocumentKey} {d : Document} :
    (k, d) ∈ documents.map.elements ↔ documents.find k = some d :=
  SortedMap.find_eq_some.symm

/-- And it is a document with that key. -/
theorem key_of_find {documents : Documents} {k : DocumentKey} {d : Document}
    (h : documents.find k = some d) : d.key = k :=
  documents.keyed (k, d) (mem_elements.mpr h)

/-- No documents. -/
def empty : Documents := ⟨SortedMap.empty, fun _ h => absurd h List.not_mem_nil⟩

/-- What there is after documents have changed. -/
def union (documents changes : Documents) : Documents where
  map := documents.map.union changes.map
  keyed := by
    rintro ⟨k, d⟩ hmem
    have hfind := SortedMap.find_eq_some.mpr hmem
    rw [SortedMap.find_union, Option.or_eq_some_iff] at hfind
    rcases hfind with hfind | ⟨-, hfind⟩
    · exact changes.key_of_find hfind
    · exact documents.key_of_find hfind

/-- Changes go before what was there. -/
theorem find_union (documents changes : Documents) (k : DocumentKey) :
    (documents.union changes).find k = (changes.find k).or (documents.find k) :=
  SortedMap.find_union k

/-- What there is after one document has been written. -/
def insert (documents : Documents) (d : Document) : Documents where
  map := documents.map.insert d.key d
  keyed := by
    rintro ⟨k, e⟩ hmem
    have hfind := SortedMap.find_eq_some.mpr hmem
    rw [SortedMap.find_insert] at hfind
    split_ifs at hfind with hk
    · rw [← Option.some.inj hfind, hk]
    · exact documents.key_of_find hfind

/-- A new document replaces the one with its key. -/
theorem find_insert (documents : Documents) (d : Document) (k : DocumentKey) :
    (documents.insert d).find k = if k = d.key then some d else documents.find k :=
  SortedMap.find_insert k

/-- The documents of a list. -/
def ofList (docs : List Document) : Documents :=
  docs.foldr (fun d documents => documents.insert d) empty

/-- Nothing is found that was not put in. -/
theorem mem_of_find_ofList {docs : List Document} {k : DocumentKey} {d : Document}
    (h : (ofList docs).find k = some d) : d ∈ docs := by
  induction docs with
  | nil => exact absurd h.symm (Option.some_ne_none d)
  | cons e docs ih =>
      rw [ofList, List.foldr_cons, find_insert] at h
      split_ifs at h
      · exact Option.some.inj h ▸ List.mem_cons_self
      · exact List.mem_cons_of_mem e (ih h)

/-- `ExecuteFullCollectionScan` -/
def executeFullCollectionScan (documents : Documents) (query : Query) : Documents where
  map := documents.map.filterValues query.matchesDoc
  keyed e he := documents.keyed e (List.mem_of_mem_filter he)

/-- A scan finds the documents that match. -/
theorem find_scan {documents : Documents} {q : Query} {k : DocumentKey} {d : Document} :
    (documents.executeFullCollectionScan q).find k = some d ↔
      documents.find k = some d ∧ q.matchesDoc d = true := by
  have hfind : (documents.executeFullCollectionScan q).find k
      = (documents.find k).filter q.matchesDoc := SortedMap.find_filterValues q.matchesDoc k
  rw [hfind, Option.filter_eq_some_iff]

end Documents

namespace Query

/-- The order that a limit goes by, from what it keeps to what it drops. -/
def inward (q : Query) (d e : Document) : ComparisonResult :=
  if q.hasLimitToFirst then q.comparator.compare d e else q.comparator.compare e d

instance (q : Query) : Std.TransCmp q.inward := by
  rcases hfirst : q.hasLimitToFirst with _ | _
  · have hinward : q.inward = fun d e => q.comparator.compare e d :=
      funext fun d => funext fun e => by rw [inward, hfirst, if_neg Bool.false_ne_true]
    rw [hinward]
    exact Std.TransCmp.opposite
  · have hinward : q.inward = q.comparator.compare :=
      funext fun d => funext fun e => by rw [inward, hfirst, if_pos rfl]
    rw [hinward]
    infer_instance

/-- What the limit leaves of documents in order. -/
def limited (q : Query) (docs : List Document) : List Document :=
  if q.limitType = .none then docs
  else if q.hasLimitToFirst then docs.take q.limit
  else docs.drop (docs.length - q.limit)

/-- The documents that match, in order. -/
def ordered (q : Query) (documents : Documents) : List Document :=
  ((documents.executeFullCollectionScan q).map.elements.map Prod.snd).mergeSort fun d e =>
    (q.comparator.compare d e).isLE

/-- The answer to a query. -/
def result (q : Query) (documents : Documents) : List Document :=
  q.limited (q.ordered documents)

/-- So the answer of a query has these, in its order. -/
theorem mem_ordered {q : Query} {documents : Documents} {d : Document} :
    d ∈ q.ordered documents ↔ documents.find d.key = some d ∧ q.matchesDoc d = true := by
  rw [ordered, List.mem_mergeSort, List.mem_map, ← Documents.find_scan]
  constructor
  · rintro ⟨⟨k, d⟩, hmem, rfl⟩
    rw [Documents.keyed _ _ hmem]
    exact Documents.mem_elements.mp hmem
  · exact fun h => ⟨(d.key, d), Documents.mem_elements.mpr h, rfl⟩

/-- The documents that match are in strict order. -/
theorem sorted_ordered (q : Query) (documents : Documents) :
    (q.ordered documents).Pairwise fun d e => q.comparator.compare d e = .lt := by
  refine Sorting.pairwise_mergeSort_of_ne (List.pairwise_map.mpr ?_)
  -- A map has no two documents of one key.
  refine (documents.executeFullCollectionScan q).map.sorted.imp_of_mem ?_
  intro e f he hf hlt htie
  have hkey := q.comparator.key_of_compare htie
  rw [Documents.keyed _ e he, Documents.keyed _ f hf] at hkey
  rw [hkey, SortedSet.cmp_self DocumentKey.compareTo] at hlt
  exact Ordering.noConfusion hlt

end Query

end FirestoreCore

end JkbEmpOffers
