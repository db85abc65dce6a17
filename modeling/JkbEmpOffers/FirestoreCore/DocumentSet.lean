import JkbEmpOffers.FirestoreCore.Document
import JkbEmpOffers.Library.SortedSet

/-!
# Sets of Documents

The documents that a view shows, found by key through one container and kept
in the order of the query by another. That the two hold the same documents is
a field of `DocumentSet`. It is what an update has to care about: the place
of a document in the order depends on its fields, so the version that leaves
has to be looked up before it can be erased.

## Main definitions

* `DocumentMap`, `DocumentKeySet`: Documents and sets, by key.
* `DocumentSet`: Documents by key and in order.
* `DocumentSet.insert`, `DocumentSet.erase`: Its updates.

## Theorems

* `getDocument_eq_some`: What is found under a key.
* `getDocument_insert`, `getDocument_erase`: An update changes one key.
* `ext_getDocument`: A set is determined by what is found in it.
* `size_insert`, `size_erase`: The number of documents.
* `indexOf_insert`, `indexOf_erase`: Where a document comes and goes.
* `size_le_of_keys`, `size_lt_of_keys`: It depends on the keys alone.
-/

namespace JkbEmpOffers

namespace FirestoreCore

/-- `DocumentMap` -/
abbrev DocumentMap := SortedMap DocumentKey.compareTo Document

/-- `DocumentKeySet` -/
abbrev DocumentKeySet := SortedSet DocumentKey.compareTo

/-- `DocumentSet` -/
structure DocumentSet (c : DocumentComparator) where
  index : DocumentMap
  sortedSet : SortedSet c.compare
  agree : ∀ k d, (k, d) ∈ index ↔ d ∈ sortedSet ∧ d.key = k

namespace DocumentSet

variable {c : DocumentComparator}

/-- The set with no document. -/
def empty : DocumentSet c where
  index := SortedMap.empty
  sortedSet := SortedSet.empty
  agree _ _ := by
    constructor
    · exact fun h => absurd h List.not_mem_nil
    · exact fun h => absurd h.1 List.not_mem_nil

/-- The documents in order. -/
def toList (s : DocumentSet c) : List Document := s.sortedSet.elements

/-- `size` -/
def size (s : DocumentSet c) : Nat := s.sortedSet.size

/-- `GetDocument` -/
def getDocument (s : DocumentSet c) (key : DocumentKey) : Option Document :=
  s.index.find key

/-- `GetFirstDocument` -/
def getFirstDocument (s : DocumentSet c) : Option Document := s.toList.head?

/-- `GetLastDocument` -/
def getLastDocument (s : DocumentSet c) : Option Document := s.toList.getLast?

/-- `IndexOf`, with `npos` as none. -/
def indexOf (s : DocumentSet c) (key : DocumentKey) : Option Nat :=
  (s.getDocument key).map s.sortedSet.indexOf

/-- What is found under a key is in the set and has that key. -/
theorem getDocument_eq_some {s : DocumentSet c} {k : DocumentKey} {d : Document} :
    s.getDocument k = some d ↔ d ∈ s.toList ∧ d.key = k :=
  SortedMap.find_eq_some.trans (s.agree k d)

/-- Documents of one key in a set are one. -/
theorem eq_of_key {s : DocumentSet c} {d e : Document} (hd : d ∈ s.toList) (he : e ∈ s.toList)
    (h : d.key = e.key) : d = e := by
  have hfind := getDocument_eq_some.mpr ⟨hd, h⟩
  rw [getDocument_eq_some.mpr ⟨he, rfl⟩] at hfind
  exact (Option.some.inj hfind).symm

/-- No two documents with different keys tie. -/
theorem compare_ne_of_key {d e : Document} (h : d.key ≠ e.key) : c.compare d e ≠ .eq :=
  fun heq => h (c.key_of_compare heq)

/-- Erasing the document of a key from both containers. -/
theorem agree_erase {s : DocumentSet c} {key : DocumentKey} {doc : Document}
    (hdoc : s.getDocument key = some doc) (k : DocumentKey) (d : Document) :
    (k, d) ∈ s.index.erase key ↔ d ∈ s.sortedSet.erase doc ∧ d.key = k := by
  rcases getDocument_eq_some.mp hdoc with ⟨hmem, hkey⟩
  rw [SortedMap.mem_erase, s.agree, SortedSet.mem_erase, and_right_comm]
  refine and_congr_left fun hk => and_congr_right fun hd => not_congr ?_
  constructor
  · intro heq
    have heq : key = k := DocumentKey.eq_of_compareTo heq
    rw [eq_of_key hmem hd (hkey.trans (heq.trans hk.symm))]
    exact SortedSet.cmp_self c.compare d
  · intro heq
    have heq := c.key_of_compare heq
    rw [← hkey, ← hk, heq]
    exact SortedSet.cmp_self DocumentKey.compareTo d.key

/-- `erase` -/
def erase (s : DocumentSet c) (key : DocumentKey) : DocumentSet c :=
  match h : s.getDocument key with
  | none => s
  | some doc => ⟨s.index.erase key, s.sortedSet.erase doc, agree_erase h⟩

/-- A key is erased with the document that is under it. -/
theorem toList_erase {s : DocumentSet c} {doc : Document} {key : DocumentKey}
    (hdoc : s.getDocument key = some doc) :
    (s.erase key).toList = (s.sortedSet.erase doc).elements := by
  rw [erase]
  split
  · rename_i hnone
    exact absurd (hnone.symm.trans hdoc) (Option.some_ne_none doc).symm
  · rename_i doc' hdoc'
    rw [hdoc', Option.some.injEq] at hdoc
    subst hdoc
    rfl

/-- The document that is found under the key of a document in the set. -/
theorem getDocument_of_mem {s : DocumentSet c} {doc : Document} (h : doc ∈ s.toList) :
    s.getDocument doc.key = some doc :=
  getDocument_eq_some.mpr ⟨h, rfl⟩

/-- Without its last document a set ends one place earlier. -/
theorem toList_erase_last {s : DocumentSet c} {doc : Document}
    (h : s.getLastDocument = some doc) : (s.erase doc.key).toList = s.toList.dropLast := by
  rw [toList_erase (getDocument_of_mem (List.mem_of_getLast? h))]
  exact SortedSet.erase_getLast h

/-- Without its first it starts one place later. -/
theorem toList_erase_first {s : DocumentSet c} {doc : Document}
    (h : s.getFirstDocument = some doc) : (s.erase doc.key).toList = s.toList.tail := by
  rw [toList_erase (getDocument_of_mem (List.mem_of_mem_head? h))]
  exact SortedSet.erase_head h

/-- No document is behind the last. -/
theorem compare_last {s : DocumentSet c} {e : Document} (he : s.getLastDocument = some e)
    {d : Document} (hd : d ∈ s.toList) : c.compare d e ≠ .gt := by
  rcases List.getLast?_eq_some_iff.mp he with ⟨front, hfront⟩
  have hsorted := s.sortedSet.sorted
  rw [show s.sortedSet.elements = _ from hfront, List.pairwise_append] at hsorted
  rw [hfront, List.mem_append, List.mem_singleton] at hd
  rcases hd with hd | rfl
  · rw [hsorted.2.2 d hd e List.mem_cons_self]
    exact Ordering.noConfusion
  · rw [SortedSet.cmp_self c.compare]
    exact Ordering.noConfusion

/-- No document is before the first. -/
theorem compare_first {s : DocumentSet c} {e : Document} (he : s.getFirstDocument = some e)
    {d : Document} (hd : d ∈ s.toList) : c.compare d e ≠ .lt := by
  rcases List.head?_eq_some_iff.mp he with ⟨rest, hrest⟩
  have hsorted := s.sortedSet.sorted
  rw [show s.sortedSet.elements = _ from hrest, List.pairwise_cons] at hsorted
  rw [hrest, List.mem_cons] at hd
  rcases hd with rfl | hd
  · rw [SortedSet.cmp_self c.compare]
    exact Ordering.noConfusion
  · rw [Std.OrientedCmp.gt_of_lt (hsorted.1 d hd)]
    exact Ordering.noConfusion

/-- Erasing a key leaves the other keys alone. -/
theorem getDocument_erase (s : DocumentSet c) (key k : DocumentKey) :
    (s.erase key).getDocument k = if k = key then none else s.getDocument k := by
  rw [erase]
  split
  · rename_i hnone
    split_ifs with heq
    · rw [heq, hnone]
    · rfl
  · exact SortedMap.find_erase k

/-- Inserting a document where there is none with its key. -/
theorem agree_insert {s : DocumentSet c} {doc : Document} (hnone : s.getDocument doc.key = none)
    (k : DocumentKey) (d : Document) :
    (k, d) ∈ s.index.insert doc.key doc ↔ d ∈ s.sortedSet.insert doc ∧ d.key = k := by
  have hnew : ∀ e ∈ s.sortedSet, e.key ≠ doc.key := by
    intro e he heq
    rw [getDocument_eq_some.mpr ⟨he, heq⟩] at hnone
    exact absurd hnone (Option.some_ne_none e)
  rw [SortedMap.mem_insert, s.agree, SortedSet.mem_insert, or_and_right, Prod.mk.injEq]
  refine or_congr ⟨fun h => ⟨h.2, h.2 ▸ h.1.symm⟩, fun h => ⟨h.1 ▸ h.2.symm, h.1⟩⟩ ?_
  constructor
  · rintro ⟨⟨hd, hk⟩, -⟩
    exact ⟨⟨hd, compare_ne_of_key (hnew d hd).symm⟩, hk⟩
  · rintro ⟨⟨hd, -⟩, hk⟩
    exact ⟨⟨hd, hk⟩, hk ▸ hnew d hd⟩

/-- `insert`: what has the key of the document leaves both containers first. -/
def insert (s : DocumentSet c) (document : Document) : DocumentSet c :=
  let removed := s.erase document.key
  { index := removed.index.insert document.key document
    sortedSet := removed.sortedSet.insert document
    agree := agree_insert (by rw [getDocument_erase, if_pos rfl]) }

/-- And so does inserting a document under its key. -/
theorem getDocument_insert (s : DocumentSet c) (doc : Document) (k : DocumentKey) :
    (s.insert doc).getDocument k = if k = doc.key then some doc else s.getDocument k := by
  have hfind : (s.insert doc).getDocument k
      = if k = doc.key then some doc else (s.erase doc.key).getDocument k :=
    SortedMap.find_insert k
  rw [hfind, getDocument_erase]
  split_ifs <;> rfl

/-- A set is determined by what is found in it. -/
theorem ext_getDocument {s t : DocumentSet c} (h : ∀ k, s.getDocument k = t.getDocument k) :
    s = t := by
  have hindex : s.index = t.index := SortedMap.ext_find h
  have hsorted : s.sortedSet = t.sortedSet := by
    refine SortedSet.eq_of_mem_iff fun d => ?_
    have hs := s.agree d.key d
    have ht := t.agree d.key d
    rw [hindex] at hs
    exact (and_iff_left rfl).symm.trans (hs.symm.trans (ht.trans (and_iff_left rfl)))
  cases s
  cases t
  simp only at hindex hsorted
  subst hindex hsorted
  rfl

/-- A key that was there makes the set smaller by one. -/
theorem size_erase {s : DocumentSet c} {k : DocumentKey} {d : Document}
    (h : s.getDocument k = some d) : (s.erase k).size + 1 = s.size := by
  rw [erase]
  split
  · rename_i hnone
    exact absurd (hnone.symm.trans h) (Option.some_ne_none d).symm
  · rename_i doc hdoc
    exact SortedSet.size_erase (getDocument_eq_some.mp hdoc).1

/-- A document with a new key ties with none of the set. -/
theorem compare_ne_of_none {s : DocumentSet c} {doc : Document}
    (h : s.getDocument doc.key = none) : ∀ e ∈ s.sortedSet, c.compare doc e ≠ .eq := by
  intro e he
  refine compare_ne_of_key fun heq => ?_
  rw [getDocument_eq_some.mpr ⟨he, heq.symm⟩] at h
  exact absurd h (Option.some_ne_none e)

/-- Where nothing has its key, a document only goes into the containers. -/
theorem insert_of_none {s : DocumentSet c} {doc : Document} (h : s.getDocument doc.key = none) :
    (s.insert doc).sortedSet = s.sortedSet.insert doc := by
  have herase : s.erase doc.key = s := by
    refine ext_getDocument fun k => ?_
    rw [getDocument_erase]
    split_ifs with heq
    · rw [heq, h]
    · rfl
  exact congrArg (fun s : DocumentSet c => s.sortedSet.insert doc) herase

/-- So it makes the set larger by one. -/
theorem size_insert {s : DocumentSet c} {doc : Document} (h : s.getDocument doc.key = none) :
    (s.insert doc).size = s.size + 1 :=
  (congrArg SortedSet.size (insert_of_none h)).trans
    (SortedSet.size_insert (compare_ne_of_none h))

/-- A document leaves the list at its index. -/
theorem indexOf_erase {s : DocumentSet c} {k : DocumentKey} {doc : Document}
    (h : s.getDocument k = some doc) :
    ∃ i, s.indexOf k = some i ∧ (s.erase k).toList = s.toList.eraseIdx i := by
  refine ⟨s.sortedSet.indexOf doc, by rw [indexOf, h]; rfl, ?_⟩
  rw [toList_erase h]
  exact SortedSet.elements_erase_eraseIdx s.sortedSet doc

/-- A new document comes into the list at what is then its index. -/
theorem indexOf_insert {s : DocumentSet c} {doc : Document} (h : s.getDocument doc.key = none) :
    ∃ i, (s.insert doc).indexOf doc.key = some i ∧
      (s.insert doc).toList = s.toList.insertIdx i doc := by
  refine ⟨(s.insert doc).sortedSet.indexOf doc, ?_, ?_⟩
  · rw [indexOf, getDocument_insert, if_pos rfl]
    rfl
  · have hplace := SortedSet.elements_insert_insertIdx (compare_ne_of_none h)
    rw [← insert_of_none h] at hplace
    exact hplace

/-- No key is there twice. -/
theorem nodup_keys (s : DocumentSet c) : (s.toList.map Document.key).Nodup := by
  refine List.Nodup.map_on (fun d hd e he => eq_of_key hd he) ?_
  exact s.sortedSet.nodup_elements

/-- The keys are those under which something is found. -/
theorem mem_keys {s : DocumentSet c} {k : DocumentKey} :
    k ∈ s.toList.map Document.key ↔ ∃ d, s.getDocument k = some d := by
  rw [List.mem_map]
  exact exists_congr fun d => getDocument_eq_some.symm

/-- A set with all keys of another has at least as many documents. -/
theorem size_le_of_keys {s t : DocumentSet c}
    (h : ∀ k d, s.getDocument k = some d → ∃ e, t.getDocument k = some e) : s.size ≤ t.size := by
  have hsub : s.toList.map Document.key ⊆ t.toList.map Document.key := by
    intro k hk
    rcases mem_keys.mp hk with ⟨d, hd⟩
    exact mem_keys.mpr (h k d hd)
  have hle := (List.subperm_of_subset s.nodup_keys hsub).length_le
  rwa [List.length_map, List.length_map] at hle

/-- With one key more, it has more. -/
theorem size_lt_of_keys {s t : DocumentSet c} {k : DocumentKey} {e : Document}
    (h : ∀ k d, s.getDocument k = some d → ∃ e, t.getDocument k = some e)
    (hs : s.getDocument k = none) (ht : t.getDocument k = some e) : s.size < t.size := by
  have hnodup : (k :: s.toList.map Document.key).Nodup := by
    refine List.nodup_cons.mpr ⟨fun hk => ?_, s.nodup_keys⟩
    rcases mem_keys.mp hk with ⟨d, hd⟩
    rw [hs] at hd
    exact absurd hd.symm (Option.some_ne_none d)
  have hsub : k :: s.toList.map Document.key ⊆ t.toList.map Document.key := by
    intro k' hk'
    rcases List.mem_cons.mp hk' with rfl | hk'
    · exact mem_keys.mpr ⟨e, ht⟩
    · rcases mem_keys.mp hk' with ⟨d, hd⟩
      exact mem_keys.mpr (h k' d hd)
  have hle := (List.subperm_of_subset hnodup hsub).length_le
  rwa [List.length_cons, List.length_map, List.length_map] at hle

end DocumentSet

end FirestoreCore

end JkbEmpOffers
