import JkbEmpOffers.FirestoreCore.QueryResult

/-!
# Replaying a Snapshot

A snapshot reaches the user as a list of documents, and as a list of changes
with the index that each document had and has. The indexes are not those of
the snapshot but of the list as the earlier changes have left it: they are
computed by carrying the changes out on a copy of the old documents.

`Leads` says what the changes of a snapshot have to be for that to work: one
change at most for each key, which describes what is there before and after,
and documents that are the same where there is none. A user who asks for no
metadata changes sees no difference between documents of the same value, and
the changes may leave out as much.

`forEachChange_spec` is then about a user who keeps a list of documents and
edits it as the changes say. The list is that of the snapshot again.

## Main definitions

* `DocumentChange`: A change with its indexes.
* `QuerySnapshot.forEachChange`: The changes of a snapshot, `none` for an
  assertion that fails.
* `DocumentChange.apply`: A user's edit of a list.
* `Same`: What a user can tell apart.
* `Leads`: What the changes of a snapshot have to be.

## Theorems

* `leads_of_diff`, `leads_filter`, `leads_initial`: Which changes are so.
* `laterChanges_spec`, `firstChanges_spec`: The two ways of the source.
* `forEachChange_spec`: Replaying a snapshot.
-/

namespace JkbEmpOffers

namespace FirestoreCore

/-- `api::DocumentSnapshot`, with its metadata. -/
structure DocumentSnapshot where
  document : Document
  hasPendingWrites : Bool
  fromCache : Bool

/-- `DocumentChange::Type` -/
inductive DocumentChangeType where
  | added
  | modified
  | removed
  deriving DecidableEq

/-- `DocumentChange`, with `npos` as none. -/
structure DocumentChange where
  type : DocumentChangeType
  document : DocumentSnapshot
  oldIndex : Option Nat
  newIndex : Option Nat

namespace QuerySnapshot

variable {q : Query}

/-- `DocumentChangeTypeForChange` -/
def documentChangeTypeForChange (change : DocumentViewChange) : DocumentChangeType :=
  match change.type with
  | .added => .added
  | .modified | .metadata => .modified
  | .removed => .removed

/-- The snapshot of one document, with its metadata. -/
def documentSnapshot (snapshot : ViewSnapshot q) (document : Document) : DocumentSnapshot :=
  ⟨document, snapshot.mutatedKeys.contains document.key, snapshot.fromCache⟩

/-- The loop for a first snapshot. -/
def firstChanges (snapshot : ViewSnapshot q) :
    Option Document → Nat → List DocumentViewChange → Option (List DocumentChange)
  | _, _, [] => some []
  | lastDocument, index, change :: changes =>
    -- `Invalid event type for first snapshot`, `Got added events in wrong order`
    if change.type = .added ∧ lastDocument.all fun last =>
        q.comparator.compare last change.document == .lt then
      (firstChanges snapshot (some change.document) (index + 1) changes).map fun rest =>
        ⟨.added, documentSnapshot snapshot change.document, none, some index⟩ :: rest
    else none

/-- What a change removes from the tracker, and from where. -/
def removeChanged (tracker : DocumentSet q.comparator) (change : DocumentViewChange) :
    Option (Option Nat × DocumentSet q.comparator) :=
  if change.type = .added then some (none, tracker)
  else
    -- `Index for document not found`
    (tracker.indexOf change.document.key).map fun index =>
      (some index, tracker.erase change.document.key)

/-- What a change inserts into the tracker, and to where. -/
def insertChanged (tracker : DocumentSet q.comparator) (change : DocumentViewChange) :
    Option Nat × DocumentSet q.comparator :=
  if change.type = .removed then (none, tracker)
  else
    ((tracker.insert change.document).indexOf change.document.key, tracker.insert change.document)

/-- The loop for all other snapshots. -/
def laterChanges (snapshot : ViewSnapshot q) (includeMetadataChanges : Bool) :
    DocumentSet q.comparator → List DocumentViewChange → Option (List DocumentChange)
  | _, [] => some []
  | tracker, change :: changes =>
    if !includeMetadataChanges && change.type = .metadata then
      laterChanges snapshot includeMetadataChanges tracker changes
    else
      (removeChanged tracker change).bind fun (oldIndex, removed) =>
        let inserted := insertChanged removed change
        (laterChanges snapshot includeMetadataChanges inserted.2 changes).map fun rest =>
          ⟨documentChangeTypeForChange change, documentSnapshot snapshot change.document,
            oldIndex, inserted.1⟩ :: rest

/-- `ForEachChange`, with the changes that the callback is given. -/
def forEachChange (snapshot : ViewSnapshot q) (includeMetadataChanges : Bool) :
    Option (List DocumentChange) :=
  -- `ThrowInvalidArgument`
  if includeMetadataChanges && snapshot.excludesMetadataChanges then none
  else if snapshot.oldDocuments.toList.isEmpty then
    firstChanges snapshot none 0 snapshot.documentChanges
  else laterChanges snapshot includeMetadataChanges snapshot.oldDocuments snapshot.documentChanges

end QuerySnapshot

/-- An edit of a list as a change says. -/
def DocumentChange.apply (docs : List Document) (change : DocumentChange) : List Document :=
  let removed :=
    match change.oldIndex with
    | some index => docs.eraseIdx index
    | none => docs
  match change.newIndex with
  | some index => removed.insertIdx index change.document.document
  | none => removed

/-- Documents that a user cannot tell apart, who sees all changes or only
    those of values. -/
def Same (exact : Bool) (v d : Document) : Prop :=
  v.key = d.key ∧ (v = d ∨ exact = false ∧ v.value.equals d.value = true)

/-- The same of what is under a key. -/
inductive Alike (exact : Bool) : Option Document → Option Document → Prop where
  | none : Alike exact none none
  | some {v d : Document} (h : Same exact v d) : Alike exact (some v) (some d)

/-- What is there and what the changes say leads to what is there then. -/
structure Leads {c : DocumentComparator} (exact : Bool) (s : DocumentSet c)
    (changes : List DocumentViewChange) (t : DocumentSet c) : Prop where
  nodup : (changes.map fun change => change.document.key).Nodup
  describes : ∀ change ∈ changes, Describes change.document.key
    (s.getDocument change.document.key) (t.getDocument change.document.key) (some change)
  elsewhere : ∀ k, (k ∉ changes.map fun change => change.document.key) →
    Alike exact (s.getDocument k) (t.getDocument k)

/-- A document is the same as itself for every user. -/
theorem Same.refl (exact : Bool) (d : Document) : Same exact d d := ⟨rfl, Or.inl rfl⟩

/-- What a user cannot tell apart in two steps, it cannot in one. -/
theorem Same.trans {exact : Bool} {u v w : Document} (h : Same exact u v) (h' : Same exact v w) :
    Same exact u w := by
  refine ⟨h.1.trans h'.1, ?_⟩
  rcases h.2 with rfl | ⟨hexact, huv⟩
  · exact h'.2
  · rcases h'.2 with rfl | ⟨-, hvw⟩
    · exact Or.inr ⟨hexact, huv⟩
    · exact Or.inr ⟨hexact, Value.equals_trans _ _ _ huv hvw⟩

/-- What has not changed is alike. -/
theorem Alike.refl (exact : Bool) (o : Option Document) : Alike exact o o := by
  cases o with
  | none => exact .none
  | some d => exact .some (Same.refl exact d)

/-- What is alike with its metadata is alike without it. -/
theorem Alike.of_exact {o o' : Option Document} (h : Alike true o o') (exact : Bool) :
    Alike exact o o' := by
  cases h with
  | none => exact .none
  | some h =>
      refine .some ⟨h.1, h.2.imp_right fun hfalse => ?_⟩
      exact absurd hfalse.1 Bool.noConfusion

section

variable {c : DocumentComparator} {s t : DocumentSet c} {changes : List DocumentViewChange}
  {exact : Bool}

/-- So changes that are right with the metadata are right without it. -/
theorem Leads.of_exact (h : Leads true s changes t) (exact : Bool) : Leads exact s changes t :=
  ⟨h.nodup, h.describes, fun k hk => (h.elsewhere k hk).of_exact exact⟩

/-- The changes of a change set, in any order. -/
theorem leads_of_diff {changeSet : DocumentViewChangeSet} (h : Diff s t changeSet)
    (hperm : changes.Perm changeSet.getChanges) : Leads true s changes t := by
  have hkey : ∀ e ∈ changeSet.elements, e.2.document.key = e.1 := by
    rintro ⟨k, change⟩ hmem
    have hdescribes := h k
    rw [SortedMap.find_eq_some.mpr hmem] at hdescribes
    exact hdescribes.key
  have hkeys : changeSet.getChanges.map (fun change => change.document.key) = changeSet.keys := by
    rw [DocumentViewChangeSet.getChanges, List.map_map]
    exact List.map_congr_left hkey
  have hperm' := hperm.map fun change => change.document.key
  rw [hkeys] at hperm'
  refine ⟨hperm'.nodup_iff.mpr ?_, fun change hmem => ?_, fun k hk => ?_⟩
  -- The change set has one change at most under each key.
  · refine List.pairwise_map.mpr (changeSet.sorted.imp fun {e f} hlt heq => ?_)
    rw [heq, SortedSet.cmp_self DocumentKey.compareTo] at hlt
    exact Ordering.noConfusion hlt
  · rcases List.mem_map.mp (hperm.mem_iff.mp hmem) with ⟨e, he, rfl⟩
    have hdescribes := h e.2.document.key
    have hfind : changeSet.find e.2.document.key = some e.2 := by
      rw [hkey e he]
      exact SortedMap.find_eq_some.mpr he
    rwa [hfind] at hdescribes
  -- Where it has none, nothing has changed.
  · have hdescribes := h k
    have hnone : changeSet.find k = none := by
      refine SortedMap.find_eq_none.mpr fun change hmem => hk (hperm'.mem_iff.mpr ?_)
      exact List.mem_map_of_mem (f := Prod.fst) hmem
    rw [hnone] at hdescribes
    rw [hdescribes.eq_of_none]
    exact Alike.refl true _

/-- A change of metadata is none for who sees only values. -/
theorem alike_of_metadata {change : DocumentViewChange} {k : DocumentKey}
    (h : Describes k (s.getDocument k) (t.getDocument k) (some change))
    (htype : change.type = .metadata) : Alike false (s.getDocument k) (t.getDocument k) := by
  rcases h.exists_of_metadata htype with ⟨x, y, hx, hy, hequals⟩
  have hkeys := (DocumentSet.getDocument_eq_some.mp hx).2.trans
    (DocumentSet.getDocument_eq_some.mp hy).2.symm
  rw [hx, hy]
  exact .some ⟨hkeys, Or.inr ⟨rfl, hequals⟩⟩

/-- Without the changes of metadata, the values still lead there. -/
theorem leads_filter (h : Leads true s changes t) :
    Leads false s (changes.filter fun change => change.type ≠ .metadata) t := by
  refine ⟨h.nodup.sublist (List.filter_sublist.map _),
    fun change hmem => h.describes change (List.mem_of_mem_filter hmem), fun k hk => ?_⟩
  by_cases hmem : k ∈ changes.map fun change => change.document.key
  -- The change of this key has been left out, so it is one of metadata.
  · rcases List.mem_map.mp hmem with ⟨change, hchange, rfl⟩
    have htype : change.type = .metadata := by
      by_contra hne
      exact hk (List.mem_map_of_mem (List.mem_filter.mpr ⟨hchange, decide_eq_true hne⟩))
    exact alike_of_metadata (h.describes change hchange) htype
  · exact (h.elsewhere k hmem).of_exact false

/-- All documents as added, where there were none. -/
theorem leads_initial (exact : Bool) (t : DocumentSet c) :
    Leads exact DocumentSet.empty (t.toList.map fun d => ⟨d, .added⟩) t := by
  have hkeys : (t.toList.map fun d => (⟨d, .added⟩ : DocumentViewChange)).map
      (fun change => change.document.key) = t.toList.map Document.key := List.map_map
  refine ⟨?_, fun change hmem => ?_, fun k hk => ?_⟩
  · rw [hkeys]
    exact t.nodup_keys
  · rcases List.mem_map.mp hmem with ⟨d, hd, rfl⟩
    rw [DocumentSet.getDocument_of_mem hd]
    exact .added d rfl
  · rw [hkeys] at hk
    rcases ht : t.getDocument k with _ | d
    · exact .none
    · exact absurd (DocumentSet.mem_keys.mpr ⟨d, ht⟩) hk

/-- The first change is carried out, and the others lead on from there. -/
theorem Leads.tail {change : DocumentViewChange} (h : Leads exact s (change :: changes) t)
    {m : DocumentSet c}
    (hhere : Alike exact (m.getDocument change.document.key)
      (t.getDocument change.document.key))
    (helse : ∀ k, k ≠ change.document.key → m.getDocument k = s.getDocument k) :
    Leads exact m changes t := by
  have hnodup := h.nodup
  rw [List.map_cons, List.nodup_cons] at hnodup
  refine ⟨hnodup.2, fun change' hmem => ?_, fun k hk => ?_⟩
  · have hne : change'.document.key ≠ change.document.key := by
      intro heq
      exact hnodup.1 (heq ▸ List.mem_map_of_mem (f := fun change => change.document.key) hmem)
    rw [helse _ hne]
    exact h.describes change' (List.mem_cons_of_mem _ hmem)
  · by_cases heq : k = change.document.key
    · rw [heq]
      exact hhere
    · rw [helse k heq]
      refine h.elsewhere k ?_
      rw [List.map_cons, List.mem_cons, not_or]
      exact ⟨heq, hk⟩

end

/-! ## Editing a list -/

/-- Lists that agree place by place do so without one of the places. -/
theorem forall₂_eraseIdx {α β : Type*} {R : α → β → Prop} {l : List α} {l' : List β}
    (h : List.Forall₂ R l l') (i : Nat) : List.Forall₂ R (l.eraseIdx i) (l'.eraseIdx i) := by
  induction h generalizing i with
  | nil => exact .nil
  | cons hhead htail ih =>
      cases i with
      | zero => exact htail
      | succ i => exact .cons hhead (ih i)

/-- And with one more. -/
theorem forall₂_insertIdx {α β : Type*} {R : α → β → Prop} {l : List α} {l' : List β} {x : α}
    {y : β} (h : List.Forall₂ R l l') (hxy : R x y) (i : Nat) :
    List.Forall₂ R (l.insertIdx i x) (l'.insertIdx i y) := by
  induction h generalizing i with
  | nil =>
      cases i with
      | zero => exact .cons hxy .nil
      | succ i => exact .nil
  | cons hhead htail ih =>
      cases i with
      | zero => exact .cons hxy (.cons hhead htail)
      | succ i => exact .cons hhead (ih i)

/-- And over a third list, where agreeing is transitive. -/
theorem forall₂_trans {α : Type*} {R : α → α → Prop} (htrans : ∀ x y z, R x y → R y z → R x z)
    {l l' l'' : List α} (h : List.Forall₂ R l l') (h' : List.Forall₂ R l' l'') :
    List.Forall₂ R l l'' := by
  induction h generalizing l'' with
  | nil => exact h'
  | cons hhead htail ih =>
      cases h' with
      | cons hhead' htail' => exact .cons (htrans _ _ _ hhead hhead') (ih htail')

namespace QuerySnapshot

variable {q : Query} {snapshot : ViewSnapshot q} {tracker t : DocumentSet q.comparator}
  {exact : Bool} {docs : List Document}

/-- A document that is there loses its place, in the tracker and in the user's
    list. -/
theorem removeChanged_spec {change : DocumentViewChange} (hne : change.type ≠ .added)
    {old : Document} (hold : tracker.getDocument change.document.key = some old)
    (hdocs : List.Forall₂ (Same exact) docs tracker.toList) :
    ∃ i, removeChanged tracker change = some (some i, tracker.erase change.document.key) ∧
      List.Forall₂ (Same exact) (docs.eraseIdx i)
        (tracker.erase change.document.key).toList := by
  rcases DocumentSet.indexOf_erase hold with ⟨i, hindex, hlist⟩
  refine ⟨i, ?_, hlist ▸ forall₂_eraseIdx hdocs i⟩
  rw [removeChanged, if_neg hne, hindex]
  rfl

/-- One that is not there gets the place that the order gives it. -/
theorem insertChanged_spec {change : DocumentViewChange} (hne : change.type ≠ .removed)
    (hnone : tracker.getDocument change.document.key = none)
    (hdocs : List.Forall₂ (Same exact) docs tracker.toList) :
    ∃ i, insertChanged tracker change = (some i, tracker.insert change.document) ∧
      List.Forall₂ (Same exact) (docs.insertIdx i change.document)
        (tracker.insert change.document).toList := by
  rcases DocumentSet.indexOf_insert hnone with ⟨i, hindex, hlist⟩
  refine ⟨i, ?_, hlist ▸ forall₂_insertIdx hdocs (Same.refl exact _) i⟩
  rw [insertChanged, if_neg hne, hindex]

/-- One change, carried out on the tracker and by the user. -/
theorem change_replayed (snapshot : ViewSnapshot q) {change : DocumentViewChange}
    (h : Describes change.document.key (tracker.getDocument change.document.key)
      (t.getDocument change.document.key) (some change))
    (hdocs : List.Forall₂ (Same exact) docs tracker.toList) :
    ∃ oldIndex removed, removeChanged tracker change = some (oldIndex, removed) ∧
      (insertChanged removed change).2.getDocument change.document.key
        = t.getDocument change.document.key ∧
      (∀ k, k ≠ change.document.key →
        (insertChanged removed change).2.getDocument k = tracker.getDocument k) ∧
      List.Forall₂ (Same exact)
        (DocumentChange.apply docs ⟨documentChangeTypeForChange change,
          documentSnapshot snapshot change.document, oldIndex, (insertChanged removed change).1⟩)
        (insertChanged removed change).2.toList := by
  -- A document that comes in place of what is there, or of what was erased.
  have hinsert : ∀ (m : DocumentSet q.comparator) (docs : List Document),
      change.type ≠ .removed → m.getDocument change.document.key = none →
      (∀ k, k ≠ change.document.key → m.getDocument k = tracker.getDocument k) →
      t.getDocument change.document.key = some change.document →
      List.Forall₂ (Same exact) docs m.toList →
      ∃ i, (insertChanged m change).1 = some i ∧
        (insertChanged m change).2.getDocument change.document.key
          = t.getDocument change.document.key ∧
        (∀ k, k ≠ change.document.key →
          (insertChanged m change).2.getDocument k = tracker.getDocument k) ∧
        List.Forall₂ (Same exact) (docs.insertIdx i change.document)
          (insertChanged m change).2.toList := by
    intro m docs hne hnone helse ht hdocs
    rcases insertChanged_spec hne hnone hdocs with ⟨i, hinserted, hlist⟩
    rw [hinserted]
    refine ⟨i, rfl, ?_, fun k hk => ?_, hlist⟩
    · rw [DocumentSet.getDocument_insert, if_pos rfl, ht]
    · rw [DocumentSet.getDocument_insert, if_neg hk, helse k hk]
  have herase : ∀ k, k ≠ change.document.key →
      (tracker.erase change.document.key).getDocument k = tracker.getDocument k :=
    fun k hk => by rw [DocumentSet.getDocument_erase, if_neg hk]
  have hgone : (tracker.erase change.document.key).getDocument change.document.key = none := by
    rw [DocumentSet.getDocument_erase, if_pos rfl]
  -- Added, removed, or removed and inserted again where it belongs now.
  rcases h.of_type with ⟨htype, hold, hnew⟩ | ⟨htype, ⟨old, hold⟩, hnew⟩ |
    ⟨hadded, hremoved, ⟨old, hold⟩, hnew⟩
  · have hne : change.type ≠ .removed := by
      rw [htype]
      exact ChangeType.noConfusion
    rcases hinsert tracker docs hne hold (fun _ _ => rfl) hnew hdocs with
      ⟨i, hi, hhere, helse, hlist⟩
    refine ⟨none, tracker, if_pos htype, hhere, helse, ?_⟩
    rw [hi]
    exact hlist
  · have hne : change.type ≠ .added := by
      rw [htype]
      exact ChangeType.noConfusion
    rcases removeChanged_spec hne hold hdocs with ⟨i, hremove, hlist⟩
    have hinserted : insertChanged (tracker.erase change.document.key) change
        = (none, tracker.erase change.document.key) := if_pos htype
    refine ⟨some i, _, hremove, ?_, ?_, ?_⟩ <;> rw [hinserted]
    · rw [hgone, hnew]
    · exact herase
    · exact hlist
  · rcases removeChanged_spec hadded hold hdocs with ⟨i, hremove, hlist⟩
    rcases hinsert _ _ hremoved hgone herase hnew hlist with ⟨j, hj, hhere, helse, hlist'⟩
    refine ⟨some i, _, hremove, hhere, helse, ?_⟩
    rw [hj]
    exact hlist'

/-- All changes: the user has what the snapshot has. -/
theorem laterChanges_spec (snapshot : ViewSnapshot q) {changes : List DocumentViewChange}
    (h : Leads exact tracker changes t) (hdocs : List.Forall₂ (Same exact) docs tracker.toList) :
    ∃ out m, laterChanges snapshot exact tracker changes = some out ∧
      (∀ k, Alike exact (DocumentSet.getDocument m k) (t.getDocument k)) ∧
      List.Forall₂ (Same exact) (out.foldl DocumentChange.apply docs)
        (DocumentSet.toList (c := q.comparator) m) := by
  -- By induction on the changes. What is left of them leads on from the tracker
  -- as it is then, and the user's list follows it.
  induction changes generalizing tracker docs with
  | nil => exact ⟨[], tracker, rfl, fun k => h.elsewhere k List.not_mem_nil, hdocs⟩
  | cons change changes ih =>
      have hdescribes := h.describes change List.mem_cons_self
      rw [laterChanges]
      rcases hskip : !exact && change.type = .metadata with _ | _
      · rcases change_replayed snapshot hdescribes hdocs with
          ⟨oldIndex, removed, hremove, hhere, helse, hlist⟩
        rcases ih (h.tail (hhere ▸ Alike.refl exact _) helse) hlist with ⟨out, m, hout, hm, hlist'⟩
        refine ⟨_ :: out, m, ?_, hm, hlist'⟩
        rw [if_neg Bool.false_ne_true, hremove, Option.bind_some]
        simp only [hout, Option.map_some]
      · -- A change of metadata that the user does not see is passed over.
        rw [Bool.and_eq_true, Bool.not_eq_true', decide_eq_true_eq] at hskip
        obtain ⟨rfl, hmetadata⟩ := hskip
        rw [if_pos rfl]
        exact ih (h.tail (alike_of_metadata hdescribes hmetadata) fun _ _ => rfl) hdocs

/-- Documents that are added in order are put one behind the other. -/
theorem firstChanges_eq (snapshot : ViewSnapshot q) (docs : List Document)
    (last : Option Document) {changes : List DocumentViewChange}
    (hadded : ∀ change ∈ changes, change.type = .added)
    (hsorted : changes.Pairwise fun lhs rhs =>
      q.comparator.compare lhs.document rhs.document = .lt)
    (hlast : ∀ l, last = some l → ∀ change ∈ changes,
      q.comparator.compare l change.document = .lt) :
    ∃ out, firstChanges snapshot last docs.length changes = some out ∧
      out.foldl DocumentChange.apply docs
        = docs ++ changes.map DocumentViewChange.document := by
  induction changes generalizing last docs with
  | nil => exact ⟨[], rfl, (List.append_nil docs).symm⟩
  | cons change changes ih =>
      rcases List.pairwise_cons.mp hsorted with ⟨hhead, htail⟩
      have hok : (last.all fun l => q.comparator.compare l change.document == .lt) = true := by
        rcases last with _ | l
        · rfl
        · exact beq_iff_eq.mpr (hlast l rfl change List.mem_cons_self)
      have hnext : ∀ l, some change.document = some l → ∀ change' ∈ changes,
          q.comparator.compare l change'.document = .lt := by
        rintro _ ⟨⟩ change' hmem
        exact hhead change' hmem
      rcases ih (docs ++ [change.document]) (some change.document)
        (fun change' hmem => hadded change' (List.mem_cons_of_mem _ hmem)) htail hnext with
        ⟨out, hout, hlist⟩
      rw [List.length_append, List.length_singleton] at hout
      refine ⟨⟨.added, documentSnapshot snapshot change.document, none, some docs.length⟩ :: out,
        ?_, ?_⟩
      · rw [firstChanges, if_pos ⟨hadded change List.mem_cons_self, hok⟩, hout]
        rfl
      · -- Inserting at the length of a list appends to it.
        have happly : DocumentChange.apply docs ⟨.added, documentSnapshot snapshot change.document,
            none, some docs.length⟩ = docs ++ [change.document] := List.insertIdx_length_self
        rw [List.foldl_cons, happly, hlist, List.append_assoc]
        rfl

/-- A first snapshot has all documents as added, in order. -/
theorem firstChanges_spec (snapshot : ViewSnapshot q) {changes : List DocumentViewChange}
    (hempty : tracker.toList = []) (h : Leads exact tracker changes t)
    (hsorted : changes.Pairwise fun lhs rhs => View.changeBefore q lhs rhs = true) :
    ∃ out, firstChanges snapshot none 0 changes = some out ∧
      out.foldl DocumentChange.apply [] = t.toList := by
  have hnone : ∀ k, tracker.getDocument k = none := by
    intro k
    rcases hget : tracker.getDocument k with _ | d
    · rfl
    · have hmem := (DocumentSet.getDocument_eq_some.mp hget).1
      rw [hempty] at hmem
      exact absurd hmem List.not_mem_nil
  -- Nothing was there, so nothing was modified or removed.
  have hall : ∀ change ∈ changes, change.type = .added ∧
      t.getDocument change.document.key = some change.document := by
    intro change hmem
    have hdescribes := h.describes change hmem
    rw [hnone] at hdescribes
    rcases hdescribes.of_type with ⟨htype, -, hnew⟩ | ⟨-, ⟨x, hx⟩, -⟩ | ⟨-, -, ⟨x, hx⟩, -⟩
    · exact ⟨htype, hnew⟩
    · exact absurd hx.symm (Option.some_ne_none x)
    · exact absurd hx.symm (Option.some_ne_none x)
  -- Changes of one type are sorted by their documents.
  have hdocs : changes.Pairwise fun lhs rhs =>
      q.comparator.compare lhs.document rhs.document = .lt := by
    refine hsorted.imp_of_mem fun {lhs rhs} hl hr hbefore => ?_
    rw [View.changeBefore, (hall lhs hl).1, (hall rhs hr).1, if_neg (not_not_intro rfl),
      beq_iff_eq] at hbefore
    exact hbefore
  -- The documents of the changes are those of the snapshot.
  have hlist : changes.map DocumentViewChange.document = t.toList := by
    have hset : (⟨changes.map DocumentViewChange.document, List.pairwise_map.mpr hdocs⟩ :
        SortedSet q.comparator.compare) = t.sortedSet := by
      refine SortedSet.eq_of_mem_iff fun d => ?_
      constructor
      · intro hd
        rcases List.mem_map.mp hd with ⟨change, hmem, rfl⟩
        exact (DocumentSet.getDocument_eq_some.mp (hall change hmem).2).1
      · intro hd
        have hget := DocumentSet.getDocument_of_mem hd
        by_cases hkey : d.key ∈ changes.map fun change => change.document.key
        · rcases List.mem_map.mp hkey with ⟨change, hmem, heq⟩
          have hchange := (hall change hmem).2
          rw [heq, hget] at hchange
          exact List.mem_map.mpr ⟨change, hmem, (Option.some.inj hchange).symm⟩
        · have halike := h.elsewhere d.key hkey
          rw [hnone, hget] at halike
          cases halike
    exact congrArg SortedSet.elements hset
  rcases firstChanges_eq snapshot [] none
    (fun change hmem => (hall change hmem).1) hdocs (fun l hl => absurd hl.symm
      (Option.some_ne_none l)) with ⟨out, hout, happly⟩
  exact ⟨out, hout, happly.trans hlist⟩

/-- Documents that are alike under all keys are alike in order. -/
theorem forall₂_of_alike {s t : DocumentSet q.comparator}
    (hplain : ∀ d ∈ t.toList, PlainFor q d)
    (h : ∀ k, Alike exact (s.getDocument k) (t.getDocument k)) :
    List.Forall₂ (Same exact) s.toList t.toList := by
  have hasymm : ∀ d e, q.comparator.compare d e = .lt → ¬ q.comparator.compare e d = .lt := by
    intro d e hlt
    rw [Std.OrientedCmp.gt_of_lt hlt]
    exact Ordering.noConfusion
  -- Two that look the same tie, so they stand in the same place of two lists
  -- that are sorted and have the same keys.
  have htie : ∀ v d, Same exact v d ∧ d ∈ t.toList → q.comparator.compare v d = .eq := by
    rintro v d ⟨⟨hkey, rfl | ⟨-, hequals⟩⟩, hmem⟩
    · exact SortedSet.cmp_self q.comparator.compare v
    · exact tie_of_equals hkey (hplain d hmem) hequals
  have hforall : List.Forall₂ (fun v d => Same exact v d ∧ d ∈ t.toList) s.toList t.toList := by
    refine Sorting.forall₂_of_pairwise hasymm hasymm (fun v d v' d' h h' => ?_)
      s.sortedSet.sorted t.sortedSet.sorted (fun v hv => ?_) fun d hd => ?_
    · rw [Std.TransCmp.congr_left (htie v d h), Std.TransCmp.congr_right (htie v' d' h')]
    · have halike := h v.key
      rw [DocumentSet.getDocument_of_mem hv] at halike
      rcases hget : t.getDocument v.key with _ | d <;> rw [hget] at halike <;> cases halike
      rename_i hsame
      have hmem := (DocumentSet.getDocument_eq_some.mp hget).1
      exact ⟨d, hmem, hsame, hmem⟩
    · have halike := h d.key
      rw [DocumentSet.getDocument_of_mem hd] at halike
      rcases hget : s.getDocument d.key with _ | v <;> rw [hget] at halike <;> cases halike
      rename_i hsame
      exact ⟨v, (DocumentSet.getDocument_eq_some.mp hget).1, hsame, hd⟩
  exact hforall.imp fun v d h => h.1

/-- A user who edits a list as the changes of a snapshot say has what the
    snapshot has, and no assertion fails. -/
theorem forEachChange_spec (snapshot : ViewSnapshot q)
    (hallowed : exact = true → snapshot.excludesMetadataChanges = false)
    (hleads : Leads exact snapshot.oldDocuments snapshot.documentChanges snapshot.documents)
    (hsorted : snapshot.documentChanges.Pairwise fun lhs rhs =>
      View.changeBefore q lhs rhs = true)
    (hplain : ∀ d ∈ snapshot.documents.toList, PlainFor q d)
    (hdocs : List.Forall₂ (Same exact) docs snapshot.oldDocuments.toList) :
    ∃ out, forEachChange snapshot exact = some out ∧
      List.Forall₂ (Same exact) (out.foldl DocumentChange.apply docs)
        snapshot.documents.toList := by
  have hthrow : (exact && snapshot.excludesMetadataChanges) = false := by
    cases exact with
    | false => rfl
    | true => exact hallowed rfl
  rw [forEachChange, hthrow, if_neg Bool.false_ne_true]
  rcases hempty : snapshot.oldDocuments.toList with _ | ⟨d, ds⟩
  · rcases firstChanges_spec snapshot hempty hleads hsorted with ⟨out, hout, hlist⟩
    rw [hempty] at hdocs
    cases hdocs
    refine ⟨out, if_pos rfl |>.trans hout, ?_⟩
    rw [hlist]
    exact List.forall₂_same.mpr fun d _ => Same.refl exact d
  · rcases laterChanges_spec snapshot hleads hdocs with ⟨out, m, hout, hm, hlist⟩
    refine ⟨out, if_neg Bool.false_ne_true |>.trans hout, ?_⟩
    exact forall₂_trans (R := Same exact) (fun _ _ _ => Same.trans) hlist
      (forall₂_of_alike hplain hm)

end QuerySnapshot

end FirestoreCore

end JkbEmpOffers
