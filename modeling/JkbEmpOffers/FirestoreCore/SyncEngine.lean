import JkbEmpOffers.FirestoreCore.Pass
import JkbEmpOffers.Library.Trace

/-!
# A View over Time

The sync engine drives a view: it fills it with what the local store has, and
from then on passes changed documents and changes of the target on to it, and
runs the query again where the view asks for it.

Two things are known of a view at any time. What it shows under a key stands
for what the local store has there: it is that document, or an older version
with the same value, or one whose change here has been committed and is about
to come back from the backend. And the mutated keys are those of the shown
documents that were changed here. That is enough for no assertion to fail, in
whatever order the events come.

## Main definitions

* `QueryView`: A view and what the local store has.
* `QueryView.initializeView`, `QueryView.step`: Its start and its events.
* `Shows`, `Mirrors`: What a view shows, and what it stands for.
* `Reports`: A view change says what has changed.

## Theorems

* `shows_next`: One changed document.
* `compute_first`, `compute_refill`: The passes.
* `step_spec`: One event.
* `view_reports`: Any sequence of events.
-/

namespace JkbEmpOffers

namespace FirestoreCore

/-- A view of a query, and what the local store has. -/
structure QueryView (q : Query) where
  documents : Documents
  view : View q

/-- What happens to a view. -/
inductive ViewEvent where
  | changes (changes : Documents) (targetChange : Option TargetChange)
  | onlineState (onlineState : OnlineState)

/-- `CreateSynthesizedTargetChange` -/
def TargetChange.createSynthesized (current : Bool) (resumeToken : List UInt8) : TargetChange :=
  ⟨resumeToken, current, [], [], []⟩

namespace QueryView

variable {q : Query}

/-- `InitializeViewAndComputeSnapshot` -/
def initializeView (q : Query) (documents : Documents) (remoteKeys : DocumentKeySet)
    (current : Bool) (resumeToken : List UInt8) : Option (QueryView q × ViewChange q) :=
  let view := View.new q remoteKeys
  (view.computeDocumentChanges (documents.executeFullCollectionScan q).map none).bind
    fun viewDocChanges =>
      (view.applyChanges viewDocChanges
        (some (.createSynthesized current resumeToken))).bind fun (view, viewChange) =>
          -- `ApplyChanges to documents for new view should always return a snapshot`
          if viewChange.snapshot.isSome then some (⟨documents, view⟩, viewChange) else none

/-- `EmitNewSnapshotsAndNotifyLocalStore`, for one view. -/
def emitNewSnapshots (qv : QueryView q) (changes : Documents)
    (targetChange : Option TargetChange) : Option (QueryView q × ViewChange q) :=
  let documents := qv.documents.union changes
  ((qv.view.computeDocumentChanges changes.map none).bind fun viewDocChanges =>
    if viewDocChanges.needsRefill then
      qv.view.computeDocumentChanges (documents.executeFullCollectionScan q).map
        (some viewDocChanges)
    else some viewDocChanges).bind fun viewDocChanges =>
      (qv.view.applyChanges viewDocChanges targetChange).map fun (view, viewChange) =>
        (⟨documents, view⟩, viewChange)

/-- `HandleOnlineStateChange`, for one view. -/
def handleOnlineStateChange (qv : QueryView q) (onlineState : OnlineState) :
    Option (QueryView q × ViewChange q) :=
  (qv.view.applyOnlineStateChange onlineState).bind fun (view, viewChange) =>
    -- `OnlineState should not affect limbo documents.`
    if viewChange.limboChanges.isEmpty then some ({ qv with view }, viewChange) else none

/-- One event. -/
def step (qv : QueryView q) : ViewEvent → Option (QueryView q × ViewChange q)
  | .changes changes targetChange => qv.emitNewSnapshots changes targetChange
  | .onlineState onlineState => qv.handleOnlineStateChange onlineState

end QueryView

/-! ## What a view shows -/

/-- A shown document stands for what the local store has. -/
structure Shows (shown doc : Document) : Prop where
  pending : shown.hasLocalMutations
    = (doc.hasLocalMutations || shown.hasLocalMutations && doc.hasCommittedMutations)
  value : shown = doc ∨ shown.value.equals doc.value = true ∨
    shouldWaitForSyncedDocument doc shown = true

/-- A document stands for itself. -/
theorem Shows.refl (d : Document) : Shows d d := by
  refine ⟨?_, Or.inl rfl⟩
  cases d.hasLocalMutations <;> rfl

/-- What is shown stands for documents that match. -/
def Mirrors (q : Query) (documents : Documents) (s : DocumentSet q.comparator) : Prop :=
  ∀ k v, s.getDocument k = some v →
    ∃ d, documents.find k = some d ∧ q.matchesDoc d = true ∧ Shows v d

/-- What is shown is what there is, or was shown before. -/
def Origin {c : DocumentComparator} (documents : Documents) (old s : DocumentSet c) : Prop :=
  ∀ k v, s.getDocument k = some v → documents.find k = some v ∨ old.getDocument k = some v

namespace Pass

variable {q : Query} {p : Pass q} {doc v : Document}

/-- What is under a key after the loop is the changed document, or the one
    that was there and need not, or must not yet, give way to it. -/
theorem next_eq_some (h : p.next doc = some v) : q.matchesDoc doc = true ∧
    (v = doc ∨ p.oldDocumentSet.getDocument doc.key = some v ∧
      (v.value.equals doc.value = true ∧
          p.oldDocHadPendingMutations doc.key = p.newDocHasPendingMutations doc.key doc ∨
        shouldWaitForSyncedDocument doc v = true)) := by
  rw [next] at h
  -- The cases of the loop: whether a document was there, and whether it matches.
  rcases hold : p.oldDocumentSet.getDocument doc.key with _ | old <;>
    rcases hmatches : q.matchesDoc doc with _ | _ <;> rw [hold, hmatches] at h
  · exact absurd h.symm (Option.some_ne_none v)
  · exact ⟨rfl, Or.inl (Option.some.inj h).symm⟩
  · exact absurd h.symm (Option.some_ne_none v)
  · simp only at h
    refine ⟨rfl, ?_⟩
    split_ifs at h with hequals hpending hwait
    · exact Or.inl (Option.some.inj h).symm
    · obtain rfl := Option.some.inj h
      exact Or.inr ⟨rfl, Or.inl ⟨hequals, not_not.mp hpending⟩⟩
    · obtain rfl := Option.some.inj h
      exact Or.inr ⟨rfl, Or.inr hwait⟩
    · exact Or.inl (Option.some.inj h).symm

/-- Under the key of a document that matches there is one. -/
theorem next_of_matches (h : q.matchesDoc doc = true) : ∃ v, p.next doc = some v := by
  rw [next, h]
  split
  · split_ifs
    all_goals exact ⟨_, rfl⟩
  · exact ⟨doc, rfl⟩
  · rename_i hfalse
    exact absurd hfalse.symm Bool.false_ne_true

/-- What is shown in place of a changed document stands for it. -/
theorem shows_next (hmutated : Mutated p.oldDocumentSet p.oldMutatedKeys)
    (h : p.next doc = some v) : Shows v doc := by
  rcases (next_eq_some h).2 with rfl | ⟨hold, hstays⟩
  · exact Shows.refl v
  · -- The key is among the mutated keys if the document is.
    have hpending : p.oldMutatedKeys.contains doc.key = v.hasLocalMutations := by
      rw [Bool.eq_iff_iff, SortedSet.contains_iff, hmutated, hold]
      simp only [Option.some.injEq, exists_eq_left']
    rcases hstays with ⟨hequals, hsame⟩ | hwait
    -- It has stayed because nothing has changed, or because the view waits.
    · rw [oldDocHadPendingMutations, newDocHasPendingMutations, hpending] at hsame
      exact ⟨hsame, Or.inr (Or.inl hequals)⟩
    · refine ⟨?_, Or.inr (Or.inr hwait)⟩
      rw [shouldWaitForSyncedDocument, Bool.and_eq_true, Bool.and_eq_true] at hwait
      rw [hwait.1.1, hwait.1.2, Bool.and_self, Bool.or_true]

/-- A document that is shown is not outside the limit. -/
theorem outsideLimit_of_mem (h : v ∈ p.oldDocumentSet.toList) : p.outsideLimit v = false := by
  rw [outsideLimit, Bool.or_eq_false_iff, lastDocInLimit, firstDocInLimit]
  constructor
  · split_ifs
    · rcases hlast : p.oldDocumentSet.getLastDocument with _ | last
      · rfl
      · exact beq_eq_false_iff_ne.mpr (DocumentSet.compare_last hlast h)
    · rfl
  · split_ifs
    · rcases hfirst : p.oldDocumentSet.getFirstDocument with _ | first
      · rfl
      · exact beq_eq_false_iff_ne.mpr (DocumentSet.compare_first hfirst h)
    · rfl

/-- What stands for a document makes no refill necessary. -/
theorem refills_of_shows (hmatches : q.matchesDoc doc = true)
    (h : ∀ v, p.oldDocumentSet.getDocument doc.key = some v → Shows v doc) :
    p.refills doc = false := by
  rw [refills, hmatches]
  rcases hold : p.oldDocumentSet.getDocument doc.key with _ | v
  · rfl
  -- Each reason to stand for a document rules out a reason to refill.
  · rcases (h v hold).value with rfl | hequals | hwait
    · have hmem := (DocumentSet.getDocument_eq_some.mp hold).1
      simp only [outsideLimit_of_mem hmem, Bool.and_false]
    · simp only [hequals, Bool.not_true, Bool.false_and]
    · simp only [hwait, Bool.not_true, Bool.and_false, Bool.false_and]

/-- After a pass what is shown stands for what there is, if that holds of
    each changed document, and of what was shown under the other keys. -/
theorem mirrors_of_merged {documents changes : Documents} {mid s : DocumentSet q.comparator}
    (hmid : ∀ k, mid.getDocument k = p.merged changes k) (hlimited : Limited q mid s)
    (hchanges : ∀ k d, changes.find k = some d → documents.find k = some d)
    (hshows : ∀ d v, changes.find d.key = some d → p.next d = some v → Shows v d)
    (hkeep : ∀ k v, changes.find k = none → p.oldDocumentSet.getDocument k = some v →
      ∃ d, documents.find k = some d ∧ q.matchesDoc d = true ∧ Shows v d) :
    Mirrors q documents s := by
  intro k v hv
  have hv := hlimited.sub k v hv
  rw [hmid, merged] at hv
  rcases hfind : changes.find k with _ | d <;> rw [hfind] at hv
  · exact hkeep k v hfind hv
  · have hkey : d.key = k := changes.key_of_find hfind
    exact ⟨d, hchanges k d hfind, (next_eq_some hv).1, hshows d v (by rw [hkey, hfind]) hv⟩

/-- What is left of a pass, within the limit, has come with it, or was there
    before. -/
theorem origin_of_merged {documents changes : Documents} {mid s : DocumentSet q.comparator}
    (hmid : ∀ k, mid.getDocument k = p.merged changes k) (hlimited : Limited q mid s)
    (hchanges : ∀ k d, changes.find k = some d → documents.find k = some d) :
    Origin documents p.oldDocumentSet s := by
  intro k v hv
  have hv := hlimited.sub k v hv
  rw [hmid, merged] at hv
  rcases hfind : changes.find k with _ | d <;> rw [hfind] at hv
  · exact Or.inr hv
  · obtain rfl := changes.key_of_find hfind
    rcases (next_eq_some hv).2 with rfl | ⟨hold, -⟩
    · exact Or.inl (hchanges _ _ hfind)
    · exact Or.inr hold

end Pass

/-! ## The passes -/

namespace View

variable {q : Query} {view : View q}

/-- The first pass over changed documents. -/
theorem compute_first (hmutated : Mutated view.documentSet view.mutatedKeys)
    (changes : Documents) :
    ∃ mid acc, view.computeDocumentChanges changes.map none = some acc ∧
      Tracked view.documentSet acc ∧
      (acc.needsRefill = changes.map.elements.any fun e =>
        Pass.refills ⟨view.documentSet, view.mutatedKeys⟩ e.2) ∧
      (∀ k, DocumentSet.getDocument mid k
        = Pass.merged ⟨view.documentSet, view.mutatedKeys⟩ changes k) ∧
      Limited q mid acc.documentSet := by
  have hstart : Tracked view.documentSet
      ⟨view.documentSet, SortedMap.empty, view.mutatedKeys, false⟩ :=
    ⟨fun k => .same (view.documentSet.getDocument k), hmutated⟩
  rcases Pass.pass_spec (p := ⟨view.documentSet, view.mutatedKeys⟩) hstart rfl changes with
    ⟨mid, acc, hpass, htracked, hrefill, hmid, hlimited⟩
  refine ⟨mid, acc, ?_, htracked, hrefill, hmid, hlimited⟩
  rw [computeDocumentChanges]
  simp only [hpass, Option.bind_some, Option.isSome_none, Bool.and_false, Bool.false_eq_true,
    if_false]

/-- A pass over documents that what is shown stands for already. It is not
    the case that they need refilling themselves. -/
theorem compute_refill {previous : ViewDocumentChanges q} (changes : Documents)
    (hprevious : Tracked view.documentSet previous)
    (hmatches : ∀ k d, changes.find k = some d → q.matchesDoc d = true)
    (hshows : ∀ k d v, changes.find k = some d → previous.documentSet.getDocument k = some v →
      Shows v d) :
    ∃ mid acc, view.computeDocumentChanges changes.map (some previous) = some acc ∧
      Tracked view.documentSet acc ∧ acc.needsRefill = false ∧
      (∀ k, DocumentSet.getDocument mid k
        = Pass.merged ⟨previous.documentSet, view.mutatedKeys⟩ changes k) ∧
      Limited q mid acc.documentSet := by
  have hstart : Tracked view.documentSet { previous with needsRefill := false } :=
    ⟨hprevious.diff, hprevious.mutated⟩
  rcases Pass.pass_spec (p := ⟨previous.documentSet, view.mutatedKeys⟩) hstart rfl changes with
    ⟨mid, acc, hpass, htracked, hrefill, hmid, hlimited⟩
  have hnone : acc.needsRefill = false := by
    rw [hrefill, Bool.false_or, List.any_eq_false]
    rintro ⟨k, d⟩ hmem
    have hfind := Documents.mem_elements.mp hmem
    have hkey : d.key = k := changes.key_of_find hfind
    refine Bool.eq_false_iff.mp (Pass.refills_of_shows (hmatches k d hfind) fun v hv => ?_)
    exact hshows k d v hfind (hkey ▸ hv)
  refine ⟨mid, acc, ?_, htracked, hnone, hmid, hlimited⟩
  rw [computeDocumentChanges]
  simp only [hpass, Option.bind_some, hnone, Bool.false_and, Bool.false_eq_true, if_false]

end View

/-! ## View changes -/

/-- The keys of the documents that are shown, but neither confirmed by the
    backend nor changed here. -/
def InLimbo {q : Query} (view : View q) (k : DocumentKey) : Prop :=
  k ∉ view.syncedDocuments ∧
    ∃ d, view.documentSet.getDocument k = some d ∧ d.hasLocalMutations = false

/-- A snapshot says what has changed between two states of a view. -/
structure Exact {q : Query} (view : View q) (snapshot : ViewSnapshot q) (view' : View q) :
    Prop where
  oldDocuments : snapshot.oldDocuments = view.documentSet
  documents : snapshot.documents = view'.documentSet
  mutatedKeys : snapshot.mutatedKeys = view'.mutatedKeys
  changes : ∃ changeSet, Diff view.documentSet view'.documentSet changeSet ∧
    snapshot.documentChanges.Perm changeSet.getChanges
  sorted : snapshot.documentChanges.Pairwise fun lhs rhs => View.changeBefore q lhs rhs = true
  fromCache : snapshot.fromCache = false ↔ view'.syncState = .synced
  syncStateChanged : snapshot.syncStateChanged = true ↔ view'.syncState ≠ view.syncState
  reason : snapshot.documentChanges ≠ [] ∨ snapshot.syncStateChanged = true
  all : snapshot.excludesMetadataChanges = false

/-- A view change says what has changed between two states of a view. -/
structure Reports {q : Query} (view : View q) (change : ViewChange q) (view' : View q) :
    Prop where
  exact : ∀ snapshot, change.snapshot = some snapshot → Exact view snapshot view'
  quiet : change.snapshot = none → view'.documentSet = view.documentSet ∧
    view'.mutatedKeys = view.mutatedKeys ∧ view'.syncState = view.syncState
  limboAdded : ∀ k, .added k ∈ change.limboChanges ↔
    k ∈ view'.limboDocuments ∧ k ∉ view.limboDocuments
  limboRemoved : ∀ k, .removed k ∈ change.limboChanges ↔
    k ∈ view.limboDocuments ∧ k ∉ view'.limboDocuments
  limbo : view'.current = true → ∀ k, k ∈ view'.limboDocuments ↔ InLimbo view' k
  synced : view'.syncState = .synced ↔ view'.current = true ∧ ∀ k, ¬ InLimbo view' k

/-- A snapshot is still right for a view of which nothing of that has
    changed. -/
theorem Exact.of_quiet {q : Query} {view view' view'' : View q} {snapshot : ViewSnapshot q}
    (h : Exact view snapshot view')
    (hquiet : view''.documentSet = view'.documentSet ∧ view''.mutatedKeys = view'.mutatedKeys ∧
      view''.syncState = view'.syncState) : Exact view snapshot view'' := by
  rcases hquiet with ⟨hdocs, hkeys, hstate⟩
  refine ⟨h.oldDocuments, ?_, ?_, ?_, h.sorted, ?_, ?_, h.reason, h.all⟩
  · rw [hdocs]
    exact h.documents
  · rw [hkeys]
    exact h.mutatedKeys
  · rw [hdocs]
    exact h.changes
  · rw [hstate]
    exact h.fromCache
  · rw [hstate]
    exact h.syncStateChanged

/-- It does not matter for that whether the view was current. -/
theorem Reports.of_current {q : Query} {view view' : View q} {change : ViewChange q}
    {current : Bool} (h : Reports { view with current } change view') :
    Reports view change view' :=
  ⟨fun snapshot hsnapshot => { h.exact snapshot hsnapshot with }, h.quiet, h.limboAdded,
    h.limboRemoved, h.limbo, h.synced⟩

namespace View

variable {q : Query} {view : View q}

/-- The tests of the source, as one condition on the key. -/
theorem shouldBeInLimbo_iff (k : DocumentKey) :
    view.shouldBeInLimbo k = true ↔ InLimbo view k := by
  rw [shouldBeInLimbo, InLimbo, ← SortedSet.contains_iff]
  rcases hcontains : view.syncedDocuments.contains k with _ | _
  · rcases hdoc : view.documentSet.getDocument k with _ | d
    · simp only [Bool.false_eq_true, if_false, reduceCtorEq, false_and, exists_false, and_false]
    · simp only [Bool.false_eq_true, if_false, not_false_eq_true, true_and, Option.some.injEq,
        exists_eq_left', Bool.not_eq_true']
  · simp only [if_true, Bool.false_eq_true, not_true_eq_false, false_and]

/-- What a current view has in limbo. -/
theorem mem_updateLimboDocuments (hcurrent : view.current = true) (k : DocumentKey) :
    k ∈ view.updateLimboDocuments.1.limboDocuments ↔ InLimbo view k := by
  -- The loop over the documents, by induction, for any keys it starts with.
  have hfold : ∀ (docs : List Document) (keys : DocumentKeySet),
      k ∈ docs.foldl (fun keys doc =>
          if view.shouldBeInLimbo doc.key then keys.insert doc.key else keys) keys ↔
        k ∈ keys ∨ InLimbo view k ∧ k ∈ docs.map Document.key := by
    intro docs
    induction docs with
    | nil => simp only [List.foldl_nil, List.map_nil, List.not_mem_nil, and_false, or_false,
        implies_true]
    | cons d docs ih =>
        intro keys
        rw [List.foldl_cons, ih, List.map_cons, List.mem_cons]
        split_ifs with hlimbo
        · rw [SortedSet.mem_insert_iff]
          constructor
          · rintro ((rfl | hmem) | ⟨hk, hmem⟩)
            · exact Or.inr ⟨(shouldBeInLimbo_iff _).mp hlimbo, Or.inl rfl⟩
            · exact Or.inl hmem
            · exact Or.inr ⟨hk, Or.inr hmem⟩
          · rintro (hmem | ⟨hk, rfl | hmem⟩)
            · exact Or.inl (Or.inr hmem)
            · exact Or.inl (Or.inl rfl)
            · exact Or.inr ⟨hk, hmem⟩
        · refine or_congr_right (and_congr_right fun hk => (or_iff_right ?_).symm)
          rintro rfl
          exact hlimbo ((shouldBeInLimbo_iff _).mpr hk)
  rw [updateLimboDocuments, if_pos hcurrent]
  refine (hfold _ _).trans ?_
  constructor
  · rintro (hmem | ⟨hk, -⟩)
    · exact absurd hmem (SortedSet.not_mem_empty k)
    · exact hk
  · intro hk
    rcases hk.2 with ⟨d, hd, -⟩
    rcases DocumentSet.getDocument_eq_some.mp hd with ⟨hmem, hkey⟩
    exact Or.inr ⟨hk, List.mem_map.mpr ⟨d, hmem, hkey⟩⟩

/-- The limbo changes say what has come and what has gone. -/
theorem mem_limboChanges (k : DocumentKey) :
    (.added k ∈ view.updateLimboDocuments.2 ↔
      k ∈ view.updateLimboDocuments.1.limboDocuments ∧ k ∉ view.limboDocuments) ∧
    (.removed k ∈ view.updateLimboDocuments.2 ↔
      k ∈ view.limboDocuments ∧ k ∉ view.updateLimboDocuments.1.limboDocuments) := by
  rw [updateLimboDocuments]
  split_ifs
  · simp only [List.mem_append, List.mem_map, LimboDocumentChange.added.injEq, reduceCtorEq,
      LimboDocumentChange.removed.injEq, and_false, exists_false, or_false, false_or,
      exists_eq_right, List.mem_filter, Bool.not_eq_true', Bool.eq_false_iff, ne_eq,
      SortedSet.contains_iff]
    exact ⟨Iff.rfl, Iff.rfl⟩
  · simp only [List.not_mem_nil, and_not_self_iff]
    exact ⟨trivial, trivial⟩

/-- Nothing but the limbo documents changes. -/
theorem updateLimboDocuments_frame :
    view.updateLimboDocuments.1.documentSet = view.documentSet ∧
      view.updateLimboDocuments.1.syncedDocuments = view.syncedDocuments ∧
      view.updateLimboDocuments.1.mutatedKeys = view.mutatedKeys ∧
      view.updateLimboDocuments.1.current = view.current := by
  rw [updateLimboDocuments]
  split_ifs <;> exact ⟨rfl, rfl, rfl, rfl⟩

/-- The order of changes as a comparator. -/
def changeCompare (q : Query) : DocumentViewChange → DocumentViewChange → Ordering :=
  compareLex (fun lhs rhs => compare (changeTypePosition lhs.type) (changeTypePosition rhs.type))
    fun lhs rhs => q.comparator.compare lhs.document rhs.document

instance (q : Query) : Std.TransCmp (changeCompare q) := by
  have htypes := Encoding.transCmp_on (compare : Nat → Nat → Ordering)
    fun change : DocumentViewChange => changeTypePosition change.type
  have hdocs := Encoding.transCmp_on q.comparator.compare DocumentViewChange.document
  rw [changeCompare]
  infer_instance

/-- The order of two changes is a comparison, so a sort by it is one. -/
theorem changeBefore_eq (lhs rhs : DocumentViewChange) :
    changeBefore q lhs rhs = (changeCompare q lhs rhs == .lt) := by
  rw [changeBefore, changeCompare, compareLex]
  split_ifs with hne
  · rcases Nat.lt_or_gt_of_ne hne with hlt | hgt
    · rw [Nat.compare_eq_lt.mpr hlt, decide_eq_true hlt]
      rfl
    · rw [Nat.compare_eq_gt.mpr hgt, decide_eq_false (Nat.lt_asymm hgt)]
      rfl
  · rw [not_not.mp hne, Nat.compare_eq_eq.mpr rfl]
    rfl

/-- And `std::sort` gives what any other sort by it does. -/
theorem sortChanges_eq (changes : List DocumentViewChange) :
    sortChanges q changes = changes.mergeSort fun lhs rhs => (changeCompare q lhs rhs).isLE := by
  rw [sortChanges]
  congr 1
  refine funext fun lhs => funext fun rhs => ?_
  rw [changeBefore_eq, @Std.OrientedCmp.eq_swap _ (changeCompare q) _ rhs lhs]
  cases changeCompare q lhs rhs <;> rfl

/-- The changes of a change set are sorted without ties. -/
theorem sorted_sortChanges {s t : DocumentSet q.comparator} {changes : DocumentViewChangeSet}
    (h : Diff s t changes) :
    (sortChanges q changes.getChanges).Pairwise fun lhs rhs => changeBefore q lhs rhs = true := by
  have hkey : ∀ e ∈ changes.elements, e.2.document.key = e.1 := by
    rintro ⟨k, change⟩ hmem
    have hdescribes := h k
    rw [SortedMap.find_eq_some.mpr hmem] at hdescribes
    exact hdescribes.key
  simp only [changeBefore_eq, beq_iff_eq, sortChanges_eq]
  refine Sorting.pairwise_mergeSort_of_ne (List.pairwise_map.mpr ?_)
  -- Two changes that tie would be of one key, and there is one for each.
  refine changes.sorted.imp_of_mem fun {e f} he hf hlt htie => ?_
  have hdoc := q.comparator.key_of_compare (compareLex_eq_eq.mp htie).2
  rw [hkey e he, hkey f hf] at hdoc
  rw [hdoc, SortedSet.cmp_self DocumentKey.compareTo] at hlt
  exact Ordering.noConfusion hlt

/-- Nothing has changed if there are no changes. -/
theorem eq_of_sortChanges_nil {s t : DocumentSet q.comparator} {changes : DocumentViewChangeSet}
    (h : Diff s t changes) (hnil : sortChanges q changes.getChanges = []) : t = s := by
  have hempty : changes.elements = [] := by
    have hperm := (List.mergeSort_perm changes.getChanges
      fun lhs rhs => !changeBefore q rhs lhs).symm
    rw [← sortChanges, hnil, List.perm_nil, DocumentViewChangeSet.getChanges,
      List.map_eq_nil_iff] at hperm
    exact hperm
  refine DocumentSet.ext_getDocument fun k => ?_
  have hdescribes := h k
  have hfind : changes.find k = none := by
    rw [SortedMap.find, hempty]
    rfl
  rw [hfind] at hdescribes
  exact hdescribes.eq_of_none

/-- What the backend says was modified is what it has said was there. -/
def Known (view : View q) (targetChange : Option TargetChange) : Prop :=
  ∀ change, targetChange = some change → ∀ k ∈ change.modifiedDocuments,
    k ∈ change.addedDocuments ∨ k ∈ view.syncedDocuments

/-- Nothing is modified in a target that has only been added to. -/
theorem known_added (view : View q) {resumeToken : List UInt8} {current : Bool}
    {added removed : List DocumentKey} :
    Known view (some ⟨resumeToken, current, added, [], removed⟩) := by
  rintro _ ⟨⟩ k hk
  exact absurd hk List.not_mem_nil

/-- Keys that are inserted one after the other. -/
theorem mem_foldl_insert (added : List DocumentKey) (keys : DocumentKeySet) (k : DocumentKey) :
    k ∈ added.foldl (fun keys key => keys.insert key) keys ↔ k ∈ added ∨ k ∈ keys := by
  induction added generalizing keys with
  | nil => simp only [List.foldl_nil, List.not_mem_nil, false_or]
  | cons key added ih =>
      rw [List.foldl_cons, ih, SortedSet.mem_insert_iff, List.mem_cons, or_left_comm, or_assoc]

/-- A change of the target is about the synced documents alone, and what it
    says to be modified has to be one of them. -/
theorem applyTargetChange_spec (view : View q) {targetChange : Option TargetChange}
    (h : Known view targetChange) :
    ∃ view', view.applyTargetChange targetChange = some view' ∧
      view'.documentSet = view.documentSet ∧ view'.mutatedKeys = view.mutatedKeys ∧
      view'.limboDocuments = view.limboDocuments ∧ view'.syncState = view.syncState ∧
      (targetChange = none → view' = view) := by
  rcases targetChange with _ | change
  · exact ⟨view, rfl, rfl, rfl, rfl, rfl, fun _ => rfl⟩
  · have hall : change.modifiedDocuments.all
        (change.addedDocuments.foldl (fun keys key => keys.insert key)
          view.syncedDocuments).contains = true := by
      refine List.all_eq_true.mpr fun k hk => SortedSet.contains_iff.mpr ?_
      exact (mem_foldl_insert _ _ k).mpr (h change rfl k hk)
    exact ⟨_, if_pos hall, rfl, rfl, rfl, rfl,
      fun hnone => absurd hnone (Option.some_ne_none change)⟩

/-- A view is in sync if it is current and has nothing in limbo. -/
theorem synced_iff (h : view.current = true → ∀ k, k ∈ view.limboDocuments ↔ InLimbo view k) :
    (view.limboDocuments.elements.isEmpty && view.current) = true ↔
      view.current = true ∧ ∀ k, ¬ InLimbo view k := by
  rw [Bool.and_eq_true, and_comm, List.isEmpty_iff, List.eq_nil_iff_forall_not_mem]
  exact and_congr_right fun hcurrent => forall_congr' fun k => not_congr (h hcurrent k)

/-- The state that a view goes to. -/
theorem syncState_spec {state : SyncState} {synced : Bool}
    (hstate : (if synced = true then SyncState.synced else SyncState.local) = state) :
    (state = .synced ∨ state = .local) ∧ (state = .synced ↔ synced = true) := by
  subst hstate
  cases synced with
  | true => exact ⟨Or.inl rfl, iff_of_true rfl rfl⟩
  | false => exact ⟨Or.inr rfl, iff_of_false SyncState.noConfusion Bool.false_ne_true⟩

/-- A view that is given a change set takes it over, and reports what has
    changed. -/
theorem applyChanges_spec {docChanges : ViewDocumentChanges q}
    {targetChange : Option TargetChange} (hrefill : docChanges.needsRefill = false)
    (htracked : Tracked view.documentSet docChanges)
    (hmutated : Mutated view.documentSet view.mutatedKeys) (hknown : Known view targetChange) :
    ∃ view' change, view.applyChanges docChanges targetChange = some (view', change) ∧
      view'.documentSet = docChanges.documentSet ∧ view'.mutatedKeys = docChanges.mutatedKeys ∧
      Reports view change view' ∧ view'.syncState ≠ .none ∧
      (targetChange = none → view'.current = view.current ∧
        (view.current = false → change.limboChanges = [])) := by
  rcases applyTargetChange_spec { view with
      documentSet := docChanges.documentSet
      mutatedKeys := docChanges.mutatedKeys } hknown with
    ⟨applied, happly, hdocs, hkeys, hlimbo, hsync, hnone⟩
  rcases applied.updateLimboDocuments_frame with ⟨hframe, hsynced, hframe', hcurrent⟩
  have hdocs' := hframe.trans hdocs
  have hkeys' := hframe'.trans hkeys
  -- Being in limbo is not about the limbo documents themselves.
  have hlimbo' : ∀ k, InLimbo applied.updateLimboDocuments.1 k ↔ InLimbo applied k := by
    intro k
    rw [InLimbo, InLimbo, hsynced, hframe]
  have hadded := fun k => (applied.mem_limboChanges k).1
  have hremoved := fun k => (applied.mem_limboChanges k).2
  simp only [hlimbo] at hadded hremoved
  rcases happlied : view.applyChanges docChanges targetChange with _ | ⟨view', change⟩ <;>
    rw [applyChanges, hrefill, if_neg Bool.false_ne_true, happly, Option.map_some] at happlied
  · exact absurd happlied (Option.some_ne_none _)
  have hlimbos : applied.updateLimboDocuments.1.current = true → ∀ k,
      k ∈ applied.updateLimboDocuments.1.limboDocuments ↔
        InLimbo applied.updateLimboDocuments.1 k :=
    fun hcur k => (mem_updateLimboDocuments (hcurrent ▸ hcur) k).trans (hlimbo' k).symm
  have hsync := synced_iff hlimbos
  simp only [Option.some.injEq, Prod.mk.injEq] at happlied
  -- From here on the new state only counts as what it is in terms of `hsync`.
  generalize hstate : (if (applied.updateLimboDocuments.1.limboDocuments.elements.isEmpty &&
    applied.updateLimboDocuments.1.current) = true then SyncState.synced
    else SyncState.local) = state at happlied
  rcases syncState_spec hstate with ⟨hstates, hsynced⟩
  rw [hsync] at hsynced
  rcases happlied with ⟨rfl, rfl⟩
  refine ⟨_, _, rfl, hdocs', hkeys', ⟨fun snapshot hsnapshot => ?_, fun hquiet => ?_, hadded,
    hremoved, hlimbos, hsynced⟩, ?_, fun hno => ⟨?_, fun hcur => ?_⟩⟩
  -- The snapshot has the sorted changes and both sets of documents.
  · simp only at hsnapshot
    split_ifs at hsnapshot with hempty
    obtain rfl := Option.some.inj hsnapshot
    refine ⟨rfl, hdocs'.symm, hkeys'.symm, ⟨docChanges.changeSet, ?_, ?_⟩, ?_, ?_, ?_, ?_, rfl⟩
    · simp only [hdocs']
      exact htracked.diff
    · exact List.mergeSort_perm _ _
    · exact sorted_sortChanges htracked.diff
    · rcases hstates with rfl | rfl
      · exact iff_of_true rfl rfl
      · exact iff_of_false Bool.noConfusion SyncState.noConfusion
    · exact decide_eq_true_iff
    · rw [Bool.and_eq_true, not_and_or, List.isEmpty_iff, Bool.not_eq_true', Bool.not_eq_false]
        at hempty
      exact hempty
  -- Without one there are no changes, so both sets are the same.
  · simp only at hquiet
    split_ifs at hquiet with hempty
    rw [Bool.and_eq_true, List.isEmpty_iff, Bool.not_eq_true', decide_eq_false_iff_not, not_not]
      at hempty
    have hsame := eq_of_sortChanges_nil htracked.diff hempty.1
    refine ⟨hdocs'.trans hsame, hkeys'.trans (SortedSet.eq_of_mem_iff fun k => ?_), hempty.2⟩
    rw [htracked.mutated k, hmutated k, hsame]
  · rcases hstates with rfl | rfl <;> exact SyncState.noConfusion
  -- Without a change of the target the view is as current as it was.
  · exact hcurrent.trans (by rw [hnone hno])
  · have hcur' : applied.current = false := by rw [hnone hno]; exact hcur
    simp only [updateLimboDocuments, hcur', Bool.false_eq_true, if_false]

end View

/-! ## Events -/

/-- What is shown comes from a pass over all documents that match. -/
structure Refilled (q : Query) (documents : Documents) (s : DocumentSet q.comparator) :
    Prop where
  pass : ∃ (p : Pass q) (mid : DocumentSet q.comparator),
    (∀ k, mid.getDocument k = p.merged (documents.executeFullCollectionScan q) k) ∧
    Limited q mid s ∧
    ∀ d v, documents.find d.key = some d → p.next d = some v → Shows v d

/-- Where what is shown comes from: one pass that asked for no refill, or one
    over all documents that match. -/
inductive Computed {q : Query} (qv : QueryView q) (changes : Documents)
    (s : DocumentSet q.comparator) : Prop where
  | first (mid : DocumentSet q.comparator)
      (hmid : ∀ k, mid.getDocument k
        = Pass.merged ⟨qv.view.documentSet, qv.view.mutatedKeys⟩ changes k)
      (hlimited : Limited q mid s)
      (hrefills : ∀ k d, changes.find k = some d →
        Pass.refills ⟨qv.view.documentSet, qv.view.mutatedKeys⟩ d = false)
  | refilled (h : Refilled q (qv.documents.union changes) s)

namespace QueryView

variable {q : Query} {qv : QueryView q}

/-- What is known of a view at any time. -/
structure Invariant (qv : QueryView q) : Prop where
  mirrors : Mirrors q qv.documents qv.view.documentSet
  mutated : Mutated qv.view.documentSet qv.view.mutatedKeys
  limbo : qv.view.current = true → ∀ k, k ∈ qv.view.limboDocuments ↔ InLimbo qv.view k
  synced : qv.view.syncState = .synced ↔ qv.view.current = true ∧ ∀ k, ¬ InLimbo qv.view k

/-- What the source computes from changed documents, with a refill where one
    is needed. -/
theorem compute_spec (h : Invariant qv) (changes : Documents) :
    ∃ acc, ((qv.view.computeDocumentChanges changes.map none).bind fun viewDocChanges =>
        if viewDocChanges.needsRefill then
          qv.view.computeDocumentChanges
            ((qv.documents.union changes).executeFullCollectionScan q).map (some viewDocChanges)
        else some viewDocChanges) = some acc ∧
      Tracked qv.view.documentSet acc ∧ acc.needsRefill = false ∧
      Mirrors q (qv.documents.union changes) acc.documentSet ∧
      Origin (qv.documents.union changes) qv.view.documentSet acc.documentSet ∧
      Computed qv changes acc.documentSet := by
  rcases View.compute_first h.mutated changes with
    ⟨mid, first, hfirst, htracked, hrefill, hmid, hlimited⟩
  have hnew : ∀ k d, changes.find k = some d → (qv.documents.union changes).find k = some d := by
    intro k d hfind
    rw [Documents.find_union, hfind]
    rfl
  -- What stood for a document before still does if it has not changed.
  have hmirrors : Mirrors q (qv.documents.union changes) first.documentSet := by
    refine Pass.mirrors_of_merged hmid hlimited hnew
      (fun d v _ hnext => Pass.shows_next h.mutated hnext) fun k v hnone hv => ?_
    rw [Documents.find_union, hnone, Option.none_or]
    exact h.mirrors k v hv
  have horigin := Pass.origin_of_merged hmid hlimited hnew
  rw [hfirst, Option.bind_some]
  rcases hneeds : first.needsRefill with _ | _
  -- The first pass is enough.
  · refine ⟨first, if_neg Bool.false_ne_true, htracked, hneeds, hmirrors, horigin,
      .first mid hmid hlimited fun k d hfind => ?_⟩
    rw [hneeds] at hrefill
    have hnot := List.any_eq_false.mp hrefill.symm (k, d) (Documents.mem_elements.mpr hfind)
    exact Bool.eq_false_iff.mpr hnot
  · have hshows : ∀ d v, (qv.documents.union changes).find d.key = some d →
        first.documentSet.getDocument d.key = some v → Shows v d := by
      intro d v hfind hv
      rcases hmirrors d.key v hv with ⟨d', hfind', -, hshows⟩
      rw [hfind] at hfind'
      rwa [Option.some.inj hfind']
    rcases View.compute_refill ((qv.documents.union changes).executeFullCollectionScan q)
      htracked (fun k d hfind => (Documents.find_scan.mp hfind).2)
      (fun k d v hfind hv => by
        have hkey := Documents.key_of_find hfind
        subst hkey
        exact hshows d v (Documents.find_scan.mp hfind).1 hv) with
      ⟨mid', acc, hrefilled, htracked', hneeds', hmid', hlimited'⟩
    -- A document that is left in its place stood for the new one already.
    have hnext : ∀ d v, (qv.documents.union changes).find d.key = some d →
        Pass.next ⟨first.documentSet, qv.view.mutatedKeys⟩ d = some v → Shows v d := by
      intro d v hfind hv
      rcases (Pass.next_eq_some hv).2 with rfl | ⟨hold, -⟩
      · exact Shows.refl v
      · exact hshows d v hfind hold
    have hscan : ∀ k d, ((qv.documents.union changes).executeFullCollectionScan q).find k = some d →
        (qv.documents.union changes).find k = some d :=
      fun k d hfind => (Documents.find_scan.mp hfind).1
    refine ⟨acc, hrefilled, htracked', hneeds', ?_, fun k v hv => ?_,
      .refilled ⟨_, mid', hmid', hlimited', hnext⟩⟩
    · exact Pass.mirrors_of_merged hmid' hlimited' hscan
        (fun d v hfind hv => hnext d v (hscan _ d hfind) hv) fun k v _ hv => hmirrors k v hv
    · rcases Pass.origin_of_merged hmid' hlimited' hscan k v hv with hfind | hold
      · exact Or.inl hfind
      · exact horigin k v hold

/-- What the environment promises of an event. -/
def Admissible (qv : QueryView q) : ViewEvent → Prop
  | .changes _ targetChange => View.Known qv.view targetChange
  | .onlineState _ => True

/-- Documents changed: no assertion fails, and the report is right. -/
theorem emit_spec (h : Invariant qv) (changes : Documents) {targetChange : Option TargetChange}
    (hknown : View.Known qv.view targetChange) :
    ∃ qv' change, qv.emitNewSnapshots changes targetChange = some (qv', change) ∧
      qv'.documents = qv.documents.union changes ∧ Invariant qv' ∧
      Reports qv.view change qv'.view ∧
      Origin (qv.documents.union changes) qv.view.documentSet qv'.view.documentSet ∧
      Computed qv changes qv'.view.documentSet := by
  rcases compute_spec h changes with
    ⟨acc, hcompute, htracked, hneeds, hmirrors, horigin, hcomputed⟩
  rcases View.applyChanges_spec hneeds htracked h.mutated hknown with
    ⟨view', change, happly, hdocs, hkeys, hreports, -, -⟩
  refine ⟨⟨qv.documents.union changes, view'⟩, change, ?_, rfl,
    ⟨?_, ?_, hreports.limbo, hreports.synced⟩, hreports, ?_, ?_⟩
  · rw [emitNewSnapshots]
    simp only [hcompute, Option.bind_some, happly, Option.map_some]
  · simp only [hdocs]
    exact hmirrors
  · simp only [hdocs, hkeys]
    exact htracked.mutated
  · simp only [hdocs]
    exact horigin
  · simp only [hdocs]
    exact hcomputed

/-- The client has come online or gone offline: the same, and nothing changes
    what is shown. -/
theorem onlineState_spec (h : Invariant qv) (onlineState : OnlineState) :
    ∃ qv' change, qv.handleOnlineStateChange onlineState = some (qv', change) ∧
      qv'.documents = qv.documents ∧ qv'.view.documentSet = qv.view.documentSet ∧
      Invariant qv' ∧ Reports qv.view change qv'.view := by
  rw [handleOnlineStateChange, View.applyOnlineStateChange]
  rcases hcond : qv.view.current && onlineState = .offline with _ | _
  -- Only a view that is current minds, and only that the client is offline.
  · refine ⟨qv, ⟨none, []⟩, rfl, rfl, rfl, h, fun _ hsome => absurd hsome.symm
      (Option.some_ne_none _), fun _ => ⟨rfl, rfl, rfl⟩, fun k => ?_, fun k => ?_, h.limbo,
      h.synced⟩
    · exact iff_of_false List.not_mem_nil fun hk => hk.2 hk.1
    · exact iff_of_false List.not_mem_nil fun hk => hk.2 hk.1
  · have htracked : Tracked qv.view.documentSet
        ⟨qv.view.documentSet, SortedMap.empty, qv.view.mutatedKeys, false⟩ :=
      ⟨fun k => .same (qv.view.documentSet.getDocument k), h.mutated⟩
    rcases @View.applyChanges_spec q { qv.view with current := false } _ none rfl htracked
      h.mutated (fun _ hsome => absurd hsome.symm (Option.some_ne_none _)) with
      ⟨view', change, happly, hdocs, hkeys, hreports, -, hoffline⟩
    refine ⟨{ qv with view := view' }, change, ?_, rfl, hdocs,
      ⟨?_, ?_, hreports.limbo, hreports.synced⟩, hreports.of_current⟩
    · rw [if_pos rfl, happly, Option.bind_some]
      simp only [(hoffline rfl).2 rfl, List.isEmpty_nil, if_true]
    · simp only [hdocs]
      exact h.mirrors
    · simp only [hdocs, hkeys]
      exact h.mutated

/-- One event. -/
theorem step_spec (h : Invariant qv) {event : ViewEvent} (hadmissible : Admissible qv event) :
    ∃ qv' change, qv.step event = some (qv', change) ∧ Invariant qv' ∧
      Reports qv.view change qv'.view := by
  cases event with
  | changes changes targetChange =>
      rcases emit_spec h changes hadmissible with ⟨qv', change, hemit, -, hinv, hreports, -, -⟩
      exact ⟨qv', change, hemit, hinv, hreports⟩
  | onlineState onlineState =>
      rcases onlineState_spec h onlineState with ⟨qv', change, hstep, -, -, hinv, hreports⟩
      exact ⟨qv', change, hstep, hinv, hreports⟩

/-- What is there before the first snapshot. -/
def start (q : Query) (documents : Documents) (remoteKeys : DocumentKeySet) : QueryView q :=
  ⟨documents, View.new q remoteKeys⟩

/-- The first snapshot. -/
theorem initializeView_spec (documents : Documents) (remoteKeys : DocumentKeySet)
    (current : Bool) (resumeToken : List UInt8) :
    ∃ qv change, initializeView q documents remoteKeys current resumeToken = some (qv, change) ∧
      qv.documents = documents ∧ Invariant qv ∧
      Reports (start q documents remoteKeys).view change qv.view ∧
      change.snapshot.isSome = true ∧
      (∀ k v, qv.view.documentSet.getDocument k = some v → documents.find k = some v) ∧
      Refilled q documents qv.view.documentSet := by
  -- A new view shows nothing, so all that is said of what it shows holds.
  have hempty : ∀ k v, (View.new q remoteKeys).documentSet.getDocument k ≠ some v :=
    fun k v => (Option.some_ne_none v).symm
  have hmutated : Mutated (View.new q remoteKeys).documentSet (View.new q remoteKeys).mutatedKeys :=
    fun k => iff_of_false (SortedSet.not_mem_empty k) fun ⟨d, hd, _⟩ => hempty k d hd
  rcases View.compute_first hmutated (documents.executeFullCollectionScan q) with
    ⟨mid, acc, hcompute, htracked, hrefill, hmid, hlimited⟩
  have hneeds : acc.needsRefill = false := by
    rw [hrefill, List.any_eq_false]
    rintro ⟨k, d⟩ hmem
    have hfind := Documents.find_scan.mp (Documents.mem_elements.mp hmem)
    exact Bool.eq_false_iff.mp (Pass.refills_of_shows hfind.2 fun v hv => absurd hv (hempty _ v))
  have hknown : View.Known (View.new q remoteKeys)
      (some (.createSynthesized current resumeToken)) := View.known_added _
  rcases View.applyChanges_spec hneeds htracked hmutated hknown with
    ⟨view', change, happly, hdocs, hkeys, hreports, hstate, -⟩
  have hmirrors : Mirrors q documents acc.documentSet := by
    refine Pass.mirrors_of_merged hmid hlimited (fun k d hfind => (Documents.find_scan.mp hfind).1)
      (fun d v _ hnext => Pass.shows_next hmutated hnext) fun k v _ hv => absurd hv (hempty k v)
  -- The sync state changes, so there is a snapshot.
  have hsome : change.snapshot.isSome = true := by
    rw [Option.isSome_iff_ne_none]
    exact fun hnone => hstate (hreports.quiet hnone).2.2
  refine ⟨⟨documents, view'⟩, change, ?_, rfl, ⟨?_, ?_, hreports.limbo, hreports.synced⟩, hreports,
    hsome, fun k v hv => ?_, ?_⟩
  · rw [initializeView]
    simp only [hcompute, Option.bind_some, happly, hsome, if_true]
  · simp only [hdocs]
    exact hmirrors
  · simp only [hdocs, hkeys]
    exact htracked.mutated
  · simp only [hdocs] at hv
    exact (Pass.origin_of_merged hmid hlimited (fun k d hfind => (Documents.find_scan.mp hfind).1)
      k v hv).resolve_right (hempty k v)
  · simp only [hdocs]
    exact ⟨_, mid, hmid, hlimited, fun d v _ hnext => Pass.shows_next hmutated hnext⟩

/-- A view from its start on, with all that it reports. -/
def runFrom (q : Query) (documents : Documents) (remoteKeys : DocumentKeySet) (current : Bool)
    (resumeToken : List UInt8) (events : List ViewEvent) :
    Option (QueryView q × List (ViewChange q)) :=
  (initializeView q documents remoteKeys current resumeToken).bind fun (qv, change) =>
    (Trace.run step qv events).map fun (qv, changes) => (qv, change :: changes)

/-- Every event keeps its promise. -/
def Promised (q : Query) (documents : Documents) (remoteKeys : DocumentKeySet) (current : Bool)
    (resumeToken : List UInt8) (events : List ViewEvent) : Prop :=
  ∀ qv change, initializeView q documents remoteKeys current resumeToken = some (qv, change) →
    Trace.Meets step Admissible qv events

end QueryView

/-- What the backend has added, and has not removed, it can modify. -/
theorem QueryView.mem_syncedDocuments {q : Query} {qv qv' : QueryView q} {changes : Documents}
    {targetChange : TargetChange} {change : ViewChange q}
    (h : qv.step (.changes changes (some targetChange)) = some (qv', change))
    (hremoved : targetChange.removedDocuments = []) {k : DocumentKey}
    (hk : k ∈ targetChange.addedDocuments) : k ∈ qv'.view.syncedDocuments := by
  rw [step, emitNewSnapshots] at h
  rcases Option.bind_eq_some_iff.mp h with ⟨docChanges, -, hmap⟩
  rcases Option.map_eq_some_iff.mp hmap with ⟨⟨view', change'⟩, hchanges, heq⟩
  rw [← (Prod.mk.inj heq).1]
  unfold View.applyChanges at hchanges
  split_ifs at hchanges
  rcases Option.map_eq_some_iff.mp hchanges with ⟨applied, happly, heq'⟩
  rw [← (Prod.mk.inj heq').1]
  dsimp only
  rw [applied.updateLimboDocuments_frame.2.1]
  unfold View.applyTargetChange at happly
  dsimp only at happly
  split_ifs at happly
  rw [← Option.some.inj happly]
  dsimp only
  rw [hremoved]
  exact (View.mem_foldl_insert _ _ k).mpr (Or.inl hk)

end FirestoreCore

end JkbEmpOffers
