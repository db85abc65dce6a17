import JkbEmpOffers.FirestoreCore.QueryResult

/-!
# What the Backend Sends

The backend tells the client about a target in many small messages: a
document is in it now or is not any more, the target is current, has to be
reset, or has so many documents. The aggregator collects them and makes one
change of the target out of them, when the backend says that they are
consistent. Messages that belong to an older request are dropped as long as
the newer one has not been answered.

A view relies on one thing: what it is told was modified is what it has been
told was added. The aggregator can only promise that because it asks the view
itself which documents it has been told of, and because that does not change
before the next snapshot. `run_spec` shows that the promise is kept, whatever
the backend sends and in whatever order, so nothing has to be assumed about
it for one target and its view.

## Main definitions

* `TargetState`, `WatchChangeAggregator`: What has been collected.
* `WatchEvent`, `Watch.step`: The messages, and what else happens to the view.
* `TargetState.Fits`, `WatchChangeAggregator.Pending`: What has been collected
  fits what the view has been told.

## Theorems

* `syncedDocuments_step`: What a view has been told.
* `pending_step`: One event.
* `run_spec`: A run is one of the view, and keeps its promise.
* `watch_reports`: The reports of the view are right.
* `answers_watch`: At the end of a run it answers its query.
* `watch_result`: What it shows is the answer to its query.
-/

namespace JkbEmpOffers

namespace FirestoreCore

/-- `WatchTargetChangeState` -/
inductive WatchTargetChangeState where
  | noChange
  | added
  | removed
  | current
  | reset
  deriving DecidableEq

/-- `TargetState` -/
structure TargetState where
  outstandingResponses : Int := 0
  documentChanges : SortedMap DocumentKey.compareTo ChangeType := SortedMap.empty
  resumeToken : List UInt8 := []
  current : Bool := false
  /-- A new target is part of the next snapshot. -/
  hasPendingChanges : Bool := true

namespace TargetState

/-- `IsPending` -/
def isPending (s : TargetState) : Bool :=
  s.outstandingResponses ≠ 0

/-- `UpdateResumeToken` -/
def updateResumeToken (s : TargetState) (resumeToken : List UInt8) : TargetState :=
  if resumeToken.isEmpty then s else { s with hasPendingChanges := true, resumeToken }

/-- The keys of the changes of a type. -/
def changed (s : TargetState) (type : ChangeType) : List DocumentKey :=
  (s.documentChanges.filterValues fun t => t = type).keys

/-- `ToTargetChange` -/
def toTargetChange (s : TargetState) : Option TargetChange :=
  -- `Encountered invalid change type`
  if (s.changed .metadata).isEmpty then
    some ⟨s.resumeToken, s.current, s.changed .added, s.changed .modified, s.changed .removed⟩
  else none

/-- `ClearPendingChanges` -/
def clearPendingChanges (s : TargetState) : TargetState :=
  { s with hasPendingChanges := false, documentChanges := SortedMap.empty }

/-- `RecordPendingTargetRequest` -/
def recordPendingTargetRequest (s : TargetState) : TargetState :=
  { s with outstandingResponses := s.outstandingResponses + 1 }

/-- `RecordTargetResponse` -/
def recordTargetResponse (s : TargetState) : TargetState :=
  { s with outstandingResponses := s.outstandingResponses - 1 }

/-- `MarkCurrent` -/
def markCurrent (s : TargetState) : TargetState :=
  { s with hasPendingChanges := true, current := true }

/-- `AddDocumentChange` -/
def addDocumentChange (s : TargetState) (key : DocumentKey) (type : ChangeType) : TargetState :=
  { s with hasPendingChanges := true, documentChanges := s.documentChanges.insert key type }

/-- `RemoveDocumentChange` -/
def removeDocumentChange (s : TargetState) (key : DocumentKey) : TargetState :=
  { s with hasPendingChanges := true, documentChanges := s.documentChanges.erase key }

end TargetState

/-- `NoDocument` -/
def Document.noDocument (key : DocumentKey) : Document :=
  ⟨key, .noDocument, .map [], .synced, rfl⟩

/-- `WatchChangeAggregator`, as far as it is about one target, which is
    listened to. -/
structure WatchChangeAggregator where
  targetState : Option TargetState := none
  pendingDocumentUpdates : Documents := .empty
  pendingTargetReset : Bool := false

namespace WatchChangeAggregator

/-- `EnsureTargetState` -/
def ensureTargetState (a : WatchChangeAggregator) : TargetState :=
  a.targetState.getD {}

/-- `IsActiveTarget` -/
def isActiveTarget (a : WatchChangeAggregator) : Bool :=
  a.targetState.all fun s => !s.isPending

/-- `AddDocumentToTarget`, with the keys of `GetRemoteKeysForTarget`. -/
def addDocumentToTarget (a : WatchChangeAggregator) (keys : DocumentKeySet) (document : Document) :
    WatchChangeAggregator :=
  if a.isActiveTarget then
    let changeType := if keys.contains document.key then ChangeType.modified else .added
    { a with
      targetState := some (a.ensureTargetState.addDocumentChange document.key changeType)
      pendingDocumentUpdates := a.pendingDocumentUpdates.insert document }
  else a

/-- `RemoveDocumentFromTarget` -/
def removeDocumentFromTarget (a : WatchChangeAggregator) (keys : DocumentKeySet)
    (key : DocumentKey) (updatedDocument : Option Document) : WatchChangeAggregator :=
  if a.isActiveTarget then
    { a with
      targetState := some
        (if keys.contains key then a.ensureTargetState.addDocumentChange key .removed
        -- It may have entered and left the target since the last snapshot.
        else a.ensureTargetState.removeDocumentChange key)
      pendingDocumentUpdates :=
        match updatedDocument with
        | some document => a.pendingDocumentUpdates.insert document
        | none => a.pendingDocumentUpdates }
  else a

/-- `HandleDocumentChange`, with whether the target is one of the updated and
    of the removed ones. -/
def handleDocumentChange (a : WatchChangeAggregator) (keys : DocumentKeySet)
    (updated removed : Bool) (key : DocumentKey) (newDocument : Option Document) :
    WatchChangeAggregator :=
  let a :=
    match newDocument with
    | some document =>
      if updated && document.documentType = .foundDocument then a.addDocumentToTarget keys document
      else if updated && document.documentType = .noDocument then
        a.removeDocumentFromTarget keys key newDocument
      else a
    | none => a
  if removed then a.removeDocumentFromTarget keys key newDocument else a

/-- The documents of some keys leave the target. -/
def removeDocuments (a : WatchChangeAggregator) (keys : DocumentKeySet)
    (removed : List DocumentKey) : WatchChangeAggregator :=
  removed.foldl (fun a key => a.removeDocumentFromTarget keys key none) a

/-- `ResetTarget` -/
def resetTarget (a : WatchChangeAggregator) (keys : DocumentKeySet) :
    Option WatchChangeAggregator :=
  -- `Should only reset active targets`
  if a.targetState.any fun s => !s.isPending then
    some ({ a with targetState := some {} }.removeDocuments keys keys.elements)
  else none

/-- `HandleTargetChange`, of one that names the target or names none and so
    means all that are active. -/
def handleTargetChange (a : WatchChangeAggregator) (keys : DocumentKeySet) (named : Bool)
    (state : WatchTargetChangeState) (resumeToken : List UInt8) : Option WatchChangeAggregator :=
  if named || a.targetState.any fun s => !s.isPending then
    let s := a.ensureTargetState
    let a := { a with targetState := some s }
    match state with
    | .noChange =>
      some (if a.isActiveTarget
        then { a with targetState := some (s.updateResumeToken resumeToken) }
        else a)
    | .added =>
      let s := s.recordTargetResponse
      let s := if s.isPending then s else s.clearPendingChanges
      some { a with targetState := some (s.updateResumeToken resumeToken) }
    | .removed =>
      let s := s.recordTargetResponse
      some { a with targetState := if s.isPending then some s else none }
    | .current =>
      some (if a.isActiveTarget then
          { a with targetState := some (s.markCurrent.updateResumeToken resumeToken) }
        else a)
    | .reset =>
      if a.isActiveTarget then
        (a.resetTarget keys).map fun a =>
          { a with targetState := a.targetState.map (·.updateResumeToken resumeToken) }
      else some a
  else some a

/-- `ApplyBloomFilter` and what follows if it does not explain the count. -/
def applyBloomFilter (a : WatchChangeAggregator) (keys : DocumentKeySet)
    (expectedCount currentCount : Int) (mightContain : Option (DocumentKey → Bool)) :
    Option WatchChangeAggregator :=
  let gone := (mightContain.map fun f => keys.elements.filter fun key => !f key).getD []
  let a := a.removeDocuments keys gone
  if mightContain.isSome && expectedCount = currentCount - gone.length then some a
  else (a.resetTarget keys).map fun a => { a with pendingTargetReset := true }

/-- `HandleExistenceFilter`, of a target for a single document or for a
    collection, with what the bloom filter says, if there is one. -/
def handleExistenceFilter (a : WatchChangeAggregator) (keys : DocumentKeySet)
    (documentKey : Option DocumentKey) (expectedCount : Int)
    (mightContain : Option (DocumentKey → Bool)) : Option WatchChangeAggregator :=
  if a.isActiveTarget then
    match documentKey with
    | some key =>
      if expectedCount = 0 then
        some (a.removeDocumentFromTarget keys key (some (.noDocument key)))
      -- `Single document existence filter with count`
      else if expectedCount = 1 then some a
      else none
    | none =>
      let a := { a with targetState := some a.ensureTargetState }
      a.ensureTargetState.toTargetChange.bind fun change =>
        let currentSize : Int := keys.elements.length + change.addedDocuments.length
          - change.removedDocuments.length
        if currentSize = expectedCount then some a
        else a.applyBloomFilter keys expectedCount currentSize mightContain
  else some a

/-- The delete that `CreateRemoteEvent` makes up for a document that does not
    exist, which the backend may never send. -/
def synthesizeDelete (a : WatchChangeAggregator) (keys : DocumentKeySet)
    (documentKey : Option DocumentKey) : WatchChangeAggregator :=
  match documentKey, a.targetState with
  | some key, some s =>
    if a.isActiveTarget && s.current && (a.pendingDocumentUpdates.find key).isNone &&
        !keys.contains key then
      a.removeDocumentFromTarget keys key (some (.noDocument key))
    else a
  | _, _ => a

/-- `CreateRemoteEvent`: the change of the target and the documents. -/
def createRemoteEvent (a : WatchChangeAggregator) (keys : DocumentKeySet)
    (documentKey : Option DocumentKey) :
    Option (WatchChangeAggregator × Option TargetChange × Documents) :=
  let a := a.synthesizeDelete keys documentKey
  match a.targetState with
  | some s =>
    if a.isActiveTarget && s.hasPendingChanges then
      s.toTargetChange.map fun change =>
        (⟨some s.clearPendingChanges, .empty, false⟩, some change, a.pendingDocumentUpdates)
    else some (⟨some s, .empty, false⟩, none, a.pendingDocumentUpdates)
  | none => some (⟨none, .empty, false⟩, none, a.pendingDocumentUpdates)

/-- `RecordPendingTargetRequest` -/
def recordPendingTargetRequest (a : WatchChangeAggregator) : WatchChangeAggregator :=
  { a with targetState := some a.ensureTargetState.recordPendingTargetRequest }

end WatchChangeAggregator

/-- The document of a query for one document, as `IsDocumentQuery` has it. -/
def Query.documentKey (q : Query) : Option DocumentKey :=
  if h : q.path.length % 2 = 0 ∧ q.collectionGroup = none ∧ q.filters.isEmpty then
    some ⟨q.path, h.1⟩
  else none

/-- What happens: a request to watch or not to watch the target is sent, the
    stream starts, a message of the backend comes, a snapshot is raised, with
    what the local store makes of its documents, documents change here, or the
    network does. -/
inductive WatchEvent where
  | sendRequest
  | startStream
  | document (updated removed : Bool) (key : DocumentKey) (newDocument : Option Document)
  | target (named : Bool) (state : WatchTargetChangeState) (resumeToken : List UInt8)
  | existenceFilter (count : Int) (mightContain : Option (DocumentKey → Bool))
  | snapshot (applied : Documents → Documents)
  | localChanges (changes : Documents)
  | onlineState (onlineState : OnlineState)

/-- A view and what has been collected for it. -/
structure Watch (q : Query) where
  queryView : QueryView q
  aggregator : WatchChangeAggregator

namespace Watch

variable {q : Query}

/-- `RaiseWatchSnapshot` and `ApplyRemoteEvent` -/
def raiseWatchSnapshot (w : Watch q) (applied : Documents → Documents) :
    Option (Watch q × Option (ViewChange q)) :=
  (w.aggregator.createRemoteEvent w.queryView.view.syncedDocuments q.documentKey).bind
    fun (aggregator, targetChange, documentUpdates) =>
      let aggregator :=
        -- The target is watched anew.
        if w.aggregator.pendingTargetReset then
          aggregator.recordPendingTargetRequest.recordPendingTargetRequest
        else aggregator
      (w.queryView.step (.changes (applied documentUpdates) targetChange)).map
        fun (queryView, change) => (⟨queryView, aggregator⟩, some change)

/-- One event, with what it reports. -/
def step (w : Watch q) : WatchEvent → Option (Watch q × Option (ViewChange q))
  | .sendRequest =>
    some ({ w with aggregator := w.aggregator.recordPendingTargetRequest }, none)
  | .startStream => some ({ w with aggregator := {} }, none)
  | .document updated removed key newDocument =>
    let aggregator := w.aggregator.handleDocumentChange w.queryView.view.syncedDocuments updated
      removed key newDocument
    some ({ w with aggregator }, none)
  | .target named state resumeToken =>
    (w.aggregator.handleTargetChange w.queryView.view.syncedDocuments named state
      resumeToken).map fun aggregator => ({ w with aggregator }, none)
  | .existenceFilter count mightContain =>
    (w.aggregator.handleExistenceFilter w.queryView.view.syncedDocuments q.documentKey count
      mightContain).map fun aggregator => ({ w with aggregator }, none)
  | .snapshot applied => w.raiseWatchSnapshot applied
  | .localChanges changes =>
    (w.queryView.step (.changes changes none)).map
      fun (queryView, change) => ({ w with queryView }, some change)
  | .onlineState onlineState =>
    (w.queryView.step (.onlineState onlineState)).map
      fun (queryView, change) => ({ w with queryView }, some change)

/-- What an event may bring to the view. -/
def Brings (P : ViewEvent → Prop) : WatchEvent → Prop
  | .snapshot applied => ∀ documents targetChange, P (.changes (applied documents) targetChange)
  | .localChanges changes => P (.changes changes none)
  | .onlineState onlineState => P (.onlineState onlineState)
  | _ => True

/-- The backend counts one document, or none, where there can only be one. -/
def Counted (q : Query) : WatchEvent → Prop
  | .existenceFilter count _ => q.documentKey.isSome = true → count = 0 ∨ count = 1
  | _ => True

/-- For a collection it may count as it likes. -/
theorem counted_of_collection (h : q.documentKey = none) (event : WatchEvent) :
    Counted q event := by
  cases event with
  | existenceFilter count mightContain =>
      intro hkey
      rw [h] at hkey
      exact absurd hkey Bool.false_ne_true
  | _ => trivial

end Watch

/-! ## What has been collected -/

/-- The changes are of a kind that can be sent, and only documents that the
    view has been told of were modified. -/
def TargetState.Fits (keys : DocumentKeySet) (s : TargetState) : Prop :=
  ∀ k type, s.documentChanges.find k = some type → type ≠ .metadata ∧ (type = .modified → k ∈ keys)

/-- What has been collected, if anything, fits. -/
def WatchChangeAggregator.Pending (keys : DocumentKeySet) (a : WatchChangeAggregator) : Prop :=
  ∀ s, a.targetState = some s → s.Fits keys

/-- The target is known and its last request has been answered. -/
def WatchChangeAggregator.Answered (a : WatchChangeAggregator) : Prop :=
  ∃ s, a.targetState = some s ∧ s.isPending = false

namespace TargetState

variable {keys : DocumentKeySet} {s s' : TargetState} {key : DocumentKey} {type : ChangeType}

/-- A new state has no changes to fit. -/
theorem fits_new (keys : DocumentKeySet) : Fits keys {} :=
  fun _ _ h => absurd h.symm (Option.some_ne_none _)

/-- Only the changes matter. -/
theorem Fits.congr (h : s.Fits keys) (hchanges : s'.documentChanges = s.documentChanges) :
    s'.Fits keys := by
  intro k type hk
  rw [hchanges] at hk
  exact h k type hk

/-- A resume token is none. -/
theorem fits_updateResumeToken (h : s.Fits keys) (resumeToken : List UInt8) :
    (s.updateResumeToken resumeToken).Fits keys := by
  unfold updateResumeToken
  split_ifs
  · exact h
  · exact h.congr rfl

/-- A snapshot takes all of them away. -/
theorem fits_clear (keys : DocumentKeySet) (s : TargetState) : s.clearPendingChanges.Fits keys :=
  (fits_new keys).congr rfl

/-- A change that is noted. What is modified has to be there. -/
theorem fits_add (h : s.Fits keys) (htype : type ≠ .metadata)
    (hmodified : type = .modified → key ∈ keys) : (s.addDocumentChange key type).Fits keys := by
  intro k type' hk
  rw [addDocumentChange, SortedMap.find_insert] at hk
  split_ifs at hk with heq
  · rw [← Option.some.inj hk, heq]
    exact ⟨htype, hmodified⟩
  · exact h k type' hk

/-- A change that is forgotten. -/
theorem fits_remove (h : s.Fits keys) (key : DocumentKey) :
    (s.removeDocumentChange key).Fits keys := by
  intro k type' hk
  rw [removeDocumentChange, SortedMap.find_erase] at hk
  split_ifs at hk
  exact h k type' hk

/-- The keys of a type are those that it was recorded for. -/
theorem mem_changed {k : DocumentKey} :
    k ∈ s.changed type ↔ s.documentChanges.find k = some type := by
  rw [changed, SortedMap.keys, List.mem_map]
  constructor
  · rintro ⟨⟨k', t⟩, hmem, rfl⟩
    have hfind := SortedMap.find_eq_some.mpr hmem
    rw [SortedMap.find_filterValues, Option.filter_eq_some_iff, decide_eq_true_eq] at hfind
    rw [← hfind.2]
    exact hfind.1
  · intro hfind
    refine ⟨(k, type), SortedMap.find_eq_some.mp ?_, rfl⟩
    rw [SortedMap.find_filterValues, Option.filter_eq_some_iff]
    exact ⟨hfind, decide_eq_true rfl⟩

/-- Changes that fit can be sent, and are what the view relies on. -/
theorem toTargetChange_spec (h : s.Fits keys) :
    ∃ change, s.toTargetChange = some change ∧ ∀ k ∈ change.modifiedDocuments, k ∈ keys := by
  have hnone : s.changed .metadata = [] :=
    List.eq_nil_iff_forall_not_mem.mpr fun k hk => (h k _ (mem_changed.mp hk)).1 rfl
  refine ⟨_, if_pos (List.isEmpty_iff.mpr hnone), fun k hk => ?_⟩
  exact (h k _ (mem_changed.mp hk)).2 rfl

end TargetState

namespace WatchChangeAggregator

variable {keys : DocumentKeySet} {a : WatchChangeAggregator} {s : TargetState}

/-- A state that is made where there is none. -/
theorem Pending.ensure (h : a.Pending keys) : a.ensureTargetState.Fits keys := by
  rcases hstate : a.targetState with _ | s
  · rw [ensureTargetState, hstate]
    exact TargetState.fits_new keys
  · rw [ensureTargetState, hstate]
    exact h s hstate

/-- Nothing has been collected for a target that is not known. -/
theorem pending_none {documents : Documents} {reset : Bool} :
    Pending keys ⟨none, documents, reset⟩ :=
  fun s hs => absurd hs.symm (Option.some_ne_none s)

/-- It is enough that the state which is there fits. -/
theorem pending_some (h : s.Fits keys) {documents : Documents} {reset : Bool} :
    Pending keys ⟨some s, documents, reset⟩ := by
  rintro _ ⟨⟩
  exact h

/-- A document is noted as added or modified by what the target has. -/
theorem pending_addDocument (h : a.Pending keys) (document : Document) :
    (a.addDocumentToTarget keys document).Pending keys := by
  rw [addDocumentToTarget]
  split_ifs with hactive hcontains
  -- It is only said to be modified if the view has been told of it.
  · exact pending_some (TargetState.fits_add h.ensure ChangeType.noConfusion
      fun _ => SortedSet.contains_iff.mp hcontains)
  · exact pending_some (TargetState.fits_add h.ensure ChangeType.noConfusion ChangeType.noConfusion)
  · exact h

/-- A document that leaves is noted only if the target has it. -/
theorem pending_removeDocument (h : a.Pending keys) (key : DocumentKey)
    (updatedDocument : Option Document) :
    (a.removeDocumentFromTarget keys key updatedDocument).Pending keys := by
  unfold removeDocumentFromTarget
  split_ifs
  · exact pending_some (TargetState.fits_add h.ensure ChangeType.noConfusion ChangeType.noConfusion)
  · exact pending_some (TargetState.fits_remove h.ensure key)
  · exact h

/-- Several that leave. -/
theorem pending_removeDocuments (h : a.Pending keys) (removed : List DocumentKey) :
    (a.removeDocuments keys removed).Pending keys := by
  induction removed generalizing a with
  | nil => exact h
  | cons key removed ih => exact ih (pending_removeDocument h key none)

/-- A message about a document. -/
theorem pending_handleDocumentChange (h : a.Pending keys) (updated removed : Bool)
    (key : DocumentKey) (newDocument : Option Document) :
    (a.handleDocumentChange keys updated removed key newDocument).Pending keys := by
  -- The target may be one of the removed ones after it was one of the updated.
  have hupdated : ∀ a' : WatchChangeAggregator, a'.Pending keys → Pending keys
      (if removed then a'.removeDocumentFromTarget keys key newDocument else a') := by
    intro a' h'
    split_ifs
    · exact pending_removeDocument h' key newDocument
    · exact h'
  unfold handleDocumentChange
  refine hupdated _ ?_
  cases newDocument with
  | none => exact h
  | some document =>
      simp only
      split_ifs
      · exact pending_addDocument h document
      · exact pending_removeDocument h key (some document)
      · exact h

/-- Nothing that leaves makes a request wait. -/
theorem answered_removeDocument (h : a.Answered) (key : DocumentKey)
    (updatedDocument : Option Document) :
    (a.removeDocumentFromTarget keys key updatedDocument).Answered := by
  rcases h with ⟨s, hstate, hpending⟩
  have hactive : a.isActiveTarget = true := by
    rw [isActiveTarget, hstate, Option.all_some, hpending, Bool.not_false]
  have hensure : a.ensureTargetState = s := by rw [ensureTargetState, hstate, Option.getD_some]
  unfold removeDocumentFromTarget
  rw [if_pos hactive, hensure]
  refine ⟨_, rfl, ?_⟩
  split_ifs <;> exact hpending

/-- Nor do several. -/
theorem answered_removeDocuments (h : a.Answered) (removed : List DocumentKey) :
    (a.removeDocuments keys removed).Answered := by
  induction removed generalizing a with
  | nil => exact h
  | cons key removed ih => exact ih (answered_removeDocument h key none)

/-- A reset of an active target, whose documents are all noted as gone. -/
theorem resetTarget_spec (h : a.Answered) (keys : DocumentKeySet) :
    ∃ a', a.resetTarget keys = some a' ∧ a'.Pending keys := by
  rcases h with ⟨s, hstate, hpending⟩
  have hany : (a.targetState.any fun s => !s.isPending) = true := by
    rw [hstate, Option.any_some, hpending, Bool.not_false]
  exact ⟨_, if_pos hany, pending_removeDocuments (pending_some (TargetState.fits_new keys)) _⟩

/-- A message about a target. The assertion that only an active target is
    reset does not fail. -/
theorem handleTargetChange_spec (h : a.Pending keys) (named : Bool)
    (state : WatchTargetChangeState) (resumeToken : List UInt8) :
    ∃ a', a.handleTargetChange keys named state resumeToken = some a' ∧ a'.Pending keys := by
  have hensure := h.ensure
  rw [handleTargetChange]
  split_ifs
  · cases state with
    | noChange =>
        refine ⟨_, rfl, ?_⟩
        split_ifs
        · exact pending_some (TargetState.fits_updateResumeToken hensure resumeToken)
        · exact pending_some hensure
    | added =>
        refine ⟨_, rfl, pending_some (TargetState.fits_updateResumeToken ?_ resumeToken)⟩
        split_ifs
        -- Another request is out, and what was collected is kept.
        · exact hensure.congr rfl
        · exact TargetState.fits_clear keys _
    | removed =>
        refine ⟨_, rfl, ?_⟩
        split_ifs
        · refine pending_some ?_
          exact hensure.congr rfl
        · exact pending_none
    | current =>
        refine ⟨_, rfl, ?_⟩
        split_ifs
        · refine pending_some (TargetState.fits_updateResumeToken ?_ resumeToken)
          exact hensure.congr rfl
        · exact pending_some hensure
    | reset =>
        simp only
        split_ifs with hactive
        -- The target is active, which is what `ResetTarget` asserts.
        · have hanswered : Answered { a with targetState := some a.ensureTargetState } := by
            refine ⟨_, rfl, ?_⟩
            rw [isActiveTarget, Option.all_some, Bool.not_eq_true'] at hactive
            exact hactive
          rcases resetTarget_spec hanswered keys with ⟨a', hreset, hpending⟩
          rw [hreset]
          refine ⟨_, rfl, fun s hs => ?_⟩
          rcases Option.map_eq_some_iff.mp hs with ⟨s', hs', rfl⟩
          exact TargetState.fits_updateResumeToken (hpending s' hs') resumeToken
        · exact ⟨_, rfl, pending_some hensure⟩
  · exact ⟨a, rfl, h⟩

/-- Documents that a bloom filter rules out are removed, or all are. -/
theorem applyBloomFilter_spec (h : a.Pending keys) (hanswered : a.Answered)
    (expectedCount currentCount : Int) (mightContain : Option (DocumentKey → Bool)) :
    ∃ a', a.applyBloomFilter keys expectedCount currentCount mightContain = some a' ∧
      a'.Pending keys := by
  unfold applyBloomFilter
  extract_lets gone removed
  split_ifs
  · exact ⟨_, rfl, pending_removeDocuments h gone⟩
  · rcases resetTarget_spec (answered_removeDocuments hanswered gone) keys with
      ⟨a', hreset, hpending⟩
    rw [hreset]
    exact ⟨_, rfl, hpending⟩

/-- A count of documents, which resets the target where it does not fit. -/
theorem handleExistenceFilter_spec (h : a.Pending keys) {documentKey : Option DocumentKey}
    {count : Int} (hcount : documentKey.isSome = true → count = 0 ∨ count = 1)
    (mightContain : Option (DocumentKey → Bool)) :
    ∃ a', a.handleExistenceFilter keys documentKey count mightContain = some a' ∧
      a'.Pending keys := by
  unfold handleExistenceFilter
  cases documentKey with
  | some key =>
      split_ifs with hactive hzero hone
      · exact ⟨_, rfl, pending_removeDocument h key _⟩
      · exact ⟨a, rfl, h⟩
      · exact absurd (hcount rfl) (not_or_intro hzero hone)
      · exact ⟨a, rfl, h⟩
  | none =>
      dsimp only
      split_ifs with hactive
      -- `GetCurrentDocumentCountForTarget` makes the state, if there is none.
      · have hensured : Pending keys { a with targetState := some a.ensureTargetState } :=
          pending_some h.ensure
        have hanswered : Answered { a with targetState := some a.ensureTargetState } := by
          refine ⟨_, rfl, ?_⟩
          rcases hstate : a.targetState with _ | s
          · rw [ensureTargetState, hstate]
            rfl
          · rw [isActiveTarget, hstate, Option.all_some, Bool.not_eq_true'] at hactive
            rw [ensureTargetState, hstate]
            exact hactive
        rcases TargetState.toTargetChange_spec hensured.ensure with ⟨change, hchange, -⟩
        rw [hchange, Option.bind_some]
        split_ifs
        · exact ⟨_, rfl, hensured⟩
        · exact applyBloomFilter_spec hensured hanswered _ _ mightContain
      · exact ⟨a, rfl, h⟩

/-- A document that a query of one document has not found is noted as
    deleted. -/
theorem pending_synthesizeDelete (h : a.Pending keys) (documentKey : Option DocumentKey) :
    (a.synthesizeDelete keys documentKey).Pending keys := by
  unfold synthesizeDelete
  split
  · split_ifs
    · exact pending_removeDocument h _ _
    · exact h
  · exact h

/-- A remote event either tells the view nothing, or all that has been
    collected. -/
theorem createRemoteEvent_spec (h : a.Pending keys) (documentKey : Option DocumentKey) :
    ∃ a' targetChange documents,
      a.createRemoteEvent keys documentKey = some (a', targetChange, documents) ∧
      (∀ change, targetChange = some change → ∀ k ∈ change.modifiedDocuments, k ∈ keys) ∧
      ∀ keys', (targetChange = none → keys' = keys) → a'.Pending keys' := by
  have hpending := pending_synthesizeDelete h documentKey
  rw [createRemoteEvent]
  rcases hstate : (a.synthesizeDelete keys documentKey).targetState with _ | s
  · exact ⟨_, none, _, rfl, fun _ hnone => absurd hnone.symm (Option.some_ne_none _),
      fun _ _ => pending_none⟩
  · simp only
    split_ifs
    -- All is sent and cleared, so whatever the view knows then will do.
    · rcases TargetState.toTargetChange_spec (hpending s hstate) with ⟨change, hchange, hmodified⟩
      rw [hchange]
      refine ⟨_, some change, _, rfl, fun change' hchange' => ?_,
        fun keys' _ => pending_some (TargetState.fits_clear keys' s)⟩
      rw [← Option.some.inj hchange']
      exact hmodified
    · refine ⟨_, none, _, rfl, fun _ hnone => absurd hnone.symm (Option.some_ne_none _),
        fun keys' hkeys => ?_⟩
      rw [hkeys rfl]
      exact pending_some (hpending s hstate)

/-- A request makes the target wait for its acknowledgement. -/
theorem pending_recordPendingTargetRequest (h : a.Pending keys) :
    a.recordPendingTargetRequest.Pending keys := by
  refine pending_some ?_
  exact h.ensure.congr rfl

end WatchChangeAggregator

/-! ## The view over a run -/

/-- A view that is told nothing of the target knows what it knew. -/
theorem View.syncedDocuments_applyChanges {q : Query} {view view' : View q}
    {docChanges : ViewDocumentChanges q} {change : ViewChange q}
    (h : view.applyChanges docChanges none = some (view', change)) :
    view'.syncedDocuments = view.syncedDocuments := by
  unfold applyChanges at h
  split_ifs at h
  rcases Option.map_eq_some_iff.mp h with ⟨applied, happly, heq⟩
  rw [applyTargetChange, Option.some.injEq] at happly
  rw [← (Prod.mk.inj heq).1]
  refine applied.updateLimboDocuments_frame.2.1.trans ?_
  rw [← happly]

/-- Only a change of the target tells a view which documents are in it. -/
theorem QueryView.syncedDocuments_step {q : Query} {qv qv' : QueryView q} {event : ViewEvent}
    {change : ViewChange q} (h : qv.step event = some (qv', change))
    (hnone : ∀ changes targetChange, event = .changes changes targetChange → targetChange = none) :
    qv'.view.syncedDocuments = qv.view.syncedDocuments := by
  cases event with
  | changes changes targetChange =>
      rw [hnone changes targetChange rfl, QueryView.step, emitNewSnapshots] at h
      rcases Option.bind_eq_some_iff.mp h with ⟨docChanges, -, hmap⟩
      rcases Option.map_eq_some_iff.mp hmap with ⟨⟨view', change'⟩, happly, heq⟩
      rw [← (Prod.mk.inj heq).1]
      exact View.syncedDocuments_applyChanges happly
  | onlineState onlineState =>
      rw [QueryView.step, handleOnlineStateChange] at h
      rcases Option.bind_eq_some_iff.mp h with ⟨⟨view', change'⟩, happly, hlimbo⟩
      dsimp only at hlimbo
      split_ifs at hlimbo
      rw [← (Prod.mk.inj (Option.some.inj hlimbo)).1]
      unfold View.applyOnlineStateChange at happly
      split_ifs at happly
      -- Offline, the view is applied to no changes with `current` off.
      · exact (View.syncedDocuments_applyChanges happly).trans rfl
      · rw [← (Prod.mk.inj (Option.some.inj happly)).1]

namespace Watch

variable {q : Query} {w : Watch q} {P : ViewEvent → Prop}

/-- What is known of a view and of what has been collected for it. -/
structure Invariant (w : Watch q) : Prop where
  view : QueryView.Invariant w.queryView
  pending : w.aggregator.Pending w.queryView.view.syncedDocuments

/-- A report comes from an event of the view that keeps its promise. Without
    a report the view is as it was. -/
inductive Passes (P : ViewEvent → Prop) (qv : QueryView q) :
    Option (ViewChange q) → QueryView q → Prop where
  | nothing : Passes P qv none qv
  | event {event : ViewEvent} {change : ViewChange q} {qv' : QueryView q}
      (hadmissible : QueryView.Admissible qv event) (hp : P event)
      (hstep : qv.step event = some (qv', change)) : Passes P qv (some change) qv'

/-- An event of the view that tells it nothing of the target. -/
theorem pass_event (h : Invariant w) {event : ViewEvent} (hp : P event)
    (hnone : ∀ changes targetChange, event = .changes changes targetChange → targetChange = none) :
    ∃ w' out, ((w.queryView.step event).map fun (queryView, change) =>
        ({ w with queryView }, some change)) = some (w', out) ∧
      Invariant w' ∧ Passes P w.queryView out w'.queryView := by
  have hadmissible : QueryView.Admissible w.queryView event := by
    cases event with
    | changes changes targetChange =>
        intro change hchange
        rw [hnone changes targetChange rfl] at hchange
        exact absurd hchange.symm (Option.some_ne_none change)
    | onlineState onlineState => trivial
  rcases QueryView.step_spec h.view hadmissible with ⟨qv', change, hstep, hinv, -⟩
  refine ⟨{ w with queryView := qv' }, some change, ?_, ⟨hinv, ?_⟩,
    .event hadmissible hp hstep⟩
  · rw [hstep, Option.map_some]
  · rw [QueryView.syncedDocuments_step hstep hnone]
    exact h.pending

/-- A snapshot of the backend. -/
theorem raiseWatchSnapshot_spec (h : Invariant w) {applied : Documents → Documents}
    (hp : Brings P (.snapshot applied)) :
    ∃ w' out, w.raiseWatchSnapshot applied = some (w', out) ∧
      Invariant w' ∧ Passes P w.queryView out w'.queryView := by
  rcases WatchChangeAggregator.createRemoteEvent_spec h.pending q.documentKey with
    ⟨aggregator, targetChange, documents, hcreate, hmodified, hpending⟩
  have hadmissible : QueryView.Admissible w.queryView (.changes (applied documents) targetChange) :=
    fun change hchange k hk => Or.inr (hmodified change hchange k hk)
  rcases QueryView.step_spec h.view hadmissible with ⟨qv', change, hstep, hinv, -⟩
  -- What is collected is gone, or the view knows what it knew.
  have hfits : aggregator.Pending qv'.view.syncedDocuments := by
    refine hpending _ fun hnone => QueryView.syncedDocuments_step hstep fun _ _ heq => ?_
    rw [← (ViewEvent.changes.inj heq).2, hnone]
  rw [raiseWatchSnapshot, hcreate, Option.bind_some]
  dsimp only
  rw [hstep, Option.map_some]
  refine ⟨_, _, rfl, ⟨hinv, ?_⟩, .event hadmissible (hp documents targetChange) hstep⟩
  dsimp only
  split_ifs
  · exact WatchChangeAggregator.pending_recordPendingTargetRequest
      (WatchChangeAggregator.pending_recordPendingTargetRequest hfits)
  · exact hfits

/-- One event, of whatever kind. -/
theorem pending_step (h : Invariant w) {event : WatchEvent} (hcounted : Counted q event)
    (hp : Brings P event) :
    ∃ w' out, w.step event = some (w', out) ∧ Invariant w' ∧
      Passes P w.queryView out w'.queryView := by
  cases event with
  | sendRequest =>
      exact ⟨_, none, rfl, ⟨h.view,
        WatchChangeAggregator.pending_recordPendingTargetRequest h.pending⟩, .nothing⟩
  | startStream =>
      exact ⟨_, none, rfl, ⟨h.view, WatchChangeAggregator.pending_none⟩, .nothing⟩
  | document updated removed key newDocument =>
      exact ⟨_, none, rfl, ⟨h.view, WatchChangeAggregator.pending_handleDocumentChange h.pending
        updated removed key newDocument⟩, .nothing⟩
  | target named state resumeToken =>
      rcases WatchChangeAggregator.handleTargetChange_spec h.pending named state resumeToken with
        ⟨aggregator, hhandle, hpending⟩
      rw [step, hhandle, Option.map_some]
      exact ⟨_, none, rfl, ⟨h.view, hpending⟩, .nothing⟩
  | existenceFilter count mightContain =>
      rcases WatchChangeAggregator.handleExistenceFilter_spec h.pending hcounted mightContain with
        ⟨aggregator, hhandle, hpending⟩
      rw [step, hhandle, Option.map_some]
      exact ⟨_, none, rfl, ⟨h.view, hpending⟩, .nothing⟩
  | snapshot applied => exact raiseWatchSnapshot_spec h hp
  | localChanges changes =>
      exact pass_event h hp fun _ _ heq => (ViewEvent.changes.inj heq).2 ▸ rfl
  | onlineState onlineState => exact pass_event h hp fun _ _ heq => ViewEvent.noConfusion heq

/-- A run goes through, and is a run of the view whose events keep their
    promise. -/
theorem run_spec (h : Invariant w) {events : List WatchEvent}
    (hcounted : ∀ event ∈ events, Counted q event) (hp : ∀ event ∈ events, Brings P event) :
    ∃ w' out viewEvents, Trace.run step w events = some (w', out) ∧
      Trace.Meets QueryView.step QueryView.Admissible w.queryView viewEvents ∧
      (∀ viewEvent ∈ viewEvents, P viewEvent) ∧
      Trace.run QueryView.step w.queryView viewEvents = some (w'.queryView, out.filterMap id) := by
  -- Induction on the events: the invariant is kept by each of them.
  induction events generalizing w with
  | nil => exact ⟨w, [], [], rfl, trivial, fun _ h => absurd h List.not_mem_nil, rfl⟩
  | cons event events ih =>
      rcases pending_step h (hcounted event List.mem_cons_self) (hp event List.mem_cons_self) with
        ⟨mid, out, hstep, hmid, hpasses⟩
      rcases ih hmid (fun e he => hcounted e (List.mem_cons_of_mem event he))
        (fun e he => hp e (List.mem_cons_of_mem event he)) with
        ⟨w', outs, viewEvents, hrun, hmeets, hps, hview⟩
      have hwhole : Trace.run step w (event :: events) = some (w', out :: outs) := by
        rw [Trace.run, hstep, Option.bind_some, hrun]
        rfl
      generalize hqv : mid.queryView = qv at hpasses hmeets hview
      -- The view has an event of its own, or none.
      cases hpasses with
      | nothing => exact ⟨w', _, viewEvents, hwhole, hmeets, hps, hview⟩
      | event hadmissible hpevent hpass =>
          rename_i viewEvent change
          refine ⟨w', _, viewEvent :: viewEvents, hwhole, ⟨hadmissible, fun r hr => ?_⟩,
            List.forall_mem_cons.mpr ⟨hpevent, hps⟩, ?_⟩
          · rw [hpass, Option.some.injEq] at hr
            rw [← hr]
            exact hmeets
          · rw [Trace.run, hpass, Option.bind_some, hview]
            rfl

end Watch

open Watch in
/-- Whatever the backend sends of a target, in whatever order, however often
    the stream breaks and whatever happens here meanwhile: no assertion fails,
    neither in the aggregator nor in the view, and every report of the view is
    right. All that is asked of the backend is a count of at most one for a
    query of a single document. -/
theorem watch_reports (q : Query) (documents : Documents) (remoteKeys : DocumentKeySet)
    (current : Bool) (resumeToken : List UInt8) (events : List WatchEvent)
    (hcounted : ∀ event ∈ events, Counted q event) :
    ∃ qv change w out,
      QueryView.initializeView q documents remoteKeys current resumeToken = some (qv, change) ∧
      Trace.run step ⟨qv, {}⟩ events = some (w, out) ∧
      Trace.Chain (fun qv change qv' => Reports qv.view change qv'.view)
        (QueryView.start q documents remoteKeys) (change :: out.filterMap id) w.queryView ∧
      Mirrors q w.queryView.documents w.queryView.view.documentSet ∧
      Mutated w.queryView.view.documentSet w.queryView.view.mutatedKeys := by
  rcases QueryView.initializeView_spec (q := q) documents remoteKeys current resumeToken with
    ⟨qv, change, hinit, -, hinv, hreports, -, -, -⟩
  have hstart : Invariant (⟨qv, {}⟩ : Watch q) := ⟨hinv, WatchChangeAggregator.pending_none⟩
  have hbrings : ∀ event ∈ events, Brings (fun _ => True) event := by
    intro event _
    cases event with
    | snapshot applied => exact fun _ _ => trivial
    | _ => trivial
  rcases run_spec hstart hcounted hbrings with ⟨w, out, viewEvents, hrun, hmeets, -, hview⟩
  -- The events of the view keep their promise, and so its own step lemma applies.
  rcases Trace.run_of_step (fun qv event h hadmissible => QueryView.step_spec h hadmissible) hinv
    hmeets with ⟨qv', changes, hrun', hend, hchain⟩
  rw [hview, Option.some.injEq, Prod.mk.injEq] at hrun'
  rcases hrun' with ⟨rfl, rfl⟩
  exact ⟨qv, change, w, out, hinit, hrun, .cons hreports hchain, hend.mirrors, hend.mutated⟩

/-- A hotel, and a run in which it comes, is counted twice over, and goes, the
    target is reset and the stream starts again. -/
def Watch.hotel : Document :=
  .ofText ["hotels", "1"] rfl "Amman"

def Watch.hotels : Query := { path := ["hotels"], limit := 1, limitType := .last }

def Watch.comesAndGoes : List WatchEvent :=
  [.sendRequest, .target true .added [], .document true false hotel.key (some hotel),
    .target true .current [1], .snapshot fun _ => Documents.ofList [hotel],
    .document true false hotel.key (some hotel), .existenceFilter 2 (some fun _ => true),
    .snapshot fun _ => .empty, .target true .removed [], .target true .added [],
    .target false .reset [], .document false true hotel.key none,
    .localChanges (Documents.ofList [hotel]), .startStream, .onlineState .offline]

open Watch in
/-- The same run, for the query of the hotels. -/
theorem watch_reports_hotels :
    ∃ qv change w out,
      QueryView.initializeView hotels .empty SortedSet.empty false [] = some (qv, change) ∧
      Trace.run step ⟨qv, {}⟩ comesAndGoes = some (w, out) ∧
      Trace.Chain (fun qv change qv' => Reports qv.view change qv'.view)
        (QueryView.start hotels .empty SortedSet.empty) (change :: out.filterMap id)
        w.queryView ∧
      Mirrors hotels w.queryView.documents w.queryView.view.documentSet ∧
      Mutated w.queryView.view.documentSet w.queryView.view.mutatedKeys :=
  watch_reports hotels .empty SortedSet.empty false [] comesAndGoes fun event _ =>
    counted_of_collection rfl event

open Watch in
/-- At the end of a run the view answers its query. -/
theorem answers_watch (q : Query) (hlimits : q.Limits) {documents : Documents}
    (remoteKeys : DocumentKeySet) (current : Bool) (resumeToken : List UInt8)
    {events : List WatchEvent} (hcounted : ∀ event ∈ events, Counted q event)
    (hplain : PlainDocs q documents)
    (hbrings : ∀ event ∈ events, Brings (PlainEvent q) event) :
    ∃ qv change w out,
      QueryView.initializeView q documents remoteKeys current resumeToken = some (qv, change) ∧
      Trace.run step ⟨qv, {}⟩ events = some (w, out) ∧ QueryView.Answers w.queryView := by
  rcases QueryView.answers_initializeView hplain remoteKeys current resumeToken with
    ⟨qv, change, hinit, hanswers, -, -, -⟩
  have hstart : Invariant (⟨qv, {}⟩ : Watch q) :=
    ⟨hanswers.invariant, WatchChangeAggregator.pending_none⟩
  rcases run_spec hstart hcounted hbrings with
    ⟨w, out, viewEvents, hrun, hmeets, hplainEvents, hview⟩
  have hstep : ∀ (qv : QueryView q) (event : ViewEvent), QueryView.Answers qv →
      QueryView.Admissible qv event ∧ PlainEvent q event →
      ∃ qv' change, qv.step event = some (qv', change) ∧ QueryView.Answers qv' ∧ True := by
    intro qv event h hevent
    rcases QueryView.answers_step hlimits h hevent with ⟨qv', change, hstep, hanswers, -, -⟩
    exact ⟨qv', change, hstep, hanswers, trivial⟩
  rcases Trace.run_of_step hstep hanswers (Trace.meets_and hmeets hplainEvents) with
    ⟨qv', changes, hrun', hend, -⟩
  rw [hview, Option.some.injEq, Prod.mk.injEq] at hrun'
  rcases hrun' with ⟨rfl, rfl⟩
  exact ⟨qv, change, w, out, hinit, hrun, hend⟩

open Watch in
/-- And what the view shows is the answer to its query, unless a committed
    change is yet to come back. As in `view_result`, no order of the query
    leads through a pending time, neither at the start nor in what comes. -/
theorem watch_result (q : Query) (hlimits : q.Limits) (documents : Documents)
    (remoteKeys : DocumentKeySet) (current : Bool) (resumeToken : List UInt8)
    (events : List WatchEvent) (hcounted : ∀ event ∈ events, Counted q event)
    (hplain : PlainDocs q documents)
    (hbrings : ∀ event ∈ events, Brings (PlainEvent q) event) :
    ∃ qv change w out,
      QueryView.initializeView q documents remoteKeys current resumeToken = some (qv, change) ∧
      Trace.run step ⟨qv, {}⟩ events = some (w, out) ∧
      (Settled q w.queryView.documents →
        List.Forall₂ ShownFor w.queryView.view.documentSet.toList
          (q.result w.queryView.documents)) := by
  rcases answers_watch q hlimits remoteKeys current resumeToken hcounted hplain hbrings with
    ⟨qv, change, w, out, hinit, hrun, hend⟩
  exact ⟨qv, change, w, out, hinit, hrun, fun hsettled => result_of_complete hend.plain
    hend.invariant.mirrors hend.complete hsettled hend.size⟩

open Watch in
/-- And what its view shows in the end. -/
theorem watch_result_hotels :
    ∃ qv change w out,
      QueryView.initializeView hotels .empty SortedSet.empty false [] = some (qv, change) ∧
      Trace.run step ⟨qv, {}⟩ comesAndGoes = some (w, out) ∧
      (Settled hotels w.queryView.documents →
        List.Forall₂ ShownFor w.queryView.view.documentSet.toList
          (hotels.result w.queryView.documents)) := by
  have hplain : PlainDocs hotels .empty := fun k d h => absurd h.symm (Option.some_ne_none d)
  have hhotel : PlainDocs hotels (Documents.ofList [hotel]) := by
    refine plain_ofList (List.forall_mem_singleton.mpr ?_)
    refine plain_of_segments (fun o ho => ?_) ofText_not_pending
    rw [List.mem_singleton.mp ho]
    exact ⟨_, rfl⟩
  refine watch_result hotels (fun _ => by decide) .empty SortedSet.empty false [] comesAndGoes
    (fun event _ => counted_of_collection rfl event) hplain ?_
  simp only [comesAndGoes, List.forall_mem_cons, Brings, PlainEvent, hhotel, hplain,
    implies_true, List.not_mem_nil, IsEmpty.forall_iff, and_self]

end FirestoreCore

end JkbEmpOffers
