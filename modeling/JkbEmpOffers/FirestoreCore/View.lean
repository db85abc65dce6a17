import JkbEmpOffers.FirestoreCore.ChangeSet
import JkbEmpOffers.FirestoreCore.Query

/-!
# Views

A view keeps the result of one query up to date while the documents that the
client has change. It is never given the whole result again: it is told which
documents have changed, works out what that means for the documents it shows,
and reports the difference. Only when a query with a limit loses a document
can it not know what moves up, and asks for all matching documents.

The functions below are those of the source, with `none` for an abort.

## Main definitions

* `ViewDocumentChanges`: What a pass over changed documents has found.
* `Pass`: What the loop of a pass reads.
* `View.computeDocumentChanges`: A pass.
* `View.applyChanges`: Taking its result over, with a change of the target.
* `View.applyOnlineStateChange`: Going offline.
-/

namespace JkbEmpOffers

namespace FirestoreCore

/-- `ViewDocumentChanges` -/
structure ViewDocumentChanges (q : Query) where
  documentSet : DocumentSet q.comparator
  changeSet : DocumentViewChangeSet
  mutatedKeys : DocumentKeySet
  needsRefill : Bool

/-- `SyncState` -/
inductive SyncState where
  | none
  | local
  | synced
  deriving DecidableEq

/-- `View`, for its query. -/
structure View (q : Query) where
  documentSet : DocumentSet q.comparator
  syncedDocuments : DocumentKeySet
  limboDocuments : DocumentKeySet
  mutatedKeys : DocumentKeySet
  syncState : SyncState
  current : Bool

/-- `ShouldWaitForSyncedDocument` -/
def shouldWaitForSyncedDocument (newDoc oldDoc : Document) : Bool :=
  oldDoc.hasLocalMutations && newDoc.hasCommittedMutations && !newDoc.hasLocalMutations

/-- What the loop of `ComputeDocumentChanges` reads and does not change. -/
structure Pass (q : Query) where
  oldDocumentSet : DocumentSet q.comparator
  oldMutatedKeys : DocumentKeySet

namespace Pass

variable {q : Query}

/-- `last_doc_in_limit` -/
def lastDocInLimit (p : Pass q) : Option Document :=
  if q.hasLimitToFirst ∧ p.oldDocumentSet.size = q.limit then p.oldDocumentSet.getLastDocument
  else none

/-- `first_doc_in_limit` -/
def firstDocInLimit (p : Pass q) : Option Document :=
  if q.hasLimitToLast ∧ p.oldDocumentSet.size = q.limit then p.oldDocumentSet.getFirstDocument
  else none

/-- `outside_limit || outside_limit_to_last` -/
def outsideLimit (p : Pass q) (newDoc : Document) : Bool :=
  (p.lastDocInLimit.any fun last => q.comparator.compare newDoc last == .gt) ||
    p.firstDocInLimit.any fun first => q.comparator.compare newDoc first == .lt

/-- `old_doc_had_pending_mutations`, for a document that is there. -/
def oldDocHadPendingMutations (p : Pass q) (key : DocumentKey) : Bool :=
  p.oldMutatedKeys.contains key

/-- `new_doc_has_pending_mutations`, for a document that is there. -/
def newDocHasPendingMutations (p : Pass q) (key : DocumentKey) (newDoc : Document) : Bool :=
  newDoc.hasLocalMutations || (p.oldMutatedKeys.contains key && newDoc.hasCommittedMutations)

/-- What is done when `change_applied`, with the change that is added. -/
def applied (acc : ViewDocumentChanges q) (key : DocumentKey) (newDoc : Option Document)
    (change : DocumentViewChange) (refill : Bool) : Option (ViewDocumentChanges q) :=
  (acc.changeSet.addChange change).map fun changeSet =>
    match newDoc with
    | some doc =>
      { documentSet := acc.documentSet.insert doc
        changeSet
        mutatedKeys :=
          if doc.hasLocalMutations then acc.mutatedKeys.insert key else acc.mutatedKeys.erase key
        needsRefill := acc.needsRefill || refill }
    | none =>
      { documentSet := acc.documentSet.erase key
        changeSet
        mutatedKeys := acc.mutatedKeys.erase key
        needsRefill := acc.needsRefill || refill }

/-- The body of the loop, for one changed document. -/
def change (p : Pass q) (acc : ViewDocumentChanges q) (kv : DocumentKey × Document) :
    Option (ViewDocumentChanges q) :=
  match p.oldDocumentSet.getDocument kv.1, q.matchesDoc kv.2 with
  | some oldDoc, true =>
    if oldDoc.value.equals kv.2.value then
      if p.oldDocHadPendingMutations kv.1 ≠ p.newDocHasPendingMutations kv.1 kv.2 then
        applied acc kv.1 (some kv.2) ⟨kv.2, .metadata⟩ false
      else some acc
    else if shouldWaitForSyncedDocument kv.2 oldDoc then some acc
    else applied acc kv.1 (some kv.2) ⟨kv.2, .modified⟩ (p.outsideLimit kv.2)
  | none, true => applied acc kv.1 (some kv.2) ⟨kv.2, .added⟩ false
  | some oldDoc, false =>
    applied acc kv.1 none ⟨oldDoc, .removed⟩
      (p.lastDocInLimit.isSome || p.firstDocInLimit.isSome)
  | none, false => some acc

/-- Dropping documents from one end, one after the other. -/
def dropOut (q : Query) : Nat → ViewDocumentChanges q → Option (ViewDocumentChanges q)
  | 0, acc => some acc
  | i + 1, acc =>
    match if q.hasLimitToFirst then acc.documentSet.getLastDocument
      else acc.documentSet.getFirstDocument with
    | some oldDoc =>
      (applied acc oldDoc.key none ⟨oldDoc, .removed⟩ false).bind (dropOut q i)
    -- There is one, since more are left than the limit allows.
    | none => none

/-- `Drop documents out to meet limitToFirst/limitToLast requirement.` -/
def limit (acc : ViewDocumentChanges q) : Option (ViewDocumentChanges q) :=
  if q.limitType = .none then some acc else dropOut q (acc.documentSet.size - q.limit) acc

end Pass

/-- `TargetChange` -/
structure TargetChange where
  resumeToken : List UInt8
  current : Bool
  addedDocuments : List DocumentKey
  modifiedDocuments : List DocumentKey
  removedDocuments : List DocumentKey

/-- `OnlineState` -/
inductive OnlineState where
  | unknown
  | online
  | offline
  deriving DecidableEq

/-- `ViewSnapshot`, for its query. -/
structure ViewSnapshot (q : Query) where
  documents : DocumentSet q.comparator
  oldDocuments : DocumentSet q.comparator
  documentChanges : List DocumentViewChange
  mutatedKeys : DocumentKeySet
  fromCache : Bool
  syncStateChanged : Bool
  excludesMetadataChanges : Bool
  hasCachedResults : Bool

/-- `LimboDocumentChange` -/
inductive LimboDocumentChange where
  | added (key : DocumentKey)
  | removed (key : DocumentKey)
  deriving DecidableEq

/-- `ViewChange` -/
structure ViewChange (q : Query) where
  snapshot : Option (ViewSnapshot q)
  limboChanges : List LimboDocumentChange

namespace View

variable {q : Query}

/-- `View(query, remote_documents)` -/
def new (q : Query) (remoteDocuments : DocumentKeySet) : View q where
  documentSet := DocumentSet.empty
  syncedDocuments := remoteDocuments
  limboDocuments := SortedSet.empty
  mutatedKeys := SortedSet.empty
  syncState := .none
  current := false

/-- `ComputeDocumentChanges` -/
def computeDocumentChanges (view : View q) (docChanges : DocumentMap)
    (previousChanges : Option (ViewDocumentChanges q)) : Option (ViewDocumentChanges q) :=
  let start : ViewDocumentChanges q :=
    match previousChanges with
    | some previous => { previous with needsRefill := false }
    | none => ⟨view.documentSet, SortedMap.empty, view.mutatedKeys, false⟩
  let p : Pass q := ⟨start.documentSet, view.mutatedKeys⟩
  ((docChanges.elements.foldlM p.change start).bind Pass.limit).bind fun acc =>
    -- `View was refilled using docs that themselves needed refilling.`
    if acc.needsRefill && previousChanges.isSome then none else some acc

/-- `GetDocumentViewChangeTypePosition` -/
def changeTypePosition : ChangeType → Nat
  | .removed => 0
  | .added => 1
  | .modified | .metadata => 2

/-- The order in which the changes of a snapshot are sorted. -/
def changeBefore (q : Query) (lhs rhs : DocumentViewChange) : Bool :=
  if changeTypePosition lhs.type ≠ changeTypePosition rhs.type then
    changeTypePosition lhs.type < changeTypePosition rhs.type
  else q.comparator.compare lhs.document rhs.document == .lt

/-- `std::sort` by that order. -/
def sortChanges (q : Query) (changes : List DocumentViewChange) : List DocumentViewChange :=
  changes.mergeSort fun lhs rhs => !changeBefore q rhs lhs

/-- `ShouldBeInLimbo` -/
def shouldBeInLimbo (view : View q) (key : DocumentKey) : Bool :=
  if view.syncedDocuments.contains key then false
  else
    match view.documentSet.getDocument key with
    | none => false
    | some doc => !doc.hasLocalMutations

/-- `ApplyTargetChange` -/
def applyTargetChange (view : View q) : Option TargetChange → Option (View q)
  | none => some view
  | some change =>
    let added := change.addedDocuments.foldl (fun keys key => keys.insert key) view.syncedDocuments
    -- `Modified document not found in view.`
    if change.modifiedDocuments.all added.contains then
      some { view with
        syncedDocuments := change.removedDocuments.foldl (fun keys key => keys.erase key) added
        current := change.current }
    else none

/-- `UpdateLimboDocuments` -/
def updateLimboDocuments (view : View q) : View q × List LimboDocumentChange :=
  if view.current then
    let limboDocuments := view.documentSet.toList.foldl
      (fun keys doc => if view.shouldBeInLimbo doc.key then keys.insert doc.key else keys)
      SortedSet.empty
    ({ view with limboDocuments },
      (view.limboDocuments.elements.filter fun key => !limboDocuments.contains key).map
        .removed ++
      (limboDocuments.elements.filter fun key => !view.limboDocuments.contains key).map
        .added)
  else (view, [])

/-- `ApplyChanges` -/
def applyChanges (view : View q) (docChanges : ViewDocumentChanges q)
    (targetChange : Option TargetChange) : Option (View q × ViewChange q) :=
  -- `Cannot apply changes that need a refill`
  if docChanges.needsRefill then none
  else
    (applyTargetChange { view with
      documentSet := docChanges.documentSet
      mutatedKeys := docChanges.mutatedKeys } targetChange).map fun applied =>
      let updated := applied.updateLimboDocuments
      let synced := updated.1.limboDocuments.elements.isEmpty && updated.1.current
      let newSyncState := if synced then SyncState.synced else SyncState.local
      let syncStateChanged : Bool := newSyncState ≠ view.syncState
      let changes := sortChanges q docChanges.changeSet.getChanges
      ({ updated.1 with syncState := newSyncState },
        { snapshot :=
            if changes.isEmpty && !syncStateChanged then none
            else
              some {
                documents := docChanges.documentSet
                oldDocuments := view.documentSet
                documentChanges := changes
                mutatedKeys := docChanges.mutatedKeys
                fromCache := newSyncState = .local
                syncStateChanged
                excludesMetadataChanges := false
                hasCachedResults := targetChange.any fun change => !change.resumeToken.isEmpty }
          limboChanges := updated.2 })

/-- `ApplyOnlineStateChange` -/
def applyOnlineStateChange (view : View q) (onlineState : OnlineState) :
    Option (View q × ViewChange q) :=
  if view.current && onlineState = .offline then
    { view with current := false }.applyChanges
      ⟨view.documentSet, SortedMap.empty, view.mutatedKeys, false⟩ none
  else some (view, ⟨none, []⟩)

end View

end FirestoreCore

end JkbEmpOffers
