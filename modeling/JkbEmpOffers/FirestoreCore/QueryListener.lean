import JkbEmpOffers.FirestoreCore.QuerySnapshot

/-!
# Listeners

A listener stands between a view and one user. It holds the first event back
until there is something to say, turns it into an event in which all
documents are new, and leaves out what the user has not asked for. So the
events that a user gets are not the snapshots of the view: some are missing,
and those that come speak of documents the user has never been given.

`Subscriber` is a listener with a user who edits a list as the events say.
`Follows` is what holds between the list and the view at any time. Whatever
is left out, the list is that of the view, up to what the user has not asked
to see.

## Main definitions

* `ListenOptions`, `QueryListener`: A listener.
* `QueryListener.onViewSnapshot`, `QueryListener.onOnlineStateChanged`: What
  it does, with the event that it raises, and `none` for an abort.
* `Subscriber`: A listener and a user's list.
* `Follows`: The list is that of the view.

## Theorems

* `initial_spec`: The first event.
* `onViewSnapshot_spec`, `onOnlineStateChanged_spec`: What comes from the view
  and from the network.
* `join_spec`: A listener that is added later.
-/

namespace JkbEmpOffers

namespace FirestoreCore

/-- `ListenOptions` -/
structure ListenOptions where
  includeQueryMetadataChanges : Bool
  includeDocumentMetadataChanges : Bool
  waitForSyncWhenOnline : Bool
  deriving DecidableEq

namespace ViewSnapshot

variable {q : Query}

/-- `has_pending_writes` -/
def hasPendingWrites (snapshot : ViewSnapshot q) : Bool :=
  !snapshot.mutatedKeys.elements.isEmpty

/-- `FromInitialDocuments` -/
def fromInitialDocuments (documents : DocumentSet q.comparator) (mutatedKeys : DocumentKeySet)
    (fromCache excludesMetadataChanges hasCachedResults : Bool) : ViewSnapshot q where
  documents
  oldDocuments := DocumentSet.empty
  documentChanges := documents.toList.map fun doc => ⟨doc, .added⟩
  mutatedKeys
  fromCache
  syncStateChanged := true
  excludesMetadataChanges
  hasCachedResults

/-- `Remove the metadata-only changes.` -/
def withoutMetadataChanges (snapshot : ViewSnapshot q) : ViewSnapshot q :=
  { snapshot with
    documentChanges := snapshot.documentChanges.filter fun change => change.type ≠ .metadata
    excludesMetadataChanges := true }

end ViewSnapshot

/-- `QueryListener`, without its callback. -/
structure QueryListener (q : Query) where
  options : ListenOptions
  raisedInitialEvent : Bool
  onlineState : OnlineState
  snapshot : Option (ViewSnapshot q)

namespace QueryListener

variable {q : Query}

/-- `QueryListener(query, options, listener)` -/
def new (q : Query) (options : ListenOptions) : QueryListener q :=
  ⟨options, false, .unknown, none⟩

/-- `ShouldRaiseInitialEvent` -/
def shouldRaiseInitialEvent (l : QueryListener q) (snapshot : ViewSnapshot q)
    (onlineState : OnlineState) : Option Bool :=
  -- `Determining whether to raise initial event, but already had first event.`
  if l.raisedInitialEvent then none
  else if !snapshot.fromCache then some true
  -- The assertion in this branch is what the last condition has checked.
  else if l.options.waitForSyncWhenOnline && onlineState ≠ .offline then some false
  else
    some (!snapshot.documents.toList.isEmpty || snapshot.hasCachedResults ||
      onlineState = .offline)

/-- `ShouldRaiseEvent` -/
def shouldRaiseEvent (l : QueryListener q) (snapshot : ViewSnapshot q) : Bool :=
  if !snapshot.documentChanges.isEmpty then true
  else
    let hasPendingWritesChanged :=
      l.snapshot.any fun last => last.hasPendingWrites != snapshot.hasPendingWrites
    if snapshot.syncStateChanged || hasPendingWritesChanged then
      l.options.includeQueryMetadataChanges
    else false

/-- `RaiseInitialEvent` -/
def raiseInitialEvent (l : QueryListener q) (snapshot : ViewSnapshot q) :
    Option (QueryListener q × ViewSnapshot q) :=
  -- `Trying to raise initial events for second time`
  if l.raisedInitialEvent then none
  else
    some ({ l with raisedInitialEvent := true },
      .fromInitialDocuments snapshot.documents snapshot.mutatedKeys snapshot.fromCache
        snapshot.excludesMetadataChanges snapshot.hasCachedResults)

/-- A first event, if it is time for it. -/
def raiseInitialEventIf (l : QueryListener q) (snapshot : ViewSnapshot q)
    (onlineState : OnlineState) : Option (QueryListener q × Option (ViewSnapshot q)) :=
  (l.shouldRaiseInitialEvent snapshot onlineState).bind fun shouldRaise =>
    if shouldRaise then
      (l.raiseInitialEvent snapshot).map fun (l, event) => (l, some event)
    else some (l, none)

/-- `OnViewSnapshot` -/
def onViewSnapshot (l : QueryListener q) (snapshot : ViewSnapshot q) :
    Option (QueryListener q × Option (ViewSnapshot q)) :=
  -- `We got a new snapshot with no changes?`
  if snapshot.documentChanges.isEmpty && !snapshot.syncStateChanged then none
  else
    let snapshot :=
      if l.options.includeDocumentMetadataChanges then snapshot
      else snapshot.withoutMetadataChanges
    if !l.raisedInitialEvent then
      (l.raiseInitialEventIf snapshot l.onlineState).map fun (l, event) =>
        ({ l with snapshot := some snapshot }, event)
    else
      some ({ l with snapshot := some snapshot },
        if l.shouldRaiseEvent snapshot then some snapshot else none)

/-- `OnOnlineStateChanged` -/
def onOnlineStateChanged (l : QueryListener q) (onlineState : OnlineState) :
    Option (QueryListener q × Option (ViewSnapshot q)) :=
  let l := { l with onlineState }
  match l.snapshot, l.raisedInitialEvent with
  | some snapshot, false => l.raiseInitialEventIf snapshot onlineState
  | _, _ => some (l, none)

end QueryListener

/-- A listener, and a user who edits a list of documents as the events say. -/
structure Subscriber (q : Query) where
  listener : QueryListener q
  includeMetadataChanges : Bool
  docs : List Document

namespace Subscriber

variable {q : Query}

/-- The user edits the list if there is an event. -/
def receive (sub : Subscriber q) :
    QueryListener q × Option (ViewSnapshot q) → Option (Subscriber q)
  | (listener, none) => some { sub with listener }
  | (listener, some event) =>
    (QuerySnapshot.forEachChange event sub.includeMetadataChanges).map fun changes =>
      { sub with listener, docs := changes.foldl DocumentChange.apply sub.docs }

/-- A snapshot comes from the view. -/
def onViewSnapshot (sub : Subscriber q) (snapshot : ViewSnapshot q) : Option (Subscriber q) :=
  (sub.listener.onViewSnapshot snapshot).bind sub.receive

/-- The client has come online or gone offline. -/
def onOnlineStateChanged (sub : Subscriber q) (onlineState : OnlineState) :
    Option (Subscriber q) :=
  (sub.listener.onOnlineStateChanged onlineState).bind sub.receive

/-- What the user has asked for. -/
def request (sub : Subscriber q) : ListenOptions × Bool :=
  (sub.listener.options, sub.includeMetadataChanges)

/-- What holds between a user and the view, with the documents that it shows
    and whether it is in sync. A user who has not been called has no
    documents, and is not kept waiting by a view that is in sync. -/
structure Follows (sub : Subscriber q) (shown : DocumentSet q.comparator) (synced : Prop) :
    Prop where
  asked : sub.includeMetadataChanges = true →
    sub.listener.options.includeDocumentMetadataChanges = true
  snapshot : ∀ snapshot, sub.listener.snapshot = some snapshot →
    snapshot.documents = shown ∧ (snapshot.fromCache = false ↔ synced) ∧
      (sub.includeMetadataChanges = true → snapshot.excludesMetadataChanges = false)
  called : sub.listener.raisedInitialEvent = true →
    List.Forall₂ (Same sub.includeMetadataChanges) sub.docs shown.toList
  waiting : sub.listener.raisedInitialEvent = false → sub.docs = []
  due : sub.listener.raisedInitialEvent = false → ∀ snapshot,
    sub.listener.snapshot = some snapshot → snapshot.fromCache = true

/-- The listener has been given a snapshot. -/
def Heard (sub : Subscriber q) : Prop :=
  sub.listener.snapshot.isSome = true

/-- A user is called as soon as the view is in sync. -/
theorem called_of_synced {sub : Subscriber q} {shown : DocumentSet q.comparator} {synced : Prop}
    (h : Follows sub shown synced) (hheard : Heard sub) (hsynced : synced) :
    sub.listener.raisedInitialEvent = true := by
  rcases Option.isSome_iff_exists.mp hheard with ⟨snapshot, hsnapshot⟩
  by_contra hnot
  have hcache := h.due (Bool.eq_false_iff.mpr hnot) snapshot hsnapshot
  rw [(h.snapshot snapshot hsnapshot).2.1.mpr hsynced] at hcache
  exact Bool.false_ne_true hcache

variable {sub : Subscriber q} {snapshot : ViewSnapshot q} {shown shown' : DocumentSet q.comparator}
  {synced : Prop}

/-- The first event, if it is time for it: all documents at once. -/
theorem initial_spec (sub : Subscriber q) (hnot : sub.listener.raisedInitialEvent = false)
    (hdocs : sub.docs = [])
    (hasked : sub.includeMetadataChanges = true → snapshot.excludesMetadataChanges = false)
    (hplain : ∀ d ∈ snapshot.documents.toList, PlainFor q d) (onlineState : OnlineState) :
    ∃ raised event docs, sub.listener.raiseInitialEventIf snapshot onlineState
        = some ({ sub.listener with raisedInitialEvent := raised }, event) ∧
      (∀ listener, sub.receive (listener, event) = some { sub with listener, docs }) ∧
      (raised = true → List.Forall₂ (Same sub.includeMetadataChanges) docs
        snapshot.documents.toList) ∧
      (raised = false → docs = [] ∧ snapshot.fromCache = true) := by
  rw [QueryListener.raiseInitialEventIf]
  rcases hraise : sub.listener.shouldRaiseInitialEvent snapshot onlineState with _ | _ | _ <;>
    rw [QueryListener.shouldRaiseInitialEvent, hnot, if_neg Bool.false_ne_true] at hraise
  · split_ifs at hraise
  · -- It is not held back when the view is in sync.
    have hcache : snapshot.fromCache = true := by
      by_contra hfalse
      rw [Bool.eq_false_iff.mpr hfalse, Bool.not_false, if_pos rfl, Option.some.injEq] at hraise
      exact absurd hraise.symm Bool.false_ne_true
    refine ⟨false, none, [], ?_, fun listener => ?_, fun h => absurd h Bool.false_ne_true,
      fun _ => ⟨rfl, hcache⟩⟩
    · rw [Option.bind_some, if_neg Bool.false_ne_true]
      exact congrArg (fun raised => some
        (({ sub.listener with raisedInitialEvent := raised } : QueryListener q), none)) hnot
    · rw [receive, ← hdocs]
  · have hsorted : (snapshot.documents.toList.map fun doc =>
        (⟨doc, .added⟩ : DocumentViewChange)).Pairwise fun lhs rhs =>
          View.changeBefore q lhs rhs = true := by
      refine List.pairwise_map.mpr (snapshot.documents.sortedSet.sorted.imp fun {d e} hlt => ?_)
      rw [View.changeBefore, if_neg (not_not_intro rfl), hlt]
      rfl
    rcases QuerySnapshot.forEachChange_spec
      (ViewSnapshot.fromInitialDocuments snapshot.documents snapshot.mutatedKeys
        snapshot.fromCache snapshot.excludesMetadataChanges snapshot.hasCachedResults)
      hasked (leads_initial _ _) hsorted hplain .nil with ⟨out, hout, hlist⟩
    refine ⟨true, some (.fromInitialDocuments snapshot.documents snapshot.mutatedKeys
      snapshot.fromCache snapshot.excludesMetadataChanges snapshot.hasCachedResults), _, ?_,
      fun listener => ?_, fun _ => hlist, fun h => absurd h.symm Bool.false_ne_true⟩
    · rw [Option.bind_some, if_pos rfl, QueryListener.raiseInitialEvent, hnot,
        if_neg Bool.false_ne_true]
      rfl
    · rw [receive, hout, hdocs]
      rfl

/-- What the listener makes of a snapshot that leads from what was shown to
    what is. -/
theorem filtered_spec {sub : Subscriber q}
    (hasked : sub.includeMetadataChanges = true →
      sub.listener.options.includeDocumentMetadataChanges = true)
    (hleads : Leads true shown snapshot.documentChanges shown')
    (hsorted : snapshot.documentChanges.Pairwise fun lhs rhs =>
      View.changeBefore q lhs rhs = true)
    (hall : snapshot.excludesMetadataChanges = false) :
    ∃ filtered : ViewSnapshot q, filtered = (if sub.listener.options.includeDocumentMetadataChanges
        then snapshot else snapshot.withoutMetadataChanges) ∧
      filtered.documents = snapshot.documents ∧
      filtered.oldDocuments = snapshot.oldDocuments ∧
      filtered.fromCache = snapshot.fromCache ∧
      (sub.includeMetadataChanges = true → filtered.excludesMetadataChanges = false) ∧
      Leads sub.includeMetadataChanges shown filtered.documentChanges shown' ∧
      filtered.documentChanges.Pairwise fun lhs rhs => View.changeBefore q lhs rhs = true := by
  refine ⟨_, rfl, ?_⟩
  split_ifs with hinclude
  · exact ⟨rfl, rfl, rfl, fun _ => hall, hleads.of_exact _, hsorted⟩
  · have hno : sub.includeMetadataChanges = false :=
      Bool.eq_false_iff.mpr fun h => hinclude (hasked h)
    rw [hno]
    exact ⟨rfl, rfl, rfl, fun h => absurd h Bool.false_ne_true, leads_filter hleads,
      hsorted.filter _⟩

/-- A snapshot comes from the view. -/
theorem onViewSnapshot_spec (h : Follows sub shown synced) {view view' : View q}
    (hshown : shown = view.documentSet) (hexact : Exact view snapshot view')
    (hplain : ∀ d ∈ view'.documentSet.toList, PlainFor q d) :
    ∃ sub', sub.onViewSnapshot snapshot = some sub' ∧ sub'.request = sub.request ∧
      Follows sub' view'.documentSet (view'.syncState = .synced) ∧ Heard sub' := by
  subst hshown
  rcases hexact.changes with ⟨changeSet, hdiff, hperm⟩
  rcases filtered_spec h.asked (leads_of_diff hdiff hperm) hexact.sorted hexact.all with
    ⟨filtered, hfiltered, hdocuments, hold, hcache, hexcludes, hleads, hsorted⟩
  rw [hexact.documents] at hdocuments
  rw [hexact.oldDocuments] at hold
  have hsnapshot : filtered.documents = view'.documentSet ∧
      (filtered.fromCache = false ↔ view'.syncState = .synced) ∧
      (sub.includeMetadataChanges = true → filtered.excludesMetadataChanges = false) :=
    ⟨hdocuments, hcache ▸ hexact.fromCache, hexcludes⟩
  have hreason : (snapshot.documentChanges.isEmpty && !snapshot.syncStateChanged) = false := by
    rw [Bool.and_eq_false_iff, Bool.not_eq_false', List.isEmpty_eq_false_iff]
    exact hexact.reason
  rw [← hdocuments] at hplain
  rw [onViewSnapshot, QueryListener.onViewSnapshot, hreason, if_neg Bool.false_ne_true]
  simp only [← hfiltered]
  rcases hraised : sub.listener.raisedInitialEvent with _ | _
  · rcases initial_spec sub hraised (h.waiting hraised) hexcludes hplain
      sub.listener.onlineState with ⟨raised, event, docs, hraise, hreceive, hcalled, hwaiting⟩
    refine ⟨{ sub with
        listener := { sub.listener with
          raisedInitialEvent := raised
          snapshot := some filtered }
        docs }, ?_, rfl, ⟨h.asked, ?_, ?_, fun hnot => (hwaiting hnot).1, ?_⟩, rfl⟩
    · rw [Bool.not_false, if_pos rfl, hraise]
      exact hreceive _
    · rintro _ ⟨⟩
      exact hsnapshot
    · intro hcall
      rw [← hdocuments]
      exact hcalled hcall
    · rintro hnot _ ⟨⟩
      exact (hwaiting hnot).2
  · have hdocs := h.called hraised
    rw [Bool.not_true, if_neg Bool.false_ne_true, Option.bind_some]
    rcases hshould : sub.listener.shouldRaiseEvent filtered with _ | _
    · -- Nothing that the user wants to see has changed.
      have hnil : filtered.documentChanges = [] := by
        rw [QueryListener.shouldRaiseEvent] at hshould
        by_contra hne
        rw [List.isEmpty_eq_false_iff.mpr hne, Bool.not_false, if_pos rfl] at hshould
        exact Bool.noConfusion hshould
      rw [hnil] at hleads
      refine ⟨{ sub with
          listener := { sub.listener with
            raisedInitialEvent := true
            snapshot := some filtered } }, rfl, rfl, ⟨h.asked, ?_, fun _ => ?_,
        fun hnot => absurd hnot.symm Bool.false_ne_true,
        fun hnot => absurd hnot.symm Bool.false_ne_true⟩, rfl⟩
      · rintro _ ⟨⟩
        exact hsnapshot
      · rw [← hdocuments] at hleads ⊢
        exact forall₂_trans (R := Same _) (fun _ _ _ => Same.trans) hdocs
          (QuerySnapshot.forall₂_of_alike hplain fun k => hleads.elsewhere k List.not_mem_nil)
    · rw [← hold] at hdocs hleads
      rw [← hdocuments] at hleads
      rcases QuerySnapshot.forEachChange_spec filtered hexcludes hleads hsorted hplain hdocs with
        ⟨out, hout, hlist⟩
      refine ⟨{ sub with
          listener := { sub.listener with
            raisedInitialEvent := true
            snapshot := some filtered }
          docs := out.foldl DocumentChange.apply sub.docs }, ?_, rfl, ⟨h.asked, ?_, fun _ => ?_,
        fun hnot => absurd hnot.symm Bool.false_ne_true,
        fun hnot => absurd hnot.symm Bool.false_ne_true⟩, rfl⟩
      · rw [if_pos rfl, receive, hout]
        rfl
      · rintro _ ⟨⟩
        exact hsnapshot
      · rw [← hdocuments]
        exact hlist

/-- The client has come online or gone offline. -/
theorem onOnlineStateChanged_spec (h : Follows sub shown synced)
    (hplain : ∀ d ∈ shown.toList, PlainFor q d) (onlineState : OnlineState) :
    ∃ sub', sub.onOnlineStateChanged onlineState = some sub' ∧ sub'.request = sub.request ∧
      Follows sub' shown synced ∧ (Heard sub → Heard sub') := by
  rw [onOnlineStateChanged, QueryListener.onOnlineStateChanged]
  rcases hsnapshot : sub.listener.snapshot with _ | snapshot
  · refine ⟨{ sub with listener := { sub.listener with onlineState } }, ?_, rfl,
      ⟨h.asked, h.snapshot, h.called, h.waiting, h.due⟩, id⟩
    simp only [hsnapshot, Option.bind_some, receive]
  · rcases hraised : sub.listener.raisedInitialEvent with _ | _
    · rcases h.snapshot snapshot hsnapshot with ⟨hdocuments, hcache, hexcludes⟩
      rw [← hdocuments] at hplain
      rcases initial_spec { sub with listener := { sub.listener with onlineState } }
        hraised (h.waiting hraised) hexcludes hplain onlineState with
        ⟨raised, event, docs, hraise, hreceive, hcalled, hwaiting⟩
      refine ⟨{ sub with
          listener := { sub.listener with
            onlineState
            raisedInitialEvent := raised }
          docs }, ?_, rfl, ⟨h.asked, h.snapshot, ?_, fun hnot => (hwaiting hnot).1, ?_⟩, id⟩
      · simp only [hsnapshot, hraised] at hraise ⊢
        rw [hraise, Option.bind_some]
        exact hreceive _
      · intro hcall
        rw [← hdocuments]
        exact hcalled hcall
      · intro hnot last hlast
        rw [hsnapshot, Option.some.injEq] at hlast
        exact hlast ▸ (hwaiting hnot).2
    · refine ⟨{ sub with listener := { sub.listener with onlineState } }, ?_, rfl,
        ⟨h.asked, h.snapshot, h.called, h.waiting, h.due⟩, id⟩
      simp only [hsnapshot, hraised, Option.bind_some, receive]

/-- A new listener follows whatever there is. -/
theorem follows_new {options : ListenOptions} {includeMetadataChanges : Bool}
    (hasked : includeMetadataChanges = true → options.includeDocumentMetadataChanges = true)
    (onlineState : OnlineState) :
    Follows ⟨{ QueryListener.new q options with onlineState }, includeMetadataChanges, []⟩ shown
      synced :=
  ⟨hasked, fun _ hsome => absurd hsome.symm (Option.some_ne_none _),
    fun h => absurd h Bool.false_ne_true, fun _ => rfl,
    fun _ _ hsome => absurd hsome.symm (Option.some_ne_none _)⟩

/-- A listener that is added is given the last snapshot of the view. -/
theorem join_spec (options : ListenOptions) (includeMetadataChanges : Bool)
    (onlineState : OnlineState)
    (hasked : includeMetadataChanges = true → options.includeDocumentMetadataChanges = true)
    {view view' : View q} (hexact : Exact view snapshot view')
    (hplain : ∀ d ∈ view'.documentSet.toList, PlainFor q d) :
    ∃ sub', (Subscriber.mk { QueryListener.new q options with onlineState }
        includeMetadataChanges []).onViewSnapshot snapshot = some sub' ∧
      sub'.request = (options, includeMetadataChanges) ∧
      Follows sub' view'.documentSet (view'.syncState = .synced) ∧ Heard sub' := by
  have hnew : Follows ⟨{ QueryListener.new q options with onlineState }, includeMetadataChanges, []⟩
      view.documentSet True := follows_new hasked onlineState
  exact onViewSnapshot_spec hnew rfl hexact hplain

end Subscriber

end FirestoreCore

end JkbEmpOffers
