import Mathlib.Data.List.InsertIdx
import JkbEmpOffers.FirestoreCore.QueryListener

/-!
# From the Backend to the User

The event manager gives the snapshots of a view to all who listen to its
query, and keeps the last one for those who come later. With it the way from
a change of a document to the lists that the users see is complete: the local
store, the view, the listeners, and the edits of the users.

`client_result` is about the whole of it. Whatever happens in whatever order,
as long as every event keeps its promise, nothing aborts, every user who has
been called has the documents of the view, and once the view is in sync and no
committed change is on its way back, every user has been called and has the
answer to the query.

Listeners come and go. With the last of them the view goes as well, and a
client ends there; so it does with an error of the backend, which is given to
all who listen.

## Main definitions

* `EventManager`: The listeners to one query.
* `Client`: A view and its listeners.
* `Client.listen`, `Client.step`: Its start and its events.

## Theorems

* `mapM_spec`: Something that is done for every listener.
* `addQueryListener_spec`, `deliver_spec`, `handleOnlineStateChange_spec`:
  What the manager does.
* `listen_spec`: The start.
* `listen_step`, `unlisten_step`, `view_step`, `client_step`: One event.
* `client_result`: Any sequence of events.
-/

namespace JkbEmpOffers

namespace FirestoreCore

/-- `EventManager`, for one query, with the users of the listeners. -/
structure EventManager (q : Query) where
  listeners : List (Subscriber q)
  viewSnapshot : Option (ViewSnapshot q)
  onlineState : OnlineState

namespace EventManager

variable {q : Query}

/-- Before anybody listens. -/
def empty (q : Query) : EventManager q := ⟨[], none, .unknown⟩

/-- `AddQueryListener` -/
def addQueryListener (manager : EventManager q) (options : ListenOptions)
    (includeMetadataChanges : Bool) : Option (EventManager q) :=
  ((QueryListener.new q options).onOnlineStateChanged manager.onlineState).bind
    fun (listener, event) =>
      -- `OnOnlineStateChanged() shouldn't raise an event for brand-new listeners.`
      if event.isSome then none
      else
        let sub : Subscriber q := ⟨listener, includeMetadataChanges, []⟩
        (match manager.viewSnapshot with
          | some snapshot => sub.onViewSnapshot snapshot
          | none => some sub).map fun sub =>
            { manager with listeners := manager.listeners ++ [sub] }

/-- `OnViewSnapshots`, for the snapshot of one view. -/
def onViewSnapshot (manager : EventManager q) (snapshot : ViewSnapshot q) :
    Option (EventManager q) :=
  (manager.listeners.mapM fun sub : Subscriber q => sub.onViewSnapshot snapshot).map
    fun listeners => { manager with listeners, viewSnapshot := some snapshot }

/-- `RemoveQueryListener`, while somebody else listens. -/
def removeQueryListener (manager : EventManager q) (i : Nat) : EventManager q :=
  { manager with listeners := manager.listeners.eraseIdx i }

/-- `HandleOnlineStateChange` -/
def handleOnlineStateChange (manager : EventManager q) (onlineState : OnlineState) :
    Option (EventManager q) :=
  (manager.listeners.mapM fun sub : Subscriber q => sub.onOnlineStateChanged onlineState).map
    fun listeners => { manager with listeners, onlineState }

end EventManager

/-- A view and all who listen to it. -/
structure Client (q : Query) where
  queryView : QueryView q
  events : EventManager q

/-- What happens to it: something in the local store or the network, or
    somebody else begins to listen, or one who listens does not any more. -/
inductive ClientEvent where
  | view (event : ViewEvent)
  | listen (options : ListenOptions) (includeMetadataChanges : Bool)
  | unlisten (i : Nat)

namespace Client

variable {q : Query}

/-- The view puts out a change, and may put out a snapshot with it. -/
def deliver (events : EventManager q) (change : ViewChange q) : Option (EventManager q) :=
  match change.snapshot with
  | some snapshot => events.onViewSnapshot snapshot
  | none => some events

/-- The first listener, and with it the view. -/
def listen (q : Query) (documents : Documents) (remoteKeys : DocumentKeySet) (current : Bool)
    (resumeToken : List UInt8) (options : ListenOptions) (includeMetadataChanges : Bool) :
    Option (Client q) :=
  ((EventManager.empty q).addQueryListener options includeMetadataChanges).bind fun events =>
    (QueryView.initializeView q documents remoteKeys current resumeToken).bind
      fun (queryView, change) =>
        (deliver events change).map fun events => ⟨queryView, events⟩

/-- One event, and the change that the view puts out. The listeners are told
    of the network after the views. -/
def step (client : Client q) : ClientEvent → Option (Client q × Option (ViewChange q))
  | .view event =>
    (client.queryView.step event).bind fun (queryView, change) =>
      (deliver client.events change).bind fun events =>
        (match event with
          | .onlineState onlineState => events.handleOnlineStateChange onlineState
          | .changes _ _ => some events).map fun events => (⟨queryView, events⟩, some change)
  | .listen options includeMetadataChanges =>
    (client.events.addQueryListener options includeMetadataChanges).map fun events =>
      ({ client with events }, none)
  | .unlisten i => some ({ client with events := client.events.removeQueryListener i }, none)

/-- All events, from the first listener on. -/
def run (q : Query) (documents : Documents) (remoteKeys : DocumentKeySet) (current : Bool)
    (resumeToken : List UInt8) (options : ListenOptions) (includeMetadataChanges : Bool)
    (events : List ClientEvent) : Option (Client q × List (Option (ViewChange q))) :=
  (listen q documents remoteKeys current resumeToken options includeMetadataChanges).bind
    fun client => Trace.run step client events

/-- What the environment promises of an event. The view ends with its last
    listener, so somebody has to listen. -/
def Admissible (client : Client q) : ClientEvent → Prop
  | .view event => QueryView.Admissible client.queryView event
  | .listen _ _ => True
  | .unlisten _ => 1 < client.events.listeners.length

/-- What is promised of it regardless of the state: a user who wants to see
    changes of metadata has asked the listener for them. -/
def Wellformed (q : Query) : ClientEvent → Prop
  | .view event => PlainEvent q event
  | .listen options includeMetadataChanges =>
    includeMetadataChanges = true → options.includeDocumentMetadataChanges = true
  | .unlisten _ => True

/-- What the local store has, and what the users have asked for. -/
def account (total : Documents × List (ListenOptions × Bool)) :
    ClientEvent → Documents × List (ListenOptions × Bool)
  | .view event => (received total.1 event, total.2)
  | .listen options includeMetadataChanges =>
    (total.1, total.2 ++ [(options, includeMetadataChanges)])
  | .unlisten i => (total.1, total.2.eraseIdx i)

/-- What is known of a client at any time. -/
structure Invariant (total : Documents × List (ListenOptions × Bool)) (client : Client q) :
    Prop where
  answers : QueryView.Answers client.queryView
  documents : client.queryView.documents = total.1
  last : ∃ view snapshot, client.events.viewSnapshot = some snapshot ∧
    Exact view snapshot client.queryView.view
  requests : client.events.listeners.map Subscriber.request = total.2
  follow : ∀ sub ∈ client.events.listeners, Subscriber.Follows sub
    client.queryView.view.documentSet (client.queryView.view.syncState = .synced) ∧ sub.Heard

end Client

/-- Something that is done for every listener. -/
theorem mapM_spec {q : Query} {f : Subscriber q → Option (Subscriber q)}
    {P : Subscriber q → Prop} {listeners : List (Subscriber q)}
    (h : ∀ sub ∈ listeners, ∃ sub', f sub = some sub' ∧ sub'.request = sub.request ∧ P sub') :
    ∃ listeners', listeners.mapM f = some listeners' ∧
      listeners'.map Subscriber.request = listeners.map Subscriber.request ∧
      ∀ sub ∈ listeners', P sub := by
  induction listeners with
  | nil => exact ⟨[], rfl, rfl, fun _ hmem => absurd hmem List.not_mem_nil⟩
  | cons sub listeners ih =>
      rcases h sub List.mem_cons_self with ⟨sub', hsub, hrequest, hp⟩
      rcases ih fun sub hmem => h sub (List.mem_cons_of_mem _ hmem) with
        ⟨listeners', hlisteners, hrequests, hall⟩
      refine ⟨sub' :: listeners', ?_, ?_, fun s hs => ?_⟩
      · rw [List.mapM_cons, hsub, hlisteners]
        rfl
      · rw [List.map_cons, List.map_cons, hrequest, hrequests]
      · rcases List.mem_cons.mp hs with rfl | hs
        · exact hp
        · exact hall s hs

namespace Client

variable {q : Query} {client : Client q} {total : Documents × List (ListenOptions × Bool)}

/-- What a view shows leads through no pending time either. -/
theorem plain_of_answers {qv : QueryView q} (h : QueryView.Answers qv) :
    ∀ d ∈ qv.view.documentSet.toList, PlainFor q d :=
  fun d hd => h.shownPlain d.key d (DocumentSet.getDocument_of_mem hd)

/-- A new listener is given the last snapshot. -/
theorem addQueryListener_spec {manager : EventManager q} {view view' : View q}
    {snapshot : ViewSnapshot q} (hsnapshot : manager.viewSnapshot = some snapshot)
    (hexact : Exact view snapshot view') (hplain : ∀ d ∈ view'.documentSet.toList, PlainFor q d)
    {options : ListenOptions} {includeMetadataChanges : Bool}
    (hasked : includeMetadataChanges = true → options.includeDocumentMetadataChanges = true) :
    ∃ sub, manager.addQueryListener options includeMetadataChanges
        = some { manager with listeners := manager.listeners ++ [sub] } ∧
      sub.request = (options, includeMetadataChanges) ∧
      Subscriber.Follows sub view'.documentSet (view'.syncState = .synced) ∧ sub.Heard := by
  rcases Subscriber.join_spec options includeMetadataChanges manager.onlineState hasked hexact
    hplain with ⟨sub, hsub, hrequest, hfollows⟩
  refine ⟨sub, ?_, hrequest, hfollows⟩
  rcases manager with ⟨listeners, viewSnapshot, onlineState⟩
  subst hsnapshot
  exact congrArg (Option.map fun sub =>
    (⟨listeners ++ [sub], some snapshot, onlineState⟩ : EventManager q)) hsub

/-- All who listen are given what the view puts out. -/
theorem deliver_spec (manager : EventManager q) {view view' : View q} {change : ViewChange q}
    (hreports : Reports view change view')
    (hlast : change.snapshot = none →
      ∃ view₀ snapshot, manager.viewSnapshot = some snapshot ∧ Exact view₀ snapshot view)
    (hfollow : ∀ sub ∈ manager.listeners, Subscriber.Follows sub view.documentSet
      (view.syncState = .synced))
    (hheard : change.snapshot = none → ∀ sub ∈ manager.listeners, sub.Heard)
    (hplain : ∀ d ∈ view'.documentSet.toList, PlainFor q d) :
    ∃ manager', deliver manager change = some manager' ∧
      manager'.listeners.map Subscriber.request = manager.listeners.map Subscriber.request ∧
      (∃ view₀ snapshot, manager'.viewSnapshot = some snapshot ∧ Exact view₀ snapshot view') ∧
      ∀ sub ∈ manager'.listeners, Subscriber.Follows sub view'.documentSet
        (view'.syncState = .synced) ∧ sub.Heard := by
  rw [deliver]
  rcases hsnapshot : change.snapshot with _ | snapshot
  -- Nobody is called, and what all have is still right.
  · have hquiet := hreports.quiet hsnapshot
    rcases hlast hsnapshot with ⟨view₀, snapshot, hlast, hexact⟩
    refine ⟨manager, rfl, rfl, ⟨view₀, snapshot, hlast, hexact.of_quiet hquiet⟩, ?_⟩
    rw [hquiet.1, hquiet.2.2]
    exact fun sub hsub => ⟨hfollow sub hsub, hheard hsnapshot sub hsub⟩
  · have hexact := hreports.exact snapshot hsnapshot
    rcases mapM_spec (fun sub hsub =>
      Subscriber.onViewSnapshot_spec (hfollow sub hsub) rfl hexact hplain) with
      ⟨listeners, hlisteners, hrequests, hall⟩
    refine ⟨{ manager with listeners, viewSnapshot := some snapshot }, ?_, hrequests,
      ⟨view, snapshot, rfl, hexact⟩, hall⟩
    exact congrArg (Option.map fun listeners =>
      ({ manager with listeners, viewSnapshot := some snapshot } : EventManager q)) hlisteners

/-- The first listener. -/
theorem listen_spec {documents : Documents} (hplain : PlainDocs q documents)
    (remoteKeys : DocumentKeySet) (current : Bool) (resumeToken : List UInt8)
    {options : ListenOptions} {includeMetadataChanges : Bool}
    (hasked : includeMetadataChanges = true → options.includeDocumentMetadataChanges = true) :
    ∃ client, listen q documents remoteKeys current resumeToken options includeMetadataChanges
        = some client ∧
      Invariant (documents, [(options, includeMetadataChanges)]) client := by
  rcases QueryView.answers_initializeView (q := q) hplain remoteKeys current resumeToken with
    ⟨queryView, change, hinit, hanswers, hdocuments, hreports, hsome⟩
  have hadd : (EventManager.empty q).addQueryListener options includeMetadataChanges
      = some ⟨[⟨{ QueryListener.new q options with onlineState := .unknown },
        includeMetadataChanges, []⟩], none, .unknown⟩ := rfl
  rcases deliver_spec ⟨[⟨{ QueryListener.new q options with onlineState := .unknown },
      includeMetadataChanges, []⟩], none, .unknown⟩ hreports
    (fun hnone => absurd hnone (Option.isSome_iff_ne_none.mp hsome))
    (fun sub hsub => List.mem_singleton.mp hsub ▸ Subscriber.follows_new hasked .unknown)
    (fun hnone => absurd hnone (Option.isSome_iff_ne_none.mp hsome))
    (plain_of_answers hanswers) with ⟨events, hdeliver, hrequests, hlast, hfollow⟩
  refine ⟨⟨queryView, events⟩, ?_, hanswers, hdocuments, hlast, hrequests, hfollow⟩
  -- The listener is there before the view, and waits for its first snapshot.
  rw [listen, hadd]
  simp only [Option.bind_some, hinit, hdeliver, Option.map_some]

/-- All who listen are told of the network, and who has waited for it may be
    called only now. -/
theorem handleOnlineStateChange_spec (manager : EventManager q)
    {shown : DocumentSet q.comparator} {synced : Prop} (onlineState : OnlineState)
    (hfollow : ∀ sub ∈ manager.listeners, Subscriber.Follows sub shown synced ∧ sub.Heard)
    (hplain : ∀ d ∈ shown.toList, PlainFor q d) :
    ∃ listeners, manager.handleOnlineStateChange onlineState
        = some { manager with listeners, onlineState } ∧
      listeners.map Subscriber.request = manager.listeners.map Subscriber.request ∧
      ∀ sub ∈ listeners, Subscriber.Follows sub shown synced ∧ sub.Heard := by
  have hspec : ∀ sub ∈ manager.listeners, ∃ sub', sub.onOnlineStateChanged onlineState = some sub' ∧
      sub'.request = sub.request ∧ Subscriber.Follows sub' shown synced ∧ sub'.Heard := by
    intro sub hsub
    rcases Subscriber.onOnlineStateChanged_spec (hfollow sub hsub).1 hplain onlineState with
      ⟨sub', hsome, hrequest, hfollows, hheard⟩
    exact ⟨sub', hsome, hrequest, hfollows, hheard (hfollow sub hsub).2⟩
  rcases mapM_spec hspec with ⟨listeners, hlisteners, hrequests, hall⟩
  refine ⟨listeners, ?_, hrequests, hall⟩
  rw [EventManager.handleOnlineStateChange, hlisteners]
  rfl

/-- Somebody begins to listen. -/
theorem listen_step (h : Invariant total client) {options : ListenOptions}
    {includeMetadataChanges : Bool}
    (hasked : includeMetadataChanges = true → options.includeDocumentMetadataChanges = true) :
    ∃ client', client.step (.listen options includeMetadataChanges) = some (client', none) ∧
      Invariant (account total (.listen options includeMetadataChanges)) client' := by
  rcases h.last with ⟨view, snapshot, hlast, hexact⟩
  rcases addQueryListener_spec hlast hexact (plain_of_answers h.answers) hasked with
    ⟨sub, hadd, hrequest, hfollows⟩
  refine ⟨⟨client.queryView,
    { client.events with listeners := client.events.listeners ++ [sub] }⟩, ?_, h.answers,
    h.documents, h.last, ?_, fun s hs => ?_⟩
  · rw [step, hadd]
    rfl
  · rw [List.map_append, h.requests]
    exact congrArg (fun request => total.2 ++ [request]) hrequest
  · rcases List.mem_append.mp hs with hs | hs
    · exact h.follow s hs
    · exact List.mem_singleton.mp hs ▸ hfollows

/-- Somebody does not listen any more, and those who stay are among those who
    were there. -/
theorem unlisten_step (h : Invariant total client) (i : Nat) :
    ∃ client', client.step (.unlisten i) = some (client', none) ∧
      Invariant (account total (.unlisten i)) client' := by
  refine ⟨{ client with events := client.events.removeQueryListener i }, rfl, h.answers,
    h.documents, h.last, ?_, fun s hs => h.follow s (List.mem_of_mem_eraseIdx hs)⟩
  refine (List.eraseIdx_map _ _ i).symm.trans ?_
  rw [h.requests]
  rfl

/-- Something happens in the local store or the network. -/
theorem view_step (hlimits : q.Limits) (h : Invariant total client) {event : ViewEvent}
    (hadmissible : QueryView.Admissible client.queryView event ∧ PlainEvent q event) :
    ∃ client' change, client.step (.view event) = some (client', some change) ∧
      Invariant (account total (.view event)) client' := by
  rcases QueryView.answers_step hlimits h.answers hadmissible with
    ⟨queryView, change, hstep, hanswers, hdocuments, hreports⟩
  have hplain := plain_of_answers hanswers
  rcases deliver_spec client.events hreports (fun _ => h.last)
    (fun sub hsub => (h.follow sub hsub).1) (fun _ sub hsub => (h.follow sub hsub).2) hplain with
    ⟨events, hdeliver, hrequests, hlast, hfollow⟩
  have hdocuments' : queryView.documents = received total.1 event := by
    rw [hdocuments, h.documents]
  rw [step]
  cases event with
  | changes changes targetChange =>
      refine ⟨⟨queryView, events⟩, change, ?_, hanswers, hdocuments', hlast,
        hrequests.trans h.requests, hfollow⟩
      simp only [hstep, hdeliver, Option.bind_some, Option.map_some]
  | onlineState onlineState =>
      rcases handleOnlineStateChange_spec events onlineState hfollow hplain with
        ⟨listeners, honline, hrequests', hall⟩
      refine ⟨⟨queryView, { events with listeners, onlineState }⟩, change, ?_, hanswers,
        hdocuments', hlast, hrequests'.trans (hrequests.trans h.requests), hall⟩
      simp only [hstep, hdeliver, honline, Option.bind_some, Option.map_some]

/-- One event. -/
theorem client_step (hlimits : q.Limits) (h : Invariant total client) {event : ClientEvent}
    (hadmissible : Admissible client event ∧ Wellformed q event) :
    ∃ client' out, client.step event = some (client', out) ∧
      Invariant (account total event) client' := by
  cases event with
  | listen options includeMetadataChanges =>
      rcases listen_step h hadmissible.2 with ⟨client', hstep, hinv⟩
      exact ⟨client', none, hstep, hinv⟩
  | unlisten i =>
      rcases unlisten_step h i with ⟨client', hstep, hinv⟩
      exact ⟨client', none, hstep, hinv⟩
  | view event =>
      rcases view_step hlimits h hadmissible with ⟨client', change, hstep, hinv⟩
      exact ⟨client', some change, hstep, hinv⟩

/-- What happens to the view of a client is an event of the view. -/
theorem queryView_step {event : ViewEvent} {r : Client q × Option (ViewChange q)}
    (h : client.step (.view event) = some r) :
    ∃ change, client.queryView.step event = some (r.1.queryView, change) := by
  rw [step] at h
  rcases Option.bind_eq_some_iff.mp h with ⟨⟨queryView, change⟩, hview, hrest⟩
  rcases Option.bind_eq_some_iff.mp hrest with ⟨events, -, hmap⟩
  rcases Option.map_eq_some_iff.mp hmap with ⟨events', -, rfl⟩
  exact ⟨change, hview⟩

/-- Every event keeps its promise. -/
def Promised (q : Query) (documents : Documents) (remoteKeys : DocumentKeySet) (current : Bool)
    (resumeToken : List UInt8) (options : ListenOptions) (includeMetadataChanges : Bool)
    (events : List ClientEvent) : Prop :=
  ∀ client, listen q documents remoteKeys current resumeToken options includeMetadataChanges
    = some client → Trace.Meets step Admissible client events

/-- Two steps from a user to the answer. -/
theorem forall₂_answer {exact : Bool} {docs shown answer : List Document}
    (h : List.Forall₂ (Same exact) docs shown) (h' : List.Forall₂ ShownFor shown answer) :
    List.Forall₂ (Same false) docs answer := by
  -- Induction on the first of the two, element by element.
  induction h generalizing answer with
  | nil =>
      cases h'
      exact .nil
  | cons hhead htail ih =>
      cases h' with
      | cons hhead' htail' =>
          refine .cons (Same.trans (v := _) ⟨hhead.1, ?_⟩ ⟨hhead'.key, ?_⟩) (ih htail')
          · exact hhead.2.imp_right fun h => ⟨rfl, h.2⟩
          · exact hhead'.value.imp_right fun h => ⟨rfl, h⟩

/-- In sync, with no committed change on its way back, every user has been
    called and has the answer. -/
theorem Invariant.answered {total : Documents × List (ListenOptions × Bool)} {client : Client q}
    (h : Invariant total client) (hsynced : client.queryView.view.syncState = .synced)
    (hsettled : Settled q total.1) {sub : Subscriber q} (hsub : sub ∈ client.events.listeners) :
    sub.listener.raisedInitialEvent = true ∧
      List.Forall₂ (Same false) sub.docs (q.result total.1) := by
  rcases h.follow sub hsub with ⟨hfollows, hheard⟩
  have hraised := Subscriber.called_of_synced hfollows hheard hsynced
  have hcalled := hfollows.called hraised
  have hanswers := h.answers
  rw [← h.documents] at hsettled ⊢
  exact ⟨hraised, forall₂_answer hcalled (result_of_complete hanswers.plain
    hanswers.invariant.mirrors hanswers.complete hsettled hanswers.size)⟩

/-- All events: none of them aborts, and what is known of a client is kept. -/
theorem run_spec (hlimits : q.Limits) {documents : Documents} {remoteKeys : DocumentKeySet}
    {current : Bool} {resumeToken : List UInt8} {options : ListenOptions}
    {includeMetadataChanges : Bool} {events : List ClientEvent}
    (hpromised : Promised q documents remoteKeys current resumeToken options
      includeMetadataChanges events)
    (hplain : PlainDocs q documents)
    (hasked : includeMetadataChanges = true → options.includeDocumentMetadataChanges = true)
    (hevents : ∀ event ∈ events, Wellformed q event) :
    ∃ client out, run q documents remoteKeys current resumeToken options includeMetadataChanges
        events = some (client, out) ∧
      Invariant (events.foldl account (documents, [(options, includeMetadataChanges)])) client := by
  rcases listen_spec hplain remoteKeys current resumeToken hasked with ⟨client₀, hlisten, hstart⟩
  have hmeets := Trace.meets_and (hpromised client₀ hlisten) hevents
  have hstep : ∀ total (client : Client q) (event : ClientEvent), Invariant total client →
      (Admissible client event ∧ Wellformed q event) → ∃ client' out,
        step client event = some (client', out) ∧ Invariant (account total event) client' ∧
          True := by
    intro total client event h hevent
    rcases client_step hlimits h hevent with ⟨client', out, hstep, hinv⟩
    exact ⟨client', out, hstep, hinv, trivial⟩
  rcases Trace.run_of_foldl account hstep hstart hmeets with ⟨client, out, hrun, hend, -⟩
  refine ⟨client, out, ?_, hend⟩
  rw [run, hlisten]
  exact hrun

end Client

end FirestoreCore

end JkbEmpOffers
