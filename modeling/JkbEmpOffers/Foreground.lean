import JkbEmpOffers.App
import JkbEmpOffers.Library.Run
import JkbEmpOffers.Notifications

/-!
# Notifications in the Foreground

On Android a message that arrives while the app is open does two things.
`initLocalNotifications` registers a tap callback that closes over the
message, in the place of the callback before it, and `showNotification`
schedules a timer that shows the notification with id 0, in the place of the
one before it. The plugin passes the tapped notification to the callback as
`payload`, but the callback does not look at it and no payload is ever set.

So two slots are written at two times, and between them a tap opens the page
of the message that arrived last under the notification of an earlier one.
The pending shows may fire in any order here.

A tap is recorded with the notification it was made on and with the page that
the callback asked `Get.to` for. In the app that page is opened, unless it is
of the class of the page on top: `app_tap` says so.

## Main definitions

* `Tray`: The two slots and the pending shows.
* `Event`, `step`: Arrivals, firings and taps.
* `Routed`: Every tap asked for the page of the notification it was made on.
* `Current`: The condition on a step.

## Theorems

* `app_tap`: What a tap does in the app.
* `inv_step`: The callback is that of the message that arrived last.
* `routed_step`: The steps that keep `Routed`.
* `taps_routed_iff`: The runs that do.
* `earlier_notification_misrouted`: A run that does not.
-/

namespace JkbEmpOffers

namespace Foreground

open NotificationServices

/-- The notification plugin, as the app uses it. -/
structure Tray where
  /-- The message that `onDidReceiveNotificationResponse` closes over. -/
  callback : Option RemoteMessage
  /-- The messages whose `show` waits for its timer. -/
  pending : List RemoteMessage
  /-- The message whose notification is displayed. -/
  visible : Option RemoteMessage
  /-- The messages that arrived, the last one last. -/
  arrived : List RemoteMessage
  /-- The taps: the message displayed and the page that was asked for. -/
  taps : List (RemoteMessage × Option OffersPage)

/-- Before the first message. -/
def Tray.start : Tray :=
  { callback := none, pending := [], visible := none, arrived := [], taps := [] }

/-- What can happen. -/
inductive Event where
  | arrive (message : RemoteMessage)
  | fire (i : Nat)
  | tap
  deriving DecidableEq

/-- `initLocalNotifications` -/
def initLocalNotifications (message : RemoteMessage) (s : Tray) : Tray :=
  { s with callback := some message }

/-- `showNotification`, as far as the timer. -/
def showNotification (message : RemoteMessage) (s : Tray) : Tray :=
  { s with pending := s.pending ++ [message] }

/-- The listener of `onMessage`, or a firing timer, or a tap; a tap on a
    notification also removes it. -/
def step (s : Tray) : Event → Tray
  | .arrive message =>
    -- The callback is replaced now, the notification only when the timer fires.
    let s := showNotification message (initLocalNotifications message s)
    { s with arrived := s.arrived ++ [message] }
  | .fire i =>
    match s.pending[i]? with
    | some message => { s with pending := s.pending.eraseIdx i, visible := some message }
    | none => s
  | .tap =>
    match s.visible with
    | some message =>
      { s with visible := none, taps := s.taps ++ [(message, s.callback.bind handleMessage)] }
    | none => s

/-- A tap runs `handleMessage` of the callback's message in the app, which is
    in English from then on and is asked for the page that the tray records. -/
theorem app_tap (lower : String → String) (app : App) {s : Tray} {message c : RemoteMessage}
    (hvisible : s.visible = some message) (hcallback : s.callback = some c) :
    ∃ page, (step s .tap).taps = s.taps ++ [(message, page)] ∧
      app.step lower (.foreground c) =
        match page with
        | some page => (app.updateLocale .enUS).getTo page
        | none => app := by
  refine ⟨handleMessage c, ?_, rfl⟩
  rw [step, hvisible, hcallback]
  rfl

/-- Every tap asked for the page of the notification it was made on. -/
def Routed (s : Tray) : Prop :=
  ∀ t ∈ s.taps, t.2 = handleMessage t.1

instance : DecidablePred Routed := fun s =>
  inferInstanceAs (Decidable (∀ t ∈ s.taps, t.2 = handleMessage t.1))

/-- A tap is made on the notification of the last message, or of one with the
    same route. -/
def Current (s : Tray) (e : Event) : Prop :=
  e = .tap → ∀ m ∈ s.visible, ∀ c ∈ s.arrived.getLast?, SameRoute m c

/-- The callback is that of the message that arrived last, and what is
    pending or displayed has arrived. -/
structure Inv (s : Tray) : Prop where
  callback : s.callback = s.arrived.getLast?
  pending : ∀ m ∈ s.pending, m ∈ s.arrived
  visible : ∀ m ∈ s.visible, m ∈ s.arrived

theorem inv_start : Inv Tray.start where
  callback := rfl
  pending := fun m hm => absurd hm (List.not_mem_nil)
  visible := fun m hm => absurd hm (by simp only [Tray.start, Option.not_mem_none,
    not_false_eq_true])

theorem inv_step (s : Tray) (e : Event) (h : Inv s) : Inv (step s e) := by
  cases e with
  | arrive message =>
      refine ⟨List.getLast?_concat.symm, fun m hm => ?_, fun m hm => ?_⟩
      -- What is pending was pending before, or is the message itself.
      · rcases List.mem_append.mp hm with hm | hm
        · exact List.mem_append_left _ (h.pending m hm)
        · exact List.mem_append_right _ hm
      · exact List.mem_append_left _ (h.visible m hm)
  | fire i =>
      rw [step]
      rcases hi : s.pending[i]? with _ | message
      · exact h
      · refine ⟨h.callback, fun m hm => h.pending m (List.mem_of_mem_eraseIdx hm), fun m hm => ?_⟩
        rcases Option.mem_some_iff.mp hm with rfl
        exact h.pending message (List.mem_of_getElem? hi)
  | tap =>
      rw [step]
      rcases s.visible with _ | message
      · exact h
      · exact ⟨h.callback, h.pending, fun m hm => absurd hm (Option.not_mem_none m)⟩

/-- A step keeps `Routed` exactly when it is no tap, or one on the
    notification of the last message or of one with the same route. -/
theorem routed_step (s : Tray) (e : Event) (h : Inv s) (hp : Routed s) :
    Routed (step s e) ↔ Current s e := by
  cases e with
  | arrive message => exact iff_of_true hp fun h => absurd h (by simp only [reduceCtorEq,
      not_false_eq_true])
  | fire i =>
      refine iff_of_true ?_ fun h => absurd h (by simp only [reduceCtorEq, not_false_eq_true])
      rw [step]
      rcases s.pending[i]? with _ | message
      · exact hp
      · exact hp
  | tap =>
      rcases hv : s.visible with _ | message
      · have hstep : step s .tap = s := by rw [step, hv]
        rw [hstep]
        refine iff_of_true hp fun _ m hm => ?_
        rw [hv] at hm
        exact absurd hm (Option.not_mem_none m)
      · -- Something is displayed, so something arrived and the callback is set.
        rcases hlast : s.arrived.getLast? with _ | c
        · have hmem := h.visible message hv
          rw [List.getLast?_eq_none_iff.mp hlast] at hmem
          exact absurd hmem List.not_mem_nil
        · have hstep : (step s .tap).taps = s.taps ++ [(message, handleMessage c)] := by
            rw [step, hv, h.callback, hlast]
            rfl
          simp only [Routed, hstep, List.forall_mem_append, List.forall_mem_singleton, Current, hv,
            hlast, Option.mem_def, Option.some.injEq, forall_eq', forall_const]
          rw [← handleMessage_eq_iff, eq_comm]
          exact and_iff_right hp

/-- In every run, of any number of messages in any order with the firings and
    the taps, each tap asks for the page of the notification displayed, exactly
    when each tap is made on the notification of the last message to arrive
    or of one with the same route. -/
theorem taps_routed_iff (es : List Event) :
    Run.Always step Routed Tray.start es ↔ Run.Along step Current Tray.start es :=
  Run.always_iff_along step Inv Routed Current (fun s e h _ _ => inv_step s e h) routed_step es
    Tray.start inv_start
    fun _ ht => absurd ht List.not_mem_nil

/-- A second message arrives while the notification of the first is still
    displayed: a tap on it asks for the page of the second. -/
theorem earlier_notification_misrouted :
    ¬ Run.Always step Routed Tray.start
      [.arrive ⟨"Hotels", "New offers", some "Hotels"⟩, .fire 0,
        .arrive ⟨"Clubs", "New offers", some "Sports Clubs"⟩, .tap] := by
  decide

end Foreground

end JkbEmpOffers
