import JkbEmpOffers.Blocking
import JkbEmpOffers.Stacks

/-!
# The Maintenance Dialog

The dialog that the `Config` document shows while the app is down has no
button. This is what it does keep out: for the rest of the launch it stays
where it is, with everything below it, and no login and no `Categories` page
is opened. An offers page is, but only by a notification.

Every button of the app is on a page, and the pages under the dialog are
covered by it. What is not a button can still push: a snapshot or a sign-in
that was waited for, the other check of start-up, and a notification. The
first two push beside a page, the third a dialog, and of the pages of the app
only the notification opens one, on the root navigator.

That the launch goes on has to be known from its events. A step that starts
over leaves empty stacks, which alone would not tell it from one that pops the
last route. So the log is followed as well: it has the dialog in it, and only
a launch clears it.

## Main definitions

* `Event.isLaunch`, `Event.isNotification`: The events that matter here.
* `Logged`: Everything on the nested navigator is in the log.
* `Under`: A dialog is on the nested navigator, with no page of the app above
  it.

## Theorems

* `log_prefix_step`: Within a launch the log only grows.
* `under_step`: What one event can do over the dialog.
* `maintenance_stays`: What a run can.
-/

namespace JkbEmpOffers

/-- A new launch. -/
def Event.isLaunch : Event → Bool
  | .launch _ => true
  | _ => false

/-- An event that may run `handleMessage`. -/
def Event.isNotification : Event → Bool
  | .initialMessage | .foreground _ | .background _ => true
  | _ => false

namespace App

/-- What is on the nested navigator has been shown. -/
def Logged (s : App) : Prop :=
  ∀ a ∈ s.nested, a.screen ∈ s.log

/-- A route is on the nested navigator, over what was below it, with no page
    of the app above it. -/
def Under (a : Entry) (below : List Entry) (s : App) : Prop :=
  ∃ above, s.nested = above ++ a :: below ∧ ∀ b ∈ above, b.screen.isAppPage = false

section

variable {lower : String → String} {s s' : App} {e : Event} {x : Screen}

/-- A page that is pushed is noted behind all the others. -/
theorem log_prefix_getTo (page : OffersPage) (h : s.log <+: s'.log) :
    s.log <+: (s'.getTo page).log := by
  rw [getTo]
  split_ifs
  · exact h
  · exact h.trans (List.prefix_append _ _)

/-- A message opens one page at most. -/
theorem log_prefix_interact (m : Option RemoteMessage) (h : s.log <+: s'.log) :
    s.log <+: (interact m s').log := by
  rcases m with _ | m
  · exact h
  · simp only [interact, handleMessage]
    rcases NotificationServices.handleMessage m with _ | page
    · exact h
    · exact log_prefix_getTo page h

/-- So does a page that pushes one beside itself. -/
theorem log_prefix_pushBeside (id : Nat) (x : Screen) (h : s.log <+: s'.log) :
    s.log <+: (s'.pushBeside id x).log := by
  rw [pushBeside]
  split_ifs
  · exact h.trans (List.prefix_append _ _)
  · exact h.trans (List.prefix_append _ _)
  · exact h

/-- Only a launch clears the log, so any other event leaves what is in it. -/
theorem log_prefix_step (he : e.isLaunch = false) : s.log <+: (s.step lower e).log := by
  have hself : s.log <+: s.log := List.prefix_refl _
  cases e with
  | launch m => exact absurd he Bool.true_eq_false_eq_False
  | initialMessage => exact log_prefix_interact _ hself
  | foreground m => exact log_prefix_interact (s.message (.foreground m)) hself
  | background m => exact log_prefix_interact (s.message (.background m)) hself
  | configRead value =>
      rw [step, configRead]
      split_ifs
      · split
        · exact List.prefix_append _ _
        · exact hself
      · exact hself
  | remoteChecked currentVersion configupdate =>
      rw [step]
      unfold remoteChecked
      split_ifs
      · split
        · split_ifs
          · exact List.prefix_append _ _
          · exact hself
        · exact hself
      · exact hself
  | language l =>
      rw [step, language]
      split
      · simp only [getvalidation]
        split_ifs <;> exact List.prefix_append _ _
      · exact hself
  | login username pass =>
      rw [step, login]
      split
      · split_ifs
        · exact List.prefix_append _ _
        · exact hself
      · exact hself
  | tile area i =>
      rw [step, tile]
      split
      · split
        · rw [tapTile]
          split
          · exact log_prefix_getTo _ hself
          · exact hself
          · exact hself
        · exact hself
      · exact hself
  | row contact =>
      rw [step, row]
      split <;> exact hself
  | listener i =>
      rw [step, listener]
      split
      · exact log_prefix_pushBeside _ _ hself
      · exact hself
  | notes =>
      rw [step, notes]
      split <;> exact hself
  | signedIn i =>
      rw [step, signedIn]
      split
      · refine log_prefix_pushBeside _ _ ?_
        exact hself
      · exact hself
  | update =>
      rw [step]
      unfold update
      split
      · split_ifs <;> exact hself
      · exact hself
  | back =>
      rw [step]
      unfold back
      split
      · exact hself
      · split_ifs <;> exact hself
      · exact hself

/-- Whatever is on a stack has been noted when it was pushed. -/
theorem logged_step (h : Logged s) : Logged (s.step lower e) := by
  intro a ha
  cases move_step lower s e with
  | stay root nested log =>
      rw [nested] at ha
      rw [log]
      exact h a ha
  | pushRoot opens onRoot root nested log =>
      rw [nested] at ha
      rw [log]
      exact List.mem_append_left _ (h a ha)
  | pushNested opens root nested log =>
      rw [nested] at ha
      rw [log]
      rcases List.mem_cons.mp ha with rfl | ha
      · exact List.mem_append_right _ (List.mem_singleton.mpr rfl)
      · exact List.mem_append_left _ (h a ha)
  | popRoot root nested log =>
      rw [nested] at ha
      rw [log]
      exact h a ha
  | popNested home root nested log =>
      rw [log]
      exact h a (nested ▸ List.mem_cons_of_mem _ ha)
  | restart root nested log =>
      rw [nested] at ha
      exact absurd ha List.not_mem_nil

/-- Under the dialog there is no page of the app on top of the nested
    navigator. -/
theorem Under.top {a b : Entry} {below rest : List Entry} (h : Under a below s)
    (ha : a.screen.isBlocking = true) (hnested : s.nested = b :: rest) :
    b.screen.isAppPage = false := by
  rcases h with ⟨above, habove, happ⟩
  rw [habove] at hnested
  cases above with
  | nil =>
      rw [List.nil_append, List.cons.injEq] at hnested
      rw [← hnested.1]
      cases hscreen : a.screen with
      | blocking d => rfl
      | _ =>
          rw [hscreen] at ha
          exact absurd ha Bool.false_ne_true
  | cons c above =>
      rw [List.cons_append, List.cons.injEq] at hnested
      rw [← hnested.1]
      exact happ c List.mem_cons_self

/-- Over the dialog the only page of the app that an event can open is an
    offers page, for a notification. -/
theorem Under.opens {a : Entry} {below : List Entry} (h : Under a below s) (hs : Stacked s)
    (ha : a.screen.isBlocking = true) (hopens : Opens lower s e x) (hx : x.isAppPage = true) :
    x.isOffers = true ∧ e.isNotification = true := by
  have hne : s.top ≠ none := by
    intro htop
    rcases h with ⟨above, habove, -⟩
    rw [(stacks_of_top_none htop).2] at habove
    exact List.append_ne_nil_of_right_ne_nil above (List.cons_ne_nil a below) habove.symm
  -- A login or `Categories` page on top would be above the dialog.
  have hpage : ∀ {b : Entry}, s.top = some b → b.screen.isOffers = false ∧
      b.screen.isBeside = false → b.screen.isAppPage = false := by
    intro b htop hb
    rcases nested_of_top hs htop hb with ⟨-, rest, hnested⟩
    exact h.top ha hnested
  cases hopens with
  | message hm hhandle hcurrent =>
      refine ⟨rfl, ?_⟩
      cases e with
      | initialMessage => rfl
      | foreground m => rfl
      | background m => rfl
      | _ => exact absurd hm (Option.not_mem_none _)
  | categories htop hvalid => exact absurd htop hne
  | login htop hvalid => exact absurd htop hne
  | signIn htop hmatch => exact absurd (hpage htop ⟨rfl, rfl⟩) Bool.true_eq_false_eq_False
  | tile htop hname hto hcurrent =>
      exact absurd (hpage htop ⟨rfl, rfl⟩) Bool.true_eq_false_eq_False
  | popup hsub hmounted => exact absurd hx Bool.false_ne_true
  | notes hwait hmounted => exact absurd hx Bool.false_ne_true
  | config hpending hd => exact absurd hx Bool.false_ne_true
  | version hpending hlt => exact absurd hx Bool.false_ne_true

/-- Within the launch, an event leaves a dialog without a button where it is,
    and pushes no page of the app but an offers page for a notification. -/
theorem under_step {a : Entry} {d : BlockingDialog} {below : List Entry} (hs : Stacked s)
    (hlog : Logged s) (ha : a.screen = .blocking d) (hd : d.btnCancelText = none)
    (he : e.isLaunch = false) (h : Under a below s) :
    Under a below (s.step lower e) ∧ ∃ new, (s.step lower e).log = s.log ++ new ∧
      ∀ x ∈ new, x.isAppPage = true → x.isOffers = true ∧ e.isNotification = true := by
  have hblocking : a.screen.isBlocking = true := by
    rw [ha]
    rfl
  have hs' := stacked_step lower s e hs
  have hpush : ∀ {x : Screen}, Opens lower s e x →
      ∀ y ∈ [x], y.isAppPage = true → y.isOffers = true ∧ e.isNotification = true := by
    intro x hopens y hy happ
    rw [List.mem_singleton] at hy
    exact h.opens hs hblocking (hy ▸ hopens) happ
  cases move_step lower s e with
  | stay root nested log =>
      rw [Under, nested]
      exact ⟨h, [], by rw [log, List.append_nil], fun x hx => absurd hx List.not_mem_nil⟩
  | pushRoot opens onRoot root nested log =>
      rw [Under, nested]
      exact ⟨h, _, log, hpush opens⟩
  | @pushNested x id opens root nested log =>
      refine ⟨?_, _, log, hpush opens⟩
      -- An offers page is never pushed on this navigator.
      have hx : x.isAppPage = false := by
        by_contra happ
        have hoffers := (h.opens hs hblocking opens (Bool.eq_true_of_not_eq_false happ)).1
        have hnot := hs'.nested.not_offers (x := x) (nested ▸ List.mem_cons_self)
        exact absurd (hoffers.symm.trans hnot) Bool.true_eq_false_eq_False
      rcases h with ⟨above, habove, happ⟩
      refine ⟨⟨id, x⟩ :: above, by rw [nested, habove, List.cons_append], fun b hb => ?_⟩
      rcases List.mem_cons.mp hb with rfl | hb
      · exact hx
      · exact happ b hb
  | popRoot root nested log =>
      rw [Under, nested]
      exact ⟨h, [], by rw [log, List.append_nil], fun x hx => absurd hx List.not_mem_nil⟩
  | popNested home root nested log blocking =>
      refine ⟨?_, [], by rw [log, List.append_nil], fun x hx => absurd hx List.not_mem_nil⟩
      rcases h with ⟨above, habove, happ⟩
      rw [habove] at nested
      cases above with
      | nil =>
          -- The dialog is not popped: it has no button.
          rw [List.nil_append, List.cons.injEq] at nested
          have hbutton := (blocking d (nested.1 ▸ ha)).2
          rw [hd] at hbutton
          exact absurd hbutton Bool.false_ne_true
      | cons b above =>
          rw [List.cons_append, List.cons.injEq] at nested
          exact ⟨above, nested.2.symm, fun c hc => happ c (List.mem_cons_of_mem b hc)⟩
  | restart root nested log =>
      -- Only a launch starts over.
      exfalso
      rcases h with ⟨above, habove, -⟩
      have hmem : a.screen ∈ s.log :=
        hlog a (habove ▸ List.mem_append_right above List.mem_cons_self)
      have hlogs : s.log <+: (s.step lower e).log := log_prefix_step he
      rw [log, List.prefix_nil] at hlogs
      rw [hlogs] at hmem
      exact absurd hmem List.not_mem_nil

end

/-- Stacks that have their shape, with everything on them in the log. -/
theorem stacked_run (lower : String → String) (es : List Event) :
    Stacked (Run.run (step lower) start es) ∧ Logged (Run.run (step lower) start es) :=
  Run.run_of_step (step lower) (fun s => Stacked s ∧ Logged s)
    (fun s e h => ⟨stacked_step lower s e h.1, logged_step h.2⟩) es start
    ⟨stacked_launch none _, fun _ ha => absurd ha List.not_mem_nil⟩

/-- In every state that can be reached, once a dialog without a button is on
    the nested navigator, it stays there for the rest of the launch, over the
    same routes. Whatever happens, no login and no `Categories` page is opened
    any more, and offers pages are only if a notification is handled. -/
theorem maintenance_stays (lower : String → String) (es : List Event) (a : Entry)
    (d : BlockingDialog) (below : List Entry)
    (hnested : (Run.run (step lower) start es).nested = a :: below)
    (ha : a.screen = .blocking d) (hd : d.btnCancelText = none) (later : List Event)
    (hlater : ∀ e ∈ later, e.isLaunch = false) :
    ∃ above new,
      (Run.run (step lower) start (es ++ later)).nested = above ++ a :: below ∧
      (Run.run (step lower) start (es ++ later)).log
        = (Run.run (step lower) start es).log ++ new ∧
      ∀ x ∈ new, x.isAppPage = true →
        x.isOffers = true ∧ ∃ e ∈ later, e.isNotification = true := by
  have hstate := stacked_run lower es
  have hunder : Under a below (Run.run (step lower) start es) :=
    ⟨[], hnested, fun b hb => absurd hb List.not_mem_nil⟩
  rw [Run.run_append]
  revert hstate hunder
  generalize Run.run (step lower) start es = s
  intro hstate hunder
  clear hnested
  -- The log of the first event comes before that of the rest.
  -- By induction on the rest of the launch, from any state with the dialog.
  induction later generalizing s with
  | nil =>
      rcases hunder with ⟨above, habove, -⟩
      exact ⟨above, [], habove, (List.append_nil _).symm, fun x hx => absurd hx List.not_mem_nil⟩
  | cons e later ih =>
      rcases @under_step lower s e a d below hstate.1 hstate.2 ha hd (hlater e List.mem_cons_self)
        hunder with ⟨hunder', new, hnew, happ⟩
      rcases ih (fun f hf => hlater f (List.mem_cons_of_mem e hf)) _
        ⟨stacked_step lower s e hstate.1, logged_step hstate.2⟩ hunder' with
        ⟨above, new', hnested, hlog, happ'⟩
      refine ⟨above, new ++ new', hnested, ?_, fun x hx hxapp => ?_⟩
      · rw [Run.run_cons, hlog, hnew, List.append_assoc]
      · rcases List.mem_append.mp hx with hx | hx
        · rcases happ x hx hxapp with ⟨hoffers, hnotification⟩
          exact ⟨hoffers, e, List.mem_cons_self, hnotification⟩
        · rcases happ' x hx hxapp with ⟨hoffers, f, hf, hnotification⟩
          exact ⟨hoffers, f, List.mem_cons_of_mem e hf, hnotification⟩

/-- The `Config` document while the app is down. -/
def downOn : DartMap :=
  ⟨[("Down", .str "on"), ("Update", .str "off"), ("DownText", .str "Back soon")], by decide⟩

/-- The user tries the back button, the button of the dialog and a language,
    and then taps a notification. -/
theorem maintenance_stays_down :
    ∃ above new,
      (Run.run (step String.toLower) start ([.configRead downOn] ++ [.back, .update,
        .language .enUS, .foreground ⟨"Hotels", "New offers", some "Hotels"⟩])).nested
        = above ++ [⟨0, .blocking ⟨none, "Back soon", none⟩⟩] ∧
      (Run.run (step String.toLower) start ([.configRead downOn] ++ [.back, .update,
        .language .enUS, .foreground ⟨"Hotels", "New offers", some "Hotels"⟩])).log
        = (Run.run (step String.toLower) start [.configRead downOn]).log ++ new ∧
      ∀ x ∈ new, x.isAppPage = true → x.isOffers = true ∧ ∃ e ∈ ([.back, .update,
        .language .enUS, .foreground ⟨"Hotels", "New offers", some "Hotels"⟩] : List Event),
        e.isNotification = true :=
  maintenance_stays String.toLower [.configRead downOn] _ _ [] (by decide) rfl rfl _ (by decide)

end App

end JkbEmpOffers
