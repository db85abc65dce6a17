import JkbEmpOffers.Moves
import JkbEmpOffers.Library.Log
import JkbEmpOffers.Library.Run

/-!
# The Dialogs of Start-Up

Two checks run at start-up, the `Config` document and the remote config, and
either can show a dialog that is meant to keep the user out: one for
maintenance, or one that asks for an update. Neither the back button nor a
tap outside closes it. But the button of the update dialog does, after it has
opened the store, and nothing shows the dialog again. And a notification
opens its page over the dialog.

`Blocks` is the property of the log of a launch: no page of the app is
pushed after such a dialog. `Held` is the condition on a step under which it
is kept. The invariant (`Inv`) is about the nested navigator: once a dialog
has been shown, the topmost screen there that is a dialog or a page of the
app is a dialog.

## Main definitions

* `Screen.isAppPage`: A login, category or offers page.
* `Blocks`: None is pushed after a dialog of start-up.
* `barred`: A dialog is above the pages of the app.
* `Held`: The condition on a step.

## Theorems

* `not_appPage_of_opens`: Under the condition no step opens such a page.
* `inv_step`, `blocks_step`: The step keeps the invariant and the property.
* `blocks_of_held`: A run of such steps keeps the property.
* `update_then_language`: A run that does not.
-/

namespace JkbEmpOffers

/-- A login, category or offers page. -/
def Screen.isAppPage : Screen → Bool
  | .login | .categories | .offers _ => true
  | _ => false

namespace App

/-- After a dialog of start-up, the launch pushes no page of the app. -/
def Blocks (s : App) : Prop :=
  Log.NeverAfter (fun x => x.isBlocking = true) (fun x => x.isAppPage = true) s.log

instance : DecidablePred Blocks := fun s =>
  inferInstanceAs (Decidable (Log.NeverAfter _ _ s.log))

/-- The launch has shown a dialog of start-up. -/
def shown (s : App) : Prop :=
  ∃ x ∈ s.log, x.isBlocking = true

instance : DecidablePred shown := fun s =>
  inferInstanceAs (Decidable (∃ x ∈ s.log, x.isBlocking = true))

/-- A dialog of start-up is on the stack, above the pages of the app. -/
def barred : List Entry → Bool
  | [] => false
  | a :: rest => a.screen.isBlocking || (!a.screen.isAppPage && barred rest)

/-- If the button of a dialog can be pressed, there is another dialog behind
    it. -/
def leavesBarrier (s : App) : Bool :=
  match s.root, s.nested with
  | [], ⟨_, .blocking d⟩ :: rest => !d.btnCancelText.isSome || barred rest
  | _, _ => true

/-- Once a dialog has been shown, no notification is opened that pushes its
    page, and no button closes the last dialog. -/
def Held (s : App) (e : Event) : Prop :=
  s.shown →
    (∀ m ∈ s.message e, ∀ page ∈ NotificationServices.handleMessage m, s.isCurrent page = true) ∧
      (e = .update → s.leavesBarrier = true)

instance (s : App) (e : Event) : Decidable (s.Held e) :=
  inferInstanceAs (Decidable (s.shown →
    (∀ m ∈ s.message e, ∀ page ∈ NotificationServices.handleMessage m, s.isCurrent page = true) ∧
      (e = .update → s.leavesBarrier = true)))

/-- Once a dialog has been shown there is one above the pages of the app, and
    those are never on the root navigator. -/
structure Inv (s : App) : Prop where
  barred : s.shown → barred s.nested = true
  root : ∀ a ∈ s.root, a.screen.onRoot = true

theorem barred_of_blocking {a : Entry} (rest : List Entry) (h : a.screen.isBlocking = true) :
    barred (a :: rest) = true := by
  rw [barred, h, Bool.true_or]

theorem barred_of_rest {a : Entry} {rest : List Entry} (ha : a.screen.isAppPage = false)
    (hrest : barred rest = true) : barred (a :: rest) = true := by
  rw [barred, ha, hrest, Bool.not_false, Bool.true_and, Bool.or_true]

/-- What is left when something other than a dialog goes. -/
theorem barred_tail {a : Entry} {rest : List Entry} (h : barred (a :: rest) = true)
    (ha : a.screen.isBlocking = false) : barred rest = true := by
  rw [barred, ha, Bool.false_or, Bool.and_eq_true] at h
  exact h.2

section

variable {lower : String → String} {s : App} {e : Event} {x : Screen}

/-- Behind a dialog no page of the app is on top, unless it is an offers page
    on the root navigator. -/
theorem top_of_barred {a : Entry} (hroot : ∀ a ∈ s.root, a.screen.onRoot = true)
    (hbar : barred s.nested = true) (htop : s.top = some a) :
    a.screen ≠ .login ∧ a.screen ≠ .categories := by
  rw [top] at htop
  rcases hr : s.root with _ | ⟨b, rest⟩
  · -- The top is that of the nested navigator, which is barred.
    rcases hn : s.nested with _ | ⟨b, rest⟩
    · rw [hr, hn] at htop
      exact absurd htop (by simp only [List.append_nil, List.head?_nil, reduceCtorEq,
        not_false_eq_true])
    · rw [hr, hn, List.nil_append, List.head?_cons, Option.some.injEq] at htop
      rw [hn, barred, htop] at hbar
      constructor
      · intro h
        rw [h] at hbar
        exact Bool.false_ne_true hbar
      · intro h
        rw [h] at hbar
        exact Bool.false_ne_true hbar
  · -- The top is on the root navigator, where neither is ever pushed.
    rw [hr, List.cons_append, List.head?_cons, Option.some.injEq] at htop
    have hon := hroot b (hr ▸ List.mem_cons_self)
    rw [htop] at hon
    constructor
    · intro h
      rw [h] at hon
      exact Bool.false_ne_true hon
    · intro h
      rw [h] at hon
      exact Bool.false_ne_true hon

/-- Under the condition, once a dialog has been shown no step opens a page of
    the app. -/
theorem not_appPage_of_opens (h : s.Inv) (hheld : s.Held e) (hshown : s.shown)
    (hopens : Opens lower s e x) : x.isAppPage = false := by
  have hbar := h.barred hshown
  -- The language buttons are on the home, which the dialog covers.
  have htopne : s.top ≠ none := by
    intro htop
    have hnil := List.append_eq_nil_iff.mp (List.head?_eq_none_iff.mp htop)
    rw [hnil.2] at hbar
    exact Bool.false_ne_true hbar
  cases hopens with
  | message hm hpage hcurrent =>
      have htrue := (hheld hshown).1 _ hm _ hpage
      exact absurd (hcurrent.symm.trans htrue) Bool.false_ne_true
  | categories htop hvalid => exact absurd htop htopne
  | login htop hvalid => exact absurd htop htopne
  | signIn htop hmatch => exact absurd rfl (top_of_barred h.root hbar htop).1
  | tile htop hname hpage hcurrent => exact absurd rfl (top_of_barred h.root hbar htop).2
  | popup hsub hmounted => rfl
  | notes hwait hmounted => rfl
  | config hpending hd => rfl
  | version hpending hlt => rfl

theorem blocks_step (h : s.Inv) (hp : s.Blocks) (hheld : s.Held e) :
    (s.step lower e).Blocks := by
  have happ : ∀ y, Opens lower s e y → s.shown → ¬ y.isAppPage = true := by
    intro y hy hshown
    exact ne_true_of_eq_false (not_appPage_of_opens h hheld hshown hy)
  rw [Blocks] at hp ⊢
  cases move_step lower s e with
  | stay root nested log => rwa [log]
  | pushRoot opens onRoot root nested log =>
      rw [log, Log.neverAfter_append_singleton]
      exact ⟨hp, happ _ opens⟩
  | pushNested opens root nested log =>
      rw [log, Log.neverAfter_append_singleton]
      exact ⟨hp, happ _ opens⟩
  | popRoot root nested log => rwa [log]
  | popNested home root nested log => rwa [log]
  | restart root nested log =>
      rw [log]
      trivial

/-- The log of a push has a dialog if it had one, or if one was pushed. -/
theorem shown_push {s' : App} (hlog : s'.log = s.log ++ [x]) (h : s'.shown) :
    s.shown ∨ x.isBlocking = true := by
  rcases h with ⟨y, hy, hblock⟩
  rw [hlog] at hy
  rcases List.mem_append.mp hy with hy | hy
  · exact Or.inl ⟨y, hy, hblock⟩
  · rw [List.mem_singleton] at hy
    exact Or.inr (hy ▸ hblock)

/-- Popping a route of the nested navigator leaves it barred. -/
theorem barred_pop {a : Entry} {rest : List Entry} (hheld : s.Held e) (hshown : s.shown)
    (hbar : barred s.nested = true) (home : s.root = []) (hnested : s.nested = a :: rest)
    (hblocking : ∀ d, a.screen = .blocking d → e = .update ∧ d.btnCancelText.isSome = true) :
    barred rest = true := by
  cases hx : a.screen with
  | blocking d =>
      -- Only the button closes a dialog, and there is another one behind it.
      rcases hblocking d hx with ⟨rfl, hbutton⟩
      have hleaves := (hheld hshown).2 rfl
      rcases a with ⟨id, _⟩
      obtain rfl : _ = Screen.blocking d := hx
      rw [leavesBarrier, home, hnested] at hleaves
      simpa only [hbutton, Bool.not_true, Bool.false_or] using hleaves
  | _ =>
      rw [hnested] at hbar
      exact barred_tail hbar (by rw [hx]; rfl)

theorem inv_step (h : s.Inv) (hheld : s.Held e) : (s.step lower e).Inv := by
  cases move_step lower s e with
  | stay root nested log =>
      refine ⟨fun hshown => ?_, fun a ha => h.root a (root ▸ ha)⟩
      rw [shown, log] at hshown
      rw [nested]
      exact h.barred hshown
  | pushRoot opens onRoot root nested log =>
      refine ⟨fun hshown => ?_, fun a ha => ?_⟩
      · rw [nested]
        rcases shown_push log hshown with hshown | hblock
        · exact h.barred hshown
        · -- A dialog of start-up is not pushed on this navigator.
          cases opens with
          | config => exact absurd onRoot Bool.false_ne_true
          | version => exact absurd onRoot Bool.false_ne_true
          | _ => exact absurd hblock Bool.false_ne_true
      · rw [root] at ha
        rcases List.mem_cons.mp ha with rfl | ha
        · exact onRoot
        · exact h.root a ha
  | pushNested opens root nested log =>
      refine ⟨fun hshown => ?_, fun a ha => h.root a (root ▸ ha)⟩
      rw [nested]
      -- What is pushed is no page of the app, or it is the first dialog.
      rcases shown_push log hshown with hshown | hblock
      · exact barred_of_rest (not_appPage_of_opens h hheld hshown opens) (h.barred hshown)
      · exact barred_of_blocking _ hblock
  | popRoot root nested log =>
      refine ⟨fun hshown => ?_, fun a ha => h.root a (root ▸ List.mem_cons_of_mem _ ha)⟩
      rw [shown, log] at hshown
      rw [nested]
      exact h.barred hshown
  | popNested home root nested log blocking =>
      refine ⟨fun hshown => ?_, fun a ha => h.root a (root ▸ ha)⟩
      rw [shown, log] at hshown
      exact barred_pop hheld hshown (h.barred hshown) home nested blocking
  | restart root nested log =>
      refine ⟨fun hshown => ?_, fun a ha => ?_⟩
      · -- A new launch has shown nothing yet.
        rw [shown, log] at hshown
        rcases hshown with ⟨x, hx, -⟩
        exact absurd hx List.not_mem_nil
      · rw [root] at ha
        exact absurd ha List.not_mem_nil

end

/-- In every run, over any number of launches, whose steps all meet the
    condition, no launch pushes a page of the app after a dialog of
    start-up. -/
theorem blocks_of_held (lower : String → String) (es : List Event)
    (h : Run.Along (step lower) Held start es) : Run.Always (step lower) Blocks start es := by
  refine Run.always_of_along (step lower) Inv Blocks Held (fun s e hinv _ hheld => ?_)
    (fun s e hinv hp hheld => blocks_step hinv hp hheld) es start ?_ trivial h
  · exact inv_step hinv hheld
  · refine ⟨fun hshown => ?_, fun a ha => absurd ha List.not_mem_nil⟩
    rcases hshown with ⟨x, hx, -⟩
    exact absurd hx List.not_mem_nil

/-- The `Config` document that asks for an update. -/
def updateOn : DartMap :=
  ⟨[("Down", .str "off"), ("Update", .str "on"), ("DownText", .str "")], by decide⟩

/-- Both checks ask for an update, the button closes one of the two dialogs,
    and neither the language button nor the back button gets past the
    other. -/
theorem blocks_two_dialogs :
    Run.Always (step String.toLower) Blocks start
      [.configRead updateOn, .remoteChecked 26 (some 27), .update, .language .enUS, .back] :=
  blocks_of_held String.toLower _ (by decide)

/-- The button of the update dialog closes it, and the language buttons are
    free again. -/
theorem update_then_language :
    ¬ Run.Always (step String.toLower) Blocks start
      [.configRead updateOn, .update, .language .enUS] := by
  decide

end App

end JkbEmpOffers
