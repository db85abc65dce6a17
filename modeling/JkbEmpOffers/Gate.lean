import JkbEmpOffers.Moves
import JkbEmpOffers.Library.Run

/-!
# The Login Gate

`getvalidation` shows `Categories` to a user whose password is stored and
`LoginScreen` to any other, and the sign-in button stores the password. From
there on the pages are reached only from each other. But a notification is
opened by `handleMessage`, which asks nothing: it opens its page over
whatever is there, `LoginScreen` included.

`Gate` is the property, and `Admitted` the condition on a step: a
notification that has a page is opened only once the password is stored. No
other step needs a condition, because a page that waits for a sign-in before
it pushes `Notes` was itself behind the gate (`WaitsInside`).

## Main definitions

* `Gate`: The gated screens are shown only with the password stored, and it
  was stored by a matching login.
* `Admitted`: The condition on a step.
* `WaitsInside`: The pages that wait for a sign-in.

## Theorems

* `validated_step`: The password stays stored.
* `gate_step`: The steps that keep the gate.
* `gate_iff`: The runs that do.
* `notification_before_login`: A run that does not.
-/

namespace JkbEmpOffers

namespace App

/-- A gated screen is on a stack only if the stored password is the one that
    is checked, and a stored password is that one and comes from a matching
    login attempt. -/
structure Gate (lower : String → String) (s : App) : Prop where
  shows : ∀ x, s.Shows x → x.isGated = true → s.validated
  stored : ∀ v ∈ s.storage.password, v = "jkb1976" ∧ ∃ a ∈ s.attempts, matchesLogin lower a

instance (lower : String → String) (s : App) : Decidable (s.Gate lower) :=
  decidable_of_iff
    ((∀ x ∈ (s.root ++ s.nested).map Entry.screen, x.isGated = true → s.validated) ∧
      ∀ v ∈ s.storage.password, v = "jkb1976" ∧ ∃ a ∈ s.attempts, matchesLogin lower a)
    ⟨fun h => ⟨h.1, h.2⟩, fun h => ⟨h.shows, h.stored⟩⟩

/-- A notification that has a page is opened only with the password
    stored. -/
def Admitted (s : App) (e : Event) : Prop :=
  ∀ m ∈ s.message e, (NotificationServices.handleMessage m).isSome = true → s.validated

/-- A page that waits for a sign-in is behind the gate. -/
def WaitsInside (s : App) : Prop :=
  s.signIns ≠ [] → s.validated

section

variable {lower : String → String} {s : App} {e : Event}

theorem validated_step (lower : String → String) (e : Event) (h : s.validated) :
    (s.step lower e).validated := by
  rcases (keeps_step lower s e).password with heq | ⟨hvalid, -⟩
  · exact heq.trans h
  · exact hvalid

/-- A matching login stores the password. -/
theorem validated_login {username pass : String} {id : Nat} (htop : s.top = some ⟨id, .login⟩)
    (hmatch : matchesLogin lower (username, pass)) :
    (s.step lower (.login username pass)).validated := by
  rw [step, login, htop]
  simp only [if_pos hmatch]
  rfl

/-- Where `Get.to` does nothing, a page of the same class is on the stack
    already. -/
theorem shows_of_isCurrent {page : OffersPage} (h : s.isCurrent page = true) :
    ∃ current, s.Shows (.offers current) := by
  rw [isCurrent] at h
  split at h
  · rename_i current hfind
    refine ⟨current, ?_⟩
    rw [Shows, List.map_append]
    exact List.mem_append_left _ (List.mem_of_find?_eq_some hfind)
  · exact absurd h Bool.false_ne_true

/-- What a step opens is behind the gate as well. -/
theorem validated_of_opens {x : Screen} (h : s.Gate lower) (hwait : s.WaitsInside)
    (hopened : s.Admitted e) (hopens : Opens lower s e x) (hgated : x.isGated = true) :
    (s.step lower e).validated := by
  cases hopens with
  | message hm hpage hcurrent =>
      refine validated_step lower e (hopened _ hm ?_)
      rw [hpage, Option.isSome_some]
  | categories htop hvalid => exact validated_step lower _ hvalid
  | login htop hvalid => exact absurd hgated Bool.false_ne_true
  | signIn htop hmatch => exact validated_login htop hmatch
  | tile htop hname hpage hcurrent =>
      exact validated_step lower _ (h.shows _ (shows_top htop) rfl)
  | popup hsub hmounted => exact absurd hgated Bool.false_ne_true
  | notes hin hmounted =>
      exact validated_step lower _ (hwait (List.ne_nil_of_mem (List.mem_of_getElem? hin)))
  | config hpending hd => exact absurd hgated Bool.false_ne_true
  | version hpending hlt => exact absurd hgated Bool.false_ne_true

/-- A step that is admitted keeps the gate. -/
theorem gate_of_admitted (h : s.Gate lower) (hwait : s.WaitsInside) (hopened : s.Admitted e) :
    (s.step lower e).Gate lower := by
  have hkeeps := keeps_step lower s e
  refine ⟨fun x hx hgated => ?_, fun v hv => ?_⟩
  · -- A screen was there before the step, or the step opened it.
    rcases shows_step hx with hx | hopens
    · exact validated_step lower e (h.shows x hx hgated)
    · exact validated_of_opens h hwait hopened hopens hgated
  · -- A password was stored before the step, or by a login that matched.
    rcases hkeeps.password with heq | ⟨hvalid, a, ha, -, hmatch⟩
    · rw [heq] at hv
      rcases h.stored v hv with ⟨hv', a, ha, hmatch⟩
      exact ⟨hv', a, hkeeps.attempts a ha, hmatch⟩
    · exact ⟨Option.some.inj (hv.symm.trans hvalid), a, ha, hmatch⟩

/-- A step that keeps the gate is admitted. -/
theorem admitted_of_gate (h : s.Gate lower) (h' : (s.step lower e).Gate lower) :
    s.Admitted e := by
  intro m hm hsome
  rcases Option.isSome_iff_exists.mp hsome with ⟨page, hpage⟩
  -- Where `Get.to` does nothing, an offers page was behind the gate already;
  -- where it pushes, the page it pushes is.
  cases hcurrent : s.isCurrent page with
  | true =>
      rcases shows_of_isCurrent hcurrent with ⟨current, hshows⟩
      exact h.shows _ hshows rfl
  | false =>
      have hopens : Opens lower s e (.offers page) := .message hm hpage hcurrent
      have hvalid := h'.shows _ (shows_of_opens hopens) rfl
      rcases (keeps_step lower s e).password with heq | ⟨-, a, -, rfl, -⟩
      · exact heq.symm.trans hvalid
      · -- A login attempt runs no `handleMessage`.
        exact absurd hm (Option.not_mem_none m)

end

/-- A step keeps the gate exactly when it opens no notification that has a
    page without the password. -/
theorem gate_step (lower : String → String) (s : App) (e : Event) (hwait : s.WaitsInside)
    (h : s.Gate lower) : (s.step lower e).Gate lower ↔ s.Admitted e :=
  ⟨admitted_of_gate h, gate_of_admitted h hwait⟩

/-- As long as the gate holds, a page that waits for a sign-in is behind
    it. -/
theorem waitsInside_step (lower : String → String) (s : App) (e : Event) (hwait : s.WaitsInside)
    (h : s.Gate lower) : (s.step lower e).WaitsInside := by
  intro hne
  rcases List.exists_mem_of_ne_nil _ hne with ⟨id, hid⟩
  refine validated_step lower e ?_
  -- A page that starts to wait is on top, and only gated pages do.
  rcases (keeps_step lower s e).signIns id hid with hid | ⟨a, htop, hgated⟩
  · exact hwait (List.ne_nil_of_mem hid)
  · exact h.shows _ (shows_top htop) hgated

/-- In every run from the first launch on, over any number of launches, the
    gate holds in every state exactly when no notification that has a page is
    opened without the password stored. -/
theorem gate_iff (lower : String → String) (es : List Event) :
    Run.Always (step lower) (Gate lower) start es ↔ Run.Along (step lower) Admitted start es := by
  refine Run.always_iff_along (step lower) WaitsInside (Gate lower) Admitted
    (fun s e hwait h _ => waitsInside_step lower s e hwait h) (gate_step lower) es start ?_ ?_
  · exact fun hne => absurd rfl hne
  · exact ⟨fun x hx => absurd hx List.not_mem_nil, fun v hv => absurd hv (Option.not_mem_none v)⟩

/-- The first launch of the app is made from a notification. -/
theorem notification_before_login :
    ¬ Run.Always (step String.toLower) (Gate String.toLower) start
      [.launch (some ⟨"Hotels", "New offers", some "Hotels"⟩), .initialMessage] := by
  decide

end App

end JkbEmpOffers
