import JkbEmpOffers.App

/-!
# What a Step Can Do

Whatever the event, a step does one of a few things to the two stacks: it
leaves them alone, pushes one screen, pops one, or starts over. `Opens` says
which events push which screen and under which conditions, and `Move` that
nothing else is ever pushed. `Keeps` does the same for what is stored and
for the pages that wait for a sign-in.

Every property of runs of the app is derived from these two, so the events
are gone through once, here.

A handler of the source first changes what is stored, such as the locale or a
`gridname`, and then pushes. The lemmas on the pushes therefore speak of two
states: `s`, before the event, whose conditions `Opens` is about, and `s'`,
which the push starts from. `SameStacks` is all that they need to share. The
lemma of a handler then has one case for each branch of the handler, and the
branches that push nothing are all closed by `move_stay`.

`Opens` has a converse in `shows_of_opens`: a screen whose condition holds is
on a stack after the step. So a theorem about what is opened may be read in
both directions, which the exact conditions on runs need.

## Main definitions

* `Mounted`: A page is on one of the stacks.
* `Opens`: An event pushes a screen.
* `Move`: What a step does to the stacks and to the log.
* `SameStacks`: Nothing has been pushed or popped yet.
* `Keeps`: What it does to what is stored, tried and waiting.

## Theorems

* `move_step`: Every step is a `Move`.
* `shows_of_opens`: What an event opens is on a stack afterwards.
* `shows_step`: And nothing else is new on one.
* `keeps_step`: Every step `Keeps`.
-/

namespace JkbEmpOffers

/-- `Categories`, the offers pages and `Notes`. -/
def Screen.isGated : Screen → Bool
  | .categories | .offers _ | .notes => true
  | _ => false

/-- What can be pushed on the root navigator. -/
def Screen.onRoot : Screen → Bool
  | .offers _ | .notes | .popup _ => true
  | _ => false

namespace App

/-- A page is on one of the stacks. -/
def Mounted (s : App) (id : Nat) : Prop :=
  id ∈ s.root.map Entry.id ∨ id ∈ s.nested.map Entry.id

/-- An event pushes a screen. -/
inductive Opens (lower : String → String) (s : App) : Event → Screen → Prop where
  /-- `handleMessage`, unless `Get.to` finds the page on top already. -/
  | message {e : Event} {m : RemoteMessage} {page : OffersPage} (hm : m ∈ s.message e)
      (hpage : NotificationServices.handleMessage m = some page)
      (hcurrent : s.isCurrent page = false) : Opens lower s e (.offers page)
  /-- `getvalidation` finds the password. -/
  | categories {l : Locale} (htop : s.top = none) (hvalid : s.validated) :
      Opens lower s (.language l) .categories
  /-- `getvalidation` does not. -/
  | login {l : Locale} (htop : s.top = none) (hvalid : ¬ s.validated) :
      Opens lower s (.language l) .login
  /-- The login page lets the user in. -/
  | signIn {username pass : String} {id : Nat} (htop : s.top = some ⟨id, .login⟩)
      (hmatch : matchesLogin lower (username, pass)) :
      Opens lower s (.login username pass) .categories
  /-- `onTap` of a tile on either of its hit areas. -/
  | tile {area : Categories.Area} {i id : Nat} {gridname : String} {page : OffersPage}
      (htop : s.top = some ⟨id, .categories⟩) (hname : (s.tiles id)[i]? = some gridname)
      (hpage : (Categories.myGrid area gridname).2 = .to page)
      (hcurrent : s.isCurrent page = false) : Opens lower s (.tile area i) (.offers page)
  /-- A snapshot of a page that is still there brings a viewer or a dialog. -/
  | popup {i id : Nat} {popup : Popup} (hsub : s.subscriptions[i]? = some (id, popup))
      (hmounted : s.Mounted id) : Opens lower s (.listener i) (.popup popup)
  /-- A sign-in answers a page that is still there. -/
  | notes {i id : Nat} (hwait : s.signIns[i]? = some id) (hmounted : s.Mounted id) :
      Opens lower s (.signedIn i) .notes
  /-- A switch of the `Config` document is on. -/
  | config {value : DartMap} {d : BlockingDialog} (hpending : s.configPending = true)
      (hd : configDialog s.locale value = .ok (some d)) :
      Opens lower s (.configRead value) (.blocking d)
  /-- The app is older than the config asks for. -/
  | version {currentVersion n : Int} (hpending : s.remotePending = true)
      (hlt : currentVersion < n) :
      Opens lower s (.remoteChecked currentVersion (some n))
        (.blocking (showVersionDialog s.locale))

/-- What a step does to the stacks and to the log. The log grows with every
    push and with nothing else, and only a launch clears it. -/
inductive Move (lower : String → String) (s : App) (e : Event) (t : App) : Prop where
  | stay (root : t.root = s.root) (nested : t.nested = s.nested) (log : t.log = s.log)
  | pushRoot {x : Screen} {id : Nat} (opens : Opens lower s e x) (onRoot : x.onRoot = true)
      (root : t.root = ⟨id, x⟩ :: s.root) (nested : t.nested = s.nested)
      (log : t.log = s.log ++ [x])
  | pushNested {x : Screen} {id : Nat} (opens : Opens lower s e x) (root : t.root = s.root)
      (nested : t.nested = ⟨id, x⟩ :: s.nested) (log : t.log = s.log ++ [x])
  | popRoot {a : Entry} (root : s.root = a :: t.root) (nested : t.nested = s.nested)
      (log : t.log = s.log)
  -- The nested navigator is reached only while the root one shows the home,
  -- and a dialog of start-up is popped only by its own button.
  | popNested {a : Entry} (home : s.root = []) (root : t.root = s.root)
      (nested : s.nested = a :: t.nested) (log : t.log = s.log)
      (blocking : ∀ d, a.screen = .blocking d → e = .update ∧ d.btnCancelText.isSome = true)
  | restart (root : t.root = []) (nested : t.nested = []) (log : t.log = [])

/-- Two states with the same stacks and the same log. -/
structure SameStacks (s s' : App) : Prop where
  root : s'.root = s.root
  nested : s'.nested = s.nested
  log : s'.log = s.log

section

variable {lower : String → String} {s s' : App} {e : Event} {x : Screen}

/-- Nothing is pushed. -/
theorem move_stay (hs : SameStacks s s') : Move lower s e s' :=
  .stay hs.root hs.nested hs.log

/-- `Navigator.push` or a dialog from the home, on the nested navigator. -/
theorem move_pushNested (hs : SameStacks s s') (hopens : Opens lower s e x) :
    Move lower s e (s'.pushNested x) := by
  have hnested : (s'.pushNested x).nested = ⟨s'.nextId, x⟩ :: s.nested := by
    rw [pushNested, hs.nested]
  have hlog : (s'.pushNested x).log = s.log ++ [x] := by
    rw [pushNested, hs.log]
  exact .pushNested hopens hs.root hnested hlog

/-- A push on the root navigator, which is for some screens only. -/
theorem move_pushRoot (hs : SameStacks s s') (hx : x.onRoot = true)
    (hopens : Opens lower s e x) : Move lower s e (s'.pushRoot x) := by
  have hroot : (s'.pushRoot x).root = ⟨s'.nextId, x⟩ :: s.root := by
    rw [pushRoot, hs.root]
  have hlog : (s'.pushRoot x).log = s.log ++ [x] := by
    rw [pushRoot, hs.log]
  exact .pushRoot hopens hx hroot hs.nested hlog

/-- A push with the context of a page goes to the navigator that the page is
    on. -/
theorem move_pushBeside {id : Nat} (hs : SameStacks s s') (hx : x.onRoot = true)
    (hopens : s.Mounted id → Opens lower s e x) : Move lower s e (s'.pushBeside id x) := by
  rw [pushBeside, hs.root, hs.nested]
  split_ifs with hroot hnested
  · exact move_pushRoot hs hx (hopens (Or.inl hroot))
  · exact move_pushNested hs (hopens (Or.inr hnested))
  · -- The page is gone, so the push throws.
    exact move_stay hs

/-- What `Get.to` compares with is on the root navigator. -/
theorem isCurrent_congr {page : OffersPage} (hs : SameStacks s s') :
    s'.isCurrent page = s.isCurrent page := by
  rw [isCurrent, isCurrent, hs.root]

/-- On `Categories` no offers page is current. -/
theorem isCurrent_of_categories {id : Nat} (htop : s.top = some ⟨id, .categories⟩)
    (page : OffersPage) : s.isCurrent page = false := by
  rw [top] at htop
  rw [isCurrent]
  rcases hroot : s.root with _ | ⟨a, rest⟩
  · rfl
  · rw [hroot, List.cons_append, List.head?_cons, Option.some.injEq] at htop
    rw [htop]
    rfl

/-- `Get.to` pushes the page unless it is on top already. -/
theorem move_getTo {page : OffersPage} (hs : SameStacks s s')
    (hopens : s.isCurrent page = false → Opens lower s e (.offers page)) :
    Move lower s e (s'.getTo page) := by
  rw [getTo, isCurrent_congr hs]
  split_ifs with hcurrent
  · exact move_stay hs
  · exact move_pushRoot hs rfl (hopens (Bool.eq_false_of_not_eq_true hcurrent))

/-- A message that is handled, if there is one. -/
theorem move_interact (hs : SameStacks s s') : Move lower s e (interact (s.message e) s') := by
  rcases hm : s.message e with _ | m
  · exact move_stay hs
  · simp only [interact, handleMessage]
    rcases hpage : NotificationServices.handleMessage m with _ | page
    · exact move_stay hs
    · exact move_getTo ⟨hs.root, hs.nested, hs.log⟩ (.message hm hpage)

end

section

variable (lower : String → String) (s : App)

/-- A language button is on the home, so it is pressed only there. -/
theorem move_language (l : Locale) : Move lower s (.language l) (s.language l) := by
  rw [language]
  rcases htop : s.top with _ | a
  · simp only [getvalidation]
    split_ifs with hvalid
    · exact move_pushNested ⟨rfl, rfl, rfl⟩ (.categories htop hvalid)
    · exact move_pushNested ⟨rfl, rfl, rfl⟩ (.login htop hvalid)
  · exact move_stay ⟨rfl, rfl, rfl⟩

/-- A sign-in that does not match opens nothing. -/
theorem move_login (username pass : String) :
    Move lower s (.login username pass) (s.login lower username pass) := by
  rw [login]
  split
  · rename_i htop
    split_ifs with hmatch
    · exact move_pushNested ⟨rfl, rfl, rfl⟩ (.signIn htop hmatch)
    · exact move_stay ⟨rfl, rfl, rfl⟩
  · exact move_stay ⟨rfl, rfl, rfl⟩

/-- A tap finds a tile only on `Categories`, and only one that is there. -/
theorem move_tile (area : Categories.Area) (i : Nat) :
    Move lower s (.tile area i) (s.tile area i) := by
  rw [tile]
  split
  · rename_i id htop
    rcases hname : (s.tiles id)[i]? with _ | gridname
    · exact move_stay ⟨rfl, rfl, rfl⟩
    · simp only [tapTile]
      rcases haction : (Categories.myGrid area gridname).2 with page | _ | _
      · exact move_getTo ⟨rfl, rfl, rfl⟩ (.tile htop hname haction)
      · -- Baraka Mall only subscribes.
        exact move_stay ⟨rfl, rfl, rfl⟩
      · exact move_stay ⟨rfl, rfl, rfl⟩
  · exact move_stay ⟨rfl, rfl, rfl⟩

/-- The `Config` document is read once in a launch. -/
theorem move_configRead (value : DartMap) :
    Move lower s (.configRead value) (s.configRead value) := by
  rw [configRead]
  split_ifs with hpending
  · split
    · rename_i d hd
      exact move_pushNested ⟨rfl, rfl, rfl⟩ (.config hpending hd)
    · -- Neither switch is on, or reading them throws.
      exact move_stay ⟨rfl, rfl, rfl⟩
  · exact move_stay ⟨rfl, rfl, rfl⟩

/-- And so is the remote config. -/
theorem move_remoteChecked (currentVersion : Int) (configupdate : Option Int) :
    Move lower s (.remoteChecked currentVersion configupdate)
      (s.remoteChecked currentVersion configupdate) := by
  unfold remoteChecked
  split_ifs with hpending
  · rcases configupdate with _ | n
    · -- The check threw before its comparison.
      exact move_stay ⟨rfl, rfl, rfl⟩
    · simp only
      split_ifs with hlt
      · exact move_pushNested ⟨rfl, rfl, rfl⟩ (.version hpending hlt)
      · exact move_stay ⟨rfl, rfl, rfl⟩
  · exact move_stay ⟨rfl, rfl, rfl⟩

/-- The back button pops the topmost route of one navigator, but no dialog of
    start-up. -/
theorem move_back : Move lower s .back s.back := by
  unfold back
  rcases hroot : s.root with _ | ⟨a, rest⟩
  · -- Only the home is on the root navigator, so the nested one pops.
    rcases hnested : s.nested with _ | ⟨a, rest⟩
    · exact move_stay ⟨rfl, rfl, rfl⟩
    · simp only
      split_ifs with hblock
      · exact move_stay ⟨rfl, rfl, rfl⟩
      · refine .popNested hroot hroot.symm hnested rfl fun d hd => absurd ?_ hblock
        rw [hd]
        rfl
  · exact .popRoot hroot rfl rfl

/-- The button of a dialog pops that dialog. -/
theorem move_update : Move lower s .update s.update := by
  unfold update
  split
  · rename_i hroot hnested
    split_ifs with hbutton
    · refine .popNested hroot rfl hnested rfl fun d hd => ⟨rfl, ?_⟩
      rwa [← Screen.blocking.inj hd]
    · exact move_stay ⟨rfl, rfl, rfl⟩
  · exact move_stay ⟨rfl, rfl, rfl⟩

/-- Every step is a move. The cases are the events, each closed by the lemma
    of its handler. -/
theorem move_step (e : Event) : Move lower s e (s.step lower e) := by
  have hself : SameStacks s s := ⟨rfl, rfl, rfl⟩
  cases e with
  -- A launch starts over with empty stacks and an empty log.
  | launch m => exact .restart rfl rfl rfl
  | initialMessage => exact move_interact ⟨rfl, rfl, rfl⟩
  | foreground m => exact move_interact hself
  | background m => exact move_interact hself
  | configRead value => exact move_configRead lower s value
  | remoteChecked currentVersion configupdate =>
      exact move_remoteChecked lower s currentVersion configupdate
  | language l => exact move_language lower s l
  | login username pass => exact move_login lower s username pass
  | tile area i => exact move_tile lower s area i
  -- A button of a row only subscribes. What it opens comes with the snapshot.
  | row contact =>
      rw [step, row]
      split <;> exact move_stay ⟨rfl, rfl, rfl⟩
  | listener i =>
      rw [step, listener]
      rcases hsub : s.subscriptions[i]? with _ | ⟨id, popup⟩
      · exact move_stay ⟨rfl, rfl, rfl⟩
      · exact move_pushBeside ⟨rfl, rfl, rfl⟩ rfl (.popup hsub)
  | notes =>
      rw [step, notes]
      split <;> exact move_stay ⟨rfl, rfl, rfl⟩
  | signedIn i =>
      rw [step, signedIn]
      rcases hwait : s.signIns[i]? with _ | id
      · exact move_stay ⟨rfl, rfl, rfl⟩
      · exact move_pushBeside ⟨rfl, rfl, rfl⟩ rfl (.notes hwait)
  | update => exact move_update lower s
  | back => exact move_back lower s

end

section

variable {lower : String → String} {s s' : App} {x : Screen}

/-- A page that is not on top yet is, after `Get.to`. -/
theorem shows_getTo {page : OffersPage} (hcurrent : s.isCurrent page = false) :
    (s.getTo page).Shows (.offers page) := by
  rw [getTo, hcurrent, if_neg Bool.false_ne_true, shows_pushRoot]
  exact Or.inl rfl

/-- Changing the locale first makes no difference to the push. -/
theorem shows_handleMessage {m : RemoteMessage} {page : OffersPage} (hs : SameStacks s s')
    (hpage : NotificationServices.handleMessage m = some page)
    (hcurrent : s.isCurrent page = false) : (s'.handleMessage m).Shows (.offers page) := by
  have hs' : SameStacks s (s'.updateLocale .enUS) := ⟨hs.root, hs.nested, hs.log⟩
  rw [handleMessage, hpage]
  exact shows_getTo ((isCurrent_congr hs').trans hcurrent)

/-- With the password the home leads to the categories. -/
theorem shows_getvalidation (hvalid : s.validated) : s.getvalidation.Shows .categories := by
  rw [getvalidation, if_pos hvalid]
  exact (shows_pushNested _ _ s).mpr (Or.inl rfl)

/-- Without it the home leads to the login page. -/
theorem shows_getvalidation_login (hvalid : ¬ s.validated) : s.getvalidation.Shows .login := by
  rw [getvalidation, if_neg hvalid]
  exact (shows_pushNested _ _ s).mpr (Or.inl rfl)

/-- A page that is still there gets its screen, whichever stack it is on. -/
theorem shows_pushBeside {id : Nat} (hs : SameStacks s s') (hmounted : s.Mounted id) :
    (s'.pushBeside id x).Shows x := by
  rw [pushBeside, hs.root, hs.nested]
  split_ifs with hroot hnested
  · exact (shows_pushRoot x x s').mpr (Or.inl rfl)
  · exact (shows_pushNested x x s').mpr (Or.inl rfl)
  · exact absurd hmounted (not_or.mpr ⟨hroot, hnested⟩)

/-- What an event opens is on a stack afterwards. The cases are the ways to
    open a screen, and in each the conditions of `Opens` are those that the
    handler tests, in its order. -/
theorem shows_of_opens {e : Event} (h : Opens lower s e x) : (s.step lower e).Shows x := by
  cases h with
  | message hm hpage hcurrent =>
      cases e with
      | initialMessage =>
          rw [step, Option.mem_def.mp hm]
          exact shows_handleMessage ⟨rfl, rfl, rfl⟩ hpage hcurrent
      | foreground m =>
          rw [step, Option.mem_def.mp hm]
          exact shows_handleMessage (s := s) ⟨rfl, rfl, rfl⟩ hpage hcurrent
      | background m =>
          rw [step, Option.mem_def.mp hm]
          exact shows_handleMessage (s := s) ⟨rfl, rfl, rfl⟩ hpage hcurrent
      -- No other event runs `handleMessage`.
      | _ => exact absurd hm (Option.not_mem_none _)
  | categories htop hvalid =>
      rw [step, language, htop]
      exact shows_getvalidation hvalid
  | login htop hvalid =>
      rw [step, language, htop]
      exact shows_getvalidation_login hvalid
  | signIn htop hmatch =>
      rw [step, login, htop]
      simp only [if_pos hmatch, shows_pushNested, true_or]
  | tile htop hname hpage hcurrent =>
      rw [step, tile, htop]
      simp only [hname, tapTile, hpage]
      exact shows_getTo hcurrent
  | popup hsub hmounted =>
      rw [step, listener, hsub]
      exact shows_pushBeside (s := s) ⟨rfl, rfl, rfl⟩ hmounted
  | notes hwait hmounted =>
      rw [step, signedIn, hwait]
      exact shows_pushBeside (s := s) ⟨rfl, rfl, rfl⟩ hmounted
  | config hpending hd =>
      rw [step, configRead, if_pos hpending, hd]
      exact (shows_pushNested _ _ _).mpr (Or.inl rfl)
  | version hpending hlt =>
      simp only [step, remoteChecked, if_pos hpending, if_pos hlt, shows_pushNested, true_or]

/-- A screen that a step leaves on the stacks was there, or was opened by
    it. -/
theorem shows_step {e : Event} (h : (s.step lower e).Shows x) :
    s.Shows x ∨ Opens lower s e x := by
  rw [Shows, List.map_append, List.mem_append] at h ⊢
  cases move_step lower s e with
  | stay root nested =>
      rw [root, nested] at h
      exact Or.inl h
  | pushRoot opens onRoot root nested =>
      rw [root, nested, List.map_cons, List.mem_cons] at h
      rcases h with (rfl | h) | h
      · exact Or.inr opens
      · exact Or.inl (Or.inl h)
      · exact Or.inl (Or.inr h)
  | pushNested opens root nested =>
      rw [root, nested, List.map_cons, List.mem_cons] at h
      rcases h with h | rfl | h
      · exact Or.inl (Or.inl h)
      · exact Or.inr opens
      · exact Or.inl (Or.inr h)
  | popRoot root nested =>
      rw [root, List.map_cons, List.mem_cons, ← nested]
      exact Or.inl (h.imp_left Or.inr)
  | popNested home root nested =>
      rw [nested, List.map_cons, List.mem_cons, ← root]
      exact Or.inl (h.imp_right Or.inr)
  | restart root nested =>
      rw [root, nested] at h
      exact absurd h (by simp only [List.map_nil, List.not_mem_nil, or_self, not_false_eq_true])

end

/-! ## What is stored, tried and waiting -/

/-- What a step does to what is stored, tried and waiting. Only the language
    buttons store a locale, and only a sign-in that matches a password. No
    attempt is forgotten. A page that waits for a sign-in has asked for it
    while it was on top. -/
structure Keeps (lower : String → String) (s : App) (e : Event) (t : App) : Prop where
  lang : t.storage.lang = s.storage.lang ∨ s.top = none ∧ ∃ l, e = .language l
  password : t.storage.password = s.storage.password ∨
    t.validated ∧ ∃ a ∈ t.attempts, e = .login a.1 a.2 ∧ matchesLogin lower a
  attempts : ∀ a ∈ s.attempts, a ∈ t.attempts
  signIns : ∀ id ∈ t.signIns, id ∈ s.signIns ∨ ∃ a, s.top = some a ∧ a.screen.isGated = true

section

variable {lower : String → String} {s s' : App} {e : Event}

/-- A push keeps whatever the state before it keeps. -/
theorem keeps_getTo (page : OffersPage) (h : Keeps lower s e s') :
    Keeps lower s e (s'.getTo page) := by
  rw [getTo]
  split_ifs
  · exact h
  · exact ⟨h.lang, h.password, h.attempts, h.signIns⟩

/-- So does a push beside a page. -/
theorem keeps_pushBeside (id : Nat) (x : Screen) (h : Keeps lower s e s') :
    Keeps lower s e (s'.pushBeside id x) := by
  rw [pushBeside]
  split_ifs
  · exact ⟨h.lang, h.password, h.attempts, h.signIns⟩
  · exact ⟨h.lang, h.password, h.attempts, h.signIns⟩
  · exact h

/-- Handling a message sets the locale of the session, not the stored one. -/
theorem keeps_interact (m : Option RemoteMessage) (h : Keeps lower s e s') :
    Keeps lower s e (interact m s') := by
  rcases m with _ | m
  · exact h
  · simp only [interact, handleMessage]
    rcases NotificationServices.handleMessage m with _ | page
    · exact h
    · exact keeps_getTo page ⟨h.lang, h.password, h.attempts, h.signIns⟩

/-- A state that differs in none of these. -/
theorem keeps_of_eq (hstorage : s'.storage = s.storage) (hattempts : s'.attempts = s.attempts)
    (hsignIns : ∀ id ∈ s'.signIns, id ∈ s.signIns) : Keeps lower s e s' where
  lang := Or.inl (by rw [hstorage])
  password := Or.inl (by rw [hstorage])
  attempts := fun a ha => by rwa [hattempts]
  signIns := fun id hid => Or.inl (hsignIns id hid)

end

section

variable (lower : String → String) (s : App)

/-- A language button stores its language before it looks for a password. -/
theorem keeps_language (l : Locale) : Keeps lower s (.language l) (s.language l) := by
  rw [language]
  rcases htop : s.top with _ | a
  · simp only [getvalidation]
    split_ifs <;> exact ⟨Or.inr ⟨htop, l, rfl⟩, Or.inl rfl, fun _ ha => ha,
      fun _ hid => Or.inl hid⟩
  · exact keeps_of_eq rfl rfl fun _ hid => hid

/-- Only a sign-in that matches is stored. -/
theorem keeps_login (username pass : String) :
    Keeps lower s (.login username pass) (s.login lower username pass) := by
  have hmem : (username, pass) ∈ s.attempts ++ [(username, pass)] :=
    List.mem_append_right _ (List.mem_singleton.mpr rfl)
  rw [login]
  split
  · -- The attempt is kept whether or not it matches.
    split_ifs with hmatch
    · exact ⟨Or.inl rfl, Or.inr ⟨rfl, _, hmem, rfl, hmatch⟩,
        fun _ ha => List.mem_append_left _ ha, fun _ hid => Or.inl hid⟩
    · exact ⟨Or.inl rfl, Or.inl rfl, fun _ ha => List.mem_append_left _ ha,
        fun _ hid => Or.inl hid⟩
  · exact keeps_of_eq rfl rfl fun _ hid => hid

/-- What a tap changes is the label on the page, not anything stored. -/
theorem keeps_tile (area : Categories.Area) (i : Nat) :
    Keeps lower s (.tile area i) (s.tile area i) := by
  rw [tile]
  split
  · split
    · rw [tapTile]
      split
      · exact keeps_getTo _ (keeps_of_eq rfl rfl fun _ hid => hid)
      · exact keeps_of_eq rfl rfl fun _ hid => hid
      · exact keeps_of_eq rfl rfl fun _ hid => hid
    · exact keeps_of_eq rfl rfl fun _ hid => hid
  · exact keeps_of_eq rfl rfl fun _ hid => hid

/-- The Notes button is on `Categories` and on the list pages. -/
theorem keeps_notes : Keeps lower s .notes s.notes := by
  rw [notes]
  -- The page that waits is the one on top, on either kind of page.
  split
  · rename_i htop
    refine ⟨Or.inl rfl, Or.inl rfl, fun _ ha => ha, fun id hid => ?_⟩
    rcases List.mem_append.mp hid with hid | _
    · exact Or.inl hid
    · exact Or.inr ⟨_, htop, rfl⟩
  · rename_i htop
    refine ⟨Or.inl rfl, Or.inl rfl, fun _ ha => ha, fun id hid => ?_⟩
    rcases List.mem_append.mp hid with hid | _
    · exact Or.inl hid
    · exact Or.inr ⟨_, htop, rfl⟩
  · exact keeps_of_eq rfl rfl fun _ hid => hid

/-- A sign-in that has answered is no longer waited for. -/
theorem keeps_signedIn (i : Nat) : Keeps lower s (.signedIn i) (s.signedIn i) := by
  rw [signedIn]
  split
  · exact keeps_pushBeside _ _ (keeps_of_eq rfl rfl fun _ hid => List.mem_of_mem_eraseIdx hid)
  · exact keeps_of_eq rfl rfl fun _ hid => hid

theorem keeps_configRead (value : DartMap) :
    Keeps lower s (.configRead value) (s.configRead value) := by
  rw [configRead]
  split_ifs
  · split <;> exact keeps_of_eq rfl rfl fun _ hid => hid
  · exact keeps_of_eq rfl rfl fun _ hid => hid

theorem keeps_remoteChecked (currentVersion : Int) (configupdate : Option Int) :
    Keeps lower s (.remoteChecked currentVersion configupdate)
      (s.remoteChecked currentVersion configupdate) := by
  unfold remoteChecked
  split_ifs
  · split
    · split_ifs <;> exact keeps_of_eq rfl rfl fun _ hid => hid
    · exact keeps_of_eq rfl rfl fun _ hid => hid
  · exact keeps_of_eq rfl rfl fun _ hid => hid

theorem keeps_back : Keeps lower s .back s.back := by
  unfold back
  split
  · exact keeps_of_eq rfl rfl fun _ hid => hid
  · split_ifs <;> exact keeps_of_eq rfl rfl fun _ hid => hid
  · exact keeps_of_eq rfl rfl fun _ hid => hid

theorem keeps_update : Keeps lower s .update s.update := by
  unfold update
  split
  · split_ifs <;> exact keeps_of_eq rfl rfl fun _ hid => hid
  · exact keeps_of_eq rfl rfl fun _ hid => hid

/-- Every step keeps what it should, event by event as in `move_step`. -/
theorem keeps_step (e : Event) : Keeps lower s e (s.step lower e) := by
  have hself : Keeps lower s e s := keeps_of_eq rfl rfl fun _ hid => hid
  cases e with
  -- What is stored outlives the process, and what waits does not.
  | launch m => exact keeps_of_eq rfl rfl fun _ hid => absurd hid List.not_mem_nil
  | initialMessage => exact keeps_interact _ (keeps_of_eq rfl rfl fun _ hid => hid)
  | foreground m => exact keeps_interact (s.message (.foreground m)) hself
  | background m => exact keeps_interact (s.message (.background m)) hself
  | configRead value => exact keeps_configRead lower s value
  | remoteChecked currentVersion configupdate =>
      exact keeps_remoteChecked lower s currentVersion configupdate
  | language l => exact keeps_language lower s l
  | login username pass => exact keeps_login lower s username pass
  | tile area i => exact keeps_tile lower s area i
  | row contact =>
      rw [step, row]
      split <;> exact keeps_of_eq rfl rfl fun _ hid => hid
  | listener i =>
      rw [step, listener]
      split
      · exact keeps_pushBeside _ _ hself
      · exact hself
  | notes => exact keeps_notes lower s
  | signedIn i => exact keeps_signedIn lower s i
  | update => exact keeps_update lower s
  | back => exact keeps_back lower s

end

end App

end JkbEmpOffers
