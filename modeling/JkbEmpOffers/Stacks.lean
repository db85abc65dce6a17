import JkbEmpOffers.Moves
import JkbEmpOffers.Library.Run
import Mathlib.Data.List.TakeWhile

/-!
# The Shape of the Stacks

What can lie on the two navigators, and in which order. On the root
navigator there are offers pages, no two of a class on top of each other, and
what their buttons and `Notes` push. On the nested one there is at most one
`LoginScreen`, at the bottom, at most one `Categories` page, at the bottom or
right over the login, what is pushed beside that page, and at most two
dialogs of start-up. `Stacked` says so, and what ties it together: that the
routes have different ids, and that a page which a subscription or a sign-in
waits for is one that has the button.

The last two parts are needed for the first. A snapshot or a sign-in may come
long after the press that waits for it, when the page is covered, gone, or
over a page of the same class. What is then pushed goes beside the page with
the id, so `Stacked` has to know what kind of page that is as long as it is
there: `Owns` says so, and that no later route gets the id again. It is put
in place where a button is pressed, since the page is on top then
(`owns_of_top`), and every push and pop keeps it.

The consequence is about leaving. The back button leads home from
everywhere, except that it does not get past a dialog of start-up; and from
the home every tile can be reached.

## Main definitions

* `currentClass`: What `Get.to` compares the class of a page with.
* `RootStack`, `NestedStack`: What the two navigators can show.
* `Owns`: A page has the button that a later push comes from.
* `Stacked`: The invariant.
* `wayTo`: What a user does to get to a tile.
* `OnCategories`: Where the user is before the tile is tapped.

## Theorems

* `stacked_pushRoot`, `stacked_pushNested`, `stacked_pushBeside`: The pushes
  that keep the invariant.
* `owns_of_top`: The page on top owns what its buttons leave behind.
* `stacked_step`, `stacked_always`: Every step keeps the invariant, so every
  run does.
* `run_back`: What is left when the back button has been pressed.
* `home_iff`: When the back button leads home.
* `tile_opens_again`: From everywhere else the page of every tile that has
  one can be reached.
-/

namespace JkbEmpOffers

namespace Screen

/-- What a page pushes beside itself. -/
def isBeside : Screen → Bool
  | .notes | .popup _ => true
  | _ => false

/-- Whether it is an offers page. -/
def isOffers : Screen → Bool
  | .offers _ => true
  | _ => false

end Screen

namespace App

/-- The class of the topmost page, if that is an offers page. -/
def currentClass (screens : List Screen) : Option ListPage :=
  match screens.find? Screen.isPage with
  | some (.offers current) => some current.page
  | _ => none

/-- What the root navigator can show, from the top. -/
inductive RootStack : List Screen → Prop where
  | home : RootStack []
  /-- `Get.to` or a tile, over a page of another class. -/
  | offers {page : OffersPage} {rest : List Screen} (below : RootStack rest)
      (hnew : currentClass rest ≠ some page.page) : RootStack (.offers page :: rest)
  /-- `Notes`, a viewer or a dialog, over an offers page that has its button,
      though not always right over it. -/
  | beside {x : Screen} {rest : List Screen} (below : RootStack rest) (hx : x.isBeside = true)
      (hpage : ∃ page, .offers page ∈ rest) : RootStack (x :: rest)

/-- What the nested navigator can show, from the top. No contact button is on
    a page of this navigator. -/
inductive NestedStack : List Screen → Prop where
  | home : NestedStack []
  | login : NestedStack [.login]
  | categories : NestedStack [.categories]
  | signedIn : NestedStack [.categories, .login]
  /-- A dialog of start-up comes when it comes, over anything. -/
  | blocking {d : BlockingDialog} {rest : List Screen} (below : NestedStack rest) :
      NestedStack (.blocking d :: rest)
  /-- `Notes` or the viewer of the mall, over `Categories`. -/
  | beside {x : Screen} {rest : List Screen} (below : NestedStack rest) (hx : x.isBeside = true)
      (hdialog : x ≠ .popup .dialog) (hpage : .categories ∈ rest) : NestedStack (x :: rest)

/-- If a page with the id is mounted, it has the button that pushes the
    screen. -/
def Owns (s : App) (id : Nat) (x : Screen) : Prop :=
  id < s.nextId ∧ (∀ a ∈ s.root, a.id = id → a.screen.isOffers = true) ∧
    ∀ a ∈ s.nested, a.id = id → a.screen = .categories ∧ x ≠ .popup .dialog

/-- The dialogs of start-up on the nested navigator, with those that may still
    come. -/
def dialogs (s : App) : Nat :=
  (s.nested.map Entry.screen).countP Screen.isBlocking + s.configPending.toNat
    + s.remotePending.toNat

/-- What is on the stacks, and what is still to be pushed there. -/
structure Stacked (s : App) : Prop where
  root : RootStack (s.root.map Entry.screen)
  nested : NestedStack (s.nested.map Entry.screen)
  fresh : ∀ a ∈ s.root ++ s.nested, a.id < s.nextId
  distinct : ((s.root ++ s.nested).map Entry.id).Nodup
  subscriptions : ∀ q ∈ s.subscriptions, s.Owns q.1 (.popup q.2)
  signIns : ∀ id ∈ s.signIns, s.Owns id .notes
  dialogs : s.dialogs ≤ 2

/-! ## The two navigators -/

/-- What is left after a pop has the shape as well. -/
theorem RootStack.tail {x : Screen} {rest : List Screen} (h : RootStack (x :: rest)) :
    RootStack rest := by
  cases h with
  | offers below hnew => exact below
  | beside below hx hpage => exact below

/-- And so on the nested navigator. -/
theorem NestedStack.tail {x : Screen} {rest : List Screen} (h : NestedStack (x :: rest)) :
    NestedStack rest := by
  cases h with
  | login => exact .home
  | categories => exact .home
  | signedIn => exact .login
  | blocking below => exact below
  | beside below hx hdialog hpage => exact below

/-- Nothing else is on the root navigator. -/
theorem RootStack.mem {x : Screen} {screens : List Screen} (h : RootStack screens)
    (hx : x ∈ screens) : x.isOffers = true ∨ x.isBeside = true := by
  induction h with
  | home => exact absurd hx List.not_mem_nil
  | offers below hnew ih =>
      rcases List.mem_cons.mp hx with rfl | hx
      · exact Or.inl rfl
      · exact ih hx
  | beside below hbeside hpage ih =>
      rcases List.mem_cons.mp hx with rfl | hx
      · exact Or.inr hbeside
      · exact ih hx

/-- No offers page is on the nested one. -/
theorem NestedStack.not_offers {x : Screen} {screens : List Screen} (h : NestedStack screens)
    (hx : x ∈ screens) : x.isOffers = false := by
  induction h with
  | home => exact absurd hx List.not_mem_nil
  | login => rw [List.mem_singleton.mp hx]; rfl
  | categories => rw [List.mem_singleton.mp hx]; rfl
  | signedIn =>
      rcases List.mem_cons.mp hx with rfl | hx
      · rfl
      · rw [List.mem_singleton.mp hx]
        rfl
  | blocking below ih =>
      rcases List.mem_cons.mp hx with rfl | hx
      · rfl
      · exact ih hx
  | beside below hbeside hdialog hpage ih =>
      rcases List.mem_cons.mp hx with rfl | hx
      · cases x with
        | offers page => exact absurd hbeside Bool.false_ne_true
        | _ => rfl
      · exact ih hx

/-- A login is at the bottom. -/
theorem NestedStack.below_login {rest : List Screen} (h : NestedStack (.login :: rest)) :
    rest = [] := by
  cases h with
  | login => rfl
  | beside below hx hdialog hpage => exact absurd hx Bool.false_ne_true

section

variable {lower : String → String} {s s' : App} {e : Event} {x : Screen}

/-- `Get.to` does nothing on a page of the class. -/
theorem isCurrent_eq (page : OffersPage) (s : App) :
    s.isCurrent page = decide (currentClass (s.root.map Entry.screen) = some page.page) := by
  rw [isCurrent, currentClass]
  rcases (s.root.map Entry.screen).find? Screen.isPage with _ | y
  · rfl
  · cases y with
    | offers current =>
        simp only [Option.some.injEq]
        rfl
    | _ => rfl

/-- A state with the same stacks, and nothing new that is to be pushed. -/
theorem Stacked.congr (h : Stacked s) (hroot : s'.root = s.root) (hnested : s'.nested = s.nested)
    (hnext : s'.nextId = s.nextId)
    (hsub : ∀ q ∈ s'.subscriptions, s.Owns q.1 (.popup q.2))
    (hsign : ∀ id ∈ s'.signIns, s.Owns id .notes)
    (hconfig : s'.configPending.toNat ≤ s.configPending.toNat)
    (hremote : s'.remotePending.toNat ≤ s.remotePending.toNat) : Stacked s' := by
  have howns : ∀ id y, s.Owns id y → s'.Owns id y := by
    intro id y howns
    rwa [Owns, hroot, hnested, hnext]
  refine ⟨by rw [hroot]; exact h.root, by rw [hnested]; exact h.nested, ?_, ?_,
    fun q hq => howns _ _ (hsub q hq), fun id hid => howns _ _ (hsign id hid), ?_⟩
  · rw [hroot, hnested, hnext]
    exact h.fresh
  · rw [hroot, hnested]
    exact h.distinct
  · have hd := h.dialogs
    rw [App.dialogs] at hd ⊢
    rw [hnested]
    omega

/-- A new route belongs to none of the pages that are waited for. -/
theorem Owns.push {id : Nat} (h : s.Owns id x) (hnext : s'.nextId = s.nextId + 1)
    (hroot : ∀ a ∈ s'.root, a ∈ s.root ∨ a.id = s.nextId)
    (hnested : ∀ a ∈ s'.nested, a ∈ s.nested ∨ a.id = s.nextId) : s'.Owns id x := by
  rcases h with ⟨hlt, hr, hn⟩
  refine ⟨by omega, fun a ha hid => ?_, fun a ha hid => ?_⟩
  · rcases hroot a ha with ha | ha
    · exact hr a ha hid
    · omega
  · rcases hnested a ha with ha | ha
    · exact hn a ha hid
    · omega

/-- The id of a new route is not in use. -/
theorem Stacked.nextId_notMem (h : Stacked s) : s.nextId ∉ (s.root ++ s.nested).map Entry.id := by
  intro hmem
  rcases List.mem_map.mp hmem with ⟨a, ha, hid⟩
  exact absurd (h.fresh a ha) (by omega)

/-- A push on the root navigator that keeps its shape. The new route is no
    page that anything waits for, and takes nothing from those that are. -/
theorem stacked_pushRoot (h : Stacked s) (hx : RootStack (x :: s.root.map Entry.screen)) :
    Stacked (s.pushRoot x) := by
  have howns : ∀ id y, s.Owns id y → (s.pushRoot x).Owns id y := by
    intro id y howns
    refine howns.push rfl (fun a ha => ?_) fun a ha => Or.inl ha
    rcases List.mem_cons.mp ha with rfl | ha
    · exact Or.inr rfl
    · exact Or.inl ha
  refine ⟨hx, h.nested, fun a ha => ?_, List.nodup_cons.mpr ⟨h.nextId_notMem, h.distinct⟩,
    fun q hq => howns _ _ (h.subscriptions q hq), fun id hid => howns _ _ (h.signIns id hid),
    h.dialogs⟩
  rcases List.mem_cons.mp ha with rfl | ha
  · exact Nat.lt_succ_self s.nextId
  · exact Nat.lt_succ_of_lt (h.fresh a ha)

/-- A push on the nested one, which may be a dialog of start-up if it is not
    the third. -/
theorem stacked_pushNested (h : Stacked s) (hx : NestedStack (x :: s.nested.map Entry.screen))
    (hdialogs : x.isBlocking.toNat + s.dialogs ≤ 2) : Stacked (s.pushNested x) := by
  have howns : ∀ id y, s.Owns id y → (s.pushNested x).Owns id y := by
    intro id y howns
    refine howns.push rfl (fun a ha => Or.inl ha) fun a ha => ?_
    rcases List.mem_cons.mp ha with rfl | ha
    · exact Or.inr rfl
    · exact Or.inl ha
  have hperm : ((s.root ++ (⟨s.nextId, x⟩ : Entry) :: s.nested).map Entry.id).Perm
      (s.nextId :: (s.root ++ s.nested).map Entry.id) :=
    List.perm_middle.map Entry.id
  refine ⟨h.root, hx, fun a ha => ?_,
    hperm.nodup_iff.mpr (List.nodup_cons.mpr ⟨h.nextId_notMem, h.distinct⟩),
    fun q hq => howns _ _ (h.subscriptions q hq), fun id hid => howns _ _ (h.signIns id hid), ?_⟩
  · rcases List.mem_cons.mp (List.perm_middle.mem_iff.mp ha) with rfl | ha
    · exact Nat.lt_succ_self s.nextId
    · exact Nat.lt_succ_of_lt (h.fresh a ha)
  · rw [App.dialogs] at hdialogs ⊢
    rw [pushNested, List.map_cons, List.countP_cons]
    have hcount : (if x.isBlocking = true then 1 else 0) = x.isBlocking.toNat := by
      cases x.isBlocking <;> rfl
    rw [hcount]
    simp only at hdialogs ⊢
    omega

/-- What a page pushes beside itself goes over that page. -/
theorem stacked_pushBeside {id : Nat} (h : Stacked s) (howns : s.Owns id x)
    (hx : x.isBeside = true) : Stacked (s.pushBeside id x) := by
  rcases howns with ⟨-, hroot, hnested⟩
  rw [pushBeside]
  split_ifs with hr hn
  · rcases List.mem_map.mp hr with ⟨a, ha, hid⟩
    refine stacked_pushRoot h (.beside h.root hx ?_)
    have hoffers := hroot a ha hid
    cases hscreen : a.screen with
    | offers page => exact ⟨page, hscreen ▸ List.mem_map_of_mem ha⟩
    | _ =>
        rw [hscreen] at hoffers
        exact absurd hoffers Bool.false_ne_true
  · rcases List.mem_map.mp hn with ⟨a, ha, hid⟩
    rcases hnested a ha hid with ⟨hscreen, hdialog⟩
    have hblocking : x.isBlocking.toNat = 0 := by
      cases x with
      | blocking d => exact absurd hx Bool.false_ne_true
      | _ => rfl
    refine stacked_pushNested h (.beside h.nested hx hdialog ?_) ?_
    · exact hscreen ▸ List.mem_map_of_mem ha
    · rw [hblocking, Nat.zero_add]
      exact h.dialogs
  · exact h

/-- The page on top, which is a `Categories` page or an offers page, owns what
    its buttons leave behind. -/
theorem owns_of_top {a : Entry} (h : Stacked s) (htop : s.top = some a)
    (hscreen : a.screen.isOffers = true ∨ a.screen = .categories ∧ x ≠ .popup .dialog) :
    s.Owns a.id x := by
  have hmem : a ∈ s.root ++ s.nested := List.mem_of_mem_head? htop
  -- No other route has the id.
  have heq : ∀ b ∈ s.root ++ s.nested, b.id = a.id → b = a := by
    intro b hb hid
    exact List.inj_on_of_nodup_map h.distinct hb hmem hid
  refine ⟨h.fresh a hmem, fun b hb hid => ?_, fun b hb hid => ?_⟩
  · rw [heq b (List.mem_append_left _ hb) hid]
    rcases hscreen with hoffers | ⟨hcategories, -⟩
    · exact hoffers
    · -- `Categories` is never on the root navigator.
      have hb' := h.root.mem (List.mem_map_of_mem hb)
      rw [heq b (List.mem_append_left _ hb) hid, hcategories] at hb'
      rcases hb' with hb' | hb' <;> exact absurd hb' Bool.false_ne_true
  · have hb' := h.nested.not_offers (List.mem_map_of_mem hb)
    rw [heq b (List.mem_append_right _ hb) hid] at hb' ⊢
    rcases hscreen with hoffers | hcategories
    · exact absurd (hoffers.symm.trans hb') Bool.true_eq_false_eq_False
    · exact hcategories

/-! ## One event -/

/-- `Get.to` pushes no page over one of its class. -/
theorem stacked_getTo (page : OffersPage) (h : Stacked s) : Stacked (s.getTo page) := by
  rw [getTo, isCurrent_eq]
  split_ifs with hcurrent
  · exact h
  · exact stacked_pushRoot h (.offers h.root fun heq => hcurrent (decide_eq_true heq))

/-- A message that is handled, if there is one. -/
theorem stacked_interact (m : Option RemoteMessage) (h : Stacked s) : Stacked (interact m s) := by
  rcases m with _ | m
  · exact h
  · simp only [interact, handleMessage]
    rcases NotificationServices.handleMessage m with _ | page
    · exact h
    · exact stacked_getTo page (h.congr rfl rfl rfl h.subscriptions h.signIns le_rfl le_rfl)

/-- Only the home is shown when nothing is on top. -/
theorem stacks_of_top_none (htop : s.top = none) : s.root = [] ∧ s.nested = [] :=
  List.append_eq_nil_iff.mp (List.head?_eq_none_iff.mp htop)

/-- A page that is never on the root navigator is on top of the nested one. -/
theorem nested_of_top (h : Stacked s) {a : Entry} (htop : s.top = some a)
    (hx : a.screen.isOffers = false ∧ a.screen.isBeside = false) :
    s.root = [] ∧ ∃ rest, s.nested = a :: rest := by
  rw [top] at htop
  rcases hroot : s.root with _ | ⟨b, rest⟩
  · rw [hroot, List.nil_append, List.head?_eq_some_iff] at htop
    exact ⟨rfl, htop⟩
  · rw [hroot, List.cons_append, List.head?_cons, Option.some.injEq] at htop
    have hmem := h.root.mem (hroot ▸ List.mem_map_of_mem List.mem_cons_self)
    rw [htop, hx.1, hx.2] at hmem
    rcases hmem with hmem | hmem <;> exact absurd hmem Bool.false_ne_true

/-- A language button is pressed on the home, so what it opens is the lowest. -/
theorem stacked_language (l : Locale) (h : Stacked s) : Stacked (s.language l) := by
  rw [language]
  rcases htop : s.top with _ | a
  · have hnested := (stacks_of_top_none htop).2
    have hs : ∀ st, Stacked (updateLocale l { s with storage := st }) := fun st =>
      h.congr rfl rfl rfl h.subscriptions h.signIns le_rfl le_rfl
    -- Nothing is on the nested navigator, so the page is at its bottom.
    simp only [getvalidation]
    split_ifs
    · refine stacked_pushNested (hs _) ?_ ((Nat.zero_add _).trans_le (hs _).dialogs)
      simp only [updateLocale, hnested, List.map_nil]
      exact .categories
    · refine stacked_pushNested (hs _) ?_ ((Nat.zero_add _).trans_le (hs _).dialogs)
      simp only [updateLocale, hnested, List.map_nil]
      exact .login
  · exact h

/-- A sign-in that matches puts `Categories` right over the login. -/
theorem stacked_login (username pass : String) (h : Stacked s) :
    Stacked (s.login lower username pass) := by
  rw [login]
  split
  · rename_i id htop
    rcases nested_of_top h htop ⟨rfl, rfl⟩ with ⟨-, rest, hnested⟩
    have hbelow := h.nested
    rw [hnested, List.map_cons] at hbelow
    split_ifs
    · -- The login is all there is on the nested navigator.
      have hs : ∀ st at', Stacked { s with storage := st, attempts := at' } := fun st at' =>
        h.congr rfl rfl rfl h.subscriptions h.signIns le_rfl le_rfl
      refine stacked_pushNested (hs _ _) ?_ ((Nat.zero_add _).trans_le (hs _ _).dialogs)
      simp only [hnested, List.map_cons, hbelow.below_login]
      exact .signedIn
    · exact h.congr rfl rfl rfl h.subscriptions h.signIns le_rfl le_rfl
  · exact h

/-- A tile pushes a page on the root navigator, or subscribes for `Categories`,
    which owns the viewer that comes. -/
theorem stacked_tile (area : Categories.Area) (i : Nat) (h : Stacked s) :
    Stacked (s.tile area i) := by
  rw [tile]
  split
  · rename_i id htop
    split
    · rename_i gridname hname
      rw [tapTile]
      split
      · exact stacked_getTo _ (h.congr rfl rfl rfl h.subscriptions h.signIns le_rfl le_rfl)
      · refine h.congr rfl rfl rfl (fun q hq => ?_) h.signIns le_rfl le_rfl
        rcases List.mem_append.mp hq with hq | hq
        · exact h.subscriptions q hq
        · rw [List.mem_singleton.mp hq]
          refine owns_of_top h htop (Or.inr ⟨rfl, ?_⟩)
          simp only [ne_eq, Screen.popup.injEq, reduceCtorEq, not_false_eq_true]
      · exact h.congr rfl rfl rfl h.subscriptions h.signIns le_rfl le_rfl
    · exact h
  · exact h

/-- A button of a row subscribes for the list page that it is on. -/
theorem stacked_row (contact : Bool) (h : Stacked s) : Stacked (s.row contact) := by
  rw [row]
  split
  · rename_i id page htop
    refine h.congr rfl rfl rfl (fun q hq => ?_) h.signIns le_rfl le_rfl
    rcases List.mem_append.mp hq with hq | hq
    · exact h.subscriptions q hq
    · rw [List.mem_singleton.mp hq]
      exact owns_of_top h htop (Or.inl rfl)
  · exact h

/-- Both kinds of page that have the Notes button own what it pushes. -/
theorem stacked_notes (h : Stacked s) : Stacked s.notes := by
  have hwait : ∀ a, s.top = some a → a.screen.isOffers = true ∨ a.screen = .categories →
      Stacked { s with signIns := s.signIns ++ [a.id] } := by
    intro a htop hscreen
    refine h.congr rfl rfl rfl h.subscriptions (fun id hid => ?_) le_rfl le_rfl
    rcases List.mem_append.mp hid with hid | hid
    · exact h.signIns id hid
    · rw [List.mem_singleton.mp hid]
      exact owns_of_top h htop (hscreen.imp_right fun hcat => ⟨hcat, by decide⟩)
  rw [notes]
  split
  · rename_i htop
    exact hwait _ htop (Or.inr rfl)
  · rename_i htop
    exact hwait _ htop (Or.inl rfl)
  · exact h

/-- A snapshot comes for a subscription that is still there. -/
theorem stacked_listener (i : Nat) (h : Stacked s) : Stacked (s.listener i) := by
  rw [listener]
  split
  · rename_i id popup hsub
    exact stacked_pushBeside h (h.subscriptions _ (List.mem_of_getElem? hsub)) rfl
  · exact h

/-- A sign-in that has answered is no longer waited for. -/
theorem stacked_signedIn (i : Nat) (h : Stacked s) : Stacked (s.signedIn i) := by
  rw [signedIn]
  split
  · rename_i id hwait
    have hs : Stacked { s with signIns := s.signIns.eraseIdx i } :=
      h.congr rfl rfl rfl h.subscriptions
        (fun id hid => h.signIns id (List.mem_of_mem_eraseIdx hid)) le_rfl le_rfl
    exact stacked_pushBeside hs (h.signIns id (List.mem_of_getElem? hwait)) rfl
  · exact h

/-- A check that shows a dialog is done, so the dialog takes its place in the
    count. -/
theorem stacked_configRead (value : DartMap) (h : Stacked s) : Stacked (s.configRead value) := by
  rw [configRead]
  split_ifs with hpending
  · have hs : Stacked { s with configPending := false } :=
      h.congr rfl rfl rfl h.subscriptions h.signIns (Nat.zero_le _) le_rfl
    split
    · refine stacked_pushNested hs (.blocking h.nested) ?_
      have hd := h.dialogs
      simp only [App.dialogs, hpending, Bool.toNat_true, Bool.toNat_false] at hd ⊢
      simp only [Screen.isBlocking, Bool.toNat_true]
      omega
    · exact hs
  · exact h

/-- The same for the other check. -/
theorem stacked_remoteChecked (currentVersion : Int) (configupdate : Option Int)
    (h : Stacked s) : Stacked (s.remoteChecked currentVersion configupdate) := by
  unfold remoteChecked
  split_ifs with hpending
  · have hs : Stacked { s with remotePending := false } :=
      h.congr rfl rfl rfl h.subscriptions h.signIns le_rfl (Nat.zero_le _)
    split
    · split_ifs
      · refine stacked_pushNested hs (.blocking h.nested) ?_
        have hd := h.dialogs
        simp only [App.dialogs, hpending, Bool.toNat_true, Bool.toNat_false] at hd ⊢
        simp only [Screen.isBlocking, Bool.toNat_true]
        omega
      · exact hs
    · exact hs
  · exact h

/-- A pop of the root navigator. -/
theorem stacked_popRoot {a : Entry} {rest : List Entry} (h : Stacked s)
    (hroot : s.root = a :: rest) : Stacked { s with root := rest } := by
  have hsublist : (rest ++ s.nested).Sublist (s.root ++ s.nested) := by
    rw [hroot]
    exact List.sublist_cons_self _ _
  have howns : ∀ id y, s.Owns id y → Owns { s with root := rest } id y := by
    intro id y howns
    refine ⟨howns.1, fun b hb => howns.2.1 b ?_, howns.2.2⟩
    rw [hroot]
    exact List.mem_cons_of_mem a hb
  have hstack := h.root
  rw [hroot, List.map_cons] at hstack
  exact ⟨hstack.tail, h.nested, fun b hb => h.fresh b (hsublist.subset hb),
    (hsublist.map Entry.id).nodup h.distinct, fun q hq => howns _ _ (h.subscriptions q hq),
    fun id hid => howns _ _ (h.signIns id hid), h.dialogs⟩

/-- A pop of the nested one. -/
theorem stacked_popNested {a : Entry} {rest : List Entry} (h : Stacked s)
    (hnested : s.nested = a :: rest) : Stacked { s with nested := rest } := by
  have hsublist : (s.root ++ rest).Sublist (s.root ++ s.nested) := by
    rw [hnested]
    exact (List.sublist_cons_self _ _).append_left s.root
  have howns : ∀ id y, s.Owns id y → Owns { s with nested := rest } id y := by
    intro id y howns
    refine ⟨howns.1, howns.2.1, fun b hb => howns.2.2 b ?_⟩
    rw [hnested]
    exact List.mem_cons_of_mem a hb
  have hstack := h.nested
  rw [hnested, List.map_cons] at hstack
  refine ⟨h.root, hstack.tail, fun b hb => h.fresh b (hsublist.subset hb),
    (hsublist.map Entry.id).nodup h.distinct, fun q hq => howns _ _ (h.subscriptions q hq),
    fun id hid => howns _ _ (h.signIns id hid), ?_⟩
  have hd := h.dialogs
  simp only [App.dialogs, hnested, List.map_cons, List.countP_cons] at hd ⊢
  omega

/-- The back button pops one of the two, or nothing. -/
theorem stacked_back (h : Stacked s) : Stacked s.back := by
  unfold back
  split
  · rename_i hroot
    exact stacked_popRoot h hroot
  · rename_i hnested
    split_ifs
    · exact h
    · exact stacked_popNested h hnested
  · exact h

/-- The button of a dialog pops the dialog. -/
theorem stacked_update (h : Stacked s) : Stacked s.update := by
  unfold update
  split
  · rename_i hnested
    split_ifs
    · exact stacked_popNested h hnested
    · exact h
  · exact h

/-- A new process starts on the home, and nothing waits. -/
theorem stacked_launch (m : Option RemoteMessage) (s : App) : Stacked (s.launch m) where
  root := .home
  nested := .home
  fresh := fun _ ha => absurd ha List.not_mem_nil
  distinct := List.nodup_nil
  subscriptions := fun _ hq => absurd hq List.not_mem_nil
  signIns := fun _ hid => absurd hid List.not_mem_nil
  dialogs := le_rfl

/-- Every step keeps the invariant, event by event. -/
theorem stacked_step (lower : String → String) (s : App) (e : Event) (h : Stacked s) :
    Stacked (s.step lower e) := by
  cases e with
  | launch m => exact stacked_launch m s
  | initialMessage =>
      exact stacked_interact _ (h.congr rfl rfl rfl h.subscriptions h.signIns le_rfl le_rfl)
  | foreground m => exact stacked_interact (s.message (.foreground m)) h
  | background m => exact stacked_interact (s.message (.background m)) h
  | configRead value => exact stacked_configRead value h
  | remoteChecked currentVersion configupdate =>
      exact stacked_remoteChecked currentVersion configupdate h
  | language l => exact stacked_language l h
  | login username pass => exact stacked_login username pass h
  | tile area i => exact stacked_tile area i h
  | row contact => exact stacked_row contact h
  | listener i => exact stacked_listener i h
  | notes => exact stacked_notes h
  | signedIn i => exact stacked_signedIn i h
  | update => exact stacked_update h
  | back => exact stacked_back h

end

/-- In every state of every run, over any number of launches, the stacks have
    their shape. -/
theorem stacked_always (lower : String → String) (es : List Event) :
    Run.Always (step lower) Stacked start es :=
  Run.always_of_step (step lower) Stacked Stacked (stacked_step lower) (fun _ h => h) es start
    (stacked_launch none _)

/-! ## The way home -/

section

variable (lower : String → String)

/-- The back button stops where it changes nothing. -/
theorem run_back_of_fixed {s : App} (h : s.back = s) (n : Nat) :
    Run.run (step lower) s (List.replicate n .back) = s := by
  induction n with
  | zero => rfl
  | succ n ih =>
      rw [List.replicate_succ, Run.run_cons, step, h]
      exact ih

/-- Pressed often enough, the back button empties the root navigator, and the
    nested one down to the topmost dialog of start-up. By induction on the
    presses, with one case for what the next of them finds. -/
theorem run_back (s : App) (n : Nat) (hn : s.root.length + s.nested.length ≤ n) :
    Run.run (step lower) s (List.replicate n .back) =
      { s with root := [], nested := s.nested.dropWhile fun a => !a.screen.isBlocking } := by
  induction n generalizing s with
  | zero =>
      have hroot : s.root = [] := List.eq_nil_of_length_eq_zero (by omega)
      have hnested : s.nested = [] := List.eq_nil_of_length_eq_zero (by omega)
      cases s
      simp only at hroot hnested
      subst hroot hnested
      rfl
  | succ n ih =>
      rcases hroot : s.root with _ | ⟨a, rest⟩
      · rcases hnested : s.nested with _ | ⟨a, rest⟩
        · -- This is the home.
          have hfixed : s.back = s := by
            rw [back, hroot, hnested]
          rw [run_back_of_fixed lower hfixed, List.dropWhile_nil]
          cases s
          simp only at hroot hnested
          rw [hroot, hnested]
        · rcases hblocking : a.screen.isBlocking with _ | _
          · have hback : s.back = { s with nested := rest } := by
              rw [back, hroot, hnested]
              simp only [hblocking, Bool.false_eq_true, if_false]
            rw [List.replicate_succ, Run.run_cons, step, hback, ih]
            · simp only [List.dropWhile_cons, hblocking, Bool.not_false, if_true]
            · rw [hroot, hnested, List.length_nil, List.length_cons] at hn
              simp only [hroot, List.length_nil]
              omega
          · -- The back button does not close the dialog.
            have hfixed : s.back = s := by
              rw [back, hroot, hnested]
              simp only [hblocking, if_true]
            rw [run_back_of_fixed lower hfixed]
            simp only [List.dropWhile_cons, hblocking, Bool.not_true, Bool.false_eq_true, if_false]
            cases s
            simp only at hroot hnested
            rw [hroot, hnested]
      · have hback : s.back = { s with root := rest } := by
          rw [back, hroot]
        rw [List.replicate_succ, Run.run_cons, step, hback, ih]
        rw [hroot, List.length_cons] at hn
        simp only
        omega

/-- A dialog of start-up outlasts the back button. -/
theorem dialog_back {s : App} {a : Entry} (ha : a.screen.isBlocking = true)
    (hmem : a ∈ s.nested) : a ∈ s.back.nested := by
  unfold back
  split
  · exact hmem
  · rename_i b rest hroot hnested
    split_ifs with hblocking
    · exact hmem
    · rw [hnested] at hmem
      rcases List.mem_cons.mp hmem with rfl | hmem
      · exact absurd ha hblocking
      · exact hmem
  · exact hmem

/-- The back button leads home from every state in which no dialog of start-up
    is on the nested navigator, and from no other. -/
theorem home_iff (s : App) :
    (∃ n, (Run.run (step lower) s (List.replicate n .back)).top = none) ↔
      ∀ a ∈ s.nested, a.screen.isBlocking = false := by
  constructor
  · intro h a ha
    rcases h with ⟨n, hn⟩
    by_contra hblocking
    have hstays : ∀ n s, a ∈ s.nested →
        a ∈ (Run.run (step lower) s (List.replicate n .back)).nested := by
      intro n
      induction n with
      | zero => exact fun s hmem => hmem
      | succ n ih =>
          intro s hmem
          rw [List.replicate_succ, Run.run_cons]
          exact ih _ (dialog_back (Bool.eq_true_of_not_eq_false hblocking) hmem)
    have hmem := hstays n s ha
    rw [(stacks_of_top_none hn).2] at hmem
    exact absurd hmem List.not_mem_nil
  · intro h
    refine ⟨s.root.length + s.nested.length, ?_⟩
    rw [run_back lower s _ le_rfl, top, List.dropWhile_eq_nil_iff.mpr]
    · rfl
    · intro a ha
      rw [h a ha, Bool.not_false]

/-- What a user does to get from anywhere to a tile in a locale: back to the
    home, the language, the login if it asks for one, and the tile. -/
def wayTo (s : App) (l : Locale) (username pass : String) (area : Categories.Area) (i : Nat) :
    List Event :=
  List.replicate (s.root.length + s.nested.length) .back ++
    (.language l :: if s.validated then [.tile area i] else [.login username pass, .tile area i])

/-- A `Categories` page with the labels of a locale is on top, and nothing is
    on the root navigator. -/
structure OnCategories (l : Locale) (s : App) (id : Nat) : Prop where
  root : s.root = []
  top : s.top = some ⟨id, .categories⟩
  tiles : s.tiles id = Categories.labels l

/-- A `Categories` page that is pushed captures the labels of the locale. -/
theorem onCategories_push {s : App} {l : Locale} (hroot : s.root = []) (hlocale : s.locale = l) :
    OnCategories l (s.pushNested .categories) s.nextId := by
  refine ⟨hroot, ?_, ?_⟩
  · simp only [top, pushNested, hroot, List.nil_append, List.head?_cons]
  · simp only [pushNested, hlocale, Function.update_self]

/-- With the password a language button opens `Categories` at once. -/
theorem onCategories_language {s : App} (l : Locale) (hroot : s.root = []) (htop : s.top = none)
    (hvalid : s.validated) : OnCategories l (s.step lower (.language l)) s.nextId := by
  have hvalid' : (updateLocale l
      { s with storage := { s.storage with lang := some (langOf l) } }).validated := hvalid
  rw [step, language, htop]
  simp only [getvalidation, if_pos hvalid']
  exact onCategories_push hroot rfl

/-- Without the password a language button opens the login first. -/
theorem top_language {s : App} (l : Locale) (hroot : s.root = []) (htop : s.top = none)
    (hvalid : ¬ s.validated) :
    (s.step lower (.language l)).root = [] ∧ (s.step lower (.language l)).locale = l ∧
      (s.step lower (.language l)).top = some ⟨s.nextId, .login⟩ := by
  have hvalid' : ¬ (updateLocale l
      { s with storage := { s.storage with lang := some (langOf l) } }).validated := hvalid
  rw [step, language, htop]
  simp only [getvalidation, if_neg hvalid']
  refine ⟨hroot, rfl, ?_⟩
  simp only [top, pushNested, updateLocale, hroot, List.nil_append, List.head?_cons]

/-- A matching login opens `Categories`. -/
theorem onCategories_login {s : App} {l : Locale} {id : Nat} {username pass : String}
    (hroot : s.root = []) (hlocale : s.locale = l) (htop : s.top = some ⟨id, .login⟩)
    (hlogin : matchesLogin lower (username, pass)) :
    OnCategories l (s.step lower (.login username pass)) s.nextId := by
  rw [step, login, htop]
  simp only [if_pos hlogin]
  exact onCategories_push hroot hlocale

/-- From there a tile opens its page. -/
theorem top_tile {s : App} {l : Locale} {id i : Nat} {area : Categories.Area} {gridname : String}
    {page : OffersPage} (h : OnCategories l s id)
    (hname : (Categories.labels l)[i]? = some gridname)
    (hpage : (Categories.myGrid area gridname).2 = .to page) :
    (s.step lower (.tile area i)).top = some ⟨s.nextId, .offers page⟩ := by
  rw [← h.tiles] at hname
  simp only [step, tile, h.top, hname, tapTile, hpage]
  rw [getTo, isCurrent_eq]
  simp only [h.root, List.map_nil, currentClass, List.find?_nil, reduceCtorEq, decide_false,
    Bool.false_eq_true, if_false]
  rfl

/-- In either locale, a user who knows the password gets from every state
    without a dialog of start-up to the page of every tile but one: that of
    Baraka Mall has no page, and a tap on it only listens. -/
theorem tile_opens_again (s : App) (l : Locale) (username pass : String)
    (area : Categories.Area) (i : Nat) (gridname : String)
    (hdialog : ∀ a ∈ s.nested, a.screen.isBlocking = false)
    (hlogin : matchesLogin lower (username, pass))
    (hname : (Categories.labels l)[i]? = some gridname)
    (hmall : gridname ≠ tr l "barakamall") :
    ∃ page, (Categories.myGrid area gridname).2 = .to page ∧
      ∃ id, (Run.run (step lower) s (s.wayTo l username pass area i)).top
        = some ⟨id, .offers page⟩ := by
  rcases Categories.labels_opens area (List.mem_of_getElem? hname) hmall with ⟨page, hpage⟩
  refine ⟨page, hpage, ?_⟩
  have hnil : s.nested.dropWhile (fun a => !a.screen.isBlocking) = [] := by
    refine List.dropWhile_eq_nil_iff.mpr fun a ha => ?_
    rw [hdialog a ha]
    rfl
  have hhome := run_back lower s _ le_rfl
  rw [hnil] at hhome
  rw [wayTo, Run.run_append, hhome]
  -- From the home, with the password stored already or without it.
  split_ifs with hvalid
  · rw [Run.run_cons, Run.run_cons, Run.run_nil]
    exact ⟨_, top_tile lower (onCategories_language lower l rfl rfl hvalid) hname hpage⟩
  · rw [Run.run_cons, Run.run_cons, Run.run_cons, Run.run_nil]
    rcases top_language lower (s := { s with root := [], nested := [] }) l rfl rfl hvalid with
      ⟨hroot, hlocale, htop⟩
    exact ⟨_, top_tile lower (onCategories_login lower hroot hlocale htop hlogin) hname hpage⟩

/-- The first tile of the English page, from the start. -/
theorem tile_opens_again_hotels :
    ∃ page, (Categories.myGrid .label "Hotels").2 = .to page ∧
      ∃ id, (Run.run (step String.toLower) start
          (start.wayTo .enUS "jkb" "jkb1976" .label 0)).top
        = some ⟨id, .offers page⟩ :=
  tile_opens_again String.toLower start .enUS "jkb" "jkb1976" .label 0 "Hotels"
    (fun _ ha => absurd ha List.not_mem_nil) ⟨by decide +kernel, by decide +kernel⟩ (by decide)
    (by decide)

end

end App

end JkbEmpOffers
