import JkbEmpOffers.Categories
import JkbEmpOffers.Notifications

/-!
# The App as a Whole

The app is a `GetMaterialApp` whose home is a second `MaterialApp`, so there
are two navigators. Pages opened with `Get.to` go on the root navigator, and
so does whatever an offers page pushes. The pages pushed from `MyHomePage`,
its dialogs and what is pushed from those pages go on the nested one, below
all of that. A stack lists its screens from the top; the home of either
navigator is not listed.

`App` is the state of one launch together with what outlives it, the
`GetStorage`. Its events are what can happen: a launch, a result that
arrives, a tap. An event that cannot happen in a state, such as a button of a
page that is covered, leaves it as it is. One tap is left out: on a cell of a
grid of images, it opens that image over the grid.

Four assumptions are about the packages. `Get.updateLocale` rebuilds every
page, so a `Categories` page captures its labels anew. `Get.to` does nothing
when the topmost page of the root navigator is already of the same class
(`preventDuplicates`); dialogs are not pages in this sense. A pushed page
needs the page that pushes it to be mounted. The dialogs of `awesome_dialog`
are on the navigator of their context, and those configured so are dismissed
neither by the back button nor by a tap outside.

How `toLowerCase` treats letters is a parameter `lower`.

## Main definitions

* `Popup`, `Screen`, `Entry`: What is on the stacks.
* `App`, `App.start`: The state, and the first launch.
* `Event`, `step`: What can happen, but for a tap inside a grid of images.
* `message`: The message whose `handleMessage` an event runs.
* `Shows`: A screen is on one of the stacks.

## Theorems

* `shows_pushRoot`, `shows_pushNested`: What a push adds to the stacks.
-/

namespace JkbEmpOffers

/-- The dialog that start-up shows: its texts, and the text of its button if
    it has one. -/
structure BlockingDialog where
  title : Option String
  desc : String
  btnCancelText : Option String
  deriving DecidableEq

/-- What a listener opens: `ImageBui` or `GridImageList`, or the dialog of a
    contact button. -/
inductive Popup where
  | viewer
  | dialog
  deriving DecidableEq, Repr

/-- What a navigator can show over its home. -/
inductive Screen where
  | login
  | categories
  | offers (page : OffersPage)
  | notes
  | popup (popup : Popup)
  | blocking (dialog : BlockingDialog)
  deriving DecidableEq

namespace Screen

/-- Whether the route is a `PageRoute`. -/
def isPage : Screen → Bool
  | .popup .dialog | .blocking _ => false
  | _ => true

/-- Whether it is a dialog of start-up. -/
def isBlocking : Screen → Bool
  | .blocking _ => true
  | _ => false

end Screen

/-- A route of a stack. -/
structure Entry where
  id : Nat
  screen : Screen
  deriving DecidableEq

/-- What `GetStorage` holds. -/
structure Storage where
  lang : Option String
  password : Option String
  deriving DecidableEq

/-- The app. -/
structure App where
  storage : Storage
  locale : Locale
  /-- The root navigator, over `MyApp`. -/
  root : List Entry
  /-- The navigator inside `MyApp`, over `MyHomePage`. -/
  nested : List Entry
  nextId : Nat
  /-- The names that the tiles of a `Categories` page have captured. -/
  tiles : Nat → List String
  /-- The answer of `getInitialMessage`, until it arrives. Only then does
      `onMessageOpenedApp` get its listener. -/
  initialMessage : Option (Option RemoteMessage)
  /-- Whether the read of the `Config` document is still pending. -/
  configPending : Bool
  /-- Whether the remote-config check is. -/
  remotePending : Bool
  /-- The pages that wait for a sign-in before they push `Notes`. -/
  signIns : List Nat
  /-- The subscriptions that taps have left behind: the page that listens and
      what its listener opens. -/
  subscriptions : List (Nat × Popup)
  /-- The usernames and passwords that the sign-in button was pressed with,
      in this launch and before. -/
  attempts : List (String × String)
  /-- What this launch has shown, in order. -/
  log : List Screen

/-- What can happen, but for a tap on a cell of a grid of images. -/
inductive Event where
  /-- A launch, from a notification or not. -/
  | launch (message : Option RemoteMessage)
  /-- `getInitialMessage` completes. -/
  | initialMessage
  /-- The read of the `Config` document completes with its data. -/
  | configRead (value : DartMap)
  /-- The remote-config check comes to its comparison, or throws. -/
  | remoteChecked (currentVersion : Int) (configupdate : Option Int)
  /-- A language button. -/
  | language (l : Locale)
  /-- The sign-in button. -/
  | login (username pass : String)
  | tile (area : Categories.Area) (i : Nat)
  /-- A button of a row of an offers page: one that shows images, or a
      contact button. -/
  | row (contact : Bool)
  /-- A listener opens what it opens. -/
  | listener (i : Nat)
  /-- The button that opens `Notes`. -/
  | notes
  /-- A sign-in completes. -/
  | signedIn (i : Nat)
  /-- A tap on a notification while the app is in the foreground. -/
  | foreground (message : RemoteMessage)
  /-- A tap on a notification while the app is in the background. -/
  | background (message : RemoteMessage)
  /-- The button of a start-up dialog. -/
  | update
  | back
  deriving DecidableEq

namespace App

/-- The route that is on top, if it is not the home. -/
def top (s : App) : Option Entry :=
  (s.root ++ s.nested).head?

/-- A launch over what is stored. -/
def launch (message : Option RemoteMessage) (s : App) : App :=
  { s with
    locale := .enUS, root := [], nested := [], initialMessage := some message
    configPending := true, remotePending := true, signIns := [], subscriptions := [], log := [] }

/-- The first launch, with nothing stored. -/
def start : App :=
  launch none
    { storage := ⟨none, none⟩, locale := .enUS, root := [], nested := [], nextId := 0
      tiles := fun _ => [], initialMessage := none, configPending := false, remotePending := false
      signIns := [], subscriptions := [], attempts := [], log := [] }

/-- A push on the root navigator. -/
def pushRoot (x : Screen) (s : App) : App :=
  { s with root := ⟨s.nextId, x⟩ :: s.root, nextId := s.nextId + 1, log := s.log ++ [x] }

/-- A push on the nested navigator; a `Categories` page captures its labels
    when it is built. -/
def pushNested (x : Screen) (s : App) : App :=
  { s with
    nested := ⟨s.nextId, x⟩ :: s.nested, nextId := s.nextId + 1, log := s.log ++ [x]
    tiles := Function.update s.tiles s.nextId (Categories.labels s.locale) }

/-- A push with the context of a page, on the navigator that the page is on.
    Without its page it throws. -/
def pushBeside (id : Nat) (x : Screen) (s : App) : App :=
  if id ∈ s.root.map Entry.id then s.pushRoot x
  else if id ∈ s.nested.map Entry.id then s.pushNested x
  else s

/-- `Get.updateLocale` -/
def updateLocale (l : Locale) (s : App) : App :=
  { s with locale := l, tiles := fun _ => Categories.labels l }

/-- Whether the topmost page of the root navigator is of the page's class. -/
def isCurrent (page : OffersPage) (s : App) : Bool :=
  match (s.root.map Entry.screen).find? Screen.isPage with
  | some (.offers current) => current.page == page.page
  | _ => false

/-- `Get.to` -/
def getTo (page : OffersPage) (s : App) : App :=
  if s.isCurrent page then s else s.pushRoot (.offers page)

/-- `NotificationServices.handleMessage` -/
def handleMessage (message : RemoteMessage) (s : App) : App :=
  match NotificationServices.handleMessage message with
  | some page => (s.updateLocale .enUS).getTo page
  | none => s

/-- The check of `getvalidation`. -/
def validated (s : App) : Prop :=
  s.storage.password = some "jkb1976"

instance (s : App) : Decidable s.validated :=
  inferInstanceAs (Decidable (s.storage.password = some "jkb1976"))

/-- `getvalidation` -/
def getvalidation (s : App) : App :=
  if s.validated then s.pushNested .categories else s.pushNested .login

/-- What a language button writes. -/
def langOf : Locale → String
  | .enUS => "en"
  | .arJO => "ar"

/-- `onPressed` of a language button, which is on the home. -/
def language (l : Locale) (s : App) : App :=
  match s.top with
  | none =>
    (updateLocale l { s with storage := { s.storage with lang := some (langOf l) } }).getvalidation
  | some _ => s

/-- The check of the sign-in button. -/
def matchesLogin (lower : String → String) (attempt : String × String) : Prop :=
  lower attempt.1 = "jkb" ∧ lower attempt.2 = "jkb1976"

instance (lower : String → String) (attempt : String × String) :
    Decidable (matchesLogin lower attempt) :=
  inferInstanceAs (Decidable (lower attempt.1 = "jkb" ∧ lower attempt.2 = "jkb1976"))

/-- `onTap` of the sign-in button. -/
def login (lower : String → String) (username pass : String) (s : App) : App :=
  match s.top with
  | some ⟨_, .login⟩ =>
    let s := { s with attempts := s.attempts ++ [(username, pass)] }
    if matchesLogin lower (username, pass) then
      pushNested .categories { s with storage := { s.storage with password := some "jkb1976" } }
    else s
  | _ => s

/-- `onTap` of a tile, with the name it has captured. -/
def tapTile (area : Categories.Area) (id i : Nat) (gridname : String) (s : App) : App :=
  let s' := { s with
    tiles := Function.update s.tiles id ((s.tiles id).set i (Categories.myGrid area gridname).1) }
  match (Categories.myGrid area gridname).2 with
  | .to page => s'.getTo page
  | .listen => { s' with subscriptions := s.subscriptions ++ [(id, .viewer)] }
  | .nothing => s'

/-- A tap on a tile of the `Categories` page, if it is on top. -/
def tile (area : Categories.Area) (i : Nat) (s : App) : App :=
  match s.top with
  | some ⟨id, .categories⟩ =>
    match (s.tiles id)[i]? with
    | some gridname => s.tapTile area id i gridname
    | none => s
  | _ => s

/-- A button of a row leaves a subscription behind. -/
def row (contact : Bool) (s : App) : App :=
  match s.top with
  | some ⟨id, .offers _⟩ =>
    { s with subscriptions := s.subscriptions ++ [(id, if contact then .dialog else .viewer)] }
  | _ => s

/-- A listener opens an image page or a dialog with the context of its
    page. -/
def listener (i : Nat) (s : App) : App :=
  match s.subscriptions[i]? with
  | some (id, popup) => s.pushBeside id (.popup popup)
  | none => s

/-- The button that opens `Notes`, which signs in first. -/
def notes (s : App) : App :=
  match s.top with
  | some ⟨id, .categories⟩ | some ⟨id, .offers _⟩ => { s with signIns := s.signIns ++ [id] }
  | _ => s

/-- The sign-in completes. -/
def signedIn (i : Nat) (s : App) : App :=
  match s.signIns[i]? with
  | some id => pushBeside id .notes { s with signIns := s.signIns.eraseIdx i }
  | none => s

/-- `value.get(name)`, where a document that does not exist has no field. -/
def get (value : DartMap) (name : String) : Except DartError Value :=
  match value.lookup name with
  | some v => .ok v
  | none => .error (.stateError ("field does not exist: " ++ name))

/-- The update dialog, of `initState` as well as of `_showVersionDialog`. -/
def showVersionDialog (l : Locale) : BlockingDialog :=
  { title := some (tr l "newupdatetitle"), desc := tr l "newupdatedesc"
    btnCancelText := some (tr l "updatebtn") }

/-- The dialog that the `Config` document asks for, if any. -/
def configDialog (l : Locale) (value : DartMap) : Except DartError (Option BlockingDialog) := do
  let down ← (← get value "Down").asString
  let update ← (← get value "Update").asString
  let downtext ← (← get value "DownText").asString
  if down = "on" then return some { title := none, desc := downtext, btnCancelText := none }
  else if update = "on" then return some (showVersionDialog l)
  else return none

/-- The callback of the `Config` read. An error in it is not caught and shows
    nothing. -/
def configRead (value : DartMap) (s : App) : App :=
  if s.configPending then
    match configDialog s.locale value with
    | .ok (some d) => pushNested (.blocking d) { s with configPending := false }
    | _ => { s with configPending := false }
  else s

/-- `remoteConfigFirebase`, from `fetchAndActivate` on. -/
def remoteChecked (currentVersion : Int) (configupdate : Option Int) (s : App) : App :=
  if s.remotePending then
    match configupdate with
    | some n =>
      if currentVersion < n then
        pushNested (.blocking (showVersionDialog s.locale)) { s with remotePending := false }
      else { s with remotePending := false }
    | none => { s with remotePending := false }
  else s

/-- The button of a dialog on top closes it. -/
def update (s : App) : App :=
  match s.root, s.nested with
  | [], ⟨_, .blocking d⟩ :: rest => if d.btnCancelText.isSome then { s with nested := rest } else s
  | _, _ => s

/-- The back button. -/
def back (s : App) : App :=
  match s.root, s.nested with
  | _ :: rest, _ => { s with root := rest }
  | [], e :: rest => if e.screen.isBlocking then s else { s with nested := rest }
  | [], [] => s

/-- The message whose `handleMessage` an event runs. -/
def message (s : App) : Event → Option RemoteMessage
  | .initialMessage => s.initialMessage.join
  | .foreground m => some m
  | .background m => if s.initialMessage = none then some m else none
  | _ => none

/-- Running `handleMessage` if there is a message. -/
def interact (m : Option RemoteMessage) (s : App) : App :=
  match m with
  | some m => s.handleMessage m
  | none => s

/-- One event. -/
def step (lower : String → String) (s : App) (e : Event) : App :=
  match e with
  | .launch m => s.launch m
  | .initialMessage => interact (s.message e) { s with initialMessage := none }
  | .configRead value => s.configRead value
  | .remoteChecked currentVersion configupdate => s.remoteChecked currentVersion configupdate
  | .language l => s.language l
  | .login username pass => s.login lower username pass
  | .tile area i => s.tile area i
  | .row contact => s.row contact
  | .listener i => s.listener i
  | .notes => s.notes
  | .signedIn i => s.signedIn i
  | .foreground _ | .background _ => interact (s.message e) s
  | .update => s.update
  | .back => s.back

/-- A screen is on one of the stacks. -/
def Shows (s : App) (x : Screen) : Prop :=
  x ∈ (s.root ++ s.nested).map Entry.screen

instance (s : App) (x : Screen) : Decidable (s.Shows x) :=
  inferInstanceAs (Decidable (x ∈ (s.root ++ s.nested).map Entry.screen))

/-- What is on top is on a stack. -/
theorem shows_top {s : App} {e : Entry} (h : s.top = some e) : s.Shows e.screen :=
  List.mem_map_of_mem (List.mem_of_mem_head? h)

@[simp] theorem shows_pushRoot (x y : Screen) (s : App) :
    (s.pushRoot x).Shows y ↔ y = x ∨ s.Shows y := by
  simp only [Shows, pushRoot, List.cons_append, List.map_cons, List.mem_cons]

@[simp] theorem shows_pushNested (x y : Screen) (s : App) :
    (s.pushNested x).Shows y ↔ y = x ∨ s.Shows y := by
  simp only [Shows, pushNested, List.map_append, List.map_cons, List.mem_append, List.mem_cons]
  tauto

end App

end JkbEmpOffers
