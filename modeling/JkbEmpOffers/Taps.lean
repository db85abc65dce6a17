import JkbEmpOffers.Buttons
import JkbEmpOffers.Library.Log
import JkbEmpOffers.Library.Run

/-!
# What a Tap Leaves Behind

The buttons of a row and the Baraka Mall tile ask Firestore for the matching
documents with `snapshots().listen`, and the listener opens what it finds. No
one ever cancels the subscription. It delivers the result of its query once,
and again after every change to it; and each delivery is handled document by
document as if the button had just been pressed.

What the listener can still do depends on its context. The image pages of a
row are pushed with the context of the list the row was in, which goes when
the page is built again, because that starts a new stream and shows the
spinner in place of the list. The Baraka Mall pages and the dialogs are
pushed with the context of their page's state. Without the context the push
throws inside the handler's `try`. A call that is dialled directly needs no
context: in a release build `setState` runs its function first, and then
builds the page again if it is still there.

The dialogs and image pages themselves have no listeners, so `popups` only
remembers them until they are popped. Which of the mounted pages is on top
is left open: a tap may be made on any of them.

## Main definitions

* `Page`, `Subscription`, `World`: The state.
* `Event`, `step`: Taps, writes, deliveries, pops and rebuilds.
* `answer`: What a listener does with a document.
* `OneAnswer`: Everything opened answers a tap, and no tap is answered twice.
* `Finds`: A document has something to open for a listener.
* `Sparing`: The condition on a step.

## Theorems

* `answer_isSome`: A listener answers the documents it finds something in.
* `inv_step`: Every subscription belongs to a tap that was made.
* `oneAnswer_step`: The steps that keep `OneAnswer`.
* `oneAnswer_iff`: The runs that do.
* `edit_opens_again`: A run that does not.
-/

namespace JkbEmpOffers

namespace Taps

/-- The pages that have the buttons. -/
inductive PageKind where
  | categories
  | list (w : OffersPage)
  deriving DecidableEq

/-- A mounted page. -/
structure Page where
  id : Nat
  kind : PageKind
  /-- How often it has been built again: the list that it shows now. -/
  list : Nat
  deriving DecidableEq

/-- A subscription that a tap has left behind. -/
structure Subscription where
  tap : Nat
  handler : Handler
  /-- The title of the image pages. -/
  name : String
  query : Lookup
  /-- The page whose state the listener closes over. -/
  page : Nat
  /-- The list whose context it closes over. -/
  list : Nat
  /-- The snapshots that have not been delivered yet. -/
  queue : List (List Doc)
  deriving DecidableEq

/-- The app and the database. -/
structure World where
  store : Store
  locale : Locale
  pages : List Page
  nextPage : Nat
  /-- How many taps have been made. -/
  taps : Nat
  subscriptions : List Subscription
  /-- The dialogs and image pages that are open. -/
  popups : List Effect
  /-- Everything the listeners have done, each with its tap. -/
  log : List (Nat × Effect)

/-- Nothing is open. -/
def World.start (store : Store) : World :=
  { store, locale := .enUS, pages := [], nextPage := 0, taps := 0, subscriptions := []
    popups := [], log := [] }

/-- What can happen. -/
inductive Event where
  | openPage (kind : PageKind)
  /-- A tap on a button of a row, or on the tile; the name is the row's. -/
  | tap (page : Nat) (handler : Handler) (row : String)
  /-- A document is created or overwritten. -/
  | write (collection : String) (d : Doc)
  /-- A subscription delivers its next snapshot. -/
  | deliver (i : Nat)
  | popPage (page : Nat)
  | popPopup
  /-- A page is built again: its search text changes, or a button of a dialog
      is pressed. -/
  | rebuild (page : Nat)
  /-- `Get.updateLocale` -/
  | updateLocale (l : Locale)
  deriving DecidableEq

/-- Whether a page has the button. -/
def has : PageKind → Handler → Bool
  | .list w, .viewer (.offers page) => w.page == page
  | .list w, .viewer .menu => w.page == .resCafeOffersList
  | .categories, .viewer (.barakaMall _) => true
  | .list w, .contact (.call page) => w.page == page
  | .list w, .contact (.branches page) => w.page == page
  | _, _ => false

/-- The question a tap asks. -/
def question (row : String) : PageKind → Lookup
  | .categories => ⟨"Baraka Mall", none⟩
  | .list w => ⟨w.args.name, some (.isEqualTo w.args.nametype row)⟩

/-- The title of the image pages. -/
def title (row : String) : PageKind → String
  | .categories => "Baraka Mall"
  | .list _ => row

/-- `setState` on a page: it is built again. -/
def setState (page : Nat) (s : World) : World :=
  { s with pages := s.pages.map fun p => if p.id = page then { p with list := p.list + 1 } else p }

/-- `snapshots().listen`: the result as it is now is the first snapshot. -/
def listen (page : Page) (handler : Handler) (row : String) (s : World) : World :=
  { s with
    taps := s.taps + 1
    subscriptions := s.subscriptions ++ [
      { tap := s.taps, handler, name := title row page.kind, query := question row page.kind
        page := page.id, list := page.list, queue := [(question row page.kind).run s.store] }] }

/-- A tap, if the page is mounted and has the button. -/
def tap (page : Nat) (handler : Handler) (row : String) (s : World) : World :=
  match s.pages.find? fun p => p.id == page && has p.kind handler with
  | some p => listen p handler row s
  | none => s

/-- A subscription whose result has changed owes one more snapshot. -/
def notify (before after : Store) (sub : Subscription) : Subscription :=
  if sub.query.run after = sub.query.run before then sub
  else { sub with queue := sub.queue ++ [sub.query.run after] }

/-- A write to a collection. -/
def write (collection : String) (d : Doc) (s : World) : World :=
  let store := Function.update s.store collection ((s.store collection).put d)
  { s with store, subscriptions := s.subscriptions.map (notify s.store store) }

/-- The state of the listener's page is mounted. -/
def Mounted (s : World) (sub : Subscription) : Prop :=
  ∃ p ∈ s.pages, p.id = sub.page

/-- So is the list that the row was in. -/
def ListMounted (s : World) (sub : Subscription) : Prop :=
  ∃ p ∈ s.pages, p.id = sub.page ∧ p.list = sub.list

instance (s : World) (sub : Subscription) : Decidable (Mounted s sub) :=
  inferInstanceAs (Decidable (∃ p ∈ s.pages, p.id = sub.page))

instance (s : World) (sub : Subscription) : Decidable (ListMounted s sub) :=
  inferInstanceAs (Decidable (∃ p ∈ s.pages, p.id = sub.page ∧ p.list = sub.list))

/-- Whether a handler pushes with the context of the row's list. -/
def usesList : Handler → Bool
  | .viewer (.barakaMall _) => false
  | .viewer _ => true
  | .contact _ => false

/-- The context that a listener pushes with is mounted. -/
def InContext (s : World) (sub : Subscription) : Prop :=
  if usesList sub.handler then ListMounted s sub else Mounted s sub

instance (s : World) (sub : Subscription) : Decidable (InContext s sub) :=
  inferInstanceAs (Decidable (if usesList sub.handler then ListMounted s sub else Mounted s sub))

/-- What a listener does with a document: a call needs no context. -/
def answer (s : World) (sub : Subscription) (d : Doc) : Option Effect :=
  (sub.handler.respond s.locale sub.name d).filter fun e => e.isAct || decide (InContext s sub)

/-- The listener of a subscription handles a snapshot. -/
def handle (sub : Subscription) (docs : List Doc) (s : World) : World :=
  let effects := docs.filterMap (answer s sub)
  let s' := { s with
    popups := (effects.filter fun e => !e.isAct).reverse ++ s.popups
    log := s.log ++ effects.map fun e => (sub.tap, e) }
  -- `_makePhoneCall` is called inside `setState`.
  if effects.any Effect.isAct then setState sub.page s' else s'

/-- A delivery of the next snapshot of a subscription. -/
def deliver (i : Nat) (s : World) : World :=
  match s.subscriptions[i]? with
  | some sub =>
    match sub.queue with
    | docs :: rest =>
      -- The subscription is not cancelled and waits for the next change.
      handle sub docs { s with subscriptions := s.subscriptions.set i { sub with queue := rest } }
    | [] => s
  | none => s

/-- One event. -/
def step (s : World) : Event → World
  | .openPage kind =>
    { s with pages := ⟨s.nextPage, kind, 0⟩ :: s.pages, nextPage := s.nextPage + 1 }
  | .tap page handler row => tap page handler row s
  | .write collection d => write collection d s
  | .deliver i => deliver i s
  | .popPage page => { s with pages := s.pages.filter fun p => p.id != page }
  | .popPopup => { s with popups := s.popups.tail }
  | .rebuild page => setState page s
  | .updateLocale l =>
    { s with locale := l, pages := s.pages.map fun p => { p with list := p.list + 1 } }

/-- Everything that was opened answers a tap that was made, and no tap is
    answered twice. -/
def OneAnswer (s : World) : Prop :=
  (∀ a ∈ s.log, a.1 < s.taps) ∧ Log.AtMostOnce s.log

instance : DecidablePred OneAnswer := fun s =>
  inferInstanceAs (Decidable ((∀ a ∈ s.log, a.1 < s.taps) ∧ Log.AtMostOnce s.log))

/-- A document has something to open for a listener: content of a size that
    the button has a branch for, and the context to open it with, or a single
    number to dial. -/
def Finds (s : World) (sub : Subscription) (d : Doc) : Prop :=
  ∃ n ∈ sub.handler.size d, 1 ≤ n ∧ n ≤ sub.handler.bound ∧
    (sub.handler.dials n = true ∨ InContext s sub)

instance (s : World) (sub : Subscription) : DecidablePred (Finds s sub) := fun d =>
  inferInstanceAs (Decidable (∃ n ∈ sub.handler.size d, 1 ≤ n ∧ n ≤ sub.handler.bound ∧
    (sub.handler.dials n = true ∨ InContext s sub)))

/-- How many documents may have something to open: one, or none once the tap
    has been answered. -/
def allowed (s : World) (sub : Subscription) : Nat :=
  if sub.tap ∈ s.log.map Prod.fst then 0 else 1

/-- A snapshot that is delivered has at most one document with something to
    open, and none if the tap has been answered. -/
def Sparing (s : World) (e : Event) : Prop :=
  ∀ i, e = .deliver i → ∀ sub ∈ s.subscriptions[i]?, ∀ docs ∈ sub.queue.head?,
    docs.countP (fun d => Finds s sub d) ≤ allowed s sub

/-- A subscription belongs to a tap that was made. -/
def Inv (s : World) : Prop :=
  ∀ sub ∈ s.subscriptions, sub.tap < s.taps

theorem answer_isSome (s : World) (sub : Subscription) (d : Doc) :
    (answer s sub d).isSome = true ↔ Finds s sub d := by
  have hiff := respond_isSome sub.handler s.locale sub.name d
  rw [answer, Finds]
  rcases he : sub.handler.respond s.locale sub.name d with _ | e
  · rw [he] at hiff
    refine iff_of_false Bool.false_ne_true fun hfinds => ?_
    rcases hfinds with ⟨n, hn, h1, hle, -⟩
    exact absurd (hiff.mpr ⟨n, hn, h1, hle⟩) Bool.false_ne_true
  · rcases hiff.mp (by rw [he]; rfl) with ⟨n, hn, h1, hle⟩
    -- The answer passes the filter if it is a call or its context is there.
    have hact := respond_isAct sub.handler s.locale sub.name d he hn
    have hanswer : (Option.filter (fun e => e.isAct || decide (InContext s sub)) (some e)).isSome
        = true ↔ sub.handler.dials n = true ∨ InContext s sub := by
      rw [Option.filter_some, Option.isSome_ite, hact, Bool.or_eq_true, decide_eq_true_eq]
    rw [hanswer]
    constructor
    · intro h
      exact ⟨n, hn, h1, hle, h⟩
    · intro hfinds
      rcases hfinds with ⟨m, hm, -, -, h⟩
      rw [hn, Option.mem_some] at hm
      rwa [hm]

/-- How many effects a snapshot has. -/
theorem length_effects (s : World) (sub : Subscription) (docs : List Doc) :
    (docs.filterMap (answer s sub)).length = docs.countP fun d => Finds s sub d := by
  rw [List.length_filterMap_eq_countP]
  refine List.countP_congr fun d _ => ?_
  rw [answer_isSome, decide_eq_true_eq]

theorem log_handle (sub : Subscription) (docs : List Doc) (s : World) :
    (handle sub docs s).log
      = s.log ++ (docs.filterMap (answer s sub)).map fun e => (sub.tap, e) := by
  simp only [handle]
  split_ifs <;> rfl

theorem taps_handle (sub : Subscription) (docs : List Doc) (s : World) :
    (handle sub docs s).taps = s.taps := by
  simp only [handle]
  split_ifs <;> rfl

/-- A delivery keeps `OneAnswer` exactly when it opens no more than is
    allowed. -/
theorem oneAnswer_handle (sub : Subscription) (docs : List Doc) (s : World)
    (hsub : sub.tap < s.taps) (hp : OneAnswer s) :
    OneAnswer (handle sub docs s) ↔ docs.countP (fun d => Finds s sub d) ≤ allowed s sub := by
  -- Everything the delivery adds to the log has the one tap as its key.
  rw [← length_effects, OneAnswer, log_handle, taps_handle, Log.atMostOnce_append, allowed]
  constructor
  · intro h
    exact h.2.2
  · intro h
    refine ⟨fun a ha => ?_, hp.2, h⟩
    rcases List.mem_append.mp ha with ha | ha
    · exact hp.1 a ha
    · rcases List.mem_map.mp ha with ⟨e, -, rfl⟩
      exact hsub

theorem notify_tap (before after : Store) (sub : Subscription) :
    (notify before after sub).tap = sub.tap := by
  rw [notify]
  split_ifs <;> rfl

theorem subscriptions_handle (sub : Subscription) (docs : List Doc) (s : World) :
    (handle sub docs s).subscriptions = s.subscriptions := by
  simp only [handle]
  split_ifs <;> rfl

theorem inv_tap {s : World} (page : Nat) (handler : Handler) (row : String) (h : Inv s) :
    Inv (tap page handler row s) := by
  rw [tap]
  split
  · intro sub hsub
    rcases List.mem_append.mp hsub with hsub | hsub
    · exact Nat.lt_succ_of_lt (h sub hsub)
    · rw [List.mem_singleton.mp hsub]
      exact Nat.lt_succ_self s.taps
  · exact h

theorem inv_write {s : World} (collection : String) (d : Doc) (h : Inv s) :
    Inv (write collection d s) := by
  intro sub hsub
  rcases List.mem_map.mp hsub with ⟨sub', hsub', rfl⟩
  rw [notify_tap]
  exact h sub' hsub'

theorem inv_deliver {s : World} (i : Nat) (h : Inv s) : Inv (deliver i s) := by
  rw [deliver]
  split
  · rename_i sub hi
    split
    · intro sub' hsub'
      rw [subscriptions_handle] at hsub'
      rw [taps_handle]
      rcases List.mem_or_eq_of_mem_set hsub' with hmem | rfl
      · exact h sub' hmem
      · exact h sub (List.mem_of_getElem? hi)
    · exact h
  · exact h

theorem inv_step (s : World) (e : Event) (h : Inv s) : Inv (step s e) := by
  cases e with
  | tap page handler row => exact inv_tap page handler row h
  | write collection d => exact inv_write collection d h
  | deliver i => exact inv_deliver i h
  | _ => exact h

/-- A tap opens nothing yet. -/
theorem oneAnswer_tap {s : World} (page : Nat) (handler : Handler) (row : String)
    (hp : OneAnswer s) : OneAnswer (tap page handler row s) := by
  rw [tap]
  split
  · exact ⟨fun a ha => Nat.lt_succ_of_lt (hp.1 a ha), hp.2⟩
  · exact hp

theorem oneAnswer_deliver {s : World} (i : Nat) (h : Inv s) (hp : OneAnswer s) :
    OneAnswer (deliver i s) ↔ Sparing s (.deliver i) := by
  have hsparing : Sparing s (.deliver i) ↔ ∀ sub ∈ s.subscriptions[i]?, ∀ docs ∈ sub.queue.head?,
      docs.countP (fun d => Finds s sub d) ≤ allowed s sub := by
    simp only [Sparing, Event.deliver.injEq, forall_eq']
  rw [hsparing, deliver]
  rcases hi : s.subscriptions[i]? with _ | sub
  · exact iff_of_true hp fun sub hsub => absurd hsub (Option.not_mem_none sub)
  · rcases hqueue : sub.queue with _ | ⟨docs, rest⟩
    · simp only [Option.mem_some, forall_eq', hqueue, List.head?_nil]
      exact iff_of_true hp fun docs hdocs => absurd hdocs (Option.not_mem_none docs)
    · simp only [Option.mem_some, forall_eq', hqueue, List.head?_cons]
      exact oneAnswer_handle sub docs _ (h sub (List.mem_of_getElem? hi)) hp

theorem oneAnswer_step (s : World) (e : Event) (h : Inv s) (hp : OneAnswer s) :
    OneAnswer (step s e) ↔ Sparing s e := by
  -- Only a delivery opens anything.
  have hother : OneAnswer (step s e) → (∀ i, e ≠ .deliver i) →
      (OneAnswer (step s e) ↔ Sparing s e) :=
    fun hstep hne => iff_of_true hstep fun i hi => absurd hi (hne i)
  cases e with
  | deliver i => exact oneAnswer_deliver i h hp
  | tap page handler row =>
      exact hother (oneAnswer_tap page handler row hp) fun i hi => Event.noConfusion hi
  | _ => exact hother hp fun i hi => Event.noConfusion hi

/-- In every run, over any database and in any order of its steps, everything
    that is opened answers a tap and no tap is answered twice, exactly when
    each snapshot that is delivered has at most one document with something to
    open, and none once its tap has been answered. -/
theorem oneAnswer_iff (store : Store) (es : List Event) :
    Run.Always step OneAnswer (World.start store) es ↔
      Run.Along step Sparing (World.start store) es :=
  Run.always_iff_along step Inv OneAnswer Sparing (fun s e h _ _ => inv_step s e h) oneAnswer_step
    es (World.start store) (fun _ hsub => absurd hsub List.not_mem_nil)
    ⟨fun _ ha => absurd ha List.not_mem_nil, Log.atMostOnce_nil⟩

/-- The offers of the mall. -/
def barakaOffers (images : List String) : Doc :=
  oneField "offers" (.list (images.map .str))

/-- A tap on the tile shows the offers of the mall. When they are edited
    later, they are shown again without a tap. -/
theorem edit_opens_again :
    ¬ Run.Always step OneAnswer (World.start fun _ => Collection.empty)
      [.openPage .categories, .write "Baraka Mall" (barakaOffers ["spring"]),
        .tap 0 (.viewer (.barakaMall .background)) "", .deliver 0,
        .write "Baraka Mall" (barakaOffers ["summer"]), .deliver 0] := by
  decide

end Taps

end JkbEmpOffers
