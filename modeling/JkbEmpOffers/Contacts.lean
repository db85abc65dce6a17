import JkbEmpOffers.Buttons

/-!
# Calls and Branches

Whether the contact buttons dial and open what they say. The label of a
button and the value behind it come from two lists, `entries` and `values`,
each indexed by its own literal, and every branch of the four chains uses
the same literal for both. Since a map lists its entries and its values in
one order, a label and the value behind it belong to one key.

What a press opens in the end is up to the device. `ListPage.perform` is the
press on a page and a device: it opens the URI made from the value, or
nothing, and never another one.

## Main definitions

* `ListPage.perform`: A press, on a page and a device.
* `Effect.actions`: Everything an effect lets the user start.
* `Lists`: A dialog with one button for each entry of a map.
* `ContactButton.Answers`: What an answer to a contact button has to be.

## Theorems

* `perform_call`: What a call opens.
* `perform_open`: What a link opens.
* `contact_answers`: Every answer is as it has to be.
* `answers_actions`: Every action of an answer is about a value of the map.
* `viewer_no_actions`: The viewer buttons never dial or open.
* `contacts_dial_and_open`: All of it together.
-/

namespace JkbEmpOffers

/-- What pressing a contact button does on a page and a device. -/
def ListPage.perform (page : ListPage) (p : Platform) (a : Action) :
    Except LaunchError (Option Uri) :=
  match a with
  | .makePhoneCall phoneNumer =>
    match page with
    | .offersList => OffersList.makePhoneCall p phoneNumer
    | .resCafeOffersList => ResCafeOffersList.makePhoneCall p phoneNumer
  | .launcheurl url => launcheurl p url

/-- Everything an effect starts or lets the user start. -/
def Effect.actions : Effect → List (Except DartError Action)
  | .push _ => []
  | .dialog buttons => buttons.map DialogButton.pressEvent
  | .act action => [.ok action]

/-- A dialog with one button for each entry of a map in order, each labelled
    with the translation of its key and acting on the value stored under that
    key. -/
def Lists (l : Locale) (m : DartMap) (action : String → Action) (buttons : List DialogButton) :
    Prop :=
  buttons.length = m.entries.length ∧
    ∀ (i : Nat) (hi : i < m.entries.length) (hb : i < buttons.length),
      buttons[i].text = tr l m.entries[i].1 ∧
        ∃ v, m.lookup m.entries[i].1 = some v ∧ buttons[i].pressEvent = .ok (action v.toText)

/-- What an answer to a contact button has to be, for the map it was pressed
    for: a dialog that calls the numbers or opens the branches of the map, or,
    for Call, the call of the only number. -/
def ContactButton.Answers (b : ContactButton) (l : Locale) (m : DartMap) (e : Effect) : Prop :=
  match b, e with
  | .call _, .dialog buttons => Lists l m .makePhoneCall buttons
  | .call _, .act a => ∃ k v, m.entries = [(k, v)] ∧ a = .makePhoneCall v.toText
  | .branches _, .dialog buttons => Lists l m .launcheurl buttons
  | .branches _, .act _ => False
  | _, .push _ => False

/-- A call dials its number and nothing else, if the device does. The
    restaurants page asks the device first. -/
theorem perform_call (page : ListPage) (p : Platform) (phoneNumer : String) (u : Uri) :
    opened (page.perform p (.makePhoneCall phoneNumer)) = some u ↔
      u = .make "tel" phoneNumer ∧ p.opens u = true ∧
        (page = .resCafeOffersList → p.canLaunchUrl u = true) := by
  cases page with
  | offersList =>
      refine launchUrl_eq_some.trans (and_congr_right fun _ => (and_iff_left ?_).symm)
      exact fun hpage => ListPage.noConfusion hpage
  | resCafeOffersList =>
      rw [ListPage.perform, ResCafeOffersList.makePhoneCall]
      split_ifs with hcan
      · refine launchUrl_eq_some.trans (and_congr_right fun heq => (and_iff_left fun _ => ?_).symm)
        rw [heq]
        exact hcan
      · -- A device that declines makes the page throw.
        refine iff_of_false (Option.some_ne_none u).symm fun h => hcan ?_
        rw [← h.1]
        exact h.2.2 rfl

/-- A link is opened as it is, on either page, if it parses and the device
    says that it can and does. -/
theorem perform_open (page : ListPage) (p : Platform) (url : String) (u : Uri) :
    opened (page.perform p (.launcheurl url)) = some u ↔
      u = .parse url ∧ p.parses url = true ∧ p.canLaunchUrl u = true ∧ p.opens u = true :=
  opened_launcheurl

/-- The buttons that a regular chain makes are those of the map. -/
theorem lists_buttonsOf (c : ContactChain) (l : Locale) (m : DartMap) :
    Lists l m c.action (c.buttonsOf l m.entries) := by
  refine ⟨List.length_map _, fun i hi hb => ?_⟩
  rw [buttonsOf_getElem c l m.entries i hb hi]
  exact ⟨rfl, m.entries[i].2, m.lookup_getElem i hi, rfl⟩

theorem contact_answers (b : ContactButton) (l : Locale) (d : Doc) (m : DartMap)
    (hm : d.field b.field = .map m.entries) (e : Effect)
    (he : b.chain.respond l d = some e) : b.Answers l m e := by
  rcases contact_respond_eq_some (contact_regular b) he with ⟨es, hes, hcase⟩
  rw [contact_field, hm, Value.map.injEq] at hes
  subst hes
  rcases hcase with ⟨k, v, hentries, hdirect, rfl⟩ | rfl
  · -- Only the call chains act without a dialog.
    rcases (contact_direct b).mp hdirect with ⟨page, rfl⟩
    rw [contact_action]
    exact ⟨k, v, hentries, rfl⟩
  · have hlists := lists_buttonsOf b.chain l m
    rw [contact_action] at hlists
    cases b with
    | call page => exact hlists
    | branches page => exact hlists

/-- The viewer buttons push pages, which start nothing. -/
theorem viewer_no_actions (b : ViewerButton) (name : String) (d : Doc) (e : Effect)
    (he : b.chain.respond name d = some e) : e.actions = [] := by
  rcases viewer_respond_eq_some he with ⟨n, _, ⟨_, rfl⟩ | ⟨g, _, _, rfl⟩⟩
  · rfl
  · rfl

/-- Every button of such a dialog is about a value of the map. -/
theorem lists_actions {l : Locale} {m : DartMap} {action : String → Action}
    {buttons : List DialogButton} (h : Lists l m action buttons) {r : Except DartError Action}
    (hr : r ∈ (Effect.dialog buttons).actions) :
    ∃ k v, m.lookup k = some v ∧ r = .ok (action v.toText) := by
  rcases h with ⟨hlen, hbtn⟩
  -- The button is one of the list, so it has a place in it.
  rcases List.mem_map.mp hr with ⟨button, hmem, rfl⟩
  rcases List.getElem_of_mem hmem with ⟨i, hi, rfl⟩
  rcases (hbtn i (by omega) hi).2 with ⟨v, hlookup, hpress⟩
  exact ⟨_, v, hlookup, hpress⟩

/-- Every action of an answer is about a value of the map. -/
theorem answers_actions {b : ContactButton} {l : Locale} {m : DartMap} {e : Effect}
    (h : b.Answers l m e) (r : Except DartError Action) (hr : r ∈ e.actions) :
    ∃ k v, m.lookup k = some v ∧ r = .ok (b.action v.toText) := by
  cases b with
  | call page =>
      cases e with
      | push route => exact absurd h id
      | dialog buttons => exact lists_actions h hr
      | act a =>
          -- The only entry is found under its own key.
          rcases h with ⟨k, v, hentries, rfl⟩
          refine ⟨k, v, ?_, List.mem_singleton.mp hr⟩
          rw [DartMap.lookup, hentries, List.lookup_cons_self]
  | branches page =>
      cases e with
      | push route => exact absurd h id
      | dialog buttons => exact lists_actions h hr
      | act a => exact absurd h id

/-- On both list pages, every answer to Call or Branches is as it has to be:
    the dialog has one button for each entry of the `number` or the `location`
    map, in order, labelled with the translation of its key and calling or
    opening the value stored under that key, and Call dials at once only the
    value of a single entry. Nothing else can be started: an answer has no
    other actions, a field that is no map has no answer, and no other button
    of a row starts anything. A call opens on a device the `tel` URI of its
    number and nothing else, and a link itself and nothing else. -/
theorem contacts_dial_and_open (b : ContactButton) (l : Locale) (d : Doc) (m : DartMap)
    (hm : d.field b.field = .map m.entries) (e : Effect)
    (he : b.chain.respond l d = some e) :
    b.Answers l m e ∧
      (∀ r ∈ e.actions, ∃ k v, m.lookup k = some v ∧ r = .ok (b.action v.toText)) ∧
      (∀ d' : Doc, (∀ es, d'.field b.field ≠ .map es) → b.chain.respond l d' = none) ∧
      (∀ (vb : ViewerButton) (name : String) (d' : Doc) (e' : Effect),
        vb.chain.respond name d' = some e' → e'.actions = []) ∧
      ∀ (page : ListPage) (p : Platform) (text : String) (u : Uri),
        (opened (page.perform p (.makePhoneCall text)) = some u ↔
          u = .make "tel" text ∧ p.opens u = true ∧
            (page = .resCafeOffersList → p.canLaunchUrl u = true)) ∧
        (opened (page.perform p (.launcheurl text)) = some u ↔
          u = .parse text ∧ p.parses text = true ∧ p.canLaunchUrl u = true ∧
            p.opens u = true) := by
  have hans := contact_answers b l d m hm e he
  refine ⟨hans, answers_actions hans, fun d' hd' => ?_, viewer_no_actions, fun page p text u =>
    ⟨perform_call page p text u, perform_open page p text u⟩⟩
  refine contact_respond_not_map fun es => ?_
  rw [contact_field]
  exact hd' es

/-- A map of two numbers, one of one, and one of two branches. -/
def twoNumbers : DartMap :=
  ⟨[("abdoun", .str "065000"), ("zarqa", .scalar (.int 53))], by decide⟩

def oneNumber : DartMap :=
  ⟨[("abdoun", .str "065000")], by decide⟩

def twoBranches : DartMap :=
  ⟨[("zarqa", .str "https://z"), ("abdoun", .str "https://a")], by decide⟩

/-- The four chains, and what a phone opens then. -/
theorem two_numbers_dialog :
    (ContactButton.call .offersList).Answers .enUS twoNumbers
        (.dialog [⟨"Abdoun", .ok (.makePhoneCall "065000")⟩,
          ⟨"Zarqa", .ok (.makePhoneCall "53")⟩]) ∧
      (ContactButton.call .resCafeOffersList).Answers .enUS oneNumber
        (.act (.makePhoneCall "065000")) ∧
      (ContactButton.branches .offersList).Answers .enUS twoBranches
        (.dialog [⟨"Zarqa", .ok (.launcheurl "https://z")⟩,
          ⟨"Abdoun", .ok (.launcheurl "https://a")⟩]) ∧
      (ContactButton.branches .resCafeOffersList).Answers .enUS twoBranches
        (.dialog [⟨"Zarqa", .ok (.launcheurl "https://z")⟩,
          ⟨"Abdoun", .ok (.launcheurl "https://a")⟩]) ∧
      opened (ListPage.resCafeOffersList.perform .phone (.makePhoneCall "065000"))
        = some (.make "tel" "065000") ∧
      opened (ListPage.offersList.perform .phone (.launcheurl "https://z"))
        = some (.parse "https://z") := by
  have hdirect := contacts_dial_and_open (.call .resCafeOffersList) .enUS
    (oneField "number" (.map oneNumber.entries)) oneNumber (oneField_field _ _)
    (.act (.makePhoneCall "065000")) (by decide)
  have hopens := hdirect.2.2.2.2
  exact ⟨(contacts_dial_and_open (.call .offersList) .enUS
      (oneField "number" (.map twoNumbers.entries)) twoNumbers (oneField_field _ _) _
      (by decide)).1,
    hdirect.1,
    (contacts_dial_and_open (.branches .offersList) .enUS
      (oneField "location" (.map twoBranches.entries)) twoBranches (oneField_field _ _) _
      (by decide)).1,
    (contacts_dial_and_open (.branches .resCafeOffersList) .enUS
      (oneField "location" (.map twoBranches.entries)) twoBranches (oneField_field _ _) _
      (by decide)).1,
    (hopens .resCafeOffersList .phone "065000" _).1.mpr ⟨rfl, rfl, fun _ => rfl⟩,
    (hopens .offersList .phone "https://z" _).2.mpr ⟨rfl, rfl, rfl, rfl⟩⟩

end JkbEmpOffers
