import JkbEmpOffers.Listing

/-!
# Notification Routing

`handleMessage` opens a page for seven values of a message's data `type`,
always in English, and does nothing for any other. It is what every tap on a
notification comes to: in the foreground, in the background, and when the
app was started from one.

## Main definitions

* `RemoteMessage`: A message, as far as its tap is concerned.
* `typeBranches`: The branches of `handleMessage`.
* `handleMessage`: The page a message opens.
* `SameRoute`: Two messages with the same type, or with none that has a page.

## Theorems

* `handleMessage_eq_iff`: The messages that open the same page.
* `handleMessage_english`: A notification opens its page in English.
-/

namespace JkbEmpOffers

/-- A message: the title and body that its notification shows, and
    `data['type']` if it has one. -/
structure RemoteMessage where
  title : String
  body : String
  type : Option String
  deriving DecidableEq, Repr

namespace NotificationServices

/-- A branch of `handleMessage`: a type opens the page of its name. -/
def typeBranch (type : String) (page : ListPage) (titlebar : String) : String × OffersPage :=
  (type, ⟨page, ⟨type, "name", "searchIndex", titlebar⟩⟩)

/-- The branches of `handleMessage`, in order. -/
def typeBranches : List (String × OffersPage) := [
  typeBranch "Others" .offersList "Others Offers",
  typeBranch "Educational Organizations" .offersList "Educational Organizations Offers",
  typeBranch "Sports Clubs" .offersList "Sports Clubs Offers",
  typeBranch "Restaurants And Cafes" .resCafeOffersList "Restaurants And Cafes Offers",
  typeBranch "Hotels" .offersList "Hotels Offers",
  typeBranch "Health And Beauty" .offersList "Health And Beauty Offers",
  typeBranch "Electronics-Devices" .offersList "Electronics-Devices Offers"]

/-- The page `handleMessage` opens, if any; a page is opened after
    `Get.updateLocale(Locale('en', 'US'))`. -/
def handleMessage (message : RemoteMessage) : Option OffersPage :=
  message.type.bind fun type => typeBranches.lookup type

/-- The types that have a page. -/
def types : List String :=
  typeBranches.map Prod.fst

/-- Two messages with the same type, or with none that has a page. -/
def SameRoute (m m' : RemoteMessage) : Prop :=
  m.type = m'.type ∨ ((∀ t ∈ m.type, t ∉ types) ∧ ∀ t ∈ m'.type, t ∉ types)

instance (m m' : RemoteMessage) : Decidable (SameRoute m m') :=
  inferInstanceAs (Decidable (m.type = m'.type ∨ (_ ∧ _)))

/-- A message opens the page named after its type. -/
theorem handleMessage_name {m : RemoteMessage} {page : OffersPage}
    (h : handleMessage m = some page) : m.type = some page.args.name := by
  rcases Option.bind_eq_some_iff.mp h with ⟨type, htype, hpage⟩
  rcases List.lookup_eq_some_iff.mp hpage with ⟨pre, post, happ, _⟩
  have hmem : (type, page) ∈ typeBranches := by
    rw [happ]
    exact List.mem_append_right pre List.mem_cons_self
  have hnames : ∀ b ∈ typeBranches, b.2.args.name = b.1 := by decide
  rw [htype, hnames _ hmem]

/-- A message opens nothing exactly when its type has no page. -/
theorem handleMessage_eq_none (m : RemoteMessage) :
    handleMessage m = none ↔ ∀ t ∈ m.type, t ∉ types := by
  rw [handleMessage, Option.bind_eq_none_iff]
  simp only [List.lookup_eq_none_iff, types, List.mem_map, Prod.exists, exists_and_right,
    exists_eq_right, not_exists, Option.mem_def, bne_iff_ne, ne_eq, Prod.forall]
  constructor
  · intro h t ht page hpage
    exact h t ht t page hpage rfl
  · intro h t ht t' page hpage heq
    rw [← heq] at hpage
    exact h t ht page hpage

/-- Two messages open the same page exactly when they have the same type or
    neither has one with a page. -/
theorem handleMessage_eq_iff (m m' : RemoteMessage) :
    handleMessage m = handleMessage m' ↔ SameRoute m m' := by
  constructor
  · intro h
    -- A page carries its type as the name of its collection.
    rcases hm : handleMessage m with _ | page
    · exact Or.inr ⟨(handleMessage_eq_none m).mp hm, (handleMessage_eq_none m').mp (h ▸ hm)⟩
    · rw [hm] at h
      exact Or.inl (by rw [handleMessage_name hm, handleMessage_name h.symm])
  · intro h
    rcases h with h | ⟨h, h'⟩
    · rw [handleMessage, handleMessage, h]
    · rw [(handleMessage_eq_none m).mpr h, (handleMessage_eq_none m').mpr h']

/-- Every branch opens its page in English. -/
theorem typeBranches_english :
    ∀ b ∈ typeBranches, b.2.args.nametype = "name" ∧ b.2.args.searchtype = "searchIndex" := by
  decide

theorem handleMessage_english {message : RemoteMessage} {page : OffersPage}
    (h : handleMessage message = some page) :
    page.args.nametype = "name" ∧ page.args.searchtype = "searchIndex" := by
  rcases Option.bind_eq_some_iff.mp h with ⟨type, _, hpage⟩
  rcases List.lookup_eq_some_iff.mp hpage with ⟨pre, post, happ, _⟩
  exact typeBranches_english (type, page) (by rw [happ]; simp only [List.mem_append, List.mem_cons,
    true_or, or_true])

end NotificationServices

end JkbEmpOffers
