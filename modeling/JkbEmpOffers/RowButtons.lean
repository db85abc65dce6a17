import JkbEmpOffers.Pages
import JkbEmpOffers.Taps

/-!
# The Document Behind a Row

A row does not remember which document it was built from. Its buttons find
the document again by the name in the row, in the language of the page, and
answer every document that has that name. As long as the names in a language
are unique, that is the row's own document; nothing makes them unique, and a
name may be unique in one language and not in the other.

`press` is a press on a row, with each answer next to the document it comes
from. `press_own_iff` says when nothing comes from any other document. The
row's own document is always among those asked, so its answer is never
missing.

## Main definitions

* `OffersPage.press`: The answers to a press on a row.

## Theorems

* `mem_press`: The documents a press gets an answer from.
* `press_only_iff`: When there is no other than a given one.
* `log_tap_deliver`: A press is what a tap and its first delivery log.
* `press_own_iff`: When a press answers with the row's own document only.
* `second_cafe_answers`: A press that does not.
-/

namespace JkbEmpOffers

/-- The answers to a press on a row with a name: those of the documents that
    have the name, each with its document. -/
def OffersPage.press (p : OffersPage) (store : Store) (l : Locale) (h : Handler) (row : String) :
    List (Doc × Effect) :=
  ((Taps.question row (.list p)).run store).filterMap fun d =>
    (h.respond l row d).map fun e => (d, e)

section

variable {p : OffersPage} {store : Store} {l : Locale} {h : Handler} {row : String} {d : Doc}

/-- A press gets an answer from the documents that have the name in the row
    and something to open. -/
theorem mem_press {e : Effect} :
    (d, e) ∈ p.press store l h row ↔
      (d ∈ (store p.args.name).docs ∧ d.data.lookup p.args.nametype = some (.str row)) ∧
        h.respond l row d = some e := by
  have hmatch : d ∈ (Taps.question row (.list p)).run store ↔
      d ∈ (store p.args.name).docs ∧ d.data.lookup p.args.nametype = some (.str row) := by
    rw [mem_lookup_run]
    simp only [Taps.question, Lookup.accepts, Filter.accepts, beq_iff_eq]
  rw [OffersPage.press, List.mem_filterMap, ← hmatch]
  constructor
  · intro hmem
    rcases hmem with ⟨d', hd', he⟩
    rcases Option.map_eq_some_iff.mp he with ⟨e', hrespond, heq⟩
    rcases Prod.mk.inj heq with ⟨rfl, rfl⟩
    exact ⟨hd', hrespond⟩
  · intro hmem
    exact ⟨d, hmem.1, by rw [hmem.2]; rfl⟩

/-- Nothing comes from any document but one exactly when no other document
    has the name in the row and content that the button has a branch for. -/
theorem press_only_iff :
    (∀ q ∈ p.press store l h row, q.1 = d) ↔
      ∀ d' ∈ (store p.args.name).docs, d' ≠ d → d'.data.lookup p.args.nametype = some (.str row) →
        ¬ ∃ n, h.size d' = some n ∧ 1 ≤ n ∧ n ≤ h.bound := by
  constructor
  · intro honly d' hd' hne hname hsize
    -- A document with such content answers, and so is in the press.
    have hsome := (respond_isSome h l row d').mpr hsize
    rcases Option.isSome_iff_exists.mp hsome with ⟨e, he⟩
    exact hne (honly (d', e) (mem_press.mpr ⟨⟨hd', hname⟩, he⟩))
  · intro hnone q hq
    rcases mem_press.mp hq with ⟨⟨hmem, hname⟩, he⟩
    by_contra hne
    refine hnone q.1 hmem hne hname ((respond_isSome h l row q.1).mp ?_)
    rw [he]
    rfl

end

/-- On a page of either language, opened on any collection and searched or
    not, the press on the i-th row answers with the document the row was built
    from. It answers with no other document exactly when no other document of
    the collection has the name in the row, in the language of the page, and
    content of a size that the button has a branch for. -/
theorem press_own_iff (le : Value → Value → Bool) (store : Store) (lang : Option String)
    (p : OffersPage) (searchstring : Option String) (l : Locale) (h : Handler)
    (names : List String) (i : Nat) (d : Doc) (row : String)
    (hlang : p.args.nametype = "name" ∨ p.args.nametype = "namearabic")
    (hnames : p.rowNames ((p.stream lang searchstring).run le store) = .ok names)
    (hd : ((p.stream lang searchstring).run le store)[i]? = some d)
    (hrow : names[i]? = some row) :
    ((∀ q ∈ p.press store l h row, q.1 = d) ↔
      ∀ d' ∈ (store p.args.name).docs, d' ≠ d → d'.data.lookup p.args.nametype = some (.str row) →
        ¬ ∃ n, h.size d' = some n ∧ 1 ≤ n ∧ n ≤ h.bound) ∧
    ∀ e, h.respond l row d = some e → (d, e) ∈ p.press store l h row := by
  refine ⟨press_only_iff, fun e he => ?_⟩
  -- The row has the name of its document, so its document is asked.
  have hname := OffersPage.rowName_lookup hlang (OffersPage.rowName_of_getElem hnames hd hrow)
  have hmem := OffersPage.mem_of_stream (List.mem_of_getElem? hd)
  exact mem_press.mpr ⟨⟨hmem, hname⟩, he⟩

/-- A café with one offer. -/
def cafe (id namearabic image : String) : Doc :=
  ⟨id, ⟨[("name", .str "Cafe"), ("namearabic", .str namearabic), ("logo", .str "logo"),
    ("order", .scalar (.int 1)), ("offers", .list [.str image])], by
      change ["name", "namearabic", "logo", "order", "offers"].Nodup
      decide⟩⟩

/-- Two cafés with one English name. -/
def twoCafes : Collection :=
  (Collection.empty.put (cafe "a" "مقهى عمان" "summer")).put (cafe "b" "مقهى اربد" "winter")

/-- The restaurants page in English, and in Arabic. -/
def cafesEnglish : OffersPage :=
  ⟨.resCafeOffersList, ⟨"Restaurants And Cafes", "name", "searchIndex",
    "Restaurants And Cafes Offers"⟩⟩

def cafesArabic : OffersPage :=
  ⟨.resCafeOffersList, ⟨"Restaurants And Cafes", "namearabic", "searchIndexarabic",
    "عروض المطاعم و الكافيهات"⟩⟩

/-- In Arabic the names differ, and each row answers with its own document. -/
theorem press_own_arabic :
    ((∀ q ∈ cafesArabic.press (fun _ => twoCafes) .arJO (.viewer (.offers .resCafeOffersList))
          "مقهى عمان", q.1 = cafe "a" "مقهى عمان" "summer") ↔
      ∀ d' ∈ twoCafes.docs, d' ≠ cafe "a" "مقهى عمان" "summer" →
        d'.data.lookup "namearabic" = some (.str "مقهى عمان") →
        ¬ ∃ n, (Handler.viewer (.offers .resCafeOffersList)).size d' = some n ∧ 1 ≤ n ∧ n ≤ 10) ∧
    ∀ e, (Handler.viewer (.offers .resCafeOffersList)).respond .arJO "مقهى عمان"
        (cafe "a" "مقهى عمان" "summer") = some e →
      (cafe "a" "مقهى عمان" "summer", e) ∈ cafesArabic.press (fun _ => twoCafes) .arJO
        (.viewer (.offers .resCafeOffersList)) "مقهى عمان" :=
  press_own_iff (fun _ _ => true) (fun _ => twoCafes) (some "ar") cafesArabic none .arJO
    (.viewer (.offers .resCafeOffersList)) ["مقهى اربد", "مقهى عمان"] 1 _ _ (Or.inr rfl)
    (by decide) (by decide) (by decide)

/-- In English they have one name, and the row of either opens the offers of
    both. -/
theorem second_cafe_answers :
    cafesEnglish.rowNames ((cafesEnglish.stream none none).run (fun _ _ => true)
        fun _ => twoCafes) = .ok ["Cafe", "Cafe"] ∧
      ((cafesEnglish.stream none none).run (fun _ _ => true) fun _ => twoCafes)[1]?
        = some (cafe "a" "مقهى عمان" "summer") ∧
      ¬ ∀ q ∈ cafesEnglish.press (fun _ => twoCafes) .enUS
        (.viewer (.offers .resCafeOffersList)) "Cafe", q.1 = cafe "a" "مقهى عمان" "summer" := by
  decide

end JkbEmpOffers
