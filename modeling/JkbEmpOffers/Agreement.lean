import JkbEmpOffers.Contacts

/-!
# The Two List Pages Agree

`ResCafeOffersList` is a copy of `OffersList`, so opened on one collection
with the same arguments the two should show the same. Their queries, their
rows and their buttons do agree. What does not is the type of `logo` in the
record a row is decoded to: where `OffersList` shows a placeholder for a
document without a logo, `ResCafeOffersList` fails to decode it and shows an
error in place of the whole list, although its `avatarWidget` has the
placeholder as well.

`agree_iff` is the exact condition on the documents of the snapshot. It is
stated with two predicates on a document alone: `Decodes`, that its fields
have the types that both decoders ask for, and `HasLogo`.

## Main definitions

* `SameArea`: The same list area, up to the text of an error.
* `SameAnswers`: The same answers to the buttons of a row.
* `PagesAgree`: The two pages agree on everything.
* `Decodes`, `HasLogo`: The predicates of the condition.

## Theorems

* `stream_eq`: The pages ask the same query.
* `offersList_event`, `resCafe_event`: When a snapshot decodes.
* `rows_eq`: The rows that both pages decode look the same.
* `same_answers`: The buttons agree on every document.
* `area_agree_iff`: The list areas agree exactly under the condition.
* `agree_iff`: So do the pages.
-/

namespace JkbEmpOffers

/-- Whether the list area shows an error. -/
def isErrorArea : Except DartError ListArea → Bool
  | .ok (.error _) => true
  | _ => false

/-- The same list area, or an error on both sides whatever its text. -/
def SameArea (a b : Except DartError ListArea) : Prop :=
  a = b ∨ (isErrorArea a = true ∧ isErrorArea b = true)

instance (a b : Except DartError ListArea) : Decidable (SameArea a b) :=
  inferInstanceAs (Decidable (a = b ∨ (isErrorArea a = true ∧ isErrorArea b = true)))

/-- The same page for Offers, the same dialog for Branches, the same dialog
    or call for Call, and the same number dialled by the call, on a device
    that announces the calls it makes: only one of the pages asks for that. -/
def SameAnswers (l : Locale) (name : String) (p : Platform) (d : Doc) : Prop :=
  (Handler.viewer (.offers .offersList)).respond l name d
      = (Handler.viewer (.offers .resCafeOffersList)).respond l name d ∧
  (Handler.contact (.branches .offersList)).respond l name d
      = (Handler.contact (.branches .resCafeOffersList)).respond l name d ∧
  (Handler.contact (.call .offersList)).respond l name d
      = (Handler.contact (.call .resCafeOffersList)).respond l name d ∧
  (p.AnnouncesTel → ∀ a : Action,
    opened (ListPage.offersList.perform p a) = opened (ListPage.resCafeOffersList.perform p a))

/-- The two pages, opened on one store with the same arguments, agree on the
    list area and on the buttons of every document. -/
def PagesAgree (le : Value → Value → Bool) (store : Store) (lang : Option String) (l : Locale)
    (w : OffersArgs) (searchstring : Option String) : Prop :=
  SameArea (OffersList.area l w ((OffersList.stream lang w searchstring).run le store))
    (ResCafeOffersList.area l w ((ResCafeOffersList.stream lang w searchstring).run le store)) ∧
  ∀ (p : Platform) (name : String) (d : Doc), SameAnswers l name p d

/-- The fields have the types that a row needs, a null logo included. -/
def Decodes (d : Doc) : Prop :=
  (∃ s, d.field "namearabic" = .str s) ∧ (∃ s, d.field "name" = .str s) ∧
  (d.field "logo" = .null ∨ ∃ s, d.field "logo" = .str s) ∧
  (d.field "expire" = .null ∨ ∃ s, d.field "expire" = .str s)

/-- The document has a logo that is not null. -/
def HasLogo (d : Doc) : Prop :=
  d.field "logo" ≠ .null

theorem stream_eq (lang : Option String) (w : OffersArgs) (searchstring : Option String) :
    OffersList.stream lang w searchstring = ResCafeOffersList.stream lang w searchstring := rfl

theorem asString_ok_iff (v : Value) : (∃ s, v.asString = .ok s) ↔ ∃ s, v = .str s :=
  exists_congr fun _ => Value.asString_eq_ok

theorem asStringOrNull_ok_iff (v : Value) :
    (∃ s, v.asStringOrNull = .ok s) ↔ v = .null ∨ ∃ s, v = .str s := by
  constructor
  · intro h
    rcases h with ⟨s, hs⟩
    rcases v with (_ | _ | _ | s' | _) | _ | _
    case scalar.null => exact Or.inl rfl
    case scalar.string => exact Or.inr ⟨s', rfl⟩
    all_goals exact absurd hs (by simp only [Value.asStringOrNull, reduceCtorEq,
      not_false_eq_true])
  · intro h
    rcases h with rfl | ⟨s, rfl⟩
    · exact ⟨none, rfl⟩
    · exact ⟨some s, rfl⟩

/-- A record is decoded when its four fields are. -/
theorem exists_fromMap {Logo : Type} (asLogo : Value → Except DartError Logo) (d : Doc) :
    (∃ row, fromMap asLogo d = .ok row) ↔
      (∃ s, (d.field "namearabic").asString = .ok s) ∧ (∃ s, (d.field "name").asString = .ok s) ∧
      (∃ s, asLogo (d.field "logo") = .ok s) ∧
      (∃ s, (d.field "expire").asStringOrNull = .ok s) := by
  constructor
  · intro h
    rcases h with ⟨row, hrow⟩
    rcases (fromMap_ok_iff asLogo d row).mp hrow with ⟨h1, h2, h3, h4⟩
    exact ⟨⟨_, h1⟩, ⟨_, h2⟩, ⟨_, h3⟩, ⟨_, h4⟩⟩
  · intro h
    rcases h with ⟨⟨namear, h1⟩, ⟨nameen, h2⟩, ⟨logo, h3⟩, ⟨expire, h4⟩⟩
    exact ⟨⟨namear, nameen, logo, expire⟩, (fromMap_ok_iff asLogo d _).mpr ⟨h1, h2, h3, h4⟩⟩

theorem offersList_fromMap (d : Doc) : (∃ row, OffersList.fromMap d = .ok row) ↔ Decodes d := by
  rw [OffersList.fromMap, exists_fromMap]
  simp only [asString_ok_iff, asStringOrNull_ok_iff, Decodes]

theorem resCafe_fromMap (d : Doc) :
    (∃ row, ResCafeOffersList.fromMap d = .ok row) ↔ Decodes d ∧ HasLogo d := by
  rw [ResCafeOffersList.fromMap, exists_fromMap]
  simp only [asString_ok_iff, asStringOrNull_ok_iff, Decodes, HasLogo]
  constructor
  · intro h
    rcases h with ⟨h1, h2, ⟨s, hs⟩, h4⟩
    -- A logo that is cast to `String` is a string, and no null.
    refine ⟨⟨h1, h2, Or.inr ⟨s, hs⟩, h4⟩, ?_⟩
    rw [hs]
    exact fun h => absurd h (by simp only [Value.scalar.injEq, reduceCtorEq, not_false_eq_true])
  · intro h
    rcases h with ⟨⟨h1, h2, h3, h4⟩, hlogo⟩
    exact ⟨h1, h2, h3.resolve_left hlogo, h4⟩

theorem offersList_event (docs : List Doc) :
    (∃ rows, OffersList.event docs = .ok rows) ↔ ∀ d ∈ docs, Decodes d := by
  rw [OffersList.event, Traverse.mapM_ok_iff]
  simp only [offersList_fromMap]

theorem resCafe_event (docs : List Doc) :
    (∃ rows, ResCafeOffersList.event docs = .ok rows) ↔ ∀ d ∈ docs, Decodes d ∧ HasLogo d := by
  rw [ResCafeOffersList.event, Traverse.mapM_ok_iff]
  simp only [resCafe_fromMap]

/-- The record of `OffersList` for a record of `ResCafeOffersList`. -/
def withLogo (row : ResCafeOffersList.Offerslis1) : OffersList.Offerslis1 :=
  { namear := row.namear, nameen := row.nameen, logo := some row.logo, expire := row.expire }

/-- What `ResCafeOffersList` decodes, `OffersList` decodes to the same
    record. -/
theorem fromMap_withLogo (d : Doc) (row : ResCafeOffersList.Offerslis1)
    (h : ResCafeOffersList.fromMap d = .ok row) : OffersList.fromMap d = .ok (withLogo row) := by
  rcases (fromMap_ok_iff _ d row).mp h with ⟨h1, h2, h3, h4⟩
  refine (fromMap_ok_iff _ d _).mpr ⟨h1, h2, ?_, h4⟩
  rcases (asString_ok_iff _).mp ⟨_, h3⟩ with ⟨s, hs⟩
  rw [hs] at h3 ⊢
  exact congrArg (fun s => Except.ok (some s)) (Except.ok.inj h3)

theorem rows_eq (l : Locale) (w : OffersArgs) (docs : List Doc)
    (rows : List ResCafeOffersList.Offerslis1) (h : ResCafeOffersList.event docs = .ok rows) :
    OffersList.area l w docs = ResCafeOffersList.area l w docs := by
  have h' : OffersList.event docs = .ok (rows.map withLogo) :=
    Traverse.mapM_transport fromMap_withLogo h
  rw [OffersList.area, ResCafeOffersList.area, h, h', OffersList.builder,
    ResCafeOffersList.builder, listArea_delivered, listArea_delivered]
  simp only [List.map_map]
  rfl

theorem same_answers (l : Locale) (name : String) (p : Platform) (d : Doc) :
    SameAnswers l name p d := by
  refine ⟨rfl, rfl, rfl, fun htel a => ?_⟩
  cases a with
  | makePhoneCall phoneNumer =>
      refine Option.ext fun u => ?_
      rw [perform_call, perform_call]
      refine and_congr_right fun heq => and_congr_right fun hopens => ?_
      refine iff_of_true (fun hpage => ListPage.noConfusion hpage) fun _ => ?_
      rw [heq] at hopens ⊢
      exact htel phoneNumer hopens
  | launcheurl url => rfl

/-- The list areas for one snapshot agree exactly when a document of it does
    not decode on either page, or all of them have a logo. -/
theorem area_agree_iff (l : Locale) (w : OffersArgs) (docs : List Doc) :
    SameArea (OffersList.area l w docs) (ResCafeOffersList.area l w docs) ↔
      (∃ d ∈ docs, ¬ Decodes d) ∨ ∀ d ∈ docs, HasLogo d := by
  rcases hres : ResCafeOffersList.event docs with e | rows
  · have hnot : ¬ ∀ d ∈ docs, Decodes d ∧ HasLogo d := by
      rw [← resCafe_event, hres]
      simp only [reduceCtorEq, exists_false, not_false_eq_true]
    have hrarea : ResCafeOffersList.area l w docs = .ok (.error (tr l "tryorconn")) := by
      rw [ResCafeOffersList.area, hres, ResCafeOffersList.builder, listArea_delivered]
    rcases hoff : OffersList.event docs with e' | rows
    · -- Neither page decodes the snapshot.
      have hdec : ¬ ∀ d ∈ docs, Decodes d := by
        rw [← offersList_event, hoff]
        simp only [reduceCtorEq, exists_false, not_false_eq_true]
      have hoarea : OffersList.area l w docs = .ok (.error e'.toText) := by
        rw [OffersList.area, hoff, OffersList.builder, listArea_delivered]
      rw [hoarea, hrarea]
      refine iff_of_true (Or.inr ⟨rfl, rfl⟩) (Or.inl ?_)
      simpa only [not_forall, exists_prop] using hdec
    · -- Only `OffersList` does: some document has no logo.
      have hdec : ∀ d ∈ docs, Decodes d := (offersList_event docs).mp ⟨rows, hoff⟩
      have hoarea : OffersList.area l w docs
          = .ok (.rows (rows.map (itemBuilder id l w))) := by
        rw [OffersList.area, hoff, OffersList.builder, listArea_delivered]
      rw [hoarea, hrarea]
      refine iff_of_false (fun h => ?_) ?_
      · exact absurd h (by simp only [SameArea, isErrorArea, Except.ok.injEq, reduceCtorEq,
          Bool.false_eq_true, false_and, or_self, not_false_eq_true])
      · intro h
        rcases h with ⟨d, hd, hnd⟩ | hlogo
        · exact hnd (hdec d hd)
        · exact hnot fun d hd => ⟨hdec d hd, hlogo d hd⟩
  · -- Both pages decode it, to rows that look the same.
    have hall := (resCafe_event docs).mp ⟨rows, hres⟩
    exact iff_of_true (Or.inl (rows_eq l w docs rows hres)) (Or.inr fun d hd => (hall d hd).2)

/-- The two pages agree, for any store, stored language, arguments and search
    text, exactly when some document of the snapshot decodes on neither page
    or every document has a logo. -/
theorem agree_iff (le : Value → Value → Bool) (store : Store) (lang : Option String) (l : Locale)
    (w : OffersArgs) (searchstring : Option String) :
    PagesAgree le store lang l w searchstring ↔
      (∃ d ∈ (OffersList.stream lang w searchstring).run le store, ¬ Decodes d) ∨
        ∀ d ∈ (OffersList.stream lang w searchstring).run le store, HasLogo d := by
  rw [PagesAgree, ← stream_eq, area_agree_iff]
  exact and_iff_left fun p name d => same_answers l name p d

/-- A collection of one offer that has names and an order but no logo. -/
def noLogo : Collection :=
  Collection.empty.put ⟨"doc", ⟨[("name", .str "Cafe"), ("namearabic", .str "مقهى"),
    ("order", .scalar (.int 1))], by decide⟩⟩

/-- An offer without a logo has its row on one page and is an error on the
    other. -/
theorem pages_disagree_without_logo :
    ¬ PagesAgree (fun _ _ => true) (fun _ => noLogo) none .enUS
      ⟨"Restaurants And Cafes", "name", "searchIndex", "Restaurants And Cafes Offers"⟩ none := by
  intro h
  exact absurd h.1 (by decide)

end JkbEmpOffers
