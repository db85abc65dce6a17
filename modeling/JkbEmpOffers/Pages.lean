import JkbEmpOffers.OffersList
import JkbEmpOffers.ResCafeOffersList
import JkbEmpOffers.Library.Traverse

/-!
# A List Page, Whichever It Is

`OffersList` and `ResCafeOffersList` side by side, each function of theirs
under the name it has on both. The type of the records depends on the page,
because the two differ in the type of `logo`; everything that depends on the
records depends on the page through it.

A row knows the document it was built from by its place only: the stream
delivers the records of a snapshot in the order of its documents.

## Main definitions

* `ListPage.Row`: The records of a page.
* `ListPage.fromMap`, `ListPage.event`: A record, and those of a snapshot.
* `ListPage.getoffer1`, `ListPage.getoffer2`: The two queries.
* `ListPage.builder`, `ListPage.area`: What the list area shows.
* `OffersPage.stream`: The query of a page for a search text.
* `OffersPage.rowName`: The name in the row of a document.

## Theorems

* `getoffer1_eq`, `getoffer2_eq`: The pages have the same queries.
* `builder_eq`, `area_eq`: What a page shows.
* `event_eq`: A page decodes a snapshot document by document.
* `mem_of_stream`: A page shows documents of its own collection.
* `names_of_fromMap`: The names of a record are fields of its document.
* `rowName_lookup`: The name in a row is a field of its document.
-/

namespace JkbEmpOffers

namespace ListPage

/-- The type of `logo` in the records of a page. -/
def Logo : ListPage → Type
  | .offersList => Option String
  | .resCafeOffersList => String

/-- `Offerslis1` of a page. -/
abbrev Row (page : ListPage) : Type :=
  Offerslis1 page.Logo

/-- `Offerslis1.fromMap` of a page. -/
def fromMap : (page : ListPage) → Doc → Except DartError page.Row
  | .offersList => OffersList.fromMap
  | .resCafeOffersList => ResCafeOffersList.fromMap

/-- What the stream of a page delivers for a snapshot. -/
def event : (page : ListPage) → List Doc → Except DartError (List page.Row)
  | .offersList => OffersList.event
  | .resCafeOffersList => ResCafeOffersList.event

/-- `Database.getoffer1` of a page. -/
def getoffer1 : ListPage → String → Query
  | .offersList => OffersList.getoffer1
  | .resCafeOffersList => ResCafeOffersList.getoffer1

/-- `Database.getoffer2` of a page. -/
def getoffer2 : ListPage → Option String → String → String → Query
  | .offersList => OffersList.getoffer2
  | .resCafeOffersList => ResCafeOffersList.getoffer2

theorem getoffer1_eq (page : ListPage) (name : String) :
    page.getoffer1 name = unfilteredRef "order" name := by
  cases page with
  | offersList => rfl
  | resCafeOffersList => rfl

theorem getoffer2_eq (page : ListPage) (lang : Option String) (name searchstring : String) :
    page.getoffer2 lang name searchstring
      = searchRef "searchIndexarabic" "searchIndex" lang name searchstring := by
  cases page with
  | offersList => rfl
  | resCafeOffersList => rfl

/-- The logo of a record, read as `String?`. -/
def logo : (page : ListPage) → page.Logo → Option String
  | .offersList => id
  | .resCafeOffersList => some

/-- The text that a page shows for an error. -/
def errorText : ListPage → Locale → DartError → String
  | .offersList => fun _ => DartError.toText
  | .resCafeOffersList => fun l _ => tr l "tryorconn"

/-- The builder of a page. -/
def builder : (page : ListPage) → Locale → OffersArgs → AsyncSnapshot (List page.Row) →
    Except DartError ListArea
  | .offersList => OffersList.builder
  | .resCafeOffersList => ResCafeOffersList.builder

/-- The list area of a page once a snapshot has been delivered. -/
def area : ListPage → Locale → OffersArgs → List Doc → Except DartError ListArea
  | .offersList => OffersList.area
  | .resCafeOffersList => ResCafeOffersList.area

theorem event_eq (page : ListPage) (docs : List Doc) :
    page.event docs = docs.mapM page.fromMap := by
  cases page with
  | offersList => rfl
  | resCafeOffersList => rfl

theorem builder_eq (page : ListPage) (l : Locale) (w : OffersArgs)
    (snapshot : AsyncSnapshot (List page.Row)) :
    page.builder l w snapshot = listArea (page.errorText l) page.logo l w snapshot := by
  cases page with
  | offersList => rfl
  | resCafeOffersList => rfl

theorem area_eq (page : ListPage) (l : Locale) (w : OffersArgs) (docs : List Doc) :
    page.area l w docs =
      match page.event docs with
      | .ok rows => .ok (.rows (rows.map (itemBuilder page.logo l w)))
      | .error e => .ok (.error (page.errorText l e)) := by
  have harea : page.area l w docs
      = page.builder l w (AsyncSnapshot.delivered (page.event docs)) := by
    cases page with
    | offersList => rfl
    | resCafeOffersList => rfl
  rw [harea, builder_eq, listArea_delivered]
  cases page.event docs with
  | ok rows => rfl
  | error e => rfl

theorem names_of_fromMap {page : ListPage} {d : Doc} {row : page.Row}
    (h : page.fromMap d = .ok row) :
    d.field "namearabic" = .str row.namear ∧ d.field "name" = .str row.nameen := by
  have hfields : (d.field "namearabic").asString = .ok row.namear ∧
      (d.field "name").asString = .ok row.nameen := by
    cases page with
    | offersList =>
        rcases (fromMap_ok_iff Value.asStringOrNull d row).mp h with ⟨hnamear, hnameen, -⟩
        exact ⟨hnamear, hnameen⟩
    | resCafeOffersList =>
        rcases (fromMap_ok_iff Value.asString d row).mp h with ⟨hnamear, hnameen, -⟩
        exact ⟨hnamear, hnameen⟩
  exact ⟨Value.asString_eq_ok.mp hfields.1, Value.asString_eq_ok.mp hfields.2⟩

end ListPage

namespace OffersPage

/-- The query of a page for a search text, that is for what was typed in
    lower case. -/
def stream (lang : Option String) (p : OffersPage) (searchstring : Option String) : Query :=
  match p.page with
  | .offersList => OffersList.stream lang p.args searchstring
  | .resCafeOffersList => ResCafeOffersList.stream lang p.args searchstring

/-- A page asks about the collection it is opened with. -/
theorem stream_collection (lang : Option String) (p : OffersPage) (searchstring : Option String) :
    (p.stream lang searchstring).collection = p.args.name := by
  have h1 : (unfilteredRef "order" p.args.name).collection = p.args.name := rfl
  have h2 : ∀ s, (searchRef "searchIndexarabic" "searchIndex" lang p.args.name s).collection
      = p.args.name := fun _ => rfl
  rw [stream]
  cases p.page with
  | offersList => exact streamFor_collection h1 h2 searchstring
  | resCafeOffersList => exact streamFor_collection h1 h2 searchstring

theorem mem_of_stream {le : Value → Value → Bool} {store : Store} {lang : Option String}
    {p : OffersPage} {searchstring : Option String} {d : Doc}
    (h : d ∈ (p.stream lang searchstring).run le store) : d ∈ (store p.args.name).docs := by
  rw [mem_query_run, mem_lookup_run, stream_collection] at h
  exact h.1.1

/-- The name in the row that a page builds from a document. -/
def rowName (p : OffersPage) (d : Doc) : Except DartError String :=
  (p.page.fromMap d).map (JkbEmpOffers.rowName p.args)

/-- The names in the rows that a page builds from a snapshot. -/
def rowNames (p : OffersPage) (docs : List Doc) : Except DartError (List String) :=
  (p.page.event docs).map fun rows => rows.map (JkbEmpOffers.rowName p.args)

/-- The i-th row has the name of the i-th document. -/
theorem rowName_of_getElem {p : OffersPage} {docs : List Doc} {names : List String} {i : Nat}
    {d : Doc} {row : String} (hnames : p.rowNames docs = .ok names) (hd : docs[i]? = some d)
    (hrow : names[i]? = some row) : p.rowName d = .ok row := by
  rcases hevent : p.page.event docs with e | rows
  · rw [rowNames, hevent] at hnames
    exact absurd hnames (by simp only [Except.map, reduceCtorEq, not_false_eq_true])
  rw [rowNames, hevent] at hnames
  rw [ListPage.event_eq, Traverse.mapM_eq_ok_iff] at hevent
  -- The row at the same place is the record of the document.
  rw [← Except.ok.inj hnames, List.getElem?_map, Option.map_eq_some_iff] at hrow
  rcases hrow with ⟨r, hr, rfl⟩
  have hdecode : p.page.fromMap d = .ok r := by
    rw [List.forall₂_iff_get] at hevent
    rcases List.getElem?_eq_some_iff.mp hd with ⟨hi, rfl⟩
    rcases List.getElem?_eq_some_iff.mp hr with ⟨hi', rfl⟩
    exact hevent.2 i hi hi'
  rw [rowName, hdecode]
  rfl

/-- On a page of either language, the name in a row is the field of its
    document that the page is opened with. -/
theorem rowName_lookup {p : OffersPage} {d : Doc} {row : String}
    (hlang : p.args.nametype = "name" ∨ p.args.nametype = "namearabic")
    (h : p.rowName d = .ok row) : d.data.lookup p.args.nametype = some (.str row) := by
  rw [rowName] at h
  rcases hdecode : p.page.fromMap d with e | r
  · rw [hdecode] at h
    exact absurd h (by simp only [Except.map, reduceCtorEq, not_false_eq_true])
  rcases ListPage.names_of_fromMap hdecode with ⟨hnamear, hnameen⟩
  rw [hdecode, Except.map, Except.ok.injEq] at h
  -- Neither field is null, the record having strings there.
  have hnotnull : Value.str row ≠ .null := by
    simp only [ne_eq, Value.scalar.injEq, reduceCtorEq, not_false_eq_true]
  refine Doc.lookup_of_field hnotnull ?_
  rcases hlang with hname | hname
  · rw [hname, hnameen, ← h, JkbEmpOffers.rowName, hname, if_neg (by decide)]
  · rw [hname, hnamear, ← h, JkbEmpOffers.rowName, hname, if_pos rfl]

end OffersPage

end JkbEmpOffers
