import JkbEmpOffers.Agreement
import JkbEmpOffers.Pages

/-!
# One Bad Document

The stream of a list page decodes a whole snapshot at once, and a document
that does not decode turns the event into an error for all of them. The
handlers of the buttons, in contrast, have a `try` around each document.

`expectedRow` is what a row should be if the documents were isolated from
each other: any document with two names has one, and a logo or an expiry
that is no string counts as none. `isolated_iff` says when a page shows
exactly these rows, in the order of its query.

## Main definitions

* `ListPage.Decodes`: A document decodes on a page.
* `Named`: A document has its two names.
* `expectedRow`: The row that a document should have.
* `shownRows`: The rows that a list area shows.

## Theorems

* `event_ok_iff`: When a snapshot decodes.
* `expectedRow_eq_none`: The documents that should have a row.
* `expectedRow_of_fromMap`: A document that decodes has its row.
* `isolated_iff`: When all documents with names do.
* `nameless_hides_others`: A snapshot where they do not.
-/

namespace JkbEmpOffers

/-- A document decodes on a page. -/
def ListPage.Decodes : ListPage → Doc → Prop
  | .offersList, d => JkbEmpOffers.Decodes d
  | .resCafeOffersList, d => JkbEmpOffers.Decodes d ∧ HasLogo d

theorem event_ok_iff (page : ListPage) (docs : List Doc) :
    (∃ rows, page.event docs = .ok rows) ↔ ∀ d ∈ docs, page.Decodes d := by
  cases page with
  | offersList => exact offersList_event docs
  | resCafeOffersList => exact resCafe_event docs

/-- The two names of a document are strings. -/
def Named (d : Doc) : Prop :=
  (∃ s, d.field "namearabic" = .str s) ∧ ∃ s, d.field "name" = .str s

/-- The string in a field, if there is one. -/
def stringOf : Value → Option String
  | .str s => some s
  | _ => none

/-- The row that a document should have: none without its two names, and with
    the placeholder and `expiredatenotspecified` for what it does not have. -/
def expectedRow (l : Locale) (w : OffersArgs) (d : Doc) : Option RowView :=
  match stringOf (d.field "namearabic"), stringOf (d.field "name") with
  | some namear, some nameen =>
    some {
      avatar := avatarWidget (stringOf (d.field "logo"))
      name := if w.nametype = "namearabic" then namear else nameen
      expire := tr l "expire" ++ " " ++
        (stringOf (d.field "expire")).getD (tr l "expiredatenotspecified")
      alignRight := w.nametype = "namearabic" }
  | _, _ => none

/-- The rows that a list area shows. -/
def shownRows : Except DartError ListArea → List RowView
  | .ok (.rows rows) => rows
  | _ => []

theorem stringOf_eq_some {v : Value} {s : String} : stringOf v = some s ↔ v = .str s := by
  rcases v with (_ | _ | _ | s' | _) | _ | _
  case scalar.string =>
    simp only [stringOf, Option.some.injEq, Value.scalar.injEq, Scalar.string.injEq]
  all_goals simp only [stringOf, reduceCtorEq, Value.scalar.injEq]

theorem expectedRow_eq_none (l : Locale) (w : OffersArgs) (d : Doc) :
    expectedRow l w d = none ↔ ¬ Named d := by
  rw [expectedRow, Named]
  simp only [← stringOf_eq_some]
  rcases stringOf (d.field "namearabic") with _ | namear
  · simp only [reduceCtorEq, exists_false, false_and, not_false_eq_true]
  rcases stringOf (d.field "name") with _ | nameen
  · simp only [reduceCtorEq, exists_false, and_false, not_false_eq_true]
  · simp only [reduceCtorEq, Option.some.injEq, exists_eq', and_self, not_true_eq_false]

/-- What is cast to `String?` is the string in the field. -/
theorem stringOf_of_asStringOrNull {v : Value} {s : Option String}
    (h : v.asStringOrNull = .ok s) : stringOf v = s := by
  rcases (asStringOrNull_ok_iff v).mp ⟨s, h⟩ with rfl | ⟨t, rfl⟩
  · exact Except.ok.inj h
  · exact Except.ok.inj h

theorem expectedRow_of_fromMap {page : ListPage} (l : Locale) (w : OffersArgs) {d : Doc}
    {row : page.Row} (h : page.fromMap d = .ok row) :
    expectedRow l w d = some (itemBuilder page.logo l w row) := by
  have hfields : stringOf (d.field "namearabic") = some row.namear ∧
      stringOf (d.field "name") = some row.nameen ∧
      stringOf (d.field "logo") = page.logo row.logo ∧
      stringOf (d.field "expire") = row.expire := by
    rcases ListPage.names_of_fromMap h with ⟨hnamear, hnameen⟩
    refine ⟨by rw [hnamear]; rfl, by rw [hnameen]; rfl, ?_⟩
    cases page with
    | offersList =>
        rcases (fromMap_ok_iff Value.asStringOrNull d row).mp h with ⟨-, -, hlogo, hexpire⟩
        exact ⟨stringOf_of_asStringOrNull hlogo, stringOf_of_asStringOrNull hexpire⟩
    | resCafeOffersList =>
        rcases (fromMap_ok_iff Value.asString d row).mp h with ⟨-, -, hlogo, hexpire⟩
        refine ⟨?_, stringOf_of_asStringOrNull hexpire⟩
        rw [Value.asString_eq_ok.mp hlogo]
        rfl
  rcases hfields with ⟨hnamear, hnameen, hlogo, hexpire⟩
  rw [expectedRow, hnamear, hnameen, hlogo, hexpire]
  rfl

/-- The rows of a snapshot that decodes are those that its documents should
    have. -/
theorem rows_of_event {page : ListPage} (l : Locale) (w : OffersArgs) {docs : List Doc}
    {rows : List page.Row} (h : page.event docs = .ok rows) :
    rows.map (itemBuilder page.logo l w) = docs.filterMap (expectedRow l w) := by
  rw [ListPage.event_eq, Traverse.mapM_eq_ok_iff] at h
  induction h with
  | nil => rfl
  | cons hrow _ ih =>
      rw [List.map_cons, ih, List.filterMap_cons_some (expectedRow_of_fromMap l w hrow)]

/-- For any store, stored language, page, arguments and search text, the page
    shows the row of every document that has its two names, once and in the
    order of the query, whatever the other documents are, exactly when all
    documents of the snapshot decode or none has two names. -/
theorem isolated_iff (le : Value → Value → Bool) (store : Store) (lang : Option String)
    (l : Locale) (p : OffersPage) (searchstring : Option String) :
    shownRows (p.page.area l p.args ((p.stream lang searchstring).run le store))
        = ((p.stream lang searchstring).run le store).filterMap (expectedRow l p.args) ↔
      (∀ d ∈ (p.stream lang searchstring).run le store, p.page.Decodes d) ∨
        ∀ d ∈ (p.stream lang searchstring).run le store, ¬ Named d := by
  generalize (p.stream lang searchstring).run le store = docs
  simp only [← expectedRow_eq_none l p.args]
  rw [ListPage.area_eq, ← event_ok_iff, ← List.filterMap_eq_nil_iff]
  rcases hevent : p.page.event docs with e | rows
  · -- An error hides every row there should be.
    simp only [shownRows, reduceCtorEq, exists_false, false_or, eq_comm]
  · exact iff_of_true (rows_of_event l p.args hevent) (Or.inl ⟨rows, rfl⟩)

/-- A document that has nothing but an order, next to one with everything. -/
def nameless : Collection :=
  (Collection.empty.put ⟨"a", ⟨[("order", .scalar (.int 1))], List.nodup_singleton _⟩⟩).put
    ⟨"b", ⟨[("name", .str "Hotel"), ("namearabic", .str "فندق"), ("logo", .str "logo"),
      ("order", .scalar (.int 2))], by decide⟩⟩

/-- The document without names hides the row of the other one. -/
theorem nameless_hides_others :
    shownRows (ListPage.offersList.area .enUS ⟨"Hotels", "name", "searchIndex", "Hotels Offers"⟩
        ((OffersPage.stream none ⟨.offersList, ⟨"Hotels", "name", "searchIndex", "Hotels Offers"⟩⟩
          none).run (fun _ _ => true) fun _ => nameless))
      ≠ ((OffersPage.stream none ⟨.offersList, ⟨"Hotels", "name", "searchIndex", "Hotels Offers"⟩⟩
          none).run (fun _ _ => true) fun _ => nameless).filterMap
        (expectedRow .enUS ⟨"Hotels", "name", "searchIndex", "Hotels Offers"⟩) := by
  decide

end JkbEmpOffers
