import JkbEmpOffers.Isolation
import JkbEmpOffers.Library.Sorting

/-!
# What a Search Finds

A search is a second query on the collection, not a filter on the list, and
the two queries differ in more than the filter. The list is ordered by the
field `order`, the greatest first, and leaves out the documents that do not
have it. A search asks for no order and gets its matches by id.

So a search need not be a part of the list: it can find an offer that the
list does not have, and can show offers the other way round.
`search_sublist_iff` says when it is one, with each row next to the document
it was built from. A search that finds nothing, or shows an error, is a part
of any list.

## Main definitions

* `ListPage.rows`: The rows of a delivered snapshot with their documents.
* `matching`: The documents that a search text matches.
* `Falling`: The documents have an order, and it falls.

## Theorems

* `getoffer2_run`: A search returns its matches as the collection has them.
* `pairwise_getoffer1`: The order of the list.
* `matching_sublist_iff`: When the matches are a part of the list.
* `rows_sublist_iff`: When the rows of two snapshots are.
* `search_sublist_iff`: The two together.
* `search_turns_around`: A search that is not a part of the list.
-/

namespace JkbEmpOffers

/-- The rows that a page shows for a snapshot, each with the document it was
    built from; none if the snapshot does not decode. -/
def ListPage.rows (page : ListPage) (docs : List Doc) : List (Doc × page.Row) :=
  match page.event docs with
  | .ok rows => docs.zip rows
  | .error _ => []

/-- The documents of a collection that have a text in the index of the stored
    language, by id. -/
def matching (store : Store) (lang : Option String) (name searchstring : String) : List Doc :=
  (store name).docs.filter (Filter.arrayContains
    (if lang = some "ar" then "searchIndexarabic" else "searchIndex") searchstring).accepts

/-- All documents have an `order`, and it falls from each to the next. -/
def Falling (o : ValueOrder) (docs : List Doc) : Prop :=
  (∀ d ∈ docs, d.has "order" = true) ∧
    docs.Pairwise fun d e => o.le (d.field "order") (e.field "order") = false

section

variable (o : ValueOrder) (store : Store) (lang : Option String) (page : ListPage)
  (name searchstring : String)

theorem mem_getoffer1 (d : Doc) :
    d ∈ (page.getoffer1 name).run o.le store ↔
      d ∈ (store name).docs ∧ d.has "order" = true := by
  rw [page.getoffer1_eq, mem_query_run, mem_lookup_run]
  simp only [unfilteredRef, Lookup.accepts, and_true, Option.some.injEq, forall_eq']

theorem getoffer2_run :
    (page.getoffer2 lang name searchstring).run o.le store
      = matching store lang name searchstring := by
  rw [page.getoffer2_eq]
  rfl

/-- The list comes by falling order, and by falling id where the order is
    equal. -/
theorem pairwise_getoffer1 :
    ((page.getoffer1 name).run o.le store).Pairwise (Sorting.Lexicographic
      (fun d e => o.le (e.field "order") (d.field "order") = true) fun d e => e.id < d.id) := by
  rw [page.getoffer1_eq]
  have hids : (((unfilteredRef "order" name).toLookup.run store).filter
      (·.has "order")).reverse.Pairwise fun d e => e.id < d.id := by
    rw [List.pairwise_reverse]
    exact ((store name).ordered.filter _).filter _
  have htotal : ∀ d e : Doc, o.le (e.field "order") (d.field "order") = true ∨
      o.le (d.field "order") (e.field "order") = true := fun d e => o.total _ _
  -- The sort keeps the falling ids where the order ties.
  exact Sorting.pairwise_insertionSort_lexicographic htotal
    (fun d e f hde hef => o.trans _ _ _ hef hde) hids

theorem matching_sublist_iff :
    (matching store lang name searchstring).Sublist ((page.getoffer1 name).run o.le store) ↔
      Falling o (matching store lang name searchstring) := by
  have hlist := pairwise_getoffer1 o store page name
  have hids : (matching store lang name searchstring).Pairwise fun d e => d.id < e.id :=
    (store name).ordered.filter _
  constructor
  · intro h
    refine ⟨fun d hd => ((mem_getoffer1 o store page name d).mp (h.subset hd)).2, ?_⟩
    -- By rising ids, so the order of the list cannot be a tie.
    refine ((hlist.sublist h).and hids).imp fun {d e} hde => ?_
    rw [Bool.eq_false_iff]
    exact fun hle => lt_asymm hde.2 (hde.1.2 hle)
  · intro h
    have hfound : (matching store lang name searchstring).Pairwise
        (Sorting.Lexicographic (fun d e => o.le (e.field "order") (d.field "order") = true)
          fun d e => e.id < d.id) := by
      refine h.2.imp fun {d e} hde => ⟨?_, fun hle => ?_⟩
      · exact (o.total _ _).resolve_left (ne_true_of_eq_false hde)
      · exact absurd hle (ne_true_of_eq_false hde)
    rw [Sorting.sublist_iff_subset (fun d e => lt_asymm) hfound hlist]
    intro d hd
    exact (mem_getoffer1 o store page name d).mpr ⟨List.mem_of_mem_filter hd, h.1 d hd⟩

end

section

variable {page : ListPage} {docs docs' : List Doc} {rows rows' : List page.Row}

/-- The rows of a snapshot, made from its documents one by one. -/
theorem zip_rows (h : page.event docs = .ok rows) :
    docs.zip rows = docs.filterMap fun d => (page.fromMap d).toOption.map fun row => (d, row) := by
  rw [ListPage.event_eq, Traverse.mapM_eq_ok_iff] at h
  induction h with
  | nil => rfl
  | cons hrow _ ih =>
      rw [List.zip_cons_cons, ih, List.filterMap_cons_some]
      rw [hrow]
      rfl

theorem map_fst_zip_rows (h : page.event docs = .ok rows) :
    (docs.zip rows).map Prod.fst = docs := by
  rw [ListPage.event_eq, Traverse.mapM_eq_ok_iff] at h
  exact List.map_fst_zip (le_of_eq h.length_eq)

/-- Of snapshots that decode, the rows are a part exactly when the documents
    are. -/
theorem zip_sublist_iff (h : page.event docs = .ok rows) (h' : page.event docs' = .ok rows') :
    (docs.zip rows).Sublist (docs'.zip rows') ↔ docs.Sublist docs' := by
  constructor
  · intro hsub
    rw [← map_fst_zip_rows h, ← map_fst_zip_rows h']
    exact hsub.map Prod.fst
  · intro hsub
    rw [zip_rows h, zip_rows h']
    exact hsub.filterMap _

/-- The rows of one snapshot are a part of those of another exactly when the
    first shows none, or the second decodes and has the documents of the first
    as a part. -/
theorem rows_sublist_iff (page : ListPage) (docs docs' : List Doc) :
    (page.rows docs).Sublist (page.rows docs') ↔
      (∃ d ∈ docs, ¬ page.Decodes d) ∨ docs = [] ∨
        ((∀ d ∈ docs', page.Decodes d) ∧ docs.Sublist docs') := by
  have hbad : (∃ d ∈ docs, ¬ page.Decodes d) ↔ ¬ ∃ rows, page.event docs = .ok rows := by
    rw [event_ok_iff]
    simp only [not_forall, exists_prop]
  rw [hbad, ← event_ok_iff, ListPage.rows, ListPage.rows]
  rcases hevent : page.event docs with e | rows
  · -- An error has no rows.
    exact iff_of_true (List.nil_sublist _) (Or.inl (by
      simp only [reduceCtorEq, exists_false, not_false_eq_true]))
  rcases hevent' : page.event docs' with e | rows'
  · -- Nothing but the empty list is a part of an error.
    simp only [List.sublist_nil, Except.ok.injEq, exists_eq', not_true_eq_false, false_or,
      reduceCtorEq, exists_false, false_and, or_false]
    rw [← List.map_eq_nil_iff, map_fst_zip_rows hevent]
  · simp only [Except.ok.injEq, exists_eq', not_true_eq_false, false_or, true_and]
    rw [zip_sublist_iff hevent hevent']
    exact ⟨Or.inr, fun h => h.elim (fun hnil => hnil ▸ List.nil_sublist _) id⟩

end

/-- For any order of the field values, store, stored language, page, collection
    and search text, the rows of the search are a part of those of the list, in
    the order of the list, exactly when nothing matches, or a match does not
    decode, or all documents with an order decode and the matches have one that
    falls from each to the next by id. -/
theorem search_sublist_iff (o : ValueOrder) (store : Store) (lang : Option String)
    (page : ListPage) (name searchstring : String) :
    (page.rows ((page.getoffer2 lang name searchstring).run o.le store)).Sublist
        (page.rows ((page.getoffer1 name).run o.le store)) ↔
      (∃ d ∈ matching store lang name searchstring, ¬ page.Decodes d) ∨
        matching store lang name searchstring = [] ∨
        ((∀ d ∈ (store name).docs, d.has "order" = true → page.Decodes d) ∧
          Falling o (matching store lang name searchstring)) := by
  rw [getoffer2_run, rows_sublist_iff, matching_sublist_iff]
  simp only [mem_getoffer1, and_imp]

/-- The number that a value is. -/
def number : Value → Int
  | .scalar (.int n) => n
  | _ => 0

/-- The order of numbers, with every other value among them as 0. -/
def byNumber : ValueOrder where
  le v w := decide (number v ≤ number w)
  total v w := by simpa only [decide_eq_true_eq] using le_total (number v) (number w)
  trans u v w := by simpa only [decide_eq_true_eq] using le_trans

/-- An offer with a place in the list, which any search for `a` finds. -/
def offer (id : String) (order : Int) : Doc :=
  ⟨id, ⟨[("name", .str id), ("namearabic", .str id), ("logo", .str "logo"),
    ("order", .scalar (.int order)), ("searchIndex", .list [.str "a"])], by
      change ["name", "namearabic", "logo", "order", "searchIndex"].Nodup
      decide⟩⟩

/-- Two offers that the list shows the other way round. -/
theorem search_turns_around :
    ¬ (ListPage.offersList.rows ((ListPage.offersList.getoffer2 none "Hotels" "a").run byNumber.le
        fun _ => (Collection.empty.put (offer "x" 1)).put (offer "y" 2))).Sublist
      (ListPage.offersList.rows ((ListPage.offersList.getoffer1 "Hotels").run byNumber.le
        fun _ => (Collection.empty.put (offer "x" 1)).put (offer "y" 2))) := by
  intro h
  exact absurd (h.map Prod.fst) (by decide)

end JkbEmpOffers
