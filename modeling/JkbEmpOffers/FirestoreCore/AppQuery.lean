import JkbEmpOffers.FirestoreCore.EventManager
import JkbEmpOffers.FirestoreCore.WatchChange
import JkbEmpOffers.ListStream

/-!
# The Queries of the App

What the pages of the app ask for, as queries of the client, and the answer
to such a query, as the app has it. For the app a collection is a list of
documents in the order of their ids, and an ordered query sorts that list by
a field in a way of comparing values that is left open. The client has
documents under keys, and sorts by its comparator.

The two answers are the same documents in the same order, where values are
compared as the client compares them. So what a page shows in the end is what
the client tells the listeners of the page's query.

The plugin between the two is no part of the sources. `Codec` says what is
used of it: strings and lists are stored as such, and a document as the map
of its fields.

The way from one answer to the other has three parts. A document matches on
both sides, clause by clause, as long as no clause is about the key itself,
which none of the app is. Two documents compare on both sides in the same way:
the client adds the key as a last order, and the app has its documents in the
order of their ids. And two sorted lists with corresponding members
correspond. An ordered query of the app turns the ids around before it sorts,
which gives what the descending order of the key does.

## Main definitions

* `Codec`: How the values of Dart are stored.
* `Codec.order`: The order of values that the client has.
* `Query.ofApp`: A query of the app.
* `Stores`, `Holds`: A document, and a collection, as the client has it.

## Theorems

* `matches_ofApp`: Both have the same documents in the answer.
* `compare_lookup`, `compare_ordered`: Both have them in the same order.
* `result_ofApp`: Both have the same answer.
* `page_result`: What the listeners of a page's query are told.
* `page_view`: What its view shows, whatever the backend sends.
-/

namespace JkbEmpOffers

/-- The field that a `where` clause reads. -/
def Filter.name : Filter → String
  | .isEqualTo name _ | .arrayContains name _ => name

/-- The fields that a query reads. -/
def Query.names (q : Query) : List String :=
  q.filter.toList.map Filter.name ++ q.orderBy.toList

namespace FirestoreCore

/-- How the plugin stores the values of Dart and the fields of a document. -/
structure Codec where
  value : JkbEmpOffers.Value → Value
  fields : DartMap → List (String × Value)
  string : ∀ v s, value v = .string s ↔ v = .str s
  list : ∀ xs, value (.list xs) = .array (xs.map value)
  array : ∀ v ys, value v = .array ys → ∃ xs, v = .list xs
  findEntry : ∀ data name,
    (Value.map (fields data)).findEntry name = (data.lookup name).map value

/-- The order of values that the client has. -/
def Codec.order (codec : Codec) : ValueOrder where
  le v w := (Value.compare (codec.value v) (codec.value w)).isLE
  total v w := by
    rw [@Std.OrientedCmp.eq_swap _ Value.compare _ (codec.value w)]
    cases Value.compare (codec.value v) (codec.value w)
    · exact Or.inl rfl
    · exact Or.inl rfl
    · exact Or.inr rfl
  trans _ _ _ := Std.TransCmp.isLE_trans

/-- A `where` clause of the app. -/
def Filter.ofApp : JkbEmpOffers.Filter → Filter
  | .isEqualTo name value => .field ⟨[name], .equal, .string value, rfl⟩
  | .arrayContains name value => .field ⟨[name], .arrayContains, .string value, rfl⟩

/-- A query of the app: what its calls build, one after the other. -/
def Query.ofApp (q : JkbEmpOffers.Query) : Query :=
  (q.orderBy.toList.map fun name => OrderBy.mk [name] .descending).foldl Query.addingOrderBy
    ((q.filter.toList.map Filter.ofApp).foldl Query.addingFilter { path := [q.collection] })

/-- The parts of a query of the app. -/
theorem ofApp_eq (q : JkbEmpOffers.Query) :
    Query.ofApp q = {
      path := [q.collection]
      filters := q.filter.toList.map Filter.ofApp
      explicitOrderBys := q.orderBy.toList.map fun name => ⟨[name], .descending⟩ } := by
  rcases q with ⟨⟨collection, filter⟩, orderBy⟩
  cases filter <;> cases orderBy <;> rfl

/-- The key of a document in a collection. -/
def DocumentKey.ofId (collection id : String) : DocumentKey :=
  ⟨[collection, id], Nat.mod_self 2⟩

/-- The client has a document of the app. -/
structure Stores (codec : Codec) (collection : String) (d : Document) (doc : Doc) : Prop where
  key : d.key = .ofId collection doc.id
  found : d.isFoundDocument = true
  value : d.value = .map (codec.fields doc.data)

/-- The client has a collection of the app, and no other documents in it. -/
structure Holds (codec : Codec) (store : Store) (collection : String) (documents : Documents) :
    Prop where
  stored : ∀ doc ∈ (store collection).docs,
    ∃ d, documents.find (.ofId collection doc.id) = some d ∧ Stores codec collection d doc
  known : ∀ id d, documents.find (.ofId collection id) = some d → d.isFoundDocument = true →
    ∃ doc ∈ (store collection).docs, Stores codec collection d doc

section

variable {codec : Codec} {collection : String} {d e : Document} {doc doc' : Doc}
  {q : JkbEmpOffers.Query}

/-- A field of a stored document is the stored value of that field. -/
theorem field_of_stores (h : Stores codec collection d doc) (name : String) :
    d.field [name] = (doc.data.lookup name).map codec.value := by
  rw [Document.field, h.value, Value.get, codec.findEntry]
  cases doc.data.lookup name <;> rfl

/-- A string is equal to itself alone. -/
theorem compare_string {v : Value} {s : String} :
    (v.typeOrder == (Value.string s).typeOrder && v.compare (.string s) == .eq) = true ↔
      v = .string s := by
  rw [Bool.and_eq_true, beq_iff_eq, beq_iff_eq]
  constructor
  · rintro ⟨htype, hcompare⟩
    generalize hw : Value.string s = w at htype hcompare
    cases Value.sameType_of_eq htype with
    | string a b =>
        have hab : compare a b = .eq := hcompare
        rw [Std.LawfulEqCmp.eq_of_compare hab]
    | _ => exact absurd hw Value.noConfusion
  · rintro rfl
    exact ⟨rfl, Std.ReflCmp.compare_self⟩

/-- A text is equal to nothing else. -/
theorem equals_string {v : Value} {s : String} :
    v.equals (.string s) = true ↔ v = .string s := by
  constructor
  · intro h
    have htype := Value.typeOrder_of_equals h
    -- What is equal ties, and only the string itself ties with a string.
    refine compare_string.mp ?_
    rw [Bool.and_eq_true, beq_iff_eq, beq_iff_eq]
    exact ⟨htype, Value.compare_of_equals v _ h⟩
  · rintro rfl
    exact beq_self_eq_true s

/-- A name of a field is not the path of the key, unless it is called so. -/
theorem isKeyFieldPath_name {name : String} (h : name ≠ "__name__") :
    FieldPath.isKeyFieldPath [name] = false := by
  rw [FieldPath.isKeyFieldPath, beq_eq_false_iff_ne]
  exact fun heq => h (List.singleton_inj.mp heq)

/-- An array that is stored has a string exactly when the list does. -/
theorem contains_list (xs : List JkbEmpOffers.Value) (value : String) :
    Value.contains (xs.map codec.value) (.string value) = xs.contains (.str value) := by
  rw [Bool.eq_iff_iff, Value.contains, List.any_eq_true, List.contains_iff_mem]
  constructor
  · rintro ⟨w, hw, hequals⟩
    rcases List.mem_map.mp hw with ⟨v, hv, rfl⟩
    rw [← (codec.string v value).mp (equals_string.mp hequals)]
    exact hv
  · intro hmem
    refine ⟨codec.value (.str value), List.mem_map_of_mem hmem, equals_string.mpr ?_⟩
    exact (codec.string _ value).mpr rfl

/-- The filter of a search finds what `arrayContains` does: a list that has
    the text. -/
theorem matches_array {v : JkbEmpOffers.Value} {name : String} (value : String)
    (hfield : d.field [name] = some (codec.value v)) :
    FieldFilter.matchesField ⟨[name], .arrayContains, .string value, rfl⟩ d = true ↔
      ∃ xs, v = .list xs ∧ xs.contains (.str value) = true := by
  simp only [FieldFilter.matchesField, hfield]
  constructor
  · intro h
    cases hv : codec.value v with
    | array contents =>
        rcases codec.array v contents hv with ⟨xs, rfl⟩
        rw [hv] at h
        rw [codec.list, Value.array.injEq] at hv
        exact ⟨xs, rfl, contains_list xs value ▸ hv ▸ h⟩
    | _ =>
        rw [hv] at h
        exact absurd h Bool.false_ne_true
  · rintro ⟨xs, rfl, hcontains⟩
    rw [codec.list]
    exact (contains_list xs value).trans hcontains

/-- A clause accepts the same documents on both sides. -/
theorem matches_filter (h : Stores codec collection d doc) {f : JkbEmpOffers.Filter}
    (hkey : f.name ≠ "__name__") : (Filter.ofApp f).matchesDoc d = f.accepts doc := by
  have hfield : ∀ op value hdated, FieldFilter.matchesDoc ⟨[f.name], op, value, hdated⟩ d
      = FieldFilter.matchesField ⟨[f.name], op, value, hdated⟩ d := by
    intro op value hdated
    have hpath : FieldPath.isKeyFieldPath [f.name] = false := isKeyFieldPath_name hkey
    rw [FieldFilter.matchesDoc, hpath, if_neg Bool.false_ne_true]
  cases f with
  -- A field that is missing is equal to nothing and contains nothing.
  | isEqualTo name value =>
      refine (hfield .equal (.string value) rfl).trans ?_
      have hdoc := field_of_stores h name
      rw [JkbEmpOffers.Filter.accepts]
      simp only [Filter.name, FieldFilter.matchesField, hdoc]
      rcases doc.data.lookup name with _ | v
      · rfl
      · rw [Bool.eq_iff_iff]
        refine compare_string.trans ((codec.string v value).trans ?_)
        rw [beq_iff_eq, Option.some.injEq]
  | arrayContains name value =>
      refine (hfield .arrayContains (.string value) rfl).trans ?_
      have hdoc := field_of_stores h name
      rw [JkbEmpOffers.Filter.accepts]
      rcases hlookup : doc.data.lookup name with _ | v
      · rw [hlookup] at hdoc
        simp only [Filter.name, FieldFilter.matchesField, hdoc, Option.map_none]
      · rw [hlookup] at hdoc
        rw [Bool.eq_iff_iff]
        refine (matches_array value hdoc).trans ?_
        cases v with
        | list xs =>
            simp only [JkbEmpOffers.Value.list.injEq, exists_eq_left']
        | _ =>
            simp only [reduceCtorEq, false_and, exists_false, Bool.false_eq_true]

/-- What a query of the app orders by is a field. -/
theorem isKeyFieldPath_orderBy {q : JkbEmpOffers.Query} {name : String}
    (hkey : "__name__" ∉ q.names) (horder : q.orderBy = some name) :
    FieldPath.isKeyFieldPath [name] = false := by
  refine isKeyFieldPath_name fun heq => hkey ?_
  rw [Query.names, horder, heq]
  exact List.mem_append_right _ List.mem_cons_self

/-- The orders of a query of the app: the key comes last, and is descending
    if there is another. -/
theorem orderBys_ofApp (q : JkbEmpOffers.Query) (hkey : "__name__" ∉ q.names) :
    (Query.ofApp q).orderBys =
      (match q.orderBy with
        | none => [⟨FieldPath.keyFieldPath, .ascending⟩]
        | some name => [⟨[name], .descending⟩, ⟨FieldPath.keyFieldPath, .descending⟩]) := by
  -- No clause of the app is an inequality, so no order is made up for one.
  have hinequality : (Query.ofApp q).inequalityFilterField = none := by
    rw [Query.inequalityFilterField, ofApp_eq]
    rcases q.filter with _ | f
    · rfl
    · cases f <;> rfl
  rw [Query.orderBys, hinequality]
  rcases horder : q.orderBy with _ | name
  · simp only [ofApp_eq, horder]
    rfl
  · have hpath := isKeyFieldPath_orderBy hkey horder
    simp only [ofApp_eq, horder, Option.toList_some, List.map_cons, List.map_nil, List.any_cons,
      List.any_nil, hpath, Bool.or_false, Bool.false_eq_true, if_false, List.getLast?_singleton,
      Option.map_some, Option.getD_some, List.singleton_append]

/-- Both have the same documents in the answer. -/
theorem matches_ofApp (h : Stores codec q.collection d doc) (hkey : "__name__" ∉ q.names) :
    (Query.ofApp q).matchesDoc d = true ↔
      q.accepts doc = true ∧ ∀ name, q.orderBy = some name → doc.has name = true := by
  -- A document of the collection is in the path of the query.
  have hpath : (Query.ofApp q).matchesPathAndCollectionGroup d = true := by
    have hparent : [q.collection].isPrefixOf [q.collection, doc.id] = true := by
      rw [List.isPrefixOf_cons_cons, beq_self_eq_true, Bool.true_and]
      rfl
    rw [Query.matchesPathAndCollectionGroup, h.key, ofApp_eq]
    exact hparent
  have hfilters : (Query.ofApp q).matchesFilters d = q.accepts doc := by
    rw [Query.matchesFilters, ofApp_eq, Lookup.accepts]
    rcases hfilter : q.filter with _ | f
    · rfl
    · have hname : f.name ≠ "__name__" := by
        rintro heq
        refine hkey ?_
        rw [Query.names, hfilter, ← heq]
        exact List.mem_append_left _ List.mem_cons_self
      simp only [Option.toList_some, List.map_cons, List.map_nil, List.all_cons, List.all_nil,
        Bool.and_true, matches_filter h hname]
  -- It has the field that is ordered by, if any.
  have horder : (Query.ofApp q).matchesOrderBy d = true ↔
      ∀ name, q.orderBy = some name → doc.has name = true := by
    rw [Query.matchesOrderBy, orderBys_ofApp q hkey]
    rcases horderBy : q.orderBy with _ | name
    · simp only [List.all_cons, List.all_nil, beq_self_eq_true, Bool.true_or, Bool.and_true,
        reduceCtorEq, false_imp_iff, implies_true]
    · have hpath : ([name] == FieldPath.keyFieldPath) = false :=
        isKeyFieldPath_orderBy hkey horderBy
      simp only [List.all_cons, List.all_nil, hpath, beq_self_eq_true, Bool.false_or, Bool.true_or,
        Bool.and_true, field_of_stores h, Option.isSome_map, Option.some.injEq, forall_eq', Doc.has]
  -- And there are no bounds.
  have hbounds : (Query.ofApp q).matchesBounds d = true := by
    rw [ofApp_eq]
    rfl
  rw [Query.matchesDoc, h.found, hpath, hfilters, hbounds]
  simp only [Bool.true_and, Bool.and_eq_true, horder, and_true]
  exact and_comm

/-- In one collection the keys are in the order of the ids. -/
theorem compareTo_stores (h : Stores codec collection d doc) (h' : Stores codec collection e doc') :
    d.key.compareTo e.key = compare doc.id doc'.id := by
  rw [h.key, h'.key, DocumentKey.compareTo, DocumentKey.ofId, DocumentKey.ofId,
    List.compareLex_cons_cons, List.compareLex_cons_cons, List.compareLex_nil_nil,
    Ordering.then_eq]
  exact congrArg (Ordering.then · _) Std.ReflCmp.compare_self

/-- Both have them in the same order, by id where there is no other. -/
theorem compare_lookup (h : Stores codec q.collection d doc) (h' : Stores codec q.collection e doc')
    (hkey : "__name__" ∉ q.names) (horder : q.orderBy = none) :
    (Query.ofApp q).comparator.compare d e = .lt ↔ doc.id < doc'.id := by
  have hcompare : (Query.ofApp q).comparator.compare d e = compare doc.id doc'.id := by
    have hby : (Query.ofApp q).comparator.compare = Query.compareBy (Query.ofApp q).orderBys := rfl
    rw [hby, orderBys_ofApp q hkey, horder, ← compareTo_stores h h']
    simp only [compareBy_cons, compareLex]
    exact Ordering.then_eq
  rw [hcompare, compare_lt_iff_lt]

/-- Where there is one, by the field and then by id, both descending. -/
theorem compare_ordered (h : Stores codec q.collection d doc)
    (h' : Stores codec q.collection e doc') (hkey : "__name__" ∉ q.names) {name : String}
    (horder : q.orderBy = some name) (hhas : doc.has name = true) (hhas' : doc'.has name = true) :
    (Query.ofApp q).comparator.compare d e = .lt ↔
      Sorting.Lexicographic
        (fun d e => codec.order.le (e.field name) (d.field name) = true)
        (fun d e => e.id < d.id) doc doc' := by
  rcases Option.isSome_iff_exists.mp hhas with ⟨v, hv⟩
  rcases Option.isSome_iff_exists.mp hhas' with ⟨w, hw⟩
  have hcompare : (Query.ofApp q).comparator.compare d e
      = (Value.compare (codec.value w) (codec.value v)).then (compare doc'.id doc.id) := by
    have hby : (Query.ofApp q).comparator.compare = Query.compareBy (Query.ofApp q).orderBys := rfl
    have hpath := isKeyFieldPath_orderBy hkey horder
    have hfield : OrderBy.compare ⟨[name], .descending⟩ d e
        = Value.compare (codec.value w) (codec.value v) := by
      rw [OrderBy.compare, hpath, if_neg Bool.false_ne_true, field_of_stores h, field_of_stores h',
        hv, hw]
      exact Std.OrientedCmp.eq_swap.symm
    have hid : OrderBy.compare ⟨FieldPath.keyFieldPath, .descending⟩ d e
        = compare doc'.id doc.id := by
      rw [← compareTo_stores h' h]
      exact (@Std.OrientedCmp.eq_swap _ DocumentKey.compareTo _ e.key d.key).symm
    rw [hby, orderBys_ofApp q hkey, horder]
    simp only [compareBy_cons, compareLex, hfield, hid]
    rw [Query.compareBy, Ordering.then_eq]
  have hle : ∀ v w, codec.order.le v w = (Value.compare (codec.value v) (codec.value w)).isLE :=
    fun _ _ => rfl
  -- Both descend, so the second is compared with the first.
  rw [hcompare, Sorting.Lexicographic, Doc.field, Doc.field, hv, hw, Option.getD_some,
    Option.getD_some, hle, hle, @Std.OrientedCmp.eq_swap _ Value.compare _ (codec.value v),
    ← compare_lt_iff_lt]
  cases Value.compare (codec.value w) (codec.value v) with
  | lt => exact iff_of_true rfl ⟨rfl, fun h => absurd h Bool.false_ne_true⟩
  | eq => exact ⟨fun h => ⟨rfl, fun _ => h⟩, fun h => h.2 rfl⟩
  | gt => exact iff_of_false Ordering.noConfusion fun h => Bool.false_ne_true h.1

/-- A document of the answer, on both sides. -/
def Answer (codec : Codec) (q : JkbEmpOffers.Query) (d : Document) (doc : Doc) : Prop :=
  Stores codec q.collection d doc ∧ ∀ name, q.orderBy = some name → doc.has name = true

/-- The documents of a collection have its name and an id for a key. -/
theorem exists_id (h : (Query.ofApp q).matchesPathAndCollectionGroup d = true) :
    ∃ id, d.key = .ofId q.collection id := by
  rw [ofApp_eq] at h
  have hparent : (2 == d.key.path.length && [q.collection].isPrefixOf d.key.path) = true := h
  rcases hkey : d.key with ⟨path, valid⟩
  rw [hkey, Bool.and_eq_true, beq_iff_eq] at hparent
  -- The path of the parent has one segment, so that of the document has two.
  rcases path with _ | ⟨collection, _ | ⟨id, _ | ⟨x, path⟩⟩⟩
  · exact absurd hparent.1 (Nat.succ_ne_zero 1)
  · exact absurd hparent.1 (Nat.succ_succ_ne_one 0)
  · have hprefixed := hparent.2
    rw [List.isPrefixOf_cons_cons, Bool.and_eq_true, beq_iff_eq] at hprefixed
    refine ⟨id, ?_⟩
    simp only [hprefixed.1, DocumentKey.ofId]
  · exact absurd hparent.1 (by simp only [List.length_cons]; omega)

/-- What the client's query finds, the query of the app does. -/
theorem run_of_ordered {store : Store} {documents : Documents}
    (hholds : Holds codec store q.collection documents) (hkey : "__name__" ∉ q.names)
    (hd : d ∈ (Query.ofApp q).ordered documents) :
    ∃ doc ∈ q.run codec.order.le store, Answer codec q d doc := by
  rcases Query.mem_ordered.mp hd with ⟨hfind, hmatches⟩
  have hparts := hmatches
  simp only [Query.matchesDoc, Bool.and_eq_true] at hparts
  rcases exists_id hparts.1.1.1.2 with ⟨id, hid⟩
  rw [hid] at hfind
  rcases hholds.known id d hfind hparts.1.1.1.1 with ⟨doc, hdoc, hstores⟩
  rcases (matches_ofApp hstores hkey).mp hmatches with ⟨haccepts, hhas⟩
  refine ⟨doc, ?_, hstores, hhas⟩
  rw [mem_query_run, mem_lookup_run]
  exact ⟨⟨hdoc, haccepts⟩, hhas⟩

/-- And the other way round. -/
theorem ordered_of_run {store : Store} {documents : Documents}
    (hholds : Holds codec store q.collection documents) (hkey : "__name__" ∉ q.names)
    (hdoc : doc ∈ q.run codec.order.le store) :
    ∃ d ∈ (Query.ofApp q).ordered documents, Answer codec q d doc := by
  rw [mem_query_run, mem_lookup_run] at hdoc
  rcases hholds.stored doc hdoc.1.1 with ⟨d, hfind, hstores⟩
  refine ⟨d, Query.mem_ordered.mpr ⟨?_, ?_⟩, hstores, hdoc.2⟩
  · rw [hstores.key]
    exact hfind
  · exact (matches_ofApp hstores hkey).mpr ⟨hdoc.1.2, hdoc.2⟩

/-- Both have the same answer. -/
theorem result_ofApp {store : Store} {documents : Documents}
    (hholds : Holds codec store q.collection documents) (hkey : "__name__" ∉ q.names) :
    List.Forall₂ (Stores codec q.collection) ((Query.ofApp q).result documents)
      (q.run codec.order.le store) := by
  have hasymm : ∀ d e, (Query.ofApp q).comparator.compare d e = .lt →
      ¬ (Query.ofApp q).comparator.compare e d = .lt := by
    intro d e h
    rw [@Std.OrientedCmp.eq_swap _ (Query.ofApp q).comparator.compare, h]
    exact Ordering.noConfusion
  have hresult : (Query.ofApp q).result documents = (Query.ofApp q).ordered documents := by
    rw [ofApp_eq]
    rfl
  have hids : (q.toLookup.run store).Pairwise fun a b => a.id < b.id :=
    (store q.collection).ordered.filter _
  -- Both are sorted by orders that agree and have the same members.
  have hall : List.Forall₂ (Answer codec q) ((Query.ofApp q).ordered documents)
      (q.run codec.order.le store) := by
    rcases horder : q.orderBy with _ | name
    · have hrun : (q.run codec.order.le store).Pairwise fun a b => a.id < b.id := by
        rw [JkbEmpOffers.Query.run, horder]
        exact hids
      exact Sorting.forall₂_of_pairwise hasymm (fun _ _ h h' => lt_asymm h h')
        (fun _ _ _ _ h h' => compare_lookup h.1 h'.1 hkey horder)
        (Query.sorted_ordered _ documents) hrun (fun d hd => run_of_ordered hholds hkey hd)
        fun doc hdoc => ordered_of_run hholds hkey hdoc
    -- The ids are turned around first, and the sort is stable.
    · have hrun : (q.run codec.order.le store).Pairwise (Sorting.Lexicographic
          (fun d e => codec.order.le (e.field name) (d.field name) = true)
          fun d e => e.id < d.id) := by
        rw [JkbEmpOffers.Query.run, horder]
        exact Sorting.pairwise_insertionSort_lexicographic
          (fun d e => codec.order.total (e.field name) (d.field name))
          (fun d e f hde hef =>
            codec.order.trans (f.field name) (e.field name) (d.field name) hef hde)
          (List.pairwise_reverse.mpr (hids.filter _))
      exact Sorting.forall₂_of_pairwise hasymm
        (fun a b hab hba => lt_asymm (hab.2 hba.1) (hba.2 hab.1))
        (fun _ _ _ _ h h' =>
          compare_ordered h.1 h'.1 hkey horder (h.2 name horder) (h'.2 name horder))
        (Query.sorted_ordered _ documents) hrun (fun d hd => run_of_ordered hholds hkey hd)
        fun doc hdoc => ordered_of_run hholds hkey hdoc
  rw [hresult]
  exact hall.imp fun _ _ h => h.1

/-- A user has a document of the app, or one with an equal value. -/
structure Reads (codec : Codec) (collection : String) (d : Document) (doc : Doc) : Prop where
  key : d.key = .ofId collection doc.id
  value : d.value = .map (codec.fields doc.data) ∨
    d.value.equals (.map (codec.fields doc.data)) = true

/-- A document that shows one that is stored reads like it. -/
theorem reads_of_equals (h : Stores codec collection e doc) (hkey : d.key = e.key)
    (hvalue : d = e ∨ d.value.equals e.value = true) : Reads codec collection d doc := by
  refine ⟨hkey.trans h.key, ?_⟩
  rw [← h.value]
  exact hvalue.imp_left (congrArg Document.value)

/-- So do all the documents of an answer. -/
theorem forall₂_reads {R : Document → Document → Prop} {docs answer : List Document}
    {shown : List Doc}
    (hequals : ∀ d e, R d e → d.key = e.key ∧ (d = e ∨ d.value.equals e.value = true))
    (h : List.Forall₂ R docs answer)
    (h' : List.Forall₂ (Stores codec collection) answer shown) :
    List.Forall₂ (Reads codec collection) docs shown := by
  induction h generalizing shown with
  | nil =>
      cases h'
      exact .nil
  | cons hhead htail ih =>
      cases h' with
      | cons hhead' htail' =>
          rcases hequals _ _ hhead with ⟨hkey, hvalue⟩
          exact .cons (reads_of_equals hhead' hkey hvalue) (ih htail')

end

/-- No query of the app has a limit. -/
theorem limits_ofApp (q : JkbEmpOffers.Query) : (Query.ofApp q).Limits := by
  rw [ofApp_eq]
  exact fun h => absurd rfl h

/-- The list of a page is asked for by `order`, and a search by an index. -/
theorem names_stream (lang : Option String) (p : OffersPage) (searchstring : Option String) :
    "__name__" ∉ (p.stream lang searchstring).names := by
  have horder : "__name__" ∉ (unfilteredRef "order" p.args.name).names :=
    List.not_mem_cons_of_ne_of_not_mem (by decide) List.not_mem_nil
  have hsearch : ∀ s,
      "__name__" ∉ (searchRef "searchIndexarabic" "searchIndex" lang p.args.name s).names := by
    intro s
    refine List.not_mem_cons_of_ne_of_not_mem ?_ List.not_mem_nil
    rw [Filter.name]
    split_ifs <;> decide
  have hstream : "__name__" ∉ (streamFor (unfilteredRef "order" p.args.name)
      (searchRef "searchIndexarabic" "searchIndex" lang p.args.name) searchstring).names := by
    cases searchstring with
    | none => exact horder
    | some s =>
        rw [streamFor]
        split_ifs
        · exact horder
        · exact hsearch s
  rw [OffersPage.stream]
  cases p.page with
  | offersList => exact hstream
  | resCafeOffersList => exact hstream

/-- The orders of a query of the app lead through the document alone. -/
theorem plain_of_stores {codec : Codec} {collection : String} {d : Document} {doc : Doc}
    {q : JkbEmpOffers.Query} (h : Stores codec collection d doc) (hkey : "__name__" ∉ q.names)
    (htype : doc.data.lookup typeKey = none) : PlainFor (.ofApp q) d := by
  refine plain_of_segments (fun o ho => ?_) ?_
  · rw [orderBys_ofApp q hkey] at ho
    rcases horder : q.orderBy with _ | name
    · rw [horder] at ho
      exact ⟨"__name__", by rw [List.mem_singleton.mp ho]; rfl⟩
    · rw [horder] at ho
      rcases List.mem_cons.mp ho with rfl | ho
      · exact ⟨name, rfl⟩
      · exact ⟨"__name__", by rw [List.mem_singleton.mp ho]; rfl⟩
  · have hentry := codec.findEntry doc.data typeKey
    rw [htype, Option.map_none, Value.findEntry, Option.map_eq_none_iff] at hentry
    have hserver : Value.isServerTimestamp (codec.fields doc.data) = false := by
      rw [Value.isServerTimestamp, hentry, Bool.and_false]
    rw [h.value, Value.typeOrder, hserver, if_neg Bool.false_ne_true]
    split_ifs <;> exact TypeOrder.noConfusion

open Client in
/-- Whatever a page of the app asks for, in either language and with any text
    in its search field, and in whatever order the events come: as long as
    every event keeps its promise and users who want changes of metadata have
    asked for them, nothing aborts, and once the view is in sync and the
    client has the collection of the page, with no committed change on its way
    back, all who listen have been called and have the documents that the
    query of the page stands for, in its order. -/
theorem page_result (codec : Codec) (store : Store) (lang : Option String) (p : OffersPage)
    (searchstring : Option String) (documents : Documents) (remoteKeys : DocumentKeySet)
    (current : Bool) (resumeToken : List UInt8) (options : ListenOptions)
    (includeMetadataChanges : Bool) (events : List ClientEvent)
    (hpromised : Promised (.ofApp (p.stream lang searchstring)) documents remoteKeys current
      resumeToken options includeMetadataChanges events)
    (hplain : PlainDocs (.ofApp (p.stream lang searchstring)) documents)
    (hasked : includeMetadataChanges = true → options.includeDocumentMetadataChanges = true)
    (hevents : ∀ event ∈ events, Wellformed (.ofApp (p.stream lang searchstring)) event) :
    ∃ client out, run (.ofApp (p.stream lang searchstring)) documents remoteKeys current
        resumeToken options includeMetadataChanges events = some (client, out) ∧
      (client.queryView.view.syncState = .synced →
        Holds codec store p.args.name
          (events.foldl account (documents, [(options, includeMetadataChanges)])).1 →
        Settled (.ofApp (p.stream lang searchstring))
          (events.foldl account (documents, [(options, includeMetadataChanges)])).1 →
        ∀ sub ∈ client.events.listeners, sub.listener.raisedInitialEvent = true ∧
          List.Forall₂ (Reads codec p.args.name) sub.docs
            ((p.stream lang searchstring).run codec.order.le store)) := by
  rcases run_spec (limits_ofApp _) hpromised hplain hasked hevents with ⟨client, out, hrun, hend⟩
  refine ⟨client, out, hrun, fun hsynced hholds hsettled sub hsub => ?_⟩
  have hcollection := p.stream_collection lang searchstring
  have hresult := result_ofApp (q := p.stream lang searchstring) (hcollection ▸ hholds)
    (names_stream lang p searchstring)
  rcases hend.answered hsynced hsettled hsub with ⟨hraised, hanswer⟩
  exact ⟨hraised, forall₂_reads (fun _ _ h => ⟨h.1, h.2.imp_right And.right⟩) hanswer
    (hcollection ▸ hresult)⟩

namespace Codec

mutual

/-- Values as they are. What the app only ever prints is stored as a
    reference, whichever it is. -/
def plainValue : JkbEmpOffers.Value → Value
  | .scalar .null => .null
  | .scalar (.bool b) => .boolean b
  | .scalar (.int n) => .integer (Int64.ofInt n)
  | .scalar (.string s) => .string s
  | .scalar (.other _ text) => .reference text
  | .list xs => .array (plainValues xs)
  | .map es => .map (plainEntries es)

def plainValues : List JkbEmpOffers.Value → List Value
  | [] => []
  | x :: xs => plainValue x :: plainValues xs

def plainEntries : List (String × JkbEmpOffers.Value) → List (String × Value)
  | [] => []
  | (k, x) :: es => (k, plainValue x) :: plainEntries es

end

/-- The elements of a list are stored one by one. -/
theorem plainValues_eq (xs : List JkbEmpOffers.Value) : plainValues xs = xs.map plainValue := by
  induction xs with
  | nil => rfl
  | cons x xs ih => rw [plainValues, ih, List.map_cons]

/-- And so are the entries of a map, each under its own key. -/
theorem findEntry_plainEntries (es : List (String × JkbEmpOffers.Value)) (name : String) :
    (Value.map (plainEntries es)).findEntry name = (es.lookup name).map plainValue := by
  induction es with
  | nil => rfl
  | cons e es ih =>
      rcases e with ⟨k, v⟩
      rw [plainEntries, List.lookup_cons, Value.findEntry, List.find?_cons, BEq.comm]
      rcases name == k with _ | _
      · exact ih
      · rfl

/-- A plugin that does nothing but store. -/
def plain : Codec where
  value := plainValue
  fields data := plainEntries data.entries
  string v s := by
    cases v with
    | scalar a => cases a <;> simp [plainValue]
    | list xs => simp [plainValue]
    | map es => simp [plainValue]
  list xs := by rw [plainValue, plainValues_eq]
  array v ys h := by
    cases v with
    | scalar a => cases a <;> simp [plainValue] at h
    | list xs => exact ⟨xs, rfl⟩
    | map es => simp [plainValue] at h
  findEntry data name := findEntry_plainEntries data.entries name

end Codec

open Client in
/-- The client goes offline with the list empty, and somebody else opens it.
    Then a hotel is added, and comes once more. -/
theorem page_result_hotels :
    let data : DartMap := ⟨[("order", .scalar (.int 1))], by decide⟩
    let hotel : Document :=
      ⟨.ofId "Hotels" "a", .foundDocument, .map (Codec.plain.fields data), .synced, rfl⟩
    let q := Query.ofApp (ListStream.hotels.stream none none)
    let documents := Documents.empty
    let options : ListenOptions := ⟨false, false, false⟩
    let events := [.view (.onlineState .offline), .listen ⟨false, false, true⟩ false,
      .view (.changes (Documents.ofList [hotel]) (some ⟨[1], true, [hotel.key], [], []⟩)),
      .view (.changes (Documents.ofList [hotel]) (some ⟨[2], true, [], [hotel.key], []⟩))]
    ∃ client out, run q documents SortedSet.empty true [] options false events
        = some (client, out) ∧
      (client.queryView.view.syncState = .synced →
        Holds Codec.plain (fun _ => Collection.empty.put ⟨"a", data⟩) "Hotels"
          (events.foldl account (documents, [(options, false)])).1 →
        Settled q (events.foldl account (documents, [(options, false)])).1 →
        ∀ sub ∈ client.events.listeners, sub.listener.raisedInitialEvent = true ∧
          List.Forall₂ (Reads Codec.plain "Hotels") sub.docs
            ((ListStream.hotels.stream none none).run Codec.plain.order.le
              fun _ => Collection.empty.put ⟨"a", data⟩)) := by
  intro data hotel q documents options events
  have hstores : Stores Codec.plain "Hotels" hotel ⟨"a", data⟩ := ⟨rfl, rfl, rfl⟩
  have hhotel : PlainDocs q (Documents.ofList [hotel]) :=
    plain_ofList (List.forall_mem_singleton.mpr
      (plain_of_stores hstores (names_stream none ListStream.hotels none) rfl))
  refine page_result Codec.plain _ none ListStream.hotels none documents SortedSet.empty true []
    options false events (fun client _ => ⟨trivial, fun _ _ => ⟨trivial, fun _ _ =>
      ⟨View.known_added _, fun r hr => ⟨?_, fun _ _ => trivial⟩⟩⟩⟩)
    (fun k d h => absurd h.symm (Option.some_ne_none d)) (fun h => absurd h Bool.false_ne_true) ?_
  · rcases queryView_step hr with ⟨change, hview⟩
    rintro _ ⟨⟩ k hk
    exact Or.inr (QueryView.mem_syncedDocuments hview rfl hk)
  · exact List.forall_mem_cons.mpr ⟨trivial, List.forall_mem_cons.mpr ⟨fun h =>
      absurd h Bool.false_ne_true, List.forall_mem_cons.mpr ⟨hhotel,
        List.forall_mem_singleton.mpr hhotel⟩⟩⟩

/-- A query of the app is never one for a single document. -/
theorem documentKey_ofApp (q : JkbEmpOffers.Query) : (Query.ofApp q).documentKey = none := by
  rw [ofApp_eq]
  exact dif_neg fun h => absurd h.1 Nat.one_ne_zero

open Watch in
/-- From the messages of the backend to the list on a page: whatever is sent
    for the query of a page, and whatever happens here meanwhile, nothing
    aborts, and once the client has the collection of the page, with no
    committed change on its way back, the view of the query has the documents
    that it stands for, in its order. The orders of the app are by fields of
    the document itself, so the only pending time that they could lead through
    is a whole document. -/
theorem page_view (codec : Codec) (store : Store) (lang : Option String) (p : OffersPage)
    (searchstring : Option String) (documents : Documents) (remoteKeys : DocumentKeySet)
    (current : Bool) (resumeToken : List UInt8) (events : List WatchEvent)
    (hplain : PlainDocs (.ofApp (p.stream lang searchstring)) documents)
    (hbrings : ∀ event ∈ events,
      Brings (PlainEvent (.ofApp (p.stream lang searchstring))) event) :
    ∃ qv change w out,
      QueryView.initializeView (.ofApp (p.stream lang searchstring)) documents remoteKeys current
        resumeToken = some (qv, change) ∧
      Trace.run step ⟨qv, {}⟩ events = some (w, out) ∧
      (Holds codec store p.args.name w.queryView.documents →
        Settled (.ofApp (p.stream lang searchstring)) w.queryView.documents →
        List.Forall₂ (Reads codec p.args.name) w.queryView.view.documentSet.toList
          ((p.stream lang searchstring).run codec.order.le store)) := by
  rcases answers_watch _ (limits_ofApp _) remoteKeys current resumeToken
    (fun event _ => counted_of_collection (documentKey_ofApp _) event) hplain hbrings with
    ⟨qv, change, w, out, hinit, hrun, hend⟩
  refine ⟨qv, change, w, out, hinit, hrun, fun hholds hsettled => ?_⟩
  have hcollection := p.stream_collection lang searchstring
  have hresult := result_ofApp (q := p.stream lang searchstring) (hcollection ▸ hholds)
    (names_stream lang p searchstring)
  have hshown := result_of_complete hend.plain hend.invariant.mirrors hend.complete hsettled
    hend.size
  exact forall₂_reads (fun _ _ h => ⟨h.key, h.value⟩) hshown (hcollection ▸ hresult)

open Watch in
/-- A hotel comes, the backend counts three, and all is asked for again. -/
theorem page_view_hotels :
    let data : DartMap := ⟨[("order", .scalar (.int 1))], by decide⟩
    let hotel : Document :=
      ⟨.ofId "Hotels" "a", .foundDocument, .map (Codec.plain.fields data), .synced, rfl⟩
    let q := Query.ofApp (ListStream.hotels.stream none none)
    let events : List WatchEvent := [.sendRequest, .target true .added [],
      .document true false hotel.key (some hotel), .target true .current [1],
      .snapshot fun _ => Documents.ofList [hotel], .existenceFilter 3 none,
      .snapshot fun _ => .empty, .target true .removed [], .target true .added []]
    ∃ qv change w out,
      QueryView.initializeView q .empty SortedSet.empty false [] = some (qv, change) ∧
      Trace.run step ⟨qv, {}⟩ events = some (w, out) ∧
      (Holds Codec.plain (fun _ => Collection.empty.put ⟨"a", data⟩) "Hotels"
          w.queryView.documents →
        Settled q w.queryView.documents →
        List.Forall₂ (Reads Codec.plain "Hotels") w.queryView.view.documentSet.toList
          ((ListStream.hotels.stream none none).run Codec.plain.order.le
            fun _ => Collection.empty.put ⟨"a", data⟩)) := by
  intro data hotel q events
  have hstores : Stores Codec.plain "Hotels" hotel ⟨"a", data⟩ := ⟨rfl, rfl, rfl⟩
  have hplain : PlainDocs q .empty := fun k d h => absurd h.symm (Option.some_ne_none d)
  have hhotel : PlainDocs q (Documents.ofList [hotel]) :=
    plain_ofList (List.forall_mem_singleton.mpr
      (plain_of_stores hstores (names_stream none ListStream.hotels none) rfl))
  refine page_view Codec.plain _ none ListStream.hotels none .empty SortedSet.empty false []
    events hplain ?_
  change ∀ event ∈ events, Brings (PlainEvent q) event
  simp only [events, List.forall_mem_cons, Brings, PlainEvent, hhotel, hplain, implies_true,
    List.not_mem_nil, IsEmpty.forall_iff, and_self]

end FirestoreCore

end JkbEmpOffers
