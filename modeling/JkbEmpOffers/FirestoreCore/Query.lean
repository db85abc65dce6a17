import JkbEmpOffers.FirestoreCore.Document
import JkbEmpOffers.Library.Encoding

/-!
# Queries

A query names a collection, filters its documents and puts them in an order.
`Query.matchesDoc` and `Query.comparator` are how the client answers a query
from the documents that it has.

The order is never only the one that was asked for: an inequality puts its
field first, and the key of the document comes last. So the comparator tells
any two documents apart. It aborts where a field is missing or a pending time
has no local time, and for documents that match it never does.

## Main definitions

* `FieldFilter`, `Filter`: Conditions on a document.
* `OrderBy`, `Bound`: An order, and a place in it.
* `Query.orderBys`: The order of a query.
* `Query.matchesDoc`: Which documents belong to the result.
* `Query.comparator`: How they are ordered.

## Theorems

* `transCmp_compareBy`: What a query compares by is an order.
* `key_of_compareDocuments`: It tells documents with different keys apart.
* `comparator_of_matches`: It does not abort for documents that match.
* `comparator_of_equals`: Equal documents are ordered alike.
-/

namespace JkbEmpOffers

namespace FirestoreCore

/-- `FieldFilter::Operator` -/
inductive Operator where
  | lessThan
  | lessThanOrEqual
  | equal
  | notEqual
  | greaterThan
  | greaterThanOrEqual
  | arrayContains
  | arrayContainsAny
  | isIn
  | notIn
  deriving DecidableEq

/-- `FieldFilter`. A value that only looks like a pending time is left out:
    the source takes it, and aborts where it is compared with one. -/
structure FieldFilter where
  field : FieldPath
  op : Operator
  value : Value
  dated : value.dated = true

namespace FieldFilter

/-- `IsInequality` -/
def isInequality (f : FieldFilter) : Bool :=
  f.op = .lessThan ∨ f.op = .lessThanOrEqual ∨ f.op = .greaterThan ∨ f.op = .greaterThanOrEqual ∨
    f.op = .notEqual ∨ f.op = .notIn

/-- `MatchesComparison` -/
def matchesComparison (op : Operator) (comparison : ComparisonResult) : Bool :=
  match op with
  | .lessThan => comparison == .lt
  | .lessThanOrEqual => comparison == .lt || comparison == .eq
  | .equal => comparison == .eq
  | .greaterThanOrEqual => comparison == .gt || comparison == .eq
  | .greaterThan => comparison == .gt
  | .notEqual => comparison != .eq
  -- The source aborts: these have filters of their own.
  | .arrayContains | .arrayContainsAny | .isIn | .notIn => false

/-- `value().array_value` -/
def arrayValue : Value → List Value
  | .array xs => xs
  | _ => []

/-- `ExtractDocumentKeysFromValue` -/
def extractDocumentKeysFromValue (value : Value) : List DocumentKey :=
  (arrayValue value).filterMap fun v =>
    match v with
    | .reference name => DocumentKey.fromName name
    | _ => none

/-- `Matches` of the filters that `FieldFilter::Create` makes for the key. -/
def matchesKey (f : FieldFilter) (doc : Document) : Bool :=
  match f.op, f.value with
  | .isIn, v => doc.key ∈ extractDocumentKeysFromValue v
  | .notIn, v => doc.key ∉ extractDocumentKeysFromValue v
  | op, .reference name =>
    match DocumentKey.fromName name with
    | some key => matchesComparison op (doc.key.compareTo key)
    | none => false
  | _, _ => false

/-- `Matches` of the filters that `FieldFilter::Create` makes for a field. -/
def matchesField (f : FieldFilter) (doc : Document) : Bool :=
  match f.op, doc.field f.field with
  | .notIn, lhs =>
    if Value.contains (arrayValue f.value) .null then false
    else
      match lhs with
      | some lhs => !Value.contains (arrayValue f.value) lhs
      | none => false
  | _, none => false
  | .arrayContains, some (.array contents) => Value.contains contents f.value
  | .arrayContainsAny, some (.array contents) =>
    contents.any fun v => Value.contains (arrayValue f.value) v
  | .arrayContains, some _ | .arrayContainsAny, some _ => false
  | .isIn, some lhs => Value.contains (arrayValue f.value) lhs
  | .notEqual, some lhs => matchesComparison .notEqual (lhs.compare f.value)
  | op, some lhs =>
    lhs.typeOrder == f.value.typeOrder && matchesComparison op (lhs.compare f.value)

/-- `Matches` -/
def matchesDoc (f : FieldFilter) (doc : Document) : Bool :=
  if f.field.isKeyFieldPath then f.matchesKey doc else f.matchesField doc

end FieldFilter

/-- `Filter`, with `CompositeFilter::Operator` as a flag. -/
inductive Filter where
  | field (f : FieldFilter)
  | composite (isConjunction : Bool) (filters : List Filter)

namespace Filter

mutual

/-- `Matches` -/
def matchesDoc (doc : Document) : Filter → Bool
  | .field f => f.matchesDoc doc
  | .composite isConjunction filters =>
    if isConjunction then matchesAll doc filters else matchesAny doc filters

/-- `std::all_of` the filters. -/
def matchesAll (doc : Document) : List Filter → Bool
  | [] => true
  | f :: fs => f.matchesDoc doc && matchesAll doc fs

/-- `std::any_of` the filters. -/
def matchesAny (doc : Document) : List Filter → Bool
  | [] => false
  | f :: fs => f.matchesDoc doc || matchesAny doc fs

end

mutual

/-- `GetFlattenedFilters` -/
def getFlattenedFilters : Filter → List FieldFilter
  | .field f => [f]
  | .composite _ filters => flattenAll filters

/-- The flattened filters of a list. -/
def flattenAll : List Filter → List FieldFilter
  | [] => []
  | f :: fs => f.getFlattenedFilters ++ flattenAll fs

end

/-- `GetFirstInequalityField` -/
def getFirstInequalityField (f : Filter) : Option FieldPath :=
  (f.getFlattenedFilters.find? FieldFilter.isInequality).map FieldFilter.field

end Filter

/-- `Direction` -/
inductive Direction where
  | ascending
  | descending
  deriving DecidableEq

/-- `ApplyTo` -/
def Direction.applyTo (d : Direction) (result : ComparisonResult) : ComparisonResult :=
  match d with
  | .ascending => result
  | .descending => reverseOrder result

/-- `OrderBy` -/
structure OrderBy where
  field : FieldPath
  direction : Direction
  deriving DecidableEq

namespace OrderBy

/-- The comparison of two fields. The source aborts where one is missing,
    which is `compareOrAbort`. -/
def compareFields : Option Value → Option Value → ComparisonResult
  | some value1, some value2 => value1.compare value2
  | none, none => .eq
  | none, some _ => .lt
  | some _, none => .gt

/-- `Compare` -/
def compare (o : OrderBy) (lhs rhs : Document) : ComparisonResult :=
  o.direction.applyTo
    (if o.field.isKeyFieldPath then lhs.key.compareTo rhs.key
    else compareFields (lhs.field o.field) (rhs.field o.field))

/-- `Compare`, with its aborts as `none`. -/
def compareOrAbort (o : OrderBy) (lhs rhs : Document) : Option ComparisonResult :=
  (if o.field.isKeyFieldPath then some (lhs.key.compareTo rhs.key)
  else
    (lhs.field o.field).bind fun value1 =>
      (rhs.field o.field).bind fun value2 => value1.compareOrAbort value2).map o.direction.applyTo

end OrderBy

/-- `Bound`, with values as those of filters. -/
structure Bound where
  position : List Value
  inclusive : Bool
  dated : ∀ v ∈ position, v.dated = true

namespace Bound

/-- The comparison of one component with a document. The source aborts where
    the component is no reference or the field is missing. -/
def compareComponent (fieldValue : Value) (o : OrderBy) (document : Document) :
    ComparisonResult :=
  o.direction.applyTo
    (if o.field.isKeyFieldPath then
      match fieldValue with
      | .reference name =>
        match DocumentKey.fromName name with
        | some key => key.compareTo document.key
        | none => .eq
      | _ => .eq
    else OrderBy.compareFields (some fieldValue) (document.field o.field))

/-- `CompareToDocument`: the components one after the other. -/
def compareToDocument : List Value → List OrderBy → Document → ComparisonResult
  | v :: vs, o :: os, document =>
    match compareComponent v o document with
    | .eq => compareToDocument vs os document
    | comparison => comparison
  | _, _, _ => .eq

/-- `SortsBeforeDocument` -/
def sortsBeforeDocument (b : Bound) (orderBy : List OrderBy) (document : Document) : Bool :=
  let comparison := compareToDocument b.position orderBy document
  if b.inclusive then comparison == .lt || comparison == .eq else comparison == .lt

/-- `SortsAfterDocument` -/
def sortsAfterDocument (b : Bound) (orderBy : List OrderBy) (document : Document) : Bool :=
  let comparison := compareToDocument b.position orderBy document
  if b.inclusive then comparison == .gt || comparison == .eq else comparison == .gt

end Bound

/-- `LimitType` -/
inductive LimitType where
  | none
  | first
  | last
  deriving DecidableEq

/-- `Target::kNoLimit` -/
def kNoLimit : Nat := 2147483647

/-- `Query` -/
structure Query where
  path : ResourcePath
  collectionGroup : Option String := none
  filters : List Filter := []
  explicitOrderBys : List OrderBy := []
  limit : Nat := kNoLimit
  limitType : LimitType := .none
  startAt : Option Bound := none
  endAt : Option Bound := none

namespace Query

/-- `AddingFilter` -/
def addingFilter (q : Query) (filter : Filter) : Query :=
  { q with filters := q.filters ++ [filter] }

/-- `AddingOrderBy` -/
def addingOrderBy (q : Query) (orderBy : OrderBy) : Query :=
  { q with explicitOrderBys := q.explicitOrderBys ++ [orderBy] }

/-- `InequalityFilterField` -/
def inequalityFilterField (q : Query) : Option FieldPath :=
  q.filters.findSome? Filter.getFirstInequalityField

/-- `order_bys` -/
def orderBys (q : Query) : List OrderBy :=
  match q.inequalityFilterField, q.explicitOrderBys with
  | some inequalityField, [] =>
    if inequalityField.isKeyFieldPath then [⟨FieldPath.keyFieldPath, .ascending⟩]
    else [⟨inequalityField, .ascending⟩, ⟨FieldPath.keyFieldPath, .ascending⟩]
  | _, explicitOrderBys =>
    if explicitOrderBys.any fun o => o.field.isKeyFieldPath then explicitOrderBys
    else
      explicitOrderBys ++ [⟨FieldPath.keyFieldPath,
        (explicitOrderBys.getLast?.map OrderBy.direction).getD .ascending⟩]

/-- `has_limit_to_first` -/
def hasLimitToFirst (q : Query) : Bool :=
  q.limitType = .first ∧ q.limit ≠ kNoLimit

/-- `has_limit_to_last` -/
def hasLimitToLast (q : Query) : Bool :=
  q.limitType = .last ∧ q.limit ≠ kNoLimit

/-- `MatchesPathAndCollectionGroup` -/
def matchesPathAndCollectionGroup (q : Query) (doc : Document) : Bool :=
  match q.collectionGroup with
  | some collectionGroup =>
    doc.key.hasCollectionGroup collectionGroup && q.path.isPrefixOf doc.key.path
  | none =>
    if DocumentKey.isDocumentKey q.path then q.path == doc.key.path
    -- `IsImmediateParentOf`
    else q.path.length + 1 == doc.key.path.length && q.path.isPrefixOf doc.key.path

/-- `MatchesFilters` -/
def matchesFilters (q : Query) (doc : Document) : Bool :=
  q.filters.all fun filter => filter.matchesDoc doc

/-- `MatchesOrderBy` -/
def matchesOrderBy (q : Query) (doc : Document) : Bool :=
  q.orderBys.all fun o => o.field == FieldPath.keyFieldPath || (doc.field o.field).isSome

/-- `MatchesBounds` -/
def matchesBounds (q : Query) (doc : Document) : Bool :=
  (match q.startAt with
    | some b => b.sortsBeforeDocument q.orderBys doc
    | none => true) &&
  match q.endAt with
    | some b => b.sortsAfterDocument q.orderBys doc
    | none => true

/-- `Matches` -/
def matchesDoc (q : Query) (doc : Document) : Bool :=
  doc.isFoundDocument && q.matchesPathAndCollectionGroup doc && q.matchesOrderBy doc &&
    q.matchesFilters doc && q.matchesBounds doc

/-- One order after the other. -/
def compareBy : List OrderBy → Document → Document → ComparisonResult
  | [], _, _ => .eq
  | o :: os, doc1, doc2 =>
    match o.compare doc1 doc2 with
    | .eq => compareBy os doc1 doc2
    | comp => comp

/-- One order after the other, where each may abort. -/
def compareByOrAbort : List OrderBy → Document → Document → Option ComparisonResult
  | [], _, _ => some .eq
  | o :: os, doc1, doc2 =>
    (o.compareOrAbort doc1 doc2).bind fun comp =>
      match comp with
      | .eq => compareByOrAbort os doc1 doc2
      | comp => some comp

/-- `Comparator` -/
def compareDocuments (q : Query) : Document → Document → ComparisonResult :=
  compareBy q.orderBys

end Query

/-! ## The order -/

/-- A field that is missing is before every value. -/
theorem compareFields_eq (value1 value2 : Option Value) :
    OrderBy.compareFields value1 value2
      = List.compareLex Value.compare value1.toList value2.toList := by
  rcases value1 with _ | v <;> rcases value2 with _ | w
  · rfl
  · rfl
  · rfl
  · simp only [Option.toList_some, List.compareLex_cons_cons, List.compareLex_nil_nil,
      Ordering.then_eq, OrderBy.compareFields]

instance : Std.TransCmp OrderBy.compareFields := by
  have hlist : OrderBy.compareFields
      = fun a b => List.compareLex Value.compare a.toList b.toList :=
    funext fun a => funext fun b => compareFields_eq a b
  rw [hlist]
  exact Encoding.transCmp_on (List.compareLex Value.compare) Option.toList

/-- An order in either direction is one. -/
theorem transCmp_applyTo {α : Type} {cmp : α → α → ComparisonResult} (hcmp : Std.TransCmp cmp)
    (d : Direction) : Std.TransCmp fun a b => d.applyTo (cmp a b) := by
  cases d with
  | ascending => exact hcmp
  | descending =>
      have hswap : (fun a b => Direction.descending.applyTo (cmp a b)) = fun a b => cmp b a :=
        funext fun a => funext fun b => Std.OrientedCmp.eq_swap.symm
      rw [hswap]
      exact Std.TransCmp.opposite

instance transCmp_orderBy (o : OrderBy) : Std.TransCmp o.compare := by
  refine transCmp_applyTo ?_ o.direction
  rcases o.field.isKeyFieldPath with _ | _
  · exact Encoding.transCmp_on OrderBy.compareFields fun d : Document => d.field o.field
  · exact Encoding.transCmp_on DocumentKey.compareTo Document.key

/-- The orders decide one after the other. -/
theorem compareBy_cons (o : OrderBy) (os : List OrderBy) :
    Query.compareBy (o :: os) = compareLex o.compare (Query.compareBy os) := by
  refine funext fun doc1 => funext fun doc2 => ?_
  rw [Query.compareBy, compareLex]
  cases o.compare doc1 doc2 <;> rfl

instance transCmp_compareBy : ∀ os : List OrderBy, Std.TransCmp (Query.compareBy os)
  | [] => { eq_swap := rfl, isLE_trans := fun _ _ => rfl }
  | o :: os => by
      have := transCmp_compareBy os
      rw [compareBy_cons]
      infer_instance

namespace Query

variable {q : Query} {d e : Document}

/-- So documents tie where they tie in all of them. -/
theorem compareBy_eq {os : List OrderBy} :
    compareBy os d e = .eq ↔ ∀ o ∈ os, o.compare d e = .eq := by
  induction os with
  | nil => simp only [compareBy, List.not_mem_nil, false_imp_iff, implies_true]
  | cons o os ih =>
      rw [compareBy_cons, compareLex_eq_eq, ih, List.forall_mem_cons]

/-- The key is always among what is compared. -/
theorem key_mem_orderBys (q : Query) :
    ∃ o ∈ q.orderBys, o.field.isKeyFieldPath = true := by
  have hexplicit : ∀ d : Direction, ∃ o ∈ (if q.explicitOrderBys.any fun o => o.field.isKeyFieldPath
      then q.explicitOrderBys else q.explicitOrderBys ++ [⟨FieldPath.keyFieldPath, d⟩]),
      o.field.isKeyFieldPath = true := by
    intro d
    split_ifs with hany
    · exact List.any_eq_true.mp hany
    · exact ⟨_, List.mem_append_right _ List.mem_cons_self, rfl⟩
  rw [orderBys]
  split
  · split_ifs
    · exact ⟨_, List.mem_cons_self, rfl⟩
    · exact ⟨_, List.mem_cons_of_mem _ List.mem_cons_self, rfl⟩
  · exact hexplicit _

/-- The comparator tells documents with different keys apart. -/
theorem key_of_compareDocuments (h : q.compareDocuments d e = .eq) : d.key = e.key := by
  rcases key_mem_orderBys q with ⟨o, ho, hkey⟩
  have hcompare := compareBy_eq.mp h o ho
  rw [OrderBy.compare, if_pos hkey] at hcompare
  rcases hdirection : o.direction with _ | _
  · rw [hdirection] at hcompare
    exact DocumentKey.eq_of_compareTo hcompare
  · rw [hdirection] at hcompare
    exact DocumentKey.eq_of_compareTo (Ordering.swap_eq_eq.mp hcompare)

/-- `Comparator`, with what makes it one. -/
def comparator (q : Query) : DocumentComparator :=
  ⟨q.compareDocuments, transCmp_compareBy q.orderBys, key_of_compareDocuments⟩

/-- A document that matches has every field that the comparator reads. -/
theorem field_of_matches (h : q.matchesDoc d = true) {o : OrderBy} (ho : o ∈ q.orderBys)
    (hkey : o.field.isKeyFieldPath = false) : (d.field o.field).isSome = true := by
  simp only [matchesDoc, Bool.and_eq_true] at h
  have hfield := List.all_eq_true.mp h.1.1.2 o ho
  rw [Bool.or_eq_true] at hfield
  exact hfield.resolve_left fun heq => Bool.false_ne_true (hkey.symm.trans heq)

/-- Two documents that have the field of an order compare by it without an
    abort. -/
theorem compareOrAbort_orderBy {o : OrderBy}
    (hfields : o.field.isKeyFieldPath = false →
      (d.field o.field).isSome = true ∧ (e.field o.field).isSome = true) :
    o.compareOrAbort d e = some (o.compare d e) := by
  rw [OrderBy.compareOrAbort, OrderBy.compare]
  cases hkey : o.field.isKeyFieldPath with
  | true => rfl
  | false =>
      rcases hfields hkey with ⟨hd, he⟩
      rcases Option.isSome_iff_exists.mp hd with ⟨v, hv⟩
      rcases Option.isSome_iff_exists.mp he with ⟨w, hw⟩
      rw [hv, hw]
      exact congrArg (Option.map o.direction.applyTo) (Document.compareOrAbort_field hv hw)

/-- Two documents that match are compared without an abort. A view holds only
    such documents, so its set can be ordered by `comparator` as it is. -/
theorem comparator_of_matches (hd : q.matchesDoc d = true) (he : q.matchesDoc e = true) :
    compareByOrAbort q.orderBys d e = some (q.comparator.compare d e) := by
  have hall : ∀ o ∈ q.orderBys, o.compareOrAbort d e = some (o.compare d e) := fun o ho =>
    compareOrAbort_orderBy fun hkey => ⟨field_of_matches hd ho hkey, field_of_matches he ho hkey⟩
  have hcomparator : q.comparator.compare d e = compareBy q.orderBys d e := rfl
  rw [hcomparator]
  -- One order after the other.
  generalize q.orderBys = os at hall
  induction os with
  | nil => rfl
  | cons o os ih =>
      have hrest := ih fun o' ho => hall o' (List.mem_cons_of_mem o ho)
      rw [compareByOrAbort, hall o List.mem_cons_self, compareBy]
      cases o.compare d e with
      | eq => exact hrest
      | lt => rfl
      | gt => rfl

/-- Equal documents are ordered alike. -/
theorem comparator_of_equals (hkey : d.key = e.key)
    (hplain : ∀ o ∈ q.orderBys, d.value.Plain o.field) (h : d.value.equals e.value = true) :
    q.comparator.compare d e = .eq := by
  refine compareBy_eq.mpr fun o ho => ?_
  have hfields : OrderBy.compareFields (d.field o.field) (e.field o.field) = .eq := by
    have hagree : Value.Agree (d.field o.field) (e.field o.field) :=
      Value.get_of_equals (hplain o ho) h
    rcases hd : d.field o.field with _ | x <;> rcases he : e.field o.field with _ | y
    · rfl
    · rw [hd, he] at hagree
      exact hagree.elim
    · rw [hd, he] at hagree
      exact hagree.elim
    · rw [hd, he] at hagree
      exact Value.compare_of_equals x y hagree
  have hkeys : d.key.compareTo e.key = .eq := by
    rw [hkey]
    exact Std.ReflCmp.compare_self
  rw [OrderBy.compare, hkeys, hfields, ite_self]
  cases o.direction <;> rfl

end Query

end FirestoreCore

end JkbEmpOffers
