import JkbEmpOffers.Translations
import JkbEmpOffers.Firestore
import JkbEmpOffers.Library.Traverse

/-!
# The List Area

What the two list pages have in common, up to the values each has written
into its own copy: the record a row is decoded to, the two queries of
`Database`, and the `StreamBuilder` that shows their result.

The decoders differ in the type of `logo`, so `Offerslis1` has that type as
a parameter and `fromMap` the cast that fills it. A document that does not
decode throws inside the `map` over the whole snapshot, and the stream
delivers an error in place of all rows.

## Main definitions

* `ListPage`, `OffersArgs`, `OffersPage`: The pages and what they are opened
  with.
* `Offerslis1`, `fromMap`: A row's record and its decoder.
* `unfilteredRef`, `searchRef`: The two queries.
* `streamFor`: The one a search text selects.
* `AsyncSnapshot`: What a `StreamBuilder` hands to its builder.
* `ListArea`, `listArea`: What the builder shows.

## Theorems

* `fromMap_ok_iff`: When a document decodes.
* `listArea_delivered`: What a delivered snapshot shows.
-/

namespace JkbEmpOffers

/-- The two list pages. -/
inductive ListPage where
  | offersList
  | resCafeOffersList
  deriving DecidableEq, Repr

/-- The fields of `OffersList` and `ResCafeOffersList`. -/
structure OffersArgs where
  name : String
  nametype : String
  searchtype : String
  titlebar : String
  deriving DecidableEq, Repr

/-- A list page with its arguments, as it is opened. -/
structure OffersPage where
  page : ListPage
  args : OffersArgs
  deriving DecidableEq, Repr

/-- `Offerslis1`, with the type of its logo as a parameter. -/
structure Offerslis1 (Logo : Type) where
  namear : String
  nameen : String
  logo : Logo
  expire : Option String
  deriving DecidableEq

/-- `Offerslis1.fromMap`: each field is cast to the type of the parameter it
    is passed as. -/
def fromMap {Logo : Type} (asLogo : Value → Except DartError Logo) (d : Doc) :
    Except DartError (Offerslis1 Logo) := do
  let namear ← (d.field "namearabic").asString
  let nameen ← (d.field "name").asString
  let logo ← asLogo (d.field "logo")
  let expire ← (d.field "expire").asStringOrNull
  return { namear, nameen, logo, expire }

/-- `widget.nametype=='namearabic'?offerlistbuilder.namear:offerlistbuilder.nameen` -/
def rowName {Logo : Type} (w : OffersArgs) (row : Offerslis1 Logo) : String :=
  if w.nametype = "namearabic" then row.namear else row.nameen

/-- The query of `_getCollectionRef1`, ordered by a field. -/
def unfilteredRef (order name : String) : Query :=
  { collection := name, filter := none, orderBy := some order }

/-- The query of `_getCollectionRef2`, on one of two index fields by the
    stored language. -/
def searchRef (indexar index : String) (lang : Option String) (name searchstring : String) :
    Query :=
  { collection := name
    filter := some (.arrayContains (if lang = some "ar" then indexar else index) searchstring)
    orderBy := none }

/-- The `stream` of the `StreamBuilder`: a search text that is null or blank
    leaves the list unfiltered. -/
def streamFor (getoffer1 : Query) (getoffer2 : String → Query) (searchstring : Option String) :
    Query :=
  match searchstring with
  | none => getoffer1
  | some s => if trim s = "" then getoffer1 else getoffer2 s

/-- Both queries are about one collection. -/
theorem streamFor_collection {getoffer1 : Query} {getoffer2 : String → Query} {name : String}
    (h1 : getoffer1.collection = name) (h2 : ∀ s, (getoffer2 s).collection = name)
    (searchstring : Option String) :
    (streamFor getoffer1 getoffer2 searchstring).collection = name := by
  cases searchstring with
  | none => exact h1
  | some s =>
      rw [streamFor]
      split_ifs
      · exact h1
      · exact h2 s

/-- `ConnectionState` -/
inductive ConnectionState where
  | none
  | waiting
  | active
  | done
  deriving DecidableEq

/-- `AsyncSnapshot` -/
structure AsyncSnapshot (α : Type) where
  connectionState : ConnectionState
  data : Option α
  error : Option DartError

/-- The snapshot of a stream that has just delivered a value or an error. -/
def AsyncSnapshot.delivered {α : Type} (r : Except DartError α) : AsyncSnapshot α :=
  match r with
  | .ok x => { connectionState := .active, data := some x, error := none }
  | .error e => { connectionState := .active, data := none, error := some e }

/-- The picture of a row: the network image, or `assets/noimageavailable.png`. -/
inductive Avatar where
  | asset (path : String)
  | network (url : String)
  deriving DecidableEq

/-- `avatarWidget` -/
def avatarWidget (urlImg : Option String) : Avatar :=
  match urlImg with
  | none => .asset "assets/noimageavailable.png"
  | some url => .network url

/-- What a row shows. -/
structure RowView where
  avatar : Avatar
  name : String
  expire : String
  alignRight : Bool
  deriving DecidableEq

/-- The `itemBuilder` of the list, for a row whose logo is read as `String?`. -/
def itemBuilder {Logo : Type} (logo : Logo → Option String) (l : Locale) (w : OffersArgs)
    (row : Offerslis1 Logo) : RowView :=
  { avatar := avatarWidget (logo row.logo)
    name := rowName w row
    expire := tr l "expire" ++ " " ++ row.expire.getD (tr l "expiredatenotspecified")
    alignRight := w.nametype = "namearabic" }

/-- What stands in the list area. -/
inductive ListArea where
  | error (text : String)
  | spinner
  | rows (rows : List RowView)
  deriving DecidableEq

/-- The builder of the `StreamBuilder`; `snapshot.data!` throws when there is
    no data. -/
def listArea {Logo : Type} (errorText : DartError → String) (logo : Logo → Option String)
    (l : Locale) (w : OffersArgs) (snapshot : AsyncSnapshot (List (Offerslis1 Logo))) :
    Except DartError ListArea :=
  match snapshot.error with
  | some e => .ok (.error (errorText e))
  | none =>
    if snapshot.connectionState = .waiting then .ok .spinner
    else
      match snapshot.data with
      | some rows => .ok (.rows (rows.map (itemBuilder logo l w)))
      | none => .error (.typeError "Null" "List<Offerslis1>")

theorem fromMap_ok_iff {Logo : Type} (asLogo : Value → Except DartError Logo) (d : Doc)
    (row : Offerslis1 Logo) :
    fromMap asLogo d = .ok row ↔
      (d.field "namearabic").asString = .ok row.namear ∧
      (d.field "name").asString = .ok row.nameen ∧
      asLogo (d.field "logo") = .ok row.logo ∧
      (d.field "expire").asStringOrNull = .ok row.expire := by
  rw [fromMap]
  -- The casts are made in the order of the parameters, and the first that
  -- fails throws.
  rcases (d.field "namearabic").asString with e | namear
  · simp only [bind, Except.bind, reduceCtorEq, false_and]
  rcases (d.field "name").asString with e | nameen
  · simp only [bind, Except.bind, reduceCtorEq, false_and, and_false]
  rcases asLogo (d.field "logo") with e | logo
  · simp only [bind, Except.bind, reduceCtorEq, false_and, and_false]
  rcases (d.field "expire").asStringOrNull with e | expire
  · simp only [bind, Except.bind, reduceCtorEq, and_false]
  · cases row
    simp only [bind, Except.bind, pure, Except.pure, Except.ok.injEq, Offerslis1.mk.injEq]

/-- What the list area shows once a snapshot has been delivered: the rows of
    its documents if they all decode, an error otherwise. -/
theorem listArea_delivered {Logo : Type} (errorText : DartError → String)
    (logo : Logo → Option String) (l : Locale) (w : OffersArgs)
    (r : Except DartError (List (Offerslis1 Logo))) :
    listArea errorText logo l w (AsyncSnapshot.delivered r) =
      match r with
      | .ok rows => .ok (.rows (rows.map (itemBuilder logo l w)))
      | .error e => .ok (.error (errorText e)) := by
  cases r with
  | ok rows => rfl
  | error e => rfl

end JkbEmpOffers
