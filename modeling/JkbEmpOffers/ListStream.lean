import JkbEmpOffers.Pages
import JkbEmpOffers.Library.Run

/-!
# The Stream Behind the List

Every build of a list page makes a new stream and hands it to the
`StreamBuilder`, which drops the old subscription and listens to the new one.
Until that delivers something, the snapshot is in state `waiting`, but it
still carries the data and the error of the stream before.

The builder looks at the error first and only then at the state. For rows
that is no harm: a spinner stands in place of old ones. An old error, though,
is shown as if the new query had failed, until the new stream delivers.

`Fresh` is the property, that what is shown was delivered by a query for the
current search text. `Settled` is the condition on a step: the search text is
not changed to that of another query while the snapshot has an error.

## Main definitions

* `View`, `Event`, `step`: A list page, its search field and its streams.
* `Fresh`: Nothing stale is shown, and `snapshot.data!` does not throw.
* `RowsFresh`: The same for rows alone.
* `Settled`: The condition on a step.

## Theorems

* `inv_step`: What every step keeps.
* `fresh_iff`: Only an error can be stale.
* `fresh_step`: The steps that keep `Fresh`.
* `rowsFresh_run`: Every run keeps rows fresh.
* `neverStale_iff`: The runs that do.
* `error_of_old_query`: A run that does not.
-/

namespace JkbEmpOffers

namespace ListStream

/-- A list page that is open. -/
structure View (page : ListPage) where
  searchstring : Option String
  /-- The query of the stream that the `StreamBuilder` listens to. -/
  stream : Query
  /-- How many streams have been made before it. -/
  number : Nat
  snapshot : AsyncSnapshot (List page.Row)
  /-- The query whose stream delivered what the snapshot has. -/
  source : Option Query

/-- What can happen. -/
inductive Event (page : ListPage) where
  /-- The text in the search field changes. -/
  | search (value : String)
  /-- The page is built again for any other reason. -/
  | rebuild
  /-- The stream with a number delivers rows or an error. -/
  | deliver (i : Nat) (r : Except DartError (List page.Row))

section

variable (lower : String → String) (lang : Option String) (l : Locale) (p : OffersPage)

/-- The first build: a stream of the whole list, and nothing delivered. -/
def View.start : View p.page :=
  { searchstring := none, stream := p.stream lang none, number := 0
    snapshot := { connectionState := .waiting, data := none, error := none }, source := none }

/-- A build: the `StreamBuilder` gets a new stream and goes over `none` to
    `waiting`, with the data and the error that it has. -/
def build (s : View p.page) : View p.page :=
  { s with
    stream := p.stream lang s.searchstring
    number := s.number + 1
    snapshot := { s.snapshot with connectionState := .waiting } }

/-- One event. -/
def step (s : View p.page) : Event p.page → View p.page
  | .search value => build lang p { s with searchstring := some (lower value) }
  | .rebuild => build lang p s
  | .deliver i r =>
    -- The subscriptions to older streams have been dropped.
    if i = s.number then
      { s with snapshot := AsyncSnapshot.delivered r, source := some s.stream }
    else s

/-- What the list area shows as rows or as an error was delivered by a query
    for the current search text, and the builder does not throw. -/
def Fresh (s : View p.page) : Prop :=
  match p.page.builder l p.args s.snapshot with
  | .ok .spinner => True
  | .ok _ => s.source = some (p.stream lang s.searchstring)
  | .error _ => False

/-- What the list area shows as rows was, and the builder does not throw. -/
def RowsFresh (s : View p.page) : Prop :=
  match p.page.builder l p.args s.snapshot with
  | .ok (.rows _) => s.source = some (p.stream lang s.searchstring)
  | .ok _ => True
  | .error _ => False

/-- The search text is not changed to that of another query while there is an
    error. -/
def Settled (s : View p.page) (e : Event p.page) : Prop :=
  ∀ value, e = .search value → s.snapshot.error ≠ none →
    p.stream lang (some (lower value)) = p.stream lang s.searchstring

/-- The stream is one for the current search text, and once it has delivered
    something, that is what the snapshot has. -/
structure Inv (s : View p.page) : Prop where
  stream : s.stream = p.stream lang s.searchstring
  state : s.snapshot.connectionState = .waiting ∨
    (s.snapshot.error ≠ none ∨ s.snapshot.data ≠ none) ∧ s.source = some s.stream

variable {lower lang l p} {s : View p.page} {e : Event p.page}

theorem inv_step (h : Inv lang p s) : Inv lang p (step lower lang p s e) := by
  cases e with
  | search value => exact ⟨rfl, Or.inl rfl⟩
  | rebuild => exact ⟨rfl, Or.inl rfl⟩
  | deliver i r =>
      rw [step]
      split_ifs
      · refine ⟨h.stream, Or.inr ⟨?_, rfl⟩⟩
        cases r with
        | ok rows => exact Or.inr (Option.some_ne_none rows)
        | error err => exact Or.inl (Option.some_ne_none err)
      · exact h

/-- Only an error can be stale: rows are not shown while the stream is still
    waiting. -/
theorem fresh_iff (h : Inv lang p s) :
    Fresh lang l p s ↔ (s.snapshot.error ≠ none → s.source = some s.stream) := by
  rw [Fresh, p.page.builder_eq, listArea, h.stream]
  rcases herror : s.snapshot.error with _ | err
  · simp only [ne_eq, not_true_eq_false, false_imp_iff, iff_true]
    rcases h.state with hwaiting | ⟨hdelivered, hsource⟩
    · rw [if_pos hwaiting]
      trivial
    · split_ifs
      · trivial
      · -- What has been delivered was not an error, so it is rows.
        rcases hdata : s.snapshot.data with _ | rows
        · exact absurd hdelivered (by simp only [herror, hdata, ne_eq, not_true_eq_false,
            or_self, not_false_eq_true])
        · exact h.stream ▸ hsource
  · simp only [ne_eq, reduceCtorEq, not_false_eq_true, true_imp_iff]

theorem rowsFresh_of_inv (h : Inv lang p s) : RowsFresh lang l p s := by
  rcases herror : s.snapshot.error with _ | err
  · have hfresh : Fresh lang l p s := (fresh_iff h).mpr fun hne => absurd herror hne
    rw [Fresh] at hfresh
    rw [RowsFresh]
    rcases hbuilder : p.page.builder l p.args s.snapshot with e | area
    · rw [hbuilder] at hfresh
      exact hfresh
    · rw [hbuilder] at hfresh
      cases area with
      | error text => trivial
      | spinner => trivial
      | rows rows => exact hfresh
  · rw [RowsFresh, p.page.builder_eq, listArea, herror]
    trivial

/-- A step keeps `Fresh` exactly when it does not change the query under an
    error. -/
theorem fresh_step (h : Inv lang p s) (hp : Fresh lang l p s) :
    Fresh lang l p (step lower lang p s e) ↔ Settled lower lang p s e := by
  have hsource := (fresh_iff h).mp hp
  rw [fresh_iff (inv_step h)]
  cases e with
  | search value =>
      simp only [Settled, Event.search.injEq, forall_eq', step, build]
      refine forall_congr' fun herror => ?_
      rw [hsource herror, h.stream, Option.some.injEq, eq_comm]
  | rebuild =>
      refine iff_of_true (fun herror => ?_) fun value hvalue => nomatch hvalue
      rw [step, build, ← h.stream]
      exact hsource herror
  | deliver i r =>
      refine iff_of_true ?_ fun value hvalue => nomatch hvalue
      rw [step]
      split_ifs
      · exact fun _ => rfl
      · exact hsource

end

theorem inv_start (lang : Option String) (p : OffersPage) : Inv lang p (View.start lang p) :=
  ⟨rfl, Or.inl rfl⟩

theorem rowsFresh_run (lower : String → String) (lang : Option String) (l : Locale)
    (p : OffersPage) (es : List (Event p.page)) :
    Run.Always (step lower lang p) (RowsFresh lang l p) (View.start lang p) es :=
  Run.always_of_step (step lower lang p) (Inv lang p) (RowsFresh lang l p)
    (fun _ _ h => inv_step h) (fun _ h => rowsFresh_of_inv h) es (View.start lang p)
    (inv_start lang p)

/-- On either list page, for any stored language, in every run of searches,
    rebuilds and deliveries by streams old and new, what the list area shows
    as rows or as an error was delivered by a query for the current search
    text, and `snapshot.data!` never throws, exactly when the search text is
    never changed to that of another query while the snapshot has an error. -/
theorem neverStale_iff (lower : String → String) (lang : Option String) (l : Locale)
    (p : OffersPage) (es : List (Event p.page)) :
    Run.Always (step lower lang p) (Fresh lang l p) (View.start lang p) es ↔
      Run.Along (step lower lang p) (Settled lower lang p) (View.start lang p) es := by
  refine Run.always_iff_along (step lower lang p) (Inv lang p) (Fresh lang l p)
    (Settled lower lang p) (fun s e h _ _ => inv_step h) (fun s e h hp => fresh_step h hp) es
    (View.start lang p) (inv_start lang p) ?_
  rw [fresh_iff (inv_start lang p)]
  exact fun herror => absurd rfl herror

/-- The Hotels list in English. -/
def hotels : OffersPage :=
  ⟨.offersList, ⟨"Hotels", "name", "searchIndex", "Hotels Offers"⟩⟩

/-- The list fails, and the first search shows its error as its own. -/
theorem error_of_old_query :
    ¬ Run.Always (step String.toLower none hotels) (Fresh none .enUS hotels)
      (View.start none hotels)
      [.deliver 0 (.error (.stateError "unavailable")), .search "a"] := by
  intro h
  exact absurd (Option.some.inj h.2.2) (by decide +kernel)

end ListStream

end JkbEmpOffers
