import JkbEmpOffers.ListStream

/-!
# The List Follows the Collection

A list page that stays open is fed by the snapshots of its query. Each build
starts a new stream, whose first snapshot is the result as it is then, and
every later change of the result owes the stream another one. Snapshots are
delivered late, in order, and each build forgets those still owed to the
stream before. An error from Firestore ends its stream; a document that does
not decode does not, it only makes that one event an error.

What the list area shows may lag behind, then, but not for good. As long as
its stream has not ended, delivering what is owed brings it to the result of
the current search on the current collection. A stream that has ended shows
its error until the page is built again.

## Main definitions

* `Live`, `Event`, `step`: A list page with the snapshots owed to it.
* `result`: What the current search finds in the current collection.
* `Owed`: The last snapshot that is owed or shown.
* `Inv`: That snapshot is the result.

## Theorems

* `inv_step`: Every step keeps the invariant.
* `shows_result`: With nothing owed the list area shows the result.
* `run_deliver`: Delivering leaves nothing owed and changes nothing else.
* `converges`: After any run the list area comes to show the result.
-/

namespace JkbEmpOffers

namespace LiveList

open ListStream (View)

/-- A list page that is open, and the database. -/
structure Live (page : ListPage) where
  store : Store
  view : View page
  /-- The snapshots that the current stream has not delivered yet. -/
  queue : List (List Doc)
  /-- Whether the current stream has ended with an error. -/
  ended : Bool

/-- What can happen. -/
inductive Event where
  /-- The text in the search field changes. -/
  | search (value : String)
  /-- The page is built again for any other reason. -/
  | rebuild
  /-- Documents are created, edited or deleted, by anyone. -/
  | change (store : Store)
  /-- The current stream delivers its next snapshot. -/
  | deliver
  /-- The current stream ends with an error from Firestore. -/
  | fail (e : DartError)

section

variable (le : Value → Value → Bool) (lower : String → String) (lang : Option String)
  (l : Locale) (p : OffersPage)

/-- What the current search finds in the current collection. -/
def result (s : Live p.page) : List Doc :=
  (p.stream lang s.view.searchstring).run le s.store

/-- A build listens to a new stream. -/
def listen (view : View p.page) (s : Live p.page) : Live p.page :=
  { s with view, queue := [view.stream.run le s.store], ended := false }

/-- The page is opened. -/
def start (store : Store) : Live p.page :=
  listen le p (View.start lang p) { store, view := View.start lang p, queue := [], ended := false }

/-- A change of the database owes a snapshot if it changes the result. -/
def change (store : Store) (s : Live p.page) : Live p.page :=
  if s.ended ∨ s.view.stream.run le store = s.view.stream.run le s.store then { s with store }
  else { s with store, queue := s.queue ++ [s.view.stream.run le store] }

/-- One event. -/
def step (s : Live p.page) (e : Event) : Live p.page :=
  match e with
  | .search value => listen le p (ListStream.step lower lang p s.view (.search value)) s
  | .rebuild => listen le p (ListStream.step lower lang p s.view .rebuild) s
  | .change store => change le p store s
  | .deliver =>
    match s.queue with
    | docs :: rest =>
      { s with
        view := ListStream.step lower lang p s.view (.deliver s.view.number (p.page.event docs))
        queue := rest }
    | [] => s
  | .fail e =>
    if s.ended then s
    else
      { s with
        view := ListStream.step lower lang p s.view (.deliver s.view.number (.error e))
        queue := [], ended := true }

/-- The last snapshot that is owed, or the one that is shown if none is. -/
def Owed (s : Live p.page) (docs : List Doc) : Prop :=
  s.queue.getLast? = some docs ∨
    s.queue = [] ∧ s.view.snapshot = AsyncSnapshot.delivered (p.page.event docs)

/-- The stream is one for the current search. Until it ends, the last snapshot
    owed or shown is the result; then nothing is owed and an error is shown. -/
structure Inv (s : Live p.page) : Prop where
  stream : s.view.stream = p.stream lang s.view.searchstring
  open_ : s.ended = false → Owed p s (result le lang p s)
  ended : s.ended = true → s.queue = [] ∧ s.view.snapshot.error ≠ none

variable {le lower lang p} {s : Live p.page} {e : Event}

/-- A build listens to the stream for its search text. -/
theorem inv_listen {view : View p.page} (hview : view.stream = p.stream lang view.searchstring) :
    Inv le lang p (listen le p view s) where
  stream := hview
  open_ := fun _ => Or.inl (by
    rw [listen, result, ← hview]
    rfl)
  ended := fun hended => absurd hended Bool.false_ne_true

theorem inv_change (store : Store) (h : Inv le lang p s) :
    Inv le lang p (change le p store s) := by
  have hrun : ∀ st, (p.stream lang s.view.searchstring).run le st = s.view.stream.run le st :=
    fun st => by rw [h.stream]
  rw [change]
  split_ifs with hsame
  · refine ⟨h.stream, fun hended => ?_, h.ended⟩
    have hopen := h.open_ hended
    simp only at hended
    rcases hsame with hend | hsame
    · exact absurd (hend.symm.trans hended) Bool.true_eq_false_eq_False
    · -- The result is the same, so what is owed is.
      rw [result, hrun] at hopen ⊢
      rwa [← hsame] at hopen
  · refine ⟨h.stream, fun _ => Or.inl ?_, fun hended => absurd (Or.inl hended) hsame⟩
    rw [result, hrun]
    exact List.getLast?_concat

theorem view_deliver (r : Except DartError (List p.page.Row)) (view : View p.page) :
    ListStream.step lower lang p view (.deliver view.number r)
      = { view with snapshot := AsyncSnapshot.delivered r, source := some view.stream } := by
  rw [ListStream.step, if_pos rfl]

theorem inv_deliver (h : Inv le lang p s) : Inv le lang p (step le lower lang p s .deliver) := by
  rw [step]
  rcases hqueue : s.queue with _ | ⟨docs, rest⟩
  · exact h
  · simp only [view_deliver]
    have hended : s.ended = false := by
      rcases hended : s.ended with _ | _
      · rfl
      · rw [(h.ended hended).1] at hqueue
        exact absurd hqueue (List.cons_ne_nil docs rest).symm
    refine ⟨h.stream, fun _ => ?_, fun hend => absurd (hend.symm.trans hended)
      Bool.true_eq_false_eq_False⟩
    rcases h.open_ hended with hlast | ⟨hnil, -⟩
    · cases rest with
      | nil =>
          -- The snapshot was the last one owed, and is shown now.
          rw [hqueue, List.getLast?_singleton, Option.some.injEq] at hlast
          exact Or.inr ⟨rfl, by rw [hlast]; rfl⟩
      | cons docs' rest =>
          rw [hqueue, List.getLast?_cons_cons] at hlast
          exact Or.inl hlast
    · rw [hnil] at hqueue
      exact absurd hqueue (List.cons_ne_nil docs rest).symm

theorem inv_fail (e : DartError) (h : Inv le lang p s) :
    Inv le lang p (step le lower lang p s (.fail e)) := by
  rw [step]
  split_ifs
  · exact h
  · simp only [view_deliver]
    exact ⟨h.stream, fun hend => absurd hend.symm Bool.false_ne_true,
      fun _ => ⟨rfl, Option.some_ne_none e⟩⟩

theorem inv_step (h : Inv le lang p s) : Inv le lang p (step le lower lang p s e) := by
  cases e with
  | search value => exact inv_listen rfl
  | rebuild => exact inv_listen rfl
  | change store => exact inv_change store h
  | deliver => exact inv_deliver h
  | fail e => exact inv_fail e h

/-- With nothing owed, the list area of a stream that has not ended shows the
    result. -/
theorem shows_result (l : Locale) (h : Inv le lang p s) (hended : s.ended = false)
    (hqueue : s.queue = []) :
    p.page.builder l p.args s.view.snapshot = p.page.area l p.args (result le lang p s) := by
  have harea : ∀ docs, p.page.area l p.args docs
      = p.page.builder l p.args (AsyncSnapshot.delivered (p.page.event docs)) := by
    intro docs
    rw [ListPage.builder_eq, ListPage.area_eq, listArea_delivered]
    cases p.page.event docs <;> rfl
  rcases h.open_ hended with hlast | ⟨-, hsnapshot⟩
  · rw [hqueue] at hlast
    exact absurd hlast (Option.some_ne_none _).symm
  · rw [hsnapshot, harea]

/-- What delivering does not change. -/
structure SameSearch (s t : Live p.page) : Prop where
  store : t.store = s.store
  searchstring : t.view.searchstring = s.view.searchstring
  ended : t.ended = s.ended

/-- Delivering as often as snapshots are owed leaves nothing owed, and neither
    the search nor the database changes. -/
theorem run_deliver (n : Nat) (hn : s.queue.length = n) :
    SameSearch s (Run.run (step le lower lang p) s (List.replicate n .deliver)) ∧
      (Run.run (step le lower lang p) s (List.replicate n .deliver)).queue = [] := by
  induction n generalizing s with
  | zero => exact ⟨⟨rfl, rfl, rfl⟩, List.eq_nil_of_length_eq_zero hn⟩
  | succ n ih =>
      rw [List.replicate_succ, Run.run_cons]
      rcases hqueue : s.queue with _ | ⟨docs, rest⟩
      · rw [hqueue] at hn
        exact absurd hn (Nat.succ_ne_zero n).symm
      · have hstep : step le lower lang p s .deliver = { s with
            view := { s.view with
              snapshot := AsyncSnapshot.delivered (p.page.event docs)
              source := some s.view.stream }
            queue := rest } := by
          rw [step, hqueue]
          simp only [view_deliver]
        rw [hqueue, List.length_cons] at hn
        have hrest : (step le lower lang p s .deliver).queue.length = n := by
          rw [hstep]
          exact Nat.succ.inj hn
        rcases ih hrest with ⟨hsame, hnil⟩
        rw [hstep] at hsame hnil ⊢
        exact ⟨⟨hsame.store, hsame.searchstring, hsame.ended⟩, hnil⟩

end

/-- On either list page, for any stored language, any order of the field
    values and any database: after every run of searches, rebuilds, changes of
    the database, deliveries and errors, a stream that has not ended brings
    the list area to the result of the current search on the current
    database, once what is owed to it has been delivered. -/
theorem converges (le : Value → Value → Bool) (lower : String → String) (lang : Option String)
    (l : Locale) (p : OffersPage) (store : Store) (es : List Event)
    (hended : (Run.run (step le lower lang p) (start le lang p store) es).ended = false) :
    let s := Run.run (step le lower lang p) (start le lang p store) es
    let t := Run.run (step le lower lang p) s (List.replicate s.queue.length .deliver)
    t.queue = [] ∧ p.page.builder l p.args t.view.snapshot
      = p.page.area l p.args ((p.stream lang s.view.searchstring).run le s.store) := by
  intro s t
  have hs : Inv le lang p s := Run.run_of_step (step le lower lang p) (Inv le lang p)
    (fun _ _ h => inv_step h) es _ (inv_listen rfl)
  have ht : Inv le lang p t := Run.run_of_step (step le lower lang p) (Inv le lang p)
    (fun _ _ h => inv_step h) _ s hs
  rcases @run_deliver le lower lang p s _ rfl with ⟨hsame, hnil⟩
  refine ⟨hnil, ?_⟩
  rw [shows_result l ht (hsame.ended.trans hended) hnil, result, hsame.store, hsame.searchstring]

/-- The list fails, the page is built again, and a hotel is added. -/
theorem converges_hotels :
    let s := Run.run (step (fun _ _ => true) String.toLower none ListStream.hotels)
      (start (fun _ _ => true) none ListStream.hotels fun _ => Collection.empty)
      [.deliver, .fail (.stateError "unavailable"), .rebuild, .change fun _ =>
        Collection.empty.put ⟨"a", ⟨[("order", .scalar (.int 1))], by decide⟩⟩]
    let t := Run.run (step (fun _ _ => true) String.toLower none ListStream.hotels) s
      (List.replicate s.queue.length .deliver)
    t.queue = [] ∧
      ListStream.hotels.page.builder .enUS ListStream.hotels.args t.view.snapshot
        = ListStream.hotels.page.area .enUS ListStream.hotels.args
          ((ListStream.hotels.stream none s.view.searchstring).run (fun _ _ => true) s.store) :=
  converges _ _ _ .enUS ListStream.hotels _ _ (by decide)

end LiveList

end JkbEmpOffers
