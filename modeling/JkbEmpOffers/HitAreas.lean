import JkbEmpOffers.Buttons
import JkbEmpOffers.Tiles
import JkbEmpOffers.Library.Run

/-!
# The Two Hit Areas of a Tile

The background of a tile and its label text have a copy of the handler each,
and both copies read and write the one variable `gridname`. They are meant to
be the same handler, so it should not matter which of the two is tapped.

`interchangeable_iff` compares two histories of a tile that differ in the hit
areas of their taps only, over any snapshots that the Baraka Mall listeners
get in between. They push the same pages and leave the same name, exactly
when the tile is not that of the restaurants or no hit area was changed. For
any other name the two runs go in lockstep; for the restaurants each tap
shows on which hit area it was made.

A tap is made while the tiles are on top, so `Get.to` pushes its page.

## Main definitions

* `Tile`, `Event`, `step`: A tile, its taps and its snapshots.
* `pushes`: The pages that an event pushes.
* `SameButArea`: Two events that differ in the hit area at most.

## Theorems

* `board_tap`: A tap on the tile is a tap on the board that it is on.
* `snapshot_forEach`: A snapshot is handled as by the handler of its hit area.
* `lockstep`: The two copies on any other tile.
* `restaurants_distinct`: The two copies on the restaurants.
* `interchangeable_iff`: When hit areas may be changed.
* `label_opens_other_page`: Hit areas that may not.
-/

namespace JkbEmpOffers

namespace HitAreas

open Categories

/-- A page that a tile pushes. -/
inductive Pushed where
  | page (page : OffersPage)
  | viewer (effect : Effect)
  deriving DecidableEq

/-- A tile: the name that it has captured, and the hit areas of the taps that
    listen to the collection of the mall. -/
structure Tile where
  gridname : String
  subscriptions : List Area
  deriving DecidableEq

/-- A tap on a hit area, or a snapshot that one of the subscriptions gets. -/
inductive Event where
  | tap (area : Area)
  | snapshot (i : Nat) (docs : List Doc)
  deriving DecidableEq

/-- One event. -/
def step (s : Tile) : Event → Tile
  | .tap area =>
    { gridname := (myGrid area s.gridname).1
      subscriptions :=
        if (myGrid area s.gridname).2 = .listen then s.subscriptions ++ [area]
        else s.subscriptions }
  | .snapshot _ _ => s

/-- The pages that an event pushes. -/
def pushes (s : Tile) : Event → List Pushed
  | .tap area =>
    match (myGrid area s.gridname).2 with
    | .to page => [.page page]
    | _ => []
  | .snapshot i docs =>
    match s.subscriptions[i]? with
    | some area =>
      (docs.filterMap ((ViewerButton.barakaMall area).chain.respond "Baraka Mall")).map .viewer
    | none => []

/-- The screen of a page that a tile pushes. -/
def Pushed.screen : Pushed → Screen
  | .page p => .offers p
  | .viewer _ => .popup .viewer

/-- On the whole board, a tap on a tile leaves the name and pushes the screens
    that it does for the tile alone. -/
theorem board_tap {s : Tile} {b : Tiles.Board} {t : Tiles.Tap}
    (hname : b.gridnames[t.tile]? = some s.gridname) :
    (Tiles.step b t).gridnames[t.tile]? = some (step s (.tap t.area)).gridname ∧
      ((Tiles.step b t).log.drop b.log.length).flatMap (fun e => Tiles.pushes e.2)
        = (pushes s (.tap t.area)).map Pushed.screen := by
  have hlt : t.tile < b.gridnames.length := (List.getElem?_eq_some_iff.mp hname).1
  rw [Tiles.step_eq hname]
  refine ⟨List.getElem?_set_self hlt, ?_⟩
  rw [List.drop_left, List.flatMap_singleton, pushes]
  rcases (myGrid t.area s.gridname).2 with page | _ | _
  · rfl
  · rfl
  · rfl

/-- A snapshot pushes the viewers that the handler of the hit area makes of it,
    in either language. -/
theorem snapshot_forEach {s : Tile} {i : Nat} {area : Area} (l : Locale) (docs : List Doc)
    (hsub : s.subscriptions[i]? = some area) :
    pushes s (.snapshot i docs)
      = (forEach (.viewer (.barakaMall area)) l "Baraka Mall" docs).map .viewer := by
  rw [pushes, hsub]
  rfl

/-- Two events that differ in the hit area at most. -/
inductive SameButArea : Event → Event → Prop where
  | tap (area area' : Area) : SameButArea (.tap area) (.tap area')
  | snapshot (i : Nat) (docs : List Doc) : SameButArea (.snapshot i docs) (.snapshot i docs)

/-- A tap on the restaurants leaves one of their names, and no other tap
    does. -/
theorem restaurants_iff (area : Area) (gridname : String) :
    (myGrid area gridname).1 ∈ restaurantNames ↔ gridname ∈ restaurantNames := by
  have hbranch : ∀ b ∈ areaBranches area,
      b.gridname ∈ restaurantNames ↔ b.label ∈ restaurantNames := by
    cases area <;> decide
  rw [myGrid]
  rcases hb : (areaBranches area).find? fun b => b.label == gridname with _ | b
  · simp only [hb]
    split_ifs <;> rfl
  · have hlabel : b.label = gridname := by
      simpa only [beq_iff_eq] using List.find?_some hb
    simp only [hb]
    rw [hbranch b (List.mem_of_find?_eq_some hb), hlabel]

/-- Two tiles that are not that of the restaurants and differ in the hit areas
    of their subscriptions only. -/
structure Alike (s s' : Tile) : Prop where
  gridname : s.gridname = s'.gridname
  other : s.gridname ∉ restaurantNames
  subscriptions : s.subscriptions.length = s'.subscriptions.length

/-- Both copies of the listener push the same pages. -/
theorem pushes_snapshot {s s' : Tile} (h : Alike s s') (i : Nat) (docs : List Doc) :
    pushes s (.snapshot i docs) = pushes s' (.snapshot i docs) := by
  rw [pushes, pushes]
  rcases hs : s.subscriptions[i]? with _ | area
  · rw [List.getElem?_eq_none_iff, h.subscriptions, ← List.getElem?_eq_none_iff] at hs
    rw [hs]
  · have hlt : i < s'.subscriptions.length :=
      h.subscriptions ▸ (List.getElem?_eq_some_iff.mp hs).1
    rw [List.getElem?_eq_getElem hlt]
    rfl

theorem lockstep {s s' : Tile} {e e' : Event} (h : Alike s s') (he : SameButArea e e') :
    pushes s e = pushes s' e' ∧ Alike (step s e) (step s' e') := by
  cases he with
  | tap area area' =>
      have hgrid : myGrid area s.gridname = myGrid area' s'.gridname := by
        rw [← h.gridname]
        exact myGrid_area area area' h.other
      refine ⟨by rw [pushes, pushes, hgrid], congrArg Prod.fst hgrid, ?_, ?_⟩
      · rw [step]
        exact fun hmem => h.other ((restaurants_iff area s.gridname).mp hmem)
      · rw [step, step, hgrid]
        split_ifs
        · rw [List.length_append, List.length_append, h.subscriptions]
          rfl
        · exact h.subscriptions
  | snapshot i docs => exact ⟨pushes_snapshot h i docs, h⟩

/-- Two tiles of the restaurants, which never listen. -/
structure Restaurants (s s' : Tile) : Prop where
  gridname : s.gridname = s'.gridname
  name : s.gridname ∈ restaurantNames
  left : s.subscriptions = []
  right : s'.subscriptions = []

/-- On the restaurants a tap pushes one page, which tells the hit area. -/
theorem pushes_restaurants {s : Tile} (h : s.gridname ∈ restaurantNames) (area area' : Area) :
    ∃ page page', (myGrid area s.gridname).2 = .to page ∧
      (myGrid area' s.gridname).2 = .to page' ∧ (page = page' → area = area') := by
  rcases myGrid_restaurants h with ⟨page, page', hbackground, hlabel, hne⟩
  cases area with
  | background =>
      cases area' with
      | background => exact ⟨page, page, hbackground, hbackground, fun _ => rfl⟩
      | label => exact ⟨page, page', hbackground, hlabel, fun h => absurd h hne⟩
  | label =>
      cases area' with
      | background => exact ⟨page', page, hlabel, hbackground, fun h => absurd h.symm hne⟩
      | label => exact ⟨page', page', hlabel, hlabel, fun _ => rfl⟩

theorem restaurants_distinct {s s' : Tile} {e e' : Event} (h : Restaurants s s')
    (he : SameButArea e e') : (pushes s e).length = (pushes s' e').length ∧
      (pushes s e = pushes s' e' → e = e') ∧ Restaurants (step s e) (step s' e') := by
  cases he with
  | tap area area' =>
      rcases pushes_restaurants h.name area area' with ⟨page, page', hpage, hpage', hinj⟩
      have hpushes : pushes s (.tap area) = [.page page] := by rw [pushes, hpage]
      have hpushes' : pushes s' (.tap area') = [.page page'] := by
        rw [pushes, ← h.gridname, hpage']
      rw [hpushes, hpushes']
      refine ⟨rfl, fun heq => ?_, ?_⟩
      · rw [hinj (Pushed.page.inj (List.head_eq_of_cons_eq heq))]
      · -- A tap that opens a page leaves no subscription.
        rw [step, step, ← h.gridname, hpage, hpage', if_neg (by simp only [reduceCtorEq,
          not_false_eq_true]), if_neg (by simp only [reduceCtorEq, not_false_eq_true])]
        exact ⟨myGrid_gridname area area' s.gridname,
          (restaurants_iff area s.gridname).mpr h.name, h.left, h.right⟩
  | snapshot i docs =>
      refine ⟨?_, fun _ => rfl, h⟩
      rw [pushes, pushes, h.left, h.right]

/-- Two histories of one tile that differ in the hit areas of their taps push
    the same pages in the same order and leave the same name, whatever the
    label and the snapshots, exactly when the label is not one of the
    restaurants or no hit area is changed. -/
theorem interchangeable_iff (label : String) (es es' : List Event)
    (hes : List.Forall₂ SameButArea es es') :
    (Run.outputs step pushes ⟨label, []⟩ es = Run.outputs step pushes ⟨label, []⟩ es' ∧
      (Run.run step ⟨label, []⟩ es).gridname = (Run.run step ⟨label, []⟩ es').gridname) ↔
    label ∉ restaurantNames ∨ es = es' := by
  constructor
  · intro h
    by_cases hlabel : label ∈ restaurantNames
    · exact Or.inr (Run.eq_of_outputs_eq step pushes (fun _ _ _ _ => restaurants_distinct) hes
        ⟨rfl, hlabel, rfl, rfl⟩ h.1)
    · exact Or.inl hlabel
  · intro h
    rcases h with hlabel | rfl
    · have halike : Alike ⟨label, []⟩ ⟨label, []⟩ := ⟨rfl, hlabel, rfl⟩
      rcases Run.outputs_of_lockstep step pushes (fun _ _ _ _ => lockstep) hes halike with
        ⟨houts, hend⟩
      exact ⟨houts, hend.gridname⟩
    · exact ⟨rfl, rfl⟩

/-- The tile of the mall, tapped on either hit area before a snapshot. -/
theorem baraka_interchangeable :
    (Run.outputs step pushes ⟨"Baraka Mall", []⟩
          [.tap .background, .snapshot 0 [oneField "offers" (.list [.str "spring"])]]
        = Run.outputs step pushes ⟨"Baraka Mall", []⟩
          [.tap .label, .snapshot 0 [oneField "offers" (.list [.str "spring"])]] ∧
      (Run.run step ⟨"Baraka Mall", []⟩
          [.tap .background, .snapshot 0 [oneField "offers" (.list [.str "spring"])]]).gridname
        = (Run.run step ⟨"Baraka Mall", []⟩
          [.tap .label, .snapshot 0 [oneField "offers" (.list [.str "spring"])]]).gridname) ↔
    "Baraka Mall" ∉ restaurantNames ∨
      [Event.tap .background, .snapshot 0 [oneField "offers" (.list [.str "spring"])]]
        = [.tap .label, .snapshot 0 [oneField "offers" (.list [.str "spring"])]] :=
  interchangeable_iff "Baraka Mall" _ _
    (.cons (.tap .background .label) (.cons (.snapshot 0 _) .nil))

/-- On the restaurants the label opens the page that has no menu. -/
theorem label_opens_other_page :
    List.Forall₂ SameButArea [.tap .background] [.tap .label] ∧
      Run.outputs step pushes ⟨"Restaurants And Cafes", []⟩ [.tap .background]
        ≠ Run.outputs step pushes ⟨"Restaurants And Cafes", []⟩ [.tap .label] :=
  ⟨.cons (.tap .background .label) .nil, by decide⟩

end HitAreas

end JkbEmpOffers
