import JkbEmpOffers.Moves
import JkbEmpOffers.Library.Run

/-!
# Tap After Tap on the Tiles

A `Categories` page is built once and then tapped any number of times. The
pages that it opens are popped again, which does not build it anew, so its
tiles keep what the handlers have left in their `gridname`.

A tile should open one page, the one its label promises. In English it does,
except that the restaurants have a page for each hit area. In Arabic the
first tap overwrites the label with the English name, and from the second
tap on the tile opens the English page; only the label of Baraka Mall is
left alone.

## Main definitions

* `Tap`, `Board`, `step`: A page of tiles and the taps on it.
* `pushes`: What a tap pushes at once.
* `OwnPage`: A tile always opens one page, in the language of its label.
* `Agrees`: A tap opens what an earlier one on the same tile did.
* `Repeats`: The condition on a step.

## Theorems

* `app_tile`: A tap of the app is a tap on the board.
* `inLocale_of_label`: The first tap opens a page in the right language.
* `agrees_iff`: When a later tap opens the same.
* `inv_step`: What a run of such steps keeps.
* `ownPage_step`: The steps that keep `OwnPage`.
* `ownPage_iff`: The runs that do.
* `arabic_tile_twice`: A run that does not.
-/

namespace JkbEmpOffers

namespace Tiles

open Categories

/-- A tap on one of the two hit areas of a tile. -/
structure Tap where
  tile : Nat
  area : Area
  deriving DecidableEq

/-- A `Categories` page: the locale that it was built in, the names that its
    tiles have captured, and what the taps on it have done. -/
structure Board where
  locale : Locale
  gridnames : List String
  log : List (Tap × TileAction)

/-- The page when it has just been built. -/
def Board.build (l : Locale) : Board :=
  ⟨l, labels l, []⟩

/-- One tap. -/
def step (s : Board) (t : Tap) : Board :=
  match s.gridnames[t.tile]? with
  | some gridname =>
    { s with
      gridnames := s.gridnames.set t.tile (myGrid t.area gridname).1
      log := s.log ++ [(t, (myGrid t.area gridname).2)] }
  | none => s

/-- The screens that an action pushes at once. -/
def pushes : TileAction → List Screen
  | .to page => [.offers page]
  | _ => []

/-- A tap on a tile of the app is a tap on the board of its topmost page: it
    captures the same names and pushes what the board logs. -/
theorem app_tile (s : App) (b : Board) (t : Tap) {id : Nat} (htop : s.top = some ⟨id, .categories⟩)
    (hnames : s.tiles id = b.gridnames) :
    (s.tile t.area t.tile).tiles id = (step b t).gridnames ∧
      (s.tile t.area t.tile).log
        = s.log ++ ((step b t).log.drop b.log.length).flatMap fun e => pushes e.2 := by
  rw [App.tile, htop, step]
  simp only [hnames]
  rcases hname : b.gridnames[t.tile]? with _ | gridname
  · simp only [List.drop_length, List.flatMap_nil, List.append_nil, hnames, and_self]
  · simp only [App.tapTile, List.drop_left, List.flatMap_singleton, hnames]
    have hset : Function.update s.tiles id (b.gridnames.set t.tile (myGrid t.area gridname).1) id
        = b.gridnames.set t.tile (myGrid t.area gridname).1 := Function.update_self _ _ _
    rcases haction : (myGrid t.area gridname).2 with page | _ | _
    · -- On `Categories` no offers page is in the way of `Get.to`.
      have hcurrent := App.isCurrent_of_categories htop page
      rw [App.isCurrent] at hcurrent
      simp only [App.getTo, App.isCurrent, hcurrent, Bool.false_eq_true, if_false, App.pushRoot]
      exact ⟨hset, rfl⟩
    · exact ⟨hset, (List.append_nil _).symm⟩
    · exact ⟨hset, (List.append_nil _).symm⟩

/-- What a tile of a page in a locale may do: open a page in that locale, or
    listen to the collection of the mall. The locale of a page is that of the
    rows it shows and of its search. Its title is a label, so only `OwnPage`
    looks at it, where it compares two pages. The listener of Baraka Mall
    opens nothing by itself, so nothing is asked of it here. -/
def InLocale (l : Locale) : TileAction → Prop
  | .to page =>
    match l with
    | .enUS => page.args.nametype = "name" ∧ page.args.searchtype = "searchIndex"
    | .arJO => page.args.nametype = "namearabic" ∧ page.args.searchtype = "searchIndexarabic"
  | .listen => True
  | .nothing => False

instance (l : Locale) : DecidablePred (InLocale l)
  | .to page =>
    match l with
    | .enUS =>
      inferInstanceAs (Decidable
        (page.args.nametype = "name" ∧ page.args.searchtype = "searchIndex"))
    | .arJO =>
      inferInstanceAs (Decidable
        (page.args.nametype = "namearabic" ∧ page.args.searchtype = "searchIndexarabic"))
  | .listen => .isTrue trivial
  | .nothing => .isFalse id

/-- Every tap has opened a page in the locale of the labels, and any two taps
    on one tile the same page, with all its arguments. -/
def OwnPage (s : Board) : Prop :=
  (∀ e ∈ s.log, InLocale s.locale e.2) ∧
    ∀ e ∈ s.log, ∀ f ∈ s.log, e.1.tile = f.1.tile → e.2 = f.2

instance : DecidablePred OwnPage := fun s =>
  inferInstanceAs (Decidable ((∀ e ∈ s.log, InLocale s.locale e.2) ∧
    ∀ e ∈ s.log, ∀ f ∈ s.log, e.1.tile = f.1.tile → e.2 = f.2))

/-- A tap on one hit area opens what an earlier one on the other did: in
    Arabic only on the third tile, Baraka Mall, and in English unless it is
    the second, the restaurants, and the hit areas differ. -/
def Agrees (l : Locale) (tile : Nat) (earlier later : Area) : Prop :=
  match l with
  | .enUS => tile = 1 → earlier = later
  | .arJO => tile = 2

instance (l : Locale) (tile : Nat) (earlier later : Area) :
    Decidable (Agrees l tile earlier later) :=
  match l with
  | .enUS => inferInstanceAs (Decidable (tile = 1 → earlier = later))
  | .arJO => inferInstanceAs (Decidable (tile = 2))

/-- A tap agrees with the earlier taps on its tile. -/
def Repeats (s : Board) (t : Tap) : Prop :=
  ∀ e ∈ s.log, e.1.tile = t.tile → Agrees s.locale t.tile e.1.area t.area

theorem labels_enUS : labels .enUS =
    ["Hotels", "Restaurants And Cafes", "Baraka Mall", "Educational Organizations",
      "Sports Clubs", "Health And Beauty", "Electronics-Devices", "Others"] := by
  decide

theorem labels_arJO : labels .arJO =
    ["الفنادق", "المطاعم و الكافيهات", "البركة مول", "المؤسسات التعليمية", "الأندية الرياضية",
      "الصحة والجمال", "الالكترونيات-الاجهزة", "اخرى"] := by
  decide

theorem inLocale_of_label {l : Locale} {tile : Nat} {label : String} (area : Area)
    (hlabel : (labels l)[tile]? = some label) : InLocale l (myGrid area label).2 := by
  have hall : ∀ q ∈ (labels l).zipIdx, InLocale l (myGrid area q.1).2 := by
    cases l with
    | enUS =>
        rw [labels_enUS]
        cases area <;> decide
    | arJO =>
        rw [labels_arJO]
        cases area <;> decide
  exact hall (label, tile) (List.mk_mem_zipIdx_iff_getElem?.mpr hlabel)

/-- A later tap opens the same as the first exactly when it agrees with it,
    and then it opens what it would have opened as the first. -/
theorem agrees_iff {l : Locale} {tile : Nat} {label : String} (earlier later : Area)
    (hlabel : (labels l)[tile]? = some label) :
    ((myGrid later (myGrid earlier label).1).2 = (myGrid earlier label).2 ↔
      Agrees l tile earlier later) ∧
    (Agrees l tile earlier later → (myGrid later label).2 = (myGrid earlier label).2) := by
  have hall : ∀ q ∈ (labels l).zipIdx,
      ((myGrid later (myGrid earlier q.1).1).2 = (myGrid earlier q.1).2 ↔
        Agrees l q.2 earlier later) ∧
      (Agrees l q.2 earlier later → (myGrid later q.1).2 = (myGrid earlier q.1).2) := by
    cases l with
    | enUS =>
        rw [labels_enUS]
        cases earlier <;> cases later <;> decide
    | arJO =>
        rw [labels_arJO]
        cases earlier <;> cases later <;> decide
  exact hall (label, tile) (List.mk_mem_zipIdx_iff_getElem?.mpr hlabel)

/-- A tile has been tapped before. -/
def Tapped (s : Board) (tile : Nat) : Prop :=
  ∃ e ∈ s.log, e.1.tile = tile

/-- The captured names: the label up to the first tap, and what the handlers
    make of it from then on. Each tap has opened what it opens on the label. -/
structure Inv (s : Board) : Prop where
  fresh : ∀ tile, ¬ Tapped s tile → s.gridnames[tile]? = (labels s.locale)[tile]?
  settled : ∀ tile, Tapped s tile → s.gridnames[tile]?
    = (labels s.locale)[tile]?.map fun label => (myGrid .label label).1
  opened : ∀ e ∈ s.log, ∃ label, (labels s.locale)[e.1.tile]? = some label ∧
    e.2 = (myGrid e.1.area label).2

section

variable {s : Board} {t : Tap} {label gridname : String}

/-- The state after a tap on a tile that exists. -/
theorem step_eq (hname : s.gridnames[t.tile]? = some gridname) :
    step s t = { s with
      gridnames := s.gridnames.set t.tile (myGrid t.area gridname).1
      log := s.log ++ [(t, (myGrid t.area gridname).2)] } := by
  rw [step, hname]

/-- A tap on no tile does nothing. -/
theorem step_none (h : Inv s) (hlabel : (labels s.locale)[t.tile]? = none) : step s t = s := by
  have hname : s.gridnames[t.tile]? = none := by
    by_cases htapped : Tapped s t.tile
    · rw [h.settled t.tile htapped, hlabel, Option.map_none]
    · rw [h.fresh t.tile htapped, hlabel]
  rw [step, hname]

/-- The name that a tile has captured. -/
theorem exists_gridname (h : Inv s) (hlabel : (labels s.locale)[t.tile]? = some label) :
    ∃ gridname, s.gridnames[t.tile]? = some gridname ∧
      ((¬ Tapped s t.tile ∧ gridname = label) ∨
        (Tapped s t.tile ∧ gridname = (myGrid .label label).1)) := by
  by_cases htapped : Tapped s t.tile
  · refine ⟨_, ?_, Or.inr ⟨htapped, rfl⟩⟩
    rw [h.settled t.tile htapped, hlabel, Option.map_some]
  · refine ⟨_, ?_, Or.inl ⟨htapped, rfl⟩⟩
    rw [h.fresh t.tile htapped, hlabel]

/-- What a tap opens on a tile that has been tapped, against an earlier tap
    on it. -/
theorem opens_iff (h : Inv s) (hlabel : (labels s.locale)[t.tile]? = some label)
    {e : Tap × TileAction} (he : e ∈ s.log) (htile : e.1.tile = t.tile) :
    (e.2 = (myGrid t.area (myGrid .label label).1).2 ↔
      Agrees s.locale t.tile e.1.area t.area) ∧
    (Agrees s.locale t.tile e.1.area t.area → e.2 = (myGrid t.area label).2) := by
  rcases h.opened e he with ⟨label', hlabel', hopened⟩
  rw [htile, hlabel, Option.some.injEq] at hlabel'
  rcases agrees_iff e.1.area t.area hlabel with ⟨hiff, hfirst⟩
  rw [hopened, ← hlabel', myGrid_gridname .label e.1.area]
  exact ⟨eq_comm.trans hiff, fun hagrees => (hfirst hagrees).symm⟩

/-- One more tap keeps `OwnPage` exactly when it opens a page in the locale,
    and the page of the earlier taps on its tile. -/
theorem ownPage_append (hp : OwnPage s) (names : List String) (action : TileAction) :
    OwnPage { s with gridnames := names, log := s.log ++ [(t, action)] } ↔
      InLocale s.locale action ∧ ∀ e ∈ s.log, e.1.tile = t.tile → e.2 = action := by
  have hlast : (t, action) ∈ s.log ++ [(t, action)] :=
    List.mem_append_right _ (List.mem_singleton.mpr rfl)
  constructor
  · intro h
    rcases h with ⟨hlocale, hsame⟩
    exact ⟨hlocale _ hlast, fun e he => hsame e (List.mem_append_left _ he) _ hlast⟩
  · intro h
    rcases h with ⟨hlocale, hsame⟩
    refine ⟨fun e he => ?_, fun e he f hf htile => ?_⟩
    · rcases List.mem_append.mp he with he | he
      · exact hp.1 e he
      · rw [List.mem_singleton.mp he]
        exact hlocale
    · -- Two earlier taps, the new one and an earlier one, or the new one.
      rcases List.mem_append.mp he with he | he <;> rcases List.mem_append.mp hf with hf | hf
      · exact hp.2 e he f hf htile
      · rw [List.mem_singleton.mp hf] at htile ⊢
        exact hsame e he htile
      · rw [List.mem_singleton.mp he] at htile ⊢
        exact (hsame f hf htile.symm).symm
      · rw [List.mem_singleton.mp he, List.mem_singleton.mp hf]

theorem tapped_append (names : List String) (action : TileAction) (tile : Nat) :
    Tapped { s with gridnames := names, log := s.log ++ [(t, action)] } tile ↔
      Tapped s tile ∨ t.tile = tile := by
  simp only [Tapped, List.mem_append, List.mem_singleton, or_and_right, exists_or,
    exists_eq_left]

/-- What a tap leaves in `gridname` and what it opens, against the label. -/
theorem tap_eq (h : Inv s) (hrepeats : Repeats s t)
    (hlabel : (labels s.locale)[t.tile]? = some label)
    (hcase : (¬ Tapped s t.tile ∧ gridname = label) ∨
      (Tapped s t.tile ∧ gridname = (myGrid .label label).1)) :
    (myGrid t.area gridname).1 = (myGrid .label label).1 ∧
      (myGrid t.area gridname).2 = (myGrid t.area label).2 := by
  rcases hcase with ⟨-, rfl⟩ | ⟨⟨e, he, htile⟩, rfl⟩
  · exact ⟨myGrid_gridname _ _ _, rfl⟩
  · rcases opens_iff h hlabel he htile with ⟨hiff, hfirst⟩
    have hagrees := hrepeats e he htile
    exact ⟨myGrid_settled _ _ _, (hiff.mpr hagrees).symm.trans (hfirst hagrees)⟩

theorem inv_step (h : Inv s) (hrepeats : Repeats s t) : Inv (step s t) := by
  rcases hlabel : (labels s.locale)[t.tile]? with _ | label
  · rw [step_none h hlabel]
    exact h
  rcases exists_gridname h hlabel with ⟨gridname, hname, hcase⟩
  rcases tap_eq h hrepeats hlabel hcase with ⟨hsettled, hopened⟩
  have hlt : t.tile < s.gridnames.length := (List.getElem?_eq_some_iff.mp hname).1
  rw [step_eq hname]
  refine ⟨fun tile htapped => ?_, fun tile htapped => ?_, fun e he => ?_⟩
  · rw [tapped_append, not_or] at htapped
    rw [List.getElem?_set_ne htapped.2]
    exact h.fresh tile htapped.1
  · rw [tapped_append] at htapped
    by_cases htile : t.tile = tile
    · rw [← htile, List.getElem?_set_self hlt, hlabel, hsettled, Option.map_some]
    · rw [List.getElem?_set_ne htile]
      exact h.settled tile (htapped.resolve_right htile)
  · rcases List.mem_append.mp he with he | he
    · exact h.opened e he
    · rw [List.mem_singleton.mp he]
      exact ⟨label, hlabel, hopened⟩

theorem ownPage_step (h : Inv s) (hp : OwnPage s) : OwnPage (step s t) ↔ Repeats s t := by
  rcases hlabel : (labels s.locale)[t.tile]? with _ | label
  · -- There is no such tile, so it has not been tapped before.
    rw [step_none h hlabel]
    refine iff_of_true hp fun e he htile => ?_
    rcases h.opened e he with ⟨label, hlabel', -⟩
    rw [htile, hlabel] at hlabel'
    exact absurd hlabel' (by simp only [reduceCtorEq, not_false_eq_true])
  rcases exists_gridname h hlabel with ⟨gridname, hname, hcase⟩
  rw [step_eq hname, ownPage_append hp]
  rcases hcase with ⟨hfresh, rfl⟩ | ⟨⟨e, he, htile⟩, rfl⟩
  · -- The first tap on a tile has nothing to agree with.
    have hnone : ∀ e ∈ s.log, e.1.tile ≠ t.tile := fun e he htile => hfresh ⟨e, he, htile⟩
    exact iff_of_true ⟨inLocale_of_label t.area hlabel, fun e he htile => absurd htile (hnone e he)⟩
      fun e he htile => absurd htile (hnone e he)
  · constructor
    · intro h' f hf hftile
      exact (opens_iff h hlabel hf hftile).1.mp (h'.2 f hf hftile)
    · intro hrepeats
      have hsame : ∀ f ∈ s.log, f.1.tile = t.tile → f.2 = _ := fun f hf hftile =>
        (opens_iff h hlabel hf hftile).1.mpr (hrepeats f hf hftile)
      -- What the earlier tap opened was in the locale.
      exact ⟨hsame e he htile ▸ hp.1 e he, hsame⟩

end

/-- In every sequence of taps on a page of either locale, every tap opens a
    page in the locale of the labels, the one that the first tap on its tile
    has opened, exactly when each tap agrees with the earlier ones on its
    tile. -/
theorem ownPage_iff (l : Locale) (taps : List Tap) :
    Run.Always step OwnPage (Board.build l) taps ↔ Run.Along step Repeats (Board.build l) taps := by
  refine Run.always_iff_along step Inv OwnPage Repeats (fun s t h _ hrepeats => inv_step h hrepeats)
    (fun s t h hp => ownPage_step h hp) taps (Board.build l) ?_ ?_
  · refine ⟨fun tile _ => rfl, fun tile htapped => ?_, fun e he => absurd he List.not_mem_nil⟩
    rcases htapped with ⟨e, he, -⟩
    exact absurd he List.not_mem_nil
  · exact ⟨fun e he => absurd he List.not_mem_nil, fun e he => absurd he List.not_mem_nil⟩

/-- In Arabic the tile of the hotels is tapped twice. -/
theorem arabic_tile_twice :
    ¬ Run.Always step OwnPage (Board.build .arJO) [⟨0, .background⟩, ⟨0, .background⟩] := by
  decide

end Tiles

end JkbEmpOffers
