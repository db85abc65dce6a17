import JkbEmpOffers.Library.Traverse
import JkbEmpOffers.Dart
import Mathlib.Data.List.FinRange

/-!
# The Image Viewers

`ImageBui` shows one image and `GridImageList` a grid of 2 to 21. The grid
takes its images as the named parameters `img1` to `img21` and their number
as `count`; it hands them on to `Home`, whose `build` puts the list together
again, with one branch for each count it knows.

The handlers that open a viewer read the images inside the route's builder,
after the page has been pushed. A wrong index there is not caught by the
handler's `try`, and it breaks the page instead. `ViewerRoute` is such a
builder with the data it closes over, and `ViewerRoute.display` builds it
and the page it returns.

## Main definitions

* `ImageBui`, `GridImageList`, `Home`: The widgets with their parameters.
* `Shown`: The title and the images a viewer displays.
* `Branch`: What one branch of a handler passes to the grid.
* `ViewerRoute`: A pushed viewer route.

## Theorems

* `home_build`: A grid whose parameters list the images displays them.
* `display_imageBui`: A route for a list of one shows it.
* `display_regular`: A regular branch shows exactly the field's list.
* `display_out_of_range`: An index beyond the list is a range error.
-/

namespace JkbEmpOffers

/-- `ImageBui(id, name)` -/
structure ImageBui where
  id : String
  name : String
  deriving DecidableEq

/-- `GridImageList(img1: …, img21: …, name: …, count: …)`; the parameter
    `imgK` is `img (K - 1)`, and a parameter that is not passed is null. -/
structure GridImageList where
  count : Option Nat
  name : Option String
  img : Fin 21 → Option String

/-- `Home`, with the same parameters. -/
structure Home where
  count : Option Nat
  name : Option String
  img : Fin 21 → Option String

/-- What a viewer displays: the title of its bar and its images in order. -/
structure Shown where
  title : String
  images : List String
  deriving DecidableEq, Repr

/-- `ImageBui.build` -/
def ImageBui.build (w : ImageBui) : Shown :=
  ⟨w.name, [w.id]⟩

/-- `GridImageList.build` hands every parameter on to `Home`. -/
def GridImageList.build (w : GridImageList) : Home :=
  { count := w.count, name := w.name, img := w.img }

namespace Home

/-- The list that `build` puts together: `img1` to `imgN` for a count of 2
    to 21, and null for any other. -/
def thelistsofimgs (w : Home) : Option (List (Option String)) :=
  match w.count with
  | none => none
  | some n => if 2 ≤ n ∧ n ≤ 21 then some (((List.finRange 21).take n).map w.img) else none

/-- The cell of the grid: a null image fails on `Hero(tag: …)`. -/
def itemBuilder (img : Option String) : Except DartError String :=
  match img with
  | some url => .ok url
  | none => .error (.typeError "Null" "Object")

/-- `_HomeState.build` with every cell of the grid built. -/
def build (w : Home) : Except DartError Shown :=
  match w.thelistsofimgs with
  | none => .error (.noSuchMethod "length" "Null")
  | some imgs =>
    match w.name with
    | none => .error (.typeError "Null" "String")
    | some name => (imgs.mapM itemBuilder).map fun urls => ⟨name, urls⟩

/-- `onTap` of a cell opens that image alone. -/
def onTap (w : Home) (index : Nat) : Except DartError ImageBui :=
  w.build.bind fun shown => (Value.index shown.images index).map fun url => ⟨url, shown.title⟩

end Home

/-- One branch of a handler's chain over the number of images: the number it
    is for, the indices it reads for `img1`, `img2` and so on, and the count
    it passes. -/
structure Branch where
  size : Nat
  indices : List Nat
  count : Nat
  deriving DecidableEq

/-- A branch that passes the elements 0 to `n - 1` and the count `n`. -/
def Branch.regular (n : Nat) : Branch :=
  ⟨n, List.range n, n⟩

/-- `MaterialPageRoute(builder: …)` for a viewer: `data` is the field that
    the builder reads again when the page is built. -/
inductive ViewerRoute where
  | imageBui (data : Value) (name : String)
  | gridImageList (data : Value) (branch : Branch) (name : String)
  deriving DecidableEq

/-- A viewer widget. -/
inductive Viewer where
  | imageBui (w : ImageBui)
  | gridImageList (w : GridImageList)

/-- Building the page the widget makes. -/
def Viewer.build : Viewer → Except DartError Shown
  | .imageBui w => .ok w.build
  | .gridImageList w => w.build.build

namespace ViewerRoute

/-- One argument `imgK: element.data()[field][i]`, cast to `String?`. -/
def argument (data : Value) (i : Nat) : Except DartError (Option String) :=
  (data.getIndex i).bind Value.asStringOrNull

/-- The route's builder. -/
def builder : ViewerRoute → Except DartError Viewer
  | .imageBui data name =>
    (data.getIndex 0).bind fun v => v.asString.map fun id => .imageBui ⟨id, name⟩
  | .gridImageList data branch name =>
    (branch.indices.mapM (argument data)).map fun imgs =>
      .gridImageList ⟨some branch.count, some name, fun k => imgs[k.val]?.join⟩

/-- What the pushed page displays. -/
def display (r : ViewerRoute) : Except DartError Shown :=
  r.builder.bind Viewer.build

end ViewerRoute

/-- The list read back from the parameters of a grid is the list they were
    filled from. -/
theorem take_finRange_map (img : Fin 21 → Option String) (urls : List String)
    (hlen : urls.length ≤ 21) (himg : ∀ k, img k = urls[k.val]?) :
    ((List.finRange 21).take urls.length).map img = urls.map some := by
  refine List.ext_getElem ?_ fun i h₁ h₂ => ?_
  · rw [List.length_map, List.length_map, List.length_take, List.length_finRange]
    omega
  · rw [List.length_map] at h₂
    rw [List.getElem_map, List.getElem_take, List.getElem_finRange, List.getElem_map, himg]
    exact List.getElem?_eq_getElem h₂

/-- A grid whose parameters list the images, with their number as count,
    displays exactly them. -/
theorem home_build (w : Home) (name : String) (urls : List String)
    (hcount : w.count = some urls.length) (hname : w.name = some name)
    (hlo : 2 ≤ urls.length) (hhi : urls.length ≤ 21) (himg : ∀ k, w.img k = urls[k.val]?) :
    w.build = .ok ⟨name, urls⟩ := by
  -- The branch for the count lists the parameters back.
  have hlist : w.thelistsofimgs = some (urls.map some) := by
    rw [Home.thelistsofimgs, hcount]
    simp only [hlo, hhi, and_self, if_true]
    rw [take_finRange_map w.img urls hhi himg]
  -- None of them is null, so every cell of the grid builds.
  have hcells : (urls.map some).mapM Home.itemBuilder = .ok urls := by
    have h : urls.mapM (Home.itemBuilder ∘ some) = .ok (urls.map id) :=
      Traverse.mapM_ok fun _ _ => rfl
    rw [List.mapM_map, h, List.map_id]
  rw [Home.build, hlist, hname]
  simp only [hcells]
  rfl

theorem display_imageBui (url name : String) :
    (ViewerRoute.imageBui (.list [.str url]) name).display = .ok ⟨name, [url]⟩ := rfl

theorem display_regular (urls : List String) (name : String)
    (hlo : 2 ≤ urls.length) (hhi : urls.length ≤ 21) :
    (ViewerRoute.gridImageList (.list (urls.map .str)) (Branch.regular urls.length)
      name).display = .ok ⟨name, urls⟩ := by
  -- Each argument is the element at its own index.
  have hread : ∀ i (hi : i < (urls.map some).length),
      ViewerRoute.argument (.list (urls.map .str)) i = .ok (urls.map some)[i] := by
    intro i hi
    have hi' : i < (urls.map Value.str).length := by
      rw [List.length_map] at hi ⊢
      exact hi
    rw [ViewerRoute.argument, Value.getIndex_list hi', List.getElem_map, List.getElem_map]
    rfl
  have hargs : (Branch.regular urls.length).indices.mapM
      (ViewerRoute.argument (.list (urls.map .str))) = .ok (urls.map some) := by
    have h := Traverse.mapM_range_ok hread
    rwa [List.length_map] at h
  rw [ViewerRoute.display, ViewerRoute.builder, hargs]
  refine home_build _ name urls rfl rfl hlo hhi fun k => ?_
  -- A parameter past the list was not passed, and the list has nothing there.
  change (((urls.map some)[k.val]?).join) = urls[k.val]?
  rw [List.getElem?_map]
  cases urls[k.val]? with
  | none => rfl
  | some url => rfl

theorem display_out_of_range (xs : List Value) (branch : Branch) (name : String) (i : Nat)
    (hmem : i ∈ branch.indices) (hi : xs.length ≤ i) :
    ∃ e, (ViewerRoute.gridImageList (.list xs) branch name).display = .error e := by
  -- The argument is read inside the route's builder, outside the `try`.
  have harg : ViewerRoute.argument (.list xs) i = .error (.rangeError i xs.length) := by
    rw [ViewerRoute.argument, Value.getIndex, Value.index, List.getElem?_eq_none hi]
    rfl
  rcases Traverse.mapM_error hmem harg with ⟨e, he⟩
  exact ⟨e, by rw [ViewerRoute.display, ViewerRoute.builder, he]; rfl⟩

end JkbEmpOffers
