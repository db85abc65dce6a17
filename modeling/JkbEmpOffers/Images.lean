import JkbEmpOffers.Buttons

/-!
# Image Pages

Whether an opened viewer displays exactly the images of the field it was
opened for. The pushed route reads the field again when its page is built,
spreads it over named parameters, and the page puts the list together from
them: every regular branch gives the list back, whatever its length. The one
branch that is not regular is the one of the menu for 20 images, and it does
not build at all.

## Theorems

* `grids_regular`: The branches that pass exactly the elements they have.
* `display_menu_twenty`: The branch for 20 images breaks the page.
* `images_shown_iff`: Every pushed page displays the field's list, but for a
  menu of 20.
-/

namespace JkbEmpOffers

theorem grids_regular (b : ViewerButton) :
    ∀ g ∈ b.chain.grids, (g = Branch.regular g.size ∧ 2 ≤ g.size ∧ g.size ≤ 21) ∨
      (b = .menu ∧ g.size = 20) := by
  cases b with
  | offers page => cases page <;> decide
  | menu => decide
  | barakaMall area => cases area <;> decide

theorem display_menu_twenty (name : String) (d : Doc) (urls : List String)
    (hurls : d.field "menu" = .list (urls.map .str)) (hlen : urls.length = 20) :
    ∃ r e, ViewerButton.menu.chain.respond name d = some (.push r) ∧ r.display = .error e := by
  -- The branch is found by the size, but reads index 20 in place of 19.
  have hsize : (d.field ResCafeOffersList.menu.field).length = .ok 20 := by
    rw [show ResCafeOffersList.menu.field = "menu" from rfl, hurls, Value.length_list,
      List.length_map, hlen]
  have hbranch : branchFor Branch.size ResCafeOffersList.menu.grids 20
      = some ⟨20, List.range 19 ++ [20], 20⟩ := by decide
  have hresp : ViewerButton.menu.chain.respond name d
      = some (.push (.gridImageList (.list (urls.map .str)) ⟨20, List.range 19 ++ [20], 20⟩
        name)) := by
    rw [show ViewerButton.menu.chain = ResCafeOffersList.menu from rfl,
      viewer_respond_of_length hsize, if_neg (by decide), hbranch]
    simp only [Option.map_some, show ResCafeOffersList.menu.field = "menu" from rfl, hurls]
  rcases display_out_of_range (urls.map .str) ⟨20, List.range 19 ++ [20], 20⟩ name 20
    (by decide) (by rw [List.length_map]; omega) with ⟨e, he⟩
  exact ⟨_, e, hresp, he⟩

/-- Every page that a handler pushes for a list of URLs builds and displays
    exactly that list, if and only if it is not the menu's for 20 of them. -/
theorem images_shown_iff (b : ViewerButton) (name : String) (d : Doc) (urls : List String)
    (hurls : d.field b.field = .list (urls.map .str)) :
    (∀ r, b.chain.respond name d = some (.push r) → r.display = .ok ⟨name, urls⟩) ↔
      ¬ (b = .menu ∧ urls.length = 20) := by
  constructor
  · intro h hmenu
    rcases hmenu with ⟨rfl, hlen⟩
    rcases display_menu_twenty name d urls hurls hlen with ⟨r, e, hr, he⟩
    rw [h r hr] at he
    exact absurd he (by simp only [reduceCtorEq, not_false_eq_true])
  · intro hne r hr
    rcases viewer_respond_eq_some hr with ⟨n, hn, hcase⟩
    rw [viewer_field] at hn hcase
    rw [hurls, Value.length_list, List.length_map, Except.ok.injEq] at hn
    -- `ImageBui` for one image, or one of the grids.
    rcases hcase with ⟨h1, heq⟩ | ⟨g, hg, hsize, heq⟩
    · -- One image: the list is a singleton.
      rw [h1] at hn
      rcases List.length_eq_one_iff.mp hn with ⟨url, rfl⟩
      rw [Effect.push.inj heq, hurls]
      exact display_imageBui url name
    · rw [Effect.push.inj heq, hurls]
      rcases grids_regular b g hg with ⟨hreg, hlo, hhi⟩ | ⟨hmenu, h20⟩
      · rw [hreg, hsize, ← hn]
        exact display_regular urls name (by omega) (by omega)
      · exact absurd ⟨hmenu, by omega⟩ hne

theorem images_shown_two :
    (∀ r, ViewerButton.menu.chain.respond "Menu" (oneField "menu" (.list [.str "a", .str "b"]))
        = some (.push r) → r.display = .ok ⟨"Menu", ["a", "b"]⟩) ↔
      ¬ (ViewerButton.menu = .menu ∧ 2 = 20) :=
  images_shown_iff .menu "Menu" (oneField "menu" (.list [.str "a", .str "b"])) ["a", "b"]
    (oneField_field _ _)

/-- Twenty menu images: a page is pushed, and building it is a range error. -/
theorem menu_twenty_not_shown :
    ∃ r, ViewerButton.menu.chain.respond "Menu"
        (oneField "menu" (.list ((List.replicate 20 "image").map .str))) = some (.push r) ∧
      r.display = .error (.rangeError 20 20) :=
  ⟨.gridImageList (.list ((List.replicate 20 "image").map .str))
    ⟨20, List.range 19 ++ [20], 20⟩ "Menu", by decide, by decide⟩

end JkbEmpOffers
