import JkbEmpOffers.Handlers
import JkbEmpOffers.Listing

/-!
# The Category Tiles

`Categories` builds eight tiles from eight labels in the current locale.
`myGrid` captures its label as the variable `gridname`, and a tile has two
hit areas, the background and the label text, each with its own copy of the
handler. A handler compares `gridname` with the Arabic labels first. Such a
branch overwrites `gridname` with the English name before it opens the page,
so the next tap on the same tile finds an English name there.

The two copies differ for the restaurants: the background opens
`ResCafeOffersList`, the label text `OffersList`.

## Main definitions

* `Area`: The two hit areas.
* `labels`: The labels of the tiles in a locale.
* `TileBranch`, `tileBranches`: The branches that open a page.
* `TileAction`: What a tap does.
* `myGrid`: A tap, from the captured name to the new one and the action.
* `barakaMall`: The chain of the Baraka Mall listener.
* `arabicNames`, `englishNames`: The names that open a page, by its language.
* `restaurantNames`: Those whose page depends on the hit area.

## Theorems

* `tileBranches_language`: The two languages a branch can open a page in.
* `myGrid_page`: A tap opens a page in the language of the captured name.
* `myGrid_opens`: The names that open a page.
* `labels_opens`: Every tile but that of Baraka Mall opens one.
* `myGrid_area`, `myGrid_restaurants`: The tiles on which the hit areas agree.
* `myGrid_settled`: After the first tap the name stays.
-/

namespace JkbEmpOffers

namespace Categories

/-- The two hit areas of a tile. -/
inductive Area where
  | background
  | label
  deriving DecidableEq, Repr

/-- The names the eight tiles capture when the page is built. -/
def labels (l : Locale) : List String :=
  ["hotels", "restaurantsandcofes", "barakamall", "education", "sportsclub", "healthandbeauty",
    "electronicsdevices", "others"].map (tr l)

/-- A branch of `onTap` that opens a page: the name it compares with, the
    name it leaves in `gridname`, and the page. -/
structure TileBranch where
  label : String
  gridname : String
  page : ListPage
  nametype : String
  searchtype : String
  titlebar : String
  deriving DecidableEq

/-- The page a branch opens, with `gridname` as its name. -/
def TileBranch.opens (b : TileBranch) : OffersPage :=
  ⟨b.page, ⟨b.gridname, b.nametype, b.searchtype, b.titlebar⟩⟩

/-- A branch for an Arabic label overwrites `gridname`. -/
def arabicBranch (label gridname : String) (page : ListPage) (titlebar : String) : TileBranch :=
  ⟨label, gridname, page, "namearabic", "searchIndexarabic", titlebar⟩

/-- A branch for an English label leaves `gridname` as it is. -/
def englishBranch (label : String) (page : ListPage) (titlebar : String) : TileBranch :=
  ⟨label, label, page, "name", "searchIndex", titlebar⟩

/-- The branches of one copy of `onTap`, in order, with the page that it
    opens for the restaurants. -/
def tileBranches (restaurants : ListPage) : List TileBranch := [
  arabicBranch "اخرى" "Others" .offersList "عروض اخرى",
  arabicBranch "المؤسسات التعليمية" "Educational Organizations" .offersList
    "عروض المؤسسات التعليمية",
  arabicBranch "الأندية الرياضية" "Sports Clubs" .offersList "عروض الأندية الرياضية",
  arabicBranch "المطاعم و الكافيهات" "Restaurants And Cafes" restaurants
    "عروض المطاعم و الكافيهات",
  arabicBranch "الفنادق" "Hotels" .offersList "عروض الفنادق",
  arabicBranch "الصحة والجمال" "Health And Beauty" .offersList "عروض الصحة والجمال",
  arabicBranch "الالكترونيات-الاجهزة" "Electronics-Devices" .offersList
    "عروض الالكترونيات-الاجهزة",
  englishBranch "Others" .offersList "Others Offers",
  englishBranch "Educational Organizations" .offersList "Educational Organizations Offers",
  englishBranch "Sports Clubs" .offersList "Sports Clubs Offers",
  englishBranch "Restaurants And Cafes" restaurants "Restaurants And Cafes Offers",
  englishBranch "Hotels" .offersList "Hotels Offers",
  englishBranch "Health And Beauty" .offersList "Health And Beauty Offers",
  englishBranch "Electronics-Devices" .offersList "Electronics-Devices Offers"]

/-- The branches of the handler of a hit area. -/
def areaBranches : Area → List TileBranch
  | .background => tileBranches .resCafeOffersList
  | .label => tileBranches .offersList

/-- What a tap does: `Get.to` a page, listen to the Baraka Mall collection,
    or nothing. -/
inductive TileAction where
  | to (page : OffersPage)
  | listen
  | nothing
  deriving DecidableEq

/-- `onTap` of a hit area: the name left in `gridname` and the action. -/
def myGrid (area : Area) (gridname : String) : String × TileAction :=
  match (areaBranches area).find? fun b => b.label == gridname with
  | some b => (b.gridname, .to b.opens)
  | none =>
    if gridname = "Baraka Mall" ∨ gridname = "البركة مول" then (gridname, .listen)
    else (gridname, .nothing)

/-- The chain of the Baraka Mall listener, the same in both copies. -/
def barakaMall : ViewerChain :=
  ViewerChain.upTo "offers" 14

/-- A branch opens its page either in Arabic or in English, with the index
    field of the same language. -/
theorem tileBranches_language (restaurants : ListPage) :
    ∀ b ∈ tileBranches restaurants,
      (b.nametype = "namearabic" ∧ b.searchtype = "searchIndexarabic") ∨
        (b.nametype = "name" ∧ b.searchtype = "searchIndex") := by
  cases restaurants <;> decide

/-- The names that open a page in Arabic. -/
def arabicNames : List String :=
  ((tileBranches .offersList).filter (·.nametype == "namearabic")).map TileBranch.label

/-- The names that open a page in English. -/
def englishNames : List String :=
  ((tileBranches .offersList).filter (·.nametype == "name")).map TileBranch.label

/-- Both hit areas have the same names in either language. -/
theorem areaBranches_names (area : Area) :
    ∀ b ∈ areaBranches area, (b.label ∈ arabicNames ↔ b.nametype = "namearabic") ∧
      (b.label ∈ englishNames ↔ b.nametype = "name") := by
  cases area <;> decide

theorem areaBranches_language (area : Area) :
    ∀ b ∈ areaBranches area,
      (b.nametype = "namearabic" ∧ b.searchtype = "searchIndexarabic") ∨
        (b.nametype = "name" ∧ b.searchtype = "searchIndex") := by
  cases area <;> exact tileBranches_language _

/-- A tap that opens a page takes a branch for the captured name. -/
theorem myGrid_to {area : Area} {gridname : String} {page : OffersPage}
    (h : (myGrid area gridname).2 = .to page) :
    ∃ b ∈ areaBranches area, b.label = gridname ∧ b.opens = page := by
  rw [myGrid] at h
  split at h
  · rename_i b hb
    refine ⟨b, List.mem_of_find?_eq_some hb, ?_, TileAction.to.inj h⟩
    simpa only [beq_iff_eq] using List.find?_some hb
  · -- Without a branch the tap subscribes or does nothing.
    split_ifs at h

theorem myGrid_page {area : Area} {gridname : String} {page : OffersPage}
    (h : (myGrid area gridname).2 = .to page) :
    (gridname ∈ arabicNames ∧ page.args.nametype = "namearabic" ∧
      page.args.searchtype = "searchIndexarabic") ∨
    (gridname ∈ englishNames ∧ page.args.nametype = "name" ∧
      page.args.searchtype = "searchIndex") := by
  rcases myGrid_to h with ⟨b, hb, rfl, rfl⟩
  -- The name is in the list of the language that the branch opens in.
  rcases areaBranches_names area b hb with ⟨harabic, henglish⟩
  rcases areaBranches_language area b hb with hlang | hlang
  · exact Or.inl ⟨harabic.mpr hlang.1, hlang⟩
  · exact Or.inr ⟨henglish.mpr hlang.1, hlang⟩

theorem myGrid_opens (area : Area) :
    ∀ gridname ∈ arabicNames ++ englishNames, ∃ page, (myGrid area gridname).2 = .to page := by
  intro gridname hname
  -- Each name of the lists has a branch on the area.
  have hfind : ∀ g ∈ arabicNames ++ englishNames,
      ((areaBranches area).find? fun b => b.label == g).isSome = true := by
    cases area <;> decide
  rcases Option.isSome_iff_exists.mp (hfind gridname hname) with ⟨b, hb⟩
  exact ⟨b.opens, by rw [myGrid, hb]⟩

/-- Every label but that of Baraka Mall, whose tile only listens, is such a
    name. -/
theorem labels_opens (area : Area) {l : Locale} {gridname : String} (hname : gridname ∈ labels l)
    (hmall : gridname ≠ tr l "barakamall") : ∃ page, (myGrid area gridname).2 = .to page := by
  have hlabels : ∀ g ∈ labels l, g ≠ tr l "barakamall" → g ∈ arabicNames ++ englishNames := by
    cases l <;> decide
  exact myGrid_opens area gridname (hlabels gridname hname hmall)

/-- No name opens a page in both languages. -/
theorem names_disjoint : ∀ gridname ∈ arabicNames, gridname ∉ englishNames := by
  decide

/-- The names of the one tile whose two hit areas differ. -/
def restaurantNames : List String :=
  ["المطاعم و الكافيهات", "Restaurants And Cafes"]

/-- A branch without the page that it opens for the restaurants. -/
def TileBranch.common (b : TileBranch) : TileBranch :=
  if b.label ∈ restaurantNames then { b with page := .offersList } else b

theorem common_label (b : TileBranch) : b.common.label = b.label := by
  rw [TileBranch.common]
  split_ifs <;> rfl

/-- The two copies of the handler differ in nothing else. -/
theorem areaBranches_common (area area' : Area) :
    (areaBranches area).map TileBranch.common = (areaBranches area').map TileBranch.common := by
  cases area <;> cases area' <;> decide

/-- On any tile but that of the restaurants a tap does the same on both hit
    areas. -/
theorem myGrid_area (area area' : Area) {gridname : String} (h : gridname ∉ restaurantNames) :
    myGrid area gridname = myGrid area' gridname := by
  -- A branch for such a name is the same in both copies.
  have hfound : ∀ a, ((areaBranches a).find? fun b => b.label == gridname)
      = ((areaBranches a).map TileBranch.common).find? fun b => b.label == gridname := by
    intro a
    rw [List.find?_map, Function.comp_def]
    simp only [common_label]
    rcases hb : (areaBranches a).find? fun b => b.label == gridname with _ | b
    · rw [hb, Option.map_none]
    · have hlabel : b.label = gridname := by
        simpa only [beq_iff_eq] using List.find?_some hb
      rw [hb, Option.map_some, TileBranch.common, hlabel, if_neg h]
  rw [myGrid, myGrid, hfound area, hfound area', areaBranches_common area area']

theorem myGrid_restaurants {gridname : String} (h : gridname ∈ restaurantNames) :
    ∃ page page', (myGrid .background gridname).2 = .to page ∧
      (myGrid .label gridname).2 = .to page' ∧ page ≠ page' := by
  rcases List.mem_cons.mp h with rfl | h
  · exact ⟨_, _, rfl, rfl, by decide⟩
  · rw [List.mem_singleton.mp h]
    exact ⟨_, _, rfl, rfl, by decide⟩

/-- The name a tap leaves does not depend on the hit area. -/
theorem myGrid_gridname (area area' : Area) (gridname : String) :
    (myGrid area gridname).1 = (myGrid area' gridname).1 := by
  by_cases h : gridname ∈ restaurantNames
  · have hname : ∀ g ∈ restaurantNames, (myGrid area g).1 = (myGrid area' g).1 := by
      cases area <;> cases area' <;> decide
    exact hname gridname h
  · rw [myGrid_area area area' h]

theorem myGrid_settled (area area' : Area) (gridname : String) :
    (myGrid area (myGrid area' gridname).1).1 = (myGrid area' gridname).1 := by
  have hbranch : ∀ b ∈ areaBranches area', (myGrid area b.gridname).1 = b.gridname := by
    cases area <;> cases area' <;> decide
  rcases hb : (areaBranches area').find? fun b => b.label == gridname with _ | b
  · -- Without a branch the name stays from the start.
    have hself : (myGrid area' gridname).1 = gridname := by
      rw [myGrid, hb]
      simp only
      split_ifs <;> rfl
    rw [hself, myGrid_gridname area area', hself]
  · have hname : (myGrid area' gridname).1 = b.gridname := by
      rw [myGrid, hb]
    rw [hname]
    exact hbranch b (List.mem_of_find?_eq_some hb)

end Categories

end JkbEmpOffers
