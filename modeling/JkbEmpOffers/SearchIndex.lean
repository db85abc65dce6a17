import JkbEmpOffers.Moves
import JkbEmpOffers.Pages
import JkbEmpOffers.Library.Run

/-!
# The Index a Search Uses

An offers page is opened with the name of a `searchtype`, the index field of
its own language, and never reads it. The search takes its field from the
language in storage instead, which the language buttons write. The two agree
as long as every page is opened in the stored language. A notification opens
its page in English whatever is stored, and makes the labels of the tiles
English as well; and a tile that has been tapped in Arabic opens its page in
English the next time.

`Searches` is the property, and `InLanguage` the condition on a step: what
opens a page opens it in the stored language.

## Main definitions

* `SearchesOwnIndex`: A page searches the index it was opened with.
* `Searches`: Every page on the stacks does.
* `InLanguage`: The condition on a step.

## Theorems

* `searchesOwnIndex_iff`: It does in the stored language only.
* `inLanguage_of_opens`: The condition, on a step that opens a page.
* `searches_step`: The steps that keep `Searches`.
* `searches_iff`: The runs that do.
* `notification_after_arabic`: A run that does not.
-/

namespace JkbEmpOffers

namespace OffersPage

/-- Every search that is not blank queries the `searchtype` of the page,
    which is the index of the language the page was opened in. -/
def SearchesOwnIndex (lang : Option String) (p : OffersPage) : Prop :=
  (∀ searchstring, trim searchstring ≠ "" →
    (p.stream lang (some searchstring)).filter
      = some (.arrayContains p.args.searchtype searchstring)) ∧
  (p.args.searchtype = "searchIndexarabic" ↔ p.args.nametype = "namearabic") ∧
  (p.args.searchtype = "searchIndex" ↔ p.args.nametype = "name")

/-- The field a search queries comes from the stored language. -/
theorem stream_filter (lang : Option String) (p : OffersPage) {searchstring : String}
    (h : trim searchstring ≠ "") :
    (p.stream lang (some searchstring)).filter =
      some (.arrayContains (if lang = some "ar" then "searchIndexarabic" else "searchIndex")
        searchstring) := by
  rw [stream]
  cases p.page with
  | offersList => simp only [OffersList.stream, streamFor, if_neg h]; rfl
  | resCafeOffersList => simp only [ResCafeOffersList.stream, streamFor, if_neg h]; rfl

/-- A page searches the index it was opened with only in the stored
    language. -/
theorem searchesOwnIndex_iff (lang : Option String) (p : OffersPage) :
    p.SearchesOwnIndex lang ↔
      (if lang = some "ar" then "searchIndexarabic" else "searchIndex") = p.args.searchtype ∧
      (p.args.searchtype = "searchIndexarabic" ↔ p.args.nametype = "namearabic") ∧
      (p.args.searchtype = "searchIndex" ↔ p.args.nametype = "name") := by
  refine and_congr_left fun _ => ?_
  constructor
  · -- One search is enough to see the field.
    intro h
    have ha := h "a" (by decide)
    rw [stream_filter lang p (by decide)] at ha
    exact (Filter.arrayContains.inj (Option.some.inj ha)).1
  · intro h searchstring hne
    rw [stream_filter lang p hne, h]

instance (lang : Option String) (p : OffersPage) : Decidable (p.SearchesOwnIndex lang) :=
  decidable_of_iff _ (searchesOwnIndex_iff lang p).symm

theorem searchesOwnIndex_arabic {lang : Option String} {p : OffersPage}
    (hname : p.args.nametype = "namearabic") (hsearch : p.args.searchtype = "searchIndexarabic") :
    p.SearchesOwnIndex lang ↔ lang = some "ar" := by
  rw [searchesOwnIndex_iff, hname, hsearch]
  split_ifs with h
  · exact iff_of_true (by decide) h
  · exact iff_of_false (by decide) h

theorem searchesOwnIndex_english {lang : Option String} {p : OffersPage}
    (hname : p.args.nametype = "name") (hsearch : p.args.searchtype = "searchIndex") :
    p.SearchesOwnIndex lang ↔ lang ≠ some "ar" := by
  rw [searchesOwnIndex_iff, hname, hsearch]
  split_ifs with h
  · exact iff_of_false (by decide) (not_not_intro h)
  · exact iff_of_true (by decide) h

end OffersPage

namespace App

/-- Every offers page on the stacks searches the index it was opened with. -/
def Searches (s : App) : Prop :=
  ∀ p, s.Shows (.offers p) → p.SearchesOwnIndex s.storage.lang

/-- The name that a tapped tile has captured. -/
def tapped (s : App) : Event → Option String
  | .tile _ i =>
    match s.top with
    | some ⟨id, .categories⟩ => (s.tiles id)[i]?
    | _ => none
  | _ => none

/-- What opens a page opens it in the stored language: a notification, if its
    page is pushed, in English, and a tile in the language of its name. -/
structure InLanguage (s : App) (e : Event) : Prop where
  message : ∀ m ∈ s.message e, ∀ page, NotificationServices.handleMessage m = some page →
    s.isCurrent page = false → s.storage.lang ≠ some "ar"
  arabic : ∀ gridname ∈ s.tapped e, gridname ∈ Categories.arabicNames → s.storage.lang = some "ar"
  english : ∀ gridname ∈ s.tapped e, gridname ∈ Categories.englishNames →
    s.storage.lang ≠ some "ar"

section

variable {lower : String → String} {s : App} {e : Event}

/-- A step that opens a page meets the condition exactly when the page
    searches its own index. -/
theorem inLanguage_of_opens {p : OffersPage} (hopens : Opens lower s e (.offers p)) :
    p.SearchesOwnIndex s.storage.lang ↔ s.InLanguage e := by
  cases hopens with
  | @message e m page hm hpage hcurrent =>
      -- The page of a notification is English, and no tile is tapped.
      have htapped : s.tapped e = none := by
        cases e with
        | tile area i => exact absurd hm (Option.not_mem_none m)
        | _ => rfl
      rcases NotificationServices.handleMessage_english hpage with ⟨hname, hsearch⟩
      rw [OffersPage.searchesOwnIndex_english hname hsearch]
      refine ⟨fun hlang => ⟨fun _ _ _ _ _ => hlang, fun g hg => ?_, fun g hg => ?_⟩,
        fun h => h.message m hm p hpage hcurrent⟩
      · exact absurd hg (htapped ▸ Option.not_mem_none g)
      · exact absurd hg (htapped ▸ Option.not_mem_none g)
  | @tile area i id gridname page htop hname hpage hcurrent =>
      -- The captured name decides the language, and it is in one list only.
      have htapped : s.tapped (.tile area i) = some gridname := by
        rw [tapped, htop]
        exact hname
      have hmessage : ∀ m, m ∉ s.message (.tile area i) := fun m => Option.not_mem_none m
      rcases Categories.myGrid_page hpage with ⟨hg, hnt, hst⟩ | ⟨hg, hnt, hst⟩
      · rw [OffersPage.searchesOwnIndex_arabic hnt hst]
        refine ⟨fun hlang => ⟨fun m hm => absurd hm (hmessage m), fun _ _ _ => hlang, ?_⟩,
          fun h => h.arabic gridname htapped hg⟩
        intro g hg' henglish
        rw [htapped, Option.mem_some] at hg'
        exact absurd (hg' ▸ henglish) (Categories.names_disjoint gridname hg)
      · rw [OffersPage.searchesOwnIndex_english hnt hst]
        refine ⟨fun hlang => ⟨fun m hm => absurd hm (hmessage m), ?_, fun _ _ _ => hlang⟩,
          fun h => h.english gridname htapped hg⟩
        intro g hg' harabic
        rw [htapped, Option.mem_some] at hg'
        exact absurd hg (Categories.names_disjoint gridname (hg' ▸ harabic))

/-- A step that opens no page meets the condition. -/
theorem inLanguage_of_silent (hsilent : ∀ p, ¬ Opens lower s e (.offers p)) :
    s.InLanguage e := by
  -- A tile whose name is in a list would have opened its page.
  have htile : ∀ g ∈ s.tapped e, g ∉ Categories.arabicNames ++ Categories.englishNames := by
    intro g hg hname
    cases e with
    | tile area i =>
        rw [tapped] at hg
        split at hg
        · rename_i id htop
          rcases Categories.myGrid_opens area g hname with ⟨page, hpage⟩
          exact hsilent page (.tile htop hg hpage (isCurrent_of_categories htop page))
        · exact Option.not_mem_none g hg
    | _ => exact Option.not_mem_none g hg
  refine ⟨fun m hm page hpage hcurrent => ?_, fun g hg h => ?_, fun g hg h => ?_⟩
  · exact absurd (.message hm hpage hcurrent) (hsilent page)
  · exact absurd (List.mem_append_left _ h) (htile g hg)
  · exact absurd (List.mem_append_right _ h) (htile g hg)

/-- The stored language changes only while nothing is on the stacks. -/
theorem lang_of_shows {x : Screen} (lower : String → String) (e : Event) (hx : s.Shows x) :
    (s.step lower e).storage.lang = s.storage.lang := by
  rcases (keeps_step lower s e).lang with h | ⟨htop, -⟩
  · exact h
  · have hnil : s.root ++ s.nested = [] := List.head?_eq_none_iff.mp htop
    rw [Shows, hnil] at hx
    exact absurd hx List.not_mem_nil

/-- What opens a page is no language button. -/
theorem lang_of_opens {p : OffersPage} (hopens : Opens lower s e (.offers p)) :
    (s.step lower e).storage.lang = s.storage.lang := by
  rcases (keeps_step lower s e).lang with h | ⟨-, l, rfl⟩
  · exact h
  · cases hopens with
    | message hm => exact absurd hm (Option.not_mem_none _)

end

/-- A step keeps `Searches` exactly when what it opens is in the stored
    language. -/
theorem searches_step (lower : String → String) (s : App) (e : Event) (h : s.Searches) :
    (s.step lower e).Searches ↔ s.InLanguage e := by
  constructor
  · -- The page that the step opens is on a stack afterwards.
    intro h'
    by_cases hopens : ∃ p, Opens lower s e (.offers p)
    · rcases hopens with ⟨p, hp⟩
      rw [← inLanguage_of_opens hp, ← lang_of_opens hp]
      exact h' p (shows_of_opens hp)
    · exact inLanguage_of_silent (not_exists.mp hopens)
  · -- A page that was there keeps its language, and so does the storage.
    intro hlang p hp
    rcases shows_step hp with hp | hp
    · rw [lang_of_shows lower e hp]
      exact h p hp
    · rw [lang_of_opens hp]
      exact (inLanguage_of_opens hp).mpr hlang

/-- In every run from the first launch on, every offers page on the stacks
    searches the index it was opened with, in every state, exactly when each
    page is opened in the stored language. -/
theorem searches_iff (lower : String → String) (es : List Event) :
    Run.Always (step lower) Searches start es ↔ Run.Along (step lower) InLanguage start es :=
  Run.always_iff_along (step lower) (fun _ => True) Searches InLanguage (fun _ _ _ _ _ => trivial)
    (fun s e _ => searches_step lower s e) es start trivial
    fun _ hp => absurd hp List.not_mem_nil

/-- The language button stores Arabic, and then a notification opens its page
    in English. -/
theorem notification_after_arabic :
    ¬ Run.Always (step String.toLower) Searches start
      [.language .arJO, .foreground ⟨"Hotels", "New offers", some "Hotels"⟩] := by
  intro h
  -- The state to look at is the last one.
  have hlast := (Run.always_iff_prefix _ _ _ _).mp h _ (List.prefix_refl _)
  exact absurd (hlast ⟨.offersList, ⟨"Hotels", "name", "searchIndex", "Hotels Offers"⟩⟩ (by decide))
    (by decide)

end App

end JkbEmpOffers
