import JkbEmpOffers.FirestoreCore.SyncEngine

/-!
# What a View Shows

A view is kept up to date one change at a time, and a limit throws documents
away that might be needed later. `view_result` says that this does not show:
after any sequence of events the view has the documents that the query
selects from everything the local store has been given, up to the limit and
in order, each with the value it has there.

What makes it true of a limit is `Beyond`: every document that matches and is
not shown is behind all that are, and there is no room for more. A pass that
asks for no refill keeps that, because nothing that is shown has moved behind
the last document or left, so whatever is new or was shown before still comes
before what was left out.

The one exception is a document whose change was committed while it is not
shown, or is still shown as it was: the view waits for the backend to send
it. The answer is exact once there are no such documents.

## Main definitions

* `Complete`: What matches is shown, or is beyond the limit.
* `PlainFor`, `PlainDocs`: No order leads through a pending time.

## Theorems

* `inside_edge`: What is shown stays inside the limit.
* `complete_first`, `complete_refilled`: A pass keeps `Complete`.
* `result_of_complete`: A complete view shows the answer.
* `answers_initializeView`, `answers_step`: A view is complete at its start and
  stays so.
* `view_result`: A view shows the answer.
-/

namespace JkbEmpOffers

namespace FirestoreCore

/-- The limit is one that the queries of the source can tell from none. -/
def Query.Limits (q : Query) : Prop :=
  q.limitType ≠ .none → q.limit ≠ kNoLimit

/-- No order of the query leads through a pending time. -/
def PlainFor (q : Query) (d : Document) : Prop :=
  ∀ o ∈ q.orderBys, d.value.Plain o.field

/-- The same for all documents. -/
def PlainDocs (q : Query) (documents : Documents) : Prop :=
  ∀ k d, documents.find k = some d → PlainFor q d

/-- What matches is shown, or is beyond the limit. -/
def Complete (q : Query) (documents : Documents) (s : DocumentSet q.comparator) : Prop :=
  ∀ k d, documents.find k = some d → q.matchesDoc d = true → d.hasCommittedMutations = false →
    s.getDocument k = none → Beyond q s d

section

variable {q : Query} {documents changes : Documents} {s mid : DocumentSet q.comparator}
  {d v e : Document} {p : Pass q}

/-- What stands for a document ties with it, unless a change of it is to come
    back from the backend. -/
theorem tie_of_equals (hkey : v.key = d.key) (hplain : PlainFor q d)
    (h : v.value.equals d.value = true) : q.comparator.compare v d = .eq :=
  Query.comparator_of_equals hkey (fun o ho => Value.plain_of_equals (hplain o ho) h) h

/-- What is shown for a document ties with it, so it stands in the same
    place. -/
theorem tie_of_shows (hshows : Shows v d) (hkey : v.key = d.key) (hplain : PlainFor q d)
    (hcommitted : d.hasCommittedMutations = false) : q.comparator.compare v d = .eq := by
  rcases hshows.value with rfl | hequals | hwait
  · exact SortedSet.cmp_self q.comparator.compare v
  · exact tie_of_equals hkey hplain hequals
  · rw [shouldWaitForSyncedDocument, hcommitted, Bool.and_false, Bool.false_and] at hwait
    exact absurd hwait Bool.false_ne_true

/-- A limit makes no difference between two that tie. -/
theorem inward_of_tie (h : q.comparator.compare v d = .eq) (w : Document) :
    q.inward w v = q.inward w d ∧ q.inward v w = q.inward d w := by
  have hinward : q.inward v d = .eq := by
    rw [Query.inward]
    split_ifs
    · exact h
    · exact SortedSet.eq_comm_of_eq.mp h
  exact ⟨Std.TransCmp.congr_right hinward, Std.TransCmp.congr_left hinward⟩

/-- What ties with a document beyond the limit is beyond it. -/
theorem Beyond.of_tie (h : Beyond q s v) (htie : q.comparator.compare v d = .eq) :
    Beyond q s d :=
  ⟨h.limit, h.full, fun w hw => (inward_of_tie htie w).1 ▸ h.behind w hw⟩

/-- Where a view is full, there is a document at its edge, and the pass knows
    it. -/
theorem edge_of_full (hlimits : q.Limits) (hlimit : q.limitType ≠ .none)
    (hfull : p.oldDocumentSet.size = q.limit) (hne : p.oldDocumentSet.toList ≠ []) :
    ∃ e ∈ p.oldDocumentSet.toList, (∀ v ∈ p.oldDocumentSet.toList, q.inward v e ≠ .gt) ∧
      (∀ doc, p.outsideLimit doc = (q.inward doc e == .gt)) ∧
      (p.lastDocInLimit.isSome || p.firstDocInLimit.isSome) = true := by
  have hno := hlimits hlimit
  have hgt : ∀ doc e,
      (q.comparator.compare doc e == .lt) = (q.comparator.compare e doc == .gt) := by
    intro doc e
    rw [@Std.OrientedCmp.eq_swap _ q.comparator.compare _ doc e]
    cases q.comparator.compare e doc <;> rfl
  -- The edge is at the end of the set, or at its start for a limit of last.
  rcases htype : q.limitType with _ | _ | _
  · exact absurd htype hlimit
  · have hfirst : q.hasLimitToFirst = true := by
      rw [Query.hasLimitToFirst, htype, decide_eq_true ⟨rfl, hno⟩]
    have hlast : q.hasLimitToLast = false := by
      rw [Query.hasLimitToLast, htype]
      exact decide_eq_false fun h => LimitType.noConfusion h.1
    have hedge : p.oldDocumentSet.getLastDocument = some (p.oldDocumentSet.toList.getLast hne) :=
      List.getLast?_eq_some_getLast hne
    have hp : p.lastDocInLimit = some (p.oldDocumentSet.toList.getLast hne) := by
      rw [Pass.lastDocInLimit, if_pos ⟨hfirst, hfull⟩, hedge]
    have hp' : p.firstDocInLimit = none := by
      rw [Pass.firstDocInLimit, hlast, if_neg fun h => Bool.false_ne_true h.1]
    refine ⟨_, List.getLast_mem hne, fun v hv => ?_, fun doc => ?_, by rw [hp]; rfl⟩
    · rw [Query.inward, hfirst, if_pos rfl]
      exact DocumentSet.compare_last hedge hv
    · rw [Pass.outsideLimit, hp, hp', Query.inward, hfirst, if_pos rfl]
      exact Bool.or_false _
  · have hfirst : q.hasLimitToFirst = false := by
      rw [Query.hasLimitToFirst, htype]
      exact decide_eq_false fun h => LimitType.noConfusion h.1
    have hlast : q.hasLimitToLast = true := by
      rw [Query.hasLimitToLast, htype, decide_eq_true ⟨rfl, hno⟩]
    have hedge : p.oldDocumentSet.getFirstDocument = some (p.oldDocumentSet.toList.head hne) :=
      List.head?_eq_some_head hne
    have hp : p.lastDocInLimit = none := by
      rw [Pass.lastDocInLimit, hfirst, if_neg fun h => Bool.false_ne_true h.1]
    have hp' : p.firstDocInLimit = some (p.oldDocumentSet.toList.head hne) := by
      rw [Pass.firstDocInLimit, if_pos ⟨hlast, hfull⟩, hedge]
    refine ⟨_, List.head_mem hne, fun v hv => ?_, fun doc => ?_, by rw [hp, hp']; rfl⟩
    · have hnot := DocumentSet.compare_first hedge hv
      rw [Query.inward, hfirst, if_neg Bool.false_ne_true]
      exact fun hgt' => hnot (Std.OrientedCmp.lt_of_gt hgt')
    · rw [Pass.outsideLimit, hp, hp', Query.inward, hfirst, if_neg Bool.false_ne_true]
      exact hgt doc _

/-- What was shown in a full view is still there after a pass that asks for
    no refill, and still inside the edge. -/
theorem inside_edge
    (hedge : (∀ v ∈ p.oldDocumentSet.toList, q.inward v e ≠ .gt) ∧
      (∀ doc, p.outsideLimit doc = (q.inward doc e == .gt)) ∧
      (p.lastDocInLimit.isSome || p.firstDocInLimit.isSome) = true)
    (hplain : PlainDocs q changes)
    (hrefills : ∀ k d, changes.find k = some d → p.refills d = false)
    {k : DocumentKey} (hv : p.oldDocumentSet.getDocument k = some v) :
    ∃ w, p.merged changes k = some w ∧ q.inward w e ≠ .gt := by
  have hmem := (DocumentSet.getDocument_eq_some.mp hv).1
  rw [Pass.merged]
  rcases hfind : changes.find k with _ | d
  · exact ⟨v, hv, hedge.1 v hmem⟩
  -- One that no longer matches would have asked for a refill.
  · obtain rfl := changes.key_of_find hfind
    have hrefill := hrefills d.key d hfind
    rw [Pass.refills, hv] at hrefill
    rcases hmatches : q.matchesDoc d with _ | _ <;> rw [hmatches] at hrefill
    · exact absurd (hedge.2.2.symm.trans hrefill) Bool.noConfusion
    · rcases Pass.next_of_matches (p := p) hmatches with ⟨w, hw⟩
      refine ⟨w, hw, ?_⟩
      rw [Pass.next, hv, hmatches] at hw
      simp only at hw hrefill
      split_ifs at hw with hequals hpending hwait <;> obtain rfl := Option.some.inj hw
      · -- The value is the same, so the place is the same.
        have hkey := (DocumentSet.getDocument_eq_some.mp hv).2
        rw [← (inward_of_tie (tie_of_equals hkey (hplain _ _ hfind) hequals) e).2]
        exact hedge.1 v hmem
      · exact hedge.1 _ hmem
      · exact hedge.1 _ hmem
      -- A new value that is outside the edge would have asked for one as well.
      · rw [Bool.eq_false_iff.mpr hequals, Bool.eq_false_iff.mpr hwait, hedge.2.1] at hrefill
        exact beq_eq_false_iff_ne.mp hrefill

/-- A document that was beyond the limit is so after a pass that asks for no
    refill. -/
theorem beyond_first (hlimits : q.Limits) (hplain : PlainDocs q changes)
    (hmid : ∀ k, mid.getDocument k = p.merged changes k) (hlimited : Limited q mid s)
    (hrefills : ∀ k d, changes.find k = some d → p.refills d = false)
    (h : Beyond q p.oldDocumentSet d) : Beyond q s d := by
  have hsize := hlimited.size h.limit
  rcases List.eq_nil_or_concat' p.oldDocumentSet.toList with hnil | ⟨front, last, hconcat⟩
  · -- There is no room for any document.
    have hzero : s.toList.length ≤ 0 := by
      have hlength := congrArg List.length hnil
      exact (hsize.trans_eq h.full.symm).trans_eq hlength
    have hempty : s.toList = [] := List.length_eq_zero_iff.mp (Nat.le_zero.mp hzero)
    have hfull : s.size = q.limit := by
      rw [← h.full]
      exact (congrArg List.length hempty).trans (congrArg List.length hnil).symm
    refine ⟨h.limit, hfull, fun v hv => ?_⟩
    rw [hempty] at hv
    exact absurd hv List.not_mem_nil
  · have hne : p.oldDocumentSet.toList ≠ [] := by
      rw [hconcat]
      exact List.concat_ne_nil last front
    rcases edge_of_full hlimits h.limit h.full hne with ⟨e, he, hedge⟩
    -- What was shown and is no longer comes after all that is shown.
    have hold : ∀ k v, p.oldDocumentSet.getDocument k = some v →
        (∃ w, s.getDocument k = some w ∧ q.inward w e ≠ .gt) ∨
          s.size = q.limit ∧ ∀ x ∈ s.toList, q.inward x e ≠ .gt := by
      intro k v hv
      rcases inside_edge hedge hplain hrefills hv with ⟨w, hw, hinside⟩
      rw [← hmid] at hw
      rcases hs : s.getDocument k with _ | w'
      · have hbeyond := hlimited.rest k w hw hs
        refine Or.inr ⟨hbeyond.full, fun x hx hgt => ?_⟩
        have hlt := hbeyond.behind x hx
        have hle : (q.inward w e).isLE = true := Ordering.isLE_iff_ne_gt.mpr hinside
        exact absurd (Std.TransCmp.lt_of_lt_of_isLE hlt hle) (by
          rw [hgt]
          exact Ordering.noConfusion)
      · have heq := hlimited.sub k w' hs
        rw [hw] at heq
        obtain rfl := Option.some.inj heq
        exact Or.inl ⟨w, rfl, hinside⟩
    have hall : s.size = q.limit ∧ ∀ x ∈ s.toList, q.inward x e ≠ .gt := by
      -- Otherwise all that was shown is shown still, which fills the limit.
      by_contra hnot
      have hkeys : ∀ k v, p.oldDocumentSet.getDocument k = some v →
          ∃ w, s.getDocument k = some w ∧ q.inward w e ≠ .gt :=
        fun k v hv => (hold k v hv).resolve_right hnot
      have hsome : ∀ k v, p.oldDocumentSet.getDocument k = some v →
          ∃ w, s.getDocument k = some w :=
        fun k v hv => (hkeys k v hv).imp fun w hw => hw.1
      have hfull : s.size = q.limit :=
        Nat.le_antisymm hsize (h.full.symm.trans_le (DocumentSet.size_le_of_keys hsome))
      refine hnot ⟨hfull, fun x hx hgt => ?_⟩
      -- One that is outside the edge would be one too many.
      have hx' := DocumentSet.getDocument_of_mem hx
      have hnew : p.oldDocumentSet.getDocument x.key = none := by
        rcases hv : p.oldDocumentSet.getDocument x.key with _ | v
        · rfl
        · rcases hkeys x.key v hv with ⟨w, hw, hinside⟩
          rw [hx'] at hw
          exact absurd (Option.some.inj hw ▸ hgt) hinside
      have hlt := DocumentSet.size_lt_of_keys hsome hnew hx'
      rw [h.full, hfull] at hlt
      exact Nat.lt_irrefl _ hlt
    refine ⟨h.limit, hall.1, fun x hx => ?_⟩
    have hle : (q.inward x e).isLE = true := Ordering.isLE_iff_ne_gt.mpr (hall.2 x hx)
    exact Std.TransCmp.lt_of_isLE_of_lt hle (h.behind e he)

/-- A pass that asks for no refill keeps what matches shown, or beyond the
    limit. -/
theorem complete_first (hlimits : q.Limits) (hplain : PlainDocs q (documents.union changes))
    (hmirrors : Mirrors q documents p.oldDocumentSet)
    (hmutated : Mutated p.oldDocumentSet p.oldMutatedKeys)
    (hcomplete : Complete q documents p.oldDocumentSet)
    (hmid : ∀ k, mid.getDocument k = p.merged changes k) (hlimited : Limited q mid s)
    (hrefills : ∀ k d, changes.find k = some d → p.refills d = false) :
    Complete q (documents.union changes) s := by
  intro k d hd hmatches hcommitted hnone
  have hplainD := hplain k d hd
  have hplain' : PlainDocs q changes := by
    intro k d hfind
    refine hplain k d ?_
    rw [Documents.find_union, hfind]
    rfl
  -- Whatever stands for the document in the middle is beyond the limit.
  have hrest : ∀ v, mid.getDocument k = some v → Shows v d → Beyond q s d := by
    intro v hv hshows
    have hkey := (DocumentSet.getDocument_eq_some.mp hv).2
    have hkey' := Documents.key_of_find hd
    exact (hlimited.rest k v hv hnone).of_tie
      (tie_of_shows hshows (hkey.trans hkey'.symm) hplainD hcommitted)
  rw [Documents.find_union] at hd
  -- The document has changed now, or was there and is shown, or is not.
  rcases hfind : changes.find k with _ | d' <;> rw [hfind] at hd
  · rw [Option.none_or] at hd
    rcases hv : p.oldDocumentSet.getDocument k with _ | v
    · exact beyond_first hlimits hplain' hmid hlimited hrefills
        (hcomplete k d hd hmatches hcommitted hv)
    · rcases hmirrors k v hv with ⟨d', hd', -, hshows⟩
      rw [hd] at hd'
      obtain rfl := Option.some.inj hd'
      refine hrest v ?_ hshows
      rw [hmid, Pass.merged, hfind]
      exact hv
  · obtain rfl := Option.some.inj hd
    rcases Pass.next_of_matches (p := p) hmatches with ⟨v, hv⟩
    refine hrest v ?_ (Pass.shows_next hmutated hv)
    rw [hmid, Pass.merged, hfind]
    exact hv

/-- After a refill everything that matches is shown, or beyond the limit. -/
theorem complete_refilled (hplain : PlainDocs q documents) (h : Refilled q documents s) :
    Complete q documents s := by
  intro k d hd hmatches hcommitted hnone
  rcases h.pass with ⟨p, mid, hmid, hlimited, hshows⟩
  have hkey := Documents.key_of_find hd
  subst hkey
  rcases Pass.next_of_matches (p := p) hmatches with ⟨v, hv⟩
  have hmiddle : mid.getDocument d.key = some v := by
    rw [hmid, Pass.merged, Documents.find_scan.mpr ⟨hd, hmatches⟩]
    exact hv
  exact (hlimited.rest _ v hmiddle hnone).of_tie (tie_of_shows (hshows d v hd hv)
    (DocumentSet.getDocument_eq_some.mp hmiddle).2 (hplain _ d hd) hcommitted)

/-- No change of a document that matches is to come back from the backend. -/
def Settled (q : Query) (documents : Documents) : Prop :=
  ∀ k d, documents.find k = some d → q.matchesDoc d = true → d.hasCommittedMutations = false

/-- What is shown for a document of the answer. -/
structure ShownFor (shown doc : Document) : Prop where
  key : shown.key = doc.key
  pending : shown.hasLocalMutations = doc.hasLocalMutations
  value : shown = doc ∨ shown.value.equals doc.value = true

/-- Without a committed change, what is shown has the value of the
    document. -/
theorem shownFor_of_shows (h : Shows v d) (hkey : v.key = d.key)
    (hcommitted : d.hasCommittedMutations = false) : ShownFor v d := by
  refine ⟨hkey, ?_, ?_⟩
  · rw [h.pending, hcommitted, Bool.and_false, Bool.or_false]
  · rcases h.value with heq | hequals | hwait
    · exact Or.inl heq
    · exact Or.inr hequals
    · rw [shouldWaitForSyncedDocument, hcommitted, Bool.and_false, Bool.false_and] at hwait
      exact absurd hwait Bool.false_ne_true

variable (hplain : PlainDocs q documents) (hmirrors : Mirrors q documents s)
  (hcomplete : Complete q documents s) (hsettled : Settled q documents)

include hplain hmirrors hsettled

/-- The documents that are shown, one by one. -/
theorem forall₂_shown : List.Forall₂ (fun v d => ShownFor v d ∧ d ∈ q.ordered documents) s.toList
    ((q.ordered documents).filter fun d => (s.getDocument d.key).isSome) := by
  have htie : ∀ v d, ShownFor v d ∧ d ∈ q.ordered documents →
      q.comparator.compare v d = .eq := by
    rintro v d ⟨hshown, hmem⟩
    rcases hshown.value with rfl | hequals
    · exact SortedSet.cmp_self q.comparator.compare v
    · exact tie_of_equals hshown.key (hplain _ d (Query.mem_ordered.mp hmem).1) hequals
  have hasymm : ∀ d e, q.comparator.compare d e = .lt → ¬ q.comparator.compare e d = .lt := by
    intro d e hlt
    rw [Std.OrientedCmp.gt_of_lt hlt]
    exact Ordering.noConfusion
  -- Two sorted lists whose elements correspond, correspond in order.
  refine Sorting.forall₂_of_pairwise hasymm hasymm (fun v d v' d' h h' => ?_)
    s.sortedSet.sorted ((q.sorted_ordered documents).filter _) (fun v hv => ?_) fun d hd => ?_
  · rw [Std.TransCmp.congr_left (htie v d h), Std.TransCmp.congr_right (htie v' d' h')]
  · have hv := DocumentSet.getDocument_of_mem hv
    rcases hmirrors _ v hv with ⟨d, hd, hmatches, hshows⟩
    have hkey := Documents.key_of_find hd
    rw [← hkey] at hd hv
    have hmem := Query.mem_ordered.mpr ⟨hd, hmatches⟩
    exact ⟨d, List.mem_filter.mpr ⟨hmem, Option.isSome_iff_exists.mpr ⟨v, hv⟩⟩,
      shownFor_of_shows hshows hkey.symm (hsettled _ d hd hmatches), hmem⟩
  · rcases List.mem_filter.mp hd with ⟨hmem, hsome⟩
    rcases Option.isSome_iff_exists.mp hsome with ⟨v, hv⟩
    rcases hmirrors _ v hv with ⟨d', hd', hmatches, hshows⟩
    rw [(Query.mem_ordered.mp hmem).1] at hd'
    obtain rfl := Option.some.inj hd'
    rcases DocumentSet.getDocument_eq_some.mp hv with ⟨hv, hkey⟩
    exact ⟨v, hv, shownFor_of_shows hshows hkey
      (hsettled _ d (Query.mem_ordered.mp hmem).1 hmatches), hmem⟩

include hcomplete

/-- They are the ones that the limit leaves. -/
theorem filter_shown (hsize : q.limitType ≠ .none → s.size ≤ q.limit) :
    ((q.ordered documents).filter fun d => (s.getDocument d.key).isSome) = q.result documents := by
  have hlength := (forall₂_shown hplain hmirrors hsettled).length_eq
  have hbeyond : ∀ d ∈ q.ordered documents, (s.getDocument d.key).isSome = false →
      Beyond q s d := by
    intro d hmem hnone
    rcases Query.mem_ordered.mp hmem with ⟨hd, hmatches⟩
    exact hcomplete _ d hd hmatches (hsettled _ d hd hmatches)
      (Option.isNone_iff_eq_none.mp (Option.isSome_eq_false_iff.mp hnone))
  -- A document that is shown comes before one that is not.
  have hbefore : ∀ d ∈ q.ordered documents, ∀ e ∈ q.ordered documents,
      (s.getDocument d.key).isSome = true → (s.getDocument e.key).isSome = false →
      q.inward d e = .lt := by
    intro d hd e he hshown hnot
    rcases Option.isSome_iff_exists.mp hshown with ⟨v, hv⟩
    rcases Query.mem_ordered.mp hd with ⟨hfind, hmatches⟩
    rcases hmirrors _ v hv with ⟨d', hd', -, hshows⟩
    rw [hfind] at hd'
    obtain rfl := Option.some.inj hd'
    rcases DocumentSet.getDocument_eq_some.mp hv with ⟨hmem, hkey⟩
    rw [← (inward_of_tie (tie_of_shows hshows hkey (hplain _ d hfind)
      (hsettled _ d hfind hmatches)) e).2]
    exact (hbeyond e he hnot).behind v hmem
  have hasymm : ∀ d e, q.comparator.compare d e = .lt → q.comparator.compare e d ≠ .lt := by
    intro d e hlt
    rw [Std.OrientedCmp.gt_of_lt hlt]
    exact Ordering.noConfusion
  rw [Query.result, Query.limited]
  by_cases hall : ∀ d ∈ q.ordered documents, (s.getDocument d.key).isSome = true
  -- All that match are shown, so the limit cuts nothing off.
  · rw [List.filter_eq_self.mpr hall] at hlength ⊢
    split_ifs with hnone hfirst
    · rfl
    · have hle := hlength.symm.trans_le (hsize hnone)
      exact (List.take_of_length_le hle).symm
    · have hle := hlength.symm.trans_le (hsize hnone)
      rw [Nat.sub_eq_zero_of_le hle, List.drop_zero]
  -- The limit is full, and what is shown is the first part, or the last.
  · push Not at hall
    rcases hall with ⟨d, hd, hnot⟩
    have hd := hbeyond d hd (Bool.eq_false_iff.mpr hnot)
    have hfull := hlength.symm.trans hd.full
    rw [if_neg hd.limit, ← hfull]
    split_ifs with hfirst
    · refine Sorting.filter_eq_take ((q.sorted_ordered documents).imp_of_mem ?_)
      intro a b ha hb hlt hshown
      by_contra hnone
      have hlt' := hbefore b hb a ha hshown (Bool.eq_false_iff.mpr hnone)
      rw [Query.inward, hfirst, if_pos rfl] at hlt'
      exact hasymm a b hlt hlt'
    · refine Sorting.filter_eq_drop ((q.sorted_ordered documents).imp_of_mem ?_)
      intro a b ha hb hlt hshown
      by_contra hnone
      have hlt' := hbefore a ha b hb hshown (Bool.eq_false_iff.mpr hnone)
      rw [Query.inward, if_neg hfirst] at hlt'
      exact hasymm a b hlt hlt'

/-- A complete view shows the answer. -/
theorem result_of_complete (hsize : q.limitType ≠ .none → s.size ≤ q.limit) :
    List.Forall₂ ShownFor s.toList (q.result documents) := by
  rw [← filter_shown hplain hmirrors hcomplete hsettled hsize]
  exact (forall₂_shown hplain hmirrors hsettled).imp fun v d h => h.1

end

/-! ## Runs -/

/-- What the local store has after an event. -/
def received (documents : Documents) : ViewEvent → Documents
  | .changes changes _ => documents.union changes
  | .onlineState _ => documents

/-- No order leads through a pending time in what an event brings. -/
def PlainEvent (q : Query) : ViewEvent → Prop
  | .changes changes _ => PlainDocs q changes
  | .onlineState _ => True

/-- Two sets of documents that lead through no pending time, in one. -/
theorem plain_union {q : Query} {documents changes : Documents} (h : PlainDocs q documents)
    (h' : PlainDocs q changes) : PlainDocs q (documents.union changes) := by
  intro k d hd
  rw [Documents.find_union, Option.or_eq_some_iff] at hd
  rcases hd with hd | ⟨-, hd⟩
  · exact h' k d hd
  · exact h k d hd

/-- Likewise the documents of a list. -/
theorem plain_ofList {q : Query} {docs : List Document} (h : ∀ d ∈ docs, PlainFor q d) :
    PlainDocs q (Documents.ofList docs) :=
  fun _ d hd => h d (Documents.mem_of_find_ofList hd)

/-- Fields that are read directly lead through the document alone. -/
theorem plain_of_segments {q : Query} {d : Document}
    (hfields : ∀ o ∈ q.orderBys, ∃ s, o.field = [s])
    (hd : d.value.typeOrder ≠ .serverTimestamp) : PlainFor q d := by
  intro o ho
  rcases hfields o ho with ⟨s, hs⟩
  rw [hs]
  exact ⟨hd, fun _ _ => trivial⟩

/-- A document of one text is no pending time. -/
theorem ofText_not_pending {path : ResourcePath} {valid : path.length % 2 = 0} {text : String} :
    (Document.ofText path valid text).value.typeOrder ≠ .serverTimestamp := by
  have htype : (Document.ofText path valid text).value.typeOrder = .map := rfl
  rw [htype]
  exact TypeOrder.noConfusion

namespace QueryView

variable {q : Query} {qv : QueryView q}

/-- What is known of a view, with what a limit leaves out. -/
structure Answers (qv : QueryView q) : Prop where
  invariant : Invariant qv
  plain : PlainDocs q qv.documents
  shownPlain : ∀ k v, qv.view.documentSet.getDocument k = some v → PlainFor q v
  complete : Complete q qv.documents qv.view.documentSet
  size : q.limitType ≠ .none → qv.view.documentSet.size ≤ q.limit

/-- A refilled set has no more documents than the limit allows. -/
theorem size_of_refilled {documents : Documents} {s : DocumentSet q.comparator}
    (h : Refilled q documents s) : q.limitType ≠ .none → s.size ≤ q.limit := by
  rcases h.pass with ⟨_, _, _, hlimited, _⟩
  exact hlimited.size

/-- One event. -/
theorem answers_step (hlimits : q.Limits) (h : Answers qv) {event : ViewEvent}
    (hevent : Admissible qv event ∧ PlainEvent q event) :
    ∃ qv' change, qv.step event = some (qv', change) ∧ Answers qv' ∧
      qv'.documents = received qv.documents event ∧ Reports qv.view change qv'.view := by
  cases event with
  | changes changes targetChange =>
      rcases emit_spec h.invariant changes hevent.1 with
        ⟨qv', change, hemit, hdocuments, hinv, hreports, horigin, hcomputed⟩
      have hplain := plain_union h.plain hevent.2
      refine ⟨qv', change, hemit, ⟨hinv, hdocuments ▸ hplain, fun k v hv => ?_, ?_, ?_⟩,
        hdocuments, hreports⟩
      · rcases horigin k v hv with hfind | hold
        · exact hplain k v hfind
        · exact h.shownPlain k v hold
      · rw [hdocuments]
        -- By where the documents come from: the first pass, or a refill.
        cases hcomputed with
        | first mid hmid hlimited hrefills =>
            exact complete_first hlimits hplain h.invariant.mirrors h.invariant.mutated
              h.complete hmid hlimited hrefills
        | refilled hrefilled => exact complete_refilled hplain hrefilled
      · cases hcomputed with
        | first mid hmid hlimited hrefills => exact hlimited.size
        | refilled hrefilled => exact size_of_refilled hrefilled
  | onlineState onlineState =>
      rcases onlineState_spec h.invariant onlineState with
        ⟨qv', change, hstep, hdocuments, hset, hinv, hreports⟩
      refine ⟨qv', change, hstep, ⟨hinv, ?_, ?_, ?_, ?_⟩, hdocuments, hreports⟩
      · rw [hdocuments]
        exact h.plain
      · rw [hset]
        exact h.shownPlain
      · rw [hdocuments, hset]
        exact h.complete
      · rw [hset]
        exact h.size

/-- A view answers its query from the first report on. -/
theorem answers_initializeView {documents : Documents} (hplain : PlainDocs q documents)
    (remoteKeys : DocumentKeySet) (current : Bool) (resumeToken : List UInt8) :
    ∃ qv change, initializeView q documents remoteKeys current resumeToken = some (qv, change) ∧
      Answers qv ∧ qv.documents = documents ∧
      Reports (start q documents remoteKeys).view change qv.view ∧
      change.snapshot.isSome = true := by
  rcases initializeView_spec (q := q) documents remoteKeys current resumeToken with
    ⟨qv, change, hinit, hdocuments, hinv, hreports, hsome, horigin, hrefilled⟩
  refine ⟨qv, change, hinit, ⟨hinv, ?_, fun k v hv => hplain k v (horigin k v hv), ?_,
    size_of_refilled hrefilled⟩, hdocuments, hreports, hsome⟩
  · rw [hdocuments]
    exact hplain
  · rw [hdocuments]
    exact complete_refilled hplain hrefilled

end QueryView

open QueryView in
/-- After any sequence of events a view shows the answer to its query: of all
    documents that the local store has been given those that match, in order
    and as far as the limit allows, unless a change of one that matches has
    been committed and is yet to come back from the backend. The backend
    modifies only what it has added, and no order of the query leads through a
    pending time, since such a time moves when it is filled in. -/
theorem view_result (q : Query) (hlimits : q.Limits) (documents : Documents)
    (remoteKeys : DocumentKeySet) (current : Bool) (resumeToken : List UInt8)
    (events : List ViewEvent)
    (hpromised : Promised q documents remoteKeys current resumeToken events)
    (hplain : PlainDocs q documents) (hevents : ∀ event ∈ events, PlainEvent q event)
    (hsettled : Settled q (events.foldl received documents)) :
    ∃ qv changes, runFrom q documents remoteKeys current resumeToken events = some (qv, changes) ∧
      List.Forall₂ ShownFor qv.view.documentSet.toList
        (q.result (events.foldl received documents)) := by
  rcases answers_initializeView hplain remoteKeys current resumeToken with
    ⟨qv₀, change, hinit, hstart, hdocuments, -, -⟩
  have hmeets := Trace.meets_and (hpromised qv₀ change hinit) hevents
  -- The documents are followed along the run, event by event.
  have hstep : ∀ (documents : Documents) (qv : QueryView q) (event : ViewEvent),
      (Answers qv ∧ qv.documents = documents) → (Admissible qv event ∧ PlainEvent q event) →
      ∃ qv' change, step qv event = some (qv', change) ∧
        (Answers qv' ∧ qv'.documents = received documents event) ∧ True := by
    rintro _ qv event ⟨h, rfl⟩ hevent
    rcases answers_step hlimits h hevent with ⟨qv', change, hstep, hanswers, hdocs, -⟩
    exact ⟨qv', change, hstep, ⟨hanswers, hdocs⟩, trivial⟩
  rcases Trace.run_of_foldl received hstep ⟨hstart, hdocuments⟩ hmeets with
    ⟨qv, changes, hrun, ⟨hend, hdocs⟩, -⟩
  refine ⟨qv, change :: changes, ?_, ?_⟩
  · rw [runFrom, hinit, Option.bind_some]
    exact congrArg (Option.map fun rest => (rest.1, change :: rest.2)) hrun
  · rw [← hdocs] at hsettled ⊢
    exact result_of_complete hend.plain hend.invariant.mirrors hend.complete hsettled hend.size

open QueryView in
/-- The client goes offline, and when it is back, the backend adds a hotel to
    the end of the list and then renames it. -/
theorem view_result_hotels :
    let q : Query := { path := ["hotels"], limit := 1, limitType := .last }
    let documents := Documents.ofList [Document.ofText ["hotels", "1"] rfl "Amman",
      Document.ofText ["hotels", "2"] rfl "Petra"]
    let added := Document.ofText ["hotels", "3"] rfl "Aqaba"
    let renamed := Document.ofText ["hotels", "3"] rfl "Karak"
    let events := [.onlineState .offline,
      .changes (Documents.ofList [added]) (some ⟨[1], true, [added.key], [], []⟩),
      .changes (Documents.ofList [renamed]) (some ⟨[2], true, [], [renamed.key], []⟩)]
    ∃ qv changes, runFrom q documents SortedSet.empty true [] events = some (qv, changes) ∧
      List.Forall₂ ShownFor qv.view.documentSet.toList
        (q.result (events.foldl received documents)) := by
  intro q documents added renamed events
  have hfields : ∀ o ∈ q.orderBys, ∃ s, o.field = [s] := by
    intro o ho
    rw [List.mem_singleton.mp ho]
    exact ⟨_, rfl⟩
  have hplain : ∀ path valid text, PlainFor q (Document.ofText path valid text) :=
    fun path valid text => plain_of_segments hfields ofText_not_pending
  refine view_result q (fun _ => by decide) documents SortedSet.empty true [] events
    (fun qv change _ => ?_) (plain_ofList ?_) ?_ ?_
  · refine ⟨trivial, fun _ _ => ⟨View.known_added _, fun r hr => ⟨?_, fun _ _ => trivial⟩⟩⟩
    -- The one hotel that is modified is the one that has been added.
    rintro _ ⟨⟩ k hk
    exact Or.inr (mem_syncedDocuments hr rfl hk)
  · simp only [List.forall_mem_cons, hplain, List.not_mem_nil, IsEmpty.forall_iff, implies_true,
      and_self]
  · have hchanges : ∀ path valid text,
        PlainDocs q (Documents.ofList [Document.ofText path valid text]) :=
      fun path valid text => plain_ofList (List.forall_mem_singleton.mpr (hplain path valid text))
    exact List.forall_mem_cons.mpr ⟨trivial, List.forall_mem_cons.mpr ⟨hchanges _ rfl _,
      List.forall_mem_singleton.mpr (hchanges _ rfl _)⟩⟩
  · intro k d hd _
    simp only [events, List.foldl_cons, List.foldl_nil, received] at hd
    rw [Documents.find_union, Documents.find_union, Option.or_eq_some_iff,
      Option.or_eq_some_iff] at hd
    -- All of them come from the backend.
    rcases hd with hd | ⟨-, hd | ⟨-, hd⟩⟩
    · rw [List.mem_singleton.mp (Documents.mem_of_find_ofList hd)]
      rfl
    · rw [List.mem_singleton.mp (Documents.mem_of_find_ofList hd)]
      rfl
    · rcases List.mem_cons.mp (Documents.mem_of_find_ofList hd) with rfl | hd
      · rfl
      · rw [List.mem_singleton.mp hd]
        rfl

end FirestoreCore

end JkbEmpOffers
