import JkbEmpOffers.FirestoreCore.LocalStore
import JkbEmpOffers.FirestoreCore.View

/-!
# One Pass over Changed Documents

What the loop of `ComputeDocumentChanges` does is best said for one key at a
time. `Pass.next` is the document that is shown under a key after the loop,
if a document with that key has changed. Nothing of it depends on the other
keys, so the loop may take the documents in any order: `loop_spec` is one
statement about all of them.

Three things hold before and after: the change set describes the way from
the documents that were shown at first, the mutated keys are those of the
shown documents with local mutations, and no merge aborts. Dropping the
documents that a limit leaves no room for keeps them too.

## Main definitions

* `Tracked`: The three things.
* `Pass.next`, `Pass.refills`: What one changed document leads to.

## Theorems

* `tracked_insert`, `tracked_erase`: A change that fits keeps the three things.
* `change_spec`: The body of the loop.
* `loop_spec`: The loop.
* `dropOut_spec`: Dropping documents from one end.
-/

namespace JkbEmpOffers

namespace FirestoreCore

/-- The keys are those of the documents with local mutations. -/
def Mutated {c : DocumentComparator} (s : DocumentSet c) (keys : DocumentKeySet) : Prop :=
  ∀ k, k ∈ keys ↔ ∃ d, s.getDocument k = some d ∧ d.hasLocalMutations = true

/-- The change set describes the way from a set of documents, and the mutated
    keys are those that they should be. -/
structure Tracked {q : Query} (base : DocumentSet q.comparator) (acc : ViewDocumentChanges q) :
    Prop where
  diff : Diff base acc.documentSet acc.changeSet
  mutated : Mutated acc.documentSet acc.mutatedKeys

/-- A document is behind all that are shown, and no more can be shown. -/
structure Beyond (q : Query) (s : DocumentSet q.comparator) (d : Document) : Prop where
  limit : q.limitType ≠ .none
  full : s.size = q.limit
  behind : ∀ v ∈ s.toList, q.inward v d = .lt

/-- A limit leaves some of the documents, and those behind them out. -/
structure Limited (q : Query) (mid s : DocumentSet q.comparator) : Prop where
  sub : ∀ k d, s.getDocument k = some d → mid.getDocument k = some d
  rest : ∀ k d, mid.getDocument k = some d → s.getDocument k = none → Beyond q s d
  size : q.limitType ≠ .none → s.size ≤ q.limit

namespace Pass

variable {q : Query} {p : Pass q} {base : DocumentSet q.comparator} {acc : ViewDocumentChanges q}

/-- The document that is shown under a key after the loop, for a changed
    document with the key. -/
def next (p : Pass q) (doc : Document) : Option Document :=
  match p.oldDocumentSet.getDocument doc.key, q.matchesDoc doc with
  | some oldDoc, true =>
    if oldDoc.value.equals doc.value then
      if p.oldDocHadPendingMutations doc.key ≠ p.newDocHasPendingMutations doc.key doc then some doc
      else some oldDoc
    else if shouldWaitForSyncedDocument doc oldDoc then some oldDoc
    else some doc
  | none, true => some doc
  | _, false => none

/-- Whether a changed document makes a refill necessary. -/
def refills (p : Pass q) (doc : Document) : Bool :=
  match p.oldDocumentSet.getDocument doc.key, q.matchesDoc doc with
  | some oldDoc, true =>
    !oldDoc.value.equals doc.value && !shouldWaitForSyncedDocument doc oldDoc &&
      p.outsideLimit doc
  | some _, false => p.lastDocInLimit.isSome || p.firstDocInLimit.isSome
  | none, _ => false

/-- What a pass does to the documents under the keys. -/
def Sets (acc acc' : ViewDocumentChanges q) (key : DocumentKey) (doc : Option Document) : Prop :=
  ∀ k, acc'.documentSet.getDocument k
    = if k = key then doc else acc.documentSet.getDocument k

/-- A change that puts a document in its place. -/
theorem tracked_insert {doc : Document} {type : ChangeType} (refill : Bool)
    (h : Tracked base acc)
    (hchange : Describes doc.key (acc.documentSet.getDocument doc.key) (some doc)
      (some ⟨doc, type⟩)) :
    ∃ acc', applied acc doc.key (some doc) ⟨doc, type⟩ refill = some acc' ∧
      Tracked base acc' ∧ acc'.needsRefill = (acc.needsRefill || refill) ∧
      Sets acc acc' doc.key (some doc) := by
  rcases addChange_diff h.diff (step_insert acc.documentSet hchange) with ⟨changes, hadd, hdiff⟩
  refine ⟨_, by rw [applied, hadd]; rfl, ⟨hdiff, fun k => ?_⟩, rfl,
    fun k => DocumentSet.getDocument_insert acc.documentSet doc k⟩
  have hmutated := h.mutated k
  simp only [DocumentSet.getDocument_insert]
  -- The key of the document is put in or taken out, and the others stay.
  by_cases hk : k = doc.key
  · simp only [hk, if_true, Option.some.injEq, exists_eq_left']
    split_ifs with hlocal
    · exact iff_of_true (SortedSet.mem_insert_iff.mpr (Or.inl rfl)) hlocal
    · exact iff_of_false (fun hmem => (SortedSet.mem_erase_iff.mp hmem).2 rfl) hlocal
  · simp only [hk, if_false, ← hmutated]
    split_ifs
    · exact SortedSet.mem_insert_iff.trans (or_iff_right hk)
    · exact SortedSet.mem_erase_iff.trans (and_iff_left hk)

/-- A change that takes a document away. -/
theorem tracked_erase {doc : Document} (refill : Bool) (h : Tracked base acc)
    (hdoc : acc.documentSet.getDocument doc.key = some doc) :
    ∃ acc', applied acc doc.key none ⟨doc, .removed⟩ refill = some acc' ∧
      Tracked base acc' ∧ acc'.needsRefill = (acc.needsRefill || refill) ∧
      Sets acc acc' doc.key none ∧ acc'.documentSet = acc.documentSet.erase doc.key := by
  rcases addChange_diff h.diff (step_erase hdoc) with ⟨changes, hadd, hdiff⟩
  refine ⟨_, by rw [applied, hadd]; rfl, ⟨hdiff, fun k => ?_⟩, rfl,
    fun k => DocumentSet.getDocument_erase acc.documentSet doc.key k, rfl⟩
  have hmutated := h.mutated k
  simp only [DocumentSet.getDocument_erase, SortedSet.mem_erase_iff, hmutated]
  by_cases hk : k = doc.key
  · simp only [hk, if_true, ne_eq, not_true_eq_false, and_false, reduceCtorEq, false_and,
      exists_false]
  · simp only [hk, if_false, ne_eq, not_false_eq_true, and_true]

/-- The body of the loop, for a document whose key has not been seen. -/
theorem change_spec {doc : Document} (h : Tracked base acc)
    (hold : acc.documentSet.getDocument doc.key = p.oldDocumentSet.getDocument doc.key) :
    ∃ acc', p.change acc (doc.key, doc) = some acc' ∧ Tracked base acc' ∧
      acc'.needsRefill = (acc.needsRefill || p.refills doc) ∧
      Sets acc acc' doc.key (p.next doc) := by
  -- Where nothing changes, the document that is there is also the next.
  have hstay : ∀ o, acc.documentSet.getDocument doc.key = o → Sets acc acc doc.key o := by
    intro o ho k
    split_ifs with hk
    · rw [hk, ho]
    · rfl
  rw [change, next, refills]
  simp only
  rcases holdDoc : p.oldDocumentSet.getDocument doc.key with _ | oldDoc <;>
    rw [holdDoc] at hold <;> rcases hmatches : q.matchesDoc doc with _ | _ <;> simp only
  -- It is none of this view, enters it, leaves it, or is in it as before.
  · refine ⟨acc, rfl, h, (Bool.or_false _).symm, hstay none hold⟩
  · exact tracked_insert false h (hold ▸ .added doc rfl)
  · have hkey := (DocumentSet.getDocument_eq_some.mp hold).2
    have herase := tracked_erase (p.lastDocInLimit.isSome || p.firstDocInLimit.isSome) h
      (hkey ▸ hold)
    rw [hkey] at herase
    rcases herase with ⟨acc', happlied, htracked, hrefill, hsets, -⟩
    exact ⟨acc', happlied, htracked, hrefill, hsets⟩
  · have hchange : ∀ type, Describes doc.key (some oldDoc) (some doc) (some ⟨doc, type⟩) →
        Describes doc.key (acc.documentSet.getDocument doc.key) (some doc) (some ⟨doc, type⟩) :=
      fun type hdescribes => by rwa [hold]
    rcases hequals : oldDoc.value.equals doc.value with _ | _
    -- With another value it is modified, unless the view waits for the backend.
    · rcases hwait : shouldWaitForSyncedDocument doc oldDoc with _ | _
      · exact tracked_insert (p.outsideLimit doc) h (hchange _ (.modified oldDoc doc rfl))
      · exact ⟨acc, rfl, h, (Bool.or_false _).symm, hstay _ hold⟩
    -- With the same value only its metadata can have changed.
    · simp only [if_true]
      split_ifs with hpending
      · exact tracked_insert false h (hchange _ (.metadata oldDoc doc rfl hequals))
      · exact ⟨acc, rfl, h, (Bool.or_false _).symm, hstay _ hold⟩

/-- The loop: under the keys of the changed documents there is what `next`
    says, and nothing has happened to the others. -/
theorem loop_spec {entries : List (DocumentKey × Document)} (h : Tracked base acc)
    (hkeyed : ∀ e ∈ entries, e.2.key = e.1) (hnodup : (entries.map Prod.fst).Nodup)
    (hold : ∀ e ∈ entries,
      acc.documentSet.getDocument e.1 = p.oldDocumentSet.getDocument e.1) :
    ∃ acc', entries.foldlM p.change acc = some acc' ∧ Tracked base acc' ∧
      acc'.needsRefill = (acc.needsRefill || entries.any fun e => p.refills e.2) ∧
      (∀ e ∈ entries, acc'.documentSet.getDocument e.1 = p.next e.2) ∧
      ∀ k, k ∉ entries.map Prod.fst →
        acc'.documentSet.getDocument k = acc.documentSet.getDocument k := by
  -- By induction on the entries. Each has a key of its own, so what is known of
  -- the documents before the loop is still so when its turn comes.
  induction entries generalizing acc with
  | nil => exact ⟨acc, rfl, h, (Bool.or_false _).symm, fun e he => absurd he List.not_mem_nil,
      fun k _ => rfl⟩
  | cons e entries ih =>
      rcases e with ⟨key, doc⟩
      have hkey : doc.key = key := hkeyed _ List.mem_cons_self
      subst hkey
      rw [List.map_cons, List.nodup_cons] at hnodup
      rcases hnodup with ⟨hnotin, hnodup⟩
      rcases change_spec h (hold _ List.mem_cons_self) with
        ⟨acc', hchange, htracked, hrefill, hsets⟩
      -- The other entries are still as they were.
      have hold' : ∀ e ∈ entries,
          acc'.documentSet.getDocument e.1 = p.oldDocumentSet.getDocument e.1 := by
        intro e he
        have hmem : e.1 ∈ entries.map Prod.fst := List.mem_map_of_mem he
        have hne : e.1 ≠ doc.key := fun heq => hnotin (heq ▸ hmem)
        rw [hsets, if_neg hne, hold e (List.mem_cons_of_mem _ he)]
      rcases ih htracked (fun e he => hkeyed e (List.mem_cons_of_mem _ he)) hnodup hold' with
        ⟨acc'', hfold, htracked', hrefill', hin, hout⟩
      refine ⟨acc'', ?_, htracked', ?_, fun e he => ?_, fun k hk => ?_⟩
      · rw [List.foldlM_cons, hchange]
        exact hfold
      · rw [hrefill', hrefill, List.any_cons, Bool.or_assoc]
      · rcases List.mem_cons.mp he with rfl | he
        · rw [hout _ hnotin, hsets, if_pos rfl]
        · exact hin e he
      · rw [List.map_cons, List.mem_cons, not_or] at hk
        rw [hout k hk.2, hsets, if_neg hk.1]

/-- Dropping documents leaves those at the other end. -/
theorem dropOut_spec (i : Nat) (h : Tracked base acc) (hi : i ≤ acc.documentSet.size) :
    ∃ acc', dropOut q i acc = some acc' ∧ Tracked base acc' ∧
      acc'.needsRefill = acc.needsRefill ∧
      acc'.documentSet.toList = if q.hasLimitToFirst
        then acc.documentSet.toList.take (acc.documentSet.size - i)
        else acc.documentSet.toList.drop i := by
  induction i generalizing acc with
  | zero =>
      refine ⟨acc, rfl, h, rfl, ?_⟩
      rw [Nat.sub_zero, List.drop_zero]
      split_ifs
      · exact (List.take_length (l := acc.documentSet.toList)).symm
      · rfl
  | succ i ih =>
      have hlength : acc.documentSet.toList.length = acc.documentSet.size := rfl
      -- One document is dropped, and the rest by the induction hypothesis.
      have hstep : ∀ doc, doc ∈ acc.documentSet.toList → ∃ acc₁ acc',
          applied acc doc.key none ⟨doc, .removed⟩ false = some acc₁ ∧
          acc₁.documentSet.toList = (acc.documentSet.erase doc.key).toList ∧
          acc₁.documentSet.size = acc.documentSet.size - 1 ∧
          dropOut q i acc₁ = some acc' ∧ Tracked base acc' ∧
          acc'.needsRefill = acc.needsRefill ∧
          acc'.documentSet.toList = if q.hasLimitToFirst
            then acc₁.documentSet.toList.take (acc₁.documentSet.size - i)
            else acc₁.documentSet.toList.drop i := by
        intro doc hmem
        have hdoc := DocumentSet.getDocument_of_mem hmem
        rcases tracked_erase false h hdoc with ⟨acc₁, happlied, htracked, hrefill, -, hset⟩
        have hsize := DocumentSet.size_erase hdoc
        rw [← hset] at hsize
        rcases ih htracked (by omega) with ⟨acc', hdrop, htracked', hrefill', hlist⟩
        exact ⟨acc₁, acc', happlied, congrArg DocumentSet.toList hset, by omega, hdrop, htracked',
          hrefill'.trans (hrefill.trans (Bool.or_false _)), hlist⟩
      rw [dropOut]
      -- From the start for a limit of last, and else from the end.
      rcases hfirst : q.hasLimitToFirst with _ | _
      · rcases hhead : acc.documentSet.getFirstDocument with _ | doc
        · have hnil : acc.documentSet.toList = [] := List.head?_eq_none_iff.mp hhead
          rw [hnil, List.length_nil] at hlength
          omega
        · rcases hstep doc (List.mem_of_mem_head? hhead) with
            ⟨acc₁, acc', happlied, hset, hsize, hdrop, htracked, hrefill, hlist⟩
          refine ⟨acc', ?_, htracked, hrefill, ?_⟩
          · simp only [Bool.false_eq_true, if_false, happlied, Option.bind_some, hdrop]
          · rw [hlist, hfirst, if_neg Bool.false_ne_true, if_neg Bool.false_ne_true, hset,
              DocumentSet.toList_erase_first hhead, List.drop_tail]
      · rcases hlast : acc.documentSet.getLastDocument with _ | doc
        · have hnil : acc.documentSet.toList = [] := List.getLast?_eq_none_iff.mp hlast
          rw [hnil, List.length_nil] at hlength
          omega
        · rcases hstep doc (List.mem_of_getLast? hlast) with
            ⟨acc₁, acc', happlied, hset, hsize, hdrop, htracked, hrefill, hlist⟩
          refine ⟨acc', ?_, htracked, hrefill, ?_⟩
          · simp only [if_true, happlied, Option.bind_some, hdrop]
          · rw [hlist, hfirst, if_pos rfl, if_pos rfl, hset, DocumentSet.toList_erase_last hlast,
              List.dropLast_eq_take, List.take_take, hsize, hlength]
            congr 1
            omega

/-- Documents that a limit drops are behind all that it keeps. -/
theorem dropOut_limited {s mid : DocumentSet q.comparator} {i : Nat}
    (hs : s.toList = if q.hasLimitToFirst then mid.toList.take (mid.size - i)
      else mid.toList.drop i) {d : Document} (hd : d ∈ mid.toList) (hnot : d ∉ s.toList) :
    ∀ v ∈ s.toList, q.inward v d = .lt := by
  intro v hv
  have hsorted := mid.sortedSet.sorted
  rcases hfirst : q.hasLimitToFirst with _ | _ <;> rw [hfirst] at hs
  · rw [if_neg Bool.false_ne_true] at hs
    rw [hs] at hv hnot
    have hsplit : mid.toList = mid.toList.take i ++ mid.toList.drop i :=
      (List.take_append_drop i _).symm
    have hbefore : d ∈ mid.toList.take i := by
      rw [hsplit, List.mem_append] at hd
      exact hd.resolve_right hnot
    rw [Query.inward, hfirst, if_neg Bool.false_ne_true]
    rw [show mid.sortedSet.elements = _ from hsplit, List.pairwise_append] at hsorted
    exact hsorted.2.2 d hbefore v hv
  · rw [if_pos rfl] at hs
    rw [hs] at hv hnot
    have hsplit : mid.toList = mid.toList.take (mid.size - i) ++ mid.toList.drop (mid.size - i) :=
      (List.take_append_drop _ _).symm
    have hbehind : d ∈ mid.toList.drop (mid.size - i) := by
      rw [hsplit, List.mem_append] at hd
      exact hd.resolve_left hnot
    rw [Query.inward, hfirst, if_pos rfl]
    rw [show mid.sortedSet.elements = _ from hsplit, List.pairwise_append] at hsorted
    exact hsorted.2.2 v hv d hbehind

/-- The limit keeps the documents that are most inward. -/
theorem limit_spec (h : Tracked base acc) :
    ∃ acc', limit acc = some acc' ∧ Tracked base acc' ∧ acc'.needsRefill = acc.needsRefill ∧
      Limited q acc.documentSet acc'.documentSet := by
  rw [limit]
  split_ifs with hnone
  -- Without a limit nothing is dropped.
  · refine ⟨acc, rfl, h, rfl, fun _ _ hd => hd, fun k d hd hnot => ?_, fun hne => absurd hnone hne⟩
    rw [hd] at hnot
    exact absurd hnot (Option.some_ne_none d)
  · have hle : acc.documentSet.size - q.limit ≤ acc.documentSet.size := Nat.sub_le _ _
    rcases dropOut_spec _ h hle with ⟨acc', hdrop, htracked, hrefill, hlist⟩
    have hsize : acc'.documentSet.size
        = acc.documentSet.size - (acc.documentSet.size - q.limit) := by
      have hlength := congrArg List.length hlist
      rw [apply_ite List.length, List.length_take, List.length_drop] at hlength
      have hacc : acc.documentSet.toList.length = acc.documentSet.size := rfl
      have hacc' : acc'.documentSet.toList.length = acc'.documentSet.size := rfl
      split_ifs at hlength <;> omega
    refine ⟨acc', hdrop, htracked, hrefill, fun k d hd => ?_, fun k d hd hnot => ?_, fun _ => ?_⟩
    · rcases DocumentSet.getDocument_eq_some.mp hd with ⟨hmem, hkey⟩
      refine DocumentSet.getDocument_eq_some.mpr ⟨?_, hkey⟩
      rw [hlist] at hmem
      split_ifs at hmem
      · exact List.mem_of_mem_take hmem
      · exact List.mem_of_mem_drop hmem
    · rcases DocumentSet.getDocument_eq_some.mp hd with ⟨hmem, hkey⟩
      have hnotin : d ∉ acc'.documentSet.toList := by
        intro hin
        rw [DocumentSet.getDocument_eq_some.mpr ⟨hin, hkey⟩] at hnot
        exact absurd hnot (Option.some_ne_none d)
      refine ⟨hnone, ?_, dropOut_limited hlist hmem hnotin⟩
      -- Something was dropped, so the limit is met.
      rcases Nat.lt_or_ge q.limit acc.documentSet.size with hlt | hge
      · omega
      · have hzero : acc.documentSet.size - q.limit = 0 := Nat.sub_eq_zero_of_le hge
        have hsame : acc'.documentSet.toList = acc.documentSet.toList := by
          rw [hlist, hzero, List.drop_zero, Nat.sub_zero]
          split_ifs
          · exact List.take_length
          · rfl
        exact absurd (hsame ▸ hmem) hnotin
    · omega

/-- What is under a key after the loop. -/
def merged (p : Pass q) (changes : Documents) (key : DocumentKey) : Option Document :=
  match changes.find key with
  | some doc => p.next doc
  | none => p.oldDocumentSet.getDocument key

/-- The loop and the limit. -/
theorem pass_spec (h : Tracked base acc) (hacc : acc.documentSet = p.oldDocumentSet)
    (changes : Documents) :
    ∃ mid acc', (changes.map.elements.foldlM p.change acc).bind limit = some acc' ∧
      Tracked base acc' ∧
      acc'.needsRefill = (acc.needsRefill || changes.map.elements.any fun e => p.refills e.2) ∧
      (∀ k, DocumentSet.getDocument mid k = p.merged changes k) ∧
      Limited q mid acc'.documentSet := by
  have hnodup : (changes.map.elements.map Prod.fst).Nodup := by
    refine List.pairwise_map.mpr (changes.map.sorted.imp fun {e f} hlt heq => ?_)
    rw [heq, SortedSet.cmp_self DocumentKey.compareTo] at hlt
    exact Ordering.noConfusion hlt
  have hold : ∀ e ∈ changes.map.elements,
      acc.documentSet.getDocument e.1 = p.oldDocumentSet.getDocument e.1 :=
    fun e _ => by rw [hacc]
  rcases loop_spec h changes.keyed hnodup hold with
    ⟨acc₁, hloop, htracked, hrefill, hin, hout⟩
  rcases limit_spec htracked with ⟨acc', hlimit, htracked', hrefill', hlimited⟩
  refine ⟨acc₁.documentSet, acc', by rw [hloop]; exact hlimit, htracked',
    hrefill'.trans hrefill, fun k => ?_, hlimited⟩
  rw [merged]
  -- A key is either one of the changed documents or none of the loop.
  rcases hfind : changes.find k with _ | doc
  · have hnot : k ∉ changes.map.elements.map Prod.fst := by
      intro hmem
      rcases List.mem_map.mp hmem with ⟨⟨k', d⟩, helem, rfl⟩
      rw [Documents.mem_elements.mp helem] at hfind
      exact absurd hfind (Option.some_ne_none d)
    simp only [hout k hnot, hacc]
  · exact hin (k, doc) (Documents.mem_elements.mpr hfind)

end Pass

end FirestoreCore

end JkbEmpOffers
