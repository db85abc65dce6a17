import JkbEmpOffers.FirestoreCore.DocumentSet

/-!
# Change Sets

A view reports to its listeners what has changed since the last report, at
most one change for each document. While the changes are collected a document
may change more than once, and `AddChange` merges the new change with the one
there is. Of the sixteen combinations the source rules out six with an abort.

`Describes` says what a change is about: the document under one key before
and after. The six combinations are those in which the change that is there
ends where the new one cannot begin, so they never occur in a sequence of
changes that fit together, and what such a sequence is merged into describes
the whole way.

## Main definitions

* `DocumentViewChange`: A change of one document.
* `DocumentViewChangeSet.addChange`: Merging a change, `none` for an abort.
* `Describes`: What a change says about one key.
* `Diff`: A change set describes the way from one set to another.
* `Step`, `Steps`: Changes that fit together.

## Theorems

* `addChange_describes`: A change that fits is merged, and describes the way
  of both.
* `addChange_diff`, `steps_diff`: The same for whole sets, and for sequences.
* `merged_diff`: What a sequence of changes is merged into.
-/

namespace JkbEmpOffers

namespace FirestoreCore

/-- `DocumentViewChange::Type` -/
inductive ChangeType where
  | removed
  | added
  | modified
  | metadata
  deriving DecidableEq

/-- `DocumentViewChange` -/
structure DocumentViewChange where
  document : Document
  type : ChangeType

/-- `DocumentViewChangeSet`, which is its `change_map_`. -/
abbrev DocumentViewChangeSet := SortedMap DocumentKey.compareTo DocumentViewChange

namespace DocumentViewChangeSet

/-- The merging in `AddChange`: the change map after a change that comes when
    there is an old one with its key. The last branch aborts. -/
def merge (changes : DocumentViewChangeSet) (old change : DocumentViewChange) :
    Option DocumentViewChangeSet :=
  let key := change.document.key
  if change.type ≠ .added ∧ old.type = .metadata then some (changes.insert key change)
  else if change.type = .metadata ∧ old.type ≠ .removed then
    some (changes.insert key ⟨change.document, old.type⟩)
  else if change.type = .modified ∧ old.type = .modified then
    some (changes.insert key ⟨change.document, .modified⟩)
  else if change.type = .modified ∧ old.type = .added then
    some (changes.insert key ⟨change.document, .added⟩)
  else if change.type = .removed ∧ old.type = .added then some (changes.erase key)
  else if change.type = .removed ∧ old.type = .modified then
    some (changes.insert key ⟨old.document, .removed⟩)
  else if change.type = .added ∧ old.type = .removed then
    some (changes.insert key ⟨change.document, .modified⟩)
  else none

/-- `AddChange` -/
def addChange (changes : DocumentViewChangeSet) (change : DocumentViewChange) :
    Option DocumentViewChangeSet :=
  match changes.find change.document.key with
  | none => some (changes.insert change.document.key change)
  | some old => merge changes old change

/-- `GetChanges` -/
def getChanges (changes : DocumentViewChangeSet) : List DocumentViewChange :=
  changes.elements.map Prod.snd

end DocumentViewChangeSet

/-- What a change, or none, says about the document under one key: what it
    was, and what it is. -/
inductive Describes (k : DocumentKey) :
    Option Document → Option Document → Option DocumentViewChange → Prop where
  | same (o : Option Document) : Describes k o o none
  | added (d : Document) (hkey : d.key = k) : Describes k none (some d) (some ⟨d, .added⟩)
  | removed (o d : Document) (hkey : d.key = k) : Describes k (some o) none (some ⟨d, .removed⟩)
  | modified (o d : Document) (hkey : d.key = k) :
      Describes k (some o) (some d) (some ⟨d, .modified⟩)
  | metadata (o d : Document) (hkey : d.key = k) (hequals : o.value.equals d.value = true) :
      Describes k (some o) (some d) (some ⟨d, .metadata⟩)

/-- A change set says for every key what has changed between two sets. -/
def Diff {c : DocumentComparator} (s t : DocumentSet c) (changes : DocumentViewChangeSet) : Prop :=
  ∀ k, Describes k (s.getDocument k) (t.getDocument k) (changes.find k)

section

open DocumentViewChangeSet

variable {changes : DocumentViewChangeSet} {o m n : Option Document} {change : DocumentViewChange}
  {k : DocumentKey}

/-- A change is about the key of its document. -/
theorem Describes.key (h : Describes k m n (some change)) : change.document.key = k := by
  cases h with
  | added d hkey => exact hkey
  | removed _ d hkey => exact hkey
  | modified _ d hkey => exact hkey
  | metadata _ d hkey hequals => exact hkey

/-- Without a change nothing has changed. -/
theorem Describes.eq_of_none (h : Describes k o n none) : n = o := by
  cases h with
  | same => rfl

/-- What a change says, by its type. -/
theorem Describes.of_type (h : Describes k o n (some change)) :
    change.type = .added ∧ o = none ∧ n = some change.document ∨
      change.type = .removed ∧ (∃ x, o = some x) ∧ n = none ∨
      change.type ≠ .added ∧ change.type ≠ .removed ∧ (∃ x, o = some x) ∧
        n = some change.document := by
  cases h with
  | added d _ => exact Or.inl ⟨rfl, rfl, rfl⟩
  | removed x d _ => exact Or.inr (Or.inl ⟨rfl, ⟨x, rfl⟩, rfl⟩)
  | modified x d _ =>
      exact Or.inr (Or.inr ⟨ChangeType.noConfusion, ChangeType.noConfusion, ⟨x, rfl⟩, rfl⟩)
  | metadata x d _ _ =>
      exact Or.inr (Or.inr ⟨ChangeType.noConfusion, ChangeType.noConfusion, ⟨x, rfl⟩, rfl⟩)

/-- A change of metadata is of a document that was there, with the same
    value. -/
theorem Describes.exists_of_metadata (h : Describes k o n (some change))
    (htype : change.type = .metadata) :
    ∃ x y, o = some x ∧ n = some y ∧ x.value.equals y.value = true := by
  cases h with
  | metadata x y _ hequals => exact ⟨x, y, rfl, rfl, hequals⟩
  | _ => exact absurd htype ChangeType.noConfusion

/-- After a change, a change that fits is merged with it, and the two
    together describe the way of both. -/
theorem merge_describes {old : DocumentViewChange} (hold : Describes k o m (some old))
    (hchange : Describes k m n (some change)) :
    ∃ merged, merge changes old change = some merged ∧
      Describes k o n (merged.find k) ∧ ∀ k', k' ≠ k → merged.find k' = changes.find k' := by
  have hkey := hchange.key
  -- A merge writes one entry under the key, or erases it.
  have hinsert : ∀ new : DocumentViewChange, Describes k o n (some new) →
      ∃ merged, some (changes.insert k new) = some merged ∧
        Describes k o n (merged.find k) ∧ ∀ k', k' ≠ k → merged.find k' = changes.find k' := by
    intro new hnew
    refine ⟨_, rfl, ?_, fun k' hk' => ?_⟩
    · rw [SortedMap.find_insert, if_pos rfl]
      exact hnew
    · rw [SortedMap.find_insert, if_neg hk']
  rw [merge]
  simp only [hkey]
  cases hold with
  | added d hd =>
      cases hchange with
      | removed _ e he =>
          refine ⟨_, rfl, ?_, fun k' hk' => ?_⟩
          · rw [SortedMap.find_erase, if_pos rfl]
            exact .same none
          · rw [SortedMap.find_erase, if_neg hk']
      | modified _ e he => exact hinsert _ (.added e he)
      | metadata _ e he hequals => exact hinsert _ (.added e he)
  | removed o d hd =>
      cases hchange with
      | added e he => exact hinsert _ (.modified o e he)
  | modified o d hd =>
      cases hchange with
      | removed _ e he => exact hinsert _ (.removed o d hd)
      | modified _ e he => exact hinsert _ (.modified o e he)
      | metadata _ e he hequals => exact hinsert _ (.modified o e he)
  | metadata o d hd hod =>
      cases hchange with
      | removed _ e he => exact hinsert _ (.removed o e he)
      | modified _ e he => exact hinsert _ (.modified o e he)
      | metadata _ e he hde =>
          exact hinsert _ (.metadata o e he (Value.equals_trans _ _ _ hod hde))

/-- A change that fits is added without an abort, and says with what was
    there the way of both. -/
theorem addChange_describes (hold : Describes k o m (changes.find k))
    (hchange : Describes k m n (some change)) :
    ∃ merged, addChange changes change = some merged ∧
      Describes k o n (merged.find k) ∧ ∀ k', k' ≠ k → merged.find k' = changes.find k' := by
  have hkey := hchange.key
  rw [addChange, hkey]
  rcases hfind : changes.find k with _ | old
  · rw [hfind] at hold
    refine ⟨_, rfl, ?_, fun k' hk' => ?_⟩
    · rw [SortedMap.find_insert, if_pos rfl]
      cases hold with
      | same => exact hchange
    · rw [SortedMap.find_insert, if_neg hk']
  · rw [hfind] at hold
    exact merge_describes hold hchange

/-- The change leads from one set to another. -/
structure Step {c : DocumentComparator} (s : DocumentSet c) (change : DocumentViewChange)
    (t : DocumentSet c) : Prop where
  here : Describes change.document.key (s.getDocument change.document.key)
    (t.getDocument change.document.key) (some change)
  elsewhere : ∀ k, k ≠ change.document.key → t.getDocument k = s.getDocument k

/-- A change of the kind that fits what was there, as one step of a set. -/
theorem step_insert {c : DocumentComparator} (s : DocumentSet c) {d : Document} {type : ChangeType}
    (h : Describes d.key (s.getDocument d.key) (some d) (some ⟨d, type⟩)) :
    Step s ⟨d, type⟩ (s.insert d) where
  here := by
    rw [DocumentSet.getDocument_insert, if_pos rfl]
    exact h
  elsewhere k hk := by rw [DocumentSet.getDocument_insert, if_neg hk]

/-- And a removal. -/
theorem step_erase {c : DocumentComparator} {s : DocumentSet c} {d : Document}
    (h : s.getDocument d.key = some d) : Step s ⟨d, .removed⟩ (s.erase d.key) where
  here := by
    rw [DocumentSet.getDocument_erase, if_pos rfl, h]
    exact .removed d d rfl
  elsewhere k hk := by rw [DocumentSet.getDocument_erase, if_neg hk]

/-- Changes that fit together, from one set to another. -/
inductive Steps {c : DocumentComparator} :
    DocumentSet c → List DocumentViewChange → DocumentSet c → Prop where
  | nil (s : DocumentSet c) : Steps s [] s
  | cons {s m t : DocumentSet c} {change : DocumentViewChange} {rest : List DocumentViewChange}
      (hstep : Step s change m) (hrest : Steps m rest t) : Steps s (change :: rest) t

/-- A change that leads on from where a change set ends is added to it. -/
theorem addChange_diff {c : DocumentComparator} {s m t : DocumentSet c}
    (hdiff : Diff s m changes) (hstep : Step m change t) :
    ∃ merged, addChange changes change = some merged ∧ Diff s t merged := by
  rcases addChange_describes (hdiff _) hstep.here with ⟨merged, hadd, hhere, helse⟩
  refine ⟨merged, hadd, fun k => ?_⟩
  by_cases hk : k = change.document.key
  · rw [hk]
    exact hhere
  · rw [helse k hk, hstep.elsewhere k hk]
    exact hdiff k

/-- Any further steps go into the changes without an abort. -/
theorem steps_diff {c : DocumentComparator} {s m t : DocumentSet c}
    {rest : List DocumentViewChange} (hdiff : Diff s m changes) (hsteps : Steps m rest t) :
    ∃ merged, rest.foldlM addChange changes = some merged ∧ Diff s t merged := by
  induction hsteps generalizing changes with
  | nil m => exact ⟨changes, rfl, hdiff⟩
  | cons hstep hrest ih =>
      rcases addChange_diff hdiff hstep with ⟨merged, hadd, hmerged⟩
      rw [List.foldlM_cons, hadd]
      exact ih hmerged

end

/-- Any sequence of changes that fit together is merged without an abort, and
    what comes out says for every document how it was at first and is at
    last. -/
theorem merged_diff {c : DocumentComparator} (s t : DocumentSet c)
    (changes : List DocumentViewChange) (hsteps : Steps s changes t) :
    ∃ merged, changes.foldlM DocumentViewChangeSet.addChange SortedMap.empty = some merged ∧
      Diff s t merged :=
  steps_diff (fun k => .same (s.getDocument k)) hsteps

/-- A hotel that comes and goes between two reports is in neither. -/
theorem merged_diff_hotel :
    let d := Document.ofText ["hotels", "1"] rfl "Amman"
    let s : DocumentSet .byKey := DocumentSet.empty
    ∃ merged, [⟨d, .added⟩, ⟨d, .removed⟩].foldlM DocumentViewChangeSet.addChange SortedMap.empty
        = some merged ∧ Diff s ((s.insert d).erase d.key) merged := by
  intro d s
  refine merged_diff s ((s.insert d).erase d.key) [⟨d, .added⟩, ⟨d, .removed⟩] ?_
  refine .cons (step_insert s (.added d rfl)) (.cons (step_erase ?_) (.nil _))
  rw [DocumentSet.getDocument_insert, if_pos rfl]

end FirestoreCore

end JkbEmpOffers
