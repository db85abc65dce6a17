import JkbEmpOffers.Library.Log
import JkbEmpOffers.Library.Run

/-!
# The Notes Form

`validateAndSave` checks that the three fields are filled in, adds a document
to the collection `Notes`, and clears the fields once the write has
completed. Offline that is when the connection comes back. Nothing stops the
user meanwhile: Send stays enabled and the fields can be edited. So a second
press adds the same note again, and what is typed before the completion is
cleared with the rest.

To say so, the user's edits are counted. What the fields hold between two
edits is one note being composed, known by the number of edits so far. A
document is recorded with the note it was made from, and each text that is
cleared with the edit that typed it.

The texts an edit leaves are whatever the fields hold after it, so their
`maxLength` has been applied already.

## Main definitions

* `Form`: The fields, the writes that have not completed, and the records.
* `Event`, `step`: Edits, presses of Send and completions.
* `Saved`: No note is added twice and no text is cleared that was not added.
* `Guarded`: The condition on a step.

## Theorems

* `inv_step`: What the records say about the fields.
* `saved_step`: The steps that keep `Saved`.
* `notes_saved_iff`: The runs that do.
* `pressed_twice_added_twice`: A run that does not.
-/

namespace JkbEmpOffers

namespace Notes

/-- The text fields, by their controllers. -/
inductive Field where
  | notes
  | empname
  | empid
  deriving DecidableEq, Repr

/-- What the three controllers hold. -/
structure Texts where
  notes : String
  empname : String
  empid : String
  deriving DecidableEq

namespace Texts

/-- `controller.text` -/
def text (t : Texts) : Field → String
  | .notes => t.notes
  | .empname => t.empname
  | .empid => t.empid

/-- The fields after the user has left a text in one of them. -/
def edit (t : Texts) (f : Field) (s : String) : Texts :=
  match f with
  | .notes => { t with notes := s }
  | .empname => { t with empname := s }
  | .empid => { t with empid := s }

/-- The fields after `empname.clear()`, `empid.clear()` and `notes.clear()`. -/
def cleared : Texts :=
  ⟨"", "", ""⟩

/-- `form!.validate()`: no field is empty. -/
def validate (t : Texts) : Bool :=
  !t.empname.isEmpty && !t.empid.isEmpty && !t.notes.isEmpty

theorem edit_text (t : Texts) (f g : Field) (s : String) :
    (t.edit f s).text g = if g = f then s else t.text g := by
  cases f <;> cases g <;> rfl

@[simp] theorem cleared_text (f : Field) : cleared.text f = "" := by
  cases f <;> rfl

/-- A form that validates has text in it. -/
theorem exists_text_of_validate {t : Texts} (h : t.validate = true) : ∃ f, t.text f ≠ "" := by
  refine ⟨.notes, fun hempty => ?_⟩
  have hnotes : t.notes = "" := hempty
  have hempty' : ("" : String).isEmpty = true := rfl
  rw [validate, hnotes, hempty', Bool.not_true, Bool.and_false] at h
  exact Bool.false_ne_true h

end Texts

/-- `DateTime.now()`, as far as it is read. -/
structure Date where
  day : Nat
  month : Nat
  year : Nat
  deriving DecidableEq

/-- `formatDate` -/
def formatDate (d : Date) : String :=
  toString d.day ++ "/" ++ toString d.month ++ "/" ++ toString d.year

/-- A document of the collection `Notes`. -/
structure Note where
  note : String
  name : String
  id : String
  date : String
  deriving DecidableEq

/-- The document that `add` is called with. -/
def Note.of (t : Texts) (d : Date) : Note :=
  { note := t.notes, name := t.empname, id := t.empid, date := formatDate d }

/-- The value of a document that comes from a field. -/
def Note.value (n : Note) : Field → String
  | .notes => n.note
  | .empname => n.name
  | .empid => n.id

@[simp] theorem value_of (t : Texts) (d : Date) (f : Field) : (Note.of t d).value f = t.text f := by
  cases f <;> rfl

/-- A text that was cleared, the field it was in, and the edit that typed
    it. -/
structure Cleared where
  field : Field
  text : String
  typed : Nat
  deriving DecidableEq

/-- The page with its records. -/
structure Form where
  texts : Texts
  /-- How many edits the user has made: the note being composed. -/
  edits : Nat
  /-- The last edit of each field. -/
  typed : Field → Nat
  /-- The notes whose `add` has not completed. -/
  pending : List Nat
  /-- The documents added, each with the note it was made from. -/
  added : List (Nat × Note)
  /-- The texts cleared. -/
  cleared : List Cleared

/-- An empty form that nothing has been sent from. -/
def Form.start : Form :=
  { texts := Texts.cleared, edits := 0, typed := fun _ => 0, pending := [], added := []
    cleared := [] }

/-- What can happen: an edit, a press of Send, or the completion of one of
    the pending writes. -/
inductive Event where
  | edit (f : Field) (text : String)
  | send (date : Date)
  | complete (i : Nat)
  deriving DecidableEq

/-- The texts that clearing the fields takes away. -/
def Form.toClear (s : Form) : List Cleared :=
  ([.empname, .empid, .notes].filter fun f => s.texts.text f ≠ "").map fun f =>
    ⟨f, s.texts.text f, s.typed f⟩

/-- `validateAndSave` up to the `await`. -/
def validateAndSave (date : Date) (s : Form) : Form :=
  if s.texts.validate then
    { s with pending := s.pending ++ [s.edits], added := s.added ++ [(s.edits, .of s.texts date)] }
  else s

/-- `validateAndSave` after the `await`. -/
def clearFields (s : Form) : Form :=
  { s with texts := Texts.cleared, cleared := s.cleared ++ s.toClear }

/-- One event. -/
def step (s : Form) : Event → Form
  | .edit f text =>
    { s with texts := s.texts.edit f text, edits := s.edits + 1
             typed := Function.update s.typed f (s.edits + 1) }
  | .send date => validateAndSave date s
  | .complete i =>
    -- The writes complete in any order, but each clears whatever is there then.
    if i < s.pending.length then clearFields { s with pending := s.pending.eraseIdx i } else s

/-- The text was added after it was typed. -/
def WasAdded (added : List (Nat × Note)) (c : Cleared) : Prop :=
  ∃ a ∈ added, c.typed ≤ a.1 ∧ a.2.value c.field = c.text

instance (added : List (Nat × Note)) (c : Cleared) : Decidable (WasAdded added c) :=
  inferInstanceAs (Decidable (∃ a ∈ added, c.typed ≤ a.1 ∧ a.2.value c.field = c.text))

/-- No note is added twice, and every text that is cleared was added. -/
def Saved (s : Form) : Prop :=
  Log.AtMostOnce s.added ∧ ∀ c ∈ s.cleared, WasAdded s.added c

instance : DecidablePred Saved := fun s =>
  inferInstanceAs (Decidable (Log.AtMostOnce s.added ∧ ∀ c ∈ s.cleared, WasAdded s.added c))

/-- A press that validates finds no pending write of the note, and when a
    write completes no field holds text typed since the last note was
    added. -/
def Guarded (s : Form) : Event → Prop
  | .edit _ _ => True
  | .send _ => s.texts.validate = true → s.edits ∉ s.pending
  | .complete i => i < s.pending.length →
      ∀ f, s.texts.text f ≠ "" → ∃ k ∈ s.added.map Prod.fst, s.typed f ≤ k

/-- What the records say about the fields. -/
structure Inv (s : Form) : Prop where
  /-- A document was made from an earlier note or from this one. -/
  added_le : ∀ k ∈ s.added.map Prod.fst, k ≤ s.edits
  /-- While there is text, the document of this note is still being
      written. -/
  pending : s.edits ∈ s.added.map Prod.fst → (∃ f, s.texts.text f ≠ "") → s.edits ∈ s.pending
  pending_added : ∀ k ∈ s.pending, k ∈ s.added.map Prod.fst
  /-- Text that has stood in a field since a document was made is in the
      document. -/
  text_added : ∀ a ∈ s.added, ∀ f, s.texts.text f ≠ "" → s.typed f ≤ a.1 →
    a.2.value f = s.texts.text f

theorem inv_start : Inv Form.start where
  added_le := fun _ hk => absurd hk List.not_mem_nil
  pending := fun hk => absurd hk List.not_mem_nil
  pending_added := fun _ hk => absurd hk List.not_mem_nil
  text_added := fun _ ha => absurd ha List.not_mem_nil

theorem inv_edit {s : Form} (f : Field) (text : String) (h : Inv s) :
    Inv (step s (.edit f text)) where
  added_le := fun k hk => Nat.le_succ_of_le (h.added_le k hk)
  pending := fun hk => absurd (h.added_le _ hk) (Nat.not_succ_le_self _)
  pending_added := h.pending_added
  text_added := by
    intro a ha g hg htyped
    simp only [step, Texts.edit_text, Function.update_apply] at hg htyped ⊢
    split_ifs at hg htyped ⊢
    · -- No document is as recent as this edit.
      have hle := h.added_le a.1 (List.mem_map_of_mem ha)
      omega
    · exact h.text_added a ha g hg htyped

theorem inv_send {s : Form} (date : Date) (h : Inv s) : Inv (step s (.send date)) := by
  rw [step, validateAndSave]
  split_ifs with hvalid
  · refine ⟨fun k hk => ?_, fun _ _ => ?_, fun k hk => ?_, fun a ha f hf htyped => ?_⟩
    -- The new document is made from this note and holds every field of it.
    · simp only [List.map_append, List.map_cons, List.map_nil, List.mem_append,
        List.mem_singleton] at hk
      rcases hk with hk | rfl
      · exact h.added_le k hk
      · exact Nat.le_refl _
    · exact List.mem_append_right _ (List.mem_singleton.mpr rfl)
    · simp only [List.map_append, List.map_cons, List.map_nil, List.mem_append] at hk ⊢
      exact hk.imp_left (h.pending_added k)
    · rcases List.mem_append.mp ha with ha | ha
      · exact h.text_added a ha f hf htyped
      · rw [List.mem_singleton.mp ha]
        exact value_of s.texts date f
  · exact h

theorem inv_complete {s : Form} (i : Nat) (h : Inv s) : Inv (step s (.complete i)) := by
  rw [step]
  split_ifs
  · refine ⟨h.added_le, ?_, fun k hk => h.pending_added k (List.mem_of_mem_eraseIdx hk), ?_⟩
    -- The fields are empty now, so nothing in them needs to have been added.
    · intro _ htext
      rcases htext with ⟨f, hf⟩
      exact absurd (Texts.cleared_text f) hf
    · intro a _ f hf
      exact absurd (Texts.cleared_text f) hf
  · exact h

theorem inv_step (s : Form) (e : Event) (h : Inv s) : Inv (step s e) := by
  cases e with
  | edit f text => exact inv_edit f text h
  | send date => exact inv_send date h
  | complete i => exact inv_complete i h

/-- What clearing takes away was added exactly when each text in the form has
    stood there since some document was made. -/
theorem toClear_added_iff {s : Form} (h : Inv s) :
    (∀ c ∈ s.toClear, WasAdded s.added c) ↔
      ∀ f, s.texts.text f ≠ "" → ∃ k ∈ s.added.map Prod.fst, s.typed f ≤ k := by
  have hmem : ∀ f : Field, f ∈ [Field.empname, .empid, .notes] := fun f => by
    cases f <;> decide
  simp only [Form.toClear, List.forall_mem_map, List.mem_filter, hmem, true_and,
    decide_eq_true_eq, WasAdded]
  refine forall_congr' fun f => imp_congr_right fun hf => ?_
  constructor
  · intro h'
    rcases h' with ⟨a, ha, htyped, -⟩
    exact ⟨a.1, List.mem_map_of_mem ha, htyped⟩
  · intro h'
    rcases h' with ⟨k, hk, htyped⟩
    -- The text has not changed since, so that document has it.
    rcases List.mem_map.mp hk with ⟨a, ha, rfl⟩
    exact ⟨a, ha, htyped, h.text_added a ha f hf htyped⟩

theorem wasAdded_append {added : List (Nat × Note)} {c : Cleared} (a : Nat × Note)
    (h : WasAdded added c) : WasAdded (added ++ [a]) c := by
  rcases h with ⟨b, hb, hrest⟩
  exact ⟨b, List.mem_append_left _ hb, hrest⟩

/-- A press keeps `Saved` exactly when the note it adds is not being written
    already. -/
theorem saved_send {s : Form} (date : Date) (h : Inv s) (hp : Saved s) :
    Saved (step s (.send date)) ↔ Guarded s (.send date) := by
  rw [step, validateAndSave]
  split_ifs with hvalid
  · -- The form is not empty, so if its note was added it is still pending.
    have hkey : s.edits ∈ s.added.map Prod.fst ↔ s.edits ∈ s.pending :=
      ⟨fun hk => h.pending hk (Texts.exists_text_of_validate hvalid), h.pending_added s.edits⟩
    rw [Saved, Log.atMostOnce_append_singleton _ _ _ hp.1, hkey]
    simp only [Guarded, hvalid, forall_const]
    exact and_iff_left fun c hc => wasAdded_append _ (hp.2 c hc)
  · exact iff_of_true hp fun hv => absurd hv hvalid

/-- A completion keeps `Saved` exactly when the fields hold nothing that was
    typed since the last note was added. -/
theorem saved_complete {s : Form} (i : Nat) (h : Inv s) (hp : Saved s) :
    Saved (step s (.complete i)) ↔ Guarded s (.complete i) := by
  rw [step]
  split_ifs with hi
  · simp only [Guarded, hi, forall_const]
    rw [← toClear_added_iff h]
    simp only [Saved, clearFields, List.forall_mem_append]
    constructor
    · intro h'
      exact h'.2.2
    · intro hclear
      exact ⟨hp.1, hp.2, hclear⟩
  · exact iff_of_true hp fun hlt => absurd hlt hi

theorem saved_step (s : Form) (e : Event) (h : Inv s) (hp : Saved s) :
    Saved (step s e) ↔ Guarded s e := by
  cases e with
  | edit f text => exact iff_of_true hp trivial
  | send date => exact saved_send date h hp
  | complete i => exact saved_complete i h hp

/-- In every interleaving of edits, presses and completions, no note is added
    twice and no text is cleared without having been added, exactly when no
    press sends a note that is still being written and no write completes
    over text typed since the last note was added. -/
theorem notes_saved_iff (es : List Event) :
    Run.Always step Saved Form.start es ↔ Run.Along step Guarded Form.start es :=
  Run.always_iff_along step Inv Saved Guarded (fun s e h _ _ => inv_step s e h) saved_step es
    Form.start inv_start
    ⟨Log.atMostOnce_nil, fun _ hc => absurd hc List.not_mem_nil⟩

/-- Two presses before the first write completes add the same note twice. -/
theorem pressed_twice_added_twice :
    ¬ Run.Always step Saved Form.start
      [.edit .empname "Omar", .edit .empid "1976", .edit .notes "More offers in Irbid",
        .send ⟨1, 2, 2024⟩, .send ⟨1, 2, 2024⟩] := by
  decide

end Notes

end JkbEmpOffers
