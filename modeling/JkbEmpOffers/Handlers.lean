import JkbEmpOffers.Translations
import JkbEmpOffers.Firestore
import JkbEmpOffers.Viewer

/-!
# Button Handlers

Every button of a row, and the Baraka Mall tile, does the same thing with a
document: inside a `try` it reads the size of one field and walks a chain of
`else if`s over that size. The chains differ in the field they read, the
sizes they have a branch for, and what a branch does.

A viewer chain pushes `ImageBui` for one image and `GridImageList` for each
size it has a branch for. A contact chain shows a dialog with one button for
each entry, and the call chain dials a single entry at once. The label of a
button is read from `entries` when the dialog is built, its value from
`values` when the button is pressed, so a `DialogButton` carries the outcome
of that second reading.

No chain has a final `else`, and a size without a branch gets nothing. What
throws inside the `try` is printed, which also comes to nothing.

## Main definitions

* `Action`, `DialogButton`, `Effect`: What a handler does.
* `ViewerChain`, `ContactChain`: The two kinds of chain.
* `ViewerChain.respond`, `ContactChain.respond`: What a chain does with a
  document.

## Theorems

* `upTo_serves`: The sizes of a gapless viewer chain.
* `viewer_respond_of_length`: A viewer chain on a field of known size.
* `viewer_respond_eq_some`: What a viewer chain's answer can be.
* `viewer_respond_isSome`: When a viewer chain answers.
* `contact_respond_map`: A contact chain on a map of a size it has.
* `contact_respond_eq_some`: What a contact chain's answer can be.
* `contact_respond_isSome`: When a contact chain answers.
-/

namespace JkbEmpOffers

/-- What a contact button does with the text of a value. -/
inductive Action where
  | makePhoneCall (phoneNumer : String)
  | launcheurl (url : String)
  deriving DecidableEq

/-- `AnimatedButton(text: …, pressEvent: …)` -/
structure DialogButton where
  text : String
  pressEvent : Except DartError Action
  deriving DecidableEq

/-- What a handler does with a document. -/
inductive Effect where
  | push (route : ViewerRoute)
  | dialog (buttons : List DialogButton)
  | act (action : Action)
  deriving DecidableEq

/-- Whether an effect is a call that is dialled, or a link that is opened, at
    once. -/
def Effect.isAct : Effect → Bool
  | .act _ => true
  | _ => false

/-- The `try` around a chain: an error is printed and nothing happens. -/
def caught (r : Except DartError (Option Effect)) : Option Effect :=
  match r with
  | .ok e => e
  | .error _ => none

/-- The branch a chain of `else if`s takes for a size: the first that is for
    it. -/
def branchFor {β : Type} (size : β → Nat) (branches : List β) (n : Nat) : Option β :=
  branches.find? fun b => size b == n

theorem branchFor_eq_some {β : Type} {size : β → Nat} {branches : List β} {n : Nat} {b : β}
    (h : branchFor size branches n = some b) : b ∈ branches ∧ size b = n :=
  ⟨List.mem_of_find?_eq_some h, by simpa only [beq_iff_eq] using List.find?_some h⟩

theorem branchFor_isSome {β : Type} {size : β → Nat} {branches : List β} {n : Nat} :
    (branchFor size branches n).isSome = true ↔ ∃ b ∈ branches, size b = n := by
  rw [branchFor, List.find?_isSome]
  simp only [beq_iff_eq]

/-! ## Viewer chains -/

/-- A chain over the number of images in a field. -/
structure ViewerChain where
  field : String
  grids : List Branch

namespace ViewerChain

/-- The chain with a branch for every size up to a bound. -/
def upTo (field : String) (bound : Nat) : ViewerChain :=
  ⟨field, (List.range' 2 (bound - 1)).map Branch.regular⟩

/-- The body of the `try`. -/
def body (c : ViewerChain) (name : String) (d : Doc) : Except DartError (Option Effect) :=
  (d.field c.field).length.map fun n =>
    if n = 1 then some (.push (.imageBui (d.field c.field) name))
    else (branchFor Branch.size c.grids n).map fun b =>
      .push (.gridImageList (d.field c.field) b name)

/-- What the handler does with a document. -/
def respond (c : ViewerChain) (name : String) (d : Doc) : Option Effect :=
  caught (c.body name d)

/-- The sizes the chain has a branch for. -/
def Serves (c : ViewerChain) (n : Nat) : Prop :=
  n = 1 ∨ ∃ b ∈ c.grids, b.size = n

instance (c : ViewerChain) (n : Nat) : Decidable (c.Serves n) :=
  inferInstanceAs (Decidable (n = 1 ∨ ∃ b ∈ c.grids, b.size = n))

end ViewerChain

theorem upTo_serves (field : String) (bound n : Nat) (hb : 1 ≤ bound) :
    (ViewerChain.upTo field bound).Serves n ↔ 1 ≤ n ∧ n ≤ bound := by
  have hmem : (∃ b ∈ (ViewerChain.upTo field bound).grids, b.size = n) ↔ 2 ≤ n ∧ n ≤ bound := by
    simp only [ViewerChain.upTo, List.mem_map, exists_exists_and_eq_and, Branch.regular,
      List.mem_range'_1]
    constructor
    · intro h
      rcases h with ⟨m, hm, rfl⟩
      omega
    · intro h
      exact ⟨n, by omega, rfl⟩
  rw [ViewerChain.Serves, hmem]
  omega

/-- What a viewer chain does with a field of known size. -/
theorem viewer_respond_of_length {c : ViewerChain} {name : String} {d : Doc} {n : Nat}
    (h : (d.field c.field).length = .ok n) :
    c.respond name d =
      if n = 1 then some (.push (.imageBui (d.field c.field) name))
      else (branchFor Branch.size c.grids n).map fun b =>
        .push (.gridImageList (d.field c.field) b name) := by
  rw [ViewerChain.respond, ViewerChain.body, h]
  rfl

/-- A viewer chain answers exactly the fields of a size it has a branch
    for. -/
theorem viewer_respond_isSome (c : ViewerChain) (name : String) (d : Doc) :
    (c.respond name d).isSome = true ↔ ∃ n, (d.field c.field).length = .ok n ∧ c.Serves n := by
  rcases h : (d.field c.field).length with e | n
  -- A field without a length throws, and the `try` prints that.
  · rw [ViewerChain.respond, ViewerChain.body, h]
    simp only [Except.map, caught, Option.isSome_none, Bool.false_eq_true, reduceCtorEq, false_and,
      exists_false]
  · rw [viewer_respond_of_length h]
    simp only [Except.ok.injEq, exists_eq_left', ViewerChain.Serves]
    split_ifs with h1
    · simp only [Option.isSome_some, h1, true_or]
    · rw [Option.isSome_map, branchFor_isSome]
      simp only [h1, false_or]

/-- A viewer chain pushes a route over its own field, and does nothing
    else. -/
theorem viewer_respond_eq_some {c : ViewerChain} {name : String} {d : Doc} {e : Effect}
    (h : c.respond name d = some e) :
    ∃ n, (d.field c.field).length = .ok n ∧
      ((n = 1 ∧ e = .push (.imageBui (d.field c.field) name)) ∨
        ∃ b ∈ c.grids, b.size = n ∧ e = .push (.gridImageList (d.field c.field) b name)) := by
  have hsome : (c.respond name d).isSome = true := by rw [h]; rfl
  rcases (viewer_respond_isSome c name d).mp hsome with ⟨n, hn, _⟩
  refine ⟨n, hn, ?_⟩
  rw [viewer_respond_of_length hn] at h
  split_ifs at h with h1
  · exact Or.inl ⟨h1, (Option.some.inj h).symm⟩
  · rcases Option.map_eq_some_iff.mp h with ⟨b, hb, rfl⟩
    rcases branchFor_eq_some hb with ⟨hmem, hsize⟩
    exact Or.inr ⟨b, hmem, hsize, rfl⟩

/-! ## Contact chains -/

/-- One branch of a contact chain: the size it is for and, for each button,
    the index of its label in `entries` and of its value in `values`. -/
structure DialogBranch where
  size : Nat
  buttons : List (Nat × Nat)
  deriving DecidableEq

/-- A branch whose i-th button reads both lists at `i`. -/
def DialogBranch.regular (n : Nat) : DialogBranch :=
  ⟨n, (List.range n).map fun i => (i, i)⟩

/-- A chain over the number of entries in a map field. -/
structure ContactChain where
  field : String
  action : String → Action
  /-- Whether a single entry is acted on at once, without a dialog. -/
  direct : Bool
  dialogs : List DialogBranch

namespace ContactChain

/-- One button of a dialog. -/
def button (c : ContactChain) (l : Locale) (entries : List (String × Value))
    (values : List Value) (ij : Nat × Nat) : Except DartError DialogButton :=
  (Value.index entries ij.1).map fun e =>
    ⟨tr l e.1, (Value.index values ij.2).map fun v => c.action v.toText⟩

/-- The chain, once the field has been read. -/
def chain (c : ContactChain) (l : Locale) (n : Nat) (entries : List (String × Value))
    (values : List Value) : Except DartError (Option Effect) :=
  if c.direct ∧ n = 1 then
    (Value.index values 0).map fun v => some (.act (c.action v.toText))
  else
    match branchFor DialogBranch.size c.dialogs n with
    | some b => (b.buttons.mapM (c.button l entries values)).map fun bs => some (.dialog bs)
    | none => .ok none

/-- The body of the `try`. -/
def body (c : ContactChain) (l : Locale) (d : Doc) : Except DartError (Option Effect) := do
  let count ← (d.field c.field).length
  let values ← (d.field c.field).values
  let entries ← (d.field c.field).entries
  c.chain l count entries values

/-- What the handler does with a document. -/
def respond (c : ContactChain) (l : Locale) (d : Doc) : Option Effect :=
  caught (c.body l d)

/-- Every branch pairs each label with the value of the same index, and no
    branch is for an empty map. -/
def Regular (c : ContactChain) : Prop :=
  ∀ b ∈ c.dialogs, b = DialogBranch.regular b.size ∧ 1 ≤ b.size

/-- The sizes the chain has a branch for. -/
def Serves (c : ContactChain) (n : Nat) : Prop :=
  (c.direct = true ∧ n = 1) ∨ ∃ b ∈ c.dialogs, b.size = n

instance (c : ContactChain) (n : Nat) : Decidable (c.Serves n) :=
  inferInstanceAs (Decidable ((c.direct = true ∧ n = 1) ∨ ∃ b ∈ c.dialogs, b.size = n))

/-- The buttons that pair each key of a map with its own value. -/
def buttonsOf (c : ContactChain) (l : Locale) (es : List (String × Value)) : List DialogButton :=
  es.map fun e => ⟨tr l e.1, .ok (c.action e.2.toText)⟩

end ContactChain

theorem buttonsOf_getElem (c : ContactChain) (l : Locale) (es : List (String × Value)) (i : Nat)
    (hi : i < (c.buttonsOf l es).length) (hi' : i < es.length) :
    (c.buttonsOf l es)[i] = ⟨tr l es[i].1, .ok (c.action es[i].2.toText)⟩ :=
  List.getElem_map _

/-- The chain with a branch for every size from `lo` on is regular. -/
theorem regular_range' (field : String) (action : String → Action) (direct : Bool) (lo k : Nat)
    (hlo : 1 ≤ lo) :
    (ContactChain.mk field action direct
      ((List.range' lo k).map DialogBranch.regular)).Regular := by
  intro b hb
  rcases List.mem_map.mp hb with ⟨n, hn, rfl⟩
  exact ⟨rfl, Nat.le_trans hlo (List.mem_range'_1.mp hn).1⟩

/-- The buttons of a regular branch pair each key with its own value. -/
theorem regular_buttons (c : ContactChain) (l : Locale) (es : List (String × Value)) :
    (DialogBranch.regular es.length).buttons.mapM (c.button l es (es.map Prod.snd))
      = .ok (c.buttonsOf l es) := by
  -- The i-th button reads the i-th key and the i-th value.
  have hbutton : ∀ i (hi : i < (c.buttonsOf l es).length),
      c.button l es (es.map Prod.snd) (i, i) = .ok (c.buttonsOf l es)[i] := by
    intro i hi
    have hi' : i < es.length := by
      rwa [ContactChain.buttonsOf, List.length_map] at hi
    have hent : Value.index es i = .ok es[i] :=
      Value.index_eq_ok (List.getElem?_eq_getElem hi')
    have hval : Value.index (es.map Prod.snd) i = .ok es[i].2 :=
      Value.index_eq_ok (by rw [List.getElem?_map, List.getElem?_eq_getElem hi']; rfl)
    rw [ContactChain.button, hent, hval, buttonsOf_getElem c l es i hi hi']
    rfl
  have h := Traverse.mapM_range_ok hbutton
  rw [ContactChain.buttonsOf, List.length_map] at h
  rw [DialogBranch.regular, List.mapM_map]
  exact h

/-- A contact chain needs a map: nothing else has entries. -/
theorem contact_respond_not_map {c : ContactChain} {l : Locale} {d : Doc}
    (h : ∀ es, d.field c.field ≠ .map es) : c.respond l d = none := by
  -- A list and a string have a length, but `values` throws on them.
  have hvalues : ∃ e, (d.field c.field).values = .error e := by
    rcases hf : d.field c.field with s | xs | es
    · exact ⟨_, rfl⟩
    · exact ⟨_, rfl⟩
    · exact absurd hf (h es)
  rcases hvalues with ⟨e, he⟩
  rw [ContactChain.respond, ContactChain.body]
  rcases (d.field c.field).length with e' | n
  · rfl
  · rw [he]
    rfl

theorem contact_respond_map {c : ContactChain} {l : Locale} {d : Doc}
    {es : List (String × Value)} (hreg : c.Regular) (h : d.field c.field = .map es) :
    c.respond l d =
      if c.direct = true ∧ es.length = 1 then
        es.head?.map fun e => .act (c.action e.2.toText)
      else if ∃ b ∈ c.dialogs, b.size = es.length then some (.dialog (c.buttonsOf l es))
      else none := by
  have hbody : c.body l d = c.chain l es.length es (es.map Prod.snd) := by
    rw [ContactChain.body, h]
    rfl
  rw [ContactChain.respond, hbody, ContactChain.chain]
  by_cases hdir : c.direct = true ∧ es.length = 1
  -- A direct chain acts on the only entry before any dialog is considered.
  · rw [if_pos hdir, if_pos hdir]
    match es, hdir.2 with
    | [e], _ => rfl
  · rw [if_neg hdir, if_neg hdir]
    rcases hb : branchFor DialogBranch.size c.dialogs es.length with _ | b
    · rw [if_neg]
      · rfl
      · rw [← branchFor_isSome, hb]
        exact Bool.false_ne_true
    · rcases branchFor_eq_some hb with ⟨hmem, hsize⟩
      rw [if_pos ⟨b, hmem, hsize⟩]
      -- The branch is regular, so its buttons are those of the map.
      have hb' : b = DialogBranch.regular es.length := by rw [← hsize]; exact (hreg b hmem).1
      simp only [hb', regular_buttons]
      rfl

/-- A regular contact chain answers exactly the maps of a size it has a
    branch for. -/
theorem contact_respond_isSome (c : ContactChain) (l : Locale) (d : Doc) (hreg : c.Regular) :
    (c.respond l d).isSome = true ↔ ∃ es, d.field c.field = .map es ∧ c.Serves es.length := by
  by_cases hmap : ∃ es, d.field c.field = .map es
  · rcases hmap with ⟨es, hes⟩
    rw [contact_respond_map hreg hes, hes]
    simp only [Value.map.injEq, exists_eq_left', ContactChain.Serves]
    split_ifs with hdir hbr
    · match es, hdir.2 with
      | [e], _ => simp only [List.head?_cons, Option.map_some, Option.isSome_some, hdir.1,
          List.length_cons, List.length_nil, and_self, true_or]
    · simp only [Option.isSome_some, hbr, or_true]
    · simp only [Option.isSome_none, Bool.false_eq_true, hdir, hbr, or_self]
  · have hne : ∀ es, d.field c.field ≠ .map es := fun es h => hmap ⟨es, h⟩
    rw [contact_respond_not_map hne]
    simp only [Option.isSome_none, Bool.false_eq_true, hne, false_and, exists_false]

/-- A regular contact chain acts on the only entry of a map, or shows one
    button for each entry, and does nothing else. -/
theorem contact_respond_eq_some {c : ContactChain} {l : Locale} {d : Doc} {e : Effect}
    (hreg : c.Regular) (h : c.respond l d = some e) :
    ∃ es, d.field c.field = .map es ∧
      ((∃ k v, es = [(k, v)] ∧ c.direct = true ∧ e = .act (c.action v.toText)) ∨
        e = .dialog (c.buttonsOf l es)) := by
  have hsome : (c.respond l d).isSome = true := by rw [h]; rfl
  rcases (contact_respond_isSome c l d hreg).mp hsome with ⟨es, hes, _⟩
  refine ⟨es, hes, ?_⟩
  rw [contact_respond_map hreg hes] at h
  split_ifs at h with hdir hbr
  · match es, hdir.2 with
    | [(k, v)], _ => exact Or.inl ⟨k, v, rfl, hdir.1, (Option.some.inj h).symm⟩
  · exact Or.inr (Option.some.inj h).symm

end JkbEmpOffers
