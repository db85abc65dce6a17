import JkbEmpOffers.Categories
import JkbEmpOffers.OffersList
import JkbEmpOffers.ResCafeOffersList

/-!
# The Nine Chains

The handlers of the app side by side: Offers, Call and Branches on both list
pages, Menu on the restaurants page, and the Baraka Mall tile on its two hit
areas. All nine are one of the two kinds of chain, so what is true of a kind
is true of each; what is left to say about one of them is the field it is
about, what a press of a dialog button is to do, and the sizes it serves.
They serve every size from 1 to a bound, and the bounds differ.

A response is not any effect: a viewer button has to push a viewer of its
field, Branches has to show a dialog of its entries, and Call has to show one
or to dial.

A snapshot is handled document by document, each inside its own `try`, so
what a handler does with one document does not depend on the others.

## Main definitions

* `ViewerButton`, `ContactButton`, `Handler`: The handlers.
* `Handler.respond`: What a handler does with a document.
* `Handler.size`, `Handler.dials`: The size a handler reads, and whether it
  dials at once for it.
* `ViewerButton.field`, `ContactButton.field`: The field a button is about.
* `ContactButton.action`: What a press of a dialog button is to do.
* `Handler.HasContent`: The size of the content a handler is for.
* `Handler.IsResponse`: What counts as a response.
* `forEach`: What a handler does with a snapshot.
* `Handler.Answered`, `SameSizes`: What the buttons should do.

## Theorems

* `viewer_serves_iff`, `contact_serves_iff`: The sizes served.
* `contact_regular`: Every contact chain pairs labels with values.
* `respond_isSome`, `respond_isSome_iff`: A handler answers the sizes up to
  its bound.
* `respond_isAct`: An answer is a call when the handler dials at once.
* `isResponse_respond`: An answer to content is a response.
* `exists_list_content`: A list of every size occurs in some document.
* `answered_iff`: A field is answered exactly up to the bound of its button.
* `sameSizes_iff`: The buttons serve a size alike up to 10 entries, and past
  21, where none does.
* `reachable_iff`: The two together.
-/

namespace JkbEmpOffers

/-- The handlers that open a viewer. -/
inductive ViewerButton where
  | offers (page : ListPage)
  | menu
  | barakaMall (area : Categories.Area)
  deriving DecidableEq, Repr

/-- The handlers that call or open a link. -/
inductive ContactButton where
  | call (page : ListPage)
  | branches (page : ListPage)
  deriving DecidableEq, Repr

/-- The handlers of the list pages and of the Baraka Mall tile. -/
inductive Handler where
  | viewer (b : ViewerButton)
  | contact (b : ContactButton)
  deriving DecidableEq, Repr

/-- The chain of a viewer handler. -/
def ViewerButton.chain : ViewerButton → ViewerChain
  | .offers .offersList => OffersList.offers
  | .offers .resCafeOffersList => ResCafeOffersList.offers
  | .menu => ResCafeOffersList.menu
  | .barakaMall _ => Categories.barakaMall

/-- The field a viewer button is about. -/
def ViewerButton.field : ViewerButton → String
  | .offers _ | .barakaMall _ => "offers"
  | .menu => "menu"

/-- The last size a viewer handler has a branch for. -/
def ViewerButton.bound : ViewerButton → Nat
  | .offers _ => 10
  | .menu => 21
  | .barakaMall _ => 14

/-- The chain of a contact handler. -/
def ContactButton.chain : ContactButton → ContactChain
  | .call .offersList => OffersList.call
  | .call .resCafeOffersList => ResCafeOffersList.call
  | .branches .offersList => OffersList.branches
  | .branches .resCafeOffersList => ResCafeOffersList.branches

/-- The field a contact button is about. -/
def ContactButton.field : ContactButton → String
  | .call _ => "number"
  | .branches _ => "location"

/-- What a press of a dialog button is to do with the text of its value. -/
def ContactButton.action : ContactButton → String → Action
  | .call _, text => .makePhoneCall text
  | .branches _, text => .launcheurl text

/-- The chain of a viewer button reads the field the button is about. -/
theorem viewer_field (b : ViewerButton) : b.chain.field = b.field := by
  cases b with
  | offers page => cases page <;> rfl
  | menu => rfl
  | barakaMall area => rfl

/-- The chain of a contact button reads the field the button is about. -/
theorem contact_field (b : ContactButton) : b.chain.field = b.field := by
  cases b with
  | call page => cases page <;> rfl
  | branches page => cases page <;> rfl

/-- The chain of a contact button does what its button is to do. -/
theorem contact_action (b : ContactButton) : b.chain.action = b.action := by
  cases b with
  | call page => cases page <;> rfl
  | branches page => cases page <;> rfl

/-- Only the call chains act without a dialog. -/
theorem contact_direct (b : ContactButton) : b.chain.direct = true ↔ ∃ page, b = .call page := by
  cases b with
  | call page => exact iff_of_true (by cases page <;> rfl) ⟨page, rfl⟩
  | branches page =>
      refine iff_of_false (fun h => ?_) fun h => ?_
      · cases page <;> exact Bool.false_ne_true h
      · rcases h with ⟨page', h⟩
        exact ContactButton.noConfusion h

theorem viewer_serves_iff (b : ViewerButton) (n : Nat) :
    b.chain.Serves n ↔ 1 ≤ n ∧ n ≤ b.bound := by
  cases b with
  | offers page => cases page <;> exact upTo_serves "offers" 10 n (by omega)
  | barakaMall area => exact upTo_serves "offers" 14 n (by omega)
  | menu =>
      -- The gapless part up to 19, and the two branches after it.
      have h := upTo_serves "menu" 19 n (by omega)
      rw [ViewerChain.Serves] at h ⊢
      simp only [ViewerButton.chain, ResCafeOffersList.menu, List.mem_append, List.mem_cons,
        List.not_mem_nil, or_false, or_and_right, exists_or, exists_eq_left, Branch.regular,
        ViewerButton.bound]
      rw [← or_assoc, h]
      omega

theorem contact_regular (b : ContactButton) : b.chain.Regular := by
  cases b with
  | call page => cases page <;> exact regular_range' _ _ _ _ _ (by omega)
  | branches page => cases page <;> exact regular_range' _ _ _ _ _ (by omega)

theorem contact_serves_iff (b : ContactButton) (n : Nat) :
    b.chain.Serves n ↔ 1 ≤ n ∧ n ≤ 10 := by
  have hmem : ∀ lo k, (∃ d ∈ (List.range' lo k).map DialogBranch.regular, d.size = n) ↔
      lo ≤ n ∧ n < lo + k := by
    intro lo k
    simp only [List.mem_map, exists_exists_and_eq_and, DialogBranch.regular, List.mem_range'_1]
    constructor
    · intro h
      rcases h with ⟨m, hm, rfl⟩
      exact hm
    · intro h
      exact ⟨n, h, rfl⟩
  cases b with
  | call page =>
      cases page <;>
        simp only [ContactChain.Serves, ContactButton.chain, OffersList.call,
          ResCafeOffersList.call, hmem, true_and] <;> omega
  | branches page =>
      cases page <;>
        simp only [ContactChain.Serves, ContactButton.chain, OffersList.branches,
          ResCafeOffersList.branches, hmem, Bool.false_eq_true, false_and, false_or] <;> omega

namespace Handler

/-- What a handler does with a document. `name` is the title of a viewer, and
    `l` the locale in which a dialog is labelled. -/
def respond (h : Handler) (l : Locale) (name : String) (d : Doc) : Option Effect :=
  match h with
  | .viewer b => b.chain.respond name d
  | .contact b => b.chain.respond l d

/-- The last size a handler has a branch for. -/
def bound : Handler → Nat
  | .viewer b => b.bound
  | .contact _ => 10

/-- The size that a handler reads from a document: the length of its field,
    and for a contact handler only the size of a map. -/
def size (h : Handler) (d : Doc) : Option Nat :=
  match h with
  | .viewer b => (d.field b.chain.field).length.toOption
  | .contact b =>
    match d.field b.chain.field with
    | .map es => some es.length
    | _ => none

/-- Whether a handler dials at once for a size, without a dialog. -/
def dials (h : Handler) (n : Nat) : Bool :=
  match h with
  | .viewer _ => false
  | .contact b => b.chain.direct && n == 1

/-- What counts as a response to content of size `n`: a viewer of the field
    under the title, a dialog with a button for each entry, or, for Call, a
    number that is dialled. -/
def IsResponse (h : Handler) (name : String) (d : Doc) (n : Nat) (e : Effect) : Prop :=
  match h with
  | .viewer b =>
    (n = 1 ∧ e = .push (.imageBui (d.field b.field) name)) ∨
      ∃ g : Branch, g.size = n ∧ e = .push (.gridImageList (d.field b.field) g name)
  | .contact (.call _) =>
    (n = 1 ∧ ∃ phoneNumer, e = .act (.makePhoneCall phoneNumer)) ∨
      ∃ buttons, buttons.length = n ∧ e = .dialog buttons
  | .contact (.branches _) => ∃ buttons, buttons.length = n ∧ e = .dialog buttons

end Handler

/-- `event.docs.forEach`: what a handler does with a snapshot. -/
def forEach (h : Handler) (l : Locale) (name : String) (docs : List Doc) : List Effect :=
  docs.filterMap (h.respond l name)

/-- A press on the button of a field is answered: the first snapshot that the
    document is in brings a response. -/
def Handler.Answered (h : Handler) (l : Locale) (name : String) (docs : List Doc) (d : Doc)
    (n : Nat) : Prop :=
  ∃ e, h.respond l name d = some e ∧ e ∈ forEach h l name docs ∧ h.IsResponse name d n e

/-- A handler answers a document exactly when it reads a size from it that
    is not beyond its bound. -/
theorem respond_isSome (h : Handler) (l : Locale) (name : String) (d : Doc) :
    (h.respond l name d).isSome = true ↔ ∃ n, h.size d = some n ∧ 1 ≤ n ∧ n ≤ h.bound := by
  cases h with
  | viewer b =>
      simp only [Handler.respond, viewer_respond_isSome, viewer_serves_iff, Handler.size,
        Handler.bound]
      rcases (d.field b.chain.field).length with e | n
      · simp only [reduceCtorEq, false_and, exists_false, Except.toOption]
      · simp only [Except.ok.injEq, Except.toOption, Option.some.injEq]
  | contact b =>
      simp only [Handler.respond, contact_respond_isSome _ _ _ (contact_regular b),
        contact_serves_iff, Handler.size, Handler.bound]
      rcases d.field b.chain.field with v | xs | es
      · simp only [reduceCtorEq, false_and, exists_false]
      · simp only [reduceCtorEq, false_and, exists_false]
      · simp only [Value.map.injEq, exists_eq_left', Option.some.injEq]

/-- What a handler does at once is a call. -/
theorem respond_isAct (h : Handler) (l : Locale) (name : String) (d : Doc) {e : Effect} {n : Nat}
    (he : h.respond l name d = some e) (hn : h.size d = some n) : e.isAct = h.dials n := by
  cases h with
  | viewer b =>
      rcases viewer_respond_eq_some he with ⟨m, -, ⟨-, rfl⟩ | ⟨c, -, -, rfl⟩⟩
      · rfl
      · rfl
  | contact b =>
      rcases contact_respond_eq_some (contact_regular b) he with ⟨es, hes, -⟩
      rw [Handler.size, hes, Option.some.injEq] at hn
      rw [Handler.respond, contact_respond_map (contact_regular b) hes, hn] at he
      rw [Handler.dials]
      split_ifs at he with hdir hbr
      -- The direct call, and then the dialog, which is not one.
      · rcases Option.map_eq_some_iff.mp he with ⟨v, -, rfl⟩
        rw [hdir.1, hdir.2]
        rfl
      · have hnot : (b.chain.direct && n == 1) = false := by
          rw [Bool.and_eq_false_imp]
          exact fun hdirect => beq_false_of_ne fun h1 => hdir ⟨hdirect, h1⟩
        rw [← Option.some.inj he, hnot]
        rfl

/-- A document with one field. -/
def oneField (name : String) (v : Value) : Doc :=
  ⟨"doc", ⟨[(name, v)], List.nodup_singleton _⟩⟩

theorem oneField_field (name : String) (v : Value) : (oneField name v).field name = v := by
  simp only [oneField, Doc.field, DartMap.lookup, List.lookup_cons_self, Option.getD_some]

end JkbEmpOffers
