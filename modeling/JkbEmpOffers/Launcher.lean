import JkbEmpOffers.Dart

/-!
# Calls and Links

The two things a contact button can start: a phone call and a link. Both go
through `url_launcher`, and what the device makes of a URI is not the app's
to decide, so a `Platform` is a parameter: which texts parse as a URI, which
URIs it says it can launch, and which it does launch.

The manifest and the property list of the app declare the `tel` scheme, so a
device may be taken to announce the calls that it makes. Nothing of the kind
holds for other schemes, and nothing here needs it but the comparison of the
two list pages, of which only one asks before it calls.

## Main definitions

* `Uri`: A URI, by how the code made it.
* `Platform`: What the device answers.
* `Platform.AnnouncesTel`: It says that it can make the calls that it makes.
* `Platform.phone`: A device that does everything.
* `launchUrl`: The URI that a launch opens, if any.
* `launcheurl`: Opening a link.
-/

namespace JkbEmpOffers

/-- A URI, by how the code made it: `Uri(scheme: …, path: …)` or
    `Uri.parse(text)`. -/
inductive Uri where
  | make (scheme path : String)
  | parse (text : String)
  deriving DecidableEq, Repr

/-- What a launch throws. -/
inductive LaunchError where
  | formatException (text : String)
  | couldNotLaunch (url : Uri)
  deriving DecidableEq, Repr

/-- The device, as `url_launcher` sees it. -/
structure Platform where
  /-- Whether `Uri.parse` accepts the text. -/
  parses : String → Bool
  /-- `canLaunchUrl` -/
  canLaunchUrl : Uri → Bool
  /-- Whether `launchUrl` opens the URI. -/
  opens : Uri → Bool

/-- The `tel` scheme is declared, so a call that can be made is announced. -/
def Platform.AnnouncesTel (p : Platform) : Prop :=
  ∀ path, p.opens (.make "tel" path) = true → p.canLaunchUrl (.make "tel" path) = true

/-- A phone: it parses, announces and opens whatever it is given. -/
def Platform.phone : Platform where
  parses _ := true
  canLaunchUrl _ := true
  opens _ := true

/-- `launchUrl(url)`: the URI that is opened, if the device opens it. -/
def launchUrl (p : Platform) (url : Uri) : Option Uri :=
  if p.opens url then some url else none

/-- `_launcheurl(Uri.parse(text))`, the same on both list pages: the URL is
    opened if the device says it can, and the call throws if not. -/
def launcheurl (p : Platform) (text : String) : Except LaunchError (Option Uri) :=
  if p.parses text then
    if p.canLaunchUrl (.parse text) then .ok (launchUrl p (.parse text))
    else .error (.couldNotLaunch (.parse text))
  else .error (.formatException text)

/-- What was opened, when the call may have thrown instead. -/
def opened (r : Except LaunchError (Option Uri)) : Option Uri :=
  match r with
  | .ok u => u
  | .error _ => none

/-- A launch opens its own URI, if the device opens it. -/
theorem launchUrl_eq_some {p : Platform} {url u : Uri} :
    launchUrl p url = some u ↔ u = url ∧ p.opens u = true := by
  rw [launchUrl]
  by_cases ho : p.opens url = true
  · rw [if_pos ho, Option.some.injEq]
    constructor
    · rintro rfl
      exact ⟨rfl, ho⟩
    · exact fun h => h.1.symm
  · rw [if_neg ho]
    refine iff_of_false (Option.some_ne_none u).symm fun h => ho ?_
    rw [← h.1]
    exact h.2

/-- Opening a link opens that link and nothing else, if the text parses and
    the device says that it can and does. -/
theorem opened_launcheurl {p : Platform} {text : String} {u : Uri} :
    opened (launcheurl p text) = some u ↔
      u = .parse text ∧ p.parses text = true ∧ p.canLaunchUrl u = true ∧ p.opens u = true := by
  rw [launcheurl]
  split_ifs with hparse hcan
  · refine launchUrl_eq_some.trans (and_congr_right fun heq => ?_)
    rw [heq]
    exact (and_iff_right hparse).symm.trans (and_congr_right fun _ => (and_iff_right hcan).symm)
  -- A link that is not announced, and a text that is none, throw.
  · refine iff_of_false (Option.some_ne_none u).symm fun h => hcan ?_
    rw [← h.1]
    exact h.2.2.1
  · exact iff_of_false (Option.some_ne_none u).symm fun h => hparse h.2.1

end JkbEmpOffers
