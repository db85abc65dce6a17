import JkbEmpOffers.Handlers
import JkbEmpOffers.Launcher
import JkbEmpOffers.Listing

/-!
# ResCafeOffersList

The list page of the restaurants and cafes: a copy of `OffersList` with a
menu button. Its record declares `final String logo`, which a document
without a logo does not decode to. It shows any error as one text, and it
asks whether a number can be dialled before it dials. The branch of its menu
chain for 20 images reads index 20 for the last of them, where the list ends
at 19.

## Main definitions

* `Offerslis1.fromMap`: The decoder; a missing logo throws.
* `getoffer1`, `getoffer2`: The two streams.
* `stream`: The one the search text selects.
* `area`: What the list area shows for a snapshot.
* `offers`, `menu`, `call`, `branches`: The chains of the buttons.
* `makePhoneCall`: The call itself.
-/

namespace JkbEmpOffers

namespace ResCafeOffersList

/-- `Offerslis1` of this page: `final String logo`. -/
abbrev Offerslis1 := JkbEmpOffers.Offerslis1 String

/-- `Offerslis1.fromMap` -/
def fromMap (d : Doc) : Except DartError Offerslis1 :=
  JkbEmpOffers.fromMap Value.asString d

/-- `Database.getoffer1` -/
def getoffer1 (name : String) : Query :=
  unfilteredRef "order" name

/-- `Database.getoffer2` -/
def getoffer2 (lang : Option String) (name searchstring : String) : Query :=
  searchRef "searchIndexarabic" "searchIndex" lang name searchstring

/-- The `stream` of the `StreamBuilder`. -/
def stream (lang : Option String) (w : OffersArgs) (searchstring : Option String) : Query :=
  streamFor (getoffer1 w.name) (getoffer2 lang w.name) searchstring

/-- What the stream delivers for a snapshot of its query. -/
def event (docs : List Doc) : Except DartError (List Offerslis1) :=
  docs.mapM fromMap

/-- The builder: any error is shown as `'tryorconn'.tr`. -/
def builder (l : Locale) (w : OffersArgs) (snapshot : AsyncSnapshot (List Offerslis1)) :
    Except DartError ListArea :=
  listArea (fun _ => tr l "tryorconn") some l w snapshot

/-- The list area once a snapshot has been delivered. -/
def area (l : Locale) (w : OffersArgs) (docs : List Doc) : Except DartError ListArea :=
  builder l w (AsyncSnapshot.delivered (event docs))

/-- `onPressed` of Offers. -/
def offers : ViewerChain :=
  ViewerChain.upTo "offers" 10

/-- `onPressed` of Menu: regular branches but for 20, where `img20` is read
    at index 20. -/
def menu : ViewerChain :=
  { field := "menu"
    grids := (ViewerChain.upTo "menu" 19).grids ++
      [⟨20, List.range 19 ++ [20], 20⟩, Branch.regular 21] }

/-- `onPressed` of Call. -/
def call : ContactChain :=
  { field := "number", action := .makePhoneCall, direct := true
    dialogs := (List.range' 2 9).map DialogBranch.regular }

/-- `onPressed` of Branches. -/
def branches : ContactChain :=
  { field := "location", action := .launcheurl, direct := false
    dialogs := (List.range' 1 10).map DialogBranch.regular }

/-- `_makePhoneCall` asks `canLaunchUrl` first and throws if it declines. -/
def makePhoneCall (p : Platform) (phoneNumer : String) : Except LaunchError (Option Uri) :=
  if p.canLaunchUrl (.make "tel" phoneNumer) then .ok (launchUrl p (.make "tel" phoneNumer))
  else .error (.couldNotLaunch (.make "tel" phoneNumer))

end ResCafeOffersList

end JkbEmpOffers
