import JkbEmpOffers.Handlers
import JkbEmpOffers.Launcher
import JkbEmpOffers.Listing

/-!
# OffersList

The list page of every category but the restaurants: its decoder, its
queries, its list area and its three buttons.

## Main definitions

* `Offerslis1.fromMap`: The decoder; a missing logo is null.
* `getoffer1`, `getoffer2`: The two streams.
* `stream`: The one the search text selects.
* `area`: What the list area shows for a snapshot.
* `offers`, `call`, `branches`: The chains of the buttons.
* `makePhoneCall`: The call itself.
-/

namespace JkbEmpOffers

namespace OffersList

/-- `Offerslis1` of this page: `final String ? logo`. -/
abbrev Offerslis1 := JkbEmpOffers.Offerslis1 (Option String)

/-- `Offerslis1.fromMap` -/
def fromMap (d : Doc) : Except DartError Offerslis1 :=
  JkbEmpOffers.fromMap Value.asStringOrNull d

/-- `Database.getoffer1` -/
def getoffer1 (name : String) : Query :=
  unfilteredRef "order" name

/-- `Database.getoffer2` -/
def getoffer2 (lang : Option String) (name searchstring : String) : Query :=
  searchRef "searchIndexarabic" "searchIndex" lang name searchstring

/-- The `stream` of the `StreamBuilder`. -/
def stream (lang : Option String) (w : OffersArgs) (searchstring : Option String) : Query :=
  streamFor (getoffer1 w.name) (getoffer2 lang w.name) searchstring

/-- What the stream delivers for a snapshot of its query. -/
def event (docs : List Doc) : Except DartError (List Offerslis1) :=
  docs.mapM fromMap

/-- The builder: an error is shown as it is. -/
def builder (l : Locale) (w : OffersArgs) (snapshot : AsyncSnapshot (List Offerslis1)) :
    Except DartError ListArea :=
  listArea DartError.toText id l w snapshot

/-- The list area once a snapshot has been delivered. -/
def area (l : Locale) (w : OffersArgs) (docs : List Doc) : Except DartError ListArea :=
  builder l w (AsyncSnapshot.delivered (event docs))

/-- `onPressed` of Offers. -/
def offers : ViewerChain :=
  ViewerChain.upTo "offers" 10

/-- `onPressed` of Call. -/
def call : ContactChain :=
  { field := "number", action := .makePhoneCall, direct := true
    dialogs := (List.range' 2 9).map DialogBranch.regular }

/-- `onPressed` of Branches. -/
def branches : ContactChain :=
  { field := "location", action := .launcheurl, direct := false
    dialogs := (List.range' 1 10).map DialogBranch.regular }

/-- `_makePhoneCall` launches without asking first. -/
def makePhoneCall (p : Platform) (phoneNumer : String) : Except LaunchError (Option Uri) :=
  .ok (launchUrl p (.make "tel" phoneNumer))

end OffersList

end JkbEmpOffers
