import JkbEmpOffers.Library.Run
import JkbEmpOffers.Library.Log
import JkbEmpOffers.Library.Traverse
import JkbEmpOffers.Library.Sorting
import JkbEmpOffers.Library.Trace
import JkbEmpOffers.Library.SortedSet
import JkbEmpOffers.Library.Encoding
import JkbEmpOffers.Dart
import JkbEmpOffers.Translations
import JkbEmpOffers.Viewer
import JkbEmpOffers.Firestore
import JkbEmpOffers.Launcher
import JkbEmpOffers.Handlers
import JkbEmpOffers.Listing
import JkbEmpOffers.OffersList
import JkbEmpOffers.ResCafeOffersList
import JkbEmpOffers.Pages
import JkbEmpOffers.Categories
import JkbEmpOffers.Notifications
import JkbEmpOffers.Buttons
import JkbEmpOffers.Images
import JkbEmpOffers.Contacts
import JkbEmpOffers.Agreement
import JkbEmpOffers.Foreground
import JkbEmpOffers.Notes
import JkbEmpOffers.App
import JkbEmpOffers.Moves
import JkbEmpOffers.Gate
import JkbEmpOffers.SearchIndex
import JkbEmpOffers.Blocking
import JkbEmpOffers.Taps
import JkbEmpOffers.RowButtons
import JkbEmpOffers.Tiles
import JkbEmpOffers.HitAreas
import JkbEmpOffers.Isolation
import JkbEmpOffers.SearchResults
import JkbEmpOffers.ListStream
import JkbEmpOffers.UpdateCheck
import JkbEmpOffers.Stacks
import JkbEmpOffers.Maintenance
import JkbEmpOffers.LiveList
import JkbEmpOffers.Catalogue
import JkbEmpOffers.FirestoreCore.Number
import JkbEmpOffers.FirestoreCore.Value
import JkbEmpOffers.FirestoreCore.Document
import JkbEmpOffers.FirestoreCore.Query
import JkbEmpOffers.FirestoreCore.DocumentSet
import JkbEmpOffers.FirestoreCore.ChangeSet
import JkbEmpOffers.FirestoreCore.LocalStore
import JkbEmpOffers.FirestoreCore.View
import JkbEmpOffers.FirestoreCore.Pass
import JkbEmpOffers.FirestoreCore.SyncEngine
import JkbEmpOffers.FirestoreCore.QueryResult
import JkbEmpOffers.FirestoreCore.QuerySnapshot
import JkbEmpOffers.FirestoreCore.QueryListener
import JkbEmpOffers.FirestoreCore.EventManager
import JkbEmpOffers.FirestoreCore.WatchChange
import JkbEmpOffers.FirestoreCore.AppQuery
import JkbEmpOffers.RemoteConfigCore.Settings
import JkbEmpOffers.RemoteConfigCore.Content
import JkbEmpOffers.RemoteConfigCore.Fetch
import JkbEmpOffers.RemoteConfigCore.Throttling
import JkbEmpOffers.RemoteConfigCore.Activation
