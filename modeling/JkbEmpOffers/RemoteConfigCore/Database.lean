import JkbEmpOffers.Library.SortedSet
import Mathlib.Algebra.Order.Field.Rat
import Mathlib.Data.String.Basic
import Mathlib.Logic.Function.Basic

/-!
# The Database of the Remote Config

The three configs are tables, and what is remembered of the device, of the
last fetch and of the last activation is a row of another one. Nobody waits
for a write: it is put on the serial queue of the database manager, and runs
some time later. A process that ends takes with it what has not run by then,
and the next one reads the tables as they are.

So there are two databases to speak of: `database`, which is what a new
process would find now, and `settled`, which is what is left once the queue
is empty. Running an operation moves the first towards the second.

## Main definitions

* `Config`: Values under keys.
* `Metadata`: The row of the metadata table.
* `Database`: The tables.
* `DatabaseOperation`, `Database.execute`: A write.
* `DBManager`: The tables with the writes that are under way.
* `DBManager.settled`: The tables once all of them have run.

## Theorems

* `settled_dispatch`, `settled_runOperation`: What writes come to.
* `foldl_insertAll`: What a table has after all the inserts of a copy.
-/

namespace JkbEmpOffers

namespace RemoteConfigCore

/-- `NSTimeInterval`, in seconds. -/
abbrev NSTimeInterval := Rat

/-- The config of a namespace; a value is the text of its data. -/
abbrev Config := SortedMap (compare : String → String → Ordering) String

/-- `FIRRemoteConfigFetchStatus` -/
inductive FetchStatus where
  | noFetchYet
  | success
  | failure
  | throttled
  deriving DecidableEq

/-- `FIRRemoteConfigError` -/
inductive ConfigError where
  | unknown
  | throttled
  | internalError
  deriving DecidableEq

/-- The dictionary of `FIRRemoteConfigDeviceContextWithProjectIdentifier`. -/
structure DeviceContext where
  version : String
  build : String
  osVersion : String
  deviceLocale : String
  gmpProjectIdentifier : Option String
  deriving DecidableEq

/-- The row of the metadata table, and what is in memory of it. -/
structure Metadata where
  deviceContext : Option DeviceContext := none
  lastFetchStatus : FetchStatus := .noFetchYet
  lastFetchError : ConfigError := .unknown
  lastApplyTimeInterval : NSTimeInterval := 0
  deriving DecidableEq

/-- `RCNDBSource` -/
inductive DBSource where
  | fetched
  | active
  | default
  deriving DecidableEq

/-- The tables: the first row of the metadata, and the main tables. -/
structure Database where
  metadataTable : Option Metadata
  mainTable : DBSource → Config

/-- A block of `_databaseOperationQueue`. -/
inductive DatabaseOperation where
  /-- Of `deleteRecordWithBundleIdentifier`. -/
  | deleteMetadata
  /-- Of `insertMetadataTableWithValues`. -/
  | insertMetadata (row : Metadata)
  /-- Of `updateMetadataWithOption`, with `RCNUpdateOptionFetchStatus`. -/
  | updateFetchStatus (lastFetchStatus : FetchStatus) (lastFetchError : ConfigError)
  /-- Of `updateMetadataWithOption`, with `RCNUpdateOptionApplyTime`. -/
  | updateApplyTime (lastApplyTimestamp : NSTimeInterval)
  /-- Of `deleteRecordFromMainTableWithNamespace`. -/
  | deleteMain (source : DBSource)
  /-- Of `insertMainTableWithValues`. -/
  | insertMain (source : DBSource) (key value : String)

namespace Database

/-- A new database. -/
def empty : Database := ⟨none, fun _ => SortedMap.empty⟩

/-- One write. An update changes nothing where there is no row. -/
def execute (db : Database) : DatabaseOperation → Database
  | .deleteMetadata => { db with metadataTable := none }
  -- The row that is read later is the first one.
  | .insertMetadata row => { db with metadataTable := db.metadataTable.or (some row) }
  | .updateFetchStatus lastFetchStatus lastFetchError =>
    { db with
      metadataTable :=
        db.metadataTable.map fun row => { row with lastFetchStatus, lastFetchError } }
  | .updateApplyTime lastApplyTimestamp =>
    { db with
      metadataTable := db.metadataTable.map fun row =>
        { row with lastApplyTimeInterval := lastApplyTimestamp } }
  | .deleteMain source =>
    { db with mainTable := Function.update db.mainTable source SortedMap.empty }
  | .insertMain source key value =>
    { db with
      mainTable :=
        Function.update db.mainTable source ((db.mainTable source).insert key value) }

end Database

/-- The inserts of a copy into a table, in an order that the source leaves to
    the dictionary. -/
def insertAll (source : DBSource) (entries : List (String × String)) : List DatabaseOperation :=
  (entries.map fun e => .insertMain source e.1 e.2).reverse

/-- A table with all of these entries. -/
def addAll (config : Config) (entries : List (String × String)) : Config :=
  entries.foldr (fun e config => config.insert e.1 e.2) config

/-- What a table has after all the inserts of a copy. -/
theorem foldl_insertAll (source : DBSource) (entries : List (String × String)) (db : Database) :
    (insertAll source entries).foldl Database.execute db
      = { db with
          mainTable :=
            Function.update db.mainTable source (addAll (db.mainTable source) entries) } := by
  rw [insertAll, List.foldl_reverse, List.foldr_map]
  induction entries with
  | nil => rw [List.foldr_nil, addAll, List.foldr_nil, Function.update_eq_self]
  | cons e entries ih =>
      rw [List.foldr_cons, ih, Database.execute]
      simp only [Function.update_self, Function.update_idem]
      rfl

/-- `RCNConfigDBManager`: the tables, and the writes that have yet to run. -/
structure DBManager where
  database : Database
  databaseOperationQueue : List DatabaseOperation

namespace DBManager

/-- A new database. -/
def empty : DBManager := ⟨.empty, []⟩

/-- Writes are asked for, one after the other. -/
def dispatch (m : DBManager) (operations : List DatabaseOperation) : DBManager :=
  { m with databaseOperationQueue := m.databaseOperationQueue ++ operations }

/-- The queue runs one write. -/
def runOperation (m : DBManager) : DBManager :=
  match m.databaseOperationQueue with
  | [] => m
  | operation :: operations => ⟨m.database.execute operation, operations⟩

/-- A new process: what has not run is lost. -/
def reopen (m : DBManager) : DBManager := ⟨m.database, []⟩

/-- The tables once all writes have run. -/
def settled (m : DBManager) : Database :=
  m.databaseOperationQueue.foldl Database.execute m.database

@[simp] theorem settled_dispatch (m : DBManager) (operations : List DatabaseOperation) :
    (m.dispatch operations).settled = operations.foldl Database.execute m.settled :=
  List.foldl_append

@[simp] theorem settled_runOperation (m : DBManager) : m.runOperation.settled = m.settled := by
  rw [runOperation, settled, settled]
  split
  · rfl
  · rename_i operation operations hqueue
    rw [hqueue, List.foldl_cons]

/-- Nothing is lost where nothing is under way. -/
theorem database_eq_settled {m : DBManager} (h : m.databaseOperationQueue = []) :
    m.database = m.settled := by
  rw [settled, h, List.foldl_nil]

end DBManager

end RemoteConfigCore

end JkbEmpOffers
