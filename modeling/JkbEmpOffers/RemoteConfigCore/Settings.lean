import JkbEmpOffers.RemoteConfigCore.Database
import Mathlib.Tactic.Common
import Mathlib.Tactic.Linarith

/-!
# The Settings of the Remote Config

What the remote config remembers about its fetches, and the questions it asks
before the next one: whether the last good fetch is too recent, and whether
the backend has asked for patience.

Part of it outlives the process. The times of the last good fetch and of the
last new tag, and the tag itself, are kept in the user defaults, at once. The
state of the device and of the last fetch, and the time of the last
activation, are a row of the database: `updateMetadataTable` writes the whole
row, and some setters write through to it if it is there, all of them when the
database comes to it. The rest is lost, with it the interval of the
exponential backoff.

Times are rational numbers here, of seconds. A `double` in the source rounds
them.

## Main definitions

* `UserDefaults`: What is kept at once.
* `Settings`: All of it, with the database.
* `Settings.metadataTable`: The row once all writes have run.
* `Settings.load`: Starting again.
* `Settings.hasMinimumFetchIntervalElapsed`, `Settings.shouldThrottle`: The
  questions.
* `Settings.updateExponentialBackoffTime`: Waiting longer.
* `Settings.updateMetadataWithFetchSuccessStatus`: A fetch has come to an end.

## Theorems

* `metadataTable_setLastFetchError`, `metadataTable_setLastApplyTimeInterval`,
  `metadataTable_updateMetadata`: What the setters write.
-/

namespace JkbEmpOffers

namespace RemoteConfigCore

/-- `FIRRemoteConfigHasDeviceContextChanged`, of the stored context, which is
    empty before the first good fetch, and of the device as it is. -/
def hasDeviceContextChanged (deviceContext : Option DeviceContext) (device : DeviceContext) :
    Bool :=
  match deviceContext with
  | none => true
  | some c =>
    c.version ≠ device.version || c.build ≠ device.build || c.osVersion ≠ device.osVersion ||
      c.deviceLocale ≠ device.deviceLocale ||
      -- The project id is optional.
      (c.gmpProjectIdentifier.isSome && c.gmpProjectIdentifier ≠ device.gmpProjectIdentifier)

/-- `RCNUserDefaultsManager`; a time that is not set reads 0. -/
structure UserDefaults where
  lastETag : Option String := none
  lastETagUpdateTime : NSTimeInterval := 0
  lastFetchTime : NSTimeInterval := 0
  deriving DecidableEq

/-- `RCNDefaultMinimumFetchInterval` -/
def defaultMinimumFetchInterval : NSTimeInterval := 43200

/-- `kRCNExponentialBackoffMinimumInterval` -/
def exponentialBackoffMinimumInterval : NSTimeInterval := 60 * 2

/-- `kRCNExponentialBackoffMaximumInterval` -/
def exponentialBackoffMaximumInterval : NSTimeInterval := 60 * 60 * 4

/-- `RCNConfigSettings` -/
structure Settings where
  userDefaults : UserDefaults := {}
  dbManager : DBManager := .empty
  metadata : Metadata := {}
  isFetchInProgress : Bool := false
  minimumFetchInterval : NSTimeInterval := defaultMinimumFetchInterval
  exponentialBackoffRetryInterval : NSTimeInterval := 0
  exponentialBackoffThrottleEndTime : NSTimeInterval := 0

namespace Settings

/-- A new process finds the user defaults, and the table as far as it has been
    written. -/
def load (s : Settings) : Settings :=
  { userDefaults := s.userDefaults, dbManager := s.dbManager.reopen
    metadata := s.dbManager.database.metadataTable.getD {} }

/-- Writes to the database are asked for. -/
def write (s : Settings) (operations : List DatabaseOperation) : Settings :=
  { s with dbManager := s.dbManager.dispatch operations }

/-- The row of the metadata table once all writes have run, if there is one. -/
def metadataTable (s : Settings) : Option Metadata :=
  s.dbManager.settled.metadataTable

/-- `lastFetchTimeInterval` -/
def lastFetchTimeInterval (s : Settings) : NSTimeInterval :=
  s.userDefaults.lastFetchTime

/-- `setLastETag`: a tag that is nil changes the time alone, and a time of 0
    is not set. -/
def setLastETag (s : Settings) (now : NSTimeInterval) (lastETag : Option String) : Settings :=
  { s with userDefaults :=
    { s.userDefaults with
      lastETagUpdateTime := if now = 0 then s.userDefaults.lastETagUpdateTime else now
      lastETag := lastETag.or s.userDefaults.lastETag } }

/-- `setMinimumFetchInterval` -/
def setMinimumFetchInterval (s : Settings) (minimumFetchInterval : NSTimeInterval) : Settings :=
  { s with minimumFetchInterval := if minimumFetchInterval < 0 then 0 else minimumFetchInterval }

/-- `setLastFetchError`: a new error is written to the row with the status. -/
def setLastFetchError (s : Settings) (lastFetchError : ConfigError) : Settings :=
  if s.metadata.lastFetchError ≠ lastFetchError then
    { s with metadata := { s.metadata with lastFetchError } }.write
      [.updateFetchStatus s.metadata.lastFetchStatus lastFetchError]
  else s

/-- `setLastApplyTimeInterval` -/
def setLastApplyTimeInterval (s : Settings) (lastApplyTimestamp : NSTimeInterval) : Settings :=
  { s with metadata := { s.metadata with lastApplyTimeInterval := lastApplyTimestamp } }.write
    [.updateApplyTime lastApplyTimestamp]

/-- `lastFetchStatus` is set. -/
def setLastFetchStatus (s : Settings) (lastFetchStatus : FetchStatus) : Settings :=
  { s with metadata := { s.metadata with lastFetchStatus } }

/-- `hasMinimumFetchIntervalElapsed` -/
def hasMinimumFetchIntervalElapsed (s : Settings) (now minimumFetchInterval : NSTimeInterval) :
    Bool :=
  s.lastFetchTimeInterval = 0 || minimumFetchInterval < now - s.lastFetchTimeInterval

/-- `shouldThrottle` -/
def shouldThrottle (s : Settings) (now : NSTimeInterval) : Bool :=
  0 < s.lastFetchTimeInterval && s.metadata.lastFetchStatus ≠ .success &&
    0 < s.exponentialBackoffThrottleEndTime - now

/-- `updateExponentialBackoffTime`, with what `arc4random` says. -/
def updateExponentialBackoffTime (s : Settings) (now : NSTimeInterval) (plus : Bool) : Settings :=
  let retryInterval :=
    if s.metadata.lastFetchStatus = .success then exponentialBackoffMinimumInterval
    else if s.exponentialBackoffRetryInterval * 2 < exponentialBackoffMaximumInterval then
      s.exponentialBackoffRetryInterval * 2
    else s.exponentialBackoffRetryInterval
  let randomPlusMinusInterval : NSTimeInterval := if plus then 1 else -1
  { s with
    exponentialBackoffRetryInterval := retryInterval
    exponentialBackoffThrottleEndTime :=
      now + (retryInterval + 0.5 * retryInterval * randomPlusMinusInterval) }

/-- `updateMetadataWithFetchSuccessStatus`, on a device. -/
def updateMetadataWithFetchSuccessStatus (s : Settings) (now : NSTimeInterval)
    (device : DeviceContext) (fetchSuccess : Bool) : Settings :=
  let metadata : Metadata :=
    { s.metadata with
      deviceContext := if fetchSuccess then some device else s.metadata.deviceContext
      lastFetchStatus := if fetchSuccess then .success else .failure
      lastFetchError := if fetchSuccess then .unknown else .internalError }
  -- `updateMetadataTable` writes all of it.
  { s with
    userDefaults :=
      { s.userDefaults with
        lastFetchTime := if fetchSuccess then now else s.userDefaults.lastFetchTime }
    metadata }.write [.deleteMetadata, .insertMetadata metadata]

/-- A new error is written to the row, if there is one. -/
theorem metadataTable_setLastFetchError (s : Settings) {lastFetchError : ConfigError}
    (h : s.metadata.lastFetchError ≠ lastFetchError) :
    (s.setLastFetchError lastFetchError).metadataTable = s.metadataTable.map fun row =>
      { row with lastFetchStatus := s.metadata.lastFetchStatus, lastFetchError } := by
  rw [setLastFetchError, if_pos h, metadataTable, write, DBManager.settled_dispatch]
  rfl

theorem metadataTable_setLastApplyTimeInterval (s : Settings)
    (lastApplyTimestamp : NSTimeInterval) :
    (s.setLastApplyTimeInterval lastApplyTimestamp).metadataTable
      = s.metadataTable.map fun row =>
          { row with lastApplyTimeInterval := lastApplyTimestamp } := by
  rw [setLastApplyTimeInterval, metadataTable, write, DBManager.settled_dispatch]
  rfl

/-- The end of a fetch replaces the row. -/
theorem metadataTable_updateMetadata (s : Settings) (now : NSTimeInterval)
    (device : DeviceContext) (fetchSuccess : Bool) :
    (s.updateMetadataWithFetchSuccessStatus now device fetchSuccess).metadataTable
      = some (s.updateMetadataWithFetchSuccessStatus now device fetchSuccess).metadata := by
  rw [updateMetadataWithFetchSuccessStatus, metadataTable, write, DBManager.settled_dispatch]
  rfl

end Settings

end RemoteConfigCore

end JkbEmpOffers
