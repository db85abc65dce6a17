import JkbEmpOffers.RemoteConfigCore.Content
import JkbEmpOffers.RemoteConfigCore.Settings

/-!
# Fetching and Activating

A fetch goes through several hands. Everything that touches the settings or
the configs is a block on one serial queue. Between the blocks the fetch
waits for a token of the installation and then for the response of the
backend, which come when they come, and its end is reported on the main queue,
where `fetchAndActivate` goes on with the activation. The app may call again
meanwhile, the database has a serial queue of its own, which takes its time,
and the process may end at any time.

`RemoteConfig` is all of this with what is under way: the blocks that are
queued, the writes that are queued, the fetches that wait, and the ends that
have been reported and not yet heard. A step is one event of the environment,
one block or one write. Steps that have nothing to act on leave the state as
it is.

The log is not in the source. It says what has happened and when.

## Main definitions

* `Response`: What the backend may answer.
* `Block`: What can be on the serial queue.
* `Output`: What goes into the log.
* `RemoteConfig`: The state, with all that is under way.
* `RemoteConfig.runBlock`: A block of each kind.
* `Event`, `RemoteConfig.step`: What may happen.
* `RemoteConfig.installed`: Before the first launch.
-/

namespace JkbEmpOffers

namespace RemoteConfigCore

/-- The data of a response, as far as it goes: none, not JSON, an error of the
    server, or a config. -/
inductive Body where
  | noData
  | unparsable
  | serverError
  | config (state : Option String) (entries : Option Config)

/-- What a session task comes back with; the status of no response is 0. -/
structure Response where
  error : Bool
  statusCode : Int
  eTag : Option String
  body : Body

/-- `FIRRemoteConfigFetchAndActivateStatus` -/
inductive FetchAndActivateStatus where
  | successFetchedFromRemote
  | successUsingPreFetchedData
  | error
  deriving DecidableEq

/-- A block of the serial queue. -/
inductive Block where
  /-- Of `setDefaults`. -/
  | setDefaults (defaults : Defaults)
  /-- Of `setConfigSettings`. -/
  | setConfigSettings (minimumFetchInterval : NSTimeInterval)
  /-- Of `fetchWithCompletionHandler`. -/
  | fetch
  /-- Of `fetchConfigWithExpirationDuration`. -/
  | fetchConfig (expirationDuration : NSTimeInterval) (hasDeviceContextChanged : Bool)
  /-- Of the handler of the installation id, with whether there is one. -/
  | installations (identifier : Bool)
  /-- Of `doFetchCall`. -/
  | fetchWithUserProperties
  /-- Of the handler of a response. -/
  | response (response : Response)
  /-- Of `activateWithCompletion`. -/
  | activate

/-- What has happened. -/
inductive Output where
  /-- A fetch has asked for a token. -/
  | started (now expirationDuration : NSTimeInterval) (hasDeviceContextChanged : Bool)
  /-- A response has been accepted. -/
  | fetched (now : NSTimeInterval)
  /-- The end of a fetch has been reported. -/
  | reported (status : FetchStatus) (error : Option ConfigError)
  /-- An activation has come to an end, with the last tag and the active
      config. -/
  | activated (lastETag : Option String) (activeConfig : Config)
  /-- A call of `fetchAndActivate` has come to an end. -/
  | finished (status : FetchAndActivateStatus) (error : Option ConfigError)

/-- `FIRRemoteConfig` with `RCNConfigFetch` and all that is under way. -/
structure RemoteConfig where
  device : DeviceContext
  settings : Settings
  content : ConfigContent
  queue : List Block
  /-- The fetches that wait for a token. -/
  tokens : Nat
  /-- The requests that wait for a response, with their `If-None-Match`. -/
  requests : List (Option String)
  /-- What has been reported on the main queue. -/
  completions : List (FetchStatus × Option ConfigError)
  log : List Output

namespace RemoteConfig

/-- `dispatch_async` -/
def dispatch (s : RemoteConfig) (block : Block) : RemoteConfig :=
  { s with queue := s.queue ++ [block] }

/-- Something for the log. -/
def write (s : RemoteConfig) (output : Output) : RemoteConfig :=
  { s with log := s.log ++ [output] }

/-- `reportCompletionOnHandler` -/
def reportCompletion (s : RemoteConfig) (status : FetchStatus) (error : Option ConfigError) :
    RemoteConfig :=
  { s with completions := s.completions ++ [(status, error)] }.write (.reported status error)

/-- The new configs, and their writes. -/
def setContent (s : RemoteConfig) (content : ConfigContent × List DatabaseOperation) :
    RemoteConfig :=
  { s with content := content.1, settings := s.settings.write content.2 }

/-- `isFetchInProgress` is set. -/
def setFetchInProgress (s : RemoteConfig) (isFetchInProgress : Bool) : RemoteConfig :=
  { s with settings := { s.settings with isFetchInProgress } }

/-- A fetch that the settings refuse. -/
def reportThrottled (s : RemoteConfig) : RemoteConfig :=
  { s with settings := (s.settings.setLastFetchStatus .throttled).setLastFetchError .throttled
    }.reportCompletion .throttled (some .throttled)

/-- The block of `fetchConfigWithExpirationDuration`. -/
def fetchConfig (s : RemoteConfig) (now expirationDuration : NSTimeInterval)
    (hasDeviceContextChanged : Bool) : RemoteConfig :=
  if !s.settings.hasMinimumFetchIntervalElapsed now expirationDuration &&
      !hasDeviceContextChanged then
    s.reportCompletion .success none
  else if s.settings.isFetchInProgress then
    if 0 < s.settings.lastFetchTimeInterval then
      s.reportCompletion s.settings.metadata.lastFetchStatus none
    else s.reportCompletion .failure none
  else if s.settings.shouldThrottle now && !hasDeviceContextChanged then s.reportThrottled
  else
    -- `refreshInstallationsTokenWithFetchHeader`
    { s.setFetchInProgress true with tokens := s.tokens + 1 }.write
      (.started now expirationDuration hasDeviceContextChanged)

/-- The block of a response that is an error or not 200. -/
def handleFailure (s : RemoteConfig) (now : NSTimeInterval) (plus : Bool) (r : Response) :
    RemoteConfig :=
  let settings := s.settings.updateMetadataWithFetchSuccessStatus now s.device false
  let backsOff := r.statusCode = 429 ∨ r.statusCode = 500 ∨ r.statusCode = 503 ∨ r.statusCode = 504
  let settings := if backsOff then settings.updateExponentialBackoffTime now plus else settings
  if backsOff ∧ settings.shouldThrottle now then { s with settings }.reportThrottled
  else
    { s with settings := (settings.setLastFetchStatus .failure).setLastFetchError .internalError
      }.reportCompletion .failure (some .internalError)

/-- A good response, from the tag on. -/
def acceptResponse (s : RemoteConfig) (now : NSTimeInterval) (latestETag : Option String) :
    RemoteConfig :=
  let settings :=
    if s.settings.userDefaults.lastETag = none ∨ s.settings.userDefaults.lastETag ≠ latestETag then
      s.settings.setLastETag now latestETag
    else s.settings
  ({ s with settings := settings.updateMetadataWithFetchSuccessStatus now s.device true }.write
    (.fetched now)).reportCompletion .success none

/-- The block of a response. -/
def handleResponse (s : RemoteConfig) (now : NSTimeInterval) (plus : Bool) (r : Response) :
    RemoteConfig :=
  if r.error ∨ r.statusCode ≠ 200 then s.handleFailure now plus r
  else
    match r.body with
    | .noData => s.reportCompletion .success none
    | .serverError => s.reportCompletion .failure (some .internalError)
    -- `Empty response with no fetched config.`
    | .unparsable => s.acceptResponse now r.eTag
    | .config state entries =>
      (s.setContent (s.content.updateConfigContentWithResponse state entries)).acceptResponse now
        r.eTag

/-- The block of `activateWithCompletion`. -/
def activate (s : RemoteConfig) (now : NSTimeInterval) : RemoteConfig :=
  let lastETagUpdateTime := s.settings.userDefaults.lastETagUpdateTime
  let s :=
    if lastETagUpdateTime = 0 ∨ lastETagUpdateTime ≤ s.settings.metadata.lastApplyTimeInterval then
      -- `Most recently fetched config is already activated.`
      s
    else
      let s := s.setContent s.content.activate
      { s with settings := s.settings.setLastApplyTimeInterval now }
  (s.write (.activated s.settings.userDefaults.lastETag s.content.activeConfig)).write
    (.finished .successFetchedFromRemote none)

/-- One block. -/
def runBlock (s : RemoteConfig) (now : NSTimeInterval) (plus : Bool) : Block → RemoteConfig
  | .setDefaults defaults => s.setContent (s.content.setDefaults defaults)
  | .setConfigSettings minimumFetchInterval =>
    { s with settings := s.settings.setMinimumFetchInterval minimumFetchInterval }
  | .fetch =>
    s.dispatch (.fetchConfig s.settings.minimumFetchInterval
      (hasDeviceContextChanged s.settings.metadata.deviceContext s.device))
  | .fetchConfig expirationDuration changed => s.fetchConfig now expirationDuration changed
  | .installations identifier =>
    if identifier then s.dispatch .fetchWithUserProperties
    else (s.setFetchInProgress false).reportCompletion .failure (some .internalError)
  | .fetchWithUserProperties =>
    { s with requests := s.requests ++ [s.settings.userDefaults.lastETag] }
  | .response r => s.handleResponse now plus r
  | .activate => s.activate now

end RemoteConfig

/-- What may happen: the app calls, the queue runs a block, the installations
    answer with a token and an id, with a token alone or with neither, the
    backend answers a request, the main queue hears of an end, the database runs
    a write, or the process ends and is started again, on a device that may have
    changed. -/
inductive Event where
  | setDefaults (defaults : Defaults)
  | setConfigSettings (minimumFetchInterval : NSTimeInterval)
  | fetchAndActivate
  | run (now : NSTimeInterval) (plus : Bool)
  | token (token identifier : Bool)
  | respond (i : Nat) (response : Response)
  | complete
  | database
  | restart (device : DeviceContext)

namespace RemoteConfig

/-- What the handler of `fetchAndActivate` makes of the end of a fetch. -/
def complete (s : RemoteConfig) : RemoteConfig :=
  match s.completions with
  | [] => s
  | (status, error) :: completions =>
    let s := { s with completions }
    if status = .success ∧ error = none then s.dispatch .activate
    else
      s.write (.finished (if status = .success then .successUsingPreFetchedData else .error) error)

/-- One event. -/
def step (s : RemoteConfig) : Event → RemoteConfig
  | .setDefaults defaults => s.dispatch (.setDefaults defaults)
  | .setConfigSettings minimumFetchInterval => s.dispatch (.setConfigSettings minimumFetchInterval)
  | .fetchAndActivate => s.dispatch .fetch
  | .run now plus =>
    match s.queue with
    | [] => s
    | block :: queue => { s with queue }.runBlock now plus block
  | .token token identifier =>
    match s.tokens with
    | 0 => s
    | tokens + 1 =>
      let s := { s with tokens }
      if token then s.dispatch (.installations identifier)
      else (s.setFetchInProgress false).reportCompletion .failure (some .internalError)
  | .respond i r =>
    if i < s.requests.length then
      -- `The fetch has completed.`
      ({ s with requests := s.requests.eraseIdx i }.setFetchInProgress false).dispatch (.response r)
    else s
  | .complete => s.complete
  | .database =>
    { s with settings := { s.settings with dbManager := s.settings.dbManager.runOperation } }
  | .restart device =>
    { device, settings := s.settings.load, content := .load s.settings.dbManager.database
      queue := [], tokens := 0, requests := [], completions := [], log := s.log }

/-- Before the first launch. -/
def installed (device : DeviceContext) : RemoteConfig where
  device
  settings := {}
  content := .empty
  queue := []
  tokens := 0
  requests := []
  completions := []
  log := []

end RemoteConfig

/-- The time of an event, if it is a block that is run. -/
def Event.time : Event → Option NSTimeInterval
  | .run now _ => some now
  | _ => none

end RemoteConfigCore

end JkbEmpOffers
