import JkbEmpOffers.RemoteConfigCore.Fetch
import JkbEmpOffers.Library.Run

/-!
# How Often It Fetches

Two things keep the remote config from asking the backend too often: the
minimum fetch interval, and an exponential backoff that starts when the
backend is overloaded. Only the first of them works.

The backoff is to start at two minutes when the fetch before was a success,
and to double from then on. But `updateMetadataWithFetchSuccessStatus` has
noted the failure before `updateExponentialBackoffTime` asks about the fetch
before, so it never starts. The interval is 0, twice that is 0, and what is
waited for is over at once. As long as the clock does not go back, no fetch
is ever refused.

The interval is kept from the last good fetch on, also over the end of the
process, unless the device has changed.

A process may end before its writes have run, so what the next one finds may
be older than what was remembered. Neither result minds. No write ever was of
a refusal, and the time of the last good fetch is in the user defaults.

Each result is one invariant, `Calm` and `Kept`, which is indexed by the time
of the last block. An event that reads no clock keeps it at that time, and a
block takes it to its own, which is not before: this is `Run.run_of_clock`.
`Calm` has to speak of the writes that are under way as well as of the rows,
since a process may end before any of them, and the next one reads its status
from the table. `Kept` needs neither, and so is the shorter one.

## Main definitions

* `DBManager.Unthrottled`: No refusal is stored, or about to be.
* `Settings.Unthrottled`: Nothing is waited for.
* `Output.Throttled`: A fetch was refused, or an end says so.
* `RemoteConfig.Calm`: The invariant of the backoff.
* `Spaced`: A fetch keeps the interval from those before it.
* `RemoteConfig.Kept`: The invariant of the interval.
* `Clock`: The clock does not go back.

## Theorems

* `unthrottled_backoff`: The backoff does not start.
* `never_throttled`: No fetch is refused.
* `fetches_spaced`: The interval is kept.
-/

namespace JkbEmpOffers

namespace RemoteConfigCore

/-- A write that remembers no refusal. -/
def DatabaseOperation.Unthrottled : DatabaseOperation → Prop
  | .insertMetadata row => row.lastFetchStatus ≠ .throttled
  | .updateFetchStatus lastFetchStatus _ => lastFetchStatus ≠ .throttled
  | _ => True

namespace DBManager

/-- No refusal is stored, and no write that is under way is of one. -/
structure Unthrottled (m : DBManager) : Prop where
  stored : ∀ row ∈ m.database.metadataTable, row.lastFetchStatus ≠ .throttled
  queued : ∀ o ∈ m.databaseOperationQueue, o.Unthrottled

variable {m : DBManager} {operations : List DatabaseOperation}

/-- A write leaves a row that was there, or one that it brings. -/
theorem unthrottled_execute {db : Database} {o : DatabaseOperation}
    (h : ∀ row ∈ db.metadataTable, row.lastFetchStatus ≠ .throttled) (ho : o.Unthrottled) :
    ∀ row ∈ (db.execute o).metadataTable, row.lastFetchStatus ≠ .throttled := by
  intro row hrow
  rw [Option.mem_def] at hrow
  cases o with
  | deleteMetadata => exact absurd hrow.symm (Option.some_ne_none row)
  | insertMetadata row' =>
      rcases Option.or_eq_some_iff.mp hrow with hold | ⟨-, hnew⟩
      · exact h row hold
      · exact Option.some.inj hnew ▸ ho
  | updateFetchStatus lastFetchStatus lastFetchError =>
      rcases Option.map_eq_some_iff.mp hrow with ⟨_, -, rfl⟩
      exact ho
  | updateApplyTime lastApplyTimestamp =>
      rcases Option.map_eq_some_iff.mp hrow with ⟨row', hold, rfl⟩
      exact h row' hold
  | deleteMain source => exact h row hrow
  | insertMain source key value => exact h row hrow

/-- New writes are put behind those that are under way. -/
theorem unthrottled_dispatch (h : m.Unthrottled) (ho : ∀ o ∈ operations, o.Unthrottled) :
    (m.dispatch operations).Unthrottled :=
  ⟨h.stored, fun o hmem => (List.mem_append.mp hmem).elim (h.queued o) (ho o)⟩

/-- And the first of them is run. -/
theorem unthrottled_runOperation (h : m.Unthrottled) : m.runOperation.Unthrottled := by
  rw [runOperation]
  split
  · exact h
  · rename_i operation operations hqueue
    have hqueued := h.queued
    rw [hqueue, List.forall_mem_cons] at hqueued
    exact ⟨unthrottled_execute h.stored hqueued.1, hqueued.2⟩

/-- What is lost does not matter. -/
theorem unthrottled_reopen (h : m.Unthrottled) : m.reopen.Unthrottled :=
  ⟨h.stored, fun _ hmem => absurd hmem List.not_mem_nil⟩

end DBManager

namespace ConfigContent

/-- The copies write to the main tables alone. -/
theorem unthrottled_replace (source : DBSource) (entries : List (String × String)) :
    ∀ o ∈ DatabaseOperation.deleteMain source :: insertAll source entries, o.Unthrottled := by
  refine List.forall_mem_cons.mpr ⟨trivial, fun o ho => ?_⟩
  rw [insertAll, List.mem_reverse] at ho
  rcases List.mem_map.mp ho with ⟨e, -, rfl⟩
  trivial

/-- And so does a response, whatever its state. -/
theorem unthrottled_update (c : ConfigContent) (state : Option String) (entries : Option Config) :
    ∀ o ∈ (c.updateConfigContentWithResponse state entries).2, o.Unthrottled := by
  have hnone : ∀ o ∈ ([] : List DatabaseOperation), o.Unthrottled :=
    fun _ ho => absurd ho List.not_mem_nil
  cases state with
  | none => exact hnone
  | some state =>
      rw [updateConfigContentWithResponse]
      split_ifs
      · exact hnone
      · exact List.forall_mem_singleton.mpr trivial
      · exact List.forall_mem_singleton.mpr trivial
      · exact unthrottled_replace .fetched _
      · exact hnone

end ConfigContent

namespace Settings

/-- From a time on nothing is waited for, and no refusal is remembered. -/
structure Unthrottled (t : NSTimeInterval) (s : Settings) : Prop where
  retryInterval : s.exponentialBackoffRetryInterval = 0
  endTime : s.exponentialBackoffThrottleEndTime ≤ t
  status : s.metadata.lastFetchStatus ≠ .throttled
  stored : s.dbManager.Unthrottled

section

variable {s : Settings} {t now : NSTimeInterval} {status : FetchStatus} {error : ConfigError}

/-- Nothing becomes of it later. -/
theorem Unthrottled.mono (h : Unthrottled t s) (hle : t ≤ now) : Unthrottled now s :=
  ⟨h.retryInterval, h.endTime.trans hle, h.status, h.stored⟩

/-- What is waited for is over, so no fetch has to. -/
theorem shouldThrottle_eq_false (h : Unthrottled now s) : s.shouldThrottle now = false := by
  have hend : decide (0 < s.exponentialBackoffThrottleEndTime - now) = false :=
    decide_eq_false (not_lt.mpr (sub_nonpos.mpr h.endTime))
  rw [shouldThrottle, hend, Bool.and_false]

/-- A new process finds no refusal, whatever has been written by then. -/
theorem unthrottled_load (h : Unthrottled t s) (ht : 0 ≤ t) : Unthrottled t s.load := by
  refine ⟨rfl, ht, ?_, DBManager.unthrottled_reopen h.stored⟩
  rcases hrow : s.dbManager.database.metadataTable with _ | row
  · simp only [load, hrow, Option.getD_none, ne_eq, reduceCtorEq, not_false_eq_true]
  · simp only [load, hrow, Option.getD_some]
    exact h.stored.stored row (Option.mem_def.mpr hrow)

/-- A write of the settings or of the configs. -/
theorem unthrottled_write (h : Unthrottled t s) {operations : List DatabaseOperation}
    (ho : ∀ o ∈ operations, o.Unthrottled) : Unthrottled t (s.write operations) :=
  ⟨h.retryInterval, h.endTime, h.status, DBManager.unthrottled_dispatch h.stored ho⟩

/-- The setters of the settings, of which two write. The only status that is
    not to be set is that of a refusal. -/
theorem unthrottled_setLastFetchStatus (h : Unthrottled t s) (hstatus : status ≠ .throttled) :
    Unthrottled t (s.setLastFetchStatus status) :=
  ⟨h.retryInterval, h.endTime, hstatus, h.stored⟩

theorem unthrottled_setLastFetchError (h : Unthrottled t s) :
    Unthrottled t (s.setLastFetchError error) := by
  rw [setLastFetchError]
  split_ifs
  -- The status that is written with the error is the one in memory.
  · refine unthrottled_write ?_ (List.forall_mem_singleton.mpr h.status)
    exact ⟨h.retryInterval, h.endTime, h.status, h.stored⟩
  · exact h

theorem unthrottled_setLastETag (h : Unthrottled t s) (lastETag : Option String) :
    Unthrottled t (s.setLastETag now lastETag) :=
  ⟨h.retryInterval, h.endTime, h.status, h.stored⟩

theorem unthrottled_setLastApplyTimeInterval (h : Unthrottled t s) :
    Unthrottled t (s.setLastApplyTimeInterval now) := by
  refine unthrottled_write ?_ (List.forall_mem_singleton.mpr trivial)
  exact ⟨h.retryInterval, h.endTime, h.status, h.stored⟩

/-- A fetch that has ended well or badly was not refused. -/
theorem unthrottled_updateMetadata (h : Unthrottled t s) (now : NSTimeInterval)
    (device : DeviceContext) (fetchSuccess : Bool) :
    Unthrottled t (s.updateMetadataWithFetchSuccessStatus now device fetchSuccess) := by
  have hstatus : (if fetchSuccess then FetchStatus.success else .failure) ≠ .throttled := by
    cases fetchSuccess <;> exact FetchStatus.noConfusion
  refine unthrottled_write ?_
    (List.forall_mem_cons.mpr ⟨trivial, List.forall_mem_singleton.mpr hstatus⟩)
  exact ⟨h.retryInterval, h.endTime, hstatus, h.stored⟩

/-- The backoff does not start after a fetch that is not a success: twice
    nothing is nothing. -/
theorem unthrottled_backoff (h : Unthrottled t s) (hstatus : s.metadata.lastFetchStatus ≠ .success)
    (now : NSTimeInterval) (plus : Bool) :
    Unthrottled now (s.updateExponentialBackoffTime now plus) := by
  have hinterval : (s.updateExponentialBackoffTime now plus).exponentialBackoffRetryInterval
      = 0 := by
    -- The branch that sets two minutes is for a success.
    rw [updateExponentialBackoffTime]
    simp only [hstatus, if_false, h.retryInterval, zero_mul, ite_self]
  refine ⟨hinterval, ?_, h.status, h.stored⟩
  have hend : (s.updateExponentialBackoffTime now plus).exponentialBackoffThrottleEndTime
      = now + ((s.updateExponentialBackoffTime now plus).exponentialBackoffRetryInterval
        + 0.5 * (s.updateExponentialBackoffTime now plus).exponentialBackoffRetryInterval
          * if plus then 1 else -1) := rfl
  rw [hend, hinterval, mul_zero, zero_mul, add_zero, add_zero]

end

end Settings

/-- A fetch was refused, or an end says so. -/
def Output.Throttled : Output → Prop
  | .reported status error => status = .throttled ∨ error = some .throttled
  | .finished _ error => error = some .throttled
  | _ => False

namespace RemoteConfig

/-- No fetch has been refused, and none will be now. -/
structure Calm (t : NSTimeInterval) (s : RemoteConfig) : Prop where
  time : 0 ≤ t
  settings : s.settings.Unthrottled t
  completions : ∀ c ∈ s.completions, c.2 ≠ some .throttled
  log : ∀ o ∈ s.log, ¬ o.Throttled

section

variable {s s' : RemoteConfig} {t now : NSTimeInterval} {status : FetchStatus}
  {error : Option ConfigError} {r : Response}

/-- Only the settings, the reports and the log matter. -/
theorem Calm.congr (h : Calm t s) (hsettings : s'.settings = s.settings)
    (hcompletions : s'.completions = s.completions) (hlog : s'.log = s.log) : Calm t s' :=
  ⟨h.time, hsettings ▸ h.settings, hcompletions ▸ h.completions, hlog ▸ h.log⟩

/-- Anything but a refusal may go into the log. -/
theorem calm_write (h : Calm t s) {o : Output} (ho : ¬ o.Throttled) : Calm t (s.write o) := by
  refine ⟨h.time, h.settings, h.completions, fun o' ho' => ?_⟩
  rcases List.mem_append.mp ho' with ho' | ho'
  · exact h.log o' ho'
  · rw [List.mem_singleton.mp ho']
    exact ho

/-- And any other end may be reported. -/
theorem calm_reportCompletion (h : Calm t s) (hstatus : status ≠ .throttled)
    (herror : error ≠ some .throttled) : Calm t (s.reportCompletion status error) := by
  have hcalm : Calm t { s with completions := s.completions ++ [(status, error)] } := by
    refine ⟨h.time, h.settings, fun c hc => ?_, h.log⟩
    rcases List.mem_append.mp hc with hc | hc
    · exact h.completions c hc
    · rw [List.mem_singleton.mp hc]
      exact herror
  exact calm_write hcalm (not_or_intro hstatus herror)

/-- New settings that wait for nothing either. -/
theorem calm_settings (h : Calm t s) {settings : Settings} (hsettings : settings.Unthrottled t) :
    Calm t { s with settings } :=
  ⟨h.time, hsettings, h.completions, h.log⟩

/-- Whether a fetch is under way makes no difference to the backoff. -/
theorem calm_setFetchInProgress (h : Calm t s) (isFetchInProgress : Bool) :
    Calm t (s.setFetchInProgress isFetchInProgress) :=
  calm_settings h ⟨h.settings.retryInterval, h.settings.endTime, h.settings.status,
    h.settings.stored⟩

/-- Nor does what is in the configs. -/
theorem calm_setContent (h : Calm t s) {content : ConfigContent × List DatabaseOperation}
    (ho : ∀ o ∈ content.2, o.Unthrottled) : Calm t (s.setContent content) :=
  ⟨h.time, Settings.unthrottled_write h.settings ho, h.completions, h.log⟩

/-- A fetch is started, or ends at once as the last one did. It is never
    refused. -/
theorem calm_fetchConfig (h : Calm now s) (expirationDuration : NSTimeInterval) (changed : Bool) :
    Calm now (s.fetchConfig now expirationDuration changed) := by
  rw [fetchConfig, Settings.shouldThrottle_eq_false h.settings, Bool.false_and]
  split_ifs
  · exact calm_reportCompletion h FetchStatus.noConfusion (Option.some_ne_none _).symm
  · exact calm_reportCompletion h h.settings.status (Option.some_ne_none _).symm
  · exact calm_reportCompletion h FetchStatus.noConfusion (Option.some_ne_none _).symm
  -- Nothing throttles, so this branch is not taken.
  · exact absurd ‹False› id
  · refine calm_write ?_ id
    exact (calm_setFetchInProgress h true).congr rfl rfl rfl

/-- A failure, also one that says that the backend is overloaded. -/
theorem calm_handleFailure (h : Calm now s) (plus : Bool) :
    Calm now (s.handleFailure now plus r) := by
  have hmetadata := Settings.unthrottled_updateMetadata h.settings now s.device false
  have hinternal : some ConfigError.internalError ≠ some .throttled := by decide
  have hend : ∀ settings : Settings, settings.Unthrottled now →
      Calm now ({ s with
        settings := (settings.setLastFetchStatus .failure).setLastFetchError .internalError
        }.reportCompletion .failure (some .internalError)) := by
    intro settings hs
    have hfailure := Settings.unthrottled_setLastFetchStatus hs
      (show FetchStatus.failure ≠ .throttled from FetchStatus.noConfusion)
    exact calm_reportCompletion (calm_settings h (Settings.unthrottled_setLastFetchError hfailure))
      FetchStatus.noConfusion hinternal
  rw [handleFailure]
  split_ifs with hbacksOff hthrottle hthrottle
  · -- The failure has been noted by now.
    have hbackoff := Settings.unthrottled_backoff hmetadata FetchStatus.noConfusion now plus
    rw [Settings.shouldThrottle_eq_false hbackoff] at hthrottle
    exact absurd hthrottle.2 Bool.false_ne_true
  · exact hend _ (Settings.unthrottled_backoff hmetadata FetchStatus.noConfusion now plus)
  · exact absurd hthrottle.1 hbacksOff
  · exact hend _ hmetadata

/-- A good response. -/
theorem calm_acceptResponse (h : Calm now s) (latestETag : Option String) :
    Calm now (s.acceptResponse now latestETag) := by
  rw [acceptResponse]
  refine calm_reportCompletion (calm_write (calm_settings h ?_) id) FetchStatus.noConfusion
    (Option.some_ne_none _).symm
  refine Settings.unthrottled_updateMetadata ?_ now s.device true
  split_ifs
  · exact Settings.unthrottled_setLastETag h.settings latestETag
  · exact h.settings

/-- A response of any kind. -/
theorem calm_handleResponse (h : Calm now s) (plus : Bool) :
    Calm now (s.handleResponse now plus r) := by
  rw [handleResponse]
  split_ifs
  · exact calm_handleFailure h plus
  · split
    · exact calm_reportCompletion h FetchStatus.noConfusion (Option.some_ne_none _).symm
    · exact calm_reportCompletion h FetchStatus.noConfusion (by decide)
    · exact calm_acceptResponse h r.eTag
    · exact calm_acceptResponse (calm_setContent h (ConfigContent.unthrottled_update _ _ _)) r.eTag

/-- An activation touches the configs and the time of the last one. -/
theorem calm_activate (h : Calm now s) : Calm now (s.activate now) := by
  have hfinished : ¬ (Output.finished .successFetchedFromRemote none).Throttled :=
    (Option.some_ne_none _).symm
  rw [activate]
  refine calm_write (calm_write ?_ id) hfinished
  split_ifs
  · exact h
  · have hcontent : Calm now (s.setContent s.content.activate) :=
      calm_setContent h (ConfigContent.unthrottled_replace .active _)
    exact calm_settings hcontent (Settings.unthrottled_setLastApplyTimeInterval hcontent.settings)

/-- A block. The cases are the blocks, each by its lemma. -/
theorem calm_runBlock (h : Calm now s) (plus : Bool) (block : Block) :
    Calm now (s.runBlock now plus block) := by
  cases block with
  | setDefaults defaults =>
      exact calm_setContent h (ConfigContent.unthrottled_replace .default _)
  | setConfigSettings minimumFetchInterval =>
      exact calm_settings h ⟨h.settings.retryInterval, h.settings.endTime, h.settings.status,
        h.settings.stored⟩
  | fetch => exact h.congr rfl rfl rfl
  | fetchConfig expirationDuration changed => exact calm_fetchConfig h expirationDuration changed
  | installations identifier =>
      rw [runBlock]
      split_ifs
      · exact h.congr rfl rfl rfl
      · exact calm_reportCompletion (calm_setFetchInProgress h false) FetchStatus.noConfusion
          (by decide)
  | fetchWithUserProperties => exact h.congr rfl rfl rfl
  | response r => exact calm_handleResponse h plus
  | activate => exact calm_activate h

/-- What the main queue hears was not a refusal. -/
theorem calm_complete (h : Calm t s) : Calm t s.complete := by
  rw [complete]
  split
  · exact h
  · rename_i status error completions hcompletions
    have hrest : Calm t { s with completions } := by
      refine ⟨h.time, h.settings, fun c hc => h.completions c ?_, h.log⟩
      rw [hcompletions]
      exact List.mem_cons_of_mem _ hc
    have herror : error ≠ some .throttled := by
      refine h.completions (status, error) ?_
      rw [hcompletions]
      exact List.mem_cons_self
    split_ifs
    · exact hrest.congr rfl rfl rfl
    · exact calm_write hrest herror
    · exact calm_write hrest herror

/-- An event that reads no clock. -/
theorem calm_idle (h : Calm t s) {e : Event} (htime : e.time = none) : Calm t (s.step e) := by
  cases e with
  | run now plus => exact absurd htime (Option.some_ne_none now)
  | setDefaults defaults => exact h.congr rfl rfl rfl
  | setConfigSettings interval => exact h.congr rfl rfl rfl
  | fetchAndActivate => exact h.congr rfl rfl rfl
  | token token identifier =>
      rw [step]
      split
      · exact h
      · simp only
        split_ifs
        · exact h.congr rfl rfl rfl
        · refine calm_reportCompletion (calm_setFetchInProgress ?_ false) FetchStatus.noConfusion
            (by decide)
          exact h.congr rfl rfl rfl
  | respond i r =>
      rw [step]
      split_ifs
      · have hrest : Calm t { s with requests := s.requests.eraseIdx i } := h.congr rfl rfl rfl
        exact (calm_setFetchInProgress hrest false).congr rfl rfl rfl
      · exact h
  | complete => exact calm_complete h
  | database =>
      exact calm_settings h ⟨h.settings.retryInterval, h.settings.endTime, h.settings.status,
        DBManager.unthrottled_runOperation h.settings.stored⟩
  | restart device =>
      -- What is read back from the table was not throttled either.
      refine ⟨h.time, Settings.unthrottled_load h.settings h.time, fun c hc => ?_, h.log⟩
      exact absurd hc List.not_mem_nil

/-- A block, at a time that is not before. -/
theorem calm_run (h : Calm t s) (hle : t ≤ now) (plus : Bool) :
    Calm now (s.step (.run now plus)) := by
  have hnow : Calm now s :=
    ⟨h.time.trans hle, h.settings.mono hle, h.completions, h.log⟩
  rw [step]
  split
  · exact hnow
  · refine calm_runBlock ?_ plus _
    exact hnow.congr rfl rfl rfl

/-- Only a block reads the clock. -/
theorem calm_tick (h : Calm t s) {e : Event} (htime : e.time = some now) (hle : t ≤ now) :
    Calm now (s.step e) := by
  cases e with
  | run now' plus =>
      cases htime
      exact calm_run h hle plus
  | _ => exact absurd htime (Option.some_ne_none now).symm

end

/-- A fetch comes later than a good one before it by more than the interval,
    unless the device has changed. -/
def Spaced (log : List Output) : Prop :=
  log.Pairwise fun o o' => ∀ t₀ now expirationDuration, o = .fetched t₀ →
    o' = .started now expirationDuration false → expirationDuration < now - t₀

/-- The time of the last good fetch is remembered. -/
structure Kept (t : NSTimeInterval) (s : RemoteConfig) : Prop where
  time : 0 < t
  last : s.settings.lastFetchTimeInterval ≤ t
  fetched : ∀ t₀, .fetched t₀ ∈ s.log → 0 < t₀ ∧ t₀ ≤ s.settings.lastFetchTimeInterval
  spaced : Spaced s.log

section

variable {s s' : RemoteConfig} {t now : NSTimeInterval} {r : Response}

/-- Only the time and the log matter. -/
theorem Kept.congr (h : Kept t s)
    (hlast : s'.settings.lastFetchTimeInterval = s.settings.lastFetchTimeInterval)
    (hlog : s'.log = s.log) : Kept t s' := by
  refine ⟨h.time, hlast.trans_le h.last, fun t₀ ht₀ => ?_, hlog ▸ h.spaced⟩
  rw [hlog] at ht₀
  rw [hlast]
  exact h.fetched t₀ ht₀

/-- What is new in the log keeps the interval from what is in it. -/
theorem spaced_append {log : List Output} {o : Output} (h : Spaced log)
    (ho : ∀ t₀ now expirationDuration, .fetched t₀ ∈ log →
      o = .started now expirationDuration false → expirationDuration < now - t₀) :
    Spaced (log ++ [o]) := by
  refine List.pairwise_append.mpr ⟨h, List.pairwise_singleton _ _, ?_⟩
  rintro _ hmem _ hmem' t₀ now expirationDuration rfl rfl
  exact ho t₀ now expirationDuration hmem (List.mem_singleton.mp hmem').symm

/-- So it may be any output but a good fetch, whose time has to be noted. -/
theorem kept_write (h : Kept t s) {o : Output} (hfetched : ∀ t₀, o ≠ .fetched t₀)
    (ho : ∀ t₀ now expirationDuration, .fetched t₀ ∈ s.log →
      o = .started now expirationDuration false → expirationDuration < now - t₀) :
    Kept t (s.write o) := by
  refine ⟨h.time, h.last, fun t₀ ht₀ => ?_, spaced_append h.spaced ho⟩
  rcases List.mem_append.mp ht₀ with ht₀ | ht₀
  · exact h.fetched t₀ ht₀
  · exact absurd (List.mem_singleton.mp ht₀).symm (hfetched t₀)

/-- An end of any status. -/
theorem kept_reportCompletion (h : Kept t s) (status : FetchStatus) (error : Option ConfigError) :
    Kept t (s.reportCompletion status error) := by
  refine kept_write ?_ (fun _ => Output.noConfusion) fun _ _ _ _ => Output.noConfusion
  exact h.congr rfl rfl

/-- An error is no fetch. -/
theorem lastFetchTime_setLastFetchError (s : Settings) (error : ConfigError) :
    (s.setLastFetchError error).lastFetchTimeInterval = s.lastFetchTimeInterval := by
  rw [Settings.setLastFetchError]
  split_ifs <;> rfl

/-- Nor is a refusal. -/
theorem kept_reportThrottled (h : Kept t s) : Kept t s.reportThrottled := by
  refine kept_reportCompletion ?_ _ _
  exact h.congr (lastFetchTime_setLastFetchError _ _) rfl

/-- A fetch that is not refused keeps the interval from all before it. -/
theorem kept_fetchConfig (h : Kept now s) (expirationDuration : NSTimeInterval) (changed : Bool) :
    Kept now (s.fetchConfig now expirationDuration changed) := by
  rw [fetchConfig]
  split_ifs with helapsed
  · exact kept_reportCompletion h _ _
  · exact kept_reportCompletion h _ _
  · exact kept_reportCompletion h _ _
  · exact kept_reportThrottled h
  · refine kept_write (s := { s.setFetchInProgress true with tokens := s.tokens + 1 })
      (h.congr rfl rfl) (fun _ => Output.noConfusion) fun t₀ now' expirationDuration' ht₀ ho => ?_
    cases ho
    -- The interval has passed since the last good fetch, and so since any.
    rw [Bool.not_false, Bool.and_true, Bool.not_eq_true', Bool.not_eq_false,
      Settings.hasMinimumFetchIntervalElapsed, Bool.or_eq_true, decide_eq_true_eq,
      decide_eq_true_eq] at helapsed
    rcases h.fetched t₀ ht₀ with ⟨hpos, hle⟩
    rcases helapsed with hzero | helapsed
    · exact absurd hzero (hpos.trans_le hle).ne'
    · linarith

/-- A failure is none, but the next fetch may come at once. -/
theorem kept_handleFailure (h : Kept now s) (plus : Bool) :
    Kept now (s.handleFailure now plus r) := by
  -- A failure leaves the time of the last good fetch as it is.
  rw [handleFailure]
  split_ifs
  · refine kept_reportThrottled ?_
    exact h.congr rfl rfl
  · refine kept_reportCompletion ?_ _ _
    exact h.congr (lastFetchTime_setLastFetchError _ _) rfl
  · refine kept_reportThrottled ?_
    exact h.congr rfl rfl
  · refine kept_reportCompletion ?_ _ _
    exact h.congr (lastFetchTime_setLastFetchError _ _) rfl

/-- A good response notes its time, which is after all before it. -/
theorem kept_acceptResponse (h : Kept now s) (latestETag : Option String) :
    Kept now (s.acceptResponse now latestETag) := by
  rw [acceptResponse]
  refine kept_reportCompletion ?_ _ _
  -- From now on this is the last good fetch.
  refine ⟨h.time, le_rfl, fun t₀ ht₀ => ?_, ?_⟩
  · rcases List.mem_append.mp ht₀ with ht₀ | ht₀
    · exact ⟨(h.fetched t₀ ht₀).1, (h.fetched t₀ ht₀).2.trans h.last⟩
    · rw [Output.fetched.inj (List.mem_singleton.mp ht₀)]
      exact ⟨h.time, le_rfl⟩
  · exact spaced_append h.spaced fun _ _ _ _ => Output.noConfusion

/-- A response of any kind. -/
theorem kept_handleResponse (h : Kept now s) (plus : Bool) :
    Kept now (s.handleResponse now plus r) := by
  rw [handleResponse]
  split_ifs
  · exact kept_handleFailure h plus
  · split
    · exact kept_reportCompletion h _ _
    · exact kept_reportCompletion h _ _
    · exact kept_acceptResponse h r.eTag
    · refine kept_acceptResponse ?_ r.eTag
      exact h.congr rfl rfl

/-- An activation. -/
theorem kept_activate (h : Kept now s) : Kept now (s.activate now) := by
  rw [activate]
  refine kept_write (kept_write ?_ (fun _ => Output.noConfusion) fun _ _ _ _ => Output.noConfusion)
    (fun _ => Output.noConfusion) fun _ _ _ _ => Output.noConfusion
  split_ifs
  · exact h
  · exact h.congr rfl rfl

/-- A block. -/
theorem kept_runBlock (h : Kept now s) (plus : Bool) (block : Block) :
    Kept now (s.runBlock now plus block) := by
  cases block with
  | fetchConfig expirationDuration changed => exact kept_fetchConfig h expirationDuration changed
  | response r => exact kept_handleResponse h plus
  | activate => exact kept_activate h
  | installations identifier =>
      rw [runBlock]
      split_ifs
      · exact h.congr rfl rfl
      · refine kept_reportCompletion ?_ _ _
        exact h.congr rfl rfl
  | _ => exact h.congr rfl rfl

/-- An event that reads no clock. -/
theorem kept_idle (h : Kept t s) {e : Event} (htime : e.time = none) : Kept t (s.step e) := by
  cases e with
  | run now plus => exact absurd htime (Option.some_ne_none now)
  | token token identifier =>
      rw [step]
      split
      · exact h
      · simp only
        split_ifs
        · exact h.congr rfl rfl
        · refine kept_reportCompletion ?_ _ _
          exact h.congr rfl rfl
  | respond i r =>
      rw [step]
      split_ifs
      · exact h.congr rfl rfl
      · exact h
  | complete =>
      rw [step, complete]
      split
      · exact h
      · split_ifs
        · exact h.congr rfl rfl
        all_goals
          refine kept_write ?_ (fun _ => Output.noConfusion) fun _ _ _ _ => Output.noConfusion
          exact h.congr rfl rfl
  | _ => exact h.congr rfl rfl

/-- A block, at a time that is not before. -/
theorem kept_run (h : Kept t s) (hle : t ≤ now) (plus : Bool) :
    Kept now (s.step (.run now plus)) := by
  have hnow : Kept now s := ⟨h.time.trans_le hle, h.last.trans hle, h.fetched, h.spaced⟩
  rw [step]
  split
  · exact hnow
  · refine kept_runBlock ?_ plus _
    exact hnow.congr rfl rfl

/-- Only a block reads the clock. -/
theorem kept_tick (h : Kept t s) {e : Event} (htime : e.time = some now) (hle : t ≤ now) :
    Kept now (s.step e) := by
  cases e with
  | run now' plus =>
      cases htime
      exact kept_run h hle plus
  | _ => exact absurd htime (Option.some_ne_none now).symm

end

end RemoteConfig

/-- The clock does not go back, from a time on. -/
def Clock (t : NSTimeInterval) (es : List Event) : Prop :=
  (t :: es.filterMap Event.time).IsChain (· ≤ ·)

open RemoteConfig in
/-- From the installation on, in whatever order the app calls, the backend and
    the installations answer, the database runs its writes, and the process
    ends and starts again, and whatever the backend says: as long as the clock
    does not go back, no fetch is refused or reported as throttled. -/
theorem never_throttled (device : DeviceContext) (t : NSTimeInterval) (ht : 0 ≤ t)
    (es : List Event) (hclock : Clock t es) :
    ∀ o ∈ (Run.run step (installed device) es).log, ¬ o.Throttled := by
  have hinstalled : Calm t (installed device) := by
    have hstored : DBManager.Unthrottled .empty :=
      ⟨fun _ h => absurd h (Option.not_mem_none _), fun _ h => absurd h List.not_mem_nil⟩
    exact ⟨ht, ⟨rfl, ht, FetchStatus.noConfusion, hstored⟩, fun _ h => absurd h List.not_mem_nil,
      fun _ h => absurd h List.not_mem_nil⟩
  rcases Run.run_of_clock step Event.time (· ≤ ·) (fun _ _ => True) Calm
    (fun _ _ _ htime _ h => calm_idle h htime) (fun _ _ _ _ htime hle _ h => calm_tick h htime hle)
    es t (installed device) hinstalled hclock (Run.along_true step _ es) with ⟨t', hend⟩
  exact hend.log

open RemoteConfig in
/-- A good fetch, and in the next one, hours later, the backend is overloaded.
    The call after that asks it again at once. -/
theorem never_throttled_overloaded :
    let events : List Event := [.fetchAndActivate, .run 1 true, .run 1 true, .token true true,
      .run 2 true, .run 2 true, .respond 0 ⟨false, 200, some "a", .config (some "UPDATE") none⟩,
      .run 3 true, .complete, .run 4 true, .database, .fetchAndActivate, .run 50000 true,
      .run 50000 true, .token true true, .run 50001 true, .run 50001 true,
      .respond 0 ⟨false, 503, none, .noData⟩, .run 50002 true, .fetchAndActivate, .run 50002 true,
      .run 50002 true]
    ∀ o ∈ (Run.run step (installed ⟨"1.0", "26", "17.0", "ar", none⟩) events).log,
      ¬ o.Throttled := by
  intro events
  have htimes : events.filterMap Event.time
      = [1, 1, 2, 2, 3, 4, 50000, 50000, 50001, 50001, 50002, 50002, 50002] := rfl
  refine never_throttled _ 0 le_rfl events ?_
  rw [Clock, htimes]
  norm_num

open RemoteConfig in
/-- Likewise, a fetch is started only when more than the minimum fetch
    interval has passed since each of the good ones before it, also those
    before the process was started again, unless the device has changed. -/
theorem fetches_spaced (device : DeviceContext) (t : NSTimeInterval) (ht : 0 < t)
    (es : List Event) (hclock : Clock t es) :
    Spaced (Run.run step (installed device) es).log := by
  have hinstalled : Kept t (installed device) :=
    ⟨ht, ht.le, fun _ h => absurd h List.not_mem_nil, List.Pairwise.nil⟩
  rcases Run.run_of_clock step Event.time (· ≤ ·) (fun _ _ => True) Kept
    (fun _ _ _ htime _ h => kept_idle h htime) (fun _ _ _ _ htime hle _ h => kept_tick h htime hle)
    es t (installed device) hinstalled hclock (Run.along_true step _ es) with ⟨t', hend⟩
  exact hend.spaced

open RemoteConfig in
/-- A good fetch, the end of the process, and a call half an hour later. -/
theorem fetches_spaced_restart :
    let device : DeviceContext := ⟨"1.0", "26", "17.0", "ar", none⟩
    let events : List Event := [.fetchAndActivate, .run 1 true, .run 1 true, .token true true,
      .run 2 true, .run 2 true, .respond 0 ⟨false, 200, some "a", .config (some "UPDATE") none⟩,
      .run 3 true, .restart device, .fetchAndActivate, .run 1803 true, .run 1803 true]
    Spaced (Run.run step (installed device) events).log := by
  intro device events
  have htimes : events.filterMap Event.time = [1, 1, 2, 2, 3, 1803, 1803] := rfl
  refine fetches_spaced device 1 one_pos events ?_
  rw [Clock, htimes]
  norm_num

end RemoteConfigCore

end JkbEmpOffers
