import JkbEmpOffers.Library.Run
import JkbEmpOffers.RemoteConfigCore.Fetch
import JkbEmpOffers.UpdateCheck

/-!
# What Is Activated

A fetched config and its tag live in different places, and neither says which
of them belongs to the other. The config that is activated is the one of the
last tag only if no fetch gets between the request of another and its
response, and if an activation can tell whether anything has come since the
last one.

For the first there is `isFetchInProgress`, which is reset as soon as the
response is there, before the block that reads it has run. This is early, but
not too early: whatever starts then asks for its tag in a block behind that
one. `Protocol` says where the one fetch under way may be.

For the second there are two times, of the last new tag and of the last
activation. They are enough if the clock moves on from block to block. Were
two blocks to run at one time, a tag and an activation before it could have
the same, and the config of the tag would be taken for the active one.

A third thing has to be assumed. The tag is kept at once, but the configs and
the time of the activation when the database comes to it. A process that ends
in between leaves a tag without its config, and from then on the backend says
that nothing has changed. So a process is to end only when its writes have
run.

The two invariants are proved side by side. `Protocol` counts: what waits for
a token, what is a block, what is held by the step under way and what waits
for a response make up one fetch, or none where none is in progress. A step
takes the fetch from one of these to the next, by `Protocol.pop`,
`Protocol.dispatch`, `Protocol.send` and their like. `Consistent` is about
what is stored, in memory and in the tables, and needs of `Protocol` only that
the response which is read answers the last tag.

Most functions leave the tags, the times and the configs as they are.
`Settings.SameTags` says so of the settings, and `Consistent.congr` is the
one place where it is used. What is left are the two that do change them,
`acceptResponse` and `activate`.

## Main definitions

* `served`: The config that a tag stands for.
* `Response.Honest`: What a backend answers that has one config for each tag.
* `Promised`: It answers so, and no write is lost.
* `Ticking`: The clock moves on from block to block.
* `Protocol`: Where the one fetch under way is.
* `Tells`: A row of the metadata can tell what is active.
* `Settings.SameTags`: The tags, the times and the tables are as they were.
* `Consistent`: How the configs, the tag and the times belong together.

## Theorems

* `protocol_runBlock`, `protocol_step`: There is one fetch, and its tag is the
  last one.
* `consistent_runBlock`, `consistent_idle`, `consistent_tick`: What is stored
  belongs together.
* `run_installed`: So it is in every run.
* `activated_template`: What is activated is what the last tag stands for.
* `value_in_effect`: The value that the app reads is the one in effect.
-/

namespace JkbEmpOffers

namespace RemoteConfigCore

/-- The config that a tag stands for. Before the first tag there is none. -/
def served (template : String → Config) : Option String → Config
  | none => SortedMap.empty
  | some eTag => template eTag

/-- The data and the tag with which a backend answers a request that has a
    tag: it fails, nothing has changed, or there is another config. -/
inductive Body.Honest (template : String → Config) (tag : Option String) :
    Body → Option String → Prop where
  | noData (eTag : Option String) : Honest template tag .noData eTag
  | serverError (eTag : Option String) : Honest template tag .serverError eTag
  | noChange (entries : Option Config) (eTag : Option String) (h : eTag = none ∨ eTag = tag) :
      Honest template tag (.config (some "NO_CHANGE") entries) eTag
  | update (eTag : String) :
      Honest template tag (.config (some "UPDATE") (some (template eTag))) (some eTag)
  | emptyConfig (eTag : String) (entries : Option Config) (h : template eTag = SortedMap.empty) :
      Honest template tag (.config (some "EMPTY_CONFIG") entries) (some eTag)
  | noTemplate (eTag : String) (entries : Option Config) (h : template eTag = SortedMap.empty) :
      Honest template tag (.config (some "NO_TEMPLATE") entries) (some eTag)

/-- A response that is not good may be anything. -/
def Response.Honest (template : String → Config) (tag : Option String) (r : Response) : Prop :=
  r.error = false → r.statusCode = 200 → r.body.Honest template tag r.eTag

/-- The backend answers each request by its tag, and a process ends only when
    the database has run all that was asked of it. -/
def Promised (template : String → Config) (s : RemoteConfig) : Event → Prop
  | .respond i r => ∀ tag ∈ s.requests[i]?, r.Honest template tag
  | .restart _ => s.settings.dbManager.databaseOperationQueue = []
  | _ => True

/-- From a time on, the clock moves on from block to block: no two of them run
    at one time, and it does not go back. -/
def Ticking (t : NSTimeInterval) (es : List Event) : Prop :=
  (t :: es.filterMap Event.time).IsChain (· < ·)

/-- A block that a fetch goes on with, before its request. -/
def Block.isCall : Block → Bool
  | .installations _ | .fetchWithUserProperties => true
  | _ => false

/-- A block that reads a response. -/
def Block.isResponse : Block → Bool
  | .response _ => true
  | _ => false

namespace Settings

/-- An error is noted in the metadata alone. -/
theorem userDefaults_setLastFetchError (s : Settings) (error : ConfigError) :
    (s.setLastFetchError error).userDefaults = s.userDefaults := by
  unfold setLastFetchError
  split_ifs <;> rfl

/-- So it does not end a fetch. -/
theorem isFetchInProgress_setLastFetchError (s : Settings) (error : ConfigError) :
    (s.setLastFetchError error).isFetchInProgress = s.isFetchInProgress := by
  unfold setLastFetchError
  split_ifs <;> rfl

end Settings

namespace RemoteConfig

/-- There is one fetch under way, or none. It waits for a token, is a block of
    the queue, or waits for a response, and `held` counts it while none of
    these has it. The response of the fetch before it is ahead of it. -/
structure Protocol (template : String → Config) (held : Nat) (s : RemoteConfig) : Prop where
  -- The fetch is in one of the four places, and in none if there is no fetch.
  one : held + s.tokens + s.queue.countP Block.isCall + s.requests.length
    = s.settings.isFetchInProgress.toNat
  order : s.queue.Pairwise fun b b' =>
    b'.isResponse = true → b.isCall = false ∧ b.isResponse = false
  quiet : s.requests ≠ [] → ∀ b ∈ s.queue, b.isResponse = false
  tags : ∀ tag ∈ s.requests, tag = s.settings.userDefaults.lastETag
  honest : ∀ r, .response r ∈ s.queue → r.Honest template s.settings.userDefaults.lastETag

section

variable {template : String → Config} {held : Nat} {s s' : RemoteConfig} {b : Block}
  {rest : List Block} {now t : NSTimeInterval} {r : Response}

/-- What is not the fetch or its tag does not matter. -/
theorem Protocol.congr (h : Protocol template held s) (htokens : s'.tokens = s.tokens)
    (hqueue : s'.queue = s.queue) (hrequests : s'.requests = s.requests)
    (hprogress : s'.settings.isFetchInProgress = s.settings.isFetchInProgress)
    (htag : s'.settings.userDefaults.lastETag = s.settings.userDefaults.lastETag) :
    Protocol template held s' := by
  rcases h with ⟨hone, horder, hquiet, htags, hhonest⟩
  rw [← hqueue, ← hrequests, ← htokens, ← hprogress] at hone
  rw [← hqueue] at horder hquiet hhonest
  rw [← hrequests] at hquiet htags
  rw [← htag] at htags hhonest
  exact ⟨hone, horder, hquiet, htags, hhonest⟩

/-- There is never more than one fetch in progress. -/
theorem one_le_progress (s : RemoteConfig) : s.settings.isFetchInProgress.toNat ≤ 1 :=
  Bool.toNat_le _

/-- While a fetch is held, it is nowhere else. -/
theorem Protocol.alone (h : Protocol template 1 s) :
    s.tokens = 0 ∧ s.queue.countP Block.isCall = 0 ∧ s.requests = [] := by
  have hone := h.one
  have hle := one_le_progress s
  exact ⟨by omega, by omega, List.length_eq_zero_iff.mp (by omega)⟩

/-- At most one request waits for its response. -/
theorem Protocol.length_requests (h : Protocol template held s) : s.requests.length ≤ 1 := by
  have hone := h.one
  have hle := one_le_progress s
  omega

/-- The fetch is over. -/
theorem Protocol.finish (h : Protocol template 1 s) :
    Protocol template 0 (s.setFetchInProgress false) := by
  rcases h.alone with ⟨htokens, hcalls, hrequests⟩
  refine ⟨?_, h.order, h.quiet, h.tags, h.honest⟩
  change 0 + s.tokens + s.queue.countP Block.isCall + s.requests.length = 0
  rw [htokens, hcalls, hrequests, List.length_nil]

/-- A block that reads no response is queued. A call takes the fetch over. -/
theorem Protocol.dispatch (h : Protocol template (b.isCall.toNat + held) s)
    (hb : b.isResponse = false) : Protocol template held (s.dispatch b) := by
  have hone := h.one
  refine ⟨?_, ?_, fun hne x hx => ?_, h.tags, fun r hr => ?_⟩
  · rw [RemoteConfig.dispatch]
    simp only [List.countP_append, List.countP_singleton]
    cases hcall : b.isCall <;> simp only [hcall, Bool.toNat_true, Bool.toNat_false, if_true,
      Bool.false_eq_true, if_false] at hone ⊢ <;> omega
  · refine List.pairwise_append.mpr ⟨h.order, List.pairwise_singleton _ _, fun x _ y hy hr => ?_⟩
    rw [List.mem_singleton.mp hy, hb] at hr
    exact absurd hr Bool.false_ne_true
  · rcases List.mem_append.mp hx with hx | hx
    · exact h.quiet hne x hx
    · rw [List.mem_singleton.mp hx]
      exact hb
  · rcases List.mem_append.mp hr with hr | hr
    · exact h.honest r hr
    · rw [← List.mem_singleton.mp hr] at hb
      exact absurd hb Bool.false_ne_true.symm

/-- A block is taken from the queue. A call holds the fetch. -/
theorem Protocol.pop (h : Protocol template held s) (hqueue : s.queue = b :: rest) :
    Protocol template (b.isCall.toNat + held) { s with queue := rest } := by
  have hone := h.one
  have horder := h.order
  rw [hqueue] at hone horder
  refine ⟨?_, horder.of_cons, fun hne x hx => ?_, h.tags, fun r hr => ?_⟩
  · rw [List.countP_cons] at hone
    cases hcall : b.isCall <;> simp only [hcall, Bool.toNat_true, Bool.toNat_false, if_true,
      Bool.false_eq_true, if_false] at hone ⊢ <;> omega
  · exact h.quiet hne x (hqueue ▸ List.mem_cons_of_mem b hx)
  · exact h.honest r (hqueue ▸ List.mem_cons_of_mem b hr)

/-- Behind a call or a response there is no response. -/
theorem Protocol.last (h : Protocol template held s) (hqueue : s.queue = b :: rest)
    (hb : b.isCall = true ∨ b.isResponse = true) : ∀ x ∈ rest, x.isResponse = false := by
  intro x hx
  have horder := h.order
  rw [hqueue, List.pairwise_cons] at horder
  by_contra hresponse
  rcases horder.1 x hx (Bool.eq_true_of_not_eq_false hresponse) with ⟨hcall, hresponse'⟩
  rw [hcall, hresponse'] at hb
  exact absurd hb (by decide)

/-- The fetch waits for a token. -/
theorem Protocol.start (h : Protocol template 0 s)
    (hprogress : s.settings.isFetchInProgress = false) :
    Protocol template 0 { s.setFetchInProgress true with tokens := s.tokens + 1 } := by
  have hone := h.one
  rw [hprogress, Bool.toNat_false] at hone
  refine ⟨?_, h.order, h.quiet, h.tags, h.honest⟩
  change 0 + (s.tokens + 1) + s.queue.countP Block.isCall + s.requests.length = 1
  omega

/-- The fetch has made its request, and no response is to be read before it. -/
theorem Protocol.send (h : Protocol template 1 s) (hlast : ∀ b ∈ s.queue, b.isResponse = false) :
    Protocol template 0
      { s with requests := s.requests ++ [s.settings.userDefaults.lastETag] } := by
  refine ⟨?_, h.order, fun _ => hlast, fun tag htag => ?_, h.honest⟩
  · rw [← h.one]
    change 0 + s.tokens + s.queue.countP Block.isCall
      + (s.requests ++ [s.settings.userDefaults.lastETag]).length = _
    rw [List.length_append, List.length_singleton]
    omega
  · rw [h.alone.2.2, List.nil_append] at htag
    exact List.mem_singleton.mp htag

/-- A token comes, and the fetch is held. -/
theorem Protocol.takeToken (h : Protocol template 0 s) {tokens : Nat}
    (htokens : s.tokens = tokens + 1) : Protocol template 1 { s with tokens } := by
  have hone := h.one
  refine ⟨?_, h.order, h.quiet, h.tags, h.honest⟩
  rw [htokens] at hone
  rw [← hone]
  change 1 + tokens + s.queue.countP Block.isCall + s.requests.length = _
  omega

/-- A request is answered, and the fetch is held. -/
theorem Protocol.takeRequest (h : Protocol template 0 s) {i : Nat} (hi : i < s.requests.length) :
    Protocol template 1 { s with requests := s.requests.eraseIdx i } := by
  have hlength := List.length_eraseIdx_of_lt hi
  refine ⟨?_, h.order,
    fun _ => h.quiet (List.ne_nil_of_length_pos (Nat.zero_lt_of_lt hi)),
    fun tag htag => h.tags tag (List.mem_of_mem_eraseIdx htag), h.honest⟩
  rw [← h.one]
  change 1 + s.tokens + s.queue.countP Block.isCall + (s.requests.eraseIdx i).length = _
  omega

/-- The response of the fetch that is held is queued, as the only one. The
    fetch is over with it. -/
theorem Protocol.dispatchResponse (h : Protocol template 1 s)
    (hlast : ∀ b ∈ s.queue, b.isResponse = false)
    (hr : r.Honest template s.settings.userDefaults.lastETag) :
    Protocol template 0 ((s.setFetchInProgress false).dispatch (.response r)) := by
  have hcalls : ∀ b ∈ s.queue, b.isCall = false := fun b hb =>
    Bool.eq_false_iff.mpr (List.countP_eq_zero.mp h.alone.2.1 b hb)
  have hfinish := h.finish
  have hone := hfinish.one
  refine ⟨?_, ?_, fun hne => absurd h.alone.2.2 hne, hfinish.tags, fun r' hr' => ?_⟩
  · rw [RemoteConfig.dispatch]
    simp only [List.countP_append, List.countP_singleton, Block.isCall, Bool.false_eq_true,
      if_false, Nat.add_zero]
    exact hone
  · exact List.pairwise_append.mpr ⟨h.order, List.pairwise_singleton _ _,
      fun b hb _ _ _ => ⟨hcalls b hb, hlast b hb⟩⟩
  · rcases List.mem_append.mp hr' with hr' | hr'
    · exact h.honest r' hr'
    · rw [Block.response.inj (List.mem_singleton.mp hr')]
      exact hr

/-- Nothing under way has the last tag, so it may change. -/
theorem Protocol.retag (h : Protocol template held s) (hrequests : s.requests = [])
    (hlast : ∀ b ∈ s.queue, b.isResponse = false) (htokens : s'.tokens = s.tokens)
    (hqueue : s'.queue = s.queue) (hrequests' : s'.requests = s.requests)
    (hprogress : s'.settings.isFetchInProgress = s.settings.isFetchInProgress) :
    Protocol template held s' := by
  have hone := h.one
  have horder := h.order
  rw [← hqueue, ← hrequests', ← htokens, ← hprogress] at hone
  rw [← hqueue] at horder
  rw [← hqueue] at hlast
  rw [← hrequests'] at hrequests
  refine ⟨hone, horder, fun _ => hlast, fun tag htag => ?_, fun r hr => ?_⟩
  · rw [hrequests] at htag
    exact absurd htag List.not_mem_nil
  · exact absurd (hlast _ hr) Bool.false_ne_true.symm

/-- A fetch is started only where none is in progress. -/
theorem protocol_fetchConfig (h : Protocol template 0 s) (now expirationDuration : NSTimeInterval)
    (changed : Bool) : Protocol template 0 (s.fetchConfig now expirationDuration changed) := by
  rw [fetchConfig]
  split_ifs with helapsed hprogress
  · exact h.congr rfl rfl rfl rfl rfl
  · exact h.congr rfl rfl rfl rfl rfl
  · exact h.congr rfl rfl rfl rfl rfl
  · refine h.congr rfl rfl rfl ?_ ?_
    · exact Settings.isFetchInProgress_setLastFetchError _ _
    · exact congrArg UserDefaults.lastETag (Settings.userDefaults_setLastFetchError _ _)
  · exact (h.start (Bool.eq_false_iff.mpr hprogress)).congr rfl rfl rfl rfl rfl

/-- A response changes nothing that is under way. -/
theorem handleResponse_frame (s : RemoteConfig) (now : NSTimeInterval) (plus : Bool)
    (r : Response) :
    (s.handleResponse now plus r).tokens = s.tokens ∧
      (s.handleResponse now plus r).queue = s.queue ∧
      (s.handleResponse now plus r).requests = s.requests ∧
      (s.handleResponse now plus r).settings.isFetchInProgress
        = s.settings.isFetchInProgress := by
  rw [handleResponse]
  split_ifs
  · rw [handleFailure]
    split_ifs
    all_goals exact ⟨rfl, rfl, rfl, Settings.isFetchInProgress_setLastFetchError _ _⟩
  · split
    · exact ⟨rfl, rfl, rfl, rfl⟩
    · exact ⟨rfl, rfl, rfl, rfl⟩
    all_goals
      rw [acceptResponse]
      split_ifs <;> exact ⟨rfl, rfl, rfl, rfl⟩

/-- A block keeps the one fetch. -/
theorem protocol_runBlock (h : Protocol template 0 s) (hqueue : s.queue = b :: rest)
    (now : NSTimeInterval) (plus : Bool) :
    Protocol template 0 ({ s with queue := rest }.runBlock now plus b) := by
  have hpop := h.pop hqueue
  cases b with
  | setDefaults defaults => exact hpop.congr rfl rfl rfl rfl rfl
  | setConfigSettings minimumFetchInterval => exact hpop.congr rfl rfl rfl rfl rfl
  | fetch => exact Protocol.dispatch hpop rfl
  | fetchConfig expirationDuration changed =>
      exact protocol_fetchConfig hpop now expirationDuration changed
  | installations identifier =>
      rw [runBlock]
      split_ifs
      · exact Protocol.dispatch hpop rfl
      · exact hpop.finish.congr rfl rfl rfl rfl rfl
  | fetchWithUserProperties => exact hpop.send (h.last hqueue (Or.inl rfl))
  | response r =>
      -- The request of this response was the only one.
      have hrequests : s.requests = [] := by
        by_contra hne
        have hquiet := h.quiet hne (.response r) (hqueue ▸ List.mem_cons_self)
        exact absurd hquiet Bool.false_ne_true.symm
      rcases handleResponse_frame { s with queue := rest } now plus r with
        ⟨htokens, hqueue', hrequests', hprogress⟩
      exact hpop.retag hrequests (h.last hqueue (Or.inr rfl)) htokens hqueue' hrequests' hprogress
  | activate =>
      rw [runBlock, activate]
      split_ifs <;> exact hpop.congr rfl rfl rfl rfl rfl

/-- There is at most one fetch under way, and its tag is the last one. -/
theorem protocol_step (h : Protocol template 0 s) {e : Event}
    (hpromised : Promised template s e) : Protocol template 0 (s.step e) := by
  cases e with
  | setDefaults defaults => exact Protocol.dispatch h rfl
  | setConfigSettings minimumFetchInterval => exact Protocol.dispatch h rfl
  | fetchAndActivate => exact Protocol.dispatch h rfl
  | run now plus =>
      rw [step]
      split
      · exact h
      · rename_i block queue hqueue
        exact protocol_runBlock h hqueue now plus
  | token token identifier =>
      rw [step]
      split
      · exact h
      · rename_i tokens htokens
        -- The fetch has its token and goes on, or ends without one.
        have hheld := h.takeToken htokens
        simp only
        split_ifs
        · exact Protocol.dispatch hheld rfl
        · exact hheld.finish.congr rfl rfl rfl rfl rfl
  | respond i r =>
      rw [step]
      split_ifs with hi
      · have hne : s.requests ≠ [] := List.ne_nil_of_length_pos (Nat.zero_lt_of_lt hi)
        -- It answers the last tag, and no other response is ahead of it.
        have htag : r.Honest template s.settings.userDefaults.lastETag := by
          rw [← h.tags _ (List.getElem_mem hi)]
          exact hpromised _ (List.getElem?_eq_getElem hi)
        exact (h.takeRequest hi).dispatchResponse (h.quiet hne) htag
      · exact h
  | complete =>
      rw [step, complete]
      split
      · exact h
      · rename_i status error completions hcompletions
        have hrest : Protocol template 0 { s with completions } := h.congr rfl rfl rfl rfl rfl
        split_ifs
        · exact Protocol.dispatch hrest rfl
        all_goals exact hrest.congr rfl rfl rfl rfl rfl
  | database => exact h.congr rfl rfl rfl rfl rfl
  | restart device =>
      -- The fetch of a process ends with it.
      exact ⟨rfl, List.Pairwise.nil, fun hne => absurd rfl hne,
        fun _ htag => absurd htag List.not_mem_nil, fun _ hr => absurd hr List.not_mem_nil⟩

end

end RemoteConfig

/-- What an output says about the value of a key. -/
def Output.value (key : String) : Output → Option String
  | .activated _ activeConfig => activeConfig.find key
  | _ => none

/-- Up to a time, a row of the metadata can tell that the fetched config is
    active. -/
structure Tells (t lastETagUpdateTime : NSTimeInterval) (content : ConfigContent) (row : Metadata) :
    Prop where
  start : 0 ≤ row.lastApplyTimeInterval
  past : row.lastApplyTimeInterval ≤ t
  active : lastETagUpdateTime ≤ row.lastApplyTimeInterval →
    content.activeConfig = content.fetchedConfig

namespace Settings

/-- The tag and the times are the same, also in the table or in what is
    written to it, and the main tables are. -/
structure SameTags (s s' : Settings) : Prop where
  tag : s'.userDefaults.lastETag = s.userDefaults.lastETag
  updated : s'.userDefaults.lastETagUpdateTime = s.userDefaults.lastETagUpdateTime
  applied : s'.metadata.lastApplyTimeInterval = s.metadata.lastApplyTimeInterval
  stored : ∀ row' ∈ s'.metadataTable,
    row'.lastApplyTimeInterval = s.metadata.lastApplyTimeInterval ∨
      ∃ row ∈ s.metadataTable, row'.lastApplyTimeInterval = row.lastApplyTimeInterval
  tables : ConfigContent.load s'.dbManager.settled = ConfigContent.load s.dbManager.settled

section

variable {s s' s'' : Settings}

/-- Where nothing happens, nothing changes. -/
theorem SameTags.refl (s : Settings) : SameTags s s :=
  ⟨rfl, rfl, rfl, fun row hrow => Or.inr ⟨row, hrow, rfl⟩, rfl⟩

/-- And so over two steps. A row may be new in either of them. -/
theorem SameTags.trans (h : SameTags s s') (h' : SameTags s' s'') : SameTags s s'' := by
  refine ⟨h'.tag.trans h.tag, h'.updated.trans h.updated, h'.applied.trans h.applied,
    fun row hrow => ?_, h'.tables.trans h.tables⟩
  rcases h'.stored row hrow with heq | ⟨row', hrow', heq⟩
  · exact Or.inl (heq.trans h.applied)
  · rcases h.stored row' hrow' with heq' | ⟨row'', hrow'', heq'⟩
    · exact Or.inl (heq.trans heq')
    · exact Or.inr ⟨row'', hrow'', heq.trans heq'⟩

/-- The setters that concern the status of a fetch, its error and the backoff.
    Where one writes, it is to the metadata, whose time stays. -/
theorem sameTags_setLastFetchError (s : Settings) (error : ConfigError) :
    SameTags s (s.setLastFetchError error) := by
  by_cases herror : s.metadata.lastFetchError = error
  · rw [setLastFetchError, if_neg (not_not_intro herror)]
    exact SameTags.refl s
  · have hrows := metadataTable_setLastFetchError s herror
    rw [setLastFetchError, if_pos herror] at hrows ⊢
    refine ⟨rfl, rfl, rfl, fun row hrow => ?_, ?_⟩
    · rw [hrows] at hrow
      rcases Option.map_eq_some_iff.mp (Option.mem_def.mp hrow) with ⟨row', hrow', rfl⟩
      exact Or.inr ⟨row', hrow', rfl⟩
    · rw [write, DBManager.settled_dispatch]
      rfl

theorem sameTags_setLastFetchStatus (s : Settings) (status : FetchStatus) :
    SameTags s (s.setLastFetchStatus status) :=
  ⟨rfl, rfl, rfl, fun row hrow => Or.inr ⟨row, hrow, rfl⟩, rfl⟩

theorem sameTags_backoff (s : Settings) (now : NSTimeInterval) (plus : Bool) :
    SameTags s (s.updateExponentialBackoffTime now plus) :=
  ⟨rfl, rfl, rfl, fun row hrow => Or.inr ⟨row, hrow, rfl⟩, rfl⟩

/-- The row is replaced by one that has the time which is in memory. -/
theorem sameTags_updateMetadata (s : Settings) (now : NSTimeInterval) (device : DeviceContext)
    (fetchSuccess : Bool) :
    SameTags s (s.updateMetadataWithFetchSuccessStatus now device fetchSuccess) := by
  refine ⟨rfl, rfl, rfl, fun row hrow => Or.inl ?_, ?_⟩
  · rw [metadataTable_updateMetadata] at hrow
    rw [← Option.some.inj (Option.mem_def.mp hrow)]
    rfl
  · rw [updateMetadataWithFetchSuccessStatus, write, DBManager.settled_dispatch]
    rfl

/-- A write that has run. -/
theorem sameTags_runOperation (s : Settings) :
    SameTags s { s with dbManager := s.dbManager.runOperation } := by
  refine ⟨rfl, rfl, rfl, fun row hrow => Or.inr ⟨row, ?_, rfl⟩, ?_⟩
  · rw [metadataTable, DBManager.settled_runOperation] at hrow
    exact hrow
  · rw [DBManager.settled_runOperation]

end

end Settings

namespace RemoteConfig

/-- The fetched config is that of the last tag, the times tell whether it is
    active, the tables come to what is in memory, and the log is right. Every
    key that all templates have a value for has the value of the last
    activation that brought one. -/
structure Consistent (template : String → Config) (t : NSTimeInterval) (s : RemoteConfig) :
    Prop where
  time : 0 ≤ t
  fetched : s.content.fetchedConfig = served template s.settings.userDefaults.lastETag
  untagged : s.settings.userDefaults.lastETag = none → s.content.activeConfig = SortedMap.empty
  memory : Tells t s.settings.userDefaults.lastETagUpdateTime s.content s.settings.metadata
  updated : 0 ≤ s.settings.userDefaults.lastETagUpdateTime
  stored : ∀ row ∈ s.settings.metadataTable,
    Tells t s.settings.userDefaults.lastETagUpdateTime s.content row
  tables : ConfigContent.load s.settings.dbManager.settled = s.content
  log : ∀ tag config, .activated tag config ∈ s.log → config = served template tag
  values : ∀ key, (∀ eTag, (template eTag).find key ≠ none) →
    s.content.activeConfig.find key = (s.log.filterMap (Output.value key)).getLast?

section

variable {template : String → Config} {s s' : RemoteConfig} {now t : NSTimeInterval} {r : Response}
  {o : Output}

/-- What is past at one time is past later. -/
theorem Consistent.mono (h : Consistent template t s) (hle : t ≤ now) :
    Consistent template now s where
  time := h.time.trans hle
  fetched := h.fetched
  untagged := h.untagged
  memory := { h.memory with past := h.memory.past.trans hle }
  updated := h.updated
  stored row hrow := { h.stored row hrow with past := (h.stored row hrow).past.trans hle }
  tables := h.tables
  log := h.log
  values := h.values

/-- Only the configs, the tag, the times and the log matter. -/
theorem Consistent.congr (h : Consistent template t s) (hcontent : s'.content = s.content)
    (hsettings : Settings.SameTags s.settings s'.settings) (hlog : s'.log = s.log) :
    Consistent template t s' := by
  have hrow : ∀ row row' : Metadata, row'.lastApplyTimeInterval = row.lastApplyTimeInterval →
      Tells t s.settings.userDefaults.lastETagUpdateTime s.content row →
      Tells t s'.settings.userDefaults.lastETagUpdateTime s'.content row' := by
    intro row row' heq htells
    rw [hsettings.updated, hcontent]
    exact ⟨heq ▸ htells.start, heq ▸ htells.past, heq ▸ htells.active⟩
  refine ⟨h.time, ?_, ?_, hrow _ _ hsettings.applied h.memory, ?_, fun row' hrow' => ?_, ?_, ?_,
    ?_⟩
  · rw [hcontent, hsettings.tag]
    exact h.fetched
  · rw [hcontent, hsettings.tag]
    exact h.untagged
  · rw [hsettings.updated]
    exact h.updated
  · rcases hsettings.stored row' hrow' with heq | ⟨row, hmem, heq⟩
    · exact hrow _ _ heq h.memory
    · exact hrow _ _ heq (h.stored row hmem)
  · rw [hcontent, hsettings.tables]
    exact h.tables
  · rw [hlog]
    exact h.log
  · rw [hcontent, hlog]
    exact h.values

/-- Settings that differ in nothing of this. -/
theorem consistent_settings (h : Consistent template t s) {settings : Settings}
    (hsettings : Settings.SameTags s.settings settings) :
    Consistent template t { s with settings } :=
  h.congr rfl hsettings rfl

/-- Anything but an activation goes into the log. -/
theorem consistent_write (h : Consistent template t s)
    (ho : ∀ tag config, o ≠ .activated tag config) : Consistent template t (s.write o) := by
  refine ⟨h.time, h.fetched, h.untagged, h.memory, h.updated, h.stored, h.tables,
    fun tag config hmem => ?_, fun key hkey => ?_⟩
  · rcases List.mem_append.mp hmem with hmem | hmem
    · exact h.log tag config hmem
    · exact absurd (List.mem_singleton.mp hmem).symm (ho tag config)
  · have hnone : o.value key = none := by
      cases o with
      | activated tag config => exact absurd rfl (ho tag config)
      | _ => rfl
    rw [write, List.filterMap_append, List.filterMap_cons_none hnone, List.filterMap_nil,
      List.append_nil]
    exact h.values key hkey

/-- The end of a fetch. -/
theorem consistent_reportCompletion (h : Consistent template t s) (status : FetchStatus)
    (error : Option ConfigError) : Consistent template t (s.reportCompletion status error) := by
  refine consistent_write ?_ fun _ _ => Output.noConfusion
  exact h.congr rfl (Settings.SameTags.refl _) rfl

/-- Whether a fetch is under way is for `Protocol` to say. -/
theorem consistent_setFetchInProgress (h : Consistent template t s) (isFetchInProgress : Bool) :
    Consistent template t (s.setFetchInProgress isFetchInProgress) :=
  consistent_settings h ⟨rfl, rfl, rfl, fun row hrow => Or.inr ⟨row, hrow, rfl⟩, rfl⟩

/-- A refusal. -/
theorem consistent_reportThrottled (h : Consistent template t s) :
    Consistent template t s.reportThrottled := by
  refine consistent_reportCompletion (consistent_settings h ?_) .throttled (some .throttled)
  exact (Settings.sameTags_setLastFetchStatus _ _).trans (Settings.sameTags_setLastFetchError _ _)

/-- A fetch that is started, or ends at once. -/
theorem consistent_fetchConfig (h : Consistent template t s)
    (now expirationDuration : NSTimeInterval) (changed : Bool) :
    Consistent template t (s.fetchConfig now expirationDuration changed) := by
  rw [fetchConfig]
  split_ifs
  · exact consistent_reportCompletion h .success none
  · exact consistent_reportCompletion h s.settings.metadata.lastFetchStatus none
  · exact consistent_reportCompletion h .failure none
  · exact consistent_reportThrottled h
  · refine consistent_write ?_ fun _ _ => Output.noConfusion
    exact (consistent_setFetchInProgress h true).congr rfl (Settings.SameTags.refl _) rfl

/-- A failure brings neither a tag nor a config. -/
theorem consistent_handleFailure (h : Consistent template t s) (now : NSTimeInterval)
    (plus : Bool) : Consistent template t (s.handleFailure now plus r) := by
  have hmetadata := Settings.sameTags_updateMetadata s.settings now s.device false
  have hbackoff := hmetadata.trans (Settings.sameTags_backoff _ now plus)
  have hend : ∀ settings : Settings, Settings.SameTags s.settings settings →
      Consistent template t ({ s with
        settings := (settings.setLastFetchStatus .failure).setLastFetchError .internalError
        }.reportCompletion .failure (some .internalError)) := by
    intro settings hsettings
    refine consistent_reportCompletion (consistent_settings h ?_) .failure (some .internalError)
    exact (hsettings.trans (Settings.sameTags_setLastFetchStatus _ _)).trans
      (Settings.sameTags_setLastFetchError _ _)
  rw [handleFailure]
  split_ifs with hbacksOff hthrottle hthrottle
  · exact consistent_reportThrottled (consistent_settings h hbackoff)
  · exact hend _ hbackoff
  · exact absurd hthrottle.1 hbacksOff
  · exact hend _ hmetadata

/-- Other configs, of which only the defaults differ. -/
theorem consistent_setContent (h : Consistent template t s)
    {content : ConfigContent × List DatabaseOperation}
    (hwritten : ConfigContent.Written s.settings.dbManager.settled content)
    (hactive : content.1.activeConfig = s.content.activeConfig)
    (hfetched : content.1.fetchedConfig = s.content.fetchedConfig) :
    Consistent template t (s.setContent content) := by
  have htells : ∀ row, Tells t s.settings.userDefaults.lastETagUpdateTime s.content row →
      Tells t s.settings.userDefaults.lastETagUpdateTime content.1 row := by
    refine fun row hrow => ⟨hrow.start, hrow.past, fun hle => ?_⟩
    rw [hactive, hfetched]
    exact hrow.active hle
  have hvalues := h.values
  rw [← hactive] at hvalues
  refine ⟨h.time, hfetched.trans h.fetched, fun hnone => hactive.trans (h.untagged hnone),
    htells _ h.memory, h.updated, fun row hrow => htells row (h.stored row ?_), ?_, h.log, hvalues⟩
  · rw [setContent, Settings.metadataTable, Settings.write, DBManager.settled_dispatch,
      hwritten.rows] at hrow
    exact hrow
  · rw [setContent, Settings.write, DBManager.settled_dispatch]
    exact hwritten.tables

/-- A good response whose config is that of its tag. A tag without a change
    is taken for one, which does no harm. -/
theorem consistent_acceptResponse (h : Consistent template t s) (hlt : t < now)
    {content : ConfigContent × List DatabaseOperation} {eTag : Option String}
    (hwritten : ConfigContent.Written s.settings.dbManager.settled content)
    (hactive : content.1.activeConfig = s.content.activeConfig)
    (hserved : content.1.fetchedConfig
      = served template (eTag.or s.settings.userDefaults.lastETag)) :
    Consistent template now ((s.setContent content).acceptResponse now eTag) := by
  have hpositive : now ≠ 0 := ne_of_gt (h.time.trans_lt hlt)
  have hdefaults : (s.setContent content).settings.userDefaults = s.settings.userDefaults := rfl
  rw [acceptResponse, hdefaults]
  refine consistent_reportCompletion (consistent_write ?_ fun _ _ => Output.noConfusion) _ _
  split_ifs with htag
  · -- The last activation was before this tag.
    have hvalues := h.values
    rw [← hactive] at hvalues
    have htells : Tells now now content.1 s.settings.metadata :=
      ⟨h.memory.start, h.memory.past.trans hlt.le,
        fun hle => absurd (hle.trans h.memory.past) (not_le.mpr hlt)⟩
    have hupdated : (((s.setContent content).settings.setLastETag now eTag
        ).updateMetadataWithFetchSuccessStatus now s.device true).userDefaults.lastETagUpdateTime
          = now := by
      simp only [Settings.updateMetadataWithFetchSuccessStatus, Settings.write,
        Settings.setLastETag, hpositive, if_false]
    refine ⟨h.time.trans hlt.le, hserved, fun hnone => ?_, ?_, ?_, fun row hrow => ?_, ?_, h.log,
      hvalues⟩
    · exact hactive.trans (h.untagged (Option.or_eq_none_iff.mp hnone).2)
    · exact hupdated.symm ▸ ⟨htells.start, htells.past, htells.active⟩
    · exact hupdated.symm ▸ h.time.trans hlt.le
    · rw [Settings.metadataTable_updateMetadata] at hrow
      rw [← Option.some.inj (Option.mem_def.mp hrow)]
      exact hupdated.symm ▸ ⟨htells.start, htells.past, htells.active⟩
    · refine (Settings.sameTags_updateMetadata _ now s.device true).tables.trans ?_
      rw [Settings.setLastETag, setContent, Settings.write, DBManager.settled_dispatch]
      exact hwritten.tables
  · -- Both the tag and the config are as they were.
    rw [not_or, not_not] at htag
    have hfetched : content.1.fetchedConfig = s.content.fetchedConfig := by
      rw [hserved, h.fetched, ← htag.2, Option.or_self]
    have hcontent := consistent_setContent (h.mono hlt.le) hwritten hactive hfetched
    exact consistent_settings hcontent (Settings.sameTags_updateMetadata _ now s.device true)

/-- A response of an honest backend. -/
theorem consistent_handleResponse (h : Consistent template t s) (hlt : t < now) (plus : Bool)
    (hhonest : r.Honest template s.settings.userDefaults.lastETag) :
    Consistent template now (s.handleResponse now plus r) := by
  rw [handleResponse]
  split_ifs with hbad
  · exact consistent_handleFailure (h.mono hlt.le) now plus
  -- One case for each of the answers that a backend may give.
  rw [not_or, not_not, Bool.not_eq_true] at hbad
  have hbody := hhonest hbad.1 hbad.2
  have hwritten := fun state entries => ConfigContent.written_update h.tables state entries
  rcases r with ⟨error, statusCode, eTag, body⟩
  cases hbody with
  | noData => exact consistent_reportCompletion (h.mono hlt.le) .success none
  | serverError =>
      exact consistent_reportCompletion (h.mono hlt.le) .failure (some .internalError)
  | noChange entries eTag hsame =>
      refine consistent_acceptResponse h hlt (hwritten _ _) rfl (h.fetched.trans ?_)
      rcases hsame with rfl | rfl
      · rw [Option.none_or]
      · rw [Option.or_self]
  | update eTag =>
      exact consistent_acceptResponse h hlt (hwritten _ _) rfl (ConfigContent.addAll_elements _)
  | emptyConfig eTag entries hempty =>
      exact consistent_acceptResponse h hlt (hwritten _ _) rfl hempty.symm
  | noTemplate eTag entries hempty =>
      exact consistent_acceptResponse h hlt (hwritten _ _) rfl hempty.symm

/-- What the log says of an activation of the fetched config is right. -/
theorem log_activated (h : Consistent template t s) {config : Config}
    (hconfig : config = served template s.settings.userDefaults.lastETag) :
    ∀ tag config', .activated tag config' ∈
      s.log ++ [Output.activated s.settings.userDefaults.lastETag config] →
      config' = served template tag := by
  intro tag config' hmem
  rcases List.mem_append.mp hmem with hmem | hmem
  · exact h.log tag config' hmem
  · rcases Output.activated.inj (List.mem_singleton.mp hmem) with ⟨rfl, rfl⟩
    exact hconfig

/-- And so is the value that it gives a key which all templates have. -/
theorem values_activated (h : Consistent template t s) {config : Config}
    (hconfig : config = served template s.settings.userDefaults.lastETag) (key : String)
    (hkey : ∀ eTag, (template eTag).find key ≠ none) :
    config.find key = ((s.log ++
      [Output.activated s.settings.userDefaults.lastETag config]).filterMap
        (Output.value key)).getLast? := by
  rw [List.filterMap_append]
  rcases htag : s.settings.userDefaults.lastETag with _ | eTag
  · -- Nothing has ever been fetched.
    rw [htag] at hconfig
    have hnone : config.find key = none := by
      rw [hconfig]
      exact SortedMap.find_empty key
    have hvalue : Output.value key (.activated none config) = none := hnone
    rw [List.filterMap_cons_none hvalue, List.filterMap_nil, List.append_nil, ← h.values key hkey,
      h.untagged htag, hnone]
    exact (SortedMap.find_empty key).symm
  · rw [htag] at hconfig
    rcases Option.ne_none_iff_exists'.mp (hkey eTag) with ⟨value, htemplate⟩
    have hvalue : Output.value key (.activated (some eTag) config) = some value := by
      rw [hconfig]
      exact htemplate
    rw [List.filterMap_cons_some hvalue, List.filterMap_nil, List.getLast?_concat]
    exact hvalue

/-- An activation, whether it has something to copy or not. -/
theorem consistent_activate (h : Consistent template t s) (hlt : t < now) :
    Consistent template now (s.activate now) := by
  have hnow := h.mono hlt.le
  rw [activate]
  refine consistent_write ?_ fun _ _ => Output.noConfusion
  split_ifs with hrecent
  · -- Nothing has come since the last activation.
    have hactive : s.content.activeConfig = s.content.fetchedConfig := by
      refine h.memory.active ?_
      rcases hrecent with hzero | hle
      · rw [hzero]
        exact h.memory.start
      · exact hle
    have hserved := hactive.trans h.fetched
    exact ⟨hnow.time, hnow.fetched, hnow.untagged, hnow.memory, hnow.updated, hnow.stored,
      hnow.tables, log_activated h hserved, values_activated h hserved⟩
  · have hactive := s.content.activeConfig_activate
    have hserved := hactive.trans h.fetched
    have htells : ∀ row : Metadata, row.lastApplyTimeInterval = now →
        Tells now s.settings.userDefaults.lastETagUpdateTime s.content.activate.1 row :=
      fun row hrow => ⟨hrow ▸ hnow.time, hrow.le, fun _ => hactive⟩
    refine ⟨hnow.time, h.fetched, fun hnone => ?_, htells _ rfl, h.updated, fun row hrow => ?_, ?_,
      log_activated h hserved, values_activated h hserved⟩
    · exact hserved.trans (congrArg (served template) hnone)
    -- The row of the table is rewritten with the time, if there is one.
    · have hrows := (s.settings.write s.content.activate.2
        ).metadataTable_setLastApplyTimeInterval now
      rcases Option.map_eq_some_iff.mp (hrows.symm.trans (Option.mem_def.mp hrow)) with
        ⟨row', -, rfl⟩
      exact htells _ rfl
    -- The time goes to the metadata, and the copy to the table of the active config.
    · change ConfigContent.load ((s.settings.dbManager.dispatch s.content.activate.2).dispatch
        [.updateApplyTime now]).settled = s.content.activate.1
      rw [DBManager.settled_dispatch, DBManager.settled_dispatch]
      exact (ConfigContent.written_activate h.tables).tables

/-- A block that may read a response of an honest backend. -/
theorem consistent_runBlock (h : Consistent template t s) (hlt : t < now) (plus : Bool)
    (b : Block)
    (hhonest : ∀ r, b = .response r → r.Honest template s.settings.userDefaults.lastETag) :
    Consistent template now (s.runBlock now plus b) := by
  have hnow := h.mono hlt.le
  have hsame := Settings.SameTags.refl s.settings
  cases b with
  | setDefaults defaults =>
      -- The defaults are a config of their own.
      exact consistent_setContent hnow (ConfigContent.written_setDefaults hnow.tables defaults) rfl
        rfl
  | setConfigSettings minimumFetchInterval =>
      exact consistent_settings hnow ⟨rfl, rfl, rfl, fun row hrow => Or.inr ⟨row, hrow, rfl⟩, rfl⟩
  | fetch => exact hnow.congr rfl hsame rfl
  | fetchConfig expirationDuration changed =>
      exact consistent_fetchConfig hnow now expirationDuration changed
  | installations identifier =>
      rw [runBlock]
      split_ifs
      · exact hnow.congr rfl hsame rfl
      · exact consistent_reportCompletion (consistent_setFetchInProgress hnow false) _ _
  | fetchWithUserProperties => exact hnow.congr rfl hsame rfl
  | response r => exact consistent_handleResponse h hlt plus (hhonest r rfl)
  | activate => exact consistent_activate h hlt

/-- An event that reads no clock. -/
theorem consistent_idle (h : Consistent template t s) {e : Event} (htime : e.time = none)
    (hpromised : Promised template s e) : Consistent template t (s.step e) := by
  have hsame := Settings.SameTags.refl s.settings
  cases e with
  | run now plus => exact absurd htime (Option.some_ne_none now)
  | setDefaults defaults => exact h.congr rfl hsame rfl
  | setConfigSettings minimumFetchInterval => exact h.congr rfl hsame rfl
  | fetchAndActivate => exact h.congr rfl hsame rfl
  | token token identifier =>
      rw [step]
      split
      · exact h
      · rename_i tokens htokens
        have hheld : Consistent template t { s with tokens } := h.congr rfl hsame rfl
        simp only
        split_ifs
        · exact hheld.congr rfl hsame rfl
        · exact consistent_reportCompletion (consistent_setFetchInProgress hheld false) _ _
  | respond i r =>
      rw [step]
      split_ifs
      · have hheld : Consistent template t { s with requests := s.requests.eraseIdx i } :=
          h.congr rfl hsame rfl
        exact (consistent_setFetchInProgress hheld false).congr rfl (Settings.SameTags.refl _) rfl
      · exact h
  | complete =>
      rw [step, complete]
      split
      · exact h
      · rename_i status error completions hcompletions
        have hrest : Consistent template t { s with completions } := h.congr rfl hsame rfl
        split_ifs
        · exact hrest.congr rfl hsame rfl
        all_goals exact consistent_write hrest fun _ _ => Output.noConfusion
  | database => exact consistent_settings h (Settings.sameTags_runOperation s.settings)
  | restart device =>
      -- All has been written, so the process finds what was in memory.
      have hsettled := DBManager.database_eq_settled hpromised
      have hcontent : ConfigContent.load s.settings.dbManager.database = s.content := by
        rw [hsettled]
        exact h.tables
      have hrows : s.settings.dbManager.database.metadataTable = s.settings.metadataTable :=
        congrArg Database.metadataTable hsettled
      rw [step, Settings.load, hcontent, hrows]
      refine ⟨h.time, h.fetched, h.untagged, ?_, h.updated,
        fun row hrow => h.stored row (hrows ▸ hrow), hcontent, h.log, h.values⟩
      change Tells t s.settings.userDefaults.lastETagUpdateTime s.content
        (s.settings.metadataTable.getD {})
      rcases hrow : s.settings.metadataTable with _ | row
      · -- Without a row the process remembers no activation.
        exact ⟨le_rfl, h.time, fun hle => h.memory.active (hle.trans h.memory.start)⟩
      · exact h.stored row hrow

/-- A block, later than the one before. -/
theorem consistent_tick (h : Consistent template t s) (hprotocol : Protocol template 0 s)
    {e : Event} (htime : e.time = some now) (hlt : t < now) :
    Consistent template now (s.step e) := by
  cases e with
  | run now' plus =>
      cases htime
      rw [step]
      split
      · exact h.mono hlt.le
      · rename_i block queue hqueue
        have hrest : Consistent template t { s with queue } :=
          h.congr rfl (Settings.SameTags.refl _) rfl
        refine consistent_runBlock hrest hlt plus block fun r hr => hprotocol.honest r ?_
        rw [hqueue, hr]
        exact List.mem_cons_self
  | _ => exact absurd htime (Option.some_ne_none now).symm

/-- Both invariants, at the end of a run. -/
theorem run_installed (template : String → Config) (device : DeviceContext) (ht : 0 ≤ t)
    {es : List Event} (hticking : Ticking t es)
    (hpromised : Run.Along step (Promised template) (installed device) es) :
    ∃ t', Consistent template t' (Run.run step (installed device) es) ∧
      Protocol template 0 (Run.run step (installed device) es) := by
  refine Run.run_of_clock step Event.time (· < ·) (Promised template)
    (fun t s => Consistent template t s ∧ Protocol template 0 s)
    (fun _ _ _ htime hc h => ⟨consistent_idle h.1 htime hc, protocol_step h.2 hc⟩)
    (fun _ _ _ _ htime hlt hc h => ⟨consistent_tick h.1 h.2 htime hlt, protocol_step h.2 hc⟩)
    es t (installed device) ⟨?_, ?_⟩ hticking hpromised
  · exact ⟨ht, rfl, fun _ => rfl, ⟨le_rfl, ht, fun _ => rfl⟩, le_rfl,
      fun _ h => absurd h (Option.not_mem_none _), rfl, fun _ _ h => absurd h List.not_mem_nil,
      fun key _ => SortedMap.find_empty key⟩
  · exact ⟨rfl, List.Pairwise.nil, fun h => absurd rfl h, fun _ h => absurd h List.not_mem_nil,
      fun _ h => absurd h List.not_mem_nil⟩

end

end RemoteConfig

open RemoteConfig in
/-- Whatever the order in which the app calls, the blocks and the writes run,
    the answers come and the process ends and starts again: as long as the
    clock moves on from block to block, the backend answers each request by its
    tag and no write is lost, every activation leaves the config that the last
    tag stands for. At most one request waits for its response, and its tag is
    still the last one, as is the tag that a response answers which has come
    and is yet to be read. -/
theorem activated_template (template : String → Config) (device : DeviceContext)
    (t : NSTimeInterval) (ht : 0 ≤ t) (es : List Event) (hticking : Ticking t es)
    (hpromised : Run.Along step (Promised template) (installed device) es) :
    let s := Run.run step (installed device) es
    (∀ tag config, .activated tag config ∈ s.log → config = served template tag) ∧
      s.requests.length ≤ 1 ∧ (∀ tag ∈ s.requests, tag = s.settings.userDefaults.lastETag) ∧
      ∀ r, .response r ∈ s.queue → r.Honest template s.settings.userDefaults.lastETag := by
  intro s
  rcases run_installed template device ht hticking hpromised with ⟨t', h, hprotocol⟩
  exact ⟨h.log, hprotocol.length_requests, hprotocol.tags, hprotocol.honest⟩

/-- A template that asks for a newer build. -/
def askUpdate (_ : String) : Config :=
  SortedMap.empty.insert "update" "26"

/-- A config comes and is activated, up to the end of the process. -/
def activation : List Event :=
  [.fetchAndActivate, .run 1 true, .run 2 true, .token true true, .run 3 true, .run 4 true,
    .respond 0 ⟨false, 200, some "a", .config (some "UPDATE") (some (askUpdate "a"))⟩,
    .run 5 true, .complete, .run 6 true]

/-- A day later there is nothing new. -/
def dayLater : List Event :=
  [.fetchAndActivate, .run 86400 true, .run 86401 true, .token true true, .run 86402 true,
    .run 86403 true, .respond 0 ⟨false, 200, none, .config (some "NO_CHANGE") none⟩,
    .run 86404 true, .complete, .run 86405 true]

open RemoteConfig in
/-- A config comes and is activated, the database runs its seven writes, the
    process ends, and a day later there is nothing new. -/
theorem activated_template_restart :
    let device : DeviceContext := ⟨"1.0", "25", "17.0", "ar", none⟩
    let s := Run.run step (installed device)
      (activation ++ List.replicate 7 .database ++ .restart device :: dayLater)
    (∀ tag config, .activated tag config ∈ s.log → config = served askUpdate tag) ∧
      s.requests.length ≤ 1 ∧ (∀ tag ∈ s.requests, tag = s.settings.userDefaults.lastETag) ∧
      ∀ r, .response r ∈ s.queue → r.Honest askUpdate s.settings.userDefaults.lastETag := by
  intro device
  have htimes : (activation ++ List.replicate 7 Event.database ++ .restart device :: dayLater
      ).filterMap Event.time
      = [1, 2, 3, 4, 5, 6, 86400, 86401, 86402, 86403, 86404, 86405] := rfl
  refine activated_template askUpdate device 0 le_rfl _ ?_ ?_
  · rw [Ticking, htimes]
    norm_num
  · have hupdate : ∀ tag, Body.Honest askUpdate tag
        (.config (some "UPDATE") (some (askUpdate "a"))) (some "a") := fun _ => .update "a"
    have hnoChange : ∀ tag, Body.Honest askUpdate tag (.config (some "NO_CHANGE") none) none :=
      fun _ => .noChange none none (Or.inl rfl)
    exact ⟨trivial, trivial, trivial, trivial, trivial, trivial, fun tag _ _ _ => hupdate tag,
      trivial, trivial, trivial, trivial, trivial, trivial, trivial, trivial, trivial, trivial,
      List.isEmpty_iff.mp (by decide +kernel), trivial, trivial, trivial, trivial, trivial, trivial,
      fun tag _ _ _ => hnoChange tag, trivial, trivial, trivial, trivial⟩

open RemoteConfig in
/-- Where the process ends before its writes have run, the tag stays and the
    config is lost, for good. -/
example :
    let device : DeviceContext := ⟨"1.0", "25", "17.0", "ar", none⟩
    let s := Run.run step (installed device) (activation ++ .restart device :: dayLater)
    s.settings.userDefaults.lastETag = some "a" ∧ s.content.activeConfig.elements = [] := by
  decide +kernel

open RemoteConfig UpdateCheck in
/-- If all templates have a value of `update`, the app reads the one in effect
    after the fetches so far, whatever became of those that activated none,
    under the same assumptions. -/
theorem value_in_effect (template : String → Config) (device : DeviceContext)
    (t : NSTimeInterval) (ht : 0 ≤ t) (es : List Event) (hticking : Ticking t es)
    (hpromised : Run.Along step (Promised template) (installed device) es)
    (hupdate : ∀ eTag, (template eTag).find "update" ≠ none) (fetches : List Outcome)
    (hfetches : fetches.filterMap Outcome.value
      = (Run.run step (installed device) es).log.filterMap (Output.value "update"))
    (hdefault : (Run.run step (installed device) es).content.defaultConfig.find "update"
      = some (toString defaults)) :
    (Run.run step (installed device) es).content.configValueForKey "update" = inEffect fetches := by
  rcases run_installed template device ht hticking hpromised with ⟨t', h, -⟩
  rw [ConfigContent.configValueForKey, h.values "update" hupdate, hdefault, inEffect, hfetches]
  rcases (List.filterMap (Output.value "update") _).getLast? with _ | value
  · rw [Option.none_or, Option.getD_some, Option.getD_none]
  · rw [Option.some_or, Option.getD_some, Option.getD_some]

open RemoteConfig UpdateCheck in
/-- The app sets its default, the config comes that asks for an update, and
    after the end of the process, with ten writes run, it is still in effect. -/
theorem value_in_effect_update :
    let device : DeviceContext := ⟨"1.0", "25", "17.0", "ar", none⟩
    let events : List Event := .setDefaults (SortedMap.empty.insert "update" (.number 25)) ::
      .run (1 / 2) true :: activation ++ List.replicate 10 .database ++ [.restart device]
    (Run.run step (installed device) events).content.configValueForKey "update"
      = inEffect [.activated "26"] := by
  intro device events
  have htimes : events.filterMap Event.time = [1 / 2, 1, 2, 3, 4, 5, 6] := rfl
  refine value_in_effect askUpdate device 0 le_rfl events ?_ ?_ (fun eTag => ?_) _ ?_ ?_
  · rw [Ticking, htimes]
    norm_num
  · exact ⟨trivial, trivial, trivial, trivial, trivial, trivial, trivial, trivial,
      fun _ _ _ _ => .update "a", trivial, trivial, trivial, trivial, trivial, trivial, trivial,
      trivial, trivial, trivial, trivial, trivial, trivial, List.isEmpty_iff.mp (by decide +kernel),
      trivial⟩
  · rw [askUpdate, SortedMap.find_insert, if_pos rfl]
    exact Option.some_ne_none _
  · decide +kernel
  · decide +kernel

end RemoteConfigCore

end JkbEmpOffers
