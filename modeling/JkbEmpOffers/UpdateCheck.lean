import JkbEmpOffers.App
import JkbEmpOffers.Library.Run

/-!
# The Update Check

Every launch fetches the remote config, compares its value of `update` with
the build number and shows a dialog that asks for an update when the app is
too old. A value that has been activated once stays for later launches, and
before any was there is a default.

The fetch and the comparison are in one `try` block. A fetch that throws
jumps over the comparison, so the launch asks for nothing, whatever the value
in effect. The message it prints says that "Cached or default values will be
used".

`Checked` is the property: a launch shows the dialog exactly when the build
number is below the value in effect, which is read off the history of the
fetches. `Settled` is the condition on a launch: the fetch does not throw
while the build number is below that value.

## Main definitions

* `Outcome`: What `fetchAndActivate` may do.
* `remoteConfigFirebase`: The check of one launch.
* `inEffect`: The value that the fetches so far leave in effect.
* `Device`, `launch`: What outlives a launch, and a launch.
* `Checked`, `Needed`, `Settled`: The property, half of it, and the condition.

## Theorems

* `remoteConfigFirebase_eq`: What the check does with a numeric build number.
* `app_remoteChecked`: The dialog of the check is that of the app.
* `getString_after`: The value that is read after a fetch.
* `needed_launches`: The dialog is never shown without need.
* `checked_launch`: The launches that keep `Checked`.
* `checked_iff`: The runs that do.
* `failed_after_update`: A run that does not.
-/

namespace JkbEmpOffers

namespace UpdateCheck

/-- What the `try` block may throw: an exception of the package with its text,
    or another one. -/
inductive RemoteException where
  | firebase (text : String)
  | other
  deriving DecidableEq

/-- What `fetchAndActivate` may do: activate a new value of `update`, find
    nothing new, or throw because it is throttled, timed out or failed. -/
inductive Outcome where
  | activated (update : String)
  | unchanged
  | throws (exception : RemoteException)
  deriving DecidableEq

/-- The activated value of `update`, kept across launches. -/
structure RemoteConfig where
  activated : Option String
  deriving DecidableEq

/-- The default of `update`. -/
def defaults : Nat := 25

namespace RemoteConfig

/-- `remoteConfig.getString('update')` -/
def getString (c : RemoteConfig) : String :=
  c.activated.getD (toString defaults)

/-- `remoteConfig.fetchAndActivate()` -/
def fetchAndActivate (c : RemoteConfig) : Outcome → Except RemoteException RemoteConfig
  | .activated update => .ok { c with activated := some update }
  | .unchanged => .ok c
  | .throws exception => .error exception

/-- The number that the comparison gets, if it is reached. -/
def configupdate (c : RemoteConfig) (o : Outcome) : Option Int :=
  match c.fetchAndActivate o with
  | .ok c => parseInt c.getString
  | .error _ => none

/-- The config after a fetch: one that throws leaves it as it is. -/
def after (c : RemoteConfig) (o : Outcome) : RemoteConfig :=
  match c.fetchAndActivate o with
  | .ok c => c
  | .error _ => c

end RemoteConfig

/-- What a check does: whether it shows the dialog, and what it prints. -/
structure Report where
  dialog : Bool
  printed : Option String
  deriving DecidableEq

/-- The two `catch` clauses. -/
def caught : RemoteException → Report
  | .firebase text => { dialog := false, printed := some text }
  | .other =>
    { dialog := false
      printed := some "Unable to fetch remote config. Cached or default values will be used" }

/-- `remoteConfigFirebase` -/
def remoteConfigFirebase (buildNumber : String) (o : Outcome) (c : RemoteConfig) :
    Except RemoteException (RemoteConfig × Report) :=
  match parseInt buildNumber with
  -- The build number is parsed before the `try`, so nothing catches this.
  | none => .error .other
  | some currentVersion =>
    match c.fetchAndActivate o with
    | .error exception => .ok (c, caught exception)
    | .ok c =>
      match parseInt c.getString with
      | none => .ok (c, caught .other)
      | some configupdate => .ok (c, { dialog := currentVersion < configupdate, printed := none })

/-- The value that an outcome activates. -/
def Outcome.value : Outcome → Option String
  | .activated update => some update
  | _ => none

/-- The value of `update` in effect after some fetches: the last one that was
    activated, or the default. -/
def inEffect (fetches : List Outcome) : String :=
  (fetches.filterMap Outcome.value).getLast?.getD (toString defaults)

/-- A value in effect is a number above the build number. -/
def Below (currentVersion : Int) (value : String) : Prop :=
  ∃ n ∈ parseInt value, currentVersion < n

instance (currentVersion : Int) (value : String) : Decidable (Below currentVersion value) :=
  inferInstanceAs (Decidable (∃ n ∈ parseInt value, currentVersion < n))

/-- The app on a device: its remote config, the fetches so far and the report
    of the last launch. -/
structure Device where
  config : RemoteConfig
  fetches : List Outcome
  report : Option Report

/-- Before the first launch. -/
def Device.new : Device :=
  { config := ⟨none⟩, fetches := [], report := none }

/-- A launch. -/
def launch (buildNumber : String) (d : Device) (o : Outcome) : Device :=
  match remoteConfigFirebase buildNumber o d.config with
  | .ok (config, report) => { config, fetches := d.fetches ++ [o], report := some report }
  | .error _ => { d with report := none }

/-- The last launch showed the dialog exactly when the build number is below
    the value in effect. -/
def Checked (currentVersion : Int) (d : Device) : Prop :=
  ∀ report ∈ d.report, report.dialog = true ↔ Below currentVersion (inEffect d.fetches)

instance (currentVersion : Int) (d : Device) : Decidable (Checked currentVersion d) :=
  inferInstanceAs (Decidable (∀ report ∈ d.report,
    report.dialog = true ↔ Below currentVersion (inEffect d.fetches)))

/-- The last launch showed the dialog only if the build number is below the
    value in effect. -/
def Needed (currentVersion : Int) (d : Device) : Prop :=
  ∀ report ∈ d.report, report.dialog = true → Below currentVersion (inEffect d.fetches)

/-- The fetch does not throw while the build number is below the value in
    effect. -/
def Settled (currentVersion : Int) (d : Device) (o : Outcome) : Prop :=
  ∀ exception, o = .throws exception → ¬ Below currentVersion (inEffect d.fetches)

instance (currentVersion : Int) (d : Device) :
    (o : Outcome) → Decidable (Settled currentVersion d o)
  | .activated _ | .unchanged => .isTrue fun _ ho => nomatch ho
  | .throws exception =>
    decidable_of_iff (¬ Below currentVersion (inEffect d.fetches))
      ⟨fun h _ _ => h, fun h => h exception rfl⟩

section

variable {buildNumber : String} {currentVersion : Int} {c : RemoteConfig} {d : Device} {o : Outcome}

/-- A fetch puts the value that it activates into effect. -/
theorem inEffect_append (fetches : List Outcome) (o : Outcome) :
    inEffect (fetches ++ [o]) = o.value.getD (inEffect fetches) := by
  rw [inEffect, List.filterMap_append]
  cases hvalue : o.value with
  | none =>
      rw [List.filterMap_cons_none hvalue, List.filterMap_nil, List.append_nil]
      rfl
  | some update =>
      rw [List.filterMap_cons_some hvalue, List.filterMap_nil, List.getLast?_concat]
      rfl

theorem getString_after (c : RemoteConfig) (o : Outcome) :
    (c.after o).getString = o.value.getD c.getString := by
  cases o with
  | activated update => rfl
  | unchanged => rfl
  | throws exception => rfl

/-- The comparison is reached by a fetch that does not throw, and gets a value
    in effect that is a number. -/
theorem mem_configupdate {n : Int} :
    n ∈ c.configupdate o ↔
      (∀ exception, o ≠ .throws exception) ∧ n ∈ parseInt (c.after o).getString := by
  cases o with
  | activated update => exact (and_iff_right fun _ => Outcome.noConfusion).symm
  | unchanged => exact (and_iff_right fun _ => Outcome.noConfusion).symm
  | throws exception => exact iff_of_false (Option.not_mem_none n) fun h => h.1 exception rfl

/-- A `catch` clause shows no dialog. -/
theorem dialog_caught (exception : RemoteException) : (caught exception).dialog = false := by
  cases exception with
  | firebase text => rfl
  | other => rfl

/-- With a numeric build number a check always comes to an end, and shows the
    dialog when the comparison is reached and finds the app too old. -/
theorem remoteConfigFirebase_eq (h : parseInt buildNumber = some currentVersion)
    (o : Outcome) (c : RemoteConfig) :
    ∃ report, remoteConfigFirebase buildNumber o c = .ok (c.after o, report) ∧
      (report.dialog = true ↔ ∃ n ∈ c.configupdate o, currentVersion < n) := by
  have hnone : ∀ exception,
      (caught exception).dialog = true ↔ ∃ n ∈ (none : Option Int), currentVersion < n := by
    intro exception
    rw [dialog_caught]
    exact iff_of_false Bool.false_ne_true fun ⟨n, hn, _⟩ => Option.not_mem_none n hn
  rcases hfetch : c.fetchAndActivate o with exception | c'
  · refine ⟨caught exception, ?_, ?_⟩
    · simp only [remoteConfigFirebase, h, RemoteConfig.after, hfetch]
    · rw [RemoteConfig.configupdate, hfetch]
      exact hnone exception
  rcases hparse : parseInt c'.getString with _ | configupdate
  · refine ⟨caught .other, ?_, ?_⟩
    · simp only [remoteConfigFirebase, h, RemoteConfig.after, hfetch, hparse]
    · simp only [RemoteConfig.configupdate, hfetch, hparse]
      exact hnone .other
  · refine ⟨{ dialog := currentVersion < configupdate, printed := none }, ?_, ?_⟩
    · simp only [remoteConfigFirebase, h, RemoteConfig.after, hfetch, hparse]
    · simp only [RemoteConfig.configupdate, hfetch, hparse, Option.mem_def, Option.some.injEq,
        exists_eq_left', decide_eq_true_eq]

/-- In the app, the end of the check brings the dialog that the check of a
    launch reports. -/
theorem app_remoteChecked (h : parseInt buildNumber = some currentVersion) {c' : RemoteConfig}
    {report : Report} (hcheck : remoteConfigFirebase buildNumber o c = .ok (c', report)) (s : App)
    (hpending : s.remotePending = true) :
    s.remoteChecked currentVersion (c.configupdate o) =
      let s' := { s with remotePending := false }
      if report.dialog then s'.pushNested (.blocking (App.showVersionDialog s.locale)) else s' := by
  rcases remoteConfigFirebase_eq h o c with ⟨report', hcheck', hdialog⟩
  cases hcheck.symm.trans hcheck'
  rcases hconfig : c.configupdate o with _ | n
  · have hfalse : ¬ report.dialog = true := by
      rw [hdialog, hconfig]
      exact fun ⟨n, hn, _⟩ => Option.not_mem_none n hn
    rw [if_neg hfalse]
    exact if_pos hpending
  · have hiff : report.dialog = true ↔ currentVersion < n := by
      rw [hdialog, hconfig]
      simp only [Option.mem_def, Option.some.injEq, exists_eq_left']
    simp only [App.remoteChecked, if_pos hpending, hiff]

/-- The activated value is the value in effect. -/
def Inv (d : Device) : Prop :=
  d.config.getString = inEffect d.fetches

/-- A launch with a numeric build number. -/
theorem launch_eq (h : parseInt buildNumber = some currentVersion) (d : Device) (o : Outcome) :
    ∃ report, launch buildNumber d o
        = { config := d.config.after o, fetches := d.fetches ++ [o], report := some report } ∧
      (report.dialog = true ↔
        (∀ exception, o ≠ .throws exception) ∧
          Below currentVersion (d.config.after o).getString) := by
  rcases remoteConfigFirebase_eq h o d.config with ⟨report, hcheck, hdialog⟩
  refine ⟨report, by rw [launch, hcheck], ?_⟩
  rw [hdialog, Below]
  simp only [mem_configupdate, and_assoc, exists_and_left]

theorem inv_launch (h : parseInt buildNumber = some currentVersion) (hd : Inv d) :
    Inv (launch buildNumber d o) := by
  rcases launch_eq h d o with ⟨report, hlaunch, -⟩
  rw [Inv, hlaunch, getString_after, inEffect_append, hd]

/-- A launch meets `Checked` exactly when its fetch does not throw over a
    dialog that is due. -/
theorem checked_launch (h : parseInt buildNumber = some currentVersion) (hd : Inv d) :
    Checked currentVersion (launch buildNumber d o) ↔ Settled currentVersion d o := by
  have hinv : Inv (launch buildNumber d o) := inv_launch h hd
  rcases launch_eq h d o with ⟨report, hlaunch, hdialog⟩
  rw [Inv, hlaunch] at hinv
  -- A fetch that throws leaves the value in effect as it is.
  have hsame : ∀ exception, o = .throws exception →
      inEffect (d.fetches ++ [o]) = inEffect d.fetches := by
    rintro exception rfl
    exact inEffect_append d.fetches (.throws exception)
  simp only [Checked, hlaunch, Option.mem_def, Option.some.injEq, forall_eq', hdialog]
  rw [hinv, and_iff_right_iff_imp]
  constructor
  · intro hreached exception ho hbelow
    exact hreached ((hsame exception ho).symm ▸ hbelow) exception ho
  · intro hsettled hbelow exception ho
    exact hsettled exception ho (hsame exception ho ▸ hbelow)

theorem needed_launches (h : parseInt buildNumber = some currentVersion) (os : List Outcome) :
    Run.Always (launch buildNumber) (Needed currentVersion) Device.new os := by
  refine Run.always_of_step (launch buildNumber) (fun d => Inv d ∧ Needed currentVersion d)
    (Needed currentVersion) ?_ (fun d hd => hd.2) os Device.new
    ⟨rfl, fun report hreport => absurd hreport (Option.not_mem_none report)⟩
  rintro d o ⟨hd, -⟩
  have hinv : Inv (launch buildNumber d o) := inv_launch h hd
  refine ⟨hinv, ?_⟩
  rcases launch_eq h d o with ⟨report, hlaunch, hdialog⟩
  rw [Inv, hlaunch] at hinv
  simp only [Needed, hlaunch, Option.mem_def, Option.some.injEq, forall_eq', hdialog]
  rw [hinv]
  exact And.right

end

/-- With a numeric build number, in every sequence of launches from the first
    on, whatever the fetches do, each shows the dialog exactly when the build
    number is below the value of `update` in effect, if and only if no fetch
    throws while that is so. -/
theorem checked_iff (buildNumber : String) (currentVersion : Int)
    (h : parseInt buildNumber = some currentVersion) (os : List Outcome) :
    Run.Always (launch buildNumber) (Checked currentVersion) Device.new os ↔
      Run.Along (launch buildNumber) (Settled currentVersion) Device.new os :=
  Run.always_iff_along (launch buildNumber) Inv (Checked currentVersion) (Settled currentVersion)
    (fun _ _ hd _ _ => inv_launch h hd) (fun _ _ hd _ => checked_launch h hd) os Device.new rfl
    fun report hreport => absurd hreport (Option.not_mem_none report)

/-- Build 26 misses nothing by a fetch that fails before it learns of version
    30. -/
theorem checked_twenty_six :
    Run.Always (launch "26") (Checked 26) Device.new
      [.unchanged, .throws .other, .activated "30"] :=
  (checked_iff "26" 26 (by decide +kernel) _).mpr (by decide +kernel)

/-- Build 26 learns of version 30, but not after a fetch that fails. -/
theorem failed_after_update :
    ¬ Run.Always (launch "26") (Checked 26) Device.new [.activated "30", .throws .other] := by
  decide +kernel

end UpdateCheck

end JkbEmpOffers
