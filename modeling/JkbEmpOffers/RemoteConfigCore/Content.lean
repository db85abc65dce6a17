import JkbEmpOffers.RemoteConfigCore.Database

/-!
# The Configs

There are three configs: what has been fetched, what is active, and the
defaults. A response goes into the first, an activation copies the first over
the second, and a value is looked up in the second and then in the third.

All three are also tables of the database, and every change is written to
them, so each of the functions here gives the new configs and the writes. A
new process finds what the tables have then. Nothing tells an empty config
from one that is not there.

## Main definitions

* `ConfigContent`: The three configs.
* `ConfigContent.load`: The three tables.
* `ConfigContent.Written`: What the writes of a change come to.
* `ConfigContent.updateConfigContentWithResponse`: A response.
* `ConfigContent.activate`, `ConfigContent.setDefaults`: The copies.
* `ConfigContent.configValueForKey`: A value.

## Theorems

* `activeConfig_activate`: An activation leaves no difference.
* `written_activate`, `written_setDefaults`, `written_update`: The writes bring
  the tables to the new configs.
-/

namespace JkbEmpOffers

namespace RemoteConfigCore

/-- A default, by its class. Dates, arrays and dictionaries are not modelled. -/
inductive DefaultValue where
  | data (text : String)
  | string (text : String)
  | number (value : Int)
  | other

/-- The text of the data of a default. -/
def DefaultValue.text : DefaultValue → Option String
  | .data text | .string text => some text
  | .number value => some (toString value)
  | .other => none

/-- The defaults that an app sets. -/
abbrev Defaults := SortedMap (compare : String → String → Ordering) DefaultValue

/-- `RCNConfigContent` -/
structure ConfigContent where
  fetchedConfig : Config
  activeConfig : Config
  defaultConfig : Config

namespace ConfigContent

/-- Nothing fetched, activated or set. -/
def empty : ConfigContent := ⟨SortedMap.empty, SortedMap.empty, SortedMap.empty⟩

/-- `loadConfigFromMainTable` -/
def load (db : Database) : ConfigContent :=
  ⟨db.mainTable .fetched, db.mainTable .active, db.mainTable .default⟩

/-- `copyFromDictionary` of the fetched config to the active one. -/
def activate (c : ConfigContent) : ConfigContent × List DatabaseOperation :=
  ({ c with activeConfig := addAll SortedMap.empty c.fetchedConfig.elements },
    .deleteMain .active :: insertAll .active c.fetchedConfig.elements)

/-- The defaults that are copied: a value of another class is left out. -/
def copied (defaults : Defaults) : List (String × String) :=
  defaults.elements.filterMap fun e => e.2.text.map fun text => (e.1, text)

/-- `copyFromDictionary` to the defaults. -/
def setDefaults (c : ConfigContent) (defaults : Defaults) :
    ConfigContent × List DatabaseOperation :=
  ({ c with defaultConfig := addAll SortedMap.empty (copied defaults) },
    .deleteMain .default :: insertAll .default (copied defaults))

/-- `handleUpdateStateForConfigNamespace` -/
def handleUpdateState (c : ConfigContent) (entries : Option Config) :
    ConfigContent × List DatabaseOperation :=
  let entries := (entries.getD SortedMap.empty).elements
  ({ c with fetchedConfig := addAll SortedMap.empty entries },
    .deleteMain .fetched :: insertAll .fetched entries)

/-- `handleEmptyConfigStateForConfigNamespace`, also
    `handleNoTemplateStateForConfigNamespace`. -/
def handleEmptyConfigState (c : ConfigContent) : ConfigContent × List DatabaseOperation :=
  ({ c with fetchedConfig := SortedMap.empty }, [.deleteMain .fetched])

/-- `updateConfigContentWithResponse` -/
def updateConfigContentWithResponse (c : ConfigContent) (state : Option String)
    (entries : Option Config) : ConfigContent × List DatabaseOperation :=
  match state with
  | none => (c, [])
  | some state =>
    if state = "NO_CHANGE" then (c, [])
    else if state = "EMPTY_CONFIG" then c.handleEmptyConfigState
    else if state = "NO_TEMPLATE" then c.handleEmptyConfigState
    else if state = "UPDATE" then c.handleUpdateState entries
    else (c, [])

/-- `configValueForKey` and `stringValue`: a key that is nowhere has no data. -/
def configValueForKey (c : ConfigContent) (key : String) : String :=
  ((c.activeConfig.find key).or (c.defaultConfig.find key)).getD ""

/-- A copy of a config is that config. -/
theorem addAll_elements (config : Config) : addAll SortedMap.empty config.elements = config := by
  refine SortedMap.ext_find fun k => ?_
  have hunion : addAll SortedMap.empty config.elements = SortedMap.empty.union config := rfl
  rw [hunion, SortedMap.find_union, SortedMap.find_empty, Option.or_none]

/-- An activation leaves no difference. -/
theorem activeConfig_activate (c : ConfigContent) :
    c.activate.1.activeConfig = c.fetchedConfig :=
  addAll_elements c.fetchedConfig

/-- A table is deleted and filled again. -/
theorem foldl_replace (source : DBSource) (entries : List (String × String)) (db : Database) :
    (DatabaseOperation.deleteMain source :: insertAll source entries).foldl Database.execute db
      = { db with
          mainTable :=
            Function.update db.mainTable source (addAll SortedMap.empty entries) } := by
  rw [List.foldl_cons, foldl_insertAll, Database.execute]
  simp only [Function.update_self, Function.update_idem]

/-- The writes bring the tables to the new configs, and leave the metadata as
    it is. -/
structure Written (db : Database) (r : ConfigContent × List DatabaseOperation) : Prop where
  tables : load (r.2.foldl Database.execute db) = r.1
  rows : (r.2.foldl Database.execute db).metadataTable = db.metadataTable

variable {c : ConfigContent} {db : Database}

/-- Nothing is written where nothing changes. -/
theorem written_nil (h : load db = c) : Written db (c, []) := ⟨h, rfl⟩

/-- One table is deleted and filled again. -/
theorem written_replace {source : DBSource} {entries : List (String × String)}
    (h : load { db with
      mainTable := Function.update db.mainTable source (addAll SortedMap.empty entries) } = c) :
    Written db (c, .deleteMain source :: insertAll source entries) := by
  have hfoldl := foldl_replace source entries db
  refine ⟨(congrArg load hfoldl).trans h, ?_⟩
  dsimp only
  rw [hfoldl]

theorem written_activate (h : load db = c) : Written db c.activate := by
  rw [← h]
  exact written_replace rfl

theorem written_setDefaults (h : load db = c) (defaults : Defaults) :
    Written db (c.setDefaults defaults) := by
  rw [← h]
  exact written_replace rfl

theorem written_handleUpdateState (h : load db = c) (entries : Option Config) :
    Written db (c.handleUpdateState entries) := by
  rw [← h]
  exact written_replace rfl

theorem written_handleEmptyConfigState (h : load db = c) : Written db c.handleEmptyConfigState := by
  rw [← h]
  exact ⟨rfl, rfl⟩

/-- A response, whatever its state. -/
theorem written_update (h : load db = c) (state : Option String) (entries : Option Config) :
    Written db (c.updateConfigContentWithResponse state entries) := by
  cases state with
  | none => exact written_nil h
  | some state =>
      rw [updateConfigContentWithResponse]
      split_ifs
      · exact written_nil h
      · exact written_handleEmptyConfigState h
      · exact written_handleEmptyConfigState h
      · exact written_handleUpdateState h entries
      · exact written_nil h

end ConfigContent

end RemoteConfigCore

end JkbEmpOffers
