/-
**Settings.**

Eight named values that outlast a run. Any value may stand in a field, since a settings file may
hold anything.

* `Field`: the fields and their names;
* `Settings.defaults`: the values of a fresh start;
* `Settings.overlay`: settings with some fields replaced by the members of a record;
* `Settings.toValue`: the settings as a record.
-/

import AssetFetch.Release

namespace AssetFetch

open AssetFetch.Text

/-- The fields of the settings. -/
inductive Field where
  | apiBase
  | repository
  | requestTimeout
  | releaseTag
  | assetName
  | downloadDirectory
  | downloadTimeout
  | logLevel
  deriving DecidableEq, Repr, Inhabited

namespace Field

/-- All fields in the order in which they are written. -/
def all : List Field :=
  [apiBase, repository, requestTimeout, releaseTag, assetName, downloadDirectory, downloadTimeout,
    logLevel]

/-- The name of a field in files and assignments. -/
def name : Field → String
  | apiBase => "api_base_url"
  | repository => "repository"
  | requestTimeout => "request_timeout"
  | releaseTag => "release_tag"
  | assetName => "asset_name"
  | downloadDirectory => "download_dir"
  | downloadTimeout => "download_timeout"
  | logLevel => "log_level"

/-- The field of a name. -/
def ofName? (name : String) : Option Field :=
  all.find? fun field => field.name == name

end Field

/-- A value for every field. -/
structure Settings where
  value : Field → Value
  deriving Inhabited

namespace Settings

/-- The settings where nothing else is said. -/
def defaults : Settings where
  value
    | .apiBase => .text defaultApiBase
    | .repository => .text defaultRepository
    | .requestTimeout => .int defaultRequestTimeout
    | .releaseTag => .text ""
    | .assetName => .text ""
    | .downloadDirectory => .text ""
    | .downloadTimeout => .null
    | .logLevel => .text "INFO"

/-- The settings with another value in a field. -/
def set (settings : Settings) (field : Field) (value : Value) : Settings where
  value other := if other = field then value else settings.value other

/-- The settings with the members of a record in the fields of their names. Members of other names
are passed over. -/
def overlay (settings : Settings) (members : List (LooseText × Value)) : Settings where
  value field := (Value.member? field.name members).getD (settings.value field)

/-- The settings that a value describes. -/
def ofValue : Value → Except Failure Settings
  | .record members => .ok (defaults.overlay members)
  | other => .error (.noMember other.kind "items")

/-- The settings as a record of all fields. -/
def toValue (settings : Settings) : Value :=
  .record (Field.all.map fun field => (LooseText.ofString field.name, settings.value field))

end Settings

end AssetFetch
