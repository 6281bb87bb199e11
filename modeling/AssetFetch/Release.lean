/-
**Releases and their assets.**

A release is described by a record of which only the name, the number, the time of publication and
the assets are read. Nothing about their types is demanded, and what is missing is null.

* `Release.ofValue`: the release that a value describes;
* `Release.asset?`: the first asset of a name;
* `Release.select`: the same, or the failure that lists the names there are;
* `releaseUrl`: where the description of a release is found.
-/

import AssetFetch.Failure
import AssetFetch.Timestamp.Reader

namespace AssetFetch

open AssetFetch.Text

/-- A file attached to a release. -/
structure Asset where
  name : Value
  url : Value
  deriving Inhabited, Repr

/-- A tagged release. -/
structure Release where
  name : Value
  number : Value
  published : Option Timestamp
  assets : List Asset
  deriving Inhabited, Repr

/-- The asset that a value describes. -/
def Asset.ofValue : Value → Except Failure Asset
  | .record members =>
    .ok ⟨Value.memberOrNull "name" members, Value.memberOrNull "browser_download_url" members⟩
  | other => .error (.noMember other.kind "get")

namespace Release

/-- The items of a value: those of a list, the characters of a text, the names of a record. -/
def itemsOf : Value → Except Failure (List Value)
  | .list items => .ok items
  | .text text => .ok (text.characters.map fun character => .text ⟨[character]⟩)
  | .record members => .ok (members.map fun member => .text member.1)
  | other => .error (.notIterable other.kind)

/-- The assets that a value describes; a value that counts as absent describes none. -/
def assetsOf (value : Value) : Except Failure (List Asset) :=
  if value.isTruthy then
    match itemsOf value with
    | .ok items => items.mapM Asset.ofValue
    | .error failure => .error failure
  else .ok []

/-- The time that a value denotes, if it is a text in a known form. -/
def timeOf : Value → Option Timestamp
  | .text characters => Timestamp.ofText? characters
  | _ => none

/-- The release that a value describes. -/
def ofValue : Value → Except Failure Release
  | .record members =>
    match assetsOf (Value.memberOrNull "assets" members) with
    | .ok assets =>
      .ok
        { name := Value.memberOrNull "name" members
          number := Value.memberOrNull "id" members
          published := timeOf (Value.memberOrNull "published_at" members)
          assets }
    | .error failure => .error failure
  | other => .error (.noMember other.kind "get")

/-- The names of the assets, in order. -/
def assetNames (release : Release) : List Value :=
  release.assets.map Asset.name

/-- The first asset of a name. -/
def asset? (release : Release) (name : Value) : Option Asset :=
  release.assets.find? fun asset => asset.name.equals name

/-- What a release is called in messages: its name, or its number as text if it has no name. A
number may be too long for that. -/
def label (release : Release) : Except Failure Value :=
  if release.name.isTruthy then .ok release.name
  else if release.number.isSayable then .ok (.text release.number.loose)
  else .error .numberTooLong

/-- The first asset of a name, or a failure. -/
def select (release : Release) (name : Value) : Except Failure Asset :=
  match release.asset? name with
  | some asset => .ok asset
  | none =>
    match release.label with
    | .ok label => .error (.ofMissingAsset label name release.assetNames)
    | .error failure => .error failure

end Release

/-! ### Where releases are found -/

/-- The address of the service that is asked for releases. -/
def defaultApiBase : String := "https://api.github.com"

/-- The repository whose releases are asked for. -/
def defaultRepository : String := "pontem-network/move-tools"

/-- The seconds that a lookup may take. -/
def defaultRequestTimeout : Int := 30

/-- The text without the slashes at its end. -/
def withoutFinalSlashes (text : String) : String :=
  String.ofList (text.toList.reverse.dropWhile (· == '/')).reverse

/-- The address of a release's description. The tag and the repository are texts, or data from a
settings file, in which no number is too long to be written. -/
def releaseUrl (tag apiBase repository : Value) : Except Failure String :=
  match apiBase with
  | .text base =>
    .ok (withoutFinalSlashes base.shown ++ "/repos/" ++ repository.shown ++ "/releases/tags/"
      ++ tag.shown)
  | other => .error (.noMember other.kind "rstrip")

end AssetFetch
