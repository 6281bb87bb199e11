/-
**Failures.**

Everything that can go wrong is a cause, a value that says what happened. A failure of a lookup or
of a download may carry the failure that led to it.

* `SystemFault`, `NetworkFault`, `KeyringFault`: what the surroundings report;
* `FetchFault`: what goes wrong with a lookup or a download;
* `Failure`: all of them, and the mistakes found in data;
* `Failure.message`: the wording, with the failure behind it after a colon;
* `isOrdinary`, `isSystem`, `isNetwork`, `isMisreading`: the classes that the program tells apart.
-/

import AssetFetch.FileTree
import AssetFetch.Gzip.Fault
import AssetFetch.Json.Reader

namespace AssetFetch

open AssetFetch.Text

/-! ### Reports of the surroundings -/

/-- The classes of failure that an operating system reports. -/
inductive SystemKind where
  | unspecified
  | permission
  | notFound
  | interrupted
  | alreadyThere
  | notDirectory
  | isDirectory
  | timedOut
  | wouldBlock
  | noChild
  | noProcess
  | connection
  | brokenPipe
  | connectionAborted
  | connectionRefused
  | connectionReset
  deriving DecidableEq, Repr, Inhabited

/-- The class of an error number. -/
def SystemKind.ofNumber (number : Int) : SystemKind :=
  if number == 1 || number == 13 then .permission
  else if number == 2 then .notFound
  else if number == 3 then .noProcess
  else if number == 4 then .interrupted
  else if number == 10 then .noChild
  else if number == 11 || number == 114 || number == 115 then .wouldBlock
  else if number == 17 then .alreadyThere
  else if number == 20 then .notDirectory
  else if number == 21 then .isDirectory
  else if number == 32 || number == 108 then .brokenPipe
  else if number == 103 then .connectionAborted
  else if number == 104 then .connectionReset
  else if number == 110 then .timedOut
  else if number == 111 then .connectionRefused
  else .unspecified

/-- A report of the operating system: an error number with its text and the paths concerned, or a
text of a class. -/
inductive SystemFault where
  | numbered (number : Int) (reason : String) (paths : List Path)
  | named (kind : SystemKind) (text : String)
  deriving DecidableEq, Repr, Inhabited

/-- The class of a report. -/
def SystemFault.kind : SystemFault → SystemKind
  | numbered number _ _ => .ofNumber number
  | named kind _ => kind

/-- The wording of a report. -/
def SystemFault.message : SystemFault → String
  | named _ text => text
  | numbered number reason paths =>
    "[Errno " ++ intText number ++ "] " ++ reason
      ++ (if paths.isEmpty then "" else ": " ++ " -> ".intercalate (paths.map Path.quoted))

/-- The classes of failure of a network request. -/
inductive NetworkKind where
  | unspecified
  | connection
  | proxy
  | certificate
  | timeout
  | connectTimeout
  | readTimeout
  | status
  | urlRequired
  | tooManyRedirects
  | missingScheme
  | badScheme
  | badUrl
  | badHeader
  | badProxyUrl
  | badChunk
  | badContent
  | consumed
  | retriesExhausted
  | unrewindable
  | badData
  deriving DecidableEq, Repr, Inhabited

/-- A failed network request. -/
structure NetworkFault where
  kind : NetworkKind
  text : String
  deriving DecidableEq, Repr, Inhabited

/-- Whether time ran out. -/
def NetworkFault.isTimeout (fault : NetworkFault) : Bool :=
  fault.kind == .timeout || fault.kind == .connectTimeout || fault.kind == .readTimeout

/-- Whether there was no connection. -/
def NetworkFault.isConnection (fault : NetworkFault) : Bool :=
  fault.kind == .connection || fault.kind == .proxy || fault.kind == .certificate
    || fault.kind == .connectTimeout

/-- Whether an address or a header is wrong, or a body was read in the wrong way. -/
def NetworkFault.isMisreading (fault : NetworkFault) : Bool :=
  fault.kind == .missingScheme || fault.kind == .badScheme || fault.kind == .badUrl
    || fault.kind == .badHeader || fault.kind == .badProxyUrl || fault.kind == .consumed

/-- The classes of failure of the keyring. -/
inductive KeyringKind where
  | unspecified
  | nothingToDelete
  | notStored
  | noKeyring
  | locked
  | notStarted
  deriving DecidableEq, Repr, Inhabited

/-- A failed use of the keyring. -/
structure KeyringFault where
  kind : KeyringKind
  text : String
  deriving DecidableEq, Repr, Inhabited

/-- The ways in which the program is stopped from outside. -/
inductive Interruption where
  | keyboard
  | exit
  | abandoned
  | unspecified
  deriving DecidableEq, Repr, Inhabited

/-! ### Lookups and downloads -/

/-- A failed download. The destination is kept as it was given; `status`, `body` and `headers` are
those of the response, null if there was none. -/
structure DownloadFault where
  url : Value
  destination : String
  status : Value
  wording : Option String
  body : Value
  headers : Value
  deriving Inhabited, Repr

/-- The wording of a failed download. -/
def DownloadFault.message (fault : DownloadFault) : String :=
  match fault.wording, fault.status with
  | some wording, _ => wording
  | none, .null =>
    "Failed to download '" ++ fault.url.shown ++ "' to '" ++ fault.destination ++ "'"
  | none, status => "Got response " ++ status.shown ++ " when trying to download a file"

/-- What goes wrong with a lookup or a download. -/
inductive FetchFault where
  | general (wording : String)
  | connection (wording : String)
  | lookup (tag status : Value)
  | assetMissing (tag asset : Value) (available : List Value)
  | download (fault : DownloadFault)
  | contentLength (url value : Value)
  | cancelled (url : Value) (destination : String)
  deriving Inhabited, Repr

/-- The wording of a missing asset. -/
def assetMissingMessage (tag asset : Value) (available : List Value) : String :=
  let names := (available.filter Value.isTruthy).map Value.shown
  "Release " ++ tag.shown ++ " has no asset named '" ++ asset.shown ++ "'"
    ++ (if names.isEmpty then "" else " (available: " ++ ", ".intercalate names ++ ")")

/-- The wording of a fault, without the failure behind it. -/
def FetchFault.message : FetchFault → String
  | general wording => wording
  | connection wording => wording
  | lookup tag status =>
    "Got response " ++ status.shown ++ " when trying to fetch release info for " ++ tag.shown
      ++ " release"
  | assetMissing tag asset available => assetMissingMessage tag asset available
  | download fault => fault.message
  | contentLength url value =>
    "Invalid content-length " ++ value.literal ++ " in response from " ++ url.shown
  | cancelled url _ => "Download of '" ++ url.shown ++ "' was cancelled"

/-! ### All failures -/

/-- The cause of a failure. -/
inductive Failure where
  | system (fault : SystemFault)
  | network (fault : NetworkFault)
  | keyring (fault : KeyringFault)
  | fetch (fault : FetchFault) (cause : Option Failure)
  | gzip (fault : Gzip.Fault)
  | undecodable (fault : Text.Undecodable)
  | malformed (fault : Json.Malformed)
  | numeral (fault : NumeralFault)
  | numberTooLong
  | noFileName (path : Path)
  | badFileName (name : Text.LooseText)
  | nullInPath
  | unencodable (fault : Text.Unencodable)
  | modeTooLarge
  | noMember (kind : Value.Kind) (member : String)
  | notIterable (kind : Value.Kind)
  | notText (index : Nat) (kind : Value.Kind)
  | notALevel (value : Value)
  | noLevelOfLine
  | notAPath (kind : Value.Kind)
  | notAName (kind : Value.Kind)
  | notAnInteger (kind : Value.Kind)
  | notAPair (index : Nat)
  | unknownSettings (names : List String)
  | reservedSetting (name : String)
  | tooDeep (container : Option Json.Container)
  | noHome
  | missingKey (key : Option String)
  | endOfInput (text : String)
  | interruption (kind : Interruption) (text : Option String)
  | other (name text : String)
  deriving Inhabited, Repr

namespace Failure

/-- The names of failures of no other class that say that data is not what it should be. -/
def misreadings : List String :=
  ["ValueError", "TypeError", "AttributeError", "UnicodeError"]

/-- A byte as two digits of base sixteen. -/
def byteText (byte : UInt8) : String :=
  String.ofList ('0' :: 'x' :: hexDigits 2 byte.toNat)

/-- The wording of bytes that are no text. -/
def undecodableMessage (fault : Text.Undecodable) : String :=
  let place :=
    match fault.bytes with
    | [byte] => "byte " ++ byteText byte ++ " in position " ++ natText fault.position
    | bytes =>
      "bytes in position " ++ natText fault.position ++ "-"
        ++ natText (fault.position + bytes.length - 1)
  "'utf-8' codec can't decode " ++ place ++ ": " ++ fault.damage.message

/-- The wording of halves that have no bytes. -/
def unencodableMessage (fault : Text.Unencodable) : String :=
  let place :=
    match fault.offsets with
    | [offset] =>
      "character " ++ (Text.LooseText.mk [.half offset]).quoted ++ " in position "
        ++ natText fault.position
    | offsets =>
      "characters in position " ++ natText fault.position ++ "-"
        ++ natText (fault.position + offsets.length - 1)
  "'utf-8' codec can't encode " ++ place ++ ": surrogates not allowed"

/-- What was being read when the nesting became too deep. -/
def nestingText : Json.Container → String
  | .list => " while decoding a JSON array from a unicode string"
  | .record => " while decoding a JSON object from a unicode string"

/-- The wording of a failure. -/
def message : Failure → String
  | system fault => fault.message
  | network fault => fault.text
  | keyring fault => fault.text
  | fetch fault none => fault.message
  | fetch fault (some cause) => fault.message ++ ": " ++ message cause
  | gzip fault => fault.message
  | undecodable fault => undecodableMessage fault
  | malformed fault => fault.message
  | numeral fault => fault.message
  | numberTooLong =>
    "Exceeds the limit (" ++ natText digitLimit ++ " digits) for integer string conversion; use "
      ++ "sys.set_int_max_str_digits() to increase the limit"
  | noFileName path => "PosixPath(" ++ path.quoted ++ ") has an empty name"
  | badFileName name => "Invalid name " ++ name.quoted
  | nullInPath => "embedded null byte"
  | unencodable fault => unencodableMessage fault
  | modeTooLarge => "Python int too large to convert to C int"
  | noMember kind member => "'" ++ kind.name ++ "' object has no attribute '" ++ member ++ "'"
  | notIterable kind => "'" ++ kind.name ++ "' object is not iterable"
  | notText index kind =>
    "sequence item " ++ natText index ++ ": expected str instance, " ++ kind.name ++ " found"
  | notALevel value => "Level not an integer or a valid string: " ++ value.literal
  | noLevelOfLine => "level must be an integer"
  | notAPath kind => "expected str, bytes or os.PathLike object, not " ++ kind.name
  | notAName kind =>
    "unsupported operand type(s) for /: 'PosixPath' and '" ++ kind.name ++ "'"
  | notAnInteger kind => "'" ++ kind.name ++ "' object cannot be interpreted as an integer"
  | notAPair index =>
    "dictionary update sequence element #" ++ natText index ++ " has length 0; 2 is required"
  | unknownSettings names => "Unknown setting(s): " ++ ", ".intercalate names
  | reservedSetting name =>
    "SettingsManager.update() got multiple values for argument " ++ quoted name
  | tooDeep container =>
    "maximum recursion depth exceeded" ++ ((container.map nestingText).getD "")
  | noHome => "Could not determine home directory."
  | missingKey key => (key.map quoted).getD ""
  | endOfInput text => text
  | interruption _ text => text.getD ""
  | other _ text => text

/-- Whether the program itself may answer the failure; an interruption goes past it. -/
def isOrdinary : Failure → Bool
  | interruption _ _ => false
  | _ => true

/-- Whether a network request failed. -/
def isNetwork : Failure → Bool
  | network _ => true
  | _ => false

/-- Whether the operating system reports the failure; the network belongs to it. -/
def isSystem : Failure → Bool
  | system _ => true
  | network _ => true
  | _ => false

/-- Whether the operating system reports that a file is not there. -/
def isNotFound : Failure → Bool
  | system fault => fault.kind == .notFound
  | _ => false

/-- Whether the failure says that data is not what it should be: a wrong value, a wrong type, or a
member that is missing. Some failures of the network say so as well. -/
def isMisreading : Failure → Bool
  | network fault => fault.isMisreading
  | undecodable _ | unencodable _ | malformed _ | numeral _ | numberTooLong => true
  | noFileName _ | badFileName _ | nullInPath | unknownSettings _ | notAPair _ => true
  | noMember _ _ => true
  | notIterable _ | notText _ _ | notALevel _ | noLevelOfLine | notAPath _ | notAName _
  | notAnInteger _ | reservedSetting _ => true
  | other name _ => misreadings.contains name
  | _ => false

/-- Whether a lookup or a download failed. -/
def isFetch : Failure → Bool
  | fetch _ _ => true
  | _ => false

/-- A fault of a lookup or a download with no failure behind it. -/
def ofFetch (fault : FetchFault) : Failure :=
  .fetch fault none

/-- The failure of a request for an asset that a release does not have. Names that are neither
text nor empty cannot be listed, and before that numbers that are too long cannot be told. -/
def ofMissingAsset (tag asset : Value) (available : List Value) : Failure :=
  if tag.isSayable && asset.isSayable then
    let names := available.filter Value.isTruthy
    match names.findIdx? (fun name => name.kind != .text) with
    | some index => .notText index (names.getD index .null).kind
    | none => .ofFetch (.assetMissing tag asset available)
  else .numberTooLong

/-- The refusal of an operation on files, with the paths concerned. -/
def ofFile (paths : List Path) : FileFault → Failure
  | .nullCharacter => .nullInPath
  | .unencodable fault => .unencodable fault
  | fault => .system (.numbered fault.number fault.reason paths)

/-- The failure of a text that is no data. -/
def ofJson : Json.Fault → Failure
  | .malformed fault => .malformed fault
  | .tooLong digits => .numeral (.tooLong digits)
  | .tooDeep container => .tooDeep (some container)

end Failure

end AssetFetch
