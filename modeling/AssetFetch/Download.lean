/-
**Downloading a file.**

The body of a response goes into a new file beside the destination, which takes the destination's
place only when the body is complete. Whatever goes wrong before, the new file is removed again.

* `temporaryPath`: the path beside a destination;
* `contentLength`: the size that a response announces;
* `Download.writePieces`, `Download.writeBody`: the pieces of the body into the open file;
* `Download.writeAll`, `Download.fill`: all of it into the new file;
* `Download.fetch`: the request and what is made of its response;
* `download`: all of it, with the rename at the end.
-/

import AssetFetch.Gzip.Stream
import AssetFetch.Lookup
import AssetFetch.Progress

namespace AssetFetch

open AssetFetch.Text

/-! ### Names and sizes -/

/-- Whether a text can be the final name of a path. -/
def isFileName (name : LooseText) : Bool :=
  let path := Path.ofText name
  path.slashes == 0 && path.names.length == 1 && name.characters.getLast? != some Path.slash

/-- The path beside a destination whose name is the destination's stem and a suffix. -/
def temporaryPath (destination : Path) (suffix : String) : Except Failure Path :=
  if destination.name == "" then .error (.noFileName destination)
  else
    let name := destination.stem ++ suffix
    if isFileName name then .ok (destination.sibling name) else .error (.badFileName name)

/-- The size that a response announces: plain digits, blanks around them ignored. -/
def contentLength (url value : Value) : Except Failure Nat :=
  match value with
  | .null => .error (.ofFetch (.contentLength url value))
  | .text characters =>
    let digits := trimChars characters.shown.toList
    if digits.isEmpty || !digits.all isPlainDigit then .error (.ofFetch (.contentLength url value))
    else (decimalNumber (String.ofList digits)).mapError .numeral
  | other => .error (.noMember other.kind "strip")

/-! ### Requests -/

/-- Where a file goes: the place that a text names, or a place left blank. -/
inductive Destination where
  | named (text : LooseText)
  | blank
  deriving DecidableEq, Repr, Inhabited

/-- The destination as it was given. -/
def Destination.text : Destination → String
  | named text => text.shown
  | blank => ""

/-- The path of a destination; a blank place has none. -/
def Destination.path : Destination → Except Failure Path
  | named text => .ok (.ofText text)
  | blank => .error (.notAPath .list)

/-- A single file to download. The permission bits, if given, are set exactly. -/
structure Download where
  url : Value
  destination : Destination
  mode : Given Int
  title : String
  gunzip : Bool
  deriving Inhabited, Repr

/-- How files are downloaded: the time a request may take, and the size of the pieces. -/
structure Downloader where
  timeout : Value
  pieceSize : Int
  deriving Inhabited, Repr

/-- The bytes of a piece where nothing else is wished. -/
def defaultPieceSize : Int := 8192

/-- A downloader without time limit. -/
def Downloader.standard : Downloader := ⟨.null, defaultPieceSize⟩

/-- Who follows a download: nobody, someone who is told every count, or someone who is told
percents. -/
inductive Watch where
  | nobody
  | counts
  | percents
  deriving DecidableEq, Repr, Inhabited

namespace Download

/-- The logger of downloads. -/
def logger : String := "move_release_fetcher.downloader"

/-- The request for a file. -/
def request (job : Download) (downloader : Downloader) : Request :=
  { url := job.url
    accept := "*/*"
    authorization := none
    timeout := downloader.timeout
    streamed := true }

/-- A failed download to a destination because of another failure. -/
def failedTo (job : Download) (destination : String) (cause : Failure) : Failure :=
  .fetch (.download ⟨job.url, destination, .null, none, .null, .null⟩) (some cause)

/-- A failed download because of another failure. -/
def failedBy (job : Download) (cause : Failure) : Failure :=
  job.failedTo job.destination.text cause

/-- A failed download because of a refused request. -/
def refusedBy (job : Download) (response : Response) (body : LooseText) : Failure :=
  .ofFetch (.download ⟨job.url, job.destination.text, .int response.status, none, .text body,
    response.headers.toValue⟩)

/-- A failed download because bytes are missing. -/
def incomplete (job : Download) (read total : Nat) : Failure :=
  .ofFetch (.download ⟨job.url, job.destination.text, .null,
    some ("Incomplete download: got " ++ natText read ++ " of " ++ natText total ++ " bytes"),
    .null, .null⟩)

/-! ### The body -/

/-- How far a download has come: the bytes received, the decompression if there is one, and the
percent reported last. -/
structure Standing where
  read : Nat
  stream : Option Gzip.Stream
  tracker : PercentTracker
  deriving Inhabited

/-- The standing before the first piece. -/
def Standing.start (job : Download) : Standing :=
  ⟨0, if job.gunzip then some .start else none, .start⟩

/-- The bytes to write for a piece, and the decompression after it. -/
def unpack (stream : Option Gzip.Stream) (piece : Bytes) :
    Except Failure (Bytes × Option Gzip.Stream) :=
  match stream with
  | none => .ok (piece, none)
  | some stream =>
    match stream.feed piece with
    | .error fault => .error (.gzip fault)
    | .ok next => .ok (next.outputFrom stream.output.size, some next)

/-- Tells whoever follows the download how many bytes are there. -/
def notify (watch : Watch) (read total : Nat) (tracker : PercentTracker) : Action PercentTracker :=
  match watch with
  | .nobody => return tracker
  | .counts => do
    Action.attempt (perform (.progress read total))
    return tracker
  | .percents =>
    match tracker.step read total with
    | (none, next) => return next
    | (some report, next) => do
      Action.ofProgram (perform (.report report.percent report.delta))
      return next

/-- Writes the pieces of a body one after the other. A wish to stop is looked for when a piece
arrives; a piece without bytes is not counted. -/
def writePieces (job : Download) (watch : Watch) (file : Path) (total : Nat) :
    List (Except Failure Bytes) → Standing → Action Standing
  | [], standing => return standing
  | .error failure :: _, _ => throw failure
  | .ok piece :: rest, standing => do
    if ← isCancelled then
      log .info logger ("Download of " ++ job.url.shown ++ " cancelled")
      throw (.ofFetch (.cancelled job.url job.destination.text))
    if piece.isEmpty then writePieces job watch file total rest standing
    else
      let read := standing.read + piece.length
      let (bytes, stream) ← .ofExcept (unpack standing.stream piece)
      Files.append file bytes
      let tracker ← notify watch read total standing.tracker
      writePieces job watch file total rest ⟨read, stream, tracker⟩

/-- Writes a body into an open file and makes sure that nothing is missing. -/
def writeBody (job : Download) (watch : Watch) (file : Path) (total : Nat)
    (arrivals : List (Except Failure Bytes)) : Action Unit := do
  if let some mode := job.mode.value? then Files.setMode file mode
  let standing ← writePieces job watch file total arrivals (.start job)
  if standing.read < total then throw (job.incomplete standing.read total)
  if total == 0 then discard (notify watch 0 0 standing.tracker)
  Files.flush file
  Files.sync file

/-- Writes a body into a new file, which is closed in the end. If that fails too, it is the failure
that counts. -/
def writeAll (job : Download) (watch : Watch) (file : Path) (total : Nat)
    (arrivals : List (Except Failure Bytes)) : Action Unit := do
  Files.create file job.mode
  (writeBody job watch file total arrivals).whatever (Files.close file)

/-- What a failure while writing means. -/
def explain (job : Download) (file : Path) (failure : Failure) : Action Unit :=
  match failure with
  | .network _ => do
    log .error logger ("Error while streaming " ++ job.url.shown ++ ": " ++ failure.message)
    throw (job.failedBy failure)
  | .system _ | .gzip _ => do
    log .error logger ("Error while writing " ++ file.text ++ ": " ++ failure.message)
    throw (job.failedBy failure)
  | _ => throw failure

/-- Writes a body into a new file. -/
def fill (job : Download) (watch : Watch) (file : Path) (total : Nat)
    (arrivals : List (Except Failure Bytes)) : Action Unit :=
  (writeAll job watch file total arrivals).orElse (explain job file)

/-! ### The response -/

/-- The failure of a refused request. -/
def refused (job : Download) (response : Response) : Action Unit := do
  let body ← .ofExcept response.text
  log .error logger
    ("Error " ++ intText response.status ++ " while downloading file from " ++ job.url.shown)
  log .error logger ("body=" ++ body.shown ++ " headers=" ++ response.headers.toValue.literal)
  throw (job.refusedBy response body)

/-- Writes the body of an accepted response. -/
def accepted (job : Download) (downloader : Downloader) (watch : Watch) (file : Path)
    (response : Response) : Action Unit := do
  let total ← .ofExcept
    (contentLength job.url ((response.headers.value? "content-length").getD .null))
  log .debug logger
    ("Downloading file of " ++ natText total ++ " bytes size from " ++ job.url.shown ++ " to "
      ++ file.text)
  fill job watch file total (response.arrivals downloader.pieceSize)

/-- Requests the file and writes what comes into a new file. -/
def fetch (job : Download) (downloader : Downloader) (watch : Watch) (file : Path) :
    Action Unit := do
  match ← Action.ofProgram (send (job.request downloader)).outcome with
  | .error failure =>
    if failure.isNetwork then
      log .error logger
        ("Error while downloading file from " ++ job.url.shown ++ ": " ++ failure.message)
      throw (job.failedBy failure)
    else throw failure
  | .ok response =>
    (if response.isRefusal then refused job response
      else accepted job downloader watch file response).whatever
      (Action.ofProgram (perform .close))

/-- Puts the new file in the destination's place. -/
def settle (job : Download) (file destination : Path) : Action Unit :=
  (Files.rename file destination).orElse fun failure =>
    if failure.isSystem then do
      log .error logger
        ("Failed to move " ++ file.text ++ " to " ++ destination.text ++ ": " ++ failure.message)
      throw (job.failedTo destination.text failure)
    else throw failure

/-- Removes the new file after a failure. -/
def clear (file : Path) : Action Unit :=
  (Files.removeIfPresent file).orElse fun failure =>
    if failure.isSystem then
      log .warning logger ("Failed to remove temp file " ++ file.text ++ ": " ++ failure.message)
    else throw failure

end Download

/-- Downloads a file: either the destination is the complete file, or it is as before. -/
def download (downloader : Downloader) (job : Download) (watch : Watch) : Action Path := do
  let destination ← .ofExcept job.destination.path
  let suffix ← randomName
  let file ← .ofExcept (temporaryPath destination suffix)
  (do
    job.fetch downloader watch file
    job.settle file destination : Action Unit).orElse fun failure => do
      Download.clear file
      throw failure
  log .info Download.logger ("Downloaded " ++ job.url.shown ++ " to " ++ destination.text)
  return destination

/-- Downloads a file and reports its progress in percents under its title. -/
def downloadReporting (downloader : Downloader) (job : Download) : Action Path := do
  Action.ofProgram (perform (.announce job.title))
  download downloader job .percents

end AssetFetch
