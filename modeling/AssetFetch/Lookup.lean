/-
**Looking up a release.**

One request to the service. Whatever goes wrong with it is told apart: time ran out, there is no
connection, the request failed otherwise, the service refuses, or its answer describes no release.

* `Client`: how the service is asked;
* `Client.request`: the request for a release;
* `Client.lookup`: the release of a tag.
-/

import AssetFetch.Program
import AssetFetch.Release

namespace AssetFetch

/-- How the service is asked for releases. -/
structure Client where
  token : Option String
  apiBase : Value
  repository : Value
  timeout : Value
  deriving Inhabited, Repr

namespace Client

/-- A client of the default repository. -/
def standard (token : Option String) : Client :=
  ⟨token, .text defaultApiBase, .text defaultRepository, .int defaultRequestTimeout⟩

/-- The form of description that is asked for. -/
def descriptionType : String := "application/vnd.github.v3+json"

/-- The request for the description at an address. -/
def request (client : Client) (url : String) : Request :=
  { url := .text url
    accept := descriptionType
    authorization := client.token.map ("token " ++ ·)
    timeout := client.timeout
    streamed := false }

end Client

namespace Lookup

/-- The logger of lookups. -/
def logger : String := "move_release_fetcher.github_client"

/-- What a failed request means. -/
def explain (failure : Failure) : Action Release :=
  match failure with
  | .network fault =>
    if fault.isTimeout then do
      log .error logger "GitHub request timed out"
      throw (.fetch (.connection "Request timed out connecting to GitHub") (some failure))
    else if fault.isConnection then do
      log .error logger ("GitHub connection error: " ++ failure.message)
      throw (.fetch (.connection "Unable to connect to GitHub. Check your internet connection.")
        (some failure))
    else do
      log .error logger ("GitHub request error: " ++ failure.message)
      throw (.fetch (.general "Request failed") (some failure))
  | _ => throw failure

/-- The failure of a refused request. -/
def refused (tag : Value) (url : String) (response : Response) : Action Release := do
  let body ← .ofExcept response.text
  log .error logger
    ("Error fetching artifact release info: url=" ++ url ++ " tag=" ++ tag.shown ++ " status="
      ++ Text.intText response.status ++ " headers=" ++ response.headers.toValue.literal ++ " body="
      ++ body.shown)
  throw (.ofFetch (.lookup tag (.int response.status)))

/-- The release that the body of a response describes. -/
def describedBy (response : Response) : Except Failure Release :=
  response.data.bind Release.ofValue

/-- The failure of an answer that describes no release. -/
def invalid (tag : Value) (response : Response) (failure : Failure) : Action Release := do
  let body ← .ofExcept response.text
  log .error logger ("Invalid release response for tag " ++ tag.shown ++ ": " ++ body.shown)
  throw (.fetch (.general "Invalid release response") (some failure))

/-- The release that an answer describes. Only what it means to find something else than a release
is answered; nesting that is too deep is a failure of its own. -/
def answered (tag : Value) (response : Response) : Action Release :=
  match describedBy response with
  | .error failure => if failure.isMisreading then invalid tag response failure else throw failure
  | .ok release => do
    log .info logger ("Found release " ++ release.name.shown ++ " for tag " ++ tag.shown)
    return release

end Lookup

/-- The release of a tag. -/
def Client.lookup (client : Client) (tag : Value) : Action Release := do
  let url ← .ofExcept (releaseUrl tag client.apiBase client.repository)
  log .debug Lookup.logger ("Issuing request for released artifacts metadata to " ++ url)
  match ← Action.ofProgram (send (client.request url)).outcome with
  | .error failure => Lookup.explain failure
  | .ok response =>
    if response.isRefusal then Lookup.refused tag url response else Lookup.answered tag response

end AssetFetch
