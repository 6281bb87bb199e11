/-
**The stored token.**

The token that the service knows the user by is kept in the system's keyring. A keyring that fails
is reported in the log and otherwise counts as empty or unchanged.

* `TokenStore.get`: the token, if there is one;
* `TokenStore.set`: stores a token or removes it, and answers whether that is done.
-/

import AssetFetch.Program

namespace AssetFetch.TokenStore

/-- The logger of the token store. -/
def logger : String := "move_release_fetcher.credentials"

/-- The service under which the keyring knows the token. -/
def service : String := "move-release-fetcher"

/-- The name of the token within the service. -/
def key : String := "github-token"

/-- What the keyring replies, and what is done with a failure of its own. -/
def asking {α : Type} (action : KeyringAction) (onReply : action.Result → α)
    (onFault : KeyringFault → Action α) : Action α :=
  (do
    let reply ← .attempt (perform (.keyring action))
    return onReply reply : Action α).orElse fun failure =>
      match failure with
      | .keyring fault => onFault fault
      | _ => throw failure

/-- The stored token. -/
def get : Action (Option String) :=
  asking .get id fun fault => do
    log .warning logger ("Unable to read github token from keyring: " ++ fault.text)
    return none

/-- Removes the stored token. A keyring that has nothing to remove has done it. -/
def delete : Action Bool :=
  asking .delete (fun _ => true) fun fault => do
    if fault.kind == .nothingToDelete then return true
    else
      log .error logger ("Unable to clear github token from keyring: " ++ fault.text)
      return false

/-- Stores a token, or removes the stored one. -/
def set (token : Option String) : Action Bool :=
  match token with
  | none => delete
  | some token =>
    asking (.set token) (fun _ => true) fun fault => do
      log .error logger ("Unable to store github token in keyring: " ++ fault.text)
      return false

end AssetFetch.TokenStore
