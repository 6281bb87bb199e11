/-
**What fetching an asset asks for.**

* `requests_lookup`: a lookup is one request;
* `requests_downloadReporting`: a download is at most one;
* `Order.Asks`: what an attempt to fetch an asset asks for, by the token that it finds;
* `asks_attempt`: every attempt asks for that;
* `Order.fetch_course`: the attempts of a whole run, and what each asks for.
-/

import AssetFetch.App
import AssetFetch.Proofs.Download.Whole
import AssetFetch.Proofs.Retry

namespace AssetFetch

/-! ### The lookup -/

section Lookups

variable (client : Client) (tag : Value)

namespace Lookup

theorem mute_explain (failure : Failure) : (explain failure).Only Effect.IsMute := by
  unfold explain
  split
  · refine .ite ?_ (.ite ?_ ?_) <;> exact .bind (only_log ..) fun _ => .throw _
  · exact .throw _

theorem mute_refused (url : String) (response : Response) :
    (refused tag url response).Only Effect.IsMute :=
  .bind (.ofExcept _) fun _ => .bind (only_log ..) fun _ => .throw _

theorem mute_answered (response : Response) : (answered tag response).Only Effect.IsMute := by
  have mute_invalid : ∀ failure, (invalid tag response failure).Only Effect.IsMute := fun _ =>
    .bind (.ofExcept _) fun _ => .bind (only_log ..) fun _ => .throw _
  unfold answered
  split
  · exact .ite (mute_invalid _) (.throw _)
  · exact .bind (only_log ..) fun _ => .pure _

/-- What is made of what the request meets. -/
def receive (url : String) : Except Failure Response → Action Release
  | .error failure => explain failure
  | .ok response => if response.isRefusal then refused tag url response else answered tag response

theorem mute_receive (url : String) (result : Except Failure Response) :
    (receive tag url result).Only Effect.IsMute := by
  cases result with
  | error failure => exact mute_explain failure
  | ok response => exact .ite (mute_refused tag url response) (mute_answered tag response)

end Lookup

theorem lookup_eq :
    client.lookup tag = (do
      let url ← .ofExcept (releaseUrl tag client.apiBase client.repository)
      log .debug Lookup.logger ("Issuing request for released artifacts metadata to " ++ url)
      let result ← Action.ofProgram (send (client.request url)).outcome
      Lookup.receive tag url result) := by
  refine bind_congr fun url => bind_congr fun _ => bind_congr fun result => ?_
  cases result <;> rfl

theorem quiet_lookup : (client.lookup tag).Only Effect.IsQuiet := by
  rw [lookup_eq]
  refine .bind (.ofExcept _) fun url => .bind (only_log ..).quiet fun _ => ?_
  refine .bind (.ofProgram (.perform trivial)) fun result => ?_
  exact (Lookup.mute_receive tag url result).quiet

theorem plain_lookup : (client.lookup tag).Only Effect.IsPlain :=
  (quiet_lookup client tag).mono fun _ => Effect.IsQuiet.plain

theorem requests_send (request : Request) (world : World) :
    (world.attempt (Action.ofProgram (send request).outcome)).2.requests
      = world.requests ++ [request] := by
  rw [World.attempt_ofProgram]
  exact World.requests_onSend request

/-- **A lookup is one request.** -/
theorem requests_lookup {url : String}
    (address : releaseUrl tag client.apiBase client.repository = .ok url) (world : World) :
    (world.attempt (client.lookup tag)).2.requests = world.requests ++ [client.request url] := by
  have logged := World.sameOutside_run_log .debug Lookup.logger
    ("Issuing request for released artifacts metadata to " ++ url) world
  have unsent : ∀ result, (Lookup.receive tag url result).Only Effect.IsUnsent := fun result =>
    (Lookup.mute_receive tag url result).mono fun _ => Effect.IsMute.unsent
  rw [lookup_eq, World.attempt_bind_of_ok (World.attempt_ofExcept _ _ |>.trans (by rw [address])),
    World.attempt_bind_of_ok (World.attempt_log ..), World.requests_attempt_bind unsent,
    requests_send, logged.requests]

end Lookups

/-! ### The download -/

section Downloads

namespace Download

variable {job : Download} {downloader : Downloader} {watch : Watch} {file destination : Path}

theorem unsent_of_fills {action : Action Unit} (fills : action.Only (Effect.Fills file)) :
    action.Only Effect.IsUnsent := by
  refine fills.mono fun effect fills => ?_
  rintro request rfl
  exact fills.elim

theorem unsent_settle : (settle job file destination).Only Effect.IsUnsent := by
  refine .orElse (.attempt (.perform nofun)) fun failure => .ite ?_ (.throw _)
  exact .bind ((only_log ..).mono fun _ => Effect.IsMute.unsent) fun _ => .throw _

/-- The delivery of a file is one request. -/
theorem requests_deliverOrClear (world : World) :
    (world.attempt (deliverOrClear job downloader watch file destination)).2.requests
      = world.requests ++ [job.request downloader] := by
  have cleared : ∀ failure : Failure,
      (do clear file; throw failure : Action Unit).Only Effect.IsUnsent := fun failure =>
    .bind (unsent_of_fills (only_clear file)) fun _ => .throw _
  have received : ∀ result, (receive job watch file downloader result).Only Effect.IsUnsent :=
    fun result => unsent_of_fills (only_receive job watch file downloader result)
  unfold deliverOrClear deliver
  rw [World.requests_attempt_orElse cleared, World.requests_attempt_bind fun _ => unsent_settle,
    fetch_eq, World.requests_attempt_bind received, requests_send]

end Download

open Download

variable (downloader : Downloader) (job : Download)

/-- **A download is at most one request**, for its address. -/
theorem requests_download (watch : Watch) (world : World) :
    ∃ sent, (world.attempt (download downloader job watch)).2.requests = world.requests ++ sent
      ∧ (sent = [] ∨ sent = [job.request downloader]) := by
  have nothing : world.requests = world.requests ++ [] := (List.append_nil _).symm
  rw [download_eq]
  cases path : job.destination.path with
  | error failure => exact ⟨[], nothing, .inl rfl⟩
  | ok destination =>
    have named : world.attempt randomName = (.ok world.name, world) := rfl
    rw [World.attempt_bind_of_ok (World.attempt_ofExcept _ _), World.attempt_bind_of_ok named]
    cases temporaryPath destination world.name with
    | error failure => exact ⟨[], nothing, .inl rfl⟩
    | ok file =>
      have unsent : ∀ _ : Unit, (do
          log .info logger ("Downloaded " ++ job.url.shown ++ " to " ++ destination.text)
          return destination : Action Path).Only Effect.IsUnsent := fun _ =>
        .bind ((only_log ..).mono fun _ => Effect.IsMute.unsent) fun _ => .pure _
      refine ⟨[job.request downloader], ?_, .inr rfl⟩
      rw [World.attempt_bind_of_ok (World.attempt_ofExcept _ _),
        World.requests_attempt_bind unsent, requests_deliverOrClear]

theorem plain_downloadReporting : (downloadReporting downloader job).Only Effect.IsPlain :=
  .bind (.ofProgram (.perform trivial)) fun _ => only_download

theorem requests_downloadReporting (world : World) :
    ∃ sent, (world.attempt (downloadReporting downloader job)).2.requests = world.requests ++ sent
      ∧ (sent = [] ∨ sent = [job.request downloader]) :=
  requests_download downloader job .percents (world.announce job.title)

end Downloads

/-! ### Attempts to fetch an asset -/

namespace Order

variable (order : Order)

/-- What an attempt to fetch an asset asks for, by the token that it finds: the release, and the
file of the first asset of the right name in it. -/
structure Asks (token : Option String) (attempt : Attempt Path) (lookup : Request)
    (downloads : List Request) : Prop where
  /-- A lookup is all that is sent, or comes first. -/
  sent : attempt.sent = lookup :: downloads
  /-- The lookup is about the tag. -/
  address : ∃ url, releaseUrl order.tag (order.settings.value .apiBase)
      (order.settings.value .repository) = .ok url
    ∧ lookup.url = .text url
  /-- The lookup is authorized by the token, if there is one. -/
  authorization : lookup.authorization = token.map ("token " ++ ·)
  /-- There is no second download. -/
  once : downloads.length ≤ 1
  /-- What is downloaded is an asset of the release that the lookup has found. -/
  asset : ∀ request ∈ downloads, ∃ release asset,
    (attempt.before.attempt (lookupWith order.settings order.tag)).1 = .ok release
      ∧ release.asset? order.asset = some asset ∧ request.url = asset.url

theorem asset?_of_select {release : Release} {name : Value} {asset : Asset}
    (selected : release.select name = .ok asset) : release.asset? name = some asset := by
  unfold Release.select at selected
  split at selected
  · rename_i found
    cases selected
    exact found
  · split at selected
    all_goals cases selected

theorem looksOnce_lookupWith (settings : Settings) (tag : Value) :
    Retry.LooksOnce (lookupWith settings tag) :=
  Retry.looksOnce_get.bind fun _ => plain_lookup ..

theorem looksOnce_attempt : Retry.LooksOnce order.attempt :=
  (looksOnce_lookupWith order.settings order.tag).bind fun _ =>
    .bind (.ofExcept _) fun _ => plain_downloadReporting ..

/-- The request for the release, with a token. -/
def lookup (token : Option String) (url : String) : Request :=
  Client.request ⟨token, order.settings.value .apiBase, order.settings.value .repository,
    order.settings.value .requestTimeout⟩ url

/-- The requests of an attempt: the lookup, and after it at most the one for an asset that the
lookup has found. -/
theorem requests_attempt {world : World} {url : String} (own : world.keyring.faults.AreOwn)
    (address : releaseUrl order.tag (order.settings.value .apiBase)
      (order.settings.value .repository) = .ok url) :
    ∃ downloads, (world.attempt order.attempt).2.requests
        = world.requests ++ order.lookup world.keyring.readable url :: downloads
      ∧ (downloads = [] ∨ ∃ release asset,
        (world.attempt (lookupWith order.settings order.tag)).1 = .ok release
          ∧ release.asset? order.asset = some asset
          ∧ downloads = [(order.job asset).request
            ⟨order.settings.value .downloadTimeout, defaultPieceSize⟩]) := by
  obtain ⟨looked, current, _, unsent⟩ := attempt_get own
  have asked : (world.attempt (lookupWith order.settings order.tag)).2.requests
      = world.requests ++ [order.lookup world.keyring.readable url] := by
    unfold lookupWith
    rw [World.attempt_bind_of_ok current, requests_lookup _ _ address, unsent]
    rfl
  unfold Order.attempt
  cases found : world.attempt (lookupWith order.settings order.tag) with
  | mk result later =>
    rw [found] at asked
    cases result with
    | error failure =>
      rw [World.attempt_bind_of_error found]
      exact ⟨[], asked, .inl rfl⟩
    | ok release =>
      rw [World.attempt_bind_of_ok found]
      cases selected : release.select order.asset with
      | error failure => exact ⟨[], asked, .inl rfl⟩
      | ok asset =>
        rw [World.attempt_bind_of_ok (World.attempt_ofExcept _ _)]
        obtain ⟨sent, requests, once⟩ := requests_downloadReporting
          ⟨order.settings.value .downloadTimeout, defaultPieceSize⟩ (order.job asset) later
        refine ⟨sent, ?_, once.imp_right fun same => ⟨release, asset, rfl, ?_, same⟩⟩
        · rw [requests, asked, List.append_assoc]
          rfl
        · exact asset?_of_select selected

/-- **Every attempt asks for the release, and for one asset of it at most.** -/
theorem asks_attempt {world : World} {base : Text.LooseText} (own : world.keyring.faults.AreOwn)
    (typed : order.settings.value .apiBase = .text base) :
    ∃ lookup downloads,
      order.Asks world.keyring.readable (.of order.attempt world) lookup downloads := by
  obtain ⟨url, address⟩ : ∃ url, releaseUrl order.tag (order.settings.value .apiBase)
      (order.settings.value .repository) = .ok url := by
    rw [typed]
    exact ⟨_, rfl⟩
  obtain ⟨downloads, requests, found⟩ := order.requests_attempt own address
  have sent := Attempt.sent_of_requests requests
  refine ⟨order.lookup world.keyring.readable url, downloads, sent, ⟨url, address, rfl⟩, rfl, ?_,
    ?_⟩
  · rcases found with rfl | ⟨_, _, _, _, rfl⟩
    · exact Nat.zero_le 1
    · exact Nat.le_refl 1
  · intro request member
    rcases found with rfl | ⟨release, asset, released, first, rfl⟩
    · cases member
    · rw [List.mem_singleton.mp member]
      exact ⟨release, asset, released, first, rfl⟩

/-- **A fetch is a course of attempts, each of which asks with the token that is stored then.** It
ends with the first success, the first interruption, or the first failure after which the user gives
up; the user is asked once about every other failure; and the keyring is written to once for every
token given, and not otherwise. Every attempt sends one lookup, authorized by the token that the
keyring shows when the attempt begins, and after it at most one request, for the first asset of the
right name in the release that this lookup has found. -/
theorem fetch_course (choices : List (Option Choice)) (tokens : List (Option String))
    {world : World} (own : world.keyring.faults.AreOwn) :
    ∃ start attempts, world.SameOutside start
      ∧ Retry.Course order.attempt choices tokens [] start
        (order.fetch (.ofAnswers (.prepared choices tokens)) world) attempts
      ∧ ∀ base, order.settings.value .apiBase = .text base → ∀ attempt ∈ attempts,
        (attempt.before.attempt TokenStore.get).1 = .ok attempt.before.keyring.readable
          ∧ ∃ lookup downloads,
            order.Asks attempt.before.keyring.readable attempt lookup downloads := by
  have same : world.SameOutside (world.run order.announce).2 := World.sameOutside_run_log ..
  have ownStart : (world.run order.announce).2.keyring.faults.AreOwn := same.keyring ▸ own
  obtain ⟨attempts, course⟩ := Retry.exists_course order.looksOnce_attempt choices tokens [] []
    (world.run order.announce).2 ownStart
  refine ⟨(world.run order.announce).2, attempts, same, course, fun base typed attempt member => ?_⟩
  have ownBefore : attempt.before.keyring.faults.AreOwn := course.faults attempt member ▸ ownStart
  have asks := order.asks_attempt ownBefore typed
  rw [← course.attempted attempt member] at asks
  obtain ⟨_, current, _⟩ := attempt_get ownBefore
  exact ⟨congrArg Prod.fst current, asks⟩

/-- An asset of the default repository. -/
def exampleOrder : Order :=
  ⟨.text "2021-03-15", .text "move-ls-linux", .named "out/asset.bin", .defaults, .absent, false⟩

/-- A world whose keyring holds a token and cannot delete it. -/
def exampleWorld : World :=
  { World.empty with
    keyring := ⟨some "old", { KeyringFaults.none with delete := some World.nothingToDelete }, []⟩ }

/-- A token renewed, another one to be cleared, and then no answer. -/
theorem fetch_course_two_updates :
    exampleWorld.keyring.faults.AreOwn
      ∧ ∃ start attempts, exampleWorld.SameOutside start
        ∧ Retry.Course exampleOrder.attempt [some .renewToken, some .renewToken, none]
          [some "new", some ""] [] start
          (exampleOrder.fetch (.ofAnswers (.prepared [some .renewToken, some .renewToken, none]
            [some "new", some ""])) exampleWorld) attempts
        ∧ ∀ base, exampleOrder.settings.value .apiBase = .text base → ∀ attempt ∈ attempts,
          (attempt.before.attempt TokenStore.get).1 = .ok attempt.before.keyring.readable
            ∧ ∃ lookup downloads,
              exampleOrder.Asks attempt.before.keyring.readable attempt lookup downloads := by
  have own : exampleWorld.keyring.faults.AreOwn := by
    rintro failure (missing | missing | faulty)
    · cases missing
    · cases missing
    · cases faulty
      exact ⟨_, rfl⟩
  exact ⟨own, exampleOrder.fetch_course _ _ own⟩

end Order

end AssetFetch
