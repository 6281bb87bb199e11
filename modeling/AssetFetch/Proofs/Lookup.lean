/-
**How a lookup ends.**

A lookup should give a release or a failure of a lookup, whatever its one request meets. Nothing
about a description is demanded before it is read; what is no description fails while it is read,
and every such failure is caught. But the text of a response is read outside all handlers.

* `Response.IsForeign`: what arrives of a response is no failure of a lookup, and then neither is
  what is met when it is read;
* `Release.IsListing`: the values that list assets;
* `Release.exists_ofValue_iff`: a record describes a release exactly if its assets are such a value;
* `Lookup.Ends`: what a lookup should make of a reply;
* `Surroundings.lookup_ends_iff`: **it does so exactly if** the text of a response can be read
  wherever it is asked for;
* `Surroundings.unreadable_refusal_ends_otherwise`: one that cannot.
-/

import AssetFetch.Proofs.Fetching
import AssetFetch.Proofs.Json.RoundTrip
import AssetFetch.Proofs.Surroundings

namespace AssetFetch

open AssetFetch.Text

/-! ### What is read of a response -/

namespace Response

variable {response : Response}

/-- What arrives in place of a body is no failure of a lookup or a download. -/
def IsForeign (response : Response) : Prop :=
  ∀ size failure, .error failure ∈ response.arrivals size → failure.isFetch = false

/-- A failure that is met while a body is gathered is among what arrives. -/
theorem mem_of_gather_error {arrivals : List (Except Failure Bytes)} {failure : Failure}
    (failed : gather arrivals = .error failure) : .error failure ∈ arrivals := by
  induction arrivals with
  | nil => cases failed
  | cons arrival rest ih =>
    cases arrival with
    | error other =>
      cases failed
      exact List.mem_cons_self
    | ok piece =>
      cases gathered : gather rest with
      | ok bytes =>
        simp only [gather, gathered] at failed
        cases failed
      | error other =>
        simp only [gather, gathered] at failed
        cases failed
        exact List.mem_cons_of_mem _ (ih gathered)

/-- A body cannot be read for a failure that arrives. -/
theorem mem_of_bytes_error {failure : Failure} (unread : response.bytes = .error failure)
    (size : Int) : .error failure ∈ response.arrivals size := by
  unfold bytes at unread
  split at unread
  · cases unread
  · split at unread
    · cases unread
    · rename_i arrivals body
      rw [Response.arrivals, body]
      exact mem_of_gather_error unread

/-- What is no failure of a lookup in pieces of one size is none in any. -/
theorem isForeign_of_arrivals {size : Int}
    (foreign : ∀ failure, .error failure ∈ response.arrivals size → failure.isFetch = false) :
    response.IsForeign := by
  intro other failure member
  unfold arrivals at foreign member
  cases body : response.body with
  | whole bytes => simp [body] at member
  | pieces arrivals =>
    rw [body] at foreign member
    exact foreign failure member

/-- What is read of a body fails as nothing of a lookup does. -/
theorem IsForeign.of_read {α : Type} (foreign : response.IsForeign)
    {read : Bytes → Except Failure α}
    (reads : ∀ bytes failure, read bytes = .error failure → failure.isFetch = false)
    {failure : Failure} (failed : response.bytes.bind read = .error failure) :
    failure.isFetch = false := by
  cases arrived : response.bytes with
  | error other =>
    rw [arrived] at failed
    cases failed
    exact foreign 0 _ (mem_of_bytes_error arrived 0)
  | ok bytes =>
    rw [arrived] at failed
    exact reads bytes failure failed

theorem IsForeign.text (foreign : response.IsForeign) {failure : Failure}
    (unread : response.text = .error failure) : failure.isFetch = false :=
  foreign.of_read response.codec.text_foreign unread

/-- Where the reading of a text comes to a failure of a lookup, the text has been read. -/
theorem IsForeign.exists_text {α : Type} (foreign : response.IsForeign)
    {next : LooseText → Except Failure α} {failure : Failure} (own : failure.isFetch = true)
    (ended : response.text.bind next = .error failure) : ∃ text, response.text = .ok text := by
  cases read : response.text with
  | ok text => exact ⟨text, rfl⟩
  | error other =>
    rw [read] at ended
    cases ended
    cases own.symm.trans (foreign.text read)

theorem IsForeign.data (foreign : response.IsForeign) {failure : Failure}
    (unread : response.data = .error failure) : failure.isFetch = false :=
  foreign.of_read response.codec.data_foreign unread

end Response

/-! ### Descriptions -/

namespace Release

/-- A value that lists assets: it counts as absent, or it is a list of at least one item, and all
items are records. -/
def IsListing (value : Value) : Prop :=
  value.isTruthy = false
    ∨ ∃ items, value = .list items ∧ items ≠ [] ∧ ∀ item ∈ items, item.kind = .record

/-- A value describes an asset exactly if it is a record. -/
theorem exists_asset_iff {value : Value} :
    (∃ asset, Asset.ofValue value = .ok asset) ↔ value.kind = .record := by
  cases value with
  | record members => exact ⟨fun _ => rfl, fun _ => ⟨_, rfl⟩⟩
  | _ =>
    constructor
    · rintro ⟨_, described⟩
      cases described
    · intro same
      cases same

theorem exists_assets_iff {items : List Value} :
    (∃ assets, items.mapM Asset.ofValue = .ok assets) ↔ ∀ item ∈ items, item.kind = .record := by
  induction items with
  | nil => exact iff_of_true ⟨[], rfl⟩ fun _ member => (List.not_mem_nil member).elim
  | cons item items ih =>
    rw [List.mapM_cons, List.forall_mem_cons, ← ih, ← exists_asset_iff]
    cases first : Asset.ofValue item with
    | error failure =>
      constructor
      · rintro ⟨_, described⟩
        cases described
      · rintro ⟨⟨_, described⟩, _⟩
        cases described
    | ok asset =>
      cases others : items.mapM Asset.ofValue with
      | error failure =>
        constructor
        · rintro ⟨_, described⟩
          cases described
        · rintro ⟨_, _, described⟩
          cases described
      | ok assets => exact iff_of_true ⟨asset :: assets, rfl⟩ ⟨⟨asset, rfl⟩, assets, rfl⟩

/-- **Assets can be read** from what lists them, and from nothing else. Texts and records have items
too, but these are texts. -/
theorem exists_assetsOf_iff {value : Value} :
    (∃ assets, assetsOf value = .ok assets) ↔ IsListing value := by
  unfold assetsOf IsListing
  by_cases present : value.isTruthy = true
  · rw [if_pos present, or_iff_right (by simp [present])]
    cases value with
    | list items =>
      have filled : items ≠ [] := by simpa [Value.isTruthy] using present
      refine exists_assets_iff.trans ⟨fun all => ⟨items, rfl, filled, all⟩, ?_⟩
      rintro ⟨_, ⟨⟩, _, all⟩
      exact all
    | text characters =>
      refine iff_of_false (fun read => ?_) (by simp)
      have all := exists_assets_iff.mp read
      cases filled : characters.characters with
      | nil => simp [Value.isTruthy, LooseText.isEmpty, filled] at present
      | cons first rest =>
        rw [filled] at all
        exact absurd (all _ List.mem_cons_self) (by simp [Value.kind])
    | record members =>
      refine iff_of_false (fun read => ?_) (by simp)
      have all := exists_assets_iff.mp read
      cases members with
      | nil => cases present
      | cons first rest => exact absurd (all _ List.mem_cons_self) (by simp [Value.kind])
    | _ => simp [itemsOf]
  · rw [if_neg present]
    exact iff_of_true ⟨[], rfl⟩ (Or.inl (Bool.eq_false_iff.mpr present))

/-- **A value describes a release** exactly if it is a record whose assets can be read. -/
theorem exists_ofValue_iff {value : Value} :
    (∃ release, ofValue value = .ok release)
      ↔ ∃ members, value = .record members ∧ IsListing (Value.memberOrNull "assets" members) := by
  cases value with
  | record members =>
    rw [show (∃ others, Value.record members = .record others
        ∧ IsListing (Value.memberOrNull "assets" others))
      ↔ IsListing (Value.memberOrNull "assets" members) by simp, ← exists_assetsOf_iff, ofValue]
    cases assetsOf (Value.memberOrNull "assets" members) with
    | ok assets => exact ⟨fun _ => ⟨assets, rfl⟩, fun _ => ⟨_, rfl⟩⟩
    | error failure => simp
  | _ => simp [ofValue]

/-- Where assets cannot be read, one of them cannot. -/
theorem exists_item_of_error {items : List Value} {failure : Failure}
    (failed : items.mapM Asset.ofValue = .error failure) :
    ∃ item ∈ items, Asset.ofValue item = .error failure := by
  induction items with
  | nil => cases failed
  | cons item items ih =>
    rw [List.mapM_cons] at failed
    cases first : Asset.ofValue item with
    | error other =>
      rw [first] at failed
      cases failed
      exact ⟨item, List.mem_cons_self, first⟩
    | ok asset =>
      cases others : items.mapM Asset.ofValue with
      | error other =>
        rw [first, others] at failed
        cases failed
        obtain ⟨inner, member, same⟩ := ih others
        exact ⟨inner, List.mem_cons_of_mem item member, same⟩
      | ok assets =>
        rw [first, others] at failed
        cases failed

/-- What is no description is misread. -/
theorem isMisreading_of_asset_error {value : Value} {failure : Failure}
    (failed : Asset.ofValue value = .error failure) : failure.isMisreading = true := by
  cases value with
  | record members => cases failed
  | _ =>
    cases failed
    rfl

theorem isMisreading_of_assetsOf_error {value : Value} {failure : Failure}
    (failed : assetsOf value = .error failure) : failure.isMisreading = true := by
  unfold assetsOf at failed
  split at failed
  · split at failed
    · obtain ⟨item, _, same⟩ := exists_item_of_error failed
      exact isMisreading_of_asset_error same
    · rename_i without
      cases failed
      cases value <;> cases without
      all_goals rfl
  · cases failed

theorem isMisreading_of_ofValue_error {value : Value} {failure : Failure}
    (failed : ofValue value = .error failure) : failure.isMisreading = true := by
  unfold ofValue at failed
  split at failed
  · split at failed
    · cases failed
    · rename_i without
      cases failed
      exact isMisreading_of_assetsOf_error without
  · cases failed
    rfl

end Release

namespace Lookup

/-- **A response is a description** of a release: its data is a record whose assets can be read. -/
def IsDescription (response : Response) : Prop :=
  ∃ members, response.data = .ok (.record members)
    ∧ Release.IsListing (Value.memberOrNull "assets" members)

theorem exists_describedBy_iff {response : Response} :
    (∃ release, describedBy response = .ok release) ↔ IsDescription response := by
  unfold describedBy IsDescription
  cases response.data with
  | error failure => simp [Except.bind]
  | ok value =>
    refine Release.exists_ofValue_iff.trans (exists_congr fun members => and_congr_left fun _ => ?_)
    exact ⟨congrArg _, Except.ok.inj⟩

/-- What describes no release cannot be read, or it is misread. -/
theorem isMisreading_of_describedBy_error {response : Response} {failure : Failure}
    (failed : describedBy response = .error failure) :
    response.data = .error failure ∨ failure.isMisreading = true := by
  unfold describedBy at failed
  cases read : response.data with
  | error other =>
    rw [read] at failed
    cases failed
    exact Or.inl rfl
  | ok value =>
    rw [read] at failed
    exact Or.inr (Release.isMisreading_of_ofValue_error failed)

/-! ### Replies -/

/-- **What a lookup should make of a reply.** -/
structure Ends (tag : Value) (reply : Except Failure Response)
    (outcome : Except Failure Release) : Prop where
  /-- A request for which time runs out fails for want of a connection. -/
  timedOut : ∀ fault, reply = .error (.network fault) → fault.isTimeout →
    outcome = .error (.fetch (.connection "Request timed out connecting to GitHub")
      (some (.network fault)))
  /-- So does one that meets no connection. -/
  unconnected : ∀ fault, reply = .error (.network fault) → ¬ fault.isTimeout → fault.isConnection →
    outcome = .error (.fetch (.connection
      "Unable to connect to GitHub. Check your internet connection.") (some (.network fault)))
  /-- Any other failure of the network is the failure of the request. -/
  failed : ∀ fault, reply = .error (.network fault) → ¬ fault.isTimeout → ¬ fault.isConnection →
    outcome = .error (.fetch (.general "Request failed") (some (.network fault)))
  /-- A refusal is a failure of the lookup with the tag and the status. -/
  refused : ∀ response, reply = .ok response → 400 ≤ response.status ∧ response.status < 600 →
    outcome = .error (.ofFetch (.lookup tag (.int response.status)))
  /-- With any other status the data of the body decides: it is a record, and what it says about
  assets lists them. -/
  described : ∀ response, reply = .ok response →
    ¬ (400 ≤ response.status ∧ response.status < 600) →
    ((∃ release, outcome = .ok release) ↔ IsDescription response)
  /-- Otherwise the response is invalid. -/
  invalid : ∀ response, reply = .ok response →
    ¬ (400 ≤ response.status ∧ response.status < 600) →
    (∃ release, outcome = .ok release)
      ∨ ∃ cause, outcome = .error (.fetch (.general "Invalid release response") (some cause))

/-- **A response can be told of**: the text of a refusal can be read, and where an answer describes
no release, its text can be read and its data is misread at worst. -/
structure CanBeTold (response : Response) : Prop where
  refused : 400 ≤ response.status ∧ response.status < 600 → ∃ text, response.text = .ok text
  invalid : ¬ (400 ≤ response.status ∧ response.status < 600) → ¬ IsDescription response →
    (∃ text, response.text = .ok text)
      ∧ ∀ failure, response.data = .error failure → failure.isMisreading = true

end Lookup

theorem Response.isRefusal_iff {response : Response} :
    response.isRefusal = true ↔ 400 ≤ response.status ∧ response.status < 600 := by
  simp [isRefusal]

namespace Surroundings

section Replies

variable {surroundings : Surroundings} {scene : Scene} {tag : Value} {url : String}
  {response : Response}

/-- What logs a line and fails, fails. -/
theorem attempt_log_throw {α : Type} (severity : Severity) (logger message : String)
    (failure : Failure) :
    surroundings.attempt (do log severity logger message; throw failure : Action α) scene
      = (.error failure, scene) :=
  rfl

/-- The failure of a refusal, or that of its text. -/
theorem attempt_refused :
    (surroundings.attempt (Lookup.refused tag url response) scene).1
      = response.text.bind fun _ => .error (.ofFetch (.lookup tag (.int response.status))) := by
  rw [Lookup.refused, attempt_bind, attempt_ofExcept]
  cases response.text <;> rfl

/-- The failure of an answer that describes no release, or that of its text. -/
theorem attempt_invalid (failure : Failure) :
    (surroundings.attempt (Lookup.invalid tag response failure) scene).1
      = response.text.bind fun _ =>
          .error (.fetch (.general "Invalid release response") (some failure)) := by
  rw [Lookup.invalid, attempt_bind, attempt_ofExcept]
  cases response.text <;> rfl

/-- What is made of an answer: its release, or what is said where it describes none. -/
theorem attempt_answered :
    (surroundings.attempt (Lookup.answered tag response) scene).1
      = match Lookup.describedBy response with
        | .ok release => .ok release
        | .error failure =>
          if failure.isMisreading then response.text.bind fun _ =>
            .error (.fetch (.general "Invalid release response") (some failure))
          else .error failure := by
  unfold Lookup.answered
  cases Lookup.describedBy response with
  | ok release => rfl
  | error failure =>
    by_cases misread : failure.isMisreading = true
    · simp only [if_pos misread]
      exact attempt_invalid failure
    · simp only [if_neg misread]
      rfl

/-- **An answer gives a release exactly if** it is a description. -/
theorem exists_attempt_answered_iff :
    (∃ release, (surroundings.attempt (Lookup.answered tag response) scene).1 = .ok release)
      ↔ Lookup.IsDescription response := by
  rw [← Lookup.exists_describedBy_iff, attempt_answered]
  cases Lookup.describedBy response with
  | ok release => simp
  | error failure =>
    refine iff_of_false ?_ (by simp)
    rintro ⟨release, found⟩
    simp only at found
    split at found
    · cases read : response.text with
      | ok text =>
        rw [read] at found
        cases found
      | error other =>
        rw [read] at found
        cases found
    · cases found

/-- **What is made of a reply** whose response can be told of. -/
theorem ends_receive {reply : Except Failure Response}
    (told : ∀ response, reply = .ok response → Lookup.CanBeTold response) :
    Lookup.Ends tag reply (surroundings.attempt (Lookup.receive tag url reply) scene).1 where
  timedOut fault same late := by
    rw [same, Lookup.receive, Lookup.explain, if_pos late, attempt_log_throw]
  unconnected fault same early away := by
    rw [same, Lookup.receive, Lookup.explain, if_neg early, if_pos away, attempt_log_throw]
  failed fault same early there := by
    rw [same, Lookup.receive, Lookup.explain, if_neg early, if_neg there, attempt_log_throw]
  refused response same refusal := by
    obtain ⟨text, read⟩ := (told response same).refused refusal
    rw [same, Lookup.receive, if_pos (Response.isRefusal_iff.mpr refusal), attempt_refused, read]
    rfl
  described response same accepted := by
    rw [same, Lookup.receive, if_neg (mt Response.isRefusal_iff.mp accepted)]
    exact exists_attempt_answered_iff
  invalid response same accepted := by
    rw [same, Lookup.receive, if_neg (mt Response.isRefusal_iff.mp accepted), attempt_answered]
    cases described : Lookup.describedBy response with
    | ok release => exact Or.inl ⟨release, rfl⟩
    | error failure =>
      have without : ¬ Lookup.IsDescription response := by
        rw [← Lookup.exists_describedBy_iff, described]
        simp
      obtain ⟨⟨text, read⟩, known⟩ := (told response same).invalid accepted without
      have misread : failure.isMisreading = true :=
        (Lookup.isMisreading_of_describedBy_error described).elim (known failure) id
      simp only [if_pos misread, read]
      exact Or.inr ⟨failure, rfl⟩

/-- **A response of which something else is made cannot be told of.** -/
theorem canBeTold_of_ends {response : Response} (foreign : response.IsForeign)
    (ends : Lookup.Ends tag (.ok response)
      (surroundings.attempt (Lookup.receive tag url (.ok response)) scene).1) :
    Lookup.CanBeTold response where
  refused refusal := by
    have ended := ends.refused response rfl refusal
    rw [Lookup.receive, if_pos (Response.isRefusal_iff.mpr refusal), attempt_refused] at ended
    exact foreign.exists_text rfl ended
  invalid accepted without := by
    have ended := (ends.invalid response rfl accepted).resolve_left
      (mt (ends.described response rfl accepted).mp without)
    rw [Lookup.receive, if_neg (mt Response.isRefusal_iff.mp accepted), attempt_answered] at ended
    obtain ⟨cause, ended⟩ := ended
    cases described : Lookup.describedBy response with
    | ok release => exact absurd (Lookup.exists_describedBy_iff.mp ⟨release, described⟩) without
    | error failure =>
      rw [described] at ended
      by_cases misread : failure.isMisreading = true
      · simp only [if_pos misread] at ended
        refine ⟨foreign.exists_text rfl ended, fun other unread => ?_⟩
        rw [Lookup.describedBy, unread] at described
        cases described
        exact misread
      · -- what is not misread has not been read, and is passed on
        simp only [if_neg misread] at ended
        cases ended
        cases foreign.data
          ((Lookup.isMisreading_of_describedBy_error described).resolve_right misread)

/-- A lookup makes something of the reply to its one request. -/
theorem attempt_lookup {client : Client}
    (address : releaseUrl tag client.apiBase client.repository = .ok url) :
    surroundings.attempt (client.lookup tag) scene
      = surroundings.attempt (Lookup.receive tag url
          ((surroundings.script[scene.sent]?).getD (.error World.noMoreResponses)))
          { scene with sent := scene.sent + 1 } := by
  rw [lookup_eq, attempt_bind_of_ok (attempt_ofExcept _ _ |>.trans (by rw [address]))]
  rfl

end Replies

/-- **How a lookup ends.** A service has an address, and its reply is a response or the failure of a
request. Time that runs out, a missing connection and other failures of the network are told apart;
a refusal names the tag and the status; and a body gives a release exactly if it is a record in
which the assets are absent or a list of records. Nothing else about the body counts. All this holds
**exactly if** the response can be told of. What arrives in place of its body is no failure of a
lookup. -/
theorem lookup_ends_iff (surroundings : Surroundings) (scene : Scene) (client : Client)
    (tag : Value) {base : LooseText} {reply : Except Failure Response}
    (typed : client.apiBase = .text base) (replied : surroundings.script[scene.sent]? = some reply)
    (foreign : ∀ response, reply = .ok response → response.IsForeign) :
    Lookup.Ends tag reply (surroundings.attempt (client.lookup tag) scene).1
      ↔ ∀ response, reply = .ok response → Lookup.CanBeTold response := by
  have address : ∃ url, releaseUrl tag client.apiBase client.repository = .ok url := by
    rw [typed]
    exact ⟨_, rfl⟩
  obtain ⟨url, address⟩ := address
  rw [attempt_lookup address, replied]
  refine ⟨?_, ends_receive⟩
  rintro ends response rfl
  exact canBeTold_of_ends (foreign response rfl) ends

/-- What is described by members of which only the assets are of the type that is expected. -/
def oddMembers : List (LooseText × Value) :=
  [("name", .list [.int 7]), ("id", .text "seven"), ("published_at", .int 7),
    ("assets", .list [.record []])]

/-- The description. -/
def oddDescription : String :=
  Json.writtenText (Json.writes 0 "" (.record oddMembers))

/-- It arrives with a status that is neither a success nor a refusal. -/
def oddResponse : Response :=
  ⟨300, [], .whole (encode oddDescription), .utf8 Json.Depths.usual.read⟩

/-- That description gives a release. -/
theorem lookup_ends_iff_odd :
    (Client.standard none).apiBase = .text defaultApiBase
      ∧ (calm "0" [.ok oddResponse]).script[(Scene.start .empty).sent]? = some (.ok oddResponse)
      ∧ oddResponse.IsForeign
      ∧ ∃ release, ((calm "0" [.ok oddResponse]).attempt
          ((Client.standard none).lookup (.text "v1")) (.start .empty)).1 = .ok release := by
  have stable : (Value.record oddMembers).IsStable := by
    simp [Value.IsStable, Value.AreStableMembers, Value.AreStable, oddMembers,
      LooseText.isReduced_ofString, LooseText.ofString_inj,
      show digitCount 7 ≤ digitLimit by decide]
  have read : Json.read Json.Depths.usual.read oddDescription = .ok (.record oddMembers) :=
    Json.readWithin_writtenText stable (Json.Limits.suit_usual (by decide))
  have data : oddResponse.data = .ok (.record oddMembers) := by
    show (Json.read _ (decodeLossy (encode oddDescription))).mapError _ = _
    rw [decodeLossy_encode, read]
    rfl
  have listing : Release.IsListing (Value.memberOrNull "assets" oddMembers) :=
    Or.inr ⟨_, rfl, by simp, by simp [Value.kind]⟩
  have foreign : oddResponse.IsForeign := by
    simp [Response.IsForeign, Response.arrivals, oddResponse]
  have ends := (lookup_ends_iff (calm "0" [.ok oddResponse]) (.start .empty) (Client.standard none)
    (.text "v1") rfl rfl fun _ same => Except.ok.inj same ▸ foreign).mpr (by
      rintro _ ⟨⟩
      exact ⟨fun _ => ⟨_, rfl⟩, fun _ without => absurd ⟨_, data, listing⟩ without⟩)
  exact ⟨rfl, rfl, foreign, (ends.described oddResponse rfl (by decide)).mpr ⟨_, data, listing⟩⟩

/-- What is raised where text is asked for that is declared to be of an encoding for names of hosts,
in which nothing can be replaced. -/
def undecodable : Failure :=
  .other "UnicodeError"
    "decoding with 'idna' codec failed (UnicodeError: Unsupported error handling replace)"

/-- A refusal with such a text. -/
def unreadableRefusal : Response :=
  ⟨404, [("content-type", .text "text/html; charset=idna")], .whole [0x78],
    ⟨fun _ => .error undecodable, fun _ => .error undecodable, fun | _, _, rfl => rfl,
      fun | _, _, rfl => rfl⟩⟩

/-- **A refusal whose text cannot be read** does not end as a lookup should: its failure is passed
on. -/
theorem unreadable_refusal_ends_otherwise :
    ((calm "0" [.ok unreadableRefusal]).attempt ((Client.standard none).lookup (.text "v1"))
        (.start .empty)).1 = .error undecodable
      ∧ ¬ Lookup.Ends (.text "v1") (.ok unreadableRefusal)
        ((calm "0" [.ok unreadableRefusal]).attempt ((Client.standard none).lookup (.text "v1"))
          (.start .empty)).1 := by
  have ended : ((calm "0" [.ok unreadableRefusal]).attempt
      ((Client.standard none).lookup (.text "v1")) (.start .empty)).1 = .error undecodable := by
    rw [attempt_lookup rfl]
    rfl
  refine ⟨ended, fun ends => ?_⟩
  have refused := ends.refused unreadableRefusal rfl (by decide)
  rw [ended] at refused
  cases refused

end Surroundings

end AssetFetch
