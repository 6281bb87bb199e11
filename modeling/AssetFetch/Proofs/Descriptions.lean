/-
**What a description says is what a lookup gives.**

A service describes a release by a record: its name, its number and the list of its assets, among
other members that it adds as it likes, and in any order. A lookup gives a release with that name,
that number and those assets, whatever else the record and those of the assets have.

* `Release.Outline`: the name, the number and the assets of a release; `Release.Describes`: a record
  has them; `ofValue_of_describes`: the release that such a record describes;
* `Describes.returned`: the record that is read from the text of another one describes the same, but
  for halves of characters that come back put together;
* `Lookup.Gives`: what every lookup comes to that meets the text of a body;
* `Lookup.description_roundTrip`: **a release comes back from the text of its description, and two
  bodies that describe it alike give the same release**.
-/

import AssetFetch.Proofs.Json.Line
import AssetFetch.Proofs.Lookup
import AssetFetch.Proofs.Settings.Loading

namespace AssetFetch

open AssetFetch.Text

/-! ### Members of records -/

section Members

variable {members others : List (LooseText × Value)} {name : LooseText} {value other : Value}
  {spacing : Json.Spacing}

theorem Value.member?_append :
    member? name (members ++ others) = (member? name members).or (member? name others) :=
  List.lookup_append

/-- Where names are different, what is inside a record is its member. -/
theorem Value.member?_of_mem (distinct : (members.map Prod.fst).Nodup)
    (inside : (name, value) ∈ members) : member? name members = some value := by
  induction members with
  | nil => cases inside
  | cons first rest ih =>
    obtain ⟨key, old⟩ := first
    rw [List.map_cons, List.nodup_cons] at distinct
    cases inside with
    | head => exact List.lookup_cons_self
    | tail _ inside =>
      have apart : name ≠ key := by
        rintro rfl
        exact distinct.1 (List.mem_map.mpr ⟨_, inside, rfl⟩)
      rw [member?, List.lookup_cons, beq_eq_false_iff_ne.mpr apart]
      exact ih distinct.2 inside

theorem Value.nodup_setMember (distinct : (members.map Prod.fst).Nodup) :
    ((setMember name value members).map Prod.fst).Nodup := by
  induction members with
  | nil => exact List.nodup_singleton _
  | cons first rest ih =>
    obtain ⟨key, old⟩ := first
    rw [List.map_cons, List.nodup_cons] at distinct
    rw [setMember]
    by_cases same : key = name
    · subst same
      rw [beq_self_eq_true, if_pos rfl, List.map_cons]
      exact List.nodup_cons.mpr distinct
    · rw [beq_eq_false_iff_ne.mpr same, if_neg Bool.false_ne_true, List.map_cons, List.nodup_cons,
        mem_names_setMember, not_or]
      exact ⟨⟨same, distinct.1⟩, ih distinct.2⟩

namespace Json

/-- The names of a record that is read are different. -/
theorem nodup_setMembers (written : List (LooseText × Value))
    (distinct : (members.map Prod.fst).Nodup) :
    ((setMembers members written).map Prod.fst).Nodup := by
  induction written generalizing members with
  | nil => exact distinct
  | cons first rest ih => exact ih (Value.nodup_setMember distinct)

variable {word : String}

/-- A name of small characters is read only from itself. -/
theorem member?_returned_of_not_mem (small : isSmall word = true)
    (each : List.Forall₂ (MemberReturns spacing) members others)
    (absent : (word : LooseText) ∉ members.map Prod.fst) :
    Value.member? word others.reverse = none := by
  induction each with
  | nil => rfl
  | @cons member next members others first _ ih =>
    rw [List.map_cons, List.mem_cons, not_or] at absent
    have apart : (word : LooseText) ≠ next.1 := by
      intro same
      rw [first.name, eq_comm, joined_eq_ofString_iff small] at same
      exact absent.1 same.symm
    rw [List.reverse_cons, Value.member?_append, ih absent.2, Option.none_or]
    simp [Value.member?, apart]

/-- The last member of such a name is what its value is read as. -/
theorem member?_returned (small : isSmall word = true)
    (each : List.Forall₂ (MemberReturns spacing) members others)
    (distinct : (members.map Prod.fst).Nodup)
    (inside : ((word : LooseText), value) ∈ members) (returns : Returns spacing value other) :
    Value.member? word others.reverse = some other := by
  induction each with
  | nil => cases inside
  | @cons member next members others first later ih =>
    rw [List.map_cons, List.nodup_cons] at distinct
    rw [List.reverse_cons, Value.member?_append]
    cases inside with
    | head =>
      have name : next.1 = word := first.name.trans ((joined_eq_ofString_iff small).mpr rfl)
      have same : next = ((word : LooseText), other) :=
        Prod.ext name (first.value.unique returns)
      rw [member?_returned_of_not_mem small later distinct.1, same]
      exact List.lookup_cons_self
    | tail _ inside =>
      rw [ih distinct.2 inside]
      rfl

/-- **A member comes back as what its value is read as**, if its name has small characters only. -/
theorem mem_returned (word : String) (small : isSmall word = true)
    (each : List.Forall₂ (MemberReturns spacing) members others)
    (distinct : (members.map Prod.fst).Nodup)
    (inside : ((word : LooseText), value) ∈ members) (returns : Returns spacing value other) :
    ((word : LooseText), other) ∈ setMembers [] others := by
  refine Value.mem_of_member? ?_
  rw [member?_setMembers, member?_returned small each distinct inside returns]
  rfl

/-- The member of such a name, or null, is read as the member that comes back, or null. -/
theorem returns_memberOrNull (word : String) (small : isSmall word = true)
    (each : List.Forall₂ (MemberReturns spacing) members others)
    (distinct : (members.map Prod.fst).Nodup)
    (lines : Value.MembersHaveLines members) :
    (Value.memberOrNull word members).HasLine
      ∧ Returns spacing (Value.memberOrNull word members)
        (Value.memberOrNull word (setMembers [] others)) := by
  cases found : Value.member? word members with
  | none =>
    have absent : (word : LooseText) ∉ members.map Prod.fst := by
      intro inside
      obtain ⟨member, inside, name⟩ := List.mem_map.mp inside
      have apart := List.lookup_eq_none_iff.mp found member inside
      rw [name, bne_self_eq_false] at apart
      cases apart
    have nothing := member?_setMembers word [] others
    rw [member?_returned_of_not_mem small each absent] at nothing
    rw [Value.memberOrNull, Value.memberOrNull, found, nothing]
    exact ⟨trivial, returns_null⟩
  | some value =>
    have inside := Value.mem_of_member? found
    have hasLine : value.HasLine := Value.hasLine_of_mem lines inside
    obtain ⟨other, returns⟩ := exists_returns value hasLine
    have names : ((setMembers [] others).map Prod.fst).Nodup := nodup_setMembers others .nil
    have back := Value.member?_of_mem names
      (mem_returned word small each distinct inside returns)
    rw [Value.memberOrNull, Value.memberOrNull, found, back]
    exact ⟨hasLine, returns⟩

end Json

end Members

/-! ### Descriptions -/

namespace Release

/-- The name and the number of a release, each of which may be missing, and the names and addresses
of its assets. -/
structure Outline where
  name : Option LooseText
  number : Option Int
  assets : List (LooseText × LooseText)

/-- The outline as it comes back from a text. -/
def Outline.joined (outline : Outline) : Outline :=
  ⟨outline.name.map .joined, outline.number,
    outline.assets.map fun asset => (asset.1.joined, asset.2.joined)⟩

/-- No text of an outline has two halves in a row that make a pair. -/
structure Outline.IsReduced (outline : Outline) : Prop where
  name : ∀ text ∈ outline.name, text.IsReduced
  assets : ∀ asset ∈ outline.assets, asset.1.IsReduced ∧ asset.2.IsReduced

/-- The release of an outline, published at a time. -/
def Outline.release (outline : Outline) (published : Option Timestamp) : Release where
  name := outline.name.elim .null .text
  number := outline.number.elim .null .int
  published
  assets := outline.assets.map fun asset => ⟨.text asset.1, .text asset.2⟩

/-- The members of a record, whose names are different, describe an asset: among them are its name
and its address. -/
structure DescribesAsset (members : List (LooseText × Value)) (asset : LooseText × LooseText) :
    Prop where
  distinct : (members.map Prod.fst).Nodup
  name : (("name" : LooseText), Value.text asset.1) ∈ members
  url : (("browser_download_url" : LooseText), Value.text asset.2) ∈ members

/-- The members of a record, whose names are different, describe a release: among them are its name,
its number and a list of records that describe its assets. -/
structure Describes (members : List (LooseText × Value)) (outline : Outline) : Prop where
  distinct : (members.map Prod.fst).Nodup
  name : (("name" : LooseText), outline.name.elim Value.null .text) ∈ members
  number : (("id" : LooseText), outline.number.elim Value.null .int) ∈ members
  assets : ∃ items, (("assets" : LooseText), Value.list (items.map .record)) ∈ members
    ∧ List.Forall₂ DescribesAsset items outline.assets

section Describing

variable {members others : List (LooseText × Value)} {outline : Outline}
  {items : List (List (LooseText × Value))} {assets : List (LooseText × LooseText)}

/-- Without pairs of halves an outline comes back as it is. -/
theorem Outline.joined_of_reduced (reduced : outline.IsReduced) : outline.joined = outline := by
  obtain ⟨name, number, assets⟩ := outline
  have names : name.map .joined = name := by
    cases name with
    | none => rfl
    | some text => exact congrArg some (Json.joined_of_reduced (reduced.name text rfl))
  have files : (assets.map fun asset => (asset.1.joined, asset.2.joined)) = assets := by
    refine List.map_congr_left (fun asset member => ?_) |>.trans (List.map_id _)
    obtain ⟨first, second⟩ := reduced.assets asset member
    rw [Json.joined_of_reduced first, Json.joined_of_reduced second]
    rfl
  rw [joined, names, files]

theorem memberOrNull_of_mem {name : LooseText} {value : Value}
    (distinct : (members.map Prod.fst).Nodup) (inside : (name, value) ∈ members) :
    Value.memberOrNull name members = value := by
  rw [Value.memberOrNull, Value.member?_of_mem distinct inside]
  rfl

/-- The assets are described one by one. -/
theorem mapM_of_describes (each : List.Forall₂ DescribesAsset items assets) :
    (items.map Value.record).mapM Asset.ofValue
      = .ok (assets.map fun asset => ⟨.text asset.1, .text asset.2⟩) := by
  induction each with
  | nil => rfl
  | cons first _ ih =>
    rw [List.map_cons, List.mapM_cons, ih, Asset.ofValue,
      memberOrNull_of_mem first.distinct first.name, memberOrNull_of_mem first.distinct first.url]
    rfl

theorem assetsOf_of_describes (each : List.Forall₂ DescribesAsset items assets) :
    assetsOf (.list (items.map .record))
      = .ok (assets.map fun asset => ⟨.text asset.1, .text asset.2⟩) := by
  cases each with
  | nil => rfl
  | cons first later => exact mapM_of_describes (.cons first later)

/-- **A record describes the release of its outline**, published at the time that it has. -/
theorem ofValue_of_describes (describes : Describes members outline) :
    ofValue (.record members)
      = .ok (outline.release (timeOf (Value.memberOrNull "published_at" members))) := by
  obtain ⟨items, inside, each⟩ := describes.assets
  rw [ofValue, memberOrNull_of_mem describes.distinct inside, assetsOf_of_describes each,
    memberOrNull_of_mem describes.distinct describes.name,
    memberOrNull_of_mem describes.distinct describes.number]
  rfl

end Describing

/-! ### Descriptions as they come back -/

section Returning

open Json

variable {spacing : Spacing} {members others : List (LooseText × Value)} {outline : Outline}
  {items : List (List (LooseText × Value))} {assets : List (LooseText × LooseText)}

/-- The records of a list are read member by member. -/
theorem exists_recordsReturn (lines : Value.HaveLines (items.map .record)) :
    ∃ others, List.Forall₂ (List.Forall₂ (MemberReturns spacing)) items others := by
  induction items with
  | nil => exact ⟨[], .nil⟩
  | cons item items ih =>
    obtain ⟨first, later⟩ := lines
    obtain ⟨other, here⟩ := exists_membersReturn item first
    obtain ⟨others, there⟩ := ih later
    exact ⟨other :: others, .cons here there⟩

theorem returns_records {found : List (List (LooseText × Value))}
    (each : List.Forall₂ (List.Forall₂ (MemberReturns spacing)) items found) :
    Returns spacing (.list (items.map .record))
      (.list ((found.map (setMembers [])).map .record)) := by
  refine returns_list ?_
  rw [List.map_map, List.forall₂_map_left_iff, List.forall₂_map_right_iff]
  exact each.imp fun _ _ back => returns_record back

theorem DescribesAsset.returned {asset : LooseText × LooseText}
    (describes : DescribesAsset members asset)
    (each : List.Forall₂ (MemberReturns spacing) members others) :
    DescribesAsset (setMembers [] others) (asset.1.joined, asset.2.joined) where
  distinct := nodup_setMembers others .nil
  name := mem_returned "name" (by decide) each describes.distinct describes.name (returns_text _)
  url := mem_returned "browser_download_url" (by decide) each describes.distinct describes.url
    (returns_text _)

theorem describesAssets_returned {found : List (List (LooseText × Value))}
    (described : List.Forall₂ DescribesAsset items assets)
    (each : List.Forall₂ (List.Forall₂ (MemberReturns spacing)) items found) :
    List.Forall₂ DescribesAsset (found.map (setMembers []))
      (assets.map fun asset => (asset.1.joined, asset.2.joined)) := by
  induction described generalizing found with
  | nil =>
    cases each
    exact .nil
  | cons first _ ih =>
    cases each with
    | cons here there => exact .cons (first.returned here) (ih there)

theorem returns_name (name : Option LooseText) :
    Returns spacing (name.elim .null .text) ((name.map .joined).elim .null .text) := by
  cases name with
  | none => exact returns_null
  | some text => exact returns_text text

/-- **What is read from the text of a description describes the release as it comes back.** -/
theorem Describes.returned (describes : Describes members outline)
    (lines : Value.MembersHaveLines members)
    (each : List.Forall₂ (MemberReturns spacing) members others) :
    Describes (setMembers [] others) outline.joined where
  distinct := nodup_setMembers others .nil
  name := mem_returned "name" (by decide) each describes.distinct describes.name (returns_name _)
  number := by
    refine mem_returned "id" (by decide) each describes.distinct describes.number ?_
    have short := Value.hasLine_of_mem lines describes.number
    show Returns spacing _ (outline.number.elim .null .int)
    cases number : outline.number with
    | none => exact returns_null
    | some number =>
      rw [number] at short
      exact returns_int short
  assets := by
    obtain ⟨items, inside, described⟩ := describes.assets
    obtain ⟨found, back⟩ := exists_recordsReturn (Value.hasLine_of_mem lines inside)
    refine ⟨found.map (setMembers []), ?_, describesAssets_returned described back⟩
    exact mem_returned "assets" (by decide) each describes.distinct inside (returns_records back)

/-- The time at which a release was published, as it comes back from the text of a description. -/
def publishedIn (members : List (LooseText × Value)) : Option Timestamp :=
  match Value.memberOrNull "published_at" members with
  | .text text => Timestamp.ofText? text.joined
  | _ => none

theorem timeOf_returned (distinct : (members.map Prod.fst).Nodup)
    (lines : Value.MembersHaveLines members)
    (each : List.Forall₂ (MemberReturns spacing) members others) :
    timeOf (Value.memberOrNull "published_at" (setMembers [] others)) = publishedIn members := by
  obtain ⟨hasLine, returns⟩ :=
    returns_memberOrNull "published_at" (by decide) each distinct lines
  have kind := returns.kind_eq hasLine
  unfold publishedIn
  cases value : Value.memberOrNull "published_at" members with
  | text text =>
    rw [value] at returns
    rw [returns.unique (returns_text text)]
    rfl
  | _ =>
    rw [value] at kind
    cases other : Value.memberOrNull "published_at" (setMembers [] others) with
    | text text =>
      rw [other] at kind
      cases kind
    | _ => rfl

end Returning

end Release

/-! ### Lookups -/

/-- A text that the reader does not give up because of its limits. -/
def Json.IsWithin (depth : Nat) (text : String) : Prop :=
  ∀ fault, read depth text = .error fault → ¬ fault.IsLimit

theorem Json.isWithin_of_read {depth : Nat} {text : String} {value : Value}
    (ok : read depth text = .ok value) : IsWithin depth text := by
  intro fault failed
  cases ok.symm.trans failed

/-- **A success that brings a text**: its bytes are those of the text, and they are read as the data
that the text says, with so many lists and records inside each other. -/
structure Response.Brings (response : Response) (depth : Nat) (text : String) : Prop where
  status : response.status = 200
  bytes : response.bytes = .ok (encode text)
  reads : response.codec.data (encode text) = (Json.read depth text).mapError .ofJson

theorem Response.Brings.data {response : Response} {depth : Nat} {text : String}
    (brings : response.Brings depth text) :
    response.data = (Json.read depth text).mapError .ofJson := by
  rw [Response.data, brings.bytes]
  exact brings.reads

namespace Lookup

open Release Surroundings

/-- Every lookup to which a success is replied that brings this text comes to this. -/
def Gives (depth : Nat) (text : String) (outcome : Except Failure Release) : Prop :=
  ∀ (surroundings : Surroundings) (scene : Scene) (client : Client) (tag : Value)
    (base : LooseText) (response : Response), client.apiBase = .text base →
    surroundings.script[scene.sent]? = some (.ok response) → response.Brings depth text →
    (surroundings.attempt (client.lookup tag) scene).1 = outcome

/-- One of the responses that bring a text. -/
def someResponse (depth : Nat) (text : String) : Response :=
  ⟨200, [], .whole (encode text), .utf8 depth⟩

/-- One of the lookups that meet a text. -/
def someLookup (depth : Nat) (text : String) : Except Failure Release :=
  ((calm "0" [.ok (someResponse depth text)]).attempt ((Client.standard none).lookup (.text "v1"))
    (.start .empty)).1

/-- The text of a record in one line. -/
def body (members : List (LooseText × Value)) : String :=
  String.ofList (Json.line (.record members))

section Bodies

variable {depth : Nat} {text : String} {members : List (LooseText × Value)} {outline : Outline}
  {one other : Except Failure Release}

theorem brings_someResponse (depth : Nat) (text : String) :
    (someResponse depth text).Brings depth text where
  status := rfl
  bytes := rfl
  reads := by
    show (Json.read depth (decodeLossy (encode text))).mapError _ = _
    rw [decodeLossy_encode]

/-- What is made of a success. -/
theorem attempt_lookup_of_brings {surroundings : Surroundings} {scene : Scene} {client : Client}
    {base : LooseText} {response : Response} (tag : Value) (typed : client.apiBase = .text base)
    (replied : surroundings.script[scene.sent]? = some (.ok response))
    (brings : response.Brings depth text) :
    surroundings.attempt (client.lookup tag) scene
      = surroundings.attempt (answered tag response) { scene with sent := scene.sent + 1 } := by
  have address : ∃ url, releaseUrl tag client.apiBase client.repository = .ok url := by
    rw [typed]
    exact ⟨_, rfl⟩
  obtain ⟨url, address⟩ := address
  have accepted : ¬ response.isRefusal = true := by
    rw [Response.isRefusal_iff, brings.status]
    decide
  rw [attempt_lookup address, replied, Option.getD_some, receive, if_neg accepted]

theorem Gives.someLookup_eq (gives : Gives depth text one) : someLookup depth text = one :=
  gives _ _ _ _ _ (someResponse depth text) rfl rfl (brings_someResponse depth text)

/-- Only one thing comes of a text. -/
theorem Gives.unique (first : Gives depth text one) (second : Gives depth text other) :
    one = other :=
  first.someLookup_eq.symm.trans second.someLookup_eq

/-- A text that cannot be read gives no release. -/
theorem not_gives_of_error {fault : Json.Fault} (failed : Json.read depth text = .error fault) :
    ¬ ∃ release, Gives depth text (.ok release) := by
  rintro ⟨release, gives⟩
  have found := gives.someLookup_eq
  have brings := brings_someResponse depth text
  rw [someLookup, attempt_lookup_of_brings _ rfl rfl brings] at found
  obtain ⟨members, data, _⟩ := exists_attempt_answered_iff.mp ⟨release, found⟩
  rw [brings.data, failed] at data
  cases data

/-- **A text that says a description** gives the release that it describes, unless it is beyond the
limits. -/
theorem gives_of_said (said : Json.Says text.toList (.record members))
    (within : Json.IsWithin depth text) (describes : Describes members outline) :
    Gives depth text
      (.ok (outline.release (timeOf (Value.memberOrNull "published_at" members)))) := by
  have read : Json.read depth text = .ok (.record members) := by
    rcases Json.readWithin_of_said said (.usual depth) with read | ⟨fault, failed, limit⟩
    · exact read
    · exact absurd limit (within fault failed)
  intro surroundings scene client tag base response typed replied brings
  have described : describedBy response
      = .ok (outline.release (timeOf (Value.memberOrNull "published_at" members))) := by
    rw [describedBy, brings.data, read]
    exact ofValue_of_describes describes
  rw [attempt_lookup_of_brings tag typed replied brings, attempt_answered, described]

/-- **The text of a description** gives the release as it comes back. -/
theorem gives_body (describes : Describes members outline)
    (hasLine : (Value.record members).HasLine) (few : (Value.record members).depth ≤ depth) :
    Gives depth (body members) (.ok (outline.joined.release (publishedIn members))) := by
  obtain ⟨others, each⟩ := Json.exists_membersReturn members hasLine
  have read : Json.read depth (body members) = .ok (.record (Json.setMembers [] others)) :=
    Json.readWithin_laid (Json.returns_record each) (Json.Limits.suit_usual few)
      String.toList_ofList
  rw [← timeOf_returned describes.distinct hasLine each]
  exact gives_of_said (Json.says_of_readWithin read) (Json.isWithin_of_read read)
    (describes.returned hasLine each)

end Bodies

/-! ### Descriptions and releases -/

/-- A description with other members at both levels, among them a name that is escaped. -/
def ampleMembers : List (LooseText × Value) :=
  [("draft", .bool false),
    ("assets", .list [.record [("size", .int (-7)), ("browser_download_url", .text "https://h/t"),
      ("uploader", .record [("name", .text "u"), ("id", .null)]), ("name", .text "t\"\n")]]),
    ("tags", .list [.null, .text "é", .list []]), ("id", .int 7), ("name", .null)]

/-- What it describes. -/
def ampleOutline : Outline :=
  ⟨none, some 7, [("t\"\n", "https://h/t")]⟩

theorem describes_ample : Describes ampleMembers ampleOutline where
  distinct := by decide
  name := by simp [ampleMembers, ampleOutline]
  number := by simp [ampleMembers, ampleOutline]
  assets := by
    refine ⟨[_], .tail _ List.mem_cons_self, .cons ?_ .nil⟩
    exact ⟨by decide, by simp, by simp⟩

/-- A description of the same with nothing else, in another order. -/
def sparseMembers : List (LooseText × Value) :=
  [("name", .null), ("id", .int 7),
    ("assets", .list [.record [("name", .text "t\"\n"),
      ("browser_download_url", .text "https://h/t")]])]

theorem describes_sparse : Describes sparseMembers ampleOutline where
  distinct := by decide
  name := .head _
  number := .tail _ (.head _)
  assets := ⟨[_], .tail _ (.tail _ (.head _)), .cons ⟨by decide, .head _, .tail _ (.head _)⟩ .nil⟩

/-- The text of a record in several lines. -/
def pages (members : List (LooseText × Value)) : String :=
  Json.writtenText (Json.writes 0 "" (.record members))

theorem read_pages {depth : Nat} {members : List (LooseText × Value)}
    (stable : (Value.record members).IsStable) (few : (Value.record members).depth ≤ depth) :
    Json.read depth (pages members) = .ok (.record members) :=
  Json.readWithin_writtenText stable (Json.Limits.suit_usual few)

theorem stable_ample : (Value.record ampleMembers).IsStable := by
  simp [Value.IsStable, Value.AreStableMembers, Value.AreStable, ampleMembers,
    LooseText.isReduced_ofString, LooseText.ofString_inj,
    show digitCount 7 ≤ digitLimit by decide, show digitCount (-7) ≤ digitLimit by decide]

theorem stable_sparse : (Value.record sparseMembers).IsStable := by
  simp [Value.IsStable, Value.AreStableMembers, Value.AreStable, sparseMembers,
    LooseText.isReduced_ofString, LooseText.ofString_inj,
    show digitCount 7 ≤ digitLimit by decide]

/-- **Descriptions and releases.** The text of a description gives a release with the name, the
number and the assets that are described, in this order, whatever else the records have: members of
other names, at any place. Only two halves in a row that make a pair come back as one character.
Two bodies that describe a release alike and have the same time of publication give the same
release, whatever else they have and however it is spelled. Both hold within the limits of the
reader, however deep it goes. -/
theorem description_roundTrip :
    (∀ depth members outline, Describes members outline → (Value.record members).HasLine →
        (Value.record members).depth ≤ depth →
        Gives depth (body members) (.ok (outline.joined.release (publishedIn members)))
          ∧ (outline.IsReduced → outline.joined = outline))
      ∧ ∀ depth (first second : String) (members others : List (LooseText × Value)) outline,
          Json.Says first.toList (.record members) → Json.Says second.toList (.record others) →
          Describes members outline → Describes others outline →
          Value.memberOrNull "published_at" members = Value.memberOrNull "published_at" others →
          Json.IsWithin depth first → Json.IsWithin depth second →
          ∃ published, Gives depth first (.ok (outline.release published))
            ∧ Gives depth second (.ok (outline.release published)) := by
  refine ⟨fun depth members outline describes hasLine few =>
    ⟨gives_body describes hasLine few, Outline.joined_of_reduced⟩, ?_⟩
  intro depth first second members others outline said told describes alike same within inside
  refine ⟨_, gives_of_said said within describes, ?_⟩
  rw [same]
  exact gives_of_said told inside alike

/-- Lookups that meet the ample description in one line, and both descriptions in several lines;
four lists and records inside each other are enough. -/
theorem lookup_ample :
    Describes ampleMembers ampleOutline ∧ Describes sparseMembers ampleOutline
      ∧ someLookup 4 (body ampleMembers) = .ok (ampleOutline.release none)
      ∧ ∃ published, someLookup 4 (pages ampleMembers) = .ok (ampleOutline.release published)
        ∧ someLookup 4 (pages sparseMembers) = .ok (ampleOutline.release published) := by
  have hasLine : (Value.record ampleMembers).HasLine := by
    simp [Value.HasLine, Value.MembersHaveLines, Value.HaveLines, ampleMembers,
      show digitCount 7 ≤ digitLimit by decide, show digitCount (-7) ≤ digitLimit by decide]
  have few : (Value.record ampleMembers).depth ≤ 4 := by decide
  have reduced : ampleOutline.IsReduced := by
    constructor
    · simp [ampleOutline]
    · simp [ampleOutline, LooseText.isReduced_ofString]
  have ample := read_pages stable_ample few
  have sparse : Json.read 4 (pages sparseMembers) = .ok (.record sparseMembers) :=
    read_pages stable_sparse (by decide)
  obtain ⟨gives, same⟩ := description_roundTrip.1 _ _ _ describes_ample hasLine few
  rw [same reduced] at gives
  obtain ⟨published, first, second⟩ := description_roundTrip.2 _ _ _ _ _ _
    (Json.says_of_readWithin ample) (Json.says_of_readWithin sparse) describes_ample
    describes_sparse rfl (Json.isWithin_of_read ample) (Json.isWithin_of_read sparse)
  exact ⟨describes_ample, describes_sparse, gives.someLookup_eq, published, first.someLookup_eq,
    second.someLookup_eq⟩

/-! ### Descriptions that do not come back -/

/-- The members of a description without assets. -/
def plainMembers : List (LooseText × Value) :=
  [("name", .text "v1"), ("id", .int 1), ("assets", .list [])]

/-- What they describe. -/
def plainOutline : Outline :=
  ⟨some "v1", some 1, []⟩

section Plain

variable {name : LooseText} {value : Value} {stop : Json.Stop}

theorem describes_plain : Describes plainMembers plainOutline where
  distinct := by decide
  name := .head _
  number := .tail _ (.head _)
  assets := ⟨[], .tail _ (.tail _ (.head _)), .nil⟩

/-- With a member of another name they describe the same. -/
theorem describes_plain_cons (new : name ∉ plainMembers.map Prod.fst) (value : Value) :
    Describes ((name, value) :: plainMembers) plainOutline where
  distinct := List.nodup_cons.mpr ⟨new, describes_plain.distinct⟩
  name := .tail _ describes_plain.name
  number := .tail _ describes_plain.number
  assets := by
    obtain ⟨items, inside, each⟩ := describes_plain.assets
    exact ⟨items, .tail _ inside, each⟩

theorem hasLine_plain : (Value.record plainMembers).HasLine := by
  simp [Value.HasLine, Value.MembersHaveLines, Value.HaveLines, plainMembers,
    show digitCount 1 ≤ digitLimit by decide]

/-- A first member whose value is beyond the limits keeps a lookup from giving a release. -/
theorem not_gives_of_refuses {depth : Nat}
    (refuses : Json.Refuses .line ⟨some digitLimit, some depth⟩ value stop)
    (starts : Json.Starts .line value) :
    ¬ ∃ release, Gives (depth + 1) (body ((name, value) :: plainMembers)) (.ok release) := by
  have stopped : Json.Refuses .line (.usual (depth + 1)) (.record ((name, value) :: plainMembers))
      stop := refuses.record rfl starts name plainMembers
  exact not_gives_of_error (stopped.readWithin (Json.starts_record _) String.toList_ofList)

end Plain

/-- The plain members and the time of publication. -/
def datedMembers : List (LooseText × Value) :=
  ("published_at", .text "2021-03-15T10:30:00Z") :: plainMembers

/-- The plain members and lists that are nested so deep. -/
def deepMembers (depth : Nat) : List (LooseText × Value) :=
  ("note", Json.nested depth) :: plainMembers

/-- The plain members and a number of one digit more than the reader takes. -/
def longMembers : List (LooseText × Value) :=
  ("note", .int (.ofNat (Nat.pow 10 digitLimit))) :: plainMembers

/-- A name of the two halves of one character. -/
def halvesOutline : Outline :=
  ⟨some ⟨[.half 0x3D, .half 0x600]⟩, none, []⟩

/-- What describes a release of this name. -/
def halvesMembers : List (LooseText × Value) :=
  [("name", .text ⟨[.half 0x3D, .half 0x600]⟩), ("id", .null), ("assets", .list [])]

/-- **What is not promised.** The time of publication tells releases apart, although the
descriptions agree otherwise; values that are nested too deep, however deep the reader goes, or
numbers that are too long keep a description from giving a release, although its name, number and
assets do not depend on them; and a name that two halves in a row make does not come back as it
is. -/
theorem descriptions_do_not_come_back :
    (Describes plainMembers plainOutline ∧ Describes datedMembers plainOutline
        ∧ ¬ ∃ release, Gives Json.Depths.usual.read (body plainMembers) (.ok release)
          ∧ Gives Json.Depths.usual.read (body datedMembers) (.ok release))
      ∧ (∀ depth, Describes (deepMembers depth) plainOutline
        ∧ (Value.record (deepMembers depth)).HasLine
        ∧ ¬ ∃ release, Gives (depth + 1) (body (deepMembers depth)) (.ok release))
      ∧ (Describes longMembers plainOutline
        ∧ ¬ ∃ release, Gives Json.Depths.usual.read (body longMembers) (.ok release))
      ∧ Describes halvesMembers halvesOutline ∧ (Value.record halvesMembers).HasLine
        ∧ ¬ ∃ published, Gives Json.Depths.usual.read (body halvesMembers)
          (.ok (halvesOutline.release published)) := by
  have describesDated : Describes datedMembers plainOutline := describes_plain_cons (by decide) _
  have describesHalves : Describes halvesMembers halvesOutline :=
    ⟨by decide, .head _, .tail _ (.head _), [], .tail _ (.tail _ (.head _)), .nil⟩
  have hasLineHalves : (Value.record halvesMembers).HasLine := ⟨trivial, trivial, trivial, trivial⟩
  refine ⟨⟨describes_plain, describesDated, ?_⟩,
    fun depth => ⟨describes_plain_cons (by decide) _, ⟨Json.hasLine_nested depth, hasLine_plain⟩,
      not_gives_of_refuses (Json.refuses_nested _ le_rfl) (Json.starts_nested _)⟩,
    ⟨describes_plain_cons (by decide) _, ?_⟩, describesHalves, hasLineHalves, ?_⟩
  · rintro ⟨release, first, second⟩
    have plain : Gives Json.Depths.usual.read (body plainMembers) _ :=
      gives_body describes_plain hasLine_plain (by decide)
    have dated : Gives Json.Depths.usual.read (body datedMembers) _ :=
      gives_body describesDated ⟨trivial, hasLine_plain⟩ (by decide)
    have same := Except.ok.inj ((plain.unique first).trans (second.unique dated))
    have none_at : publishedIn plainMembers = none := rfl
    have some_at : (publishedIn datedMembers).isSome = true := by decide +kernel
    have times : publishedIn plainMembers = publishedIn datedMembers :=
      congrArg Release.published same
    rw [← times, none_at] at some_at
    cases some_at
  · refine not_gives_of_refuses (Json.refuses_int ?_) (Json.starts_int _)
    rw [Json.digitCount_ten_pow]
    exact Nat.lt_succ_self _
  · rintro ⟨published, gives⟩
    have same := Except.ok.inj (gives.unique (gives_body describesHalves hasLineHalves (by decide)))
    have names := congrArg Release.name same
    exact absurd (Value.text.inj names) (by decide)

end Lookup

end AssetFetch
