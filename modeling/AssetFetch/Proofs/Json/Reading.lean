/-
**What the reader gives.**

* `Value.IsSound`: no text in a value has halves in a row that a reader would put together, and no
  record has two members of one name;
* `ReadsSound`, `readsSound`: with any fuel, values, items and members that are read are sound, one
  step of each reader after the other;
* `isReduced_readString`, `sound_readWithin`: **whatever is read is sound**;
* `Value.IsJson`: what some text says, and `IsJson.isSound`;
* `Value.IsFloatless`: no floating point number in a value;
* `stable_of_complete`: **a sound value without floating point numbers that can be written
  completely** is read back as it is.
-/

import AssetFetch.Proofs.Json.RoundTrip

namespace AssetFetch

open AssetFetch.Text

/-! ### Values that a reader can give -/

namespace Value

mutual

/-- Whether all texts are reduced, and all members of a record have different names. -/
def IsSound : Value → Prop
  | .text characters => characters.IsReduced
  | .list items => AreSound items
  | .record members => AreSoundMembers members
  | _ => True

/-- The same of all items. -/
def AreSound : List Value → Prop
  | [] => True
  | item :: items => item.IsSound ∧ AreSound items

/-- The same of all members, each of which has another name. -/
def AreSoundMembers : List (LooseText × Value) → Prop
  | [] => True
  | (name, value) :: members =>
    name.IsReduced ∧ name ∉ members.map Prod.fst ∧ value.IsSound ∧ AreSoundMembers members

end

mutual

/-- Whether there is no floating point number in a value. -/
def IsFloatless : Value → Prop
  | .float _ => False
  | .list items => AreFloatless items
  | .record members => AreFloatlessMembers members
  | _ => True

/-- The same of all items. -/
def AreFloatless : List Value → Prop
  | [] => True
  | item :: items => item.IsFloatless ∧ AreFloatless items

/-- The same of all members. -/
def AreFloatlessMembers : List (LooseText × Value) → Prop
  | [] => True
  | (_, value) :: members => value.IsFloatless ∧ AreFloatlessMembers members

end

theorem areSound_iff {items : List Value} : AreSound items ↔ ∀ item ∈ items, item.IsSound := by
  induction items with
  | nil => simp [AreSound]
  | cons item items ih => simp [AreSound, ih]

/-- The names after one member has been set. -/
theorem mem_names_setMember {name other : LooseText} {value : Value}
    {members : List (LooseText × Value)} :
    other ∈ (setMember name value members).map Prod.fst
      ↔ other = name ∨ other ∈ members.map Prod.fst := by
  induction members with
  | nil => simp [setMember]
  | cons first rest ih =>
    obtain ⟨key, old⟩ := first
    rw [setMember]
    by_cases same : key = name
    · subst same
      simp
    · have apart : (key == name) = false := beq_eq_false_iff_ne.mpr same
      rw [apart, if_neg Bool.false_ne_true, List.map_cons, List.map_cons, List.mem_cons,
        List.mem_cons, ih]
      exact or_left_comm

/-- **A member that is set leaves a record sound.** -/
theorem AreSoundMembers.setMember {name : LooseText} {value : Value}
    {members : List (LooseText × Value)} (reduced : name.IsReduced) (sound : value.IsSound)
    (others : AreSoundMembers members) : AreSoundMembers (setMember name value members) := by
  induction members with
  | nil => exact ⟨reduced, List.not_mem_nil, sound, trivial⟩
  | cons first rest ih =>
    obtain ⟨key, old⟩ := first
    obtain ⟨keyReduced, new, oldSound, restSound⟩ := others
    rw [Value.setMember]
    by_cases same : key = name
    · subst same
      rw [beq_self_eq_true, if_pos rfl]
      exact ⟨keyReduced, new, sound, restSound⟩
    · have apart : (key == name) = false := beq_eq_false_iff_ne.mpr same
      rw [apart, if_neg Bool.false_ne_true]
      refine ⟨keyReduced, fun member => ?_, oldSound, ih restSound⟩
      rcases mem_names_setMember.mp member with equal | member
      · exact same equal
      · exact new member

/-- What is a member of a record is among the members. -/
theorem mem_of_member? {name : LooseText} {value : Value} {members : List (LooseText × Value)}
    (found : member? name members = some value) : (name, value) ∈ members := by
  obtain ⟨before, after, rfl, _⟩ := List.lookup_eq_some_iff.mp found
  exact List.mem_append_right before List.mem_cons_self

/-- The members of a sound record, one by one. -/
theorem sound_of_mem {members : List (LooseText × Value)} (sound : AreSoundMembers members) :
    ∀ member ∈ members, member.2.IsSound := by
  induction members with
  | nil => exact fun _ member => (List.not_mem_nil member).elim
  | cons first rest ih => exact List.forall_mem_cons.mpr ⟨sound.2.2.1, ih sound.2.2.2⟩

theorem floatless_of_mem {members : List (LooseText × Value)}
    (floatless : AreFloatlessMembers members) : ∀ member ∈ members, member.2.IsFloatless := by
  induction members with
  | nil => exact fun _ member => (List.not_mem_nil member).elim
  | cons first rest ih => exact List.forall_mem_cons.mpr ⟨floatless.1, ih floatless.2⟩

theorem stable_of_mem {members : List (LooseText × Value)} (stable : AreStableMembers members) :
    ∀ member ∈ members, member.2.IsStable := by
  induction members with
  | nil => exact fun _ member => (List.not_mem_nil member).elim
  | cons first rest ih => exact List.forall_mem_cons.mpr ⟨stable.2.2.1, ih stable.2.2.2⟩

end Value

namespace Json

/-! ### Strings -/

section Strings

theorem isHighUnit_of_isHigh {unit : Nat} (high : (ofUnit unit).isHigh = true) :
    isHighUnit unit = true := by
  unfold ofUnit at high
  split at high
  · rename_i within
    have same : firstHalf + (unit - firstHalf) = unit := Nat.add_sub_cancel' within.1
    simpa only [LooseChar.isHigh, LooseChar.point, same] using high
  · cases high

theorem isLowUnit_of_isLow {unit : Nat} (low : (ofUnit unit).isLow = true) :
    isLowUnit unit = true := by
  unfold ofUnit at low
  split at low
  · rename_i within
    have same : firstHalf + (unit - firstHalf) = unit := Nat.add_sub_cancel' within.1
    simpa only [LooseChar.isLow, LooseChar.point, same] using low
  · cases low

/-- What has been read so far, last first, has no pairs of halves. -/
def NoPairs (taken : List LooseChar) : Prop :=
  taken.IsChain fun second first => (first.isHigh && second.isLow) = false

/-- A first half that was read last is not put together with what follows. -/
def Alone (taken : List LooseChar) (characters : List Char) : Prop :=
  ∀ half ∈ taken.head?, half.isHigh = true →
    ∀ next rest, characters = next :: rest → partner next rest = .absent

theorem NoPairs.cons {taken : List LooseChar} {second : LooseChar} (pairs : NoPairs taken)
    (apart : ∀ first ∈ taken.head?, first.isHigh = true → second.isLow = false) :
    NoPairs (second :: taken) := by
  cases taken with
  | nil => exact .singleton _
  | cons first rest =>
    refine .cons_cons ?_ pairs
    cases high : first.isHigh with
    | false => rfl
    | true =>
      rw [apart first rfl high]
      rfl

/-- A character is neither half. -/
theorem NoPairs.char {taken : List LooseChar} (pairs : NoPairs taken) (character : Char) :
    NoPairs (.char character :: taken) :=
  pairs.cons fun _ _ _ => rfl

theorem alone_char (taken : List LooseChar) (character : Char) (characters : List Char) :
    Alone (.char character :: taken) characters := by
  rintro half ⟨⟩ high
  cases high

/-- **A string that is read has no pairs of halves.** -/
theorem isReduced_readString {opening characters rest : List Char} {taken : List LooseChar}
    {text : LooseText} (read : readString opening taken characters = .ok (text, rest))
    (pairs : NoPairs taken) (alone : Alone taken characters) : text.IsReduced := by
  fun_induction readString opening taken characters
  case case2 =>
    cases read
    exact List.isChain_reverse.mpr pairs
  case case4 first second third fourth next rest unit decoded absent ih =>
    refine ih read (pairs.cons fun half there high => ?_) ?_
    · have none := alone half there high _ _ rfl
      simp only [partner, decoded] at none
      by_contra isLow
      rw [if_pos (isLowUnit_of_isLow (by simpa using isLow))] at none
      cases none
    · rintro half ⟨⟩ high _ _ ⟨⟩
      rwa [dif_pos (isHighUnit_of_isHigh high)] at absent
  case case6 ih => exact ih read (pairs.char _) (alone_char _ _ _)
  case case9 ih => exact ih read (pairs.char _) (alone_char _ _ _)
  case case12 ih => exact ih read (pairs.char _) (alone_char _ _ _)
  all_goals cases read

end Strings

/-! ### Values -/

section Values

variable {limits : Limits} {characters rest : List Char}

theorem sound_scalar {limit : Option Nat} {value : Value}
    (read : readScalar limit characters = .ok (value, rest)) : value.IsSound := by
  unfold readScalar at read
  split at read
  · rename_i reading found
    cases read
    obtain ⟨word, member, found⟩ := List.exists_of_findSome?_eq_some found
    obtain ⟨_, _, same⟩ := Option.map_eq_some_iff.mp found
    cases same
    have sound : ∀ word ∈ words, word.2.IsSound := by
      unfold words
      simp [Value.IsSound]
    exact sound word member
  · unfold readNumber at read
    split at read
    · cases read
    · rename_i parts _ _
      cases number : parts.value limit with
      | error fault =>
        rw [number] at read
        cases read
      | ok found =>
        rw [number] at read
        cases read
        unfold NumberParts.value at number
        split at number
        · split at number
          · cases number
          · cases number
            trivial
        · cases number
          trivial

theorem isReduced_of_readName {name : LooseText}
    (read : readName characters = .ok (name, rest)) : name.IsReduced := by
  unfold readName at read
  split at read
  · split at read
    · cases read
    · rename_i found
      split at read
      · cases read
        exact isReduced_readString found .nil nofun
      · cases read
  · cases read

/-- With this much fuel, values, items and members that are read are sound, if what has been taken
before is. -/
structure ReadsSound (fuel : Nat) : Prop where
  value : ∀ {limits characters value rest},
    readValue limits fuel characters = .ok (value, rest) → value.IsSound
  items : ∀ {limits taken characters value rest}, Value.AreSound taken →
    readItems limits fuel taken characters = .ok (value, rest) → value.IsSound
  members : ∀ {limits taken characters value rest}, Value.AreSoundMembers taken →
    readMembers limits fuel taken characters = .ok (value, rest) → value.IsSound

namespace ReadsSound

variable {fuel : Nat} {value : Value}

theorem step_value (sound : ReadsSound fuel)
    (read : readValue limits (fuel + 1) characters = .ok (value, rest)) : value.IsSound := by
  unfold readValue at read
  split at read
  · rename_i behind
    cases found : readString ('"' :: behind) [] behind with
    | error fault =>
      rw [found] at read
      cases read
    | ok reading =>
      rw [found] at read
      cases read
      exact isReduced_readString found .nil nofun
  · split at read
    · cases read
    · split at read
      · cases read
        trivial
      · have none : Value.AreSound [] := trivial
        exact sound.items none read
  · split at read
    · cases read
    · split at read
      · cases read
        trivial
      · have none : Value.AreSoundMembers [] := trivial
        exact sound.members none read
  · exact sound_scalar read

theorem step_items (sound : ReadsSound fuel) {taken : List Value} (before : Value.AreSound taken)
    (read : readItems limits (fuel + 1) taken characters = .ok (value, rest)) : value.IsSound := by
  unfold readItems at read
  split at read
  · cases read
  · rename_i item afterItem found
    have more : Value.AreSound (item :: taken) := ⟨sound.value found, before⟩
    split at read
    · cases read
      exact Value.areSound_iff.mpr fun other member =>
        Value.areSound_iff.mp more other (List.mem_reverse.mp member)
    · exact sound.items more read
    · cases read

theorem step_members (sound : ReadsSound fuel) {taken : List (LooseText × Value)}
    (before : Value.AreSoundMembers taken)
    (read : readMembers limits (fuel + 1) taken characters = .ok (value, rest)) :
    value.IsSound := by
  unfold readMembers at read
  split at read
  · cases read
  · rename_i name afterName named
    split at read
    · cases read
    · rename_i member afterValue found
      have more := before.setMember (isReduced_of_readName named) (sound.value found)
      split at read
      · cases read
        exact more
      · exact sound.members more read
      · cases read

end ReadsSound

/-- **Values, items and members that are read are sound.** By induction on the fuel, which all three
readers share. -/
theorem readsSound (fuel : Nat) : ReadsSound fuel := by
  induction fuel with
  | zero => exact ⟨nofun, fun _ => nofun, fun _ => nofun⟩
  | succ fuel ih => exact ⟨ih.step_value, ih.step_items, ih.step_members⟩

/-- **Whatever is read is sound.** -/
theorem sound_readWithin {text : String} {value : Value}
    (read : readWithin limits text = .ok value) : value.IsSound := by
  have whole : readWhole limits text.toList = .ok value := by
    simp only [readWithin] at read
    split at read
    · cases read
    · cases found : readWhole limits text.toList with
      | error fault =>
        rw [found] at read
        cases read
      | ok other =>
        rw [found] at read
        cases read
        rfl
  unfold readWhole at whole
  split at whole
  · cases whole
  · rename_i found
    split at whole
    · cases whole
      exact (readsSound _).value found
    · cases whole

end Values

/-! ### Values that can be written completely -/

theorem isComplete_append {pieces more : List Write} :
    isComplete (pieces ++ more) = true ↔ isComplete pieces = true ∧ isComplete more = true := by
  simp [isComplete, List.all_append]

theorem isComplete_cons {piece : Write} {pieces : List Write} :
    isComplete (piece :: pieces) = true
      ↔ piece.text?.isSome = true ∧ isComplete pieces = true := by
  simp [isComplete]

mutual

/-- **A sound value without floating point numbers that can be written completely is stable.** -/
theorem stable_of_complete (level : Nat) (lead : String) : ∀ value : Value, value.IsSound →
    value.IsFloatless → isComplete (writes level lead value) = true → value.IsStable
  | .null, _, _, _ | .bool _, _, _, _ => trivial
  | .int value, _, _, complete => by
    have written := (isComplete_cons.mp complete).1
    by_contra long
    have none : Write.text? (.number lead value) = none := if_neg long
    rw [none] at written
    cases written
  | .float _, _, floatless, _ => floatless.elim
  | .text _, sound, _, _ => sound
  | .list [], _, _, _ | .record [], _, _, _ => trivial
  | .list (item :: items), sound, floatless, complete => by
    rw [writes] at complete
    have inner := (isComplete_append.mp (isComplete_cons.mp complete).2).1
    obtain ⟨first, others⟩ := isComplete_append.mp inner
    exact ⟨stable_of_complete _ _ item sound.1 floatless.1 first,
      stable_items_of_complete _ items sound.2 floatless.2 others⟩
  | .record ((name, value) :: members), sound, floatless, complete => by
    rw [writes] at complete
    have inner := (isComplete_append.mp (isComplete_cons.mp complete).2).1
    obtain ⟨first, others⟩ := isComplete_append.mp inner
    exact ⟨sound.1, sound.2.1, stable_of_complete _ _ value sound.2.2.1 floatless.1 first,
      stable_members_of_complete _ members sound.2.2.2 floatless.2 others⟩

/-- The same of items after the first. -/
theorem stable_items_of_complete (level : Nat) : ∀ items : List Value, Value.AreSound items →
    Value.AreFloatless items → isComplete (writesOfItems level items) = true →
    Value.AreStable items
  | [], _, _, _ => trivial
  | item :: items, sound, floatless, complete => by
    rw [writesOfItems] at complete
    obtain ⟨first, others⟩ := isComplete_append.mp complete
    exact ⟨stable_of_complete _ _ item sound.1 floatless.1 first,
      stable_items_of_complete _ items sound.2 floatless.2 others⟩

/-- The same of members after the first. -/
theorem stable_members_of_complete (level : Nat) : ∀ members : List (LooseText × Value),
    Value.AreSoundMembers members → Value.AreFloatlessMembers members →
    isComplete (writesOfMembers level members) = true → Value.AreStableMembers members
  | [], _, _, _ => trivial
  | (name, value) :: members, sound, floatless, complete => by
    rw [writesOfMembers] at complete
    obtain ⟨first, others⟩ := isComplete_append.mp (isComplete_cons.mp complete).2
    exact ⟨sound.1, sound.2.1, stable_of_complete _ _ value sound.2.2.1 floatless.1 first,
      stable_members_of_complete _ members sound.2.2.2 floatless.2 others⟩

end

end Json

namespace Value

/-- What some text says. -/
def IsJson (value : Value) : Prop :=
  ∃ text, Json.readWithin .unlimited text = .ok value

theorem IsJson.isSound {value : Value} (json : value.IsJson) : value.IsSound := by
  obtain ⟨text, read⟩ := json
  exact Json.sound_readWithin read

/-- What is stable is said by the text that is written of it. -/
theorem IsStable.isJson {value : Value} (stable : value.IsStable) : value.IsJson := by
  have suit : Json.Limits.unlimited.Suit value.depth := ⟨nofun, nofun⟩
  exact ⟨_, Json.readWithin_writtenText stable suit⟩

end Value

end AssetFetch
