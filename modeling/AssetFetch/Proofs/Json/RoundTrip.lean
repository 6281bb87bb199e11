/-
**What has been written is read back.**

* `Value.IsStable`: no floating point number, no number with too many digits, and no two halves in a
  row that a reader would put together;
* `Spacing.indented`: the line breaks of a file, and `gives_writes`: the pieces of a stable value
  can all be written and give the text of the value with these line breaks;
* `returns_of_stable`: **every stable value is read as itself**, whatever blanks there are;
* `readWithin_writtenText`: the text of a stable value is read as the value.
-/

import AssetFetch.Proofs.Json.Spacing

namespace AssetFetch

open AssetFetch.Text

/-! ### Values that stay what they are -/

namespace Value

mutual

/-- Whether a value can be written completely and is no other value when it is read again. -/
def IsStable : Value → Prop
  | .float _ => False
  | .int value => digitCount value ≤ digitLimit
  | .text characters => characters.IsReduced
  | .list items => AreStable items
  | .record members => AreStableMembers members
  | _ => True

/-- The same of all items. -/
def AreStable : List Value → Prop
  | [] => True
  | item :: items => item.IsStable ∧ AreStable items

/-- The same of all members, each of which has another name. -/
def AreStableMembers : List (LooseText × Value) → Prop
  | [] => True
  | (name, value) :: members =>
    name.IsReduced ∧ name ∉ members.map Prod.fst ∧ value.IsStable ∧ AreStableMembers members

end

/-- The names of a stable record are different. -/
theorem distinct_of_stable {members : List (LooseText × Value)}
    (stable : AreStableMembers members) : (members.map Prod.fst).Nodup := by
  induction members with
  | nil => exact .nil
  | cons member members ih => exact List.nodup_cons.mpr ⟨stable.2.1, ih stable.2.2.2⟩

/-- A member of a new name goes to the end. -/
theorem setMember_of_not_mem {name : LooseText} {members : List (LooseText × Value)}
    (new : name ∉ members.map Prod.fst) (value : Value) :
    setMember name value members = members ++ [(name, value)] := by
  induction members with
  | nil => rfl
  | cons first rest ih =>
    obtain ⟨key, old⟩ := first
    rw [List.map_cons, List.mem_cons, not_or] at new
    have apart : (key == name) = false := beq_eq_false_iff_ne.mpr (Ne.symm new.1)
    rw [setMember, apart, if_neg Bool.false_ne_true, ih new.2]
    rfl

end Value

namespace Json

/-! ### What goes out -/

section Writing

theorem blank_lineBreak (level : Nat) : Blank (lineBreak level).toList := by
  intro character member
  simp only [lineBreak, String.toList_ofList, List.mem_cons, List.mem_replicate] at member
  rcases member with rfl | ⟨_, rfl⟩
  · rfl
  · rfl

/-- Each part of a list or a record on a line of its own. -/
def Spacing.indented : Spacing where
  first level := (lineBreak (level + 1)).toList
  next level := (lineBreak (level + 1)).toList
  last level := (lineBreak level).toList
  first_blank level := blank_lineBreak (level + 1)
  next_blank level := blank_lineBreak (level + 1)
  last_blank := blank_lineBreak

/-- All pieces can be written, and together they are these characters. -/
structure Gives (pieces : List Write) (characters : List Char) : Prop where
  complete : isComplete pieces = true
  written : (writtenText pieces).toList = characters

theorem Gives.nil : Gives [] [] := ⟨rfl, rfl⟩

theorem Gives.cons {piece : Write} {spelling : String} {pieces : List Write}
    {characters : List Char} (first : piece.text? = some spelling)
    (rest : Gives pieces characters) :
    Gives (piece :: pieces) (spelling.toList ++ characters) := by
  constructor
  · have later := rest.complete
    simp only [isComplete, List.all_cons, first, Option.isSome_some, Bool.true_and] at later ⊢
    exact later
  · simp only [writtenText, first, String.toList_append, rest.written]

theorem Gives.text (spelling : String) : Gives [.text spelling] spelling.toList := by
  have gives : Gives [.text spelling] (spelling.toList ++ []) := .cons rfl .nil
  rwa [List.append_nil] at gives

theorem Gives.append {pieces more : List Write} {characters others : List Char}
    (first : Gives pieces characters) (second : Gives more others) :
    Gives (pieces ++ more) (characters ++ others) := by
  obtain ⟨complete, rfl⟩ := first
  induction pieces with
  | nil => exact second
  | cons piece rest ih =>
    simp only [isComplete, List.all_cons, Bool.and_eq_true] at complete
    obtain ⟨spelling, text⟩ := Option.isSome_iff_exists.mp complete.1
    have later := Gives.cons text (ih complete.2)
    simp only [writtenText, text, String.toList_append, List.append_assoc]
    exact later

theorem toList_escaped (text : LooseText) :
    (escaped text).toList = escapedChars text.characters := by
  simp [escaped]

mutual

/-- **The pieces of a stable value can all be written**, and give its text behind the lead. -/
theorem gives_writes (level : Nat) (lead : String) : ∀ value : Value, value.IsStable →
    Gives (writes level lead value) (lead.toList ++ laid .indented level value)
  | .null, _ | .bool _, _ => by
    rw [writes, laid, ← String.toList_append]
    exact .text _
  | .int value, stable => by
    have short : digitCount value ≤ digitLimit := stable
    have piece : Write.text? (.number lead value) = some (lead ++ intText value) := if_pos short
    have gives := Gives.cons piece .nil
    rwa [List.append_nil, String.toList_append] at gives
  | .float _, stable => stable.elim
  | .text characters, _ => by
    rw [writes, laid, ← toList_escaped, ← String.toList_append]
    exact .text _
  | .list [], _ => by
    have gives := Gives.text (lead ++ "[]")
    rwa [String.toList_append] at gives
  | .record [], _ => by
    have gives := Gives.text (lead ++ "\x7b\x7d")
    rwa [String.toList_append] at gives
  | .list (item :: items), stable => by
    obtain ⟨first, others⟩ : item.IsStable ∧ Value.AreStable items := stable
    have inside := gives_writes (level + 1) ("[" ++ lineBreak (level + 1)) item first
    have gives := (Gives.text lead).append (inside.append (gives_writesOfItems level items others))
    simp only [String.toList_append, List.append_assoc, List.singleton_append] at gives
    rw [writes, laid, List.append_assoc]
    exact gives
  | .record ((name, value) :: members), stable => by
    obtain ⟨_, _, first, others⟩ :
      name.IsReduced ∧ name ∉ members.map Prod.fst ∧ value.IsStable
        ∧ Value.AreStableMembers members := stable
    have inside := gives_writes (level + 1) "" value first
    have opening := Gives.text (lead ++ "\x7b" ++ lineBreak (level + 1) ++ escaped name ++ ": ")
    have gives := opening.append (inside.append (gives_writesOfMembers level members others))
    simp only [String.toList_append, toList_escaped, List.append_assoc] at gives
    rw [writes, laid, List.append_assoc]
    exact gives

/-- The items after the first, and the end of the list. -/
theorem gives_writesOfItems (level : Nat) : ∀ items : List Value, Value.AreStable items →
    Gives (writesOfItems (level + 1) items ++ [.text (lineBreak level ++ "]")])
      (laidItems .indented level items)
  | [], _ => by
    have gives := Gives.text (lineBreak level ++ "]")
    rwa [String.toList_append] at gives
  | item :: items, stable => by
    have inside := gives_writes (level + 1) ("," ++ lineBreak (level + 1)) item stable.1
    have gives := inside.append (gives_writesOfItems level items stable.2)
    simp only [String.toList_append, List.append_assoc] at gives
    rw [writesOfItems, laidItems, List.append_assoc]
    exact gives

/-- The members after the first, and the end of the record. -/
theorem gives_writesOfMembers (level : Nat) : ∀ members : List (LooseText × Value),
    Value.AreStableMembers members →
    Gives (writesOfMembers (level + 1) members ++ [.text (lineBreak level ++ "\x7d")])
      (laidMembers .indented level members)
  | [], _ => by
    have gives := Gives.text (lineBreak level ++ "\x7d")
    rwa [String.toList_append] at gives
  | (name, value) :: members, stable => by
    obtain ⟨_, _, first, others⟩ := stable
    have inside := gives_writes (level + 1) "" value first
    have gives := (Gives.text ("," ++ lineBreak (level + 1) ++ escaped name ++ ": ")).append
      (inside.append (gives_writesOfMembers level members others))
    simp only [String.toList_append, toList_escaped, List.append_assoc] at gives
    rw [writesOfMembers, laidMembers, List.cons_append, List.append_assoc]
    exact gives

end

end Writing

/-! ### What comes back -/

section Reading

variable {spacing : Spacing}

/-- Members of different names are all kept, in their order. -/
theorem setMembers_of_distinct (taken members : List (LooseText × Value))
    (distinct : ((taken ++ members).map Prod.fst).Nodup) :
    setMembers taken members = taken ++ members := by
  induction members generalizing taken with
  | nil => exact (List.append_nil taken).symm
  | cons member members ih =>
    have new : member.1 ∉ taken.map Prod.fst := by
      rw [List.map_append, List.nodup_append] at distinct
      intro inside
      exact distinct.2.2 member.1 inside member.1 List.mem_cons_self rfl
    have moved : taken ++ member :: members = (taken ++ [member]) ++ members := by
      rw [List.append_assoc, List.singleton_append]
    have step : setMembers taken (member :: members)
        = setMembers (Value.setMember member.1 member.2 taken) members := rfl
    rw [step, Value.setMember_of_not_mem new, moved]
    exact ih (taken ++ [member]) (moved ▸ distinct)

mutual

/-- **Every stable value is read as itself.** -/
theorem returns_of_stable : ∀ value : Value, value.IsStable → Returns spacing value value
  | .null, _ => returns_null
  | .bool flag, _ => returns_bool flag
  | .int _, short => returns_int short
  | .float _, stable => stable.elim
  | .text text, reduced => by
    have returns : Returns spacing (.text text) (.text text.joined) := returns_text text
    rwa [joined_of_reduced reduced] at returns
  | .list items, stable => returns_list (itemsReturn_of_stable items stable)
  | .record members, stable => by
    have returns := returns_record (membersReturn_of_stable members stable)
    rwa [setMembers_of_distinct [] members (Value.distinct_of_stable stable)] at returns

/-- The items of a stable list are read as themselves. -/
theorem itemsReturn_of_stable : ∀ items : List Value, Value.AreStable items →
    List.Forall₂ (Returns spacing) items items
  | [], _ => .nil
  | item :: items, stable =>
    .cons (returns_of_stable item stable.1) (itemsReturn_of_stable items stable.2)

/-- The members of a stable record are read as themselves. -/
theorem membersReturn_of_stable : ∀ members : List (LooseText × Value),
    Value.AreStableMembers members → List.Forall₂ (MemberReturns spacing) members members
  | [], _ => .nil
  | (_, value) :: members, stable =>
    .cons ⟨(joined_of_reduced stable.1).symm, returns_of_stable value stable.2.2.1⟩
      (membersReturn_of_stable members stable.2.2.2)

end

/-- **The text of a stable value is read as the value**, if it is not too deep. -/
theorem readWithin_writtenText {value : Value} (stable : value.IsStable) {limits : Limits}
    (suit : limits.Suit value.depth) :
    readWithin limits (writtenText (writes 0 "" value)) = .ok value :=
  readWithin_laid (returns_of_stable value stable) suit (gives_writes 0 "" value stable).written

end Reading

end Json

end AssetFetch
