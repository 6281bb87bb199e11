/-
**A value in one line is read back.**

Services write a value in one line, with a blank behind each comma and each colon. Whatever the
value is, the reader takes such a text back.

* `joined_eq_ofString_iff`: which names are read as a given one;
* `line`: the text of a value, and `Value.HasLine`: the values that have one;
* `exists_returns`: **every value that has a text is read as some value**, and `Returns.kind_eq`: as
  one of its kind.
-/

import AssetFetch.Proofs.Json.Floats
import AssetFetch.Proofs.Text.Decoding

namespace AssetFetch

open AssetFetch.Text

namespace Json

/-! ### Names as they are joined -/

section Joining

variable {characters : List LooseChar}

/-- The character of a pair lies beyond those that have a unit of their own. -/
theorem pairChar_large {first second : LooseChar} (high : first.isHigh = true)
    (low : second.isLow = true) : 0x10000 ≤ (pairChar first.point second.point).toNat := by
  cases first with
  | char character => cases high
  | half firstOffset =>
    cases second with
    | char character => cases low
    | half secondOffset =>
      have highUnit : isHighUnit (LooseChar.half firstOffset).point = true := high
      have lowUnit : isLowUnit (LooseChar.half secondOffset).point = true := low
      simp only [isHighUnit, isLowUnit, Bool.and_eq_true, decide_eq_true_eq] at highUnit lowUnit
      have point : (pairChar (LooseChar.half firstOffset).point
          (LooseChar.half secondOffset).point).toNat = _ :=
        toNat_ofNat_of_apart (.inr (by omega))
      omega

/-- Putting halves together makes no text of small characters out of another one. -/
theorem joinHalves_eq_map_iff {word : List Char} (small : ∀ character ∈ word,
    character.toNat < 0x10000) :
    joinHalves characters = word.map .char ↔ characters = word.map .char := by
  constructor
  · intro same
    fun_induction joinHalves characters generalizing word with
    | case1 => exact same
    | case2 last => exact same
    | case3 first second rest pair ih =>
      obtain ⟨high, low⟩ := Bool.and_eq_true_iff.mp pair
      cases word with
      | nil => cases same
      | cons character others =>
        have first_eq := LooseChar.char.inj (List.cons.inj same).1
        have large := pairChar_large high low
        have little := small character List.mem_cons_self
        rw [← first_eq] at little
        omega
    | case4 first second rest apart ih =>
      cases word with
      | nil => cases same
      | cons character others =>
        rw [List.map_cons, List.cons.injEq] at same
        rw [same.1, ih (fun other member => small other (.tail _ member)) same.2]
        rfl
  · rintro rfl
    have reduced := LooseText.isReduced_ofString (String.ofList word)
    rw [LooseText.IsReduced, LooseText.ofString, String.toList_ofList] at reduced
    exact joinHalves_of_reduced reduced

/-- Whether no character of a text is one that two halves make. -/
def isSmall (word : String) : Bool :=
  word.toList.all fun character => character.toNat < 0x10000

/-- A text of small characters is what no other text comes back as. -/
theorem joined_eq_ofString_iff {text : LooseText} {word : String} (small : isSmall word = true) :
    text.joined = LooseText.ofString word ↔ text = LooseText.ofString word := by
  obtain ⟨characters⟩ := text
  simp only [LooseText.joined, LooseText.ofString, LooseText.mk.injEq]
  exact joinHalves_eq_map_iff fun character member =>
    of_decide_eq_true (List.all_eq_true.mp small character member)

end Joining

/-! ### Values in one line -/

/-- A blank behind each comma. -/
def Spacing.line : Spacing where
  first _ := []
  next _ := [' ']
  last _ := []
  first_blank _ _ member := (List.not_mem_nil member).elim
  next_blank _ _ member := List.mem_singleton.mp member ▸ rfl
  last_blank _ _ member := (List.not_mem_nil member).elim

/-- The text of a value in one line. -/
def line (value : Value) : List Char :=
  laid .line 0 value

end Json

namespace Value

mutual

/-- Whether a value has a text: no whole number in it has too many digits, and its floating point
numbers are those of the format. -/
def HasLine : Value → Prop
  | .int value => digitCount value ≤ digitLimit
  | .float value => value.InFormat
  | .list items => HaveLines items
  | .record members => MembersHaveLines members
  | _ => True

/-- The same of all items. -/
def HaveLines : List Value → Prop
  | [] => True
  | item :: items => item.HasLine ∧ HaveLines items

/-- The same of all members. -/
def MembersHaveLines : List (LooseText × Value) → Prop
  | [] => True
  | (_, value) :: members => value.HasLine ∧ MembersHaveLines members

end

theorem hasLine_of_mem {member : LooseText × Value} {members : List (LooseText × Value)}
    (lines : MembersHaveLines members) (inside : member ∈ members) : member.2.HasLine := by
  induction members with
  | nil => cases inside
  | cons first rest ih =>
    cases inside with
    | head => exact lines.1
    | tail _ inside => exact ih lines.2 inside

end Value

namespace Json

theorem hasLine_nested (inside : Nat) : (nested inside).HasLine := by
  induction inside with
  | zero => trivial
  | succ inside ih => exact ⟨ih, trivial⟩

section Returning

variable {spacing : Spacing}

theorem exists_returns_float {number : Decimal.Binary64} (inFormat : number.InFormat) :
    ∃ other, Returns spacing (.float number) (.float other) := by
  have starts : StartsScalar (floatText number).toList := by
    obtain ⟨first, others, text, mark | plain⟩ := exists_floatText inFormat
    · simp only [List.mem_cons, List.not_mem_nil, or_false] at mark
      rcases mark with rfl | rfl | rfl <;> exact ⟨_, others, text, by decide⟩
    · rw [text]
      exact startsScalar_of_isPlainDigit plain others
  obtain ⟨other, read⟩ := exists_readScalar_floatText inFormat
  exact ⟨other, returns_of_scalar (fun _ => rfl) starts fun limits rest _ ends =>
    read limits.digits rest ends⟩

mutual

/-- **Every value that has a text is read as some value.** -/
theorem exists_returns : ∀ value : Value, value.HasLine → ∃ other, Returns spacing value other
  | .null, _ => ⟨.null, returns_null⟩
  | .bool flag, _ => ⟨.bool flag, returns_bool flag⟩
  | .int number, short => ⟨.int number, returns_int short⟩
  | .float _, inFormat =>
    have ⟨other, returns⟩ := exists_returns_float inFormat
    ⟨.float other, returns⟩
  | .text text, _ => ⟨.text text.joined, returns_text text⟩
  | .list items, lines =>
    have ⟨others, each⟩ := exists_itemsReturn items lines
    ⟨.list others, returns_list each⟩
  | .record members, lines =>
    have ⟨others, each⟩ := exists_membersReturn members lines
    ⟨.record (setMembers [] others), returns_record each⟩

/-- The items of a list are read one by one. -/
theorem exists_itemsReturn : ∀ items : List Value, Value.HaveLines items →
    ∃ others, List.Forall₂ (Returns spacing) items others
  | [], _ => ⟨[], .nil⟩
  | item :: items, lines =>
    have ⟨other, first⟩ := exists_returns item lines.1
    have ⟨others, later⟩ := exists_itemsReturn items lines.2
    ⟨other :: others, .cons first later⟩

/-- So are the members of a record. -/
theorem exists_membersReturn : ∀ members : List (LooseText × Value),
    Value.MembersHaveLines members → ∃ others, List.Forall₂ (MemberReturns spacing) members others
  | [], _ => ⟨[], .nil⟩
  | (name, value) :: members, lines =>
    have ⟨other, first⟩ := exists_returns value lines.1
    have ⟨others, later⟩ := exists_membersReturn members lines.2
    ⟨(name.joined, other) :: others, .cons ⟨rfl, first⟩ later⟩

end

/-- A value is read as one of its kind. -/
theorem Returns.kind_eq {value other : Value} (back : Returns spacing value other)
    (hasLine : value.HasLine) : other.kind = value.kind := by
  cases value with
  | null =>
    rw [back.unique returns_null]
  | bool flag =>
    rw [back.unique (returns_bool flag)]
  | int number =>
    rw [back.unique (returns_int hasLine)]
  | float number =>
    obtain ⟨found, returns⟩ := exists_returns_float hasLine
    rw [back.unique returns]
    rfl
  | text text =>
    rw [back.unique (returns_text text)]
    rfl
  | list items =>
    obtain ⟨others, each⟩ := exists_itemsReturn items hasLine
    rw [back.unique (returns_list each)]
    rfl
  | record members =>
    obtain ⟨others, each⟩ := exists_membersReturn members hasLine
    rw [back.unique (returns_record each)]
    rfl

end Returning

end Json

end AssetFetch
