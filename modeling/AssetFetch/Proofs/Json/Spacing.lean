/-
**A value is read from its text, however it is laid out.**

The text of a list or a record may have blanks behind its opening bracket, behind each comma and
before its closing bracket. Whatever they are, the reader takes the text back: texts and names as
they are joined, and of the members of one name the last.

* `Limits.Suit`: limits that put up with a depth and with all numbers that can be written;
* `Spacing`, `laid`: such blanks, and the text of a value with them;
* `ReadsAs`, `Returns`: a value is read as another one from its text, whatever follows it; one lemma
  for each kind of value, and `returns_list`, `returns_record`: **a list and a record are, if their
  items and members are**;
* `readWithin_laid`: the same of whole texts;
* `Refuses`: reading a value from its text stops, as it does with too many digits and with lists
  that are nested too deep (`refuses_int`, `refuses_nested`).
-/

import AssetFetch.Proofs.Json.Numbers
import AssetFetch.Proofs.Json.Strings
import Mathlib.Data.List.Forall2

namespace AssetFetch

open AssetFetch.Text

/-! ### Depths -/

namespace Value

theorem depth_le_depthOfItems {item : Value} {items : List Value} (member : item ∈ items) :
    item.depth ≤ depthOfItems items := by
  induction items with
  | nil => cases member
  | cons first rest ih =>
    rw [depthOfItems]
    cases member with
    | head => exact Nat.le_max_left ..
    | tail _ member => exact (ih member).trans (Nat.le_max_right ..)

theorem depth_le_depthOfMembers {member : LooseText × Value} {members : List (LooseText × Value)}
    (inside : member ∈ members) : member.2.depth ≤ depthOfMembers members := by
  induction members with
  | nil => cases inside
  | cons first rest ih =>
    rw [depthOfMembers]
    cases inside with
    | head => exact Nat.le_max_left ..
    | tail _ inside => exact (ih inside).trans (Nat.le_max_right ..)

end Value

namespace Json

section Limits

variable {limits : Limits} {depth : Nat}

/-- The limits put up with every number that can be written, and with a depth. -/
structure Limits.Suit (limits : Limits) (depth : Nat) : Prop where
  digits : ∀ digits ∈ limits.digits, digitLimit ≤ digits
  depth : ∀ bound ∈ limits.depth, depth ≤ bound

theorem Limits.Suit.mono {less : Nat} (suit : limits.Suit depth) (fewer : less ≤ depth) :
    limits.Suit less :=
  ⟨suit.digits, fun bound member => fewer.trans (suit.depth bound member)⟩

/-- Inside a list or a record there is room for what is one less deep. -/
theorem Limits.Suit.inside (suit : limits.Suit (1 + depth)) :
    ∃ inner, limits.inside? = some inner ∧ inner.Suit depth := by
  obtain ⟨digits, bound⟩ := limits
  cases bound with
  | none => exact ⟨_, rfl, suit.digits, nofun⟩
  | some bound =>
    have room : 1 + depth ≤ bound := suit.depth bound rfl
    cases bound with
    | zero => omega
    | succ bound =>
      refine ⟨_, rfl, suit.digits, ?_⟩
      rintro other ⟨⟩
      omega

theorem Limits.suit_usual {deepest : Nat} (few : depth ≤ deepest) :
    (Limits.usual deepest).Suit depth := by
  constructor
  · rintro digits ⟨⟩
    exact le_rfl
  · rintro bound ⟨⟩
    exact few

end Limits

/-! ### Blanks -/

/-- Blanks, any number of them. -/
def Blank (characters : List Char) : Prop :=
  ∀ character ∈ characters, isSpace character = true

section Blanks

variable {blanks : List Char}

theorem skipSpace_of_not_space {first : Char} {rest : List Char} (solid : isSpace first = false) :
    skipSpace (first :: rest) = first :: rest :=
  List.dropWhile_cons_of_neg (by simp [solid])

theorem skipSpace_append (blank : Blank blanks) (rest : List Char) :
    skipSpace (blanks ++ rest) = skipSpace rest :=
  List.dropWhile_append_of_pos blank

theorem skipSpace_append_cons (blank : Blank blanks) {next : Char} (solid : isSpace next = false)
    (rest : List Char) : skipSpace (blanks ++ next :: rest) = next :: rest := by
  rw [skipSpace_append blank, skipSpace_of_not_space solid]

/-- A number ends before a blank. -/
theorem endsNumber_of_isSpace {next : Char} (space : isSpace next = true) (rest : List Char) :
    EndsNumber (next :: rest) := by
  simp only [isSpace, Bool.or_eq_true, beq_iff_eq] at space
  rcases space with ((rfl | rfl) | rfl) | rfl <;> exact .cons (by decide)

/-- A number ends before blanks and before what ends an item. -/
theorem endsNumber_append (blank : Blank blanks) {next : Char}
    (ends : isPlainDigit next = false ∧ next ≠ '.' ∧ next ≠ 'e' ∧ next ≠ 'E') (rest : List Char) :
    EndsNumber (blanks ++ next :: rest) := by
  cases blanks with
  | nil => exact .cons ends
  | cons first others => exact endsNumber_of_isSpace (blank first List.mem_cons_self) _

end Blanks

/-! ### Values with blanks between their parts -/

/-- The blanks of a list or a record at each nesting level: before its first part, between a comma
and the next part, and behind its last part. -/
structure Spacing where
  first : Nat → List Char
  next : Nat → List Char
  last : Nat → List Char
  first_blank : ∀ level, Blank (first level)
  next_blank : ∀ level, Blank (next level)
  last_blank : ∀ level, Blank (last level)

mutual

/-- The text of a value at a nesting level. -/
def laid (spacing : Spacing) (level : Nat) : Value → List Char
  | .null => "null".toList
  | .bool flag => (if flag then "true" else "false").toList
  | .int value => (intText value).toList
  | .float value => (floatText value).toList
  | .text characters => escapedChars characters.characters
  | .list [] => ['[', ']']
  | .list (item :: items) =>
    '[' :: (spacing.first level ++ (laid spacing (level + 1) item ++ laidItems spacing level items))
  | .record [] => ['\x7b', '\x7d']
  | .record ((name, value) :: members) =>
    '\x7b' :: (spacing.first level ++ (escapedChars name.characters
      ++ (':' :: ' ' :: (laid spacing (level + 1) value ++ laidMembers spacing level members))))

/-- The text of the items after the first, and of the end of the list. -/
def laidItems (spacing : Spacing) (level : Nat) : List Value → List Char
  | [] => spacing.last level ++ [']']
  | item :: items =>
    ',' :: (spacing.next level ++ (laid spacing (level + 1) item ++ laidItems spacing level items))

/-- The text of the members after the first, and of the end of the record. -/
def laidMembers (spacing : Spacing) (level : Nat) : List (LooseText × Value) → List Char
  | [] => spacing.last level ++ ['\x7d']
  | (name, value) :: members =>
    ',' :: (spacing.next level ++ (escapedChars name.characters
      ++ (':' :: ' ' :: (laid spacing (level + 1) value ++ laidMembers spacing level members))))

end

/-- What a value starts with. -/
def Opens (first : Char) : Prop :=
  isSpace first = false ∧ first ≠ ']' ∧ first ≠ '\uFEFF'

instance : DecidablePred Opens := fun _ => inferInstanceAs (Decidable (_ ∧ _ ∧ _))

theorem opens_of_isPlainDigit {digit : Char} (plain : isPlainDigit digit = true) : Opens digit := by
  have apart : ∀ other : Char, isPlainDigit other = false → digit ≠ other := by
    rintro other no rfl
    exact absurd plain (by simp [no])
  have solid : isSpace digit = false := by
    simp [isSpace, apart ' ' (by decide), apart '\t' (by decide), apart '\n' (by decide),
      apart '\r' (by decide)]
  exact ⟨solid, apart _ (by decide), apart _ (by decide)⟩

/-- The text of a value starts with no blank and no closing bracket. -/
def Starts (spacing : Spacing) (value : Value) : Prop :=
  ∀ level, ∃ first others, laid spacing level value = first :: others ∧ Opens first

/-- A value is read as another one from its text, whatever follows it. -/
def ReadsAs (spacing : Spacing) (value other : Value) : Prop :=
  ∀ level limits fuel rest, limits.Suit value.depth → (laid spacing level value).length ≤ fuel →
    EndsNumber rest → readValue limits fuel (laid spacing level value ++ rest) = .ok (other, rest)

/-- A value is read as another one, and its text starts with no blank and no closing bracket. -/
structure Returns (spacing : Spacing) (value other : Value) : Prop where
  reads : ReadsAs spacing value other
  starts : Starts spacing value

/-- A member is read as another one: its name as it is joined. -/
structure MemberReturns (spacing : Spacing) (member other : LooseText × Value) : Prop where
  name : other.1 = member.1.joined
  value : Returns spacing member.2 other.2

variable {spacing : Spacing} {value other : Value}

/-- A value is read as one value only. -/
theorem Returns.unique {another : Value} (first : Returns spacing value other)
    (second : Returns spacing value another) : other = another := by
  have suit : Limits.unlimited.Suit value.depth := ⟨nofun, nofun⟩
  have same := (first.reads 0 .unlimited _ [] suit le_rfl .nil).symm.trans
    (second.reads 0 .unlimited _ [] suit le_rfl .nil)
  exact congrArg Prod.fst (Except.ok.inj same)

/-- No blank comes before a value. -/
theorem Starts.solid (starts : Starts spacing value) (level : Nat) (rest : List Char) :
    skipSpace (laid spacing level value ++ rest) = laid spacing level value ++ rest := by
  obtain ⟨first, others, text, opens⟩ := starts level
  rw [text]
  exact skipSpace_of_not_space opens.1

/-! ### Words, numbers and texts -/

section Scalars

/-- A text starts as a word or a number does. -/
def StartsScalar (text : List Char) : Prop :=
  ∃ first others, text = first :: others ∧ Opens first ∧ first ≠ '"' ∧ first ≠ '['
    ∧ first ≠ '\x7b'

theorem startsScalar_word {word : String × Value} (member : word ∈ words) :
    StartsScalar word.1.toList := by
  simp only [words, List.mem_cons, List.not_mem_nil, or_false] at member
  rcases member with rfl | rfl | rfl | rfl | rfl | rfl <;> exact ⟨_, _, rfl, by decide⟩

theorem startsScalar_of_isPlainDigit {digit : Char} (plain : isPlainDigit digit = true)
    (others : List Char) : StartsScalar (digit :: others) := by
  refine ⟨digit, others, rfl, opens_of_isPlainDigit plain, ?_, ?_, ?_⟩ <;>
    (rintro rfl; exact absurd plain (by decide))

theorem startsScalar_intText (number : Int) : StartsScalar (intText number).toList := by
  obtain ⟨first, others, text, rfl | plain⟩ := exists_intText number
  · exact ⟨'-', others, text, by decide⟩
  · rw [text]
    exact startsScalar_of_isPlainDigit plain others

/-- What starts with none of the marks of texts, lists and records is a word or a number. -/
theorem readValue_scalar {first : Char} {others : List Char} (limits : Limits) (fuel : Nat)
    (text : first ≠ '"') (list : first ≠ '[') (record : first ≠ '\x7b') :
    readValue limits (fuel + 1) (first :: others) = readScalar limits.digits (first :: others) := by
  unfold readValue
  split
  · rename_i same
    exact absurd (List.cons.inj same).1 text
  · rename_i same
    exact absurd (List.cons.inj same).1 list
  · rename_i same
    exact absurd (List.cons.inj same).1 record
  · rfl

/-- The text of a word or a number is read as one. -/
theorem StartsScalar.readValue_eq {text : List Char} (starts : StartsScalar text) {fuel : Nat}
    (enough : text.length ≤ fuel) (limits : Limits) (rest : List Char) :
    readValue limits fuel (text ++ rest) = readScalar limits.digits (text ++ rest) := by
  obtain ⟨first, others, rfl, _, quote, bracket, brace⟩ := starts
  cases fuel with
  | zero => cases enough
  | succ fuel => exact readValue_scalar limits fuel quote bracket brace

theorem StartsScalar.starts {text : List Char} (starts : StartsScalar text)
    (same : ∀ level, laid spacing level value = text) : Starts spacing value := by
  obtain ⟨first, others, start, opens, _⟩ := starts
  exact fun level => ⟨first, others, (same level).trans start, opens⟩

theorem starts_int (number : Int) : Starts spacing (.int number) :=
  (startsScalar_intText number).starts fun _ => rfl

/-- **What is read as a word or a number** is read as a value. -/
theorem returns_of_scalar {text : List Char} (same : ∀ level, laid spacing level value = text)
    (starts : StartsScalar text)
    (read : ∀ (limits : Limits) rest, limits.Suit value.depth → EndsNumber rest →
      readScalar limits.digits (text ++ rest) = .ok (other, rest)) :
    Returns spacing value other where
  reads level limits fuel rest suit enough ends := by
    rw [same] at enough ⊢
    rw [starts.readValue_eq enough]
    exact read limits rest suit ends
  starts := starts.starts same

theorem returns_word {word : String × Value} (member : word ∈ words)
    (same : ∀ level, laid spacing level value = word.1.toList) : Returns spacing value word.2 :=
  returns_of_scalar same (startsScalar_word member) fun limits rest _ _ =>
    readScalar_word member limits.digits rest

theorem returns_null : Returns spacing .null .null := by
  have word : ("null", Value.null) ∈ words := List.mem_cons_self
  exact returns_word word fun _ => rfl

theorem returns_bool (flag : Bool) : Returns spacing (.bool flag) (.bool flag) := by
  cases flag with
  | true =>
    have word : ("true", Value.bool true) ∈ words := .tail _ List.mem_cons_self
    exact returns_word word fun _ => rfl
  | false =>
    have word : ("false", Value.bool false) ∈ words := .tail _ (.tail _ List.mem_cons_self)
    exact returns_word word fun _ => rfl

theorem returns_int {number : Int} (short : digitCount number ≤ digitLimit) :
    Returns spacing (.int number) (.int number) :=
  returns_of_scalar (fun _ => rfl) (startsScalar_intText number) fun _ _ suit ends =>
    ends.readScalar_intText fun digits member => short.trans (suit.digits digits member)

/-- **A text is read as it is joined.** -/
theorem returns_text (text : LooseText) : Returns spacing (.text text) (.text text.joined) where
  reads level limits fuel rest _ enough _ := by
    cases fuel with
    | zero => cases enough
    | succ fuel =>
      rw [laid, escapedChars, List.cons_append, List.append_assoc, List.singleton_append,
        readValue, readString_escaped text]
      rfl
  starts _ := ⟨'"', _, rfl, by decide⟩

end Scalars

/-! ### Lists and records -/

/-- The members of a record when some more have been read: of one name the last value counts. -/
def setMembers (taken members : List (LooseText × Value)) : List (LooseText × Value) :=
  members.foldl (fun taken member => Value.setMember member.1 member.2 taken) taken

section Containers

variable {level depth fuel : Nat} {limits : Limits}

theorem starts_list (items : List Value) : Starts spacing (.list items) := by
  intro level
  cases items with
  | nil => exact ⟨'[', _, rfl, by decide⟩
  | cons item items => exact ⟨'[', _, rfl, by decide⟩

theorem starts_record (members : List (LooseText × Value)) : Starts spacing (.record members) := by
  intro level
  cases members with
  | nil => exact ⟨'\x7b', _, rfl, by decide⟩
  | cons member members => exact ⟨'\x7b', _, rfl, by decide⟩

theorem endsNumber_laidItems (spacing : Spacing) (level : Nat) (items : List Value)
    (rest : List Char) : EndsNumber (laidItems spacing level items ++ rest) := by
  cases items with
  | nil =>
    rw [laidItems, List.append_assoc]
    exact endsNumber_append (spacing.last_blank level) (by decide) rest
  | cons item items => exact .cons (by decide)

theorem endsNumber_laidMembers (spacing : Spacing) (level : Nat)
    (members : List (LooseText × Value)) (rest : List Char) :
    EndsNumber (laidMembers spacing level members ++ rest) := by
  cases members with
  | nil =>
    rw [laidMembers, List.append_assoc]
    exact endsNumber_append (spacing.last_blank level) (by decide) rest
  | cons member members => exact .cons (by decide)

/-- **The items of a list are read one after the other**, up to the end of the list. -/
theorem readItems_laid (suit : limits.Suit depth) {item next : Value} {items others : List Value}
    (first : Returns spacing item next) (later : List.Forall₂ (Returns spacing) items others)
    (shallow : ∀ value ∈ item :: items, value.depth ≤ depth)
    (enough : (laid spacing (level + 1) item ++ laidItems spacing level items).length ≤ fuel)
    (taken : List Value) (rest : List Char) :
    readItems limits fuel taken
        (laid spacing (level + 1) item ++ (laidItems spacing level items ++ rest))
      = .ok (.list (taken.reverse ++ next :: others), rest) := by
  induction later generalizing item next fuel taken with
  | nil =>
    rw [List.length_append, laidItems, List.length_append, List.length_singleton] at enough
    cases fuel with
    | zero => omega
    | succ fuel =>
      have read := first.reads (level + 1) limits fuel _
        (suit.mono (shallow item List.mem_cons_self)) (by omega)
        (endsNumber_laidItems spacing level [] rest)
      have close : skipSpace (laidItems spacing level [] ++ rest) = ']' :: rest := by
        rw [laidItems, List.append_assoc]
        exact skipSpace_append_cons (spacing.last_blank level) (by decide) rest
      rw [readItems, read]
      simp only [close, List.reverse_cons]
  | @cons second found items others returns _ ih =>
    rw [List.length_append, laidItems, List.length_cons, List.length_append] at enough
    cases fuel with
    | zero => omega
    | succ fuel =>
      have read := first.reads (level + 1) limits fuel _
        (suit.mono (shallow item List.mem_cons_self)) (by omega)
        (endsNumber_laidItems spacing level (second :: items) rest)
      have comma : skipSpace (laidItems spacing level (second :: items) ++ rest)
          = ',' :: (spacing.next level ++ (laid spacing (level + 1) second
            ++ (laidItems spacing level items ++ rest))) := by
        rw [laidItems, List.cons_append, List.append_assoc, List.append_assoc]
        exact skipSpace_of_not_space (by decide)
      have more := ih returns (fun value member => shallow value (.tail _ member))
        (show _ ≤ fuel by omega) (next :: taken)
      rw [readItems, read]
      simp only [comma, skipSpace_append (spacing.next_blank level), returns.starts.solid, more,
        List.reverse_cons, List.append_assoc, List.singleton_append]

/-- A name is read as it is joined, with the colon and the blank behind it. -/
theorem readName_laid (name : LooseText) {behind : List Char} (solid : skipSpace behind = behind) :
    readName (escapedChars name.characters ++ (':' :: ' ' :: behind))
      = .ok (name.joined, behind) := by
  have colon : skipSpace (':' :: ' ' :: behind) = ':' :: ' ' :: behind :=
    skipSpace_of_not_space (by decide)
  have blank : skipSpace (' ' :: behind) = behind :=
    (List.dropWhile_cons_of_pos (by decide)).trans solid
  rw [escapedChars, List.cons_append, List.append_assoc, List.singleton_append, readName,
    readString_escaped name]
  simp only [colon, blank]

/-- Behind blanks a name begins with its quote. -/
theorem skipSpace_name {blanks : List Char} (blank : Blank blanks) (name : LooseText)
    (behind : List Char) :
    skipSpace (blanks ++ (escapedChars name.characters ++ behind))
      = escapedChars name.characters ++ behind :=
  skipSpace_append_cons blank (by decide) _

/-- **The members of a record are read one after the other**, up to the end of the record. -/
theorem readMembers_laid (suit : limits.Suit depth) {member next : LooseText × Value}
    {members others : List (LooseText × Value)} (first : MemberReturns spacing member next)
    (later : List.Forall₂ (MemberReturns spacing) members others)
    (shallow : ∀ inside ∈ member :: members, inside.2.depth ≤ depth)
    (enough : (laid spacing (level + 1) member.2 ++ laidMembers spacing level members).length
      ≤ fuel) (taken : List (LooseText × Value)) (rest : List Char) :
    readMembers limits fuel taken (escapedChars member.1.characters
        ++ (':' :: ' ' :: (laid spacing (level + 1) member.2
          ++ (laidMembers spacing level members ++ rest))))
      = .ok (.record (setMembers taken (next :: others)), rest) := by
  induction later generalizing member next fuel taken with
  | nil =>
    rw [List.length_append, laidMembers, List.length_append, List.length_singleton] at enough
    cases fuel with
    | zero => omega
    | succ fuel =>
      have read := first.value.reads (level + 1) limits fuel _
        (suit.mono (shallow member List.mem_cons_self)) (by omega)
        (endsNumber_laidMembers spacing level [] rest)
      have close : skipSpace (laidMembers spacing level [] ++ rest) = '\x7d' :: rest := by
        rw [laidMembers, List.append_assoc]
        exact skipSpace_append_cons (spacing.last_blank level) (by decide) rest
      rw [readMembers, readName_laid member.1 (first.value.starts.solid (level + 1) _)]
      simp only [read, close, ← first.name]
      rfl
  | @cons second found members others returns _ ih =>
    obtain ⟨name, value⟩ := second
    rw [List.length_append, laidMembers, List.length_cons, List.length_append, List.length_append,
      List.length_cons, List.length_cons] at enough
    cases fuel with
    | zero => omega
    | succ fuel =>
      have read := first.value.reads (level + 1) limits fuel _
        (suit.mono (shallow member List.mem_cons_self)) (by omega)
        (endsNumber_laidMembers spacing level ((name, value) :: members) rest)
      have comma : skipSpace (laidMembers spacing level ((name, value) :: members) ++ rest)
          = ',' :: (spacing.next level ++ (escapedChars name.characters
            ++ (':' :: ' ' :: (laid spacing (level + 1) value
              ++ (laidMembers spacing level members ++ rest))))) := by
        simp only [laidMembers, List.cons_append, List.append_assoc]
        exact skipSpace_of_not_space (by decide)
      have more := ih returns (fun inside member => shallow inside (.tail _ member))
        (show (laid spacing (level + 1) value ++ laidMembers spacing level members).length ≤ fuel by
          omega) (Value.setMember next.1 next.2 taken)
      rw [readMembers, readName_laid member.1 (first.value.starts.solid (level + 1) _)]
      simp only [read, comma, skipSpace_name (spacing.next_blank level), ← first.name, more]
      rfl

/-- **A list is read as the list of what its items are read as.** -/
theorem returns_list {items others : List Value}
    (each : List.Forall₂ (Returns spacing) items others) :
    Returns spacing (.list items) (.list others) := by
  refine ⟨fun level limits fuel rest suit enough _ => ?_, starts_list items⟩
  obtain ⟨inner, inside, innerSuit⟩ := Limits.Suit.inside suit
  cases each with
  | nil =>
    cases fuel with
    | zero => cases enough
    | succ fuel =>
      have close : skipSpace (']' :: rest) = ']' :: rest := skipSpace_of_not_space (by decide)
      simp only [laid, List.cons_append, List.nil_append, readValue, inside, close]
  | @cons item next items others first later =>
    rw [laid, List.length_cons, List.length_append] at enough
    cases fuel with
    | zero => omega
    | succ fuel =>
      have room : (laid spacing (level + 1) item ++ laidItems spacing level items).length
          ≤ fuel := by omega
      have read := readItems_laid innerSuit first later
        (fun value member => Value.depth_le_depthOfItems member) room [] rest
      obtain ⟨start, characters, text, opens⟩ := first.starts (level + 1)
      rw [laid, List.cons_append, List.append_assoc, List.append_assoc, readValue, inside]
      simp only [skipSpace_append (spacing.first_blank level), first.starts.solid]
      rw [text, List.cons_append] at read ⊢
      split
      · rename_i same
        exact absurd (List.cons.inj same).1 opens.2.1
      · exact read

/-- **A record is read as the record of what its members are read as**; of those whose names are
read as one, the last counts. -/
theorem returns_record {members others : List (LooseText × Value)}
    (each : List.Forall₂ (MemberReturns spacing) members others) :
    Returns spacing (.record members) (.record (setMembers [] others)) := by
  refine ⟨fun level limits fuel rest suit enough _ => ?_, starts_record members⟩
  obtain ⟨inner, inside, innerSuit⟩ := Limits.Suit.inside suit
  cases each with
  | nil =>
    cases fuel with
    | zero => cases enough
    | succ fuel =>
      have close : skipSpace ('\x7d' :: rest) = '\x7d' :: rest := skipSpace_of_not_space (by decide)
      simp only [laid, List.cons_append, List.nil_append, readValue, inside, close]
      rfl
  | @cons member next members others first later =>
    obtain ⟨name, value⟩ := member
    rw [laid, List.length_cons, List.length_append, List.length_append, List.length_cons,
      List.length_cons] at enough
    cases fuel with
    | zero => omega
    | succ fuel =>
      have room : (laid spacing (level + 1) value ++ laidMembers spacing level members).length
          ≤ fuel := by omega
      have read := readMembers_laid innerSuit first later
        (fun member inList => Value.depth_le_depthOfMembers inList) room [] rest
      simp only [laid, List.cons_append, List.append_assoc, readValue, inside,
        skipSpace_name (spacing.first_blank level)]
      exact read

end Containers

/-! ### Values beyond the limits -/

/-- Reading a value from its text stops, whatever follows it. -/
def Refuses (spacing : Spacing) (limits : Limits) (value : Value) (stop : Stop) : Prop :=
  ∀ level fuel rest, (laid spacing level value).length ≤ fuel → EndsNumber rest →
    readValue limits fuel (laid spacing level value ++ rest) = .error stop

section Refusals

variable {limits inner : Limits} {stop : Stop}

/-- **A whole number with too many digits is not read.** -/
theorem refuses_int {digits : Nat} {depth : Option Nat} {number : Int}
    (long : digits < digitCount number) :
    Refuses spacing ⟨some digits, depth⟩ (.int number) (.tooLong (digitCount number)) := by
  intro level fuel rest enough ends
  rw [laid] at enough ⊢
  rw [(startsScalar_intText number).readValue_eq enough, readScalar_intText_eq,
    ends.readNumber_intText_of_long long]

/-- A list is not read if its first item is not. -/
theorem Refuses.list (refuses : Refuses spacing inner value stop)
    (inside : limits.inside? = some inner) (starts : Starts spacing value) (items : List Value) :
    Refuses spacing limits (.list (value :: items)) stop := by
  intro level fuel rest enough _
  have closing : 0 < (laidItems spacing level items).length := by
    cases items with
    | nil =>
      rw [laidItems, List.length_append]
      exact Nat.succ_pos _
    | cons item items => exact Nat.succ_pos _
  rw [laid, List.length_cons, List.length_append, List.length_append] at enough
  obtain ⟨fuel, rfl⟩ : ∃ less, fuel = less + 2 := ⟨fuel - 2, by omega⟩
  have stopped := refuses (level + 1) fuel (laidItems spacing level items ++ rest) (by omega)
    (endsNumber_laidItems spacing level items rest)
  have read : readItems inner (fuel + 1) []
      (laid spacing (level + 1) value ++ (laidItems spacing level items ++ rest))
        = .error stop := by
    rw [readItems, stopped]
  obtain ⟨first, others, text, opens⟩ := starts (level + 1)
  rw [laid, List.cons_append, List.append_assoc, List.append_assoc, readValue, inside]
  simp only [skipSpace_append (spacing.first_blank level), starts.solid]
  rw [text, List.cons_append] at read ⊢
  split
  · rename_i same
    exact absurd (List.cons.inj same).1 opens.2.1
  · exact read

/-- A record is not read if the value of its first member is not. -/
theorem Refuses.record (refuses : Refuses spacing inner value stop)
    (inside : limits.inside? = some inner) (starts : Starts spacing value) (name : LooseText)
    (members : List (LooseText × Value)) :
    Refuses spacing limits (.record ((name, value) :: members)) stop := by
  intro level fuel rest enough _
  rw [laid, List.length_cons, List.length_append, List.length_append, List.length_cons,
    List.length_cons, List.length_append] at enough
  obtain ⟨fuel, rfl⟩ : ∃ less, fuel = less + 2 := ⟨fuel - 2, by omega⟩
  have stopped := refuses (level + 1) fuel (laidMembers spacing level members ++ rest) (by omega)
    (endsNumber_laidMembers spacing level members rest)
  have read : readMembers inner (fuel + 1) [] (escapedChars name.characters
      ++ (':' :: ' ' :: (laid spacing (level + 1) value
        ++ (laidMembers spacing level members ++ rest)))) = .error stop := by
    rw [readMembers, readName_laid name (starts.solid (level + 1) _)]
    simp only [stopped]
  simp only [laid, List.cons_append, List.append_assoc, readValue, inside,
    skipSpace_name (spacing.first_blank level)]
  exact read

/-- Lists inside each other. -/
def nested : Nat → Value
  | 0 => .list []
  | inside + 1 => .list [nested inside]

theorem starts_nested (inside : Nat) : Starts spacing (nested inside) := by
  cases inside <;> exact starts_list _

/-- **Lists that are nested beyond a bound are not read.** -/
theorem refuses_nested (digits : Option Nat) {bound inside : Nat} (deep : bound ≤ inside) :
    Refuses spacing ⟨digits, some bound⟩ (nested inside) (.tooDeep .list) := by
  induction inside generalizing bound with
  | zero =>
    obtain rfl : bound = 0 := Nat.le_zero.mp deep
    intro level fuel rest enough _
    cases fuel with
    | zero => cases enough
    | succ fuel => rfl
  | succ inside ih =>
    cases bound with
    | zero =>
      intro level fuel rest enough _
      cases fuel with
      | zero => cases enough
      | succ fuel => rfl
    | succ bound => exact (ih (Nat.le_of_succ_le_succ deep)).list rfl (starts_nested inside) []

end Refusals

/-! ### Whole texts -/

section Whole

variable {limits : Limits} {stop : Stop} {text : String}

theorem readWithin_of_head?_ne (unmarked : text.toList.head? ≠ some '\uFEFF') :
    readWithin limits text = (readWhole limits text.toList).mapError (Stop.fault text.toList) := by
  unfold readWithin
  simp only
  split
  · rename_i marked
    rw [marked] at unmarked
    exact absurd rfl unmarked
  · rfl

/-- The text of a value has no mark of its byte order, and no blanks before it. -/
theorem Starts.whole (starts : Starts spacing value) (same : text.toList = laid spacing 0 value) :
    text.toList.head? ≠ some '\uFEFF' ∧ skipSpace text.toList = text.toList := by
  obtain ⟨first, others, start, opens⟩ := starts 0
  rw [same, start]
  refine ⟨?_, skipSpace_of_not_space opens.1⟩
  rintro ⟨⟩
  exact opens.2.2 rfl

/-- **The text of a value is read as a whole**, if the value is not too deep. -/
theorem readWithin_laid (returns : Returns spacing value other) (suit : limits.Suit value.depth)
    (same : text.toList = laid spacing 0 value) : readWithin limits text = .ok other := by
  obtain ⟨unmarked, solid⟩ := returns.starts.whole same
  have read := returns.reads 0 limits (2 * (laid spacing 0 value).length + 2) [] suit (by omega)
    .nil
  rw [List.append_nil, ← same] at read
  rw [readWithin_of_head?_ne unmarked, readWhole, solid, read]
  rfl

/-- A value beyond the limits is not read as a whole either. -/
theorem Refuses.readWithin (refuses : Refuses spacing limits value stop)
    (starts : Starts spacing value) (same : text.toList = laid spacing 0 value) :
    readWithin limits text = .error (stop.fault text.toList) := by
  obtain ⟨unmarked, solid⟩ := starts.whole same
  have stopped := refuses 0 (2 * (laid spacing 0 value).length + 2) [] (by omega) .nil
  rw [List.append_nil, ← same] at stopped
  rw [readWithin_of_head?_ne unmarked, readWhole, solid, stopped]
  rfl

end Whole

end Json

end AssetFetch
