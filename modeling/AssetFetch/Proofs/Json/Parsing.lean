/-
**The reader follows the grammar.**

A reader with limits may stop for want of them. Apart from that it reads what the grammar says.

* `SoundWith`, `soundWith`: **what is read from the front is spelled there**, within any limits;
* `ReadBack`, `readBack_of_spells`: **what is spelled is read**, whatever follows it, unless a limit
  is in the way;
* `says_of_readWithin`, `readWithin_of_said`: the same of whole texts.
-/

import AssetFetch.Proofs.Json.Grammar

namespace AssetFetch.Json

open AssetFetch.Text

variable {characters rest front behind : List Char} {value : Value} {name : LooseText}
  {limits : Limits}

/-! ### Blanks -/

section Blanks

/-- Behind blanks stands what is left when they are skipped. -/
theorem exists_blank (characters : List Char) :
    ∃ blanks, Blank blanks ∧ characters = blanks ++ skipSpace characters :=
  ⟨characters.takeWhile isSpace, fun _ => List.mem_takeWhile_imp,
    List.takeWhile_append_dropWhile.symm⟩

theorem exists_blank_of_skipSpace {next : Char} (skipped : skipSpace characters = next :: behind) :
    ∃ blanks, Blank blanks ∧ characters = blanks ++ next :: behind := by
  obtain ⟨blanks, blank, same⟩ := exists_blank characters
  exact ⟨blanks, blank, skipped ▸ same⟩

end Blanks

/-! ### What is read is spelled -/

section Sound

/-- A number has the value that it has without a limit, or too many digits. -/
theorem value_of_limit (limit : Option Nat) (parts : NumberParts) :
    parts.value limit = parts.value none
      ∨ parts.value limit = .error (.tooLong parts.whole.length) := by
  unfold NumberParts.value
  split
  · by_cases long : limit.any (· < parts.whole.length) = true
    · exact .inr (if_pos long)
    · exact .inl (if_neg long)
  · exact .inl rfl

theorem spells_of_readScalar {limit : Option Nat}
    (read : readScalar limit characters = .ok (value, rest)) :
    ∃ front, characters = front ++ rest ∧ Spells front (.value value) := by
  unfold readScalar at read
  split at read
  · rename_i found
    cases read
    obtain ⟨word, member, here⟩ := List.exists_of_findSome?_eq_some found
    obtain ⟨_, after, same⟩ := Option.map_eq_some_iff.mp here
    cases same
    unfold afterWord? at after
    split at after
    · rename_i starts
      cases after
      obtain ⟨rest, rfl⟩ := List.isPrefixOf_iff_prefix.mp starts
      exact ⟨_, by rw [List.drop_left], .word word member⟩
    · cases after
  · unfold readNumber at read
    split at read
    · cases read
    · rename_i parts after found
      cases amount : parts.value limit with
      | error fault =>
        rw [amount] at read
        cases read
      | ok number =>
        rw [amount] at read
        cases read
        obtain ⟨front, same, spells⟩ := spells_of_numberParts? found
        refine ⟨front, same, .number spells ?_⟩
        rcases value_of_limit limit parts with equal | long
        · rw [← equal, amount]
        · rw [long] at amount
          cases amount

theorem spells_of_readName (read : readName characters = .ok (name, rest)) :
    ∃ front, characters = front ++ rest ∧ SpellsName front name := by
  unfold readName at read
  split at read
  · split at read
    · cases read
    · rename_i behind found
      obtain ⟨inside, text, rfl, spells, rfl⟩ := spells_of_readString found
      split at read
      · rename_i afterColon colon
        cases read
        obtain ⟨between, first, rfl⟩ := exists_blank_of_skipSpace colon
        obtain ⟨after, second, same⟩ := exists_blank afterColon
        refine ⟨_, ?_, .name between after spells first second⟩
        simp only [List.cons_append, List.append_assoc]
        rw [← same]
      · cases read
  · cases read

/-- Blanks before the first item belong to it. -/
theorem Spells.items_append {blanks : List Char} {values : List Value} (blank : Blank blanks)
    (spells : Spells characters (.items (value :: values))) :
    Spells (blanks ++ characters) (.items (value :: values)) := by
  cases spells with
  | lastItem before after first last inside =>
    rw [← List.append_assoc]
    exact .lastItem (blanks ++ before) after (List.forall_mem_append.mpr ⟨blank, first⟩) last inside
  | item before after first last inside others =>
    rw [← List.append_assoc]
    exact .item (blanks ++ before) after (List.forall_mem_append.mpr ⟨blank, first⟩) last inside
      others

/-- Blanks before the first member belong to it. -/
theorem Spells.members_append {blanks : List Char} {member : LooseText × Value}
    {members : List (LooseText × Value)} (blank : Blank blanks)
    (spells : Spells characters (.members (member :: members))) :
    Spells (blanks ++ characters) (.members (member :: members)) := by
  cases spells with
  | lastMember before after first last named inside =>
    rw [← List.append_assoc]
    exact .lastMember (blanks ++ before) after (List.forall_mem_append.mpr ⟨blank, first⟩) last
      named inside
  | member before after first last named inside others =>
    rw [← List.append_assoc]
    exact .member (blanks ++ before) after (List.forall_mem_append.mpr ⟨blank, first⟩) last named
      inside others

/-- With this much fuel, values, items and members are read only if they are spelled. -/
structure SoundWith (fuel : Nat) : Prop where
  value : ∀ {limits characters value rest},
    readValue limits fuel characters = .ok (value, rest) →
    ∃ front, characters = front ++ rest ∧ Spells front (.value value)
  items : ∀ {limits taken characters value rest},
    readItems limits fuel taken characters = .ok (value, rest) →
    ∃ front first others, characters = front ++ ']' :: rest
      ∧ Spells front (.items (first :: others)) ∧ value = .list (taken.reverse ++ first :: others)
  members : ∀ {limits taken characters value rest},
    readMembers limits fuel taken characters = .ok (value, rest) →
    ∃ front first others, characters = front ++ '\x7d' :: rest
      ∧ Spells front (.members (first :: others))
      ∧ value = .record (setMembers taken (first :: others))

section Step

variable {fuel : Nat}

theorem SoundWith.step_value (sound : SoundWith fuel)
    (read : readValue limits (fuel + 1) characters = .ok (value, rest)) :
    ∃ front, characters = front ++ rest ∧ Spells front (.value value) := by
  unfold readValue at read
  split at read
  · rename_i behind
    cases found : readString ('"' :: behind) [] behind with
    | error fault =>
      rw [found] at read
      cases read
    | ok reading =>
      rw [found] at read
      cases read
      obtain ⟨inside, text, rfl, spells, same⟩ := spells_of_readString found
      rw [same]
      exact ⟨_, by simp, .text spells⟩
  · split at read
    · cases read
    · rename_i behind _ inner _
      obtain ⟨blanks, blank, same⟩ := exists_blank behind
      split at read
      · rename_i after close
        cases read
        rw [close] at same
        exact ⟨_, by rw [same]; simp, .list (.noItem blank)⟩
      · obtain ⟨inside, first, others, skipped, spells, rfl⟩ := sound.items read
        rw [skipped] at same
        exact ⟨_, by rw [same]; simp, .list (spells.items_append blank)⟩
  · split at read
    · cases read
    · rename_i behind _ inner _
      obtain ⟨blanks, blank, same⟩ := exists_blank behind
      split at read
      · rename_i after close
        cases read
        rw [close] at same
        exact ⟨_, by rw [same]; simp, .record (.noMember blank)⟩
      · obtain ⟨inside, first, others, skipped, spells, rfl⟩ := sound.members read
        rw [skipped] at same
        exact ⟨_, by rw [same]; simp, .record (spells.members_append blank)⟩
  · exact spells_of_readScalar read

theorem SoundWith.step_items (sound : SoundWith fuel) {taken : List Value}
    (read : readItems limits (fuel + 1) taken characters = .ok (value, rest)) :
    ∃ front first others, characters = front ++ ']' :: rest
      ∧ Spells front (.items (first :: others))
      ∧ value = .list (taken.reverse ++ first :: others) := by
  unfold readItems at read
  split at read
  · cases read
  · rename_i item afterItem found
    obtain ⟨inside, rfl, spells⟩ := sound.value found
    split at read
    · rename_i after close
      cases read
      obtain ⟨blanks, blank, rfl⟩ := exists_blank_of_skipSpace close
      exact ⟨_, item, [], by simp, .lastItem [] blanks (List.forall_mem_nil _) blank spells,
        by simp⟩
    · rename_i after comma
      obtain ⟨blanks, blank, rfl⟩ := exists_blank_of_skipSpace comma
      obtain ⟨others, first, more, skipped, later, rfl⟩ := sound.items read
      obtain ⟨between, second, same⟩ := exists_blank after
      rw [skipped] at same
      refine ⟨_, item, first :: more, ?_,
        .item [] blanks (List.forall_mem_nil _) blank spells (later.items_append second), by simp⟩
      rw [same]
      simp
    · cases read

theorem SoundWith.step_members (sound : SoundWith fuel) {taken : List (LooseText × Value)}
    (read : readMembers limits (fuel + 1) taken characters = .ok (value, rest)) :
    ∃ front first others, characters = front ++ '\x7d' :: rest
      ∧ Spells front (.members (first :: others))
      ∧ value = .record (setMembers taken (first :: others)) := by
  unfold readMembers at read
  split at read
  · cases read
  · rename_i name afterName named
    obtain ⟨front, rfl, nameSpells⟩ := spells_of_readName named
    split at read
    · cases read
    · rename_i member afterValue found
      obtain ⟨inside, rfl, spells⟩ := sound.value found
      split at read
      · rename_i after close
        cases read
        obtain ⟨blanks, blank, rfl⟩ := exists_blank_of_skipSpace close
        exact ⟨_, (name, member), [], by simp,
          .lastMember [] blanks (List.forall_mem_nil _) blank nameSpells spells, rfl⟩
      · rename_i after comma
        obtain ⟨blanks, blank, rfl⟩ := exists_blank_of_skipSpace comma
        obtain ⟨others, first, more, skipped, later, rfl⟩ := sound.members read
        obtain ⟨between, second, same⟩ := exists_blank after
        rw [skipped] at same
        refine ⟨_, (name, member), first :: more, ?_,
          .member [] blanks (List.forall_mem_nil _) blank nameSpells spells
            (later.members_append second), rfl⟩
        rw [same]
        simp
      · cases read

end Step

/-- **What is read is spelled.** By induction on the fuel, which all three readers share. -/
theorem soundWith (fuel : Nat) : SoundWith fuel := by
  induction fuel with
  | zero =>
    constructor <;>
      (intros
       rename_i read
       cases read)
  | succ fuel ih => exact ⟨ih.step_value, ih.step_items, ih.step_members⟩

end Sound

/-! ### What is spelled is read -/

section Complete

/-- A limit is the reason to stop. -/
def Stop.IsLimit : Stop → Prop
  | .problem _ _ => False
  | .tooLong _ => True
  | .tooDeep _ => True

/-- A value is read with some characters left, unless a limit is in the way. -/
def Comes (reading : Reading Value) (value : Value) (rest : List Char) : Prop :=
  reading = .ok (value, rest) ∨ ∃ stop, reading = .error stop ∧ stop.IsLimit

/-- A value begins with a character that is not blank and closes no list. -/
theorem Spells.exists_head (spells : Spells characters (.value value)) :
    ∃ first others, characters = first :: others ∧ Opens first := by
  cases spells with
  | word word member =>
    have opens : ∀ word ∈ words, ∃ first others, word.1.toList = first :: others ∧ Opens first := by
      simp only [words, List.forall_mem_cons]
      exact ⟨⟨_, _, rfl, by decide⟩, ⟨_, _, rfl, by decide⟩, ⟨_, _, rfl, by decide⟩,
        ⟨_, _, rfl, by decide⟩, ⟨_, _, rfl, by decide⟩, ⟨_, _, rfl, by decide⟩,
        List.forall_mem_nil _⟩
    exact opens word member
  | number spells _ =>
    obtain ⟨negative, whole, _, _⟩ := spells
    cases negative with
    | true => exact ⟨'-', _, rfl, by decide⟩
    | false =>
      cases whole with
      | zero => exact ⟨'0', _, rfl, by decide⟩
      | digits first others plain _ _ => exact ⟨first, _, rfl, opens_of_isPlainDigit plain⟩
  | text _ => exact ⟨'"', _, rfl, by decide⟩
  | list _ => exact ⟨'[', _, rfl, by decide⟩
  | record _ => exact ⟨'\x7b', _, rfl, by decide⟩

/-- Before a value nothing is skipped. -/
theorem Spells.skipSpace_append (spells : Spells characters (.value value)) (rest : List Char) :
    skipSpace (characters ++ rest) = characters ++ rest := by
  obtain ⟨first, others, rfl, opens⟩ := spells.exists_head
  exact skipSpace_of_not_space opens.1

/-- Before a name nothing is skipped. -/
theorem SpellsName.skipSpace_append (spells : SpellsName characters name) (rest : List Char) :
    skipSpace (characters ++ rest) = characters ++ rest := by
  obtain ⟨between, after, _, _, _⟩ := spells
  exact skipSpace_of_not_space (by decide)

/-- Items begin with what is not blank and closes no list. -/
theorem Spells.exists_items_head {values : List Value}
    (spells : Spells characters (.items (value :: values))) (rest : List Char) :
    ∃ first others, skipSpace (characters ++ rest) = first :: others ∧ first ≠ ']' := by
  have head : ∀ {before inside : List Char}, Blank before → Spells inside (.value value) →
      ∀ rest, ∃ first others, skipSpace (before ++ (inside ++ rest)) = first :: others
        ∧ first ≠ ']' := by
    intro before inside blank spells rest
    rw [Json.skipSpace_append blank, spells.skipSpace_append]
    obtain ⟨first, others, rfl, opens⟩ := spells.exists_head
    exact ⟨first, others ++ rest, rfl, opens.2.1⟩
  cases spells with
  | lastItem before after blank _ inside =>
    simp only [List.append_assoc]
    exact head blank inside _
  | item before after blank _ inside _ =>
    simp only [List.append_assoc]
    exact head blank inside _

/-- Members begin with a quote. -/
theorem Spells.exists_members_head {member : LooseText × Value}
    {members : List (LooseText × Value)} (spells : Spells characters (.members (member :: members)))
    (rest : List Char) : ∃ others, skipSpace (characters ++ rest) = '"' :: others := by
  have head : ∀ {before front : List Char} {name : LooseText}, Blank before →
      SpellsName front name → ∀ rest, ∃ others,
        skipSpace (before ++ (front ++ rest)) = '"' :: others := by
    intro before front name blank named rest
    rw [Json.skipSpace_append blank, named.skipSpace_append]
    obtain ⟨between, after, _, _, _⟩ := named
    exact ⟨_, rfl⟩
  cases spells with
  | lastMember before after blank _ named _ =>
    simp only [List.append_assoc]
    exact head blank named _
  | member before after blank _ named _ _ =>
    simp only [List.append_assoc]
    exact head blank named _

theorem SpellsWhole.exists_head (spells : SpellsWhole characters) :
    ∃ first others, characters = first :: others ∧ isPlainDigit first = true := by
  cases spells with
  | zero => exact ⟨'0', [], rfl, by decide⟩
  | digits first others plain _ _ => exact ⟨first, others, rfl, plain⟩

/-- A number does not begin with a word. -/
theorem afterWord?_of_spells {parts : NumberParts} (spells : SpellsNumber characters parts)
    {word : String × Value} (member : word ∈ words) (rest : List Char) :
    afterWord? word.1.toList (characters ++ rest) = none := by
  have apart : ∀ digit : Char, isPlainDigit digit = true →
      digit ≠ 'n' ∧ digit ≠ 't' ∧ digit ≠ 'f' ∧ digit ≠ 'N' ∧ digit ≠ 'I' ∧ digit ≠ '-' := by
    intro digit plain
    refine ⟨?_, ?_, ?_, ?_, ?_, ?_⟩ <;> (rintro rfl; exact absurd plain (by decide))
  obtain ⟨negative, whole, _, _⟩ := spells
  obtain ⟨first, others, rfl, plain⟩ := whole.exists_head
  obtain ⟨n, t, f, capital, i, sign⟩ := apart first plain
  simp only [words, List.mem_cons, List.not_mem_nil, or_false] at member
  rcases member with rfl | rfl | rfl | rfl | rfl | rfl <;>
    (cases negative <;> simp [afterWord?, List.isPrefixOf, *, Ne.symm])

theorem comes_number {parts : NumberParts} (spells : SpellsNumber characters parts)
    (amount : parts.value none = .ok value) (ends : EndsNumber rest) (limit : Option Nat) :
    Comes (readScalar limit (characters ++ rest)) value rest := by
  have none : (words.findSome? fun word =>
      (afterWord? word.1.toList (characters ++ rest)).map fun rest => (word.2, rest)) = none := by
    refine List.findSome?_eq_none_iff.mpr fun word member => ?_
    rw [afterWord?_of_spells spells member rest]
    rfl
  rw [readScalar, none]
  simp only [readNumber, numberParts?_of_spells spells ends]
  rcases value_of_limit limit parts with same | long
  · rw [same, amount]
    exact .inl rfl
  · rw [long]
    exact .inr ⟨_, rfl, trivial⟩

theorem readName_of_spells (spells : SpellsName characters name)
    (solid : skipSpace rest = rest) : readName (characters ++ rest) = .ok (name, rest) := by
  obtain ⟨between, after, inside, first, second⟩ := spells
  have colon : ∀ behind, skipSpace (':' :: behind) = ':' :: behind :=
    fun _ => skipSpace_of_not_space (by decide)
  simp only [List.cons_append, List.append_assoc, readName]
  rw [readString_of_spells inside]
  simp only [Json.skipSpace_append first, colon, Json.skipSpace_append second, solid,
    List.reverse_nil, List.nil_append]

/-- What a spelling leads to: a value is read where nothing goes on with it, and items and members
are read up to the closing bracket. -/
def ReadBack : List Char → Part → Prop
  | characters, .value value => ∀ limits fuel rest, characters.length ≤ fuel → EndsNumber rest →
    Comes (readValue limits fuel (characters ++ rest)) value rest
  | characters, .items items => ∀ limits fuel taken rest, items ≠ [] → characters.length < fuel →
    Comes (readItems limits fuel taken (skipSpace (characters ++ ']' :: rest)))
      (.list (taken.reverse ++ items)) rest
  | characters, .members members => ∀ limits fuel taken rest, members ≠ [] →
    characters.length < fuel →
    Comes (readMembers limits fuel taken (skipSpace (characters ++ '\x7d' :: rest)))
      (.record (setMembers taken members)) rest

theorem readBack_word (word : String × Value) (member : word ∈ words) :
    ReadBack word.1.toList (.value word.2) := by
  intro limits fuel rest enough _
  have read := readScalar_word member limits.digits rest
  refine .inl (Eq.trans ?_ read)
  cases fuel with
  | zero =>
    obtain ⟨first, others, same, _⟩ := (Spells.word word member).exists_head
    rw [same] at enough
    exact absurd enough (by simp)
  | succ fuel =>
    simp only [words, List.mem_cons, List.not_mem_nil, or_false] at member
    rcases member with rfl | rfl | rfl | rfl | rfl | rfl <;>
      exact readValue_scalar limits fuel (by decide) (by decide) (by decide)

theorem readBack_number {parts : NumberParts} (spells : SpellsNumber characters parts)
    (amount : parts.value none = .ok value) : ReadBack characters (.value value) := by
  intro limits fuel rest enough ends
  have comes := comes_number spells amount ends limits.digits
  obtain ⟨first, others, rfl, start⟩ : ∃ first others, characters = first :: others
      ∧ (first = '-' ∨ isPlainDigit first = true) := by
    obtain ⟨negative, whole, _, _⟩ := spells
    obtain ⟨first, others, rfl, plain⟩ := whole.exists_head
    cases negative with
    | true => exact ⟨'-', _, rfl, .inl rfl⟩
    | false => exact ⟨first, _, rfl, .inr plain⟩
  have solid : first ≠ '"' ∧ first ≠ '[' ∧ first ≠ '\x7b' := by
    rcases start with rfl | plain
    · decide
    · refine ⟨?_, ?_, ?_⟩ <;> (rintro rfl; exact absurd plain (by decide))
  cases fuel with
  | zero => exact absurd enough (by simp)
  | succ fuel =>
    rw [List.cons_append] at comes ⊢
    rwa [readValue_scalar limits fuel solid.1 solid.2.1 solid.2.2]

theorem readBack_text {text : List LooseChar} (spells : SpellsText characters text) :
    ReadBack ('"' :: (characters ++ ['"'])) (.value (.text ⟨text⟩)) := by
  intro limits fuel rest enough _
  cases fuel with
  | zero => exact absurd enough (by simp)
  | succ fuel =>
    rw [List.cons_append, List.append_assoc, List.singleton_append, readValue,
      readString_of_spells spells]
    exact .inl rfl

/-- A list or a record is entered unless it is too deep. -/
theorem comes_enter {container : Container} {next : Limits → Reading Value}
    (inside : ∀ inner, Comes (next inner) value rest) :
    Comes (match limits.inside? with
      | none => .error (.tooDeep container)
      | some inner => next inner) value rest := by
  split
  · exact .inr ⟨_, rfl, trivial⟩
  · exact inside _

theorem readBack_list {items : List Value} (spells : Spells characters (.items items))
    (readBack : ReadBack characters (.items items)) :
    ReadBack ('[' :: (characters ++ [']'])) (.value (.list items)) := by
  intro limits fuel rest enough _
  rw [List.length_cons, List.length_append, List.length_singleton] at enough
  cases fuel with
  | zero => omega
  | succ fuel =>
    rw [List.cons_append, List.append_assoc, List.singleton_append, readValue]
    refine comes_enter fun inner => ?_
    cases items with
    | nil =>
      cases spells with
      | noItem blank =>
        rw [skipSpace_append_cons blank (by decide)]
        exact .inl rfl
    | cons item items =>
      have read := readBack inner fuel [] rest (List.cons_ne_nil _ _) (by omega)
      obtain ⟨first, others, same, open'⟩ := spells.exists_items_head (']' :: rest)
      rw [same] at read ⊢
      split
      · rename_i close
        exact absurd (List.cons.inj close).1 open'
      · exact read

theorem readBack_record {members : List (LooseText × Value)}
    (spells : Spells characters (.members members))
    (readBack : ReadBack characters (.members members)) :
    ReadBack ('\x7b' :: (characters ++ ['\x7d'])) (.value (.record (setMembers [] members))) := by
  intro limits fuel rest enough _
  rw [List.length_cons, List.length_append, List.length_singleton] at enough
  cases fuel with
  | zero => omega
  | succ fuel =>
    rw [List.cons_append, List.append_assoc, List.singleton_append, readValue]
    refine comes_enter fun inner => ?_
    cases members with
    | nil =>
      cases spells with
      | noMember blank =>
        rw [skipSpace_append_cons blank (by decide)]
        exact .inl rfl
    | cons member members =>
      have read := readBack inner fuel [] rest (List.cons_ne_nil _ _) (by omega)
      obtain ⟨others, same⟩ := spells.exists_members_head ('\x7d' :: rest)
      rw [same] at read ⊢
      exact read

theorem readBack_lastItem {before after : List Char} (first : Blank before) (last : Blank after)
    (spells : Spells characters (.value value)) (readBack : ReadBack characters (.value value)) :
    ReadBack (before ++ (characters ++ after)) (.items [value]) := by
  intro limits fuel taken rest _ enough
  simp only [List.length_append] at enough
  cases fuel with
  | zero => omega
  | succ fuel =>
    have close : skipSpace (after ++ ']' :: rest) = ']' :: rest :=
      skipSpace_append_cons last (by decide) rest
    have read := readBack limits fuel (after ++ ']' :: rest) (by omega)
      (endsNumber_append last (by decide) rest)
    simp only [List.append_assoc]
    rw [skipSpace_append first, spells.skipSpace_append, readItems]
    rcases read with read | ⟨stop, read, limit⟩
    · rw [read]
      simp only [close, List.reverse_cons]
      exact .inl rfl
    · rw [read]
      exact .inr ⟨stop, rfl, limit⟩

theorem readBack_item {before after others : List Char} {next : Value} {values : List Value}
    (first : Blank before) (last : Blank after) (spells : Spells characters (.value value))
    (readBack : ReadBack characters (.value value))
    (later : ReadBack others (.items (next :: values))) :
    ReadBack (before ++ (characters ++ (after ++ ',' :: others)))
      (.items (value :: next :: values)) := by
  intro limits fuel taken rest _ enough
  simp only [List.length_append, List.length_cons] at enough
  cases fuel with
  | zero => omega
  | succ fuel =>
    have comma : skipSpace (after ++ ',' :: (others ++ ']' :: rest))
        = ',' :: (others ++ ']' :: rest) := skipSpace_append_cons last (by decide) _
    have read := readBack limits fuel (after ++ ',' :: (others ++ ']' :: rest)) (by omega)
      (endsNumber_append last (by decide) _)
    have more := later limits fuel (value :: taken) rest (List.cons_ne_nil _ _) (by omega)
    simp only [List.append_assoc, List.cons_append]
    rw [skipSpace_append first, spells.skipSpace_append, readItems]
    rcases read with read | ⟨stop, read, limit⟩
    · rw [read]
      simp only [comma]
      rwa [List.reverse_cons, List.append_assoc] at more
    · rw [read]
      exact .inr ⟨stop, rfl, limit⟩

theorem readBack_lastMember {before after : List Char} (first : Blank before) (last : Blank after)
    (named : SpellsName front name) (spells : Spells characters (.value value))
    (readBack : ReadBack characters (.value value)) :
    ReadBack (before ++ (front ++ (characters ++ after))) (.members [(name, value)]) := by
  intro limits fuel taken rest _ enough
  simp only [List.length_append] at enough
  cases fuel with
  | zero => omega
  | succ fuel =>
    have close : skipSpace (after ++ '\x7d' :: rest) = '\x7d' :: rest :=
      skipSpace_append_cons last (by decide) rest
    have read := readBack limits fuel (after ++ '\x7d' :: rest) (by omega)
      (endsNumber_append last (by decide) rest)
    simp only [List.append_assoc]
    rw [skipSpace_append first, named.skipSpace_append, readMembers,
      readName_of_spells named (spells.skipSpace_append _)]
    rcases read with read | ⟨stop, read, limit⟩
    · simp only [read, close]
      exact .inl rfl
    · simp only [read]
      exact .inr ⟨stop, rfl, limit⟩

theorem readBack_member {before after others : List Char} {next : LooseText × Value}
    {members : List (LooseText × Value)} (first : Blank before) (last : Blank after)
    (named : SpellsName front name) (spells : Spells characters (.value value))
    (readBack : ReadBack characters (.value value))
    (later : ReadBack others (.members (next :: members))) :
    ReadBack (before ++ (front ++ (characters ++ (after ++ ',' :: others))))
      (.members ((name, value) :: next :: members)) := by
  intro limits fuel taken rest _ enough
  simp only [List.length_append, List.length_cons] at enough
  cases fuel with
  | zero => omega
  | succ fuel =>
    have comma : skipSpace (after ++ ',' :: (others ++ '\x7d' :: rest))
        = ',' :: (others ++ '\x7d' :: rest) := skipSpace_append_cons last (by decide) _
    have read := readBack limits fuel (after ++ ',' :: (others ++ '\x7d' :: rest)) (by omega)
      (endsNumber_append last (by decide) _)
    have more := later limits fuel (Value.setMember name value taken) rest (List.cons_ne_nil _ _)
      (by omega)
    simp only [List.append_assoc, List.cons_append]
    rw [skipSpace_append first, named.skipSpace_append, readMembers,
      readName_of_spells named (spells.skipSpace_append _)]
    rcases read with read | ⟨stop, read, limit⟩
    · simp only [read, comma]
      exact more
    · simp only [read]
      exact .inr ⟨stop, rfl, limit⟩

/-- **What is spelled is read**, unless a limit is in the way. By induction on how it is spelled. -/
theorem readBack_of_spells {part : Part} (spells : Spells characters part) :
    ReadBack characters part := by
  induction spells with
  | word word member => exact readBack_word word member
  | number spells amount => exact readBack_number spells amount
  | text spells => exact readBack_text spells
  | list spells ih => exact readBack_list spells ih
  | record spells ih => exact readBack_record spells ih
  | noItem blank => exact fun _ _ _ _ some => absurd rfl some
  | lastItem before after first last spells ih => exact readBack_lastItem first last spells ih
  | item before after first last spells _ ih later => exact readBack_item first last spells ih later
  | noMember blank => exact fun _ _ _ _ some => absurd rfl some
  | lastMember before after first last named spells ih =>
    exact readBack_lastMember first last named spells ih
  | member before after first last named spells _ ih later =>
    exact readBack_member first last named spells ih later

end Complete

/-! ### Whole texts -/

section Whole

/-- **What is read as a whole is said.** -/
theorem says_of_readWhole (read : readWhole limits characters = .ok value) :
    Says characters value := by
  obtain ⟨before, first, same⟩ := exists_blank characters
  unfold readWhole at read
  split at read
  · cases read
  · rename_i rest found
    obtain ⟨inside, skipped, spells⟩ := (soundWith _).value found
    split at read
    · rename_i nothing
      cases read
      obtain ⟨after, last, behind⟩ := exists_blank rest
      rw [nothing, List.append_nil] at behind
      rw [skipped, behind] at same
      exact ⟨before, inside, after, first, last, spells, same⟩
    · cases read

/-- **What is said is read as a whole**, unless a limit is in the way. -/
theorem readWhole_of_said (said : Says characters value) (limits : Limits) :
    readWhole limits characters = .ok value
      ∨ ∃ stop, readWhole limits characters = .error stop ∧ stop.IsLimit := by
  obtain ⟨before, inside, after, first, last, spells, rfl⟩ := said
  have nothing : skipSpace after = [] := by
    have skipped := skipSpace_append last []
    rwa [List.append_nil] at skipped
  have ends : EndsNumber after := by
    cases after with
    | nil => exact .nil
    | cons next others => exact endsNumber_of_isSpace (last next List.mem_cons_self) others
  unfold readWhole
  rw [skipSpace_append first, spells.skipSpace_append]
  rcases readBack_of_spells spells limits (2 * (before ++ (inside ++ after)).length + 2) after
    (by simp only [List.length_append]; omega) ends with read | ⟨stop, read, limit⟩
  · left
    simp only [read, nothing]
  · right
    exact ⟨stop, by simp only [read], limit⟩

/-- A fault that is a limit's. -/
def Fault.IsLimit : Fault → Prop
  | .malformed _ => False
  | .tooLong _ => True
  | .tooDeep _ => True

/-- A text that says a value does not start with a mark of its byte order. -/
theorem Says.head?_ne (said : Says characters value) : characters.head? ≠ some '\uFEFF' := by
  obtain ⟨before, inside, after, first, _, spells, rfl⟩ := said
  cases before with
  | nil =>
    obtain ⟨next, others, rfl, opens⟩ := spells.exists_head
    rintro ⟨⟩
    exact opens.2.2 rfl
  | cons next others =>
    rintro ⟨⟩
    exact absurd (first _ List.mem_cons_self) (by decide)

/-- **A text is read as a value only if it says that value**, whatever the limits. -/
theorem says_of_readWithin {text : String} (read : readWithin limits text = .ok value) :
    Says text.toList value := by
  unfold readWithin at read
  simp only at read
  split at read
  · cases read
  · cases whole : readWhole limits text.toList with
    | error fault =>
      rw [whole] at read
      cases read
    | ok other =>
      rw [whole] at read
      cases read
      exact says_of_readWhole whole

/-- **A text that says a value is read as it**, unless a limit is in the way. -/
theorem readWithin_of_said {text : String} (said : Says text.toList value) (limits : Limits) :
    readWithin limits text = .ok value
      ∨ ∃ fault, readWithin limits text = .error fault ∧ fault.IsLimit := by
  rw [readWithin_of_head?_ne said.head?_ne]
  rcases readWhole_of_said said limits with read | ⟨stop, read, limit⟩
  · rw [read]
    exact .inl rfl
  · rw [read]
    refine .inr ⟨_, rfl, ?_⟩
    cases stop with
    | problem problem remaining => exact limit.elim
    | tooLong digits => exact trivial
    | tooDeep container => exact trivial

end Whole

end AssetFetch.Json
