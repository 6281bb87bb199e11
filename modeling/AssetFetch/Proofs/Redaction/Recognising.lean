/-
**What the rules for secrets recognise.**

Each rule reads a text from left to right and never goes back. Here is what it recognises, said
without an order of reading: a text that is put together from parts.

* `letterOf`, `IsWord`: letters in any case;
* `IsAccessToken`, `IsFinegrainedToken`: the tokens that are secrets wherever they stand;
* `LeadsToCredential`, `LeadsToSecret`: what stands before the other secrets;
* `accessToken_eq_some_iff`, `finegrainedToken_eq_some_iff`, `authorization_eq_some_iff`,
  `pair_eq_some_iff`: the rules recognise exactly that.
-/

import AssetFetch.Redaction
import Mathlib.Data.List.TakeWhile

namespace AssetFetch.Redaction

open AssetFetch.Text

/-! ### Letters -/

section Letters

variable {letter character : Char} {word found text rest : List Char}

/-- The small letter that a character is a form of; a character that is no letter is its own. -/
def letterOf (character : Char) : Char :=
  if character = '\u212A' then 'k'
  else if character = '\u017F' then 's'
  else if character = '\u0130' ∨ character = '\u0131' then 'i'
  else character.toLower

theorem isLetter_iff (plain : letter.toNat < 0x80) :
    isLetter letter character = true ↔ letter = letterOf character := by
  have apart : ∀ other : Char, 0x80 ≤ other.toNat → letter ≠ other := by
    rintro other far rfl
    omega
  have kelvin := apart '\u212A' (by decide)
  have long := apart '\u017F' (by decide)
  have dotted := apart '\u0130' (by decide)
  have dotless := apart '\u0131' (by decide)
  simp only [isLetter, letterOf, Bool.or_eq_true, Bool.and_eq_true, beq_iff_eq,
    eq_comm (b := letter)]
  by_cases first : character = '\u212A'
  · subst first
    simp [kelvin]
  by_cases second : character = '\u017F'
  · subst second
    simp [long]
  by_cases third : character = '\u0130' ∨ character = '\u0131'
  · rcases third with rfl | rfl
    · simp [dotted]
    · simp [dotless]
  · simp [first, second, third]

theorem toNat_toLower (character : Char) :
    character.toLower.toNat = if 65 ≤ character.toNat ∧ character.toNat ≤ 90
      then character.toNat + 32 else character.toNat := by
  unfold Char.toLower
  by_cases capital : character.val ≥ 'A'.val ∧ character.val ≤ 'Z'.val
  · have low : 65 ≤ character.toNat := capital.1
    have high : character.val.toNat ≤ 90 := capital.2
    rw [dif_pos capital, if_pos ⟨low, high⟩]
    show (character.val + ('a'.val - 'A'.val)).toNat = character.val.toNat + 32
    rw [UInt32.toNat_add]
    show (character.val.toNat + 32) % 2 ^ 32 = _
    omega
  · have outside : ¬ (65 ≤ character.toNat ∧ character.toNat ≤ 90) := capital
    rw [dif_neg capital, if_neg outside]

/-- A word in any case. -/
def IsWord (word found : List Char) : Prop :=
  found.map letterOf = word

theorem IsWord.length (same : IsWord word found) : found.length = word.length := by
  rw [← same, List.length_map]

/-- A word whose letters are all among the first 128 characters. -/
def IsAscii (word : List Char) : Prop :=
  ∀ letter ∈ word, letter.toNat < 0x80

instance (word : List Char) : Decidable (IsAscii word) :=
  List.decidableBAll _ word

/-- A word of small letters of the alphabet. -/
def IsSmall (word : List Char) : Prop :=
  ∀ letter ∈ word, 97 ≤ letter.toNat ∧ letter.toNat ≤ 122

instance (word : List Char) : Decidable (IsSmall word) :=
  List.decidableBAll _ word

/-- **Reading a word** succeeds exactly where the word stands in some case. -/
theorem wordInAnyCase_eq_some_iff (plain : IsAscii word) :
    wordInAnyCase word text = some rest ↔ ∃ found, IsWord word found ∧ text = found ++ rest := by
  induction word generalizing text with
  | nil =>
    simp only [wordInAnyCase, Option.some.injEq, IsWord, List.map_eq_nil_iff]
    constructor
    · rintro rfl
      exact ⟨[], rfl, rfl⟩
    · rintro ⟨found, rfl, rfl⟩
      rfl
  | cons letter word ih =>
    have first : letter.toNat < 0x80 := plain letter List.mem_cons_self
    have others : IsAscii word := fun other member =>
      plain other (List.mem_cons_of_mem letter member)
    cases text with
    | nil =>
      simp only [wordInAnyCase, reduceCtorEq, false_iff]
      rintro ⟨found, same, whole⟩
      obtain ⟨rfl, rfl⟩ := List.append_eq_nil_iff.mp whole.symm
      cases same
    | cons character text =>
      simp only [wordInAnyCase, isLetter_iff first]
      by_cases here : letter = letterOf character
      · rw [if_pos here, ih others]
        constructor
        · rintro ⟨found, same, rfl⟩
          exact ⟨character :: found, by rw [IsWord, List.map_cons, same, here], rfl⟩
        · rintro ⟨found, same, whole⟩
          cases found with
          | nil => cases same
          | cons head found =>
            cases whole
            exact ⟨found, (List.cons.inj same).2, rfl⟩
      · rw [if_neg here]
        simp only [reduceCtorEq, false_iff]
        rintro ⟨found, same, whole⟩
        cases found with
        | nil => cases same
        | cons head found =>
          cases whole
          exact here (List.cons.inj same).1.symm

/-- Two words at one place agree as far as both go. -/
theorem IsWord.agree {other found' rest' : List Char} (same : IsWord word found)
    (same' : IsWord other found') (place : found ++ rest = found' ++ rest') :
    word.take other.length = other.take word.length := by
  have letters : word ++ rest.map letterOf = other ++ rest'.map letterOf := by
    rw [← same, ← same', ← List.map_append, place, List.map_append]
  have front := congrArg (List.take (min word.length other.length)) letters
  rw [List.take_append_of_le_length (Nat.min_le_left ..),
    List.take_append_of_le_length (Nat.min_le_right ..)] at front
  by_cases short : word.length ≤ other.length
  · rw [Nat.min_eq_left short, List.take_length] at front
    rwa [List.take_of_length_le short]
  · rw [Nat.min_eq_right (by omega), List.take_length] at front
    rw [List.take_of_length_le (show other.length ≤ word.length by omega), front]

/-- Whether a character is a form of a letter of the alphabet. -/
def IsAlphabetic (character : Char) : Prop :=
  97 ≤ (letterOf character).toNat ∧ (letterOf character).toNat ≤ 122

theorem IsAlphabetic.toNat (alphabetic : IsAlphabetic character) :
    65 ≤ character.toNat ∧ character.toNat ≤ 90 ∨ 97 ≤ character.toNat ∧ character.toNat ≤ 122
      ∨ character.toNat ∈ [0x212A, 0x017F, 0x0130, 0x0131] := by
  unfold IsAlphabetic letterOf at alphabetic
  split at alphabetic
  · rename_i same
    simp [same]
  split at alphabetic
  · rename_i same
    simp [same]
  split at alphabetic
  · rename_i same
    rcases same with same | same <;> simp [same]
  rw [toNat_toLower] at alphabetic
  split at alphabetic <;> omega

/-- A letter is neither blank nor a quote, nor does it separate a key from its value. -/
theorem IsAlphabetic.apart (alphabetic : IsAlphabetic character) :
    isBlank character = false ∧ isQuote character = false ∧ character ≠ ':' ∧ character ≠ '='
      ∧ character ≠ '[' := by
  have number := alphabetic.toNat
  have differs : ∀ other : Char, character.toNat ≠ other.toNat → character ≠ other := by
    rintro other apart rfl
    exact apart rfl
  simp only [List.mem_cons, List.not_mem_nil, or_false] at number
  refine ⟨?_, ?_, differs _ ?_, differs _ ?_, differs _ ?_⟩
  · simp only [isBlank, inRanges, blankRanges, List.any_cons, List.any_nil, Bool.or_false,
      Bool.or_eq_false_iff, Bool.and_eq_false_iff, decide_eq_false_iff_not]
    omega
  · simp only [isQuote, Bool.or_eq_false_iff, beq_eq_false_iff_ne]
    refine ⟨differs _ ?_, differs _ ?_⟩ <;> simp <;> omega
  all_goals simp; omega

theorem IsWord.alphabetic (same : IsWord word found) (letters : IsSmall word) :
    ∀ character ∈ found, IsAlphabetic character := by
  intro character member
  exact letters _ (same ▸ List.mem_map_of_mem member)

/-- **Reading one of two words**, neither of which begins with the other. -/
theorem eitherWord_eq_some_iff {other : List Char} (plain : IsAscii word) (plain' : IsAscii other)
    (apart : word.take other.length ≠ other.take word.length) :
    (wordInAnyCase word text).or (wordInAnyCase other text) = some rest
      ↔ ∃ found, (IsWord word found ∨ IsWord other found) ∧ text = found ++ rest := by
  rw [Option.or_eq_some_iff, wordInAnyCase_eq_some_iff plain, wordInAnyCase_eq_some_iff plain']
  constructor
  · rintro (⟨found, same, whole⟩ | ⟨_, found, same, whole⟩)
    · exact ⟨found, Or.inl same, whole⟩
    · exact ⟨found, Or.inr same, whole⟩
  · rintro ⟨found, same | same, whole⟩
    · exact Or.inl ⟨found, same, whole⟩
    · refine Or.inr ⟨?_, found, same, whole⟩
      rw [Option.eq_none_iff_forall_ne_some]
      intro rest' read
      obtain ⟨found', same', whole'⟩ := (wordInAnyCase_eq_some_iff plain).mp read
      exact apart (same'.agree same (whole'.symm.trans whole))

end Letters

/-! ### Tokens -/

section Tokens

variable {mark token text rest body : List Char} {isPart : Char → Bool} {found : Match}

/-- A mark and at least twenty characters of a class. -/
def IsTokenOf (mark : List Char) (isPart : Char → Bool) (token : List Char) : Prop :=
  ∃ body, token = mark ++ body ∧ leastTokenLength ≤ body.length ∧ ∀ part ∈ body, isPart part = true

/-- An access token: `gh`, a letter for the kind, an underscore, letters and digits. -/
def IsAccessToken (token : List Char) : Prop :=
  ∃ kind ∈ tokenKinds, IsTokenOf ['g', 'h', kind, '_'] isPlainAlphanumeric token

/-- An access token with limited rights: `github_pat_`, letters, digits and underscores. -/
def IsFinegrainedToken (token : List Char) : Prop :=
  IsTokenOf "github_pat_".toList (fun part => isPlainAlphanumeric part || part == '_') token

theorem tokenMatch_eq_some_iff :
    tokenMatch isPart (mark ++ rest) rest = some found
      ↔ leastTokenLength ≤ (rest.takeWhile isPart).length
        ∧ found = ⟨0, mark.length + (rest.takeWhile isPart).length⟩ := by
  unfold tokenMatch
  by_cases short : (rest.takeWhile isPart).length < leastTokenLength
  · simp only [if_pos short, reduceCtorEq, false_iff]
    omega
  · simp only [if_neg short, List.length_append, Nat.add_sub_cancel, Option.some.injEq,
      Nat.not_lt.mp short, true_and, eq_comm]

/-- **A token is recognised exactly where one stands**, and as much of it as there is. -/
theorem exists_tokenMatch_iff :
    (∃ found, tokenMatch isPart (mark ++ rest) rest = some found)
      ↔ ∃ token more, IsTokenOf mark isPart token ∧ mark ++ rest = token ++ more := by
  constructor
  · rintro ⟨found, matched⟩
    obtain ⟨long, _⟩ := tokenMatch_eq_some_iff.mp matched
    refine ⟨mark ++ rest.takeWhile isPart, rest.dropWhile isPart, ⟨_, rfl, long, ?_⟩, ?_⟩
    · exact fun part member => List.mem_takeWhile_imp member
    · rw [List.append_assoc, List.takeWhile_append_dropWhile]
  · rintro ⟨_, more, ⟨body, rfl, long, parts⟩, whole⟩
    rw [List.append_assoc] at whole
    refine ⟨_, tokenMatch_eq_some_iff.mpr ⟨?_, rfl⟩⟩
    rw [List.append_cancel_left whole, List.takeWhile_append_of_pos parts, List.length_append]
    omega

theorem exactly_eq_some_iff : exactly mark text = some rest ↔ text = mark ++ rest := by
  induction mark generalizing text with
  | nil => simp [exactly]
  | cons letter mark ih =>
    cases text with
    | nil => simp [exactly]
    | cons character text =>
      simp only [exactly, beq_iff_eq]
      by_cases here : letter = character
      · simp [here, ih]
      · simp [here, Ne.symm here]

/-- What the rule for access tokens recognises, part by part. -/
theorem accessToken_eq_some_iff :
    accessToken text = some found
      ↔ ∃ kind ∈ tokenKinds, ∃ rest, text = ['g', 'h', kind, '_'] ++ rest
        ∧ tokenMatch isPlainAlphanumeric text rest = some found := by
  unfold accessToken
  split
  · rename_i kind rest
    by_cases member : kind ∈ tokenKinds
    · rw [if_pos (by simpa using member)]
      constructor
      · intro matched
        exact ⟨kind, member, rest, rfl, matched⟩
      · rintro ⟨other, _, rest', whole, matched⟩
        cases whole
        exact matched
    · rw [if_neg (by simpa using member)]
      simp only [reduceCtorEq, false_iff]
      rintro ⟨other, among, rest', whole, _⟩
      cases whole
      exact member among
  · rename_i other
    simp only [reduceCtorEq, false_iff]
    rintro ⟨kind, _, rest, rfl, _⟩
    exact other kind rest rfl

/-- What the rule for tokens with limited rights recognises, part by part. -/
theorem finegrainedToken_eq_some_iff :
    finegrainedToken text = some found
      ↔ ∃ rest, text = "github_pat_".toList ++ rest
        ∧ tokenMatch (fun part => isPlainAlphanumeric part || part == '_') text rest
          = some found := by
  simp only [finegrainedToken, Option.bind_eq_bind, Option.bind_eq_some_iff, exactly_eq_some_iff]

end Tokens

/-! ### Keys and what follows them -/

section Keys

variable {text rest middle lead gap : List Char} {character : Char}

theorem isBlank_of_isQuote (quote : isQuote character = true) : isBlank character = false := by
  simp only [isQuote, Bool.or_eq_true, beq_iff_eq] at quote
  rcases quote with rfl | rfl <;> decide

theorem isQuote_of_isBlank (blank : isBlank character = true) : isQuote character = false := by
  cases quote : isQuote character with
  | false => rfl
  | true => exact absurd blank (by simp [isBlank_of_isQuote quote])

/-- At most one quote. -/
def IsOptionalQuote (text : List Char) : Prop :=
  text = [] ∨ ∃ quote, isQuote quote = true ∧ text = [quote]

/-- What stands between a key and its value: a quote, blanks, a separator, blanks, a quote. -/
inductive IsBetween : List Char → Prop
  | intro {closing gap space opening : List Char} {mark : Char} :
      IsOptionalQuote closing → (∀ character ∈ gap, isBlank character = true) →
      mark = ':' ∨ mark = '=' → (∀ character ∈ space, isBlank character = true) →
      IsOptionalQuote opening →
      IsBetween (closing ++ (gap ++ mark :: (space ++ opening)))

/-- What stands before a credential: the key, the scheme and at least one blank. -/
inductive LeadsToCredential : List Char → Prop
  | intro {key middle scheme gap : List Char} :
      IsWord "authorization".toList key → IsBetween middle →
      IsWord "token".toList scheme ∨ IsWord "bearer".toList scheme →
      gap ≠ [] → (∀ character ∈ gap, isBlank character = true) →
      LeadsToCredential (key ++ (middle ++ (scheme ++ gap)))

/-- What stands before the value of a secret key. -/
inductive LeadsToSecret : List Char → Prop
  | intro {key middle : List Char} :
      IsWord "token".toList key ∨ IsWord "password".toList key → IsBetween middle →
      LeadsToSecret (key ++ middle)

/-- A value starts here. -/
def StartsValue (text : List Char) : Prop :=
  ∃ character rest, text = character :: rest ∧ isValueChar character = true

/-- The marker stands here, in some case. -/
def StartsMarked (text : List Char) : Prop :=
  ∃ found rest, IsWord "[redacted]".toList found ∧ text = found ++ rest

/-- Neither a blank nor a quote stands here. -/
def StartsFree (text : List Char) : Prop :=
  ∀ character ∈ text.head?, isBlank character = false ∧ isQuote character = false

theorem StartsValue.free (value : StartsValue text) : StartsFree text := by
  obtain ⟨character, rest, rfl, isValue⟩ := value
  intro other member
  cases member
  simp only [isValueChar, Bool.not_eq_true', Bool.or_eq_false_iff] at isValue
  exact ⟨isValue.1.1.1.1, isValue.1.1.2⟩

theorem IsAlphabetic.free (alphabetic : IsAlphabetic character) :
    StartsFree (character :: rest) := by
  intro other member
  cases member
  exact ⟨alphabetic.apart.1, alphabetic.apart.2.1⟩

theorem dropBlanks_append (blank : ∀ character ∈ gap, isBlank character = true)
    (free : ∀ character ∈ rest.head?, isBlank character = false) :
    (gap ++ rest).dropWhile isBlank = rest := by
  rw [List.dropWhile_append_of_pos blank]
  cases rest with
  | nil => rfl
  | cons first rest => rw [List.dropWhile_cons_of_neg (by simpa using free first rfl)]

theorem afterQuote_append {quote : List Char} (optional : IsOptionalQuote quote)
    (free : ∀ character ∈ rest.head?, isQuote character = false) :
    afterQuote (quote ++ rest) = rest := by
  rcases optional with rfl | ⟨first, isFirst, rfl⟩
  · cases rest with
    | nil => rfl
    | cons first rest => simp [afterQuote, free first rfl]
  · simp [afterQuote, isFirst]

theorem exists_optionalQuote (text : List Char) :
    ∃ quote, IsOptionalQuote quote ∧ text = quote ++ afterQuote text := by
  cases text with
  | nil => exact ⟨[], Or.inl rfl, rfl⟩
  | cons first rest =>
    by_cases isFirst : isQuote first = true
    · exact ⟨[first], Or.inr ⟨first, isFirst, rfl⟩, by simp [afterQuote, isFirst]⟩
    · exact ⟨[], Or.inl rfl, by simp [afterQuote, isFirst]⟩

theorem separator_eq_some_iff :
    separator text = some rest ↔ ∃ mark, (mark = ':' ∨ mark = '=') ∧ text = mark :: rest := by
  cases text with
  | nil => simp [separator]
  | cons first text =>
    simp only [separator, Bool.or_eq_true, beq_iff_eq]
    by_cases isMark : first = ':' ∨ first = '='
    · simp only [if_pos isMark, Option.some.injEq, List.cons.injEq]
      constructor
      · rintro rfl
        exact ⟨first, isMark, rfl, rfl⟩
      · rintro ⟨_, _, _, same⟩
        exact same
    · simp only [if_neg isMark, reduceCtorEq, false_iff]
      rintro ⟨mark, among, whole⟩
      cases whole
      exact isMark among

/-- A part that is read between a key and its value has that form. -/
theorem exists_between (read : betweenKeyAndValue text = some rest) :
    ∃ middle, IsBetween middle ∧ text = middle ++ rest := by
  obtain ⟨after, separated, rfl⟩ := Option.map_eq_some_iff.mp read
  obtain ⟨mark, isMark, dropped⟩ := separator_eq_some_iff.mp separated
  obtain ⟨closing, first, whole⟩ := exists_optionalQuote text
  obtain ⟨opening, second, others⟩ := exists_optionalQuote (after.dropWhile isBlank)
  have gap : ∀ character ∈ (afterQuote text).takeWhile isBlank, isBlank character = true :=
    fun _ => List.mem_takeWhile_imp
  have space : ∀ character ∈ after.takeWhile isBlank, isBlank character = true :=
    fun _ => List.mem_takeWhile_imp
  refine ⟨_, .intro first gap isMark space second, ?_⟩
  calc text = closing ++ afterQuote text := whole
    _ = closing ++ ((afterQuote text).takeWhile isBlank ++ mark :: after) := by
      rw [← dropped, List.takeWhile_append_dropWhile]
    _ = closing ++ ((afterQuote text).takeWhile isBlank ++ mark :: (after.takeWhile isBlank
          ++ (opening ++ afterQuote (after.dropWhile isBlank)))) := by
      rw [← others, List.takeWhile_append_dropWhile]
    _ = _ := by simp only [List.append_assoc, List.cons_append]

/-- Such a part is read to its end if neither a blank nor a quote follows it. -/
theorem betweenKeyAndValue_append (between : IsBetween middle) (free : StartsFree rest) :
    betweenKeyAndValue (middle ++ rest) = some rest := by
  obtain ⟨first, blank, isMark, blank', second⟩ := between
  rename_i closing gap space opening mark
  have markFree : isBlank mark = false ∧ isQuote mark = false := by
    rcases isMark with rfl | rfl <;> decide
  have unquoted : ∀ character ∈ (gap ++ mark :: (space ++ (opening ++ rest))).head?,
      isQuote character = false := by
    intro character member
    cases gap with
    | nil =>
      cases member
      exact markFree.2
    | cons head gap =>
      cases member
      exact isQuote_of_isBlank (blank _ List.mem_cons_self)
  have unblank : ∀ character ∈ (opening ++ rest).head?, isBlank character = false := by
    rcases second with rfl | ⟨quote, isQuote, rfl⟩
    · exact fun character member => (free character member).1
    · rintro character member
      cases member
      exact isBlank_of_isQuote isQuote
  unfold betweenKeyAndValue
  simp only [List.append_assoc, List.cons_append]
  rw [afterQuote_append first unquoted, dropBlanks_append blank (by rintro _ ⟨⟩; exact markFree.1),
    separator_eq_some_iff.mpr ⟨mark, isMark, rfl⟩, Option.map_some,
    dropBlanks_append blank' unblank, afterQuote_append second fun character member =>
      (free character member).2]

theorem exists_of_blanks (read : blanks text = some rest) :
    ∃ gap, gap ≠ [] ∧ (∀ character ∈ gap, isBlank character = true) ∧ text = gap ++ rest := by
  have whole := List.takeWhile_append_dropWhile (p := isBlank) (l := text)
  simp only [blanks, Option.ite_none_right_eq_some, Option.some.injEq] at read
  obtain ⟨shorter, rfl⟩ := read
  refine ⟨text.takeWhile isBlank, ?_, fun _ => List.mem_takeWhile_imp, whole.symm⟩
  intro none
  rw [none, List.nil_append] at whole
  rw [whole] at shorter
  exact absurd shorter (Nat.lt_irrefl _)

theorem blanks_append (filled : gap ≠ []) (blank : ∀ character ∈ gap, isBlank character = true)
    (free : StartsFree rest) : blanks (gap ++ rest) = some rest := by
  have dropped := dropBlanks_append blank fun character member => (free character member).1
  have shorter : rest.length < (gap ++ rest).length := by
    rw [List.length_append]
    have := List.length_pos_iff.mpr filled
    omega
  simp only [blanks, dropped, if_pos shorter]

/-- The match of a value behind a lead. -/
def matchBehind (lead rest : List Char) : Match :=
  ⟨lead.length, lead.length + (rest.takeWhile isValueChar).length⟩

theorem valueMatch_eq_some_iff {found : Match} :
    valueMatch (lead ++ rest) rest = some found
      ↔ StartsValue rest ∧ found = matchBehind lead rest := by
  have here : (rest.takeWhile isValueChar).isEmpty = false ↔ StartsValue rest := by
    cases rest with
    | nil => simp [StartsValue]
    | cons first rest => by_cases value : isValueChar first = true <;> simp [StartsValue, value]
  simp only [valueMatch, matchBehind, List.length_append, Nat.add_sub_cancel, ← here]
  by_cases empty : (rest.takeWhile isValueChar).isEmpty = true
  · rw [if_pos empty]
    simp only [empty, reduceCtorEq, Bool.true_eq_false, false_and]
  · rw [if_neg empty, Option.some.injEq, and_iff_right (by simpa using empty)]
    exact eq_comm

/-- **The rule for credentials** recognises the values behind what leads to a credential. -/
theorem authorization_eq_some_iff {found : Match} :
    authorization text = some found
      ↔ ∃ lead rest, text = lead ++ rest ∧ LeadsToCredential lead ∧ StartsValue rest
        ∧ found = matchBehind lead rest := by
  simp only [authorization, Option.bind_eq_bind, Option.bind_eq_some_iff]
  constructor
  · rintro ⟨afterKey, isKey, scheme, isBetween, afterScheme, isScheme, rest, isGap, matched⟩
    obtain ⟨key, keyed, rfl⟩ := (wordInAnyCase_eq_some_iff (by decide)).mp isKey
    obtain ⟨middle, between, rfl⟩ := exists_between isBetween
    obtain ⟨name, named, rfl⟩ :=
      (eitherWord_eq_some_iff (by decide) (by decide) (by decide)).mp isScheme
    obtain ⟨gap, filled, blank, rfl⟩ := exists_of_blanks isGap
    have whole : key ++ (middle ++ (name ++ (gap ++ rest)))
        = (key ++ (middle ++ (name ++ gap))) ++ rest := by simp only [List.append_assoc]
    rw [whole, valueMatch_eq_some_iff] at matched
    exact ⟨_, rest, whole, .intro keyed between named filled blank, matched⟩
  · rintro ⟨_, rest, rfl, ⟨keyed, between, named, filled, blank⟩, value, rfl⟩
    rename_i key middle name gap
    have letters : StartsFree (name ++ (gap ++ rest)) := by
      rcases named with named | named
      all_goals
        cases name with
        | nil => cases named
        | cons first name =>
          exact (named.alphabetic (by decide) first List.mem_cons_self).free
    have whole : (key ++ (middle ++ (name ++ gap))) ++ rest
        = key ++ (middle ++ (name ++ (gap ++ rest))) := by simp only [List.append_assoc]
    refine ⟨middle ++ (name ++ (gap ++ rest)), ?_, name ++ (gap ++ rest), ?_, gap ++ rest, ?_, rest,
      blanks_append filled blank value.free, valueMatch_eq_some_iff.mpr ⟨value, rfl⟩⟩
    · exact (wordInAnyCase_eq_some_iff (by decide)).mpr ⟨key, keyed, whole⟩
    · exact betweenKeyAndValue_append between letters
    · exact (eitherWord_eq_some_iff (by decide) (by decide) (by decide)).mpr ⟨name, named, rfl⟩

/-- **The rule for secret keys** recognises the values behind them unless they are marked. -/
theorem pair_eq_some_iff {found : Match} :
    pair text = some found
      ↔ ∃ lead rest, text = lead ++ rest ∧ LeadsToSecret lead
        ∧ (StartsValue rest ∧ ¬ StartsMarked rest) ∧ found = matchBehind lead rest := by
  have marked : ∀ rest, (wordInAnyCase "[redacted]".toList rest).isSome ↔ StartsMarked rest := by
    intro rest
    rw [Option.isSome_iff_exists]
    constructor
    · rintro ⟨more, read⟩
      obtain ⟨found, same, whole⟩ := (wordInAnyCase_eq_some_iff (by decide)).mp read
      exact ⟨found, more, same, whole⟩
    · rintro ⟨found, more, same, whole⟩
      exact ⟨more, (wordInAnyCase_eq_some_iff (by decide)).mpr ⟨found, same, whole⟩⟩
  simp only [pair, Option.bind_eq_bind, Option.bind_eq_some_iff, marked,
    Option.ite_none_left_eq_some]
  constructor
  · rintro ⟨afterKey, isKey, rest, isBetween, unmarked, matched⟩
    obtain ⟨key, keyed, rfl⟩ :=
      (eitherWord_eq_some_iff (by decide) (by decide) (by decide)).mp isKey
    obtain ⟨middle, between, rfl⟩ := exists_between isBetween
    rw [← List.append_assoc, valueMatch_eq_some_iff] at matched
    exact ⟨_, rest, (List.append_assoc ..).symm, .intro keyed between, ⟨matched.1, unmarked⟩,
      matched.2⟩
  · rintro ⟨_, rest, rfl, ⟨keyed, between⟩, ⟨value, unmarked⟩, rfl⟩
    rename_i key middle
    refine ⟨middle ++ rest, ?_, rest, betweenKeyAndValue_append between value.free, unmarked,
      valueMatch_eq_some_iff.mpr ⟨value, rfl⟩⟩
    exact (eitherWord_eq_some_iff (by decide) (by decide) (by decide)).mpr
      ⟨key, keyed, List.append_assoc ..⟩

end Keys

end AssetFetch.Redaction
