/-
**No secret is left in a log line.**

Four rules pass through a text one after the other, and each reads what the one before has left.
Markers join parts that were apart before, but no secret and nothing that leads to one goes across a
bracket, so that what a rule has hidden stays hidden.

* `Clear`, `Unstarted`: no word starts inside another, or inside a part of a text;
* `Plain`: forms of text that neither go across a marker nor start inside one;
* `not_infix_replace_self`, `not_infix_replace`: a pass leaves no token of its own kind, and brings
  back none of another;
* `marked_of_replace`: behind what leads to a secret a pass leaves its marker;
* `redact_hides_secrets`: a redacted text has no token and no value of a secret key in it, and its
  credentials are markers.
-/

import AssetFetch.Proofs.Redaction.Hiding

namespace AssetFetch.Redaction

open AssetFetch.Text

/-! ### Words inside words -/

section Words

variable {word letters found segment next rest : List Char}

/-- No word starts at a letter of another word. -/
def Clear (word letters : List Char) : Prop :=
  ∀ place < letters.length,
    (letters.drop place).take word.length ≠ word.take (letters.length - place)

instance (word letters : List Char) : Decidable (Clear word letters) := by
  unfold Clear; infer_instance

/-- A word starts nowhere in a part of a text, whatever follows the part. -/
structure Unstarted (word segment : List Char) : Prop where
  apart : ∀ {gone left rest found more : List Char}, IsWord word found → segment = gone ++ left →
    left ≠ [] → left ++ rest ≠ found ++ more

theorem unstarted_of_clear (clear : Clear word letters) (same : IsWord letters segment) :
    Unstarted word segment := by
  refine ⟨fun {gone left rest found more} isWord split filled place => ?_⟩
  have size : letters.length = gone.length + left.length := by
    rw [← same.length, split, List.length_append]
  have behind : IsWord (letters.drop gone.length) left := by
    rw [← same, split, List.map_append, List.drop_left' (List.length_map ..)]
    rfl
  have inside := List.length_pos_iff.mpr filled
  refine clear gone.length (by omega) ?_
  rw [behind.agree isWord place, List.length_drop]

/-- A word starts nowhere among characters that are no letters. -/
theorem unstarted_of_not_alphabetic (letters : IsSmall word) (filled : word ≠ [])
    (none : ∀ character ∈ segment, ¬ IsAlphabetic character) : Unstarted word segment := by
  refine ⟨?_⟩
  rintro gone left rest found more isWord rfl filled' place
  cases found with
  | nil => exact filled isWord.symm
  | cons first found =>
    cases left with
    | nil => exact filled' rfl
    | cons head left =>
      obtain ⟨rfl, _⟩ := List.cons.inj place
      exact none head (by simp) (isWord.alphabetic letters head List.mem_cons_self)

theorem Unstarted.append (first : Unstarted word segment) (second : Unstarted word next) :
    Unstarted word (segment ++ next) := by
  refine ⟨fun {gone left rest found more} isWord split filled => ?_⟩
  rcases List.append_eq_append_iff.mp split with ⟨others, _, inside⟩ | ⟨others, inside, rfl⟩
  · exact second.apart isWord inside filled
  · by_cases none : others = []
    · subst none
      exact second.apart isWord (List.nil_append _).symm filled
    · rw [List.append_assoc]
      exact first.apart isWord inside none

/-- The marker in any case. -/
def markerLetters : List Char := "[redacted]".toList

theorem isWord_marker : IsWord markerLetters marker := by
  show marker.map letterOf = markerLetters
  decide +kernel

theorem eq_bracket_of_letterOf {character : Char} (same : letterOf character = '[') :
    character = '[' := by
  unfold letterOf at same
  split at same
  · cases same
  split at same
  · cases same
  split at same
  · cases same
  have number := congrArg Char.toNat same
  rw [toNat_toLower, show '['.toNat = 91 from rfl] at number
  apply Char.toNat_inj.mp
  rw [show '['.toNat = 91 from rfl]
  split at number <;> omega

theorem head?_of_isMarked (same : IsWord markerLetters found) : found.head? = some '[' := by
  cases found with
  | nil => cases same
  | cons first found => rw [List.head?_cons, eq_bracket_of_letterOf (List.cons.inj same).1]

theorem startsMarked_of_marker (marked : marker <+: rest) : StartsMarked rest := by
  obtain ⟨more, rfl⟩ := marked
  exact ⟨marker, more, isWord_marker, rfl⟩

end Words

/-! ### Plain forms -/

section Plain

variable {form : List Char → Prop} {part gone left rest more : List Char}

/-- A form of text that holds no bracket and does not start inside a marker in any case. -/
structure Plain (form : List Char → Prop) : Prop where
  unbracketed : ∀ {part : List Char}, form part → '[' ∉ part
  unmarked : ∀ {part found gone left rest more : List Char}, form part →
    IsWord markerLetters found → found = gone ++ left → left ≠ [] → left ++ rest ≠ part ++ more

theorem Plain.ne_nil (plain : Plain form) (holds : form part) : part ≠ [] := by
  rintro rfl
  have same : marker ++ [] = [] ++ marker := List.append_nil marker
  exact plain.unmarked holds isWord_marker (List.nil_append marker).symm (by decide) same

theorem Plain.not_marker (plain : Plain form) (holds : form part) :
    ¬ marker <+: part ++ rest := by
  rintro ⟨more, same⟩
  exact plain.unmarked holds isWord_marker (List.nil_append marker).symm (by decide) same

/-- A form is plain if it holds no bracket and starts with words that start nowhere in a marker. -/
theorem plain_of_words (words : List (List Char))
    (unbracketed : ∀ {part : List Char}, form part → '[' ∉ part)
    (starts : ∀ {part : List Char}, form part →
      ∃ word ∈ words, ∃ key others, IsWord word key ∧ part = key ++ others)
    (clear : ∀ word ∈ words, Clear word markerLetters) : Plain form where
  unbracketed := unbracketed
  unmarked := by
    intro part found gone left rest more holds marked split filled same
    obtain ⟨word, member, key, others, isKey, rfl⟩ := starts holds
    rw [List.append_assoc] at same
    exact (unstarted_of_clear (clear word member) marked).apart isKey split filled same

end Plain

/-! ### Tokens -/

section Tokens

variable {rule : Rule} {form : List Char → Prop} {text token : List Char}

/-- **A pass brings back no token**: what it leaves has those of a plain form that the text had. -/
theorem not_infix_replace (orderly : Orderly rule) (plain : Plain form)
    (free : ∀ token, form token → ¬ token <:+: text) (holds : form token) :
    ¬ token <:+: replace rule 0 text := by
  rintro ⟨front, behind, whole⟩
  rw [List.append_assoc] at whole
  rcases aligned_of_append orderly whole.symm with
    ⟨early, before, rfl, aligned⟩ | ⟨gone, left, rest, split, filled, same⟩
  · obtain ⟨rest, rfl, _⟩ := aligned.append orderly (plain.unbracketed holds)
    exact free token holds ⟨early, rest, List.append_assoc ..⟩
  · exact plain.unmarked holds isWord_marker split filled same.symm

/-- **A pass leaves no token of its own kind**, if it keeps nothing before a token. -/
theorem not_infix_replace_self (orderly : Orderly rule) (plain : Plain form)
    (whole : ∀ {text : List Char} {found : Match}, rule text = some found → found.kept = 0)
    (fires : ∀ {token rest : List Char}, form token → ∃ found, rule (token ++ rest) = some found)
    (holds : form token) : ¬ token <:+: replace rule 0 text := by
  rintro ⟨front, behind, split⟩
  rw [List.append_assoc] at split
  rcases aligned_of_append orderly split.symm with
    ⟨early, before, rfl, aligned⟩ | ⟨gone, left, rest, split, filled, same⟩
  · obtain ⟨rest, rfl, _⟩ := aligned.append orderly (plain.unbracketed holds)
    obtain ⟨found, matched⟩ : ∃ found, rule (token ++ rest) = some found := fires holds
    rcases aligned.visited_or_held with same | ⟨front, back, _, _, _, filled, _, matched', kept⟩
    · rcases orderly.replace_cases (token ++ rest) with
        none | ⟨_, _, _, none, _⟩ | ⟨lead, secret, others, _, _, _, matched', replaced⟩
      · exact plain.ne_nil holds (List.append_eq_nil_iff.mp none).1
      · rw [matched] at none
        cases none
      · obtain rfl : lead = [] := List.length_eq_zero_iff.mp (whole matched')
        rw [replaced, List.nil_append] at same
        exact plain.not_marker holds ⟨_, same.symm⟩
    · rw [whole matched', List.length_append] at kept
      have size := List.length_pos_iff.mpr filled
      omega
  · exact plain.unmarked holds isWord_marker split filled same.symm

/-- The rules for tokens are orderly. -/
theorem exists_shape_of_tokenMatch {mark rest : List Char} {isPart : Char → Bool} {found : Match}
    (filled : mark ≠ []) (matched : tokenMatch isPart (mark ++ rest) rest = some found) :
    ∃ lead secret others, mark ++ rest = lead ++ (secret ++ others) ∧ secret ≠ [] ∧ '[' ∉ lead
      ∧ found = ⟨lead.length, lead.length + secret.length⟩ := by
  obtain ⟨_, rfl⟩ := tokenMatch_eq_some_iff.mp matched
  refine ⟨[], mark ++ rest.takeWhile isPart, rest.dropWhile isPart, ?_, ?_, by simp, ?_⟩
  · rw [List.nil_append, List.append_assoc, List.takeWhile_append_dropWhile]
  · simp [filled]
  · simp

theorem orderly_accessToken : Orderly accessToken where
  shape matched := by
    obtain ⟨kind, _, rest, rfl, matched⟩ := accessToken_eq_some_iff.mp matched
    exact exists_shape_of_tokenMatch (by simp) matched

theorem orderly_finegrainedToken : Orderly finegrainedToken where
  shape matched := by
    obtain ⟨rest, rfl, matched⟩ := finegrainedToken_eq_some_iff.mp matched
    exact exists_shape_of_tokenMatch (by decide) matched

/-- Parts of tokens are no brackets. -/
theorem ne_bracket_of_isPlainAlphanumeric {part : Char} (plain : isPlainAlphanumeric part = true) :
    part ≠ '[' := by
  rintro rfl
  exact absurd plain (by decide)

theorem plain_accessToken : Plain IsAccessToken := by
  refine plain_of_words [['g']] ?_ ?_ (by decide)
  · rintro _ ⟨kind, among, body, rfl, _, parts⟩ member
    rcases List.mem_append.mp member with inMark | inBody
    · obtain rfl : '[' = kind := by simpa using inMark
      exact absurd among (by decide)
    · exact ne_bracket_of_isPlainAlphanumeric (parts _ inBody) rfl
  · rintro _ ⟨kind, _, body, rfl, _⟩
    exact ⟨['g'], List.mem_singleton_self _, ['g'], 'h' :: kind :: '_' :: body, rfl, rfl⟩

theorem plain_finegrainedToken : Plain IsFinegrainedToken := by
  refine plain_of_words [['g']] ?_ ?_ (by decide)
  · rintro _ ⟨body, rfl, _, parts⟩ member
    rcases List.mem_append.mp member with inMark | inBody
    · exact absurd inMark (by decide)
    · have part := parts _ inBody
      exact absurd part (by decide)
  · rintro _ ⟨body, rfl, _⟩
    exact ⟨['g'], List.mem_singleton_self _, ['g'], "ithub_pat_".toList ++ body, rfl, rfl⟩

theorem exists_accessToken {rest : List Char} (isToken : IsAccessToken token) :
    ∃ found, accessToken (token ++ rest) = some found := by
  obtain ⟨kind, among, body, rfl, long, parts⟩ := isToken
  obtain ⟨found, matched⟩ := exists_tokenMatch_iff.mpr
    ⟨['g', 'h', kind, '_'] ++ body, rest, ⟨body, rfl, long, parts⟩, (List.append_assoc ..).symm⟩
  exact ⟨found, accessToken_eq_some_iff.mpr
    ⟨kind, among, body ++ rest, List.append_assoc .., by rwa [List.append_assoc]⟩⟩

theorem exists_finegrainedToken {rest : List Char} (isToken : IsFinegrainedToken token) :
    ∃ found, finegrainedToken (token ++ rest) = some found := by
  obtain ⟨body, rfl, long, parts⟩ := isToken
  obtain ⟨found, matched⟩ := exists_tokenMatch_iff.mpr
    ⟨"github_pat_".toList ++ body, rest, ⟨body, rfl, long, parts⟩, (List.append_assoc ..).symm⟩
  exact ⟨found, finegrainedToken_eq_some_iff.mpr
    ⟨body ++ rest, List.append_assoc .., by rwa [List.append_assoc]⟩⟩

theorem kept_accessToken {found : Match} (matched : accessToken text = some found) :
    found.kept = 0 := by
  obtain ⟨kind, _, rest, rfl, matched⟩ := accessToken_eq_some_iff.mp matched
  rw [(tokenMatch_eq_some_iff.mp matched).2]

theorem kept_finegrainedToken {found : Match} (matched : finegrainedToken text = some found) :
    found.kept = 0 := by
  obtain ⟨rest, rfl, matched⟩ := finegrainedToken_eq_some_iff.mp matched
  rw [(tokenMatch_eq_some_iff.mp matched).2]

end Tokens

/-! ### Values behind keys -/

section Keys

variable {rule : Rule} {lead : List Char → Prop}
  {text front part rest before after middle back others more : List Char}

/-- **Behind a lead a pass leaves its marker**, or nothing that the rule would take. The rule takes
what `next` says behind a lead, and no lead starts inside another one that it has taken. -/
theorem marked_of_replace (next : List Char → Prop) (orderly : Orderly rule) (plain : Plain lead)
    (fires : ∀ {part rest : List Char}, lead part → next rest →
      ∃ found, rule (part ++ rest) = some found ∧ found.kept = part.length)
    (once : ∀ {front back others part rest : List Char} {found : Match},
      rule (front ++ (back ++ others)) = some found → found.kept = (front ++ back).length →
      front ≠ [] → back ≠ [] → lead part → back ++ others ≠ part ++ rest)
    (carried : ∀ {before after : List Char}, Aligned rule before after → next after →
      ¬ marker <+: after → next before)
    (isLead : lead part) (isNext : next rest)
    (whole : replace rule 0 text = front ++ (part ++ rest)) : marker <+: rest := by
  by_contra unmarked
  rcases aligned_of_append orderly whole with
    ⟨early, before, rfl, aligned⟩ | ⟨gone, left, behind, split, filled, same⟩
  · obtain ⟨behind, rfl, aligned' | marked⟩ := aligned.append orderly (plain.unbracketed isLead)
    · obtain ⟨found, matched, kept⟩ := fires isLead (carried aligned' isNext unmarked)
      rcases aligned.visited_or_held with
        same | ⟨front, back, others, found', start, filled, filled', matched', kept'⟩
      · rcases orderly.replace_cases (part ++ behind) with
          none | ⟨_, _, _, none, _⟩ | ⟨taken, secret, others, split, _, _, matched', replaced⟩
        · exact plain.ne_nil isLead (List.append_eq_nil_iff.mp none).1
        · rw [matched] at none
          cases none
        · rw [matched] at matched'
          cases matched'
          obtain ⟨rfl, _⟩ := List.append_inj split kept.symm
          rw [replaced] at same
          exact unmarked ⟨_, (List.append_cancel_left same).symm⟩
      · exact once matched' kept' filled filled' isLead start.symm
    · exact unmarked marked
  · exact plain.unmarked isLead isWord_marker split filled same.symm

/-! #### The forms of leads -/

theorem IsBetween.not_alphabetic (between : IsBetween middle) :
    ∀ character ∈ middle, ¬ IsAlphabetic character ∧ character ≠ '[' := by
  have quote : ∀ {text : List Char} {character : Char}, IsOptionalQuote text → character ∈ text →
      ¬ IsAlphabetic character ∧ character ≠ '[' := by
    rintro text character (rfl | ⟨first, isFirst, rfl⟩) member
    · cases member
    · rw [List.mem_singleton.mp member]
      constructor
      · intro alphabetic
        rw [alphabetic.apart.2.1] at isFirst
        cases isFirst
      · rintro rfl
        exact absurd isFirst (by decide)
  have blank : ∀ {character : Char}, isBlank character = true →
      ¬ IsAlphabetic character ∧ character ≠ '[' := by
    intro character isBlank
    constructor
    · intro alphabetic
      rw [alphabetic.apart.1] at isBlank
      cases isBlank
    · rintro rfl
      exact absurd isBlank (by decide)
  obtain ⟨first, gap, isMark, space, second⟩ := between
  intro character member
  simp only [List.mem_append, List.mem_cons] at member
  rcases member with member | member | rfl | member | member
  · exact quote first member
  · exact blank (gap character member)
  · constructor
    · intro alphabetic
      rcases isMark with rfl | rfl
      · exact alphabetic.apart.2.2.1 rfl
      · exact alphabetic.apart.2.2.2.1 rfl
    · rcases isMark with rfl | rfl <;> decide
  · exact blank (space character member)
  · exact quote second member

/-- A word is its first letter and the others. -/
theorem IsWord.exists_cons {word found : List Char} (same : IsWord word found)
    (filled : word ≠ []) : ∃ first others, found = first :: others ∧ IsWord word.tail others := by
  cases found with
  | nil => exact absurd same.symm filled
  | cons first others =>
    refine ⟨first, others, rfl, ?_⟩
    rw [← same]
    rfl

theorem IsWord.unbracketed {word found : List Char} (same : IsWord word found)
    (letters : IsSmall word) : '[' ∉ found :=
  fun member => (same.alphabetic letters _ member).apart.2.2.2.2 rfl

theorem unbracketed_of_blank (blank : ∀ character ∈ text, isBlank character = true) :
    '[' ∉ text :=
  fun member => absurd (blank _ member) (by decide)

theorem not_alphabetic_of_blank (blank : ∀ character ∈ text, isBlank character = true) :
    ∀ character ∈ text, ¬ IsAlphabetic character := by
  intro character member alphabetic
  have := blank character member
  rw [alphabetic.apart.1] at this
  cases this

/-- What leads to a secret is a letter and a part in which no key starts. -/
theorem LeadsToSecret.exists_cons (isLead : LeadsToSecret part) :
    ∃ first others, part = first :: others ∧ Unstarted "token".toList others
      ∧ Unstarted "password".toList others := by
  obtain ⟨isKey, between⟩ := isLead
  rename_i key middle
  have none := fun character member => (between.not_alphabetic character member).1
  have free : ∀ {word : List Char}, IsSmall word → word ≠ [] → Unstarted word middle :=
    fun letters filled => unstarted_of_not_alphabetic letters filled none
  rcases isKey with isKey | isKey
  all_goals
    obtain ⟨first, others, rfl, same⟩ := isKey.exists_cons (by decide)
    refine ⟨first, others ++ middle, rfl, ?_, ?_⟩
    all_goals exact (unstarted_of_clear (by decide) same).append (free (by decide) (by decide))

/-- What leads to a credential is a letter and a part in which the key does not start. -/
theorem LeadsToCredential.exists_cons (isLead : LeadsToCredential part) :
    ∃ first others, part = first :: others ∧ Unstarted "authorization".toList others := by
  obtain ⟨isKey, between, isScheme, filled, blank⟩ := isLead
  rename_i key middle scheme gap
  have none := fun character member => (between.not_alphabetic character member).1
  obtain ⟨first, others, rfl, same⟩ := isKey.exists_cons (by decide)
  have named : Unstarted "authorization".toList scheme := by
    rcases isScheme with isScheme | isScheme
    all_goals exact unstarted_of_clear (by decide) isScheme
  refine ⟨first, others ++ (middle ++ (scheme ++ gap)), rfl, ?_⟩
  refine (unstarted_of_clear (by decide) same).append (.append ?_ (named.append ?_))
  · exact unstarted_of_not_alphabetic (by decide) (by decide) none
  · exact unstarted_of_not_alphabetic (by decide) (by decide) (not_alphabetic_of_blank blank)

theorem LeadsToSecret.exists_key (isLead : LeadsToSecret part) :
    ∃ word ∈ ["token".toList, "password".toList], ∃ key others, IsWord word key
      ∧ part = key ++ others := by
  obtain ⟨isKey | isKey, _⟩ := isLead
  · exact ⟨_, by simp, _, _, isKey, rfl⟩
  · exact ⟨_, by simp, _, _, isKey, rfl⟩

theorem LeadsToCredential.exists_key (isLead : LeadsToCredential part) :
    ∃ word ∈ ["authorization".toList], ∃ key others, IsWord word key ∧ part = key ++ others := by
  obtain ⟨isKey, _⟩ := isLead
  exact ⟨_, by simp, _, _, isKey, rfl⟩

theorem plain_leadsToSecret : Plain LeadsToSecret := by
  refine plain_of_words _ ?_ LeadsToSecret.exists_key (by decide)
  rintro _ ⟨isKey, between⟩ member
  rcases List.mem_append.mp member with inKey | inMiddle
  · rcases isKey with isKey | isKey
    all_goals exact isKey.unbracketed (by decide) inKey
  · exact (between.not_alphabetic _ inMiddle).2 rfl

theorem plain_leadsToCredential : Plain LeadsToCredential := by
  refine plain_of_words _ ?_ LeadsToCredential.exists_key (by decide)
  rintro _ ⟨isKey, between, isScheme, _, blank⟩ member
  simp only [List.mem_append] at member
  rcases member with inKey | inMiddle | inScheme | inGap
  · exact isKey.unbracketed (by decide) inKey
  · exact (between.not_alphabetic _ inMiddle).2 rfl
  · rcases isScheme with isScheme | isScheme
    all_goals exact isScheme.unbracketed (by decide) inScheme
  · exact unbracketed_of_blank blank inGap

/-! #### The rules for keys -/

/-- A rule that recognises values behind leads is orderly. -/
theorem orderly_of_leads (plain : Plain lead)
    (shape : ∀ {text : List Char} {found : Match}, rule text = some found →
      ∃ part rest, text = part ++ rest ∧ lead part ∧ StartsValue rest
        ∧ found = matchBehind part rest) : Orderly rule where
  shape matched := by
    obtain ⟨part, rest, rfl, isLead, ⟨first, others, rfl, isValue⟩, rfl⟩ := shape matched
    refine ⟨part, (first :: others).takeWhile isValueChar, (first :: others).dropWhile isValueChar,
      ?_, ?_, plain.unbracketed isLead, rfl⟩
    · rw [List.takeWhile_append_dropWhile]
    · simp [isValue]

/-- No lead starts inside one that such a rule has taken. -/
theorem once_of_leads {found : Match} {words : List (List Char)}
    (shape : ∀ {text : List Char} {found : Match}, rule text = some found →
      ∃ part rest, text = part ++ rest ∧ lead part ∧ StartsValue rest
        ∧ found = matchBehind part rest)
    (starts : ∀ {part : List Char}, lead part →
      ∃ word ∈ words, ∃ key others, IsWord word key ∧ part = key ++ others)
    (unstarted : ∀ {part : List Char}, lead part →
      ∃ first others, part = first :: others ∧ ∀ word ∈ words, Unstarted word others)
    (matched : rule (front ++ (back ++ others)) = some found)
    (kept : found.kept = (front ++ back).length) (filled : front ≠ []) (filled' : back ≠ [])
    (isLead : lead part) : back ++ others ≠ part ++ rest := by
  obtain ⟨taken, behind, split, isTaken, _, rfl⟩ := shape matched
  rw [← List.append_assoc] at split
  obtain ⟨rfl, _⟩ := List.append_inj split kept.symm
  obtain ⟨first, inner, whole, free⟩ := unstarted isTaken
  obtain ⟨word, member, key, more, isKey, rfl⟩ := starts isLead
  cases front with
  | nil => exact absurd rfl filled
  | cons head front =>
    obtain ⟨_, rfl⟩ := List.cons.inj whole
    intro same
    rw [List.append_assoc] at same
    exact (free word member).apart isKey rfl filled' same

theorem StartsValue.of_head? (value : StartsValue after) (same : before.head? = after.head?) :
    StartsValue before := by
  obtain ⟨first, others, rfl, isValue⟩ := value
  cases before with
  | nil => cases same
  | cons head before =>
    cases same
    exact ⟨first, before, rfl, isValue⟩

theorem orderly_authorization : Orderly authorization :=
  orderly_of_leads plain_leadsToCredential authorization_eq_some_iff.mp

theorem exists_lead_of_pair {found : Match} (matched : pair text = some found) :
    ∃ part rest, text = part ++ rest ∧ LeadsToSecret part ∧ StartsValue rest
      ∧ found = matchBehind part rest := by
  obtain ⟨part, rest, whole, isLead, ⟨value, _⟩, same⟩ := pair_eq_some_iff.mp matched
  exact ⟨part, rest, whole, isLead, value, same⟩

theorem orderly_pair : Orderly pair :=
  orderly_of_leads plain_leadsToSecret exists_lead_of_pair

/-- No key is recognised inside a marker. -/
theorem pair_of_marked {found gone left : List Char} (marked : IsWord markerLetters found)
    (split : found = gone ++ left) (filled : left ≠ []) : pair (left ++ rest) = none := by
  cases matched : pair (left ++ rest) with
  | none => rfl
  | some found =>
    obtain ⟨part, others, same, isLead, _⟩ := exists_lead_of_pair matched
    exact absurd same (plain_leadsToSecret.unmarked isLead marked split filled)

/-- **The rule for secret keys passes over markers.** -/
theorem Aligned.of_marked {found : List Char} (aligned : Aligned pair (found ++ rest) after)
    (marked : IsWord markerLetters found) : after = found ++ replace pair 0 rest :=
  aligned.of_bracket (fun _ _ _ split filled => pair_of_marked marked split filled)
    (head?_of_isMarked marked)

/-- **Behind what leads to a credential** the rule for credentials leaves its marker or no value. -/
theorem marked_of_replace_authorization (isLead : LeadsToCredential part)
    (value : StartsValue rest)
    (whole : replace authorization 0 text = front ++ (part ++ rest)) : marker <+: rest := by
  refine marked_of_replace StartsValue orderly_authorization plain_leadsToCredential
    (fun isLead value => ?_) (once_of_leads authorization_eq_some_iff.mp
      LeadsToCredential.exists_key fun isLead => ?_)
    (fun aligned value unmarked => ?_) isLead value whole
  · exact ⟨_, authorization_eq_some_iff.mpr ⟨_, _, rfl, isLead, value, rfl⟩, rfl⟩
  · obtain ⟨first, others, split, free⟩ := isLead.exists_cons
    exact ⟨first, others, split, by simpa using free⟩
  · exact value.of_head? (aligned.head orderly_authorization unmarked)

/-- **Behind a secret key** the rule for secret keys leaves a marker or no value. -/
theorem marked_of_replace_pair (isLead : LeadsToSecret part) (value : StartsValue rest)
    (whole : replace pair 0 text = front ++ (part ++ rest)) : StartsMarked rest := by
  by_contra unmarked
  refine unmarked (startsMarked_of_marker (marked_of_replace
    (fun rest => StartsValue rest ∧ ¬ StartsMarked rest) orderly_pair plain_leadsToSecret
    (fun isLead next => ?_) (once_of_leads exists_lead_of_pair LeadsToSecret.exists_key
      fun isLead => ?_) (fun aligned next unmarked => ⟨?_, ?_⟩) isLead ⟨value, unmarked⟩ whole))
  · exact ⟨_, pair_eq_some_iff.mpr ⟨_, _, rfl, isLead, next, rfl⟩, rfl⟩
  · obtain ⟨first, others, split, one, two⟩ := isLead.exists_cons
    exact ⟨first, others, split, by simpa using ⟨one, two⟩⟩
  · exact next.1.of_head? (aligned.head orderly_pair unmarked)
  · rintro ⟨found, behind, marked, rfl⟩
    exact next.2 ⟨found, _, marked, aligned.of_marked marked⟩

/-- **The rule for secret keys brings back no credential**: behind what leads to one stands a marker
if one stood behind every such place before. -/
theorem marked_after_pair
    (hidden : ∀ {front part rest : List Char}, text = front ++ (part ++ rest) →
      LeadsToCredential part → StartsValue rest → marker <+: rest)
    (isLead : LeadsToCredential part) (value : StartsValue rest)
    (whole : replace pair 0 text = front ++ (part ++ rest)) : marker <+: rest := by
  by_contra unmarked
  rcases aligned_of_append orderly_pair whole with
    ⟨early, before, rfl, aligned⟩ | ⟨gone, left, behind, split, filled, same⟩
  · obtain ⟨behind, rfl, aligned' | marked⟩ :=
      aligned.append orderly_pair (plain_leadsToCredential.unbracketed isLead)
    · obtain ⟨others, rfl⟩ := hidden rfl isLead
        (value.of_head? (aligned'.head orderly_pair unmarked))
      exact unmarked ⟨_, (aligned'.of_marked isWord_marker).symm⟩
    · exact unmarked marked
  · exact plain_leadsToCredential.unmarked isLead isWord_marker split filled same.symm

end Keys

/-! ### The whole -/

section Whole

/-- A key, a separator and a value other than the marker stand in a text. -/
def HasSecretPair (text : List Char) : Prop :=
  ∃ front lead value rest, text = front ++ (lead ++ (value ++ rest)) ∧ LeadsToSecret lead
    ∧ value ≠ [] ∧ (∀ part ∈ value, isValueChar part = true) ∧ ¬ StartsMarked (value ++ rest)

/-- A credential stands in a text: the longest value behind what leads to one. -/
def HasCredential (text credential : List Char) : Prop :=
  ∃ front lead rest, text = front ++ (lead ++ (credential ++ rest)) ∧ LeadsToCredential lead
    ∧ credential ≠ [] ∧ (∀ part ∈ credential, isValueChar part = true)
    ∧ ∀ next ∈ rest.head?, isValueChar next = false

theorem startsValue_append {value rest : List Char} (filled : value ≠ [])
    (parts : ∀ part ∈ value, isValueChar part = true) : StartsValue (value ++ rest) := by
  cases value with
  | nil => exact absurd rfl filled
  | cons first value => exact ⟨first, value ++ rest, rfl, parts first List.mem_cons_self⟩

/-- The value that a marker starts with is the marker without its closing bracket. -/
theorem eq_of_starts_marked {value rest : List Char} (marked : marker <+: value ++ rest)
    (parts : ∀ part ∈ value, isValueChar part = true)
    (whole : ∀ next ∈ rest.head?, isValueChar next = false) : value = "[REDACTED".toList := by
  obtain ⟨more, same⟩ := marked
  have front : (value ++ rest).takeWhile isValueChar = value := by
    rw [List.takeWhile_append_of_pos parts]
    cases rest with
    | nil => simp
    | cons next rest => simp [whole next rfl]
  rw [← front, ← same, show marker = "[REDACTED".toList ++ [']'] by decide, List.append_assoc,
    List.takeWhile_append_of_pos (List.all_eq_true.mp (by decide))]
  simp [show isValueChar ']' = false by decide]

/-- **No secret is left.** In a redacted text there is no token of either kind, no secret key with a
value other than the marker, and no credential but the marker. -/
theorem redact_hides_secrets (text : String) :
    (∀ token, IsAccessToken token ∨ IsFinegrainedToken token → ¬ token <:+: (redact text).toList)
      ∧ ¬ HasSecretPair (redact text).toList
      ∧ ∀ credential, HasCredential (redact text).toList credential →
          credential = "[REDACTED".toList := by
  have passes : (redact text).toList = replace pair 0 (replace authorization 0
      (replace finegrainedToken 0 (replace accessToken 0 text.toList))) :=
    String.toList_ofList
  have access : ∀ token, IsAccessToken token → ¬ token <:+: replace accessToken 0 text.toList :=
    fun _ => not_infix_replace_self orderly_accessToken plain_accessToken kept_accessToken
      exists_accessToken
  have limited : ∀ token, IsFinegrainedToken token →
      ¬ token <:+: replace finegrainedToken 0 (replace accessToken 0 text.toList) :=
    fun _ => not_infix_replace_self orderly_finegrainedToken plain_finegrainedToken
      kept_finegrainedToken exists_finegrainedToken
  rw [passes]
  refine ⟨?_, ?_, ?_⟩
  · -- a token that a pass has hidden is brought back by none of those behind it
    rintro token (isToken | isToken)
    · refine not_infix_replace orderly_pair plain_accessToken (fun _ => ?_) isToken
      refine not_infix_replace orderly_authorization plain_accessToken fun _ => ?_
      exact not_infix_replace orderly_finegrainedToken plain_accessToken access
    · refine not_infix_replace orderly_pair plain_finegrainedToken (fun _ => ?_) isToken
      exact not_infix_replace orderly_authorization plain_finegrainedToken limited
  · rintro ⟨front, lead, value, rest, whole, isLead, filled, parts, unmarked⟩
    exact unmarked (marked_of_replace_pair isLead (startsValue_append filled parts) whole)
  · rintro credential ⟨front, lead, rest, whole, isLead, filled, parts, last⟩
    have marked := marked_after_pair (fun whole isLead value =>
      marked_of_replace_authorization isLead value whole) isLead
      (startsValue_append filled parts) whole
    exact eq_of_starts_marked marked parts last

end Whole

end AssetFetch.Redaction
