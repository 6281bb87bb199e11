/-
**What a log line tells of a password.**

The value behind `password=` is hidden by the last pass, and the passes before it have read it by
then. Two lines that differ in the value alone come out the same unless one of these passes has
found something in a value: a token, or the start of a header whose credential stands behind the
value. What such a pass writes is told apart from what the last pass writes.

* `hideTokens`: a text after the passes for tokens;
* `Inconspicuous`: nothing in a value is found by the passes before the last;
* `exists_redacted_line`: a line with such a value does not depend on the value;
* `password_hidden_iff`: a value is hidden behind all that may stand before the key exactly if it is
  such a value;
* `inconspicuous_of_short`: values of fewer letters than the name of the header are.
-/

import AssetFetch.Proofs.Redaction.Stable
import AssetFetch.Proofs.Redaction.Leads

namespace AssetFetch.Redaction

open AssetFetch.Text

variable {text part rest front back before after value other lead : List Char} {pivot : Char}

/-! ### The passes for tokens -/

/-- A text after the passes for tokens. -/
def hideTokens (text : List Char) : List Char :=
  replace finegrainedToken 0 (replace accessToken 0 text)

theorem redactChars_eq (text : List Char) :
    redactChars text = replace pair 0 (replace authorization 0 (hideTokens text)) :=
  rfl

theorem hideTokens_append_cons (apart : isTokenChar pivot = false) :
    hideTokens (front ++ pivot :: rest) = hideTokens front ++ pivot :: hideTokens rest := by
  unfold hideTokens
  rw [tokenRule_accessToken.replace_append_cons apart,
    tokenRule_finegrainedToken.replace_append_cons apart]

theorem hideTokens_cons (apart : isTokenChar pivot = false) :
    hideTokens (pivot :: rest) = pivot :: hideTokens rest := by
  have same : hideTokens ([] ++ pivot :: rest) = _ := hideTokens_append_cons apart
  exact same

theorem hideTokens_append_of_not_mem (unstarted : 'g' ∉ part) :
    hideTokens (part ++ rest) = part ++ hideTokens rest := by
  unfold hideTokens
  rw [(tokenRule_accessToken.passesOver unstarted).replace_append,
    (tokenRule_finegrainedToken.passesOver unstarted).replace_append]

theorem startsValue_hideTokens : StartsValue (hideTokens text) ↔ StartsValue text :=
  tokenRule_finegrainedToken.startsValue_replace.trans tokenRule_accessToken.startsValue_replace

theorem exists_of_hideTokens (plain : '[' ∉ part) (whole : hideTokens text = part ++ rest) :
    ∃ before, text = part ++ before ∧ rest = hideTokens before := by
  obtain ⟨middle, split, rfl⟩ := tokenRule_finegrainedToken.exists_of_replace plain whole
  obtain ⟨before, rfl, rfl⟩ := tokenRule_accessToken.exists_of_replace plain split
  exact ⟨before, rfl, rfl⟩

/-- A text without tokens. -/
def TokenFree (text : List Char) : Prop :=
  ∀ token, IsAccessToken token ∨ IsFinegrainedToken token → ¬ token <:+: text

theorem tokenFree_iff :
    TokenFree text ↔ PassesOver accessToken text [] ∧ PassesOver finegrainedToken text [] := by
  rw [tokenRule_accessToken.passesOver_iff exists_accessToken,
    tokenRule_finegrainedToken.passesOver_iff exists_finegrainedToken]
  simp only [TokenFree, or_imp, forall_and]

theorem TokenFree.hideTokens (free : TokenFree text) : hideTokens text = text := by
  obtain ⟨access, limited⟩ := tokenFree_iff.mp free
  rw [Redaction.hideTokens, tokenRule_accessToken.growing.replace_eq_self_iff.mpr access,
    tokenRule_finegrainedToken.growing.replace_eq_self_iff.mpr limited]

/-- **Where there is a token** a marker is written behind what stood before it. -/
theorem exists_marker_of_token (tokens : ¬ TokenFree text) :
    ∃ front rest, hideTokens text = front ++ (marker ++ rest) ∧ front <+: text := by
  by_cases access : PassesOver accessToken text []
  · have limited : ¬ PassesOver finegrainedToken text [] := fun limited =>
      tokens (tokenFree_iff.mpr ⟨access, limited⟩)
    unfold hideTokens
    rw [tokenRule_accessToken.growing.replace_eq_self_iff.mpr access]
    exact tokenRule_finegrainedToken.exists_marker limited
  · obtain ⟨front, rest, replaced, start⟩ := tokenRule_accessToken.exists_marker access
    unfold hideTokens
    rw [replaced, tokenRule_finegrainedToken.replace_append_marker]
    by_cases limited : PassesOver finegrainedToken front []
    · rw [tokenRule_finegrainedToken.growing.replace_eq_self_iff.mpr limited]
      exact ⟨front, _, rfl, start⟩
    · obtain ⟨first, more, again, start'⟩ := tokenRule_finegrainedToken.exists_marker limited
      refine ⟨first, more ++ (marker ++ replace finegrainedToken 0 rest), ?_, start'.trans start⟩
      rw [again]
      simp only [List.append_assoc]

/-! ### Lines with a password -/

/-- What stands in front of the value. -/
def passwordKey : List Char :=
  "password=".toList

/-- A value without brackets: some characters that may belong to one. -/
structure IsValue (value : List Char) : Prop where
  filled : value ≠ []
  parts : ∀ part ∈ value, isValueChar part = true
  unbracketed : '[' ∉ value

/-- Nothing or a blank stands first. -/
def StartsBlank (text : List Char) : Prop :=
  ∀ next ∈ text.head?, isBlank next = true

/-- Nothing that may be in a token stands last. -/
def EndsApart (text : List Char) : Prop :=
  ∀ last ∈ text.getLast?, isTokenChar last = false

/-- No header with a credential starts in a value. -/
def HeaderFree (value after : List Char) : Prop :=
  ∀ gone left lead rest, value = gone ++ left → left ≠ [] → left ++ after = lead ++ rest →
    LeadsToCredential lead → ¬ StartsValue rest

/-- **Nothing for the passes before the last**: no token is in a value, and no header with a
credential starts in it. -/
structure Inconspicuous (value after : List Char) : Prop where
  tokenFree : TokenFree value
  headerFree : HeaderFree value after

theorem isTokenChar_of_isBlank {character : Char} (blank : isBlank character = true) :
    isTokenChar character = false := by
  have order : ∀ low high : Char, low ≤ high ↔ low.toNat ≤ high.toNat := fun _ _ => Iff.rfl
  have number : character = '_' ↔ character.toNat = '_'.toNat := Char.toNat_inj.symm
  simp only [isBlank, inRanges, blankRanges, List.any_cons, List.any_nil, Bool.or_false,
    Bool.or_eq_true, Bool.and_eq_true, decide_eq_true_eq] at blank
  simp only [isTokenChar, isPlainAlphanumeric, Bool.or_eq_false_iff, Bool.and_eq_false_iff,
    decide_eq_false_iff_not, beq_eq_false_iff_ne, ne_eq, number, order]
  simp only [show '0'.toNat = 48 from rfl, show '9'.toNat = 57 from rfl,
    show 'A'.toNat = 65 from rfl, show 'Z'.toNat = 90 from rfl, show 'a'.toNat = 97 from rfl,
    show 'z'.toNat = 122 from rfl, show '_'.toNat = 95 from rfl]
  omega

theorem isBlank_of_isValueChar {character : Char} (value : isValueChar character = true) :
    isBlank character = false := by
  simp only [isValueChar, Bool.not_eq_true', Bool.or_eq_false_iff] at value
  exact value.1.1.1.1

/-- A value ends in front of a blank. -/
theorem dropWhile_append_of_startsBlank (parts : ∀ part ∈ value, isValueChar part = true)
    (blank : StartsBlank rest) : (value ++ rest).dropWhile isValueChar = rest := by
  rw [List.dropWhile_append_of_pos parts]
  cases rest with
  | nil => rfl
  | cons first rest =>
    have isBlank := blank first rfl
    rw [List.dropWhile_cons_of_neg]
    intro isValue
    rw [isBlank_of_isValueChar isValue] at isBlank
    cases isBlank

/-- A value ends in front of a closing bracket. -/
theorem dropWhile_append_closing (parts : ∀ part ∈ value, isValueChar part = true) :
    (value ++ ([']'] ++ rest)).dropWhile isValueChar = [']'] ++ rest := by
  rw [List.dropWhile_append_of_pos parts, List.singleton_append,
    List.dropWhile_cons_of_neg (by decide)]

theorem StartsBlank.hideTokens (blank : StartsBlank after) : StartsBlank (hideTokens after) := by
  cases after with
  | nil => exact blank
  | cons first after =>
    rw [hideTokens_cons (isTokenChar_of_isBlank (blank first rfl))]
    exact blank

theorem StartsBlank.replace {rule : Rule} {guard : List Char → Prop} {lead : List Char → Prop}
    (keyRule : KeyRule rule lead guard) (blank : StartsBlank after) :
    StartsBlank (replace rule 0 after) := by
  rw [StartsBlank, keyRule.head?_replace]
  exact blank

theorem hideTokens_key (blank : StartsBlank after) :
    hideTokens (passwordKey ++ (value ++ after))
      = passwordKey ++ (hideTokens value ++ hideTokens after) := by
  rw [hideTokens_append_of_not_mem (by decide)]
  cases after with
  | nil => simp [hideTokens, replace]
  | cons first after =>
    have apart := isTokenChar_of_isBlank (blank first rfl)
    rw [hideTokens_append_cons apart, hideTokens_cons apart]

/-- **The passes for tokens** go through the line part by part. -/
theorem hideTokens_line (apart : EndsApart before) (blank : StartsBlank after) :
    hideTokens (before ++ (passwordKey ++ (value ++ after)))
      = hideTokens before ++ (passwordKey ++ (hideTokens value ++ hideTokens after)) := by
  rcases List.eq_nil_or_concat before with rfl | ⟨early, last, rfl⟩
  · exact hideTokens_key blank
  · have apart : isTokenChar last = false := apart last (by simp)
    simp only [List.concat_eq_append]
    rw [List.append_assoc, List.singleton_append, hideTokens_append_cons apart,
      hideTokens_key blank, hideTokens_append_cons apart, List.append_assoc, List.cons_append]
    rfl

/-! ### Headers that start in a value -/

/-- **A header** that starts in a value goes on behind it, and the passes for tokens leave it. -/
theorem exists_header_hideTokens (unblank : ∀ character ∈ front, isBlank character = false) :
    (∃ lead rest, front ++ hideTokens back = lead ++ rest ∧ LeadsToCredential lead
        ∧ StartsValue rest)
      ↔ ∃ lead rest, front ++ back = lead ++ rest ∧ LeadsToCredential lead ∧ StartsValue rest := by
  constructor
  · rintro ⟨lead, rest, whole, isLead, value⟩
    obtain ⟨space, _, rfl, split⟩ := isLead.exists_append unblank whole
    have plain : '[' ∉ space := fun member =>
      plain_leadsToCredential.unbracketed isLead (List.mem_append_right front member)
    obtain ⟨before, rfl, rfl⟩ := exists_of_hideTokens plain split
    exact ⟨front ++ space, before, by rw [List.append_assoc], isLead,
      startsValue_hideTokens.mp value⟩
  · rintro ⟨lead, rest, whole, isLead, value⟩
    obtain ⟨space, _, rfl, rfl⟩ := isLead.exists_append unblank whole
    have unstarted : 'g' ∉ space := fun member =>
      isLead.not_mem (isAlphabetic_of_isSmall (by decide) (by decide)) (by decide)
        (List.mem_append_right front member)
    refine ⟨front ++ space, hideTokens rest, ?_, isLead, startsValue_hideTokens.mpr value⟩
    rw [hideTokens_append_of_not_mem unstarted, List.append_assoc]

/-- No header starts in a value exactly if the rule for credentials passes over it, behind the
passes for tokens. -/
theorem passesOver_value_iff (isValue : IsValue value) :
    PassesOver authorization value (hideTokens after) ↔ HeaderFree value after := by
  have unblank : ∀ gone left, value = gone ++ left → ∀ character ∈ left,
      isBlank character = false := by
    rintro gone left rfl character member
    exact isBlank_of_isValueChar (isValue.parts character (List.mem_append_right gone member))
  constructor
  · intro passed gone left lead rest split filled whole isLead starts
    obtain ⟨lead, rest, again, isLead, starts⟩ :=
      (exists_header_hideTokens (unblank gone left split)).mpr ⟨lead, rest, whole, isLead, starts⟩
    have none := passed gone left split filled
    rw [keyRule_authorization.eq_some_iff.mpr ⟨lead, rest, again, isLead, ⟨starts, trivial⟩, rfl⟩]
      at none
    cases none
  · intro free gone left split filled
    refine Option.eq_none_iff_forall_ne_some.mpr fun found matched => ?_
    obtain ⟨lead, rest, whole, isLead, starts, _⟩ := keyRule_authorization.exists_lead matched
    obtain ⟨lead, rest, again, isLead, starts⟩ :=
      (exists_header_hideTokens (unblank gone left split)).mp ⟨lead, rest, whole, isLead, starts⟩
    exact free gone left lead rest split filled again isLead starts

/-! ### Lines with an inconspicuous value -/

theorem isWord_password : IsWord "password".toList "password".toList := by
  show "password".toList.map letterOf = "password".toList
  decide +kernel

theorem unstarted_passwordKey : Unstarted "authorization".toList passwordKey := by
  have mark : ∀ character ∈ ['='], ¬ IsAlphabetic character := by
    intro character member alphabetic
    exact alphabetic.apart.2.2.2.1 (List.mem_singleton.mp member)
  exact (unstarted_of_clear (by decide) isWord_password).append
    (unstarted_of_not_alphabetic (by decide) (by decide) mark)

theorem leadsToSecret_passwordKey : LeadsToSecret passwordKey := by
  have none : ∀ character ∈ ([] : List Char), isBlank character = true := by simp
  exact .intro (Or.inr isWord_password) (.intro (Or.inl rfl) none (Or.inr rfl) none (Or.inl rfl))

/-- The rule for credentials leaves such a value behind the key. -/
theorem replace_authorization_value (isValue : IsValue value) (plain : Inconspicuous value after) :
    replace authorization 0 (passwordKey ++ (value ++ hideTokens after))
      = passwordKey ++ (value ++ replace authorization 0 (hideTokens after)) := by
  have passed := (passesOver_value_iff isValue).mpr plain.headerFree
  rw [(passesOver_of_unstarted unstarted_passwordKey).replace_append, passed.replace_append]

theorem IsValue.startsValue (isValue : IsValue value) : StartsValue (value ++ rest) :=
  startsValue_append isValue.filled isValue.parts

theorem IsValue.not_startsMarked (isValue : IsValue value) : ¬ StartsMarked (value ++ rest) := by
  rintro ⟨found, behind, marked, whole⟩
  cases value with
  | nil => exact isValue.filled rfl
  | cons first value =>
    have bracket := head?_of_isMarked marked
    cases found with
    | nil => cases bracket
    | cons head found =>
      cases bracket
      obtain ⟨rfl, _⟩ := List.cons.inj whole
      exact isValue.unbracketed List.mem_cons_self

/-- The rule for secret keys hides a value behind the key. -/
theorem replace_pair_value (isValue : IsValue value) (blank : StartsBlank rest) :
    replace pair 0 (passwordKey ++ (value ++ rest))
      = passwordKey ++ (marker ++ replace pair 0 rest) := by
  rw [keyRule_pair.replace_lead leadsToSecret_passwordKey isValue.startsValue
    isValue.not_startsMarked, dropWhile_append_of_startsBlank isValue.parts blank]

/-- **In front of the key** a rule for keys goes on afresh, or it takes the key and the value with a
value that has come before. -/
theorem KeyRule.replace_passwordKey {rule : Rule} {lead guard : List Char → Prop}
    (keyRule : KeyRule rule lead guard) (isPivot : IsPivot lead guard 'p') (front : List Char) :
    (∀ rest, replace rule 0 (front ++ (passwordKey ++ rest))
        = replace rule 0 front ++ replace rule 0 (passwordKey ++ rest))
      ∨ ∃ shown, ∀ value rest, IsValue value → StartsBlank rest →
          replace rule 0 (front ++ (passwordKey ++ (value ++ rest)))
            = shown ++ (marker ++ replace rule 0 rest) := by
  have split : ∀ rest, passwordKey ++ rest = 'p' :: ("assword=".toList ++ rest) := fun _ => rfl
  simp only [split]
  rcases keyRule.partsAt_pivot isPivot front with afresh | ⟨shown, taken⟩
  · exact Or.inl fun rest => afresh _
  · refine Or.inr ⟨shown, fun value rest isValue blank => ?_⟩
    rw [taken, List.dropWhile_append_of_pos (List.all_eq_true.mp (by decide)),
      dropWhile_append_of_startsBlank isValue.parts blank]

/-- **A line does not depend on an inconspicuous value.** -/
theorem exists_redacted_line (before : List Char) (apart : EndsApart before)
    (blank : StartsBlank after) :
    ∃ shown, ∀ value, IsValue value → Inconspicuous value after →
      redactChars (before ++ (passwordKey ++ (value ++ after))) = shown := by
  have line : ∀ {value : List Char}, Inconspicuous value after →
      redactChars (before ++ (passwordKey ++ (value ++ after))) = replace pair 0 (replace
        authorization 0 (hideTokens before ++ (passwordKey ++ (value ++ hideTokens after)))) := by
    intro value plain
    rw [redactChars_eq, hideTokens_line apart blank, plain.tokenFree.hideTokens]
  have blank' : StartsBlank (replace authorization 0 (hideTokens after)) :=
    blank.hideTokens.replace keyRule_authorization
  rcases keyRule_authorization.replace_passwordKey isPivot_credential (hideTokens before) with
    afresh | ⟨shown, taken⟩
  · rcases keyRule_pair.replace_passwordKey isPivot_secret
      (replace authorization 0 (hideTokens before)) with afresh' | ⟨shown, taken⟩
    · refine ⟨replace pair 0 (replace authorization 0 (hideTokens before)) ++ (passwordKey
        ++ (marker ++ replace pair 0 (replace authorization 0 (hideTokens after)))),
        fun value isValue plain => ?_⟩
      rw [line plain, afresh, replace_authorization_value isValue plain, afresh',
        replace_pair_value isValue blank']
    · -- the value of another key runs up to the end of the password
      refine ⟨shown ++ (marker ++ replace pair 0 (replace authorization 0 (hideTokens after))),
        fun value isValue plain => ?_⟩
      rw [line plain, afresh, replace_authorization_value isValue plain,
        taken value _ isValue blank']
  · -- the credential of a header runs up to the end of the password
    refine ⟨replace pair 0 (shown ++ (marker ++ replace authorization 0 (hideTokens after))),
      fun value isValue plain => ?_⟩
    rw [line plain, taken value _ isValue blank.hideTokens]

/-! ### Lines that tell a value apart -/

theorem isValueChar_of_mem_passwordKey : ∀ part ∈ passwordKey, isValueChar part = true :=
  List.all_eq_true.mp (by decide)

theorem isValue_passwordKey_append (parts : ∀ part ∈ value, isValueChar part = true)
    (unbracketed : '[' ∉ value) : IsValue (passwordKey ++ value) where
  filled none := absurd (List.append_eq_nil_iff.mp none).1 (by decide)
  parts part member := by
    rcases List.mem_append.mp member with inKey | inValue
    · exact isValueChar_of_mem_passwordKey part inKey
    · exact parts part inValue
  unbracketed member := by
    rcases List.mem_append.mp member with inKey | inValue
    · exact absurd inKey (by decide)
    · exact unbracketed inValue

/-- The rule for secret keys takes a value with a marker in it up to the end of the marker. -/
theorem replace_pair_marked (isValue : IsValue value) :
    replace pair 0 (passwordKey ++ (value ++ (marker ++ rest)))
      = passwordKey ++ (marker ++ ']' :: replace pair 0 rest) := by
  have dropped : (value ++ (marker ++ rest)).dropWhile isValueChar = [']'] ++ rest := by
    rw [List.dropWhile_append_of_pos isValue.parts, marker_eq_closing, List.append_assoc,
      dropWhile_append_closing (List.all_eq_true.mp (by decide))]
  rw [keyRule_pair.replace_lead leadsToSecret_passwordKey isValue.startsValue
    isValue.not_startsMarked, dropped, keyRule_pair.replace_append_of_marker marker_eq_closing,
    List.singleton_append]

theorem hideTokens_passwordKey : hideTokens passwordKey = passwordKey := by decide

theorem endsApart_passwordKey : EndsApart passwordKey := by
  rw [EndsApart, show passwordKey.getLast? = some '=' by decide]
  rintro last ⟨⟩
  decide

/-- Behind another key, an inconspicuous value is hidden with the key in front of it. -/
theorem redactChars_key_line (isValue : IsValue value) (blank : StartsBlank after)
    (plain : Inconspicuous value after) :
    redactChars (passwordKey ++ (passwordKey ++ (value ++ after)))
      = passwordKey ++ (marker ++ replace pair 0 (replace authorization 0 (hideTokens after))) := by
  have blank' : StartsBlank (replace authorization 0 (hideTokens after)) :=
    blank.hideTokens.replace keyRule_authorization
  rw [redactChars_eq, hideTokens_line endsApart_passwordKey blank, plain.tokenFree.hideTokens,
    hideTokens_passwordKey, (passesOver_of_unstarted unstarted_passwordKey).replace_append,
    replace_authorization_value isValue plain, ← List.append_assoc passwordKey value,
    replace_pair_value (isValue_passwordKey_append isValue.parts isValue.unbracketed) blank']

/-- **A token is told apart**: the marker in its place ends the value for the last pass. -/
theorem redactChars_ne_of_token (isValue : IsValue value) (isOther : IsValue other)
    (blank : StartsBlank after) (plain : Inconspicuous other after) (tokens : ¬ TokenFree value) :
    redactChars (passwordKey ++ (passwordKey ++ (value ++ after)))
      ≠ redactChars (passwordKey ++ (passwordKey ++ (other ++ after))) := by
  obtain ⟨front, rest, replaced, start⟩ := exists_marker_of_token tokens
  have shortened : IsValue (passwordKey ++ front) :=
    isValue_passwordKey_append (fun part member => isValue.parts part (start.subset member))
      fun member => isValue.unbracketed (start.subset member)
  have unblank : ∀ part ∈ passwordKey ++ (passwordKey ++ front), isBlank part = false := by
    intro part member
    rcases List.mem_append.mp member with inKey | others
    · exact isBlank_of_isValueChar (isValueChar_of_mem_passwordKey part inKey)
    · exact isBlank_of_isValueChar (shortened.parts part others)
  have shown : redactChars (passwordKey ++ (passwordKey ++ (value ++ after)))
      = passwordKey ++ (marker ++ ']' :: replace pair 0
          (replace authorization 0 (rest ++ hideTokens after))) := by
    calc redactChars (passwordKey ++ (passwordKey ++ (value ++ after)))
        = replace pair 0 (replace authorization 0 ((passwordKey ++ (passwordKey ++ front))
            ++ (marker ++ (rest ++ hideTokens after)))) := by
          rw [redactChars_eq, hideTokens_line endsApart_passwordKey blank, replaced,
            hideTokens_passwordKey]
          simp only [List.append_assoc]
      _ = replace pair 0 ((passwordKey ++ (passwordKey ++ front))
            ++ (marker ++ replace authorization 0 (rest ++ hideTokens after))) := by
          rw [(passesOver_of_unblank unblank).replace_append,
            keyRule_authorization.replace_append_of_marker (List.nil_append marker).symm]
      _ = _ := by rw [List.append_assoc, replace_pair_marked shortened]
  rw [shown, redactChars_key_line isOther blank plain]
  intro same
  have behind := List.append_cancel_left (List.append_cancel_left same)
  have blank' : StartsBlank (replace pair 0 (replace authorization 0 (hideTokens after))) :=
    (blank.hideTokens.replace keyRule_authorization).replace keyRule_pair
  rw [← behind] at blank'
  exact absurd (blank' _ rfl) (by decide)

/-- The passes for keys leave the end of a marker only where it stood, and there it ends a value. -/
theorem markerEnd_append_ne (text : List Char) :
    markerEnd ++ replace pair 0 (replace authorization 0 (text.dropWhile isValueChar))
      ≠ replace pair 0 (replace authorization 0 text) := by
  intro same
  have plain : '[' ∉ markerEnd := by decide
  have aligned : Aligned pair (replace authorization 0 text) (markerEnd ++ replace pair 0
      (replace authorization 0 (text.dropWhile isValueChar))) := same ▸ .visited _
  obtain ⟨middle, split, _⟩ := aligned.append orderly_pair plain
  have aligned' : Aligned authorization text (markerEnd ++ middle) := split ▸ .visited _
  obtain ⟨rest, rfl, _⟩ := aligned'.append orderly_authorization plain
  have last : (markerEnd ++ rest).dropWhile isValueChar = [']'] ++ rest := by
    rw [show markerEnd = "REDACTED".toList ++ [']'] by decide, List.append_assoc,
      dropWhile_append_closing (List.all_eq_true.mp (by decide))]
  rw [last, keyRule_authorization.replace_append_of_marker marker_eq_closing,
    keyRule_pair.replace_append_of_marker marker_eq_closing,
    keyRule_authorization.replace_append_of_marker marker_eq_opening,
    keyRule_pair.replace_append_of_marker marker_eq_opening] at same
  have lengths := congrArg List.length (List.append_cancel_left same)
  rw [List.length_append, List.length_singleton] at lengths
  omega

/-- **A header is told apart**: its credential is hidden by the pass for credentials. -/
theorem replace_ne_of_header (isLead : LeadsToCredential (front ++ part)) (filled : front ≠ [])
    (value : StartsValue rest) :
    replace pair 0 (part ++ (marker ++ replace authorization 0 (rest.dropWhile isValueChar)))
      ≠ replace pair 0 (replace authorization 0 (part ++ rest)) := by
  have leadless : Leadless LeadsToSecret part :=
    isLead.leadless.of_infix (List.suffix_append front part).isInfix
  have passed : replace authorization 0 (part ++ rest) = part ++ replace authorization 0 rest :=
    (passesOver_of_unstarted (isLead.unstarted_tail filled)).replace_append
  rw [passed]
  intro same
  obtain ⟨first, others, rfl, isValue⟩ := value
  obtain ⟨more, kept⟩ : ∃ more, replace authorization 0 (first :: others) = first :: more :=
    keyRule_authorization.exists_replace_cons
  -- both lines go on behind the part, one with a bracket
  obtain rfl : '[' = first := by
    obtain ⟨one, left⟩ : ∃ one, replace pair 0 (part ++ '[' :: (markerEnd ++ replace
        authorization 0 ((first :: others).dropWhile isValueChar))) = part ++ '[' :: one :=
      keyRule_pair.exists_replace_append_cons leadless
    obtain ⟨two, right⟩ : ∃ two, replace pair 0 (part ++ first :: more) = part ++ first :: two :=
      keyRule_pair.exists_replace_append_cons leadless
    rw [kept, right] at same
    exact (List.cons.inj (List.append_cancel_left (left.symm.trans same))).1
  have bracket : ∀ rest,
      replace pair 0 (part ++ '[' :: rest) = part ++ '[' :: replace pair 0 rest := by
    intro rest
    rw [(keyRule_pair.passesOver_of_leadless leadless).replace_append,
      replace_cons_of_none keyRule_pair.eq_none_of_bracket]
  have whole : ∀ rest, marker ++ rest = '[' :: (markerEnd ++ rest) := fun _ => rfl
  rw [replace_cons_of_none keyRule_authorization.eq_none_of_bracket, bracket, whole, bracket,
    keyRule_pair.replace_append_of_marker marker_eq_opening, List.dropWhile_cons_of_pos isValue]
    at same
  exact markerEnd_append_ne others (List.cons.inj (List.append_cancel_left same)).2

/-- **A value in which a header starts** is told apart. -/
theorem redactChars_ne_of_header (isValue : IsValue value) (isOther : IsValue other)
    (blank : StartsBlank after) (plain : Inconspicuous other after) (free : TokenFree value)
    (header : ¬ PassesOver authorization value (hideTokens after)) :
    redactChars (passwordKey ++ (value ++ after))
      ≠ redactChars (passwordKey ++ (other ++ after)) := by
  obtain ⟨gone, left, found, rfl, filled, passed, matched⟩ := exists_first header
  obtain ⟨lead, rest, whole, isLead, starts, _⟩ := keyRule_authorization.exists_lead matched
  have unblank : ∀ character ∈ left, isBlank character = false := fun character member =>
    isBlank_of_isValueChar (isValue.parts character (List.mem_append_right gone member))
  obtain ⟨space, some, rfl, split⟩ := isLead.exists_append unblank whole
  have spaced : ∀ more, StartsBlank (space ++ more) := by
    have first := blank.hideTokens
    rw [split] at first
    intro more
    cases space with
    | nil => exact absurd rfl some
    | cons head space => exact first
  have shown : redactChars (passwordKey ++ ((gone ++ left) ++ after)) = passwordKey ++ (marker
      ++ replace pair 0 (space ++ (marker
        ++ replace authorization 0 (rest.dropWhile isValueChar)))) := by
    calc redactChars (passwordKey ++ ((gone ++ left) ++ after))
        = replace pair 0 (replace authorization 0 (passwordKey
            ++ (gone ++ ((left ++ space) ++ rest)))) := by
          rw [redactChars_eq, hideTokens_key blank, free.hideTokens, List.append_assoc, whole]
      _ = replace pair 0 (passwordKey ++ ((gone ++ left) ++ (space ++ (marker
            ++ replace authorization 0 (rest.dropWhile isValueChar))))) := by
          rw [whole] at passed
          rw [(passesOver_of_unstarted unstarted_passwordKey).replace_append,
            passed.replace_append, keyRule_authorization.replace_lead isLead starts trivial]
          simp only [List.append_assoc]
      _ = _ := replace_pair_value isValue (spaced _)
  have others : redactChars (passwordKey ++ (other ++ after)) = passwordKey ++ (marker
      ++ replace pair 0 (replace authorization 0 (space ++ rest))) := by
    rw [redactChars_eq, hideTokens_key blank, plain.tokenFree.hideTokens,
      replace_authorization_value isOther plain,
      replace_pair_value isOther (blank.hideTokens.replace keyRule_authorization), split]
  rw [shown, others]
  intro same
  exact replace_ne_of_header isLead filled starts
    (List.append_cancel_left (List.append_cancel_left same))

theorem toList_line (before value after : String) :
    (before ++ "password=" ++ value ++ after).toList
      = before.toList ++ (passwordKey ++ (value.toList ++ after.toList)) := by
  rw [String.toList_append, String.toList_append, String.toList_append, List.append_assoc,
    List.append_assoc]
  rfl

/-- **Which passwords a log line hides.** A value comes out as an inconspicuous one does, behind all
that may stand before the key, exactly if it is inconspicuous as well. -/
theorem password_hidden_iff {value other after : String} (isValue : IsValue value.toList)
    (isOther : IsValue other.toList) (blank : StartsBlank after.toList)
    (plain : Inconspicuous other.toList after.toList) :
    (∀ before : String, EndsApart before.toList →
        redact (before ++ "password=" ++ value ++ after)
          = redact (before ++ "password=" ++ other ++ after))
      ↔ Inconspicuous value.toList after.toList := by
  simp only [← String.toList_inj, redact_toList, toList_line]
  constructor
  · intro same
    have tokenFree : TokenFree value.toList := by
      by_contra tokens
      refine redactChars_ne_of_token isValue isOther blank plain tokens ?_
      exact same "password=" endsApart_passwordKey
    refine ⟨tokenFree, (passesOver_value_iff isValue).mp ?_⟩
    by_contra header
    refine redactChars_ne_of_header isValue isOther blank plain tokenFree header ?_
    exact same "" (by simp [EndsApart])
  · intro plain' before apart
    obtain ⟨shown, hidden⟩ := exists_redacted_line before.toList apart blank
    rw [hidden _ isValue plain', hidden _ isOther plain]

/-- **Short values** are inconspicuous: the name of the header has thirteen letters, and no blank is
among them. -/
theorem inconspicuous_of_short (isValue : IsValue value) (blank : StartsBlank after)
    (short : value.length < 13) : Inconspicuous value after where
  tokenFree := by
    rintro token (⟨kind, _, body, rfl, long, _⟩ | ⟨body, rfl, long, _⟩) inside
    all_goals
      have size := inside.length_le
      rw [List.length_append] at size
      rw [leastTokenLength] at long
      omega
  headerFree := by
    rintro gone left lead rest rfl filled whole isLead -
    have unblank : ∀ character ∈ left, isBlank character = false := fun character member =>
      isBlank_of_isValueChar (isValue.parts character (List.mem_append_right gone member))
    obtain ⟨space, some, split, rfl⟩ := isLead.exists_append unblank whole
    obtain ⟨word, among, key, others, isKey, rfl⟩ := isLead.exists_key
    obtain rfl := List.mem_singleton.mp among
    have size : key.length = 13 := isKey.length
    rw [List.length_append] at short
    rcases List.append_eq_append_iff.mp split with ⟨more, rfl, _⟩ | ⟨more, rfl, rfl⟩
    · rw [List.length_append] at short
      omega
    · cases more with
      | nil =>
        rw [List.append_nil] at size
        omega
      | cons first more =>
        have letter := isKey.alphabetic (by decide) first (by simp)
        have isBlank := blank first rfl
        rw [letter.apart.1] at isBlank
        cases isBlank

theorem short_password_is_hidden :
    (IsValue "secret".toList ∧ IsValue "x".toList ∧ StartsBlank " ok".toList
        ∧ Inconspicuous "x".toList " ok".toList)
      ∧ redact ("user: " ++ "password=" ++ "secret" ++ " ok")
        = redact ("user: " ++ "password=" ++ "x" ++ " ok") := by
  have isValue : IsValue "secret".toList :=
    ⟨by decide, List.all_eq_true.mp (by decide), by decide⟩
  have isOther : IsValue "x".toList := ⟨by decide, List.all_eq_true.mp (by decide), by decide⟩
  have blank : StartsBlank " ok".toList := by
    rw [StartsBlank, show " ok".toList.head? = some ' ' by decide]
    rintro next ⟨⟩
    decide
  have apart : EndsApart "user: ".toList := by
    rw [EndsApart, show "user: ".toList.getLast? = some ' ' by decide]
    rintro last ⟨⟩
    decide
  have plain := inconspicuous_of_short isOther blank (by decide)
  exact ⟨⟨isValue, isOther, blank, plain⟩, (password_hidden_iff isValue isOther blank plain).mpr
    (inconspicuous_of_short isValue blank (by decide)) "user: " apart⟩

/-- What follows a token in a password is told. -/
theorem password_is_told :
    IsValue "ghp_aaaaaaaaaaaaaaaaaaaa-rest".toList ∧ IsValue "secret".toList
      ∧ redact ("" ++ "password=" ++ "ghp_aaaaaaaaaaaaaaaaaaaa-rest" ++ "")
        ≠ redact ("" ++ "password=" ++ "secret" ++ "") := by
  refine ⟨⟨by decide, List.all_eq_true.mp (by decide), by decide⟩,
    ⟨by decide, List.all_eq_true.mp (by decide), by decide⟩, ?_⟩
  decide +kernel

end AssetFetch.Redaction
