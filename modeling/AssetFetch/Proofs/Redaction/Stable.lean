/-
**Hiding secrets twice.**

A marker ends with a closing bracket, and no secret has one in it, so a pass that hides a secret
leaves more closing brackets than there were. A text that all passes together leave as it is goes
through each of them as it is.

* `Growing`: a rule that takes no closing bracket;
* `replace_eq_self_iff`: a pass leaves a text as it is exactly if the rule recognises nothing in it;
* `redact_eq_self_iff`: so do all of them exactly if the text has no secret and no credential in it;
* `redact_redact_iff`: a redacted text stays as it is exactly if it has no credential in it. There
  is one in it where a header was, for a credential that is hidden is a credential again.
-/

import AssetFetch.Proofs.Redaction.Parts

namespace AssetFetch.Redaction

open AssetFetch.Text

variable {rule : Rule} {text rest : List Char}

/-! ### One pass -/

/-- An orderly rule that takes no closing bracket. -/
structure Growing (rule : Rule) : Prop where
  orderly : Orderly rule
  unclosed : ∀ {lead secret rest : List Char},
    rule (lead ++ (secret ++ rest)) = some ⟨lead.length, lead.length + secret.length⟩ →
    ']' ∉ secret

theorem count_marker : marker.count ']' = 1 := by
  decide +kernel

/-- **A pass leaves a text as it is or adds closing brackets**; in the first case the rule has
recognised nothing. -/
theorem Growing.replace_cases (growing : Growing rule) (text : List Char) :
    (PassesOver rule text [] ∧ replace rule 0 text = text)
      ∨ text.count ']' < (replace rule 0 text).count ']' := by
  induction size : text.length using Nat.strong_induction_on generalizing text with
  | _ size ih =>
  subst size
  rcases growing.orderly.replace_cases text with
    rfl | ⟨first, rest, rfl, here, same⟩ | ⟨lead, secret, rest, rfl, filled, _, matched, same⟩
  · exact Or.inl ⟨.nil, rfl⟩
  · rw [same]
    rcases ih rest.length (by simp) rest rfl with ⟨passed, others⟩ | more
    · refine Or.inl ⟨passesOver_cons_iff.mpr ⟨?_, passed⟩, by rw [others]⟩
      rwa [List.append_nil]
    · exact Or.inr (by rw [List.count_cons, List.count_cons]; omega)
  · have none : secret.count ']' = 0 := List.count_eq_zero.mpr (growing.unclosed matched)
    have size := List.length_pos_iff.mpr filled
    have others : rest.count ']' ≤ (replace rule 0 rest).count ']' := by
      rcases ih rest.length (by simp; omega) rest rfl with ⟨_, same⟩ | more
      · rw [same]
      · exact more.le
    refine Or.inr ?_
    simp only [same, List.count_append, count_marker, none]
    omega

theorem Growing.count_le (growing : Growing rule) (text : List Char) :
    text.count ']' ≤ (replace rule 0 text).count ']' := by
  rcases growing.replace_cases text with ⟨_, same⟩ | more
  · rw [same]
  · exact more.le

/-- **What a pass leaves as it is** has nothing in it that the rule recognises. -/
theorem Growing.replace_eq_self_iff (growing : Growing rule) :
    replace rule 0 text = text ↔ PassesOver rule text [] := by
  constructor
  · intro same
    rcases growing.replace_cases text with ⟨passed, _⟩ | more
    · exact passed
    · rw [same] at more
      exact absurd more (Nat.lt_irrefl _)
  · intro passed
    have same := passed.replace_append
    rwa [List.append_nil, replace, List.append_nil] at same

/-! ### All passes -/

theorem count_le_foldl {passes : List Rule} (growing : ∀ rule ∈ passes, Growing rule)
    (text : List Char) :
    text.count ']' ≤ (passes.foldl (fun text rule => replace rule 0 text) text).count ']' := by
  induction passes generalizing text with
  | nil => exact Nat.le_refl _
  | cons rule passes ih =>
    obtain ⟨here, others⟩ := List.forall_mem_cons.mp growing
    exact (here.count_le text).trans (ih others _)

/-- **Passes together leave a text as it is** exactly if each of them does. -/
theorem foldl_replace_eq_self_iff {passes : List Rule} (growing : ∀ rule ∈ passes, Growing rule) :
    passes.foldl (fun text rule => replace rule 0 text) text = text
      ↔ ∀ rule ∈ passes, PassesOver rule text [] := by
  induction passes with
  | nil => simp
  | cons rule passes ih =>
    obtain ⟨here, others⟩ := List.forall_mem_cons.mp growing
    have later := ih others
    rw [List.foldl_cons, List.forall_mem_cons, ← here.replace_eq_self_iff]
    constructor
    · intro same
      rcases here.replace_cases text with ⟨_, first⟩ | more
      · rw [first] at same
        exact ⟨first, later.mp same⟩
      · have grown := count_le_foldl others (replace rule 0 text)
        rw [same] at grown
        omega
    · rintro ⟨first, passed⟩
      rw [first, later.mpr passed]

/-! ### The rules -/

theorem TokenRule.growing {isToken : List Char → Prop} {isPart : Char → Bool}
    (tokenRule : TokenRule rule isToken isPart) : Growing rule where
  orderly := tokenRule.orderly
  unclosed matched member := by
    obtain ⟨token, rest, whole, holds, _, same⟩ := tokenRule.eq_some_iff.mp matched
    obtain ⟨kept, size⟩ := Match.mk.inj same
    obtain rfl := List.length_eq_zero_iff.mp kept
    rw [List.nil_append] at whole
    obtain ⟨rfl, _⟩ := List.append_inj whole (by simpa using size)
    exact absurd (tokenRule.chars holds _ member) (by decide)

theorem KeyRule.growing {lead guard : List Char → Prop} (keyRule : KeyRule rule lead guard) :
    Growing rule where
  orderly := keyRule.orderly
  unclosed matched member := by
    obtain ⟨part, rest, whole, _, _, same⟩ := keyRule.exists_lead matched
    obtain ⟨kept, size⟩ := Match.mk.inj same
    obtain ⟨rfl, split⟩ := List.append_inj whole kept
    rw [← List.takeWhile_append_dropWhile (p := isValueChar) (l := rest)] at split
    obtain ⟨rfl, _⟩ := List.append_inj split (by omega)
    exact absurd (List.mem_takeWhile_imp member) (by decide)

theorem growing_of_mem_rules : ∀ rule ∈ rules, Growing rule := by
  simp only [rules, List.forall_mem_cons, List.not_mem_nil, IsEmpty.forall_iff, implies_true,
    and_true]
  exact ⟨tokenRule_accessToken.growing, tokenRule_finegrainedToken.growing,
    keyRule_authorization.growing, keyRule_pair.growing⟩

/-! ### What the rules recognise in a text -/

/-- A rule passes over a text in which no place starts with what it recognises. -/
theorem passesOver_iff_of_recognised {secret : List Char → Prop}
    (recognised : ∀ text, (∃ found, rule text = some found) ↔ secret text)
    (orderly : Orderly rule) :
    PassesOver rule text [] ↔ ∀ front rest, text = front ++ rest → ¬ secret rest := by
  constructor
  · rintro passed front rest rfl holds
    obtain ⟨found, matched⟩ := (recognised rest).mpr holds
    by_cases filled : rest = []
    · rw [filled, orderly.nil] at matched
      cases matched
    · have none := passed front rest rfl filled
      rw [List.append_nil, matched] at none
      cases none
  · intro free gone left split _
    refine Option.eq_none_iff_forall_ne_some.mpr fun found matched => ?_
    rw [List.append_nil] at matched
    exact free gone left split ((recognised left).mp ⟨found, matched⟩)

theorem TokenRule.passesOver_iff {isToken : List Char → Prop} {isPart : Char → Bool}
    (tokenRule : TokenRule rule isToken isPart)
    (fires : ∀ {token rest : List Char}, isToken token →
      ∃ found, rule (token ++ rest) = some found) :
    PassesOver rule text [] ↔ ∀ token, isToken token → ¬ token <:+: text := by
  have recognised : ∀ text, (∃ found, rule text = some found)
      ↔ ∃ token, isToken token ∧ token <+: text := by
    intro text
    constructor
    · rintro ⟨found, matched⟩
      obtain ⟨token, rest, rfl, holds, _⟩ := tokenRule.eq_some_iff.mp matched
      exact ⟨token, holds, rest, rfl⟩
    · rintro ⟨token, holds, rest, rfl⟩
      exact fires holds
  rw [passesOver_iff_of_recognised recognised tokenRule.orderly]
  constructor
  · rintro free token holds ⟨front, rest, rfl⟩
    exact free front (token ++ rest) (List.append_assoc ..) ⟨token, holds, rest, rfl⟩
  · rintro free front _ rfl ⟨token, holds, rest, rfl⟩
    exact free token holds ⟨front, rest, List.append_assoc ..⟩

theorem KeyRule.passesOver_iff {lead guard : List Char → Prop}
    (keyRule : KeyRule rule lead guard) :
    PassesOver rule text [] ↔ ∀ front part rest, text = front ++ (part ++ rest) → lead part →
      StartsValue rest → ¬ guard rest := by
  have recognised : ∀ text, (∃ found, rule text = some found)
      ↔ ∃ part rest, text = part ++ rest ∧ lead part ∧ StartsValue rest ∧ guard rest := by
    intro text
    constructor
    · rintro ⟨found, matched⟩
      obtain ⟨part, rest, whole, isLead, ⟨value, free⟩, _⟩ := keyRule.eq_some_iff.mp matched
      exact ⟨part, rest, whole, isLead, value, free⟩
    · rintro ⟨part, rest, whole, isLead, value, free⟩
      exact ⟨_, keyRule.eq_some_iff.mpr ⟨part, rest, whole, isLead, ⟨value, free⟩, rfl⟩⟩
  rw [passesOver_iff_of_recognised recognised keyRule.orderly]
  constructor
  · intro free front part rest whole isLead value allowed
    exact free front (part ++ rest) whole ⟨part, rest, rfl, isLead, value, allowed⟩
  · rintro free front _ whole ⟨part, rest, rfl, isLead, value, allowed⟩
    exact free front part rest whole isLead value allowed

/-- The longest value at a place. -/
theorem StartsValue.exists_longest (value : StartsValue rest) :
    ∃ longest others, rest = longest ++ others ∧ longest ≠ []
      ∧ (∀ part ∈ longest, isValueChar part = true)
      ∧ ∀ next ∈ others.head?, isValueChar next = false := by
  refine ⟨rest.takeWhile isValueChar, rest.dropWhile isValueChar,
    List.takeWhile_append_dropWhile.symm, ?_, fun _ => List.mem_takeWhile_imp,
    fun next member => ?_⟩
  · obtain ⟨first, others, rfl, isValue⟩ := value
    simp [isValue]
  · have stop := List.head?_dropWhile_not isValueChar rest
    rw [member] at stop
    simpa using stop

theorem passesOver_authorization_iff :
    PassesOver authorization text [] ↔ ∀ credential, ¬ HasCredential text credential := by
  rw [keyRule_authorization.passesOver_iff]
  constructor
  · rintro free credential ⟨front, lead, rest, whole, isLead, filled, parts, _⟩
    exact free front lead _ whole isLead (startsValue_append filled parts) trivial
  · rintro free front lead rest whole isLead value -
    obtain ⟨credential, others, rfl, filled, parts, last⟩ := value.exists_longest
    exact free credential ⟨front, lead, others, whole, isLead, filled, parts, last⟩

theorem passesOver_pair_iff : PassesOver pair text [] ↔ ¬ HasSecretPair text := by
  rw [keyRule_pair.passesOver_iff]
  constructor
  · rintro free ⟨front, lead, value, rest, whole, isLead, filled, parts, unmarked⟩
    exact free front lead _ whole isLead (startsValue_append filled parts) unmarked
  · rintro free front lead rest whole isLead value unmarked
    obtain ⟨secret, others, rfl, filled, parts, _⟩ := value.exists_longest
    exact free ⟨front, lead, secret, others, whole, isLead, filled, parts, unmarked⟩

/-! ### Whole texts -/

theorem redact_toList (text : String) : (redact text).toList = redactChars text.toList :=
  String.toList_ofList

/-- **A text stays as it is** exactly if it has no secret and no credential in it. -/
theorem redact_eq_self_iff (text : String) :
    redact text = text
      ↔ (∀ token, IsAccessToken token ∨ IsFinegrainedToken token → ¬ token <:+: text.toList)
        ∧ ¬ HasSecretPair text.toList
        ∧ ∀ credential, ¬ HasCredential text.toList credential := by
  have passes : redact text = text ↔ ∀ rule ∈ rules, PassesOver rule text.toList [] := by
    rw [← String.toList_inj, redact_toList]
    exact foldl_replace_eq_self_iff growing_of_mem_rules
  rw [passes]
  simp only [rules, List.forall_mem_cons, List.not_mem_nil, IsEmpty.forall_iff, implies_true,
    and_true, tokenRule_accessToken.passesOver_iff exists_accessToken,
    tokenRule_finegrainedToken.passesOver_iff exists_finegrainedToken,
    passesOver_authorization_iff, passesOver_pair_iff, or_imp, forall_and, and_assoc]
  exact and_congr_right fun _ => and_congr_right fun _ => and_comm

/-- **A token stays away**: the passes behind the one that hides it do not bring it back. -/
theorem not_infix_foldl {passes : List Rule} {form : List Char → Prop} {token : List Char}
    (orderly : ∀ rule ∈ passes, Orderly rule) (plain : Plain form)
    (free : ∀ token, form token → ¬ token <:+: text) (holds : form token) :
    ¬ token <:+: passes.foldl (fun text rule => replace rule 0 text) text := by
  induction passes generalizing text with
  | nil => exact free token holds
  | cons rule passes ih =>
    obtain ⟨here, others⟩ := List.forall_mem_cons.mp orderly
    exact ih others fun token => not_infix_replace here plain free

theorem not_token_infix_redactChars (text token : List Char)
    (holds : IsAccessToken token ∨ IsFinegrainedToken token) : ¬ token <:+: redactChars text := by
  have orderly : ∀ rule ∈ rules, Orderly rule := fun rule among =>
    (growing_of_mem_rules rule among).orderly
  obtain ⟨_, others⟩ := List.forall_mem_cons.mp orderly
  obtain ⟨_, behind⟩ := List.forall_mem_cons.mp others
  rcases holds with holds | holds
  · have access : ∀ token, IsAccessToken token → ¬ token <:+: replace accessToken 0 text :=
      fun _ => not_infix_replace_self orderly_accessToken plain_accessToken kept_accessToken
        exists_accessToken
    have away := not_infix_foldl others plain_accessToken access holds
    exact away
  · have limited : ∀ token, IsFinegrainedToken token →
        ¬ token <:+: replace finegrainedToken 0 (replace accessToken 0 text) :=
      fun _ => not_infix_replace_self orderly_finegrainedToken plain_finegrainedToken
        kept_finegrainedToken exists_finegrainedToken
    have away := not_infix_foldl behind plain_finegrainedToken limited holds
    exact away

theorem not_hasSecretPair_redactChars (text : List Char) : ¬ HasSecretPair (redactChars text) := by
  rintro ⟨front, lead, value, rest, whole, isLead, filled, parts, unmarked⟩
  exact unmarked (marked_of_replace_pair isLead (startsValue_append filled parts) whole)

/-- **A redacted text stays as it is** when it is redacted again, exactly if it has no credential in
it. -/
theorem redact_redact_iff (text : String) :
    redact (redact text) = redact text
      ↔ ∀ credential, ¬ HasCredential (redact text).toList credential := by
  have tokens : ∀ token, IsAccessToken token ∨ IsFinegrainedToken token →
      ¬ token <:+: (redact text).toList := by
    rw [redact_toList]
    exact not_token_infix_redactChars text.toList
  have pairs : ¬ HasSecretPair (redact text).toList := by
    rw [redact_toList]
    exact not_hasSecretPair_redactChars text.toList
  rw [redact_eq_self_iff, and_iff_right tokens, and_iff_right pairs]

/-- A header's credential is hidden a second time. -/
theorem redacted_header_grows :
    redact (redact "authorization: token abc") ≠ redact "authorization: token abc" := by
  decide +kernel

end AssetFetch.Redaction
