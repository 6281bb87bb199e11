/-
**Texts that the rules go through part by part.**

Each rule reads a text from left to right, and a text that is put together from parts is often read
part by part. Where it can be taken apart depends on the kind of the rule: at a character that no
token has in it, and at one that stands in leads at most at their start.

* `exists_first`: the first place where a rule recognises something in a part;
* `TokenRule`, `KeyRule`: the two kinds of rule, each said by what it recognises;
* `TokenRule.replace_append_cons`: a rule for tokens goes on afresh behind a character that is in no
  token;
* `TokenRule.exists_of_replace`, `TokenRule.exists_marker`: it keeps nothing in front of a token and
  leaves a marker behind what stood before the first one;
* `KeyRule.replace_lead`: a rule for keys takes the value behind a lead as far as it goes;
* `KeyRule.exists_replace_append_cons`: it leaves a part without leads and the character behind it;
* `KeyRule.partsAt_pivot`: it goes on afresh at a character that starts leads, or takes it with a
  value that has come before, whatever follows.
-/

import AssetFetch.Proofs.Redaction.Soundness

namespace AssetFetch.Redaction

open AssetFetch.Text

variable {rule : Rule} {text part rest front back : List Char}

/-! ### Any rule -/

/-- The marker without its opening bracket. -/
def markerEnd : List Char :=
  "REDACTED]".toList

theorem marker_eq_opening : marker = ['['] ++ markerEnd := by decide

theorem marker_eq_closing : marker = "[REDACTED".toList ++ [']'] := by decide

/-- **The first place** where a rule recognises something in a part that it does not pass over. -/
theorem exists_first (matched : ¬ PassesOver rule part rest) :
    ∃ front back found, part = front ++ back ∧ back ≠ [] ∧ PassesOver rule front (back ++ rest)
      ∧ rule (back ++ rest) = some found := by
  induction part with
  | nil => exact absurd .nil matched
  | cons first part ih =>
    cases here : rule (first :: (part ++ rest)) with
    | some found => exact ⟨[], first :: part, found, rfl, by simp, .nil, here⟩
    | none =>
      obtain ⟨front, back, found, rfl, filled, passed, later⟩ :=
        ih fun passed => matched (passesOver_cons_iff.mpr ⟨here, passed⟩)
      refine ⟨first :: front, back, found, rfl, filled, ?_, later⟩
      rw [List.append_assoc] at here
      exact passesOver_cons_iff.mpr ⟨here, passed⟩

theorem Orderly.nil (orderly : Orderly rule) : rule [] = none := by
  cases matched : rule [] with
  | none => rfl
  | some found =>
    obtain ⟨lead, secret, rest, whole, filled, _⟩ := orderly.shape matched
    simp [filled] at whole

theorem PassesOver.of_append (passed : PassesOver rule (front ++ back) rest) :
    PassesOver rule back rest :=
  fun gone left split => passed (front ++ gone) left (by rw [split, List.append_assoc])

/-- **A pass goes on afresh** behind a part in which the rule recognises the same with and without
what follows. -/
theorem Orderly.replace_append (orderly : Orderly rule)
    (same : ∀ gone left, front = gone ++ left → left ≠ [] → rule (left ++ back) = rule left) :
    replace rule 0 (front ++ back) = replace rule 0 front ++ replace rule 0 back := by
  induction size : front.length using Nat.strong_induction_on generalizing front with
  | _ size ih =>
  subst size
  rcases orderly.replace_cases front with
    rfl | ⟨first, rest, rfl, here, replaced⟩
      | ⟨lead, secret, rest, rfl, filled, _, matched, replaced⟩
  · rfl
  · have unmatched : rule (first :: (rest ++ back)) = none :=
      (same [] (first :: rest) rfl (List.cons_ne_nil first rest)).trans here
    have others := ih rest.length (by simp) (fun gone left split =>
      same (first :: gone) left (by rw [split, List.cons_append])) rfl
    rw [replaced, List.cons_append, replace_cons_of_none unmatched, others, List.cons_append]
  · have size := List.length_pos_iff.mpr filled
    have whole : rule ((lead ++ (secret ++ rest)) ++ back) = _ :=
      (same [] _ rfl (by simp [filled])).trans matched
    have others := ih rest.length (by simp; omega) (fun gone left split =>
      same (lead ++ (secret ++ gone)) left (by rw [split]; simp only [List.append_assoc])) rfl
    simp only [List.append_assoc] at whole ⊢
    rw [replaced, replace_of_some filled whole, others]
    simp only [List.append_assoc]

/-! ### Rules for tokens -/

section Tokens

variable {isToken : List Char → Prop} {isPart : Char → Bool} {found : Match} {pivot : Char}

/-- Whether a character may stand in a token. -/
def isTokenChar (character : Char) : Bool :=
  isPlainAlphanumeric character || character == '_'

/-- A rule that recognises the longest token at a place and keeps nothing in front of it. -/
structure TokenRule (rule : Rule) (isToken : List Char → Prop) (isPart : Char → Bool) : Prop where
  eq_some_iff : ∀ {text : List Char} {found : Match}, rule text = some found ↔
    ∃ token rest, text = token ++ rest ∧ isToken token
      ∧ (∀ next ∈ rest.head?, isPart next = false) ∧ found = ⟨0, token.length⟩
  starts : ∀ {token : List Char}, isToken token → token.head? = some 'g'
  chars : ∀ {token : List Char}, isToken token → ∀ part ∈ token, isTokenChar part = true
  parts : ∀ {part : Char}, isPart part = true → isTokenChar part = true

/-- Whether a word may mark a token. -/
def isMark (word : List Char) : Bool :=
  word.head? == some 'g' && word.all isTokenChar

/-- A rule for the longest token with one of some marks is a rule for tokens. -/
theorem tokenRule_of_marks (marks : List (List Char))
    (tokens : ∀ {token : List Char},
      isToken token ↔ ∃ mark ∈ marks, IsTokenOf mark isPart token)
    (recognised : ∀ {text : List Char} {found : Match}, rule text = some found ↔
      ∃ mark ∈ marks, ∃ rest, text = mark ++ rest ∧ tokenMatch isPart text rest = some found)
    (marked : marks.all isMark = true)
    (parts : ∀ {part : Char}, isPart part = true → isTokenChar part = true) :
    TokenRule rule isToken isPart where
  eq_some_iff := by
    intro text found
    rw [recognised]
    constructor
    · rintro ⟨mark, among, rest, rfl, matched⟩
      obtain ⟨long, rfl⟩ := tokenMatch_eq_some_iff.mp matched
      refine ⟨mark ++ rest.takeWhile isPart, rest.dropWhile isPart, ?_, tokens.mpr ⟨mark, among, _,
        rfl, long, fun _ => List.mem_takeWhile_imp⟩, fun next behind => ?_,
        by rw [List.length_append]⟩
      · rw [List.append_assoc, List.takeWhile_append_dropWhile]
      · have stop := List.head?_dropWhile_not isPart rest
        rw [behind] at stop
        simpa using stop
    · rintro ⟨token, rest, rfl, holds, stop, rfl⟩
      obtain ⟨mark, among, body, rfl, long, inBody⟩ := tokens.mp holds
      have taken : (body ++ rest).takeWhile isPart = body := by
        rw [List.takeWhile_append_of_pos inBody]
        cases rest with
        | nil => simp
        | cons next rest => simp [stop next rfl]
      refine ⟨mark, among, body ++ rest, List.append_assoc .., ?_⟩
      rw [List.append_assoc, tokenMatch_eq_some_iff, taken, List.length_append]
      exact ⟨long, rfl⟩
  starts := by
    intro token holds
    obtain ⟨mark, among, body, rfl, _⟩ := tokens.mp holds
    have first : mark.head? = some 'g' := by
      simpa using (Bool.and_eq_true_iff.mp (List.all_eq_true.mp marked mark among)).1
    cases mark with
    | nil => cases first
    | cons head mark => exact first
  chars := by
    intro token holds part member
    obtain ⟨mark, among, body, rfl, _, inBody⟩ := tokens.mp holds
    rcases List.mem_append.mp member with inMark | member
    · exact List.all_eq_true.mp (Bool.and_eq_true_iff.mp (List.all_eq_true.mp marked mark among)).2
        part inMark
    · exact parts (inBody part member)
  parts := parts

theorem tokenRule_accessToken : TokenRule accessToken IsAccessToken isPlainAlphanumeric := by
  refine tokenRule_of_marks (tokenKinds.map fun kind => ['g', 'h', kind, '_']) ?_ ?_ (by decide)
    fun isPart => by rw [isTokenChar, isPart, Bool.true_or]
  · simp only [List.mem_map, exists_exists_and_eq_and, IsAccessToken, implies_true]
  · intro text found
    rw [accessToken_eq_some_iff]
    simp only [List.mem_map, exists_exists_and_eq_and]

theorem tokenRule_finegrainedToken :
    TokenRule finegrainedToken IsFinegrainedToken isTokenChar := by
  refine tokenRule_of_marks ["github_pat_".toList] ?_ ?_ (by decide) id
  · simp only [List.mem_singleton, exists_eq_left]
    exact Iff.rfl
  · intro text found
    simp only [List.mem_singleton, exists_eq_left]
    exact finegrainedToken_eq_some_iff

namespace TokenRule

variable (tokenRule : TokenRule rule isToken isPart)

include tokenRule

theorem orderly : Orderly rule where
  shape matched := by
    obtain ⟨token, rest, rfl, holds, _, rfl⟩ := tokenRule.eq_some_iff.mp matched
    refine ⟨[], token, rest, rfl, ?_, by simp, by simp⟩
    rintro rfl
    cases tokenRule.starts holds

/-- **What a pass does at a place**: the end, a character that stays, or a token that is hidden. -/
theorem replace_cases (text : List Char) :
    text = []
      ∨ (∃ first rest, text = first :: rest ∧ rule text = none
          ∧ replace rule 0 text = first :: replace rule 0 rest)
      ∨ ∃ token rest, text = 'g' :: token ++ rest ∧ isToken ('g' :: token)
          ∧ replace rule 0 text = marker ++ replace rule 0 rest := by
  rcases tokenRule.orderly.replace_cases text with
    none | here | ⟨lead, secret, rest, whole, _, _, matched, replaced⟩
  · exact Or.inl none
  · exact Or.inr (Or.inl here)
  · obtain ⟨token, behind, split, holds, _, same⟩ := tokenRule.eq_some_iff.mp matched
    obtain ⟨kept, size⟩ := Match.mk.inj same
    obtain rfl : lead = [] := List.length_eq_zero_iff.mp kept
    rw [whole, List.nil_append] at split
    obtain ⟨rfl, rfl⟩ := List.append_inj split (by simpa using size)
    cases secret with
    | nil => cases tokenRule.starts holds
    | cons first token =>
      cases tokenRule.starts holds
      exact Or.inr (Or.inr ⟨token, rest, whole, holds, replaced⟩)

/-- A character that is in no token ends what the rule reads. -/
theorem eq_of_append_cons (apart : isTokenChar pivot = false) :
    rule (front ++ pivot :: rest) = rule front := by
  have outside : ∀ {token : List Char}, isToken token → pivot ∉ token := by
    intro token holds member
    rw [tokenRule.chars holds pivot member] at apart
    cases apart
  have unpart : isPart pivot = false :=
    Bool.eq_false_iff.mpr fun isPart => by simp [tokenRule.parts isPart] at apart
  ext found
  constructor
  · intro matched
    obtain ⟨token, behind, split, holds, stop, rfl⟩ := tokenRule.eq_some_iff.mp matched
    rcases List.append_eq_append_iff.mp split with ⟨more, rfl, others⟩ | ⟨more, rfl, rfl⟩
    · cases more with
      | nil =>
        rw [List.append_nil] at holds ⊢
        exact tokenRule.eq_some_iff.mpr ⟨front, [], by simp, holds, by simp, rfl⟩
      | cons head more =>
        obtain ⟨rfl, _⟩ := List.cons.inj others
        exact absurd (by simp) (outside holds)
    · refine tokenRule.eq_some_iff.mpr ⟨token, more, rfl, holds, fun next member => ?_, rfl⟩
      cases more with
      | nil => cases member
      | cons head more => exact stop next member
  · intro matched
    obtain ⟨token, behind, rfl, holds, stop, rfl⟩ := tokenRule.eq_some_iff.mp matched
    refine tokenRule.eq_some_iff.mpr
      ⟨token, behind ++ pivot :: rest, List.append_assoc .., holds, fun next member => ?_, rfl⟩
    cases behind with
    | nil =>
      cases member
      exact unpart
    | cons head behind => exact stop next member

/-- **A pass goes on afresh** behind a character that is in no token. -/
theorem replace_append_cons (apart : isTokenChar pivot = false) :
    replace rule 0 (front ++ pivot :: rest)
      = replace rule 0 front ++ pivot :: replace rule 0 rest := by
  have same : rule ([] ++ pivot :: rest) = rule [] := tokenRule.eq_of_append_cons apart
  have here : rule (pivot :: rest) = none := same.trans tokenRule.orderly.nil
  rw [tokenRule.orderly.replace_append fun _ _ _ _ => tokenRule.eq_of_append_cons apart,
    replace_cons_of_none here]

/-- Nothing is recognised where no token starts. -/
theorem passesOver (unstarted : 'g' ∉ part) : PassesOver rule part rest := by
  rintro gone left rfl filled
  cases left with
  | nil => exact absurd rfl filled
  | cons first left =>
    cases matched : rule (first :: left ++ rest) with
    | none => rfl
    | some found =>
      obtain ⟨token, behind, whole, holds, _⟩ := tokenRule.eq_some_iff.mp matched
      cases token with
      | nil => cases tokenRule.starts holds
      | cons head token =>
        cases tokenRule.starts holds
        obtain ⟨rfl, _⟩ := List.cons.inj whole
        exact absurd (by simp) unstarted

/-- **A part without brackets** that a pass leaves stood there before, and the pass came to what
follows it. -/
theorem exists_of_replace (plain : '[' ∉ part) (whole : replace rule 0 text = part ++ rest) :
    ∃ before, text = part ++ before ∧ rest = replace rule 0 before := by
  induction part generalizing text with
  | nil => exact ⟨text, rfl, whole.symm⟩
  | cons first part ih =>
    rcases tokenRule.replace_cases text with
      rfl | ⟨head, others, rfl, _, replaced⟩ | ⟨token, others, rfl, _, replaced⟩
    · cases whole
    · rw [replaced] at whole
      obtain ⟨rfl, same⟩ := List.cons.inj whole
      obtain ⟨before, rfl, behind⟩ := ih (fun member => plain (List.mem_cons_of_mem _ member)) same
      exact ⟨before, rfl, behind⟩
    · rw [replaced] at whole
      have bracket : '[' = first := (List.cons.inj whole).1
      exact absurd (bracket ▸ List.mem_cons_self) plain

/-- A value starts in what a pass leaves where one started before. -/
theorem startsValue_replace : StartsValue (replace rule 0 text) ↔ StartsValue text := by
  rcases tokenRule.replace_cases text with
    rfl | ⟨first, rest, rfl, _, replaced⟩ | ⟨token, rest, rfl, _, replaced⟩
  · exact Iff.rfl
  · simp [replaced, StartsValue]
  · rw [replaced]
    have opening : StartsValue (marker ++ replace rule 0 rest) := ⟨'[', _, rfl, by decide⟩
    have token : StartsValue ('g' :: token ++ rest) := ⟨'g', _, rfl, by decide⟩
    exact ⟨fun _ => token, fun _ => opening⟩

/-- A rule for tokens leaves its marker behind what stood before the first token. -/
theorem exists_marker (matched : ¬ PassesOver rule text []) :
    ∃ front rest, replace rule 0 text = front ++ (marker ++ rest) ∧ front <+: text := by
  obtain ⟨front, back, found, rfl, _, passed, here⟩ := exists_first matched
  rw [List.append_nil] at passed here
  rcases tokenRule.replace_cases back with
    rfl | ⟨_, _, _, none, _⟩ | ⟨token, rest, _, _, replaced⟩
  · rw [tokenRule.orderly.nil] at here
    cases here
  · rw [here] at none
    cases none
  · exact ⟨front, _, by rw [passed.replace_append, replaced], List.prefix_append ..⟩

/-- A pass goes on afresh behind a marker. -/
theorem replace_append_marker :
    replace rule 0 (front ++ (marker ++ rest))
      = replace rule 0 front ++ (marker ++ replace rule 0 rest) := by
  have unstarted : 'g' ∉ markerEnd := by decide
  calc replace rule 0 (front ++ (marker ++ rest))
      = replace rule 0 (front ++ '[' :: (markerEnd ++ rest)) := rfl
    _ = replace rule 0 front ++ '[' :: replace rule 0 (markerEnd ++ rest) :=
        tokenRule.replace_append_cons (by decide)
    _ = replace rule 0 front ++ '[' :: (markerEnd ++ replace rule 0 rest) := by
        rw [(tokenRule.passesOver unstarted).replace_append]
    _ = replace rule 0 front ++ (marker ++ replace rule 0 rest) := rfl

end TokenRule

end Tokens

/-! ### Rules for keys -/

section Keys

variable {lead guard : List Char → Prop} {pivot : Char}

/-- A rule that recognises the longest value behind a lead, unless a guard forbids it. -/
structure KeyRule (rule : Rule) (lead guard : List Char → Prop) : Prop where
  plain : Plain lead
  eq_some_iff : ∀ {text : List Char} {found : Match}, rule text = some found ↔
    ∃ part rest, text = part ++ rest ∧ lead part ∧ (StartsValue rest ∧ guard rest)
      ∧ found = matchBehind part rest

/-- No lead stands in a part of a text. -/
def Leadless (lead : List Char → Prop) (part : List Char) : Prop :=
  ∀ key, lead key → ¬ key <:+: part

theorem Leadless.of_infix (leadless : Leadless lead text) (inside : part <:+: text) :
    Leadless lead part :=
  fun key isLead within => leadless key isLead (within.trans inside)

theorem keyRule_authorization : KeyRule authorization LeadsToCredential fun _ => True where
  plain := plain_leadsToCredential
  eq_some_iff := by
    intro text found
    simpa only [and_true] using authorization_eq_some_iff

theorem keyRule_pair : KeyRule pair LeadsToSecret fun rest => ¬ StartsMarked rest where
  plain := plain_leadsToSecret
  eq_some_iff := pair_eq_some_iff

namespace KeyRule

variable (keyRule : KeyRule rule lead guard)

include keyRule

theorem exists_lead {found : Match} (matched : rule text = some found) :
    ∃ part rest, text = part ++ rest ∧ lead part ∧ StartsValue rest
      ∧ found = matchBehind part rest := by
  obtain ⟨part, rest, whole, isLead, ⟨value, _⟩, same⟩ := keyRule.eq_some_iff.mp matched
  exact ⟨part, rest, whole, isLead, value, same⟩

theorem orderly : Orderly rule :=
  orderly_of_leads keyRule.plain keyRule.exists_lead

/-- **Behind a lead** the value goes as far as it reaches. -/
theorem replace_lead (isLead : lead part) (value : StartsValue rest) (free : guard rest) :
    replace rule 0 (part ++ rest)
      = part ++ (marker ++ replace rule 0 (rest.dropWhile isValueChar)) := by
  have filled : rest.takeWhile isValueChar ≠ [] := by
    obtain ⟨first, others, rfl, isValue⟩ := value
    simp [isValue]
  have whole := List.takeWhile_append_dropWhile (p := isValueChar) (l := rest)
  have matched := keyRule.eq_some_iff.mpr ⟨part, rest, rfl, isLead, ⟨value, free⟩, rfl⟩
  have replaced : replace rule 0 (part ++ (rest.takeWhile isValueChar
      ++ rest.dropWhile isValueChar)) = _ := replace_of_some filled (by rwa [whole])
  rwa [whole] at replaced

/-- **What a pass does at a place**: the end, a character that stays, or a value that is hidden. -/
theorem replace_cases (text : List Char) :
    text = []
      ∨ (∃ first rest, text = first :: rest ∧ rule text = none
          ∧ replace rule 0 text = first :: replace rule 0 rest)
      ∨ ∃ part rest, text = part ++ rest ∧ lead part ∧ StartsValue rest ∧ guard rest
          ∧ replace rule 0 text
            = part ++ (marker ++ replace rule 0 (rest.dropWhile isValueChar)) := by
  cases text with
  | nil => exact Or.inl rfl
  | cons first rest =>
    refine Or.inr ?_
    cases matched : rule (first :: rest) with
    | none => exact Or.inl ⟨first, rest, rfl, rfl, replace_cons_of_none matched⟩
    | some found =>
      obtain ⟨part, behind, whole, isLead, ⟨value, free⟩, _⟩ := keyRule.eq_some_iff.mp matched
      refine Or.inr ⟨part, behind, whole, isLead, value, free, ?_⟩
      rw [whole]
      exact keyRule.replace_lead isLead value free

/-- The first character stays. -/
theorem head?_replace (text : List Char) : (replace rule 0 text).head? = text.head? := by
  rcases keyRule.replace_cases text with
    rfl | ⟨first, rest, rfl, _, replaced⟩ | ⟨part, rest, rfl, isLead, _, _, replaced⟩
  · rfl
  · rw [replaced]
    rfl
  · rw [replaced]
    cases part with
    | nil => exact absurd rfl (keyRule.plain.ne_nil isLead)
    | cons first part => rfl

theorem exists_replace_cons {first : Char} :
    ∃ more, replace rule 0 (first :: rest) = first :: more := by
  have same := keyRule.head?_replace (first :: rest)
  cases whole : replace rule 0 (first :: rest) with
  | nil => simp [whole] at same
  | cons head more =>
    rw [whole] at same
    cases same
    exact ⟨more, rfl⟩

/-- Markers are passed over. -/
theorem passesOver_of_marked {found : List Char} (marked : IsWord markerLetters found) :
    PassesOver rule found rest := by
  intro gone left split filled
  cases matched : rule (left ++ rest) with
  | none => rfl
  | some found =>
    obtain ⟨part, behind, whole, isLead, _⟩ := keyRule.exists_lead matched
    exact absurd whole (keyRule.plain.unmarked isLead marked split filled)

/-- A marker stays, and so does what it ends with. -/
theorem replace_append_of_marker {gone left : List Char} (split : marker = gone ++ left) :
    replace rule 0 (left ++ rest) = left ++ replace rule 0 rest := by
  have passed : PassesOver rule (gone ++ left) rest :=
    split ▸ keyRule.passesOver_of_marked isWord_marker
  exact passed.of_append.replace_append

theorem eq_none_of_bracket : rule ('[' :: rest) = none := by
  refine Option.eq_none_iff_forall_ne_some.mpr fun found matched => ?_
  obtain ⟨part, behind, whole, isLead, _⟩ := keyRule.exists_lead matched
  cases part with
  | nil => exact absurd rfl (keyRule.plain.ne_nil isLead)
  | cons first part =>
    obtain ⟨rfl, _⟩ := List.cons.inj whole
    exact absurd List.mem_cons_self (keyRule.plain.unbracketed isLead)

/-- No lead goes across an opening bracket, so a part that has no lead in it is passed over in front
of one. -/
theorem passesOver_of_leadless (leadless : Leadless lead part) :
    PassesOver rule part ('[' :: rest) := by
  intro gone left split filled
  cases matched : rule (left ++ '[' :: rest) with
  | none => rfl
  | some found =>
    obtain ⟨taken, behind, whole, isLead, _⟩ := keyRule.exists_lead matched
    rcases List.append_eq_append_iff.mp whole with ⟨more, rfl, others⟩ | ⟨more, rfl, _⟩
    · cases more with
      | nil =>
        rw [List.append_nil] at isLead
        exact absurd ⟨gone, [], by rw [split, List.append_nil]⟩ (leadless left isLead)
      | cons head more =>
        obtain ⟨rfl, _⟩ := List.cons.inj others
        exact absurd (by simp) (keyRule.plain.unbracketed isLead)
    · exact absurd ⟨gone, more, by rw [split, List.append_assoc]⟩ (leadless taken isLead)

/-- A part that has no lead in it stays, and so does the first character behind it: a lead that goes
on there is kept. -/
theorem exists_replace_append_cons {first : Char} (leadless : Leadless lead part) :
    ∃ more, replace rule 0 (part ++ first :: rest) = part ++ first :: more := by
  induction part with
  | nil => exact keyRule.exists_replace_cons
  | cons head part ih =>
    rcases keyRule.replace_cases (head :: part ++ first :: rest) with
      none | ⟨_, _, whole, _, replaced⟩ | ⟨key, behind, whole, isLead, _, _, replaced⟩
    · cases none
    · cases whole
      obtain ⟨more, others⟩ := ih (leadless.of_infix (List.suffix_cons head part).isInfix)
      exact ⟨more, replaced.trans (congrArg (List.cons head) others)⟩
    · rw [replaced]
      rcases List.append_eq_append_iff.mp whole with ⟨more, rfl, others⟩ | ⟨more, split, _⟩
      · cases more with
        | nil =>
          rw [List.append_nil] at isLead
          exact absurd (List.infix_refl _) (leadless _ isLead)
        | cons second more =>
          obtain ⟨rfl, _⟩ := List.cons.inj others
          refine ⟨more ++ (marker ++ replace rule 0 (behind.dropWhile isValueChar)), ?_⟩
          simp only [List.append_assoc, List.cons_append]
      · exact absurd ⟨[], more, split.symm⟩ (leadless key isLead)

end KeyRule

/-! #### Characters that start leads -/

/-- A character of values that stands in a lead at most at its start. -/
structure IsPivot (lead guard : List Char → Prop) (pivot : Char) : Prop where
  value : isValueChar pivot = true
  starts : ∀ {part : List Char}, lead part → pivot ∉ part.tail
  guarded : ∀ {rest more : List Char}, guard (rest ++ pivot :: more) ↔ guard rest

/-- A lead starts a part, and a value may follow it. -/
def StartsLead (lead guard : List Char → Prop) (part : List Char) : Prop :=
  ∃ key behind, part = key ++ behind ∧ lead key ∧ guard behind
    ∧ ∀ next ∈ behind.head?, isValueChar next = true

theorem StartsValue.head? (value : StartsValue text) :
    ∀ next ∈ text.head?, isValueChar next = true := by
  obtain ⟨first, rest, rfl, isValue⟩ := value
  rintro _ ⟨⟩
  exact isValue

theorem startsValue_of_head? (filled : text ≠ [])
    (first : ∀ next ∈ text.head?, isValueChar next = true) : StartsValue text := by
  cases text with
  | nil => exact absurd rfl filled
  | cons head text => exact ⟨head, text, rfl, first head rfl⟩

/-- Whatever follows a character behind some text, a pass goes on afresh there, or takes it with a
value that has come before. -/
def PartsAt (rule : Rule) (pivot : Char) (front : List Char) : Prop :=
  (∀ rest, replace rule 0 (front ++ pivot :: rest)
      = replace rule 0 front ++ replace rule 0 (pivot :: rest))
    ∨ ∃ shown, ∀ rest, replace rule 0 (front ++ pivot :: rest)
        = shown ++ (marker ++ replace rule 0 (rest.dropWhile isValueChar))

/-- What is not recognised comes before. -/
theorem PartsAt.cons {first : Char} (parts : PartsAt rule pivot front)
    (unmatched : ∀ rest, rule (first :: (front ++ pivot :: rest)) = none)
    (alone : rule (first :: front) = none) : PartsAt rule pivot (first :: front) := by
  rcases parts with afresh | ⟨shown, taken⟩
  · refine Or.inl fun rest => ?_
    rw [List.cons_append, replace_cons_of_none (unmatched _), afresh, replace_cons_of_none alone,
      List.cons_append]
  · refine Or.inr ⟨first :: shown, fun rest => ?_⟩
    rw [List.cons_append, replace_cons_of_none (unmatched _), taken, List.cons_append]

namespace KeyRule

variable (keyRule : KeyRule rule lead guard) (isPivot : IsPivot lead guard pivot)

include keyRule

theorem startsLead {found : Match} (matched : rule text = some found) :
    StartsLead lead guard text := by
  obtain ⟨key, behind, whole, isLead, ⟨value, free⟩, _⟩ := keyRule.eq_some_iff.mp matched
  exact ⟨key, behind, whole, isLead, free, value.head?⟩

include isPivot

/-- What is recognised before the character starts with a lead before it. -/
theorem startsLead_of_append {found : Match} (filled : front ≠ [])
    (matched : rule (front ++ pivot :: rest) = some found) : StartsLead lead guard front := by
  obtain ⟨key, behind, whole, isLead, ⟨value, free⟩, _⟩ := keyRule.eq_some_iff.mp matched
  rcases List.append_eq_append_iff.mp whole with ⟨more, rfl, others⟩ | ⟨more, rfl, rfl⟩
  · cases more with
    | nil =>
      obtain rfl : pivot :: rest = behind := others
      rw [List.append_nil] at isLead
      exact ⟨front, [], by simp, isLead, isPivot.guarded.mp free, by simp⟩
    | cons head more =>
      obtain ⟨rfl, _⟩ := List.cons.inj others
      cases front with
      | nil => exact absurd rfl filled
      | cons first front => exact absurd (by simp) (isPivot.starts isLead)
  · refine ⟨key, more, rfl, isLead, isPivot.guarded.mp free, fun next member => ?_⟩
    cases more with
    | nil => cases member
    | cons head more => exact value.head? next member

/-- A lead comes before, with the value behind it as far as it goes. -/
theorem partsAt_lead {key behind : List Char} (isLead : lead key) (free : guard behind)
    (first : ∀ next ∈ behind.head?, isValueChar next = true)
    (parts : behind.dropWhile isValueChar ≠ [] →
      PartsAt rule pivot (behind.dropWhile isValueChar)) : PartsAt rule pivot (key ++ behind) := by
  have replaced : ∀ rest, replace rule 0 ((key ++ behind) ++ pivot :: rest)
      = key ++ (marker ++ replace rule 0 ((behind ++ pivot :: rest).dropWhile isValueChar)) := by
    intro rest
    have value : StartsValue (behind ++ pivot :: rest) := by
      refine startsValue_of_head? (by simp) fun next member => ?_
      cases behind with
      | nil => exact Option.mem_some.mp member ▸ isPivot.value
      | cons head behind => exact first next member
    rw [List.append_assoc]
    exact keyRule.replace_lead isLead value (isPivot.guarded.mpr free)
  by_cases all : behind.dropWhile isValueChar = []
  · -- the value runs up to the character
    refine Or.inr ⟨key, fun rest => ?_⟩
    rw [replaced, List.dropWhile_append, all, List.isEmpty_nil, if_pos rfl,
      List.dropWhile_cons_of_pos isPivot.value]
  · have value : StartsValue behind := by
      refine startsValue_of_head? ?_ first
      rintro rfl
      exact all rfl
    have dropped : ∀ rest, (behind ++ pivot :: rest).dropWhile isValueChar
        = behind.dropWhile isValueChar ++ pivot :: rest := by
      intro rest
      rw [List.dropWhile_append, if_neg (by simpa using all)]
    rcases parts all with afresh | ⟨shown, taken⟩
    · refine Or.inl fun rest => ?_
      rw [replaced, dropped, afresh, keyRule.replace_lead isLead value free]
      simp only [List.append_assoc]
    · refine Or.inr ⟨key ++ (marker ++ shown), fun rest => ?_⟩
      rw [replaced, dropped, taken]
      simp only [List.append_assoc]

/-- **A character that starts leads**: whatever follows it, a pass goes on afresh there, or takes it
with a value that has come before. -/
theorem partsAt_pivot (front : List Char) : PartsAt rule pivot front := by
  induction size : front.length using Nat.strong_induction_on generalizing front with
  | _ size ih =>
  subst size
  by_cases taken : StartsLead lead guard front
  · obtain ⟨key, behind, rfl, isLead, free, first⟩ := taken
    have size := List.length_pos_iff.mpr (keyRule.plain.ne_nil isLead)
    have shorter := (List.dropWhile_suffix isValueChar (l := behind)).length_le
    refine keyRule.partsAt_lead isPivot isLead free first fun _ => ?_
    exact ih _ (by rw [List.length_append]; omega) (behind.dropWhile isValueChar) rfl
  · cases front with
    | nil => exact Or.inl fun rest => rfl
    | cons first front =>
      have unmatched : ∀ rest, rule (first :: (front ++ pivot :: rest)) = none := by
        refine fun rest => Option.eq_none_iff_forall_ne_some.mpr fun found matched => ?_
        exact taken (keyRule.startsLead_of_append isPivot (List.cons_ne_nil first front) matched)
      have alone : rule (first :: front) = none :=
        Option.eq_none_iff_forall_ne_some.mpr fun found matched =>
          taken (keyRule.startsLead matched)
      exact (ih front.length (by simp) front rfl).cons unmatched alone

end KeyRule

end Keys

end AssetFetch.Redaction
