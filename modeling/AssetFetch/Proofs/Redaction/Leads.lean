/-
**What stands in front of secrets.**

The rules for keys recognise what stands behind a lead. Where a lead can start, and what it can go
across, follows from its characters: letters, blanks, quotes and one separator.

* `LeadsToCredential.not_mem`, `LeadsToSecret.not_mem_tail`: letters that are in no lead, or only at
  its start;
* `isPivot_credential`, `isPivot_secret`: the letter that the key `password` starts with;
* `LeadsToCredential.exists_append`: a lead that starts in a word goes on behind it;
* `LeadsToCredential.leadless`: no secret key with its separator is in the lead of a
  credential;
* `passesOver_of_unstarted`, `passesOver_of_unblank`: parts in which no header starts.
-/

import AssetFetch.Proofs.Redaction.Parts

namespace AssetFetch.Redaction

open AssetFetch.Text

variable {part rest front back lead : List Char} {character : Char}

/-! ### Letters -/

theorem IsWord.mem {word found : List Char} (same : IsWord word found)
    (member : character ∈ found) : letterOf character ∈ word :=
  same ▸ List.mem_map_of_mem member

/-- A letter of none of the words is nowhere in what leads to a credential. -/
theorem LeadsToCredential.not_mem (isLead : LeadsToCredential part)
    (alphabetic : IsAlphabetic character)
    (other : letterOf character ∉ "authorization".toList ++ ("token".toList ++ "bearer".toList)) :
    character ∉ part := by
  obtain ⟨isKey, between, isScheme, _, blank⟩ := isLead
  intro member
  simp only [List.mem_append] at member
  rcases member with inKey | inMiddle | inScheme | inGap
  · exact other (List.mem_append_left _ (isKey.mem inKey))
  · exact (between.not_alphabetic _ inMiddle).1 alphabetic
  · rcases isScheme with isScheme | isScheme
    · exact other (List.mem_append_right _ (List.mem_append_left _ (isScheme.mem inScheme)))
    · exact other (List.mem_append_right _ (List.mem_append_right _ (isScheme.mem inScheme)))
  · exact not_alphabetic_of_blank blank _ inGap alphabetic

/-- A letter of neither key is in what leads to a secret at most at its start. -/
theorem LeadsToSecret.not_mem_tail (isLead : LeadsToSecret part)
    (alphabetic : IsAlphabetic character)
    (other : letterOf character ∉ "token".toList.tail ++ "password".toList.tail) :
    character ∉ part.tail := by
  obtain ⟨isKey, between⟩ := isLead
  rename_i key middle
  rcases isKey with isKey | isKey
  all_goals
    obtain ⟨first, others, rfl, same⟩ := isKey.exists_cons (by decide)
    intro member
    rcases List.mem_append.mp member with inKey | inMiddle
  · exact other (List.mem_append_left _ (same.mem inKey))
  · exact (between.not_alphabetic _ inMiddle).1 alphabetic
  · exact other (List.mem_append_right _ (same.mem inKey))
  · exact (between.not_alphabetic _ inMiddle).1 alphabetic

theorem isAlphabetic_of_isSmall (small : IsSmall [character])
    (own : letterOf character = character) : IsAlphabetic character := by
  rw [IsAlphabetic, own]
  exact small character (List.mem_singleton_self _)

theorem isPivot_credential : IsPivot LeadsToCredential (fun _ => True) 'p' where
  value := by decide
  starts isLead member := isLead.not_mem (isAlphabetic_of_isSmall (by decide) (by decide))
    (by decide) (List.mem_of_mem_tail member)
  guarded := Iff.rfl

theorem isPivot_secret : IsPivot LeadsToSecret (fun rest => ¬ StartsMarked rest) 'p' where
  value := by decide
  starts isLead :=
    isLead.not_mem_tail (isAlphabetic_of_isSmall (by decide) (by decide)) (by decide)
  guarded := by
    intro rest more
    refine not_congr ⟨?_, ?_⟩
    · rintro ⟨found, behind, marked, whole⟩
      rcases List.append_eq_append_iff.mp whole with ⟨inner, rfl, others⟩ | ⟨inner, rfl, _⟩
      · cases inner with
        | nil => exact ⟨rest, [], by simpa using marked, by simp⟩
        | cons head inner =>
          obtain ⟨rfl, _⟩ := List.cons.inj others
          have letter := marked.mem (show 'p' ∈ rest ++ 'p' :: inner by simp)
          exact absurd letter (by decide)
      · exact ⟨found, inner, marked, rfl⟩
    · rintro ⟨found, behind, marked, rfl⟩
      exact ⟨found, behind ++ 'p' :: more, marked, List.append_assoc ..⟩

/-! ### Leads in the middle of a text -/

theorem LeadsToCredential.exists_blank (isLead : LeadsToCredential lead) :
    ∃ character ∈ lead, isBlank character = true := by
  obtain ⟨_, _, _, filled, blank⟩ := isLead
  obtain ⟨character, member⟩ := List.exists_mem_of_ne_nil _ filled
  exact ⟨character, by simp [member], blank character member⟩

/-- A lead that starts in a part without blanks goes on behind it. -/
theorem LeadsToCredential.exists_append (isLead : LeadsToCredential lead)
    (unblank : ∀ character ∈ front, isBlank character = false)
    (whole : front ++ back = lead ++ rest) :
    ∃ space, space ≠ [] ∧ lead = front ++ space ∧ back = space ++ rest := by
  obtain ⟨character, member, blank⟩ := isLead.exists_blank
  have outside : character ∉ front := fun inFront => by simp [unblank _ inFront] at blank
  rcases List.append_eq_append_iff.mp whole with ⟨space, rfl, others⟩ | ⟨more, rfl, _⟩
  · refine ⟨space, ?_, rfl, others⟩
    rintro rfl
    rw [List.append_nil] at member
    exact outside member
  · exact absurd (List.mem_append_left more member) outside

theorem LeadsToCredential.unstarted_tail (isLead : LeadsToCredential (front ++ back))
    (filled : front ≠ []) : Unstarted "authorization".toList back := by
  obtain ⟨first, others, whole, free⟩ := isLead.exists_cons
  cases front with
  | nil => exact absurd rfl filled
  | cons head front =>
    obtain ⟨rfl, rfl⟩ := List.cons.inj whole
    refine ⟨fun {gone left rest found more} isWord split => ?_⟩
    have inside : front ++ back = (front ++ gone) ++ left := by rw [split, List.append_assoc]
    exact free.apart isWord inside

theorem passesOver_of_unstarted (free : Unstarted "authorization".toList part) :
    PassesOver authorization part rest := by
  intro gone left split filled
  refine Option.eq_none_iff_forall_ne_some.mpr fun found matched => ?_
  obtain ⟨_, behind, whole, isLead, _⟩ := keyRule_authorization.exists_lead matched
  obtain ⟨isKey, _⟩ := isLead
  rw [List.append_assoc] at whole
  exact free.apart isKey split filled whole

theorem IsBetween.exists_mark {middle : List Char} (between : IsBetween middle) :
    ∃ mark ∈ middle, ¬ IsAlphabetic mark ∧ isBlank mark = false := by
  obtain ⟨first, gap, isMark, space, second⟩ := between
  rename_i mark
  refine ⟨mark, by simp, ?_, ?_⟩
  · intro alphabetic
    rcases isMark with same | same
    · exact alphabetic.apart.2.2.1 same
    · exact alphabetic.apart.2.2.2.1 same
  · rcases isMark with rfl | rfl <;> decide

/-- No secret key with its separator stands in what leads to a credential: a key might start at the
scheme, and no separator comes behind that. -/
theorem LeadsToCredential.leadless (isLead : LeadsToCredential lead) :
    Leadless LeadsToSecret lead := by
  rintro _ ⟨isKey, between⟩ ⟨front, back, split⟩
  rename_i secretKey secretMiddle
  obtain ⟨isName, middle, isScheme, filled, blank⟩ := isLead
  rename_i name middle' scheme gap
  have unstarted : ∀ {word : List Char}, IsSmall word → word ≠ [] →
      Clear word "authorization".toList → Unstarted word (name ++ middle') :=
    fun small filled clear => (unstarted_of_clear clear isName).append
      (unstarted_of_not_alphabetic small filled fun character member =>
        (middle.not_alphabetic character member).1)
  have behind : ∃ more, scheme ++ gap = more ++ (secretKey ++ (secretMiddle ++ back)) := by
    have whole : (name ++ middle') ++ (scheme ++ gap)
        = front ++ (secretKey ++ (secretMiddle ++ back)) := by
      simpa only [List.append_assoc] using split.symm
    rcases List.append_eq_append_iff.mp whole with ⟨more, _, others⟩ | ⟨more, inside, others⟩
    · exact ⟨more, others⟩
    · by_cases none : more = []
      · subst none
        exact ⟨[], others.symm⟩
      · rcases isKey with isKey | isKey
        · exact absurd others.symm
            ((unstarted (by decide) (by decide) (by decide)).apart isKey inside none)
        · exact absurd others.symm
            ((unstarted (by decide) (by decide) (by decide)).apart isKey inside none)
  obtain ⟨more, others⟩ := behind
  obtain ⟨mark, member, notLetter, notBlank⟩ := between.exists_mark
  have among : mark ∈ scheme ++ gap := by
    rw [others]
    simp [member]
  rcases List.mem_append.mp among with inScheme | inGap
  · rcases isScheme with isScheme | isScheme
    all_goals exact notLetter (isScheme.alphabetic (by decide) mark inScheme)
  · rw [blank mark inGap] at notBlank
    cases notBlank

/-- No header fits in front of a bracket where there are no blanks. -/
theorem passesOver_of_unblank (unblank : ∀ character ∈ part, isBlank character = false) :
    PassesOver authorization part (marker ++ rest) := by
  have leadless : Leadless LeadsToCredential part := by
    rintro key isLead ⟨gone, behind, rfl⟩
    obtain ⟨character, member, blank⟩ := isLead.exists_blank
    rw [unblank character (by simp [member])] at blank
    cases blank
  exact keyRule_authorization.passesOver_of_leadless leadless

end AssetFetch.Redaction
