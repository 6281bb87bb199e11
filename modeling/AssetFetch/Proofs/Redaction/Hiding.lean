/-
**What is left of a text when its secrets are hidden.**

A rule passes through a text once, but the text that it leaves is read by nobody: whatever stands
in it has to be traced back to the text before.

* `Orderly`: what all rules have in common;
* `PassesOver rule part rest`: nothing that starts in a part of a text is recognised;
* `Aligned rule before after`: what stands at a place after a pass, and what stood there before;
* `aligned_of_append`: every place after a pass is such a place, or lies in a marker;
* `Aligned.append`: a part without brackets stood there before the pass as well;
* `Aligned.of_bracket`: what a rule recognises nowhere in is passed over.
-/

import AssetFetch.Proofs.Redaction.Recognising

namespace AssetFetch.Redaction

open AssetFetch.Text

variable {rule : Rule} {text rest before after front back : List Char}

/-! ### One pass -/

/-- A rule that recognises a secret behind a part without brackets. -/
structure Orderly (rule : Rule) : Prop where
  shape : ∀ {text : List Char} {found : Match}, rule text = some found →
    ∃ lead secret rest, text = lead ++ (secret ++ rest) ∧ secret ≠ [] ∧ '[' ∉ lead
      ∧ found = ⟨lead.length, lead.length + secret.length⟩

theorem replace_skip (rule : Rule) (skip : Nat) (text : List Char) :
    replace rule skip text = replace rule 0 (text.drop skip) := by
  induction skip generalizing text with
  | zero => rfl
  | succ skip ih =>
    cases text with
    | nil => rfl
    | cons first text => exact ih text

theorem replace_cons_of_none {first : Char} (unmatched : rule (first :: rest) = none) :
    replace rule 0 (first :: rest) = first :: replace rule 0 rest := by
  simp only [replace, unmatched]

/-- A secret that is recognised is replaced by the marker. -/
theorem replace_of_some {lead secret : List Char} (filled : secret ≠ [])
    (matched : rule (lead ++ (secret ++ rest)) = some ⟨lead.length, lead.length + secret.length⟩) :
    replace rule 0 (lead ++ (secret ++ rest)) = lead ++ (marker ++ replace rule 0 rest) := by
  have size := List.length_pos_iff.mpr filled
  cases whole : lead ++ (secret ++ rest) with
  | nil => simp [filled] at whole
  | cons first others =>
    have kept : (first :: others).take lead.length = lead := by rw [← whole, List.take_left]
    have left : others.drop (lead.length + secret.length - 1) = rest := by
      have dropped : (first :: others).drop (lead.length + secret.length) = rest := by
        rw [← whole, ← List.append_assoc, ← List.length_append, List.drop_left]
      rwa [show lead.length + secret.length = lead.length + secret.length - 1 + 1 by omega,
        List.drop_succ_cons] at dropped
    rw [whole] at matched
    simp only [replace, matched, kept]
    rw [replace_skip, left, List.append_assoc]

/-- **What a pass does at a place**: nothing is left to do, or the first character stays, or a
secret is hidden. -/
theorem Orderly.replace_cases (orderly : Orderly rule) (text : List Char) :
    text = []
      ∨ (∃ first rest, text = first :: rest ∧ rule text = none
          ∧ replace rule 0 text = first :: replace rule 0 rest)
      ∨ ∃ lead secret rest, text = lead ++ (secret ++ rest) ∧ secret ≠ [] ∧ '[' ∉ lead
          ∧ rule text = some ⟨lead.length, lead.length + secret.length⟩
          ∧ replace rule 0 text = lead ++ (marker ++ replace rule 0 rest) := by
  cases text with
  | nil => exact Or.inl rfl
  | cons first rest =>
    refine Or.inr ?_
    cases matched : rule (first :: rest) with
    | none => exact Or.inl ⟨first, rest, rfl, rfl, replace_cons_of_none matched⟩
    | some found =>
      obtain ⟨lead, secret, others, whole, filled, open_, rfl⟩ := orderly.shape matched
      rw [whole] at matched ⊢
      exact Or.inr ⟨lead, secret, others, rfl, filled, open_, rfl, replace_of_some filled matched⟩

/-! ### Parts that are passed over -/

/-- A rule recognises nothing that starts in a part of a text, before the rest of the text. -/
def PassesOver (rule : Rule) (part rest : List Char) : Prop :=
  ∀ gone left, part = gone ++ left → left ≠ [] → rule (left ++ rest) = none

theorem PassesOver.nil : PassesOver rule [] rest :=
  fun _ _ split filled => absurd (List.append_eq_nil_iff.mp split.symm).2 filled

theorem passesOver_cons_iff {first : Char} {part : List Char} :
    PassesOver rule (first :: part) rest
      ↔ rule (first :: (part ++ rest)) = none ∧ PassesOver rule part rest := by
  constructor
  · intro passed
    exact ⟨passed [] (first :: part) rfl (List.cons_ne_nil first part),
      fun gone left split => passed (first :: gone) left (by rw [split, List.cons_append])⟩
  · rintro ⟨here, others⟩ gone left split filled
    cases gone with
    | nil =>
      obtain rfl : first :: part = left := split
      exact here
    | cons head gone =>
      obtain ⟨_, rfl⟩ := List.cons.inj split
      exact others gone left rfl filled

/-- **A part that is passed over** stays as it is. -/
theorem PassesOver.replace_append {part : List Char} (passed : PassesOver rule part rest) :
    replace rule 0 (part ++ rest) = part ++ replace rule 0 rest := by
  induction part with
  | nil => rfl
  | cons first part ih =>
    obtain ⟨here, others⟩ := passesOver_cons_iff.mp passed
    rw [List.cons_append, replace_cons_of_none here, ih others, List.cons_append]

/-! ### Places before and after -/

/-- What stood at a place before a pass, and what stands there after it. The pass has come to that
place, or the place lies behind the first character of a part that is kept. -/
inductive Aligned (rule : Rule) : (before after : List Char) → Prop
  | visited (text : List Char) : Aligned rule text (replace rule 0 text)
  | held {front back secret rest : List Char} (found : Match) :
      rule (front ++ (back ++ (secret ++ rest))) = some found →
      found.kept = (front ++ back).length → front ≠ [] → back ≠ [] → '[' ∉ back →
      Aligned rule (back ++ (secret ++ rest)) (back ++ (marker ++ replace rule 0 rest))

/-- **Every place after a pass** corresponds to one before it or lies in a marker. -/
theorem aligned_of_append (orderly : Orderly rule) {after : List Char}
    (whole : replace rule 0 text = front ++ after) :
    (∃ early before, text = early ++ before ∧ Aligned rule before after)
      ∨ ∃ gone left rest, marker = gone ++ left ∧ left ≠ [] ∧ after = left ++ rest := by
  induction size : text.length using Nat.strong_induction_on generalizing text front with
  | _ size ih =>
  subst size
  by_cases start : front = []
  · subst start
    rw [List.nil_append] at whole
    exact Or.inl ⟨[], text, rfl, whole ▸ .visited text⟩
  rcases orderly.replace_cases text with
    rfl | ⟨first, rest, rfl, _, same⟩ |
      ⟨lead, secret, rest, rfl, filled, unbracketed, matched, same⟩
  · obtain ⟨rfl, _⟩ := List.append_eq_nil_iff.mp whole.symm
    exact absurd rfl start
  · rw [same] at whole
    cases front with
    | nil => exact absurd rfl start
    | cons head front =>
      obtain ⟨rfl, others⟩ := List.cons.inj whole
      rcases ih rest.length (by simp) others rfl with ⟨early, before, rfl, aligned⟩ | inside
      · exact Or.inl ⟨first :: early, before, rfl, aligned⟩
      · exact Or.inr inside
  · rw [same] at whole
    have size := List.length_pos_iff.mpr filled
    rcases List.append_eq_append_iff.mp whole with ⟨gone, rfl, others⟩ | ⟨back, rfl, rfl⟩
    · rcases List.append_eq_append_iff.mp others with ⟨early, rfl, later⟩ | ⟨left, split, rfl⟩
      · rcases ih rest.length (by simp; omega) later rfl with ⟨more, before, rfl, aligned⟩ | inside
        · refine Or.inl ⟨lead ++ (secret ++ more), before, ?_, aligned⟩
          simp only [List.append_assoc]
        · exact Or.inr inside
      · by_cases none : left = []
        · subst none
          exact Or.inl ⟨lead ++ secret, rest, (List.append_assoc ..).symm, .visited rest⟩
        · exact Or.inr ⟨gone, left, _, split, none, rfl⟩
    · by_cases none : back = []
      · subst none
        exact Or.inr ⟨[], marker, _, rfl, by decide, rfl⟩
      · refine Or.inl ⟨front, back ++ (secret ++ rest), List.append_assoc .., ?_⟩
        rw [List.append_assoc] at matched
        exact .held _ matched rfl start none fun member =>
          unbracketed (List.mem_append_right front member)

namespace Aligned

/-- Either the pass has come to a place, or it stands behind the start of a part that is kept. -/
theorem visited_or_held (aligned : Aligned rule before after) :
    after = replace rule 0 before
      ∨ ∃ front back others found, before = back ++ others ∧ front ≠ [] ∧ back ≠ []
          ∧ rule (front ++ (back ++ others)) = some found
          ∧ found.kept = (front ++ back).length := by
  cases aligned with
  | visited => exact Or.inl rfl
  | held _ matched kept filled filled' _ =>
    exact Or.inr ⟨_, _, _, _, rfl, filled, filled', matched, kept⟩

/-- Past a character that is no bracket, the next place corresponds again, or a marker starts. -/
theorem tail (orderly : Orderly rule) {first : Char} (plain : first ≠ '[')
    (aligned : Aligned rule before (first :: after)) :
    ∃ rest, before = first :: rest ∧ (Aligned rule rest after ∨ marker <+: after) := by
  generalize whole : first :: after = all at aligned
  cases aligned with
  | visited =>
    rcases orderly.replace_cases before with
      rfl | ⟨head, rest, rfl, _, same⟩ | ⟨lead, secret, rest, rfl, _, unbracketed, matched, same⟩
    · cases whole
    · obtain ⟨rfl, rfl⟩ := List.cons.inj (whole.trans same)
      exact ⟨rest, rfl, Or.inl (.visited rest)⟩
    · rw [same] at whole
      cases lead with
      | nil => exact absurd (List.cons.inj whole).1 plain
      | cons head lead =>
        obtain ⟨rfl, rfl⟩ := List.cons.inj whole
        refine ⟨lead ++ (secret ++ rest), rfl, ?_⟩
        by_cases none : lead = []
        · subst none
          exact Or.inr ⟨_, rfl⟩
        · exact Or.inl (.held _ matched rfl (List.cons_ne_nil first []) none fun member =>
            unbracketed (List.mem_cons_of_mem first member))
  | @held front back secret rest found matched kept filled filled' unbracketed =>
    cases back with
    | nil => exact absurd rfl filled'
    | cons head back =>
      obtain ⟨rfl, rfl⟩ := List.cons.inj whole
      refine ⟨back ++ (secret ++ rest), rfl, ?_⟩
      by_cases none : back = []
      · subst none
        exact Or.inr ⟨_, rfl⟩
      · have grown : front ++ [first] ≠ [] := by simp
        refine Or.inl (.held found ?_ ?_ grown none fun member =>
          unbracketed (List.mem_cons_of_mem first member))
        · rw [List.append_assoc]
          exact matched
        · rw [List.append_assoc]
          exact kept

/-- **A part without brackets** stood at its place before the pass as well. -/
theorem append (orderly : Orderly rule) {part : List Char} (plain : '[' ∉ part)
    (aligned : Aligned rule before (part ++ after)) :
    ∃ rest, before = part ++ rest ∧ (Aligned rule rest after ∨ marker <+: after) := by
  induction part generalizing before with
  | nil => exact ⟨before, rfl, Or.inl aligned⟩
  | cons first part ih =>
    obtain ⟨rest, rfl, aligned | marked⟩ :=
      aligned.tail orderly (fun same => plain (same ▸ List.mem_cons_self))
    · obtain ⟨rest, rfl, others⟩ := ih (fun member => plain (List.mem_cons_of_mem first member))
        aligned
      exact ⟨rest, rfl, others⟩
    · cases part with
      | nil => exact ⟨rest, rfl, Or.inr marked⟩
      | cons second part =>
        obtain ⟨others, same⟩ := marked
        have bracket : '[' = second := (List.cons.inj same).1
        exact absurd (bracket ▸ List.mem_cons_of_mem first List.mem_cons_self) plain

/-- At a place where no marker starts, the same character stood before the pass. -/
theorem head (orderly : Orderly rule) (aligned : Aligned rule before after)
    (unmarked : ¬ marker <+: after) : before.head? = after.head? := by
  cases aligned with
  | visited =>
    rcases orderly.replace_cases before with
      rfl | ⟨first, rest, rfl, _, same⟩ | ⟨lead, secret, rest, rfl, _, _, _, same⟩
    · rfl
    · rw [same]
      rfl
    · rw [same] at unmarked ⊢
      cases lead with
      | nil => exact absurd ⟨_, rfl⟩ unmarked
      | cons first lead => rfl
  | @held front back _ _ _ _ _ _ filled _ =>
    cases back with
    | nil => exact absurd rfl filled
    | cons first back => rfl

/-- **What a rule recognises nowhere in it is passed over**, if it starts with a bracket. -/
theorem of_bracket {part : List Char} (unmatched : ∀ gone left rest, part = gone ++ left →
      left ≠ [] → rule (left ++ rest) = none)
    (bracket : part.head? = some '[') (aligned : Aligned rule (part ++ rest) after) :
    after = part ++ replace rule 0 rest := by
  generalize whole : part ++ rest = all at aligned
  cases aligned with
  | visited =>
    rw [← whole]
    exact PassesOver.replace_append fun gone left => unmatched gone left rest
  | @held front back _ _ _ _ _ _ filled unbracketed =>
    cases part with
    | nil => cases bracket
    | cons first part =>
      cases bracket
      cases back with
      | nil => exact absurd rfl filled
      | cons head back =>
        obtain ⟨rfl, _⟩ := List.cons.inj whole
        exact absurd List.mem_cons_self unbracketed

end Aligned

end AssetFetch.Redaction
