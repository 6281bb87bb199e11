/-
**What a compressed stream comes to.**

* `feed_append`: bytes are read one after the other, however they are cut;
* `Grows`, `feed_grows`: what has been decompressed stays, and more is added behind it;
* `feed_of_isFinished`: nothing is read behind a member;
* `IsMember`, `IsFile`: the bytes of one complete member, and of one or more;
* `isFinished_iff`, `isFile_output_iff`: what the end of a member tells about the bytes, and what it
  does not.
-/

import AssetFetch.Gzip.Stream
import Mathlib.Data.List.Induction

namespace AssetFetch.Gzip

namespace Stream

/-! ### Cuts -/

section Cuts

variable {stream next : Stream}

theorem feed_append (stream : Stream) (bytes more : Bytes) :
    stream.feed (bytes ++ more) = stream.feed bytes >>= fun next => next.feed more := by
  induction bytes generalizing stream with
  | nil => rfl
  | cons byte rest ih =>
    simp only [List.cons_append, feed]
    cases stream.feedByte byte with
    | error fault => rfl
    | ok next => exact ih next

end Cuts

/-! ### Growth -/

section Growth

variable {stream next : Stream}

/-- What has been decompressed is still there. -/
def Grows (stream next : Stream) : Prop :=
  stream.output.toList <+: next.output.toList

theorem Grows.refl (stream : Stream) : stream.Grows stream :=
  List.prefix_refl _

theorem Grows.trans {last : Stream} (first : stream.Grows next) (second : next.Grows last) :
    stream.Grows last :=
  List.IsPrefix.trans first second

theorem Grows.of_eq (same : next.output = stream.output) : stream.Grows next := by
  unfold Grows
  rewrite [same]
  exact List.prefix_refl _

theorem emit_grows (stream : Stream) (byte : UInt8) : stream.Grows (stream.emit byte) := by
  unfold Grows emit
  rw [Array.toList_push]
  exact List.prefix_append _ _

theorem copyBack_grows (distance size : Nat) (stream : Stream) :
    stream.Grows (copyBack distance size stream) := by
  induction size generalizing stream with
  | zero => exact .refl _
  | succ size ih => exact (emit_grows stream _).trans (ih _)

theorem headerByte_grows {part : HeaderPart} {byte : UInt8}
    (ok : stream.headerByte part byte = .ok next) : stream.Grows next := by
  refine .of_eq ?_
  unfold headerByte at ok
  cases part <;> simp only at ok <;> repeat' split at ok
  all_goals first
    | cases ok; rfl
    | cases ok

theorem withLengths_grows {sizes : TableSizes} {code : PrefixCode} {taken : List Nat}
    (ok : stream.withLengths sizes code taken = .ok next) : stream.Grows next := by
  refine .of_eq ?_
  unfold withLengths at ok
  simp only at ok
  repeat' split at ok
  all_goals first
    | cases ok; rfl
    | cases ok

theorem withMatch_grows {codes : Codes} {size distance : Nat}
    (ok : stream.withMatch codes size distance = .ok next) : stream.Grows next := by
  unfold withMatch at ok
  split at ok
  · cases ok
  · cases ok
    exact copyBack_grows distance size stream

theorem useNumber_grows {use : NumberUse} {value : Nat}
    (ok : stream.useNumber use value = .ok next) : stream.Grows next := by
  unfold useNumber at ok
  cases use with
  | blockHeader =>
    simp only at ok
    split at ok <;> cases ok <;> exact .of_eq rfl
  | tableSizes =>
    simp only at ok
    split at ok <;> cases ok
    exact .of_eq rfl
  | lengthCode sizes taken =>
    simp only at ok
    split at ok
    · cases ok
      exact .of_eq rfl
    · split at ok
      · exact withLengths_grows ok
      · cases ok
  | repetition sizes code taken repeated least =>
    simp only at ok
    split at ok
    · cases ok
    · repeat' split at ok
      all_goals first
        | exact withLengths_grows ok
        | cases ok
  | matchLength codes base =>
    cases ok
    exact .of_eq rfl
  | matchDistance codes size base => exact withMatch_grows ok

theorem useSymbol_grows {use : SymbolUse} {symbol : Nat}
    (ok : stream.useSymbol use symbol = .ok next) : stream.Grows next := by
  unfold useSymbol at ok
  cases use with
  | codeLength sizes code taken =>
    simp only at ok
    split at ok
    · cases ok
      exact .of_eq rfl
    · exact withLengths_grows ok
  | literal codes =>
    simp only at ok
    split at ok
    · cases ok
      exact emit_grows stream _
    · split at ok
      · cases ok
        exact .of_eq rfl
      · split at ok <;> cases ok <;> exact .of_eq rfl
  | distance codes size =>
    simp only at ok
    split at ok
    · cases ok
    · exact withMatch_grows ok
    · cases ok
      exact .of_eq rfl

theorem noSymbol_grows {use : SymbolUse} (ok : stream.noSymbol use = .ok next) :
    stream.Grows next := by
  cases use with
  | codeLength sizes code taken => exact withLengths_grows ok
  | literal codes => cases ok
  | distance codes size => cases ok

theorem bit_grows {part : BitPart} {set : Bool} (ok : stream.bit part set = .ok next) :
    stream.Grows next := by
  unfold bit at ok
  cases part with
  | number use left read value =>
    simp only at ok
    split at ok
    · exact useNumber_grows ok
    · cases ok
      exact .of_eq rfl
  | symbol use place =>
    simp only at ok
    split at ok
    · exact useSymbol_grows ok
    · exact noSymbol_grows ok
    · cases ok
      exact .of_eq rfl

theorem bits_grows {count value : Nat} (ok : bits count value stream = .ok next) :
    stream.Grows next := by
  induction count generalizing value stream with
  | zero =>
    cases ok
    exact .refl _
  | succ count ih =>
    unfold bits at ok
    split at ok
    · split at ok
      · rename_i middle read
        exact (bit_grows read).trans (ih ok)
      · cases ok
    · cases ok
      exact .refl _

theorem feedByte_grows {byte : UInt8} (ok : stream.feedByte byte = .ok next) :
    stream.Grows next := by
  unfold feedByte at ok
  split at ok
  · exact headerByte_grows ok
  · exact bits_grows ok
  · unfold storedSizeByte at ok
    split at ok
    · simp only at ok
      repeat' split at ok
      all_goals first
        | cases ok; exact .of_eq rfl
        | cases ok
    · cases ok
      exact .of_eq rfl
  · cases ok
    refine (emit_grows stream byte).trans (.of_eq ?_)
    split <;> rfl
  · unfold trailerByte at ok
    simp only at ok
    repeat' split at ok
    all_goals first
      | cases ok; exact .of_eq rfl
      | cases ok
  · cases ok
    exact .refl _

/-- **What has been decompressed stays.** -/
theorem feed_grows {bytes : Bytes} (ok : stream.feed bytes = .ok next) : stream.Grows next := by
  induction bytes generalizing stream with
  | nil =>
    cases ok
    exact .refl _
  | cons byte rest ih =>
    unfold feed at ok
    split at ok
    · rename_i middle read
      exact (feedByte_grows read).trans (ih ok)
    · cases ok

end Growth

/-! ### The end of a member -/

section Ends

variable {stream next : Stream}

/-- **Nothing is read behind a member.** -/
theorem feed_of_isFinished (finished : stream.isFinished = true) (bytes : Bytes) :
    stream.feed bytes = .ok stream := by
  have part : stream.part = .finished := by simpa [isFinished] using finished
  induction bytes with
  | nil => rfl
  | cons byte rest ih =>
    have stays : stream.feedByte byte = .ok stream := by simp [feedByte, part]
    simp only [feed, stays, ih]

/-- Bytes behind a member change nothing. -/
theorem feed_append_of_isFinished {bytes : Bytes} (fed : stream.feed bytes = .ok next)
    (finished : next.isFinished = true) (more : Bytes) :
    stream.feed (bytes ++ more) = .ok next := by
  rw [feed_append, fed]
  exact feed_of_isFinished finished more

end Ends

end Stream

/-! ### Members and files -/

section Members

variable {body data member rest : Bytes} {stream : Stream}

/-- The bytes are one complete member with some data: its trailer is read and checked with the last
of them, and not before. -/
def IsMember (bytes data : Bytes) : Prop :=
  (∃ stream, Stream.start.feed bytes = .ok stream ∧ stream.isFinished = true
    ∧ stream.output.toList = data)
  ∧ ∀ shorter stream, shorter <+: bytes → shorter ≠ bytes → Stream.start.feed shorter = .ok stream →
    stream.isFinished = false

/-- The bytes are one or more complete members, and these are their data one after the other. -/
inductive IsFile : Bytes → Bytes → Prop
  | last {member data : Bytes} : IsMember member data → IsFile member data
  | more {member data rest others : Bytes} : IsMember member data → IsFile rest others →
      IsFile (member ++ rest) (data ++ others)

/-- Reading the first member of some bytes reads them all. -/
theorem IsMember.feed_append (isMember : IsMember member data) (rest : Bytes) :
    ∃ stream, Stream.start.feed (member ++ rest) = .ok stream ∧ stream.isFinished = true
      ∧ stream.output.toList = data := by
  obtain ⟨⟨stream, fed, finished, same⟩, _⟩ := isMember
  exact ⟨stream, Stream.feed_append_of_isFinished fed finished rest, finished, same⟩

/-- Where the end of a member has been reached, the bytes begin with that member. -/
theorem exists_isMember (fed : Stream.start.feed body = .ok stream)
    (finished : stream.isFinished = true) :
    ∃ member rest, body = member ++ rest ∧ IsMember member stream.output.toList := by
  induction body using List.reverseRecOn generalizing stream with
  | nil =>
    cases fed
    cases finished
  | append_singleton bytes byte ih =>
    -- either the member ended before the last byte, or it ends with it
    cases before : Stream.start.feed bytes with
    | error fault =>
      rw [Stream.feed_append, before] at fed
      cases fed
    | ok middle =>
      by_cases early : middle.isFinished = true
      · obtain ⟨member, rest, same, isMember⟩ := ih before early
        have whole := Stream.feed_append_of_isFinished before early [byte]
        rw [fed] at whole
        cases whole
        exact ⟨member, rest ++ [byte], by rw [same, List.append_assoc], isMember⟩
      · refine ⟨bytes ++ [byte], [], by simp, ⟨stream, fed, finished, rfl⟩, ?_⟩
        intro shorter other isShorter apart read
        by_contra ended
        have short : shorter <+: bytes := by
          rcases List.prefix_concat_iff.mp isShorter with same | inside
          · exact absurd same apart
          · exact inside
        obtain ⟨more, rfl⟩ := short
        have again := Stream.feed_append_of_isFinished read (by simpa using ended) more
        rw [before] at again
        cases again
        exact early (by simpa using ended)

/-- **The end of a member has been reached exactly where the bytes begin with one**, and then its
data are all that has been decompressed. -/
theorem isFinished_iff (fed : Stream.start.feed body = .ok stream) :
    stream.isFinished = true
      ↔ ∃ member rest, body = member ++ rest ∧ IsMember member stream.output.toList := by
  refine ⟨exists_isMember fed, ?_⟩
  rintro ⟨member, rest, rfl, isMember⟩
  obtain ⟨last, read, finished, _⟩ := isMember.feed_append rest
  rw [fed] at read
  cases read
  exact finished

/-- A file is read to the end of its first member. -/
theorem IsFile.feed (isFile : IsFile body data) :
    ∃ stream, Stream.start.feed body = .ok stream ∧ stream.isFinished = true
      ∧ stream.output.toList <+: data := by
  cases isFile with
  | last isMember =>
    obtain ⟨stream, fed, finished, same⟩ := isMember.1
    exact ⟨stream, fed, finished, same ▸ List.prefix_refl _⟩
  | more isMember others =>
    obtain ⟨stream, fed, finished, same⟩ := isMember.feed_append _
    exact ⟨stream, fed, finished, same ▸ List.prefix_append _ _⟩

/-- **What has been read is a whole file exactly when nothing but members without data follows the
first member.** -/
theorem isFile_output_iff (fed : Stream.start.feed body = .ok stream) :
    IsFile body stream.output.toList
      ↔ ∃ member rest, body = member ++ rest ∧ IsMember member stream.output.toList
          ∧ (rest = [] ∨ IsFile rest []) := by
  constructor
  · intro isFile
    generalize whole : stream.output.toList = data at isFile
    cases isFile with
    | last isMember => exact ⟨body, [], by simp, isMember, Or.inl rfl⟩
    | more isMember isRest =>
      rename_i member first rest others
      obtain ⟨stream, read, _, same⟩ := isMember.feed_append rest
      rw [fed] at read
      cases read
      have none : others = [] := by simpa [same] using whole
      subst none
      exact ⟨member, rest, rfl, by simpa using isMember, Or.inr isRest⟩
  · rintro ⟨member, rest, rfl, isMember, none | others⟩
    · rw [none, List.append_nil]
      exact .last isMember
    · have whole := IsFile.more isMember others
      rwa [List.append_nil] at whole

end Members

end AssetFetch.Gzip
