/-
**Members with stored data.**

A member as it is written: a header with any of its optional fields, blocks of stored data, and the
trailer. It is read to its end, and what is decompressed is what was stored.

* `toLittleEndian`, `littleEndian_toLittleEndian`: numbers little end first;
* `Header`, `StoredBlock`, `StoredMember`: the parts of such a member, and their bytes;
* `feed_counted`, `feed_zeroEnded`: fields of a header that are as long as announced, and those that
  end with a zero;
* `feed_header`, `feed_block`, `feed_blocks`, `feed_trailer`: each part is read to its end;
* `StoredMember.feed`: **a member is read to its end, and gives back what was stored**.
-/

import AssetFetch.Proofs.Gzip.Stream
import Mathlib.Algebra.Group.Nat.Defs

namespace AssetFetch.Gzip

/-! ### Numbers -/

section Numbers

/-- A number little end first, in some bytes. -/
def toLittleEndian : (size : Nat) → Nat → Bytes
  | 0, _ => []
  | size + 1, value => UInt8.ofNat value :: toLittleEndian size (value / 256)

theorem littleEndian_toLittleEndian (size : Nat) {value : Nat} (fits : value < 256 ^ size) :
    Stream.littleEndian (toLittleEndian size value) = value := by
  induction size generalizing value with
  | zero =>
    obtain rfl : value = 0 := by simpa using fits
    rfl
  | succ size ih =>
    have rest : value / 256 < 256 ^ size := by
      rw [Nat.pow_succ] at fits
      exact Nat.div_lt_of_lt_mul (by omega)
    show (UInt8.ofNat value).toNat + 256 * Stream.littleEndian (toLittleEndian size (value / 256))
      = value
    rw [ih rest, UInt8.toNat_ofNat']
    omega

theorem checksumOf_lt (bytes : Bytes) : checksumOf bytes < 256 ^ 4 :=
  UInt32.toNat_lt _

end Numbers

/-! ### The parts of a member -/

section Parts

/-- What a header says beside the marks, the method and the flags: time, further flags and system,
and the optional fields. -/
structure Header where
  isText : Bool
  isChecked : Bool
  origin : Bytes
  extra : Option Bytes
  name : Option Bytes
  comment : Option Bytes
  origin_length : origin.length = 6
  extra_fits : ∀ bytes ∈ extra, bytes.length ≤ 0xFFFF
  name_free : ∀ bytes ∈ name, 0 ∉ bytes
  comment_free : ∀ bytes ∈ comment, 0 ∉ bytes

/-- The flags that say which fields are there. -/
def flagsOf (isText isChecked extra name comment : Bool) : UInt8 :=
  (if isText then 0x01 else 0) ||| (if isChecked then 0x02 else 0) ||| (if extra then 0x04 else 0)
    ||| (if name then 0x08 else 0) ||| (if comment then 0x10 else 0)

/-- A field that announces its size. -/
def sized : Option Bytes → Bytes
  | none => []
  | some bytes => toLittleEndian 2 bytes.length ++ bytes

/-- A field that ends with a zero. -/
def zeroEnded : Option Bytes → Bytes
  | none => []
  | some bytes => bytes ++ [0]

namespace Header

/-- The flags of a header. -/
def flags (header : Header) : UInt8 :=
  flagsOf header.isText header.isChecked header.extra.isSome header.name.isSome
    header.comment.isSome

/-- The bytes of a header before its checksum. -/
def checkedBytes (header : Header) : Bytes :=
  [0x1F, 0x8B, 8, header.flags] ++ header.origin ++ sized header.extra ++ zeroEnded header.name
    ++ zeroEnded header.comment

/-- The bytes of a header. -/
def bytes (header : Header) : Bytes :=
  header.checkedBytes
    ++ if header.isChecked then toLittleEndian 2 (checksumOf header.checkedBytes % 0x10000) else []

end Header

/-- Stored data of one block, and the bits that fill the byte of its header. -/
structure StoredBlock where
  content : Bytes
  filler : Fin 32
  fits : content.length ≤ 0xFFFF

/-- The bytes of a block, which may be the last. -/
def StoredBlock.bytes (block : StoredBlock) (isLast : Bool) : Bytes :=
  UInt8.ofNat (isLast.toNat + 8 * block.filler) :: toLittleEndian 2 block.content.length
    ++ toLittleEndian 2 (0xFFFF - block.content.length) ++ block.content

/-- A member whose data are stored: its header and its blocks, of which there is a last one. -/
structure StoredMember where
  header : Header
  early : List StoredBlock
  last : StoredBlock

namespace StoredMember

/-- The data of a member. -/
def payload (member : StoredMember) : Bytes :=
  (member.early.map StoredBlock.content).flatten ++ member.last.content

/-- The checksum and the size of data. -/
def trailerOf (data : Bytes) : Bytes :=
  toLittleEndian 4 (checksumOf data) ++ toLittleEndian 4 (data.length % 0x100000000)

/-- The bytes of a member. -/
def bytes (member : StoredMember) : Bytes :=
  member.header.bytes ++ (member.early.map fun block => block.bytes false).flatten
    ++ member.last.bytes true ++ trailerOf member.payload

end StoredMember

end Parts

namespace Stream

variable {stream next : Stream} {bytes more data : Bytes}

/-- What is read to its end in two parts is read to its end. -/
theorem feed_append_eq_ok {middle : Stream} (first : stream.feed bytes = .ok middle)
    (second : middle.feed more = .ok next) : stream.feed (bytes ++ more) = .ok next := by
  rw [feed_append, first]
  exact second

theorem feed_cons_of_ok {byte : UInt8} (read : stream.feedByte byte = .ok next) :
    stream.feed (byte :: more) = next.feed more := by
  simp only [feed, read]

/-! ### The fields of a header -/

section Fields

/-- The state with bytes of a header added to its checksum. -/
def summing (stream : Stream) (bytes : Bytes) : Stream :=
  { stream with headerSum := bytes.foldl Checksum.add stream.headerSum }

theorem summing_append (stream : Stream) (bytes more : Bytes) :
    (stream.summing bytes).summing more = stream.summing (bytes ++ more) := by
  simp only [summing, List.foldl_append]

theorem feed_header_cons {part : HeaderPart} {byte : UInt8}
    (read : (stream.toPart (.header part)).headerByte part byte = .ok next) :
    (stream.toPart (.header part)).feed (byte :: more) = next.feed more :=
  feed_cons_of_ok read

variable (after : Stream → Part)
  (steady : ∀ (stream : Stream) (part : Part) (bytes : Bytes),
    after ((stream.toPart part).summing bytes) = after stream)

include steady

/-- **A field that is as long as announced** is read to its end. What follows it depends on the
flags. -/
theorem feed_counted (part : Nat → HeaderPart)
    (step : ∀ (stream : Stream) (left : Nat) (byte : UInt8),
      stream.headerByte (part left) byte = .ok ((stream.summing [byte]).toPart
        (if left ≤ 1 then after (stream.summing [byte]) else .header (part (left - 1)))))
    (filled : bytes ≠ []) :
    (stream.toPart (.header (part bytes.length))).feed bytes
      = .ok ((stream.summing bytes).toPart (after stream)) := by
  induction bytes generalizing stream with
  | nil => exact absurd rfl filled
  | cons byte rest ih =>
    refine (feed_header_cons (step _ _ byte)).trans ?_
    cases rest with
    | nil =>
      rw [if_pos (by simp), steady]
      rfl
    | cons other others =>
      rw [if_neg (by simp)]
      refine (ih (by simp)).trans ?_
      rw [summing_append, steady]
      rfl

/-- **A field that ends with a zero** is read to its end. -/
theorem feed_zeroEnded {part : HeaderPart}
    (step : ∀ (stream : Stream) (byte : UInt8),
      stream.headerByte part byte = .ok ((stream.summing [byte]).toPart
        (if byte == 0 then after (stream.summing [byte]) else .header part)))
    (free : 0 ∉ bytes) :
    (stream.toPart (.header part)).feed (bytes ++ [0])
      = .ok ((stream.summing (bytes ++ [0])).toPart (after stream)) := by
  induction bytes generalizing stream with
  | nil =>
    refine (feed_header_cons (step _ 0)).trans ?_
    rw [if_pos (by rfl), steady]
    rfl
  | cons byte rest ih =>
    have apart : ¬ (byte == 0) = true := by
      intro zero
      exact free (by simp [beq_iff_eq.mp zero])
    refine (feed_header_cons (step _ byte)).trans ?_
    rw [if_neg apart]
    refine (ih fun inside => free (by simp [inside])).trans ?_
    rw [summing_append, steady]
    rfl

/-- **An optional field that ends with a zero** is read to its end. -/
theorem feed_optional (stream : Stream) (part : HeaderPart) {flag : UInt8}
    (before : Stream → Part) (chosen : ∀ stream : Stream,
      before stream = if stream.hasFlag flag then .header part else after stream)
    (step : ∀ (stream : Stream) (byte : UInt8),
      stream.headerByte part byte = .ok ((stream.summing [byte]).toPart
        (if byte == 0 then after (stream.summing [byte]) else .header part)))
    {field : Option Bytes} (flagged : stream.hasFlag flag = field.isSome)
    (free : ∀ bytes ∈ field, 0 ∉ bytes) :
    (stream.toPart (before stream)).feed (zeroEnded field)
      = .ok ((stream.summing (zeroEnded field)).toPart (after stream)) := by
  rw [chosen, flagged]
  cases field with
  | none => rfl
  | some bytes => exact feed_zeroEnded after steady step (free bytes rfl)

omit steady

theorem feed_extraLow (stream : Stream) (value : Nat) :
    (stream.toPart (.header .extraLow)).feed (toLittleEndian 2 value)
      = .ok ((stream.summing (toLittleEndian 2 value)).toPart
        (if littleEndian (toLittleEndian 2 value) == 0 then stream.afterExtra
          else .header (.extra (littleEndian (toLittleEndian 2 value))))) :=
  rfl

/-- The extra data are read to their end. -/
theorem feed_extra (stream : Stream) {field : Option Bytes}
    (flagged : stream.hasFlag 0x04 = field.isSome)
    (fits : ∀ bytes ∈ field, bytes.length ≤ 0xFFFF) :
    (stream.toPart stream.afterFixed).feed (sized field)
      = .ok ((stream.summing (sized field)).toPart stream.afterExtra) := by
  unfold afterFixed
  rw [flagged]
  cases field with
  | none => rfl
  | some bytes =>
    have announced : littleEndian (toLittleEndian 2 bytes.length) = bytes.length :=
      littleEndian_toLittleEndian 2 (Nat.lt_succ_of_le (fits bytes rfl))
    have size := feed_extraLow stream bytes.length
    rw [announced] at size
    refine feed_append_eq_ok size ?_
    cases bytes with
    | nil => rfl
    | cons byte rest =>
      refine (feed_counted afterExtra (fun _ _ _ => rfl) .extra (fun _ _ _ => rfl)
        (List.cons_ne_nil byte rest)).trans ?_
      rw [summing_append]
      rfl

/-- The checksum of the header is read and found right. -/
theorem feed_headerChecksum (stream : Stream) {isChecked : Bool}
    (flagged : stream.hasFlag 0x02 = isChecked) :
    (stream.toPart stream.afterComment).feed
        (if isChecked then toLittleEndian 2 (stream.headerSum.value % 0x10000) else [])
      = .ok (stream.toPart blockStart) := by
  unfold afterComment
  rw [flagged]
  cases isChecked with
  | false => rfl
  | true =>
    have right : littleEndian (toLittleEndian 2 (stream.headerSum.value % 0x10000))
        = stream.headerSum.value % 0x10000 :=
      littleEndian_toLittleEndian 2 (Nat.mod_lt _ (by decide))
    refine (feed_header_cons rfl).trans (feed_cons_of_ok ?_)
    exact if_pos (beq_iff_eq.mpr right)

end Fields

/-! ### The header -/

section Headers

/-- The state before the first byte, but for the flags. -/
def flagged (flags : UInt8) : Stream :=
  { Stream.start with flags }

/-- The part of a header that is always there is read to its end. -/
theorem feed_fixed {flags : UInt8} (known : (flags &&& 0xE0 != 0) = false) {origin : Bytes}
    (whole : origin.length = 6) :
    Stream.start.feed ([0x1F, 0x8B, 8, flags] ++ origin)
      = .ok (((flagged flags).summing ([0x1F, 0x8B, 8, flags] ++ origin)).toPart
        (flagged flags).afterFixed) := by
  have begun : Stream.start.feed [0x1F, 0x8B, 8, flags]
      = .ok (((flagged flags).summing [0x1F, 0x8B, 8, flags]).toPart (.header (.skipped 6))) := by
    have marked : Stream.start.feed [0x1F, 0x8B, 8]
        = .ok ((Stream.start.summing [0x1F, 0x8B, 8]).toPart (.header (.flags 8))) := rfl
    show Stream.start.feed ([0x1F, 0x8B, 8] ++ [flags]) = _
    refine feed_append_eq_ok marked (feed_cons_of_ok ?_)
    exact if_neg (by simp [known])
  refine feed_append_eq_ok begun ?_
  have filled : origin ≠ [] := by
    rintro rfl
    cases whole
  rw [← whole]
  refine (feed_counted afterFixed (fun _ _ _ => rfl) .skipped (fun _ _ _ => rfl) filled).trans ?_
  rw [summing_append]
  rfl

theorem flagsOf_known : ∀ isText isChecked extra name comment : Bool,
    (flagsOf isText isChecked extra name comment &&& 0xE0 != 0) = false := by
  decide

theorem hasFlag_flagsOf : ∀ isText isChecked extra name comment : Bool,
    let stream := flagged (flagsOf isText isChecked extra name comment)
    stream.hasFlag 0x02 = isChecked ∧ stream.hasFlag 0x04 = extra ∧ stream.hasFlag 0x08 = name
      ∧ stream.hasFlag 0x10 = comment := by
  decide

theorem headerSum_summing (flags : UInt8) (bytes : Bytes) :
    ((flagged flags).summing bytes).headerSum.value = checksumOf bytes :=
  rfl

/-- The fields of a header are read one after the other. -/
theorem feed_checkedBytes (header : Header) :
    Stream.start.feed header.checkedBytes
      = .ok (((flagged header.flags).summing header.checkedBytes).toPart
        ((flagged header.flags).summing header.checkedBytes).afterComment) := by
  obtain ⟨_, extra, name, comment⟩ := hasFlag_flagsOf header.isText header.isChecked
    header.extra.isSome header.name.isSome header.comment.isSome
  have known : (header.flags &&& 0xE0 != 0) = false := flagsOf_known ..
  have fixed := feed_fixed known header.origin_length
  have fields := feed_append_eq_ok fixed
    (feed_extra ((flagged header.flags).summing _) extra header.extra_fits)
  have named := feed_append_eq_ok fields
    (feed_optional afterName (fun _ _ _ => rfl) (((flagged header.flags).summing _).summing _) .name
      afterExtra (fun _ => rfl) (fun _ _ => rfl) name header.name_free)
  have commented := feed_append_eq_ok named
    (feed_optional afterComment (fun _ _ _ => rfl)
      ((((flagged header.flags).summing _).summing _).summing _) .comment afterName (fun _ => rfl)
      (fun _ _ => rfl) comment header.comment_free)
  refine commented.trans ?_
  simp only [summing_append]
  rfl

/-- **A header is read to its end**, whatever optional fields it has. -/
theorem feed_header (header : Header) :
    Stream.start.feed header.bytes
      = .ok (((flagged header.flags).summing header.checkedBytes).toPart blockStart) := by
  have isChecked := (hasFlag_flagsOf header.isText header.isChecked header.extra.isSome
    header.name.isSome header.comment.isSome).1
  have checked := feed_headerChecksum ((flagged header.flags).summing header.checkedBytes) isChecked
  rw [headerSum_summing] at checked
  exact feed_append_eq_ok (feed_checkedBytes header) checked

end Headers

/-! ### Blocks -/

section Blocks

/-- Some data have been decompressed, and their checksum is known. -/
structure Holds (stream : Stream) (data : Bytes) : Prop where
  output : stream.output.toList = data
  sum : stream.sum = data.foldl Checksum.add .start

/-- One bit after the other is read. -/
theorem bits_succ_of_ok {part : BitPart} {count value : Nat}
    (read : (stream.toPart (.bits part)).bit part (value % 2 == 1) = .ok next) :
    bits (count + 1) value (stream.toPart (.bits part)) = bits count (value / 2) next := by
  rw [bits]
  simp only [toPart] at read ⊢
  rw [read]

/-- The three bits of a block's header say that its data are stored; the other bits of the byte are
filling. -/
theorem feedByte_blockStart (stream : Stream) (isLast : Bool) (filler : Fin 32) :
    (stream.toPart blockStart).feedByte (UInt8.ofNat (isLast.toNat + 8 * filler))
      = .ok { stream with isLast, part := .storedSizes [] } := by
  have small := isLast.toNat_lt
  have value : (UInt8.ofNat (isLast.toNat + 8 * filler)).toNat = isLast.toNat + 8 * filler := by
    rw [UInt8.toNat_ofNat']
    omega
  have first : ((isLast.toNat + 8 * filler) % 2 == 1) = isLast := by
    cases isLast <;> simp <;> omega
  have second : ((isLast.toNat + 8 * filler) / 2 % 2 == 1) = false := by
    cases isLast <;> simp <;> omega
  have third : ((isLast.toNat + 8 * filler) / 2 / 2 % 2 == 1) = false := by
    cases isLast <;> simp <;> omega
  show bits 8 _ (stream.toPart blockStart) = _
  rw [value]
  calc bits 8 (isLast.toNat + 8 * filler) (stream.toPart blockStart)
      = bits 7 ((isLast.toNat + 8 * filler) / 2)
          (stream.toPart (.bits (.number .blockHeader 2 1 isLast.toNat))) :=
        bits_succ_of_ok (by rw [first]; cases isLast <;> rfl)
    _ = bits 6 ((isLast.toNat + 8 * filler) / 2 / 2)
          (stream.toPart (.bits (.number .blockHeader 1 2 isLast.toNat))) :=
        bits_succ_of_ok (by rw [second]; rfl)
    _ = bits 5 ((isLast.toNat + 8 * filler) / 2 / 2 / 2)
          { stream with isLast, part := .storedSizes [] } :=
        bits_succ_of_ok (by rw [third]; cases isLast <;> rfl)
    _ = .ok { stream with isLast, part := .storedSizes [] } := rfl

/-- The sizes of stored data are read and found to agree. -/
theorem feed_storedSizes (stream : Stream) {size : Nat} (fits : size ≤ 0xFFFF) :
    (stream.toPart (.storedSizes [])).feed
        (toLittleEndian 2 size ++ toLittleEndian 2 (0xFFFF - size))
      = .ok (if size == 0 then stream.afterBlock else stream.toPart (.stored size)) := by
  have first : littleEndian [UInt8.ofNat size, UInt8.ofNat (size / 256)] = size :=
    littleEndian_toLittleEndian 2 (Nat.lt_succ_of_le fits)
  have second : littleEndian [UInt8.ofNat (0xFFFF - size), UInt8.ofNat ((0xFFFF - size) / 256)]
      = 0xFFFF - size :=
    littleEndian_toLittleEndian 2 (Nat.lt_succ_of_le (Nat.sub_le ..))
  have read : ∀ low high low' high' : UInt8,
      (stream.toPart (.storedSizes [low, high, low'])).feedByte high'
        = if littleEndian [low', high'] != 0xFFFF - littleEndian [low, high] then
            .error .storedLengths
          else if littleEndian [low, high] == 0 then .ok stream.afterBlock
          else .ok (stream.toPart (.stored (littleEndian [low, high]))) := fun _ _ _ _ => rfl
  refine (feed_cons_of_ok rfl).trans ?_
  refine (feed_cons_of_ok rfl).trans ?_
  refine (feed_cons_of_ok rfl).trans ?_
  refine (feed_cons_of_ok ((read ..).trans ?_)).trans rfl
  rw [first, second, bne_self_eq_false, if_neg Bool.false_ne_true]
  split <;> rfl

/-- The state with data decompressed. -/
def emitAll (stream : Stream) (data : Bytes) : Stream :=
  data.foldl emit stream

theorem isLast_emitAll (stream : Stream) (data : Bytes) :
    (stream.emitAll data).isLast = stream.isLast := by
  induction data generalizing stream with
  | nil => rfl
  | cons byte rest ih => exact ih (stream.emit byte)

theorem Holds.emit (holds : stream.Holds data) (byte : UInt8) :
    (stream.emit byte).Holds (data ++ [byte]) where
  output := by rw [Stream.emit, Array.toList_push, holds.output]
  sum := by rw [Stream.emit, holds.sum, List.foldl_append, List.foldl_cons, List.foldl_nil]

theorem Holds.emitAll (holds : stream.Holds data) (more : Bytes) :
    (stream.emitAll more).Holds (data ++ more) := by
  induction more generalizing stream data with
  | nil => rwa [List.append_nil]
  | cons byte rest ih =>
    have later := ih (holds.emit byte)
    rwa [List.append_assoc] at later

/-- **Stored data are read to their end.** -/
theorem feed_stored (stream : Stream) (filled : bytes ≠ []) :
    (stream.toPart (.stored bytes.length)).feed bytes = .ok (stream.emitAll bytes).afterBlock := by
  induction bytes generalizing stream with
  | nil => exact absurd rfl filled
  | cons byte rest ih =>
    have read : (stream.toPart (.stored (rest.length + 1))).feedByte byte
        = .ok (if rest.length + 1 ≤ 1 then (stream.emit byte).afterBlock
          else (stream.emit byte).toPart (.stored rest.length)) := rfl
    refine (feed_cons_of_ok read).trans ?_
    cases rest with
    | nil => rfl
    | cons other others =>
      rw [if_neg (by simp)]
      exact ih (stream.emit byte) (by simp)

/-- The part that follows a block. -/
def partAfter (isLast : Bool) : Part :=
  if isLast then .trailer [] else blockStart

/-- **A block is read to its end**, and its content has been added to the data. -/
theorem feed_block (holds : stream.Holds data) (block : StoredBlock) (isLast : Bool) :
    ∃ next : Stream, (stream.toPart blockStart).feed (block.bytes isLast)
        = .ok (next.toPart (partAfter isLast))
      ∧ next.Holds (data ++ block.content) := by
  have begun := feedByte_blockStart stream isLast block.filler
  have sizes := feed_storedSizes { stream with isLast } block.fits
  have still : Holds { stream with isLast } data := ⟨holds.output, holds.sum⟩
  refine ⟨({ stream with isLast }).emitAll block.content, ?_, still.emitAll block.content⟩
  have head : (stream.toPart blockStart).feed
      (UInt8.ofNat (isLast.toNat + 8 * block.filler) :: toLittleEndian 2 block.content.length
        ++ toLittleEndian 2 (0xFFFF - block.content.length)) = _ :=
    (feed_cons_of_ok begun).trans sizes
  refine feed_append_eq_ok head ?_
  by_cases empty : block.content = []
  · rw [empty]
    rfl
  · rw [if_neg (by simpa using empty)]
    refine (feed_stored _ empty).trans ?_
    rw [afterBlock, isLast_emitAll]
    rfl

/-- **Blocks are read one after the other.** By induction on those before the last. -/
theorem feed_blocks (holds : stream.Holds data) (early : List StoredBlock) (last : StoredBlock) :
    ∃ next : Stream, (stream.toPart blockStart).feed
        ((early.map fun block => block.bytes false).flatten ++ last.bytes true)
        = .ok (next.toPart (.trailer []))
      ∧ next.Holds (data ++ ((early.map StoredBlock.content).flatten ++ last.content)) := by
  induction early generalizing stream data with
  | nil => exact feed_block holds last true
  | cons block rest ih =>
    obtain ⟨middle, first, now⟩ := feed_block holds block false
    obtain ⟨next, others, done⟩ := ih now
    refine ⟨next, ?_, ?_⟩
    · rw [List.map_cons, List.flatten_cons, List.append_assoc]
      exact feed_append_eq_ok first others
    · rw [List.map_cons, List.flatten_cons, List.append_assoc, ← List.append_assoc data]
      exact done

/-- The fourth byte of a trailer ends the checksum, -/
theorem trailerByte_fourth (a b c d : UInt8) :
    stream.trailerByte [a, b, c] d
      = if littleEndian [a, b, c, d] != stream.sum.value then .error .checksum
        else .ok (stream.toPart (.trailer [a, b, c, d])) :=
  rfl

/-- and the eighth the size. -/
theorem trailerByte_eighth (a b c d e f g h : UInt8) :
    stream.trailerByte [a, b, c, d, e, f, g] h
      = if littleEndian [e, f, g, h] == stream.output.size % 0x100000000 then
          .ok (stream.toPart .finished)
        else .error .size :=
  rfl

/-- **The trailer is read and found right.** -/
theorem feed_trailer (holds : stream.Holds data) :
    (stream.toPart (.trailer [])).feed (StoredMember.trailerOf data)
      = .ok (stream.toPart .finished) := by
  have sum : littleEndian (toLittleEndian 4 (checksumOf data)) = stream.sum.value := by
    rw [littleEndian_toLittleEndian 4 (checksumOf_lt data), holds.sum]
    rfl
  have size : littleEndian (toLittleEndian 4 (data.length % 0x100000000))
      = stream.output.size % 0x100000000 := by
    have fits : data.length % 0x100000000 < 256 ^ 4 := Nat.mod_lt _ (by decide)
    rw [littleEndian_toLittleEndian 4 fits, ← holds.output, Array.length_toList]
  have first : (stream.toPart (.trailer [])).feed (toLittleEndian 4 (checksumOf data))
      = .ok (stream.toPart (.trailer (toLittleEndian 4 (checksumOf data)))) := by
    refine (feed_cons_of_ok rfl).trans ?_
    refine (feed_cons_of_ok rfl).trans ?_
    refine (feed_cons_of_ok rfl).trans ?_
    refine feed_cons_of_ok ((trailerByte_fourth ..).trans ?_)
    exact if_neg fun differs => bne_iff_ne.mp differs sum
  have second : (stream.toPart (.trailer (toLittleEndian 4 (checksumOf data)))).feed
      (toLittleEndian 4 (data.length % 0x100000000)) = .ok (stream.toPart .finished) := by
    refine (feed_cons_of_ok rfl).trans ?_
    refine (feed_cons_of_ok rfl).trans ?_
    refine (feed_cons_of_ok rfl).trans ?_
    refine feed_cons_of_ok ((trailerByte_eighth ..).trans ?_)
    exact if_pos (beq_iff_eq.mpr size)
  exact feed_append_eq_ok first second

end Blocks

end Stream

/-! ### Whole members -/

/-- **A member is read to its end, and gives back what was stored**, whatever its header says and
however its data are cut into blocks. -/
theorem StoredMember.feed (member : StoredMember) :
    ∃ stream, Stream.start.feed member.bytes = .ok stream ∧ stream.isFinished = true
      ∧ stream.output.toList = member.payload := by
  have empty : ((Stream.flagged member.header.flags).summing member.header.checkedBytes).Holds [] :=
    ⟨rfl, rfl⟩
  obtain ⟨stream, blocks, holds⟩ := Stream.feed_blocks empty member.early member.last
  refine ⟨stream.toPart .finished, ?_, rfl, holds.output⟩
  unfold bytes
  rw [List.append_assoc member.header.bytes]
  exact Stream.feed_append_eq_ok
    (Stream.feed_append_eq_ok (Stream.feed_header member.header) blocks) (Stream.feed_trailer holds)

end AssetFetch.Gzip
