/-
**Decompression.**

A compressed stream is read byte by byte by an automaton that can stop after any byte and go on
later. One member is read: a header, blocks of data, and a trailer with the checksum and the size
of the data. What follows the member is ignored.

* `Stream`: the state of the automaton, with everything decompressed so far;
* `Stream.feedByte`, `Stream.feed`: reading one byte, and many;
* `Stream.isFinished`: whether the trailer has been read and checked.
-/

import AssetFetch.Gzip.Checksum
import AssetFetch.Gzip.Fault
import AssetFetch.Gzip.PrefixCode

namespace AssetFetch.Gzip

/-! ### Where the automaton stands -/

/-- The parts of a header, with what the part needs of the bytes before. -/
inductive HeaderPart where
  | firstMark
  | secondMark (first : UInt8)
  | method
  | flags (method : UInt8)
  | skipped (left : Nat)
  | extraLow
  | extraHigh (low : UInt8)
  | extra (left : Nat)
  | name
  | comment
  | checksumLow
  | checksumHigh (low : UInt8)
  deriving DecidableEq, Repr, Inhabited

/-- The sizes of the three parts of a block's code description. -/
structure TableSizes where
  literals : Nat
  distances : Nat
  lengthCodes : Nat
  deriving DecidableEq, Repr, Inhabited

/-- The codes of a block. -/
structure Codes where
  literals : PrefixCode
  distances : PrefixCode
  deriving DecidableEq, Repr, Inhabited

/-- What a number in the bits is for. -/
inductive NumberUse where
  | blockHeader
  | tableSizes
  | lengthCode (sizes : TableSizes) (taken : List Nat)
  | repetition (sizes : TableSizes) (code : PrefixCode) (taken : List Nat) (value least : Nat)
  | matchLength (codes : Codes) (base : Nat)
  | matchDistance (codes : Codes) (size base : Nat)
  deriving DecidableEq, Repr, Inhabited

/-- What a codeword in the bits is for. -/
inductive SymbolUse where
  | codeLength (sizes : TableSizes) (code : PrefixCode) (taken : List Nat)
  | literal (codes : Codes)
  | distance (codes : Codes) (size : Nat)
  deriving DecidableEq, Repr, Inhabited

/-- What is read from the bits: the rest of a number, of which `read` bits with value `value` are
known, or the rest of a codeword. -/
inductive BitPart where
  | number (use : NumberUse) (left read value : Nat)
  | symbol (use : SymbolUse) (place : PrefixCode)
  deriving DecidableEq, Repr, Inhabited

/-- What is read next. `taken` holds the bytes of a field read so far. -/
inductive Part where
  | header (part : HeaderPart)
  | bits (part : BitPart)
  | storedSizes (taken : Bytes)
  | stored (left : Nat)
  | trailer (taken : Bytes)
  | finished
  deriving DecidableEq, Repr, Inhabited

/-- The state of the automaton. -/
structure Stream where
  part : Part
  flags : UInt8
  headerSum : Checksum
  isLast : Bool
  sum : Checksum
  output : Array UInt8
  deriving Inhabited

/-- The state before the first byte. -/
def Stream.start : Stream :=
  ⟨.header .firstMark, 0, .start, false, .start, #[]⟩

namespace Stream

/-- The state with another part to be read next. -/
def toPart (stream : Stream) (part : Part) : Stream :=
  { stream with part }

/-- A number little end first. -/
def littleEndian (bytes : Bytes) : Nat :=
  bytes.foldr (fun byte value => byte.toNat + 256 * value) 0

/-- The data with one byte more. -/
def emit (stream : Stream) (byte : UInt8) : Stream :=
  { stream with output := stream.output.push byte, sum := stream.sum.add byte }

/-- Repeats the data of some distance back, byte by byte. -/
def copyBack (distance : Nat) : (size : Nat) → Stream → Stream
  | 0, stream => stream
  | size + 1, stream =>
    copyBack distance size (stream.emit (stream.output.getD (stream.output.size - distance) 0))

/-! ### The header -/

/-- The flag of a header part: a checksum, extra data, a name or a comment follows. -/
def hasFlag (stream : Stream) (flag : UInt8) : Bool :=
  stream.flags &&& flag != 0

/-- The part that starts a block. -/
def blockStart : Part :=
  .bits (.number .blockHeader 3 0 0)

/-- What follows the comment. -/
def afterComment (stream : Stream) : Part :=
  if stream.hasFlag 0x02 then .header .checksumLow else blockStart

/-- What follows the name. -/
def afterName (stream : Stream) : Part :=
  if stream.hasFlag 0x10 then .header .comment else stream.afterComment

/-- What follows the extra data. -/
def afterExtra (stream : Stream) : Part :=
  if stream.hasFlag 0x08 then .header .name else stream.afterName

/-- What follows the fixed part. -/
def afterFixed (stream : Stream) : Part :=
  if stream.hasFlag 0x04 then .header .extraLow else stream.afterExtra

/-- The two bytes that mark a compressed stream. -/
def marks : UInt8 × UInt8 := (0x1F, 0x8B)

/-- The one compression method. -/
def deflated : UInt8 := 8

/-- Reads a byte of the header. -/
def headerByte (stream : Stream) (part : HeaderPart) (byte : UInt8) : Except Fault Stream :=
  let summed := { stream with headerSum := stream.headerSum.add byte }
  match part with
  | .firstMark => .ok (summed.toPart (.header (.secondMark byte)))
  | .secondMark first =>
    if (first, byte) == marks then .ok (summed.toPart (.header .method)) else .error .header
  | .method => .ok (summed.toPart (.header (.flags byte)))
  | .flags method =>
    if method != deflated then .error .method
    else if byte &&& 0xE0 != 0 then .error .headerFlags
    else .ok { summed with flags := byte, part := .header (.skipped 6) }
  | .skipped left =>
    .ok (summed.toPart (if left ≤ 1 then summed.afterFixed else .header (.skipped (left - 1))))
  | .extraLow => .ok (summed.toPart (.header (.extraHigh byte)))
  | .extraHigh low =>
    let left := littleEndian [low, byte]
    .ok (summed.toPart (if left == 0 then summed.afterExtra else .header (.extra left)))
  | .extra left =>
    .ok (summed.toPart (if left ≤ 1 then summed.afterExtra else .header (.extra (left - 1))))
  | .name => .ok (summed.toPart (if byte == 0 then summed.afterName else .header .name))
  | .comment => .ok (summed.toPart (if byte == 0 then summed.afterComment else .header .comment))
  | .checksumLow => .ok (stream.toPart (.header (.checksumHigh byte)))
  | .checksumHigh low =>
    if littleEndian [low, byte] == stream.headerSum.value % 0x10000 then
      .ok (stream.toPart blockStart)
    else .error .headerChecksum

/-! ### Blocks -/

/-- What follows a block. -/
def afterBlock (stream : Stream) : Stream :=
  stream.toPart (if stream.isLast then .trailer [] else blockStart)

/-- Reads a number of some bits, none of which is read yet. -/
def toNumber (stream : Stream) (use : NumberUse) (bits : Nat) : Stream :=
  stream.toPart (.bits (.number use bits 0 0))

/-- Reads a codeword. -/
def toSymbol (stream : Stream) (use : SymbolUse) (code : PrefixCode) : Stream :=
  stream.toPart (.bits (.symbol use code))

/-- Reads data with the codes of a block. -/
def toLiteral (stream : Stream) (codes : Codes) : Stream :=
  stream.toSymbol (.literal codes) codes.literals

/-- The codes of a block that describes none. -/
def fixedCodes : Codes :=
  ⟨.ofLengths (List.replicate 144 8 ++ List.replicate 112 9 ++ List.replicate 24 7
      ++ List.replicate 8 8),
    .ofLengths (List.replicate 32 5)⟩

/-- The order in which the lengths of the code for lengths stand. -/
def lengthCodeOrder : List Nat :=
  [16, 17, 18, 0, 8, 7, 9, 6, 10, 5, 11, 4, 12, 3, 13, 2, 14, 1, 15]

/-- The lengths of the code for lengths in the order of the symbols; `taken` holds them in the
order in which they stand, and those not given are zero. -/
def inSymbolOrder (taken : List Nat) : List Nat :=
  (List.range 19).map fun symbol => ((lengthCodeOrder.zip taken).lookup symbol).getD 0

/-- The first symbol that ends a block. -/
def endOfBlock : Nat := 256

/-- Goes on with the lengths of a block's codes; when all are there the codes are built. -/
def withLengths (stream : Stream) (sizes : TableSizes) (code : PrefixCode) (taken : List Nat) :
    Except Fault Stream :=
  if taken.length < sizes.literals + sizes.distances then
    .ok (stream.toSymbol (.codeLength sizes code taken) code)
  else
    let literals := taken.take sizes.literals
    let distances := taken.drop sizes.literals
    if literals.getD endOfBlock 0 == 0 then .error .noEndOfBlock
    else if !isUsableCode literals then .error .literalSet
    else if !isUsableCode distances then .error .distanceSet
    else .ok (stream.toLiteral ⟨.ofLengths literals, .ofLengths distances⟩)

/-- The least size and the number of further bits of a match, by its symbol less 257. -/
def matchSizes : List (Nat × Nat) :=
  [(3, 0), (4, 0), (5, 0), (6, 0), (7, 0), (8, 0), (9, 0), (10, 0), (11, 1), (13, 1), (15, 1),
    (17, 1), (19, 2), (23, 2), (27, 2), (31, 2), (35, 3), (43, 3), (51, 3), (59, 3), (67, 4),
    (83, 4), (99, 4), (115, 4), (131, 5), (163, 5), (195, 5), (227, 5), (258, 0)]

/-- The least distance and the number of further bits, by symbol. -/
def matchDistances : List (Nat × Nat) :=
  [(1, 0), (2, 0), (3, 0), (4, 0), (5, 1), (7, 1), (9, 2), (13, 2), (17, 3), (25, 3), (33, 4),
    (49, 4), (65, 5), (97, 5), (129, 6), (193, 6), (257, 7), (385, 7), (513, 8), (769, 8),
    (1025, 9), (1537, 9), (2049, 10), (3073, 10), (4097, 11), (6145, 11), (8193, 12), (12289, 12),
    (16385, 13), (24577, 13)]

/-- A match whose size is known. -/
def withMatchSize (stream : Stream) (codes : Codes) (size : Nat) : Stream :=
  stream.toSymbol (.distance codes size) codes.distances

/-- A match whose size and distance are known. -/
def withMatch (stream : Stream) (codes : Codes) (size distance : Nat) : Except Fault Stream :=
  if distance > stream.output.size then .error .distanceTooFar
  else .ok ((copyBack distance size stream).toLiteral codes)

/-- Uses a number that has been read. -/
def useNumber (stream : Stream) (use : NumberUse) (value : Nat) : Except Fault Stream :=
  match use with
  | .blockHeader =>
    let begun := { stream with isLast := value % 2 == 1 }
    match value / 2 with
    | 0 => .ok (begun.toPart (.storedSizes []))
    | 1 => .ok (begun.toLiteral fixedCodes)
    | 2 => .ok (begun.toNumber .tableSizes 14)
    | _ => .error .blockType
  | .tableSizes =>
    let sizes : TableSizes := ⟨value % 32 + 257, value / 32 % 32 + 1, value / 1024 + 4⟩
    if sizes.literals > 286 || sizes.distances > 30 then .error .tooManySymbols
    else .ok (stream.toNumber (.lengthCode sizes []) 3)
  | .lengthCode sizes taken =>
    let lengths := taken ++ [value]
    if lengths.length < sizes.lengthCodes then
      .ok (stream.toNumber (.lengthCode sizes lengths) 3)
    else
      let ordered := inSymbolOrder lengths
      if isUsableLengthCode ordered then stream.withLengths sizes (.ofLengths ordered) []
      else .error .codeLengths
  | .repetition sizes code taken repeated least =>
    match repeated, taken with
    | 16, [] => .error .bitLengthRepeat
    | _, _ =>
      let length := if repeated == 16 then taken.getLast?.getD 0 else 0
      let lengths := taken ++ List.replicate (value + least) length
      if lengths.length > sizes.literals + sizes.distances then .error .bitLengthRepeat
      else stream.withLengths sizes code lengths
  | .matchLength codes base => .ok (stream.withMatchSize codes (base + value))
  | .matchDistance codes size base => stream.withMatch codes size (base + value)

/-- The kinds of repeated lengths: the bits of the count and the least count. -/
def repetition? (symbol : Nat) : Option (Nat × Nat) :=
  if symbol == 16 then some (2, 3)
  else if symbol == 17 then some (3, 3)
  else if symbol == 18 then some (7, 11)
  else none

/-- Uses a symbol that has been read. -/
def useSymbol (stream : Stream) (use : SymbolUse) (symbol : Nat) : Except Fault Stream :=
  match use with
  | .codeLength sizes code taken =>
    match repetition? symbol with
    | some (bits, least) => .ok (stream.toNumber (.repetition sizes code taken symbol least) bits)
    | none => stream.withLengths sizes code (taken ++ [symbol])
  | .literal codes =>
    if symbol < endOfBlock then .ok ((stream.emit symbol.toUInt8).toLiteral codes)
    else if symbol == endOfBlock then .ok stream.afterBlock
    else
      match matchSizes[symbol - 257]? with
      | none => .error .literalCode
      | some (base, 0) => .ok (stream.withMatchSize codes base)
      | some (base, bits) => .ok (stream.toNumber (.matchLength codes base) bits)
  | .distance codes size =>
    match matchDistances[symbol]? with
    | none => .error .distanceCode
    | some (base, 0) => stream.withMatch codes size base
    | some (base, bits) => .ok (stream.toNumber (.matchDistance codes size base) bits)

/-- A codeword that is none. The code for lengths is empty then, and every bit is a length zero. -/
def noSymbol (stream : Stream) (use : SymbolUse) : Except Fault Stream :=
  match use with
  | .codeLength sizes code taken => stream.withLengths sizes code (taken ++ [0])
  | .literal _ => .error .literalCode
  | .distance _ _ => .error .distanceCode

/-- Reads a bit. -/
def bit (stream : Stream) (part : BitPart) (set : Bool) : Except Fault Stream :=
  match part with
  | .number use left read value =>
    let value := if set then value + Nat.pow 2 read else value
    if left ≤ 1 then stream.useNumber use value
    else .ok (stream.toPart (.bits (.number use (left - 1) (read + 1) value)))
  | .symbol use place =>
    match place.step set with
    | .leaf symbol => stream.useSymbol use symbol
    | .absent => stream.noSymbol use
    | further => .ok (stream.toPart (.bits (.symbol use further)))

/-- Reads the bits of a byte, lowest first. Where bytes are read next, the rest of the bits is
filling. -/
def bits : (count : Nat) → (value : Nat) → Stream → Except Fault Stream
  | 0, _, stream => .ok stream
  | count + 1, value, stream =>
    match stream.part with
    | .bits part =>
      match stream.bit part (value % 2 == 1) with
      | .ok next => bits count (value / 2) next
      | .error fault => .error fault
    | _ => .ok stream

/-! ### Bytes -/

/-- Reads a byte of the sizes of stored data: the size, and the same with all bits flipped. -/
def storedSizeByte (stream : Stream) (taken : Bytes) (byte : UInt8) : Except Fault Stream :=
  match taken ++ [byte] with
  | [low, high, low', high'] =>
    let size := littleEndian [low, high]
    if littleEndian [low', high'] != 0xFFFF - size then .error .storedLengths
    else if size == 0 then .ok stream.afterBlock
    else .ok (stream.toPart (.stored size))
  | longer => .ok (stream.toPart (.storedSizes longer))

/-- Reads a byte of the trailer: the checksum, checked as soon as it is there, and the size. -/
def trailerByte (stream : Stream) (taken : Bytes) (byte : UInt8) : Except Fault Stream :=
  let fields := taken ++ [byte]
  if fields.length == 4 && littleEndian fields != stream.sum.value then .error .checksum
  else if fields.length == 8 then
    if littleEndian (fields.drop 4) == stream.output.size % 0x100000000 then
      .ok (stream.toPart .finished)
    else .error .size
  else .ok (stream.toPart (.trailer fields))

/-- Reads a byte. -/
def feedByte (stream : Stream) (byte : UInt8) : Except Fault Stream :=
  match stream.part with
  | .header part => stream.headerByte part byte
  | .bits _ => bits 8 byte.toNat stream
  | .storedSizes taken => stream.storedSizeByte taken byte
  | .stored left =>
    let longer := stream.emit byte
    .ok (if left ≤ 1 then longer.afterBlock else longer.toPart (.stored (left - 1)))
  | .trailer taken => stream.trailerByte taken byte
  | .finished => .ok stream

/-- Reads bytes. -/
def feed (stream : Stream) : Bytes → Except Fault Stream
  | [] => .ok stream
  | byte :: rest =>
    match stream.feedByte byte with
    | .ok next => feed next rest
    | .error fault => .error fault

/-- The data beyond the first `size` bytes. -/
def outputFrom (stream : Stream) (size : Nat) : Bytes :=
  (stream.output.extract size stream.output.size).toList

/-- Whether the member is complete. -/
def isFinished (stream : Stream) : Bool :=
  stream.part == .finished

end Stream

end AssetFetch.Gzip
