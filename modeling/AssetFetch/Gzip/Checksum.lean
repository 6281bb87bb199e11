/-
**The cyclic checksum of a byte sequence.**

* `Checksum.start`, `Checksum.add`, `Checksum.value`: the checksum grows byte by byte;
* `checksumOf`: the checksum of a whole sequence.
-/

import AssetFetch.Text.Utf8

namespace AssetFetch.Gzip

/-- The polynomial of the checksum, lowest power first. -/
def polynomial : UInt32 := 0xEDB88320

/-- Takes `count` bits out of the register. -/
def shiftOut : (count : Nat) → UInt32 → UInt32
  | 0, register => register
  | count + 1, register =>
    shiftOut count (if register &&& 1 == 1 then (register >>> 1) ^^^ polynomial else register >>> 1)

/-- The register of a checksum. -/
structure Checksum where
  register : UInt32
  deriving DecidableEq, Repr, Inhabited

namespace Checksum

/-- The checksum of no bytes. -/
def start : Checksum := ⟨0xFFFFFFFF⟩

/-- The checksum with one byte more. -/
def add (sum : Checksum) (byte : UInt8) : Checksum :=
  ⟨shiftOut 8 (sum.register ^^^ byte.toUInt32)⟩

/-- The value that stands in a stream. -/
def value (sum : Checksum) : Nat :=
  (sum.register ^^^ 0xFFFFFFFF).toNat

end Checksum

/-- The checksum of a byte sequence. -/
def checksumOf (bytes : Bytes) : Nat :=
  (bytes.foldl Checksum.add .start).value

/-- The customary check value. -/
example : checksumOf (Text.encode "123456789") = 0xCBF43926 := by decide +kernel

end AssetFetch.Gzip
