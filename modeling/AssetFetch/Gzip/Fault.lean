/-
**What can be wrong with a compressed stream.**

* `Gzip.Fault`: the first thing found wrong, in the order in which a stream is read;
* `Gzip.Fault.message`: its wording.
-/

namespace AssetFetch.Gzip

/-- The first thing found wrong with a compressed stream. -/
inductive Fault where
  | header
  | method
  | headerFlags
  | headerChecksum
  | blockType
  | storedLengths
  | tooManySymbols
  | codeLengths
  | bitLengthRepeat
  | noEndOfBlock
  | literalSet
  | distanceSet
  | literalCode
  | distanceCode
  | distanceTooFar
  | checksum
  | size
  deriving DecidableEq, Repr, Inhabited

/-- What is wrong, in a few words. -/
def Fault.reason : Fault → String
  | header => "incorrect header check"
  | method => "unknown compression method"
  | headerFlags => "unknown header flags set"
  | headerChecksum => "header crc mismatch"
  | blockType => "invalid block type"
  | storedLengths => "invalid stored block lengths"
  | tooManySymbols => "too many length or distance symbols"
  | codeLengths => "invalid code lengths set"
  | bitLengthRepeat => "invalid bit length repeat"
  | noEndOfBlock => "invalid code -- missing end-of-block"
  | literalSet => "invalid literal/lengths set"
  | distanceSet => "invalid distances set"
  | literalCode => "invalid literal/length code"
  | distanceCode => "invalid distance code"
  | distanceTooFar => "invalid distance too far back"
  | checksum => "incorrect data check"
  | size => "incorrect length check"

/-- The wording of a fault. -/
def Fault.message (fault : Fault) : String :=
  "Error -3 while decompressing data: " ++ fault.reason

end AssetFetch.Gzip
