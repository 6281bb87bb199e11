/-
**Prefix codes.**

A code is given by the length of each symbol's codeword; shorter codewords come first, and among
equally long ones the smaller symbol. It is kept as a binary tree that bits descend.

* `PrefixCode.ofLengths`: the tree of a list of lengths;
* `spareLeaves`: how much room the codewords leave, negative if they are too many;
* `PrefixCode.step`: one bit further down.
-/

namespace AssetFetch.Gzip

/-- A binary tree with symbols at its leaves; nothing is decoded at an `absent` place. -/
inductive PrefixCode where
  | absent
  | leaf (symbol : Nat)
  | node (onZero onOne : PrefixCode)
  deriving DecidableEq, Repr, Inhabited

namespace PrefixCode

/-- The greatest length of a codeword. -/
def maxLength : Nat := 15

/-- The symbols with a codeword, each behind its length, shortest first. -/
def orderedSymbols (lengths : List Nat) : List (Nat × Nat) :=
  (List.range' 1 maxLength).flatMap fun size =>
    lengths.zipIdx.filter fun entry => entry.1 == size

/-- Fills a subtree at a depth, from left to right, and answers the symbols that are left. -/
def fill : (levels : Nat) → (depth : Nat) → List (Nat × Nat) → PrefixCode × List (Nat × Nat)
  | _, _, [] => (absent, [])
  | 0, _, (_, symbol) :: rest => (leaf symbol, rest)
  | levels + 1, depth, (size, symbol) :: rest =>
    if size ≤ depth then (leaf symbol, rest)
    else
      let left := fill levels (depth + 1) ((size, symbol) :: rest)
      let right := fill levels (depth + 1) left.2
      (node left.1 right.1, right.2)

/-- The tree of a code; without any codeword one bit leads to no symbol. -/
def ofLengths (lengths : List Nat) : PrefixCode :=
  let left := fill maxLength 1 (orderedSymbols lengths)
  let right := fill maxLength 1 left.2
  node left.1 right.1

/-- The tree below a bit. -/
def step (code : PrefixCode) (bit : Bool) : PrefixCode :=
  match code with
  | node onZero onOne => if bit then onOne else onZero
  | _ => absent

end PrefixCode

/-- The greatest length among codewords. -/
def longest (lengths : List Nat) : Nat :=
  lengths.foldl max 0

/-- The leaves of a full tree that the codewords leave free, counted at the depth of the longest. -/
def spareLeaves (lengths : List Nat) : Int :=
  (List.range' 1 (longest lengths)).foldl (fun spare size => 2 * spare - lengths.count size) 1

/-- Whether every sequence of bits is decoded. -/
def isCompleteCode (lengths : List Nat) : Bool :=
  spareLeaves lengths == 0

/-- Whether a code may be used for symbols: complete, or with one codeword of one bit, or empty. -/
def isUsableCode (lengths : List Nat) : Bool :=
  isCompleteCode lengths || (longest lengths ≤ 1 && spareLeaves lengths > 0)

/-- Whether a code may be used for lengths: complete or empty. -/
def isUsableLengthCode (lengths : List Nat) : Bool :=
  isCompleteCode lengths || longest lengths == 0

end AssetFetch.Gzip
