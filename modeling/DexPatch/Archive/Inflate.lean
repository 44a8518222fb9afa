import DexPatch.Bytes

namespace DexPatch.Archive

/-!
# Deflated data

Data is a sequence of blocks of bits, lowest bit of each byte first.  A block
holds bytes as they are, or symbols of two prefix codes: bytes, the end of the
block, and lengths of copies from the output so far, each with a distance.
The codes are fixed or stand in front of their block.
-/

/-- The number of bits taken and the bytes given. -/
structure Progress where
  position : Nat
  output : Bytes
deriving Repr

/-- A step of decompression; it fails where the data ends early or breaks a rule. -/
abbrev Inflating := StateT Progress Option

/-- The next bit. -/
def nextBit (data : Bytes) : Inflating Nat := do
  let position := (← get).position
  match data[position / 8]? with
  | none => failure
  | some byte =>
    modify fun progress => { progress with position := position + 1 }
    return (byte.toNat >>> (position % 8)) % 2

/-- A number of so many bits, lowest first. -/
def nextBits (data : Bytes) : (count : Nat) → Inflating Nat
  | 0 => return 0
  | count + 1 => do
    let low ← nextBit data
    let high ← nextBits data count
    return low + 2 * high

/-- Gives a byte. -/
def emit (byte : UInt8) : Inflating Unit :=
  modify fun progress => { progress with output := progress.output.push byte }

/-- A prefix code in canonical form: how many words there are of each length, and the symbols in
the order of their words. -/
structure PrefixCode where
  counts : Array Nat
  symbols : Array Nat
deriving Repr

/-- The most bits a word has. -/
def longestWord : Nat := 15

namespace PrefixCode

/-- The code in which each symbol has a word of the length listed for it, none for zero. -/
def ofLengths (lengths : List Nat) : PrefixCode :=
  let ofLength (length : Nat) : List Nat := (lengths.zipIdx.filter (·.1 == length)).map (·.2)
  let words := (List.range longestWord).map fun length => ofLength (length + 1)
  { counts := (words.map List.length).toArray, symbols := words.flatten.toArray }

/-- How many words of the longest length the words of a code lead to. -/
def covered (code : PrefixCode) : Nat :=
  code.counts.toList.foldl (fun covered count => 2 * covered + count) 0

/-- How many words of the longest length there are. -/
def longestWords : Nat := 32768

/-- Do the words of the code lead to every word of the longest length, each to others? -/
def isComplete (code : PrefixCode) : Bool := code.covered == longestWords

/-- May a block have the code?  One that is incomplete has no word at all, or only one of a
single bit. -/
def isUsable (code : PrefixCode) : Bool :=
  code.isComplete || code.symbols.isEmpty ||
    (code.symbols.size == 1 && code.counts[0]? == some 1)

/-- The symbol of a word of which some bits are taken: `first` is the first word of the next
length, and `index` the number of shorter ones. -/
def symbolFrom (code : PrefixCode) (data : Bytes) :
    (remaining length word first index : Nat) → Inflating Nat
  | 0, _, _, _, _ => failure
  | remaining + 1, length, word, first, index => do
    let word := word * 2 + (← nextBit data)
    let count := code.counts[length]?.getD 0
    if word < first + count then
      match code.symbols[index + (word - first)]? with
      | some symbol => return symbol
      | none => failure
    else
      symbolFrom code data remaining (length + 1) word ((first + count) * 2) (index + count)

/-- The symbol of the next word. -/
def next (code : PrefixCode) (data : Bytes) : Inflating Nat :=
  code.symbolFrom data longestWord 0 0 0 0

end PrefixCode

/-- The symbol that ends a block. -/
def endOfBlock : Nat := 256

/-- The length of a copy, given its class. -/
def copyLength (data : Bytes) (kind : Nat) : Inflating Nat := do
  if kind < 8 then
    return kind + 3
  else if kind < 28 then
    let extra := kind / 4 - 1
    return ((4 + kind % 4) <<< extra) + 3 + (← nextBits data extra)
  else if kind = 28 then
    return 258
  else
    failure

/-- The distance of a copy, given its class. -/
def copyDistance (data : Bytes) (kind : Nat) : Inflating Nat := do
  if kind < 4 then
    return kind + 1
  else if kind < 30 then
    let extra := kind / 2 - 1
    return ((2 + kind % 2) <<< extra) + 1 + (← nextBits data extra)
  else
    failure

/-- The byte so far back in the output.  Zeros stand in front of the output. -/
def byteBack (output : Bytes) (distance : Nat) : UInt8 :=
  if distance ≤ output.size then output[output.size - distance]?.getD 0 else 0

/-- Gives so many bytes again; they may be among those that the copy gives. -/
def copyBack (distance : Nat) : (length : Nat) → Bytes → Bytes
  | 0, output => output
  | length + 1, output => copyBack distance length (output.push (byteBack output distance))

/-- Gives what the symbols up to the end of the block stand for.  Each takes a bit at least. -/
def inflateSymbols (data : Bytes) (literals distances : PrefixCode) :
    (bound : Nat) → Inflating Unit
  | 0 => failure
  | bound + 1 => do
    let symbol ← literals.next data
    if symbol < endOfBlock then
      emit (UInt8.ofNat symbol)
      inflateSymbols data literals distances bound
    else if symbol = endOfBlock then
      return
    else
      let length ← copyLength data (symbol - endOfBlock - 1)
      let distance ← copyDistance data (← distances.next data)
      modify fun progress =>
        { progress with output := copyBack distance length progress.output }
      inflateSymbols data literals distances bound

/-- The next number of 16 bits, from a byte boundary. -/
def nextField (data : Bytes) : Inflating Nat := nextBits data 16

/-- Gives the bytes of a block that holds them as they are. -/
def inflateStored (data : Bytes) : Inflating Unit := do
  modify fun progress => { progress with position := (progress.position + 7) / 8 * 8 }
  let length ← nextField data
  let complement ← nextField data
  if length + complement ≠ 65535 then
    failure
  let start := (← get).position / 8
  if data.size < start + length then
    failure
  modify fun progress =>
    { position := progress.position + 8 * length
      output := progress.output ++ data.extract start (start + length) }

/-- The code of bytes and lengths that needs no description. -/
def fixedLiterals : PrefixCode :=
  .ofLengths (List.replicate 144 8 ++ List.replicate 112 9 ++ List.replicate 24 7 ++
    List.replicate 8 8)

/-- The code of distances that needs no description. -/
def fixedDistances : PrefixCode := .ofLengths (List.replicate 30 5)

/-- The order in which the word lengths of the code of word lengths are given. -/
def lengthOrder : List Nat := [16, 17, 18, 0, 8, 7, 9, 6, 10, 5, 11, 4, 12, 3, 13, 2, 14, 1, 15]

/-- A run of word lengths: a length by itself, the last one again, or no words. -/
def lengthRun (data : Bytes) (previous? : Option Nat) (symbol : Nat) : Inflating (List Nat) := do
  if symbol < 16 then
    return [symbol]
  else if symbol = 16 then
    match previous? with
    | none => failure
    | some previous => return List.replicate (3 + (← nextBits data 2)) previous
  else if symbol = 17 then
    return List.replicate (3 + (← nextBits data 3)) 0
  else
    return List.replicate (11 + (← nextBits data 7)) 0

/-- Word lengths behind those collected, last first, until there are as many as asked for. -/
def wordLengths (data : Bytes) (code : PrefixCode) (count : Nat) :
    (bound : Nat) → (collected : List Nat) → Inflating (List Nat)
  | 0, _ => failure
  | bound + 1, collected =>
    if collected.length = count then
      return collected.reverse
    else if count < collected.length then
      failure
    else do
      let run ← lengthRun data collected.head? (← code.next data)
      wordLengths data code count bound (run ++ collected)

/-- How many symbols for bytes and lengths there are. -/
def literalSymbols : Nat := 286

/-- How many symbols for distances there are. -/
def distanceSymbols : Nat := 30

/-- The codes described in front of a block. -/
def describedCodes (data : Bytes) : Inflating (PrefixCode × PrefixCode) := do
  let literalCount := (← nextBits data 5) + 257
  let distanceCount := (← nextBits data 5) + 1
  if literalSymbols < literalCount ∨ distanceSymbols < distanceCount then
    failure
  let given ← (lengthOrder.take ((← nextBits data 4) + 4)).mapM fun symbol => do
    return (symbol, ← nextBits data 3)
  let lengthCode := PrefixCode.ofLengths <|
    (List.range 19).map fun symbol => ((given.find? (·.1 == symbol)).map (·.2)).getD 0
  if !lengthCode.isComplete then
    failure
  let count := literalCount + distanceCount
  let lengths ← wordLengths data lengthCode count (count + 1) []
  let literals := PrefixCode.ofLengths (lengths.take literalCount)
  let distances := PrefixCode.ofLengths (lengths.drop literalCount)
  if !literals.isUsable || !distances.isUsable then
    failure
  return (literals, distances)

/-- Gives the bytes of a block of some kind. -/
def inflateBlock (data : Bytes) (kind : Nat) : Inflating Unit := do
  let bound := 8 * data.size + 1
  match kind with
  | 0 => inflateStored data
  | 1 => inflateSymbols data fixedLiterals fixedDistances bound
  | 2 =>
    let (literals, distances) ← describedCodes data
    inflateSymbols data literals distances bound
  | _ => failure

/-- Gives the bytes of all blocks.  Each has three bits at least. -/
def inflateBlocks (data : Bytes) : (bound : Nat) → Inflating Unit
  | 0 => failure
  | bound + 1 => do
    let last ← nextBit data
    inflateBlock data (← nextBits data 2)
    if last = 1 then
      return
    inflateBlocks data bound

/-- The bytes that deflated data gives.  What stands behind its last block does not matter. -/
def inflate (data : Bytes) : Option Bytes := do
  let ((), progress) ← (inflateBlocks data (8 * data.size + 1)).run { position := 0, output := #[] }
  return progress.output

/-- The most bytes that a block holds as they are. -/
def largestStored : Nat := 65535

/-- A block that holds bytes as they are. -/
def storedBlock (last : Bool) (bytes : List UInt8) : List UInt8 :=
  (if last then 1 else 0) :: le16 bytes.length ++ le16 (65535 - bytes.length) ++ bytes

/-- Data that gives the bytes: blocks that hold them as they are. -/
def deflate (bytes : List UInt8) : List UInt8 :=
  if bytes.length ≤ largestStored then
    storedBlock true bytes
  else
    storedBlock false (bytes.take largestStored) ++ deflate (bytes.drop largestStored)
termination_by bytes.length
decreasing_by simp only [largestStored, List.length_drop] at *; omega

end DexPatch.Archive
