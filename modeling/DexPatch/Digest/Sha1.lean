import DexPatch.Bytes

namespace DexPatch.Digest

/-!
# SHA-1

The message is padded to blocks of 64 bytes, and each block is mixed into five
words of state.  An image carries this digest of everything behind it.
-/

/-- The five words that a digest is made of. -/
structure Sha1State where
  a : UInt32
  b : UInt32
  c : UInt32
  d : UInt32
  e : UInt32
deriving DecidableEq, Repr

/-- The state before the first block. -/
def sha1Start : Sha1State :=
  { a := 0x67452301, b := 0xefcdab89, c := 0x98badcfe, d := 0x10325476, e := 0xc3d2e1f0 }

/-- A word with its bits moved up in a circle. -/
def rotateLeft (word : UInt32) (count : UInt32) : UInt32 :=
  (word <<< count) ||| (word >>> (32 - count))

/-- The digits of a number in base 256, most significant first. -/
def bigEndian (width n : Nat) : List UInt8 := (littleEndian width n).reverse

/-- The message behind which a one bit, zeros up to whole blocks and its length in bits stand. -/
def sha1Padded (message : Bytes) : Bytes :=
  message ++ [(0x80 : UInt8)] ++ List.replicate (padding 64 (message.size + 9)) (0 : UInt8) ++
    bigEndian 8 (message.size * 8)

/-- The big-endian word at an offset. -/
def wordAt (data : Bytes) (offset : Nat) : UInt32 :=
  let byte (i : Nat) : UInt32 := (data[offset + i]?.getD 0).toUInt32
  (byte 0 <<< 24) ||| (byte 1 <<< 16) ||| (byte 2 <<< 8) ||| byte 3

/-- A schedule with one more word, made from four words before it. -/
def sha1Extend (words : Array UInt32) : Array UInt32 :=
  let word (back : Nat) : UInt32 := words[words.size - back]?.getD 0
  words.push (rotateLeft (word 3 ^^^ word 8 ^^^ word 14 ^^^ word 16) 1)

/-- The eighty words of a block: its own sixteen, and each further one from those before it. -/
def sha1Schedule (data : Bytes) (offset : Nat) : Array UInt32 :=
  let own := (List.range 16).foldl (fun words i => words.push (wordAt data (offset + 4 * i))) #[]
  (List.range 64).foldl (fun words _ => sha1Extend words) own

/-- What a round mixes in, besides a word of the block. -/
def sha1Mix (round : Nat) (state : Sha1State) : UInt32 :=
  let { b, c, d, .. } := state
  if round < 20 then ((b &&& c) ||| (~~~b &&& d)) + 0x5a827999
  else if round < 40 then (b ^^^ c ^^^ d) + 0x6ed9eba1
  else if round < 60 then ((b &&& c) ||| (b &&& d) ||| (c &&& d)) + 0x8f1bbcdc
  else (b ^^^ c ^^^ d) + 0xca62c1d6

/-- One of the eighty rounds of a block. -/
def sha1Round (words : Array UInt32) (state : Sha1State) (round : Nat) : Sha1State :=
  { a := rotateLeft state.a 5 + sha1Mix round state + state.e + words[round]?.getD 0
    b := state.a
    c := rotateLeft state.b 30
    d := state.c
    e := state.d }

/-- The state after the block at an offset. -/
def sha1Block (data : Bytes) (state : Sha1State) (block : Nat) : Sha1State :=
  let words := sha1Schedule data (block * 64)
  let mixed := (List.range 80).foldl (sha1Round words) state
  { a := state.a + mixed.a, b := state.b + mixed.b, c := state.c + mixed.c
    d := state.d + mixed.d, e := state.e + mixed.e }

/-- The twenty bytes of a message's digest. -/
def sha1 (message : Bytes) : List UInt8 :=
  let data := sha1Padded message
  let state := (List.range (data.size / 64)).foldl (sha1Block data) sha1Start
  [state.a, state.b, state.c, state.d, state.e].flatMap fun word => bigEndian 4 word.toNat

end DexPatch.Digest
