import Tollgate.Text.Hex

/-! The SHA-256 digest, by which tokens are stored and looked up. -/

namespace Tollgate.Digest

/-- The eight words that carry the digest from block to block. -/
structure Chain where
  /-- First word. -/
  a : UInt32
  /-- Second word. -/
  b : UInt32
  /-- Third word. -/
  c : UInt32
  /-- Fourth word. -/
  d : UInt32
  /-- Fifth word. -/
  e : UInt32
  /-- Sixth word. -/
  f : UInt32
  /-- Seventh word. -/
  g : UInt32
  /-- Eighth word. -/
  h : UInt32

/-- Fractional parts of the square roots of the first eight primes. -/
def Chain.first : Chain :=
  ⟨0x6A09E667, 0xBB67AE85, 0x3C6EF372, 0xA54FF53A, 0x510E527F, 0x9B05688C, 0x1F83D9AB, 0x5BE0CD19⟩

/-- Fractional parts of the cube roots of the first sixty-four primes, one for each round. -/
def roundConstants : List UInt32 := [
  0x428A2F98, 0x71374491, 0xB5C0FBCF, 0xE9B5DBA5, 0x3956C25B, 0x59F111F1, 0x923F82A4, 0xAB1C5ED5,
  0xD807AA98, 0x12835B01, 0x243185BE, 0x550C7DC3, 0x72BE5D74, 0x80DEB1FE, 0x9BDC06A7, 0xC19BF174,
  0xE49B69C1, 0xEFBE4786, 0x0FC19DC6, 0x240CA1CC, 0x2DE92C6F, 0x4A7484AA, 0x5CB0A9DC, 0x76F988DA,
  0x983E5152, 0xA831C66D, 0xB00327C8, 0xBF597FC7, 0xC6E00BF3, 0xD5A79147, 0x06CA6351, 0x14292967,
  0x27B70A85, 0x2E1B2138, 0x4D2C6DFC, 0x53380D13, 0x650A7354, 0x766A0ABB, 0x81C2C92E, 0x92722C85,
  0xA2BFE8A1, 0xA81A664B, 0xC24B8B70, 0xC76C51A3, 0xD192E819, 0xD6990624, 0xF40E3585, 0x106AA070,
  0x19A4C116, 0x1E376C08, 0x2748774C, 0x34B0BCB5, 0x391C0CB3, 0x4ED8AA4A, 0x5B9CCA4F, 0x682E6FF3,
  0x748F82EE, 0x78A5636F, 0x84C87814, 0x8CC70208, 0x90BEFFFA, 0xA4506CEB, 0xBEF9A3F7, 0xC67178F2]

/-- Bits moved to the right, those that fall off coming back on the left. -/
def rotateRight (word amount : UInt32) : UInt32 :=
  (word >>> amount) ||| (word <<< (32 - amount))

/-- The next word of a message schedule, whose latest word comes first. -/
def scheduled (words : List UInt32) : UInt32 :=
  -- The new word mixes those two, seven, fifteen and sixteen places back.
  let two := words.getD 1 0
  let fifteen := words.getD 14 0
  let low := rotateRight fifteen 7 ^^^ rotateRight fifteen 18 ^^^ (fifteen >>> 3)
  let high := rotateRight two 17 ^^^ rotateRight two 19 ^^^ (two >>> 10)
  words.getD 15 0 + low + words.getD 6 0 + high

/-- Adds the given number of words to a schedule, whose latest word comes first. -/
def extendSchedule : Nat → List UInt32 → List UInt32
  | 0, words => words
  | count + 1, words => extendSchedule count (scheduled words :: words)

/-- One round, with its constant and its word of the schedule. -/
def Chain.round (chain : Chain) (constant word : UInt32) : Chain :=
  let high := rotateRight chain.e 6 ^^^ rotateRight chain.e 11 ^^^ rotateRight chain.e 25
  let choice := (chain.e &&& chain.f) ^^^ (~~~chain.e &&& chain.g)
  let fresh := chain.h + high + choice + constant + word
  let low := rotateRight chain.a 2 ^^^ rotateRight chain.a 13 ^^^ rotateRight chain.a 22
  let majority := (chain.a &&& chain.b) ^^^ (chain.a &&& chain.c) ^^^ (chain.b &&& chain.c)
  ⟨fresh + low + majority, chain.a, chain.b, chain.c, chain.d + fresh, chain.e, chain.f, chain.g⟩

/-- Words added place by place. -/
def Chain.add (left right : Chain) : Chain :=
  ⟨left.a + right.a, left.b + right.b, left.c + right.c, left.d + right.d,
    left.e + right.e, left.f + right.f, left.g + right.g, left.h + right.h⟩

/-- Takes a block of sixteen words into the chain. -/
def Chain.absorb (chain : Chain) (block : List UInt32) : Chain :=
  -- The rounds run over the schedule in order, and their outcome is added to where they began.
  let schedule := (extendSchedule 48 block.reverse).reverse
  let mixed := (roundConstants.zip schedule).foldl
    (fun current (constant, word) => current.round constant word) chain
  chain.add mixed

/-- The octets of a number, the most significant first. -/
def bigEndian : Nat → Nat → List UInt8
  | 0, _ => []
  | width + 1, value => bigEndian width (value / 256) ++ [UInt8.ofNat (value % 256)]

/-- A message brought to a whole number of blocks: a one bit, zeros, and its length in bits. -/
def pad (message : List UInt8) : List UInt8 :=
  let zeros := (119 - message.length % 64) % 64
  message ++ 0x80 :: List.replicate zeros 0 ++ bigEndian 8 (8 * message.length)

/-- The word whose octets are given, the most significant first. -/
def wordOf (octets : List UInt8) : UInt32 :=
  octets.foldl (fun word octet => (word <<< 8) ||| octet.toUInt32) 0

/-- The given number of words from the front of the octets, four octets each. -/
def wordsOf : Nat → List UInt8 → List UInt32
  | 0, _ => []
  | count + 1, octets => wordOf (octets.take 4) :: wordsOf count (octets.drop 4)

/-- Takes the given number of blocks from the front of the octets into the chain. -/
def absorbBlocks : Nat → Chain → List UInt8 → Chain
  | 0, chain, _ => chain
  | count + 1, chain, octets =>
    absorbBlocks count (chain.absorb (wordsOf 16 octets)) (octets.drop 64)

/-- The SHA-256 digest of a message. -/
def sha256 (message : List UInt8) : List UInt8 :=
  let padded := pad message
  let chain := absorbBlocks (padded.length / 64) Chain.first padded
  [chain.a, chain.b, chain.c, chain.d, chain.e, chain.f, chain.g, chain.h].flatMap
    fun word => bigEndian 4 word.toNat

/-- The digest under which a token is stored, so that the token itself need not be. -/
def ofToken (token : String) : String :=
  Text.toHex (sha256 token.toUTF8.toList)

end Tollgate.Digest
