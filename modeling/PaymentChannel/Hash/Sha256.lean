import PaymentChannel.Bytes

/-! The SHA-256 hash function.
The chaining value is eight words, changed by 64 rounds for each block of sixteen words of the
padded message.
-/

namespace PaymentChannel

namespace Sha256

/-- A word with its bits rotated to the right. -/
def rotate (word amount : UInt32) : UInt32 :=
  (word >>> amount) ||| (word <<< (32 - amount))

/-- The words spelled by groups of four bytes, the most significant byte first. -/
def words : List UInt8 → List UInt32
  | a :: b :: c :: d :: rest =>
      ((a.toUInt32 <<< 24) ||| (b.toUInt32 <<< 16) ||| (c.toUInt32 <<< 8) ||| d.toUInt32)
        :: words rest
  | _ => []

/-- The message with the mark of its end and its length in bits, as whole blocks. -/
def pad (message : List UInt8) : List UInt8 :=
  message ++ 0x80 :: (List.replicate ((119 - message.length % 64) % 64) 0
    ++ bigEndian 8 (8 * message.length))

/-- The constants added in the rounds of one block. -/
def roundConstants : List UInt32 :=
  [0x428a2f98, 0x71374491, 0xb5c0fbcf, 0xe9b5dba5, 0x3956c25b, 0x59f111f1, 0x923f82a4, 0xab1c5ed5,
   0xd807aa98, 0x12835b01, 0x243185be, 0x550c7dc3, 0x72be5d74, 0x80deb1fe, 0x9bdc06a7, 0xc19bf174,
   0xe49b69c1, 0xefbe4786, 0x0fc19dc6, 0x240ca1cc, 0x2de92c6f, 0x4a7484aa, 0x5cb0a9dc, 0x76f988da,
   0x983e5152, 0xa831c66d, 0xb00327c8, 0xbf597fc7, 0xc6e00bf3, 0xd5a79147, 0x06ca6351, 0x14292967,
   0x27b70a85, 0x2e1b2138, 0x4d2c6dfc, 0x53380d13, 0x650a7354, 0x766a0abb, 0x81c2c92e, 0x92722c85,
   0xa2bfe8a1, 0xa81a664b, 0xc24b8b70, 0xc76c51a3, 0xd192e819, 0xd6990624, 0xf40e3585, 0x106aa070,
   0x19a4c116, 0x1e376c08, 0x2748774c, 0x34b0bcb5, 0x391c0cb3, 0x4ed8aa4a, 0x5b9cca4f, 0x682e6ff3,
   0x748f82ee, 0x78a5636f, 0x84c87814, 0x8cc70208, 0x90befffa, 0xa4506ceb, 0xbef9a3f7, 0xc67178f2]

/-- The word that follows the words of the schedule, which are listed from the latest. -/
def scheduled : List UInt32 → UInt32
  | _ :: two :: _ :: _ :: _ :: _ :: seven :: _ :: _ :: _ :: _ :: _ :: _ :: _ :: fifteen
      :: sixteen :: _ =>
      (rotate two 17 ^^^ rotate two 19 ^^^ (two >>> 10)) + seven
        + (rotate fifteen 7 ^^^ rotate fifteen 18 ^^^ (fifteen >>> 3)) + sixteen
  | _ => 0

/-- The schedule, listed from the latest word, with more words in front. -/
def extend : Nat → List UInt32 → List UInt32
  | 0, schedule => schedule
  | more + 1, schedule => extend more (scheduled schedule :: schedule)

/-- The chaining value, which is also the working value of the rounds. -/
structure Chain where
  a : UInt32
  b : UInt32
  c : UInt32
  d : UInt32
  e : UInt32
  f : UInt32
  g : UInt32
  h : UInt32

/-- The chaining value before the first block. -/
def Chain.start : Chain :=
  ⟨0x6a09e667, 0xbb67ae85, 0x3c6ef372, 0xa54ff53a, 0x510e527f, 0x9b05688c, 0x1f83d9ab, 0x5be0cd19⟩

/-- One round, which takes a constant and a word of the schedule. -/
def Chain.round (chain : Chain) (constant word : UInt32) : Chain :=
  let choice := (chain.e &&& chain.f) ^^^ (~~~chain.e &&& chain.g)
  let majority := (chain.a &&& chain.b) ^^^ (chain.a &&& chain.c) ^^^ (chain.b &&& chain.c)
  let mixed := chain.h + (rotate chain.e 6 ^^^ rotate chain.e 11 ^^^ rotate chain.e 25) + choice
    + constant + word
  ⟨mixed + (rotate chain.a 2 ^^^ rotate chain.a 13 ^^^ rotate chain.a 22) + majority,
    chain.a, chain.b, chain.c, chain.d + mixed, chain.e, chain.f, chain.g⟩

/-- The rounds by a list of constants and a schedule. -/
def Chain.rounds : (constants schedule : List UInt32) → Chain → Chain
  | constant :: constants, word :: schedule, chain =>
      rounds constants schedule (chain.round constant word)
  | _, _, chain => chain

/-- The chaining value after a block of sixteen words. -/
def Chain.compress (chain : Chain) (block : List UInt32) : Chain :=
  let mixed := rounds roundConstants (extend 48 block.reverse).reverse chain
  ⟨chain.a + mixed.a, chain.b + mixed.b, chain.c + mixed.c, chain.d + mixed.d,
    chain.e + mixed.e, chain.f + mixed.f, chain.g + mixed.g, chain.h + mixed.h⟩

/-- The chaining value after a number of blocks. -/
def Chain.absorb : Nat → List UInt32 → Chain → Chain
  | 0, _, chain => chain
  | blocks + 1, message, chain =>
      absorb blocks (message.drop 16) (chain.compress (message.take 16))

/-- The bytes of the chaining value. -/
def Chain.bytes (chain : Chain) : Bytes 32 :=
  ⟨bigEndian 4 chain.a.toNat ++ bigEndian 4 chain.b.toNat ++ bigEndian 4 chain.c.toNat
      ++ bigEndian 4 chain.d.toNat ++ bigEndian 4 chain.e.toNat ++ bigEndian 4 chain.f.toNat
      ++ bigEndian 4 chain.g.toNat ++ bigEndian 4 chain.h.toNat,
    by simp⟩

end Sha256

/-- The SHA-256 hash of a message. -/
def sha256 (message : List UInt8) : Bytes 32 :=
  let padded := Sha256.words (Sha256.pad message)
  (Sha256.Chain.absorb (padded.length / 16) padded .start).bytes

/-- The SHA-256 hash of the SHA-256 hash of a message. -/
def doubleSha256 (message : List UInt8) : Bytes 32 :=
  sha256 (sha256 message).toList

end PaymentChannel
