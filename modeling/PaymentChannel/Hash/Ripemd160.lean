import PaymentChannel.Hash.Sha256

/-! The RIPEMD-160 hash function, and the short hash of keys that is built on it.
Two lines of eighty steps run over each block of sixteen words and are added up at its end.
-/

namespace PaymentChannel

namespace Ripemd160

/-- A word with its bits rotated to the left. -/
def rotate (word amount : UInt32) : UInt32 :=
  (word <<< amount) ||| (word >>> (32 - amount))

/-- The words spelled by groups of four bytes, the least significant byte first. -/
def words : List UInt8 → List UInt32
  | a :: b :: c :: d :: rest =>
      (a.toUInt32 ||| (b.toUInt32 <<< 8) ||| (c.toUInt32 <<< 16) ||| (d.toUInt32 <<< 24))
        :: words rest
  | _ => []

/-- The message with the mark of its end and its length in bits, as whole blocks. -/
def pad (message : List UInt8) : List UInt8 :=
  message ++ 0x80 :: (List.replicate ((119 - message.length % 64) % 64) 0
    ++ littleEndian 8 (8 * message.length))

/-- What one step needs: the word of the block it takes and the amount it rotates by. -/
structure Step where
  word : Nat
  amount : UInt32

/-- Pairs up the words and the amounts of the steps of a line. -/
def steps (order : List Nat) (amounts : List UInt32) : List Step :=
  (order.zip amounts).map fun step => ⟨step.1, step.2⟩

/-- The sixteen steps of each round of the left line. -/
def leftRounds : List (List Step) :=
  [steps [0, 1, 2, 3, 4, 5, 6, 7, 8, 9, 10, 11, 12, 13, 14, 15]
      [11, 14, 15, 12, 5, 8, 7, 9, 11, 13, 14, 15, 6, 7, 9, 8],
    steps [7, 4, 13, 1, 10, 6, 15, 3, 12, 0, 9, 5, 2, 14, 11, 8]
      [7, 6, 8, 13, 11, 9, 7, 15, 7, 12, 15, 9, 11, 7, 13, 12],
    steps [3, 10, 14, 4, 9, 15, 8, 1, 2, 7, 0, 6, 13, 11, 5, 12]
      [11, 13, 6, 7, 14, 9, 13, 15, 14, 8, 13, 6, 5, 12, 7, 5],
    steps [1, 9, 11, 10, 0, 8, 12, 4, 13, 3, 7, 15, 14, 5, 6, 2]
      [11, 12, 14, 15, 14, 15, 9, 8, 9, 14, 5, 6, 8, 6, 5, 12],
    steps [4, 0, 5, 9, 7, 12, 2, 10, 14, 1, 3, 8, 11, 6, 15, 13]
      [9, 15, 5, 11, 6, 8, 13, 12, 5, 12, 13, 14, 11, 8, 5, 6]]

/-- The sixteen steps of each round of the right line. -/
def rightRounds : List (List Step) :=
  [steps [5, 14, 7, 0, 9, 2, 11, 4, 13, 6, 15, 8, 1, 10, 3, 12]
      [8, 9, 9, 11, 13, 15, 15, 5, 7, 7, 8, 11, 14, 14, 12, 6],
    steps [6, 11, 3, 7, 0, 13, 5, 10, 14, 15, 8, 12, 4, 9, 1, 2]
      [9, 13, 15, 7, 12, 8, 9, 11, 7, 7, 12, 7, 6, 15, 13, 11],
    steps [15, 5, 1, 3, 7, 14, 6, 9, 11, 8, 12, 2, 10, 0, 4, 13]
      [9, 7, 15, 11, 8, 6, 6, 14, 12, 13, 5, 14, 13, 13, 7, 5],
    steps [8, 6, 4, 1, 3, 11, 15, 0, 5, 12, 2, 13, 9, 7, 10, 14]
      [15, 5, 8, 11, 14, 14, 6, 14, 6, 9, 12, 9, 12, 5, 15, 8],
    steps [12, 15, 10, 4, 1, 5, 8, 7, 6, 2, 13, 14, 0, 3, 9, 11]
      [8, 5, 12, 9, 12, 5, 14, 6, 8, 13, 6, 5, 15, 13, 11, 11]]

/-- The bitwise functions of the five rounds of the left line; the right line takes them in the
opposite order.
-/
def mixers : List (UInt32 → UInt32 → UInt32 → UInt32) :=
  [fun x y z => x ^^^ y ^^^ z,
    fun x y z => (x &&& y) ||| (~~~x &&& z),
    fun x y z => (x ||| ~~~y) ^^^ z,
    fun x y z => (x &&& z) ||| (y &&& ~~~z),
    fun x y z => x ^^^ (y ||| ~~~z)]

/-- The constants of the rounds of the left line. -/
def leftConstants : List UInt32 := [0x00000000, 0x5a827999, 0x6ed9eba1, 0x8f1bbcdc, 0xa953fd4e]

/-- The constants of the rounds of the right line. -/
def rightConstants : List UInt32 := [0x50a28be6, 0x5c4dd124, 0x6d703ef3, 0x7a6d76e9, 0x00000000]

/-- The chaining value, which is also the working value of a line. -/
structure Chain where
  a : UInt32
  b : UInt32
  c : UInt32
  d : UInt32
  e : UInt32

/-- The chaining value before the first block. -/
def Chain.start : Chain :=
  ⟨0x67452301, 0xefcdab89, 0x98badcfe, 0x10325476, 0xc3d2e1f0⟩

/-- One round of a line over a block. -/
def Chain.round (block : List UInt32) (chain : Chain)
    (round : List Step × (UInt32 → UInt32 → UInt32 → UInt32) × UInt32)
    : Chain :=
  round.1.foldl
    (fun working step =>
      let sum := working.a + round.2.1 working.b working.c working.d
        + block.getD step.word 0 + round.2.2
      ⟨working.e, rotate sum step.amount + working.e, working.b, rotate working.c 10, working.d⟩)
    chain

/-- The chaining value after a block of sixteen words. -/
def Chain.compress (chain : Chain) (block : List UInt32) : Chain :=
  let left := (leftRounds.zip (mixers.zip leftConstants)).foldl (round block) chain
  let right := (rightRounds.zip (mixers.reverse.zip rightConstants)).foldl (round block) chain
  ⟨chain.b + left.c + right.d, chain.c + left.d + right.e, chain.d + left.e + right.a,
    chain.e + left.a + right.b, chain.a + left.b + right.c⟩

/-- The chaining value after a number of blocks. -/
def Chain.absorb : Nat → List UInt32 → Chain → Chain
  | 0, _, chain => chain
  | blocks + 1, message, chain =>
      absorb blocks (message.drop 16) (chain.compress (message.take 16))

/-- The bytes of the chaining value. -/
def Chain.bytes (chain : Chain) : Bytes 20 :=
  ⟨littleEndian 4 chain.a.toNat ++ littleEndian 4 chain.b.toNat ++ littleEndian 4 chain.c.toNat
      ++ littleEndian 4 chain.d.toNat ++ littleEndian 4 chain.e.toNat,
    by simp⟩

end Ripemd160

/-- The RIPEMD-160 hash of a message. -/
def ripemd160 (message : List UInt8) : Bytes 20 :=
  let padded := Ripemd160.words (Ripemd160.pad message)
  (Ripemd160.Chain.absorb (padded.length / 16) padded .start).bytes

/-- The short hash by which outputs name the key that spends them. -/
def hash160 (message : List UInt8) : Bytes 20 :=
  ripemd160 (sha256 message).toList

end PaymentChannel
