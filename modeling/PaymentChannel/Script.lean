import PaymentChannel.Bytes
import PaymentChannel.Hash.Ripemd160

/-! Scripts as byte strings and as lists of instructions.
Every script is written from instructions; a script seen on the chain is read back one
instruction at a time and may end in the middle of one.
-/

namespace PaymentChannel

/-- A script in its written form. -/
structure Script where
  bytes : List UInt8
deriving DecidableEq

/-- The empty script. -/
def Script.empty : Script := ⟨[]⟩

namespace Opcode

/-- Pushes whose length takes one, two or four bytes of its own. -/
def pushData1 : UInt8 := 0x4c
def pushData2 : UInt8 := 0x4d
def pushData4 : UInt8 := 0x4e

/-- Branches on the top of the stack. -/
def ifTrue : UInt8 := 0x63
def elseBranch : UInt8 := 0x67
def endIf : UInt8 := 0x68

/-- Marks an output that can't be spent. -/
def opReturn : UInt8 := 0x6a

/-- Stack operations and comparisons. -/
def drop : UInt8 := 0x75
def dup : UInt8 := 0x76
def equalVerify : UInt8 := 0x88

/-- Hashes and signatures. -/
def sha256 : UInt8 := 0xa8
def hash160 : UInt8 := 0xa9
def checkSig : UInt8 := 0xac
def checkMultisig : UInt8 := 0xae

/-- Requires a relative timelock of the spending input. -/
def checkSequence : UInt8 := 0xb2

end Opcode

/-- One instruction of a script. -/
inductive Instruction
  | push (data : List UInt8)
  | op (code : UInt8)
deriving DecidableEq

namespace Instruction

/-- The bytes of a script number from 1 on, the least significant first. They hold one bit more
than the value, so that the sign, the highest bit, stays clear.
-/
def numberBytes (value : Nat) : List UInt8 :=
  littleEndian ((value.log2 + 1) / 8 + 1) value

/-- The shortest instruction that pushes a number. -/
def number (value : Nat) : Instruction :=
  if value = 0 then push []
  else if value ≤ 16 then op (UInt8.ofNat (0x50 + value))
  else push (numberBytes value)

/-- The written form; the length of a push takes no more bytes than it needs. -/
def encode : Instruction → List UInt8
  | op code => [code]
  | push data =>
      if data.length < 0x4c then UInt8.ofNat data.length :: data
      else if data.length < 0x100 then
        Opcode.pushData1 :: (littleEndian 1 data.length ++ data)
      else if data.length < 0x10000 then
        Opcode.pushData2 :: (littleEndian 2 data.length ++ data)
      else Opcode.pushData4 :: (littleEndian 4 data.length ++ data)

/-- Splits a push off some bytes: a length of the given width, then the data. -/
def readPush? (width : Nat) (bytes : List UInt8) : Option (Instruction × List UInt8) :=
  let length := ofBigEndian (bytes.take width).reverse
  let rest := bytes.drop width
  if width ≤ bytes.length ∧ length ≤ rest.length then
    some (push (rest.take length), rest.drop length)
  else none

/-- The first instruction of some bytes and what follows it, unless the bytes end before it does.
-/
def read? : List UInt8 → Option (Instruction × List UInt8)
  | [] => none
  | code :: rest =>
      if code < Opcode.pushData1 then
        if code.toNat ≤ rest.length then
          some (push (rest.take code.toNat), rest.drop code.toNat)
        else none
      else if code = Opcode.pushData1 then readPush? 1 rest
      else if code = Opcode.pushData2 then readPush? 2 rest
      else if code = Opcode.pushData4 then readPush? 4 rest
      else some (op code, rest)

end Instruction

namespace Script

/-- The script of some instructions. -/
def ofInstructions (instructions : List Instruction) : Script :=
  ⟨instructions.flatMap Instruction.encode⟩

/-- Pays to whoever satisfies a script, which the output names by its hash. -/
def payToScript (witness : Script) : Script :=
  ofInstructions [.number 0, .push (PaymentChannel.sha256 witness.bytes).toList]

/-- Pays to the holder of a key, which the output names by its hash. -/
def payToKey (key : List UInt8) : Script :=
  ofInstructions [.number 0, .push (PaymentChannel.hash160 key).toList]

/-- Asks for a key with the given hash and a signature under it. This is what a signature of an
input commits to when the input spends an output that pays to a key.
-/
def keyHashCode (key : List UInt8) : Script :=
  ofInstructions [.op Opcode.dup, .op Opcode.hash160,
    .push (PaymentChannel.hash160 key).toList, .op Opcode.equalVerify, .op Opcode.checkSig]

/-- Publishes data and can't be spent. -/
def publish (data : List UInt8) : Script :=
  ofInstructions [.op Opcode.opReturn, .push data]

/-- Whether a script marks its output as one that can't be spent. -/
def isPublication (script : Script) : Bool :=
  script.bytes.head? == some Opcode.opReturn

end Script

end PaymentChannel
