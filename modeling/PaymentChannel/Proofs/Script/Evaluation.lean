import PaymentChannel.Proofs.Script.Reading
import PaymentChannel.Proofs.Script.Spend

/-! The evaluation of the scripts that outputs name by their hash (BIP 141).
Only the operations that the scripts of a channel consist of are evaluated; any other ends the
evaluation. The rules are those of consensus, without the stricter ones by which nodes choose what
to relay.
-/

namespace PaymentChannel

-----------------------------------------------------------------------------------------
-- Elements of the stack
-----------------------------------------------------------------------------------------

namespace Evaluation

/-- An element is true unless it is zero, which may have a sign. -/
def isTrue : List UInt8 → Bool
  | [] => false
  | [last] => last != 0 && last != 0x80
  | byte :: rest => byte != 0 || isTrue rest

/-- The element that stands for the outcome of a check. -/
def ofBool (value : Bool) : List UInt8 := if value then [1] else []

/-- The number that an element stands for, the least significant byte first. The highest bit is the
sign.
-/
def numberOf (element : List UInt8) : Int :=
  let magnitude := ofBigEndian element.reverse
  let sign := Nat.pow 256 element.length / 2
  if magnitude < sign then magnitude else -(magnitude - sign : Nat)

/-- The number, if the element is short enough for one. -/
def number? (width : Nat) (element : List UInt8) : Option Int :=
  if element.length ≤ width then some (numberOf element) else none

/-- The limits of an evaluation. -/
def maxScript : Nat := 10000
def maxElement : Nat := 520
def maxStack : Nat := 1000
def maxOperations : Nat := 201
def maxKeys : Nat := 20

-----------------------------------------------------------------------------------------
-- Operations
-----------------------------------------------------------------------------------------

/-- The operations that the scripts of a channel consist of. -/
inductive Operation
  | number (value : UInt8)
  | ifTrue
  | elseBranch
  | endIf
  | drop
  | equalVerify
  | sha256
  | checkSig
  | checkMultisig
  | checkSequence

namespace Operation

def ofCode? (code : UInt8) : Option Operation :=
  if 0x51 ≤ code ∧ code ≤ 0x60 then some (.number (code - 0x50))
  else if code = Opcode.ifTrue then some .ifTrue
  else if code = Opcode.elseBranch then some .elseBranch
  else if code = Opcode.endIf then some .endIf
  else if code = Opcode.drop then some .drop
  else if code = Opcode.equalVerify then some .equalVerify
  else if code = Opcode.sha256 then some .sha256
  else if code = Opcode.checkSig then some .checkSig
  else if code = Opcode.checkMultisig then some .checkMultisig
  else if code = Opcode.checkSequence then some .checkSequence
  else none

/-- Whether an operation opens, turns or closes a conditional. -/
def isConditional : Operation → Bool
  | .ifTrue | .elseBranch | .endIf => true
  | _ => false

/-- What an operation counts towards the limit. It does so where it is not executed, too. -/
def cost : Operation → Nat
  | .number _ => 0
  | _ => 1

end Operation

/-- The state of an evaluation. -/
structure Machine where
  /-- The elements, the top first. -/
  stack : List (List UInt8)
  /-- Whether the open conditionals take the branch, the innermost first. -/
  branches : List Bool
  /-- The operations counted so far. -/
  operations : Nat

namespace Machine

/-- Whether all open conditionals take the branch. -/
def executes (machine : Machine) : Bool := machine.branches.all id

def push (machine : Machine) (element : List UInt8) : Machine :=
  { machine with stack := element :: machine.stack }

/-- The script is through: no conditional is open, and what is left is one element that is true. -/
def accepting : Machine → Bool
  | ⟨[result], [], _⟩ => isTrue result
  | _ => false

end Machine

-----------------------------------------------------------------------------------------
-- Signatures of several keys
-----------------------------------------------------------------------------------------

/-- Takes the elements off a stack that its top counts. -/
def takeCounted? (most : Nat)
    : List (List UInt8) → Option (List (List UInt8) × List (List UInt8))
  | [] => none
  | count :: rest => do
      let number ← number? 4 count
      if 0 ≤ number ∧ number.toNat ≤ most ∧ number.toNat ≤ rest.length then
        some (rest.take number.toNat, rest.drop number.toNat)
      else none

/-- Whether every signature has a key of its own, both in their order. A key that does not fit a
signature is passed over, as long as there are keys left for all signatures.
-/
def matchSignatures (spend : Spend) (script : Script)
    : (signatures keys : List (List UInt8)) → Option Bool
  | [], _ => some true
  | _ :: _, [] => some false
  | signature :: signatures, key :: keys =>
      if keys.length < signatures.length then some false
      else do
        if ← spend.checkSignature script signature key then
          matchSignatures spend script signatures keys
        else matchSignatures spend script (signature :: signatures) keys

-----------------------------------------------------------------------------------------
-- Steps
-----------------------------------------------------------------------------------------

variable (spend : Spend) (script : Script)

/-- What an operation does where it is executed. -/
def execute : Operation → Machine → Option Machine
  | .number value, machine => some (machine.push [value])
  | .drop, ⟨_ :: rest, branches, count⟩ => some ⟨rest, branches, count⟩
  | .equalVerify, ⟨right :: left :: rest, branches, count⟩ =>
      if left = right then some ⟨rest, branches, count⟩ else none
  | .sha256, ⟨data :: rest, branches, count⟩ =>
      some ⟨(PaymentChannel.sha256 data).toList :: rest, branches, count⟩
  | .checkSig, ⟨key :: signature :: rest, branches, count⟩ => do
      return ⟨ofBool (← spend.checkSignature script signature key) :: rest, branches, count⟩
  | .checkMultisig, ⟨stack, branches, count⟩ => do
      let (keys, stack) ← takeCounted? maxKeys stack
      let (signatures, stack) ← takeCounted? keys.length stack
      let valid ← matchSignatures spend script signatures keys
      match stack with
      -- One more element is taken than there are signatures, and it has to be empty.
      | [] :: rest =>
          if count + keys.length ≤ maxOperations then
            some ⟨ofBool valid :: rest, branches, count + keys.length⟩
          else none
      | _ => none
  | .checkSequence, ⟨asked :: rest, branches, count⟩ => do
      let number ← number? 5 asked
      if 0 ≤ number ∧ (Spend.isFree number.toNat ∨ spend.waits number.toNat) then
        some ⟨asked :: rest, branches, count⟩
      else none
  | _, _ => none

/-- What an operation does. Conditionals are followed where nothing is executed, too. -/
def perform : Operation → Machine → Option Machine
  | .ifTrue, machine =>
      if machine.executes then
        match machine with
        | ⟨selector :: rest, branches, count⟩ => some ⟨rest, isTrue selector :: branches, count⟩
        | _ => none
      else some { machine with branches := false :: machine.branches }
  | .elseBranch, machine =>
      match machine with
      | ⟨stack, taken :: branches, count⟩ => some ⟨stack, (!taken) :: branches, count⟩
      | _ => none
  | .endIf, machine =>
      match machine with
      | ⟨stack, _ :: branches, count⟩ => some ⟨stack, branches, count⟩
      | _ => none
  | operation, machine =>
      if machine.executes then execute spend script operation machine else some machine

/-- What an instruction does, within the limits. -/
def step (instruction : Instruction) (machine : Machine) : Option Machine := do
  let next ← match instruction with
    | .push data =>
        if data.length ≤ maxElement then
          some (if machine.executes then machine.push data else machine)
        else none
    | .op code => do
        let operation ← Operation.ofCode? code
        let count := machine.operations + operation.cost
        if count ≤ maxOperations then
          perform spend script operation { machine with operations := count }
        else none
  if next.stack.length ≤ maxStack then some next else none

/-- What instructions do one after the other. -/
def run : List Instruction → Machine → Option Machine
  | [], machine => some machine
  | instruction :: rest, machine => (step spend script instruction machine).bind (run rest)

/-- Whether a script accepts the elements of a witness, the bottom of the stack first. -/
def accepts (witness : List (List UInt8)) : Bool :=
  script.bytes.length ≤ maxScript
    && witness.all (·.length ≤ maxElement)
    && (script.instructions?.bind (run spend script · ⟨witness.reverse, [], 0⟩)).any
      Machine.accepting

end Evaluation

/-- An input has the right to spend an output that names a script by its hash: its witness ends with
the script, which accepts the elements before it.
-/
def Spend.Unlocks (spend : Spend) (output : TxOut) : Prop :=
  spend.value = output.value
  ∧ spend.input.scriptSig = .empty
  ∧ ∃ script witness, spend.input.witness = witness ++ [script.bytes]
    ∧ output.script.bytes = [0x00, 0x20] ++ (sha256 script.bytes).toList
    ∧ Evaluation.accepts spend script witness

end PaymentChannel
