import Mathlib.Algebra.Order.BigOperators.Group.List
import Mathlib.Algebra.Order.Ring.Nat
import PaymentChannel.Proofs.Script.Rules

/-! The ways to spend the outputs of close transactions.
Every script has two ways, told apart by the last element of the witness: one that both parties,
or the holder of the secret, can take at once, and one that a single party can take after the
delay. There are no others.
-/

namespace PaymentChannel

open Evaluation

-----------------------------------------------------------------------------------------
-- Scripts as instructions
-----------------------------------------------------------------------------------------

namespace Instruction

/-- An instruction of which many fit into a script. -/
def Fits (instruction : Instruction) : Prop :=
  instruction.Readable ∧ instruction.encode.length ≤ maxElement

theorem Fits.op {code : UInt8} (past : Opcode.pushData4 < code) : (Instruction.op code).Fits :=
  ⟨past, by simp [encode, maxElement]⟩

theorem Fits.push {data : List UInt8} (short : data.length < 0x4c)
    : (Instruction.push data).Fits := by
  refine ⟨Nat.lt_trans short (by decide), ?_⟩
  rw [encode, if_pos short]
  exact Nat.le_trans short (by decide)

theorem Fits.number {value : Nat} (small : value < 0x10000) : (Instruction.number value).Fits :=
  ⟨readable_number small, Nat.le_trans (length_encode_number small) (by decide)⟩

theorem Fits.pushKey (key : PublicKey) : (Script.pushKey key).Fits := by
  refine .push ?_
  rw [key.toBytes.length_toList]
  decide

end Instruction

namespace Script

variable {merchant customer payout dispute close : PublicKey} {lock : RevLock} {delay : UInt16}
  {instruction : Instruction}

theorem fits_bothSign (member : instruction ∈ bothSign merchant customer) : instruction.Fits := by
  simp only [bothSign, List.mem_cons, List.not_mem_nil, or_false] at member
  rcases member with rfl | rfl | rfl | rfl | rfl
  · exact .number (by decide)
  · exact .pushKey _
  · exact .pushKey _
  · exact .number (by decide)
  · exact .op (by decide)

theorem fits_waitFor (member : instruction ∈ waitFor delay) : instruction.Fits := by
  simp only [waitFor, List.mem_cons, List.not_mem_nil, or_false] at member
  rcases member with rfl | rfl | rfl
  · exact .number delay.toNat_lt
  · exact .op (by decide)
  · exact .op (by decide)

end Script

namespace Evaluation

variable {spend : Spend} {script : Script} {rest : List Instruction}
  {stack witness : List (List UInt8)} {branches : List Bool} {count : Nat}

/-- A script of few instructions is evaluated as they stand. -/
theorem accepts_ofInstructions {instructions : List Instruction}
    (fits : ∀ instruction ∈ instructions, instruction.Fits) (few : instructions.length ≤ 19)
    (within : ∀ element ∈ witness, element.length ≤ maxElement)
    : accepts spend (.ofInstructions instructions) witness = true
      ↔ Passes spend (.ofInstructions instructions) instructions ⟨witness.reverse, [], 0⟩ := by
  refine accepts_iff (Script.instructions?_ofInstructions fun instruction member =>
    (fits instruction member).1) ?_ within
  calc (Script.ofInstructions instructions).bytes.length
      = (instructions.map (·.encode.length)).sum := List.length_flatMap
    _ ≤ (instructions.map (·.encode.length)).length * maxElement :=
        List.sum_le_card_nsmul _ _ (by simpa using fun _ member => (fits _ member).2)
    _ ≤ 19 * maxElement := by
        rw [List.length_map]
        exact Nat.mul_le_mul_right _ few
    _ ≤ maxScript := by decide

/-- A script that begins with a conditional takes the branch that the top of the stack selects. -/
theorem accepts_branching {instructions : List Instruction}
    (fits : ∀ instruction ∈ instructions, instruction.Fits) (few : instructions.length ≤ 18)
    (listed : script = .ofInstructions (.op Opcode.ifTrue :: instructions))
    (within : ∀ element ∈ witness, element.length ≤ maxElement)
    : accepts spend script witness = true
      ↔ ∃ selector below, witness = (selector :: below).reverse ∧ below.length ≤ maxStack
        ∧ Passes spend script instructions ⟨below, [isTrue selector], 1⟩ := by
  have first : ∀ instruction ∈ .op Opcode.ifTrue :: instructions, instruction.Fits :=
    List.forall_mem_cons.2 ⟨.op (by decide), fits⟩
  rw [listed, accepts_ofInstructions first (Nat.succ_le_succ few) within,
    passes_ifTrue rfl (by decide)]
  simp only [List.reverse_eq_iff]

-----------------------------------------------------------------------------------------
-- Branches that are not taken
-----------------------------------------------------------------------------------------

section Skipped

variable (off : branches.all id = false)

include off

theorem passes_waitFor_skipped {delay : UInt16} (room : count + 2 ≤ maxOperations)
    : Passes spend script (Script.waitFor delay ++ rest) ⟨stack, branches, count⟩
      ↔ stack.length ≤ maxStack ∧ Passes spend script rest ⟨stack, branches, count + 2⟩ := by
  refine passes_skipped off ?_ (List.cons_ne_nil _ _) ?_ room
  · simp only [Script.waitFor, List.forall_mem_cons]
    exact ⟨plain_number delay.toNat_lt, rfl, rfl, List.forall_mem_nil _⟩
  · simp only [Script.waitFor, List.map_cons, List.map_nil, List.sum_cons, List.sum_nil,
      cost_number delay.toNat_lt]
    rfl

theorem passes_bothSign_skipped {merchant customer : PublicKey} (room : count + 1 ≤ maxOperations)
    : Passes spend script (Script.bothSign merchant customer ++ rest) ⟨stack, branches, count⟩
      ↔ stack.length ≤ maxStack ∧ Passes spend script rest ⟨stack, branches, count + 1⟩ := by
  refine passes_skipped off ?_ (List.cons_ne_nil _ _) rfl room
  simp only [Script.bothSign, List.forall_mem_cons]
  exact ⟨plain_number (by decide), length_toBytes _, length_toBytes _, plain_number (by decide),
    rfl, List.forall_mem_nil _⟩

end Skipped

-----------------------------------------------------------------------------------------
-- The customer's output
-----------------------------------------------------------------------------------------

theorem passes_lastCheckSig {key : PublicKey} (room : count < maxOperations)
    : Passes spend script [.op Opcode.checkSig] ⟨key.toBytes.toList :: stack, [], count⟩
      ↔ ∃ element, stack = [element] ∧ spend.Signed script element key := by
  rw [passes_checkSig rfl room]
  constructor
  · rintro ⟨element, below, valid, rfl, checked, -, passes⟩
    obtain ⟨rfl, rfl⟩ := accepting_ofBool.1 (passes_nil.1 passes)
    exact ⟨element, rfl, checkSignature_eq_true.1 checked⟩
  · rintro ⟨element, rfl, signed⟩
    exact ⟨element, [], true, rfl, checkSignature_eq_true.2 signed, by decide, passes_nil.2 rfl⟩

theorem length_lock (lock : RevLock) : lock.bytes.toList.length ≤ maxElement :=
  Nat.le_trans (Nat.le_of_eq lock.bytes.length_toList) (by decide)

section CustomerOutput

variable {dispute close : PublicKey} {lock : RevLock} {delay : UInt16}

/-- What follows the selector in the script of the customer's output. -/
def customerBranches (lock : RevLock) (dispute close : PublicKey) (delay : UInt16)
    : List Instruction :=
  .op Opcode.sha256 :: .push lock.bytes.toList :: .op Opcode.equalVerify
    :: Script.pushKey dispute :: .op Opcode.elseBranch
    :: (Script.waitFor delay ++ [Script.pushKey close, .op Opcode.endIf, .op Opcode.checkSig])

theorem fits_customerBranches
    : ∀ instruction ∈ customerBranches lock dispute close delay, instruction.Fits := by
  have short : lock.bytes.toList.length < 0x4c := by
    rw [lock.bytes.length_toList]
    decide
  simp only [customerBranches, List.forall_mem_cons, List.forall_mem_append]
  exact ⟨.op (by decide), .push short, .op (by decide), .pushKey _, .op (by decide),
    fun _ => Script.fits_waitFor, .pushKey _, .op (by decide), .op (by decide), nofun⟩

theorem passes_revoked
    : Passes spend script (customerBranches lock dispute close delay) ⟨stack, [true], 1⟩
      ↔ ∃ preimage signature, stack = [preimage, signature]
        ∧ PaymentChannel.sha256 preimage = lock.bytes
        ∧ spend.Signed script signature dispute := by
  simp (disch := decide) only [customerBranches, passes_sha256, passes_push _ (length_lock lock),
    passes_equalVerify, passes_pushKey, passes_elseBranch, passes_waitFor_skipped,
    passes_pushKey_skip, passes_endIf, passes_lastCheckSig]
  constructor
  · rintro ⟨preimage, _, rfl, -, -, opens, -, -, -, -, -, -, signature, rfl, signed⟩
    exact ⟨preimage, signature, rfl, Bytes.ext opens, signed⟩
  · rintro ⟨preimage, signature, rfl, opens, signed⟩
    refine ⟨preimage, _, rfl, ?_, ?_, congrArg Bytes.toList opens, ?_, ?_, ?_, ?_, ?_, ?_,
      signature, rfl, signed⟩ <;> simp [maxStack]

theorem passes_delayedClose
    : Passes spend script (customerBranches lock dispute close delay) ⟨stack, [false], 1⟩
      ↔ ∃ signature, stack = [signature] ∧ spend.Signed script signature close
        ∧ spend.WaitsBlocks delay := by
  simp (disch := decide) only [customerBranches, passes_op_skip,
    passes_push_skip _ (length_lock lock), passes_pushKey_skip, passes_elseBranch, passes_waitFor,
    passes_pushKey, passes_endIf, passes_lastCheckSig]
  constructor
  · rintro ⟨-, -, -, -, -, -, waits, -, -, signature, rfl, signed⟩
    exact ⟨signature, rfl, signed, waits⟩
  · rintro ⟨signature, rfl, signed, waits⟩
    refine ⟨?_, ?_, ?_, ?_, ?_, ?_, waits, ?_, ?_, signature, rfl, signed⟩ <;> simp [maxStack]

end CustomerOutput

-----------------------------------------------------------------------------------------
-- The output of a merchant-close transaction
-----------------------------------------------------------------------------------------

section MerchantOutput

variable {merchant customer payout : PublicKey} {delay : UInt16}

/-- What follows the selector in the script of the output of a merchant-close transaction. -/
def merchantBranches (merchant customer payout : PublicKey) (delay : UInt16) : List Instruction :=
  Script.bothSign merchant customer ++ .op Opcode.elseBranch
    :: (Script.waitFor delay ++ [Script.pushKey payout, .op Opcode.checkSig, .op Opcode.endIf])

theorem fits_merchantBranches
    : ∀ instruction ∈ merchantBranches merchant customer payout delay, instruction.Fits := by
  simp only [merchantBranches, List.forall_mem_cons, List.forall_mem_append]
  exact ⟨fun _ => Script.fits_bothSign, .op (by decide), fun _ => Script.fits_waitFor, .pushKey _,
    .op (by decide), .op (by decide), nofun⟩

theorem passes_together
    : Passes spend script (merchantBranches merchant customer payout delay) ⟨stack, [true], 1⟩
      ↔ ∃ second first, stack = [second, first, []] ∧ spend.Signed script first merchant
        ∧ spend.Signed script second customer := by
  simp (disch := decide) only [merchantBranches, passes_bothSign, passes_elseBranch,
    passes_waitFor_skipped, passes_pushKey_skip, passes_op_skip, passes_endIf, passes_nil,
    accepting_ofBool]
  constructor
  · rintro ⟨-, second, first, _, _, rfl, signed, -, -, -, -, -, rfl, rfl⟩
    exact ⟨second, first, rfl, matchSignatures_both.1 signed⟩
  · rintro ⟨second, first, rfl, signed⟩
    refine ⟨?_, second, first, [], true, rfl, matchSignatures_both.2 signed, ?_, ?_, ?_, ?_, ?_,
      rfl, rfl⟩ <;> simp [maxStack]

theorem passes_delayedPayout
    : Passes spend script (merchantBranches merchant customer payout delay) ⟨stack, [false], 1⟩
      ↔ ∃ signature, stack = [signature] ∧ spend.Signed script signature payout
        ∧ spend.WaitsBlocks delay := by
  simp (disch := decide) only [merchantBranches, passes_bothSign_skipped, passes_elseBranch,
    passes_waitFor, passes_pushKey, passes_checkSig, passes_endIf, passes_nil, accepting_ofBool]
  constructor
  · rintro ⟨-, -, -, waits, -, signature, _, _, rfl, signed, -, -, rfl, rfl⟩
    exact ⟨signature, rfl, checkSignature_eq_true.1 signed, waits⟩
  · rintro ⟨signature, rfl, signed, waits⟩
    refine ⟨?_, ?_, ?_, waits, ?_, signature, [], true, rfl, checkSignature_eq_true.2 signed, ?_,
      ?_, rfl, rfl⟩ <;> simp [maxStack]

end MerchantOutput

-----------------------------------------------------------------------------------------
-- All ways to spend an output
-----------------------------------------------------------------------------------------

section Paths

variable {merchant customer payout dispute close : PublicKey} {lock : RevLock} {delay : UInt16}

/-- The ways to spend the customer's output of a customer-close transaction: with the preimage of
the lock at once, or after the delay.
-/
inductive CustomerPath (spend : Spend) (lock : RevLock) (dispute close : PublicKey) (delay : UInt16)
    : List (List UInt8) → Prop
  | revoked {signature preimage selector : List UInt8} (selected : isTrue selector = true)
    (opens : PaymentChannel.sha256 preimage = lock.bytes)
    (signed : spend.Signed (.toCustomer lock dispute close delay) signature dispute)
    : CustomerPath spend lock dispute close delay [signature, preimage, selector]
  | delayed {signature selector : List UInt8} (selected : isTrue selector = false)
    (signed : spend.Signed (.toCustomer lock dispute close delay) signature close)
    (waits : spend.WaitsBlocks delay)
    : CustomerPath spend lock dispute close delay [signature, selector]

/-- The ways to spend the output of a merchant-close transaction: both parties together at once, or
the merchant alone after the delay.
-/
inductive MerchantPath (spend : Spend) (merchant customer payout : PublicKey) (delay : UInt16)
    : List (List UInt8) → Prop
  | together {first second selector : List UInt8} (selected : isTrue selector = true)
    (merchantSigned : spend.Signed (.merchantClose merchant customer payout delay) first merchant)
    (customerSigned : spend.Signed (.merchantClose merchant customer payout delay) second customer)
    : MerchantPath spend merchant customer payout delay [[], first, second, selector]
  | delayed {signature selector : List UInt8} (selected : isTrue selector = false)
    (signed : spend.Signed (.merchantClose merchant customer payout delay) signature payout)
    (waits : spend.WaitsBlocks delay)
    : MerchantPath spend merchant customer payout delay [signature, selector]

theorem accepts_toCustomer (within : ∀ element ∈ witness, element.length ≤ maxElement)
    : accepts spend (.toCustomer lock dispute close delay) witness = true
      ↔ CustomerPath spend lock dispute close delay witness := by
  have listed : Script.toCustomer lock dispute close delay = .ofInstructions
      (.op Opcode.ifTrue :: customerBranches lock dispute close delay) := rfl
  have few : (customerBranches lock dispute close delay).length ≤ 18 := by
    simp [customerBranches, Script.waitFor]
  rw [accepts_branching fits_customerBranches few listed within]
  constructor
  · rintro ⟨selector, below, rfl, -, passes⟩
    cases selected : isTrue selector with
    | true =>
        rw [selected] at passes
        obtain ⟨preimage, signature, rfl, opens, signed⟩ := passes_revoked.1 passes
        exact .revoked selected opens signed
    | false =>
        rw [selected] at passes
        obtain ⟨signature, rfl, signed, waits⟩ := passes_delayedClose.1 passes
        exact .delayed selected signed waits
  · intro path
    cases path with
    | @revoked signature preimage selector selected opens signed =>
        refine ⟨selector, [preimage, signature], rfl, by simp [maxStack], ?_⟩
        rw [selected]
        exact passes_revoked.2 ⟨_, _, rfl, opens, signed⟩
    | @delayed signature selector selected signed waits =>
        refine ⟨selector, [signature], rfl, by simp [maxStack], ?_⟩
        rw [selected]
        exact passes_delayedClose.2 ⟨_, rfl, signed, waits⟩

theorem accepts_merchantClose (within : ∀ element ∈ witness, element.length ≤ maxElement)
    : accepts spend (.merchantClose merchant customer payout delay) witness = true
      ↔ MerchantPath spend merchant customer payout delay witness := by
  have listed : Script.merchantClose merchant customer payout delay = .ofInstructions
      (.op Opcode.ifTrue :: merchantBranches merchant customer payout delay) := rfl
  have few : (merchantBranches merchant customer payout delay).length ≤ 18 := by
    simp [merchantBranches, Script.bothSign, Script.waitFor]
  rw [accepts_branching fits_merchantBranches few listed within]
  constructor
  · rintro ⟨selector, below, rfl, -, passes⟩
    cases selected : isTrue selector with
    | true =>
        rw [selected] at passes
        obtain ⟨second, first, rfl, merchantSigned, customerSigned⟩ := passes_together.1 passes
        exact .together selected merchantSigned customerSigned
    | false =>
        rw [selected] at passes
        obtain ⟨signature, rfl, signed, waits⟩ := passes_delayedPayout.1 passes
        exact .delayed selected signed waits
  · intro path
    cases path with
    | @together first second selector selected merchantSigned customerSigned =>
        refine ⟨selector, [second, first, []], rfl, by simp [maxStack], ?_⟩
        rw [selected]
        exact passes_together.2 ⟨_, _, rfl, merchantSigned, customerSigned⟩
    | @delayed signature selector selected signed waits =>
        refine ⟨selector, [signature], rfl, by simp [maxStack], ?_⟩
        rw [selected]
        exact passes_delayedPayout.2 ⟨_, rfl, signed, waits⟩

/-- The escrow is spent by both parties together only. -/
theorem accepts_escrow (within : ∀ element ∈ witness, element.length ≤ maxElement)
    : accepts spend (.escrow merchant customer) witness = true
      ↔ ∃ first second, witness = [[], first, second]
        ∧ spend.Signed (.escrow merchant customer) first merchant
        ∧ spend.Signed (.escrow merchant customer) second customer := by
  have few : (Script.bothSign merchant customer).length ≤ 19 := by simp [Script.bothSign]
  rw [Script.escrow, accepts_ofInstructions (fun _ => Script.fits_bothSign) few within]
  show Passes spend _ (Script.bothSign merchant customer ++ []) _ ↔ _
  rw [passes_bothSign rfl (by decide)]
  simp only [passes_nil, accepting_ofBool]
  constructor
  · rintro ⟨-, second, first, _, _, reversed, signed, rfl, rfl⟩
    exact ⟨first, second, List.reverse_eq_iff.1 reversed, matchSignatures_both.1 signed⟩
  · rintro ⟨first, second, rfl, signed⟩
    exact ⟨by simp [maxStack], second, first, [], true, rfl, matchSignatures_both.2 signed, rfl,
      rfl⟩

end Paths

end Evaluation

end PaymentChannel
