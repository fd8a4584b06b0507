import PaymentChannel.Proofs.Lock
import PaymentChannel.Proofs.Script.SpendPaths

/-! Locking scripts tell everything they were built from.
A script is read back as its instructions, so two scripts with the same bytes push the same keys,
the same lock and the same delay.
-/

namespace PaymentChannel

open Evaluation

-----------------------------------------------------------------------------------------
-- Parameters that instructions push
-----------------------------------------------------------------------------------------

/-- A key can be read off the instruction that pushes it. -/
theorem Script.pushKey_inj {key other : PublicKey}
    : pushKey key = pushKey other ↔ key = other := by
  rw [pushKey, pushKey, Instruction.push.injEq, Bytes.toList_inj, PublicKey.toBytes_inj]

/-- A delay can be read off the instruction that pushes it, which has no data up to 16 and one to three
bytes from there on.
-/
theorem Script.number_delay_inj {delay other : UInt16}
    : Instruction.number delay.toNat = .number other.toNat ↔ delay = other :=
  ⟨fun same => UInt16.toNat_inj.1 (number_inj delay.toNat_lt other.toNat_lt same),
    congrArg fun delay : UInt16 => Instruction.number delay.toNat⟩

/-- A lock can be read off the instruction that pushes it. -/
theorem RevLock.push_inj {lock other : RevLock}
    : Instruction.push lock.bytes.toList = .push other.bytes.toList ↔ lock = other := by
  obtain ⟨bytes⟩ := lock
  obtain ⟨others⟩ := other
  rw [Instruction.push.injEq, Bytes.toList_inj, RevLock.mk.injEq]

-----------------------------------------------------------------------------------------
-- Scripts and their parameters
-----------------------------------------------------------------------------------------

/-- What the output of a channel is locked with: the kind of its script, and the keys, the lock and
the delay that the script depends on.
-/
inductive LockingScript
  | escrow (merchant customer : PublicKey)
  | merchantClose (merchant customer payout : PublicKey) (delay : UInt16)
  | toCustomer (lock : RevLock) (dispute close : PublicKey) (delay : UInt16)
  | toMerchant (payout : PublicKey)

namespace LockingScript

/-- The script that a spend of the output has to satisfy. -/
def script : LockingScript → Script
  | escrow merchant customer => .escrow merchant customer
  | merchantClose merchant customer payout delay => .merchantClose merchant customer payout delay
  | toCustomer lock dispute close delay => .toCustomer lock dispute close delay
  | toMerchant payout => .keyCode payout

/-- The script of the output, which shows a hash only. -/
def output : LockingScript → Script
  | escrow merchant customer => .payToScript (.escrow merchant customer)
  | merchantClose merchant customer payout delay =>
      .payToScript (.merchantClose merchant customer payout delay)
  | toCustomer lock dispute close delay => .payToScript (.toCustomer lock dispute close delay)
  | toMerchant payout => .toKey payout

/-- The instructions of the script. -/
def instructions : LockingScript → List Instruction
  | escrow merchant customer => Script.bothSign merchant customer
  | merchantClose merchant customer payout delay =>
      .op Opcode.ifTrue :: merchantBranches merchant customer payout delay
  | toCustomer lock dispute close delay =>
      .op Opcode.ifTrue :: customerBranches lock dispute close delay
  | toMerchant payout =>
      [.op Opcode.dup, .op Opcode.hash160, .push (hash160 payout.toBytes.toList).toList,
        .op Opcode.equalVerify, .op Opcode.checkSig]

variable {left right : LockingScript}

theorem script_eq_ofInstructions (locking : LockingScript)
    : locking.script = .ofInstructions locking.instructions := by
  cases locking <;> rfl

/-- Every instruction of a locking script is read back. -/
theorem fits_instructions (locking : LockingScript)
    : ∀ instruction ∈ locking.instructions, instruction.Fits := by
  cases locking with
  | escrow => exact fun _ => Script.fits_bothSign
  | merchantClose => exact List.forall_mem_cons.2 ⟨.op (by decide), fits_merchantBranches⟩
  | toCustomer => exact List.forall_mem_cons.2 ⟨.op (by decide), fits_customerBranches⟩
  | toMerchant payout =>
      have short : (hash160 payout.toBytes.toList).toList.length < 0x4c := by
        rw [Bytes.length_toList]
        decide
      simp only [instructions, List.forall_mem_cons]
      exact ⟨.op (by decide), .op (by decide), .push short, .op (by decide), .op (by decide), nofun⟩

/-- No instruction begins in the middle of another one, so equal scripts have the same instructions.
-/
theorem instructions_eq_of_script (same : left.script = right.script)
    : left.instructions = right.instructions := by
  have read : ∀ locking : LockingScript,
      locking.script.instructions? = some locking.instructions := by
    intro locking
    rw [script_eq_ofInstructions]
    exact Script.instructions?_ofInstructions fun _ member =>
      (locking.fits_instructions _ member).1
  exact Option.some.inj ((read left).symm.trans ((congrArg _ same).trans (read right)))

/-- What is locked the same way: with the same parameters, except that keys which are paid are told
apart by their hashes only.
-/
inductive Alike : LockingScript → LockingScript → Prop
  | same {locking : LockingScript} : Alike locking locking
  | paid {payout other : PublicKey}
    (hashes : hash160 payout.toBytes.toList = hash160 other.toBytes.toList)
    : Alike (toMerchant payout) (toMerchant other)

/-- The first two instructions tell the kind of a script, and the others its parameters. -/
theorem alike_of_instructions (listed : left.instructions = right.instructions)
    : left.Alike right := by
  cases left with
  | escrow merchant customer =>
      cases right with
      | escrow =>
          simp only [instructions, Script.bothSign, List.cons.injEq, Script.pushKey_inj, true_and,
            and_true] at listed
          obtain ⟨rfl, rfl⟩ := listed
          exact .same
      | merchantClose | toCustomer | toMerchant =>
          exact absurd (List.cons.inj listed).1 (by decide)
  | merchantClose merchant customer payout delay =>
      cases right with
      | merchantClose =>
          simp only [instructions, merchantBranches, Script.bothSign, Script.waitFor,
            List.cons_append, List.nil_append, List.cons.injEq, Script.pushKey_inj,
            Script.number_delay_inj, true_and, and_true] at listed
          obtain ⟨rfl, rfl, rfl, rfl⟩ := listed
          exact .same
      | toCustomer =>
          exact absurd (List.cons.inj (List.cons.inj listed).2).1 (by decide)
      | escrow | toMerchant => exact absurd (List.cons.inj listed).1 (by decide)
  | toCustomer lock dispute close delay =>
      cases right with
      | toCustomer =>
          simp only [instructions, customerBranches, Script.waitFor, List.cons_append,
            List.nil_append, List.cons.injEq, RevLock.push_inj, Script.pushKey_inj,
            Script.number_delay_inj, true_and, and_true] at listed
          obtain ⟨rfl, rfl, rfl, rfl⟩ := listed
          exact .same
      | merchantClose =>
          exact absurd (List.cons.inj (List.cons.inj listed).2).1 (by decide)
      | escrow | toMerchant => exact absurd (List.cons.inj listed).1 (by decide)
  | toMerchant payout =>
      cases right with
      | toMerchant =>
          simp only [instructions, List.cons.injEq, Instruction.push.injEq, true_and,
            and_true] at listed
          exact .paid (Bytes.ext listed)
      | escrow | merchantClose | toCustomer =>
          exact absurd (List.cons.inj listed).1 (by decide)

/-- Two scripts are equal exactly if they lock the same way. -/
theorem script_eq_iff : left.script = right.script ↔ left.Alike right := by
  constructor
  · exact fun same => alike_of_instructions (instructions_eq_of_script same)
  · rintro (_ | hashes)
    · rfl
    · simp only [script, Script.keyCode, Script.keyHashCode, hashes]

end LockingScript

/-- The lock can be read off the script of the customer's output. -/
theorem Script.lock_eq_of_toCustomer {lock other : RevLock}
    {dispute close otherDispute otherClose : PublicKey} {delay otherDelay : UInt16}
    (same : toCustomer lock dispute close delay
      = toCustomer other otherDispute otherClose otherDelay)
    : lock = other := by
  have alike : (LockingScript.toCustomer lock dispute close delay).Alike
      (.toCustomer other otherDispute otherClose otherDelay) := LockingScript.script_eq_iff.1 same
  cases alike
  rfl

end PaymentChannel
