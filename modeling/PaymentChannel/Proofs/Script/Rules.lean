import Mathlib.Algebra.GroupWithZero.Nat
import Mathlib.Data.Nat.SuccPred
import PaymentChannel.Proofs.Lock
import PaymentChannel.Proofs.Script.Evaluation

/-! Rules for following a script by hand.
Each rule says what it takes for the rest of a script to be accepted in terms of the rest after one
instruction, so that a script is read from its first instruction to its last.
-/

namespace PaymentChannel

namespace Evaluation

variable {spend : Spend} {script : Script} {rest : List Instruction} {machine : Machine}
  {stack : List (List UInt8)} {branches : List Bool} {count : Nat}

/-- What is left of a script is accepted by a machine. -/
def Passes (spend : Spend) (script : Script) (rest : List Instruction) (machine : Machine) : Prop :=
  (run spend script rest machine).any Machine.accepting = true

theorem passes_nil : Passes spend script [] machine ↔ machine.accepting = true := by
  simp [Passes, run]

theorem passes_cons {instruction : Instruction}
    : Passes spend script (instruction :: rest) machine
      ↔ ∃ next, step spend script instruction machine = some next
        ∧ Passes spend script rest next := by
  simp only [Passes, run]
  cases step spend script instruction machine with
  | none => simp
  | some next => simp

theorem accepts_iff {instructions : List Instruction} {witness : List (List UInt8)}
    (read : script.instructions? = some instructions) (short : script.bytes.length ≤ maxScript)
    (within : ∀ element ∈ witness, element.length ≤ maxElement)
    : accepts spend script witness = true
      ↔ Passes spend script instructions ⟨witness.reverse, [], 0⟩ := by
  have all : witness.all (·.length ≤ maxElement) = true := by simpa using within
  simp [accepts, read, short, all, Passes]

/-- A script ends well when nothing is left but the outcome of its last check. -/
theorem accepting_ofBool {valid : Bool}
    : Machine.accepting ⟨ofBool valid :: stack, [], count⟩ = true ↔ stack = [] ∧ valid = true := by
  cases stack with
  | nil => cases valid <;> simp [Machine.accepting, ofBool, isTrue]
  | cons => simp [Machine.accepting]

-----------------------------------------------------------------------------------------
-- Conditionals
-----------------------------------------------------------------------------------------

theorem passes_op {code : UInt8} {operation : Operation}
    (read : Operation.ofCode? code = some operation) (room : count + operation.cost ≤ maxOperations)
    : Passes spend script (.op code :: rest) ⟨stack, branches, count⟩
      ↔ ∃ next, perform spend script operation ⟨stack, branches, count + operation.cost⟩ = some next
        ∧ next.stack.length ≤ maxStack ∧ Passes spend script rest next := by
  simp [passes_cons, step, read, room, and_assoc, Option.bind_eq_some_iff]

theorem passes_ifTrue (on : branches.all id = true) (room : count < maxOperations)
    : Passes spend script (.op Opcode.ifTrue :: rest) ⟨stack, branches, count⟩
      ↔ ∃ selector below, stack = selector :: below ∧ below.length ≤ maxStack
        ∧ Passes spend script rest ⟨below, isTrue selector :: branches, count + 1⟩ := by
  rw [passes_op rfl room]
  simp only [perform, Machine.executes, on, if_true, Operation.cost]
  cases stack with
  | nil => simp
  | cons selector below => simp [and_assoc]

theorem passes_elseBranch {taken : Bool} (room : count < maxOperations)
    : Passes spend script (.op Opcode.elseBranch :: rest) ⟨stack, taken :: branches, count⟩
      ↔ stack.length ≤ maxStack
        ∧ Passes spend script rest ⟨stack, (!taken) :: branches, count + 1⟩ := by
  rw [passes_op rfl room]
  simp [perform, Operation.cost]

theorem passes_endIf {taken : Bool} (room : count < maxOperations)
    : Passes spend script (.op Opcode.endIf :: rest) ⟨stack, taken :: branches, count⟩
      ↔ stack.length ≤ maxStack
        ∧ Passes spend script rest ⟨stack, branches, count + 1⟩ := by
  rw [passes_op rfl room]
  simp [perform, Operation.cost]

-----------------------------------------------------------------------------------------
-- Instructions that are executed
-----------------------------------------------------------------------------------------

theorem passes_push (on : branches.all id = true) {data : List UInt8}
    (short : data.length ≤ maxElement)
    : Passes spend script (.push data :: rest) ⟨stack, branches, count⟩
      ↔ stack.length < maxStack ∧ Passes spend script rest ⟨data :: stack, branches, count⟩ := by
  simp [passes_cons, step, short, Machine.executes, Machine.push, on, and_assoc]

theorem length_toBytes (key : PublicKey) : key.toBytes.toList.length ≤ maxElement :=
  Nat.le_trans (Nat.le_of_eq key.toBytes.length_toList) (by decide)

theorem passes_pushKey (on : branches.all id = true) {key : PublicKey}
    : Passes spend script (Script.pushKey key :: rest) ⟨stack, branches, count⟩
      ↔ stack.length < maxStack
        ∧ Passes spend script rest ⟨key.toBytes.toList :: stack, branches, count⟩ :=
  passes_push on (length_toBytes key)

/-- An operation other than a conditional does to the stack what it says where it is executed. -/
theorem passes_executed (on : branches.all id = true) {code : UInt8} {operation : Operation}
    (read : Operation.ofCode? code = some operation)
    (plain : operation.isConditional = false)
    (room : count + operation.cost ≤ maxOperations)
    : Passes spend script (.op code :: rest) ⟨stack, branches, count⟩
      ↔ ∃ next, execute spend script operation ⟨stack, branches, count + operation.cost⟩ = some next
        ∧ next.stack.length ≤ maxStack ∧ Passes spend script rest next := by
  rw [passes_op read room]
  have performed : perform spend script operation ⟨stack, branches, count + operation.cost⟩
      = execute spend script operation ⟨stack, branches, count + operation.cost⟩ := by
    cases operation <;> simp_all [perform, Machine.executes, Operation.isConditional]
  rw [performed]

theorem passes_drop (on : branches.all id = true) {element : List UInt8}
    (room : count < maxOperations)
    : Passes spend script (.op Opcode.drop :: rest) ⟨element :: stack, branches, count⟩
      ↔ stack.length ≤ maxStack ∧ Passes spend script rest ⟨stack, branches, count + 1⟩ := by
  rw [passes_executed on rfl (by decide) room]
  simp [execute, Operation.cost]

theorem passes_sha256 (on : branches.all id = true) (room : count < maxOperations)
    : Passes spend script (.op Opcode.sha256 :: rest) ⟨stack, branches, count⟩
      ↔ ∃ data below, stack = data :: below ∧ below.length < maxStack
        ∧ Passes spend script rest
          ⟨(PaymentChannel.sha256 data).toList :: below, branches, count + 1⟩ := by
  rw [passes_executed on rfl (by decide) room]
  cases stack with
  | nil => simp [execute]
  | cons data below => simp [execute, Operation.cost, and_assoc]

theorem passes_equalVerify (on : branches.all id = true) {left right : List UInt8}
    (room : count < maxOperations)
    : Passes spend script (.op Opcode.equalVerify :: rest) ⟨right :: left :: stack, branches, count⟩
      ↔ left = right ∧ stack.length ≤ maxStack
        ∧ Passes spend script rest ⟨stack, branches, count + 1⟩ := by
  rw [passes_executed on rfl (by decide) room]
  simp [execute, Operation.cost, and_assoc]

theorem passes_checkSig (on : branches.all id = true) {key : List UInt8}
    (room : count < maxOperations)
    : Passes spend script (.op Opcode.checkSig :: rest) ⟨key :: stack, branches, count⟩
      ↔ ∃ element below valid, stack = element :: below
        ∧ spend.checkSignature script element key = some valid ∧ below.length < maxStack
        ∧ Passes spend script rest ⟨ofBool valid :: below, branches, count + 1⟩ := by
  rw [passes_executed on rfl (by decide) room]
  cases stack with
  | nil => simp [execute]
  | cons element below =>
      cases checked : spend.checkSignature script element key with
      | none => simp [execute, checked]
      | some valid =>
          cases valid <;>
            simp [execute, Operation.cost, checked, and_assoc]

-----------------------------------------------------------------------------------------
-- Instructions that are skipped
-----------------------------------------------------------------------------------------

/-- What an instruction counts towards the limit. -/
def cost : Instruction → Nat
  | .push _ => 0
  | .op code => ((Operation.ofCode? code).map Operation.cost).getD 0

/-- An instruction that is no conditional and whose data is short enough. -/
def Plain : Instruction → Prop
  | .push data => data.length ≤ maxElement
  | .op code => (Operation.ofCode? code).any (!·.isConditional) = true

theorem step_skipped (off : branches.all id = false) {instruction : Instruction}
    (plain : Plain instruction) (room : count + cost instruction ≤ maxOperations)
    : step spend script instruction ⟨stack, branches, count⟩
      = if stack.length ≤ maxStack then some ⟨stack, branches, count + cost instruction⟩
        else none := by
  cases instruction with
  | push data =>
      have short : data.length ≤ maxElement := plain
      simp [step, short, Machine.executes, off, cost]
  | op code =>
      cases read : Operation.ofCode? code with
      | none => simp [Plain, read] at plain
      | some operation =>
          simp only [Plain, read, Option.any_some, Bool.not_eq_true'] at plain
          simp only [cost, read, Option.map_some, Option.getD_some] at room ⊢
          have skipped : perform spend script operation ⟨stack, branches, count + operation.cost⟩
              = some ⟨stack, branches, count + operation.cost⟩ := by
            cases operation <;> simp_all [perform, Machine.executes, Operation.isConditional]
          simp [step, read, room, skipped]

theorem passes_skip (off : branches.all id = false) {instruction : Instruction}
    (plain : Plain instruction) (room : count + cost instruction ≤ maxOperations)
    : Passes spend script (instruction :: rest) ⟨stack, branches, count⟩
      ↔ stack.length ≤ maxStack
        ∧ Passes spend script rest ⟨stack, branches, count + cost instruction⟩ := by
  rw [passes_cons, step_skipped off plain room]
  split <;> simp [*]

theorem passes_push_skip (off : branches.all id = false) {data : List UInt8}
    (short : data.length ≤ maxElement) (room : count ≤ maxOperations)
    : Passes spend script (.push data :: rest) ⟨stack, branches, count⟩
      ↔ stack.length ≤ maxStack ∧ Passes spend script rest ⟨stack, branches, count⟩ :=
  passes_skip off short room

theorem passes_pushKey_skip (off : branches.all id = false) {key : PublicKey}
    (room : count ≤ maxOperations)
    : Passes spend script (Script.pushKey key :: rest) ⟨stack, branches, count⟩
      ↔ stack.length ≤ maxStack ∧ Passes spend script rest ⟨stack, branches, count⟩ :=
  passes_push_skip off (length_toBytes key) room

theorem passes_op_skip (off : branches.all id = false) {code : UInt8}
    (plain : (Operation.ofCode? code).any (!·.isConditional) = true)
    (counts : cost (.op code) = 1) (room : count + 1 ≤ maxOperations)
    : Passes spend script (.op code :: rest) ⟨stack, branches, count⟩
      ↔ stack.length ≤ maxStack ∧ Passes spend script rest ⟨stack, branches, count + 1⟩ := by
  rw [← counts] at room ⊢
  exact passes_skip off plain room

/-- Instructions in a branch that is not taken only count. -/
theorem passes_skipped (off : branches.all id = false) {skipped : List Instruction} {total : Nat}
    (plain : ∀ instruction ∈ skipped, Plain instruction) (some : skipped ≠ [])
    (costs : (skipped.map cost).sum = total) (room : count + total ≤ maxOperations)
    : Passes spend script (skipped ++ rest) ⟨stack, branches, count⟩
      ↔ stack.length ≤ maxStack
        ∧ Passes spend script rest ⟨stack, branches, count + total⟩ := by
  subst costs
  induction skipped generalizing count with
  | nil => exact absurd rfl some
  | cons instruction others ih =>
      rw [List.map_cons, List.sum_cons, ← Nat.add_assoc] at room ⊢
      rw [List.cons_append, passes_skip off (plain _ List.mem_cons_self)
        (Nat.le_trans (Nat.le_add_right _ _) room)]
      rcases others with - | ⟨second, more⟩
      · simp
      · rw [ih (fun other member => plain other (List.mem_cons_of_mem _ member))
          (List.cons_ne_nil _ _) room]
        exact and_self_left

-----------------------------------------------------------------------------------------
-- Numbers
-----------------------------------------------------------------------------------------

/-- The element that stands for a number from 0 on. -/
def numberElement (value : Nat) : List UInt8 :=
  if value = 0 then [] else Instruction.numberBytes value

/-- The sign of a number that was written stays clear. -/
theorem numberOf_numberElement (value : Nat) : numberOf (numberElement value) = value := by
  unfold numberElement
  split
  case isTrue zero =>
    rw [zero]
    rfl
  case isFalse positive =>
    -- One bit more than the value has is left in its bytes.
    have bits : value < 2 ^ (value.log2 + 1) := Nat.lt_log2_self
    have room : 2 ^ (value.log2 + 1) ≤ Nat.pow 256 ((value.log2 + 1) / 8 + 1) / 2 := by
      have bytes : Nat.pow 256 ((value.log2 + 1) / 8 + 1) / 2
          = 2 ^ (8 * ((value.log2 + 1) / 8) + 7) := by
        rw [Nat.pow_eq, show 256 = 2 ^ 8 from rfl, ← Nat.pow_mul, Nat.mul_add, Nat.mul_one,
          Nat.pow_succ _ (8 * ((value.log2 + 1) / 8) + 7)]
        exact Nat.mul_div_cancel _ (by decide)
      rw [bytes]
      exact Nat.pow_le_pow_right (by decide) (by omega)
    have fits : value < Nat.pow 256 ((value.log2 + 1) / 8 + 1) := by omega
    have magnitude : ofBigEndian (Instruction.numberBytes value).reverse = value :=
      ofBigEndian_bigEndian fits
    simp only [numberOf, magnitude]
    rw [if_pos]
    simp only [Instruction.numberBytes, length_littleEndian]
    omega

example : numberOf [0x90, 0x80] = -0x90 := by decide

theorem length_numberElement {value : Nat} (small : value < 0x10000)
    : (numberElement value).length ≤ 3 := by
  unfold numberElement
  split
  case isTrue => exact Nat.zero_le _
  case isFalse positive =>
    have bits : value.log2 < 16 := (Nat.log2_lt positive).2 small
    rw [Instruction.numberBytes, length_littleEndian]
    omega

/-- The instruction that pushes a number from 1 to 16 has no data. -/
theorem number_of_small {value : Nat} (positive : value ≠ 0) (small : value ≤ 16)
    : ∃ code, Instruction.number value = .op code
      ∧ Operation.ofCode? code = some (.number (UInt8.ofNat value))
      ∧ Opcode.pushData4 < code
      ∧ numberElement value = [UInt8.ofNat value] := by
  have all : ∀ value ≤ 16, value ≠ 0 →
      (0x51 ≤ UInt8.ofNat (0x50 + value) ∧ UInt8.ofNat (0x50 + value) ≤ 0x60)
      ∧ UInt8.ofNat (0x50 + value) - 0x50 = UInt8.ofNat value
      ∧ Opcode.pushData4 < UInt8.ofNat (0x50 + value)
      ∧ numberElement value = [UInt8.ofNat value] := by
    decide +kernel
  obtain ⟨range, back, past, element⟩ := all value small positive
  refine ⟨UInt8.ofNat (0x50 + value), ?_, ?_, past, element⟩
  · rw [Instruction.number, if_neg positive, if_pos small]
  · rw [Operation.ofCode?, if_pos range, back]

theorem number_of_large {value : Nat} (large : value = 0 ∨ 16 < value)
    : Instruction.number value = .push (numberElement value) := by
  unfold Instruction.number numberElement
  rcases large with rfl | large
  · rfl
  · have positive : value ≠ 0 := by omega
    have past : ¬value ≤ 16 := by omega
    simp [positive, past]

/-- How the instruction that pushes a number is written. -/
theorem number_cases {value : Nat} (small : value < 0x10000)
    : (∃ code, Instruction.number value = .op code
        ∧ Operation.ofCode? code = some (.number (UInt8.ofNat value))
        ∧ Opcode.pushData4 < code
        ∧ numberElement value = [UInt8.ofNat value])
      ∨ Instruction.number value = .push (numberElement value)
        ∧ (numberElement value).length ≤ 3 := by
  by_cases short : value ≠ 0 ∧ value ≤ 16
  · exact .inl (number_of_small short.1 short.2)
  · exact .inr ⟨number_of_large (by omega), length_numberElement small⟩

/-- A number can be read off the instruction that pushes it. -/
theorem number_inj {left right : Nat} (small : left < 0x10000) (also : right < 0x10000)
    (same : Instruction.number left = .number right)
    : left = right := by
  have elements : numberElement left = numberElement right := by
    rcases number_cases small with ⟨code, written, read, -, element⟩ | ⟨written, -⟩
    · rcases number_cases also with ⟨other, again, reread, -, otherElement⟩ | ⟨again, -⟩
      · obtain rfl : code = other := Instruction.op.inj (written.symm.trans (same.trans again))
        have told := Operation.number.inj (Option.some.inj (read.symm.trans reread))
        rw [element, otherElement, told]
      · cases written.symm.trans (same.trans again)
    · rcases number_cases also with ⟨other, again, -⟩ | ⟨again, -⟩
      · cases written.symm.trans (same.trans again)
      · exact Instruction.push.inj (written.symm.trans (same.trans again))
  have numbers := congrArg numberOf elements
  rw [numberOf_numberElement, numberOf_numberElement] at numbers
  exact Int.ofNat.inj numbers

section Number

variable {value : Nat} (small : value < 0x10000)

include small

theorem readable_number : (Instruction.number value).Readable := by
  rcases number_cases small with ⟨code, written, -, past, -⟩ | ⟨written, short⟩
  · rw [written]
    exact past
  · rw [written]
    exact Nat.lt_of_le_of_lt short (by decide)

theorem length_encode_number : (Instruction.number value).encode.length ≤ 4 := by
  rcases number_cases small with ⟨code, written, -⟩ | ⟨written, short⟩
  · rw [written]
    simp [Instruction.encode]
  · have below : (numberElement value).length < 0x4c := by omega
    rw [written, Instruction.encode, if_pos below]
    exact Nat.succ_le_succ short

theorem plain_number : Plain (.number value) := by
  rcases number_cases small with ⟨code, written, read, -⟩ | ⟨written, short⟩
  · rw [written]
    simp [Plain, read, Operation.isConditional]
  · rw [written]
    exact Nat.le_trans short (by decide)

theorem cost_number : cost (.number value) = 0 := by
  rcases number_cases small with ⟨code, written, read, -⟩ | ⟨written, -⟩
  · rw [written, cost, read]
    rfl
  · rw [written]
    rfl

theorem passes_number (on : branches.all id = true) (room : count ≤ maxOperations)
    : Passes spend script (.number value :: rest) ⟨stack, branches, count⟩
      ↔ stack.length < maxStack
        ∧ Passes spend script rest ⟨numberElement value :: stack, branches, count⟩ := by
  rcases number_cases small with ⟨code, written, read, -, element⟩ | ⟨written, short⟩
  · rw [written, passes_executed on read rfl room, element]
    simp [execute, Machine.push, Operation.cost]
  · rw [written, passes_push on (Nat.le_trans short (by decide))]

end Number

-----------------------------------------------------------------------------------------
-- Relative locks
-----------------------------------------------------------------------------------------

theorem number?_numberElement {width value : Nat} (small : value < 0x10000) (wide : 3 ≤ width)
    : number? width (numberElement value) = some (value : Int) := by
  rw [number?, if_pos (Nat.le_trans (length_numberElement small) wide), numberOf_numberElement]

/-- A number of 16 bits asks for blocks. -/
theorem waits_iff {blocks : UInt16}
    : spend.waits blocks.toNat = true ↔ spend.WaitsBlocks blocks := by
  have low : blocks.toNat < 2 ^ 16 := blocks.toNat_lt
  have time : Spend.countsTime blocks.toNat = false :=
    Nat.testBit_lt_two_pow (Nat.lt_trans low (by decide))
  have span : Spend.span blocks.toNat = blocks.toNat := Nat.mod_eq_of_lt low
  simp only [Spend.waits, time, span, Bool.and_eq_true, decide_eq_true_eq, Bool.not_eq_true',
    beq_iff_eq]
  constructor
  · rintro ⟨⟨⟨version, locked⟩, counted⟩, long⟩
    exact ⟨version, locked, counted, long⟩
  · rintro ⟨version, locked, counted, long⟩
    exact ⟨⟨⟨version, locked⟩, counted⟩, long⟩

section Segments

variable (on : branches.all id = true)

include on

theorem passes_checkSequence {blocks : UInt16} (room : count < maxOperations)
    : Passes spend script (.op Opcode.checkSequence :: rest)
        ⟨numberElement blocks.toNat :: stack, branches, count⟩
      ↔ spend.WaitsBlocks blocks ∧ stack.length < maxStack
        ∧ Passes spend script rest
          ⟨numberElement blocks.toNat :: stack, branches, count + 1⟩ := by
  have number : number? 5 (numberElement blocks.toNat) = some (blocks.toNat : Int) :=
    number?_numberElement blocks.toNat_lt (by decide)
  have locked : Spend.isFree blocks.toNat = false :=
    Nat.testBit_lt_two_pow (Nat.lt_trans blocks.toNat_lt (by decide))
  rw [passes_executed on rfl (by decide) room]
  by_cases waits : spend.WaitsBlocks blocks
  · simp [execute, number, locked, waits_iff.2 waits, waits, Operation.cost]
  · have short : spend.waits blocks.toNat = false := by
      rw [← Bool.not_eq_true, waits_iff]
      exact waits
    simp [execute, number, locked, short, waits]

/-- A script that asks for a delay accepts the inputs that wait for it. -/
theorem passes_waitFor {delay : UInt16} (room : count + 2 ≤ maxOperations)
    : Passes spend script (Script.waitFor delay ++ rest) ⟨stack, branches, count⟩
      ↔ stack.length < maxStack ∧ spend.WaitsBlocks delay
        ∧ Passes spend script rest ⟨stack, branches, count + 2⟩ := by
  have first : count < maxOperations := Nat.lt_of_lt_of_le (by omega) room
  have second : count + 1 < maxOperations := room
  simp only [Script.waitFor, List.cons_append, List.nil_append]
  rw [passes_number delay.toNat_lt on (Nat.le_of_lt first), passes_checkSequence on first,
    passes_drop on second]
  constructor
  · rintro ⟨within, waits, -, -, passes⟩
    exact ⟨within, waits, passes⟩
  · rintro ⟨within, waits, passes⟩
    exact ⟨within, waits, within, Nat.le_of_lt within, passes⟩

end Segments

-----------------------------------------------------------------------------------------
-- Signatures
-----------------------------------------------------------------------------------------

theorem checkSignature_eq_true {element : List UInt8} {key : PublicKey}
    : spend.checkSignature script element key.toBytes.toList = some true
      ↔ spend.Signed script element key := by
  unfold Spend.checkSignature Spend.Signed
  split
  case isTrue empty =>
    subst empty
    simp [Signature.ofWitness?]
  case isFalse =>
    simp [PublicKey.ofBytes?_toBytes, Option.bind_eq_some_iff]

theorem matchSignatures_both {first second : List UInt8} {merchant customer : PublicKey}
    : matchSignatures spend script [second, first]
        [customer.toBytes.toList, merchant.toBytes.toList] = some true
      ↔ spend.Signed script first merchant ∧ spend.Signed script second customer := by
  rw [← checkSignature_eq_true, ← checkSignature_eq_true]
  cases last : spend.checkSignature script second customer.toBytes.toList with
  | none => simp [matchSignatures, last]
  | some valid =>
      cases valid with
      | false => simp [matchSignatures, last]
      | true =>
          cases other : spend.checkSignature script first merchant.toBytes.toList with
          | none => simp [matchSignatures, last, other]
          | some valid => cases valid <;> simp [matchSignatures, last, other]

theorem takeCounted?_numberElement {most count : Nat} {stack : List (List UInt8)}
    (within : count ≤ most) (small : count < 0x10000)
    : takeCounted? most (numberElement count :: stack)
      = if count ≤ stack.length then some (stack.take count, stack.drop count) else none := by
  simp [takeCounted?, number?_numberElement small (show 3 ≤ 4 by decide), within]

/-- With two keys and two signatures a third element is taken, which has to be empty. -/
theorem execute_checkMultisig {lower upper : List UInt8} {next : Machine}
    (room : count + 2 ≤ maxOperations)
    : execute spend script .checkMultisig
        ⟨numberElement 2 :: upper :: lower :: numberElement 2 :: stack, branches, count⟩ = some next
      ↔ ∃ second first below valid, stack = second :: first :: [] :: below
        ∧ matchSignatures spend script [second, first] [upper, lower] = some valid
        ∧ next = ⟨ofBool valid :: below, branches, count + 2⟩ := by
  have keys : takeCounted? maxKeys (numberElement 2 :: upper :: lower :: numberElement 2 :: stack)
      = some ([upper, lower], numberElement 2 :: stack) := by
    simp [takeCounted?_numberElement (show 2 ≤ maxKeys by decide)]
  have signatures : takeCounted? [upper, lower].length (numberElement 2 :: stack)
      = if 2 ≤ stack.length then some (stack.take 2, stack.drop 2) else none :=
    takeCounted?_numberElement (Nat.le_refl 2) (by decide)
  simp only [execute, keys, signatures, Option.bind_eq_bind, Option.bind_some]
  rcases stack with - | ⟨second, - | ⟨first, - | ⟨- | ⟨byte, bytes⟩, below⟩⟩⟩
  · simp
  · simp
  · simp
  · simp [room, Option.bind_eq_some_iff, @eq_comm _ next, and_assoc]
  · simp

/-- A script that asks both parties to sign takes an empty element and two signatures, the
customer's on top.
-/
theorem passes_bothSign (on : branches.all id = true) {merchant customer : PublicKey}
    (room : count + 3 ≤ maxOperations)
    : Passes spend script (Script.bothSign merchant customer ++ rest) ⟨stack, branches, count⟩
      ↔ stack.length + 4 ≤ maxStack
        ∧ ∃ second first below valid, stack = second :: first :: [] :: below
          ∧ matchSignatures spend script [second, first]
            [customer.toBytes.toList, merchant.toBytes.toList] = some valid
          ∧ Passes spend script rest ⟨ofBool valid :: below, branches, count + 3⟩ := by
  have within : count ≤ maxOperations := by omega
  simp only [Script.bothSign, List.cons_append, List.nil_append]
  rw [passes_number (by decide) on within, passes_pushKey on, passes_pushKey on,
    passes_number (by decide) on within,
    passes_executed on rfl (by decide) (Nat.le_trans (Nat.le_add_right _ 2) room)]
  simp only [Operation.cost, execute_checkMultisig room, List.length_cons]
  constructor
  · rintro ⟨-, -, -, low, _, ⟨second, first, below, valid, rfl, matched, rfl⟩, -, passes⟩
    exact ⟨low, second, first, below, valid, rfl, matched, passes⟩
  · rintro ⟨low, second, first, below, valid, rfl, matched, passes⟩
    refine ⟨by omega, by omega, by omega, by omega, _,
      ⟨second, first, below, valid, rfl, matched, rfl⟩, ?_, passes⟩
    simp only [List.length_cons] at low ⊢
    omega

end Evaluation

end PaymentChannel
