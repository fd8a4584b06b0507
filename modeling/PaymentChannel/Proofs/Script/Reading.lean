import PaymentChannel.Proofs.Nonce
import PaymentChannel.Script

/-! Scripts read back as the instructions they were written from.
The reader takes the first instruction in any of its written forms, and takes nothing else for one.
-/

namespace PaymentChannel

namespace Instruction

/-- An instruction that is told apart from others by its bytes: the data of a push is short enough
for its length to be written, and an operation is not one that pushes what follows it.
-/
def Readable : Instruction → Prop
  | push data => data.length < 0x100000000
  | op code => Opcode.pushData4 < code

/-- The operations that push data behind a length of so many bytes. -/
def countedForms : List (UInt8 × Nat) :=
  [(Opcode.pushData1, 1), (Opcode.pushData2, 2), (Opcode.pushData4, 4)]

/-- The written forms of an instruction. A push has its length in front of its data, in one of four
forms, of which `encode` chooses the shortest.
-/
inductive Writes : Instruction → List UInt8 → Prop
  | op {code : UInt8} (past : Opcode.pushData4 < code) : Writes (.op code) [code]
  | direct {data : List UInt8} (short : data.length < 0x4c)
    : Writes (.push data) (UInt8.ofNat data.length :: data)
  | counted {code : UInt8} {width : Nat} {data : List UInt8} (form : (code, width) ∈ countedForms)
    (fits : data.length < 256 ^ width)
    : Writes (.push data) (code :: (littleEndian width data.length ++ data))

theorem Writes.encode {instruction : Instruction} (readable : instruction.Readable)
    : Writes instruction instruction.encode := by
  cases instruction with
  | op code => exact .op readable
  | push data =>
      simp only [Instruction.encode]
      split
      case isTrue short => exact .direct short
      case isFalse =>
        split
        case isTrue one => exact .counted (by simp [countedForms]) one
        case isFalse =>
          split
          case isTrue two => exact .counted (by simp [countedForms]) two
          case isFalse => exact .counted (by simp [countedForms]) readable

/-- A push is read back from a length and data of that length, and from nothing else. -/
theorem readPush?_eq_some {width : Nat} {bytes rest : List UInt8} {instruction : Instruction}
    : readPush? width bytes = some (instruction, rest)
      ↔ ∃ data, instruction = .push data ∧ data.length < 256 ^ width
        ∧ bytes = littleEndian width data.length ++ data ++ rest := by
  constructor
  · intro read
    simp only [readPush?, Option.ite_none_right_eq_some, Option.some.injEq, Prod.mk.injEq] at read
    obtain ⟨⟨enough, whole⟩, rfl, rfl⟩ := read
    have counted : (bytes.take width).length = width := List.length_take_of_le enough
    have digits := littleEndian_ofBigEndian (bytes.take width)
    have below := ofBigEndian_lt (bytes.take width).reverse
    rw [counted] at digits
    rw [List.length_reverse, counted] at below
    refine ⟨_, rfl, ?_⟩
    rw [List.length_take_of_le whole, digits, List.append_assoc, List.take_append_drop,
      List.take_append_drop]
    exact ⟨below, rfl⟩
  · rintro ⟨data, rfl, fits, rfl⟩
    have length : ofBigEndian (littleEndian width data.length).reverse = data.length :=
      ofBigEndian_bigEndian fits
    simp [readPush?, List.take_left', List.drop_left', length]

/-- The codes of operations are those that push nothing. -/
theorem pushData4_lt {code : UInt8}
    : Opcode.pushData4 < code
      ↔ ¬code < Opcode.pushData1 ∧ code ≠ Opcode.pushData1 ∧ code ≠ Opcode.pushData2
        ∧ code ≠ Opcode.pushData4 := by
  simp only [UInt8.lt_iff_toNat_lt, ne_eq, ← UInt8.toNat_inj, Opcode.pushData1, Opcode.pushData2,
    Opcode.pushData4, UInt8.reduceToNat]
  omega

/-- An instruction is read back from its written forms, whatever follows them, and from nothing else.
-/
theorem read?_eq_some {bytes rest : List UInt8} {instruction : Instruction}
    : read? bytes = some (instruction, rest)
      ↔ ∃ written, Writes instruction written ∧ bytes = written ++ rest := by
  -- The three markers differ in the width of the length only.
  have counted : ∀ {code : UInt8} {width : Nat} {tail : List UInt8}, (code, width) ∈ countedForms
      → readPush? width tail = some (instruction, rest)
      → ∃ written, Writes instruction written ∧ code :: tail = written ++ rest := by
    intro code width tail form read
    obtain ⟨data, rfl, fits, rfl⟩ := readPush?_eq_some.1 read
    exact ⟨_, .counted form fits, rfl⟩
  constructor
  · intro read
    cases bytes with
    | nil => cases read
    | cons code tail =>
        simp only [read?] at read
        split at read
        case isTrue short =>
          simp only [Option.ite_none_right_eq_some, Option.some.injEq, Prod.mk.injEq] at read
          obtain ⟨enough, rfl, rfl⟩ := read
          have length := List.length_take_of_le enough
          have written := Writes.direct (length ▸ UInt8.lt_iff_toNat_lt.1 short)
          rw [length, UInt8.ofNat_toNat] at written
          exact ⟨_, written, by rw [List.cons_append, List.take_append_drop]⟩
        case isFalse long =>
          split at read
          case isTrue one => exact one ▸ counted (by simp [countedForms]) read
          case isFalse ne1 =>
            split at read
            case isTrue two => exact two ▸ counted (by simp [countedForms]) read
            case isFalse ne2 =>
              split at read
              case isTrue four => exact four ▸ counted (by simp [countedForms]) read
              case isFalse ne4 =>
                cases read
                exact ⟨[code], .op (pushData4_lt.2 ⟨long, ne1, ne2, ne4⟩), rfl⟩
  · rintro ⟨written, writes, rfl⟩
    cases writes with
    | op past =>
        obtain ⟨long, ne1, ne2, ne4⟩ := pushData4_lt.1 past
        simp [read?, long, ne1, ne2, ne4]
    | @direct data short =>
        have below : UInt8.ofNat data.length < Opcode.pushData1 := by
          rw [UInt8.lt_iff_toNat_lt, UInt8.toNat_ofNat']
          simp only [Opcode.pushData1, UInt8.toNat_ofNat]
          omega
        have length : (UInt8.ofNat data.length).toNat = data.length := by
          rw [UInt8.toNat_ofNat']
          omega
        simp [read?, below, length]
    | @counted code width data form fits =>
        have read : readPush? width (littleEndian width data.length ++ data ++ rest)
            = some (.push data, rest) := readPush?_eq_some.2 ⟨data, rfl, fits, rfl⟩
        simp only [countedForms, List.mem_cons, Prod.mk.injEq, List.not_mem_nil, or_false] at form
        rcases form with ⟨rfl, rfl⟩ | ⟨rfl, rfl⟩ | ⟨rfl, rfl⟩
        · exact read
        · exact read
        · exact read

/-- The first instruction is read back, whatever follows it. -/
theorem read?_encode {instruction : Instruction} (readable : instruction.Readable)
    (rest : List UInt8)
    : read? (instruction.encode ++ rest) = some (instruction, rest) :=
  read?_eq_some.2 ⟨_, .encode readable, rfl⟩

/-- Reading an instruction uses up at least one byte. -/
theorem length_read? {bytes rest : List UInt8} {instruction : Instruction}
    (read : read? bytes = some (instruction, rest))
    : rest.length < bytes.length := by
  obtain ⟨written, writes, rfl⟩ := read?_eq_some.1 read
  have filled : 0 < written.length := by cases writes <;> simp
  rw [List.length_append]
  omega

end Instruction

namespace Script

/-- The instructions of some bytes, unless the bytes end in the middle of one. -/
def instructionsOf? (bytes : List UInt8) : Option (List Instruction) :=
  if bytes = [] then some []
  else
    match _read : Instruction.read? bytes with
    | none => none
    | some (instruction, rest) => (instructionsOf? rest).map (instruction :: ·)
termination_by bytes.length
decreasing_by exact Instruction.length_read? _read

/-- The instructions of a script. -/
def instructions? (script : Script) : Option (List Instruction) :=
  instructionsOf? script.bytes

/-- A script is read back as the instructions it was written from. -/
theorem instructions?_ofInstructions {instructions : List Instruction}
    (readable : ∀ instruction ∈ instructions, instruction.Readable)
    : (ofInstructions instructions).instructions? = some instructions := by
  unfold instructions? ofInstructions
  induction instructions with
  | nil =>
      unfold instructionsOf?
      rfl
  | cons instruction rest ih =>
      have first := Instruction.read?_encode (readable _ List.mem_cons_self)
        (rest.flatMap Instruction.encode)
      have others := ih fun other member => readable other (List.mem_cons_of_mem _ member)
      have more : instruction.encode ++ rest.flatMap Instruction.encode ≠ [] := by
        intro none
        rw [none] at first
        cases first
      rw [List.flatMap_cons, instructionsOf?, if_neg more]
      split
      case h_1 unread => exact absurd (unread.symm.trans first) nofun
      case h_2 read =>
        cases first.symm.trans read
        rw [others]
        rfl

end Script

end PaymentChannel
