import PaymentChannel.Proofs.Curve.Key
import PaymentChannel.Proofs.Lock
import PaymentChannel.Proofs.Outcome
import PaymentChannel.Proofs.Script.Reading

/-! What a transaction publishes is read exactly.
Anyone can put any output into a transaction. Only the first output that can't be spent is looked at,
and it publishes a lock and a key exactly if it pushes them, in any form that a push can have.
-/

namespace PaymentChannel

open Curve

-----------------------------------------------------------------------------------------
-- Compressed keys
-----------------------------------------------------------------------------------------

namespace PublicKey

/-- The compressed encoding of a point: the parity of its ordinate, then its abscissa. -/
def compress (x y : Coordinate) : List UInt8 :=
  (if y.val % 2 = 1 then 3 else 2) :: bigEndian 32 x.val

/-- The bytes are the compressed encoding of the point of the curve that the key stands for. -/
def Compressed (key : PublicKey) (bytes : List UInt8) : Prop :=
  ∃ x y, y * y = curveSide x ∧ key.point = .affine x y ∧ bytes = compress x y

variable {key : PublicKey} {bytes : List UInt8}

/-- A key stands for a point of the curve, of which it holds the abscissa and the parity. -/
theorem exists_ordinate (key : PublicKey)
    : ∃ y, y * y = curveSide key.x ∧ (y.val % 2 == 1) = key.odd
      ∧ key.point = .affine key.x y := by
  obtain ⟨y, onCurve, parity⟩ := hasPoint_iff.1 key.onCurve
  have found := ordinate?_eq_some onCurve
  rw [parity] at found
  refine ⟨y, onCurve, parity, ?_⟩
  simp only [point, found, Option.get_some]

/-- A key has one compressed encoding, its written form. -/
theorem compressed_iff : key.Compressed bytes ↔ bytes = key.toBytes.toList := by
  obtain ⟨y, onCurve, parity, stands⟩ := key.exists_ordinate
  have written : key.toBytes.toList = compress key.x y := by
    simp [toBytes, compress, ← parity]
  constructor
  · rintro ⟨_, _, -, same, rfl⟩
    rw [stands] at same
    cases same
    exact written.symm
  · rintro rfl
    exact ⟨_, y, onCurve, stands, written⟩

/-- Of 33 bytes a key is read exactly if they are its compressed encoding. -/
theorem ofBytes?_eq_some (length : bytes.length = 33)
    : ofBytes? bytes = some key ↔ key.Compressed bytes := by
  rw [compressed_iff]
  constructor
  · intro read
    cases bytes with
    | nil => cases read
    | cons form rest =>
        have length : rest.length = 32 := Nat.succ.inj length
        have digits := bigEndian_ofBigEndian rest
        rw [length] at digits
        simp only [ofBytes?, if_pos length, Option.ite_none_right_eq_some,
          Option.bind_eq_bind, Option.bind_eq_some_iff, coordinate?, Residue.ofNat?, ofAbscissa?,
          Option.dite_none_right_eq_some, Option.some.injEq] at read
        obtain ⟨forms, x, ⟨below, rfl⟩, has, rfl⟩ := read
        rcases forms with rfl | rfl
        · simp [toBytes, digits]
        · simp [toBytes, digits]
  · rintro rfl
    exact key.ofBytes?_toBytes

end PublicKey

-----------------------------------------------------------------------------------------
-- Published bytes
-----------------------------------------------------------------------------------------

/-- The script begins with the operation that marks its output as one that can't be spent. -/
def Script.Publishes (script : Script) : Prop :=
  ∃ rest, script.bytes = Opcode.opReturn :: rest

theorem Script.isPublication_iff {script : Script}
    : script.isPublication = true ↔ script.Publishes := by
  rw [isPublication, beq_iff_eq, List.head?_eq_some_iff]
  rfl

namespace Publication

variable {published : Publication}

/-- The bytes are the lock, followed by the compressed encoding of the close key. -/
structure Spells (published : Publication) (bytes : List UInt8) : Prop where
  length : bytes.length = 65
  lock : bytes.take 32 = published.lock.bytes.toList
  key : published.closeKey.Compressed (bytes.drop 32)

/-- The script pushes the publication with the instruction after its first one. More may follow. -/
def PushedBy (published : Publication) (script : Script) : Prop :=
  ∃ data written after, script.bytes = Opcode.opReturn :: (written ++ after)
    ∧ Instruction.Writes (.push data) written ∧ published.Spells data

theorem ofData?_eq_some {bytes : List UInt8}
    : ofData? bytes = some published ↔ published.Spells bytes := by
  simp only [ofData?, Bytes.ofList?, Option.bind_eq_bind, Option.bind_eq_some_iff,
    Option.dite_none_right_eq_some, Option.ite_none_right_eq_some, Option.some.injEq]
  constructor
  · rintro ⟨_, ⟨_, rfl⟩, key, read, length, rfl⟩
    have rest : (bytes.drop 32).length = 33 := by rw [List.length_drop, length]; rfl
    exact ⟨length, rfl, (PublicKey.ofBytes?_eq_some rest).1 read⟩
  · rintro ⟨length, lock, key⟩
    have first : (bytes.take 32).length = 32 := by rw [List.length_take, length]; rfl
    have rest : (bytes.drop 32).length = 33 := by rw [List.length_drop, length]
    refine ⟨published.lock.bytes, ⟨first, Bytes.ext lock⟩, published.closeKey,
      (PublicKey.ofBytes?_eq_some rest).2 key, length, rfl⟩

/-- A script that can't be spent is read exactly if it pushes a publication. -/
theorem ofScript?_eq_some {script : Script} (publishes : script.Publishes)
    : ofScript? script = some published ↔ published.PushedBy script := by
  obtain ⟨rest, starts⟩ := publishes
  have first : Instruction.read? script.bytes = some (.op Opcode.opReturn, rest) := by
    rw [starts]
    rfl
  rw [ofScript?, first, Option.bind_some]
  dsimp only
  constructor
  · intro read
    split at read
    case h_2 => cases read
    case h_1 data after push =>
      obtain ⟨written, writes, rfl⟩ := Instruction.read?_eq_some.1 push
      exact ⟨data, written, after, starts, writes, ofData?_eq_some.1 read⟩
  · rintro ⟨data, written, after, whole, writes, spells⟩
    have follows : rest = written ++ after := (List.cons.inj (starts.symm.trans whole)).2
    have push : Instruction.read? rest = some (.push data, after) :=
      Instruction.read?_eq_some.2 ⟨written, writes, follows⟩
    rw [push]
    exact ofData?_eq_some.2 spells

end Publication

-----------------------------------------------------------------------------------------
-- Transactions
-----------------------------------------------------------------------------------------

namespace Transaction

variable {tx : Transaction} {output : TxOut}

/-- The output is the first one of the transaction that can't be spent. -/
structure FirstPublication (tx : Transaction) (output : TxOut) : Prop where
  publishes : output.script.Publishes
  placed : ∃ before after, tx.outputs = before ++ output :: after
    ∧ ∀ earlier ∈ before, ¬earlier.script.Publishes

theorem find?_eq_some
    : tx.outputs.find? (·.script.isPublication) = some output ↔ tx.FirstPublication output := by
  simp only [List.find?_eq_some_iff_append, Bool.not_eq_true', ← Bool.not_eq_true,
    Script.isPublication_iff]
  constructor
  · rintro ⟨publishes, before, after, placed, none⟩
    exact ⟨publishes, before, after, placed, none⟩
  · rintro ⟨publishes, before, after, placed, none⟩
    exact ⟨publishes, before, after, placed, none⟩

theorem find?_eq_none
    : tx.outputs.find? (·.script.isPublication) = none
      ↔ ∀ output ∈ tx.outputs, ¬output.script.Publishes := by
  simp only [List.find?_eq_none, Script.isPublication_iff]

end Transaction

namespace Publication

variable {tx : Transaction} {output : TxOut} {published : Publication}

/-- A transaction is read as its first output that can't be spent. Without such an output nothing is
published, and an output that pushes anything but a publication is malformed. The output of a
publication is read back wherever it is the first one.
-/
structure ReadExactly (tx : Transaction) : Prop where
  missing : ofTransaction tx = .refuse .noRevocationOutput
    ↔ ∀ output ∈ tx.outputs, ¬output.script.Publishes
  present : (∃ output ∈ tx.outputs, output.script.Publishes) → ∃ output, tx.FirstPublication output
  read : ∀ output, tx.FirstPublication output
    → ∀ published, ofTransaction tx = .ok published ↔ published.PushedBy output.script
  malformed : ∀ output, tx.FirstPublication output
    → (ofTransaction tx = .refuse .malformedRevocationOutput
      ↔ ∀ published : Publication, ¬published.PushedBy output.script)
  inverts : ∀ published : Publication, tx.FirstPublication published.output
    → ofTransaction tx = .ok published

theorem ofTransaction_of_first (first : tx.FirstPublication output)
    : ofTransaction tx = .require .malformedRevocationOutput (ofScript? output.script) := by
  rw [ofTransaction, Transaction.find?_eq_some.2 first]

theorem ofTransaction_eq_ok (first : tx.FirstPublication output)
    : ofTransaction tx = .ok published ↔ published.PushedBy output.script := by
  rw [ofTransaction_of_first first, Outcome.require_eq_ok, ofScript?_eq_some first.publishes]

/-- Every transaction is read exactly. -/
theorem read_exactly (tx : Transaction) : ReadExactly tx where
  missing := by
    rw [← Transaction.find?_eq_none]
    rcases found : tx.outputs.find? (·.script.isPublication) with - | output
    · simp [ofTransaction, found]
    · rw [ofTransaction_of_first (Transaction.find?_eq_some.1 found)]
      rcases ofScript? output.script with - | published
      · simp [Outcome.require, Outcome.refuse, found]
      · simp [Outcome.require, Outcome.refuse, found]
  present := by
    rintro ⟨output, member, publishes⟩
    rcases found : tx.outputs.find? (·.script.isPublication) with - | first
    · exact absurd publishes (Transaction.find?_eq_none.1 found output member)
    · exact ⟨first, Transaction.find?_eq_some.1 found⟩
  read _ first _ := ofTransaction_eq_ok first
  malformed output first := by
    simp only [← ofTransaction_eq_ok first]
    rw [ofTransaction_of_first first]
    rcases ofScript? output.script with - | published
    · simp [Outcome.require]
    · simp [Outcome.require, Outcome.refuse]
  inverts published first := by
    rw [ofTransaction_of_first first]
    exact Outcome.require_eq_ok.2 published.ofScript?_publish

/-- A script that pushes a publication has room for it. -/
theorem PushedBy.length_lt {script : Script} (pushed : published.PushedBy script)
    : 65 < script.bytes.length := by
  obtain ⟨data, written, after, whole, writes, length, -, -⟩ := pushed
  have within : data.length < written.length := by
    cases writes with
    | direct => exact Nat.lt_succ_self _
    | counted =>
        rw [List.length_cons, List.length_append]
        omega
  rw [whole, List.length_cons, List.length_append]
  omega

-----------------------------------------------------------------------------------------
-- Two outputs that can't be spent
-----------------------------------------------------------------------------------------

section Example

/-- A lock and a key to publish. -/
def samplePublication : Publication := ⟨⟨.ofNat 32 7⟩, SecretKey.basePublicKey⟩

/-- An output that can't be spent and pushes three bytes. -/
def strayOutput : TxOut := ⟨0, .publish [1, 2, 3]⟩

/-- An output that publishes the same by a push that is longer than it has to be. -/
def longOutput : TxOut :=
  ⟨0, ⟨Opcode.opReturn :: Opcode.pushData1 :: 65 :: samplePublication.data⟩⟩

/-- A transaction with these outputs behind one that can be spent. -/
def sampleTx (outputs : List TxOut) : Transaction :=
  ⟨txVersion, 0, [], ⟨1000, .toKey samplePublication.closeKey⟩ :: outputs⟩

theorem sampleTx_first {output : TxOut} (publishes : output.script.Publishes) (after : List TxOut)
    : (sampleTx (output :: after)).FirstPublication output := by
  refine ⟨publishes, [_], after, rfl, fun earlier member => ?_⟩
  rw [List.mem_singleton.1 member, ← Script.isPublication_iff]
  exact Bool.false_ne_true

/-- A publication is read in front of an output that is malformed, also if its push is longer than it
has to be, and not behind it.
-/
theorem read_exactly_sample
    : ofTransaction (sampleTx [samplePublication.output, strayOutput]) = .ok samplePublication
      ∧ ofTransaction (sampleTx [longOutput, strayOutput]) = .ok samplePublication
      ∧ ofTransaction (sampleTx [strayOutput, samplePublication.output])
        = .refuse .malformedRevocationOutput := by
  refine ⟨?_, ?_, ?_⟩
  · exact (read_exactly _).inverts _ (sampleTx_first ⟨_, rfl⟩ _)
  · refine ((read_exactly _).read _ (sampleTx_first ⟨_, rfl⟩ _) _).2 ?_
    refine ⟨samplePublication.data, Opcode.pushData1 :: (littleEndian 1 65 ++ samplePublication.data),
      [], by simp [longOutput, littleEndian], ?_, ofData?_eq_some.1 (ofData?_data _)⟩
    have writes : ∀ {data : List UInt8}, data.length = 65 → Instruction.Writes (.push data)
        (Opcode.pushData1 :: (littleEndian 1 65 ++ data)) := by
      intro data length
      rw [← length]
      exact .counted (by decide) (by simp [length])
    exact writes (length_data _)
  · refine ((read_exactly _).malformed _ (sampleTx_first ⟨_, rfl⟩ _)).2 fun published pushed => ?_
    exact absurd pushed.length_lt (by decide)

end Example

end Publication

end PaymentChannel
