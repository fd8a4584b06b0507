import PaymentChannel.Template.Lock

/-! What a customer-close transaction publishes is read back.
The lock and the key come out of the published bytes as they were written.
-/

namespace PaymentChannel

open Curve

/-- A key is read back from its written form. -/
theorem PublicKey.ofBytes?_toBytes (key : PublicKey) : ofBytes? key.toBytes.toList = some key := by
  have below : key.x.val < Nat.pow 256 32 :=
    Nat.lt_of_lt_of_le key.x.val_lt (by decide)
  have abscissa : coordinate? (bigEndian 32 key.x.val) = some key.x := by
    simp [coordinate?, ofBigEndian_bigEndian below, Residue.ofNat?, key.x.val_lt]
  have point : ofAbscissa? key.x key.odd = some key := by
    simp [ofAbscissa?, key.onCurve]
  rcases odd : key.odd with - | -
  · simp [toBytes, ofBytes?, odd, abscissa, ← point]
  · simp [toBytes, ofBytes?, odd, abscissa, ← point]

/-- The written form of a key shows the abscissa and the parity of its point. -/
theorem PublicKey.toBytes_inj {key other : PublicKey}
    : key.toBytes = other.toBytes ↔ key = other := by
  refine ⟨fun same => ?_, congrArg toBytes⟩
  have read := congrArg (fun bytes : Bytes 33 => ofBytes? bytes.toList) same
  simp only [ofBytes?_toBytes] at read
  exact Option.some.inj read

namespace Publication

variable (published : Publication)

theorem length_data : published.data.length = dataLength := by
  simp [data, dataLength, published.lock.bytes.length_toList,
    published.closeKey.toBytes.length_toList]

/-- Published bytes are read back as what was published. -/
theorem ofData?_data : ofData? published.data = some published := by
  have lock : published.data.take 32 = published.lock.bytes.toList :=
    List.take_left' published.lock.bytes.length_toList
  have key : published.data.drop 32 = published.closeKey.toBytes.toList :=
    List.drop_left' published.lock.bytes.length_toList
  simp [ofData?, lock, key, PublicKey.ofBytes?_toBytes, length_data]

/-- The script of a publication is read back as what it publishes. -/
theorem ofScript?_publish : ofScript? (.publish published.data) = some published := by
  have short : published.data.length = 65 := published.length_data
  have written : (Script.publish published.data).bytes
      = Opcode.opReturn :: 65 :: published.data := by
    simp [Script.publish, Script.ofInstructions, Instruction.encode, short]
  have first : Instruction.read? (Opcode.opReturn :: 65 :: published.data)
      = some (.op Opcode.opReturn, 65 :: published.data) := rfl
  have second : Instruction.read? (65 :: published.data) = some (.push published.data, []) := by
    have whole : published.data.take 65 = published.data := by
      rw [← short, List.take_length]
    simp [Instruction.read?, Opcode.pushData1, short, whole]
  simp [ofScript?, written, first, second, ofData?_data]

end Publication

end PaymentChannel
