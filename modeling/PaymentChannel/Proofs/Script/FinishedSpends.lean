import PaymentChannel.Proofs.Curve.Ecdsa
import PaymentChannel.Proofs.Script.SpendPaths
import PaymentChannel.Proofs.TemplateChain
import PaymentChannel.Revocation

/-! Transactions with their witnesses are accepted.
Version, sequence, selector and the order of the signatures are set in different places. Together
they take one of the ways that the script of the spent output offers.
-/

namespace PaymentChannel

open Evaluation

-----------------------------------------------------------------------------------------
-- Finished transactions as spends
-----------------------------------------------------------------------------------------

/-- A signature of the usual hash type covers all inputs and outputs. -/
theorem Spend.digest_all (spend : Spend) (script : Script)
    : spend.digest script 1 = spend.tx.inputDigest spend.input script spend.value := by
  rfl

/-- Only the lower of two signatures verifies. -/
theorem Ecdsa.isLow_of_verify {key : PublicKey} {digest : Bytes 32} {signature : Signature}
    (verified : verify key digest signature = true)
    : isLow signature.s = true := by
  unfold verify at verified
  split at verified
  case isTrue => cases verified
  case isFalse usable => simp_all

namespace SignableTx

/-- The transaction with a witness, as it spends its output. -/
def spending (signable : SignableTx) (witness : List (List UInt8)) : Spend where
  tx := signable.withWitness witness
  index := 0
  input := signable.input witness
  found := rfl
  value := signable.inputValue

variable {signable : SignableTx} {witness : List (List UInt8)} {signature : Signature}
  {key : PublicKey} {delay : UInt16} {script : Script}

/-- A signature that was made before the witness was known is one of the finished transaction. -/
theorem signed_of_verifies (asked : signable.scriptCode = script)
    (verified : signable.verifies signature key = true)
    : (signable.spending witness).Signed script (witnessSignature signature) key := by
  have low : Spend.lowered signature = signature := if_pos (Ecdsa.isLow_of_verify verified)
  subst asked
  refine ⟨signature, 1, signature.ofWitness?_toDer 1, ?_⟩
  rw [Spend.digest_all, low]
  exact verified

theorem length_witnessSignature (signature : Signature)
    : (witnessSignature signature).length ≤ maxElement := by
  have short := signature.length_toDer
  rw [witnessSignature, List.length_append]
  exact Nat.le_trans (Nat.succ_le_succ short) (by decide)

/-- The sequence of a claim waits for its delay. -/
theorem waits_spending (waits : signable.sequence = blockSequence delay)
    : (signable.spending witness).WaitsBlocks delay := by
  have sequence : (signable.spending witness).input.sequence.toNat = delay.toNat := by
    show signable.sequence.toNat = delay.toNat
    rw [waits]
    exact delay.toNat_toUInt32
  have version : 2 ≤ txVersion.toUInt32 := by decide
  have low : delay.toNat < 2 ^ 16 := delay.toNat_lt
  refine ⟨version, ?_, ?_, ?_⟩
  · rw [sequence]
    exact Nat.testBit_lt_two_pow (Nat.lt_trans low (by decide))
  · rw [sequence]
    exact Nat.testBit_lt_two_pow (Nat.lt_trans low (by decide))
  · rw [sequence]
    exact Nat.le_of_eq (Nat.mod_eq_of_lt low).symm

end SignableTx

-----------------------------------------------------------------------------------------
-- The finished transactions of a channel
-----------------------------------------------------------------------------------------

/-- The finished transactions that spend outputs of the channel's own scripts, each with the output
it spends. Their signatures verify under the keys of the output.
-/
inductive FinishedSpend (keys : ClosingKeys) (delay : UInt16) (fees : FeeSchedule) (dustLimit : Sat)
    : TxOut → SignedTx → Prop
  | merchantClose {spent : OutPoint} {value : Sat} {signable : SignableTx}
    {merchant customer : Signature}
    (formed : merchantCloseTx spent value keys delay fees dustLimit = .ok signable)
    (merchantSigned : signable.verifies merchant keys.merchant = true)
    (customerSigned : signable.verifies customer keys.customer = true)
    : FinishedSpend keys delay fees dustLimit
        ⟨value, .payToScript (.escrow keys.merchant keys.customer)⟩
        (signable.finalizeMultisig merchant customer)
  | customerClose {source : CloseSource} {spent : OutPoint} {balances : CloseBalances}
    {lock : RevLock} {signable : SignableTx} {merchant customer : Signature}
    (formed : customerCloseTx source spent balances lock keys delay fees dustLimit = .ok signable)
    (merchantSigned : signable.verifies merchant keys.merchant = true)
    (customerSigned : signable.verifies customer keys.customer = true)
    : FinishedSpend keys delay fees dustLimit
        ⟨signable.inputValue, .payToScript (source.asked keys delay)⟩
        (signable.finalizeMultisig merchant customer)
  | customerClaim {spent : OutPoint} {value fee : Sat} {lock : RevLock} {key : PublicKey}
    {signable : SignableTx} {signature : Signature}
    (formed : customerClaimTx spent value lock keys delay key fee fees dustLimit = .ok signable)
    (signed : signable.verifies signature keys.close = true)
    : FinishedSpend keys delay fees dustLimit
        ⟨value, .payToScript (.toCustomer lock keys.dispute keys.close delay)⟩
        (signable.finalizeDelayed signature)
  | merchantClaim {spent : OutPoint} {value fee : Sat} {key : PublicKey} {signable : SignableTx}
    {signature : Signature}
    (formed : merchantClaimTx spent value keys delay key fee fees dustLimit = .ok signable)
    (signed : signable.verifies signature keys.payout = true)
    : FinishedSpend keys delay fees dustLimit
        ⟨value, .payToScript (.merchantClose keys.merchant keys.customer keys.payout delay)⟩
        (signable.finalizeDelayed signature)
  | dispute {spent : OutPoint} {value fee : Sat} {lock : RevLock} {key : PublicKey}
    {signable : SignableTx} {signature : Signature} {secret : Bytes 32}
    (formed : disputeTx spent value lock keys delay key fee fees dustLimit = .ok signable)
    (opens : sha256 secret.toList = lock.bytes)
    (signed : signable.verifies signature keys.dispute = true)
    : FinishedSpend keys delay fees dustLimit
        ⟨value, .payToScript (.toCustomer lock keys.dispute keys.close delay)⟩
        (signable.finalizeDispute signature secret)

/-- The first input of a finished transaction has the right to spend an output. -/
def SignedTx.Spends (signed : SignedTx) (output : TxOut) : Prop :=
  ∃ spend : Spend, spend.tx = signed.tx ∧ spend.index = 0 ∧ spend.Unlocks output

namespace SignableTx

variable {signable : SignableTx} {merchant customer signature : Signature} {keys : ClosingKeys}
  {lock : RevLock} {delay : UInt16} {secret : Bytes 32}

/-- A witness that ends with the script of the spent output is judged by that script. -/
theorem finalize_spends {script : Script} {witness : List (List UInt8)}
    (asked : signable.scriptCode = script)
    (accepted : accepts (signable.spending (witness ++ [script.bytes])) script witness = true)
    : (signable.finalize (witness ++ [signable.scriptCode.bytes])).Spends
        ⟨signable.inputValue, .payToScript script⟩ := by
  rw [asked]
  exact ⟨_, rfl, rfl, rfl, rfl, script, witness, rfl, Script.bytes_payToScript _, accepted⟩

/-- Both parties take the escrow, which has no other way. -/
theorem finalizeMultisig_escrow (asked : signable.scriptCode = .escrow keys.merchant keys.customer)
    (kind : signable.kind ≠ .customerCloseFromMerchantClose)
    (merchantSigned : signable.verifies merchant keys.merchant = true)
    (customerSigned : signable.verifies customer keys.customer = true)
    : (signable.finalizeMultisig merchant customer).Spends
        ⟨signable.inputValue, .payToScript (.escrow keys.merchant keys.customer)⟩ := by
  rw [finalizeMultisig, if_neg kind, List.append_nil]
  refine finalize_spends asked ((accepts_escrow ?_).2 ⟨_, _, rfl,
    signed_of_verifies asked merchantSigned, signed_of_verifies asked customerSigned⟩)
  simp [length_witnessSignature]

/-- Both parties take the output of a merchant-close transaction. -/
theorem finalizeMultisig_merchantClose
    (asked : signable.scriptCode
      = .merchantClose keys.merchant keys.customer keys.payout delay)
    (kind : signable.kind = .customerCloseFromMerchantClose)
    (merchantSigned : signable.verifies merchant keys.merchant = true)
    (customerSigned : signable.verifies customer keys.customer = true)
    : (signable.finalizeMultisig merchant customer).Spends ⟨signable.inputValue,
        .payToScript (.merchantClose keys.merchant keys.customer keys.payout delay)⟩ := by
  rw [finalizeMultisig, if_pos kind]
  refine finalize_spends asked ((accepts_merchantClose ?_).2 (.together rfl
    (signed_of_verifies asked merchantSigned) (signed_of_verifies asked customerSigned)))
  simp [length_witnessSignature, show 1 ≤ maxElement by decide]

theorem finalizeDelayed_merchantClose
    (asked : signable.scriptCode = .merchantClose keys.merchant keys.customer keys.payout delay)
    (waits : signable.sequence = blockSequence delay)
    (signed : signable.verifies signature keys.payout = true)
    : (signable.finalizeDelayed signature).Spends ⟨signable.inputValue,
        .payToScript (.merchantClose keys.merchant keys.customer keys.payout delay)⟩ := by
  show (signable.finalize ([witnessSignature signature, []] ++ [_])).Spends _
  refine finalize_spends asked ((accepts_merchantClose ?_).2
    (.delayed rfl (signed_of_verifies asked signed) (waits_spending waits)))
  simp [length_witnessSignature]

theorem finalizeDelayed_toCustomer
    (asked : signable.scriptCode = .toCustomer lock keys.dispute keys.close delay)
    (waits : signable.sequence = blockSequence delay)
    (signed : signable.verifies signature keys.close = true)
    : (signable.finalizeDelayed signature).Spends ⟨signable.inputValue,
        .payToScript (.toCustomer lock keys.dispute keys.close delay)⟩ := by
  show (signable.finalize ([witnessSignature signature, []] ++ [_])).Spends _
  refine finalize_spends asked ((accepts_toCustomer ?_).2
    (.delayed rfl (signed_of_verifies asked signed) (waits_spending waits)))
  simp [length_witnessSignature]

theorem finalizeDispute_toCustomer
    (asked : signable.scriptCode = .toCustomer lock keys.dispute keys.close delay)
    (opens : sha256 secret.toList = lock.bytes)
    (signed : signable.verifies signature keys.dispute = true)
    : (signable.finalizeDispute signature secret).Spends ⟨signable.inputValue,
        .payToScript (.toCustomer lock keys.dispute keys.close delay)⟩ := by
  show (signable.finalize ([witnessSignature signature, secret.toList, [1]] ++ [_])).Spends _
  refine finalize_spends asked ((accepts_toCustomer ?_).2
    (.revoked rfl opens (signed_of_verifies asked signed)))
  simp [length_witnessSignature, secret.length_toList, show 1 ≤ maxElement by decide,
    show 32 ≤ maxElement by decide]

end SignableTx

/-- A finished transaction has the right to the output it was formed for. -/
theorem FinishedSpend.spends {keys : ClosingKeys} {delay : UInt16} {fees : FeeSchedule}
    {dustLimit : Sat} {output : TxOut} {signed : SignedTx}
    (finished : FinishedSpend keys delay fees dustLimit output signed)
    : signed.Spends output := by
  cases finished with
  | merchantClose formed merchantSigned customerSigned =>
      obtain ⟨-, _, -, -, rfl⟩ := merchantCloseTx_eq_ok.1 formed
      exact SignableTx.finalizeMultisig_escrow rfl nofun merchantSigned customerSigned
  | @customerClose source _ _ _ _ _ _ formed merchantSigned customerSigned =>
      obtain ⟨-, input, given, _, -, -, -, -, rfl⟩ := customerCloseTx_eq_ok.1 formed
      have asked := asked_of_closeInput given
      cases source with
      | escrow =>
          exact SignableTx.finalizeMultisig_escrow asked nofun merchantSigned customerSigned
      | merchantClose =>
          exact SignableTx.finalizeMultisig_merchantClose asked rfl merchantSigned customerSigned
  | customerClaim formed verified =>
      obtain ⟨-, -, -, rfl⟩ := claimTx_eq_ok.1 formed
      exact SignableTx.finalizeDelayed_toCustomer rfl rfl verified
  | merchantClaim formed verified =>
      obtain ⟨-, -, -, rfl⟩ := claimTx_eq_ok.1 formed
      exact SignableTx.finalizeDelayed_merchantClose rfl rfl verified
  | dispute formed opens verified =>
      obtain ⟨-, -, -, rfl⟩ := claimTx_eq_ok.1 formed
      exact SignableTx.finalizeDispute_toCustomer rfl opens verified

/-- The scripts of close transactions can be spent in the two ways they are meant to be, and in no
other; every finished transaction of a channel has the right to the output it was formed for. This
is so for every witness, every spending transaction and every delay.
-/
theorem spend_paths
    : (∀ (spend : Spend) (lock : RevLock) (dispute close : PublicKey) (delay : UInt16)
          (witness : List (List UInt8)),
        (∀ element ∈ witness, element.length ≤ maxElement)
        → (accepts spend (.toCustomer lock dispute close delay) witness = true
          ↔ CustomerPath spend lock dispute close delay witness))
      ∧ (∀ (spend : Spend) (merchant customer payout : PublicKey) (delay : UInt16)
          (witness : List (List UInt8)),
        (∀ element ∈ witness, element.length ≤ maxElement)
        → (accepts spend (.merchantClose merchant customer payout delay) witness = true
          ↔ MerchantPath spend merchant customer payout delay witness))
      ∧ ∀ (keys : ClosingKeys) (delay : UInt16) (fees : FeeSchedule) (dustLimit : Sat)
          (output : TxOut) (signed : SignedTx),
        FinishedSpend keys delay fees dustLimit output signed → signed.Spends output :=
  ⟨fun _ _ _ _ _ _ within => accepts_toCustomer within,
    fun _ _ _ _ _ _ within => accepts_merchantClose within,
    fun _ _ _ _ _ _ finished => finished.spends⟩

section Example

-- Unification would compute keys and hashes where comparing their arguments is enough.
attribute [local irreducible] SecretKey.publicKey SignableTx.txid SignableTx.sign
  SignableTx.verifies sha256 hash160

/-- The secret of a revoked state takes the customer's output at once. Without a witness there is no
way to take either output.
-/
theorem spend_paths_dispute
    : ∃ signable,
        disputeTx ⟨⟨.ofNat 32 7⟩, 0⟩ 8000 (RevSecret.lock ⟨.ofNat 32 1⟩) chainKeys 144
          chainKeys.payout 500 .default defaultDustLimit = .ok signable
        ∧ (signable.finalizeDispute (signable.sign .one) (.ofNat 32 1)).Spends
          ⟨8000, .payToScript (.toCustomer (RevSecret.lock ⟨.ofNat 32 1⟩) chainKeys.dispute
            chainKeys.close 144)⟩
        ∧ ¬accepts (signable.spending []) (.toCustomer (RevSecret.lock ⟨.ofNat 32 1⟩)
          chainKeys.dispute chainKeys.close 144) [] = true
        ∧ ¬accepts (signable.spending []) (.merchantClose chainKeys.merchant chainKeys.customer
          chainKeys.payout 144) [] = true := by
  have formed : ∃ signable,
      disputeTx ⟨⟨.ofNat 32 7⟩, 0⟩ 8000 (RevSecret.lock ⟨.ofNat 32 1⟩) chainKeys 144
        chainKeys.payout 500 .default defaultDustLimit = .ok signable :=
    ⟨_, rfl⟩
  obtain ⟨signable, formed⟩ := formed
  obtain ⟨customerOutput, merchantOutput, finished⟩ := spend_paths
  refine ⟨signable, formed, finished _ _ _ _ _ _
    (.dispute formed rfl (signable.verifies_sign .one)), ?_, ?_⟩
  · rw [customerOutput _ _ _ _ _ _ (by simp)]
    nofun
  · rw [merchantOutput _ _ _ _ _ _ (by simp)]
    nofun

end Example

end PaymentChannel
