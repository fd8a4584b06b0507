import PaymentChannel.Proofs.Template
import PaymentChannel.Template.Funding

/-! The transactions of a channel fit together.
A transaction is signed for what the output it spends asks for and is worth, often long before that
output is on the chain. Parent and child say both on their own; a signed child is of use only if
they say the same.
-/

namespace PaymentChannel

-----------------------------------------------------------------------------------------
-- What outputs commit to
-----------------------------------------------------------------------------------------

namespace Script

/-- The output names a script by its hash, or a key by its hash; then it asks for the script, or for
a signature under the key.
-/
inductive Commits (output asked : Script) : Prop
  | script (named : output.bytes = [0x00, 0x20] ++ (PaymentChannel.sha256 asked.bytes).toList)
  | key (hash : Bytes 20) (named : output.bytes = [0x00, 0x14] ++ hash.toList)
    (checked : asked.bytes = [0x76, 0xa9, 0x14] ++ hash.toList ++ [0x88, 0xac])

theorem bytes_payToScript (witness : Script)
    : (payToScript witness).bytes
      = [0x00, 0x20] ++ (PaymentChannel.sha256 witness.bytes).toList := by
  simp [payToScript, ofInstructions, Instruction.number, Instruction.encode, Bytes.length_toList]

theorem commits_payToScript (witness : Script) : (payToScript witness).Commits witness :=
  .script (bytes_payToScript witness)

theorem bytes_toKey (key : PublicKey)
    : (toKey key).bytes
      = [0x00, 0x14] ++ (PaymentChannel.hash160 key.toBytes.toList).toList := by
  simp [toKey, payToKey, ofInstructions, Instruction.number, Instruction.encode,
    Bytes.length_toList]

theorem commits_toKey (key : PublicKey) : (toKey key).Commits (keyCode key) := by
  refine .key (PaymentChannel.hash160 key.toBytes.toList) (bytes_toKey key) ?_
  simp [keyCode, keyHashCode, ofInstructions, Instruction.encode, Bytes.length_toList,
    Opcode.dup, Opcode.hash160, Opcode.equalVerify, Opcode.checkSig]

end Script

namespace SignableTx

/-- The child can be signed for an output of the parent. The output stays in its place, under the
same name, when the parent gets its witness.
-/
structure Fits (parent : SignableTx) (index : UInt32) (child : SignableTx) (output : TxOut)
    : Prop where
  asked : output.script.Commits child.scriptCode
  worth : child.inputValue = output.value
  spent : child.spent = ⟨parent.txid, index⟩
  placed : parent.outputs[index.toNat]? = some output
  lasts : ∀ witness,
    (parent.finalize witness).txid = parent.txid
    ∧ (parent.finalize witness).tx.txid = parent.txid
    ∧ (parent.finalize witness).tx.outputs[index.toNat]? = some output

/-- No witness changes the identifier. -/
theorem txid_finalize (signable : SignableTx) (witness : List (List UInt8))
    : (signable.finalize witness).txid = signable.txid := by
  rfl

namespace Fits

variable {parent child : SignableTx} {index : UInt32} {output : TxOut}

theorem of_output (placed : parent.outputs[index.toNat]? = some output)
    (asked : output.script.Commits child.scriptCode) (worth : child.inputValue = output.value)
    (spent : child.spent = ⟨parent.txid, index⟩)
    : parent.Fits index child output :=
  ⟨asked, worth, spent, placed,
    fun witness => ⟨txid_finalize parent witness, txid_finalize parent witness, placed⟩⟩

/-- A claim is signed for the value and the script it is formed with. -/
theorem of_claim {kind : TxKind} {sequence : UInt32} {asked : Script} {worth fee dustLimit : Sat}
    {key : PublicKey} {fees : FeeSchedule}
    (formed : claimTx kind ⟨parent.txid, index⟩ sequence asked worth key fee fees dustLimit
      = .ok child)
    (paid : parent.outputs[index.toNat]?.map (·.value) = some worth)
    (placed : parent.outputs[index.toNat]? = some output) (commits : output.script.Commits asked)
    : parent.Fits index child output := by
  obtain ⟨-, -, -, rfl⟩ := claimTx_eq_ok.1 formed
  rw [placed] at paid
  exact .of_output placed commits (Option.some.inj paid).symm rfl

end Fits

end SignableTx

-----------------------------------------------------------------------------------------
-- Parents
-----------------------------------------------------------------------------------------

/-- The first output of an escrow transaction holds the value under both keys. -/
theorem EscrowTx.output_of_form {utxo : FundingUtxo} {merchant customer changeKey : PublicKey}
    {value fee : Sat} {fees : FeeSchedule} {dustLimit : Sat} {escrow : EscrowTx}
    (formed : form utxo merchant customer value changeKey fee fees dustLimit = .ok escrow)
    : escrow.signable.outputs[0]? = some ⟨value, .payToScript (.escrow merchant customer)⟩ := by
  simp only [form, Outcome.bind_eq_ok] at formed
  obtain ⟨_, -, _, -, _, -, _, -, formed⟩ := formed
  split at formed
  case isTrue exact =>
    cases formed
    rfl
  case isFalse more =>
    simp only [Outcome.bind_eq_ok, Outcome.pure_eq_ok] at formed
    obtain ⟨_, -, _, -, rfl⟩ := formed
    rfl

/-- The outputs of a merchant-close transaction: the escrow less the fee and the anchor, and the
anchor.
-/
theorem merchantCloseTx_eq_ok {spent : OutPoint} {value : Sat} {keys : ClosingKeys} {delay : UInt16}
    {fees : FeeSchedule} {dustLimit : Sat} {close : SignableTx}
    : merchantCloseTx spent value keys delay fees dustLimit = .ok close
      ↔ (fees.leastFee ≤ fees.merchantCloseFee ∧ fees.merchantCloseFee ≤ fees.greatestFee)
        ∧ ∃ left, merchantCloseValue value fees = .ok left ∧ dustLimit ≤ left
        ∧ close = {
            kind := .merchantClose
            spent
            sequence := finalSequence
            outputs :=
              ⟨left, .payToScript (.merchantClose keys.merchant keys.customer keys.payout delay)⟩
                :: anchorOutput fees keys.payout
            scriptCode := .escrow keys.merchant keys.customer
            inputValue := value } := by
  simp only [merchantCloseTx, Outcome.bind_eq_ok, FeeSchedule.checkFee_eq_ok, checkDust_eq_ok,
    Outcome.pure_eq_ok]
  constructor
  · rintro ⟨_, ⟨bounds, -⟩, left, taken, _, ⟨worth, rfl⟩, rfl⟩
    exact ⟨bounds, _, taken, worth, rfl⟩
  · rintro ⟨bounds, left, taken, worth, rfl⟩
    exact ⟨_, ⟨bounds, rfl⟩, left, taken, _, ⟨worth, rfl⟩, rfl⟩

/-- The script of the output that a customer-close transaction spends. -/
def CloseSource.asked (keys : ClosingKeys) (delay : UInt16) : CloseSource → Script
  | .escrow => .escrow keys.merchant keys.customer
  | .merchantClose => .merchantClose keys.merchant keys.customer keys.payout delay

/-- The worth of that output when the escrow has a given value. -/
def CloseSource.worth (value : Sat) (fees : FeeSchedule) : CloseSource → Outcome TemplateError Sat
  | .escrow => .ok value
  | .merchantClose => merchantCloseValue value fees

section Input

variable {source : CloseSource} {balances : CloseBalances} {keys : ClosingKeys} {delay : UInt16}
  {fees : FeeSchedule} {input : CloseInput} {value : Sat}

theorem asked_of_closeInput (formed : closeInput source balances keys delay fees = .ok input)
    : input.scriptCode = source.asked keys delay := by
  simp only [closeInput, Outcome.bind_eq_ok] at formed
  obtain ⟨_, -, formed⟩ := formed
  cases source with
  | escrow =>
      cases formed
      rfl
  | merchantClose =>
      simp only [Outcome.bind_eq_ok, Outcome.pure_eq_ok] at formed
      obtain ⟨_, -, _, -, _, -, rfl⟩ := formed
      rfl

theorem worth_of_closeInput (formed : closeInput source balances keys delay fees = .ok input)
    (total : balances.customer.toNat + balances.merchant.toNat = value.toNat)
    : source.worth value fees = .ok input.value := by
  simp only [closeInput, CloseBalances.total, Outcome.bind_eq_ok, Sat.add_eq_ok] at formed
  obtain ⟨_, ⟨fits, rfl⟩, formed⟩ := formed
  have whole : balances.customer + balances.merchant = value :=
    UInt64.toNat_inj.1 ((Sat.toNat_add fits).trans total)
  cases source with
  | escrow =>
      cases formed
      exact congrArg Except.ok whole.symm
  | merchantClose =>
      simp only [Outcome.bind_eq_ok, Outcome.pure_eq_ok] at formed
      obtain ⟨left, taken, _, -, _, -, rfl⟩ := formed
      exact whole ▸ taken

end Input

-----------------------------------------------------------------------------------------
-- Parents and children
-----------------------------------------------------------------------------------------

/-- The pairs of templates in which one spends an output of the other, both formed with the same
keys, delay and fees, for the same lock where both have one, and the child for what the parent pays.
-/
inductive TemplateLink (keys : ClosingKeys) (delay : UInt16) (fees : FeeSchedule)
    : SignableTx → UInt32 → SignableTx → Prop
  | merchantClose {utxo : FundingUtxo} {value fee : Sat} {changeKey : PublicKey}
    {dust dust' : Sat} {escrow : EscrowTx} {child : SignableTx}
    (parent : EscrowTx.form utxo keys.merchant keys.customer value changeKey fee fees dust
      = .ok escrow)
    (formed : merchantCloseTx escrow.escrowOutPoint value keys delay fees dust' = .ok child)
    : TemplateLink keys delay fees escrow.signable 0 child
  | closeFromEscrow {utxo : FundingUtxo} {value fee : Sat} {changeKey : PublicKey}
    {dust dust' : Sat} {balances : CloseBalances} {lock : RevLock} {escrow : EscrowTx}
    {child : SignableTx}
    (parent : EscrowTx.form utxo keys.merchant keys.customer value changeKey fee fees dust
      = .ok escrow)
    (total : balances.customer.toNat + balances.merchant.toNat = value.toNat)
    (formed : customerCloseTx .escrow escrow.escrowOutPoint balances lock keys delay fees dust'
      = .ok child)
    : TemplateLink keys delay fees escrow.signable 0 child
  | closeFromMerchantClose {escrow : OutPoint} {value dust dust' : Sat} {balances : CloseBalances}
    {lock : RevLock} {parent child : SignableTx}
    (before : merchantCloseTx escrow value keys delay fees dust = .ok parent)
    (total : balances.customer.toNat + balances.merchant.toNat = value.toNat)
    (formed : customerCloseTx .merchantClose ⟨parent.txid, 0⟩ balances lock keys delay fees dust'
      = .ok child)
    : TemplateLink keys delay fees parent 0 child
  | merchantClaim {escrow : OutPoint} {value worth fee dust dust' : Sat} {key : PublicKey}
    {parent child : SignableTx}
    (before : merchantCloseTx escrow value keys delay fees dust = .ok parent)
    (paid : parent.outputs[0]?.map (·.value) = some worth)
    (formed : merchantClaimTx ⟨parent.txid, 0⟩ worth keys delay key fee fees dust' = .ok child)
    : TemplateLink keys delay fees parent 0 child
  | customerClaim {source : CloseSource} {spent : OutPoint} {balances : CloseBalances}
    {lock : RevLock} {worth fee dust dust' : Sat} {key : PublicKey} {parent child : SignableTx}
    (before : customerCloseTx source spent balances lock keys delay fees dust = .ok parent)
    (paid : parent.outputs[0]?.map (·.value) = some worth)
    (formed : customerClaimTx ⟨parent.txid, 0⟩ worth lock keys delay key fee fees dust' = .ok child)
    : TemplateLink keys delay fees parent 0 child
  | dispute {source : CloseSource} {spent : OutPoint} {balances : CloseBalances}
    {lock : RevLock} {worth fee dust dust' : Sat} {key : PublicKey} {parent child : SignableTx}
    (before : customerCloseTx source spent balances lock keys delay fees dust = .ok parent)
    (paid : parent.outputs[0]?.map (·.value) = some worth)
    (formed : disputeTx ⟨parent.txid, 0⟩ worth lock keys delay key fee fees dust' = .ok child)
    : TemplateLink keys delay fees parent 0 child
  | merchantOutputClaim {source : CloseSource} {spent : OutPoint} {balances : CloseBalances}
    {lock : RevLock} {worth fee dust dust' : Sat} {key : PublicKey} {parent child : SignableTx}
    (before : customerCloseTx source spent balances lock keys delay fees dust = .ok parent)
    (paid : parent.outputs[1]?.map (·.value) = some worth)
    (formed : merchantOutputClaimTx ⟨parent.txid, 1⟩ worth keys.payout key fee fees dust'
      = .ok child)
    : TemplateLink keys delay fees parent 1 child

variable {keys : ClosingKeys} {delay : UInt16} {fees : FeeSchedule} {parent child : SignableTx}
  {index : UInt32}

/-- What a child is signed for is what its parent pays: the script code is the one the output of the
parent commits to, the value is that of the output, and the output keeps its name whatever witness
the parent is finalized with.
-/
theorem TemplateLink.child_fits_parent (link : TemplateLink keys delay fees parent index child)
    : ∃ output, parent.Fits index child output := by
  cases link with
  | merchantClose parent formed =>
      obtain ⟨-, _, -, -, rfl⟩ := merchantCloseTx_eq_ok.1 formed
      exact ⟨_, .of_output (EscrowTx.output_of_form parent) (Script.commits_payToScript _) rfl rfl⟩
  | closeFromEscrow parent total formed =>
      obtain ⟨-, input, given, _, -, -, -, -, rfl⟩ := customerCloseTx_eq_ok.1 formed
      refine ⟨_, .of_output (EscrowTx.output_of_form parent) ?_
        (Except.ok.inj (worth_of_closeInput given total)).symm rfl⟩
      rw [asked_of_closeInput given]
      exact Script.commits_payToScript _
  | closeFromMerchantClose before total formed =>
      obtain ⟨-, left, taken, -, rfl⟩ := merchantCloseTx_eq_ok.1 before
      obtain ⟨-, input, given, _, -, -, -, -, rfl⟩ := customerCloseTx_eq_ok.1 formed
      have worth := worth_of_closeInput given total
      refine ⟨_, .of_output rfl ?_ (Except.ok.inj (worth.symm.trans taken)) rfl⟩
      rw [asked_of_closeInput given]
      exact Script.commits_payToScript _
  | merchantClaim before paid formed =>
      obtain ⟨-, left, -, -, rfl⟩ := merchantCloseTx_eq_ok.1 before
      exact ⟨_, .of_claim formed paid rfl (Script.commits_payToScript _)⟩
  | customerClaim before paid formed =>
      obtain ⟨-, _, -, _, -, -, -, -, rfl⟩ := customerCloseTx_eq_ok.1 before
      exact ⟨_, .of_claim formed paid rfl (Script.commits_payToScript _)⟩
  | dispute before paid formed =>
      obtain ⟨-, _, -, _, -, -, -, -, rfl⟩ := customerCloseTx_eq_ok.1 before
      exact ⟨_, .of_claim formed paid rfl (Script.commits_payToScript _)⟩
  | merchantOutputClaim before paid formed =>
      obtain ⟨-, _, -, _, -, -, -, -, rfl⟩ := customerCloseTx_eq_ok.1 before
      exact ⟨_, .of_claim formed paid rfl (Script.commits_toKey _)⟩

section Example

-- Unification would compute keys and hashes where comparing their arguments is enough.
attribute [local irreducible] SecretKey.publicKey SignableTx.txid sha256 hash160

/-- One public key in all places. -/
def chainKeys : ClosingKeys :=
  let key := SecretKey.one.publicKey
  ⟨key, key, key, key, key⟩

/-- A merchant closes an escrow of 20000 and takes its output after the delay. -/
theorem child_fits_parent_merchantClaim
    : ∃ parent child,
        merchantCloseTx ⟨⟨.ofNat 32 7⟩, 0⟩ 20000 chainKeys 144 .default defaultDustLimit
          = .ok parent
        ∧ merchantClaimTx ⟨parent.txid, 0⟩ 18000 chainKeys 144 chainKeys.payout 500 .default
          defaultDustLimit = .ok child
        ∧ ∃ output, parent.Fits 0 child output := by
  have before : ∃ parent,
      merchantCloseTx ⟨⟨.ofNat 32 7⟩, 0⟩ 20000 chainKeys 144 .default defaultDustLimit = .ok parent
      ∧ parent.outputs[0]?.map (·.value) = some 18000 :=
    ⟨_, rfl, rfl⟩
  obtain ⟨parent, before, paid⟩ := before
  have formed : ∃ child, merchantClaimTx ⟨parent.txid, 0⟩ 18000 chainKeys 144 chainKeys.payout 500
      .default defaultDustLimit = .ok child :=
    ⟨_, rfl⟩
  obtain ⟨child, formed⟩ := formed
  exact ⟨parent, child, before, formed,
    TemplateLink.child_fits_parent (.merchantClaim before paid formed)⟩

end Example

end PaymentChannel
