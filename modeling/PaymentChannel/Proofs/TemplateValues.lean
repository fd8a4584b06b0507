import PaymentChannel.Proofs.TemplateChain

/-! What the transactions of a channel pay out.
A template divides what it spends among its outputs and the fee, with sums and differences that are
checked one by one. Every output is compared with the dust limit but the one by which a child can
raise the fee; the fee schedule alone says what that is worth.
-/

namespace PaymentChannel

-----------------------------------------------------------------------------------------
-- Sums of amounts
-----------------------------------------------------------------------------------------

section Sums

variable {ε : Type} {amounts : List Sat} {start total : Sat}

/-- Amounts can be added one after the other exactly if a word holds their sum, by induction on the
amounts: a part of a sum that fits does so too.
-/
theorem Sat.foldlM_add_eq_ok
    : (amounts.foldlM Sat.add start : Outcome ε Sat) = .ok total
      ↔ total.toNat = start.toNat + (amounts.map (·.toNat)).sum := by
  induction amounts generalizing start with
  | nil => simp [← UInt64.toNat_inj]
  | cons amount rest ih =>
      simp only [List.foldlM_cons, Outcome.bind_eq_ok, Sat.add_eq_ok, ih, List.map_cons,
        List.sum_cons]
      constructor
      · rintro ⟨_, ⟨fits, rfl⟩, sum⟩
        rw [sum, Sat.toNat_add fits, Nat.add_assoc]
      · intro sum
        have word := total.toNat_lt
        have fits : start.toNat + amount.toNat < UInt64.size := by
          simp only [UInt64.size]
          omega
        refine ⟨_, ⟨fits, rfl⟩, ?_⟩
        rw [sum, Sat.toNat_add fits, Nat.add_assoc]

theorem SignableTx.outputValue_eq_ok {signable : SignableTx}
    : (signable.outputValue : Outcome ε Sat) = .ok total
      ↔ total.toNat = (signable.outputs.map (·.value.toNat)).sum := by
  rw [outputValue, Sat.sum, Sat.foldlM_add_eq_ok]
  simp [Function.comp_def]

end Sums

-----------------------------------------------------------------------------------------
-- Escrow transactions
-----------------------------------------------------------------------------------------

/-- What an escrow transaction returns to the customer, if anything is left. -/
def EscrowTx.returned (change : Sat) (key : PublicKey) : List TxOut :=
  if change = 0 then [] else [⟨change, .toKey key⟩]

theorem EscrowTx.sum_returned (change : Sat) (key : PublicKey)
    : ((returned change key).map (·.value.toNat)).sum = change.toNat := by
  unfold returned
  split
  case isTrue none => simp [none]
  case isFalse => simp

/-- The outputs of an escrow transaction: the escrow and what is left of the funds after the fee. Both
are worth spending.
-/
theorem EscrowTx.form_eq_ok {utxo : FundingUtxo} {merchant customer changeKey : PublicKey}
    {value fee : Sat} {fees : FeeSchedule} {dustLimit : Sat} {escrow : EscrowTx}
    : form utxo merchant customer value changeKey fee fees dustLimit = .ok escrow
      ↔ (fees.leastFee ≤ fee ∧ fee ≤ fees.greatestFee)
        ∧ dustLimit ≤ value
        ∧ ∃ taken, (Sat.add value fee : Outcome TemplateError Sat) = .ok taken
        ∧ taken ≤ utxo.value
        ∧ (utxo.value - taken = 0 ∨ dustLimit ≤ utxo.value - taken)
        ∧ escrow = {
            signable := {
              kind := .escrow
              spent := utxo.outpoint
              sequence := finalSequence
              outputs := ⟨value, .payToScript (.escrow merchant customer)⟩
                :: returned (utxo.value - taken) changeKey
              scriptCode := .keyCode utxo.key
              inputValue := utxo.value }
            escrowValue := value
            fundingKey := utxo.key } := by
  simp only [form, Outcome.bind_eq_ok, FeeSchedule.checkFee_eq_ok, checkDust_eq_ok, deduct_eq_ok]
  constructor
  · rintro ⟨_, ⟨bounds, -⟩, _, ⟨worth, -⟩, taken, summed, _, ⟨enough, rfl⟩, formed⟩
    refine ⟨bounds, worth, taken, summed, enough, ?_⟩
    split at formed
    case isTrue none =>
      cases formed
      exact ⟨.inl none, by rw [returned, if_pos none]⟩
    case isFalse more =>
      simp only [Outcome.bind_eq_ok, checkDust_eq_ok, Outcome.pure_eq_ok] at formed
      obtain ⟨_, ⟨left, rfl⟩, _, rfl, rfl⟩ := formed
      exact ⟨.inr left, by rw [returned, if_neg more]⟩
  · rintro ⟨bounds, worth, taken, summed, enough, left, rfl⟩
    refine ⟨_, ⟨bounds, rfl⟩, _, ⟨worth, rfl⟩, taken, summed, _, ⟨enough, rfl⟩, ?_⟩
    split
    case isTrue none =>
      rw [returned, if_pos none]
      rfl
    case isFalse more =>
      simp only [Outcome.bind_eq_ok, checkDust_eq_ok, Outcome.pure_eq_ok]
      exact ⟨_, ⟨left.resolve_left more, rfl⟩, _, rfl, by rw [returned, if_neg more]⟩

-----------------------------------------------------------------------------------------
-- The templates
-----------------------------------------------------------------------------------------

/-- The transactions that can be formed under a fee schedule and a dust limit, each with its fee. -/
inductive Formed (fees : FeeSchedule) (dustLimit : Sat) : SignableTx → Sat → Prop
  | escrow {utxo : FundingUtxo} {merchant customer changeKey : PublicKey} {value fee : Sat}
    {escrow : EscrowTx}
    (formed : EscrowTx.form utxo merchant customer value changeKey fee fees dustLimit = .ok escrow)
    : Formed fees dustLimit escrow.signable fee
  | merchantClose {spent : OutPoint} {value : Sat} {keys : ClosingKeys} {delay : UInt16}
    {close : SignableTx}
    (formed : merchantCloseTx spent value keys delay fees dustLimit = .ok close)
    : Formed fees dustLimit close fees.merchantCloseFee
  | customerClose {source : CloseSource} {spent : OutPoint} {balances : CloseBalances}
    {lock : RevLock} {keys : ClosingKeys} {delay : UInt16} {close : SignableTx}
    (formed : customerCloseTx source spent balances lock keys delay fees dustLimit = .ok close)
    : Formed fees dustLimit close fees.customerCloseFee
  | customerClaim {spent : OutPoint} {value : Sat} {lock : RevLock} {keys : ClosingKeys}
    {delay : UInt16} {key : PublicKey} {fee : Sat} {claim : SignableTx}
    (formed : customerClaimTx spent value lock keys delay key fee fees dustLimit = .ok claim)
    : Formed fees dustLimit claim fee
  | merchantClaim {spent : OutPoint} {value : Sat} {keys : ClosingKeys} {delay : UInt16}
    {key : PublicKey} {fee : Sat} {claim : SignableTx}
    (formed : merchantClaimTx spent value keys delay key fee fees dustLimit = .ok claim)
    : Formed fees dustLimit claim fee
  | merchantOutputClaim {spent : OutPoint} {value : Sat} {payout key : PublicKey} {fee : Sat}
    {claim : SignableTx}
    (formed : merchantOutputClaimTx spent value payout key fee fees dustLimit = .ok claim)
    : Formed fees dustLimit claim fee
  | dispute {spent : OutPoint} {value : Sat} {lock : RevLock} {keys : ClosingKeys}
    {delay : UInt16} {key : PublicKey} {fee : Sat} {claim : SignableTx}
    (formed : disputeTx spent value lock keys delay key fee fees dustLimit = .ok claim)
    : Formed fees dustLimit claim fee

section Templates

variable {fees : FeeSchedule} {dustLimit fee value : Sat} {tx : SignableTx}

-----------------------------------------------------------------------------------------
-- Conservation
-----------------------------------------------------------------------------------------

/-- The outputs of the transaction have a sum that a word holds. What it spends is worth that sum and
the fee, which is within its bounds.
-/
structure SignableTx.PaysOut (tx : SignableTx) (fees : FeeSchedule) (fee : Sat) : Prop where
  total : ∃ total, (tx.outputValue : Outcome TemplateError Sat) = .ok total
    ∧ total ≤ tx.inputValue ∧ tx.inputValue - total = fee
  bounds : fees.leastFee ≤ fee ∧ fee ≤ fees.greatestFee

/-- Outputs that make up the worth of the input with the fee leave no room for an overflow. -/
theorem SignableTx.PaysOut.of_sum
    (sum : (tx.outputs.map (·.value.toNat)).sum + fee.toNat = tx.inputValue.toNat)
    (bounds : fees.leastFee ≤ fee ∧ fee ≤ fees.greatestFee)
    : tx.PaysOut fees fee where
  total := by
    have enough : fee ≤ tx.inputValue := UInt64.le_iff_toNat_le.2 (by omega)
    have left := Sat.toNat_sub_add enough
    have within : tx.inputValue - fee ≤ tx.inputValue := UInt64.le_iff_toNat_le.2 (by omega)
    refine ⟨tx.inputValue - fee, outputValue_eq_ok.2 (by omega), within, UInt64.toNat_inj.1 ?_⟩
    have rest := Sat.toNat_sub_add within
    omega
  bounds := bounds

theorem EscrowTx.paysOut_of_form {utxo : FundingUtxo} {merchant customer changeKey : PublicKey}
    {escrow : EscrowTx}
    (formed : form utxo merchant customer value changeKey fee fees dustLimit = .ok escrow)
    : escrow.signable.PaysOut fees fee := by
  obtain ⟨bounds, -, _, summed, enough, -, rfl⟩ := form_eq_ok.1 formed
  obtain ⟨fits, rfl⟩ := Sat.add_eq_ok.1 summed
  refine .of_sum ?_ bounds
  have taken := Sat.toNat_add fits
  have left := Sat.toNat_sub_add enough
  simp only [List.map_cons, List.sum_cons, sum_returned]
  omega

theorem paysOut_of_merchantCloseTx {spent : OutPoint} {keys : ClosingKeys} {delay : UInt16}
    (formed : merchantCloseTx spent value keys delay fees dustLimit = .ok tx)
    : tx.PaysOut fees fees.merchantCloseFee := by
  obtain ⟨bounds, _, left, -, rfl⟩ := merchantCloseTx_eq_ok.1 formed
  refine .of_sum ?_ bounds
  have left := toNat_of_merchantCloseValue left
  simp only [List.map_cons, List.sum_cons, sum_anchorOutput]
  omega

theorem paysOut_of_claimTx {kind : TxKind} {spent : OutPoint} {sequence : UInt32}
    {scriptCode : Script} {key : PublicKey}
    (formed : claimTx kind spent sequence scriptCode value key fee fees dustLimit = .ok tx)
    : tx.PaysOut fees fee := by
  obtain ⟨bounds, enough, -, rfl⟩ := claimTx_eq_ok.1 formed
  refine .of_sum ?_ bounds
  have left := Sat.toNat_sub_add enough
  simp only [List.map_cons, List.map_nil, List.sum_cons, List.sum_nil]
  omega

/-- Every template conserves what it spends, by cases on the templates. -/
theorem Formed.paysOut (formed : Formed fees dustLimit tx fee) : tx.PaysOut fees fee := by
  cases formed with
  | escrow formed => exact EscrowTx.paysOut_of_form formed
  | merchantClose formed => exact paysOut_of_merchantCloseTx formed
  | customerClose formed =>
      obtain ⟨bounds, -⟩ := customerCloseTx_eq_ok.1 formed
      exact .of_sum (outputs_of_customerCloseTx formed) bounds
  | customerClaim formed | merchantClaim formed | merchantOutputClaim formed | dispute formed =>
      exact paysOut_of_claimTx formed

/-- A customer-close transaction pays the customer under a lock first and the merchant second. -/
structure SignableTx.Splits (close : SignableTx) (lock : RevLock) (keys : ClosingKeys)
    (delay : UInt16) (toCustomer toMerchant : Sat)
    : Prop where
  customer : close.outputs[0]?
    = some ⟨toCustomer, .payToScript (.toCustomer lock keys.dispute keys.close delay)⟩
  merchant : close.outputs[1]? = some ⟨toMerchant, .toKey keys.payout⟩

section Close

variable {source : CloseSource} {spent spent' : OutPoint} {balances : CloseBalances}
  {lock lock' : RevLock} {keys keys' : ClosingKeys} {delay delay' : UInt16} {dustLimit' : Sat}
  {direct late : SignableTx}

/-- The customer bears the fee of a customer-close transaction and the merchant what was taken from
the escrow before.
-/
theorem splits_of_customerCloseTx
    (formed : customerCloseTx source spent balances lock keys delay fees dustLimit = .ok tx)
    : ∃ deduction toMerchant,
        (fees.customerCloseDeduction : Outcome TemplateError Sat) = .ok deduction
        ∧ tx.Splits lock keys delay (balances.customer - deduction) toMerchant
        ∧ toMerchant.toNat + source.deducted fees = balances.merchant.toNat := by
  obtain ⟨-, input, given, deduction, summed, -, -, -, rfl⟩ := customerCloseTx_eq_ok.1 formed
  exact ⟨deduction, input.toMerchant, summed, ⟨rfl, rfl⟩, closeInput_toMerchant given⟩

/-- Whether the escrow is spent or the output of a merchant-close transaction, the customer is paid
the same; the merchant is paid less by what the merchant-close transaction took.
-/
theorem splits_of_both_sources
    (fromEscrow : customerCloseTx .escrow spent balances lock keys delay fees dustLimit = .ok direct)
    (fromClose : customerCloseTx .merchantClose spent' balances lock' keys' delay' fees dustLimit'
      = .ok late)
    : ∃ toCustomer toMerchant left deduction,
        direct.Splits lock keys delay toCustomer toMerchant
        ∧ late.Splits lock' keys' delay' toCustomer left
        ∧ (fees.merchantCloseDeduction : Outcome TemplateError Sat) = .ok deduction
        ∧ left ≤ toMerchant ∧ toMerchant - left = deduction := by
  obtain ⟨_, toMerchant, summed, direct, whole⟩ := splits_of_customerCloseTx fromEscrow
  obtain ⟨_, left, again, late, part⟩ := splits_of_customerCloseTx fromClose
  cases Except.ok.inj (summed.symm.trans again)
  simp only [CloseSource.deducted] at whole part
  have word := balances.merchant.toNat_lt
  have fits : fees.merchantCloseFee.toNat + fees.anchorValue.toNat < UInt64.size := by
    simp only [UInt64.size]
    omega
  have less : left ≤ toMerchant := UInt64.le_iff_toNat_le.2 (by omega)
  refine ⟨_, toMerchant, left, _, direct, late, Sat.add_eq_ok.2 ⟨fits, rfl⟩, less,
    UInt64.toNat_inj.1 ?_⟩
  have rest := Sat.toNat_sub_add less
  rw [Sat.toNat_add fits]
  omega

end Close

/-- No template creates or loses value. Whatever it is given, a transaction that is formed has
outputs whose sum a word holds and pays exactly its fee beside them, which is within its bounds; and
both customer-close transactions of the same balances pay the customer the same and the merchant the
same but for what the merchant-close transaction took.
-/
theorem value_conserved (fees : FeeSchedule) (dustLimit : Sat)
    : (∀ tx fee, Formed fees dustLimit tx fee → tx.PaysOut fees fee)
      ∧ ∀ {spent spent' balances lock lock' keys keys' delay delay' dustLimit' direct late},
        customerCloseTx .escrow spent balances lock keys delay fees dustLimit = .ok direct
        → customerCloseTx .merchantClose spent' balances lock' keys' delay' fees dustLimit' = .ok late
        → ∃ toCustomer toMerchant left deduction,
          direct.Splits lock keys delay toCustomer toMerchant
          ∧ late.Splits lock' keys' delay' toCustomer left
          ∧ (fees.merchantCloseDeduction : Outcome TemplateError Sat) = .ok deduction
          ∧ left ≤ toMerchant ∧ toMerchant - left = deduction :=
  ⟨fun _ _ formed => formed.paysOut, splits_of_both_sources⟩

section Example

-- Unification would compute keys and hashes where comparing their arguments is enough.
attribute [local irreducible] SecretKey.publicKey SignableTx.txid sha256 hash160

/-- Both transactions that divide an escrow of 20000 pay a fee of 1000, and the merchant gets 2000 less
from the later one.
-/
theorem value_conserved_halves
    : ∃ direct late,
        customerCloseTx .escrow ⟨⟨.ofNat 32 7⟩, 0⟩ ⟨10000, 10000⟩ ⟨.ofNat 32 9⟩ chainKeys 144 .default
          defaultDustLimit = .ok direct
        ∧ customerCloseTx .merchantClose ⟨⟨.ofNat 32 8⟩, 0⟩ ⟨10000, 10000⟩ ⟨.ofNat 32 9⟩ chainKeys 144
          .default defaultDustLimit = .ok late
        ∧ direct.PaysOut .default 1000 ∧ late.PaysOut .default 1000
        ∧ ∃ toCustomer toMerchant left,
          direct.Splits ⟨.ofNat 32 9⟩ chainKeys 144 toCustomer toMerchant
          ∧ late.Splits ⟨.ofNat 32 9⟩ chainKeys 144 toCustomer left
          ∧ toMerchant - left = 2000 := by
  obtain ⟨direct, fromEscrow⟩ : ∃ direct, customerCloseTx .escrow ⟨⟨.ofNat 32 7⟩, 0⟩ ⟨10000, 10000⟩
      ⟨.ofNat 32 9⟩ chainKeys 144 .default defaultDustLimit = .ok direct := ⟨_, rfl⟩
  obtain ⟨late, fromClose⟩ : ∃ late, customerCloseTx .merchantClose ⟨⟨.ofNat 32 8⟩, 0⟩ ⟨10000, 10000⟩
      ⟨.ofNat 32 9⟩ chainKeys 144 .default defaultDustLimit = .ok late := ⟨_, rfl⟩
  obtain ⟨conserves, splits⟩ := value_conserved .default defaultDustLimit
  obtain ⟨toCustomer, toMerchant, left, deduction, before, after, deducted, -, less⟩ :=
    splits fromEscrow fromClose
  have taken : (FeeSchedule.default.merchantCloseDeduction : Outcome TemplateError Sat) = .ok 2000 :=
    rfl
  cases Except.ok.inj (deducted.symm.trans taken)
  exact ⟨direct, late, fromEscrow, fromClose, conserves _ _ (.customerClose fromEscrow),
    conserves _ _ (.customerClose fromClose), toCustomer, toMerchant, left, before, after, less⟩

end Example

-----------------------------------------------------------------------------------------
-- Outputs that are worth spending
-----------------------------------------------------------------------------------------

/-- An output that publishes data and has no value. -/
def TxOut.Publishes (output : TxOut) : Prop :=
  output.value = 0 ∧ output.script.isPublication = true

/-- The kinds of transactions with an output by which a child can raise the fee. -/
def TxKind.Closes : TxKind → Prop
  | .merchantClose | .customerCloseFromEscrow | .customerCloseFromMerchantClose => True
  | _ => False

instance (output : TxOut) : Decidable output.Publishes :=
  inferInstanceAs (Decidable (_ ∧ _))

/-- The output is worth spending, publishes data or is the one by which a child can raise the fee. -/
inductive TxOut.Placed (fees : FeeSchedule) (dustLimit : Sat) (kind : TxKind) (output : TxOut) : Prop
  | worth (worth : dustLimit ≤ output.value)
  | publishes (publishes : output.Publishes)
  | anchor (closes : kind.Closes) (asked : fees.anchorValue ≠ 0)
    (value : output.value = fees.anchorValue)

theorem mem_anchorOutput {key : PublicKey} {output : TxOut}
    : output ∈ anchorOutput fees key
      ↔ fees.anchorValue ≠ 0 ∧ output = ⟨fees.anchorValue, .toKey key⟩ := by
  unfold anchorOutput
  split
  case isTrue none => simp [none]
  case isFalse asked => simp [asked]

theorem CloseSource.closes_closeKind (source : CloseSource) : source.closeKind.Closes := by
  cases source <;> trivial

/-- What the outputs of a template are, by cases on the templates. -/
theorem Formed.placed (formed : Formed fees dustLimit tx fee) {output : TxOut}
    (member : output ∈ tx.outputs)
    : output.Placed fees dustLimit tx.kind := by
  cases formed with
  | escrow formed =>
      obtain ⟨-, worth, _, -, -, left, rfl⟩ := EscrowTx.form_eq_ok.1 formed
      rcases List.mem_cons.1 member with rfl | change
      · exact .worth worth
      · unfold EscrowTx.returned at change
        split at change
        case isTrue => cases change
        case isFalse more =>
          obtain rfl := List.mem_singleton.1 change
          exact .worth (left.resolve_left more)
  | merchantClose formed =>
      obtain ⟨-, _, -, worth, rfl⟩ := merchantCloseTx_eq_ok.1 formed
      rcases List.mem_cons.1 member with rfl | anchor
      · exact .worth worth
      · obtain ⟨asked, rfl⟩ := mem_anchorOutput.1 anchor
        exact .anchor trivial asked rfl
  | @customerClose source _ _ _ _ _ _ formed =>
      obtain ⟨-, _, -, _, -, -, worth, merchantWorth, rfl⟩ := customerCloseTx_eq_ok.1 formed
      rcases List.mem_append.1 member with first | anchor
      · simp only [List.mem_cons, List.not_mem_nil, or_false] at first
        obtain rfl | rfl | rfl := first
        · exact .worth worth
        · exact .worth merchantWorth
        · exact .publishes ⟨rfl, rfl⟩
      · obtain ⟨asked, rfl⟩ := mem_anchorOutput.1 anchor
        exact .anchor source.closes_closeKind asked rfl
  | customerClaim formed | merchantClaim formed | merchantOutputClaim formed | dispute formed =>
      obtain ⟨-, -, worth, rfl⟩ := claimTx_eq_ok.1 formed
      obtain rfl := List.mem_singleton.1 member
      exact .worth worth

/-- Close transactions have the output for a child whenever the fee schedule asks for it. -/
theorem Formed.exists_anchor (formed : Formed fees dustLimit tx fee) (closes : tx.kind.Closes)
    (asked : fees.anchorValue ≠ 0)
    : ∃ key, (⟨fees.anchorValue, .toKey key⟩ : TxOut) ∈ tx.outputs := by
  cases formed with
  | escrow formed =>
      obtain ⟨-, -, _, -, -, -, rfl⟩ := EscrowTx.form_eq_ok.1 formed
      exact closes.elim
  | merchantClose formed =>
      obtain ⟨-, _, -, -, rfl⟩ := merchantCloseTx_eq_ok.1 formed
      exact ⟨_, List.mem_cons_of_mem _ (mem_anchorOutput.2 ⟨asked, rfl⟩)⟩
  | customerClose formed =>
      obtain ⟨-, _, -, _, -, -, -, -, rfl⟩ := customerCloseTx_eq_ok.1 formed
      exact ⟨_, List.mem_append_right _ (mem_anchorOutput.2 ⟨asked, rfl⟩)⟩
  | customerClaim formed | merchantClaim formed | merchantOutputClaim formed | dispute formed =>
      obtain ⟨-, -, -, rfl⟩ := claimTx_eq_ok.1 formed
      exact closes.elim

/-- The only output that is not compared with the dust limit is the one by which a child can raise the
fee of a close transaction. All others are worth spending, whatever the template is given; with it
all outputs are so exactly if the fee schedule asks for none or for one above the limit.
-/
theorem outputs_worth_iff (formed : Formed fees dustLimit tx fee)
    : (∀ output ∈ tx.outputs, ¬output.Publishes → output.value < dustLimit
        → tx.kind.Closes ∧ output.value = fees.anchorValue)
      ∧ ((∀ output ∈ tx.outputs, ¬output.Publishes → dustLimit ≤ output.value)
        ↔ (tx.kind.Closes → fees.anchorValue = 0 ∨ dustLimit ≤ fees.anchorValue)) := by
  refine ⟨fun output member shows below => ?_, fun all closes => ?_, fun enough output member shows => ?_⟩
  · cases formed.placed member with
    | worth worth => exact absurd below (UInt64.not_lt.2 worth)
    | publishes publishes => exact absurd publishes shows
    | anchor closes _ value => exact ⟨closes, value⟩
  · refine or_iff_not_imp_left.2 fun asked => ?_
    obtain ⟨key, member⟩ := formed.exists_anchor closes asked
    exact all _ member fun publishes => asked publishes.1
  · cases formed.placed member with
    | worth worth => exact worth
    | publishes publishes => exact absurd publishes shows
    | anchor closes asked value => exact value ▸ (enough closes).resolve_left asked

end Templates

/-- Terms are not judged by the worth of the output for a child. -/
theorem ChannelParams.validate_anchorValue (params : ChannelParams) (value : Sat)
    : validate { params with fees := { params.fees with anchorValue := value } } = params.validate :=
  rfl

section Example

-- Unification would compute keys and hashes where comparing their arguments is enough.
attribute [local irreducible] SecretKey.publicKey SignableTx.txid sha256 hash160

/-- Under the usual terms all outputs of a merchant-close transaction are worth spending. -/
theorem outputs_worth_iff_default
    : ∃ close, merchantCloseTx ⟨⟨.ofNat 32 7⟩, 0⟩ 20000 chainKeys 144 .default defaultDustLimit
        = .ok close
      ∧ ∀ output ∈ close.outputs, ¬output.Publishes → defaultDustLimit ≤ output.value := by
  obtain ⟨close, formed⟩ : ∃ close, merchantCloseTx ⟨⟨.ofNat 32 7⟩, 0⟩ 20000 chainKeys 144 .default
      defaultDustLimit = .ok close := ⟨_, rfl⟩
  exact ⟨close, formed, (outputs_worth_iff (.merchantClose formed)).2.2 fun _ => .inr (by decide)⟩

/-- The usual terms, but for an output of one satoshi by which a child can raise the fee. -/
def thinAnchorParams : ChannelParams :=
  { ChannelParams.default with fees := { FeeSchedule.default with anchorValue := 1 } }

/-- The terms are acceptable, but close transactions under them have an output below the dust limit. -/
theorem thin_anchor_formed
    : thinAnchorParams.validate = .ok ()
      ∧ ∃ close, merchantCloseTx ⟨⟨.ofNat 32 7⟩, 0⟩ 20000 chainKeys 144 thinAnchorParams.fees
          thinAnchorParams.dustLimit = .ok close
        ∧ ∃ output ∈ close.outputs, ¬output.Publishes ∧ output.value < thinAnchorParams.dustLimit := by
  obtain ⟨close, formed⟩ : ∃ close, merchantCloseTx ⟨⟨.ofNat 32 7⟩, 0⟩ 20000 chainKeys 144
      thinAnchorParams.fees thinAnchorParams.dustLimit = .ok close := ⟨_, rfl⟩
  have asked : thinAnchorParams.fees.anchorValue ≠ 0 := by decide
  have below : thinAnchorParams.fees.anchorValue < thinAnchorParams.dustLimit := by decide
  have closes : close.kind.Closes := by
    obtain ⟨-, _, -, -, rfl⟩ := merchantCloseTx_eq_ok.1 formed
    trivial
  obtain ⟨key, member⟩ := (Formed.merchantClose formed).exists_anchor closes asked
  exact ⟨ChannelParams.validate_anchorValue .default 1, close, formed, _, member,
    fun publishes => asked publishes.1, below⟩

end Example

end PaymentChannel
