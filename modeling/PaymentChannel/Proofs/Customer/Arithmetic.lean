import PaymentChannel.Proofs.Customer.Steps
import PaymentChannel.Proofs.Overflow.Templates

/-! When arithmetic stops a customer.
Balances are signed, and every payment is checked before they are changed, so no call leaves their
range. Values of outputs are not signed; two of their sums can leave the range of a word, that of an
escrow and its fee and that of what a customer-close transaction takes.
-/

namespace PaymentChannel

-----------------------------------------------------------------------------------------
-- Calls
-----------------------------------------------------------------------------------------

namespace Customer

variable {customer : Customer}

@[simp] theorem stopped_requireStage {required : List Stage}
    : ¬(customer.requireStage required).Stopped := by
  simp [requireStage]

@[simp] theorem stopped_requireStatus {required : ChannelStatus}
    : ¬(customer.requireStatus required).Stopped := by
  simp [requireStatus]

@[simp] theorem stopped_requireChannel : ¬customer.requireChannel.Stopped := by
  simp [requireChannel]

@[simp] theorem stopped_requirePending : ¬customer.requirePending.Stopped := by
  simp [requirePending]

@[simp] theorem stopped_checkAmount {state : ChannelState} {amount : Balance}
    : ¬(customer.checkAmount state amount).Stopped := by
  simp [checkAmount]

@[simp] theorem stopped_afterwards {σ α : Type} {before : σ}
    {outcome : Outcome ChannelError (α × σ)}
    : (Parties.afterwards before outcome).1.Stopped ↔ outcome.Stopped := by
  rcases outcome with failure | ⟨answer, after⟩ <;> simp [Parties.afterwards, Outcome.Stopped]

theorem stopped_acceptToken {opening : PayMaskOpening}
    : ¬(customer.acceptToken opening).1.Stopped := by
  have awaits : ¬customer.awaitedToken.Stopped := by
    simp only [awaitedToken, Outcome.stopped_bind, stopped_requireStage, stopped_requirePending,
      false_or]
    rintro ⟨_, -, _, -, stopped⟩
    split at stopped <;> simp at stopped
  unfold acceptToken
  split
  case h_1 failure failed =>
    rintro ⟨kind, overflow⟩
    cases overflow
    exact awaits ⟨kind, failed⟩
  case h_2 => split <;> simp

/-- A payment is checked before the balances are changed, so its new state is always there. -/
theorem pay_of_checkAmount {ε : Type} {state : ChannelState} {amount : Balance} {lock : RevLock}
    (checked : customer.checkAmount state amount = .ok ())
    : ¬(state.pay amount lock : Outcome ε ChannelState).Stopped := by
  simp only [checkAmount, Outcome.bind_eq_ok, Outcome.ensure_eq_ok, Outcome.exists_unit,
    Option.any_eq_true] at checked
  obtain ⟨⟨paid, left, -⟩, received, sum, -⟩ := checked
  have subtracted : (Balance.sub state.customerBalance amount : Outcome ε Balance) = .ok paid :=
    Balance.sub_eq_ok.2 (Balance.sub?_eq_some.1 left)
  have added : (Balance.add state.merchantBalance amount : Outcome ε Balance) = .ok received :=
    Balance.add_eq_ok.2 (Balance.add?_eq_some.1 sum)
  simp [ChannelState.pay, subtracted, added]

/-- No amount, however large, stops a payment from being prepared. -/
theorem stopped_preparePayment {amount : Balance} {justification : Option String}
    {source : Entropy}
    : ¬((customer.preparePayment amount justification).outcome source).Stopped := by
  simp only [preparePayment, Draw.outcome_bind, Draw.outcome_of, Draw.outcome_bytes,
    Outcome.stopped_bind, Outcome.ok_bind]
  rintro (allowed | ⟨state, allowed, stopped | ⟨new, paid, rest⟩⟩)
  · simp [checkPayment] at allowed
  · obtain ⟨-, -, -, -, _, -, checked, rfl⟩ := checkPayment_eq_ok.1 allowed
    exact pay_of_checkAmount checked stopped
  · simp at rest

/-- A call forms a transaction with values that a word does not hold: an escrow with the fee of its
transaction, or what a customer-close transaction takes from the customer.
-/
def Exceeds (customer : Customer) : CustomerCall → Prop
  | .fund (.utxo _ _ _ fee) =>
      ∃ value, escrowValue customer.initialBalances.1 customer.initialBalances.2 = .ok value
        ∧ UInt64.size ≤ value.toNat + fee.toNat
  | .storeInitialSignatures _ | .acceptSignatures _ _ | .forceClose _ =>
      ¬customer.params.fees.CustomerCloseFits
  | _ => False

section Stopped

variable (payable : customer.params.fees.MerchantCloseFits)

include payable

/-- A funding is stopped only while it forms the escrow transaction itself. -/
theorem stopped_fund {source : FundingSource}
    : (customer.fund source).Stopped
      ↔ customer.stage = .initialized ∧ customer.status = .unfunded
        ∧ ∃ value, escrowValue customer.initialBalances.1 customer.initialBalances.2 = .ok value
        ∧ ∃ utxo key changeKey fee, source = .utxo utxo key changeKey fee
          ∧ EscrowTx.Exceeds value fee customer.params.fees customer.params.dustLimit := by
  have close : ∀ (token : ChannelToken) value,
      ¬(token.merchantCloseTx value customer.params).Stopped := by
    intro token value stopped
    exact (stopped_merchantCloseTx.1 stopped).2 payable
  have choose : ∀ value, (customer.chooseFunding value source).Stopped
      ↔ ∃ utxo key changeKey fee, source = .utxo utxo key changeKey fee
        ∧ EscrowTx.Exceeds value fee customer.params.fees customer.params.dustLimit := by
    intro value
    cases source with
    | utxo utxo key changeKey fee =>
        simp [chooseFunding, formFunding, EscrowTx.sign, SignableTx.verify,
          EscrowTx.stopped_form, stopped_merchantCloseTx, payable]
    | formed funding => simp [chooseFunding]
  simp [fund, close, choose]

theorem exceeds_of_fund {source : FundingSource} (stopped : (customer.fund source).Stopped)
    : customer.Exceeds (.fund source) := by
  obtain ⟨-, -, value, worth, _, _, _, _, rfl, -, -, past⟩ := (stopped_fund payable).1 stopped
  exact ⟨value, worth, past⟩

theorem wide_of_verifySignatures {token : ChannelToken} {state : ChannelState}
    {signatures : CloseSignatures}
    (stopped : (customer.verifySignatures token state signatures).Stopped)
    : ¬customer.params.fees.CustomerCloseFits := by
  intro closable
  simp [verifySignatures, verifyClose, ChannelToken.stopped_customerCloseTx, payable, closable]
    at stopped

/-- Signatures that are taken off their masks are checked for two close transactions. -/
theorem wide_of_acceptSignatures {outputs : MaskedOutputs} {released : ReleasedMasks}
    (stopped : (customer.acceptSignatures outputs released).1.Stopped)
    : ¬customer.params.fees.CustomerCloseFits := by
  have awaits : ¬(customer.roundAwaitingSignatures released).Stopped := by
    simp [roundAwaitingSignatures]
  unfold acceptSignatures at stopped
  split at stopped
  case h_1 failure failed =>
    obtain ⟨kind, overflow⟩ := stopped
    cases overflow
    exact absurd ⟨kind, failed⟩ awaits
  case h_2 channel pending awaiting =>
    dsimp only at stopped
    split at stopped
    · simp at stopped
    · simp at stopped
    case h_3 kind checked =>
      have stopped : (do
          let signatures ← unmaskSignatures outputs released.masks
          customer.verifySignatures channel.token pending.new signatures
          return signatures : Outcome ChannelError CloseSignatures).Stopped := ⟨kind, checked⟩
      rcases Outcome.stopped_bind.1 stopped with unmasking | ⟨signatures, -, rest⟩
      · simp [unmaskSignatures, unmaskSignature] at unmasking
      · rcases Outcome.stopped_bind.1 rest with checking | ⟨_, -, ended⟩
        · exact wide_of_verifySignatures payable checking
        · exact absurd ended Outcome.stopped_pure

/-- Only a transaction with values that a word does not hold stops a call, by cases on the call. -/
theorem exceeds_of_stopped (call : CustomerCall) (stopped : (customer.serve call).1.Stopped)
    : customer.Exceeds call := by
  cases call with
  | fund source => exact exceeds_of_fund payable (stopped_afterwards.1 stopped)
  | storeInitialSignatures signatures =>
      have stopped : (customer.storeInitialSignatures signatures).Stopped :=
        stopped_afterwards.1 stopped
      simp only [storeInitialSignatures, Outcome.stopped_bind, stopped_requireStage,
        stopped_requireChannel, Outcome.stopped_pure, false_or, or_false, and_false, exists_false]
        at stopped
      obtain ⟨_, -, _, -, stopped⟩ := stopped
      exact wide_of_verifySignatures payable stopped
  | acceptSignatures outputs released =>
      exact wide_of_acceptSignatures payable stopped
  | forceClose source =>
      have stopped : (customer.forceClose source).Stopped := stopped_afterwards.1 stopped
      intro closable
      simp [forceClose, ChannelToken.stopped_customerCloseTx, payable, closable] at stopped
  | initialState =>
      have stopped : customer.initialState.Stopped := stopped
      simp [initialState] at stopped
  | markOpen =>
      have stopped : customer.markOpen.Stopped := stopped_afterwards.1 stopped
      simp [markOpen] at stopped
  | requestActivation =>
      have stopped : customer.requestActivation.Stopped := stopped_afterwards.1 stopped
      simp [requestActivation] at stopped
  | finishActivation token =>
      have stopped : (customer.finishActivation token).Stopped := stopped_afterwards.1 stopped
      simp [finishActivation] at stopped
  | preparePayment amount justification source =>
      exact absurd (stopped_afterwards.1 stopped) stopped_preparePayment
  | maskingInput response =>
      have stopped : (customer.maskingInput response).Stopped := stopped_afterwards.1 stopped
      simp [maskingInput] at stopped
  | revoke =>
      have stopped : customer.revoke.Stopped := stopped_afterwards.1 stopped
      simp only [revoke, Outcome.stopped_bind, stopped_requireStage, stopped_requirePending,
        false_or] at stopped
      obtain ⟨_, -, _, -, stopped⟩ := stopped
      split at stopped <;> simp at stopped
  | acceptToken opening => exact absurd stopped stopped_acceptToken
  | abort =>
      have stopped : customer.abort.Stopped := stopped_afterwards.1 stopped
      simp [abort] at stopped
  | claim tx fee =>
      have stopped : (customer.claim tx fee).Stopped := stopped
      simp [claim, customerClaimTx, stopped_claimTx, Publication.stopped_ofTransaction] at stopped
  | markClosed =>
      have stopped : customer.markClosed.Stopped := stopped_afterwards.1 stopped
      simp [markClosed] at stopped
  | markDisputed =>
      have stopped : customer.markDisputed.Stopped := stopped_afterwards.1 stopped
      simp [markDisputed] at stopped

end Stopped

/-- The least balance of the merchant, which a customer computes before it starts, covers what a
merchant-close transaction takes.
-/
theorem Starts.merchantCloseFits {start : Customer} (starts : start.Starts)
    : start.params.fees.MerchantCloseFits := by
  obtain ⟨params, _, _, _, _, _, initialized⟩ := starts
  obtain ⟨-, _, opening, _, -, _, -, rfl⟩ := init_eq_ok.1 initialized
  simp only [openingBalances, ChannelParams.merchantMinimum, Outcome.bind_eq_ok] at opening
  obtain ⟨_, ⟨_, deduction, -⟩, -⟩ := opening
  exact (Sat.add_eq_ok.1 deduction).1

theorem SameParty.exceeds {start : Customer} (same : start.SameParty customer) (call : CustomerCall)
    : start.Exceeds call ↔ customer.Exceeds call := by
  unfold Exceeds
  rw [same.params, same.initialBalances]

/-- In a run only a transaction with values that a word does not hold stops a call, by induction on
the run.
-/
theorem Run.exceeds {start : Customer} (starts : start.Starts) {history : List CustomerExchange}
    (run : start.Run history customer)
    : ∀ exchange ∈ history, exchange.outcome.Stopped → start.Exceeds exchange.call := by
  induction run with
  | start => simp
  | @call _ customer run call ih =>
      intro exchange member stopped
      rcases List.mem_cons.1 member with rfl | earlier
      · have same := run.sameParty
        have payable : customer.params.fees.MerchantCloseFits :=
          same.params ▸ starts.merchantCloseFits
        exact (same.exceeds call).2 (exceeds_of_stopped payable call stopped)
      · exact ih exchange earlier stopped

end Customer

end PaymentChannel
