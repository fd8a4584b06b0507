import PaymentChannel.Proofs.Curve.Ecdsa
import PaymentChannel.Proofs.Customer.Steps
import PaymentChannel.Proofs.Template

/-! A customer can close its channel with the current state at any time.
The signatures that are kept beside a state were checked for the transactions of that state, and so
were those of the next state before the customer moves to it.
-/

namespace PaymentChannel

@[simp] theorem CloseSignatures.of_escrow (escrow merchantClose : Signature)
    : CloseSignatures.of ⟨escrow, merchantClose⟩ .escrow = escrow := rfl

@[simp] theorem CloseSignatures.of_merchantClose (escrow merchantClose : Signature)
    : CloseSignatures.of ⟨escrow, merchantClose⟩ .merchantClose = merchantClose := rfl

namespace Customer

variable {start customer after : Customer} {history : List CustomerExchange}
  {exchange : CustomerExchange}

/-- The stages in which a channel can be closed. -/
def closableStages : List Stage := [.funded, .activated, .ready, .closing]

/-- The current state is signed for both sources, the next one before it becomes the current one,
and both have the value of the first one.
-/
structure Closable (customer : Customer) : Prop where
  signed : customer.stage ∈ closableStages
    → ∃ channel signatures, customer.channel = some channel
      ∧ channel.signatures = some signatures
      ∧ customer.verifySignatures channel.token channel.state signatures = .ok ()
  next : ∀ channel pending signatures masked, customer.channel = some channel
    → customer.pending = some pending → pending.revoked = none
    → pending.unmasked = some (signatures, masked)
    → customer.verifySignatures channel.token pending.new signatures = .ok ()
  total : ∀ channel, customer.channel = some channel
    → channel.state.total
      = customer.initialBalances.1.toInt + customer.initialBalances.2.toInt
  nextTotal : ∀ pending, customer.pending = some pending → pending.revoked = none
    → pending.new.total
      = customer.initialBalances.1.toInt + customer.initialBalances.2.toInt

theorem Closable.starts (starts : start.Starts) : start.Closable := by
  obtain ⟨channel, pending, stage, -⟩ := starts.idle
  refine {
    signed := ?_
    next := ?_
    total := ?_
    nextTotal := ?_ }
  · simp [stage, closableStages]
  · simp [channel]
  · simp [channel]
  · simp [pending]

/-- Every step keeps a channel closable. -/
theorem Closable.step (closable : customer.Closable)
    (idle : customer.stage ≠ .ready → customer.pending = none)
    (step : CustomerStep customer exchange after)
    : after.Closable := by
  obtain ⟨signed, next, total, nextTotal⟩ := closable
  cases step with
  | silent | repeated | distrusted => exact ⟨signed, next, total, nextTotal⟩
  | funded initialized _ _ _ =>
      have none := idle (by simp [initialized])
      refine ⟨?_, ?_, ?_, ?_⟩
      · simp [initialized, closableStages]
      · simp [none]
      · intro channel found
        cases found
        rfl
      · simp [none]
  | @stored _ channel signatures _ initialized found verified =>
      have none := idle (by simp [initialized])
      refine ⟨fun _ => ⟨_, signatures, rfl, rfl, verified⟩, ?_, ?_, ?_⟩
      · simp [none]
      · intro _ now
        cases now
        exact total channel found
      · simp [none]
  | opened _ stage | requested _ stage | activated _ stage =>
      have before := signed (by simp [stage, closableStages])
      exact ⟨fun _ => before, next, total, nextTotal⟩
  | @began _ _ _ channel _ _ _ _ found _ paid _ =>
      refine ⟨signed, ?_, total, ?_⟩
      -- A round that has just begun has no signatures yet.
      · intro _ _ _ _ _ round _ given
        cases round
        cases given
      · intro _ round _
        cases round
        rw [ChannelState.total_pay paid]
        exact total channel found
  | @committed _ pending _ _ _ round unsigned =>
      refine ⟨signed, ?_, total, ?_⟩
      · intro _ _ _ _ _ again _ given
        cases again
        rw [unsigned] at given
        cases given
      · intro _ again unrevoked
        cases again
        exact nextTotal pending round unrevoked
  | @accepted _ _ pending _ _ _ _ found round unrevoked verified =>
      refine ⟨signed, ?_, total, ?_⟩
      · intro _ _ _ _ same again _ given
        cases found.symm.trans same
        cases again
        cases given
        exact verified
      · intro _ again _
        cases again
        exact nextTotal pending round unrevoked
  | @promoted channel pending signatures masked _ _ found round unrevoked given _ =>
      -- The signatures were verified for the state of the round, which is the current one now.
      refine ⟨fun _ => ⟨_, signatures, rfl, rfl, ?_⟩, ?_, ?_, ?_⟩
      · exact next channel pending signatures masked found round unrevoked given
      · intro _ _ _ _ _ again unrevoked _
        cases again
        cases unrevoked
      · intro _ now
        cases now
        exact nextTotal pending round unrevoked
      · intro _ again unrevoked
        cases again
        cases unrevoked
  | finished | mistaken | aborted =>
      refine ⟨signed, ?_, total, ?_⟩
      · intro _ _ _ _ _ round
        cases round
      · intro _ round
        cases round
  | closed stage =>
      have before := signed stage
      refine ⟨fun _ => before, ?_, total, ?_⟩
      · intro _ _ _ _ _ round
        cases round
      · intro _ round
        cases round
  | ended _ closing past =>
      refine ⟨?_, next, total, nextTotal⟩
      intro stage
      rcases past with ⟨rfl, -⟩ | ⟨rfl, -⟩
      · simp [closableStages] at stage
      · simp [closableStages] at stage

/-- The signatures of an honest merchant are accepted. -/
theorem verifySignatures_of_sign {token : ChannelToken} {state : ChannelState}
    {key : SecretKey} {escrow merchantClose : SignableTx}
    (fits : token.merchantKey = key.publicKey)
    (fromEscrow : token.customerCloseTx .escrow state customer.closeKey customer.params
      = .ok escrow)
    (fromMerchantClose : token.customerCloseTx .merchantClose state customer.closeKey
      customer.params = .ok merchantClose)
    : customer.verifySignatures token state ⟨escrow.sign key, merchantClose.sign key⟩ = .ok () := by
  refine verifySignatures_eq_ok.2 fun source => ?_
  rw [fits]
  cases source with
  | escrow =>
      rw [CloseSignatures.of_escrow]
      exact ⟨escrow, fromEscrow, escrow.verifies_sign key⟩
  | merchantClose =>
      rw [CloseSignatures.of_merchantClose]
      exact ⟨merchantClose, fromMerchantClose, merchantClose.verifies_sign key⟩

/-- A channel is closable in every run, by induction on the run. -/
theorem Closable.run (starts : start.Starts) (run : start.Run history customer)
    : customer.Closable := by
  induction run with
  | start => exact .starts starts
  | @call _ customer run call closable =>
      exact closable.step (run.idle starts) (customer.step call)

/-- The funding of a channel was sent to the merchant, by induction on the run. -/
theorem Run.funding (starts : start.Starts) (run : start.Run history customer)
    : ∀ channel, customer.channel = some channel
      → ∃ source signature,
        ⟨.fund source, .ok ⟨channel.token, channel.funding, signature⟩⟩ ∈ history := by
  induction run with
  | start =>
      intro channel found
      rw [starts.idle.1] at found
      cases found
  | @call _ customer run call funding =>
      have step := customer.step call
      generalize customer.exchange call = exchange, customer.after call = after at step
      intro channel found
      cases step with
      | funded =>
          cases found
          exact ⟨_, _, List.mem_cons_self⟩
      | stored _ _ was | promoted _ was =>
          cases found
          obtain ⟨source, signature, sent⟩ := funding _ was
          exact ⟨source, signature, List.mem_cons_of_mem _ sent⟩
      | _ =>
          obtain ⟨source, signature, sent⟩ := funding channel found
          exact ⟨source, signature, List.mem_cons_of_mem _ sent⟩

section Example

-- Unification would compute keys and hashes where comparing their arguments is enough.
attribute [local irreducible] SecretKey.publicKey SignableTx.txid SignableTx.sign
  SignableTx.verifies sha256 hmacSha256

/-- The secret key one, which all parties of the example have. -/
def soleKey : SecretKey := .one

def soleKeys : MerchantKeys := ⟨soleKey.publicKey, soleKey.publicKey, soleKey.publicKey⟩

/-- A customer that starts with this key. -/
def patron : Customer :=
  fresh .default soleKeys (10000, 10000) "patron" soleKey soleKey (.first (.ofNat 8 0))
    ⟨.ofNat 32 0x10000000000000000⟩

theorem init_patron
    : (init .default soleKeys 10000 10000 "patron").outcome (.ofBlocks fun _ => .ofNat 32 1)
      = .ok patron := by
  refine init_eq_ok.2 ⟨rfl, (10000, 10000), rfl, soleKey, ?_, soleKey, ?_, rfl⟩
  all_goals decide +kernel

theorem patron_starts : patron.Starts :=
  ⟨.default, soleKeys, 10000, 10000, "patron", .ofBlocks fun _ => .ofNat 32 1, init_patron⟩

/-- The merchant-close transaction of the channel. -/
def patronMerchantClose : SignableTx where
  kind := .merchantClose
  spent := ⟨⟨.ofNat 32 7⟩, 0⟩
  sequence := finalSequence
  outputs :=
    ⟨18000, .payToScript (.merchantClose soleKey.publicKey soleKey.publicKey
      soleKey.publicKey defaultSelfDelay)⟩ :: anchorOutput .default soleKey.publicKey
  scriptCode := .escrow soleKey.publicKey soleKey.publicKey
  inputValue := 20000

def patronFunding : FundingInfo where
  escrowTxid := ⟨.ofNat 32 7⟩
  escrowPrevout := ⟨.ofNat 32 8⟩
  merchantCloseTxid := patronMerchantClose.txid
  merchantClosePrevout := ⟨.ofNat 32 9⟩
  customerBalance := 10000
  merchantBalance := 10000
  merchantCloseFee := 1000
  leastFee := 0
  greatestFee := 10000

def patronToken : ChannelToken := .ofFunding soleKey.publicKey soleKeys patronFunding

/-- The customer-close transaction of a state, with what the spent output is worth and what it pays. -/
def patronClose (state : ChannelState) (toCustomer : Sat) : CloseSource → Sat × Sat → SignableTx :=
  fun source (worth, toMerchant) => {
    kind := source.closeKind
    spent := patronToken.outPoint source
    sequence := finalSequence
    outputs :=
      [⟨toCustomer, .payToScript (.toCustomer state.lock soleKey.publicKey soleKey.publicKey
          defaultSelfDelay)⟩,
        ⟨toMerchant, .toKey soleKey.publicKey⟩,
        Publication.output ⟨state.lock, soleKey.publicKey⟩]
        ++ anchorOutput .default soleKey.publicKey
    scriptCode :=
      match source with
      | .escrow => .escrow soleKey.publicKey soleKey.publicKey
      | .merchantClose =>
          .merchantClose soleKey.publicKey soleKey.publicKey soleKey.publicKey defaultSelfDelay
    inputValue := worth }

def patronChannel : FundedChannel where
  token := patronToken
  funding := patronFunding
  state := patron.firstState patronFunding
  escrowTx := none
  signatures := none

/-- The customer takes this funding, whatever fee it names for the merchant-close transaction. -/
theorem fund_patronFunding (merchantCloseFee : Sat)
    : patron.fund (.formed { patronFunding with merchantCloseFee })
      = .ok (⟨patronToken, { patronFunding with merchantCloseFee }, patronMerchantClose.sign soleKey⟩,
        { patron with
          channel := some { patronChannel with funding := { patronFunding with merchantCloseFee } }
          status := .pendingOpen }) := by
  refine fund_eq_ok.2 ⟨rfl, rfl, 20000, rfl, _, none, rfl, patronMerchantClose, ?_, rfl, rfl, rfl⟩
  unfold ChannelToken.merchantCloseTx merchantCloseTx
  rfl

theorem fund_patron
    : patron.serve (.fund (.formed patronFunding))
      = (.ok ⟨patronToken, patronFunding, patronMerchantClose.sign soleKey⟩,
        { patron with channel := some patronChannel, status := .pendingOpen }) :=
  congrArg (Parties.afterwards patron) (fund_patronFunding patronFunding.merchantCloseFee)

/-- The merchant's signatures of the first state. -/
def patronSignatures : CloseSignatures :=
  ⟨(patronClose patronChannel.state 8000 .escrow (20000, 10000)).sign soleKey,
    (patronClose patronChannel.state 8000 .merchantClose (18000, 8000)).sign soleKey⟩

/-- The customer with these signatures. -/
def fundedPatron : Customer :=
  { patron with
    channel := some { patronChannel with signatures := some patronSignatures }
    stage := .funded
    status := .pendingOpen }

theorem fundedPatron_run
    : patron.Run
        [⟨.storeInitialSignatures patronSignatures, .ok ()⟩,
          ⟨.fund (.formed patronFunding),
            .ok ⟨patronToken, patronFunding, patronMerchantClose.sign soleKey⟩⟩]
        fundedPatron := by
  have escrow : patronToken.customerCloseTx .escrow patronChannel.state patron.closeKey .default
      = .ok (patronClose patronChannel.state 8000 .escrow (20000, 10000)) := rfl
  have merchantClose : patronToken.customerCloseTx .merchantClose patronChannel.state
      patron.closeKey .default
      = .ok (patronClose patronChannel.state 8000 .merchantClose (18000, 8000)) := rfl
  have verified : patron.verifySignatures patronToken patronChannel.state patronSignatures
      = .ok () :=
    verifySignatures_of_sign rfl escrow merchantClose
  have funded := Run.answered .start (.fund (.formed patronFunding)) fund_patron
  have stored : Customer.storeInitialSignatures
      { patron with channel := some patronChannel, status := .pendingOpen } patronSignatures
      = .ok ((), fundedPatron) :=
    storeInitialSignatures_eq_ok.2 ⟨rfl, patronChannel, rfl, verified, rfl⟩
  exact funded.kept (.storeInitialSignatures patronSignatures) rfl stored

end Example

end Customer

end PaymentChannel
