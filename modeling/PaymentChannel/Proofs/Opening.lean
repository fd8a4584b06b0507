import PaymentChannel.Proofs.Merchant.ChannelMoves
import PaymentChannel.Proofs.Payment
import PaymentChannel.Proofs.TemplateChain

/-! The opening of a channel between honest parties goes through.
Customer and merchant form the same token, the same first state and the same close transactions, each
from what it knows itself, and so each call of the opening passes the checks of the other party. What
remains to be known is that the first state can be closed.
-/

namespace PaymentChannel

open Customer Merchant

-----------------------------------------------------------------------------------------
-- The calls of an opening
-----------------------------------------------------------------------------------------

/-- Everything that is called for from the registration of a channel to its first payment, in its
order. The escrow comes on the chain after both parties have the first state.
-/
def establish (customer : Customer) (merchant : Merchant)
    : Outcome ChannelError (Customer × Merchant) := do
  let init ← customer.initialState
  let (signatures, merchant) ← merchant.signInitial init
  let (_, customer) ← customer.storeInitialSignatures signatures
  let (_, merchant) ← merchant.validateInitial init init.hash
  let (_, customer) ← customer.markOpen
  let (_, merchant) ← merchant.markOpen init.escrowTxid
  let (state, customer) ← customer.requestActivation
  let token ← merchant.activate init.escrowTxid state
  let (_, customer) ← customer.finishActivation token
  return (customer, merchant)

/-- An opening goes through exactly if all of its calls are answered. -/
theorem establish_eq_ok {customer ready : Customer} {merchant confirmed : Merchant}
    : establish customer merchant = .ok (ready, confirmed)
      ↔ ∃ init, customer.initialState = .ok init
        ∧ ∃ signatures signed, merchant.signInitial init = .ok (signatures, signed)
        ∧ ∃ stored, customer.storeInitialSignatures signatures = .ok ((), stored)
        ∧ ∃ validated, signed.validateInitial init init.hash = .ok ((), validated)
        ∧ ∃ accepted, stored.markOpen = .ok ((), accepted)
        ∧ ∃ marked, validated.markOpen init.escrowTxid = .ok ((), marked)
        ∧ ∃ state activated, accepted.requestActivation = .ok (state, activated)
        ∧ ∃ token, marked.activate init.escrowTxid state = .ok token
        ∧ ∃ finished, activated.finishActivation token = .ok ((), finished)
        ∧ ready = finished ∧ confirmed = marked := by
  simp only [establish, Outcome.bind_eq_ok, Outcome.pure_eq_ok, Prod.exists, Outcome.exists_unit,
    Prod.mk.injEq]

/-- What a customer announces of its channel. -/
def Customer.announcement (customer : Customer) (channel : FundedChannel) : InitialState where
  escrowTxid := channel.funding.escrowTxid
  customerKey := customer.escrowKey
  closeKey := customer.closeKey
  customerBalance := channel.state.customerBalance
  merchantBalance := channel.state.merchantBalance
  nonce := channel.state.nonce
  lock := channel.state.lock

theorem Customer.initialState_eq_ok {customer : Customer} {init : InitialState}
    : customer.initialState = .ok init
      ↔ customer.stage ∈ [.initialized, .funded]
        ∧ ∃ channel, customer.channel = some channel ∧ init = customer.announcement channel := by
  simp only [initialState, announcement, Outcome.bind_eq_ok, Outcome.exists_unit,
    requireStage_eq_ok, requireChannel_eq_ok, Outcome.pure_eq_ok]

namespace Merchant

/-- The announcement that was signed last makes the channel wait for its escrow. -/
theorem validateInitial_setChannel (merchant : Merchant) (channel : MerchantChannel)
    {init : InitialState} (unfunded : channel.status = .unfunded) (signed : channel.init = some init)
    : (merchant.setChannel init.escrowTxid channel).validateInitial init init.hash
      = .ok ((), merchant.setChannel init.escrowTxid { channel with status := .pendingOpen }) :=
  validateInitial_eq_ok.2 ⟨channel, Dict.get?_insert_self _ _ _, unfunded, ⟨signed, rfl⟩,
    (setChannel_setChannel ..).symm⟩

/-- The escrow on the chain opens the channel. -/
theorem markOpen_setChannel (merchant : Merchant) (escrow : Txid) (channel : MerchantChannel)
    (waits : channel.status = .pendingOpen)
    : (merchant.setChannel escrow channel).markOpen escrow
      = .ok ((), merchant.setChannel escrow { channel with status := .confirmed }) :=
  markOpen_eq_ok.2 ⟨channel, Dict.get?_insert_self _ _ _, waits, (setChannel_setChannel ..).symm⟩

end Merchant

/-- These are the signatures of a key on the close transactions of a state. -/
def CloseSignatures.SignedBy (signatures : CloseSignatures) (secret : SecretKey)
    (token : ChannelToken) (state : ChannelState) (closeKey : PublicKey) (params : ChannelParams)
    : Prop :=
  ∀ source, ∃ close, token.customerCloseTx source state closeKey params = .ok close
    ∧ signatures.of source = close.sign secret

/-- If the close transactions of a state can be formed, a key can sign them. -/
theorem CloseSignatures.exists_signedBy {token : ChannelToken} {state : ChannelState}
    {closeKey : PublicKey} {params : ChannelParams}
    (closes : ∀ source, ∃ close, token.customerCloseTx source state closeKey params = .ok close)
    (secret : SecretKey)
    : ∃ signatures : CloseSignatures,
      signatures.SignedBy secret token state closeKey params := by
  obtain ⟨escrow, fromEscrow⟩ := closes .escrow
  obtain ⟨merchantClose, fromMerchantClose⟩ := closes .merchantClose
  refine ⟨⟨escrow.sign secret, merchantClose.sign secret⟩, fun source => ?_⟩
  cases source with
  | escrow => exact ⟨escrow, fromEscrow, of_escrow _ _⟩
  | merchantClose => exact ⟨merchantClose, fromMerchantClose, of_merchantClose _ _⟩

/-- A customer that was funded and a merchant that registered the channel, which agree on all that
the opening rests on.
-/
structure Prospect (customer : Customer) (channel : FundedChannel) (merchant : Merchant)
    (registered : MerchantChannel) : Prop where
  stage : customer.stage = .initialized
  status : customer.status = .pendingOpen
  idle : customer.pending = none
  trusted : customer.merchantTrusted = true
  found : customer.channel = some channel
  known : merchant.channels.get? channel.funding.escrowTxid = some registered
  unfunded : registered.status = .unfunded
  token : registered.token = channel.token
  funding : registered.funding = channel.funding
  params : customer.params = merchant.params
  issuer : channel.token.checkMerchant merchant.keys = .ok ()
  signer : merchant.escrowSecret.publicKey = merchant.keys.escrow
  customerKey : channel.token.customerKey = customer.escrowKey
  fits : channel.token.checkState channel.state = .ok ()
  customerBalance : channel.state.customerBalance = channel.funding.customerBalance
  merchantBalance : channel.state.merchantBalance = channel.funding.merchantBalance
  lock : channel.state.lock = customer.secret.lock

namespace Prospect

variable {customer : Customer} {channel : FundedChannel} {merchant : Merchant}
  {registered : MerchantChannel} {signatures : CloseSignatures}

/-- The merchant derives the state of the customer from the announcement. -/
theorem state_announcement (prospect : Prospect customer channel merchant registered)
    : (customer.announcement channel).state channel.token = channel.state := by
  obtain ⟨customerKey, merchantKey, ⟨escrow, escrowPrevout⟩, close, closePrevout⟩ :=
    ChannelToken.checkState_eq_ok.1 prospect.fits
  rw [prospect.customerKey] at customerKey
  simp only [InitialState.state, announcement, ← customerKey, ← merchantKey, ← escrow,
    ← escrowPrevout, ← close, ← closePrevout]

/-- The customer when it has the signatures of its first state. -/
def stored (customer : Customer) (channel : FundedChannel) (signatures : CloseSignatures)
    : Customer :=
  { customer with
    channel := some { channel with signatures := some signatures }
    stage := .funded }

/-- The customer whose channel is open. -/
def opened (customer : Customer) (channel : FundedChannel) (signatures : CloseSignatures)
    (token : PayToken)
    : Customer :=
  { customer with
    channel := some { channel with signatures := some signatures }
    payToken := some token
    stage := .ready
    status := .confirmed }

/-- The record of the channel when it is open. -/
def record (customer : Customer) (channel : FundedChannel) (registered : MerchantChannel)
    : MerchantChannel :=
  { registered with init := some (customer.announcement channel), status := .confirmed }

/-- The merchant signs the close transactions of the announced state. -/
theorem signInitial_eq (prospect : Prospect customer channel merchant registered)
    (signs : signatures.SignedBy merchant.escrowSecret channel.token channel.state
      customer.closeKey merchant.params)
    : merchant.signInitial (customer.announcement channel)
      = .ok (signatures, merchant.setChannel channel.funding.escrowTxid
        { registered with init := some (customer.announcement channel) }) := by
  have signed : ∀ source, merchant.signClose registered.token source
      ((customer.announcement channel).state registered.token)
      (customer.announcement channel).closeKey = .ok (signatures.of source) := by
    intro source
    rw [prospect.token, prospect.state_announcement]
    exact signClose_eq_ok.2 (signs source)
  refine signInitial_eq_ok.2 ⟨registered, prospect.known, prospect.unfunded, ?_, ⟨?_, ?_⟩, _,
    signed .escrow, _, signed .merchantClose, rfl, rfl⟩
  · rw [prospect.token, prospect.customerKey]
    rfl
  · rw [prospect.funding]
    exact prospect.customerBalance
  · rw [prospect.funding]
    exact prospect.merchantBalance

/-- The customer accepts these signatures. -/
theorem storeInitialSignatures_eq (prospect : Prospect customer channel merchant registered)
    (signs : signatures.SignedBy merchant.escrowSecret channel.token channel.state
      customer.closeKey merchant.params)
    : customer.storeInitialSignatures signatures
      = .ok ((), stored customer channel signatures) := by
  have verified : customer.verifySignatures channel.token channel.state signatures = .ok () := by
    refine verifySignatures_eq_ok.2 fun source => ?_
    obtain ⟨close, formed, signature⟩ := signs source
    obtain ⟨merchantKey, -, -⟩ := ChannelToken.checkMerchant_eq_ok.1 prospect.issuer
    rw [← prospect.params] at formed
    refine ⟨close, formed, ?_⟩
    rw [signature, merchantKey, ← prospect.signer]
    exact close.verifies_sign merchant.escrowSecret
  exact storeInitialSignatures_eq_ok.2 ⟨prospect.stage, channel, prospect.found, verified, rfl⟩

/-- The merchant issues the first pay token for the state of the customer. -/
theorem activate_eq (prospect : Prospect customer channel merchant registered)
    (unspent : merchant.spentNonces.get? channel.state.nonce = none)
    : (merchant.setChannel channel.funding.escrowTxid (record customer channel registered)).activate
        channel.funding.escrowTxid channel.state
      = .ok (.compute merchant.hmacKey channel.state) := by
  refine activate_eq_ok.2 ⟨_, Dict.get?_insert_self _ _ _, rfl, ?_, ?_,
    Dict.contains_eq_false_iff.2 unspent, rfl⟩
  · rw [record, prospect.token]
    exact prospect.fits
  · rw [record, prospect.token, Option.map_some, prospect.state_announcement]

/-- Parties that agree bring the opening to its end, call by call, if the first state can be closed
and its nonce is not used up.
-/
theorem establishes (prospect : Prospect customer channel merchant registered)
    (closes : ∀ source, ∃ close, channel.token.customerCloseTx source channel.state
      customer.closeKey merchant.params = .ok close)
    (unspent : merchant.spentNonces.get? channel.state.nonce = none)
    : ∃ signatures, establish customer merchant
      = .ok (opened customer channel signatures (.compute merchant.hmacKey channel.state),
        merchant.setChannel channel.funding.escrowTxid (record customer channel registered)) := by
  obtain ⟨signatures, signs⟩ := CloseSignatures.exists_signedBy closes merchant.escrowSecret
  have announces : customer.initialState = .ok (customer.announcement channel) :=
    initialState_eq_ok.2 ⟨by simp [prospect.stage], channel, prospect.found, rfl⟩
  have validates := validateInitial_setChannel merchant
    { registered with init := some (customer.announcement channel) } prospect.unfunded rfl
  have confirms := markOpen_setChannel merchant channel.funding.escrowTxid
    { registered with
      init := some (customer.announcement channel)
      status := .pendingOpen } rfl
  exact ⟨signatures, establish_eq_ok.2 ⟨_, announces, _, _, prospect.signInitial_eq signs, _,
    prospect.storeInitialSignatures_eq signs, _, validates, _,
    Customer.markOpen_eq_ok.2 ⟨rfl, prospect.status, rfl⟩, _, confirms, _, _,
    requestActivation_eq_ok.2 ⟨rfl, rfl, _, rfl, rfl, rfl⟩, _, prospect.activate_eq unspent, _,
    finishActivation_eq_ok.2 ⟨rfl, rfl⟩, rfl, rfl⟩⟩

/-- When the channel is open the parties agree on all that a payment rests on. -/
theorem concord (prospect : Prospect customer channel merchant registered)
    : Concord (opened customer channel signatures (.compute merchant.hmacKey channel.state))
        { channel with signatures := some signatures }
        (merchant.setChannel channel.funding.escrowTxid (record customer channel registered)) where
  ready := rfl
  idle := prospect.idle
  trusted := prospect.trusted
  found := rfl
  payToken := rfl
  params := prospect.params
  issuer := prospect.issuer
  signer := prospect.signer
  fits := prospect.fits
  lock := prospect.lock

end Prospect

-----------------------------------------------------------------------------------------
-- From the funding to the registration
-----------------------------------------------------------------------------------------

/-- The funding of a channel whose escrow and merchant-close transaction are formed from an output. -/
def Customer.formedFunding (customer : Customer) (escrow close : Txid) : FundingInfo where
  escrowTxid := escrow
  escrowPrevout := OutPoint.prevout ⟨escrow, 0⟩
  merchantCloseTxid := close
  merchantClosePrevout := OutPoint.prevout ⟨close, 0⟩
  customerBalance := customer.initialBalances.1
  merchantBalance := customer.initialBalances.2
  merchantCloseFee := customer.params.fees.merchantCloseFee
  leastFee := customer.params.fees.leastFee
  greatestFee := customer.params.fees.greatestFee

/-- A funding is formed from an output exactly if the escrow can be formed and signed and the
merchant-close transaction formed for it.
-/
theorem Customer.chooseFunding_utxo {customer : Customer} {value fee : Sat} {utxo : FundingUtxo}
    {key : SecretKey} {changeKey : PublicKey} {funding : FundingInfo} {escrowTx : Option SignedTx}
    : customer.chooseFunding value (.utxo utxo key changeKey fee) = .ok (funding, escrowTx)
      ↔ ∃ escrow, EscrowTx.form utxo customer.merchantKeys.escrow customer.escrowKey value changeKey
          fee customer.params.fees customer.params.dustLimit = .ok escrow
        ∧ ∃ signed, escrow.sign key = .ok signed
        ∧ ∃ close, merchantCloseTx ⟨signed.txid, 0⟩ value customer.closingKeys
          customer.params.selfDelay customer.params.fees customer.params.dustLimit = .ok close
        ∧ funding = customer.formedFunding signed.txid close.txid
        ∧ escrowTx = some signed := by
  simp only [chooseFunding, formFunding, formedFunding, Outcome.bind_eq_ok, Outcome.mapRefusal_eq_ok,
    Outcome.pure_eq_ok, Prod.exists, Prod.mk.injEq]
  grind

/-- A funding that was formed elsewhere is taken as it is, if it has the customer's first balances. -/
theorem Customer.chooseFunding_formed {customer : Customer} {value : Sat} {given funding : FundingInfo}
    {escrowTx : Option SignedTx}
    : customer.chooseFunding value (.formed given) = .ok (funding, escrowTx)
      ↔ (given.customerBalance = customer.initialBalances.1
          ∧ given.merchantBalance = customer.initialBalances.2)
        ∧ funding = given ∧ escrowTx = none := by
  simp only [chooseFunding, Outcome.bind_eq_ok, Outcome.exists_unit, Outcome.ensure_eq_ok,
    Outcome.pure_eq_ok, Prod.mk.injEq]

/-- The customer's form of the merchant-close transaction is the one of the token, although its keys
name the close key of the customer.
-/
theorem Customer.merchantCloseTx_closingKeys (customer : Customer) (funding : FundingInfo)
    (value : Sat)
    : (ChannelToken.ofFunding customer.escrowKey customer.merchantKeys funding).merchantCloseTx value
        customer.params
      = merchantCloseTx ⟨funding.escrowTxid, 0⟩ value customer.closingKeys customer.params.selfDelay
        customer.params.fees customer.params.dustLimit := by
  rw [ChannelToken.merchantCloseTx, merchantCloseTx, merchantCloseTx]
  rfl

/-- A new customer is funded from an output if the transactions can be formed from it. -/
theorem Customer.fund_utxo {customer : Customer} {value fee : Sat} {utxo : FundingUtxo}
    {key : SecretKey} {changeKey : PublicKey} {escrow : EscrowTx} {signed : SignedTx}
    {close : SignableTx} (stage : customer.stage = .initialized) (status : customer.status = .unfunded)
    (worth : escrowValue customer.initialBalances.1 customer.initialBalances.2 = .ok value)
    (formed : EscrowTx.form utxo customer.merchantKeys.escrow customer.escrowKey value changeKey fee
      customer.params.fees customer.params.dustLimit = .ok escrow)
    (signs : escrow.sign key = .ok signed)
    (closes : merchantCloseTx ⟨signed.txid, 0⟩ value customer.closingKeys customer.params.selfDelay
      customer.params.fees customer.params.dustLimit = .ok close)
    : ∃ request funded,
      customer.fund (.utxo utxo key changeKey fee) = .ok (request, funded) := by
  have chosen := chooseFunding_utxo.2 ⟨escrow, formed, signed, signs, close, closes, rfl, rfl⟩
  have token := customer.merchantCloseTx_closingKeys
    (customer.formedFunding signed.txid close.txid) value
  exact ⟨_, _, fund_eq_ok.2 ⟨stage, status, value, worth, _, _, chosen, close, token.trans closes, rfl,
    rfl, rfl⟩⟩

/-- A customer without a channel that has the terms and the keys of a merchant, and balances that leave
both parties what the merchant asks for at least.
-/
structure Newcomer (customer : Customer) (merchant : Merchant) : Prop where
  idle : customer.pending = none
  trusted : customer.merchantTrusted = true
  stage : customer.stage = .initialized
  params : customer.params = merchant.params
  keys : customer.merchantKeys = merchant.keys
  escrowKey : customer.escrowKey = customer.escrowSecret.publicKey
  customerEnough : Balance.ofBits merchant.params.fees.customerReserve
    ≤ customer.initialBalances.1
  merchantEnough : ∃ minimum, (merchant.params.merchantMinimum : Outcome ChannelError Sat) = .ok minimum
    ∧ Balance.ofBits minimum ≤ customer.initialBalances.2

/-- A funding names these fees. -/
def FundingInfo.HasFees (funding : FundingInfo) (fees : FeeSchedule) : Prop :=
  funding.merchantCloseFee = fees.merchantCloseFee ∧ funding.leastFee = fees.leastFee
    ∧ funding.greatestFee = fees.greatestFee

section Registration

-- Unification would compute keys and hashes where comparing their arguments is enough.
attribute [local irreducible] SecretKey.publicKey SignableTx.txid SignableTx.sign
  SignableTx.verifies sha256 hmacSha256

variable {merchant : Merchant} {customerBalance merchantBalance : Balance} {name : String}
  {source : Entropy} {start funded : Customer} {utxo : FundingUtxo} {key : SecretKey}
  {changeKey : PublicKey} {fee : Sat} {choice : FundingSource} {request : OpenRequest}

/-- A customer that starts is a newcomer. -/
theorem Newcomer.of_init
    (starts : (Customer.init merchant.params merchant.keys customerBalance merchantBalance
      name).outcome source = .ok start)
    : Newcomer start merchant := by
  obtain ⟨-, balances, accepted, _, -, _, -, rfl⟩ := Customer.init_eq_ok.1 starts
  simp only [openingBalances, Outcome.bind_eq_ok, Outcome.ensure_eq_ok, Outcome.pure_eq_ok,
    Outcome.exists_unit] at accepted
  obtain ⟨minimum, minimal, customerEnough, merchantEnough, _, -, rfl⟩ := accepted
  exact {
    idle := rfl
    trusted := rfl
    stage := rfl
    params := rfl
    keys := rfl
    escrowKey := rfl
    customerEnough
    merchantEnough := ⟨minimum, minimal, merchantEnough⟩ }

/-- A funding that a customer forms from an output names its own fees. -/
theorem Customer.hasFees_of_fund_utxo
    (funds : start.fund (.utxo utxo key changeKey fee) = .ok (request, funded))
    : request.funding.HasFees start.params.fees := by
  obtain ⟨-, -, _, -, _, _, chosen, _, -, -, rfl, -⟩ := fund_eq_ok.1 funds
  obtain ⟨_, -, _, -, _, -, rfl, -⟩ := chooseFunding_utxo.1 chosen
  exact ⟨rfl, rfl, rfl⟩

/-- A merchant registers a channel that a newcomer funds with the merchant's fees, and then the parties
agree on all that the opening rests on.
-/
theorem Newcomer.registers (newcomer : Newcomer start merchant)
    (funds : start.fund choice = .ok (request, funded))
    (fees : request.funding.HasFees merchant.params.fees)
    (unregistered : ∀ known, merchant.channels.get? request.token.escrowTxid = some known
      → known.status = .unfunded)
    (signer : merchant.escrowSecret.publicKey = merchant.keys.escrow)
    : ∃ channel registered,
      merchant.openChannel request
          = .ok (registered.signedClose,
            merchant.setChannel channel.funding.escrowTxid registered)
        ∧ registered.signedClose.txid = request.token.merchantCloseTxid
        ∧ registered.signedClose.tx.txid = request.token.merchantCloseTxid
        ∧ channel.token = request.token
        ∧ channel.funding.escrowTxid = request.token.escrowTxid
        ∧ Prospect funded channel
          (merchant.setChannel channel.funding.escrowTxid registered) registered := by
  obtain ⟨-, -, value, worth, funding, escrowTx, chosen, close, formed, named, rfl, rfl⟩ :=
    fund_eq_ok.1 funds
  obtain ⟨first, second⟩ := chooseFunding_eq_ok chosen
  rw [newcomer.params] at formed
  have issuer : ChannelToken.checkMerchant (.ofFunding start.escrowKey start.merchantKeys funding)
      merchant.keys = .ok () := by
    rw [newcomer.keys]
    exact ChannelToken.checkMerchant_eq_ok.2 ⟨rfl, rfl, rfl⟩
  have agreed : merchant.checkFunding
      ⟨.ofFunding start.escrowKey start.merchantKeys funding, funding, close.sign start.escrowSecret⟩
      = .ok () := by
    refine checkFunding_eq_ok.2 ⟨issuer, ?_, fees, ?_, ?_⟩
    · rw [newcomer.keys]
      rfl
    · rw [first]
      exact newcomer.customerEnough
    · rw [second]
      exact newcomer.merchantEnough
  have new : merchant.checkUnfunded funding.escrowTxid = .ok () :=
    checkUnfunded_eq_ok.2 unregistered
  -- Both parties compute the value of the escrow from the same balances.
  have total : funding.escrowValue = .ok value := by
    rw [FundingInfo.escrowValue, first, second]
    exact worth
  have verified : close.verifies (close.sign start.escrowSecret) start.escrowKey = true := by
    rw [newcomer.escrowKey]
    exact close.verifies_sign start.escrowSecret
  have signed : ∀ merchantSignature customerSignature,
      (close.finalizeMultisig merchantSignature customerSignature).txid = close.txid :=
    fun _ _ => SignableTx.txid_finalize close _
  -- What the customer keeps of the channel, and what the merchant registers.
  let channel : FundedChannel := {
    token := .ofFunding start.escrowKey start.merchantKeys funding
    funding
    state := start.firstState funding
    escrowTx
    signatures := none }
  let registered : MerchantChannel := {
    token := .ofFunding start.escrowKey start.merchantKeys funding
    funding
    signedClose := close.finalizeMultisig (close.sign merchant.escrowSecret)
      (close.sign start.escrowSecret)
    init := none
    status := .unfunded }
  refine ⟨channel, registered, openChannel_eq_ok.2 ⟨agreed, new, value, total, close, formed, named,
    verified, rfl, rfl⟩, (signed _ _).trans named, (signed _ _).trans named, rfl, rfl, {
      stage := newcomer.stage
      status := rfl
      idle := newcomer.idle
      trusted := newcomer.trusted
      found := rfl
      known := Dict.get?_insert_self _ _ _
      unfunded := rfl
      token := rfl
      funding := rfl
      params := newcomer.params
      issuer := issuer
      signer := signer
      customerKey := rfl
      fits := ChannelToken.checkState_eq_ok.2 ⟨rfl, rfl, ⟨rfl, rfl⟩, rfl, rfl⟩
      customerBalance := first.symm
      merchantBalance := second.symm
      lock := rfl }⟩

/-- The opening of a channel goes through. A customer that starts under the terms and with the keys of
a merchant, and forms the funding from an output of its own, is registered by the merchant as long as
the escrow is new; both then have the same merchant-close transaction. If the first state can be
closed from both sources and its nonce is not used up, every call up to the first pay token is
answered, and the parties agree on all that a payment rests on.
-/
theorem channel_opens {params : ChannelParams} {policy : RefundPolicy} {seed : Entropy}
    {opened shop : Shop} {served : List MerchantExchange} (opens : opened.Opens params policy seed)
    (serves : opened.Run served shop)
    (starts : (Customer.init params shop.merchant.keys customerBalance merchantBalance
      name).outcome source = .ok start)
    (funds : start.fund (.utxo utxo key changeKey fee) = .ok (request, funded))
    (unregistered : shop.merchant.channels.get? request.token.escrowTxid = none)
    : ∃ signed registered, shop.merchant.openChannel request = .ok (signed, registered)
      ∧ signed.txid = request.token.merchantCloseTxid
      ∧ signed.tx.txid = request.token.merchantCloseTxid
      ∧ ∃ init, funded.initialState = .ok init
        ∧ ((∀ source, ∃ close, request.token.customerCloseTx source (init.state request.token)
              init.closeKey params = .ok close)
          → shop.merchant.spentNonces.get? init.nonce = none
          → ∃ ready merchant, establish funded registered = .ok (ready, merchant)
            ∧ ready.state = some (init.state request.token)
            ∧ ready.payToken = some (.compute shop.merchant.hmacKey (init.state request.token))
            ∧ ready.stage = .ready
            ∧ ready.status = .confirmed
            ∧ merchant.channelStatus request.token.escrowTxid = some .confirmed
            ∧ ∃ channel, Concord ready channel merchant) := by
  -- The merchant has kept its terms since it was opened, so the customer starts under these.
  have terms := terms_of_run opens (Standing.run opens serves)
  rw [← terms.1] at starts ⊢
  have newcomer := Newcomer.of_init starts
  have fees := hasFees_of_fund_utxo funds
  rw [newcomer.params] at fees
  have unknown : ∀ known, shop.merchant.channels.get? request.token.escrowTxid = some known
      → known.status = .unfunded :=
    fun known found => by cases unregistered.symm.trans found
  obtain ⟨channel, registered, registers, named, spends, token, escrow, prospect⟩ :=
    newcomer.registers funds fees unknown (KeysFit.run opens serves).escrow
  have announces : funded.initialState = .ok (funded.announcement channel) :=
    initialState_eq_ok.2 ⟨by simp [prospect.stage], channel, prospect.found, rfl⟩
  refine ⟨_, _, registers, named, spends, _, announces, fun closes unspent => ?_⟩
  rw [← token] at closes ⊢
  rw [prospect.state_announcement] at closes ⊢
  obtain ⟨signatures, established⟩ := prospect.establishes closes unspent
  refine ⟨_, _, established, rfl, rfl, rfl, rfl, ?_, _, prospect.concord⟩
  rw [token, ← escrow, channelStatus]
  simp only [setChannel_channels, Dict.get?_insert_self, Option.map_some, Prospect.record]

theorem newcomer_patron : Newcomer patron steadyShop.merchant := .of_init init_patron

/-- An output of the customer that pays for an escrow of 20000 and for its fee. -/
def patronUtxo : FundingUtxo := ⟨⟨⟨.ofNat 32 3⟩, 0⟩, 21000, soleKey.publicKey⟩

theorem fund_patron_utxo
    : ∃ request funded,
      patron.fund (.utxo patronUtxo soleKey soleKey.publicKey 1000) = .ok (request, funded) := by
  have escrow : ∃ escrow, EscrowTx.form patronUtxo patron.merchantKeys.escrow patron.escrowKey 20000
      soleKey.publicKey 1000 patron.params.fees patron.params.dustLimit = .ok escrow
      ∧ escrow.fundingKey = soleKey.publicKey :=
    ⟨_, rfl, rfl⟩
  obtain ⟨escrow, formed, key⟩ := escrow
  have signed : ∃ signed, escrow.sign soleKey = .ok signed := by
    rw [EscrowTx.sign, SignableTx.verify, key,
      Outcome.ensure_of (escrow.signable.verifies_sign soleKey)]
    exact ⟨_, rfl⟩
  obtain ⟨signed, signs⟩ := signed
  have closes : ∃ close, merchantCloseTx ⟨signed.txid, 0⟩ 20000 patron.closingKeys
      patron.params.selfDelay patron.params.fees patron.params.dustLimit = .ok close :=
    ⟨_, rfl⟩
  obtain ⟨close, closes⟩ := closes
  exact fund_utxo rfl rfl rfl formed signs closes

/-- A state with these balances can be closed, whatever its channel. -/
theorem closes_of_balances {state : ChannelState} (customer : state.customerBalance = 10000)
    (merchant : state.merchantBalance = 10000) (token : ChannelToken) (closeKey : PublicKey)
    (source : CloseSource)
    : ∃ close, token.customerCloseTx source state closeKey .default = .ok close := by
  have balances : state.balances = .ok ⟨10000, 10000⟩ := by
    rw [ChannelState.balances, customer, merchant]
    rfl
  cases source with
  | escrow => exact ⟨_, ChannelToken.customerCloseTx_eq_ok.2 ⟨_, balances, rfl⟩⟩
  | merchantClose => exact ⟨_, ChannelToken.customerCloseTx_eq_ok.2 ⟨_, balances, rfl⟩⟩

/-- A channel that the merchant of the example registers is open in the end, and the parties agree. -/
theorem channel_opens_patron
    : steadyShop.Opens .default .reject steadySource
      ∧ ∃ request funded,
        patron.fund (.utxo patronUtxo soleKey soleKey.publicKey 1000) = .ok (request, funded)
        ∧ steadyShop.merchant.channels.get? request.token.escrowTxid = none
        ∧ ∃ signed registered ready merchant channel,
          steadyShop.merchant.openChannel request = .ok (signed, registered)
          ∧ establish funded registered = .ok (ready, merchant)
          ∧ ready.stage = .ready
          ∧ Concord ready channel merchant := by
  obtain ⟨request, funded, funds⟩ := fund_patron_utxo
  obtain ⟨signed, registered, registers, -, -, init, announces, goes⟩ :=
    channel_opens steadyShop_opens .start init_patron funds rfl
  have first : init.customerBalance = 10000 ∧ init.merchantBalance = 10000 := by
    obtain ⟨-, _, found, rfl⟩ := initialState_eq_ok.1 announces
    obtain ⟨-, -, _, -, _, _, -, _, -, -, -, rfl⟩ := fund_eq_ok.1 funds
    cases found
    exact ⟨rfl, rfl⟩
  obtain ⟨ready, merchant, established, -, -, stage, -, -, channel, concord⟩ :=
    goes (closes_of_balances first.1 first.2 _ _) rfl
  exact ⟨steadyShop_opens, request, funded, funds, rfl, signed, registered, ready, merchant, channel,
    registers, established, stage, concord⟩

end Registration

end PaymentChannel
