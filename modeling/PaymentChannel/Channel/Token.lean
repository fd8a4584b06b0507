import PaymentChannel.Channel.Error

/-! Channel tokens: what ties the keys of both parties to the transactions that fund a channel.
Everything that claims to belong to a channel is compared with its token.
-/

namespace PaymentChannel

/-- A hash that names a channel. -/
structure ChannelId where
  bytes : Bytes 32
deriving DecidableEq

/-- The public keys of a merchant. -/
structure MerchantKeys where
  /-- The key of escrows. -/
  escrow : PublicKey
  /-- The key to which funds are paid. -/
  payout : PublicKey
  /-- The key that takes the funds of revoked states. -/
  dispute : PublicKey
deriving DecidableEq

/-- The transactions that fund a channel, its first balances and its fees. -/
structure FundingInfo where
  escrowTxid : Txid
  escrowPrevout : Prevout
  merchantCloseTxid : Txid
  merchantClosePrevout : Prevout
  customerBalance : Balance
  merchantBalance : Balance
  merchantCloseFee : Sat
  leastFee : Sat
  greatestFee : Sat
deriving DecidableEq

namespace FundingInfo

/-- The escrow, always the first output of its transaction. -/
def escrowOutPoint (funding : FundingInfo) : OutPoint := ⟨funding.escrowTxid, 0⟩

/-- The output of the merchant-close transaction, always its first. -/
def merchantCloseOutPoint (funding : FundingInfo) : OutPoint := ⟨funding.merchantCloseTxid, 0⟩

end FundingInfo

/-- The value of an escrow with the given balances, which has to be an amount. -/
def escrowValue (customer merchant : Balance) : Outcome ChannelError Sat :=
  match Balance.add? customer merchant with
  | some total =>
      if 0 ≤ total then .ok total.toUInt64 else .refuse (.invalidBalance total 0)
  | none =>
      .refuse (.invalidBalance (Balance.clamp (customer.toInt + merchant.toInt)) 0)

/-- The value of the escrow of a funding. -/
def FundingInfo.escrowValue (funding : FundingInfo) : Outcome ChannelError Sat :=
  PaymentChannel.escrowValue funding.customerBalance funding.merchantBalance

/-- The keys and the funding transactions of a channel. -/
structure ChannelToken where
  /-- The customer's key of the escrow. -/
  customerKey : PublicKey
  /-- The merchant's key of the escrow. -/
  merchantKey : PublicKey
  payoutKey : PublicKey
  disputeKey : PublicKey
  escrowTxid : Txid
  escrowPrevout : Prevout
  merchantCloseTxid : Txid
  merchantClosePrevout : Prevout
deriving DecidableEq

namespace ChannelToken

/-- The token of a channel between the given parties with the given funding. -/
def ofFunding (customer : PublicKey) (merchant : MerchantKeys) (funding : FundingInfo)
    : ChannelToken where
  customerKey := customer
  merchantKey := merchant.escrow
  payoutKey := merchant.payout
  disputeKey := merchant.dispute
  escrowTxid := funding.escrowTxid
  escrowPrevout := funding.escrowPrevout
  merchantCloseTxid := funding.merchantCloseTxid
  merchantClosePrevout := funding.merchantClosePrevout

/-- What is hashed into the name of a channel. -/
def preimage (token : ChannelToken) : List UInt8 :=
  token.customerKey.toBytes.toList ++ token.merchantKey.toBytes.toList
    ++ token.payoutKey.toBytes.toList ++ token.disputeKey.toBytes.toList
    ++ token.escrowTxid.bytes.toList ++ token.escrowPrevout.bytes.toList
    ++ token.merchantCloseTxid.bytes.toList ++ token.merchantClosePrevout.bytes.toList

/-- The name of the channel. -/
def channelId (token : ChannelToken) : ChannelId :=
  ⟨sha256 token.preimage⟩

/-- The escrow. -/
def escrowOutPoint (token : ChannelToken) : OutPoint := ⟨token.escrowTxid, 0⟩

/-- The output of the merchant-close transaction. -/
def merchantCloseOutPoint (token : ChannelToken) : OutPoint := ⟨token.merchantCloseTxid, 0⟩

/-- The output that a customer-close transaction of a source spends. -/
def outPoint (token : ChannelToken) : CloseSource → OutPoint
  | .escrow => token.escrowOutPoint
  | .merchantClose => token.merchantCloseOutPoint

/-- The keys of the merchant. -/
def merchantKeys (token : ChannelToken) : MerchantKeys :=
  ⟨token.merchantKey, token.payoutKey, token.disputeKey⟩

/-- The keys of close transactions that pay the customer to the given key. -/
def closingKeys (token : ChannelToken) (close : PublicKey) : ClosingKeys where
  merchant := token.merchantKey
  customer := token.customerKey
  payout := token.payoutKey
  dispute := token.disputeKey
  close := close

-----------------------------------------------------------------------------------------
-- Close transactions of the channel
-----------------------------------------------------------------------------------------

/-- The customer-close transaction of a state. -/
def customerCloseTx (token : ChannelToken) (source : CloseSource) (state : ChannelState)
    (close : PublicKey) (params : ChannelParams)
    : Outcome TemplateError SignableTx := do
  PaymentChannel.customerCloseTx source (token.outPoint source) (← state.balances) state.lock
    (token.closingKeys close) params.selfDelay params.fees params.dustLimit

/-- The merchant-close transaction of an escrow of the given value. The customer's close key does
not occur in it.
-/
def merchantCloseTx (token : ChannelToken) (escrowValue : Sat) (params : ChannelParams)
    : Outcome TemplateError SignableTx :=
  PaymentChannel.merchantCloseTx token.escrowOutPoint escrowValue
    (token.closingKeys token.customerKey) params.selfDelay params.fees params.dustLimit

-----------------------------------------------------------------------------------------
-- Comparisons with the token
-----------------------------------------------------------------------------------------

/-- Checks that the channel is one of the merchant with the given keys. -/
def checkMerchant (token : ChannelToken) (keys : MerchantKeys) : Outcome ChannelError Unit := do
  .ensure (token.merchantKey = keys.escrow) (.tokenMismatch .merchantKey)
  .ensure (token.payoutKey = keys.payout) (.tokenMismatch .payoutKey)
  .ensure (token.disputeKey = keys.dispute) (.tokenMismatch .disputeKey)

/-- Checks that a state is one of the channel. -/
def checkState (token : ChannelToken) (state : ChannelState) : Outcome ChannelError Unit := do
  .ensure (state.customerKey = token.customerKey) (.tokenMismatch .customerKey)
  .ensure (state.merchantKey = token.merchantKey) (.tokenMismatch .merchantKey)
  .ensure (state.escrowTxid = token.escrowTxid ∧ state.escrowPrevout = token.escrowPrevout)
    (.tokenMismatch .escrowTx)
  .ensure
    (state.merchantCloseTxid = token.merchantCloseTxid
      ∧ state.merchantClosePrevout = token.merchantClosePrevout)
    (.tokenMismatch .merchantCloseTx)

end ChannelToken

end PaymentChannel
