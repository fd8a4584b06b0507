import PaymentChannel.Message

/-! The masking service: what it computes from the inputs of both parties, and how it is called.
The service checks the new state against the old one and the inputs against each other before it
signs. A caller waits for a limited time and never sees a service fail in any other way than by an
error.
-/

namespace PaymentChannel

-----------------------------------------------------------------------------------------
-- Inputs and results
-----------------------------------------------------------------------------------------

/-- What the customer gives to the service. -/
structure CustomerInput where
  token : ChannelToken
  closeKey : PublicKey
  old : ChannelState
  new : ChannelState
  payToken : PayToken
  /-- The opening of the commitment to the lock of the old state. -/
  blinding : BlindingFactor
  amount : Balance
  commitment : PayMaskCom
deriving DecidableEq

/-- What the merchant gives to the service. -/
structure MerchantInput where
  session : SessionId
  nonce : Nonce
  commitment : RevLockCom
  amount : Balance
  keys : MerchantKeys
  key : SecretKey
  hmacKey : HmacKey
  masks : TxMasks
  opening : PayMaskOpening
  params : ChannelParams
deriving DecidableEq

/-- The inputs of both parties. -/
structure MaskingRequest where
  customer : CustomerInput
  merchant : MerchantInput
deriving DecidableEq

/-- What both parties get from the service. -/
structure MaskingResult where
  customer : MaskedOutputs
  /-- What the merchant is told. -/
  confirmed : Bool
deriving DecidableEq

-----------------------------------------------------------------------------------------
-- The computation
-----------------------------------------------------------------------------------------

namespace MaskingRequest

/-- Goes on if a check passes, and rejects the inputs if it is refused. -/
def accept {ε : Type} (check : Outcome ε Unit) (reason : String) : Outcome String Unit :=
  check.mapRefusal fun _ => reason

/-- Checks both inputs against each other and the new state against the old one. -/
def validate (request : MaskingRequest) : Outcome String Unit := do
  let customer := request.customer
  let merchant := request.merchant
  let fees := merchant.params.fees
  .ensure (merchant.key.publicKey = merchant.keys.escrow)
    "merchant escrow key does not match its secret"
  accept (customer.token.checkMerchant merchant.keys)
    "channel token is issued for a different merchant"
  accept (customer.token.checkState customer.old)
    "channel state does not match channel token"
  accept (customer.token.checkState customer.new)
    "channel state does not match channel token"
  .ensure (PayToken.compute merchant.hmacKey customer.old = customer.payToken)
    "invalid pay token for the old state"
  .ensure (customer.old.nonce = merchant.nonce) "nonce does not match the old state"
  .ensure (merchant.commitment.opensWith customer.old.lock customer.blinding = true)
    "revocation lock commitment does not match old state"
  .ensure (customer.amount = merchant.amount) "payment amount mismatch"
  .ensure (customer.new.nonce = customer.old.nonce.next)
    "new state nonce is not the successor of the old one"
  .ensure (customer.new.customerBalance = (← customer.old.customerBalance.sub customer.amount))
    "new state balances do not reflect the payment"
  .ensure (customer.new.merchantBalance = (← customer.old.merchantBalance.add customer.amount))
    "new state balances do not reflect the payment"
  .ensure
    (Balance.ofBits fees.customerReserve ≤ customer.new.customerBalance
      ∧ Balance.ofBits fees.merchantReserve ≤ customer.new.merchantBalance)
    "new state balances are below channel minimums"
  .ensure (merchant.opening.opens customer.commitment = true)
    "pay token mask does not open the commitment"

/-- The merchant's masked signature of a customer-close transaction of the new state. -/
def maskedSignature (request : MaskingRequest) (source : CloseSource)
    : Outcome String MaskedSignature := do
  let close ← (request.customer.token.customerCloseTx source request.customer.new
    request.customer.closeKey request.merchant.params).mapRefusal TemplateError.message
  return .mask (close.sign request.merchant.key) (request.merchant.masks.of source)

/-- The masked signatures and the masked pay token of the new state. -/
def compute (request : MaskingRequest) : Outcome ServiceError MaskingResult :=
  Outcome.mapRefusal .rejected do
    request.validate
    let escrow ← request.maskedSignature .escrow
    let merchantClose ← request.maskedSignature .merchantClose
    let payToken := MaskedPayToken.mask
      (.compute request.merchant.hmacKey request.customer.new) request.merchant.opening.mask
    return ⟨⟨escrow, merchantClose, payToken⟩, true⟩

end MaskingRequest

-----------------------------------------------------------------------------------------
-- Calls with a time limit
-----------------------------------------------------------------------------------------

/-- What becomes of a call of a service. -/
inductive ServiceCall
  | answered (result : Except ServiceError MaskingResult)
  /-- The worker ended without an answer. -/
  | terminated
  /-- The answer came after the time limit. -/
  | late

/-- A call that ends as a computation does; arithmetic that overflows ends the worker. -/
def ServiceCall.ofOutcome : Outcome ServiceError MaskingResult → ServiceCall
  | .ok result => .answered (.ok result)
  | .error (.refused reason) => .answered (.error reason)
  | .error (.overflow _) => .terminated

/-- A masking service, and how long its callers wait for it. -/
structure ServiceClient where
  service : MaskingRequest → ServiceCall
  /-- The time limit in milliseconds. -/
  timeout : Nat

namespace ServiceClient

/-- How long callers wait unless they decide otherwise. -/
def defaultTimeout : Nat := 30000

/-- The service that computes in the open. -/
def direct (timeout : Nat := defaultTimeout) : ServiceClient where
  service request := .ofOutcome request.compute
  timeout := timeout

/-- Calls the service. -/
def call (client : ServiceClient) (request : MaskingRequest)
    : Except ServiceError MaskingResult :=
  match client.service request with
  | .answered result => result
  | .terminated => .error (.unavailable "service worker has terminated")
  | .late => .error (.timeout client.timeout)

end ServiceClient

end PaymentChannel
