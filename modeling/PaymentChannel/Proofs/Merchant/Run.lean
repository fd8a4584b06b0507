import PaymentChannel.Proofs.Ledger
import PaymentChannel.Round

/-! Runs of a merchant: the calls it can be made, in any order, and what it answered.
A run starts from a fresh merchant. Between the calls other writers may record secrets in the
ledger, and the device of the ledger may fail or be mended.
-/

namespace PaymentChannel

-----------------------------------------------------------------------------------------
-- Calls
-----------------------------------------------------------------------------------------

/-- What a merchant can be called for. A call that draws random bytes brings their source. -/
inductive MerchantCall
  | openChannel (request : OpenRequest)
  | signInitial (init : InitialState)
  | validateInitial (init : InitialState) (hash : StateHash)
  | markOpen (escrow : Txid)
  | activate (escrow : Txid) (state : ChannelState)
  | preparePayment (request : PaymentRequest) (source : Entropy)
  | maskingInput (id : SessionId)
  | confirmMasking (id : SessionId) (confirmed : Bool)
  | failSession (id : SessionId)
  | validateRevoked (id : SessionId) (revoked : RevokedState)
  | checkLock (lock : RevLock)
  | dispute (tx : Transaction) (fee : Sat)
  | forceClose (escrow : Txid)
  | claimMerchantClose (escrow : Txid) (fee : Sat)
  | claimOutput (tx : Transaction) (fee : Sat)
  | markClosed (escrow : Txid)

/-- What a call is answered when it is not refused. -/
def MerchantCall.Answer : MerchantCall → Type
  | .openChannel _ | .forceClose _ | .claimMerchantClose _ _ | .claimOutput _ _ => SignedTx
  | .signInitial _ => CloseSignatures
  | .validateInitial _ _ | .markOpen _ | .failSession _ | .markClosed _ => Unit
  | .activate _ _ => PayToken
  | .preparePayment _ _ => PaymentResponse
  | .maskingInput _ => MerchantInput
  | .confirmMasking _ _ => ReleasedMasks
  | .validateRevoked _ _ => PayMaskOpening
  | .checkLock _ => Option RevSecret
  | .dispute _ _ => Option SignedTx

/-- A call and what the merchant made of it. -/
structure MerchantExchange where
  call : MerchantCall
  outcome : Outcome ChannelError call.Answer

/-- A merchant with the ledger it uses. -/
structure Shop where
  merchant : Merchant
  ledger : Ledger

namespace Shop

/-- The outcome of an operation and the shop afterwards, which a refusal leaves as it was. -/
def keep {α : Type} (shop : Shop) (outcome : Outcome ChannelError (α × Merchant))
    : Outcome ChannelError α × Shop :=
  let (answer, merchant) := Parties.afterwards shop.merchant outcome
  (answer, { shop with merchant })

/-- What the merchant makes of a call, and the shop afterwards. -/
def serve (shop : Shop) : (call : MerchantCall) → Outcome ChannelError call.Answer × Shop
  | .openChannel request => shop.keep (shop.merchant.openChannel request)
  | .signInitial init => shop.keep (shop.merchant.signInitial init)
  | .validateInitial init hash => shop.keep (shop.merchant.validateInitial init hash)
  | .markOpen escrow => shop.keep (shop.merchant.markOpen escrow)
  | .activate escrow state => (shop.merchant.activate escrow state, shop)
  | .preparePayment request source =>
      shop.keep ((shop.merchant.preparePayment request).outcome source)
  | .maskingInput id => shop.keep (shop.merchant.maskingInput id)
  | .confirmMasking id confirmed =>
      let (outcome, merchant) := shop.merchant.confirmMasking id confirmed
      (outcome, { shop with merchant })
  | .failSession id => shop.keep (shop.merchant.failSession id)
  | .validateRevoked id revoked =>
      let (outcome, merchant, ledger) := shop.merchant.validateRevoked shop.ledger id revoked
      (outcome, ⟨merchant, ledger⟩)
  | .checkLock lock => (Merchant.checkLock shop.ledger lock, shop)
  | .dispute tx fee => shop.keep (shop.merchant.dispute shop.ledger tx fee)
  | .forceClose escrow => shop.keep (shop.merchant.forceClose escrow)
  | .claimMerchantClose escrow fee => (shop.merchant.claimMerchantClose escrow fee, shop)
  | .claimOutput tx fee => shop.keep (shop.merchant.claimOutput tx fee)
  | .markClosed escrow => shop.keep (shop.merchant.markClosed escrow)

/-- The call with its outcome. -/
def exchange (shop : Shop) (call : MerchantCall) : MerchantExchange :=
  ⟨call, (shop.serve call).1⟩

/-- The shop after a call. -/
def after (shop : Shop) (call : MerchantCall) : Shop := (shop.serve call).2

-----------------------------------------------------------------------------------------
-- Runs
-----------------------------------------------------------------------------------------

/-- The shops that a shop can become, with all exchanges on the way, the latest in front. -/
inductive Run (start : Shop) : List MerchantExchange → Shop → Prop
  | start : Run start [] start
  | call {history : List MerchantExchange} {shop : Shop} (run : Run start history shop)
    (call : MerchantCall)
    : Run start (shop.exchange call :: history) (shop.after call)
  | ledger {history : List MerchantExchange} {shop : Shop} (run : Run start history shop)
    (event : LedgerEvent)
    : Run start history { shop with ledger := event.apply shop.ledger }

/-- A run goes on with another one, by induction on the later run. -/
theorem Run.trans {start shop next : Shop} {history later : List MerchantExchange}
    (run : start.Run history shop) (goes : shop.Run later next)
    : start.Run (later ++ history) next := by
  induction goes with
  | start => exact run
  | call _ call ih => exact ih.call call
  | ledger _ event ih => exact ih.ledger event

/-- A run goes on with a call that is answered. -/
theorem Run.answered {start shop after : Shop} {history : List MerchantExchange}
    (run : start.Run history shop) (call : MerchantCall) {answer : call.Answer}
    (served : shop.serve call = (.ok answer, after))
    : start.Run (⟨call, .ok answer⟩ :: history) after := by
  have next := run.call call
  rwa [exchange, Shop.after, served] at next

/-- A run goes on with the success of an operation that changes nothing when it is refused. -/
theorem Run.kept {start shop : Shop} {history : List MerchantExchange}
    (run : start.Run history shop) (call : MerchantCall)
    {outcome : Outcome ChannelError (call.Answer × Merchant)} {answer : call.Answer}
    {merchant : Merchant} (serves : shop.serve call = shop.keep outcome)
    (succeeded : outcome = .ok (answer, merchant))
    : start.Run (⟨call, .ok answer⟩ :: history) { shop with merchant } := by
  refine run.answered call ?_
  rw [serves, succeeded]
  rfl

/-- What a shop makes of several calls in a row, beside the exchanges it had before. -/
def calls (shop : Shop) (history : List MerchantExchange)
    : List MerchantCall → List MerchantExchange × Shop
  | [] => (history, shop)
  | call :: rest => (shop.after call).calls (shop.exchange call :: history) rest

/-- Several calls in a row are a run, by induction on the calls. -/
theorem Run.calls {start shop : Shop} {history : List MerchantExchange}
    (run : start.Run history shop) (calls : List MerchantCall)
    : start.Run (shop.calls history calls).1 (shop.calls history calls).2 := by
  induction calls generalizing shop history with
  | nil => exact run
  | cons call rest ih => exact ih (run.call call)

/-- A shop that opens: a merchant with fresh keys and any ledger. -/
def Opens (params : ChannelParams) (policy : RefundPolicy) (source : Entropy) (shop : Shop)
    : Prop :=
  (Merchant.init params policy).outcome source = .ok shop.merchant

end Shop

end PaymentChannel
