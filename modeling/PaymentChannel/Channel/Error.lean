import PaymentChannel.Ledger
import PaymentChannel.Masking
import PaymentChannel.Params

/-! Why an operation of a party is refused, and what its caller can do about it. -/

namespace PaymentChannel

/-- What differs between some data and the token of its channel. -/
inductive TokenMismatch
  | customerKey
  | merchantKey
  | payoutKey
  | disputeKey
  | escrowTx
  | merchantCloseTx
  | fundingTxs
  | initialBalances
  | feeParameters
deriving DecidableEq

/-- The name of the difference in messages. -/
def TokenMismatch.label : TokenMismatch → String
  | .customerKey => "customer key"
  | .merchantKey => "merchant escrow key"
  | .payoutKey => "merchant payout key"
  | .disputeKey => "merchant dispute key"
  | .escrowTx => "escrow transaction"
  | .merchantCloseTx => "merch-close transaction"
  | .fundingTxs => "funding transactions"
  | .initialBalances => "initial balances"
  | .feeParameters => "fee parameters"

/-- Why a party refuses an operation. -/
inductive ChannelError
  | keyGeneration
  | invalidBalance (balance minimum : Balance)
  | insufficientBalance (amount balance minimum : Balance)
  | params (reason : ParamsError)
  | template (reason : TemplateError)
  | signatureVerification (kind : TxKind)
  | tokenMismatch (difference : TokenMismatch)
  | nonceReused (nonce : Nonce)
  | invalidRevocationProof
  | initialStateMismatch
  | payTokenMaskMismatch
  | negativePaymentRejected (amount : Balance)
  | service (reason : ServiceError)
  | ledger (reason : LedgerError)
  | stageMismatch (current : Stage) (required : List Stage)
  | statusMismatch (current required : ChannelStatus)
  | sessionMismatch (current required : PaymentStatus)
  | unknownChannel (escrow : Txid)
  | unknownSession (session : SessionId)
  | roundInProgress
  | noPendingRound
  | roundCommitted
  | missingPayToken
  | merchantUntrusted
  | unrecognizedCloseTx
deriving DecidableEq

namespace ChannelError

/-- What is told about the error. -/
def message : ChannelError → String
  | .keyGeneration =>
      "unable to generate channel keys: malformed or out-of-range secret key"
  | .invalidBalance balance minimum =>
      s!"channel balance of {balance} sat is invalid: it must be at least {minimum} sat and "
        ++ "the channel total must fit a bitcoin amount"
  | .insufficientBalance amount balance minimum =>
      s!"payment of {amount} sat can't be made from the balance of {balance} sat since at "
        ++ s!"least {minimum} sat must remain in the channel"
  | .params reason => "invalid channel parameters: " ++ reason.message
  | .template reason => "transaction template error: " ++ reason.message
  | .signatureVerification kind =>
      s!"signature provided for the {kind.label} transaction does not validate against its "
        ++ "sighash"
  | .tokenMismatch difference =>
      s!"data does not match the channel token: wrong {difference.label}"
  | .nonceReused nonce => s!"nonce {nonce.text} was already used"
  | .invalidRevocationProof =>
      "revealed revocation secret does not open the committed revocation lock"
  | .initialStateMismatch => "initial customer state does not match its announced hash"
  | .payTokenMaskMismatch =>
      "pay token mask does not open the commitment provided by the merchant; the merchant "
        ++ "can't be trusted and the channel must be closed"
  | .negativePaymentRejected amount =>
      s!"negative payment of {amount} sat is not allowed by the merchant policy"
  | .service reason => "payment token service failure: " ++ reason.message
  | .ledger reason => "revocation ledger failure: " ++ reason.message
  | .stageMismatch current _ =>
      s!"channel is in a state {current.label} incompatible with the requested operation"
  | .statusMismatch current required =>
      s!"channel has status {current.label} while {required.label} is required for the "
        ++ "operation"
  | .sessionMismatch current required =>
      s!"payment session has status {current.label} while {required.label} is required for "
        ++ "the operation"
  | .unknownChannel escrow =>
      s!"channel with escrow transaction {escrow.text} is not known"
  | .unknownSession session => s!"payment session {session.text} is not known"
  | .roundInProgress => "another payment round is already in progress for the channel"
  | .noPendingRound =>
      "there is no payment round in progress or it is at a different step"
  | .roundCommitted =>
      "previous state is already revoked; the payment round can't be aborted and must be "
        ++ "completed"
  | .missingPayToken => "channel has no valid pay token; payments are not possible"
  | .merchantUntrusted =>
      "the merchant has misbehaved earlier; the channel must be closed"
  | .unrecognizedCloseTx =>
      "transaction is not a customer-close transaction of a zkChannel"

end ChannelError

/-- How a caller should take an error. -/
inductive ErrorKind
  /-- The request was wrong and had no effect. -/
  | validation
  /-- The other party broke the protocol; no mask and no token is released. -/
  | protocolViolation
  /-- The masking service failed; the payment can be tried again. -/
  | external
  /-- The ledger failed; the revocation can be tried again. -/
  | ledger
deriving DecidableEq

/-- The name of a kind. -/
def ErrorKind.label : ErrorKind → String
  | .validation => "validation"
  | .protocolViolation => "protocol-violation"
  | .external => "external"
  | .ledger => "ledger"

/-- The kind of an error. -/
def ChannelError.kind : ChannelError → ErrorKind
  | .nonceReused _ | .invalidRevocationProof | .initialStateMismatch | .payTokenMaskMismatch =>
      .protocolViolation
  | .service _ => .external
  | .ledger _ => .ledger
  | _ => .validation

/-- Whether the same request may be made again without any change. -/
def ChannelError.isRecoverable (error : ChannelError) : Bool :=
  error.kind = .external || error.kind = .ledger

end PaymentChannel
