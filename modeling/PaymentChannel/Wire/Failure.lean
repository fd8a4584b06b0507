import PaymentChannel.Channel.Error
import PaymentChannel.Wire.Value

/-! How refusals and overflows are written as values.
Every reason has a short name for programs beside its message for people. The reasons of a party also
tell how a caller should take them.
-/

namespace PaymentChannel.Wire

/-- The reasons of refusals that are written as values. -/
class Reason (ε : Type) where
  /-- The name of the reason for programs. -/
  code : ε → String
  message : ε → String
  /-- What else is told to programs. -/
  details : ε → List (String × Value) := fun _ => []

/-- The name of a template error, without the name of its kind. -/
def templateCode : TemplateError → String
  | .feeOutOfBounds .. => "FeeOutOfBounds"
  | .invalidFeeBounds .. => "InvalidFeeBounds"
  | .outputBelowDust .. => "OutputBelowDust"
  | .insufficientValue .. => "InsufficientValue"
  | .negativeValue _ => "NegativeValue"
  | .invalidSignature _ => "InvalidSignature"
  | .noRevocationOutput => "NoRevocationOutput"
  | .malformedRevocationOutput => "MalformedRevocationOutput"

instance : Reason TemplateError where
  code reason := "Tx." ++ templateCode reason
  message := TemplateError.message

instance : Reason ParamsError where
  code
    | .zeroSelfDelay => "Params.ZeroSelfDelay"
    | .dustLimitTooLow .. => "Params.DustLimitTooLow"
    | .reserveBelowDust .. => "Params.MinBalanceBelowDust"
    | .fees reason => "Params.Fees." ++ templateCode reason
  message := ParamsError.message

instance : Reason ServiceError where
  code
    | .timeout _ => "Service.Timeout"
    | .unavailable _ => "Service.Unavailable"
    | .rejected _ => "Service.Rejected"
  message := ServiceError.message

instance : Reason LedgerError where
  code
    | .database _ => "Ledger.Database"
    | .conflict _ => "Ledger.Conflict"
    | .corrupted .. => "Ledger.Corrupted"
  message := LedgerError.message

/-- The name of an error of a party. -/
def channelCode : ChannelError → String
  | .keyGeneration => "KeyGeneration"
  | .invalidBalance .. => "InvalidBalance"
  | .insufficientBalance .. => "InsufficientBalance"
  | .params reason => Reason.code reason
  | .template reason => Reason.code reason
  | .signatureVerification _ => "SignatureVerification"
  | .tokenMismatch _ => "ChannelTokenMismatch"
  | .nonceReused _ => "NonceReused"
  | .invalidRevocationProof => "InvalidRevocationProof"
  | .initialStateMismatch => "InitialStateMismatch"
  | .payTokenMaskMismatch => "PayTokenMaskMismatch"
  | .negativePaymentRejected _ => "NegativePaymentRejected"
  | .service reason => Reason.code reason
  | .ledger reason => Reason.code reason
  | .stageMismatch .. => "LifecycleMismatch"
  | .statusMismatch .. => "ChannelStatusMismatch"
  | .sessionMismatch .. => "SessionStatusMismatch"
  | .unknownChannel _ => "UnknownChannel"
  | .unknownSession _ => "UnknownSession"
  | .roundInProgress => "RoundInProgress"
  | .noPendingRound => "NoPendingRound"
  | .roundCommitted => "RoundCommitted"
  | .missingPayToken => "MissingPayToken"
  | .merchantUntrusted => "MerchantUntrusted"
  | .unrecognizedCloseTx => "UnrecognizedCloseTx"

/-- The stages that an error of a party asks for. -/
def requiredStages : ChannelError → List (String × Value)
  | .stageMismatch _ required => [("required", encode (required.map Stage.label))]
  | _ => []

instance : Reason ChannelError where
  code := channelCode
  message := ChannelError.message
  details error :=
    [("class", encode error.kind.label), ("recoverable", encode error.isRecoverable)]
      ++ requiredStages error

/-- A failure under its name. -/
def namedFailure (code message : String) : Value :=
  .record [("error", .text code), ("message", .text message)]

/-- A refusal as a value. -/
def refusal {ε : Type} [Reason ε] (reason : ε) : Value :=
  .record ([("error", encode (Reason.code reason)), ("message", encode (Reason.message reason))]
    ++ Reason.details reason)

/-- An overflow as a value. -/
def overflow (kind : Overflow) : Value :=
  namedFailure "panic" kind.message

/-- Why an operation gave no answer, as a value. -/
def encodeFailure {ε : Type} [Reason ε] : Failure ε → Value
  | .refused reason => refusal reason
  | .overflow kind => overflow kind

end PaymentChannel.Wire
