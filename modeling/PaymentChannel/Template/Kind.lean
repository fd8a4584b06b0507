import PaymentChannel.Amount

/-! The kinds of channel transactions and the reasons why one can't be formed. -/

namespace PaymentChannel

/-- The transactions in the life of a channel. -/
inductive TxKind
  | escrow
  | merchantClose
  | customerCloseFromEscrow
  | customerCloseFromMerchantClose
  | customerClaim
  | merchantClaim
  | merchantClaimToMerchant
  | dispute
deriving DecidableEq

namespace TxKind

/-- All kinds of transactions. -/
def all : List TxKind :=
  [.escrow, .merchantClose, .customerCloseFromEscrow, .customerCloseFromMerchantClose,
    .customerClaim, .merchantClaim, .merchantClaimToMerchant, .dispute]

/-- The name of a kind in messages. -/
def label : TxKind → String
  | .escrow => "escrow"
  | .merchantClose => "merch-close"
  | .customerCloseFromEscrow => "cust-close-from-escrow"
  | .customerCloseFromMerchantClose => "cust-close-from-merch-close"
  | .customerClaim => "cust-claim"
  | .merchantClaim => "merch-claim"
  | .merchantClaimToMerchant => "merch-claim-to-merchant"
  | .dispute => "dispute"

end TxKind

/-- The output that a customer-close transaction spends. -/
inductive CloseSource
  | escrow
  | merchantClose
deriving DecidableEq

namespace CloseSource

/-- Both sources. -/
def all : List CloseSource := [.escrow, .merchantClose]

/-- The name of a source in messages. -/
def label : CloseSource → String
  | .escrow => "escrow"
  | .merchantClose => "merch-close"

/-- The kind of the customer-close transaction that spends the output. -/
def closeKind : CloseSource → TxKind
  | .escrow => .customerCloseFromEscrow
  | .merchantClose => .customerCloseFromMerchantClose

end CloseSource

/-- Why a transaction can't be formed, signed or read. -/
inductive TemplateError
  | feeOutOfBounds (kind : TxKind) (fee least greatest : Sat)
  | invalidFeeBounds (least greatest : Sat)
  | outputBelowDust (kind : TxKind) (value dustLimit : Sat)
  | insufficientValue (kind : TxKind) (available required : Sat)
  | negativeValue (balance : Balance)
  | invalidSignature (kind : TxKind)
  | noRevocationOutput
  | malformedRevocationOutput
deriving DecidableEq

/-- What is told about the error. -/
def TemplateError.message : TemplateError → String
  | .feeOutOfBounds kind fee least greatest =>
      s!"{kind.label} transaction fee of {fee} sat is outside of the allowed bounds "
        ++ s!"[{least}, {greatest}]"
  | .invalidFeeBounds least greatest =>
      s!"fee bounds are inconsistent: minimum fee {least} exceeds maximum fee {greatest}"
  | .outputBelowDust kind value dustLimit =>
      s!"{kind.label} transaction output of {value} sat is below the dust limit of "
        ++ s!"{dustLimit} sat"
  | .insufficientValue kind available required =>
      s!"{kind.label} transaction can't be funded: {available} sat available while "
        ++ s!"{required} sat is required"
  | .negativeValue balance =>
      s!"negative balance {balance} sat can't be used as a transaction output value"
  | .invalidSignature kind =>
      s!"signature for the {kind.label} transaction does not match its sighash and the "
        ++ "provided public key"
  | .noRevocationOutput => "transaction does not contain zkChannels revocation output"
  | .malformedRevocationOutput =>
      "revocation output has a wrong structure and can't be parsed"

end PaymentChannel
