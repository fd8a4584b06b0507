import PaymentChannel.Template.Kind

/-! The fees of close transactions and the bounds that every fee has to keep. -/

namespace PaymentChannel

/-- Below this value an output is not worth spending, unless other terms are agreed. -/
def defaultDustLimit : Sat := 546

/-- What a channel reserves for its close transactions and what they pay. -/
structure FeeSchedule where
  /-- The customer balance that has to remain in the channel. -/
  customerReserve : Sat
  /-- The merchant balance that has to remain in the channel. -/
  merchantReserve : Sat
  /-- The value of an output by which a child transaction can raise the fee. -/
  anchorValue : Sat
  customerCloseFee : Sat
  merchantCloseFee : Sat
  leastFee : Sat
  greatestFee : Sat
deriving DecidableEq

namespace FeeSchedule

/-- The usual fees. The reserves are five times the dust limit, so an output of a close
transaction stays worth claiming.
-/
def default : FeeSchedule where
  customerReserve := 5 * defaultDustLimit
  merchantReserve := 5 * defaultDustLimit
  anchorValue := 1000
  customerCloseFee := 1000
  merchantCloseFee := 1000
  leastFee := 0
  greatestFee := 10000

/-- The fee, if it lies within the bounds. -/
def checkFee (fees : FeeSchedule) (kind : TxKind) (fee : Sat) : Outcome TemplateError Sat :=
  if fee < fees.leastFee ∨ fees.greatestFee < fee then
    .refuse (.feeOutOfBounds kind fee fees.leastFee fees.greatestFee)
  else .ok fee

/-- Checks that the bounds leave room for a fee and that the fees of close transactions keep them.
-/
def validate (fees : FeeSchedule) : Outcome TemplateError Unit := do
  .ensure (fees.leastFee ≤ fees.greatestFee)
    (.invalidFeeBounds fees.leastFee fees.greatestFee)
  let _ ← fees.checkFee .customerCloseFromEscrow fees.customerCloseFee
  let _ ← fees.checkFee .merchantClose fees.merchantCloseFee

/-- What the merchant-close transaction takes from the value of the escrow. -/
def merchantCloseDeduction {ε : Type} (fees : FeeSchedule) : Outcome ε Sat :=
  Sat.add fees.merchantCloseFee fees.anchorValue

/-- What customer-close transactions take from the balance of the customer. -/
def customerCloseDeduction {ε : Type} (fees : FeeSchedule) : Outcome ε Sat :=
  Sat.add fees.customerCloseFee fees.anchorValue

end FeeSchedule

end PaymentChannel
