import PaymentChannel.Fees
import PaymentChannel.Bytes

/-! The terms of a channel, on which both parties agree before it is funded. -/

namespace PaymentChannel

/-- The lowest dust limit that nodes of the network relay. -/
def leastDustLimit : Sat := 294

/-- The usual number of blocks by which a party waits for its own funds. -/
def defaultSelfDelay : UInt16 := 1487

/-- The chains on which channels can live. -/
inductive Network
  | bitcoin
  | testnet
  | signet
  | regtest
deriving DecidableEq

/-- The name of a network. -/
def Network.label : Network → String
  | .bitcoin => "bitcoin"
  | .testnet => "testnet"
  | .signet => "signet"
  | .regtest => "regtest"

/-- All networks. -/
def Network.all : List Network := [.bitcoin, .testnet, .signet, .regtest]

/-- The two parties of a channel. -/
inductive Side
  | customer
  | merchant
deriving DecidableEq

/-- The name of a party in messages. -/
def Side.label : Side → String
  | .customer => "customer"
  | .merchant => "merchant"

/-- Why the terms of a channel are not acceptable. -/
inductive ParamsError
  | zeroSelfDelay
  | dustLimitTooLow (dustLimit minimum : Sat)
  | reserveBelowDust (side : Side) (balance dustLimit : Sat)
  | fees (reason : TemplateError)
deriving DecidableEq

/-- What is told about the error. -/
def ParamsError.message : ParamsError → String
  | .zeroSelfDelay => "self-delay must be a non-zero number of blocks"
  | .dustLimitTooLow dustLimit minimum =>
      s!"dust limit of {dustLimit} sat is below the minimal relayable output value of "
        ++ s!"{minimum} sat"
  | .reserveBelowDust side balance dustLimit =>
      s!"minimal {side.label} balance of {balance} sat is below the dust limit of "
        ++ s!"{dustLimit} sat"
  | .fees reason => s!"invalid fee configuration: " ++ reason.message

/-- What a merchant does about payments of a negative amount, which are refunds. -/
inductive RefundPolicy
  | reject
  | checkJustification
deriving DecidableEq

/-- The name of a policy. -/
def RefundPolicy.label : RefundPolicy → String
  | .reject => "reject"
  | .checkJustification => "check-justification"

/-- All policies. -/
def RefundPolicy.all : List RefundPolicy := [.reject, .checkJustification]

/-- The policy of a merchant who has not chosen one. -/
def RefundPolicy.default : RefundPolicy := .reject

/-- The terms of a channel. -/
structure ChannelParams where
  name : String
  /-- The number of blocks for which a closing party's own outputs are locked. -/
  selfDelay : UInt16
  dustLimit : Sat
  network : Network
  fees : FeeSchedule
deriving DecidableEq

namespace ChannelParams

/-- The usual terms under a name, on a network. -/
def standard (name : String) (network : Network) : ChannelParams where
  name := name
  selfDelay := defaultSelfDelay
  dustLimit := defaultDustLimit
  network := network
  fees := .default

/-- The terms of a channel for which none were agreed. -/
def default : ChannelParams := standard "zkchannel" .regtest

/-- Checks that close transactions can be relayed, wait and pay an allowed fee under the terms. -/
def validate (params : ChannelParams) : Outcome ParamsError Unit := do
  .ensure (params.selfDelay ≠ 0) .zeroSelfDelay
  .ensure (leastDustLimit ≤ params.dustLimit) (.dustLimitTooLow params.dustLimit leastDustLimit)
  .ensure (params.dustLimit ≤ params.fees.customerReserve)
    (.reserveBelowDust .customer params.fees.customerReserve params.dustLimit)
  .ensure (params.dustLimit ≤ params.fees.merchantReserve)
    (.reserveBelowDust .merchant params.fees.merchantReserve params.dustLimit)
  params.fees.validate.mapRefusal .fees

/-- The self-delay as it is shown to people. -/
def selfDelayBytes (params : ChannelParams) : Bytes 2 :=
  .ofNat 2 params.selfDelay.toNat

/-- What the merchant has to put into a channel, so that its close transaction leaves the
reserve.
-/
def merchantMinimum {ε : Type} (params : ChannelParams) : Outcome ε Sat := do
  Sat.add params.fees.merchantReserve (← params.fees.merchantCloseDeduction)

end ChannelParams

end PaymentChannel
