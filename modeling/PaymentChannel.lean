import PaymentChannel.Ledger.Storage
import PaymentChannel.Round
import PaymentChannel.Wire.Failure
import PaymentChannel.Wire.Path
import PaymentChannel.Wire.Report
import PaymentChannel.Proofs.Merchant.Run
import PaymentChannel.Proofs.Merchant.Operations
import PaymentChannel.Proofs.Merchant.Sessions
import PaymentChannel.Proofs.Merchant.NonceReuse
import PaymentChannel.Proofs.Service
import PaymentChannel.Proofs.Merchant.Bench
import PaymentChannel.Proofs.Merchant.StaleStates
import PaymentChannel.Proofs.Customer.RevokedLocks
import PaymentChannel.Proofs.Customer.ForceClose
import PaymentChannel.Proofs.Customer.Operations
import PaymentChannel.Proofs.Curve.Primes
import PaymentChannel.Proofs.Curve.Group
import PaymentChannel.Proofs.Curve.Key
import PaymentChannel.Proofs.Curve.Ecdsa
import PaymentChannel.Proofs.Merchant.Revocations
import PaymentChannel.Proofs.Merchant.Channels
import PaymentChannel.Proofs.Merchant.Disputes
import PaymentChannel.Proofs.Merchant.Conservation
import PaymentChannel.Proofs.Round
import PaymentChannel.Proofs.Payment
import PaymentChannel.Proofs.FailedMasking
import PaymentChannel.Proofs.MaskingSoundness
import PaymentChannel.Proofs.TemplateChain
import PaymentChannel.Proofs.Curve.Der
import PaymentChannel.Proofs.Script.Reading
import PaymentChannel.Proofs.Script.Spend
import PaymentChannel.Proofs.Script.Evaluation
import PaymentChannel.Proofs.Script.Rules
import PaymentChannel.Proofs.Script.SpendPaths
import PaymentChannel.Proofs.Script.FinishedSpends
import PaymentChannel.Proofs.Merchant.Repetition
import PaymentChannel.Proofs.Endings
import PaymentChannel.Proofs.Resumption
import PaymentChannel.Proofs.SessionsLeft
import PaymentChannel.Proofs.Nonce
import PaymentChannel.Proofs.Merchant.ChannelMoves
import PaymentChannel.Proofs.Merchant.StatusOrder
import PaymentChannel.Proofs.Merchant.Recognition
import PaymentChannel.Proofs.Merchant.OutputClaims
import PaymentChannel.Proofs.Customer.Arithmetic
import PaymentChannel.Proofs.Customer.Accounts
import PaymentChannel.Proofs.LedgerContract
import PaymentChannel.Proofs.Opening
import PaymentChannel.Proofs.Linkability
import PaymentChannel.Proofs.Concurrency.Moves
import PaymentChannel.Proofs.Concurrency.Locality
import PaymentChannel.Proofs.Concurrency.Interleavings
import PaymentChannel.Proofs.TemplateValues
import PaymentChannel.Proofs.Merchant.UnilateralClose
import PaymentChannel.Proofs.Merchant.Activation
import PaymentChannel.Proofs.Reserves.Accepted
import PaymentChannel.Proofs.Reserves.Closing
import PaymentChannel.Proofs.Overflow.Templates
import PaymentChannel.Proofs.Overflow.Opening
import PaymentChannel.Proofs.Overflow.Masking
import PaymentChannel.Proofs.Merchant.Refusals
import PaymentChannel.Proofs.Customer.Refusals
import PaymentChannel.Proofs.Prevouts
import PaymentChannel.Proofs.OwnFunding
import PaymentChannel.Proofs.Customer.Consistency
import PaymentChannel.Proofs.CloseClaims
import PaymentChannel.Proofs.Publication
import PaymentChannel.Proofs.RecognizedOutputs
import PaymentChannel.Proofs.Merchant.NonceStatus
import PaymentChannel.Proofs.Commitments
