import PaymentChannel.Proofs.Outcome
import PaymentChannel.Round

/-! Runs of a customer: the calls it can be made, in any order, and what it answered.
A run starts from a customer with fresh keys. What a call is made with comes from anyone, so the
merchant may answer whatever it likes.
-/

namespace PaymentChannel

/-- What a customer can be called for. A call that draws random bytes brings their source. -/
inductive CustomerCall
  | fund (source : FundingSource)
  | initialState
  | storeInitialSignatures (signatures : CloseSignatures)
  | markOpen
  | requestActivation
  | finishActivation (token : PayToken)
  | preparePayment (amount : Balance) (justification : Option String) (source : Entropy)
  | maskingInput (response : PaymentResponse)
  | acceptSignatures (outputs : MaskedOutputs) (released : ReleasedMasks)
  | revoke
  | acceptToken (opening : PayMaskOpening)
  | abort
  | forceClose (source : CloseSource)
  | claim (tx : Transaction) (fee : Sat)
  | markClosed
  | markDisputed

/-- What a call is answered when it is not refused. -/
def CustomerCall.Answer : CustomerCall → Type
  | .fund _ => OpenRequest
  | .initialState => InitialState
  | .storeInitialSignatures _ | .markOpen | .finishActivation _ | .acceptSignatures _ _ | .abort
  | .markClosed | .markDisputed => Unit
  | .requestActivation => ChannelState
  | .preparePayment _ _ _ => PaymentRequest
  | .maskingInput _ => CustomerInput
  | .revoke => RevokedState
  | .acceptToken _ => PayToken
  | .forceClose _ | .claim _ _ => SignedTx

/-- A call and what the customer made of it. -/
structure CustomerExchange where
  call : CustomerCall
  outcome : Outcome ChannelError call.Answer

namespace Customer

/-- What a customer makes of a call, and the customer afterwards. -/
def serve (customer : Customer) : (call : CustomerCall) → Outcome ChannelError call.Answer × Customer
  | .fund source => Parties.afterwards customer (customer.fund source)
  | .initialState => (customer.initialState, customer)
  | .storeInitialSignatures signatures =>
      Parties.afterwards customer (customer.storeInitialSignatures signatures)
  | .markOpen => Parties.afterwards customer customer.markOpen
  | .requestActivation => Parties.afterwards customer customer.requestActivation
  | .finishActivation token => Parties.afterwards customer (customer.finishActivation token)
  | .preparePayment amount justification source =>
      Parties.afterwards customer ((customer.preparePayment amount justification).outcome source)
  | .maskingInput response => Parties.afterwards customer (customer.maskingInput response)
  | .acceptSignatures outputs released => customer.acceptSignatures outputs released
  | .revoke => Parties.afterwards customer customer.revoke
  | .acceptToken opening => customer.acceptToken opening
  | .abort => Parties.afterwards customer customer.abort
  | .forceClose source => Parties.afterwards customer (customer.forceClose source)
  | .claim tx fee => (customer.claim tx fee, customer)
  | .markClosed => Parties.afterwards customer customer.markClosed
  | .markDisputed => Parties.afterwards customer customer.markDisputed

/-- The call with its outcome. -/
def exchange (customer : Customer) (call : CustomerCall) : CustomerExchange :=
  ⟨call, (customer.serve call).1⟩

/-- The customer after a call. -/
def after (customer : Customer) (call : CustomerCall) : Customer := (customer.serve call).2

/-- What a customer can become, with all exchanges on the way, the latest in front. -/
inductive Run (start : Customer) : List CustomerExchange → Customer → Prop
  | start : Run start [] start
  | call {history : List CustomerExchange} {customer : Customer} (run : Run start history customer)
    (call : CustomerCall)
    : Run start (customer.exchange call :: history) (customer.after call)

/-- A run goes on with another one, by induction on the later run. -/
theorem Run.trans {start customer next : Customer} {history later : List CustomerExchange}
    (run : start.Run history customer) (goes : customer.Run later next)
    : start.Run (later ++ history) next := by
  induction goes with
  | start => exact run
  | call _ call ih => exact ih.call call

/-- A run goes on with a call that is answered. -/
theorem Run.answered {start customer after : Customer} {history : List CustomerExchange}
    (run : start.Run history customer) (call : CustomerCall) {answer : call.Answer}
    (served : customer.serve call = (.ok answer, after))
    : start.Run (⟨call, .ok answer⟩ :: history) after := by
  have next := run.call call
  rwa [exchange, Customer.after, served] at next

/-- A run goes on with the success of an operation that changes nothing when it is refused. -/
theorem Run.kept {start customer after : Customer} {history : List CustomerExchange}
    (run : start.Run history customer) (call : CustomerCall)
    {outcome : Outcome ChannelError (call.Answer × Customer)} {answer : call.Answer}
    (serves : customer.serve call = Parties.afterwards customer outcome)
    (succeeded : outcome = .ok (answer, after))
    : start.Run (⟨call, .ok answer⟩ :: history) after := by
  refine run.answered call ?_
  rw [serves, succeeded]
  rfl

end Customer

end PaymentChannel
