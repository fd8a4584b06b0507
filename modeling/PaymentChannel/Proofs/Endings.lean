import PaymentChannel.Proofs.FailedMasking
import PaymentChannel.Proofs.Payment

/-! How a payment can end, whatever the service does.
A payment stops at one of a few points, each with its own parties left behind. Everything that holds
of all payments is derived from these endings and never from the steps of a payment again.
-/

namespace PaymentChannel

-----------------------------------------------------------------------------------------
-- Refusals of single steps
-----------------------------------------------------------------------------------------

namespace Customer

variable {customer after : Customer} {outputs : MaskedOutputs} {released : ReleasedMasks}

/-- Signatures that are refused while they are awaited cost the merchant the customer's trust. -/
theorem acceptSignatures_refused {round : FundedChannel × PendingRound} {reason : ChannelError}
    (awaiting : customer.roundAwaitingSignatures released = .ok round)
    (refused : customer.acceptSignatures outputs released = (.refuse reason, after))
    : after = { customer with merchantTrusted := false } := by
  unfold acceptSignatures at refused
  simp only [awaiting] at refused
  split at refused <;> cases refused
  rfl

/-- Signatures for amounts out of range change nothing. -/
theorem acceptSignatures_overflow {kind : Overflow}
    (overflows : customer.acceptSignatures outputs released = (.error (.overflow kind), after))
    : after = customer := by
  unfold acceptSignatures at overflows
  split at overflows
  case h_1 =>
    cases overflows
    rfl
  case h_2 =>
    dsimp only at overflows
    split at overflows <;> cases overflows
    rfl

end Customer

namespace Merchant

variable {merchant : Merchant} {id : SessionId} {session : Session}

/-- A right revocation that is not recorded changes nothing. -/
theorem validateRevoked_of_unrecorded {ledger : Ledger} {revoked : RevokedState}
    {reason : LedgerError} (found : merchant.sessions.get? id = some session)
    (confirmed : session.status = .confirmed) (right : RightRevocation session revoked)
    (unrecorded : ledger.put revoked.lock revoked.secret = .error reason)
    : merchant.validateRevoked ledger id revoked = (.refuse (.ledger reason), merchant, ledger) := by
  obtain ⟨nonce, commitment, verifies⟩ := right
  simp [validateRevoked, found, confirmed, nonce, commitment, verifies, unrecorded]

end Merchant

-----------------------------------------------------------------------------------------
-- Rounds that have begun
-----------------------------------------------------------------------------------------

open Customer Merchant

/-- A payment that both parties begin: the channel with its pay token, the new state, and what the
customer leaves of the source for the merchant to draw from.
-/
structure BegunRound (amount : Balance) (justification : Option String) (source : Entropy) where
  channel : FundedChannel
  payToken : PayToken
  new : ChannelState
  rest : Entropy

namespace BegunRound

variable {amount : Balance} {justification : Option String} {source : Entropy}
  (round : BegunRound amount justification source) (customer : Customer) (merchant : Merchant)

def request : PaymentRequest := Concord.request round.channel amount justification source

/-- The customer that has asked for the payment. -/
def begun : Customer :=
  { customer with pending := some (Concord.begunRound round.channel amount round.new source) }

/-- The round as the customer keeps it when the merchant has answered. -/
def pending : PendingRound := Concord.round round.channel amount round.new source round.rest

/-- The customer that has the answer of the merchant. -/
def committed : Customer := { customer with pending := some round.pending }

/-- The answer of the merchant. -/
def response : PaymentResponse :=
  ⟨drawnSession source, .commit (drawnOpening round.rest).mask (drawnOpening round.rest).randomness⟩

/-- What the service is asked. -/
def asked : MaskingRequest where
  customer := {
    token := round.channel.token
    closeKey := customer.closeKey
    old := round.channel.state
    new := round.new
    payToken := round.payToken
    blinding := drawnBlinding source
    amount := amount
    commitment := round.response.commitment }
  merchant := merchant.inputOf (drawnSession source) (begunSession round.request round.rest)

/-- The merchant when its masks are released. -/
def masked : Merchant := merchant.masked round.request round.rest

def released : ReleasedMasks := ⟨drawnSession source, drawnMasks round.rest⟩

/-- The session of a round waits for the revocation once its masks are released. -/
theorem get?_masked
    : (round.masked merchant).sessions.get? (drawnSession source)
      = some (releasedSession round.request round.rest) :=
  Dict.get?_insert_self _ _ _

/-- Both parties are such that they begin the payment. -/
structure Fits (customer : Customer) (merchant : Merchant) : Prop where
  ready : customer.stage = .ready
  idle : customer.pending = none
  trusted : customer.merchantTrusted = true
  found : customer.channel = some round.channel
  payToken : customer.payToken = some round.payToken
  begins : (customer.preparePayment amount justification).outcome source
    = .ok (round.request, round.begun customer)
  rests : (customer.preparePayment amount justification).rest source = round.rest
  unused : merchant.checkPayment round.request = .ok ()

end BegunRound

namespace Parties

/-- The parties when the customer has its signatures, if a payment comes that far. -/
def sign (parties : Parties) (client : ServiceClient) (amount : Balance)
    (justification : Option String) (source : Entropy)
    : Option Parties :=
  match parties.customer.preparePayment amount justification source with
  | (.error _, _) => none
  | (.ok (request, customer), source) =>
      match Parties.mask { parties with customer } client request source with
      | (.error _, _) => none
      | (.ok (outputs, released), parties, _) =>
          match parties.customer.acceptSignatures outputs released with
          | (.error _, _) => none
          | (.ok (), customer) => some { parties with customer }

variable {amount : Balance} {justification : Option String} {source : Entropy}

/-- A payment that both parties begin is one of these rounds. -/
theorem exists_begunRound {customer begun : Customer} {merchant opened : Merchant}
    {request : PaymentRequest} {response : PaymentResponse}
    (begins : (customer.preparePayment amount justification).outcome source = .ok (request, begun))
    (opens : (merchant.preparePayment request).outcome
        ((customer.preparePayment amount justification).rest source)
      = .ok (response, opened))
    : ∃ round : BegunRound amount justification source,
      round.request = request ∧ round.Fits customer merchant := by
  obtain ⟨unused, -, -⟩ := Merchant.preparePayment_eq_ok.1 opens
  have asks := begins
  obtain ⟨_, allowed, new, -, -, rfl, rfl⟩ := Customer.preparePayment_eq_ok.1 begins
  obtain ⟨ready, trusted, idle, paid, channel, found, -, rfl⟩ := checkPayment_eq_ok.1 allowed
  obtain ⟨payToken, kept⟩ := Option.ne_none_iff_exists'.1 paid
  exact ⟨⟨channel, payToken, new, _⟩, rfl,
    { ready, idle, trusted, found, payToken := kept, begins := asks, rests := rfl, unused }⟩

end Parties

namespace BegunRound.Fits

open Parties

variable {amount : Balance} {justification : Option String} {source : Entropy}
  {round : BegunRound amount justification source} {customer signed : Customer}
  {merchant : Merchant} {client : ServiceClient} {result : MaskingResult}

/-- The session that the payment draws is free. -/
theorem free (fits : round.Fits customer merchant)
    : merchant.sessions.get? (drawnSession source) = none :=
  (Merchant.free_of_checkPayment fits.unused).2.2

/-- The customer gives its input for the service. -/
theorem gives (fits : round.Fits customer merchant)
    : (round.begun customer).maskingInput round.response
      = .ok ((round.asked customer merchant).customer, round.committed customer) :=
  Customer.maskingInput_eq_ok.2 ⟨fits.ready, _, fits.payToken, _, fits.found, _, rfl, rfl, rfl, rfl,
    rfl⟩

/-- The customer waits for its signatures. -/
theorem awaits (fits : round.Fits customer merchant)
    : (round.committed customer).roundAwaitingSignatures round.released
      = .ok (round.channel, round.pending) :=
  roundAwaitingSignatures_eq_ok.2 ⟨fits.ready, fits.found, rfl, rfl, nofun, rfl⟩

/-- The payment can still be taken back. -/
theorem committed (fits : round.Fits customer merchant)
    : customer.Begun (round.committed customer) :=
  ⟨fits.idle, _, rfl, rfl⟩

/-- The masking goes through when the service confirms it. -/
theorem masks (fits : round.Fits customer merchant)
    (served : client.call (round.asked customer merchant) = .ok result)
    (confirmed : result.confirmed = true) (ledger : Ledger)
    : ∃ rest, Parties.mask ⟨round.begun customer, merchant, ledger⟩ client round.request round.rest
      = (.ok (result.customer, round.released),
        ⟨round.committed customer, round.masked merchant, ledger⟩, rest) := by
  obtain ⟨opened, handed, opens, hands, confirms⟩ := masked_of_unused fits.unused round.rest
  rw [← confirmed] at confirms
  exact ⟨_, mask_of opens fits.gives hands served confirms⟩

/-- A payment whose masking is confirmed goes on with what the service made of it. -/
theorem pay_of_confirmed (fits : round.Fits customer merchant)
    (served : client.call (round.asked customer merchant) = .ok result)
    (confirmed : result.confirmed = true) (ledger : Ledger)
    : (Parties.pay ⟨customer, merchant, ledger⟩ client amount justification source).1
      = Parties.finish ⟨round.committed customer, round.masked merchant, ledger⟩
          (drawnSession source) result.customer round.released := by
  obtain ⟨rest, masks⟩ := fits.masks served confirmed ledger
  rw [← fits.rests] at masks
  unfold pay
  simp only [Draw.eq_outcome fits.begins, masks]
  rfl

/-- The customer has its signatures when it accepts what the service made. -/
theorem sign_of_confirmed (fits : round.Fits customer merchant)
    (served : client.call (round.asked customer merchant) = .ok result)
    (confirmed : result.confirmed = true)
    (signs : (round.committed customer).acceptSignatures result.customer round.released
      = (.ok (), signed)) (ledger : Ledger)
    : Parties.sign ⟨customer, merchant, ledger⟩ client amount justification source
      = some ⟨signed, round.masked merchant, ledger⟩ := by
  obtain ⟨rest, masks⟩ := fits.masks served confirmed ledger
  rw [← fits.rests] at masks
  unfold sign
  simp only [Draw.eq_outcome fits.begins, masks, signs]

/-- A payment whose masking is refused is taken back, as long as the merchant has nothing left of it
when it was told to drop it.
-/
theorem pay_of_unmasked (fits : round.Fits customer merchant) {left : Merchant} {rest : Entropy}
    {reason : ChannelError} {ledger : Ledger}
    (masks : Parties.mask ⟨round.begun customer, merchant, ledger⟩ client round.request round.rest
      = (.refuse reason, ⟨round.committed customer, left, ledger⟩, rest))
    (drops : (afterwards left (left.failSession round.request.session)).2 = merchant)
    : (Parties.pay ⟨customer, merchant, ledger⟩ client amount justification source).1
      = (.refuse reason, ⟨customer, merchant, ledger⟩) := by
  rw [← fits.rests] at masks
  have refused : (Parties.pay ⟨customer, merchant, ledger⟩ client amount justification source).1
      = Parties.dropRound ⟨round.committed customer, left, ledger⟩ round.request.session reason :=
    pay_of_refused fits.begins masks
  exact refused.trans (dropRound_of fits.committed drops)

/-- A payment for which the service gives no result is taken back. -/
theorem pay_of_unserved (fits : round.Fits customer merchant) {reason : ServiceError}
    (unserved : client.call (round.asked customer merchant) = .error reason) (ledger : Ledger)
    : (Parties.pay ⟨customer, merchant, ledger⟩ client amount justification source).1
      = (.refuse (.service reason), ⟨customer, merchant, ledger⟩) := by
  obtain ⟨opened, handed, opens, hands, -⟩ := masked_of_unused fits.unused round.rest
  obtain ⟨session, found, updating, closed⟩ := updating_of_maskingInput opens hands
  have drops : handed.failSession round.request.session = .ok ((), merchant) :=
    failSession_eq_ok.2 ⟨session, found, .inr updating, closed.symm⟩
  refine fits.pay_of_unmasked (mask_of_unserved opens fits.gives hands unserved) ?_
  rw [drops]
  rfl

/-- A payment whose masking is not confirmed is taken back. The merchant has dropped it already. -/
theorem pay_of_unconfirmed (fits : round.Fits customer merchant)
    (served : client.call (round.asked customer merchant) = .ok result)
    (unconfirmed : result.confirmed = false) (ledger : Ledger)
    : (Parties.pay ⟨customer, merchant, ledger⟩ client amount justification source).1
      = (.refuse (.service (.rejected "masking result is not confirmed")),
        ⟨customer, merchant, ledger⟩) := by
  obtain ⟨opened, handed, opens, hands, -⟩ := masked_of_unused fits.unused round.rest
  obtain ⟨session, found, updating, closed⟩ := updating_of_maskingInput opens hands
  have refused := confirmMasking_false found updating
  rw [closed, ← unconfirmed] at refused
  have unknown : merchant.failSession round.request.session
      = .refuse (.unknownSession round.request.session) :=
    failSession_unknown fits.free
  refine fits.pay_of_unmasked (mask_of_unconfirmed opens fits.gives hands served refused) ?_
  rw [unknown]
  rfl

end BegunRound.Fits

-----------------------------------------------------------------------------------------
-- Rounds with signatures
-----------------------------------------------------------------------------------------

/-- A payment for which the customer got its signatures and its masked pay token. -/
structure SignedRound (amount : Balance) (justification : Option String) (source : Entropy)
    extends BegunRound amount justification source where
  signatures : CloseSignatures
  token : MaskedPayToken

namespace Parties

/-- The last steps when the merchant does not release its opening. -/
theorem settle_of_refused {parties : Parties} {session : SessionId} {revoked : RevokedState}
    {failure : Failure ChannelError} {moved : Customer} {merchant : Merchant} {ledger : Ledger}
    (reveals : parties.customer.revoke = .ok (revoked, moved))
    (refuses : parties.merchant.validateRevoked parties.ledger session revoked
      = (.error failure, merchant, ledger))
    : parties.settle session = (.error failure, ⟨moved, merchant, ledger⟩) := by
  unfold settle
  simp only [reveals, refuses]

end Parties

namespace SignedRound

variable {amount : Balance} {justification : Option String} {source : Entropy}
  (round : SignedRound amount justification source) (customer : Customer) (merchant : Merchant)

/-- What the customer reveals of its old state. -/
def revocation : RevokedState := Concord.revocation customer round.channel source

/-- The round as the customer keeps it with its signatures. -/
def unmasked : PendingRound := { round.pending with unmasked := some (round.signatures, round.token) }

/-- The customer when its signatures are accepted. -/
def signed : Customer := { customer with pending := some round.unmasked }

/-- The customer when it has moved to the new state. -/
def moved : Customer :=
  { customer with
    channel := some { round.channel with state := round.new, signatures := some round.signatures }
    secret := drawnSecret source
    payToken := none
    pending := some { round.unmasked with revoked := some (round.revocation customer) } }

/-- The opening that the merchant keeps for the payment. -/
def opening : PayMaskOpening := drawnOpening round.rest

/-- The customer after the payment. -/
def paid : Customer :=
  { round.moved customer with
    payToken := some (round.token.unmask round.opening.mask)
    pending := none }

/-- The merchant when the payment is over, with what was revealed for it. -/
def spent (revocation : Option (RevLock × RevSecret)) : Merchant :=
  merchant.spend round.channel.state.nonce ⟨drawnSession source, revocation, round.opening⟩

/-- The revocation that goes with the lock of the old state. -/
def record : RevLock × RevSecret := (round.channel.state.lock, customer.secret)

variable {round customer merchant} {ledger recorded : Ledger} {reason : LedgerError}

theorem revoke_signed (fits : round.Fits customer merchant)
    : (round.signed customer).revoke = .ok (round.revocation customer, round.moved customer) :=
  revoke_eq_ok.2 ⟨fits.ready, _, rfl, .inr ⟨rfl, _, _, rfl, _, fits.found, rfl, rfl⟩⟩

/-- A customer that has moved to the new state reveals the same again. -/
theorem revoke_moved (fits : round.Fits customer merchant)
    : (round.moved customer).revoke = .ok (round.revocation customer, round.moved customer) :=
  revoke_eq_ok.2 ⟨fits.ready, _, rfl, .inl ⟨rfl, rfl⟩⟩

theorem acceptToken_moved (fits : round.Fits customer merchant)
    : (round.moved customer).acceptToken round.opening
      = (.ok (round.token.unmask round.opening.mask), round.paid customer) := by
  have awaited : (round.moved customer).awaitedToken
      = .ok (.commit round.opening.mask round.opening.randomness, round.token) :=
    awaitedToken_eq_ok.2 ⟨fits.ready, _, rfl, _, _, rfl, rfl, rfl⟩
  exact acceptToken_eq_ok.2 ⟨_, _, awaited, PayMaskOpening.opens_eq_true.2 rfl, rfl, rfl⟩

/-- What the customer reveals is right exactly if its secret is that of its old state. -/
theorem right_iff
    : RightRevocation (releasedSession round.request round.rest) (round.revocation customer)
      ↔ customer.secret.lock = round.channel.state.lock := by
  constructor
  · rintro ⟨-, -, verifies⟩
    exact (RevokedState.verify_eq_true.1 verifies).1
  · intro opens
    exact ⟨rfl, rfl, RevokedState.verify_eq_true.2 ⟨opens, rfl⟩⟩

/-- The merchant releases its opening again when it has the revocation already, and does not ask
the ledger.
-/
theorem validateRevoked_repeated (fits : round.Fits customer merchant) (ledger : Ledger)
    : (round.spent merchant (some (round.record customer))).validateRevoked ledger
        (drawnSession source) (round.revocation customer)
      = (.ok round.opening, round.spent merchant (some (round.record customer)), ledger) := by
  have gone : (round.spent merchant (some (round.record customer))).sessions.get?
      (drawnSession source) = none :=
    fits.free
  have again : (round.spent merchant (some (round.record customer))).releasedOpening
      (drawnSession source) (round.revocation customer) = .ok round.opening :=
    releasedOpening_eq_ok.2 ⟨_, Dict.get?_insert_self _ _ _, rfl, rfl, rfl⟩
  exact validateRevoked_eq_ok.2 (.inl ⟨gone, again, rfl, rfl⟩)

-----------------------------------------------------------------------------------------
-- The last steps
-----------------------------------------------------------------------------------------

section Settle

variable {revealing : Customer}
  (reveals : revealing.revoke = .ok (round.revocation customer, round.moved customer))

include reveals

/-- A secret that is not the one of the old state uses up its nonce. -/
theorem settle_disproved (fits : round.Fits customer merchant)
    (differs : customer.secret.lock ≠ round.channel.state.lock) (ledger : Ledger)
    : Parties.settle ⟨revealing, round.masked merchant, ledger⟩ (drawnSession source)
      = (.refuse .invalidRevocationProof,
        ⟨round.moved customer, round.spent merchant none, ledger⟩) := by
  have wrong := validateRevoked_of_wrong (round.get?_masked merchant) rfl
    (right_iff.not.2 differs) ledger
  have closes : ((round.masked merchant).spend round.channel.state.nonce
      ⟨drawnSession source, none, round.opening⟩).closeSession (drawnSession source)
      = round.spent merchant none :=
    closeSession_masked fits.unused round.rest _
  rw [← closes]
  exact Parties.settle_of_refused reveals wrong

/-- A secret that the ledger does not take leaves the customer in the new state, and the merchant
waiting.
-/
theorem settle_unrecorded (opens : customer.secret.lock = round.channel.state.lock)
    (unrecorded : ledger.put round.channel.state.lock customer.secret = .error reason)
    : Parties.settle ⟨revealing, round.masked merchant, ledger⟩ (drawnSession source)
      = (.refuse (.ledger reason), ⟨round.moved customer, round.masked merchant, ledger⟩) :=
  Parties.settle_of_refused reveals
    (validateRevoked_of_unrecorded (round.get?_masked merchant) rfl (right_iff.2 opens) unrecorded)

/-- A secret that the ledger takes ends the payment. -/
theorem settle_recorded (fits : round.Fits customer merchant)
    (opens : customer.secret.lock = round.channel.state.lock)
    (written : ledger.put round.channel.state.lock customer.secret = .ok recorded)
    : Parties.settle ⟨revealing, round.masked merchant, ledger⟩ (drawnSession source)
      = (.ok (Parties.receipt (round.paid customer) (drawnSession source)),
        ⟨round.paid customer, round.spent merchant (some (round.record customer)), recorded⟩) :=
  Parties.settle_of reveals (validateRevoked_masked fits.unused (right_iff.2 opens) written)
    (acceptToken_moved fits)

/-- When the merchant has the revocation already the payment ends all the same. -/
theorem settle_repeated (fits : round.Fits customer merchant) (ledger : Ledger)
    : Parties.settle ⟨revealing, round.spent merchant (some (round.record customer)), ledger⟩
        (drawnSession source)
      = (.ok (Parties.receipt (round.paid customer) (drawnSession source)),
        ⟨round.paid customer, round.spent merchant (some (round.record customer)), ledger⟩) :=
  Parties.settle_of reveals (validateRevoked_repeated fits ledger) (acceptToken_moved fits)

end Settle

end SignedRound

-----------------------------------------------------------------------------------------
-- The endings
-----------------------------------------------------------------------------------------

/-- A payment comes to its signatures, whatever the ledger is. -/
structure SignedRound.Signs {amount : Balance} {justification : Option String} {source : Entropy}
    (round : SignedRound amount justification source) (customer : Customer) (merchant : Merchant)
    (client : ServiceClient)
    : Prop extends round.Fits customer merchant where
  signs : ∀ ledger,
    Parties.sign ⟨customer, merchant, ledger⟩ client amount justification source
      = some ⟨round.signed customer, round.masked merchant, ledger⟩

namespace Parties

variable {client : ServiceClient} {amount : Balance} {justification : Option String}
  {source : Entropy}

/-- A payment that comes to its signatures ends as its last steps do. -/
theorem pay_of_sign {parties signed : Parties}
    (signs : parties.sign client amount justification source = some signed)
    : (parties.pay client amount justification source).1 = signed.settle (drawnSession source) := by
  unfold sign at signs
  rcases begins : parties.customer.preparePayment amount justification source
    with ⟨_ | ⟨request, customer⟩, rest⟩
  · simp only [begins, reduceCtorEq] at signs
  rcases masks : Parties.mask { parties with customer } client request rest
    with ⟨_ | ⟨outputs, released⟩, masked, left⟩
  · simp only [begins, masks, reduceCtorEq] at signs
  rcases accepts : masked.customer.acceptSignatures outputs released with ⟨_ | ⟨⟩, accepted⟩
  · simp only [begins, masks, accepts, reduceCtorEq] at signs
  simp only [begins, masks, accepts, Option.some.injEq] at signs
  subst signs
  have prepares : (parties.customer.preparePayment amount justification).outcome source
      = .ok (request, customer) :=
    congrArg Prod.fst begins
  have rests : (parties.customer.preparePayment amount justification).rest source = rest :=
    congrArg Prod.snd begins
  rw [← rests] at masks
  rw [← session_of_preparePayment prepares]
  exact pay_of prepares masks accepts

/-- The endings of a payment, each with its outcome and the parties that it leaves. -/
inductive Ends (before : Parties) (client : ServiceClient) (amount : Balance)
    (justification : Option String) (source : Entropy)
    : Outcome ChannelError Receipt × Parties → Prop
  /-- The customer does not begin the payment. -/
  | unprepared {failure : Failure ChannelError}
    (refused : (before.customer.preparePayment amount justification).outcome source
      = .error failure)
    : Ends before client amount justification source (.error failure, before)
  /-- The merchant does not begin the payment, and is told to drop the session of the request. -/
  | unopened {request : PaymentRequest} {begun : Customer} {reason : ChannelError}
    (begins : (before.customer.preparePayment amount justification).outcome source
      = .ok (request, begun))
    (refused : (before.merchant.preparePayment request).outcome
        ((before.customer.preparePayment amount justification).rest source)
      = .refuse reason)
    : Ends before client amount justification source
        (.refuse reason, { before with
          merchant := (afterwards before.merchant
            (before.merchant.failSession (drawnSession source))).2 })
  /-- The masking fails, and both parties take the payment back. -/
  | unmasked {reason : ServiceError} (round : BegunRound amount justification source)
    (fits : round.Fits before.customer before.merchant)
    : Ends before client amount justification source (.refuse (.service reason), before)
  /-- The customer refuses its signatures after the masks were released, and takes the payment
  back on its own.
  -/
  | unsigned {reason : ChannelError} (round : BegunRound amount justification source)
    (fits : round.Fits before.customer before.merchant)
    : Ends before client amount justification source
        (.refuse reason, ⟨{ before.customer with merchantTrusted := false },
          round.masked before.merchant, before.ledger⟩)
  /-- The amounts of the new state are out of range for its transactions. -/
  | overflowed {kind : Overflow} (round : BegunRound amount justification source)
    (fits : round.Fits before.customer before.merchant)
    : Ends before client amount justification source
        (.error (.overflow kind),
          ⟨round.committed before.customer, round.masked before.merchant, before.ledger⟩)
  /-- The customer does not have the secret of its old state. -/
  | disproved (round : SignedRound amount justification source)
    (signs : round.Signs before.customer before.merchant client)
    (differs : before.customer.secret.lock ≠ round.channel.state.lock)
    : Ends before client amount justification source
        (.refuse .invalidRevocationProof,
          ⟨round.moved before.customer, round.spent before.merchant none, before.ledger⟩)
  /-- The ledger does not take the old secret. -/
  | unrecorded {reason : LedgerError} (round : SignedRound amount justification source)
    (signs : round.Signs before.customer before.merchant client)
    (opens : before.customer.secret.lock = round.channel.state.lock)
    (unrecorded : before.ledger.put round.channel.state.lock before.customer.secret = .error reason)
    : Ends before client amount justification source
        (.refuse (.ledger reason),
          ⟨round.moved before.customer, round.masked before.merchant, before.ledger⟩)
  | completed {recorded : Ledger} (round : SignedRound amount justification source)
    (signs : round.Signs before.customer before.merchant client)
    (opens : before.customer.secret.lock = round.channel.state.lock)
    (written : before.ledger.put round.channel.state.lock before.customer.secret = .ok recorded)
    : Ends before client amount justification source
        (.ok (receipt (round.paid before.customer) (drawnSession source)),
          ⟨round.paid before.customer,
            round.spent before.merchant (some (round.record before.customer)), recorded⟩)

variable {customer signed : Customer} {merchant : Merchant}

section Begun

variable {round : BegunRound amount justification source}

/-- Signatures that a customer accepts make a round with signatures. -/
theorem acceptSignatures_committed {outputs : MaskedOutputs} {released : ReleasedMasks}
    (accepts : (round.committed customer).acceptSignatures outputs released = (.ok (), signed))
    : ∃ signatures token, signed = SignedRound.signed ⟨round, signatures, token⟩ customer := by
  obtain ⟨_, _, awaiting, signatures, -, -, rfl⟩ := acceptSignatures_eq_ok accepts
  obtain ⟨-, -, pending, -⟩ := roundAwaitingSignatures_eq_ok.1 awaiting
  cases pending
  exact ⟨signatures, outputs.payToken, rfl⟩

/-- A customer that refuses its signatures takes the payment back on its own. -/
theorem finish_of_refused (fits : round.Fits customer merchant) {outputs : MaskedOutputs}
    {reason : ChannelError}
    (refused : (round.committed customer).acceptSignatures outputs round.released
      = (.refuse reason, signed)) (merchant : Merchant) (ledger : Ledger)
    : Parties.finish ⟨round.committed customer, merchant, ledger⟩ (drawnSession source) outputs
        round.released
      = (.refuse reason, ⟨{ customer with merchantTrusted := false }, merchant, ledger⟩) := by
  have distrusts := acceptSignatures_refused fits.awaits refused
  have taken : signed.abort = .ok ((), { customer with merchantTrusted := false }) := by
    rw [distrusts]
    exact abort_eq_ok.2 ⟨_, rfl, rfl, by rw [← fits.idle]; rfl⟩
  simp only [finish, refused, Outcome.refuse, dropSignatures, taken]

end Begun

/-- A payment that has its signatures ends in one of the last three ways. -/
theorem ends_of_signs {round : SignedRound amount justification source} {ledger : Ledger}
    (signs : round.Signs customer merchant client)
    : Ends ⟨customer, merchant, ledger⟩ client amount justification source
        (Parties.pay ⟨customer, merchant, ledger⟩ client amount justification source).1 := by
  have reveals := SignedRound.revoke_signed signs.toFits
  rw [pay_of_sign (signs.signs ledger)]
  by_cases opens : customer.secret.lock = round.channel.state.lock
  · cases written : ledger.put round.channel.state.lock customer.secret with
    | error reason =>
        rw [SignedRound.settle_unrecorded reveals opens written]
        exact .unrecorded round signs opens written
    | ok recorded =>
        rw [SignedRound.settle_recorded reveals signs.toFits opens written]
        exact .completed round signs opens written
  · rw [SignedRound.settle_disproved reveals signs.toFits opens]
    exact .disproved round signs opens

/-- A payment that both parties begin ends in one of the last six ways. -/
theorem ends_of_fits {round : BegunRound amount justification source}
    (fits : round.Fits customer merchant) (client : ServiceClient) (ledger : Ledger)
    : Ends ⟨customer, merchant, ledger⟩ client amount justification source
        (Parties.pay ⟨customer, merchant, ledger⟩ client amount justification source).1 := by
  rcases served : client.call (round.asked customer merchant) with reason | result
  · rw [fits.pay_of_unserved served]
    exact .unmasked round fits
  · cases confirmed : result.confirmed with
    | false =>
        rw [fits.pay_of_unconfirmed served confirmed]
        exact .unmasked round fits
    | true =>
        have goes := fits.pay_of_confirmed served confirmed ledger
        rcases accepts : (round.committed customer).acceptSignatures result.customer round.released
          with ⟨(reason | kind) | ⟨⟩, signed⟩
        · rw [goes, finish_of_refused fits accepts]
          exact .unsigned round fits
        · cases acceptSignatures_overflow accepts
          rw [goes, finish, accepts]
          exact .overflowed round fits
        · obtain ⟨signatures, token, rfl⟩ := acceptSignatures_committed accepts
          exact ends_of_signs ⟨fits, fits.sign_of_confirmed served confirmed accepts⟩

/-- Every payment ends in one of these ways. -/
theorem ends (parties : Parties) (client : ServiceClient) (amount : Balance)
    (justification : Option String) (source : Entropy)
    : parties.Ends client amount justification source
        (parties.pay client amount justification source).1 := by
  rcases begins : (parties.customer.preparePayment amount justification).outcome source
    with failure | ⟨request, begun⟩
  · unfold pay
    rw [Draw.eq_outcome begins]
    exact .unprepared begins
  · rcases opens : (parties.merchant.preparePayment request).outcome
        ((parties.customer.preparePayment amount justification).rest source)
      with failure | ⟨response, opened⟩
    · obtain ⟨reason, rfl⟩ := Merchant.preparePayment_error opens
      rw [pay_of_refused begins (mask_of_unopened opens), session_of_preparePayment begins,
        dropRound_of (.of_preparePayment begins) rfl]
      exact .unopened begins opens
    · obtain ⟨round, -, fits⟩ := exists_begunRound begins opens
      exact ends_of_fits fits client parties.ledger

end Parties

end PaymentChannel
