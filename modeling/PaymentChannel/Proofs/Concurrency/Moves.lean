import Mathlib.Logic.Function.Iterate
import PaymentChannel.Proofs.Endings

/-! A payment as the row of its moves.
A move is one step of the customer, one call of the merchant or the call of the service, so the moves
of several payments at one merchant can follow each other in any order. A payment that nobody comes
in between of is `Parties.pay`, and takes ten moves at most.
-/

namespace PaymentChannel

-----------------------------------------------------------------------------------------
-- Moves
-----------------------------------------------------------------------------------------

/-- What the payments at a merchant share: the merchant and the records of its ledger. -/
structure Till where
  merchant : Merchant
  store : LedgerStore

/-- What the merchant makes of a call, for a payment for which the ledger has this outage. -/
def Till.serve (till : Till) (outage : Option String) (call : MerchantCall)
    : Outcome ChannelError call.Answer × Till :=
  let (outcome, shop) := Shop.serve ⟨till.merchant, ⟨till.store, outage, none⟩⟩ call
  (outcome, ⟨shop.merchant, shop.ledger.store⟩)

/-- A payment that is to be made, with everything that decides its course besides the till. -/
structure Purchase where
  customer : Customer
  client : ServiceClient
  amount : Balance
  justification : Option String
  source : Entropy
  /-- Why the ledger records nothing for this payment, if so. -/
  outage : Option String

/-- The next move of a payment, with what is at hand for it. -/
inductive NextMove
  /-- The customer begins the payment. -/
  | prepare
  /-- The merchant begins the payment, with what the customer left of the source. -/
  | register (request : PaymentRequest) (rest : Entropy)
  /-- The customer gives its input for the service. -/
  | contribute (session : SessionId) (response : PaymentResponse)
  /-- The merchant gives its input for the service. -/
  | handOver (session : SessionId) (input : CustomerInput)
  /-- The service computes. -/
  | compute (session : SessionId) (asked : MaskingRequest)
  /-- The merchant releases its masks. -/
  | confirm (session : SessionId) (result : MaskingResult)
  /-- The customer checks its signatures. -/
  | accept (session : SessionId) (outputs : MaskedOutputs) (released : ReleasedMasks)
  /-- The customer moves to the new state. -/
  | revoke (session : SessionId)
  /-- The merchant records the revocation and opens the mask of the new pay token. -/
  | reveal (session : SessionId) (revoked : RevokedState)
  /-- The customer takes the new pay token. -/
  | redeem (session : SessionId) (opening : PayMaskOpening)
  /-- The merchant is told to drop the session. -/
  | drop (session : SessionId) (reason : ChannelError)
  /-- The customer takes the payment back. -/
  | abort (reason : ChannelError)
  /-- The payment is over. -/
  | done (outcome : Outcome ChannelError Receipt)

/-- A payment under way. -/
structure Course where
  purchase : Purchase
  customer : Customer
  next : NextMove

/-- The course of a payment that is about to begin. -/
def Purchase.start (purchase : Purchase) : Course := ⟨purchase, purchase.customer, .prepare⟩

namespace Course

/-- The course of a payment whose masking failed. -/
def failed (course : Course) (session : SessionId) : Failure ChannelError → Course
  | .refused reason => { course with next := .drop session reason }
  | .overflow kind => { course with next := .done (.error (.overflow kind)) }

/-- A call of the merchant, after which a payment goes on or fails. -/
def ask (course : Course) (till : Till) (call : MerchantCall) (goesOn : call.Answer → NextMove)
    (fails : Failure ChannelError → Course)
    : Course × Till :=
  match till.serve course.purchase.outage call with
  | (.ok answer, till) => ({ course with next := goesOn answer }, till)
  | (.error failure, till) => (fails failure, till)

/-- The next move of a payment, which is nothing any more when the payment is over. -/
def move (course : Course) (till : Till) : Course × Till :=
  let purchase := course.purchase
  match course.next with
  | .prepare =>
      match course.customer.preparePayment purchase.amount purchase.justification
        purchase.source with
      | (.error failure, _) => ({ course with next := .done (.error failure) }, till)
      | (.ok (request, customer), rest) =>
          ({ course with customer, next := .register request rest }, till)
  | .register request rest =>
      course.ask till (.preparePayment request rest) (.contribute request.session)
        (course.failed request.session)
  | .contribute session response =>
      match course.customer.maskingInput response with
      | .error failure => (course.failed session failure, till)
      | .ok (input, customer) => ({ course with customer, next := .handOver session input }, till)
  | .handOver session input =>
      course.ask till (.maskingInput session)
        (fun merchantInput => .compute session ⟨input, merchantInput⟩) (course.failed session)
  | .compute session asked =>
      match purchase.client.call asked with
      | .error reason => (course.failed session (.refused (.service reason)), till)
      | .ok result => ({ course with next := .confirm session result }, till)
  | .confirm session result =>
      course.ask till (.confirmMasking session result.confirmed) (.accept session result.customer)
        (course.failed session)
  | .accept session outputs released =>
      match course.customer.acceptSignatures outputs released with
      | (.ok (), customer) => ({ course with customer, next := .revoke session }, till)
      | (.error (.refused reason), customer) =>
          ({ course with customer, next := .abort reason }, till)
      | (.error (.overflow kind), customer) =>
          ({ course with customer, next := .done (.error (.overflow kind)) }, till)
  | .revoke session =>
      match course.customer.revoke with
      | .error failure => ({ course with next := .done (.error failure) }, till)
      | .ok (revoked, customer) => ({ course with customer, next := .reveal session revoked }, till)
  | .reveal session revoked =>
      course.ask till (.validateRevoked session revoked) (.redeem session)
        fun failure => { course with next := .done (.error failure) }
  | .redeem session opening =>
      let (token, customer) := course.customer.acceptToken opening
      ({ course with
          customer
          next := .done (token.map fun _ => Parties.receipt customer session) }, till)
  | .drop session reason =>
      course.ask till (.failSession session) (fun _ => .abort reason)
        fun _ => { course with next := .abort reason }
  | .abort reason =>
      match course.customer.abort with
      | .ok (_, customer) => ({ course with customer, next := .done (.refuse reason) }, till)
      | .error failure => ({ course with next := .done (.error failure) }, till)
  | .done _ => (course, till)

/-- The next move when nothing else happens at the till. -/
def alone (state : Course × Till) : Course × Till := state.1.move state.2

/-- A payment is over. -/
def Over (course : Course) : Prop := ∃ outcome, course.next = .done outcome

end Course

-----------------------------------------------------------------------------------------
-- The number of moves
-----------------------------------------------------------------------------------------

/-- The most moves that a payment has before it. -/
def NextMove.left : NextMove → Nat
  | .prepare => 10
  | .register _ _ => 9
  | .contribute _ _ => 8
  | .handOver _ _ => 7
  | .compute _ _ => 6
  | .confirm _ _ => 5
  | .accept _ _ _ => 4
  | .revoke _ => 3
  | .reveal _ _ => 2
  | .redeem _ _ => 1
  | .drop _ _ => 2
  | .abort _ => 1
  | .done _ => 0

namespace Course

variable {course : Course} {till : Till}

theorem over_iff : course.Over ↔ course.next.left = 0 := by
  unfold Over
  cases course.next <;> simp [NextMove.left]

theorem left_failed (course : Course) (session : SessionId) (failure : Failure ChannelError)
    : (course.failed session failure).next.left ≤ 2 := by
  cases failure <;> simp [failed, NextMove.left]

theorem purchase_failed (course : Course) (session : SessionId) (failure : Failure ChannelError)
    : (course.failed session failure).purchase = course.purchase := by
  cases failure <;> rfl

/-- A payment stays the same payment. -/
theorem purchase_move (course : Course) (till : Till)
    : (course.move till).1.purchase = course.purchase := by
  obtain ⟨purchase, customer, next⟩ := course
  have fails := purchase_failed ⟨purchase, customer, next⟩
  cases next with
  | register _ _ | handOver _ _ | confirm _ _ =>
      simp only [move, ask]
      split
      · rfl
      · exact fails _ _
  | contribute _ _ | compute _ _ =>
      simp only [move]
      split
      · exact fails _ _
      · rfl
  | prepare | accept _ _ _ | revoke _ | reveal _ _ | drop _ _ | abort _ =>
      simp only [move, ask]
      split <;> rfl
  | redeem _ _ | done _ => rfl

/-- Every move brings a payment closer to its end. -/
theorem left_move (course : Course) (till : Till)
    : (course.move till).1.next.left ≤ course.next.left - 1 := by
  obtain ⟨purchase, customer, next⟩ := course
  have fails := left_failed ⟨purchase, customer, next⟩
  cases next with
  | register _ _ | handOver _ _ | confirm _ _ =>
      simp only [move, ask]
      split
      · simp [NextMove.left]
      · exact (fails _ _).trans (by simp [NextMove.left])
  | contribute _ _ | compute _ _ =>
      simp only [move]
      split
      · exact (fails _ _).trans (by simp [NextMove.left])
      · simp [NextMove.left]
  | prepare | accept _ _ _ | revoke _ | reveal _ _ | drop _ _ | abort _ =>
      simp only [move, ask]
      split <;> simp [NextMove.left]
  | redeem _ _ | done _ => simp [move, NextMove.left]

/-- After some moves there are so many fewer left, by induction on the moves. -/
theorem left_iterate (state : Course × Till) (moves : Nat)
    : (alone^[moves] state).1.next.left ≤ state.1.next.left - moves := by
  induction moves with
  | zero => exact Nat.le_refl _
  | succ moves ih =>
      rw [Function.iterate_succ_apply']
      have step := left_move (alone^[moves] state).1 (alone^[moves] state).2
      exact step.trans (by omega)

/-- A payment that is left alone is over after ten moves. -/
theorem over_of_ten_le (purchase : Purchase) (till : Till) {moves : Nat} (enough : 10 ≤ moves)
    : (alone^[moves] (purchase.start, till)).1.Over := by
  have left := left_iterate (purchase.start, till) moves
  have first : (purchase.start, till).1.next.left = 10 := rfl
  exact over_iff.2 (by omega)

theorem move_of_over (finished : course.Over) (till : Till) : course.move till = (course, till) := by
  obtain ⟨outcome, ends⟩ := finished
  simp only [move, ends]

/-- A payment that is over stays as it is. -/
theorem iterate_of_over (finished : course.Over) (till : Till) (moves : Nat)
    : alone^[moves] (course, till) = (course, till) :=
  Function.iterate_fixed (move_of_over finished till) moves

/-- However many moves it takes, a payment that is left alone comes to one end. -/
theorem iterate_eq_of_over {state : Course × Till} {moves more : Nat}
    (finished : (alone^[moves] state).1.Over) (also : (alone^[more] state).1.Over)
    : alone^[moves] state = alone^[more] state := by
  have later : alone^[more] (alone^[moves] state) = alone^[moves] state :=
    iterate_of_over finished _ more
  have sooner : alone^[moves] (alone^[more] state) = alone^[more] state :=
    iterate_of_over also _ moves
  rw [← later, ← Function.iterate_add_apply, Nat.add_comm, Function.iterate_add_apply, sooner]

end Course

-----------------------------------------------------------------------------------------
-- Payments that are left alone
-----------------------------------------------------------------------------------------

/-- A payment of which every move follows on the one before. -/
def Purchase.pay (purchase : Purchase) (till : Till) : Course × Till :=
  let ended := (Parties.pay ⟨purchase.customer, till.merchant, ⟨till.store, purchase.outage, none⟩⟩
    purchase.client purchase.amount purchase.justification purchase.source).1
  (⟨purchase, ended.2.customer, .done ended.1⟩, ⟨ended.2.merchant, ended.2.ledger.store⟩)

namespace Parties

/-- How a payment goes on after its masking step. -/
def afterMask (session : SessionId)
    : Outcome ChannelError (MaskedOutputs × ReleasedMasks) × Parties × Entropy
    → Outcome ChannelError Receipt × Parties
  | (.ok (outputs, released), parties, _) => parties.finish session outputs released
  | (.error (.refused reason), parties, _) => parties.dropRound session reason
  | (.error (.overflow kind), parties, _) => (.error (.overflow kind), parties)

/-- A payment that the customer begins goes through its masking step. -/
theorem pay_of_begun (parties : Parties) (client : ServiceClient) {amount : Balance}
    {justification : Option String} {source rest : Entropy} {request : PaymentRequest}
    {begun : Customer}
    (begins : parties.customer.preparePayment amount justification source
      = (.ok (request, begun), rest))
    : (parties.pay client amount justification source).1
      = afterMask request.session
          (Parties.mask { parties with customer := begun } client request rest) := by
  simp only [pay, begins]
  rcases Parties.mask { parties with customer := begun } client request rest
    with ⟨(_ | _) | ⟨_, _⟩, _, _⟩ <;> rfl

end Parties

namespace Course

variable {purchase : Purchase} {customer : Customer} {till : Till} {session : SessionId}

/-- The parties of a payment at a till. -/
def parties (purchase : Purchase) (customer : Customer) (till : Till) : Parties :=
  ⟨customer, till.merchant, ⟨till.store, purchase.outage, none⟩⟩

/-- A payment that is left alone ends with an outcome, and leaves its customer and the till as these
parties.
-/
def EndsAs (course : Course) (till : Till) (ended : Outcome ChannelError Receipt × Parties) : Prop :=
  ∃ moves, alone^[moves] (course, till)
    = (⟨course.purchase, ended.2.customer, .done ended.1⟩,
      ⟨ended.2.merchant, ended.2.ledger.store⟩)

theorem EndsAs.of_move {course : Course} {ended : Outcome ChannelError Receipt × Parties}
    (ends : (course.move till).1.EndsAs (course.move till).2 ended)
    : course.EndsAs till ended := by
  obtain ⟨more, ends⟩ := ends
  rw [purchase_move] at ends
  exact ⟨more + 1, ends⟩

/-- A payment that is over has ended with its outcome. -/
theorem endsAs_done (outcome : Outcome ChannelError Receipt)
    : EndsAs ⟨purchase, customer, .done outcome⟩ till (outcome, parties purchase customer till) :=
  ⟨0, rfl⟩

/-- The moves from the revocation on are the last steps of a payment. -/
theorem endsAs_revoke
    : EndsAs ⟨purchase, customer, .revoke session⟩ till
        ((parties purchase customer till).settle session) := by
  refine .of_move ?_
  rcases reveals : customer.revoke with failure | ⟨revoked, revealing⟩
  · simp only [move, Parties.settle, parties, reveals]
    exact endsAs_done _
  · simp only [move, Parties.settle, parties, reveals]
    refine .of_move ?_
    rcases validates : till.merchant.validateRevoked ⟨till.store, purchase.outage, none⟩ session
      revoked with ⟨failure | opening, merchant, ledger⟩
    · simp only [move, ask, Till.serve, Shop.serve, validates]
      exact ⟨0, rfl⟩
    · simp only [move, ask, Till.serve, Shop.serve, validates]
      exact ⟨1, rfl⟩

/-- The customer takes a payment back on its own. -/
theorem endsAs_abort (reason : ChannelError)
    : EndsAs ⟨purchase, customer, .abort reason⟩ till
        ((parties purchase customer till).dropSignatures reason) := by
  refine .of_move ?_
  rcases aborts : customer.abort with failure | ⟨⟨⟩, after⟩
  · simp only [move, Parties.dropSignatures, parties, aborts]
    exact endsAs_done _
  · simp only [move, Parties.dropSignatures, parties, aborts]
    exact endsAs_done _

/-- Both parties take a payment back. -/
theorem endsAs_drop (reason : ChannelError)
    : EndsAs ⟨purchase, customer, .drop session reason⟩ till
        ((parties purchase customer till).dropRound session reason) := by
  refine .of_move ?_
  rcases fails : till.merchant.failSession session with failure | ⟨⟨⟩, after⟩
  · simp only [move, ask, Till.serve, Shop.serve, Shop.keep, Parties.dropRound,
      Parties.afterwards, parties, fails]
    exact endsAs_abort reason
  · simp only [move, ask, Till.serve, Shop.serve, Shop.keep, Parties.dropRound,
      Parties.afterwards, parties, fails]
    exact endsAs_abort reason

/-- The moves from the signatures on. -/
theorem endsAs_accept (outputs : MaskedOutputs) (released : ReleasedMasks)
    : EndsAs ⟨purchase, customer, .accept session outputs released⟩ till
        ((parties purchase customer till).finish session outputs released) := by
  refine .of_move ?_
  rcases accepts : customer.acceptSignatures outputs released with ⟨(reason | kind) | ⟨⟩, signed⟩
  · simp only [move, Parties.finish, parties, accepts]
    exact endsAs_abort reason
  · simp only [move, Parties.finish, parties, accepts]
    exact endsAs_done _
  · simp only [move, Parties.finish, parties, accepts]
    exact endsAs_revoke

/-- A masking that failed is the end of a payment. -/
theorem endsAs_failed (next : NextMove) (failure : Failure ChannelError) (source : Entropy)
    : EndsAs (failed ⟨purchase, customer, next⟩ session failure) till
        (Parties.afterMask session (.error failure, parties purchase customer till, source)) := by
  cases failure with
  | refused reason => exact endsAs_drop reason
  | overflow kind => exact endsAs_done _

/-- The moves from the merchant's first one on are the masking step and what follows on it. -/
theorem endsAs_register (request : PaymentRequest) (rest : Entropy)
    : EndsAs ⟨purchase, customer, .register request rest⟩ till
        (Parties.afterMask request.session
          ((parties purchase customer till).mask purchase.client request rest)) := by
  refine .of_move ?_
  rcases opens : (till.merchant.preparePayment request).outcome rest
    with failure | ⟨response, opened⟩
  · simp only [move, ask, Till.serve, Shop.serve, Shop.keep, Parties.afterwards, opens, Parties.mask,
      parties, Draw.eq_outcome opens]
    exact endsAs_failed _ _ _
  simp only [move, ask, Till.serve, Shop.serve, Shop.keep, Parties.afterwards, opens, Parties.mask,
    parties, Draw.eq_outcome opens]
  refine .of_move ?_
  rcases gives : customer.maskingInput response with failure | ⟨input, committed⟩
  · simp only [move, gives]
    exact endsAs_failed _ _ _
  simp only [move, gives]
  refine .of_move ?_
  rcases hands : opened.maskingInput request.session with failure | ⟨merchantInput, handed⟩
  · simp only [move, ask, Till.serve, Shop.serve, Shop.keep, Parties.afterwards, hands]
    exact endsAs_failed _ _ _
  simp only [move, ask, Till.serve, Shop.serve, Shop.keep, Parties.afterwards, hands]
  refine .of_move ?_
  rcases serves : purchase.client.call ⟨input, merchantInput⟩ with reason | result
  · simp only [move, serves]
    exact endsAs_failed _ (.refused (.service reason)) _
  simp only [move, serves]
  refine .of_move ?_
  rcases confirms : handed.confirmMasking request.session result.confirmed
    with ⟨failure | released, confirmed⟩
  · simp only [move, ask, Till.serve, Shop.serve, confirms]
    exact endsAs_failed _ _ _
  simp only [move, ask, Till.serve, Shop.serve, confirms]
  exact endsAs_accept _ _

/-- A payment that is left alone ends as one of which every move follows on the one before. -/
theorem endsAs_start (purchase : Purchase) (till : Till)
    : purchase.start.EndsAs till
        (Parties.pay (parties purchase purchase.customer till) purchase.client purchase.amount
          purchase.justification purchase.source).1 := by
  refine .of_move ?_
  rcases begins : purchase.customer.preparePayment purchase.amount purchase.justification
    purchase.source with ⟨failure | ⟨request, begun⟩, rest⟩
  · simp only [move, Purchase.start, begins, Parties.pay, parties]
    exact endsAs_done _
  · rw [Parties.pay_of_begun (parties purchase purchase.customer till) purchase.client begins]
    simp only [move, Purchase.start, begins]
    exact endsAs_register request rest

/-- A payment that nobody comes in between of is over after ten moves, and has ended as it does when
every move follows on the one before.
-/
theorem iterate_start (purchase : Purchase) (till : Till) {moves : Nat}
    (finished : (alone^[moves] (purchase.start, till)).1.Over)
    : alone^[moves] (purchase.start, till) = purchase.pay till := by
  obtain ⟨enough, ends⟩ := endsAs_start purchase till
  have ended : (alone^[enough] (purchase.start, till)).1.Over := by
    rw [ends]
    exact ⟨_, rfl⟩
  rw [iterate_eq_of_over finished ended, ends]
  rfl

end Course

end PaymentChannel
