import PaymentChannel.Proofs.Endings
import PaymentChannel.Proofs.Nonce
import PaymentChannel.Proofs.Opening

/-! What a merchant can tell from the messages of a payment.
All that a customer sends in a payment after its first one was drawn after the channel was opened,
with one exception: the nonce carries the salt that was announced with the first state. So a merchant
can tell the payments of two channels apart exactly as far as their announced nonces differ.
-/

namespace PaymentChannel

open Customer Merchant

-----------------------------------------------------------------------------------------
-- Payments one after another
-----------------------------------------------------------------------------------------

/-- A payment that is asked for, and the source of all bytes that are drawn for it. -/
structure Order where
  amount : Balance
  justification : Option String
  source : Entropy

/-- What a payment is about, without its random bytes. -/
def Order.terms (order : Order) : Balance × Option String := (order.amount, order.justification)

namespace Parties

/-- A payment, with its outcome and the parties afterwards. -/
def fill (parties : Parties) (client : ServiceClient) (order : Order)
    : Outcome ChannelError Receipt × Parties :=
  (parties.pay client order.amount order.justification order.source).1

/-- The parties after some payments. -/
def fillAll (parties : Parties) (client : ServiceClient) (orders : List Order) : Parties :=
  orders.foldl (fun parties order => (parties.fill client order).2) parties

/-- All of these payments go through, one after another. -/
def Completes (client : ServiceClient) : Parties → List Order → Prop
  | _, [] => True
  | parties, order :: rest =>
      (∃ receipt, (parties.fill client order).1 = .ok receipt)
        ∧ (parties.fill client order).2.Completes client rest

/-- The request and the revocation that the customer sends in a payment that comes so far. -/
def messages (parties : Parties) (client : ServiceClient) (order : Order)
    : Option (PaymentRequest × RevokedState) := do
  let (request, _) ← ((parties.customer.preparePayment order.amount order.justification).outcome
    order.source).toOption
  let signed ← parties.sign client order.amount order.justification order.source
  let (revoked, _) ← signed.customer.revoke.toOption
  return (request, revoked)

end Parties

-----------------------------------------------------------------------------------------
-- What a payment discloses
-----------------------------------------------------------------------------------------

/-- What a customer discloses of its state in the next payment. -/
structure Disclosure where
  nonce : Nonce
  lock : RevLock
  secret : RevSecret

namespace Disclosure

/-- The request of a payment that is made with this state. -/
def request (now : Disclosure) (order : Order) : PaymentRequest where
  session := drawnSession order.source
  nonce := now.nonce
  commitment := .commit now.lock (drawnBlinding order.source)
  amount := order.amount
  justification := order.justification

/-- The revocation of this state. -/
def revocation (now : Disclosure) (order : Order) : RevokedState where
  nonce := now.nonce
  commitment := .commit now.lock (drawnBlinding order.source)
  lock := now.lock
  secret := now.secret
  blinding := drawnBlinding order.source

/-- What is to be disclosed after a payment: the next nonce, and a secret that the payment drew. -/
def next (now : Disclosure) (order : Order) : Disclosure where
  nonce := now.nonce.next
  lock := (drawnSecret order.source).lock
  secret := drawnSecret order.source

/-- However many payments are made, the nonce depends on their number only. -/
theorem nonce_foldl (now : Disclosure) (orders : List Order)
    : (orders.foldl next now).nonce = Nonce.next^[orders.length] now.nonce := by
  induction orders generalizing now with
  | nil => rfl
  | cons order rest ih => exact ih (now.next order)

/-- After a payment nothing but the nonce depends on what was disclosed before. -/
theorem foldl_eq_of_ne_nil (now other : Disclosure) {orders : List Order} (some : orders ≠ [])
    : (orders.foldl next other).lock = (orders.foldl next now).lock
      ∧ (orders.foldl next other).secret = (orders.foldl next now).secret := by
  rcases List.eq_nil_or_concat orders with rfl | ⟨earlier, last, rfl⟩
  · exact absurd rfl some
  · simp only [List.concat_eq_append, List.foldl_append, List.foldl_cons, List.foldl_nil, next,
      and_self]

end Disclosure

/-- What the customer is going to disclose, if it has a channel. -/
def Customer.disclosure (customer : Customer) : Option Disclosure :=
  customer.state.map fun state => ⟨state.nonce, state.lock, customer.secret⟩

namespace Parties

variable {parties : Parties} {client : ServiceClient} {order : Order} {orders : List Order}
  {first : Disclosure}

/-- A round that both parties begin leads to the state after its amount, under a drawn lock. -/
theorem new_of_begins {amount : Balance} {justification : Option String} {source : Entropy}
    {round : BegunRound amount justification source} {customer : Customer} {merchant : Merchant}
    (fits : round.Fits customer merchant)
    : round.new.nonce = round.channel.state.nonce.next
      ∧ round.new.lock = (drawnSecret source).lock := by
  obtain ⟨state, allowed, new, pays, -, -, begun⟩ := preparePayment_eq_ok.1 fits.begins
  obtain ⟨-, -, -, -, channel, found, -, rfl⟩ := checkPayment_eq_ok.1 allowed
  cases fits.found.symm.trans found
  have same : round.new = new := congrArg (·.pending.map (·.new)) begun |> Option.some.inj
  obtain ⟨_, -, _, -, rfl⟩ := ChannelState.pay_eq_ok.1 pays
  rw [same]
  exact ⟨rfl, rfl⟩

/-- In a payment that goes through the customer sends what it had to disclose, and is going to disclose
the next state.
-/
theorem messages_of_fill {receipt : Receipt}
    (goes : (parties.fill client order).1 = .ok receipt)
    : ∃ now, parties.customer.disclosure = some now
      ∧ parties.messages client order = some (now.request order, now.revocation order)
      ∧ (parties.fill client order).2.customer.disclosure = some (now.next order) := by
  have ends := parties.ends client order.amount order.justification order.source
  rcases ended : parties.fill client order with ⟨outcome, after⟩
  have paid : (parties.pay client order.amount order.justification order.source).1
      = (outcome, after) := ended
  rw [ended] at goes
  rw [paid, show outcome = .ok receipt from goes] at ends
  cases ends with
  | completed round signs opens written =>
      have reveals := SignedRound.revoke_signed signs.toFits
      obtain ⟨nonce, lock⟩ := new_of_begins signs.toFits
      refine ⟨⟨round.channel.state.nonce, round.channel.state.lock, parties.customer.secret⟩, ?_, ?_,
        ?_⟩
      · simp only [Customer.disclosure, Customer.state, signs.toFits.found, Option.map_some]
      · simp only [messages, signs.toFits.begins, signs.signs, reveals, Except.toOption,
          Option.bind_eq_bind, Option.bind_some]
        rfl
      · simp only [Customer.disclosure, Customer.state, SignedRound.paid, SignedRound.moved,
          Option.map_some, nonce, lock]
        rfl

/-- Payments that all go through leave the customer with what follows from their number and from the
draws of the last one, by induction on the payments.
-/
theorem Completes.disclosure (goes : parties.Completes client orders)
    (now : parties.customer.disclosure = some first)
    : (parties.fillAll client orders).customer.disclosure
      = some (orders.foldl Disclosure.next first) := by
  induction orders generalizing parties first with
  | nil => exact now
  | cons order rest ih =>
      obtain ⟨⟨receipt, paid⟩, goes⟩ := goes
      obtain ⟨_, here, -, next⟩ := messages_of_fill paid
      cases now.symm.trans here
      exact ih goes next

/-- Payments that all go through do so up to any point. -/
theorem Completes.of_append {earlier later : List Order}
    (goes : parties.Completes client (earlier ++ later))
    : parties.Completes client earlier ∧ (parties.fillAll client earlier).Completes client later := by
  induction earlier generalizing parties with
  | nil => exact ⟨trivial, goes⟩
  | cons order rest ih =>
      obtain ⟨paid, goes⟩ := goes
      exact ⟨⟨paid, (ih goes).1⟩, (ih goes).2⟩

/-- What is sent in the last one of some payments. -/
theorem Completes.messages {earlier : List Order}
    (goes : parties.Completes client (earlier ++ [order]))
    (now : parties.customer.disclosure = some first)
    : (parties.fillAll client earlier).messages client order
      = some ((earlier.foldl Disclosure.next first).request order,
        (earlier.foldl Disclosure.next first).revocation order) := by
  obtain ⟨before, ⟨receipt, paid⟩, -⟩ := goes.of_append
  obtain ⟨last, here, sent, -⟩ := messages_of_fill paid
  cases (before.disclosure now).symm.trans here
  exact sent

end Parties

-----------------------------------------------------------------------------------------
-- Channels that were opened
-----------------------------------------------------------------------------------------

/-- A customer with a channel in which nothing was paid yet: its state is the one that it announced,
whose nonce counts no payments.
-/
structure Customer.Announced (customer : Customer) (init : InitialState) : Prop where
  state : ∃ channel, customer.channel = some channel ∧ channel.state = init.state channel.token
  first : ∃ salt, init.nonce = .first salt

section Opened

-- Unification would compute keys and hashes where comparing their arguments is enough.
attribute [local irreducible] SecretKey.publicKey SignableTx.txid SignableTx.sign
  SignableTx.verifies sha256 hmacSha256

/-- An opening that goes through leaves the customer in the state that it announced. -/
theorem Customer.Announced.of_establish {params : ChannelParams} {keys : MerchantKeys}
    {customerBalance merchantBalance : Balance} {name : String} {source : Entropy}
    {start funded ready : Customer} {registered merchant : Merchant} {funding : FundingSource}
    {request : OpenRequest} {init : InitialState}
    (starts : (Customer.init params keys customerBalance merchantBalance name).outcome source
      = .ok start)
    (funds : start.fund funding = .ok (request, funded))
    (announces : funded.initialState = .ok init)
    (establishes : establish funded registered = .ok (ready, merchant))
    : ready.Announced init := by
  obtain ⟨-, _, -, _, -, _, -, rfl⟩ := Customer.init_eq_ok.1 starts
  obtain ⟨-, -, _, -, _, _, -, _, -, -, -, rfl⟩ := fund_eq_ok.1 funds
  obtain ⟨-, _, found, rfl⟩ := initialState_eq_ok.1 announces
  cases found
  obtain ⟨_, -, _, _, -, _, stores, _, -, _, accepts, _, -, _, _, requests, _, -, _, finishes, rfl,
    -⟩ := establish_eq_ok.1 establishes
  obtain ⟨-, _, found, -, rfl⟩ := storeInitialSignatures_eq_ok.1 stores
  cases found
  obtain ⟨-, -, rfl⟩ := Customer.markOpen_eq_ok.1 accepts
  obtain ⟨-, -, _, -, -, rfl⟩ := requestActivation_eq_ok.1 requests
  obtain ⟨-, rfl⟩ := finishActivation_eq_ok.1 finishes
  exact ⟨⟨_, rfl, rfl⟩, _, rfl⟩

end Opened

/-- What such a customer discloses first. -/
theorem Customer.Announced.disclosure {customer : Customer} {init : InitialState}
    (announced : customer.Announced init)
    : customer.disclosure = some ⟨init.nonce, init.lock, customer.secret⟩ := by
  obtain ⟨channel, found, state⟩ := announced.state
  simp only [Customer.disclosure, Customer.state, found, Option.map_some, state]
  rfl

/-- Equal messages come from customers that announced the same nonce, whatever they paid before and
drew for it.
-/
theorem announced_nonce_eq {alice bob : Parties} {aliceInit bobInit : InitialState}
    (aliceOpened : alice.customer.Announced aliceInit)
    (bobOpened : bob.customer.Announced bobInit)
    {client : ServiceClient} {earlier others : List Order} {last final : Order}
    (alicePays : alice.Completes client (earlier ++ [last]))
    (bobPays : bob.Completes client (others ++ [final]))
    (equal : (bob.fillAll client others).messages client final
      = (alice.fillAll client earlier).messages client last)
    : bobInit.nonce = aliceInit.nonce := by
  rw [alicePays.messages aliceOpened.disclosure, bobPays.messages bobOpened.disclosure,
    Option.some.injEq, Prod.mk.injEq] at equal
  have nonce : (others.foldl Disclosure.next _).nonce = (earlier.foldl Disclosure.next _).nonce :=
    congrArg PaymentRequest.nonce equal.1
  have salt := congrArg Nonce.salt nonce
  rw [Disclosure.nonce_foldl, Disclosure.nonce_foldl, Nonce.salt_iterate, Nonce.salt_iterate] at salt
  obtain ⟨aliceSalt, first⟩ := aliceOpened.first
  obtain ⟨bobSalt, second⟩ := bobOpened.first
  simp only [first, second, Nonce.salt_first] at salt ⊢
  rw [salt]

/-- The messages of a payment show of its channel the announced nonce and nothing else. Of two
customers that announced their first states to a merchant and whose later payments go through with the
same draws, the last messages differ in the nonce only. With whatever draws, the one customer can send
what the other one sends if and only if they announced the same nonce.
-/
theorem last_messages_equal_iff {alice bob : Parties} {aliceInit bobInit : InitialState}
    (aliceOpened : alice.customer.Announced aliceInit)
    (bobOpened : bob.customer.Announced bobInit)
    {client : ServiceClient} {earlier : List Order} {last : Order} (several : earlier ≠ [])
    (alicePays : alice.Completes client (earlier ++ [last]))
    (bobPays : bob.Completes client (earlier ++ [last]))
    : ((∃ others final, others.map Order.terms = earlier.map Order.terms
          ∧ final.terms = last.terms
          ∧ bob.Completes client (others ++ [final])
          ∧ (bob.fillAll client others).messages client final
            = (alice.fillAll client earlier).messages client last)
        ↔ bobInit.nonce = aliceInit.nonce)
      ∧ ∃ request revoked nonce,
        (alice.fillAll client earlier).messages client last = some (request, revoked)
        ∧ (bob.fillAll client earlier).messages client last
          = some ({ request with nonce }, { revoked with nonce }) := by
  have aliceSends := alicePays.messages aliceOpened.disclosure
  have bobSends := bobPays.messages bobOpened.disclosure
  -- The payment before drew the lock and the secret, so only the nonce goes back to the start.
  obtain ⟨lock, secret⟩ := Disclosure.foldl_eq_of_ne_nil
    ⟨aliceInit.nonce, aliceInit.lock, alice.customer.secret⟩
    ⟨bobInit.nonce, bobInit.lock, bob.customer.secret⟩ several
  have aliceNonce := Disclosure.nonce_foldl
    ⟨aliceInit.nonce, aliceInit.lock, alice.customer.secret⟩ earlier
  have bobNonce := Disclosure.nonce_foldl
    ⟨bobInit.nonce, bobInit.lock, bob.customer.secret⟩
  refine ⟨⟨?_, fun announced => ⟨earlier, last, rfl, rfl, bobPays, ?_⟩⟩, _, _,
    (earlier.foldl Disclosure.next ⟨bobInit.nonce, bobInit.lock, bob.customer.secret⟩).nonce,
    aliceSends, ?_⟩
  · rintro ⟨others, final, -, -, goes, equal⟩
    exact announced_nonce_eq aliceOpened bobOpened alicePays goes equal
  · have nonce := (bobNonce earlier).trans ((congrArg _ announced).trans aliceNonce.symm)
    rw [aliceSends, bobSends]
    simp only [Disclosure.request, Disclosure.revocation, lock, secret, nonce]
  · rw [bobSends]
    simp only [Disclosure.request, Disclosure.revocation, lock, secret]

section Example

-- Unification would compute keys and hashes where comparing their arguments is enough.
attribute [local irreducible] SecretKey.publicKey SignableTx.txid SignableTx.sign
  SignableTx.verifies sha256 hmacSha256

/-- The channel of the example under a salt. -/
def guestChannel (salt : Bytes 8) : FundedChannel :=
  { patronChannel with
    state := { patronChannel.state with nonce := .first salt }
    signatures := some patronSignatures }

/-- A customer of the example with this channel. -/
def guest (salt : Bytes 8) : Customer :=
  { readyPatron with
    initialNonce := .first salt
    channel := some (guestChannel salt)
    payToken := some (.compute ⟨.ofNat 32 1⟩ (guestChannel salt).state) }

/-- What it announced. -/
def guestInit (salt : Bytes 8) : InitialState := (guest salt).announcement (guestChannel salt)

theorem guest_announced (salt : Bytes 8) : (guest salt).Announced (guestInit salt) :=
  ⟨⟨_, rfl, rfl⟩, salt, rfl⟩

theorem guest_concord (salt : Bytes 8)
    : Concord (guest salt) (guestChannel salt) steadyShop.merchant where
  ready := rfl
  idle := rfl
  trusted := rfl
  found := rfl
  payToken := rfl
  params := rfl
  issuer := ChannelToken.checkMerchant_eq_ok.2 ⟨rfl, rfl, rfl⟩
  signer := rfl
  fits := ChannelToken.checkState_eq_ok.2 ⟨rfl, rfl, ⟨rfl, rfl⟩, rfl, rfl⟩
  lock := rfl

/-- Two payments of 5. -/
def firstOrder : Order := ⟨5, none, patronEntropy⟩

def secondOrder : Order := ⟨5, none, .ofBlocks fun _ => .ofNat 32 3⟩

/-- The states after them. -/
def guestSecond (salt : Bytes 8) : ChannelState :=
  { patronSecond with nonce := (Nonce.first salt).next }

def guestThird (salt : Bytes 8) : ChannelState :=
  { guestSecond salt with
    nonce := (Nonce.first salt).next.next
    lock := (drawnSecret secondOrder.source).lock
    customerBalance := 9990
    merchantBalance := 10010 }

/-- The ledger after the first payment. -/
def guestLedger : Ledger :=
  { store := .memory (Dict.empty.insert patronChannel.state.lock patron.secret) }

/-- States with these balances can be closed. -/
theorem guest_closes {state : ChannelState} {balances : CloseBalances}
    (balanced : state.balances = .ok balances)
    (few : balances = ⟨9995, 10005⟩ ∨ balances = ⟨9990, 10010⟩) (source : CloseSource)
    : ∃ close, patronToken.customerCloseTx source state soleKey.publicKey .default = .ok close := by
  rcases few with rfl | rfl
  all_goals
    cases source with
    | escrow => exact ⟨_, ChannelToken.customerCloseTx_eq_ok.2 ⟨_, balanced, rfl⟩⟩
    | merchantClose => exact ⟨_, ChannelToken.customerCloseTx_eq_ok.2 ⟨_, balanced, rfl⟩⟩

-- The salt keeps amounts from being computed, so they are taken from states without it.
theorem guest_payable (salt : Bytes 8)
    : Concord.Payable (guest salt) (guestChannel salt) steadyShop.merchant steadyShop.ledger 5 none
        patronEntropy (guestSecond salt) guestLedger := by
  have fresh : (Nonce.first salt).next ≠ .first salt :=
    Nonce.next_ne (by rw [Nonce.count_first]; decide)
  have checked : readyPatron.checkAmount patronChannel.state 5 = .ok () := rfl
  have less : (Balance.sub 10000 5 : Outcome ChannelError Balance) = .ok 9995 := rfl
  have more : (Balance.add 10000 5 : Outcome ChannelError Balance) = .ok 10005 := rfl
  have worth : CloseBalances.ofBalances 9995 10005 = .ok ⟨9995, 10005⟩ := rfl
  refine ⟨checked, ChannelState.pay_eq_ok.2 ⟨9995, less, 10005, more, rfl⟩,
    fresh, Merchant.checkPayment_eq_ok.2 ⟨⟨rfl, rfl⟩, rfl, rfl⟩, guest_closes worth (.inl rfl), rfl⟩

theorem guest_payable_again (salt : Bytes 8) (signatures : CloseSignatures) (record : SpentNonce)
    : ∃ recorded, Concord.Payable
        (Concord.paid (guest salt) (guestChannel salt) steadyShop.merchant (guestSecond salt) signatures
          patronEntropy)
        { guestChannel salt with state := guestSecond salt, signatures := some signatures }
        (steadyShop.merchant.spend (.first salt) record) guestLedger 5 none secondOrder.source
        (guestThird salt) recorded := by
  have fresh : (Nonce.first salt).next ≠ .first salt :=
    Nonce.next_ne (by rw [Nonce.count_first]; decide)
  have count := Nonce.count_next _ fresh
  rw [Nonce.count_first] at count
  have checked : readyPatron.checkAmount patronSecond 5 = .ok () := rfl
  have less : (Balance.sub 9995 5 : Outcome ChannelError Balance) = .ok 9990 := rfl
  have more : (Balance.add 10005 5 : Outcome ChannelError Balance) = .ok 10010 := rfl
  have worth : CloseBalances.ofBalances 9990 10010 = .ok ⟨9990, 10010⟩ := rfl
  have unspent : (steadyShop.merchant.spend (.first salt) record).spentNonces.get?
      (Nonce.first salt).next = none := by
    rw [Merchant.spend, Dict.get?_insert_of_ne fresh]
    rfl
  have apart : patronSecond.lock ≠ patronChannel.state.lock := by decide +kernel
  have missing : (Dict.empty.insert patronChannel.state.lock patron.secret).get? patronSecond.lock
      = none :=
    Dict.get?_insert_of_ne apart
  have written : guestLedger.put patronSecond.lock (drawnSecret patronEntropy)
      = .ok { store := .memory ((Dict.empty.insert patronChannel.state.lock patron.secret).insert
        patronSecond.lock (drawnSecret patronEntropy)) } := by
    simp only [guestLedger, Ledger.put, MemoryLedger.put, missing]
    rfl
  exact ⟨_, checked, ChannelState.pay_eq_ok.2 ⟨9990, less, 10010, more, rfl⟩,
    Nonce.next_ne (by rw [count]; decide),
    Merchant.checkPayment_eq_ok.2 ⟨⟨Dict.contains_eq_false_iff.2 unspent, rfl⟩, rfl, rfl⟩,
    guest_closes worth (.inr rfl), written⟩

/-- Both payments go through. -/
theorem guest_completes (salt : Bytes 8)
    : Parties.Completes (.direct 0) ⟨guest salt, steadyShop.merchant, steadyShop.ledger⟩
        ([firstOrder] ++ [secondOrder]) := by
  have payable := guest_payable salt
  obtain ⟨signatures, opening, paid, -⟩ := (guest_concord salt).completes payable 0
  have agrees := (guest_concord salt).paid_agrees payable.pays signatures (.first salt)
    ⟨drawnSession patronEntropy, some ((guestChannel salt).state.lock, (guest salt).secret), opening⟩
  obtain ⟨_, again⟩ := guest_payable_again salt signatures _
  obtain ⟨_, _, repaid, -⟩ := agrees.completes again 0
  have filled : Parties.fill ⟨guest salt, steadyShop.merchant, steadyShop.ledger⟩ (.direct 0) firstOrder
      = _ := paid
  have refilled : Parties.fill _ (.direct 0) secondOrder = _ := repaid
  refine ⟨⟨_, congrArg Prod.fst filled⟩, ?_⟩
  rw [filled]
  exact ⟨⟨_, congrArg Prod.fst refilled⟩, trivial⟩

/-- Two customers announce different salts and each makes two payments, with the same draws. -/
theorem last_messages_equal_iff_guest
    : let alice : Parties := ⟨guest (.ofNat 8 0), steadyShop.merchant, steadyShop.ledger⟩
      let bob : Parties := ⟨guest (.ofNat 8 1), steadyShop.merchant, steadyShop.ledger⟩
      alice.customer.Announced (guestInit (.ofNat 8 0))
        ∧ bob.customer.Announced (guestInit (.ofNat 8 1))
        ∧ alice.Completes (.direct 0) ([firstOrder] ++ [secondOrder])
        ∧ bob.Completes (.direct 0) ([firstOrder] ++ [secondOrder])
        ∧ ∃ request revoked nonce,
          (alice.fillAll (.direct 0) [firstOrder]).messages (.direct 0) secondOrder
            = some (request, revoked)
          ∧ (bob.fillAll (.direct 0) [firstOrder]).messages (.direct 0) secondOrder
            = some ({ request with nonce }, { revoked with nonce }) := by
  intro alice bob
  have alicePays := guest_completes (.ofNat 8 0)
  have bobPays := guest_completes (.ofNat 8 1)
  have equal := last_messages_equal_iff (guest_announced (.ofNat 8 0)) (guest_announced (.ofNat 8 1))
    (List.cons_ne_nil _ _) alicePays bobPays
  exact ⟨guest_announced _, guest_announced _, alicePays, bobPays, equal.2⟩

/-- With no draws whatever can the one of these customers send what the other one sends. -/
theorem guests_told_apart
    : let alice : Parties := ⟨guest (.ofNat 8 0), steadyShop.merchant, steadyShop.ledger⟩
      let bob : Parties := ⟨guest (.ofNat 8 1), steadyShop.merchant, steadyShop.ledger⟩
      alice.customer.Announced (guestInit (.ofNat 8 0))
        ∧ bob.customer.Announced (guestInit (.ofNat 8 1))
        ∧ alice.Completes (.direct 0) ([firstOrder] ++ [secondOrder])
        ∧ bob.Completes (.direct 0) ([firstOrder] ++ [secondOrder])
        ∧ ¬∃ others final, others.map Order.terms = [firstOrder].map Order.terms
          ∧ final.terms = secondOrder.terms
          ∧ bob.Completes (.direct 0) (others ++ [final])
          ∧ (bob.fillAll (.direct 0) others).messages (.direct 0) final
            = (alice.fillAll (.direct 0) [firstOrder]).messages (.direct 0) secondOrder := by
  intro alice bob
  have alicePays := guest_completes (.ofNat 8 0)
  have bobPays := guest_completes (.ofNat 8 1)
  refine ⟨guest_announced _, guest_announced _, alicePays, bobPays, ?_⟩
  rintro ⟨others, final, -, -, goes, equal⟩
  have nonce := announced_nonce_eq (guest_announced (.ofNat 8 0)) (guest_announced (.ofNat 8 1))
    alicePays goes equal
  exact absurd nonce (by decide)

end Example

end PaymentChannel
