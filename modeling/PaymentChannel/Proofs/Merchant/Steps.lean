import PaymentChannel.Proofs.Merchant.Operations

/-! What a call makes of a shop.
Whatever a merchant is called for, the call is one of a few kinds of steps. Everything that holds
through all runs is derived from these steps and never from the operations again.
-/

namespace PaymentChannel

namespace Merchant

-----------------------------------------------------------------------------------------
-- Fields after changes
-----------------------------------------------------------------------------------------

section Fields

variable (merchant : Merchant)

@[simp] theorem setChannel_channels (escrow : Txid) (channel : MerchantChannel)
    : (merchant.setChannel escrow channel).channels = merchant.channels.insert escrow channel :=
  rfl

@[simp] theorem setSession_channels (id : SessionId) (session : Session)
    : (merchant.setSession id session).channels = merchant.channels := rfl

@[simp] theorem setSession_sessions (id : SessionId) (session : Session)
    : (merchant.setSession id session).sessions = merchant.sessions.insert id session := rfl

@[simp] theorem setSession_liveNonces (id : SessionId) (session : Session)
    : (merchant.setSession id session).liveNonces = merchant.liveNonces := rfl

@[simp] theorem setSession_spentNonces (id : SessionId) (session : Session)
    : (merchant.setSession id session).spentNonces = merchant.spentNonces := rfl

@[simp] theorem spend_channels (nonce : Nonce) (record : SpentNonce)
    : (merchant.spend nonce record).channels = merchant.channels := rfl

@[simp] theorem spend_sessions (nonce : Nonce) (record : SpentNonce)
    : (merchant.spend nonce record).sessions = merchant.sessions := rfl

@[simp] theorem spend_spentNonces (nonce : Nonce) (record : SpentNonce)
    : (merchant.spend nonce record).spentNonces = merchant.spentNonces.insert nonce record := rfl

/-- Closing a session that is under way removes it and its nonce. -/
theorem closeSession_of_get? {merchant : Merchant} {id : SessionId} {session : Session}
    (found : merchant.sessions.get? id = some session)
    : merchant.closeSession id
      = { merchant with
          sessions := merchant.sessions.erase id
          liveNonces := merchant.liveNonces.erase session.nonce } := by
  simp [closeSession, found]

@[simp] theorem closeSession_sessions (merchant : Merchant) (id : SessionId)
    : (merchant.closeSession id).sessions = merchant.sessions.erase id := by
  unfold closeSession
  split
  case h_1 => rfl
  case h_2 missing => exact (Dict.erase_of_get?_eq_none missing).symm

@[simp] theorem closeSession_channels (id : SessionId)
    : (merchant.closeSession id).channels = merchant.channels := by
  unfold closeSession
  split <;> rfl

@[simp] theorem closeSession_spentNonces (id : SessionId)
    : (merchant.closeSession id).spentNonces = merchant.spentNonces := by
  unfold closeSession
  split <;> rfl

/-- A session that is left after another one was closed was there before. -/
theorem get?_of_closeSession {merchant : Merchant} {id other : SessionId} {session : Session}
    (found : (merchant.closeSession id).sessions.get? other = some session)
    : merchant.sessions.get? other = some session := by
  rw [closeSession_sessions, Dict.get?_erase] at found
  split at found
  case isTrue => cases found
  case isFalse => exact found

end Fields

end Merchant

-----------------------------------------------------------------------------------------
-- Events
-----------------------------------------------------------------------------------------

/-- A payment as it began: what was asked, the source of the random bytes and the answer. -/
structure Payment where
  request : PaymentRequest
  source : Entropy
  response : PaymentResponse

/-- What moves payments on. -/
inductive PaymentEvent
  | began (payment : Payment)
  /-- The masks of the signatures were released. -/
  | confirmed (id : SessionId)
  /-- The mask of the new pay token was released. -/
  | released (id : SessionId) (revoked : RevokedState) (opening : PayMaskOpening)

/-- What the merchant signs, issues, gives out or refuses as disproved. -/
inductive MerchantEvent
  /-- The close transactions of an announced first state were signed. -/
  | announced (init : InitialState)
  /-- The pay token of a first state was issued. -/
  | issued (state : ChannelState)
  /-- The input of the masking service was given out. -/
  | handed (id : SessionId) (input : MerchantInput)
  | payment (event : PaymentEvent)
  /-- A revocation was refused as wrong. -/
  | disproved (id : SessionId) (revoked : RevokedState)

/-- The event of payments that an event is, if it is one. -/
def MerchantEvent.payment? : MerchantEvent → Option PaymentEvent
  | .payment event => some event
  | _ => none

namespace MerchantExchange

/-- The event that an exchange makes known. -/
def event? : MerchantExchange → Option MerchantEvent
  | ⟨.signInitial init, .ok _⟩ => some (.announced init)
  | ⟨.activate _ state, .ok _⟩ => some (.issued state)
  | ⟨.preparePayment request source, .ok response⟩ =>
      some (.payment (.began ⟨request, source, response⟩))
  | ⟨.maskingInput id, .ok input⟩ => some (.handed id input)
  | ⟨.confirmMasking id _, .ok _⟩ => some (.payment (.confirmed id))
  | ⟨.validateRevoked id revoked, .ok opening⟩ => some (.payment (.released id revoked opening))
  | ⟨.validateRevoked id revoked, .error (.refused .invalidRevocationProof)⟩ =>
      some (.disproved id revoked)
  | _ => none

/-- The event of payments that an exchange makes known. -/
def payment? (exchange : MerchantExchange) : Option PaymentEvent :=
  exchange.event?.bind (·.payment?)

end MerchantExchange

-----------------------------------------------------------------------------------------
-- Kinds of steps
-----------------------------------------------------------------------------------------

open Merchant

/-- How a shop changes in an exchange. -/
inductive ShopStep (shop : Shop) : MerchantExchange → Shop → Prop
  /-- Nothing changes and nothing becomes known. -/
  | silent {exchange : MerchantExchange} (quiet : exchange.event? = none)
    : ShopStep shop exchange shop
  /-- A channel is registered, for the first time or in place of one that is not funded. -/
  | registered {exchange : MerchantExchange} {escrow : Txid} {channel : MerchantChannel}
    (quiet : exchange.event? = none) (fits : channel.token.escrowTxid = escrow)
    (free : ∀ known, shop.merchant.channels.get? escrow = some known → known.status = .unfunded)
    (init : channel.init = none) (unfunded : channel.status = .unfunded)
    (agrees : shop.merchant.Agrees channel)
    : ShopStep shop exchange { shop with merchant := shop.merchant.setChannel escrow channel }
  /-- The close transactions of an announcement are signed, in place of an earlier one. -/
  | announced {init : InitialState} {signatures : CloseSignatures} {channel : MerchantChannel}
    (found : shop.merchant.channels.get? init.escrowTxid = some channel)
    (unfunded : channel.status = .unfunded)
    (balances : init.customerBalance = channel.funding.customerBalance
      ∧ init.merchantBalance = channel.funding.merchantBalance)
    : ShopStep shop ⟨.signInitial init, .ok signatures⟩
        { shop with
          merchant := shop.merchant.setChannel init.escrowTxid { channel with init := some init } }
  /-- A channel moves on to another status, past the first one. -/
  | moved {exchange : MerchantExchange} {escrow : Txid} {channel : MerchantChannel}
    {status : ChannelStatus} (quiet : exchange.event? = none)
    (found : shop.merchant.channels.get? escrow = some channel) (past : status ≠ .unfunded)
    : ShopStep shop exchange
        { shop with merchant := shop.merchant.setChannel escrow { channel with status } }
  /-- The pay token of the announced state is issued while its nonce is not used up. -/
  | issued {escrow : Txid} {state : ChannelState} {token : PayToken} {channel : MerchantChannel}
    (found : shop.merchant.channels.get? escrow = some channel)
    (confirmed : channel.status = .confirmed)
    (first : channel.init.map (·.state channel.token) = some state)
    (unspent : shop.merchant.spentNonces.get? state.nonce = none)
    (fits : channel.token.checkState state = .ok ())
    : ShopStep shop ⟨.activate escrow state, .ok token⟩ shop
  /-- A session opens with an identifier and a nonce that were free. -/
  | began {request : PaymentRequest} {source : Entropy}
    (checked : shop.merchant.checkPayment request = .ok ())
    : ShopStep shop
        ⟨.preparePayment request source,
          .ok ⟨request.session,
            .commit (drawnOpening source).mask (drawnOpening source).randomness⟩⟩
        { shop with
          merchant :=
            { shop.merchant.setSession request.session (begunSession request source) with
              liveNonces := shop.merchant.liveNonces.insert request.nonce request.session } }
  /-- A prepared session gives out its input for the masking service. -/
  | handed {id : SessionId} {session : Session}
    (found : shop.merchant.sessions.get? id = some session) (prepared : session.status = .prepared)
    : ShopStep shop ⟨.maskingInput id, .ok (shop.merchant.inputOf id session)⟩
        { shop with merchant := shop.merchant.setSession id { session with status := .updating } }
  /-- An updating session is confirmed and releases the masks of its signatures. -/
  | confirmed {id : SessionId} {session : Session}
    (found : shop.merchant.sessions.get? id = some session) (updating : session.status = .updating)
    : ShopStep shop ⟨.confirmMasking id true, .ok ⟨id, session.masks⟩⟩
        { shop with merchant := shop.merchant.setSession id { session with status := .confirmed } }
  /-- A session that was not confirmed is dropped, and its nonce is free again. -/
  | dropped {exchange : MerchantExchange} {id : SessionId} {session : Session}
    (quiet : exchange.event? = none) (found : shop.merchant.sessions.get? id = some session)
    (unconfirmed : session.status = .prepared ∨ session.status = .updating)
    : ShopStep shop exchange { shop with merchant := shop.merchant.closeSession id }
  /-- A wrong revocation uses the nonce of a confirmed session up. -/
  | spoiled {id : SessionId} {session : Session} {revoked : RevokedState}
    (found : shop.merchant.sessions.get? id = some session)
    (confirmed : session.status = .confirmed) (wrong : ¬RightRevocation session revoked)
    : ShopStep shop ⟨.validateRevoked id revoked, .error (.refused .invalidRevocationProof)⟩
        { shop with
          merchant :=
            (shop.merchant.spend session.nonce ⟨id, none, session.opening⟩).closeSession id }
  /-- A right revocation is recorded, uses the nonce of a confirmed session up and releases its
  opening.
  -/
  | revoked {id : SessionId} {session : Session} {revoked : RevokedState} {recorded : Ledger}
    (found : shop.merchant.sessions.get? id = some session)
    (confirmed : session.status = .confirmed) (right : RightRevocation session revoked)
    (written : shop.ledger.put revoked.lock revoked.secret = .ok recorded)
    : ShopStep shop ⟨.validateRevoked id revoked, .ok session.opening⟩
        ⟨(shop.merchant.spend session.nonce
          ⟨id, some (revoked.lock, revoked.secret), session.opening⟩).closeSession id, recorded⟩
  /-- The opening of a nonce that is used up is released again. -/
  | repeated {id : SessionId} {revoked : RevokedState} {opening : PayMaskOpening}
    (gone : shop.merchant.sessions.get? id = none)
    (released : shop.merchant.releasedOpening id revoked = .ok opening)
    : ShopStep shop ⟨.validateRevoked id revoked, .ok opening⟩ shop
  /-- A revocation without a session is refused. -/
  | refused {id : SessionId} {revoked : RevokedState} {failure : Failure ChannelError}
    (gone : shop.merchant.sessions.get? id = none)
    : ShopStep shop ⟨.validateRevoked id revoked, .error failure⟩ shop

namespace Shop

variable {shop : Shop}

/-- A revocation that is refused for another reason than that it is wrong makes nothing known. -/
theorem event?_of_ne {id : SessionId} {revoked : RevokedState} {failure : Failure ChannelError}
    (other : failure ≠ .refused .invalidRevocationProof)
    : MerchantExchange.event? ⟨.validateRevoked id revoked, .error failure⟩ = none := by
  rcases failure with reason | kind
  · cases reason with
    | invalidRevocationProof => exact absurd rfl other
    | _ => rfl
  · rfl

/-- A call that changes nothing when it is refused leads to the merchant of its success. -/
theorem after_of_keep {call : MerchantCall} {outcome : Outcome ChannelError (call.Answer × Merchant)}
    {answer : call.Answer} {merchant : Merchant} (serves : shop.serve call = shop.keep outcome)
    (succeeded : outcome = .ok (answer, merchant))
    : shop.after call = { shop with merchant } := by
  rw [Shop.after, serves, succeeded]
  rfl

/-- A call that changes nothing when it is refused is a step if its success is one. -/
theorem step_keep {call : MerchantCall} {outcome : Outcome ChannelError (call.Answer × Merchant)}
    (quiet : ∀ failure, MerchantExchange.event? ⟨call, .error failure⟩ = none)
    (succeeded : ∀ answer merchant, outcome = .ok (answer, merchant)
      → ShopStep shop ⟨call, .ok answer⟩ { shop with merchant })
    : ShopStep shop ⟨call, (shop.keep outcome).1⟩ (shop.keep outcome).2 := by
  rcases ended : outcome with failure | ⟨answer, after⟩
  · exact .silent (quiet failure)
  · exact succeeded answer after ended

/-- Every call is one of the steps, by cases on the call and on its outcome. -/
theorem step (shop : Shop) (call : MerchantCall)
    : ShopStep shop (shop.exchange call) (shop.after call) := by
  cases call with
  | openChannel request =>
      refine step_keep (fun _ => rfl) fun signed after opened => ?_
      obtain ⟨checked, free, value, worth, _, -, -, -, -, rfl⟩ := openChannel_eq_ok.1 opened
      exact .registered rfl rfl (checkUnfunded_eq_ok.1 free) rfl rfl ⟨⟨_, checked⟩, value, worth⟩
  | signInitial init =>
      refine step_keep (fun _ => rfl) fun signatures after signed => ?_
      obtain ⟨_, found, unfunded, -, balances, _, -, _, -, -, rfl⟩ := signInitial_eq_ok.1 signed
      exact .announced found unfunded balances
  | validateInitial init hash =>
      refine step_keep (fun _ => rfl) fun answer after validated => ?_
      obtain ⟨_, found, -, -, rfl⟩ := validateInitial_eq_ok.1 validated
      exact .moved rfl found nofun
  | markOpen escrow =>
      refine step_keep (fun _ => rfl) fun answer after marked => ?_
      obtain ⟨_, found, -, rfl⟩ := markOpen_eq_ok.1 marked
      exact .moved rfl found nofun
  | activate escrow state =>
      unfold exchange Shop.after
      rcases ended : shop.merchant.activate escrow state with failure | token
      · simp only [serve, ended]
        exact .silent rfl
      · simp only [serve, ended]
        obtain ⟨_, found, confirmed, fits, first, unspent, -⟩ := activate_eq_ok.1 ended
        exact .issued found confirmed first (Dict.contains_eq_false_iff.1 unspent) fits
  | preparePayment request source =>
      refine step_keep (fun _ => rfl) fun response after prepared => ?_
      obtain ⟨checked, rfl, rfl⟩ := preparePayment_eq_ok.1 prepared
      exact .began checked
  | maskingInput id =>
      refine step_keep (fun _ => rfl) fun input after handed => ?_
      obtain ⟨session, found, prepared, rfl, rfl⟩ := maskingInput_eq_ok.1 handed
      exact .handed found prepared
  | confirmMasking id confirmed =>
      unfold exchange Shop.after
      rcases ended : shop.merchant.confirmMasking id confirmed with ⟨failure | released, after⟩
      · simp only [serve, ended]
        rcases confirmMasking_error ended with rfl | ⟨session, found, updating, -, rfl⟩
        · exact .silent rfl
        · exact .dropped rfl found (.inr updating)
      · simp only [serve, ended]
        obtain ⟨session, found, updating, rfl, rfl, rfl⟩ := confirmMasking_eq_ok.1 ended
        exact .confirmed found updating
  | failSession id =>
      refine step_keep (fun _ => rfl) fun answer after dropped => ?_
      obtain ⟨session, found, unconfirmed, rfl⟩ := failSession_eq_ok.1 dropped
      exact .dropped rfl found unconfirmed
  | validateRevoked id revoked =>
      unfold exchange Shop.after
      rcases ended : shop.merchant.validateRevoked shop.ledger id revoked
        with ⟨failure | opening, after, recorded⟩
      · simp only [serve, ended]
        obtain ⟨rfl, ⟨gone, rfl⟩ | ⟨other, rfl⟩ | ⟨session, found, confirmed, wrong, rfl, rfl⟩⟩ :=
          validateRevoked_error ended
        · exact .refused gone
        · exact .silent (event?_of_ne other)
        · exact .spoiled found confirmed wrong
      · simp only [serve, ended]
        rcases validateRevoked_eq_ok.1 ended
          with ⟨gone, released, rfl, rfl⟩ | ⟨session, found, confirmed, right, written, rfl, rfl⟩
        · exact .repeated gone released
        · exact .revoked found confirmed right written
  | checkLock lock => exact .silent rfl
  | dispute tx fee =>
      refine step_keep (fun _ => rfl) fun signed after disputed => ?_
      obtain ⟨_, -, ⟨-, -, rfl⟩ | ⟨_, _, _, _, -, spends, -, -, -, rfl⟩⟩ := dispute_eq_ok disputed
      · exact .silent rfl
      · exact .moved rfl (channelSpentBy_eq_ok spends).1 nofun
  | forceClose escrow =>
      refine step_keep (fun _ => rfl) fun signed after closed => ?_
      obtain ⟨_, found, -, -, rfl⟩ := forceClose_eq_ok.1 closed
      exact .moved rfl found nofun
  | claimMerchantClose escrow fee => exact .silent rfl
  | claimOutput tx fee =>
      refine step_keep (fun _ => rfl) fun signed after claimed => ?_
      obtain ⟨_, _, spends, ⟨-, rfl⟩ | rfl⟩ := claimOutput_eq_ok claimed
      · exact .moved rfl (channelSpentBy_eq_ok spends).1 nofun
      · exact .silent rfl
  | markClosed escrow =>
      refine step_keep (fun _ => rfl) fun answer after marked => ?_
      obtain ⟨_, found, -, rfl⟩ := markClosed_eq_ok.1 marked
      exact .moved rfl found nofun

end Shop

end PaymentChannel
