import PaymentChannel.Proofs.Merchant.Conservation

/-! How a call changes the channels of a merchant.
A channel is registered, gets its announcement, moves along its statuses or is disputed; no call
changes two channels. All but a dispute ask for the status they leave.
-/

namespace PaymentChannel

open Merchant

-----------------------------------------------------------------------------------------
-- Statuses
-----------------------------------------------------------------------------------------

namespace ChannelStatus

/-- The place of a status in the order of all statuses. -/
def rank (status : ChannelStatus) : Nat := all.idxOf status

theorem rank_eq_zero {status : ChannelStatus} : status.rank = 0 ↔ status = .unfunded := by
  cases status <;> decide

/-- A channel that is funded and that the customer does not close yet. -/
def Live (status : ChannelStatus) : Prop :=
  status = .pendingOpen ∨ status = .confirmed ∨ status = .merchantClosing

instance (status : ChannelStatus) : Decidable status.Live :=
  inferInstanceAs (Decidable (_ ∨ _))

/-- A channel that is open or about to be. -/
def Open (status : ChannelStatus) : Prop := status = .pendingOpen ∨ status = .confirmed

instance (status : ChannelStatus) : Decidable status.Open :=
  inferInstanceAs (Decidable (_ ∨ _))

/-- A channel of which some closing transaction is on its way. -/
def Closing (status : ChannelStatus) : Prop :=
  status = .merchantClosing ∨ status = .customerClosing ∨ status = .disputed
    ∨ status = .pendingClose

theorem Live.ne_unfunded {status : ChannelStatus} (live : status.Live) : status ≠ .unfunded := by
  rcases live with rfl | rfl | rfl <;> nofun

theorem Closing.ne_unfunded {status : ChannelStatus} (closing : status.Closing)
    : status ≠ .unfunded := by
  rcases closing with rfl | rfl | rfl | rfl <;> nofun

/-- The ways from one status to another that ask for the status they leave. -/
inductive Move : ChannelStatus → ChannelStatus → Prop
  | validated : Move .unfunded .pendingOpen
  | opened : Move .pendingOpen .confirmed
  | merchantCloses {status : ChannelStatus} (live : status.Live) : Move status .merchantClosing
  | customerCloses {status : ChannelStatus} (live : status.Live) : Move status .customerClosing
  | settles {status : ChannelStatus} (closing : status.Closing) : Move status .settled

namespace Move

variable {before after : ChannelStatus}

/-- A move never goes back, by cases on the moves and on the statuses they leave. -/
theorem rank_le (move : Move before after) : before.rank ≤ after.rank := by
  cases move with
  | validated | opened => decide
  | merchantCloses live | customerCloses live => rcases live with rfl | rfl | rfl <;> decide
  | settles closing => rcases closing with rfl | rfl | rfl | rfl <;> decide

theorem ne_pendingClose (move : Move before after) : after ≠ .pendingClose := by
  cases move <;> nofun

theorem ne_unfunded (move : Move before after) : after ≠ .unfunded := by
  cases move <;> nofun

/-- Past its first step a channel does not open unless it is about to. -/
theorem open_of_open (move : Move before after) (past : before ≠ .unfunded) (opens : after.Open)
    : before.Open := by
  cases move with
  | validated => exact absurd rfl past
  | opened => exact .inl rfl
  | merchantCloses _ | customerCloses _ | settles _ => exact absurd opens (by decide)

end Move

/-- A status above which only settled channels are, once no channel waits for the chain. -/
theorem rank_le_disputed {status : ChannelStatus} (waits : status ≠ .pendingClose)
    (unsettled : status ≠ .settled)
    : status.rank ≤ ChannelStatus.disputed.rank := by
  cases status with
  | pendingClose => exact absurd rfl waits
  | settled => exact absurd rfl unsettled
  | _ => decide

end ChannelStatus

-----------------------------------------------------------------------------------------
-- Steps
-----------------------------------------------------------------------------------------

/-- The record of a channel that is registered. -/
def OpenRequest.channel (request : OpenRequest) (signed : SignedTx) : MerchantChannel where
  token := request.token
  funding := request.funding
  signedClose := signed
  init := none
  status := .unfunded

/-- The request is for the merchant's signature of a merchant-close transaction: it is formed for the
value of the escrow, it is the one that the token names and the customer signed it.
-/
structure OpenRequest.AsksFor (request : OpenRequest) (params : ChannelParams) (value : Sat)
    (close : SignableTx)
    : Prop where
  worth : request.funding.escrowValue = .ok value
  formed : request.token.merchantCloseTx value params = .ok close
  named : close.txid = request.token.merchantCloseTxid
  verifies : close.verifies request.signature request.token.customerKey = true

/-- What brings the opening of a channel forward. -/
inductive OpeningEvent
  | registered (request : OpenRequest)
  /-- The close transactions of an announced first state were signed. -/
  | announced (init : InitialState)
  | validated (init : InitialState)
  /-- The pay token of a first state was issued. -/
  | activated (escrow : Txid) (state : ChannelState) (token : PayToken)

/-- The escrow of the channel that opens. -/
def OpeningEvent.escrow : OpeningEvent → Txid
  | .registered request => request.token.escrowTxid
  | .announced init | .validated init => init.escrowTxid
  | .activated escrow _ _ => escrow

/-- What an exchange does for the opening of a channel. -/
def MerchantExchange.opening? : MerchantExchange → Option OpeningEvent
  | ⟨.openChannel request, .ok _⟩ => some (.registered request)
  | ⟨.signInitial init, .ok _⟩ => some (.announced init)
  | ⟨.validateInitial init _, .ok _⟩ => some (.validated init)
  | ⟨.activate escrow state, .ok token⟩ => some (.activated escrow state token)
  | _ => none

/-- A call that is not answered opens nothing. -/
theorem MerchantExchange.opening?_error (call : MerchantCall) (failure : Failure ChannelError)
    : opening? ⟨call, .error failure⟩ = none := by
  cases call <;> rfl

/-- How the channels change in an exchange. -/
inductive ChannelStep (shop : Shop) : MerchantExchange → Dict Txid MerchantChannel → Prop
  | kept {exchange : MerchantExchange} (quiet : exchange.opening? = none)
    : ChannelStep shop exchange shop.merchant.channels
  /-- A channel is registered with its merchant-close transaction, for the first time or in place of
  one that is not funded.
  -/
  | registered {request : OpenRequest} {value : Sat} {close : SignableTx}
    (free : ∀ known, shop.merchant.channels.get? request.token.escrowTxid = some known
      → known.status = .unfunded)
    (asks : request.AsksFor shop.merchant.params value close)
    : ChannelStep shop
        ⟨.openChannel request,
          .ok (close.finalizeMultisig (close.sign shop.merchant.escrowSecret) request.signature)⟩
        (shop.merchant.channels.insert request.token.escrowTxid
          (request.channel
            (close.finalizeMultisig (close.sign shop.merchant.escrowSecret) request.signature)))
  /-- A channel that is not funded gets an announcement. -/
  | announced {init : InitialState} {signatures : CloseSignatures} {channel : MerchantChannel}
    (found : shop.merchant.channels.get? init.escrowTxid = some channel)
    (unfunded : channel.status = .unfunded)
    : ChannelStep shop ⟨.signInitial init, .ok signatures⟩
        (shop.merchant.channels.insert init.escrowTxid { channel with init := some init })
  /-- The announcement that was signed last is validated. -/
  | validated {init : InitialState} {hash : StateHash} {channel : MerchantChannel}
    (found : shop.merchant.channels.get? init.escrowTxid = some channel)
    (unfunded : channel.status = .unfunded) (last : channel.init = some init)
    : ChannelStep shop ⟨.validateInitial init hash, .ok ()⟩
        (shop.merchant.channels.insert init.escrowTxid { channel with status := .pendingOpen })
  /-- The pay token of the announced state of a confirmed channel is issued. -/
  | activated {escrow : Txid} {state : ChannelState} {channel : MerchantChannel}
    (found : shop.merchant.channels.get? escrow = some channel)
    (confirmed : channel.status = .confirmed)
    (first : channel.init.map (·.state channel.token) = some state)
    (unused : shop.merchant.isNonceSpent state.nonce = false)
    : ChannelStep shop ⟨.activate escrow state, .ok (.compute shop.merchant.hmacKey state)⟩
        shop.merchant.channels
  /-- A channel that is past its first step gets another status. -/
  | moved {exchange : MerchantExchange} {escrow : Txid} {channel : MerchantChannel}
    {status : ChannelStatus} (quiet : exchange.opening? = none)
    (found : shop.merchant.channels.get? escrow = some channel)
    (past : channel.status ≠ .unfunded) (move : channel.status.Move status)
    : ChannelStep shop exchange (shop.merchant.channels.insert escrow { channel with status })
  /-- A dispute does not ask for the status of the channel. -/
  | disputed {tx : Transaction} {fee : Sat} {signed : SignedTx} {escrow : Txid}
    {channel : MerchantChannel} (found : shop.merchant.channels.get? escrow = some channel)
    (spends : shop.merchant.channelSpentBy tx = .ok (escrow, channel))
    : ChannelStep shop ⟨.dispute tx fee, .ok (some signed)⟩
        (shop.merchant.channels.insert escrow { channel with status := .disputed })

namespace Merchant

variable {merchant after : Merchant}

/-- A dispute that gives a transaction leaves the channel it leads to disputed. -/
theorem dispute_eq_some {ledger : Ledger} {tx : Transaction} {fee : Sat} {signed : SignedTx}
    (disputed : merchant.dispute ledger tx fee = .ok (some signed, after))
    : ∃ escrow channel, merchant.channelSpentBy tx = .ok (escrow, channel)
      ∧ merchant.channels.get? escrow = some channel
      ∧ after = merchant.setChannel escrow { channel with status := .disputed } := by
  obtain ⟨_, -, ⟨-, none, -⟩ | ⟨_, escrow, channel, _, -, spends, -, -, -, rfl⟩⟩ :=
    dispute_eq_ok disputed
  · cases none
  · exact ⟨escrow, channel, spends, (channelSpentBy_eq_ok spends).1, rfl⟩

/-- Of two changes of a channel the later one counts. -/
theorem setChannel_setChannel (escrow : Txid) (first second : MerchantChannel)
    : (merchant.setChannel escrow first).setChannel escrow second
      = merchant.setChannel escrow second := by
  simp only [setChannel, Dict.insert_insert]

/-- A masking changes no channel, whatever becomes of its session. -/
theorem confirmMasking_channels (id : SessionId) (confirmed : Bool)
    : (merchant.confirmMasking id confirmed).2.channels = merchant.channels := by
  rcases ended : merchant.confirmMasking id confirmed with ⟨failure | released, after⟩
  · rcases confirmMasking_error ended with rfl | ⟨_, -, -, -, rfl⟩
    · rfl
    · exact closeSession_channels _ _
  · obtain ⟨_, -, -, -, -, rfl⟩ := confirmMasking_eq_ok.1 ended
    rfl

/-- A revocation changes no channel, whatever becomes of its session. -/
theorem validateRevoked_channels (ledger : Ledger) (id : SessionId) (revoked : RevokedState)
    : (merchant.validateRevoked ledger id revoked).2.1.channels = merchant.channels := by
  rcases ended : merchant.validateRevoked ledger id revoked
    with ⟨failure | opening, after, recorded⟩
  · obtain ⟨-, ⟨-, rfl⟩ | ⟨-, rfl⟩ | ⟨_, -, -, -, -, rfl⟩⟩ := validateRevoked_error ended
    · rfl
    · rfl
    · simp
  · rcases validateRevoked_eq_ok.1 ended with ⟨-, -, rfl, -⟩ | ⟨_, -, -, -, -, -, rfl⟩
    · rfl
    · simp

end Merchant

namespace ChannelStep

variable {shop : Shop} {exchange : MerchantExchange} {channels : Dict Txid MerchantChannel}

/-- What a registered channel becomes: itself, a channel that is not funded if it is not either, or
a channel of another status.
-/
theorem change (step : ChannelStep shop exchange channels) {escrow : Txid}
    {before : MerchantChannel} (found : shop.merchant.channels.get? escrow = some before)
    : ∃ after, channels.get? escrow = some after
      ∧ (after = before
        ∨ (before.status = .unfunded ∧ after.status = .unfunded)
        ∨ (before.status.Move after.status ∧ after = { before with status := after.status })
        ∨ ∃ tx fee signed, exchange = ⟨.dispute tx fee, .ok (some signed)⟩
          ∧ shop.merchant.channelSpentBy tx = .ok (escrow, before)
          ∧ after = { before with status := .disputed }) := by
  -- A change at another escrow leaves the channel as it is.
  have elsewhere : ∀ {other : Txid} {changed : MerchantChannel}, escrow ≠ other
      → (shop.merchant.channels.insert other changed).get? escrow = some before :=
    fun apart => by rwa [Dict.get?_insert_of_ne apart]
  cases step with
  | kept _ | activated _ _ _ _ => exact ⟨before, found, .inl rfl⟩
  | @registered request _ _ free _ =>
      by_cases here : escrow = request.token.escrowTxid
      · subst here
        exact ⟨_, Dict.get?_insert_self _ _ _, .inr (.inl ⟨free before found, rfl⟩)⟩
      · exact ⟨before, elsewhere here, .inl rfl⟩
  | @announced init _ known there unfunded =>
      by_cases here : escrow = init.escrowTxid
      · subst here
        cases found.symm.trans there
        exact ⟨_, Dict.get?_insert_self _ _ _, .inr (.inl ⟨unfunded, unfunded⟩)⟩
      · exact ⟨before, elsewhere here, .inl rfl⟩
  | @validated init _ known there unfunded _ =>
      by_cases here : escrow = init.escrowTxid
      · subst here
        cases found.symm.trans there
        exact ⟨_, Dict.get?_insert_self _ _ _, .inr (.inr (.inl ⟨unfunded ▸ .validated, rfl⟩))⟩
      · exact ⟨before, elsewhere here, .inl rfl⟩
  | @moved _ other known status _ there _ move =>
      by_cases here : escrow = other
      · subst here
        cases found.symm.trans there
        exact ⟨_, Dict.get?_insert_self _ _ _, .inr (.inr (.inl ⟨move, rfl⟩))⟩
      · exact ⟨before, elsewhere here, .inl rfl⟩
  | @disputed tx fee signed other known there spends =>
      by_cases here : escrow = other
      · subst here
        cases found.symm.trans there
        exact ⟨_, Dict.get?_insert_self _ _ _,
          .inr (.inr (.inr ⟨tx, fee, signed, rfl, spends, rfl⟩))⟩
      · exact ⟨before, elsewhere here, .inl rfl⟩

/-- What is true of new channels, and stays true when a channel gets an announcement or a status, is
true of all channels after a step if it was before.
-/
theorem forall_channels {holds : Txid → MerchantChannel → Prop}
    (step : ChannelStep shop exchange channels)
    (all : ∀ escrow channel, shop.merchant.channels.get? escrow = some channel
      → holds escrow channel)
    (registered : ∀ (request : OpenRequest) value close,
      request.AsksFor shop.merchant.params value close
      → holds request.token.escrowTxid (request.channel
        (close.finalizeMultisig (close.sign shop.merchant.escrowSecret) request.signature)))
    (announced : ∀ escrow channel init, holds escrow channel
      → holds escrow { channel with init := some init })
    (moved : ∀ escrow (channel : MerchantChannel) status, holds escrow channel
      → status ≠ .pendingClose → holds escrow { channel with status })
    : ∀ escrow channel, channels.get? escrow = some channel → holds escrow channel := by
  have inserted : ∀ {other : Txid} {changed : MerchantChannel}, holds other changed
      → ∀ escrow channel, (shop.merchant.channels.insert other changed).get? escrow = some channel
      → holds escrow channel := by
    intro other changed holds escrow channel found
    rw [Dict.get?_insert] at found
    split at found
    case isTrue here =>
      cases found
      rwa [here]
    case isFalse => exact all escrow channel found
  cases step with
  | kept _ | activated _ _ _ _ => exact all
  | registered _ asks => exact inserted (registered _ _ _ asks)
  | @announced init _ _ found _ => exact inserted (announced _ _ init (all _ _ found))
  | validated found _ _ => exact inserted (moved _ _ _ (all _ _ found) (by decide))
  | moved _ found _ move => exact inserted (moved _ _ _ (all _ _ found) move.ne_pendingClose)
  | disputed found _ => exact inserted (moved _ _ _ (all _ _ found) (by decide))

end ChannelStep

namespace Shop

variable {shop : Shop}

/-- A call that leaves the shop as it was when it is refused changes its channels if its success
does.
-/
theorem channelStep_keep {call : MerchantCall}
    {outcome : Outcome ChannelError (call.Answer × Merchant)}
    (succeeded : ∀ answer merchant, outcome = .ok (answer, merchant)
      → ChannelStep shop ⟨call, .ok answer⟩ merchant.channels)
    : ChannelStep shop ⟨call, (shop.keep outcome).1⟩ (shop.keep outcome).2.merchant.channels := by
  rcases ended : outcome with failure | ⟨answer, after⟩
  · exact .kept (MerchantExchange.opening?_error call failure)
  · exact succeeded answer after ended

/-- A call that changes no channel and opens none. -/
theorem channelStep_of_eq {exchange : MerchantExchange} {after : Merchant}
    (quiet : exchange.opening? = none) (channels : after.channels = shop.merchant.channels)
    : ChannelStep shop exchange after.channels := by
  rw [channels]
  exact .kept quiet

/-- Every call is one of these steps, by cases on the call. -/
theorem channelStep (shop : Shop) (call : MerchantCall)
    : ChannelStep shop (shop.exchange call) (shop.after call).merchant.channels := by
  cases call with
  | openChannel request =>
      refine channelStep_keep fun signed after opened => ?_
      obtain ⟨-, free, value, worth, _, formed, named, verifies, rfl, rfl⟩ :=
        openChannel_eq_ok.1 opened
      exact .registered (checkUnfunded_eq_ok.1 free) ⟨worth, formed, named, verifies⟩
  | signInitial init =>
      refine channelStep_keep fun signatures after signed => ?_
      obtain ⟨_, found, unfunded, -, -, _, -, _, -, -, rfl⟩ := signInitial_eq_ok.1 signed
      exact .announced found unfunded
  | validateInitial init hash =>
      refine channelStep_keep fun answer after validated => ?_
      obtain ⟨_, found, unfunded, ⟨last, -⟩, rfl⟩ := validateInitial_eq_ok.1 validated
      exact .validated found unfunded last
  | markOpen escrow =>
      refine channelStep_keep fun answer after marked => ?_
      obtain ⟨_, found, pending, rfl⟩ := markOpen_eq_ok.1 marked
      exact .moved rfl found (by rw [pending]; nofun) (pending ▸ .opened)
  | activate escrow state =>
      unfold exchange Shop.after
      rcases ended : shop.merchant.activate escrow state with failure | token
      · simp only [serve, ended]
        exact .kept rfl
      · simp only [serve, ended]
        obtain ⟨_, found, confirmed, -, first, unused, rfl⟩ := activate_eq_ok.1 ended
        exact .activated found confirmed first unused
  | checkLock _ | claimMerchantClose _ _ => exact .kept rfl
  | preparePayment request source =>
      refine channelStep_keep fun response after prepared => ?_
      obtain ⟨-, -, rfl⟩ := preparePayment_eq_ok.1 prepared
      exact .kept rfl
  | maskingInput id =>
      refine channelStep_keep fun input after handed => ?_
      obtain ⟨_, -, -, -, rfl⟩ := maskingInput_eq_ok.1 handed
      exact .kept rfl
  | confirmMasking id confirmed =>
      exact channelStep_of_eq rfl (confirmMasking_channels id confirmed)
  | failSession id =>
      refine channelStep_keep fun answer after dropped => ?_
      obtain ⟨_, -, -, rfl⟩ := failSession_eq_ok.1 dropped
      exact channelStep_of_eq rfl (closeSession_channels _ _)
  | validateRevoked id revoked =>
      exact channelStep_of_eq rfl (validateRevoked_channels shop.ledger id revoked)
  | dispute tx fee =>
      refine channelStep_keep fun answer after disputed => ?_
      cases answer with
      | none =>
          obtain ⟨_, -, ⟨-, -, rfl⟩ | ⟨_, _, _, _, -, -, -, -, some, -⟩⟩ := dispute_eq_ok disputed
          · exact .kept rfl
          · cases some
      | some signed =>
          obtain ⟨_, _, spends, found, rfl⟩ := dispute_eq_some disputed
          exact .disputed found spends
  | forceClose escrow =>
      refine channelStep_keep fun signed after closed => ?_
      obtain ⟨_, found, live, -, rfl⟩ := forceClose_eq_ok.1 closed
      exact .moved rfl found (ChannelStatus.Live.ne_unfunded live) (.merchantCloses live)
  | claimOutput tx fee =>
      refine channelStep_keep fun signed after claimed => ?_
      obtain ⟨_, _, spends, ⟨live, rfl⟩ | rfl⟩ := claimOutput_eq_ok claimed
      · exact .moved rfl (channelSpentBy_eq_ok spends).1
          (ChannelStatus.Live.ne_unfunded live) (.customerCloses live)
      · exact .kept rfl
  | markClosed escrow =>
      refine channelStep_keep fun answer after marked => ?_
      obtain ⟨_, found, closing, rfl⟩ := markClosed_eq_ok.1 marked
      exact .moved rfl found (ChannelStatus.Closing.ne_unfunded closing) (.settles closing)

end Shop

/-- What is true of new channels, and stays true when a channel gets an announcement or a status, is
true of all channels in every run, by induction on the run.
-/
theorem Shop.forall_channels {params : ChannelParams} {policy : RefundPolicy} {source : Entropy}
    {start shop : Shop} {history : List MerchantExchange} (holds : Txid → MerchantChannel → Prop)
    (opens : start.Opens params policy source) (run : start.Run history shop)
    (registered : ∀ (request : OpenRequest) value close, request.AsksFor params value close
      → holds request.token.escrowTxid (request.channel
        (close.finalizeMultisig (close.sign start.merchant.escrowSecret) request.signature)))
    (announced : ∀ escrow channel init, holds escrow channel
      → holds escrow { channel with init := some init })
    (moved : ∀ escrow (channel : MerchantChannel) status, holds escrow channel
      → status ≠ .pendingClose → holds escrow { channel with status })
    : ∀ escrow channel, shop.merchant.channels.get? escrow = some channel
      → holds escrow channel := by
  induction run with
  | start =>
      obtain ⟨-, _, -, _, -, _, -, opened⟩ := init_eq_ok.1 opens
      intro escrow channel found
      rw [opened] at found
      cases found
  | @call _ shop run call ih =>
      have standing := Standing.run opens run
      have terms := (terms_of_run opens standing).1
      refine (shop.channelStep call).forall_channels ih ?_ announced moved
      rwa [terms, standing.terms.escrowSecret]
  | ledger _ _ ih => exact ih

/-- A channel as it was registered for a request, up to its announcement and its status. -/
structure MerchantChannel.RegisteredFor (channel : MerchantChannel) (escrow : Txid)
    (params : ChannelParams) (key : SecretKey) (request : OpenRequest) (value : Sat)
    (close : SignableTx)
    : Prop where
  asks : request.AsksFor params value close
  placed : request.token.escrowTxid = escrow
  token : channel.token = request.token
  funding : channel.funding = request.funding
  signedClose : channel.signedClose = close.finalizeMultisig (close.sign key) request.signature

section Registered

variable {params : ChannelParams} {policy : RefundPolicy} {source : Entropy} {start shop : Shop}
  {history : List MerchantExchange} {escrow : Txid} {channel : MerchantChannel}

/-- Every channel is one that was registered for some request. -/
theorem Shop.registeredFor_of_run (opens : start.Opens params policy source)
    (run : start.Run history shop)
    (found : shop.merchant.channels.get? escrow = some channel)
    : ∃ request value close,
      channel.RegisteredFor escrow params start.merchant.escrowSecret request value close := by
  refine Shop.forall_channels (fun escrow channel => ∃ request value close,
    channel.RegisteredFor escrow params start.merchant.escrowSecret request value close) opens run
    ?_ ?_ ?_ escrow channel found
  · intro request value close asks
    exact ⟨request, value, close, asks, rfl, rfl, rfl, rfl⟩
  · rintro _ _ _ ⟨request, value, close, asks, placed, token, funding, signed⟩
    exact ⟨request, value, close, asks, placed, token, funding, signed⟩
  · rintro _ _ _ ⟨request, value, close, asks, placed, token, funding, signed⟩ -
    exact ⟨request, value, close, asks, placed, token, funding, signed⟩

/-- A channel is registered under the escrow of its token. -/
theorem Shop.escrowTxid_of_run (opens : start.Opens params policy source)
    (run : start.Run history shop)
    (found : shop.merchant.channels.get? escrow = some channel)
    : channel.token.escrowTxid = escrow := by
  obtain ⟨_, _, _, registered⟩ := Shop.registeredFor_of_run opens run found
  rw [registered.token, registered.placed]

end Registered

-----------------------------------------------------------------------------------------
-- A channel that the merchant closes
-----------------------------------------------------------------------------------------

section Example

open Bench

-- Unification would compute keys and hashes where comparing their arguments is enough.
attribute [local irreducible] SecretKey.publicKey SignableTx.txid SignableTx.sign
  SignableTx.verifies sha256 hmacSha256

/-- A shop with one channel. -/
def steadyShopWith (channel : MerchantChannel) : Shop :=
  { steadyShop with merchant := steadyShop.merchant.setChannel steadyEscrow channel }

theorem steadyShopWith_found (channel : MerchantChannel)
    : (steadyShopWith channel).merchant.channels.get? steadyEscrow = some channel :=
  Dict.get?_insert_self _ _ _

theorem steadyShopWith_only {channel known : MerchantChannel} {escrow : Txid}
    (found : (steadyShopWith channel).merchant.channels.get? escrow = some known)
    : escrow = steadyEscrow := by
  refine Decidable.byContradiction fun apart => ?_
  rw [steadyShopWith, setChannel_channels, Dict.get?_insert_of_ne apart] at found
  cases found

/-- A run goes on with a call that changes the channel. -/
theorem steadyShopWith_run {history : List MerchantExchange} {channel changed : MerchantChannel}
    (run : steadyShop.Run history (steadyShopWith channel)) (call : MerchantCall)
    {outcome : Outcome ChannelError (call.Answer × Merchant)} {answer : call.Answer}
    (serves : (steadyShopWith channel).serve call = (steadyShopWith channel).keep outcome)
    (succeeded : outcome
      = .ok (answer, (steadyShopWith channel).merchant.setChannel steadyEscrow changed))
    : steadyShop.Run (⟨call, .ok answer⟩ :: history) (steadyShopWith changed) := by
  have next := run.kept call serves succeeded
  rwa [steadyShopWith, setChannel_setChannel] at next

/-- The first state of the channel was announced and validated. -/
theorem pendingShop_run
    : ∃ history, steadyShop.Run history
        (steadyShopWith { announcedChannel with status := .pendingOpen }) := by
  obtain ⟨history, run⟩ := registeredBench_run.shopRun
  have run : steadyShop.Run history (steadyShopWith { announcedChannel with init := none }) := run
  obtain ⟨close, formed⟩ : ∃ close, steadyToken.customerCloseTx .escrow
      ((steadyInit 1).state steadyToken) steadyKey.publicKey .default = .ok close := ⟨_, rfl⟩
  obtain ⟨other, alsoFormed⟩ : ∃ close, steadyToken.customerCloseTx .merchantClose
      ((steadyInit 1).state steadyToken) steadyKey.publicKey .default = .ok close := ⟨_, rfl⟩
  have announced : steadyShop.Run _ (steadyShopWith announcedChannel) :=
    steadyShopWith_run run (.signInitial (steadyInit 1)) rfl
      (signInitial_eq_ok.2 ⟨_, steadyShopWith_found _, rfl, rfl, ⟨rfl, rfl⟩, _,
        signClose_eq_ok.2 ⟨close, formed, rfl⟩, _, signClose_eq_ok.2 ⟨other, alsoFormed, rfl⟩, rfl,
        rfl⟩)
  have validates : (steadyShopWith announcedChannel).merchant.validateInitial (steadyInit 1)
      (steadyInit 1).hash
      = .ok ((), (steadyShopWith announcedChannel).merchant.setChannel steadyEscrow
        { announcedChannel with status := .pendingOpen }) :=
    validateInitial_eq_ok.2 ⟨_, steadyShopWith_found _, rfl, ⟨rfl, rfl⟩, rfl⟩
  exact ⟨_, steadyShopWith_run announced (.validateInitial (steadyInit 1) (steadyInit 1).hash) rfl
    validates⟩

theorem closingShop_run
    : ∃ history, steadyShop.Run history
        (steadyShopWith { announcedChannel with status := .merchantClosing }) := by
  obtain ⟨_, run⟩ := pendingShop_run
  exact ⟨_, steadyShopWith_run run (.forceClose steadyEscrow) rfl
    (forceClose_eq_ok.2 ⟨_, steadyShopWith_found _, .inl rfl, rfl, rfl⟩)⟩

end Example

end PaymentChannel
