import PaymentChannel.Proofs.Merchant.ChannelMoves

/-! A merchant issues the first pay token of a channel for one state only.
Until a first state is validated the channel can be registered again and other first states be
announced, in any order and any number of times. The validation ends this: it takes the announcement
that was signed last, and nothing but activations of its state follows.
-/

namespace PaymentChannel

open Merchant

-----------------------------------------------------------------------------------------
-- The opening of a channel
-----------------------------------------------------------------------------------------

/-- What a history did for the opening of a channel, the latest in front. -/
def openingEvents (escrow : Txid) (history : List MerchantExchange) : List OpeningEvent :=
  (history.filterMap MerchantExchange.opening?).filter (·.escrow = escrow)

namespace OpeningEvent

/-- The request for which a channel is registered. -/
def registered? : OpeningEvent → Option OpenRequest
  | .registered request => some request
  | _ => none

/-- The first state that is announced. -/
def announced? : OpeningEvent → Option InitialState
  | .announced init => some init
  | _ => none

/-- The first state that is validated. -/
def validated? : OpeningEvent → Option InitialState
  | .validated init => some init
  | _ => none

/-- The event comes before a first state is validated. -/
def Prepares : OpeningEvent → Prop
  | .registered _ | .announced _ => True
  | .validated _ | .activated _ _ _ => False

end OpeningEvent

/-- The events up to the announcements that follow the registration for a request, with the one that
was signed last.
-/
inductive Prepared : List OpeningEvent → OpenRequest → Option InitialState → Prop
  | registered {events : List OpeningEvent} {request : OpenRequest}
    (before : ∀ event ∈ events, event.Prepares)
    : Prepared (.registered request :: events) request none
  | announced {events : List OpeningEvent} {request : OpenRequest} {last : Option InitialState}
    {init : InitialState} (prepared : Prepared events request last)
    : Prepared (.announced init :: events) request (some init)

/-- The events of a channel that was registered for a request and opened with a first state. -/
inductive Opened (key : HmacKey) (escrow : Txid)
    : List OpeningEvent → OpenRequest → InitialState → Prop
  | validated {events : List OpeningEvent} {request : OpenRequest} {init : InitialState}
    (prepared : Prepared events request (some init))
    : Opened key escrow (.validated init :: events) request init
  | activated {events : List OpeningEvent} {request : OpenRequest} {init : InitialState}
    (opened : Opened key escrow events request init)
    : Opened key escrow
        (.activated escrow (init.state request.token) (.compute key (init.state request.token))
          :: events)
        request init

section Events

variable {escrow : Txid} {history : List MerchantExchange} {exchange : MerchantExchange}
  {event : OpeningEvent} {events : List OpeningEvent} {key : HmacKey} {request : OpenRequest}
  {init : InitialState} {last : Option InitialState} {state : ChannelState} {token : PayToken}

theorem openingEvents_cons (escrow : Txid) (exchange : MerchantExchange)
    (history : List MerchantExchange)
    : openingEvents escrow (exchange :: history)
      = openingEvents escrow [exchange] ++ openingEvents escrow history := by
  simp [openingEvents, ← List.filter_append, ← List.filterMap_append]

theorem openingEvents_of_quiet (quiet : exchange.opening? = none)
    : openingEvents escrow [exchange] = [] := by
  simp [openingEvents, quiet]

theorem openingEvents_of_event (shown : exchange.opening? = some event)
    : openingEvents escrow [exchange] = if event.escrow = escrow then [event] else [] := by
  simp [openingEvents, shown, List.filter_cons]

theorem activated_mem_openingEvents (activated : ⟨.activate escrow state, .ok token⟩ ∈ history)
    : .activated escrow state token ∈ openingEvents escrow history :=
  List.mem_filter.2 ⟨List.mem_filterMap.2 ⟨_, activated, rfl⟩, decide_eq_true rfl⟩

namespace Prepared

theorem prepares (prepared : Prepared events request last) : ∀ event ∈ events, event.Prepares := by
  induction prepared with
  | registered before => exact List.forall_mem_cons.2 ⟨trivial, before⟩
  | announced _ ih => exact List.forall_mem_cons.2 ⟨trivial, ih⟩

theorem findSome?_registered? (prepared : Prepared events request last)
    : events.findSome? (·.registered?) = some request := by
  induction prepared with
  | registered _ => rfl
  | announced _ ih => exact ih

theorem findSome?_announced? (prepared : Prepared events request (some init))
    : events.findSome? (·.announced?) = some init := by
  cases prepared
  rfl

theorem filterMap_validated? (prepared : Prepared events request last)
    : events.filterMap (·.validated?) = [] := by
  refine List.filterMap_eq_nil_iff.2 fun event member => ?_
  have prepares := prepared.prepares event member
  cases event with
  | registered _ | announced _ | activated _ _ _ => rfl
  | validated _ => exact prepares.elim

end Prepared

namespace Opened

/-- Activations change nothing of what is found of the registration and the announcement. -/
theorem findSome?_eq (opened : Opened key escrow events request init)
    : events.findSome? (·.registered?) = some request
      ∧ events.findSome? (·.announced?) = some init := by
  induction opened with
  | validated prepared => exact ⟨prepared.findSome?_registered?, prepared.findSome?_announced?⟩
  | activated _ ih => exact ih

theorem filterMap_validated? (opened : Opened key escrow events request init)
    : events.filterMap (·.validated?) = [init] := by
  induction opened with
  | validated prepared => exact congrArg (_ :: ·) prepared.filterMap_validated?
  | activated _ ih => exact ih

/-- Nothing else is activated than the state that was validated. -/
theorem activated_eq (opened : Opened key escrow events request init)
    (activated : .activated escrow state token ∈ events)
    : state = init.state request.token ∧ token = .compute key state := by
  induction opened with
  | validated prepared =>
      rcases List.mem_cons.1 activated with same | earlier
      · cases same
      · exact (prepared.prepares _ earlier).elim
  | activated _ ih =>
      rcases List.mem_cons.1 activated with same | earlier
      · cases same
        exact ⟨rfl, rfl⟩
      · exact ih earlier

end Opened

end Events

-----------------------------------------------------------------------------------------
-- The channel after its opening
-----------------------------------------------------------------------------------------

/-- How a channel stands after the events of its opening. As long as no first state was validated it
can be closed by a dispute, but it is not open.
-/
inductive StandsAfter (key : HmacKey) (escrow : Txid)
    : List OpeningEvent → Option MerchantChannel → Prop
  | unknown : StandsAfter key escrow [] none
  | prepared {events : List OpeningEvent} {request : OpenRequest} {channel : MerchantChannel}
    (prepared : Prepared events request channel.init)
    (token : channel.token = request.token) (funding : channel.funding = request.funding)
    (closed : ¬channel.status.Open)
    : StandsAfter key escrow events (some channel)
  | opened {events : List OpeningEvent} {request : OpenRequest} {init : InitialState}
    {channel : MerchantChannel} (opened : Opened key escrow events request init)
    (token : channel.token = request.token) (funding : channel.funding = request.funding)
    (announced : channel.init = some init) (past : channel.status ≠ .unfunded)
    : StandsAfter key escrow events (some channel)

namespace StandsAfter

variable {key : HmacKey} {escrow : Txid} {events : List OpeningEvent}
  {known : Option MerchantChannel}

/-- A channel that is not funded is not opened yet. -/
theorem prepares (stands : StandsAfter key escrow events known)
    (unfunded : ∀ channel, known = some channel → channel.status = .unfunded)
    : ∀ event ∈ events, event.Prepares := by
  cases stands with
  | unknown => simp
  | prepared prepared _ _ _ => exact prepared.prepares
  | opened _ _ _ _ past => exact absurd (unfunded _ rfl) past

/-- No first state of a channel was validated while it is not funded. -/
theorem prepared_of_unfunded {channel : MerchantChannel}
    (stands : StandsAfter key escrow events known) (found : known = some channel)
    (unfunded : channel.status = .unfunded)
    : ∃ request, Prepared events request channel.init ∧ channel.token = request.token
      ∧ channel.funding = request.funding := by
  subst found
  cases stands with
  | prepared prepared token funding _ => exact ⟨_, prepared, token, funding⟩
  | opened _ _ _ _ past => exact absurd unfunded past

variable {exchange : MerchantExchange} {channels : Dict Txid MerchantChannel}
  {changed : MerchantChannel}

/-- An event matters for the channel that it is about, and for no other. -/
theorem noted (stands : StandsAfter key escrow events (channels.get? escrow)) (event : OpeningEvent)
    (shown : exchange.opening? = some event)
    (here : event.escrow = escrow → StandsAfter key escrow (event :: events) (some changed))
    : StandsAfter key escrow (openingEvents escrow [exchange] ++ events)
        ((channels.insert event.escrow changed).get? escrow) := by
  rw [openingEvents_of_event shown, Dict.get?_insert]
  by_cases same : event.escrow = escrow
  · rw [if_pos same, if_pos same.symm]
    exact here same
  · rw [if_neg same, if_neg (Ne.symm same)]
    exact stands

/-- So does a change without an event. -/
theorem unnoted (stands : StandsAfter key escrow events (channels.get? escrow)) {other : Txid}
    (quiet : exchange.opening? = none)
    (here : other = escrow → StandsAfter key escrow events (some changed))
    : StandsAfter key escrow (openingEvents escrow [exchange] ++ events)
        ((channels.insert other changed).get? escrow) := by
  rw [openingEvents_of_quiet quiet, Dict.get?_insert]
  split
  case isTrue same => exact here same.symm
  case isFalse => exact stands

/-- A change of the status that is no part of the opening. A channel that is past its first step stays
so, and none opens that was closed.
-/
theorem of_status {channel : MerchantChannel} {status : ChannelStatus}
    (stands : StandsAfter key escrow events (some channel)) (past : status ≠ .unfunded)
    (opens : status.Open → channel.status.Open)
    : StandsAfter key escrow events (some { channel with status }) := by
  cases stands with
  | prepared prepared token funding closed =>
      exact .prepared prepared token funding (mt opens closed)
  | opened opened token funding announced _ => exact .opened opened token funding announced past

/-- Every step keeps to the order of an opening, by cases on the kinds of steps. -/
theorem step {shop : Shop}
    (stands : StandsAfter shop.merchant.hmacKey escrow events (shop.merchant.channels.get? escrow))
    (step : ChannelStep shop exchange channels)
    : StandsAfter shop.merchant.hmacKey escrow (openingEvents escrow [exchange] ++ events)
        (channels.get? escrow) := by
  cases step with
  | kept quiet => rwa [openingEvents_of_quiet quiet]
  | @registered request _ _ free _ =>
      refine stands.noted (.registered request) rfl ?_
      rintro rfl
      have closed : ¬ChannelStatus.unfunded.Open := by decide
      exact .prepared (.registered (stands.prepares free)) rfl rfl closed
  | @announced init _ _ found unfunded =>
      refine stands.noted (.announced init) rfl ?_
      rintro rfl
      obtain ⟨_, prepared, token, funding⟩ := stands.prepared_of_unfunded found unfunded
      have closed : ¬ChannelStatus.unfunded.Open := by decide
      exact .prepared (.announced prepared) token funding (unfunded ▸ closed)
  | @validated init _ _ found unfunded last =>
      refine stands.noted (.validated init) rfl ?_
      rintro rfl
      obtain ⟨_, prepared, token, funding⟩ := stands.prepared_of_unfunded found unfunded
      have past : ChannelStatus.pendingOpen ≠ .unfunded := by decide
      exact .opened (.validated (last ▸ prepared)) token funding last past
  | @activated other state _ found confirmed first _ =>
      rw [openingEvents_of_event rfl]
      split
      case isFalse => exact stands
      case isTrue here =>
        obtain rfl : other = escrow := here
        rw [found] at stands ⊢
        cases stands with
        | prepared _ _ _ closed => exact absurd (.inr confirmed) closed
        | opened opened token funding announced past =>
            rw [announced, token] at first
            cases first
            exact .opened (.activated opened) token funding announced past
  | @moved _ other channel status quiet found past move =>
      refine stands.unnoted quiet ?_
      rintro rfl
      rw [found] at stands
      exact stands.of_status move.ne_unfunded (move.open_of_open past)
  | @disputed _ _ _ other channel found _ =>
      refine stands.unnoted rfl ?_
      rintro rfl
      rw [found] at stands
      exact stands.of_status (by decide) fun opens => absurd opens (by decide)

/-- An activation was one of the first state with which the channel was opened. -/
theorem opened_of_activated (stands : StandsAfter key escrow events known) {state : ChannelState}
    {token : PayToken} (activated : .activated escrow state token ∈ events)
    : ∃ channel request init, known = some channel ∧ channel.token = request.token
      ∧ channel.funding = request.funding ∧ channel.init = some init
      ∧ Opened key escrow events request init := by
  cases stands with
  | unknown => cases activated
  | prepared prepared _ _ _ => exact (prepared.prepares _ activated).elim
  | opened opened token funding announced _ =>
      exact ⟨_, _, _, rfl, token, funding, announced, opened⟩

end StandsAfter

-----------------------------------------------------------------------------------------
-- Runs
-----------------------------------------------------------------------------------------

/-- In a history that leads to a merchant a channel was opened with one first state. The channel was
registered for the request, the last one, and the state is that of the announcement that was signed
last and validated. Whatever was activated is this state, with one and the same token.
-/
structure Merchant.OpenedOnce (merchant : Merchant) (escrow : Txid)
    (history : List MerchantExchange) (request : OpenRequest) (init : InitialState)
    : Prop where
  known : ∃ channel, merchant.channels.get? escrow = some channel
    ∧ channel.token = request.token ∧ channel.funding = request.funding
    ∧ channel.init = some init
  registered : (openingEvents escrow history).findSome? (·.registered?) = some request
  announced : (openingEvents escrow history).findSome? (·.announced?) = some init
  validated : (openingEvents escrow history).filterMap (·.validated?) = [init]
  balances : (init.state request.token).customerBalance = request.funding.customerBalance
    ∧ (init.state request.token).merchantBalance = request.funding.merchantBalance
  activated : ∀ state token, ⟨.activate escrow state, .ok token⟩ ∈ history
    → state = init.state request.token
      ∧ token = .compute merchant.hmacKey (init.state request.token)

section Runs

variable {params : ChannelParams} {policy : RefundPolicy} {source : Entropy}
  {start shop next : Shop} {history earlier later : List MerchantExchange} {escrow : Txid}
  {state : ChannelState} {payToken : PayToken}

/-- Every channel stands after the events of its opening, by induction on the run. -/
theorem StandsAfter.of_run (opens : start.Opens params policy source) (run : start.Run history shop)
    (escrow : Txid)
    : StandsAfter start.merchant.hmacKey escrow (openingEvents escrow history)
        (shop.merchant.channels.get? escrow) := by
  induction run with
  | start =>
      obtain ⟨-, _, -, _, -, _, -, opened⟩ := init_eq_ok.1 opens
      have none : start.merchant.channels.get? escrow = none := by
        rw [opened, fresh, Dict.get?_empty]
      rw [none]
      exact .unknown
  | @call _ shop run call ih =>
      have key := (Standing.run opens run).terms.hmacKey
      rw [openingEvents_cons, ← key]
      rw [← key] at ih
      exact ih.step (shop.channelStep call)
  | ledger _ _ ih => exact ih

/-- A state whose nonce is used up is never activated again, by induction on the later run. -/
theorem Shop.Run.not_activated (opens : start.Opens params policy source)
    (run : start.Run earlier shop) (spent : shop.merchant.isNonceSpent state.nonce = true)
    (goes : shop.Run later next)
    : ⟨.activate escrow state, .ok payToken⟩ ∉ later := by
  obtain ⟨record, used⟩ := Dict.contains_iff.1 spent
  induction goes with
  | start => exact List.not_mem_nil
  | @call _ next goes call ih =>
      have stays : next.merchant.isNonceSpent state.nonce = true :=
        Dict.contains_iff.2 ⟨record, run.spent_stays opens used goes⟩
      rw [List.mem_cons]
      rintro (same | before)
      · have step := next.channelStep call
        rw [← same] at step
        generalize (next.after call).merchant.channels = channels at step
        cases step with
        | activated _ _ _ unused => exact absurd stays (by simp [unused])
        | kept quiet | moved quiet _ _ _ => cases quiet
      · exact ih before
  | ledger _ _ ih => exact ih

/-- A channel has one activation. Whatever a merchant is asked for and in whichever order, all first
pay tokens that it issues for an escrow are one token of one state. This is the state of the
announcement that was validated, which is the one signed last; it divides the escrow as the funding
does. Once its nonce is used up no token is issued for the channel any more.
-/
theorem one_activation (opens : start.Opens params policy source) (run : start.Run earlier shop)
    (goes : shop.Run later next)
    (activated : ⟨.activate escrow state, .ok payToken⟩ ∈ later ++ earlier)
    : (∃ request init, next.merchant.OpenedOnce escrow (later ++ earlier) request init)
      ∧ (shop.merchant.isNonceSpent state.nonce = true
        → ∀ other token, ⟨.activate escrow other, .ok token⟩ ∉ later) := by
  have whole := run.trans goes
  have standing := Standing.run opens whole
  have stands := StandsAfter.of_run opens whole escrow
  rw [← standing.terms.hmacKey] at stands
  obtain ⟨channel, request, init, known, token, funding, announced, opened⟩ :=
    stands.opened_of_activated (activated_mem_openingEvents activated)
  have only : ∀ state token, ⟨.activate escrow state, .ok token⟩ ∈ later ++ earlier
      → state = init.state request.token
        ∧ token = .compute next.merchant.hmacKey (init.state request.token) := by
    intro state token member
    obtain ⟨rfl, same⟩ := opened.activated_eq (activated_mem_openingEvents member)
    exact ⟨rfl, same⟩
  obtain ⟨last, signed⟩ := opened.findSome?_eq
  constructor
  · exact ⟨request, init, {
      known := ⟨channel, known, token, funding, announced⟩
      registered := last
      announced := signed
      validated := opened.filterMap_validated?
      balances := funding ▸ standing.first escrow channel init known announced
      activated := only }⟩
  · intro spent other token member
    have same : other = state :=
      (only other token (List.mem_append_left _ member)).1.trans (only state _ activated).1.symm
    exact run.not_activated opens spent goes (same ▸ member)

end Runs

-----------------------------------------------------------------------------------------
-- A channel that is activated and pays
-----------------------------------------------------------------------------------------

section Example

open Bench

-- Unification would compute keys and hashes where comparing their arguments is enough.
attribute [local irreducible] SecretKey.publicKey SignableTx.txid SignableTx.sign
  SignableTx.verifies sha256 hmacSha256

/-- A shop with an open channel. -/
def openShop : Shop := steadyShopWith { announcedChannel with status := .confirmed }

/-- The shop after a payment with the first nonce. -/
def paidShop : Shop := (openShop.calls [] steadyPayment).2

theorem paidShop_run
    : ∃ history token, steadyShop.Run history paidShop
      ∧ ⟨.activate steadyEscrow steadyFirst, .ok token⟩ ∈ history := by
  obtain ⟨_, pending⟩ := pendingShop_run
  have marks : (steadyShopWith { announcedChannel with status := .pendingOpen }).merchant.markOpen
      steadyEscrow
      = .ok ((), (steadyShopWith { announcedChannel with status := .pendingOpen }).merchant.setChannel
        steadyEscrow { announcedChannel with status := .confirmed }) :=
    markOpen_eq_ok.2 ⟨_, steadyShopWith_found _, rfl, rfl⟩
  have opened : steadyShop.Run _ openShop :=
    steadyShopWith_run pending (.markOpen steadyEscrow) rfl marks
  have fits : steadyToken.checkState steadyFirst = .ok () :=
    ChannelToken.checkState_eq_ok.2 ⟨rfl, rfl, ⟨rfl, rfl⟩, rfl, rfl⟩
  have issues : openShop.merchant.activate steadyEscrow steadyFirst
      = .ok (.compute openShop.merchant.hmacKey steadyFirst) :=
    activate_eq_ok.2 ⟨_, steadyShopWith_found _, rfl, fits, rfl, rfl, rfl⟩
  have served : openShop.serve (.activate steadyEscrow steadyFirst)
      = (.ok (.compute openShop.merchant.hmacKey steadyFirst), openShop) := by
    rw [Shop.serve, issues]
    rfl
  have activated := opened.answered _ served
  exact ⟨_, _, activated.trans (Shop.Run.calls .start steadyPayment),
    List.mem_append_right _ List.mem_cons_self⟩

/-- The channel is activated with one state, and not again once this state has paid. -/
theorem one_activation_steady
    : steadyShop.Opens .default .reject steadySource
      ∧ ∃ history, steadyShop.Run history paidShop
      ∧ (∃ request init, paidShop.merchant.OpenedOnce steadyEscrow history request init)
      ∧ ∀ later next, paidShop.Run later next
        → ∀ state token, ⟨.activate steadyEscrow state, .ok token⟩ ∉ later := by
  obtain ⟨history, token, run, activated⟩ := paidShop_run
  have spent : paidShop.merchant.isNonceSpent steadyFirst.nonce = true := by decide +kernel
  refine ⟨steadyShop_opens, history, run, ?_, fun later next goes => ?_⟩
  · exact (one_activation steadyShop_opens run .start activated).1
  · exact (one_activation steadyShop_opens run goes (List.mem_append_right _ activated)).2 spent

end Example

end PaymentChannel
