import PaymentChannel.Proofs.Merchant.Channels
import PaymentChannel.Proofs.Merchant.StaleStates
import PaymentChannel.Proofs.Template

/-! No money is created inside of channels.
The customer chooses the states of a payment, the keys and the amount freely. What ties them to a
channel is the pay token of the old state alone, so what is known of a state is carried from one
token to the next.
-/

namespace PaymentChannel

open Merchant

-----------------------------------------------------------------------------------------
-- What close transactions hand out
-----------------------------------------------------------------------------------------

/-- A customer-close transaction hands out an escrow exactly: its outputs and its fee make up what it
spends, and that is the escrow less what the merchant-close transaction took if it came before.
-/
structure HandsOut (fees : FeeSchedule) (source : CloseSource) (close : SignableTx) (value : Sat)
    : Prop where
  spends : close.inputValue.toNat + source.deducted fees = value.toNat
  pays : (close.outputs.map (·.value.toNat)).sum + fees.customerCloseFee.toNat
    = close.inputValue.toNat

/-- A close transaction of a state hands out what both parties have in it. -/
theorem handsOut_of_customerCloseTx {token : ChannelToken} {source : CloseSource}
    {state : ChannelState} {key : PublicKey} {params : ChannelParams} {close : SignableTx}
    {value : Sat} (formed : token.customerCloseTx source state key params = .ok close)
    (worth : (value.toNat : Int) = state.total)
    : HandsOut params.fees source close value := by
  obtain ⟨balances, positive, formed⟩ := ChannelToken.customerCloseTx_eq_ok.1 formed
  obtain ⟨customer, merchant, rfl⟩ := CloseBalances.ofBalances_eq_ok.1 positive
  refine ⟨?_, outputs_of_customerCloseTx formed⟩
  have spends := inputValue_of_customerCloseTx formed
  have toCustomer := Balance.toNat_toUInt64 customer
  have toMerchant := Balance.toNat_toUInt64 merchant
  simp only [ChannelState.total] at worth
  dsimp only at spends
  omega

-----------------------------------------------------------------------------------------
-- A shop and the masking service
-----------------------------------------------------------------------------------------

/-- A shop, the inputs that it gave out for the masking service, and the states for which a pay token
was ever computed, by the merchant or by the service.
-/
structure Mint where
  shop : Shop
  handed : List MerchantInput
  minted : List ChannelState

namespace Mint

/-- Takes down an event. -/
def note (mint : Mint) : MerchantEvent → Mint
  | .issued state => { mint with minted := state :: mint.minted }
  | .handed _ input => { mint with handed := input :: mint.handed }
  | _ => mint

/-- The mint after an exchange that leads to a shop. -/
def follow (mint : Mint) (exchange : MerchantExchange) (shop : Shop) : Mint :=
  match exchange.event? with
  | some event => { mint.note event with shop }
  | none => { mint with shop }

/-- The mint after a call. -/
def after (mint : Mint) (call : MerchantCall) : Mint :=
  mint.follow (mint.shop.exchange call) (mint.shop.after call)

/-- A mint that opens: a merchant with fresh keys, any ledger and no pay token. -/
structure Opens (params : ChannelParams) (policy : RefundPolicy) (source : Entropy) (mint : Mint)
    : Prop where
  shop : mint.shop.Opens params policy source
  handed : mint.handed = []
  minted : mint.minted = []

/-- The mints that a mint can become. The service may compute for an input of the merchant as often
as anyone likes and with any input of a customer, but a pay token was computed for the old state
before: nobody forges one.
-/
inductive Run (start : Mint) : Mint → Prop
  | start : Run start start
  | call {mint : Mint} (run : Run start mint) (call : MerchantCall) : Run start (mint.after call)
  | compute {mint : Mint} (run : Run start mint) {request : MaskingRequest} {result : MaskingResult}
    (given : request.merchant ∈ mint.handed) (unforged : request.customer.old ∈ mint.minted)
    (computed : request.compute = .ok result)
    : Run start { mint with minted := request.customer.new :: mint.minted }
  | ledger {mint : Mint} (run : Run start mint) (event : LedgerEvent)
    : Run start { mint with shop := { mint.shop with ledger := event.apply mint.shop.ledger } }

end Mint

-----------------------------------------------------------------------------------------
-- States with funds behind them
-----------------------------------------------------------------------------------------

namespace Merchant

/-- An amount that the merchant takes: no refund, if its policy is to reject them. -/
def Takes (merchant : Merchant) (amount : Balance) : Prop :=
  merchant.policy = .reject → 0 ≤ amount

/-- The merchant accepts only amounts that it takes. -/
theorem takes_of_accepts {merchant : Merchant} {amount : Balance} {justification : Option String}
    (accepts : merchant.accepts amount justification = true)
    : merchant.Takes amount := by
  intro reject
  simpa [Merchant.accepts, reject] using accepts

/-- A state is one of a channel past its first step and divides the funds of the channel. The
merchant has no less than at first, unless it refunds.
-/
structure Backs (merchant : Merchant) (channel : MerchantChannel) (state : ChannelState) : Prop where
  past : channel.status ≠ .unfunded
  fits : channel.token.checkState state = .ok ()
  total : state.total
    = channel.funding.customerBalance.toInt + channel.funding.merchantBalance.toInt
  least : merchant.policy = .reject → channel.funding.merchantBalance ≤ state.merchantBalance

/-- Some registered channel has the funds of a state. -/
def Funds (merchant : Merchant) (state : ChannelState) : Prop :=
  ∃ escrow channel, merchant.channels.get? escrow = some channel ∧ merchant.Backs channel state

variable {merchant after : Merchant} {state : ChannelState}

/-- A channel past its first step keeps its funds in every step, by cases on the kinds of steps. -/
theorem Funds.step {shop next : Shop} (funds : shop.merchant.Funds state)
    {exchange : MerchantExchange} (step : ShopStep shop exchange next)
    : next.merchant.Funds state := by
  have policy := (SameTerms.of_step step).policy
  obtain ⟨escrow, channel, found, past, fits, total, least⟩ := funds
  rw [← policy] at least
  -- A channel that takes the place of one that is not funded is at another escrow.
  have elsewhere : ∀ {other : Txid} {changed : MerchantChannel},
      (∀ current, shop.merchant.channels.get? other = some current → current.status = .unfunded)
      → (shop.merchant.channels.insert other changed).get? escrow = some channel := by
    intro other changed free
    have apart : escrow ≠ other := by
      rintro rfl
      exact past (free channel found)
    rwa [Dict.get?_insert_of_ne apart]
  cases step with
  | silent _ | issued _ _ _ _ _ | repeated _ _ | refused _ | began _ | handed _ _
  | confirmed _ _ =>
      exact ⟨escrow, channel, found, past, fits, total, least⟩
  | registered _ _ free _ _ _ =>
      exact ⟨escrow, channel, elsewhere free, past, fits, total, least⟩
  | announced known unfunded _ =>
      refine ⟨escrow, channel, elsewhere fun current there => ?_, past, fits, total, least⟩
      rw [known] at there
      cases there
      exact unfunded
  | @moved _ other known status _ there moved =>
      by_cases here : escrow = other
      · subst here
        rw [found] at there
        cases there
        exact ⟨escrow, { channel with status }, by simp, moved, fits, total, least⟩
      · exact ⟨escrow, channel, by rwa [setChannel_channels, Dict.get?_insert_of_ne here], past, fits,
          total, least⟩
  | dropped _ _ _ | spoiled _ _ _ | revoked _ _ _ _ =>
      exact ⟨escrow, channel, by simpa using found, past, fits, total, least⟩

/-- The announced first state of a channel that has opened has its funds. -/
theorem Funds.first {start : Merchant} (standing : Standing start merchant) {escrow : Txid}
    {channel : MerchantChannel} (found : merchant.channels.get? escrow = some channel)
    (past : channel.status ≠ .unfunded) (fits : channel.token.checkState state = .ok ())
    (first : channel.init.map (·.state channel.token) = some state)
    : merchant.Funds state := by
  obtain ⟨init, announced, rfl⟩ := Option.map_eq_some_iff.1 first
  obtain ⟨customer, toMerchant⟩ := standing.first escrow channel init found announced
  refine ⟨escrow, channel, found, past, fits, ?_, fun _ => ?_⟩
  · simp only [ChannelState.total, InitialState.state, customer, toMerchant]
  · simp [InitialState.state, toMerchant]

/-- An input for the service with the terms of the merchant and an amount that it takes. -/
structure Hands (merchant : Merchant) (input : MerchantInput) : Prop where
  keys : input.keys = merchant.keys
  key : input.key = merchant.escrowSecret
  params : input.params = merchant.params
  takes : merchant.Takes input.amount

/-- What the merchant hands out depends on its terms only. -/
theorem Hands.of_terms {input : MerchantInput} (hands : merchant.Hands input)
    (same : SameTerms merchant after)
    : after.Hands input where
  keys := hands.keys.trans same.keys.symm
  key := hands.key.trans same.escrowSecret.symm
  params := hands.params.trans same.params.symm
  takes reject := hands.takes (same.policy ▸ reject)

variable {request : MaskingRequest} {channel : MerchantChannel}

/-- The token of an accepted request is that of the channel that has the funds of the old state. -/
theorem Backs.token_eq (backs : merchant.Backs channel request.customer.old)
    (agrees : merchant.Agrees channel) (hands : merchant.Hands request.merchant)
    (accepted : request.Accepted)
    : request.customer.token = channel.token := by
  exact ChannelToken.eq_of_checks (hands.keys ▸ accepted.merchant) agrees.checkMerchant
    accepted.oldFits backs.fits

/-- The new state of an accepted request has the funds of the old one. -/
theorem Backs.new (backs : merchant.Backs channel request.customer.old)
    (token : request.customer.token = channel.token) (hands : merchant.Hands request.merchant)
    (accepted : request.Accepted)
    : merchant.Backs channel request.customer.new where
  past := backs.past
  fits := token ▸ accepted.newFits
  total := by
    have customer := Balance.sub_eq_ok.1 accepted.customerBalance
    have toMerchant := Balance.add_eq_ok.1 accepted.merchantBalance
    have total := backs.total
    simp only [ChannelState.total] at total ⊢
    omega
  least reject := by
    have toMerchant := Balance.add_eq_ok.1 accepted.merchantBalance
    have amount := Int64.le_iff_toInt_le.1 (hands.takes reject)
    have least := Int64.le_iff_toInt_le.1 (backs.least reject)
    rw [← accepted.amount] at amount
    rw [Int64.le_iff_toInt_le]
    have zero : (0 : Int64).toInt = 0 := rfl
    omega

end Merchant

-----------------------------------------------------------------------------------------
-- Runs
-----------------------------------------------------------------------------------------

namespace Mint

variable {mint : Mint} {shop : Shop} {exchange : MerchantExchange}

theorem follow_quiet (quiet : exchange.event? = none)
    : mint.follow exchange shop = { mint with shop } := by
  rw [follow, quiet]

@[simp] theorem follow_shop : (mint.follow exchange shop).shop = shop := by
  unfold follow
  split <;> rfl

/-- A run goes on with a call that is answered. -/
theorem Run.answered {start : Mint} (run : start.Run mint) (call : MerchantCall)
    {answer : call.Answer} (served : mint.shop.serve call = (.ok answer, shop))
    : start.Run (mint.follow ⟨call, .ok answer⟩ shop) := by
  have next := run.call call
  rwa [after, Shop.exchange, Shop.after, served] at next

/-- Every run of a shop can be taken down, by induction on the run. -/
theorem Run.of_shop {start : Mint} {history : List MerchantExchange}
    (run : start.shop.Run history shop)
    : ∃ mint, start.Run mint ∧ mint.shop = shop := by
  induction run with
  | start => exact ⟨start, .start, rfl⟩
  | call _ call ih =>
      obtain ⟨mint, run, rfl⟩ := ih
      exact ⟨_, run.call call, follow_shop⟩
  | ledger _ event ih =>
      obtain ⟨mint, run, rfl⟩ := ih
      exact ⟨_, run.ledger event, rfl⟩

/-- What is known of the sessions of a mint, of what it gave out and of what was minted. -/
structure Sound (start : Merchant) (mint : Mint) : Prop where
  standing : Standing start mint.shop.merchant
  sessions : ∀ id session, mint.shop.merchant.sessions.get? id = some session
    → mint.shop.merchant.Takes session.amount
  handed : ∀ input ∈ mint.handed, mint.shop.merchant.Hands input
  minted : ∀ state ∈ mint.minted, mint.shop.merchant.Funds state

/-- Sessions keep their amounts in every step, and new ones have an accepted amount. -/
theorem takes_step {shop next : Shop} {exchange : MerchantExchange}
    (step : ShopStep shop exchange next)
    (sessions : ∀ id session, shop.merchant.sessions.get? id = some session
      → shop.merchant.Takes session.amount)
    {id : SessionId} {session : Session} (found : next.merchant.sessions.get? id = some session)
    : next.merchant.Takes session.amount := by
  rw [Takes, (SameTerms.of_step step).policy]
  change shop.merchant.Takes session.amount
  cases step with
  | silent _ | registered _ _ _ _ _ _ | announced _ _ _ | moved _ _ _ | issued _ _ _ _ _
  | repeated _ _ | refused _ => exact sessions id session found
  | began checked =>
      simp only [setSession_sessions, Dict.get?_insert] at found
      split at found
      case isTrue =>
        cases found
        exact takes_of_accepts (checkPayment_eq_ok.1 checked).2.2
      case isFalse => exact sessions id session found
  | @handed other known there _ | @confirmed other known there _ =>
      simp only [setSession_sessions, Dict.get?_insert] at found
      split at found
      case isTrue =>
        cases found
        exact sessions other known there
      case isFalse => exact sessions id session found
  | dropped _ _ _ => exact sessions id session (get?_of_closeSession found)
  | spoiled _ _ _ | revoked _ _ _ _ =>
      have stays := get?_of_closeSession found
      exact sessions id session stays

namespace Sound

variable {start : Merchant}

/-- What a step adds to the lists of a mint, by cases on the kinds of steps: only two of them add
an entry.
-/
theorem added (sound : Sound start mint) (step : ShopStep mint.shop exchange shop)
    : (∀ input ∈ (mint.follow exchange shop).handed,
        input ∈ mint.handed ∨ mint.shop.merchant.Hands input)
      ∧ ∀ state ∈ (mint.follow exchange shop).minted,
        state ∈ mint.minted ∨ mint.shop.merchant.Funds state := by
  cases step with
  | silent quiet | registered quiet _ _ _ _ _ | moved quiet _ _ | dropped quiet _ _ =>
      rw [follow_quiet quiet]
      exact ⟨fun _ => .inl, fun _ => .inl⟩
  | announced _ _ _ | began _ | confirmed _ _ | spoiled _ _ _ | revoked _ _ _ _ | repeated _ _ =>
      exact ⟨fun _ => .inl, fun _ => .inl⟩
  | issued found confirmed first _ fits =>
      refine ⟨fun _ => .inl, fun state member => ?_⟩
      rcases List.mem_cons.1 member with rfl | member
      · exact .inr (.first sound.standing found (by simp [confirmed]) fits first)
      · exact .inl member
  | handed found _ =>
      refine ⟨fun input member => ?_, fun _ => .inl⟩
      rcases List.mem_cons.1 member with rfl | member
      · exact .inr ⟨rfl, rfl, rfl, sound.sessions _ _ found⟩
      · exact .inl member
  | @refused id revoked failure _ =>
      by_cases wrong : failure = .refused .invalidRevocationProof
      · rw [wrong]
        exact ⟨fun _ => .inl, fun _ => .inl⟩
      · rw [follow_quiet (Shop.event?_of_ne wrong)]
        exact ⟨fun _ => .inl, fun _ => .inl⟩

/-- Every step keeps a mint sound. -/
theorem step (sound : Sound start mint) (step : ShopStep mint.shop exchange shop)
    : Sound start (mint.follow exchange shop) := by
  have same := SameTerms.of_step step
  obtain ⟨handed, minted⟩ := sound.added step
  constructor
  case standing =>
    rw [follow_shop]
    exact sound.standing.step step
  case sessions =>
    intro id session found
    rw [follow_shop] at found ⊢
    exact takes_step step sound.sessions found
  case handed =>
    intro input member
    rw [follow_shop]
    exact ((handed input member).elim (sound.handed input) id).of_terms same
  case minted =>
    intro state member
    rw [follow_shop]
    exact ((minted state member).elim (sound.minted state) id).step step

/-- A mint is sound in every run, by induction on the run. What the service computes has the funds
that the pay token of the old state vouches for.
-/
theorem run {params : ChannelParams} {policy : RefundPolicy} {source : Entropy}
    {start mint : Mint} (opens : start.Opens params policy source) (run : start.Run mint)
    : Sound start.shop.merchant mint := by
  induction run with
  | start =>
      obtain ⟨-, _, -, _, -, _, -, opened⟩ := init_eq_ok.1 opens.shop
      have none : start.shop.merchant.sessions = .empty := by rw [opened, fresh]
      exact ⟨Standing.run opens.shop .start, by simp [none], by simp [opens.handed],
        by simp [opens.minted]⟩
  | @call mint _ call ih => exact ih.step (mint.shop.step call)
  | @compute mint _ request _ given unforged computed ih =>
      refine { ih with minted := fun state member => ?_ }
      rcases List.mem_cons.1 member with rfl | member
      · obtain ⟨escrow, channel, found, backs⟩ := ih.minted _ unforged
        obtain ⟨accepted, -⟩ := MaskingRequest.compute_eq_ok.1 computed
        have hands := ih.handed _ given
        have token := backs.token_eq (ih.standing.agrees escrow channel found) hands accepted
        exact ⟨escrow, channel, found, backs.new token hands accepted⟩
      · exact ih.minted state member
  | ledger _ _ ih => exact ⟨ih.standing, ih.sessions, ih.handed, ih.minted⟩

end Sound

end Mint

/-- The masked signature of the transaction that spends a source. -/
def MaskedOutputs.of (outputs : MaskedOutputs) : CloseSource → MaskedSignature
  | .escrow => outputs.escrow
  | .merchantClose => outputs.merchantClose

/-- What the service computed for a source is a masked signature. -/
theorem MaskingRequest.maskedSignature_of_compute {request : MaskingRequest}
    {result : MaskingResult} (computed : request.compute = .ok result) (source : CloseSource)
    : request.maskedSignature source = .ok (result.customer.of source) := by
  obtain ⟨-, _, escrow, _, merchantClose, rfl⟩ := compute_eq_ok.1 computed
  cases source
  · exact escrow
  · exact merchantClose

/-- No money is created inside of channels. In every run, each state for which a pay token was ever
computed is one of a registered channel and divides what the channel was funded with; unless the
merchant refunds, it has no less than at first. So every customer-close transaction that the merchant
signs hands out the escrow of a registered channel exactly: those of an announced first state, and
those of the new state of a payment that the service computes for.
-/
theorem no_money_created {params : ChannelParams} {policy : RefundPolicy} {source : Entropy}
    {start mint : Mint} (opens : start.Opens params policy source) (run : start.Run mint)
    : (∀ state ∈ mint.minted,
        ∃ escrow channel, mint.shop.merchant.channels.get? escrow = some channel
          ∧ channel.token.checkState state = .ok ()
          ∧ state.customerBalance.toInt + state.merchantBalance.toInt
            = channel.funding.customerBalance.toInt + channel.funding.merchantBalance.toInt
          ∧ (policy = .reject → channel.funding.merchantBalance ≤ state.merchantBalance))
      ∧ (∀ init signatures after,
        mint.shop.merchant.signInitial init = .ok (signatures, after)
        → ∃ channel value, mint.shop.merchant.channels.get? init.escrowTxid = some channel
          ∧ channel.funding.escrowValue = .ok value
          ∧ ∀ source, ∃ close,
            channel.token.customerCloseTx source (init.state channel.token) init.closeKey params
              = .ok close
            ∧ signatures.of source = close.sign mint.shop.merchant.escrowSecret
            ∧ HandsOut params.fees source close value)
      ∧ ∀ (request : MaskingRequest) (result : MaskingResult),
        request.merchant ∈ mint.handed → request.customer.old ∈ mint.minted
        → request.compute = .ok result
        → ∃ escrow channel value, mint.shop.merchant.channels.get? escrow = some channel
          ∧ channel.funding.escrowValue = .ok value
          ∧ ∀ source, ∃ close,
            channel.token.customerCloseTx source request.customer.new request.customer.closeKey
              params = .ok close
            ∧ result.customer.of source
              = .mask (close.sign mint.shop.merchant.escrowSecret) (request.merchant.masks.of source)
            ∧ HandsOut params.fees source close value := by
  have sound := Mint.Sound.run opens run
  obtain ⟨params_eq, policy_eq⟩ := terms_of_run opens.shop sound.standing
  refine ⟨?_, ?_, ?_⟩
  · intro state member
    obtain ⟨escrow, channel, found, backs⟩ := sound.minted state member
    exact ⟨escrow, channel, found, backs.fits, backs.total, policy_eq ▸ backs.least⟩
  · intro init signatures after signed
    obtain ⟨channel, found, balances, signs⟩ := signClose_of_signInitial signed
    obtain ⟨value, worth, total⟩ := (sound.standing.agrees _ channel found).escrowValue
    have divides : (value.toNat : Int) = (init.state channel.token).total := by
      rw [total, ← balances.1, ← balances.2]
      rfl
    refine ⟨channel, value, found, worth, fun source => ?_⟩
    obtain ⟨close, formed, signature⟩ := signClose_eq_ok.1 (signs source)
    rw [params_eq] at formed
    exact ⟨close, formed, signature, handsOut_of_customerCloseTx formed divides⟩
  · intro request result given unforged computed
    -- A channel backs the old state, and what the service checks carries that to the new one.
    obtain ⟨escrow, channel, found, backs⟩ := sound.minted _ unforged
    obtain ⟨accepted, -⟩ := MaskingRequest.compute_eq_ok.1 computed
    have agrees := sound.standing.agrees escrow channel found
    have hands := sound.handed _ given
    have token := backs.token_eq agrees hands accepted
    obtain ⟨value, worth, total⟩ := agrees.escrowValue
    refine ⟨escrow, channel, value, found, worth, fun source => ?_⟩
    obtain ⟨close, formed, masked⟩ := MaskingRequest.maskedSignature_eq_ok.1
      (MaskingRequest.maskedSignature_of_compute computed source)
    rw [token, hands.params, params_eq] at formed
    rw [hands.key] at masked
    refine ⟨close, formed, masked, handsOut_of_customerCloseTx formed ?_⟩
    rw [total, (backs.new token hands accepted).total]

-----------------------------------------------------------------------------------------
-- A channel that opens
-----------------------------------------------------------------------------------------

section Example

open Bench

-- Unification would compute keys and hashes where comparing their arguments is enough.
attribute [local irreducible] SecretKey.publicKey SignableTx.txid SignableTx.sign
  SignableTx.verifies sha256 hmacSha256

/-- A mint with no pay token. -/
def steadyMint : Mint := ⟨steadyShop, [], []⟩

theorem steadyMint_opens : steadyMint.Opens .default .reject steadySource :=
  ⟨steadyShop_opens, rfl, rfl⟩

/-- The channel after one announcement. -/
def announcedChannel : MerchantChannel where
  token := steadyToken
  funding := steadyFunding
  signedClose := steadyClose.finalizeMultisig (steadyClose.sign steadyKey) steadySignature
  init := some (steadyInit 1)
  status := .unfunded

theorem confirmedShop_run
    : ∃ history shop, steadyShop.Run history shop
      ∧ shop.merchant.channels.get? steadyEscrow
        = some { announcedChannel with status := .confirmed }
      ∧ shop.merchant.spentNonces = .empty := by
  obtain ⟨history, run⟩ := registeredBench_run.shopRun
  have found : registeredBench.shop.merchant.channels.get? steadyEscrow
      = some { announcedChannel with init := none } :=
    Dict.get?_insert_self _ _ _
  obtain ⟨close, formed⟩ : ∃ close, steadyToken.customerCloseTx .escrow
      ((steadyInit 1).state steadyToken) steadyKey.publicKey .default = .ok close := ⟨_, rfl⟩
  obtain ⟨other, alsoFormed⟩ : ∃ close, steadyToken.customerCloseTx .merchantClose
      ((steadyInit 1).state steadyToken) steadyKey.publicKey .default = .ok close := ⟨_, rfl⟩
  have signed : registeredBench.shop.merchant.signInitial (steadyInit 1)
      = .ok (⟨close.sign steadyKey, other.sign steadyKey⟩,
        registeredBench.shop.merchant.setChannel steadyEscrow announcedChannel) :=
    signInitial_eq_ok.2 ⟨_, found, rfl, rfl, ⟨rfl, rfl⟩, _, signClose_eq_ok.2 ⟨close, formed, rfl⟩, _,
      signClose_eq_ok.2 ⟨other, alsoFormed, rfl⟩, rfl, rfl⟩
  have validates (merchant : Merchant)
      : (merchant.setChannel steadyEscrow announcedChannel).validateInitial (steadyInit 1)
          (steadyInit 1).hash
        = .ok ((), (merchant.setChannel steadyEscrow announcedChannel).setChannel steadyEscrow
          { announcedChannel with status := .pendingOpen }) :=
    validateInitial_eq_ok.2 ⟨_, Dict.get?_insert_self _ _ _, rfl, ⟨rfl, rfl⟩, rfl⟩
  have marks (merchant : Merchant)
      : (merchant.setChannel steadyEscrow
          { announcedChannel with status := .pendingOpen }).markOpen steadyEscrow
        = .ok ((), (merchant.setChannel steadyEscrow
          { announcedChannel with status := .pendingOpen }).setChannel steadyEscrow
            { announcedChannel with status := .confirmed }) :=
    markOpen_eq_ok.2 ⟨_, Dict.get?_insert_self _ _ _, rfl, rfl⟩
  have announced := run.kept (.signInitial (steadyInit 1)) rfl signed
  have validated := announced.kept (.validateInitial (steadyInit 1) (steadyInit 1).hash) rfl
    (validates _)
  have confirmed := validated.kept (.markOpen steadyEscrow) rfl
    (marks (registeredBench.shop.merchant.setChannel steadyEscrow announcedChannel))
  exact ⟨_, _, confirmed, Dict.get?_insert_self _ _ _, rfl⟩

/-- The first pay token of a channel is computed for a state that divides the escrow. -/
theorem no_money_created_steady
    : steadyMint.Opens .default .reject steadySource
      ∧ ∃ mint, steadyMint.Run mint ∧ steadyFirst ∈ mint.minted
      ∧ ∃ escrow channel, mint.shop.merchant.channels.get? escrow = some channel
        ∧ channel.token.checkState steadyFirst = .ok ()
        ∧ steadyFirst.customerBalance.toInt + steadyFirst.merchantBalance.toInt
          = channel.funding.customerBalance.toInt + channel.funding.merchantBalance.toInt := by
  obtain ⟨history, shop, run, found, unspent⟩ := confirmedShop_run
  have run : steadyMint.shop.Run history shop := run
  obtain ⟨mint, taken, rfl⟩ := Mint.Run.of_shop run
  have unused : mint.shop.merchant.spentNonces.contains steadyFirst.nonce = false := by
    rw [unspent]
    rfl
  have fits : steadyToken.checkState steadyFirst = .ok () :=
    ChannelToken.checkState_eq_ok.2 ⟨rfl, rfl, ⟨rfl, rfl⟩, rfl, rfl⟩
  have issued := activate_eq_ok.2 ⟨_, found, rfl, fits, rfl, unused, rfl⟩
  have served : mint.shop.serve (.activate steadyEscrow steadyFirst)
      = (.ok (.compute mint.shop.merchant.hmacKey steadyFirst), mint.shop) := by
    rw [Shop.serve, issued]
    rfl
  have activated := taken.answered _ served
  obtain ⟨minted, -, -⟩ := no_money_created steadyMint_opens activated
  obtain ⟨escrow, channel, known, state, total, -⟩ := minted steadyFirst List.mem_cons_self
  exact ⟨steadyMint_opens, _, activated, List.mem_cons_self, escrow, channel, known, state, total⟩

end Example

end PaymentChannel
