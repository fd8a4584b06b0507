import PaymentChannel.Proofs.Merchant.Sessions
import PaymentChannel.Proofs.Revocation
import PaymentChannel.Proofs.Service

/-! A merchant with its masking service beside it.
The service computes once for an input that the merchant gave out, and the merchant confirms a
session only after that. Beside the shop stands what was signed and issued so far, which no
operation reads.
-/

namespace PaymentChannel

open Merchant

-----------------------------------------------------------------------------------------
-- What stands on the bench
-----------------------------------------------------------------------------------------

/-- An input for the masking service and the input of the customer that was accepted with it. -/
structure Handout where
  input : MerchantInput
  accepted : Option CustomerInput
deriving DecidableEq

/-- A shop, the inputs given out for its sessions, and what was signed and issued. -/
structure Bench where
  shop : Shop
  /-- The last input that was given out for an identifier. -/
  desk : Dict SessionId Handout
  /-- All first states whose close transactions were signed, the last one first. -/
  announced : List ChannelState
  /-- The states whose pay tokens the customers know. -/
  issued : List ChannelState
  /-- The new states of confirmed sessions. -/
  advanced : List ChannelState
  /-- The new states of sessions that ended with a right revocation, the last one first. -/
  released : List ChannelState
  /-- What the customers gave for confirmed sessions that ended with a wrong revocation. -/
  spoiled : List CustomerInput

namespace Bench

/-- The input of the customer that the service accepted for a session. -/
def accepted? (bench : Bench) (id : SessionId) : Option CustomerInput :=
  (bench.desk.get? id).bind (·.accepted)

/-- The input of the customer of a session that is confirmed and not yet revoked. -/
def round? (bench : Bench) (id : SessionId) : Option CustomerInput :=
  if bench.shop.merchant.sessionStatus id = some .confirmed then bench.accepted? id else none

/-- Takes down an event before the shop changes. -/
def note (bench : Bench) : MerchantEvent → Bench
  | .announced init =>
      let channel := bench.shop.merchant.channels.get? init.escrowTxid
      { bench with announced := (channel.toList.map (init.state ·.token)) ++ bench.announced }
  | .issued state => { bench with issued := state :: bench.issued }
  | .handed id input => { bench with desk := bench.desk.insert id ⟨input, none⟩ }
  | .payment (.began _) => bench
  | .payment (.confirmed id) =>
      { bench with advanced := (bench.accepted? id).toList.map (·.new) ++ bench.advanced }
  | .payment (.released id _ _) =>
      let given := (bench.round? id).toList.map (·.new)
      { bench with issued := given ++ bench.issued, released := given ++ bench.released }
  | .disproved id _ => { bench with spoiled := (bench.round? id).toList ++ bench.spoiled }

/-- The bench after an exchange that leads to a shop. -/
def follow (bench : Bench) (exchange : MerchantExchange) (shop : Shop) : Bench :=
  match exchange.event? with
  | some event => { bench.note event with shop }
  | none => { bench with shop }

/-- The bench after a call. -/
def after (bench : Bench) (call : MerchantCall) : Bench :=
  bench.follow (bench.shop.exchange call) (bench.shop.after call)

/-- A bench that opens: a merchant with fresh keys, any ledger and nothing signed. -/
structure Opens (params : ChannelParams) (policy : RefundPolicy) (source : Entropy) (bench : Bench)
    : Prop where
  shop : bench.shop.Opens params policy source
  desk : bench.desk = .empty
  announced : bench.announced = []
  issued : bench.issued = []
  advanced : bench.advanced = []
  released : bench.released = []
  spoiled : bench.spoiled = []

/-- What a caller of the merchant respects. A session is confirmed only after its inputs were
accepted. A revocation does not come with another lock behind the commitment that was accepted,
which would be a collision of the hash.
-/
def Allows (bench : Bench) : MerchantCall → Prop
  | .confirmMasking id true => ∃ customer, bench.accepted? id = some customer
  | .validateRevoked id revoked => ∀ customer, bench.round? id = some customer
      → RevLockCom.commit revoked.lock revoked.blinding
        = .commit customer.old.lock customer.blinding
      → revoked.lock = customer.old.lock
  | _ => True

/-- The benches that a bench can become. The service accepts an input of a customer only with a pay
token that was issued for its old state, and it computes once for every input of the merchant. An
input of a session that is over may still be computed for, which nobody looks at.
-/
inductive Run (start : Bench) : Bench → Prop
  | start : Run start start
  | call {bench : Bench} (run : Run start bench) (call : MerchantCall) (allowed : bench.Allows call)
    : Run start (bench.after call)
  | mask {bench : Bench} (run : Run start bench) {id : SessionId} {input : MerchantInput}
    {customer : CustomerInput} {result : MaskingResult}
    (waiting : bench.desk.get? id = some ⟨input, none⟩)
    (computed : MaskingRequest.compute ⟨customer, input⟩ = .ok result)
    (unforged : customer.old ∈ bench.issued)
    : Run start { bench with desk := bench.desk.insert id ⟨input, some customer⟩ }
  | ledger {bench : Bench} (run : Run start bench) (event : LedgerEvent)
    : Run start
        { bench with shop := { bench.shop with ledger := event.apply bench.shop.ledger } }

-----------------------------------------------------------------------------------------
-- States of a channel
-----------------------------------------------------------------------------------------

/-- A state of a channel that the customer can close with: any of the first states that were
announced for it, or the new state of a payment whose masks were released.
-/
def Signed (bench : Bench) (escrow : Txid) (state : ChannelState) : Prop :=
  (state ∈ bench.announced ∨ state ∈ bench.advanced) ∧ state.escrowTxid = escrow

/-- The first state that the merchant keeps of a channel: the one that was announced last. -/
def kept? (bench : Bench) (escrow : Txid) : Option ChannelState :=
  (bench.shop.merchant.channels.get? escrow).bind fun channel =>
    channel.init.map (·.state channel.token)

/-- The state that a channel has come to: that of its last payment, or the kept first state. -/
def latest? (bench : Bench) (escrow : Txid) : Option ChannelState :=
  (bench.released.find? (·.escrowTxid = escrow)).or (bench.kept? escrow)

/-- A first state that was signed for a channel, while the merchant keeps another one or none. -/
def Replaced (bench : Bench) (escrow : Txid) (state : ChannelState) : Prop :=
  state ∈ bench.announced ∧ state.escrowTxid = escrow ∧ bench.kept? escrow ≠ some state

/-- A state that the customer can close with and that the merchant can't punish, as the ledger does
not have its secret.
-/
def Unrevoked (bench : Bench) (escrow : Txid) (state : ChannelState) : Prop :=
  bench.Signed escrow state ∧ ¬bench.shop.ledger.Holds state.lock

/-- No payment of a channel waits for its revocation. -/
def Still (bench : Bench) (escrow : Txid) : Prop :=
  ∀ id customer, bench.round? id = some customer → customer.old.escrowTxid ≠ escrow

section Decisions

variable (bench : Bench) (escrow : Txid) (state : ChannelState)

instance : Decidable (bench.Signed escrow state) := inferInstanceAs (Decidable (_ ∧ _))

instance : Decidable (bench.Replaced escrow state) := inferInstanceAs (Decidable (_ ∧ _))

instance : Decidable (bench.Unrevoked escrow state) := inferInstanceAs (Decidable (_ ∧ _))

end Decisions

-----------------------------------------------------------------------------------------
-- Laws
-----------------------------------------------------------------------------------------

variable {bench : Bench} {shop : Shop} {exchange : MerchantExchange} {id : SessionId}
  {customer : CustomerInput} {escrow : Txid}

/-- A run goes on with another one, by induction on the later run. -/
theorem Run.trans {start middle : Bench} (run : start.Run middle) (later : middle.Run bench)
    : start.Run bench := by
  induction later with
  | start => exact run
  | call _ call allowed ih => exact ih.call call allowed
  | mask _ waiting computed unforged ih => exact ih.mask waiting computed unforged
  | ledger _ event ih => exact ih.ledger event

@[simp] theorem follow_shop : (bench.follow exchange shop).shop = shop := by
  unfold follow
  split <;> rfl

/-- The shop of a bench runs without the bench too, by induction on the run. -/
theorem Run.shopRun {start : Bench} (run : start.Run bench)
    : ∃ history, start.shop.Run history bench.shop := by
  induction run with
  | start => exact ⟨[], .start⟩
  | @call bench _ call _ ih =>
      obtain ⟨history, ih⟩ := ih
      rw [after, follow_shop]
      exact ⟨_, ih.call call⟩
  | mask _ _ _ _ ih => exact ih
  | ledger _ event ih =>
      obtain ⟨history, ih⟩ := ih
      exact ⟨history, ih.ledger event⟩

theorem accepted?_eq_some
    : bench.accepted? id = some customer
      ↔ ∃ handout, bench.desk.get? id = some handout ∧ handout.accepted = some customer := by
  simp [accepted?, Option.bind_eq_some_iff]

/-- A round is that of a confirmed session whose inputs were accepted. -/
theorem round?_eq_some
    : bench.round? id = some customer
      ↔ ∃ session, bench.shop.merchant.sessions.get? id = some session
        ∧ session.status = .confirmed ∧ bench.accepted? id = some customer := by
  simp only [round?, sessionStatus, Option.ite_none_right_eq_some, Option.map_eq_some_iff]
  constructor
  · rintro ⟨⟨session, found, confirmed⟩, accepted⟩
    exact ⟨session, found, confirmed, accepted⟩
  · rintro ⟨session, found, confirmed, accepted⟩
    exact ⟨⟨session, found, confirmed⟩, accepted⟩

/-- A round depends on the session and the handout of its identifier only. -/
theorem round?_congr {after : Bench}
    (sessions : after.shop.merchant.sessions.get? id = bench.shop.merchant.sessions.get? id)
    (desk : after.desk.get? id = bench.desk.get? id)
    : after.round? id = bench.round? id := by
  ext customer
  simp only [round?_eq_some, accepted?, sessions, desk]

/-- There is no round without a confirmed session. -/
theorem round?_eq_none
    (unconfirmed : ∀ session, bench.shop.merchant.sessions.get? id = some session
      → session.status ≠ .confirmed)
    : bench.round? id = none := by
  cases round : bench.round? id with
  | none => rfl
  | some customer =>
      obtain ⟨session, found, confirmed, -⟩ := round?_eq_some.1 round
      exact absurd confirmed (unconfirmed session found)

/-- There is no round without a session. -/
theorem round?_of_gone (gone : bench.shop.merchant.sessions.get? id = none)
    : bench.round? id = none := by
  refine round?_eq_none fun session found => ?_
  rw [gone] at found
  cases found

/-- A session that is not confirmed before and after changes no round, whatever is given out for
it.
-/
theorem round?_of_setSession {after : Bench} (changed : Session)
    (sessions : after.shop.merchant.sessions = bench.shop.merchant.sessions.insert id changed)
    (desk : ∀ other, other ≠ id → after.desk.get? other = bench.desk.get? other)
    (before : ∀ session, bench.shop.merchant.sessions.get? id = some session
      → session.status ≠ .confirmed)
    (unconfirmed : changed.status ≠ .confirmed) (other : SessionId)
    : after.round? other = bench.round? other := by
  by_cases here : other = id
  · subst here
    rw [round?_eq_none before]
    refine round?_eq_none fun session found => ?_
    rw [sessions, Dict.get?_insert_self] at found
    cases found
    exact unconfirmed
  · refine round?_congr ?_ (desk other here)
    rw [sessions, Dict.get?_insert_of_ne here]

/-- A session that goes away takes its round with it. -/
theorem round?_of_erase {after : Bench}
    (sessions : after.shop.merchant.sessions = bench.shop.merchant.sessions.erase id)
    (desk : after.desk = bench.desk)
    : after.round? id = none ∧ ∀ other, other ≠ id → after.round? other = bench.round? other := by
  constructor
  · refine round?_of_gone ?_
    rw [sessions, Dict.get?_erase_self]
  · intro other apart
    refine round?_congr ?_ (by rw [desk])
    rw [sessions, Dict.get?_erase_of_ne apart]

/-- The kept first states depend on the channels only. -/
theorem kept?_congr {after : Bench} (channels : after.shop.merchant.channels.get? escrow
      = bench.shop.merchant.channels.get? escrow)
    : after.kept? escrow = bench.kept? escrow := by
  rw [kept?, kept?, channels]

/-- The kept first state of a channel is the one that it was announced with. -/
theorem kept?_of_get? {channel : MerchantChannel}
    (found : bench.shop.merchant.channels.get? escrow = some channel)
    : bench.kept? escrow = channel.init.map (·.state channel.token) := by
  rw [kept?, found]
  rfl

theorem latest?_congr {after : Bench} (kept : after.kept? escrow = bench.kept? escrow)
    (released : after.released = bench.released)
    : after.latest? escrow = bench.latest? escrow := by
  rw [latest?, latest?, released, kept]

-----------------------------------------------------------------------------------------
-- What is taken down
-----------------------------------------------------------------------------------------

theorem follow_quiet (quiet : exchange.event? = none)
    : bench.follow exchange shop = { bench with shop } := by
  rw [follow, quiet]

theorem follow_announced {init : InitialState} {signatures : CloseSignatures}
    {channel : MerchantChannel}
    (found : bench.shop.merchant.channels.get? init.escrowTxid = some channel)
    : bench.follow ⟨.signInitial init, .ok signatures⟩ shop
      = { bench with shop, announced := init.state channel.token :: bench.announced } := by
  simp [follow, MerchantExchange.event?, note, found]

theorem follow_issued {state : ChannelState} {token : PayToken}
    : bench.follow ⟨.activate escrow state, .ok token⟩ shop
      = { bench with shop, issued := state :: bench.issued } := rfl

theorem follow_began {request : PaymentRequest} {source : Entropy} {response : PaymentResponse}
    : bench.follow ⟨.preparePayment request source, .ok response⟩ shop = { bench with shop } := rfl

theorem follow_handed {input : MerchantInput}
    : bench.follow ⟨.maskingInput id, .ok input⟩ shop
      = { bench with shop, desk := bench.desk.insert id ⟨input, none⟩ } := rfl

theorem follow_confirmed {confirmed : Bool} {released : ReleasedMasks}
    (accepted : bench.accepted? id = some customer)
    : bench.follow ⟨.confirmMasking id confirmed, .ok released⟩ shop
      = { bench with shop, advanced := customer.new :: bench.advanced } := by
  simp [follow, MerchantExchange.event?, note, accepted]

theorem follow_released {revoked : RevokedState} {opening : PayMaskOpening}
    (round : bench.round? id = some customer)
    : bench.follow ⟨.validateRevoked id revoked, .ok opening⟩ shop
      = { bench with
          shop
          issued := customer.new :: bench.issued
          released := customer.new :: bench.released } := by
  simp [follow, MerchantExchange.event?, note, round]

theorem follow_spoiled {revoked : RevokedState} (round : bench.round? id = some customer)
    : bench.follow ⟨.validateRevoked id revoked, .error (.refused .invalidRevocationProof)⟩ shop
      = { bench with shop, spoiled := customer :: bench.spoiled } := by
  simp [follow, MerchantExchange.event?, note, round]

/-- A revocation without a session adds nothing, whatever becomes of it. -/
theorem follow_gone {revoked : RevokedState}
    {outcome : Outcome ChannelError (MerchantCall.validateRevoked id revoked).Answer}
    (gone : bench.shop.merchant.sessions.get? id = none)
    : bench.follow ⟨.validateRevoked id revoked, outcome⟩ shop = { bench with shop } := by
  have round : bench.round? id = none := round?_of_gone gone
  rcases outcome with failure | opening
  · by_cases wrong : failure = .refused .invalidRevocationProof
    · simp [follow, wrong, MerchantExchange.event?, note, round]
    · exact follow_quiet (Shop.event?_of_ne wrong)
  · simp [follow, MerchantExchange.event?, note, round]

end Bench

end PaymentChannel
