import PaymentChannel.Proofs.Merchant.BenchInvariants
import PaymentChannel.Proofs.Merchant.NonceReuse
import PaymentChannel.Proofs.Template

/-! Which stale states a merchant can punish.
Between payments all states that were signed for a channel are revoked, except for those with one
lock. A payment adds a second lock when its masks are released, and the revocation takes the first one
away before the next pay token is known; after a wrong revocation both are left and no pay token is.
A first state that was signed and then replaced is not reached by this, as no payment starts from it.
-/

namespace PaymentChannel

open Merchant

namespace Bench

variable {bench after : Bench} {shop : Shop} {exchange : MerchantExchange} {id : SessionId}
  {customer : CustomerInput} {state : ChannelState} {escrow : Txid}

-----------------------------------------------------------------------------------------
-- Phases of a channel
-----------------------------------------------------------------------------------------

/-- The states of a channel are revoked, but for those with one of these locks and replaced ones. -/
def Leaves (bench : Bench) (escrow : Txid) (locks : List RevLock) : Prop :=
  ∀ state, bench.Signed escrow state
    → bench.shop.ledger.Holds state.lock ∨ bench.Replaced escrow state ∨ state.lock ∈ locks

/-- What a payment leaves when its session has ended: both of its locks and no pay token. -/
structure Ended (bench : Bench) (escrow : Txid) (customer : CustomerInput) : Prop where
  fits : customer.old.escrowTxid = escrow
  now : (bench.latest? escrow).map (·.lock) = some customer.old.lock
  leaves : bench.Leaves escrow [customer.old.lock, customer.new.lock]
  issued : ∀ state ∈ bench.issued, state.escrowTxid = escrow
    → bench.shop.merchant.Burnt state.nonce
  still : bench.Still escrow

/-- How far the payments of a channel have come, and what of it can still be used. -/
inductive Phase (bench : Bench) (escrow : Txid) : Prop
  /-- No pay token was issued. -/
  | silent (unissued : ∀ state ∈ bench.issued, state.escrowTxid ≠ escrow)
  /-- Between payments the latest lock is not revoked, and pay tokens are good for its nonce only. -/
  | resting (lock : RevLock) (nonce : Nonce)
    (now : (bench.latest? escrow).map (·.lock) = some lock) (leaves : bench.Leaves escrow [lock])
    (issued : ∀ state ∈ bench.issued, state.escrowTxid = escrow
      → bench.shop.merchant.Burnt state.nonce ∨ (state.lock = lock ∧ state.nonce = nonce))
    (still : bench.Still escrow)
  /-- In a payment its old and its new lock are not revoked, and all pay tokens are used. -/
  | moving (id : SessionId) (customer : CustomerInput)
    (round : bench.round? id = some customer) (fits : customer.old.escrowTxid = escrow)
    (now : (bench.latest? escrow).map (·.lock) = some customer.old.lock)
    (leaves : bench.Leaves escrow [customer.old.lock, customer.new.lock])
    (issued : ∀ state ∈ bench.issued, state.escrowTxid = escrow
      → bench.shop.merchant.Burnt state.nonce)
    (only : ∀ other another, bench.round? other = some another
      → another.old.escrowTxid = escrow → other = id)
  /-- After a wrong revocation it stays at that, as no pay token is left for another payment. -/
  | spoiled (customer : CustomerInput) (member : customer ∈ bench.spoiled)
    (ended : bench.Ended escrow customer)

-----------------------------------------------------------------------------------------
-- Channels that are left alone
-----------------------------------------------------------------------------------------

/-- A bench that keeps of a channel all that its phase depends on. -/
structure Keeps (bench after : Bench) (escrow : Txid) : Prop where
  issued : ∀ state ∈ after.issued, state.escrowTxid = escrow → state ∈ bench.issued
  signed : ∀ state, after.Signed escrow state → bench.Signed escrow state
  replaced : ∀ state, bench.Replaced escrow state → after.Replaced escrow state
  latest : after.latest? escrow = bench.latest? escrow
  spoiled : ∀ customer ∈ bench.spoiled, customer ∈ after.spoiled
  held : ∀ lock, bench.shop.ledger.Holds lock → after.shop.ledger.Holds lock
  burnt : ∀ nonce, bench.shop.merchant.Burnt nonce → after.shop.merchant.Burnt nonce
  rounds : ∀ id customer, customer.old.escrowTxid = escrow
    → (after.round? id = some customer ↔ bench.round? id = some customer)

namespace Keeps

theorem refl (bench : Bench) (escrow : Txid) : bench.Keeps bench escrow where
  issued _ member _ := member
  signed _ signed := signed
  replaced _ replaced := replaced
  latest := rfl
  spoiled _ member := member
  held _ held := held
  burnt _ burnt := burnt
  rounds _ _ _ := .rfl

theorem trans {middle : Bench} (first : bench.Keeps middle escrow)
    (second : middle.Keeps after escrow)
    : bench.Keeps after escrow where
  issued state member fits := first.issued state (second.issued state member fits) fits
  signed state signed := first.signed state (second.signed state signed)
  replaced state replaced := second.replaced state (first.replaced state replaced)
  latest := second.latest.trans first.latest
  spoiled customer member := second.spoiled customer (first.spoiled customer member)
  held lock held := second.held lock (first.held lock held)
  burnt nonce burnt := second.burnt nonce (first.burnt nonce burnt)
  rounds id customer fits := (second.rounds id customer fits).trans (first.rounds id customer fits)

/-- A channel is left alone when only shop and desk change, and with them nothing of the channel. -/
theorem of_shop {desk : Dict SessionId Handout}
    (kept : Bench.kept? { bench with shop, desk } escrow = bench.kept? escrow)
    (held : ∀ lock, bench.shop.ledger.Holds lock → shop.ledger.Holds lock)
    (burnt : ∀ nonce, bench.shop.merchant.Burnt nonce → shop.merchant.Burnt nonce)
    (rounds : ∀ id customer, customer.old.escrowTxid = escrow
      → (Bench.round? { bench with shop, desk } id = some customer
        ↔ bench.round? id = some customer))
    : bench.Keeps { bench with shop, desk } escrow where
  issued _ member _ := member
  signed _ signed := signed
  replaced _ replaced := ⟨replaced.1, replaced.2.1, kept ▸ replaced.2.2⟩
  latest := latest?_congr kept rfl
  spoiled _ member := member
  held := held
  burnt := burnt
  rounds := rounds

/-- A channel is left alone when all rounds stay. -/
theorem of_rounds {desk : Dict SessionId Handout}
    (kept : Bench.kept? { bench with shop, desk } escrow = bench.kept? escrow)
    (held : ∀ lock, bench.shop.ledger.Holds lock → shop.ledger.Holds lock)
    (burnt : ∀ nonce, bench.shop.merchant.Burnt nonce → shop.merchant.Burnt nonce)
    (rounds : ∀ id, Bench.round? { bench with shop, desk } id = bench.round? id)
    : bench.Keeps { bench with shop, desk } escrow :=
  .of_shop kept held burnt fun id _ _ => by rw [rounds id]

/-- A first state is announced for another channel. -/
theorem announce (elsewhere : state.escrowTxid ≠ escrow)
    : bench.Keeps { bench with announced := state :: bench.announced } escrow :=
  { refl bench escrow with
    signed := by
      rintro other ⟨announced | advanced, fits⟩
      · rcases List.mem_cons.1 announced with rfl | announced
        · exact absurd fits elsewhere
        · exact ⟨.inl announced, fits⟩
      · exact ⟨.inr advanced, fits⟩
    replaced := fun _ replaced => ⟨List.mem_cons_of_mem _ replaced.1, replaced.2⟩ }

/-- A pay token is issued for another channel, or again for a state that has one. -/
theorem issue (known : state.escrowTxid = escrow → state ∈ bench.issued)
    : bench.Keeps { bench with issued := state :: bench.issued } escrow :=
  { refl bench escrow with
    issued := by
      intro other member fits
      rcases List.mem_cons.1 member with rfl | member
      · exact known fits
      · exact member }

/-- A payment of another channel is confirmed. -/
theorem advance (elsewhere : state.escrowTxid ≠ escrow)
    : bench.Keeps { bench with advanced := state :: bench.advanced } escrow :=
  { refl bench escrow with
    signed := by
      rintro other ⟨announced | advanced, fits⟩
      · exact ⟨.inl announced, fits⟩
      · rcases List.mem_cons.1 advanced with rfl | advanced
        · exact absurd fits elsewhere
        · exact ⟨.inr advanced, fits⟩ }

/-- A payment of another channel ends with a right revocation. -/
theorem release (elsewhere : state.escrowTxid ≠ escrow)
    : bench.Keeps { bench with released := state :: bench.released } escrow :=
  { refl bench escrow with
    latest := by simp [latest?, kept?, elsewhere] }

/-- A payment ends with a wrong revocation. -/
theorem spoil (customer : CustomerInput)
    : bench.Keeps { bench with spoiled := customer :: bench.spoiled } escrow :=
  { refl bench escrow with
    spoiled := fun _ member => List.mem_cons_of_mem _ member }

end Keeps

/-- A session that has no round in a channel before and after changes no round of the channel. -/
theorem rounds_elsewhere
    (others : ∀ other, other ≠ id → after.round? other = bench.round? other)
    (before : ∀ customer, bench.round? id = some customer → customer.old.escrowTxid ≠ escrow)
    (left : ∀ customer, after.round? id = some customer → customer.old.escrowTxid ≠ escrow)
    : ∀ other customer, customer.old.escrowTxid = escrow
      → (after.round? other = some customer ↔ bench.round? other = some customer) := by
  intro other customer fits
  by_cases same : other = id
  · subst same
    exact ⟨fun moves => absurd fits (left customer moves),
      fun moves => absurd fits (before customer moves)⟩
  · rw [others other same]

/-- A session that is closed ends its own round and no other, with its nonce used up or not. -/
theorem round?_of_closed {merchant : Merchant} (same : merchant.sessions = bench.shop.merchant.sessions)
    (id : SessionId) (ledger : Ledger)
    : Bench.round? { bench with shop := ⟨merchant.closeSession id, ledger⟩ } id = none
      ∧ ∀ other, other ≠ id
        → Bench.round? { bench with shop := ⟨merchant.closeSession id, ledger⟩ } other
          = bench.round? other :=
  round?_of_erase (by rw [closeSession_sessions, same]) rfl

/-- A session that is closed changes no first state that is kept. -/
theorem kept?_of_closed {merchant : Merchant} (same : merchant.channels = bench.shop.merchant.channels)
    (id : SessionId) (ledger : Ledger) (escrow : Txid)
    : Bench.kept? { bench with shop := ⟨merchant.closeSession id, ledger⟩ } escrow
      = bench.kept? escrow :=
  kept?_congr (by rw [closeSession_channels, same])

/-- A session that ends with its nonce used up changes nothing but its round. -/
theorem keeps_of_spent {session : Session} {recorded : Ledger}
    (found : bench.shop.merchant.sessions.get? id = some session)
    (round : bench.round? id = some customer) (elsewhere : customer.old.escrowTxid ≠ escrow)
    (record : SpentNonce)
    (held : ∀ lock, bench.shop.ledger.Holds lock → recorded.Holds lock)
    : bench.Keeps { bench with
        shop := ⟨(bench.shop.merchant.spend session.nonce record).closeSession id, recorded⟩ }
        escrow := by
  obtain ⟨gone, others⟩ :=
    round?_of_closed (spend_sessions bench.shop.merchant session.nonce record) id recorded
  refine .of_shop (kept?_of_closed (spend_channels _ _ _) id recorded escrow) held
    (fun _ burnt => burnt.spend found record) (rounds_elsewhere others ?_ ?_)
  · intro another moves
    cases round.symm.trans moves
    exact elsewhere
  · intro another moves
    cases gone.symm.trans moves

-----------------------------------------------------------------------------------------
-- Confirmed sessions
-----------------------------------------------------------------------------------------

/-- What the confirmation of an accepted session makes of the bench: a round with its new state, for a
nonce that was not burnt.
-/
structure Confirms (bench after : Bench) (id : SessionId) (customer : CustomerInput) : Prop where
  none : bench.round? id = none
  round : after.round? id = some customer
  others : ∀ other, other ≠ id → after.round? other = bench.round? other
  signed : ∀ escrow state, after.Signed escrow state
    → bench.Signed escrow state ∨ (state = customer.new ∧ customer.old.escrowTxid = escrow)
  replaced : ∀ escrow state, bench.Replaced escrow state → after.Replaced escrow state
  latest : ∀ escrow, after.latest? escrow = bench.latest? escrow
  issued : after.issued = bench.issued
  issuedOld : customer.old ∈ bench.issued
  fresh : ¬bench.shop.merchant.Burnt customer.old.nonce
  burns : after.shop.merchant.Burnt customer.old.nonce
  burnt : ∀ nonce, bench.shop.merchant.Burnt nonce → after.shop.merchant.Burnt nonce
  ledger : after.shop.ledger = bench.shop.ledger
  spoiled : after.spoiled = bench.spoiled

/-- A session is confirmed with the input that was accepted for it. -/
theorem DeskSound.confirms (desk : bench.DeskSound) {session : Session}
    (found : bench.shop.merchant.sessions.get? id = some session)
    (updating : session.status = .updating) (accepted : bench.accepted? id = some customer)
    : Confirms bench { bench with
        shop := { bench.shop with
          merchant := bench.shop.merchant.setSession id { session with status := .confirmed } }
        advanced := customer.new :: bench.advanced } id customer := by
  have unconfirmed := unconfirmed_of_get? found (by simp [updating])
  obtain ⟨handout, there, passed⟩ := accepted?_eq_some.1 accepted
  obtain ⟨checks, issuedOld⟩ := desk.accepted id handout customer there passed
  have nonce : customer.old.nonce = session.nonce := by
    obtain ⟨handout', there', same, -⟩ := desk.handed id session found (by simp [updating])
    rw [there] at there'
    cases there'
    exact checks.nonce.trans same
  constructor
  case none => exact round?_eq_none unconfirmed
  case issued | ledger | spoiled => rfl
  case latest => exact fun _ => rfl
  case replaced => exact fun _ _ replaced => replaced
  case issuedOld => exact issuedOld
  case burnt => exact fun _ burnt => burnt.setSession unconfirmed
  case round =>
    exact round?_eq_some.2 ⟨{ session with status := .confirmed }, Dict.get?_insert_self _ _ _, rfl,
      accepted⟩
  case others =>
    intro other apart
    exact round?_congr (Dict.get?_insert_of_ne apart) rfl
  case signed =>
    rintro escrow state ⟨announced | member, fits⟩
    · exact .inl ⟨.inl announced, fits⟩
    · rcases List.mem_cons.1 member with rfl | member
      · exact .inr ⟨rfl, checks.escrowTxid.symm.trans fits⟩
      · exact .inl ⟨.inr member, fits⟩
  case fresh =>
    rw [nonce]
    exact desk.index.not_burnt found (unconfirmed session found)
  case burns =>
    exact .inr ⟨id, { session with status := .confirmed }, Dict.get?_insert_self _ _ _, rfl,
      nonce.symm⟩

/-- A session that is confirmed in another channel changes nothing. -/
theorem Confirms.keeps (confirms : Confirms bench after id customer)
    (elsewhere : customer.old.escrowTxid ≠ escrow)
    : bench.Keeps after escrow where
  issued state member _ := by rwa [confirms.issued] at member
  signed state given :=
    (confirms.signed escrow state given).resolve_right fun ⟨_, same⟩ => elsewhere same
  replaced := confirms.replaced escrow
  latest := confirms.latest escrow
  spoiled customer member := by rwa [confirms.spoiled]
  held lock held := by rwa [confirms.ledger]
  burnt := confirms.burnt
  rounds := by
    refine rounds_elsewhere confirms.others ?_ ?_
    · intro another moves
      cases confirms.none.symm.trans moves
    · intro another moves
      cases confirms.round.symm.trans moves
      exact elsewhere

-----------------------------------------------------------------------------------------
-- Steps from phase to phase
-----------------------------------------------------------------------------------------

theorem Still.keeps (still : bench.Still escrow) (keeps : bench.Keeps after escrow)
    : after.Still escrow :=
  fun id customer round fits => still id customer ((keeps.rounds id customer fits).1 round) fits

theorem Leaves.keeps {locks : List RevLock} (leaves : bench.Leaves escrow locks)
    (keeps : bench.Keeps after escrow)
    : after.Leaves escrow locks :=
  fun state signed => (leaves state (keeps.signed state signed)).imp (keeps.held _)
    (Or.imp_left (keeps.replaced state))

/-- Before the first pay token there is nothing but announced first states, of which one is kept. -/
theorem BooksSound.leaves (books : bench.BooksSound)
    (unissued : ∀ state ∈ bench.issued, state.escrowTxid ≠ escrow)
    : bench.latest? escrow = bench.kept? escrow
      ∧ bench.Leaves escrow ((bench.latest? escrow).map (·.lock)).toList := by
  have none : bench.released.find? (·.escrowTxid = escrow) = none := by
    refine List.find?_eq_none.2 fun state member => ?_
    simpa using unissued state (books.released state member)
  have latest : bench.latest? escrow = bench.kept? escrow := by
    rw [latest?, none, Option.none_or]
  refine ⟨latest, ?_⟩
  rintro state ⟨announced | advanced, fits⟩
  · by_cases kept : bench.kept? escrow = some state
    · exact .inr (.inr (by simp [latest, kept]))
    · exact .inr (.inl ⟨announced, fits, kept⟩)
  · obtain ⟨older, issued, same⟩ := books.advanced state advanced
    exact absurd (same.trans fits) (unissued older issued)

namespace Phase

/-- A phase lasts as long as its channel is left alone. -/
theorem lasts (phase : bench.Phase escrow) (keeps : bench.Keeps after escrow)
    : after.Phase escrow := by
  cases phase with
  | silent unissued =>
      refine .silent fun state member fits => ?_
      exact unissued state (keeps.issued state member fits) fits
  | resting lock nonce now leaves issued still =>
      refine .resting lock nonce (keeps.latest ▸ now) (leaves.keeps keeps) ?_ (still.keeps keeps)
      intro state member fits
      exact (issued state (keeps.issued state member fits) fits).imp_left (keeps.burnt _)
  | moving id customer round fits now leaves issued only =>
      refine .moving id customer ((keeps.rounds id customer fits).2 round) fits
        (keeps.latest ▸ now) (leaves.keeps keeps) ?_ ?_
      · intro state member fits
        exact keeps.burnt _ (issued state (keeps.issued state member fits) fits)
      · intro other another round fits
        exact only other another ((keeps.rounds other another fits).1 round) fits
  | spoiled customer member ended =>
      refine .spoiled customer (keeps.spoiled customer member) {
        fits := ended.fits
        now := keeps.latest ▸ ended.now
        leaves := ended.leaves.keeps keeps
        issued := ?_
        still := ended.still.keeps keeps }
      intro state member fits
      exact keeps.burnt _ (ended.issued state (keeps.issued state member fits) fits)

/-- The first pay token of a channel begins a rest; issued again it changes nothing. -/
theorem issue (phase : bench.Phase escrow) (desk : bench.DeskSound) (books : bench.BooksSound)
    (kept : bench.kept? state.escrowTxid = some state)
    : Phase { bench with issued := state :: bench.issued } escrow := by
  by_cases known : state.escrowTxid = escrow
      → ∃ older ∈ bench.issued, older.escrowTxid = state.escrowTxid
  -- A channel keeps one first state, so a token that is issued again is for a state that is known.
  · refine phase.lasts (.issue fun here => ?_)
    obtain ⟨older, member, same⟩ := known here
    exact books.first older member state (same ▸ kept)
  · obtain ⟨here, unknown⟩ := Classical.not_imp.1 known
    subst here
    have unissued : ∀ older ∈ bench.issued, older.escrowTxid ≠ state.escrowTxid :=
      fun older member same => unknown ⟨older, member, same⟩
    obtain ⟨latest, leaves⟩ := books.leaves unissued
    have now : (bench.latest? state.escrowTxid).map (·.lock) = some state.lock := by
      rw [latest, kept]
      rfl
    rw [now] at leaves
    refine .resting state.lock state.nonce now leaves ?_ ?_
    · intro other given same
      rcases List.mem_cons.1 given with rfl | given
      · exact .inr ⟨rfl, rfl⟩
      · exact absurd same (unissued other given)
    · exact fun id customer round => unissued customer.old (desk.issued_of_round round)

/-- A session that is confirmed is the only one that moves its channel on: it can have been accepted
only for the one nonce that was not burnt.
-/
theorem confirm (phase : bench.Phase escrow) (confirms : Confirms bench after id customer)
    (here : customer.old.escrowTxid = escrow)
    : after.Phase escrow := by
  cases phase with
  | silent unissued => exact absurd here (unissued customer.old confirms.issuedOld)
  | resting lock last now leaves issued still =>
      -- The nonce of the old state was not burnt, so the old lock is the one that is left.
      obtain ⟨rfl, rfl⟩ :=
        (issued customer.old confirms.issuedOld here).resolve_left confirms.fresh
      refine .moving id customer confirms.round here ((confirms.latest escrow).symm ▸ now) ?_ ?_ ?_
      · intro state given
        rw [confirms.ledger]
        rcases confirms.signed escrow state given with known | ⟨rfl, -⟩
        · refine (leaves state known).imp_right (Or.imp (confirms.replaced escrow state) ?_)
          exact fun same => List.mem_cons.2 (.inl (List.mem_singleton.1 same))
        · exact .inr (.inr (by simp))
      · intro state member same
        rw [confirms.issued] at member
        rcases issued state member same with known | ⟨-, same⟩
        · exact confirms.burnt _ known
        · rw [same]
          exact confirms.burns
      · intro other another moves same
        by_cases apart : other = id
        · exact apart
        · rw [confirms.others other apart] at moves
          exact absurd same (still other another moves)
  -- Another payment of the channel would need a nonce that is not burnt.
  | moving _ _ _ _ _ _ issued _ =>
      exact absurd (issued customer.old confirms.issuedOld here) confirms.fresh
  | spoiled _ _ ended =>
      exact absurd (ended.issued customer.old confirms.issuedOld here) confirms.fresh

/-- A round that ends with its nonce used up leaves both of its locks, for whatever reason it ends. -/
theorem ended (phase : bench.Phase escrow) (desk : bench.DeskSound) {session : Session}
    {recorded : Ledger} (found : bench.shop.merchant.sessions.get? id = some session)
    (round : bench.round? id = some customer) (here : customer.old.escrowTxid = escrow)
    (record : SpentNonce)
    (held : ∀ lock, bench.shop.ledger.Holds lock → recorded.Holds lock)
    : Ended { bench with
        shop := ⟨(bench.shop.merchant.spend session.nonce record).closeSession id, recorded⟩ }
        escrow customer := by
  cases phase with
  | silent unissued => exact absurd here (unissued _ (desk.issued_of_round round))
  | resting _ _ _ _ _ still => exact absurd here (still id customer round)
  | spoiled _ _ ended => exact absurd here (ended.still id customer round)
  | moving other another moves _ now leaves issued only =>
      obtain rfl := only id customer round here
      cases round.symm.trans moves
      obtain ⟨gone, others⟩ :=
        round?_of_closed (spend_sessions bench.shop.merchant session.nonce record) id recorded
      have kept := kept?_of_closed (spend_channels bench.shop.merchant session.nonce record) id
        recorded escrow
      refine {
        fits := here
        now := (latest?_congr kept rfl).symm ▸ now
        leaves := ?_
        issued := fun state member fits => (issued state member fits).spend found record
        still := ?_ }
      · intro state signed
        refine (leaves state signed).imp (held _) (Or.imp_left fun replaced => ?_)
        exact ⟨replaced.1, replaced.2.1, kept ▸ replaced.2.2⟩
      · intro other another moves fits
        by_cases same : other = id
        · subst same
          cases gone.symm.trans moves
        · exact same (only other another ((others other same).symm.trans moves) fits)

/-- A wrong revocation leaves the channel of its round at that. -/
theorem spoil (phase : bench.Phase escrow) (desk : bench.DeskSound) {session : Session}
    (found : bench.shop.merchant.sessions.get? id = some session)
    (round : bench.round? id = some customer) (record : SpentNonce)
    : Phase { bench with
        shop :=
          { bench.shop with
            merchant := (bench.shop.merchant.spend session.nonce record).closeSession id }
        spoiled := customer :: bench.spoiled } escrow := by
  by_cases here : customer.old.escrowTxid = escrow
  · have ended := phase.ended desk found round here record fun _ held => held
    exact .spoiled customer List.mem_cons_self
      ⟨here, ended.now, ended.leaves, ended.issued, ended.still⟩
  · have stays := keeps_of_spent found round here record fun _ held => held
    exact phase.lasts (stays.trans (.spoil customer))

/-- A right revocation takes the old lock of its round away, so that its channel rests with the new
state.
-/
theorem revoke (phase : bench.Phase escrow) (desk : bench.DeskSound) {session : Session}
    {recorded : Ledger} (found : bench.shop.merchant.sessions.get? id = some session)
    (round : bench.round? id = some customer) (record : SpentNonce)
    (stays : customer.new.escrowTxid = customer.old.escrowTxid)
    (held : ∀ lock, bench.shop.ledger.Holds lock → recorded.Holds lock)
    (revoked : recorded.Holds customer.old.lock)
    : Phase { bench with
        shop := ⟨(bench.shop.merchant.spend session.nonce record).closeSession id, recorded⟩
        issued := customer.new :: bench.issued
        released := customer.new :: bench.released } escrow := by
  by_cases here : customer.old.escrowTxid = escrow
  · have ended := phase.ended desk found round here record held
    refine .resting customer.new.lock customer.new.nonce ?_ ?_ ?_ ended.still
    · simp [latest?, stays, here]
    · intro state given
      rcases ended.leaves state given with known | replaced | same
      · exact .inl known
      · exact .inr (.inl replaced)
      · rcases List.mem_cons.1 same with same | same
        · exact .inl (same ▸ revoked)
        · exact .inr (.inr same)
    · intro state member same
      rcases List.mem_cons.1 member with rfl | member
      · exact .inr ⟨rfl, rfl⟩
      · exact .inl (ended.issued state member same)
  · have elsewhere : customer.new.escrowTxid ≠ escrow := stays ▸ here
    have closed := keeps_of_spent found round here record held
    exact phase.lasts
      ((closed.trans (.issue fun fits => absurd fits elsewhere)).trans (.release elsewhere))

/-- Every allowed call leaves a channel in one of the phases, by cases on the kinds of steps. -/
theorem step (phase : bench.Phase escrow) (desk : bench.DeskSound) (books : bench.BooksSound)
    (allowed : bench.Allows exchange.call) (step : ShopStep bench.shop exchange shop)
    : (bench.follow exchange shop).Phase escrow := by
  have burnt : ∀ nonce, bench.shop.merchant.Burnt nonce → shop.merchant.Burnt nonce :=
    fun nonce burnt => burnt.step step.payments
  cases step with
  | silent quiet =>
      rw [follow_quiet quiet]
      exact phase
  | @registered _ other channel quiet _ free _ _ _ =>
      rw [follow_quiet quiet]
      by_cases here : escrow = other
      -- A channel is registered again as long as it is unfunded, and no token is issued till then.
      · subst here
        exact .silent (books.unfunded escrow free)
      · exact phase.lasts (.of_rounds (kept?_congr (Dict.get?_insert_of_ne here))
          (fun _ held => held) burnt fun _ => rfl)
  | @announced init signatures channel found unfunded _ =>
      rw [follow_announced found]
      by_cases here : escrow = init.escrowTxid
      -- The same goes for an announcement in place of an earlier one.
      · refine .silent (books.unfunded escrow fun known again => ?_)
        rw [here, found] at again
        cases again
        exact unfunded
      · have elsewhere : (init.state channel.token).escrowTxid ≠ escrow :=
          fun fits => here (fits.symm.trans (books.registered _ channel found))
        exact phase.lasts ((Keeps.announce elsewhere).trans
          (.of_rounds (kept?_congr (Dict.get?_insert_of_ne here)) (fun _ held => held) burnt
            fun _ => rfl))
  | @moved _ other channel status quiet found _ =>
      rw [follow_quiet quiet]
      refine phase.lasts (.of_rounds ?_ (fun _ held => held) burnt fun _ => rfl)
      by_cases here : escrow = other
      · subst here
        exact Eq.trans (kept?_of_get? (Dict.get?_insert_self _ _ _)) (kept?_of_get? found).symm
      · exact kept?_congr (Dict.get?_insert_of_ne here)
  | @issued other state _ channel found _ first _ _ =>
      rw [follow_issued]
      have kept : bench.kept? other = some state := (kept?_of_get? found).trans first
      obtain ⟨-, rfl⟩ := books.kept other state kept
      exact phase.issue desk books kept
  | @began request source checked =>
      rw [follow_began]
      have none := unconfirmed_of_free (free_of_checkPayment checked).2.2
      refine phase.lasts (.of_rounds rfl (fun _ held => held) burnt fun other => ?_)
      refine round?_of_setSession (begunSession request source) ?_ ?_ none ?_ other
      · rfl
      · exact fun _ _ => rfl
      · simp [begunSession]
  | @handed id session found prepared =>
      rw [follow_handed]
      have unconfirmed := unconfirmed_of_get? found (by simp [prepared])
      refine phase.lasts (.of_rounds rfl (fun _ held => held) burnt fun other => ?_)
      refine round?_of_setSession { session with status := .updating } ?_ ?_ unconfirmed ?_ other
      · rfl
      · exact fun _ apart => Dict.get?_insert_of_ne apart
      · simp
  | @confirmed id session found updating =>
      obtain ⟨customer, accepted⟩ := allowed
      rw [follow_confirmed accepted]
      have confirms := desk.confirms found updating accepted
      by_cases here : customer.old.escrowTxid = escrow
      · exact phase.confirm confirms here
      · exact phase.lasts (confirms.keeps here)
  | @dropped _ id session quiet found unconfirmed =>
      rw [follow_quiet quiet]
      -- No masks were released, so the session was no round.
      have underway : session.status ≠ .confirmed := by
        rcases unconfirmed with same | same <;> simp [same]
      have none : bench.round? id = none := round?_eq_none (unconfirmed_of_get? found underway)
      obtain ⟨gone, others⟩ := round?_of_closed rfl id bench.shop.ledger
      refine phase.lasts (.of_shop (kept?_of_closed rfl id _ escrow) (fun _ held => held) burnt
        (rounds_elsewhere others ?_ ?_))
      · intro another moves
        cases none.symm.trans moves
      · intro another moves
        cases gone.symm.trans moves
  | spoiled found confirmed _ =>
      obtain ⟨customer, round, -⟩ := desk.round found confirmed
      rw [follow_spoiled round]
      exact phase.spoil desk found round _
  | @revoked id session revoked recorded found confirmed right written =>
      obtain ⟨customer, round, -, opens, stays, -⟩ := desk.round found confirmed
      rw [follow_released round]
      obtain ⟨-, commitment, verifies⟩ := right
      obtain ⟨secret, commits⟩ := RevokedState.verify_eq_true.1 verifies
      -- Both locks open the commitment of the session, so they are equal but for a collision.
      have lock : revoked.lock = customer.old.lock := by
        refine allowed customer round ?_
        rw [commits, commitment]
        exact (RevLockCom.opensWith_eq_true.1 opens).symm
      exact phase.revoke desk found round _ stays (fun _ held => held.put written)
        (lock ▸ Ledger.holds_put written secret)
  | repeated gone _ =>
      rw [follow_gone gone]
      exact phase
  | refused gone =>
      rw [follow_gone gone]
      exact phase

end Phase

-----------------------------------------------------------------------------------------
-- Runs
-----------------------------------------------------------------------------------------

/-- A bench in which everything fits and every channel is in one of the phases. -/
structure Sound (bench : Bench) : Prop where
  desk : bench.DeskSound
  books : bench.BooksSound
  phase : ∀ escrow, bench.Phase escrow

namespace Sound

/-- A bench that opens has nothing that could fail to fit. -/
theorem opens {params : ChannelParams} {policy : RefundPolicy} {source : Entropy}
    (opens : bench.Opens params policy source)
    : bench.Sound := by
  obtain ⟨-, _, -, _, -, _, -, fresh⟩ := init_eq_ok.1 opens.shop
  constructor
  case desk =>
    constructor
    case index =>
      constructor <;> simp [fresh, Merchant.fresh]
    all_goals simp [fresh, Merchant.fresh, opens.desk]
  case books =>
    constructor <;> simp [fresh, Merchant.fresh, kept?, opens.issued, opens.advanced, opens.released,
      opens.spoiled]
  case phase =>
    intro escrow
    refine .silent fun state member => ?_
    rw [opens.issued] at member
    cases member

/-- A bench stays sound in every allowed call. -/
theorem call (sound : bench.Sound) (call : MerchantCall) (allowed : bench.Allows call)
    : (bench.after call).Sound where
  desk := sound.desk.step allowed (bench.shop.step call)
  books := sound.books.step sound.desk allowed (bench.shop.step call)
  phase escrow :=
    (sound.phase escrow).step sound.desk sound.books allowed (bench.shop.step call)

/-- A bench stays sound when the service computes for an input that it has not computed for. The
session cannot be confirmed before, so no round begins with that.
-/
theorem mask (sound : bench.Sound) {input : MerchantInput} {result : MaskingResult}
    (waiting : bench.desk.get? id = some ⟨input, none⟩)
    (computed : MaskingRequest.compute ⟨customer, input⟩ = .ok result)
    (unforged : customer.old ∈ bench.issued)
    : Sound { bench with desk := bench.desk.insert id ⟨input, some customer⟩ } := by
  -- A session is confirmed after its input was accepted, and this one still waits for that.
  have unconfirmed : ∀ session, bench.shop.merchant.sessions.get? id = some session
      → session.status ≠ .confirmed := by
    intro session found confirmed
    obtain ⟨handout, there, -, -, accepted⟩ :=
      sound.desk.handed id session found (by simp [confirmed])
    rw [waiting] at there
    cases there
    obtain ⟨customer, accepted, -⟩ := accepted confirmed
    cases accepted
  constructor
  case desk =>
    constructor
    case index => exact sound.desk.index
    case handed =>
      intro other session found given
      obtain ⟨handout, there, nonce, commitment, accepted⟩ :=
        sound.desk.handed other session found given
      simp only [Dict.get?_insert]
      split
      case isTrue here =>
        subst here
        rw [waiting] at there
        cases there
        exact ⟨_, rfl, nonce, commitment, fun confirmed =>
          absurd confirmed (unconfirmed session found)⟩
      case isFalse => exact ⟨handout, there, nonce, commitment, accepted⟩
    case accepted =>
      intro other handout another there accepted
      simp only [Dict.get?_insert] at there
      split at there
      case isTrue =>
        cases there
        cases accepted
        exact ⟨(MaskingRequest.compute_eq_ok.1 computed).1, unforged⟩
      case isFalse => exact sound.desk.accepted other handout another there accepted
  case books => exact sound.books.of_shop rfl
  case phase =>
    intro escrow
    refine (sound.phase escrow).lasts
      (.of_rounds rfl (fun _ held => held) (fun _ burnt => burnt) fun other => ?_)
    by_cases here : other = id
    · subst here
      rw [round?_eq_none unconfirmed]
      exact round?_eq_none unconfirmed
    · exact round?_congr rfl (Dict.get?_insert_of_ne here)

/-- A bench stays sound whatever others do to the ledger. -/
theorem ledger (sound : bench.Sound) (event : LedgerEvent)
    : Sound { bench with
        shop := { bench.shop with ledger := event.apply bench.shop.ledger } } where
  desk := sound.desk.of_kept sound.desk.index rfl (fun _ known => known) rfl fun _ _ found => found
  books := sound.books.of_shop rfl
  phase escrow := (sound.phase escrow).lasts
    (.of_rounds rfl (fun _ held => held.event event) (fun _ burnt => burnt) fun _ => rfl)

/-- Every bench of a run is sound, by induction on the run. -/
theorem run {params : ChannelParams} {policy : RefundPolicy} {source : Entropy} {start : Bench}
    (opens : start.Opens params policy source) (run : start.Run bench)
    : bench.Sound := by
  induction run with
  | start => exact .opens opens
  | call _ call allowed ih => exact ih.call call allowed
  | mask _ waiting computed unforged ih => exact ih.mask waiting computed unforged
  | ledger _ event ih => exact ih.ledger event

end Sound

/-- Between its payments a channel leaves its latest lock, or the two locks of a payment that ended with
a wrong revocation.
-/
theorem Sound.leaves (sound : bench.Sound) (still : bench.Still escrow)
    : bench.Leaves escrow ((bench.latest? escrow).map (·.lock)).toList
      ∨ ∃ customer ∈ bench.spoiled, bench.Ended escrow customer := by
  cases sound.phase escrow with
  | silent unissued => exact .inl (sound.books.leaves unissued).2
  | resting lock _ now leaves _ _ =>
      rw [now]
      exact .inl leaves
  | moving id customer round fits _ _ _ _ => exact absurd fits (still id customer round)
  | spoiled customer member ended => exact .inr ⟨customer, member, ended⟩

/-- Of two states with different locks that are not revoked, one was replaced, unless both locks are
among those that are left.
-/
theorem Leaves.of_two {locks : List RevLock} (leaves : bench.Leaves escrow locks)
    {other : ChannelState} (unrevoked : bench.Unrevoked escrow state)
    (another : bench.Unrevoked escrow other) (apart : state.lock ≠ other.lock)
    : (∃ first other, bench.Replaced escrow first ∧ bench.Unrevoked escrow first
        ∧ bench.Unrevoked escrow other ∧ first.lock ≠ other.lock)
      ∨ (state.lock ∈ locks ∧ other.lock ∈ locks) := by
  rcases (leaves state unrevoked.1).resolve_left unrevoked.2 with replaced | first
  · exact .inl ⟨state, other, replaced, unrevoked, another, apart⟩
  · rcases (leaves other another.1).resolve_left another.2 with replaced | second
    · exact .inl ⟨other, state, replaced, another, unrevoked, apart.symm⟩
    · exact .inr ⟨first, second⟩

/-- When more than one lock of a channel is left that the merchant can't punish. Whenever no payment of
the channel waits for its revocation, this is so exactly if a first state that was signed and then
replaced is not revoked, beside another lock, or if a payment ended with a wrong revocation and
neither of its locks is revoked. All other states that were signed are revoked, except for those with
the lock of the latest state.
-/
theorem stale_locks_left_iff {params : ChannelParams} {policy : RefundPolicy} {source : Entropy}
    {start : Bench} (opens : start.Opens params policy source) (run : start.Run bench)
    (still : bench.Still escrow)
    : ((∃ state other, bench.Unrevoked escrow state ∧ bench.Unrevoked escrow other
          ∧ state.lock ≠ other.lock)
        ↔ (∃ first other, bench.Replaced escrow first ∧ bench.Unrevoked escrow first
            ∧ bench.Unrevoked escrow other ∧ first.lock ≠ other.lock)
          ∨ ∃ customer ∈ bench.spoiled, customer.old.escrowTxid = escrow
            ∧ ¬bench.shop.ledger.Holds customer.old.lock
            ∧ ¬bench.shop.ledger.Holds customer.new.lock
            ∧ customer.old.lock ≠ customer.new.lock)
      ∧ ∀ state, bench.Unrevoked escrow state
        → (bench.latest? escrow).map (·.lock) = some state.lock
          ∨ bench.Replaced escrow state
          ∨ ∃ customer ∈ bench.spoiled, customer.old.escrowTxid = escrow
            ∧ state.lock = customer.new.lock := by
  have sound := Sound.run opens run
  have left := sound.leaves still
  refine ⟨⟨?_, ?_⟩, ?_⟩
  · rintro ⟨state, other, unrevoked, another, apart⟩
    rcases left with leaves | ⟨customer, member, ended⟩
    · refine (leaves.of_two unrevoked another apart).imp_right fun ⟨first, second⟩ => ?_
      rw [Option.mem_toList] at first second
      exact absurd (Option.some.inj (first.symm.trans second)) apart
    · refine (ended.leaves.of_two unrevoked another apart).imp_right fun ⟨first, second⟩ => ?_
      simp only [List.mem_cons, List.not_mem_nil, or_false] at first second
      refine ⟨customer, member, ended.fits, ?_⟩
      -- The two locks are those of the payment, in one order or the other.
      rcases first with first | first <;> rcases second with second | second
      · exact absurd (first.trans second.symm) apart
      · exact ⟨first ▸ unrevoked.2, second ▸ another.2, first ▸ second ▸ apart⟩
      · exact ⟨second ▸ another.2, first ▸ unrevoked.2, second ▸ first ▸ apart.symm⟩
      · exact absurd (first.trans second.symm) apart
  · rintro (⟨first, other, -, unrevoked, another, apart⟩ | ⟨customer, member, fits, old, new, apart⟩)
    · exact ⟨first, other, unrevoked, another, apart⟩
    · obtain ⟨issued, advanced, stays⟩ := sound.books.spoiled customer member
      exact ⟨customer.old, customer.new, ⟨⟨sound.books.signed _ issued, fits⟩, old⟩,
        ⟨⟨.inr advanced, stays.trans fits⟩, new⟩, apart⟩
  · intro state unrevoked
    rcases left with leaves | ⟨customer, member, ended⟩
    · rcases (leaves state unrevoked.1).resolve_left unrevoked.2 with replaced | latest
      · exact .inr (.inl replaced)
      · exact .inl (Option.mem_toList.1 latest)
    · rcases (ended.leaves state unrevoked.1).resolve_left unrevoked.2 with replaced | same
      · exact .inr (.inl replaced)
      · simp only [List.mem_cons, List.not_mem_nil, or_false] at same
        rcases same with same | same
        · exact .inl (same ▸ ended.now)
        · exact .inr (.inr ⟨customer, member, ended.fits, same⟩)

-----------------------------------------------------------------------------------------
-- Runs with one channel
-----------------------------------------------------------------------------------------

section Example

-- Unification would compute keys and hashes where comparing their arguments is enough.
attribute [local irreducible] SecretKey.publicKey SignableTx.txid SignableTx.sign
  SignableTx.verifies sha256 hmacSha256 Bench.after

/-- A bench at which nothing was signed. -/
def steadyBench : Bench := ⟨steadyShop, .empty, [], [], [], [], []⟩

theorem steadyBench_opens : steadyBench.Opens .default .reject steadySource :=
  ⟨steadyShop_opens, rfl, rfl, rfl, rfl, rfl, rfl⟩

def steadyEscrow : Txid := ⟨.ofNat 32 7⟩

/-- The merchant-close transaction of a channel in which all keys are the same. -/
def steadyClose : SignableTx where
  kind := .merchantClose
  spent := ⟨steadyEscrow, 0⟩
  sequence := finalSequence
  outputs :=
    ⟨18000, .payToScript (.merchantClose steadyKey.publicKey steadyKey.publicKey
      steadyKey.publicKey defaultSelfDelay)⟩ :: anchorOutput .default steadyKey.publicKey
  scriptCode := .escrow steadyKey.publicKey steadyKey.publicKey
  inputValue := 20000

/-- The customer's signature of that transaction. -/
def steadySignature : Signature :=
  ⟨⟨77910117964750865211548510820000359963902471445429874062336367613577916219794, by decide⟩,
    ⟨20146442420856133009654307988094059735617791860495308276525153705742294503121, by decide⟩⟩

def steadyFunding : FundingInfo where
  escrowTxid := steadyEscrow
  escrowPrevout := ⟨.ofNat 32 8⟩
  merchantCloseTxid := steadyClose.txid
  merchantClosePrevout := ⟨.ofNat 32 9⟩
  customerBalance := 10000
  merchantBalance := 10000
  merchantCloseFee := 1000
  leastFee := 0
  greatestFee := 10000

def steadyToken : ChannelToken :=
  .ofFunding steadyKey.publicKey steadyShop.merchant.keys steadyFunding

def steadyRequest : OpenRequest := ⟨steadyToken, steadyFunding, steadySignature⟩

/-- The bench at which the channel is registered. -/
def registeredBench : Bench :=
  { steadyBench with
    shop := { steadyShop with
      merchant := steadyShop.merchant.setChannel steadyEscrow {
        token := steadyToken
        funding := steadyFunding
        signedClose := steadyClose.finalizeMultisig (steadyClose.sign steadyKey) steadySignature
        init := none
        status := .unfunded } } }

theorem registeredBench_run : steadyBench.Run registeredBench := by
  have formed : steadyToken.merchantCloseTx 20000 .default = .ok steadyClose := by
    unfold ChannelToken.merchantCloseTx merchantCloseTx
    rfl
  have verifies : steadyClose.verifies steadySignature steadyToken.customerKey = true := by
    decide +kernel
  have opened : steadyShop.merchant.openChannel steadyRequest
      = .ok (steadyClose.finalizeMultisig (steadyClose.sign steadyKey) steadySignature,
        registeredBench.shop.merchant) := by
    refine openChannel_eq_ok.2
      ⟨?_, ?_, 20000, rfl, steadyClose, formed, rfl, verifies, rfl, rfl⟩
    · refine checkFunding_eq_ok.2 ⟨?_, rfl, ⟨rfl, rfl, rfl⟩, ?_, 4730, rfl, ?_⟩
      · exact ChannelToken.checkMerchant_eq_ok.2 ⟨rfl, rfl, rfl⟩
      · decide
      · decide
    · refine checkUnfunded_eq_ok.2 fun known found => ?_
      simp [steadyShop, fresh] at found
  have shop : steadyShop.after (.openChannel steadyRequest) = registeredBench.shop :=
    Shop.after_of_keep rfl opened
  have same : steadyBench.after (.openChannel steadyRequest) = registeredBench := by
    rw [after, follow_quiet rfl]
    exact congrArg (Bench.mk · _ _ _ _ _ _) shop
  rw [← same]
  exact .call .start _ True.intro

/-- An announcement of a first state with the lock of a secret. -/
def steadyInit (secret : Nat) : InitialState where
  escrowTxid := steadyEscrow
  customerKey := steadyKey.publicKey
  closeKey := steadyKey.publicKey
  customerBalance := 10000
  merchantBalance := 10000
  nonce := steadyRevocation.nonce
  lock := RevSecret.lock ⟨.ofNat 32 secret⟩

def steadyFirst : ChannelState := (steadyInit 1).state steadyToken

/-- The state after a payment of 5. -/
def steadySecond : ChannelState :=
  { steadyFirst with
    nonce := steadyFirst.nonce.next
    lock := RevSecret.lock ⟨.ofNat 32 3⟩
    customerBalance := 9995
    merchantBalance := 10005 }

def steadyPaymentRequest : PaymentRequest :=
  ⟨⟨.ofNat 16 1⟩, steadyRevocation.nonce, steadyRevocation.commitment, 5, none⟩

def steadyInput : MerchantInput :=
  steadyShop.merchant.inputOf ⟨.ofNat 16 1⟩ (begunSession steadyPaymentRequest steadySource)

def steadyCustomer : CustomerInput where
  token := steadyToken
  closeKey := steadyKey.publicKey
  old := steadyFirst
  new := steadySecond
  payToken := .compute steadyShop.merchant.hmacKey steadyFirst
  blinding := steadyRevocation.blinding
  amount := 5
  commitment := .commit (drawnOpening steadySource).mask (drawnOpening steadySource).randomness

theorem steadyCustomer_computed
    : ∃ result, MaskingRequest.compute ⟨steadyCustomer, steadyInput⟩ = .ok result := by
  have accepted : MaskingRequest.Accepted ⟨steadyCustomer, steadyInput⟩ :=
    { key := rfl
      merchant := ChannelToken.checkMerchant_eq_ok.2 ⟨rfl, rfl, rfl⟩
      oldFits := ChannelToken.checkState_eq_ok.2 ⟨rfl, rfl, ⟨rfl, rfl⟩, rfl, rfl⟩
      newFits := ChannelToken.checkState_eq_ok.2 ⟨rfl, rfl, ⟨rfl, rfl⟩, rfl, rfl⟩
      payToken := rfl
      nonce := rfl
      lock := RevLockCom.opensWith_eq_true.2 rfl
      amount := rfl
      next := rfl
      customerBalance := rfl
      merchantBalance := rfl
      reserves := by decide
      mask := PayMaskOpening.opens_eq_true.2 rfl }
  have closes : ∀ source, ∃ close, steadyToken.customerCloseTx source steadySecond
      steadyKey.publicKey .default = .ok close := by
    intro source
    cases source <;> exact ⟨_, rfl⟩
  obtain ⟨signatures, computed, -⟩ := MaskingRequest.compute_of_accepted accepted closes
  exact ⟨_, computed⟩

/-- The bench after the first state was announced and validated, the channel opened, and a payment
began whose input was given out.
-/
def handedFrom (bench : Bench) : Bench :=
  let opened := ((bench.after (.signInitial (steadyInit 1))).after
    (.validateInitial (steadyInit 1) (steadyInit 1).hash)).after (.markOpen steadyEscrow)
  ((opened.after (.activate steadyEscrow steadyFirst)).after
    (.preparePayment steadyPaymentRequest steadySource)).after (.maskingInput ⟨.ofNat 16 1⟩)

/-- The bench after the service has computed for the payment and the merchant has confirmed it. -/
def confirmedFrom (bench : Bench) : Bench :=
  Bench.after
    { handedFrom bench with
      desk := (handedFrom bench).desk.insert ⟨.ofNat 16 1⟩ ⟨steadyInput, some steadyCustomer⟩ }
    (.confirmMasking ⟨.ofNat 16 1⟩ true)

/-- The bench after the payment ended with this revocation. -/
def endedFrom (bench : Bench) (revoked : RevokedState) : Bench :=
  (confirmedFrom bench).after (.validateRevoked ⟨.ofNat 16 1⟩ revoked)

/-- A payment ends as it can in a run, if its input is given out and it is confirmed. -/
theorem endedFrom_run {revoked : RevokedState} (lock : revoked.lock = steadyFirst.lock)
    (begins : (handedFrom bench).desk.get? ⟨.ofNat 16 1⟩ = some ⟨steadyInput, none⟩
      ∧ steadyFirst ∈ (handedFrom bench).issued
      ∧ (confirmedFrom bench).round? ⟨.ofNat 16 1⟩ = some steadyCustomer)
    : bench.Run (endedFrom bench revoked) := by
  obtain ⟨given, issued, round⟩ := begins
  have announced := Run.call (.start : bench.Run bench) (.signInitial (steadyInit 1)) True.intro
  have validated := Run.call announced (.validateInitial (steadyInit 1) (steadyInit 1).hash)
    True.intro
  have opened := Run.call validated (.markOpen steadyEscrow) True.intro
  have activated := Run.call opened (.activate steadyEscrow steadyFirst) True.intro
  have prepared := Run.call activated (.preparePayment steadyPaymentRequest steadySource) True.intro
  have handed : bench.Run (handedFrom bench) :=
    Run.call prepared (.maskingInput ⟨.ofNat 16 1⟩) True.intro
  obtain ⟨result, computed⟩ := steadyCustomer_computed
  have confirmed : bench.Run (confirmedFrom bench) := by
    refine .call (.mask handed given computed issued) _ ⟨steadyCustomer, ?_⟩
    exact accepted?_eq_some.2 ⟨_, Dict.get?_insert_self _ _ _, rfl⟩
  refine .call confirmed _ fun customer again _ => ?_
  cases round.symm.trans again
  exact lock

/-- The bench at which the payment ended with the secret of the first state, -/
def revokedBench : Bench := endedFrom registeredBench steadyRevocation

/-- and with a wrong one, -/
def spoiledBench : Bench :=
  endedFrom registeredBench { steadyRevocation with secret := ⟨.ofNat 32 2⟩ }

/-- and with the right one, where another first state was announced before. -/
def repeatedBench : Bench :=
  endedFrom (registeredBench.after (.signInitial (steadyInit 2))) steadyRevocation

theorem endedFrom_registered_run {revoked : RevokedState} (lock : revoked.lock = steadyFirst.lock)
    : steadyBench.Run (endedFrom registeredBench revoked) :=
  registeredBench_run.trans (endedFrom_run lock (by decide +kernel))

theorem repeatedBench_run : steadyBench.Run repeatedBench := by
  have announced := Run.call registeredBench_run (.signInitial (steadyInit 2)) True.intro
  exact announced.trans (endedFrom_run rfl (by decide +kernel))

/-- A channel without a session is still. -/
theorem still_of_empty (sessions : bench.shop.merchant.sessions = .empty) (escrow : Txid)
    : bench.Still escrow := by
  intro id customer round
  have none : bench.round? id = none := round?_of_gone (by rw [sessions, Dict.get?_empty])
  cases none.symm.trans round

/-- After a payment only the new lock is left, and after a wrong revocation the old one too. -/
theorem stale_locks_left_iff_steady
    : steadyBench.Opens .default .reject steadySource
      ∧ (steadyBench.Run revokedBench ∧ revokedBench.Still steadyEscrow
        ∧ revokedBench.Unrevoked steadyEscrow steadySecond
        ∧ ∀ state, revokedBench.Unrevoked steadyEscrow state → state.lock = steadySecond.lock)
      ∧ steadyBench.Run spoiledBench ∧ spoiledBench.Still steadyEscrow
        ∧ ∃ state other, spoiledBench.Unrevoked steadyEscrow state
          ∧ spoiledBench.Unrevoked steadyEscrow other ∧ state.lock ≠ other.lock := by
  have facts : revokedBench.shop.merchant.sessions = .empty
      ∧ revokedBench.Unrevoked steadyEscrow steadySecond
      ∧ revokedBench.latest? steadyEscrow = some steadySecond
      ∧ revokedBench.announced = [steadyFirst]
      ∧ revokedBench.kept? steadyEscrow = some steadyFirst ∧ revokedBench.spoiled = [] := by
    decide +kernel
  have wrong : spoiledBench.shop.merchant.sessions = .empty
      ∧ spoiledBench.spoiled = [steadyCustomer]
      ∧ ¬spoiledBench.shop.ledger.Holds steadyFirst.lock
      ∧ ¬spoiledBench.shop.ledger.Holds steadySecond.lock ∧ steadyFirst.lock ≠ steadySecond.lock := by
    decide +kernel
  obtain ⟨empty, unrevoked, latest, announced, kept, unspoiled⟩ := facts
  have still := still_of_empty empty steadyEscrow
  have run : steadyBench.Run revokedBench := endedFrom_registered_run rfl
  have runSpoiled : steadyBench.Run spoiledBench := endedFrom_registered_run rfl
  obtain ⟨-, left⟩ := stale_locks_left_iff steadyBench_opens run still
  obtain ⟨empty, spoiled, old, new, apart⟩ := wrong
  have stillSpoiled := still_of_empty empty steadyEscrow
  obtain ⟨two, -⟩ := stale_locks_left_iff steadyBench_opens runSpoiled stillSpoiled
  refine ⟨steadyBench_opens, ⟨run, still, unrevoked, fun state given => ?_⟩,
    runSpoiled, stillSpoiled, two.2 (.inr ⟨steadyCustomer, ?_, rfl, old, new, apart⟩)⟩
  · rcases left state given with same | ⟨member, -, other⟩ | ⟨customer, member, -⟩
    · rw [latest] at same
      exact (Option.some.inj same).symm
    · rw [announced, List.mem_singleton] at member
      exact absurd (member ▸ kept) other
    · rw [unspoiled] at member
      cases member
  · rw [spoiled]
    exact List.mem_cons_self

/-- Once a payment is revoked, a first state that was signed and then replaced can still be closed with,
and no close with it is ever disputed: beside the lock of the latest state, its lock is left.
-/
theorem replaced_first_state_unpunished
    : steadyBench.Opens .default .reject steadySource ∧ steadyBench.Run repeatedBench
      ∧ repeatedBench.shop.merchant.channelStatus steadyEscrow = some .confirmed
      ∧ (∀ id, repeatedBench.round? id = none) ∧ repeatedBench.spoiled = []
      ∧ repeatedBench.shop.ledger.Holds steadyFirst.lock
      ∧ repeatedBench.Unrevoked steadyEscrow steadySecond
      ∧ repeatedBench.Unrevoked steadyEscrow ((steadyInit 2).state steadyToken)
      ∧ steadySecond.lock ≠ ((steadyInit 2).state steadyToken).lock
      ∧ ∃ close, steadyToken.customerCloseTx .escrow ((steadyInit 2).state steadyToken)
          steadyKey.publicKey .default = .ok close
        ∧ ∀ witness fee,
          repeatedBench.shop.merchant.dispute repeatedBench.shop.ledger (close.withWitness witness) fee
            = .ok (none, repeatedBench.shop.merchant) := by
  have facts : repeatedBench.shop.merchant.channelStatus steadyEscrow = some .confirmed
      ∧ repeatedBench.shop.merchant.sessions = .empty ∧ repeatedBench.spoiled = []
      ∧ repeatedBench.shop.ledger.Holds steadyFirst.lock
      ∧ repeatedBench.Unrevoked steadyEscrow steadySecond
      ∧ repeatedBench.Unrevoked steadyEscrow ((steadyInit 2).state steadyToken)
      ∧ steadySecond.lock ≠ ((steadyInit 2).state steadyToken).lock
      ∧ (repeatedBench.shop.ledger.get ((steadyInit 2).state steadyToken).lock).toOption
        = some none := by
    decide +kernel
  obtain ⟨status, empty, unspoiled, revoked, latest, replaced, apart, answer⟩ := facts
  have unknown : repeatedBench.shop.ledger.get ((steadyInit 2).state steadyToken).lock
      = .ok none := by
    revert answer
    generalize repeatedBench.shop.ledger.get ((steadyInit 2).state steadyToken).lock = found
    intro answer
    cases found with
    | error _ => cases answer
    | ok secret => exact congrArg Except.ok (Option.some.inj answer)
  have closes : ∃ close, steadyToken.customerCloseTx .escrow ((steadyInit 2).state steadyToken)
      steadyKey.publicKey .default = .ok close := ⟨_, rfl⟩
  obtain ⟨close, formed⟩ := closes
  obtain ⟨balances, -, template⟩ := ChannelToken.customerCloseTx_eq_ok.1 formed
  refine ⟨steadyBench_opens, repeatedBench_run, status, ?_, unspoiled, revoked, latest, replaced,
    apart, close, formed, fun witness fee => ?_⟩
  · exact fun id => round?_of_gone (by rw [empty, Dict.get?_empty])
  · exact dispute_of_unknown (ofTransaction_of_customerCloseTx template witness) unknown

end Example

end Bench

end PaymentChannel
