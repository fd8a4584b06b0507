import PaymentChannel.Proofs.Merchant.Bench

/-! What stays right on the bench of a merchant.
What lies on the desk fits the sessions it was given out for, and what was signed and issued fits
the channels.
-/

namespace PaymentChannel

open Merchant

namespace Bench

variable {bench : Bench} {shop : Shop} {exchange : MerchantExchange} {id : SessionId}
  {customer : CustomerInput} {escrow : Txid}

-----------------------------------------------------------------------------------------
-- The desk
-----------------------------------------------------------------------------------------

/-- What lies on the desk fits the sessions, and what was accepted passed the checks. -/
structure DeskSound (bench : Bench) : Prop where
  index : bench.shop.merchant.SessionIndex
  /-- A session whose input was given out finds it on the desk, and when it is confirmed, what was
  accepted with it, by which the channel has moved on.
  -/
  handed : ∀ id session, bench.shop.merchant.sessions.get? id = some session
    → session.status ≠ .prepared
    → ∃ handout, bench.desk.get? id = some handout ∧ handout.input.nonce = session.nonce
      ∧ handout.input.commitment = session.commitment
      ∧ (session.status = .confirmed
        → ∃ customer, handout.accepted = some customer ∧ customer.new ∈ bench.advanced)
  accepted : ∀ id handout customer, bench.desk.get? id = some handout
    → handout.accepted = some customer
    → MaskingRequest.Accepted ⟨customer, handout.input⟩ ∧ customer.old ∈ bench.issued

namespace DeskSound

/-- A confirmed session has a round, whose old state has its nonce, opens its commitment and had its
pay token issued, and whose new state is one of the channel.
-/
theorem round (sound : bench.DeskSound) {session : Session}
    (found : bench.shop.merchant.sessions.get? id = some session)
    (confirmed : session.status = .confirmed)
    : ∃ customer, bench.round? id = some customer ∧ customer.old.nonce = session.nonce
      ∧ session.commitment.opensWith customer.old.lock customer.blinding = true
      ∧ customer.new.escrowTxid = customer.old.escrowTxid ∧ customer.old ∈ bench.issued
      ∧ customer.new ∈ bench.advanced := by
  obtain ⟨handout, there, nonce, commitment, accepted⟩ :=
    sound.handed id session found (by simp [confirmed])
  obtain ⟨customer, accepted, moved⟩ := accepted confirmed
  obtain ⟨checks, issued⟩ := sound.accepted id handout customer there accepted
  have round : bench.round? id = some customer :=
    round?_eq_some.2 ⟨session, found, confirmed, accepted?_eq_some.2 ⟨handout, there, accepted⟩⟩
  exact ⟨customer, round, checks.nonce.trans nonce, commitment ▸ checks.lock, checks.escrowTxid,
    issued, moved⟩

/-- The old state of a round had its pay token issued. -/
theorem issued_of_round (sound : bench.DeskSound) (round : bench.round? id = some customer)
    : customer.old ∈ bench.issued := by
  obtain ⟨_, -, -, accepted⟩ := round?_eq_some.1 round
  obtain ⟨handout, there, accepted⟩ := accepted?_eq_some.1 accepted
  exact (sound.accepted id handout customer there accepted).2

/-- Sessions that stay, move on or go away leave the desk sound. -/
theorem of_sessions (sound : bench.DeskSound) {after : Bench}
    (index : after.shop.merchant.SessionIndex) (desk : after.desk = bench.desk)
    (issued : ∀ state ∈ bench.issued, state ∈ after.issued) (advanced : after.advanced = bench.advanced)
    (sessions : ∀ id session, after.shop.merchant.sessions.get? id = some session
      → session.status = .prepared ∨ bench.shop.merchant.sessions.get? id = some session)
    : after.DeskSound where
  index := index
  handed id session found given := by
    rw [desk, advanced]
    exact sound.handed id session ((sessions id session found).resolve_left given) given
  accepted id handout customer there accepted := by
    rw [desk] at there
    exact (sound.accepted id handout customer there accepted).imp_right (issued _)

/-- Sessions that stay or go away leave the desk sound. -/
theorem of_kept (sound : bench.DeskSound) {after : Bench}
    (index : after.shop.merchant.SessionIndex) (desk : after.desk = bench.desk)
    (issued : ∀ state ∈ bench.issued, state ∈ after.issued) (advanced : after.advanced = bench.advanced)
    (kept : ∀ id session, after.shop.merchant.sessions.get? id = some session
      → bench.shop.merchant.sessions.get? id = some session)
    : after.DeskSound :=
  sound.of_sessions index desk issued advanced fun id session found =>
    .inr (kept id session found)

/-- An input that is given out lies on the desk, and nothing was accepted with it yet. -/
theorem hand (sound : bench.DeskSound) {session : Session}
    (index : (bench.shop.merchant.setSession id { session with status := .updating }).SessionIndex)
    : DeskSound { bench with
        shop := { bench.shop with
          merchant := bench.shop.merchant.setSession id { session with status := .updating } }
        desk := bench.desk.insert id ⟨bench.shop.merchant.inputOf id session, none⟩ } where
  index := index
  handed other known there given := by
    simp only [setSession_sessions, Dict.get?_insert] at there ⊢
    split at there
    case isTrue here =>
      cases there
      exact ⟨_, if_pos here, rfl, rfl, by rintro ⟨⟩⟩
    case isFalse elsewhere =>
      simp only [if_neg elsewhere]
      exact sound.handed other known there given
  accepted other handout customer there accepted := by
    simp only [Dict.get?_insert] at there
    split at there
    case isTrue =>
      cases there
      cases accepted
    case isFalse => exact sound.accepted other handout customer there accepted

/-- A session that is confirmed keeps what was accepted with its input. -/
theorem confirm (sound : bench.DeskSound) {session : Session}
    (index : (bench.shop.merchant.setSession id { session with status := .confirmed }).SessionIndex)
    (found : bench.shop.merchant.sessions.get? id = some session)
    (updating : session.status = .updating) (accepted : bench.accepted? id = some customer)
    : DeskSound { bench with
        shop := { bench.shop with
          merchant := bench.shop.merchant.setSession id { session with status := .confirmed } }
        advanced := customer.new :: bench.advanced } where
  index := index
  handed other known there given := by
    simp only [setSession_sessions, Dict.get?_insert] at there
    split at there
    case isTrue here =>
      cases there
      obtain ⟨handout, lies, passed⟩ := accepted?_eq_some.1 accepted
      obtain ⟨same, lies', nonce, commitment, -⟩ := sound.handed id session found (by simp [updating])
      rw [lies] at lies'
      cases lies'
      exact ⟨handout, here ▸ lies, nonce, commitment, fun _ => ⟨customer, passed, List.mem_cons_self⟩⟩
    case isFalse =>
      obtain ⟨handout, lies, nonce, commitment, accepted⟩ := sound.handed other known there given
      refine ⟨handout, lies, nonce, commitment, fun confirmed => ?_⟩
      obtain ⟨another, passed, moved⟩ := accepted confirmed
      exact ⟨another, passed, List.mem_cons_of_mem _ moved⟩
  accepted := sound.accepted

/-- What lies on the desk stays sound in every allowed call, by cases on the kinds of steps. -/
theorem step (sound : bench.DeskSound) (allowed : bench.Allows exchange.call)
    (step : ShopStep bench.shop exchange shop)
    : (bench.follow exchange shop).DeskSound := by
  have index := sound.index.step step.payments
  cases step with
  | silent quiet | registered quiet _ _ _ _ _ | moved quiet _ _ =>
      rw [follow_quiet quiet]
      exact sound.of_kept index rfl (fun _ known => known) rfl fun _ _ found => found
  | announced found _ _ =>
      rw [follow_announced found]
      exact sound.of_kept index rfl (fun _ known => known) rfl fun _ _ found => found
  | issued _ _ _ _ _ =>
      rw [follow_issued]
      refine sound.of_kept index rfl ?_ rfl fun _ _ found => found
      exact fun _ known => List.mem_cons_of_mem _ known
  | @began request source checked =>
      rw [follow_began]
      refine sound.of_sessions index rfl (fun _ known => known) rfl ?_
      intro id session found
      simp only [setSession_sessions, Dict.get?_insert] at found
      split at found
      case isTrue =>
        cases found
        exact .inl rfl
      case isFalse => exact .inr found
  | handed _ _ =>
      rw [follow_handed]
      exact sound.hand index
  | @confirmed id session found updating =>
      obtain ⟨customer, accepted⟩ := allowed
      rw [follow_confirmed accepted]
      exact sound.confirm index found updating accepted
  | @dropped _ id session quiet found _ =>
      rw [follow_quiet quiet]
      exact sound.of_kept index rfl (fun _ known => known) rfl fun _ _ => get?_of_closeSession
  | @spoiled id session revoked found confirmed _ =>
      obtain ⟨customer, round, -⟩ := sound.round found confirmed
      rw [follow_spoiled round]
      exact sound.of_kept index rfl (fun _ known => known) rfl fun _ _ => get?_of_closeSession
  | @revoked id session revoked recorded found confirmed _ _ =>
      obtain ⟨customer, round, -⟩ := sound.round found confirmed
      rw [follow_released round]
      exact sound.of_kept index rfl (fun _ known => List.mem_cons_of_mem _ known) rfl
        fun _ _ => get?_of_closeSession
  | repeated gone _ =>
      rw [follow_gone gone]
      exact sound
  | refused gone =>
      rw [follow_gone gone]
      exact sound

end DeskSound

-----------------------------------------------------------------------------------------
-- The books
-----------------------------------------------------------------------------------------

/-- What was signed and issued fits the channels. -/
structure BooksSound (bench : Bench) : Prop where
  registered : ∀ escrow channel, bench.shop.merchant.channels.get? escrow = some channel
    → channel.token.escrowTxid = escrow
  /-- The first state that is kept of a channel is one of those that were announced for it. -/
  kept : ∀ escrow state, bench.kept? escrow = some state
    → state ∈ bench.announced ∧ state.escrowTxid = escrow
  /-- No pay token is issued before a channel is funded. -/
  unfunded : ∀ escrow, (∀ channel, bench.shop.merchant.channels.get? escrow = some channel
      → channel.status = .unfunded)
    → ∀ state ∈ bench.issued, state.escrowTxid ≠ escrow
  /-- The first pay token of a channel is that of its kept first state. -/
  first : ∀ state ∈ bench.issued, ∀ initial, bench.kept? state.escrowTxid = some initial
    → initial ∈ bench.issued
  /-- A pay token is issued for a state that was signed only. -/
  signed : ∀ state ∈ bench.issued, state ∈ bench.announced ∨ state ∈ bench.advanced
  /-- No payment is confirmed in a channel without a pay token. -/
  advanced : ∀ state ∈ bench.advanced, ∃ older ∈ bench.issued, older.escrowTxid = state.escrowTxid
  released : ∀ state ∈ bench.released, state ∈ bench.issued
  spoiled : ∀ customer ∈ bench.spoiled, customer.old ∈ bench.issued ∧ customer.new ∈ bench.advanced
    ∧ customer.new.escrowTxid = customer.old.escrowTxid

namespace BooksSound

/-- The books stay sound when the channels stay. -/
theorem of_shop (sound : bench.BooksSound) {desk : Dict SessionId Handout}
    (channels : shop.merchant.channels = bench.shop.merchant.channels)
    : BooksSound { bench with shop, desk } := by
  have keeps : ∀ escrow, Bench.kept? { bench with shop, desk } escrow = bench.kept? escrow :=
    fun _ => kept?_congr (by rw [channels])
  constructor
  case registered => simpa only [channels] using sound.registered
  case kept => simpa only [keeps] using sound.kept
  case unfunded => simpa only [channels] using sound.unfunded
  case first => simpa only [keeps] using sound.first
  case signed => exact sound.signed
  case advanced => exact sound.advanced
  case released => exact sound.released
  case spoiled => exact sound.spoiled

/-- A channel that changes keeps the books sound, provided that its first state was announced and
that it is not funded before or never goes back to that.
-/
theorem setChannel (sound : bench.BooksSound) {changed : MerchantChannel}
    (channels : shop.merchant.channels = bench.shop.merchant.channels.insert escrow changed)
    (fits : changed.token.escrowTxid = escrow)
    (announced : ∀ state, changed.init.map (·.state changed.token) = some state
      → state ∈ bench.announced)
    (first : bench.kept? escrow = changed.init.map (·.state changed.token)
      ∨ ∀ state ∈ bench.issued, state.escrowTxid ≠ escrow)
    (unfunded : changed.status = .unfunded → ∀ state ∈ bench.issued, state.escrowTxid ≠ escrow)
    : BooksSound { bench with shop } := by
  have here : Bench.kept? { bench with shop } escrow = changed.init.map (·.state changed.token) :=
    kept?_of_get? (by rw [channels, Dict.get?_insert_self])
  have elsewhere : ∀ other, other ≠ escrow
      → Bench.kept? { bench with shop } other = bench.kept? other :=
    fun other apart => kept?_congr (by rw [channels, Dict.get?_insert_of_ne apart])
  constructor
  case registered =>
    intro other channel found
    rw [channels, Dict.get?_insert] at found
    split at found
    case isTrue same =>
      cases found
      rw [same, fits]
    case isFalse => exact sound.registered other channel found
  case kept =>
    intro other state kept
    by_cases same : other = escrow
    · rw [same, here] at kept
      obtain ⟨init, -, rfl⟩ := Option.map_eq_some_iff.1 kept
      exact ⟨announced _ kept, fits.trans same.symm⟩
    · rw [elsewhere other same] at kept
      exact sound.kept other state kept
  case unfunded =>
    intro other missing state member
    by_cases same : other = escrow
    · subst same
      exact unfunded (missing changed (by rw [channels, Dict.get?_insert_self])) state member
    · refine sound.unfunded other ?_ state member
      intro channel found
      exact missing channel (by rwa [channels, Dict.get?_insert_of_ne same])
  case first =>
    intro state member initial kept
    by_cases same : state.escrowTxid = escrow
    · rcases first with stays | unissued
      · rw [same, here, ← stays, ← same] at kept
        exact sound.first state member initial kept
      · exact absurd same (unissued state member)
    · rw [elsewhere _ same] at kept
      exact sound.first state member initial kept
  case signed => exact sound.signed
  case advanced => exact sound.advanced
  case released => exact sound.released
  case spoiled => exact sound.spoiled

/-- A first state that is announced is one more that was signed. -/
theorem announce (sound : bench.BooksSound) (state : ChannelState)
    : BooksSound { bench with announced := state :: bench.announced } := by
  constructor
  case kept =>
    exact fun escrow first kept => (sound.kept escrow first kept).imp_left (List.mem_cons_of_mem _)
  case signed =>
    exact fun other member => (sound.signed other member).imp_left (List.mem_cons_of_mem _)
  case registered => exact sound.registered
  case unfunded => exact sound.unfunded
  case first => exact sound.first
  case advanced => exact sound.advanced
  case released => exact sound.released
  case spoiled => exact sound.spoiled

/-- The books stay sound when a pay token is issued for a state that was signed. The channel has pay
tokens already, or it is funded and the state is its kept first one.
-/
theorem issue (sound : bench.BooksSound) {state : ChannelState}
    (signed : state ∈ bench.announced ∨ state ∈ bench.advanced)
    (opens : (∃ older ∈ bench.issued, older.escrowTxid = state.escrowTxid)
      ∨ bench.kept? state.escrowTxid = some state
        ∧ ∃ channel, bench.shop.merchant.channels.get? state.escrowTxid = some channel
          ∧ channel.status ≠ .unfunded)
    : BooksSound { bench with issued := state :: bench.issued } := by
  constructor
  case registered => exact sound.registered
  case kept => exact sound.kept
  case unfunded =>
    intro other missing known member
    rcases List.mem_cons.1 member with rfl | member
    · rintro rfl
      rcases opens with ⟨older, issued, same⟩ | ⟨-, channel, found, funded⟩
      · exact sound.unfunded _ missing older issued same
      · exact funded (missing channel found)
    · exact sound.unfunded other missing known member
  case first =>
    intro known member initial kept
    rcases List.mem_cons.1 member with rfl | member
    · rcases opens with ⟨older, issued, same⟩ | ⟨first, -⟩
      · exact List.mem_cons_of_mem _ (sound.first older issued initial (same ▸ kept))
      · cases first.symm.trans kept
        exact List.mem_cons_self
    · exact List.mem_cons_of_mem _ (sound.first known member initial kept)
  case signed =>
    intro known member
    rcases List.mem_cons.1 member with rfl | member
    · exact signed
    · exact sound.signed known member
  case advanced =>
    intro known member
    obtain ⟨older, issued, same⟩ := sound.advanced known member
    exact ⟨older, List.mem_cons_of_mem _ issued, same⟩
  case released =>
    exact fun known member => List.mem_cons_of_mem _ (sound.released known member)
  case spoiled =>
    exact fun given member => (sound.spoiled given member).imp_left (List.mem_cons_of_mem _)

/-- The books stay sound when a channel with a pay token moves on. -/
theorem advance (sound : bench.BooksSound) {older state : ChannelState}
    (issued : older ∈ bench.issued) (stays : state.escrowTxid = older.escrowTxid)
    : BooksSound { bench with advanced := state :: bench.advanced } := by
  constructor
  case registered => exact sound.registered
  case kept => exact sound.kept
  case unfunded => exact sound.unfunded
  case first => exact sound.first
  case signed =>
    exact fun known member => (sound.signed known member).imp_right (List.mem_cons_of_mem _)
  case advanced =>
    intro known member
    rcases List.mem_cons.1 member with rfl | member
    · exact ⟨older, issued, stays.symm⟩
    · exact sound.advanced known member
  case released => exact sound.released
  case spoiled =>
    intro given member
    obtain ⟨old, new, same⟩ := sound.spoiled given member
    exact ⟨old, List.mem_cons_of_mem _ new, same⟩

/-- The books stay sound when the opening is released for a state whose pay token is issued. -/
theorem release (sound : bench.BooksSound) {state : ChannelState} (issued : state ∈ bench.issued)
    : BooksSound { bench with released := state :: bench.released } := by
  constructor
  case released =>
    intro known member
    rcases List.mem_cons.1 member with rfl | member
    · exact issued
    · exact sound.released known member
  case registered => exact sound.registered
  case kept => exact sound.kept
  case unfunded => exact sound.unfunded
  case first => exact sound.first
  case signed => exact sound.signed
  case advanced => exact sound.advanced
  case spoiled => exact sound.spoiled

/-- The books stay sound when a payment ends with a wrong revocation. -/
theorem spoil (sound : bench.BooksSound) (old : customer.old ∈ bench.issued)
    (new : customer.new ∈ bench.advanced)
    (stays : customer.new.escrowTxid = customer.old.escrowTxid)
    : BooksSound { bench with spoiled := customer :: bench.spoiled } := by
  constructor
  case spoiled =>
    intro given member
    rcases List.mem_cons.1 member with rfl | member
    · exact ⟨old, new, stays⟩
    · exact sound.spoiled given member
  case registered => exact sound.registered
  case kept => exact sound.kept
  case unfunded => exact sound.unfunded
  case first => exact sound.first
  case signed => exact sound.signed
  case advanced => exact sound.advanced
  case released => exact sound.released

/-- The books stay sound in every allowed call, by cases on the kinds of steps. -/
theorem step (sound : bench.BooksSound) (desk : bench.DeskSound)
    (allowed : bench.Allows exchange.call) (step : ShopStep bench.shop exchange shop)
    : (bench.follow exchange shop).BooksSound := by
  cases step with
  | silent quiet =>
      rw [follow_quiet quiet]
      exact sound
  | registered quiet fits free init _ _ =>
      rw [follow_quiet quiet]
      have unissued := sound.unfunded _ free
      refine sound.setChannel rfl fits ?_ (.inr unissued) fun _ => unissued
      intro state given
      rw [init] at given
      cases given
  | @announced init signatures channel found unfunded _ =>
      rw [follow_announced found]
      have unissued : ∀ state ∈ bench.issued, state.escrowTxid ≠ init.escrowTxid := by
        refine sound.unfunded _ fun known again => ?_
        cases found.symm.trans again
        exact unfunded
      refine (sound.announce _).setChannel rfl (sound.registered _ channel found) ?_ (.inr unissued)
        fun _ => unissued
      intro state given
      cases given
      exact List.mem_cons_self
  | @moved _ escrow channel status quiet found past =>
      rw [follow_quiet quiet]
      have kept := kept?_of_get? found
      exact sound.setChannel rfl (sound.registered escrow channel found)
        (fun state given => (sound.kept escrow state (kept.trans given)).1) (.inl kept)
        fun unfunded => absurd unfunded past
  | @issued escrow state _ channel found confirmed first _ _ =>
      rw [follow_issued]
      have kept : bench.kept? escrow = some state := (kept?_of_get? found).trans first
      obtain ⟨announced, rfl⟩ := sound.kept escrow state kept
      exact sound.issue (.inl announced)
        (.inr ⟨kept, channel, found, by simp [confirmed]⟩)
  | began _ => exact sound.of_shop rfl
  | handed _ _ => exact sound.of_shop rfl
  | @confirmed id session found updating =>
      obtain ⟨customer, accepted⟩ := allowed
      rw [follow_confirmed accepted]
      obtain ⟨handout, there, accepted⟩ := accepted?_eq_some.1 accepted
      obtain ⟨checks, issued⟩ := desk.accepted id handout customer there accepted
      exact (sound.advance issued checks.escrowTxid).of_shop rfl
  | dropped quiet _ _ =>
      rw [follow_quiet quiet]
      exact sound.of_shop (closeSession_channels _ _)
  | spoiled found confirmed _ =>
      obtain ⟨customer, round, -, -, stays, old, new⟩ := desk.round found confirmed
      rw [follow_spoiled round]
      exact (sound.spoil old new stays).of_shop (closeSession_channels _ _)
  | revoked found confirmed _ _ =>
      obtain ⟨customer, round, -, -, stays, old, new⟩ := desk.round found confirmed
      rw [follow_released round]
      have issues := sound.issue (.inr new) (.inl ⟨customer.old, old, stays.symm⟩)
      exact (issues.release List.mem_cons_self).of_shop (closeSession_channels _ _)
  | repeated gone _ =>
      rw [follow_gone gone]
      exact sound
  | refused gone =>
      rw [follow_gone gone]
      exact sound

end BooksSound

end Bench

end PaymentChannel
