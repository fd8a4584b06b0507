import PaymentChannel.Proofs.Concurrency.Locality

/-! Payments at one till, with their moves in any order.
The order of the moves makes no difference as long as no payment begins under the identifier of an
older session that holds the nonce of another one. When it is told to drop its session it would drop
this older session, and free the nonce for the other payment.
-/

namespace PaymentChannel

open Customer Merchant

-----------------------------------------------------------------------------------------
-- Moves in any order
-----------------------------------------------------------------------------------------

/-- Payments under way at one till, each of a customer of its own. -/
structure Traffic (ι : Type) where
  course : ι → Course
  till : Till

namespace Traffic

variable {ι : Type} [DecidableEq ι] {traffic : Traffic ι} {purchase : ι → Purchase} {till : Till}
  {who other : ι} {turns more order : List ι}

/-- A payment in a different state, and the till with it. -/
def set (traffic : Traffic ι) (who : ι) (state : Course × Till) : Traffic ι :=
  ⟨Function.update traffic.course who state.1, state.2⟩

/-- The next move of one of the payments. -/
def turn (traffic : Traffic ι) (who : ι) : Traffic ι :=
  traffic.set who ((traffic.course who).move traffic.till)

/-- The moves of the payments in some order. -/
def play (traffic : Traffic ι) (turns : List ι) : Traffic ι := turns.foldl turn traffic

/-- All payments are over. -/
def Over (traffic : Traffic ι) : Prop := ∀ who, (traffic.course who).Over

/-- Payments that are about to begin. -/
def opening (purchase : ι → Purchase) (till : Till) : Traffic ι :=
  ⟨fun who => (purchase who).start, till⟩

/-- The payments one after the other. -/
def serially (purchase : ι → Purchase) (till : Till) (order : List ι) : Traffic ι :=
  order.foldl (fun traffic who => traffic.set who ((purchase who).pay traffic.till))
    (opening purchase till)

/-- The moves of one payment in a row are its moves when it is left alone, by induction on them. -/
theorem play_replicate (traffic : Traffic ι) (who : ι) (moves : Nat)
    : traffic.play (List.replicate moves who)
      = traffic.set who (Course.alone^[moves] (traffic.course who, traffic.till)) := by
  induction moves generalizing traffic with
  | zero => simp [play, set]
  | succ moves ih =>
      have goes := ih (traffic.turn who)
      simp only [turn, set, Function.update_self, Function.update_idem] at goes
      exact goes

/-- Payments one after the other make all moves of one payment before those of the next. -/
theorem serially_eq_play (purchase : ι → Purchase) (till : Till) (once : order.Nodup)
    : serially purchase till order
      = (opening purchase till).play (order.flatMap fun who => List.replicate 10 who) := by
  -- The payments whose turn is still to come are at their beginning.
  suffices goes : ∀ traffic : Traffic ι, (∀ who ∈ order, traffic.course who = (purchase who).start)
      → order.foldl (fun traffic who => traffic.set who ((purchase who).pay traffic.till)) traffic
        = traffic.play (order.flatMap fun who => List.replicate 10 who) from
    goes _ fun _ _ => rfl
  induction order with
  | nil => exact fun _ _ => rfl
  | cons who rest ih =>
      intro traffic starts
      obtain ⟨absent, once⟩ := List.nodup_cons.1 once
      have start := starts who List.mem_cons_self
      have finished := Course.over_of_ten_le (purchase who) traffic.till le_rfl
      have pays := Course.iterate_start (purchase who) traffic.till finished
      have moves := play_replicate traffic who 10
      rw [start, pays] at moves
      rw [List.foldl_cons, List.flatMap_cons, play, List.foldl_append]
      simp only [play] at moves ih
      rw [moves]
      refine ih once _ fun other member => ?_
      have apart : other ≠ who := by
        rintro rfl
        exact absent member
      simp only [set, Function.update_of_ne apart]
      exact starts other (List.mem_cons_of_mem _ member)

/-- Every turn of a payment brings it closer to its end, whatever the others do, by induction on the
turns.
-/
theorem left_play (traffic : Traffic ι) (who : ι) (turns : List ι)
    : ((traffic.play turns).course who).next.left
      ≤ (traffic.course who).next.left - turns.count who := by
  induction turns generalizing traffic with
  | nil => exact Nat.le_refl _
  | cons next rest ih =>
      have later := ih (traffic.turn next)
      by_cases same : who = next
      · subst same
        have closer := Course.left_move (traffic.course who) traffic.till
        simp only [turn, set, Function.update_self] at later
        simp only [List.count_cons_self]
        exact later.trans (by omega)
      · simp only [turn, set, Function.update_of_ne same] at later
        rwa [List.count_cons_of_ne (Ne.symm same)]

/-- Payments of which each had ten turns are over, whatever the order of the turns. -/
theorem over_of_ten_le (purchase : ι → Purchase) (till : Till)
    (enough : ∀ who, 10 ≤ turns.count who)
    : ((opening purchase till).play turns).Over := by
  intro who
  have left := left_play (opening purchase till) who turns
  have first : ((opening purchase till).course who).next.left = 10 := rfl
  have turns := enough who
  exact Course.over_iff.2 (by omega)

/-- Payments one after the other are over when everybody had a turn. -/
theorem over_serially (purchase : ι → Purchase) (till : Till) (once : order.Nodup)
    (all : ∀ who, who ∈ order)
    : (serially purchase till order).Over := by
  rw [serially_eq_play purchase till once]
  refine over_of_ten_le purchase till fun who => ?_
  have row : List.Sublist (List.replicate 10 who) (order.flatMap fun who => List.replicate 10 who) :=
    List.sublist_flatten_of_mem (List.mem_map_of_mem (all who))
  exact List.count_replicate_self.symm.trans_le (row.count_le who)

end Traffic

-----------------------------------------------------------------------------------------
-- Payments that do not notice each other
-----------------------------------------------------------------------------------------

/-- A payment goes its way among others as if it were left alone. -/
structure Course.Follows (reach : Reach) (alone : Course × Till) (course : Course) (till : Till)
    : Prop where
  course : course = alone.1
  agree : Till.AgreeOn reach alone.2 till
  keeps : alone.1.Keeps reach alone.2

namespace Course.Follows

variable {reach beside : Reach} {left : Course × Till} {course : Course} {till after : Till}

/-- A payment goes its way with its own next move. -/
theorem move (follows : Follows reach left course till)
    : Follows reach (alone left) (course.move till).1 (course.move till).2 := by
  obtain ⟨rfl, agree, keeps⟩ := follows
  obtain ⟨same, agree⟩ := keeps.alike agree
  exact ⟨same.symm, agree, keeps.move⟩

/-- The next move of a payment leaves everything alone that it does not reach for. -/
theorem agreeOn_move (follows : Follows reach left course till)
    : Till.AgreeOn reach.others till (course.move till).2 := by
  obtain ⟨rfl, agree, keeps⟩ := follows
  exact (keeps.of_agree agree).agreeOn_move

/-- A payment goes its way when something happens that it does not reach for. -/
theorem aside (follows : Follows reach left course till) (apart : reach.Within beside)
    (agree : Till.AgreeOn beside till after)
    : Follows reach left course after :=
  ⟨follows.course, follows.agree.trans (agree.mono apart), follows.keeps⟩

end Course.Follows

namespace Traffic

variable {ι : Type} [DecidableEq ι] {traffic : Traffic ι} {purchase : ι → Purchase} {till : Till}
  {who other : ι} {turns more order : List ι} {reach : ι → Reach} {alone : ι → Course × Till}

/-- All payments go their way as if they were left alone, and nothing else happens at the till. -/
structure Tracks (reach : ι → Reach) (till : Till) (alone : ι → Course × Till) (traffic : Traffic ι)
    : Prop where
  follows : ∀ who, (traffic.course who).Follows (reach who) (alone who) traffic.till
  rest : Till.AgreeOn (.beyond reach) till traffic.till

namespace Tracks

/-- One more turn keeps all payments on their way. -/
theorem turn (apart : ∀ who other, who ≠ other → (reach who).Within (reach other).others)
    (tracks : traffic.Tracks reach till alone) (who : ι)
    : (traffic.turn who).Tracks reach till
        (Function.update alone who (Course.alone (alone who))) := by
  have moves := (tracks.follows who).agreeOn_move
  refine ⟨fun other => ?_, tracks.rest.trans (moves.mono (Reach.beyond_within reach who))⟩
  by_cases same : other = who
  · subst same
    simp only [Traffic.turn, set, Function.update_self]
    exact (tracks.follows other).move
  · simp only [Traffic.turn, set, Function.update_of_ne same]
    exact (tracks.follows other).aside (apart other who same) moves

/-- All payments stay on their way, by induction on the turns. -/
theorem play (apart : ∀ who other, who ≠ other → (reach who).Within (reach other).others)
    (tracks : traffic.Tracks reach till alone) (turns : List ι)
    : (traffic.play turns).Tracks reach till
        fun who => Course.alone^[turns.count who] (alone who) := by
  induction turns generalizing traffic alone with
  | nil => exact tracks
  | cons next rest ih =>
      have later := ih (tracks.turn apart next)
      have same : (fun who => Course.alone^[(next :: rest).count who] (alone who))
          = fun who => Course.alone^[rest.count who]
            (Function.update alone next (Course.alone (alone next)) who) := by
        funext who
        by_cases here : who = next
        · subst here
          rw [Function.update_self, List.count_cons_self, Function.iterate_succ_apply]
        · rw [Function.update_of_ne here, List.count_cons_of_ne (Ne.symm here)]
      rw [same]
      exact later

omit [DecidableEq ι] in
/-- Payments that are on their way from the same till are in the same state. -/
theorem unique {also : Traffic ι} (tracks : traffic.Tracks reach till alone)
    (too : also.Tracks reach till alone)
    : traffic = also := by
  have courses : traffic.course = also.course := by
    funext who
    rw [(tracks.follows who).course, (too.follows who).course]
  have tills : traffic.till = also.till :=
    Till.eq_of_agreeOn
      (fun who => (tracks.follows who).agree.symm.trans (too.follows who).agree)
      (tracks.rest.symm.trans too.rest)
  cases traffic
  cases also
  cases courses
  cases tills
  rfl

end Tracks

/-- Payments that reach for different entries end alike in all orders of their moves. -/
theorem play_unique (apart : ∀ who other, who ≠ other → (reach who).Within (reach other).others)
    (keeps : ∀ who, (purchase who).start.Keeps (reach who) till)
    (finished : ((opening purchase till).play turns).Over)
    (also : ((opening purchase till).play more).Over)
    : (opening purchase till).play turns = (opening purchase till).play more := by
  have begins : (opening purchase till).Tracks reach till fun who => ((purchase who).start, till) :=
    ⟨fun who => ⟨rfl, .refl _ _, keeps who⟩, .refl _ _⟩
  have mine := begins.play apart turns
  have theirs := begins.play apart more
  have ends : (fun who => Course.alone^[turns.count who] ((purchase who).start, till))
      = fun who => Course.alone^[more.count who] ((purchase who).start, till) := by
    funext who
    refine Course.iterate_eq_of_over ?_ ?_
    · rw [← (mine.follows who).course]
      exact finished who
    · rw [← (theirs.follows who).course]
      exact also who
  rw [ends] at mine
  exact mine.unique theirs

end Traffic

-----------------------------------------------------------------------------------------
-- What a payment reaches for
-----------------------------------------------------------------------------------------

namespace Purchase

variable {purchase other : Purchase} {request : PaymentRequest} {till : Till}

/-- The customer begins the payment with a request. -/
def Begins (purchase : Purchase) (request : PaymentRequest) : Prop :=
  ∃ begun, (purchase.customer.preparePayment purchase.amount purchase.justification).outcome
    purchase.source = .ok (request, begun)

/-- Two payments have different identifiers, nonces and locks. -/
structure Apart (purchase other : Purchase) : Prop where
  sessions : drawnSession purchase.source ≠ drawnSession other.source
  nonces : ∀ mine theirs, purchase.customer.state = some mine → other.customer.state = some theirs
    → mine.nonce ≠ theirs.nonce
  locks : ∀ mine theirs, purchase.customer.state = some mine → other.customer.state = some theirs
    → mine.lock ≠ theirs.lock

theorem Apart.symm (apart : purchase.Apart other) : other.Apart purchase :=
  ⟨apart.sessions.symm, fun mine theirs found holds => (apart.nonces theirs mine holds found).symm,
    fun mine theirs found holds => (apart.locks theirs mine holds found).symm⟩

/-- A payment begins under the identifier of a session that can still be dropped, and this session
holds the nonce with which the other payment begins.
-/
def Frees (purchase other : Purchase) (merchant : Merchant) : Prop :=
  ∃ id session request, merchant.sessions.get? id = some session
    ∧ purchase.customer.Collides purchase.amount purchase.justification purchase.source id session
    ∧ other.Begins request ∧ session.nonce = request.nonce

/-- What a payment reaches for, which is nothing if the customer does not begin it: its session, its
nonce and its lock, and the nonce of an older session of the same identifier.
-/
def reach (purchase : Purchase) (till : Till) : Reach where
  sessions := {id | ∃ request, purchase.Begins request ∧ id = request.session}
  nonces := {nonce | ∃ request, purchase.Begins request
    ∧ (nonce = request.nonce ∨ ∃ session, till.merchant.sessions.get? request.session = some session
      ∧ session.Droppable ∧ nonce = session.nonce)}
  locks := {lock | ∃ request, purchase.Begins request
    ∧ ∃ state, purchase.customer.state = some state ∧ lock = state.lock.bytes.toList}

/-- A customer begins a payment with its current state, under the identifier that it draws. -/
theorem Begins.state (begins : purchase.Begins request)
    : request.session = drawnSession purchase.source
      ∧ ∃ state, purchase.customer.state = some state ∧ request.nonce = state.nonce := by
  obtain ⟨begun, begins⟩ := begins
  obtain ⟨state, allowed, _, -, -, rfl, -⟩ := preparePayment_eq_ok.1 begins
  obtain ⟨-, -, -, -, channel, found, -, rfl⟩ := checkPayment_eq_ok.1 allowed
  exact ⟨rfl, channel.state, by rw [Customer.state, found]; rfl, rfl⟩

/-- A payment stays within what it reaches for. -/
theorem keeps (purchase : Purchase) (till : Till)
    : purchase.start.Keeps (purchase.reach till) till := by
  intro request begun rest given
  have begins : purchase.Begins request := ⟨begun, congrArg Prod.fst given⟩
  obtain ⟨-, mine, found, nonce⟩ := begins.state
  obtain ⟨_, -, _, -, -, -, rfl⟩ := preparePayment_eq_ok.1 (congrArg Prod.fst given)
  refine ⟨⟨request, begins, .inl rfl⟩, ⟨?_, ?_⟩, ⟨request, begins, rfl⟩, ?_⟩
  · intro state now
    cases found.symm.trans now
    exact ⟨⟨request, begins, .inl nonce.symm⟩, ⟨request, begins, mine, found, rfl⟩⟩
  · intro pending revoked round given
    cases round
    cases given
  · intro session opened droppable
    exact ⟨request, begins, .inr ⟨session, opened, droppable, rfl⟩⟩

/-- A payment frees the nonce of another one if the older session of its identifier can be dropped
and has this nonce.
-/
theorem frees_of_session {session : Session} {theirs : PaymentRequest}
    (begins : purchase.Begins request) (also : other.Begins theirs)
    (found : till.merchant.sessions.get? request.session = some session)
    (droppable : session.Droppable) (nonce : session.nonce = theirs.nonce)
    : purchase.Frees other till.merchant :=
  have drawn := begins.state.1
  ⟨_, session, theirs, found, ⟨⟨request, begins⟩, drawn, droppable⟩, also, nonce⟩

/-- Two payments of which none frees the nonce of the other one reach for different entries. -/
theorem reach_within (index : till.merchant.SessionIndex) (apart : purchase.Apart other)
    (spares : ¬purchase.Frees other till.merchant) (spared : ¬other.Frees purchase till.merchant)
    : (purchase.reach till).Within (other.reach till).others := by
  refine ⟨?_, ?_, ?_⟩
  · rintro _ ⟨request, begins, rfl⟩ ⟨theirs, also, same⟩
    exact apart.sessions (by rw [← begins.state.1, ← also.state.1, same])
  · rintro nonce ⟨request, begins, mine⟩ ⟨theirs, also, too⟩
    obtain ⟨drawn, state, found, first⟩ := begins.state
    obtain ⟨drew, known, holds, second⟩ := also.state
    rcases mine with rfl | ⟨session, opened, droppable, rfl⟩
    · rcases too with same | ⟨session, opened, droppable, same⟩
      · exact apart.nonces state known found holds (by rw [← first, ← second, same])
      · exact spared (frees_of_session also begins opened droppable same.symm)
    · rcases too with same | ⟨older, there, -, same⟩
      · exact spares (frees_of_session begins also opened droppable same)
      · have one := index.id_unique there opened same
        exact apart.sessions (by rw [← drawn, ← drew, one])
  · rintro _ ⟨request, begins, state, found, rfl⟩ ⟨theirs, also, known, holds, same⟩
    exact apart.locks state known found holds (congrArg RevLock.mk (Bytes.ext same))

end Purchase

/-- Payments of which none frees the nonce of another one end in all orders of their moves as they
do one after the other.
-/
theorem Traffic.play_eq_serially {ι : Type} [DecidableEq ι] {purchase : ι → Purchase} {till : Till}
    (index : till.merchant.SessionIndex)
    (apart : ∀ who other, who ≠ other → (purchase who).Apart (purchase other))
    (spares : ∀ who other, who ≠ other → ¬(purchase who).Frees (purchase other) till.merchant)
    {turns order : List ι} (finished : ((opening purchase till).play turns).Over)
    (once : order.Nodup) (all : ∀ who, who ∈ order)
    : (opening purchase till).play turns = serially purchase till order := by
  have within (who other : ι) (differ : who ≠ other)
      : ((purchase who).reach till).Within ((purchase other).reach till).others :=
    Purchase.reach_within index (apart who other differ) (spares who other differ)
      (spares other who differ.symm)
  have ends := over_serially purchase till once all
  rw [serially_eq_play purchase till once] at ends ⊢
  exact play_unique within (fun who => (purchase who).keeps till) finished ends

-----------------------------------------------------------------------------------------
-- Nonces that are freed
-----------------------------------------------------------------------------------------

/-- A nonce that is neither used up nor in use is not refused. -/
theorem Merchant.preparePayment_ne_nonceReused {merchant : Merchant} {request : PaymentRequest}
    {source : Entropy} {nonce : Nonce} (unspent : merchant.spentNonces.get? request.nonce = none)
    (unlived : merchant.liveNonces.get? request.nonce = none)
    : (merchant.preparePayment request).outcome source ≠ .refuse (.nonceReused nonce) := by
  have fresh : merchant.spentNonces.contains request.nonce = false
      ∧ merchant.liveNonces.contains request.nonce = false :=
    ⟨Dict.contains_eq_false_iff.2 unspent, Dict.contains_eq_false_iff.2 unlived⟩
  intro refused
  rw [preparePayment_outcome] at refused
  cases checked : merchant.checkPayment request with
  | ok =>
      rw [checked] at refused
      cases refused
  | error failure =>
      rw [checked] at refused
      cases refused
      simp only [checkPayment, Outcome.ensure_of fresh, Outcome.ok_bind, Outcome.bind_eq_error,
        Outcome.ensure_eq_error] at checked
      rcases checked with ⟨-, ends⟩ | ⟨_, -, -, ends⟩ <;> cases ends

namespace Parties.Ends

variable {before : Parties} {client : ServiceClient} {amount : Balance}
  {justification : Option String} {source : Entropy} {request : PaymentRequest}
  {ended : Outcome ChannelError Receipt × Parties} {id : SessionId} {session : Session}

/-- A payment that collides with a session closes it. -/
theorem closes (ends : before.Ends client amount justification source ended)
    (live : before.merchant.UnderWay id session)
    (collides : before.customer.Collides amount justification source id session)
    : ended.2.merchant = before.merchant.closeSession id := by
  obtain ⟨⟨_, _, begins⟩, rfl, droppable⟩ := collides
  have fails : before.merchant.failSession (drawnSession source)
      = .ok ((), before.merchant.closeSession (drawnSession source)) :=
    failSession_eq_ok.2 ⟨session, live.found, droppable, rfl⟩
  cases ends with
  | unprepared refused => cases begins.symm.trans refused
  | unopened =>
      simp only [fails]
      rfl
  | unmasked round fits | unsigned round fits | overflowed round fits =>
      cases live.found.symm.trans fits.free
  | disproved round signs | unrecorded round signs | completed round signs =>
      cases live.found.symm.trans signs.free

/-- A payment with a nonce in use is refused. -/
theorem reused (ends : before.Ends client amount justification source ended) {begun : Customer}
    (begins : (before.customer.preparePayment amount justification).outcome source
      = .ok (request, begun)) (used : before.merchant.liveNonces.get? request.nonce = some id)
    : ended.1 = .refuse (.nonceReused request.nonce) ∧ ended.2.customer = before.customer := by
  have taken : ∀ round : BegunRound amount justification source,
      ¬round.Fits before.customer before.merchant := by
    intro round fits
    cases begins.symm.trans fits.begins
    exact absurd (used.symm.trans (Merchant.free_of_checkPayment fits.unused).2.1) nofun
  cases ends with
  | unprepared refused => cases begins.symm.trans refused
  | unopened again refused =>
      cases begins.symm.trans again
      rw [preparePayment_nonceReused (.inr (Dict.contains_iff.2 ⟨_, used⟩))] at refused
      cases refused
      exact ⟨rfl, rfl⟩
  | unmasked round fits | unsigned round fits | overflowed round fits => cases taken round fits
  | disproved round signs | unrecorded round signs | completed round signs =>
      cases taken round.toBegunRound signs.toFits

/-- A payment with a nonce that is neither used up nor in use is not refused for it, unless its
customer gives the merchant up.
-/
theorem not_reused (ends : before.Ends client amount justification source ended) {begun : Customer}
    (begins : (before.customer.preparePayment amount justification).outcome source
      = .ok (request, begun)) (unspent : before.merchant.spentNonces.get? request.nonce = none)
    (unlived : before.merchant.liveNonces.get? request.nonce = none)
    : ¬(ended.1 = .refuse (.nonceReused request.nonce) ∧ ended.2.customer = before.customer) := by
  rintro ⟨outcome, stays⟩
  cases ends with
  | unprepared refused => cases begins.symm.trans refused
  | unopened again refused =>
      cases begins.symm.trans again
      cases outcome
      exact Merchant.preparePayment_ne_nonceReused unspent unlived refused
  | unsigned round fits => exact Customer.ne_distrusting fits.trusted stays.symm
  | unmasked | overflowed | disproved | unrecorded | completed => cases outcome

end Parties.Ends

/-- A payment whose nonce is freed goes differently before and after the one that frees it. -/
theorem Purchase.Frees.differs {purchase other : Purchase} {till : Till}
    (frees : purchase.Frees other till.merchant) (index : till.merchant.SessionIndex)
    : (other.pay (purchase.pay till).2).1 ≠ (other.pay till).1 := by
  obtain ⟨id, session, request, found, collides, ⟨begun, begins⟩, nonce⟩ := frees
  have live : till.merchant.UnderWay id session := ⟨found, index.indexed id session found⟩
  have closes : (purchase.pay till).2.merchant = till.merchant.closeSession id :=
    (Parties.ends ⟨purchase.customer, till.merchant, ⟨till.store, purchase.outage, none⟩⟩
      purchase.client purchase.amount purchase.justification purchase.source).closes live collides
  have unspent : (purchase.pay till).2.merchant.spentNonces.get? request.nonce = none := by
    rw [closes, closeSession_spentNonces, ← nonce]
    exact index.unspent id session found
  have unlived : (purchase.pay till).2.merchant.liveNonces.get? request.nonce = none := by
    rw [closes, closeSession_of_get? found, ← nonce]
    exact Dict.get?_erase_self _ _
  have later := (Parties.ends ⟨other.customer, (purchase.pay till).2.merchant,
    ⟨(purchase.pay till).2.store, other.outage, none⟩⟩ other.client other.amount
    other.justification other.source).not_reused begins unspent unlived
  obtain ⟨refused, stays⟩ := (Parties.ends ⟨other.customer, till.merchant,
    ⟨till.store, other.outage, none⟩⟩ other.client other.amount other.justification
    other.source).reused begins (nonce ▸ live.indexed)
  intro same
  simp only [pay, Course.mk.injEq, NextMove.done.injEq, true_and] at same
  exact later ⟨same.2.trans refused, same.1.trans stays⟩

-----------------------------------------------------------------------------------------
-- Two payments
-----------------------------------------------------------------------------------------

/-- One of two payments. -/
inductive Turn
  | first
  | second
deriving DecidableEq

/-- Two payments, each with its turns. -/
def Purchase.both (first second : Purchase) : Turn → Purchase
  | .first => first
  | .second => second

namespace Turn

/-- What holds of the two payments in both orders holds of any two of them. -/
@[elab_as_elim]
theorem of_unlike {motive : Turn → Turn → Prop} {who other : Turn} (unlike : who ≠ other)
    (one : motive .first .second) (another : motive .second .first)
    : motive who other := by
  cases who <;> cases other
  · exact absurd rfl unlike
  · exact one
  · exact another
  · exact absurd rfl unlike

theorem nodup_pair {who other : Turn} (unlike : who ≠ other) : [who, other].Nodup := by
  simp [unlike]

theorem mem_pair {who other : Turn} (unlike : who ≠ other) (anyone : Turn)
    : anyone ∈ [who, other] := by
  cases who <;> cases other <;> cases anyone <;> simp_all

end Turn

/-- If the first payment frees the nonce of the second one, this one ends differently in the two
orders.
-/
theorem Purchase.Frees.orders_differ {first second : Purchase} {till : Till}
    (frees : first.Frees second till.merchant) (index : till.merchant.SessionIndex)
    : (Traffic.serially (first.both second) till [.first, .second]).course .second
      ≠ (Traffic.serially (first.both second) till [.second, .first]).course .second :=
  frees.differs index

/-- Two payments with different identifiers, nonces and locks come to an end whatever the order of
their moves is. They end as they do one after the other, in either order, exactly if none of them
frees the nonce of the other one.
-/
theorem interleavings_alike_iff {params : ChannelParams} {policy : RefundPolicy} {seed : Entropy}
    {start shop : Shop} (opens : start.Opens params policy seed) {history : List MerchantExchange}
    (run : start.Run history shop) (store : LedgerStore) {first second : Purchase}
    (apart : first.Apart second)
    : let till : Till := ⟨shop.merchant, store⟩
      let both := first.both second
      (∀ turns : List Turn, (∀ who, 10 ≤ turns.count who)
          → ((Traffic.opening both till).play turns).Over)
        ∧ ((∀ turns : List Turn, ((Traffic.opening both till).play turns).Over
            → (Traffic.opening both till).play turns = Traffic.serially both till [.first, .second]
              ∧ (Traffic.opening both till).play turns
                = Traffic.serially both till [.second, .first])
          ↔ ¬first.Frees second shop.merchant ∧ ¬second.Frees first shop.merchant) := by
  intro till both
  obtain ⟨_, records⟩ := PaymentRecords.run opens run
  have index : till.merchant.SessionIndex := records.index
  refine ⟨fun turns enough => Traffic.over_of_ten_le both till enough, ?_, ?_⟩
  · intro alike
    have unlike : Turn.first ≠ .second := nofun
    -- The serial order is a play itself, so both orders end alike if every play does.
    have finished := Traffic.over_serially both till (Turn.nodup_pair unlike) (Turn.mem_pair unlike)
    rw [Traffic.serially_eq_play both till (Turn.nodup_pair unlike)] at finished
    obtain ⟨one, another⟩ := alike _ finished
    have same := one.symm.trans another
    exact ⟨fun frees => frees.orders_differ index (congrArg (·.course .second) same),
      fun frees => frees.differs index (congrArg (·.course .first) same.symm)⟩
  · rintro ⟨spares, spared⟩ turns finished
    have differ (who other : Turn) (unlike : who ≠ other) : (both who).Apart (both other) :=
      Turn.of_unlike unlike apart apart.symm
    have free (who other : Turn) (unlike : who ≠ other)
        : ¬(both who).Frees (both other) till.merchant :=
      Turn.of_unlike unlike spares spared
    have ends (who other : Turn) (unlike : who ≠ other)
        : (Traffic.opening both till).play turns = Traffic.serially both till [who, other] :=
      Traffic.play_eq_serially index differ free finished (Turn.nodup_pair unlike)
        (Turn.mem_pair unlike)
    exact ⟨ends .first .second nofun, ends .second .first nofun⟩

section Example

-- Unification would compute keys and hashes where comparing their arguments is enough.
attribute [local irreducible] SecretKey.publicKey SignableTx.txid SignableTx.sign
  SignableTx.verifies sha256 hmacSha256

/-- The channel of the neighbour, whose nonce the session at the neighbour's shop holds. -/
def neighbourChannel : FundedChannel :=
  { patronChannel with
    state := { patronChannel.state with
      nonce := .first (.ofNat 8 3)
      lock := (drawnSecret patronEntropy).lock } }

/-- The neighbour with an open channel. -/
def neighbour : Customer :=
  { readyPatron with
    initialNonce := .first (.ofNat 8 3)
    secret := drawnSecret patronEntropy
    channel := some neighbourChannel
    payToken := some (.compute ⟨.ofNat 32 1⟩ neighbourChannel.state) }

def patronPurchase : Purchase := ⟨readyPatron, .direct 0, 5, none, patronEntropy, none⟩

def neighbourPurchase : Purchase :=
  ⟨neighbour, .direct 0, 5, none, .ofBlocks fun _ => .ofNat 32 (2 ^ 200), none⟩

theorem patronPurchase_apart : patronPurchase.Apart neighbourPurchase := by
  have locks : patronChannel.state.lock ≠ patronSecond.lock := by decide +kernel
  refine ⟨by decide, ?_, ?_⟩
  · rintro _ _ ⟨⟩ ⟨⟩
    decide
  · rintro _ _ ⟨⟩ ⟨⟩
    exact locks

theorem neighbour_begins : ∃ request, neighbourPurchase.Begins request
    ∧ request.nonce = .first (.ofNat 8 3) := by
  have fresh : (Nonce.first (.ofNat 8 3)).next ≠ .first (.ofNat 8 3) := by decide
  have allowed : neighbour.checkPayment 5 = .ok neighbourChannel.state :=
    checkPayment_eq_ok.2 ⟨rfl, rfl, rfl, nofun, _, rfl, rfl, rfl⟩
  exact ⟨_, ⟨_, preparePayment_eq_ok.2 ⟨_, allowed, _, rfl, fresh, rfl, rfl⟩⟩, rfl⟩

/-- A payment that draws another identifier frees no nonce at the neighbour's shop. -/
theorem not_frees_neighbourShop {purchase other : Purchase} {id : SessionId}
    (elsewhere : drawnSession purchase.source ≠ id)
    : ¬purchase.Frees other (neighbourShop id).merchant := by
  rintro ⟨_, session, _, found, ⟨-, rfl, -⟩, -, -⟩
  have absent : (neighbourShop id).merchant.sessions.get? (drawnSession purchase.source) = none :=
    Dict.get?_insert_of_ne elsewhere
  cases absent.symm.trans found

/-- The patron and the neighbour pay at a shop where an older payment of the neighbour is under way
under another identifier.
-/
theorem interleavings_alike_iff_neighbour
    : let id : SessionId := ⟨.ofNat 16 7⟩
      let till : Till := ⟨(neighbourShop id).merchant, .memory .empty⟩
      let both := patronPurchase.both neighbourPurchase
      steadyShop.Opens .default .reject steadySource
        ∧ (∃ history, steadyShop.Run history (neighbourShop id))
        ∧ patronPurchase.Apart neighbourPurchase
        ∧ ∀ turns : List Turn, ((Traffic.opening both till).play turns).Over
          → (Traffic.opening both till).play turns = Traffic.serially both till [.first, .second]
            ∧ (Traffic.opening both till).play turns
              = Traffic.serially both till [.second, .first] := by
  intro id till both
  obtain ⟨history, run⟩ := neighbourShop_run id
  have alike := interleavings_alike_iff steadyShop_opens run (.memory .empty) patronPurchase_apart
  have spares : ¬patronPurchase.Frees neighbourPurchase (neighbourShop id).merchant :=
    not_frees_neighbourShop (by decide)
  have spared : ¬neighbourPurchase.Frees patronPurchase (neighbourShop id).merchant :=
    not_frees_neighbourShop (by decide)
  exact ⟨steadyShop_opens, ⟨_, run⟩, patronPurchase_apart, alike.2.2 ⟨spares, spared⟩⟩

/-- The patron draws the identifier of the older payment, so the neighbour is refused if it pays
first, and not if it pays after the patron.
-/
theorem order_of_payments_matters
    : let id := drawnSession patronEntropy
      let till : Till := ⟨(neighbourShop id).merchant, .memory .empty⟩
      let both := patronPurchase.both neighbourPurchase
      steadyShop.Opens .default .reject steadySource
        ∧ (∃ history, steadyShop.Run history (neighbourShop id))
        ∧ patronPurchase.Apart neighbourPurchase
        ∧ (Traffic.serially both till [.first, .second]).course .second
          ≠ (Traffic.serially both till [.second, .first]).course .second := by
  intro id till both
  obtain ⟨history, run⟩ := neighbourShop_run id
  obtain ⟨_, records⟩ := PaymentRecords.run steadyShop_opens run
  obtain ⟨request, begins, nonce⟩ := neighbour_begins
  have frees : patronPurchase.Frees neighbourPurchase till.merchant :=
    ⟨id, neighbourSession id, request, neighbourShop_found id,
      ⟨⟨_, _, preparePayment_readyPatron⟩, rfl, .inl rfl⟩, begins, nonce.symm⟩
  exact ⟨steadyShop_opens, ⟨_, run⟩, patronPurchase_apart, frees.orders_differ records.index⟩

end Example

end PaymentChannel
