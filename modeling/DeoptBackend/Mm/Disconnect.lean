import DeoptBackend.Mm.Tracking

/-!
# Cancel on disconnect

When a connection ends, the gateway cancels the resting orders of the session's
account whose client ids the session has registered.

* `Tracks.dispatch` — every handler keeps track of the session's orders, if its
  message is careful.
* `disconnect_complete` — after a careful session, no order of it rests.
* `disconnect_leaves_orders` — sessions that are not careful, after which one does.
-/

namespace DeoptBackend

open EngineState MmGatewayService Option

/-! ## Messages -/

/-- Every item of a bulk message is careful, in the state it finds. -/
def EachCareful {α β : Type} (handle : Nat → Gateway → α → Gateway × Outcome (ItemResult β))
    (careful : Nat → Gateway → α → Prop) : Nat → Gateway → List α → Prop
  | _, _, [] => True
  | n, g, item :: items =>
    careful n g item ∧ EachCareful handle careful (n + 1) (handle n g item).1 items

def LegCareful (service : MmGatewayService) (payload : QuoteReplacePayload)
    (answers : PayloadAnswers) (g : Gateway) (leg : Side × QuoteLegPayload) : Prop :=
  PayloadCareful service answers g
    (legPayload payload.marketId payload.account leg.1 leg.2)

/-- What a quote replace finds after its cancels. -/
def afterCancels (service : MmGatewayService) (answers : MessageAnswers) (g : Gateway)
    (payload : QuoteReplacePayload) : Gateway :=
  if payload.cancelPrevious then
    (service.cancelResting (answers.cancels 0) g
      ⟨payload.account, some payload.marketId, some g.session.quoteClientOrderIds⟩).1
  else g

/-- A quote is replaced carefully, by a session that is to take it. -/
structure QuoteCareful (service : MmGatewayService) (answers : MessageAnswers) (g : Gateway)
    (payload : QuoteReplacePayload) : Prop where
  /-- It is under the session's own spelling of the account. -/
  spelling : g.session.account = some payload.account
  others : OthersAllowed g.session.account g.app.engine
    ((answers.cancels 0).othersBefore ++ (answers.cancels 0).othersBetween)
  legs : EachCareful
    (fun n => service.quoteLeg payload.marketId payload.account (answers.submits n))
    (fun n => LegCareful service payload (answers.submits n)) 0
    (afterCancels service answers g payload) (legsOf payload)

/-- The session as the handler of a cancel finds it. -/
def Gateway.bound (g : Gateway) (account : Option AccountId) : Gateway :=
  g.withSession (sessionAccount g.session account).1

def DispatchCareful (service : MmGatewayService) (answers : MessageAnswers) (g : Gateway) :
    ClientMessage → Prop
  | .submitOrder payload => PayloadCareful service (answers.submits 0) g payload
  | .bulkSubmit orders =>
    EachCareful (fun n => service.submitPayload (answers.submits n))
      (fun n => PayloadCareful service (answers.submits n)) 0 g orders
  | .cancelOrder payload => CancelCareful (answers.cancels 0) (g.bound payload.account) payload
  | .bulkCancel cancels =>
    EachCareful (fun n => service.cancelPayload (answers.cancels n))
      (fun n g payload => CancelCareful (answers.cancels n) (g.bound payload.account) payload)
      0 g cancels
  | .cancelAll payload =>
    OthersAllowed (g.bound payload.account).session.account g.app.engine
      ((answers.cancels 0).othersBefore ++ (answers.cancels 0).othersBetween)
  | .quoteReplace payload =>
    (sessionAccount g.session (some payload.account)).2 ≠ none →
      QuoteCareful service answers (g.bound (some payload.account)) payload

section Messages

variable {service : MmGatewayService}

theorem Tracks.eachItem {handle : Nat → Gateway → α → Gateway × Outcome (ItemResult β)}
    (hhandle : ∀ n g item, Tracks g → careful n g item → Tracks (handle n g item).1) {n : Nat}
    {items : List α} (h : Tracks g) (hcareful : EachCareful handle careful n g items) :
    Tracks (eachItem handle n g items).1 := by
  induction items generalizing n g with
  | nil => exact h
  | cons item items ih =>
    obtain ⟨hitem, hitems⟩ := hcareful
    have hone := hhandle n g item h hitem
    rw [MmGatewayService.eachItem]
    generalize handle n g item = out at hone hitems
    obtain ⟨g₁, r⟩ := out
    cases r with
    | ok =>
      have hrest := ih hone hitems
      dsimp only
      generalize MmGatewayService.eachItem handle (n + 1) g₁ items = out at hrest
      obtain ⟨g₂, r⟩ := out
      cases r <;> exact hrest
    | err => exact hone
    | panic => exact hone
    | diverged => exact hone

theorem Tracks.answerItems (h : Tracks r.1) : Tracks (answerItems answer r).1 := by
  obtain ⟨g, r⟩ := r
  cases r <;> exact h

theorem Tracks.quoteLeg (h : Tracks g) {answers : PayloadAnswers}
    (hcareful : LegCareful service payload answers g leg) :
    Tracks (service.quoteLeg payload.marketId payload.account answers g leg).1 := by
  have hsubmit := h.submitPayload hcareful
  have hleg : Tracks (service.submitQuoteLeg answers g payload.marketId payload.account leg.1
      leg.2).1 := by
    unfold submitQuoteLeg
    split_ifs
    · exact h
    · generalize service.submitPayload answers g _ = out at hsubmit
      obtain ⟨g₁, r⟩ := out
      rcases r with (_ | _) | _ | _ | _ <;> exact hsubmit
  unfold MmGatewayService.quoteLeg
  generalize service.submitQuoteLeg answers g payload.marketId payload.account leg.1 leg.2 = out
    at hleg
  obtain ⟨g₁, r⟩ := out
  rcases r with (_ | outcome) | _ | _ | _
  · exact hleg
  · dsimp only
    split_ifs
    · exact hleg.session (fun a ha => ha) (Finset.Subset.refl _)
    · exact hleg
  · exact hleg
  · exact hleg
  · exact hleg

theorem Tracks.handleCancelAll (h : Tracks g)
    (hothers : OthersAllowed (g.bound payload.account).session.account g.app.engine
      ((answers.cancels 0).othersBefore ++ (answers.cancels 0).othersBetween)) :
    Tracks (service.handleCancelAll answers g payload).1 := by
  have hsession := h.bind payload.account
  have hbound := (sessionAccount_spec g.session payload.account).2.2
  unfold MmGatewayService.handleCancelAll
  unfold Gateway.bound at hothers
  generalize sessionAccount g.session payload.account = r at hothers hsession hbound
  obtain ⟨session, _ | account⟩ := r
  · exact hsession
  have hdone := (hsession.cancelResting service ⟨account, payload.marketId, none⟩
    (hbound account rfl) hothers).1
  dsimp only
  generalize service.cancelResting (answers.cancels 0) (g.withSession session) _ = out at hdone
  obtain ⟨g₁, r⟩ := out
  cases r <;> exact hdone

theorem Tracks.quoteLegs (h : Tracks g) {cancelled : Nat} (hcareful : EachCareful
      (fun n => service.quoteLeg payload.marketId payload.account (answers.submits n))
      (fun n => LegCareful service payload (answers.submits n)) 0 g
      (legsOf payload)) :
    Tracks (service.quoteLegs answers g payload cancelled).1 :=
  (Tracks.eachItem (fun _ _ _ h hleg => h.quoteLeg hleg) h hcareful).answerItems

theorem Tracks.handleQuoteReplace (h : Tracks g)
    (hcareful : (sessionAccount g.session (some payload.account)).2 ≠ none →
      QuoteCareful service answers (g.bound (some payload.account)) payload) :
    Tracks (service.handleQuoteReplace answers g payload).1 := by
  have hsession := h.bind (some payload.account)
  unfold MmGatewayService.handleQuoteReplace
  unfold Gateway.bound at hcareful
  generalize sessionAccount g.session (some payload.account) = r at hcareful hsession
  obtain ⟨session, _ | account⟩ := r
  · exact hsession
  have hquote := hcareful (by simp)
  have hlegs := hquote.legs
  unfold afterCancels at hlegs
  dsimp only at hlegs ⊢
  split
  · exact hsession
  split_ifs with hprevious
  · rw [if_pos hprevious] at hlegs
    have hdone := (hsession.cancelResting service
      ⟨payload.account, some payload.marketId,
        some (g.withSession session).session.quoteClientOrderIds⟩
      (fun a ha => some.inj (hquote.spelling.symm.trans ha)) hquote.others).1
    generalize service.cancelResting (answers.cancels 0) (g.withSession session) _ = out
      at hdone hlegs
    obtain ⟨g₁, r⟩ := out
    cases r with
    | ok => exact hdone.quoteLegs hlegs
    | err => exact hdone
    | panic => exact hdone
    | diverged => exact hdone
  · rw [if_neg hprevious] at hlegs
    exact hsession.quoteLegs hlegs

/-- **Every handler keeps track of the session's orders.** -/
theorem Tracks.dispatch (h : Tracks g) {message : ClientMessage}
    (hcareful : DispatchCareful service answers g message) :
    Tracks (service.dispatch answers g message).1 := by
  cases message with
  | submitOrder payload =>
    have hdone := h.submitPayload hcareful
    simp only [MmGatewayService.dispatch, MmGatewayService.handleSubmitOrder]
    generalize service.submitPayload (answers.submits 0) g payload = out at hdone
    obtain ⟨g₁, r⟩ := out
    rcases r with (_ | _) | _ | _ | _ <;> exact hdone
  | bulkSubmit =>
    have hdone := Tracks.eachItem (fun _ _ _ h hitem => h.submitPayload hitem) h hcareful
    simp only [MmGatewayService.dispatch, MmGatewayService.handleBulkSubmit]
    split
    · exact h
    · exact h
    · exact hdone.answerItems
  | cancelOrder payload =>
    have hdone : Tracks (service.cancelPayload (answers.cancels 0) g payload).1 :=
      h.cancelPayload hcareful
    simp only [MmGatewayService.dispatch, MmGatewayService.handleCancelOrder]
    generalize service.cancelPayload (answers.cancels 0) g payload = out at hdone
    obtain ⟨g₁, r⟩ := out
    rcases r with (_ | _) | _ | _ | _ <;> exact hdone
  | bulkCancel =>
    have hdone := Tracks.eachItem (fun _ _ _ h hitem => h.cancelPayload hitem) h hcareful
    simp only [MmGatewayService.dispatch, MmGatewayService.handleBulkCancel]
    split
    · exact h
    · exact hdone.answerItems
  | cancelAll => exact h.handleCancelAll hcareful
  | quoteReplace => exact h.handleQuoteReplace hcareful

end Messages

/-! ## Sessions -/

/-- The session as the handler of a message finds it. -/
def Gateway.entered (g : Gateway) (service : MmGatewayService) (nowMs : TimestampMs) : Gateway :=
  g.withSession (checkMessageRate (g.session.clearExpiredChallenge nowMs) service.config
    nowMs).1.incrementInFlight

/-- What happens in the life of a session: a message of its own, or requests of
others. -/
inductive SessionAction where
  | message (answers : MessageAnswers) (nowMs : TimestampMs) (message : ClientMessage)
  | others (requests : List Request)

variable (service : MmGatewayService)

/-- What it does. -/
def SessionAction.run (g : Gateway) : SessionAction → Gateway
  | .message answers nowMs m => (service.handleMessage answers nowMs g m).1
  | .others requests => g.others requests

def SessionAction.Careful (g : Gateway) : SessionAction → Prop
  | .message answers nowMs m => DispatchCareful service answers (g.entered service nowMs) m
  | .others requests => OthersAllowed g.session.account g.app.engine requests

/-- The lives of sessions all of whose actions are careful. -/
abbrev CarefulSession : Gateway → List SessionAction → Gateway → Prop :=
  Run (stepOf (SessionAction.run service) fun g action => action.Careful service g)

section Sessions

variable {service : MmGatewayService}

/-- Rate limits leave alone what the session knows of its orders. -/
theorem checkMessageRate_frame (session : MmSession) (config : MmGatewayConfig)
    (nowMs : TimestampMs) :
    (checkMessageRate (session.clearExpiredChallenge nowMs) config nowMs).1.account =
        session.account ∧
      (checkMessageRate (session.clearExpiredChallenge nowMs) config nowMs).1.openClientOrderIds =
        session.openClientOrderIds := by
  have hclear : (session.clearExpiredChallenge nowMs).account = session.account ∧
      (session.clearExpiredChallenge nowMs).openClientOrderIds = session.openClientOrderIds := by
    unfold MmSession.clearExpiredChallenge
    split
    · split_ifs <;> exact ⟨rfl, rfl⟩
    · exact ⟨rfl, rfl⟩
  unfold checkMessageRate MmSession.rollWindow
  dsimp only
  split_ifs <;> exact hclear

/-- **A message keeps track of the session's orders.** -/
theorem Tracks.handleMessage (h : Tracks g)
    (hcareful : DispatchCareful service answers (g.entered service nowMs) message) :
    Tracks (service.handleMessage answers nowMs g message).1 := by
  obtain ⟨haccount, hids⟩ := checkMessageRate_frame g.session service.config nowMs
  unfold MmGatewayService.handleMessage
  unfold Gateway.entered at hcareful
  generalize checkMessageRate (g.session.clearExpiredChallenge nowMs) service.config nowMs = r
    at hcareful haccount hids
  obtain ⟨session, decision⟩ := r
  have hsession : Tracks (g.withSession session) :=
    h.session (fun a ha => haccount.trans ha) hids.ge
  have hentered : Tracks (g.withSession session.incrementInFlight) :=
    h.session (fun a ha => haccount.trans ha) hids.ge
  cases decision with
  | rejected => exact hsession
  | allowed =>
    dsimp only
    split
    · exact hsession
    · split_ifs
      · exact hsession
      · exact (hentered.dispatch hcareful).session (fun a ha => ha) (Finset.Subset.refl _)

/-- **An action keeps track of the session's orders.** -/
theorem Tracks.step (h : Tracks g) {action : SessionAction}
    (hcareful : action.Careful service g) : Tracks (action.run service g) := by
  cases action with
  | message => exact h.handleMessage hcareful
  | others => exact h.elsewhere (Elsewhere.others h.sound hcareful)

/-- **A session that knows its orders cancels them.** -/
theorem Tracks.cancelOnDisconnect (h : Tracks g) (henabled : g.session.cancelOnDisconnect = true)
    (hothers : OthersAllowed g.session.account g.app.engine
      (answers.othersBefore ++ answers.othersBetween)) :
    ∀ o ∈ (service.cancelOnDisconnect answers g).1.app.engine.restingOrders,
      o.orderId ∉ g.submitted := by
  unfold MmGatewayService.cancelOnDisconnect
  rw [if_neg (by simp [henabled])]
  cases haccount : g.session.account with
  | none =>
    intro o ho hmine
    exact absurd (haccount.symm.trans (h.known (restsAs_of_mem ho) hmine).1) (by simp)
  | some account =>
    dsimp only
    split_ifs with hempty
    · intro o ho hmine
      obtain ⟨-, c, -, hopen⟩ := h.known (restsAs_of_mem ho) hmine
      rw [hempty] at hopen
      exact absurd hopen (by simp)
    have hleft := (h.cancelResting service
      ⟨account, none, some g.session.openClientOrderIds⟩
      (fun a ha => some.inj (haccount.symm.trans ha)) hothers).2
    have hgone : ∀ o ∈ (service.cancelResting answers g
        ⟨account, none, some g.session.openClientOrderIds⟩).1.app.engine.restingOrders,
        o.orderId ∉ g.submitted := by
      intro o ho hmine
      obtain ⟨hrested, htakes⟩ := hleft o ho hmine
      obtain ⟨hbound, c, hc, hopen⟩ := h.known hrested hmine
      rw [haccount, some.injEq] at hbound
      simp only [Order.name] at hbound hc
      simp [CancelRestingFilter.takes, hbound, hc, hopen] at htakes
    generalize service.cancelResting answers g _ = out at hgone
    obtain ⟨g₁, r⟩ := out
    cases r <;> exact hgone

end Sessions

/-- **Cancel on disconnect is complete.**  After a session every action of which
was careful, no order of it rests in any book. -/
theorem disconnect_complete (service : MmGatewayService) (markets : List Market)
    (history : List Request) (before : Logged) (nonces : NonceStore) (usedNonces : UsedNonces)
    (session : MmSession) (actions : List SessionAction) (g : Gateway) (answers : CancelAnswers)
    (hbefore : EngineReached markets history before) (hrun : CarefulSession service
      ⟨⟨before.engine, nonces, usedNonces⟩, session, []⟩ actions g)
    (henabled : g.session.cancelOnDisconnect = true)
    (hothers : OthersAllowed g.session.account g.app.engine
      (answers.othersBefore ++ answers.othersBetween)) :
    ∀ o ∈ (service.cancelOnDisconnect answers g).1.app.engine.restingOrders,
      o.orderId ∉ g.submitted := by
  have htracks : Tracks g := by
    refine hrun.invariant (Tracks.start ⟨_, engineInv_of_reached hbefore⟩) ?_
    rintro g action g' h ⟨hcareful, rfl⟩
    exact h.step hcareful
  exact htracks.cancelOnDisconnect henabled hothers

/-! ## Sessions on fixed inputs -/

/-- A gateway with the default settings. -/
def plainGateway (persistent : Bool) : MmGatewayService :=
  { config := MmGatewayConfig.default
    orders :=
      { crypto :=
          { keccak256 := fun _ => []
            isSignature := fun _ => true
            recoverFromPrehash := fun _ _ _ => .error .signatureRecoveryFailed }
        eip712Domain := Eip712Domain.default
        signatureVerificationMode := .disabled
        persistent := persistent } }

/-- A session with cancel on disconnect, over an engine. -/
def plainSession (authMode : AuthMode) (engine : EngineState) : Gateway :=
  ⟨⟨engine, NonceStore.new, []⟩, MmSession.new 0 authMode true, []⟩

variable (uuid : Uuid) (commitFails : Option BackendError)

/-- What a submit draws, and whether it is stored. -/
def plainSubmit : PayloadAnswers :=
  { permission := .ok ()
    othersBeforeCount := []
    submit :=
      { now := 0
        perpNonce := .ok ()
        beginFails := none
        insertFails := none
        others := []
        draws := (plainRequest uuid "" .buy 0 0).draws
        persistFails := none
        commitFails := commitFails } }

/-- A cancel with nothing special about it. -/
def plainCancel : CancelAnswers := ⟨[], [], none⟩

/-- A message with an order of its own id. -/
def plainMessage (message : ClientMessage) : SessionAction :=
  .message ⟨.ok (), fun _ => plainSubmit uuid commitFails, fun _ => plainCancel⟩ 0 message

def plainBid (account clientOrderId price : String) (nonce : Nat) : ClientMessage :=
  .submitOrder
    { marketId := 1, account := ⟨account⟩, side := .buy, price1e8 := price, size1e8 := "1",
      timeInForce := .gtc, reduceOnly := false, postOnly := false,
      clientOrderId := some clientOrderId, nonce := nonce, deadlineMs := 1,
      signature := "0x" ++
        "00000000000000000000000000000000000000000000000000000000000000000" ++
        "00000000000000000000000000000000000000000000000000000000000000000" }

/-- A session that sends one bid, while another account offers at a higher price. -/
def oneBid : List SessionAction :=
  [plainMessage 1 none (plainBid "0xa" "first" "5" 1),
    .others [plainRequest 2 "0xb" .sell 9 1]]

/-- The bid is cancelled when the session ends; the offer is not. -/
theorem disconnect_complete_one_bid : ∃ g, CarefulSession (plainGateway false)
        (plainSession .disabled withDefaultMarkets) oneBid g ∧
      g.submitted = [⟨1⟩] ∧ g.app.engine.restingOrders.map Order.orderId = [⟨1⟩, ⟨2⟩] ∧
      ∀ o ∈ ((plainGateway false).cancelOnDisconnect plainCancel g).1.app.engine.restingOrders,
        o.orderId ∉ g.submitted := by
  have hbid : SessionAction.Careful (plainGateway false)
      (plainSession .disabled withDefaultMarkets)
      (plainMessage 1 none (plainBid "0xa" "first" "5" 1)) := by
    intro _
    refine ⟨by decide +kernel, trivial, by decide +kernel, by decide +kernel, ?_⟩
    exact fun h => absurd h (by decide)
  have hoffer : SessionAction.Careful (plainGateway false)
      (SessionAction.run (plainGateway false)
        (plainSession .disabled withDefaultMarkets)
        (plainMessage 1 none (plainBid "0xa" "first" "5" 1)))
      (.others [plainRequest 2 "0xb" .sell 9 1]) := by
    refine ⟨⟨by decide +kernel, ?_⟩, trivial⟩
    rintro order ⟨⟩
    decide +kernel
  have hfirst : CarefulSession (plainGateway false)
      (plainSession .disabled withDefaultMarkets)
      [plainMessage 1 none (plainBid "0xa" "first" "5" 1)] _ := Run.start.snoc ⟨hbid, rfl⟩
  have hrun := hfirst.snoc ⟨hoffer, rfl⟩
  refine ⟨_, hrun, by decide +kernel, by decide +kernel, ?_⟩
  exact disconnect_complete _ _ [] _ _ _ _ _ _ plainCancel Run.start hrun (by decide +kernel)
    trivial

/-- An order of the session rests although the session has ended. -/
def LeftBehind (service : MmGatewayService) (g : Gateway) (actions : List SessionAction) : Prop :=
  ∃ g', Run (stepOf (SessionAction.run service) fun _ _ => True) g actions g' ∧
    g'.session.cancelOnDisconnect = true ∧
    ∃ o ∈ (service.cancelOnDisconnect plainCancel g').1.app.engine.restingOrders,
      o.orderId ∈ g'.submitted

theorem leftBehind_of_foldl {service : MmGatewayService}
    (h : (actions.foldl (SessionAction.run service) g).session.cancelOnDisconnect = true ∧
      ∃ o ∈ (service.cancelOnDisconnect plainCancel
          (actions.foldl (SessionAction.run service) g)).1.app.engine.restingOrders,
        o.orderId ∈ (actions.foldl (SessionAction.run service) g).submitted) :
    LeftBehind service g actions :=
  ⟨_, Run.of_foldl g fun _ _ _ => trivial, h⟩

/-- **A session can leave orders behind**: one that spells its account in two ways,
one that uses a client id twice and cancels one of the orders, one whose order is
not stored, one that cancels an order without a client id and gives the client id
of another, and one that never learns its account. -/
theorem disconnect_leaves_orders :
    LeftBehind (plainGateway false) (plainSession .disabled withDefaultMarkets)
      [plainMessage 1 none (plainBid "0xa" "first" "5" 1),
        plainMessage 2 none (plainBid "0xA" "second" "5" 1)] ∧
    LeftBehind (plainGateway false) (plainSession .disabled withDefaultMarkets)
      [plainMessage 1 none (plainBid "0xa" "quote" "5" 1),
        plainMessage 2 none (plainBid "0xa" "quote" "4" 2),
        plainMessage 3 none (.cancelOrder ⟨none, none, some ⟨1⟩, none⟩)] ∧
    LeftBehind (plainGateway true) (plainSession .disabled withDefaultMarkets)
      [plainMessage 1 (some (.persistence "commit")) (plainBid "0xa" "first" "5" 1)] ∧
    LeftBehind (plainGateway false) (plainSession .disabled (withDefaultMarkets.others
        [plainRequest 9 "0xa" .buy 3 1]))
      [plainMessage 1 none (plainBid "0xa" "first" "5" 1),
        plainMessage 2 none (.cancelOrder ⟨none, none, some ⟨9⟩, some "first"⟩)] ∧
    LeftBehind (plainGateway false) (plainSession .walletChallenge withDefaultMarkets)
      [plainMessage 1 none (plainBid "0xa" "first" "5" 1)] := by
  refine ⟨leftBehind_of_foldl ?_, leftBehind_of_foldl ?_, leftBehind_of_foldl ?_,
    leftBehind_of_foldl ?_, leftBehind_of_foldl ?_⟩ <;> decide +kernel

end DeoptBackend
