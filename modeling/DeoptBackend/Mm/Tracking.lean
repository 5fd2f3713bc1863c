import DeoptBackend.Lib.Act
import DeoptBackend.Engine.Resting
import DeoptBackend.Mm.Service

/-!
# What a session knows of its orders

The orders of a session are in the books, under the account string each was sent
with; the session itself keeps only its account and a set of client ids.

* `Tracks` — the session knows its orders: each that rests is filed under the
  session's account and a registered client id, and no other order of the account
  rests under that id.
* `Elsewhere` — what others do to the engine, seen from the session.
* `Tracks.submitPayload`, `Tracks.cancelPayload`, `Tracks.cancelResting` — the
  three ways a session touches the books keep it, if the order or cancel is sent
  carefully: under the session's own spelling of the account and a client id no
  resting order of the account has, and stored once the engine took it in; and a
  cancel by order id that also gives a client id names an order that has one.
-/

namespace DeoptBackend

open EngineState List OrderService

/-! ## What others may do -/

/-- Others send fresh orders, under other accounts than the session's. -/
def OthersAllowed (account : Option AccountId) : EngineState → List Request → Prop
  | _, [] => True
  | engine, q :: qs =>
    (engine.Admits q.draws q.command ∧
      ∀ order, q.command = .submitOrder order → account ≠ some order.account) ∧
    OthersAllowed account (engine.process q.draws q.command).1 qs

def EngineState.Sound (engine : EngineState) : Prop := ∃ events, EngineInv engine events

/-- What one party sees of the steps of others: the engine stays sound, rows
stay, and what rests rested before or is new and somebody else's. -/
structure Elsewhere (account : Option AccountId) (e e' : EngineState) : Prop where
  sound : e'.Sound
  /-- Rows stay. -/
  recorded : ∀ id, e.Recorded id → e'.Recorded id
  /-- What rests rested before, or is new and somebody else's. -/
  resting : ∀ {name}, e'.RestsAs name →
    e.RestsAs name ∨ (e.Unrecorded name.orderId ∧ account ≠ some name.account)

namespace Elsewhere

variable {account : Option AccountId}

theorem refl (h : e.Sound) : Elsewhere account e e :=
  ⟨h, fun _ => id, .inl⟩

theorem trans (h : Elsewhere account e e') (h' : Elsewhere account e' e'') :
    Elsewhere account e e'' where
  sound := h'.sound
  recorded := fun id hid => h'.recorded id (h.recorded id hid)
  resting := by
    intro name hname
    rcases h'.resting hname with hname | ⟨hnew, haccount⟩
    · exact h.resting hname
    · refine .inr ⟨not_recorded_iff.1 fun hrec => ?_, haccount⟩
      exact not_recorded_iff.2 hnew (h.recorded _ hrec)

/-- One request of somebody else. -/
theorem process (h : e.Sound) {q : Request} (hnew : e.Admits q.draws q.command)
    (haccount : ∀ order, q.command = .submitOrder order → account ≠ some order.account) :
    Elsewhere account e (e.process q.draws q.command).1 := by
  obtain ⟨events, hinv⟩ := h
  refine ⟨⟨_, (hinv.process hnew).1⟩, fun id hid => hinv.recorded_process hnew hid, ?_⟩
  rintro _ ⟨o, ho, rfl⟩
  obtain ⟨draws, command⟩ := q
  cases command with
  | submitOrder order =>
    rcases hinv.resting_submitOrder hnew ho with ⟨-, hold⟩ | ⟨hname, -⟩
    · exact .inl hold
    · rw [hname]
      exact .inr ⟨hnew, haccount order rfl⟩
  | cancelOrder id => exact .inl (restsAs_of_mem ((hinv.resting_cancelOrder id).2 o ho).2)
  | replaceOrder => exact .inl (restsAs_of_mem ho)

/-- **Any requests of others.** -/
theorem others (h : e.Sound) {requests : List Request} (hallowed : OthersAllowed account e requests) :
    Elsewhere account e (e.others requests) := by
  induction requests generalizing e with
  | nil => exact refl h
  | cons q qs ih =>
    obtain ⟨⟨hnew, haccount⟩, hrest⟩ := hallowed
    have hone := process h hnew haccount
    exact hone.trans (ih hone.sound hrest)

/-- A cancel, whoever sends it. -/
theorem cancelOrder (h : e.Sound) (id : OrderId) : Elsewhere account e (e.cancelOrder id).1 := by
  obtain ⟨events, hinv⟩ := h
  exact ⟨⟨_, (hinv.cancelOrder id).1⟩, fun j hj => hinv.recorded_cancelOrder id hj,
    fun ⟨o, ho, hname⟩ => .inl ⟨o, ((hinv.resting_cancelOrder id).2 o ho).2, hname⟩⟩

end Elsewhere

/-! ## What the session knows -/

/-- The session knows its orders. -/
structure Tracks (g : Gateway) : Prop where
  sound : g.app.engine.Sound
  /-- The orders of the session have rows. -/
  recorded : ∀ id ∈ g.submitted, g.app.engine.Recorded id
  /-- Each that rests is under the session's account and a registered id. -/
  known : ∀ {name}, g.app.engine.RestsAs name → name.orderId ∈ g.submitted →
    g.session.account = some name.account ∧
      ∃ c, name.clientOrderId = some c ∧ c ∈ g.session.openClientOrderIds
  alone : ∀ {name name'}, g.app.engine.RestsAs name → name.orderId ∈ g.submitted →
    g.app.engine.RestsAs name' → name'.account = name.account →
      name'.clientOrderId = name.clientOrderId → name'.orderId = name.orderId

/-- No order of the session rests under a client id. -/
def Gateway.Free (g : Gateway) (c : String) : Prop :=
  ∀ {name}, g.app.engine.RestsAs name → name.orderId ∈ g.submitted → name.clientOrderId ≠ some c

namespace Tracks

theorem start (h : engine.Sound) : Tracks ⟨⟨engine, nonces, usedNonces⟩, session, []⟩ :=
  ⟨h, by simp, by simp, by simp⟩

/-- An order of the session that rests after others have acted rested before. -/
theorem rested (h : Tracks g) {e' : EngineState}
    (hstep : Elsewhere g.session.account g.app.engine e') (hname : e'.RestsAs name)
    (hmine : name.orderId ∈ g.submitted) : g.app.engine.RestsAs name := by
  rcases hstep.resting hname with hold | ⟨hnew, -⟩
  · exact hold
  · exact absurd (h.recorded _ hmine) (not_recorded_iff.2 hnew)

/-- Others act on the engine. -/
theorem elsewhere (h : Tracks g) {app : OrderState}
    (hstep : Elsewhere g.session.account g.app.engine app.engine) : Tracks (g.withApp app) := by
  refine ⟨hstep.sound, fun id hid => hstep.recorded id (h.recorded id hid), ?_, ?_⟩
  · intro name hname hmine
    exact h.known (h.rested hstep hname hmine) hmine
  intro name name' hname hmine hname' haccount hclient
  have hname := h.rested hstep hname hmine
  rcases hstep.resting hname' with hname' | ⟨-, hother⟩
  · exact h.alone hname hmine hname' haccount hclient
  · rw [haccount] at hother
    exact absurd (h.known hname hmine).1 hother

/-- The session learns its account, or registers more. -/
theorem session (h : Tracks g) {session : MmSession}
    (haccount : ∀ a, g.session.account = some a → session.account = some a)
    (hids : g.session.openClientOrderIds ⊆ session.openClientOrderIds) :
    Tracks (g.withSession session) := by
  refine ⟨h.sound, h.recorded, ?_, h.alone⟩
  intro name hname hmine
  obtain ⟨hbound, c, hc, hopen⟩ := h.known hname hmine
  exact ⟨haccount _ hbound, c, hc, hids hopen⟩

/-- An id is unregistered that no order of the session rests under. -/
theorem unregister (h : Tracks g) (hfree : g.Free c) : Tracks (g.unregister c) := by
  refine ⟨h.sound, h.recorded, ?_, h.alone⟩
  intro name hname hmine
  obtain ⟨hbound, c', hc', hopen⟩ := h.known hname hmine
  refine ⟨hbound, c', hc', Finset.mem_erase.mpr ⟨?_, hopen⟩⟩
  rintro rfl
  exact hfree hname hmine hc'

theorem unregisterAll {cancelled : List CancelOrderOutcome} (h : Tracks g)
    (hfree : ∀ cancel ∈ cancelled, ∀ c, cancel.clientOrderId = some c → g.Free c) :
    Tracks (g.unregisterAll cancelled) := by
  induction cancelled generalizing g with
  | nil => exact h
  | cons cancel cancelled ih =>
    obtain ⟨hhead, htail⟩ := forall_mem_cons.1 hfree
    rw [Gateway.unregisterAll, foldl_cons]
    cases hc : cancel.clientOrderId with
    | none => exact ih h htail
    | some c => exact ih (h.unregister (hhead c hc)) htail

end Tracks

/-! ## Orders -/

def PayloadAnswers.matchedIn (answers : PayloadAnswers) (g : Gateway) : EngineState :=
  (g.app.engine.others answers.othersBeforeCount).others answers.submit.others

/-- An order is sent carefully, by a session that is to take it. -/
structure SubmitCareful (service : MmGatewayService) (answers : PayloadAnswers) (g : Gateway)
    (payload : SubmitOrderPayload) : Prop where
  /-- It is under the session's own spelling of the account. -/
  spelling : g.session.account = some payload.account
  others : OthersAllowed g.session.account g.app.engine
    (answers.othersBeforeCount ++ answers.submit.others)
  fresh : (answers.matchedIn g).Unrecorded answers.submit.draws.orderId
  unused : ∀ o ∈ (answers.matchedIn g).restingOrders, o.account = payload.account →
    o.clientOrderId ≠ payload.clientOrderId
  /-- Once the engine has run, the database does not fail. -/
  stored : service.orders.persistent = true →
    answers.submit.persistFails = none ∧ answers.submit.commitFails = none

/-- An order is sent carefully, if the session takes it. -/
def PayloadCareful (service : MmGatewayService) (answers : PayloadAnswers) (g : Gateway)
    (payload : SubmitOrderPayload) : Prop :=
  (sessionAccount g.session (some payload.account)).2 ≠ none → SubmitCareful service answers
      (g.withSession (sessionAccount g.session (some payload.account)).1) payload

theorem othersAllowed_append {account : Option AccountId} {engine : EngineState} :
    OthersAllowed account engine (qs ++ rs) ↔
      OthersAllowed account engine qs ∧ OthersAllowed account (engine.others qs) rs := by
  induction qs generalizing engine with
  | nil => simp [OthersAllowed, EngineState.others]
  | cons q qs ih =>
    rw [cons_append, OthersAllowed, OthersAllowed, ih]
    exact and_assoc.symm

variable (session : MmSession) (account : Option AccountId)

/-- What `session_account` does: the registered ids and a known account stay, and the
answer is the account the session is known by, if it is. -/
theorem sessionAccount_spec :
    (sessionAccount session account).1.openClientOrderIds = session.openClientOrderIds ∧
    (∀ a, session.account = some a → (sessionAccount session account).1.account = some a) ∧
    ∀ answer, (sessionAccount session account).2 = some answer →
      ∀ a, (sessionAccount session account).1.account = some a → answer = a := by
  unfold sessionAccount
  cases hs : session.account with
  | none =>
    cases account with
    | none => simp [hs]
    | some => split_ifs <;> simp [hs, MmSession.bindAccount]
  | some bound =>
    cases account with
    | none => simp [hs]
    | some =>
      dsimp only
      split_ifs <;> simp [hs]

theorem Tracks.bind (h : Tracks g) (account : Option AccountId) :
    Tracks (g.withSession (sessionAccount g.session account).1) := by
  obtain ⟨hids, haccount, -⟩ := sessionAccount_spec g.session account
  exact h.session haccount hids.ge

section Submit

variable {service : MmGatewayService} {g : Gateway} {order : SignedOrder}

theorem orderRejected_not_mem_submitEvents (result : OrderSubmitResult) (id : OrderId)
    (reason : String) : EngineEvent.orderRejected id reason ∉ submitEvents draws result := by
  have hpush : ∀ o, EngineEvent.orderRejected id reason ∉ pushOrderFillEvent o := by
    intro o
    unfold pushOrderFillEvent
    split <;> simp
  intro h
  simp only [submitEvents, mem_cons, reduceCtorEq, mem_append, mem_flatMap, false_or] at h
  rcases h with (⟨o, -, h⟩ | h) | h
  · exact hpush o h
  · exact hpush _ h
  · obtain ⟨es, hes, hmem⟩ := mem_flatten.mp h
    obtain ⟨i, hi, rfl⟩ := mem_mapIdx.mp hes
    simp at hmem

theorem outcome_of_resting (clientOrderId : Option String) (hpos : 0 < o.remainingSize1e8)
    (hresult : result.order = o) :
    (outcomeFromEvents clientOrderId (submitEvents draws result)).status = "accepted" ∧
      (outcomeFromEvents clientOrderId (submitEvents draws result)).resting = true := by
  constructor
  · refine if_neg ?_
    rw [any_eq_true]
    rintro ⟨event, hmem, hevent⟩
    cases event with
    | orderRejected id reason => exact orderRejected_not_mem_submitEvents result id reason hmem
    | _ => cases hevent
  · refine any_eq_true.mpr ⟨.orderAccepted result.order, mem_cons_self, ?_⟩
    simpa [hresult] using hpos

/-- What a call of the order service may come to: nothing happens to the engine
and there is an error, or the order is matched and the outcome is reported. -/
def RefusedOrMatched (answers : SubmitAnswers) (state : OrderState) (order : SignedOrder)
    (events : List EngineEvent) (r : OrderState × Outcome SubmitOrderOutcome) : Prop :=
  (r.1.engine = state.engine ∧ ∃ e, r.2 = .err e) ∨
    (r.1.engine = ((state.engine.others answers.others).process answers.draws
        (.submitOrder order.toNewOrder)).1 ∧
      r.2 = .ok (outcomeFromEvents order.clientOrderId events))

section Call

variable {answers : SubmitAnswers} {state : OrderState}

section

variable (hevents : ((state.engine.others answers.others).process answers.draws
  (.submitOrder order.toNewOrder)).2 = .ok events)
include hevents

section

variable (hpersist : answers.persistFails = none) (hcommit : answers.commitFails = none)
include hpersist hcommit

theorem submitHeld_spec :
    RefusedOrMatched answers state order events (submitHeld answers state order) := by
  refine .inr ?_
  simp only [submitHeld, OrderService.matchOrder, hevents, hpersist, hcommit]
  exact ⟨trivial, trivial⟩

theorem submitOrderPersistent_spec : RefusedOrMatched answers state order events
      (submitOrderPersistent answers state order) := by
  unfold submitOrderPersistent
  split
  · exact .inl ⟨rfl, _, rfl⟩
  split
  · exact .inl ⟨rfl, _, rfl⟩
  split
  · exact .inl ⟨rfl, _, rfl⟩
  · split
    · exact .inl ⟨rfl, _, rfl⟩
    · exact submitHeld_spec hevents hpersist hcommit

end

theorem submitInMemory_spec : RefusedOrMatched answers state order events
      (submitInMemory answers state order) := by
  unfold submitInMemory
  split
  · exact .inl ⟨rfl, _, rfl⟩
  · refine .inr ?_
    simp only [OrderService.matchOrder, hevents]
    exact ⟨trivial, trivial⟩

end

/-- **What a call of the order service does**, if the database does not fail once
the engine has run. -/
theorem submitSignedOrder_spec (orders : OrderService) (state : OrderState)
    (hevents : ((state.engine.others answers.others).process answers.draws
      (.submitOrder order.toNewOrder)).2 = .ok events)
    (hstored : orders.persistent = true →
      answers.persistFails = none ∧ answers.commitFails = none) :
    RefusedOrMatched answers state order events (orders.submitSignedOrder answers state order) := by
  unfold submitSignedOrder
  split
  · exact .inl ⟨rfl, _, rfl⟩
  split
  · rename_i hpersistent
    obtain ⟨hpersist, hcommit⟩ := hstored hpersistent
    exact submitOrderPersistent_spec hevents hpersist hcommit
  · exact submitInMemory_spec hevents

end Call

/-- **An order is matched.**  The session knows it afterwards, if it registers the
client id of an order that rests. -/
theorem Tracks.matched (h : Tracks g) {session : MmSession}
    (haccount : g.session.account = some order.account) (hclient : order.clientOrderId = some c)
    (hfresh : g.app.engine.Unrecorded draws.orderId)
    (hunused : ∀ {name}, g.app.engine.RestsAs name → name.account = order.account →
      name.clientOrderId ≠ order.clientOrderId)
    (happ : app.engine = (g.app.engine.process draws (.submitOrder order.toNewOrder)).1)
    (hbound : session.account = g.session.account)
    (hids : g.session.openClientOrderIds ⊆ session.openClientOrderIds)
    (hregistered : ∀ o ∈ app.engine.restingOrders, o.orderId = draws.orderId →
      c ∈ session.openClientOrderIds) :
    Tracks (((g.withApp app).note draws.orderId).withSession session) := by
  obtain ⟨events, hinv⟩ := h.sound
  have hsubmitted : ∀ id ∈ ((g.withApp app).note draws.orderId).submitted,
      (id = draws.orderId ∧ app.engine.Recorded id) ∨ id ∈ g.submitted := by
    intro id hid
    unfold Gateway.note at hid
    split_ifs at hid with hsome
    · rcases mem_cons.mp hid with rfl | hid
      · exact .inl ⟨rfl, recorded_of_order hsome⟩
      · exact .inr hid
    · exact .inr hid
  -- what rests is an old order, or the new one
  have hcases : ∀ {name}, app.engine.RestsAs name →
      (g.app.engine.RestsAs name ∧ (name.orderId ∈ ((g.withApp app).note draws.orderId).submitted →
        name.orderId ∈ g.submitted)) ∨
      (name = ⟨draws.orderId, order.account, order.clientOrderId, order.marketId⟩ ∧
        c ∈ session.openClientOrderIds) := by
    rintro _ ⟨o, ho, rfl⟩
    have hnamed := hregistered o ho
    rw [happ] at ho
    rcases hinv.resting_submitOrder hfresh ho with ⟨hne, hold⟩ | ⟨hname, -⟩
    · exact .inl ⟨hold, fun hmine => (hsubmitted _ hmine).resolve_left fun heq => hne heq.1⟩
    · exact .inr ⟨hname, hnamed (congrArg OrderName.orderId hname)⟩
  have happ' : (((g.withApp app).note draws.orderId).withSession session).app = app := by
    unfold Gateway.note
    split_ifs <;> rfl
  refine ⟨?_, ?_, ?_, ?_⟩
  · rw [happ', happ]
    exact ⟨_, (hinv.submitOrder order.toNewOrder hfresh).1⟩
  · intro id hid
    rw [happ']
    rcases hsubmitted id hid with ⟨-, hrec⟩ | hid
    · exact hrec
    · rw [happ]
      exact hinv.recorded_submitOrder hfresh (h.recorded id hid)
  · intro name hname hmine
    rw [happ'] at hname
    rcases hcases hname with ⟨hname, hold⟩ | ⟨rfl, hopen⟩
    · obtain ⟨hbnd, c', hc', hopen⟩ := h.known hname (hold hmine)
      exact ⟨hbound.trans hbnd, c', hc', hids hopen⟩
    · exact ⟨hbound.trans haccount, c, hclient, hopen⟩
  · intro name name' hname hmine hname' hacc hcli
    rw [happ'] at hname hname'
    rcases hcases hname with ⟨hname, hold⟩ | ⟨rfl, -⟩ <;>
      rcases hcases hname' with ⟨hname', -⟩ | ⟨rfl, -⟩
    · exact h.alone hname (hold hmine) hname' hacc hcli
    · exact absurd hcli.symm (hunused hname hacc.symm)
    · exact absurd hcli (hunused hname' hacc)
    · rfl

theorem Gateway.session_note (g : Gateway) (id : OrderId) : (g.note id).session = g.session := by
  unfold note
  split_ifs <;> rfl

theorem Gateway.note_of_unrecorded {id : OrderId} (h : g.app.engine.Unrecorded id) :
    g.note id = g := by
  unfold note
  rw [if_neg]
  exact fun hsome => not_recorded_iff.2 h (recorded_of_order hsome)

/-- An order that rests under the id of the submit was reported so. -/
theorem outcome_of_matched {e : EngineState} (hsound : e.Sound)
    (hfresh : e.Unrecorded draws.orderId)
    (hevents : (e.process draws (.submitOrder order.toNewOrder)).2 = .ok events)
    (ho : o ∈ (e.process draws (.submitOrder order.toNewOrder)).1.restingOrders)
    (hid : o.orderId = draws.orderId) :
    (outcomeFromEvents order.clientOrderId events).status = "accepted" ∧
      (outcomeFromEvents order.clientOrderId events).resting = true := by
  obtain ⟨_, hinv⟩ := hsound
  rcases hinv.resting_submitOrder hfresh ho with ⟨hne, -⟩ | ⟨-, hpos, result, hresult, heq⟩
  · exact absurd hid hne
  · obtain rfl := Outcome.ok.inj (hevents.symm.trans heq)
    exact outcome_of_resting _ hpos hresult

/-- The order service is called. -/
theorem Tracks.submitSigned (h : Tracks g) {answers : SubmitAnswers}
    (haccount : g.session.account = some order.account) (hclient : order.clientOrderId = some c)
    (hothers : OthersAllowed g.session.account g.app.engine answers.others)
    (hfresh : (g.app.engine.others answers.others).Unrecorded answers.draws.orderId)
    (hunused : ∀ o ∈ (g.app.engine.others answers.others).restingOrders,
      o.account = order.account → o.clientOrderId ≠ order.clientOrderId)
    (hstored : service.orders.persistent = true →
      answers.persistFails = none ∧ answers.commitFails = none) :
    Tracks (service.submitSigned answers g order).1 := by
  have helse := Elsewhere.others h.sound hothers
  have h₂ : Tracks (g.others answers.others) := h.elsewhere helse
  obtain ⟨_, hinv⟩ := helse.sound
  obtain ⟨-, events, hevents⟩ := hinv.submitOrder order.toNewOrder hfresh
  have hspec := submitSignedOrder_spec service.orders g.app hevents hstored
  unfold MmGatewayService.submitSigned
  generalize service.orders.submitSignedOrder answers g.app order = r at hspec
  obtain ⟨app, out⟩ := r
  rcases hspec with ⟨happ, e, rfl⟩ | ⟨happ, rfl⟩
  · -- the engine was not run, so there is nothing to note
    have hunrecorded : g.app.engine.Unrecorded answers.draws.orderId :=
      not_recorded_iff.1 fun hrec =>
        not_recorded_iff.2 hfresh (helse.recorded _ hrec)
    have happ' : app.engine = g.app.engine := happ
    dsimp only
    rw [Gateway.note_of_unrecorded (happ'.symm ▸ hunrecorded)]
    exact h.elsewhere (happ'.symm ▸ Elsewhere.refl h.sound)
  have hmatched : ∀ session : MmSession, session.account = g.session.account →
      g.session.openClientOrderIds ⊆ session.openClientOrderIds →
      ((outcomeFromEvents order.clientOrderId events).status = "accepted" →
        (outcomeFromEvents order.clientOrderId events).resting = true →
        c ∈ session.openClientOrderIds) →
      Tracks (((g.withApp app).note answers.draws.orderId).withSession session) := by
    intro session hbound hids hregistered
    refine h₂.matched haccount hclient hfresh ?_ happ hbound hids fun o ho hid => ?_
    · rintro _ ⟨o, ho, rfl⟩
      exact hunused o ho
    rw [happ] at ho
    obtain ⟨hstatus, hresting⟩ := outcome_of_matched helse.sound hfresh hevents ho hid
    exact hregistered hstatus hresting
  have hsame : ∀ hnot : ¬ ((outcomeFromEvents order.clientOrderId events).status = "accepted" ∧
      (outcomeFromEvents order.clientOrderId events).resting = true),
      Tracks ((g.withApp app).note answers.draws.orderId) := by
    intro hnot
    have hsession := Gateway.session_note (g.withApp app) answers.draws.orderId
    exact hmatched _ (congrArg MmSession.account hsession)
      (congrArg MmSession.openClientOrderIds hsession).ge
      fun hstatus hresting => absurd ⟨hstatus, hresting⟩ hnot
  dsimp only
  split_ifs with hstatus hresting
  · exact hsame fun hboth => hstatus hboth.1
  · have hcid : (outcomeFromEvents order.clientOrderId events).clientOrderId = some c := hclient
    rw [hcid]
    refine hmatched _ ?_ ?_ fun _ _ => Finset.mem_insert_self _ _
    · rw [Gateway.session_note]
      rfl
    · rw [Gateway.session_note]
      exact Finset.subset_insert _ _
  · exact hsame fun hboth => hresting hboth.2

theorem signedOrderFromSubmit_ok (h : signedOrderFromSubmit payload = .ok order) :
    order.account = payload.account ∧ order.clientOrderId = payload.clientOrderId := by
  obtain ⟨_, -, h⟩ := Except.bind_eq_ok.1 h
  obtain ⟨_, -, h⟩ := Except.bind_eq_ok.1 h
  cases h
  exact ⟨rfl, rfl⟩

theorem Tracks.submitChecked (h : Tracks g) {answers : PayloadAnswers}
    (hcareful : SubmitCareful service answers g payload) :
    Tracks (service.submitChecked answers g payload).1 := by
  obtain ⟨hbefore, hafter⟩ := othersAllowed_append.mp hcareful.others
  have h₁ : Tracks (g.others answers.othersBeforeCount) :=
    h.elsewhere (Elsewhere.others h.sound hbefore)
  unfold MmGatewayService.submitChecked
  split_ifs with hempty
  · exact h
  split
  · exact h
  dsimp only
  split
  · exact h₁
  split
  · exact h₁
  rename_i order horder
  obtain ⟨haccount, hclient⟩ := signedOrderFromSubmit_ok horder
  obtain ⟨c, hc⟩ : ∃ c, payload.clientOrderId = some c := by
    cases hnone : payload.clientOrderId with
    | none => simp [hnone] at hempty
    | some c => exact ⟨c, rfl⟩
  refine h₁.submitSigned ?_ (hclient.trans hc) hafter hcareful.fresh ?_ hcareful.stored
  · exact hcareful.spelling.trans (congrArg some haccount.symm)
  · rw [haccount, hclient]
    exact hcareful.unused

/-- **An order is sent.** -/
theorem Tracks.submitPayload (h : Tracks g) (hcareful : PayloadCareful service answers g payload) :
    Tracks (service.submitPayload answers g payload).1 := by
  have hsession := h.bind (some payload.account)
  unfold PayloadCareful at hcareful
  unfold MmGatewayService.submitPayload
  generalize sessionAccount g.session (some payload.account) = r at hcareful hsession
  obtain ⟨session, _ | account⟩ := r
  · exact hsession
  · exact hsession.submitChecked (hcareful (by simp))

end Submit

/-! ## Cancels -/

structure CancelCareful (answers : CancelAnswers) (g : Gateway) (payload : CancelOrderPayload) :
    Prop where
  others : OthersAllowed g.session.account g.app.engine
    (answers.othersBefore ++ answers.othersBetween)
  named : ∀ id c o, payload.orderId = some id → payload.clientOrderId = some c →
    (g.app.engine.others answers.othersBefore).order id = some o → o.clientOrderId ≠ none

section Cancel

variable {service : MmGatewayService}

theorem EngineState.Sound.order_of_resting {e : EngineState} (h : e.Sound)
    (ho : o ∈ e.restingOrders) : e.order o.orderId = some o := by
  obtain ⟨_, hinv⟩ := h
  obtain ⟨m, b, hb, hob⟩ := mem_restingOrders.mp ho
  have hrow := (hinv.orderId_of_mem hb hob).2
  rw [EngineState.order, hinv.bookOf_of_resting hb hrow]
  exact hrow

variable {input : CancelOrderInput} {account : AccountId}

theorem validateCancelOwnership_ok {order : Order} (haccount : input.account = some account)
    (h : validateCancelOwnership order input = .ok ()) : order.account = account := by
  by_contra hne
  simp [validateCancelOwnership, haccount, hne, bind, Except.bind] at h

/-- The order a cancel is resolved to is the account's, and if it was asked for by
its client id it has that id. -/
theorem resolveCancelOrderId_ok {e : EngineState} (hsound : e.Sound) {id : OrderId}
    (haccount : input.account = some account) (h : resolveCancelOrderId e input = .ok id) :
    ∃ o, e.order id = some o ∧ o.account = account ∧ (input.orderId = some id ∨
        (input.orderId = none ∧ input.clientOrderId ≠ none ∧
          o.clientOrderId = input.clientOrderId)) := by
  unfold resolveCancelOrderId at h
  split at h
  · rename_i orderId horderId
    split at h
    · cases h
    rename_i o ho
    obtain ⟨_, hvalid, hid⟩ := Except.bind_eq_ok.1 h
    cases hid
    exact ⟨o, ho, validateCancelOwnership_ok haccount hvalid, .inl horderId⟩
  rename_i hnone
  split at h
  · cases h
  rename_i clientOrderId hclient
  split at h
  · cases h
  rename_i o hfind
  obtain ⟨_, hvalid, hid⟩ := Except.bind_eq_ok.1 h
  cases hid
  have hnames := find?_some hfind
  simp only [CancelOrderInput.names, Bool.and_eq_true, decide_eq_true_eq] at hnames
  refine ⟨o, hsound.order_of_resting (mem_of_find?_eq_some hfind),
    validateCancelOwnership_ok haccount hvalid, .inr ⟨hnone, by simp [hclient], ?_⟩⟩
  rw [hclient]
  exact hnames.1.1

theorem cancelledClientOrderId_cancelled (o : Order) :
    cancelledClientOrderId [.orderCancelled ((o.withStatus .cancelled).withRemaining 0)] =
      o.clientOrderId := by
  cases h : o.clientOrderId <;> simp [cancelledClientOrderId, h]

/-- When an order of the account is cancelled, no other order of the session rests
under its client id. -/
theorem Tracks.free_of_cancelled (h : Tracks g) (ho : o ∈ g.app.engine.restingOrders)
    (haccount : ∀ a, g.session.account = some a → o.account = a) (hc : o.clientOrderId = some c)
    (hname : g.app.engine.RestsAs name) (hmine : name.orderId ∈ g.submitted)
    (hne : name.orderId ≠ o.orderId) : name.clientOrderId ≠ some c := by
  intro hpc
  have hbound := (h.known hname hmine).1
  exact hne (h.alone hname hmine (restsAs_of_mem ho) (haccount _ hbound)
    (hc.trans hpc.symm)).symm

/-- An order that rests after others have acted is the one its id was resolved
to. -/
theorem Elsewhere.resolved {account : Option AccountId} {e e' : EngineState}
    (h : Elsewhere account e e') (hsound : e.Sound) {id : OrderId} (ho : e.order id = some o)
    (ho' : o' ∈ e'.restingOrders) (hid : o'.orderId = id) : o.name = o'.name := by
  have hrec : e.Recorded id := recorded_of_order (by rw [ho]; rfl)
  rcases h.resting (restsAs_of_mem ho') with ⟨o₀, ho₀, hname⟩ | ⟨hnew, -⟩
  · have hid₀ : o₀.orderId = id := (congrArg OrderName.orderId hname).trans hid
    have hrow := hsound.order_of_resting ho₀
    rw [hid₀] at hrow
    cases ho.symm.trans hrow
    exact hname
  · exact absurd hrec (not_recorded_iff.2 (hid ▸ hnew))

/-- **The order service's cancel.**  The session still knows its orders, and if the
cancel succeeds none of them rests under the client id it reports. -/
theorem Tracks.cancelOrder (h : Tracks g) (orders : OrderService)
    (haccount : ∀ a, g.session.account = some a → account = a)
    (hinput : input.account = some account) (hcareful : CancelCareful answers g input) :
    Tracks (g.withApp (orders.cancelOrder answers g.app input).1) ∧
    ∀ outcome c, (orders.cancelOrder answers g.app input).2 = .ok outcome →
      outcome.clientOrderId = some c →
      (g.withApp (orders.cancelOrder answers g.app input).1).Free c := by
  obtain ⟨hbefore, hbetween⟩ := othersAllowed_append.mp hcareful.others
  have helse₁ := Elsewhere.others h.sound hbefore
  have helse₂ := Elsewhere.others helse₁.sound hbetween
  have h₂ : Tracks (g.withApp { g.app with
      engine := (g.app.engine.others answers.othersBefore).others answers.othersBetween }) :=
    h.elsewhere (helse₁.trans helse₂)
  unfold OrderService.cancelOrder
  dsimp only
  cases hresolve : resolveCancelOrderId (g.app.engine.others answers.othersBefore) input with
  | error => exact ⟨h.elsewhere helse₁, fun _ _ hok => by cases hok⟩
  | ok id =>
    obtain ⟨o₁, ho₁, hown, hhow⟩ := resolveCancelOrderId_ok helse₁.sound hinput hresolve
    have hkept : Tracks (g.withApp { g.app with
        engine := (((g.app.engine.others answers.othersBefore).others
          answers.othersBetween).cancelOrder id).1 }) :=
      h₂.elsewhere (Elsewhere.cancelOrder helse₂.sound id)
    obtain ⟨_, hinv₂⟩ := helse₂.sound
    obtain ⟨hanswer, hresting⟩ := hinv₂.resting_cancelOrder id
    dsimp only
    generalize hout : ((g.app.engine.others answers.othersBefore).others
      answers.othersBetween).cancelOrder id = out at hkept hanswer hresting
    obtain ⟨e', r⟩ := out
    rcases hanswer with ⟨o, ho, hoid, hr⟩ | hr | hr
    · obtain rfl : r = _ := hr
      dsimp only
      have hfree : ∀ c, o.clientOrderId.or input.clientOrderId = some c →
          (g.withApp { g.app with engine := e' }).Free c := by
        rintro c hc _ ⟨p, hp, rfl⟩ hmine
        obtain ⟨hne, hp₂⟩ := hresting p hp
        have hname := helse₂.resolved helse₁.sound ho₁ ho hoid
        have hclient : o.clientOrderId = some c := by
          cases hnone : o.clientOrderId with
          | some => rwa [hnone, Option.some_or] at hc
          | none =>
            -- only an order without a client id makes the cancel report its own
            rw [hnone, Option.none_or] at hc
            have hnone₁ := (congrArg OrderName.clientOrderId hname).trans hnone
            rcases hhow with horderId | ⟨-, hgiven, hsame⟩
            · exact absurd hnone₁ (hcareful.named id c o₁ horderId hc ho₁)
            · exact absurd (hsame.symm.trans hnone₁) hgiven
        refine h₂.free_of_cancelled ho (fun a ha => ?_) hclient (restsAs_of_mem hp₂) hmine
          (hoid ▸ hne)
        exact (congrArg OrderName.account hname).symm.trans (hown.trans (haccount a ha))
      split
      · exact ⟨hkept, fun _ _ hok => by cases hok⟩
      refine ⟨hkept, ?_⟩
      intro outcome c hok hc
      obtain rfl := Outcome.ok.inj hok
      rw [cancelledClientOrderId_cancelled] at hc
      exact hfree c hc
    all_goals
      obtain rfl : r = _ := hr
      exact ⟨hkept, fun _ _ hok => by cases hok⟩

/-- **A cancel is sent.** -/
theorem Tracks.cancelPayload (h : Tracks g) (hcareful : CancelCareful answers
      (g.withSession (sessionAccount g.session payload.account).1) payload) :
    Tracks (service.cancelPayload answers g payload).1 := by
  have hsession := h.bind payload.account
  have hbound := (sessionAccount_spec g.session payload.account).2.2
  unfold MmGatewayService.cancelPayload
  generalize sessionAccount g.session payload.account = r at hcareful hsession hbound
  obtain ⟨session, _ | account⟩ := r
  · exact hsession
  dsimp only at hcareful hbound ⊢
  split_ifs
  · exact hsession
  have hcareful' : CancelCareful answers (g.withSession session)
      { payload with account := some account } := ⟨hcareful.others, hcareful.named⟩
  obtain ⟨hkept, hfree⟩ := hsession.cancelOrder service.orders
    (hbound account rfl) rfl hcareful'
  generalize service.orders.cancelOrder answers (g.withSession session).app
    { payload with account := some account } = out at hkept hfree
  obtain ⟨app, r⟩ := out
  cases r with
  | ok outcome =>
    dsimp only
    cases hc : outcome.clientOrderId with
    | none => exact hkept
    | some c => exact hkept.unregister (hfree outcome c rfl hc)
  | err => exact hkept
  | panic => exact hkept
  | diverged => exact hkept

/-- **The loop of `cancel_resting_orders`.**  None of the orders rests afterwards,
and what is reported are the resting ones. -/
theorem cancelEach_spec (account : Option AccountId) {e : EngineState} (hsound : e.Sound)
    (ids : List OrderId) :
    ∃ e' cancelled, cancelEach e ids = (e', .ok cancelled) ∧ Elsewhere account e e' ∧
      (∀ o ∈ e'.restingOrders, o.orderId ∉ ids ∧ o ∈ e.restingOrders) ∧
      ∀ cancel ∈ cancelled, ∃ o ∈ e.restingOrders, o.orderId ∈ ids ∧
        cancel.clientOrderId = o.clientOrderId := by
  induction ids generalizing e with
  | nil => exact ⟨e, [], rfl, .refl hsound, fun o ho => ⟨by simp, ho⟩, by simp⟩
  | cons id ids ih =>
    have hone : Elsewhere account e (e.cancelOrder id).1 := Elsewhere.cancelOrder hsound id
    obtain ⟨_, hinv⟩ := hsound
    obtain ⟨hanswer, hresting⟩ := hinv.resting_cancelOrder id
    rw [cancelEach]
    generalize e.cancelOrder id = out at hone hanswer hresting
    obtain ⟨e₁, r⟩ := out
    obtain ⟨e', cancelled, heq, helse, hgone, hreported⟩ := ih hone.sound
    have hgone' : ∀ o ∈ e'.restingOrders, o.orderId ∉ id :: ids ∧ o ∈ e.restingOrders := by
      intro o ho
      obtain ⟨hnot, ho₁⟩ := hgone o ho
      obtain ⟨hne, hoe⟩ := hresting o ho₁
      exact ⟨by simp [hne, hnot], hoe⟩
    have hreported' : ∀ cancel ∈ cancelled, ∃ o ∈ e.restingOrders, o.orderId ∈ id :: ids ∧
        cancel.clientOrderId = o.clientOrderId := by
      intro cancel hmem
      obtain ⟨o, ho, hid, hclient⟩ := hreported cancel hmem
      exact ⟨o, (hresting o ho).2, mem_cons_of_mem _ hid, hclient⟩
    rcases hanswer with ⟨o, ho, rfl, hr⟩ | hr | hr
    · obtain rfl : r = _ := hr
      dsimp only
      rw [heq]
      refine ⟨e', _, rfl, hone.trans helse, hgone', ?_⟩
      intro cancel hmem
      rcases mem_cons.mp hmem with rfl | hmem
      · exact ⟨o, ho, mem_cons_self, cancelledClientOrderId_cancelled o⟩
      · exact hreported' cancel hmem
    all_goals
      obtain rfl : r = _ := hr
      exact ⟨e', cancelled, heq, hone.trans helse, hgone', hreported'⟩

theorem CancelRestingFilter.takes_of_name (filter : CancelRestingFilter) {o o' : Order}
    (h : o.name = o'.name) : filter.takes o = filter.takes o' := by
  obtain ⟨-, haccount, hclient, hmarket⟩ := OrderName.mk.inj h
  unfold takes
  rw [haccount, hclient, hmarket]

theorem CancelRestingFilter.account_of_takes {filter : CancelRestingFilter}
    (h : filter.takes o = true) : o.account = filter.account := by
  simp only [takes, Bool.and_eq_true, decide_eq_true_eq] at h
  exact h.1.1

theorem Gateway.unregisterAll_frame (g : Gateway) (cancelled : List CancelOrderOutcome) :
    (g.unregisterAll cancelled).app = g.app ∧ (g.unregisterAll cancelled).submitted = g.submitted := by
  induction cancelled generalizing g with
  | nil => exact ⟨rfl, rfl⟩
  | cons cancel cancelled ih =>
    rw [unregisterAll, foldl_cons]
    cases cancel.clientOrderId with
    | none => exact ih g
    | some c => exact ih (g.unregister c)

/-- **The resting orders of a filter are cancelled.**  The session still knows its
orders, and none rests that the filter took. -/
theorem Tracks.cancelResting (h : Tracks g) (service : MmGatewayService)
    (filter : CancelRestingFilter) (hfilter : ∀ a, g.session.account = some a → filter.account = a)
    (hothers : OthersAllowed g.session.account g.app.engine
      (answers.othersBefore ++ answers.othersBetween)) :
    Tracks (service.cancelResting answers g filter).1 ∧
      ∀ o ∈ (service.cancelResting answers g filter).1.app.engine.restingOrders,
        o.orderId ∈ g.submitted → g.app.engine.RestsAs o.name ∧ filter.takes o = false := by
  obtain ⟨hbefore, hbetween⟩ := othersAllowed_append.mp hothers
  have helse₁ := Elsewhere.others h.sound hbefore
  have helse₂ := Elsewhere.others helse₁.sound hbetween
  have h₁ : Tracks (g.others answers.othersBefore) := h.elsewhere helse₁
  have h₂ : Tracks ((g.others answers.othersBefore).others answers.othersBetween) :=
    h₁.elsewhere helse₂
  obtain ⟨e', cancelled, heq, helse, hgone, hreported⟩ :=
    cancelEach_spec g.session.account helse₂.sound
      (((g.app.engine.others answers.othersBefore).restingOrders.filter filter.takes).map
        Order.orderId)
  have hkept : Tracks (g.withApp { g.app with engine := e' }) := h₂.elsewhere helse
  -- an order of the session that still rests was not taken when the filter looked
  have hleft : ∀ o ∈ e'.restingOrders, o.orderId ∈ g.submitted →
      g.app.engine.RestsAs o.name ∧ filter.takes o = false := by
    intro o ho hmine
    obtain ⟨hnot, ho₂⟩ := hgone o ho
    have hrests := h₁.rested helse₂ (restsAs_of_mem ho₂) hmine
    refine ⟨h.rested helse₁ hrests hmine, ?_⟩
    obtain ⟨o₁, ho₁, hname⟩ := hrests
    rw [← filter.takes_of_name hname, Bool.eq_false_iff]
    intro htakes
    exact hnot (mem_map.mpr ⟨o₁, mem_filter.mpr ⟨ho₁, htakes⟩, congrArg OrderName.orderId hname⟩)
  have hfree : ∀ cancel ∈ cancelled, ∀ c, cancel.clientOrderId = some c →
      (g.withApp { g.app with engine := e' }).Free c := by
    rintro cancel hmem c hc _ ⟨p, hp, rfl⟩ hmine
    obtain ⟨o, ho, hid, hclient⟩ := hreported cancel hmem
    obtain ⟨o₁, ho₁, hid₁⟩ := mem_map.mp hid
    obtain ⟨ho₁, htakes⟩ := mem_filter.mp ho₁
    have hname := helse₂.resolved helse₁.sound (helse₁.sound.order_of_resting ho₁) ho hid₁.symm
    obtain ⟨hnot, hp₂⟩ := hgone p hp
    refine h₂.free_of_cancelled ho (fun a ha => ?_) (hclient.symm.trans hc) (restsAs_of_mem hp₂)
      hmine fun heq => hnot ?_
    · exact (congrArg OrderName.account hname).symm.trans
        ((CancelRestingFilter.account_of_takes htakes).trans (hfilter a ha))
    · rwa [show p.orderId = o.orderId from heq]
  have hdone : Tracks ((g.withApp { g.app with engine := e' }).unregisterAll cancelled) :=
    hkept.unregisterAll hfree
  have hframe := (g.withApp { g.app with engine := e' }).unregisterAll_frame cancelled
  have hcall : (∃ e, service.orders.cancelRestingOrders answers g.app filter =
        ({ g.app with engine := e' }, .err e)) ∨
      service.orders.cancelRestingOrders answers g.app filter =
        ({ g.app with engine := e' }, .ok cancelled) := by
    unfold cancelRestingOrders
    dsimp only
    rw [heq]
    dsimp only
    split
    · exact .inl ⟨_, rfl⟩
    · exact .inr rfl
  unfold MmGatewayService.cancelResting
  rcases hcall with ⟨e, hcall⟩ | hcall
  · rw [hcall]
    exact ⟨hkept, hleft⟩
  · rw [hcall]
    exact ⟨hdone, hframe.1 ▸ hleft⟩

end Cancel

end DeoptBackend
