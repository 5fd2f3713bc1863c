import DeoptBackend.Engine.State
import DeoptBackend.Signing.Signature

/-!
# The order service (`src/orders/service.rs`)

What stands between a client and the engine: a signed order is checked, its
nonce is taken, and the engine is run; cancels are looked up by id, by the
client's own name for the order, or by a filter, and handed to the engine.

Of the database of the persistent mode only the table of used nonces is modelled;
whether a call to it succeeds comes from outside, and so does what others send to
the engine while a call does not hold its lock.
-/

namespace DeoptBackend

/-- How the service is set up. -/
structure OrderService where
  crypto : Crypto
  /-- The domain orders are signed for. -/
  eip712Domain : Eip712Domain
  /-- Are signatures recovered and compared? -/
  signatureVerificationMode : SignatureVerificationMode
  /-- Is there a repository? -/
  persistent : Bool

/-- The rows of the `used_nonces` table. -/
abbrev UsedNonces := List (AccountId × Nat)

/-- The parts of `AppState` the service reads and writes. -/
structure OrderState where
  engine : EngineState
  /-- The nonces of the in-memory mode. -/
  nonces : NonceStore
  /-- The committed nonces of the persistent mode. -/
  usedNonces : UsedNonces

/-! ## Taking an order -/

/-- `validate_deadline` -/
def validateDeadline (now deadlineMs : TimestampMs) : Except BackendError Unit :=
  if deadlineMs ≤ now then .error .deadlineExpired else .ok ()

/-- `validate_signed_order`.  The answer of the on-chain nonce check, when it is
enabled, comes from outside. -/
def validateSignedOrder (service : OrderService) (engine : EngineState) (now : TimestampMs)
    (perpNonce : Except BackendError Unit) (order : SignedOrder) : Except BackendError Unit := do
  validateDeadline now order.deadlineMs
  verify service.crypto order service.signatureVerificationMode service.eip712Domain
  if engine.hasMarket order.marketId then perpNonce
  else .error (.unknownMarket order.marketId)

/-- The greatest nonce a `BIGINT` column holds. -/
def maxBigint : Nat := 2 ^ 63 - 1

/-- `first_order_id` -/
def firstOrderId (events : List EngineEvent) : Option OrderId :=
  events.findSome? fun
    | .orderAccepted order => some order.orderId
    | .orderRejected orderId _ => some orderId
    | .orderCancelled order => some order.orderId
    | .orderPartiallyFilled order => some order.orderId
    | .orderFilled order => some order.orderId
    | .tradeMatched _ => none
    | .executionIntentCreated _ => none

structure SubmitOrderOutcome where
  /-- `"accepted"` or `"rejected"`. -/
  status : String
  /-- The order's id, if an event names one. -/
  orderId : Option OrderId
  clientOrderId : Option String
  /-- Does an event show something left to fill? -/
  resting : Bool
  /-- The names of the new intents. -/
  matchedIntents : List String
  events : List EngineEvent

/-- `outcome_from_events` -/
def outcomeFromEvents (clientOrderId : Option String) (events : List EngineEvent) :
    SubmitOrderOutcome :=
  { status :=
      if events.any fun | .orderRejected _ _ => true | _ => false then "rejected" else "accepted"
    orderId := firstOrderId events
    clientOrderId := clientOrderId
    resting := events.any fun
      | .orderAccepted order => decide (0 < order.remainingSize1e8)
      | .orderPartiallyFilled order => decide (0 < order.remainingSize1e8)
      | _ => false
    matchedIntents := events.filterMap fun
      | .executionIntentCreated intent => some (Uuid.show intent.intentId)
      | _ => none
    events := events }

/-- What others send to the engine while a call does not hold its lock. -/
def EngineState.others (engine : EngineState) (requests : List Request) : EngineState :=
  requests.foldl (fun engine q => (engine.process q.draws q.command).1) engine

/-- What a submit is told from outside.  Of a database call only a failure is
told. -/
structure SubmitAnswers where
  /-- `now_ms()` when the deadline is checked. -/
  now : TimestampMs
  /-- The answer of the on-chain nonce check. -/
  perpNonce : Except BackendError Unit
  beginFails : Option BackendError
  /-- `insert_nonce_tx` fails, other than because the nonce is there. -/
  insertFails : Option BackendError
  /-- What others send before the engine is locked. -/
  others : List Request
  draws : Draws
  persistFails : Option BackendError
  commitFails : Option BackendError

namespace OrderService

variable (answers : SubmitAnswers) (state : OrderState) (order : SignedOrder)

def matchOrder : OrderState × Outcome (List EngineEvent) :=
  let r := (state.engine.others answers.others).process answers.draws
    (.submitOrder order.toNewOrder)
  ({ state with engine := r.1 }, r.2)

/-- `submit_order_persistent`, after the nonce has been inserted: the engine is
run, and then the transaction may still fail. -/
def submitHeld : OrderState × Outcome SubmitOrderOutcome :=
  match matchOrder answers state order with
  | (state, .ok events) =>
    match answers.persistFails, answers.commitFails with
    | some e, _ => (state, .err e)
    | none, some e => (state, .err e)
    | none, none =>
      ({ state with usedNonces := (order.account, order.nonce) :: state.usedNonces },
        .ok (outcomeFromEvents order.clientOrderId events))
  | (state, .err e) => (state, .err e)
  | (state, .panic message) => (state, .panic message)
  | (state, .diverged) => (state, .diverged)

/-- `submit_order_persistent` -/
def submitOrderPersistent : OrderState × Outcome SubmitOrderOutcome :=
  match answers.beginFails, answers.insertFails with
  | some e, _ => (state, .err e)
  | none, insertFails =>
    if maxBigint < order.nonce then (state, .err (.persistence "nonce exceeds BIGINT range"))
    else
      match insertFails with
      | some e => (state, .err e)
      | none =>
        if (order.account, order.nonce) ∈ state.usedNonces then
          (state, .err .nonceAlreadyUsed)
        else submitHeld answers state order

/-- `submit_signed_order` in memory, after the checks. -/
def submitInMemory : OrderState × Outcome SubmitOrderOutcome :=
  match state.nonces.reserve order.account order.nonce with
  | (nonces, .error e) => ({ state with nonces := nonces }, .err e)
  | (nonces, .ok ()) =>
    match matchOrder answers { state with nonces := nonces } order with
    | (state, .ok events) => (state, .ok (outcomeFromEvents order.clientOrderId events))
    | (state, .err e) => (state, .err e)
    | (state, .panic message) => (state, .panic message)
    | (state, .diverged) => (state, .diverged)

/-- `submit_signed_order` -/
def submitSignedOrder (service : OrderService) (answers : SubmitAnswers) (state : OrderState)
    (order : SignedOrder) : OrderState × Outcome SubmitOrderOutcome :=
  match validateSignedOrder service state.engine answers.now answers.perpNonce order with
  | .error e => (state, .err e)
  | .ok () =>
    if service.persistent then submitOrderPersistent answers state order
    else submitInMemory answers state order

end OrderService

/-! ## Cancelling -/

structure CancelOrderInput where
  /-- Whose order, if that is to be checked. -/
  account : Option AccountId
  marketId : Option MarketId
  orderId : Option OrderId
  clientOrderId : Option String

structure CancelOrderOutcome where
  orderId : OrderId
  clientOrderId : Option String
  events : List EngineEvent

structure CancelRestingFilter where
  /-- Whose orders. -/
  account : AccountId
  marketId : Option MarketId
  /-- Under which names, if under some only. -/
  clientOrderIds : Option (Finset String)

def CancelRestingFilter.takes (filter : CancelRestingFilter) (order : Order) : Bool :=
  decide (order.account = filter.account) &&
    (match filter.marketId with
      | some marketId => decide (order.marketId = marketId)
      | none => true) &&
    match filter.clientOrderIds with
    | some ids =>
      match order.clientOrderId with
      | some id => decide (id ∈ ids)
      | none => false
    | none => true

/-- What a cancel is told from outside. -/
structure CancelAnswers where
  /-- What others send before the engine is looked at. -/
  othersBefore : List Request
  /-- What others send between the look and the cancel. -/
  othersBetween : List Request
  persistFails : Option BackendError

/-- `cancelled_client_order_id` -/
def cancelledClientOrderId (events : List EngineEvent) : Option String :=
  events.findSome? fun
    | .orderCancelled order => order.clientOrderId
    | _ => none

/-- `validate_cancel_ownership` -/
def validateCancelOwnership (order : Order) (input : CancelOrderInput) :
    Except BackendError Unit := do
  match input.account with
  | some account =>
    if order.account ≠ account then .error (.config "order is not owned by this account")
  | none => pure ()
  match input.marketId with
  | some marketId =>
    if order.marketId ≠ marketId then .error (.config "order is not in requested market")
  | none => pure ()

/-- Is this the order a client's own name for it asks for? -/
def CancelOrderInput.names (input : CancelOrderInput) (clientOrderId : String) (order : Order) :
    Bool :=
  decide (order.clientOrderId = some clientOrderId) &&
    (match input.marketId with
      | some marketId => decide (order.marketId = marketId)
      | none => true) &&
    match input.account with
    | some account => decide (order.account = account)
    | none => true

/-- `resolve_cancel_order_id` -/
def resolveCancelOrderId (engine : EngineState) (input : CancelOrderInput) :
    Except BackendError OrderId :=
  match input.orderId with
  | some orderId =>
    match engine.order orderId with
    | none => .error (.orderNotFound orderId)
    | some order => do
        validateCancelOwnership order input
        return orderId
  | none =>
    match input.clientOrderId with
    | none => .error .invalidOrderId
    | some clientOrderId =>
      match engine.restingOrders.find? (input.names clientOrderId) with
      | none => .error (.config "client order id is not open")
      | some order => do
          validateCancelOwnership order input
          return order.orderId

/-- The loop of `cancel_resting_orders`: an order that is gone is passed over. -/
def cancelEach (engine : EngineState) : List OrderId →
    EngineState × Outcome (List CancelOrderOutcome)
  | [] => (engine, .ok [])
  | orderId :: orderIds =>
    match engine.cancelOrder orderId with
    | (engine, .ok events) =>
      match cancelEach engine orderIds with
      | (engine, .ok cancelled) =>
        (engine, .ok (⟨orderId, cancelledClientOrderId events, events⟩ :: cancelled))
      | r => r
    | (engine, .err (.orderNotFound _)) => cancelEach engine orderIds
    | (engine, .err (.orderNotOpen _)) => cancelEach engine orderIds
    | (engine, .err e) => (engine, .err e)
    | (engine, .panic message) => (engine, .panic message)
    | (engine, .diverged) => (engine, .diverged)

namespace OrderService

/-- `cancel_order` -/
def cancelOrder (service : OrderService) (answers : CancelAnswers) (state : OrderState)
    (input : CancelOrderInput) : OrderState × Outcome CancelOrderOutcome :=
  let engine := state.engine.others answers.othersBefore
  match resolveCancelOrderId engine input with
  | .error e => ({ state with engine := engine }, .err e)
  | .ok orderId =>
    match (engine.others answers.othersBetween).cancelOrder orderId with
    | (engine, .ok events) =>
      match service.persistent, answers.persistFails with
      | true, some e => ({ state with engine := engine }, .err e)
      | _, _ => ({ state with engine := engine },
          .ok ⟨orderId, (cancelledClientOrderId events).or input.clientOrderId, events⟩)
    | (engine, .err e) => ({ state with engine := engine }, .err e)
    | (engine, .panic message) => ({ state with engine := engine }, .panic message)
    | (engine, .diverged) => ({ state with engine := engine }, .diverged)

/-- `cancel_resting_orders` -/
def cancelRestingOrders (service : OrderService) (answers : CancelAnswers) (state : OrderState)
    (filter : CancelRestingFilter) : OrderState × Outcome (List CancelOrderOutcome) :=
  let engine := state.engine.others answers.othersBefore
  let orderIds := (engine.restingOrders.filter filter.takes).map Order.orderId
  match cancelEach (engine.others answers.othersBetween) orderIds with
  | (engine, .ok cancelled) =>
    match service.persistent && !(cancelled.flatMap CancelOrderOutcome.events).isEmpty,
        answers.persistFails with
    | true, some e => ({ state with engine := engine }, .err e)
    | _, _ => ({ state with engine := engine }, .ok cancelled)
  | (engine, .err e) => ({ state with engine := engine }, .err e)
  | (engine, .panic message) => ({ state with engine := engine }, .panic message)
  | (engine, .diverged) => ({ state with engine := engine }, .diverged)

end OrderService

end DeoptBackend
