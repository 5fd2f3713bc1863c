import DeoptBackend.Mm.Session
import DeoptBackend.Orders.Service

/-!
# The market-maker gateway (`src/mm/service.rs`)

The messages by which a market maker trades: submit, cancel, their bulk forms,
cancel all, and quote replace.  Each handler is the source's; what comes from
outside — the clock, the permission tables, the database, and what others send to
the engine between two of its locks — is an argument.

`Gateway` is the state a handler works on.  Its last field is a history, which no
handler reads: the ids under which the engine took in the orders of the session.
-/

namespace DeoptBackend

/-! ## Payloads -/

/-- `SubmitOrderPayload` -/
structure SubmitOrderPayload where
  marketId : MarketId
  account : AccountId
  side : Side
  /-- The limit price, in decimal. -/
  price1e8 : String
  /-- The size, in decimal. -/
  size1e8 : String
  timeInForce : TimeInForce
  /-- Carried along. -/
  reduceOnly : Bool
  postOnly : Bool
  clientOrderId : Option String
  nonce : Nat
  deadlineMs : TimestampMs
  signature : String

/-- `CancelOrderPayload` is what the order service is asked for. -/
abbrev CancelOrderPayload := CancelOrderInput

/-- `CancelAllPayload` -/
structure CancelAllPayload where
  /-- Whose orders. -/
  account : Option AccountId
  marketId : Option MarketId

/-- `QuoteLegPayload` -/
structure QuoteLegPayload where
  /-- The limit price, in decimal. -/
  price1e8 : String
  size1e8 : String
  clientOrderId : String
  nonce : Nat
  deadlineMs : TimestampMs
  signature : String

/-- `QuoteReplacePayload` -/
structure QuoteReplacePayload where
  marketId : MarketId
  account : AccountId
  /-- Cancel the quotes that are open? -/
  cancelPrevious : Bool
  bid : Option QuoteLegPayload
  ask : Option QuoteLegPayload

/-- The messages by which a market maker trades. -/
inductive ClientMessage where
  | submitOrder (payload : SubmitOrderPayload)
  | bulkSubmit (orders : List SubmitOrderPayload)
  | cancelOrder (payload : CancelOrderPayload)
  | bulkCancel (cancels : List CancelOrderPayload)
  | cancelAll (payload : CancelAllPayload)
  | quoteReplace (payload : QuoteReplacePayload)

/-! ## Answers -/

/-- The result of one order of a message, or the error sent in its place. -/
abbrev ItemResult (α : Type) := Except ProtocolError α

/-- `CancelOrderResultPayload`; `cancelled` is always true there. -/
structure CancelOrderResultPayload where
  clientOrderId : Option String
  orderId : OrderId

/-- What a message is answered with.  The counts of the bulk answers are the
numbers of good and bad items. -/
inductive ServerMessage where
  | error (error : ProtocolError)
  | submitOrderResult (outcome : SubmitOrderOutcome)
  | bulkSubmitResult (results : List (ItemResult SubmitOrderOutcome))
  | cancelOrderResult (payload : CancelOrderResultPayload)
  | bulkCancelResult (results : List (ItemResult CancelOrderResultPayload))
  | cancelAllResult (cancelled : Nat)
  | quoteReplaceResult (cancelled : Nat) (results : List (Side × ItemResult SubmitOrderOutcome))

/-- What one order of a message is told from outside. -/
structure PayloadAnswers where
  /-- `check_can_submit_perp_order` -/
  permission : Except BackendError Unit
  /-- What others send before the open orders are counted. -/
  othersBeforeCount : List Request
  /-- What the order service is told. -/
  submit : SubmitAnswers

/-- What a message is told from outside. -/
structure MessageAnswers where
  /-- For the permission check of a quote replace. -/
  permission : Except BackendError Unit
  /-- For each order, in turn. -/
  submits : Nat → PayloadAnswers
  cancels : Nat → CancelAnswers

/-! ## Helpers -/

/-- `accounts_equal`, by `eq_ignore_ascii_case` -/
def accountsEqual (left right : AccountId) : Bool :=
  eqIgnoreAsciiCase left.name right.name

/-- `session_account` -/
def sessionAccount (session : MmSession) (account : Option AccountId) :
    MmSession × Option AccountId :=
  match session.account, account with
  | some sessionAccount, some payloadAccount =>
    if accountsEqual sessionAccount payloadAccount then (session, some sessionAccount)
    else (session, none)
  | some sessionAccount, none => (session, some sessionAccount)
  | none, some payloadAccount =>
    if session.authenticated = false ∧ session.authMode = .disabled then
      (session.bindAccount payloadAccount, some payloadAccount)
    else (session, some payloadAccount)
  | none, none => (session, none)

def decimal (digits : List Char) : Nat :=
  digits.foldl (fun n c => 10 * n + (c.toNat - '0'.toNat)) 0

/-- `parse_fixed_u128` -/
def parseFixedU128 (field value : String) : Except BackendError Nat :=
  let digits := value.toList
  if digits = [] then .error (.invalidFixedPoint field "empty string")
  else if digits.head? = some '-' then
    .error (.invalidFixedPoint field "negative values are not allowed")
  else if digits.all (fun c => decide ('0' ≤ c ∧ c ≤ '9')) = false then
    .error (.invalidFixedPoint field "expected an unsigned integer string")
  else if maxU128 < decimal digits then
    .error (.invalidFixedPoint field "number too large to fit in target type")
  else .ok (decimal digits)

/-- `protocol_error` -/
def protocolError (code : ErrorCode) (error : BackendError) : ProtocolError := ⟨code, error.show⟩

/-- `signed_order_from_submit` -/
def signedOrderFromSubmit (payload : SubmitOrderPayload) : ItemResult SignedOrder := do
  let price1e8 ← (parseFixedU128 "price_1e8" payload.price1e8).mapError
    (protocolError .orderRejected)
  let size1e8 ← (parseFixedU128 "size_1e8" payload.size1e8).mapError
    (protocolError .orderRejected)
  return { account := payload.account
           marketId := payload.marketId
           side := payload.side
           price1e8 := price1e8
           size1e8 := size1e8
           timeInForce := payload.timeInForce
           reduceOnly := payload.reduceOnly
           postOnly := payload.postOnly
           clientOrderId := payload.clientOrderId
           nonce := payload.nonce
           deadlineMs := payload.deadlineMs
           signature := payload.signature }

/-- `rejection_reason` -/
def rejectionReason (outcome : SubmitOrderOutcome) : String :=
  (outcome.events.findSome? fun
    | .orderRejected _ reason => some reason
    | _ => none).getD "order rejected"

/-! ## Handlers -/

/-- The gateway's settings, and those of the order service behind it. -/
structure MmGatewayService where
  config : MmGatewayConfig
  orders : OrderService

/-- The state a handler works on. -/
structure Gateway where
  /-- The state behind the gateway. -/
  app : OrderState
  session : MmSession
  /-- History: the ids under which orders of the session have a row. -/
  submitted : List OrderId

namespace Gateway

variable (g : Gateway)

def withSession (session : MmSession) : Gateway := { g with session := session }

def withApp (app : OrderState) : Gateway := { g with app := app }

def others (g : Gateway) (requests : List Request) : Gateway :=
  g.withApp { g.app with engine := g.app.engine.others requests }

/-- The history of a submit. -/
def note (orderId : OrderId) : Gateway :=
  if (g.app.engine.order orderId).isSome then { g with submitted := orderId :: g.submitted } else g

/-- An id is taken off both lists of the session. -/
def unregister (clientOrderId : String) : Gateway :=
  g.withSession ((g.session.unregisterOpenClientOrderId clientOrderId).unregisterQuoteClientOrderId
    clientOrderId)

/-- The ids of cancelled orders are taken off both lists of the session. -/
def unregisterAll (cancelled : List CancelOrderOutcome) : Gateway :=
  cancelled.foldl (fun g c => (c.clientOrderId.map g.unregister).getD g) g

end Gateway

namespace MmGatewayService

/-- `live_open_order_count` -/
def liveOpenOrderCount (engine : EngineState) (account : AccountId) : Nat :=
  (engine.restingOrders.filter fun order => decide (order.account = account)).length

variable (self : MmGatewayService)

/-- The end of `submit_payload`: the order service is called, and a resting order
is registered. -/
def submitSigned (answers : SubmitAnswers) (g : Gateway) (order : SignedOrder) :
    Gateway × Outcome (ItemResult SubmitOrderOutcome) :=
  match self.orders.submitSignedOrder answers g.app order with
  | (app, .ok outcome) =>
    let g := (g.withApp app).note answers.draws.orderId
    if outcome.status ≠ "accepted" then
      (g, .ok (.error ⟨.orderRejected, rejectionReason outcome⟩))
    else if outcome.resting then
      match outcome.clientOrderId with
      | some clientOrderId =>
        (g.withSession (g.session.registerOpenClientOrderId clientOrderId), .ok (.ok outcome))
      | none => (g, .ok (.ok outcome))
    else (g, .ok (.ok outcome))
  | (app, .err e) =>
    ((g.withApp app).note answers.draws.orderId, .ok (.error (protocolError .orderRejected e)))
  | (app, .panic message) => ((g.withApp app).note answers.draws.orderId, .panic message)
  | (app, .diverged) => ((g.withApp app).note answers.draws.orderId, .diverged)

variable (answers : PayloadAnswers) (g : Gateway) (payload : SubmitOrderPayload)

/-- `submit_payload`, once the account has been looked at. -/
def submitChecked : Gateway × Outcome (ItemResult SubmitOrderOutcome) :=
  if payload.clientOrderId.getD "" = "" then
    (g, .ok (.error ⟨.orderRejected, "client_order_id is required for MM gateway orders"⟩))
  else
    match answers.permission with
    | .error e => (g, .ok (.error (protocolError .orderRejected e)))
    | .ok () =>
      let g := g.others answers.othersBeforeCount
      match checkOpenOrders (liveOpenOrderCount g.app.engine payload.account) 1 self.config with
      | .rejected error => (g, .ok (.error error))
      | .allowed =>
        match signedOrderFromSubmit payload with
        | .error error => (g, .ok (.error error))
        | .ok order => self.submitSigned answers.submit g order

/-- `submit_payload` -/
def submitPayload : Gateway × Outcome (ItemResult SubmitOrderOutcome) :=
  match sessionAccount g.session (some payload.account) with
  | (session, none) =>
    (g.withSession session,
      .ok (.error ⟨.orderRejected, "order account does not match authenticated session"⟩))
  | (session, some _) => self.submitChecked answers (g.withSession session) payload

def legPayload (marketId : MarketId) (account : AccountId) (side : Side) (leg : QuoteLegPayload) :
    SubmitOrderPayload :=
  { marketId := marketId
    account := account
    side := side
    price1e8 := leg.price1e8
    size1e8 := leg.size1e8
    timeInForce := .gtc
    reduceOnly := false
    postOnly := false
    clientOrderId := some leg.clientOrderId
    nonce := leg.nonce
    deadlineMs := leg.deadlineMs
    signature := leg.signature }

/-- `submit_quote_leg` -/
def submitQuoteLeg (answers : PayloadAnswers) (g : Gateway) (marketId : MarketId)
    (account : AccountId) (side : Side) (leg : QuoteLegPayload) :
    Gateway × Outcome (ItemResult SubmitOrderOutcome) :=
  if leg.clientOrderId = "" then
    (g, .ok (.error ⟨.quoteReplaceFailed, "client_order_id is required"⟩))
  else
    match self.submitPayload answers g (legPayload marketId account side leg) with
    | (g, .ok (.error error)) => (g, .ok (.error ⟨.quoteReplaceFailed, error.message⟩))
    | r => r

/-- `cancel_payload` -/
def cancelPayload (answers : CancelAnswers) (g : Gateway) (payload : CancelOrderPayload) :
    Gateway × Outcome (ItemResult CancelOrderResultPayload) :=
  match sessionAccount g.session payload.account with
  | (session, none) =>
    (g.withSession session, .ok (.error ⟨.cancelRejected, "account is required for cancel"⟩))
  | (session, some account) =>
    let g := g.withSession session
    if payload.orderId = none ∧ payload.clientOrderId = none then
      (g, .ok (.error ⟨.cancelRejected, "order_id or client_order_id is required"⟩))
    else
      match self.orders.cancelOrder answers g.app { payload with account := some account } with
      | (app, .ok outcome) =>
        let g := g.withApp app
        ((outcome.clientOrderId.map g.unregister).getD g,
          .ok (.ok ⟨outcome.clientOrderId, outcome.orderId⟩))
      | (app, .err e) => (g.withApp app, .ok (.error (protocolError .cancelRejected e)))
      | (app, .panic message) => (g.withApp app, .panic message)
      | (app, .diverged) => (g.withApp app, .diverged)

/-- The items of a bulk message, one after the other. -/
def eachItem {α β : Type} (handle : Nat → Gateway → α → Gateway × Outcome (ItemResult β)) :
    Nat → Gateway → List α → Gateway × Outcome (List (ItemResult β))
  | _, g, [] => (g, .ok [])
  | n, g, item :: items =>
    match handle n g item with
    | (g, .ok result) =>
      match eachItem handle (n + 1) g items with
      | (g, .ok results) => (g, .ok (result :: results))
      | r => r
    | (g, .err e) => (g, .err e)
    | (g, .panic message) => (g, .panic message)
    | (g, .diverged) => (g, .diverged)

/-- `format_client_error` -/
def formatClientError (message : String) (clientOrderId : Option String) : String :=
  match clientOrderId with
  | some clientOrderId => clientOrderId ++ ": " ++ message
  | none => message

variable (self : MmGatewayService) (answers : MessageAnswers) (g : Gateway)

/-- `handle_submit_order` -/
def handleSubmitOrder (payload : SubmitOrderPayload) : Gateway × Outcome ServerMessage :=
  match self.submitPayload (answers.submits 0) g payload with
  | (g, .ok (.ok outcome)) => (g, .ok (.submitOrderResult outcome))
  | (g, .ok (.error e)) =>
    (g, .ok (.error ⟨e.code, formatClientError e.message payload.clientOrderId⟩))
  | (g, .err e) => (g, .err e)
  | (g, .panic message) => (g, .panic message)
  | (g, .diverged) => (g, .diverged)

def answerItems {β : Type} (answer : List (ItemResult β) → ServerMessage) :
    Gateway × Outcome (List (ItemResult β)) → Gateway × Outcome ServerMessage
  | (g, .ok results) => (g, .ok (answer results))
  | (g, .err e) => (g, .err e)
  | (g, .panic message) => (g, .panic message)
  | (g, .diverged) => (g, .diverged)

/-- `handle_bulk_submit` -/
def handleBulkSubmit (orders : List SubmitOrderPayload) : Gateway × Outcome ServerMessage :=
  match checkOrdersPerBulk orders.length self.config,
      checkOpenOrders g.session.openClientOrderIds.card orders.length self.config with
  | .rejected error, _ => (g, .ok (.error error))
  | .allowed, .rejected error => (g, .ok (.error error))
  | .allowed, .allowed =>
    answerItems .bulkSubmitResult
      (eachItem (fun n => self.submitPayload (answers.submits n)) 0 g orders)

/-- `handle_cancel_order` -/
def handleCancelOrder (payload : CancelOrderPayload) : Gateway × Outcome ServerMessage :=
  match self.cancelPayload (answers.cancels 0) g payload with
  | (g, .ok (.ok payload)) => (g, .ok (.cancelOrderResult payload))
  | (g, .ok (.error error)) => (g, .ok (.error error))
  | (g, .err e) => (g, .err e)
  | (g, .panic message) => (g, .panic message)
  | (g, .diverged) => (g, .diverged)

/-- `handle_bulk_cancel` -/
def handleBulkCancel (cancels : List CancelOrderPayload) : Gateway × Outcome ServerMessage :=
  match checkCancelsPerBulk cancels.length self.config with
  | .rejected error => (g, .ok (.error error))
  | .allowed =>
    answerItems .bulkCancelResult
      (eachItem (fun n => self.cancelPayload (answers.cancels n)) 0 g cancels)

/-- The resting orders a filter takes are cancelled, and their ids unregistered. -/
def cancelResting (answers : CancelAnswers) (g : Gateway) (filter : CancelRestingFilter) :
    Gateway × Outcome Nat :=
  match self.orders.cancelRestingOrders answers g.app filter with
  | (app, .ok cancelled) => ((g.withApp app).unregisterAll cancelled, .ok cancelled.length)
  | (app, .err e) => (g.withApp app, .err e)
  | (app, .panic message) => (g.withApp app, .panic message)
  | (app, .diverged) => (g.withApp app, .diverged)

/-- `handle_cancel_all` -/
def handleCancelAll (payload : CancelAllPayload) : Gateway × Outcome ServerMessage :=
  match sessionAccount g.session payload.account with
  | (session, none) =>
    (g.withSession session,
      .ok (.error ⟨.cancelRejected, "account is required for cancel_all"⟩))
  | (session, some account) =>
    match self.cancelResting (answers.cancels 0) (g.withSession session)
        ⟨account, payload.marketId, none⟩ with
    | (g, .ok cancelled) => (g, .ok (.cancelAllResult cancelled))
    | (g, .err e) => (g, .ok (.error (protocolError .cancelRejected e)))
    | (g, .panic message) => (g, .panic message)
    | (g, .diverged) => (g, .diverged)

variable (payload : QuoteReplacePayload)

def legsOf : List (Side × QuoteLegPayload) :=
  (payload.bid.map fun leg => (Side.buy, leg)).toList ++
    (payload.ask.map fun leg => (Side.sell, leg)).toList

/-- A leg of a quote: a resting one is registered as a quote too. -/
def quoteLeg (marketId : MarketId) (account : AccountId) (answers : PayloadAnswers) (g : Gateway)
    (leg : Side × QuoteLegPayload) : Gateway × Outcome (ItemResult SubmitOrderOutcome) :=
  match self.submitQuoteLeg answers g marketId account leg.1 leg.2 with
  | (g, .ok (.ok outcome)) =>
    (if outcome.resting then
        g.withSession (g.session.registerQuoteClientOrderId leg.2.clientOrderId)
      else g, .ok (.ok outcome))
  | r => r

def quoteLegs (cancelled : Nat) : Gateway × Outcome ServerMessage :=
  answerItems
    (fun results => .quoteReplaceResult cancelled (((legsOf payload).map Prod.fst).zip results))
    (eachItem (fun n => self.quoteLeg payload.marketId payload.account (answers.submits n)) 0 g
      (legsOf payload))

/-- `handle_quote_replace` -/
def handleQuoteReplace : Gateway × Outcome ServerMessage :=
  match sessionAccount g.session (some payload.account) with
  | (session, none) =>
    (g.withSession session, .ok (.error ⟨.quoteReplaceFailed,
      "quote_replace account does not match authenticated session"⟩))
  | (session, some _) =>
    let g := g.withSession session
    match answers.permission with
    | .error e => (g, .ok (.error (protocolError .quoteReplaceFailed e)))
    | .ok () =>
      if payload.cancelPrevious then
        match self.cancelResting (answers.cancels 0) g
            ⟨payload.account, some payload.marketId, some g.session.quoteClientOrderIds⟩ with
        | (g, .ok cancelled) => self.quoteLegs answers g payload cancelled
        | (g, .err e) => (g, .ok (.error (protocolError .quoteReplaceFailed e)))
        | (g, .panic message) => (g, .panic message)
        | (g, .diverged) => (g, .diverged)
      else self.quoteLegs answers g payload 0

def dispatch : ClientMessage → Gateway × Outcome ServerMessage
  | .submitOrder payload => self.handleSubmitOrder answers g payload
  | .bulkSubmit orders => self.handleBulkSubmit answers g orders
  | .cancelOrder payload => self.handleCancelOrder answers g payload
  | .bulkCancel cancels => self.handleBulkCancel answers g cancels
  | .cancelAll payload => self.handleCancelAll answers g payload
  | .quoteReplace payload => self.handleQuoteReplace answers g payload

/-- `handle_message`.  Every trading message requires authentication. -/
def handleMessage (answers : MessageAnswers) (nowMs : TimestampMs) (g : Gateway)
    (message : ClientMessage) : Gateway × Outcome ServerMessage :=
  match checkMessageRate (g.session.clearExpiredChallenge nowMs) self.config nowMs with
  | (session, .rejected error) => (g.withSession session, .ok (.error error))
  | (session, .allowed) =>
    match checkInFlight session self.config with
    | .rejected error => (g.withSession session, .ok (.error error))
    | .allowed =>
      if self.config.requireAuth = true ∧ session.authenticated = false then
        (g.withSession session, .ok (.error ⟨.authRequired,
          "authentication is required for trading messages"⟩))
      else
        let r := self.dispatch answers (g.withSession session.incrementInFlight) message
        (r.1.withSession r.1.session.decrementInFlight, r.2)

/-- `cancel_on_disconnect`: how many orders were cancelled. -/
def cancelOnDisconnect (self : MmGatewayService) (answers : CancelAnswers) (g : Gateway) :
    Gateway × Outcome Nat :=
  if g.session.cancelOnDisconnect = false then (g, .ok 0)
  else
    match g.session.account with
    | none => (g, .ok 0)
    | some account =>
      if g.session.openClientOrderIds = ∅ then (g, .ok 0)
      else
        match self.cancelResting answers g
            ⟨account, none, some g.session.openClientOrderIds⟩ with
        | (g, .ok cancelled) => (g, .ok cancelled)
        | (g, .err _) => (g, .ok 0)
        | r => r

end MmGatewayService

end DeoptBackend
