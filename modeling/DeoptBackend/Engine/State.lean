import DeoptBackend.Orderbook.Book

/-!
# The engine (`src/engine/`, `src/execution/{intent,queue}.rs`)

The engine keeps one book for each market and the queue of trades that wait to
be settled.  A command goes to the book it concerns; what the book answers comes
back as events, and every trade becomes an execution intent.

What the engine draws from outside (the name of a new order, the time, the names
of new intents) is an argument, `Draws`, one for each command.
-/

namespace DeoptBackend

/-! ## Execution intents -/

/-- `ExecutionIntentStatus` -/
inductive ExecutionIntentStatus where
  | pending
  | dryRun
  | calldataReady
  | simulationOk
  | simulationFailed
  | prepared
  | submitted
  | confirmed
  | failed
  | abandoned

/-- `PerpsProtocolVersion` -/
inductive PerpsProtocolVersion where
  | v1
  | v2

/-- A trade that waits to be settled. -/
structure ExecutionIntent where
  intentId : Uuid
  marketId : MarketId
  buyer : AccountId
  seller : AccountId
  price1e8 : Nat
  size1e8 : Nat
  buyOrderId : OrderId
  sellOrderId : OrderId
  /-- Was the buyer's order the resting one? -/
  buyerIsMaker : Option Bool
  buyerNonce : Option Nat
  sellerNonce : Option Nat
  /-- The earlier of the two deadlines, if both were signed. -/
  deadlineMs : Option TimestampMs
  createdAtMs : TimestampMs
  status : ExecutionIntentStatus
  protocolVersion : PerpsProtocolVersion
  /-- An upper bound on the price, `0` for none. -/
  maxExecutionPrice1e8 : Nat
  /-- A lower bound on the price, `0` for none. -/
  minExecutionPrice1e8 : Nat

/-- `intent_from_trade` -/
def intentFromTrade (intentId : Uuid) (trade : TradeMatch) : ExecutionIntent :=
  let takerIsBuyer := trade.buyer = trade.takerAccount
  let buyerIsMaker := trade.buyer = trade.makerAccount
  { intentId := intentId
    marketId := trade.marketId
    buyer := trade.buyer
    seller := trade.seller
    price1e8 := trade.price1e8
    size1e8 := trade.size1e8
    buyOrderId := if takerIsBuyer then trade.takerOrderId else trade.makerOrderId
    sellOrderId := if takerIsBuyer then trade.makerOrderId else trade.takerOrderId
    buyerIsMaker := some (decide buyerIsMaker)
    buyerNonce := if buyerIsMaker then trade.makerNonce else trade.takerNonce
    sellerNonce := if buyerIsMaker then trade.takerNonce else trade.makerNonce
    deadlineMs :=
      match trade.makerDeadlineMs, trade.takerDeadlineMs with
      | some maker, some taker => some (min maker taker)
      | _, _ => none
    createdAtMs := trade.createdAtMs
    status := .pending
    protocolVersion := .v1
    maxExecutionPrice1e8 := 0
    minExecutionPrice1e8 := 0 }

/-! ## Commands and events -/

/-- `EngineCommand` -/
inductive EngineCommand where
  | submitOrder (order : NewOrder)
  | cancelOrder (orderId : OrderId)
  | replaceOrder (orderId : OrderId) (replacement : NewOrder)

/-- `EngineEvent` -/
inductive EngineEvent where
  | orderAccepted (order : Order)
  | orderRejected (orderId : OrderId) (reason : String)
  | orderCancelled (order : Order)
  | orderPartiallyFilled (order : Order)
  | orderFilled (order : Order)
  | tradeMatched (trade : TradeMatch)
  | executionIntentCreated (intent : ExecutionIntent)

/-- What a command draws from outside the engine. -/
structure Draws where
  /-- `OrderId::new()` -/
  orderId : OrderId
  /-- `now_ms()` when the order is taken in. -/
  createdAtMs : TimestampMs
  /-- `now_ms()` at each fill. -/
  clock : Nat → TimestampMs
  /-- `Uuid::new_v4()` for each intent. -/
  intentId : Nat → Uuid

/-! ## The engine -/

structure EngineState where
  markets : List Market
  orderbooks : FMap MarketId OrderBook
  /-- The trades that wait to be settled, oldest first. -/
  executionQueue : List ExecutionIntent

namespace EngineState

/-- `EngineState::new` -/
def new (markets : List Market) : EngineState :=
  { markets := markets
    orderbooks := FMap.ofPairs (markets.map fun m => (m.marketId, OrderBook.new m.marketId))
    executionQueue := [] }

/-- `default_markets` -/
def defaultMarkets : List Market :=
  [⟨1, "ETH-PERP", "perp"⟩, ⟨2, "BTC-PERP", "perp"⟩]

/-- `with_default_markets` -/
def withDefaultMarkets : EngineState := new defaultMarkets

variable (self : EngineState)

/-- `has_market` -/
def hasMarket (marketId : MarketId) : Bool :=
  (self.orderbooks.get? marketId).isSome

/-- Write a book back. -/
def setBook (marketId : MarketId) (book : OrderBook) : EngineState :=
  { self with orderbooks := self.orderbooks.set marketId book }

/-- The book that has a row of the order.  The source walks its hash map in an
order of its own; ids are unique, so at most one book answers. -/
def bookOf (orderId : OrderId) : Option (MarketId × OrderBook) :=
  self.orderbooks.entries.findSome? fun e =>
    if (e.2.getOrder orderId).isSome then some (e.1, e.2) else none

/-- `order` -/
def order (orderId : OrderId) : Option Order :=
  (self.bookOf orderId).bind fun e => e.2.getOrder orderId

/-- The order `resting_orders` sorts by: the time of arrival, then the id. -/
def ArrivedBefore (a b : Order) : Prop :=
  a.createdAtMs < b.createdAtMs ∨ (a.createdAtMs = b.createdAtMs ∧ a.orderId.uuid ≤ b.orderId.uuid)
  deriving Decidable

/-- `resting_orders` -/
def restingOrders (self : EngineState) : List Order :=
  (self.orderbooks.vals.flatMap OrderBook.restingOrders).insertionSort ArrivedBefore

/-- `push_order_fill_event` -/
def pushOrderFillEvent (order : Order) : List EngineEvent :=
  match order.status with
  | .partiallyFilled => [.orderPartiallyFilled order]
  | .filled => [.orderFilled order]
  | _ => []

variable (draws : Draws) (trades : List TradeMatch)

/-- The intents of a submit's trades. -/
def intentsOf : List ExecutionIntent :=
  trades.mapIdx fun i trade => intentFromTrade (draws.intentId i) trade

/-- The events of the trades: each match is followed by its intent. -/
def tradeEvents : List EngineEvent :=
  (trades.mapIdx fun i trade =>
    [.tradeMatched trade, .executionIntentCreated (intentFromTrade (draws.intentId i) trade)]).flatten

variable (draws : Draws) (self : EngineState)

/-- `append_fill_events`: the events, and the queue with the new intents. -/
def appendFillEvents (result : OrderSubmitResult) : EngineState × List EngineEvent :=
  ({ self with executionQueue := self.executionQueue ++ intentsOf draws result.trades },
    result.makerOrderUpdates.flatMap pushOrderFillEvent ++ pushOrderFillEvent result.order ++
      tradeEvents draws result.trades)

/-- `submit_order` -/
def submitOrder (order : NewOrder) : EngineState × Outcome (List EngineEvent) :=
  let marketId := order.marketId
  let order := order.intoOrder draws.orderId draws.createdAtMs
  match self.orderbooks.get? marketId with
  | none =>
    (self, .ok [.orderRejected draws.orderId ("unknown market: " ++ toString marketId)])
  | some book =>
    match book.submit draws.clock order with
    | (book, .ok result) =>
      let (self, events) := (self.setBook marketId book).appendFillEvents draws result
      (self, .ok (.orderAccepted result.order :: events))
    | (book, .err error) =>
      (self.setBook marketId book, .ok [.orderRejected draws.orderId error.show])
    | (book, .panic message) => (self.setBook marketId book, .panic message)
    | (book, .diverged) => (self.setBook marketId book, .diverged)

/-- `cancel_order` -/
def cancelOrder (orderId : OrderId) : EngineState × Outcome (List EngineEvent) :=
  match self.bookOf orderId with
  | none => (self, .err (.orderNotFound orderId))
  | some (marketId, book) =>
    match book.cancel orderId with
    | (book, .ok order) => (self.setBook marketId book, .ok [.orderCancelled order])
    | (book, .err error) => (self.setBook marketId book, .err error)
    | (book, .panic message) => (self.setBook marketId book, .panic message)
    | (book, .diverged) => (self.setBook marketId book, .diverged)

/-- `process` -/
def process (command : EngineCommand) : EngineState × Outcome (List EngineEvent) :=
  match command with
  | .submitOrder order => self.submitOrder draws order
  | .cancelOrder orderId => self.cancelOrder orderId
  | .replaceOrder _ _ => (self, .err (.unsupportedCommand "replace_order_scaffold"))

end EngineState

/-- A command and what it draws. -/
structure Request where
  draws : Draws
  command : EngineCommand

end DeoptBackend
