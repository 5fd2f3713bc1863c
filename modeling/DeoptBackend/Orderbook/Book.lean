import DeoptBackend.Error
import DeoptBackend.Lib.FiniteMap

/-!
# The limit order book (`src/orderbook/`)

`OrderBook` keeps a market's resting orders in five structures that have to move
together: a price map for each side, a queue of order ids at each price, the
location of every resting order, and the rows of every order ever taken in.
This file is the code, function by function, with the names of the source.

Every method that takes `&mut self` returns the book it leaves behind next to
its outcome, because a method of the source that fails half way keeps what it
has already written.  The wall clock is an argument: `clock n` is what `now_ms`
answers at the `n`-th fill of a submit.
-/

namespace DeoptBackend

/-! ## Price levels (`price_level.rs`) and crossing prices (`matching.rs`) -/

/-- The orders resting at one price, oldest first. -/
structure PriceLevel where
  /-- The ids, in the order they came to rest. -/
  orderIds : List OrderId

namespace PriceLevel

/-- `PriceLevel::default`: the empty level. -/
def new : PriceLevel := ⟨[]⟩

variable (self : PriceLevel)

/-- `push_back` -/
def pushBack (id : OrderId) : PriceLevel := ⟨self.orderIds ++ [id]⟩

/-- `front` -/
def front : Option OrderId := self.orderIds.head?

/-- `pop_front` -/
def popFront : PriceLevel := ⟨self.orderIds.tail⟩

/-- `remove`: drop the first occurrence of an id. -/
def remove (id : OrderId) : PriceLevel := ⟨self.orderIds.erase id⟩

/-- `is_empty` -/
def isEmpty (self : PriceLevel) : Bool := self.orderIds.isEmpty

end PriceLevel

/-- `prices_cross`: would a taker at `takerPrice` trade with a maker at
`makerPrice`? -/
def pricesCross (takerSide : Side) (makerPrice takerPrice : Nat) : Bool :=
  match takerSide with
  | .buy => makerPrice ≤ takerPrice
  | .sell => makerPrice ≥ takerPrice

/-! ## The book (`book.rs`) -/

structure OrderLocation where
  side : Side
  price1e8 : Nat

/-- What an accepted submit returns. -/
structure OrderSubmitResult where
  /-- The taker's row after matching. -/
  order : Order
  /-- The fills, in the order they were made. -/
  trades : List TradeMatch
  /-- The makers' rows, each as its fill left it. -/
  makerOrderUpdates : List Order
  deriving DecidableEq

structure OrderBook where
  marketId : MarketId
  /-- Buy orders by price. -/
  bids : FMap Nat PriceLevel
  /-- Sell orders by price. -/
  asks : FMap Nat PriceLevel
  /-- Where each resting order is. -/
  locations : FMap OrderId OrderLocation
  /-- The row of every order the book has recorded. -/
  orders : FMap OrderId Order

namespace OrderBook

/-- `OrderBook::new` -/
def new (marketId : MarketId) : OrderBook := ⟨marketId, ∅, ∅, ∅, ∅⟩

variable (self : OrderBook)

def levels : Side → FMap Nat PriceLevel
  | .buy => self.bids
  | .sell => self.asks

/-- Write the price map of a side back. -/
def setLevels (side : Side) (m : FMap Nat PriceLevel) : OrderBook :=
  match side with
  | .buy => { self with bids := m }
  | .sell => { self with asks := m }

/-- `level` -/
def level (side : Side) (price : Nat) : Option PriceLevel :=
  (self.levels side).get? price

/-- What `if let Some(level) = self.level_mut(side, price)` does with a change
of the level. -/
def levelMut (side : Side) (price : Nat) (f : PriceLevel → PriceLevel) : OrderBook :=
  self.setLevels side ((self.levels side).alter price f)

/-- `remove_empty_level` -/
def removeEmptyLevel (side : Side) (price : Nat) : OrderBook :=
  match self.level side price with
  | none => self
  | some l => if l.isEmpty then self.setLevels side ((self.levels side).del price) else self

/-- `best_opposite_price` -/
def bestOppositePrice (takerSide : Side) : Option Nat :=
  match takerSide with
  | .buy => self.asks.minKey?
  | .sell => self.bids.maxKey?

/-- `best_match_order_id` -/
def bestMatchOrderId (takerSide : Side) (takerPrice : Nat) : Option OrderId :=
  match self.bestOppositePrice takerSide with
  | none => none
  | some bestPrice =>
    if pricesCross takerSide bestPrice takerPrice then
      (self.level takerSide.opposite bestPrice).bind PriceLevel.front
    else none

variable (order : Order)

/-- `would_match` -/
def wouldMatch : Bool :=
  match self.bestOppositePrice order.side with
  | none => false
  | some bestPrice => pricesCross order.side bestPrice order.price1e8

/-- `would_self_trade` -/
def wouldSelfTrade : Bool :=
  (self.levels order.side.opposite).entries.any fun e =>
    pricesCross order.side e.1 order.price1e8 && e.2.orderIds.any fun id =>
      match self.orders.get? id with
      | some maker => maker.account == order.account
      | none => false

/-- `validate_order` -/
def validateOrder : Option BackendError :=
  if order.price1e8 = 0 then some .zeroPrice
  else if order.size1e8 = 0 ∨ order.remainingSize1e8 = 0 then some .zeroSize
  else none

/-- `self.orders.insert(order.order_id, order)` -/
def putRow : OrderBook :=
  { self with orders := self.orders.set order.orderId order }

def fillRow (maker : Order) (n : Nat) : Order :=
  (maker.withRemaining (maker.remainingSize1e8 - n)).withStatus
    (if maker.remainingSize1e8 - n = 0 then .filled else .partiallyFilled)

variable (orderId : OrderId)

/-- The `if filled` block of `apply_maker_fill`: the head of the maker's level
is popped, the maker's location forgotten, the level dropped if that empties it. -/
def dropFilled (side : Side) (price : Nat) : OrderBook :=
  let book := self.levelMut side price PriceLevel.popFront
  let book := { book with locations := book.locations.del orderId }
  book.removeEmptyLevel side price

/-- `apply_maker_fill` -/
def applyMakerFill (fillSize : Nat) : OrderBook × Outcome Order :=
  match self.orders.get? orderId with
  | none => (self, .err (.orderNotFound orderId))
  | some maker =>
    if maker.remainingSize1e8 < fillSize then
      (self, .panic "attempt to subtract with overflow")
    else
      let maker := fillRow maker fillSize
      let book := { self with orders := self.orders.set orderId maker }
      let book :=
        if maker.remainingSize1e8 = 0 then book.dropFilled orderId maker.side maker.price1e8
        else book
      match book.orders.get? orderId with
      | none => (book, .err (.orderNotFound orderId))
      | some maker => (book, .ok maker)

/-- `rest_order`: queue the order behind everything at its price. -/
def restOrder : OrderBook :=
  let l := (self.level order.side order.price1e8).getD .new
  let book := self.setLevels order.side
    ((self.levels order.side).set order.price1e8 (l.pushBack order.orderId))
  { book with
    locations := book.locations.set order.orderId ⟨order.side, order.price1e8⟩ }

/-- The trade a fill of `fillSize` between a taker and a maker is recorded as. -/
def tradeOf (marketId : MarketId) (taker maker : Order) (fillSize : Nat)
    (createdAtMs : TimestampMs) : TradeMatch :=
  { marketId := marketId
    makerOrderId := maker.orderId
    takerOrderId := taker.orderId
    makerAccount := maker.account
    takerAccount := taker.account
    makerNonce := maker.signedNonce
    takerNonce := taker.signedNonce
    makerDeadlineMs := maker.signedDeadlineMs
    takerDeadlineMs := taker.signedDeadlineMs
    price1e8 := maker.price1e8
    size1e8 := fillSize
    buyer := match taker.side with | .buy => taker.account | .sell => maker.account
    seller := match taker.side with | .buy => maker.account | .sell => taker.account
    createdAtMs := createdAtMs }

def fillSize (taker maker : Order) : Nat := min taker.remainingSize1e8 maker.remainingSize1e8

/-- The match loop of `submit`, with the number of rounds it may take.  The
accumulators are the `trades` and `maker_order_updates` vectors of the source. -/
def matchLoop (clock : Nat → TimestampMs) : Nat → OrderBook → Order → List TradeMatch →
    List Order → OrderBook × Outcome (Order × List TradeMatch × List Order)
  | 0, self, _, _, _ => (self, .diverged)
  | rounds + 1, self, taker, trades, updates =>
    if taker.remainingSize1e8 = 0 then (self, .ok (taker, trades, updates))
    else
      match self.bestMatchOrderId taker.side taker.price1e8 with
      | none => (self, .ok (taker, trades, updates))
      | some makerOrderId =>
        match self.orders.get? makerOrderId with
        | none => (self, .err (.orderNotFound makerOrderId))
        | some maker =>
          let size := fillSize taker maker
          let trade := tradeOf self.marketId taker maker size (clock trades.length)
          -- the taker is charged before the maker's row is touched
          if taker.remainingSize1e8 < size then
            (self, .panic "attempt to subtract with overflow")
          else
            let taker := taker.withRemaining (taker.remainingSize1e8 - size)
            match self.applyMakerFill makerOrderId size with
            | (book, .ok makerAfter) =>
              matchLoop clock rounds book taker (trades ++ [trade])
                (updates ++ [makerAfter])
            | (book, .err e) => (book, .err e)
            | (book, .panic m) => (book, .panic m)
            | (book, .diverged) => (book, .diverged)

/-- The status a taker leaves the match loop with. -/
def takerStatus (taker : Order) : OrderStatus :=
  if taker.remainingSize1e8 = 0 then .filled
  else if taker.remainingSize1e8 < taker.size1e8 then .partiallyFilled
  else .open

/-- The end of `submit`: what becomes of the taker after the loop. -/
def settleTaker (taker : Order) (trades : List TradeMatch) (updates : List Order) :
    OrderBook × Outcome OrderSubmitResult :=
  let taker := taker.withStatus (takerStatus taker)
  if taker.remainingSize1e8 = 0 then (self.putRow taker, .ok ⟨taker, trades, updates⟩)
  else
    match taker.timeInForce with
    | .gtc => ((self.restOrder taker).putRow taker, .ok ⟨taker, trades, updates⟩)
    | .ioc =>
      let taker := (taker.withRemaining 0).withStatus
        (if trades.isEmpty then .cancelled else .partiallyFilled)
      (self.putRow taker, .ok ⟨taker, trades, updates⟩)
    | .fok =>
      (self, .panic "internal error: entered unreachable code: FOK rejected before matching")

/-- The three rejections of `submit` record the order as rejected and return
their error. -/
def reject (e : BackendError) : OrderBook × Outcome OrderSubmitResult :=
  (self.putRow (order.withStatus .rejected), .err e)

/-- `submit` -/
def submit (clock : Nat → TimestampMs) (self : OrderBook) (order : Order) :
    OrderBook × Outcome OrderSubmitResult :=
  match validateOrder order with
  | some e => (self, .err e)
  | none =>
    if order.timeInForce = .fok then self.reject order (.unsupportedTimeInForce "fok")
    else if order.postOnly ∧ self.wouldMatch order then self.reject order .postOnlyWouldMatch
    else if self.wouldSelfTrade order then self.reject order .selfTrade
    else
      let taker := order.withStatus .open
      let book := self.putRow taker
      -- every round but the last takes an order out of `locations`
      match matchLoop clock (self.locations.keys.length + 1) book taker [] [] with
      | (book, .ok (taker, trades, updates)) => book.settleTaker taker trades updates
      | (book, .err e) => (book, .err e)
      | (book, .panic m) => (book, .panic m)
      | (book, .diverged) => (book, .diverged)

/-- The first half of `cancel`: the location is forgotten, the id leaves its
level, the level is dropped if that empties it. -/
def unqueue (side : Side) (price : Nat) : OrderBook :=
  let book := { self with locations := self.locations.del orderId }
  let book := book.levelMut side price (fun l => l.remove orderId)
  book.removeEmptyLevel side price

/-- `cancel` -/
def cancel : OrderBook × Outcome Order :=
  match self.locations.get? orderId with
  | none => (self, .err (.orderNotOpen orderId))
  | some location =>
    let book := self.unqueue orderId location.side location.price1e8
    match book.orders.get? orderId with
    | none => (book, .err (.orderNotFound orderId))
    | some order =>
      let order := (order.withStatus .cancelled).withRemaining 0
      ({ book with orders := book.orders.set orderId order }, .ok order)

/-- `get_order` -/
def getOrder : Option Order := self.orders.get? orderId

/-- `resting_orders`: the rows of the located orders, in no particular order. -/
def restingOrders : List Order :=
  self.locations.keys.filterMap self.orders.get?

end OrderBook

end DeoptBackend
