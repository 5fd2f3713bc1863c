import DeoptBackend.Error

/-!
# The perps model (`src/perps/{orders,positions,config,price_reader}.rs`)

Orders, fills and positions of the perpetual markets, the market rows with
their risk parameters, and the input of a submit.  Every amount is a `u128` read
as a natural, every signed amount an `i128` read as an integer.  Of a market row
and of the configuration only what the engines read is kept: the addresses and
labels are for the chain readers.
-/

namespace DeoptBackend

/-! ## Orders and fills -/

inductive PerpOrderSide where
  | buy
  | sell
  deriving DecidableEq

/-- The direction of a position. -/
inductive PerpSide where
  | long
  | short
  deriving DecidableEq

/-- The other direction. -/
def PerpSide.opposite : PerpSide → PerpSide
  | .long => .short
  | .short => .long

/-- Long counts up, short counts down. -/
def PerpSide.sign : PerpSide → Int
  | .long => 1
  | .short => -1

@[simp] theorem PerpSide.sign_opposite (d : PerpSide) : d.opposite.sign = -d.sign := by
  cases d <;> rfl

namespace PerpOrderSide

def opposite : PerpOrderSide → PerpOrderSide
  | .buy => .sell
  | .sell => .buy

/-- A buy pushes the account long, a sell pushes it short. -/
def positionSide : PerpOrderSide → PerpSide
  | .buy => .long
  | .sell => .short

@[simp] theorem opposite_opposite (d : PerpOrderSide) : d.opposite.opposite = d := by
  cases d <;> rfl

@[simp] theorem positionSide_opposite (d : PerpOrderSide) :
    d.opposite.positionSide = d.positionSide.opposite := by cases d <;> rfl

@[simp] theorem positionSide_inj {d e : PerpOrderSide} :
    d.positionSide = e.positionSide ↔ d = e := by cases d <;> cases e <;> decide

end PerpOrderSide

namespace PerpSide

@[simp] theorem opposite_opposite (d : PerpSide) : d.opposite.opposite = d := by
  cases d <;> rfl

theorem opposite_ne (d : PerpSide) : d.opposite ≠ d := by cases d <;> decide

theorem ne_iff_eq_opposite {d e : PerpSide} : d ≠ e ↔ d = e.opposite := by
  cases d <;> cases e <;> decide

end PerpSide

inductive PerpOrderType where
  | limit
  deriving DecidableEq

/-- How long an order stays in the book. -/
inductive PerpTimeInForce where
  /-- Good till cancelled: a remainder rests. -/
  | gtc
  /-- Immediate or cancel: a remainder is dropped. -/
  | ioc
  /-- Fill or kill: all or nothing. -/
  | fok
  deriving DecidableEq

def PerpTimeInForce.asStr : PerpTimeInForce → String
  | .gtc => "gtc"
  | .ioc => "ioc"
  | .fok => "fok"

inductive PerpOrderStatus where
  | «open»
  | partiallyFilled
  | filled
  | cancelled
  | rejected
  deriving DecidableEq

namespace PerpOrderStatus

def asStr : PerpOrderStatus → String
  | .open => "open"
  | .partiallyFilled => "partially_filled"
  | .filled => "filled"
  | .cancelled => "cancelled"
  | .rejected => "rejected"

/-- The order can still be filled. -/
def isActive : PerpOrderStatus → Bool
  | .open => true
  | .partiallyFilled => true
  | _ => false

def isTerminal : PerpOrderStatus → Bool
  | .filled => true
  | .cancelled => true
  | .rejected => true
  | _ => false

end PerpOrderStatus

/-! ### Terminal reasons (`orders::reason`) -/

namespace Reason

def filled : String := "filled"
def userCancelled : String := "user_cancelled"
def iocUnfilledRemainder : String := "ioc_unfilled_remainder"
def fokNotFillable : String := "fok_not_fillable"
def postOnlyWouldMatch : String := "post_only_would_match"
def selfTrade : String := "self_trade"
def liquidated : String := "liquidated"
def sourceMatchingPolicy : String := "matching_policy"
def sourceRequestValidation : String := "request_validation"
def sourceLiquidationTick : String := "liquidation_tick"

end Reason

/-- An order, as the stores keep it. -/
structure PerpOrder where
  id : Uuid
  /-- The account string it was sent under. -/
  account : AccountId
  subaccountId : Nat
  marketId : String
  side : PerpOrderSide
  /-- Always a limit order. -/
  orderType : PerpOrderType
  /-- The price the book is walked to, and at which a remainder rests. -/
  price1e8 : Nat
  size1e8 : Nat
  remainingSize1e8 : Nat
  filledSize1e8 : Nat
  timeInForce : PerpTimeInForce
  postOnly : Bool
  reduceOnly : Bool
  /-- The collateral posted with the order, taken in proportion to each fill. -/
  isolatedMargin1e8 : Nat
  status : PerpOrderStatus
  clientOrderId : Option String
  terminalReasonCode : Option String
  terminalReasonMessage : Option String
  terminalReasonSource : Option String
  createdAtMs : TimestampMs
  updatedAtMs : TimestampMs
  deriving DecidableEq

/-- A fill between a resting maker and an arriving taker. -/
structure PerpFill where
  id : Uuid
  marketId : String
  takerOrderId : Uuid
  makerOrderId : Uuid
  takerAccount : AccountId
  makerAccount : AccountId
  takerSubaccountId : Nat
  makerSubaccountId : Nat
  takerSide : PerpOrderSide
  /-- The price, which is the maker's. -/
  price1e8 : Nat
  size1e8 : Nat
  createdAtMs : TimestampMs

/-! ## Positions -/

inductive PerpPositionStatus where
  | «open»
  | closed
  | liquidated
  deriving DecidableEq

/-- A position, as the stores keep it. -/
structure PerpPosition where
  id : Uuid
  /-- The account string of the fill that opened it. -/
  account : AccountId
  subaccountId : Nat
  marketId : String
  side : PerpSide
  size1e8 : Nat
  /-- The average price it was entered at. -/
  entryPrice1e8 : Nat
  margin1e8 : Nat
  realizedPnl1e8 : Int
  status : PerpPositionStatus
  openedAtMs : TimestampMs
  updatedAtMs : TimestampMs
  closedAtMs : Option TimestampMs
  /-- How often the row has been written. -/
  version : Nat
  /-- The funding index it was last settled at. -/
  lastFundingIndex1e18 : Int
  cumulativeFundingPayment1e8 : Int
  deriving DecidableEq

/-- What a position or a client order id is found under: the case-folded account,
the subaccount, and the market or the client's name. -/
abbrev IndexKey := String × Nat × String

/-- `index_key`. -/
def indexKey (lower : String → String) (account : AccountId) (subaccountId : Nat)
    (marketId : String) : IndexKey :=
  (lower account.name, subaccountId, marketId)

/-! ## Markets and prices -/

structure PerpsReadMarket where
  /-- The symbol orders and positions name the market by. -/
  symbol : String
  /-- The highest leverage a position may be opened or increased at. -/
  maxLeverage : Nat
  /-- Maintenance margin, in basis points of the notional. -/
  maintenanceMarginBps : Nat
  maxOrderSize1e8 : Option Nat
  maxOrderNotional1e8 : Option Nat
  maxSubaccountNotional1e8 : Option Nat
  maxOpenInterest1e8 : Option Nat
  deriving DecidableEq

structure PerpsReadConfig where
  markets : List PerpsReadMarket
  /-- How old an oracle price may be. -/
  staleAfterSec : Nat
  /-- How far the mark may be from the index. -/
  oracleMaxDeviationBps : Nat

/-- `PerpsReadConfig::market_by_symbol`. -/
def PerpsReadConfig.marketBySymbol (self : PerpsReadConfig) (symbol : String) :
    Option PerpsReadMarket :=
  self.markets.find? fun m => m.symbol = symbol

theorem PerpsReadConfig.symbol_of_marketBySymbol {self : PerpsReadConfig}
    (h : self.marketBySymbol symbol = some market) : market.symbol = symbol := by
  simpa using List.find?_some h

structure RawPriceRead where
  price1e8 : Nat
  /-- When the oracle last wrote it, in seconds. -/
  updatedAtSec : Nat
  /-- The oracle vouches for the price. -/
  ok : Bool

/-! ## The submit -/

structure SubmitPerpOrderInput where
  account : AccountId
  subaccountId : Nat
  marketId : String
  side : PerpOrderSide
  /-- The limit price, or `0` for a market order. -/
  price1e8 : Nat
  size1e8 : Nat
  timeInForce : PerpTimeInForce
  postOnly : Bool
  reduceOnly : Bool
  isolatedMargin1e8 : Nat
  clientOrderId : Option String
  /-- How high a buy may print, or `0`. -/
  maxExecutionPrice1e8 : Nat
  /-- How low a sell may print, or `0`. -/
  minExecutionPrice1e8 : Nat

/-- What an accepted submit returns. -/
structure SubmitPerpOrderOutcome where
  /-- The order row, as it stands afterwards. -/
  order : PerpOrder
  /-- The fills it made on arrival. -/
  fills : List PerpFill

structure PlannedFill where
  makerOrderId : Uuid
  makerAccount : AccountId
  /-- The price, which is the maker's. -/
  price1e8 : Nat
  size1e8 : Nat
  deriving DecidableEq

/-- `PerpOrder::new`: a new order is open, with its whole size remaining. -/
def PerpOrder.new (id : Uuid) (account : AccountId) (subaccountId : Nat) (marketId : String)
    (side : PerpOrderSide) (price1e8 size1e8 : Nat) (tif : PerpTimeInForce)
    (postOnly reduceOnly : Bool) (isolatedMargin1e8 : Nat) (clientOrderId : Option String)
    (now : TimestampMs) : PerpOrder :=
  { id := id
    account := account
    subaccountId := subaccountId
    marketId := marketId
    side := side
    orderType := .limit
    price1e8 := price1e8
    size1e8 := size1e8
    remainingSize1e8 := size1e8
    filledSize1e8 := 0
    timeInForce := tif
    postOnly := postOnly
    reduceOnly := reduceOnly
    isolatedMargin1e8 := isolatedMargin1e8
    status := .open
    clientOrderId := clientOrderId
    terminalReasonCode := none
    terminalReasonMessage := none
    terminalReasonSource := none
    createdAtMs := now
    updatedAtMs := now }

end DeoptBackend
