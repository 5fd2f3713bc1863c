import Mathlib

/-!
# The order model (`src/types.rs`)

The types every order path shares: accounts, sides, orders, the request an order
is made from, and the trade a match produces.  `Price1e8` and `Size1e8` are the
`u128` of the source, read as naturals; an identifier is the number its sixteen bytes
spell, so that the byte order the source sorts by is the order of the numbers.
-/

namespace DeoptBackend

/-- The number of a market of the order book. -/
abbrev MarketId := Nat

/-- Milliseconds since the epoch. -/
abbrev TimestampMs := Int

/-- The greatest `u32`. -/
def maxU32 : Nat := 2 ^ 32 - 1

/-- The greatest `u64`. -/
def maxU64 : Nat := 2 ^ 64 - 1

/-- The greatest `i32`. -/
def maxI32 : Nat := 2 ^ 31 - 1

/-- The greatest `i64`. -/
def maxI64 : Nat := 2 ^ 63 - 1

/-- The greatest `u128`. -/
def maxU128 : Nat := 2 ^ 128 - 1

/-- A universally unique identifier, as the number its bytes spell. -/
abbrev Uuid := Nat

/-- The name the book files an order under. -/
structure OrderId where
  uuid : Uuid
  deriving DecidableEq

/-- An account, as the string it was sent as. -/
structure AccountId where
  /-- The string, with no normalisation applied. -/
  name : String
  deriving DecidableEq

/-- An ASCII capital in lower case, any other character as it is. -/
def asciiLower (c : Char) : Char :=
  if 'A' ≤ c ∧ c ≤ 'Z' then Char.ofNat (c.toNat + 32) else c

/-- `to_ascii_lowercase`. -/
def toAsciiLowercase (s : String) : String := String.ofList (s.toList.map asciiLower)

/-- `char::is_whitespace`. -/
def isWhitespace (c : Char) : Bool :=
  (0x9 ≤ c.toNat && c.toNat ≤ 0xd) || c.toNat == 0x20 || c.toNat == 0x85 || c.toNat == 0xa0 ||
    c.toNat == 0x1680 || (0x2000 ≤ c.toNat && c.toNat ≤ 0x200a) || c.toNat == 0x2028 ||
    c.toNat == 0x2029 || c.toNat == 0x202f || c.toNat == 0x205f || c.toNat == 0x3000

/-- `eq_ignore_ascii_case`. -/
def eqIgnoreAsciiCase (a b : String) : Bool :=
  decide (a.toList.map asciiLower = b.toList.map asciiLower)

inductive Side where
  | buy
  | sell
  deriving DecidableEq

/-- The side an order matches against. -/
def Side.opposite : Side → Side
  | .buy => .sell
  | .sell => .buy

@[simp] theorem Side.opposite_opposite (s : Side) : s.opposite.opposite = s := by cases s <;> rfl

inductive OrderType where
  | limit
  deriving DecidableEq

/-- How long an order stays in the book. -/
inductive TimeInForce where
  /-- Good till cancelled: a remainder rests. -/
  | gtc
  /-- Immediate or cancel: a remainder is dropped. -/
  | ioc
  /-- Fill or kill, which the book refuses. -/
  | fok
  deriving DecidableEq

inductive OrderStatus where
  | new
  | «open»
  | partiallyFilled
  | filled
  | cancelled
  | rejected
  deriving DecidableEq

/-- An order, as the book stores it. -/
structure Order where
  orderId : OrderId
  marketId : MarketId
  /-- The account string it was sent under. -/
  account : AccountId
  side : Side
  /-- Always a limit order. -/
  orderType : OrderType
  timeInForce : TimeInForce
  price1e8 : Nat
  size1e8 : Nat
  remainingSize1e8 : Nat
  /-- Carried along, never read by the book. -/
  reduceOnly : Bool
  postOnly : Bool
  clientOrderId : Option String
  signedNonce : Option Nat
  signedDeadlineMs : Option TimestampMs
  createdAtMs : TimestampMs
  status : OrderStatus
  deriving DecidableEq

namespace Order

@[simps] def withRemaining (o : Order) (n : Nat) : Order := { o with remainingSize1e8 := n }

@[simps] def withStatus (o : Order) (status : OrderStatus) : Order := { o with status := status }

end Order

/-- What a client sends; the engine makes an `Order` of it. -/
structure NewOrder where
  marketId : MarketId
  /-- The account string it is sent under. -/
  account : AccountId
  side : Side
  price1e8 : Nat
  size1e8 : Nat
  timeInForce : TimeInForce
  /-- Carried along, never read by the book. -/
  reduceOnly : Bool
  postOnly : Bool
  clientOrderId : Option String
  signedNonce : Option Nat
  signedDeadlineMs : Option TimestampMs

/-- `NewOrder::into_order`: a new order has its whole size remaining. -/
def NewOrder.intoOrder (self : NewOrder) (orderId : OrderId) (createdAtMs : TimestampMs) : Order :=
  { orderId := orderId
    marketId := self.marketId
    account := self.account
    side := self.side
    orderType := .limit
    timeInForce := self.timeInForce
    price1e8 := self.price1e8
    size1e8 := self.size1e8
    remainingSize1e8 := self.size1e8
    reduceOnly := self.reduceOnly
    postOnly := self.postOnly
    clientOrderId := self.clientOrderId
    signedNonce := self.signedNonce
    signedDeadlineMs := self.signedDeadlineMs
    createdAtMs := createdAtMs
    status := .new }

/-- One fill between a resting maker and an arriving taker. -/
structure TradeMatch where
  marketId : MarketId
  makerOrderId : OrderId
  takerOrderId : OrderId
  makerAccount : AccountId
  takerAccount : AccountId
  makerNonce : Option Nat
  takerNonce : Option Nat
  makerDeadlineMs : Option TimestampMs
  takerDeadlineMs : Option TimestampMs
  /-- The price, which is the maker's. -/
  price1e8 : Nat
  size1e8 : Nat
  buyer : AccountId
  seller : AccountId
  createdAtMs : TimestampMs
  deriving DecidableEq

structure Market where
  /-- The number the book is filed under. -/
  marketId : MarketId
  symbol : String
  kind : String

end DeoptBackend
