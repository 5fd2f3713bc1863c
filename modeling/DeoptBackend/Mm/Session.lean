import DeoptBackend.Types

/-!
# Market-maker sessions (`src/mm/session.rs`, `src/mm/rate_limit.rs`)

A session is what the gateway remembers of one connection: whose it is, the
client ids of the orders and quotes it believes to be open, and the counters of
its rate limits.  The functions are those of the source, one for one.
-/

namespace DeoptBackend

/-- How sessions are authenticated. -/
inductive AuthMode where
  | disabled
  | walletChallenge
  deriving DecidableEq

/-- The codes of the protocol's errors, as far as orders and cancels use them. -/
inductive ErrorCode where
  | authRequired
  | rateLimited
  | tooManyOrders
  | tooManyCancels
  | orderRejected
  | cancelRejected
  | quoteReplaceFailed

/-- `ProtocolError` -/
structure ProtocolError where
  code : ErrorCode
  message : String

/-- The challenge a session is asked to sign. -/
structure Challenge where
  account : AccountId
  nonce : String
  issuedAtMs : TimestampMs
  expiresAtMs : TimestampMs

/-- `MmSession`.  The four fields of the challenge are set and cleared together,
so they are one. -/
structure MmSession where
  /-- Whose session it is, once that is known. -/
  account : Option AccountId
  /-- Has an account been bound? -/
  authenticated : Bool
  authMode : AuthMode
  challenge : Option Challenge
  /-- Cancel the open orders when the connection ends? -/
  cancelOnDisconnect : Bool
  openClientOrderIds : Finset String
  quoteClientOrderIds : Finset String
  /-- How many messages came in the current second. -/
  messagesInCurrentWindow : Nat
  /-- When that second began. -/
  windowStartedAtMs : TimestampMs
  inFlightRequests : Nat

namespace MmSession

/-- `with_ids`, without the ids -/
def new (nowMs : TimestampMs) (authMode : AuthMode) (cancelOnDisconnect : Bool) : MmSession :=
  { account := none
    authenticated := false
    authMode := authMode
    challenge := none
    cancelOnDisconnect := cancelOnDisconnect
    openClientOrderIds := ∅
    quoteClientOrderIds := ∅
    messagesInCurrentWindow := 0
    windowStartedAtMs := nowMs
    inFlightRequests := 0 }

variable (self : MmSession)

/-- `bind_account` -/
def bindAccount (account : AccountId) : MmSession :=
  { self with account := some account, authenticated := true, challenge := none }

/-- `clear_expired_challenge` -/
def clearExpiredChallenge (nowMs : TimestampMs) : MmSession :=
  match self.challenge with
  | some challenge =>
    if challenge.expiresAtMs < nowMs then { self with challenge := none } else self
  | none => self

variable (clientOrderId : String)

/-- `register_open_client_order_id` -/
def registerOpenClientOrderId : MmSession :=
  { self with openClientOrderIds := insert clientOrderId self.openClientOrderIds }

/-- `unregister_open_client_order_id` -/
def unregisterOpenClientOrderId : MmSession :=
  { self with openClientOrderIds := self.openClientOrderIds.erase clientOrderId }

/-- `register_quote_client_order_id` -/
def registerQuoteClientOrderId : MmSession :=
  { self with quoteClientOrderIds := insert clientOrderId self.quoteClientOrderIds }

/-- `unregister_quote_client_order_id` -/
def unregisterQuoteClientOrderId : MmSession :=
  { self with quoteClientOrderIds := self.quoteClientOrderIds.erase clientOrderId }

/-- `increment_in_flight` -/
def incrementInFlight : MmSession :=
  { self with inFlightRequests := min (self.inFlightRequests + 1) maxU32 }

/-- `decrement_in_flight` -/
def decrementInFlight : MmSession :=
  { self with inFlightRequests := self.inFlightRequests - 1 }

end MmSession

/-! ## Rate limits -/

/-- The settings of the gateway that orders and cancels depend on. -/
structure MmGatewayConfig where
  maxInFlightPerSession : Nat
  rateLimitPerSec : Nat
  maxOrdersPerBulk : Nat
  maxCancelsPerBulk : Nat
  maxOpenOrdersPerAccount : Nat
  /-- Must a session be authenticated to trade? -/
  requireAuth : Bool

def MmGatewayConfig.default : MmGatewayConfig :=
  { maxInFlightPerSession := 128
    rateLimitPerSec := 100
    maxOrdersPerBulk := 50
    maxCancelsPerBulk := 100
    maxOpenOrdersPerAccount := 500
    requireAuth := false }

/-- `RateLimitDecision` -/
inductive RateLimitDecision where
  | allowed
  | rejected (error : ProtocolError)

/-- The window a message falls into: a new one, if the last is a second old. -/
def MmSession.rollWindow (session : MmSession) (nowMs : TimestampMs) : MmSession :=
  if 1000 ≤ nowMs - session.windowStartedAtMs then
    { session with windowStartedAtMs := nowMs, messagesInCurrentWindow := 0 }
  else session

variable (session : MmSession) (config : MmGatewayConfig)

/-- `check_message_rate`.  The difference of the times saturates in the source,
far from the second it is compared with. -/
def checkMessageRate (nowMs : TimestampMs) : MmSession × RateLimitDecision :=
  let session := session.rollWindow nowMs
  if config.rateLimitPerSec ≤ session.messagesInCurrentWindow then
    (session, .rejected ⟨.rateLimited, "message rate limit exceeded"⟩)
  else
    ({ session with
      messagesInCurrentWindow := min (session.messagesInCurrentWindow + 1) maxU32 }, .allowed)

def checkAtMost (count bound : Nat) (error : ProtocolError) : RateLimitDecision :=
  if bound < count then .rejected error else .allowed

/-- `check_in_flight` -/
def checkInFlight : RateLimitDecision :=
  checkAtMost (session.inFlightRequests + 1) config.maxInFlightPerSession
    ⟨.rateLimited, "too many in-flight requests for session"⟩

variable (count : Nat) (config : MmGatewayConfig)

/-- `check_orders_per_bulk` -/
def checkOrdersPerBulk : RateLimitDecision :=
  checkAtMost count config.maxOrdersPerBulk ⟨.tooManyOrders, "too many orders in bulk request"⟩

/-- `check_cancels_per_bulk` -/
def checkCancelsPerBulk : RateLimitDecision :=
  checkAtMost count config.maxCancelsPerBulk
    ⟨.tooManyCancels, "too many cancels in bulk request"⟩

/-- `check_open_orders` -/
def checkOpenOrders (currentOpen additionalOpen : Nat) (config : MmGatewayConfig) :
    RateLimitDecision :=
  checkAtMost (currentOpen + additionalOpen) config.maxOpenOrdersPerAccount
    ⟨.tooManyOrders, "too many open orders for account"⟩

end DeoptBackend
