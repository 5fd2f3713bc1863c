import DeoptBackend.Error

/-!
# Option orders and fills (`src/options/types.rs`)

The rows the option book keeps: an order with the part of its size that is still
to be filled, and a fill between a resting maker and an arriving taker.

* `OptionOrder.restated` — what the matchers ever write to a stored order: a
  remaining size, a status and a time.  `OptionOrder.terms` is the rest of the row,
  and nothing that reads the terms alone can tell the two rows apart.
-/

namespace DeoptBackend

abbrev OptionSeriesId := String

inductive OptionOrderStatus where
  | «open»
  | partiallyFilled
  | cancelled
  | filled
  | rejected
  | expired
  deriving DecidableEq

namespace OptionOrderStatus

/-- `as_str`. -/
def asStr : OptionOrderStatus → String
  | .open => "open"
  | .partiallyFilled => "partially_filled"
  | .cancelled => "cancelled"
  | .filled => "filled"
  | .rejected => "rejected"
  | .expired => "expired"

/-- `is_live`: the order can still trade. -/
def isLive : OptionOrderStatus → Bool
  | .open | .partiallyFilled => true
  | _ => false

end OptionOrderStatus

/-! ## Why an order ended -/

namespace TerminalReason

/-- `USER_CANCELLED`. -/
def userCancelled : String := "user_cancelled"

/-- `IOC_REMAINDER_CANCELLED`. -/
def iocRemainderCancelled : String := "ioc_remainder_cancelled"

/-- `EXPIRED`. -/
def expired : String := "expired"

/-- `SOURCE_USER`. -/
def sourceUser : String := "user"

/-- `SOURCE_TIF_POLICY`. -/
def sourceTifPolicy : String := "tif_policy"

/-- `SOURCE_EXPIRY_SWEEP`. -/
def sourceExpirySweep : String := "expiry_sweep"

end TerminalReason

/-! ## Orders -/

structure OptionOrder where
  orderId : OrderId
  optionSeriesId : OptionSeriesId
  /-- The account string it was sent under. -/
  account : AccountId
  /-- The subaccount of the account, a `u32`. -/
  subaccountId : Nat
  side : Side
  price1e8 : Nat
  size1e8 : Nat
  remainingSize1e8 : Nat
  timeInForce : TimeInForce
  postOnly : Bool
  clientOrderId : Option String
  /-- The nonce the order was signed with. -/
  nonce : Option Nat
  deadlineMs : Option TimestampMs
  signature : Option String
  status : OptionOrderStatus
  terminalReasonCode : Option String
  terminalReasonMessage : Option String
  terminalReasonSource : Option String
  /-- The hash that names the order across systems; `none` for old rows. -/
  canonicalOrderHash : Option String
  createdAtMs : TimestampMs
  updatedAtMs : TimestampMs
  deriving DecidableEq

namespace OptionOrder

/-- The row with another remainder, status and time: the three columns a match
writes. -/
@[simps] def restated (o : OptionOrder) (remaining1e8 : Nat) (status : OptionOrderStatus)
    (now : TimestampMs) : OptionOrder :=
  { o with remainingSize1e8 := remaining1e8, status := status, updatedAtMs := now }

@[simps] def ended (o : OptionOrder) (status : OptionOrderStatus) (code source : String)
    (now : TimestampMs) : OptionOrder :=
  { o with
    status := status
    updatedAtMs := now
    terminalReasonCode := some code
    terminalReasonMessage := none
    terminalReasonSource := some source }

/-- What no later write changes: the row without its remainder, status, reasons
and time. -/
def terms (o : OptionOrder) : OptionOrder :=
  { o with
    remainingSize1e8 := 0
    status := .open
    terminalReasonCode := none
    terminalReasonMessage := none
    terminalReasonSource := none
    updatedAtMs := 0 }

section

variable (o : OptionOrder) (n : Nat) (status : OptionOrderStatus) (code source : String)
  (now : TimestampMs)

@[simp] theorem terms_restated : (o.restated n status now).terms = o.terms := rfl

@[simp] theorem terms_ended : (o.ended status code source now).terms = o.terms := rfl

end

/-- Anything that reads the terms alone is the same for rows with the same terms. -/
theorem congr_terms (f : OptionOrder → β) (h : o.terms = o'.terms)
    (hf : ∀ o, f o.terms = f o := by exact fun _ => rfl) : f o = f o' := by
  rw [← hf o, h, hf o']

end OptionOrder

/-- A plain order, as it arrives: good till cancelled, with nothing optional set. -/
def plainOrder (id : Nat) (account : String) (side : Side) (price1e8 size1e8 : Nat) :
    OptionOrder where
  orderId := ⟨id⟩
  optionSeriesId := "ETH-C"
  account := ⟨account⟩
  subaccountId := 1
  side := side
  price1e8 := price1e8
  size1e8 := size1e8
  remainingSize1e8 := size1e8
  timeInForce := .gtc
  postOnly := false
  clientOrderId := none
  nonce := none
  deadlineMs := none
  signature := none
  status := .open
  terminalReasonCode := none
  terminalReasonMessage := none
  terminalReasonSource := none
  canonicalOrderHash := none
  createdAtMs := 0
  updatedAtMs := 0

/-! ## Fills -/

/-- A fill between a resting maker and an arriving taker. -/
structure OptionFill where
  fillId : Uuid
  optionSeriesId : OptionSeriesId
  buyOrderId : OrderId
  sellOrderId : OrderId
  buyer : AccountId
  seller : AccountId
  buyerSubaccountId : Nat
  sellerSubaccountId : Nat
  makerOrderId : OrderId
  takerOrderId : OrderId
  takerSide : Side
  /-- The price, which is the maker's. -/
  price1e8 : Nat
  size1e8 : Nat
  /-- The name of the execution across systems; `none` if an order has no hash. -/
  canonicalExecutionId : Option String
  createdAtMs : TimestampMs
  deriving DecidableEq

def OptionFill.names (f : OptionFill) (id : OrderId) : Bool :=
  decide (f.makerOrderId = id) || decide (f.takerOrderId = id)

/-- What the name of an execution is derived in: a deployment and a chain. -/
structure OptionsCanonicalDomain where
  deploymentId : Int
  chainId : Nat

/-- `constant_test_domain`. -/
def OptionsCanonicalDomain.constantTestDomain : OptionsCanonicalDomain := ⟨1, 84532⟩

/-- `derive_canonical_execution_id`: a hash of the domain, the two order hashes,
buyer's first, and the size.  Which hash it is is left open. -/
abbrev ExecutionIdOf := OptionsCanonicalDomain → String → String → Nat → String

/-- `canonical_execution_id_for_fill`: only a fill between two hashed orders has a
name. -/
def canonicalExecutionIdForFill (executionIdOf : ExecutionIdOf) (buyer seller : Option String)
    (size1e8 : Nat) (domain : OptionsCanonicalDomain) : Option String := do
  let buyer ← buyer
  let seller ← seller
  return executionIdOf domain buyer seller size1e8

end DeoptBackend
