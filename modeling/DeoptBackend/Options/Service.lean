import DeoptBackend.Signing.Signature
import DeoptBackend.Options.Store
import DeoptBackend.Options.Postgres

/-!
# Sending and cancelling option orders (`src/options/service.rs`)

What stands between a request and the matcher: the checks of `submit_option_order_inner`,
the order it builds with its hash, and the reservation plan it hands to the database's
matcher.

* `validateSubmit`, `validateSeries` — the checks, in their order.
* `newOptionOrder` — the order: whole, open, named by its hash.
* `buildMatcherReservationPlan` — the plan.  The hold of the arriving order is computed
  here, from the whole size, before anything is matched.
* `submitOptionOrderInner`, `cancelOptionOrderAndRelease`, `sweepExpiredOptionOrders` —
  the three requests, with a database.  Execution intents, fees, attachments and events
  follow a match and write other tables.

A cancel and a sweep read the clock once.  Which hash names an order, and whether a trade can
be executed on chain, is left open.
-/

namespace DeoptBackend

open Act

/-! ## Requests -/

/-- A take-profit or stop-loss sent along with an order. -/
structure AttachmentLegInput where
  triggerPrice1e8 : Nat
  limitPrice1e8 : Nat

/-- What is to be armed once an order is filled. -/
structure AttachedTpSlInput where
  takeProfit : Option AttachmentLegInput
  stopLoss : Option AttachmentLegInput
  /-- One cancels the other. -/
  linkAsOco : Bool
  expiresAtMs : Option TimestampMs

/-- The checks on a leg, under the name its errors give it. -/
def validateAttachmentLeg (name : String) : Option AttachmentLegInput → Except BackendError Unit
  | none => .ok ()
  | some leg => do
      insist (leg.triggerPrice1e8 ≠ 0)
        (.invalidAttachedTpSl (name ++ ".trigger_price_1e8 must be > 0"))
      insist (leg.limitPrice1e8 ≠ 0)
        (.invalidAttachedTpSl (name ++ ".limit_price_1e8 must be > 0"))

/-- `validate_attached_tp_sl`. -/
def validateAttachedTpSl (now : TimestampMs) (attached : AttachedTpSlInput) :
    Except BackendError Unit := do
  insist (¬ (attached.takeProfit = none ∧ attached.stopLoss = none))
    (.invalidAttachedTpSl "at least one of take_profit / stop_loss must be present")
  validateAttachmentLeg "take_profit" attached.takeProfit
  validateAttachmentLeg "stop_loss" attached.stopLoss
  insist (¬ (attached.linkAsOco = true ∧ (attached.takeProfit = none ∨ attached.stopLoss = none)))
    (.invalidAttachedTpSl "link_as_oco=true requires BOTH take_profit and stop_loss")
  insist (∀ expiresAtMs ∈ attached.expiresAtMs, now < expiresAtMs)
    (.invalidAttachedTpSl "expires_at_ms must be in the future")

structure SubmitOptionOrderInput where
  optionSeriesId : OptionSeriesId
  account : AccountId
  subaccountId : Nat
  side : Side
  price1e8 : Nat
  size1e8 : Nat
  timeInForce : TimeInForce
  postOnly : Bool
  clientOrderId : Option String
  nonce : Option Nat
  deadlineMs : Option TimestampMs
  signature : Option String
  attachedTpSl : Option AttachedTpSlInput

structure OptionOrderHashInputs where
  deploymentId : Int
  chainId : Nat
  owner : AccountId
  subaccountId : Nat
  seriesId : OptionSeriesId
  side : Side
  price1e8 : Nat
  size1e8 : Nat
  timeInForce : TimeInForce
  postOnly : Bool
  nonce : Option Nat
  deadlineMs : Option TimestampMs

/-- `OptionOrderHashInputs::from_order`: neither the order's name nor the client's is
part of it. -/
def OptionOrderHashInputs.fromOrder (order : OptionOrder) (domain : OptionsCanonicalDomain) :
    OptionOrderHashInputs where
  deploymentId := domain.deploymentId
  chainId := domain.chainId
  owner := order.account
  subaccountId := order.subaccountId
  seriesId := order.optionSeriesId
  side := order.side
  price1e8 := order.price1e8
  size1e8 := order.size1e8
  timeInForce := order.timeInForce
  postOnly := order.postOnly
  nonce := order.nonce
  deadlineMs := order.deadlineMs

structure OptionsService where
  /-- Options are traded. -/
  enabled : Bool
  domain : OptionsCanonicalDomain
  /-- `derive_canonical_order_hash`. -/
  orderHashOf : OptionOrderHashInputs → String
  /-- `derive_canonical_execution_id`. -/
  executionIdOf : ExecutionIdOf
  /-- The database's `lower`. -/
  sqlLower : String → String
  /-- `validate_option_order_execution_preflight`, from the open orders of the series. -/
  preflight : OptionSeries → List OptionOrder → SubmitOptionOrderInput → Except BackendError Unit

namespace OptionsService

variable (svc : OptionsService)

/-! ## Checks -/

/-- `ensure_enabled`. -/
def ensureEnabled : Except BackendError Unit := insist (svc.enabled = true) .optionsDisabled

/-- `validate_account`. -/
def validateAccount (account : AccountId) : Except BackendError Unit :=
  (parseEvmAddress account).map fun _ => ()

/-- `validate_tif_combination`. -/
def validateTifCombination : TimeInForce → Bool → Except BackendError Unit
  | .ioc, true => .error (.invalidTimeInForceCombination "post-only is not compatible with IOC")
  | .fok, true => .error (.invalidTimeInForceCombination "post-only is not compatible with FOK")
  | _, _ => .ok ()

def validateIfGiven {α : Type} (check : α → Except BackendError Unit) :
    Option α → Except BackendError Unit
  | none => .ok ()
  | some a => check a

variable (now : TimestampMs)

/-- The checks of `submit_option_order_inner` on the request alone. -/
def validateSubmit (input : SubmitOptionOrderInput) : Except BackendError Unit := do
  svc.ensureEnabled
  validateAccount input.account
  insist (input.price1e8 ≠ 0) .zeroPrice
  insist (input.size1e8 ≠ 0) .zeroSize
  validateTifCombination input.timeInForce input.postOnly
  insist (∀ deadlineMs ∈ input.deadlineMs, now < deadlineMs) .deadlineExpired
  validateIfGiven validateSignatureShape input.signature
  validateIfGiven (validateAttachedTpSl now) input.attachedTpSl

/-- `now_sec`. -/
def nowSec : Except BackendError Nat :=
  if 0 ≤ Int.tdiv now 1000 then .ok (Int.tdiv now 1000).toNat
  else .error (.config "current timestamp cannot be encoded")

/-- The checks of `submit_option_order_inner` on the series. -/
def validateSeries (input : SubmitOptionOrderInput) (series : Option OptionSeries)
    (openOrders : List OptionOrder) : Except BackendError OptionSeries :=
  match series with
  | none => .error (.invalidOptionSeriesId input.optionSeriesId)
  | some series => do
      let sec ← nowSec now
      insist (series.effectiveStatus sec = .active)
        (.invalidOptionOrderState "option series is not active")
      svc.preflight series openOrders input
      return series

/-! ## The order and its plan -/

variable (input : SubmitOptionOrderInput) (orderId : OrderId) (now : TimestampMs)

/-- The order of a request, without its hash. -/
def orderOf : OptionOrder where
  orderId := orderId
  optionSeriesId := input.optionSeriesId
  account := input.account
  subaccountId := input.subaccountId
  side := input.side
  price1e8 := input.price1e8
  size1e8 := input.size1e8
  remainingSize1e8 := input.size1e8
  timeInForce := input.timeInForce
  postOnly := input.postOnly
  clientOrderId := input.clientOrderId
  nonce := input.nonce
  deadlineMs := input.deadlineMs
  signature := input.signature
  status := .open
  terminalReasonCode := none
  terminalReasonMessage := none
  terminalReasonSource := none
  canonicalOrderHash := none
  createdAtMs := now
  updatedAtMs := now

/-- `canonical_order_hash_for`. -/
def canonicalOrderHashFor (order : OptionOrder) (domain : OptionsCanonicalDomain) : String :=
  svc.orderHashOf (.fromOrder order domain)

def newOptionOrder : OptionOrder :=
  { orderOf input orderId now with
    canonicalOrderHash := some (svc.canonicalOrderHashFor (orderOf input orderId now) svc.domain) }

variable (series : OptionSeries)

variable (order : OptionOrder)

/-- `derive_taker_reservation_inputs`: the token and the amount, for the whole size. -/
def deriveTakerReservationInputs : Option (String × Nat) :=
  match order.side with
  | .buy => (buyReservation order.size1e8 series.contractSize1e8 order.price1e8).toOption.map
      fun amount => (series.settlementAsset, amount)
  | .sell =>
    if series.isCall then
      (shortCallReservationPhysical order.size1e8 series.contractSize1e8).toOption.map
        fun amount => (series.underlying, amount)
    else
      (shortPutReservation order.size1e8 series.contractSize1e8 series.strike1e8).toOption.map
        fun amount => (series.settlementAsset, amount)

/-- The chain as the ledger stores it: `i64::try_from(..).unwrap_or(i64::MAX)`. -/
def storedChain : Int := if svc.domain.chainId ≤ maxI64 then svc.domain.chainId else maxI64

/-- What the amounts of a series are computed from. -/
def scaffoldOf : PendingSettlementScaffold where
  deploymentId := svc.domain.deploymentId
  chainId := svc.storedChain
  buyerCollateralToken := series.settlementAsset
  sellerCollateralToken := if series.isCall then series.underlying else series.settlementAsset
  optionSeriesId := series.optionSeriesId
  contractSize1e8 := series.contractSize1e8
  isCall := series.isCall
  strike1e8 := series.strike1e8

/-- The hold of an arriving order, should it rest. -/
def takerInput (hash token : String) (amount : Nat) (now : TimestampMs) :
    OpenOrderReservationInput where
  deploymentId := svc.domain.deploymentId
  chainId := svc.storedChain
  owner := order.account.name
  subaccountId := storedSubaccount order.subaccountId
  collateralToken := token
  canonicalOrderHash := hash
  optionSeriesId := order.optionSeriesId
  side := order.side
  reservedAmount := amount
  quantity1e8 := order.size1e8
  nowMs := now

/-- `build_matcher_reservation_plan`. -/
def buildMatcherReservationPlan (now : TimestampMs) : Option MatcherReservationPlan := do
  let hash ← order.canonicalOrderHash
  let (token, amount) ← deriveTakerReservationInputs series order
  return {
    takerOpenOrder := some (svc.takerInput order hash token amount now)
    pendingScaffold := some (svc.scaffoldOf series) }

/-! ## The requests -/

/-- `open_option_orders_for_series`. -/
def openOptionOrdersForSeries (seriesId : OptionSeriesId) (db : OptionTables) : List OptionOrder :=
  (db.orders.vals.filter fun o => o.optionSeriesId = seriesId ∧ o.status.isLive = true).insertionSort
    fun a b => a.createdAtMs < b.createdAtMs ∨
      (a.createdAtMs = b.createdAtMs ∧ a.orderId.uuid ≤ b.orderId.uuid)

/-- `submit_option_order_inner`, with a database.  The clock is read for the deadline, for the
series and for the match. -/
def submitOptionOrderInner (draws : MatchDraws) (orderId : OrderId)
    (checkedAtMs seriesAtMs now : TimestampMs) (input : SubmitOptionOrderInput) :
    Act BackendError OptionTables (OptionOrder × List OptionFill) := do
  check (svc.validateSubmit checkedAtMs input)
  let found ← read fun db => db.series.get? input.optionSeriesId
  let openOrders ← read (openOptionOrdersForSeries input.optionSeriesId)
  let series ← check (svc.validateSeries seriesAtMs input found openOrders)
  let order := svc.newOptionOrder input orderId now
  submitOptionOrderAndMatchWithReservations svc.executionIdOf svc.domain draws now svc.sqlLower
    order (svc.buildMatcherReservationPlan series order now)

/-- `release_open_order_reservation_for`. -/
def releaseOpenOrderReservationFor (reason : String) (now : TimestampMs) :
    Act BackendError OptionTables Unit :=
  match order.canonicalOrderHash with
  | none => pure ()
  | some hash => onReservations do
      let _ ← releaseOpenOrderTx hash reason now
      return ()

/-- `cancel_option_order`, with a database. -/
def cancelOptionOrderAndRelease (orderId : OrderId) (now : TimestampMs) :
    Act BackendError OptionTables OptionOrder := do
  check svc.ensureEnabled
  let cancelled ← cancelOptionOrder orderId now
  releaseOpenOrderReservationFor cancelled "USER_CANCELLED" now
  return cancelled

/-- `sweep_expired_option_orders`, with a database.  No hold is released. -/
def sweepExpiredOptionOrders : Act BackendError OptionTables (List OptionOrder) := do
  check svc.ensureEnabled
  expireOptionOrdersDue now

end OptionsService

end DeoptBackend
