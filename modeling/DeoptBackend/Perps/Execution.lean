import DeoptBackend.Perps.Fills
import DeoptBackend.Perps.OrderStore

/-!
# The in-memory perps engine (`src/perps/execution.rs`, `service.rs`)

`submitPerpOrderInternalWithOracle` takes an order in: it checks the input,
passes the opening-risk gate, inserts the row, plans the fills against the
resting makers, passes the arrival gates, and then commits the planned fills one
by one, each to the maker's row, the taker's position and the maker's position.
An error on the way leaves what was written; `submitPerpOrderViaState` runs it on
copies of the two stores and puts them in place on success only.

What the engine does not compute is an argument: the oracle's answer, the
readings of the clock and the identifiers it draws (`SubmitDraws`).
-/

namespace DeoptBackend

open Reason Margin PerpOrderStore Act

/-- The two stores a submit works on. -/
structure PerpStores where
  orders : PerpOrderStore
  positions : PerpPositionsStore

namespace PerpStores

/-- Stores with nothing in them. -/
def empty : PerpStores := ⟨.empty, .empty⟩

def withOrders (orders : PerpOrderStore) (s : PerpStores) : PerpStores := { s with orders := orders }

def withPositions (positions : PerpPositionsStore) (s : PerpStores) : PerpStores :=
  { s with positions := positions }

def onOrders {α : Type} (x : Act Fault PerpOrderStore α) : Act Fault PerpStores α :=
  x.zoom orders withOrders

def onPositions {α : Type} (x : Act Fault PerpPositionsStore α) : Act Fault PerpStores α :=
  x.zoom positions withPositions

end PerpStores

open PerpStores (onOrders onPositions)

structure FillDraws where
  fillId : Uuid
  /-- For the taker's position. -/
  taker : FillDraw
  /-- For the maker's position. -/
  maker : FillDraw

structure SubmitDraws where
  orderId : Uuid
  /-- The clock when the age of the oracle price is checked. -/
  checkedAtMs : TimestampMs
  /-- The clock when the order is made. -/
  now : TimestampMs
  fills : Nat → FillDraws

/-! ## Validation -/

variable (input : SubmitPerpOrderInput)

/-- `validate_input_basics`, the same text in `execution.rs` and
`execution_pg.rs`. -/
def validateInputBasics : Except BackendError Unit :=
  if input.size1e8 = 0 then .error .perpZeroSize
  else if input.side = .buy ∧ input.minExecutionPrice1e8 ≠ 0 then
    .error (.perpsInvalidBoundForSide "buy orders may not set min_execution_price_1e8")
  else if input.side = .sell ∧ input.maxExecutionPrice1e8 ≠ 0 then
    .error (.perpsInvalidBoundForSide "sell orders may not set max_execution_price_1e8")
  else if input.price1e8 = 0 then
    let hasBound : Bool :=
      match input.side with
      | .buy => input.maxExecutionPrice1e8 ≠ 0
      | .sell => input.minExecutionPrice1e8 ≠ 0
    if hasBound = false then
      .error (.perpsInvalidBoundForSide
        "market orders require a non-zero user execution-price bound")
    else .ok ()
  else
    match input.side with
    | .buy =>
      if input.maxExecutionPrice1e8 ≠ 0 ∧ input.maxExecutionPrice1e8 < input.price1e8 then
        .error (.perpsUserBoundAboveLimit
          ("buy max_execution_price_1e8 " ++ toString input.maxExecutionPrice1e8 ++
            " below limit price_1e8 " ++ toString input.price1e8))
      else .ok ()
    | .sell =>
      if input.minExecutionPrice1e8 ≠ 0 ∧ input.minExecutionPrice1e8 > input.price1e8 then
        .error (.perpsUserBoundBelowLimit
          ("sell min_execution_price_1e8 " ++ toString input.minExecutionPrice1e8 ++
            " above limit price_1e8 " ++ toString input.price1e8))
      else .ok ()

/-- `validate_tif_combinations`, the same text in both engines. -/
def validateTifCombinations : Except BackendError Unit :=
  if input.postOnly = true ∧ input.timeInForce ≠ .gtc then
    .error (.perpInvalidTifCombination
      ("post_only requires GTC; got " ++ input.timeInForce.asStr))
  else .ok ()

/-- The market of the input, or the error for an unknown one. -/
def PerpsReadConfig.requireMarket (cfg : PerpsReadConfig) (marketId : String) :
    Except BackendError PerpsReadMarket :=
  match cfg.marketBySymbol marketId with
  | none => .error (.perpsMarketNotFound marketId)
  | some market => .ok market

/-- `effective_limit_price_1e8`: the limit price, or for a market order the bound
of its own side. -/
def effectiveLimitPrice1e8 : Nat :=
  if input.price1e8 ≠ 0 then input.price1e8
  else
    match input.side with
    | .buy => input.maxExecutionPrice1e8
    | .sell => input.minExecutionPrice1e8

/-! ## The opening-risk gate -/

/-- `as i64`, which wraps. -/
def asI64 (n : Nat) : Int := Int.bmod n (2 ^ 64)

/-- An `i64` result that saturates. -/
def satI64 (x : Int) : Int := Saturating.clamp (-(2 ^ 63)) (2 ^ 63 - 1) x

/-- `RawPriceRead::updated_at_ms`. -/
def RawPriceRead.updatedAtMs (read : RawPriceRead) : TimestampMs :=
  satI64 (asI64 read.updatedAtSec * 1000)

variable (cfg : PerpsReadConfig) (read : RawPriceRead) (market : PerpsReadMarket)

/-- `ensure_mark_fresh`, the same text in both engines. -/
def ensureMarkFresh (now : TimestampMs) : Except BackendError Unit :=
  if read.ok = false ∨ read.price1e8 = 0 then
    .error (.perpMarkPriceUnavailable
      ("oracle reported ok=false or zero price for " ++ market.symbol))
  else
    let staleAfterMs := satI64 (asI64 cfg.staleAfterSec * 1000)
    if read.updatedAtMs = 0 ∨ satI64 (now - read.updatedAtMs) > staleAfterMs then
      .error (.perpMarkPriceUnavailable ("mark price is stale for " ++ market.symbol))
    else .ok ()

/-- `deviation_bps`. -/
def deviationBps (index1e8 mark1e8 : Nat) : Nat :=
  if index1e8 = 0 then 0
  else
    let diff := if mark1e8 ≥ index1e8 then mark1e8 - index1e8 else index1e8 - mark1e8
    min (satMul diff bps / index1e8) maxU32

/-- `ensure_mark_within_deviation`: the mark and the index are the same field of
the read. -/
def ensureMarkWithinDeviation : Except BackendError Unit :=
  let observedBps := deviationBps read.price1e8 read.price1e8
  if observedBps > cfg.oracleMaxDeviationBps then
    .error (.perpOracleDeviationExceeded
      (market.symbol ++ ": observed " ++ toString observedBps ++ "bps > max " ++
        toString cfg.oracleMaxDeviationBps ++ "bps"))
  else .ok ()

/-- Refuse an amount above a cap that is set. -/
def enforceCap (cap : Option Nat) (amount : Nat) (error : Nat → BackendError) : Except Fault Unit :=
  match cap with
  | none => .ok ()
  | some cap => if amount > cap then .error (.err (error cap)) else .ok ()

def openIn (market : PerpsReadMarket) (p : PerpPosition) : Bool :=
  p.status = .open ∧ p.marketId = market.symbol

section

variable (lower : String → String)

variable (market : PerpsReadMarket) (positions : PerpPositionsStore) (input : SubmitPerpOrderInput)

/-- The cap on the notional of one subaccount: what it holds at entry, plus the
order at its limit price. -/
def enforceSubaccountNotional (orderNotional : Nat) : Except Fault Unit :=
  match market.maxSubaccountNotional1e8 with
  | none => .ok ()
  | some cap => do
      let existing ← sumU128
        (((positions.listForAccountAndSubaccount lower input.account input.subaccountId).filter
          (openIn market)).map fun p => notional1e8 p.size1e8 p.entryPrice1e8)
      let after := satAdd existing orderNotional
      enforceCap (some cap) after fun cap => .perpSubaccountNotionalCap
        (market.symbol ++ ": post-fill subaccount notional " ++ toString after ++ " > max " ++
          toString cap)

/-- The cap on the open interest: the sizes of all open positions, plus the
order's size once. -/
def enforceOpenInterest : Except Fault Unit :=
  match market.maxOpenInterest1e8 with
  | none => .ok ()
  | some cap => do
      let currentOi ← sumU128
        ((positions.byIdValuesIter.filter (openIn market)).map fun p => p.size1e8)
      let after := satAdd currentOi input.size1e8
      enforceCap (some cap) after fun cap => .perpOpenInterestCap
        (market.symbol ++ ": post-fill open interest " ++ toString after ++ " > max " ++
          toString cap)

/-- `enforce_pre_submit_risk_caps`. -/
def enforcePreSubmitRiskCaps : Except Fault Unit := do
  enforceCap market.maxOrderSize1e8 input.size1e8 fun cap => .perpOrderSizeCap
    (market.symbol ++ ": order size " ++ toString input.size1e8 ++ " > max " ++ toString cap)
  let orderNotional := notional1e8 input.size1e8 input.price1e8
  enforceCap market.maxOrderNotional1e8 orderNotional fun cap => .perpOrderNotionalCap
    (market.symbol ++ ": order notional " ++ toString orderNotional ++ " > max " ++ toString cap)
  enforceSubaccountNotional lower market positions input orderNotional
  enforceOpenInterest market positions input

/-- The read of the oracle an opening order needs. -/
def requireOracle (oracleRead : Except BackendError RawPriceRead) :
    Except BackendError RawPriceRead :=
  oracleRead.mapError fun err => .perpMarkPriceUnavailable err.show

variable (cfg : PerpsReadConfig)

variable (market : PerpsReadMarket)

variable (checkedAtMs : TimestampMs) (oracleRead : Except BackendError RawPriceRead)
  (positions : PerpPositionsStore) (input : SubmitPerpOrderInput)

/-- The gate every order but an explicitly reduce-only one passes. -/
def openingRiskGate : Except Fault Unit :=
  if input.reduceOnly then .ok ()
  else do
    let read ← returned (requireOracle oracleRead)
    returned (ensureMarkFresh cfg read market checkedAtMs)
    returned (ensureMarkWithinDeviation cfg read market)
    enforcePreSubmitRiskCaps lower market positions input

/-! ## Arrival -/

variable (draws : SubmitDraws)

def takerOrder (input : SubmitPerpOrderInput) (price1e8 : Nat) : PerpOrder :=
  PerpOrder.new draws.orderId input.account input.subaccountId input.marketId input.side price1e8
    input.size1e8 input.timeInForce input.postOnly input.reduceOnly input.isolatedMargin1e8
    input.clientOrderId draws.now

variable (order : PerpOrder)

/-- `mark_order_terminal` and the error that follows it. -/
def rejectOrder (code text : String) (error : BackendError) (now : TimestampMs) :
    Act Fault PerpOrderStore Unit := do
  let _ ← update order.id now fun o =>
    { o with
      status := .rejected
      terminalReasonCode := some code
      terminalReasonMessage := some text
      terminalReasonSource := some sourceMatchingPolicy }
  fail (.err error)

def plannedTotal (planned : List PlannedFill) : Nat := (planned.map (·.size1e8)).sum

/-- The gates between the plan and the commit: no fill against an order of the
same account string, no fill at all for a post-only order, all or nothing for a
fill-or-kill order. -/
def arrivalGates (planned : List PlannedFill) (now : TimestampMs) : Act Fault PerpOrderStore Unit :=
  if planned.any (fun f => f.makerAccount = order.account) then
    rejectOrder order selfTrade "self-trade rejected" .perpSelfTrade now
  else if order.postOnly = true ∧ planned ≠ [] then
    rejectOrder order postOnlyWouldMatch "post-only order would immediately match"
      .perpPostOnlyWouldMatch now
  else if order.timeInForce = .fok ∧ plannedTotal planned < order.size1e8 then
    rejectOrder order fokNotFillable "fill-or-kill order not fully fillable at submit"
      .perpFokNotFillable now
  else pure ()

/-- The reduce-only check, of the position found for the order. -/
def checkReduces (existing : Option PerpPosition) : Except Fault Unit :=
  match existing with
  | none => .error (.err .perpReduceOnlyViolation)
  | some pos =>
    if pos.side ≠ order.side.positionSide.opposite then .error (.err .perpReduceOnlyViolation)
    else if order.size1e8 > pos.size1e8 then .error (.err .perpReduceOnlyViolation)
    else .ok ()

/-- `enforce_reduce_only`, for an order that asks for it. -/
def enforceReduceOnly (positions : PerpPositionsStore) (order : PerpOrder) : Except Fault Unit :=
  if order.reduceOnly then
    checkReduces order (positions.getActive lower order.account order.subaccountId order.marketId)
  else .ok ()

/-! ## The commit -/

/-- The maker's row after a fill. -/
def PerpOrder.makerFilled (size1e8 : Nat) (maker : PerpOrder) : PerpOrder :=
  let newRemaining := maker.remainingSize1e8 - size1e8
  let maker :=
    { maker with
      filledSize1e8 := satAdd maker.filledSize1e8 size1e8
      remainingSize1e8 := newRemaining }
  if newRemaining = 0 then
    { maker with
      status := .filled
      terminalReasonCode := some Reason.filled
      terminalReasonSource := some sourceMatchingPolicy }
  else { maker with status := .partiallyFilled }

def takerFillInput (plan : PlannedFill) : PerpFillInput :=
  { account := order.account
    subaccountId := order.subaccountId
    marketId := order.marketId
    side := order.side.positionSide
    size1e8 := plan.size1e8
    price1e8 := plan.price1e8
    margin1e8 :=
      if order.reduceOnly then 0
      else proRate order.isolatedMargin1e8 plan.size1e8 order.size1e8 }

variable (order maker : PerpOrder)

/-- The maker's side of a planned fill; `maker` is the maker's row. -/
def makerFillInput (plan : PlannedFill) : PerpFillInput :=
  { account := plan.makerAccount
    subaccountId := maker.subaccountId
    marketId := order.marketId
    side := order.side.opposite.positionSide
    size1e8 := plan.size1e8
    price1e8 := plan.price1e8
    margin1e8 :=
      if maker.reduceOnly then 0
      else proRate maker.isolatedMargin1e8 plan.size1e8 (max maker.size1e8 1) }

def fillRecord (plan : PlannedFill) (id : Uuid) (now : TimestampMs) : PerpFill :=
  { id := id
    marketId := order.marketId
    takerOrderId := order.id
    makerOrderId := plan.makerOrderId
    takerAccount := order.account
    makerAccount := plan.makerAccount
    takerSubaccountId := order.subaccountId
    makerSubaccountId := maker.subaccountId
    takerSide := order.side
    price1e8 := plan.price1e8
    size1e8 := plan.size1e8
    createdAtMs := now }

/-- The row of an order, or the error for a missing one. -/
def requireOrder (store : PerpOrderStore) (id : Uuid) : Except Fault PerpOrder :=
  match store.get id with
  | none => .error (.err (.perpOrderNotFound (Uuid.show id)))
  | some order => .ok order

/-- The maker's half of a commit: its row, and the row read back. -/
def fillMakerRow (now : TimestampMs) (plan : PlannedFill) : Act Fault PerpStores PerpOrder := do
  let _ ← onOrders (update plan.makerOrderId now
    (PerpOrder.makerFilled plan.size1e8))
  let orders ← Act.read PerpStores.orders
  check (requireOrder orders plan.makerOrderId)

/-- The taker's position takes its side of the fill. -/
def applyTaker (draws : FillDraws) (plan : PlannedFill) : Act Fault PerpStores PerpFillOutcome :=
  onPositions (applyPerpFillForAccount lower market (takerFillInput order plan) draws.taker)

/-- The maker's position takes its side of the fill. -/
def applyMaker (draws : FillDraws) (plan : PlannedFill) : Act Fault PerpStores PerpFillOutcome :=
  onPositions (applyPerpFillForAccount lower market (makerFillInput order maker plan) draws.maker)

/-- One round of the commit loop. -/
def commitFill (now : TimestampMs) (draws : FillDraws) (plan : PlannedFill) :
    Act Fault PerpStores PerpFill := do
  let maker ← fillMakerRow now plan
  let _ ← applyTaker lower market order draws plan
  let _ ← applyMaker lower market order maker draws plan
  let fill := fillRecord order maker plan draws.fillId now
  write fun s => s.withOrders (s.orders.insertFill fill)
  pure fill

/-- The commit loop, from the `i`-th planned fill on; `takerRemaining` is what is
left of the taker.  Returns the fills and what is left at the end. -/
def commitFills (market : PerpsReadMarket) (order : PerpOrder) (draws : SubmitDraws) :
    Nat → Nat → List PlannedFill → Act Fault PerpStores (List PerpFill × Nat)
  | _, takerRemaining, [] => pure ([], takerRemaining)
  | i, takerRemaining, plan :: planned => do
      let fill ← commitFill lower market order draws.now (draws.fills i) plan
      let (fills, left) ← commitFills market order draws (i + 1) (takerRemaining - plan.size1e8)
        planned
      pure (fill :: fills, left)

variable (tif : PerpTimeInForce) (takerRemaining : Nat) (fills : List PerpFill)

def takerFinalStatus : PerpOrderStatus :=
  if takerRemaining = 0 then .filled
  else if fills ≠ [] then
    match tif with
    | .ioc => .cancelled
    | .gtc => .partiallyFilled
    | .fok => .cancelled
  else
    match tif with
    | .gtc => .open
    | .ioc => .cancelled
    | .fok => .cancelled

/-- The terminal reason that goes with it, and its source. -/
def takerReason : PerpOrderStatus → PerpTimeInForce → Option (String × String)
  | .filled, _ => some (Reason.filled, sourceMatchingPolicy)
  | .cancelled, .ioc => some (iocUnfilledRemainder, sourceMatchingPolicy)
  | .cancelled, .fok => some (fokNotFillable, sourceMatchingPolicy)
  | _, _ => none

/-- The taker's row after the commit; `tif` is the taker's. -/
def PerpOrder.takerSettled (o : PerpOrder) : PerpOrder :=
  let status := takerFinalStatus tif takerRemaining fills
  let o :=
    { o with
      filledSize1e8 := o.size1e8 - takerRemaining
      remainingSize1e8 := takerRemaining
      status := status }
  match takerReason status tif with
  | none => o
  | some (code, source) =>
    { o with terminalReasonCode := some code, terminalReasonSource := some source }

/-! ## The submit -/

/-- What happens before the order is inserted. -/
def preSubmit : Except Fault PerpsReadMarket := do
  returned (validateInputBasics input)
  returned (validateTifCombinations input)
  let market ← returned (cfg.requireMarket input.marketId)
  openingRiskGate lower cfg market checkedAtMs oracleRead positions input
  pure market

/-- What happens after: the plan, the gates and the commit. -/
def matchOrder (order : PerpOrder) : Act Fault PerpStores SubmitPerpOrderOutcome := do
  let planned ← Act.read fun s : PerpStores => planFills s.orders order
  onOrders (arrivalGates order planned draws.now)
  let positions ← Act.read PerpStores.positions
  check (enforceReduceOnly lower positions order)
  let (fills, takerRemaining) ← commitFills lower market order draws 0 order.size1e8 planned
  let updated ← onOrders (update order.id draws.now
    (PerpOrder.takerSettled order.timeInForce takerRemaining fills))
  pure { order := updated, fills := fills }

/-- `submit_perp_order_internal_with_oracle`. -/
def submitPerpOrderInternalWithOracle (oracleRead : Except BackendError RawPriceRead)
    (input : SubmitPerpOrderInput) : Act Fault PerpStores SubmitPerpOrderOutcome := do
  let positions ← Act.read PerpStores.positions
  let market ← check (preSubmit lower cfg draws.checkedAtMs oracleRead positions input)
  let order ← onOrders (insertOrder lower
    (takerOrder draws input (effectiveLimitPrice1e8 input)))
  matchOrder lower market draws order

variable (answer : Except BackendError RawPriceRead) (input : SubmitPerpOrderInput)

/-- `prepare_submit_oracle`: the input is validated before the oracle is asked. -/
def prepareSubmitOracle : Except BackendError RawPriceRead := do
  validateInputBasics input
  validateTifCombinations input
  let _ ← cfg.requireMarket input.marketId
  answer

/-- `submit_perp_order_via_state`, without a repository: the submit runs on copies
of the stores, which replace them on success only. -/
def submitPerpOrderViaState : Act Fault PerpStores SubmitPerpOrderOutcome :=
  atomically (submitPerpOrderInternalWithOracle lower cfg draws
    (prepareSubmitOracle cfg answer input) input)

/-! ## The cancel -/

variable (orderId : Uuid) (caller : AccountId)

def checkCancel (existing : Option PerpOrder) : Except Fault Unit :=
  match existing with
  | none => .error (.err (.perpOrderNotFound (Uuid.show orderId)))
  | some order =>
    if lower order.account.name ≠ lower caller.name then
      .error (.err (.perpInvalidOrderState "cancel caller does not own the order"))
    else if order.status.isTerminal then
      .error (.err (.perpInvalidOrderState
        ("order is already terminal (" ++ order.status.asStr ++ ")")))
    else .ok ()

/-- `cancel_perp_order_internal`, which is also `cancel_perp_order_via_state`
without a repository. -/
def cancelPerpOrderInternal (now : TimestampMs) : Act Fault PerpOrderStore PerpOrder := do
  let existing ← Act.read fun store : PerpOrderStore => store.get orderId
  check (checkCancel lower orderId caller existing)
  update orderId now fun o =>
    { o with
      status := .cancelled
      terminalReasonCode := some userCancelled
      terminalReasonSource := some sourceRequestValidation }

end

end DeoptBackend
