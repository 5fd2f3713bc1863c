import DeoptBackend.Perps.Margin
import DeoptBackend.Options.Service

/-!
# Conditional option orders (`src/options/conditional_orders.rs`)

Take-profit and stop-loss orders on a position.  A conditional order is armed until the
price of the underlying triggers it; it is then claimed, its siblings are cancelled, and a
child order that must trade at once is sent against the position.

* `computePositionSigned1e8`, `classifyReducible` — the position, summed up again from a
  list of fills.  The sum compares account strings exactly and knows no subaccounts.
* `createConditionalOrdersInStore` and the two cancels — the requests of the owner.
* `claimArmed`, `executeTriggeredInStore` — the two parts of `trigger_one` without a
  database.  Each holds the lock of the store; other requests may come between them.
* `selectOrdersToTrigger` — what a tick triggers.

Rows keep their version as a natural number.  Two columns with a single value, the source
of the trigger and the kind of execution, and the flag that is always set are left out.
-/

namespace DeoptBackend

open Act

/-! ## Records -/

/-- Take the profit or stop the loss. -/
inductive ConditionalType where
  | takeProfit
  | stopLoss
  deriving DecidableEq

/-- Whether the price has to rise or to fall. -/
inductive TriggerCondition where
  | gte
  | lte
  deriving DecidableEq

/-- `TriggerCondition::matches`. -/
def TriggerCondition.matches : TriggerCondition → Nat → Nat → Bool
  | .gte, observed, trigger => decide (observed ≥ trigger)
  | .lte, observed, trigger => decide (observed ≤ trigger)

inductive PositionSide where
  | long
  | short
  deriving DecidableEq

/-- `closing_side`. -/
def PositionSide.closingSide : PositionSide → Side
  | .long => .sell
  | .short => .buy

/-- A call or a put. -/
inductive OptionKind where
  | call
  | put
  deriving DecidableEq

/-- `from_is_call`. -/
def OptionKind.fromIsCall (isCall : Bool) : OptionKind := if isCall then .call else .put

inductive ConditionalOrderStatus where
  | armed
  | triggering
  | executing
  | completed
  | partiallyFilled
  | cancelled
  | failed
  | expired
  deriving DecidableEq

/-- `is_terminal`. -/
def ConditionalOrderStatus.isTerminal : ConditionalOrderStatus → Bool
  | .completed | .partiallyFilled | .cancelled | .failed | .expired => true
  | .armed | .triggering | .executing => false

structure ConditionalOrder where
  id : Uuid
  /-- The account whose position it closes. -/
  account : AccountId
  subaccountId : Nat
  optionSeriesId : OptionSeriesId
  /-- The direction of the position when the order was armed. -/
  positionSide : PositionSide
  optionKind : OptionKind
  conditionalType : ConditionalType
  triggerCondition : TriggerCondition
  triggerPrice1e8 : Nat
  /-- How much of the position it closes. -/
  quantity1e8 : Nat
  limitPrice1e8 : Nat
  /-- The group in which one cancels the others. -/
  ocoGroupId : Option Uuid
  status : ConditionalOrderStatus
  /-- The child, once it is recorded. -/
  childOrderId : Option OrderId
  failureCode : Option String
  failureMessage : Option String
  expiresAtMs : Option TimestampMs
  triggeredAtMs : Option TimestampMs
  completedAtMs : Option TimestampMs
  createdAtMs : TimestampMs
  updatedAtMs : TimestampMs
  /-- How often the row was written. -/
  version : Nat
  deriving DecidableEq

namespace ConditionalOrder

variable (o : ConditionalOrder) (status : ConditionalOrderStatus)

/-- The row with another status, written once more. -/
def restated (now : TimestampMs) : ConditionalOrder :=
  { o with status := status, updatedAtMs := now, version := o.version + 1 }

/-- The row, ended. -/
def terminated (now : TimestampMs) : ConditionalOrder :=
  { o.restated status now with completedAtMs := some now }

/-- The row with the reason it failed for. -/
def because (o : ConditionalOrder) (code : String) (message : Option String) : ConditionalOrder :=
  { o with failureCode := some code, failureMessage := message <|> o.failureMessage }

/-- The row once its child is recorded.  A child that filled nothing is a failure. -/
def recorded (child : OrderId) (childQty : Nat) (now : TimestampMs) : ConditionalOrder :=
  let row := { o.terminated status now with
    childOrderId := some child
    triggeredAtMs := some now }
  if status = .failed then
    row.because "no_liquidity"
      (some ("child IOC order filled 0 of " ++ toString childQty ++ " contracts"))
  else row

end ConditionalOrder

structure ConditionalLegInput where
  conditionalType : ConditionalType
  triggerPrice1e8 : Nat
  limitPrice1e8 : Nat
  /-- The comparison the client expects. -/
  explicitTriggerCondition : Option TriggerCondition

structure CreateConditionalOrderInput where
  account : AccountId
  subaccountId : Nat
  optionSeriesId : OptionSeriesId
  quantity1e8 : Nat
  legs : List ConditionalLegInput
  linkAsOco : Bool
  expiresAtMs : Option TimestampMs

structure ConditionalOrderFilter where
  account : Option AccountId
  optionSeriesId : Option OptionSeriesId
  status : Option ConditionalOrderStatus
  ocoGroupId : Option Uuid

/-- `ConditionalOrderFilter::matches`. -/
def ConditionalOrderFilter.matches (self : ConditionalOrderFilter) (order : ConditionalOrder) :
    Bool :=
  (self.account.all fun account => eqIgnoreAsciiCase order.account.name account.name) &&
    (self.optionSeriesId.all fun series => decide (order.optionSeriesId = series)) &&
    (self.status.all fun status => decide (order.status = status)) &&
    self.ocoGroupId.all fun oco => decide (order.ocoGroupId = some oco)

/-- What a list of fills is restricted to. -/
structure OptionFillFilter where
  optionSeriesId : Option OptionSeriesId
  account : Option AccountId
  orderId : Option OrderId
  subaccountId : Option Nat

/-- `OptionFillFilter::matches`.  The subaccount only counts together with an account. -/
def OptionFillFilter.matches (self : OptionFillFilter) (fill : OptionFill) : Bool :=
  (self.optionSeriesId.all fun series => decide (fill.optionSeriesId = series)) &&
    (self.account.all fun account =>
      let isBuyer := eqIgnoreAsciiCase fill.buyer.name account.name
      let isSeller := eqIgnoreAsciiCase fill.seller.name account.name
      (isBuyer || isSeller) &&
        self.subaccountId.all fun subaccountId =>
          (isBuyer && decide (fill.buyerSubaccountId = subaccountId)) ||
            (isSeller && decide (fill.sellerSubaccountId = subaccountId))) &&
    self.orderId.all fun orderId =>
      decide (fill.buyOrderId = orderId) || decide (fill.sellOrderId = orderId) ||
        decide (fill.makerOrderId = orderId) || decide (fill.takerOrderId = orderId)

/-! ## The position -/

/-- `derive_trigger_condition`. -/
def deriveTriggerCondition (kind : OptionKind) (side : PositionSide) (cond : ConditionalType) :
    TriggerCondition :=
  let priceUpIsProfit := match kind, side with
    | .call, .long => true
    | .put, .short => true
    | _, _ => false
  match cond, priceUpIsProfit with
  | .takeProfit, true => .gte
  | .takeProfit, false => .lte
  | .stopLoss, true => .lte
  | .stopLoss, false => .gte

/-- One round of the sum: a fill counts for the buyer, and if that is someone else, against
the seller. -/
def addFill1e8 (account : AccountId) (acc : Int) (f : OptionFill) : Int :=
  if f.buyer = account then Margin.satI128 (acc + Margin.asI128 f.size1e8)
  else if f.seller = account then Margin.satI128 (acc - Margin.asI128 f.size1e8)
  else acc

/-- `compute_position_signed_1e8`. -/
def computePositionSigned1e8 (fills : List OptionFill) (account : AccountId) : Int :=
  fills.foldl (addFill1e8 account) 0

/-- What can be closed of a position. -/
structure ReduciblePosition where
  side : PositionSide
  size1e8 : Nat

/-- `classify_reducible`. -/
def classifyReducible (signed1e8 : Int) : Option ReduciblePosition :=
  if signed1e8 > 0 then some ⟨.long, signed1e8.toNat⟩
  else if signed1e8 < 0 then some ⟨.short, (-signed1e8).toNat⟩
  else none

/-- `active_committed_quantity`: a group counts once, with the first of its rows. -/
def activeCommittedQuantity (orders : List ConditionalOrder) : Nat :=
  (orders.foldl (fun (acc : List Uuid × Nat) o =>
    if o.status.isTerminal then acc
    else
      match o.ocoGroupId with
      | none => (acc.1, Margin.satAdd acc.2 o.quantity1e8)
      | some group =>
        if group ∈ acc.1 then acc
        else (group :: acc.1, Margin.satAdd acc.2 o.quantity1e8)) ([], 0)).2

/-- `select_orders_to_trigger`. -/
def selectOrdersToTrigger (armed : List ConditionalOrder)
    (priceForSeries : OptionSeriesId → Option Nat) (now : TimestampMs) : List Uuid :=
  (armed.filter fun o =>
    decide (o.status = .armed) && (o.expiresAtMs.all fun expiry => decide (now < expiry)) &&
      (priceForSeries o.optionSeriesId).any fun price =>
        o.triggerCondition.matches price o.triggerPrice1e8).map (·.id)

/-! ## Requests -/

/-- Two legs are a take-profit and a stop-loss. -/
def legsPaired (legs : List ConditionalLegInput) : Prop :=
  legs.length = 2 → .takeProfit ∈ legs.map (·.conditionalType) ∧
    .stopLoss ∈ legs.map (·.conditionalType)
  deriving Decidable

def validateLegPrices : List ConditionalLegInput → Except BackendError Unit
  | [] => .ok ()
  | leg :: legs => do
      insist (leg.triggerPrice1e8 ≠ 0) .invalidTriggerPrice
      insist (leg.limitPrice1e8 ≠ 0) .invalidConditionalLimitPrice
      validateLegPrices legs

variable (input : CreateConditionalOrderInput)

/-- The first checks of `create_conditional_orders_in_store`. -/
def validateLegs : Except BackendError Unit := do
  insist (input.quantity1e8 ≠ 0) .zeroSize
  insist (input.legs ≠ [] ∧ input.legs.length ≤ 2)
    (.invalidConditionalOrderState "must supply 1 or 2 legs")
  insist (legsPaired input.legs)
    (.invalidConditionalOrderState "two-leg request must contain one TP and one SL")
  validateLegPrices input.legs

/-- The two legs of the request are linked. -/
def CreateConditionalOrderInput.linked (input : CreateConditionalOrderInput) : Prop :=
  input.legs.length = 2 ∧ input.linkAsOco = true
  deriving Decidable

/-- `oco_share`. -/
def ocoShare : Nat :=
  if input.linked then input.quantity1e8 else Margin.satMul input.quantity1e8 input.legs.length

/-- `build_conditional_rows`; the rows take the identifiers `ids` from the `i`-th on. -/
def buildConditionalRows (series : OptionSeries) (input : CreateConditionalOrderInput)
    (positionSide : PositionSide) (ids : Nat → Uuid) (group : Uuid) (now : TimestampMs) :
    Nat → List ConditionalLegInput → Except BackendError (List ConditionalOrder)
  | _, [] => .ok []
  | i, leg :: legs => do
      let kind := OptionKind.fromIsCall series.isCall
      let derived := deriveTriggerCondition kind positionSide leg.conditionalType
      insist (∀ explicit ∈ leg.explicitTriggerCondition, explicit = derived)
        .invalidTriggerDirection
      let rows ← buildConditionalRows series input positionSide ids group now (i + 1) legs
      return {
        id := ids i
        account := input.account
        subaccountId := input.subaccountId
        optionSeriesId := series.optionSeriesId
        positionSide := positionSide
        optionKind := kind
        conditionalType := leg.conditionalType
        triggerCondition := derived
        triggerPrice1e8 := leg.triggerPrice1e8
        quantity1e8 := input.quantity1e8
        limitPrice1e8 := leg.limitPrice1e8
        ocoGroupId := if input.linked then some group else none
        status := .armed
        childOrderId := none
        failureCode := none
        failureMessage := none
        expiresAtMs := input.expiresAtMs
        triggeredAtMs := none
        completedAtMs := none
        createdAtMs := now
        updatedAtMs := now
        version := 0 } :: rows

/-! ## The store -/

/-- The part of `OptionSeriesStore` the conditional orders live in. -/
structure ConditionalStore where
  series : FMap OptionSeriesId OptionSeries
  /-- The orders and the fills. -/
  book : OptionSeriesStore
  conditionalOrders : FMap Uuid ConditionalOrder

/-- `list_fills`. -/
def OptionSeriesStore.listFills (self : OptionSeriesStore) (filter : OptionFillFilter) :
    List OptionFill :=
  (self.fills.vals.filter filter.matches).insertionSort fun a b =>
    a.createdAtMs < b.createdAtMs ∨ (a.createdAtMs = b.createdAtMs ∧ a.fillId ≤ b.fillId)

/-- The fills the position of an account in a series is computed from.  The subaccount is
not among the restrictions. -/
def positionFilter (account : AccountId) (series : OptionSeriesId) : OptionFillFilter where
  optionSeriesId := some series
  account := some account
  orderId := none
  subaccountId := none

def OptionSeriesStore.signedPosition (self : OptionSeriesStore) (account : AccountId)
    (series : OptionSeriesId) : Int :=
  computePositionSigned1e8 (self.listFills (positionFilter account series)) account

namespace ConditionalStore

/-- Nothing is there but series. -/
def new (series : FMap OptionSeriesId OptionSeries) : ConditionalStore := ⟨series, .new, ∅⟩

def onBook {α : Type} (x : Act BackendError OptionSeriesStore α) :
    Act BackendError ConditionalStore α :=
  zoom (·.book) (fun book s => { s with book := book }) x

/-- `list_conditional_orders`. -/
def listConditionalOrders (filter : ConditionalOrderFilter) (self : ConditionalStore) :
    List ConditionalOrder :=
  (self.conditionalOrders.vals.filter filter.matches).insertionSort fun a b =>
    a.createdAtMs < b.createdAtMs ∨ (a.createdAtMs = b.createdAtMs ∧ a.id ≤ b.id)

/-- `get_conditional_order`, where the row has to be there. -/
def getConditionalOrder (id : Uuid) : Act BackendError ConditionalStore ConditionalOrder :=
  fun self =>
    match self.conditionalOrders.get? id with
    | none => (.error .invalidConditionalOrderId, self)
    | some order => (.ok order, self)

/-- `update_conditional_order`, and the row is returned. -/
def updateConditionalOrder (order : ConditionalOrder) :
    Act BackendError ConditionalStore ConditionalOrder := fun self =>
  match self.conditionalOrders.get? order.id with
  | none => (.error .invalidConditionalOrderId, self)
  | some _ =>
    (.ok order, { self with conditionalOrders := self.conditionalOrders.set order.id order })

/-- `update_conditional_order_quantity_if_armed`. -/
def updateConditionalOrderQuantityIfArmed (id : Uuid) (newQuantity1e8 : Nat)
    (updatedAtMs : TimestampMs) (self : ConditionalStore) : ConditionalStore :=
  match self.conditionalOrders.get? id with
  | none => self
  | some order =>
    if order.status = .armed then
      let row := { order.restated .armed updatedAtMs with quantity1e8 := newQuantity1e8 }
      { self with conditionalOrders := self.conditionalOrders.set id row }
    else self

/-- `create_conditional_orders_in_store`. -/
def createConditionalOrdersInStore (series : OptionSeries) (input : CreateConditionalOrderInput)
    (ids : Nat → Uuid) (group : Uuid) (now : TimestampMs) :
    Act BackendError ConditionalStore (List ConditionalOrder) := do
  check (validateLegs input)
  let signed ← read fun s => s.book.signedPosition input.account series.optionSeriesId
  let position ← check <| match classifyReducible signed with
    | none => .error (.noReduciblePosition series.optionSeriesId)
    | some position => .ok position
  check (insist (input.quantity1e8 ≤ position.size1e8) .quantityExceedsPosition)
  let existing ← read (listConditionalOrders
    ⟨some input.account, some series.optionSeriesId, none, none⟩)
  check (insist (Margin.satAdd (activeCommittedQuantity existing) (ocoShare input) ≤
    position.size1e8) .quantityExceedsPosition)
  let rows ← check (buildConditionalRows series input position.side ids group now 0 input.legs)
  write fun s =>
    { s with conditionalOrders := FMap.setAll (·.id) id rows s.conditionalOrders }
  return rows

/-- `cancel_conditional_order_in_store`. -/
def cancelConditionalOrderInStore (id : Uuid) (requestingAccount : AccountId)
    (now : TimestampMs) : Act BackendError ConditionalStore ConditionalOrder := do
  let existing ← getConditionalOrder id
  check (insist (eqIgnoreAsciiCase existing.account.name requestingAccount.name = true)
    .invalidConditionalOrderId)
  check (insist (existing.status.isTerminal = false) .conditionalOrderAlreadyTerminal)
  updateConditionalOrder (existing.terminated .cancelled now)

/-- The loop of `cancel_oco_group_in_store`. -/
def cancelGroupRows (now : TimestampMs) :
    List ConditionalOrder → Act BackendError ConditionalStore (List ConditionalOrder)
  | [] => pure []
  | sib :: siblings => do
      let row ← if sib.status.isTerminal then pure sib
        else updateConditionalOrder (sib.terminated .cancelled now)
      let rows ← cancelGroupRows now siblings
      return row :: rows

/-- `cancel_oco_group_in_store`. -/
def cancelOcoGroupInStore (group : Uuid) (requestingAccount : AccountId) (now : TimestampMs) :
    Act BackendError ConditionalStore (List ConditionalOrder) := do
  let siblings ← read (listConditionalOrders ⟨some requestingAccount, none, none, some group⟩)
  check (insist (siblings ≠ []) .invalidConditionalOrderId)
  cancelGroupRows now siblings

/-! ## Triggers -/

/-- The first part of `trigger_one`, without a database. -/
def claimArmed (id : Uuid) (now : TimestampMs) :
    Act BackendError ConditionalStore ConditionalOrder := do
  let existing ← getConditionalOrder id
  check (insist (existing.status = .armed) .conditionalOrderAlreadyTerminal)
  updateConditionalOrder (existing.restated .triggering now)

/-- The loop over the siblings of a triggered order. -/
def cancelSiblings (order : ConditionalOrder) (now : TimestampMs) :
    List ConditionalOrder → Act BackendError ConditionalStore Unit
  | [] => pure ()
  | sib :: siblings =>
    if sib.id = order.id then cancelSiblings order now siblings
    else if sib.status.isTerminal then fail .ocoSiblingTerminal
    else do
      let _ ← updateConditionalOrder ((sib.terminated .cancelled now).because
        "oco_sibling_triggered"
        (some ("sibling conditional order " ++ Uuid.show order.id ++ " triggered first")))
      cancelSiblings order now siblings

def sweepSiblings (order : ConditionalOrder) (now : TimestampMs) :
    Act BackendError ConditionalStore Unit :=
  match order.ocoGroupId with
  | none => pure ()
  | some group => do
      let siblings ← read (listConditionalOrders ⟨some order.account, none, none, some group⟩)
      cancelSiblings order now siblings

end ConditionalStore

def ConditionalOrder.childInput (order : ConditionalOrder) (childQty : Nat) :
    SubmitOptionOrderInput where
  optionSeriesId := order.optionSeriesId
  account := order.account
  subaccountId := order.subaccountId
  side := order.positionSide.closingSide
  price1e8 := order.limitPrice1e8
  size1e8 := childQty
  timeInForce := .ioc
  postOnly := false
  clientOrderId := some ("cond-" ++ Uuid.show order.id)
  nonce := none
  deadlineMs := none
  signature := none
  attachedTpSl := none

namespace OptionsService

variable (svc : OptionsService)

variable (order : ConditionalOrder) (childQty : Nat) (childId : OrderId)

/-- The child order, with the hash of the test domain. -/
def childOrder (now : TimestampMs) : OptionOrder :=
  let child := orderOf (order.childInput childQty) childId now
  { child with canonicalOrderHash := some (svc.canonicalOrderHashFor child .constantTestDomain) }

/-- How a conditional order ends, from the child as it was left. -/
def conditionalStatusOf (child : OptionOrder) (filled : Nat) : ConditionalOrderStatus :=
  match finalStatusForTif child with
  | .filled => .completed
  | .partiallyFilled => .partiallyFilled
  | .cancelled => if filled > 0 then .partiallyFilled else .failed
  | _ => .failed

/-- The last part of `execute_triggered_in_store`: the child is sent, and recorded. -/
def sendChild (fillIds : Nat → Uuid) (now : TimestampMs) :
    Act BackendError ConditionalStore ConditionalOrder := do
  let child := svc.childOrder order childQty childId now
  let plan ← read fun s => s.book.matchPlan child
  match enforceTifPlan child plan with
  | .error e =>
    ConditionalStore.updateConditionalOrder
      ((order.terminated .failed now).because "tif_rejected" (some e.show))
  | .ok () => do
      let sent ← ConditionalStore.onBook <| mapError
        (fun e => .invalidConditionalOrderState ("child submit failed: " ++ e.show))
        (OptionSeriesStore.submitOrderAndMatch svc.executionIdOf fillIds now child)
      ConditionalStore.updateConditionalOrder (order.recorded
        (conditionalStatusOf sent.1 (sent.2.map (·.size1e8)).sum) sent.1.orderId childQty now)

/-- The part of `execute_triggered_in_store` after the siblings: the position is computed
again, and the child is cut to it. -/
def closePosition (order : ConditionalOrder) (childId : OrderId) (fillIds : Nat → Uuid)
    (now : TimestampMs) : Act BackendError ConditionalStore ConditionalOrder := do
  let signed ← read fun s => s.book.signedPosition order.account order.optionSeriesId
  match classifyReducible signed with
  | none =>
    ConditionalStore.updateConditionalOrder ((order.terminated .cancelled now).because
      "position_closed" (some "position is no longer open when the trigger fired"))
  | some live =>
    if live.side ≠ order.positionSide then
      ConditionalStore.updateConditionalOrder ((order.terminated .failed now).because
        "position_side_changed"
        (some "position direction changed since arming; refusing to fire"))
    else if min order.quantity1e8 live.size1e8 = 0 then
      ConditionalStore.updateConditionalOrder ((order.terminated .cancelled now).because
        "position_closed" (some "reducible size is zero at trigger time"))
    else svc.sendChild order (min order.quantity1e8 live.size1e8) childId fillIds now

/-- `execute_triggered_in_store`. -/
def executeTriggeredInStore (id : Uuid) (childId : OrderId) (fillIds : Nat → Uuid)
    (now : TimestampMs) : Act BackendError ConditionalStore ConditionalOrder := do
  let order ← ConditionalStore.getConditionalOrder id
  if order.status.isTerminal then return order
  else if order.childOrderId.isSome then
    ConditionalStore.updateConditionalOrder (order.terminated .completed now)
  else do
    ConditionalStore.sweepSiblings order now
    svc.closePosition order childId fillIds now

/-- `get_option_series`. -/
def getOptionSeries (id : OptionSeriesId) : Act BackendError ConditionalStore OptionSeries := do
  check svc.ensureEnabled
  let found ← read fun s => s.series.get? id
  check <| match found with
    | none => .error (.invalidOptionSeriesId id)
    | some series => .ok series

/-- `create_conditional_orders`, without a database. -/
def createConditionalOrders (input : CreateConditionalOrderInput) (ids : Nat → Uuid)
    (group : Uuid) (now : TimestampMs) :
    Act BackendError ConditionalStore (List ConditionalOrder) := do
  let series ← svc.getOptionSeries input.optionSeriesId
  ConditionalStore.createConditionalOrdersInStore series input ids group now

/-- `submit_option_order_inner`, without a database. -/
def submitOptionOrderInStore (orderId : OrderId) (fillIds : Nat → Uuid) (now : TimestampMs)
    (input : SubmitOptionOrderInput) :
    Act BackendError ConditionalStore (OptionOrder × List OptionFill) := do
  check (svc.validateSubmit now input)
  let found ← read fun s => s.series.get? input.optionSeriesId
  let openOrders ← read fun s => s.book.orders.vals.filter fun o =>
    decide (o.optionSeriesId = input.optionSeriesId) && o.status.isLive
  let _ ← check (svc.validateSeries now input found openOrders)
  ConditionalStore.onBook (OptionSeriesStore.submitOrderAndMatch svc.executionIdOf fillIds now
    (svc.newOptionOrder input orderId now))

end OptionsService

end DeoptBackend
