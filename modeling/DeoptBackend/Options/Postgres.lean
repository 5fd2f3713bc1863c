import DeoptBackend.Options.Reservations
import DeoptBackend.Options.Matching

/-!
# The option matcher of the database (`src/db/repository.rs`)

The tables behind the option book, the statements the matcher sends, and
`submit_option_order_and_match_with_reservations`, which runs them in one
transaction: the arriving order is stored with the row it will end up with, its plan
is carried out on the locked makers, and the reservation ledger is brought up to date.

* `insertOptionOrderTx`, `updateOptionOrderTx`, `insertOptionFillTx` — the statements,
  with the constraints of the tables.  A subaccount that is no `INTEGER` is stored as 1.
* `matchLegsTx` — the loop over the plan; `ledgerTx` — the writes to the ledger.
* `cancelOptionOrder`, `expireOptionOrdersDue` — the other two ways a row changes.

A violated constraint is reported with the database's text, which stands here for
whatever it says.
-/

namespace DeoptBackend

open Act

/-! ## Tables -/

inductive OptionSeriesStatus where
  | active
  | expired
  | disabled
  deriving DecidableEq

/-- A series: what its orders are checked and its amounts computed with. -/
structure OptionSeries where
  optionSeriesId : OptionSeriesId
  underlying : String
  settlementAsset : String
  /-- When it expires, in seconds. -/
  expiry : Nat
  strike1e8 : Nat
  isCall : Bool
  contractSize1e8 : Nat
  status : OptionSeriesStatus

/-- `effective_status`. -/
def OptionSeries.effectiveStatus (self : OptionSeries) (nowSec : Nat) : OptionSeriesStatus :=
  if self.status = .active ∧ nowSec ≥ self.expiry then .expired else self.status

structure OptionTables where
  /-- `option_series`. -/
  series : FMap OptionSeriesId OptionSeries
  /-- `option_orders`. -/
  orders : FMap OrderId OptionOrder
  /-- `option_fills`. -/
  fills : FMap Uuid OptionFill
  /-- `option_reservations`. -/
  reservations : ReservationTable

variable (sqlLower : String → String)

/-- What `idx_option_orders_live_account_client_id` finds an order under. -/
def OptionOrder.clientIndex (o : OptionOrder) : Option (String × String) :=
  if o.status.isLive then o.clientOrderId.map fun id => (sqlLower o.account.name, id) else none

/-! ## Statements -/

/-- A violated `CHECK`, foreign key or unique index of another table. -/
def violation (what : String) : BackendError :=
  .persistence ("error returned from database: " ++ what)

def OptionOrder.stored (o : OptionOrder) : OptionOrder :=
  { o with subaccountId := storedSubaccount o.subaccountId }

/-- The order's name, hash or live client id is taken. -/
def orderTaken (o : OptionOrder) (orders : FMap OrderId OptionOrder) : Bool :=
  (orders.get? o.orderId).isSome ||
    (o.canonicalOrderHash.any fun hash =>
      (orders.at? OptionOrder.canonicalOrderHash hash).isSome) ||
    (o.clientIndex sqlLower).any fun key => (orders.at? (OptionOrder.clientIndex sqlLower) key).isSome

/-- `insert_option_order_tx`: any violated unique index is reported as a duplicate
client order id. -/
def insertOptionOrderTx (order : OptionOrder) : Act BackendError OptionTables Unit := fun db =>
  if order.stored.subaccountId < 1 then (.error (violation "option_orders violates check"), db)
  else if orderTaken sqlLower order.stored db.orders then
    (.error (.invalidOptionOrderState "duplicate open client_order_id for option account"), db)
  else if (db.series.get? order.optionSeriesId).isNone then
    (.error (violation "option_orders violates foreign key"), db)
  else (.ok (), { db with orders := db.orders.set order.orderId order.stored })

/-- `update_option_order_tx`. -/
def updateOptionOrderTx (order : OptionOrder) : Act BackendError OptionTables Unit :=
  write fun db =>
    { db with orders := db.orders.alter order.orderId fun row =>
        row.restated order.remainingSize1e8 order.status order.updatedAtMs }

def OptionFill.stored (f : OptionFill) : OptionFill :=
  { f with
    buyerSubaccountId := storedSubaccount f.buyerSubaccountId
    sellerSubaccountId := storedSubaccount f.sellerSubaccountId }

/-- The table takes a fill: its subaccounts pass their checks, and neither its
identifier nor its execution is there. -/
def OptionFill.Insertable (f : OptionFill) (fills : FMap Uuid OptionFill) : Prop :=
  1 ≤ f.stored.buyerSubaccountId ∧ 1 ≤ f.stored.sellerSubaccountId ∧ fills.get? f.fillId = none ∧
    ∀ id, f.canonicalExecutionId = some id → fills.at? OptionFill.canonicalExecutionId id = none

instance (f : OptionFill) (fills : FMap Uuid OptionFill) : Decidable (f.Insertable fills) :=
  haveI : Decidable (∀ id, f.canonicalExecutionId = some id →
      fills.at? OptionFill.canonicalExecutionId id = none) :=
    match h : f.canonicalExecutionId with
    | none => .isTrue fun id hid => by cases hid
    | some id =>
      decidable_of_iff (fills.at? OptionFill.canonicalExecutionId id = none)
        ⟨fun hnone _ hid => by cases hid; exact hnone, fun hall => hall id rfl⟩
  inferInstanceAs (Decidable (_ ∧ _))

/-- `insert_option_fill_tx`; its orders and its series are rows of this transaction. -/
def insertOptionFillTx (fill : OptionFill) : Act BackendError OptionTables Unit := fun db =>
  if fill.Insertable db.fills then
    (.ok (), { db with fills := db.fills.set fill.fillId fill.stored })
  else (.error (violation "option_fills violates a constraint"), db)

/-! ## The matcher -/

/-- The rows the matcher locks, in the order the database gives them: they are sorted
afterwards. -/
def liveOpposite (incoming : OptionOrder) (db : OptionTables) : List OptionOrder :=
  db.orders.vals.filter fun o =>
    o.optionSeriesId = incoming.optionSeriesId ∧ o.side = incoming.side.opposite ∧
      o.status.isLive = true

/-- `can_match_option_orders`, the copy of `can_match`. -/
def canMatchOptionOrders (incoming resting : OptionOrder) : Bool := canMatch incoming resting

/-- `sort_option_match_candidates`, the copy of `sort_match_candidates`. -/
def sortOptionMatchCandidates (orders : List OptionOrder) (takerSide : Side) : List OptionOrder :=
  sortMatchCandidates orders takerSide

/-- Where the loop over the legs stands. -/
structure MatchingTx where
  /-- The arriving order, with what is left of it. -/
  incoming : OptionOrder
  /-- The locked makers, as they have become. -/
  makerById : FMap OrderId OptionOrder
  /-- The fills made so far. -/
  fills : List OptionFill
  fullyConsumedMakerHashes : List String
  /-- The makers with something left. -/
  partiallyConsumedMakers : FMap OrderId OptionOrder

/-- The identifiers a submit draws for its reservations. -/
inductive ReservationSlot where
  /-- The hold of the arriving order. -/
  | taker
  /-- The new hold of the `i`-th resized maker. -/
  | residual (i : Nat)
  /-- The buyer's hold for the `i`-th fill. -/
  | buyer (i : Nat)
  /-- The seller's hold for the `i`-th fill. -/
  | seller (i : Nat)

/-- The identifiers a submit draws. -/
structure MatchDraws where
  fillIds : Nat → Uuid
  reservationId : ReservationSlot → Uuid

section

variable (executionIdOf : ExecutionIdOf) (domain : OptionsCanonicalDomain)
  (draws : MatchDraws) (now : TimestampMs)

/-- One round of the loop. -/
def matchLegTx (st : MatchingTx) (leg : OptionMatchLeg) :
    Act BackendError OptionTables MatchingTx :=
  match st.makerById.get? leg.makerId with
  | none => fail (.persistence
      ("match plan referenced unknown maker " ++ Uuid.show leg.makerId.uuid))
  | some maker => do
      let fill := optionFillFromMatch executionIdOf domain st.incoming maker leg.fillSize1e8 now
        (draws.fillIds st.fills.length)
      let remaining1e8 := maker.remainingSize1e8 - leg.fillSize1e8
      let row := maker.restated remaining1e8 (statusForRemaining maker.size1e8 remaining1e8) now
      updateOptionOrderTx row
      insertOptionFillTx fill
      let others := st.partiallyConsumedMakers.del row.orderId
      return {
        incoming := { st.incoming with
          remainingSize1e8 := st.incoming.remainingSize1e8 - leg.fillSize1e8 }
        makerById := st.makerById.set leg.makerId row
        fills := st.fills ++ [fill]
        fullyConsumedMakerHashes :=
          if row.remainingSize1e8 = 0 then
            st.fullyConsumedMakerHashes ++ row.canonicalOrderHash.toList
          else st.fullyConsumedMakerHashes
        partiallyConsumedMakers :=
          if row.remainingSize1e8 = 0 then others else others.set row.orderId row }

/-- The loop. -/
def matchLegsTx : List OptionMatchLeg → MatchingTx → Act BackendError OptionTables MatchingTx
  | [], st => pure st
  | leg :: legs, st => do
      let st ← matchLegTx executionIdOf domain draws now st leg
      matchLegsTx legs st

variable (plan : MatcherReservationPlan) (taker : OptionOrder)

/-- The hold of an arriving order that rests. -/
def holdTakerTx : Act BackendError ReservationTable Unit :=
  if 0 < taker.remainingSize1e8 ∧ taker.status.isLive = true then
    match plan.takerOpenOrder with
    | none => pure ()
    | some input => do
        let _ ← insertOpenOrderReservationTx (draws.reservationId .taker) input
        return ()
  else pure ()

/-- The holds of the makers with nothing left are ended. -/
def convertMakersTx : List String → Act BackendError ReservationTable Unit
  | [] => pure ()
  | hash :: hashes => do
      let _ ← markOpenOrderConvertedTx hash now
      convertMakersTx hashes

/-- The holds of the makers with something left are resized. -/
def resizeMakersTx (scaffold : PendingSettlementScaffold) :
    Nat → List OptionOrder → Act BackendError ReservationTable Unit
  | _, [] => pure ()
  | i, maker :: makers => do
      let residual ← check (scaffold.buildMakerResidualOpenOrderInput maker now)
      let _ ← resizeOpenOrderOnPartialFillTx (draws.reservationId (.residual i))
        residual.canonicalOrderHash residual now
      resizeMakersTx scaffold (i + 1) makers

def holdFillsTx (scaffold : PendingSettlementScaffold) :
    Nat → List OptionFill → Act BackendError ReservationTable Unit
  | _, [] => pure ()
  | i, fill :: fills => do
      let (buyer, seller) ← check (scaffold.buildPendingPair fill now)
      let _ ← insertPendingSettlementReservationTx (draws.reservationId (.buyer i)) buyer
      let _ ← insertPendingSettlementReservationTx (draws.reservationId (.seller i)) seller
      holdFillsTx scaffold (i + 1) fills

/-- The writes to the ledger, with the order they are made in. -/
def ledgerTx (done : MatchingTx) : Act BackendError ReservationTable Unit := do
  holdTakerTx draws plan taker
  convertMakersTx now done.fullyConsumedMakerHashes
  match plan.pendingScaffold with
  | none => pure ()
  | some scaffold => do
      resizeMakersTx draws now scaffold 0 done.partiallyConsumedMakers.vals
      holdFillsTx draws now scaffold 0 done.fills

def writeLedger (taker : OptionOrder) (done : MatchingTx) :
    Option MatcherReservationPlan → Act BackendError ReservationTable Unit
  | none => pure ()
  | some plan => ledgerTx draws now plan taker done

/-- Run on the ledger. -/
def onReservations {α : Type} (x : Act BackendError ReservationTable α) :
    Act BackendError OptionTables α :=
  zoom (·.reservations) (fun m db => { db with reservations := m }) x

/-- The row an arriving order is inserted with, from the total of its plan. -/
def finalTaker (incoming : OptionOrder) (plan : OptionMatchPlan) : OptionOrder :=
  let staged := { incoming with
    remainingSize1e8 := incoming.size1e8 - plan.totalFillSize1e8
    updatedAtMs := now }
  stampInsertTerminalReason { staged with status := finalStatusForTif staged }

variable (sqlLower : String → String) (incoming : OptionOrder)
  (reservationPlan : Option MatcherReservationPlan)

/-- The body of the transaction. -/
def matchTx : Act BackendError OptionTables (OptionOrder × List OptionFill) := do
  let rows ← read (liveOpposite incoming)
  let candidates := sortOptionMatchCandidates (rows.filter (canMatchOptionOrders incoming))
    incoming.side
  let plan := buildOptionMatchPlan incoming candidates
  check (enforceTifPlan incoming plan)
  let taker := finalTaker now incoming plan
  insertOptionOrderTx sqlLower taker
  let done ← matchLegsTx executionIdOf domain draws now plan.legs
    ⟨incoming, FMap.setAll (·.orderId) id candidates ∅, [], [], ∅⟩
  onReservations (writeLedger draws now taker done reservationPlan)
  return (taker, done.fills)

/-- `submit_option_order_and_match_with_reservations`. -/
def submitOptionOrderAndMatchWithReservations :
    Act BackendError OptionTables (OptionOrder × List OptionFill) :=
  atomically (matchTx executionIdOf domain draws now sqlLower incoming reservationPlan)

end

/-! ## Cancels and the sweep -/

/-- `cancel_option_order`. -/
def cancelOptionOrder (orderId : OrderId) (now : TimestampMs) :
    Act BackendError OptionTables OptionOrder := fun db =>
  match db.orders.get? orderId with
  | none => (.error .invalidOptionOrderId, db)
  | some order =>
    if order.status.isLive then
      let row := order.ended .cancelled TerminalReason.userCancelled TerminalReason.sourceUser now
      (.ok row, { db with orders := db.orders.set orderId row })
    else
      (.error (.invalidOptionOrderState ("option order is " ++ order.status.asStr)), db)

/-- The rows `expire_option_orders_due` updates. -/
def OptionOrder.due (now : TimestampMs) (order : OptionOrder) : Bool :=
  order.status.isLive && order.deadlineMs.any fun deadline => decide (deadline ≤ now)

/-- `expire_option_orders_due`. -/
def expireOptionOrdersDue (now : TimestampMs) :
    Act BackendError OptionTables (List OptionOrder) := fun db =>
  let expired := fun order : OptionOrder =>
    order.ended .expired TerminalReason.expired TerminalReason.sourceExpirySweep now
  (.ok ((db.orders.vals.filter (OptionOrder.due now)).map expired),
    { db with orders := db.orders.mapVals fun o => if o.due now then expired o else o })

end DeoptBackend
