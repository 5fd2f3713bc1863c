import DeoptBackend.Lib.Act
import DeoptBackend.Lib.PartialIndex
import DeoptBackend.Options.Types

/-!
# The reservation ledger (`src/options/reservation_repository.rs`, `reservation_formulas.rs`)

Collateral is held in rows of `option_reservations`: an `OPEN_ORDER` row while an order
rests, a `PENDING_SETTLEMENT` row for each side of a fill until it settles.  A row is
never changed but for its status; a hold of another size is another row.

* `buyReservation`, `shortPutReservation`, `shortCallReservationPhysical` — the
  amounts, rounded up.
* `OptionReservation.openOrderIndex`, `pendingIndex` — the two partial unique indexes.
  `activeHold` is what the first finds.
* `insertOpenOrderReservationTx`, `endOpenOrder`, `resizeOpenOrderOnPartialFillTx`,
  `insertPendingSettlementReservationTx` — the statements, each with a lemma that says
  what it does to the active holds.
-/

namespace DeoptBackend

open FMap Option

/-! ## The formulas -/

/-- `SCALE_1E8`. -/
def scale1e8 : Nat := 100000000

/-- `SCALE_1E16`. -/
def scale1e16 : Nat := 10000000000000000

/-- The first natural past `U256`. -/
def pastU256 : Nat := 2 ^ 256

/-- `overflow_error`. -/
def overflowError (place : String) : BackendError :=
  .invalidOptionExecutionIntentState ("reservation formula overflow: " ++ place)

def ceilQuotient (numerator denominator : Nat) : Nat :=
  if numerator % denominator = 0 then numerator / denominator else numerator / denominator + 1

/-- `ceil_div_by_u128`. -/
def ceilDivByU128 (numerator denominator : Nat) : Except BackendError Nat :=
  if denominator = 0 then
    .error (.invalidOptionExecutionIntentState "reservation formula denominator is zero")
  else if ceilQuotient numerator denominator ≤ maxU128 then
    .ok (ceilQuotient numerator denominator)
  else .error (overflowError "result > u128")

/-- `ceil_div_wide_by_scale`. -/
def ceilDivWideByScale (a b c scale : Nat) : Except BackendError Nat :=
  if pastU256 ≤ a * b then .error (overflowError "a * b")
  else if pastU256 ≤ a * b * c then .error (overflowError "a * b * c")
  else ceilDivByU128 (a * b * c) scale

def checkedFormula (quantity1e8 contractSize1e8 : Nat) (formula : Except BackendError Nat) :
    Except BackendError Nat :=
  if quantity1e8 = 0 then .error .zeroSize
  else if contractSize1e8 = 0 then
    .error (.invalidOptionExecutionIntentState "contract_size_1e8 must be nonzero")
  else formula

/-- Quantity times contract size times a factor that must not be zero. -/
def wideReservation (zeroFactor : BackendError) (quantity1e8 contractSize1e8 factor1e8 : Nat) :
    Except BackendError Nat :=
  checkedFormula quantity1e8 contractSize1e8
    (if factor1e8 = 0 then .error zeroFactor
      else ceilDivWideByScale quantity1e8 contractSize1e8 factor1e8 scale1e16)

/-- `buy_reservation`. -/
def buyReservation (quantity1e8 contractSize1e8 premium1e8 : Nat) : Except BackendError Nat :=
  wideReservation .zeroPrice quantity1e8 contractSize1e8 premium1e8

/-- `short_put_reservation`. -/
def shortPutReservation (quantity1e8 contractSize1e8 strike1e8 : Nat) : Except BackendError Nat :=
  wideReservation (.invalidOptionExecutionIntentState "strike_1e8 must be nonzero") quantity1e8
    contractSize1e8 strike1e8

/-- `short_call_reservation_physical`. -/
def shortCallReservationPhysical (quantity1e8 contractSize1e8 : Nat) : Except BackendError Nat :=
  checkedFormula quantity1e8 contractSize1e8
    (if pastU256 ≤ quantity1e8 * contractSize1e8 then
        .error (overflowError "quantity * contract_size")
      else ceilDivByU128 (quantity1e8 * contractSize1e8) scale1e8)

/-! ## Rows -/

/-- What a hold is for. -/
inductive OptionReservationPurpose where
  /-- `OPEN_ORDER`: an order rests. -/
  | openOrder
  /-- `PENDING_SETTLEMENT`: a fill waits to be settled. -/
  | pendingSettlement
  deriving DecidableEq

/-- Where a hold stands; only an active one counts. -/
inductive OptionReservationStatus where
  | active
  | converted
  | released
  | settled
  | manualReview
  deriving DecidableEq

/-- A row of `option_reservations`; amounts are stored as decimal texts. -/
structure OptionReservation where
  /-- The identifier the database draws. -/
  reservationId : Uuid
  purpose : OptionReservationPurpose
  deploymentId : Int
  chainId : Int
  owner : String
  subaccountId : Nat
  collateralToken : String
  /-- The order an `OPEN_ORDER` row is for. -/
  canonicalOrderHash : Option String
  /-- The execution a `PENDING_SETTLEMENT` row is for. -/
  canonicalExecutionId : Option String
  optionSeriesId : OptionSeriesId
  side : Side
  reservedAmount : Nat
  quantity1e8 : Nat
  status : OptionReservationStatus
  terminalReason : Option String
  createdAtMs : TimestampMs
  updatedAtMs : TimestampMs

namespace OptionReservation

variable (r : OptionReservation)

/-- What `ux_option_reservations_active_open_order` finds a row under. -/
def openOrderIndex : Option String :=
  if r.status = .active ∧ r.purpose = .openOrder then r.canonicalOrderHash else none

/-- What `ux_option_reservations_active_pending_settlement` finds a row under. -/
def pendingIndex : Option (String × String × Nat × String) :=
  if r.status = .active ∧ r.purpose = .pendingSettlement then
    r.canonicalExecutionId.map fun id => (id, r.owner, r.subaccountId, r.collateralToken)
  else none

/-- The row with its hold ended. -/
def closed (status : OptionReservationStatus) (reason : String) (now : TimestampMs) :
    OptionReservation :=
  { r with status := status, terminalReason := some reason, updatedAtMs := now }

end OptionReservation

/-- The ledger. -/
abbrev ReservationTable := FMap Uuid OptionReservation

def activeHold (m : ReservationTable) (hash : String) : Option OptionReservation :=
  m.at? OptionReservation.openOrderIndex hash

/-- The subaccount a row is stored with: `i32::try_from(..).unwrap_or(1)`. -/
def storedSubaccount (subaccountId : Nat) : Nat := if subaccountId ≤ maxI32 then subaccountId else 1

/-- What an `OPEN_ORDER` row is made from. -/
structure OpenOrderReservationInput where
  deploymentId : Int
  chainId : Int
  owner : String
  subaccountId : Nat
  collateralToken : String
  canonicalOrderHash : String
  optionSeriesId : OptionSeriesId
  side : Side
  reservedAmount : Nat
  quantity1e8 : Nat
  nowMs : TimestampMs

def OpenOrderReservationInput.row (input : OpenOrderReservationInput) (reservationId : Uuid) :
    OptionReservation where
  reservationId := reservationId
  purpose := .openOrder
  deploymentId := input.deploymentId
  chainId := input.chainId
  owner := input.owner
  subaccountId := input.subaccountId
  collateralToken := input.collateralToken
  canonicalOrderHash := some input.canonicalOrderHash
  canonicalExecutionId := none
  optionSeriesId := input.optionSeriesId
  side := input.side
  reservedAmount := input.reservedAmount
  quantity1e8 := input.quantity1e8
  status := .active
  terminalReason := none
  createdAtMs := input.nowMs
  updatedAtMs := input.nowMs

/-- What a `PENDING_SETTLEMENT` row is made from. -/
structure PendingSettlementReservationInput where
  deploymentId : Int
  chainId : Int
  owner : String
  subaccountId : Nat
  collateralToken : String
  canonicalExecutionId : String
  optionSeriesId : OptionSeriesId
  side : Side
  reservedAmount : Nat
  quantity1e8 : Nat
  nowMs : TimestampMs

def PendingSettlementReservationInput.row (input : PendingSettlementReservationInput)
    (reservationId : Uuid) : OptionReservation where
  reservationId := reservationId
  purpose := .pendingSettlement
  deploymentId := input.deploymentId
  chainId := input.chainId
  owner := input.owner
  subaccountId := input.subaccountId
  collateralToken := input.collateralToken
  canonicalOrderHash := none
  canonicalExecutionId := some input.canonicalExecutionId
  optionSeriesId := input.optionSeriesId
  side := input.side
  reservedAmount := input.reservedAmount
  quantity1e8 := input.quantity1e8
  status := .active
  terminalReason := none
  createdAtMs := input.nowMs
  updatedAtMs := input.nowMs

/-- What the amounts of a series are computed from. -/
structure PendingSettlementScaffold where
  deploymentId : Int
  chainId : Int
  buyerCollateralToken : String
  sellerCollateralToken : String
  optionSeriesId : OptionSeriesId
  contractSize1e8 : Nat
  isCall : Bool
  strike1e8 : Nat

/-- What a submit hands to the matcher for the ledger. -/
structure MatcherReservationPlan where
  /-- The hold of the arriving order, should it rest. -/
  takerOpenOrder : Option OpenOrderReservationInput
  /-- What the holds of its fills are computed from. -/
  pendingScaffold : Option PendingSettlementScaffold

namespace PendingSettlementScaffold

variable (self : PendingSettlementScaffold)

def sellerAmount (size1e8 : Nat) : Except BackendError Nat :=
  if self.isCall then shortCallReservationPhysical size1e8 self.contractSize1e8
  else shortPutReservation size1e8 self.contractSize1e8 self.strike1e8

/-- `build_pending_pair`. -/
def buildPendingPair (fill : OptionFill) (now : TimestampMs) : Except BackendError
      (PendingSettlementReservationInput × PendingSettlementReservationInput) :=
  match fill.canonicalExecutionId with
  | none => .error (.persistence
      "PendingSettlementScaffold::build_pending_pair: fill missing canonical_execution_id")
  | some canonical => do
      let buyerAmount ← buyReservation fill.size1e8 self.contractSize1e8 fill.price1e8
      let sellerAmount ← self.sellerAmount fill.size1e8
      let buyerInput : PendingSettlementReservationInput :=
        { deploymentId := self.deploymentId
          chainId := self.chainId
          owner := fill.buyer.name
          subaccountId := storedSubaccount fill.buyerSubaccountId
          collateralToken := self.buyerCollateralToken
          canonicalExecutionId := canonical
          optionSeriesId := self.optionSeriesId
          side := .buy
          reservedAmount := buyerAmount
          quantity1e8 := fill.size1e8
          nowMs := now }
      return (buyerInput, { buyerInput with
          owner := fill.seller.name
          subaccountId := storedSubaccount fill.sellerSubaccountId
          collateralToken := self.sellerCollateralToken
          side := .sell
          reservedAmount := sellerAmount })

/-- Both sides of a fill that has a name can be held when both amounts can be computed. -/
theorem exists_buildPendingPair {self : PendingSettlementScaffold} {buyerAmount sellerAmount : Nat}
    (hname : fill.canonicalExecutionId = some canonical)
    (hbuyer : buyReservation fill.size1e8 self.contractSize1e8 fill.price1e8 = .ok buyerAmount)
    (hseller : self.sellerAmount fill.size1e8 = .ok sellerAmount) (now : TimestampMs) :
    ∃ pair, self.buildPendingPair fill now = .ok pair := by
  simp only [buildPendingPair, hname, hbuyer, hseller]
  exact ⟨_, rfl⟩

/-- The token and the amount an order of a side holds for a size. -/
def holdFor (side : Side) (price1e8 size1e8 : Nat) : Except BackendError (String × Nat) :=
  match side with
  | .buy => (buyReservation size1e8 self.contractSize1e8 price1e8).map
      fun amount => (self.buyerCollateralToken, amount)
  | .sell => (self.sellerAmount size1e8).map fun amount => (self.sellerCollateralToken, amount)

/-- `build_maker_residual_open_order_input`. -/
def buildMakerResidualOpenOrderInput (maker : OptionOrder) (now : TimestampMs) :
    Except BackendError OpenOrderReservationInput :=
  match maker.canonicalOrderHash with
  | none => .error (.persistence
      "build_maker_residual_open_order_input: maker missing canonical_order_hash")
  | some hash =>
    if maker.remainingSize1e8 = 0 then
      .error (.persistence "build_maker_residual_open_order_input: maker has zero residual")
    else
      (self.holdFor maker.side maker.price1e8 maker.remainingSize1e8).map
        fun (token, amount) =>
          { deploymentId := self.deploymentId
            chainId := self.chainId
            owner := maker.account.name
            subaccountId := storedSubaccount maker.subaccountId
            collateralToken := token
            canonicalOrderHash := hash
            optionSeriesId := self.optionSeriesId
            side := maker.side
            reservedAmount := amount
            quantity1e8 := maker.remainingSize1e8
            nowMs := now }

end PendingSettlementScaffold

/-! ## Statements -/

variable (reservationId : Uuid)

/-- `insert_open_order_reservation_tx`: a row under a hash that has an active one is not
inserted, and must be the same holder's. -/
def insertOpenOrderReservationTx (input : OpenOrderReservationInput) :
    Act BackendError ReservationTable OptionReservation := fun m =>
  match activeHold m input.canonicalOrderHash with
  | none => (.ok (input.row reservationId), m.set reservationId (input.row reservationId))
  | some existing =>
    if existing.deploymentId ≠ input.deploymentId ∨ existing.chainId ≠ input.chainId ∨
        existing.owner ≠ input.owner ∨ existing.subaccountId ≠ input.subaccountId ∨
        existing.collateralToken ≠ input.collateralToken then
      (.error (.persistence ("insert_open_order_reservation_tx: retry identity mismatch for " ++
        input.canonicalOrderHash)), m)
    else (.ok existing, m)

/-- `insert_pending_settlement_reservation_tx`. -/
def insertPendingSettlementReservationTx (input : PendingSettlementReservationInput) :
    Act BackendError ReservationTable OptionReservation := fun m =>
  match m.at? OptionReservation.pendingIndex
      (input.canonicalExecutionId, input.owner, input.subaccountId, input.collateralToken) with
  | none => (.ok (input.row reservationId), m.set reservationId (input.row reservationId))
  | some existing => (.ok existing, m)

/-- The update the active hold of an order is ended with. -/
def endOpenOrder (status : OptionReservationStatus) (reason hash : String) (now : TimestampMs) :
    Act BackendError ReservationTable (Option OptionReservation) := fun m =>
  match activeHold m hash with
  | none => (.ok none, m)
  | some row =>
    (.ok (some (row.closed status reason now)),
      m.set row.reservationId (row.closed status reason now))

/-- `release_open_order_tx`. -/
def releaseOpenOrderTx (hash reason : String) (now : TimestampMs) :
    Act BackendError ReservationTable (Option OptionReservation) :=
  endOpenOrder .released reason hash now

/-- `mark_open_order_converted_tx`. -/
def markOpenOrderConvertedTx (hash : String) (now : TimestampMs) :
    Act BackendError ReservationTable (Option OptionReservation) :=
  endOpenOrder .converted "MATCHED_TO_PENDING_SETTLEMENT" hash now

/-- `resize_open_order_on_partial_fill_tx`. -/
def resizeOpenOrderOnPartialFillTx (hash : String) (residual : OpenOrderReservationInput)
    (now : TimestampMs) : Act BackendError ReservationTable
      (Option OptionReservation × Option OptionReservation) := do
  match ← endOpenOrder .converted "PARTIAL_FILL_RESIZED" hash now with
  | none => return (none, none)
  | some converted => do
      let successor ← insertOpenOrderReservationTx reservationId residual
      return (some converted, some successor)

/-! ## What the statements do to the active holds -/

namespace ReservationTable

/-- What the ledger keeps: a row is filed under its own identifier, and no two active
`OPEN_ORDER` rows are for one order. -/
structure WellFormed (m : ReservationTable) : Prop where
  /-- A row is filed under its own identifier. -/
  filed : ∀ {id r}, m.get? id = some r → r.reservationId = id
  /-- One active hold per order. -/
  unique : m.UniqueIndex OptionReservation.openOrderIndex

theorem wellFormed_empty : WellFormed ∅ where
  filed := by intro id r h; simp at h
  unique := uniqueIndex_empty

variable {m : ReservationTable} {id : Uuid} {hash : String}

@[simp] theorem openOrderIndex_row (input : OpenOrderReservationInput) (id : Uuid) :
    (input.row id).openOrderIndex = some input.canonicalOrderHash := rfl

@[simp] theorem openOrderIndex_pending (input : PendingSettlementReservationInput) (id : Uuid) :
    (input.row id).openOrderIndex = none := rfl

theorem openOrderIndex_closed (r : OptionReservation) (h : status ≠ .active) (reason : String)
    (now : TimestampMs) : (r.closed status reason now).openOrderIndex = none := by
  simp [OptionReservation.openOrderIndex, OptionReservation.closed, h]

/-- A change of the ledger that leaves it well-formed, uses no identifier but one, and
changes at most one active hold. -/
structure Rewrites (m : ReservationTable) (id : Uuid) (hash : String)
    (hold : Option OptionReservation) (m' : ReservationTable) : Prop where
  wellFormed : WellFormed m'
  /-- No other identifier is used. -/
  unused : ∀ j, j ≠ id → m.get? j = none → m'.get? j = none
  /-- The hold of one order changes. -/
  holds : ∀ h, activeHold m' h = if h = hash then hold else activeHold m h

theorem WellFormed.set (hm : WellFormed m) (hr : r.reservationId = id)
    (hu : (m.set id r).UniqueIndex OptionReservation.openOrderIndex) : WellFormed (m.set id r) where
  filed h := forall_set h hr hm.filed
  unique := hu

theorem get?_set_unused (hj : j ≠ id) (h : m.get? j = none) : (m.set id r).get? j = none := by
  rw [get?_set_ne _ hj, h]

/-- A hold is opened under a hash that has none. -/
theorem insertOpenOrder_new (hm : WellFormed m) (hid : m.get? id = none)
    (hnone : activeHold m input.canonicalOrderHash = none) :
    ∃ m', insertOpenOrderReservationTx id input m = (.ok (input.row id), m') ∧
      Rewrites m id input.canonicalOrderHash (some (input.row id)) m' := by
  obtain ⟨hu, hat⟩ := hm.unique.set_new hid (openOrderIndex_row input id) hnone
  refine ⟨m.set id (input.row id), by simp [insertOpenOrderReservationTx, hnone], ?_, ?_, hat⟩
  · exact hm.set rfl hu
  · intro j hj hfree
    exact get?_set_unused hj hfree

/-- A pending row leaves the holds of orders alone. -/
theorem insertPending_ok (hm : WellFormed m) (hid : m.get? id = none)
    (input : PendingSettlementReservationInput) :
    ∃ r m', insertPendingSettlementReservationTx id input m = (.ok r, m') ∧ WellFormed m' ∧
      (∀ j, j ≠ id → m.get? j = none → m'.get? j = none) ∧
      ∀ h, activeHold m' h = activeHold m h := by
  unfold insertPendingSettlementReservationTx
  split
  · have hfree : ∀ {j u k}, (input.row id).openOrderIndex = some k → m.get? j = some u →
        OptionReservation.openOrderIndex u = some k → j = id := by
      intro j u k hk
      cases hk
    refine ⟨_, _, rfl, hm.set rfl (hm.unique.set hfree),
      fun j hj hnone => get?_set_unused hj hnone, fun h => ?_⟩
    have hat := hm.unique.at?_set (k := h) hfree
    rw [openOrderIndex_pending, hid] at hat
    rw [activeHold, activeHold]
    simpa using hat
  · exact ⟨_, _, rfl, hm, fun j _ h => h, fun _ => rfl⟩

theorem endOpenOrder_ok (hm : WellFormed m) (hstatus : status ≠ .active) (reason hash : String)
    (now : TimestampMs) :
    ∃ r m', endOpenOrder status reason hash now m = (.ok r, m') ∧ WellFormed m' ∧
      (r = none ↔ activeHold m hash = none) ∧ (∀ j, m.get? j = none → m'.get? j = none) ∧
      ∀ h, activeHold m' h = if h = hash then none else activeHold m h := by
  unfold endOpenOrder
  cases hhold : activeHold m hash with
  | none =>
    refine ⟨none, m, rfl, hm, by simp, fun _ h => h, fun h => ?_⟩
    split
    · next heq => rw [heq, hhold]
    · rfl
  | some row =>
    obtain ⟨i, hi, hindex⟩ := of_at? hhold
    have hrow : m.get? row.reservationId = some row := by rw [hm.filed hi, hi]
    obtain ⟨hu, hat⟩ := hm.unique.set_gone hrow hindex
      (openOrderIndex_closed row hstatus reason now)
    refine ⟨_, _, rfl, hm.set rfl hu, by simp, fun j hj => ?_, hat⟩
    have hne : j ≠ row.reservationId := by
      rintro rfl
      rw [hrow] at hj
      cases hj
    exact get?_set_unused hne hj

/-- Resizing a hold: there is one afterwards only if there was one before. -/
theorem resizeOpenOrder_ok (hm : WellFormed m) (hid : m.get? id = none)
    {residual : OpenOrderReservationInput} (hhash : residual.canonicalOrderHash = hash)
    (now : TimestampMs) :
    ∃ r m', resizeOpenOrderOnPartialFillTx id hash residual now m = (.ok r, m') ∧
      Rewrites m id hash ((activeHold m hash).map fun _ => residual.row id) m' := by
  obtain ⟨converted, m₁, hend, hm₁, hiff, hunused, hholds⟩ :=
    endOpenOrder_ok hm (by simp : OptionReservationStatus.converted ≠ .active)
      "PARTIAL_FILL_RESIZED" hash now
  unfold resizeOpenOrderOnPartialFillTx
  rw [Act.bind_of_ok hend]
  cases hc : converted with
  | none =>
    rw [hc] at hiff
    have hnone := hiff.1 rfl
    refine ⟨_, m₁, rfl, hm₁, fun j _ h => hunused j h, fun h => ?_⟩
    rw [hholds, hnone, map_none]
  | some c =>
    have hsome : activeHold m hash ≠ none := fun hnone => by
      rw [hiff.2 hnone] at hc
      cases hc
    obtain ⟨old, hold⟩ := ne_none_iff_exists'.1 hsome
    have hfree : activeHold m₁ residual.canonicalOrderHash = none := by
      rw [hholds, if_pos hhash]
    obtain ⟨m₂, hins, hrew⟩ := insertOpenOrder_new hm₁ (hunused id hid) hfree
    refine ⟨(some c, some (residual.row id)), m₂, ?_, hrew.wellFormed,
      fun j hj h => hrew.unused j hj (hunused j h), fun h => ?_⟩
    · exact Act.bind_of_ok hins
    · rw [hrew.holds, hholds, hhash, hold, map_some]
      split <;> rfl

end ReservationTable

end DeoptBackend
