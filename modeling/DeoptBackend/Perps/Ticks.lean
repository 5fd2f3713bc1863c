import DeoptBackend.Perps.Submit

/-!
# The funding and liquidation ticks (`src/perps/{funding,liquidation}.rs`)

Two walks over a snapshot of the open positions, in the order of their
identifiers.  The funding tick charges each position for the movement of its
market's index since the position was last settled; the liquidation tick ends the
positions whose equity is down to the maintenance margin, and cancels the orders
under their keys.

* `PerpLedger` — the stores with the two ledgers of events.
* `runPerpFundingTick`, `runPerpLiquidationTick` — the ticks.
* `FundingStep`, `LiquidationStep` — all that one position's turn can do to the
  stores; `runPerpFundingTick_induct`, `runPerpLiquidationTick_induct` — what
  survives every such turn survives the tick, whether it runs to its end or not.

A ledger of events is a list in the order of insertion: the maps of the source are
keyed by random identifiers, and no modelled function looks one up.
-/

namespace DeoptBackend

open Margin PerpPositionsStore List PositionTable

/-! ## Funding -/

structure FundingIndexRead where
  cumulativeIndex1e18 : Int
  updatedAtSec : Nat
  /-- The source was available. -/
  ok : Bool

/-- `FundingIndexRead::updated_at_ms`. -/
def FundingIndexRead.updatedAtMs (read : FundingIndexRead) : TimestampMs :=
  satI64 (asI64 read.updatedAtSec * 1000)

/-- `FUNDING_INDEX_SCALE_1E18`. -/
def fundingIndexScale1e18 : Int := 1000000000000000000

/-- `-x`, which panics for the least value. -/
def negI128 (x : Int) : Except Fault Int :=
  if x = minI128 then .error (.panic "attempt to negate with overflow") else .ok (-x)

/-- `calculate_funding_payment_1e8`: positive when the trader owes. -/
def calculateFundingPayment1e8 (side : PerpSide) (size1e8 : Nat)
    (indexBefore1e18 indexAfter1e18 : Int) : Except Fault Int :=
  if size1e8 = 0 then .ok 0
  else
    let delta := satI128 (indexAfter1e18 - indexBefore1e18)
    if delta = 0 then .ok 0
    else do
      let signedDelta ←
        match side with
        | .long => .ok delta
        | .short => negI128 delta
      pure ((satI128 (signedDelta * asI128 size1e8)).tdiv fundingIndexScale1e18)

/-- `apply_funding_payment_to_margin`: the margin after the payment, and what it did
not cover. -/
def applyFundingPaymentToMargin (margin1e8 : Nat) (payment1e8 : Int) : Nat × Nat :=
  if payment1e8 = 0 then (margin1e8, 0)
  else if payment1e8 > 0 then
    if payment1e8.toNat > margin1e8 then (0, payment1e8.toNat - margin1e8)
    else (margin1e8 - payment1e8.toNat, 0)
  else (satAdd margin1e8 (-payment1e8).toNat, 0)

/-- `funding_reason::SETTLEMENT`. -/
def fundingSettlement : String := "funding_settlement"

/-- The record of a settlement. -/
structure PerpFundingEvent where
  id : Uuid
  account : AccountId
  subaccountId : Nat
  marketId : String
  positionId : Uuid
  side : PerpSide
  positionSize1e8 : Nat
  /-- The index the position was settled at before. -/
  fundingIndexBefore1e18 : Int
  /-- The index it is settled at now. -/
  fundingIndexAfter1e18 : Int
  fundingDelta1e18 : Int
  /-- The payment, positive when the trader owes. -/
  payment1e8 : Int
  marginBefore1e8 : Nat
  marginAfter1e8 : Nat
  /-- What the margin did not cover. -/
  badDebt1e8 : Nat
  reasonCode : String
  createdAtMs : TimestampMs

/-- A list of markets read one by one into a map by symbol. -/
def prefetch {α : Type} (cfg : PerpsReadConfig) (read : PerpsReadMarket → Option α) :
    FMap String (Option α) :=
  cfg.markets.foldl (fun out market => out.set market.symbol (read market)) ∅

/-- What `prefetch_funding_indices` keeps of one read. -/
def usableFundingIndex (cfg : PerpsReadConfig) (now : TimestampMs)
    (read : Except BackendError FundingIndexRead) : Option FundingIndexRead :=
  match read with
  | .error _ => none
  | .ok read =>
    if read.ok = false then none
    else
      let staleAfterMs := satI64 (asI64 cfg.staleAfterSec * 1000)
      -- an index that was never updated is a valid one
      if read.updatedAtMs ≠ 0 ∧ satI64 (now - read.updatedAtMs) > staleAfterMs then none
      else some read

/-- `prefetch_funding_indices`. -/
def prefetchFundingIndices (cfg : PerpsReadConfig)
    (reader : PerpsReadMarket → Except BackendError FundingIndexRead) (now : TimestampMs) :
    FMap String (Option FundingIndexRead) :=
  prefetch cfg fun market => usableFundingIndex cfg now (reader market)

/-! ## Liquidation -/

inductive PerpLiquidationStatus where
  | completed
  | priceUnavailable

namespace LiquidationReason

def marginBreach : String := "margin_breach"
def priceUnavailable : String := "price_unavailable"

end LiquidationReason

/-- The record of a liquidation, or of a candidate without a price. -/
structure PerpLiquidationEvent where
  id : Uuid
  account : AccountId
  subaccountId : Nat
  marketId : String
  positionId : Uuid
  side : PerpSide
  size1e8 : Nat
  entryPrice1e8 : Nat
  markPrice1e8 : Nat
  margin1e8 : Nat
  unrealizedPnl1e8 : Int
  equity1e8 : Int
  /-- The requirement its equity did not exceed. -/
  maintenanceMarginRequirement1e8 : Nat
  marginRatioBps : Nat
  realizedPnl1e8 : Int
  /-- What the margin did not cover. -/
  badDebt1e8 : Nat
  /-- The fee, always zero. -/
  liquidationFee1e8 : Nat
  status : PerpLiquidationStatus
  reasonCode : String
  createdAtMs : TimestampMs

/-- What a look at one position says. -/
inductive LiquidationEvaluation where
  | healthy
  | liquidatable
  | priceUnavailable

/-- `evaluate_perp_liquidation`. -/
def evaluatePerpLiquidation (market : PerpsReadMarket) (position : PerpPosition)
    (markPrice1e8 : Option Nat) : LiquidationEvaluation :=
  if position.status ≠ .open then .healthy
  else
    match markPrice1e8 with
    | none => .priceUnavailable
    | some mark =>
      let mm := maintenanceMarginRequirement1e8 position.size1e8 mark
        market.maintenanceMarginBps
      if Margin.equity1e8 position mark ≤ asI128 mm then .liquidatable else .healthy

/-- What `prefetch_mark_prices` keeps of one read. -/
def usableMarkPrice (cfg : PerpsReadConfig) (now : TimestampMs)
    (read : Except BackendError RawPriceRead) : Option Nat :=
  match read with
  | .error _ => none
  | .ok read =>
    if read.ok = false ∨ read.price1e8 = 0 then none
    else
      let staleAfterMs := satI64 (asI64 cfg.staleAfterSec * 1000)
      if read.updatedAtMs = 0 ∨ satI64 (now - read.updatedAtMs) > staleAfterMs then none
      else some read.price1e8

/-- `prefetch_mark_prices`. -/
def prefetchMarkPrices (cfg : PerpsReadConfig)
    (reader : PerpsReadMarket → Except BackendError RawPriceRead) (now : TimestampMs) :
    FMap String (Option Nat) :=
  prefetch cfg fun market => usableMarkPrice cfg now (reader market)

/-! ## The ledger -/

/-- The stores, with the events of the ticks. -/
structure PerpLedger where
  /-- Orders, fills and positions. -/
  stores : PerpStores
  /-- The settlements, oldest first. -/
  fundingEvents : List PerpFundingEvent
  /-- The liquidations, oldest first. -/
  liquidations : List PerpLiquidationEvent

namespace PerpLedger

def empty : PerpLedger := ⟨.empty, [], []⟩

def withStores (stores : PerpStores) (l : PerpLedger) : PerpLedger := { l with stores := stores }

def onStores {α : Type} (x : Act Fault PerpStores α) : Act Fault PerpLedger α :=
  x.zoom stores withStores

end PerpLedger

open PerpLedger (onStores)
open PerpStores (onPositions)

/-- The positions a tick looks at, in the order it does: a snapshot. -/
def tickCandidates (cfg : PerpsReadConfig) (positions : PerpPositionsStore) : List PerpPosition :=
  ((positions.byIdValuesIter.filter fun p => p.status = .open).filter fun p =>
    (cfg.marketBySymbol p.marketId).isSome).insertionSort fun a b => a.id ≤ b.id

/-! ## The funding tick -/

structure PerpFundingTickResponse where
  /-- When the tick was started. -/
  nowMs : TimestampMs
  /-- How many positions it looked at. -/
  checkedCount : Nat
  settledCount : Nat
  /-- Reserved. -/
  skippedNoPositionCount : Nat
  /-- How many had no index. -/
  skippedSourceUnavailableCount : Nat
  fundingEventIds : List Uuid

/-- The position after a settlement, but for the stamp of the write. -/
def PerpPosition.funded (p : PerpPosition) (margin1e8 : Nat) (index1e18 payment1e8 : Int) :
    PerpPosition :=
  { p with
    margin1e8 := margin1e8
    lastFundingIndex1e18 := index1e18
    cumulativeFundingPayment1e8 := satI128 (p.cumulativeFundingPayment1e8 + payment1e8) }

/-- The record of a settlement. -/
def fundingEvent (p : PerpPosition) (index1e18 payment1e8 : Int) (now : TimestampMs) (id : Uuid) :
    PerpFundingEvent :=
  let (marginAfter, badDebt) := applyFundingPaymentToMargin p.margin1e8 payment1e8
  { id := id
    account := p.account
    subaccountId := p.subaccountId
    marketId := p.marketId
    positionId := p.id
    side := p.side
    positionSize1e8 := p.size1e8
    fundingIndexBefore1e18 := p.lastFundingIndex1e18
    fundingIndexAfter1e18 := index1e18
    fundingDelta1e18 := satI128 (index1e18 - p.lastFundingIndex1e18)
    payment1e8 := payment1e8
    marginBefore1e8 := p.margin1e8
    marginAfter1e8 := marginAfter
    badDebt1e8 := badDebt
    reasonCode := fundingSettlement
    createdAtMs := now }

section

variable (lower : String → String)

def settleFunding (candidate : PerpPosition) (index1e18 : Int) (now : TimestampMs) (id : Uuid) :
    Act Fault PerpLedger Unit := do
  let payment ← Act.check (calculateFundingPayment1e8 candidate.side candidate.size1e8
    candidate.lastFundingIndex1e18 index1e18)
  let marginAfter := (applyFundingPaymentToMargin candidate.margin1e8 payment).1
  let _ ← onStores (onPositions (updateActive lower candidate.account
    candidate.subaccountId candidate.marketId now fun p => p.funded marginAfter index1e18 payment))
  Act.write fun l => { l with
    fundingEvents := l.fundingEvents ++ [fundingEvent candidate index1e18 payment now id] }

/-- The turn of one position: `ids` draws the identifier of a settlement. -/
def fundingTurn (indices : FMap String (Option FundingIndexRead)) (now : TimestampMs)
    (ids : Nat → Uuid) (candidate : PerpPosition) (r : PerpFundingTickResponse) :
    Act Fault PerpLedger PerpFundingTickResponse :=
  let r := { r with checkedCount := r.checkedCount + 1 }
  match indices.get? candidate.marketId with
  | some (some read) =>
    -- the index has not moved
    if satI128 (read.cumulativeIndex1e18 - candidate.lastFundingIndex1e18) = 0 then pure r
    else do
      let id := ids r.settledCount
      settleFunding lower candidate read.cumulativeIndex1e18 now id
      pure { r with
        settledCount := r.settledCount + 1
        fundingEventIds := r.fundingEventIds ++ [id] }
  | _ => pure { r with skippedSourceUnavailableCount := r.skippedSourceUnavailableCount + 1 }

/-- The turns of a list of positions. -/
def fundingTurns (indices : FMap String (Option FundingIndexRead)) (now : TimestampMs)
    (ids : Nat → Uuid) :
    List PerpPosition → PerpFundingTickResponse → Act Fault PerpLedger PerpFundingTickResponse
  | [], r => pure r
  | candidate :: rest, r => do
      let r ← fundingTurn lower indices now ids candidate r
      fundingTurns indices now ids rest r

/-- `run_perp_funding_tick`. -/
def runPerpFundingTick (cfg : PerpsReadConfig) (indices : FMap String (Option FundingIndexRead))
    (now : TimestampMs) (ids : Nat → Uuid) : Act Fault PerpLedger PerpFundingTickResponse := do
  let candidates ← Act.read fun l : PerpLedger => tickCandidates cfg l.stores.positions
  fundingTurns lower indices now ids candidates ⟨now, 0, 0, 0, 0, []⟩

/-! ## The liquidation tick -/

/-- `build_price_unavailable_event`. -/
def buildPriceUnavailableEvent (p : PerpPosition) (now : TimestampMs) (id : Uuid) :
    PerpLiquidationEvent :=
  { id := id
    account := p.account
    subaccountId := p.subaccountId
    marketId := p.marketId
    positionId := p.id
    side := p.side
    size1e8 := p.size1e8
    entryPrice1e8 := p.entryPrice1e8
    markPrice1e8 := 0
    margin1e8 := p.margin1e8
    unrealizedPnl1e8 := 0
    equity1e8 := asI128 p.margin1e8
    maintenanceMarginRequirement1e8 := 0
    marginRatioBps := 0
    realizedPnl1e8 := 0
    badDebt1e8 := 0
    liquidationFee1e8 := 0
    status := .priceUnavailable
    reasonCode := LiquidationReason.priceUnavailable
    createdAtMs := now }

variable (market : PerpsReadMarket) (p : PerpPosition)

def liquidationEvent (mark1e8 badDebt1e8 : Nat) (now : TimestampMs) (id : Uuid) :
    PerpLiquidationEvent :=
  { id := id
    account := p.account
    subaccountId := p.subaccountId
    marketId := p.marketId
    positionId := p.id
    side := p.side
    size1e8 := p.size1e8
    entryPrice1e8 := p.entryPrice1e8
    markPrice1e8 := mark1e8
    margin1e8 := p.margin1e8
    unrealizedPnl1e8 := unrealizedPnl1e8 p mark1e8
    equity1e8 := Margin.equity1e8 p mark1e8
    maintenanceMarginRequirement1e8 :=
      maintenanceMarginRequirement1e8 p.size1e8 mark1e8 market.maintenanceMarginBps
    marginRatioBps := marginRatioBps p mark1e8
    realizedPnl1e8 := realizedPnl1e8 p.entryPrice1e8 mark1e8 p.size1e8 p.side
    badDebt1e8 := badDebt1e8
    liquidationFee1e8 := 0
    status := .completed
    reasonCode := LiquidationReason.marginBreach
    createdAtMs := now }

def badDebt (equity1e8 : Int) : Except Fault Nat :=
  if equity1e8 < 0 then (negI128 equity1e8).map Int.toNat else .ok 0

/-- `apply_liquidation`. -/
def applyLiquidation (mark1e8 : Nat) (now : TimestampMs) (id : Uuid) :
    Act Fault PerpLedger PerpLiquidationEvent := do
  let shortfall ← Act.check (badDebt (Margin.equity1e8 p mark1e8))
  let realized := realizedPnl1e8 p.entryPrice1e8 mark1e8 p.size1e8 p.side
  let _ ← onStores (onPositions (liquidateActive lower p.account p.subaccountId
    p.marketId realized now))
  onStores (Act.write fun s => s.withOrders (s.orders.cancelOpenOrdersForAccountMarket lower
    p.account p.subaccountId p.marketId Reason.liquidated Reason.sourceLiquidationTick now))
  let event := liquidationEvent market p mark1e8 shortfall now id
  Act.write fun l => { l with liquidations := l.liquidations ++ [event] }
  pure event

/-- The mark of a position that was found liquidatable. -/
def expectMark : Option Nat → Except Fault Nat
  | some mark => .ok mark
  | none => .error (.panic "Liquidatable implies mark is Some")

/-- `liquidate_perp_position_internal`. -/
def liquidatePerpPositionInternal (cfg : PerpsReadConfig) (account : AccountId)
    (subaccountId : Nat) (marketId : String) (markPrice1e8 : Option Nat) (now : TimestampMs)
    (id : Uuid) : Act Fault PerpLedger (Option PerpLiquidationEvent) := do
  let market ← Act.check (returned (cfg.requireMarket marketId))
  let existing ← Act.read fun l : PerpLedger =>
    l.stores.positions.getActive lower account subaccountId marketId
  match existing with
  | none => pure none
  | some p =>
    match evaluatePerpLiquidation market p markPrice1e8 with
    | .healthy => pure none
    | .priceUnavailable => do
        let event := buildPriceUnavailableEvent p now id
        Act.write fun l => { l with liquidations := l.liquidations ++ [event] }
        pure (some event)
    | .liquidatable => do
        let mark ← Act.check (expectMark markPrice1e8)
        let event ← applyLiquidation lower market p mark now id
        pure (some event)

structure PerpLiquidationTickResponse where
  /-- When the tick was started. -/
  nowMs : TimestampMs
  /-- How many positions it looked at. -/
  checkedCount : Nat
  liquidatedCount : Nat
  /-- How many had no price. -/
  skippedPriceUnavailableCount : Nat
  liquidationIds : List Uuid

/-- What one event adds to the report. -/
def PerpLiquidationTickResponse.count (r : PerpLiquidationTickResponse) :
    Option PerpLiquidationEvent → PerpLiquidationTickResponse
  | none => { r with checkedCount := r.checkedCount + 1 }
  | some event =>
    let r := { r with
      checkedCount := r.checkedCount + 1
      liquidationIds := r.liquidationIds ++ [event.id] }
    match event.status with
    | .completed => { r with liquidatedCount := r.liquidatedCount + 1 }
    | .priceUnavailable =>
      { r with skippedPriceUnavailableCount := r.skippedPriceUnavailableCount + 1 }

/-- The turns of a list of positions. -/
def liquidationTurns (cfg : PerpsReadConfig) (marks : FMap String (Option Nat))
    (now : TimestampMs) (ids : Nat → Uuid) : List PerpPosition → PerpLiquidationTickResponse →
      Act Fault PerpLedger PerpLiquidationTickResponse
  | [], r => pure r
  | candidate :: rest, r => do
      let mark := (marks.get? candidate.marketId).getD none
      let event ← liquidatePerpPositionInternal lower cfg candidate.account
        candidate.subaccountId candidate.marketId mark now (ids r.liquidationIds.length)
      liquidationTurns cfg marks now ids rest (r.count event)

/-- `run_perp_liquidation_tick`. -/
def runPerpLiquidationTick (cfg : PerpsReadConfig) (marks : FMap String (Option Nat))
    (now : TimestampMs) (ids : Nat → Uuid) : Act Fault PerpLedger PerpLiquidationTickResponse := do
  let candidates ← Act.read fun l : PerpLedger => tickCandidates cfg l.stores.positions
  liquidationTurns lower cfg marks now ids candidates ⟨now, 0, 0, 0, []⟩

end

/-! ## What a settlement does -/

namespace PerpLedger

def settled (p : PerpPosition) (index1e18 payment1e8 : Int) (now : TimestampMs) (id : Uuid)
    (l : PerpLedger) : PerpLedger :=
  let row := (p.funded (applyFundingPaymentToMargin p.margin1e8 payment1e8).1 index1e18
    payment1e8).touched now
  { l with
    stores := l.stores.withPositions
      { l.stores.positions with byId := l.stores.positions.byId.set p.id row }
    fundingEvents := l.fundingEvents ++ [fundingEvent p index1e18 payment1e8 now id] }

end PerpLedger

/-- A position whose turn to be settled it is. -/
structure Settles (lower : String → String) (indices : FMap String (Option FundingIndexRead))
    (l : PerpLedger) (p : PerpPosition) (read : FundingIndexRead) (payment1e8 : Int) : Prop where
  isOpen : l.stores.positions.openAt lower (p.key lower) = some p
  index : indices.get? p.marketId = some (some read)
  moved : satI128 (read.cumulativeIndex1e18 - p.lastFundingIndex1e18) ≠ 0
  payment : calculateFundingPayment1e8 p.side p.size1e8 p.lastFundingIndex1e18
    read.cumulativeIndex1e18 = .ok payment1e8

section

variable {l : PerpLedger} {read : FundingIndexRead} {id : Uuid}

theorem Settles.writes (h : Settles lower indices l p read payment1e8)
    (hs : l.stores.positions.WellFormed lower) (now : TimestampMs) (id : Uuid) :
    PerpPositionsStore.Writes lower l.stores.positions (p.key lower)
      (some ((p.funded (applyFundingPaymentToMargin p.margin1e8 payment1e8).1
        read.cumulativeIndex1e18 payment1e8).touched now))
      (l.settled p read.cumulativeIndex1e18 payment1e8 now id).stores.positions :=
  hs.changes h.isOpen rfl
    (openIndex_of_open (openAt_spec h.isOpen).1 rfl)

theorem settleFunding_run (hs : l.stores.positions.WellFormed lower)
    (hp : l.stores.positions.openAt lower (p.key lower) = some p)
    (hpay : calculateFundingPayment1e8 p.side p.size1e8 p.lastFundingIndex1e18 index1e18 =
      .ok payment1e8) :
    settleFunding lower p index1e18 now id l = (.ok (), l.settled p index1e18 payment1e8 now id) := by
  rw [settleFunding, Act.check_bind hpay]
  simp only [Act.bind_run, onStores, onPositions, Act.zoom, updateActive_eq hs _ hp]
  rfl

theorem settleFunding_error
    (hpay : calculateFundingPayment1e8 p.side p.size1e8 p.lastFundingIndex1e18 index1e18 = .error e) :
    settleFunding lower p index1e18 now id l = (.error e, l) := by
  rw [settleFunding, hpay]
  exact Act.bind_of_error (Act.check_run _ _)

/-- **A turn of the funding tick** does nothing, or settles the position. -/
inductive FundingStep (lower : String → String) (indices : FMap String (Option FundingIndexRead))
    (now : TimestampMs) (p : PerpPosition) (l : PerpLedger) : PerpLedger → Prop
  | idle : FundingStep lower indices now p l l
  | settled {read : FundingIndexRead} {payment1e8 : Int} (id : Uuid) :
      Settles lower indices l p read payment1e8 →
      FundingStep lower indices now p l (l.settled p read.cumulativeIndex1e18 payment1e8 now id)

theorem fundingTurn_step (hs : l.stores.positions.WellFormed lower)
    (hp : l.stores.positions.openAt lower (p.key lower) = some p) (r : PerpFundingTickResponse) :
    FundingStep lower indices now p l (fundingTurn lower indices now ids p r l).2 := by
  rcases hread : indices.get? p.marketId with _ | _ | read
  · simp only [fundingTurn, hread]
    exact .idle
  · simp only [fundingTurn, hread]
    exact .idle
  by_cases hmoved : satI128 (read.cumulativeIndex1e18 - p.lastFundingIndex1e18) = 0
  · simp only [fundingTurn, hread, if_pos hmoved]
    exact .idle
  simp only [fundingTurn, hread, if_neg hmoved]
  cases hpay : calculateFundingPayment1e8 p.side p.size1e8 p.lastFundingIndex1e18
      read.cumulativeIndex1e18 with
  | error e =>
    rw [Act.bind_of_error (settleFunding_error hpay)]
    exact .idle
  | ok payment1e8 =>
    rw [Act.bind_of_ok (settleFunding_run hs hp hpay)]
    exact .settled _ ⟨hp, hread, hmoved, hpay⟩

/-- A turn leaves the other positions as they were. -/
theorem FundingStep.openAt_of_ne (h : FundingStep lower indices now p l l')
    (hs : l.stores.positions.WellFormed lower) (hne : key ≠ p.key lower) :
    l'.stores.positions.openAt lower key = l.stores.positions.openAt lower key := by
  cases h with
  | idle => rfl
  | settled id hset => rw [(hset.writes hs now id).openAt_eq, if_neg hne]

/-- **The rule for the turns of a funding tick.**  What survives every settlement
survives them all. -/
theorem fundingTurns_induct {P : PerpLedger → Prop}
    (hstep : ∀ {l p read payment1e8 id}, p ∈ candidates → l.stores.positions.WellFormed lower →
      P l → Settles lower indices l p read payment1e8 →
      P (l.settled p read.cumulativeIndex1e18 payment1e8 now id)) (r : PerpFundingTickResponse)
    (hs : l.stores.positions.WellFormed lower) (h₀ : P l)
    (hopen : ∀ c ∈ candidates, l.stores.positions.openAt lower (c.key lower) = some c)
    (hkeys : (candidates.map (PerpPosition.key lower)).Nodup) :
    (fundingTurns lower indices now ids candidates r l).2.stores.positions.WellFormed lower ∧
      P (fundingTurns lower indices now ids candidates r l).2 := by
  induction candidates generalizing l r with
  | nil => exact ⟨hs, h₀⟩
  | cons c cs ih =>
    rw [map_cons, nodup_cons] at hkeys
    have hturn : FundingStep lower indices now c l (fundingTurn lower indices now ids c r l).2 :=
      fundingTurn_step hs (hopen c mem_cons_self) r
    rw [fundingTurns, Act.bind_run]
    rcases hrun : fundingTurn lower indices now ids c r l with ⟨result, l'⟩
    rw [hrun] at hturn
    -- the turn of `c` leaves the other candidates as they were
    have hopen' : ∀ d ∈ cs, l'.stores.positions.openAt lower (d.key lower) = some d := by
      intro d hd
      rw [hturn.openAt_of_ne hs fun hkey => hkeys.1 (hkey ▸ mem_map_of_mem hd)]
      exact hopen d (mem_cons_of_mem _ hd)
    have hkept : l'.stores.positions.WellFormed lower ∧ P l' := by
      cases hturn with
      | idle => exact ⟨hs, h₀⟩
      | settled id hset =>
        exact ⟨(hset.writes hs now id).wellFormed, hstep mem_cons_self hs h₀ hset⟩
    cases result with
    | error => exact hkept
    | ok r' =>
      exact ih (fun hp => hstep (mem_cons_of_mem _ hp)) r' hkept.1 hkept.2 hopen' hkeys.2

/-- The candidates of a tick are open, each under its own key. -/
theorem tickCandidates_open (hs : positions.WellFormed lower)
    (hc : c ∈ tickCandidates cfg positions) : positions.openAt lower (c.key lower) = some c := by
  rw [tickCandidates, mem_insertionSort] at hc
  have hrow : c ∈ PositionTable.openRows positions.byId := (mem_filter.1 hc).1
  exact hs.rows.openAt_eq_some_iff.2 ⟨hrow, rfl⟩

theorem tickCandidates_nodup (hs : positions.WellFormed lower) :
    ((tickCandidates cfg positions).map (PerpPosition.key lower)).Nodup := by
  refine (((perm_insertionSort _ _).map _).nodup_iff).2 ?_
  exact hs.rows.nodup_keys.sublist (filter_sublist.map _)

/-- **The rule for a funding tick.**  A position is settled as it stood before the
tick. -/
theorem runPerpFundingTick_induct {P : PerpLedger → Prop}
    (hstep : ∀ {l' p read payment1e8 id}, p ∈ tickCandidates cfg l.stores.positions →
      l'.stores.positions.WellFormed lower → P l' → Settles lower indices l' p read payment1e8 →
      P (l'.settled p read.cumulativeIndex1e18 payment1e8 now id))
    (hs : l.stores.positions.WellFormed lower) (h₀ : P l) :
    (runPerpFundingTick lower cfg indices now ids l).2.stores.positions.WellFormed lower ∧
      P (runPerpFundingTick lower cfg indices now ids l).2 := by
  exact fundingTurns_induct hstep _ hs h₀ (fun c hc => tickCandidates_open hs hc)
    (tickCandidates_nodup hs)

/-! ## What a liquidation does -/

namespace PerpLedger

def noted (event : PerpLiquidationEvent) (l : PerpLedger) : PerpLedger :=
  { l with liquidations := l.liquidations ++ [event] }

def liquidatedStores (lower : String → String) (p : PerpPosition) (mark1e8 : Nat)
    (now : TimestampMs) (s : PerpStores) : PerpStores :=
  let realized := realizedPnl1e8 p.entryPrice1e8 mark1e8 p.size1e8 p.side
  ⟨s.orders.cancelOpenOrdersForAccountMarket lower p.account p.subaccountId p.marketId
      Reason.liquidated Reason.sourceLiquidationTick now,
    ⟨s.positions.byId.set p.id (((p.realizing realized).asLiquidated now).touched now),
      s.positions.activeByAccountSubaccountMarket.del (p.key lower)⟩⟩

end PerpLedger

theorem liquidatedStores_writes (hs : l.stores.positions.WellFormed lower)
    (hp : l.stores.positions.openAt lower (p.key lower) = some p) (mark1e8 : Nat)
    (now : TimestampMs) : PerpPositionsStore.Writes lower l.stores.positions (p.key lower) none
      (PerpLedger.liquidatedStores lower p mark1e8 now l.stores).positions :=
  hs.ends hp rfl (by simp [PerpPosition.touched, PerpPosition.asLiquidated])

/-- **A look at a position** does nothing to the ledger, notes an event, or
liquidates the position. -/
inductive LiquidationStep (lower : String → String) (now : TimestampMs) (l : PerpLedger) :
    PerpLedger → Prop
  | idle : LiquidationStep lower now l l
  | noted (event : PerpLiquidationEvent) : LiquidationStep lower now l (l.noted event)
  | liquidated {p : PerpPosition} (mark1e8 : Nat) (event : PerpLiquidationEvent) :
      l.stores.positions.openAt lower (p.key lower) = some p →
      LiquidationStep lower now l
        ((l.withStores (PerpLedger.liquidatedStores lower p mark1e8 now l.stores)).noted event)

theorem LiquidationStep.wellFormed (h : LiquidationStep lower now l l')
    (hs : l.stores.positions.WellFormed lower) : l'.stores.positions.WellFormed lower := by
  cases h with
  | idle => exact hs
  | noted => exact hs
  | liquidated mark1e8 event hp => exact (liquidatedStores_writes hs hp mark1e8 now).wellFormed

theorem applyLiquidation_step (hs : l.stores.positions.WellFormed lower)
    (hp : l.stores.positions.openAt lower (p.key lower) = some p) :
    LiquidationStep lower now l (applyLiquidation lower market p mark1e8 now id l).2 := by
  cases hdebt : badDebt (Margin.equity1e8 p mark1e8) with
  | error =>
    rw [applyLiquidation, hdebt, Act.bind_of_error (Act.check_run _ _)]
    exact .idle
  | ok shortfall =>
    have hrun : applyLiquidation lower market p mark1e8 now id l =
        (.ok (liquidationEvent market p mark1e8 shortfall now id),
          (l.withStores (PerpLedger.liquidatedStores lower p mark1e8 now l.stores)).noted
            (liquidationEvent market p mark1e8 shortfall now id)) := by
      rw [applyLiquidation, Act.check_bind hdebt]
      simp only [Act.bind_run, onStores, onPositions, Act.zoom, liquidateActive, endActive_eq hs _ hp]
      rfl
    rw [hrun]
    exact .liquidated mark1e8 _ hp

theorem liquidate_step (hs : l.stores.positions.WellFormed lower) (account : AccountId)
    (subaccountId : Nat) (marketId : String) (markPrice1e8 : Option Nat) :
    LiquidationStep lower now l
      (liquidatePerpPositionInternal lower cfg account subaccountId marketId markPrice1e8 now id
        l).2 := by
  cases hmarket : returned (cfg.requireMarket marketId) with
  | error =>
    rw [liquidatePerpPositionInternal, hmarket, Act.bind_of_error (Act.check_run _ _)]
    exact .idle
  | ok market =>
  rw [liquidatePerpPositionInternal, Act.check_bind hmarket, Act.read_bind, hs.getActive_eq]
  cases hp : l.stores.positions.openAt lower (indexKey lower account subaccountId marketId) with
  | none => exact .idle
  | some p =>
  obtain ⟨-, hkey⟩ := openAt_spec hp
  have hp' : l.stores.positions.openAt lower (p.key lower) = some p := by
    rw [PerpPosition.key, hkey, hp]
  simp only
  cases evaluatePerpLiquidation market p markPrice1e8 with
  | healthy => exact .idle
  | priceUnavailable => exact .noted _
  | liquidatable =>
    simp only
    cases hmark : expectMark markPrice1e8 with
    | error =>
      exact .idle
    | ok =>
      rw [Act.check_bind rfl, Act.bind_pure_snd]
      exact applyLiquidation_step hs hp'

/-- **The rule for a liquidation tick.**  What survives every note and every
liquidation survives the tick. -/
theorem runPerpLiquidationTick_induct {P : PerpLedger → Prop}
    (hstep : ∀ {l l'}, l.stores.positions.WellFormed lower → P l →
      LiquidationStep lower now l l' → P l')
    (hs : l.stores.positions.WellFormed lower) (h₀ : P l) :
    (runPerpLiquidationTick lower cfg marks now ids l).2.stores.positions.WellFormed lower ∧
      P (runPerpLiquidationTick lower cfg marks now ids l).2 := by
  rw [runPerpLiquidationTick, Act.read_bind]
  generalize tickCandidates cfg l.stores.positions = candidates
  generalize (⟨now, 0, 0, 0, []⟩ : PerpLiquidationTickResponse) = r
  induction candidates generalizing l r with
  | nil => exact ⟨hs, h₀⟩
  | cons c cs ih =>
    rw [liquidationTurns, Act.bind_run]
    have hturn : LiquidationStep lower now l
        (liquidatePerpPositionInternal lower cfg c.account c.subaccountId c.marketId
          ((marks.get? c.marketId).getD none) now (ids r.liquidationIds.length) l).2 :=
      liquidate_step hs ..
    rcases hrun : liquidatePerpPositionInternal lower cfg c.account c.subaccountId c.marketId
      ((marks.get? c.marketId).getD none) now (ids r.liquidationIds.length) l with ⟨result, l'⟩
    rw [hrun] at hturn
    have hkept := And.intro (hturn.wellFormed hs) (hstep hs h₀ hturn)
    cases result with
    | error => exact hkept
    | ok event => exact ih hkept.1 hkept.2 (r.count event)

end

end DeoptBackend
