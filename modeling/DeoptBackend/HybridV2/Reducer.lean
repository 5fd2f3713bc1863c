import DeoptBackend.Lib.Act
import DeoptBackend.Lib.FiniteMap
import DeoptBackend.HybridV2.Events
import DeoptBackend.HybridV2.Uint256

/-!
# The projection and its reducer (`src/hybrid_v2/reducer.rs`)

The projection is what the backend believes the contracts to hold.  It is changed by one
function, `apply`, which takes an event and the place where it happened.  An event that does
not fit stops with an error; what it had written by then stays written, and it is the caller
who rolls the block back.

* `ProjectionState` — the maps, with the rows they hold.
* `ReducerError` — the reasons to refuse an event.
* `apply` — the reducer, one arm for each kind.
-/

namespace DeoptBackend.HybridV2

open Act

/-! ## Rows -/

/-- `SubaccountMeta`. -/
structure SubaccountMeta where
  materialisedViaCreated : Bool := false
  materialisedViaLazy : Bool := false

/-- `PositionRow`. -/
structure PositionRow where
  longQty1e8 : String := ""
  shortQty1e8 : String := ""
  lastEventBlock : Nat := 0

/-- `OrderLifecycleRow`. -/
structure OrderLifecycleRow where
  subkey : String := ""
  owner : String := ""
  seriesId : Option String := none
  side : Nat := 0
  timeInForce : Nat := 0
  totalQty1e8 : String := ""
  filledQty1e8 : String := ""
  cancelled : Bool := false
  terminal : Bool := false
  firstSeenBlock : Nat := 0
  lastEventBlock : Nat := 0

/-- `ExecutionCompletion`. -/
inductive ExecutionCompletion where
  | incomplete
  | complete
  | invalidatedByReorg
  deriving DecidableEq

/-- `MatchedExecutionRow`. -/
structure MatchedExecutionRow where
  buyerOrderHash : String
  sellerOrderHash : String
  buyerSubkey : String
  sellerSubkey : String
  seriesId : String
  matchedQty1e8 : String
  premiumAmount : String
  feeAmount : String
  rebateAmount : String
  blockNumber : Nat
  txHash : String
  completionStatus : ExecutionCompletion

inductive FeeEventKind where
  | optionFeeCharged
  | optionRebatePaid
  | optionPremiumTransferred

/-- `FeeEventRow`. -/
structure FeeEventRow where
  kind : FeeEventKind
  payerSubkey : Option String
  receiverSubkey : Option String
  token : String
  amount : String
  blockNumber : Nat
  txHash : String
  logIndex : Nat
  executionId : Option String

/-- `RecoveryStateProjection`. -/
inductive RecoveryStateProjection where
  | normal
  | recoveryPending
  | recoveryActive
  | cancelled
  | recovered
  deriving DecidableEq

/-- The states of an escape; a row that was only just made has none. -/
inductive EscapeStatus where
  | unset
  | requested
  | activated
  | cancelled
  | finalized

/-- `EscapeStateRow`. -/
structure EscapeStateRow where
  state : EscapeStatus := .unset
  requestedTs : Option Nat := none
  activationEligibleAt : Option Nat := none
  activatedTs : Option Nat := none
  cancelledTs : Option Nat := none
  finalizedTs : Option Nat := none
  lastEventBlock : Nat := 0

/-- `EpochRow`. -/
structure EpochRow where
  epochCount : Nat := 0
  minValidNonce : String := ""
  lastEventBlock : Nat := 0
  deriving DecidableEq

/-- `RecoveryPauseRow`. -/
structure RecoveryPauseRow where
  paused : Bool
  untilTs : Nat
  lastEventBlock : Nat

/-- `ProjectionState`. -/
structure ProjectionState where
  /-- Owner and id to subkey. -/
  subaccounts : FMap (String × Nat) String := ∅
  subaccountMeta : FMap String SubaccountMeta := ∅
  /-- Subkey and token to amount. -/
  balances : FMap (String × String) String := ∅
  /-- Subkey, token and engine to amount. -/
  reservations : FMap (String × String × String) String := ∅
  /-- Engine to bitmap. -/
  capabilityGrants : FMap String String := ∅
  /-- Token to its index. -/
  collateralUniverse : FMap String Nat := ∅
  disabledTokens : Finset String := ∅
  pauseFlags : FMap String Bool := ∅
  badDebt : FMap (String × String) String := ∅
  /-- Subkey and series to row. -/
  positions : FMap (String × String) PositionRow := ∅
  activeSeries : FMap String (Finset String) := ∅
  orderLifecycle : FMap String OrderLifecycleRow := ∅
  /-- Subkey to the least nonce an order may carry. -/
  minValidNonce : FMap String String := ∅
  /-- Filled by the correlator, never by the reducer. -/
  matchedExecutions : FMap String MatchedExecutionRow := ∅
  /-- A journal: rows are only ever added. -/
  feeEvents : List FeeEventRow := []
  recoveryState : FMap String RecoveryStateProjection := ∅
  escapeState : FMap String EscapeStateRow := ∅
  ownerRecoveryEpochs : FMap String EpochRow := ∅
  subaccountRecoveryEpochs : FMap String EpochRow := ∅
  recoveryFinalizationWithdrawals : FMap String Nat := ∅
  recoveryPause : Option RecoveryPauseRow := none

/-- `ReducerError`. -/
inductive ReducerError where
  | underflow (subkey token have_ need : String)
  | missingField (kind : EventKind) (field : String)
  | finalizedSubaccountCredit (subkey : String) (kind : EventKind)
  | illegalRecoveryTransition (subkey : String) (source : Option RecoveryStateProjection)
      (target : RecoveryStateProjection) (kind : EventKind)
  | overflow (subkey token : String)
  | filledQtyDecrease (orderHash have_ incoming : String)
  | minNonceDecrease (scope scopeKey have_ incoming : String)
  | positionUnderflow (subkey seriesId side have_ need : String)
  | activeSeriesCapacity (subkey : String) (count max : Nat)
  | collateralUniverseCapacity (count max : Nat)
  deriving DecidableEq

/-- `MAX_ACTIVE_SERIES`. -/
def maxActiveSeries : Nat := 32

/-- `MAX_COLLATERAL_TOKENS`. -/
def maxCollateralTokens : Nat := 8

abbrev Reduce (α : Type) : Type := Act ReducerError ProjectionState α

/-! ## Helpers -/

/-- A value that has to be there. -/
def orFail {ε α : Type} (e : ε) : Option α → Except ε α
  | some a => .ok a
  | none => .error e

/-- `require`. -/
def require {α : Type} (field : Option α) (event : HybridV2Event) (name : String) : Reduce α :=
  check (orFail (.missingField event.kind name) field)

variable (event : HybridV2Event)

/-- `require_identity`. -/
def requireIdentity : Reduce (String × Nat × String) := do
  let owner ← require event.owner event "owner"
  let sid ← require event.subaccountId event "subaccount_id"
  let subkey ← require event.subkey event "subkey"
  pure (owner, sid, subkey)

/-- `require_amount`. -/
def requireAmount : Reduce String :=
  require (payloadString event "amount") event "amount"

variable (state : ProjectionState)

/-- `is_finalized`. -/
def isFinalized (subkey : String) : Bool :=
  state.recoveryState.get? subkey == some .recovered

def ProjectionState.balance (subkey token : String) : String :=
  (state.balances.get? (subkey, token)).getD "0"

/-- Add to a balance. -/
def credit (subkey token amount : String) : Reduce Unit := do
  let cur ← read fun state => state.balance subkey token
  let next ← check (orFail (.overflow subkey token) (u256Add cur amount))
  write fun state => { state with balances := state.balances.set (subkey, token) next }

/-- Take from a balance. -/
def debit (subkey token amount : String) : Reduce Unit := do
  let cur ← read fun state => state.balance subkey token
  let next ← check (orFail (.underflow subkey token cur amount) (u256Sub cur amount))
  write fun state => { state with balances := state.balances.set (subkey, token) next }

/-- `adjust_reservation`. -/
def adjustReservation (add : Bool) : Reduce Unit := do
  let subkey ← require event.subkey event "subkey"
  let token ← require event.token event "token"
  let engine ← require event.engine event "engine"
  let amount ← requireAmount event
  let cur ← read fun state => (state.reservations.get? (subkey, token, engine)).getD "0"
  let next ← check <|
    if add then orFail (.overflow subkey token) (u256Add cur amount)
    else orFail (.underflow subkey token cur amount) (u256Sub cur amount)
  write fun state =>
    { state with reservations := state.reservations.set (subkey, token, engine) next }

/-- A series leaves the active set of a subkey, and an empty set leaves the map. -/
def ProjectionState.dropSeries (subkey series : String) : ProjectionState :=
  match state.activeSeries.get? subkey with
  | none => state
  | some set =>
    let rest := set.erase series
    { state with
      activeSeries :=
        if rest = ∅ then state.activeSeries.del subkey else state.activeSeries.set subkey rest }

def ProjectionState.setPosition (subkey series : String) (row : PositionRow) : ProjectionState :=
  { state with positions := state.positions.set (subkey, series) row }

def ProjectionState.setOrder (orderHash : String) (row : OrderLifecycleRow) : ProjectionState :=
  { state with orderLifecycle := state.orderLifecycle.set orderHash row }

variable (event : HybridV2Event) (ctx : ApplyContext)

/-- `apply_position_open`.  The row is in the map from the first read on, so an addition
that overflows leaves what was written of it. -/
def applyPositionOpen : Reduce Unit := do
  let subkey ← require event.subkey event "subkey"
  let series ← require event.seriesId event "series_id"
  let longDelta := (payloadString event "long_delta_1e8").getD "0"
  let shortDelta := (payloadString event "short_delta_1e8").getD "0"
  let row ← read fun state => (state.positions.get? (subkey, series)).getD {}
  write fun state => state.setPosition subkey series row
  let long ← check (orFail (.overflow subkey series) (u256Add row.longQty1e8 longDelta))
  write fun state => state.setPosition subkey series { row with longQty1e8 := long }
  let short ← check (orFail (.overflow subkey series) (u256Add row.shortQty1e8 shortDelta))
  write fun state => state.setPosition subkey series
    { longQty1e8 := long, shortQty1e8 := short, lastEventBlock := ctx.blockNumber }
  let set ← read fun state => insert series ((state.activeSeries.get? subkey).getD ∅)
  write fun state => { state with activeSeries := state.activeSeries.set subkey set }
  if set.card > maxActiveSeries then
    fail (.activeSeriesCapacity subkey set.card maxActiveSeries)

variable (current : String)

/-- `apply_signed_delta`. -/
def applySignedDelta (delta : Int) (subkey series side : String) : Except ReducerError String :=
  if 0 ≤ delta then orFail (.overflow subkey series) (u256Add current (toString delta.toNat))
  else
    let abs := toString delta.natAbs
    orFail (.positionUnderflow subkey series side current abs) (u256Sub current abs)

/-- A side of a position that is only changed when the event names a change. -/
def changed (delta : Option Int) (subkey series side : String) : Except ReducerError String :=
  match delta with
  | none => .ok current
  | some d => applySignedDelta current d subkey series side

/-- `apply_position_modify`. -/
def applyPositionModify : Reduce Unit := do
  let subkey ← require event.subkey event "subkey"
  let series ← require event.seriesId event "series_id"
  let longDelta := payloadI128 event "long_delta_1e8_signed"
  let shortDelta := payloadI128 event "short_delta_1e8_signed"
  let row ← read fun state => (state.positions.get? (subkey, series)).getD {}
  write fun state => state.setPosition subkey series row
  let long ← check (changed row.longQty1e8 longDelta subkey series "long")
  write fun state => state.setPosition subkey series { row with longQty1e8 := long }
  let short ← check (changed row.shortQty1e8 shortDelta subkey series "short")
  write fun state => state.setPosition subkey series
    { longQty1e8 := long, shortQty1e8 := short, lastEventBlock := ctx.blockNumber }
  if long = "0" ∧ short = "0" then
    write fun state =>
      { state with positions := state.positions.del (subkey, series) }.dropSeries subkey series

/-- The greater total of the two, or the first one that is not zero. -/
def raisedTotal : Option String → String
  | none => current
  | some total => if current = "0" || u256Lt current total then total else current

/-- `apply_order_filled`. -/
def applyOrderFilled : Reduce Unit := do
  let orderHash ← require event.orderHash event "order_hash"
  let filledDelta := (payloadString event "filled_delta_1e8").getD "0"
  let totalQty := payloadString event "total_qty_1e8"
  let terminal := (payloadBool event "terminal").getD false
  let timeInForce := (payloadU8 event "time_in_force").getD 0
  let side := (payloadU8 event "side").getD 0
  let old ← read fun state => (state.orderLifecycle.get? orderHash).getD {}
  let row : OrderLifecycleRow :=
    { old with
      firstSeenBlock := if old.firstSeenBlock = 0 then ctx.blockNumber else old.firstSeenBlock }
  write fun state => state.setOrder orderHash row
  let candidate ← check (orFail (.overflow orderHash "filled") (u256Add row.filledQty1e8 filledDelta))
  if u256Lt candidate row.filledQty1e8 then
    fail (.filledQtyDecrease orderHash row.filledQty1e8 candidate)
  write fun state => state.setOrder orderHash
    { row with
      filledQty1e8 := candidate
      totalQty1e8 := raisedTotal row.totalQty1e8 totalQty
      subkey := event.subkey.getD row.subkey
      owner := event.owner.getD row.owner
      seriesId := event.seriesId <|> row.seriesId
      side := side
      timeInForce := timeInForce
      terminal := row.terminal || terminal
      lastEventBlock := ctx.blockNumber }

def ProjectionState.setEscape (subkey : String) (f : EscapeStateRow → EscapeStateRow) :
    ProjectionState :=
  let row := f ((state.escapeState.get? subkey).getD {})
  { state with escapeState := state.escapeState.set subkey row }

/-- Write where the recovery of a subkey stands. -/
def ProjectionState.setRecovery (subkey : String) (r : RecoveryStateProjection) : ProjectionState :=
  { state with recoveryState := state.recoveryState.set subkey r }

def ProjectionState.pushFee (row : FeeEventRow) : ProjectionState :=
  { state with feeEvents := state.feeEvents ++ [row] }

/-- An epoch row with one more epoch: `epoch_count.saturating_add(1)`. -/
def EpochRow.advanced (row : EpochRow) (ctx : ApplyContext) : EpochRow :=
  { row with epochCount := min (row.epochCount + 1) maxU64, lastEventBlock := ctx.blockNumber }

/-- The shared part of the three arms that write the fee journal. -/
def recordFee (kind : FeeEventKind) (payer receiver : Option String) : Reduce Unit := do
  let token ← require event.token event "token"
  let amount ← requireAmount event
  write fun state => state.pushFee
    { kind := kind, payerSubkey := payer, receiverSubkey := receiver, token := token,
      amount := amount, blockNumber := ctx.blockNumber, txHash := ctx.txHash,
      logIndex := ctx.logIndex, executionId := event.executionId }

/-- The shared part of the two arms that register a subaccount. -/
def registerSubaccount (mark : SubaccountMeta → SubaccountMeta) : Reduce Unit := do
  let (owner, sid, subkey) ← requireIdentity event
  write fun state =>
    { state with
      subaccounts := state.subaccounts.set (owner, sid) subkey
      subaccountMeta :=
        state.subaccountMeta.set subkey (mark ((state.subaccountMeta.get? subkey).getD {})) }

/-- The shared part of the two arms that advance a subaccount's epoch. -/
def advanceSubaccountEpoch : Reduce Unit := do
  let subkey ← require event.subkey event "subkey"
  write fun state =>
    let row := (state.subaccountRecoveryEpochs.get? subkey).getD {}
    { state with
      subaccountRecoveryEpochs := state.subaccountRecoveryEpochs.set subkey (row.advanced ctx) }

/-! ## The reducer -/

/-- `apply`. -/
def apply : Reduce Unit :=
  match event.kind with
  -- identity
  | .subaccountCreated =>
    registerSubaccount event fun row => { row with materialisedViaCreated := true }
  | .subaccountLazyRegistered =>
    registerSubaccount event fun row => { row with materialisedViaLazy := true }
  -- vault balances
  | .deposit => do
      let subkey ← require event.subkey event "subkey"
      let token ← require event.token event "token"
      if ← read fun state => isFinalized state subkey then
        fail (.finalizedSubaccountCredit subkey event.kind)
      let amount ← requireAmount event
      credit subkey token amount
  | .withdraw => do
      let subkey ← require event.subkey event "subkey"
      let token ← require event.token event "token"
      let amount ← requireAmount event
      debit subkey token amount
  | .internalTransfer => do
      let token ← require event.token event "token"
      let amount ← requireAmount event
      match payloadString event "from_subkey" with
      | some source => debit source token amount
      | none => pure ()
      match payloadString event "to_subkey" with
      | some target => credit target token amount
      | none => pure ()
  | .collateralLocked => adjustReservation event true
  | .collateralUnlocked => adjustReservation event false
  | .orphanedLockReleased => adjustReservation event false
  | .collateralTokenEnteredUniverse => do
      let token ← require event.token event "token"
      let size ← read fun state => state.collateralUniverse.keys.length
      let idx :=
        ((payloadString event "universe_index").bind (parseUnsigned maxU32)).getD (size % 2 ^ 32)
      let known ← read fun state => (state.collateralUniverse.get? token).isSome
      if !known && size ≥ maxCollateralTokens then
        fail (.collateralUniverseCapacity (size + 1) maxCollateralTokens)
      write fun state =>
        { state with
          collateralUniverse :=
            if known then state.collateralUniverse else state.collateralUniverse.set token idx
          disabledTokens := state.disabledTokens.erase token }
  | .supportedTokenAdded =>
    match event.token with
    | some token =>
      write fun state => { state with disabledTokens := state.disabledTokens.erase token }
    | none => pure ()
  | .supportedTokenRemoved =>
    match event.token with
    | some token =>
      write fun state => { state with disabledTokens := insert token state.disabledTokens }
    | none => pure ()
  -- capability
  | .engineCapabilityChanged => do
      let engine ← require event.engine event "engine"
      let added := (payloadString event "added_bits").getD "0"
      let removed := (payloadString event "removed_bits").getD "0"
      write fun state =>
        let cur := (state.capabilityGrants.get? engine).getD "0"
        { state with
          capabilityGrants :=
            state.capabilityGrants.set engine (u256BitwiseOrAndMask cur added removed) }
  | .engineGuardianRevoked => do
      let _ ← require event.engine event "engine"
  | .guardianChanged => pure ()
  -- pause and bad debt
  | .pauseFlagChanged => do
      let subkey ← require event.subkey event "subkey"
      let paused := (payloadBool event "paused").getD false
      write fun state => { state with pauseFlags := state.pauseFlags.set subkey paused }
  | .badDebtSocialized => do
      let subkey ← require event.subkey event "subkey"
      let token ← require event.token event "token"
      let amount ← requireAmount event
      let cur ← read fun state => (state.badDebt.get? (subkey, token)).getD "0"
      let next ← check (orFail (.overflow subkey token) (u256Add cur amount))
      write fun state => { state with badDebt := state.badDebt.set (subkey, token) next }
  -- evidence only
  | .protocolSubaccountsInitialized | .escapeControllerInitialized
  | .recoveryFinalizerInitialized | .deploymentManifestDeclared | .riskParamsSet
  | .riskModuleActivated | .liquidationTriggered => pure ()
  -- positions
  | .optionPositionOpened => applyPositionOpen event ctx
  | .optionPositionModified => applyPositionModify event ctx
  | .optionPositionClosed => do
      let subkey ← require event.subkey event "subkey"
      let series ← require event.seriesId event "series_id"
      write fun state =>
        { state with positions := state.positions.del (subkey, series) }.dropSeries subkey series
  | .optionExercised | .optionSettled => pure ()
  | .optionPositionLiquidated => do
      let subkey ← require event.subkey event "subkey"
      let series ← require event.seriesId event "series_id"
      write fun state =>
        { state with
          positions := state.positions.alter (subkey, series) fun _ =>
            { longQty1e8 := "0", shortQty1e8 := "0", lastEventBlock := ctx.blockNumber }
        }.dropSeries subkey series
  -- orders
  | .optionOrderFilled => applyOrderFilled event ctx
  | .optionOrderCancelled => do
      let orderHash ← require event.orderHash event "order_hash"
      write fun state =>
        let row := (state.orderLifecycle.get? orderHash).getD {}
        state.setOrder orderHash
          { row with
            firstSeenBlock :=
              if row.firstSeenBlock = 0 then ctx.blockNumber else row.firstSeenBlock
            cancelled := true
            terminal := true
            lastEventBlock := ctx.blockNumber
            subkey := event.subkey.getD row.subkey
            owner := event.owner.getD row.owner }
  | .optionOrderPairExecuted => pure ()
  | .optionSubaccountMinValidOrderNonceAdvanced => do
      let subkey ← require event.subkey event "subkey"
      let incoming := (payloadString event "new_min_valid_nonce").getD "0"
      let cur ← read fun state => (state.minValidNonce.get? subkey).getD "0"
      if u256Lt incoming cur then
        fail (.minNonceDecrease "SUBACCOUNT" subkey cur incoming)
      write fun state => { state with minValidNonce := state.minValidNonce.set subkey incoming }
  -- fees, rebates, premium
  | .optionPremiumTransferred =>
    recordFee event ctx .optionPremiumTransferred (payloadString event "from_subkey")
      (payloadString event "to_subkey")
  | .optionFeeCharged =>
    recordFee event ctx .optionFeeCharged event.subkey (payloadString event "fee_subkey")
  | .optionRebatePaid =>
    recordFee event ctx .optionRebatePaid (payloadString event "rebate_subkey") event.subkey
  -- recovery
  | .recoveryRequested => do
      let subkey ← require event.subkey event "subkey"
      write fun state =>
        (state.setRecovery subkey .recoveryPending).setEscape subkey fun row =>
          { row with
            state := .requested
            requestedTs := some ctx.blockTimestamp
            activationEligibleAt :=
              (payloadString event "activation_eligible_at").bind (parseUnsigned maxU64)
            lastEventBlock := ctx.blockNumber }
  | .recoveryActivated => do
      let subkey ← require event.subkey event "subkey"
      write fun state =>
        (state.setRecovery subkey .recoveryActive).setEscape subkey fun row =>
          { row with
            state := .activated
            activatedTs := some ctx.blockTimestamp
            lastEventBlock := ctx.blockNumber }
  | .recoveryCancelled => do
      let subkey ← require event.subkey event "subkey"
      let prior ← read fun state => state.recoveryState.get? subkey
      if prior = some .recovered then
        fail (.illegalRecoveryTransition subkey prior .cancelled event.kind)
      write fun state =>
        (state.setRecovery subkey .cancelled).setEscape subkey fun row =>
          { row with
            state := .cancelled
            cancelledTs := some ctx.blockTimestamp
            lastEventBlock := ctx.blockNumber }
  | .recoveryEpochIncremented => advanceSubaccountEpoch event ctx
  | .recoveryPauseSet => do
      let paused := (payloadBool event "paused").getD false
      let untilTs := ((payloadString event "until_ts").bind (parseUnsigned maxU64)).getD 0
      write fun state =>
        { state with
          recoveryPause :=
            some { paused := paused, untilTs := untilTs, lastEventBlock := ctx.blockNumber } }
  | .recoveryFinalized => do
      let subkey ← require event.subkey event "subkey"
      let prior ← read fun state => state.recoveryState.get? subkey
      if prior = some .recovered then
        fail (.illegalRecoveryTransition subkey prior .recovered event.kind)
      write fun state =>
        let ended := (state.setRecovery subkey .recovered).setEscape subkey fun row =>
          { row with
            state := .finalized
            finalizedTs := some ctx.blockTimestamp
            lastEventBlock := ctx.blockNumber }
        -- what the subaccount held is dropped with it
        { ended with
          balances := ended.balances.retain fun key => key.1 != subkey
          reservations := ended.reservations.retain fun key => key.1 != subkey }
  | .recoveryFinalizationWithdrawn => do
      let subkey ← require event.subkey event "subkey"
      write fun state =>
        let count := (state.recoveryFinalizationWithdrawals.get? subkey).getD 0
        { state with
          recoveryFinalizationWithdrawals :=
            state.recoveryFinalizationWithdrawals.set subkey (min (count + 1) maxU32) }
  | .intentConsumed => pure ()
  | .nonceCancelled => do
      let owner ← require event.owner event "owner"
      let incoming := (payloadString event "new_min_valid_nonce").getD "0"
      let cur ← read fun state =>
        ((state.ownerRecoveryEpochs.get? owner).map EpochRow.minValidNonce).getD "0"
      if u256Lt incoming cur then
        fail (.minNonceDecrease "OWNER" owner cur incoming)
      write fun state =>
        let row := (state.ownerRecoveryEpochs.get? owner).getD {}
        { state with
          ownerRecoveryEpochs := state.ownerRecoveryEpochs.set owner
            { row with minValidNonce := incoming, lastEventBlock := ctx.blockNumber } }
  | .ownerRecoveryEpochAdvanced => do
      let owner ← require event.owner event "owner"
      write fun state =>
        let row := (state.ownerRecoveryEpochs.get? owner).getD {}
        { state with
          ownerRecoveryEpochs := state.ownerRecoveryEpochs.set owner (row.advanced ctx) }
  | .subaccountRecoveryEpochAdvanced => advanceSubaccountEpoch event ctx

/-! ## Taking an accepted event apart -/

section

variable {event : HybridV2Event} {s : ProjectionState}

theorem guard_eq_ok [Decidable c] : (if c then do
        let _ : Unit ← fail e
        x
      else x) s = (.ok (), s') ↔ ¬c ∧ x s = (.ok (), s') := by
  by_cases hc : c
  · simp [hc, bind_run]
  · simp [hc]

theorem orFail_eq_ok : orFail e o = .ok a ↔ o = some a := by
  cases o <;> simp [orFail]

theorem require_eq_ok : require field event name s = (.ok a, s') ↔ field = some a ∧ s = s' := by
  rw [require, check_eq_ok, orFail_eq_ok]

end

end DeoptBackend.HybridV2
