import DeoptBackend.Perps.Execution

/-!
# The perps engine over the database (`src/perps/execution_pg.rs`, `src/db/repository.rs`)

The same submit, written a second time over three tables.  Of the database the
model keeps the rows and the constraints the migrations declare: primary keys,
the two partial unique indexes, and the check on subaccount numbers.  A
transaction holds the ledger lock from its first statement to its commit, so the
tables do not change under it, and the tables are as before if it is dropped;
failures of the connection are left out.

* `PerpTables` — the tables; the `…Tx` functions — the statements.
* `applyPerpFillPg` — the twin of `applyPerpFillForAccount`.
* `submitPerpOrderViaRepositoryInner` — the submit.

The database folds case with its own `lower`, `sqlLower` here; the open positions
are also loaded into a `PerpPositionsStore`, which folds case with `lower`.
-/

namespace DeoptBackend

open Act

structure PerpTables where
  /-- `perp_orders`, by `id`. -/
  orders : FMap Uuid PerpOrder
  /-- `perp_fills`, by `id`. -/
  fills : FMap Uuid PerpFill
  /-- `perp_positions`, by `id`. -/
  positions : PositionTable

namespace PerpTables

/-- Tables with nothing in them. -/
def empty : PerpTables := ⟨∅, ∅, ∅⟩

end PerpTables

/-- What `idx_perp_orders_client_order_id` finds an order under. -/
def PerpOrder.clientIndex (sqlLower : String → String) (o : PerpOrder) : Option IndexKey :=
  o.clientOrderId.map (indexKey sqlLower o.account o.subaccountId)

/-! ## Statements -/

/-- `u32_to_i32`. -/
def u32ToI32 (field : String) (value : Nat) : Except Fault Unit :=
  if value ≤ maxI32 then .ok ()
  else .error (.err (.persistence (field ++ " exceeds INT range")))

/-- `CHECK (… >= 1)`; the text is the database's. -/
def checkSubaccount (table : String) (subaccountId : Nat) : Except Fault Unit :=
  if 1 ≤ subaccountId then .ok ()
  else .error (.err (.persistence ("error returned from database: new row for relation \"" ++ table
    ++ "\" violates check constraint")))

section

variable (sqlLower : String → String)

/-- `insert_perp_order_tx`: every violation of a unique index is reported as a
duplicate client order id. -/
def insertPerpOrderTx (order : PerpOrder) : Act Fault PerpTables Unit := do
  check (u32ToI32 "subaccount_id" order.subaccountId)
  check (checkSubaccount "perp_orders" order.subaccountId)
  let taken ← read fun db : PerpTables =>
    (db.orders.get? order.id).isSome ||
      (order.clientIndex sqlLower).any fun key =>
        (db.orders.at? (PerpOrder.clientIndex sqlLower) key).isSome
  if taken then fail (.err (.perpDuplicateClientOrderId (order.clientOrderId.getD "")))
  else write fun db => { db with orders := db.orders.set order.id order }

/-- The columns `update_perp_order_tx` sets. -/
def PerpOrder.setColumns (row order : PerpOrder) : PerpOrder :=
  { row with
    remainingSize1e8 := order.remainingSize1e8
    filledSize1e8 := order.filledSize1e8
    status := order.status
    terminalReasonCode := order.terminalReasonCode
    terminalReasonMessage := order.terminalReasonMessage
    terminalReasonSource := order.terminalReasonSource
    updatedAtMs := order.updatedAtMs }

/-- `update_perp_order_tx`. -/
def updatePerpOrderTx (order : PerpOrder) : Act Fault PerpTables PerpOrder := fun db =>
  match db.orders.get? order.id with
  | none => (.error (.err (.perpOrderNotFound (Uuid.show order.id))), db)
  | some row =>
    (.ok (row.setColumns order),
      { db with orders := db.orders.set order.id (row.setColumns order) })

/-- `get_perp_order_tx`. -/
def getPerpOrderTx (id : Uuid) (db : PerpTables) : Option PerpOrder := db.orders.get? id

/-- `list_open_perp_orders_tx`: by price, age and identifier, all upwards. -/
def listOpenPerpOrdersTx (marketId : String) (db : PerpTables) : List PerpOrder :=
  (db.orders.vals.filter fun o => o.marketId = marketId ∧ o.status.isActive).insertionSort
    askBefore

/-- `insert_perp_fill_tx`; the text for a taken identifier is the database's. -/
def insertPerpFillTx (fill : PerpFill) : Act Fault PerpTables Unit := do
  check (u32ToI32 "taker_subaccount_id" fill.takerSubaccountId)
  check (u32ToI32 "maker_subaccount_id" fill.makerSubaccountId)
  check (checkSubaccount "perp_fills" fill.takerSubaccountId)
  check (checkSubaccount "perp_fills" fill.makerSubaccountId)
  let taken ← read fun db : PerpTables => (db.fills.get? fill.id).isSome
  if taken then
    fail (.err (.persistence
      "error returned from database: duplicate key value violates unique constraint"))
  else write fun db => { db with fills := db.fills.set fill.id fill }

variable (account : AccountId) (subaccountId : Nat) (marketId : String)

/-- `get_active_perp_position_tx`. -/
def getActivePerpPositionTx : Act Fault PerpTables (Option PerpPosition) := do
  check (u32ToI32 "subaccount_id" subaccountId)
  read fun db => PositionTable.openAt sqlLower db.positions
    (indexKey sqlLower account subaccountId marketId)

/-- `insert_perp_position_tx`. -/
def insertPerpPositionTx (position : PerpPosition) : Act Fault PerpTables Unit := do
  check (u32ToI32 "subaccount_id" position.subaccountId)
  check (checkSubaccount "perp_positions" position.subaccountId)
  let taken ← read fun db : PerpTables =>
    (db.positions.get? position.id).isSome ||
      (position.openIndex sqlLower).any fun key =>
        (PositionTable.openAt sqlLower db.positions key).isSome
  if taken then
    fail (.err (.perpMarketPaused
      ("duplicate open perp position for account/market " ++ position.marketId)))
  else write fun db => { db with positions := db.positions.set position.id position }

/-- The columns `update_perp_position_tx` sets. -/
def PerpPosition.setColumns (row position : PerpPosition) : PerpPosition :=
  { row with
    side := position.side
    size1e8 := position.size1e8
    entryPrice1e8 := position.entryPrice1e8
    margin1e8 := position.margin1e8
    realizedPnl1e8 := position.realizedPnl1e8
    status := position.status
    updatedAtMs := position.updatedAtMs
    closedAtMs := position.closedAtMs
    lastFundingIndex1e18 := position.lastFundingIndex1e18
    cumulativeFundingPayment1e8 := position.cumulativeFundingPayment1e8
    version := row.version + 1 }

/-- `update_perp_position_tx`: the row must still have the version it was read
with. -/
def updatePerpPositionTx (position : PerpPosition) : Act Fault PerpTables PerpPosition := fun db =>
  match db.positions.get? position.id with
  | none => (.error (.err .perpPositionNotFound), db)
  | some row =>
    if row.version = position.version then
      (.ok (row.setColumns position),
        { db with positions := db.positions.set position.id (row.setColumns position) })
    else (.error (.err .perpPositionNotFound), db)

/-- `close_active_perp_position_tx`. -/
def closeActivePerpPositionTx (now : TimestampMs) : Act Fault PerpTables PerpPosition := do
  check (u32ToI32 "subaccount_id" subaccountId)
  let found ← read fun db : PerpTables => PositionTable.openAt sqlLower db.positions
    (indexKey sqlLower account subaccountId marketId)
  match found with
  | none => fail (.err .perpPositionNotFound)
  | some row =>
    let row := { row.asClosed now with updatedAtMs := now, version := row.version + 1 }
    write fun db => { db with positions := db.positions.set row.id row }
    pure row

/-- `list_open_perp_positions_tx`. -/
def listOpenPerpPositionsTx (db : PerpTables) : List PerpPosition :=
  (db.positions.vals.filter fun p => p.status = .open).insertionSort fun a b => a.id ≤ b.id

/-! ## Fills -/

variable (market : PerpsReadMarket)

/-- The branch of `apply_perp_fill_pg` for an account with no open position. -/
def openPositionPg (fill : PerpFillInput) (positionId : Uuid) (now : TimestampMs) :
    Act Fault PerpTables PerpPosition := do
  check (if fill.margin1e8 = 0 then .error (.err .perpZeroMargin) else .ok ())
  check (checkMargin "margin" fill.marketId fill.size1e8 fill.price1e8 fill.margin1e8
    market.maxLeverage)
  -- the clock readings of the skeleton are overwritten
  let position := newPositionSkeleton positionId fill.account fill.subaccountId fill.marketId
    fill.side fill.size1e8 fill.price1e8 fill.margin1e8 now
  insertPerpPositionTx sqlLower position
  pure position

variable (existing : PerpPosition) (fill : PerpFillInput) (now : TimestampMs)

/-- The branch for a position on the side of the fill. -/
def increasePositionPg : Act Fault PerpTables PerpPosition := do
  check (if fill.margin1e8 = 0 then .error (.err .perpZeroMargin) else .ok ())
  let newSize := Margin.satAdd existing.size1e8 fill.size1e8
  let newEntry := Margin.weightedAverageEntry1e8 existing.size1e8 existing.entryPrice1e8
    fill.size1e8 fill.price1e8
  let newMargin := Margin.satAdd existing.margin1e8 fill.margin1e8
  check (checkMargin "post-increase margin" fill.marketId newSize newEntry newMargin
    market.maxLeverage)
  updatePerpPositionTx
    { existing with
      size1e8 := newSize
      entryPrice1e8 := newEntry
      margin1e8 := newMargin
      updatedAtMs := now }

/-- The branch for a position on the other side. -/
def reducePositionPg : Act Fault PerpTables PerpPosition := do
  check (if fill.size1e8 > existing.size1e8 then .error (.err .perpPositionFlip) else .ok ())
  let realized := Margin.realizedPnl1e8 existing.entryPrice1e8 fill.price1e8 fill.size1e8
    existing.side
  if fill.size1e8 = existing.size1e8 then
    let closed ← closeActivePerpPositionTx sqlLower existing.account existing.subaccountId
      existing.marketId now
    updatePerpPositionTx { closed.realizing realized with status := .closed }
  else
    let released := Margin.mulDivFloor existing.margin1e8 fill.size1e8 existing.size1e8
    updatePerpPositionTx
      { existing with
        size1e8 := existing.size1e8 - fill.size1e8
        margin1e8 := existing.margin1e8 - released
        realizedPnl1e8 := Margin.satI128 (existing.realizedPnl1e8 + realized)
        updatedAtMs := now }

/-- `apply_perp_fill_pg`. -/
def applyPerpFillPg (fill : PerpFillInput) (positionId : Uuid) (now : TimestampMs) :
    Act Fault PerpTables PerpPosition := do
  check (validateFillBasics fill)
  check (validateFillMarket market fill)
  let existing ← getActivePerpPositionTx sqlLower fill.account fill.subaccountId fill.marketId
  match existing with
  | none => openPositionPg sqlLower market fill positionId now
  | some pos =>
    if pos.side = fill.side then increasePositionPg market pos fill now
    else reducePositionPg sqlLower pos fill now

/-! ## The submit -/

/-- `filter_counterparties`: the asks keep the order of the query, the bids are
sorted again. -/
def filterCounterparties (orders : List PerpOrder) (takerSide : PerpOrderSide) : List PerpOrder :=
  let filtered := orders.filter fun o => o.side = takerSide.opposite
  match takerSide with
  | .buy => filtered
  | .sell => filtered.insertionSort bidBefore

/-- The makers of an arriving order. -/
def counterpartiesPg (db : PerpTables) (order : PerpOrder) : List PerpOrder :=
  filterCounterparties (listOpenPerpOrdersTx order.marketId db) order.side

variable (order : PerpOrder)

/-- The gates between the plan and the commit; the makers' accounts are looked at
later. -/
def arrivalGatesPg (planned : List PlannedFill) : Except Fault Unit :=
  if order.postOnly = true ∧ planned ≠ [] then .error (.err .perpPostOnlyWouldMatch)
  else if order.timeInForce = .fok ∧ plannedTotal planned < order.size1e8 then
    .error (.err .perpFokNotFillable)
  else .ok ()

/-- `enforce_reduce_only_pg`, for an order that asks for it. -/
def enforceReduceOnlyPg : Act Fault PerpTables Unit := do
  if order.reduceOnly then
    let existing ← getActivePerpPositionTx sqlLower order.account order.subaccountId order.marketId
    check (checkReduces order existing)

/-- The row of a maker, or the error for a missing one. -/
def requireOrderPg (id : Uuid) (db : PerpTables) : Except Fault PerpOrder :=
  match getPerpOrderTx id db with
  | none => .error (.err (.perpOrderNotFound (Uuid.show id)))
  | some order => .ok order

/-- One round of the commit loop. -/
def commitFillPg (now : TimestampMs) (draws : FillDraws) (plan : PlannedFill) :
    Act Fault PerpTables PerpFill := do
  check (if eqIgnoreAsciiCase plan.makerAccount.name order.account.name then
    .error (.err .perpSelfTrade) else .ok ())
  let found ← read (requireOrderPg plan.makerOrderId)
  let maker ← check found
  let maker := { maker.makerFilled plan.size1e8 with updatedAtMs := now }
  let _ ← updatePerpOrderTx maker
  let _ ← applyPerpFillPg sqlLower market (takerFillInput order plan) draws.taker.positionId now
  let _ ← applyPerpFillPg sqlLower market (makerFillInput order maker plan) draws.maker.positionId
    now
  let fill := fillRecord order maker plan draws.fillId now
  insertPerpFillTx fill
  pure fill

/-- The commit loop, from the `i`-th planned fill on. -/
def commitFillsPg (market : PerpsReadMarket) (order : PerpOrder) (draws : SubmitDraws) :
    Nat → Nat → List PlannedFill → Act Fault PerpTables (List PerpFill × Nat)
  | _, takerRemaining, [] => pure ([], takerRemaining)
  | i, takerRemaining, plan :: planned => do
      let fill ← commitFillPg sqlLower market order draws.now (draws.fills i) plan
      let (fills, left) ← commitFillsPg market order draws (i + 1) (takerRemaining - plan.size1e8)
        planned
      pure (fill :: fills, left)

/-- What happens once the order is inserted. -/
def matchOrderPg (draws : SubmitDraws) (order : PerpOrder) :
    Act Fault PerpTables SubmitPerpOrderOutcome := do
  let counterparties ← read fun db => counterpartiesPg db order
  let planned := planFillsPure order counterparties
  check (arrivalGatesPg order planned)
  enforceReduceOnlyPg sqlLower order
  let (fills, takerRemaining) ← commitFillsPg sqlLower market order draws 0 order.size1e8 planned
  let finalTaker ← updatePerpOrderTx
    { order.takerSettled order.timeInForce takerRemaining fills with updatedAtMs := draws.now }
  pure { order := finalTaker, fills := fills }

variable (lower : String → String)

variable (cfg : PerpsReadConfig)

/-- What is checked before the transaction. -/
def checkInputPg (input : SubmitPerpOrderInput) : Except Fault PerpsReadMarket := do
  returned (validateInputBasics input)
  returned (validateTifCombinations input)
  returned (cfg.requireMarket input.marketId)

def loadPositions : List PerpPosition → Act Fault PerpPositionsStore Unit
  | [] => pure ()
  | position :: rest => do
      let _ ← PerpPositionsStore.insertOpen lower position
      loadPositions rest

def openPositionsPg (db : PerpTables) : Except Fault PerpPositionsStore :=
  match loadPositions lower (listOpenPerpPositionsTx db) .empty with
  | (.ok (), positions) => .ok positions
  | (.error e, _) => .error e

/-- The gate every order but an explicitly reduce-only one passes; the deviation
of the mark is not looked at. -/
def openingRiskGatePg (market : PerpsReadMarket) (checkedAtMs : TimestampMs)
    (mark : Except BackendError RawPriceRead) (positions : PerpPositionsStore)
    (input : SubmitPerpOrderInput) : Except Fault Unit :=
  if input.reduceOnly then .ok ()
  else do
    let read ← returned (requireOracle mark)
    returned (ensureMarkFresh cfg read market checkedAtMs)
    enforcePreSubmitRiskCaps lower market positions input

/-- What is checked before the order is inserted. -/
def preSubmitPg (checkedAtMs : TimestampMs) (mark : Except BackendError RawPriceRead)
    (input : SubmitPerpOrderInput) (db : PerpTables) : Except Fault PerpsReadMarket := do
  let market ← checkInputPg cfg input
  let positions ← openPositionsPg lower db
  openingRiskGatePg lower cfg market checkedAtMs mark positions input
  pure market

variable (cfg : PerpsReadConfig) (draws : SubmitDraws) (mark : Except BackendError RawPriceRead)
  (input : SubmitPerpOrderInput)

/-- The statements of a submit, one after the other: the row is made with the price
of the input as it is. -/
def submitPerpOrderTx : Act Fault PerpTables SubmitPerpOrderOutcome := do
  let checked ← read (preSubmitPg lower cfg draws.checkedAtMs mark input)
  let market ← check checked
  let takerSeed := takerOrder draws input input.price1e8
  insertPerpOrderTx sqlLower takerSeed
  matchOrderPg sqlLower market draws takerSeed

/-- `submit_perp_order_via_repository_inner`: the statements, in one transaction.
`submit_perp_order_via_repository` adds the frame for the event stream. -/
def submitPerpOrderViaRepositoryInner : Act Fault PerpTables SubmitPerpOrderOutcome :=
  atomically (submitPerpOrderTx sqlLower lower cfg draws mark input)

end

/-! ## What the statements do -/

/-- The row the database engine makes of an input. -/
def SubmitPerpOrderInput.rowPg (input : SubmitPerpOrderInput) (draws : SubmitDraws) : PerpOrder :=
  takerOrder draws input input.price1e8

/-- The database takes the subaccount number. -/
def Storable (subaccountId : Nat) : Prop := 1 ≤ subaccountId ∧ subaccountId ≤ maxI32

theorem u32ToI32_eq_ok : u32ToI32 field value = .ok () ↔ value ≤ maxI32 := by
  unfold u32ToI32
  split <;> simp_all

theorem checkSubaccount_eq_ok : checkSubaccount table value = .ok () ↔ 1 ≤ value := by
  unfold checkSubaccount
  split <;> simp_all

theorem not_taken_iff {row : Option ν} {find : IndexKey → Option ν} :
    (row.isSome || key.any fun k => (find k).isSome) = false ↔
      row = none ∧ ∀ k, key = some k → find k = none := by
  cases key <;> simp

namespace PerpTables

def ClientFree (sqlLower : String → String) (order : PerpOrder) (db : PerpTables) : Prop :=
  ∀ key, order.clientIndex sqlLower = some key →
    db.orders.at? (PerpOrder.clientIndex sqlLower) key = none

def withOrders (orders : FMap Uuid PerpOrder) (db : PerpTables) : PerpTables :=
  { db with orders := orders }

def inserted (order : PerpOrder) (db : PerpTables) : PerpTables :=
  db.withOrders (db.orders.set order.id order)

def withPositions (positions : PositionTable) (db : PerpTables) : PerpTables :=
  { db with positions := positions }

end PerpTables

theorem insertPerpOrderTx_eq_ok {u : Unit} : insertPerpOrderTx sqlLower order db = (.ok u, db') ↔
      Storable order.subaccountId ∧ db.orders.get? order.id = none ∧
        db.ClientFree sqlLower order ∧ db' = db.inserted order := by
  constructor
  · intro h
    obtain ⟨_, hrange, h₁⟩ := check_bind_eq_ok.1 h
    obtain ⟨_, hcheck, h₂⟩ := check_bind_eq_ok.1 h₁
    obtain ⟨taken, _, hread, h₃⟩ := bind_eq_ok.1 h₂
    obtain ⟨htaken, rfl⟩ := read_eq_ok.1 hread
    split at h₃
    · cases h₃
    next hnot =>
      cases h₃
      obtain ⟨hnew, hclient⟩ := not_taken_iff.1 (htaken.symm.trans (by simpa using hnot))
      exact ⟨⟨checkSubaccount_eq_ok.1 hcheck, u32ToI32_eq_ok.1 hrange⟩, hnew, hclient, rfl⟩
  · rintro ⟨⟨hpos, hrange⟩, hnew, hclient, rfl⟩
    rw [insertPerpOrderTx, check_bind (u32ToI32_eq_ok.2 hrange),
      check_bind (checkSubaccount_eq_ok.2 hpos), read_bind,
      not_taken_iff.2 ⟨hnew, hclient⟩]
    rfl

theorem updatePerpOrderTx_eq_ok : updatePerpOrderTx order db = (.ok row, db') ↔
      ∃ old, db.orders.get? order.id = some old ∧ row = old.setColumns order ∧
        db' = db.withOrders (db.orders.set order.id row) := by
  unfold updatePerpOrderTx
  cases h : db.orders.get? order.id with
  | none => simp
  | some old =>
    constructor
    · rintro ⟨⟩
      exact ⟨old, rfl, rfl, rfl⟩
    · rintro ⟨_, ⟨⟩, rfl, rfl⟩
      rfl

theorem insertPerpPositionTx_keeps (position : PerpPosition) :
    (insertPerpPositionTx sqlLower position).Keeps PerpTables.orders := by
  refine (Keeps.check _).bind fun _ => (Keeps.check _).bind fun _ =>
    (Keeps.read _).bind fun taken => ?_
  split
  · exact Keeps.fail _
  · exact Keeps.write fun _ => rfl

theorem updatePerpPositionTx_keeps (position : PerpPosition) :
    (updatePerpPositionTx position).Keeps PerpTables.orders := by
  intro db
  unfold updatePerpPositionTx
  split
  · rfl
  · split <;> rfl

theorem closeActivePerpPositionTx_keeps (account : AccountId) (subaccountId : Nat)
    (marketId : String) (now : TimestampMs) :
    (closeActivePerpPositionTx sqlLower account subaccountId marketId now).Keeps
      PerpTables.orders := by
  refine (Keeps.check _).bind fun _ => (Keeps.read _).bind fun found => ?_
  cases found with
  | none => exact Keeps.fail _
  | some =>
    exact Keeps.bind (Keeps.write fun _ => rfl) fun _ => Keeps.pure _

/-- A fill does not touch the orders. -/
theorem applyPerpFillPg_keeps (market : PerpsReadMarket) (fill : PerpFillInput) (positionId : Uuid)
    (now : TimestampMs) :
    (applyPerpFillPg sqlLower market fill positionId now).Keeps PerpTables.orders := by
  refine (Keeps.check _).bind fun _ => (Keeps.check _).bind fun _ =>
    ((Keeps.check _).bind fun _ => Keeps.read _).bind fun existing => ?_
  cases existing with
  | none =>
    exact (Keeps.check _).bind fun _ => (Keeps.check _).bind fun _ =>
      (insertPerpPositionTx_keeps _).bind fun _ => Keeps.pure _
  | some =>
    dsimp only
    split
    · exact (Keeps.check _).bind fun _ => (Keeps.check _).bind fun _ =>
        updatePerpPositionTx_keeps _
    refine (Keeps.check _).bind fun _ => ?_
    split
    · exact Keeps.bind (closeActivePerpPositionTx_keeps _ _ _ _) fun _ =>
        updatePerpPositionTx_keeps _
    · exact updatePerpPositionTx_keeps _

/-- The reduce-only check writes nothing. -/
theorem enforceReduceOnlyPg_keeps (order : PerpOrder) :
    (enforceReduceOnlyPg sqlLower order).Keeps id := by
  unfold enforceReduceOnlyPg
  split
  · exact ((Keeps.check _).bind fun _ => Keeps.read _).bind fun _ => Keeps.check _
  · exact Keeps.pure _

theorem insertPerpFillTx_keeps (fill : PerpFill) :
    (insertPerpFillTx fill).Keeps PerpTables.orders := by
  refine (Keeps.check _).bind fun _ => (Keeps.check _).bind fun _ =>
    (Keeps.check _).bind fun _ => (Keeps.check _).bind fun _ =>
      (Keeps.read _).bind fun taken => ?_
  split
  · exact Keeps.fail _
  · exact Keeps.write fun _ => rfl

end DeoptBackend
