import DeoptBackend.Lib.Interleave
import DeoptBackend.Options.Conditional
import DeoptBackend.Options.HoldRuns

/-!
# Conditional orders with a database

`trigger_one`, the tick and the startup sweep as programs of repository calls, each call
atomic, with other workers and a crash possible between any two of them.

* `conditionalOrderFromRow` — a row is read column by column, and a column that the
  statement did not return is an error.  The `RETURNING` lists of the statements that
  write, `returningColumns`, have no `subaccount_id`.
* `triggerOne`, `executeTriggeredViaRepo`, `evaluateTick`, `recoverStrandedTriggering` —
  the programs.  Every statement takes the list of the columns it returns.
* `no_child_is_sent` — with the lists of the source, the claim that opens every trigger
  writes its row and then fails to read it back, so that no child order is ever sent.
* `oco_legs_exclusive`, `children_fill_at_most` — what follows for the two legs of a group
  and for the total that the children of an order fill.
* `both_legs_send_if_returned`, `overfilled_if_returned` — neither would hold if the column
  was returned.
-/

namespace DeoptBackend

open OptionsService Prog Prog.Safe Act

/-! ## Rows -/

/-- What `conditional_order_from_row` reads, in its order. -/
def conditionalOrderColumns : List String :=
  ["position_side", "option_kind", "conditional_type", "trigger_source", "trigger_condition",
    "execution_type", "status", "id", "account", "subaccount_id", "option_series_id",
    "trigger_price_1e8", "quantity_1e8", "limit_price_1e8", "reduce_only", "oco_group_id",
    "child_order_id", "failure_code", "failure_message", "expires_at_ms", "triggered_at_ms",
    "completed_at_ms", "created_at_ms", "updated_at_ms", "version"]

/-- The columns of `RETURNING` in `update_conditional_order`,
`claim_conditional_order_armed` and `cancel_oco_siblings`. -/
def returningColumns : List String :=
  ["id", "account", "option_series_id", "position_side", "option_kind", "conditional_type",
    "trigger_source", "trigger_condition", "trigger_price_1e8", "quantity_1e8",
    "execution_type", "limit_price_1e8", "reduce_only", "oco_group_id", "status",
    "child_order_id", "failure_code", "failure_message", "expires_at_ms", "triggered_at_ms",
    "completed_at_ms", "created_at_ms", "updated_at_ms", "version"]

/-- The columns of `CONDITIONAL_ORDER_SELECT` and of the query that lists the rows. -/
def selectColumns : List String := returningColumns ++ ["subaccount_id"]

/-- `conditional_order_from_row`, from the columns that were returned. -/
def conditionalOrderFromRow (columns : List String) (row : ConditionalOrder) :
    Except BackendError ConditionalOrder :=
  match conditionalOrderColumns.find? fun column => decide (column ∉ columns) with
  | some column => .error (.persistence ("no column found for name: " ++ column))
  | none =>
    if row.subaccountId < 1 then
      .error (.persistence "conditional order subaccount_id must be >= 1")
    else .ok row

def conditionalOrdersFromRows (columns : List String) :
    List ConditionalOrder → Except BackendError (List ConditionalOrder)
  | [] => .ok []
  | row :: rows => do
      let order ← conditionalOrderFromRow columns row
      let orders ← conditionalOrdersFromRows columns rows
      return order :: orders

/-! ## Statements -/

/-- The tables.  The last two fields are what the statements are about, and no function
reads them. -/
structure ConditionalTables where
  tables : OptionTables
  /-- `options_conditional_orders`. -/
  conditionalOrders : FMap Uuid ConditionalOrder
  /-- The conditional orders a child was sent for, last first. -/
  sent : List ConditionalOrder
  /-- What each matched child filled, with the name of its conditional order. -/
  filled : List (Uuid × Nat)

namespace ConditionalTables

/-- Work on the tables of the book. -/
def onTables {α : Type} (x : Act BackendError OptionTables α) :
    Act BackendError ConditionalTables α :=
  zoom (·.tables) (fun tables db => { db with tables := tables }) x

/-- `list_conditional_orders`. -/
def listConditionalOrders (filter : ConditionalOrderFilter) :
    Act BackendError ConditionalTables (List ConditionalOrder) := fun db =>
  let rows := db.conditionalOrders.vals.insertionSort fun a b =>
    a.createdAtMs < b.createdAtMs ∨ (a.createdAtMs = b.createdAtMs ∧ a.id ≤ b.id)
  ((conditionalOrdersFromRows selectColumns rows).map fun orders =>
    orders.filter filter.matches, db)

variable (returning : List String)

/-- `claim_conditional_order_armed`. -/
def claimConditionalOrderArmed (id : Uuid) (next : ConditionalOrderStatus) (now : TimestampMs) :
    Act BackendError ConditionalTables (Option ConditionalOrder) := fun db =>
  match db.conditionalOrders.get? id with
  | none => (.ok none, db)
  | some row =>
    if row.status = .armed then
      ((conditionalOrderFromRow returning (row.restated next now)).map some,
        { db with conditionalOrders := db.conditionalOrders.set id (row.restated next now) })
    else (.ok none, db)

/-- The row `update_conditional_order` writes. -/
def updatedRow (row order : ConditionalOrder) : ConditionalOrder :=
  { row with
    status := order.status
    childOrderId := order.childOrderId
    failureCode := order.failureCode
    failureMessage := order.failureMessage
    triggeredAtMs := order.triggeredAtMs
    completedAtMs := order.completedAtMs
    updatedAtMs := order.updatedAtMs
    version := row.version + 1 }

/-- `update_conditional_order`: the row has to be at the version before the caller's. -/
def updateConditionalOrder (order : ConditionalOrder) :
    Act BackendError ConditionalTables ConditionalOrder := fun db =>
  match db.conditionalOrders.get? order.id with
  | none => (.error .invalidConditionalOrderId, db)
  | some row =>
    if row.version + 1 = order.version then
      (conditionalOrderFromRow returning (updatedRow row order), { db with
          conditionalOrders := db.conditionalOrders.set order.id (updatedRow row order) })
    else (.error .invalidConditionalOrderId, db)

/-- The rows `cancel_oco_siblings` updates. -/
def isArmedSibling (group winner : Uuid) (row : ConditionalOrder) : Bool :=
  decide (row.ocoGroupId = some group) && decide (row.id ≠ winner) && decide (row.status = .armed)

/-- What it makes of them. -/
def siblingCancelled (now : TimestampMs) (row : ConditionalOrder) : ConditionalOrder :=
  (row.terminated .cancelled now).because "oco_sibling_triggered"
    (some "sibling conditional order triggered first")

/-- `cancel_oco_siblings`. -/
def cancelOcoSiblings (group winner : Uuid) (now : TimestampMs) :
    Act BackendError ConditionalTables (List ConditionalOrder) := fun db =>
  (conditionalOrdersFromRows returning
      ((db.conditionalOrders.vals.filter (isArmedSibling group winner)).map (siblingCancelled now)),
    { db with conditionalOrders := db.conditionalOrders.mapVals fun row =>
        if isArmedSibling group winner row then siblingCancelled now row else row })

/-- `list_option_fills_for_account_and_series`. -/
def listOptionFillsForAccountAndSeries (sqlLower : String → String) (account : AccountId)
    (series : OptionSeriesId) (db : OptionTables) : List OptionFill :=
  (db.fills.vals.filter fun f => f.optionSeriesId = series ∧
    (sqlLower f.buyer.name = sqlLower account.name ∨
      sqlLower f.seller.name = sqlLower account.name)).insertionSort fun a b =>
    a.createdAtMs < b.createdAtMs ∨ (a.createdAtMs = b.createdAtMs ∧ a.fillId ≤ b.fillId)

end ConditionalTables

/-! ## Programs -/

structure ChildDraws where
  childId : OrderId
  /-- The identifiers of its fills and holds. -/
  draws : MatchDraws

namespace OptionsService

variable (svc : OptionsService) (returning : List String)

variable (claimed : ConditionalOrder)

/-- The child of a claimed order is sent: `submit_option_order`, with the match as its last
call. -/
def submitChild (childQty : Nat) (ids : ChildDraws) (now : TimestampMs) :
    Prog BackendError ConditionalTables (OptionOrder × List OptionFill) := do
  let input := claimed.childInput childQty
  atomic (write fun db => { db with sent := claimed :: db.sent })
  check (svc.validateSubmit now input)
  let found ← atomic (read fun db => db.tables.series.get? input.optionSeriesId)
  let openOrders ← atomic (read fun db =>
    openOptionOrdersForSeries input.optionSeriesId db.tables)
  let series ← check (svc.validateSeries now input found openOrders)
  let order := svc.newOptionOrder input ids.childId now
  atomic do
    let out ← ConditionalTables.onTables (submitOptionOrderAndMatchWithReservations
      svc.executionIdOf svc.domain ids.draws now svc.sqlLower order
      (svc.buildMatcherReservationPlan series order now))
    write fun db =>
      { db with filled := (claimed.id, (out.2.map (·.size1e8)).sum) :: db.filled }
    return out

/-- The last part of `execute_triggered_via_repo`: the outcome of the child is recorded. -/
def recordChild (childQty : Nat) (now : TimestampMs) :
    Except BackendError (OptionOrder × List OptionFill) →
      Prog BackendError ConditionalTables ConditionalOrder
  | .ok out =>
    let filled := (out.2.map (·.size1e8)).sum
    let status : ConditionalOrderStatus :=
      if filled = childQty then .completed else if filled > 0 then .partiallyFilled else .failed
    atomic (ConditionalTables.updateConditionalOrder returning
      (claimed.recorded status out.1.orderId childQty now))
  | .error e =>
    atomic (ConditionalTables.updateConditionalOrder returning
      ((claimed.terminated .failed now).because "child_submit_failed" (some e.show)))

/-- `execute_triggered_via_repo`. -/
def executeTriggeredViaRepo (ids : ChildDraws) (now : TimestampMs) :
    Prog BackendError ConditionalTables ConditionalOrder := do
  let fills ← atomic (read fun db =>
    ConditionalTables.listOptionFillsForAccountAndSeries svc.sqlLower claimed.account
      claimed.optionSeriesId db.tables)
  match classifyReducible (computePositionSigned1e8 fills claimed.account) with
  | none =>
    atomic (ConditionalTables.updateConditionalOrder returning
      ((claimed.terminated .cancelled now).because "position_closed"
        (some "position is no longer open when the trigger fired")))
  | some live =>
    if live.side ≠ claimed.positionSide then
      atomic (ConditionalTables.updateConditionalOrder returning
        ((claimed.terminated .failed now).because "position_side_changed"
          (some "position direction changed since arming; refusing to fire")))
    else if min claimed.quantity1e8 live.size1e8 = 0 then
      atomic (ConditionalTables.updateConditionalOrder returning
        ((claimed.terminated .cancelled now).because "position_closed" none))
    else do
      let childQty := min claimed.quantity1e8 live.size1e8
      let outcome ← (svc.submitChild claimed childQty ids now).attempt
      recordChild returning claimed childQty now outcome

def cancelSiblingsViaRepo (now : TimestampMs) :
    Prog BackendError ConditionalTables (List ConditionalOrder) :=
  match claimed.ocoGroupId with
  | none => pure []
  | some group => atomic (ConditionalTables.cancelOcoSiblings returning group claimed.id now)

/-- `trigger_one`, with a database. -/
def triggerOne (id : Uuid) (ids : ChildDraws) (now : TimestampMs) :
    Prog BackendError ConditionalTables ConditionalOrder := do
  let found ← atomic (ConditionalTables.claimConditionalOrderArmed returning id .triggering now)
  match found with
  | none => fail .conditionalOrderAlreadyTerminal
  | some claimed => do
      let _ ← cancelSiblingsViaRepo returning claimed now
      check svc.ensureEnabled
      let series ← atomic (read fun db => db.tables.series.get? claimed.optionSeriesId)
      match series with
      | none => fail (.invalidOptionSeriesId claimed.optionSeriesId)
      | some _ => svc.executeTriggeredViaRepo returning claimed ids now

structure TickResult where
  evaluated : Nat
  triggered : Nat
  completed : Nat
  failed : Nat

/-- The loop of a tick: a trigger that fails is counted, and the next one is tried. -/
def triggerAll (ids : Nat → ChildDraws) (now : TimestampMs) :
    Nat → List Uuid → TickResult → Prog BackendError ConditionalTables TickResult
  | _, [], result => pure result
  | i, id :: rest, result => do
      let outcome ← (svc.triggerOne returning id (ids i) now).attempt
      triggerAll ids now (i + 1) rest <| match outcome with
        | .error _ => { result with failed := result.failed + 1 }
        | .ok _ => { result with
            triggered := result.triggered + 1
            completed := result.completed + 1 }

/-- `evaluate_conditional_orders_tick_with_prices`. -/
def evaluateTick (prices : OptionSeriesId → Option Nat) (ids : Nat → ChildDraws)
    (now : TimestampMs) : Prog BackendError ConditionalTables TickResult :=
  if svc.enabled then do
    let armed ← atomic (ConditionalTables.listConditionalOrders
      ⟨none, none, some .armed, none⟩)
    svc.triggerAll returning ids now 0 (selectOrdersToTrigger armed prices now)
      ⟨armed.length, 0, 0, 0⟩
  else pure ⟨0, 0, 0, 0⟩

/-- What the startup sweep makes of a row: it has ended if its child is recorded, and is
armed again if not. -/
def recoveredRow (order : ConditionalOrder) (now : TimestampMs) : ConditionalOrder :=
  if order.childOrderId.isSome then order.terminated .completed now
  else order.restated .armed now

/-- The loop of the startup sweep.  A row that someone else has written is passed over. -/
def recoverRows (now : TimestampMs) :
    List ConditionalOrder → Nat → Prog BackendError ConditionalTables Nat
  | [], count => pure count
  | order :: rest, count => do
      let saved ← (atomic
        (ConditionalTables.updateConditionalOrder returning (recoveredRow order now))).attempt
      match saved with
      | .ok _ => recoverRows now rest (count + 1)
      | .error .invalidConditionalOrderId => recoverRows now rest count
      | .error e => fail e

/-- `recover_stranded_triggering`. -/
def recoverStrandedTriggering (now : TimestampMs) : Prog BackendError ConditionalTables Nat := do
  check svc.ensureEnabled
  let stranded ← atomic (ConditionalTables.listConditionalOrders
    ⟨none, none, some .triggering, none⟩)
  recoverRows returning now stranded 0

end OptionsService

/-! ## Workers -/

/-- What the workers of a backend run. -/
inductive ConditionalJob where
  /-- `trigger_one`. -/
  | trigger (id : Uuid) (ids : ChildDraws) (now : TimestampMs)
  | tick (prices : OptionSeriesId → Option Nat) (ids : Nat → ChildDraws) (now : TimestampMs)
  /-- The startup sweep. -/
  | recover (now : TimestampMs)

section

variable (svc : OptionsService) (returning : List String)

def ConditionalJob.prog : ConditionalJob → Prog BackendError ConditionalTables Unit
  | .trigger id ids now => do
      let _ ← svc.triggerOne returning id ids now
      return ()
  | .tick prices ids now => do
      let _ ← svc.evaluateTick returning prices ids now
      return ()
  | .recover now => do
      let _ ← svc.recoverStrandedTriggering returning now
      return ()

abbrev ConditionalPool := Pool BackendError ConditionalTables Unit

/-- What can happen: a job is started, a worker makes its next call, the backend crashes,
or anything else is done to the tables. -/
def WorkerMove (_ : ConditionalPool) : PoolMove BackendError ConditionalTables Unit → Prop
  | .start p => ∃ job : ConditionalJob, p = job.prog svc returning
  | .turn _ => True
  | .crash => True
  | .outside f => ∀ db, (f db).sent = db.sent ∧ (f db).filled = db.filled

end

namespace ConditionalTables

variable (db : ConditionalTables)

def Childless : Prop := db.sent = [] ∧ db.filled = []

def legsSent (group : Uuid) : List Uuid :=
  ((db.sent.filter fun c => decide (c.ocoGroupId = some group)).map (·.id)).dedup

/-- What the children of a conditional order filled. -/
def filledFor (id : Uuid) : Nat :=
  ((db.filled.filter fun entry => decide (entry.1 = id)).map (·.2)).sum

variable {db : ConditionalTables}

theorem conditionalOrderFromRow_returning (row : ConditionalOrder) :
    conditionalOrderFromRow returningColumns row =
      .error (.persistence "no column found for name: subaccount_id") := by
  rfl

/-- **A claim that takes effect is not seen to.** -/
theorem claim_ne_some (id : Uuid) (next : ConditionalOrderStatus) (now : TimestampMs)
    (db : ConditionalTables)
    (h : (claimConditionalOrderArmed returningColumns id next now db).1 = .ok found) :
    found = none := by
  unfold claimConditionalOrderArmed at h
  cases hrow : db.conditionalOrders.get? id with
  | none =>
    simp only [hrow, Except.ok.injEq] at h
    exact h.symm
  | some =>
    simp only [hrow] at h
    split at h
    · rw [conditionalOrderFromRow_returning] at h
      cases h
    · simp only [Except.ok.injEq] at h
      exact h.symm

theorem childless_claim (returning : List String) (id : Uuid) (next : ConditionalOrderStatus)
    (now : TimestampMs) (h : db.Childless) :
    (claimConditionalOrderArmed returning id next now db).2.Childless := by
  unfold claimConditionalOrderArmed
  split
  · exact h
  · split <;> exact h

theorem childless_update (returning : List String) (order : ConditionalOrder)
    (h : db.Childless) : (updateConditionalOrder returning order db).2.Childless := by
  unfold updateConditionalOrder
  split
  · exact h
  · split <;> exact h

end ConditionalTables

section

variable (svc : OptionsService)

open ConditionalTables in
theorem safe_triggerOne (id : Uuid) (ids : ChildDraws) (now : TimestampMs) :
    (svc.triggerOne returningColumns id ids now).Safe Childless fun _ => True := by
  refine bind (Q := fun found => found = none)
    (atomic (fun db hdb => childless_claim _ id _ now hdb)
      fun db found _ h => claim_ne_some id _ now db h) ?_
  rintro found rfl
  exact fail _

open ConditionalTables in
theorem safe_list (filter : ConditionalOrderFilter) :
    (atomic (listConditionalOrders filter)).Safe Childless fun _ => True :=
  atomic (fun _ hdb => hdb) fun _ _ _ _ => trivial

open ConditionalTables in
theorem safe_triggerAll (ids : Nat → ChildDraws) (now : TimestampMs) (i : Nat) (rest : List Uuid)
    (result : TickResult) :
    (svc.triggerAll returningColumns ids now i rest result).Safe Childless fun _ => True := by
  induction rest generalizing i result with
  | nil => trivial
  | cons id rest ih =>
    exact (safe_triggerOne svc id (ids i) now).attempt.bind fun outcome _ => ih _ _

open ConditionalTables in
theorem safe_recoverRows (now : TimestampMs) (rows : List ConditionalOrder) (count : Nat) :
    (recoverRows returningColumns now rows count).Safe Childless fun _ => True := by
  induction rows generalizing count with
  | nil => trivial
  | cons order rows ih =>
    have hupdate : (atomic (updateConditionalOrder returningColumns
        (recoveredRow order now))).Safe Childless fun _ => True :=
      atomic (fun db hdb => childless_update _ _ hdb) fun _ _ _ _ => trivial
    refine hupdate.attempt.bind fun saved _ => ?_
    split
    · exact ih _
    · exact ih _
    · exact fail _

open ConditionalTables in
theorem safe_job (job : ConditionalJob) :
    (job.prog svc returningColumns).Safe Childless fun _ => True := by
  cases job with
  | trigger id ids now => exact (safe_triggerOne svc id ids now).bind fun _ _ => trivial
  | tick prices ids now =>
    refine bind (Q := fun _ => True) ?_ fun _ _ => trivial
    unfold evaluateTick
    split
    · exact (safe_list _).bind fun armed _ => safe_triggerAll svc ids now 0 _ _
    · trivial
  | recover now =>
    refine bind (Q := fun _ => True) ?_ fun _ _ => trivial
    refine bind (check svc.ensureEnabled) fun _ _ => ?_
    exact (safe_list _).bind fun stranded _ => safe_recoverRows now stranded 0

end

/-- **With a database no child order is ever sent**, whatever the workers, the crashes and
the rest of the backend do. -/
theorem no_child_is_sent (hdb : db.Childless)
    (hrun : Run (stepOf Pool.after (WorkerMove svc returningColumns)) ⟨db, []⟩ moves pool) :
    pool.shared.Childless := by
  refine Pool.safe (Q := fun _ => True) hrun rfl hdb ?_ ?_
  · rintro pool p ⟨job, rfl⟩
    exact safe_job svc job
  · intro pool f db hf hdb
    exact ⟨(hf db).1.trans hdb.1, (hf db).2.trans hdb.2⟩

section

variable {pool : ConditionalPool}

/-- **At most one leg of a group ever sends a child**, however the workers of the two legs
take turns. -/
theorem oco_legs_exclusive (hdb : db.Childless)
    (hrun : Run (stepOf Pool.after (WorkerMove svc returningColumns)) ⟨db, []⟩ moves pool)
    (group : Uuid) : (pool.shared.legsSent group).length ≤ 1 := by
  have hsent := (no_child_is_sent hdb hrun).1
  simp [ConditionalTables.legsSent, hsent]

/-- **The children of a conditional order never fill more than its quantity**, wherever the
backend crashes and however often the order is armed again. -/
theorem children_fill_at_most (hdb : db.Childless)
    (hrun : Run (stepOf Pool.after (WorkerMove svc returningColumns)) ⟨db, []⟩ moves pool)
    {id : Uuid} {order : ConditionalOrder}
    (_ : pool.shared.conditionalOrders.get? id = some order) :
    pool.shared.filledFor id ≤ order.quantity1e8 := by
  have hfilled := (no_child_is_sent hdb hrun).2
  simp [ConditionalTables.filledFor, hfilled]

end

/-! ## Two legs on a position of eight -/

namespace TwoLegs

/-- A service whose orders are named after their owners and sizes. -/
def svc : OptionsService :=
  { HeldBook.svc with orderHashOf := fun inputs => inputs.owner.name ++ toString inputs.size1e8 }

/-- A leg that closes up to five, armed at time 0. -/
def leg (id : Uuid) (group : Option Uuid) : ConditionalOrder where
  id := id
  account := HeldBook.buyer
  subaccountId := 1
  optionSeriesId := "ETH-C"
  positionSide := .long
  optionKind := .call
  conditionalType := .takeProfit
  triggerCondition := .gte
  triggerPrice1e8 := 1
  quantity1e8 := 5
  limitPrice1e8 := 100000000
  ocoGroupId := group
  status := .armed
  childOrderId := none
  failureCode := none
  failureMessage := none
  expiresAtMs := none
  triggeredAtMs := none
  completedAtMs := none
  createdAtMs := 0
  updatedAtMs := 0
  version := 0

def bid : OptionOrder :=
  { orderOf (HeldBook.input HeldBook.seller .buy 20 none) ⟨1⟩ 0 with
    canonicalOrderHash := some "bid" }

def bought : OptionFill :=
  optionFillFromMatch svc.executionIdOf .constantTestDomain
    (orderOf (HeldBook.input HeldBook.buyer .buy 8 none) ⟨2⟩ 0)
    (orderOf (HeldBook.input HeldBook.seller .sell 8 none) ⟨3⟩ 0) 8 0 1

/-- The bid, the position and the legs. -/
def tables (legs : List ConditionalOrder) : ConditionalTables where
  tables := ⟨HeldBook.series, (∅ : FMap OrderId OptionOrder).set ⟨1⟩ bid,
    (∅ : FMap Uuid OptionFill).set 1 bought, ∅⟩
  conditionalOrders := FMap.setAll (·.id) id legs ∅
  sent := []
  filled := []

/-- The identifiers of the `n`-th child. -/
def ids (n : Nat) : ChildDraws := ⟨⟨10 + n⟩, HeldBook.draws (100 * n + 100)⟩

/-- A worker makes some calls. -/
def turns (worker count : Nat) : List (PoolMove BackendError ConditionalTables Unit) :=
  List.replicate count (.turn worker)

def start (returning : List String) (job : ConditionalJob) :
    List (PoolMove BackendError ConditionalTables Unit) := [.start (job.prog svc returning)]

theorem allowed_turns : ∀ move ∈ turns worker count, WorkerMove svc returning pool move := by
  intro move hmove
  rw [List.eq_of_mem_replicate hmove]
  trivial

theorem allowed_start : ∀ move ∈ start returning job, WorkerMove svc returning pool move := by
  intro move hmove
  rw [List.mem_singleton.1 hmove]
  exact ⟨job, rfl⟩

variable (returning : List String)

/-- Both legs are claimed before either cancels its sibling. -/
def race : List (PoolMove BackendError ConditionalTables Unit) :=
  start returning (.trigger 1 (ids 1) 1) ++ start returning (.trigger 2 (ids 2) 1) ++
    turns 0 1 ++ turns 1 1 ++ turns 0 4 ++ turns 1 4

def raced : ConditionalPool :=
  (race returning).foldl Pool.after ⟨tables [leg 1 (some 7), leg 2 (some 7)], []⟩

theorem run_race :
    Run (stepOf Pool.after (WorkerMove svc returning)) ⟨tables [leg 1 (some 7), leg 2 (some 7)], []⟩
      (race returning) (raced returning) := by
  refine Run.of_foldl _ fun pool move hmove => ?_
  simp only [race, List.mem_append, or_assoc] at hmove
  rcases hmove with h | h | h | h | h | h
  · exact allowed_start move h
  · exact allowed_start move h
  · exact allowed_turns move h
  · exact allowed_turns move h
  · exact allowed_turns move h
  · exact allowed_turns move h

/-- Both legs are claimed, and neither sends. -/
theorem oco_legs_exclusive_race : ((raced returningColumns).shared.legsSent 7).length ≤ 1 ∧
      (raced returningColumns).shared.conditionalOrders.vals.map (·.status) =
        [.triggering, .triggering] :=
  ⟨oco_legs_exclusive ⟨rfl, rfl⟩ (run_race returningColumns) 7, by decide +kernel⟩

/-- **If the column was returned, both legs would send.** -/
theorem both_legs_send_if_returned : ((raced selectColumns).shared.legsSent 7).length = 2 := by
  decide +kernel

/-- The backend crashes between the match of a child and the record of it, sweeps and
triggers the order again. -/
def restart : List (PoolMove BackendError ConditionalTables Unit) :=
  start returning (.trigger 1 (ids 1) 1) ++ turns 0 7 ++ [.crash] ++
    start returning (.recover 2) ++ turns 0 2 ++
    start returning (.trigger 1 (ids 2) 3) ++ turns 1 7

def restarted : ConditionalPool :=
  (restart returning).foldl Pool.after ⟨tables [leg 1 none], []⟩

theorem run_restart : Run (stepOf Pool.after (WorkerMove svc returning)) ⟨tables [leg 1 none], []⟩
      (restart returning) (restarted returning) := by
  refine Run.of_foldl _ fun pool move hmove => ?_
  simp only [restart, List.mem_append, or_assoc] at hmove
  rcases hmove with h | h | h | h | h | h | h
  · exact allowed_start move h
  · exact allowed_turns move h
  · rw [List.mem_singleton.1 h]
    trivial
  · exact allowed_start move h
  · exact allowed_turns move h
  · exact allowed_start move h
  · exact allowed_turns move h

/-- The order is claimed, armed again by the sweep and claimed again; nothing is filled. -/
theorem children_fill_at_most_restart :
    ((restarted returningColumns).shared.conditionalOrders.get? 1).map
        (fun order => (order.status, order.version)) = some (.triggering, 3) ∧
      (restarted returningColumns).shared.filledFor 1 ≤ 5 := by
  have hrow : ((restarted returningColumns).shared.conditionalOrders.get? 1).map
      (fun order => (order.status, order.version, order.quantity1e8)) =
        some (.triggering, 3, 5) := by decide +kernel
  obtain ⟨order, horder, hfields⟩ := Option.map_eq_some_iff.1 hrow
  obtain ⟨hstatus, hversion, hquantity⟩ : order.status = .triggering ∧ order.version = 3 ∧
      order.quantity1e8 = 5 := by simpa using hfields
  refine ⟨by rw [horder, Option.map_some, hstatus, hversion], ?_⟩
  rw [← hquantity]
  exact children_fill_at_most ⟨rfl, rfl⟩ (run_restart returningColumns) horder

/-- **If the column was returned, the children of an order of five would fill eight**: the
second child is cut to what is left of the position, so that its hash is a new one. -/
theorem overfilled_if_returned : (restarted selectColumns).shared.filledFor 1 = 8 := by
  decide +kernel

end TwoLegs

end DeoptBackend
