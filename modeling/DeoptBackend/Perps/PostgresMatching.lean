import DeoptBackend.Perps.Postgres
import DeoptBackend.Perps.Submit

/-!
# The submit of the database engine

`submitPerpOrderViaRepositoryInner` against `Admitted`, as `Perps.Submit` does it
for the in-memory engine: the two engines are compared through what they share.

* `PositionTable.Filled`, `CommittedPg`, `CommitsPg` — one fill, one round of the
  commit loop, the loop.
* `PerpTables.WellFormed`, `SubmitDraws.FreshPg` — what the constraints of the
  tables and the random identifiers guarantee.
* `SubmittedPg`, `submitPg_ok`, `submitPg_inv` — a submit is accepted exactly when
  its checks pass, the database takes its row and it is `Admitted`.

The maker's account is compared with the taker's in every round of the loop, not
in front of it.
-/

namespace DeoptBackend

open Act Holding List PositionTable Trade PerpTables FMap

open PerpPositionsStore (fillKey)

/-! ## Fills -/

namespace PositionTable

/-- An open position whose row is written over, and stays open. -/
theorem WellFormed.reholds (hm : WellFormed lower m)
    (hp : openAt lower m (fillKey lower fill) = some p) {r : PerpPosition} (hid : r.id = p.id)
    (ho : r.openIndex lower = some (fillKey lower fill)) :
    Applied lower fill positionId m (some r.holding) (m.set p.id r) :=
  Applied.of_writes (hm.changes hp hid ho) rfl (by
    rintro q ⟨⟩
    exact .inr (by rw [hid, hm.get?_id hp]; simp))

end PositionTable

variable {now : TimestampMs}

/-- A run that applies a fill as a computation on its holding says. -/
def AppliesPg (sqlLower : String → String) (fill : PerpFillInput) (positionId : Uuid)
    (db : PerpTables) (spec : Except Fault (Option Holding))
    (out : Except Fault PerpPosition × PerpTables) : Prop :=
  Follows (fun _ => True) spec (fun new _ db' => ∃ m', db' = db.withPositions m' ∧
    PositionTable.Applied sqlLower fill positionId db.positions new m') out

section

variable {db : PerpTables}

theorem insertPerpPositionTx_ok (hsub : Storable p.subaccountId)
    (hid : db.positions.get? p.id = none) (hkey : ∀ key, p.openIndex sqlLower = some key →
      openAt sqlLower db.positions key = none) :
    insertPerpPositionTx sqlLower p db = (.ok (), db.withPositions (db.positions.set p.id p)) := by
  rw [insertPerpPositionTx, check_bind (u32ToI32_eq_ok.2 hsub.2),
    check_bind (checkSubaccount_eq_ok.2 hsub.1), read_bind, not_taken_iff.2 ⟨hid, hkey⟩]
  rfl

theorem updatePerpPositionTx_ok (hrow : db.positions.get? p.id = some row)
    (hversion : row.version = p.version) : updatePerpPositionTx p db =
      (.ok (row.setColumns p), db.withPositions (db.positions.set p.id (row.setColumns p))) := by
  simp only [updatePerpPositionTx, hrow, if_pos hversion]
  rfl

theorem getActivePerpPositionTx_run (hsub : Storable subaccountId) (db : PerpTables) :
    getActivePerpPositionTx sqlLower account subaccountId marketId db =
      (.ok (openAt sqlLower db.positions
        (indexKey sqlLower account subaccountId marketId)), db) := by
  rw [getActivePerpPositionTx, check_bind (u32ToI32_eq_ok.2 hsub.2)]
  rfl

/-- Closing a position and writing its PnL to the closed row leaves one row
written. -/
theorem closeActive_realizing (now : TimestampMs) (hsub : Storable p.subaccountId) (delta1e8 : Int)
    (hp : openAt sqlLower db.positions
      (indexKey sqlLower p.account p.subaccountId p.marketId) = some p) :
    ∃ mid closed row,
      closeActivePerpPositionTx sqlLower p.account p.subaccountId p.marketId now db =
        (.ok closed, mid) ∧
      updatePerpPositionTx { closed.realizing delta1e8 with status := .closed } mid =
        (.ok row, db.withPositions (db.positions.set p.id row)) ∧
      row.id = p.id ∧ row.status ≠ .open := by
  set closed : PerpPosition :=
    { p.asClosed now with updatedAtMs := now, version := p.version + 1 } with hclosed
  set mid := db.withPositions (db.positions.set closed.id closed) with hmid
  have hrow : mid.positions.get? closed.id = some closed := get?_set_self ..
  set paid : PerpPosition := { closed.realizing delta1e8 with status := .closed } with hpaid
  have hupd := updatePerpPositionTx_ok (p := paid) hrow rfl
  refine ⟨mid, closed, closed.setColumns paid, ?_, hupd.trans ?_, rfl,
    (by decide : PerpPositionStatus.closed ≠ .open)⟩
  · rw [closeActivePerpPositionTx, check_bind (u32ToI32_eq_ok.2 hsub.2), read_bind, hp]
    rfl
  · exact congrArg (fun m => (_, db.withPositions m))
      (set_set db.positions p.id closed (closed.setColumns paid))

theorem openPositionPg_spec (hm : PositionTable.WellFormed sqlLower db.positions)
    (hsub : Storable fill.subaccountId) (hid : db.positions.get? positionId = none)
    (hkey : openAt sqlLower db.positions (fillKey sqlLower fill) = none) :
    AppliesPg sqlLower fill positionId db (Holding.apply market fill none)
      (openPositionPg sqlLower market fill positionId now db) := by
  refine collateralised_spec trivial ?_
  set p := newPositionSkeleton positionId fill.account fill.subaccountId fill.marketId
    fill.side fill.size1e8 fill.price1e8 fill.margin1e8 now with hp
  have ho : p.openIndex sqlLower = some (fillKey sqlLower fill) := openIndex_of_open rfl rfl
  have hinsert : insertPerpPositionTx sqlLower p db =
      (.ok (), db.withPositions (db.positions.set p.id p)) := by
    refine insertPerpPositionTx_ok hsub hid fun key hk => ?_
    obtain rfl := Option.some.inj (ho.symm.trans hk)
    exact hkey
  rw [bind_of_ok hinsert]
  refine .of_ok ⟨_, rfl, PositionTable.Applied.of_writes (hm.opens hid ho hkey) rfl ?_⟩
  rintro q ⟨⟩
  exact .inl rfl

section

variable (hm : PositionTable.WellFormed sqlLower db.positions)
  (hp : openAt sqlLower db.positions (fillKey sqlLower fill) = some p)
include hm hp

/-- Writing new amounts over an open position. -/
theorem updateHolding_spec (h : Holding) :
    AppliesPg sqlLower fill positionId db (.ok (some h))
      (updatePerpPositionTx { p.withHolding h with updatedAtMs := now } db) := by
  obtain ⟨hopen, hk⟩ := openAt_spec hp
  set q : PerpPosition := { p.withHolding h with updatedAtMs := now } with hq
  have hrow : db.positions.get? q.id = some p := hm.get?_id hp
  rw [updatePerpPositionTx_ok hrow rfl]
  exact .of_ok ⟨_, rfl, hm.reholds hp (r := p.setColumns q) rfl (openIndex_of_open hopen hk)⟩

theorem increasePositionPg_spec (hside : p.side = fill.side) :
    AppliesPg sqlLower fill positionId db (Holding.apply market fill (some p.holding))
      (increasePositionPg market p fill now db) := by
  rw [apply_same hside]
  exact collateralised_spec trivial (updateHolding_spec hm hp _)

theorem reducePositionPg_spec (hsub : Storable fill.subaccountId) (hside : p.side ≠ fill.side) :
    AppliesPg sqlLower fill positionId db (Holding.apply market fill (some p.holding))
      (reducePositionPg sqlLower p fill now db) := by
  rcases lt_trichotomy fill.size1e8 p.size1e8 with hsize | hsize | hsize
  · rw [apply_reduce hside hsize, reducePositionPg, check_bind (if_neg hsize.not_gt),
      if_neg hsize.ne]
    exact updateHolding_spec hm hp (p.holding.reduced fill)
  · obtain ⟨-, hk⟩ := openAt_spec hp
    -- the number of the position is that of the fill
    have hpsub : p.subaccountId = fill.subaccountId := congrArg (fun k : IndexKey => k.2.1) hk
    obtain ⟨mid, closed, row, hclose, hpnl, hid, hstatus⟩ := closeActive_realizing now
      (by rw [hpsub]; exact hsub)
      (Margin.realizedPnl1e8 p.entryPrice1e8 fill.price1e8 fill.size1e8 p.side)
      (by rw [hk]; exact hp)
    rw [apply_close hside hsize, reducePositionPg, check_bind (if_neg hsize.not_gt), if_pos hsize,
      bind_of_ok hclose, hpnl]
    exact .of_ok ⟨_, rfl, PositionTable.Applied.of_writes (hm.ends hp hid hstatus) rfl
      (by rintro q ⟨⟩)⟩
  · rw [apply_flip hside hsize, reducePositionPg, if_pos hsize]
    exact ⟨rfl, trivial⟩

end

variable (db now) in
/-- **A fill is applied when the holdings take it**, and refused otherwise. -/
theorem applyPerpFillPg_spec (hm : PositionTable.WellFormed sqlLower db.positions)
    (hsub : Storable fill.subaccountId) (hid : db.positions.get? positionId = none) :
    Follows (fun _ => True) (fillHoldings sqlLower market fill (db.positions.holdingAt sqlLower))
      (fun h' _ db' => ∃ m', db' = db.withPositions m' ∧
        PositionTable.Filled sqlLower market fill positionId db.positions m' ∧
        m'.holdingAt sqlLower = h')
      (applyPerpFillPg sqlLower market fill positionId now db) := by
  have happlied : AppliesPg sqlLower fill positionId db
      (applyChecked market fill (db.positions.holdingAt sqlLower (fillKey sqlLower fill)))
      (applyPerpFillPg sqlLower market fill positionId now db) := by
    refine .check_bind trivial (fun _ h => by rw [applyChecked, h]) fun _ hb =>
      .check_bind trivial (fun _ h => by rw [applyChecked, hb, h]) fun _ hmk => ?_
    rw [applyChecked, hb, hmk, bind_of_ok (getActivePerpPositionTx_run hsub db),
      holdingAt, ← fillKey]
    cases hp : openAt sqlLower db.positions (fillKey sqlLower fill) with
    | none => exact openPositionPg_spec hm hsub hid hp
    | some p =>
      simp only
      split
      · next hside => exact increasePositionPg_spec hm hp hside
      · next hside => exact reducePositionPg_spec hm hp hsub hside
  refine happlied.imp (fun e he => ?_) ?_
  · rw [fillHoldings, he]
  · rintro new _ _ hok ⟨m', hdb', happ⟩
    exact ⟨_, fillHoldings_eq_ok.2 ⟨new, hok, rfl⟩, m', hdb', ⟨new, hok, happ⟩, happ.holdingAt_eq⟩

end

/-! ## The commit loop -/

/-- The database engine compares accounts without regard to ASCII case. -/
def sameAccountPg (a b : AccountId) : Bool := eqIgnoreAsciiCase a.name b.name

theorem PerpOrder.setColumns_of_terms {row o : PerpOrder} (h : row.terms = o.terms) :
    row.setColumns o = o := by
  simp only [PerpOrder.terms] at h
  simp_all [PerpOrder.setColumns]

/-- One round of the commit loop. -/
structure CommittedPg (sqlLower : String → String) (market : PerpsReadMarket) (order : PerpOrder)
    (now : TimestampMs) (draws : FillDraws) (t : Trade) (db db' : PerpTables) : Prop where
  orders : db'.orders = db.orders.set t.maker.id (t.makerRow now)
  fills : db'.fills = db.fills.set draws.fillId (fillRecord order t.maker t.plan draws.fillId now)
  positions : PositionTable.Traded sqlLower market order draws t db.positions db'.positions

namespace PerpTables

def holdings (sqlLower : String → String) (db : PerpTables) : Holdings :=
  db.positions.holdingAt sqlLower

end PerpTables

variable {t : Trade}

theorem updateMaker_run (hrow : db.orders.get? t.maker.id = some t.maker) :
    updatePerpOrderTx (t.makerRow now) db =
      (.ok (t.makerRow now), db.withOrders (db.orders.set t.maker.id (t.makerRow now))) := by
  have hid := id_makerRow now t
  refine updatePerpOrderTx_eq_ok.2 ⟨t.maker, by rw [hid]; exact hrow, ?_, by rw [hid]⟩
  exact (PerpOrder.setColumns_of_terms (terms_makerRow now t).symm).symm

theorem insertPerpFillTx_ok {fill : PerpFill} (htaker : Storable fill.takerSubaccountId)
    (hmaker : Storable fill.makerSubaccountId) (hid : db.fills.get? fill.id = none) :
    insertPerpFillTx fill db = (.ok (), { db with fills := db.fills.set fill.id fill }) := by
  rw [insertPerpFillTx, check_bind (u32ToI32_eq_ok.2 htaker.2),
    check_bind (u32ToI32_eq_ok.2 hmaker.2), check_bind (checkSubaccount_eq_ok.2 htaker.1),
    check_bind (checkSubaccount_eq_ok.2 hmaker.1), read_bind, hid]
  rfl

/-- The rows of a commit, once the maker's row is found. -/
theorem commitFillPg_run (hrow : db.orders.get? t.maker.id = some t.maker)
    (hstranger : sameAccountPg t.maker.account order.account = false) :
    commitFillPg sqlLower market order now draws t.plan db = (do
        let _ ← applyPerpFillPg sqlLower market (takerFillInput order t.plan)
          draws.taker.positionId now
        let _ ← applyPerpFillPg sqlLower market (makerFillInput order t.maker t.plan)
          draws.maker.positionId now
        insertPerpFillTx (fillRecord order t.maker t.plan draws.fillId now)
        pure (fillRecord order t.maker t.plan draws.fillId now) : Act Fault PerpTables PerpFill)
        (db.withOrders (db.orders.set t.maker.id (t.makerRow now))) := by
  have hown : eqIgnoreAsciiCase t.plan.makerAccount.name order.account.name = false := hstranger
  have hfound : requireOrderPg t.plan.makerOrderId db = .ok t.maker := by
    rw [requireOrderPg, getPerpOrderTx, plan, hrow]
  rw [commitFillPg, if_neg (by rw [hown]; simp), check_bind rfl, read_bind, check_bind hfound]
  have hplan : ({ t.maker.makerFilled t.plan.size1e8 with updatedAtMs := now } : PerpOrder) =
      t.makerRow now := rfl
  rw [hplan, bind_of_ok (updateMaker_run hrow), makerFillInput_makerRow, fillRecord_makerRow]

/-- A maker that is the taker's own stops the loop. -/
theorem commitFillPg_own (hown : sameAccountPg t.maker.account order.account = true) :
    commitFillPg sqlLower market order now draws t.plan db = (.error (.err .perpSelfTrade), db) := by
  have hown : eqIgnoreAsciiCase t.plan.makerAccount.name order.account.name = true := hown
  rw [commitFillPg, if_pos hown]
  exact bind_of_error (check_run _ _)

/-- **A trade is committed when both sides take it**, and stops the loop otherwise. -/
theorem commitFillPg_spec (hm : PositionTable.WellFormed sqlLower db.positions)
    (hrow : db.orders.get? t.maker.id = some t.maker) (htaker : Storable order.subaccountId)
    (hmaker : Storable t.maker.subaccountId)
    (hidTaker : db.positions.get? draws.taker.positionId = none)
    (hidMaker : db.positions.get? draws.maker.positionId = none)
    (hne : draws.maker.positionId ≠ draws.taker.positionId)
    (hfill : db.fills.get? draws.fillId = none)
    (hstranger : sameAccountPg t.maker.account order.account = false) :
    Follows (fun _ => True) (trade sqlLower market order t (db.holdings sqlLower))
      (fun h' f db' => f = fillRecord order t.maker t.plan draws.fillId now ∧
        CommittedPg sqlLower market order now draws t db db' ∧ db'.holdings sqlLower = h')
      (commitFillPg sqlLower market order now draws t.plan db) := by
  rw [commitFillPg_run hrow hstranger]
  set db₁ := db.withOrders (db.orders.set t.maker.id (t.makerRow now)) with hdb₁
  refine .bind (applyPerpFillPg_spec now db₁ hm htaker hidTaker)
    (fun e he => trade_eq_error.2 (.inl he)) ?_
  rintro _ _ _ ht ⟨m₁, rfl, hfilled, rfl⟩
  refine .bind (applyPerpFillPg_spec now (db₁.withPositions m₁) hfilled.wellFormed hmaker
    (hfilled.unused hne hidMaker)) (fun e he => trade_eq_error.2 (.inr ⟨_, ht, he⟩)) ?_
  rintro _ _ _ hmk ⟨m₂, rfl, hfilled', rfl⟩
  have hins : insertPerpFillTx (fillRecord order t.maker t.plan draws.fillId now)
      ((db₁.withPositions m₁).withPositions m₂) = (.ok (), _) :=
    insertPerpFillTx_ok htaker hmaker hfill
  rw [bind_of_ok hins]
  exact ⟨_, trade_eq_ok.2 ⟨_, ht, hmk⟩, rfl, ⟨rfl, rfl, m₁, hfilled, hfilled'⟩, rfl⟩

/-- The commit loop, from the `i`-th trade on. -/
inductive CommitsPg (sqlLower : String → String) (market : PerpsReadMarket) (order : PerpOrder)
    (draws : SubmitDraws) : Nat → List Trade → PerpTables → PerpTables → Prop
  | done {i : Nat} {db : PerpTables} : CommitsPg sqlLower market order draws i [] db db
  | next {i : Nat} {t : Trade} {ts : List Trade} {db mid db' : PerpTables} :
      CommittedPg sqlLower market order draws.now (draws.fills i) t db mid →
      CommitsPg sqlLower market order draws (i + 1) ts mid db' →
      CommitsPg sqlLower market order draws i (t :: ts) db db'

/-- The tables are ready for the commit loop, from the `i`-th trade on. -/
structure ReadyPg (sqlLower : String → String) (order : PerpOrder) (draws : SubmitDraws) (i : Nat)
    (trades : List Trade) (db : PerpTables) : Prop where
  positions : PositionTable.WellFormed sqlLower db.positions
  undrawn : draws.Unused i db.positions
  /-- The fill identifiers still to be drawn are new. -/
  freshFills : ∀ j, i ≤ j → db.fills.get? (draws.fills j).fillId = none
  distinctFills : Function.Injective fun j => (draws.fills j).fillId
  /-- The taker's subaccount is one the database takes. -/
  taker : Storable order.subaccountId
  makers : ∀ t ∈ trades, Storable t.maker.subaccountId
  planned : AsPlanned trades db.orders

variable {draws : SubmitDraws}

/-- After a round the tables are ready for the next one. -/
theorem ReadyPg.step (h : ReadyPg sqlLower order draws i (t :: ts) db)
    (hc : CommittedPg sqlLower market order draws.now (draws.fills i) t db db') :
    ReadyPg sqlLower order draws (i + 1) ts db' where
  positions := hc.positions.wellFormed
  undrawn := h.undrawn.next hc.positions
  freshFills := by
    intro j hj
    have hne : (draws.fills j).fillId ≠ (draws.fills i).fillId := fun heq => by
      have hji : j = i := h.distinctFills heq
      omega
    rw [hc.fills, get?_set_ne _ hne, h.freshFills j (by omega)]
  distinctFills := h.distinctFills
  taker := h.taker
  makers := fun u hu => h.makers u (mem_cons_of_mem _ hu)
  planned := by
    rw [hc.orders]
    exact h.planned.next _

/-- A ready round commits a trade that is taken and is not the taker's own. -/
theorem ReadyPg.commitFill_spec (h : ReadyPg sqlLower order draws i (t :: ts) db)
    (hstranger : sameAccountPg t.maker.account order.account = false) :
    Follows (fun _ => True) (trade sqlLower market order t (db.holdings sqlLower))
      (fun h' f db' => f = fillRecord order t.maker t.plan (draws.fills i).fillId draws.now ∧
        CommittedPg sqlLower market order draws.now (draws.fills i) t db db' ∧
        db'.holdings sqlLower = h')
      (commitFillPg sqlLower market order draws.now (draws.fills i) t.plan db) := by
  obtain ⟨htaker, hmaker, hne⟩ := h.undrawn.drawn
  exact commitFillPg_spec h.positions (h.planned.rows t mem_cons_self) h.taker
    (h.makers t mem_cons_self) htaker hmaker hne (h.freshFills i le_rfl) hstranger

/-- **The loop succeeds when every trade is taken**, where none is the taker's own. -/
theorem commitFillsPg_spec (h : ReadyPg sqlLower order draws i trades db)
    (hstranger : ∀ t ∈ trades, sameAccountPg t.maker.account order.account = false)
    (remaining : Nat) :
    Follows (fun _ => True) (tradeAll sqlLower market order trades (db.holdings sqlLower))
      (fun h' out db' => out = (fillRecords order draws i trades, remaining - total trades) ∧
        CommitsPg sqlLower market order draws i trades db db' ∧ db'.holdings sqlLower = h')
      (commitFillsPg sqlLower market order draws i remaining (trades.map plan) db) := by
  induction trades generalizing i db remaining with
  | nil => exact ⟨_, rfl, rfl, .done, rfl⟩
  | cons t ts ih =>
    refine .bind (h.commitFill_spec (hstranger t mem_cons_self))
      (fun e he => by rw [tradeAll, he]) ?_
    rintro _ _ m ht ⟨rfl, hc, rfl⟩
    rw [tradeAll, ht]
    refine .bind (ih (h.step hc) (fun u hu => hstranger u (mem_cons_of_mem _ hu))
      (remaining - t.plan.size1e8)) (fun _ he => he) ?_
    rintro _ _ db' hts ⟨rfl, hcs, rfl⟩
    exact ⟨_, hts, by rw [total_cons, ← Nat.sub_sub]; rfl, .next hc hcs, rfl⟩

/-- **The loop fails when a trade is the taker's own.** -/
theorem commitFillsPg_stranger (h : ReadyPg sqlLower order draws i trades db)
    (hrun : commitFillsPg sqlLower market order draws i remaining (trades.map plan) db =
      (.ok out, db')) : ∀ t ∈ trades, sameAccountPg t.maker.account order.account = false := by
  induction trades generalizing i db db' remaining out with
  | nil => simp
  | cons t ts ih =>
    obtain ⟨_, m, hfirst, hrest⟩ := bind_eq_ok.1 hrun
    obtain ⟨_, _, hrest, -⟩ := bind_eq_ok.1 hrest
    cases hown : sameAccountPg t.maker.account order.account with
    | true => cases (commitFillPg_own hown).symm.trans hfirst
    | false =>
      obtain ⟨_, -, -, hc, -⟩ := (h.commitFill_spec hown).inv hfirst
      exact forall_mem_cons.2 ⟨hown, ih (h.step hc) hrest⟩

namespace CommitsPg

section

variable (h : CommitsPg sqlLower market order draws i trades db db')
include h

theorem tradeAll : DeoptBackend.tradeAll sqlLower market order trades (db.holdings sqlLower) =
      .ok (db'.holdings sqlLower) := by
  induction h with
  | done => rfl
  | next hc _ ih => exact tradeAll_cons_eq_ok.2 ⟨_, hc.positions.trade, ih⟩

/-- The rows of the makers are written, one after the other. -/
theorem orders_eq :
    db'.orders = setAll (·.maker.id) (·.makerRow draws.now) trades db.orders := by
  induction h with
  | done => rfl
  | next hc _ ih =>
    rw [ih, hc.orders]
    rfl

end

end CommitsPg

/-! ## The makers -/

/-- The order in which a taker of a side meets the makers. -/
def makerBefore : PerpOrderSide → PerpOrder → PerpOrder → Prop
  | .buy => askBefore
  | .sell => bidBefore

theorem makerBefore_antisymm {side : PerpOrderSide} (hab : makerBefore side a b)
    (hba : makerBefore side b a) : a.id = b.id := by
  cases side
  · have hab : askBefore a b := hab
    have hba : askBefore b a := hba
    grind [askBefore]
  · have hab : bidBefore a b := hab
    have hba : bidBefore b a := hba
    grind [bidBefore]

theorem pairwise_counterpartiesFor (store : PerpOrderStore) (marketId : String)
    (side : PerpOrderSide) : (counterpartiesFor store marketId side).Pairwise (makerBefore side) := by
  cases side
  · exact pairwise_insertionSort askBefore _
  · exact pairwise_insertionSort bidBefore _

theorem pairwise_counterpartiesPg (db : PerpTables) (order : PerpOrder) :
    (counterpartiesPg db order).Pairwise (makerBefore order.side) := by
  unfold counterpartiesPg filterCounterparties
  cases order.side
  · exact (pairwise_insertionSort askBefore _).sublist filter_sublist
  · exact pairwise_insertionSort bidBefore _

/-- The makers are the active orders of the other side of the market. -/
theorem mem_counterpartiesPg : m ∈ counterpartiesPg db order ↔
      (∃ id, db.orders.get? id = some m) ∧ m.marketId = order.marketId ∧
        m.status.isActive = true ∧ m.side = order.side.opposite := by
  unfold counterpartiesPg filterCounterparties
  cases order.side <;>
    simp [listOpenPerpOrdersTx, mem_vals, and_assoc]

theorem nodup_counterpartiesPg (hfiled : ∀ {id o}, db.orders.get? id = some o → o.id = id)
    (order : PerpOrder) : ((counterpartiesPg db order).map (·.id)).Nodup := by
  have hall : (db.orders.vals.map (·.id)).Nodup := nodup_vals_map fun h => hfiled h
  have hlist : ((listOpenPerpOrdersTx order.marketId db).map (·.id)).Nodup :=
    (((perm_insertionSort _ _).map _).nodup_iff).2 (hall.sublist (filter_sublist.map _))
  unfold counterpartiesPg filterCounterparties
  cases order.side
  · exact hlist.sublist (filter_sublist.map _)
  · exact (((perm_insertionSort _ _).map _).nodup_iff).2
      (hlist.sublist (filter_sublist.map _))

theorem PerpTables.get_inserted (order : PerpOrder) (db : PerpTables) (id : Uuid) :
    (db.inserted order).orders.get? id = if id = order.id then some order else db.orders.get? id :=
  get?_set ..

/-- An order is no maker of its own. -/
theorem counterpartiesPg_inserted (hfiled : ∀ {id o}, db.orders.get? id = some o → o.id = id)
    (hnew : db.orders.get? order.id = none) :
    counterpartiesPg (db.inserted order) order = counterpartiesPg db order := by
  have hfiled' : ∀ {id o}, (db.inserted order).orders.get? id = some o → o.id = id := by
    intro id o ho
    rw [get_inserted] at ho
    split at ho
    · next hid => cases ho; exact hid.symm
    · exact hfiled ho
  refine ranked_unique PerpOrder.id makerBefore_antisymm (pairwise_counterpartiesPg _ _)
    (pairwise_counterpartiesPg _ _) (nodup_counterpartiesPg hfiled' order)
    (nodup_counterpartiesPg hfiled order) fun m => ?_
  rw [mem_counterpartiesPg, mem_counterpartiesPg]
  constructor
  · rintro ⟨⟨id, hid⟩, hmarket, hactive, hside⟩
    rw [get_inserted] at hid
    split at hid
    · cases hid
      cases hs : order.side <;> simp [hs, PerpOrderSide.opposite] at hside
    · exact ⟨⟨id, hid⟩, hmarket, hactive, hside⟩
  · rintro ⟨⟨id, hid⟩, hrest⟩
    refine ⟨⟨id, ?_⟩, hrest⟩
    rw [get_inserted, if_neg (by rintro rfl; rw [hnew] at hid; cases hid), hid]

/-! ## The submit -/

/-- The trades an arriving order makes with the resting ones. -/
def tradesForPg (db : PerpTables) (order : PerpOrder) : List Trade :=
  tradesFrom order (counterpartiesPg db order) order.size1e8

/-- What the constraints of the tables say. -/
structure PerpTables.WellFormed (sqlLower : String → String) (db : PerpTables) : Prop where
  positions : PositionTable.WellFormed sqlLower db.positions
  /-- An order is filed under its own identifier. -/
  filed : ∀ {id o}, db.orders.get? id = some o → o.id = id
  storable : ∀ {id o}, db.orders.get? id = some o → Storable o.subaccountId

/-- The identifiers a submit draws are new and different. -/
structure SubmitDraws.FreshPg (draws : SubmitDraws) (db : PerpTables) : Prop where
  order : db.orders.get? draws.orderId = none
  positions : ∀ k, db.positions.get? (draws.positionId k) = none
  distinct : Function.Injective draws.positionId
  fills : ∀ i, db.fills.get? (draws.fills i).fillId = none
  distinctFills : Function.Injective fun i => (draws.fills i).fillId

/-- All that an accepted submit did. -/
structure SubmittedPg (sqlLower lower : String → String) (cfg : PerpsReadConfig)
    (draws : SubmitDraws) (mark : Except BackendError RawPriceRead) (input : SubmitPerpOrderInput)
    (market : PerpsReadMarket) (db : PerpTables) (out : SubmitPerpOrderOutcome)
    (db' : PerpTables) : Prop where
  /-- Its own checks passed. -/
  checked : preSubmitPg lower cfg draws.checkedAtMs mark input db = .ok market
  /-- The database took its subaccount. -/
  storable : Storable input.subaccountId
  free : db.ClientFree sqlLower (input.rowPg draws)
  /-- It was let in. -/
  admitted : Admitted sqlLower sameAccountPg market (input.rowPg draws)
    (tradesForPg db (input.rowPg draws)) (db.holdings sqlLower) (db'.holdings sqlLower)
  /-- The order was inserted, the trades committed, and the order's row written. -/
  commits : ∃ mid,
    CommitsPg sqlLower market (input.rowPg draws) draws 0 (tradesForPg db (input.rowPg draws))
      (db.inserted (input.rowPg draws)) mid ∧
    db' = mid.withOrders (mid.orders.set draws.orderId out.order)
  /-- What is returned is the order's row and the trades. -/
  outcome : out = ⟨settledRow (input.rowPg draws) draws (tradesForPg db (input.rowPg draws)),
      fillRecords (input.rowPg draws) draws 0 (tradesForPg db (input.rowPg draws))⟩

section

variable {db : PerpTables}

/-- The gates let an order through exactly when they have nothing against it. -/
theorem arrivalGatesPg_eq_ok : arrivalGatesPg order (trades.map plan) = .ok u ↔
      (order.postOnly = true → trades = []) ∧
        (order.timeInForce = .fok → order.size1e8 ≤ total trades) := by
  simp only [arrivalGatesPg, plannedTotal_map_plan, ne_eq, map_eq_nil_iff]
  split_ifs with hpost hfok
  · simp [hpost]
  · simp [hfok]
  · exact iff_of_true rfl ⟨by simpa using hpost, by simpa using hfok⟩

theorem enforceReduceOnlyPg_run (hsub : Storable order.subaccountId) (db : PerpTables) :
    enforceReduceOnlyPg sqlLower order db = (if order.reduceOnly then
        checkReduces order (openAt sqlLower db.positions
          (indexKey sqlLower order.account order.subaccountId order.marketId))
      else .ok (), db) := by
  unfold enforceReduceOnlyPg
  split
  · rw [bind_of_ok (getActivePerpPositionTx_run hsub db)]
    rfl
  · rfl

theorem enforceReduceOnlyPg_eq_ok (hsub : Storable order.subaccountId) :
    enforceReduceOnlyPg sqlLower order db = (.ok u, db') ↔
      db' = db ∧ (order.reduceOnly = true → ReducedBy order (db.holdings sqlLower
        (indexKey sqlLower order.account order.subaccountId order.marketId))) := by
  rw [enforceReduceOnlyPg_run hsub, Prod.mk.injEq, and_comm, eq_comm (a := db)]
  split
  · next hr => rw [checkReduces_eq_ok]; simp [hr, holdings, holdingAt]
  · next hr => simp [hr]

/-- A maker of a trade stands in the table, active, on the other side. -/
theorem tradesForPg_maker (hdb : db.WellFormed sqlLower) (ht : t ∈ tradesForPg db order) :
    db.orders.get? t.maker.id = some t.maker ∧ t.maker.marketId = order.marketId ∧
      t.maker.status.isActive = true ∧ t.maker.side = order.side.opposite := by
  obtain ⟨⟨id, hget⟩, hrest⟩ := mem_counterpartiesPg.1 (tradesFrom_mem ht).1
  obtain rfl := hdb.filed hget
  exact ⟨hget, hrest⟩

theorem maker_ne_orderPg (hdb : db.WellFormed sqlLower) (hd : draws.FreshPg db) {t : Trade}
    (ht : t ∈ tradesForPg db order) : t.maker.id ≠ draws.orderId := by
  intro heq
  have hget := (tradesForPg_maker hdb ht).1
  rw [heq, hd.order] at hget
  cases hget

section

variable (hdb : db.WellFormed sqlLower)
include hdb

/-- The tables are ready for the commit loop once the order is inserted. -/
theorem PerpTables.WellFormed.ready (hd : draws.FreshPg db)
    (hid : order.id = draws.orderId) (hsub : Storable order.subaccountId) :
    ReadyPg sqlLower order draws 0 (tradesForPg db order) (db.inserted order) where
  positions := hdb.positions
  undrawn := ⟨fun j _ => ⟨hd.positions (.inl j), hd.positions (.inr j)⟩, hd.distinct⟩
  freshFills := fun j _ => hd.fills j
  distinctFills := hd.distinctFills
  taker := hsub
  makers := fun t ht => hdb.storable (tradesForPg_maker hdb ht).1
  planned := by
    refine ⟨fun t ht => ?_, nodup_tradesFrom (nodup_counterpartiesPg (fun h => hdb.filed h) _)⟩
    rw [get_inserted, if_neg (by rw [hid]; exact maker_ne_orderPg hdb hd ht)]
    exact (tradesForPg_maker hdb ht).1

theorem planFillsPg_inserted (hnew : db.orders.get? order.id = none) :
    planFillsPure order (counterpartiesPg (db.inserted order) order) =
      (tradesForPg db order).map plan := by
  rw [planFillsPure, planFillsFrom_eq, counterpartiesPg_inserted (fun h => hdb.filed h) hnew]
  rfl

/-- What happens to an admitted order once it is inserted. -/
theorem matchOrderPg_ok (hd : draws.FreshPg db)
    (hid : order.id = draws.orderId) (hsub : Storable order.subaccountId)
    (hadm : Admitted sqlLower sameAccountPg market order (tradesForPg db order)
      (db.holdings sqlLower) h') :
    ∃ mid, matchOrderPg sqlLower market draws order (db.inserted order) =
        (.ok ⟨settledRow order draws (tradesForPg db order),
            fillRecords order draws 0 (tradesForPg db order)⟩,
          mid.withOrders (mid.orders.set draws.orderId
            (settledRow order draws (tradesForPg db order)))) ∧
      CommitsPg sqlLower market order draws 0 (tradesForPg db order) (db.inserted order) mid := by
  set trades := tradesForPg db order with htrades
  have hnew : db.orders.get? order.id = none := by rw [hid]; exact hd.order
  obtain ⟨_, mid, hrun, rfl, hcommits, -⟩ := (commitFillsPg_spec (hdb.ready hd hid hsub)
    hadm.stranger order.size1e8).ok hadm.trades
  have hrow : mid.orders.get? order.id = some order := by
    rw [hcommits.orders_eq, get?_setAll_of_notMem fun t ht => by
      rw [hid]; exact (maker_ne_orderPg hdb hd ht).symm, get_inserted, if_pos rfl]
  have hreduce : enforceReduceOnlyPg sqlLower order (db.inserted order) =
      (.ok (), db.inserted order) := (enforceReduceOnlyPg_eq_ok hsub).2 ⟨rfl, hadm.reduces⟩
  have hsettledId : (settledRow order draws trades).id = order.id :=
    (congrArg PerpOrder.id (terms_settledRow order draws trades) :)
  have hsettle : updatePerpOrderTx (settledRow order draws trades) mid =
      (.ok (settledRow order draws trades),
        mid.withOrders (mid.orders.set order.id (settledRow order draws trades))) := by
    refine updatePerpOrderTx_eq_ok.2 ⟨order, by rw [hsettledId]; exact hrow, ?_, by rw [hsettledId]⟩
    exact (PerpOrder.setColumns_of_terms (terms_settledRow order draws trades).symm).symm
  refine ⟨mid, ?_, hcommits⟩
  rw [matchOrderPg, read_bind, planFillsPg_inserted hdb hnew, ← htrades,
    check_bind ((arrivalGatesPg_eq_ok (u := ())).2 ⟨hadm.postOnly, hadm.fok⟩),
    bind_of_ok hreduce, bind_of_ok hrun]
  simp only
  rw [← settledRow, bind_of_ok hsettle, hid]
  rfl

/-- **A submit whose checks pass, that the database takes and that is admitted is
accepted.** -/
theorem submitPg_ok (hd : draws.FreshPg db)
    (hchecked : preSubmitPg lower cfg draws.checkedAtMs mark input db = .ok market)
    (hsub : Storable input.subaccountId) (hfree : db.ClientFree sqlLower (input.rowPg draws))
    (hadm : Admitted sqlLower sameAccountPg market (input.rowPg draws)
      (tradesForPg db (input.rowPg draws)) (db.holdings sqlLower) h') :
    ∃ out db', submitPerpOrderViaRepositoryInner sqlLower lower cfg draws mark input db =
        (.ok out, db') ∧
      SubmittedPg sqlLower lower cfg draws mark input market db out db' ∧
      db'.holdings sqlLower = h' := by
  have hinsert := (insertPerpOrderTx_eq_ok (u := ())).2
    ⟨(show Storable (input.rowPg draws).subaccountId from hsub), hd.order, hfree, rfl⟩
  obtain ⟨mid, hrun, hcommits⟩ := matchOrderPg_ok hdb hd rfl hsub hadm
  have hh' : mid.holdings sqlLower = h' := Except.ok.inj (hcommits.tradeAll.symm.trans hadm.trades)
  refine ⟨_, _, atomically_eq_ok.2 ?_,
    ⟨hchecked, hsub, hfree, hh' ▸ hadm, ⟨mid, hcommits, rfl⟩, rfl⟩, hh'⟩
  rw [submitPerpOrderTx, read_bind, check_bind hchecked]
  rw [← SubmitPerpOrderInput.rowPg, bind_of_ok hinsert, hrun]

/-- An inserted order that gets through was admitted. -/
theorem matchOrderPg_inv (hd : draws.FreshPg db)
    (hid : order.id = draws.orderId) (hsub : Storable order.subaccountId)
    (h : matchOrderPg sqlLower market draws order (db.inserted order) = (.ok out, db')) :
    ∃ h', Admitted sqlLower sameAccountPg market order (tradesForPg db order)
      (db.holdings sqlLower) h' := by
  have hnew : db.orders.get? order.id = none := by rw [hid]; exact hd.order
  have h₁ := read_bind_eq_ok.1 h
  simp only [planFillsPg_inserted hdb hnew] at h₁
  obtain ⟨_, hgates, h₂⟩ := check_bind_eq_ok.1 h₁
  obtain ⟨hpost, hfok⟩ := arrivalGatesPg_eq_ok.1 hgates
  obtain ⟨_, _, hreduce, h₃⟩ := bind_eq_ok.1 h₂
  obtain ⟨rfl, hreduces⟩ := (enforceReduceOnlyPg_eq_ok hsub).1 hreduce
  obtain ⟨_, _, hrun, -⟩ := bind_eq_ok.1 h₃
  have hready := hdb.ready hd hid hsub
  have hstranger := commitFillsPg_stranger hready hrun
  obtain ⟨h', hall, -⟩ := (commitFillsPg_spec hready hstranger order.size1e8).inv hrun
  exact ⟨h', hstranger, hpost, hfok, hreduces, hall⟩

/-- **A submit that is accepted passed its checks and was admitted.** -/
theorem submitPg_inv (hd : draws.FreshPg db)
    (h : submitPerpOrderViaRepositoryInner sqlLower lower cfg draws mark input db =
      (.ok out, db')) :
    ∃ market, SubmittedPg sqlLower lower cfg draws mark input market db out db' := by
  have h₁ := read_bind_eq_ok.1 (atomically_eq_ok.1 h)
  obtain ⟨market, hchecked, h₂⟩ := check_bind_eq_ok.1 h₁
  obtain ⟨_, _, hinsert, h₃⟩ := bind_eq_ok.1 h₂
  obtain ⟨hsub, -, hfree, rfl⟩ := insertPerpOrderTx_eq_ok.1 hinsert
  obtain ⟨h', hadm⟩ := matchOrderPg_inv hdb hd rfl hsub h₃
  obtain ⟨out₂, db₂, hrun₂, hsubmitted, -⟩ := submitPg_ok hdb hd hchecked hsub hfree hadm
  obtain ⟨hout, rfl⟩ := Prod.mk.inj (h.symm.trans hrun₂)
  exact ⟨market, Except.ok.inj hout ▸ hsubmitted⟩

end

namespace SubmittedPg

section

variable (h : SubmittedPg sqlLower lower cfg draws mark input market db out db')
include h

/-- The order's row is the one returned. -/
theorem get_order : db'.orders.get? draws.orderId = some out.order := by
  obtain ⟨mid, -, rfl⟩ := h.commits
  exact get?_set_self ..

/-- The makers' rows are filled. -/
theorem get_maker (hdb : db.WellFormed sqlLower) (hd : draws.FreshPg db)
    (ht : t ∈ tradesForPg db (input.rowPg draws)) :
    db'.orders.get? t.maker.id = some (t.makerRow draws.now) := by
  obtain ⟨mid, hcommits, rfl⟩ := h.commits
  show (mid.orders.set draws.orderId _).get? _ = _
  rw [get?_set_ne _ (maker_ne_orderPg hdb hd ht), hcommits.orders_eq]
  exact get?_setAll_of_mem (hdb.ready hd rfl h.storable).planned.nodup ht _

/-- The other rows stay. -/
theorem get_other {id : Uuid} (hne : id ≠ draws.orderId)
    (hid : ∀ t ∈ tradesForPg db (input.rowPg draws), id ≠ t.maker.id) :
    db'.orders.get? id = db.orders.get? id := by
  obtain ⟨mid, hcommits, rfl⟩ := h.commits
  show (mid.orders.set draws.orderId _).get? id = _
  rw [get?_set_ne _ hne, hcommits.orders_eq, get?_setAll_of_notMem hid, get_inserted]
  exact if_neg hne

end

end SubmittedPg

end

end DeoptBackend
