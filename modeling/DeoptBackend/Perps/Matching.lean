import DeoptBackend.Perps.Trading

/-!
# The commit loop of the in-memory engine

The loop of `submitPerpOrderInternalWithOracle` against `tradeAll`.

* `Filled` — a fill that was applied to the positions, `PositionTable.Traded` — the
  two fills of a trade, `Committed` — one round of the commit loop, `Commits` — the
  loop.  Each says what was written, and everything later is read off these relations.
* `commitFills_spec` — the loop succeeds exactly when `tradeAll` does.
* `tradesFor` — the trades the loop is given, with makers that are all different
  and active (`mem_counterpartiesFor`, `nodup_counterpartiesFor`).

The identifiers a submit draws are assumed fresh (`SubmitDraws.Fresh`), which is
what `Uuid::new_v4` is for.
-/

namespace DeoptBackend

open Act List PerpPositionsStore FMap

open PerpPositionsStore (fillKey)
open PerpStores (onOrders onPositions)

/-! ## Fills -/

namespace PositionTable

/-- A fill that was applied to the rows. -/
def Filled (lower : String → String) (market : PerpsReadMarket) (fill : PerpFillInput)
    (positionId : Uuid) (m m' : PositionTable) : Prop :=
  ∃ new, Holding.applyChecked market fill (m.holdingAt lower (fillKey lower fill)) = .ok new ∧
    Applied lower fill positionId m new m'

section

variable (h : Filled lower market fill positionId m m')
include h

theorem Filled.wellFormed : WellFormed lower m' := by
  obtain ⟨new, -, happ⟩ := h
  obtain ⟨row, -, hw⟩ := happ.writes
  exact hw.wellFormed

theorem Filled.unused {id : Uuid} (hne : id ≠ positionId) (hid : m.get? id = none) :
    m'.get? id = none := by
  obtain ⟨new, -, happ⟩ := h
  exact happ.unused id hne hid

theorem Filled.fillHoldings :
    fillHoldings lower market fill (m.holdingAt lower) = .ok (m'.holdingAt lower) := by
  obtain ⟨new, hok, happ⟩ := h
  exact fillHoldings_eq_ok.2 ⟨new, hok, happ.holdingAt_eq⟩

end

/-- Both sides of a trade have taken their fill. -/
def Traded (lower : String → String) (market : PerpsReadMarket) (order : PerpOrder)
    (draws : FillDraws) (t : Trade) (m m' : PositionTable) : Prop :=
  ∃ mid, Filled lower market (takerFillInput order t.plan) draws.taker.positionId m mid ∧
    Filled lower market (makerFillInput order t.maker t.plan) draws.maker.positionId mid m'

section

variable {t : Trade} (h : Traded lower market order draws t m m')
include h

theorem Traded.wellFormed : WellFormed lower m' := by
  obtain ⟨mid, -, hmaker⟩ := h
  exact hmaker.wellFormed

theorem Traded.unused {id : Uuid} (htaker : id ≠ draws.taker.positionId)
    (hmaker : id ≠ draws.maker.positionId) (hid : m.get? id = none) : m'.get? id = none := by
  obtain ⟨mid, ht, hm⟩ := h
  exact hm.unused hmaker (ht.unused htaker hid)

theorem Traded.trade :
    DeoptBackend.trade lower market order t (m.holdingAt lower) = .ok (m'.holdingAt lower) := by
  obtain ⟨mid, ht, hm⟩ := h
  exact trade_eq_ok.2 ⟨mid.holdingAt lower, ht.fillHoldings, hm.fillHoldings⟩

end

end PositionTable

namespace PerpPositionsStore

/-- A fill that was applied to the positions, with an index that still agrees. -/
structure Filled (lower : String → String) (market : PerpsReadMarket) (fill : PerpFillInput)
    (draw : FillDraw) (s s' : PerpPositionsStore) : Prop where
  rows : PositionTable.Filled lower market fill draw.positionId s.byId s'.byId
  agrees : ∀ key, s'.activeByAccountSubaccountMarket.get? key = (s'.openAt lower key).map (·.id)

theorem Filled.wellFormed (h : Filled lower market fill draw s s') : WellFormed lower s' :=
  ⟨h.rows.wellFormed, h.agrees⟩

/-- What was taken and what was written. -/
theorem Filled.spec (h : Filled lower market fill draw s s') : ∃ new row,
    Holding.applyChecked market fill (s.holdingAt lower (fillKey lower fill)) = .ok new ∧
      s'.holdingAt lower = Function.update (s.holdingAt lower) (fillKey lower fill) new ∧
      Writes lower s (fillKey lower fill) row s' := by
  obtain ⟨⟨new, hok, happ⟩, hagrees⟩ := h
  obtain ⟨row, -, hw⟩ := happ.writes
  exact ⟨new, row, hok, happ.holdingAt_eq, hw, hagrees⟩

/-- **A fill is applied when the holdings take it**, and refused with nothing
written otherwise. -/
theorem apply_spec (hs : WellFormed lower s) (hid : s.byId.get? draw.positionId = none) :
    Follows (· = s) (DeoptBackend.fillHoldings lower market fill (s.holdingAt lower))
      (fun h' _ s' => Filled lower market fill draw s s' ∧ s'.holdingAt lower = h')
      (applyPerpFillForAccount lower market fill draw s) := by
  refine (applyPerpFillForAccount_spec hs hid).imp (fun e he => ?_) fun new _ s' hok hw => ?_
  · rw [DeoptBackend.fillHoldings, he]
  · have happ := PositionTable.Applied.of_taken hs.rows hok hw.rows
    exact ⟨_, fillHoldings_eq_ok.2 ⟨new, hok, rfl⟩, ⟨⟨new, hok, happ⟩, hw.agrees⟩,
      happ.holdingAt_eq⟩

/-! ### Totals -/

section

variable (s : PerpPositionsStore) (g : Holding → Int) (marketId : String)

/-- A total over the open positions of a market. -/
def marketTotal : Int :=
  s.byId.sumBy fun p => if p.status = .open ∧ p.marketId = marketId then g p.holding else 0

theorem elim_openAt (key : IndexKey) : (s.openAt lower key).elim 0
        (fun p => if p.status = .open ∧ p.marketId = marketId then g p.holding else 0) =
      if key.2.2 = marketId then (s.holdingAt lower key).elim 0 g else 0 := by
  rw [holdingAt]
  cases hp : s.openAt lower key with
  | none => simp
  | some =>
    obtain ⟨hopen, rfl⟩ := PositionTable.openAt_spec hp
    simp only [Option.elim_some, hopen, true_and]
    rfl

end

/-- **A write moves the total of a market by what it changes under its key.** -/
theorem Writes.marketTotal_eq (hw : Writes lower s key row s') (g : Holding → Int)
    (marketId : String) :
    s'.marketTotal g marketId +
        (if key.2.2 = marketId then (s.holdingAt lower key).elim 0 g else 0) =
      s.marketTotal g marketId +
        if key.2.2 = marketId then (s'.holdingAt lower key).elim 0 g else 0 := by
  have hrow : s'.openAt lower key = row := by rw [hw.openAt_eq, if_pos rfl]
  rw [← elim_openAt, ← elim_openAt, hrow]
  exact hw.rows.total _ fun p hp => if_neg fun h => hp h.1

end PerpPositionsStore

/-! ## Rows -/

namespace PerpOrderStore

variable {id : Uuid}

def inserted (lower : String → String) (order : PerpOrder) (store : PerpOrderStore) :
    PerpOrderStore :=
  { store with
    orders := store.orders.set order.id order
    byClientOrderId :=
      match order.clientOrderId with
      | none => store.byClientOrderId
      | some c =>
        store.byClientOrderId.set (indexKey lower order.account order.subaccountId c) order.id }

/-- The order's client order id has not been used. -/
def ClientFree (lower : String → String) (order : PerpOrder) (store : PerpOrderStore) : Prop :=
  ∀ c, order.clientOrderId = some c →
    store.byClientOrderId.get? (indexKey lower order.account order.subaccountId c) = none

theorem insertOrder_of_free (h : ClientFree lower order store) :
    insertOrder lower order store = (.ok order, store.inserted lower order) := by
  unfold insertOrder inserted
  cases hc : order.clientOrderId with
  | none => rfl
  | some c => simp [h c hc]

theorem insertOrder_of_used (h : ¬ ClientFree lower order store) :
    ∃ e, insertOrder lower order store = (.error e, store) := by
  simp only [ClientFree, not_forall] at h
  obtain ⟨c, hc, hused⟩ := h
  refine ⟨.err (.perpDuplicateClientOrderId c), ?_⟩
  simp only [insertOrder, hc]
  rw [if_pos (Option.isSome_iff_ne_none.2 hused)]

theorem insertOrder_eq_ok :
    insertOrder lower order store = (.ok out, store') ↔
      ClientFree lower order store ∧ out = order ∧ store' = store.inserted lower order := by
  by_cases h : ClientFree lower order store
  · rw [insertOrder_of_free h]
    simp [h, eq_comm]
  · obtain ⟨e, he⟩ := insertOrder_of_used h
    rw [he]
    simp [h]

@[simp] theorem get_inserted (lower : String → String) (order : PerpOrder)
    (store : PerpOrderStore) (id : Uuid) :
    (store.inserted lower order).get id = if id = order.id then some order else store.get id :=
  get?_set ..

theorem update_of_some (h : store.get id = some o) (now : TimestampMs)
    (mutator : PerpOrder → PerpOrder) : update id now mutator store =
      (.ok { mutator o with updatedAtMs := now },
        store.withOrders (store.orders.set id { mutator o with updatedAtMs := now })) := by
  rw [get] at h
  simp [update, h]

theorem update_eq_ok : update id now mutator store = (.ok out, store') ↔
      ∃ o, store.get id = some o ∧ out = { mutator o with updatedAtMs := now } ∧
        store' = store.withOrders (store.orders.set id out) := by
  cases h : store.get id with
  | none =>
    rw [get] at h
    simp [update, h]
  | some o =>
    rw [update_of_some h]
    constructor
    · rintro ⟨⟩
      exact ⟨o, rfl, rfl, rfl⟩
    · rintro ⟨_, ⟨⟩, rfl, rfl⟩
      rfl

end PerpOrderStore

/-! ## The commit loop -/

namespace PerpStores

def holdings (lower : String → String) (s : PerpStores) : Holdings := s.positions.holdingAt lower

/-- The positions are well-formed, and orders are filed under their identifiers. -/
structure WellFormed (lower : String → String) (s : PerpStores) : Prop where
  positions : s.positions.WellFormed lower
  /-- An order is filed under its own identifier. -/
  filed : ∀ {id o}, s.orders.get id = some o → o.id = id

theorem wellFormed_empty : WellFormed lower empty where
  positions := PerpPositionsStore.wellFormed_empty
  filed := by intro id o h; simp [empty, PerpOrderStore.empty, PerpOrderStore.get] at h

end PerpStores

/-- The identifiers a submit draws for positions: for takers and for makers. -/
def SubmitDraws.positionId (draws : SubmitDraws) : Nat ⊕ Nat → Uuid :=
  Sum.elim (fun i => (draws.fills i).taker.positionId) (fun i => (draws.fills i).maker.positionId)

/-- The identifiers a submit draws are new, and no two of those for positions are
the same. -/
structure SubmitDraws.Fresh (draws : SubmitDraws) (s : PerpStores) : Prop where
  order : s.orders.get draws.orderId = none
  positions : ∀ k, s.positions.byId.get? (draws.positionId k) = none
  distinct : Function.Injective draws.positionId

/-- One round of the commit loop. -/
structure Committed (lower : String → String) (market : PerpsReadMarket) (order : PerpOrder)
    (now : TimestampMs) (draws : FillDraws) (t : Trade) (s s' : PerpStores) : Prop where
  /-- The maker's row is written and the fill recorded. -/
  orders : s'.orders =
    (s.orders.withOrders (s.orders.orders.set t.maker.id (t.makerRow now))).insertFill
      (fillRecord order t.maker t.plan draws.fillId now)
  /-- Both sides have taken the fill. -/
  positions : ∃ mid,
    PerpPositionsStore.Filled lower market (takerFillInput order t.plan) draws.taker s.positions
      mid ∧
    PerpPositionsStore.Filled lower market (makerFillInput order t.maker t.plan) draws.maker mid
      s'.positions

section

variable {t : Trade}

/-- What a round did to the rows. -/
theorem Committed.traded (h : Committed lower market order now draws t s s') :
    PositionTable.Traded lower market order draws t s.positions.byId s'.positions.byId := by
  obtain ⟨mid, ht, hm⟩ := h.positions
  exact ⟨mid.byId, ht.rows, hm.rows⟩

theorem Committed.wellFormed (h : Committed lower market order now draws t s s') :
    s'.positions.WellFormed lower := by
  obtain ⟨mid, -, hm⟩ := h.positions
  exact hm.wellFormed

theorem fillMakerRow_run (hrow : s.orders.get t.maker.id = some t.maker) :
    fillMakerRow now t.plan s = (.ok (t.makerRow now),
        s.withOrders (s.orders.withOrders (s.orders.orders.set t.maker.id (t.makerRow now)))) := by
  have hupd := PerpOrderStore.update_of_some hrow now (PerpOrder.makerFilled t.size1e8)
  have hget : (s.orders.withOrders (s.orders.orders.set t.maker.id (t.makerRow now))).get
      t.maker.id = some (t.makerRow now) := get?_set_self ..
  simp only [fillMakerRow, bind_run, onOrders, Act.zoom, read_run, check_run, Trade.plan, hupd]
  simp only [requireOrder, PerpStores.withOrders]
  rw [← Trade.makerRow, hget]

theorem onPositions_run (h : x s.positions = (r, positions)) :
    onPositions x s = (r, s.withPositions positions) := by
  simp [onPositions, Act.zoom, h]

theorem applyMaker_run
    (h : applyPerpFillForAccount lower market (makerFillInput order t.maker t.plan) draws.maker
      s.positions = (r, positions)) :
    applyMaker lower market order (t.makerRow now) draws t.plan s =
      (r, s.withPositions positions) := by
  rw [applyMaker, makerFillInput_makerRow]
  exact onPositions_run h

/-- **A trade is committed when both sides take it**, and stops the loop otherwise. -/
theorem commitFill_spec (hs : s.positions.WellFormed lower)
    (hrow : s.orders.get t.maker.id = some t.maker)
    (htaker : s.positions.byId.get? draws.taker.positionId = none)
    (hmaker : s.positions.byId.get? draws.maker.positionId = none)
    (hne : draws.maker.positionId ≠ draws.taker.positionId) :
    Follows (fun _ => True) (trade lower market order t (s.holdings lower))
      (fun h' f s' => f = fillRecord order t.maker t.plan draws.fillId now ∧
        Committed lower market order now draws t s s' ∧ s'.holdings lower = h')
      (commitFill lower market order now draws t.plan s) := by
  rw [commitFill, bind_of_ok (fillMakerRow_run hrow)]
  refine .bind (.zoom (apply_spec hs htaker)) (fun e he => trade_eq_error.2 (.inl he)) ?_
  rintro _ _ _ ht ⟨mid, ⟨hfilled, rfl⟩, rfl⟩
  rw [applyMaker, makerFillInput_makerRow, fillRecord_makerRow]
  refine .bind (.zoom (apply_spec hfilled.wellFormed (hfilled.rows.unused hne hmaker)))
    (fun e he => trade_eq_error.2 (.inr ⟨_, ht, he⟩)) ?_
  rintro _ _ _ hm ⟨last, ⟨hfilled', rfl⟩, rfl⟩
  exact ⟨_, trade_eq_ok.2 ⟨_, ht, hm⟩, rfl, ⟨rfl, mid, hfilled, hfilled'⟩, rfl⟩

end

/-- The records of a list of trades, from the `i`-th on. -/
def fillRecords (order : PerpOrder) (draws : SubmitDraws) : Nat → List Trade → List PerpFill
  | _, [] => []
  | i, t :: ts =>
    fillRecord order t.maker t.plan (draws.fills i).fillId draws.now ::
      fillRecords order draws (i + 1) ts

/-- The commit loop, from the `i`-th trade on. -/
inductive Commits (lower : String → String) (market : PerpsReadMarket) (order : PerpOrder)
    (draws : SubmitDraws) : Nat → List Trade → PerpStores → PerpStores → Prop
  | done {i : Nat} {s : PerpStores} : Commits lower market order draws i [] s s
  | next {i : Nat} {t : Trade} {ts : List Trade} {s m s' : PerpStores} :
      Committed lower market order draws.now (draws.fills i) t s m →
      Commits lower market order draws (i + 1) ts m s' →
      Commits lower market order draws i (t :: ts) s s'

/-- What is drawn from the `i`-th trade on is new. -/
structure SubmitDraws.Unused (draws : SubmitDraws) (i : Nat) (m : PositionTable) : Prop where
  fresh : ∀ j, i ≤ j → m.get? (draws.fills j).taker.positionId = none ∧
      m.get? (draws.fills j).maker.positionId = none
  distinct : Function.Injective draws.positionId

theorem SubmitDraws.Unused.next {draws : SubmitDraws} (h : draws.Unused i m)
    (ht : PositionTable.Traded lower market order (draws.fills i) t m m') :
    draws.Unused (i + 1) m' where
  fresh := by
    intro j hj
    obtain ⟨htaker, hmaker⟩ := h.fresh j (by omega)
    have hne {a b : Nat ⊕ Nat} (hab : a ≠ b) : draws.positionId a ≠ draws.positionId b :=
      h.distinct.ne hab
    have hji : (Sum.inl j : Nat ⊕ Nat) ≠ .inl i ∧ (Sum.inr j : Nat ⊕ Nat) ≠ .inr i := by simp; omega
    exact ⟨ht.unused (hne hji.1) (hne Sum.inl_ne_inr) htaker,
      ht.unused (hne Sum.inr_ne_inl) (hne hji.2) hmaker⟩
  distinct := h.distinct

/-- What one round of the loop draws is new. -/
theorem SubmitDraws.Unused.drawn {draws : SubmitDraws} {m : PositionTable} (h : draws.Unused i m) :
    m.get? (draws.fills i).taker.positionId = none ∧
      m.get? (draws.fills i).maker.positionId = none ∧
      (draws.fills i).maker.positionId ≠ (draws.fills i).taker.positionId := by
  obtain ⟨htaker, hmaker⟩ := h.fresh i le_rfl
  exact ⟨htaker, hmaker, h.distinct.ne (Sum.inr_ne_inl : (Sum.inr i : Nat ⊕ Nat) ≠ .inl i)⟩

/-- The makers of some trades stand as they were planned with, and none is met twice. -/
structure AsPlanned (trades : List Trade) (orders : FMap Uuid PerpOrder) : Prop where
  rows : ∀ t ∈ trades, orders.get? t.maker.id = some t.maker
  nodup : (trades.map (·.maker.id)).Nodup

theorem AsPlanned.next (h : AsPlanned (t :: ts) orders) (row : PerpOrder) :
    AsPlanned ts (orders.set t.maker.id row) where
  rows := by
    intro u hu
    rw [get?_set_ne _ (ne_of_nodup_map_cons h.nodup hu)]
    exact h.rows u (mem_cons_of_mem _ hu)
  nodup := h.nodup.of_cons

/-- The stores are ready for the commit loop, from the `i`-th trade on. -/
structure Ready (lower : String → String) (draws : SubmitDraws) (i : Nat) (trades : List Trade)
    (s : PerpStores) : Prop where
  positions : s.positions.WellFormed lower
  undrawn : draws.Unused i s.positions.byId
  planned : AsPlanned trades s.orders.orders

/-- After a round the stores are ready for the next one. -/
theorem Ready.step (h : Ready lower draws i (t :: ts) s)
    (hc : Committed lower market order draws.now (draws.fills i) t s s') :
    Ready lower draws (i + 1) ts s' where
  positions := hc.wellFormed
  undrawn := h.undrawn.next hc.traded
  planned := by
    rw [hc.orders]
    exact h.planned.next _

section

variable (h : Ready lower draws i trades s)
include h

/-- **The loop succeeds when every trade is taken**, and fails with the first
refusal otherwise. -/
theorem commitFills_spec (remaining : Nat) :
    Follows (fun _ => True) (tradeAll lower market order trades (s.holdings lower))
      (fun h' out s' => out = (fillRecords order draws i trades, remaining - Trade.total trades) ∧
        Commits lower market order draws i trades s s' ∧ s'.holdings lower = h')
      (commitFills lower market order draws i remaining (trades.map Trade.plan) s) := by
  induction trades generalizing i s remaining with
  | nil => exact ⟨_, rfl, rfl, .done, rfl⟩
  | cons t ts ih =>
    obtain ⟨htaker, hmaker, hne⟩ := h.undrawn.drawn
    refine .bind (commitFill_spec h.positions (h.planned.rows t mem_cons_self) htaker hmaker hne)
      (fun e he => by rw [tradeAll, he]) ?_
    rintro _ _ m ht ⟨rfl, hc, rfl⟩
    rw [tradeAll, ht]
    refine .bind (ih (h.step hc) (remaining - t.plan.size1e8)) (fun _ he => he) ?_
    rintro last _ s' hts ⟨rfl, hcs, rfl⟩
    exact ⟨_, hts, by rw [Trade.total_cons, ← Nat.sub_sub]; rfl, .next hc hcs, rfl⟩
end

namespace Commits

section

variable (h : Commits lower market order draws i trades s s')
include h

theorem wellFormed (hs : s.positions.WellFormed lower) : s'.positions.WellFormed lower := by
  induction h with
  | done => exact hs
  | next hc _ ih => exact ih hc.wellFormed

theorem tradeAll : DeoptBackend.tradeAll lower market order trades (s.holdings lower) =
      .ok (s'.holdings lower) := by
  induction h with
  | done => rfl
  | next hc _ ih => exact tradeAll_cons_eq_ok.2 ⟨_, hc.traded.trade, ih⟩

/-- The rows of the makers are written, one after the other. -/
theorem orders_eq :
    s'.orders.orders = setAll (·.maker.id) (·.makerRow draws.now) trades s.orders.orders := by
  induction h with
  | done => rfl
  | next hc _ ih =>
    rw [ih, hc.orders]
    rfl

/-- A row that is no maker's stays. -/
theorem get_of_not_maker {id : Uuid}
    (hid : ∀ t ∈ trades, id ≠ t.maker.id) : s'.orders.get id = s.orders.get id := by
  rw [PerpOrderStore.get, h.orders_eq, get?_setAll_of_notMem hid]
  rfl

/-- A maker's row is written once. -/
theorem get_of_maker (hnodup : (trades.map (·.maker.id)).Nodup) (ht : t ∈ trades) :
    s'.orders.get t.maker.id = some (t.makerRow draws.now) := by
  rw [PerpOrderStore.get, h.orders_eq]
  exact get?_setAll_of_mem hnodup ht _

end

end Commits

/-! ## The makers -/

/-- The trades an arriving order makes with the resting ones. -/
def tradesFor (store : PerpOrderStore) (order : PerpOrder) : List Trade :=
  tradesFrom order (counterpartiesFor store order.marketId order.side) order.size1e8

/-- No maker is met twice. -/
theorem nodup_tradesFrom (h : (makers.map (·.id)).Nodup) :
    ((tradesFrom order makers remaining).map (·.maker.id)).Nodup := by
  have hsub := (tradesFrom_makers_sublist order makers remaining).map PerpOrder.id
  rw [map_map] at hsub
  exact h.sublist hsub

/-- The makers are the active orders of the other side of the market. -/
theorem mem_counterpartiesFor : m ∈ counterpartiesFor store marketId side ↔
      (∃ id, store.get id = some m) ∧ m.marketId = marketId ∧ m.status.isActive = true ∧
        m.side = side.opposite := by
  cases side <;>
    simp only [counterpartiesFor, activeAsksSorted, activeBidsSorted,
      PerpOrderStore.listActiveOrdersForMarket, mem_insertionSort, mem_filter,
      mem_vals, PerpOrderStore.get, PerpOrderSide.opposite, decide_eq_true_eq, and_assoc]

theorem nodup_counterpartiesFor (hfiled : ∀ {id o}, store.get id = some o → o.id = id)
    (marketId : String) (side : PerpOrderSide) :
    ((counterpartiesFor store marketId side).map (·.id)).Nodup := by
  have hall : (store.orders.vals.map (·.id)).Nodup := nodup_vals_map fun h => hfiled h
  cases side
  · exact (((perm_insertionSort _ _).map _).nodup_iff).2
      (hall.sublist ((filter_sublist.trans filter_sublist).map _))
  · exact (((perm_insertionSort _ _).map _).nodup_iff).2
      (hall.sublist ((filter_sublist.trans filter_sublist).map _))

/-- An order is no maker of its own. -/
theorem counterpartiesFor_inserted (hnew : store.get order.id = none) :
    counterpartiesFor (store.inserted lower order) order.marketId order.side =
      counterpartiesFor store order.marketId order.side := by
  have hvals : (store.inserted lower order).orders.vals = order :: store.orders.vals :=
    vals_set_new hnew order
  have hlist : ∀ side, side ≠ order.side →
      ((store.inserted lower order).listActiveOrdersForMarket order.marketId).filter
          (fun o => o.side = side) =
        (store.listActiveOrdersForMarket order.marketId).filter (fun o => o.side = side) := by
    intro side hside
    rw [PerpOrderStore.listActiveOrdersForMarket, hvals, filter_filter]
    rw [filter_cons_of_neg (by simp [Ne.symm hside]), ← filter_filter]
    rfl
  cases hs : order.side
  · simp only [counterpartiesFor, activeAsksSorted]
    rw [hlist .sell (by rw [hs]; decide)]
  · simp only [counterpartiesFor, activeBidsSorted]
    rw [hlist .buy (by rw [hs]; decide)]

end DeoptBackend
