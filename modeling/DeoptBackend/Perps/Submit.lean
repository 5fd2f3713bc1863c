import DeoptBackend.Perps.Matching

/-!
# The submit of the in-memory engine

`submitPerpOrderInternalWithOracle` against `Admitted`.

* `arrivalGates_eq_ok`, `enforceReduceOnly_eq_ok` — the gates in the terms of
  `Admitted`.
* `Submitted` — all that an accepted submit did.
* `submit_ok`, `submit_inv` — a submit is accepted exactly when its own checks
  pass and it is `Admitted`, and then it did what `Submitted` says.
* `submitPerpOrderViaState_inv`, `submitPerpOrderViaState_error` — the same through the
  dispatcher, where a submit that is refused leaves the stores as they were.
-/

namespace DeoptBackend

open Act PerpOrderStore Trade FMap List

open PerpStores (onOrders onPositions)

/-- The in-memory engine compares account strings as they are. -/
def sameAccount (a b : AccountId) : Bool := a = b

def SubmitPerpOrderInput.row (input : SubmitPerpOrderInput) (draws : SubmitDraws) : PerpOrder :=
  takerOrder draws input (effectiveLimitPrice1e8 input)

/-! ## The checks -/

theorem returned_eq_ok : returned x = .ok a ↔ x = .ok a := by
  cases x <;> simp [returned, Except.mapError]

theorem requireMarket_eq_ok {cfg : PerpsReadConfig} :
    cfg.requireMarket marketId = .ok market ↔ cfg.marketBySymbol marketId = some market := by
  unfold PerpsReadConfig.requireMarket
  split <;> simp_all

theorem validateInputBasics_ok (h : validateInputBasics input = .ok ()) :
    input.size1e8 ≠ 0 ∧ effectiveLimitPrice1e8 input ≠ 0 := by
  unfold validateInputBasics at h
  split at h
  · cases h
  next hsize =>
  refine ⟨hsize, ?_⟩
  unfold effectiveLimitPrice1e8
  split
  · next hp => exact hp
  next hp =>
  -- a market order without a bound is refused before its limit is ever used
  intro hzero
  cases hside : input.side <;> simp only at h hzero <;> split_ifs at h <;>
    simp_all

/-- A submit passes its own checks when each of them is passed. -/
theorem preSubmit_eq_ok {lower : String → String} {oracleRead : Except BackendError RawPriceRead}
    {positions : PerpPositionsStore} {input : SubmitPerpOrderInput} {market : PerpsReadMarket} :
    preSubmit lower cfg checkedAtMs oracleRead positions input = .ok market ↔
      validateInputBasics input = .ok () ∧ validateTifCombinations input = .ok () ∧
        cfg.marketBySymbol input.marketId = some market ∧
        openingRiskGate lower cfg market checkedAtMs oracleRead positions input = .ok () := by
  simp only [preSubmit, Except.bind_eq_ok, returned_eq_ok, requireMarket_eq_ok]
  constructor
  · rintro ⟨⟨⟩, hbasics, ⟨⟩, htif, m, hm, ⟨⟩, hgate, hpure⟩
    cases hpure
    exact ⟨hbasics, htif, hm, hgate⟩
  · rintro ⟨hbasics, htif, hm, hgate⟩
    exact ⟨(), hbasics, (), htif, market, hm, (), hgate, rfl⟩

/-! ## The gates -/

theorem rejectOrder_ne_ok : rejectOrder order code text error now store ≠ (.ok u, store') := by
  intro h
  obtain ⟨_, _, -, hfail⟩ := bind_eq_ok.1 h
  simp at hfail

/-- The gates let an order through exactly when they have nothing against it, and
then they write nothing. -/
theorem arrivalGates_eq_ok :
    arrivalGates order (trades.map plan) now store = (.ok u, store') ↔
      store' = store ∧ (∀ t ∈ trades, sameAccount t.maker.account order.account = false) ∧
        (order.postOnly = true → trades = []) ∧
        (order.timeInForce = .fok → order.size1e8 ≤ total trades) := by
  have hself : (trades.map plan).any (fun f => f.makerAccount = order.account) = true ↔
      ∃ t ∈ trades, sameAccount t.maker.account order.account = true := by
    simp only [any_map, any_eq_true]
    rfl
  simp only [arrivalGates, plannedTotal_map_plan, ne_eq, map_eq_nil_iff, hself]
  split_ifs with hown hpost hfok
  · obtain ⟨t, ht, hsame⟩ := hown
    refine iff_of_false rejectOrder_ne_ok fun h => ?_
    cases (h.2.1 t ht).symm.trans hsame
  · exact iff_of_false rejectOrder_ne_ok (by simp [hpost])
  · exact iff_of_false rejectOrder_ne_ok (by simp [hfok])
  · have hrest : (∀ t ∈ trades, sameAccount t.maker.account order.account = false) ∧
        (order.postOnly = true → trades = []) ∧
        (order.timeInForce = .fok → order.size1e8 ≤ total trades) :=
      ⟨by simpa using hown, by simpa using hpost, by simpa using hfok⟩
    rw [pure_run, Prod.mk.injEq]
    exact ⟨fun h => ⟨h.2.symm, hrest⟩, fun h => ⟨rfl, h.1.symm⟩⟩

theorem enforceReduceOnly_eq_ok (hs : positions.WellFormed lower) :
    enforceReduceOnly lower positions order = .ok u ↔
      (order.reduceOnly = true → Holding.ReducedBy order (positions.holdingAt lower
        (indexKey lower order.account order.subaccountId order.marketId))) := by
  unfold enforceReduceOnly
  split
  · next hr => rw [hs.getActive_eq, checkReduces_eq_ok]; simp [hr, PerpPositionsStore.holdingAt]
  · next hr => simp [hr]

/-! ## The submit -/

section

variable (tif : PerpTimeInForce) (remaining : Nat) (fills : List PerpFill) (o : PerpOrder)

@[simp] theorem terms_takerSettled : (o.takerSettled tif remaining fills).terms = o.terms := by
  unfold PerpOrder.takerSettled
  simp only
  split <;> rfl

@[simp] theorem remaining_takerSettled :
    (o.takerSettled tif remaining fills).remainingSize1e8 = remaining := by
  unfold PerpOrder.takerSettled
  simp only
  split <;> rfl

end

section

variable (order : PerpOrder) (draws : SubmitDraws) (trades : List Trade)

def settledRow : PerpOrder :=
  { order.takerSettled order.timeInForce (order.size1e8 - total trades)
      (fillRecords order draws 0 trades) with updatedAtMs := draws.now }

@[simp] theorem terms_settledRow : (settledRow order draws trades).terms = order.terms :=
  terms_takerSettled ..

end

/-- All that an accepted submit did. -/
structure Submitted (lower : String → String) (cfg : PerpsReadConfig) (draws : SubmitDraws)
    (oracleRead : Except BackendError RawPriceRead) (input : SubmitPerpOrderInput)
    (market : PerpsReadMarket) (s : PerpStores) (out : SubmitPerpOrderOutcome) (s' : PerpStores) :
    Prop where
  /-- Its own checks passed. -/
  checked : preSubmit lower cfg draws.checkedAtMs oracleRead s.positions input = .ok market
  free : s.orders.ClientFree lower (input.row draws)
  /-- It was let in. -/
  admitted : Admitted lower sameAccount market (input.row draws) (tradesFor s.orders (input.row draws))
    (s.holdings lower) (s'.holdings lower)
  /-- The order was inserted, the trades committed, and the order's row written. -/
  commits : ∃ mid,
    Commits lower market (input.row draws) draws 0 (tradesFor s.orders (input.row draws))
      (s.withOrders (s.orders.inserted lower (input.row draws))) mid ∧
    s' = mid.withOrders (mid.orders.withOrders (mid.orders.orders.set draws.orderId out.order))
  outcome : out = ⟨settledRow (input.row draws) draws (tradesFor s.orders (input.row draws)),
      fillRecords (input.row draws) draws 0 (tradesFor s.orders (input.row draws))⟩

section

variable {draws : SubmitDraws} {s : PerpStores}

/-- A maker of a trade stands in the store, active, on the other side. -/
theorem tradesFor_maker (hs : s.WellFormed lower) (ht : t ∈ tradesFor s.orders order) :
    s.orders.get t.maker.id = some t.maker ∧ t.maker.marketId = order.marketId ∧
      t.maker.status.isActive = true ∧ t.maker.side = order.side.opposite := by
  obtain ⟨⟨id, hget⟩, hrest⟩ := mem_counterpartiesFor.1 (tradesFrom_mem ht).1
  obtain rfl := hs.filed hget
  exact ⟨hget, hrest⟩

theorem maker_ne_order (hs : s.WellFormed lower) (hd : draws.Fresh s)
    (ht : t ∈ tradesFor s.orders order) : t.maker.id ≠ draws.orderId := by
  intro heq
  have hget := (tradesFor_maker hs ht).1
  rw [heq, hd.order] at hget
  cases hget

/-- The stores are ready for the commit loop once the order is inserted. -/
theorem PerpStores.WellFormed.ready (hs : s.WellFormed lower) (hd : draws.Fresh s)
    (hid : order.id = draws.orderId) :
    Ready lower draws 0 (tradesFor s.orders order) (s.withOrders (s.orders.inserted lower order))
    where
  positions := hs.positions
  undrawn := ⟨fun j _ => ⟨hd.positions (.inl j), hd.positions (.inr j)⟩, hd.distinct⟩
  planned := by
    refine ⟨fun t ht => (get_inserted ..).trans ?_,
      nodup_tradesFrom (nodup_counterpartiesFor (fun h => hs.filed h) _ _)⟩
    rw [if_neg (by rw [hid]; exact maker_ne_order hs hd ht)]
    exact (tradesFor_maker hs ht).1

/-- Inserting an order does not change the trades it makes. -/
theorem planFills_inserted (lower : String → String) (hnew : store.get order.id = none) :
    planFills (store.inserted lower order) order = (tradesFor store order).map plan := by
  rw [planFills_eq, counterpartiesFor_inserted hnew]
  rfl

theorem onOrders_run {orders : PerpOrderStore} (h : x s.orders = (r, orders)) :
    onOrders x s = (r, s.withOrders orders) := by
  simp [onOrders, Act.zoom, h]

/-- What happens to an admitted order once it is inserted. -/
theorem matchOrder_ok (hs : s.WellFormed lower) (hd : draws.Fresh s) {order : PerpOrder}
    (hid : order.id = draws.orderId)
    (hadm : Admitted lower sameAccount market order (tradesFor s.orders order)
      (s.holdings lower) h') :
    ∃ mid, matchOrder lower market draws order (s.withOrders (s.orders.inserted lower order)) =
        (.ok ⟨settledRow order draws (tradesFor s.orders order),
            fillRecords order draws 0 (tradesFor s.orders order)⟩,
          mid.withOrders (mid.orders.withOrders (mid.orders.orders.set draws.orderId
            (settledRow order draws (tradesFor s.orders order))))) ∧
      Commits lower market order draws 0 (tradesFor s.orders order)
        (s.withOrders (s.orders.inserted lower order)) mid := by
  set trades := tradesFor s.orders order with htrades
  set s₁ := s.withOrders (s.orders.inserted lower order) with hs₁
  have hnew : s.orders.get order.id = none := by rw [hid]; exact hd.order
  have hplan : planFills s₁.orders order = trades.map plan := planFills_inserted lower hnew
  have hgates : onOrders (arrivalGates order (trades.map plan) draws.now) s₁ = (.ok (), s₁) :=
    onOrders_run (arrivalGates_eq_ok.2 ⟨rfl, hadm.stranger, hadm.postOnly, hadm.fok⟩)
  have hreduces : enforceReduceOnly lower s₁.positions order = .ok () :=
    (enforceReduceOnly_eq_ok hs.positions).2 hadm.reduces
  obtain ⟨_, mid, hrun, rfl, hcommits, -⟩ :=
    (commitFills_spec (hs.ready hd hid) order.size1e8).ok hadm.trades
  have hrow : mid.orders.get draws.orderId = some order := by
    rw [hcommits.get_of_not_maker fun t ht => (maker_ne_order hs hd ht).symm, ← hid]
    rw [PerpStores.withOrders, get_inserted, if_pos rfl]
  have hsettle := onOrders_run (update_of_some hrow draws.now
    (PerpOrder.takerSettled order.timeInForce (order.size1e8 - total trades)
      (fillRecords order draws 0 trades)))
  rw [← hid] at hsettle
  refine ⟨mid, ?_, hcommits⟩
  rw [matchOrder, read_bind, hplan, bind_of_ok hgates, read_bind,
    check_bind hreduces, bind_of_ok hrun]
  simp only
  rw [bind_of_ok hsettle, hid]
  rfl

/-- **A submit whose checks pass and that is admitted is accepted.** -/
theorem submit_ok (hs : s.WellFormed lower) (hd : draws.Fresh s)
    (hchecked : preSubmit lower cfg draws.checkedAtMs oracleRead s.positions input = .ok market)
    (hfree : s.orders.ClientFree lower (input.row draws))
    (hadm : Admitted lower sameAccount market (input.row draws)
      (tradesFor s.orders (input.row draws)) (s.holdings lower) h') :
    ∃ out s', submitPerpOrderInternalWithOracle lower cfg draws oracleRead input s = (.ok out, s') ∧
      Submitted lower cfg draws oracleRead input market s out s' ∧ s'.holdings lower = h' := by
  have hinsert := onOrders_run (insertOrder_of_free hfree)
  obtain ⟨mid, hrun, hcommits⟩ := matchOrder_ok hs hd rfl hadm
  -- the trades are the same function of the holdings, whoever computes it
  have hh' : mid.holdings lower = h' := Except.ok.inj (hcommits.tradeAll.symm.trans hadm.trades)
  refine ⟨_, _, ?_, ⟨hchecked, hfree, hh' ▸ hadm, ⟨mid, hcommits, rfl⟩, rfl⟩, hh'⟩
  rw [submitPerpOrderInternalWithOracle, read_bind, check_bind hchecked,
    ← SubmitPerpOrderInput.row, bind_of_ok hinsert, hrun]

/-- An inserted order that gets through was admitted. -/
theorem matchOrder_inv (hs : s.WellFormed lower) (hd : draws.Fresh s)
    (hid : order.id = draws.orderId)
    (h : matchOrder lower market draws order (s.withOrders (s.orders.inserted lower order)) =
      (.ok out, s')) :
    ∃ h', Admitted lower sameAccount market order (tradesFor s.orders order)
      (s.holdings lower) h' := by
  have hnew : s.orders.get order.id = none := by rw [hid]; exact hd.order
  have h := read_bind_eq_ok.1 h
  simp only [PerpStores.withOrders, planFills_inserted lower hnew] at h
  obtain ⟨_, s₁, hzoom, h⟩ := bind_eq_ok.1 h
  obtain ⟨orders, hgates, rfl⟩ := zoom_eq_ok.1 hzoom
  obtain ⟨rfl, hstranger, hpost, hfok⟩ := arrivalGates_eq_ok.1 hgates
  obtain ⟨_, hreduces, h⟩ := check_bind_eq_ok.1 h
  have hreduces := (enforceReduceOnly_eq_ok hs.positions).1 hreduces
  obtain ⟨_, _, hrun, -⟩ := bind_eq_ok.1 h
  obtain ⟨h', hall, -⟩ := (commitFills_spec (hs.ready hd hid) order.size1e8).inv hrun
  exact ⟨h', hstranger, hpost, hfok, hreduces, hall⟩

/-- **A submit that is accepted passed its checks and was admitted.** -/
theorem submit_inv (hs : s.WellFormed lower) (hd : draws.Fresh s)
    (h : submitPerpOrderInternalWithOracle lower cfg draws oracleRead input s = (.ok out, s')) :
    ∃ market, Submitted lower cfg draws oracleRead input market s out s' := by
  have h₁ := read_bind_eq_ok.1 h
  obtain ⟨market, hchecked, h₂⟩ := check_bind_eq_ok.1 h₁
  obtain ⟨_, _, hzoom, h₃⟩ := bind_eq_ok.1 h₂
  obtain ⟨_, hinsert, rfl⟩ := zoom_eq_ok.1 hzoom
  obtain ⟨hfree, rfl, rfl⟩ := insertOrder_eq_ok.1 hinsert
  obtain ⟨h', hadm⟩ := matchOrder_inv hs hd rfl h₃
  obtain ⟨out₂, s₂, hrun₂, hsub, -⟩ := submit_ok hs hd hchecked hfree hadm
  obtain ⟨hout, rfl⟩ := Prod.mk.inj (h.symm.trans hrun₂)
  exact ⟨market, Except.ok.inj hout ▸ hsub⟩

namespace Submitted

section

variable (h : Submitted lower cfg draws oracleRead input market s out s')
include h

theorem symbol_eq : market.symbol = input.marketId :=
  PerpsReadConfig.symbol_of_marketBySymbol (preSubmit_eq_ok.1 h.checked).2.2.1

theorem get_order : s'.orders.get draws.orderId = some out.order := by
  obtain ⟨mid, -, rfl⟩ := h.commits
  exact get?_set_self ..

/-- The makers' rows are filled. -/
theorem get_maker (hs : s.WellFormed lower) (hd : draws.Fresh s)
    (ht : t ∈ tradesFor s.orders (input.row draws)) :
    s'.orders.get t.maker.id = some (t.makerRow draws.now) := by
  obtain ⟨mid, hcommits, rfl⟩ := h.commits
  rw [← hcommits.get_of_maker (hs.ready hd rfl).planned.nodup ht]
  exact get?_set_ne _ (maker_ne_order hs hd ht) _

/-- The other rows stay. -/
theorem get_other {id : Uuid} (hne : id ≠ draws.orderId)
    (hid : ∀ t ∈ tradesFor s.orders (input.row draws), id ≠ t.maker.id) :
    s'.orders.get id = s.orders.get id := by
  obtain ⟨mid, hcommits, rfl⟩ := h.commits
  have hmid : mid.orders.get id = s.orders.get id := by
    rw [hcommits.get_of_not_maker hid, PerpStores.withOrders, get_inserted]
    exact if_neg hne
  rw [← hmid]
  exact get?_set_ne _ hne _

/-- Every row of the stores is one of these. -/
theorem get_cases (hs : s.WellFormed lower) (hd : draws.Fresh s) {id : Uuid}
    (ho : s'.orders.get id = some o) : (id = draws.orderId ∧ o = out.order) ∨
      (∃ t ∈ tradesFor s.orders (input.row draws), id = t.maker.id ∧ o = t.makerRow draws.now) ∨
      (s.orders.get id = some o ∧ ∀ t ∈ tradesFor s.orders (input.row draws), id ≠ t.maker.id) := by
  by_cases hid : id = draws.orderId
  · rw [hid, h.get_order] at ho
    exact .inl ⟨hid, (Option.some.inj ho).symm⟩
  by_cases hmaker : ∃ t ∈ tradesFor s.orders (input.row draws), id = t.maker.id
  · obtain ⟨t, ht, rfl⟩ := hmaker
    rw [h.get_maker hs hd ht] at ho
    exact .inr (.inl ⟨t, ht, rfl, (Option.some.inj ho).symm⟩)
  · have hother : ∀ t ∈ tradesFor s.orders (input.row draws), id ≠ t.maker.id :=
      fun t ht heq => hmaker ⟨t, ht, heq⟩
    rw [h.get_other hid hother] at ho
    exact .inr (.inr ⟨ho, hother⟩)

/-- **The stores stay well-formed.** -/
theorem wellFormed (hs : s.WellFormed lower) (hd : draws.Fresh s) : s'.WellFormed lower where
  positions := by
    obtain ⟨mid, hcommits, rfl⟩ := h.commits
    exact hcommits.wellFormed hs.positions
  filed := by
    intro id o ho
    rcases h.get_cases hs hd ho with ⟨rfl, rfl⟩ | ⟨t, ht, rfl, rfl⟩ | ⟨hget, -⟩
    · rw [h.outcome]
      exact congrArg PerpOrder.id (terms_settledRow ..)
    · exact id_makerRow draws.now t
    · exact hs.filed hget

end

end Submitted

/-! ## The dispatcher -/

/-- **Through the dispatcher** an accepted submit did what `Submitted` says. -/
theorem submitPerpOrderViaState_inv (hs : s.WellFormed lower) (hd : draws.Fresh s)
    (h : submitPerpOrderViaState lower cfg draws answer input s = (.ok out, s')) :
    ∃ market, Submitted lower cfg draws (prepareSubmitOracle cfg answer input) input market s out
      s' :=
  submit_inv hs hd (atomically_eq_ok.1 h)

/-- **Through the dispatcher** a refused submit leaves the stores as they were. -/
theorem submitPerpOrderViaState_error
    (h : submitPerpOrderViaState lower cfg draws answer input s = (.error e, s')) : s' = s :=
  atomically_of_error h

end

/-! ## A market to run on -/

namespace EthPerp

/-- A market with a leverage cap of ten and no risk caps. -/
def market : PerpsReadMarket := ⟨"ETH-PERP", 10, 500, none, none, none, none⟩

def config (market : PerpsReadMarket) : PerpsReadConfig := ⟨[market], 60, 100⟩

/-- What the `n`-th submit of a run draws. -/
def draws (n : Nat) : SubmitDraws :=
  { orderId := 1000 * n
    checkedAtMs := 1000
    now := n
    fills := fun i =>
      { fillId := 1000 * n + 3 * i + 1
        taker := ⟨1000 * n + 3 * i + 2, n, n⟩
        maker := ⟨1000 * n + 3 * i + 3, n, n⟩ } }

/-- The oracle's answer: a price of 3000, one second after the epoch. -/
def read : Except BackendError RawPriceRead := .ok ⟨300000000000, 1, true⟩

/-- A good-till-cancelled limit order. -/
def limit (account : String) (side : PerpOrderSide) (price1e8 size1e8 margin1e8 : Nat) :
    SubmitPerpOrderInput :=
  { account := ⟨account⟩
    subaccountId := 1
    marketId := "ETH-PERP"
    side := side
    price1e8 := price1e8
    size1e8 := size1e8
    timeInForce := .gtc
    postOnly := false
    reduceOnly := false
    isolatedMargin1e8 := margin1e8
    clientOrderId := none
    maxExecutionPrice1e8 := 0
    minExecutionPrice1e8 := 0 }

theorem draws_distinct (n : Nat) : Function.Injective (draws n).positionId := by
  rintro (i | i) (j | j) h <;> simp [SubmitDraws.positionId, draws] at h ⊢ <;> omega

end EthPerp

end DeoptBackend
