import DeoptBackend.Perps.Postgres
import DeoptBackend.Perps.Submit

/-!
# User price protection in the two engines

A limit order names the worst price it accepts; a market order names it too, as
the execution-price bound of its side.  `PriceProtected` says that an accepted
submit kept to it: no fill is worse, and what rests of a good-till-cancelled order
rests at that price.

* `KeepsTerms` — no engine ever writes the price of a row again, so the price of a
  row is the price it was inserted with.
* `submit_priceProtected` — the in-memory engine always protects: it inserts a
  market order at its bound.
* `submitPg_priceProtected_iff` — the database engine inserts a market order at
  price zero.  It protects a limit order, and a market order exactly under
  `BoundKept`: a sell must find enough bids within its bound, and a buy, which
  meets nobody at price zero, must not rest.

Nothing is assumed of the stores the submit starts from.
-/

namespace DeoptBackend

open Act PerpOrderStore List FMap

open PerpStores (onOrders onPositions)

/-! ## Statement -/

/-- A price is no worse than a limit. -/
def withinLimit : PerpOrderSide → Nat → Nat → Prop
  | .buy, limit1e8, price1e8 => price1e8 ≤ limit1e8
  | .sell, limit1e8, price1e8 => limit1e8 ≤ price1e8

/-- An accepted submit kept to the user's price; `stored` is the row it left. -/
structure PriceProtected (input : SubmitPerpOrderInput) (out : SubmitPerpOrderOutcome)
    (stored : Option PerpOrder) : Prop where
  fills : ∀ f ∈ out.fills, withinLimit input.side (effectiveLimitPrice1e8 input) f.price1e8
  /-- A remainder rests at the user's price, which is not zero. -/
  remainder : input.timeInForce = .gtc → out.order.remainingSize1e8 ≠ 0 →
    stored = some out.order ∧ out.order.price1e8 = effectiveLimitPrice1e8 input ∧
      out.order.price1e8 ≠ 0

theorem withinLimit_iff_crosses :
    withinLimit side limit price ↔ crosses side limit price = true := by
  cases side <;> simp [withinLimit, crosses]

/-! ## Rows keep their terms -/

/-- No row is lost, and every row keeps its terms. -/
def KeepsTerms (m m' : FMap Uuid PerpOrder) : Prop :=
  ∀ id o, m.get? id = some o → ∃ o', m'.get? id = some o' ∧ o'.terms = o.terms

namespace KeepsTerms

theorem refl (m : FMap Uuid PerpOrder) : KeepsTerms m m := fun _ o ho => ⟨o, ho, rfl⟩

theorem trans (h : KeepsTerms m m') (h' : KeepsTerms m' m'') : KeepsTerms m m'' := by
  intro id o ho
  obtain ⟨o', ho', hterms⟩ := h id o ho
  obtain ⟨o'', ho'', hterms'⟩ := h' id o' ho'
  exact ⟨o'', ho'', hterms'.trans hterms⟩

theorem set {id : Uuid} (ho : m.get? id = some o) (hterms : o'.terms = o.terms) :
    KeepsTerms m (m.set id o') := by
  intro j p hp
  rw [get?_set]
  split
  · next hj =>
      subst hj
      obtain rfl : o = p := Option.some.inj (ho.symm.trans hp)
      exact ⟨o', rfl, hterms⟩
  · exact ⟨p, hp, rfl⟩

end KeepsTerms

/-! ## The in-memory engine -/

variable {order : PerpOrder}

theorem PerpOrderStore.update_keepsTerms {id : Uuid} {store store' : PerpOrderStore}
    (hm : ∀ o, (mutator o).terms = o.terms)
    (h : PerpOrderStore.update id now mutator store = (.ok row, store')) :
    KeepsTerms store.orders store'.orders := by
  obtain ⟨o, ho, rfl, rfl⟩ := update_eq_ok.1 h
  exact KeepsTerms.set ho (hm o)

theorem commitFill_price {draws : FillDraws}
    (h : commitFill lower market order now draws plan s = (.ok fill, s')) :
    fill.price1e8 = plan.price1e8 ∧ KeepsTerms s.orders.orders s'.orders.orders := by
  obtain ⟨maker, s₁, hmaker, h₁⟩ := bind_eq_ok.1 h
  obtain ⟨_, s₂, htaker, h₂⟩ := bind_eq_ok.1 h₁
  obtain ⟨_, s₃, hmaker', h₃⟩ := bind_eq_ok.1 h₂
  obtain ⟨_, _, hwrite, hpure⟩ := bind_eq_ok.1 h₃
  cases hwrite
  cases hpure
  refine ⟨rfl, ?_⟩
  obtain ⟨_, s₁', hzoom, hread⟩ := bind_eq_ok.1 hmaker
  obtain ⟨store, hupd, rfl⟩ := zoom_eq_ok.1 hzoom
  obtain ⟨_, _, hget, hcheck⟩ := bind_eq_ok.1 hread
  cases hget
  obtain ⟨-, rfl⟩ := check_eq_ok.1 hcheck
  obtain ⟨positions, -, rfl⟩ := zoom_eq_ok.1 htaker
  obtain ⟨positions', -, rfl⟩ := zoom_eq_ok.1 hmaker'
  exact (update_keepsTerms (PerpOrder.terms_makerFilled _) hupd :)

/-- The fills of the loop are at the planned prices, and no row changes its
terms. -/
theorem commitFills_price {fills : List PerpFill}
    (h : commitFills lower market order draws i remaining planned s = (.ok (fills, left), s')) :
    fills.map (·.price1e8) = planned.map (·.price1e8) ∧
      KeepsTerms s.orders.orders s'.orders.orders := by
  induction planned generalizing i remaining s fills with
  | nil =>
    cases h
    exact ⟨rfl, KeepsTerms.refl _⟩
  | cons plan planned ih =>
    obtain ⟨fill, s₁, hfill, h₁⟩ := bind_eq_ok.1 h
    obtain ⟨⟨rest, left'⟩, s₂, hrest, hpure⟩ := bind_eq_ok.1 h₁
    cases hpure
    obtain ⟨hprice, hkeep⟩ := commitFill_price hfill
    obtain ⟨hprices, hkeeps⟩ := ih hrest
    exact ⟨by rw [map_cons, map_cons, hprice, hprices], hkeep.trans hkeeps⟩

/-- What an accepted order did once it was inserted: its fills are at the prices
of the plan, and its row is stored with the terms it was inserted with. -/
theorem matchOrder_price (hrow : s.orders.get order.id = some order)
    (h : matchOrder lower market draws order s = (.ok out, s')) :
    out.fills.map (·.price1e8) = (planFills s.orders order).map (·.price1e8) ∧
      s'.orders.get order.id = some out.order ∧ out.order.terms = order.terms := by
  have h₁ := read_bind_eq_ok.1 h
  obtain ⟨_, _, hzoom, h₂⟩ := bind_eq_ok.1 h₁
  obtain ⟨store, hgates, rfl⟩ := zoom_eq_ok.1 hzoom
  rw [planFills_eq] at hgates
  obtain ⟨rfl, -⟩ := arrivalGates_eq_ok.1 hgates
  obtain ⟨_, _, hread, h₃⟩ := bind_eq_ok.1 h₂
  cases hread
  obtain ⟨_, -, h₄⟩ := check_bind_eq_ok.1 h₃
  obtain ⟨⟨fills, left⟩, mid, hcommit, h₅⟩ := bind_eq_ok.1 h₄
  obtain ⟨row, _, hzoom', hpure⟩ := bind_eq_ok.1 h₅
  obtain ⟨store', hupd, rfl⟩ := zoom_eq_ok.1 hzoom'
  cases hpure
  obtain ⟨hprices, hkeeps⟩ := commitFills_price hcommit
  obtain ⟨o, ho, hterms⟩ := hkeeps order.id order hrow
  obtain ⟨o', ho', rfl, rfl⟩ := update_eq_ok.1 hupd
  obtain rfl : o = o' := Option.some.inj (ho.symm.trans ho')
  exact ⟨hprices, get?_set_self .., (terms_takerSettled ..).trans hterms⟩

/-- **The in-memory engine keeps to the user's price.** -/
theorem submit_priceProtected
    (h : submitPerpOrderInternalWithOracle lower cfg draws oracleRead input s = (.ok out, s')) :
    PriceProtected input out (s'.orders.get draws.orderId) := by
  obtain ⟨_, _, hread, h₁⟩ := bind_eq_ok.1 h
  cases hread
  obtain ⟨market, hchecked, h₂⟩ := check_bind_eq_ok.1 h₁
  obtain ⟨_, _, hzoom, h₃⟩ := bind_eq_ok.1 h₂
  obtain ⟨_, hinsert, rfl⟩ := zoom_eq_ok.1 hzoom
  obtain ⟨-, rfl, rfl⟩ := insertOrder_eq_ok.1 hinsert
  have hrow := get_inserted lower (input.row draws) s.orders (input.row draws).id
  rw [if_pos rfl] at hrow
  obtain ⟨hprices, hstored, hterms⟩ := matchOrder_price hrow h₃
  have hprice : out.order.price1e8 = effectiveLimitPrice1e8 input :=
    (congrArg PerpOrder.price1e8 hterms :)
  obtain ⟨-, hlimit⟩ := validateInputBasics_ok (preSubmit_eq_ok.1 hchecked).1
  constructor
  · intro f hf
    have hmem : f.price1e8 ∈ out.fills.map (·.price1e8) := mem_map_of_mem hf
    rw [hprices, planFills_eq, map_map] at hmem
    obtain ⟨t, ht, hp⟩ := mem_map.1 hmem
    rw [← hp]
    exact withinLimit_iff_crosses.2 (tradesFrom_mem ht).2.1
  · intro _ _
    exact ⟨hstored, hprice, by rw [hprice]; exact hlimit⟩

/-! ## The database engine -/

theorem updatePerpOrderTx_keepsTerms {row : PerpOrder}
    (h : updatePerpOrderTx order db = (.ok row, db')) : KeepsTerms db.orders db'.orders := by
  obtain ⟨old, hold, rfl, rfl⟩ := updatePerpOrderTx_eq_ok.1 h
  exact KeepsTerms.set hold rfl

theorem applyPerpFillPg_price
    (h : applyPerpFillPg sqlLower market fill positionId now db = (.ok position, db')) :
    fill.price1e8 ≠ 0 := by
  obtain ⟨_, hbasics, -⟩ := check_bind_eq_ok.1 h
  unfold validateFillBasics at hbasics
  split_ifs at hbasics with hsize hprice
  exact hprice

theorem commitFillPg_price {draws : FillDraws}
    (h : commitFillPg sqlLower market order now draws plan db = (.ok fill, db')) :
    fill.price1e8 = plan.price1e8 ∧ plan.price1e8 ≠ 0 ∧ KeepsTerms db.orders db'.orders := by
  obtain ⟨_, -, h₁⟩ := check_bind_eq_ok.1 h
  have h₂ := read_bind_eq_ok.1 h₁
  obtain ⟨maker, -, h₃⟩ := check_bind_eq_ok.1 h₂
  obtain ⟨_, db₁, hupd, h₄⟩ := bind_eq_ok.1 h₃
  obtain ⟨_, db₂, htaker, h₅⟩ := bind_eq_ok.1 h₄
  obtain ⟨_, db₃, hmaker', h₆⟩ := bind_eq_ok.1 h₅
  obtain ⟨_, db₄, hinsert, hpure⟩ := bind_eq_ok.1 h₆
  cases hpure
  refine ⟨rfl, applyPerpFillPg_price htaker, ?_⟩
  have hkeeps := updatePerpOrderTx_keepsTerms hupd
  rwa [(insertPerpFillTx_keeps _).of_run hinsert, (applyPerpFillPg_keeps _ _ _ _).of_run hmaker',
    (applyPerpFillPg_keeps _ _ _ _).of_run htaker]

/-- The fills of the loop are at the planned prices, none of them zero, and no row
changes its terms. -/
theorem commitFillsPg_price {planned : List PlannedFill} {fills : List PerpFill}
    (h : commitFillsPg sqlLower market order draws i remaining planned db =
      (.ok (fills, left), db')) :
    fills.map (·.price1e8) = planned.map (·.price1e8) ∧ (∀ plan ∈ planned, plan.price1e8 ≠ 0) ∧
      left = remaining - plannedTotal planned ∧ KeepsTerms db.orders db'.orders := by
  induction planned generalizing i remaining db fills with
  | nil =>
    cases h
    exact ⟨rfl, by simp, by simp [plannedTotal], KeepsTerms.refl _⟩
  | cons plan planned ih =>
    obtain ⟨fill, _, hfill, h₁⟩ := bind_eq_ok.1 h
    obtain ⟨⟨rest, left'⟩, _, hrest, hpure⟩ := bind_eq_ok.1 h₁
    cases hpure
    obtain ⟨hprice, hne, hkeep⟩ := commitFillPg_price hfill
    obtain ⟨hprices, hnes, hleft, hkeeps⟩ := ih hrest
    refine ⟨by rw [map_cons, map_cons, hprice, hprices],
      forall_mem_cons.2 ⟨hne, hnes⟩, ?_, hkeep.trans hkeeps⟩
    rw [hleft, Nat.sub_sub]
    simp [plannedTotal]

/-- What an accepted order did once it was inserted. -/
theorem matchOrderPg_price (hrow : db.orders.get? order.id = some order)
    (h : matchOrderPg sqlLower market draws order db = (.ok out, db')) :
    out.fills.map (·.price1e8) =
        (planFillsPure order (counterpartiesPg db order)).map (·.price1e8) ∧
      (∀ plan ∈ planFillsPure order (counterpartiesPg db order), plan.price1e8 ≠ 0) ∧
      out.order.remainingSize1e8 =
        order.size1e8 - plannedTotal (planFillsPure order (counterpartiesPg db order)) ∧
      db'.orders.get? order.id = some out.order ∧ out.order.terms = order.terms := by
  have h₁ := read_bind_eq_ok.1 h
  obtain ⟨_, -, h₂⟩ := check_bind_eq_ok.1 h₁
  obtain ⟨_, _, hreduce, h₃⟩ := bind_eq_ok.1 h₂
  obtain rfl := (enforceReduceOnlyPg_keeps order).of_run hreduce
  obtain ⟨⟨fills, left⟩, mid, hcommit, h₄⟩ := bind_eq_ok.1 h₃
  obtain ⟨row, _, hupd, hpure⟩ := bind_eq_ok.1 h₄
  cases hpure
  obtain ⟨hprices, hnes, hleft, hkeeps⟩ := commitFillsPg_price hcommit
  obtain ⟨o, ho, hterms⟩ := hkeeps order.id order hrow
  obtain ⟨old, hold, rfl, rfl⟩ := updatePerpOrderTx_eq_ok.1 hupd
  have hid : (order.takerSettled order.timeInForce left fills).id = order.id :=
    (congrArg PerpOrder.id (terms_takerSettled order.timeInForce left fills order) :)
  simp only [hid] at hold ⊢
  obtain rfl : o = old := Option.some.inj (ho.symm.trans hold)
  refine ⟨hprices, hnes, ?_, get?_set_self .., hterms⟩
  rw [← hleft]
  exact remaining_takerSettled ..

/-! ### The bids a market sell meets -/

def activeBids (db : PerpTables) (marketId : String) : List PerpOrder :=
  db.orders.vals.filter fun o => o.marketId = marketId ∧ o.status.isActive ∧ o.side = .buy

/-- **When a market order is protected**: a sell that finds its whole size within
its bound, or that does not rest and finds nothing beyond it; a buy that does not
rest. -/
def BoundKept (db : PerpTables) (input : SubmitPerpOrderInput) : Prop :=
  input.price1e8 ≠ 0 ∨
    match input.side with
    | .buy => input.timeInForce ≠ .gtc
    | .sell =>
      input.size1e8 ≤ (((activeBids db input.marketId).filter fun o =>
          input.minExecutionPrice1e8 ≤ o.price1e8).map (·.remainingSize1e8)).sum ∨
      (input.timeInForce ≠ .gtc ∧
        ∀ o ∈ activeBids db input.marketId, o.price1e8 < input.minExecutionPrice1e8 →
          o.remainingSize1e8 = 0)

section

variable (hside : order.side = .sell)
include hside

/-- The makers of a sell are the active bids, best first. -/
theorem counterpartiesPg_sell (hnew : db.orders.get? order.id = none) :
    (counterpartiesPg (db.inserted order) order).Perm (activeBids db order.marketId) ∧
      (counterpartiesPg (db.inserted order) order).Pairwise fun a b => b.price1e8 ≤ a.price1e8 := by
  have hvals : (db.inserted order).orders.vals = order :: db.orders.vals :=
    vals_set_new hnew order
  constructor
  · unfold counterpartiesPg filterCounterparties listOpenPerpOrdersTx
    simp only [hside]
    refine (perm_insertionSort _ _).trans (((perm_insertionSort _ _).filter _).trans ?_)
    rw [hvals, filter_filter, filter_cons_of_neg (by simp [hside, PerpOrderSide.opposite])]
    refine List.Perm.of_eq (filter_congr fun o _ => ?_)
    rw [Bool.eq_iff_iff]
    simp only [Bool.and_eq_true, decide_eq_true_eq]
    tauto
  · unfold counterpartiesPg filterCounterparties
    simp only [hside]
    refine (pairwise_insertionSort bidBefore _).imp fun {a b} hab => ?_
    rcases hab with h | ⟨h, -⟩ <;> omega

section

variable (hprice : order.price1e8 = 0)
include hprice

theorem crosses_sell_zero (price : Nat) : crosses order.side order.price1e8 price = true := by
  simp [hside, hprice, crosses]

/-- A sell at price zero takes all there is, up to its size. -/
theorem total_tradesFrom_sell (makers : List PerpOrder) (n : Nat) :
    Trade.total (tradesFrom order makers n) = min n (makers.map (·.remainingSize1e8)).sum := by
  rw [total_tradesFrom, greedy_total]
  simp [crosses_sell_zero hside hprice]

/-- A sell at price zero stays within a bound exactly when the makers within it
have enough, or those beyond it have nothing. -/
theorem tradesFrom_sell_within_iff (hsorted : makers.Pairwise fun a b => b.price1e8 ≤ a.price1e8)
    (bound n : Nat) :
    (∀ t ∈ tradesFrom order makers n, bound ≤ t.maker.price1e8) ↔
      n ≤ ((makers.filter fun m => bound ≤ m.price1e8).map (·.remainingSize1e8)).sum ∨
        ∀ m ∈ makers, m.price1e8 < bound → m.remainingSize1e8 = 0 := by
  have hwalk : (∀ t ∈ tradesFrom order makers n, bound ≤ t.maker.price1e8) ↔
      ∀ f ∈ greedy (·.remainingSize1e8)
          (fun m => !crosses order.side order.price1e8 m.price1e8) makers n,
        0 < f.2 → decide (bound ≤ f.1.price1e8) = true := by
    simp only [tradesFrom, forall_mem_map, mem_filter, decide_eq_true_eq, and_imp]
  have hstop : ∀ m ∈ makers, (!crosses order.side order.price1e8 m.price1e8) = false := by
    simp [crosses_sell_zero hside hprice]
  have hlost : makers.Pairwise fun a b =>
      decide (bound ≤ b.price1e8) = true → decide (bound ≤ a.price1e8) = true :=
    hsorted.imp fun {a b} hab hb => by simp at hb ⊢; omega
  rw [hwalk, greedy_ranked_iff (fun m : PerpOrder => decide (bound ≤ m.price1e8)) hstop hlost n]
  simp

/-- A sell at price zero, against bids in whatever order they are kept: it is
protected, and fills if it would `rest` otherwise. -/
theorem market_sell_iff (hperm : makers.Perm bids)
    (hsorted : makers.Pairwise fun a b => b.price1e8 ≤ a.price1e8) (bound n : Nat) :
    ((∀ t ∈ tradesFrom order makers n, bound ≤ t.maker.price1e8) ∧
        (rest → n ≤ Trade.total (tradesFrom order makers n))) ↔
      n ≤ ((bids.filter fun o => bound ≤ o.price1e8).map (·.remainingSize1e8)).sum ∨
        (¬ rest ∧ ∀ o ∈ bids, o.price1e8 < bound → o.remainingSize1e8 = 0) := by
  rw [tradesFrom_sell_within_iff hside hprice hsorted, total_tradesFrom_sell hside hprice,
    ((hperm.filter _).map _).sum_eq, (hperm.map _).sum_eq]
  have hothers : (∀ m ∈ makers, m.price1e8 < bound → m.remainingSize1e8 = 0) ↔
      ∀ o ∈ bids, o.price1e8 < bound → o.remainingSize1e8 = 0 := by
    simp [hperm.mem_iff]
  rw [hothers]
  have hparts := ((filter_append_perm (fun o : PerpOrder => bound ≤ o.price1e8) bids).map
    (·.remainingSize1e8)).sum_eq
  rw [map_append, sum_append] at hparts
  set within := ((bids.filter fun o => bound ≤ o.price1e8).map (·.remainingSize1e8)).sum
  -- bids beyond the bound that are empty add nothing to what there is
  have hempty : (∀ o ∈ bids, o.price1e8 < bound → o.remainingSize1e8 = 0) →
      (bids.map (·.remainingSize1e8)).sum = within := by
    intro h
    rw [← hparts, Nat.add_eq_left, List.sum_eq_zero_iff_forall_eq_nat, List.forall_mem_map]
    intro o ho
    obtain ⟨hmem, hlt⟩ := mem_filter.1 ho
    exact h o hmem (by simpa using hlt)
  by_cases hrest : rest
  · simp only [hrest, true_implies, not_true, false_and, or_false]
    constructor
    · rintro ⟨h | h, hfull⟩
      · exact h
      · have := hempty h
        omega
    · intro h
      exact ⟨.inl h, by omega⟩
  · simp [hrest]

end

end

/-! ### The submit -/

theorem preSubmitPg_ok (h : preSubmitPg lower cfg checkedAtMs mark input db = .ok market) :
    validateInputBasics input = .ok () := by
  obtain ⟨_, hinput, -⟩ := Except.bind_eq_ok.1 h
  obtain ⟨_, hbasics, -⟩ := Except.bind_eq_ok.1 hinput
  exact returned_eq_ok.1 hbasics

/-- What an accepted submit of the database engine did, as far as prices go. -/
structure PricedPg (draws : SubmitDraws) (input : SubmitPerpOrderInput) (db : PerpTables)
    (trades : List Trade) (out : SubmitPerpOrderOutcome) (db' : PerpTables) : Prop where
  /-- The order's identifier was free. -/
  new : db.orders.get? draws.orderId = none
  size : input.size1e8 ≠ 0
  limit : effectiveLimitPrice1e8 input ≠ 0
  positive : ∀ t ∈ trades, t.maker.price1e8 ≠ 0
  prices : out.fills.map (·.price1e8) = trades.map (·.maker.price1e8)
  /-- What is left. -/
  remaining : out.order.remainingSize1e8 = input.size1e8 - Trade.total trades
  /-- The row returned is stored. -/
  stored : db'.orders.get? draws.orderId = some out.order
  price : out.order.price1e8 = input.price1e8

theorem submitPg_priced
    (h : submitPerpOrderViaRepositoryInner sqlLower lower cfg draws mark input db =
      (.ok out, db')) :
    PricedPg draws input db (tradesFrom (input.rowPg draws)
        (counterpartiesPg (db.inserted (input.rowPg draws)) (input.rowPg draws)) input.size1e8)
      out db' := by
  have h₁ := read_bind_eq_ok.1 (atomically_eq_ok.1 h)
  obtain ⟨market, hchecked, h₂⟩ := check_bind_eq_ok.1 h₁
  obtain ⟨_, _, hinsert, h₃⟩ := bind_eq_ok.1 h₂
  obtain ⟨-, hnew, -, rfl⟩ := insertPerpOrderTx_eq_ok.1 hinsert
  obtain ⟨hsize, hlimit⟩ := validateInputBasics_ok (preSubmitPg_ok hchecked)
  have hrow : (db.inserted (input.rowPg draws)).orders.get? (input.rowPg draws).id =
      some (input.rowPg draws) := get?_set_self ..
  obtain ⟨hprices, hnes, hremaining, hstored, hterms⟩ := matchOrderPg_price hrow h₃
  rw [planFillsPure, planFillsFrom_eq] at hprices hnes hremaining
  refine ⟨hnew, hsize, hlimit, ?_, ?_, ?_, hstored, ?_⟩
  · intro t ht
    exact hnes t.plan (mem_map_of_mem ht)
  · rw [hprices, map_map]
    rfl
  · rw [hremaining, Trade.plannedTotal_map_plan]
    rfl
  · exact (congrArg PerpOrder.price1e8 hterms :)

namespace PricedPg

theorem fills_within_iff (h : PricedPg draws input db trades out db') {P : Nat → Prop} :
    (∀ f ∈ out.fills, P f.price1e8) ↔ ∀ t ∈ trades, P t.maker.price1e8 := by
  have hmap : (∀ p ∈ out.fills.map (·.price1e8), P p) ↔
      ∀ p ∈ trades.map (·.maker.price1e8), P p := by rw [h.prices]
  simpa only [forall_mem_map] using hmap

/-- A market order is protected when its fills are and it does not rest. -/
theorem priceProtected_iff (h : PricedPg draws input db trades out db')
    (hmarket : input.price1e8 = 0) : PriceProtected input out (db'.orders.get? draws.orderId) ↔
      (∀ t ∈ trades, withinLimit input.side (effectiveLimitPrice1e8 input) t.maker.price1e8) ∧
        (input.timeInForce = .gtc → input.size1e8 ≤ Trade.total trades) := by
  constructor
  · intro hp
    refine ⟨h.fills_within_iff.1 hp.fills, fun hgtc => ?_⟩
    by_contra hlt
    have hleft : out.order.remainingSize1e8 ≠ 0 := by rw [h.remaining]; omega
    obtain ⟨-, -, hne⟩ := hp.remainder hgtc hleft
    exact hne (by rw [h.price, hmarket])
  · rintro ⟨hfills, hfull⟩
    refine ⟨h.fills_within_iff.2 hfills, fun hgtc hleft => absurd ?_ hleft⟩
    have := hfull hgtc
    rw [h.remaining]
    omega

end PricedPg

/-- **The database engine keeps to the user's price** exactly under `BoundKept`. -/
theorem submitPg_priceProtected_iff
    (h : submitPerpOrderViaRepositoryInner sqlLower lower cfg draws mark input db =
      (.ok out, db')) :
    PriceProtected input out (db'.orders.get? draws.orderId) ↔ BoundKept db input := by
  have hpriced := submitPg_priced h
  by_cases hmarket : input.price1e8 = 0
  · rw [hpriced.priceProtected_iff hmarket]
    cases hside : input.side with
    | buy =>
      -- a buy at price zero meets only makers at price zero, and no fill is at price zero
      have hnone : tradesFrom (input.rowPg draws) (counterpartiesPg
          (db.inserted (input.rowPg draws)) (input.rowPg draws)) input.size1e8 = [] := by
        refine eq_nil_iff_forall_not_mem.2 fun t ht => hpriced.positive t ht ?_
        have hcross := (tradesFrom_mem ht).2.1
        simpa [SubmitPerpOrderInput.rowPg, takerOrder, PerpOrder.new, hside, hmarket, crosses]
          using hcross
      rw [hnone]
      simp [BoundKept, hmarket, hside, hpriced.size]
    | sell =>
      have hrow : (input.rowPg draws).side = .sell := hside
      obtain ⟨hperm, hsorted⟩ := counterpartiesPg_sell hrow hpriced.new
      have hlimit : effectiveLimitPrice1e8 input = input.minExecutionPrice1e8 := by
        simp [effectiveLimitPrice1e8, hmarket, hside]
      simp only [withinLimit, hlimit]
      rw [market_sell_iff hrow hmarket hperm hsorted]
      simp only [BoundKept, hmarket, hside, ne_eq, not_true, false_or]
      rfl
  · have hlimit : effectiveLimitPrice1e8 input = input.price1e8 := if_pos hmarket
    refine iff_of_true ⟨hpriced.fills_within_iff.2 fun t ht => ?_, fun _ _ => ?_⟩ (.inl hmarket)
    · rw [hlimit]
      exact withinLimit_iff_crosses.2 (tradesFrom_mem ht).2.1
    · exact ⟨hpriced.stored, by rw [hlimit, hpriced.price], by rw [hpriced.price]; exact hmarket⟩

/-- **User price protection.**  Every submit the in-memory engine accepts is
protected; one the database engine accepts is exactly under `BoundKept`. -/
theorem user_price_protection (lower sqlLower : String → String) (cfg : PerpsReadConfig)
    (draws : SubmitDraws) (oracleRead : Except BackendError RawPriceRead)
    (input : SubmitPerpOrderInput) : (∀ s out s',
      submitPerpOrderInternalWithOracle lower cfg draws oracleRead input s = (.ok out, s') →
        PriceProtected input out (s'.orders.get draws.orderId)) ∧
    ∀ db out db', submitPerpOrderViaRepositoryInner sqlLower lower cfg draws oracleRead input db =
        (.ok out, db') →
        (PriceProtected input out (db'.orders.get? draws.orderId) ↔ BoundKept db input) :=
  ⟨fun _ _ _ h => submit_priceProtected h, fun _ _ _ h => submitPg_priceProtected_iff h⟩

/-! ## A market sell -/

namespace EthPerp

def marketSell : SubmitPerpOrderInput :=
  { limit "taker" .sell 0 100000000 2000000000 with minExecutionPrice1e8 := 10000000000 }

def bid (price1e8 : Nat) : SubmitPerpOrderInput := limit "maker" .buy price1e8 100000000 2000000000

def tablesWithBid (price1e8 : Nat) : PerpTables :=
  (submitPerpOrderViaRepositoryInner id id (config market) (draws 1) read (bid price1e8) .empty).2

def storesWithBid (price1e8 : Nat) : PerpStores :=
  (submitPerpOrderInternalWithOracle id (config market) (draws 1) read (bid price1e8) .empty).2

end EthPerp

open EthPerp in
/-- Against a bid at 120, both engines sell at 120. -/
theorem market_sell_protected :
    (∃ out s', submitPerpOrderInternalWithOracle id (config market) (draws 2) read marketSell
        (storesWithBid 12000000000) = (.ok out, s') ∧
      out.fills.map (·.price1e8) = [12000000000] ∧
      PriceProtected marketSell out (s'.orders.get (draws 2).orderId)) ∧
    ∃ out db', submitPerpOrderViaRepositoryInner id id (config market) (draws 2) read marketSell
        (tablesWithBid 12000000000) = (.ok out, db') ∧
      out.fills.map (·.price1e8) = [12000000000] ∧
      PriceProtected marketSell out (db'.orders.get? (draws 2).orderId) := by
  obtain ⟨hmem, hpg⟩ := user_price_protection id id (config market) (draws 2) read marketSell
  constructor
  · obtain ⟨out, s', hrun, hfills⟩ := ok_of_map (fun out => out.fills.map (·.price1e8))
      (b := [12000000000])
      (r := submitPerpOrderInternalWithOracle id (config market) (draws 2) read marketSell
        (storesWithBid 12000000000)) (by decide +kernel)
    exact ⟨out, s', hrun, hfills, hmem _ out s' hrun⟩
  · obtain ⟨out, db', hrun, hfills⟩ := ok_of_map (fun out => out.fills.map (·.price1e8))
      (b := [12000000000])
      (r := submitPerpOrderViaRepositoryInner id id (config market) (draws 2) read marketSell
        (tablesWithBid 12000000000)) (by decide +kernel)
    have hkept : BoundKept (tablesWithBid 12000000000) marketSell :=
      .inr (.inl (by decide +kernel))
    exact ⟨out, db', hrun, hfills, (hpg _ out db' hrun).2 hkept⟩

open EthPerp in
/-- Against a bid at 50, the database engine sells at 50 what was not to be sold
below 100. -/
theorem market_sell_below_bound :
    ∃ out db', submitPerpOrderViaRepositoryInner id id (config market) (draws 2) read marketSell
        (tablesWithBid 5000000000) = (.ok out, db') ∧
      out.fills.map (·.price1e8) = [5000000000] ∧ effectiveLimitPrice1e8 marketSell = 10000000000 ∧
      ¬ PriceProtected marketSell out (db'.orders.get? (draws 2).orderId) := by
  obtain ⟨out, db', hrun, hfills⟩ := ok_of_map (fun out => out.fills.map (·.price1e8))
    (b := [5000000000])
    (r := submitPerpOrderViaRepositoryInner id id (config market) (draws 2) read marketSell
      (tablesWithBid 5000000000)) (by decide +kernel)
  refine ⟨out, db', hrun, hfills, by decide, fun hp => ?_⟩
  obtain ⟨f, hf, hprice⟩ := mem_map.1 (show 5000000000 ∈ out.fills.map (·.price1e8) by
    rw [hfills]; exact mem_cons_self)
  have hwithin : 10000000000 ≤ f.price1e8 := hp.fills f hf
  omega

end DeoptBackend
