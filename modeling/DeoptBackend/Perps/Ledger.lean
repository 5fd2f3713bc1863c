import DeoptBackend.Lib.Run
import DeoptBackend.Perps.Ticks

/-!
# Runs of the in-memory perps engine

Submits and cancels arrive in any order, and the workers tick in between.

* `PerpCall` — a request, with what it draws and what the readers answer it;
  `PerpRun` — the requests that led from nothing to a ledger.
* `PerpCall.run_submit`, `PerpCall.run_cancel` — all that a submit and a cancel can
  do to the ledger; for the ticks there are the rules of `Perps.Ticks`.
* `PerpStores.Valid` — what holds of the stores in every ledger that is reached
  (`PerpRun.valid`): they are well-formed, the rows of orders add up, and no
  position is empty.
* `AtFill` — the commit loop has come to a planned fill; `Round` — the halves of
  the round it makes there.
-/

namespace DeoptBackend

open PerpPositionsStore PerpOrder List PerpOrderStore PerpOrderStatus Act FMap Option

open PerpLedger (onStores)
open PerpStores (onOrders)
open PerpPositionsStore (fillKey)

/-! ## Requests -/

/-- The amounts of a request are machine words. -/
structure SubmitPerpOrderInput.Fits (input : SubmitPerpOrderInput) : Prop where
  /-- The size is a `u128`. -/
  size : input.size1e8 ≤ maxU128
  /-- The limit price is a `u128`. -/
  price : input.price1e8 ≤ maxU128
  /-- The collateral is a `u128`. -/
  margin : input.isolatedMargin1e8 ≤ maxU128

/-- A request, with what it draws and what the readers answer. -/
inductive PerpCall where
  | submit (draws : SubmitDraws) (answer : Except BackendError RawPriceRead)
      (input : SubmitPerpOrderInput)
  | cancel (orderId : Uuid) (caller : AccountId) (now : TimestampMs)
  | fundingTick (reader : PerpsReadMarket → Except BackendError FundingIndexRead)
      (now : TimestampMs) (ids : Nat → Uuid)
  | liquidationTick (reader : PerpsReadMarket → Except BackendError RawPriceRead)
      (now : TimestampMs) (ids : Nat → Uuid)

namespace PerpCall

/-- What a request makes of the ledger, whatever it is answered. -/
def run (lower : String → String) (cfg : PerpsReadConfig) : PerpCall → PerpLedger → PerpLedger
  | submit draws answer input, l =>
    (onStores (submitPerpOrderViaState lower cfg draws answer input) l).2
  | cancel orderId caller now, l =>
    (onStores (onOrders (cancelPerpOrderInternal lower orderId caller now)) l).2
  | fundingTick reader now ids, l =>
    (runPerpFundingTick lower cfg (prefetchFundingIndices cfg reader now) now ids l).2
  | liquidationTick reader now ids, l =>
    (runPerpLiquidationTick lower cfg (prefetchMarkPrices cfg reader now) now ids l).2

/-- The identifiers a request draws are new, and its amounts are machine words. -/
def Admissible : PerpCall → PerpLedger → Prop
  | submit draws _ input, l => draws.Fresh l.stores ∧ input.Fits
  | _, _ => True

end PerpCall

/-- **The ledgers that are reached from nothing.** -/
def PerpRun (lower : String → String) (cfg : PerpsReadConfig) (calls : List PerpCall)
    (l : PerpLedger) : Prop :=
  Run (stepOf (fun l call => PerpCall.run lower cfg call l) fun l call => call.Admissible l)
    PerpLedger.empty calls l

variable {s : PerpStores}

/-- A submit does nothing, or does what `Submitted` says. -/
theorem PerpCall.run_submit (hs : l.stores.WellFormed lower) (hd : draws.Fresh l.stores) :
    (submit draws answer input).run lower cfg l = l ∨
      ∃ market out s', Submitted lower cfg draws (prepareSubmitOracle cfg answer input) input market
          l.stores out s' ∧
        (submit draws answer input).run lower cfg l = l.withStores s' := by
  rcases hrun : submitPerpOrderViaState lower cfg draws answer input l.stores with ⟨_ | out, s'⟩
  · refine .inl ?_
    rw [run, onStores, zoom, hrun, submitPerpOrderViaState_error hrun]
    rfl
  · obtain ⟨market, hsub⟩ := submitPerpOrderViaState_inv hs hd hrun
    refine .inr ⟨market, out, s', hsub, ?_⟩
    rw [run, onStores, zoom, hrun]

def PerpOrder.userCancelled (now : TimestampMs) (o : PerpOrder) : PerpOrder :=
  { o with
    status := .cancelled
    terminalReasonCode := some Reason.userCancelled
    terminalReasonSource := some Reason.sourceRequestValidation
    updatedAtMs := now }

/-- A cancel does nothing, or writes the row of one order. -/
theorem PerpCall.run_cancel (orderId : Uuid) (caller : AccountId) (now : TimestampMs) :
    (cancel orderId caller now).run lower cfg l = l ∨ ∃ o, l.stores.orders.get orderId = some o ∧
        (cancel orderId caller now).run lower cfg l =
          l.withStores (l.stores.withOrders (l.stores.orders.withOrders
            (l.stores.orders.orders.set orderId (o.userCancelled now)))) := by
  have hstart : ∀ r, cancelPerpOrderInternal lower orderId caller now l.stores.orders = r →
      (r.2 = l.stores.orders ∨ ∃ o, l.stores.orders.get orderId = some o ∧
        r.2 = l.stores.orders.withOrders
          (l.stores.orders.orders.set orderId (o.userCancelled now))) := by
    rintro r rfl
    rw [cancelPerpOrderInternal, read_bind]
    cases hcheck : checkCancel lower orderId caller (l.stores.orders.get orderId) with
    | error =>
      exact .inl rfl
    | ok =>
      rw [check_bind rfl]
      cases ho : l.stores.orders.get orderId with
      | none => rw [ho] at hcheck; cases hcheck
      | some o =>
        rw [update_of_some ho]
        exact .inr ⟨o, rfl, rfl⟩
  rcases hstart _ rfl with hsame | ⟨o, ho, hset⟩
  · refine .inl ?_
    rw [run, onStores, onOrders, zoom, zoom, hsame]
    rfl
  · refine .inr ⟨o, ho, ?_⟩
    rw [run, onStores, onOrders, zoom, zoom, hset]

/-! ## Valid stores -/

/-- The row of an order adds up. -/
structure PerpOrder.Sound (o : PerpOrder) : Prop where
  balanced : o.filledSize1e8 + o.remainingSize1e8 = o.size1e8
  /-- The size is a machine word. -/
  fits : o.size1e8 ≤ maxU128
  /-- The order is for something. -/
  sized : 0 < o.size1e8
  priced : 0 < o.price1e8
  /-- While it is active there is something left. -/
  live : o.status.isActive = true → 0 < o.remainingSize1e8

/-- A holding is not empty, and its size is a machine word. -/
structure Holding.Sound (h : Holding) : Prop where
  /-- Something is held. -/
  sized : 0 < h.size1e8
  /-- The size is a machine word. -/
  fits : h.size1e8 ≤ maxU128

/-- **What holds of the stores in every ledger that is reached.** -/
structure PerpStores.Valid (lower : String → String) (s : PerpStores) : Prop where
  wellFormed : s.WellFormed lower
  rows : ∀ {id o}, s.orders.get id = some o → o.Sound
  /-- No position is empty. -/
  held : ∀ {key h}, s.holdings lower key = some h → h.Sound

variable {o : PerpOrder}

namespace PerpOrder.Sound

/-- A row whose status alone was changed, to a terminal one. -/
theorem ended (h : o.Sound) {o' : PerpOrder} (hterms : o'.terms = o.terms)
    (hfilled : o'.filledSize1e8 = o.filledSize1e8)
    (hleft : o'.remainingSize1e8 = o.remainingSize1e8)
    (hend : o'.status.isActive = false) : o'.Sound where
  balanced := by rw [hfilled, hleft, congr_terms size1e8 hterms, h.balanced]
  fits := by rw [congr_terms size1e8 hterms]; exact h.fits
  sized := by rw [congr_terms size1e8 hterms]; exact h.sized
  priced := by rw [congr_terms price1e8 hterms]; exact h.priced
  live := by
    intro hact
    rw [hend] at hact
    cases hact

theorem remaining_le (h : o.Sound) : o.remainingSize1e8 ≤ o.size1e8 := by
  have := h.balanced
  omega

end PerpOrder.Sound

section

variable {t : Trade}

section

variable (hsound : t.maker.Sound) (hsize : t.size1e8 ≤ t.maker.remainingSize1e8)
include hsound hsize

/-- The row of a maker after a trade, as far as amounts and status go. -/
theorem makerRow_amounts : (t.makerRow now).filledSize1e8 = t.maker.filledSize1e8 + t.size1e8 ∧
      (t.makerRow now).remainingSize1e8 = t.maker.remainingSize1e8 - t.size1e8 ∧
      ((t.makerRow now).status.isActive = true ↔ t.size1e8 < t.maker.remainingSize1e8) := by
  have hfits : t.maker.filledSize1e8 + t.size1e8 ≤ maxU128 := by
    have := hsound.balanced
    have := hsound.fits
    omega
  have hadd : Margin.satAdd t.maker.filledSize1e8 t.size1e8 = t.maker.filledSize1e8 + t.size1e8 :=
    Saturating.add_eq hfits
  unfold Trade.makerRow makerFilled
  simp only
  split
  · next hzero =>
      refine ⟨hadd, rfl, ?_⟩
      simp only [isActive, Bool.false_eq_true, false_iff]
      omega
  · next hleft =>
      refine ⟨hadd, rfl, ?_⟩
      simp only [isActive, true_iff]
      omega

theorem sound_makerRow : (t.makerRow now).Sound := by
  obtain ⟨hfilled, hleft, hactive⟩ := makerRow_amounts (t := t) hsound hsize
  have hsz : (t.makerRow now).size1e8 = t.maker.size1e8 :=
    congr_terms PerpOrder.size1e8 (Trade.terms_makerRow now t)
  have hpr : (t.makerRow now).price1e8 = t.maker.price1e8 :=
    congr_terms PerpOrder.price1e8 (Trade.terms_makerRow now t)
  have hbal := hsound.balanced
  refine ⟨?_, hsz ▸ hsound.fits, hsz ▸ hsound.sized, hpr ▸ hsound.priced, fun hact => ?_⟩
  · rw [hfilled, hleft, hsz]
    omega
  · rw [hleft]
    exact Nat.sub_pos_of_lt (hactive.1 hact)

end

theorem isActive_takerFinalStatus (tif : PerpTimeInForce) (left : Nat) (fills : List PerpFill) :
    (takerFinalStatus tif left fills).isActive = true ↔ tif = .gtc ∧ left ≠ 0 := by
  unfold takerFinalStatus
  split
  · next hzero => simp [hzero, isActive]
  · next hleft =>
      split <;> cases tif <;> simp [hleft, isActive]

/-- The row of an order that has traded, as far as amounts and status go. -/
theorem settledRow_amounts (draws : SubmitDraws) (htotal : Trade.total trades ≤ order.size1e8) :
    (settledRow order draws trades).filledSize1e8 = Trade.total trades ∧
      (settledRow order draws trades).remainingSize1e8 = order.size1e8 - Trade.total trades ∧
      ((settledRow order draws trades).status.isActive = true ↔
        order.timeInForce = .gtc ∧ Trade.total trades < order.size1e8) := by
  have hsub : order.size1e8 - (order.size1e8 - Trade.total trades) = Trade.total trades := by omega
  have hstatus : (settledRow order draws trades).status = takerFinalStatus order.timeInForce
      (order.size1e8 - Trade.total trades) (fillRecords order draws 0 trades) := by
    unfold settledRow takerSettled
    simp only
    split <;> rfl
  have hfilled : (settledRow order draws trades).filledSize1e8 =
      order.size1e8 - (order.size1e8 - Trade.total trades) := by
    unfold settledRow takerSettled
    simp only
    split <;> rfl
  refine ⟨hfilled.trans hsub, remaining_takerSettled .., ?_⟩
  rw [hstatus, isActive_takerFinalStatus, Nat.sub_ne_zero_iff_lt]

theorem sound_settledRow (hsize : 0 < o.size1e8) (hfits : o.size1e8 ≤ maxU128)
    (hprice : 0 < o.price1e8) (htotal : Trade.total trades ≤ o.size1e8) :
    (settledRow o draws trades).Sound := by
  obtain ⟨hfilled, hleft, hactive⟩ := settledRow_amounts draws htotal
  have hterms := terms_settledRow o draws trades
  have hsz : (settledRow o draws trades).size1e8 = o.size1e8 := congr_terms PerpOrder.size1e8 hterms
  have hpr : (settledRow o draws trades).price1e8 = o.price1e8 :=
    congr_terms PerpOrder.price1e8 hterms
  refine ⟨?_, hsz ▸ hfits, hsz ▸ hsize, hpr ▸ hprice, fun hact => ?_⟩
  · omega
  · rw [hleft]
    exact Nat.sub_pos_of_lt (hactive.1 hact).2

end

/-! ### Fills keep the holdings sound -/

/-- An increase never has a product that overflows. -/
theorem Holding.increased_fits (h : Holding) (fill : PerpFillInput) :
    (h.increased fill).size1e8 * (h.increased fill).entryPrice1e8 ≤
      min (Margin.satMul h.size1e8 h.entryPrice1e8 + Margin.satMul fill.size1e8 fill.price1e8)
        maxU128 := by
  simp only [Holding.increased, Margin.weightedAverageEntry1e8_eq]
  exact Saturating.add_mul_average_le

variable {market : PerpsReadMarket}

section

variable {new : Option Holding}

theorem Holding.Takes.sound (ht : Takes market fill x new) (hsize : fill.size1e8 ≠ 0)
    (hfits : fill.size1e8 ≤ maxU128) (hx : ∀ h, x = some h → h.Sound) :
    ∀ h, new = some h → h.Sound := by
  rintro h rfl
  cases ht with
  | opened => exact ⟨Nat.pos_of_ne_zero hsize, hfits⟩
  | increased hside hm hc =>
    next old =>
    obtain ⟨hpos, -⟩ := hx old rfl
    refine ⟨?_, Saturating.add_le_max⟩
    exact lt_min (Nat.add_pos_left hpos _) (by decide)
  | reduced hside hlt =>
    next old =>
    obtain ⟨-, hle⟩ := hx old rfl
    exact ⟨Nat.sub_pos_of_lt hlt, (Nat.sub_le _ _).trans hle⟩

theorem fillHoldings_sound (hok : fillHoldings lower market fill h = .ok h')
    (hfits : fill.size1e8 ≤ maxU128) (hh : ∀ {key x}, h key = some x → x.Sound) :
    ∀ {key x}, h' key = some x → x.Sound := by
  obtain ⟨new, hnew, rfl⟩ := fillHoldings_eq_ok.1 hok
  obtain ⟨hsize, -, -, htakes⟩ := Holding.applyChecked_eq_ok.1 hnew
  intro key x hx
  rw [Function.update_apply] at hx
  split at hx
  · exact htakes.sound hsize hfits (fun _ h => hh h) x hx
  · exact hh hx

theorem tradeAll_sound (hok : tradeAll lower market order trades h = .ok h')
    (hfits : ∀ t ∈ trades, t.size1e8 ≤ maxU128) (hh : ∀ {key x}, h key = some x → x.Sound) :
    ∀ {key x}, h' key = some x → x.Sound := by
  induction trades generalizing h with
  | nil =>
    cases hok
    exact hh
  | cons t ts ih =>
    obtain ⟨mid, ht, hts⟩ := tradeAll_cons_eq_ok.1 hok
    obtain ⟨half, htaker, hmaker⟩ := trade_eq_ok.1 ht
    have hsize := hfits t mem_cons_self
    have hmid : ∀ {key x}, mid key = some x → x.Sound :=
      fillHoldings_sound hmaker hsize (fillHoldings_sound htaker hsize hh)
    intro key x hx
    exact ih hts (fun u hu => hfits u (mem_cons_of_mem _ hu)) hmid hx

end

/-! ### Every ledger that is reached is valid -/

section

/-- The trades of an arriving order are parts of what the makers have left. -/
theorem tradesFor_size (ht : t ∈ tradesFor store order) :
    0 < t.size1e8 ∧ t.size1e8 ≤ t.maker.remainingSize1e8 :=
  (tradesFrom_mem ht).2.2

theorem PerpStores.Valid.maker_sound (hs : s.Valid lower) (ht : t ∈ tradesFor s.orders order) :
    t.maker.Sound :=
  hs.rows (tradesFor_maker hs.wellFormed ht).1

theorem PerpStores.Valid.trade_fits (hs : s.Valid lower) (ht : t ∈ tradesFor s.orders order) :
    t.size1e8 ≤ maxU128 := by
  have hsound := hs.maker_sound ht
  exact (tradesFor_size ht).2.trans (hsound.remaining_le.trans hsound.fits)

/-- An accepted submit keeps the stores valid. -/
theorem Submitted.valid (h : Submitted lower cfg draws oracleRead input market s out s')
    (hs : s.Valid lower) (hd : draws.Fresh s) (hfits : input.size1e8 ≤ maxU128) :
    s'.Valid lower where
  wellFormed := h.wellFormed hs.wellFormed hd
  rows := by
    intro id o ho
    obtain ⟨hsize, hprice⟩ := validateInputBasics_ok (preSubmit_eq_ok.1 h.checked).1
    rcases h.get_cases hs.wellFormed hd ho with ⟨-, rfl⟩ | ⟨t, ht, -, rfl⟩ | ⟨hget, -⟩
    · rw [h.outcome]
      exact sound_settledRow (Nat.pos_of_ne_zero hsize) hfits (Nat.pos_of_ne_zero hprice)
        (total_tradesFrom_le _ _ _)
    · exact sound_makerRow (hs.maker_sound ht) (tradesFor_size ht).2
    · exact hs.rows hget
  held := tradeAll_sound h.admitted.trades (fun _ ht => hs.trade_fits ht) hs.held

variable {l : PerpLedger} {read : FundingIndexRead}

theorem PerpStores.Valid.cancelled (hs : s.Valid lower) {id : Uuid} (ho : s.orders.get id = some o)
    (now : TimestampMs) :
    (s.withOrders (s.orders.withOrders (s.orders.orders.set id (o.userCancelled now)))).Valid
      lower := by
  refine ⟨⟨hs.wellFormed.positions, fun h => ?_⟩, fun h => ?_, hs.held⟩
  · exact forall_set h (hs.wellFormed.filed ho :) hs.wellFormed.filed
  · exact forall_set h ((hs.rows ho).ended rfl rfl rfl rfl) hs.rows

/-- What a settlement does to the holdings: the margin of one changes. -/
theorem Settles.holdings_eq (h : Settles lower indices l p read payment1e8)
    (hs : l.stores.positions.WellFormed lower) (id : Uuid) (key : IndexKey) :
    (l.settled p read.cumulativeIndex1e18 payment1e8 now id).stores.holdings lower key =
      if key = p.key lower then
        some { p.holding with
          margin1e8 := (applyFundingPaymentToMargin p.margin1e8 payment1e8).1 }
      else l.stores.holdings lower key := by
  rw [PerpStores.holdings, holdingAt, (h.writes hs now id).openAt_eq]
  split
  · rfl
  · rfl

theorem Settles.holding (h : Settles lower indices l p read payment1e8) :
    l.stores.holdings lower (p.key lower) = some p.holding := by
  rw [PerpStores.holdings, holdingAt, h.isOpen, map_some]

theorem Settles.valid (h : Settles lower indices l p read payment1e8) (hs : l.stores.Valid lower)
    (now : TimestampMs) (id : Uuid) :
    (l.settled p read.cumulativeIndex1e18 payment1e8 now id).stores.Valid lower where
  wellFormed := ⟨(h.writes hs.wellFormed.positions now id).wellFormed, hs.wellFormed.filed⟩
  rows := hs.rows
  held := by
    intro key x hx
    rw [h.holdings_eq hs.wellFormed.positions] at hx
    split at hx
    · obtain rfl := some.inj hx
      obtain ⟨hsize, hfits⟩ := hs.held h.holding
      exact ⟨hsize, hfits⟩
    · exact hs.held hx

/-- The rows of orders after a liquidation. -/
theorem get_liquidatedStores (hs : s.WellFormed lower) (mark1e8 : Nat) (now : TimestampMs)
    (id : Uuid) : (PerpLedger.liquidatedStores lower p mark1e8 now s).orders.get id =
      (s.orders.get id).map fun o =>
        if o.key lower = p.key lower ∧ o.status.isActive = true then
          cancelledRow Reason.liquidated Reason.sourceLiquidationTick now o
        else o :=
  get_cancelOpenOrders hs.filed ..

theorem holdings_liquidatedStores (hs : l.stores.positions.WellFormed lower)
    (hp : l.stores.positions.openAt lower (p.key lower) = some p) (mark1e8 : Nat)
    (now : TimestampMs) (key : IndexKey) :
    (PerpLedger.liquidatedStores lower p mark1e8 now l.stores).holdings lower key =
      if key = p.key lower then none else l.stores.holdings lower key := by
  rw [PerpStores.holdings, holdingAt, (liquidatedStores_writes hs hp mark1e8 now).openAt_eq]
  split
  · rfl
  · rfl

/-- A look at a position keeps the stores valid. -/
theorem LiquidationStep.valid (h : LiquidationStep lower now l l') (hs : l.stores.Valid lower) :
    l'.stores.Valid lower := by
  cases h with
  | idle => exact hs
  | noted => exact hs
  | liquidated mark1e8 event hp =>
    next p =>
    have hrow : ∀ {id o}, (PerpLedger.liquidatedStores lower p mark1e8 now l.stores).orders.get
        id = some o → o.id = id ∧ o.Sound := by
      intro id o ho
      rw [get_liquidatedStores hs.wellFormed] at ho
      obtain ⟨o', ho', rfl⟩ := map_eq_some_iff.1 ho
      have hsound := hs.rows ho'
      have hid := hs.wellFormed.filed ho'
      split
      · exact ⟨hid, hsound.ended rfl rfl rfl rfl⟩
      · exact ⟨hid, hsound⟩
    refine ⟨⟨?_, fun ho => (hrow ho).1⟩, fun ho => (hrow ho).2, fun hx => ?_⟩
    · exact (liquidatedStores_writes hs.wellFormed.positions hp mark1e8 now).wellFormed
    change (PerpLedger.liquidatedStores lower p mark1e8 now l.stores).holdings lower _ = _ at hx
    rw [holdings_liquidatedStores hs.wellFormed.positions hp] at hx
    split at hx
    · cases hx
    · exact hs.held hx

/-- Every request keeps the stores valid. -/
theorem PerpCall.run_valid {call : PerpCall} (hcall : call.Admissible l)
    (hs : l.stores.Valid lower) : (call.run lower cfg l).stores.Valid lower := by
  cases call with
  | submit =>
    obtain ⟨hd, hfits⟩ := hcall
    rcases run_submit hs.wellFormed hd with hidle | ⟨market, out, s', hsub, hrun⟩
    · rw [hidle]
      exact hs
    · rw [hrun]
      exact hsub.valid hs hd hfits.size
  | cancel orderId caller now =>
    rcases run_cancel orderId caller now with hidle | ⟨o, ho, hrun⟩
    · rw [hidle]
      exact hs
    · rw [hrun]
      exact hs.cancelled ho now
  | fundingTick reader now =>
    exact (runPerpFundingTick_induct (fun _ _ hl hset => hset.valid hl now _)
      hs.wellFormed.positions hs).2
  | liquidationTick =>
    exact (runPerpLiquidationTick_induct (fun _ hl hstep => hstep.valid hl)
      hs.wellFormed.positions hs).2

theorem PerpStores.valid_empty : PerpStores.Valid lower PerpStores.empty where
  wellFormed := PerpStores.wellFormed_empty
  rows := by intro id o h; simp [empty, PerpOrderStore.empty, PerpOrderStore.get] at h
  held := by
    intro key h hx
    simp [holdings, holdingAt, empty, openAt, PositionTable.openAt, PerpPositionsStore.empty] at hx

/-- **Every ledger that is reached is valid.** -/
theorem PerpRun.valid (h : PerpRun lower cfg calls l) : l.stores.Valid lower := by
  refine Run.invariant (P := fun l => l.stores.Valid lower) h PerpStores.valid_empty ?_
  rintro l call _ hl ⟨hcall, rfl⟩
  exact PerpCall.run_valid hcall hl

end

/-! ## The commit loop from inside -/

/-- The commit loop has come to the `i`-th planned fill, in the stores `a`: what is
planned before it is committed. -/
def AtFill (lower : String → String) (market : PerpsReadMarket) (order : PerpOrder)
    (draws : SubmitDraws) (s : PerpStores) (i : Nat) (plan : PlannedFill) (a : PerpStores) : Prop :=
  ∃ before after r, planFills s.orders order = before ++ plan :: after ∧ before.length = i ∧
    commitFills lower market order draws 0 order.size1e8 before s = (.ok r, a)

/-- The parts of one round of the loop: the maker's row, the taker's position and
the maker's position. -/
structure Round (lower : String → String) (market : PerpsReadMarket) (order : PerpOrder)
    (now : TimestampMs) (draws : FillDraws) (plan : PlannedFill) (maker : PerpOrder)
    (a₀ a₁ a₂ a₃ : PerpStores) : Prop where
  /-- The maker's row is written and read back. -/
  row : fillMakerRow now plan a₀ = (.ok maker, a₁)
  /-- The taker's position takes its side. -/
  taker : ∃ out, applyTaker lower market order draws plan a₁ = (.ok out, a₂)
  /-- The maker's position takes its side. -/
  maker : ∃ out, applyMaker lower market order maker draws plan a₂ = (.ok out, a₃)

section

/-- After some rounds the stores are ready for the rest. -/
theorem Ready.commits (h : Ready lower draws i (ts ++ us) s)
    (hc : Commits lower market order draws i ts s a) : Ready lower draws (i + ts.length) us a := by
  induction hc with
  | done => exact h
  | next hround _ ih =>
    have hnext := ih (h.step hround)
    rwa [Nat.add_assoc, Nat.add_comm 1] at hnext

theorem Ready.sublist_left (h : Ready lower draws i (ts ++ us) s) : Ready lower draws i ts s where
  positions := h.positions
  undrawn := h.undrawn
  planned := by
    have hnodup := h.planned.nodup
    rw [map_append] at hnodup
    exact ⟨fun t ht => h.planned.rows t (mem_append_left _ ht), hnodup.of_append_left⟩

/-- Where the loop stands, in terms of trades. -/
theorem AtFill.inv (h : AtFill lower market order draws s i plan a)
    (hready : Ready lower draws 0 trades s)
    (hplan : planFills s.orders order = trades.map Trade.plan) :
    ∃ before t after, trades = before ++ t :: after ∧ before.length = i ∧ t.plan = plan ∧
      Commits lower market order draws 0 before s a ∧ Ready lower draws i (t :: after) a := by
  obtain ⟨pre, post, r, hsplit, hlen, hrun⟩ := h
  rw [hplan, map_eq_append_iff] at hsplit
  obtain ⟨before, rest, rfl, rfl, hrest⟩ := hsplit
  obtain ⟨t, after, rfl, htp, -⟩ := map_eq_cons_iff.1 hrest
  have hlen' : before.length = i := by simpa using hlen
  have hpre := hready.sublist_left
  -- the loop got this far, so nothing before was refused
  obtain ⟨_, -, -, hcommits, -⟩ := (commitFills_spec hpre order.size1e8).inv hrun
  refine ⟨before, t, after, rfl, hlen', htp, hcommits, ?_⟩
  have hnext := hready.commits hcommits
  rwa [Nat.zero_add, hlen'] at hnext

variable {maker : PerpOrder}

/-- A round that went through has these parts. -/
theorem Round.of_commitFill (h : commitFill lower market order now d plan a = (.ok f, b)) :
    ∃ maker a₁ a₂ a₃, Round lower market order now d plan maker a a₁ a₂ a₃ := by
  obtain ⟨maker, a₁, hrow, h₁⟩ := bind_eq_ok.1 h
  obtain ⟨out, a₂, htaker, h₂⟩ := bind_eq_ok.1 h₁
  obtain ⟨out', a₃, hmaker, -⟩ := bind_eq_ok.1 h₂
  exact ⟨maker, a₁, a₂, a₃, hrow, ⟨out, htaker⟩, ⟨out', hmaker⟩⟩

theorem Round.inv (h : Round lower market order draws.now (draws.fills i) t.plan maker a a₁ a₂ a₃)
    (hready : Ready lower draws i (t :: ts) a) :
    maker = t.makerRow draws.now ∧ a₁.positions = a.positions ∧
      PerpPositionsStore.Filled lower market (takerFillInput order t.plan) (draws.fills i).taker
        a.positions a₂.positions ∧
      PerpPositionsStore.Filled lower market (makerFillInput order t.maker t.plan)
        (draws.fills i).maker a₂.positions a₃.positions := by
  obtain ⟨htaker, hmaker, hne⟩ := hready.undrawn.drawn
  obtain ⟨hrow, rfl⟩ := Prod.mk.inj
    ((fillMakerRow_run (hready.planned.rows t mem_cons_self)).symm.trans h.row)
  obtain rfl := Except.ok.inj hrow
  obtain ⟨out, happly⟩ := h.taker
  obtain ⟨p₂, hrun, rfl⟩ := zoom_eq_ok.1 happly
  obtain ⟨_, -, htaken, -⟩ := (apply_spec hready.positions htaker).inv hrun
  obtain ⟨out', happly'⟩ := h.maker
  obtain ⟨p₃, hrun', rfl⟩ := zoom_eq_ok.1 happly'
  rw [makerFillInput_makerRow] at hrun'
  obtain ⟨_, -, hmade, -⟩ :=
    (apply_spec htaken.wellFormed (htaken.rows.unused hne hmaker)).inv hrun'
  exact ⟨rfl, rfl, htaken, hmade⟩

end

/-! ## Runs on a market -/

namespace EthPerp

/-- The ledger after some submits, the last one first. -/
def after (market : PerpsReadMarket) : List SubmitPerpOrderInput → PerpLedger
  | [] => .empty
  | input :: before =>
    (PerpCall.submit (draws (before.length + 1)) read input).run id (config market)
      (after market before)

def calls : List SubmitPerpOrderInput → List PerpCall
  | [] => []
  | input :: before => calls before ++ [.submit (draws (before.length + 1)) read input]

/-- No identifier in the ledger is as large as those the `n`-th submit draws. -/
def below (n : Nat) (l : PerpLedger) : Bool :=
  (l.stores.orders.orders.keys.all fun id => id < 1000 * n) &&
    l.stores.positions.byId.keys.all fun id => id < 1000 * n

/-- Each submit draws new identifiers, and its amounts are machine words. -/
def admissible (market : PerpsReadMarket) : List SubmitPerpOrderInput → Bool
  | [] => true
  | input :: before =>
    below (before.length + 1) (after market before) && input.size1e8 ≤ maxU128 &&
      input.price1e8 ≤ maxU128 && input.isolatedMargin1e8 ≤ maxU128 && admissible market before

theorem get?_of_below {m : FMap Uuid ν} {n id : Nat}
    (h : m.keys.all (fun id => decide (id < 1000 * n)) = true) (hid : 1000 * n ≤ id) :
    m.get? id = none := by
  rw [← not_isSome_iff_eq_none, isSome_iff_exists, ← mem_keys_iff]
  intro hmem
  have hlt : id < 1000 * n := by simpa using all_eq_true.1 h id hmem
  omega

theorem fresh_of_below {l : PerpLedger} (h : below n l = true) : (draws n).Fresh l.stores := by
  rw [below, Bool.and_eq_true] at h
  refine ⟨get?_of_below h.1 le_rfl, ?_, draws_distinct n⟩
  rintro (i | i) <;> refine get?_of_below h.2 ?_ <;>
    simp only [SubmitDraws.positionId, draws, Sum.elim_inl, Sum.elim_inr] <;> omega

theorem run_after (h : admissible market inputs = true) :
    PerpRun id (config market) (calls inputs) (after market inputs) := by
  induction inputs with
  | nil => exact .start
  | cons input before ih =>
    simp only [admissible, Bool.and_eq_true, decide_eq_true_eq] at h
    obtain ⟨⟨⟨⟨hbelow, hsize⟩, hprice⟩, hmargin⟩, hbefore⟩ := h
    exact (ih hbefore).snoc ⟨⟨fresh_of_below hbelow, hsize, hprice, hmargin⟩, rfl⟩

end EthPerp

end DeoptBackend
