import DeoptBackend.Lib.Act
import DeoptBackend.Options.Matching

/-!
# The in-memory option book (`src/options/store.rs`)

The orders and fills of `OptionSeriesStore`, and the three operations on them: an
arriving order is matched and stored, a live order is cancelled, and live orders past
their deadline expire.

* `applyLeg` — one round of the loop that carries out a plan.  It passes over a leg
  whose maker is missing or has too little left; `Applies` says that it does not.
* `applyLegs_eq` — carried out on the book it was planned on, no leg is passed over.
* `submitOrderAndMatch_eq` — a submit does what the reference matcher says.
-/

namespace DeoptBackend

open List TerminalReason FMap

/-- The orders and the fills. -/
structure OptionSeriesStore where
  orders : FMap OrderId OptionOrder
  fills : FMap Uuid OptionFill

namespace OptionSeriesStore

/-- `new`. -/
def new : OptionSeriesStore := ⟨∅, ∅⟩

/-- `has_open_client_order`. -/
def hasOpenClientOrder (self : OptionSeriesStore) (account : String) : Option String → Bool
  | none => false
  | some clientOrderId => self.orders.vals.any fun order =>
    order.status.isLive && eqIgnoreAsciiCase order.account.name account &&
      decide (order.clientOrderId = some clientOrderId)

/-! ## Carrying out a plan -/

/-- Where the loop over the legs stands. -/
structure Applying where
  /-- The arriving order, with what is left of it. -/
  incoming : OptionOrder
  made : List OptionFill
  store : OptionSeriesStore

section

variable (executionIdOf : ExecutionIdOf) (fillIds : Nat → Uuid) (now : TimestampMs)

variable (st : Applying) (leg : OptionMatchLeg)

/-- One round of the loop. -/
def applyLeg : Applying :=
  match st.store.orders.get? leg.makerId with
  | none => st
  | some maker =>
    if maker.remainingSize1e8 < leg.fillSize1e8 then st
    else
      let fill := optionFillFromMatch executionIdOf .constantTestDomain st.incoming maker
        leg.fillSize1e8 now (fillIds st.made.length)
      let remaining1e8 := maker.remainingSize1e8 - leg.fillSize1e8
      { incoming := { st.incoming with
          remainingSize1e8 := st.incoming.remainingSize1e8 - leg.fillSize1e8 }
        made := st.made ++ [fill]
        store :=
          { orders := st.store.orders.set leg.makerId
              (maker.restated remaining1e8 (statusForRemaining maker.size1e8 remaining1e8) now)
            fills := st.store.fills.set fill.fillId fill } }

/-- The round is not passed over. -/
def Applies : Prop :=
  ∃ maker, st.store.orders.get? leg.makerId = some maker ∧ leg.fillSize1e8 ≤ maker.remainingSize1e8

/-- The loop. -/
def applyLegs (legs : List OptionMatchLeg) (st : Applying) : Applying :=
  legs.foldl (applyLeg executionIdOf fillIds now) st

def matchPlan (self : OptionSeriesStore) (incoming : OptionOrder) : OptionMatchPlan :=
  buildOptionMatchPlan incoming
    (sortMatchCandidates (self.orders.vals.filter (canMatch incoming)) incoming.side)

/-- The row an arriving order is stored with, after the loop. -/
def finishTaker (incoming : OptionOrder) : OptionOrder :=
  let staged := { incoming with updatedAtMs := now }
  stampInsertTerminalReason { staged with status := finalStatusForTif staged }

/-- `submit_order_and_match`; the fills take the identifiers `fillIds`. -/
def submitOrderAndMatch (incoming : OptionOrder) :
    Act BackendError OptionSeriesStore (OptionOrder × List OptionFill) := fun self =>
  if self.hasOpenClientOrder incoming.account.name incoming.clientOrderId then
    (.error (.invalidOptionOrderState "duplicate open client_order_id for option account"), self)
  else
    let plan := self.matchPlan incoming
    match enforceTifPlan incoming plan with
    | .error e => (.error e, self)
    | .ok () =>
      let done := applyLegs executionIdOf fillIds now plan.legs ⟨incoming, [], self⟩
      let taker := finishTaker now done.incoming
      (.ok (taker, done.made),
        { done.store with orders := done.store.orders.set taker.orderId taker })

end

/-- `cancel_order`. -/
def cancelOrder (orderId : OrderId) (now : TimestampMs) :
    Act BackendError OptionSeriesStore OptionOrder := fun self =>
  match self.orders.get? orderId with
  | none => (.error .invalidOptionOrderId, self)
  | some order =>
    if order.status.isLive then
      let row := order.ended .cancelled userCancelled sourceUser now
      (.ok row, { self with orders := self.orders.set orderId row })
    else
      (.error (.invalidOptionOrderState ("option order is " ++ order.status.asStr)), self)

variable (now : TimestampMs) (order : OptionOrder)

def pastDeadline : Bool :=
  order.status.isLive && order.deadlineMs.any fun deadline => decide (deadline ≤ now)

def expiredRow : OptionOrder :=
  if pastDeadline now order then
    order.ended .expired expired sourceExpirySweep now
  else order

/-- `expire_orders_due`: the orders that expired, in the order the map gives them. -/
def expireOrdersDue (now : TimestampMs) (self : OptionSeriesStore) :
    List OptionOrder × OptionSeriesStore :=
  ((self.orders.vals.filter (pastDeadline now)).map (expiredRow now),
    { self with orders := self.orders.mapVals (expiredRow now) })

/-! ## What a submit does -/

section

variable {now : TimestampMs}

/-- The resting orders of a list of trades are in the book, with enough left. -/
structure Planned (orders : FMap OrderId OptionOrder) (trades : List OptionTrade) : Prop where
  /-- Each is stored as it was when the plan was made. -/
  row : ∀ t ∈ trades, orders.get? t.maker.orderId = some t.maker
  /-- None is asked for more than it has. -/
  fits : ∀ t ∈ trades, t.size1e8 ≤ t.maker.remainingSize1e8
  /-- None is asked twice. -/
  nodup : (trades.map (·.maker.orderId)).Nodup

theorem Planned.of_optionTrades {orders : FMap OrderId OptionOrder}
    (hfiled : ∀ {id o}, orders.get? id = some o → o.orderId = id) (incoming : OptionOrder) :
    Planned orders (optionTrades orders incoming) where
  row := fun _ ht => (of_mem_optionTrades hfiled ht).1
  fits := fun _ ht => (of_mem_optionTrades hfiled ht).2.2.2
  nodup := nodup_optionTrades hfiled incoming

/-- After the first trade the others are still as planned. -/
theorem Planned.tail {orders : FMap OrderId OptionOrder} (h : Planned orders (t :: ts))
    (row : OptionOrder) : Planned (orders.set t.maker.orderId row) ts := by
  refine ⟨fun u hu => ?_, fun u hu => h.fits u (mem_cons_of_mem _ hu), h.nodup.of_cons⟩
  rw [get?_set_ne _ (ne_of_nodup_map_cons h.nodup hu)]
  exact h.row u (mem_cons_of_mem _ hu)

/-- The loop's state after a list of trades. -/
def afterTrades (executionIdOf : ExecutionIdOf) (fillIds : Nat → Uuid) (now : TimestampMs)
    (trades : List OptionTrade) (st : Applying) : Applying :=
  let records := optionFillRecords executionIdOf .constantTestDomain st.incoming now fillIds
    st.made.length trades
  { incoming := { st.incoming with
      remainingSize1e8 := st.incoming.remainingSize1e8 - tradedSize trades }
    made := st.made ++ records
    store :=
      { orders := bookAfterTrades now trades st.store.orders
        fills := setAll (·.fillId) id records st.store.fills } }

/-- One round, on a maker that is as planned. -/
theorem applyLeg_eq (hrow : st.store.orders.get? t.maker.orderId = some t.maker)
    (hfits : t.size1e8 ≤ t.maker.remainingSize1e8) :
    applyLeg executionIdOf fillIds now st t.leg = afterTrades executionIdOf fillIds now [t] st := by
  have hrow' : st.store.orders.get? t.leg.makerId = some t.maker := hrow
  have hnot : ¬ t.maker.remainingSize1e8 < t.leg.fillSize1e8 := not_lt.2 hfits
  simp only [applyLeg, hrow', if_neg hnot]
  rfl

theorem afterTrades_cons (t : OptionTrade) (ts : List OptionTrade) (st : Applying) :
    afterTrades executionIdOf fillIds now ts (afterTrades executionIdOf fillIds now [t] st) =
      afterTrades executionIdOf fillIds now (t :: ts) st := by
  have hrecords : ∀ i n, optionFillRecords executionIdOf .constantTestDomain
      { st.incoming with remainingSize1e8 := n } now fillIds i ts =
      optionFillRecords executionIdOf .constantTestDomain st.incoming now fillIds i ts := by
    intro i n
    have hterms : { st.incoming with remainingSize1e8 := n }.terms = st.incoming.terms := rfl
    exact optionFillRecords_congr hterms i ts
  simp only [afterTrades, hrecords, length_append, append_assoc, Nat.sub_sub]
  rfl

/-- **The plan is carried out whole**, on the book it was planned on. -/
theorem applyLegs_eq {st : Applying} (h : Planned st.store.orders trades) :
    applyLegs executionIdOf fillIds now (trades.map OptionTrade.leg) st =
      afterTrades executionIdOf fillIds now trades st := by
  induction trades generalizing st with
  | nil => simp [applyLegs, afterTrades, optionFillRecords, tradedSize, bookAfterTrades]
  | cons t ts ih =>
    rw [← afterTrades_cons t ts, map_cons, applyLegs, foldl_cons,
      applyLeg_eq (h.row t mem_cons_self) (h.fits t mem_cons_self)]
    have htail : Planned (afterTrades executionIdOf fillIds now [t] st).store.orders ts :=
      h.tail (t.makerRow now)
    exact ih htail

/-- **No leg is passed over.** -/
theorem applies_of_planned (h : Planned st.store.orders trades) {before after : List OptionMatchLeg}
    (hsplit : trades.map OptionTrade.leg = before ++ leg :: after) :
    Applies (applyLegs executionIdOf fillIds now before st) leg := by
  induction trades generalizing st before with
  | nil => simp at hsplit
  | cons t ts ih =>
    cases before with
    | nil =>
      obtain ⟨rfl, -⟩ := cons.inj hsplit
      exact ⟨t.maker, h.row t mem_cons_self, h.fits t mem_cons_self⟩
    | cons =>
      obtain ⟨rfl, hrest⟩ := cons.inj hsplit
      rw [applyLegs, foldl_cons, applyLeg_eq (h.row t mem_cons_self) (h.fits t mem_cons_self)]
      have htail : Planned (afterTrades executionIdOf fillIds now [t] st).store.orders ts :=
        h.tail (t.makerRow now)
      exact ih htail hrest

theorem matchPlan_eq (self : OptionSeriesStore) (incoming : OptionOrder) : self.matchPlan incoming =
      ⟨(optionTrades self.orders incoming).map OptionTrade.leg,
        tradedSize (optionTrades self.orders incoming)⟩ := by
  rw [matchPlan, sortMatchCandidates_eq, buildOptionMatchPlan_eq]

/-- **A submit does what the reference matcher says**: it refuses the order and
changes nothing, or stores it with the trades of the reference. -/
theorem submitOrderAndMatch_eq (hfiled : ∀ {id o}, self.orders.get? id = some o → o.orderId = id)
    (hwhole : incoming.remainingSize1e8 = incoming.size1e8)
    (hfree : self.hasOpenClientOrder incoming.account.name incoming.clientOrderId = false) :
    submitOrderAndMatch executionIdOf fillIds now incoming self =
      match referenceMatch self.orders incoming now with
      | .error e => (.error e, self)
      | .ok (taker, trades) =>
        let records := optionFillRecords executionIdOf .constantTestDomain incoming now fillIds 0
          trades
        (.ok (taker, records),
          { orders := (bookAfterTrades now trades self.orders).set incoming.orderId taker
            fills := setAll (·.fillId) id records self.fills }) := by
  have hloop : applyLegs executionIdOf fillIds now
      ((optionTrades self.orders incoming).map OptionTrade.leg) ⟨incoming, [], self⟩ =
        afterTrades executionIdOf fillIds now (optionTrades self.orders incoming)
          ⟨incoming, [], self⟩ :=
    applyLegs_eq (Planned.of_optionTrades hfiled incoming)
  have htaker : ∀ traded1e8, finishTaker now
      { incoming with remainingSize1e8 := incoming.remainingSize1e8 - traded1e8 } =
        settledTaker incoming traded1e8 now := by
    intro traded1e8
    rw [hwhole]
    rfl
  have hid : ∀ traded1e8, (settledTaker incoming traded1e8 now).orderId = incoming.orderId := by
    intro traded1e8
    simp only [settledTaker, stampInsertTerminalReason]
    split <;> rfl
  simp only [submitOrderAndMatch, hfree, matchPlan_eq, enforceTifPlan, referenceMatch]
  by_cases hpost : incoming.postOnly = true ∧ ¬ optionTrades self.orders incoming = []
  · simp [if_pos hpost]
  by_cases hfok : incoming.timeInForce = .fok ∧
      tradedSize (optionTrades self.orders incoming) < incoming.size1e8
  · simp [if_neg hpost, if_pos hfok]
  · simp [if_neg hpost, if_neg hfok, hloop, afterTrades, htaker, hid]

end

end OptionSeriesStore

end DeoptBackend
