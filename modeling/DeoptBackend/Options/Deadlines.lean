import DeoptBackend.Options.HoldRuns

/-!
# Deadlines of option orders

An order that is sent past its deadline is refused, and the sweep ends the orders that rest
past theirs.  Neither matcher looks at a deadline, and a submit may come before the sweep.

* `MeetsInTime` — an arriving order and the makers it reaches are in time.
* `fills_in_time_iff` — whatever came before, the fills of a submit are in time exactly if
  it meets in time.
-/

namespace DeoptBackend

open OptionOrder FMap List OptionSeriesStore

/-- The deadline of the order, if it has one, is ahead. -/
def OptionOrder.inTime (now : TimestampMs) (o : OptionOrder) : Bool :=
  o.deadlineMs.all fun deadline => decide (now < deadline)

def OptionFill.inTime (orders : FMap OrderId OptionOrder) (f : OptionFill) : Bool :=
  [f.makerOrderId, f.takerOrderId].all fun id =>
    (orders.get? id).any (OptionOrder.inTime f.createdAtMs)

def BookRun (executionIdOf : ExecutionIdOf) (calls : List BookCall) (s : OptionSeriesStore) : Prop :=
  Run (stepOf (fun s call => BookCall.run executionIdOf s call)
    fun s call => BookCall.Admissible s call) new calls s

/-- If the order reaches a maker before it is filled, both are in time. -/
def MeetsInTime (orders : FMap OrderId OptionOrder) (incoming : OptionOrder) (now : TimestampMs) :
    Prop :=
  ∀ before maker after, rankedMakers orders incoming = before ++ maker :: after →
    liquidity before < incoming.size1e8 → incoming.inTime now ∧ maker.inTime now

section

variable {orders : FMap OrderId OptionOrder}

theorem meetsInTime_iff : MeetsInTime orders incoming now ↔
    ∀ t ∈ optionTrades orders incoming, incoming.inTime now ∧ t.maker.inTime now := by
  constructor
  · intro h t ht
    obtain ⟨before, after, hranked, hlt, -⟩ := mem_optionTrades_iff.1 ht
    exact h before t.maker after hranked hlt
  · intro h before maker after hranked hlt
    let size1e8 := min (incoming.size1e8 - liquidity before) maker.remainingSize1e8
    exact h ⟨maker, size1e8⟩ (mem_optionTrades_iff.2 ⟨before, after, hranked, hlt, rfl⟩)

/-- What holds of the fills of a match, told by its trades. -/
theorem forall_optionFillRecords {P : OptionFill → Prop} {Q : OptionTrade → Prop}
    {trades : List OptionTrade} (i : Nat)
    (h : ∀ t ∈ trades, ∀ fillId,
      P (optionFillFromMatch executionIdOf domain incoming t.maker t.size1e8 now fillId) ↔ Q t) :
    (∀ f ∈ optionFillRecords executionIdOf domain incoming now fillIds i trades, P f) ↔
      ∀ t ∈ trades, Q t := by
  induction trades generalizing i with
  | nil => simp [optionFillRecords]
  | cons t ts ih =>
    rw [optionFillRecords, forall_mem_cons, forall_mem_cons, h t mem_cons_self,
      ih _ fun u hu => h u (mem_cons_of_mem _ hu)]

/-- **The fills of a match are in time exactly if the orders meet in time.** -/
theorem matched_inTime_iff (hfiled : ∀ {id o}, orders.get? id = some o → o.orderId = id)
    (hnew : orders.get? incoming.orderId = none)
    (hrows : ∀ id, orders'.get? id = ((bookAfterTrades now (optionTrades orders incoming)
      orders).set incoming.orderId row).get? id)
    (hrow : row.inTime now = incoming.inTime now) :
    (∀ f ∈ optionFillRecords executionIdOf domain incoming now fillIds 0
      (optionTrades orders incoming), f.inTime orders') ↔ MeetsInTime orders incoming now := by
  rw [meetsInTime_iff]
  refine forall_optionFillRecords 0 fun t ht fillId => ?_
  have hmaker : orders'.get? t.maker.orderId = some (t.makerRow now) := by
    rw [hrows, get?_set_ne _ (maker_ne_incoming hfiled hnew ht)]
    exact get?_setAll_of_mem (nodup_optionTrades hfiled incoming) ht orders
  have hincoming : orders'.get? incoming.orderId = some row := by rw [hrows, get?_set_self]
  have hkept : (t.makerRow now).inTime now = t.maker.inTime now := rfl
  simp [OptionFill.inTime, optionFillFromMatch, hmaker, hincoming, hrow, hkept, and_comm]

end

/-- **The fills of a submit are in time exactly if the orders meet in time**, in memory
and with a database, whatever submits, cancels and sweeps came before. -/
theorem fills_in_time_iff (executionIdOf : ExecutionIdOf) (svc : OptionsService) :
    (∀ calls s, BookRun executionIdOf calls s →
      ∀ incoming fillIds now, BookCall.Admissible s (.submit incoming fillIds now) →
      ∀ taker fills s',
        submitOrderAndMatch executionIdOf fillIds now incoming s = (.ok (taker, fills), s') →
        ((∀ f ∈ fills, f.inTime s'.orders) ↔ MeetsInTime s.orders incoming now)) ∧
    ∀ start requests db,
      Run (fun db request db' => OptionRequest.Step svc db request db') (.start start) requests db →
      ∀ (call : OptionSubmit) taker fills db', call.act svc db = (.ok (taker, fills), db') →
        ((∀ f ∈ fills, f.inTime db'.orders) ↔ MeetsInTime db.orders (call.order svc) call.now) := by
  constructor
  · intro calls s hrun incoming fillIds now hok taker fills s' h
    have hs : s.Valid := by
      refine Run.invariant (P := Valid) hrun valid_new ?_
      rintro s call s' hs ⟨hok, rfl⟩
      exact hs.call executionIdOf hok
    rcases submit_cases hs hok.2.1 with ⟨e, hrefused⟩ | ⟨row, trades, hmatch, hmatched⟩
    · cases hrefused.symm.trans h
    cases hmatched.symm.trans h
    obtain ⟨rfl, rfl, -, -⟩ := referenceMatch_eq_ok.1 hmatch
    exact matched_inTime_iff (fun h' => hs.filed h') hok.1 (fun _ => rfl)
      (congr_terms (inTime now) terms_settledTaker)
  · intro start requests db hrun call taker fills db' h
    have hdb : Ledgered db := hrun.invariant (P := Ledgered) (ledgered_start start)
      fun hdb hstep => (hstep.ledgered hdb).1
    obtain ⟨series, harrival⟩ := arrival_of_ok hdb.filed h
    rw [harrival.recorded.fills_eq]
    have hrow : taker.inTime call.now = _ := congr_terms (inTime call.now) harrival.terms_eq
    exact matched_inTime_iff hdb.filed harrival.fresh (harrival.get?_after hdb) hrow

namespace LapsingOffer

/-- Five are offered until the time 10. -/
def ask : BookCall := .submit { plainOrder 1 "0xa" .sell 100 5 with deadlineMs := some 10 } id 0

/-- Two of them are bid for. -/
def bid : OptionOrder := plainOrder 2 "0xb" .buy 100 2

def offered : OptionSeriesStore := ask.run (fun _ _ _ _ => "") new

theorem run_ask : BookRun (fun _ _ _ _ => "") [ask] offered :=
  Run.start.snoc ⟨⟨rfl, rfl, by decide, rfl, fun _ _ h => h, fun _ => rfl⟩, rfl⟩

/-- **An offer is taken past its deadline.** -/
theorem filled_past_deadline : ∃ calls s taker fills s',
    BookRun (fun _ _ _ _ => "") calls s ∧ BookCall.Admissible s (.submit bid id 20) ∧
    submitOrderAndMatch (fun _ _ _ _ => "") id 20 bid s = (.ok (taker, fills), s') ∧
    ¬ ∀ f ∈ fills, f.inTime s'.orders :=
  ⟨_, offered, _, _, _, run_ask, ⟨by decide +kernel, rfl, by decide, rfl, fun _ _ h => h,
    fun _ => rfl⟩, rfl, by decide +kernel⟩

/-- Before it, all is well. -/
theorem fills_in_time_iff_before : MeetsInTime offered.orders bid 5 ∧ ∃ taker fills s',
    submitOrderAndMatch (fun _ _ _ _ => "") id 5 bid offered = (.ok (taker, fills), s') ∧
    fills.length = 1 ∧ ∀ f ∈ fills, f.inTime s'.orders := by
  have hmeets : MeetsInTime offered.orders bid 5 := by
    rw [meetsInTime_iff]
    decide +kernel
  refine ⟨hmeets, _, _, _, rfl, by decide +kernel, ?_⟩
  exact ((fills_in_time_iff _ HeldBook.svc).1 _ _ run_ask bid id 5 ⟨by decide +kernel, rfl, by decide,
    rfl, fun _ _ h => h, fun _ => rfl⟩ _ _ _ rfl).2 hmeets

end LapsingOffer

end DeoptBackend
