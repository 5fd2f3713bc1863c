import DeoptBackend.Lib.FiniteMap
import DeoptBackend.Lib.Greedy
import DeoptBackend.Options.Types

/-!
# Planning a match (`src/options/store.rs`)

An arriving option order is planned before anything is written: the resting orders
it can match are ranked by price, age and identifier, and asked in that order for
what is still wanted.  The time in force and the post-only flag are checked against
the plan.

* `canMatch`, `sortMatchCandidates`, `buildOptionMatchPlan`, `enforceTifPlan`,
  `finalStatusForTif`, `stampInsertTerminalReason`, `optionFillFromMatch` — the
  functions of the source.
* `referenceMatch` — what a matcher is for: it refuses the order, or says what the
  order's row becomes and which resting orders it trades with, for how much.  Both
  matchers of the backend are compared with it.
* `buildOptionMatchPlan_eq` — the plan of the source is the reference's list of trades.
* `bookAfterTrades`, `optionFillRecords` — the resting orders after the trades, and the
  fills.
* `traded_whole` — if something of the order is left, every order that suits it was
  traded whole.
-/

namespace DeoptBackend

open List FMap

/-! ## The functions of the source -/

/-- The price of a resting order suits an arriving one. -/
def priceSuits : Side → Nat → Nat → Bool
  | .buy, incoming, resting => decide (incoming ≥ resting)
  | .sell, incoming, resting => decide (incoming ≤ resting)

/-- `can_match`. -/
def canMatch (incoming resting : OptionOrder) : Bool :=
  decide (incoming.optionSeriesId = resting.optionSeriesId) &&
    decide (incoming.side ≠ resting.side) && resting.status.isLive &&
    decide (0 < resting.remainingSize1e8) &&
    priceSuits incoming.side incoming.price1e8 resting.price1e8

def betterPrice : Side → Nat → Nat → Prop
  | .buy, p, q => p < q
  | .sell, p, q => q < p

instance (side : Side) (p q : Nat) : Decidable (betterPrice side p q) := by
  cases side <;> exact inferInstanceAs (Decidable (_ < _))

/-- The order in which a taker of a side meets the makers: best price, then oldest,
then identifier. -/
def matchBefore (takerSide : Side) (a b : OptionOrder) : Prop :=
  betterPrice takerSide a.price1e8 b.price1e8 ∨ (a.price1e8 = b.price1e8 ∧
    (a.createdAtMs < b.createdAtMs ∨
      (a.createdAtMs = b.createdAtMs ∧ a.orderId.uuid ≤ b.orderId.uuid)))
  deriving Decidable

instance (takerSide : Side) : Std.Total (matchBefore takerSide) :=
  ⟨fun a b => by cases takerSide <;> grind [matchBefore, betterPrice]⟩

instance (takerSide : Side) : IsTrans OptionOrder (matchBefore takerSide) :=
  ⟨fun a b c => by cases takerSide <;> grind [matchBefore, betterPrice]⟩

/-- `sort_match_candidates`. -/
def sortMatchCandidates (orders : List OptionOrder) (takerSide : Side) : List OptionOrder :=
  orders.insertionSort (matchBefore takerSide)

/-- `status_for_remaining`. -/
def statusForRemaining (size1e8 remainingSize1e8 : Nat) : OptionOrderStatus :=
  if remainingSize1e8 = 0 then .filled
  else if remainingSize1e8 < size1e8 then .partiallyFilled
  else .open

/-- One maker of a plan. -/
structure OptionMatchLeg where
  makerId : OrderId
  makerPrice1e8 : Nat
  /-- How much it gives. -/
  fillSize1e8 : Nat

/-- A plan: who gives how much, and how much that is altogether. -/
structure OptionMatchPlan where
  /-- The makers, in the order they are asked. -/
  legs : List OptionMatchLeg
  totalFillSize1e8 : Nat

/-- The loop of `build_option_match_plan`: `remaining` is what is still wanted. -/
def planLegs : List OptionOrder → Nat → List OptionMatchLeg
  | [], _ => []
  | maker :: makers, remaining =>
    if remaining = 0 then []
    else if min remaining maker.remainingSize1e8 = 0 then planLegs makers remaining
    else
      ⟨maker.orderId, maker.price1e8, min remaining maker.remainingSize1e8⟩ ::
        planLegs makers (remaining - min remaining maker.remainingSize1e8)

/-- `build_option_match_plan`. -/
def buildOptionMatchPlan (incoming : OptionOrder) (candidates : List OptionOrder) :
    OptionMatchPlan :=
  let legs := planLegs candidates incoming.size1e8
  ⟨legs, (legs.map (·.fillSize1e8)).sum⟩

variable (order : OptionOrder)

/-- `enforce_tif_plan`. -/
def enforceTifPlan (plan : OptionMatchPlan) : Except BackendError Unit :=
  if order.postOnly ∧ plan.legs ≠ [] then .error .postOnlyWouldMatch
  else if order.timeInForce = .fok ∧ plan.totalFillSize1e8 < order.size1e8 then
    .error .fokNotFillable
  else .ok ()

/-- `final_status_for_tif`. -/
def finalStatusForTif : OptionOrderStatus :=
  let base := statusForRemaining order.size1e8 order.remainingSize1e8
  match order.timeInForce with
  | .gtc => base
  | .ioc => if base = .open ∨ base = .partiallyFilled then .cancelled else base
  | .fok => base

/-- `stamp_insert_terminal_reason`. -/
def stampInsertTerminalReason : OptionOrder :=
  if order.status = .cancelled ∧ order.timeInForce = .ioc ∧ 0 < order.remainingSize1e8 then
    { order with
      terminalReasonCode := some TerminalReason.iocRemainderCancelled
      terminalReasonMessage := none
      terminalReasonSource := some TerminalReason.sourceTifPolicy }
  else order

/-- `option_fill_from_match`. -/
def optionFillFromMatch (executionIdOf : ExecutionIdOf) (domain : OptionsCanonicalDomain)
    (incoming maker : OptionOrder) (size1e8 : Nat) (createdAtMs : TimestampMs) (fillId : Uuid) :
    OptionFill :=
  let (buyOrder, sellOrder) := match incoming.side with
    | .buy => (incoming, maker)
    | .sell => (maker, incoming)
  { fillId := fillId
    optionSeriesId := incoming.optionSeriesId
    buyOrderId := buyOrder.orderId
    sellOrderId := sellOrder.orderId
    buyer := buyOrder.account
    seller := sellOrder.account
    buyerSubaccountId := buyOrder.subaccountId
    sellerSubaccountId := sellOrder.subaccountId
    makerOrderId := maker.orderId
    takerOrderId := incoming.orderId
    takerSide := incoming.side
    price1e8 := maker.price1e8
    size1e8 := size1e8
    canonicalExecutionId := canonicalExecutionIdForFill executionIdOf buyOrder.canonicalOrderHash
      sellOrder.canonicalOrderHash size1e8 domain
    createdAtMs := createdAtMs }

/-! ## What a matcher is for -/

/-- A resting order, as it stands, and how much of it is traded. -/
structure OptionTrade where
  maker : OptionOrder
  /-- How much it gives. -/
  size1e8 : Nat
  deriving DecidableEq

def OptionTrade.makerRow (now : TimestampMs) (t : OptionTrade) : OptionOrder :=
  t.maker.restated (t.maker.remainingSize1e8 - t.size1e8)
    (statusForRemaining t.maker.size1e8 (t.maker.remainingSize1e8 - t.size1e8)) now

def OptionTrade.leg (t : OptionTrade) : OptionMatchLeg :=
  ⟨t.maker.orderId, t.maker.price1e8, t.size1e8⟩

/-- How much a list of trades comes to. -/
def tradedSize (trades : List OptionTrade) : Nat := (trades.map (·.size1e8)).sum

/-- Ranked orders, asked one after the other for what is still wanted. -/
def tradesAlong (makers : List OptionOrder) (wanted1e8 : Nat) : List OptionTrade :=
  (greedy (·.remainingSize1e8) (fun _ => false) makers wanted1e8).map fun f => ⟨f.1, f.2⟩

/-- A resting order can trade with an arriving one: it is live, on the other side of
the same series, and its price suits. -/
def Suits (incoming resting : OptionOrder) : Prop :=
  resting.optionSeriesId = incoming.optionSeriesId ∧ resting.side = incoming.side.opposite ∧
    resting.status.isLive = true ∧ 0 < resting.remainingSize1e8 ∧
    priceSuits incoming.side incoming.price1e8 resting.price1e8 = true
  deriving Decidable

variable (orders : FMap OrderId OptionOrder) (incoming : OptionOrder)

/-- The resting orders an arriving one can trade with, ranked. -/
def rankedMakers : List OptionOrder :=
  (orders.vals.filter fun o => Suits incoming o).insertionSort (matchBefore incoming.side)

/-- The trades of an arriving order. -/
def optionTrades : List OptionTrade :=
  tradesAlong (rankedMakers orders incoming) incoming.size1e8

/-- The row an arriving order is stored with, after trades that come to `traded1e8`. -/
def settledTaker (incoming : OptionOrder) (traded1e8 : Nat) (now : TimestampMs) : OptionOrder :=
  let staged := { incoming with
    remainingSize1e8 := incoming.size1e8 - traded1e8
    updatedAtMs := now }
  stampInsertTerminalReason { staged with status := finalStatusForTif staged }

/-- **The reference matcher.**  A post-only order that would trade is refused, and so
is a fill-or-kill order that cannot be filled; any other is stored with what is left
of it, after its trades. -/
def referenceMatch (now : TimestampMs) : Except BackendError (OptionOrder × List OptionTrade) :=
  let trades := optionTrades orders incoming
  if incoming.postOnly ∧ trades ≠ [] then .error .postOnlyWouldMatch
  else if incoming.timeInForce = .fok ∧ tradedSize trades < incoming.size1e8 then
    .error .fokNotFillable
  else .ok (settledTaker incoming (tradedSize trades) now, trades)

def bookAfterTrades (now : TimestampMs) (trades : List OptionTrade)
    (orders : FMap OrderId OptionOrder) : FMap OrderId OptionOrder :=
  setAll (·.maker.orderId) (OptionTrade.makerRow now) trades orders

/-- The fills of a list of trades, the first with the `i`-th identifier drawn. -/
def optionFillRecords (executionIdOf : ExecutionIdOf) (domain : OptionsCanonicalDomain)
    (incoming : OptionOrder) (now : TimestampMs) (fillIds : Nat → Uuid) :
    Nat → List OptionTrade → List OptionFill
  | _, [] => []
  | i, t :: ts =>
    optionFillFromMatch executionIdOf domain incoming t.maker t.size1e8 now (fillIds i) ::
      optionFillRecords executionIdOf domain incoming now fillIds (i + 1) ts

section

variable {incoming : OptionOrder}

/-- A fill does not depend on what is left of the arriving order. -/
theorem optionFillFromMatch_congr (h : o.terms = incoming.terms) (maker : OptionOrder)
    (size1e8 : Nat) (fillId : Uuid) :
    optionFillFromMatch executionIdOf domain o maker size1e8 now fillId =
      optionFillFromMatch executionIdOf domain incoming maker size1e8 now fillId :=
  OptionOrder.congr_terms
    (fun o => optionFillFromMatch executionIdOf domain o maker size1e8 now fillId) h
    (fun o => by cases hs : o.side <;> simp [optionFillFromMatch, OptionOrder.terms, hs])

theorem optionFillRecords_congr (h : o.terms = incoming.terms) (i : Nat)
    (trades : List OptionTrade) : optionFillRecords executionIdOf domain o now fillIds i trades =
      optionFillRecords executionIdOf domain incoming now fillIds i trades := by
  induction trades generalizing i with
  | nil => rfl
  | cons t ts ih =>
    rw [optionFillRecords, optionFillRecords, ih, optionFillFromMatch_congr h]

theorem of_mem_optionFillRecords
    (hf : f ∈ optionFillRecords executionIdOf domain incoming now fillIds i trades) :
    ∃ t ∈ trades, ∃ fillId,
      f = optionFillFromMatch executionIdOf domain incoming t.maker t.size1e8 now fillId := by
  induction trades generalizing i with
  | nil => cases hf
  | cons t ts ih =>
    rcases mem_cons.1 hf with rfl | hf
    · exact ⟨t, mem_cons_self, fillIds i, rfl⟩
    · obtain ⟨u, hu, hrest⟩ := ih hf
      exact ⟨u, mem_cons_of_mem _ hu, hrest⟩

/-- What only depends on the two orders and the size is read off the trades. -/
theorem map_optionFillRecords (g : OrderId → OrderId → Nat → β) (i : Nat)
    (trades : List OptionTrade) :
    (optionFillRecords executionIdOf domain incoming now fillIds i trades).map
        (fun f => g f.makerOrderId f.takerOrderId f.size1e8) =
      trades.map fun t => g t.maker.orderId incoming.orderId t.size1e8 := by
  induction trades generalizing i with
  | nil => rfl
  | cons t ts ih =>
    rw [optionFillRecords, map_cons, ih, map_cons]
    rfl

theorem map_fillId_optionFillRecords (i : Nat) (trades : List OptionTrade) :
    (optionFillRecords executionIdOf domain incoming now fillIds i trades).map (·.fillId) =
      (range' i trades.length).map fillIds := by
  induction trades generalizing i with
  | nil => rfl
  | cons t ts ih =>
    rw [optionFillRecords, map_cons, ih, length_cons, range'_succ, map_cons]
    rfl

structure FreshFillIds (fillIds : Nat → Uuid) (fills : FMap Uuid OptionFill) : Prop where
  distinct : Function.Injective fillIds
  free : ∀ i, fills.get? (fillIds i) = none

theorem FreshFillIds.nodup (h : FreshFillIds fillIds fills) (i : Nat) (trades : List OptionTrade) :
    ((optionFillRecords executionIdOf domain incoming now fillIds i trades).map
      (·.fillId)).Nodup := by
  rw [map_fillId_optionFillRecords]
  exact Nodup.map h.distinct nodup_range'

theorem FreshFillIds.get?_eq_none (h : FreshFillIds fillIds fills)
    (hf : f ∈ optionFillRecords executionIdOf domain incoming now fillIds i trades) :
    fills.get? f.fillId = none := by
  have hid := mem_map_of_mem (f := fun f : OptionFill => f.fillId) hf
  rw [map_fillId_optionFillRecords] at hid
  obtain ⟨j, -, hj⟩ := mem_map.1 hid
  rw [← hj, h.free]

end

/-! ## The makers -/

section

variable {incoming : OptionOrder} {orders : FMap OrderId OptionOrder}

theorem canMatch_iff : canMatch incoming m = true ↔ Suits incoming m := by
  have hside : incoming.side ≠ m.side ↔ m.side = incoming.side.opposite := by
    cases incoming.side <;> cases m.side <;> simp [Side.opposite]
  simp [canMatch, Suits, hside, and_assoc, eq_comm (a := incoming.optionSeriesId)]

theorem matchBefore_antisymm (hab : matchBefore side a b) (hba : matchBefore side b a) :
    a.orderId = b.orderId := by
  have huuid : a.orderId.uuid = b.orderId.uuid := by
    cases side <;> grind [matchBefore, betterPrice]
  cases ha : a.orderId
  cases hb : b.orderId
  simpa [ha, hb] using huuid

theorem mem_rankedMakers :
    m ∈ rankedMakers orders incoming ↔ (∃ id, orders.get? id = some m) ∧ Suits incoming m := by
  rw [rankedMakers, mem_insertionSort, mem_filter, mem_vals, decide_eq_true_eq]

theorem pairwise_rankedMakers (orders : FMap OrderId OptionOrder) (incoming : OptionOrder) :
    (rankedMakers orders incoming).Pairwise (matchBefore incoming.side) :=
  pairwise_insertionSort _ _

theorem nodup_rankedMakers (hfiled : ∀ {id o}, orders.get? id = some o → o.orderId = id)
    (incoming : OptionOrder) : ((rankedMakers orders incoming).map (·.orderId)).Nodup := by
  have hall : (orders.vals.map (·.orderId)).Nodup := nodup_vals_map fun h => hfiled h
  exact (((perm_insertionSort _ _).map _).nodup_iff).2
    (hall.sublist (filter_sublist.map _))

/-- **The book determines the makers**, however it is laid out. -/
theorem rankedMakers_congr (hfiled : ∀ {id o}, orders.get? id = some o → o.orderId = id)
    (h : ∀ id, orders.get? id = orders'.get? id) (incoming : OptionOrder) :
    rankedMakers orders incoming = rankedMakers orders' incoming := by
  have hfiled' : ∀ {id o}, orders'.get? id = some o → o.orderId = id := by
    intro id o ho
    exact hfiled (by rw [h, ho])
  refine ranked_unique OptionOrder.orderId matchBefore_antisymm (pairwise_rankedMakers _ _)
    (pairwise_rankedMakers _ _) (nodup_rankedMakers hfiled incoming)
    (nodup_rankedMakers hfiled' incoming) fun m => ?_
  simp [mem_rankedMakers, h]

/-- What the source collects and sorts is the ranking. -/
theorem sortMatchCandidates_eq (orders : FMap OrderId OptionOrder) (incoming : OptionOrder) :
    sortMatchCandidates (orders.vals.filter (canMatch incoming)) incoming.side =
      rankedMakers orders incoming := by
  have hfilter : orders.vals.filter (canMatch incoming) =
      orders.vals.filter fun o => Suits incoming o := by
    refine filter_congr fun o _ => ?_
    rw [Bool.eq_iff_iff, canMatch_iff, decide_eq_true_eq]
  rw [sortMatchCandidates, hfilter, rankedMakers]

/-! ## The plan -/

theorem planLegs_eq (hpos : ∀ m ∈ makers, 0 < m.remainingSize1e8) :
    planLegs makers n = (tradesAlong makers n).map OptionTrade.leg := by
  induction makers generalizing n with
  | nil => rfl
  | cons m makers ih =>
    have hm := hpos m mem_cons_self
    rcases Nat.eq_zero_or_pos n with rfl | hn
    · simp [planLegs, tradesAlong]
    rw [planLegs, if_neg (by omega), if_neg (by omega),
      ih fun o ho => hpos o (mem_cons_of_mem _ ho), tradesAlong, tradesAlong,
      greedy_cons hn rfl, map_cons, map_cons]
    rfl

/-- **The plan of the source is the list of trades.** -/
theorem buildOptionMatchPlan_eq (orders : FMap OrderId OptionOrder) (incoming : OptionOrder) :
    buildOptionMatchPlan incoming (rankedMakers orders incoming) =
      ⟨(optionTrades orders incoming).map OptionTrade.leg,
        tradedSize (optionTrades orders incoming)⟩ := by
  have hlegs : planLegs (rankedMakers orders incoming) incoming.size1e8 =
      (optionTrades orders incoming).map OptionTrade.leg :=
    planLegs_eq fun m hm => (mem_rankedMakers.1 hm).2.2.2.2.1
  rw [buildOptionMatchPlan, hlegs, tradedSize, map_map]
  rfl

/-! ## The trades -/

/-- A trade is with a resting order that suits, for something, and for no more than
what is left of it. -/
theorem of_mem_optionTrades (hfiled : ∀ {id o}, orders.get? id = some o → o.orderId = id)
    (ht : t ∈ optionTrades orders incoming) :
    orders.get? t.maker.orderId = some t.maker ∧ Suits incoming t.maker ∧ 0 < t.size1e8 ∧
      t.size1e8 ≤ t.maker.remainingSize1e8 := by
  obtain ⟨f, hf, rfl⟩ := mem_map.1 ht
  obtain ⟨hmem, -, hle⟩ := greedy_mem f hf
  obtain ⟨⟨id, hid⟩, hsuits⟩ := mem_rankedMakers.1 hmem
  have hpos : 0 < f.2 := greedy_pos (fun m hm => (mem_rankedMakers.1 hm).2.2.2.2.1) f hf
  exact ⟨by rw [hfiled hid, hid], hsuits, hpos, hle⟩

theorem nodup_optionTrades (hfiled : ∀ {id o}, orders.get? id = some o → o.orderId = id)
    (incoming : OptionOrder) : ((optionTrades orders incoming).map (·.maker.orderId)).Nodup := by
  have hinitial : (greedy OptionOrder.remainingSize1e8 (fun _ => false)
      (rankedMakers orders incoming) incoming.size1e8).map (·.1) <+: rankedMakers orders incoming :=
    greedy_fst_initial _ _
  have hmap : (optionTrades orders incoming).map (·.maker.orderId) =
      ((greedy OptionOrder.remainingSize1e8 (fun _ => false) (rankedMakers orders incoming)
        incoming.size1e8).map (·.1)).map (·.orderId) := by
    simp only [optionTrades, tradesAlong, map_map]
    rfl
  rw [hmap]
  exact (nodup_rankedMakers hfiled incoming).sublist (hinitial.sublist.map _)

theorem tradedSize_along (makers : List OptionOrder) (n : Nat) :
    tradedSize (tradesAlong makers n) = min n (makers.map (·.remainingSize1e8)).sum := by
  have hgiven : ((greedy OptionOrder.remainingSize1e8 (fun _ => false) makers n).map (·.2)).sum =
      min n (makers.map (·.remainingSize1e8)).sum := greedy_total (fun _ _ => rfl) n
  rw [← hgiven, tradedSize, tradesAlong, map_map]
  rfl

theorem tradedSize_le (orders : FMap OrderId OptionOrder) (incoming : OptionOrder) :
    tradedSize (optionTrades orders incoming) ≤ incoming.size1e8 := by
  rw [optionTrades, tradedSize_along]
  omega

/-- **A residual leaves no maker behind**: if something of an arriving order is left,
every resting order that suits it was traded whole. -/
theorem traded_whole (hshort : tradedSize (optionTrades orders incoming) < incoming.size1e8)
    {id : OrderId} (hid : orders.get? id = some m) (hm : Suits incoming m) :
    ⟨m, m.remainingSize1e8⟩ ∈ optionTrades orders incoming := by
  have hsum : ((rankedMakers orders incoming).map (·.remainingSize1e8)).sum < incoming.size1e8 := by
    rw [optionTrades, tradedSize_along] at hshort
    omega
  rw [optionTrades, tradesAlong, greedy_short (fun _ _ => rfl) hsum, map_map]
  exact mem_map.2 ⟨m, mem_rankedMakers.2 ⟨⟨id, hid⟩, hm⟩, rfl⟩

/-! ## The book after a match -/

theorem referenceMatch_eq_ok :
    referenceMatch orders incoming now = .ok (taker, trades) ↔
      taker = settledTaker incoming (tradedSize trades) now ∧
        trades = optionTrades orders incoming ∧ (incoming.postOnly = true → trades = []) ∧
        (incoming.timeInForce = .fok → incoming.size1e8 ≤ tradedSize trades) := by
  simp only [referenceMatch]
  split
  · next hpost =>
      constructor
      · intro h
        cases h
      · rintro ⟨-, rfl, hnil, -⟩
        exact absurd (hnil hpost.1) hpost.2
  next hpost =>
    split
    · next hfok =>
        constructor
        · intro h
          cases h
        · rintro ⟨-, rfl, -, hfill⟩
          exact absurd (hfill hfok.1) (not_le.2 hfok.2)
    · next hfok =>
        simp only [Except.ok.injEq, Prod.mk.injEq]
        constructor
        · rintro ⟨rfl, rfl⟩
          exact ⟨rfl, rfl, fun hp => not_not.1 fun hne => hpost ⟨hp, hne⟩,
            fun hf => not_lt.1 fun hlt => hfok ⟨hf, hlt⟩⟩
        · rintro ⟨rfl, rfl, -, -⟩
          exact ⟨rfl, rfl⟩

/-- A row of the book after a match is the arriving order's, a maker's, or one that
was left alone. -/
theorem of_get?_matched {id : OrderId} (hnodup : (trades.map (·.maker.orderId)).Nodup)
    (ho : ((bookAfterTrades now trades orders).set incoming.orderId taker).get? id = some o) :
    (id = incoming.orderId ∧ o = taker) ∨
      (∃ t ∈ trades, id = t.maker.orderId ∧ o = t.makerRow now) ∨
      id ≠ incoming.orderId ∧ (∀ t ∈ trades, id ≠ t.maker.orderId) ∧ orders.get? id = some o := by
  rw [get?_set] at ho
  split at ho
  · next hid =>
      cases ho
      exact .inl ⟨hid, rfl⟩
  · next hid =>
      rcases of_get?_setAll hnodup ho with hmaker | ⟨hother, hrow⟩
      · exact .inr (.inl hmaker)
      · exact .inr (.inr ⟨hid, hother, hrow⟩)

/-- The name of a maker is not the arriving order's. -/
theorem maker_ne_incoming (hfiled : ∀ {id o}, orders.get? id = some o → o.orderId = id)
    (hnew : orders.get? incoming.orderId = none) (ht : t ∈ optionTrades orders incoming) :
    t.maker.orderId ≠ incoming.orderId := by
  intro heq
  have hrow := (of_mem_optionTrades hfiled ht).1
  rw [heq, hnew] at hrow
  cases hrow

/-- A row that was there is still there. -/
theorem exists_get?_matched {id : OrderId} (hnodup : (trades.map (·.maker.orderId)).Nodup)
    (h : ∃ o, orders.get? id = some o) :
    ∃ o, ((bookAfterTrades now trades orders).set incoming.orderId taker).get? id = some o := by
  obtain ⟨o, ho⟩ := h
  rw [get?_set]
  split
  · exact ⟨taker, rfl⟩
  by_cases hmaker : ∃ t ∈ trades, id = t.maker.orderId
  · obtain ⟨t, ht, rfl⟩ := hmaker
    exact ⟨t.makerRow now, get?_setAll_of_mem hnodup ht orders⟩
  · have hother : ∀ t ∈ trades, id ≠ t.maker.orderId := fun t ht heq => hmaker ⟨t, ht, heq⟩
    exact ⟨o, by rw [bookAfterTrades, get?_setAll_of_notMem hother, ho]⟩

end

end DeoptBackend
