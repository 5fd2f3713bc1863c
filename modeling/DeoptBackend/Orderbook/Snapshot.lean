import DeoptBackend.Lib.Act
import DeoptBackend.Orderbook.Reference

/-!
# Depth snapshots

`OrderBook::snapshot` sums what is left of the orders at each price, with the plain
`Iterator::sum`, and lists the prices from the best one on.

* `Represents.snapshotLevels_eq` — what one side of a snapshot is, and when there is one.
* `snapshot_exact_iff` — a snapshot is exact just when every sum fits in a `u128`.
-/

namespace DeoptBackend

open OrderBook List

/-- `total_size_1e8` -/
def PriceLevel.totalSize1e8 (self : PriceLevel) (remainingSize : OrderId → Nat) :
    Except Fault Nat :=
  sumU128 (self.orderIds.map remainingSize)

structure BookSideSnapshot where
  price1e8 : Nat
  totalSize1e8 : Nat
  deriving DecidableEq

structure OrderBookSnapshot where
  marketId : MarketId
  bids : List BookSideSnapshot
  asks : List BookSideSnapshot
  deriving DecidableEq

namespace OrderBook

variable (self : OrderBook)

/-- `snapshot_level`.  Nothing is left of an order that has no row. -/
def snapshotLevel (price1e8 : Nat) (level : PriceLevel) :
    Except Fault (Option BookSideSnapshot) := do
  let total ← level.totalSize1e8 fun id =>
    ((self.orders.get? id).map Order.remainingSize1e8).getD 0
  return if 0 < total then some ⟨price1e8, total⟩ else none

/-- The levels of a side that have a total, in the order they are given in. -/
def snapshotLevels (levels : List (Sigma fun _ : Nat => PriceLevel)) :
    Except Fault (List BookSideSnapshot) :=
  levels.filterMapM fun e => self.snapshotLevel e.1 e.2

/-- `snapshot`.  The bids are read from the greatest price down, the asks from the least up. -/
def snapshot : Except Fault OrderBookSnapshot := do
  let bids ← self.snapshotLevels (self.bids.entries.insertionSort fun a b => a.1 ≥ b.1)
  let asks ← self.snapshotLevels (self.asks.entries.insertionSort fun a b => a.1 ≤ b.1)
  return ⟨self.marketId, bids, asks⟩

end OrderBook

def sizeAt (side : Side) (price : Nat) (resting : List Order) : Nat :=
  ((atPrice side price resting).map Order.remainingSize1e8).sum

/-- A list has one entry for each price of a side with a resting order, with all that is
left there, and the prices are strictly in order. -/
structure Exact (before : Nat → Nat → Prop) (side : Side) (resting : List Order)
    (entries : List BookSideSnapshot) : Prop where
  ordered : entries.Pairwise fun x y => before x.price1e8 y.price1e8
  mem_iff : ∀ price total, ⟨price, total⟩ ∈ entries ↔
    atPrice side price resting ≠ [] ∧ total = sizeAt side price resting

section

variable (hr : Represents b resting) (h : Inv b)
include hr h

/-- A price with resting orders has a level, and something is left there. -/
theorem Represents.occupied_iff : atPrice s p resting ≠ [] ↔ ∃ l, b.level s p = some l := by
  rw [ne_eq, ← map_eq_nil_iff (f := Order.orderId), ← hr.queue]
  exact ⟨Inv.level_of_queue_ne, fun ⟨_, hl⟩ => h.queue_ne_nil hl⟩

/-- A level is listed with all that is left there, if that fits. -/
theorem Represents.snapshotLevel_eq (hl : b.level s p = some l) :
    b.snapshotLevel p l = if sizeAt s p resting ≤ maxU128 then .ok (some ⟨p, sizeAt s p resting⟩)
      else .error (.panic "attempt to add with overflow") := by
  obtain ⟨o, ho⟩ := exists_mem_of_ne_nil _ ((hr.occupied_iff h).2 ⟨l, hl⟩)
  have hpos : 0 < sizeAt s p resting :=
    (hr.live h (mem_atPrice.1 ho).1).remaining_pos.trans_le (le_sum_of_mem (mem_map_of_mem ho))
  have hsum : (l.orderIds.map fun id =>
      ((b.orders.get? id).map Order.remainingSize1e8).getD 0).sum = sizeAt s p resting := by
    rw [← queue_of_level hl, hr.queue, map_map, sizeAt]
    refine congrArg _ (map_congr_left fun o ho => ?_)
    simp [hr.rows o (mem_atPrice.1 ho).1]
  rw [snapshotLevel, PriceLevel.totalSize1e8, sumU128, hsum]
  split
  · simp [hpos, bind, Except.bind, pure, Except.pure]
  · rfl

theorem Represents.snapshotLevels_eq (hes : ∀ e ∈ es, b.level s e.1 = some e.2) :
    b.snapshotLevels es =
      if ∀ e ∈ es, sizeAt s e.1 resting ≤ maxU128 then
        .ok (es.map fun e => ⟨e.1, sizeAt s e.1 resting⟩)
      else .error (.panic "attempt to add with overflow") := by
  induction es with
  | nil => rfl
  | cons e es ih =>
    obtain ⟨he, hes⟩ := forall_mem_cons.1 hes
    have ih := ih hes
    rw [snapshotLevels] at ih ⊢
    rw [filterMapM_cons, hr.snapshotLevel_eq h he, ih]
    by_cases hfits : sizeAt s e.1 resting ≤ maxU128
    · simp only [forall_mem_cons, hfits, true_and, if_true]
      split <;> rfl
    · simp only [forall_mem_cons, hfits, false_and, if_false]
      rfl

/-- One side: it has a list, and an exact one, just when every sum of the side fits. -/
theorem Represents.exact_iff [DecidableRel R] [Std.Total R] [IsTrans Nat R]
    (hQ : ∀ {p q}, R p q → p ≠ q → Q p q) : (∃ entries, b.snapshotLevels
        ((b.levels s).entries.insertionSort fun x y => R x.1 y.1) = .ok entries ∧
        Exact Q s resting entries) ↔ ∀ p, sizeAt s p resting ≤ maxU128 := by
  have htotal : Std.Total fun x y : Sigma fun _ : Nat => PriceLevel => R x.1 y.1 :=
    ⟨fun x y => Std.Total.total x.1 y.1⟩
  have htrans : IsTrans (Sigma fun _ : Nat => PriceLevel) fun x y => R x.1 y.1 :=
    ⟨fun x y z => IsTrans.trans x.1 y.1 z.1⟩
  have hord := (pairwise_insertionSort (fun x y => R x.1 y.1) (b.levels s).entries).and
    (pairwise_map.1 (((perm_insertionSort _ _).map _).nodup_iff.2 (AList.keys_nodup (b.levels s))))
  have hes := fun e : Sigma fun _ : Nat => PriceLevel =>
    (mem_insertionSort (fun x y => R x.1 y.1)).trans
    (FMap.get?_eq_some_iff (m := b.levels s) (k := e.1) (v := e.2)).symm
  generalize (b.levels s).entries.insertionSort (fun x y => R x.1 y.1) = es at hord hes ⊢
  have hall : (∀ e ∈ es, sizeAt s e.1 resting ≤ maxU128) ↔ ∀ p, sizeAt s p resting ≤ maxU128 := by
    refine ⟨fun hfits p => ?_, fun hfits e _ => hfits e.1⟩
    by_cases hnil : atPrice s p resting = []
    · simp [sizeAt, hnil]
    · obtain ⟨l, hl⟩ := (hr.occupied_iff h).1 hnil
      exact hfits ⟨p, l⟩ ((hes ⟨p, l⟩).2 hl)
  rw [hr.snapshotLevels_eq h fun e he => (hes e).1 he, ← hall]
  constructor
  · rintro ⟨entries, hok, -⟩
    by_contra hbig
    cases (if_neg hbig).symm.trans hok
  intro hfits
  refine ⟨_, if_pos hfits, pairwise_map.2 (hord.imp fun hp => hQ hp.1 hp.2), fun price total => ?_⟩
  rw [hr.occupied_iff h, mem_map]
  constructor
  · rintro ⟨e, he, heq⟩
    cases heq
    exact ⟨⟨_, (hes e).1 he⟩, rfl⟩
  · rintro ⟨⟨l, hl⟩, rfl⟩
    exact ⟨⟨price, l⟩, (hes ⟨price, l⟩).2 hl, rfl⟩

end

/-- **A snapshot is exact just when every sum of resting sizes fits.** -/
theorem snapshot_exact_iff {marketId : MarketId} {calls : List Call}
    (hrun : Reached marketId calls b) : (∃ snap, b.snapshot = .ok snap ∧
      Exact (· > ·) .buy (Reference.run marketId calls) snap.bids ∧
      Exact (· < ·) .sell (Reference.run marketId calls) snap.asks) ↔
    ∀ side price, sizeAt side price (Reference.run marketId calls) ≤ maxU128 := by
  obtain ⟨h, -, hr⟩ := represents_of_run hrun
  have hbid := hr.exact_iff h (s := .buy) (R := (· ≥ ·)) (Q := (· > ·)) fun hle hne =>
    lt_of_le_of_ne hle hne.symm
  have hask := hr.exact_iff h (s := .sell) (R := (· ≤ ·)) (Q := (· < ·)) lt_of_le_of_ne
  constructor
  · rintro ⟨snap, hok, hb, ha⟩ side
    obtain ⟨bids, hbids, hok⟩ := Except.bind_eq_ok.1 hok
    obtain ⟨asks, hasks, hok⟩ := Except.bind_eq_ok.1 hok
    cases hok
    cases side with
    | buy => exact hbid.1 ⟨_, hbids, hb⟩
    | sell => exact hask.1 ⟨_, hasks, ha⟩
  · intro hfits
    obtain ⟨bids, hbids, hb⟩ := hbid.2 (hfits .buy)
    obtain ⟨asks, hasks, ha⟩ := hask.2 (hfits .sell)
    exact ⟨⟨b.marketId, bids, asks⟩, Except.bind_eq_ok.2 ⟨_, hbids,
      Except.bind_eq_ok.2 ⟨_, hasks, rfl⟩⟩, hb, ha⟩

/-- Two asks at one price, and a bid. -/
theorem snapshot_exact_two_asks : ∃ calls b, Reached 1 calls b ∧
      b.snapshot = .ok ⟨1, [⟨4, 3⟩], [⟨5, 14⟩]⟩ ∧ ∃ snap, b.snapshot = .ok snap ∧
        Exact (· > ·) .buy (Reference.run 1 calls) snap.bids ∧
        Exact (· < ·) .sell (Reference.run 1 calls) snap.asks := by
  have hrun : Reached 1
      [.submit (fun _ => 0) (OrderBook.plainOrder 1 "seller" .sell 5 10),
        .submit (fun _ => 0) (OrderBook.plainOrder 2 "other" .sell 5 4),
        .submit (fun _ => 0) (OrderBook.plainOrder 3 "buyer" .buy 4 3)] _ :=
    ((Run.start.snoc ⟨by decide, rfl⟩).snoc ⟨by decide, rfl⟩).snoc ⟨by decide, rfl⟩
  refine ⟨_, _, hrun, by decide +kernel, (snapshot_exact_iff hrun).2 fun side price => ?_⟩
  refine ((filter_sublist.map _).sum_le_sum fun _ _ => Nat.zero_le _).trans ?_
  decide +kernel

/-- Two asks whose sizes fit one by one, but not together. -/
theorem snapshot_panics_of_large_level :
    ∃ calls b, Reached 1 calls b ∧ (∀ o ∈ Reference.run 1 calls, o.size1e8 ≤ maxU128) ∧
      b.snapshot = .error (.panic "attempt to add with overflow") := by
  have hrun : Reached 1
      [.submit (fun _ => 0) (OrderBook.plainOrder 1 "seller" .sell 5 maxU128),
        .submit (fun _ => 0) (OrderBook.plainOrder 2 "other" .sell 5 1)] _ :=
    (Run.start.snoc ⟨by decide, rfl⟩).snoc ⟨by decide, rfl⟩
  exact ⟨_, _, hrun, by decide +kernel, by decide +kernel⟩

end DeoptBackend
