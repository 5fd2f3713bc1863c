import DeoptBackend.Orderbook.Invariant
import DeoptBackend.Lib.Greedy

/-!
# Price-time priority

What the book is for, said without levels, locations or a loop: the resting
orders are one list, in the order in which they came to rest, and a taker is
filled from the opposite side of that list, best price first, equal prices in
the order of the list.

* `Reference.submit` — the reference matcher.  It ranks the makers once, fills
  the taker greedily, and appends what is left of a good-till-cancelled taker.
* `Represents` — a book and a list of resting orders are the same thing: each
  queue is the list cut down to its side and price, with the same rows.
* `Fills.refines` — the match loop, which looks for the best maker again after
  every fill, makes the fills of the reference.
* `submit_refines_reference` — for whole runs: the book a run leads to is the
  list the reference keeps of the same calls, and an accepted submit returns
  the reference's trades and leaves the reference's list.
-/

namespace DeoptBackend

open OrderBook List FMap

/-! ## The reference matcher -/

namespace Reference

/-- Is a maker's price acceptable to a taker with this limit?  With another
maker's price as the limit: is the first price at least as good? -/
def Willing (takerSide : Side) (price limit : Nat) : Prop :=
  match takerSide with
  | .buy => price ≤ limit
  | .sell => limit ≤ price

instance (takerSide : Side) (price limit : Nat) : Decidable (Willing takerSide price limit) :=
  match takerSide with
  | .buy => inferInstanceAs (Decidable (price ≤ limit))
  | .sell => inferInstanceAs (Decidable (limit ≤ price))

/-- The orders a taker can meet, best price first and, within a price, in the
order in which they came to rest. -/
def listing (takerSide : Side) (resting : List Order) : List Order :=
  (resting.filter fun o => o.side = takerSide.opposite).insertionSort
    fun a b => Willing takerSide a.price1e8 b.price1e8

variable (taker : Order) (resting : List Order)

/-- The makers a taker is filled from, with the size each gives. -/
def fills : List (Order × Nat) :=
  greedy Order.remainingSize1e8 (fun o => !decide (Willing taker.side o.price1e8 taker.price1e8))
    (listing taker.side resting) taker.remainingSize1e8

def leftover (taker : Order) (fs : List (Order × Nat)) : Nat :=
  taker.remainingSize1e8 - (fs.map Prod.snd).sum

/-- The resting orders after a maker has given so much: a maker that has given
everything leaves, another keeps its place. -/
def takeFrom (resting : List Order) (maker : Order) (n : Nat) : List Order :=
  if maker.remainingSize1e8 ≤ n then resting.filter fun o => o.orderId ≠ maker.orderId
  else resting.map fun o => if o.orderId = maker.orderId then fillRow maker n else o

/-- The taker when it is done: filled, resting with what is left, or dropped. -/
def settled (taker : Order) (fs : List (Order × Nat)) : Order :=
  if leftover taker fs = 0 then (taker.withRemaining 0).withStatus .filled
  else match taker.timeInForce with
    | .gtc => (taker.withRemaining (leftover taker fs)).withStatus
        (if fs.isEmpty then .open else .partiallyFilled)
    | _ => (taker.withRemaining 0).withStatus
        (if fs.isEmpty then .cancelled else .partiallyFilled)

/-- What the reference makes of a submit. -/
structure Result where
  trades : List TradeMatch
  /-- The makers, each after its fill. -/
  updates : List Order
  taker : Order
  resting : List Order

variable (marketId : MarketId)

/-- The reference matcher. -/
def submit (clock : Nat → TimestampMs) (taker : Order) (resting : List Order) : Result :=
  let fs := fills taker resting
  let left := fs.foldl (fun r f => takeFrom r f.1 f.2) resting
  { trades := fs.mapIdx fun i f => tradeOf marketId taker f.1 f.2 (clock i)
    updates := fs.map fun f => fillRow f.1 f.2
    taker := settled taker fs
    resting :=
      if leftover taker fs ≠ 0 ∧ taker.timeInForce = .gtc then left ++ [settled taker fs]
      else left }

/-- Is there an order on the other side, at an acceptable price, that passes a
test? -/
def meets (test : Order → Bool) : Bool :=
  resting.any fun o => decide (o.side = taker.side.opposite) &&
    decide (Willing taker.side o.price1e8 taker.price1e8) && test o

/-- The orders the venue takes: no zero, no fill-or-kill, no post-only order that
would trade, no order that would meet its own account. -/
def accepts : Bool :=
  decide (taker.price1e8 ≠ 0 ∧ taker.size1e8 ≠ 0 ∧ taker.remainingSize1e8 ≠ 0) &&
    decide (taker.timeInForce ≠ .fok) &&
    !(taker.postOnly && meets taker resting fun _ => true) &&
    !meets taker resting fun o => o.account == taker.account

def step (resting : List Order) : Call → List Order
  | .submit clock order =>
    if accepts order resting then (submit marketId clock order resting).resting else resting
  | .cancel id => resting.filter fun o => o.orderId ≠ id

/-- The resting orders after a run of calls, none resting at the start. -/
def run (calls : List Call) : List Order :=
  calls.foldl (step marketId) []

theorem run_snoc (calls : List Call) (c : Call) :
    run marketId (calls ++ [c]) = step marketId (run marketId calls) c := by
  simp [run]

theorem willing_iff_pricesCross : Willing s p q ↔ pricesCross s p q = true := by
  cases s <;> simp [Willing, pricesCross]

theorem willing_antisymm (h₁ : Willing s p q) (h₂ : Willing s q p) : p = q := by
  cases s with
  | buy => exact le_antisymm h₁ h₂
  | sell => exact le_antisymm h₂ h₁

end Reference

open Reference

/-! ## Books and lists of resting orders -/

def atPrice (s : Side) (p : Nat) (resting : List Order) : List Order :=
  resting.filter fun o => o.side = s ∧ o.price1e8 = p

/-- A book and a list of resting orders say the same: each queue is the list cut
down to its side and price, and the rows are the orders of the list. -/
structure Represents (b : OrderBook) (resting : List Order) : Prop where
  queue : ∀ s p, b.queue s p = (atPrice s p resting).map Order.orderId
  rows : ∀ o ∈ resting, b.orders.get? o.orderId = some o

variable {id : OrderId}

theorem mem_atPrice : o ∈ atPrice s p resting ↔ o ∈ resting ∧ o.side = s ∧ o.price1e8 = p := by
  simp [atPrice]

theorem Represents.new (marketId : MarketId) : Represents (OrderBook.new marketId) [] where
  queue := by intro s p; cases s <;> rfl
  rows := by simp

section

variable (hr : Represents b resting)
include hr

theorem Represents.located (h : Inv b) (ho : o ∈ resting) :
    b.locations.get? o.orderId = some ⟨o.side, o.price1e8⟩ := by
  rw [← h.queued_iff, hr.queue]
  exact mem_map_of_mem (mem_atPrice.2 ⟨ho, rfl, rfl⟩)

theorem Represents.ne_of_unlocated (h : Inv b) (hid : b.locations.get? id = none) (ho : o ∈ resting) :
    o.orderId ≠ id := by
  rintro rfl
  cases hid.symm.trans (hr.located h ho)

theorem Represents.queue_ne_nil (ho : o ∈ resting) (hside : o.side = s) :
    b.queue s o.price1e8 ≠ [] := by
  rw [hr.queue]
  exact ne_nil_of_mem (mem_map_of_mem (mem_atPrice.2 ⟨ho, hside, rfl⟩))

theorem Represents.eq_row (ho : o ∈ resting) (hrow : b.orders.get? o.orderId = some row) :
    o = row :=
  Option.some.inj ((hr.rows o ho).symm.trans hrow)

theorem Represents.eq_of_id (ho : o ∈ resting) (ho' : o' ∈ resting) (hid : o.orderId = o'.orderId) :
    o = o' :=
  hr.eq_row ho (hid ▸ hr.rows o' ho')

/-- Writing the row of an order that does not rest changes no resting order. -/
theorem Represents.putUnlocated (h : Inv b) (hloc : b.locations.get? o.orderId = none) :
    Represents (b.putRow o) resting where
  queue := by
    intro s p
    rw [← hr.queue s p, OrderBook.queue, level_putRow, OrderBook.queue]
  rows := by
    intro r hmem
    rw [orders_putRow, get?_set_ne _ (hr.ne_of_unlocated h hloc hmem)]
    exact hr.rows r hmem

/-- An order that leaves its queue leaves the list. -/
theorem Represents.remove (h : Inv b)
    (hq : Requeued b b' s p ((b.queue s p).erase id)) (hloc : b.locations.get? id = some ⟨s, p⟩)
    (hrows : ∀ j, j ≠ id → b'.orders.get? j = b.orders.get? j) :
    Represents b' (resting.filter fun o => o.orderId ≠ id) where
  queue := by
    intro s' p'
    have hcut : (atPrice s' p' (resting.filter fun o => o.orderId ≠ id)).map Order.orderId =
        (b.queue s' p').filter fun j => j ≠ id := by
      rw [hr.queue, atPrice, atPrice, filter_map, filter_comm]
      rfl
    rw [hcut]
    by_cases he : s' = s ∧ p' = p
    · obtain ⟨rfl, rfl⟩ := he
      rw [hq.queue_here, (h.nodup _ _).erase_eq_filter]
      exact filter_congr fun j _ => by by_cases hj : j = id <;> simp [hj]
    rw [hq.queue_there he]
    refine (filter_eq_self.2 fun j hj => ?_).symm
    rw [decide_eq_true_eq]
    rintro rfl
    cases hloc.symm.trans ((h.queued_iff _ _ _).1 hj)
    exact he ⟨rfl, rfl⟩
  rows := by
    intro o ho
    rw [mem_filter, decide_eq_true_eq] at ho
    rw [hrows _ ho.2]
    exact hr.rows o ho.1

/-- A maker that keeps something keeps its place. -/
theorem Represents.update (hmem : maker ∈ resting) :
    Represents (b.putRow (fillRow maker n))
      (resting.map fun o => if o.orderId = maker.orderId then fillRow maker n else o) where
  queue := by
    intro s p
    set f := fun o : Order => if o.orderId = maker.orderId then fillRow maker n else o
    have hkeep : ∀ o ∈ resting, (f o).orderId = o.orderId ∧ (f o).side = o.side ∧
        (f o).price1e8 = o.price1e8 := by
      intro o ho
      simp only [f]
      split
      · next he =>
          obtain rfl := hr.eq_of_id ho hmem he
          exact ⟨rfl, rfl, rfl⟩
      · exact ⟨rfl, rfl, rfl⟩
    have hcut : atPrice s p (resting.map f) = (atPrice s p resting).map f := by
      rw [atPrice, filter_map, atPrice]
      refine congrArg _ (filter_congr fun o ho => ?_)
      simp [hkeep o ho]
    rw [hcut, map_map, map_congr_left (g := Order.orderId), ← hr.queue s p, OrderBook.queue,
      level_putRow, OrderBook.queue]
    exact fun o ho => (hkeep o (mem_atPrice.1 ho).1).1
  rows := by
    intro o ho
    obtain ⟨o', ho', rfl⟩ := mem_map.1 ho
    rw [orders_putRow]
    by_cases he : o'.orderId = maker.orderId
    · rw [if_pos he, orderId_fillRow, get?_set_self]
    · rw [if_neg he, orderId_fillRow, get?_set_ne _ he]
      exact hr.rows o' ho'

/-- An order that comes to rest is the last of the list. -/
theorem Represents.rest (h : Inv b) (hloc : b.locations.get? o.orderId = none) :
    Represents ((b.restOrder o).putRow o) (resting ++ [o]) where
  queue := by
    intro s p
    have hq := requeued_restOrder b o
    change (b.restOrder o).queue s p = _
    rw [atPrice, filter_append, map_append]
    by_cases he : o.side = s ∧ o.price1e8 = p
    · obtain ⟨rfl, rfl⟩ := he
      rw [hq.queue_here, hr.queue, atPrice]
      simp
    · rw [hq.queue_there fun hs => he ⟨hs.1.symm, hs.2.symm⟩, hr.queue, atPrice]
      simp [he]
  rows := by
    intro r hmem
    rw [orders_putRow, orders_restOrder]
    rcases mem_append.1 hmem with hold | hnew
    · rw [get?_set_ne _ (hr.ne_of_unlocated h hloc hold)]
      exact hr.rows r hold
    · rw [mem_singleton.1 hnew, get?_set_self]

end

/-! ## The match loop makes the fills of the reference -/

/-- The maker the loop meets is the first of the listing, and without it the
listing is the rest. -/
theorem OrderBook.Best.listing_eq (hb : Best b s p maker rest) (hr : Represents b resting)
    (h : Inv b) :
    maker ∈ resting ∧ ∃ tl, listing s resting = maker :: tl ∧
      listing s (resting.filter fun o => o.orderId ≠ maker.orderId) = tl := by
  have hqueue := hb.queue
  rw [hr.queue, map_eq_cons_iff] at hqueue
  obtain ⟨m, tail, hat, hid, htail⟩ := hqueue
  have hmem : m ∈ resting := (mem_atPrice.1 (by rw [hat]; exact mem_cons_self)).1
  obtain rfl : m = maker := hr.eq_row hmem (hid ▸ hb.row)
  -- the list cut down to the side, split at the maker: nothing before it has its price
  obtain ⟨l₁, l₂, hsplit, hbefore, -, hafter⟩ : ∃ l₁ l₂,
      (resting.filter fun o => o.side = s.opposite) = l₁ ++ m :: l₂ ∧
      (∀ a ∈ l₁, ¬ a.price1e8 = m.price1e8) ∧ m.price1e8 = m.price1e8 ∧
      (l₂.filter fun o => o.price1e8 = m.price1e8) = tail := by
    have hcut : (resting.filter fun o => o.side = s.opposite).filter
        (fun o => o.price1e8 = m.price1e8) = m :: tail := by
      rw [← hat, atPrice, filter_filter]
      exact filter_congr fun o _ => by simp [and_comm]
    simpa using filter_eq_cons_iff.1 hcut
  have hgood : ∀ a ∈ l₁ ++ m :: l₂, Willing s m.price1e8 a.price1e8 := by
    intro a ha
    rw [← hsplit, mem_filter, decide_eq_true_eq] at ha
    exact willing_iff_pricesCross.2 (hb.best _ (hr.queue_ne_nil ha.1 ha.2))
  have hother : ∀ a ∈ l₁ ++ l₂, a.orderId ≠ m.orderId := by
    intro a ha hsame
    have hin : a ∈ resting := by
      have : a ∈ resting.filter fun o => o.side = s.opposite := by
        rw [hsplit]
        simp only [mem_append] at ha ⊢
        tauto
      exact (mem_filter.1 this).1
    obtain rfl := hr.eq_of_id hin hmem hsame
    rcases mem_append.1 ha with h₁ | h₂
    · exact hbefore a h₁ rfl
    -- a second copy further on would be queued twice
    have hnodup := h.nodup s.opposite a.price1e8
    rw [hb.queue, nodup_cons, ← htail, ← hafter] at hnodup
    exact hnodup.1 (mem_map_of_mem (mem_filter.2 ⟨h₂, by simp⟩))
  refine ⟨hmem, (l₁ ++ l₂).insertionSort fun a b => Willing s a.price1e8 b.price1e8, ?_, ?_⟩
  · rw [listing, hsplit]
    refine insertionSort_first _ ?_ ?_
    · intro a ha
      exact hgood a (mem_append_right _ (mem_cons_of_mem _ ha))
    · intro a ha hworse
      exact hbefore a ha (willing_antisymm hworse (hgood a (mem_append_left _ ha)))
  · rw [listing, filter_comm, hsplit, filter_append, filter_cons_of_neg (by simp),
      ← filter_append, filter_eq_self.2]
    intro a ha
    rw [decide_eq_true_eq]
    exact hother a ha

/-- Nothing crosses: the reference makes no fill either. -/
theorem Represents.fills_nil (hr : Represents b resting)
    (hstop : taker.remainingSize1e8 = 0 ∨ ∀ q, b.queue taker.side.opposite q ≠ [] →
      pricesCross taker.side q taker.price1e8 = false) : fills taker resting = [] := by
  rcases hstop with hzero | hcross
  · rw [fills, hzero, greedy_zero]
  cases hl : listing taker.side resting with
  | nil => rw [fills, hl]; rfl
  | cons m =>
    rw [fills, hl]
    refine greedy_stop ?_
    have hm : m ∈ resting.filter fun o => o.side = taker.side.opposite :=
      (mem_insertionSort _).1 (by rw [← listing, hl]; exact mem_cons_self)
    rw [mem_filter, decide_eq_true_eq] at hm
    simp [willing_iff_pricesCross, hcross m.price1e8 (hr.queue_ne_nil hm.1 hm.2)]

/-- A fill the reference makes, and what it leaves for the rest. -/
theorem OrderBook.Best.fills_cons (hb : Best b taker.side taker.price1e8 maker rest)
    (hr : Represents b resting) (h : Inv b) (hpos : 0 < taker.remainingSize1e8) :
    fills taker resting = (maker, fillSize taker maker) ::
      fills (taker.withRemaining (taker.remainingSize1e8 - fillSize taker maker))
        (takeFrom resting maker (fillSize taker maker)) := by
  obtain ⟨-, tl, hlist, hrest⟩ := hb.listing_eq hr h
  have hwill : (!decide (Willing taker.side maker.price1e8 taker.price1e8)) = false := by
    rw [Bool.not_eq_false', decide_eq_true_eq]
    exact willing_iff_pricesCross.2 hb.cross
  rw [fills, hlist, greedy_cons hpos (by exact hwill)]
  congr 1
  by_cases hfull : maker.remainingSize1e8 ≤ fillSize taker maker
  · rw [takeFrom, if_pos hfull, fills]
    simp only [Order.withRemaining_side, hrest]
    rfl
  -- a maker that keeps something has used the taker up
  have hzero : taker.remainingSize1e8 - fillSize taker maker = 0 := by
    simp only [fillSize] at hfull ⊢
    omega
  rw [hzero, fills]
  simp only [fillSize] at hzero
  simp [hzero]

/-- A fill moves the book and the list of resting orders together. -/
theorem OrderBook.Best.represents (hb : Best b s p maker rest) (hr : Represents b resting)
    (h : Inv b) (n : Nat) : Represents (b.afterFill maker n) (takeFrom resting maker n) := by
  by_cases hfull : maker.remainingSize1e8 ≤ n
  · have hzero : maker.remainingSize1e8 - n = 0 := by omega
    rw [takeFrom, if_pos hfull]
    refine hr.remove h (s := s.opposite) (p := maker.price1e8) ?_ (hb.located h) ?_
    · have := hb.requeued hzero
      rwa [hb.queue, erase_cons_head]
    · intro j hj
      rw [orders_afterFill, get?_set_ne _ hj]
  · have hpart : maker.remainingSize1e8 - n ≠ 0 := by omega
    rw [takeFrom, if_neg hfull, afterFill, if_neg hpart]
    exact hr.update (hb.listing_eq hr h).1

/-- **The loop makes the fills of the reference**, in the same order, and leaves
the resting orders the reference leaves. -/
theorem OrderBook.Fills.refines (hf : Fills clock b taker n b' taker' trades updates) :
    ∀ {resting : List Order}, Represents b resting → Inv b → trades = (fills taker resting).mapIdx
        (fun i f => tradeOf b.marketId taker f.1 f.2 (clock (n + i))) ∧
      updates = (fills taker resting).map (fun f => fillRow f.1 f.2) ∧
      taker'.remainingSize1e8 = leftover taker (fills taker resting) ∧
      Represents b' ((fills taker resting).foldl (fun r f => takeFrom r f.1 f.2) resting) := by
  induction hf with
  | done hstop =>
    intro resting hr _
    rw [hr.fills_nil hstop]
    exact ⟨rfl, rfl, by simp [leftover], hr⟩
  | @fill b b' taker taker' maker rest n trades updates hpos hbest _ ih =>
    intro resting hr h
    obtain ⟨htrades, hupdates, hleft, hrep⟩ :=
      ih (hbest.represents hr h (fillSize taker maker)) (h.afterFill hbest _)
    rw [hbest.fills_cons hr h hpos]
    refine ⟨?_, ?_, ?_, hrep⟩
    · rw [htrades, mapIdx_cons, marketId_afterFill]
      refine congrArg₂ _ rfl (congrArg₂ _ ?_ rfl)
      funext i f
      rw [Nat.add_assoc, Nat.add_comm 1 i]
      rfl
    · rw [hupdates, map_cons]
    · rw [hleft]
      simp only [leftover, Order.withRemaining_remainingSize1e8, map_cons, sum_cons]
      omega

/-! ## The reference takes what the book takes -/

theorem OrderBook.Inv.wouldMatch_iff (h : Inv b) (order : Order) :
    b.wouldMatch order = true ↔ ∃ q, b.queue order.side.opposite q ≠ [] ∧
      pricesCross order.side q order.price1e8 = true := by
  rw [wouldMatch]
  cases hbest : b.bestOppositePrice order.side with
  | none =>
    refine iff_of_false (by simp) ?_
    rintro ⟨q, hq, -⟩
    exact hq (queue_of_none (bestOppositePrice_none hbest q))
  | some best =>
    obtain ⟨⟨l, hl⟩, hmin⟩ := bestOppositePrice_some hbest
    constructor
    · intro hc
      exact ⟨best, h.queue_ne_nil hl, hc⟩
    · rintro ⟨q, hq, hc⟩
      obtain ⟨l', hl'⟩ := Inv.level_of_queue_ne hq
      exact pricesCross_trans (hmin q l' hl') hc

theorem OrderBook.wouldSelfTrade_iff (b : OrderBook) (order : Order) :
    b.wouldSelfTrade order = true ↔ ∃ q id maker, id ∈ b.queue order.side.opposite q ∧
      pricesCross order.side q order.price1e8 = true ∧ b.orders.get? id = some maker ∧
      maker.account = order.account := by
  simp only [wouldSelfTrade, any_eq_true, Bool.and_eq_true]
  constructor
  · rintro ⟨⟨q, l⟩, hmem, hc, id, hid, hrow⟩
    have hl : b.level order.side.opposite q = some l := get?_eq_some_iff.2 hmem
    cases hget : b.orders.get? id with
    | none => simp [hget] at hrow
    | some maker =>
      simp only [hget, beq_iff_eq] at hrow
      exact ⟨q, id, maker, by rw [queue_of_level hl]; exact hid, hc, hget, hrow⟩
  · rintro ⟨q, id, maker, hq, hc, hget, hacc⟩
    obtain ⟨l, hl⟩ := Inv.level_of_queue_ne (ne_nil_of_mem hq)
    rw [queue_of_level hl] at hq
    exact ⟨⟨q, l⟩, get?_eq_some_iff.1 hl, hc, id, hq, by simp [hget, hacc]⟩

theorem meets_iff :
    meets taker resting test = true ↔ ∃ o ∈ resting, o.side = taker.side.opposite ∧
      pricesCross taker.side o.price1e8 taker.price1e8 = true ∧ test o = true := by
  simp [meets, willing_iff_pricesCross, and_assoc]

section

variable (hr : Represents b resting)
include hr

theorem Represents.wouldMatch_eq (h : Inv b) (order : Order) :
    b.wouldMatch order = meets order resting fun _ => true := by
  rw [Bool.eq_iff_iff, h.wouldMatch_iff, meets_iff]
  constructor
  · rintro ⟨q, hq, hc⟩
    rw [hr.queue, ne_eq, map_eq_nil_iff] at hq
    obtain ⟨o, ho⟩ := exists_mem_of_ne_nil _ hq
    obtain ⟨hmem, hside, hprice⟩ := mem_atPrice.1 ho
    exact ⟨o, hmem, hside, by rw [hprice]; exact hc, rfl⟩
  · rintro ⟨o, hmem, hside, hc, -⟩
    exact ⟨o.price1e8, hr.queue_ne_nil hmem hside, hc⟩

theorem Represents.wouldSelfTrade_eq (order : Order) :
    b.wouldSelfTrade order = meets order resting fun o => o.account == order.account := by
  rw [Bool.eq_iff_iff, wouldSelfTrade_iff, meets_iff]
  constructor
  · rintro ⟨q, id, maker, hq, hc, hrow, hacc⟩
    rw [hr.queue, mem_map] at hq
    obtain ⟨o, ho, rfl⟩ := hq
    obtain ⟨hmem, hside, hprice⟩ := mem_atPrice.1 ho
    obtain rfl := hr.eq_row hmem hrow
    exact ⟨o, hmem, hside, by rw [hprice]; exact hc, by simp [hacc]⟩
  · rintro ⟨o, hmem, hside, hc, hacc⟩
    refine ⟨o.price1e8, o.orderId, o, ?_, hc, hr.rows o hmem, by simpa using hacc⟩
    rw [hr.queue]
    exact mem_map_of_mem (mem_atPrice.2 ⟨hmem, hside, rfl⟩)

theorem accepts_iff (h : Inv b) (order : Order) :
    accepts order resting = true ↔ validateOrder order = none ∧ order.timeInForce ≠ .fok ∧
      ¬(order.postOnly = true ∧ b.wouldMatch order = true) ∧ b.wouldSelfTrade order = false := by
  simp only [accepts, ← hr.wouldMatch_eq h, ← hr.wouldSelfTrade_eq, Bool.and_eq_true,
    decide_eq_true_eq, validateOrder_eq_none_iff, and_assoc]
  cases order.postOnly <;> simp

/-! ## Calls and whole runs -/

theorem Represents.live (h : Inv b) (ho : o ∈ resting) : Live o := by
  obtain ⟨r, hrow, -, -, hlive⟩ := h.row _ _ (hr.located h ho)
  exact hr.eq_row ho hrow ▸ hlive

/-- The makers of the reference all have something to give. -/
theorem Represents.fills_pos (h : Inv b) (taker : Order) : ∀ f ∈ fills taker resting, 0 < f.2 := by
  refine greedy_pos fun o ho => (hr.live h ?_).remaining_pos
  exact (mem_filter.1 ((mem_insertionSort _).1 ho)).1

end

theorem leftover_lt_iff (hpos : ∀ f ∈ fs, 0 < f.2) (hrem : 0 < taker.remainingSize1e8) :
    leftover taker fs < taker.remainingSize1e8 ↔ fs ≠ [] := by
  cases fs with
  | nil => simp [leftover]
  | cons f =>
    have := hpos f mem_cons_self
    simp only [leftover, map_cons, sum_cons]
    refine iff_of_true ?_ (by simp)
    omega

/-- The taker that leaves the book is the taker of the reference, and the book
it leaves is the list of the reference. -/
theorem OrderBook.Settled.refines (hs : Settled b₁ taker trades b₂ final)
    (htaker : taker = (order.withStatus .open).withRemaining (leftover order fs))
    (htrades : trades.isEmpty = fs.isEmpty) (hfull : order.remainingSize1e8 = order.size1e8)
    (hlt : leftover order fs < order.remainingSize1e8 ↔ fs ≠ []) (hr : Represents b₁ left)
    (h : Inv b₁) (hloc : b₁.locations.get? order.orderId = none) :
    final = settled order fs ∧ Represents b₂
      (if leftover order fs ≠ 0 ∧ order.timeInForce = .gtc then left ++ [settled order fs]
        else left) := by
  subst htaker
  cases hs with
  | filled hzero =>
    change leftover order fs = 0 at hzero
    rw [settled, if_pos hzero, if_neg (by simp [hzero]), hzero]
    exact ⟨rfl, hr.putUnlocated h hloc⟩
  | rested hpos htif =>
    change 0 < leftover order fs at hpos
    change order.timeInForce = .gtc at htif
    have hne : leftover order fs ≠ 0 := by omega
    have hstatus : takerStatus ((order.withStatus .open).withRemaining (leftover order fs)) =
        if fs.isEmpty then .open else .partiallyFilled := by
      simp only [takerStatus, Order.withRemaining_remainingSize1e8, hne,
        Order.withRemaining_size1e8, Order.withStatus_size1e8, ← hfull, hlt]
      cases fs <;> simp
    have hset : settled order fs = (order.withRemaining (leftover order fs)).withStatus
        (if fs.isEmpty then .open else .partiallyFilled) := by
      rw [settled, if_neg hne, htif]
    rw [if_pos ⟨hne, htif⟩, hset, hstatus]
    refine ⟨rfl, hr.rest h ?_⟩
    exact hloc
  | dropped hpos htif =>
    change 0 < leftover order fs at hpos
    change order.timeInForce = .ioc at htif
    have hne : leftover order fs ≠ 0 := by omega
    have hset : settled order fs = (order.withRemaining 0).withStatus
        (if fs.isEmpty then .cancelled else .partiallyFilled) := by
      rw [settled, if_neg hne, htif]
    have hdrop : ¬(leftover order fs ≠ 0 ∧ order.timeInForce = .gtc) := by simp [htif]
    rw [if_neg hdrop, hset, htrades]
    exact ⟨rfl, hr.putUnlocated h hloc⟩

/-- What the reference says of a submit that the book accepts. -/
structure Agrees (b : OrderBook) (order : Order) (res : OrderSubmitResult) (b' : OrderBook)
    (ref : Reference.Result) : Prop where
  trades : res.trades = ref.trades
  /-- The same makers, each after its fill. -/
  updates : res.makerOrderUpdates = ref.updates
  taker : res.order = ref.taker
  book : Represents b' ref.resting
  /-- Nothing else is touched. -/
  frame : ∀ id, id ≠ order.orderId → (∀ t ∈ res.trades, t.makerOrderId ≠ id) →
    b'.locations.get? id = b.locations.get? id ∧ b'.orders.get? id = b.orders.get? id

/-- **An accepted submit is the reference's.** -/
theorem Represents.submit_agrees (hr : Represents b resting) (h : Inv b)
    (hnew : b.orders.get? order.orderId = none) (hfull : order.remainingSize1e8 = order.size1e8)
    (hs : Submitted clock b order b' (.ok r)) :
    Agrees b order r b' (Reference.submit b.marketId clock order resting) := by
  have hloc := h.unlocated_of_new hnew
  cases hs with
  | @accepted b₁ _ taker final trades updates hvalid _ _ _ hfills hsettled =>
    have hopen : Inv (b.putRow (order.withStatus .open)) := h.setUnlocated hloc
    have hrep : Represents (b.putRow (order.withStatus .open)) resting := hr.putUnlocated h hloc
    obtain ⟨htrades, hupdates, hleft, hbook⟩ := hfills.refines hrep hopen
    -- the fills of the open taker are the fills of the order as it was sent
    change trades = (fills order resting).mapIdx
      (fun i f => tradeOf b.marketId order f.1 f.2 (clock (0 + i))) at htrades
    change taker.remainingSize1e8 = leftover order (fills order resting) at hleft
    have htaker : taker =
        (order.withStatus .open).withRemaining (leftover order (fills order resting)) := by
      rw [← hleft]
      exact hfills.taker_eq
    have hrem : 0 < order.remainingSize1e8 :=
      Nat.pos_of_ne_zero (validateOrder_eq_none_iff.1 hvalid).2.2
    obtain ⟨hfinal, hlist⟩ := hsettled.refines htaker
      (by rw [htrades]; cases fills order resting <;> simp) hfull
      (leftover_lt_iff (hr.fills_pos h order) hrem) hbook (hfills.inv hopen)
      (hfills.unlocated hopen hloc).1
    refine ⟨?_, hupdates, hfinal, hlist, ?_⟩
    · rw [htrades]
      simp only [Nat.zero_add]
      rfl
    · intro id hid hmaker
      have h₁ := hsettled.frame (show id ≠ taker.orderId by rw [htaker]; exact hid)
      have h₂ := hfills.frame id hmaker
      refine ⟨h₁.1.trans h₂.1, (h₁.2.trans h₂.2).trans ?_⟩
      exact get?_set_ne _ hid _

theorem OrderBook.Call.run_marketId (h : Inv b) {c : Call} (hc : c.Allowed b) :
    (c.run b).marketId = b.marketId := by
  cases c with
  | cancel id =>
    rcases cancel_spec h id with ⟨-, heq⟩ | ⟨o, b', -, -, -, -, -, hmarket, heq⟩
    · rw [Call.run, heq]
    · rw [Call.run, heq]
      exact hmarket
  | submit clock order =>
    have hspec := submit_spec h clock (h.unlocated_of_new hc.1)
    rw [Call.run]
    generalize (b.submit clock order).1 = b', (b.submit clock order).2 = r at hspec
    cases hspec with
    | invalid => rfl
    | rejected => rfl
    | accepted _ _ _ _ hfills hsettled =>
      cases hsettled with
      | filled => exact hfills.marketId
      | dropped => exact hfills.marketId
      | rested => exact (marketId_restOrder _ _).trans hfills.marketId

/-- A call moves the book and the list of the reference together. -/
theorem Represents.call (hr : Represents b resting) (h : Inv b) (hc : c.Allowed b) :
    Represents (c.run b) (Reference.step b.marketId resting c) := by
  cases c with
  | cancel id =>
    rw [Call.run, Reference.step]
    rcases cancel_spec h id with ⟨hloc, heq⟩ | ⟨o, b', hloc, -, hq, -, hrows, -, heq⟩
    · -- nothing rests under that id, so the list has nothing to lose
      rw [heq, filter_eq_self.2]
      · exact hr
      · exact fun o ho => decide_eq_true (hr.ne_of_unlocated h hloc ho)
    · rw [heq]
      refine hr.remove h hq hloc ?_
      intro j hj
      rw [hrows, get?_set_ne _ hj]
  | submit clock order =>
    have hloc := h.unlocated_of_new hc.1
    have hspec := submit_spec h clock hloc
    have hiff := accepts_iff hr h order
    rw [Call.run, Reference.step]
    generalize (b.submit clock order).1 = b', (b.submit clock order).2 = r at hspec
    cases hspec with
    | invalid hvalid =>
      rw [if_neg (by rw [hiff, hvalid]; simp)]
      exact hr
    | rejected _ hwhy =>
      have hno : ¬ accepts order resting = true := by
        rw [hiff]
        rintro ⟨-, htif, hpost, hself⟩
        rcases hwhy with ⟨h₁, -⟩ | ⟨h₁, -⟩ | ⟨h₁, -⟩
        · exact htif h₁
        · exact hpost h₁
        · cases hself.symm.trans h₁
      rw [if_neg hno]
      exact hr.putUnlocated h hloc
    | accepted hvalid htif hself hpost hfills hsettled =>
      rw [if_pos (hiff.2 ⟨hvalid, htif, hpost, hself⟩)]
      exact (hr.submit_agrees h hc.1 hc.2
        (.accepted hvalid htif hself hpost hfills hsettled)).book

/-- The book a run leads to is the list the reference keeps of the same calls. -/
theorem represents_of_run {marketId : MarketId} (hrun : Reached marketId calls b) :
    Inv b ∧ b.marketId = marketId ∧ Represents b (Reference.run marketId calls) := by
  refine hrun.traced (P := fun calls b =>
    Inv b ∧ b.marketId = marketId ∧ Represents b (Reference.run marketId calls))
    ⟨Inv.new marketId, rfl, Represents.new marketId⟩ ?_
  rintro cs t c u ⟨hinv, hmarket, hr⟩ ⟨hc, rfl⟩
  refine ⟨hinv.call hc, (Call.run_marketId hinv hc).trans hmarket, ?_⟩
  have := hr.call hinv hc
  rwa [hmarket, ← run_snoc] at this

/-- **Price-time priority.**  Whatever calls came before, the book is the list
of resting orders the reference keeps of them, and an accepted submit makes the
reference's trades and leaves the reference's list, touching no other order. -/
theorem submit_refines_reference {marketId : MarketId} {calls : List Call}
    (hrun : Reached marketId calls b) {clock : Nat → TimestampMs} {order : Order}
    (hnew : (Call.submit clock order).Allowed b) : Represents b (Reference.run marketId calls) ∧
      ∀ r, (b.submit clock order).2 = .ok r → Agrees b order r (b.submit clock order).1
        (Reference.submit marketId clock order (Reference.run marketId calls)) := by
  obtain ⟨hinv, hmarket, hr⟩ := represents_of_run hrun
  refine ⟨hr, ?_⟩
  intro r hok
  have hspec := submit_spec hinv clock (hinv.unlocated_of_new hnew.1)
  rw [hok] at hspec
  have := hr.submit_agrees hinv hnew.1 hnew.2 hspec
  rwa [hmarket] at this

/-- A buyer that meets two sellers, the cheaper one having arrived later. -/
theorem submit_refines_reference_two_makers : ∃ calls b r, Reached 1 calls b ∧
      (b.submit (fun _ => 7) (OrderBook.plainOrder 3 "buyer" .buy 6 9)).2 = .ok r ∧
      r.trades.map TradeMatch.price1e8 = [5, 6] ∧ r.trades.map TradeMatch.size1e8 = [4, 5] ∧
      Agrees b (OrderBook.plainOrder 3 "buyer" .buy 6 9) r
        (b.submit (fun _ => 7) (OrderBook.plainOrder 3 "buyer" .buy 6 9)).1
        (Reference.submit 1 (fun _ => 7) (OrderBook.plainOrder 3 "buyer" .buy 6 9)
          (Reference.run 1 calls)) := by
  have hrun : Reached 1
      [.submit (fun _ => 0) (OrderBook.plainOrder 1 "seller" .sell 6 10),
        .submit (fun _ => 0) (OrderBook.plainOrder 2 "other" .sell 5 4)] _ :=
    (Run.start.snoc ⟨by decide, rfl⟩).snoc ⟨by decide, rfl⟩
  exact ⟨_, _, _, hrun, rfl, by decide, by decide,
    (submit_refines_reference hrun (by decide)).2 _ rfl⟩

end DeoptBackend
