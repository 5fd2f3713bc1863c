import DeoptBackend.Orderbook.Book
import DeoptBackend.Lib.Run

/-!
# The representation invariant of the book

The book keeps the same fact in several places: an order rests if its id is in
`locations`, if it is queued at the level its location names, and if its row is
open with something left to fill.  `Inv` says that the places agree, and that
bids stay below asks.

* `queue` — what is queued at a side and price, `[]` where there is no level;
  every operation is described by how it moves one queue (`Requeued`).
* `Inv.remove`, `Inv.rest`, `Inv.putRow` — the three ways
  the code moves the structures together, each keeping `Inv`.
* `Fills` — the rounds of the match loop; `matchLoop_spec` says the loop always
  ends, and ends in the book `Fills` describes.
* `submit_spec`, `cancel_spec` — what a call can do, guards included.
* `wellFormed_of_run` — the invariant, for whole runs of calls.
* `failure_atomic` — a call that fails changes nothing but a row.
-/

namespace DeoptBackend

open FMap PriceLevel

namespace OrderBook

variable {b : OrderBook} {id : OrderId}

/-! ## What an update leaves at each level -/

section

variable (b : OrderBook)

@[simp] theorem levels_setLevels_self (s : Side) (m : FMap Nat PriceLevel) :
    (b.setLevels s m).levels s = m := by
  cases s <;> rfl

theorem levels_setLevels_of_ne (h : s' ≠ s) (m : FMap Nat PriceLevel) :
    (b.setLevels s m).levels s' = b.levels s' := by
  cases s <;> cases s' <;> first | rfl | exact absurd rfl h

section

variable (s : Side) (m : FMap Nat PriceLevel)

@[simp] theorem locations_setLevels : (b.setLevels s m).locations = b.locations := by
  cases s <;> rfl

@[simp] theorem orders_setLevels : (b.setLevels s m).orders = b.orders := by
  cases s <;> rfl

@[simp] theorem marketId_setLevels : (b.setLevels s m).marketId = b.marketId := by
  cases s <;> rfl

end

@[simp] theorem locations_putRow (o : Order) : (b.putRow o).locations = b.locations := rfl

@[simp] theorem orders_putRow (o : Order) : (b.putRow o).orders = b.orders.set o.orderId o := rfl

@[simp] theorem marketId_putRow (o : Order) : (b.putRow o).marketId = b.marketId := rfl

@[simp] theorem level_putRow (o : Order) (s : Side) (p : Nat) :
    (b.putRow o).level s p = b.level s p := by
  cases s <;> rfl

end

@[simp] theorem orderId_fillRow (maker : Order) (n : Nat) :
    (fillRow maker n).orderId = maker.orderId := rfl

section

variable (b : OrderBook) (s : Side)

theorem level_setLevels (m : FMap Nat PriceLevel) (s' : Side) (p' : Nat) :
    (b.setLevels s m).level s' p' = if s' = s then m.get? p' else b.level s' p' := by
  by_cases h : s' = s
  · subst h; simp [level]
  · rw [if_neg h, level, levels_setLevels_of_ne b h, level]

/-- The ids queued at a side and price; none where there is no level. -/
def queue (self : OrderBook) (side : Side) (price : Nat) : List OrderId :=
  ((self.level side price).map orderIds).getD []

/-- `b'` has the levels of `b`, but for the queue at one side and price, which
is now `q`; a queue that is empty has no level. -/
structure Requeued (b b' : OrderBook) (s : Side) (p : Nat) (q : List OrderId) : Prop where
  here : b'.level s p = if q = [] then none else some ⟨q⟩
  there : ∀ s' p', ¬(s' = s ∧ p' = p) → b'.level s' p' = b.level s' p'

theorem level_levelMut (p : Nat) (f : PriceLevel → PriceLevel) (s' : Side) (p' : Nat) :
    (b.levelMut s p f).level s' p' =
      if s' = s ∧ p' = p then (b.level s p).map f else b.level s' p' := by
  rw [levelMut, level_setLevels]
  by_cases hs : s' = s
  · subst hs
    rw [if_pos rfl, get?_alter]
    simp [level]
  · simp [hs]

theorem level_removeEmptyLevel (p : Nat) (s' : Side) (p' : Nat) :
    (b.removeEmptyLevel s p).level s' p' =
      if s' = s ∧ p' = p then (b.level s p).filter (fun l => !l.isEmpty) else b.level s' p' := by
  unfold removeEmptyLevel
  cases hl : b.level s p with
  | none =>
    by_cases h : s' = s ∧ p' = p
    · obtain ⟨rfl, rfl⟩ := h; simp [hl]
    · simp [h]
  | some l =>
    by_cases he : l.isEmpty
    · simp only [he, if_true, level_setLevels]
      by_cases hs : s' = s
      · subst hs
        by_cases hp : p' = p
        · simp [hp, he, Option.filter]
        · simp [hp, get?_del_ne, level]
      · simp [hs]
    · by_cases h : s' = s ∧ p' = p
      · obtain ⟨rfl, rfl⟩ := h; simp [hl, he, Option.filter]
      · simp [he, h]

@[simp] theorem removeEmptyLevel_fields (p : Nat) :
    (b.removeEmptyLevel s p).locations = b.locations ∧ (b.removeEmptyLevel s p).orders = b.orders ∧
      (b.removeEmptyLevel s p).marketId = b.marketId := by
  unfold removeEmptyLevel
  cases b.level s p with
  | none => exact ⟨rfl, rfl, rfl⟩
  | some l => by_cases he : l.isEmpty <;> simp [he]

end

/-- Changing a level and dropping it if that empties it moves one queue. -/
theorem requeued_of_levels {c : OrderBook} (hl : b.level s p = some l)
    (h : ∀ s' p', c.level s' p' = (b.levelMut s p f).level s' p') :
    Requeued b (c.removeEmptyLevel s p) s p (f l).orderIds where
  here := by
    rw [level_removeEmptyLevel, if_pos ⟨rfl, rfl⟩, h, level_levelMut, if_pos ⟨rfl, rfl⟩, hl]
    simp [isEmpty, Option.filter]
  there := by
    intro s' p' hne
    rw [level_removeEmptyLevel, if_neg hne, h, level_levelMut, if_neg hne]

theorem queue_of_level {l : PriceLevel} (h : b.level s p = some l) : b.queue s p = l.orderIds := by
  simp [queue, h]

theorem queue_of_none (h : b.level s p = none) : b.queue s p = [] := by
  simp [queue, h]

theorem Requeued.queue_here (h : Requeued b b' s p q) : b'.queue s p = q := by
  rw [queue, h.here]
  by_cases hq : q = [] <;> simp [hq]

theorem Requeued.queue_there (h : Requeued b b' s p q) (hne : ¬(s' = s ∧ p' = p)) :
    b'.queue s' p' = b.queue s' p' := by
  rw [queue, h.there s' p' hne, queue]

/-- What holds of the new queue and of the others holds of all. -/
theorem Requeued.forall_queue {P : Side → Nat → List OrderId → Prop} (h : Requeued b b' s p q)
    (hq : P s p q) (hb : ∀ s' p', ¬(s' = s ∧ p' = p) → P s' p' (b.queue s' p')) :
    ∀ s' p', P s' p' (b'.queue s' p') := by
  intro s' p'
  by_cases he : s' = s ∧ p' = p
  · obtain ⟨rfl, rfl⟩ := he
    rwa [h.queue_here]
  · rw [h.queue_there he]
    exact hb s' p' he

theorem Requeued.putRow (h : Requeued b b' s p q) (o : Order) : Requeued b (b'.putRow o) s p q where
  here := by rw [level_putRow, h.here]
  there s' p' hne := by rw [level_putRow, h.there s' p' hne]

theorem Requeued.nonempty (h : Requeued b b' s p q)
    (hb : ∀ s p l, b.level s p = some l → l.orderIds ≠ []) :
    ∀ s p l, b'.level s p = some l → l.orderIds ≠ [] := by
  intro s' p' l hl
  by_cases he : s' = s ∧ p' = p
  · obtain ⟨rfl, rfl⟩ := he
    rw [h.here] at hl
    by_cases hq : q = []
    · simp [hq] at hl
    · rw [if_neg hq] at hl
      cases hl
      exact hq
  · rw [h.there s' p' he] at hl
    exact hb s' p' l hl

/-! ## The invariant -/

/-- A row that may rest: something is left to fill, and the row says so. -/
structure Live (o : Order) : Prop where
  /-- Something is left. -/
  remaining_pos : 0 < o.remainingSize1e8
  /-- No more than was asked for. -/
  remaining_le : o.remainingSize1e8 ≤ o.size1e8
  /-- The status of a resting order. -/
  status : o.status = .open ∨ o.status = .partiallyFilled

/-- The places that say where an order rests agree, and bids stay below asks. -/
structure Inv (b : OrderBook) : Prop where
  /-- An id is queued at a side and price just when its location says so. -/
  queued_iff : ∀ id s p, id ∈ b.queue s p ↔ b.locations.get? id = some ⟨s, p⟩
  /-- No queue holds an id twice. -/
  nodup : ∀ s p, (b.queue s p).Nodup
  nonempty : ∀ s p l, b.level s p = some l → l.orderIds ≠ []
  /-- A located order has a live row with the side and price of its location. -/
  row : ∀ id loc, b.locations.get? id = some loc →
    ∃ o, b.orders.get? id = some o ∧ o.side = loc.side ∧ o.price1e8 = loc.price1e8 ∧ Live o
  /-- A row is filed under its own id. -/
  keyed : ∀ id o, b.orders.get? id = some o → o.orderId = id
  /-- Every bid is below every ask. -/
  uncrossed : ∀ p q, b.queue .buy p ≠ [] → b.queue .sell q ≠ [] → p < q

theorem Inv.new (marketId : MarketId) : Inv (OrderBook.new marketId) where
  queued_iff := by intro id s p; cases s <;> simp [OrderBook.new, queue, level, levels]
  nodup := by intro s p; cases s <;> simp [OrderBook.new, queue, level, levels]
  nonempty := by intro s p l hl; cases s <;> simp [OrderBook.new, level, levels] at hl
  row := by intro id loc h; simp [OrderBook.new] at h
  keyed := by intro id o h; simp [OrderBook.new] at h
  uncrossed := by intro p q hp; simp [OrderBook.new, queue, level, levels] at hp

theorem Inv.level_of_queue_ne (h : b.queue s p ≠ []) : ∃ l, b.level s p = some l := by
  cases hl : b.level s p with
  | none => exact absurd (queue_of_none hl) h
  | some l => exact ⟨l, rfl⟩

theorem Inv.queue_ne_nil (h : Inv b) {l : PriceLevel} (hl : b.level s p = some l) :
    b.queue s p ≠ [] := by
  rw [queue_of_level hl]
  exact h.nonempty s p l hl

theorem Inv.keyed_set (h : Inv b) (o : Order) (id : OrderId) (r : Order)
    (hr : (b.orders.set o.orderId o).get? id = some r) : r.orderId = id :=
  forall_set hr rfl (h.keyed _ _)

/-- Writing a row keeps the invariant, if it is live and at its side and price in case
the order rests. -/
theorem Inv.putRow (h : Inv b) (ho : ∀ loc, b.locations.get? o.orderId = some loc →
      o.side = loc.side ∧ o.price1e8 = loc.price1e8 ∧ Live o) : Inv (b.putRow o) where
  queued_iff := h.queued_iff
  nodup := h.nodup
  nonempty := h.nonempty
  row := by
    intro id loc hid
    rw [orders_putRow, get?_set]
    split
    · next he => exact ⟨o, rfl, ho loc (he ▸ hid)⟩
    · exact h.row id loc hid
  keyed := h.keyed_set o
  uncrossed := h.uncrossed

theorem Inv.setUnlocated (h : Inv b) (hloc : b.locations.get? o.orderId = none) :
    Inv (b.putRow o) :=
  h.putRow fun _ hid => by cases hloc.symm.trans hid

/-- Taking a resting order out of its queue and out of `locations` keeps the
invariant, whatever becomes of its row. -/
theorem Inv.remove (h : Inv b) (hloc : b.locations.get? id = some ⟨s, p⟩)
    (hq : Requeued b b' s p ((b.queue s p).erase id)) (hlocs : b'.locations = b.locations.del id)
    {o : Order} (hrows : b'.orders = b.orders.set id o) (hid : o.orderId = id) : Inv b' where
  queued_iff := by
    intro j s' p'
    rw [hlocs, get?_del]
    by_cases hj : j = id
    · -- the order that left is in no queue: it was only in the one it is erased from
      subst hj
      refine iff_of_false ?_ (by simp)
      refine hq.forall_queue (P := fun _ _ q => j ∉ q) (h.nodup s p).not_mem_erase ?_ s' p'
      intro s' p' he
      rw [h.queued_iff, hloc]
      rintro ⟨⟩
      exact he ⟨rfl, rfl⟩
    · rw [if_neg hj, ← h.queued_iff]
      exact hq.forall_queue (P := fun s' p' q => j ∈ q ↔ j ∈ b.queue s' p')
        (List.mem_erase_of_ne hj) (fun _ _ _ => Iff.rfl) s' p'
  nodup := hq.forall_queue ((h.nodup s p).erase id) fun s' p' _ => h.nodup s' p'
  nonempty := hq.nonempty h.nonempty
  row := by
    intro j loc hj
    rw [hlocs, get?_del_eq_some] at hj
    rw [hrows, get?_set_ne _ hj.1]
    exact h.row j loc hj.2
  keyed := by
    rw [hrows, ← hid]
    exact h.keyed_set o
  uncrossed := by
    -- a queue that is not empty now was not empty before
    have hsub : ∀ s' p', b'.queue s' p' ≠ [] → b.queue s' p' ≠ [] := by
      refine hq.forall_queue (P := fun s' p' q => q ≠ [] → b.queue s' p' ≠ [])
        (fun hne hnil => hne ?_) fun _ _ _ hne => hne
      rw [hnil]
      rfl
    intro p' q' hp' hq'
    exact h.uncrossed p' q' (hsub _ _ hp') (hsub _ _ hq')

section

variable (b : OrderBook) (o : Order)

theorem requeued_restOrder :
    Requeued b (b.restOrder o) o.side o.price1e8 (b.queue o.side o.price1e8 ++ [o.orderId]) where
  here := by
    show (b.setLevels _ _).level _ _ = _
    rw [level_setLevels, if_pos rfl, get?_set_self, if_neg (by simp)]
    cases hl : b.level o.side o.price1e8 with
    | none => simp [pushBack, PriceLevel.new, queue_of_none hl]
    | some => simp [pushBack, queue_of_level hl]
  there := by
    intro s' p' hne
    show (b.setLevels _ _).level _ _ = _
    rw [level_setLevels]
    by_cases hs : s' = o.side
    · rw [if_pos hs, get?_set_ne _ (fun hp => hne ⟨hs, hp⟩), hs, level]
    · rw [if_neg hs]

@[simp] theorem orders_restOrder : (b.restOrder o).orders = b.orders :=
  orders_setLevels b _ _

@[simp] theorem marketId_restOrder : (b.restOrder o).marketId = b.marketId :=
  marketId_setLevels b _ _

@[simp] theorem locations_restOrder :
    (b.restOrder o).locations = b.locations.set o.orderId ⟨o.side, o.price1e8⟩ := by
  show (b.setLevels _ _).locations.set _ _ = _
  rw [locations_setLevels]

end

/-- Resting a live order that no opposite level crosses keeps the invariant. -/
theorem Inv.rest (h : Inv b) {o : Order} (hloc : b.locations.get? o.orderId = none) (hlive : Live o)
    (hcross : ∀ q, b.queue o.side.opposite q ≠ [] → pricesCross o.side q o.price1e8 = false) :
    Inv ((b.restOrder o).putRow o) := by
  have hq := (requeued_restOrder b o).putRow o
  have hlocs : ((b.restOrder o).putRow o).locations =
      b.locations.set o.orderId ⟨o.side, o.price1e8⟩ := locations_restOrder b o
  have hrows : ((b.restOrder o).putRow o).orders = b.orders.set o.orderId o := by simp
  refine ⟨fun j => ?_, ?_, hq.nonempty h.nonempty, fun j loc hj => ?_, ?_, fun p' q' hp' hq' => ?_⟩
  · rw [hlocs, get?_set]
    generalize hloc' : (if j = o.orderId then _ else _) = loc
    refine hq.forall_queue (P := fun s' p' q => j ∈ q ↔ loc = some ⟨s', p'⟩) ?_ fun s' p' he => ?_
    all_goals subst hloc'
    · rw [List.mem_append, h.queued_iff]
      by_cases hj : j = o.orderId <;> simp [hj]
    rw [h.queued_iff]
    by_cases hj : j = o.orderId
    · subst hj
      rw [hloc, if_pos rfl]
      refine iff_of_false (by simp) ?_
      rintro ⟨⟩
      exact he ⟨rfl, rfl⟩
    · rw [if_neg hj]
  · refine hq.forall_queue ?_ fun s' p' _ => h.nodup s' p'
    have hnew : o.orderId ∉ b.queue o.side o.price1e8 := by
      rw [h.queued_iff, hloc]
      simp
    exact List.nodup_append_comm.1 (List.nodup_cons.2 ⟨hnew, h.nodup _ _⟩)
  · rw [hlocs] at hj
    rw [hrows, get?_set]
    rcases get?_set_eq_some.1 hj with ⟨hid, rfl⟩ | ⟨hid, hold⟩
    · exact ⟨o, if_pos hid, rfl, rfl, hlive⟩
    · rw [if_neg hid]
      exact h.row j loc hold
  · rw [hrows]
    exact h.keyed_set o
  · have hold : ∀ s' p', ((b.restOrder o).putRow o).queue s' p' ≠ [] →
        (s' = o.side ∧ p' = o.price1e8) ∨ b.queue s' p' ≠ [] :=
      hq.forall_queue (P := fun s' p' q => q ≠ [] → _ ∨ b.queue s' p' ≠ [])
        (fun _ => .inl ⟨rfl, rfl⟩) fun _ _ _ hne => .inr hne
    rcases hold _ _ hp' with ⟨hsb, rfl⟩ | hbid
    · rcases hold _ _ hq' with ⟨hsa, -⟩ | hask
      · cases hsb.trans hsa.symm
      · have := hcross q' (by rw [← hsb]; exact hask)
        rw [← hsb] at this
        simpa [pricesCross] using this
    · rcases hold _ _ hq' with ⟨hsa, rfl⟩ | hask
      · have := hcross p' (by rw [← hsa]; exact hbid)
        rw [← hsa] at this
        simpa [pricesCross] using this
      · exact h.uncrossed p' q' hbid hask

/-! ## The order a taker meets -/

/-- What the match loop finds when it looks for a maker: the oldest order at the
best opposite price, which crosses the taker's. -/
structure Best (b : OrderBook) (s : Side) (p : Nat) (maker : Order)
    (rest : List OrderId) : Prop where
  queue : b.queue s.opposite maker.price1e8 = maker.orderId :: rest
  cross : pricesCross s maker.price1e8 p = true
  best : ∀ q, b.queue s.opposite q ≠ [] → pricesCross s maker.price1e8 q = true
  row : b.orders.get? maker.orderId = some maker
  side : maker.side = s.opposite
  /-- It can be filled. -/
  live : Live maker

theorem bestOppositePrice_none (h : b.bestOppositePrice s = none) (q : Nat) :
    b.level s.opposite q = none := by
  cases s with
  | buy => exact minKey?_eq_none_iff.1 h q
  | sell => exact maxKey?_eq_none_iff.1 h q

theorem bestOppositePrice_some (h : b.bestOppositePrice s = some best) :
    (∃ l, b.level s.opposite best = some l) ∧
      ∀ q l, b.level s.opposite q = some l → pricesCross s best q = true := by
  cases s with
  | buy =>
    obtain ⟨hl, hmin⟩ := minKey?_eq_some_iff.1 h
    exact ⟨hl, fun q l hq => decide_eq_true (hmin q l hq)⟩
  | sell =>
    obtain ⟨hl, hmax⟩ := maxKey?_eq_some_iff.1 h
    exact ⟨hl, fun q l hq => decide_eq_true (hmax q l hq)⟩

theorem pricesCross_trans {q r : Nat} (h₁ : pricesCross s p q = true)
    (h₂ : pricesCross s q r = true) : pricesCross s p r = true := by
  cases s <;> simp only [pricesCross, decide_eq_true_eq] at h₁ h₂ ⊢ <;> omega

/-- Nothing to match against means that no opposite price crosses. -/
theorem Inv.bestMatch_none (h : Inv b) (hm : b.bestMatchOrderId s p = none) (q : Nat)
    (hq : b.queue s.opposite q ≠ []) : pricesCross s q p = false := by
  obtain ⟨l, hl⟩ := Inv.level_of_queue_ne hq
  unfold bestMatchOrderId at hm
  cases hbest : b.bestOppositePrice s with
  | none => exact absurd (bestOppositePrice_none hbest q) (by simp [hl])
  | some best =>
    obtain ⟨⟨l₀, hl₀⟩, hmin⟩ := bestOppositePrice_some hbest
    by_cases hc : pricesCross s best p = true
    · -- the best level is there and not empty, so its front would have been found
      have hne := h.nonempty _ _ _ hl₀
      simp only [hbest, hc, if_true, hl₀, Option.bind_some, PriceLevel.front,
        List.head?_eq_none_iff] at hm
      exact absurd hm hne
    · by_contra hqc
      rw [Bool.not_eq_false] at hqc
      exact hc (pricesCross_trans (hmin q l hl) hqc)

/-- A match is the oldest order at the best price, with a live row. -/
theorem Inv.bestMatch_some (h : Inv b) (hm : b.bestMatchOrderId s p = some id) :
    ∃ maker rest, maker.orderId = id ∧ Best b s p maker rest := by
  unfold bestMatchOrderId at hm
  cases hbest : b.bestOppositePrice s with
  | none => simp [hbest] at hm
  | some best =>
    obtain ⟨⟨l, hl⟩, hmin⟩ := bestOppositePrice_some hbest
    by_cases hc : pricesCross s best p = true
    · simp only [hbest, hc, if_true, hl, Option.bind_some, PriceLevel.front] at hm
      obtain ⟨rest, hids⟩ := List.head?_eq_some_iff.1 hm
      have hqueue : b.queue s.opposite best = id :: rest := by rw [queue_of_level hl, hids]
      have hmem : id ∈ b.queue s.opposite best := by rw [hqueue]; exact List.mem_cons_self
      obtain ⟨maker, hrow, hside, hprice, hlive⟩ := h.row id _ ((h.queued_iff _ _ _).1 hmem)
      have hkey := h.keyed id maker hrow
      refine ⟨maker, rest, hkey, ?_, ?_, ?_, ?_, hside, hlive⟩
      · rw [hprice, hqueue, hkey]
      · rw [hprice]; exact hc
      · intro q hq
        obtain ⟨l', hl'⟩ := Inv.level_of_queue_ne hq
        rw [hprice]
        exact hmin q l' hl'
      · rw [hkey]; exact hrow
    · simp [hbest, hc] at hm

theorem Best.located (hb : Best b s p maker rest) (h : Inv b) :
    b.locations.get? maker.orderId = some ⟨s.opposite, maker.price1e8⟩ := by
  rw [← h.queued_iff, hb.queue]
  exact List.mem_cons_self

/-! ## One fill -/

def afterFill (b : OrderBook) (maker : Order) (fillSize : Nat) : OrderBook :=
  let book := b.putRow (fillRow maker fillSize)
  if maker.remainingSize1e8 - fillSize = 0 then
    book.dropFilled maker.orderId maker.side maker.price1e8
  else book

section

variable (b : OrderBook) (id : OrderId) (s : Side) (p : Nat)

@[simp] theorem orders_dropFilled : (b.dropFilled id s p).orders = b.orders := by
  simp [dropFilled, levelMut]

@[simp] theorem locations_dropFilled : (b.dropFilled id s p).locations = b.locations.del id := by
  simp [dropFilled, levelMut]

@[simp] theorem marketId_dropFilled : (b.dropFilled id s p).marketId = b.marketId := by
  simp [dropFilled, levelMut]

end

section

variable (b : OrderBook) (maker : Order) (n : Nat)

@[simp] theorem orders_afterFill :
    (b.afterFill maker n).orders = b.orders.set maker.orderId (fillRow maker n) := by
  unfold afterFill
  split <;> simp

@[simp] theorem marketId_afterFill : (b.afterFill maker n).marketId = b.marketId := by
  unfold afterFill
  split <;> simp

theorem locations_afterFill : (b.afterFill maker n).locations =
      if maker.remainingSize1e8 - n = 0 then b.locations.del maker.orderId else b.locations := by
  unfold afterFill
  split <;> simp

end

theorem applyMakerFill_eq (hrow : b.orders.get? maker.orderId = some maker)
    (hle : n ≤ maker.remainingSize1e8) :
    b.applyMakerFill maker.orderId n = (b.afterFill maker n, .ok (fillRow maker n)) := by
  have hnot : ¬ maker.remainingSize1e8 < n := by omega
  have hget : (b.afterFill maker n).orders.get? maker.orderId = some (fillRow maker n) := by simp
  unfold applyMakerFill
  simp only [hrow, if_neg hnot]
  split
  · next hnone => cases hnone.symm.trans hget
  · next hsome =>
      cases hsome.symm.trans hget
      rfl

/-- A fill that uses the maker up moves the queue at its price on by one. -/
theorem Best.requeued (hb : Best b s p maker rest) (hfull : maker.remainingSize1e8 - n = 0) :
    Requeued b (b.afterFill maker n) s.opposite maker.price1e8 rest := by
  obtain ⟨l, hl⟩ : ∃ l, b.level s.opposite maker.price1e8 = some l :=
    Inv.level_of_queue_ne (by rw [hb.queue]; simp)
  have hids : l.orderIds = maker.orderId :: rest := by rw [← queue_of_level hl, hb.queue]
  have hrest : (l.popFront).orderIds = rest := by rw [popFront, hids, List.tail_cons]
  rw [← hrest, afterFill, if_pos hfull, hb.side]
  refine requeued_of_levels hl fun s' p' => ?_
  show ((b.putRow _).levelMut _ _ _).level s' p' = _
  simp only [level_levelMut, level_putRow]

/-- **One fill keeps the invariant.** -/
theorem Inv.afterFill (h : Inv b) {rest : List OrderId} (hb : Best b s p maker rest) (n : Nat) :
    Inv (b.afterFill maker n) := by
  by_cases hfull : maker.remainingSize1e8 - n = 0
  · refine h.remove (hb.located h) ?_ ?_ (orders_afterFill b maker n) rfl
    · have := hb.requeued hfull
      rwa [hb.queue, List.erase_cons_head]
    · rw [locations_afterFill, if_pos hfull]
  rw [OrderBook.afterFill, if_neg hfull]
  have hlive : Live (fillRow maker n) :=
    { remaining_pos := Nat.pos_of_ne_zero hfull
      remaining_le := le_trans (Nat.sub_le _ _) hb.live.remaining_le
      status := .inr (if_neg hfull) }
  refine h.putRow fun loc hloc => ?_
  cases (hb.located h).symm.trans hloc
  exact ⟨hb.side, rfl, hlive⟩

/-! ## The match loop -/

/-- The rounds of the match loop.  `Fills clock b taker n b' taker' trades updates`:
from the book `b`, with `n` fills made before, the loop makes the fills `trades`
and ends with the book `b'` and the taker `taker'`. -/
inductive Fills (clock : Nat → TimestampMs) : OrderBook → Order → Nat → OrderBook → Order →
    List TradeMatch → List Order → Prop
  | done {b : OrderBook} {taker : Order} {n : Nat}
      (hstop : taker.remainingSize1e8 = 0 ∨ ∀ q, b.queue taker.side.opposite q ≠ [] →
        pricesCross taker.side q taker.price1e8 = false) :
      Fills clock b taker n b taker [] []
  | fill {b b' : OrderBook} {taker taker' maker : Order} {rest : List OrderId} {n : Nat}
      {trades : List TradeMatch} {updates : List Order}
      (hpos : 0 < taker.remainingSize1e8)
      (hbest : Best b taker.side taker.price1e8 maker rest)
      (hrest : Fills clock (b.afterFill maker (fillSize taker maker))
        (taker.withRemaining (taker.remainingSize1e8 - fillSize taker maker)) (n + 1)
        b' taker' trades updates) :
      Fills clock b taker n b' taker'
        (tradeOf b.marketId taker maker (fillSize taker maker) (clock n) :: trades)
        (fillRow maker (fillSize taker maker) :: updates)

section Loop

/-- The number of resting orders bounds the rounds: a fill that does not end the
loop takes a maker out of `locations`. -/
theorem located_afterFill (h : Inv b) (hb : Best b s p maker rest)
    (hleft : 0 < taker.remainingSize1e8 - fillSize taker maker) :
    (b.afterFill maker (fillSize taker maker)).locations.keys.length + 1 =
      b.locations.keys.length := by
  have hfull : maker.remainingSize1e8 - fillSize taker maker = 0 := by
    simp only [fillSize] at hleft ⊢
    omega
  rw [locations_afterFill, if_pos hfull]
  exact length_keys_del (hb.located h)

/-- **The loop ends, without an error, as `Fills` says.** -/
theorem matchLoop_spec (clock : Nat → TimestampMs) (rounds : Nat) : ∀ (b : OrderBook) (taker : Order)
    (acc : List TradeMatch) (accUpdates : List Order), Inv b → 0 < rounds →
    (0 < taker.remainingSize1e8 → b.locations.keys.length < rounds) →
    ∃ b' taker' trades updates, Fills clock b taker acc.length b' taker' trades updates ∧
      matchLoop clock rounds b taker acc accUpdates =
        (b', .ok (taker', acc ++ trades, accUpdates ++ updates)) := by
  induction rounds with
  | zero => intro b taker acc accUpdates _ h0; exact absurd h0 (lt_irrefl 0)
  | succ rounds ih =>
    intro b taker acc accUpdates hinv _ hrounds
    by_cases hzero : taker.remainingSize1e8 = 0
    · exact ⟨b, taker, [], [], .done (.inl hzero), by simp [matchLoop, hzero]⟩
    have hpos : 0 < taker.remainingSize1e8 := Nat.pos_of_ne_zero hzero
    cases hm : b.bestMatchOrderId taker.side taker.price1e8 with
    | none =>
      exact ⟨b, taker, [], [], .done (.inr fun q hq => hinv.bestMatch_none hm q hq),
        by simp [matchLoop, hm]⟩
    | some =>
      obtain ⟨maker, rest, rfl, hbest⟩ := hinv.bestMatch_some hm
      have hle : fillSize taker maker ≤ maker.remainingSize1e8 := Nat.min_le_right _ _
      have hnot : ¬ taker.remainingSize1e8 < fillSize taker maker :=
        Nat.not_lt.2 (Nat.min_le_left _ _)
      have hkeys : 0 < b.locations.keys.length :=
        List.length_pos_of_mem (mem_keys_iff.2 ⟨_, hbest.located hinv⟩)
      obtain ⟨b', taker', trades, updates, hfills, hloop⟩ :=
        ih (b.afterFill maker (fillSize taker maker))
          (taker.withRemaining (taker.remainingSize1e8 - fillSize taker maker))
          (acc ++ [tradeOf b.marketId taker maker (fillSize taker maker) (clock acc.length)])
          (accUpdates ++ [fillRow maker (fillSize taker maker)])
          (hinv.afterFill hbest _) (by omega)
          (fun hleft => by have := located_afterFill hinv hbest hleft; omega)
      rw [List.length_append, List.length_singleton] at hfills
      refine ⟨b', taker', _, _, .fill hpos hbest hfills, ?_⟩
      rw [List.append_assoc, List.append_assoc] at hloop
      rw [matchLoop, if_neg hzero, hm]
      simp only [hbest.row, applyMakerFill_eq hbest.row hle, if_neg hnot]
      exact hloop

section

variable (hf : Fills clock b taker n b' taker' trades updates)
include hf

theorem Fills.inv (h : Inv b) : Inv b' := by
  induction hf with
  | done => exact h
  | fill _ hbest _ ih => exact ih (h.afterFill hbest _)

@[simp] theorem Fills.marketId : b'.marketId = b.marketId := by
  induction hf with
  | done => rfl
  | fill _ _ _ ih => rw [ih, marketId_afterFill]

/-- The loop changes nothing of the taker but what is left of it. -/
theorem Fills.taker_eq : taker' = taker.withRemaining taker'.remainingSize1e8 := by
  induction hf with
  | done => rfl
  | fill _ _ _ ih => rw [ih]; rfl

/-- What the trades take is what the taker has lost. -/
theorem Fills.total :
    (trades.map TradeMatch.size1e8).sum + taker'.remainingSize1e8 = taker.remainingSize1e8 := by
  induction hf with
  | done => simp
  | @fill b b' taker taker' maker rest n trades updates _ _ _ ih =>
    have hle : fillSize taker maker ≤ taker.remainingSize1e8 := Nat.min_le_left _ _
    simp only [Order.withRemaining] at ih
    simp only [List.map_cons, List.sum_cons, tradeOf]
    omega

/-- The loop stops when the taker is used up or nothing crosses any more. -/
theorem Fills.stops : taker'.remainingSize1e8 = 0 ∨ ∀ q, b'.queue taker'.side.opposite q ≠ [] →
      pricesCross taker'.side q taker'.price1e8 = false := by
  induction hf with
  | done hstop => exact hstop
  | fill _ _ _ ih => exact ih

/-- An order no trade names is left where it was. -/
theorem Fills.frame (id : OrderId) (hid : ∀ t ∈ trades, t.makerOrderId ≠ id) :
    b'.locations.get? id = b.locations.get? id ∧ b'.orders.get? id = b.orders.get? id := by
  induction hf with
  | done => exact ⟨rfl, rfl⟩
  | @fill b b' taker taker' maker rest n trades updates hpos hbest hrest ih =>
    have hne : id ≠ maker.orderId := (hid _ List.mem_cons_self).symm
    obtain ⟨hloc, hrow⟩ := ih fun t ht => hid t (List.mem_cons_of_mem _ ht)
    rw [hloc, hrow, locations_afterFill, orders_afterFill, get?_set_ne _ hne]
    refine ⟨?_, rfl⟩
    split
    · rw [get?_del_ne _ hne]
    · rfl

/-- The makers were resting when the loop began. -/
theorem Fills.maker_located (h : Inv b) :
    ∀ t ∈ trades, ∃ loc, b.locations.get? t.makerOrderId = some loc := by
  induction hf with
  | done => simp
  | @fill b b' taker taker' maker rest n trades updates hpos hbest hrest ih =>
    intro t ht
    rcases List.mem_cons.1 ht with rfl | ht
    · exact ⟨_, hbest.located h⟩
    obtain ⟨loc, hloc⟩ := ih (h.afterFill hbest _) t ht
    rw [locations_afterFill] at hloc
    split at hloc
    · exact ⟨loc, (get?_del_eq_some.1 hloc).2⟩
    · exact ⟨loc, hloc⟩

/-- An order that does not rest is neither located nor rewritten by the loop. -/
theorem Fills.unlocated (h : Inv b) (hid : b.locations.get? id = none) :
    b'.locations.get? id = none ∧ b'.orders.get? id = b.orders.get? id := by
  have hframe := hf.frame id fun t ht he => by
    obtain ⟨loc, hloc⟩ := hf.maker_located h t ht
    cases hid.symm.trans (he ▸ hloc)
  rwa [hid] at hframe

end

end Loop

/-! ## What a call does -/

/-- What becomes of a taker that leaves the loop: used up, rested behind the
orders at its price, or dropped. -/
inductive Settled (b : OrderBook) (taker : Order) (trades : List TradeMatch) :
    OrderBook → Order → Prop
  | filled (h : taker.remainingSize1e8 = 0) :
      Settled b taker trades (b.putRow (taker.withStatus .filled)) (taker.withStatus .filled)
  | rested (h : 0 < taker.remainingSize1e8) (htif : taker.timeInForce = .gtc) :
      Settled b taker trades
        ((b.restOrder (taker.withStatus (takerStatus taker))).putRow
          (taker.withStatus (takerStatus taker)))
        (taker.withStatus (takerStatus taker))
  | dropped (h : 0 < taker.remainingSize1e8) (htif : taker.timeInForce = .ioc) :
      Settled b taker trades
        (b.putRow ((taker.withRemaining 0).withStatus
          (if trades.isEmpty then .cancelled else .partiallyFilled)))
        ((taker.withRemaining 0).withStatus
          (if trades.isEmpty then .cancelled else .partiallyFilled))

/-- What a submit does, case by case. -/
inductive Submitted (clock : Nat → TimestampMs) (b : OrderBook) (order : Order) :
    OrderBook → Outcome OrderSubmitResult → Prop
  | invalid {e : BackendError} (h : validateOrder order = some e) :
      Submitted clock b order b (.err e)
  | rejected {e : BackendError} (h : validateOrder order = none)
      (hwhy : (order.timeInForce = .fok ∧ e = .unsupportedTimeInForce "fok") ∨
        ((order.postOnly = true ∧ b.wouldMatch order = true) ∧ e = .postOnlyWouldMatch) ∨
        (b.wouldSelfTrade order = true ∧ e = .selfTrade)) :
      Submitted clock b order (b.putRow (order.withStatus .rejected)) (.err e)
  | accepted {b₁ b₂ : OrderBook} {taker final : Order} {trades : List TradeMatch}
      {updates : List Order} (hvalid : validateOrder order = none)
      (htif : order.timeInForce ≠ .fok)
      (hself : b.wouldSelfTrade order = false)
      (hpost : ¬(order.postOnly = true ∧ b.wouldMatch order = true))
      (hfills : Fills clock (b.putRow (order.withStatus .open)) (order.withStatus .open) 0
        b₁ taker trades updates)
      (hsettled : Settled b₁ taker trades b₂ final) :
      Submitted clock b order b₂ (.ok ⟨final, trades, updates⟩)

theorem settleTaker_spec (b : OrderBook) (trades : List TradeMatch) (updates : List Order)
    (htif : taker.timeInForce ≠ .fok) :
    ∃ b' final, Settled b taker trades b' final ∧
      b.settleTaker taker trades updates = (b', .ok ⟨final, trades, updates⟩) := by
  by_cases hzero : taker.remainingSize1e8 = 0
  · refine ⟨_, _, .filled hzero, ?_⟩
    simp [settleTaker, takerStatus, hzero]
  have hpos := Nat.pos_of_ne_zero hzero
  cases h : taker.timeInForce with
  | gtc =>
    refine ⟨_, _, .rested hpos h, ?_⟩
    simp [settleTaker, hzero, h]
  | ioc =>
    refine ⟨_, _, .dropped hpos h, ?_⟩
    simp only [settleTaker, Order.withStatus_remainingSize1e8, Order.withStatus_timeInForce, hzero, h]
    rfl
  | fok => exact absurd h htif

/-- **What a submit of a new order does.** -/
theorem submit_spec (h : Inv b) {order : Order} (clock : Nat → TimestampMs)
    (hnew : b.locations.get? order.orderId = none) :
    Submitted clock b order (b.submit clock order).1 (b.submit clock order).2 := by
  unfold submit
  cases hvalid : validateOrder order with
  | some => exact .invalid hvalid
  | none =>
    by_cases hfok : order.timeInForce = .fok
    · simp only [hfok]
      exact .rejected hvalid (.inl ⟨hfok, rfl⟩)
    by_cases hpost : order.postOnly = true ∧ b.wouldMatch order = true
    · simp only [hfok, hpost]
      exact .rejected hvalid (.inr (.inl ⟨hpost, rfl⟩))
    cases hself : b.wouldSelfTrade order with
    | true =>
      simp only [hfok, if_neg hpost]
      exact .rejected hvalid (.inr (.inr ⟨hself, rfl⟩))
    | false =>
      have hinv : Inv (b.putRow (order.withStatus .open)) := h.setUnlocated hnew
      obtain ⟨b₁, taker, trades, updates, hfills, hloop⟩ :=
        matchLoop_spec clock (b.locations.keys.length + 1)
          (b.putRow (order.withStatus .open)) (order.withStatus .open) [] [] hinv
          (Nat.succ_pos _) (fun _ => Nat.lt_succ_self _)
      have htif : taker.timeInForce ≠ .fok := by
        rw [hfills.taker_eq]
        exact hfok
      obtain ⟨b₂, final, hsettled, heq⟩ := settleTaker_spec b₁ trades updates htif
      simp only [hfok, if_neg hpost]
      rw [hloop]
      simp only [List.nil_append, heq]
      exact .accepted hvalid hfok hself hpost hfills hsettled

theorem Settled.frame (hs : Settled b₁ taker trades b₂ final) (hid : id ≠ taker.orderId) :
    b₂.locations.get? id = b₁.locations.get? id ∧ b₂.orders.get? id = b₁.orders.get? id := by
  cases hs with
  | filled => exact ⟨rfl, get?_set_ne _ hid _⟩
  | dropped => exact ⟨rfl, get?_set_ne _ hid _⟩
  | rested =>
    rw [locations_putRow, orders_putRow, locations_restOrder, orders_restOrder]
    exact ⟨get?_set_ne _ hid _, get?_set_ne _ hid _⟩

section

variable (b : OrderBook) (id : OrderId) (s : Side) (p : Nat)

@[simp] theorem orders_unqueue : (b.unqueue id s p).orders = b.orders := by
  simp [unqueue, levelMut]

theorem locations_unqueue : (b.unqueue id s p).locations = b.locations.del id := by
  simp [unqueue, levelMut]

theorem marketId_unqueue : (b.unqueue id s p).marketId = b.marketId := by
  simp [unqueue, levelMut]

end

/-- What a cancel does: nothing to an order that does not rest, and it takes a
resting order out of its queue and closes its row. -/
theorem cancel_spec (h : Inv b) (id : OrderId) :
    (b.locations.get? id = none ∧ b.cancel id = (b, .err (.orderNotOpen id))) ∨
    ∃ o b', b.locations.get? id = some ⟨o.side, o.price1e8⟩ ∧ b.orders.get? id = some o ∧
      Requeued b b' o.side o.price1e8 ((b.queue o.side o.price1e8).erase id) ∧
      b'.locations = b.locations.del id ∧
      b'.orders = b.orders.set id ((o.withStatus .cancelled).withRemaining 0) ∧
      b'.marketId = b.marketId ∧
      b.cancel id = (b', .ok ((o.withStatus .cancelled).withRemaining 0)) := by
  cases hloc : b.locations.get? id with
  | none => exact .inl ⟨rfl, by rw [cancel, hloc]⟩
  | some loc =>
    obtain ⟨o, ho, hside, hprice, -⟩ := h.row id loc hloc
    have hqueued : id ∈ b.queue loc.side loc.price1e8 := (h.queued_iff _ _ _).2 hloc
    obtain ⟨l, hl⟩ := Inv.level_of_queue_ne (List.ne_nil_of_mem hqueued)
    refine .inr ⟨o, { b.unqueue id loc.side loc.price1e8 with
      orders := b.orders.set id ((o.withStatus .cancelled).withRemaining 0) },
      by rw [hside, hprice], ho, ?_, locations_unqueue .., rfl, marketId_unqueue .., ?_⟩
    · rw [hside, hprice, queue_of_level hl]
      have hq := requeued_of_levels (c := { b with locations := b.locations.del id }.levelMut
        loc.side loc.price1e8 fun l => l.remove id) hl fun s' p' => by
          rw [level_levelMut, level_levelMut]; rfl
      exact ⟨hq.here, hq.there⟩
    · rw [cancel, hloc]
      simp [ho]

/-! ## Whole runs -/

theorem validateOrder_eq_none_iff : validateOrder order = none ↔
    order.price1e8 ≠ 0 ∧ order.size1e8 ≠ 0 ∧ order.remainingSize1e8 ≠ 0 := by
  unfold validateOrder
  split_ifs <;> simp <;> omega

theorem takerStatus_of_pos (h : 0 < taker.remainingSize1e8) :
    takerStatus taker = .open ∨ takerStatus taker = .partiallyFilled := by
  unfold takerStatus
  rw [if_neg h.ne']
  split
  · exact .inr rfl
  · exact .inl rfl

/-- What an accepted taker is like when the loop has ended. -/
theorem Fills.taker_live (hf : Fills clock b taker n b' taker' trades updates)
    (hle : taker.remainingSize1e8 ≤ taker.size1e8) (hpos : 0 < taker'.remainingSize1e8) :
    Live (taker'.withStatus (takerStatus taker')) where
  remaining_pos := hpos
  remaining_le := by
    have hsize : taker'.size1e8 = taker.size1e8 := by rw [hf.taker_eq]; rfl
    have htotal := hf.total
    simp only [Order.withStatus_remainingSize1e8, Order.withStatus_size1e8]
    omega
  status := takerStatus_of_pos hpos

theorem Submitted.inv (hs : Submitted clock b order b' r) (h : Inv b)
    (hnew : b.locations.get? order.orderId = none) (hle : order.remainingSize1e8 ≤ order.size1e8) :
    Inv b' := by
  cases hs with
  | invalid => exact h
  | rejected => exact h.setUnlocated hnew
  | @accepted b₁ _ taker _ trades updates hvalid _ _ _ hfills hsettled =>
    have hopen : Inv (b.putRow (order.withStatus .open)) := h.setUnlocated hnew
    have hinv := hfills.inv hopen
    have hid : taker.orderId = order.orderId := by rw [hfills.taker_eq]; rfl
    have hun : b₁.locations.get? taker.orderId = none := by
      rw [hid]
      exact (hfills.unlocated hopen hnew).1
    cases hsettled with
    | filled => exact hinv.setUnlocated hun
    | dropped => exact hinv.setUnlocated hun
    | rested hpos =>
      refine hinv.rest hun (hfills.taker_live hle hpos) ?_
      rcases hfills.stops with hzero | hcross
      · omega
      · exact hcross

theorem Inv.cancel (h : Inv b) (id : OrderId) : Inv (b.cancel id).1 := by
  rcases cancel_spec h id with ⟨-, heq⟩ | ⟨o, b', hloc, ho, hq, hlocs, hrows, -, heq⟩
  · rw [heq]
    exact h
  · rw [heq]
    exact h.remove hloc hq hlocs hrows (h.keyed id o ho)

inductive Call where
  /-- Submit an order; the clock is read once for each fill. -/
  | submit (clock : Nat → TimestampMs) (order : Order)
  | cancel (id : OrderId)

/-- The calls callers make: a submitted order is new to the book and has its
whole size left. -/
def Call.Allowed (b : OrderBook) : Call → Prop
  | .submit _ order =>
    b.orders.get? order.orderId = none ∧ order.remainingSize1e8 = order.size1e8
  | .cancel _ => True

instance (b : OrderBook) (c : Call) : Decidable (c.Allowed b) :=
  match c with
  | .submit _ _ => inferInstanceAs (Decidable (_ ∧ _))
  | .cancel _ => inferInstanceAs (Decidable True)

/-- The book a call leaves, whether it succeeds or not. -/
def Call.run (b : OrderBook) : Call → OrderBook
  | .submit clock order => (b.submit clock order).1
  | .cancel id => (b.cancel id).1

abbrev Reached (marketId : MarketId) : List Call → OrderBook → Prop :=
  Run (stepOf Call.run Call.Allowed) (OrderBook.new marketId)

/-- An order the book has no row of does not rest. -/
theorem Inv.unlocated_of_new (h : Inv b) (hnew : b.orders.get? id = none) :
    b.locations.get? id = none := by
  refine Option.eq_none_iff_forall_ne_some.2 fun loc hloc => ?_
  obtain ⟨o, ho, -⟩ := h.row id loc hloc
  cases hnew.symm.trans ho

theorem Inv.call (h : Inv b) {c : Call} (hc : c.Allowed b) : Inv (c.run b) := by
  cases c with
  | submit clock =>
    have hnew := h.unlocated_of_new hc.1
    exact (submit_spec h clock hnew).inv h hnew (le_of_eq hc.2)
  | cancel id => exact h.cancel id

theorem Inv.of_run {marketId : MarketId} (hrun : Reached marketId calls b) : Inv b := by
  refine hrun.invariant (Inv.new marketId) ?_
  rintro t c u hinv ⟨hc, rfl⟩
  exact hinv.call hc

/-! ## The invariant in the words of the data -/

/-- Every id queued in a level, level by level. -/
def queuedIds (self : OrderBook) : List OrderId :=
  [Side.buy, Side.sell].flatMap fun side => (self.levels side).keys.flatMap (self.queue side)

/-- What the five structures of a book say together. -/
structure WellFormed (b : OrderBook) : Prop where
  located_iff_queued : ∀ id, id ∈ b.locations.keys ↔ id ∈ b.queuedIds
  /-- No id is queued twice. -/
  queued_once : b.queuedIds.Nodup
  in_level : ∀ id loc, b.locations.get? id = some loc →
    ∃ l, b.level loc.side loc.price1e8 = some l ∧ id ∈ l.orderIds
  /-- A located id has a row with that side and price, something left to fill,
  and the status of a resting order. -/
  row : ∀ id loc, b.locations.get? id = some loc → ∃ o, b.orders.get? id = some o ∧
    o.side = loc.side ∧ o.price1e8 = loc.price1e8 ∧
    0 < o.remainingSize1e8 ∧ o.remainingSize1e8 ≤ o.size1e8 ∧
    (o.status = .open ∨ o.status = .partiallyFilled)
  no_empty_level : ∀ s p l, b.level s p = some l → l.isEmpty = false
  /-- The greatest bid is below the least ask. -/
  uncrossed : ∀ bid ask, b.bids.maxKey? = some bid → b.asks.minKey? = some ask → bid < ask

theorem Inv.mem_queuedIds (h : Inv b) :
    id ∈ b.queuedIds ↔ ∃ loc, b.locations.get? id = some loc := by
  have hside : ∀ s, id ∈ (b.levels s).keys.flatMap (b.queue s) ↔ ∃ p, id ∈ b.queue s p := by
    intro s
    rw [List.mem_flatMap]
    constructor
    · rintro ⟨p, -, hp⟩
      exact ⟨p, hp⟩
    · rintro ⟨p, hp⟩
      obtain ⟨l, hl⟩ := Inv.level_of_queue_ne (List.ne_nil_of_mem hp)
      exact ⟨p, mem_keys_iff.2 ⟨l, hl⟩, hp⟩
  simp only [queuedIds, List.flatMap_cons, List.flatMap_nil, List.append_nil, List.mem_append,
    hside, h.queued_iff]
  constructor
  · rintro (⟨p, hp⟩ | ⟨p, hp⟩) <;> exact ⟨_, hp⟩
  rintro ⟨⟨s, p⟩, hloc⟩
  cases s with
  | buy => exact .inl ⟨p, hloc⟩
  | sell => exact .inr ⟨p, hloc⟩

theorem Inv.queue_unique (h : Inv b) (h₁ : id ∈ b.queue s p) (h₂ : id ∈ b.queue s' p') :
    s = s' ∧ p = p' := by
  rw [h.queued_iff] at h₁ h₂
  simpa using h₁.symm.trans h₂

theorem Inv.queuedIds_nodup (h : Inv b) : b.queuedIds.Nodup := by
  have hside : ∀ s, ((b.levels s).keys.flatMap (b.queue s)).Nodup := by
    intro s
    refine List.nodup_flatMap.2 ⟨fun p _ => h.nodup s p, ?_⟩
    refine List.Pairwise.imp ?_ (AList.keys_nodup _)
    intro p q hpq id hp hq
    exact hpq (h.queue_unique hp hq).2
  simp only [queuedIds, List.flatMap_cons, List.flatMap_nil, List.append_nil]
  refine List.nodup_append.2 ⟨hside .buy, hside .sell, ?_⟩
  rintro i hi j hj rfl
  obtain ⟨p, -, hp⟩ := List.mem_flatMap.1 hi
  obtain ⟨q, -, hq⟩ := List.mem_flatMap.1 hj
  exact absurd (h.queue_unique hp hq).1 (by decide)

/-- **The representation invariant.**  In every book that calls lead to from a
new one, successful or not, the five structures agree and the book is neither
crossed nor locked. -/
theorem wellFormed_of_run {marketId : MarketId} {calls : List Call}
    (hrun : Reached marketId calls b) : WellFormed b := by
  have h := Inv.of_run hrun
  refine ⟨?_, h.queuedIds_nodup, ?_, ?_, ?_, ?_⟩
  · intro id
    rw [mem_keys_iff, h.mem_queuedIds]
  · intro id loc hloc
    have hq : id ∈ b.queue loc.side loc.price1e8 := (h.queued_iff _ _ _).2 hloc
    obtain ⟨l, hl⟩ := Inv.level_of_queue_ne (List.ne_nil_of_mem hq)
    exact ⟨l, hl, by rwa [queue_of_level hl] at hq⟩
  · intro id loc hloc
    obtain ⟨o, ho, hside, hprice, hlive⟩ := h.row id loc hloc
    exact ⟨o, ho, hside, hprice, hlive.remaining_pos, hlive.remaining_le, hlive.status⟩
  · intro s p l hl
    have := h.nonempty s p l hl
    simpa [isEmpty] using this
  · intro bid ask hbid hask
    obtain ⟨⟨lb, hlb⟩, -⟩ := maxKey?_eq_some_iff.1 hbid
    obtain ⟨⟨la, hla⟩, -⟩ := minKey?_eq_some_iff.1 hask
    exact h.uncrossed bid ask (h.queue_ne_nil (s := .buy) hlb) (h.queue_ne_nil (s := .sell) hla)

/-- A good-till-cancelled order with nothing special about it. -/
def plainOrder (uuid : Uuid) (account : String) (side : Side) (price size : Nat) : Order :=
  NewOrder.intoOrder
    { marketId := 1, account := ⟨account⟩, side := side, price1e8 := price, size1e8 := size,
      timeInForce := .gtc, reduceOnly := false, postOnly := false, clientOrderId := none,
      signedNonce := none, signedDeadlineMs := none } ⟨uuid⟩ 0

/-- A partial fill, a remainder that rests above it, and a cancel. -/
theorem wellFormed_of_run_partial_fill_and_cancel :
    ∃ calls b, calls.length = 4 ∧ Reached 1 calls b ∧ b.locations.keys.length = 1 ∧
      WellFormed b := by
  have hrun : Reached 1
      [.submit (fun _ => 0) (plainOrder 1 "maker" .sell 5 10),
        .submit (fun _ => 0) (plainOrder 2 "taker" .buy 5 4),
        .submit (fun _ => 0) (plainOrder 3 "bidder" .buy 4 3), .cancel ⟨1⟩] _ :=
    (((Run.start.snoc ⟨by decide, rfl⟩).snoc ⟨by decide, rfl⟩).snoc ⟨by decide, rfl⟩).snoc
      ⟨by decide, rfl⟩
  exact ⟨_, _, rfl, hrun, by decide, wellFormed_of_run hrun⟩

/-! ## Calls that fail -/

/-- Everything is as before but the row of one order. -/
structure SameBut (id : OrderId) (b b' : OrderBook) : Prop where
  bids : b'.bids = b.bids
  asks : b'.asks = b.asks
  locations : b'.locations = b.locations
  rows : ∀ j ≠ id, b'.orders.get? j = b.orders.get? j

/-- Why `submit` refuses an order, error by error. -/
def Refused (b : OrderBook) (order : Order) : BackendError → Prop
  | .zeroPrice => order.price1e8 = 0
  | .zeroSize => order.size1e8 = 0 ∨ order.remainingSize1e8 = 0
  | .unsupportedTimeInForce tif => tif = "fok" ∧ order.timeInForce = .fok
  | .postOnlyWouldMatch => order.postOnly = true ∧ b.wouldMatch order = true
  | .selfTrade => b.wouldSelfTrade order = true
  | _ => False

theorem refused_of_validateOrder (h : validateOrder order = some e) : b.Refused order e := by
  unfold validateOrder at h
  split_ifs at h with hprice hsize
  · cases h
    exact hprice
  · cases h
    exact hsize

/-- What a submit that is refused leaves behind. -/
theorem Submitted.err {clock : Nat → TimestampMs} (h : Submitted clock b order b' (.err e)) :
    b.Refused order e ∧ SameBut order.orderId b b' ∧
      (b' = b ∨ b'.orders.get? order.orderId = some (order.withStatus .rejected)) := by
  cases h with
  | invalid hinvalid =>
    exact ⟨refused_of_validateOrder hinvalid, ⟨rfl, rfl, rfl, fun _ _ => rfl⟩, .inl rfl⟩
  | rejected _ hwhy =>
    refine ⟨?_, ⟨rfl, rfl, rfl, fun j hj => get?_set_ne _ hj _⟩, .inr (get?_set_self _ _ _)⟩
    rcases hwhy with ⟨hfok, rfl⟩ | ⟨hpost, rfl⟩ | ⟨hself, rfl⟩
    · exact ⟨rfl, hfok⟩
    · exact hpost
    · exact hself

/-- **A call that fails changes nothing.**  A submit of a new order to a book that calls lead to
fails for one of the reasons of `Refused` or not at all, and leaves at most a rejected row behind;
a cancel that fails leaves nothing. -/
theorem failure_atomic {marketId : MarketId} {calls : List Call}
    (hrun : Reached marketId calls b) (clock : Nat → TimestampMs) (order : Order)
    (hnew : b.orders.get? order.orderId = none) (id : OrderId) :
    ((∃ result, (b.submit clock order).2 = .ok result) ∨
      ∃ e, (b.submit clock order).2 = .err e ∧ b.Refused order e ∧
        SameBut order.orderId b (b.submit clock order).1 ∧
        ((b.submit clock order).1 = b ∨ (b.submit clock order).1.orders.get? order.orderId =
            some (order.withStatus .rejected))) ∧
    ((∃ o, (b.cancel id).2 = .ok o) ∨ ∃ e, b.cancel id = (b, .err e)) := by
  have h := Inv.of_run hrun
  constructor
  · have hspec := submit_spec h clock (h.unlocated_of_new hnew)
    generalize b.submit clock order = out at hspec
    obtain ⟨b', result | e | message⟩ := out
    · exact .inl ⟨result, rfl⟩
    · exact .inr ⟨e, rfl, hspec.err⟩
    · cases hspec
    · cases hspec
  · rcases cancel_spec h id with ⟨-, heq⟩ | ⟨o, b', -, -, -, -, -, -, heq⟩
    · exact .inr ⟨_, heq⟩
    · exact .inl ⟨_, congrArg Prod.snd heq⟩

/-- A bid that would be filled by its own account's ask, and a cancel of an order nobody made. -/
theorem failure_atomic_self_trade :
    ∃ b, Reached 1 [.submit (fun _ => 0) (plainOrder 1 "alice" .sell 5 10)] b ∧
      (b.submit (fun _ => 0) (plainOrder 2 "alice" .buy 5 4)).2 = .err .selfTrade ∧
      SameBut ⟨2⟩ b (b.submit (fun _ => 0) (plainOrder 2 "alice" .buy 5 4)).1 ∧
      (b.cancel ⟨3⟩).1 = b := by
  have hrun : Reached 1 [.submit (fun _ => 0) (plainOrder 1 "alice" .sell 5 10)] _ :=
    Run.start.snoc ⟨by decide, rfl⟩
  have herr : (OrderBook.submit (fun _ => 0) (Call.run (OrderBook.new 1)
      (.submit (fun _ => 0) (plainOrder 1 "alice" .sell 5 10)))
      (plainOrder 2 "alice" .buy 5 4)).2 = .err .selfTrade := by decide
  obtain ⟨hsubmit, hcancel⟩ := failure_atomic hrun (fun _ => 0) (plainOrder 2 "alice" .buy 5 4)
    (by decide) ⟨3⟩
  refine ⟨_, hrun, herr, ?_, ?_⟩
  · rcases hsubmit with ⟨result, hok⟩ | ⟨e, -, -, hsame, -⟩
    · cases herr.symm.trans hok
    · exact hsame
  rcases hcancel with ⟨o, hok⟩ | ⟨e, heq⟩
  · have hnone : ((Call.run (OrderBook.new 1)
        (.submit (fun _ => 0) (plainOrder 1 "alice" .sell 5 10))).cancel ⟨3⟩).2 =
      .err (.orderNotOpen ⟨3⟩) := by decide
    cases hnone.symm.trans hok
  · rw [heq]

end OrderBook

end DeoptBackend
