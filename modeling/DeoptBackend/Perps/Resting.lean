import DeoptBackend.Perps.Ledger

/-!
# The orders that rest

The in-memory book between requests, and what a submit does to it.

* `Standing` — a resting order a trade can be made with; `bookAfter` — the book after
  a trade; `Submitted.book` — the book after an accepted submit.
* `resting` — what is left of the active orders, each unit with a weight.  A trade
  takes its size times the weight of the maker's order (`resting_bookAfter`); an
  accepted submit takes that for every trade and adds what is left of the order, if
  it rests (`Submitted.resting_eq`); an order that ends only takes
  (`resting_ended_le`, `resting_liquidatedStores_le`).
-/

namespace DeoptBackend

open FMap List

open PerpPositionsStore (fillKey)

/-! ## Trades, on the book -/

/-- A resting order a trade can be made with. -/
structure Standing (m : FMap Uuid PerpOrder) (order : PerpOrder) (t : Trade) : Prop where
  /-- It is in the book. -/
  row : m.get? t.maker.id = some t.maker
  active : t.maker.status.isActive = true
  market : t.maker.marketId = order.marketId
  side : t.maker.side = order.side.opposite
  /-- Its row adds up. -/
  sound : t.maker.Sound
  /-- The trade is for something. -/
  sized : 0 < t.size1e8
  /-- The trade is for no more than what is left. -/
  fits : t.size1e8 ≤ t.maker.remainingSize1e8

def bookAfter (now : TimestampMs) (m : FMap Uuid PerpOrder) (t : Trade) : FMap Uuid PerpOrder :=
  m.set t.maker.id (t.makerRow now)

/-- The makers of a list of trades stand in the book, and are all different. -/
structure AllStanding (m : FMap Uuid PerpOrder) (order : PerpOrder) (trades : List Trade) : Prop where
  standing : ∀ t ∈ trades, Standing m order t
  /-- No maker is met twice. -/
  nodup : (trades.map (·.maker.id)).Nodup

variable {draws : SubmitDraws} {s : PerpStores} {now : TimestampMs}

section

variable {trades : List Trade}

theorem Standing.fillKey_maker (h : Standing m order t) (lower : String → String) :
    fillKey lower (makerFillInput order t.maker t.plan) = t.maker.key lower := by
  rw [PerpOrder.key, h.market]
  rfl

theorem Standing.bookAfter_of_ne (h : Standing m order u) (hne : u.maker.id ≠ t.maker.id) :
    Standing (bookAfter now m t) order u :=
  { h with row := by rw [bookAfter, get?_set_ne m hne]; exact h.row }

theorem AllStanding.tail (hst : AllStanding m order (t :: ts)) :
    AllStanding (bookAfter now m t) order ts := by
  refine ⟨fun u hu => ?_, hst.nodup.of_cons⟩
  have hne := ne_of_nodup_map_cons hst.nodup hu
  exact (hst.standing u (mem_cons_of_mem _ hu)).bookAfter_of_ne hne

theorem AllStanding.append_left (hst : AllStanding m order (trades ++ ts)) :
    AllStanding m order trades := by
  have hnodup := hst.nodup
  rw [map_append] at hnodup
  exact ⟨fun t ht => hst.standing t (mem_append_left _ ht), hnodup.of_append_left⟩

theorem AllStanding.append_right (hst : AllStanding m order (trades ++ ts)) :
    AllStanding (trades.foldl (bookAfter now) m) order ts := by
  induction trades generalizing m with
  | nil => exact hst
  | cons t trades ih => exact ih (AllStanding.tail hst)

/-- The makers of an arriving order stand in the book. -/
theorem PerpStores.Valid.allStanding (hs : s.Valid lower) (order : PerpOrder) :
    AllStanding s.orders.orders order (tradesFor s.orders order) where
  standing := by
    intro t ht
    obtain ⟨hrow, hmarket, hactive, hside⟩ := tradesFor_maker hs.wellFormed ht
    obtain ⟨hpos, hfits⟩ := tradesFor_size ht
    exact ⟨hrow, hactive, hmarket, hside, hs.maker_sound ht, hpos, hfits⟩
  nodup := by
    have hsub := (tradesFrom_makers_sublist order
      (counterpartiesFor s.orders order.marketId order.side) order.size1e8).map PerpOrder.id
    rw [map_map] at hsub
    exact (nodup_counterpartiesFor (fun h => hs.wellFormed.filed h) _ _).sublist hsub

theorem get?_foldl_bookAfter_of_ne {id : Uuid} (hid : ∀ t ∈ trades, id ≠ t.maker.id) :
    (trades.foldl (bookAfter now) m).get? id = m.get? id :=
  get?_setAll_of_notMem hid m

theorem get?_foldl_bookAfter {t : Trade} (hnodup : (trades.map (·.maker.id)).Nodup)
    (ht : t ∈ trades) : (trades.foldl (bookAfter now) m).get? t.maker.id = some (t.makerRow now) :=
  get?_setAll_of_mem hnodup ht m

theorem Submitted.book (hsub : Submitted lower cfg draws oracleRead input market s out s')
    (hs : s.Valid lower) (hd : draws.Fresh s) (id : Uuid) : s'.orders.orders.get? id =
      (((tradesFor s.orders (input.row draws)).foldl (bookAfter draws.now) s.orders.orders).set
        draws.orderId out.order).get? id := by
  have hget : s'.orders.orders.get? id = s'.orders.get id := rfl
  rw [hget, get?_set]
  split
  · next hid => rw [hid, hsub.get_order]
  next hid =>
    by_cases hmaker : ∃ t ∈ tradesFor s.orders (input.row draws), id = t.maker.id
    · obtain ⟨t, ht, rfl⟩ := hmaker
      rw [hsub.get_maker hs.wellFormed hd ht, get?_foldl_bookAfter (hs.allStanding _).nodup ht]
    have hother : ∀ t ∈ tradesFor s.orders (input.row draws), id ≠ t.maker.id :=
      fun t ht heq => hmaker ⟨t, ht, heq⟩
    rw [hsub.get_other hid hother, get?_foldl_bookAfter_of_ne hother]
    rfl

end

/-! ## What rests, weighed -/

/-- What is left of the active orders of a book, each unit with a weight. -/
def resting (w : PerpOrder → Nat) (m : FMap Uuid PerpOrder) : Nat :=
  m.sumBy fun o => if o.status.isActive = true then o.remainingSize1e8 * w o else 0

def ByTerms (w : PerpOrder → Nat) : Prop :=
  ∀ {o o' : PerpOrder}, o'.terms = o.terms → w o' = w o

section

variable {id : Uuid}

theorem resting_congr (h : ∀ id, m.get? id = m'.get? id) : resting w m = resting w m' :=
  sumBy_congr h _

theorem le_resting (ho : m.get? id = some o) (hact : o.status.isActive = true) :
    o.remainingSize1e8 * w o ≤ resting w m := by
  rw [resting, sumBy_of_get? ho, if_pos hact]
  exact Nat.le_add_right _ _

theorem resting_set_new (hid : m.get? id = none) (o : PerpOrder) : resting w (m.set id o) =
      (if o.status.isActive = true then o.remainingSize1e8 * w o else 0) + resting w m :=
  sumBy_set_new hid o _

theorem resting_ended_le (ho : m.get? id = some o) (hend : o'.status.isActive = false) :
    resting w (m.set id o') ≤ resting w m := by
  have hsum := sumBy_set_old ho o'
    (fun o => if o.status.isActive = true then o.remainingSize1e8 * w o else 0)
  rw [hend, if_neg Bool.false_ne_true] at hsum
  simp only [resting]
  omega

/-- **A trade takes its size from what rests.** -/
theorem resting_bookAfter (hw : ByTerms w) (h : Standing m order t) :
    resting w (bookAfter now m t) + t.size1e8 * w t.maker = resting w m := by
  obtain ⟨-, hleft, hactive⟩ := makerRow_amounts (t := t) h.sound h.fits
  have hweight : w (t.makerRow now) = w t.maker := hw (Trade.terms_makerRow now t)
  -- a row with nothing left is not active, and counts for nothing either way
  have hrow : (if (t.makerRow now).status.isActive = true then
      (t.makerRow now).remainingSize1e8 * w (t.makerRow now) else 0) =
      (t.maker.remainingSize1e8 - t.size1e8) * w t.maker := by
    split
    · rw [hleft, hweight]
    · next hdead =>
        have := mt hactive.2 hdead
        rw [Nat.sub_eq_zero_of_le (by omega), Nat.zero_mul]
  have hsum := sumBy_set_old h.row (t.makerRow now)
    (fun o => if o.status.isActive = true then o.remainingSize1e8 * w o else 0)
  rw [hrow, if_pos h.active] at hsum
  have hsplit : t.maker.remainingSize1e8 * w t.maker =
      (t.maker.remainingSize1e8 - t.size1e8) * w t.maker + t.size1e8 * w t.maker := by
    rw [← Nat.add_mul, Nat.sub_add_cancel h.fits]
  simp only [resting, bookAfter]
  omega

theorem resting_foldl_bookAfter (hw : ByTerms w) (hst : AllStanding m order trades) :
    resting w (trades.foldl (bookAfter now) m) +
      (trades.map fun t => t.size1e8 * w t.maker).sum = resting w m := by
  induction trades generalizing m with
  | nil => rfl
  | cons t ts ih =>
    have hnext : resting w (ts.foldl (bookAfter now) (bookAfter now m t)) + _ = _ := ih hst.tail
    have htrade : resting w (bookAfter now m t) + t.size1e8 * w t.maker = resting w m :=
      resting_bookAfter hw (hst.standing t mem_cons_self)
    rw [foldl_cons, map_cons, sum_cons]
    omega

/-- The identifier of an arriving order is free in the book its trades leave. -/
theorem SubmitDraws.Fresh.get?_foldl_bookAfter (hd : draws.Fresh s) (hs : s.Valid lower)
    (order : PerpOrder) :
    ((tradesFor s.orders order).foldl (bookAfter now) s.orders.orders).get? draws.orderId =
      none := by
  rw [get?_foldl_bookAfter_of_ne fun t ht => (maker_ne_order hs.wellFormed hd ht).symm]
  exact hd.order

/-- **What rests after an accepted submit.** -/
theorem Submitted.resting_eq (hsub : Submitted lower cfg draws oracleRead input market s out s')
    (hs : s.Valid lower) (hd : draws.Fresh s) (hw : ByTerms w) : resting w s'.orders.orders +
        ((tradesFor s.orders (input.row draws)).map fun t => t.size1e8 * w t.maker).sum =
      resting w s.orders.orders +
        if out.order.status.isActive = true then out.order.remainingSize1e8 * w out.order
        else 0 := by
  rw [resting_congr (hsub.book hs hd), resting_set_new (hd.get?_foldl_bookAfter hs _)]
  have htrades : resting w ((tradesFor s.orders (input.row draws)).foldl (bookAfter draws.now)
      s.orders.orders) + _ = _ := resting_foldl_bookAfter hw (hs.allStanding (input.row draws))
  omega

theorem resting_liquidatedStores_le (p : PerpPosition) (mark1e8 : Nat) (now : TimestampMs)
    (s : PerpStores) : resting w (PerpLedger.liquidatedStores lower p mark1e8 now s).orders.orders ≤
      resting w s.orders.orders := by
  refine sumBy_foldl_alter_le (fun o => ?_) _ _
  exact Nat.zero_le _

end

end DeoptBackend
