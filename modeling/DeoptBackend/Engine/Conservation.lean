import DeoptBackend.Engine.State
import DeoptBackend.Orderbook.Invariant

/-!
# Fill conservation

An order is filled by many later commands of other accounts, so whether it is
filled too much, too little or twice shows only in the sum over the whole
history.  `traded` is that sum, and `RowBalanced` is what it has to do with what
the order's row says.

* `Fills.balanced` — the match loop keeps every row but the taker's in balance.
* `submit_accounts`, `cancel_accounts` — the calls on one book.
* `EngineInv.replaceBook` — the engine: the trades of one market name no order
  of another, so the other books stay in balance.
* `fill_conservation` — whole runs of commands.
-/

namespace DeoptBackend

open OrderBook FMap EngineEvent List TradeMatch Option

/-- The total size of the trades that name an order, as maker or as taker. -/
def traded (trades : List TradeMatch) (id : OrderId) : Nat :=
  (trades.map fun t => if t.makerOrderId = id ∨ t.takerOrderId = id then t.size1e8 else 0).sum

@[simp] theorem traded_nil (id : OrderId) : traded [] id = 0 := rfl

theorem traded_cons (t : TradeMatch) (ts : List TradeMatch) (id : OrderId) : traded (t :: ts) id =
      (if t.makerOrderId = id ∨ t.takerOrderId = id then t.size1e8 else 0) + traded ts id := by
  simp [traded]

theorem traded_append (ts us : List TradeMatch) (id : OrderId) :
    traded (ts ++ us) id = traded ts id + traded us id := by
  simp [traded]

theorem traded_eq_zero {id : OrderId} (h : ∀ t ∈ ts, t.makerOrderId ≠ id ∧ t.takerOrderId ≠ id) :
    traded ts id = 0 := by
  refine sum_eq_zero fun x hx => ?_
  obtain ⟨t, ht, rfl⟩ := mem_map.1 hx
  simp [h t ht]

theorem traded_eq_total {id : OrderId} (h : ∀ t ∈ ts, t.takerOrderId = id) :
    traded ts id = (ts.map size1e8).sum := by
  rw [traded, map_congr_left fun t ht => if_pos (.inr (h t ht))]

/-- What the row of an order says, next to what was traded of it. -/
structure RowBalanced (traded : Nat) (o : Order) (resting : Prop) : Prop where
  /-- Never more than was asked for. -/
  le : traded + o.remainingSize1e8 ≤ o.size1e8
  /-- While the order rests, exactly what was asked for. -/
  eq_of_resting : resting → traded + o.remainingSize1e8 = o.size1e8
  filled_iff : o.status = .filled ↔ traded = o.size1e8

def OrderBook.Rests (b : OrderBook) (id : OrderId) : Prop :=
  ∃ loc, b.locations.get? id = some loc

theorem OrderBook.not_rests_iff {b : OrderBook} {id : OrderId} :
    ¬ b.Rests id ↔ b.locations.get? id = none := by
  rw [Rests, eq_none_iff_forall_ne_some, not_exists]

theorem RowBalanced.congr {t : Nat} {o : Order} (h : RowBalanced t o resting)
    (hrest : resting' → resting) : RowBalanced t o resting' :=
  ⟨h.le, fun h' => h.eq_of_resting (hrest h'), h.filled_iff⟩

def Balanced (b : OrderBook) (total : OrderId → Nat) : Prop :=
  ∀ id o, b.orders.get? id = some o → RowBalanced (total id) o (b.Rests id)

variable {b b' : OrderBook} {id : OrderId}

/-! ## The match loop -/

section Loop

theorem OrderBook.Fills.takerOrderId (hf : Fills clock b taker n b' taker' trades updates) :
    ∀ t ∈ trades, t.takerOrderId = taker.orderId := by
  induction hf with
  | done => simp
  | fill _ _ _ ih => exact forall_mem_cons.2 ⟨rfl, ih⟩

theorem OrderBook.Fills.size_pos (hf : Fills clock b taker n b' taker' trades updates) :
    ∀ t ∈ trades, 0 < t.size1e8 := by
  induction hf with
  | done => simp
  | fill hpos hbest _ ih => exact forall_mem_cons.2 ⟨lt_min hpos hbest.live.remaining_pos, ih⟩

/-- The loop records no new row, and keeps what a fill keeps. -/
theorem OrderBook.Fills.map_get? (hkeep : ∀ o m, f (fillRow o m) = f o)
    (hf : Fills clock b taker n b' taker' trades updates) (id : OrderId) :
    (b'.orders.get? id).map f = (b.orders.get? id).map f := by
  induction hf with
  | done => rfl
  | @fill b b' taker taker' maker rest n trades updates _ hbest _ ih =>
    rw [ih, orders_afterFill, get?_set]
    by_cases hid : id = maker.orderId
    · rw [if_pos hid, hid, hbest.row, map_some, hkeep, map_some]
    · rw [if_neg hid]

theorem RowBalanced.fill {t : Nat} {maker : Order} {resting resting' : Prop}
    (h : RowBalanced t maker resting) (hrest : resting) (hm : m ≤ maker.remainingSize1e8) :
    RowBalanced (t + m) (fillRow maker m) resting' := by
  have heq := h.eq_of_resting hrest
  have hrow : t + m + (fillRow maker m).remainingSize1e8 = (fillRow maker m).size1e8 := by
    simp [fillRow]
    omega
  refine ⟨hrow.le, fun _ => hrow, ?_⟩
  simp only [fillRow, Order.withStatus_status, Order.withStatus_size1e8,
    Order.withRemaining_size1e8]
  split <;> simp <;> omega

theorem OrderBook.rests_afterFill_of_ne {maker : Order} {m : Nat} (hid : id ≠ maker.orderId) :
    (b.afterFill maker m).Rests id ↔ b.Rests id := by
  rw [Rests, Rests, locations_afterFill]
  split
  · rw [get?_del_ne _ hid]
  · rfl

/-- **The loop keeps every row but the taker's in balance.**  The taker's own
row is written only when the loop has ended. -/
theorem OrderBook.Fills.balanced (hf : Fills clock b taker n b' taker' trades updates) :
    ∀ (total : OrderId → Nat), Inv b → b.locations.get? taker.orderId = none →
    (∀ id o, id ≠ taker.orderId → b.orders.get? id = some o →
      RowBalanced (total id) o (b.Rests id)) →
    ∀ id o, id ≠ taker.orderId → b'.orders.get? id = some o →
      RowBalanced (total id + traded trades id) o (b'.Rests id) := by
  induction hf with
  | done => intro total _ _ hbal id o hid ho; exact hbal id o hid ho
  | @fill b b' taker taker' maker rest n trades updates hpos hbest _ ih =>
    intro total h hloc hbal id o hid ho
    have hmaker := hbest.located h
    have hne : maker.orderId ≠ taker.orderId := fun he => by cases hloc.symm.trans (he ▸ hmaker)
    have hloc' := not_rests_iff.1 fun hrests => not_rests_iff.2 hloc
      ((rests_afterFill_of_ne (m := fillSize taker maker) hne.symm).1 hrests)
    -- the totals after this one trade
    have hstep : ∀ j r, j ≠ taker.orderId →
        (b.afterFill maker (fillSize taker maker)).orders.get? j = some r →
        RowBalanced (total j + if maker.orderId = j then fillSize taker maker else 0) r
          ((b.afterFill maker (fillSize taker maker)).Rests j) := by
      intro j r hj hr
      rw [orders_afterFill] at hr
      rcases get?_set_eq_some.1 hr with ⟨rfl, rfl⟩ | ⟨hjm, hr⟩
      · rw [if_pos rfl]
        exact (hbal _ maker hj hbest.row).fill ⟨_, hmaker⟩ (Nat.min_le_right _ _)
      · rw [if_neg (Ne.symm hjm), Nat.add_zero]
        exact (hbal j r hj hr).congr (rests_afterFill_of_ne hjm).1
    have := ih _ (h.afterFill hbest _) hloc' hstep id o hid ho
    simpa [traded_cons, tradeOf, Ne.symm hid, Nat.add_assoc] using this

end Loop

/-! ## The calls on one book -/

def tradesOf : Outcome OrderSubmitResult → List TradeMatch
  | .ok result => result.trades
  | _ => []

/-- A row that never rested and was never traded, with its whole size left. -/
theorem RowBalanced.untouched {resting : Prop} (hfull : o.remainingSize1e8 = o.size1e8)
    (hpos : o.size1e8 ≠ 0) (hstatus : o.status ≠ .filled) : RowBalanced 0 o resting := by
  refine ⟨by omega, fun _ => by omega, iff_of_false hstatus ?_⟩
  omega

/-- The taker's final row is in balance with the trades of the loop. -/
theorem OrderBook.Settled.balanced {b₁ b₂ : OrderBook} {taker final : Order} {t : Nat}
    (hs : Settled b₁ taker trades b₂ final) (hloc : b₁.locations.get? taker.orderId = none)
    (htotal : t + taker.remainingSize1e8 = taker.size1e8) :
    b₂.orders.get? taker.orderId = some final ∧ RowBalanced t final (b₂.Rests taker.orderId) := by
  have hpart : 0 < taker.remainingSize1e8 → t ≠ taker.size1e8 := by omega
  cases hs with
  | filled hzero =>
    refine ⟨get?_set_self _ _ _, htotal.le, fun _ => htotal, iff_of_true rfl ?_⟩
    rw [hzero] at htotal
    exact htotal
  | rested hpos =>
    refine ⟨get?_set_self _ _ _, htotal.le, fun _ => htotal, iff_of_false ?_ (hpart hpos)⟩
    rcases takerStatus_of_pos hpos with h | h <;> simp [h]
  | dropped hpos =>
    refine ⟨get?_set_self _ _ _, ?_, fun hrests => absurd hrests (not_rests_iff.2 hloc),
      iff_of_false ?_ (hpart hpos)⟩
    · exact (Nat.le_add_right _ _).trans htotal.le
    · rw [Order.withStatus_status]
      split <;> decide

/-- What a submit of a new order does to the totals: every row of the book it
leaves is in balance, and the trades it makes have a size, and name only orders
of the book. -/
structure SubmitAccounts (b b' : OrderBook) (order : Order) (total : OrderId → Nat)
    (trades : List TradeMatch) : Prop where
  balanced : Balanced b' fun id => total id + traded trades id
  positive : ∀ t ∈ trades, 0 < t.size1e8
  unnamed : ∀ id, b'.orders.get? id = none → traded trades id = 0
  sizes : ∀ id, id ≠ order.orderId →
    (b'.orders.get? id).map Order.size1e8 = (b.orders.get? id).map Order.size1e8

theorem submit_accounts (h : Inv b) (hnew : b.orders.get? order.orderId = none)
    (hfull : order.remainingSize1e8 = order.size1e8) (hbal : Balanced b total)
    (htotal : total order.orderId = 0) (hs : Submitted clock b order b' r) :
    SubmitAccounts b b' order total (tradesOf r) := by
  have hloc := h.unlocated_of_new hnew
  cases hs with
  | invalid =>
    exact ⟨hbal, by simp [tradesOf], fun _ _ => rfl, fun _ _ => rfl⟩
  | rejected hvalid =>
    have hsize := (validateOrder_eq_none_iff.1 hvalid).2.1
    refine ⟨?_, by simp [tradesOf], fun _ _ => rfl, ?_⟩
    · intro id o ho
      rcases get?_set_eq_some.1 ho with ⟨rfl, rfl⟩ | ⟨-, ho⟩
      · change RowBalanced (total order.orderId + 0) _ _
        rw [htotal]
        exact RowBalanced.untouched hfull hsize (by simp)
      · exact hbal id o ho
    · intro id hid
      rw [orders_putRow, get?_set_ne _ (by exact hid)]
  | @accepted b₁ _ taker final trades updates hvalid _ _ _ hfills hsettled =>
    have hopen : Inv (b.putRow (order.withStatus .open)) := h.setUnlocated hloc
    have hid : taker.orderId = order.orderId := by rw [hfills.taker_eq]; rfl
    have hsize : taker.size1e8 = order.size1e8 := by rw [hfills.taker_eq]; rfl
    have hframe := fun {j} (hj : j ≠ order.orderId) => hsettled.frame (hid.symm ▸ hj)
    have hkept : ∀ {j}, j ≠ order.orderId →
        (b'.orders.get? j).map Order.size1e8 = (b.orders.get? j).map Order.size1e8 := by
      intro j hj
      rw [(hframe hj).2, hfills.map_get? (f := Order.size1e8) fun _ _ => rfl, orders_putRow,
        get?_set_ne _ (by exact hj)]
    obtain ⟨hrow, hfinal⟩ := hsettled.balanced (t := traded trades order.orderId)
      (hid ▸ (hfills.unlocated hopen hloc).1)
      (by rw [hsize, traded_eq_total (by exact hfills.takerOrderId), ← hfull]; exact hfills.total)
    rw [hid] at hrow hfinal
    have hothers := hfills.balanced total hopen hloc (by
      intro j o hj ho
      rw [orders_putRow, get?_set_ne _ hj] at ho
      exact hbal j o ho)
    refine ⟨?_, hfills.size_pos, ?_, fun _ => hkept⟩
    · intro j o ho
      by_cases hj : j = order.orderId
      · subst hj
        cases hrow.symm.trans ho
        simpa [tradesOf, htotal] using hfinal
      · rw [(hframe hj).2] at ho
        refine (hothers j o hj ho).congr ?_
        rw [Rests, (hframe hj).1]
        exact id
    · intro j hj
      have hjo : j ≠ order.orderId := by
        rintro rfl
        cases hrow.symm.trans hj
      refine traded_eq_zero fun t ht => ⟨?_, by rw [hfills.takerOrderId t ht]; exact hjo.symm⟩
      rintro rfl
      obtain ⟨loc, hl⟩ := hfills.maker_located hopen t ht
      obtain ⟨o, ho, -⟩ := hopen.row _ _ hl
      rw [orders_putRow, get?_set_ne _ (by exact hjo)] at ho
      simpa [hj, ho] using hkept hjo

/-- A cancel keeps the rows in balance, and keeps them. -/
theorem cancel_accounts (h : Inv b) (hbal : Balanced b total) (id : OrderId) :
    Balanced (b.cancel id).1 total ∧ ∀ j,
      ((b.cancel id).1.orders.get? j).map Order.size1e8 = (b.orders.get? j).map Order.size1e8 := by
  rcases cancel_spec h id with ⟨-, heq⟩ | ⟨o, b', hloc, ho, -, hlocs, hrows, -, heq⟩
  · rw [heq]
    exact ⟨hbal, fun _ => rfl⟩
  rw [heq]
  obtain ⟨r, hr, -, -, hlive⟩ := h.row _ _ hloc
  cases ho.symm.trans hr
  have heq := (hbal id o ho).eq_of_resting ⟨_, hloc⟩
  have hpos := hlive.remaining_pos
  refine ⟨?_, ?_⟩
  · intro j r hr
    rw [hrows] at hr
    rcases get?_set_eq_some.1 hr with ⟨rfl, rfl⟩ | ⟨hj, hr⟩
    · refine ⟨?_, fun hrests => ?_, iff_of_false (by simp) ?_⟩
      · exact (Nat.le_add_right _ _).trans heq.le
      · exact absurd hrests (not_rests_iff.2 (by simp [hlocs]))
      · simp
        omega
    · refine (hbal j r hr).congr ?_
      simp [Rests, hlocs, get?_del_ne _ hj]
  · intro j
    simp only [hrows, get?_set]
    by_cases hj : j = id
    · rw [if_pos hj, hj, ho]
      rfl
    · rw [if_neg hj]

/-! ## The engine -/

/-- The trades among some events, in order. -/
def tradesIn (events : List EngineEvent) : List TradeMatch :=
  events.filterMap fun
    | .tradeMatched trade => some trade
    | _ => none

def eventsOf : Outcome (List EngineEvent) → List EngineEvent
  | .ok events => events
  | _ => []

/-- What an intent and its trade have in common. -/
structure Terms where
  marketId : MarketId
  buyer : AccountId
  seller : AccountId
  price1e8 : Nat
  size1e8 : Nat

def TradeMatch.terms (t : TradeMatch) : Terms :=
  ⟨t.marketId, t.buyer, t.seller, t.price1e8, t.size1e8⟩

def ExecutionIntent.terms (i : ExecutionIntent) : Terms :=
  ⟨i.marketId, i.buyer, i.seller, i.price1e8, i.size1e8⟩

/-- No book has a row of the order. -/
def EngineState.Unrecorded (s : EngineState) (id : OrderId) : Prop :=
  ∀ m b, s.orderbooks.get? m = some b → b.orders.get? id = none

instance (s : EngineState) (id : OrderId) : Decidable (s.Unrecorded id) :=
  decidable_of_iff (∀ b ∈ s.orderbooks.vals, b.orders.get? id = none)
    ⟨fun h m b hb => h b (mem_vals.2 ⟨m, hb⟩),
      fun h b hb => by obtain ⟨m, hm⟩ := mem_vals.1 hb; exact h m b hm⟩

/-- What holds of an engine and the events it has answered with. -/
structure EngineInv (s : EngineState) (events : List EngineEvent) : Prop where
  books : ∀ m b, s.orderbooks.get? m = some b → Inv b
  /-- An order has a row in one book only. -/
  unique : ∀ {m m' b b' id o o'}, s.orderbooks.get? m = some b → s.orderbooks.get? m' = some b' →
    b.orders.get? id = some o → b'.orders.get? id = some o' → m = m'
  /-- The rows are in balance with the trades of all markets. -/
  balanced : ∀ m b, s.orderbooks.get? m = some b → Balanced b (traded (tradesIn events))
  /-- An order without a row is in no trade. -/
  unnamed : ∀ id, s.Unrecorded id → traded (tradesIn events) id = 0
  positive : ∀ t ∈ tradesIn events, 0 < t.size1e8
  queue : s.executionQueue.map ExecutionIntent.terms = (tradesIn events).map terms
  accepted : ∀ o, orderAccepted o ∈ events → ∃ m b row,
    s.orderbooks.get? m = some b ∧ b.orders.get? o.orderId = some row ∧ row.size1e8 = o.size1e8

variable {s : EngineState}

theorem tradesIn_append (es fs : List EngineEvent) :
    tradesIn (es ++ fs) = tradesIn es ++ tradesIn fs := by
  simp [tradesIn]

theorem EngineInv.new (markets : List Market) : EngineInv (EngineState.new markets) [] := by
  have hbook : ∀ m b, (EngineState.new markets).orderbooks.get? m = some b →
      b = OrderBook.new m := by
    intro m b hb
    obtain ⟨market, -, he⟩ := mem_map.1 (mem_of_get?_ofPairs hb)
    simp only [Prod.mk.injEq] at he
    rw [← he.1, he.2]
  refine ⟨?_, ?_, ?_, fun _ _ => rfl, ?_, rfl, ?_⟩
  · intro m b hb
    rw [hbook m b hb]
    exact Inv.new m
  · intro m m' b b' id o o' hb _ ho _
    rw [hbook m b hb] at ho
    cases ho
  · intro m b hb id o ho
    rw [hbook m b hb] at ho
    cases ho
  · exact fun _ ht => absurd ht not_mem_nil
  · exact fun _ ho => absurd ho not_mem_nil

/-- A row stays, with its size, when a book keeps its sizes. -/
theorem row_of_sizes (ho : b.orders.get? id = some o)
    (h : (b'.orders.get? id).map Order.size1e8 = (b.orders.get? id).map Order.size1e8) :
    ∃ o', b'.orders.get? id = some o' ∧ o'.size1e8 = o.size1e8 := by
  rw [ho, map_some, map_eq_some_iff] at h
  exact h

/-- **One book moves.**  The engine's invariant survives when one book is
replaced by one whose rows are in balance with the new trades, keeps the rows of
the old one, and records no order another book has. -/
theorem EngineInv.replaceBook (h : EngineInv s events) {m : MarketId}
    (hb : s.orderbooks.get? m = some b) (hinv : Inv b') (new : List EngineEvent)
    (intents : List ExecutionIntent)
    (hbal : Balanced b' fun id => traded (tradesIn events) id + traded (tradesIn new) id)
    (hpos : ∀ t ∈ tradesIn new, 0 < t.size1e8)
    (hunnamed : ∀ id, b'.orders.get? id = none → traded (tradesIn new) id = 0)
    (hsizes : ∀ id, (b'.orders.get? id).map Order.size1e8 = (b.orders.get? id).map Order.size1e8 ∨
      s.Unrecorded id)
    (hqueue : intents.map ExecutionIntent.terms = (tradesIn new).map terms)
    (haccepted : ∀ o, orderAccepted o ∈ new →
      ∃ row, b'.orders.get? o.orderId = some row ∧ row.size1e8 = o.size1e8) :
    EngineInv { s.setBook m b' with executionQueue := s.executionQueue ++ intents }
      (events ++ new) := by
  -- a row of the new book is a row of the old one, or of no book at all, so of no other book
  have hkept : ∀ {id o}, b.orders.get? id = some o →
      ∃ o', b'.orders.get? id = some o' ∧ o'.size1e8 = o.size1e8 := by
    intro id o ho
    rcases hsizes id with heq | hun
    · exact row_of_sizes ho heq
    · cases (hun m b hb).symm.trans ho
  have hother : ∀ {m' b₂ id o' o₂}, m' ≠ m → s.orderbooks.get? m' = some b₂ →
      b'.orders.get? id = some o' → b₂.orders.get? id = some o₂ → False := by
    intro m' b₂ id o' o₂ hne hb₂ ho' ho₂
    rcases hsizes id with heq | hun
    · obtain ⟨o, ho, -⟩ := row_of_sizes ho' heq.symm
      exact hne (h.unique hb₂ hb ho₂ ho)
    · cases (hun m' b₂ hb₂).symm.trans ho₂
  have hthis : (s.setBook m b').orderbooks.get? m = some b' := get?_set_self _ _ _
  have hthat : ∀ {m' b₂}, m' ≠ m → s.orderbooks.get? m' = some b₂ →
      (s.setBook m b').orderbooks.get? m' = some b₂ :=
    fun hne hb₂ => (get?_set_ne _ hne _).trans hb₂
  refine ⟨?_, ?_, ?_, ?_, ?_, ?_, ?_⟩
  · intro m' b₂ hb₂
    exact forall_set hb₂ hinv (h.books _ _)
  · intro m₁ m₂ b₁ b₂ id o₁ o₂ hb₁ hb₂ ho₁ ho₂
    rcases get?_set_eq_some.1 hb₁ with ⟨rfl, rfl⟩ | ⟨hne₁, hold₁⟩
    · rcases get?_set_eq_some.1 hb₂ with ⟨rfl, -⟩ | ⟨hne₂, hold₂⟩
      · rfl
      · exact (hother hne₂ hold₂ ho₁ ho₂).elim
    · rcases get?_set_eq_some.1 hb₂ with ⟨rfl, rfl⟩ | ⟨hne₂, hold₂⟩
      · exact (hother hne₁ hold₁ ho₂ ho₁).elim
      · exact h.unique hold₁ hold₂ ho₁ ho₂
  · intro m' b₂ hb₂ id o ho
    rw [tradesIn_append, traded_append]
    rcases get?_set_eq_some.1 hb₂ with ⟨-, rfl⟩ | ⟨hne, hold⟩
    · exact hbal id o ho
    have hnone : b'.orders.get? id = none := by
      cases ho' : b'.orders.get? id with
      | none => rfl
      | some => exact (hother hne hold ho' ho).elim
    rw [hunnamed id hnone, Nat.add_zero]
    exact h.balanced m' b₂ hold id o ho
  · intro id hun
    have hnone : b'.orders.get? id = none := hun m b' hthis
    have hbefore : s.Unrecorded id := by
      intro m' b₂ hb₂
      by_cases hm : m' = m
      · subst hm
        cases hb.symm.trans hb₂
        refine eq_none_iff_forall_ne_some.2 fun o ho => ?_
        obtain ⟨o', ho', -⟩ := hkept ho
        cases hnone.symm.trans ho'
      · exact hun m' b₂ (hthat hm hb₂)
    rw [tradesIn_append, traded_append, h.unnamed id hbefore, hunnamed id hnone]
  · rw [tradesIn_append]
    exact forall_mem_append.2 ⟨h.positive, hpos⟩
  · rw [tradesIn_append, map_append, map_append, h.queue, hqueue]
  · intro o ho
    rcases mem_append.1 ho with ho | ho
    · obtain ⟨m', b₂, row, hb₂, hrow₂, hsize⟩ := h.accepted o ho
      by_cases hm : m' = m
      · subst hm
        cases hb.symm.trans hb₂
        obtain ⟨row', hrow', hsize'⟩ := hkept hrow₂
        exact ⟨m', b', row', hthis, hrow', hsize'.trans hsize⟩
      · exact ⟨m', b₂, row, hthat hm hb₂, hrow₂, hsize⟩
    · obtain ⟨row, hrow', hsize⟩ := haccepted o ho
      exact ⟨m, b', row, hthis, hrow', hsize⟩

/-- One book moves, and nothing is traded. -/
theorem EngineInv.replaceQuiet (h : EngineInv s events) (hb : s.orderbooks.get? m = some b)
    (hinv : Inv b') {new : List EngineEvent} (htrades : tradesIn new = [])
    (haccepted : ∀ o, orderAccepted o ∉ new) (hbal : Balanced b' (traded (tradesIn events)))
    (hsizes : ∀ id, (b'.orders.get? id).map Order.size1e8 = (b.orders.get? id).map Order.size1e8 ∨
      s.Unrecorded id) : EngineInv (s.setBook m b') (events ++ new) := by
  have hmoved := h.replaceBook hb hinv new [] (by rwa [htrades]) (by simp [htrades])
    (fun _ _ => by rw [htrades]; rfl) hsizes (by rw [htrades]; rfl)
    fun o ho => absurd ho (haccepted o)
  rwa [append_nil] at hmoved

/-! ## Commands -/

theorem tradesIn_pushOrderFillEvent (o : Order) :
    tradesIn (EngineState.pushOrderFillEvent o) = [] := by
  unfold EngineState.pushOrderFillEvent
  split <;> rfl

theorem tradesIn_flatMap_pushOrderFillEvent (os : List Order) :
    tradesIn (os.flatMap EngineState.pushOrderFillEvent) = [] := by
  rw [tradesIn, filterMap_flatMap, flatMap_eq_nil_iff]
  exact fun o _ => tradesIn_pushOrderFillEvent o

theorem orderAccepted_not_mem_pushOrderFillEvent (o r : Order) :
    orderAccepted o ∉ EngineState.pushOrderFillEvent r := by
  unfold EngineState.pushOrderFillEvent
  split <;> simp

variable (g : Nat → Uuid) (ts : List TradeMatch)

/-- The events of the trades tell the trades, one intent after each. -/
theorem tradesIn_tradeEvents : tradesIn (ts.mapIdx fun i t => [tradeMatched t,
      .executionIntentCreated (intentFromTrade (g i) t)]).flatten = ts := by
  induction ts generalizing g with
  | nil => rfl
  | cons t ts ih =>
    rw [mapIdx_cons, flatten_cons, tradesIn_append, ih fun i => g (i + 1)]
    rfl

theorem terms_intents : (ts.mapIdx fun i t => intentFromTrade (g i) t).map ExecutionIntent.terms =
      ts.map terms := by
  induction ts generalizing g with
  | nil => rfl
  | cons t ts ih =>
    rw [mapIdx_cons, map_cons, map_cons, ih fun i => g (i + 1)]
    rfl

variable (draws : Draws) (result : OrderSubmitResult)

def submitEvents : List EngineEvent :=
  .orderAccepted result.order :: (result.makerOrderUpdates.flatMap EngineState.pushOrderFillEvent ++
      EngineState.pushOrderFillEvent result.order ++ EngineState.tradeEvents draws result.trades)

theorem tradesIn_submitEvents : tradesIn (submitEvents draws result) = result.trades := by
  rw [submitEvents, ← singleton_append, tradesIn_append, tradesIn_append, tradesIn_append,
    tradesIn_flatMap_pushOrderFillEvent, tradesIn_pushOrderFillEvent, EngineState.tradeEvents,
    tradesIn_tradeEvents]
  rfl

theorem accepted_of_mem_submitEvents {draws : Draws} {result : OrderSubmitResult} {o : Order}
    (h : orderAccepted o ∈ submitEvents draws result) : o = result.order := by
  simp only [submitEvents, mem_cons, orderAccepted.injEq, mem_append, mem_flatMap] at h
  rcases h with h | (⟨r, -, h⟩ | h) | h
  · exact h
  · exact absurd h (orderAccepted_not_mem_pushOrderFillEvent o r)
  · exact absurd h (orderAccepted_not_mem_pushOrderFillEvent o _)
  · rw [EngineState.tradeEvents, mem_flatten] at h
    obtain ⟨l, hl, ho⟩ := h
    obtain ⟨i, hi, rfl⟩ := mem_mapIdx.1 hl
    simp at ho

/-- The calls an engine is sent: a new order's name is new. -/
def EngineState.Admits (s : EngineState) (draws : Draws) : EngineCommand → Prop
  | .submitOrder _ => s.Unrecorded draws.orderId
  | _ => True

instance (s : EngineState) (draws : Draws) (command : EngineCommand) :
    Decidable (s.Admits draws command) :=
  match command with
  | .submitOrder _ => inferInstanceAs (Decidable (s.Unrecorded draws.orderId))
  | .cancelOrder _ => inferInstanceAs (Decidable True)
  | .replaceOrder _ _ => inferInstanceAs (Decidable True)

/-- The final row of an accepted taker. -/
theorem OrderBook.Submitted.order_row {res : OrderSubmitResult}
    (hs : Submitted clock b order b' (.ok res)) :
    b'.orders.get? res.order.orderId = some res.order := by
  cases hs with
  | accepted _ _ _ _ hfills hsettled =>
    cases hsettled with
    | filled => exact get?_set_self _ _ _
    | rested => exact get?_set_self _ _ _
    | dropped => exact get?_set_self _ _ _

/-- The order of a submit, as the book gets it. -/
abbrev NewOrder.taken (order : NewOrder) (draws : Draws) : Order :=
  order.intoOrder draws.orderId draws.createdAtMs

/-- What a submit does, case by case. -/
inductive EngineSubmitted (s : EngineState) (draws : Draws) (order : NewOrder) :
    EngineState × Outcome (List EngineEvent) → Prop
  | unknown (hb : s.orderbooks.get? order.marketId = none) :
      EngineSubmitted s draws order
        (s, .ok [.orderRejected draws.orderId ("unknown market: " ++ toString order.marketId)])
  | accepted {b b' : OrderBook} {result : OrderSubmitResult}
      (hb : s.orderbooks.get? order.marketId = some b)
      (hsub : Submitted draws.clock b (order.taken draws) b' (.ok result)) :
      EngineSubmitted s draws order
        ({ s.setBook order.marketId b' with
          executionQueue := s.executionQueue ++ EngineState.intentsOf draws result.trades },
          .ok (submitEvents draws result))
  | refused {b b' : OrderBook} {e : BackendError} (hb : s.orderbooks.get? order.marketId = some b)
      (hsub : Submitted draws.clock b (order.taken draws) b' (.err e)) :
      EngineSubmitted s draws order
        (s.setBook order.marketId b', .ok [.orderRejected draws.orderId e.show])

theorem EngineInv.submitted (h : EngineInv s events) {draws : Draws} (order : NewOrder)
    (hnew : s.Unrecorded draws.orderId) :
    EngineSubmitted s draws order (s.submitOrder draws order) := by
  cases hb : s.orderbooks.get? order.marketId with
  | none =>
    simp only [EngineState.submitOrder, hb]
    exact .unknown hb
  | some b =>
    have hinv := h.books _ b hb
    have hspec : Submitted draws.clock b (order.taken draws) _ _ :=
      submit_spec hinv draws.clock (hinv.unlocated_of_new (hnew _ b hb))
    simp only [EngineState.submitOrder, hb]
    generalize b.submit draws.clock (order.taken draws) = out at hspec ⊢
    obtain ⟨b', result | e | message⟩ := out
    · exact .accepted hb hspec
    · exact .refused hb hspec
    · cases hspec
    · cases hspec

/-- Events that tell nothing of trades or accepted orders change nothing. -/
theorem EngineInv.append_quiet (h : EngineInv s events) {new : List EngineEvent}
    (htrades : tradesIn new = []) (haccepted : ∀ o, orderAccepted o ∉ new) :
    EngineInv s (events ++ new) := by
  have heq : tradesIn (events ++ new) = tradesIn events := by
    rw [tradesIn_append, htrades, append_nil]
  refine ⟨h.books, h.unique, heq ▸ h.balanced, heq ▸ h.unnamed, heq ▸ h.positive, heq ▸ h.queue, ?_⟩
  intro o ho
  exact h.accepted o ((mem_append.1 ho).resolve_right (haccepted o))

/-- **A submit keeps the invariant and answers.** -/
theorem EngineInv.submitOrder (h : EngineInv s events) {draws : Draws} (order : NewOrder)
    (hnew : s.Unrecorded draws.orderId) : EngineInv (s.submitOrder draws order).1
        (events ++ eventsOf (s.submitOrder draws order).2) ∧
      ∃ es, (s.submitOrder draws order).2 = .ok es := by
  have hs := h.submitted order hnew
  generalize s.submitOrder draws order = out at hs ⊢
  -- what the book does to its rows, whether it accepts the order or not
  have hbook : ∀ {b b' r}, s.orderbooks.get? order.marketId = some b →
      Submitted draws.clock b (order.taken draws) b' r → Inv b' ∧
        SubmitAccounts b b' (order.taken draws) (traded (tradesIn events)) (tradesOf r) ∧
        ∀ id, (b'.orders.get? id).map Order.size1e8 = (b.orders.get? id).map Order.size1e8 ∨
          s.Unrecorded id := by
    intro b b' r hb hsub
    have hinv := h.books _ b hb
    have hrow := hnew _ b hb
    have hacc := submit_accounts hinv hrow rfl (h.balanced _ b hb) (h.unnamed _ hnew) hsub
    refine ⟨hsub.inv hinv (hinv.unlocated_of_new hrow) (le_refl _), hacc, fun id => ?_⟩
    by_cases hid : id = draws.orderId
    · exact .inr (hid ▸ hnew)
    · exact .inl (hacc.sizes id hid)
  cases hs with
  | unknown => exact ⟨h.append_quiet rfl (fun o => by simp [eventsOf]), _, rfl⟩
  | @accepted _ _ result hb hsub =>
    obtain ⟨hinv', hacc, hsizes⟩ := hbook hb hsub
    have htrades : tradesOf (.ok result) = tradesIn (submitEvents draws result) :=
      (tradesIn_submitEvents draws result).symm
    rw [htrades] at hacc
    refine ⟨h.replaceBook hb hinv' _ _ hacc.balanced hacc.positive hacc.unnamed hsizes ?_ ?_, _, rfl⟩
    · exact (terms_intents _ _).trans (congrArg (map terms) htrades)
    · intro o ho
      rw [accepted_of_mem_submitEvents ho]
      exact ⟨_, hsub.order_row, rfl⟩
  | refused hb hsub =>
    obtain ⟨hinv', hacc, hsizes⟩ := hbook hb hsub
    exact ⟨h.replaceQuiet hb hinv' rfl (fun o => by simp [eventsOf]) hacc.balanced hsizes, _, rfl⟩

theorem EngineState.bookOf_some {id : OrderId} {b : OrderBook} (h : s.bookOf id = some (m, b)) :
    s.orderbooks.get? m = some b := by
  obtain ⟨⟨k, w⟩, hmem, he⟩ := exists_of_findSome?_eq_some h
  split at he <;> cases he
  exact get?_eq_some_iff.2 hmem

/-- **A cancel keeps the invariant and answers.** -/
theorem EngineInv.cancelOrder (h : EngineInv s events) (id : OrderId) :
    EngineInv (s.cancelOrder id).1 (events ++ eventsOf (s.cancelOrder id).2) ∧
      ((∃ es, (s.cancelOrder id).2 = .ok es) ∨ ∃ e, (s.cancelOrder id).2 = .err e) := by
  cases hb : s.bookOf id with
  | none =>
    simp only [EngineState.cancelOrder, hb, eventsOf, append_nil]
    exact ⟨h, .inr ⟨_, rfl⟩⟩
  | some e =>
    obtain ⟨m, b⟩ := e
    have hget := EngineState.bookOf_some hb
    have hinv := h.books _ b hget
    obtain ⟨hbal, hsizes⟩ := cancel_accounts hinv (h.balanced _ b hget) id
    have hmove : ∀ {new}, tradesIn new = [] → (∀ o, orderAccepted o ∉ new) →
        EngineInv (s.setBook m (b.cancel id).1) (events ++ new) :=
      fun htrades haccepted =>
        h.replaceQuiet hget (hinv.cancel id) htrades haccepted hbal fun j => .inl (hsizes j)
    rcases cancel_spec hinv id with ⟨-, heq⟩ | ⟨o, b', -, -, -, -, -, -, heq⟩
    · simp only [EngineState.cancelOrder, hb, heq] at hmove ⊢
      exact ⟨hmove rfl (fun o => not_mem_nil), .inr ⟨_, rfl⟩⟩
    · simp only [EngineState.cancelOrder, hb, heq] at hmove ⊢
      exact ⟨hmove rfl (fun o => by simp [eventsOf]), .inl ⟨_, rfl⟩⟩

/-! ## Whole runs -/

/-- An engine, with the events it has answered with so far. -/
structure Logged where
  engine : EngineState
  /-- The events, oldest first. -/
  events : List EngineEvent

/-- The engine takes a command, and its answer is logged. -/
def Logged.take (l : Logged) (q : Request) : Logged :=
  { engine := (l.engine.process q.draws q.command).1
    events := l.events ++ eventsOf (l.engine.process q.draws q.command).2 }

/-- The engines reachable from a new one, with their histories. -/
abbrev EngineReached (markets : List Market) : List Request → Logged → Prop :=
  Run (stepOf Logged.take fun l q => l.engine.Admits q.draws q.command)
    ⟨EngineState.new markets, []⟩

/-- A call that ends, with a value or an error: no panic, no endless loop. -/
def Outcome.Answers {α : Type} : Outcome α → Prop
  | .ok _ => True
  | .err _ => True
  | _ => False

theorem EngineInv.process (h : EngineInv s events) {draws : Draws} (hnew : s.Admits draws command) :
    EngineInv (s.process draws command).1 (events ++ eventsOf (s.process draws command).2) ∧
      (s.process draws command).2.Answers := by
  cases command with
  | submitOrder order =>
    obtain ⟨hinv, es, hes⟩ := h.submitOrder order hnew
    refine ⟨hinv, ?_⟩
    rw [EngineState.process, hes]
    trivial
  | cancelOrder id =>
    refine ⟨(h.cancelOrder id).1, ?_⟩
    rcases (h.cancelOrder id).2 with ⟨es, hes⟩ | ⟨e, hes⟩ <;> rw [EngineState.process, hes] <;> trivial
  | replaceOrder =>
    refine ⟨?_, trivial⟩
    simp only [EngineState.process, eventsOf, append_nil]
    exact h

/-- What a history says of the orders it accepted and of the trades it made. -/
structure Conserved (l : Logged) : Prop where
  /-- An accepted order has a row of its size, in balance with the trades. -/
  order : ∀ o, orderAccepted o ∈ l.events → ∃ m b row,
    l.engine.orderbooks.get? m = some b ∧ b.orders.get? o.orderId = some row ∧
    row.size1e8 = o.size1e8 ∧
    traded (tradesIn l.events) o.orderId + row.remainingSize1e8 ≤ row.size1e8 ∧
    (b.Rests o.orderId →
      traded (tradesIn l.events) o.orderId + row.remainingSize1e8 = row.size1e8) ∧
    (row.status = .filled ↔ traded (tradesIn l.events) o.orderId = row.size1e8)
  positive : ∀ t ∈ tradesIn l.events, 0 < t.size1e8
  /-- The queue holds one intent for each trade, in order, on the same terms. -/
  intents : l.engine.executionQueue.map ExecutionIntent.terms =
    (tradesIn l.events).map terms
  /-- No command underflows: it answers with events or with an error. -/
  answers : ∀ draws command, l.engine.Admits draws command →
    (l.engine.process draws command).2.Answers

theorem engineInv_of_reached (hrun : EngineReached markets requests l) :
    EngineInv l.engine l.events := by
  refine hrun.invariant (P := fun l => EngineInv l.engine l.events) (EngineInv.new markets) ?_
  rintro t q u h ⟨hq, rfl⟩
  exact (h.process hq).1

/-- **Fill conservation.**  Over any run of commands, no order is traded beyond
its size, a resting order has exactly its untraded part left, an order is filled
just when its whole size was traded, no subtraction underflows, and the
execution queue is the list of the trades. -/
theorem fill_conservation {markets : List Market} {requests : List Request} {l : Logged}
    (hrun : EngineReached markets requests l) : Conserved l := by
  have hinv := engineInv_of_reached hrun
  refine ⟨?_, hinv.positive, hinv.queue, fun draws command hnew => (hinv.process hnew).2⟩
  intro o ho
  obtain ⟨m, b, row, hb, hrow, hsize⟩ := hinv.accepted o ho
  have hbal := hinv.balanced m b hb _ row hrow
  exact ⟨m, b, row, hb, hrow, hsize, hbal.le, hbal.eq_of_resting, hbal.filled_iff⟩

/-- A submit with nothing special about it. -/
def plainRequest (uuid : Uuid) (account : String) (side : Side) (price size : Nat) : Request :=
  { draws := { orderId := ⟨uuid⟩, createdAtMs := 0, clock := fun _ => 0, intentId := fun n => n }
    command := .submitOrder
      { marketId := 1, account := ⟨account⟩, side := side, price1e8 := price, size1e8 := size,
        timeInForce := .gtc, reduceOnly := false, postOnly := false, clientOrderId := none,
        signedNonce := none, signedDeadlineMs := none } }

/-- A seller that is filled in part and then cancelled. -/
theorem fill_conservation_partial_fill :
    ∃ requests l, EngineReached EngineState.defaultMarkets requests l ∧
      (tradesIn l.events).map size1e8 = [4] ∧
      traded (tradesIn l.events) ⟨1⟩ = 4 ∧ Conserved l := by
  have hrun : EngineReached EngineState.defaultMarkets
      [plainRequest 1 "seller" .sell 5 10, plainRequest 2 "buyer" .buy 5 4,
        ⟨(plainRequest 3 "seller" .sell 5 10).draws, .cancelOrder ⟨1⟩⟩] _ :=
    ((Run.start.snoc ⟨by decide, rfl⟩).snoc ⟨by decide, rfl⟩).snoc ⟨by decide, rfl⟩
  exact ⟨_, _, hrun, by decide, by decide, fill_conservation hrun⟩

end DeoptBackend
