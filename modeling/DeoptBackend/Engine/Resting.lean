import DeoptBackend.Engine.Conservation

/-!
# Who rests in the books

What a command does to the orders that rest, by name: a fill changes sizes and
statuses but never whose order it is, so an order that rests afterwards rested
before, or is the one that was just sent.

* `EngineInv.resting_submitOrder` — a submit makes no order rest but its own, and
  then reports it as accepted, with something left to fill.
* `EngineInv.resting_cancelOrder` — after a cancel the order does not rest, and
  nothing else has changed.
* `EngineInv.recorded_process` — no command forgets an order.
-/

namespace DeoptBackend

open OrderBook FMap EngineState List

/-- What a fill never changes: the id, the account, the client's own name for the
order, and the market. -/
structure OrderName where
  orderId : OrderId
  account : AccountId
  clientOrderId : Option String
  marketId : MarketId

def Order.name (o : Order) : OrderName :=
  ⟨o.orderId, o.account, o.clientOrderId, o.marketId⟩

/-! ## One book -/

variable {b : OrderBook} {id : OrderId}

theorem OrderBook.mem_restingOrders :
    o ∈ b.restingOrders ↔ ∃ id, b.Rests id ∧ b.orders.get? id = some o := by
  simp only [restingOrders, mem_filterMap, mem_keys_iff, Rests]

section Loop

/-- The taker leaves the loop under the name it came with. -/
theorem OrderBook.Fills.taker_name (hf : Fills clock b taker n b' taker' trades updates) :
    taker'.name = taker.name := by
  induction hf with
  | done => rfl
  | fill _ _ _ ih => exact ih

theorem OrderBook.Fills.rests (hf : Fills clock b taker n b' taker' trades updates) (h : Inv b)
    (hid : b'.Rests id) : b.Rests id := by
  by_contra hnone
  exact not_rests_iff.2 (hf.unlocated h (not_rests_iff.1 hnone)).1 hid

end Loop

/-- A taker that rests is the order with its name, and has something left. -/
theorem OrderBook.Settled.resting (hs : Settled b taker trades b' final)
    (hloc : b.locations.get? taker.orderId = none) (hrests : b'.Rests taker.orderId) :
    b'.orders.get? taker.orderId = some final ∧ final.name = taker.name ∧
      0 < final.remainingSize1e8 := by
  cases hs with
  | filled => exact absurd hrests (not_rests_iff.2 hloc)
  | rested hpos => exact ⟨get?_set_self _ _ _, rfl, hpos⟩
  | dropped => exact absurd hrests (not_rests_iff.2 hloc)

/-- **What rests after a submit.**  An order that rested before, under its name,
or the new order, which was accepted. -/
theorem OrderBook.Submitted.resting {order : Order} (hs : Submitted clock b order b' r) (h : Inv b)
    (hnew : b.orders.get? order.orderId = none) (ho : o ∈ b'.restingOrders) :
    (∃ o₀ ∈ b.restingOrders, o₀.name = o.name) ∨ (o.name = order.name ∧ 0 < o.remainingSize1e8 ∧
        ∃ result, r = .ok result ∧ result.order = o) := by
  have hloc := h.unlocated_of_new hnew
  obtain ⟨id, hrests, hrow⟩ := mem_restingOrders.mp ho
  cases hs with
  | invalid => exact .inl ⟨o, ho, rfl⟩
  | rejected =>
    refine .inl ⟨o, mem_restingOrders.mpr ⟨id, hrests, ?_⟩, rfl⟩
    have hid : id ≠ order.orderId := by
      rintro rfl
      exact not_rests_iff.2 hloc hrests
    rwa [orders_putRow, Order.withStatus_orderId, get?_set_ne _ hid] at hrow
  | @accepted b₁ _ taker final trades updates hvalid _ _ _ hfills hsettled =>
    -- the row of the order is put in before the loop, where nothing rests under its id
    have hopen := h.setUnlocated (o := order.withStatus .open) hloc
    have hloc₁ := (hfills.unlocated hopen hloc).1
    have hname := hfills.taker_name
    have htaker : taker.orderId = order.orderId := congrArg OrderName.orderId hname
    rw [← htaker] at hloc₁
    by_cases hid : id = taker.orderId
    · subst hid
      obtain ⟨hfinal, hfname, hpos⟩ := hsettled.resting hloc₁ hrests
      cases hrow.symm.trans hfinal
      exact .inr ⟨hfname.trans hname, hpos, _, rfl, rfl⟩
    · have hframe := hsettled.frame hid
      have hrests₁ : b₁.Rests id := by rwa [Rests, ← hframe.1]
      have hnames := hfills.map_get? (f := Order.name) (fun _ _ => rfl) id
      rw [← hframe.2, hrow, Option.map_some] at hnames
      rw [orders_putRow, Order.withStatus_orderId, get?_set_ne _ (htaker ▸ hid)] at hnames
      obtain ⟨o₀, ho₀, hname₀⟩ := Option.map_eq_some_iff.mp hnames.symm
      exact .inl ⟨o₀, mem_restingOrders.mpr ⟨id, hfills.rests hopen hrests₁, ho₀⟩, hname₀⟩

/-! ## The engine -/

variable {s : EngineState}

theorem EngineState.mem_restingOrders :
    o ∈ s.restingOrders ↔ ∃ m b, s.orderbooks.get? m = some b ∧ o ∈ b.restingOrders := by
  simp only [restingOrders, mem_insertionSort, mem_flatMap, mem_vals, ← exists_and_right]
  exact exists_comm

/-- An order rests under the name. -/
def EngineState.RestsAs (s : EngineState) (name : OrderName) : Prop :=
  ∃ o ∈ s.restingOrders, o.name = name

theorem EngineState.restsAs_of_mem (ho : o ∈ s.restingOrders) : s.RestsAs o.name := ⟨o, ho, rfl⟩

theorem EngineState.mem_restingOrders_setBook (ho : o ∈ (s.setBook m b').restingOrders) :
    o ∈ b'.restingOrders ∨ o ∈ s.restingOrders := by
  obtain ⟨m', b, hb, ho⟩ := mem_restingOrders.mp ho
  rcases get?_set_eq_some.1 hb with ⟨-, rfl⟩ | ⟨-, hb⟩
  · exact .inl ho
  · exact .inr (mem_restingOrders.mpr ⟨m', b, hb, ho⟩)

section

variable (h : EngineInv s events)
include h

theorem EngineInv.orderId_of_mem (hb : s.orderbooks.get? m = some b) (ho : o ∈ b.restingOrders) :
    b.Rests o.orderId ∧ b.orders.get? o.orderId = some o := by
  obtain ⟨id, hrests, hrow⟩ := mem_restingOrders.mp ho
  obtain rfl := (h.books _ _ hb).keyed id o hrow
  exact ⟨hrests, hrow⟩

/-- **What rests after a submit.** -/
theorem EngineInv.resting_submitOrder {order : NewOrder} (hnew : s.Unrecorded draws.orderId)
    (ho : o ∈ (s.submitOrder draws order).1.restingOrders) :
    (o.orderId ≠ draws.orderId ∧ s.RestsAs o.name) ∨
      (o.name = ⟨draws.orderId, order.account, order.clientOrderId, order.marketId⟩ ∧
        0 < o.remainingSize1e8 ∧ ∃ result, result.order = o ∧
          (s.submitOrder draws order).2 = .ok (submitEvents draws result)) := by
  have hs := h.submitted order hnew
  generalize s.submitOrder draws order = out at hs ho ⊢
  have hold : s.RestsAs o.name → o.orderId ≠ draws.orderId ∧ s.RestsAs o.name := by
    refine fun hrests => ⟨fun hid => ?_, hrests⟩
    obtain ⟨o₀, ho₀, hname⟩ := hrests
    obtain ⟨m, b, hb, hob⟩ := mem_restingOrders.mp ho₀
    have hid₀ : o₀.orderId = draws.orderId := (congrArg OrderName.orderId hname).trans hid
    have hrow := (h.orderId_of_mem hb hob).2
    rw [hid₀, hnew m b hb] at hrow
    cases hrow
  have hbook : ∀ {b b' r}, s.orderbooks.get? order.marketId = some b →
      Submitted draws.clock b (order.taken draws) b' r →
      o ∈ (s.setBook order.marketId b').restingOrders →
      (o.orderId ≠ draws.orderId ∧ s.RestsAs o.name) ∨
        o.name = (order.taken draws).name ∧ 0 < o.remainingSize1e8 ∧
          ∃ result, r = .ok result ∧ result.order = o := by
    intro b b' r hb hsub ho
    rcases mem_restingOrders_setBook ho with ho | ho
    · refine (hsub.resting (h.books _ b hb) (hnew _ b hb) ho).imp_left ?_
      rintro ⟨o₀, ho₀, hname⟩
      exact hold ⟨o₀, mem_restingOrders.mpr ⟨_, b, hb, ho₀⟩, hname⟩
    · exact .inl (hold (restsAs_of_mem ho))
  cases hs with
  | unknown => exact .inl (hold (restsAs_of_mem ho))
  | accepted hb hsub =>
    rcases hbook hb hsub ho with hold | ⟨hname, hpos, result, hres, hord⟩
    · exact .inl hold
    · obtain rfl := Outcome.ok.inj hres
      exact .inr ⟨hname, hpos, _, hord, rfl⟩
  | refused hb hsub =>
    rcases hbook hb hsub ho with hold | ⟨-, -, result, hres, -⟩
    · exact .inl hold
    · cases hres

theorem EngineInv.bookOf_of_resting (hb : s.orderbooks.get? m = some b)
    (hrow : b.orders.get? id = some o) : s.bookOf id = some (m, b) := by
  cases hfind : s.bookOf id with
  | none =>
    have hnone := findSome?_eq_none_iff.mp hfind ⟨m, b⟩ (get?_eq_some_iff.mp hb)
    simp [OrderBook.getOrder, hrow] at hnone
  | some e =>
    have hb' := bookOf_some hfind
    obtain ⟨⟨k, w⟩, -, he⟩ := exists_of_findSome?_eq_some hfind
    split at he
    · rename_i hsome
      obtain ⟨o', ho'⟩ := Option.isSome_iff_exists.mp hsome
      obtain ⟨rfl, rfl⟩ := he
      obtain rfl := h.unique hb hb' hrow ho'
      cases hb.symm.trans hb'
      rfl
    · cases he

/-- **What a cancel does.**  It answers with the order as it rested, or that there
is none; afterwards the order does not rest, and whatever rests rested before. -/
theorem EngineInv.resting_cancelOrder (id : OrderId) : ((∃ o₀ ∈ s.restingOrders, o₀.orderId = id ∧
        (s.cancelOrder id).2 = .ok [.orderCancelled ((o₀.withStatus .cancelled).withRemaining 0)]) ∨
      (s.cancelOrder id).2 = .err (.orderNotFound id) ∨
      (s.cancelOrder id).2 = .err (.orderNotOpen id)) ∧
    ∀ o ∈ (s.cancelOrder id).1.restingOrders, o.orderId ≠ id ∧ o ∈ s.restingOrders := by
  cases hfind : s.bookOf id with
  | none =>
    simp only [EngineState.cancelOrder, hfind]
    refine ⟨.inr (.inl trivial), ?_⟩
    rintro o ho
    refine ⟨?_, ho⟩
    rintro rfl
    obtain ⟨m, b, hb, hob⟩ := mem_restingOrders.mp ho
    cases hfind.symm.trans (h.bookOf_of_resting hb (h.orderId_of_mem hb hob).2)
  | some e =>
    obtain ⟨m, b⟩ := e
    have hb := bookOf_some hfind
    have hinv := h.books _ b hb
    -- an order of that id can only rest in that book
    have hother : ∀ o ∈ s.restingOrders, o.orderId = id → o ∈ b.restingOrders := by
      rintro o ho rfl
      obtain ⟨m', b', hb', hob⟩ := mem_restingOrders.mp ho
      cases hfind.symm.trans (h.bookOf_of_resting hb' (h.orderId_of_mem hb' hob).2)
      exact hob
    rcases cancel_spec hinv id with ⟨hloc, heq⟩ | ⟨o, b', hloc, hrow, -, hlocs, hrows, -, heq⟩
    · simp only [EngineState.cancelOrder, hfind, heq]
      refine ⟨.inr (.inr trivial), ?_⟩
      intro o ho
      have ho : o ∈ s.restingOrders := by
        rcases mem_restingOrders_setBook ho with ho | ho
        · exact mem_restingOrders.mpr ⟨m, b, hb, ho⟩
        · exact ho
      refine ⟨fun hid => ?_, ho⟩
      exact not_rests_iff.2 (hid ▸ hloc) (h.orderId_of_mem hb (hother o ho hid)).1
    · simp only [EngineState.cancelOrder, hfind, heq]
      have hrests : o ∈ b.restingOrders := mem_restingOrders.mpr ⟨id, ⟨_, hloc⟩, hrow⟩
      refine ⟨.inl ⟨o, mem_restingOrders.mpr ⟨m, b, hb, hrests⟩,
        hinv.keyed id o hrow, rfl⟩, ?_⟩
      intro p hp
      obtain ⟨m', w, hw, hpw⟩ := mem_restingOrders.mp hp
      rcases get?_set_eq_some.1 hw with ⟨-, rfl⟩ | ⟨hm, hw⟩
      · obtain ⟨j, ⟨loc, hl⟩, hj⟩ := mem_restingOrders.mp hpw
        rw [hlocs, get?_del_eq_some] at hl
        rw [hrows, get?_set_ne _ hl.1] at hj
        have hkey := hinv.keyed j p hj
        exact ⟨hkey ▸ hl.1, mem_restingOrders.mpr ⟨m, b, hb,
          mem_restingOrders.mpr ⟨j, ⟨loc, hl.2⟩, hj⟩⟩⟩
      · have hps := mem_restingOrders.mpr ⟨m', w, hw, hpw⟩
        refine ⟨fun hid => hm ?_, hps⟩
        have hpb := hother p hps hid
        exact h.unique hw hb (h.orderId_of_mem hw hpw).2 (h.orderId_of_mem hb hpb).2

end

/-! ## Rows stay -/

/-- Some book has a row of the order. -/
def EngineState.Recorded (s : EngineState) (id : OrderId) : Prop :=
  ∃ m b o, s.orderbooks.get? m = some b ∧ b.orders.get? id = some o

theorem EngineState.not_recorded_iff : ¬ s.Recorded id ↔ s.Unrecorded id := by
  simp [Recorded, Unrecorded, Option.eq_none_iff_forall_ne_some]

theorem EngineState.recorded_of_order (h : (s.order id).isSome = true) : s.Recorded id := by
  obtain ⟨o, ho⟩ := Option.isSome_iff_exists.mp h
  obtain ⟨⟨m, b⟩, hfind, hrow⟩ := Option.bind_eq_some_iff.mp ho
  exact ⟨m, b, o, bookOf_some hfind, hrow⟩

/-- A book is replaced by one with the rows of the old. -/
theorem EngineState.Recorded.setBook (h : s.Recorded id) (hb : s.orderbooks.get? m = some b)
    (hrows : ∀ o, b.orders.get? id = some o → ∃ o', b'.orders.get? id = some o') :
    (s.setBook m b').Recorded id := by
  obtain ⟨m₁, b₁, o, hb₁, ho⟩ := h
  by_cases hm : m₁ = m
  · subst hm
    cases hb.symm.trans hb₁
    obtain ⟨o', ho'⟩ := hrows o ho
    exact ⟨m₁, b', o', get?_set_self _ _ _, ho'⟩
  · refine ⟨m₁, b₁, o, ?_, ho⟩
    rw [EngineState.setBook, get?_set_ne _ hm]
    exact hb₁

theorem EngineInv.recorded_submitOrder (h : EngineInv s events) {order : NewOrder}
    (hnew : s.Unrecorded draws.orderId) (hid : s.Recorded id) :
    (s.submitOrder draws order).1.Recorded id := by
  have hs := h.submitted order hnew
  generalize s.submitOrder draws order = out at hs ⊢
  have hbook : ∀ {b b' r}, s.orderbooks.get? order.marketId = some b →
      Submitted draws.clock b (order.taken draws) b' r →
      (s.setBook order.marketId b').Recorded id := by
    intro b b' r hb hsub
    have hacc := submit_accounts (h.books _ b hb) (hnew _ b hb) rfl (h.balanced _ b hb)
      (h.unnamed _ hnew) hsub
    have hne : id ≠ draws.orderId := by
      rintro rfl
      exact not_recorded_iff.2 hnew hid
    refine hid.setBook hb fun o ho => ?_
    obtain ⟨o', ho', -⟩ := row_of_sizes ho (hacc.sizes id hne)
    exact ⟨o', ho'⟩
  cases hs with
  | unknown => exact hid
  | accepted hb hsub => exact hbook hb hsub
  | refused hb hsub => exact hbook hb hsub

theorem EngineInv.recorded_cancelOrder (h : EngineInv s events) (j : OrderId)
    (hid : s.Recorded id) : (s.cancelOrder j).1.Recorded id := by
  cases hfind : s.bookOf j with
  | none => simpa [EngineState.cancelOrder, hfind] using hid
  | some e =>
    obtain ⟨m, b⟩ := e
    have hb := bookOf_some hfind
    have hsizes := (cancel_accounts (h.books _ b hb) (h.balanced _ b hb) j).2
    have hstate : (s.cancelOrder j).1 = s.setBook m (b.cancel j).1 := by
      simp only [EngineState.cancelOrder, hfind]
      split <;> next heq => rw [heq]
    rw [hstate]
    refine hid.setBook hb fun o ho => ?_
    obtain ⟨o', ho', -⟩ := row_of_sizes ho (hsizes id)
    exact ⟨o', ho'⟩

/-- **No command forgets an order.** -/
theorem EngineInv.recorded_process (h : EngineInv s events) (hnew : s.Admits draws command)
    (hid : s.Recorded id) : (s.process draws command).1.Recorded id := by
  cases command with
  | submitOrder => exact h.recorded_submitOrder hnew hid
  | cancelOrder j => exact h.recorded_cancelOrder j hid
  | replaceOrder => exact hid

end DeoptBackend
