import DeoptBackend.Engine.Resting
import DeoptBackend.Orderbook.Reference
import DeoptBackend.Signing.Signature

/-!
# Trades of an account with itself

A book compares the account strings of the orders, and an address has many spellings.

* `SameAccount` — two strings for one account.
* `SelfTradeFree` — what is asked of a submit.
* `self_trade_free_iff` — it is met exactly when the order is refused, or crosses no resting order
  of its account under another spelling.
* `intent_between_orders` — an intent tells the buy order from the sell order by account strings,
  and tells them right: a trade is never between equal ones.
-/

namespace DeoptBackend

open OrderBook FMap List

/-- The strings are equal, or spell the same twenty bytes. -/
def SameAccount (a b : AccountId) : Prop :=
  a = b ∨ ∃ address, parseEvmAddress a = .ok address ∧ parseEvmAddress b = .ok address

/-- The maker rests on the other side, at a price the order takes. -/
def OrderBook.Crosses (b : OrderBook) (order maker : Order) : Prop :=
  maker ∈ b.restingOrders ∧ maker.side = order.side.opposite ∧
    pricesCross order.side maker.price1e8 order.price1e8 = true

def EngineState.submitTrades (s : EngineState) (draws : Draws) (order : NewOrder) :
    List TradeMatch :=
  tradesIn (eventsOf (s.submitOrder draws order).2)

/-- No trade is of an account with itself, and an order that would cross one of its own account
does nothing. -/
structure SelfTradeFree (s : EngineState) (draws : Draws) (order : NewOrder) : Prop where
  distinct : ∀ t ∈ s.submitTrades draws order, ¬ SameAccount t.makerAccount t.takerAccount
  refused : ∀ b maker, s.orderbooks.get? order.marketId = some b →
    b.Crosses (order.taken draws) maker → SameAccount maker.account order.account →
    s.submitTrades draws order = [] ∧ ∀ m b, s.orderbooks.get? m = some b → ∃ b',
        (s.submitOrder draws order).1.orderbooks.get? m = some b' ∧ SameBut draws.orderId b b'

/-- The intent is of these two orders, and says whether the buy was resting. -/
structure ExecutionIntent.Between (intent : ExecutionIntent) (buy sell : Order)
    (buyRested : Bool) : Prop where
  buyer : intent.buyer = buy.account
  seller : intent.seller = sell.account
  buyOrderId : intent.buyOrderId = buy.orderId
  sellOrderId : intent.sellOrderId = sell.orderId
  buyerIsMaker : intent.buyerIsMaker = some buyRested
  buyerNonce : intent.buyerNonce = buy.signedNonce
  sellerNonce : intent.sellerNonce = sell.signedNonce
  deadline : ∀ d e, buy.signedDeadlineMs = some d → sell.signedDeadlineMs = some e →
    intent.deadlineMs = some (min d e)

section

variable {b : OrderBook}

theorem OrderBook.Inv.queued_of_crosses (h : Inv b) (hc : b.Crosses order maker) :
    ∃ id ∈ b.queue order.side.opposite maker.price1e8, b.orders.get? id = some maker := by
  obtain ⟨hmem, hside, -⟩ := hc
  obtain ⟨id, ⟨loc, hloc⟩, hrow⟩ := mem_restingOrders.1 hmem
  obtain ⟨o, ho, hoside, hprice, -⟩ := h.row id loc hloc
  cases hrow.symm.trans ho
  refine ⟨id, (h.queued_iff id _ _).2 ?_, hrow⟩
  rw [hloc, ← hside, hoside, hprice]

theorem OrderBook.Best.crosses {best : Order} (hb : Best b order.side order.price1e8 best rest)
    (h : Inv b) : b.Crosses order best :=
  ⟨mem_restingOrders.2 ⟨_, ⟨_, hb.located h⟩, hb.row⟩, hb.side, hb.cross⟩

/-- What crosses after a fill crossed before it, and would be traded with alike. -/
theorem OrderBook.Best.crosses_of_afterFill {best : Order}
    (hb : Best b order.side order.price1e8 best rest) (h : Inv b)
    (hc : (b.afterFill best m).Crosses order maker) :
    ∃ o, b.Crosses order o ∧ ∀ k n ts, tradeOf k order maker n ts = tradeOf k order o n ts := by
  obtain ⟨hmem, hside, hcross⟩ := hc
  obtain ⟨id, hrests, hrow⟩ := mem_restingOrders.1 hmem
  rw [orders_afterFill] at hrow
  rcases get?_set_eq_some.1 hrow with ⟨-, rfl⟩ | ⟨hne, hrow⟩
  · exact ⟨best, hb.crosses h, fun _ _ _ => rfl⟩
  · rw [rests_afterFill_of_ne hne] at hrests
    exact ⟨maker, ⟨mem_restingOrders.2 ⟨id, hrests, hrow⟩, hside, hcross⟩, fun _ _ _ => rfl⟩

theorem OrderBook.Fills.maker_crosses (hf : Fills clock b taker n b' taker' trades updates)
    (h : Inv b) :
    ∀ t ∈ trades, ∃ maker n ts, b.Crosses taker maker ∧ t = tradeOf b.marketId taker maker n ts := by
  induction hf with
  | done => simp
  | @fill b b' taker taker' best rest n trades updates _ hbest _ ih =>
    intro t ht
    rcases mem_cons.1 ht with rfl | ht
    · exact ⟨best, _, _, hbest.crosses h, rfl⟩
    obtain ⟨maker, m, ts, hcrosses, rfl⟩ := ih (h.afterFill hbest _) t ht
    obtain ⟨o, ho, hsame⟩ := hbest.crosses_of_afterFill h hcrosses
    refine ⟨o, m, ts, ho, ?_⟩
    rw [marketId_afterFill]
    exact hsame b.marketId m ts

/-- The row of an order that does not rest crosses nothing. -/
theorem OrderBook.crosses_putRow (hnew : b.locations.get? order.orderId = none) :
    (b.putRow (order.withStatus .open)).Crosses (order.withStatus .open) maker ↔
      b.Crosses order maker := by
  refine and_congr_left fun _ => ?_
  rw [mem_restingOrders, mem_restingOrders]
  refine exists_congr fun id => and_congr_right fun ⟨loc, hloc⟩ => ?_
  have hne : id ≠ (order.withStatus .open).orderId := by
    rintro rfl
    cases hnew.symm.trans hloc
  rw [orders_putRow, get?_set_ne _ hne]

/-- What is known of an order that is accepted. -/
theorem OrderBook.Submitted.ok (h : Inv b) (hnew : b.locations.get? order.orderId = none)
    (hs : Submitted clock b order b' (.ok result)) :
    (∀ e, ¬ b.Refused order e) ∧ (∀ t ∈ result.trades, ∃ maker n ts, b.Crosses order maker ∧
      t = tradeOf b.marketId order maker n ts) ∧
    ((∃ maker, b.Crosses order maker) → result.trades ≠ []) := by
  cases hs with
  | accepted hvalid htif hself hpost hfills =>
    have hopen : Inv (b.putRow (order.withStatus .open)) := h.setUnlocated hnew
    obtain ⟨hprice, hsize, hremaining⟩ := validateOrder_eq_none_iff.1 hvalid
    refine ⟨fun e he => ?_, fun t ht => ?_, ?_⟩
    · unfold Refused at he
      split at he <;> simp_all
    · obtain ⟨maker, n, ts, hcrosses, htrade⟩ := hfills.maker_crosses hopen t ht
      exact ⟨maker, n, ts, (crosses_putRow hnew).1 hcrosses, htrade⟩
    rintro ⟨maker, hcrosses⟩ hnil
    subst hnil
    cases hfills with
    | done hstop =>
      obtain ⟨id, hid, -⟩ := hopen.queued_of_crosses ((crosses_putRow hnew).2 hcrosses)
      rcases hstop with hzero | hnone
      · exact hremaining hzero
      · cases hcrosses.2.2.symm.trans (hnone _ (ne_nil_of_mem hid))

theorem OrderBook.Submitted.account_ne (h : Inv b) (hs : Submitted clock b order b' (.ok result))
    (hc : b.Crosses order maker) : maker.account ≠ order.account := by
  cases hs with
  | accepted _ _ hself =>
    intro heq
    obtain ⟨id, hid, hrow⟩ := h.queued_of_crosses hc
    rw [(wouldSelfTrade_iff b order).2 ⟨_, id, maker, hid, hc.2.2, hrow, heq⟩] at hself
    cases hself

/-- **An intent is of the two orders of its trade.**  In every book that calls lead to, each trade
of an accepted submit is between the order and a resting order across from it, and the intent made
of it has the accounts, ids, nonces and deadlines of the buy and of the sell order where they
belong. -/
theorem intent_between_orders {marketId : MarketId} {calls : List Call}
    (hrun : Reached marketId calls b) (hnew : (Call.submit clock order).Allowed b)
    {result : OrderSubmitResult} (hok : (b.submit clock order).2 = .ok result)
    {t : TradeMatch} (ht : t ∈ result.trades) (intentId : Uuid) :
    ∃ maker, b.Crosses order maker ∧ t.makerOrderId = maker.orderId ∧
      t.takerOrderId = order.orderId ∧ match order.side with
        | .buy => (intentFromTrade intentId t).Between order maker false
        | .sell => (intentFromTrade intentId t).Between maker order true := by
  have h := Inv.of_run hrun
  have hloc := h.unlocated_of_new hnew.1
  have hs := submit_spec h clock hloc
  rw [hok] at hs
  obtain ⟨maker, n, ts, hcrosses, rfl⟩ := (hs.ok h hloc).2.1 t ht
  have hne := hs.account_ne h hcrosses
  refine ⟨maker, hcrosses, rfl, rfl, ?_⟩
  cases hside : order.side with
  | buy =>
    constructor <;> simp +contextual [intentFromTrade, tradeOf, hside, hne.symm, min_comm]
  | sell =>
    constructor <;> simp +contextual [intentFromTrade, tradeOf, hside, hne]

end

/-- A seller that meets a resting buyer. -/
theorem intent_between_resting_buy : ∃ b t, t.makerOrderId = ⟨1⟩ ∧
    ∃ maker, OrderBook.Crosses b (OrderBook.plainOrder 2 "seller" .sell 5 4) maker ∧
      (intentFromTrade 9 t).Between maker (OrderBook.plainOrder 2 "seller" .sell 5 4) true := by
  have hrun : Reached 1 [.submit (fun _ => 0) (OrderBook.plainOrder 1 "buyer" .buy 5 10)] _ :=
    Run.start.snoc ⟨by decide, rfl⟩
  obtain ⟨maker, hcrosses, -, -, hbetween⟩ := intent_between_orders hrun
    (by decide : (Call.submit (fun _ => 0) (OrderBook.plainOrder 2 "seller" .sell 5 4)).Allowed _)
    rfl mem_cons_self 9
  exact ⟨_, _, rfl, maker, hcrosses, hbetween⟩

/-- **When no account trades with itself.**  In every engine that commands lead to, a submit is
free of self-trades exactly when the book refuses the order by itself, or the order crosses no
resting order of its account. -/
theorem self_trade_free_iff {markets : List Market} {requests : List Request} {l : Logged}
    (hrun : EngineReached markets requests l) {draws : Draws} {order : NewOrder}
    (hnew : l.engine.Admits draws (.submitOrder order)) : SelfTradeFree l.engine draws order ↔
      ∀ b, l.engine.orderbooks.get? order.marketId = some b →
        (∃ e, b.Refused (order.taken draws) e) ∨ ∀ maker, b.Crosses (order.taken draws) maker →
            ¬ SameAccount maker.account order.account := by
  have h := engineInv_of_reached hrun
  have hs := h.submitted order hnew
  generalize hout : l.engine.submitOrder draws order = out at hs
  have htrades : l.engine.submitTrades draws order = tradesIn (eventsOf out.2) := by
    rw [EngineState.submitTrades, hout]
  cases hs with
  | unknown hb =>
    refine iff_of_true ⟨?_, fun b _ hget => ?_⟩ fun b hget => ?_
    · rw [htrades]
      exact fun _ ht => absurd ht not_mem_nil
    · cases hb.symm.trans hget
    · cases hb.symm.trans hget
  | @accepted b _ result hb hsub =>
    have hinv := h.books _ b hb
    obtain ⟨hpassed, hmakers, hfilled⟩ := hsub.ok hinv (hinv.unlocated_of_new (hnew _ b hb))
    replace htrades := htrades.trans (tradesIn_submitEvents draws result)
    constructor
    · intro hfree _ hget
      cases hb.symm.trans hget
      refine .inr fun maker hcrosses hsame => hfilled ⟨maker, hcrosses⟩ ?_
      rw [← htrades]
      exact (hfree.refused b maker hb hcrosses hsame).1
    · intro hcond
      obtain ⟨e, he⟩ | hnone := hcond b hb
      · exact absurd he (hpassed e)
      refine ⟨fun t ht hsame => ?_, fun _ maker hget hcrosses hsame => ?_⟩
      · rw [htrades] at ht
        obtain ⟨maker, n, ts, hcrosses, rfl⟩ := hmakers t ht
        exact hnone maker hcrosses hsame
      · cases hb.symm.trans hget
        exact absurd hsame (hnone maker hcrosses)
  | @refused b b' e hb hsub =>
    obtain ⟨hrefused, hsame, -⟩ := hsub.err
    refine iff_of_true ⟨?_, fun _ _ _ _ _ => ⟨htrades, fun m c hget => ?_⟩⟩ fun _ hget => ?_
    · rw [htrades]
      exact fun _ ht => absurd ht not_mem_nil
    · rw [hout]
      by_cases hm : m = order.marketId
      · subst hm
        cases hb.symm.trans hget
        exact ⟨b', get?_set_self _ _ _, hsame⟩
      · exact ⟨c, (get?_set_ne _ hm _).trans hget, rfl, rfl, rfl, fun _ _ => rfl⟩
    · cases hb.symm.trans hget
      exact .inl ⟨e, hrefused⟩

namespace Sample

/-- An address that starts with a letter, in either case. -/
def spelled (letter : Char) : String := String.ofList ('0' :: 'x' :: letter :: replicate 39 '0')

def bid : NewOrder :=
  { marketId := 1, account := ⟨spelled 'a'⟩, side := .buy, price1e8 := 5, size1e8 := 4,
    timeInForce := .gtc, reduceOnly := false, postOnly := false, clientOrderId := none,
    signedNonce := none, signedDeadlineMs := none }

def asked (account : String) : Logged :=
  Logged.take ⟨.new EngineState.defaultMarkets, []⟩ (plainRequest 1 account .sell 5 10)

theorem asked_reached (account : String) : EngineReached EngineState.defaultMarkets
    [plainRequest 1 account .sell 5 10] (asked account) := by
  have hnew : (EngineState.new EngineState.defaultMarkets).Unrecorded ⟨1⟩ := by decide
  exact Run.start.snoc ⟨hnew, rfl⟩

end Sample

open Sample in
/-- The bid is filled by another account. -/
theorem self_trade_free_two_accounts :
    SelfTradeFree (asked (spelled 'b')).engine (plainRequest 2 "" .buy 5 4).draws bid := by
  refine (self_trade_free_iff (asked_reached _) (by decide)).2 fun b hb => .inr ?_
  rintro maker ⟨hmem, -⟩ hsame
  have haccount : ∀ o ∈ b.restingOrders, o.account = ⟨spelled 'b'⟩ := by
    cases hb
    decide
  rw [haccount maker hmem] at hsame
  rcases hsame with h | ⟨address, h, h'⟩
  · exact absurd h (by decide)
  · exact absurd (h.trans h'.symm) (by decide +kernel)

open Sample in
/-- The bid is filled by its own account, in capitals. -/
theorem self_trade_by_spelling :
    EngineReached EngineState.defaultMarkets [plainRequest 1 (spelled 'A') .sell 5 10]
        (asked (spelled 'A')) ∧
      ¬ SelfTradeFree (asked (spelled 'A')).engine (plainRequest 2 "" .buy 5 4).draws bid := by
  refine ⟨asked_reached _, fun hfree => ?_⟩
  have hone : ((asked (spelled 'A')).engine.submitTrades (plainRequest 2 "" .buy 5 4).draws bid).map
      (fun t => (t.makerAccount, t.takerAccount)) = [(⟨spelled 'A'⟩, ⟨spelled 'a'⟩)] := by decide
  obtain ⟨t, ht, haccounts⟩ := mem_map.1 (hone ▸ mem_singleton_self _)
  obtain ⟨hmaker, htaker⟩ := Prod.mk.inj haccounts
  refine hfree.distinct t ht (.inr ⟨10 * 16 :: replicate 19 0, ?_, ?_⟩)
  · rw [hmaker]
    decide +kernel
  · rw [htaker]
    decide +kernel

end DeoptBackend
