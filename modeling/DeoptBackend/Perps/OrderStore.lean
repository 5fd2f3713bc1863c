import DeoptBackend.Lib.Act
import DeoptBackend.Lib.FiniteMap
import DeoptBackend.Lib.Greedy
import DeoptBackend.Perps.Types

/-!
# The order store and the book (`src/perps/{order_store,orderbook}.rs`)

`PerpOrderStore` keeps the orders by identifier, the fills in the order they were
made, and an index of client order ids.  There is no book beside it: the
counterparties of an arriving order are the active orders of the other side,
sorted when they are needed.

* `insertOrder`, `update`, `insertFill`, `cancelOpenOrdersForAccountMarket` — the
  operations of the store.
* `counterpartiesFor` — the makers in match order: best price, then oldest, then
  identifier.
* `planFillsPure` — the walk along them.
-/

namespace DeoptBackend

/-! ## The store -/

/-- The in-memory orders and fills. -/
structure PerpOrderStore where
  orders : FMap Uuid PerpOrder
  /-- The fills, oldest first. -/
  fills : List PerpFill
  /-- (case-folded account, subaccount, client order id) to identifier. -/
  byClientOrderId : FMap IndexKey Uuid

def PerpOrder.key (lower : String → String) (o : PerpOrder) : IndexKey :=
  indexKey lower o.account o.subaccountId o.marketId

namespace PerpOrderStore

def empty : PerpOrderStore := ⟨∅, [], ∅⟩

def withOrders (store : PerpOrderStore) (orders : FMap Uuid PerpOrder) : PerpOrderStore :=
  { store with orders := orders }

section

variable (lower : String → String)

/-- `insert_order`. -/
def insertOrder (order : PerpOrder) : Act Fault PerpOrderStore PerpOrder := fun store =>
  match order.clientOrderId with
  | none => (.ok order, store.withOrders (store.orders.set order.id order))
  | some clientId =>
    let key := indexKey lower order.account order.subaccountId clientId
    if (store.byClientOrderId.get? key).isSome then
      (.error (.err (.perpDuplicateClientOrderId clientId)), store)
    else
      (.ok order, { store with
          orders := store.orders.set order.id order
          byClientOrderId := store.byClientOrderId.set key order.id })

/-- `get`. -/
def get (store : PerpOrderStore) (id : Uuid) : Option PerpOrder := store.orders.get? id

/-- `update`: the row is changed and stamped. -/
def update (id : Uuid) (now : TimestampMs) (mutator : PerpOrder → PerpOrder) :
    Act Fault PerpOrderStore PerpOrder := fun store =>
  match store.orders.get? id with
  | none => (.error (.err (.perpOrderNotFound (Uuid.show id))), store)
  | some order =>
    let order := { mutator order with updatedAtMs := now }
    (.ok order, store.withOrders (store.orders.set id order))

/-- `insert_fill`. -/
def insertFill (fill : PerpFill) (store : PerpOrderStore) : PerpOrderStore :=
  { store with fills := store.fills ++ [fill] }

/-- `list_active_orders_for_market`. -/
def listActiveOrdersForMarket (store : PerpOrderStore) (marketId : String) : List PerpOrder :=
  store.orders.vals.filter fun o => o.marketId = marketId ∧ o.status.isActive

variable (store : PerpOrderStore) (account : AccountId) (subaccountId : Nat) (marketId : String)

/-- The rows `cancel_open_orders_for_account_market` picks. -/
def openOrdersForAccountMarket : List PerpOrder :=
  store.orders.vals.filter fun o =>
    o.marketId = marketId ∧ lower o.account.name = lower account.name ∧
      o.subaccountId = subaccountId ∧ o.status.isActive

variable (reasonCode reasonSource : String) (now : TimestampMs)

def cancelledRow (o : PerpOrder) : PerpOrder :=
  { o with
    status := .cancelled
    terminalReasonCode := some reasonCode
    terminalReasonSource := some reasonSource
    updatedAtMs := now }

/-- `cancel_open_orders_for_account_market`, without the list of cancelled rows it
returns for the event stream. -/
def cancelOpenOrdersForAccountMarket : PerpOrderStore :=
  let ids := (store.openOrdersForAccountMarket lower account subaccountId marketId).map (·.id)
  store.withOrders
    (ids.foldl (fun m id => m.alter id (cancelledRow reasonCode reasonSource now)) store.orders)

end

variable {store : PerpOrderStore}

/-- **The engine cancels the active orders under one key**, and nothing else. -/
theorem get_cancelOpenOrders (hfiled : ∀ {id o}, store.get id = some o → o.id = id)
    (account : AccountId) (subaccountId : Nat) (marketId : String) (code source : String)
    (now : TimestampMs) (id : Uuid) :
    (store.cancelOpenOrdersForAccountMarket lower account subaccountId marketId code source
        now).get id =
      (store.get id).map fun o =>
        if o.key lower = indexKey lower account subaccountId marketId ∧ o.status.isActive = true
        then cancelledRow code source now o else o := by
  have hidem (o : PerpOrder) : cancelledRow code source now (cancelledRow code source now o) =
      cancelledRow code source now o := rfl
  rw [cancelOpenOrdersForAccountMarket, get, withOrders, FMap.get?_foldl_alter hidem]
  cases ho : store.get id with
  | none => rw [get] at ho; simp [ho]
  | some o =>
    have hpick : id ∈ ((store.openOrdersForAccountMarket lower account subaccountId
          marketId).map (·.id)) ↔
        o.key lower = indexKey lower account subaccountId marketId ∧ o.status.isActive = true := by
      simp only [openOrdersForAccountMarket, List.mem_map, List.mem_filter, FMap.mem_vals,
        decide_eq_true_eq, PerpOrder.key, indexKey, Prod.mk.injEq]
      constructor
      · rintro ⟨o', ⟨⟨id', hget⟩, hm, ha, hs, hact⟩, rfl⟩
        obtain rfl := hfiled hget
        obtain rfl := Option.some.inj (hget.symm.trans ho)
        exact ⟨⟨ha, hs, hm⟩, hact⟩
      · rintro ⟨⟨ha, hs, hm⟩, hact⟩
        exact ⟨o, ⟨⟨id, ho⟩, hm, ha, hs, hact⟩, hfiled ho⟩
    rw [get] at ho
    simp only [hpick, ho, Option.map_some]
    split <;> rfl

end PerpOrderStore

/-! ## The book -/

/-- Asks are sorted by price, then age, then identifier. -/
def askBefore (a b : PerpOrder) : Prop :=
  a.price1e8 < b.price1e8 ∨ (a.price1e8 = b.price1e8 ∧
    (a.createdAtMs < b.createdAtMs ∨ (a.createdAtMs = b.createdAtMs ∧ a.id ≤ b.id)))
  deriving Decidable

/-- Bids are sorted by price downwards, then age, then identifier. -/
def bidBefore (a b : PerpOrder) : Prop :=
  b.price1e8 < a.price1e8 ∨ (b.price1e8 = a.price1e8 ∧
    (a.createdAtMs < b.createdAtMs ∨ (a.createdAtMs = b.createdAtMs ∧ a.id ≤ b.id)))
  deriving Decidable

instance : Std.Total askBefore := ⟨fun a b => by grind [askBefore]⟩

instance : Std.Total bidBefore := ⟨fun a b => by grind [bidBefore]⟩

instance : IsTrans PerpOrder askBefore := ⟨fun a b c => by grind [askBefore]⟩

instance : IsTrans PerpOrder bidBefore := ⟨fun a b c => by grind [bidBefore]⟩

variable (store : PerpOrderStore) (marketId : String)

/-- `active_asks_sorted`. -/
def activeAsksSorted : List PerpOrder :=
  ((store.listActiveOrdersForMarket marketId).filter fun o => o.side = .sell).insertionSort
    askBefore

/-- `active_bids_sorted`. -/
def activeBidsSorted : List PerpOrder :=
  ((store.listActiveOrdersForMarket marketId).filter fun o => o.side = .buy).insertionSort
    bidBefore

/-- `counterparties_for`. -/
def counterpartiesFor : PerpOrderSide → List PerpOrder
  | .buy => activeAsksSorted store marketId
  | .sell => activeBidsSorted store marketId

/-- `crosses`. -/
def crosses : PerpOrderSide → Nat → Nat → Bool
  | .buy, takerPrice1e8, makerPrice1e8 => decide (takerPrice1e8 ≥ makerPrice1e8)
  | .sell, takerPrice1e8, makerPrice1e8 => decide (takerPrice1e8 ≤ makerPrice1e8)

/-- The walk along the makers: `remaining` is what is still wanted. -/
def planFillsFrom (taker : PerpOrder) : List PerpOrder → Nat → List PlannedFill
  | [], _ => []
  | maker :: rest, remaining =>
    if remaining = 0 then []
    else if crosses taker.side taker.price1e8 maker.price1e8 = false then []
    else
      let fill := min remaining maker.remainingSize1e8
      if fill = 0 then planFillsFrom taker rest remaining
      else
        { makerOrderId := maker.id
          makerAccount := maker.account
          price1e8 := maker.price1e8
          size1e8 := fill } :: planFillsFrom taker rest (remaining - fill)

/-- `plan_fills_pure`.  The loop of `plan_fills` has the same text. -/
def planFillsPure (taker : PerpOrder) (counterparties : List PerpOrder) : List PlannedFill :=
  planFillsFrom taker counterparties taker.size1e8

/-- `plan_fills`. -/
def planFills (store : PerpOrderStore) (taker : PerpOrder) : List PlannedFill :=
  planFillsPure taker (counterpartiesFor store taker.marketId taker.side)

end DeoptBackend
