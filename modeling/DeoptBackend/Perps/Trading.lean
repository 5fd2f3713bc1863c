import DeoptBackend.Perps.Execution

/-!
# What a submit decides

The two perps engines keep their rows in different ways, but what a submit
decides depends on very little: the resting orders in match order, and what each
account holds.  This module says it in those terms, and both engines are compared
with it.

* `Trade` — a resting order and the size taken from it; `tradesFrom` — the trades
  of a walk along the makers, which is what `planFillsFrom` plans
  (`planFillsFrom_eq`).
* `Holdings` — the holding under every key; `trade` — what one trade makes of
  them: the taker's side first, then the maker's; `tradeAll` — a list of trades,
  up to the first that is refused.
* `Admitted` — the gates between the plan and the commit, and the commit.
-/

namespace DeoptBackend

open PerpOrder List

open PerpPositionsStore (fillKey)

/-! ## Trades -/

/-- A resting order, and the size taken from it. -/
structure Trade where
  maker : PerpOrder
  size1e8 : Nat

/-- The terms of an order: its row, without what changes while it is worked. -/
def PerpOrder.terms (o : PerpOrder) : PerpOrder :=
  { o with
    remainingSize1e8 := 0
    filledSize1e8 := 0
    status := .open
    terminalReasonCode := none
    terminalReasonMessage := none
    terminalReasonSource := none
    updatedAtMs := 0 }

/-- What depends on the terms alone is the same for two rows of one order. -/
theorem PerpOrder.congr_terms (f : PerpOrder → α) (h : o'.terms = o.terms)
    (hf : ∀ o, f o.terms = f o := by exact fun _ => rfl) : f o' = f o := by
  rw [← hf o', h, hf]

@[simp] theorem PerpOrder.terms_makerFilled (size1e8 : Nat) (o : PerpOrder) :
    (o.makerFilled size1e8).terms = o.terms := by
  unfold makerFilled
  simp only
  split <;> rfl

namespace Trade

def plan (t : Trade) : PlannedFill :=
  { makerOrderId := t.maker.id
    makerAccount := t.maker.account
    price1e8 := t.maker.price1e8
    size1e8 := t.size1e8 }

variable (now : TimestampMs) (t : Trade)

/-- The maker's row after the trade. -/
def makerRow : PerpOrder :=
  { t.maker.makerFilled t.size1e8 with updatedAtMs := now }

/-- A trade does not change the terms of the maker's order. -/
@[simp] theorem terms_makerRow : (t.makerRow now).terms = t.maker.terms :=
  terms_makerFilled ..

@[simp] theorem id_makerRow : (t.makerRow now).id = t.maker.id := by
  exact congr_terms PerpOrder.id (terms_makerRow now t)

def total (trades : List Trade) : Nat := (trades.map (·.size1e8)).sum

@[simp] theorem total_nil : total [] = 0 := rfl

@[simp] theorem total_cons (t : Trade) (ts : List Trade) : total (t :: ts) = t.size1e8 + total ts :=
  rfl

theorem plannedTotal_map_plan (trades : List Trade) :
    plannedTotal (trades.map plan) = total trades := by
  simp [plannedTotal, total, Function.comp_def, plan]

end Trade

/-- The trades of a walk along the makers: `n` is what is wanted. -/
def tradesFrom (taker : PerpOrder) (makers : List PerpOrder) (n : Nat) : List Trade :=
  ((greedy (·.remainingSize1e8) (fun m => !crosses taker.side taker.price1e8 m.price1e8)
    makers n).filter (fun f => 0 < f.2)).map fun f => ⟨f.1, f.2⟩

/-- **The planner plans these trades.** -/
theorem planFillsFrom_eq (taker : PerpOrder) (makers : List PerpOrder) (n : Nat) :
    planFillsFrom taker makers n = (tradesFrom taker makers n).map Trade.plan := by
  induction makers generalizing n with
  | nil => rfl
  | cons maker rest ih =>
    rw [planFillsFrom]
    by_cases hn : n = 0
    · simp [hn, tradesFrom]
    by_cases hc : crosses taker.side taker.price1e8 maker.price1e8 = false
    · simp [hc, tradesFrom, greedy_stop]
    have hgo : greedy remainingSize1e8
        (fun m => !crosses taker.side taker.price1e8 m.price1e8) (maker :: rest) n =
          (maker, min n maker.remainingSize1e8) :: greedy remainingSize1e8
              (fun m => !crosses taker.side taker.price1e8 m.price1e8) rest
              (n - min n maker.remainingSize1e8) :=
      greedy_cons (Nat.pos_of_ne_zero hn) (by simpa using hc)
    rw [if_neg hn, if_neg hc]
    by_cases hfill : min n maker.remainingSize1e8 = 0
    -- a maker with nothing left is passed over
    · rw [if_pos hfill, ih, tradesFrom, tradesFrom, hgo, hfill]
      simp
    · rw [if_neg hfill, ih, tradesFrom, tradesFrom, hgo,
        filter_cons_of_pos (by simpa using Nat.pos_of_ne_zero hfill)]
      rfl

theorem planFills_eq (store : PerpOrderStore) (taker : PerpOrder) : planFills store taker =
      (tradesFrom taker (counterpartiesFor store taker.marketId taker.side) taker.size1e8).map
        Trade.plan :=
  planFillsFrom_eq _ _ _

/-- Every trade is with a maker of the list that crosses, for some of what it has
left. -/
theorem tradesFrom_mem (h : t ∈ tradesFrom taker makers n) :
    t.maker ∈ makers ∧ crosses taker.side taker.price1e8 t.maker.price1e8 = true ∧
      0 < t.size1e8 ∧ t.size1e8 ≤ t.maker.remainingSize1e8 := by
  obtain ⟨f, hf, rfl⟩ := mem_map.1 h
  obtain ⟨hf, hpos⟩ := mem_filter.1 hf
  obtain ⟨hmem, hstop, hcap⟩ := greedy_mem f hf
  exact ⟨hmem, by simpa using hstop, by simpa using hpos, hcap⟩

section

variable (taker : PerpOrder) (makers : List PerpOrder) (n : Nat)

/-- Each maker is met once, in the order of the list. -/
theorem tradesFrom_makers_sublist : ((tradesFrom taker makers n).map (·.maker)).Sublist makers := by
  rw [tradesFrom, map_map]
  exact (filter_sublist.map _).trans (greedy_fst_initial makers n).sublist

theorem total_tradesFrom : Trade.total (tradesFrom taker makers n) =
      ((greedy (·.remainingSize1e8) (fun m => !crosses taker.side taker.price1e8 m.price1e8)
        makers n).map (·.2)).sum := by
  rw [Trade.total, tradesFrom, map_map]
  generalize greedy _ _ makers n = l
  induction l with
  | nil => rfl
  | cons f l ih =>
    by_cases hf : 0 < f.2
    · rw [filter_cons_of_pos (by simpa using hf), map_cons, map_cons, sum_cons, sum_cons, ih]
      rfl
    · rw [filter_cons_of_neg (by simpa using hf), ih, map_cons, sum_cons]
      omega

theorem total_tradesFrom_le : Trade.total (tradesFrom taker makers n) ≤ n := by
  rw [total_tradesFrom]
  exact greedy_total_le makers n

end

/-! ## Holdings -/

abbrev Holdings := IndexKey → Option Holding

section

variable (lower : String → String) (market : PerpsReadMarket) (order : PerpOrder)

def fillHoldings (fill : PerpFillInput) (h : Holdings) : Except Fault Holdings :=
  match Holding.applyChecked market fill (h (fillKey lower fill)) with
  | .error e => .error e
  | .ok new => .ok (Function.update h (fillKey lower fill) new)

/-- What a trade makes of the holdings: the taker's side, then the maker's. -/
def trade (t : Trade) (h : Holdings) : Except Fault Holdings :=
  match fillHoldings lower market (takerFillInput order t.plan) h with
  | .error e => .error e
  | .ok h => fillHoldings lower market (makerFillInput order t.maker t.plan) h

/-- What a list of trades makes of the holdings, up to the first that is
refused. -/
def tradeAll : List Trade → Holdings → Except Fault Holdings
  | [], h => .ok h
  | t :: ts, h =>
    match trade lower market order t h with
    | .error e => .error e
    | .ok h => tradeAll ts h

end

theorem fillHoldings_eq_ok : fillHoldings lower market fill h = .ok h' ↔
      ∃ new, Holding.applyChecked market fill (h (fillKey lower fill)) = .ok new ∧
        h' = Function.update h (fillKey lower fill) new := by
  unfold fillHoldings
  split
  · next he => simp [he]
  · next new hok => simp [hok, eq_comm]

theorem trade_eq_ok : trade lower market order t h = .ok h' ↔
      ∃ mid, fillHoldings lower market (takerFillInput order t.plan) h = .ok mid ∧
        fillHoldings lower market (makerFillInput order t.maker t.plan) mid = .ok h' := by
  unfold trade
  split
  · next he => simp [he]
  · next mid hok => simp [hok]

theorem trade_eq_error : trade lower market order t h = .error e ↔
      fillHoldings lower market (takerFillInput order t.plan) h = .error e ∨
      ∃ mid, fillHoldings lower market (takerFillInput order t.plan) h = .ok mid ∧
        fillHoldings lower market (makerFillInput order t.maker t.plan) mid = .error e := by
  unfold trade
  split
  · next he => simp [he]
  · next mid hok => simp [hok]

theorem tradeAll_cons_eq_ok : tradeAll lower market order (t :: ts) h = .ok h' ↔
      ∃ mid, trade lower market order t h = .ok mid ∧
        tradeAll lower market order ts mid = .ok h' := by
  rw [tradeAll]
  split
  · next he => simp [he]
  · next mid hok => simp [hok]

theorem tradeAll_append_eq_ok : tradeAll lower market order (ts ++ us) h = .ok h' ↔
      ∃ mid, tradeAll lower market order ts h = .ok mid ∧
        tradeAll lower market order us mid = .ok h' := by
  induction ts generalizing h with
  | nil => simp [tradeAll]
  | cons t ts ih =>
    rw [cons_append, tradeAll_cons_eq_ok]
    simp only [tradeAll_cons_eq_ok]
    grind

/-- What a trade does to the maker's row does not change what the maker's
position is given. -/
@[simp] theorem makerFillInput_makerRow (now : TimestampMs) (t : Trade) :
    makerFillInput order (t.makerRow now) t.plan = makerFillInput order t.maker t.plan := by
  unfold Trade.makerRow makerFilled makerFillInput
  simp only
  split <;> rfl

@[simp] theorem fillRecord_makerRow (now : TimestampMs) (t : Trade) (id : Uuid)
    (at_ : TimestampMs) :
    fillRecord order (t.makerRow now) t.plan id at_ = fillRecord order t.maker t.plan id at_ := by
  unfold Trade.makerRow makerFilled fillRecord
  simp only
  split <;> rfl

/-! ## Admission -/

/-- A reduce-only order stands against a holding of the other direction at least
as large. -/
def Holding.ReducedBy (order : PerpOrder) : Option Holding → Prop
  | none => False
  | some h => h.side = order.side.positionSide.opposite ∧ order.size1e8 ≤ h.size1e8

theorem checkReduces_eq_ok :
    checkReduces order existing = .ok () ↔
      Holding.ReducedBy order (existing.map PerpPosition.holding) := by
  cases existing with
  | none => simp [checkReduces, Holding.ReducedBy]
  | some p =>
    simp only [checkReduces, Option.map_some, Holding.ReducedBy, PerpPosition.holding]
    split
    · next hside => simp [hside]
    next hside =>
      have hside : p.side = order.side.positionSide.opposite := not_not.1 hside
      split
      · next hsize => simp [Nat.not_le.2 hsize]
      · next hsize => simp [hside, Nat.not_lt.1 hsize]

/-- **A submit that is let in**: `own` tells which makers are the taker's own, and
`h'` is what everybody holds afterwards. -/
structure Admitted (lower : String → String) (own : AccountId → AccountId → Bool)
    (market : PerpsReadMarket) (order : PerpOrder) (trades : List Trade) (h h' : Holdings) :
    Prop where
  stranger : ∀ t ∈ trades, own t.maker.account order.account = false
  postOnly : order.postOnly = true → trades = []
  /-- A fill-or-kill order trades in full. -/
  fok : order.timeInForce = .fok → order.size1e8 ≤ Trade.total trades
  reduces : order.reduceOnly = true →
    Holding.ReducedBy order (h (indexKey lower order.account order.subaccountId order.marketId))
  /-- Every trade is taken by both sides. -/
  trades : tradeAll lower market order trades h = .ok h'

end DeoptBackend
