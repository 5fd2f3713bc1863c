import DeoptBackend.Perps.Resting

/-!
# Market risk caps, over whole runs

The gate of a submit compares the open positions and the arriving order with the
caps of the market.  It does not look at the orders that rest, it counts the size of
the order once though a trade has two sides, and a market order goes in at price 0.

* `WithinCaps` — the caps of a market hold of the positions.
* `openInterest` — what the gate adds up; a trade moves it by at most twice its size,
  and not at all if the taker only reduces (`Commits.openInterest_le`).
* `commitment` — what a subaccount holds at entry, and what its resting orders would
  add to it at their prices; a trade moves it at the taker's key only
  (`Submitted.commitment_le`).
* `caps_hold_in_measured_run` — the caps hold after requests that leave room for both;
  without that they do not (`caps_are_passed`).
-/

namespace DeoptBackend

open PerpOrder PerpPositionsStore List Saturating Nat PerpCall FMap

open PerpPositionsStore (fillKey)
open Margin (priceScale1e8)

/-! ## The caps -/

/-- The open interest of a market, as the gate adds it up. -/
def openInterest (market : PerpsReadMarket) (s : PerpPositionsStore) : Nat :=
  ((s.byIdValuesIter.filter (openIn market)).map fun p => p.size1e8).sum

/-- **The caps of a market hold.** -/
structure WithinCaps (market : PerpsReadMarket) (s : PerpPositionsStore) : Prop where
  /-- The open positions together are within the cap on the open interest. -/
  openInterest : ∀ cap, market.maxOpenInterest1e8 = some cap → openInterest market s ≤ cap
  /-- Each open position is, at entry, within the cap on the notional of its
  subaccount. -/
  notional : ∀ cap, market.maxSubaccountNotional1e8 = some cap → ∀ p ∈ s.byIdValuesIter,
    openIn market p = true → Margin.notional1e8 p.size1e8 p.entryPrice1e8 ≤ cap

def sizeOf1e8 (x : Option Holding) : Nat := x.elim 0 (·.size1e8)

/-- What an optional holding is worth at entry, before the division by the scale. -/
def worth (x : Option Holding) : Nat := x.elim 0 fun h => h.size1e8 * h.entryPrice1e8

variable (lower : String → String)

/-- The weight that counts the orders under a key that may open, at their prices. -/
def PerpOrder.opening (key : IndexKey) (o : PerpOrder) : Nat :=
  if o.key lower = key ∧ o.reduceOnly = false then o.price1e8 else 0

/-- What is held under a key at entry, and what the orders that rest under it would
add. -/
def commitment (s : PerpStores) (key : IndexKey) : Nat :=
  worth (s.holdings lower key) + resting (opening lower key) s.orders.orders

theorem byTerms_opening (key : IndexKey) : ByTerms (opening lower key) :=
  congr_terms (opening lower key)

/-! ## What a fill adds -/

variable {lower : String → String}

section

variable {new : Option Holding}

theorem Holding.Takes.size_le (ht : Takes market fill x new) :
    sizeOf1e8 new ≤ sizeOf1e8 x + fill.size1e8 := by
  cases ht with
  | opened => exact le_add_left _ _
  | increased => exact add_le
  | reduced => exact (sub_le _ _).trans (le_add_right _ _)
  | closed => exact zero_le _

theorem Holding.Takes.size_of_free (ht : Takes market fill x new) (hm : fill.margin1e8 = 0) :
    sizeOf1e8 new + fill.size1e8 = sizeOf1e8 x := by
  cases ht with
  | opened hmargin => exact absurd hm hmargin
  | increased _ hmargin => exact absurd hm hmargin
  | reduced _ hlt => exact Nat.sub_add_cancel hlt.le
  | closed _ heq => exact (Nat.zero_add _).trans heq

/-- A fill adds at most its size at its price, and nothing without collateral. -/
theorem Holding.Takes.worth_le (ht : Takes market fill x new) :
    worth new ≤ worth x + if fill.margin1e8 = 0 then 0 else fill.size1e8 * fill.price1e8 := by
  cases ht with
  | opened hmargin =>
    rw [if_neg hmargin]
    exact le_add_left _ _
  | @increased old _ hmargin _ =>
    rw [if_neg hmargin]
    calc worth (some (old.increased fill))
        ≤ Margin.satMul old.size1e8 old.entryPrice1e8 + Margin.satMul fill.size1e8 fill.price1e8 :=
          (old.increased_fits fill).trans (min_le_left _ _)
      _ ≤ old.size1e8 * old.entryPrice1e8 + fill.size1e8 * fill.price1e8 :=
          Nat.add_le_add mul_le mul_le
  | reduced =>
    exact (mul_le_mul_right _ (sub_le _ _)).trans (le_add_right _ _)
  | closed => exact zero_le _

theorem openInterest_eq_marketTotal (market : PerpsReadMarket) (s : PerpPositionsStore) :
    (openInterest market s : Int) = s.marketTotal (fun h => h.size1e8) market.symbol := by
  rw [openInterest, marketTotal, byIdValuesIter, sumBy]
  induction s.byId.vals with
  | nil => rfl
  | cons p rest ih =>
    rw [map_cons, sum_cons, ← ih]
    by_cases hp : p.status = .open ∧ p.marketId = market.symbol
    · rw [filter_cons_of_pos (by simpa [openIn] using hp), if_pos hp, map_cons, sum_cons]
      rfl
    · rw [filter_cons_of_neg (by simpa [openIn] using hp), if_neg hp, zero_add]

/-- A write moves the open interest of the market of its key by the difference of the
sizes. -/
theorem PerpPositionsStore.Writes.openInterest_eq {key : IndexKey} (hw : Writes lower s key row s')
    (market : PerpsReadMarket) : openInterest market s' +
        (if key.2.2 = market.symbol then sizeOf1e8 (s.holdingAt lower key) else 0) =
      openInterest market s +
        if key.2.2 = market.symbol then sizeOf1e8 (s'.holdingAt lower key) else 0 := by
  have hcast : ∀ x : Option Holding,
      x.elim 0 (fun h : Holding => (h.size1e8 : Int)) = (sizeOf1e8 x : Int) := by
    intro x
    cases x <;> rfl
  have htotal := hw.marketTotal_eq (fun h => h.size1e8) market.symbol
  rw [← openInterest_eq_marketTotal, ← openInterest_eq_marketTotal, hcast, hcast] at htotal
  split at htotal <;> split <;> first | contradiction | omega

/-- What an applied fill does to the open interest of a market. -/
theorem PerpPositionsStore.Filled.openInterest_le (h : Filled lower m fill draw s s')
    (market : PerpsReadMarket) :
    openInterest market s' ≤ openInterest market s +
        (if fill.marketId = market.symbol then fill.size1e8 else 0) ∧
      (fill.margin1e8 = 0 → openInterest market s' +
        (if fill.marketId = market.symbol then fill.size1e8 else 0) = openInterest market s) := by
  obtain ⟨new, row, hok, hat, hw⟩ := h.spec
  obtain ⟨-, -, -, htakes⟩ := Holding.applyChecked_eq_ok.1 hok
  have hnew : s'.holdingAt lower (fillKey lower fill) = new := by
    rw [hat, Function.update_self]
  have hkey : (fillKey lower fill).2.2 = fill.marketId := rfl
  have hmove := hw.openInterest_eq market
  rw [hnew, hkey] at hmove
  have hle := htakes.size_le
  refine ⟨?_, fun hm => ?_⟩
  · split at hmove <;> split <;> first | contradiction | omega
  · have hfree := htakes.size_of_free hm
    split at hmove <;> split <;> first | contradiction | omega

/-- A fill of an order adds what it costs under the order's key, if the order may open. -/
theorem fillHoldings_worth (hok : fillHoldings lower market fill h = .ok h') {o : PerpOrder}
    (hkey : fillKey lower fill = o.key lower) (hfree : o.reduceOnly = true → fill.margin1e8 = 0)
    (key : IndexKey) : worth (h' key) ≤ worth (h key) +
      if o.key lower = key ∧ o.reduceOnly = false then fill.size1e8 * fill.price1e8 else 0 := by
  obtain ⟨new, happ, rfl⟩ := fillHoldings_eq_ok.1 hok
  obtain ⟨-, -, -, htakes⟩ := Holding.applyChecked_eq_ok.1 happ
  rw [Function.update_apply]
  split
  · next hk =>
      have hle := htakes.worth_le
      rw [hk]
      cases hreduce : o.reduceOnly with
      | true =>
        rw [if_pos (hfree hreduce)] at hle
        exact hle.trans (Nat.add_le_add_left (Nat.zero_le _) _)
      | false =>
        rw [if_pos ⟨hkey.symm, rfl⟩]
        split at hle <;> omega
  · exact le_add_right _ _

end

/-! ## What a submit adds -/

variable {order : PerpOrder} {s : PerpStores}

/-- A round moves the open interest by at most twice its size, and not at all if the
taker only reduces. -/
theorem Committed.openInterest_le {m : PerpsReadMarket}
    (h : Committed lower m order now d t s s') (market : PerpsReadMarket) :
    openInterest market s'.positions ≤ openInterest market s.positions +
      if order.reduceOnly = false ∧ order.marketId = market.symbol then 2 * t.size1e8 else 0 := by
  obtain ⟨mid, htaker, hmaker⟩ := h.positions
  obtain ⟨hgrow, hfree⟩ := htaker.openInterest_le market
  obtain ⟨hgrow', -⟩ := hmaker.openInterest_le market
  have hmT : (takerFillInput order t.plan).marketId = order.marketId := rfl
  have hmM : (makerFillInput order t.maker t.plan).marketId = order.marketId := rfl
  have hsT : (takerFillInput order t.plan).size1e8 = t.size1e8 := rfl
  have hsM : (makerFillInput order t.maker t.plan).size1e8 = t.size1e8 := rfl
  rw [hmT, hsT] at hgrow hfree
  rw [hmM, hsM] at hgrow'
  by_cases hmarket : order.marketId = market.symbol
  · rw [if_pos hmarket] at hgrow hgrow' hfree
    cases hreduce : order.reduceOnly with
    | false =>
      rw [if_pos ⟨rfl, hmarket⟩]
      omega
    | true =>
      have := hfree (by rw [takerFillInput, if_pos hreduce])
      omega
  · rw [if_neg hmarket] at hgrow hgrow'
    omega

/-- So do the rounds together. -/
theorem Commits.openInterest_le {m : PerpsReadMarket}
    (h : Commits lower m order draws i trades s s') (market : PerpsReadMarket) :
    openInterest market s'.positions ≤ openInterest market s.positions +
      if order.reduceOnly = false ∧ order.marketId = market.symbol then 2 * Trade.total trades
      else 0 := by
  induction h with
  | done => exact le_add_right _ _
  | next hc _ ih =>
    have hround := hc.openInterest_le market
    rw [Trade.total_cons]
    split_ifs at hround ih ⊢ <;> omega

/-- A trade adds to the taker's worth at the maker's price, and to the maker's what
its order was counted for. -/
theorem trade_worth (hst : Standing m order t) (hok : trade lower market order t h = .ok h')
    (key : IndexKey) : worth (h' key) ≤ worth (h key) +
      (if order.key lower = key ∧ order.reduceOnly = false then t.size1e8 * t.maker.price1e8
        else 0) +
      t.size1e8 * t.maker.opening lower key := by
  obtain ⟨mid, htaker, hmaker⟩ := trade_eq_ok.1 hok
  have hT := fillHoldings_worth htaker (o := order) rfl
    (fun hreduce => by rw [takerFillInput, if_pos hreduce]) key
  have hM := fillHoldings_worth hmaker (hst.fillKey_maker lower)
    (fun hreduce => by rw [makerFillInput, if_pos hreduce]) key
  rw [opening, mul_ite, mul_zero]
  exact hM.trans (Nat.add_le_add_right hT _)

theorem tradeAll_worth (hst : AllStanding m order trades)
    (hok : tradeAll lower market order trades h = .ok h') (key : IndexKey) :
    worth (h' key) ≤ worth (h key) + (if order.key lower = key ∧ order.reduceOnly = false then
        (trades.map fun t => t.size1e8 * t.maker.price1e8).sum else 0) +
      (trades.map fun t => t.size1e8 * t.maker.opening lower key).sum := by
  induction trades generalizing m h with
  | nil =>
    cases hok
    exact (le_add_right _ _).trans (le_add_right _ _)
  | cons t ts ih =>
    obtain ⟨mid, ht, hts⟩ := tradeAll_cons_eq_ok.1 hok
    have hnext := ih (m := bookAfter 0 m t) hst.tail hts
    have htrade := trade_worth (hst.standing t mem_cons_self) ht key
    rw [map_cons, map_cons, sum_cons, sum_cons]
    split_ifs at htrade hnext ⊢ <;> omega

/-- What an accepted submit pays for: its trades at the makers' prices, and what
rests at its own. -/
def spent (order : PerpOrder) (out : SubmitPerpOrderOutcome) (trades : List Trade) : Nat :=
  (trades.map fun t => t.size1e8 * t.maker.price1e8).sum +
    if out.order.status.isActive = true then out.order.remainingSize1e8 * order.price1e8 else 0

/-- **An accepted submit adds to the commitment of its own key only.** -/
theorem Submitted.commitment_le (hsub : Submitted lower cfg draws oracleRead input market s out s')
    (hs : s.Valid lower) (hd : draws.Fresh s) (key : IndexKey) :
    commitment lower s' key ≤ commitment lower s key +
      if (input.row draws).key lower = key ∧ input.reduceOnly = false then
        spent (input.row draws) out (tradesFor s.orders (input.row draws)) else 0 := by
  set order := input.row draws with horder
  have hworth := tradeAll_worth (hs.allStanding order) hsub.admitted.trades key
  have hrest := hsub.resting_eq hs hd (byTerms_opening lower key)
  have hterms : out.order.terms = order.terms := by rw [hsub.outcome, terms_settledRow]
  have hopening : out.order.opening lower key = order.opening lower key :=
    byTerms_opening lower key hterms
  have hreduce : order.reduceOnly = input.reduceOnly := rfl
  rw [hopening, opening, ← horder] at hrest
  rw [hreduce] at hworth hrest
  simp only [commitment, spent]
  split
  · next hcond =>
      rw [if_pos hcond] at hworth hrest
      omega
  · next hcond =>
      rw [if_neg hcond, mul_zero, ite_self] at hrest
      rw [if_neg hcond] at hworth
      omega

/-! ## Measured requests -/

/-- An order that rests in a book, and that another could trade with. -/
def PerpOrder.Meets (order o : PerpOrder) : Prop :=
  o.marketId = order.marketId ∧ o.side = order.side.opposite ∧
    crosses order.side order.price1e8 o.price1e8 = true
  deriving Decidable

/-- The size of what rests that an arriving order could trade with. -/
def crossable (order : PerpOrder) (m : FMap Uuid PerpOrder) : Nat :=
  resting (fun o => if order.Meets o then 1 else 0) m

/-- The prices an arriving order could come to hold at: those of the orders it could
trade with, and its own if it may rest. -/
def PerpOrder.MayTradeAt (order : PerpOrder) (m : FMap Uuid PerpOrder) (price1e8 : Nat) : Prop :=
  (order.timeInForce = .gtc ∧ order.price1e8 = price1e8) ∨
    ∃ id o, m.get? id = some o ∧ o.status.isActive = true ∧ order.Meets o ∧ o.price1e8 = price1e8

/-- **The condition on a request, in the ledger before it.**  An order that may open
leaves room for both sides of its trades under the cap on the open interest, and for
all of it, at any price it could trade at, on top of what its subaccount is committed
to. -/
def PerpCall.Measured (lower : String → String) (cfg : PerpsReadConfig) :
    PerpCall → PerpLedger → Prop
  | submit draws _ input, l =>
    input.reduceOnly = false → ∀ market, cfg.marketBySymbol input.marketId = some market →
      let order := input.row draws
      (∀ cap, market.maxOpenInterest1e8 = some cap → openInterest market l.stores.positions +
          2 * min input.size1e8 (crossable order l.stores.orders.orders) ≤ cap) ∧
      (∀ cap, market.maxSubaccountNotional1e8 = some cap → ∀ price1e8,
        order.MayTradeAt l.stores.orders.orders price1e8 →
        commitment lower l.stores (order.key lower) + input.size1e8 * price1e8 <
          (cap + 1) * priceScale1e8)
  | _, _ => True

/-- The open interest is within its cap, and so is every commitment. -/
structure RoomInCaps (lower : String → String) (cfg : PerpsReadConfig) (s : PerpStores) : Prop where
  openInterest : ∀ {symbol market cap}, cfg.marketBySymbol symbol = some market →
    market.maxOpenInterest1e8 = some cap → openInterest market s.positions ≤ cap
  commitment : ∀ {key : IndexKey} {market cap}, cfg.marketBySymbol key.2.2 = some market →
    market.maxSubaccountNotional1e8 = some cap →
    commitment lower s key < (cap + 1) * priceScale1e8

section

variable {call : PerpCall}

/-- Parts of `n`, each at a price `n` could be paid at, can be paid. -/
theorem sum_mul_le {parts : List (Nat × Nat)} (hn : 0 < n) (hprice : ∀ e ∈ parts, n * e.2 ≤ c)
    (htotal : (parts.map Prod.fst).sum ≤ n) : (parts.map fun e => e.1 * e.2).sum ≤ c := by
  have hscaled : n * (parts.map fun e => e.1 * e.2).sum ≤ (parts.map Prod.fst).sum * c := by
    clear htotal
    induction parts with
    | nil => exact zero_le _
    | cons e parts ih =>
      have hrest := ih fun e' he' => hprice e' (mem_cons_of_mem _ he')
      rw [map_cons, map_cons, sum_cons, sum_cons, Nat.mul_add, Nat.add_mul]
      refine Nat.add_le_add ?_ hrest
      calc n * (e.1 * e.2) = e.1 * (n * e.2) := Nat.mul_left_comm ..
        _ ≤ e.1 * c := Nat.mul_le_mul_left _ (hprice e mem_cons_self)
  refine le_of_mul_le_mul_left ?_ hn
  exact hscaled.trans (mul_le_mul_right _ htotal)

theorem byTerms_meets (order : PerpOrder) : ByTerms fun o => if order.Meets o then 1 else 0 :=
  congr_terms fun o => if order.Meets o then 1 else 0

/-- The makers of an arriving order are orders it meets. -/
theorem PerpStores.Valid.meets (hs : s.Valid lower) {t : Trade}
    (ht : t ∈ tradesFor s.orders order) : order.Meets t.maker := by
  obtain ⟨-, hmarket, -, hside⟩ := tradesFor_maker hs.wellFormed ht
  exact ⟨hmarket, hside, (tradesFrom_mem ht).2.1⟩

/-- The trades are for no more than what could be traded with. -/
theorem PerpStores.Valid.total_le_crossable (hs : s.Valid lower) (order : PerpOrder) :
    Trade.total (tradesFor s.orders order) ≤ crossable order s.orders.orders := by
  have hsum : resting (fun o => if order.Meets o then 1 else 0)
      ((tradesFor s.orders order).foldl (bookAfter 0) s.orders.orders) + _ = crossable order _ :=
    resting_foldl_bookAfter (byTerms_meets order) (hs.allStanding order)
  have htotal : ((tradesFor s.orders order).map fun t =>
      t.size1e8 * if order.Meets t.maker then 1 else 0) =
      (tradesFor s.orders order).map (·.size1e8) := by
    refine map_congr_left fun t ht => ?_
    rw [if_pos (hs.meets ht), mul_one]
  rw [htotal] at hsum
  rw [Trade.total]
  omega

/-- What a submit pays for was paid at prices it could trade at. -/
theorem Submitted.spent_le (hsub : Submitted lower cfg draws oracleRead input market s out s')
    (hs : s.Valid lower)
    (hprice : ∀ price1e8, (input.row draws).MayTradeAt s.orders.orders price1e8 →
      input.size1e8 * price1e8 ≤ c) :
    spent (input.row draws) out (tradesFor s.orders (input.row draws)) ≤ c := by
  set order := input.row draws with horder
  set trades := tradesFor s.orders order with htrades
  have htotal : Trade.total trades ≤ order.size1e8 := total_tradesFrom_le _ _ _
  obtain ⟨-, hleft, hactive⟩ := settledRow_amounts draws htotal
  have hout : out.order = settledRow order draws trades := by rw [hsub.outcome]
  rw [← hout] at hleft hactive
  -- the trades, and what rests if anything does
  set rest : List (Nat × Nat) := if out.order.status.isActive = true then
    [(out.order.remainingSize1e8, order.price1e8)] else [] with hrest
  set parts := (trades.map fun t => (t.size1e8, t.maker.price1e8)) ++ rest with hparts
  have hspent : spent order out trades = (parts.map fun e => e.1 * e.2).sum := by
    rw [hparts, map_append, sum_append_nat, map_map, spent, hrest]
    congr 1
    split <;> simp
  have hsum : (parts.map Prod.fst).sum ≤ input.size1e8 := by
    have hsize : order.size1e8 = input.size1e8 := rfl
    have hfst : ((trades.map fun t => (t.size1e8, t.maker.price1e8)).map Prod.fst).sum =
        Trade.total trades := by
      rw [map_map]
      rfl
    rw [hparts, map_append, sum_append_nat, hfst, hrest]
    split
    · simp only [map_cons, map_nil, sum_cons, sum_nil]
      omega
    · simp only [map_nil, sum_nil]
      omega
  have hpos : 0 < input.size1e8 :=
    pos_of_ne_zero (validateInputBasics_ok (preSubmit_eq_ok.1 hsub.checked).1).1
  rw [hspent]
  refine sum_mul_le hpos (fun e he => ?_) hsum
  rcases mem_append.1 he with he | he
  · obtain ⟨t, ht, rfl⟩ := mem_map.1 he
    obtain ⟨hrow, -, hact, -⟩ := tradesFor_maker hs.wellFormed ht
    exact hprice _ (.inr ⟨_, _, hrow, hact, hs.meets ht, rfl⟩)
  rw [hrest] at he
  split at he
  · next hact =>
      obtain rfl := mem_singleton.1 he
      exact hprice _ (.inl ⟨(hactive.1 hact).1, rfl⟩)
  · cases he

theorem Submitted.roomInCaps
    (hsub : Submitted lower cfg draws oracleRead input market l.stores out s')
    (hs : l.stores.Valid lower) (hd : draws.Fresh l.stores)
    (hmeasured : (submit draws answer input).Measured lower cfg l)
    (hroom : RoomInCaps lower cfg l.stores) : RoomInCaps lower cfg s' where
  openInterest := by
    intro symbol m cap hm hcap
    obtain ⟨mid, hcommits, rfl⟩ := hsub.commits
    refine (hcommits.openInterest_le m).trans ?_
    split
    · next hcond =>
        obtain ⟨hopen, hsymbol⟩ := hcond
        have hsame : m = market := by
          have hm' := PerpsReadConfig.symbol_of_marketBySymbol hm
          have hfound := (preSubmit_eq_ok.1 hsub.checked).2.2.1
          have hrow : (input.row draws).marketId = input.marketId := rfl
          rw [← hrow, hsymbol, hm'] at hfound
          exact Option.some.inj (hm.symm.trans hfound)
        subst hsame
        have hlimit := (hmeasured hopen m (preSubmit_eq_ok.1 hsub.checked).2.2.1).1 cap hcap
        have hcross := hs.total_le_crossable (input.row draws)
        have hsize : Trade.total (tradesFor l.stores.orders (input.row draws)) ≤ input.size1e8 :=
          total_tradesFrom_le _ _ _
        have hpos : (l.stores.withOrders (l.stores.orders.inserted lower
            (input.row draws))).positions = l.stores.positions := rfl
        rw [hpos]
        omega
    · exact hroom.openInterest hm hcap
  commitment := by
    intro key m cap hm hcap
    refine (hsub.commitment_le hs hd key).trans_lt ?_
    split
    · next hcond =>
        obtain ⟨rfl, hopen⟩ := hcond
        have hlimit := (hmeasured hopen m hm).2 cap hcap
        have hbefore := hroom.commitment hm hcap
        set before := commitment lower l.stores ((input.row draws).key lower)
        have hspent := hsub.spent_le hs (c := (cap + 1) * priceScale1e8 - 1 - before)
          fun price hprice => by
            have := hlimit price hprice
            omega
        omega
    · exact hroom.commitment hm hcap

/-- A write that does not add to what is held under its key, nor to what rests, leaves
room in the caps. -/
theorem RoomInCaps.shrink (hroom : RoomInCaps lower cfg s) {key : IndexKey}
    (hw : PerpPositionsStore.Writes lower s.positions key row s'.positions)
    (hsize : sizeOf1e8 (s'.holdings lower key) ≤ sizeOf1e8 (s.holdings lower key))
    (hworth : worth (s'.holdings lower key) ≤ worth (s.holdings lower key))
    (hrest : ∀ w, resting w s'.orders.orders ≤ resting w s.orders.orders) :
    RoomInCaps lower cfg s' where
  openInterest := by
    intro symbol m cap hm hcap
    have hbefore := hroom.openInterest hm hcap
    have hmove := hw.openInterest_eq m
    simp only [PerpStores.holdings] at hsize
    split at hmove <;> omega
  commitment := by
    intro k m cap hm hcap
    have hbefore := hroom.commitment hm hcap
    have hrest' := hrest (opening lower k)
    have hheld : worth (s'.holdings lower k) ≤ worth (s.holdings lower k) := by
      by_cases hk : k = key
      · rw [hk]
        exact hworth
      have hsame : s'.holdings lower k = s.holdings lower k := by
        rw [PerpStores.holdings, holdingAt, hw.openAt_eq, if_neg hk]
        rfl
      rw [hsame]
    simp only [DeoptBackend.commitment] at hbefore ⊢
    omega

theorem PerpCall.run_roomInCaps (hcall : call.Admissible l) (hmeasured : call.Measured lower cfg l)
    (hs : l.stores.Valid lower) (hroom : RoomInCaps lower cfg l.stores) :
    RoomInCaps lower cfg (call.run lower cfg l).stores := by
  cases call with
  | submit =>
    obtain ⟨hd, -⟩ := hcall
    rcases run_submit hs.wellFormed hd with hidle | ⟨market, out, s', hsub, hrun⟩
    · rw [hidle]
      exact hroom
    · rw [hrun]
      exact hsub.roomInCaps hs hd hmeasured hroom
  | cancel orderId caller now =>
    rcases run_cancel orderId caller now with hidle | ⟨o, ho, hrun⟩
    · rw [hidle]
      exact hroom
    rw [hrun]
    refine ⟨fun hm hcap => hroom.openInterest hm hcap, fun {key} _ _ hm hcap => ?_⟩
    refine (Nat.add_le_add_left ?_ _).trans_lt (hroom.commitment hm hcap)
    exact resting_ended_le ho rfl
  | fundingTick reader now =>
    refine (runPerpFundingTick_induct (P := fun l' => RoomInCaps lower cfg l'.stores)
      (fun hp hl' hP hset => ?_) hs.wellFormed.positions hroom).2
    refine hP.shrink (hset.writes hl' now _) ?_ ?_ fun _ => le_rfl <;>
      rw [hset.holdings_eq hl', if_pos rfl, hset.holding] <;> exact le_rfl
  | liquidationTick reader now =>
    refine (runPerpLiquidationTick_induct (P := fun l' => RoomInCaps lower cfg l'.stores)
      (fun hl' hP hstep => ?_) hs.wellFormed.positions hroom).2
    cases hstep with
    | idle => exact hP
    | noted => exact hP
    | @liquidated p mark1e8 event hp =>
      refine hP.shrink (liquidatedStores_writes hl' hp mark1e8 now) ?_ ?_
        fun w => resting_liquidatedStores_le p mark1e8 now _ <;>
      · refine (le_of_eq ?_).trans (zero_le _)
        have hnone := holdings_liquidatedStores hl' hp mark1e8 now (p.key lower)
        rw [if_pos rfl] at hnone
        exact congrArg _ hnone

theorem RoomInCaps.withinCaps (hroom : RoomInCaps lower cfg s) (hs : s.positions.WellFormed lower)
    (hm : cfg.marketBySymbol symbol = some market) : WithinCaps market s.positions where
  openInterest := fun cap hcap => hroom.openInterest hm hcap
  notional := by
    intro cap hcap p hp hopen
    obtain ⟨hstatus, hmarket⟩ : p.status = .open ∧ p.marketId = market.symbol := by
      simpa [openIn] using hopen
    obtain ⟨id, hid⟩ := mem_vals.1 hp
    have hat : s.positions.openAt lower (p.key lower) = some p := hs.rows.openAt_of_get? hid hstatus
    have hkey : (p.key lower).2.2 = symbol := by
      rw [← PerpsReadConfig.symbol_of_marketBySymbol hm, ← hmarket]
      rfl
    have hheld : s.holdings lower (p.key lower) = some p.holding := by
      rw [PerpStores.holdings, holdingAt, hat, Option.map_some]
    have hlimit : DeoptBackend.commitment lower s (p.key lower) < (cap + 1) * priceScale1e8 :=
      hroom.commitment (by rw [hkey]; exact hm) hcap
    rw [DeoptBackend.commitment, hheld] at hlimit
    rw [Margin.notional1e8_le_iff]
    calc Margin.satMul p.size1e8 p.entryPrice1e8 ≤ p.size1e8 * p.entryPrice1e8 := mul_le
      _ ≤ _ := le_add_right _ _
      _ < (cap + 1) * priceScale1e8 := hlimit

theorem roomInCaps_empty : RoomInCaps lower cfg PerpStores.empty where
  openInterest := fun _ _ => zero_le _
  commitment := fun _ _ => mul_pos (succ_pos _) (by decide)

/-- The ledgers that are reached from nothing by measured requests. -/
def MeasuredRun (lower : String → String) (cfg : PerpsReadConfig) (calls : List PerpCall)
    (l : PerpLedger) : Prop :=
  Run (stepOf (fun l call => run lower cfg call l)
    fun l call => call.Admissible l ∧ call.Measured lower cfg l) PerpLedger.empty calls l

/-- **After measured requests the caps of every market hold.** -/
theorem caps_hold_in_measured_run {calls : List PerpCall} (hrun : MeasuredRun lower cfg calls l)
    {symbol : String} (hm : cfg.marketBySymbol symbol = some market) :
    WithinCaps market l.stores.positions := by
  obtain ⟨hs, hroom⟩ := Run.invariant
    (P := fun l => l.stores.Valid lower ∧ RoomInCaps lower cfg l.stores) hrun
    ⟨PerpStores.valid_empty, roomInCaps_empty⟩ (by
      rintro l call _ ⟨hs, hroom⟩ ⟨⟨hcall, hmeasured⟩, rfl⟩
      exact ⟨run_valid hcall hs, run_roomInCaps hcall hmeasured hs hroom⟩)
  exact hroom.withinCaps hs.wellFormed.positions hm

end

namespace EthPerp

/-- The market with a cap on the notional of a subaccount, 3000, and one on the open
interest. -/
def capped (openInterest1e8 : Nat) : PerpsReadMarket :=
  { market with
    maxSubaccountNotional1e8 := some 300000000000
    maxOpenInterest1e8 := some openInterest1e8 }

def unit (account : String) (side : PerpOrderSide) : SubmitPerpOrderInput :=
  limit account side 300000000000 100000000 300000000000

theorem price_of_mem {price1e8 p : Nat} (hown : order.price1e8 = price1e8)
    (hall : m.vals.all (fun o => decide (o.price1e8 = price1e8)) = true) (h : order.MayTradeAt m p) :
    p = price1e8 := by
  rcases h with ⟨-, rfl⟩ | ⟨id, o, ho, -, -, rfl⟩
  · exact hown
  · simpa using all_eq_true.1 hall o (mem_vals.2 ⟨id, ho⟩)

end EthPerp

open EthPerp in
/-- One unit is traded under a cap of two: both caps are used up, and hold. -/
theorem caps_hold_in_measured_run_one_unit :
    MeasuredRun id (config (capped 200000000)) (calls [unit "alice" .buy, unit "bob" .sell])
        (after (capped 200000000) [unit "alice" .buy, unit "bob" .sell]) ∧
      WithinCaps (capped 200000000)
        (after (capped 200000000) [unit "alice" .buy, unit "bob" .sell]).stores.positions ∧
      openInterest (capped 200000000)
        (after (capped 200000000) [unit "alice" .buy, unit "bob" .sell]).stores.positions =
          200000000 := by
  have hmeasured : ∀ n input l, below n l = true → (input.row (draws n)).price1e8 = 300000000000 →
      input.size1e8 = 100000000 → input.price1e8 = 300000000000 →
      input.isolatedMargin1e8 = 300000000000 → input.marketId = "ETH-PERP" →
      l.stores.orders.orders.vals.all (fun o => decide (o.price1e8 = 300000000000)) = true →
      openInterest (capped 200000000) l.stores.positions = 0 →
      commitment id l.stores ((input.row (draws n)).key id) = 0 →
      (submit (draws n) read input).Admissible l ∧
        (submit (draws n) read input).Measured id (config (capped 200000000)) l := by
    intro n input l hbelow hrow hsize hprice hmargin hmarket hall hoi hcommit
    refine ⟨⟨fresh_of_below hbelow, hsize ▸ by decide, hprice ▸ by decide, hmargin ▸ by decide⟩, ?_⟩
    intro _ market hm
    rw [hmarket] at hm
    obtain rfl : capped 200000000 = market := Option.some.inj hm
    refine ⟨fun cap hcap => ?_, fun cap hcap price1e8 hp => ?_⟩
    · obtain rfl : 200000000 = cap := Option.some.inj hcap
      rw [hoi, hsize]
      omega
    · obtain rfl : 300000000000 = cap := Option.some.inj hcap
      rw [price_of_mem hrow hall hp, hcommit, hsize]
      decide
  have hrun : MeasuredRun id (config (capped 200000000))
      (calls [unit "alice" .buy, unit "bob" .sell])
      (after (capped 200000000) [unit "alice" .buy, unit "bob" .sell]) :=
    (Run.start.snoc ⟨hmeasured 1 (unit "bob" .sell) _ (by decide +kernel) rfl rfl rfl rfl rfl rfl rfl
      rfl, rfl⟩).snoc ⟨hmeasured 2 (unit "alice" .buy) _ (by decide +kernel) rfl rfl rfl rfl rfl
        (by decide +kernel) (by decide +kernel) (by decide +kernel), rfl⟩
  have hm : (config (capped 200000000)).marketBySymbol "ETH-PERP" = some (capped 200000000) := rfl
  exact ⟨hrun, caps_hold_in_measured_run hrun hm, by decide +kernel⟩

open EthPerp in
/-- **Two bids that rest together are filled one after the other**, each passed by the
gate alone: the buyer ends with twice the notional that is allowed, and the open
interest, of which every trade makes two sides, is above its cap too. -/
theorem caps_are_passed : PerpRun id (config (capped 300000000))
        (calls [unit "carol" .sell, unit "bob" .sell, unit "alice" .buy, unit "alice" .buy])
        (after (capped 300000000)
          [unit "carol" .sell, unit "bob" .sell, unit "alice" .buy, unit "alice" .buy]) ∧
      openInterest (capped 300000000) (after (capped 300000000) [unit "carol" .sell,
        unit "bob" .sell, unit "alice" .buy, unit "alice" .buy]).stores.positions = 400000000 ∧
      (((after (capped 300000000) [unit "carol" .sell, unit "bob" .sell, unit "alice" .buy,
        unit "alice" .buy]).stores.positions.openAt id ("alice", 1, "ETH-PERP")).map fun p =>
          Margin.notional1e8 p.size1e8 p.entryPrice1e8) = some 600000000000 ∧
      ¬ WithinCaps (capped 300000000) (after (capped 300000000) [unit "carol" .sell,
        unit "bob" .sell, unit "alice" .buy, unit "alice" .buy]).stores.positions := by
  have hoi : openInterest (capped 300000000) (after (capped 300000000) [unit "carol" .sell,
      unit "bob" .sell, unit "alice" .buy, unit "alice" .buy]).stores.positions = 400000000 := by
    decide +kernel
  refine ⟨run_after (by decide +kernel), hoi, by decide +kernel, fun hcaps => ?_⟩
  have hle := hcaps.openInterest 300000000 rfl
  rw [hoi] at hle
  exact absurd hle (by decide)

end DeoptBackend
