import DeoptBackend.Perps.Exposure
import DeoptBackend.Perps.PostgresMatching
import DeoptBackend.Perps.Resting

/-!
# The perps book over whole runs

What submits, cancels, funding ticks and liquidation ticks, in any order, leave in the in-memory
book.

* `RowEvolves` — what a request makes of the place of a row: it stays, or an active row keeps its
  terms and is filled by so much.  `PerpCall.evolves` — so much is what the fills that name the
  order add up to, among those the request returned.
* `order_rows_evolve` — **no row is lost or loses a fill, and one that has ended is final**.
* `book_never_crossed` — **no two active orders of a market cross**.
* `fills_account_for_orders` — **every order was filled by the fills that name it**.
* `market_is_zero_sum` — **without liquidations the open positions of a market cancel out**.
-/

namespace DeoptBackend

open List PerpOrder PerpOrderStore Act Option

open PerpStores (onOrders)
open PerpLedger (onStores)

section

variable {lower : String → String} {cfg : PerpsReadConfig} {l : PerpLedger} {s s' : PerpStores}
  {o o' : PerpOrder} {id : Uuid}

/-! ## Fills and the orders they name -/

/-- What the fills that name an order add up to. -/
def filledBy (id : Uuid) (fills : List PerpFill) : Nat :=
  (fills.map fun f => if f.takerOrderId = id ∨ f.makerOrderId = id then f.size1e8 else 0).sum

/-- Of the fills of a submit, all name the order, and one names each maker. -/
theorem filledBy_fillRecords (order : PerpOrder) (draws : SubmitDraws) (i : Nat)
    (trades : List Trade) : filledBy id (fillRecords order draws i trades) =
      if order.id = id then Trade.total trades
      else (trades.map fun t => if t.maker.id = id then t.size1e8 else 0).sum := by
  induction trades generalizing i with
  | nil => simp [fillRecords, filledBy]
  | cons t ts ih =>
    have hcons : filledBy id (fillRecords order draws i (t :: ts)) =
        (if order.id = id ∨ t.maker.id = id then t.size1e8 else 0) +
          filledBy id (fillRecords order draws (i + 1) ts) := rfl
    rw [hcons, ih]
    by_cases horder : order.id = id <;> simp [horder]

theorem sum_of_maker {trades : List Trade} (hnodup : (trades.map (·.maker.id)).Nodup)
    (ht : t ∈ trades) :
    (trades.map fun u => if u.maker.id = t.maker.id then u.size1e8 else 0).sum = t.size1e8 := by
  induction trades with
  | nil => cases ht
  | cons u us ih =>
    rw [map_cons, sum_cons]
    rcases mem_cons.1 ht with rfl | ht'
    · rw [if_pos rfl, sum_eq_zero, add_zero]
      rintro n hn
      obtain ⟨u, hu, rfl⟩ := mem_map.1 hn
      exact if_neg (ne_of_nodup_map_cons hnodup hu)
    · rw [if_neg (ne_of_nodup_map_cons hnodup ht').symm, ih hnodup.of_cons ht', zero_add]

/-- The fills a request returns. -/
def PerpCall.fills (lower : String → String) (cfg : PerpsReadConfig) (l : PerpLedger) :
    PerpCall → List PerpFill
  | submit draws answer input =>
    match (submitPerpOrderViaState lower cfg draws answer input l.stores).1 with
    | .ok out => out.fills
    | .error _ => []
  | _ => []

/-! ## The life of a row -/

/-- What a request makes of the place of a row that is filled by so much. -/
inductive RowEvolves : Nat → Option PerpOrder → Option PerpOrder → Prop
  | idle (row : Option PerpOrder) : RowEvolves 0 row row
  | worked {n : Nat} {o o' : PerpOrder} : o.status.isActive = true → o'.terms = o.terms →
      o'.filledSize1e8 = o.filledSize1e8 + n → RowEvolves n (some o) (some o')

namespace RowEvolves

theorem trans (h : RowEvolves n a b) (h' : RowEvolves m b c) : RowEvolves (n + m) a c := by
  cases h with
  | idle => rwa [zero_add]
  | worked hact hterms hfilled =>
    cases h' with
    | idle => exact .worked hact hterms hfilled
    | worked _ hterms' hfilled' => exact .worked hact (hterms'.trans hterms) (by omega)

/-- A row stays, with its terms and what it was filled by; one that has ended is final. -/
theorem of_stored (h : RowEvolves n (some o) row) : ∃ o', row = some o' ∧ o'.terms = o.terms ∧
    o'.filledSize1e8 = o.filledSize1e8 + n ∧ (o.status.isActive = false → o' = o) := by
  cases h with
  | idle => exact ⟨o, rfl, rfl, rfl, fun _ => rfl⟩
  | worked hact hterms hfilled =>
    refine ⟨_, rfl, hterms, hfilled, fun hend => ?_⟩
    rw [hact] at hend
    cases hend

theorem filled (h : RowEvolves n a b) :
    b.elim 0 filledSize1e8 = a.elim 0 filledSize1e8 + n := by
  cases h with
  | idle => rfl
  | worked _ _ hfilled => exact hfilled

/-- An active row was active, with the same terms. -/
theorem was_active (h : RowEvolves n row row') (ho' : row' = some o')
    (hact : o'.status.isActive = true) :
    ∃ o, row = some o ∧ o.status.isActive = true ∧ o'.terms = o.terms := by
  cases h with
  | idle => exact ⟨o', ho', hact, rfl⟩
  | worked hold hterms =>
    obtain rfl := some.inj ho'
    exact ⟨_, rfl, hold, hterms⟩

end RowEvolves

theorem Submitted.evolves (h : Submitted lower cfg draws oracleRead input market s out s')
    (hs : s.Valid lower) (hd : draws.Fresh s) (hne : id ≠ draws.orderId) :
    RowEvolves (filledBy id out.fills) (s.orders.get id) (s'.orders.get id) := by
  have hnamed : filledBy id out.fills = ((tradesFor s.orders (input.row draws)).map fun t =>
      if t.maker.id = id then t.size1e8 else 0).sum := by
    rw [h.outcome, filledBy_fillRecords]
    exact if_neg hne.symm
  rw [hnamed]
  by_cases hmaker : ∃ t ∈ tradesFor s.orders (input.row draws), id = t.maker.id
  · obtain ⟨t, ht, rfl⟩ := hmaker
    obtain ⟨hrow, -, hact, -⟩ := tradesFor_maker hs.wellFormed ht
    rw [hrow, h.get_maker hs.wellFormed hd ht, sum_of_maker (hs.allStanding _).nodup ht]
    exact .worked hact (t.terms_makerRow _)
      (makerRow_amounts (hs.maker_sound ht) (tradesFor_size ht).2).1
  · have hother := fun t ht heq => hmaker ⟨t, ht, heq⟩
    rw [h.get_other hne hother, sum_eq_zero]
    · exact .idle _
    · intro n hn
      obtain ⟨t, ht, rfl⟩ := mem_map.1 hn
      exact if_neg fun heq => hother t ht heq.symm

/-- An order that has ended cannot be cancelled. -/
theorem PerpCall.run_cancel_of_ended (ho : l.stores.orders.get orderId = some o)
    (hend : o.status.isActive = false) : (cancel orderId caller now).run lower cfg l = l := by
  have hterminal : o.status.isTerminal = true := by
    cases hst : o.status <;> simp_all [PerpOrderStatus.isActive, PerpOrderStatus.isTerminal]
  obtain ⟨e, he⟩ : ∃ e, checkCancel lower orderId caller (some o) = .error e := by
    simp only [checkCancel, hterminal, if_true]
    split_ifs <;> exact ⟨_, rfl⟩
  rw [run, onStores, onOrders, zoom, zoom, cancelPerpOrderInternal, read_bind, ho, he]
  rfl

theorem LiquidationStep.evolves (h : LiquidationStep lower now l l') (hs : l.stores.Valid lower)
    (id : Uuid) : RowEvolves 0 (l.stores.orders.get id) (l'.stores.orders.get id) := by
  cases h with
  | idle => exact .idle _
  | noted => exact .idle _
  | @liquidated p mark1e8 event hp =>
    change RowEvolves 0 _ ((PerpLedger.liquidatedStores lower p mark1e8 now l.stores).orders.get id)
    rw [get_liquidatedStores hs.wellFormed]
    cases l.stores.orders.get id with
    | none => exact .idle _
    | some o =>
      dsimp only [map_some]
      split_ifs with hown
      · exact .worked hown.2 rfl rfl
      · exact .idle _

/-- All that a submit does: nothing, or what `Submitted` says, and these are its fills. -/
theorem PerpCall.submit_cases (hs : l.stores.WellFormed lower) (hd : draws.Fresh l.stores) :
    (submit draws answer input).run lower cfg l = l ∧
        (submit draws answer input).fills lower cfg l = [] ∨
      ∃ market out s', Submitted lower cfg draws (prepareSubmitOracle cfg answer input) input market
          l.stores out s' ∧ (submit draws answer input).run lower cfg l = l.withStores s' ∧
        (submit draws answer input).fills lower cfg l = out.fills := by
  rcases hrun : submitPerpOrderViaState lower cfg draws answer input l.stores with ⟨_ | out, s'⟩
  · refine .inl ⟨?_, by simp only [fills, hrun]⟩
    rw [run, onStores, zoom, hrun, submitPerpOrderViaState_error hrun]
    rfl
  · obtain ⟨market, hsub⟩ := submitPerpOrderViaState_inv hs hd hrun
    refine .inr ⟨market, out, s', hsub, ?_, by simp only [fills, hrun]⟩
    rw [run, onStores, zoom, hrun]

/-- The request inserts an order under the identifier. -/
def PerpCall.Draws : PerpCall → Uuid → Prop
  | submit draws _ _, id => id = draws.orderId
  | _, _ => False

/-- **A request works the rows of others by its fills**, and only active ones. -/
theorem PerpCall.evolves {call : PerpCall} (hcall : call.Admissible l) (hs : l.stores.Valid lower)
    (hid : ¬ call.Draws id) : RowEvolves (filledBy id (call.fills lower cfg l))
      (l.stores.orders.get id) ((call.run lower cfg l).stores.orders.get id) := by
  cases call with
  | submit =>
    rcases submit_cases hs.wellFormed hcall.1 with
      ⟨hidle, hnone⟩ | ⟨market, out, s', hsub, hrun, hfills⟩
    · rw [hidle, hnone]
      exact .idle _
    · rw [hrun, hfills]
      exact hsub.evolves hs hcall.1 hid
  | cancel orderId caller now =>
    rcases run_cancel orderId caller now with hidle | ⟨o, ho, hrun⟩
    · rw [hidle]
      exact .idle _
    by_cases hact : o.status.isActive = true
    · rw [hrun]
      change RowEvolves 0 _ (FMap.get? (l.stores.orders.orders.set _ _) _)
      rw [FMap.get?_set]
      split
      · next heq =>
          rw [heq, ho]
          exact .worked hact rfl rfl
      · exact .idle _
    · rw [run_cancel_of_ended ho (by simpa using hact)]
      exact .idle _
  | fundingTick =>
    exact (runPerpFundingTick_induct (P := fun l' =>
      RowEvolves 0 (l.stores.orders.get id) (l'.stores.orders.get id)) (fun _ _ hl _ => hl)
      hs.wellFormed.positions (.idle _)).2
  | liquidationTick =>
    exact (runPerpLiquidationTick_induct (P := fun l' => l'.stores.Valid lower ∧
      RowEvolves 0 (l.stores.orders.get id) (l'.stores.orders.get id))
      (fun _ hl hstep => ⟨hstep.valid hl.1, hl.2.trans (hstep.evolves hl.1 id)⟩)
      hs.wellFormed.positions ⟨hs, .idle _⟩).2.2

theorem PerpCall.not_draws {call : PerpCall} (hcall : call.Admissible l)
    (ho : l.stores.orders.get id = some o) : ¬ call.Draws id := by
  cases call with
  | submit =>
    rintro rfl
    rw [hcall.1.order] at ho
    cases ho
  | _ => exact not_false

/-- **No row is lost, no order changes its terms or loses a fill, and a row that has ended stays
as it is**, whatever requests come after it was stored. -/
theorem order_rows_evolve (hrun : PerpRun lower cfg calls l)
    (hlater : Run (stepOf (fun l call => PerpCall.run lower cfg call l)
      fun l call => call.Admissible l) l later l') (ho : l.stores.orders.get id = some o) :
    ∃ o', l'.stores.orders.get id = some o' ∧ o'.terms = o.terms ∧
      o.filledSize1e8 ≤ o'.filledSize1e8 ∧ (o.status.isActive = false → o' = o) := by
  obtain ⟨-, n, hev⟩ : l'.stores.Valid lower ∧
      ∃ n, RowEvolves n (some o) (l'.stores.orders.get id) := by
    refine Run.invariant (P := fun l' => l'.stores.Valid lower ∧
      ∃ n, RowEvolves n (some o) (l'.stores.orders.get id)) hlater
      ⟨hrun.valid, 0, by rw [ho]; exact .idle _⟩ ?_
    rintro l₁ call _ ⟨hs, n, hev⟩ ⟨hcall, rfl⟩
    obtain ⟨o₁, ho₁, -⟩ := hev.of_stored
    exact ⟨PerpCall.run_valid hcall hs, _,
      hev.trans (PerpCall.evolves hcall hs (PerpCall.not_draws hcall ho₁))⟩
  obtain ⟨o', ho', hterms, hfilled, hend⟩ := hev.of_stored
  exact ⟨o', ho', hterms, by omega, hend⟩

/-! ## The book between requests -/

/-- Only good-till-cancelled orders rest, and no two of them cross. -/
structure PerpStores.Quiet (s : PerpStores) : Prop where
  gtc : ∀ {id o}, s.orders.get id = some o → o.status.isActive = true → o.timeInForce = .gtc
  uncrossed : ∀ {i j bid ask}, s.orders.get i = some bid → s.orders.get j = some ask →
    bid.status.isActive = true → ask.status.isActive = true → bid.marketId = ask.marketId →
    bid.side = .buy → ask.side = .sell → bid.price1e8 < ask.price1e8

/-- The makers a taker stops at come last. -/
theorem stops_of_makerBefore {taker : PerpOrderSide} (h : makerBefore taker a b)
    (ha : crosses taker limit a.price1e8 = false) : crosses taker limit b.price1e8 = false := by
  cases taker
  · have hab : askBefore a b := h
    grind [askBefore, crosses]
  · have hab : bidBefore a b := h
    grind [bidBefore, crosses]

/-- **An order that is not filled has taken all there was that crosses it.** -/
theorem tradesFor_exhausts {order m : PerpOrder}
    (htotal : Trade.total (tradesFor store order) < order.size1e8)
    (hm : m ∈ counterpartiesFor store order.marketId order.side) (hpos : 0 < m.remainingSize1e8)
    (hcross : crosses order.side order.price1e8 m.price1e8 = true) :
    (⟨m, m.remainingSize1e8⟩ : Trade) ∈ tradesFor store order := by
  have hrank : (counterpartiesFor store order.marketId order.side).Pairwise fun a b =>
      (!crosses order.side order.price1e8 a.price1e8) = true →
        (!crosses order.side order.price1e8 b.price1e8) = true := by
    refine (pairwise_counterpartiesFor store order.marketId order.side).imp fun {a b} hab ha => ?_
    simpa using stops_of_makerBefore hab (by simpa using ha)
  rw [tradesFor, total_tradesFrom] at htotal
  have hgives := greedy_exhausts hrank htotal hm (by simp [hcross])
  exact mem_map.2 ⟨_, mem_filter.2 ⟨hgives, by simpa using hpos⟩, rfl⟩

/-- An order that rests crosses nothing that is left. -/
theorem Submitted.not_crosses (h : Submitted lower cfg draws oracleRead input market s out s')
    (hs : s.Valid lower) (hd : draws.Fresh s) (hact : out.order.status.isActive = true)
    (ho : s'.orders.get id = some o) (hlive : o.status.isActive = true)
    (hmarket : o.marketId = (input.row draws).marketId)
    (hside : o.side = (input.row draws).side.opposite) :
    crosses (input.row draws).side (input.row draws).price1e8 o.price1e8 = false := by
  rw [h.outcome] at hact
  have htotal := ((settledRow_amounts draws (total_tradesFrom_le _ _ _)).2.2.1 hact).2
  by_contra hcross
  rw [Bool.not_eq_false] at hcross
  rcases h.get_cases hs.wellFormed hd ho with ⟨-, rfl⟩ | ⟨t, ht, -, rfl⟩ | ⟨hget, hother⟩
  · -- the order is not on the other side of itself
    rw [h.outcome, congr_terms PerpOrder.side (terms_settledRow ..)] at hside
    cases hs : (input.row draws).side <;> rw [hs] at hside <;> cases hside
  · rw [congr_terms PerpOrder.price1e8 (t.terms_makerRow _)] at hcross
    have hlt := (makerRow_amounts (hs.maker_sound ht) (tradesFor_size ht).2).2.2.1 hlive
    have hall := tradesFor_exhausts htotal (tradesFrom_mem ht).1 (by omega) hcross
    -- a maker is met once, and was to give everything
    rw [inj_on_of_nodup_map (hs.allStanding _).nodup ht hall rfl] at hlt
    exact lt_irrefl _ hlt
  · have hall := tradesFor_exhausts htotal
      (mem_counterpartiesFor.2 ⟨⟨id, hget⟩, hmarket, hlive, hside⟩) ((hs.rows hget).live hlive)
      hcross
    exact hother _ hall (hs.wellFormed.filed hget).symm

/-- The book stays quiet if the rows that are there evolve, and a new one rests and crosses
nothing. -/
theorem PerpStores.Quiet.step {new : Uuid → Prop} (hq : s.Quiet)
    (hold : ∀ id, ¬ new id → ∃ n, RowEvolves n (s.orders.get id) (s'.orders.get id))
    (hnew : ∀ {id o}, new id → s'.orders.get id = some o → o.status.isActive = true →
      o.timeInForce = .gtc ∧ ∀ {j o'}, s'.orders.get j = some o' → o'.status.isActive = true →
        o'.marketId = o.marketId → o'.side = o.side.opposite →
          crosses o.side o.price1e8 o'.price1e8 = false) : s'.Quiet where
  gtc := by
    intro id o' ho' hact'
    by_cases hid : new id
    · exact (hnew hid ho' hact').1
    obtain ⟨n, hev⟩ := hold id hid
    obtain ⟨o, ho, hact, hterms⟩ := hev.was_active ho' hact'
    rw [congr_terms timeInForce hterms, hq.gtc ho hact]
  uncrossed := by
    intro i j bid ask hbid hask hlive hlive' hmarket hbuy hsell
    by_cases hi : new i
    · have hfree := (hnew hi hbid hlive).2 hask hlive' hmarket.symm (by rw [hbuy, hsell]; rfl)
      simpa [hbuy, crosses] using hfree
    by_cases hj : new j
    · have hfree := (hnew hj hask hlive').2 hbid hlive hmarket (by rw [hbuy, hsell]; rfl)
      simpa [hsell, crosses] using hfree
    obtain ⟨n, hevi⟩ := hold i hi
    obtain ⟨m, hevj⟩ := hold j hj
    obtain ⟨bid₀, hbid₀, hact, hterms⟩ := hevi.was_active hbid hlive
    obtain ⟨ask₀, hask₀, hact', hterms'⟩ := hevj.was_active hask hlive'
    rw [congr_terms marketId hterms, congr_terms marketId hterms'] at hmarket
    rw [congr_terms side hterms] at hbuy
    rw [congr_terms side hterms'] at hsell
    rw [congr_terms price1e8 hterms, congr_terms price1e8 hterms']
    exact hq.uncrossed hbid₀ hask₀ hact hact' hmarket hbuy hsell

/-- **Every request keeps the book quiet.** -/
theorem PerpCall.quiet {call : PerpCall} (hcall : call.Admissible l) (hs : l.stores.Valid lower)
    (hq : l.stores.Quiet) : (call.run lower cfg l).stores.Quiet := by
  refine hq.step (fun id (hid : ¬ call.Draws id) => ⟨_, evolves hcall hs hid⟩) ?_
  intro id o hid ho hact
  cases call with
  | submit draws answer input =>
    obtain rfl : id = draws.orderId := hid
    rcases run_submit hs.wellFormed hcall.1 with hidle | ⟨market, out, s', hsub, hrun⟩
    · rw [hidle, hcall.1.order] at ho
      cases ho
    rw [hrun] at ho ⊢
    obtain rfl : out.order = o := some.inj (hsub.get_order.symm.trans ho)
    have hterms : out.order.terms = (input.row draws).terms := by
      rw [hsub.outcome]
      exact terms_settledRow ..
    constructor
    · rw [congr_terms timeInForce hterms]
      rw [hsub.outcome] at hact
      exact ((settledRow_amounts draws (total_tradesFrom_le _ _ _)).2.2.1 hact).1
    · intro j o' ho' hlive hmarket hside
      rw [congr_terms side hterms] at hside ⊢
      rw [congr_terms marketId hterms] at hmarket
      rw [congr_terms price1e8 hterms]
      exact hsub.not_crosses hs hcall.1 hact ho' hlive hmarket hside
  | _ => exact absurd hid not_false

theorem quiet_empty : PerpStores.empty.Quiet where
  gtc := fun h => by cases h
  uncrossed := fun h => by cases h

/-- **The book is never crossed or locked, and only good-till-cancelled orders rest in it**,
whatever requests were made. -/
theorem book_never_crossed (hrun : PerpRun lower cfg calls l) : l.stores.Quiet := by
  have hinv : l.stores.Valid lower ∧ l.stores.Quiet := by
    refine Run.invariant (P := fun l => l.stores.Valid lower ∧ l.stores.Quiet) hrun
      ⟨PerpStores.valid_empty, quiet_empty⟩ ?_
    rintro l call _ ⟨hs, hq⟩ ⟨hcall, rfl⟩
    exact ⟨PerpCall.run_valid hcall hs, PerpCall.quiet hcall hs hq⟩
  exact hinv.2

/-! ## The fills of a run -/

/-- A ledger, with all fills that were returned. -/
structure PerpTape where
  ledger : PerpLedger := .empty
  fills : List PerpFill := []

/-- The tape after one more request. -/
def PerpTape.after (lower : String → String) (cfg : PerpsReadConfig) (tape : PerpTape)
    (call : PerpCall) : PerpTape :=
  ⟨call.run lower cfg tape.ledger, tape.fills ++ call.fills lower cfg tape.ledger⟩

/-- **Every order was filled by the fills that name it**, as taker when it came and as maker
since; what it was filled by and what is left make its size, and no fill names an order that is
not stored. -/
theorem fills_account_for_orders
    (hrun : Run (stepOf (PerpTape.after lower cfg) fun tape call => call.Admissible tape.ledger)
      {} calls tape) (id : Uuid) :
    filledBy id tape.fills = (tape.ledger.stores.orders.get id).elim 0 (·.filledSize1e8) ∧
      ∀ o, tape.ledger.stores.orders.get id = some o →
        filledBy id tape.fills + o.remainingSize1e8 = o.size1e8 := by
  obtain ⟨hs, hsum⟩ : tape.ledger.stores.Valid lower ∧ ∀ id, filledBy id tape.fills =
      (tape.ledger.stores.orders.get id).elim 0 (·.filledSize1e8) := by
    refine Run.invariant (P := fun tape : PerpTape => tape.ledger.stores.Valid lower ∧ ∀ id,
      filledBy id tape.fills = (tape.ledger.stores.orders.get id).elim 0 (·.filledSize1e8)) hrun
      ⟨PerpStores.valid_empty, fun _ => rfl⟩ ?_
    rintro tape call _ ⟨hs, hsum⟩ ⟨hcall, rfl⟩
    refine ⟨PerpCall.run_valid hcall hs, fun id => ?_⟩
    have happend : filledBy id (tape.after lower cfg call).fills =
        filledBy id tape.fills + filledBy id (call.fills lower cfg tape.ledger) := by
      simp [filledBy, PerpTape.after]
    rw [happend, hsum id]
    by_cases hid : call.Draws id
    · cases call with
      | submit draws answer input =>
        obtain rfl : id = draws.orderId := hid
        rw [hcall.1.order, elim_none, zero_add, PerpTape.after]
        rcases PerpCall.submit_cases hs.wellFormed hcall.1 with
          ⟨hidle, hnone⟩ | ⟨market, out, s', hsub, hrun, hfills⟩
        · rw [hidle, hnone, hcall.1.order]
          rfl
        · rw [hrun, hfills, PerpLedger.withStores, hsub.get_order, hsub.outcome,
            filledBy_fillRecords]
          exact (if_pos rfl).trans (settledRow_amounts draws (total_tradesFrom_le _ _ _)).1.symm
      | _ => exact absurd hid not_false
    · exact (PerpCall.evolves hcall hs hid).filled.symm
  refine ⟨hsum id, fun o ho => ?_⟩
  rw [hsum, ho]
  exact (hs.rows ho).balanced

/-! ## The exposure of a market -/

/-- A settlement leaves the net exposure of every market. -/
theorem Settles.net {read : FundingIndexRead} (h : Settles lower indices l p read payment1e8)
    (hs : l.stores.positions.WellFormed lower) (marketId : String) :
    netExposure marketId (l.settled p read.cumulativeIndex1e18 payment1e8 now id).stores.positions =
      netExposure marketId l.stores.positions := by
  have hw := h.writes hs now id
  have htotal := hw.marketTotal_eq Holding.signed marketId
  rw [PerpPositionsStore.holdingAt, PerpPositionsStore.holdingAt, hw.openAt_eq, if_pos rfl,
    h.isOpen, ← netExposure_eq, ← netExposure_eq] at htotal
  exact add_right_cancel htotal

/-- A request that liquidates nothing, and whose size no open position of its market overflows
by. -/
def PerpCall.Balancing : PerpCall → PerpLedger → Prop
  | submit draws _ input, l => draws.Fresh l.stores ∧ input.Fits ∧
      ∀ p ∈ PositionTable.openRows l.stores.positions.byId, p.marketId = input.marketId →
        p.size1e8 + input.size1e8 ≤ maxU128
  | liquidationTick _ _ _, _ => False
  | _, _ => True

theorem PerpCall.Balancing.admissible {call : PerpCall} (h : call.Balancing l) :
    call.Admissible l := by
  cases call with
  | submit => exact ⟨h.1, h.2.1⟩
  | _ => trivial

theorem PerpCall.net {call : PerpCall} (hcall : call.Balancing l) (hs : l.stores.Valid lower)
    (marketId : String) : netExposure marketId (call.run lower cfg l).stores.positions =
      netExposure marketId l.stores.positions := by
  cases call with
  | submit draws answer input =>
    obtain ⟨hd, hfits, hroom⟩ := hcall
    rcases run_submit hs.wellFormed hd with hidle | ⟨market, out, s', hsub, hrun⟩
    · rw [hidle]
    · rw [hrun]
      exact (hsub.zeroSum hs hd hfits.size (room_of_positions hs.wellFormed.positions hfits.size
        hroom)).net marketId
  | cancel orderId caller now =>
    rcases run_cancel orderId caller now with hidle | ⟨o, -, hrun⟩
    · rw [hidle]
    · rw [hrun]
      rfl
  | fundingTick =>
    exact (runPerpFundingTick_induct (P := fun l' =>
      netExposure marketId l'.stores.positions = netExposure marketId l.stores.positions)
      (fun _ hl hnet hset => (hset.net hl marketId).trans hnet) hs.wellFormed.positions rfl).2
  | liquidationTick => exact hcall.elim

/-- **The longs of a market are its shorts**, whatever was submitted, cancelled and settled. -/
theorem market_is_zero_sum (hrun : Run (stepOf (fun l call => PerpCall.run lower cfg call l)
      fun l call => call.Balancing l) PerpLedger.empty calls l) (marketId : String) :
    netExposure marketId l.stores.positions = 0 := by
  obtain ⟨-, hnet⟩ : l.stores.Valid lower ∧ netExposure marketId l.stores.positions = 0 := by
    refine Run.invariant (P := fun l => l.stores.Valid lower ∧
      netExposure marketId l.stores.positions = 0) hrun ⟨PerpStores.valid_empty, rfl⟩ ?_
    rintro l call _ ⟨hs, hnet⟩ ⟨hcall, rfl⟩
    exact ⟨PerpCall.run_valid hcall.admissible hs, (PerpCall.net hcall hs marketId).trans hnet⟩
  exact hnet

end

namespace EthPerp

/-- A bid below the ask. -/
def lowBid : SubmitPerpOrderInput := limit "bob" .buy 290000000000 100000000 100000000000

theorem book_never_crossed_bid_ask : (after market [lowBid, ask]).stores.Quiet :=
  book_never_crossed (run_after (by decide +kernel))

theorem ask_balancing : (PerpCall.submit (draws 1) read ask).Balancing .empty :=
  ⟨fresh_of_below (by decide +kernel), ⟨by decide, by decide, by decide⟩, by decide +kernel⟩

theorem take_balancing : (PerpCall.submit (draws 2) read take).Balancing (after market [ask]) :=
  ⟨fresh_of_below (by decide +kernel), ⟨by decide, by decide, by decide⟩, by decide +kernel⟩

/-- The ask is taken, and keeps its terms. -/
theorem order_rows_evolve_taken : ∃ o o',
    (after market [ask]).stores.orders.get (draws 1).orderId = some o ∧
    (after market [take, ask]).stores.orders.get (draws 1).orderId = some o' ∧
    o'.terms = o.terms := by
  obtain ⟨o, ho⟩ := isSome_iff_exists.1 (show
    ((after market [ask]).stores.orders.get (draws 1).orderId).isSome by decide +kernel)
  obtain ⟨o', ho', hterms, -⟩ := order_rows_evolve (run_after (by decide +kernel))
    (Run.start.snoc ⟨take_balancing.admissible, rfl⟩) ho
  exact ⟨o, o', ho, ho', hterms⟩

/-- The fill of the take names the ask. -/
theorem fills_account_for_orders_taken : filledBy (draws 1).orderId
    ((({} : PerpTape).after id (config market) (.submit (draws 1) read ask)).after id
      (config market) (.submit (draws 2) read take)).fills = 100000000 := by
  rw [(fills_account_for_orders ((Run.start.snoc ⟨ask_balancing.admissible, rfl⟩).snoc
    ⟨take_balancing.admissible, rfl⟩) _).1]
  decide +kernel

theorem market_is_zero_sum_taken :
    netExposure "ETH-PERP" (after market [take, ask]).stores.positions = 0 :=
  market_is_zero_sum ((Run.start.snoc ⟨ask_balancing, rfl⟩).snoc ⟨take_balancing, rfl⟩) "ETH-PERP"

end EthPerp

end DeoptBackend
