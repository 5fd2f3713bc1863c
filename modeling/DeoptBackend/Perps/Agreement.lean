import DeoptBackend.Perps.PostgresMatching
import DeoptBackend.Perps.PriceProtection

/-!
# The two perps engines agree on limit orders

`submitPerpOrderViaState` without a repository against
`submitPerpOrderViaRepositoryInner`.  Both were compared with `Admitted`
(`Perps.Submit`, `Perps.PostgresMatching`), so what is left is to compare what
they feed it with: the checks, the makers and the case folding.

* `PositionTable.openPairs` — what is open, as pairs of a key and the amounts; two
  tables with the same holdings have the same pairs.
* `riskCaps_congr` — the risk caps read nothing else of the positions.
* `loadPositions_ok` — the store the database engine loads for them is well-formed
  and holds what the table holds.
* `SameBook` — equal active orders and open positions, and accounts spelled in lower
  case; `SameClients` — the same client order ids used.
* `engines_agree` — both refuse and change nothing, or both accept with the same
  fills, order rows and positions.
-/

namespace DeoptBackend

open PositionTable List PerpPositionsStore Act

open PerpPositionsStore (fillKey)

/-! ## What is open -/

namespace PositionTable

def openPairs (lower : String → String) (m : PositionTable) : List (IndexKey × Holding) :=
  m.openRows.map fun p => (p.key lower, p.holding)

theorem WellFormed.mem_openPairs (hm : WellFormed lower m) :
    (key, h) ∈ m.openPairs lower ↔ m.holdingAt lower key = some h := by
  simp only [openPairs, mem_map, Prod.mk.injEq, holdingAt, Option.map_eq_some_iff,
    hm.openAt_eq_some_iff]
  constructor
  · rintro ⟨p, hp, rfl, rfl⟩
    exact ⟨p, ⟨hp, rfl⟩, rfl⟩
  · rintro ⟨p, ⟨hp, hkey⟩, hh⟩
    exact ⟨p, hp, hkey, hh⟩

theorem WellFormed.nodup_openPairs (hm : WellFormed lower m) : (m.openPairs lower).Nodup := by
  have hkeys := hm.nodup_keys
  have hfst : m.openRows.map (PerpPosition.key lower) = (m.openPairs lower).map (·.1) := by
    simp [openPairs]
  rw [hfst] at hkeys
  exact hkeys.of_map

/-- **The holdings determine what is open.** -/
theorem openPairs_perm (hm : WellFormed lower m) (hm' : WellFormed lower m')
    (hh : m.holdingAt lower = m'.holdingAt lower) :
    (m.openPairs lower).Perm (m'.openPairs lower) := by
  refine (perm_ext_iff_of_nodup hm.nodup_openPairs hm'.nodup_openPairs).2 fun ⟨key, h⟩ => ?_
  rw [hm.mem_openPairs, hm'.mem_openPairs, hh]

end PositionTable

/-! ## The risk caps -/

/-- A total over the open rows a condition on the key picks. -/
theorem sum_openRows (m : PositionTable) (lower : String → String) (q : IndexKey → Bool)
    (f : Holding → Nat) :
    ((m.openRows.filter fun p => q (p.key lower)).map fun p => f p.holding).sum =
      (((m.openPairs lower).filter fun e => q e.1).map fun e => f e.2).sum := by
  rw [openPairs, filter_map, map_map]
  rfl

section

variable (lower : String → String) (market : PerpsReadMarket) (s : PerpPositionsStore)

theorem openInterest_eq : ((s.byIdValuesIter.filter (openIn market)).map fun p => p.size1e8).sum =
      (((openPairs lower s.byId).filter fun e => decide (e.1.2.2 = market.symbol)).map
        fun e => e.2.size1e8).sum := by
  rw [← sum_openRows s.byId lower (fun key => decide (key.2.2 = market.symbol)) (·.size1e8)]
  rw [openRows, filter_filter, byIdValuesIter]
  congr 2
  refine filter_congr fun p _ => ?_
  rw [Bool.eq_iff_iff]
  simp only [openIn, PerpPosition.key, Bool.and_eq_true, decide_eq_true_eq]
  exact ⟨fun h => ⟨decide_eq_true h.2, h.1⟩, fun h => ⟨h.2, of_decide_eq_true h.1⟩⟩

theorem subaccountNotional_eq (account : AccountId) (subaccountId : Nat) :
    (((s.listForAccountAndSubaccount lower account subaccountId).filter (openIn market)).map
        fun p => Margin.notional1e8 p.size1e8 p.entryPrice1e8).sum =
      (((openPairs lower s.byId).filter fun e =>
          decide (e.1 = indexKey lower account subaccountId market.symbol)).map
        fun e => Margin.notional1e8 e.2.size1e8 e.2.entryPrice1e8).sum := by
  rw [← sum_openRows s.byId lower
    (fun key => decide (key = indexKey lower account subaccountId market.symbol))
    (fun h => Margin.notional1e8 h.size1e8 h.entryPrice1e8)]
  rw [listForAccountAndSubaccount,
    (((perm_insertionSort _ _).filter _).map _).sum_eq, openRows,
    filter_filter, filter_filter]
  congr 2
  refine filter_congr fun p _ => ?_
  rw [Bool.eq_iff_iff]
  simp only [openIn, PerpPosition.key, indexKey, Bool.and_eq_true, decide_eq_true_eq, Prod.mk.injEq]
  tauto

end

/-- **The risk caps depend on the holdings only.** -/
theorem riskCaps_congr (hs : s.WellFormed lower) (hs' : s'.WellFormed lower)
    (hh : s.holdingAt lower = s'.holdingAt lower) (input : SubmitPerpOrderInput) :
    enforcePreSubmitRiskCaps lower market s input =
      enforcePreSubmitRiskCaps lower market s' input := by
  have hperm := openPairs_perm hs.rows hs'.rows hh
  have hoi : enforceOpenInterest market s input = enforceOpenInterest market s' input := by
    have hsum := ((hperm.filter fun e => decide (e.1.2.2 = market.symbol)).map
      fun e => e.2.size1e8).sum_eq
    simp [enforceOpenInterest, sumU128, openInterest_eq lower, hsum]
  have hnotional : ∀ n, enforceSubaccountNotional lower market s input n =
      enforceSubaccountNotional lower market s' input n := by
    intro n
    have hsum := ((hperm.filter fun e =>
      decide (e.1 = indexKey lower input.account input.subaccountId market.symbol)).map
        fun e => Margin.notional1e8 e.2.size1e8 e.2.entryPrice1e8).sum_eq
    simp [enforceSubaccountNotional, sumU128, subaccountNotional_eq, hsum]
  simp only [enforcePreSubmitRiskCaps, hoi, hnotional]

/-! ## The positions the database engine loads -/

section

variable {db : PerpTables}

/-- Open positions under different keys, none of them in use, can be loaded. -/
theorem loadPositions_ok (hs : s.WellFormed lower) (hopen : ∀ p ∈ l, p.status = .open)
    (hkeys : (l.map (PerpPosition.key lower)).Nodup) (hids : (l.map (·.id)).Nodup)
    (hfree : ∀ p ∈ l, s.openAt lower (p.key lower) = none ∧ s.byId.get? p.id = none) :
    ∃ s', loadPositions lower l s = (.ok (), s') ∧ s'.WellFormed lower ∧
      ∀ key p, s'.openAt lower key = some p ↔
        (p ∈ l ∧ p.key lower = key) ∨ s.openAt lower key = some p := by
  induction l generalizing s with
  | nil => exact ⟨s, rfl, hs, by simp⟩
  | cons p l ih =>
    rw [map_cons, nodup_cons] at hkeys hids
    obtain ⟨hkey, hid⟩ := hfree p mem_cons_self
    have ho : p.openIndex lower = some (p.key lower) :=
      openIndex_of_open (hopen p mem_cons_self) rfl
    have hw := hs.opens hid ho hkey
    set s₁ : PerpPositionsStore :=
      ⟨s.byId.set p.id p, s.activeByAccountSubaccountMarket.set (p.key lower) p.id⟩ with hs₁
    have hfree₁ : ∀ q ∈ l, s₁.openAt lower (q.key lower) = none ∧ s₁.byId.get? q.id = none := by
      intro q hq
      obtain ⟨hqkey, hqid⟩ := hfree q (mem_cons_of_mem _ hq)
      constructor
      · rw [hw.openAt_eq, if_neg, hqkey]
        intro heq
        exact hkeys.1 (heq ▸ mem_map_of_mem hq)
      · rw [hs₁, FMap.get?_set_ne, hqid]
        intro heq
        exact hids.1 (heq ▸ mem_map_of_mem hq)
    obtain ⟨s', hrun, hs', hat⟩ := ih hw.wellFormed
      (fun q hq => hopen q (mem_cons_of_mem _ hq)) hkeys.2 hids.2 hfree₁
    refine ⟨s', ?_, hs', fun key q => ?_⟩
    · rw [loadPositions, bind_of_ok (insertOpen_eq hs ho hkey)]
      exact hrun
    rw [hat, hw.openAt_eq, mem_cons]
    by_cases hk : key = p.key lower
    · subst hk
      grind
    · rw [if_neg hk]
      grind

/-- Two foldings that find an open position under the same key. -/
def SameKeys (lower sqlLower : String → String) (db : PerpTables) : Prop :=
  ∀ p ∈ openRows db.positions, p.key lower = p.key sqlLower

/-- The database engine loads a well-formed store, with what the table holds. -/
theorem openPositionsPg_ok (hm : WellFormed sqlLower db.positions)
    (hsame : SameKeys lower sqlLower db) :
    ∃ positions, openPositionsPg lower db = .ok positions ∧ positions.WellFormed lower ∧
      positions.holdingAt lower = db.holdings sqlLower := by
  set rows := listOpenPerpPositionsTx db with hrows
  have hperm : rows.Perm (openRows db.positions) := perm_insertionSort _ _
  have hmem : ∀ p, p ∈ rows ↔ p ∈ openRows db.positions := fun p => hperm.mem_iff
  have hkeys : (rows.map (PerpPosition.key lower)).Nodup := by
    have hall := hm.nodup_keys
    rw [← map_congr_left hsame] at hall
    exact ((hperm.map _).nodup_iff).2 hall
  have hids : (rows.map (·.id)).Nodup := by
    have hall : (db.positions.vals.map (·.id)).Nodup := FMap.nodup_vals_map fun h => hm.filed h
    exact ((hperm.map _).nodup_iff).2 (hall.sublist (filter_sublist.map _))
  obtain ⟨positions, hrun, hwf, hat⟩ := loadPositions_ok wellFormed_empty
    (fun p hp => (mem_openRows.1 ((hmem p).1 hp)).2) hkeys hids
    (fun p _ => ⟨rfl, rfl⟩)
  refine ⟨positions, by rw [openPositionsPg, hrun], hwf, ?_⟩
  funext key
  have heq : positions.openAt lower key = openAt sqlLower db.positions key := by
    refine Option.ext fun p => ?_
    rw [hat, hm.openAt_eq_some_iff, hmem]
    constructor
    · rintro (⟨hp, rfl⟩ | hp)
      · exact ⟨hp, (hsame p hp).symm⟩
      · cases hp
    · rintro ⟨hp, rfl⟩
      exact .inl ⟨hp, hsame p hp⟩
  rw [PerpPositionsStore.holdingAt, heq]
  rfl

end

/-! ## Orders up to identifiers and timestamps -/

/-- An order without its identifier and its timestamps. -/
def PerpOrder.anonymous (o : PerpOrder) : PerpOrder :=
  { o with id := 0, createdAtMs := 0, updatedAtMs := 0 }

section

variable {order order' : PerpOrder}

section

variable (ho : order.anonymous = order'.anonymous)
include ho

/-- What the taker's position is given does not depend on identifiers. -/
theorem takerFillInput_congr (plan : PlannedFill) :
    takerFillInput order plan = takerFillInput order' plan :=
  (congrArg (takerFillInput · plan) ho :)

theorem makerFillInput_congr (maker : PerpOrder) (plan : PlannedFill) :
    makerFillInput order maker plan = makerFillInput order' maker plan :=
  (congrArg (makerFillInput · maker plan) ho :)

theorem tradesFrom_congr (makers : List PerpOrder) (n : Nat) :
    tradesFrom order makers n = tradesFrom order' makers n :=
  (congrArg (tradesFrom · makers n) ho :)

end

/-- Two foldings that agree on an account find its holdings under the same key. -/
theorem fillHoldings_congr (hfold : lower fill.account.name = sqlLower fill.account.name) :
    fillHoldings lower market fill h = fillHoldings sqlLower market fill h := by
  have hkey : fillKey lower fill = fillKey sqlLower fill := by
    simp [fillKey, indexKey, hfold]
  simp [fillHoldings, hkey]

/-- **The trades come out the same** for two foldings that agree on the accounts in
them, and for two takers that differ in identifiers and timestamps only. -/
theorem tradeAll_congr (ho : order.anonymous = order'.anonymous)
    (htaker : lower order.account.name = sqlLower order.account.name)
    (hmakers : ∀ t ∈ trades, lower t.maker.account.name = sqlLower t.maker.account.name) :
    tradeAll lower market order trades h = tradeAll sqlLower market order' trades h := by
  induction trades generalizing h with
  | nil => rfl
  | cons t ts ih =>
    have hone : trade lower market order t h = trade sqlLower market order' t h := by
      have htake : fillHoldings lower market (takerFillInput order t.plan) h =
          fillHoldings sqlLower market (takerFillInput order' t.plan) h := by
        rw [← takerFillInput_congr ho]
        exact fillHoldings_congr htaker
      have hmake : ∀ g, fillHoldings lower market (makerFillInput order t.maker t.plan) g =
          fillHoldings sqlLower market (makerFillInput order' t.maker t.plan) g := by
        intro g
        rw [← makerFillInput_congr ho]
        exact fillHoldings_congr (hmakers t mem_cons_self)
      simp [trade, htake, hmake]
    simp [tradeAll, hone, ih fun u hu => hmakers u (mem_cons_of_mem _ hu)]

/-- Only whether there were fills matters to the row of the taker. -/
theorem takerSettled_congr (hfills : fills = [] ↔ fills' = []) (o : PerpOrder) :
    o.takerSettled tif remaining fills = o.takerSettled tif remaining fills' := by
  simp [PerpOrder.takerSettled, takerFinalStatus, hfills]

theorem anonymous_takerSettled (tif : PerpTimeInForce) (remaining : Nat) (fills : List PerpFill)
    (o : PerpOrder) :
    (o.takerSettled tif remaining fills).anonymous = o.anonymous.takerSettled tif remaining fills := by
  simp only [PerpOrder.takerSettled]
  split <;> rfl

theorem fillRecords_eq_nil (order : PerpOrder) (draws : SubmitDraws) (i : Nat) :
    fillRecords order draws i trades = [] ↔ trades = [] := by
  cases trades <;> simp [fillRecords]

/-- The settled rows of two takers that differ in identifiers and timestamps only
do not differ in more. -/
theorem settledRow_congr (ho : order.anonymous = order'.anonymous) (draws draws' : SubmitDraws)
    (trades : List Trade) :
    (settledRow order draws trades).anonymous = (settledRow order' draws' trades).anonymous := by
  have hsize : order.size1e8 = order'.size1e8 := (congrArg PerpOrder.size1e8 ho :)
  have htif : order.timeInForce = order'.timeInForce := (congrArg PerpOrder.timeInForce ho :)
  have hfills : fillRecords order draws 0 trades = [] ↔ fillRecords order' draws' 0 trades = [] := by
    rw [fillRecords_eq_nil, fillRecords_eq_nil]
  have hstamp : ∀ (o : PerpOrder) (d : SubmitDraws), (settledRow o d trades).anonymous =
        (o.takerSettled o.timeInForce (o.size1e8 - Trade.total trades)
          (fillRecords o d 0 trades)).anonymous := fun _ _ => rfl
  rw [hstamp, hstamp, anonymous_takerSettled, anonymous_takerSettled, ho, hsize, htif,
    takerSettled_congr hfills]

def PerpFill.terms (f : PerpFill) : Uuid × Nat × Nat := (f.makerOrderId, f.price1e8, f.size1e8)

theorem terms_fillRecords (order : PerpOrder) (draws : SubmitDraws) (i : Nat)
    (trades : List Trade) : (fillRecords order draws i trades).map PerpFill.terms =
      trades.map fun t => (t.maker.id, t.maker.price1e8, t.size1e8) := by
  induction trades generalizing i with
  | nil => rfl
  | cons t ts ih =>
    rw [fillRecords, map_cons, map_cons, ih]
    rfl

end

/-! ## Agreement -/

/-- An account spelled in lower case, whoever folds it. -/
structure LowerCase (lower sqlLower : String → String) (account : AccountId) : Prop where
  /-- `to_lowercase` leaves it as it is. -/
  rust : lower account.name = account.name
  /-- So does the database. -/
  sql : sqlLower account.name = account.name
  ascii : account.name.toList.map asciiLower = account.name.toList

/-- Equal active orders and open positions, under accounts in lower case. -/
structure SameBook (lower sqlLower : String → String) (s : PerpStores) (db : PerpTables) : Prop where
  orders : ∀ {id o}, o.status.isActive = true →
    (s.orders.get id = some o ↔ db.orders.get? id = some o)
  /-- The open positions are the same. -/
  holdings : s.holdings lower = db.holdings sqlLower
  orderAccounts : ∀ {id o}, s.orders.get id = some o → o.status.isActive = true →
    LowerCase lower sqlLower o.account
  positionAccounts : ∀ p ∈ openRows db.positions, LowerCase lower sqlLower p.account

/-- The same client order ids have been used, by active orders or by others. -/
def SameClients (sqlLower : String → String) (s : PerpStores) (db : PerpTables) : Prop :=
  ∀ key, s.orders.byClientOrderId.get? key = none ↔
    db.orders.at? (PerpOrder.clientIndex sqlLower) key = none

/-- Two accepted submits with the same result, up to generated identifiers and
timestamps. -/
structure SameResult (lower sqlLower : String → String) (draws draws' : SubmitDraws)
    (s : PerpStores) (out out' : SubmitPerpOrderOutcome) (s' : PerpStores) (db' : PerpTables) :
    Prop where
  fills : out.fills.map PerpFill.terms = out'.fills.map PerpFill.terms
  taker : out.order.anonymous = out'.order.anonymous
  stored : s'.orders.get draws.orderId = some out.order ∧
    db'.orders.get? draws'.orderId = some out'.order
  /-- Every order that was active before has the same row after. -/
  makers : ∀ {id o}, s.orders.get id = some o → o.status.isActive = true →
    ∃ o₁ o₂, s'.orders.get id = some o₁ ∧ db'.orders.get? id = some o₂ ∧ o₁.anonymous = o₂.anonymous
  /-- The same open positions. -/
  holdings : s'.holdings lower = db'.holdings sqlLower

section

variable {input : SubmitPerpOrderInput}

theorem sameAccount_eq_sameAccountPg (ha : LowerCase lower sqlLower a)
    (hb : LowerCase lower sqlLower b) : sameAccount a b = sameAccountPg a b := by
  rw [Bool.eq_iff_iff]
  simp only [sameAccount, sameAccountPg, eqIgnoreAsciiCase, decide_eq_true_eq, ha.ascii, hb.ascii]
  constructor
  · rintro rfl
    rfl
  intro h
  have hname : a.name = b.name := String.ext h
  cases a
  cases b
  simpa using hname

theorem ensureMarkWithinDeviation_ok (cfg : PerpsReadConfig) (read : RawPriceRead)
    (market : PerpsReadMarket) : ensureMarkWithinDeviation cfg read market = .ok () := by
  have hzero : deviationBps read.price1e8 read.price1e8 = 0 := by
    unfold deviationBps
    split
    · rfl
    · simp [Margin.satMul, Saturating.mul]
  simp [ensureMarkWithinDeviation, hzero]

theorem prepareSubmitOracle_eq (hbasics : validateInputBasics input = .ok ())
    (htif : validateTifCombinations input = .ok ())
    (hmarket : cfg.marketBySymbol input.marketId = some market) :
    prepareSubmitOracle cfg answer input = answer := by
  simp only [prepareSubmitOracle, hbasics, htif, requireMarket_eq_ok.2 hmarket]
  rfl

theorem preSubmitPg_eq_ok : preSubmitPg lower cfg checkedAtMs answer input db = .ok market ↔
      validateInputBasics input = .ok () ∧ validateTifCombinations input = .ok () ∧
        cfg.marketBySymbol input.marketId = some market ∧
        ∃ positions, openPositionsPg lower db = .ok positions ∧
          openingRiskGatePg lower cfg market checkedAtMs answer positions input = .ok () := by
  simp only [preSubmitPg, checkInputPg, Except.bind_eq_ok, returned_eq_ok, requireMarket_eq_ok]
  constructor
  · rintro ⟨m, ⟨⟨⟩, hbasics, ⟨⟩, htif, hm⟩, positions, hload, ⟨⟩, hgate, hpure⟩
    cases hpure
    exact ⟨hbasics, htif, hm, positions, hload, hgate⟩
  · rintro ⟨hbasics, htif, hm, positions, hload, hgate⟩
    exact ⟨market, ⟨(), hbasics, (), htif, hm⟩, positions, hload, (), hgate, rfl⟩

/-- **The checks agree.** -/
theorem preSubmit_agrees (hs : s.WellFormed lower) (hdb : db.WellFormed sqlLower)
    (hagree : SameBook lower sqlLower s db) :
    preSubmit lower cfg checkedAtMs (prepareSubmitOracle cfg answer input) s.positions input =
        .ok market ↔
      preSubmitPg lower cfg checkedAtMs answer input db = .ok market := by
  have hsame : SameKeys lower sqlLower db := by
    intro p hp
    obtain ⟨hrust, hsql, -⟩ := hagree.positionAccounts p hp
    simp [PerpPosition.key, indexKey, hrust, hsql]
  obtain ⟨positions, hload, hwf, hheld⟩ := openPositionsPg_ok hdb.positions hsame
  have hcaps : ∀ m, enforcePreSubmitRiskCaps lower m s.positions input =
      enforcePreSubmitRiskCaps lower m positions input := fun m =>
    riskCaps_congr hs.positions hwf (hagree.holdings.trans hheld.symm) input
  have hgate : ∀ m read, openingRiskGate lower cfg m checkedAtMs read s.positions input =
      openingRiskGatePg lower cfg m checkedAtMs read positions input := by
    intro m read
    simp only [openingRiskGate, ensureMarkWithinDeviation_ok, hcaps]
    rfl
  rw [preSubmit_eq_ok, preSubmitPg_eq_ok]
  constructor
  · rintro ⟨hbasics, htif, hm, hg⟩
    rw [prepareSubmitOracle_eq hbasics htif hm, hgate] at hg
    exact ⟨hbasics, htif, hm, positions, hload, hg⟩
  · rintro ⟨hbasics, htif, hm, positions', hload', hg⟩
    cases hload.symm.trans hload'
    rw [prepareSubmitOracle_eq hbasics htif hm, hgate]
    exact ⟨hbasics, htif, hm, hg⟩

/-- A limit order makes the same row in both engines. -/
theorem anonymous_row (hprice : input.price1e8 ≠ 0) :
    (input.row draws).anonymous = (input.rowPg draws').anonymous := by
  have heff : effectiveLimitPrice1e8 input = input.price1e8 := by
    rw [effectiveLimitPrice1e8, if_pos hprice]
  rw [SubmitPerpOrderInput.row, heff]
  rfl

theorem clientFree_agrees (hclients : SameClients sqlLower s db)
    (hcase : LowerCase lower sqlLower input.account) : s.orders.ClientFree lower (input.row draws) ↔
      db.ClientFree sqlLower (input.rowPg draws') := by
  have hfold : lower input.account.name = sqlLower input.account.name :=
    hcase.rust.trans hcase.sql.symm
  have hkey : ∀ c, indexKey lower input.account input.subaccountId c =
      indexKey sqlLower input.account input.subaccountId c := by
    intro c
    simp [indexKey, hfold]
  constructor
  · intro hfree key hk
    obtain ⟨c, hc, rfl⟩ := Option.map_eq_some_iff.1 hk
    have hnone := hfree c hc
    rw [← hclients]
    exact (congrArg s.orders.byClientOrderId.get? (hkey c)).symm.trans hnone
  · intro hfree c hc
    have hnone := hfree (indexKey sqlLower input.account input.subaccountId c)
      (Option.map_eq_some_iff.2 ⟨c, hc, rfl⟩)
    rw [← hclients] at hnone
    exact (congrArg s.orders.byClientOrderId.get? (hkey c)).trans hnone

section

variable (hs : s.WellFormed lower) (hdb : db.WellFormed sqlLower)
  (hagree : SameBook lower sqlLower s db) (hprice : input.price1e8 ≠ 0)
include hs hdb hagree hprice

/-- **The makers agree**, and with them the trades. -/
theorem trades_agree :
    tradesFor s.orders (input.row draws) = tradesForPg db (input.rowPg draws') := by
  have hmakers : counterpartiesFor s.orders input.marketId input.side =
      counterpartiesPg db (input.rowPg draws') := by
    have hranked : (counterpartiesPg db (input.rowPg draws')).Pairwise (makerBefore input.side) :=
      pairwise_counterpartiesPg db (input.rowPg draws')
    refine ranked_unique PerpOrder.id makerBefore_antisymm (pairwise_counterpartiesFor _ _ _) hranked
      (nodup_counterpartiesFor (fun h => hs.filed h) _ _)
      (nodup_counterpartiesPg (fun h => hdb.filed h) _) fun m => ?_
    rw [mem_counterpartiesFor, mem_counterpartiesPg]
    constructor
    · rintro ⟨⟨id, hid⟩, hmarket, hactive, hside⟩
      exact ⟨⟨id, (hagree.orders hactive).1 hid⟩, hmarket, hactive, hside⟩
    · rintro ⟨⟨id, hid⟩, hmarket, hactive, hside⟩
      exact ⟨⟨id, (hagree.orders hactive).2 hid⟩, hmarket, hactive, hside⟩
  calc tradesFor s.orders (input.row draws)
      = tradesFrom (input.row draws) (counterpartiesFor s.orders input.marketId input.side)
          input.size1e8 := rfl
    _ = tradesFrom (input.rowPg draws') (counterpartiesPg db (input.rowPg draws'))
          input.size1e8 := by rw [hmakers, tradesFrom_congr (anonymous_row hprice)]

/-- **Admission agrees.** -/
theorem admitted_agrees (hcase : LowerCase lower sqlLower input.account) :
    Admitted lower sameAccount market (input.row draws) (tradesFor s.orders (input.row draws))
        (s.holdings lower) h' ↔
      Admitted sqlLower sameAccountPg market (input.rowPg draws')
        (tradesForPg db (input.rowPg draws')) (db.holdings sqlLower) h' := by
  have htrades : tradesFor s.orders (input.row draws) = tradesForPg db (input.rowPg draws') :=
    trades_agree hs hdb hagree hprice
  have hmakers : ∀ t ∈ tradesFor s.orders (input.row draws),
      LowerCase lower sqlLower t.maker.account := by
    intro t ht
    obtain ⟨hget, -, hactive, -⟩ := tradesFor_maker hs ht
    exact hagree.orderAccounts hget hactive
  have hfold : ∀ {a : AccountId}, LowerCase lower sqlLower a → lower a.name = sqlLower a.name :=
    fun h => h.rust.trans h.sql.symm
  have hall : tradeAll lower market (input.row draws) (tradesFor s.orders (input.row draws))
      (s.holdings lower) = tradeAll sqlLower market (input.rowPg draws')
        (tradesForPg db (input.rowPg draws')) (db.holdings sqlLower) := by
    rw [← htrades, ← hagree.holdings]
    exact tradeAll_congr (anonymous_row hprice) (hfold hcase) fun t ht => hfold (hmakers t ht)
  have hkey : indexKey lower input.account input.subaccountId input.marketId =
      indexKey sqlLower input.account input.subaccountId input.marketId := by
    simp [indexKey, hfold hcase]
  have hheld : s.holdings lower (indexKey lower input.account input.subaccountId input.marketId) =
      db.holdings sqlLower
        (indexKey sqlLower input.account input.subaccountId input.marketId) := by
    rw [hkey, hagree.holdings]
  have hreduced : Holding.ReducedBy (input.row draws) (s.holdings lower
        (indexKey lower input.account input.subaccountId input.marketId)) ↔
      Holding.ReducedBy (input.rowPg draws') (db.holdings sqlLower
        (indexKey sqlLower input.account input.subaccountId input.marketId)) := by
    rw [hheld]
    cases db.holdings sqlLower (indexKey sqlLower input.account input.subaccountId input.marketId)
    · exact Iff.rfl
    · exact Iff.rfl
  have hown : ∀ t ∈ tradesFor s.orders (input.row draws),
      sameAccount t.maker.account input.account = sameAccountPg t.maker.account input.account :=
    fun t ht => sameAccount_eq_sameAccountPg (hmakers t ht) hcase
  rw [← htrades] at hall ⊢
  constructor
  · rintro ⟨hstranger, hpost, hfok, hreduces, hok⟩
    exact ⟨fun t ht => (hown t ht).symm.trans (hstranger t ht), hpost, hfok,
      fun hr => hreduced.1 (hreduces hr), hall.symm.trans hok⟩
  · rintro ⟨hstranger, hpost, hfok, hreduces, hok⟩
    exact ⟨fun t ht => (hown t ht).trans (hstranger t ht), hpost, hfok,
      fun hr => hreduced.2 (hreduces hr), hall.trans hok⟩

end

/-- **Two accepted submits agree.** -/
theorem sameResult (hs : s.WellFormed lower) (hdb : db.WellFormed sqlLower) (hd : draws.Fresh s)
    (hd' : draws'.FreshPg db) (hagree : SameBook lower sqlLower s db) (hprice : input.price1e8 ≠ 0)
    (hmem : Submitted lower cfg draws oracleRead input market s out s')
    (hpg : SubmittedPg sqlLower lower cfg draws' answer input market' db out' db')
    (hheld : s'.holdings lower = db'.holdings sqlLower) :
    SameResult lower sqlLower draws draws' s out out' s' db' := by
  have htrades : tradesFor s.orders (input.row draws) = tradesForPg db (input.rowPg draws') :=
    trades_agree hs hdb hagree hprice
  refine ⟨?_, ?_, ⟨hmem.get_order, hpg.get_order⟩, fun {id o} ho hactive => ?_, hheld⟩
  · rw [hmem.outcome, hpg.outcome, terms_fillRecords, terms_fillRecords, htrades]
  · rw [hmem.outcome, hpg.outcome, htrades]
    exact settledRow_congr (anonymous_row hprice) draws draws' _
  -- an order is filled as a maker, or stays as it was
  · by_cases hmaker : ∃ t ∈ tradesFor s.orders (input.row draws), id = t.maker.id
    · obtain ⟨t, ht, rfl⟩ := hmaker
      exact ⟨_, _, hmem.get_maker hs hd ht, hpg.get_maker hdb hd' (htrades ▸ ht), rfl⟩
    · have hother : ∀ t ∈ tradesFor s.orders (input.row draws), id ≠ t.maker.id :=
        fun t ht heq => hmaker ⟨t, ht, heq⟩
      have ho' : db.orders.get? id = some o := (hagree.orders hactive).1 ho
      have hne : id ≠ draws.orderId := by
        rintro rfl
        rw [hd.order] at ho
        cases ho
      have hne' : id ≠ draws'.orderId := by
        rintro rfl
        rw [hd'.order] at ho'
        cases ho'
      exact ⟨o, o, (hmem.get_other hne hother).trans ho,
        (hpg.get_other hne' (htrades ▸ hother)).trans ho', rfl⟩

end

/-- **The two engines agree on limit orders.**  From equal active orders and open
positions they both refuse and change nothing, or both accept with the same fills,
the same rows and the same positions. -/
theorem engines_agree (lower sqlLower : String → String) (cfg : PerpsReadConfig)
    (draws draws' : SubmitDraws) (answer : Except BackendError RawPriceRead)
    (input : SubmitPerpOrderInput) (s : PerpStores) (db : PerpTables) (hs : s.WellFormed lower)
    (hdb : db.WellFormed sqlLower) (hd : draws.Fresh s) (hd' : draws'.FreshPg db)
    (hclock : draws.checkedAtMs = draws'.checkedAtMs) (hagree : SameBook lower sqlLower s db)
    (hclients : SameClients sqlLower s db) (hprice : input.price1e8 ≠ 0)
    (hcase : LowerCase lower sqlLower input.account) (hsub : Storable input.subaccountId) :
    (∃ e e', submitPerpOrderViaState lower cfg draws answer input s = (.error e, s) ∧
      submitPerpOrderViaRepositoryInner sqlLower lower cfg draws' answer input db =
        (.error e', db)) ∨
    ∃ out out' s' db', submitPerpOrderViaState lower cfg draws answer input s = (.ok out, s') ∧
      submitPerpOrderViaRepositoryInner sqlLower lower cfg draws' answer input db =
        (.ok out', db') ∧
      SameResult lower sqlLower draws draws' s out out' s' db' := by
  cases hmem : submitPerpOrderViaState lower cfg draws answer input s with
  | mk r s' =>
  cases r with
  | ok out =>
    obtain ⟨market, hsubmitted⟩ := submitPerpOrderViaState_inv hs hd hmem
    have hchecked := (preSubmit_agrees hs hdb hagree).1 hsubmitted.checked
    rw [hclock] at hchecked
    obtain ⟨out', db', hpg, hsubmitted', hheld⟩ := submitPg_ok hdb hd' hchecked hsub
      ((clientFree_agrees hclients hcase).1 hsubmitted.free)
      ((admitted_agrees hs hdb hagree hprice hcase).1 hsubmitted.admitted)
    exact .inr ⟨out, out', s', db', rfl, hpg,
      sameResult hs hdb hd hd' hagree hprice hsubmitted hsubmitted' hheld.symm⟩
  | error e =>
    obtain rfl := submitPerpOrderViaState_error hmem
    cases hpg : submitPerpOrderViaRepositoryInner sqlLower lower cfg draws' answer input db with
    | mk r' db' =>
    cases r' with
    | error e' =>
      obtain rfl := atomically_of_error hpg
      exact .inl ⟨e, e', rfl, rfl⟩
    -- had the database accepted, so had the stores
    | ok out' =>
      obtain ⟨market, hsubmitted'⟩ := submitPg_inv hdb hd' hpg
      have hchecked := (preSubmit_agrees hs hdb hagree).2 hsubmitted'.checked
      rw [← hclock] at hchecked
      obtain ⟨out, s', hrun, -, -⟩ := submit_ok hs hd hchecked
        ((clientFree_agrees hclients hcase).2 hsubmitted'.free)
        ((admitted_agrees hs hdb hagree hprice hcase).2 hsubmitted'.admitted)
      cases (atomically_eq_ok.2 hrun).symm.trans hmem

/-! ## Runs -/

namespace EthPerp

def resting : PerpOrder := (bid 12000000000).row (draws 1)

/-- Stores with that order and nothing else. -/
def restingStores : PerpStores :=
  PerpStores.empty.withOrders (PerpOrderStore.empty.inserted id resting)

/-- Tables with that order and nothing else. -/
def restingTables : PerpTables := PerpTables.empty.inserted resting

def sell : SubmitPerpOrderInput := limit "taker" .sell 12000000000 100000000 2000000000

theorem lowerCase_maker : LowerCase id id ⟨"maker"⟩ := ⟨rfl, rfl, by decide⟩

theorem lowerCase_taker : LowerCase id id ⟨"taker"⟩ := ⟨rfl, rfl, by decide⟩

theorem get_restingStores (h : restingStores.orders.get oid = some o) :
    oid = 1000 ∧ o = resting := by
  rw [restingStores, PerpStores.withOrders, PerpOrderStore.get_inserted] at h
  split at h
  · next hid => exact ⟨hid, (Option.some.inj h).symm⟩
  · cases h

theorem wellFormed_restingStores : restingStores.WellFormed id where
  positions := wellFormed_empty
  filed := by
    intro oid o h
    obtain ⟨rfl, rfl⟩ := get_restingStores h
    rfl

theorem wellFormed_restingTables : restingTables.WellFormed id where
  positions := wellFormed_empty
  filed := by
    intro oid o h
    obtain ⟨rfl, rfl⟩ := get_restingStores h
    rfl
  storable := by
    intro oid o h
    obtain ⟨rfl, rfl⟩ := get_restingStores h
    exact ⟨by decide, by decide⟩

theorem sameBook_resting : SameBook id id restingStores restingTables where
  orders := fun _ => Iff.rfl
  holdings := rfl
  orderAccounts := by
    intro oid o h _
    obtain ⟨rfl, rfl⟩ := get_restingStores h
    exact lowerCase_maker
  positionAccounts := by
    intro p hp
    cases hp

theorem fresh_draws : (draws 2).Fresh restingStores where
  order := by decide +kernel
  positions := fun _ => rfl
  distinct := draws_distinct 2

theorem freshPg_draws : (draws 2).FreshPg restingTables where
  order := by decide +kernel
  positions := fun _ => rfl
  distinct := draws_distinct 2
  fills := fun _ => rfl
  distinctFills := by
    intro i j h
    have h : (1000 * 2 + 3 * i + 1 : Nat) = 1000 * 2 + 3 * j + 1 := h
    omega

end EthPerp

open EthPerp in
/-- Both engines sell one unit to the bid. -/
theorem engines_agree_one_fill : ∃ out out' s' db',
      submitPerpOrderViaState id (config market) (draws 2) read sell restingStores = (.ok out, s') ∧
      submitPerpOrderViaRepositoryInner id id (config market) (draws 2) read sell restingTables =
        (.ok out', db') ∧
      out.fills.map PerpFill.terms = [(1000, 12000000000, 100000000)] ∧
      SameResult id id (draws 2) (draws 2) restingStores out out' s' db' := by
  have hclients : SameClients id restingStores restingTables := by
    intro key
    exact iff_of_true rfl rfl
  obtain ⟨out₀, s₀, hrun, hfills⟩ := ok_of_map (fun out => out.fills.map PerpFill.terms)
    (b := [(1000, 12000000000, 100000000)])
    (r := submitPerpOrderViaState id (config market) (draws 2) read sell restingStores)
    (by decide +kernel)
  rcases engines_agree id id (config market) (draws 2) (draws 2) read sell restingStores
      restingTables wellFormed_restingStores wellFormed_restingTables fresh_draws freshPg_draws rfl
      sameBook_resting hclients (by decide) lowerCase_taker ⟨by decide, by decide⟩ with
    ⟨e, e', herr, -⟩ | ⟨out, out', s', db', hmem, hpg, hsame⟩
  · cases hrun.symm.trans herr
  · cases hrun.symm.trans hmem
    exact ⟨out₀, out', s₀, db', hrun, hpg, hfills, hsame⟩

namespace EthPerp

def named : SubmitPerpOrderInput := { bid 12000000000 with clientOrderId := some "c" }

/-- The stores after that bid came and was cancelled: nothing is active. -/
def cancelledStores : PerpStores :=
  let s := (submitPerpOrderViaState id (config market) (draws 1) read named .empty).2
  s.withOrders (cancelPerpOrderInternal id 1000 ⟨"maker"⟩ 1 s.orders).2

theorem sameBook_empty : SameBook id id .empty .empty where
  orders := fun _ => Iff.rfl
  holdings := rfl
  orderAccounts := by
    intro oid o h
    cases h
  positionAccounts := by
    intro p hp
    cases hp

end EthPerp

open EthPerp in
/-- On a subaccount with number zero the engines disagree: the database refuses the
row.  They also disagree on a client order id that one of them has seen on an order
that is gone. -/
theorem engines_disagree : (SameBook id id .empty .empty ∧
      (submitPerpOrderViaState id (config market) (draws 1) read
        { bid 12000000000 with subaccountId := 0 } .empty).1.isOk = true ∧
      (submitPerpOrderViaRepositoryInner id id (config market) (draws 1) read
        { bid 12000000000 with subaccountId := 0 } .empty).1.isOk = false) ∧
    (cancelledStores.orders.orders.vals.map fun o => o.status.isActive) = [false] ∧
      cancelledStores.positions = .empty ∧
      (submitPerpOrderViaState id (config market) (draws 2) read named cancelledStores).1.isOk =
        false ∧
      (submitPerpOrderViaRepositoryInner id id (config market) (draws 2) read named
        .empty).1.isOk = true := by
  refine ⟨⟨sameBook_empty, by decide +kernel, by decide +kernel⟩, by decide +kernel, rfl,
    by decide +kernel, by decide +kernel⟩

end DeoptBackend
