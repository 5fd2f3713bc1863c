import DeoptBackend.Options.Book
import DeoptBackend.Options.Postgres

/-!
# What the transaction of the database matcher does

`submitOptionOrderAndMatchWithReservations` taken apart: when it succeeds, and what the
tables are then.

* `matchLegsTx_eq_ok` — the loop succeeds when the table takes every fill, and leaves
  the book of the reference matcher.
* `Recorded` — what a successful submit did: the trades are the reference matcher's, the
  table took the order and the fills, and the ledger was written.
  `submit_eq_ok` — a submit succeeds exactly when that is so.
* `LedgerEffect` — what the writes to the ledger make of the active holds;
  `ledgerTx_ok`, `ledgerTx_inv` — they succeed exactly when every amount can be computed.
-/

namespace DeoptBackend

open Act FMap List

open OptionSeriesStore (Planned)

def HashStored (orders : FMap OrderId OptionOrder) (hash : String) : Prop :=
  ∃ id o, orders.get? id = some o ∧ o.canonicalOrderHash = some hash

/-! ## The loop -/

/-- The table takes a list of fills, one after the other. -/
def AllInsertable : List OptionFill → FMap Uuid OptionFill → Prop
  | [], _ => True
  | f :: fs, fills => f.Insertable fills ∧ AllInsertable fs (fills.set f.fillId f.stored)

def OptionTrade.rest1e8 (t : OptionTrade) : Nat := t.maker.remainingSize1e8 - t.size1e8

/-- The hashes of the makers a list of trades leaves nothing of. -/
def consumedHashes (trades : List OptionTrade) : List String :=
  trades.flatMap fun t => if t.rest1e8 = 0 then t.maker.canonicalOrderHash.toList else []

def partialMakers (now : TimestampMs) (trades : List OptionTrade)
    (others : FMap OrderId OptionOrder) : FMap OrderId OptionOrder :=
  trades.foldl (fun p t =>
    if t.rest1e8 = 0 then p.del t.maker.orderId
    else (p.del t.maker.orderId).set t.maker.orderId (t.makerRow now)) others

section

variable {t : OptionTrade} {db : OptionTables}

section

variable (executionIdOf : ExecutionIdOf) (domain : OptionsCanonicalDomain) (draws : MatchDraws)

/-- The fills of a list of trades, for a loop that has made some already. -/
def txRecords (now : TimestampMs) (st : MatchingTx) (trades : List OptionTrade) : List OptionFill :=
  optionFillRecords executionIdOf domain st.incoming now draws.fillIds st.fills.length trades

section

variable (now : TimestampMs) (trades : List OptionTrade)

/-- The loop's state after a list of trades. -/
def afterTx (st : MatchingTx) : MatchingTx where
  incoming := { st.incoming with
    remainingSize1e8 := st.incoming.remainingSize1e8 - tradedSize trades }
  makerById := bookAfterTrades now trades st.makerById
  fills := st.fills ++ txRecords executionIdOf domain draws now st trades
  fullyConsumedMakerHashes := st.fullyConsumedMakerHashes ++ consumedHashes trades
  partiallyConsumedMakers := partialMakers now trades st.partiallyConsumedMakers

def afterDb (records : List OptionFill) (db : OptionTables) : OptionTables :=
  { db with
    orders := bookAfterTrades now trades db.orders
    fills := setAll (·.fillId) OptionFill.stored records db.fills }

end

theorem insertOptionFillTx_eq_ok :
    insertOptionFillTx f db = (.ok u, db') ↔
      f.Insertable db.fills ∧ db' = { db with fills := db.fills.set f.fillId f.stored } := by
  unfold insertOptionFillTx
  split
  · next h => simp [h, eq_comm]
  · next h => simp [h]

theorem updateOptionMaker_run (hrow : db.orders.get? t.maker.orderId = some t.maker) :
    updateOptionOrderTx (t.makerRow now) db =
      (.ok (), { db with orders := db.orders.set t.maker.orderId (t.makerRow now) }) := by
  have halter := alter_of_some hrow fun row : OptionOrder =>
    row.restated (t.makerRow now).remainingSize1e8 (t.makerRow now).status
      (t.makerRow now).updatedAtMs
  have hid : (t.makerRow now).orderId = t.maker.orderId := rfl
  simp only [updateOptionOrderTx, write_run, hid, halter]
  rfl

def nextFill (now : TimestampMs) (st : MatchingTx) (t : OptionTrade) : OptionFill :=
  optionFillFromMatch executionIdOf domain st.incoming t.maker t.size1e8 now
    (draws.fillIds st.fills.length)

end

theorem txRecords_cons (st : MatchingTx) (t : OptionTrade) (ts : List OptionTrade) :
    txRecords executionIdOf domain draws now st (t :: ts) =
      nextFill executionIdOf domain draws now st t :: txRecords executionIdOf domain draws now
          (afterTx executionIdOf domain draws now [t] st) ts := by
  have hterms : (afterTx executionIdOf domain draws now [t] st).incoming.terms =
      st.incoming.terms := rfl
  have hlength : (afterTx executionIdOf domain draws now [t] st).fills.length =
      st.fills.length + 1 := by
    simp [afterTx, txRecords, optionFillRecords]
  rw [txRecords, txRecords, optionFillRecords_congr hterms, hlength, optionFillRecords]
  rfl

theorem afterTx_cons (t : OptionTrade) (ts : List OptionTrade) (st : MatchingTx) :
    afterTx executionIdOf domain draws now ts (afterTx executionIdOf domain draws now [t] st) =
      afterTx executionIdOf domain draws now (t :: ts) st := by
  have hnil : txRecords executionIdOf domain draws now st [t] =
      [nextFill executionIdOf domain draws now st t] := rfl
  have hfills : (st.fills ++ txRecords executionIdOf domain draws now st [t]) ++
      txRecords executionIdOf domain draws now
        (afterTx executionIdOf domain draws now [t] st) ts =
      st.fills ++ txRecords executionIdOf domain draws now st (t :: ts) := by
    rw [txRecords_cons st t ts, hnil, append_assoc, singleton_append]
  have hhashes : (st.fullyConsumedMakerHashes ++ consumedHashes [t]) ++ consumedHashes ts =
      st.fullyConsumedMakerHashes ++ consumedHashes (t :: ts) := by
    simp [consumedHashes]
  have hleft : st.incoming.remainingSize1e8 - tradedSize [t] - tradedSize ts =
      st.incoming.remainingSize1e8 - tradedSize (t :: ts) := by
    simp [tradedSize, Nat.sub_sub]
  rw [afterTx, afterTx, MatchingTx.mk.injEq]
  refine ⟨?_, rfl, hfills, hhashes, rfl⟩
  exact congrArg (fun n => { st.incoming with remainingSize1e8 := n }) hleft

/-- One round, on a maker that is as planned. -/
theorem matchLegTx_eq_ok (hby : st.makerById.get? t.maker.orderId = some t.maker)
    (hrow : db.orders.get? t.maker.orderId = some t.maker) :
    matchLegTx executionIdOf domain draws now st t.leg db = (.ok st', db') ↔
      (nextFill executionIdOf domain draws now st t).Insertable db.fills ∧
        st' = afterTx executionIdOf domain draws now [t] st ∧
        db' = afterDb now [t] [nextFill executionIdOf domain draws now st t] db := by
  have hby' : st.makerById.get? t.leg.makerId = some t.maker := hby
  have hhashes : (if (t.makerRow now).remainingSize1e8 = 0 then
      st.fullyConsumedMakerHashes ++ (t.makerRow now).canonicalOrderHash.toList
      else st.fullyConsumedMakerHashes) = st.fullyConsumedMakerHashes ++ consumedHashes [t] := by
    have hrest : (t.makerRow now).remainingSize1e8 = t.rest1e8 := rfl
    rw [hrest, consumedHashes, flatMap_singleton]
    split
    · rfl
    · rw [append_nil]
  simp only [matchLegTx, hby']
  refine Iff.trans (iff_of_eq (congrArg (· = _) (bind_of_ok (updateOptionMaker_run hrow)))) ?_
  rw [bind_eq_ok]
  constructor
  · rintro ⟨_, _, hinsert, hpure⟩
    obtain ⟨hins, rfl⟩ := insertOptionFillTx_eq_ok.1 hinsert
    cases hpure
    exact ⟨hins, congrArg (MatchingTx.mk _ _ _ · _) hhashes, rfl⟩
  · rintro ⟨hins, rfl, rfl⟩
    refine ⟨(), _, insertOptionFillTx_eq_ok.2 ⟨hins, rfl⟩, ?_⟩
    exact congrArg (fun hashes => (Except.ok (MatchingTx.mk _ _ _ hashes _), _)) hhashes

/-- **The loop succeeds exactly when the table takes every fill**, and then leaves the
book of the reference matcher. -/
theorem matchLegsTx_eq_ok (hby : Planned st.makerById trades) (hrows : Planned db.orders trades) :
    matchLegsTx executionIdOf domain draws now (trades.map OptionTrade.leg) st db = (.ok st', db') ↔
      AllInsertable (txRecords executionIdOf domain draws now st trades) db.fills ∧
        st' = afterTx executionIdOf domain draws now trades st ∧
        db' = afterDb now trades (txRecords executionIdOf domain draws now st trades) db := by
  induction trades generalizing st db with
  | nil =>
    have hst : afterTx executionIdOf domain draws now [] st = st := by
      simp [afterTx, txRecords, optionFillRecords, consumedHashes, partialMakers, tradedSize,
        bookAfterTrades]
    simp only [map_nil, matchLegsTx, pure_run, hst, txRecords, optionFillRecords,
      AllInsertable, true_and, Prod.mk.injEq, Except.ok.injEq]
    exact and_congr eq_comm eq_comm
  | cons t ts ih =>
    have hmaker := hby.row t mem_cons_self
    have hrow := hrows.row t mem_cons_self
    rw [map_cons, matchLegsTx, txRecords_cons, AllInsertable]
    have hby' : Planned (afterTx executionIdOf domain draws now [t] st).makerById ts :=
      hby.tail (t.makerRow now)
    have hrows' : Planned (afterDb now [t]
        [nextFill executionIdOf domain draws now st t] db).orders ts :=
      hrows.tail (t.makerRow now)
    simp only [bind_eq_ok, matchLegTx_eq_ok hmaker hrow]
    constructor
    · rintro ⟨_, _, ⟨hins, rfl, rfl⟩, hrest⟩
      rw [ih hby' hrows', afterTx_cons] at hrest
      exact ⟨⟨hins, hrest.1⟩, hrest.2⟩
    · rintro ⟨⟨hins, hall⟩, hafter⟩
      refine ⟨_, _, ⟨hins, rfl, rfl⟩, ?_⟩
      rw [ih hby' hrows', afterTx_cons]
      exact ⟨hall, hafter⟩

/-! ## The transaction -/

/-- What the matcher locks, filters and sorts is the ranking. -/
theorem sortOptionMatchCandidates_eq (db : OptionTables) (incoming : OptionOrder) :
    sortOptionMatchCandidates ((liveOpposite incoming db).filter (canMatchOptionOrders incoming))
      incoming.side = rankedMakers db.orders incoming := by
  have hfilter : (liveOpposite incoming db).filter (canMatchOptionOrders incoming) =
      db.orders.vals.filter (canMatch incoming) := by
    rw [liveOpposite, filter_filter]
    refine filter_congr fun o _ => ?_
    rw [Bool.eq_iff_iff, Bool.and_eq_true, decide_eq_true_eq, canMatchOptionOrders]
    constructor
    · exact fun h => h.1
    · intro h
      obtain ⟨hseries, hside, hlive, -⟩ := canMatch_iff.1 h
      exact ⟨h, hseries, hside, hlive⟩
  rw [hfilter, sortOptionMatchCandidates, sortMatchCandidates_eq]

def OptionOrder.Insertable (sqlLower : String → String) (o : OptionOrder) (db : OptionTables) :
    Prop :=
  1 ≤ o.stored.subaccountId ∧ orderTaken sqlLower o.stored db.orders = false ∧
    (db.series.get? o.optionSeriesId).isSome = true

theorem insertOptionOrderTx_eq_ok {o : OptionOrder} :
    insertOptionOrderTx sqlLower o db = (.ok (), db') ↔
      o.Insertable sqlLower db ∧ db' = { db with orders := db.orders.set o.orderId o.stored } := by
  unfold insertOptionOrderTx OptionOrder.Insertable
  by_cases hsub : o.stored.subaccountId < 1
  · simp [hsub]
  by_cases htaken : orderTaken sqlLower o.stored db.orders = true
  · simp [hsub, htaken]
  cases hget : db.series.get? o.optionSeriesId with
  | none => simp [hsub, htaken]
  | some =>
    have hpos : 1 ≤ o.stored.subaccountId := by omega
    simp [hsub, htaken, hpos, eq_comm (a := db')]

/-- A name that is taken is refused. -/
theorem OptionOrder.Insertable.get?_eq_none {o : OptionOrder} (h : o.Insertable sqlLower db) :
    db.orders.get? o.orderId = none := by
  have hfree := h.2.1
  rw [orderTaken, Bool.or_eq_false_iff, Bool.or_eq_false_iff] at hfree
  have hid : (db.orders.get? o.orderId).isSome = false := hfree.1.1
  simpa using hid

/-- Where the loop starts. -/
def startTx (incoming : OptionOrder) (db : OptionTables) : MatchingTx :=
  ⟨incoming, setAll (·.orderId) id (rankedMakers db.orders incoming) ∅, [], [], ∅⟩

section

variable (hfiled : ∀ {id o}, db.orders.get? id = some o → o.orderId = id)
include hfiled

theorem planned_startTx (incoming : OptionOrder) :
    Planned (startTx incoming db).makerById (optionTrades db.orders incoming) where
  row := by
    intro t ht
    obtain ⟨hrow, hsuits, -, -⟩ := of_mem_optionTrades hfiled ht
    exact get?_setAll_of_mem (nodup_rankedMakers hfiled incoming)
      (mem_rankedMakers.2 ⟨⟨_, hrow⟩, hsuits⟩) ∅
  fits := fun _ ht => (of_mem_optionTrades hfiled ht).2.2.2
  nodup := nodup_optionTrades hfiled incoming

theorem planned_inserted (hnew : db.orders.get? incoming.orderId = none) (row : OptionOrder) :
    Planned (db.orders.set incoming.orderId row) (optionTrades db.orders incoming) where
  row := by
    intro t ht
    rw [get?_set_ne _ (maker_ne_incoming hfiled hnew ht)]
    exact (of_mem_optionTrades hfiled ht).1
  fits := fun _ ht => (of_mem_optionTrades hfiled ht).2.2.2
  nodup := nodup_optionTrades hfiled incoming

end

def submitRecords (executionIdOf : ExecutionIdOf) (domain : OptionsCanonicalDomain)
    (draws : MatchDraws) (now : TimestampMs) (incoming : OptionOrder)
    (orders : FMap OrderId OptionOrder) : List OptionFill :=
  optionFillRecords executionIdOf domain incoming now draws.fillIds 0 (optionTrades orders incoming)

/-- The tables after a submit, for what the ledger has become. -/
def recordedTables (executionIdOf : ExecutionIdOf) (domain : OptionsCanonicalDomain)
    (draws : MatchDraws) (now : TimestampMs) (incoming taker : OptionOrder)
    (reservations : ReservationTable) (db : OptionTables) : OptionTables where
  series := db.series
  orders := bookAfterTrades now (optionTrades db.orders incoming)
    (db.orders.set incoming.orderId taker.stored)
  fills := setAll (·.fillId) OptionFill.stored
    (submitRecords executionIdOf domain draws now incoming db.orders) db.fills
  reservations := reservations

/-- **What a successful submit did.** -/
structure Recorded (executionIdOf : ExecutionIdOf) (domain : OptionsCanonicalDomain)
    (draws : MatchDraws) (now : TimestampMs) (sqlLower : String → String) (incoming : OptionOrder)
    (plan : Option MatcherReservationPlan) (db : OptionTables) (taker : OptionOrder)
    (fills : List OptionFill) (db' : OptionTables) : Prop where
  reference : referenceMatch db.orders incoming now = .ok (taker, optionTrades db.orders incoming)
  /-- The table took the order. -/
  taken : taker.Insertable sqlLower db
  /-- The table took the fills. -/
  fillsTaken : AllInsertable (submitRecords executionIdOf domain draws now incoming db.orders)
    db.fills
  fills_eq : fills = submitRecords executionIdOf domain draws now incoming db.orders
  ledger : ∃ m', writeLedger draws now taker (afterTx executionIdOf domain draws now
      (optionTrades db.orders incoming) (startTx incoming db)) plan db.reservations = (.ok (), m') ∧
    db' = recordedTables executionIdOf domain draws now incoming taker m' db

theorem zoomReservations_eq_ok {x : Act BackendError ReservationTable Unit} :
    onReservations x db = (.ok (), db') ↔
      ∃ m', x db.reservations = (.ok (), m') ∧ db' = { db with reservations := m' } :=
  zoom_eq_ok

/-- The body of the transaction, with what it reads and plans put in. -/
theorem matchTx_run (db : OptionTables) (incoming : OptionOrder) :
    matchTx executionIdOf domain draws now sqlLower incoming plan db =
      match referenceMatch db.orders incoming now with
      | .error e => (.error e, db)
      | .ok (taker, trades) =>
        (do insertOptionOrderTx sqlLower taker
            let done ← matchLegsTx executionIdOf domain draws now (trades.map OptionTrade.leg)
              (startTx incoming db)
            onReservations (writeLedger draws now taker done plan)
            return (taker, done.fills)) db := by
  rw [matchTx, read_bind]
  simp only [sortOptionMatchCandidates_eq, buildOptionMatchPlan_eq, enforceTifPlan, referenceMatch,
    ne_eq, map_eq_nil_iff]
  by_cases hpost : incoming.postOnly = true ∧ ¬ optionTrades db.orders incoming = []
  · simp only [if_pos hpost]
    exact bind_of_error (check_run _ _)
  by_cases hfok : incoming.timeInForce = .fok ∧
      tradedSize (optionTrades db.orders incoming) < incoming.size1e8
  · simp only [if_neg hpost, if_pos hfok]
    exact bind_of_error (check_run _ _)
  · simp only [if_neg hpost, if_neg hfok]
    exact check_bind rfl

/-- **A submit succeeds exactly when it is recorded.** -/
theorem submit_eq_ok (hfiled : ∀ {id o}, db.orders.get? id = some o → o.orderId = id) :
    submitOptionOrderAndMatchWithReservations executionIdOf domain draws now sqlLower incoming
        plan db = (.ok (taker, fills), db') ↔
      Recorded executionIdOf domain draws now sqlLower incoming plan db taker fills db' := by
  rw [submitOptionOrderAndMatchWithReservations, atomically_eq_ok, matchTx_run]
  cases hmatch : referenceMatch db.orders incoming now with
  | error =>
    constructor
    · intro h
      cases h
    · intro h
      rw [h.reference] at hmatch
      cases hmatch
  | ok r =>
    obtain ⟨row, trades⟩ := r
    obtain ⟨hrow, rfl, -, -⟩ := referenceMatch_eq_ok.1 hmatch
    have hid : row.orderId = incoming.orderId := by rw [hrow, orderId_settledTaker]
    constructor
    · intro h
      obtain ⟨_, db₁, hinsert, h⟩ := bind_eq_ok.1 h
      obtain ⟨htaken, rfl⟩ := insertOptionOrderTx_eq_ok.1 hinsert
      have hnew : db.orders.get? incoming.orderId = none := by
        rw [← hid]
        exact htaken.get?_eq_none
      obtain ⟨done, db₂, hloop, h⟩ := bind_eq_ok.1 h
      rw [hid] at hloop
      obtain ⟨hall, rfl, rfl⟩ := (matchLegsTx_eq_ok (planned_startTx hfiled incoming)
        (planned_inserted hfiled hnew row.stored)).1 hloop
      obtain ⟨_, db₃, hledger, h⟩ := bind_eq_ok.1 h
      obtain ⟨m', hm', rfl⟩ := zoomReservations_eq_ok.1 hledger
      cases h
      exact ⟨hmatch, htaken, hall, rfl, m', hm', rfl⟩
    · rintro ⟨href, htaken, hall, rfl, m', hm', rfl⟩
      rw [href] at hmatch
      cases hmatch
      have hnew : db.orders.get? incoming.orderId = none := by
        rw [← hid]
        exact htaken.get?_eq_none
      refine bind_eq_ok.2 ⟨(), _, insertOptionOrderTx_eq_ok.2 ⟨htaken, rfl⟩, ?_⟩
      rw [hid]
      refine bind_eq_ok.2 ⟨_, _, (matchLegsTx_eq_ok (planned_startTx hfiled incoming)
        (planned_inserted hfiled hnew taker.stored)).2 ⟨hall, rfl, rfl⟩, ?_⟩
      exact bind_eq_ok.2 ⟨(), _, zoomReservations_eq_ok.2 ⟨m', hm', rfl⟩, rfl⟩

/-- **A refused order changes nothing**, and is refused as the reference matcher does. -/
theorem submit_of_error (h : referenceMatch db.orders incoming now = .error e) :
    submitOptionOrderAndMatchWithReservations executionIdOf domain draws now sqlLower incoming
      plan db = (.error e, db) := by
  simp [submitOptionOrderAndMatchWithReservations, Act.atomically, matchTx_run, h]

/-- The order's row, the makers' rows and the others after a submit. -/
theorem get?_recorded (hfiled : ∀ {id o}, db.orders.get? id = some o → o.orderId = id)
    (hnew : db.orders.get? incoming.orderId = none) (reservations : ReservationTable)
    (id : OrderId) :
    (recordedTables executionIdOf domain draws now incoming taker reservations db).orders.get? id =
      ((bookAfterTrades now (optionTrades db.orders incoming) db.orders).set incoming.orderId
        taker.stored).get? id := by
  have hnodup := nodup_optionTrades hfiled incoming
  by_cases hmaker : ∃ t ∈ optionTrades db.orders incoming, id = t.maker.orderId
  · obtain ⟨t, ht, rfl⟩ := hmaker
    rw [get?_set_ne _ (maker_ne_incoming hfiled hnew ht)]
    exact (get?_setAll_of_mem hnodup ht _).trans
      (get?_setAll_of_mem hnodup ht _).symm
  · have hother : ∀ t ∈ optionTrades db.orders incoming, id ≠ t.maker.orderId :=
      fun t ht heq => hmaker ⟨t, ht, heq⟩
    have hget : (recordedTables executionIdOf domain draws now incoming taker reservations
        db).orders.get? id = (db.orders.set incoming.orderId taker.stored).get? id :=
      get?_setAll_of_notMem hother _
    rw [hget, get?_set, get?_set, bookAfterTrades, get?_setAll_of_notMem hother]

end

/-! ## The ledger -/

section

open ReservationTable

variable {scaffold : PendingSettlementScaffold}

/-- The identifiers drawn for the reservations of a submit are new. -/
structure MatchDraws.FreshReservations (draws : MatchDraws) (m : ReservationTable) : Prop where
  distinct : Function.Injective draws.reservationId
  free : ∀ slot, m.get? (draws.reservationId slot) = none

/-- The hold an arriving order is given: only if it rests. -/
def restingInput (plan : MatcherReservationPlan) (taker : OptionOrder) :
    Option OpenOrderReservationInput :=
  if 0 < taker.remainingSize1e8 ∧ taker.status.isLive = true then plan.takerOpenOrder else none

theorem holdTakerTx_ok (hm : WellFormed m) (hid : m.get? (draws.reservationId .taker) = none)
    (hfree : ∀ input, restingInput plan taker = some input →
      activeHold m input.canonicalOrderHash = none) :
    ∃ m', holdTakerTx draws plan taker m = (.ok (), m') ∧ WellFormed m' ∧
      (∀ j, j ≠ draws.reservationId .taker → m.get? j = none → m'.get? j = none) ∧
      ∀ h, activeHold m' h = ((restingInput plan taker).elim (activeHold m h) fun input =>
        if h = input.canonicalOrderHash then some (input.row (draws.reservationId .taker))
        else activeHold m h) := by
  by_cases hrests : 0 < taker.remainingSize1e8 ∧ taker.status.isLive = true
  · have hinput : restingInput plan taker = plan.takerOpenOrder := if_pos hrests
    rw [hinput] at hfree ⊢
    rw [holdTakerTx, if_pos hrests]
    cases htaker : plan.takerOpenOrder with
    | none => exact ⟨m, rfl, hm, fun _ _ h => h, fun _ => rfl⟩
    | some input =>
      obtain ⟨m', hrun, hrew⟩ := insertOpenOrder_new hm hid (hfree input htaker)
      exact ⟨m', bind_of_ok hrun, hrew.wellFormed, hrew.unused, hrew.holds⟩
  · have hinput : restingInput plan taker = none := if_neg hrests
    rw [hinput, holdTakerTx, if_neg hrests]
    exact ⟨m, rfl, hm, fun _ _ h => h, fun _ => rfl⟩

theorem convertMakersTx_ok (hm : WellFormed m) (now : TimestampMs) (hashes : List String) :
    ∃ m', convertMakersTx now hashes m = (.ok (), m') ∧ WellFormed m' ∧
      (∀ j, m.get? j = none → m'.get? j = none) ∧
      ∀ h, activeHold m' h = if h ∈ hashes then none else activeHold m h := by
  induction hashes generalizing m with
  | nil => exact ⟨m, rfl, hm, fun _ h => h, fun h => by simp⟩
  | cons hash hashes ih =>
    obtain ⟨r, m₁, hrun, hm₁, -, hunused, hholds⟩ :=
      endOpenOrder_ok hm (by simp : OptionReservationStatus.converted ≠ .active)
        "MATCHED_TO_PENDING_SETTLEMENT" hash now
    obtain ⟨m₂, hrun₂, hm₂, hunused₂, hholds₂⟩ := ih hm₁
    refine ⟨m₂, (bind_of_ok hrun).trans hrun₂, hm₂, fun j hj => hunused₂ j (hunused j hj),
      fun h => ?_⟩
    rw [hholds₂, hholds]
    by_cases hh : h = hash
    · simp [hh]
    · simp [hh]

def DistinctHashes (makers : List OptionOrder) : Prop :=
  makers.Pairwise fun a b => ∀ h, a.canonicalOrderHash = some h → b.canonicalOrderHash ≠ some h

theorem buildMakerResidual_hash
    (h : scaffold.buildMakerResidualOpenOrderInput maker now = .ok input) :
    maker.canonicalOrderHash = some input.canonicalOrderHash := by
  unfold PendingSettlementScaffold.buildMakerResidualOpenOrderInput at h
  split at h
  · cases h
  next hash hhash =>
    split at h
    · cases h
    cases hhold : scaffold.holdFor maker.side maker.price1e8 maker.remainingSize1e8 with
    | error => rw [hhold] at h; cases h
    | ok =>
      rw [hhold] at h
      cases h
      exact hhash

theorem resizeMakersTx_ok (hm : WellFormed m) (hdistinct : Function.Injective draws.reservationId)
    (hfree : ∀ k, i ≤ k → m.get? (draws.reservationId (.residual k)) = none)
    (hhashes : DistinctHashes makers) (hbuild : ∀ maker ∈ makers, ∃ input,
      scaffold.buildMakerResidualOpenOrderInput maker now = .ok input) :
    ∃ m', resizeMakersTx draws now scaffold i makers m = (.ok (), m') ∧ WellFormed m' ∧
      (∀ j, (∀ k, j ≠ draws.reservationId (.residual k)) → m.get? j = none → m'.get? j = none) ∧
      (∀ maker ∈ makers, ∀ input, scaffold.buildMakerResidualOpenOrderInput maker now = .ok input →
        ∃ id, activeHold m' input.canonicalOrderHash =
          (activeHold m input.canonicalOrderHash).map fun _ => input.row id) ∧
      ∀ h, (∀ maker ∈ makers, maker.canonicalOrderHash ≠ some h) →
        activeHold m' h = activeHold m h := by
  induction makers generalizing m i with
  | nil =>
    refine ⟨m, rfl, hm, fun _ _ h => h, fun maker hmaker => ?_, fun _ _ => rfl⟩
    cases hmaker
  | cons maker makers ih =>
    obtain ⟨hfirst, hrest⟩ := pairwise_cons.1 hhashes
    obtain ⟨input, hinput⟩ := hbuild maker mem_cons_self
    have hhash := buildMakerResidual_hash hinput
    have hsame : input.canonicalOrderHash = input.canonicalOrderHash := rfl
    obtain ⟨r, m₁, hrun, hrew⟩ := resizeOpenOrder_ok hm (hfree i le_rfl) hsame now
    have hfree₁ : ∀ k, i + 1 ≤ k → m₁.get? (draws.reservationId (.residual k)) = none := by
      intro k hk
      refine hrew.unused _ (fun heq => ?_) (hfree k (by omega))
      have hslot := hdistinct heq
      simp only [ReservationSlot.residual.injEq] at hslot
      omega
    obtain ⟨m₂, hrun₂, hm₂, hunused₂, hmakers₂, hothers₂⟩ :=
      ih hrew.wellFormed hfree₁ hrest fun maker hmaker =>
        hbuild maker (mem_cons_of_mem _ hmaker)
    refine ⟨m₂, ?_, hm₂, ?_, ?_, ?_⟩
    · rw [resizeMakersTx, check_bind hinput]
      exact (bind_of_ok hrun).trans hrun₂
    · intro j hj hnone
      exact hunused₂ j hj (hrew.unused j (hj i) hnone)
    · intro maker' hmaker' input' hinput'
      rcases mem_cons.1 hmaker' with rfl | hmaker'
      · rw [hinput] at hinput'
        cases hinput'
        refine ⟨draws.reservationId (.residual i), ?_⟩
        rw [hothers₂ _ fun b hb => hfirst b hb _ hhash, hrew.holds, if_pos rfl]
      · obtain ⟨id, hid⟩ := hmakers₂ maker' hmaker' input' hinput'
        have hhash' := buildMakerResidual_hash hinput'
        have hne : input'.canonicalOrderHash ≠ input.canonicalOrderHash := by
          intro heq
          rw [heq] at hhash'
          exact hfirst maker' hmaker' _ hhash hhash'
        exact ⟨id, by rw [hid, hrew.holds, if_neg hne]⟩
    · intro h hnone
      have hne : h ≠ input.canonicalOrderHash := by
        rintro rfl
        exact hnone maker mem_cons_self hhash
      rw [hothers₂ h fun b hb => hnone b (mem_cons_of_mem _ hb), hrew.holds, if_neg hne]

theorem resizeMakersTx_inv (h : resizeMakersTx draws now scaffold i makers m = (.ok (), m')) :
    ∀ maker ∈ makers, ∃ input,
      scaffold.buildMakerResidualOpenOrderInput maker now = .ok input := by
  induction makers generalizing m i with
  | nil => intro maker hmaker; cases hmaker
  | cons maker makers ih =>
    obtain ⟨input, m₁, hcheck, h⟩ := bind_eq_ok.1 h
    obtain ⟨_, m₂, -, h⟩ := bind_eq_ok.1 h
    intro maker' hmaker'
    rcases mem_cons.1 hmaker' with rfl | hmaker'
    · exact ⟨input, (check_eq_ok.1 hcheck).1⟩
    · exact ih h maker' hmaker'

theorem holdFillsTx_ok (hm : WellFormed m) (hdistinct : Function.Injective draws.reservationId)
    (hfree : ∀ k, i ≤ k → m.get? (draws.reservationId (.buyer k)) = none ∧
      m.get? (draws.reservationId (.seller k)) = none)
    (hbuild : ∀ fill ∈ fills, ∃ pair, scaffold.buildPendingPair fill now = .ok pair) :
    ∃ m', holdFillsTx draws now scaffold i fills m = (.ok (), m') ∧ WellFormed m' ∧
      ∀ h, activeHold m' h = activeHold m h := by
  induction fills generalizing m i with
  | nil => exact ⟨m, rfl, hm, fun _ => rfl⟩
  | cons fill fills ih =>
    obtain ⟨⟨buyer, seller⟩, hpair⟩ := hbuild fill mem_cons_self
    obtain ⟨r₁, m₁, hrun₁, hm₁, hunused₁, hholds₁⟩ := insertPending_ok hm (hfree i le_rfl).1 buyer
    have hsellerFree : m₁.get? (draws.reservationId (.seller i)) = none := by
      refine hunused₁ _ (fun heq => ?_) (hfree i le_rfl).2
      cases hdistinct heq
    obtain ⟨r₂, m₂, hrun₂, hm₂, hunused₂, hholds₂⟩ := insertPending_ok hm₁ hsellerFree seller
    have hfree₂ : ∀ k, i + 1 ≤ k → m₂.get? (draws.reservationId (.buyer k)) = none ∧
        m₂.get? (draws.reservationId (.seller k)) = none := by
      intro k hk
      obtain ⟨hb, hs⟩ := hfree k (by omega)
      constructor
      · refine hunused₂ _ (fun heq => ?_) (hunused₁ _ (fun heq => ?_) hb)
        · cases hdistinct heq
        · have hslot := hdistinct heq
          simp only [ReservationSlot.buyer.injEq] at hslot
          omega
      · refine hunused₂ _ (fun heq => ?_) (hunused₁ _ (fun heq => ?_) hs)
        · have hslot := hdistinct heq
          simp only [ReservationSlot.seller.injEq] at hslot
          omega
        · cases hdistinct heq
    obtain ⟨m₃, hrun₃, hm₃, hholds₃⟩ := ih hm₂ hfree₂ fun fill hfill =>
      hbuild fill (mem_cons_of_mem _ hfill)
    refine ⟨m₃, ?_, hm₃, fun h => by rw [hholds₃, hholds₂, hholds₁]⟩
    rw [holdFillsTx, check_bind hpair]
    exact (bind_of_ok hrun₁).trans ((bind_of_ok hrun₂).trans hrun₃)

theorem holdFillsTx_inv (h : holdFillsTx draws now scaffold i fills m = (.ok (), m')) :
    ∀ fill ∈ fills, ∃ pair, scaffold.buildPendingPair fill now = .ok pair := by
  induction fills generalizing m i with
  | nil => intro fill hfill; cases hfill
  | cons fill fills ih =>
    obtain ⟨pair, m₁, hcheck, h⟩ := bind_eq_ok.1 h
    obtain ⟨_, m₂, -, h⟩ := bind_eq_ok.1 h
    obtain ⟨_, m₃, -, h⟩ := bind_eq_ok.1 h
    intro fill' hfill'
    rcases mem_cons.1 hfill' with rfl | hfill'
    · exact ⟨pair, (check_eq_ok.1 hcheck).1⟩
    · exact ih h fill' hfill'

/-- The holds once the arriving order has its own. -/
def heldByTaker (draws : MatchDraws) (plan : MatcherReservationPlan) (taker : OptionOrder)
    (m : ReservationTable) (h : String) : Option OptionReservation :=
  (restingInput plan taker).elim (activeHold m h) fun input =>
    if h = input.canonicalOrderHash then some (input.row (draws.reservationId .taker))
    else activeHold m h

/-- What the writes to the ledger make of the active holds: the arriving order gets its
own, the makers with nothing left lose theirs, and the holds of the others are
resized. -/
structure LedgerEffect (draws : MatchDraws) (now : TimestampMs) (plan : MatcherReservationPlan)
    (scaffold : PendingSettlementScaffold) (taker : OptionOrder) (done : MatchingTx)
    (m m' : ReservationTable) : Prop where
  wellFormed : WellFormed m'
  /-- The hold of a maker with something left is for what is left. -/
  resized : ∀ maker ∈ done.partiallyConsumedMakers.vals, ∃ input,
    scaffold.buildMakerResidualOpenOrderInput maker now = .ok input ∧ ∃ id,
      activeHold m' input.canonicalOrderHash =
        (if input.canonicalOrderHash ∈ done.fullyConsumedMakerHashes then none
          else heldByTaker draws plan taker m input.canonicalOrderHash).map fun _ => input.row id
  /-- The other holds end, or stay as they are. -/
  others : ∀ h, (∀ maker ∈ done.partiallyConsumedMakers.vals, maker.canonicalOrderHash ≠ some h) →
    activeHold m' h = if h ∈ done.fullyConsumedMakerHashes then none
      else heldByTaker draws plan taker m h

/-- **The ledger is written when every amount can be computed.** -/
theorem ledgerTx_ok (done : MatchingTx) (hm : WellFormed m) (hdraws : draws.FreshReservations m)
    (hfree : ∀ input, restingInput plan taker = some input →
      activeHold m input.canonicalOrderHash = none)
    (hscaffold : plan.pendingScaffold = some scaffold)
    (hhashes : DistinctHashes done.partiallyConsumedMakers.vals)
    (hmakers : ∀ maker ∈ done.partiallyConsumedMakers.vals, ∃ input,
      scaffold.buildMakerResidualOpenOrderInput maker now = .ok input)
    (hfills : ∀ fill ∈ done.fills, ∃ pair, scaffold.buildPendingPair fill now = .ok pair) :
    ∃ m', ledgerTx draws now plan taker done m = (.ok (), m') ∧
      LedgerEffect draws now plan scaffold taker done m m' := by
  obtain ⟨m₁, hrun₁, hm₁, hunused₁, hholds₁⟩ := holdTakerTx_ok hm (hdraws.free .taker) hfree
  obtain ⟨m₂, hrun₂, hm₂, hunused₂, hholds₂⟩ :=
    convertMakersTx_ok hm₁ now done.fullyConsumedMakerHashes
  have hfree₂ : ∀ slot, slot ≠ .taker → m₂.get? (draws.reservationId slot) = none :=
    fun slot hslot => hunused₂ _ (hunused₁ _ (fun heq => hslot (hdraws.distinct heq))
      (hdraws.free slot))
  obtain ⟨m₃, hrun₃, hm₃, hunused₃, hmakers₃, hothers₃⟩ :=
    resizeMakersTx_ok (i := 0) hm₂ hdraws.distinct (fun k _ => hfree₂ (.residual k) (by simp))
      hhashes hmakers
  have hfree₃ : ∀ k, 0 ≤ k → m₃.get? (draws.reservationId (.buyer k)) = none ∧
      m₃.get? (draws.reservationId (.seller k)) = none := by
    intro k _
    refine ⟨hunused₃ _ (fun j heq => ?_) (hfree₂ (.buyer k) (by simp)),
      hunused₃ _ (fun j heq => ?_) (hfree₂ (.seller k) (by simp))⟩
    · cases hdraws.distinct heq
    · cases hdraws.distinct heq
  obtain ⟨m₄, hrun₄, hm₄, hholds₄⟩ := holdFillsTx_ok hm₃ hdraws.distinct hfree₃ hfills
  refine ⟨m₄, ?_, hm₄, ?_, ?_⟩
  · rw [ledgerTx, hscaffold]
    exact (bind_of_ok hrun₁).trans ((bind_of_ok hrun₂).trans
      ((bind_of_ok hrun₃).trans hrun₄))
  · intro maker hmaker
    obtain ⟨input, hinput⟩ := hmakers maker hmaker
    obtain ⟨id, hid⟩ := hmakers₃ maker hmaker input hinput
    exact ⟨input, hinput, id, by rw [hholds₄, hid, hholds₂, hholds₁]; rfl⟩
  · intro h hnone
    rw [hholds₄, hothers₃ h hnone, hholds₂, hholds₁]
    rfl

/-- Without a scaffold the ledger is written too. -/
theorem ledgerTx_ok_of_none (hm : WellFormed m) (hdraws : draws.FreshReservations m)
    (hfree : ∀ input, restingInput plan taker = some input →
      activeHold m input.canonicalOrderHash = none)
    (hscaffold : plan.pendingScaffold = none) :
    ∃ m', ledgerTx draws now plan taker done m = (.ok (), m') := by
  obtain ⟨m₁, hrun₁, hm₁, -⟩ := holdTakerTx_ok hm (hdraws.free .taker) hfree
  obtain ⟨m₂, hrun₂, -⟩ := convertMakersTx_ok hm₁ now done.fullyConsumedMakerHashes
  rw [ledgerTx, hscaffold]
  exact ⟨m₂, (bind_of_ok hrun₁).trans (bind_of_ok hrun₂)⟩

/-- A ledger that was written had every amount computed. -/
theorem ledgerTx_inv (h : ledgerTx draws now plan taker done m = (.ok (), m'))
    (hscaffold : plan.pendingScaffold = some scaffold) :
    (∀ maker ∈ done.partiallyConsumedMakers.vals, ∃ input,
      scaffold.buildMakerResidualOpenOrderInput maker now = .ok input) ∧
    ∀ fill ∈ done.fills, ∃ pair, scaffold.buildPendingPair fill now = .ok pair := by
  rw [ledgerTx, hscaffold] at h
  obtain ⟨_, m₁, -, h⟩ := bind_eq_ok.1 h
  obtain ⟨_, m₂, -, h⟩ := bind_eq_ok.1 h
  obtain ⟨_, m₃, hresize, hhold⟩ := bind_eq_ok.1 h
  exact ⟨resizeMakersTx_inv hresize, holdFillsTx_inv hhold⟩

/-! ## The makers that are left -/

variable {orders : FMap OrderId OptionOrder}

theorem get?_partialMakers_of_notMem {id : OrderId} (hid : ∀ t ∈ trades, id ≠ t.maker.orderId) :
    (partialMakers now trades others).get? id = others.get? id := by
  induction trades generalizing others with
  | nil => rfl
  | cons t ts ih =>
    have hne := hid t mem_cons_self
    rw [partialMakers, foldl_cons]
    refine (ih fun u hu => hid u (mem_cons_of_mem _ hu)).trans ?_
    split
    · exact get?_del_ne _ hne
    · rw [get?_set_ne _ hne, get?_del_ne _ hne]

theorem get?_partialMakers_of_mem {others : FMap OrderId OptionOrder}
    (hnodup : (trades.map (·.maker.orderId)).Nodup) (ht : t ∈ trades) :
    (partialMakers now trades others).get? t.maker.orderId =
      if t.rest1e8 = 0 then none else some (t.makerRow now) := by
  induction trades generalizing others with
  | nil => cases ht
  | cons u ts ih =>
    rw [map_cons, nodup_cons] at hnodup
    rw [partialMakers, foldl_cons]
    rcases mem_cons.1 ht with rfl | ht
    · refine (get?_partialMakers_of_notMem fun v hv heq => ?_).trans ?_
      · exact hnodup.1 (heq ▸ mem_map_of_mem hv)
      · split
        · exact get?_del_self _ _
        · exact get?_set_self _ _ _
    · exact ih hnodup.2 ht

/-- The makers with something left are those of the trades that leave something. -/
theorem get?_partialMakers_eq_some (hnodup : (trades.map (·.maker.orderId)).Nodup) {id : OrderId}
    {o : OptionOrder} : (partialMakers now trades ∅).get? id = some o ↔
      ∃ t ∈ trades, t.rest1e8 ≠ 0 ∧ t.maker.orderId = id ∧ o = t.makerRow now := by
  constructor
  · intro hid
    by_cases hmaker : ∃ t ∈ trades, id = t.maker.orderId
    · obtain ⟨t, ht, rfl⟩ := hmaker
      rw [get?_partialMakers_of_mem hnodup ht] at hid
      split at hid
      · cases hid
      · next hrest => exact ⟨t, ht, hrest, rfl, (Option.some.inj hid).symm⟩
    · rw [get?_partialMakers_of_notMem fun t ht heq => hmaker ⟨t, ht, heq⟩] at hid
      cases hid
  · rintro ⟨t, ht, hrest, rfl, rfl⟩
    rw [get?_partialMakers_of_mem hnodup ht, if_neg hrest]

theorem mem_partialMakers (hnodup : (trades.map (·.maker.orderId)).Nodup) {o : OptionOrder} :
    o ∈ (partialMakers now trades ∅).vals ↔ ∃ t ∈ trades, t.rest1e8 ≠ 0 ∧ o = t.makerRow now := by
  simp [mem_vals, get?_partialMakers_eq_some hnodup]

theorem mem_consumedHashes {hash : String} : hash ∈ consumedHashes trades ↔
      ∃ t ∈ trades, t.rest1e8 = 0 ∧ t.maker.canonicalOrderHash = some hash := by
  rw [consumedHashes, mem_flatMap]
  refine exists_congr fun t => and_congr_right fun _ => ?_
  split
  · next hrest => simp [hrest]
  · next hrest => simp [hrest]

/-- The makers with something left have different hashes, if stored orders have. -/
theorem distinctHashes_partialMakers (hnodup : (trades.map (·.maker.orderId)).Nodup)
    (hrows : ∀ t ∈ trades, orders.get? t.maker.orderId = some t.maker)
    (hunique : orders.UniqueIndex OptionOrder.canonicalOrderHash) :
    DistinctHashes (partialMakers now trades ∅).vals := by
  have hfiled : ∀ {id o}, (partialMakers now trades ∅).get? id = some o → o.orderId = id := by
    intro id o ho
    obtain ⟨t, -, -, rfl, rfl⟩ := (get?_partialMakers_eq_some hnodup).1 ho
    rfl
  have hids : (partialMakers now trades ∅).vals.Pairwise fun a b => a.orderId ≠ b.orderId :=
    pairwise_map.1 (nodup_vals_map fun h => hfiled h)
  refine hids.imp_of_mem fun {a b} ha hb hne h hah hbh => hne ?_
  obtain ⟨t, ht, -, rfl⟩ := (mem_partialMakers hnodup).1 ha
  obtain ⟨u, hu, -, rfl⟩ := (mem_partialMakers hnodup).1 hb
  exact hunique.eq (hrows t ht) (hrows u hu) hah hbh

end

end DeoptBackend
