import DeoptBackend.Options.MatcherTx
import DeoptBackend.Options.Service

/-!
# What one request does to the holds of resting orders

An order that rests is covered by an active `OPEN_ORDER` row under its hash.  The rows are
written by three requests — a submit, a cancel, the sweep — and this module says what
each of them makes of the active holds and of the rows they are for.

* `TakesPart`, `TakesAll` — which makers an arriving order leaves something of, and which
  it leaves nothing of, read off the book before it arrives.
* `Ledgered` — orders are filed under their names, hashes are unique, the ledger is
  well-formed, and a hold is the hold of a stored order.
* `Arrival` — a submit that succeeded.  `Arrival.row_cases` — its rows;
  `Arrival.holdsAfter` — its holds, if a plan was built; `Arrival.holds_same` — if none
  was.
-/

namespace DeoptBackend

open OptionOrder OptionsService Except FMap List

open ReservationTable (WellFormed)
open OptionsService (deriveTakerReservationInputs)

/-! ## What an arriving order takes -/

def liquidity (makers : List OptionOrder) : Nat := (makers.map (·.remainingSize1e8)).sum

variable (orders : FMap OrderId OptionOrder) (incoming maker : OptionOrder)

/-- An arriving order is filled in the middle of a maker: what comes before the maker is
not enough for it, and with the maker it is more than enough. -/
def TakesPart : Prop :=
  ∃ before after, rankedMakers orders incoming = before ++ maker :: after ∧
    liquidity before < incoming.size1e8 ∧
    incoming.size1e8 < liquidity before + maker.remainingSize1e8

/-- An arriving order takes all of a maker: what comes before the maker and the maker
itself are not more than enough. -/
def TakesAll : Prop :=
  ∃ before after, rankedMakers orders incoming = before ++ maker :: after ∧
    liquidity before + maker.remainingSize1e8 ≤ incoming.size1e8

section

variable {orders : FMap OrderId OptionOrder} {incoming maker : OptionOrder}

theorem mem_optionTrades_iff : t ∈ optionTrades orders incoming ↔
      ∃ before after, rankedMakers orders incoming = before ++ t.maker :: after ∧
        liquidity before < incoming.size1e8 ∧
        t.size1e8 = min (incoming.size1e8 - liquidity before) t.maker.remainingSize1e8 := by
  have hgreedy : t ∈ optionTrades orders incoming ↔ (t.maker, t.size1e8) ∈
      greedy remainingSize1e8 (fun _ => false) (rankedMakers orders incoming)
        incoming.size1e8 := by
    rw [optionTrades, tradesAlong, mem_map]
    constructor
    · rintro ⟨f, hf, rfl⟩
      exact hf
    · exact fun hf => ⟨_, hf, rfl⟩
  rw [hgreedy, mem_greedy_iff]
  simp only [implies_true, true_and]
  rfl

theorem takesPart_iff : TakesPart orders incoming maker ↔
      ∃ t ∈ optionTrades orders incoming, t.maker = maker ∧ t.rest1e8 ≠ 0 := by
  constructor
  · rintro ⟨before, after, hranked, hlt, hmore⟩
    refine ⟨⟨maker, incoming.size1e8 - liquidity before⟩, ?_, rfl, ?_⟩
    · exact mem_optionTrades_iff.2 ⟨before, after, hranked, hlt, by simp only; omega⟩
    · simp only [OptionTrade.rest1e8]
      omega
  · rintro ⟨t, ht, rfl, hrest⟩
    obtain ⟨before, after, hranked, hlt, hsize⟩ := mem_optionTrades_iff.1 ht
    rw [OptionTrade.rest1e8] at hrest
    exact ⟨before, after, hranked, hlt, by omega⟩

theorem takesAll_iff : TakesAll orders incoming maker ↔
      ∃ t ∈ optionTrades orders incoming, t.maker = maker ∧ t.rest1e8 = 0 := by
  constructor
  · rintro ⟨before, after, hranked, henough⟩
    have hmem : maker ∈ rankedMakers orders incoming := by
      rw [hranked]
      exact mem_append_right _ mem_cons_self
    have hpos : 0 < maker.remainingSize1e8 := (mem_rankedMakers.1 hmem).2.2.2.2.1
    refine ⟨⟨maker, maker.remainingSize1e8⟩, ?_, rfl, Nat.sub_self _⟩
    exact mem_optionTrades_iff.2 ⟨before, after, hranked, by omega, by simp only; omega⟩
  · rintro ⟨t, ht, rfl, hrest⟩
    obtain ⟨before, after, hranked, hlt, hsize⟩ := mem_optionTrades_iff.1 ht
    rw [OptionTrade.rest1e8] at hrest
    exact ⟨before, after, hranked, by omega⟩

theorem tradedSize_optionTrades (orders : FMap OrderId OptionOrder) (incoming : OptionOrder) :
    tradedSize (optionTrades orders incoming) =
      min incoming.size1e8 (liquidity (rankedMakers orders incoming)) :=
  tradedSize_along _ _

/-- A status is live if something is left and it may rest. -/
theorem isLive_finalStatusForTif :
    (finalStatusForTif o).isLive = true ↔ o.remainingSize1e8 ≠ 0 ∧ o.timeInForce ≠ .ioc := by
  unfold finalStatusForTif statusForRemaining
  cases o.timeInForce <;> grind [OptionOrderStatus.isLive]

/-- A maker's row is live as long as something is left. -/
theorem isLive_makerRow {t : OptionTrade} :
    (t.makerRow now).status.isLive = true ↔ t.rest1e8 ≠ 0 := by
  have hstatus : (t.makerRow now).status = statusForRemaining t.maker.size1e8 t.rest1e8 := rfl
  rw [hstatus, statusForRemaining]
  split
  · next h => simp [h, OptionOrderStatus.isLive]
  · next h => split <;> simp [h, OptionOrderStatus.isLive]

end

/-! ## Amounts -/

/-- The amount an order of a side is held for, by the formula of its side. -/
def holdAmount (series : OptionSeries) (side : Side) (price1e8 size1e8 : Nat) :
    Except BackendError Nat :=
  match side with
  | .buy => buyReservation size1e8 series.contractSize1e8 price1e8
  | .sell =>
    if series.isCall then shortCallReservationPhysical size1e8 series.contractSize1e8
    else shortPutReservation size1e8 series.contractSize1e8 series.strike1e8

theorem holdAmount_of_derive (h : deriveTakerReservationInputs series order = some (token, amount))
    : holdAmount series order.side order.price1e8 order.size1e8 = .ok amount := by
  have hof : ∀ {x : Except BackendError Nat} {asset : String},
      x.toOption.map (fun amount => (asset, amount)) = some (token, amount) → x = .ok amount := by
    intro x asset hx
    cases x with
    | error => cases hx
    | ok => cases hx; rfl
  unfold deriveTakerReservationInputs at h
  unfold holdAmount
  cases hside : order.side with
  | buy =>
    simp only [hside] at h ⊢
    exact hof h
  | sell =>
    simp only [hside] at h ⊢
    split at h
    · next hcall => rw [if_pos hcall]; exact hof h
    · next hput => rw [if_neg hput]; exact hof h

theorem holdAmount_of_holdFor {svc : OptionsService} {side : Side} {price1e8 size1e8 amount : Nat}
    {token : String}
    (h : (svc.scaffoldOf series).holdFor side price1e8 size1e8 = .ok (token, amount)) :
    holdAmount series side price1e8 size1e8 = .ok amount := by
  have hof : ∀ {x : Except BackendError Nat} {asset : String},
      x.map (fun amount => (asset, amount)) = .ok (token, amount) → x = .ok amount := by
    intro x asset hx
    cases x with
    | error => cases hx
    | ok => cases hx; rfl
  cases side with
  | buy => exact hof h
  | sell => exact hof h

/-- The new hold of a maker is for what is left of it. -/
theorem residual_spec {svc : OptionsService} {maker : OptionOrder}
    (h : (svc.scaffoldOf series).buildMakerResidualOpenOrderInput maker now = .ok input) :
    input.quantity1e8 = maker.remainingSize1e8 ∧
      holdAmount series maker.side maker.price1e8 maker.remainingSize1e8 =
        .ok input.reservedAmount := by
  unfold PendingSettlementScaffold.buildMakerResidualOpenOrderInput at h
  split at h
  · cases h
  split at h
  · cases h
  cases hhold : (svc.scaffoldOf series).holdFor maker.side maker.price1e8
      maker.remainingSize1e8 with
  | error e => rw [hhold] at h; cases h
  | ok r =>
    rw [hhold] at h
    cases h
    exact ⟨rfl, holdAmount_of_holdFor hhold⟩

/-! ## States -/

/-- The bookkeeping behind the holds. -/
structure Ledgered (db : OptionTables) : Prop where
  /-- A row is filed under the order's name. -/
  filed : ∀ {id o}, db.orders.get? id = some o → o.orderId = id
  hashes : db.orders.UniqueIndex canonicalOrderHash
  ledger : WellFormed db.reservations
  owned : ∀ {hash r}, activeHold db.reservations hash = some r → HashStored db.orders hash

variable (series : FMap OptionSeriesId OptionSeries)

/-- The tables before the first order. -/
def OptionTables.start : OptionTables :=
  ⟨series, ∅, ∅, ∅⟩

theorem ledgered_start : Ledgered (.start series) where
  filed := fun h => by simp [OptionTables.start] at h
  hashes := uniqueIndex_empty
  ledger := ReservationTable.wellFormed_empty
  owned := fun h => by simp [OptionTables.start, activeHold] at h

/-! ## A submit -/

/-- A submit: the request, the name and the identifiers drawn for it, and when it is checked and
matched. -/
structure OptionSubmit where
  input : SubmitOptionOrderInput
  orderId : OrderId
  /-- The identifiers drawn for its fills and reservations. -/
  draws : MatchDraws
  checkedAtMs : TimestampMs
  seriesAtMs : TimestampMs
  now : TimestampMs

namespace OptionSubmit

variable (call : OptionSubmit) (svc : OptionsService)

/-- The order a submit sends to the matcher. -/
def order : OptionOrder :=
  svc.newOptionOrder call.input call.orderId call.now

def hash : String :=
  svc.canonicalOrderHashFor (orderOf call.input call.orderId call.now) svc.domain

def plan (series : OptionSeries) : Option MatcherReservationPlan :=
  svc.buildMatcherReservationPlan series (call.order svc) call.now

/-- `submit_option_order_inner`. -/
def act : Act BackendError OptionTables (OptionOrder × List OptionFill) :=
  svc.submitOptionOrderInner call.draws call.orderId call.checkedAtMs call.seriesAtMs call.now
    call.input

end OptionSubmit

/-- **A submit that succeeded.** -/
structure Arrival (svc : OptionsService) (call : OptionSubmit) (series : OptionSeries)
    (db : OptionTables) (taker : OptionOrder) (fills : List OptionFill) (db' : OptionTables) :
    Prop where
  known : db.series.get? call.input.optionSeriesId = some series
  /-- Something was ordered. -/
  size_pos : 0 < call.input.size1e8
  recorded : Recorded svc.executionIdOf svc.domain call.draws call.now svc.sqlLower
    (call.order svc) (call.plan svc series) db taker fills db'

section

variable {svc : OptionsService} {call : OptionSubmit} {series : OptionSeries}

theorem validateSubmit_size (h : svc.validateSubmit now input = .ok ()) : input.size1e8 ≠ 0 := by
  obtain ⟨_, -, h⟩ := bind_eq_ok.1 h
  obtain ⟨_, -, h⟩ := bind_eq_ok.1 h
  obtain ⟨_, -, h⟩ := bind_eq_ok.1 h
  obtain ⟨_, hsize, -⟩ := bind_eq_ok.1 h
  exact insist_eq_ok.1 hsize

theorem validateSeries_eq_ok (h : svc.validateSeries now input found openOrders = .ok series) :
    found = some series := by
  unfold validateSeries at h
  split at h
  · cases h
  obtain ⟨_, -, h⟩ := bind_eq_ok.1 h
  obtain ⟨_, -, h⟩ := bind_eq_ok.1 h
  obtain ⟨_, -, h⟩ := bind_eq_ok.1 h
  cases h
  rfl

/-- What a submit that succeeded did. -/
theorem arrival_of_ok (hfiled : ∀ {id o}, db.orders.get? id = some o → o.orderId = id)
    (h : call.act svc db = (.ok (taker, fills), db')) :
    ∃ series, Arrival svc call series db taker fills db' := by
  obtain ⟨_, hvalid, h⟩ := Act.check_bind_eq_ok.1 h
  obtain ⟨series, hseries, h⟩ := Act.check_bind_eq_ok.1 h
  exact ⟨series, validateSeries_eq_ok hseries, Nat.pos_of_ne_zero (validateSubmit_size hvalid),
    (submit_eq_ok hfiled).1 h⟩

namespace Arrival

variable {id : OrderId} {hash : String}

section

variable (h : Arrival svc call series db taker fills db')
include h

theorem row_eq : taker = settledTaker (call.order svc)
      (tradedSize (optionTrades db.orders (call.order svc))) call.now :=
  (referenceMatch_eq_ok.1 h.recorded.reference).1

theorem terms_eq : taker.terms = (call.order svc).terms := by
  rw [h.row_eq, terms_settledTaker]

theorem hash_taker : taker.canonicalOrderHash = some (call.hash svc) :=
  congr_terms (·.canonicalOrderHash) h.terms_eq

theorem fresh : db.orders.get? (call.order svc).orderId = none := by
  have hid : taker.orderId = (call.order svc).orderId := congr_terms (·.orderId) h.terms_eq
  rw [← hid]
  exact h.recorded.taken.get?_eq_none

theorem hash_new
    (ho : db.orders.get? id = some o) : o.canonicalOrderHash ≠ some (call.hash svc) := by
  have hfree := h.recorded.taken.2.1
  have hhash : taker.stored.canonicalOrderHash = some (call.hash svc) := h.hash_taker
  rw [orderTaken, Bool.or_eq_false_iff, Bool.or_eq_false_iff, hhash, Option.any_some] at hfree
  have hnone : db.orders.at? canonicalOrderHash (call.hash svc) = none := by
    simpa using hfree.1.2
  exact at?_eq_none_iff.1 hnone id o ho

theorem series_same : db'.series = db.series := by
  obtain ⟨m', -, rfl⟩ := h.recorded.ledger
  rfl

section

variable (hdb : Ledgered db)
include hdb

/-- The rows after the submit. -/
theorem get?_after (id : OrderId) :
    db'.orders.get? id = ((bookAfterTrades call.now (optionTrades db.orders (call.order svc))
      db.orders).set (call.order svc).orderId taker.stored).get? id := by
  obtain ⟨m', -, rfl⟩ := h.recorded.ledger
  exact get?_recorded hdb.filed h.fresh m' id

/-- **A row is the order's, a maker's or an old one.** -/
theorem row_cases (ho : db'.orders.get? id = some o) :
    (id = (call.order svc).orderId ∧ o = taker.stored) ∨
      (∃ t ∈ optionTrades db.orders (call.order svc),
        id = t.maker.orderId ∧ o = t.makerRow call.now) ∨
      id ≠ (call.order svc).orderId ∧
        (∀ t ∈ optionTrades db.orders (call.order svc), id ≠ t.maker.orderId) ∧
        db.orders.get? id = some o := by
  rw [h.get?_after hdb] at ho
  exact of_get?_matched (nodup_optionTrades hdb.filed _) ho

theorem get?_taker : db'.orders.get? (call.order svc).orderId = some taker.stored := by
  rw [h.get?_after hdb, get?_set_self]

theorem get?_maker (ht : t ∈ optionTrades db.orders (call.order svc)) :
    db'.orders.get? t.maker.orderId = some (t.makerRow call.now) := by
  rw [h.get?_after hdb, get?_set_ne _ (maker_ne_incoming hdb.filed h.fresh ht)]
  exact get?_setAll_of_mem (nodup_optionTrades hdb.filed _) ht _

theorem get?_other (ho : db.orders.get? id = some o)
    (hother : ∀ t ∈ optionTrades db.orders (call.order svc), id ≠ t.maker.orderId) :
    db'.orders.get? id = some o := by
  have hid : id ≠ (call.order svc).orderId := by
    rintro rfl
    rw [h.fresh] at ho
    cases ho
  rw [h.get?_after hdb, get?_set_ne _ hid]
  exact (get?_setAll_of_notMem hother _).trans ho

/-- An old row is still there, with its terms. -/
theorem row_persists (ho : db.orders.get? id = some o) :
    ∃ o', db'.orders.get? id = some o' ∧ o'.terms = o.terms := by
  by_cases hmaker : ∃ t ∈ optionTrades db.orders (call.order svc), id = t.maker.orderId
  · obtain ⟨t, ht, rfl⟩ := hmaker
    have hrow := (of_mem_optionTrades hdb.filed ht).1
    rw [ho] at hrow
    cases hrow
    exact ⟨_, h.get?_maker hdb ht, rfl⟩
  · exact ⟨o, h.get?_other hdb ho fun t ht heq => hmaker ⟨t, ht, heq⟩, rfl⟩

/-- A row that is not the order's was there before, with its terms. -/
theorem row_before (ho : db'.orders.get? id = some o) :
    (id = (call.order svc).orderId ∧ o = taker.stored) ∨
      ∃ o', db.orders.get? id = some o' ∧ o'.terms = o.terms := by
  rcases h.row_cases hdb ho with hown | ⟨t, ht, rfl, rfl⟩ | ⟨-, -, hrow⟩
  · exact .inl hown
  · exact .inr ⟨t.maker, (of_mem_optionTrades hdb.filed ht).1, rfl⟩
  · exact .inr ⟨o, hrow, rfl⟩

theorem hash_maker_ne (ht : t ∈ optionTrades db.orders (call.order svc))
    (hhash : t.maker.canonicalOrderHash = some hash) : hash ≠ call.hash svc := by
  rintro rfl
  exact h.hash_new (of_mem_optionTrades hdb.filed ht).1 hhash

end

end

theorem maker_unique (hdb : Ledgered db) {incoming : OptionOrder}
    (ht : t ∈ optionTrades db.orders incoming) (hu : u ∈ optionTrades db.orders incoming)
    (hth : t.maker.canonicalOrderHash = some hash) (huh : u.maker.canonicalOrderHash = some hash) :
    t = u := by
  have hid := hdb.hashes.eq (of_mem_optionTrades hdb.filed ht).1
    (of_mem_optionTrades hdb.filed hu).1 hth huh
  exact inj_on_of_nodup_map (nodup_optionTrades hdb.filed incoming) ht hu hid

/-! ### The holds -/

section

variable (h : Arrival svc call series db taker fills db')
include h

theorem hashStored_new : ¬ HashStored db.orders (call.hash svc) := by
  rintro ⟨id, o, ho, hhash⟩
  exact h.hash_new ho hhash

theorem no_hold (hdb : Ledgered db) : activeHold db.reservations (call.hash svc) = none := by
  cases hhold : activeHold db.reservations (call.hash svc) with
  | none => rfl
  | some => exact absurd (hdb.owned hhold) h.hashStored_new

/-- Without a plan the ledger stays as it is. -/
theorem holds_same (hplan : call.plan svc series = none) : db'.reservations = db.reservations := by
  obtain ⟨m', hledger, rfl⟩ := h.recorded.ledger
  rw [hplan] at hledger
  cases hledger
  rfl

end

end Arrival

def Rests (taker : OptionOrder) : Prop :=
  0 < taker.remainingSize1e8 ∧ taker.status.isLive = true
  deriving Decidable

/-- **The holds after a submit with a plan.** -/
structure HoldsAfter (svc : OptionsService) (call : OptionSubmit) (series : OptionSeries)
    (db : OptionTables) (taker : OptionOrder) (db' : OptionTables) : Prop where
  wellFormed : WellFormed db'.reservations
  /-- The order has a hold if it rests, for its whole size. -/
  taker : ∃ token amount id, deriveTakerReservationInputs series (call.order svc) =
      some (token, amount) ∧
    activeHold db'.reservations (call.hash svc) = if Rests taker then
      some ((svc.takerInput (call.order svc) (call.hash svc) token amount call.now).row id)
      else none
  /-- A maker it leaves nothing of has none. -/
  consumed : ∀ {t hash}, t ∈ optionTrades db.orders (call.order svc) → t.rest1e8 = 0 →
    t.maker.canonicalOrderHash = some hash → activeHold db'.reservations hash = none
  /-- The hold of a maker it leaves something of is for what is left. -/
  resized : ∀ {t hash}, t ∈ optionTrades db.orders (call.order svc) → t.rest1e8 ≠ 0 →
    t.maker.canonicalOrderHash = some hash → ∃ input id,
      (svc.scaffoldOf series).buildMakerResidualOpenOrderInput (t.makerRow call.now) call.now =
        .ok input ∧
      activeHold db'.reservations hash = (activeHold db.reservations hash).map fun _ => input.row id
  /-- The other holds stay as they are. -/
  others : ∀ {hash}, hash ≠ call.hash svc →
    (∀ t ∈ optionTrades db.orders (call.order svc), t.maker.canonicalOrderHash ≠ some hash) →
    activeHold db'.reservations hash = activeHold db.reservations hash

/-- A plan is built when the amount of the whole size can be computed. -/
theorem plan_eq_some (h : call.plan svc series = some plan) :
    ∃ token amount, deriveTakerReservationInputs series (call.order svc) = some (token, amount) ∧
      plan = ⟨some (svc.takerInput (call.order svc) (call.hash svc) token amount call.now),
        some (svc.scaffoldOf series)⟩ := by
  unfold OptionSubmit.plan buildMatcherReservationPlan at h
  obtain ⟨hash, hhash', h⟩ := Option.bind_eq_some_iff.1 h
  obtain ⟨⟨token, amount⟩, hderive, h⟩ := Option.bind_eq_some_iff.1 h
  cases hhash'
  cases h
  exact ⟨token, amount, hderive, rfl⟩

/-- The arriving order's hold, and the others, before the makers' are changed. -/
theorem heldByTaker_eq (token : String) (amount : Nat) (m : ReservationTable) (hash : String) :
    heldByTaker call.draws ⟨some (svc.takerInput (call.order svc) (call.hash svc) token amount
        call.now), some (svc.scaffoldOf series)⟩ taker m hash =
      if hash = call.hash svc ∧ Rests taker then
        some ((svc.takerInput (call.order svc) (call.hash svc) token amount call.now).row
          (call.draws.reservationId .taker))
      else activeHold m hash := by
  unfold heldByTaker restingInput Rests
  by_cases hrests : 0 < taker.remainingSize1e8 ∧ taker.status.isLive = true
  · rw [if_pos hrests, Option.elim_some]
    by_cases hhash : hash = call.hash svc
    · exact (if_pos hhash).trans (if_pos ⟨hhash, hrests⟩).symm
    · exact (if_neg hhash).trans (if_neg fun hand => hhash hand.1).symm
  · rw [if_neg hrests, Option.elim_none]
    exact (if_neg fun hand => hrests hand.2).symm

theorem Arrival.holdsAfter (h : Arrival svc call series db taker fills db') (hdb : Ledgered db)
    (hfresh : call.draws.FreshReservations db.reservations) {plan : MatcherReservationPlan}
    (hplan : call.plan svc series = some plan) : HoldsAfter svc call series db taker db' := by
  obtain ⟨token, amount, hderive, hshape⟩ := plan_eq_some hplan
  obtain ⟨m', hledger, rfl⟩ := h.recorded.ledger
  rw [hplan] at hledger
  have hscaffold : plan.pendingScaffold = some (svc.scaffoldOf series) := by rw [hshape]
  have hfree : ∀ input, restingInput plan taker = some input →
      activeHold db.reservations input.canonicalOrderHash = none := by
    intro input hinput
    rw [hshape, restingInput] at hinput
    split at hinput <;> cases hinput
    exact h.no_hold hdb
  have hnodup := nodup_optionTrades hdb.filed (call.order svc)
  set trades := optionTrades db.orders (call.order svc)
  obtain ⟨hresiduals, hpairs⟩ := ledgerTx_inv hledger hscaffold
  obtain ⟨m'', hrun, heffect⟩ := ledgerTx_ok _ hdb.ledger hfresh hfree hscaffold
    (distinctHashes_partialMakers hnodup (fun t ht => (of_mem_optionTrades hdb.filed ht).1)
      hdb.hashes) hresiduals hpairs
  subst hshape
  obtain rfl : m'' = m' := congrArg Prod.snd (hrun.symm.trans hledger)
  -- a maker with something left is the maker of a trade
  have hothers : ∀ {hash}, (∀ t ∈ trades, t.rest1e8 ≠ 0 → t.maker.canonicalOrderHash ≠ some hash) →
      ∀ maker ∈ (partialMakers call.now trades ∅).vals, maker.canonicalOrderHash ≠ some hash := by
    intro hash hnone maker hmaker
    obtain ⟨t, ht, hrest, rfl⟩ := (mem_partialMakers hnodup).1 hmaker
    exact hnone t ht hrest
  have hspared := fun {hash} (hnone : ∀ t ∈ trades, t.maker.canonicalOrderHash ≠ some hash) =>
    (heffect.others hash (hothers fun t ht _ => hnone t ht)).trans (if_neg fun hmem => by
      obtain ⟨t, ht, -, hhash⟩ := mem_consumedHashes.1 hmem
      exact hnone t ht hhash)
  refine ⟨heffect.wellFormed, ⟨token, amount, call.draws.reservationId .taker, hderive, ?_⟩,
    fun {t hash} ht hrest hhash => ?_, fun {t hash} ht hrest hhash => ?_, fun {hash} hne hmakers => ?_⟩
  · refine (hspared fun t ht hhash => h.hash_maker_ne hdb ht hhash rfl).trans ?_
    rw [heldByTaker_eq, h.no_hold hdb]
    by_cases hrests : Rests taker
    · rw [if_pos ⟨rfl, hrests⟩, if_pos hrests]
    · rw [if_neg fun hand => hrests hand.2, if_neg hrests]
  · refine (heffect.others hash (hothers fun u hu hurest huhash => ?_)).trans
      (if_pos (mem_consumedHashes.2 ⟨t, ht, hrest, hhash⟩))
    obtain rfl := Arrival.maker_unique hdb ht hu hhash huhash
    exact hurest hrest
  · obtain ⟨input, hinput, id, hhold⟩ := heffect.resized (t.makerRow call.now)
      ((mem_partialMakers hnodup).2 ⟨t, ht, hrest, rfl⟩)
    have hsame : input.canonicalOrderHash = hash :=
      Option.some.inj ((buildMakerResidual_hash hinput).symm.trans hhash)
    have hnot : hash ∉ consumedHashes trades := by
      intro hmem
      obtain ⟨u, hu, hurest, huhash⟩ := mem_consumedHashes.1 hmem
      obtain rfl := Arrival.maker_unique hdb ht hu hhash huhash
      exact hrest hurest
    refine ⟨input, id, hinput, ?_⟩
    rw [hsame] at hhold
    refine hhold.trans (congrArg (Option.map _) ((if_neg hnot).trans ?_))
    rw [heldByTaker_eq, if_neg fun hand => h.hash_maker_ne hdb ht hhash hand.1]
  · refine (hspared hmakers).trans ?_
    rw [heldByTaker_eq, if_neg fun hand => hne hand.1]

/-! ## The bookkeeping is kept -/

theorem HashStored.after (hdb : Ledgered db) (h : Arrival svc call series db taker fills db')
    {hash : String} (hstored : HashStored db.orders hash) : HashStored db'.orders hash := by
  obtain ⟨id, o, ho, hhash⟩ := hstored
  obtain ⟨o', ho', hterms⟩ := h.row_persists hdb ho
  exact ⟨id, o', ho', (congr_terms (·.canonicalOrderHash) hterms).trans hhash⟩

section

variable (h : Arrival svc call series db taker fills db') (hdb : Ledgered db)
  (hfresh : call.draws.FreshReservations db.reservations)
include h hdb hfresh

/-- A hold after a submit is the hold of a stored order. -/
theorem Arrival.owned {hash : String} (hhold : activeHold db'.reservations hash = some r) :
    HashStored db'.orders hash := by
  by_cases hown : hash = call.hash svc
  · rw [hown]
    exact ⟨_, _, h.get?_taker hdb, h.hash_taker⟩
  by_cases hmaker : ∃ t ∈ optionTrades db.orders (call.order svc),
      t.maker.canonicalOrderHash = some hash
  · obtain ⟨t, ht, hhash⟩ := hmaker
    exact ⟨_, _, h.get?_maker hdb ht, hhash⟩
  refine HashStored.after hdb h (hdb.owned (r := r) ?_)
  cases hplan : call.plan svc series with
  | none => rw [← h.holds_same hplan, hhold]
  | some =>
    rw [← (h.holdsAfter hdb hfresh hplan).others hown fun t ht hhash => hmaker ⟨t, ht, hhash⟩,
      hhold]

/-- A submit keeps the books. -/
theorem Arrival.ledgered : Ledgered db' where
  filed := by
    intro id o ho
    rcases h.row_before hdb ho with ⟨rfl, rfl⟩ | ⟨o', ho', hterms⟩
    · have hid : taker.orderId = (call.order svc).orderId :=
        congr_terms (·.orderId) h.terms_eq
      exact hid
    · rw [← hdb.filed ho']
      exact (congr_terms (·.orderId) hterms).symm
  hashes := by
    refine ⟨fun {i j v w k} hi hj hv hw => ?_⟩
    have hself : taker.stored.canonicalOrderHash = some (call.hash svc) := h.hash_taker
    rcases h.row_before hdb hi with ⟨rfl, rfl⟩ | ⟨v', hv', hvterms⟩
    · rcases h.row_before hdb hj with ⟨rfl, rfl⟩ | ⟨w', hw', hwterms⟩
      · rfl
      · have hhash := congr_terms (·.canonicalOrderHash) hwterms
        exact absurd (hhash.trans (hw.trans (hv.symm.trans hself))) (h.hash_new hw')
    · have hvhash := congr_terms (·.canonicalOrderHash) hvterms
      rcases h.row_before hdb hj with ⟨rfl, rfl⟩ | ⟨w', hw', hwterms⟩
      · exact absurd (hvhash.trans (hv.trans (hw.symm.trans hself))) (h.hash_new hv')
      · have hwhash := congr_terms (·.canonicalOrderHash) hwterms
        exact hdb.hashes.eq hv' hw' (hvhash.trans hv) (hwhash.trans hw)
  ledger := by
    cases hplan : call.plan svc series with
    | none => rw [h.holds_same hplan]; exact hdb.ledger
    | some => exact (h.holdsAfter hdb hfresh hplan).wellFormed
  owned := fun hhold => h.owned hdb hfresh hhold

end

end

end DeoptBackend
