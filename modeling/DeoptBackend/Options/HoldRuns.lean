import DeoptBackend.Options.Holds

/-!
# Collateral holds over whole runs

Two properties of the ledger in every state that requests lead to.

* `Sized` — a live order for which a plan was built has one active hold, for what is left
  of it.  A submit that leaves part of a filled order resting breaks it, for the hold was
  computed from the whole size; so does one without a plan that is filled in the middle
  of a maker.  `holds_are_sized` — nothing else does.
* `NoLeak` — an active hold is the hold of a live order.  The sweep breaks it, for it
  releases nothing; so does a submit without a plan that takes all of a maker.
  `no_leaked_holds` — nothing else does.

`maker_holds_add_up` — what the fills of a resting order and its rest hold is what the whole
order did, but for the rounding.
-/

namespace DeoptBackend

open OptionOrder ReservationTable OptionsService Option Act FMap

open OptionsService (deriveTakerReservationInputs)

/-! ## Sizes -/

namespace OptionTables

variable (db : OptionTables)

/-- A reservation plan is built for the order: it has a hash, and the amount for its
whole size can be computed. -/
def PlanBuilt (o : OptionOrder) : Prop :=
  o.canonicalOrderHash.isSome = true ∧ ∃ series, db.series.get? o.optionSeriesId = some series ∧
      (deriveTakerReservationInputs series o).isSome = true

/-- The order has exactly one active hold, for what is left of it. -/
def ExactHold (o : OptionOrder) : Prop :=
  ∃ hash series id r, o.canonicalOrderHash = some hash ∧
    db.series.get? o.optionSeriesId = some series ∧
    db.reservations.get? id = some r ∧ r.openOrderIndex = some hash ∧
    (∀ id' r', db.reservations.get? id' = some r' → r'.openOrderIndex = some hash → id' = id) ∧
    r.quantity1e8 = o.remainingSize1e8 ∧
    holdAmount series o.side o.price1e8 o.remainingSize1e8 = .ok r.reservedAmount

/-- **Every live order with a plan is held for what is left of it.** -/
def Sized : Prop :=
  ∀ id o, db.orders.get? id = some o → o.status.isLive = true → db.PlanBuilt o → db.ExactHold o

end OptionTables

/-- When a submit keeps the sizes right: an order that has a plan and may rest finds
nothing to trade with, or enough to be filled; and one without a plan is not filled in
the middle of a maker that has one. -/
def OptionSubmit.KeepsSizes (call : OptionSubmit) (svc : OptionsService) (db : OptionTables) : Prop :=
  (db.PlanBuilt (call.order svc) → call.input.timeInForce = .gtc →
      liquidity (rankedMakers db.orders (call.order svc)) = 0 ∨
        call.input.size1e8 ≤ liquidity (rankedMakers db.orders (call.order svc))) ∧
    (¬ db.PlanBuilt (call.order svc) →
      ∀ maker, TakesPart db.orders (call.order svc) maker → ¬ db.PlanBuilt maker)

variable {db db' : OptionTables}

theorem planBuilt_congr (hseries : db'.series = db.series) (hterms : o'.terms = o.terms) :
    db'.PlanBuilt o' ↔ db.PlanBuilt o := by
  have hsame := iff_of_eq (congr_terms db.PlanBuilt hterms)
  unfold OptionTables.PlanBuilt at hsame ⊢
  rwa [hseries]

/-- The hold of an order, found by its hash. -/
theorem exactHold_iff (hdb : Ledgered db) :
    db.ExactHold o ↔ ∃ hash series r, o.canonicalOrderHash = some hash ∧
      db.series.get? o.optionSeriesId = some series ∧
      activeHold db.reservations hash = some r ∧ r.quantity1e8 = o.remainingSize1e8 ∧
      holdAmount series o.side o.price1e8 o.remainingSize1e8 = .ok r.reservedAmount := by
  constructor
  · rintro ⟨hash, series, id, r, hhash, hseries, hid, hindex, -, hquantity, hamount⟩
    exact ⟨hash, series, r, hhash, hseries, hdb.ledger.unique.at?_of_get? hid hindex, hquantity,
      hamount⟩
  · rintro ⟨hash, series, r, hhash, hseries, hhold, hquantity, hamount⟩
    obtain ⟨id, hid, hindex⟩ := of_at? hhold
    exact ⟨hash, series, id, r, hhash, hseries, hid, hindex,
      fun id' r' hid' hindex' => hdb.ledger.unique.eq hid' hid hindex' hindex, hquantity, hamount⟩

section

variable (h : Arrival svc call series db taker fills db')
include h

theorem Arrival.planBuilt_iff :
    db.PlanBuilt (call.order svc) ↔ (call.plan svc series).isSome = true := by
  have hplan : (call.plan svc series).isSome =
      (deriveTakerReservationInputs series (call.order svc)).isSome := by
    unfold OptionSubmit.plan buildMatcherReservationPlan
    cases deriveTakerReservationInputs series (call.order svc) <;> rfl
  rw [hplan]
  constructor
  · rintro ⟨-, series', hseries', hderive⟩
    have hknown : db.series.get? (call.order svc).optionSeriesId = some series := h.known
    rw [hknown] at hseries'
    cases hseries'
    exact hderive
  · exact fun hderive => ⟨rfl, series, h.known, hderive⟩

theorem Arrival.left_eq : taker.remainingSize1e8 =
    call.input.size1e8 - liquidity (rankedMakers db.orders (call.order svc)) := by
  have hsize : (call.order svc).size1e8 = call.input.size1e8 := rfl
  rw [h.row_eq, remainingSize1e8_settledTaker, tradedSize_optionTrades, hsize]
  omega

/-- What could not be traded of an order rests, if it may. -/
theorem Arrival.rests_iff : Rests taker ↔ call.input.timeInForce = .gtc ∧
      liquidity (rankedMakers db.orders (call.order svc)) < call.input.size1e8 := by
  obtain ⟨hrow, -, -, hfok⟩ := referenceMatch_eq_ok.1 h.recorded.reference
  have hsize : (call.order svc).size1e8 = call.input.size1e8 := rfl
  have htif : (call.order svc).timeInForce = call.input.timeInForce := rfl
  rw [tradedSize_optionTrades, hsize] at hfok
  unfold Rests
  rw [h.left_eq, hrow, status_settledTaker, isLive_finalStatusForTif, tradedSize_optionTrades, hsize]
  constructor
  · rintro ⟨hpos, -, hioc⟩
    refine ⟨?_, by omega⟩
    cases hcase : call.input.timeInForce with
    | gtc => rfl
    | ioc => exact absurd (htif.trans hcase) hioc
    | fok =>
      have := hfok (htif.trans hcase)
      omega
  · rintro ⟨hgtc, hshort⟩
    have hne : call.input.timeInForce ≠ .ioc := by
      rw [hgtc]
      decide
    exact ⟨by omega, by simp only; omega, hne⟩

theorem Arrival.planBuilt_row : db'.PlanBuilt taker.stored ↔ db.PlanBuilt (call.order svc) := by
  have hrow : db'.PlanBuilt taker.stored ↔ db'.PlanBuilt taker := Iff.rfl
  rw [hrow]
  exact planBuilt_congr h.series_same h.terms_eq

section

variable (hdb : Ledgered db) (hfresh : call.draws.FreshReservations db.reservations)
include hdb hfresh

/-- The arriving order is held for what is left of it, if nothing was traded. -/
theorem Arrival.exactHold_taker (hplan : db.PlanBuilt (call.order svc)) (hrests : Rests taker)
    (hnone : liquidity (rankedMakers db.orders (call.order svc)) = 0) :
    db'.ExactHold taker.stored := by
  obtain ⟨plan, hsome⟩ := isSome_iff_exists.1 (h.planBuilt_iff.1 hplan)
  obtain ⟨token, amount, id, hderive, hhold⟩ := (h.holdsAfter hdb hfresh hsome).taker
  rw [if_pos hrests] at hhold
  have hleft : taker.remainingSize1e8 = (call.order svc).size1e8 := by
    rw [h.left_eq, hnone]
    rfl
  have hseries : db'.series.get? taker.optionSeriesId = some series := by
    rw [h.series_same, congr_terms (·.optionSeriesId) h.terms_eq]
    exact h.known
  have hamount : holdAmount series taker.side taker.price1e8 taker.remainingSize1e8 =
      .ok amount := by
    rw [hleft, congr_terms (·.side) h.terms_eq, congr_terms (·.price1e8) h.terms_eq]
    exact holdAmount_of_derive hderive
  exact (exactHold_iff (h.ledgered hdb hfresh)).2
    ⟨call.hash svc, series, _, h.hash_taker, hseries, hhold, hleft.symm, hamount⟩

/-- A maker that is left is held for what is left, if it was held before and there is a
plan. -/
theorem Arrival.exactHold_maker (hplan : db.PlanBuilt (call.order svc)) {t : OptionTrade}
    (ht : t ∈ optionTrades db.orders (call.order svc)) (hrest : t.rest1e8 ≠ 0)
    (hbefore : db.ExactHold t.maker) : db'.ExactHold (t.makerRow call.now) := by
  obtain ⟨plan, hsome⟩ := isSome_iff_exists.1 (h.planBuilt_iff.1 hplan)
  obtain ⟨hash, -, r, hhash, -, hheld, -⟩ := (exactHold_iff hdb).1 hbefore
  obtain ⟨input, id, hinput, hhold⟩ := (h.holdsAfter hdb hfresh hsome).resized ht hrest hhash
  obtain ⟨hquantity, hamount⟩ := residual_spec hinput
  rw [hheld, map_some] at hhold
  have hseries : db'.series.get? (t.makerRow call.now).optionSeriesId = some series := by
    have hsame : (t.makerRow call.now).optionSeriesId = (call.order svc).optionSeriesId :=
      (of_mem_optionTrades hdb.filed ht).2.1.1
    rw [h.series_same, hsame]
    exact h.known
  exact (exactHold_iff (h.ledgered hdb hfresh)).2
    ⟨hash, series, _, hhash, hseries, hhold, hquantity, hamount⟩

theorem Arrival.hold_other {id : OrderId} {hash : String} (ho : db.orders.get? id = some o)
    (hother : ∀ t ∈ optionTrades db.orders (call.order svc), id ≠ t.maker.orderId)
    (hhash : o.canonicalOrderHash = some hash) :
    activeHold db'.reservations hash = activeHold db.reservations hash := by
  cases hplan : call.plan svc series with
  | none => rw [h.holds_same hplan]
  | some =>
    refine (h.holdsAfter hdb hfresh hplan).others ?_ fun t ht hmaker => ?_
    · rintro rfl
      exact h.hash_new ho hhash
    · exact hother t ht (hdb.hashes.eq ho (of_mem_optionTrades hdb.filed ht).1 hhash hmaker)

theorem Arrival.exactHold_other {id : OrderId} (ho : db.orders.get? id = some o)
    (hother : ∀ t ∈ optionTrades db.orders (call.order svc), id ≠ t.maker.orderId)
    (hbefore : db.ExactHold o) : db'.ExactHold o := by
  obtain ⟨hash, series', r, hhash, hseries, hhold, hrest⟩ := (exactHold_iff hdb).1 hbefore
  refine (exactHold_iff (h.ledgered hdb hfresh)).2 ⟨hash, series', r, hhash, ?_, ?_, hrest⟩
  · rw [h.series_same, hseries]
  · rw [h.hold_other hdb hfresh ho hother hhash, hhold]

theorem Arrival.sized (hsized : db.Sized) (hkeeps : call.KeepsSizes svc db) : db'.Sized := by
  intro id o ho hlive hbuilt
  rcases h.row_cases hdb ho with ⟨-, rfl⟩ | ⟨t, ht, rfl, rfl⟩ | ⟨-, hother, hrow⟩
  · have hplan := h.planBuilt_row.1 hbuilt
    have hlive' : taker.status.isLive = true := hlive
    have hrests : Rests taker := by
      refine ⟨Nat.pos_of_ne_zero ?_, hlive'⟩
      rw [h.row_eq, status_settledTaker, isLive_finalStatusForTif] at hlive'
      rw [h.row_eq, remainingSize1e8_settledTaker]
      exact hlive'.1
    obtain ⟨hgtc, hshort⟩ := h.rests_iff.1 hrests
    rcases hkeeps.1 hplan hgtc with hnone | henough
    · exact h.exactHold_taker hdb hfresh hplan hrests hnone
    · omega
  · obtain ⟨hrow, hsuits, -, -⟩ := of_mem_optionTrades hdb.filed ht
    have hrest := isLive_makerRow.1 hlive
    have hmaker : db.PlanBuilt t.maker := (planBuilt_congr h.series_same rfl).1 hbuilt
    have hplan : db.PlanBuilt (call.order svc) := by
      by_contra hnot
      exact hkeeps.2 hnot t.maker (takesPart_iff.2 ⟨t, ht, rfl, hrest⟩) hmaker
    exact h.exactHold_maker hdb hfresh hplan ht hrest (hsized _ _ hrow hsuits.2.2.1 hmaker)
  · have hbuilt' : db.PlanBuilt o := (planBuilt_congr h.series_same rfl).1 hbuilt
    exact h.exactHold_other hdb hfresh hrow hother (hsized id o hrow hlive hbuilt')

/-- A submit after which the sizes are right keeps them. -/
theorem Arrival.keepsSizes (hsized : db.Sized) (hsized' : db'.Sized) : call.KeepsSizes svc db := by
  have hdb' := h.ledgered hdb hfresh
  constructor
  · intro hplan hgtc
    by_contra hnot
    rw [not_or, Nat.not_le] at hnot
    have hrests := h.rests_iff.2 ⟨hgtc, hnot.2⟩
    obtain ⟨plan, hsome⟩ := isSome_iff_exists.1 (h.planBuilt_iff.1 hplan)
    obtain ⟨token, amount, id, -, hhold⟩ := (h.holdsAfter hdb hfresh hsome).taker
    rw [if_pos hrests] at hhold
    obtain ⟨hash, -, r, hhash, -, hheld, hquantity, -⟩ := (exactHold_iff hdb').1
      (hsized' _ _ (h.get?_taker hdb) hrests.2 (h.planBuilt_row.2 hplan))
    -- the hold is for the whole size, and something of it is traded
    cases (h.hash_taker.symm.trans hhash : some (call.hash svc) = some hash)
    rw [hhold] at hheld
    cases hheld
    have hwhole : call.input.size1e8 = taker.remainingSize1e8 := hquantity
    rw [h.left_eq] at hwhole
    omega
  · intro hnot maker hpart hbuilt
    obtain ⟨t, ht, rfl, hrest⟩ := takesPart_iff.1 hpart
    obtain ⟨hrow, hsuits, hpos, hle⟩ := of_mem_optionTrades hdb.filed ht
    have hnone : call.plan svc series = none := not_isSome_iff_eq_none.1 (h.planBuilt_iff.not.1 hnot)
    obtain ⟨hash, -, r, hhash, -, hheld, hquantity, -⟩ :=
      (exactHold_iff hdb).1 (hsized _ _ hrow hsuits.2.2.1 hbuilt)
    obtain ⟨hash', -, r', hhash', -, hheld', hquantity', -⟩ := (exactHold_iff hdb').1
      (hsized' _ _ (h.get?_maker hdb ht) (isLive_makerRow.2 hrest)
        ((planBuilt_congr h.series_same rfl).2 hbuilt))
    -- the hold did not change, and the maker did
    cases (hhash.symm.trans hhash' : some hash = some hash')
    rw [h.holds_same hnone, hheld] at hheld'
    cases hheld'
    have hleft : r.quantity1e8 = t.maker.remainingSize1e8 - t.size1e8 := hquantity'
    omega

end

end

/-! ### Runs -/

section

variable (svc : OptionsService) (db : OptionTables) (call : OptionSubmit) (db' : OptionTables)

/-- A submit that succeeds, with new identifiers for its reservations. -/
def OptionSubmit.Step : Prop :=
  call.draws.FreshReservations db.reservations ∧ ∃ r, call.act svc db = (.ok r, db')

def OptionSubmit.SizedStep : Prop :=
  call.Step svc db db' ∧ call.KeepsSizes svc db

end

theorem OptionSubmit.Step.arrival (hdb : Ledgered db) (h : call.Step svc db db') :
    ∃ series taker fills, Arrival svc call series db taker fills db' := by
  obtain ⟨-, ⟨taker, fills⟩, hok⟩ := h
  obtain ⟨series, harrival⟩ := arrival_of_ok hdb.filed hok
  exact ⟨series, taker, fills, harrival⟩

theorem sized_of_run
    (hrun : Run (fun db call db' => OptionSubmit.SizedStep svc db call db') (.start start) calls db) :
    Ledgered db ∧ db.Sized := by
  refine hrun.invariant (P := fun db => Ledgered db ∧ db.Sized)
    ⟨ledgered_start start, fun id o ho => ?_⟩ ?_
  · cases ho
  · rintro db call db' ⟨hdb, hsized⟩ ⟨hstep, hkeeps⟩
    obtain ⟨series, taker, fills, h⟩ := hstep.arrival hdb
    exact ⟨h.ledgered hdb hstep.1, h.sized hdb hstep.1 hsized hkeeps⟩

/-- **Holds are sized as long as submits keep them so, and no longer.**  In every run of
submits that keep the sizes every state is `Sized`, and the first submit that does not
keep them leads to a state that is not. -/
theorem holds_are_sized (svc : OptionsService) (start : FMap OptionSeriesId OptionSeries)
    (calls : List OptionSubmit) (db : OptionTables)
    (hrun : Run (fun db call db' => OptionSubmit.SizedStep svc db call db') (.start start) calls
      db) :
    db.Sized ∧ ∀ call db', OptionSubmit.Step svc db call db' →
      (db'.Sized ↔ call.KeepsSizes svc db) := by
  obtain ⟨hdb, hsized⟩ := sized_of_run hrun
  refine ⟨hsized, fun call db' hstep => ?_⟩
  obtain ⟨series, taker, fills, h⟩ := hstep.arrival hdb
  exact ⟨h.keepsSizes hdb hstep.1 hsized, h.sized hdb hstep.1 hsized⟩

namespace HeldBook

/-- A service whose orders are named after their owners. -/
def svc : OptionsService where
  enabled := true
  domain := .constantTestDomain
  orderHashOf := fun inputs => inputs.owner.name
  executionIdOf := fun _ buyer seller _ => buyer ++ seller
  sqlLower := id
  preflight := fun _ _ _ => .ok ()

def series : FMap OptionSeriesId OptionSeries :=
  (∅ : FMap OptionSeriesId OptionSeries).set "ETH-C"
    ⟨"ETH-C", "ETH", "USDC", 100, 300000000000, true, 100000000, .active⟩

def seller : AccountId := ⟨"0xaaaaaaaaaaaaaaaaaaaaaaaaaaaaaaaaaaaaaaaa"⟩

def buyer : AccountId := ⟨"0xbbbbbbbbbbbbbbbbbbbbbbbbbbbbbbbbbbbbbbbb"⟩

/-- A request that may rest, until it lapses. -/
def input (account : AccountId) (side : Side) (size1e8 : Nat) (deadlineMs : Option TimestampMs) :
    SubmitOptionOrderInput :=
  ⟨"ETH-C", account, 1, side, 100000000, size1e8, .gtc, false, none, none, deadlineMs, none, none⟩

def slotNumber : ReservationSlot → Nat
  | .taker => 0
  | .residual i => 3 * i + 1
  | .buyer i => 3 * i + 2
  | .seller i => 3 * i + 3

theorem slotNumber_injective : Function.Injective slotNumber := by
  intro a b h
  rcases a with _ | i | i | i <;> rcases b with _ | j | j | j <;> simp [slotNumber] at h ⊢ <;> omega

/-- Identifiers from `base` on. -/
def draws (base : Nat) : MatchDraws where
  fillIds := fun i => base + i
  reservationId := fun slot => base + slotNumber slot

theorem freshReservations_draws {base : Nat} {m : ReservationTable}
    (hfree : ∀ k, base ≤ k → m.get? k = none) : (draws base).FreshReservations m where
  distinct := fun _ _ h => slotNumber_injective (Nat.add_left_cancel h)
  free := fun _ => hfree _ (Nat.le_add_right _ _)

theorem get?_eq_none_of_keys {m : ReservationTable} {k : Nat} (h : k ∉ m.keys) :
    m.get? k = none := by
  cases hk : m.get? k with
  | none => rfl
  | some r => exact absurd (mem_keys_iff.2 ⟨r, hk⟩) h

/-- Five are offered. -/
def ask : OptionSubmit := ⟨input seller .sell 5 none, ⟨1⟩, draws 0, 0, 0, 0⟩

def offered : OptionTables := (ask.act svc (.start series)).2

theorem step_ask : ask.Step svc (.start series) offered :=
  ⟨freshReservations_draws fun _ _ => rfl, exists_ok (by decide +kernel)⟩

theorem fresh_offered : (draws 1).FreshReservations offered.reservations := by
  have hkeys : offered.reservations.keys = [0] := by decide +kernel
  refine freshReservations_draws fun k hk => get?_eq_none_of_keys ?_
  rw [hkeys, List.mem_singleton]
  omega

/-- A bid for some of them, or more. -/
def bid (size1e8 : Nat) : OptionSubmit := ⟨input buyer .buy size1e8 none, ⟨2⟩, draws 1, 1, 1, 1⟩

/-- **An order that is filled in part and rests stays held in full.**  Of eight that are
bid for five are traded, and three rest; the hold is for eight. -/
theorem resting_rest_held_in_full : ∃ calls db,
    Run (fun db call db' => OptionSubmit.Step svc db call db') (.start series) calls db ∧
      ¬ db.Sized := by
  have hbid : (bid 8).Step svc offered ((bid 8).act svc offered).2 :=
    ⟨fresh_offered, exists_ok (by decide +kernel)⟩
  refine ⟨_, _, (Run.start.snoc step_ask).snoc hbid, fun hsized => ?_⟩
  have hrow : ((bid 8).act svc offered).2.orders.get? ⟨2⟩ = some
      { (bid 8).order svc with remainingSize1e8 := 3, status := .partiallyFilled } := by
    decide +kernel
  have hrows : ∀ r ∈ ((bid 8).act svc offered).2.reservations.vals,
      r.openOrderIndex = some buyer.name → r.quantity1e8 = 8 := by decide +kernel
  obtain ⟨hash, -, id, r, hhash, -, hr, hindex, -, hquantity, -⟩ :=
    hsized ⟨2⟩ _ hrow rfl ⟨rfl, _, rfl, by decide +kernel⟩
  cases hhash
  have height := hrows r (mem_vals.2 ⟨id, hr⟩) hindex
  rw [hquantity] at height
  cases height

/-- Two of the five are bought: the three that are left are held. -/
theorem holds_are_sized_partial_maker : ((bid 2).act svc offered).2.Sized ∧
      (((bid 2).act svc offered).2.orders.get? ⟨1⟩).map (·.remainingSize1e8) = some 3 := by
  have hask : ask.KeepsSizes svc (.start series) :=
    ⟨fun _ _ => .inl (by decide +kernel), fun hnot => absurd ⟨rfl, _, rfl, by decide +kernel⟩ hnot⟩
  have hbid : (bid 2).KeepsSizes svc offered :=
    ⟨fun _ _ => .inr (by decide +kernel), fun hnot => absurd ⟨rfl, _, rfl, by decide +kernel⟩ hnot⟩
  have hstep : (bid 2).Step svc offered ((bid 2).act svc offered).2 :=
    ⟨fresh_offered, exists_ok (by decide +kernel)⟩
  have hsized := holds_are_sized svc series _ _
    ((Run.start.snoc ⟨step_ask, hask⟩).snoc ⟨hstep, hbid⟩)
  exact ⟨hsized.1, by decide +kernel⟩

end HeldBook

/-! ## Leaks -/

namespace OptionTables

/-- **An active hold is the hold of a live order.** -/
def NoLeak (db : OptionTables) : Prop :=
  ∀ id r hash, db.reservations.get? id = some r → r.openOrderIndex = some hash →
    ∃ oid o, db.orders.get? oid = some o ∧ o.canonicalOrderHash = some hash ∧ o.status.isLive = true

/-- The order has an active hold. -/
def Held (db : OptionTables) (o : OptionOrder) : Prop :=
  ∃ hash id r, o.canonicalOrderHash = some hash ∧ db.reservations.get? id = some r ∧
    r.openOrderIndex = some hash

end OptionTables

inductive OptionRequest where
  /-- An order is sent. -/
  | submit (call : OptionSubmit)
  | cancel (orderId : OrderId) (now : TimestampMs)
  | sweep (now : TimestampMs)

def OptionRequest.Step (svc : OptionsService) (db : OptionTables) :
    OptionRequest → OptionTables → Prop
  | .submit call, db' => call.Step svc db db'
  | .cancel orderId now, db' => ∃ o, svc.cancelOptionOrderAndRelease orderId now db = (.ok o, db')
  | .sweep now, db' => ∃ expired, svc.sweepExpiredOptionOrders now db = (.ok expired, db')

/-- When a request ends the holds of the orders it ends: a submit has a plan or takes all
of no maker that is held, and the sweep finds no order that is held. -/
def OptionRequest.EndsHolds (svc : OptionsService) (db : OptionTables) : OptionRequest → Prop
  | .submit call => db.PlanBuilt (call.order svc) ∨
      ∀ maker, TakesAll db.orders (call.order svc) maker → ¬ db.Held maker
  | .cancel _ _ => True
  | .sweep now => ∀ id o, db.orders.get? id = some o → o.due now = true → ¬ db.Held o

section

variable {svc : OptionsService}

theorem noLeak_iff : db.NoLeak ↔ ∀ hash r, activeHold db.reservations hash = some r →
    ∃ oid o, db.orders.get? oid = some o ∧ o.canonicalOrderHash = some hash ∧
      o.status.isLive = true := by
  constructor
  · intro h hash r hhold
    obtain ⟨id, hid, hindex⟩ := of_at? hhold
    exact h id r hash hid hindex
  · intro h id r hash hid hindex
    obtain ⟨r', hhold⟩ := exists_at?_iff.2 ⟨id, r, hid, hindex⟩
    exact h hash r' hhold

theorem held_iff : db.Held o ↔ ∃ hash r, o.canonicalOrderHash = some hash ∧
    activeHold db.reservations hash = some r := by
  unfold OptionTables.Held activeHold
  simp only [exists_and_left, exists_at?_iff]

theorem live_of_held (hdb : Ledgered db) (hleak : db.NoLeak) {id : OrderId}
    (ho : db.orders.get? id = some o) (hheld : db.Held o) : o.status.isLive = true := by
  obtain ⟨hash, r, hhash, hhold⟩ := held_iff.1 hheld
  obtain ⟨id', o', ho', hhash', hlive⟩ := noLeak_iff.1 hleak hash r hhold
  obtain rfl := hdb.hashes.eq ho ho' hhash hhash'
  rw [ho] at ho'
  cases ho'
  exact hlive

/-! ### A submit -/

section

variable (h : Arrival svc call series db taker fills db')
include h

theorem Arrival.noLeak_of_plan
    (hdb : Ledgered db) (hfresh : call.draws.FreshReservations db.reservations)
    (hleak : db.NoLeak) (hplan : db.PlanBuilt (call.order svc)) : db'.NoLeak := by
  obtain ⟨plan, hsome⟩ := isSome_iff_exists.1 (h.planBuilt_iff.1 hplan)
  have hholds := h.holdsAfter hdb hfresh hsome
  refine noLeak_iff.2 fun hash r hhold => ?_
  by_cases hown : hash = call.hash svc
  · obtain ⟨token, amount, id, -, htaker⟩ := hholds.taker
    rw [hown] at hhold ⊢
    rw [htaker] at hhold
    split at hhold
    · next hrests => exact ⟨_, _, h.get?_taker hdb, h.hash_taker, hrests.2⟩
    · cases hhold
  by_cases hmaker : ∃ t ∈ optionTrades db.orders (call.order svc),
      t.maker.canonicalOrderHash = some hash
  · obtain ⟨t, ht, hhash⟩ := hmaker
    by_cases hrest : t.rest1e8 = 0
    · rw [hholds.consumed ht hrest hhash] at hhold
      cases hhold
    · exact ⟨_, _, h.get?_maker hdb ht, hhash, isLive_makerRow.2 hrest⟩
  · have hnot : ∀ t ∈ optionTrades db.orders (call.order svc),
        t.maker.canonicalOrderHash ≠ some hash := fun t ht hhash => hmaker ⟨t, ht, hhash⟩
    rw [hholds.others hown hnot] at hhold
    obtain ⟨id, o, ho, hhash, hlive⟩ := noLeak_iff.1 hleak hash r hhold
    refine ⟨id, o, h.get?_other hdb ho fun t ht heq => ?_, hhash, hlive⟩
    rw [heq, (of_mem_optionTrades hdb.filed ht).1] at ho
    cases ho
    exact hnot t ht hhash

/-- A submit that takes all of no maker that is held leaks nothing. -/
theorem Arrival.noLeak_of_none
    (hdb : Ledgered db) (hleak : db.NoLeak) (hplan : call.plan svc series = none)
    (hnone : ∀ maker, TakesAll db.orders (call.order svc) maker → ¬ db.Held maker) :
    db'.NoLeak := by
  refine noLeak_iff.2 fun hash r hhold => ?_
  rw [h.holds_same hplan] at hhold
  obtain ⟨id, o, ho, hhash, hlive⟩ := noLeak_iff.1 hleak hash r hhold
  by_cases hmaker : ∃ t ∈ optionTrades db.orders (call.order svc), id = t.maker.orderId
  · obtain ⟨t, ht, rfl⟩ := hmaker
    rw [(of_mem_optionTrades hdb.filed ht).1] at ho
    cases ho
    have hrest : t.rest1e8 ≠ 0 := fun hzero =>
      hnone t.maker (takesAll_iff.2 ⟨t, ht, rfl, hzero⟩) (held_iff.2 ⟨hash, r, hhash, hhold⟩)
    exact ⟨_, _, h.get?_maker hdb ht, hhash, isLive_makerRow.2 hrest⟩
  · exact ⟨id, o, h.get?_other hdb ho fun t ht heq => hmaker ⟨t, ht, heq⟩, hhash, hlive⟩

section

variable (hdb : Ledgered db) (hfresh : call.draws.FreshReservations db.reservations)
include hdb hfresh

/-- A submit without a plan that takes all of a maker that is held leaks its hold. -/
theorem Arrival.leaks (hplan : call.plan svc series = none) {maker : OptionOrder}
    (hall : TakesAll db.orders (call.order svc) maker) (hheld : db.Held maker) : ¬ db'.NoLeak := by
  intro hleak
  obtain ⟨t, ht, rfl, hrest⟩ := takesAll_iff.1 hall
  obtain ⟨hash, r, hhash, hhold⟩ := held_iff.1 hheld
  have hhold' : db'.Held (t.makerRow call.now) :=
    held_iff.2 ⟨hash, r, hhash, by rw [h.holds_same hplan, hhold]⟩
  have hlive := live_of_held (h.ledgered hdb hfresh) hleak (h.get?_maker hdb ht) hhold'
  exact isLive_makerRow.1 hlive hrest

theorem Arrival.noLeak_iff (hleak : db.NoLeak) : db'.NoLeak ↔ db.PlanBuilt (call.order svc) ∨
      ∀ maker, TakesAll db.orders (call.order svc) maker → ¬ db.Held maker := by
  by_cases hbuilt : db.PlanBuilt (call.order svc)
  · exact ⟨fun _ => .inl hbuilt, fun _ => h.noLeak_of_plan hdb hfresh hleak hbuilt⟩
  have hplan : call.plan svc series = none := not_isSome_iff_eq_none.1 (h.planBuilt_iff.not.1 hbuilt)
  constructor
  · intro hleak'
    exact .inr fun maker hall hheld => h.leaks hdb hfresh hplan hall hheld hleak'
  · rintro (hbuilt' | hnone)
    · exact absurd hbuilt' hbuilt
    · exact h.noLeak_of_none hdb hleak hplan hnone

end

end

/-! ### A cancel and the sweep -/

def SameNames (db db' : OptionTables) : Prop :=
  ∀ id, (db'.orders.get? id).map (fun o => (o.orderId, o.canonicalOrderHash)) =
    (db.orders.get? id).map fun o => (o.orderId, o.canonicalOrderHash)

theorem SameNames.before (h : SameNames db db') {id : OrderId}
    (ho : db'.orders.get? id = some o) : ∃ o', db.orders.get? id = some o' ∧
      o'.orderId = o.orderId ∧ o'.canonicalOrderHash = o.canonicalOrderHash := by
  have hmap := h id
  rw [ho, map_some] at hmap
  obtain ⟨o', ho', heq⟩ := map_eq_some_iff.1 hmap.symm
  exact ⟨o', ho', Prod.mk.inj heq⟩

theorem SameNames.symm (h : SameNames db db') : SameNames db' db := fun id => (h id).symm

/-- The books are kept by a change of the rows that leaves names and hashes alone, and
ends holds at most. -/
theorem Ledgered.of_sameNames (hdb : Ledgered db) (hsame : SameNames db db')
    (hledger : WellFormed db'.reservations)
    (hholds : ∀ hash r, activeHold db'.reservations hash = some r →
      activeHold db.reservations hash = some r) : Ledgered db' where
  filed := by
    intro id o ho
    obtain ⟨o', ho', hid, -⟩ := hsame.before ho
    rw [← hid, hdb.filed ho']
  hashes := by
    refine ⟨fun {i j v w k} hi hj hv hw => ?_⟩
    obtain ⟨v', hv', -, hvhash⟩ := hsame.before hi
    obtain ⟨w', hw', -, hwhash⟩ := hsame.before hj
    exact hdb.hashes.eq hv' hw' (hvhash.trans hv) (hwhash.trans hw)
  ledger := hledger
  owned := by
    intro hash r hhold
    obtain ⟨id, o, ho, hhash⟩ := hdb.owned (hholds hash r hhold)
    obtain ⟨o', ho', -, hhash'⟩ := hsame.symm.before ho
    exact ⟨id, o', ho', hhash'.trans hhash⟩

structure Cancelled (db : OptionTables) (orderId : OrderId) (order row : OptionOrder)
    (db' : OptionTables) : Prop where
  found : db.orders.get? orderId = some order
  /-- Its row names it as before. -/
  terms : row.terms = order.terms
  ended : row.status.isLive = false
  orders : db'.orders = db.orders.set orderId row
  wellFormed : WellFormed db'.reservations
  holds : ∀ hash, activeHold db'.reservations hash =
    if order.canonicalOrderHash = some hash then none else activeHold db.reservations hash

theorem release_inv (h : releaseOpenOrderReservationFor order reason now db = (.ok (), db'))
    (hledger : WellFormed db.reservations) : db'.orders = db.orders ∧ WellFormed db'.reservations ∧
      ∀ hash, activeHold db'.reservations hash =
        if order.canonicalOrderHash = some hash then none
        else activeHold db.reservations hash := by
  unfold releaseOpenOrderReservationFor at h
  cases hhash : order.canonicalOrderHash with
  | none =>
    simp only [hhash] at h
    cases h
    exact ⟨rfl, hledger, fun hash => rfl⟩
  | some hash =>
    simp only [hhash] at h
    obtain ⟨m', hm', rfl⟩ := zoomReservations_eq_ok.1 h
    obtain ⟨r, m'', hend, hw, -, -, hholds⟩ := endOpenOrder_ok hledger
      (by simp : OptionReservationStatus.released ≠ .active) reason hash now
    have hrun : releaseOpenOrderTx hash reason now db.reservations = (.ok r, m'') := hend
    rw [bind_of_ok hrun] at hm'
    cases hm'
    refine ⟨rfl, hw, fun hash' => ?_⟩
    rw [hholds]
    simp [eq_comm]

variable {orderId : OrderId}

theorem cancel_inv (hdb : Ledgered db)
    (h : svc.cancelOptionOrderAndRelease orderId now db = (.ok o, db')) :
    ∃ order, Cancelled db orderId order o db' := by
  obtain ⟨_, -, h⟩ := check_bind_eq_ok.1 h
  obtain ⟨row, db₂, hcancel, h⟩ := bind_eq_ok.1 h
  obtain ⟨_, db₃, hrelease, h⟩ := bind_eq_ok.1 h
  cases h
  unfold cancelOptionOrder at hcancel
  split at hcancel
  · cases hcancel
  next order hfound =>
    split at hcancel
    · cases hcancel
      obtain ⟨horders, hw, hholds⟩ := release_inv hrelease hdb.ledger
      exact ⟨order, hfound, rfl, rfl, horders, hw, hholds⟩
    · cases hcancel

theorem Cancelled.sameNames (h : Cancelled db orderId order row db') : SameNames db db' := by
  intro id
  rw [h.orders, get?_set]
  split
  · next hid =>
      rw [hid, h.found, map_some, map_some,
        congr_terms (fun o => (o.orderId, o.canonicalOrderHash)) h.terms]
  · rfl

theorem Cancelled.ledgered (hdb : Ledgered db) (h : Cancelled db orderId order row db') :
    Ledgered db' := by
  refine hdb.of_sameNames h.sameNames h.wellFormed fun hash r hhold => ?_
  rw [h.holds] at hhold
  split at hhold
  · cases hhold
  · exact hhold

theorem Cancelled.noLeak (h : Cancelled db orderId order row db') (hleak : db.NoLeak) :
    db'.NoLeak := by
  refine DeoptBackend.noLeak_iff.2 fun hash r hhold => ?_
  rw [h.holds] at hhold
  split at hhold
  · cases hhold
  next hother =>
    obtain ⟨id, o, ho, hhash, hlive⟩ := DeoptBackend.noLeak_iff.1 hleak hash r hhold
    refine ⟨id, o, ?_, hhash, hlive⟩
    have hid : id ≠ orderId := by
      rintro rfl
      rw [h.found] at ho
      cases ho
      exact hother hhash
    rw [h.orders, get?_set_ne _ hid, ho]

/-- The row the sweep leaves. -/
def swept (now : TimestampMs) (o : OptionOrder) : OptionOrder :=
  if o.due now then
    o.ended .expired TerminalReason.expired TerminalReason.sourceExpirySweep now
  else o

theorem sweep_inv (h : svc.sweepExpiredOptionOrders now db = (.ok expired, db')) :
    (∀ id, db'.orders.get? id = (db.orders.get? id).map (swept now)) ∧
      db'.reservations = db.reservations := by
  obtain ⟨_, -, h⟩ := check_bind_eq_ok.1 h
  cases h
  exact ⟨fun id => get?_mapVals _ _ _, rfl⟩

theorem terms_swept (o : OptionOrder) : (swept now o).terms = o.terms := by
  unfold swept
  split <;> rfl

theorem sameNames_sweep (hrows : ∀ id, db'.orders.get? id = (db.orders.get? id).map (swept now)) :
    SameNames db db' := by
  intro id
  rw [hrows, map_map]
  exact congrArg (Option.map · _) (funext fun o =>
    congr_terms (fun o => (o.orderId, o.canonicalOrderHash)) (terms_swept o))

theorem ledgered_sweep (hdb : Ledgered db)
    (hrows : ∀ id, db'.orders.get? id = (db.orders.get? id).map (swept now))
    (hsame : db'.reservations = db.reservations) : Ledgered db' := by
  refine hdb.of_sameNames (sameNames_sweep hrows) (by rw [hsame]; exact hdb.ledger) ?_
  intro hash r hhold
  rwa [hsame] at hhold

/-- **The sweep leaks the hold of every order it ends.** -/
theorem noLeak_sweep_iff (hdb : Ledgered db) (hleak : db.NoLeak)
    (hrows : ∀ id, db'.orders.get? id = (db.orders.get? id).map (swept now))
    (hsame : db'.reservations = db.reservations) :
    db'.NoLeak ↔ ∀ id o, db.orders.get? id = some o → o.due now = true → ¬ db.Held o := by
  constructor
  · intro hleak' id o ho hdue hheld
    obtain ⟨hash, r, hhash, hhold⟩ := held_iff.1 hheld
    have hrow : db'.orders.get? id = some (swept now o) := by rw [hrows, ho, map_some]
    have hheld' : db'.Held (swept now o) := by
      refine held_iff.2 ⟨hash, r, ?_, by rw [hsame, hhold]⟩
      exact (congr_terms (·.canonicalOrderHash)
        (terms_swept o)).trans hhash
    have hlive := live_of_held (ledgered_sweep hdb hrows hsame) hleak' hrow hheld'
    rw [swept, if_pos hdue] at hlive
    cases hlive
  · intro hnone
    refine DeoptBackend.noLeak_iff.2 fun hash r hhold => ?_
    rw [hsame] at hhold
    obtain ⟨id, o, ho, hhash, hlive⟩ := DeoptBackend.noLeak_iff.1 hleak hash r hhold
    have hnot : ¬ o.due now = true := fun hdue =>
      hnone id o ho hdue (held_iff.2 ⟨hash, r, hhash, hhold⟩)
    refine ⟨id, o, ?_, hhash, hlive⟩
    rw [hrows, ho, map_some, swept, if_neg hnot]

/-! ### Runs -/

variable {request : OptionRequest}

/-- One request, from books that are kept. -/
theorem OptionRequest.Step.ledgered (hdb : Ledgered db) (h : request.Step svc db db') :
    Ledgered db' ∧ (db.NoLeak → (db'.NoLeak ↔ request.EndsHolds svc db)) := by
  cases request with
  | submit =>
    obtain ⟨series, taker, fills, harrival⟩ := OptionSubmit.Step.arrival hdb h
    exact ⟨harrival.ledgered hdb h.1, harrival.noLeak_iff hdb h.1⟩
  | cancel =>
    obtain ⟨o, hok⟩ := h
    obtain ⟨order, hcancelled⟩ := cancel_inv hdb hok
    exact ⟨hcancelled.ledgered hdb, fun hleak => ⟨fun _ => trivial, fun _ => hcancelled.noLeak hleak⟩⟩
  | sweep =>
    obtain ⟨expired, hok⟩ := h
    obtain ⟨hrows, hsame⟩ := sweep_inv hok
    exact ⟨ledgered_sweep hdb hrows hsame, fun hleak => noLeak_sweep_iff hdb hleak hrows hsame⟩

/-- A request that succeeds and ends the holds it has to. -/
def OptionRequest.CleanStep (svc : OptionsService) (db : OptionTables) (request : OptionRequest)
    (db' : OptionTables) : Prop :=
  request.Step svc db db' ∧ request.EndsHolds svc db

/-- **Nothing leaks as long as requests end the holds of the orders they end, and no
longer.**  In every run of such requests every state is free of leaks, and the first
request that is not one leads to a state that is not. -/
theorem no_leaked_holds (svc : OptionsService) (start : FMap OptionSeriesId OptionSeries)
    (requests : List OptionRequest) (db : OptionTables)
    (hrun : Run (fun db request db' => OptionRequest.CleanStep svc db request db') (.start start)
      requests db) :
    db.NoLeak ∧ ∀ request db', OptionRequest.Step svc db request db' →
      (db'.NoLeak ↔ request.EndsHolds svc db) := by
  have hinv : Ledgered db ∧ db.NoLeak := by
    refine hrun.invariant (P := fun db => Ledgered db ∧ db.NoLeak)
      ⟨ledgered_start start, fun id r hash hr => ?_⟩ ?_
    · cases hr
    · rintro db request db' ⟨hdb, hleak⟩ ⟨hstep, hclean⟩
      obtain ⟨hdb', hiff⟩ := hstep.ledgered hdb
      exact ⟨hdb', (hiff hleak).2 hclean⟩
  exact ⟨hinv.2, fun request db' hstep => (hstep.ledgered hinv.1).2 hinv.2⟩

end

namespace HeldBook

/-- Five are offered, until the time 10. -/
def lapsing : OptionSubmit := ⟨input seller .sell 5 (some 10), ⟨1⟩, draws 0, 0, 0, 0⟩

/-- The tables after that offer. -/
def lapsed : OptionTables := (lapsing.act svc (.start series)).2

/-- **An order that lapses keeps its hold.** -/
theorem lapsed_order_held : ∃ requests db,
    Run (fun db request db' => OptionRequest.Step svc db request db') (.start series) requests db ∧
      ¬ db.NoLeak := by
  have hask : OptionRequest.Step svc (.start series) (.submit lapsing) lapsed :=
    ⟨freshReservations_draws fun _ _ => rfl, exists_ok (by decide +kernel)⟩
  have hsweep : OptionRequest.Step svc lapsed (.sweep 20)
      (svc.sweepExpiredOptionOrders 20 lapsed).2 := exists_ok (by decide +kernel)
  refine ⟨_, _, (Run.start.snoc hask).snoc hsweep, fun hleak => ?_⟩
  have hheld : ((svc.sweepExpiredOptionOrders 20 lapsed).2.reservations.get? 0).bind
      OptionReservation.openOrderIndex = some seller.name := by decide +kernel
  obtain ⟨r, hr, hindex⟩ := bind_eq_some_iff.1 hheld
  obtain ⟨id, o, ho, -, hlive⟩ := hleak 0 r seller.name hr hindex
  have hdead : ∀ o ∈ (svc.sweepExpiredOptionOrders 20 lapsed).2.orders.vals,
      o.status.isLive = false := by decide +kernel
  rw [hdead o (mem_vals.2 ⟨id, ho⟩)] at hlive
  cases hlive

/-- An offer that is taken back: its hold is released. -/
theorem no_leaked_holds_cancel : (svc.cancelOptionOrderAndRelease ⟨1⟩ 2 offered).2.NoLeak ∧
      ((svc.cancelOptionOrderAndRelease ⟨1⟩ 2 offered).2.reservations.get? 0).map (·.status) =
        some .released := by
  have hask : OptionRequest.CleanStep svc (.start series) (.submit ask) offered :=
    ⟨step_ask, .inl ⟨rfl, _, rfl, by decide +kernel⟩⟩
  have hcancel : OptionRequest.CleanStep svc offered (.cancel ⟨1⟩ 2)
      (svc.cancelOptionOrderAndRelease ⟨1⟩ 2 offered).2 :=
    ⟨exists_ok (by decide +kernel), trivial⟩
  have hclean := no_leaked_holds svc series _ _ ((Run.start.snoc hask).snoc hcancel)
  exact ⟨hclean.1, by decide +kernel⟩

end HeldBook

/-! ## Over the life of a maker -/

theorem ceilQuotient_bounds (n : Nat) (hd : 0 < d) :
    n ≤ ceilQuotient n d * d ∧ ceilQuotient n d * d < n + d := by
  have hdiv := Nat.div_add_mod' n d
  have hmod := Nat.mod_lt n hd
  unfold ceilQuotient
  split
  · omega
  · rw [Nat.add_mul]
    omega

/-- Every formula rounds a multiple of the size up. -/
theorem holdAmount_bounds (series : OptionSeries) (side : Side) (price1e8 : Nat) :
    ∃ factor scale, 0 < scale ∧ ∀ {size1e8 amount},
      holdAmount series side price1e8 size1e8 = .ok amount →
        size1e8 * factor ≤ amount * scale ∧ amount * scale < size1e8 * factor + scale := by
  have hdiv : ∀ {n d amount}, 0 < d → ceilDivByU128 n d = .ok amount →
      n ≤ amount * d ∧ amount * d < n + d := by
    intro n d amount hd h
    unfold ceilDivByU128 at h
    split_ifs at h
    cases h
    exact ceilQuotient_bounds n hd
  have hwide : ∀ {e size1e8 contract1e8 factor1e8 amount},
      wideReservation e size1e8 contract1e8 factor1e8 = .ok amount →
        size1e8 * (contract1e8 * factor1e8) ≤ amount * scale1e16 ∧
          amount * scale1e16 < size1e8 * (contract1e8 * factor1e8) + scale1e16 := by
    intro e size1e8 contract1e8 factor1e8 amount h
    unfold wideReservation checkedFormula ceilDivWideByScale at h
    split_ifs at h
    rw [← Nat.mul_assoc]
    exact hdiv (by decide) h
  unfold holdAmount
  cases side with
  | buy => exact ⟨_, scale1e16, by decide, hwide⟩
  | sell =>
    cases series.isCall with
    | false => exact ⟨_, scale1e16, by decide, hwide⟩
    | true =>
      refine ⟨series.contractSize1e8, scale1e8, by decide, fun {size1e8 amount} h => ?_⟩
      change shortCallReservationPhysical size1e8 series.contractSize1e8 = .ok amount at h
      unfold shortCallReservationPhysical checkedFormula at h
      split_ifs at h
      exact hdiv (by decide) h

/-- What the holds of a fill take from its maker. -/
def makerPending (side : Side)
    (pair : PendingSettlementReservationInput × PendingSettlementReservationInput) : Nat :=
  match side with
  | .buy => pair.1.reservedAmount
  | .sell => pair.2.reservedAmount

section

variable {svc : OptionsService} {maker : OptionOrder}

/-- A fill of the maker takes what an order of its size would. -/
theorem holdAmount_of_pending (hprice : fill.price1e8 = maker.price1e8)
    (h : (svc.scaffoldOf series).buildPendingPair fill now = .ok pair) :
    holdAmount series maker.side maker.price1e8 fill.size1e8 = .ok (makerPending maker.side pair) := by
  unfold PendingSettlementScaffold.buildPendingPair at h
  split at h
  · cases h
  obtain ⟨buyerAmount, hbuyer, h⟩ := Except.bind_eq_ok.1 h
  obtain ⟨sellerAmount, hseller, h⟩ := Except.bind_eq_ok.1 h
  cases h
  cases maker.side with
  | buy =>
    rw [← hprice]
    exact hbuyer
  | sell => exact hseller

/-- **A maker's holds add up.**  Whatever fills a resting order gets, what they hold of its
collateral and what is held for the rest is at least what was held for the whole order, and more
by at most one unit a fill. -/
theorem maker_holds_add_up {token : String} {reserved residual : Nat} (fills : List OptionFill)
    (held : OptionFill → Nat) (row : OptionOrder)
    (hopen : deriveTakerReservationInputs series maker = some (token, reserved))
    (hfills : ∀ f ∈ fills, ∃ executionIdOf domain incoming row now fillId, row.terms = maker.terms ∧
      f = optionFillFromMatch executionIdOf domain incoming row f.size1e8 now fillId)
    (hheld : ∀ f ∈ fills, ∃ now pair, (svc.scaffoldOf series).buildPendingPair f now = .ok pair ∧
      makerPending maker.side pair = held f)
    (hrow : row.terms = maker.terms)
    (hleft : (fills.map (·.size1e8)).sum + row.remainingSize1e8 = maker.size1e8)
    (hresidual : row.remainingSize1e8 = 0 ∧ residual = 0 ∨
      ∃ input, (svc.scaffoldOf series).buildMakerResidualOpenOrderInput row now = .ok input ∧
        input.reservedAmount = residual) :
    reserved ≤ (fills.map held).sum + residual ∧
      (fills.map held).sum + residual ≤ reserved + fills.length := by
  obtain ⟨factor, scale, hscale, hbounds⟩ := holdAmount_bounds series maker.side maker.price1e8
  have hwhole := hbounds (holdAmount_of_derive hopen)
  have hparts : ((fills.map (·.size1e8)).sum * factor ≤ (fills.map held).sum * scale) ∧
      (fills.map held).sum * scale + fills.length ≤
        (fills.map (·.size1e8)).sum * factor + fills.length * scale := by
    clear hleft
    induction fills with
    | nil => simp
    | cons f fills ih =>
      obtain ⟨ih₁, ih₂⟩ := ih (fun g hg => hfills g (List.mem_cons_of_mem _ hg))
        fun g hg => hheld g (List.mem_cons_of_mem _ hg)
      obtain ⟨executionIdOf, domain, incoming, r, t, fillId, hr, hf⟩ :=
        hfills f List.mem_cons_self
      obtain ⟨t', pair, hpair, hamount⟩ := hheld f List.mem_cons_self
      have hprice : f.price1e8 = maker.price1e8 := by
        rw [hf, ← congr_terms (·.price1e8) hr]
        rfl
      have hone := hbounds (holdAmount_of_pending hprice hpair)
      rw [hamount] at hone
      simp only [List.map_cons, List.sum_cons, List.length_cons, Nat.add_mul]
      omega
  have hrest : row.remainingSize1e8 * factor ≤ residual * scale ∧
      residual * scale < row.remainingSize1e8 * factor + scale := by
    rcases hresidual with ⟨hzero, rfl⟩ | ⟨input, hinput, rfl⟩
    · rw [hzero]
      omega
    · have hamount := (residual_spec hinput).2
      rw [congr_terms (·.side) hrow, congr_terms (·.price1e8) hrow] at hamount
      exact hbounds hamount
  rw [← hleft, Nat.add_mul] at hwhole
  constructor
  · refine Nat.lt_succ_iff.1 (Nat.lt_of_mul_lt_mul_right (a := scale) ?_)
    rw [Nat.succ_mul, Nat.add_mul]
    omega
  · refine Nat.lt_succ_iff.1 (Nat.lt_of_mul_lt_mul_right (a := scale) ?_)
    rw [Nat.succ_mul, Nat.add_mul, Nat.add_mul]
    omega

end

namespace HeldBook

def calls : OptionSeries := ⟨"ETH-C", "ETH", "USDC", 100, 300000000000, true, 100000000, .active⟩

def offer : OptionOrder := svc.newOptionOrder (input seller .sell 5 none) ⟨1⟩ 0

/-- Two of them are bought. -/
def taken : OptionFill :=
  optionFillFromMatch svc.executionIdOf .constantTestDomain
    (svc.newOptionOrder (input buyer .buy 2 none) ⟨2⟩ 1) offer 2 1 9

/-- Five are held for the whole, two for the fill and three for the rest. -/
theorem maker_holds_add_up_two_of_five :
    deriveTakerReservationInputs calls offer = some ("ETH", 5) ∧
      (∃ pair, (svc.scaffoldOf calls).buildPendingPair taken 1 = .ok pair ∧
        makerPending .sell pair = 2) ∧
      (∃ rest, (svc.scaffoldOf calls).buildMakerResidualOpenOrderInput
        (offer.restated 3 .partiallyFilled 1) 1 = .ok rest ∧ rest.reservedAmount = 3) ∧
      5 ≤ [2].sum + 3 ∧ [2].sum + 3 ≤ 5 + 1 := by
  obtain ⟨pair, _, hpair, hheld⟩ := ok_of_map
    (r := ((svc.scaffoldOf calls).buildPendingPair taken 1, ())) (makerPending .sell) (b := 2)
    (by decide +kernel)
  obtain ⟨rest, _, hrest, hamount⟩ := ok_of_map
    (r := ((svc.scaffoldOf calls).buildMakerResidualOpenOrderInput
      (offer.restated 3 .partiallyFilled 1) 1, ())) (·.reservedAmount) (b := 3) (by decide +kernel)
  have hopen : deriveTakerReservationInputs calls offer = some ("ETH", 5) := by decide +kernel
  refine ⟨hopen, ⟨pair, (Prod.mk.inj hpair).1, hheld⟩, ⟨rest, (Prod.mk.inj hrest).1, hamount⟩,
    maker_holds_add_up [taken] (fun _ => 2) (offer.restated 3 .partiallyFilled 1) hopen
      (fun f hf => ?_) (fun f hf => ?_) rfl rfl (.inr ⟨rest, (Prod.mk.inj hrest).1, hamount⟩)⟩
  · obtain rfl := List.mem_singleton.1 hf
    exact ⟨_, _, _, _, _, _, rfl, rfl⟩
  · obtain rfl := List.mem_singleton.1 hf
    exact ⟨1, pair, (Prod.mk.inj hpair).1, hheld⟩

end HeldBook

end DeoptBackend
