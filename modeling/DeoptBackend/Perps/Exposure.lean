import DeoptBackend.Perps.Ledger

/-!
# Exposure: who holds what after a trade

A fill has two sides, and each is applied to a position of its own.  This module
follows the signed sizes: long positions count up, short ones down.

* `Moves` — what one fill does to the signed sizes: the taker's goes one way, the
  maker's the other, and the net exposure of every market stays.
* `submit_zero_sum` — every accepted submit is a sequence of such fills, and what
  it writes adds up; a refused one writes nothing.  Sizes are added with
  saturation, so this needs room: a position that is full takes a fill that does
  not move it (`full_position_breaks_zero_sum`).
* `ReducesOnly` — a position that got smaller or was closed;
  `reduce_only_fills_reduce` — the fills of a reduce-only order do nothing else,
  on either side, in any run.
-/

namespace DeoptBackend

open PerpPositionsStore PositionTable List Option PerpSide Holding PerpOrderStore Act

open PerpPositionsStore (fillKey)
open PerpStores (onOrders)

/-! ## Signed sizes -/

def Holding.signed (h : Holding) : Int := h.side.sign * h.size1e8

def PerpFillInput.signed (fill : PerpFillInput) : Int := fill.side.sign * fill.size1e8

/-- The signed size of a position; an ended one has none. -/
def PerpPosition.exposure (p : PerpPosition) : Int :=
  if p.status = .open then p.side.sign * p.size1e8 else 0

/-- What is open in a market, long against short. -/
def netExposure (marketId : String) (s : PerpPositionsStore) : Int :=
  s.byId.sumBy fun p => if p.marketId = marketId then p.exposure else 0

variable (lower : String → String)

/-- The signed size open under a key. -/
def signedAt (s : PerpPositionsStore) (key : IndexKey) : Int :=
  (s.openAt lower key).elim 0 PerpPosition.exposure

def PerpFill.takerKey (f : PerpFill) : IndexKey :=
  indexKey lower f.takerAccount f.takerSubaccountId f.marketId

def PerpFill.makerKey (f : PerpFill) : IndexKey :=
  indexKey lower f.makerAccount f.makerSubaccountId f.marketId

/-- What a fill adds to the taker's signed size, and takes from the maker's. -/
def PerpFill.signed (f : PerpFill) : Int := f.takerSide.positionSide.sign * f.size1e8

/-- **What one fill does**: the taker's signed size moves by the size of the fill,
the maker's by the opposite, and nothing else that is open is touched. -/
structure Moves (lower : String → String) (f : PerpFill) (s s' : PerpPositionsStore) : Prop where
  /-- The two signed sizes move against each other. -/
  moved : ∀ key, signedAt lower s' key = signedAt lower s key +
    (if key = f.takerKey lower then f.signed else 0) -
    (if key = f.makerKey lower then f.signed else 0)
  /-- No other position changes. -/
  kept : ∀ key, key ≠ f.takerKey lower → key ≠ f.makerKey lower →
    s'.openAt lower key = s.openAt lower key
  net : ∀ marketId, netExposure marketId s' = netExposure marketId s

variable {lower : String → String}

theorem PerpPosition.exposure_of_open {p : PerpPosition} (h : p.status = .open) :
    p.exposure = p.holding.signed := by
  rw [exposure, if_pos h]
  rfl

theorem signedAt_eq (lower : String → String) (s : PerpPositionsStore) (key : IndexKey) :
    signedAt lower s key = (s.holdingAt lower key).elim 0 signed := by
  rw [signedAt, PerpPositionsStore.holdingAt]
  cases hp : s.openAt lower key with
  | none => rfl
  | some => exact PerpPosition.exposure_of_open (openAt_spec hp).1

/-- **A fill moves a holding by its signed size**, if the result is a machine
word. -/
theorem Holding.Takes.signed (h : Takes market fill x new)
    (hfits : (x.elim 0 Holding.signed + fill.signed).natAbs ≤ maxU128) :
    new.elim 0 Holding.signed = x.elim 0 Holding.signed + fill.signed := by
  cases h with
  | opened => simp [Holding.signed, PerpFillInput.signed, ofFill]
  | @increased old hside _ _ =>
    simp only [elim_some, Holding.signed, PerpFillInput.signed, hside] at hfits ⊢
    have hadd : old.size1e8 + fill.size1e8 ≤ maxU128 := by
      cases hd : fill.side <;> simp only [hd, PerpSide.sign] at hfits <;> omega
    have hsize : (old.increased fill).size1e8 = old.size1e8 + fill.size1e8 := Saturating.add_eq hadd
    have hsame : (old.increased fill).side = fill.side := hside
    rw [hsize, hsame]
    push_cast
    ring
  | @reduced old hside hlt =>
    have hopp : old.side = fill.side.opposite := ne_iff_eq_opposite.1 hside
    simp only [elim_some, Holding.signed, PerpFillInput.signed, Holding.reduced, hopp,
      sign_opposite]
    rw [Int.ofNat_sub hlt.le]
    ring
  | @closed old hside heq =>
    have hopp : old.side = fill.side.opposite := ne_iff_eq_opposite.1 hside
    simp only [elim_some, elim_none, Holding.signed, PerpFillInput.signed, hopp,
      sign_opposite, heq]
    ring

theorem netExposure_eq (marketId : String) (s : PerpPositionsStore) :
    netExposure marketId s = s.marketTotal signed marketId := by
  unfold netExposure marketTotal
  congr 1
  funext p
  by_cases hopen : p.status = .open <;>
    simp [PerpPosition.exposure, hopen, signed, PerpPosition.holding]

theorem PerpPositionsStore.Filled.signed (h : Filled lower market fill draw s s')
    (hfits : (signedAt lower s (fillKey lower fill) + fill.signed).natAbs ≤ maxU128) :
    (∀ key, signedAt lower s' key =
      signedAt lower s key + if key = fillKey lower fill then fill.signed else 0) ∧
    (∀ key, key ≠ fillKey lower fill → s'.openAt lower key = s.openAt lower key) ∧
    ∀ marketId, netExposure marketId s' =
      netExposure marketId s + if fill.marketId = marketId then fill.signed else 0 := by
  obtain ⟨new, row, hok, hat, hw⟩ := h.spec
  obtain ⟨-, -, -, htakes⟩ := applyChecked_eq_ok.1 hok
  have hself : signedAt lower s' (fillKey lower fill) =
      signedAt lower s (fillKey lower fill) + fill.signed := by
    rw [signedAt_eq] at hfits ⊢
    rw [signedAt_eq, hat, Function.update_self]
    exact htakes.signed hfits
  have hkept : ∀ key, key ≠ fillKey lower fill → s'.openAt lower key = s.openAt lower key := by
    intro key hne
    rw [hw.openAt_eq, if_neg hne]
  refine ⟨fun key => ?_, hkept, fun marketId => ?_⟩
  · split
    · next hkey => rw [hkey, hself]
    · next hne => rw [signedAt, hkept key hne, add_zero, signedAt]
  -- only the row under the key of the fill changes in the total
  have htotal := hw.marketTotal_eq Holding.signed marketId
  rw [← netExposure_eq, ← netExposure_eq, ← signedAt_eq, ← signedAt_eq, hself] at htotal
  have hkey : (fillKey lower fill).2.2 = fill.marketId := rfl
  rw [hkey] at htotal
  split at htotal
  · next hm => rw [if_pos hm]; linarith
  · next hm => rw [if_neg hm]; linarith

/-! ## Trades -/

/-- Every signed size in a market can still move by `n`. -/
def Room (lower : String → String) (marketId : String) (n : Nat) (s : PerpPositionsStore) : Prop :=
  ∀ key : IndexKey, key.2.2 = marketId → (signedAt lower s key).natAbs + n ≤ maxU128

section

variable {s s' : PerpStores}

section

variable (order : PerpOrder) (t : Trade) (id : Uuid) (now : TimestampMs)

theorem signed_takerFillInput :
    (takerFillInput order t.plan).signed = (fillRecord order t.maker t.plan id now).signed := rfl

theorem signed_makerFillInput : (makerFillInput order t.maker t.plan).signed =
      -(fillRecord order t.maker t.plan id now).signed := by
  simp only [PerpFillInput.signed, makerFillInput, PerpFill.signed, fillRecord,
    PerpOrderSide.positionSide_opposite, sign_opposite]
  ring

theorem natAbs_signed : (fillRecord order t.maker t.plan id now).signed.natAbs = t.size1e8 := by
  have hsize : (fillRecord order t.maker t.plan id now).size1e8 = t.size1e8 := rfl
  rw [PerpFill.signed, hsize]
  cases (fillRecord order t.maker t.plan id now).takerSide.positionSide <;>
    simp [PerpSide.sign]

end

/-- **A round of the commit loop moves the two sides against each other.** -/
theorem Committed.moves (h : Committed lower market order now d t s s')
    (hroom : Room lower order.marketId n s.positions) (hle : t.size1e8 ≤ n) :
    Moves lower (fillRecord order t.maker t.plan d.fillId now) s.positions s'.positions ∧
      Room lower order.marketId (n - t.size1e8) s'.positions := by
  obtain ⟨mid, htaker, hmaker⟩ := h.positions
  set f := fillRecord order t.maker t.plan d.fillId now with hf
  have habs : f.signed.natAbs = t.size1e8 := natAbs_signed ..
  have hkeyT : fillKey lower (takerFillInput order t.plan) = f.takerKey lower := rfl
  have hkeyM : fillKey lower (makerFillInput order t.maker t.plan) = f.makerKey lower := rfl
  obtain ⟨hmoveT, hkeptT, hnetT⟩ := htaker.signed (by
    rw [signed_takerFillInput order t d.fillId now, ← hf, hkeyT]
    have := hroom (f.takerKey lower) rfl
    omega)
  rw [signed_takerFillInput order t d.fillId now, ← hf, hkeyT] at hmoveT
  -- on the taker's own key the maker's half takes back what the taker's half gave
  obtain ⟨hmoveM, hkeptM, hnetM⟩ := hmaker.signed (by
    rw [signed_makerFillInput order t d.fillId now, ← hf, hkeyM, hmoveT]
    have := hroom (f.makerKey lower) rfl
    split <;> omega)
  rw [signed_makerFillInput order t d.fillId now, ← hf, hkeyM] at hmoveM
  have hmoved : ∀ key, signedAt lower s'.positions key = signedAt lower s.positions key +
      (if key = f.takerKey lower then f.signed else 0) -
      (if key = f.makerKey lower then f.signed else 0) := by
    intro key
    rw [hmoveM, hmoveT]
    split <;> split <;> ring
  refine ⟨⟨hmoved, fun key hT hM => ?_, fun marketId => ?_⟩, fun key hkey => ?_⟩
  · rw [hkeptM key hM, hkeptT key hT]
  · rw [hnetM, hnetT, signed_makerFillInput order t d.fillId now,
      signed_takerFillInput order t d.fillId now]
    have hmT : (takerFillInput order t.plan).marketId = order.marketId := rfl
    have hmM : (makerFillInput order t.maker t.plan).marketId = order.marketId := rfl
    rw [hmT, hmM]
    split <;> ring
  · have := hroom key hkey
    rw [hmoved]
    split <;> split <;> omega

/-- After some rounds there is room for the rest. -/
theorem Commits.room (h : Commits lower market order draws i trades s s')
    (hroom : Room lower order.marketId n s.positions) (hle : Trade.total trades ≤ n) :
    Room lower order.marketId (n - Trade.total trades) s'.positions := by
  induction h generalizing n with
  | done => exact hroom
  | next hc _ ih =>
    rw [Trade.total_cons] at hle ⊢
    rw [← Nat.sub_sub]
    exact ih (hc.moves hroom (by omega)).2 (by omega)

/-- The rounds keep the net exposure of every market. -/
theorem Commits.net (h : Commits lower market order draws i trades s s')
    (hroom : Room lower order.marketId n s.positions) (hle : Trade.total trades ≤ n)
    (marketId : String) : netExposure marketId s'.positions = netExposure marketId s.positions := by
  induction h generalizing n with
  | done => rfl
  | next hc _ ih =>
    rw [Trade.total_cons] at hle
    obtain ⟨hmoves, hroom'⟩ := hc.moves hroom (by omega)
    rw [ih hroom' (by omega), hmoves.net]

/-- What no trade is about stays open as it was. -/
theorem Commits.kept (h : Commits lower market order draws i trades s s')
    (hroom : Room lower order.marketId n s.positions) (hle : Trade.total trades ≤ n)
    (hkey : ∀ f ∈ fillRecords order draws i trades, key ≠ f.takerKey lower ∧ key ≠ f.makerKey lower)
    : s'.positions.openAt lower key = s.positions.openAt lower key := by
  induction h generalizing n with
  | done => rfl
  | next hc _ ih =>
    rw [Trade.total_cons] at hle
    obtain ⟨hmoves, hroom'⟩ := hc.moves hroom (by omega)
    obtain ⟨hT, hM⟩ := hkey _ mem_cons_self
    rw [ih hroom' (by omega) fun f hf => hkey f (mem_cons_of_mem _ hf)]
    exact hmoves.kept key hT hM

section

variable (order : PerpOrder) (draws : SubmitDraws) (i : Nat)

theorem fillRecords_length (trades : List Trade) :
    (fillRecords order draws i trades).length = trades.length := by
  induction trades generalizing i with
  | nil => rfl
  | cons t ts ih => rw [fillRecords, length_cons, length_cons, ih]

theorem fillRecords_append (ts us : List Trade) : fillRecords order draws i (ts ++ us) =
      fillRecords order draws i ts ++ fillRecords order draws (i + ts.length) us := by
  induction ts generalizing i with
  | nil => rfl
  | cons t ts ih =>
    rw [cons_append, fillRecords, fillRecords, ih, length_cons, cons_append,
      Nat.add_assoc, Nat.add_comm 1]

theorem sum_fillRecords (trades : List Trade) :
    ((fillRecords order draws i trades).map (·.size1e8)).sum = Trade.total trades := by
  induction trades generalizing i with
  | nil => rfl
  | cons t ts ih =>
    rw [fillRecords, map_cons, sum_cons, ih, Trade.total_cons]
    rfl

end

end

/-! ## Zero-sum submits -/

/-- **An accepted submit is zero-sum**, and what it writes adds up. -/
structure ZeroSum (lower : String → String) (market : PerpsReadMarket) (draws : SubmitDraws)
    (order : PerpOrder) (s : PerpStores) (out : SubmitPerpOrderOutcome) (s' : PerpStores) :
    Prop where
  net : ∀ marketId, netExposure marketId s'.positions = netExposure marketId s.positions
  /-- Each fill moves the taker one way and the maker the other: `a` and `b` are the
  stores before and after its round of the commit loop. -/
  eachFill : ∀ i f, out.fills[i]? = some f → ∃ plan a b,
    AtFill lower market order draws (s.withOrders (s.orders.inserted lower order)) i plan a ∧
      commitFill lower market order draws.now (draws.fills i) plan a = (.ok f, b) ∧
      Moves lower f a.positions b.positions
  /-- No other position changes. -/
  kept : ∀ key, (∀ f ∈ out.fills, key ≠ f.takerKey lower ∧ key ≠ f.makerKey lower) →
    s'.positions.openAt lower key = s.positions.openAt lower key
  filled : (out.fills.map (·.size1e8)).sum = out.order.filledSize1e8
  /-- In every row what is filled and what is left make the size. -/
  balanced : ∀ id o, s'.orders.get id = some o → o.filledSize1e8 + o.remainingSize1e8 = o.size1e8
  /-- At most one position is open under each key, and the index finds it. -/
  wellFormed : s'.positions.WellFormed lower

variable {input : SubmitPerpOrderInput}

section

variable {s s' : PerpStores}

/-- There is room for a submit when no open position of its market would overflow
by its whole size. -/
theorem room_of_positions (hs : s.positions.WellFormed lower) (hfits : input.size1e8 ≤ maxU128)
    (hroom : ∀ p ∈ openRows s.positions.byId, p.marketId = input.marketId →
      p.size1e8 + input.size1e8 ≤ maxU128) :
    Room lower input.marketId input.size1e8 s.positions := by
  intro key hkey
  rw [signedAt]
  cases hp : s.positions.openAt lower key with
  | none => simpa using hfits
  | some p =>
    obtain ⟨hopen, hpk⟩ := openAt_spec hp
    have hmarket : p.marketId = input.marketId := by rw [← hkey, ← hpk]; rfl
    have hsize := hroom p (hs.rows.openAt_eq_some_iff.1 hp).1 hmarket
    rw [elim_some, PerpPosition.exposure, if_pos hopen]
    cases p.side <;> simpa [PerpSide.sign] using hsize

theorem Submitted.eachFill (h : Submitted lower cfg draws oracleRead input market s out s')
    (hs : s.WellFormed lower) (hd : draws.Fresh s)
    (hroom : Room lower input.marketId input.size1e8 s.positions) (hf : out.fills[i]? = some f) :
    ∃ plan a b, AtFill lower market (input.row draws) draws
          (s.withOrders (s.orders.inserted lower (input.row draws))) i plan a ∧
        commitFill lower market (input.row draws) draws.now (draws.fills i) plan a = (.ok f, b) ∧
        Moves lower f a.positions b.positions := by
  have hready : Ready lower draws 0 (tradesFor s.orders (input.row draws)) _ := hs.ready hd rfl
  have hall := h.admitted.trades
  have hplan : planFills (s.orders.inserted lower (input.row draws)) (input.row draws) = _ :=
    planFills_inserted lower hd.order
  have htotal : Trade.total (tradesFor s.orders (input.row draws)) ≤ input.size1e8 :=
    total_tradesFrom_le _ _ _
  have hfills : out.fills = fillRecords (input.row draws) draws 0
      (tradesFor s.orders (input.row draws)) := by rw [h.outcome]
  generalize tradesFor s.orders (input.row draws) = trades at *
  have hi : i < trades.length := by
    rw [← fillRecords_length (input.row draws) draws 0, ← hfills]
    exact (List.getElem?_eq_some_iff.1 hf).1
  -- cut the trades at the `i`-th
  obtain ⟨before, t, after, rfl, rfl⟩ : ∃ before t after, trades = before ++ t :: after ∧
      before.length = i :=
    ⟨trades.take i, trades[i], trades.drop (i + 1), by simp, by simp; omega⟩
  have hf : fillRecord (input.row draws) t.maker t.plan (draws.fills before.length).fillId
      draws.now = f := by
    rw [hfills, fillRecords_append, List.getElem?_append_right (by simp [fillRecords_length]),
      fillRecords_length, Nat.sub_self, Nat.zero_add, fillRecords] at hf
    exact some.inj hf
  obtain ⟨mid, hbefore, hrest⟩ := tradeAll_append_eq_ok.1 hall
  obtain ⟨next, ht, -⟩ := tradeAll_cons_eq_ok.1 hrest
  obtain ⟨_, a, hrun, rfl, hcommits, rfl⟩ :=
    (commitFills_spec hready.sublist_left (input.row draws).size1e8).ok hbefore
  have hready' := hready.commits hcommits
  rw [Nat.zero_add] at hready'
  obtain ⟨htaker, hmaker, hne⟩ := hready'.undrawn.drawn
  obtain ⟨_, b, hround, rfl, hcommitted, -⟩ := (commitFill_spec hready'.positions
    (hready'.planned.rows t mem_cons_self) htaker hmaker hne).ok ht
  have hsum : Trade.total before + (t.size1e8 + Trade.total after) ≤ input.size1e8 := by
    rw [Trade.total, map_append, sum_append] at htotal
    exact htotal
  refine ⟨t.plan, a, b, ⟨before.map Trade.plan, after.map Trade.plan, _, ?_, by simp, hrun⟩, ?_, ?_⟩
  · rw [PerpStores.withOrders, hplan, map_append, map_cons]
  · rw [← hf]
    exact hround
  · rw [← hf]
    exact (hcommitted.moves (hcommits.room hroom (by omega)) (by omega)).1

theorem Submitted.zeroSum (h : Submitted lower cfg draws oracleRead input market s out s')
    (hs : s.Valid lower) (hd : draws.Fresh s) (hfits : input.size1e8 ≤ maxU128)
    (hroom : Room lower input.marketId input.size1e8 s.positions) :
    ZeroSum lower market draws (input.row draws) s out s' := by
  have hvalid := h.valid hs hd hfits
  have htotal : Trade.total (tradesFor s.orders (input.row draws)) ≤ (input.row draws).size1e8 :=
    total_tradesFrom_le _ _ _
  obtain ⟨mid, hcommits, hs'⟩ := h.commits
  have hpositions : s'.positions = mid.positions := by rw [hs']; rfl
  refine ⟨fun marketId => ?_, fun i f hf => h.eachFill hs.wellFormed hd hroom hf,
    fun key hkey => ?_, ?_, fun id o ho => (hvalid.rows ho).balanced, hvalid.wellFormed.positions⟩
  · rw [hpositions]
    exact hcommits.net hroom htotal marketId
  · rw [hpositions]
    rw [h.outcome] at hkey
    exact hcommits.kept hroom htotal hkey
  · rw [h.outcome, sum_fillRecords, (settledRow_amounts draws htotal).1]

end

/-- **Zero-sum exposure.**  Every ledger that is reached has valid stores.  On valid
stores a submit either writes nothing, or is zero-sum, as long as no open position
of its market is so large that the whole size of the submit would overflow it. -/
theorem submit_zero_sum (lower : String → String) (cfg : PerpsReadConfig) :
    (∀ calls l, PerpRun lower cfg calls l → l.stores.Valid lower) ∧
    ∀ (draws : SubmitDraws) (answer : Except BackendError RawPriceRead)
      (input : SubmitPerpOrderInput) (s : PerpStores)
      (r : Except Fault SubmitPerpOrderOutcome) (s' : PerpStores),
      s.Valid lower → draws.Fresh s → input.Fits →
      (∀ p ∈ openRows s.positions.byId, p.marketId = input.marketId →
        p.size1e8 + input.size1e8 ≤ maxU128) →
      submitPerpOrderViaState lower cfg draws answer input s = (r, s') →
      (∀ e, r = .error e → s' = s) ∧
        ∀ out, r = .ok out → ∃ market, cfg.marketBySymbol input.marketId = some market ∧
          ZeroSum lower market draws (input.row draws) s out s' := by
  refine ⟨fun calls l hrun => hrun.valid, ?_⟩
  intro draws answer input s r s' hs hd hfits hroom hrun
  constructor
  · rintro e rfl
    exact submitPerpOrderViaState_error hrun
  rintro out rfl
  obtain ⟨market, hsub⟩ := submitPerpOrderViaState_inv hs.wellFormed hd hrun
  exact ⟨market, (preSubmit_eq_ok.1 hsub.checked).2.2.1,
    hsub.zeroSum hs hd hfits.size (room_of_positions hs.wellFormed.positions hfits.size hroom)⟩

namespace EthPerp

def ask : SubmitPerpOrderInput := limit "carol" .sell 300000000000 100000000 100000000000

def take : SubmitPerpOrderInput := limit "alice" .buy 300000000000 100000000 100000000000

end EthPerp

open EthPerp in
/-- One unit changes hands. -/
theorem submit_zero_sum_one_unit :
    ∃ out s', submitPerpOrderViaState id (config market) (draws 2) read take
        (after market [ask]).stores = (.ok out, s') ∧
      out.fills.map (·.size1e8) = [100000000] ∧
      ∃ m, ZeroSum id m (draws 2) (take.row (draws 2)) (after market [ask]).stores out s' := by
  obtain ⟨out, s', hrun, hfills⟩ := ok_of_map (fun out => out.fills.map (·.size1e8))
    (b := [100000000])
    (r := submitPerpOrderViaState id (config market) (draws 2) read take
      (after market [ask]).stores) (by decide +kernel)
  have hreached : PerpRun id (config market) (calls [ask]) (after market [ask]) :=
    run_after (by decide +kernel)
  have hvalid := (submit_zero_sum id (config market)).1 _ _ hreached
  obtain ⟨m, -, hzero⟩ := ((submit_zero_sum id (config market)).2 (draws 2) read take _ _ s'
    hvalid (fresh_of_below (by decide +kernel)) ⟨by decide, by decide, by decide⟩
    (by decide +kernel) hrun).2 out rfl
  exact ⟨out, s', hrun, hfills, m, hzero⟩

namespace EthPerp

/-- A position that cannot grow: its size is the greatest `u128`. -/
def fullPosition : PerpPosition :=
  newPositionSkeleton 1 ⟨"alice"⟩ 1 "ETH-PERP" .long maxU128 1 maxU128 0

/-- An ask for the smallest amount, at the smallest price. -/
def dustAsk : SubmitPerpOrderInput := limit "carol" .sell 1 1 1

def dustBid : SubmitPerpOrderInput := limit "alice" .buy 1 1 1

/-- Stores with the ask in the book and that one position open. -/
def fullStores : PerpStores :=
  (after market [dustAsk]).stores.withPositions
    ⟨FMap.set ∅ 1 fullPosition, FMap.set ∅ (fullPosition.key id) 1⟩

theorem valid_fullStores : fullStores.Valid id := by
  have hdust : (after market [dustAsk]).stores.Valid id := (run_after (by decide +kernel)).valid
  have hw : PerpPositionsStore.Writes id .empty (fullPosition.key id) (some fullPosition)
      fullStores.positions :=
    wellFormed_empty.opens rfl (openIndex_of_open rfl rfl) rfl
  refine ⟨⟨hw.wellFormed, hdust.wellFormed.filed⟩, hdust.rows, fun {key h} hx => ?_⟩
  rw [PerpStores.holdings, PerpPositionsStore.holdingAt, hw.openAt_eq] at hx
  split at hx
  · obtain rfl := some.inj hx
    exact ⟨by decide, le_rfl⟩
  · cases hx

end EthPerp

open EthPerp in
/-- **A full position breaks it**: the bid is accepted and the ask is filled, but the
buyer's position cannot grow, and one unit of short exposure has nobody opposite. -/
theorem full_position_breaks_zero_sum :
    fullStores.Valid id ∧ (draws 2).Fresh fullStores ∧ dustBid.Fits ∧
      ∃ out s', submitPerpOrderViaState id (config market) (draws 2) read dustBid fullStores =
          (.ok out, s') ∧
        out.fills.map (·.size1e8) = [1] ∧
        netExposure "ETH-PERP" fullStores.positions = maxU128 ∧
        netExposure "ETH-PERP" s'.positions = maxU128 - 1 := by
  obtain ⟨out, s', hrun, hfills⟩ := ok_of_map (fun out => out.fills.map (·.size1e8))
    (b := [1])
    (r := submitPerpOrderViaState id (config market) (draws 2) read dustBid fullStores)
    (by decide +kernel)
  have hs' : s' = (submitPerpOrderViaState id (config market) (draws 2) read dustBid
      fullStores).2 := by rw [hrun]
  refine ⟨valid_fullStores, fresh_of_below (l := ⟨fullStores, [], []⟩) (by decide +kernel),
    ⟨by decide, by decide, by decide⟩, out, s', hrun, hfills, by decide +kernel, ?_⟩
  rw [hs']
  decide +kernel

/-! ## Reduce-only orders -/

/-- The position got smaller, or was closed: nothing was opened, nothing grew, and
nothing changed sides. -/
def ReducesOnly (before after : Option PerpPosition) : Prop :=
  ∃ p, before = some p ∧ ∀ p', after = some p' → p'.side = p.side ∧ p'.size1e8 < p.size1e8

/-- **A fill without collateral only reduces.**  Opening and increasing ask for
collateral, and a reduction that would go too far is refused. -/
theorem PerpPositionsStore.Filled.reducesOnly (h : Filled lower market fill draw s s')
    (hm : fill.margin1e8 = 0) :
    ReducesOnly (s.openAt lower (fillKey lower fill)) (s'.openAt lower (fillKey lower fill)) := by
  obtain ⟨new, _, hok, hat, -⟩ := h.spec
  obtain ⟨hsize, -, -, htakes⟩ := applyChecked_eq_ok.1 hok
  have hnew : (s'.openAt lower (fillKey lower fill)).map PerpPosition.holding = new := by
    rw [← PerpPositionsStore.holdingAt, hat, Function.update_self]
  rw [holdingAt] at htakes
  cases hp : s.openAt lower (fillKey lower fill) with
  | none =>
    rw [hp] at htakes
    cases htakes with
    | opened hmargin => exact absurd hm hmargin
  | some p =>
    rw [hp, map_some] at htakes
    refine ⟨p, rfl, fun p' hp' => ?_⟩
    rw [hp', map_some] at hnew
    subst hnew
    generalize hq : p'.holding = q at htakes
    cases htakes with
    | increased _ hmargin => exact absurd hm hmargin
    | reduced hside hlt =>
      have hside' : p'.side = p.side := congrArg Holding.side hq
      have hsize' : p'.size1e8 = p.size1e8 - fill.size1e8 := congrArg Holding.size1e8 hq
      have hlt' : fill.size1e8 < p.size1e8 := hlt
      exact ⟨hside', by omega⟩

section

variable {s : PerpStores}

/-- **Reduce-only orders only reduce, in any run.**  In every ledger that is
reached, wherever the commit loop of a submit gets to: the taker's half of a round
only reduces if the arriving order is reduce-only, and the maker's half only
reduces if the resting one is, whatever became of their positions meanwhile. -/
theorem reduce_only_fills_reduce (hrun : PerpRun lower cfg calls l)
    (hadm : (PerpCall.submit draws answer input).Admissible l)
    (hins : onOrders (insertOrder lower (input.row draws)) l.stores = (.ok order, s))
    (hat : AtFill lower market order draws s i plan a)
    (hround : Round lower market order draws.now (draws.fills i) plan maker a a₁ a₂ a₃) :
    (order.reduceOnly = true → ReducesOnly (a₁.positions.openAt lower (order.key lower))
      (a₂.positions.openAt lower (order.key lower))) ∧
    (maker.reduceOnly = true → ReducesOnly (a₂.positions.openAt lower (maker.key lower))
      (a₃.positions.openAt lower (maker.key lower))) := by
  have hs := hrun.valid.wellFormed
  obtain ⟨orders, hinsert, rfl⟩ := zoom_eq_ok.1 hins
  obtain ⟨-, rfl, rfl⟩ := insertOrder_eq_ok.1 hinsert
  obtain ⟨before, t, after, htrades, rfl, rfl, hcommits, hready⟩ := hat.inv
    (hs.ready hadm.1 rfl) (planFills_inserted lower hadm.1.order)
  obtain ⟨rfl, hpos, htaker, hmaker⟩ := hround.inv hready
  have ht : t ∈ tradesFor l.stores.orders (input.row draws) := by
    rw [htrades]
    exact mem_append_right _ mem_cons_self
  have hkey : fillKey lower (makerFillInput (input.row draws) t.maker t.plan) =
      (t.makerRow draws.now).key lower := by
    rw [PerpOrder.congr_terms (PerpOrder.key lower) (Trade.terms_makerRow ..),
      PerpOrder.key, (tradesFor_maker hs ht).2.1]
    rfl
  constructor
  · intro hreduce
    rw [hpos]
    exact htaker.reducesOnly (by rw [takerFillInput, if_pos hreduce])
  intro hreduce
  have hreduce' : t.maker.reduceOnly = true := by
    rw [← hreduce]
    exact (PerpOrder.congr_terms PerpOrder.reduceOnly
      (Trade.terms_makerRow ..)).symm
  rw [← hkey]
  exact hmaker.reducesOnly (by rw [makerFillInput, if_pos hreduce'])

end

namespace EthPerp

/-- Alice is long two units, and there is a bid for one. -/
def longTwo : List SubmitPerpOrderInput :=
  [limit "carol" .buy 300000000000 100000000 100000000000,
    limit "alice" .buy 300000000000 200000000 200000000000,
    limit "bob" .sell 300000000000 200000000 200000000000]

/-- Alice sells one unit, reduce-only. -/
def reduce : SubmitPerpOrderInput :=
  { limit "alice" .sell 300000000000 100000000 0 with reduceOnly := true }

/-- The stores with her order inserted. -/
def reducing : PerpStores :=
  (after market longTwo).stores.withOrders
    ((after market longTwo).stores.orders.inserted id (reduce.row (draws 4)))

def reducePlan : PlannedFill := ⟨3000, ⟨"carol"⟩, 300000000000, 100000000⟩

end EthPerp

open EthPerp in
/-- A reduce-only sell halves a long position. -/
theorem reduce_only_fills_reduce_half : ∃ maker a₁ a₂ a₃,
      Round id market (reduce.row (draws 4)) 4 ((draws 4).fills 0) reducePlan maker reducing a₁ a₂
        a₃ ∧
      ReducesOnly (a₁.positions.openAt id ("alice", 1, "ETH-PERP"))
        (a₂.positions.openAt id ("alice", 1, "ETH-PERP")) := by
  have hrun : PerpRun id (config market) (calls longTwo) (after market longTwo) :=
    run_after (by decide +kernel)
  have hadm : (PerpCall.submit (draws 4) read reduce).Admissible (after market longTwo) :=
    ⟨fresh_of_below (by decide +kernel), by decide, by decide, by decide⟩
  have hins : onOrders (insertOrder id (reduce.row (draws 4)))
      (after market longTwo).stores = (.ok (reduce.row (draws 4)), reducing) :=
    onOrders_run (insertOrder_of_free fun c hc => by cases hc)
  have hat : AtFill id market (reduce.row (draws 4)) (draws 4) reducing 0 reducePlan reducing :=
    ⟨[], [], ([], (reduce.row (draws 4)).size1e8), by decide +kernel, rfl, rfl⟩
  obtain ⟨f, b, hcommit, -⟩ := ok_of_map (fun _ => ()) (b := ())
    (r := commitFill id market (reduce.row (draws 4)) 4 ((draws 4).fills 0) reducePlan reducing)
    (by decide +kernel)
  obtain ⟨maker, a₁, a₂, a₃, hround⟩ := Round.of_commitFill hcommit
  exact ⟨maker, a₁, a₂, a₃, hround, (reduce_only_fills_reduce hrun hadm hins hat hround).1 rfl⟩

end DeoptBackend
