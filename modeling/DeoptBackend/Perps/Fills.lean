import DeoptBackend.Perps.Positions

/-!
# Applying a fill to a position (`src/perps/fills.rs`)

`applyPerpFillForAccount` opens, increases, reduces or closes the position of one
(account, subaccount, market).  What it does to the amounts does not depend on
how positions are stored, and the database engine does the same with its rows,
so the amounts have a model of their own.

* `Holding` — the amounts of an open position: direction, size, entry, margin
  and realised PnL.
* `Holding.apply` — what a fill makes of the holding under its key, or the fault
  it is refused with.
* `applyPerpFillForAccount_spec` — on a well-formed store the fill is refused
  exactly when `Holding.apply` refuses it, with the same fault and nothing
  written; otherwise it writes one row, whose amounts are those of
  `Holding.apply`.
-/

namespace DeoptBackend

open Act PerpPositionsStore PositionTable Margin PerpPosition

/-- One fill, as it is applied to one side's position. -/
structure PerpFillInput where
  account : AccountId
  subaccountId : Nat
  marketId : String
  /-- The direction the fill pushes the position in. -/
  side : PerpSide
  size1e8 : Nat
  price1e8 : Nat
  /-- The collateral that comes with the fill. -/
  margin1e8 : Nat

inductive PerpFillOutcome where
  | opened (position : PerpPosition)
  | increased (position : PerpPosition)
  | reduced (position : PerpPosition) (realizedPnl1e8 : Int)
  | closed (position : PerpPosition) (realizedPnl1e8 : Int)
  deriving DecidableEq

/-- What applying a fill draws: the identifier of a position it may open, and two
readings of the clock. -/
structure FillDraw where
  /-- `Uuid::new_v4` in `new_position_skeleton`. -/
  positionId : Uuid
  /-- `now_ms` in `new_position_skeleton`. -/
  openedAtMs : TimestampMs
  /-- `now_ms` in the applicator. -/
  now : TimestampMs

/-! ## The checks -/

/-- `validate_fill_basics`. -/
def validateFillBasics (fill : PerpFillInput) : Except Fault Unit :=
  if fill.size1e8 = 0 then .error (.err .perpZeroSize)
  else if fill.price1e8 = 0 then .error (.err .perpZeroPrice)
  else .ok ()

def validateFillMarket (market : PerpsReadMarket) (fill : PerpFillInput) : Except Fault Unit :=
  if fill.marketId ≠ market.symbol then
    .error (.err (.config
      ("market row / fill symbol mismatch: " ++ market.symbol ++ " vs " ++ fill.marketId)))
  else .ok ()

/-- `enforce_leverage_cap`, the same text in `fills.rs` and `execution_pg.rs`. -/
def enforceLeverageCap (marketId : String) (notional1e8 margin1e8 maxLeverage : Nat) :
    Except Fault Unit :=
  if margin1e8 = 0 then .error (.err .perpZeroMargin)
  else if notional1e8 > satMul margin1e8 maxLeverage then
    .error (.err (.perpLeverageExceeded marketId
      ("effective leverage " ++ toString (notional1e8 / max margin1e8 1) ++ "x exceeds cap " ++
        toString maxLeverage ++ "x (notional " ++ toString notional1e8 ++ " margin " ++
        toString margin1e8 ++ ")")))
  else .ok ()

/-- The check an open and an increase share: the margin of the position covers
the requirement at its entry, and its leverage is within the cap. -/
def checkMargin (what marketId : String) (size1e8 entry1e8 margin1e8 maxLeverage : Nat) :
    Except Fault Unit :=
  let required := initialMarginRequirement1e8 size1e8 entry1e8 maxLeverage
  if margin1e8 < required then
    .error (.err (.perpInsufficientMargin
      (what ++ " " ++ toString margin1e8 ++ " < initial requirement " ++ toString required ++
        " at leverage " ++ toString maxLeverage ++ "x")))
  else
    enforceLeverageCap marketId (notional1e8 size1e8 entry1e8) margin1e8 maxLeverage

/-! ## The applicator -/

section

variable (lower : String → String)

/-- `new_position_skeleton`. -/
def newPositionSkeleton (id : Uuid) (account : AccountId) (subaccountId : Nat) (marketId : String)
    (side : PerpSide) (size1e8 entryPrice1e8 margin1e8 : Nat) (now : TimestampMs) : PerpPosition :=
  { id := id
    account := account
    subaccountId := subaccountId
    marketId := marketId
    side := side
    size1e8 := size1e8
    entryPrice1e8 := entryPrice1e8
    margin1e8 := margin1e8
    realizedPnl1e8 := 0
    status := .open
    openedAtMs := now
    updatedAtMs := now
    closedAtMs := none
    version := 1
    lastFundingIndex1e18 := 0
    cumulativeFundingPayment1e8 := 0 }

variable (market : PerpsReadMarket) (fill : PerpFillInput) (draw : FillDraw)

/-- `open_fresh_position`. -/
def openFreshPosition : Act Fault PerpPositionsStore PerpFillOutcome := do
  check (if fill.margin1e8 = 0 then .error (.err .perpZeroMargin) else .ok ())
  check (checkMargin "margin" fill.marketId fill.size1e8 fill.price1e8 fill.margin1e8
    market.maxLeverage)
  let inserted ← insertOpen lower
    (newPositionSkeleton draw.positionId fill.account fill.subaccountId fill.marketId fill.side
      fill.size1e8 fill.price1e8 fill.margin1e8 draw.openedAtMs)
  pure (.opened inserted)

/-- `increase_position`. -/
def increasePosition (market : PerpsReadMarket) (existing : PerpPosition) (fill : PerpFillInput)
    (now : TimestampMs) : Act Fault PerpPositionsStore PerpFillOutcome := do
  check (if fill.margin1e8 = 0 then .error (.err .perpZeroMargin) else .ok ())
  let newSize := satAdd existing.size1e8 fill.size1e8
  let newEntry := weightedAverageEntry1e8 existing.size1e8 existing.entryPrice1e8
    fill.size1e8 fill.price1e8
  let newMargin := satAdd existing.margin1e8 fill.margin1e8
  check (checkMargin "post-increase margin" fill.marketId newSize newEntry newMargin
    market.maxLeverage)
  let position ← updateActive lower fill.account fill.subaccountId fill.marketId
    now fun p => { p with size1e8 := newSize, entryPrice1e8 := newEntry, margin1e8 := newMargin }
  pure (.increased position)

/-- `reduce_or_reject`. -/
def reduceOrReject (existing : PerpPosition) (fill : PerpFillInput) (now : TimestampMs) :
    Act Fault PerpPositionsStore PerpFillOutcome := do
  check (if fill.size1e8 > existing.size1e8 then .error (.err .perpPositionFlip) else .ok ())
  let realized := realizedPnl1e8 existing.entryPrice1e8 fill.price1e8 fill.size1e8
    existing.side
  if fill.size1e8 = existing.size1e8 then
    -- the size is set to zero on the returned copy only: the stored row keeps it
    let closed ← closeActive lower existing.account existing.subaccountId
      existing.marketId now
    let position ← updateClosedRealizedPnl closed.id realized now
    pure (.closed position realized)
  else
    let released := mulDivFloor existing.margin1e8 fill.size1e8 existing.size1e8
    let position ← updateActive lower fill.account fill.subaccountId
      fill.marketId now fun p =>
        { p with
          size1e8 := existing.size1e8 - fill.size1e8
          margin1e8 := existing.margin1e8 - released
          realizedPnl1e8 := satI128 (p.realizedPnl1e8 + realized) }
    pure (.reduced position realized)

/-- `apply_perp_fill_for_account`. -/
def applyPerpFillForAccount : Act Fault PerpPositionsStore PerpFillOutcome := do
  check (validateFillBasics fill)
  check (validateFillMarket market fill)
  let existing ← read fun store : PerpPositionsStore =>
    store.getActive lower fill.account fill.subaccountId fill.marketId
  match existing with
  | none => openFreshPosition lower market fill draw
  | some pos =>
    if pos.side = fill.side then increasePosition lower market pos fill draw.now
    else reduceOrReject lower pos fill draw.now

end

/-! ## Holdings -/

/-- The amounts of an open position. -/
structure Holding where
  side : PerpSide
  size1e8 : Nat
  entryPrice1e8 : Nat
  margin1e8 : Nat
  realizedPnl1e8 : Int

variable (p : PerpPosition)

def PerpPosition.holding : Holding :=
  ⟨p.side, p.size1e8, p.entryPrice1e8, p.margin1e8, p.realizedPnl1e8⟩

def PerpPosition.withHolding (h : Holding) : PerpPosition :=
  { p with
    side := h.side
    size1e8 := h.size1e8
    entryPrice1e8 := h.entryPrice1e8
    margin1e8 := h.margin1e8
    realizedPnl1e8 := h.realizedPnl1e8 }

@[simp] theorem PerpPosition.holding_touched (now : TimestampMs) :
    (p.touched now).holding = p.holding := rfl

namespace Holding

def ofFill (fill : PerpFillInput) : Holding :=
  ⟨fill.side, fill.size1e8, fill.price1e8, fill.margin1e8, 0⟩

/-- A holding with a fill on its own side added. -/
def increased (h : Holding) (fill : PerpFillInput) : Holding :=
  { h with
    size1e8 := satAdd h.size1e8 fill.size1e8
    entryPrice1e8 :=
      weightedAverageEntry1e8 h.size1e8 h.entryPrice1e8 fill.size1e8 fill.price1e8
    margin1e8 := satAdd h.margin1e8 fill.margin1e8 }

/-- A holding with a part of it traded away. -/
def reduced (h : Holding) (fill : PerpFillInput) : Holding :=
  { h with
    size1e8 := h.size1e8 - fill.size1e8
    margin1e8 := h.margin1e8 - mulDivFloor h.margin1e8 fill.size1e8 h.size1e8
    realizedPnl1e8 := satI128 (h.realizedPnl1e8 +
      Margin.realizedPnl1e8 h.entryPrice1e8 fill.price1e8 fill.size1e8 h.side) }

/-- A holding that comes with new collateral has some, and passes the margin
check. -/
def collateralised (what : String) (market : PerpsReadMarket) (fill : PerpFillInput)
    (new : Holding) : Except Fault (Option Holding) :=
  if fill.margin1e8 = 0 then .error (.err .perpZeroMargin)
  else
    match checkMargin what fill.marketId new.size1e8 new.entryPrice1e8 new.margin1e8
        market.maxLeverage with
    | .error e => .error e
    | .ok () => .ok (some new)

variable (market : PerpsReadMarket) (fill : PerpFillInput)

/-- **What a fill makes of a holding.** -/
def apply : Option Holding → Except Fault (Option Holding)
  | none => collateralised "margin" market fill (ofFill fill)
  | some h =>
    if h.side = fill.side then
      collateralised "post-increase margin" market fill (h.increased fill)
    else if fill.size1e8 > h.size1e8 then .error (.err .perpPositionFlip)
    else if fill.size1e8 = h.size1e8 then .ok none
    else .ok (some (h.reduced fill))

/-- The same, with the checks on the fill itself in front. -/
def applyChecked (h : Option Holding) : Except Fault (Option Holding) :=
  match validateFillBasics fill with
  | .error e => .error e
  | .ok () =>
    match validateFillMarket market fill with
    | .error e => .error e
    | .ok () => apply market fill h

end Holding

namespace Holding

theorem apply_same (hside : h.side = fill.side) : apply market fill (some h) =
      collateralised "post-increase margin" market fill (h.increased fill) := by
  rw [apply, if_pos hside]

theorem apply_flip (hside : h.side ≠ fill.side) (hsize : h.size1e8 < fill.size1e8) :
    apply market fill (some h) = .error (.err .perpPositionFlip) := by
  rw [apply, if_neg hside, if_pos hsize]

theorem apply_close (hside : h.side ≠ fill.side) (hsize : fill.size1e8 = h.size1e8) :
    apply market fill (some h) = .ok none := by
  rw [apply, if_neg hside, if_neg (by omega), if_pos hsize]

theorem apply_reduce (hside : h.side ≠ fill.side) (hsize : fill.size1e8 < h.size1e8) :
    apply market fill (some h) = .ok (some (h.reduced fill)) := by
  rw [apply, if_neg hside, if_neg (by omega), if_neg (by omega)]

theorem collateralised_eq_ok : collateralised what market fill new = .ok r ↔
      fill.margin1e8 ≠ 0 ∧
        checkMargin what fill.marketId new.size1e8 new.entryPrice1e8 new.margin1e8
          market.maxLeverage = .ok () ∧ r = some new := by
  unfold collateralised
  split
  · next hm => simp [hm]
  next hm =>
    split
    · next hc => simp [hc]
    · next hc => simp [hc, hm, eq_comm]

/-- The checks on new collateral, in front of what is done with it. -/
theorem collateralised_spec {f : Act Fault σ α} {s : σ} (hs : E s)
    (hf : Follows E (.ok (some new)) R (f s)) :
    Follows E (collateralised what market fill new) R
      ((do
        check (if fill.margin1e8 = 0 then .error (.err .perpZeroMargin) else .ok ())
        check (checkMargin what fill.marketId new.size1e8 new.entryPrice1e8 new.margin1e8
          market.maxLeverage)
        f : Act Fault σ α) s) := by
  by_cases hm : fill.margin1e8 = 0
  · rw [collateralised, if_pos hm, if_pos hm]
    exact ⟨rfl, hs⟩
  · rw [collateralised, if_neg hm, if_neg hm, check_bind rfl]
    refine .check_bind hs (fun e h => by rw [h]) fun _ hc => ?_
    rwa [hc]

end Holding

namespace Holding

/-- **All that a fill can do to a holding.** -/
inductive Takes (market : PerpsReadMarket) (fill : PerpFillInput) :
    Option Holding → Option Holding → Prop
  | opened : fill.margin1e8 ≠ 0 →
      checkMargin "margin" fill.marketId fill.size1e8 fill.price1e8 fill.margin1e8
        market.maxLeverage = .ok () →
      Takes market fill none (some (ofFill fill))
  | increased {h : Holding} : h.side = fill.side → fill.margin1e8 ≠ 0 →
      checkMargin "post-increase margin" fill.marketId (h.increased fill).size1e8
        (h.increased fill).entryPrice1e8 (h.increased fill).margin1e8 market.maxLeverage = .ok () →
      Takes market fill (some h) (some (h.increased fill))
  | reduced {h : Holding} : h.side ≠ fill.side → fill.size1e8 < h.size1e8 →
      Takes market fill (some h) (some (h.reduced fill))
  | closed {h : Holding} : h.side ≠ fill.side → fill.size1e8 = h.size1e8 →
      Takes market fill (some h) none

theorem apply_eq_ok : apply market fill x = .ok new ↔ Takes market fill x new := by
  constructor
  · intro h
    cases x with
    | none =>
      obtain ⟨hm, hc, rfl⟩ := collateralised_eq_ok.1 h
      exact .opened hm hc
    | some old =>
      by_cases hside : old.side = fill.side
      · rw [apply_same hside] at h
        obtain ⟨hm, hc, rfl⟩ := collateralised_eq_ok.1 h
        exact .increased hside hm hc
      rcases lt_trichotomy fill.size1e8 old.size1e8 with hsize | hsize | hsize
      · rw [apply_reduce hside hsize] at h
        cases h
        exact .reduced hside hsize
      · rw [apply_close hside hsize] at h
        cases h
        exact .closed hside hsize
      · rw [apply_flip hside hsize] at h
        cases h
  · intro h
    cases h with
    | opened hm hc => exact collateralised_eq_ok.2 ⟨hm, hc, rfl⟩
    | increased hside hm hc => exact (apply_same hside).trans (collateralised_eq_ok.2 ⟨hm, hc, rfl⟩)
    | reduced hside hsize => exact apply_reduce hside hsize
    | closed hside hsize => exact apply_close hside hsize

theorem Takes.unique (h : Takes market fill x new) (h' : Takes market fill x new') : new = new' :=
  Except.ok.inj ((apply_eq_ok.2 h).symm.trans (apply_eq_ok.2 h'))

/-- A fill is taken when it is a fill of the market for something, and the holding
takes it. -/
theorem applyChecked_eq_ok : applyChecked market fill x = .ok new ↔
      fill.size1e8 ≠ 0 ∧ fill.price1e8 ≠ 0 ∧ fill.marketId = market.symbol ∧
        Takes market fill x new := by
  rw [← apply_eq_ok]
  unfold applyChecked validateFillBasics validateFillMarket
  by_cases hsize : fill.size1e8 = 0
  · simp [hsize]
  by_cases hprice : fill.price1e8 = 0
  · simp [hsize, hprice]
  by_cases hmarket : fill.marketId = market.symbol
  · simp [hsize, hprice, hmarket]
  · simp [hsize, hprice, hmarket]

end Holding

/-! ## The store does what the holding says -/

namespace PerpPositionsStore

def fillKey (lower : String → String) (fill : PerpFillInput) : IndexKey :=
  indexKey lower fill.account fill.subaccountId fill.marketId

/-- The amounts open under a key. -/
def holdingAt (lower : String → String) (s : PerpPositionsStore) (key : IndexKey) :
    Option Holding :=
  (s.openAt lower key).map holding

/-- The row under the key of a fill once it is applied: a fresh one, or the one that
was there with other amounts. -/
def rowAfter (fill : PerpFillInput) (draw : FillDraw) :
    Option PerpPosition → Option Holding → Option PerpPosition
  | _, none => none
  | none, some _ => some (newPositionSkeleton draw.positionId fill.account fill.subaccountId
      fill.marketId fill.side fill.size1e8 fill.price1e8 fill.margin1e8 draw.openedAtMs)
  | some p, some h => some ((p.withHolding h).touched draw.now)

theorem openFreshPosition_spec (hs : WellFormed lower s) (hid : s.byId.get? draw.positionId = none)
    (hkey : s.openAt lower (fillKey lower fill) = none) :
    Follows (· = s) (Holding.apply market fill none)
      (fun new _ s' => Writes lower s (fillKey lower fill) (rowAfter fill draw none new) s')
      (openFreshPosition lower market fill draw s) := by
  refine Holding.collateralised_spec rfl ?_
  set p := newPositionSkeleton draw.positionId fill.account fill.subaccountId fill.marketId
    fill.side fill.size1e8 fill.price1e8 fill.margin1e8 draw.openedAtMs with hp
  have ho : p.openIndex lower = some (fillKey lower fill) := openIndex_of_open rfl rfl
  rw [bind_of_ok (insertOpen_eq hs ho hkey)]
  exact .of_ok (hs.opens hid ho hkey)

variable {p : PerpPosition}

/-- An open position whose amounts are replaced. -/
theorem WellFormed.reholds (hs : WellFormed lower s)
    (hp : s.openAt lower (fillKey lower fill) = some p) (h : Holding) (draw : FillDraw) :
    Writes lower s (fillKey lower fill) (rowAfter fill draw (some p) (some h))
      { s with byId := s.byId.set p.id ((p.withHolding h).touched draw.now) } := by
  obtain ⟨hopen, hk⟩ := openAt_spec hp
  exact hs.changes hp rfl (openIndex_of_open hopen hk)

theorem increasePosition_spec (hs : WellFormed lower s)
    (hp : s.openAt lower (fillKey lower fill) = some p) (hside : p.side = fill.side) :
    Follows (· = s) (Holding.apply market fill (some p.holding))
      (fun new _ s' => Writes lower s (fillKey lower fill) (rowAfter fill draw (some p) new) s')
      (increasePosition lower market p fill draw.now s) := by
  rw [Holding.apply_same hside]
  refine Holding.collateralised_spec rfl ?_
  rw [bind_of_ok (updateActive_eq hs _ hp)]
  exact .of_ok (hs.reholds hp (p.holding.increased fill) draw)

theorem reduceOrReject_spec (hs : WellFormed lower s)
    (hp : s.openAt lower (fillKey lower fill) = some p) (hside : p.side ≠ fill.side) :
    Follows (· = s) (Holding.apply market fill (some p.holding))
      (fun new _ s' => Writes lower s (fillKey lower fill) (rowAfter fill draw (some p) new) s')
      (reduceOrReject lower p fill draw.now s) := by
  obtain ⟨-, hk⟩ := openAt_spec hp
  set realized := Margin.realizedPnl1e8 p.entryPrice1e8 fill.price1e8 fill.size1e8 p.side
    with hrealized
  rcases lt_trichotomy fill.size1e8 p.size1e8 with hsize | hsize | hsize
  · rw [Holding.apply_reduce hside hsize, reduceOrReject, check_bind (if_neg hsize.not_gt),
      if_neg hsize.ne, bind_of_ok (updateActive_eq hs _ hp)]
    exact .of_ok (hs.reholds hp (p.holding.reduced fill) draw)
  · -- the position is closed first, and its PnL written to the closed row after
    have hopenAt : s.openAt lower (indexKey lower p.account p.subaccountId p.marketId) = some p := by
      rw [hk]
      exact hp
    obtain ⟨mid, row, hclose, hpnl, hid, hstatus⟩ :=
      closeActive_realizing hs draw.now realized hopenAt
    rw [hk] at hpnl
    rw [Holding.apply_close hside hsize, reduceOrReject, check_bind (if_neg hsize.not_gt),
      if_pos hsize, bind_of_ok hclose]
    have hid' : ((p.asClosed draw.now).touched draw.now).id = p.id := rfl
    rw [hid', bind_of_ok hpnl]
    exact .of_ok (hs.ends hp hid hstatus)
  · rw [Holding.apply_flip hside hsize, reduceOrReject, if_pos hsize]
    exact ⟨rfl, rfl⟩

/-- **A fill is refused when the holding refuses it**, with the same fault and
nothing written, and otherwise writes one row. -/
theorem applyPerpFillForAccount_spec (hs : WellFormed lower s)
    (hid : s.byId.get? draw.positionId = none) :
    Follows (· = s) (Holding.applyChecked market fill (s.holdingAt lower (fillKey lower fill)))
      (fun new _ s' => Writes lower s (fillKey lower fill)
        (rowAfter fill draw (s.openAt lower (fillKey lower fill)) new) s')
      (applyPerpFillForAccount lower market fill draw s) := by
  refine .check_bind rfl (fun _ h => by rw [Holding.applyChecked, h]) fun _ hb =>
    .check_bind rfl (fun _ h => by rw [Holding.applyChecked, hb, h]) fun _ hm => ?_
  rw [Holding.applyChecked, hb, hm, read_bind, hs.getActive_eq, holdingAt, ← fillKey]
  cases hp : s.openAt lower (fillKey lower fill) with
  | none => exact openFreshPosition_spec hs hid hp
  | some p =>
    simp only
    split
    · next hside => exact increasePosition_spec hs hp hside
    · next hside => exact reduceOrReject_spec hs hp hside

theorem holding_rowAfter (h : Holding.Takes market fill (x.map holding) new) :
    (rowAfter fill draw x new).map holding = new := by
  cases new with
  | none => cases x <;> rfl
  | some =>
    cases x with
    | some => rfl
    | none =>
      cases h with
      | opened => rfl

end PerpPositionsStore

namespace PositionTable

/-- The amounts open under a key. -/
def holdingAt (lower : String → String) (m : PositionTable) (key : IndexKey) : Option Holding :=
  (openAt lower m key).map holding

/-- A fill that was applied: one row was written, with the amounts `new`. -/
structure Applied (lower : String → String) (fill : PerpFillInput) (positionId : Uuid)
    (m : PositionTable) (new : Option Holding) (m' : PositionTable) : Prop where
  writes : ∃ row, row.map holding = new ∧ Writes lower m (fillKey lower fill) row m'
  /-- No identifier was used but the one that was drawn. -/
  unused : ∀ id, id ≠ positionId → m.get? id = none → m'.get? id = none

theorem Applied.of_writes (hw : Writes lower m (fillKey lower fill) row m')
    (hrow : row.map holding = new)
    (hid : ∀ p, row = some p → p.id = positionId ∨ m.get? p.id ≠ none) :
    Applied lower fill positionId m new m' where
  writes := ⟨row, hrow, hw⟩
  unused := by
    intro id hne hnone
    refine hw.unused id hnone fun p hp hpid => ?_
    rcases hid p hp with h | h
    · exact hne (by rw [← hpid, h])
    · exact h (by rw [hpid, hnone])

/-- The holding under the key of the fill is the new one; the others stay. -/
theorem Applied.holdingAt_eq (h : Applied lower fill positionId m new m') :
    m'.holdingAt lower = Function.update (m.holdingAt lower) (fillKey lower fill) new := by
  obtain ⟨row, hrow, hw⟩ := h.writes
  funext key
  rw [holdingAt, hw.openAt_eq, Function.update_apply]
  split
  · exact hrow
  · rfl

/-- A fill that the holding takes is applied once its row is written. -/
theorem Applied.of_taken (hm : WellFormed lower m)
    (h : Holding.applyChecked market fill (m.holdingAt lower (fillKey lower fill)) = .ok new)
    (hw : Writes lower m (fillKey lower fill)
      (rowAfter fill draw (openAt lower m (fillKey lower fill)) new) m') :
    Applied lower fill draw.positionId m new m' := by
  obtain ⟨-, -, -, htakes⟩ := Holding.applyChecked_eq_ok.1 h
  refine Applied.of_writes hw (holding_rowAfter htakes) fun q hq => ?_
  -- the row is the one that was there, or has the identifier that was drawn
  cases hp : openAt lower m (fillKey lower fill) with
  | none =>
    rw [hp] at hq
    cases new with
    | none => cases hq
    | some =>
      cases hq
      exact .inl rfl
  | some p =>
    rw [hp] at hq
    cases new with
    | none => cases hq
    | some =>
      cases hq
      refine .inr ?_
      change m.get? p.id ≠ none
      rw [hm.get?_id hp]
      exact Option.some_ne_none p

end PositionTable

end DeoptBackend
