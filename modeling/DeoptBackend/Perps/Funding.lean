import DeoptBackend.Lib.Run
import DeoptBackend.Perps.Ticks

/-!
# Is funding fair?

A position pays for the movement of its market's index while it was held, at the size
that was held.  The code computes the payment at the settlement, from the size there
is then and from the index the position was settled at before; a fresh position gets
the index 0, and a fill leaves the index as it is.

* `FundingWorld` — the ledger, the indices of the markets, and an account of what every
  open position accrued (`Accrual`), which the code does not keep.
* `FundingCall` — a fill, a movement of an index, or a tick.
* `Fair` — a payment is what has accrued, up to the truncation.
* `funding_is_fair` — every payment is fair in a run whose fills meet positions that
  are settled up to the current index; a position opened later is charged for what was
  before it (`late_position_is_charged`).
-/

namespace DeoptBackend

open Margin PerpPositionsStore List Option

open PerpPositionsStore (fillKey rowAfter)
open PerpStores (onPositions)
open PerpLedger (onStores)

/-! ## What accrues -/

/-- The account of one position: sizes times movements of the index, not yet divided
by the scale, and payments. -/
structure Accrual where
  /-- What accrued since the last settlement. -/
  owed : Int
  /-- What accrued since the position was opened. -/
  total : Int
  paid1e8 : Int
  settlements : Nat

namespace Accrual

/-- The account of a fresh position. -/
def zero : Accrual := ⟨0, 0, 0, 0⟩

/-- The index moved while a size was held. -/
def accrue (x : Int) (a : Accrual) : Accrual := { a with owed := a.owed + x, total := a.total + x }

def settle (payment1e8 : Int) (a : Accrual) : Accrual :=
  { a with owed := 0, paid1e8 := a.paid1e8 + payment1e8, settlements := a.settlements + 1 }

end Accrual

/-- **A payment is fair**: it is what accrued since the last settlement, up to one unit,
and with it all payments together are what accrued since the position was opened, up
to one unit for each. -/
structure Fair (side : PerpSide) (a : Accrual) (payment1e8 : Int) : Prop where
  payment : |fundingIndexScale1e18 * payment1e8 - side.sign * a.owed| < fundingIndexScale1e18
  total : |fundingIndexScale1e18 * (a.paid1e8 + payment1e8) - side.sign * a.total| <
    fundingIndexScale1e18 * (a.settlements + 1)

/-! ## The world -/

/-- The ledger, the indices of the markets, and the accounts of the open positions. -/
structure FundingWorld where
  ledger : PerpLedger
  /-- The cumulative index of every market. -/
  index1e18 : String → Int
  /-- The account of the open position under every key. -/
  accrual : IndexKey → Accrual

namespace FundingWorld

/-- Nothing is held yet. -/
def start (index1e18 : String → Int) : FundingWorld := ⟨.empty, index1e18, fun _ => .zero⟩

def positions (w : FundingWorld) : PerpPositionsStore := w.ledger.stores.positions

def sizeAt (lower : String → String) (w : FundingWorld) (key : IndexKey) : Nat :=
  (w.positions.openAt lower key).elim 0 (·.size1e8)

end FundingWorld

def PerpFundingEvent.key (lower : String → String) (e : PerpFundingEvent) : IndexKey :=
  indexKey lower e.account e.subaccountId e.marketId

/-- The accounts after some settlements. -/
def settleAll (lower : String → String) (events : List PerpFundingEvent)
    (accrual : IndexKey → Accrual) : IndexKey → Accrual :=
  events.foldl (fun a e => Function.update a (e.key lower) ((a (e.key lower)).settle e.payment1e8))
    accrual

/-- What can happen. -/
inductive FundingCall where
  | fill (market : PerpsReadMarket) (input : PerpFillInput) (draw : FillDraw)
  | move (marketId : String) (index1e18 : Int)
  | tick (reader : PerpsReadMarket → Except BackendError FundingIndexRead) (now : TimestampMs)
      (ids : Nat → Uuid)

namespace FundingCall

variable (lower : String → String) (cfg : PerpsReadConfig)

/-- The events a tick adds. -/
def newEvents (reader : PerpsReadMarket → Except BackendError FundingIndexRead) (now : TimestampMs)
    (ids : Nat → Uuid) (l : PerpLedger) : List PerpFundingEvent :=
  (runPerpFundingTick lower cfg (prefetchFundingIndices cfg reader now) now ids
    l).2.fundingEvents.drop l.fundingEvents.length

/-- What happens. -/
def run : FundingCall → FundingWorld → FundingWorld
  | fill market input draw, w =>
    { w with
      ledger := (onStores (onPositions
        (applyPerpFillForAccount lower market input draw)) w.ledger).2
      -- the account is opened with the position
      accrual := if (w.positions.openAt lower (fillKey lower input)).isNone then
          Function.update w.accrual (fillKey lower input) .zero
        else w.accrual }
  | move marketId index1e18, w =>
    { w with
      index1e18 := Function.update w.index1e18 marketId index1e18
      accrual := fun key =>
        if key.2.2 = marketId then
          (w.accrual key).accrue (w.sizeAt lower key * (index1e18 - w.index1e18 marketId))
        else w.accrual key }
  | tick reader now ids, w =>
    { w with
      ledger := (runPerpFundingTick lower cfg (prefetchFundingIndices cfg reader now) now ids
        w.ledger).2
      accrual := settleAll lower (newEvents lower cfg reader now ids w.ledger) w.accrual }

/-- The identifier a fill draws is new, and a tick reads the current indices, those it
can read. -/
def Admissible (cfg : PerpsReadConfig) : FundingCall → FundingWorld → Prop
  | fill _ _ draw, w => w.positions.byId.get? draw.positionId = none
  | move _ _, _ => True
  | tick reader now _, w => ∀ marketId read,
      (prefetchFundingIndices cfg reader now).get? marketId = some (some read) →
      read.cumulativeIndex1e18 = w.index1e18 marketId

/-- **The condition on a call, in the world before it.**  A fill meets a position that
is settled up to the current index, or closes it; a fresh one is opened while the index
is 0.  The payments of a tick are machine words before the division. -/
def Timely : FundingCall → FundingWorld → Prop
  | fill _ input _, w =>
    match w.positions.openAt lower (fillKey lower input) with
    | none => w.index1e18 input.marketId = 0
    | some p => p.lastFundingIndex1e18 = w.index1e18 input.marketId ∨
        (p.side ≠ input.side ∧ p.size1e8 = input.size1e8)
  | move _ _, _ => True
  | tick _ _ _, w => ∀ p ∈ tickCandidates cfg w.positions,
      ((w.index1e18 p.marketId - p.lastFundingIndex1e18).natAbs * p.size1e8 : Int) ≤ maxI128

end FundingCall

variable (lower : String → String) (cfg : PerpsReadConfig) (index1e18 : String → Int)
  (calls : List FundingCall) (w : FundingWorld)

/-- The worlds that are reached, from indices that may have moved before. -/
def FundingRun : Prop :=
  Run (stepOf (fun w call => FundingCall.run lower cfg call w) fun w call => call.Admissible cfg w)
    (.start index1e18) calls w

/-- The worlds that are reached by timely calls. -/
def TimelyRun : Prop :=
  Run (stepOf (fun w call => FundingCall.run lower cfg call w)
    fun w call => call.Admissible cfg w ∧ call.Timely lower cfg w) (.start index1e18) calls w

/-! ## The payment -/

section

variable {size1e8 : Nat} {after : Int}

/-- The payment, where nothing overflows. -/
theorem calculateFundingPayment1e8_eq (hfits : ((after - before).natAbs * size1e8 : Int) ≤ maxI128)
    (h : calculateFundingPayment1e8 side size1e8 before after = .ok payment1e8) :
    payment1e8 = (side.sign * (size1e8 * (after - before))).tdiv fundingIndexScale1e18 := by
  unfold calculateFundingPayment1e8 at h
  split at h
  · next hzero =>
      cases h
      simp [hzero]
  next hsize =>
  have hpos : (1 : Int) ≤ size1e8 := by omega
  have hdelta : ((after - before).natAbs : Int) ≤ maxI128 := by
    refine le_trans ?_ hfits
    exact le_mul_of_one_le_right (Int.natCast_nonneg _) hpos
  rw [satI128_eq hdelta] at h
  simp only at h
  split at h
  · next hzero =>
      cases h
      simp [hzero]
  next hmoved =>
  have hsize' : (size1e8 : Int) ≤ maxI128 := by
    refine le_trans ?_ hfits
    refine le_mul_of_one_le_left (Int.natCast_nonneg _) ?_
    omega
  have hprod : ∀ d : Int, d.natAbs = (after - before).natAbs →
      satI128 (d * size1e8) = d * size1e8 := by
    intro d hd
    refine satI128_eq ?_
    rw [Int.natAbs_mul, hd, Int.natAbs_natCast]
    exact hfits
  rw [asI128_eq hsize'] at h
  cases side with
  | long =>
    cases h
    rw [hprod _ rfl, PerpSide.sign, one_mul, mul_comm]
  | short =>
    obtain ⟨d, hd, hpay⟩ := Except.bind_eq_ok.1 h
    unfold negI128 at hd
    split at hd
    · cases hd
    cases hd
    cases hpay
    rw [hprod _ (Int.natAbs_neg _), PerpSide.sign]
    ring_nf

/-- Truncation loses less than one unit. -/
theorem abs_mul_tdiv_sub_lt (x : Int) :
    |fundingIndexScale1e18 * x.tdiv fundingIndexScale1e18 - x| ≤ fundingIndexScale1e18 - 1 := by
  have hpos : (0 : Int) < fundingIndexScale1e18 := by decide
  have hsplit := Int.mul_tdiv_add_tmod x fundingIndexScale1e18
  have hlt := Int.tmod_lt_of_pos x hpos
  have hgt := Int.lt_tmod_of_pos x hpos
  rw [abs_le]
  constructor <;> linarith

end

/-! ## The account of a position -/

/-- A position and its account agree, at an index of the market: what is owed is the
size held now times the movement since the index the position was settled at, and all
before that is paid. -/
structure Tracked (index1e18 : Int) (p : PerpPosition) (a : Accrual) : Prop where
  owed : a.owed = p.size1e8 * (index1e18 - p.lastFundingIndex1e18)
  paid : |fundingIndexScale1e18 * a.paid1e8 - p.side.sign * (a.total - a.owed)| ≤
    (fundingIndexScale1e18 - 1) * a.settlements

/-- What the run keeps: the positions are well-formed, and those that are open agree
with their accounts. -/
structure FundingWorld.Accounted (lower : String → String) (w : FundingWorld) : Prop where
  wellFormed : w.positions.WellFormed lower
  /-- The accounts agree. -/
  tracked : ∀ {key p}, w.positions.openAt lower key = some p →
    Tracked (w.index1e18 key.2.2) p (w.accrual key)

section

variable {lower : String → String} {cfg : PerpsReadConfig} {w : FundingWorld}

theorem Tracked.zero (h : p.lastFundingIndex1e18 = i) : Tracked i p .zero where
  owed := by simp [Accrual.zero, h]
  paid := by simp [Accrual.zero]

/-- A settled position may change its size. -/
theorem Tracked.resized (h : Tracked i p a) (hside : p'.side = p.side)
    (hlast : p'.lastFundingIndex1e18 = p.lastFundingIndex1e18)
    (hsettled : p.lastFundingIndex1e18 = i) : Tracked i p' a where
  owed := by
    have howed := h.owed
    rw [hsettled, sub_self, mul_zero] at howed
    rw [howed, hlast, hsettled, sub_self, mul_zero]
  paid := by
    rw [hside]
    exact h.paid

theorem Tracked.moved (h : Tracked i p a) (i' : Int) :
    Tracked i' p (a.accrue (p.size1e8 * (i' - i))) where
  owed := by
    rw [Accrual.accrue, h.owed]
    ring
  paid := by
    have hpaid := h.paid
    have hdiff : (a.accrue (p.size1e8 * (i' - i))).total - (a.accrue (p.size1e8 * (i' - i))).owed =
        a.total - a.owed := by
      simp only [Accrual.accrue]
      ring
    rw [hdiff]
    exact hpaid

/-- What is paid for what is owed. -/
theorem Tracked.payment (h : Tracked i p a) (hpay : payment1e8 =
      (p.side.sign * (p.size1e8 * (i - p.lastFundingIndex1e18))).tdiv fundingIndexScale1e18) :
    |fundingIndexScale1e18 * payment1e8 - p.side.sign * a.owed| ≤ fundingIndexScale1e18 - 1 := by
  rw [hpay, h.owed]
  exact abs_mul_tdiv_sub_lt _

theorem Tracked.payments (h : Tracked i p a)
    (hpay : |fundingIndexScale1e18 * payment1e8 - p.side.sign * a.owed| ≤
      fundingIndexScale1e18 - 1) :
    |fundingIndexScale1e18 * (a.paid1e8 + payment1e8) - p.side.sign * a.total| ≤
      (fundingIndexScale1e18 - 1) * (a.settlements + 1) := by
  have hsplit : fundingIndexScale1e18 * (a.paid1e8 + payment1e8) - p.side.sign * a.total =
      (fundingIndexScale1e18 * a.paid1e8 - p.side.sign * (a.total - a.owed)) +
        (fundingIndexScale1e18 * payment1e8 - p.side.sign * a.owed) := by ring
  rw [hsplit, mul_add, mul_one]
  exact (abs_add_le _ _).trans (add_le_add h.paid hpay)

/-- **A payment for what is owed is fair.** -/
theorem Tracked.fair (h : Tracked i p a) (hpay : payment1e8 =
      (p.side.sign * (p.size1e8 * (i - p.lastFundingIndex1e18))).tdiv fundingIndexScale1e18) :
    Fair p.side a payment1e8 where
  payment := (h.payment hpay).trans_lt (Int.sub_one_lt_of_le le_rfl)
  total := by
    refine (h.payments (h.payment hpay)).trans_lt ?_
    linarith

theorem Tracked.settled (h : Tracked i p a) (hside : p'.side = p.side)
    (hlast : p'.lastFundingIndex1e18 = i) (hpay : payment1e8 =
      (p.side.sign * (p.size1e8 * (i - p.lastFundingIndex1e18))).tdiv fundingIndexScale1e18) :
    Tracked i p' (a.settle payment1e8) where
  owed := by simp [Accrual.settle, hlast]
  paid := by
    have hpaid := h.payments (h.payment hpay)
    simp only [Accrual.settle, sub_zero, hside]
    exact hpaid

/-! ## The calls -/

theorem side_rowAfter (htakes : Holding.Takes market input (some p.holding) new)
    (h : rowAfter input draw (some p) new = some p') :
    p'.side = p.side ∧ p'.lastFundingIndex1e18 = p.lastFundingIndex1e18 := by
  cases htakes with
  | increased => cases h; exact ⟨rfl, rfl⟩
  | reduced => cases h; exact ⟨rfl, rfl⟩
  | closed => cases h

theorem FundingWorld.Accounted.fill (hw : w.Accounted lower)
    (hadm : (FundingCall.fill market input draw).Admissible cfg w)
    (htimely : (FundingCall.fill market input draw).Timely lower cfg w) :
    ((FundingCall.fill market input draw).run lower cfg w).Accounted lower := by
  set w' := (FundingCall.fill market input draw).run lower cfg w with hw'
  have hpos : w'.positions = (applyPerpFillForAccount lower market input draw w.positions).2 := rfl
  have hother : ∀ k, k ≠ fillKey lower input → w'.accrual k = w.accrual k := by
    intro k hk
    simp only [hw', FundingCall.run]
    split
    · exact Function.update_of_ne hk _ _
    · rfl
  cases hok : Holding.applyChecked market input (w.positions.holdingAt lower (fillKey lower input))
    with
  | error e =>
    obtain ⟨_, hrun, rfl⟩ := (applyPerpFillForAccount_spec hw.wellFormed hadm).error hok
    rw [hrun] at hpos
    refine ⟨by rw [hpos]; exact hw.wellFormed, fun {key p} hp => ?_⟩
    rw [hpos] at hp
    -- there is no position under a key whose account is opened
    by_cases hkey : key = fillKey lower input
    · have hsame : w'.accrual key = w.accrual key := by
        simp only [hw', FundingCall.run]
        rw [← hkey, hp]
        rfl
      rw [hsame]
      exact hw.tracked hp
    · rw [hother key hkey]
      exact hw.tracked hp
  | ok new =>
    obtain ⟨out, s', hrun, hwrites⟩ :=
      (applyPerpFillForAccount_spec hw.wellFormed hadm).ok hok
    obtain ⟨-, -, -, htakes⟩ := Holding.applyChecked_eq_ok.1 hok
    rw [hrun] at hpos
    refine ⟨by rw [hpos]; exact hwrites.wellFormed, fun {key p'} hp' => ?_⟩
    rw [hpos, hwrites.openAt_eq] at hp'
    have hindex : w'.index1e18 = w.index1e18 := rfl
    rw [hindex]
    split at hp'
    · next hkey =>
        subst hkey
        have hmarket : (fillKey lower input).2.2 = input.marketId := rfl
        simp only [FundingCall.Timely] at htimely
        rw [holdingAt] at htakes
        cases hp : w.positions.openAt lower (fillKey lower input) with
        | none =>
          rw [hp] at htimely htakes hp'
          have hfresh : w'.accrual (fillKey lower input) = .zero := by
            simp only [hw', FundingCall.run, hp]
            exact Function.update_self _ _ _
          rw [hfresh, hmarket, htimely]
          cases htakes with
          | opened =>
            cases hp'
            exact Tracked.zero rfl
        | some =>
          rw [hp] at htimely htakes hp'
          have hsame : w'.accrual (fillKey lower input) = w.accrual (fillKey lower input) := by
            simp only [hw', FundingCall.run, hp]
            rfl
          obtain ⟨hside, hlast⟩ := side_rowAfter htakes hp'
          rw [hsame]
          rcases htimely with hsettled | ⟨hne, hsize⟩
          · exact (hw.tracked hp).resized hside hlast (by rw [hmarket, hsettled])
          -- the fill closes the position
          · have hclosed := htakes.unique (Holding.Takes.closed hne hsize.symm)
            subst hclosed
            cases hp'
    · next hkey =>
        rw [hother key hkey]
        exact hw.tracked hp'

/-- A movement of an index keeps the accounts. -/
theorem FundingWorld.Accounted.move (hw : w.Accounted lower) (marketId : String) (i' : Int) :
    ((FundingCall.move marketId i').run lower cfg w).Accounted lower where
  wellFormed := hw.wellFormed
  tracked := by
    intro key p hp
    have hp' : w.positions.openAt lower key = some p := hp
    have htracked := hw.tracked hp'
    simp only [FundingCall.run, Function.update_apply]
    split
    · next hkey =>
        have hmoved := htracked.moved i'
        rw [hkey] at hmoved
        rw [FundingWorld.sizeAt, hp', elim_some]
        exact hmoved
    · exact htracked

/-- What a settlement makes of the accounts, from which the tick takes its rule. -/
theorem FundingWorld.Accounted.settlement {index1e18 : String → Int} {accrual : IndexKey → Accrual}
    {read : FundingIndexRead} {now : TimestampMs} {id : Uuid}
    (hw : FundingWorld.Accounted lower ⟨l, index1e18, accrual⟩)
    (hset : Settles lower indices l p read payment1e8)
    (hread : read.cumulativeIndex1e18 = index1e18 p.marketId)
    (hpay : payment1e8 = (p.side.sign * (p.size1e8 * (index1e18 p.marketId -
      p.lastFundingIndex1e18))).tdiv fundingIndexScale1e18) :
    FundingWorld.Accounted lower ⟨l.settled p read.cumulativeIndex1e18 payment1e8 now id, index1e18,
        Function.update accrual (p.key lower) ((accrual (p.key lower)).settle payment1e8)⟩ := by
  have hwrites := hset.writes hw.wellFormed now id
  refine ⟨hwrites.wellFormed, fun {key q} hq => ?_⟩
  have hq' := hwrites.openAt_eq key
  rw [FundingWorld.positions] at hq
  rw [hq] at hq'
  split at hq'
  · next hkey =>
      subst hkey
      obtain rfl := some.inj hq'
      show Tracked _ _ (Function.update accrual (p.key lower) _ (p.key lower))
      rw [Function.update_self]
      exact (hw.tracked hset.isOpen).settled rfl hread hpay
  · next hkey =>
      show Tracked _ _ (Function.update accrual (p.key lower) _ key)
      rw [Function.update_of_ne hkey]
      exact hw.tracked hq'.symm

/-- **A timely tick keeps the accounts, and every payment it makes is fair.** -/
theorem FundingWorld.Accounted.tick (hw : w.Accounted lower)
    (hadm : (FundingCall.tick reader now ids).Admissible cfg w)
    (htimely : (FundingCall.tick reader now ids).Timely lower cfg w) :
    ((FundingCall.tick reader now ids).run lower cfg w).Accounted lower ∧
      ∀ e ∈ FundingCall.newEvents lower cfg reader now ids w.ledger,
        Fair e.side (w.accrual (e.key lower)) e.payment1e8 := by
  set indices := prefetchFundingIndices cfg reader now with hindices
  have hrule : ∃ es, (runPerpFundingTick lower cfg indices now ids w.ledger).2.fundingEvents =
        w.ledger.fundingEvents ++ es ∧
      FundingWorld.Accounted lower ⟨(runPerpFundingTick lower cfg indices now ids w.ledger).2,
        w.index1e18, settleAll lower es w.accrual⟩ ∧
      ∀ e ∈ es, Fair e.side (w.accrual (e.key lower)) e.payment1e8 := by
    refine (runPerpFundingTick_induct (P := fun l => ∃ es,
      l.fundingEvents = w.ledger.fundingEvents ++ es ∧
        FundingWorld.Accounted lower ⟨l, w.index1e18, settleAll lower es w.accrual⟩ ∧
        ∀ e ∈ es, Fair e.side (w.accrual (e.key lower)) e.payment1e8)
      (fun {l p read payment1e8 id} hp _ hP hset => ?_) hw.wellFormed
      ⟨[], (append_nil _).symm, hw, by simp⟩).2
    obtain ⟨es, hevents, haccounted, hfair⟩ := hP
    have hread := hadm _ _ hset.index
    have hpay := calculateFundingPayment1e8_eq (by rw [hread]; exact htimely p hp) hset.payment
    rw [hread] at hpay
    refine ⟨es ++ [fundingEvent p read.cumulativeIndex1e18 payment1e8 now id], ?_, ?_, ?_⟩
    · rw [← append_assoc, ← hevents]
      rfl
    · rw [settleAll, foldl_append]
      exact haccounted.settlement hset hread hpay
    · intro e he
      rcases mem_append.1 he with he | he
      · exact hfair e he
      · obtain rfl := mem_singleton.1 he
        -- the position is settled as it stood before the tick
        exact (hw.tracked (tickCandidates_open hw.wellFormed hp)).fair hpay
  obtain ⟨es, hevents, haccounted, hfair⟩ := hrule
  have hnew : FundingCall.newEvents lower cfg reader now ids w.ledger = es := by
    rw [FundingCall.newEvents, hevents, drop_left]
  refine ⟨?_, by rw [hnew]; exact hfair⟩
  rw [FundingCall.run, hnew]
  exact haccounted

theorem FundingWorld.Accounted.run (hw : w.Accounted lower) {call : FundingCall}
    (hadm : call.Admissible cfg w) (htimely : call.Timely lower cfg w) :
    (call.run lower cfg w).Accounted lower := by
  cases call with
  | fill => exact hw.fill hadm htimely
  | move marketId index1e18 => exact hw.move marketId index1e18
  | tick => exact (hw.tick hadm htimely).1

/-- **In every run of timely calls, every payment is fair.** -/
theorem funding_is_fair {index1e18 : String → Int} {calls : List FundingCall}
    (hrun : TimelyRun lower cfg index1e18 calls w)
    (hadm : (FundingCall.tick reader now ids).Admissible cfg w)
    (htimely : (FundingCall.tick reader now ids).Timely lower cfg w) :
    ∀ e ∈ FundingCall.newEvents lower cfg reader now ids w.ledger,
      Fair e.side (w.accrual (e.key lower)) e.payment1e8 := by
  have hw : w.Accounted lower := by
    refine Run.invariant (P := fun w => w.Accounted lower) hrun ?_ ?_
    · refine ⟨wellFormed_empty, fun {key p} hp => ?_⟩
      simp [FundingWorld.start, FundingWorld.positions, PerpLedger.empty, PerpStores.empty,
        openAt, PositionTable.openAt, PerpPositionsStore.empty] at hp
    · rintro w call _ hw ⟨⟨hadm, htimely⟩, rfl⟩
      exact hw.run hadm htimely
  exact (hw.tick hadm htimely).2

end

namespace EthPerp

def buyUnit : PerpFillInput := ⟨⟨"alice"⟩, 1, "ETH-PERP", .long, 100000000, 300000000000, 300000000000⟩

/-- The reader answers with an index that was never updated. -/
def indexRead (index1e18 : Int) : PerpsReadMarket → Except BackendError FundingIndexRead :=
  fun _ => .ok ⟨index1e18, 0, true⟩

def worldAfter (calls : List FundingCall) : FundingWorld :=
  calls.foldl (fun w call => call.run id (config market) w) (.start fun _ => 0)

/-- The index is at 1. -/
def moveToOne : FundingCall := .move "ETH-PERP" 1000000000000000000

def tickAtOne : FundingCall := .tick (indexRead 1000000000000000000) 5 id

theorem admissible_tickAtOne {w : FundingWorld} (h : w.index1e18 "ETH-PERP" = 1000000000000000000) :
    tickAtOne.Admissible (config market) w := by
  intro marketId read hread
  have hget : (prefetchFundingIndices (config market) (indexRead 1000000000000000000) 5).get?
      marketId = if marketId = "ETH-PERP" then some (some ⟨1000000000000000000, 0, true⟩)
        else none := FMap.get?_set ..
  rw [hget] at hread
  split at hread
  · next hmarket =>
      obtain rfl := some.inj (some.inj hread)
      rw [hmarket, h]
  · cases hread

def paidAtOne (w : FundingWorld) : List (IndexKey × PerpSide × Int) :=
  (FundingCall.newEvents id (config market) (indexRead 1000000000000000000) 5 id w.ledger).map
    fun e => (e.key id, e.side, e.payment1e8)

theorem mem_newEvents {w : FundingWorld} (h : paidAtOne w = [x]) :
    ∃ e ∈ FundingCall.newEvents id (config market) (indexRead 1000000000000000000) 5 id w.ledger,
      e.key id = x.1 ∧ e.side = x.2.1 ∧ e.payment1e8 = x.2.2 := by
  obtain ⟨e, he, heq⟩ := mem_map.1 (h ▸ mem_singleton_self x : x ∈ paidAtOne w)
  exact ⟨e, he, by rw [← heq], by rw [← heq], by rw [← heq]⟩

end EthPerp

open EthPerp in
/-- A unit that was bought at an index of 0 pays for the movement to 1. -/
theorem funding_is_fair_one_unit :
    ∃ e ∈ FundingCall.newEvents id (config market) (indexRead 1000000000000000000) 5 id
        (worldAfter [.fill market buyUnit ⟨1, 1, 1⟩, moveToOne]).ledger,
      e.payment1e8 = 100000000 ∧
      Fair e.side ((worldAfter [.fill market buyUnit ⟨1, 1, 1⟩, moveToOne]).accrual (e.key id))
        e.payment1e8 := by
  have hrun : TimelyRun id (config market) (fun _ => 0)
      [.fill market buyUnit ⟨1, 1, 1⟩, moveToOne]
      (worldAfter [.fill market buyUnit ⟨1, 1, 1⟩, moveToOne]) :=
    (Run.start.snoc ⟨⟨rfl, rfl⟩, rfl⟩).snoc ⟨⟨trivial, trivial⟩, rfl⟩
  obtain ⟨e, he, -, -, hpay⟩ := mem_newEvents (x := (("alice", 1, "ETH-PERP"), .long, 100000000))
    (w := worldAfter [.fill market buyUnit ⟨1, 1, 1⟩, moveToOne]) (by decide +kernel)
  refine ⟨e, he, hpay, funding_is_fair hrun (admissible_tickAtOne (by decide)) ?_ e he⟩
  simp only [FundingCall.Timely]
  decide +kernel

open EthPerp in
/-- **A position is charged for what was before it.**  The index is at 1 when a unit is
bought, nothing accrues, and the tick takes the movement from 0 to 1; and of two units,
the second bought after the movement, it takes the movement for both. -/
theorem late_position_is_charged :
    (FundingRun id (config market) (fun _ => 0) [moveToOne, .fill market buyUnit ⟨1, 1, 1⟩]
        (worldAfter [moveToOne, .fill market buyUnit ⟨1, 1, 1⟩]) ∧
      tickAtOne.Admissible (config market)
        (worldAfter [moveToOne, .fill market buyUnit ⟨1, 1, 1⟩]) ∧
      ∃ e ∈ FundingCall.newEvents id (config market) (indexRead 1000000000000000000) 5 id
          (worldAfter [moveToOne, .fill market buyUnit ⟨1, 1, 1⟩]).ledger,
        e.payment1e8 = 100000000 ∧
        ((worldAfter [moveToOne, .fill market buyUnit ⟨1, 1, 1⟩]).accrual (e.key id)).owed = 0 ∧
        ¬ Fair e.side ((worldAfter [moveToOne, .fill market buyUnit ⟨1, 1, 1⟩]).accrual (e.key id))
          e.payment1e8) ∧
    (FundingRun id (config market) (fun _ => 0)
        [.fill market buyUnit ⟨1, 1, 1⟩, moveToOne, .fill market buyUnit ⟨2, 2, 2⟩]
        (worldAfter [.fill market buyUnit ⟨1, 1, 1⟩, moveToOne, .fill market buyUnit ⟨2, 2, 2⟩]) ∧
      ∃ e ∈ FundingCall.newEvents id (config market) (indexRead 1000000000000000000) 5 id
          (worldAfter [.fill market buyUnit ⟨1, 1, 1⟩, moveToOne,
            .fill market buyUnit ⟨2, 2, 2⟩]).ledger,
        e.payment1e8 = 200000000 ∧
        ((worldAfter [.fill market buyUnit ⟨1, 1, 1⟩, moveToOne,
          .fill market buyUnit ⟨2, 2, 2⟩]).accrual (e.key id)).owed =
            100000000 * 1000000000000000000) := by
  constructor
  · obtain ⟨e, he, hkey, hside, hpay⟩ :=
      mem_newEvents (x := (("alice", 1, "ETH-PERP"), .long, 100000000))
        (w := worldAfter [moveToOne, .fill market buyUnit ⟨1, 1, 1⟩]) (by decide +kernel)
    have howed : ((worldAfter [moveToOne, .fill market buyUnit ⟨1, 1, 1⟩]).accrual
        (e.key id)).owed = 0 := by
      rw [hkey]
      decide +kernel
    have hnew : (FundingCall.fill market buyUnit ⟨1, 1, 1⟩).Admissible (config market)
        (worldAfter [moveToOne]) := rfl
    refine ⟨(Run.start.snoc ⟨trivial, rfl⟩).snoc ⟨hnew, rfl⟩, admissible_tickAtOne (by decide),
      e, he, hpay, howed, fun hfair => ?_⟩
    have hpayment := hfair.payment
    rw [howed, hpay] at hpayment
    exact absurd hpayment (by rw [hside]; decide)
  · obtain ⟨e, he, hkey, -, hpay⟩ :=
      mem_newEvents (x := (("alice", 1, "ETH-PERP"), .long, 200000000))
        (w := worldAfter [.fill market buyUnit ⟨1, 1, 1⟩, moveToOne,
          .fill market buyUnit ⟨2, 2, 2⟩]) (by decide +kernel)
    have hnew : (FundingCall.fill market buyUnit ⟨2, 2, 2⟩).Admissible (config market)
        (worldAfter [.fill market buyUnit ⟨1, 1, 1⟩, moveToOne]) := rfl
    refine ⟨((Run.start.snoc ⟨rfl, rfl⟩).snoc ⟨trivial, rfl⟩).snoc ⟨hnew, rfl⟩, e, he, hpay, ?_⟩
    rw [hkey]
    decide +kernel

end DeoptBackend
