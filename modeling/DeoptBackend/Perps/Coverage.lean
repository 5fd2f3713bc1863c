import DeoptBackend.Perps.Ledger

/-!
# Orders that can be filled

When does a resting order keep the power to trade, whatever becomes of its
account's position meanwhile?  This module answers it for the orders under one
key, without a store.

* `PerpOrder.Backed` — the collateral of an order covers every part of it;
  `Holding.Levered` — a holding is within the leverage cap.  Fills of backed orders
  open and add (`FillOf.opens`, `FillOf.increases`), and what is levered stays so.
* `Covered` — the orders under a key can all be filled, in any order and in any
  parts; `Covered.takes` — a fill of one of them is taken, and the rest stays
  covered.
* `Joins`, `Joined` — an arriving order fits to what stands under its key;
  `Joined.taker`, `Joined.maker`, `Joined.rests` — it stays so through the trades of
  the order, and what is left of it is covered where it rests.
* `Sided` — what is left of this for an arriving order that need not fit:
  `Sided.maker` — an order under the taker's own key still takes its side of a trade.
-/

namespace DeoptBackend

open PerpSide Margin Saturating Function Holding Nat Option

open PerpPositionsStore (fillKey)
open Margin (priceScale1e8)

/-! ## Leverage -/

/-- The leverage cap of the market a key is about. -/
def leverage (cfg : PerpsReadConfig) (key : IndexKey) : Nat :=
  (cfg.marketBySymbol key.2.2).elim 0 (·.maxLeverage)

/-- A size at a price is within the leverage cap of a margin, up to the rounding of
the notional. -/
def Levered (lev size1e8 price1e8 margin1e8 : Nat) : Prop :=
  size1e8 * price1e8 < (margin1e8 * lev + 1) * priceScale1e8

/-- The collateral of an order covers it at its price, whatever part of it is
filled. -/
structure PerpOrder.Backed (lev : Nat) (o : PerpOrder) : Prop where
  /-- The order may open. -/
  opens : o.reduceOnly = false
  /-- It comes with collateral. -/
  posted : 0 < o.isolatedMargin1e8
  /-- The share of a part is computed without overflow. -/
  fits : o.isolatedMargin1e8 * o.size1e8 ≤ maxU128
  /-- The collateral is worth the initial margin at the order's price. -/
  covers : o.size1e8 * o.price1e8 ≤ o.isolatedMargin1e8 * lev * priceScale1e8

section

variable {size : Nat} {o : PerpOrder}

theorem checkMargin_eq_ok : checkMargin what marketId size entry margin lev = .ok u ↔
      initialMarginRequirement1e8 size entry lev ≤ margin ∧ margin ≠ 0 ∧
        Margin.notional1e8 size entry ≤ satMul margin lev := by
  unfold checkMargin enforceLeverageCap
  simp only
  split
  · next h => simp [not_le.2 h]
  next h =>
    split
    · next hm => simp [hm]
    next hm =>
      split
      · next hn => simp [not_le.2 hn]
      · next hn => simp [hm, not_lt.1 h, not_lt.1 hn]

theorem checkMargin_of_levered (hlev : 0 < lev) (hm : 0 < margin)
    (h : Levered lev size entry margin) :
    checkMargin what marketId size entry margin lev = .ok () := by
  have hnotional : Margin.notional1e8 size entry ≤ satMul margin lev := by
    rw [notional1e8_le_iff]
    rcases le_total (margin * lev) maxU128 with hfit | hbig
    · have heq : satMul margin lev = margin * lev := mul_eq hfit
      rw [heq]
      exact mul_le.trans_lt h
    · -- both products are cut off at the greatest word
      have heq : satMul margin lev = maxU128 := min_eq_right hbig
      rw [heq]
      calc satMul size entry ≤ maxU128 := mul_le_max
        _ < (maxU128 + 1) * priceScale1e8 := by decide
  refine checkMargin_eq_ok.2 ⟨?_, hm.ne', hnotional⟩
  rw [initialMarginRequirement1e8, if_neg hlev.ne', ceilDiv, if_neg hlev.ne',
    ceilDiv_le_iff_le_mul hlev, mul_comm]
  exact hnotional.trans mul_le

/-- What passes the margin check without overflow is levered. -/
theorem levered_of_checkMargin (h : checkMargin what marketId size entry margin lev = .ok u)
    (hfit : size * entry ≤ maxU128) : Levered lev size entry margin := by
  obtain ⟨-, -, hnotional⟩ := checkMargin_eq_ok.1 h
  rw [notional1e8_le_iff] at hnotional
  have heq : satMul size entry = size * entry := mul_eq hfit
  rw [heq] at hnotional
  calc size * entry < (satMul margin lev + 1) * priceScale1e8 := hnotional
    _ ≤ (margin * lev + 1) * priceScale1e8 :=
        mul_le_mul_right _ (succ_le_succ mul_le)

theorem PerpOrder.Backed.lev_pos (h : o.Backed lev) (ho : o.Sound) : 0 < lev := by
  rcases Nat.eq_zero_or_pos lev with rfl | hpos
  · have hcovers := h.covers
    have hprod := mul_pos ho.sized ho.priced
    omega
  · exact hpos

/-- **The share of a part of a backed order covers that part.** -/
theorem PerpOrder.Backed.share (h : o.Backed lev) (ho : o.Sound) (hf : 0 < f)
    (hle : f ≤ o.size1e8) : 0 < proRate o.isolatedMargin1e8 f (max o.size1e8 1) ∧ f * o.price1e8 ≤
        proRate o.isolatedMargin1e8 f (max o.size1e8 1) * lev * priceScale1e8 := by
  have hmax : max o.size1e8 1 = o.size1e8 := max_eq_left ho.sized
  rw [hmax]
  set g := proRate o.isolatedMargin1e8 f o.size1e8 with hg
  have hshare : o.isolatedMargin1e8 * f ≤ g * o.size1e8 := by
    rw [hg, proRate_eq]
    exact le_share_mul ho.sized ((mul_le_mul_left _ hle).trans h.fits)
  constructor
  · by_contra hzero
    have hg0 : g = 0 := by omega
    have hpos := mul_pos h.posted hf
    rw [hg0] at hshare
    omega
  · refine le_of_mul_le_mul_right ?_ ho.sized
    calc f * o.price1e8 * o.size1e8 = f * (o.size1e8 * o.price1e8) := by ring
      _ ≤ f * (o.isolatedMargin1e8 * lev * priceScale1e8) := mul_le_mul_left _ h.covers
      _ = o.isolatedMargin1e8 * f * (lev * priceScale1e8) := by ring
      _ ≤ g * o.size1e8 * (lev * priceScale1e8) := mul_le_mul_right _ hshare
      _ = g * lev * priceScale1e8 * o.size1e8 := by ring

end

/-! ## Holdings stay levered -/

section

variable {h : Holding}

def Holding.Levered (lev : Nat) (h : Holding) : Prop :=
  DeoptBackend.Levered lev h.size1e8 h.entryPrice1e8 h.margin1e8

theorem Holding.Levered.ofFill
    (hf : fill.size1e8 * fill.price1e8 ≤ fill.margin1e8 * lev * priceScale1e8) :
    (ofFill fill).Levered lev := by
  calc fill.size1e8 * fill.price1e8 ≤ fill.margin1e8 * lev * priceScale1e8 := hf
    _ < (fill.margin1e8 * lev + 1) * priceScale1e8 := by
        rw [Nat.add_mul]
        exact Nat.lt_add_of_pos_right (by decide)

theorem Holding.Levered.increased (hlev : 0 < lev) (h₀ : h.Levered lev)
    (hf : fill.size1e8 * fill.price1e8 ≤ fill.margin1e8 * lev * priceScale1e8) :
    (h.increased fill).Levered lev := by
  have hprod := h.increased_fits fill
  have hmargin : (h.increased fill).margin1e8 = satAdd h.margin1e8 fill.margin1e8 := rfl
  unfold Holding.Levered DeoptBackend.Levered at *
  rw [hmargin]
  rcases le_total (h.margin1e8 + fill.margin1e8) maxU128 with hfit | hbig
  · have heq : satAdd h.margin1e8 fill.margin1e8 = h.margin1e8 + fill.margin1e8 :=
      add_eq hfit
    rw [heq]
    calc (h.increased fill).size1e8 * (h.increased fill).entryPrice1e8
        ≤ satMul h.size1e8 h.entryPrice1e8 + satMul fill.size1e8 fill.price1e8 :=
          hprod.trans (min_le_left _ _)
      _ ≤ h.size1e8 * h.entryPrice1e8 + fill.size1e8 * fill.price1e8 :=
          Nat.add_le_add mul_le mul_le
      _ < (h.margin1e8 * lev + 1) * priceScale1e8 + fill.margin1e8 * lev * priceScale1e8 :=
          add_lt_add_of_lt_of_le h₀ hf
      _ = ((h.margin1e8 + fill.margin1e8) * lev + 1) * priceScale1e8 := by ring
  · -- the margin is cut off at the greatest word, and so is the product
    have heq : satAdd h.margin1e8 fill.margin1e8 = maxU128 := min_eq_right hbig
    rw [heq]
    calc (h.increased fill).size1e8 * (h.increased fill).entryPrice1e8
        ≤ maxU128 := hprod.trans (min_le_right _ _)
      _ ≤ maxU128 * lev := Nat.le_mul_of_pos_right _ hlev
      _ < maxU128 * lev + 1 := Nat.lt_succ_self _
      _ ≤ (maxU128 * lev + 1) * priceScale1e8 := Nat.le_mul_of_pos_right _ (by decide)

theorem Holding.Levered.reduced (h₀ : h.Levered lev) (hlt : fill.size1e8 < h.size1e8) :
    (h.reduced fill).Levered lev := by
  have hkeep : h.margin1e8 * (h.size1e8 - fill.size1e8) ≤
      (h.reduced fill).margin1e8 * h.size1e8 := mul_sub_le_mul_sub
  set left := h.size1e8 - fill.size1e8 with hleft
  set m' := (h.reduced fill).margin1e8
  have hpos : 0 < left := by omega
  have hle : left ≤ h.size1e8 := by omega
  refine Nat.lt_of_mul_lt_mul_right (a := h.size1e8) ?_
  calc left * h.entryPrice1e8 * h.size1e8 = left * (h.size1e8 * h.entryPrice1e8) := by ring
    _ < left * ((h.margin1e8 * lev + 1) * priceScale1e8) := mul_lt_mul_of_pos_left h₀ hpos
    _ = (h.margin1e8 * left * lev + left) * priceScale1e8 := by ring
    _ ≤ (m' * h.size1e8 * lev + h.size1e8) * priceScale1e8 :=
        Nat.mul_le_mul_right _ (Nat.add_le_add (Nat.mul_le_mul_right _ hkeep) hle)
    _ = (m' * lev + 1) * priceScale1e8 * h.size1e8 := by ring

end

/-! ## What stands under one key

The orders under a key enter by what is left of them on each side, `w`, and by
whether those of a side are all backed, `b`.  An order is on the side it pushes
the position to. -/

/-- **The orders under a key can all be filled**, in any order and in any parts.
With nothing held they are backed and all on one side.  Otherwise those that add to
the holding are backed, and those that reduce it fit into it. -/
def Covered (lev : Nat) (x : Option Holding) (w : PerpSide → Nat) (b : PerpSide → Prop) : Prop :=
  match x with
  | none => (∃ d, w d = 0) ∧ ∀ d, 0 < w d → b d
  | some h => w h.side.opposite ≤ h.size1e8 ∧ (0 < w h.side → b h.side ∧ h.Levered lev)

/-- **An arriving order joins what stands under its key**: `r` is what is left of it,
`w` what is left of the others.  Only what rests has to be backed; an order that
goes against the holding must leave room for the others, unless it cannot rest and
there are none. -/
def Joins (lev : Nat) (o : PerpOrder) (x : Option Holding) (w : PerpSide → Nat) (r : Nat) : Prop :=
  match x with
  | none => w o.side.positionSide.opposite = 0 ∧ (o.timeInForce = .gtc → o.Backed lev)
  | some h =>
    if h.side = o.side.positionSide then
      o.timeInForce = .gtc → o.Backed lev ∧ h.Levered lev
    else
      o.timeInForce = .gtc ∨ 0 < w h.side ∨ 0 < w h.side.opposite →
        w h.side.opposite + r ≤ h.size1e8

/-- A fill of `f` from an order that stands under a key, as it is applied to the position
there. -/
structure FillOf (market : PerpsReadMarket) (lev : Nat) (w : PerpSide → Nat) (b : PerpSide → Prop)
    (o : PerpOrder) (f : Nat) (fill : PerpFillInput) : Prop where
  leverage : market.maxLeverage = lev
  side : fill.side = o.side.positionSide
  size : fill.size1e8 = f
  /-- It is at the order's price. -/
  price : fill.price1e8 = o.price1e8
  /-- It comes with a share of the order's collateral. -/
  margin : fill.margin1e8 =
    if o.reduceOnly then 0 else proRate o.isolatedMargin1e8 f (max o.size1e8 1)
  sound : o.Sound
  sized : 0 < f
  fits : f ≤ o.remainingSize1e8
  working : o.remainingSize1e8 ≤ w o.side.positionSide
  backed : b o.side.positionSide → o.Backed lev

section

variable {h : Holding}

section

variable (hfill : FillOf market lev w b o f fill) (hb : b o.side.positionSide)
include hfill hb

theorem FillOf.covers : fill.margin1e8 ≠ 0 ∧
    fill.size1e8 * fill.price1e8 ≤ fill.margin1e8 * lev * priceScale1e8 := by
  have hb := hfill.backed hb
  obtain ⟨hpos, hcovers⟩ :=
    hb.share hfill.sound hfill.sized (hfill.fits.trans hfill.sound.remaining_le)
  rw [hfill.margin, hb.opens, hfill.size, hfill.price]
  exact ⟨hpos.ne', hcovers⟩

/-- **A backed order opens.** -/
theorem FillOf.opens :
    Holding.Takes market fill none (some (ofFill fill)) ∧ (ofFill fill).Levered lev := by
  obtain ⟨hm, hcovers⟩ := hfill.covers hb
  have hlevered := Holding.Levered.ofFill hcovers
  refine ⟨.opened hm ?_, hlevered⟩
  rw [hfill.leverage]
  exact checkMargin_of_levered ((hfill.backed hb).lev_pos hfill.sound) (pos_of_ne_zero hm) hlevered

/-- **A backed order adds to what is levered.** -/
theorem FillOf.increases (hside : h.side = o.side.positionSide) (h₀ : h.Levered lev) :
    Holding.Takes market fill (some h) (some (h.increased fill)) ∧
      (h.increased fill).Levered lev := by
  obtain ⟨hm, hcovers⟩ := hfill.covers hb
  have hlev := (hfill.backed hb).lev_pos hfill.sound
  have hlevered := h₀.increased hlev hcovers
  refine ⟨.increased (hside.trans hfill.side.symm) hm ?_, hlevered⟩
  rw [hfill.leverage]
  refine checkMargin_of_levered hlev ?_ hlevered
  exact lt_min (Nat.add_pos_right _ (Nat.pos_of_ne_zero hm)) (by decide)

end

/-- A fill that fits into the holding reduces or closes it. -/
theorem FillOf.reduces (hfill : FillOf market lev w b o f fill)
    (hside : h.side = o.side.positionSide.opposite) (hle : f ≤ h.size1e8) :
    Holding.Takes market fill (some h) (if f = h.size1e8 then none else some (h.reduced fill)) := by
  have hne : h.side ≠ fill.side := by
    rw [hside, hfill.side]
    exact opposite_ne _
  split
  · next heq => exact .closed hne (hfill.size.trans heq)
  · next hneq => exact .reduced hne (by rw [hfill.size]; omega)

theorem Holding.le_increased (hs : h.Sound) (fill : PerpFillInput) :
    h.size1e8 ≤ (h.increased fill).size1e8 :=
  le_min (le_add_right _ _) hs.fits

/-- **A covered order can be filled**, and what is left stays covered. -/
theorem Covered.takes (hc : Covered lev x w b) (hx : ∀ h, x = some h → h.Sound)
    (hfill : FillOf market lev w b o f fill) : ∃ x', Holding.Takes market fill x x' ∧
      Covered lev x' (Function.update w o.side.positionSide (w o.side.positionSide - f)) b := by
  have hf := hfill.sized
  have hle := hfill.fits.trans hfill.working
  set d := o.side.positionSide with hd
  have hwd : 0 < w d := by omega
  have hother : Function.update w d (w d - f) d.opposite = w d.opposite :=
    update_of_ne (opposite_ne d) _ _
  cases x with
  | none =>
    obtain ⟨⟨d₀, hzero⟩, hall⟩ := hc
    have hd₀ : d₀ = d.opposite := by
      refine ne_iff_eq_opposite.1 ?_
      rintro rfl
      omega
    obtain ⟨htakes, hlevered⟩ := hfill.opens (hall d hwd)
    have hside : (ofFill fill).side = d := hfill.side
    refine ⟨_, htakes, ?_, fun _ => ?_⟩
    · rw [hside, hother, ← hd₀, hzero]
      exact zero_le _
    · rw [hside]
      exact ⟨hall d hwd, hlevered⟩
  | some h =>
    obtain ⟨hroom, hown⟩ := hc
    by_cases hside : h.side = d
    · obtain ⟨hbd, h₀⟩ := hown (hside ▸ hwd)
      rw [hside] at hbd hroom
      obtain ⟨htakes, hlevered⟩ := hfill.increases hbd hside h₀
      have hside' : (h.increased fill).side = d := hside
      refine ⟨_, htakes, ?_, fun _ => ?_⟩
      · rw [hside', hother]
        exact hroom.trans (le_increased (hx h rfl) fill)
      · rw [hside']
        exact ⟨hbd, hlevered⟩
    have hopp : h.side = d.opposite := ne_iff_eq_opposite.1 hside
    have hopp' : h.side.opposite = d := by rw [hopp, opposite_opposite]
    rw [hopp'] at hroom
    refine ⟨_, hfill.reduces hopp (by omega), ?_⟩
    split
    -- the holding is closed: nothing is left on the side that reduced it
    · next heq =>
        have hzero : Function.update w d (w d - f) d = 0 := by
          rw [update_self]
          omega
        refine ⟨⟨d, hzero⟩, fun d' hd' => ?_⟩
        have hne : d' ≠ d := by
          rintro rfl
          omega
        rw [update_of_ne hne] at hd'
        obtain rfl : d' = h.side := by rw [hopp]; exact ne_iff_eq_opposite.1 hne
        exact (hown hd').1
    · next hneq =>
        have hside' : (h.reduced fill).side = h.side := rfl
        have hsize : (h.reduced fill).size1e8 = h.size1e8 - f := by
          rw [← hfill.size]
          rfl
        refine ⟨?_, fun hpos => ?_⟩
        · rw [hside', hopp', update_self, hsize]
          omega
        · rw [hside', update_of_ne hside] at hpos
          obtain ⟨hbh, h₀⟩ := hown hpos
          exact ⟨hbh, h₀.reduced (by rw [hfill.size]; omega)⟩

/-! ### The key of the arriving order -/

/-- What stands under the key of an arriving order is covered, and what is left of the
order still joins it. -/
def Joined (lev : Nat) (o : PerpOrder) (x : Option Holding) (w : PerpSide → Nat)
    (b : PerpSide → Prop) (r : Nat) : Prop :=
  Covered lev x w b ∧ (0 < r → Joins lev o x w r)

/-- **The arriving order takes a fill**, at any price that does not overflow. -/
theorem Joined.taker (hj : Joined lev o x w b r) (hx : ∀ h, x = some h → h.Sound)
    (htakes : Holding.Takes market fill x x') (hlev : market.maxLeverage = lev)
    (hside : fill.side = o.side.positionSide) (hpos : 0 < fill.size1e8) (hle : fill.size1e8 ≤ r)
    (hfit : fill.size1e8 * fill.price1e8 ≤ maxU128) : Joined lev o x' w b (r - fill.size1e8) := by
  obtain ⟨hc, hjoins⟩ := hj
  have hjoins := hjoins (by omega)
  subst hlev
  cases htakes with
  | opened hm hcheck =>
    have hlevered : (ofFill fill).Levered market.maxLeverage := levered_of_checkMargin hcheck hfit
    obtain ⟨hzero, hbacked⟩ := hjoins
    have hs : (ofFill fill).side = o.side.positionSide := hside
    refine ⟨⟨?_, fun hw => ?_⟩, fun _ => ?_⟩
    · rw [hs, hzero]
      exact zero_le _
    · exact ⟨hc.2 _ hw, hlevered⟩
    · rw [Joins, if_pos hs]
      exact fun hgtc => ⟨hbacked hgtc, hlevered⟩
  | @increased h heq hm hcheck =>
    have hlevered : (h.increased fill).Levered market.maxLeverage :=
      levered_of_checkMargin hcheck ((h.increased_fits fill).trans (min_le_right _ _))
    have hs : h.side = o.side.positionSide := heq.trans hside
    have hs' : (h.increased fill).side = o.side.positionSide := hs
    rw [Joins, if_pos hs] at hjoins
    refine ⟨⟨hc.1.trans (le_increased (hx h rfl) fill), fun hw => ?_⟩, fun _ => ?_⟩
    · exact ⟨(hc.2 hw).1, hlevered⟩
    · rw [Joins, if_pos hs']
      exact fun hgtc => ⟨(hjoins hgtc).1, hlevered⟩
  | @reduced h hne hlt =>
    have hs : h.side ≠ o.side.positionSide := fun heq => hne (heq.trans hside.symm)
    have hs' : (h.reduced fill).side ≠ o.side.positionSide := hs
    have hsize : (h.reduced fill).size1e8 = h.size1e8 - fill.size1e8 := rfl
    rw [Joins, if_neg hs] at hjoins
    refine ⟨⟨?_, fun hw => ⟨(hc.2 hw).1, (hc.2 hw).2.reduced hlt⟩⟩, fun _ => ?_⟩
    · change w h.side.opposite ≤ _
      rcases Nat.eq_zero_or_pos (w h.side.opposite) with hzero | hw
      · omega
      · omega
    · rw [Joins, if_neg hs', hsize]
      intro hstrict
      have := hjoins hstrict
      change w h.side.opposite + _ ≤ _
      omega
  | @closed h hne heq =>
    have hs : h.side ≠ o.side.positionSide := fun heq => hne (heq.trans hside.symm)
    have hopp : o.side.positionSide.opposite = h.side := by
      rw [ne_iff_eq_opposite.1 hs]
    rw [Joins, if_neg hs] at hjoins
    have hzero : w h.side.opposite = 0 := by
      by_contra hw
      omega
    refine ⟨⟨⟨_, hzero⟩, fun d hw => ?_⟩, fun hleft => ?_⟩
    · have hd : d = h.side := by
        by_contra hd
        rw [ne_iff_eq_opposite.1 hd] at hw
        omega
      subst hd
      exact (hc.2 hw).1
    -- more is left than was held: nothing else stands there, and the order cannot rest
    · have hloose : ¬ (o.timeInForce = .gtc ∨ 0 < w h.side ∨ 0 < w h.side.opposite) := by
        intro hstrict
        have := hjoins hstrict
        omega
      rw [not_or, not_or] at hloose
      refine ⟨?_, fun hgtc => absurd hgtc hloose.1⟩
      rw [hopp]
      omega

/-- **A fill of another order under the same key**, on the other side. -/
theorem Joined.maker (hj : Joined lev o x w b r) (hx : ∀ h, x = some h → h.Sound)
    (hfill : FillOf market lev w b q f fill)
    (hqs : q.side.positionSide = o.side.positionSide.opposite) :
    ∃ x', Holding.Takes market fill x x' ∧
      Joined lev o x' (Function.update w q.side.positionSide (w q.side.positionSide - f)) b r := by
  obtain ⟨hc, hjoins⟩ := hj
  obtain ⟨x', htakes, hc'⟩ := hc.takes hx hfill
  refine ⟨x', htakes, hc', fun hr => ?_⟩
  have hjoins := hjoins hr
  have hf := hfill.sized
  have hw := hfill.fits.trans hfill.working
  have hsize := hfill.size
  have hqside : fill.side = o.side.positionSide.opposite := hfill.side.trans hqs
  rw [hqs] at hw ⊢
  set e := o.side.positionSide with he
  have hown : Function.update w e.opposite (w e.opposite - f) e = w e :=
    update_of_ne (opposite_ne e).symm _ _
  cases htakes with
  | opened =>
    have hzero := hjoins.1
    rw [← he] at hzero
    omega
  | @increased h heq _ _ =>
    have hs : h.side = e.opposite := heq.trans hqside
    have hne : h.side ≠ o.side.positionSide := by
      rw [hs]
      exact opposite_ne e
    have hne' : (h.increased fill).side ≠ o.side.positionSide := hne
    have hside' : (h.increased fill).side = e.opposite := hs
    rw [Joins, if_neg hne, hs, opposite_opposite] at hjoins
    rw [Joins, if_neg hne', hside', opposite_opposite, hown, update_self]
    intro hstrict
    refine (hjoins ?_).trans (le_increased (hx h rfl) fill)
    rcases hstrict with hgtc | hpos | hpos
    · exact .inl hgtc
    · exact .inr (.inl (by omega))
    · exact .inr (.inr hpos)
  | @reduced h hne hlt =>
    have hs : h.side = e := by rw [ne_iff_eq_opposite.1 hne, hqside, opposite_opposite]
    have hs' : (h.reduced fill).side = o.side.positionSide := hs
    rw [Joins, if_pos hs] at hjoins
    rw [Joins, if_pos hs']
    exact fun hgtc => ⟨(hjoins hgtc).1, (hjoins hgtc).2.reduced hlt⟩
  | @closed h hne heq =>
    have hs : h.side = e := by rw [ne_iff_eq_opposite.1 hne, hqside, opposite_opposite]
    rw [Joins, if_pos hs] at hjoins
    have hroom : w h.side.opposite ≤ h.size1e8 := hc.1
    rw [hs] at hroom
    refine ⟨?_, fun hgtc => (hjoins hgtc).1⟩
    rw [update_self]
    omega

/-- **What is left of the order rests.** -/
theorem Joined.rests (hj : Joined lev o x w b r) (hr : 0 < r) (hgtc : o.timeInForce = .gtc)
    (hb : ∀ d, (0 < w d → b d) → (d = o.side.positionSide → o.Backed lev) → b' d) :
    Covered lev x (Function.update w o.side.positionSide (w o.side.positionSide + r)) b' := by
  obtain ⟨hc, hjoins⟩ := hj
  have hjoins := hjoins hr
  set e := o.side.positionSide with he
  have hother : Function.update w e (w e + r) e.opposite = w e.opposite :=
    update_of_ne (opposite_ne e) _ _
  cases x with
  | none =>
    obtain ⟨hzero, hbacked⟩ := hjoins
    exact ⟨⟨e.opposite, by rw [hother, hzero]⟩, fun d _ => hb d (hc.2 d) fun _ => hbacked hgtc⟩
  | some h =>
    by_cases hs : h.side = e
    · rw [Joins, if_pos hs] at hjoins
      obtain ⟨hbacked, hlevered⟩ := hjoins hgtc
      have hroom : w h.side.opposite ≤ h.size1e8 := hc.1
      refine ⟨?_, fun _ => ⟨hb _ (fun hw => (hc.2 hw).1) fun _ => hbacked, hlevered⟩⟩
      rw [hs, hother]
      rwa [hs] at hroom
    · have hopp : h.side.opposite = e := by
        rw [ne_iff_eq_opposite.1 hs, opposite_opposite]
      rw [Joins, if_neg hs, hopp] at hjoins
      refine ⟨?_, fun hw => ?_⟩
      · rw [hopp, update_self]
        exact hjoins (.inl hgtc)
      · rw [update_of_ne hs] at hw
        exact ⟨hb _ (fun _ => (hc.2 hw).1) fun heq => absurd heq hs, (hc.2 hw).2⟩

/-! ### The key of an order that need not join -/

/-- As long as the holding is on the side `d`, the orders of that side are backed and
the holding is levered. -/
def Sided (lev : Nat) (x : Option Holding) (w : PerpSide → Nat) (b : PerpSide → Prop)
    (d : PerpSide) : Prop :=
  ∀ h, x = some h → h.side = d → 0 < w d → b d ∧ h.Levered lev

theorem Covered.sided (hc : Covered lev x w b) (d : PerpSide) : Sided lev x w b d := by
  rintro h rfl rfl hw
  exact hc.2 hw

/-- A fill the other way keeps it. -/
theorem Sided.taker (hd : Sided lev x w b d) (htakes : Holding.Takes market fill x x')
    (hside : fill.side = d.opposite) : Sided lev x' w b d := by
  rintro h' rfl hs hw
  cases htakes with
  | opened => exact absurd (hs.symm.trans hside) (opposite_ne d).symm
  | increased heq =>
    exact absurd (hs.symm.trans (heq.trans hside)) (opposite_ne d).symm
  | @reduced h hne hlt =>
    obtain ⟨hbd, h₀⟩ := hd h rfl hs hw
    exact ⟨hbd, h₀.reduced hlt⟩

/-- **After a fill the other way, an order takes one of the same size.** -/
theorem Sided.maker (hd : Sided lev x w b q.side.positionSide)
    (htakes : Holding.Takes market fill x x') (hside : fill.side = q.side.positionSide.opposite)
    (hsize : fill.size1e8 = f) (hfits : f ≤ maxU128) (hfill : FillOf market lev w b q f fill') :
    ∃ x'', Holding.Takes market fill' x' x'' ∧ Sided lev x''
        (Function.update w q.side.positionSide (w q.side.positionSide - f)) b
        q.side.positionSide := by
  have hwd := hfill.sized.trans_le (hfill.fits.trans hfill.working)
  set d := q.side.positionSide with hqd
  -- a holding on the other side is reduced, and stays there or is closed
  have hreduce : ∀ h : Holding, h.side = d.opposite → f ≤ h.size1e8 →
      ∃ x'', Holding.Takes market fill' (some h) x'' ∧
        Sided lev x'' (Function.update w d (w d - f)) b d := by
    intro h hs hfle
    refine ⟨_, hfill.reduces hs hfle, ?_⟩
    rintro h' hh' hs' -
    split at hh'
    · cases hh'
    · obtain rfl := some.inj hh'
      exact absurd (hs'.symm.trans hs) (opposite_ne d).symm
  cases htakes with
  | opened => exact hreduce _ hside hsize.ge
  | @increased h heq _ _ =>
    refine hreduce _ (heq.trans hside) (le_min ?_ hfits)
    rw [hsize]
    exact le_add_left _ _
  | @reduced h hne hlt =>
    have hs : h.side = d := by rw [ne_iff_eq_opposite.1 hne, hside, opposite_opposite]
    have hs' : (h.reduced fill).side = d := hs
    obtain ⟨hbd, h₀⟩ := hd h rfl hs hwd
    obtain ⟨htakes', hlevered⟩ := hfill.increases hbd hs' (h₀.reduced hlt)
    refine ⟨_, htakes', ?_⟩
    rintro h' hh' - -
    obtain rfl := some.inj hh'
    exact ⟨hbd, hlevered⟩
  | @closed h hne heq =>
    have hs : h.side = d := by rw [ne_iff_eq_opposite.1 hne, hside, opposite_opposite]
    obtain ⟨hbd, -⟩ := hd h rfl hs hwd
    obtain ⟨htakes', hlevered⟩ := hfill.opens hbd
    refine ⟨_, htakes', ?_⟩
    rintro h' hh' - -
    obtain rfl := some.inj hh'
    exact ⟨hbd, hlevered⟩

end

end DeoptBackend
