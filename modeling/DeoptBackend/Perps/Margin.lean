import DeoptBackend.Lib.Saturating
import DeoptBackend.Perps.Types

/-!
# Margin and PnL arithmetic (`src/perps/margin.rs`)

The pure arithmetic of the position engine, on integers scaled by `1e8`.
Unsigned products saturate at the greatest `u128`; signed ones are computed in
`i128` from amounts cast with `as`, which wraps, and saturate there.

`notional1e8_eq` puts the notional in the form every bound is proved with: the
saturating product, divided once.
-/

namespace DeoptBackend

open Saturating

namespace Margin

/-- `PRICE_SCALE_1E8`. -/
def priceScale1e8 : Nat := 100000000

/-- `BPS`. -/
def bps : Nat := 10000

/-! ## Machine integers -/

/-- The least `i128`. -/
def minI128 : Int := -(2 ^ 127)

/-- The greatest `i128`. -/
def maxI128 : Int := 2 ^ 127 - 1

/-- `as i128`, which wraps. -/
def asI128 (n : Nat) : Int := Int.bmod n (2 ^ 128)

/-- An `i128` result that saturates. -/
def satI128 (x : Int) : Int := clamp minI128 maxI128 x

/-- `mul_div_floor`, the same text in `margin.rs`, `fills.rs` and
`execution_pg.rs`. -/
def mulDivFloor (a b denom : Nat) : Nat := mulDiv maxU128 a b denom

/-- `ceil_div`. -/
def ceilDiv (a b : Nat) : Nat := if b = 0 then maxU128 else a ⌈/⌉ b

/-- `saturating_add` on `u128`. -/
def satAdd (a b : Nat) : Nat := add maxU128 a b

/-- `saturating_mul` on `u128`. -/
def satMul (a b : Nat) : Nat := mul maxU128 a b

/-- `pro_rate`, the same text in `execution.rs` and `execution_pg.rs`: the share
of `total` that goes with `part` of `whole`, rounded up. -/
def proRate (total part whole : Nat) : Nat :=
  if whole = 0 then 0 else satMul total part ⌈/⌉ whole

/-! ## Notional and requirements -/

/-- `notional_1e8`. -/
def notional1e8 (size price : Nat) : Nat :=
  if size = 0 ∨ price = 0 then 0 else mulDivFloor size price priceScale1e8

/-- `initial_margin_requirement_1e8`. -/
def initialMarginRequirement1e8 (size price maxLeverage : Nat) : Nat :=
  if maxLeverage = 0 then maxU128 else ceilDiv (notional1e8 size price) maxLeverage

/-- `maintenance_margin_requirement_1e8`. -/
def maintenanceMarginRequirement1e8 (size price maintenanceBps : Nat) : Nat :=
  let notional := notional1e8 size price
  if maintenanceBps = 0 ∨ notional = 0 then 0
  else ceilDiv (satMul notional maintenanceBps) bps

/-- `weighted_average_entry_1e8`. -/
def weightedAverageEntry1e8 (existingSize existingEntry addSize addPrice : Nat) : Nat :=
  let totalSize := satAdd existingSize addSize
  if totalSize = 0 then 0
  else satAdd (satMul existingSize existingEntry) (satMul addSize addPrice) / totalSize

/-! ## Profit and loss -/

variable (position : PerpPosition) (markPrice1e8 : Nat)

/-- `unrealized_pnl_1e8`. -/
def unrealizedPnl1e8 : Int :=
  if position.size1e8 = 0 ∨ markPrice1e8 = 0 then 0
  else
    let entry := asI128 position.entryPrice1e8
    let mark := asI128 markPrice1e8
    let size := asI128 position.size1e8
    let deltaPrice :=
      match position.side with
      | .long => satI128 (mark - entry)
      | .short => satI128 (entry - mark)
    (satI128 (deltaPrice * size)).tdiv priceScale1e8

/-- `equity_1e8`. -/
def equity1e8 : Int :=
  satI128 (asI128 position.margin1e8 + unrealizedPnl1e8 position markPrice1e8)

/-- `realized_pnl_1e8`. -/
def realizedPnl1e8 (entryPrice1e8 closePrice1e8 closeSize1e8 : Nat) (side : PerpSide) : Int :=
  if closeSize1e8 = 0 ∨ closePrice1e8 = 0 ∨ entryPrice1e8 = 0 then 0
  else
    let entry := asI128 entryPrice1e8
    let close := asI128 closePrice1e8
    let size := asI128 closeSize1e8
    let delta :=
      match side with
      | .long => satI128 (close - entry)
      | .short => satI128 (entry - close)
    (satI128 (delta * size)).tdiv priceScale1e8

/-- `margin_ratio_bps`. -/
def marginRatioBps : Nat :=
  let notional := notional1e8 position.size1e8 markPrice1e8
  if notional = 0 then 0
  else
    let equity := equity1e8 position markPrice1e8
    if equity ≤ 0 then 0 else mulDivFloor equity.toNat bps notional

/-! ## The forms used in proofs -/

theorem priceScale1e8_pos : 0 < priceScale1e8 := by decide

theorem satI128_eq (h : (x.natAbs : Int) ≤ maxI128) : satI128 x = x := by
  simp only [satI128, clamp, minI128, maxI128] at *
  omega

theorem asI128_eq {n : Nat} (h : (n : Int) ≤ maxI128) : asI128 n = n := by
  refine Int.bmod_eq_of_le ?_ ?_ <;> simp only [maxI128] at h <;> omega

theorem notional1e8_eq (size price : Nat) :
    notional1e8 size price = satMul size price / priceScale1e8 := by
  unfold notional1e8 mulDivFloor satMul
  split
  · next h => rcases h with rfl | rfl <;> simp [mul]
  · exact mulDiv_eq

theorem proRate_eq (total part whole : Nat) :
    proRate total part whole = share maxU128 total part whole := by
  unfold proRate share satMul
  split
  · next h => subst h; simp
  · rfl

theorem weightedAverageEntry1e8_eq (s e f p : Nat) :
    weightedAverageEntry1e8 s e f p = average maxU128 s e f p := by
  unfold weightedAverageEntry1e8 average satAdd satMul
  simp only
  split
  · next h => simp [h]
  · rfl

/-- A notional is within a bound exactly when the product is. -/
theorem notional1e8_le_iff :
    notional1e8 size price ≤ n ↔ satMul size price < (n + 1) * priceScale1e8 := by
  rw [notional1e8_eq, ← Nat.lt_succ_iff, Nat.div_lt_iff_lt_mul priceScale1e8_pos]

example : notional1e8 200000000 300000000000 = 600000000000 := by decide

end Margin

end DeoptBackend
