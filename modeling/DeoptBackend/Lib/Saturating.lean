import Mathlib

/-!
# Saturating arithmetic and proportional shares

Words that hold the naturals up to `M`, with the operations that stop at `M`
where the exact result does not fit.  Each operation is the exact one cut off
once, so it never exceeds the exact result (`add_le`, `mul_le`), and it is the
exact result when that fits (`add_eq`, `mul_eq`).

Three quantities are computed from these wherever something is held in
proportion to a size: a share of a total (`share`, rounded up), an average
price (`average`, rounded down) and the part of a total that goes when a part
of the size does (`mulDiv`, rounded down).  For each there is one inequality on
the products, which is what survives the rounding:

* `le_share_mul` — a share is worth at least its part of the total;
* `add_mul_average_le` — an average does not exceed what was averaged;
* `mul_sub_le_mul_sub` — what stays is worth at least its part of the total.
-/

namespace Saturating

variable {M a b d : Nat}

/-- The sum, or `M` if it does not fit. -/
def add (M a b : Nat) : Nat := min (a + b) M

/-- The product, or `M` if it does not fit. -/
def mul (M a b : Nat) : Nat := min (a * b) M

/-- The quotient of a product by `d`, computed from `M` if the product does not
fit. -/
def mulDiv (M a b d : Nat) : Nat :=
  if d = 0 then 0 else if a * b ≤ M then a * b / d else M / d

/-- An integer brought into the range from `lo` to `hi`. -/
def clamp (lo hi x : Int) : Int := max lo (min x hi)

theorem add_le : add M a b ≤ a + b := min_le_left _ _

theorem add_le_max : add M a b ≤ M := min_le_right _ _

theorem add_eq (h : a + b ≤ M) : add M a b = a + b := min_eq_left h

theorem mul_le : mul M a b ≤ a * b := min_le_left _ _

theorem mul_le_max : mul M a b ≤ M := min_le_right _ _

theorem mul_eq (h : a * b ≤ M) : mul M a b = a * b := min_eq_left h

theorem mulDiv_eq : mulDiv M a b d = mul M a b / d := by
  unfold mulDiv mul
  split
  · next h => simp [h]
  · split
    · next h => rw [min_eq_left h]
    · next h => rw [min_eq_right (by omega)]

theorem mulDiv_mul_le : mulDiv M a b d * d ≤ a * b := by
  rw [mulDiv_eq]
  exact (Nat.div_mul_le_self _ _).trans mul_le

/-! ## Shares, averages and what stays -/

/-- The share of `total` that goes with `part` of `whole`, rounded up. -/
def share (M total part whole : Nat) : Nat := mul M total part ⌈/⌉ whole

/-- The average price of `s` at `e` and `f` at `p`, rounded down. -/
def average (M s e f p : Nat) : Nat := add M (mul M s e) (mul M f p) / add M s f

variable {total part whole s e f p m : Nat}

theorem le_ceilDiv_mul (hd : 0 < d) : a ≤ a ⌈/⌉ d * d := by
  have h := le_smul_ceilDiv (b := a) hd
  rwa [smul_eq_mul, mul_comm] at h

/-- **A share is worth at least its part of the total.** -/
theorem le_share_mul (hw : 0 < whole) (hfit : total * part ≤ M) :
    total * part ≤ share M total part whole * whole := by
  rw [share, mul_eq hfit]
  exact le_ceilDiv_mul hw

/-- **An average does not exceed what was averaged.**  The bound by `M` holds
whatever was cut off on the way. -/
theorem add_mul_average_le : add M s f * average M s e f p ≤ min (mul M s e + mul M f p) M := by
  rw [average, mul_comm]
  exact Nat.div_mul_le_self _ _

/-- **What stays is worth at least its part of the total.** -/
theorem mul_sub_le_mul_sub : m * (s - f) ≤ (m - mulDiv M m f s) * s := by
  rw [Nat.mul_sub, Nat.sub_mul]
  exact Nat.sub_le_sub_left mulDiv_mul_le _

end Saturating
