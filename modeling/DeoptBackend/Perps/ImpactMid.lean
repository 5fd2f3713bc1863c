import DeoptBackend.Lib.Act
import DeoptBackend.Perps.Margin

/-!
# The impact price (`src/perps/impact_mid.rs`)

`impactPriceWalk` takes a notional off one side of a book, level by level, and
answers with the average price of what it took.  The base it takes is summed with
sixteen more digits than prices have, so that the floors of the levels do not show
in the average: `impact_price_sound` says when.

* `consumed` — the levels the walk takes from, with the notional it takes.
* `walkLevels_spec` — the loop adds up just those.
-/

namespace DeoptBackend

open Margin List

/-- `Level`: a price and the size resting at it. -/
structure ImpactLevel where
  price1e8 : Nat
  size1e8 : Nat

/-- The reasons a walk can give for having no answer. -/
inductive InsufficientDepth where
  | zeroNotional
  | overflow

namespace ImpactMid

/-- A result that is checked against the greatest word. -/
def checked (max n : Nat) : Except InsufficientDepth Nat :=
  if n ≤ max then .ok n else .error .overflow

/-- The greatest `U256`. -/
def maxU256 : Nat := 2 ^ 256 - 1

/-- The scale the base is summed at. -/
def scale1e24 : Nat := priceScale1e8 * priceScale1e8 * priceScale1e8

/-- `mul_div_1e8`, for the notional of a level. -/
def levelNotional (level : ImpactLevel) : Nat := level.price1e8 * level.size1e8 / priceScale1e8

/-- What is left to take, and what was taken. -/
structure Walk where
  remaining : Nat
  totalCost : Nat
  totalBase1e24 : Nat

/-- The loop of `impact_price_walk`. -/
def walkLevels : List ImpactLevel → Walk → Except InsufficientDepth Walk
  | [], w => .ok w
  | level :: rest, w =>
    if level.price1e8 = 0 ∨ level.size1e8 = 0 then walkLevels rest w
    else do
      let _ ← checked maxU256 (level.price1e8 * level.size1e8)
      let notional ← checked maxU128 (levelNotional level)
      let take := min w.remaining notional
      let scaled ← checked maxU256 (take * scale1e24)
      let totalCost ← checked maxU128 (w.totalCost + take)
      let totalBase1e24 ← checked maxU256 (w.totalBase1e24 + scaled / level.price1e8)
      let remaining := w.remaining - take
      if remaining = 0 then .ok ⟨remaining, totalCost, totalBase1e24⟩
      else walkLevels rest ⟨remaining, totalCost, totalBase1e24⟩

/-- `impact_price_walk`. -/
def impactPriceWalk (side : List ImpactLevel) (notional1e8 : Nat) :
    Except InsufficientDepth (Option Nat) :=
  if notional1e8 = 0 then .error .zeroNotional
  else do
    let w ← walkLevels side ⟨notional1e8, 0, 0⟩
    if 0 < w.remaining ∨ w.totalBase1e24 = 0 then pure none
    else
      let scaled ← checked maxU256 (w.totalCost * scale1e24)
      let vwap ← checked maxU128 (scaled / w.totalBase1e24)
      pure (some vwap)

/-! ## What the walk takes -/

/-- The levels the walk takes from, each with the notional that is taken. -/
def consumed : List ImpactLevel → Nat → List (ImpactLevel × Nat)
  | [], _ => []
  | level :: rest, remaining =>
    let take := min remaining (levelNotional level)
    (level, take) :: if remaining - take = 0 then [] else consumed rest (remaining - take)

def baseOf (taken : List (ImpactLevel × Nat)) : Nat :=
  (taken.map fun c => c.2 * scale1e24 / c.1.price1e8).sum

theorem checked_eq_ok {max m : Nat} : checked max n = .ok m ↔ n ≤ max ∧ n = m := by
  unfold checked
  split <;> simp [*]

theorem consumed_sum (side : List ImpactLevel) (hn : 0 < n) :
    ((consumed side n).map (·.2)).sum = min n (side.map levelNotional).sum := by
  induction side generalizing n with
  | nil => simp [consumed]
  | cons level rest ih =>
    simp only [consumed, map_cons, sum_cons]
    split
    · next h =>
      simp only [map_nil, sum_nil]
      omega
    · next h =>
      rw [ih (Nat.pos_of_ne_zero h)]
      omega

/-- **The loop adds up what it takes.** -/
theorem walkLevels_spec (hpos : ∀ l ∈ side, l.price1e8 ≠ 0 ∧ l.size1e8 ≠ 0)
    (h : walkLevels side w = .ok w') :
    w'.remaining + ((consumed side w.remaining).map (·.2)).sum = w.remaining ∧
      w'.totalCost = w.totalCost + ((consumed side w.remaining).map (·.2)).sum ∧
      w'.totalBase1e24 = w.totalBase1e24 + baseOf (consumed side w.remaining) := by
  induction side generalizing w with
  | nil =>
    cases h
    simp [consumed, baseOf]
  | cons level rest ih =>
    obtain ⟨hl, hrest⟩ := forall_mem_cons.1 hpos
    rw [walkLevels, if_neg (by tauto)] at h
    simp only [Except.bind_eq_ok, checked_eq_ok] at h
    obtain ⟨_, -, _, ⟨-, rfl⟩, _, ⟨-, rfl⟩, _, ⟨-, rfl⟩, _, ⟨-, rfl⟩, h⟩ := h
    simp only [consumed, baseOf, map_cons, sum_cons]
    split_ifs at h ⊢ with hzero
    · cases h
      simp only [map_nil, sum_nil]
      omega
    · obtain ⟨h₁, h₂, h₃⟩ := ih hrest h
      rw [baseOf] at h₃
      dsimp only at h₁ h₂ h₃
      omega

/-- The base of each level is worth no more than its notional at its price, and less
than one unit under it. -/
theorem baseOf_bounds {pmin pmax : Nat}
    (hprice : ∀ c ∈ taken, pmin ≤ c.1.price1e8 ∧ c.1.price1e8 ≤ pmax)
    (hpos : ∀ c ∈ taken, c.1.price1e8 ≠ 0) :
    pmin * baseOf taken ≤ (taken.map (·.2)).sum * scale1e24 ∧
      (taken.map (·.2)).sum * scale1e24 ≤ pmax * baseOf taken + taken.length * pmax := by
  induction taken with
  | nil => simp [baseOf]
  | cons c rest ih =>
    obtain ⟨⟨hmin, hmax⟩, hrest⟩ := forall_mem_cons.1 hprice
    obtain ⟨hc, hposr⟩ := forall_mem_cons.1 hpos
    obtain ⟨ih₁, ih₂⟩ := ih hrest hposr
    unfold baseOf at *
    simp only [map_cons, sum_cons, length_cons]
    set b := c.2 * scale1e24 / c.1.price1e8 with hb
    have hlow : b * c.1.price1e8 ≤ c.2 * scale1e24 := Nat.div_mul_le_self _ _
    have hhigh : c.2 * scale1e24 < c.1.price1e8 * (b + 1) :=
      Nat.lt_mul_div_succ _ (Nat.pos_of_ne_zero hc)
    have h₁ : pmin * b ≤ c.2 * scale1e24 := by nlinarith
    have h₂ : c.2 * scale1e24 ≤ pmax * (b + 1) := hhigh.le.trans (Nat.mul_le_mul_right _ hmax)
    constructor
    · rw [Nat.mul_add, Nat.add_mul]
      omega
    · rw [Nat.mul_add, Nat.add_mul, Nat.add_mul]
      rw [Nat.mul_add] at h₂
      omega

theorem mem_consumed {c : ImpactLevel × Nat} (h : c ∈ consumed side n) : c.1 ∈ side := by
  induction side generalizing n with
  | nil => cases h
  | cons level rest ih =>
    rcases mem_cons.1 h with rfl | h
    · exact mem_cons_self
    · split at h
      · cases h
      · exact mem_cons_of_mem _ (ih h)

/-- **The impact price is an average of the prices it was taken at.**  There is none
exactly when the side is too thin, or the prices are so high that the base taken rounds
to nothing. -/
theorem impact_price_sound {r : Option Nat} (hpos : ∀ l ∈ side, l.price1e8 ≠ 0 ∧ l.size1e8 ≠ 0)
    (h : impactPriceWalk side n = .ok r) :
    (r = none ↔ (side.map levelNotional).sum < n ∨
      ∀ c ∈ consumed side n, c.2 * scale1e24 < c.1.price1e8) ∧
    ∀ v pmin pmax, r = some v →
      (∀ c ∈ consumed side n, pmin ≤ c.1.price1e8 ∧ c.1.price1e8 ≤ pmax) →
      (consumed side n).length * pmax * (pmax + 1) < n * scale1e24 → pmin ≤ v ∧ v ≤ pmax := by
  unfold impactPriceWalk at h
  split at h
  · cases h
  next hn =>
  obtain ⟨w, hw, h⟩ := Except.bind_eq_ok.1 h
  obtain ⟨hrem, hcost, hbase⟩ := walkLevels_spec hpos hw
  dsimp only at hrem hcost hbase
  have hsum := consumed_sum side (Nat.pos_of_ne_zero hn)
  have hpos' : ∀ c ∈ consumed side n, c.1.price1e8 ≠ 0 := fun c hc => (hpos _ (mem_consumed hc)).1
  have hzero : w.totalBase1e24 = 0 ↔ ∀ c ∈ consumed side n, c.2 * scale1e24 < c.1.price1e8 := by
    rw [hbase, Nat.zero_add, baseOf, sum_eq_zero_iff, forall_mem_map]
    refine forall₂_congr fun c hc => ?_
    rw [Nat.div_eq_zero_iff_lt (Nat.pos_of_ne_zero (hpos' c hc))]
  have hthin : 0 < w.remaining ↔ (side.map levelNotional).sum < n := by omega
  rw [← hthin, ← hzero]
  split at h
  · next hnone =>
    cases h
    simpa using hnone
  next hsome =>
  simp only [Except.bind_eq_ok, checked_eq_ok] at h
  obtain ⟨_, ⟨-, rfl⟩, _, ⟨-, rfl⟩, h⟩ := h
  cases h
  refine ⟨by simpa using hsome, ?_⟩
  rintro v pmin pmax hv hprice hroom
  cases hv
  have hb : 0 < w.totalBase1e24 := by omega
  have htotal : ((consumed side n).map (·.2)).sum = n := by omega
  obtain ⟨hlow, hhigh⟩ := baseOf_bounds hprice hpos'
  rw [Nat.zero_add] at hbase hcost
  rw [htotal, ← hbase] at hlow hhigh
  rw [hcost, htotal]
  refine ⟨(Nat.le_div_iff_mul_le hb).2 hlow, Nat.lt_succ_iff.1 ((Nat.div_lt_iff_lt_mul hb).2 ?_)⟩
  -- otherwise the floors of the levels would make up more than the room there is
  by_contra hge
  nlinarith

theorem impact_price_sound_two_levels : ∃ v,
    impactPriceWalk [⟨300000000, 100000000⟩, ⟨400000000, 100000000⟩] 500000000 = .ok (some v) ∧
      300000000 ≤ v ∧ v ≤ 400000000 := by
  have hrun : impactPriceWalk [⟨300000000, 100000000⟩, ⟨400000000, 100000000⟩] 500000000 =
      .ok (some 333333333) := rfl
  exact ⟨_, hrun, (impact_price_sound (by simp) hrun).2 _ _ _ rfl (by decide) (by decide)⟩

/-- **A side that is deep enough, and no price**: the base taken is below the last
digit. -/
theorem impact_price_none_of_deep_side :
    impactPriceWalk [⟨2000000000000000000000000, 1⟩] 1 = .ok none ∧
      1 ≤ ([⟨2000000000000000000000000, 1⟩].map levelNotional).sum :=
  ⟨rfl, by decide⟩

end ImpactMid

end DeoptBackend
