import Mathlib

/-!
# Gas and fees of an execution (`src/hybrid_v2/execution/gas_policy.rs`)

An operator bounds what an execution may cost; the gas limit and the fees are derived from a
simulation and from the fees of recent blocks.

* `GasFeePolicy.validateConfigStartup`, `GasFeePolicy.compute` — the checks in their order.
* `median_spec` — half of the samples lie on either side of the median.
* `gas_envelope` — **what an accepted policy computes stays within its bounds**.
-/

namespace DeoptBackend.HybridV2

open List

/-- `GasFeePolicy`. -/
structure GasFeePolicy where
  maxGasLimit : Nat
  /-- What the estimate is multiplied by, in basis points. -/
  gasLimitMultiplierBps : Nat
  maxFeePerGasWei : Nat
  maxPriorityFeePerGasWei : Nat
  maxTotalNativeCostWei : Nat
  /-- How many times the median the newest base fee may be. -/
  abnormalEstimateRejectThreshold : Nat

/-- `GasPolicyError`. -/
inductive GasPolicyError where
  | estimateExceedsCeiling (estimate ceiling : Nat)
  | estimateZero
  | estimateOverflow
  | feeCapExceeded (computed ceiling : Nat)
  | totalCostExceeded (computed ceiling : Nat)
  | abnormalEstimate (estimate threshold : Nat)
  | providerFeeAnomaly (reason : String)
  | misconfigured (reason : String)
  | simulationNotSuccessful
  deriving DecidableEq

/-- What is read of a `SimulationOutcome`. -/
structure SimulationOutcome where
  gasEstimate : Nat
  ethCallOk : Bool

/-- What is read of a `FeeHistory`. -/
structure FeeHistory where
  baseFeePerGas : List Nat
  reward : List (List Nat)

/-- `GasComputationOutcome`. -/
structure GasComputationOutcome where
  gasLimit : Nat
  maxFeePerGasWei : Nat
  maxPriorityFeePerGasWei : Nat
  estimatedTotalCostWei : Nat
  deriving DecidableEq

/-- The answer, if none of the conditions holds; they are asked one after the other. -/
def unlessAny (answer : α) : List (Bool × GasPolicyError) → Except GasPolicyError α
  | [] => .ok answer
  | (bad, e) :: checks => if bad then .error e else unlessAny answer checks

/-- `median`. -/
def median (xs : List Nat) : Nat := (xs.insertionSort (· ≤ ·)).getD (xs.length / 2) 0

/-- `median_reward`. -/
def medianReward (rewards : List (List Nat)) : Option Nat :=
  let column := rewards.filterMap head?
  if column = [] then none else some (median column)

namespace GasFeePolicy

variable (self : GasFeePolicy)

/-- `validate_config_startup`. -/
def validateConfigStartup : Except GasPolicyError Unit :=
  unlessAny ()
    [(self.maxGasLimit = 0, .misconfigured "max_gas_limit == 0"),
      (self.gasLimitMultiplierBps = 0, .misconfigured "gas_limit_multiplier_bps == 0"),
      (self.gasLimitMultiplierBps < 10000,
        .misconfigured "gas_limit_multiplier_bps < 10000 (would shrink estimate)"),
      (self.gasLimitMultiplierBps > 100000,
        .misconfigured "gas_limit_multiplier_bps > 100000 (>10x)"),
      (self.maxFeePerGasWei = 0, .misconfigured "max_fee_per_gas_wei == 0"),
      (self.maxPriorityFeePerGasWei > self.maxFeePerGasWei,
        .misconfigured "max_priority_fee_per_gas_wei > max_fee_per_gas_wei"),
      (self.maxTotalNativeCostWei = 0, .misconfigured "max_total_native_cost_wei == 0"),
      (self.abnormalEstimateRejectThreshold < 2,
        .misconfigured "abnormal_estimate_reject_threshold too small (< 2)")]

/-- `compute`. -/
def compute (sim : SimulationOutcome) (recent : FeeHistory) :
    Except GasPolicyError GasComputationOutcome :=
  let scaled := sim.gasEstimate * self.gasLimitMultiplierBps
  let gasLimit := (scaled + 9999) / 10000
  let medianBase := median recent.baseFeePerGas
  let newest := recent.baseFeePerGas.getLast?
  let threshold := self.abnormalEstimateRejectThreshold
  let ratioBound := medianBase * threshold
  let priority := (medianReward recent.reward).getD (min self.maxPriorityFeePerGasWei 1)
  let priorityCapped := min priority self.maxPriorityFeePerGasWei
  let maxFee := min (medianBase + priorityCapped) self.maxFeePerGasWei
  let total := gasLimit * maxFee
  unlessAny ⟨gasLimit, maxFee, priorityCapped, total⟩
    [(!sim.ethCallOk, .simulationNotSuccessful),
      (sim.gasEstimate = 0, .estimateZero),
      (2 ^ 128 ≤ scaled, .estimateOverflow),
      (2 ^ 128 ≤ scaled + 9999, .estimateOverflow),
      (2 ^ 64 ≤ gasLimit, .estimateOverflow),
      (gasLimit > self.maxGasLimit, .estimateExceedsCeiling gasLimit self.maxGasLimit),
      (newest.isSome && medianBase > 0 && 2 ^ 256 ≤ ratioBound,
        .providerFeeAnomaly "median*threshold overflowed"),
      (newest.any fun newest => medianBase > 0 && newest > ratioBound,
        .providerFeeAnomaly (s!"newest base_fee {newest.getD 0} > " ++
          s!"threshold*{threshold}xmedian {ratioBound}")),
      (2 ^ 256 ≤ medianBase + priorityCapped, .providerFeeAnomaly "base+priority overflow"),
      (maxFee > self.maxFeePerGasWei, .feeCapExceeded maxFee self.maxFeePerGasWei),
      (2 ^ 256 ≤ total, .providerFeeAnomaly "gas*fee overflow"),
      (total > self.maxTotalNativeCostWei,
        .totalCostExceeded total self.maxTotalNativeCostWei)]

end GasFeePolicy

theorem unlessAny_eq_ok :
    unlessAny answer checks = .ok a ↔ (∀ c ∈ checks, c.1 = false) ∧ answer = a := by
  induction checks with
  | nil => simp [unlessAny]
  | cons c checks ih =>
    obtain ⟨bad, e⟩ := c
    cases bad <;> simp [unlessAny, ih]

/-- **Half of the samples lie on either side of the median**, which is one of them. -/
theorem median_spec (h : xs ≠ []) : median xs ∈ xs ∧
    xs.length ≤ 2 * xs.countP (· ≤ median xs) ∧ xs.length ≤ 2 * xs.countP (median xs ≤ ·) := by
  have hperm := perm_insertionSort (· ≤ ·) xs
  have hsorted := (pairwise_insertionSort (· ≤ ·) xs).sortedLE
  have hlen := hperm.length_eq
  set v := xs.insertionSort (· ≤ ·) with hv
  have hpos := length_pos_iff.2 h
  have hi : xs.length / 2 < v.length := by omega
  have hmedian : median xs = v[xs.length / 2] := by rw [median, ← hv, getD_eq_getElem _ _ hi]
  have hbelow : ∀ x ∈ v.take (xs.length / 2 + 1), decide (x ≤ median xs) = true := by
    intro x hx
    obtain ⟨j, hj, rfl⟩ := mem_take_iff_getElem.1 hx
    rw [decide_eq_true_eq, hmedian]
    exact hsorted.getElem_le_getElem_of_le (by omega)
  have habove : ∀ x ∈ v.drop (xs.length / 2), decide (median xs ≤ x) = true := by
    intro x hx
    obtain ⟨j, hj, rfl⟩ := mem_drop_iff_getElem.1 hx
    rw [decide_eq_true_eq, hmedian]
    exact hsorted.getElem_le_getElem_of_le (by omega)
  have hcount := (take_sublist (xs.length / 2 + 1) v).countP_le (p := fun x => decide (x ≤ median xs))
  have hcount' := (drop_sublist (xs.length / 2) v).countP_le (p := fun x => decide (median xs ≤ x))
  rw [countP_eq_length.2 hbelow, length_take, hperm.countP_eq] at hcount
  rw [countP_eq_length.2 habove, length_drop, hperm.countP_eq] at hcount'
  exact ⟨hperm.mem_iff.1 (hmedian ▸ getElem_mem hi), by omega, by omega⟩

/-- **What an accepted policy computes stays within its bounds.** -/
theorem gas_envelope {policy : GasFeePolicy} (hpolicy : policy.validateConfigStartup = .ok ())
    {sim : SimulationOutcome} {recent : FeeHistory} (hrecent : recent.baseFeePerGas ≠ [])
    {out : GasComputationOutcome} (h : policy.compute sim recent = .ok out) :
    (sim.gasEstimate ≤ out.gasLimit ∧ out.gasLimit ≤ policy.maxGasLimit) ∧
    (out.maxPriorityFeePerGasWei ≤ out.maxFeePerGasWei ∧
      out.maxFeePerGasWei ≤ policy.maxFeePerGasWei ∧
      out.maxPriorityFeePerGasWei ≤ policy.maxPriorityFeePerGasWei) ∧
    (out.gasLimit * out.maxFeePerGasWei ≤ policy.maxTotalNativeCostWei ∧
      out.gasLimit * out.maxFeePerGasWei < 2 ^ 256) ∧
    ∃ base ∈ recent.baseFeePerGas,
      out.maxFeePerGasWei = min (base + out.maxPriorityFeePerGasWei) policy.maxFeePerGasWei ∧
      recent.baseFeePerGas.length ≤ 2 * recent.baseFeePerGas.countP (· ≤ base) ∧
      recent.baseFeePerGas.length ≤ 2 * recent.baseFeePerGas.countP (base ≤ ·) := by
  simp only [GasFeePolicy.validateConfigStartup, unlessAny_eq_ok, forall_mem_cons,
    decide_eq_false_iff_not, not_lt, gt_iff_lt] at hpolicy
  obtain ⟨⟨-, -, hbps, -, -, hcaps, -⟩, -⟩ := hpolicy
  simp only [GasFeePolicy.compute, unlessAny_eq_ok, forall_mem_cons, decide_eq_false_iff_not,
    not_lt, not_le, gt_iff_lt] at h
  obtain ⟨⟨-, -, -, -, -, hlimit, -, -, -, -, hfits, htotal, -⟩, rfl⟩ := h
  refine ⟨⟨?_, hlimit⟩, ⟨?_, min_le_right .., min_le_right ..⟩, ⟨htotal, hfits⟩,
    median recent.baseFeePerGas, ?_⟩
  · -- the multiplier is at least one, and the division rounds up
    have hmul := Nat.mul_le_mul_left sim.gasEstimate hbps
    show sim.gasEstimate ≤ (_ + 9999) / 10000
    omega
  · exact le_min (Nat.le_add_left ..) ((min_le_right ..).trans hcaps)
  · obtain ⟨hmem, hbelow, habove⟩ := median_spec hrecent
    exact ⟨hmem, rfl, hbelow, habove⟩

namespace Sample

/-- A policy, as the tests of the source have it. -/
def gasPolicy : GasFeePolicy := ⟨5000000, 12000, 50000000000, 2000000000, 10 ^ 18, 10⟩

/-- Three blocks. -/
def feeHistory : FeeHistory :=
  ⟨[1000000000, 1100000000, 1050000000], [[500000000], [600000000], [550000000]]⟩

end Sample

open Sample in
theorem gas_envelope_sample : ∃ out, gasPolicy.compute ⟨100000, true⟩ feeHistory = .ok out ∧
    out.gasLimit = 120000 ∧ out.gasLimit * out.maxFeePerGasWei ≤ 10 ^ 18 := by
  have h : gasPolicy.compute ⟨100000, true⟩ feeHistory =
    .ok ⟨120000, 1600000000, 550000000, 192000000000000⟩ := by decide +kernel
  exact ⟨_, h, rfl, (gas_envelope (by decide) (by decide) h).2.2.1.1⟩

end DeoptBackend.HybridV2
