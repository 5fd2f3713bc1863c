import DeoptBackend.Fees.Schedule
import DeoptBackend.Lib.FiniteMap

/-!
# The ledger of fees (`src/fees/store.rs`, `src/fees/service.rs`)

A record of one participant of a fill reads what the payer has traded in the last 28 days, and
writes an event, the volume of the day and, for a maker with a rebate, an accrual.  Without a
database only a number that does not fit, or a time the calendar does not have, can stop it, and
what was written before stays.

* `FeeLedgerStore` — the rows and what is done to them.
* `FeesService.recordParticipantFee` — a record, step by step.
* `FeesService.Recordable` — the numbers of a record fit, on the ledger as it stands.
* `recordParticipantFee_succeeds_iff` — **a record goes through exactly when its numbers fit**.
-/

namespace DeoptBackend.Fees

open Act

/-! ## Rows -/

/-- The sources of the fills of requests for quotes. -/
inductive FeeSourceType where
  | optionRfqFill
  | optionMultiLegRfqFill

def FeeSourceType.asStr : FeeSourceType → String
  | .optionRfqFill => "option_rfq_fill"
  | .optionMultiLegRfqFill => "option_multi_leg_rfq_fill"

def FeeMarketType.asStr : FeeMarketType → String
  | .option => "option"
  | .perp => "perp"

def FeeParticipantRole.asStr : FeeParticipantRole → String
  | .maker => "maker"
  | .taker => "taker"

/-- What a record is called with. -/
structure FeeRecord extends FeeEventInput where
  sourceType : FeeSourceType
  sourceId : String
  payer : AccountId
  createdAtMs : TimestampMs

/-- The columns of `FeeEvent` that are read when it is written. -/
structure FeeEvent where
  feeEventId : String
  sourceType : FeeSourceType
  sourceId : String
  payer : AccountId
  recipient : String
  feeAmount1e8 : Nat
  rebateAmount1e8 : Nat

def FeeEvent.uniqueKey (event : FeeEvent) : String × String × String × String :=
  (event.sourceType.asStr, event.sourceId, toAsciiLowercase event.payer.name,
    toAsciiLowercase event.recipient)

/-- What an account traded on a day. -/
structure VolumeBucket where
  account : AccountId
  bucketDay : String
  marketType : FeeMarketType
  makerVolume1e8 : Nat
  takerVolume1e8 : Nat
  totalVolume1e8 : Nat

/-- The volumes of a maker and a taker still fit into a bucket. -/
def VolumeBucket.HasRoom (bucket : VolumeBucket) (delta : Nat × Nat) : Prop :=
  bucket.makerVolume1e8 + delta.1 ≤ maxU128 ∧ bucket.takerVolume1e8 + delta.2 ≤ maxU128 ∧
    bucket.totalVolume1e8 + (delta.1 + delta.2) ≤ maxU128

/-- The columns of `RebateAccrual`, likewise. -/
structure RebateAccrual where
  rebateId : String
  feeEventId : String
  account : AccountId
  rebateAmount1e8 : Nat

structure FeeLedgerStore where
  feeEvents : FMap String FeeEvent := ∅
  feeEventKeys : FMap (String × String × String × String) String := ∅
  volumeBuckets : FMap (String × String × String) VolumeBucket := ∅
  rebateAccruals : FMap String RebateAccrual := ∅
  rebateKeys : FMap (String × String) String := ∅

/-- `checked_add`. -/
def checkedAdd (left right : Nat) (field : String) : Except BackendError Nat := do
  insist (left + right ≤ maxU128) (.config ("fee ledger arithmetic overflow for " ++ field))
  return left + right

namespace FeeLedgerStore

/-- `insert_fee_event`: what is known already is not written again. -/
def insertFeeEvent (event : FeeEvent) : Act BackendError FeeLedgerStore Bool := fun self =>
  if (self.feeEventKeys.get? event.uniqueKey).isSome then (.ok false, self)
  else
    (.ok true,
      { self with
        feeEventKeys := self.feeEventKeys.set event.uniqueKey event.feeEventId
        feeEvents := self.feeEvents.set event.feeEventId event })

def bucketKey (account : AccountId) (bucketDay : String) (marketType : FeeMarketType) :
    String × String × String :=
  (toAsciiLowercase account.name, bucketDay, marketType.asStr)

/-- The bucket of an account and a day, or a new one. -/
def bucketOf (self : FeeLedgerStore) (account : AccountId) (bucketDay : String)
    (marketType : FeeMarketType) : VolumeBucket :=
  (self.volumeBuckets.get? (bucketKey account bucketDay marketType)).getD
    ⟨account, bucketDay, marketType, 0, 0, 0⟩

/-- `upsert_volume_delta`, which adds up in place. -/
def upsertVolumeDelta (account : AccountId) (bucketDay : String) (marketType : FeeMarketType)
    (makerDelta1e8 takerDelta1e8 : Nat) : Act BackendError FeeLedgerStore Unit := do
  let put (bucket : VolumeBucket) : Act BackendError FeeLedgerStore Unit := write fun self =>
    { self with
      volumeBuckets := self.volumeBuckets.set (bucketKey account bucketDay marketType) bucket }
  let bucket ← read (·.bucketOf account bucketDay marketType)
  put bucket
  let maker ← check (checkedAdd bucket.makerVolume1e8 makerDelta1e8 "maker_volume_1e8")
  put { bucket with makerVolume1e8 := maker }
  let taker ← check (checkedAdd bucket.takerVolume1e8 takerDelta1e8 "taker_volume_1e8")
  put { bucket with makerVolume1e8 := maker, takerVolume1e8 := taker }
  let delta ← check (checkedAdd makerDelta1e8 takerDelta1e8 "volume_delta_1e8")
  let total ← check (checkedAdd bucket.totalVolume1e8 delta "total_volume_1e8")
  put { bucket with makerVolume1e8 := maker, takerVolume1e8 := taker, totalVolume1e8 := total }

/-- `insert_rebate_accrual`. -/
def insertRebateAccrual (accrual : RebateAccrual) (self : FeeLedgerStore) : FeeLedgerStore :=
  let uniqueKey := (accrual.feeEventId, toAsciiLowercase accrual.account.name)
  if (self.rebateKeys.get? uniqueKey).isSome then self
  else
    { self with
      rebateKeys := self.rebateKeys.set uniqueKey accrual.rebateId
      rebateAccruals := self.rebateAccruals.set accrual.rebateId accrual }

/-- The volumes of an account from a day on. -/
def volumesSince (self : FeeLedgerStore) (account : AccountId) (marketType : FeeMarketType)
    (startBucketDay : String) : List Nat :=
  (self.volumeBuckets.vals.filter fun bucket =>
    eqIgnoreAsciiCase bucket.account.name account.name && decide (bucket.marketType = marketType) &&
      decide (startBucketDay ≤ bucket.bucketDay)).map (·.totalVolume1e8)

/-- `rolling_volume_since`. -/
def rollingVolumeSince (self : FeeLedgerStore) (account : AccountId) (marketType : FeeMarketType)
    (startBucketDay : String) : Except BackendError Nat :=
  (self.volumesSince account marketType startBucketDay).foldlM
    (fun total volume => checkedAdd total volume "rolling_volume_1e8") 0

end FeeLedgerStore

/-! ## Recording -/

/-- What is read of a maker's permissions. -/
structure MmAccountPermissions where
  mmAccount : AccountId
  enabled : Bool
  canQuoteOptionRfq : Bool

/-- The configuration of the fees, the permissions of the makers, and the calendar. -/
structure FeesService where
  enabled : Bool
  rebatesEnabled : Bool
  protocolFeeRecipient : String
  optionPremiumCapPct : Nat
  permissionsEnabled : Bool
  permissionAccounts : List MmAccountPermissions
  /-- The day of a time, if the calendar has it. -/
  dayOf : TimestampMs → Option String
  /-- The day 28 days before. -/
  windowStartOf : TimestampMs → Option String

namespace FeesService

open FeeLedgerStore

variable (fees : FeesService) (input : FeeRecord)

/-- `maker_rebate_eligible`, for requests for quotes. -/
def makerRebateEligible (maker : AccountId) : Bool :=
  fees.rebatesEnabled && fees.permissionsEnabled &&
    (fees.permissionAccounts.find? fun account =>
      eqIgnoreAsciiCase account.mmAccount.name maker.name).any fun account =>
        account.enabled && account.canQuoteOptionRfq

/-- The day and the event of a record: all that comes before the first write. -/
def feeEvent (ledger : FeeLedgerStore) : Except BackendError (String × FeeEvent) := do
  let bucketDay ← orElseFail (.config "fee bucket timestamp is out of range")
    (fees.dayOf input.createdAtMs)
  let startDay ← orElseFail (.config "fee rolling window timestamp underflow")
    (fees.windowStartOf input.createdAtMs)
  let volume ← ledger.rollingVolumeSince input.payer input.marketType startDay
  let (feeAmount1e8, rebateAmount1e8) ← Fees.recordParticipantFee fees.optionPremiumCapPct
    input.toFeeEventInput volume (fees.makerRebateEligible input.payer)
  let feeEventId := "fee-" ++ input.sourceType.asStr ++ "-" ++ input.sourceId ++ "-" ++
    input.role.asStr ++ "-" ++ toAsciiLowercase input.payer.name
  return (bucketDay, ⟨feeEventId, input.sourceType, input.sourceId, input.payer,
    fees.protocolFeeRecipient, feeAmount1e8, rebateAmount1e8⟩)

/-- What a record adds to the maker's and to the taker's volume. -/
def deltas : Nat × Nat :=
  match input.role with
  | .maker => (input.notional1e8, 0)
  | .taker => (0, input.notional1e8)

/-- The event, the volume of the day and the rebate are written; an event that is known ends the
record. -/
def storeEvent (bucketDay : String) (event : FeeEvent) : Act BackendError FeeLedgerStore Unit := do
  let inserted ← insertFeeEvent event
  if inserted then
    upsertVolumeDelta input.payer bucketDay input.marketType (deltas input).1 (deltas input).2
    if event.rebateAmount1e8 > 0 then
      write (insertRebateAccrual ⟨"rebate-" ++ event.feeEventId, event.feeEventId, input.payer,
        event.rebateAmount1e8⟩)

/-- `record_participant_fee`. -/
def recordParticipantFee : Act BackendError FeeLedgerStore Unit := do
  let ledger ← read fun ledger => ledger
  let (bucketDay, event) ← check (fees.feeEvent input ledger)
  storeEvent input bucketDay event

/-! ## When a record goes through -/

/-- The numbers of a record fit: the volume of the payer, the amounts at the rates of that volume,
and, if the event is new, the volumes of the day. -/
def Recordable (ledger : FeeLedgerStore) : Prop :=
  ∃ bucketDay startDay, fees.dayOf input.createdAtMs = some bucketDay ∧
    fees.windowStartOf input.createdAtMs = some startDay ∧
    let volume := (ledger.volumesSince input.payer input.marketType startDay).sum
    let rates := participantRates input.role (resolveRatesFromVolume input.product volume)
      (fees.makerRebateEligible input.payer)
    volume ≤ maxU128 ∧ input.notional1e8 * rates.1 ≤ maxU128 ∧
      input.notional1e8 * rates.2 ≤ maxU128 ∧
      (input.marketType = .option →
        input.premiumNotional1e8 * fees.optionPremiumCapPct ≤ maxU128) ∧
      ((ledger.feeEventKeys.get? (input.sourceType.asStr, input.sourceId,
          toAsciiLowercase input.payer.name, toAsciiLowercase fees.protocolFeeRecipient)).isSome ∨
        (ledger.bucketOf input.payer bucketDay input.marketType).HasRoom (deltas input))

theorem checkedAdd_eq_ok : checkedAdd a b field = .ok n ↔ a + b ≤ maxU128 ∧ a + b = n := by
  simp only [checkedAdd, Except.bind_eq_ok, exists_insist_eq_ok]
  simp [pure, Except.pure]

theorem foldlM_checkedAdd (l : List Nat) (h : acc ≤ maxU128) :
    l.foldlM (fun total volume => checkedAdd total volume field) acc = .ok n ↔
      acc + l.sum ≤ maxU128 ∧ acc + l.sum = n := by
  induction l generalizing acc with
  | nil => simp [pure, Except.pure, h]
  | cons a l ih =>
    rw [List.foldlM_cons, Except.bind_eq_ok, List.sum_cons, ← Nat.add_assoc]
    constructor
    · rintro ⟨b, hb, hl⟩
      obtain ⟨hfit, rfl⟩ := checkedAdd_eq_ok.1 hb
      exact (ih hfit).1 hl
    · intro hl
      have hfit : acc + a ≤ maxU128 := le_trans (Nat.le_add_right _ _) hl.1
      exact ⟨acc + a, checkedAdd_eq_ok.2 ⟨hfit, rfl⟩, (ih hfit).2 hl⟩

theorem feeAmountForInput_ok_iff {input : FeeEventInput} :
    (∃ a, feeAmountForInput cap input rate = .ok a) ↔ input.notional1e8 * rate ≤ maxU128 ∧
      (input.marketType = .option → input.premiumNotional1e8 * cap ≤ maxU128) := by
  unfold feeAmountForInput optionCappedAmount1e8 amountFromRate
  cases input.marketType <;> by_cases hrate : input.notional1e8 * rate ≤ maxU128 <;>
    by_cases hcap : input.premiumNotional1e8 * cap ≤ maxU128 <;>
    simp [hrate, hcap, bind, Except.bind, pure, Except.pure, throw, throwThe, MonadExceptOf.throw]

theorem amounts_ok_iff {input : FeeEventInput} :
    (∃ amounts, Fees.recordParticipantFee cap input volume eligible = .ok amounts) ↔
      let rates := participantRates input.role (resolveRatesFromVolume input.product volume) eligible
      input.notional1e8 * rates.1 ≤ maxU128 ∧ input.notional1e8 * rates.2 ≤ maxU128 ∧
        (input.marketType = .option → input.premiumNotional1e8 * cap ≤ maxU128) := by
  constructor
  · rintro ⟨amounts, h⟩
    obtain ⟨fee, hfee, h⟩ := Except.bind_eq_ok.1 h
    obtain ⟨rebate, hrebate, -⟩ := Except.bind_eq_ok.1 h
    obtain ⟨hfits, hcap⟩ := feeAmountForInput_ok_iff.1 ⟨fee, hfee⟩
    exact ⟨hfits, (feeAmountForInput_ok_iff.1 ⟨rebate, hrebate⟩).1, hcap⟩
  · rintro ⟨hfits, hfits', hcap⟩
    obtain ⟨fee, hfee⟩ := feeAmountForInput_ok_iff.2 ⟨hfits, hcap⟩
    obtain ⟨rebate, hrebate⟩ := feeAmountForInput_ok_iff.2 ⟨hfits', hcap⟩
    exact ⟨_, Except.bind_eq_ok.2 ⟨fee, hfee, Except.bind_eq_ok.2 ⟨rebate, hrebate, rfl⟩⟩⟩

theorem upsert_succeeds_iff (ledger : FeeLedgerStore) :
    (upsertVolumeDelta account day market delta.1 delta.2).Succeeds ledger ↔
      (ledger.bucketOf account day market).HasRoom delta := by
  simp only [Succeeds, upsertVolumeDelta, read_bind, write_bind, check_bind_eq_ok, checkedAdd_eq_ok,
    write_run]
  constructor
  · rintro ⟨_, _, _, ⟨hmaker, -⟩, _, ⟨htaker, -⟩, _, ⟨-, rfl⟩, _, ⟨htotal, -⟩, -⟩
    exact ⟨hmaker, htaker, htotal⟩
  · rintro ⟨hmaker, htaker, htotal⟩
    exact ⟨_, _, _, ⟨hmaker, rfl⟩, _, ⟨htaker, rfl⟩, _, ⟨by omega, rfl⟩, _, ⟨htotal, rfl⟩, rfl⟩

theorem storeEvent_succeeds_iff (ledger : FeeLedgerStore) :
    (storeEvent input day event).Succeeds ledger ↔
      (ledger.feeEventKeys.get? event.uniqueKey).isSome = true ∨
        (ledger.bucketOf input.payer day input.marketType).HasRoom (deltas input) := by
  unfold storeEvent
  by_cases hknown : (ledger.feeEventKeys.get? event.uniqueKey).isSome = true
  · have hkept : insertFeeEvent event ledger = (.ok false, ledger) := if_pos hknown
    rw [succeeds_bind_of_ok hkept]
    exact iff_of_true ⟨_, _, rfl⟩ (.inl hknown)
  obtain ⟨inserted, hinserted, hbucket⟩ : ∃ inserted, insertFeeEvent event ledger =
      (.ok true, inserted) ∧ inserted.bucketOf = ledger.bucketOf := ⟨_, if_neg hknown, rfl⟩
  rw [succeeds_bind_of_ok hinserted, if_pos rfl, succeeds_then, upsert_succeeds_iff, hbucket,
    or_iff_right hknown]
  refine and_iff_left ?_
  split
  · exact ⟨_, _, rfl⟩
  · exact ⟨_, _, rfl⟩

/-- **A record goes through exactly when its numbers fit.** -/
theorem recordParticipantFee_succeeds_iff (ledger : FeeLedgerStore) :
    (fees.recordParticipantFee input).Succeeds ledger ↔ fees.Recordable input ledger := by
  rw [recordParticipantFee, succeeds_bind_of_ok (read_run _ _), succeeds_check_bind]
  simp only [feeEvent, Except.bind_eq_ok, orElseFail_eq_ok, rollingVolumeSince,
    foldlM_checkedAdd _ (Nat.zero_le _), Nat.zero_add]
  constructor
  · rintro ⟨_, ⟨day, hday, startDay, hstart, _, ⟨hvolume, rfl⟩, amounts, hamounts, heq⟩, hstored⟩
    cases heq
    obtain ⟨hfee, hrebate, hcap⟩ := amounts_ok_iff.1 ⟨amounts, hamounts⟩
    exact ⟨day, startDay, hday, hstart, hvolume, hfee, hrebate, hcap,
      (storeEvent_succeeds_iff input ledger).1 hstored⟩
  · rintro ⟨day, startDay, hday, hstart, hvolume, hfee, hrebate, hcap, hstored⟩
    obtain ⟨amounts, hamounts⟩ := amounts_ok_iff.2 ⟨hfee, hrebate, hcap⟩
    exact ⟨_, ⟨day, hday, startDay, hstart, _, ⟨hvolume, rfl⟩, amounts, hamounts, rfl⟩,
      (storeEvent_succeeds_iff input ledger).2 hstored⟩

end FeesService

end DeoptBackend.Fees
