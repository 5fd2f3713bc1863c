import DeoptBackend.Fees.Ledger
import DeoptBackend.Options.RfqBook
import DeoptBackend.Options.Service

/-!
# Requests for quotes on one series (`src/options/service.rs`)

What stands between a request and the store, without a database.  The service checks times,
limits and identities on rows it has read, and the store checks the statuses again when it
writes.

* `RfqStore` — the parts of the store that a request reads or writes.  What comes after an
  acceptance, the execution intent and the fees, is kept apart (`RfqAftermath`).
* `createOptionRfq`, `submitOptionRfqQuote`, `acceptOptionRfqQuote`, `cancelOptionRfq`.
* `checkAccept` — the checks of an accept; `followUp` — what is done once the fill is in the
  store.  A failure there is returned to the caller, and the fill stays.
* `recordFill` — the fees of a fill of either kind, recorded for the maker and then for the taker.
* `FillFits` — what a fill has to do with the request and the quote.
* `createIntent_succeeds_iff`, `recordFill_succeeds_iff` — after the checks of an accept only the
  nonces can stop an execution intent, and only numbers that do not fit the fees.

Which contract terms a series has on chain, who may quote and how a quote is hashed is left open.
-/

namespace DeoptBackend

open Except Fees List

/-! ## Rows -/

/-- What is asked for with one series. -/
structure OptionRfqTerms where
  optionSeriesId : OptionSeriesId
  side : Side
  size1e8 : Nat
  limitPrice1e8 : Option Nat

/-- What only a fill of one series says. -/
structure OptionRfqParties where
  optionSeriesId : OptionSeriesId
  buyer : AccountId
  seller : AccountId
  takerSide : Side

/-- `OptionRfqRequest`. -/
abbrev OptionRfqRequest := RfqRequest OptionRfqTerms

/-- `OptionRfqQuote`. -/
abbrev OptionRfqQuote := RfqQuote Nat

/-- `OptionRfqFill`. -/
abbrev OptionRfqFill := RfqFill Nat OptionRfqParties

/-- A leg of a request with several. -/
structure OptionMultiLegRfqLeg where
  optionRfqId : Uuid
  legIndex : Nat
  optionSeriesId : OptionSeriesId
  side : Side
  size1e8 : Nat
  ratioNum : Nat
  ratioDen : Nat

/-- The price a maker offers for a leg. -/
structure OptionMultiLegRfqQuoteLeg where
  quoteId : Uuid
  legIndex : Nat
  price1e8 : Nat

structure OptionMultiLegRfqFillLeg where
  fillId : Uuid
  legIndex : Nat
  optionSeriesId : OptionSeriesId
  side : Side
  size1e8 : Nat
  price1e8 : Nat

/-- What is signed for execution on chain, as it is created.  The fields that are filled in
later are left out. -/
structure OptionExecutionIntent where
  intentId : Uuid
  sourceId : String
  optionSeriesId : OptionSeriesId
  onchainOptionId : String
  buyer : AccountId
  seller : AccountId
  underlying : AccountId
  settlementAsset : AccountId
  expiry : Nat
  strike1e8 : Nat
  isCall : Bool
  contractSize1e8 : Nat
  quantityContracts : Nat
  sourceSize1e8 : Nat
  sourcePrice1e8 : Nat
  premiumPerContractNative : Nat
  buyerIsMaker : Bool
  buyerNonce : Nat
  sellerNonce : Nat
  createdAtMs : TimestampMs
  updatedAtMs : TimestampMs

/-- What is written after a fill: the intents, by name and by the fill they come from, and
the ledger of fees. -/
structure RfqAftermath where
  intents : FMap Uuid OptionExecutionIntent
  intentsBySource : FMap String Uuid
  ledger : FeeLedgerStore

structure RfqStore where
  series : FMap OptionSeriesId OptionSeries
  /-- Requests with one leg. -/
  single : RfqBook OptionRfqTerms Nat OptionRfqParties
  /-- Requests with several. -/
  multi : RfqBook Unit String Unit
  rfqLegs : FMap (Uuid × Nat) OptionMultiLegRfqLeg
  quoteLegs : FMap (Uuid × Nat) OptionMultiLegRfqQuoteLeg
  fillLegs : FMap (Uuid × Nat) OptionMultiLegRfqFillLeg
  after : RfqAftermath

/-- `OptionRfqQuoteSignatureMode`. -/
inductive OptionRfqQuoteSignatureMode where
  | disabled
  | strict
  deriving DecidableEq

/-- `OptionRfqQuoteSigningPayload`. -/
structure OptionRfqQuoteSigningPayload where
  optionRfqId : Bytes
  mmAccount : AccountId
  optionSeriesId : Bytes
  takerIsBuyer : Bool
  price1e8 : Nat
  size1e8 : Nat
  quoteNonce : Nat
  expiry : Nat

/-- `ExecutableOptionSeriesMetadata`. -/
structure ExecutableOptionSeriesMetadata where
  onchainOptionId : String
  underlying : AccountId
  settlementAsset : AccountId

structure RfqService where
  enabled : Bool
  rfqEnabled : Bool
  rfqMultiLegEnabled : Bool
  rfqDefaultTtlMs : Nat
  rfqMaxTtlMs : Nat
  rfqMinQuoteTtlMs : Nat
  rfqMaxQuoteTtlMs : Nat
  rfqMaxQuotesPerRfq : Nat
  rfqQuoteSignatureMode : OptionRfqQuoteSignatureMode
  executionEnabled : Bool
  executionDefaultSettlementDecimals : Nat
  nonceSyncEnabled : Bool
  nonceSyncStrict : Bool
  /-- An RPC address is configured. -/
  nonceSyncHasRpcUrl : Bool
  crypto : Crypto
  /-- `option_rfq_quote_digest_bytes`, for the configured domain. -/
  quoteDigestBytes : OptionRfqQuoteSigningPayload → Except BackendError Bytes
  checkCanQuoteOptionRfq : AccountId → OptionSeriesId → Except BackendError Unit
  validateExecutableOptionSeries : OptionSeries → Except BackendError ExecutableOptionSeriesMetadata
  fees : FeesService

/-- What a request of the taker is called with. -/
structure CreateOptionRfqInput where
  taker : AccountId
  takerSubaccountId : Nat
  optionSeriesId : OptionSeriesId
  side : Side
  size1e8 : Nat
  limitPrice1e8 : Option Nat
  ttlMs : Option Nat

/-- What a quote of a maker is called with. -/
structure SubmitOptionRfqQuoteInput where
  mmAccount : AccountId
  makerSubaccountId : Nat
  sessionId : Option String
  clientQuoteId : Option String
  price1e8 : Nat
  size1e8 : Nat
  quoteNonce : Option Nat
  quoteTtlMs : Option Nat
  signature : Option String

/-- `hex_0x`. -/
def hex0x (bytes : Bytes) : String :=
  "0x" ++ String.ofList (bytes.flatMap fun byte => hexDigits byte.toNat 2)

/-- `checked_expiry`. -/
def checkedExpiry (now : TimestampMs) (ttlMs : Nat) (context : String) :
    Except BackendError TimestampMs := do
  insist (ttlMs ≤ maxI64) (.config (context ++ " ttl cannot be encoded"))
  insist (now + ttlMs ≤ maxI64) (.config (context ++ " overflow"))
  return now + ttlMs

/-! ## Fees (`src/fees/service.rs`) -/

/-- `mul_div_1e8`. -/
def mulDiv1e8 (left right : Nat) (context : String) : Except BackendError Nat := do
  insist (left * right ≤ maxU128) (.config (context ++ " overflow"))
  return left * right / one1e8

/-- `premium_notional_1e8`. -/
def premiumNotional1e8 (price1e8 size1e8 : Nat) : Except BackendError Nat :=
  mulDiv1e8 price1e8 size1e8 "option premium notional"

/-- `option_underlying_notional_1e8`. -/
def optionUnderlyingNotional1e8 (series : OptionSeries) (size1e8 : Nat) :
    Except BackendError Nat := do
  let strikeTimesSize ← mulDiv1e8 series.strike1e8 size1e8 "option strike notional"
  mulDiv1e8 strikeTimesSize series.contractSize1e8 "option underlying notional"

section

variable (allSeries : FMap OptionSeriesId OptionSeries)

/-- The notionals of a leg, of the underlying and of the premium. -/
def legNotionals (id : OptionSeriesId) (size1e8 price1e8 : Nat) :
    Except BackendError (Nat × Nat) := do
  let series ← orElseFail (.invalidOptionSeriesId id) (allSeries.get? id)
  let underlying ← optionUnderlyingNotional1e8 series size1e8
  let premium ← premiumNotional1e8 price1e8 size1e8
  return (underlying, premium)

/-- The loop of `multi_leg_package_notionals_1e8`. -/
def multiLegPackageNotionals1e8 : Nat × Nat → List OptionMultiLegRfqFillLeg →
    Except BackendError (Nat × Nat)
  | total, [] => .ok total
  | total, leg :: legs => do
      let (underlying, premium) ← legNotionals allSeries leg.optionSeriesId leg.size1e8 leg.price1e8
      insist (total.1 + underlying ≤ maxU128)
        (.config "multi-leg package underlying notional overflow")
      insist (total.2 + premium ≤ maxU128) (.config "multi-leg package premium notional overflow")
      multiLegPackageNotionals1e8 (total.1 + underlying, total.2 + premium) legs

variable (fees : FeesService) (sourceType : FeeSourceType) (fill : RfqFill P E)

/-- What is recorded of a fill for one of its parties. -/
def feeRecord (notionals : Nat × Nat) (role : FeeParticipantRole) : FeeRecord where
  marketType := .option
  product := .optionRfq
  role := role
  notional1e8 := notionals.1
  premiumNotional1e8 := notionals.2
  sourceType := sourceType
  sourceId := Uuid.show fill.fillId
  payer := match role with
    | .maker => fill.mmAccount
    | .taker => fill.taker
  createdAtMs := fill.createdAtMs

/-- The fees of a fill, for the maker and then for the taker. -/
def recordFill (notionals : Except BackendError (Nat × Nat)) :
    Act BackendError FeeLedgerStore Unit :=
  if fees.enabled then do
    let notionals ← Act.check notionals
    fees.recordParticipantFee (feeRecord sourceType fill notionals .maker)
    fees.recordParticipantFee (feeRecord sourceType fill notionals .taker)
  else pure ()

/-- `record_option_rfq_fill`. -/
def recordOptionRfqFill (fill : OptionRfqFill) : Act BackendError FeeLedgerStore Unit :=
  recordFill fees .optionRfqFill fill
    (legNotionals allSeries fill.details.optionSeriesId fill.size1e8 fill.price)

/-- `record_option_multi_leg_rfq_fill`. -/
def recordOptionMultiLegRfqFill (fill : RfqFill P E) (fillLegs : List OptionMultiLegRfqFillLeg) :
    Act BackendError FeeLedgerStore Unit :=
  recordFill fees .optionMultiLegRfqFill fill (multiLegPackageNotionals1e8 allSeries (0, 0) fillLegs)

/-- The notionals of a leg, if the numbers on the way there fit. -/
def LegWorth (id : OptionSeriesId) (size1e8 price1e8 : Nat) (worth : Nat × Nat) : Prop :=
  ∃ series, allSeries.get? id = some series ∧ series.strike1e8 * size1e8 ≤ maxU128 ∧
    series.strike1e8 * size1e8 / one1e8 * series.contractSize1e8 ≤ maxU128 ∧
    price1e8 * size1e8 ≤ maxU128 ∧
    worth = (series.strike1e8 * size1e8 / one1e8 * series.contractSize1e8 / one1e8,
      price1e8 * size1e8 / one1e8)

/-- The notionals of several legs on top of a total, if they and the sums fit. -/
def PackageWorth (total : Nat × Nat) (legs : List OptionMultiLegRfqFillLeg) (worth : Nat × Nat) :
    Prop :=
  ∃ worths, Forall₂ (fun leg => LegWorth allSeries leg.optionSeriesId leg.size1e8 leg.price1e8)
      legs worths ∧
    worth = (total.1 + (worths.map (·.1)).sum, total.2 + (worths.map (·.2)).sum) ∧
    worth.1 ≤ maxU128 ∧ worth.2 ≤ maxU128

/-- The fees of a fill fit, for the maker and, on the ledger as that leaves it, for the taker. -/
def Chargeable (Worth : Nat × Nat → Prop) (ledger : FeeLedgerStore) : Prop :=
  fees.enabled = true → ∃ worth, Worth worth ∧
    fees.Recordable (feeRecord sourceType fill worth .maker) ledger ∧
    fees.Recordable (feeRecord sourceType fill worth .taker)
      (fees.recordParticipantFee (feeRecord sourceType fill worth .maker) ledger).2

variable {allSeries} {worth : Nat × Nat}

theorem mulDiv1e8_eq_ok : mulDiv1e8 a b context = .ok n ↔ a * b ≤ maxU128 ∧ a * b / one1e8 = n := by
  simp only [mulDiv1e8, bind_eq_ok, exists_insist_eq_ok]
  simp [pure, Except.pure]

theorem legNotionals_eq_ok :
    legNotionals allSeries seriesId size price = .ok worth ↔
      LegWorth allSeries seriesId size price worth := by
  simp only [legNotionals, optionUnderlyingNotional1e8, premiumNotional1e8, bind_eq_ok,
    mulDiv1e8_eq_ok, orElseFail_eq_ok]
  constructor
  · rintro ⟨series, hseries, _, ⟨_, ⟨hstrike, rfl⟩, hsize, rfl⟩, _, ⟨hpremium, rfl⟩, heq⟩
    cases heq
    exact ⟨series, hseries, hstrike, hsize, hpremium, rfl⟩
  · rintro ⟨series, hseries, hstrike, hsize, hpremium, rfl⟩
    exact ⟨series, hseries, _, ⟨_, ⟨hstrike, rfl⟩, hsize, rfl⟩, _, ⟨hpremium, rfl⟩, rfl⟩

theorem packageNotionals_eq_ok (total : Nat × Nat) (htotal : total.1 ≤ maxU128 ∧ total.2 ≤ maxU128) :
    multiLegPackageNotionals1e8 allSeries total legs = .ok worth ↔
      PackageWorth allSeries total legs worth := by
  induction legs generalizing total with
  | nil =>
    simp only [multiLegPackageNotionals1e8, PackageWorth, forall₂_nil_left_iff]
    constructor
    · intro h
      cases h
      exact ⟨[], rfl, rfl, htotal⟩
    · rintro ⟨_, rfl, rfl, -⟩
      rfl
  | cons leg legs ih =>
    simp only [multiLegPackageNotionals1e8, bind_eq_ok, exists_insist_eq_ok, legNotionals_eq_ok]
    constructor
    · rintro ⟨a, ha, hfst, hsnd, h⟩
      obtain ⟨worths, hworths, rfl, hfit⟩ := (ih _ ⟨hfst, hsnd⟩).1 h
      refine ⟨a :: worths, .cons ha hworths, ?_, hfit⟩
      simp [Nat.add_assoc]
    · rintro ⟨_, hworths, rfl, hfst, hsnd⟩
      obtain ⟨a, worths, ha, htail, rfl⟩ := forall₂_cons_left_iff.1 hworths
      have hfit : total.1 + a.1 ≤ maxU128 ∧ total.2 + a.2 ≤ maxU128 := by
        simp only [map_cons, sum_cons] at hfst hsnd
        omega
      refine ⟨a, ha, hfit.1, hfit.2, (ih _ hfit).2 ⟨worths, htail, ?_, hfst, hsnd⟩⟩
      simp [Nat.add_assoc]

/-- **The fees of a fill are recorded exactly when their numbers fit.** -/
theorem recordFill_succeeds_iff (h : ∀ worth, notionals = .ok worth ↔ Worth worth)
    (ledger : FeeLedgerStore) :
    (recordFill fees sourceType fill notionals).Succeeds ledger ↔
      Chargeable fees sourceType fill Worth ledger := by
  unfold recordFill Chargeable
  cases fees.enabled with
  | false => simp [Act.Succeeds]
  | true => simp only [if_true, true_implies, Act.succeeds_check_bind, Act.succeeds_then, h,
      FeesService.recordParticipantFee_succeeds_iff]

end

namespace RfqService

variable (svc : RfqService)

/-- The texts of requests with one leg. -/
def singleTexts : RfqTexts where
  noLongerOpen := "option RFQ is no longer open"
  noLongerActive := "option RFQ quote is no longer active"
  duplicateQuote := "duplicate client_quote_id for option RFQ and MM account"

/-- `ensure_option_rfq_enabled`. -/
def ensureOptionRfqEnabled : Except BackendError Unit := do
  insist (svc.enabled = true) .optionsDisabled
  insist (svc.rfqEnabled = true) .optionRfqDisabled

variable (s : RfqStore) (now : TimestampMs)

/-- `get_option_series`, and that it is active. -/
def activeSeries (id : OptionSeriesId) (inactive : BackendError) :
    Except BackendError OptionSeries := do
  let series ← orElseFail (.invalidOptionSeriesId id) (s.series.get? id)
  let sec ← OptionsService.nowSec now
  insist (series.effectiveStatus sec = .active) inactive
  return series

/-! ## Asking -/

/-- The checks of `create_option_rfq`, and when the request expires. -/
def checkCreate (input : CreateOptionRfqInput) : Except BackendError TimestampMs := do
  svc.ensureOptionRfqEnabled
  OptionsService.validateAccount input.taker
  insist (input.size1e8 ≠ 0) .zeroSize
  insist (input.limitPrice1e8 ≠ some 0) .zeroPrice
  let _ ← activeSeries s now input.optionSeriesId
    (.invalidOptionRfqState "option series is not active")
  let ttlMs := input.ttlMs.getD svc.rfqDefaultTtlMs
  insist (ttlMs ≠ 0) (.invalidOptionRfqState "option RFQ ttl_ms must be greater than zero")
  checkedExpiry now (min ttlMs svc.rfqMaxTtlMs) "option RFQ expiry"

/-- `create_option_rfq`, with the name drawn for the request. -/
def createOptionRfq (now : TimestampMs) (id : Uuid) (input : CreateOptionRfqInput) :
    Act BackendError RfqStore OptionRfqRequest := fun s =>
  match svc.checkCreate s now input with
  | .error e => (.error e, s)
  | .ok expiresAtMs =>
    let rfq : OptionRfqRequest :=
      { optionRfqId := id
        taker := input.taker
        takerSubaccountId := input.takerSubaccountId
        createdAtMs := now
        expiresAtMs := expiresAtMs
        terms := ⟨input.optionSeriesId, input.side, input.size1e8, input.limitPrice1e8⟩
        status := .open
        acceptedQuoteId := none
        fillId := none }
    (.ok rfq, { s with single := s.single.insertRfq rfq })

/-! ## Quoting -/

variable (rfq : OptionRfqRequest)

/-- `signed_quote_expires_at_ms`: counted from when the request was made. -/
def signedQuoteExpiresAtMs (quoteTtlMs : Nat) : Except BackendError TimestampMs := do
  insist (quoteTtlMs ≤ maxI64) (.invalidOptionRfqQuoteState "quote_ttl_ms cannot be encoded")
  insist (rfq.createdAtMs + quoteTtlMs ≤ maxI64)
    (.invalidOptionRfqQuoteState "quote expiry overflow")
  return min (rfq.createdAtMs + quoteTtlMs) rfq.expiresAtMs

variable (now : TimestampMs)

/-- `quote_expires_at_ms`. -/
def quoteExpiresAtMs (quoteTtlMs : Nat) : Except BackendError TimestampMs :=
  match svc.rfqQuoteSignatureMode with
  | .disabled =>
    (checkedExpiry now quoteTtlMs "option RFQ quote expiry").map (min · rfq.expiresAtMs)
  | .strict => signedQuoteExpiresAtMs rfq quoteTtlMs

/-- `option_series_id_to_b256`. -/
def optionSeriesIdToB256 (id : OptionSeriesId) : Except BackendError Bytes :=
  match strip0x id with
  | none => .error (.invalidOptionSeriesId "expected 0x-prefixed bytes32")
  | some hex =>
    if hex.length ≠ 64 then .error (.invalidOptionSeriesId "expected 0x-prefixed bytes32")
    else orElseFail (.invalidOptionSeriesId "expected 0x-prefixed bytes32") (decodeHex hex)

/-- `option_rfq_quote_payload`. -/
def optionRfqQuotePayload (mmAccount : AccountId) (price1e8 size1e8 quoteNonce quoteTtlMs : Nat) :
    Except BackendError OptionRfqQuoteSigningPayload := do
  let expiresAtMs ← signedQuoteExpiresAtMs rfq quoteTtlMs
  insist (0 ≤ Int.tdiv expiresAtMs 1000)
    (.invalidOptionRfqQuoteState "quote expiry cannot be encoded")
  let seriesId ← optionSeriesIdToB256 rfq.terms.optionSeriesId
  return {
    optionRfqId := svc.crypto.keccak256 (utf8 (Uuid.show rfq.optionRfqId))
    mmAccount := mmAccount
    optionSeriesId := seriesId
    takerIsBuyer := decide (rfq.terms.side = .buy)
    price1e8 := price1e8
    size1e8 := size1e8
    quoteNonce := quoteNonce
    expiry := (Int.tdiv expiresAtMs 1000).toNat }

/-- `OptionRfqQuoteSignatureMetadata`. -/
structure OptionRfqQuoteSignatureMetadata where
  signature : Option String
  quoteDigest : Option String
  quoteNonce : Option String
  signatureStatus : OptionRfqQuoteSignatureStatus
  recoveredSigner : Option AccountId

def quoteDigest (input : SubmitOptionRfqQuoteInput) (quoteNonce quoteTtlMs : Nat) :
    Except BackendError Bytes := do
  let payload ← svc.optionRfqQuotePayload rfq input.mmAccount input.price1e8 input.size1e8
    quoteNonce quoteTtlMs
  svc.quoteDigestBytes payload

/-- `verify_option_rfq_quote_signature`. -/
def verifyOptionRfqQuoteSignature (input : SubmitOptionRfqQuoteInput) (quoteTtlMs : Nat) :
    Except BackendError OptionRfqQuoteSignatureMetadata :=
  match svc.rfqQuoteSignatureMode with
  | .disabled => do
      let digest ← match input.quoteNonce with
        | none => Except.ok none
        | some nonce => (svc.quoteDigest rfq input nonce quoteTtlMs).map (some <| hex0x ·)
      return ⟨input.signature, digest, input.quoteNonce.map toString, .notRequired, none⟩
  | .strict => do
      let nonce ← orElseFail (.invalidOptionRfqQuoteState
        "quote_nonce is required when OPTION_RFQ_QUOTE_SIGNATURE_MODE=strict") input.quoteNonce
      let signature ← orElseFail (.invalidOptionRfqQuoteState
        "signature is required when OPTION_RFQ_QUOTE_SIGNATURE_MODE=strict") input.signature
      validateSignatureShape signature
      let digest ← svc.quoteDigest rfq input nonce quoteTtlMs
      let halves ← parseSignature signature
      let address ← recoverSigner svc.crypto digest halves
      let recoveredSigner : AccountId := ⟨hex0x address⟩
      let expected ← parseEvmAddress input.mmAccount
      let recovered ← parseEvmAddress recoveredSigner
      insist (recovered = expected) .signatureSignerMismatch
      return ⟨some signature, some (hex0x digest), some (toString nonce), .verified,
        some recoveredSigner⟩

variable (quoteId rfqId : Uuid) (input : SubmitOptionRfqQuoteInput)

/-- The checks of `submit_option_rfq_quote`, and the quote they let through. -/
def checkQuote : Except BackendError (OptionRfqRequest × OptionRfqQuote) := do
  svc.ensureOptionRfqEnabled
  OptionsService.validateAccount input.mmAccount
  insist (input.price1e8 ≠ 0) .zeroPrice
  insist (input.size1e8 ≠ 0) .zeroSize
  let rfq ← orElseFail .invalidOptionRfqId (s.single.rfqs.get? rfqId)
  insist (rfq.effectiveStatus now = .open) (.invalidOptionRfqState "option RFQ is not open")
  svc.checkCanQuoteOptionRfq input.mmAccount rfq.terms.optionSeriesId
  insist (input.size1e8 ≤ rfq.terms.size1e8)
    (.invalidOptionRfqQuoteState "option RFQ quote size exceeds requested size")
  insist (s.single.countQuotes rfqId < svc.rfqMaxQuotesPerRfq)
    (.invalidOptionRfqQuoteState "option RFQ quote limit reached")
  let quoteTtlMs := min (input.quoteTtlMs.getD svc.rfqMaxQuoteTtlMs) svc.rfqMaxQuoteTtlMs
  insist (svc.rfqMinQuoteTtlMs ≤ quoteTtlMs)
    (.invalidOptionRfqQuoteState "option RFQ quote_ttl_ms is below the minimum")
  let metadata ← svc.verifyOptionRfqQuoteSignature rfq input quoteTtlMs
  let expiresAtMs ← svc.quoteExpiresAtMs rfq now quoteTtlMs
  insist (now < expiresAtMs) (.invalidOptionRfqQuoteState "option RFQ quote has expired")
  return (rfq, {
    quoteId := quoteId
    optionRfqId := rfqId
    mmAccount := input.mmAccount
    makerSubaccountId := input.makerSubaccountId
    sessionId := input.sessionId
    clientQuoteId := input.clientQuoteId
    price := input.price1e8
    size1e8 := input.size1e8
    createdAtMs := now
    expiresAtMs := expiresAtMs
    signature := metadata.signature
    quoteDigest := metadata.quoteDigest
    quoteNonce := metadata.quoteNonce
    signatureStatus := metadata.signatureStatus
    recoveredSigner := metadata.recoveredSigner
    status := .active })

/-- `submit_option_rfq_quote`, with the name drawn for the quote. -/
def submitOptionRfqQuote : Act BackendError RfqStore OptionRfqQuote := fun s =>
  match svc.checkQuote s now quoteId rfqId input with
  | .error e => (.error e, s)
  | .ok (_, quote) =>
    match RfqBook.insertQuote singleTexts quote s.single with
    | (.error e, _) => (.error e, s)
    | (.ok (), book) => (.ok quote, { s with single := book })

/-! ## Accepting -/

/-- `option_rfq_price_satisfies_limit`. -/
def optionRfqPriceSatisfiesLimit : Side → Option Nat → Nat → Bool
  | _, none, _ => true
  | .buy, some limit, price1e8 => decide (price1e8 ≤ limit)
  | .sell, some limit, price1e8 => decide (price1e8 ≥ limit)

/-- `quantity_contracts_from_size`. -/
def quantityContractsFromSize (size1e8 : Nat) : Except BackendError Nat := do
  insist (size1e8 ≠ 0) .zeroSize
  insist (size1e8 % scale1e8 = 0) (.invalidOptionExecutionIntentState
    "size_1e8 must be a whole number of option contracts when option execution is enabled")
  insist (size1e8 / scale1e8 ≠ 0) .zeroSize
  return size1e8 / scale1e8

/-- `premium_per_contract_native`. -/
def premiumPerContractNative (price1e8 settlementDecimals : Nat) : Except BackendError Nat := do
  insist (price1e8 ≠ 0) .zeroPrice
  insist (10 ^ settlementDecimals ≤ maxU128) (.invalidOptionExecutionIntentState
    "settlement decimals overflow native premium conversion")
  insist (price1e8 * 10 ^ settlementDecimals ≤ maxU128)
    (.invalidOptionExecutionIntentState "premium native conversion overflow")
  let premium := price1e8 * 10 ^ settlementDecimals / scale1e8
  insist (premium ≠ 0) (.invalidOptionExecutionIntentState
    "premium_per_contract_native is zero after settlement-native conversion")
  return premium

/-- `validate_option_rfq_execution_preflight`. -/
def validateOptionRfqExecutionPreflight (series : OptionSeries) (quote : OptionRfqQuote) :
    Except BackendError Unit :=
  if svc.executionEnabled then do
    let _ ← svc.validateExecutableOptionSeries series
    let _ ← quantityContractsFromSize quote.size1e8
    let _ ← premiumPerContractNative quote.price svc.executionDefaultSettlementDecimals
    return ()
  else .ok ()

/-- `validate_option_rfq_quote_signature_status`. -/
def validateOptionRfqQuoteSignatureStatus (quote : OptionRfqQuote) : Except BackendError Unit :=
  insist (svc.rfqQuoteSignatureMode = .strict → quote.signatureStatus = .verified)
    (.invalidOptionRfqQuoteState ("option RFQ quote signature is " ++ quote.signatureStatus.asStr))

/-- The checks of `accept_option_rfq_quote`. -/
def checkAccept (rfqId quoteId : Uuid) :
    Except BackendError (OptionRfqRequest × OptionRfqQuote) := do
  svc.ensureOptionRfqEnabled
  let rfq ← orElseFail .invalidOptionRfqId (s.single.rfqs.get? rfqId)
  insist (rfq.effectiveStatus now = .open) (.invalidOptionRfqState "option RFQ is not open")
  let quote ← orElseFail .invalidOptionRfqQuoteId (s.single.quotes.get? quoteId)
  insist (quote.optionRfqId = rfqId)
    (.invalidOptionRfqQuoteState "option RFQ quote does not belong to RFQ")
  insist (quote.effectiveStatus now = .active)
    (.invalidOptionRfqQuoteState "option RFQ quote is not active")
  svc.validateOptionRfqQuoteSignatureStatus quote
  insist (quote.size1e8 ≠ 0 ∧ quote.size1e8 ≤ rfq.terms.size1e8)
    (.invalidOptionRfqQuoteState "option RFQ quote size is invalid")
  insist (optionRfqPriceSatisfiesLimit rfq.terms.side rfq.terms.limitPrice1e8 quote.price = true)
    (.invalidOptionRfqQuoteState "option RFQ quote price violates limit")
  let series ← activeSeries s now rfq.terms.optionSeriesId
    (.invalidOptionRfqState "option series is not active")
  svc.validateOptionRfqExecutionPreflight series quote
  return (rfq, quote)

/-- The fill of a quote: the taker buys what they asked to buy. -/
def fillOf (fillId rfqId quoteId : Uuid) (rfq : OptionRfqRequest) (quote : OptionRfqQuote) :
    OptionRfqFill where
  fillId := fillId
  optionRfqId := rfqId
  quoteId := quoteId
  taker := rfq.taker
  takerSubaccountId := rfq.takerSubaccountId
  mmAccount := quote.mmAccount
  makerSubaccountId := quote.makerSubaccountId
  price := quote.price
  size1e8 := quote.size1e8
  createdAtMs := now
  details :=
    { optionSeriesId := rfq.terms.optionSeriesId
      buyer := match rfq.terms.side with
        | .buy => rfq.taker
        | .sell => quote.mmAccount
      seller := match rfq.terms.side with
        | .buy => quote.mmAccount
        | .sell => rfq.taker
      takerSide := rfq.terms.side }

/-- What the chain answers when it is asked for the nonce of an account. -/
abbrev NonceAnswers := AccountId → Except BackendError Nat

/-- `option_execution_nonces`. -/
def optionExecutionNonces (nonceOf : NonceAnswers) (buyer seller : AccountId) :
    Except BackendError (Nat × Nat) :=
  if svc.nonceSyncEnabled then
    let result : Except BackendError (Nat × Nat) := do
      insist (svc.nonceSyncHasRpcUrl = true) (.config "RPC_URL is required for option nonce sync")
      let buyerNonce ← nonceOf buyer
      let sellerNonce ← nonceOf seller
      return (buyerNonce, sellerNonce)
    match result with
    | .ok nonces => .ok nonces
    | .error e => if svc.nonceSyncStrict then .error e else .ok (0, 0)
  else .ok (0, 0)

/-- `build_option_execution_intent`, for a fill of a request. -/
def buildOptionExecutionIntent (intentId : Uuid) (series : OptionSeries) (fill : OptionRfqFill)
    (nonces : Nat × Nat) : Except BackendError OptionExecutionIntent := do
  let metadata ← svc.validateExecutableOptionSeries series
  let quantityContracts ← quantityContractsFromSize fill.size1e8
  let premium ← premiumPerContractNative fill.price svc.executionDefaultSettlementDecimals
  return {
    intentId := intentId
    sourceId := Uuid.show fill.fillId
    optionSeriesId := series.optionSeriesId
    onchainOptionId := metadata.onchainOptionId
    buyer := fill.details.buyer
    seller := fill.details.seller
    underlying := metadata.underlying
    settlementAsset := metadata.settlementAsset
    expiry := series.expiry
    strike1e8 := series.strike1e8
    isCall := series.isCall
    contractSize1e8 := series.contractSize1e8
    quantityContracts := quantityContracts
    sourceSize1e8 := fill.size1e8
    sourcePrice1e8 := fill.price
    premiumPerContractNative := premium
    buyerIsMaker := eqIgnoreAsciiCase fill.details.buyer.name fill.mmAccount.name
    buyerNonce := nonces.1
    sellerNonce := nonces.2
    createdAtMs := fill.createdAtMs
    updatedAtMs := now }

/-- `insert_option_execution_intent`: one for each fill. -/
def insertOptionExecutionIntent (intent : OptionExecutionIntent) (self : RfqAftermath) :
    RfqAftermath :=
  if ((self.intentsBySource.get? intent.sourceId).bind self.intents.get?).isSome then self
  else
    { self with
      intents := self.intents.set intent.intentId intent
      intentsBySource := self.intentsBySource.set intent.sourceId intent.intentId }

variable (now : TimestampMs) (intentId : Uuid) (nonceOf : NonceAnswers)
  (allSeries : FMap OptionSeriesId OptionSeries) (fill : OptionRfqFill)

/-- `create_option_rfq_execution_intent`. -/
def createOptionRfqExecutionIntent : Act BackendError RfqAftermath Unit :=
  if svc.executionEnabled then do
    let intent ← Act.check do
      let series ← orElseFail (.invalidOptionSeriesId fill.details.optionSeriesId)
        (allSeries.get? fill.details.optionSeriesId)
      let nonces ← svc.optionExecutionNonces nonceOf fill.details.buyer fill.details.seller
      svc.buildOptionExecutionIntent now intentId series fill nonces
    Act.write (insertOptionExecutionIntent intent)
  else pure ()

/-- What `accept_option_rfq_quote` does once the fill is in the store. -/
def followUp : Act BackendError RfqAftermath Unit := do
  svc.createOptionRfqExecutionIntent now intentId nonceOf allSeries fill
  Act.zoom (·.ledger) (fun ledger after => { after with ledger := ledger })
    (recordOptionRfqFill allSeries svc.fees fill)

/-- `accept_option_rfq_quote`, with the names drawn for the fill and the intent and what the
chain answers. -/
def acceptOptionRfqQuote (fillId intentId : Uuid) (nonceOf : NonceAnswers) (rfqId quoteId : Uuid) :
    Act BackendError RfqStore OptionRfqFill := fun s =>
  match svc.checkAccept s now rfqId quoteId with
  | .error e => (.error e, s)
  | .ok (rfq, quote) =>
    let fill := fillOf now fillId rfqId quoteId rfq quote
    match RfqBook.accept singleTexts rfqId quoteId fill s.single with
    | (.error e, _) => (.error e, s)
    | (.ok _, book) =>
      match svc.followUp now intentId nonceOf s.series fill s.after with
      | (.error e, after) => (.error e, { s with single := book, after := after })
      | (.ok (), after) => (.ok fill, { s with single := book, after := after })

/-! ## Withdrawing -/

/-- `cancel_option_rfq`. -/
def cancelOptionRfq (rfqId : Uuid) : Act BackendError RfqStore Unit := fun s =>
  match (svc.ensureOptionRfqEnabled : Except BackendError Unit) with
  | .error e => (.error e, s)
  | .ok () =>
    match s.single.rfqs.get? rfqId with
    | none => (.error .invalidOptionRfqId, s)
    | some rfq =>
      if rfq.status = .accepted then
        (.error (.invalidOptionRfqState "accepted option RFQ cannot be cancelled"), s)
      else (.ok (), { s with single := s.single.withdrawn rfqId rfq })

/-! ## What the calls do -/

/-- What a fill has to do with the request and the quote: it is in time for both, of a size
that was asked for, at a price within the limit, and the taker is on the side they asked
for. -/
structure FillFits (ask : RfqAsk OptionRfqTerms) (bid : RfqBid Nat) (fill : OptionRfqFill) : Prop where
  before_expiry : fill.createdAtMs < ask.expiresAtMs ∧ fill.createdAtMs < bid.expiresAtMs
  size : 0 < fill.size1e8 ∧ fill.size1e8 ≤ ask.terms.size1e8
  within_limit : ∀ limit ∈ ask.terms.limitPrice1e8,
    match ask.terms.side with
    | .buy => fill.price ≤ limit
    | .sell => limit ≤ fill.price
  parties :
    match ask.terms.side with
    | .buy => fill.details.buyer = ask.taker ∧ fill.details.seller = bid.mmAccount
    | .sell => fill.details.buyer = bid.mmAccount ∧ fill.details.seller = ask.taker

section

variable {svc} {s : RfqStore} {now : TimestampMs} {rfqId quoteId intentId : Uuid}
  {rfq : OptionRfqRequest} {nonceOf : NonceAnswers} {fill : OptionRfqFill}

theorem checkQuote_ok {input : SubmitOptionRfqQuoteInput}
    (h : svc.checkQuote s now quoteId rfqId input = .ok (rfq, quote)) :
    s.single.rfqs.get? rfqId = some rfq ∧ rfq.status = .open ∧ quote.quoteId = quoteId ∧
      quote.optionRfqId = rfqId ∧ quote.status = .active ∧ 0 < quote.size1e8 := by
  simp only [checkQuote, bind_eq_ok, exists_insist_eq_ok, orElseFail_eq_ok] at h
  obtain ⟨_, _, _, _, _, hsize, r, hr, hopen, _, _, _, _, _, _, _, _, _, _, h⟩ := h
  cases h
  exact ⟨hr, (RfqRequest.open_of_effectiveStatus hopen).1, rfl, rfl, rfl, Nat.pos_of_ne_zero hsize⟩

/-- What is known once the checks of an accept have passed. -/
structure Acceptable (svc : RfqService) (s : RfqStore) (now : TimestampMs)
    (rfqId quoteId : Uuid) (rfq : OptionRfqRequest) (quote : OptionRfqQuote) : Prop where
  rfq_there : s.single.rfqs.get? rfqId = some rfq
  rfq_open : rfq.status = .open ∧ now < rfq.expiresAtMs
  quote_there : s.single.quotes.get? quoteId = some quote
  quote_of : quote.optionRfqId = rfqId
  quote_active : quote.status = .active ∧ now < quote.expiresAtMs
  size : quote.size1e8 ≠ 0 ∧ quote.size1e8 ≤ rfq.terms.size1e8
  limit : optionRfqPriceSatisfiesLimit rfq.terms.side rfq.terms.limitPrice1e8 quote.price = true
  preflight : ∃ series, s.series.get? rfq.terms.optionSeriesId = some series ∧
    svc.validateOptionRfqExecutionPreflight series quote = .ok ()

theorem checkAccept_ok (h : svc.checkAccept s now rfqId quoteId = .ok (rfq, quote)) :
    svc.Acceptable s now rfqId quoteId rfq quote := by
  simp only [checkAccept, activeSeries, bind_eq_ok, exists_insist_eq_ok,
    orElseFail_eq_ok] at h
  obtain ⟨_, _, r, hr, hopen, q, hq, hof, hactive, _, _, hsize, hlimit, series,
    ⟨_, hseries, _, _, _, h'⟩, _, hpre, h⟩ := h
  cases h
  cases h'
  exact ⟨hr, RfqRequest.open_of_effectiveStatus hopen, hq, hof,
    RfqQuote.active_of_effectiveStatus hactive, hsize, hlimit, series, hseries, hpre⟩

theorem Acceptable.fits (h : svc.Acceptable s now rfqId quoteId rfq quote) :
    FillFits rfq.toRfqAsk quote.toRfqBid (fillOf now fillId rfqId quoteId rfq quote) where
  before_expiry := ⟨h.rfq_open.2, h.quote_active.2⟩
  size := ⟨Nat.pos_of_ne_zero h.size.1, h.size.2⟩
  within_limit := by
    intro limit hlimit
    have hsat := h.limit
    rw [Option.mem_def.1 hlimit] at hsat
    cases hside : rfq.terms.side <;> simpa [hside, optionRfqPriceSatisfiesLimit, fillOf] using hsat
  parties := by cases hside : rfq.terms.side <;> simp [hside, fillOf]

/-! ## What comes after -/

/-- The nonces of the two parties can be had: they are read only when trades are executed on
chain, and a failure only counts in strict mode. -/
def NoncesKnown (svc : RfqService) (nonceOf : NonceAnswers) (fill : OptionRfqFill) : Prop :=
  svc.executionEnabled = true → svc.nonceSyncEnabled = true → svc.nonceSyncStrict = true →
    svc.nonceSyncHasRpcUrl = true ∧ (∃ n, nonceOf fill.details.buyer = .ok n) ∧
      ∃ n, nonceOf fill.details.seller = .ok n

/-- The fees of a fill fit. -/
def FeesFit (svc : RfqService) (s : RfqStore) (fill : OptionRfqFill) : Prop :=
  Chargeable svc.fees .optionRfqFill fill
    (LegWorth s.series fill.details.optionSeriesId fill.size1e8 fill.price) s.after.ledger

theorem optionExecutionNonces_ok_iff :
    (∃ nonces, svc.optionExecutionNonces nonceOf buyer seller = .ok nonces) ↔
      (svc.nonceSyncEnabled = true → svc.nonceSyncStrict = true →
        svc.nonceSyncHasRpcUrl = true ∧ (∃ n, nonceOf buyer = .ok n) ∧
          ∃ n, nonceOf seller = .ok n) := by
  unfold optionExecutionNonces
  cases svc.nonceSyncEnabled <;> cases svc.nonceSyncStrict <;> cases svc.nonceSyncHasRpcUrl <;>
    cases nonceOf buyer <;> cases nonceOf seller <;>
    simp [insist, bind, Except.bind, pure, Except.pure]

/-- **After the checks of an accept only the nonces can stop an execution intent.** -/
theorem createIntent_succeeds_iff (h : svc.Acceptable s now rfqId quoteId rfq quote)
    (hfill : fill = fillOf now fillId rfqId quoteId rfq quote) (after : RfqAftermath) :
    (svc.createOptionRfqExecutionIntent now intentId nonceOf s.series fill).Succeeds after ↔
      svc.NoncesKnown nonceOf fill := by
  subst hfill
  unfold createOptionRfqExecutionIntent NoncesKnown
  cases hexec : svc.executionEnabled with
  | false => simp [Act.Succeeds]
  | true =>
    obtain ⟨series, hseries, hpre⟩ := h.preflight
    simp only [validateOptionRfqExecutionPreflight, hexec, if_true, bind_eq_ok] at hpre
    obtain ⟨metadata, hmeta, quantity, hquantity, premium, hpremium, -⟩ := hpre
    simp only [if_true, true_implies, Act.succeeds_check_bind, bind_eq_ok, orElseFail_eq_ok,
      buildOptionExecutionIntent]
    rw [← optionExecutionNonces_ok_iff]
    constructor
    · rintro ⟨_, ⟨_, _, nonces, hnonces, -⟩, -⟩
      exact ⟨nonces, hnonces⟩
    · rintro ⟨nonces, hnonces⟩
      exact ⟨_, ⟨series, hseries, nonces, hnonces, metadata, hmeta, quantity, hquantity, premium,
        hpremium, rfl⟩, _, _, rfl⟩

theorem createIntent_keeps_ledger (allSeries : FMap OptionSeriesId OptionSeries)
    (fill : OptionRfqFill) : Act.Keeps (·.ledger)
      (svc.createOptionRfqExecutionIntent now intentId nonceOf allSeries fill) := by
  unfold createOptionRfqExecutionIntent
  split
  · refine (Act.Keeps.check _).bind fun intent => Act.Keeps.write fun after => ?_
    unfold insertOptionExecutionIntent
    split <;> rfl
  · exact Act.Keeps.pure ()

/-- **After the checks of an accept** the rest goes through when the nonces can be had and
the fees fit. -/
theorem followUp_succeeds_iff (h : svc.Acceptable s now rfqId quoteId rfq quote)
    (hfill : fill = fillOf now fillId rfqId quoteId rfq quote) :
    (svc.followUp now intentId nonceOf s.series fill).Succeeds s.after ↔
      svc.NoncesKnown nonceOf fill ∧ svc.FeesFit s fill := by
  have hledger : (svc.createOptionRfqExecutionIntent now intentId nonceOf s.series fill
      s.after).2.ledger = s.after.ledger := createIntent_keeps_ledger _ _ _
  rw [followUp, Act.succeeds_then, Act.succeeds_zoom, hledger, createIntent_succeeds_iff h hfill,
    recordOptionRfqFill, FeesFit, recordFill_succeeds_iff _ _ _ fun _ => legNotionals_eq_ok]

/-- **What an accept does once its checks have passed**: the fill is in the store, whatever
comes after. -/
theorem accept_run (fillId intentId : Uuid) (nonceOf : NonceAnswers)
    (h : svc.checkAccept s now rfqId quoteId = .ok (rfq, quote))
    (hpending : rfq.acceptedQuoteId = none) :
    let fill := fillOf now fillId rfqId quoteId rfq quote
    ∃ r after, svc.acceptOptionRfqQuote now fillId intentId nonceOf rfqId quoteId s =
        (r, { s with single := s.single.won rfqId quoteId rfq quote fill, after := after }) ∧
      ((∃ fill, r = .ok fill) ↔ svc.NoncesKnown nonceOf fill ∧ svc.FeesFit s fill) := by
  intro fill
  have hok := checkAccept_ok h
  have hstore := RfqBook.accept_of_open singleTexts fill hok.rfq_there hok.rfq_open.1 hpending
    hok.quote_there hok.quote_of hok.quote_active.1
  rw [← followUp_succeeds_iff hok rfl, Act.Succeeds]
  simp only [acceptOptionRfqQuote, h, hstore, fill]
  rcases svc.followUp now intentId nonceOf s.series (fillOf now fillId rfqId quoteId rfq quote)
    s.after with ⟨_ | ⟨⟩, after⟩
  · exact ⟨_, after, rfl, by simp⟩
  · exact ⟨_, after, rfl, by simp⟩

end

end RfqService

end DeoptBackend
