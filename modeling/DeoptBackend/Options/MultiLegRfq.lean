import DeoptBackend.Options.Rfq

/-!
# Requests for quotes on several series (`src/options/multi_leg_service.rs`)

A request names two to eight legs; a quote has a price for each of them and one price for
the package; the taker accepts by naming the package price and every leg price.  The rows of
the legs are kept in maps of their own, under the name of the request, quote or fill and the
number of the leg.

* `getOptionMultiLegRfq`, `getOptionMultiLegRfqQuote`, `getOptionMultiLegRfqFill` — a row with
  its legs, in the order of their numbers.
* `createOptionMultiLegRfq`, `submitOptionMultiLegRfqQuote`, `acceptOptionMultiLegRfqQuote`,
  `cancelOptionMultiLegRfq`, `cancelOptionMultiLegRfqQuoteByMaker`.
* `fillLegs_faithful` — the legs of a fill are those of the request, at the prices the taker
  named.
* `acceptMultiLeg_run` — once the checks of an accept have passed the fill is in the store,
  and only fees that do not fit can make the call fail.
-/

namespace DeoptBackend

open List Act Fees FMap

/-- `OptionMultiLegRfqRequest`. -/
abbrev OptionMultiLegRfqRequest := RfqRequest Unit

/-- `OptionMultiLegRfqQuote`. -/
abbrev OptionMultiLegRfqQuote := RfqQuote String

/-- `OptionMultiLegRfqFill`. -/
abbrev OptionMultiLegRfqFill := RfqFill String Unit

/-- `MIN_LEGS_PER_MULTI_LEG_RFQ`. -/
def minLegsPerMultiLegRfq : Nat := 2

/-- `MAX_LEGS_PER_MULTI_LEG_RFQ`. -/
def maxLegsPerMultiLegRfq : Nat := 8

structure LegInput where
  legIndex : Nat
  optionSeriesId : OptionSeriesId
  side : Side
  size1e8 : Nat
  ratioNum : Nat
  ratioDen : Nat

/-- What a request with several legs is called with. -/
structure CreateOptionMultiLegRfqInput where
  taker : AccountId
  takerSubaccountId : Nat
  legs : List LegInput
  ttlMs : Option Nat

/-- A leg price, as it is offered. -/
structure QuoteLegInput where
  legIndex : Nat
  price1e8 : Nat

structure SubmitOptionMultiLegRfqQuoteInput where
  mmAccount : AccountId
  makerSubaccountId : Nat
  sessionId : Option String
  clientQuoteId : Option String
  packagePrice1e8 : String
  size1e8 : Nat
  legs : List QuoteLegInput
  quoteNonce : Option Nat
  quoteTtlMs : Option Nat
  signature : Option String

/-- What an accept is called with: all prices are named by the taker. -/
structure AcceptOptionMultiLegRfqQuoteInput where
  taker : AccountId
  takerSubaccountId : Nat
  optionRfqId : Uuid
  quoteId : Uuid
  expectedPackagePrice1e8 : String
  expectedLegsCount : Nat
  expectedLegPrices1e8 : List Nat

namespace RfqStore

variable (s : RfqStore) (id : Uuid)

/-- `get_option_multi_leg_rfq`. -/
def getOptionMultiLegRfq : Option (OptionMultiLegRfqRequest × List OptionMultiLegRfqLeg) :=
  (s.multi.rfqs.get? id).map fun rfq =>
    (rfq, sortedBy (·.legIndex) (s.rfqLegs.family id))

/-- `get_option_multi_leg_rfq_quote`. -/
def getOptionMultiLegRfqQuote : Option (OptionMultiLegRfqQuote × List OptionMultiLegRfqQuoteLeg) :=
  (s.multi.quotes.get? id).map fun quote =>
    (quote, sortedBy (·.legIndex) (s.quoteLegs.family id))

/-- `get_option_multi_leg_rfq_fill`. -/
def getOptionMultiLegRfqFill : Option (OptionMultiLegRfqFill × List OptionMultiLegRfqFillLeg) :=
  (s.multi.fills.get? id).map fun fill =>
    (fill, sortedBy (·.legIndex) (s.fillLegs.family id))

end RfqStore

namespace RfqService

variable (svc : RfqService)

/-- The texts of requests with several legs. -/
def multiTexts : RfqTexts where
  noLongerOpen := "multi-leg option RFQ is no longer open"
  noLongerActive := "multi-leg option RFQ quote is no longer active"
  duplicateQuote := "duplicate client_quote_id for multi-leg option RFQ and MM account"

/-- `ensure_option_multi_leg_rfq_enabled`. -/
def ensureOptionMultiLegRfqEnabled : Except BackendError Unit := do
  svc.ensureOptionRfqEnabled
  insist (svc.rfqMultiLegEnabled = true) .optionMultiLegRfqNotLive

/-- `validate_account`, which asks for less than the one of requests with one leg. -/
def validateNamed (account : AccountId) : Except BackendError Unit :=
  insist (account.name.toList.all isWhitespace = false) (.invalidOptionRfqState "account is required")

/-- The number of legs is within bounds. -/
def validateLegCount (n : Nat) : Except BackendError Unit := do
  insist (minLegsPerMultiLegRfq ≤ n) (.invalidOptionRfqState
    ("multi-leg RFQ requires at least " ++ toString minLegsPerMultiLegRfq ++ " legs, got " ++
      toString n))
  insist (n ≤ maxLegsPerMultiLegRfq) (.invalidOptionRfqState
    ("multi-leg RFQ supports at most " ++ toString maxLegsPerMultiLegRfq ++ " legs, got " ++
      toString n))

/-! ## Asking -/

def validateLegSeries (s : RfqStore) (nowSec : Nat) :
    List (Nat × OptionSeriesId) → Except BackendError Unit
  | [] => .ok ()
  | (legIndex, id) :: legs => do
      let series ← orElseFail (.invalidOptionSeriesId id) (s.series.get? id)
      insist (series.effectiveStatus nowSec = .active) (.invalidOptionRfqState
        ("multi-leg RFQ leg " ++ toString legIndex ++ " references an inactive option series"))
      validateLegSeries s nowSec legs

/-- The loop of `create_option_multi_leg_rfq` over its legs. -/
def validateLegInputs (s : RfqStore) (nowSec : Nat) :
    List LegInput → Except BackendError Unit
  | [] => .ok ()
  | leg :: legs => do
      validateLegSeries s nowSec [(leg.legIndex, leg.optionSeriesId)]
      insist (leg.size1e8 ≠ 0) .zeroSize
      validateLegInputs s nowSec legs

/-- The loop of `validate_multi_leg_composition`. -/
def validateComposition (rfqId : Uuid) : Nat → List OptionMultiLegRfqLeg → Except BackendError Unit
  | _, [] => .ok ()
  | index, leg :: legs => do
      insist (leg.optionRfqId = rfqId)
        (.invalidOptionRfqState "multi-leg RFQ leg.option_rfq_id does not match parent")
      insist (leg.legIndex = index) (.invalidOptionRfqState
        ("multi-leg RFQ leg_index must be contiguous from 0; expected " ++ toString index ++
          ", got " ++ toString leg.legIndex))
      insist (leg.ratioNum ≠ 0 ∧ leg.ratioDen ≠ 0)
        (.invalidOptionRfqState "multi-leg RFQ leg ratio must be strictly positive")
      insist (leg.size1e8 ≠ 0)
        (.invalidOptionRfqState "multi-leg RFQ leg size must be strictly positive")
      validateComposition rfqId (index + 1) legs

/-- `validate_multi_leg_composition`. -/
def validateMultiLegComposition (rfqId : Uuid) (legs : List OptionMultiLegRfqLeg) :
    Except BackendError Unit := do
  validateLegCount legs.length
  validateComposition rfqId 0 legs

def legRows (rfqId : Uuid) (legs : List LegInput) : List OptionMultiLegRfqLeg :=
  legs.map fun leg =>
    ⟨rfqId, leg.legIndex, leg.optionSeriesId, leg.side, leg.size1e8, leg.ratioNum, leg.ratioDen⟩

variable (s : RfqStore)

/-- The checks of `create_option_multi_leg_rfq`, and the rows they let through. -/
def checkCreateMultiLeg (now : TimestampMs) (id : Uuid) (input : CreateOptionMultiLegRfqInput) :
    Except BackendError (OptionMultiLegRfqRequest × List OptionMultiLegRfqLeg) := do
  svc.ensureOptionMultiLegRfqEnabled
  validateNamed input.taker
  insist (1 ≤ input.takerSubaccountId)
    (.invalidOptionRfqState "multi-leg RFQ taker_subaccount_id must be >= 1")
  validateLegCount input.legs.length
  let nowSec ← OptionsService.nowSec now
  validateLegInputs s nowSec input.legs
  let ttlMs := input.ttlMs.getD svc.rfqDefaultTtlMs
  insist (ttlMs ≠ 0) (.invalidOptionRfqState "multi-leg RFQ ttl_ms must be > 0")
  let expiresAtMs ← checkedExpiry now (min ttlMs svc.rfqMaxTtlMs) "multi-leg RFQ expiry"
  let legs := legRows id input.legs
  validateMultiLegComposition id legs
  return ({
    optionRfqId := id
    taker := input.taker
    takerSubaccountId := input.takerSubaccountId
    createdAtMs := now
    expiresAtMs := expiresAtMs
    terms := ()
    status := .open
    acceptedQuoteId := none
    fillId := none }, legs)

/-- `insert_option_multi_leg_rfq`. -/
def insertOptionMultiLegRfq (rfq : OptionMultiLegRfqRequest) (legs : List OptionMultiLegRfqLeg) :
    Act BackendError RfqStore Unit := fun s =>
  if (s.multi.rfqs.get? rfq.optionRfqId).isSome then
    (.error (.invalidOptionRfqState "duplicate multi-leg RFQ id"), s)
  else
    (.ok (), { s with
      multi := s.multi.insertRfq rfq
      rfqLegs := setAll (fun leg => (rfq.optionRfqId, leg.legIndex)) id legs s.rfqLegs })

variable (now : TimestampMs)

/-- `create_option_multi_leg_rfq`, with the name drawn for the request. -/
def createOptionMultiLegRfq (id : Uuid) (input : CreateOptionMultiLegRfqInput) :
    Act BackendError RfqStore (OptionMultiLegRfqRequest × List OptionMultiLegRfqLeg) := do
  let s ← read fun s => s
  let (rfq, legs) ← check (svc.checkCreateMultiLeg s now id input)
  insertOptionMultiLegRfq rfq legs
  let s' ← read fun s => s
  check (orElseFail .invalidOptionRfqId (s'.getOptionMultiLegRfq id))

/-! ## Quoting -/

def minLegSize (legs : List OptionMultiLegRfqLeg) : Nat := ((legs.map (·.size1e8)).min?).getD 0

/-- The loop of `validate_multi_leg_quote_composition`. -/
def validateQuoteComposition (quoteId : Uuid) :
    Nat → List OptionMultiLegRfqQuoteLeg → Except BackendError Unit
  | _, [] => .ok ()
  | index, leg :: legs => do
      insist (leg.quoteId = quoteId)
        (.invalidOptionRfqQuoteState "multi-leg quote leg.quote_id does not match parent")
      insist (leg.legIndex = index) (.invalidOptionRfqQuoteState
        ("multi-leg quote leg_index must be contiguous from 0; expected " ++ toString index ++
          ", got " ++ toString leg.legIndex))
      insist (leg.price1e8 ≠ 0)
        (.invalidOptionRfqQuoteState "multi-leg quote leg price must be strictly positive")
      validateQuoteComposition quoteId (index + 1) legs

/-- The number of legs of a quote is that of the request. -/
def validateQuoteLegCount (expected got : Nat) : Except BackendError Unit :=
  insist (got = expected) (.invalidOptionRfqQuoteState
    ("multi-leg quote must carry exactly " ++ toString expected ++ " legs, got " ++ toString got))

/-- `validate_multi_leg_quote_composition`. -/
def validateMultiLegQuoteComposition (quoteId : Uuid) (expected : Nat)
    (legs : List OptionMultiLegRfqQuoteLeg) : Except BackendError Unit := do
  validateQuoteLegCount expected legs.length
  validateQuoteComposition quoteId 0 legs

variable (now : TimestampMs) (quoteId rfqId : Uuid) (input : SubmitOptionMultiLegRfqQuoteInput)

/-- The checks of `submit_option_multi_leg_rfq_quote`, and the rows they let through. -/
def checkQuoteMultiLeg :
    Except BackendError (OptionMultiLegRfqQuote × List OptionMultiLegRfqQuoteLeg) := do
  svc.ensureOptionMultiLegRfqEnabled
  validateNamed input.mmAccount
  insist (1 ≤ input.makerSubaccountId)
    (.invalidOptionRfqQuoteState "multi-leg RFQ maker_subaccount_id must be >= 1")
  insist (input.size1e8 ≠ 0) .zeroSize
  insist (input.packagePrice1e8 ≠ "")
    (.invalidOptionRfqQuoteState "multi-leg quote package_price_1e8 must be non-empty")
  let (rfq, rfqLegs) ← orElseFail .invalidOptionRfqId (s.getOptionMultiLegRfq rfqId)
  insist (rfq.effectiveStatus now = .open) (.invalidOptionRfqState "multi-leg RFQ is not open")
  validateQuoteLegCount rfqLegs.length input.legs.length
  insist (input.size1e8 ≤ minLegSize rfqLegs)
    (.invalidOptionRfqQuoteState "multi-leg quote size exceeds smallest RFQ leg size")
  insist (s.multi.countQuotes rfqId < svc.rfqMaxQuotesPerRfq)
    (.invalidOptionRfqQuoteState "multi-leg RFQ quote limit reached")
  let quoteTtlMs := min (input.quoteTtlMs.getD svc.rfqMaxQuoteTtlMs) svc.rfqMaxQuoteTtlMs
  insist (quoteTtlMs ≠ 0 ∧ svc.rfqMinQuoteTtlMs ≤ quoteTtlMs)
    (.invalidOptionRfqQuoteState "multi-leg quote quote_ttl_ms is out of bounds")
  let byTtl ← checkedExpiry now quoteTtlMs "multi-leg quote expiry"
  insist (now < min byTtl rfq.expiresAtMs)
    (.invalidOptionRfqQuoteState "multi-leg quote has expired")
  let legs := input.legs.map fun leg => ⟨quoteId, leg.legIndex, leg.price1e8⟩
  validateMultiLegQuoteComposition quoteId rfqLegs.length legs
  return ({
    quoteId := quoteId
    optionRfqId := rfqId
    mmAccount := input.mmAccount
    makerSubaccountId := input.makerSubaccountId
    sessionId := input.sessionId
    clientQuoteId := input.clientQuoteId
    price := input.packagePrice1e8
    size1e8 := input.size1e8
    createdAtMs := now
    expiresAtMs := min byTtl rfq.expiresAtMs
    signature := input.signature
    quoteDigest := none
    quoteNonce := input.quoteNonce.map toString
    signatureStatus := .notRequired
    recoveredSigner := none
    status := .active }, legs)

/-- `insert_option_multi_leg_rfq_quote`. -/
def insertOptionMultiLegRfqQuote (quote : OptionMultiLegRfqQuote)
    (legs : List OptionMultiLegRfqQuoteLeg) : Act BackendError RfqStore Unit := fun s =>
  match RfqBook.insertQuote multiTexts quote s.multi with
  | (.error e, _) => (.error e, s)
  | (.ok (), book) =>
    (.ok (), { s with
      multi := book
      quoteLegs := setAll (fun leg => (quote.quoteId, leg.legIndex)) id legs s.quoteLegs })

/-- `submit_option_multi_leg_rfq_quote`, with the name drawn for the quote. -/
def submitOptionMultiLegRfqQuote :
    Act BackendError RfqStore (OptionMultiLegRfqQuote × List OptionMultiLegRfqQuoteLeg) := do
  let s ← read fun s => s
  let (quote, legs) ← check (svc.checkQuoteMultiLeg s now quoteId rfqId input)
  insertOptionMultiLegRfqQuote quote legs
  let s' ← read fun s => s
  check (orElseFail .invalidOptionRfqQuoteId (s'.getOptionMultiLegRfqQuote quoteId))

/-! ## Accepting -/

/-- `accounts_equal`. -/
def accountsEqual (left right : AccountId) : Bool := eqIgnoreAsciiCase left.name right.name

/-- The loop of `accept_option_multi_leg_rfq_quote` over the legs of the quote, each with the
leg of the request and the expected price at its place: the three lists have one length. -/
def checkLegPrices : Nat → List (OptionMultiLegRfqQuoteLeg × OptionMultiLegRfqLeg × Nat) →
    Except BackendError Unit
  | _, [] => .ok ()
  | index, (quoteLeg, rfqLeg, expected) :: legs => do
      insist (quoteLeg.legIndex = index)
        (.invalidOptionRfqQuoteState "multi-leg quote legs are not contiguous")
      insist (quoteLeg.legIndex = rfqLeg.legIndex)
        (.invalidOptionRfqQuoteState "multi-leg quote leg_index does not match RFQ leg_index")
      insist (quoteLeg.price1e8 ≠ 0)
        (.invalidOptionRfqQuoteState "multi-leg quote leg price is zero")
      insist (expected = quoteLeg.price1e8)
        (.invalidOptionRfqQuoteState "multi-leg accept expected_leg_price mismatch")
      checkLegPrices (index + 1) legs

/-- What an accept that passes the checks found. -/
structure MultiLegDeal where
  rfq : OptionMultiLegRfqRequest
  rfqLegs : List OptionMultiLegRfqLeg
  quote : OptionMultiLegRfqQuote
  quoteLegs : List OptionMultiLegRfqQuoteLeg

/-- The checks of `accept_option_multi_leg_rfq_quote`. -/
def checkAcceptMultiLeg (input : AcceptOptionMultiLegRfqQuoteInput) :
    Except BackendError MultiLegDeal := do
  svc.ensureOptionMultiLegRfqEnabled
  validateNamed input.taker
  insist (1 ≤ input.takerSubaccountId)
    (.invalidOptionRfqState "multi-leg accept taker_subaccount_id must be >= 1")
  let (rfq, rfqLegs) ← orElseFail .invalidOptionRfqId (s.getOptionMultiLegRfq input.optionRfqId)
  insist (accountsEqual rfq.taker input.taker = true)
    (.invalidOptionRfqState "multi-leg RFQ taker mismatch")
  insist (rfq.takerSubaccountId = input.takerSubaccountId)
    (.invalidOptionRfqState "multi-leg RFQ taker subaccount mismatch")
  insist (rfq.effectiveStatus now = .open)
    (.invalidOptionRfqState "multi-leg option RFQ is not open")
  let (quote, quoteLegs) ← orElseFail .invalidOptionRfqQuoteId
    (s.getOptionMultiLegRfqQuote input.quoteId)
  insist (quote.optionRfqId = input.optionRfqId)
    (.invalidOptionRfqQuoteState "multi-leg option RFQ quote does not belong to RFQ")
  insist (quote.effectiveStatus now = .active)
    (.invalidOptionRfqQuoteState "multi-leg option RFQ quote is not active")
  insist (quote.price = input.expectedPackagePrice1e8)
    (.invalidOptionRfqQuoteState "multi-leg quote package_price_1e8 mismatch")
  insist (quoteLegs.length % 2 ^ 32 = input.expectedLegsCount)
    (.invalidOptionRfqQuoteState "multi-leg quote legs_count mismatch")
  insist (quoteLegs.length = rfqLegs.length)
    (.invalidOptionRfqQuoteState "multi-leg quote legs count does not match RFQ")
  insist (input.expectedLegPrices1e8.length = quoteLegs.length)
    (.invalidOptionRfqQuoteState "multi-leg accept expected_leg_prices length mismatch")
  checkLegPrices 0 (quoteLegs.zip (rfqLegs.zip input.expectedLegPrices1e8))
  insist (quote.size1e8 ≤ minLegSize rfqLegs)
    (.invalidOptionRfqQuoteState "multi-leg quote size exceeds smallest RFQ leg size")
  let nowSec ← OptionsService.nowSec now
  validateLegSeries s nowSec (rfqLegs.map fun leg => (leg.legIndex, leg.optionSeriesId))
  return ⟨rfq, rfqLegs, quote, quoteLegs⟩

def MultiLegDeal.fill (deal : MultiLegDeal) (now : TimestampMs) (fillId : Uuid) :
    OptionMultiLegRfqFill where
  fillId := fillId
  optionRfqId := deal.rfq.optionRfqId
  quoteId := deal.quote.quoteId
  taker := deal.rfq.taker
  takerSubaccountId := deal.rfq.takerSubaccountId
  mmAccount := deal.quote.mmAccount
  makerSubaccountId := deal.quote.makerSubaccountId
  price := deal.quote.price
  size1e8 := deal.quote.size1e8
  createdAtMs := now
  details := ()

/-- Its legs: the series and sides of the request, the size of the quote, the prices of its
legs. -/
def MultiLegDeal.fillLegs (deal : MultiLegDeal) (fillId : Uuid) : List OptionMultiLegRfqFillLeg :=
  (deal.rfqLegs.zip deal.quoteLegs).map fun (rfqLeg, quoteLeg) =>
    ⟨fillId, rfqLeg.legIndex, rfqLeg.optionSeriesId, rfqLeg.side, deal.quote.size1e8,
      quoteLeg.price1e8⟩

/-- `accept_option_multi_leg_rfq_quote` of the store. -/
def acceptMultiLegInStore (deal : MultiLegDeal) (fill : OptionMultiLegRfqFill)
    (fillLegs : List OptionMultiLegRfqFillLeg) :
    Act BackendError RfqStore (OptionMultiLegRfqRequest × OptionMultiLegRfqQuote) := fun s =>
  match RfqBook.accept multiTexts deal.rfq.optionRfqId deal.quote.quoteId fill s.multi with
  | (.error e, _) => (.error e, s)
  | (.ok r, book) =>
    (.ok r, { s with
      multi := book
      fillLegs := setAll (fun leg => (fill.fillId, leg.legIndex)) id fillLegs s.fillLegs })

/-- `accept_option_multi_leg_rfq_quote`, with the name drawn for the fill. -/
def acceptOptionMultiLegRfqQuote (fillId : Uuid) (input : AcceptOptionMultiLegRfqQuoteInput) :
    Act BackendError RfqStore OptionMultiLegRfqFill := fun s =>
  match svc.checkAcceptMultiLeg s now input with
  | .error e => (.error e, s)
  | .ok deal =>
    let fill := deal.fill now fillId
    let fillLegs := deal.fillLegs fillId
    match acceptMultiLegInStore deal fill fillLegs s with
    | (.error e, _) => (.error e, s)
    | (.ok _, s') =>
      match recordOptionMultiLegRfqFill s.series svc.fees fill fillLegs s'.after.ledger with
      | (.error e, ledger) =>
        (.error e, { s' with after := { s'.after with ledger := ledger } })
      | (.ok (), ledger) => (.ok fill, { s' with after := { s'.after with ledger := ledger } })

/-! ## Withdrawing -/

variable (rfqId : Uuid) (taker : AccountId) (takerSubaccountId : Nat)

/-- The checks of `cancel_option_multi_leg_rfq`: the service checks what it has read, and the
store what it holds. -/
def checkCancelMultiLeg : Except BackendError OptionMultiLegRfqRequest := do
  svc.ensureOptionMultiLegRfqEnabled
  validateNamed taker
  insist (1 ≤ takerSubaccountId)
    (.invalidOptionRfqState "multi-leg cancel taker_subaccount_id must be >= 1")
  let (rfq, _) ← orElseFail .invalidOptionRfqId (s.getOptionMultiLegRfq rfqId)
  insist (accountsEqual rfq.taker taker = true)
    (.invalidOptionRfqState "multi-leg RFQ does not belong to caller")
  insist (rfq.takerSubaccountId = takerSubaccountId)
    (.invalidOptionRfqState "multi-leg RFQ taker subaccount mismatch")
  insist (rfq.acceptedQuoteId = none ∧ rfq.fillId = none)
    (.invalidOptionRfqState "multi-leg option RFQ already accepted; cannot cancel")
  insist (rfq.status = .open) (.invalidOptionRfqState "multi-leg option RFQ is not open")
  insist (accountsEqual rfq.taker taker = true ∧ rfq.takerSubaccountId = takerSubaccountId)
    (.invalidOptionRfqState "multi-leg option RFQ cannot be cancelled")
  insist (rfq.status = .open ∧ rfq.acceptedQuoteId = none ∧ rfq.fillId = none)
    (.invalidOptionRfqState "multi-leg option RFQ cannot be cancelled")
  return rfq

/-- `cancel_option_multi_leg_rfq`. -/
def cancelOptionMultiLegRfq :
    Act BackendError RfqStore (OptionMultiLegRfqRequest × Nat) := do
  let s ← read fun s => s
  let rfq ← check (svc.checkCancelMultiLeg s rfqId taker takerSubaccountId)
  write fun s => { s with multi := s.multi.withdrawn rfqId rfq }
  let s' ← read fun s => s
  let (rfq', _) ← check (orElseFail .invalidOptionRfqId (s'.getOptionMultiLegRfq rfqId))
  return (rfq', s.multi.activeQuotes rfqId)

variable (rfqId quoteId : Uuid) (mmAccount : AccountId) (makerSubaccountId : Nat)

/-- The checks of `cancel_option_multi_leg_rfq_quote_by_maker`, of the service and of the
store. -/
def checkCancelQuote : Except BackendError OptionMultiLegRfqQuote := do
  svc.ensureOptionMultiLegRfqEnabled
  validateNamed mmAccount
  insist (1 ≤ makerSubaccountId)
    (.invalidOptionRfqQuoteState "multi-leg quote cancel maker_subaccount_id must be >= 1")
  let (quote, _) ← orElseFail .invalidOptionRfqQuoteId (s.getOptionMultiLegRfqQuote quoteId)
  insist (quote.optionRfqId = rfqId)
    (.invalidOptionRfqQuoteState "multi-leg quote does not belong to the referenced RFQ")
  insist (accountsEqual quote.mmAccount mmAccount = true)
    (.invalidOptionRfqQuoteState "multi-leg quote does not belong to the caller")
  insist (quote.makerSubaccountId = makerSubaccountId)
    (.invalidOptionRfqQuoteState "multi-leg quote maker subaccount mismatch")
  insist (quote.status = .active) (.invalidOptionRfqQuoteState "multi-leg quote is not active")
  insist (accountsEqual quote.mmAccount mmAccount = true ∧
      quote.makerSubaccountId = makerSubaccountId ∧ quote.status = .active)
    (.invalidOptionRfqQuoteState "multi-leg quote cannot be cancelled by maker")
  return quote

/-- `cancel_option_multi_leg_rfq_quote_by_maker`. -/
def cancelOptionMultiLegRfqQuoteByMaker :
    Act BackendError RfqStore (OptionMultiLegRfqQuote × OptionMultiLegRfqRequest) := do
  let s ← read fun s => s
  let quote ← check (svc.checkCancelQuote s rfqId quoteId mmAccount makerSubaccountId)
  write fun s => { s with multi := s.multi.quoteWithdrawn quoteId quote }
  let s' ← read fun s => s
  let (quote', _) ← check
    (orElseFail .invalidOptionRfqQuoteId (s'.getOptionMultiLegRfqQuote quoteId))
  let (rfq', _) ← check (orElseFail .invalidOptionRfqId (s'.getOptionMultiLegRfq rfqId))
  return (quote', rfq')

/-! ## What the calls do -/

/-- What a fill has to do with the request and the quote, legs aside. -/
structure PackageFits (ask : RfqAsk Unit) (bid : RfqBid String) (fill : OptionMultiLegRfqFill) :
    Prop where
  before_expiry : fill.createdAtMs < ask.expiresAtMs ∧ fill.createdAtMs < bid.expiresAtMs
  size : 0 < fill.size1e8

/-- The legs of a fill are the legs of the request, in their order, at the named prices, and
no larger than any of them. -/
structure LegsFaithful (fill : OptionMultiLegRfqFill) (rfqLegs : List OptionMultiLegRfqLeg)
    (fillLegs : List OptionMultiLegRfqFillLeg) (expected : List Nat) : Prop where
  series : fillLegs.map (·.optionSeriesId) = rfqLegs.map (·.optionSeriesId)
  sides : fillLegs.map (·.side) = rfqLegs.map (·.side)
  prices : fillLegs.map (·.price1e8) = expected
  sizes : ∀ leg ∈ fillLegs, leg.size1e8 = fill.size1e8
  within : ∀ leg ∈ rfqLegs, fill.size1e8 ≤ leg.size1e8

section

variable {svc} {s : RfqStore} {now : TimestampMs} {input : AcceptOptionMultiLegRfqQuoteInput}

theorem minLegSize_le (h : leg ∈ legs) : minLegSize legs ≤ leg.size1e8 := by
  have hmem : leg.size1e8 ∈ legs.map (·.size1e8) := mem_map_of_mem h
  unfold minLegSize
  cases hmin : (legs.map (·.size1e8)).min? with
  | none =>
    rw [min?_eq_none_iff.1 hmin] at hmem
    cases hmem
  | some => exact (min?_eq_some_iff.1 hmin).2 _ hmem

theorem checkLegPrices_ok (h : checkLegPrices index legs = .ok ()) :
    (∀ x ∈ legs, index ≤ x.2.1.legIndex) ∧
      (legs.Pairwise fun x y => x.2.1.legIndex < y.2.1.legIndex) ∧
      ∀ x ∈ legs, x.2.2 = x.1.price1e8 := by
  induction legs generalizing index with
  | nil => simp
  | cons x legs ih =>
    obtain ⟨quoteLeg, rfqLeg, expected⟩ := x
    simp only [checkLegPrices, Except.bind_eq_ok, exists_insist_eq_ok] at h
    obtain ⟨hindex, hsame, -, hprice, h⟩ := h
    obtain ⟨hle, hgrow, hprices⟩ := ih h
    have hhead : rfqLeg.legIndex = index := hsame.symm.trans hindex
    refine ⟨?_, pairwise_cons.2 ⟨?_, hgrow⟩, ?_⟩
    · intro y hy
      rcases mem_cons.1 hy with rfl | hy
      · exact hhead.ge
      · exact Nat.le_of_succ_le (hle y hy)
    · intro y hy
      have hy' := hle y hy
      show rfqLeg.legIndex < _
      omega
    · intro y hy
      rcases mem_cons.1 hy with rfl | hy
      · exact hprice
      · exact hprices y hy

/-- What is known once the checks of an accept have passed. -/
structure Agreed (s : RfqStore) (now : TimestampMs)
    (input : AcceptOptionMultiLegRfqQuoteInput) (deal : MultiLegDeal) : Prop where
  rfq_there : s.getOptionMultiLegRfq input.optionRfqId = some (deal.rfq, deal.rfqLegs)
  rfq_open : deal.rfq.status = .open ∧ now < deal.rfq.expiresAtMs
  quote_there : s.getOptionMultiLegRfqQuote input.quoteId = some (deal.quote, deal.quoteLegs)
  quote_of : deal.quote.optionRfqId = input.optionRfqId
  quote_active : deal.quote.status = .active ∧ now < deal.quote.expiresAtMs
  same_length : deal.quoteLegs.length = deal.rfqLegs.length ∧
    input.expectedLegPrices1e8.length = deal.quoteLegs.length
  prices : checkLegPrices 0
    (deal.quoteLegs.zip (deal.rfqLegs.zip input.expectedLegPrices1e8)) = .ok ()
  within : deal.quote.size1e8 ≤ minLegSize deal.rfqLegs

theorem checkAcceptMultiLeg_ok (h : svc.checkAcceptMultiLeg s now input = .ok deal) :
    Agreed s now input deal := by
  simp only [checkAcceptMultiLeg, Except.bind_eq_ok, exists_insist_eq_ok, orElseFail_eq_ok] at h
  obtain ⟨_, _, _, _, _, ⟨rfq, rfqLegs⟩, hrfq, -, -, hopen, ⟨quote, quoteLegs⟩, hquote, hof,
    hactive, -, -, hlength, hlength', _, hprices, hwithin, _, _, _, _, h⟩ := h
  cases h
  exact ⟨hrfq, RfqRequest.open_of_effectiveStatus hopen, hquote, hof,
    RfqQuote.active_of_effectiveStatus hactive, ⟨hlength, hlength'⟩, hprices, hwithin⟩

namespace Agreed

/-- The legs of the quote, of the request, and the expected prices, place by place. -/
def places (input : AcceptOptionMultiLegRfqQuoteInput) (deal : MultiLegDeal) :
    List (OptionMultiLegRfqQuoteLeg × OptionMultiLegRfqLeg × Nat) :=
  deal.quoteLegs.zip (deal.rfqLegs.zip input.expectedLegPrices1e8)

variable (h : Agreed s now input deal)
include h

theorem rest_of_places :
    (places input deal).map (·.2) = deal.rfqLegs.zip input.expectedLegPrices1e8 := by
  refine map_snd_zip ?_
  rw [length_zip, h.same_length.1]
  exact min_le_left _ _

theorem quoteLegs_of_places : (places input deal).map (·.1) = deal.quoteLegs := by
  refine map_fst_zip ?_
  rw [length_zip, h.same_length.2, h.same_length.1, Nat.min_self]

theorem rfqLegs_of_places : (places input deal).map (·.2.1) = deal.rfqLegs := by
  have hlength : deal.rfqLegs.length ≤ input.expectedLegPrices1e8.length := by
    rw [h.same_length.2, h.same_length.1]
  rw [← map_fst_zip hlength, ← h.rest_of_places, map_map]
  rfl

theorem expected_of_places : (places input deal).map (·.2.2) = input.expectedLegPrices1e8 := by
  have hlength : input.expectedLegPrices1e8.length ≤ deal.rfqLegs.length := by
    rw [h.same_length.2, h.same_length.1]
  rw [← map_snd_zip hlength, ← h.rest_of_places, map_map]
  rfl

theorem legs_grow : deal.rfqLegs.Pairwise fun a b => a.legIndex < b.legIndex := by
  rw [← h.rfqLegs_of_places]
  exact pairwise_map.2 (checkLegPrices_ok h.prices).2.1

theorem prices_named : deal.quoteLegs.map (·.price1e8) = input.expectedLegPrices1e8 := by
  rw [← h.quoteLegs_of_places, ← h.expected_of_places, map_map]
  refine map_congr_left fun x hx => ?_
  exact ((checkLegPrices_ok h.prices).2.2 x hx).symm

theorem fillLegs_grow (fillId : Uuid) :
    (deal.fillLegs fillId).Pairwise fun a b => a.legIndex < b.legIndex := by
  have hlegs : (deal.rfqLegs.zip deal.quoteLegs).map (·.1) = deal.rfqLegs :=
    map_fst_zip h.same_length.1.ge
  have hgrow := h.legs_grow
  rw [← hlegs, pairwise_map] at hgrow
  exact pairwise_map.2 hgrow

/-- **The legs of a fill are those of the request, at the prices the taker named.** -/
theorem fillLegs_faithful (fillId : Uuid) :
    LegsFaithful (deal.fill now fillId) deal.rfqLegs (deal.fillLegs fillId)
      input.expectedLegPrices1e8 := by
  have hrfq : (deal.rfqLegs.zip deal.quoteLegs).map (·.1) = deal.rfqLegs :=
    map_fst_zip h.same_length.1.ge
  have hquote : (deal.rfqLegs.zip deal.quoteLegs).map (·.2) = deal.quoteLegs :=
    map_snd_zip h.same_length.1.le
  refine ⟨?_, ?_, ?_, ?_, ?_⟩
  · conv_rhs => rw [← hrfq]
    rw [MultiLegDeal.fillLegs, map_map, map_map]
    rfl
  · conv_rhs => rw [← hrfq]
    rw [MultiLegDeal.fillLegs, map_map, map_map]
    rfl
  · rw [← h.prices_named, ← hquote, MultiLegDeal.fillLegs, map_map, map_map]
    rfl
  · intro leg hleg
    obtain ⟨⟨rfqLeg, quoteLeg⟩, -, rfl⟩ := mem_map.1 hleg
    rfl
  · intro leg hleg
    exact h.within.trans (minLegSize_le hleg)

end Agreed

theorem getOptionMultiLegRfq_eq_some {id : Uuid} :
    s.getOptionMultiLegRfq id = some (rfq, legs) ↔
      s.multi.rfqs.get? id = some rfq ∧ legs = sortedBy (·.legIndex) (s.rfqLegs.family id) := by
  simp [RfqStore.getOptionMultiLegRfq, eq_comm]

theorem getOptionMultiLegRfqQuote_eq_some {id : Uuid} :
    s.getOptionMultiLegRfqQuote id = some (quote, legs) ↔ s.multi.quotes.get? id = some quote ∧
        legs = sortedBy (·.legIndex) (s.quoteLegs.family id) := by
  simp [RfqStore.getOptionMultiLegRfqQuote, eq_comm]

theorem getOptionMultiLegRfqFill_eq_some {id : Uuid} :
    s.getOptionMultiLegRfqFill id = some (fill, legs) ↔
      s.multi.fills.get? id = some fill ∧
        legs = sortedBy (·.legIndex) (s.fillLegs.family id) := by
  simp [RfqStore.getOptionMultiLegRfqFill, eq_comm]

theorem checkCreateMultiLeg_ok {id : Uuid} {input : CreateOptionMultiLegRfqInput}
    (h : svc.checkCreateMultiLeg s now id input = .ok (rfq, legs)) :
    rfq.optionRfqId = id ∧ rfq.status = .open ∧ rfq.acceptedQuoteId = none := by
  simp only [checkCreateMultiLeg, Except.bind_eq_ok, exists_insist_eq_ok] at h
  obtain ⟨_, _, _, _, -, _, _, _, _, _, _, -, _, _, _, _, h⟩ := h
  cases h
  exact ⟨rfl, rfl, rfl⟩

theorem checkQuoteMultiLeg_ok {quoteId rfqId : Uuid} {input : SubmitOptionMultiLegRfqQuoteInput}
    (h : svc.checkQuoteMultiLeg s now quoteId rfqId input = .ok (quote, legs)) :
    (∃ rfq, s.multi.rfqs.get? quote.optionRfqId = some rfq ∧ rfq.status = .open) ∧
      quote.quoteId = quoteId ∧ quote.status = .active ∧ 0 < quote.size1e8 := by
  simp only [checkQuoteMultiLeg, Except.bind_eq_ok, exists_insist_eq_ok, orElseFail_eq_ok] at h
  obtain ⟨_, _, _, _, -, hsize, -, ⟨rfq, rfqLegs⟩, hrfq, hopen, _, _, -, -, -, _, _, -, _, _, h⟩ := h
  cases h
  exact ⟨⟨rfq, (getOptionMultiLegRfq_eq_some.1 hrfq).1,
    (RfqRequest.open_of_effectiveStatus hopen).1⟩, rfl, rfl, Nat.pos_of_ne_zero hsize⟩

theorem checkCancelMultiLeg_ok {rfqId : Uuid} {taker : AccountId} {takerSubaccountId : Nat}
    (h : svc.checkCancelMultiLeg s rfqId taker takerSubaccountId = .ok rfq) :
    s.multi.rfqs.get? rfqId = some rfq ∧ rfq.status = .open := by
  simp only [checkCancelMultiLeg, Except.bind_eq_ok, exists_insist_eq_ok, orElseFail_eq_ok] at h
  obtain ⟨_, _, _, _, -, ⟨rfq', legs⟩, hrfq, -, -, -, hopen, -, -, h⟩ := h
  cases h
  exact ⟨(getOptionMultiLegRfq_eq_some.1 hrfq).1, hopen⟩

theorem checkCancelQuote_ok {rfqId quoteId : Uuid} {mmAccount : AccountId} {makerSubaccountId : Nat}
    (h : svc.checkCancelQuote s rfqId quoteId mmAccount makerSubaccountId = .ok quote) :
    s.multi.quotes.get? quoteId = some quote ∧ quote.optionRfqId = rfqId ∧
      quote.status = .active := by
  simp only [checkCancelQuote, Except.bind_eq_ok, exists_insist_eq_ok, orElseFail_eq_ok] at h
  obtain ⟨_, _, _, _, -, ⟨quote', legs⟩, hquote, hof, -, -, hactive, -, h⟩ := h
  cases h
  exact ⟨(getOptionMultiLegRfqQuote_eq_some.1 hquote).1, hof, hactive⟩

/-- The fees of a fill fit. -/
def PackageFeesFit (svc : RfqService) (s : RfqStore) (fill : OptionMultiLegRfqFill)
    (fillLegs : List OptionMultiLegRfqFillLeg) : Prop :=
  Chargeable svc.fees .optionMultiLegRfqFill fill (PackageWorth s.series (0, 0) fillLegs)
    s.after.ledger

/-- **What an accept does once its checks have passed**: the fill is in the store, whatever
becomes of the fees. -/
theorem acceptMultiLeg_run (fillId : Uuid) (h : svc.checkAcceptMultiLeg s now input = .ok deal)
    (hb : s.multi.Lifecycle PackageFits) :
    ∃ r after, svc.acceptOptionMultiLegRfqQuote now fillId input s = (r, { s with
          multi := s.multi.won input.optionRfqId input.quoteId deal.rfq deal.quote
            (deal.fill now fillId)
          fillLegs := setAll (fun leg => (fillId, leg.legIndex)) id (deal.fillLegs fillId)
            s.fillLegs
          after := after }) ∧
      ((∃ fill, r = .ok fill) ↔
        svc.PackageFeesFit s (deal.fill now fillId) (deal.fillLegs fillId)) := by
  have hok := checkAcceptMultiLeg_ok h
  obtain ⟨hrfq, -⟩ := getOptionMultiLegRfq_eq_some.1 hok.rfq_there
  obtain ⟨hquote, -⟩ := getOptionMultiLegRfqQuote_eq_some.1 hok.quote_there
  have hstore := RfqBook.accept_of_open multiTexts (deal.fill now fillId) hrfq hok.rfq_open.1
    (hb.pending hrfq hok.rfq_open.1) hquote hok.quote_of hok.quote_active.1
  rw [← hb.rfq_key hrfq, ← hb.quote_key hquote] at hstore ⊢
  rw [PackageFeesFit, ← recordFill_succeeds_iff _ _ _ fun _ =>
    packageNotionals_eq_ok (0, 0) ⟨Nat.zero_le _, Nat.zero_le _⟩, Act.Succeeds]
  simp only [acceptOptionMultiLegRfqQuote, h, acceptMultiLegInStore, hstore,
    recordOptionMultiLegRfqFill]
  rcases recordFill svc.fees .optionMultiLegRfqFill (deal.fill now fillId)
    (multiLegPackageNotionals1e8 s.series (0, 0) (deal.fillLegs fillId)) s.after.ledger with
    ⟨_ | ⟨⟩, ledger⟩
  · exact ⟨_, _, rfl, by simp⟩
  · exact ⟨_, _, rfl, by simp⟩

end

end RfqService

end DeoptBackend
