import DeoptBackend.Types

/-!
# Errors and outcomes (`src/error.rs`)

The errors the modelled services return, with the text each one is shown as,
and the three ways a call can end.  A call of the source ends with a value, with
an error, or with a panic (an arithmetic overflow, an `unreachable!`); a loop
that is given too few steps to finish ends in the model as `diverged`, and every
loop is proved never to do so.
-/

namespace DeoptBackend

/-- The errors of the modelled services. -/
inductive BackendError where
  | zeroPrice
  | zeroSize
  | postOnlyWouldMatch
  | selfTrade
  | unsupportedTimeInForce (tif : String)
  | unsupportedCommand (command : String)
  | orderNotFound (id : OrderId)
  | orderNotOpen (id : OrderId)
  | invalidOrderId
  | unknownMarket (marketId : MarketId)
  | invalidFixedPoint (field reason : String)
  | deadlineExpired
  | invalidNonce
  | nonceAlreadyUsed
  | malformedSignature
  | malformedAccountAddress
  | unsupportedSignatureV
  | signatureRecoveryFailed
  | signatureSignerMismatch
  | perpNonceMismatch (expected got : Nat)
  | config (reason : String)
  | persistence (reason : String)
  | perpsMarketNotFound (market : String)
  | perpsPriceUnavailable (reason : String)
  | perpMarketPaused (reason : String)
  | perpZeroSize
  | perpZeroPrice
  | perpZeroMargin
  | perpPositionFlip
  | perpInsufficientMargin (reason : String)
  | perpLeverageExceeded (market reason : String)
  | perpPositionNotFound
  | perpMarkPriceUnavailable (reason : String)
  | perpOrderNotFound (id : String)
  | perpInvalidOrderState (reason : String)
  | perpPostOnlyWouldMatch
  | perpFokNotFillable
  | perpReduceOnlyViolation
  | perpInvalidTifCombination (reason : String)
  | perpDuplicateClientOrderId (clientOrderId : String)
  | perpSelfTrade
  | perpOrderSizeCap (reason : String)
  | perpOrderNotionalCap (reason : String)
  | perpSubaccountNotionalCap (reason : String)
  | perpOpenInterestCap (reason : String)
  | perpOracleDeviationExceeded (reason : String)
  | perpsUserBoundAboveLimit (reason : String)
  | perpsUserBoundBelowLimit (reason : String)
  | perpsInvalidBoundForSide (reason : String)
  | fokNotFillable
  | invalidTimeInForceCombination (reason : String)
  | invalidOptionSeriesId (id : String)
  | invalidOptionOrderId
  | invalidOptionOrderState (reason : String)
  | invalidOptionExecutionIntentState (reason : String)
  | optionsDisabled
  | invalidAttachedTpSl (reason : String)
  | invalidConditionalOrderId
  | invalidConditionalOrderState (reason : String)
  | conditionalOrderAlreadyTerminal
  | noReduciblePosition (series : String)
  | quantityExceedsPosition
  | invalidTriggerDirection
  | invalidTriggerPrice
  | invalidConditionalLimitPrice
  | ocoSiblingTerminal
  | optionTwapDisabled
  | invalidOptionTwapOrderId
  | invalidOptionTwapChildId
  | invalidOptionTwapState (reason : String)
  | optionRfqDisabled
  | optionMultiLegRfqNotLive
  | invalidOptionRfqId
  | invalidOptionRfqQuoteId
  | invalidOptionRfqState (reason : String)
  | invalidOptionRfqQuoteState (reason : String)
  | simulation (reason : String)
  deriving DecidableEq

/-- The condition holds, or the call ends with the error. -/
def insist (p : Prop) [Decidable p] (e : BackendError) : Except BackendError Unit :=
  if p then .ok () else .error e

theorem insist_eq_ok [Decidable p] : insist p e = .ok () ↔ p := by
  unfold insist
  split <;> simp_all

theorem exists_insist_eq_ok [Decidable p] {q : Unit → Prop} :
    (∃ u, insist p e = .ok u ∧ q u) ↔ p ∧ q () := by
  constructor
  · rintro ⟨⟨⟩, h, hq⟩
    exact ⟨insist_eq_ok.1 h, hq⟩
  · rintro ⟨h, hq⟩
    exact ⟨(), insist_eq_ok.2 h, hq⟩

/-- `ok_or`. -/
def orElseFail {α : Type} (e : BackendError) : Option α → Except BackendError α
  | none => .error e
  | some a => .ok a

theorem orElseFail_eq_ok : orElseFail e x = .ok a ↔ x = some a := by
  cases x <;> simp [orElseFail]

/-- How a call fails that does not loop: with an error it returns, or by a
panic. -/
inductive Fault where
  /-- The call returns an error. -/
  | err (e : BackendError)
  | panic (message : String)
  deriving DecidableEq

/-- The sum of a list of `u128`, which panics when it does not fit. -/
def sumU128 (l : List Nat) : Except Fault Nat :=
  if l.sum ≤ maxU128 then .ok l.sum else .error (.panic "attempt to add with overflow")

/-- A call that fails only by returning an error, where others may panic. -/
def returned {α : Type} (r : Except BackendError α) : Except Fault α := r.mapError .err

/-- How a call ends. -/
inductive Outcome (α : Type) where
  /-- The call returns a value. -/
  | ok (a : α)
  /-- The call returns an error. -/
  | err (e : BackendError)
  | panic (message : String)
  /-- The call was stopped before its loop had finished. -/
  | diverged
  deriving DecidableEq

/-! ## Texts -/

/-- A lower-case hexadecimal digit. -/
def hexDigit (n : Nat) : Char :=
  if n < 10 then Char.ofNat (48 + n) else Char.ofNat (87 + n)

/-- `width` hexadecimal digits of `n`, most significant first. -/
def hexDigits (n : Nat) : Nat → List Char
  | 0 => []
  | width + 1 => hexDigits (n / 16) width ++ [hexDigit (n % 16)]

/-- The hyphenated form an identifier is shown in: groups of 8, 4, 4, 4 and 12
digits. -/
def Uuid.show (u : Uuid) : String :=
  String.ofList (hexDigits (u / 16 ^ 24) 8 ++ '-' :: hexDigits (u / 16 ^ 20) 4 ++
    '-' :: hexDigits (u / 16 ^ 16) 4 ++ '-' :: hexDigits (u / 16 ^ 12) 4 ++
    '-' :: hexDigits u 12)

def BackendError.show : BackendError → String
  | .zeroPrice => "zero price is not allowed"
  | .zeroSize => "zero size is not allowed"
  | .postOnlyWouldMatch => "post-only order would immediately match"
  | .selfTrade => "self-trade is rejected"
  | .unsupportedTimeInForce tif => "time in force is unsupported: " ++ tif
  | .unsupportedCommand command => "command is unsupported: " ++ command
  | .orderNotFound id => "order not found: " ++ Uuid.show id.uuid
  | .orderNotOpen id => "order is not open: " ++ Uuid.show id.uuid
  | .invalidOrderId => "invalid order id"
  | .unknownMarket marketId => "unknown market: " ++ toString marketId
  | .invalidFixedPoint field reason => "invalid fixed-point value for " ++ field ++ ": " ++ reason
  | .deadlineExpired => "deadline has expired"
  | .invalidNonce => "nonce must be nonzero"
  | .nonceAlreadyUsed => "nonce has already been used for account"
  | .malformedSignature => "malformed signature"
  | .malformedAccountAddress => "malformed account address"
  | .unsupportedSignatureV => "unsupported signature v value"
  | .signatureRecoveryFailed => "signature recovery failed"
  | .signatureSignerMismatch => "signature signer does not match order account"
  | .perpNonceMismatch expected got =>
    "perp nonce mismatch: expected on-chain nonce " ++ toString expected ++ ", got " ++
      toString got
  | .config reason => "configuration error: " ++ reason
  | .persistence reason => "persistence error: " ++ reason
  | .perpsMarketNotFound market => "perps market not found: " ++ market
  | .perpsPriceUnavailable reason => "perps oracle price unavailable: " ++ reason
  | .perpMarketPaused reason =>
    "perp market is paused for new position operations: " ++ reason
  | .perpZeroSize => "perp position size must be > 0"
  | .perpZeroPrice => "perp fill price must be > 0"
  | .perpZeroMargin => "perp isolated margin must be > 0"
  | .perpPositionFlip =>
    "perp position flip is not supported in V1 — close first, then re-open"
  | .perpInsufficientMargin reason => "perp isolated margin is insufficient: " ++ reason
  | .perpLeverageExceeded market reason =>
    "perp leverage exceeds the configured cap for " ++ market ++ ": " ++ reason
  | .perpPositionNotFound => "perp position not found for account/market"
  | .perpMarkPriceUnavailable reason =>
    "perp mark price is unavailable for risk computation: " ++ reason
  | .perpOrderNotFound id => "perp order not found: " ++ id
  | .perpInvalidOrderState reason => "perp order state is invalid: " ++ reason
  | .perpPostOnlyWouldMatch => "perp post-only order would immediately match"
  | .perpFokNotFillable => "perp fill-or-kill order is not fully fillable"
  | .perpReduceOnlyViolation => "perp reduce-only order would increase exposure"
  | .perpInvalidTifCombination reason =>
    "perp time-in-force combination is invalid: " ++ reason
  | .perpDuplicateClientOrderId clientOrderId =>
    "perp client order id already used for account: " ++ clientOrderId
  | .perpSelfTrade => "perp self-trade rejected"
  | .perpOrderSizeCap reason => "perp order size exceeds market cap: " ++ reason
  | .perpOrderNotionalCap reason => "perp order notional exceeds market cap: " ++ reason
  | .perpSubaccountNotionalCap reason =>
    "perp subaccount notional exceeds market cap: " ++ reason
  | .perpOpenInterestCap reason => "perp market open interest would exceed cap: " ++ reason
  | .perpOracleDeviationExceeded reason =>
    "perp market oracle deviation exceeds threshold: " ++ reason
  | .perpsUserBoundAboveLimit reason =>
    "perp user max execution price bound violated: " ++ reason
  | .perpsUserBoundBelowLimit reason =>
    "perp user min execution price bound violated: " ++ reason
  | .perpsInvalidBoundForSide reason =>
    "perp user execution-price bound is invalid for this side: " ++ reason
  | .fokNotFillable => "fill-or-kill order is not fully fillable"
  | .invalidTimeInForceCombination reason => "invalid time-in-force combination: " ++ reason
  | .invalidOptionSeriesId id => "invalid option series id: " ++ id
  | .invalidOptionOrderId => "invalid option order id"
  | .invalidOptionOrderState reason => "invalid option order state: " ++ reason
  | .invalidOptionExecutionIntentState reason =>
    "invalid option execution intent state: " ++ reason
  | .optionsDisabled => "options are disabled"
  | .invalidAttachedTpSl reason => "invalid attached TP/SL: " ++ reason
  | .invalidConditionalOrderId => "invalid conditional order id"
  | .invalidConditionalOrderState reason => "invalid conditional order state: " ++ reason
  | .conditionalOrderAlreadyTerminal => "conditional order is already terminal"
  | .noReduciblePosition series => "no reducible option position for series " ++ series
  | .quantityExceedsPosition =>
    "conditional order quantity exceeds the reducible position size"
  | .invalidTriggerDirection =>
    "conditional trigger direction is inconsistent with the position"
  | .invalidTriggerPrice => "conditional order trigger price must be > 0"
  | .invalidConditionalLimitPrice => "conditional order limit price must be > 0"
  | .ocoSiblingTerminal => "oco sibling already triggered or terminal"
  | .optionTwapDisabled => "option TWAP is disabled"
  | .invalidOptionTwapOrderId => "invalid option TWAP id"
  | .invalidOptionTwapChildId => "invalid option TWAP child id"
  | .invalidOptionTwapState reason => "invalid option TWAP state: " ++ reason
  | .optionRfqDisabled => "option RFQ is disabled"
  | .optionMultiLegRfqNotLive => "multi-leg option RFQ is not live"
  | .invalidOptionRfqId => "invalid option RFQ id"
  | .invalidOptionRfqQuoteId => "invalid option RFQ quote id"
  | .invalidOptionRfqState reason => "invalid option RFQ state: " ++ reason
  | .invalidOptionRfqQuoteState reason => "invalid option RFQ quote state: " ++ reason
  | .simulation reason => "simulation failed: " ++ reason

end DeoptBackend
