import DeoptBackend.Types

/-!
# Events of the chain (`src/hybrid_v2/events.rs`)

A log of one of the deployment's contracts is decoded into an event: its kind, the
identifiers the projections are keyed by, and a payload of named values.

* `EventKind` — the kinds, with the names the source prints.
* `HybridV2Event`, `ApplyContext` — an event, and where on the chain it happened.
* `payloadString`, `payloadBool`, `payloadU8`, `payloadI128` — the readers of the payload;
  each gives nothing when the value is absent or of another type.
-/

namespace DeoptBackend.HybridV2

inductive EventKind where
  -- Registry
  | subaccountCreated
  | subaccountLazyRegistered
  -- Vault core / capability
  | deposit
  | withdraw
  | internalTransfer
  | collateralLocked
  | collateralUnlocked
  | engineCapabilityChanged
  | engineGuardianRevoked
  | guardianChanged
  | orphanedLockReleased
  | supportedTokenAdded
  | supportedTokenRemoved
  | collateralTokenEnteredUniverse
  | optionPremiumTransferred
  | optionFeeCharged
  | optionRebatePaid
  | recoveryFinalizationWithdrawn
  | pauseFlagChanged
  | badDebtSocialized
  | protocolSubaccountsInitialized
  | escapeControllerInitialized
  | recoveryFinalizerInitialized
  -- Options ledger
  | optionPositionOpened
  | optionPositionModified
  | optionPositionClosed
  | optionExercised
  | optionSettled
  | optionPositionLiquidated
  -- Options engine
  | optionOrderPairExecuted
  | optionOrderFilled
  | optionOrderCancelled
  | optionSubaccountMinValidOrderNonceAdvanced
  -- Escape controller
  | recoveryRequested
  | recoveryActivated
  | recoveryCancelled
  | recoveryEpochIncremented
  | recoveryPauseSet
  -- Recovery finalizer
  | recoveryFinalized
  -- Replay + epoch controller
  | intentConsumed
  | nonceCancelled
  | ownerRecoveryEpochAdvanced
  | subaccountRecoveryEpochAdvanced
  -- Risk module
  | riskParamsSet
  | riskModuleActivated
  | liquidationTriggered
  -- Manifest
  | deploymentManifestDeclared
  deriving DecidableEq

/-- A value of a payload, as far as the readers tell values apart. -/
inductive PayloadValue where
  | string (s : String)
  | bool (b : Bool)
  | number (n : Int)

/-- `HybridV2Event`. -/
structure HybridV2Event where
  kind : EventKind
  eventVersion : Nat
  subkey : Option String
  owner : Option String
  subaccountId : Option Nat
  token : Option String
  engine : Option String
  executionId : Option String
  orderHash : Option String
  seriesId : Option String
  payload : List (String × PayloadValue)

/-- `ApplyContext`: where the event happened. -/
structure ApplyContext where
  blockNumber : Nat
  txHash : String
  logIndex : Nat
  blockTimestamp : Nat

/-! ## Reading a payload (`src/hybrid_v2/reducer.rs`) -/

/-- The digits of a decimal number, or nothing. -/
def decimalValue : List Char → Option Nat
  | [] => none
  | cs => if cs.all Char.isDigit then some (cs.foldl (fun n c => n * 10 + (c.toNat - 48)) 0) else none

/-- A decimal number with an optional sign; a minus only where `signed` is set. -/
def parseSigned (signed : Bool) : List Char → Option Int
  | '+' :: cs => (decimalValue cs).map Int.ofNat
  | '-' :: cs => if signed then (decimalValue cs).map fun n => -(n : Int) else none
  | cs => (decimalValue cs).map Int.ofNat

/-- `parse::<u32>` and `parse::<u64>`, for the greatest number `max`. -/
def parseUnsigned (max : Nat) (s : String) : Option Nat :=
  match parseSigned false s.toList with
  | some n => if n.toNat ≤ max then some n.toNat else none
  | none => none

/-- `parse::<i128>`. -/
def parseI128 (s : String) : Option Int :=
  match parseSigned true s.toList with
  | some n => if -(2 ^ 127 : Int) ≤ n ∧ n < 2 ^ 127 then some n else none
  | none => none

variable (event : HybridV2Event) (key : String)

def HybridV2Event.field : Option PayloadValue :=
  event.payload.lookup key

/-- `payload_string`. -/
def payloadString : Option String :=
  match event.field key with
  | some (.string s) => some s
  | _ => none

/-- `payload_bool`. -/
def payloadBool : Option Bool :=
  match event.field key with
  | some (.bool b) => some b
  | _ => none

/-- `payload_u8`: the number, cut to eight bits. -/
def payloadU8 : Option Nat :=
  match event.field key with
  | some (.number n) => if 0 ≤ n then some (n.toNat % 256) else none
  | _ => none

/-- `payload_i128`: a number that fits 64 bits, or a string that is a number. -/
def payloadI128 : Option Int :=
  match event.field key with
  | some (.number n) => if -(2 ^ 63 : Int) ≤ n ∧ n < 2 ^ 63 then some n else none
  | some (.string s) => parseI128 s
  | _ => none

end DeoptBackend.HybridV2
