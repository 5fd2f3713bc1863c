import DeoptBackend.HybridV2.Finalized
import DeoptBackend.HybridV2.Store

/-!
# The checks before an execution (`src/hybrid_v2/execution/preflight.rs`)

`validate` is asked before a matched pair is simulated.  Its last check keeps executions away
from subaccounts under recovery.  It does not read the recovery state, but infers it from the
epochs and the withdrawals, which other events write.

* `validate` — the checks, in their order.
* `history` — what the epochs and the withdrawals say: which events there were.
* `recovery_gate_iff` — **the check follows the recovery state exactly if these events came and
  stayed away along with it**.
-/

namespace DeoptBackend.HybridV2

open Act

/-! ## The checks -/

/-- `PreflightRejection`; what the readiness report refuses is left abstract. -/
inductive PreflightRejection (R : Type) where
  | baseMainnetForbidden
  | executionAlreadyTerminal (phase : ExecutionPhase)
  | notReady (reason : R)
  | executionAlreadySettledOnChain (onChainExecutionId : String)
  | orderCancelled (orderHash : String)
  | orderExpired (orderHash : String)
  | quantityExceedsRemaining (orderHash : String) (requested remaining : Nat)
  | ownerRecoveryActive (subkey : String)
  | subaccountFinalized (subkey : String)
  deriving DecidableEq

/-- What the checks read of an `ExecutionRequestRow`. -/
structure PreflightRequest where
  chainId : Int
  phase : ExecutionPhase
  buyerOrderHash : String
  sellerOrderHash : String
  buyerSubkey : String
  sellerSubkey : String
  fillQuantity1e8 : String

/-- The first row that passes a test, in the order of the execution ids. -/
def ProjectionState.firstMatched (state : ProjectionState) (test : MatchedExecutionRow → Bool) :
    Option (String × MatchedExecutionRow) :=
  (state.matchedExecutions.keys.insertionSort (· ≤ ·)).findSome? fun id =>
    ((state.matchedExecutions.get? id).filter test).map (id, ·)

/-- `find_matched_execution`. -/
def findMatchedExecution (state : ProjectionState) (buyerHash sellerHash : String) :
    Option MatchedExecutionRow :=
  (state.firstMatched fun r => eqIgnoreAsciiCase r.buyerOrderHash buyerHash &&
    eqIgnoreAsciiCase r.sellerOrderHash sellerHash).map Prod.snd

/-- `remaining_quantity`. -/
def remainingQuantity (total filled : String) : Option Nat := do
  let total ← parseUnsigned maxU128 total
  let filled ← parseUnsigned maxU128 filled
  if filled ≤ total then some (total - filled) else none

/-- `is_recovery_active`: the row is not the default one. -/
def isRecoveryActive (row : EpochRow) : Bool := row ≠ {}

/-- `is_subaccount_finalized`. -/
def isSubaccountFinalized (state : ProjectionState) (subkey : String) : Bool :=
  (state.recoveryFinalizationWithdrawals.get? subkey).getD 0 > 0

variable {R : Type}

variable (state : ProjectionState)

/-- What is checked of one order; the answer is the warning that its row is missing. -/
def orderGate (req : PreflightRequest) (orderHash : String) :
    Except (PreflightRejection R) (List String) :=
  match state.orderLifecycle.get? orderHash with
  | none => .ok ["order lifecycle row missing for " ++ orderHash ++ "; deferring to simulation"]
  | some row =>
    if row.cancelled then .error (.orderCancelled orderHash)
    else if row.terminal then .error (.orderExpired orderHash)
    else
      match remainingQuantity row.totalQty1e8 row.filledQty1e8,
        parseUnsigned maxU128 req.fillQuantity1e8 with
      | some remaining, some requested =>
        if requested > remaining then
          .error (.quantityExceedsRemaining orderHash requested remaining)
        else .ok []
      | _, _ => .ok []

/-- What is checked of one subaccount. -/
def recoveryGate (subkey : String) : Except (PreflightRejection R) Unit :=
  if (state.subaccountRecoveryEpochs.get? subkey).any isRecoveryActive then
    .error (.ownerRecoveryActive subkey)
  else if isSubaccountFinalized state subkey then .error (.subaccountFinalized subkey)
  else .ok ()

variable (readiness : Except R Unit) (chainId : Nat) (state : ProjectionState)
  (req : PreflightRequest)

/-- The checks before the one on recoveries; their answer are the warnings. -/
def earlierChecks : Except (PreflightRejection R) (List String) := do
  if chainId = baseMainnetChainId ∨ req.chainId = baseMainnetChainId then
    throw .baseMainnetForbidden
  if req.phase.isTerminal then throw (.executionAlreadyTerminal req.phase)
  readiness.mapError .notReady
  if let some row := findMatchedExecution state req.buyerOrderHash req.sellerOrderHash then
    if row.completionStatus = .complete then
      throw (.executionAlreadySettledOnChain row.txHash)
  return (← orderGate state req req.buyerOrderHash) ++ (← orderGate state req req.sellerOrderHash)

variable (check : String → Except (PreflightRejection R) Unit)

/-- A check on the subaccounts of both sides, the buyer's first. -/
def bothSides (req : PreflightRequest) (warnings : List String) :
    Except (PreflightRejection R) (List String) := do
  check req.buyerSubkey
  check req.sellerSubkey
  return warnings

/-- `PreflightChecker::validate`. -/
def validate : Except (PreflightRejection R) (List String) := do
  let warnings ← earlierChecks readiness chainId state req
  bothSides (recoveryGate state) req warnings

/-! ## What the gate is for -/

/-- What the recovery state of a subaccount asks for. -/
def recoveryVerdict (subkey : String) : Except (PreflightRejection R) Unit :=
  match state.recoveryState.get? subkey with
  | some .recoveryActive => .error (.ownerRecoveryActive subkey)
  | some .recovered => .error (.subaccountFinalized subkey)
  | _ => .ok ()

/-- Every refusal of the check names the subaccount it was asked about. -/
def NamesSubkey : Prop :=
  ∀ subkey e, check subkey = .error e →
    e = .ownerRecoveryActive subkey ∨ e = .subaccountFinalized subkey

theorem recoveryGate_namesSubkey : NamesSubkey (R := R) (recoveryGate state) := by
  intro subkey e h
  unfold recoveryGate at h
  split_ifs at h <;> cases h <;> simp

theorem recoveryVerdict_namesSubkey : NamesSubkey (R := R) (recoveryVerdict state) := by
  intro subkey e h
  unfold recoveryVerdict at h
  split at h <;> cases h <;> simp

/-- Two checks come to the same for both sides exactly if they agree about the buyer's side
and, where that one passes, about the seller's. -/
theorem bothSides_eq_iff {f g : String → Except (PreflightRejection R) Unit}
    (hf : NamesSubkey f) (hg : NamesSubkey g) (req : PreflightRequest) (warnings : List String) :
    bothSides f req warnings = bothSides g req warnings ↔ f req.buyerSubkey = g req.buyerSubkey ∧
        (g req.buyerSubkey = .ok () → f req.sellerSubkey = g req.sellerSubkey) := by
  -- a refusal of one side is never the refusal of another subaccount
  have apart : ∀ {f g : String → Except (PreflightRejection R) Unit} {e},
      NamesSubkey f → NamesSubkey g → f req.buyerSubkey = .error e →
      g req.buyerSubkey = .ok () → g req.sellerSubkey ≠ .error e := by
    intro f g e hf hg hbuyer hok hseller
    have hsame : req.buyerSubkey = req.sellerSubkey := by
      rcases hf _ _ hbuyer with rfl | rfl <;> simpa using hg _ _ hseller
    rw [hsame, hseller] at hok
    cases hok
  unfold bothSides
  cases hfb : f req.buyerSubkey <;> cases hgb : g req.buyerSubkey
  case error.error => simp [bind, Except.bind]
  case error.ok =>
    have hne := apart hf hg hfb hgb
    cases hgs : g req.sellerSubkey <;> simp_all [bind, Except.bind, pure, Except.pure, eq_comm]
  case ok.error =>
    have hne := apart hg hf hgb hfb
    cases hfs : f req.sellerSubkey <;> simp_all [bind, Except.bind, pure, Except.pure]
  case ok.ok =>
    cases hfs : f req.sellerSubkey <;> cases hgs : g req.sellerSubkey <;>
      simp [bind, Except.bind, pure, Except.pure]

/-! ## What the epochs and the withdrawals say -/

variable (events : List (HybridV2Event × ApplyContext)) (subkey : String)

def EpochAdvanced : Prop :=
  ∃ e ∈ events, e.1.subkey = some subkey ∧
    (e.1.kind = .recoveryEpochIncremented ∨ e.1.kind = .subaccountRecoveryEpochAdvanced)

/-- The history withdraws from a subaccount in its finalization. -/
def Withdrawn : Prop :=
  ∃ e ∈ events, e.1.subkey = some subkey ∧ e.1.kind = .recoveryFinalizationWithdrawn

theorem isRecoveryActive_advanced (row : EpochRow) (ctx : ApplyContext) :
    isRecoveryActive (row.advanced ctx) = true := by
  have hpos : min (row.epochCount + 1) maxU64 ≠ 0 := by
    rw [maxU64]
    omega
  simp [isRecoveryActive, EpochRow.advanced, hpos]

section

variable {events : List (HybridV2Event × ApplyContext)}

/-- What one accepted event does to the two maps. -/
theorem accepts_epochs (hstep : Accepts s e t) (subkey : String) :
    ((t.subaccountRecoveryEpochs.get? subkey).any isRecoveryActive ↔
        (s.subaccountRecoveryEpochs.get? subkey).any isRecoveryActive ∨ EpochAdvanced [e] subkey) ∧
      (isSubaccountFinalized t subkey ↔ isSubaccountFinalized s subkey ∨ Withdrawn [e] subkey) := by
  obtain ⟨event, ctx⟩ := e
  have hspared := (keeps_spared event ctx).of_run hstep
  unfold Accepts apply at hstep
  cases hkind : event.kind
  case recoveryEpochIncremented | subaccountRecoveryEpochAdvanced =>
    simp only [hkind, advanceSubaccountEpoch, bind_eq_ok, require_eq_ok] at hstep
    obtain ⟨other, _, ⟨hother, rfl⟩, hwrite⟩ := hstep
    cases hwrite
    by_cases hkey : subkey = other
    · subst hkey
      simp [EpochAdvanced, Withdrawn, isSubaccountFinalized, hkind, hother,
        isRecoveryActive_advanced]
    · simp [EpochAdvanced, Withdrawn, isSubaccountFinalized, hother, Ne.symm hkey,
        FMap.get?_set_ne _ hkey]
  case recoveryFinalizationWithdrawn =>
    simp only [hkind, bind_eq_ok, require_eq_ok] at hstep
    obtain ⟨other, _, ⟨hother, rfl⟩, hwrite⟩ := hstep
    cases hwrite
    by_cases hkey : subkey = other
    · subst hkey
      simp [EpochAdvanced, Withdrawn, isSubaccountFinalized, hkind, hother, maxU32]
    · simp [EpochAdvanced, Withdrawn, isSubaccountFinalized, hother, Ne.symm hkey,
        FMap.get?_set_ne _ hkey]
  all_goals
    simp only [ProjectionState.spared, hkind, EventKind.movesEpochs, Bool.false_eq_true, if_false,
      Prod.mk.injEq, Option.some.injEq] at hspared
    obtain ⟨-, ⟨hepochs, hwithdrawals⟩, -⟩ := hspared
    simp [EpochAdvanced, Withdrawn, isSubaccountFinalized, hkind, hepochs, hwithdrawals]

/-- Along a history of accepted events the two maps say which events there were. -/
theorem history (hrun : Run Accepts {} events s) (subkey : String) :
    ((s.subaccountRecoveryEpochs.get? subkey).any isRecoveryActive ↔ EpochAdvanced events subkey) ∧
      (isSubaccountFinalized s subkey ↔ Withdrawn events subkey) := by
  refine hrun.traced (P := fun events s => ((s.subaccountRecoveryEpochs.get? subkey).any
    isRecoveryActive ↔ EpochAdvanced events subkey) ∧
      (isSubaccountFinalized s subkey ↔ Withdrawn events subkey)) ?_ ?_
  · simp [EpochAdvanced, Withdrawn, isSubaccountFinalized]
  intro before mid e after ih hstep
  obtain ⟨hepochs, hwithdrawals⟩ := accepts_epochs hstep subkey
  rw [hepochs, hwithdrawals, ih.1, ih.2]
  simp [EpochAdvanced, Withdrawn]

/-- The events of a history went along with the recovery of a subaccount: an epoch was advanced
exactly if the recovery is active, and something was withdrawn exactly if it has ended. -/
def InLockstep (events : List (HybridV2Event × ApplyContext)) (s : ProjectionState)
    (subkey : String) : Prop :=
  match s.recoveryState.get? subkey with
  | some .recoveryActive => EpochAdvanced events subkey
  | some .recovered => ¬EpochAdvanced events subkey ∧ Withdrawn events subkey
  | _ => ¬EpochAdvanced events subkey ∧ ¬Withdrawn events subkey

theorem recoveryGate_eq_iff (hrun : Run Accepts {} events s) (subkey : String) :
    recoveryGate (R := R) s subkey = recoveryVerdict s subkey ↔ InLockstep events s subkey := by
  obtain ⟨hepochs, hwithdrawals⟩ := history hrun subkey
  unfold recoveryGate recoveryVerdict InLockstep
  split_ifs <;> split <;> simp_all

/-- **When the gate follows the recovery.**  For every history of events the reducer accepted,
every set of matched executions and every request the earlier checks let through: the answer
is the one the recovery states of the two subaccounts ask for if and only if the epochs and the
withdrawals of the buyer's subaccount went along with its recovery and, where the buyer's
passes, those of the seller's too. -/
theorem recovery_gate_iff {readiness : Except R Unit} {chainId : Nat} {req : PreflightRequest}
    {warnings : List String} {rows : FMap String MatchedExecutionRow}
    (hrun : Run Accepts {} events s)
    (hearlier : earlierChecks readiness chainId { s with matchedExecutions := rows } req =
      .ok warnings) :
    validate readiness chainId { s with matchedExecutions := rows } req =
        bothSides (recoveryVerdict s) req warnings ↔
      InLockstep events s req.buyerSubkey ∧ (recoveryVerdict (R := R) s req.buyerSubkey = .ok () →
          InLockstep events s req.sellerSubkey) := by
  rw [← recoveryGate_eq_iff (R := R) hrun, ← recoveryGate_eq_iff (R := R) hrun,
    ← bothSides_eq_iff (recoveryGate_namesSubkey s) (recoveryVerdict_namesSubkey s) req warnings]
  unfold validate
  rw [hearlier]
  rfl

end

namespace Sample

/-- A request of `a` and `b` in the phase the check is made in. -/
def matchOfA : PreflightRequest :=
  { chainId := 84532, phase := .validating, buyerOrderHash := "x", sellerOrderHash := "y",
    buyerSubkey := "a", sellerSubkey := "b", fillQuantity1e8 := "1" }

/-- The state after events of some kinds about `a`. -/
def afterKinds (kinds : List EventKind) : ProjectionState :=
  kinds.foldl (fun s kind => (apply (about kind) here s).2) {}

/-- What the check says of the request then. -/
def checked (kinds : List EventKind) : Except (PreflightRejection Unit) Bool :=
  (validate (.ok ()) 84532 (afterKinds kinds) matchOfA).map fun _ => true

end Sample

open Sample in
theorem gate_of_advanced_recovery : validate (R := Unit) (.ok ()) 84532
        { afterKinds [.recoveryActivated, .recoveryEpochIncremented] with matchedExecutions := ∅ }
        matchOfA = .error (.ownerRecoveryActive "a") := by
  have hrun : Run Accepts {}
      [(about .recoveryActivated, here), (about .recoveryEpochIncremented, here)]
      (afterKinds [.recoveryActivated, .recoveryEpochIncremented]) :=
    (Run.start.snoc rfl).snoc rfl
  refine (recovery_gate_iff hrun rfl).mpr ⟨?_, nofun⟩
  exact ⟨_, .tail _ (.head _), rfl, .inl rfl⟩

open Sample in
/-- An activated recovery is overlooked, a cancelled one blocks for ever, and a finalized
subaccount is let through or called active. -/
theorem recovery_gate_misled : checked [.recoveryActivated] = .ok true ∧
      checked [.recoveryActivated, .recoveryEpochIncremented, .recoveryCancelled] =
        .error (.ownerRecoveryActive "a") ∧
      (afterKinds [.recoveryActivated, .recoveryEpochIncremented,
        .recoveryCancelled]).recoveryState.get? "a" = some .cancelled ∧
      checked [.recoveryActivated, .recoveryFinalized] = .ok true := by
  decide +kernel

end DeoptBackend.HybridV2
