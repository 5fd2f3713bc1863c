import DeoptBackend.HybridV2.Indexing

/-!
# The projection store (`src/hybrid_v2/persistence.rs`, `reorg_recovery.rs`,
`rebuild_operations.rs`)

What the services of one deployment keep between restarts, as the in-memory store keeps it: the
raw logs, the last projection, the cursors, the readiness, the row of the reorg recovery, the
rows of the rebuilds and the operation lock.

* `ProjectionStore` — the rows of one deployment, with the calls that read and write them.
* `tryAcquireOperationLock`, `releaseOperationLock` — the lock the services contend for.
* `Holds` — the raw logs are kept under their keys and the canonical ones are exactly those of a
  list; `Holds.insert` says what writing rows does to that list.
* `Holds.readCanonicalJournal` — the journal that is read back is that list.
-/

namespace DeoptBackend.HybridV2

open List JournaledLog FMap

/-! ## Rows -/

/-- `ReorgRecoveryPhase`. -/
inductive ReorgRecoveryPhase where
  | none
  | detected
  | searchingAncestor
  | ancestorFound
  | fetchingReplacement
  | invalidatingOrphanBranch
  | replayingReplacement
  | committingReplacement
  | recovered
  | failed
  | manualInterventionRequired
  deriving DecidableEq

namespace ReorgRecoveryPhase

/-- `is_terminal_ok`. -/
def isTerminalOk : ReorgRecoveryPhase → Bool
  | .recovered | .none => true
  | _ => false

/-- `is_terminal_failed`. -/
def isTerminalFailed : ReorgRecoveryPhase → Bool
  | .manualInterventionRequired => true
  | _ => false

/-- `is_active`. -/
def isActive (phase : ReorgRecoveryPhase) : Bool :=
  !phase.isTerminalOk && !phase.isTerminalFailed && decide (phase ≠ .failed)

/-- `as_str`. -/
def asStr : ReorgRecoveryPhase → String
  | .none => "NONE"
  | .detected => "DETECTED"
  | .searchingAncestor => "SEARCHING_ANCESTOR"
  | .ancestorFound => "ANCESTOR_FOUND"
  | .fetchingReplacement => "FETCHING_REPLACEMENT"
  | .invalidatingOrphanBranch => "INVALIDATING_ORPHAN_BRANCH"
  | .replayingReplacement => "REPLAYING_REPLACEMENT"
  | .committingReplacement => "COMMITTING_REPLACEMENT"
  | .recovered => "RECOVERED"
  | .failed => "FAILED"
  | .manualInterventionRequired => "MANUAL_INTERVENTION_REQUIRED"

end ReorgRecoveryPhase

/-- `ReorgRecoveryState`, without the deployment. -/
structure ReorgRecoveryState where
  recoveryEpoch : Int
  phase : ReorgRecoveryPhase
  detectedAtMs : Int
  oldTipBlock : Nat
  oldTipHash : String
  conflictingBlock : Option Nat
  conflictingHash : Option String
  commonAncestorBlock : Option Nat
  commonAncestorHash : Option String
  replacementTipBlock : Option Nat
  replacementTipHash : Option String
  orphanDepth : Option Nat
  replacementBlockCount : Option Nat
  finalizedAtDetection : Option Nat
  retryCount : Nat
  lastFailureDetail : Option String
  updatedAtMs : Int
  completedAtMs : Option Int

namespace ReorgRecoveryState

/-- `new_detected`. -/
def newDetected (recoveryEpoch : Int) (oldTipBlock : Nat) (oldTipHash : String)
    (conflictingBlock : Option Nat) (conflictingHash : Option String) (nowMs : Int) :
    ReorgRecoveryState where
  recoveryEpoch := recoveryEpoch
  phase := .detected
  detectedAtMs := nowMs
  oldTipBlock := oldTipBlock
  oldTipHash := oldTipHash
  conflictingBlock := conflictingBlock
  conflictingHash := conflictingHash
  commonAncestorBlock := none
  commonAncestorHash := none
  replacementTipBlock := none
  replacementTipHash := none
  orphanDepth := none
  replacementBlockCount := none
  finalizedAtDetection := none
  retryCount := 0
  lastFailureDetail := none
  updatedAtMs := nowMs
  completedAtMs := none

/-- `readiness_reason`. -/
def readinessReason (row : ReorgRecoveryState) : ReadinessReason :=
  match row.phase with
  | .detected => .reorgDetected row.oldTipBlock row.recoveryEpoch
  | .searchingAncestor => .reorgSearching row.recoveryEpoch
  | .ancestorFound | .fetchingReplacement | .invalidatingOrphanBranch | .replayingReplacement
  | .committingReplacement | .failed =>
    .reorgReplaying row.recoveryEpoch (row.commonAncestorBlock.getD row.oldTipBlock)
  | .manualInterventionRequired =>
    .reorgManualInterventionRequired row.recoveryEpoch
      (row.lastFailureDetail.getD "unspecified")
  | .recovered | .none => .awaitingFirstBlock

end ReorgRecoveryState

/-- The epoch of the next recovery: that of the row while it is active, and the one after it
when it is not. -/
def nextRecoveryEpoch : Option ReorgRecoveryState → Int
  | some row => if row.phase.isActive then row.recoveryEpoch else row.recoveryEpoch + 1
  | none => 1

/-- `RebuildMode`. -/
inductive RebuildMode where
  | journalReplay
  | freshChain

/-- `RebuildPhase`. -/
inductive RebuildPhase where
  | none
  | requested
  | lockAcquired
  | validatingSource
  | preparing
  | replaying
  | correlating
  | verifying
  | reconciling
  | committing
  | complete
  | failed
  | manualInterventionRequired

namespace RebuildPhase

/-- `is_terminal`. -/
def isTerminal : RebuildPhase → Bool
  | .complete | .failed | .manualInterventionRequired => true
  | _ => false

/-- `as_str`. -/
def asStr : RebuildPhase → String
  | .none => "NONE"
  | .requested => "REQUESTED"
  | .lockAcquired => "LOCK_ACQUIRED"
  | .validatingSource => "VALIDATING_SOURCE"
  | .preparing => "PREPARING"
  | .replaying => "REPLAYING"
  | .correlating => "CORRELATING"
  | .verifying => "VERIFYING"
  | .reconciling => "RECONCILING"
  | .committing => "COMMITTING"
  | .complete => "COMPLETE"
  | .failed => "FAILED"
  | .manualInterventionRequired => "MANUAL_INTERVENTION_REQUIRED"

end RebuildPhase

/-- `RebuildOperationState`, without the deployment. -/
structure RebuildOperationState where
  rebuildEpoch : Int
  mode : RebuildMode
  phase : RebuildPhase
  requestedAtMs : Int
  sourceStartBlock : Option Nat
  sourceEndBlock : Option Nat
  eventsReplayed : Option Nat
  executionsCorrelated : Option Nat
  verificationResult : Option String
  reconciliationResult : Option String
  generationId : Option Int
  retryCount : Nat
  lastFailureDetail : Option String
  updatedAtMs : Int
  completedAtMs : Option Int

/-- `RebuildOperationState::new_requested`. -/
def RebuildOperationState.newRequested (rebuildEpoch : Int) (mode : RebuildMode) (nowMs : Int) :
    RebuildOperationState where
  rebuildEpoch := rebuildEpoch
  mode := mode
  phase := .requested
  requestedAtMs := nowMs
  sourceStartBlock := none
  sourceEndBlock := none
  eventsReplayed := none
  executionsCorrelated := none
  verificationResult := none
  reconciliationResult := none
  generationId := none
  retryCount := 0
  lastFailureDetail := none
  updatedAtMs := nowMs
  completedAtMs := none

/-- `ExecutionPhase`. -/
inductive ExecutionPhase where
  | discovered
  | validating
  | readyToSimulate
  | simulating
  | simulationSucceeded
  | simulationFailed
  | awaitingSignature
  | signing
  | signatureVerified
  | readyForBroadcast
  | broadcastDisabled
  | cancelled
  | stale
  | failed
  deriving DecidableEq

/-- `ExecutionPhase::is_terminal`. -/
def ExecutionPhase.isTerminal : ExecutionPhase → Bool
  | .broadcastDisabled | .cancelled | .stale | .failed => true
  | _ => false

/-- What the operation lock reads of an `ExecutionRequestRow`. -/
structure ExecutionRequestRow where
  holderEpoch : Option Int
  phase : ExecutionPhase

/-- `OperationKind`. -/
inductive OperationKind where
  | reorg
  | rebuild
  | reconciliation
  | execution
  deriving DecidableEq

structure OperationLock where
  operation : OperationKind
  holderEpoch : Int
  acquiredAtMs : Int
  deriving DecidableEq

/-- `OperationLockGuard`.  The store handle that the release goes through may be missing. -/
structure OperationLockGuard where
  operation : OperationKind
  holderEpoch : Int
  attached : Bool
  deriving DecidableEq

/-- `RuntimeCursorSnapshot`. -/
structure RuntimeCursorSnapshot where
  cursorName : String
  indexedHeadBlock : Nat
  indexedHeadHash : String
  indexedHeadParent : String
  observedHeadBlock : Nat
  finalizedHeadBlock : Nat
  lastError : Option String
  reorgCount : Nat
  maxReorgDepthSeen : Nat
  decodeFailures : Nat
  projectionFailures : Nat
  unknownCanonicalEvents : Nat
  lastSuccessBlock : Nat

/-- `RuntimeCursorSnapshot::from_runtime`. -/
def RuntimeCursorSnapshot.fromRuntime (name : String) (cursor : RuntimeCursor)
    (metrics : RuntimeMetrics) : RuntimeCursorSnapshot where
  cursorName := name
  indexedHeadBlock := cursor.indexedHeadBlock
  indexedHeadHash := cursor.indexedHeadHash
  indexedHeadParent := cursor.indexedHeadParent
  observedHeadBlock := cursor.observedHeadBlock
  finalizedHeadBlock := cursor.finalizedHeadBlock
  lastError := cursor.lastError
  reorgCount := metrics.reorgCount
  maxReorgDepthSeen := metrics.maxReorgDepthSeen
  decodeFailures := metrics.decodeFailures
  projectionFailures := metrics.projectionFailures
  unknownCanonicalEvents := metrics.unknownCanonicalEvents
  lastSuccessBlock := metrics.lastSuccessfulBlock

def RuntimeCursorSnapshot.cursor (snap : RuntimeCursorSnapshot) : RuntimeCursor where
  indexedHeadBlock := snap.indexedHeadBlock
  indexedHeadHash := snap.indexedHeadHash
  indexedHeadParent := snap.indexedHeadParent
  observedHeadBlock := snap.observedHeadBlock
  finalizedHeadBlock := snap.finalizedHeadBlock
  lastError := snap.lastError

theorem RuntimeCursorSnapshot.fromRuntime_cursor (name : String) (cursor : RuntimeCursor)
    (metrics : RuntimeMetrics) : (fromRuntime name cursor metrics).cursor = cursor := rfl

/-! ## The store -/

def JournaledLog.key (log : JournaledLog) : String × String × Nat :=
  (log.blockHash, log.txHash, log.logIndex)

/-- The rows of one deployment in `InMemoryProjectionStore`. -/
structure ProjectionStore where
  rawLogs : FMap (String × String × Nat) JournaledLog := ∅
  stateSnapshot : Option ProjectionState := none
  cursors : FMap String RuntimeCursorSnapshot := ∅
  readiness : Option ReadinessState := none
  reorgRecovery : Option ReorgRecoveryState := none
  rebuildOperations : FMap Int RebuildOperationState := ∅
  executionRequests : FMap String ExecutionRequestRow := ∅
  operationLock : Option OperationLock := none

/-- Orphaned rows stay, marked. -/
def orphanAbove (ancestor : Nat) (log : JournaledLog) : JournaledLog :=
  if log.isCanonical && decide (log.blockNumber > ancestor) then
    { log with isCanonical := false, orphanedAtBlock := some ancestor }
  else log

def insertRawLogs (rows : List JournaledLog) (rawLogs : FMap (String × String × Nat) JournaledLog) :
    FMap (String × String × Nat) JournaledLog :=
  setAll key id rows rawLogs

namespace ProjectionStore

variable (store : ProjectionStore)

/-- `persist_block_atomic`. -/
def persistBlockAtomic (rawLogs : List JournaledLog)
    (decodedEvents : List (HybridV2Event × ApplyContext)) (state : ProjectionState)
    (cursor : RuntimeCursorSnapshot) (readiness : ReadinessState) : Except String ProjectionStore :=
  if rawLogs.length ≠ decodedEvents.length then
    .error
      "persistence error: in-memory: raw log count must equal decoded event count for block"
  else
    .ok
      { store with
        rawLogs := insertRawLogs rawLogs store.rawLogs
        stateSnapshot := some state
        cursors := store.cursors.set cursor.cursorName cursor
        readiness := some readiness }

/-- `read_canonical_journal`: sorted by block and place. -/
def readCanonicalJournal : List JournaledLog :=
  canonicalLogs store.rawLogs.vals

/-- `read_latest_rebuild_operation`. -/
def readLatestRebuildOperation : Option RebuildOperationState :=
  store.rebuildOperations.maxKey?.bind store.rebuildOperations.get?

/-- `commit_reorg_recovery`.  The executions of the old snapshot that the source marks as
invalidated go with the snapshot, which is replaced in the same call. -/
def commitReorgRecovery (recoveryEpoch : Int) (ancestorBlock : Nat)
    (replacementRawLogs : List JournaledLog) (projectionState : ProjectionState)
    (cursor : RuntimeCursorSnapshot) (readiness : ReadinessState) : ProjectionStore :=
  { store with
    rawLogs := insertRawLogs replacementRawLogs (store.rawLogs.mapVals (orphanAbove ancestorBlock))
    stateSnapshot := some projectionState
    cursors := store.cursors.set cursor.cursorName cursor
    readiness := some readiness
    reorgRecovery := store.reorgRecovery.map fun row =>
      if row.recoveryEpoch = recoveryEpoch then
        { row with phase := .recovered, completedAtMs := some row.updatedAtMs }
      else row }

/-- The stale-lock rule: the rows show that the holder of the lock is done. -/
def holderIsDone (lock : OperationLock) : Bool :=
  match lock.operation with
  | .reorg =>
    store.reorgRecovery.any fun row =>
      decide (row.phase = .recovered ∨ row.phase = .manualInterventionRequired)
  | .rebuild => store.rebuildOperations.vals.any fun row => row.phase.isTerminal
  | .reconciliation => false
  | .execution =>
    store.executionRequests.vals.any fun row =>
      decide (row.holderEpoch = some lock.holderEpoch) && row.phase.isTerminal

/-- `try_acquire_operation_lock`.  The guard comes without a store handle. -/
def tryAcquireOperationLock (operation : OperationKind) (holderEpoch nowMs : Int) :
    Option OperationLockGuard × ProjectionStore :=
  let held := store.operationLock.filter fun lock => !store.holderIsDone lock
  match held with
  | some _ => (none, store)
  | none =>
    (some { operation := operation, holderEpoch := holderEpoch, attached := false }, { store with
        operationLock := some
          { operation := operation, holderEpoch := holderEpoch, acquiredAtMs := nowMs } })

/-- `release_operation_lock`: the epoch alone decides. -/
def releaseOperationLock (holderEpoch : Int) : ProjectionStore :=
  { store with
    operationLock := store.operationLock.filter fun lock => decide (lock.holderEpoch ≠ holderEpoch) }

end ProjectionStore

/-- `OperationLockGuard::release`: without a store handle, nothing. -/
def OperationLockGuard.release (guard : OperationLockGuard) (store : ProjectionStore) :
    ProjectionStore :=
  if guard.attached then store.releaseOperationLock guard.holderEpoch else store

/-! ## The canonical rows -/

/-- The rows stand under their keys, and the canonical ones are those of a list. -/
structure Holds (rawLogs : FMap (String × String × Nat) JournaledLog)
    (logs : List JournaledLog) : Prop where
  keyed : ∀ {k log}, rawLogs.get? k = some log → k = log.key
  canonical : ∀ log, rawLogs.get? log.key = some log ∧ log.isCanonical = true ↔ log ∈ logs

/-- No two rows of a journal stand at the same place. -/
theorem InChainOrder.eq_of_place (h : InChainOrder logs) (ha : a ∈ logs) (hb : b ∈ logs)
    (hplace : a.blockNumber = b.blockNumber ∧ a.logIndex = b.logIndex) : a = b := by
  have hsymm : Std.Symm fun a b : JournaledLog =>
      ¬(a.blockNumber = b.blockNumber ∧ a.logIndex = b.logIndex) :=
    ⟨fun a b hab hba => hab ⟨hba.1.symm, hba.2.symm⟩⟩
  have hapart : logs.Pairwise fun a b =>
      ¬(a.blockNumber = b.blockNumber ∧ a.logIndex = b.logIndex) := by
    refine Pairwise.imp ?_ h
    omega
  by_contra hne
  exact hapart.forall ha hb hne hplace

namespace Holds

theorem empty : Holds ∅ [] where
  keyed := by
    intro k log h
    cases h
  canonical := by
    simp

/-- **The journal that is read back.**  However the rows are held, sorting the canonical ones
gives the list they are the rows of, because no two of them stand at the same place. -/
theorem readCanonicalJournal (h : Holds rawLogs logs) (horder : InChainOrder logs) :
    canonicalLogs rawLogs.vals = logs := by
  have hnodup : (rawLogs.vals.filter (·.isCanonical)).Nodup := by
    refine Nodup.filter _ (Nodup.of_map key ?_)
    exact nodup_vals_map fun hget => (h.keyed hget).symm
  have hstrict : logs.Nodup := horder.imp fun {a b} hab heq => by
    subst heq
    omega
  have hmem : ∀ log, log ∈ rawLogs.vals.filter (·.isCanonical) ↔ log ∈ logs := by
    intro log
    rw [← h.canonical, mem_filter, mem_vals]
    constructor
    · rintro ⟨⟨k, hk⟩, hcanon⟩
      exact ⟨h.keyed hk ▸ hk, hcanon⟩
    · rintro ⟨hget, hcanon⟩
      exact ⟨⟨_, hget⟩, hcanon⟩
  have hperm : (canonicalLogs rawLogs.vals).Perm logs :=
    (perm_insertionSort _ _).trans ((perm_ext_iff_of_nodup hnodup hstrict).2 hmem)
  refine hperm.eq_of_pairwise ?_ (pairwise_insertionSort _ _) horder.before
  -- two rows at the same place are the same row
  intro a b ha hb hab hba
  refine horder.eq_of_place (hperm.mem_iff.1 ha) hb ?_
  simp only [JournaledLog.Before] at hab hba
  omega

/-- Rows are written that take no canonical row's place. -/
theorem insert (h : Holds rawLogs logs) (hnodup : ((logs ++ rows).map key).Nodup)
    (hcanon : ∀ row ∈ rows, row.isCanonical = true) :
    Holds (insertRawLogs rows rawLogs) (logs ++ rows) := by
  rw [map_append, nodup_append] at hnodup
  obtain ⟨-, hrows, hnew⟩ := hnodup
  constructor
  · intro k log hget
    rcases of_get?_setAll hrows hget with ⟨row, hrow, rfl, rfl⟩ | ⟨-, hold⟩
    · rfl
    · exact h.keyed hold
  intro log
  rw [mem_append, ← h.canonical]
  constructor
  · rintro ⟨hget, hlog⟩
    rcases of_get?_setAll hrows hget with ⟨row, hrow, -, rfl⟩ | ⟨-, hold⟩
    · exact .inr hrow
    · exact .inl ⟨hold, hlog⟩
  · rintro (hlog | hrow)
    · have hother : ∀ row ∈ rows, log.key ≠ row.key := fun row hrow =>
        hnew _ (mem_map_of_mem ((h.canonical log).1 hlog)) _ (mem_map_of_mem hrow)
      rw [insertRawLogs, get?_setAll_of_notMem hother]
      exact hlog
    · exact ⟨get?_setAll_of_mem hrows hrow _, hcanon log hrow⟩

end Holds

theorem Branch.nodup_keys (h : Branch net blocks) :
    ((branchLogs emitters blocks).map key).Nodup := by
  rw [Nodup, pairwise_map]
  refine Pairwise.imp_of_mem ?_ h.inChainOrder
  intro x y hx hy hlt heq
  obtain ⟨b, hb, -, hxof⟩ := of_mem_branchLogs hx
  obtain ⟨c, hc, -, hyof⟩ := of_mem_branchLogs hy
  simp only [key, Prod.mk.injEq] at heq
  have hnum : b.number = c.number := by
    refine net.hash_number (h.produced b hb) (h.produced c hc) ?_
    rw [← hxof.blockHash, ← hyof.blockHash, heq.1]
  rw [hxof.blockNumber, hyof.blockNumber] at hlt
  omega

end DeoptBackend.HybridV2
