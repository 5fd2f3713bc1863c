import DeoptBackend.HybridV2.Replay

/-!
# The indexer (`src/hybrid_v2/runtime.rs`, `reorg.rs`)

The indexer pulls one block at a time.  A block whose parent is the block it stands on is
applied; another parent means that the chain has changed below it, and the planner looks for
the highest block that both have and rewinds to it.

* `applyBlock` — a block, all or nothing: `applyBlock_eq_ok` and `applyBlock_eq_error` say
  what is left of the runtime in the two cases.
* `ReorgPlanner.plan`, `rewindTo` — the search for the common ancestor, and the rewind.
* `tick` — one call.  `tick_effect` says what it can have done, and is all that is used about
  it from here on.
-/

namespace DeoptBackend.HybridV2

open Act Fold List Option

/-! ## The runtime -/

/-- `ReadinessReason`, as far as the modelled services set it. -/
inductive ReadinessReason where
  | awaitingFirstBlock
  | wrongChain (manifest source : Nat)
  | projectionFailure (block : Nat) (detail : String)
  | rebuildInProgress
  | rebuildRequested (epoch : Int)
  | rebuildFailed (detail : String)
  | reconciliationDrift (detail : String)
  | behind (observed indexed : Nat)
  | bootstrapping
  | reorgDetected (atBlock : Nat) (epoch : Int)
  | reorgSearching (epoch : Int)
  | reorgReplaying (epoch : Int) (ancestor : Nat)
  | reorgManualInterventionRequired (epoch : Int) (reason : String)

/-- `ReadinessState`. -/
structure ReadinessState where
  ready : Bool
  reason : Option ReadinessReason

/-- `ReadinessState::new_not_ready`. -/
def notReady (reason : ReadinessReason) : ReadinessState := { ready := false, reason := some reason }

/-- `ReadinessState::ready`. -/
def isReady : ReadinessState := { ready := true, reason := none }

/-- `RuntimeCursor`. -/
structure RuntimeCursor where
  indexedHeadBlock : Nat := 0
  indexedHeadHash : String := ""
  indexedHeadParent : String := ""
  observedHeadBlock : Nat := 0
  finalizedHeadBlock : Nat := 0
  lastError : Option String := none

/-- The counters of `RuntimeMetrics`. -/
structure RuntimeMetrics where
  observedBlock : Nat := 0
  indexedBlock : Nat := 0
  finalizedBlock : Nat := 0
  lag : Nat := 0
  lastSuccessfulBlock : Nat := 0
  decodeFailures : Nat := 0
  projectionFailures : Nat := 0
  unknownCanonicalEvents : Nat := 0
  reorgCount : Nat := 0
  maxReorgDepthSeen : Nat := 0

/-- `PendingReorgAudit`. -/
structure PendingReorgAudit where
  fromBlock : Nat
  fromHash : String
  toBlock : Nat
  toHash : String
  depth : Nat
  orphanedLogCount : Nat

/-- `RuntimeError`, as far as the modelled calls return it. -/
inductive RuntimeError where
  | wrongChain (manifest sourceChain : Nat)
  | decoder (block log : Nat) (source : DecoderError)
  | reducer (block : Nat) (source : ReducerError)
  | excessiveReorgDepth (depth max : Nat)
  | persistence (block : Nat) (detail : String)
  | bootstrap (detail : String)
  | chainSource (detail : String)
  | reorgRequired (cursorBlock : Nat) (cursorHash : String) (conflictingBlock : Nat)
      (conflictingHash incomingParent : String)
  | reorgRecoveryPending (phase : String)
  deriving DecidableEq

/-- `IndexerRuntime`. -/
structure IndexerRuntime where
  manifest : ManifestParams
  emitters : List String
  state : ProjectionState := {}
  cursor : RuntimeCursor := {}
  rawLogs : List JournaledLog := []
  decodedEvents : List (HybridV2Event × ApplyContext) := []
  correlator : ExecutionCorrelator := {}
  readiness : ReadinessState := notReady .awaitingFirstBlock
  metrics : RuntimeMetrics := {}
  maxReorgDepth : Nat := 64
  persistenceCursorName : String := "indexer"
  pendingReorgAudit : Option PendingReorgAudit := none

abbrev RuntimeCall (α : Type) : Type := Act RuntimeError IndexerRuntime α

namespace IndexerRuntime

/-- `IndexerRuntime::new`. -/
def new (manifest : ManifestParams) : IndexerRuntime :=
  { manifest := manifest, emitters := collectEmitters manifest }

/-- The replay the runtime stands in while it applies a block. -/
def fold (rt : IndexerRuntime) (currentTx : Option String) : Fold :=
  { correlator := rt.correlator, state := rt.state, lastTx := currentTx }

/-! ## Applying a block -/

variable (decode : Decoder) (block : RawBlock)

/-- One round of the loop of `apply_block`. -/
def applyLog (currentTx : Option String) (log : CanonicalRawLog) (idx : Nat) :
    RuntimeCall (Option String) := fun rt =>
  if log.emittedBy rt.emitters then
    let row := journalRow block log idx
    let turned := (rt.fold currentTx).turnTo row.txHash
    let journaled : IndexerRuntime :=
      { rt with
        correlator := turned.correlator
        state := turned.state
        rawLogs := rt.rawLogs ++ [row] }
    match decode log rt.manifest.eventVersion with
    | .error e =>
      (.error (.decoder block.number idx e), { journaled with
          metrics := { rt.metrics with decodeFailures := rt.metrics.decodeFailures + 1 } })
    | .ok event =>
      let decoded : IndexerRuntime :=
        { journaled with decodedEvents := rt.decodedEvents ++ [(event, row.ctx)] }
      match apply event row.ctx decoded.state with
      | (.error e, state) =>
        (.error (.reducer block.number e), { decoded with
            state := state
            metrics :=
              { rt.metrics with projectionFailures := rt.metrics.projectionFailures + 1 } })
      | (.ok (), state) =>
        let cs := ExecutionCorrelator.observe event row.ctx (decoded.correlator, state)
        (.ok (some row.txHash), { decoded with correlator := cs.1, state := cs.2 })
  else (.ok currentTx, rt)

/-- The loop of `apply_block`. -/
def applyLogs (decode : Decoder) (block : RawBlock) :
    List CanonicalRawLog → Nat → Option String → RuntimeCall (Option String)
  | [], _, currentTx => pure currentTx
  | log :: logs, idx, currentTx => do
      let tx ← applyLog decode block currentTx log idx
      applyLogs decode block logs (idx + 1) tx

/-- `rollback`, with the fresh correlator that `correlator_snapshot` makes. -/
def rollback (rt : IndexerRuntime) (backupState : ProjectionState)
    (backupRawLen backupDecodedLen : Nat) : IndexerRuntime :=
  { rt with
    state := backupState
    rawLogs := rt.rawLogs.take backupRawLen
    decodedEvents := rt.decodedEvents.take backupDecodedLen
    correlator := {} }

/-- `apply_block`.  The cursor moves last. -/
def applyBlock : RuntimeCall Unit := fun rt =>
  match applyLogs decode block block.logs 0 none rt with
  | (.error e, broken) =>
    (.error e, broken.rollback rt.state rt.rawLogs.length rt.decodedEvents.length)
  | (.ok tx, done) =>
    let cs := (done.fold tx).finish
    (.ok (), { done with
        correlator := cs.1
        state := cs.2
        cursor :=
          { done.cursor with
            indexedHeadBlock := block.number
            indexedHeadHash := block.hash
            indexedHeadParent := block.parentHash
            lastError := none }
        metrics :=
          { done.metrics with
            indexedBlock := block.number
            lastSuccessfulBlock := block.number } })

end IndexerRuntime

/-! ## The planner -/

/-- `ReorgOutcome`. -/
inductive ReorgOutcome where
  | noReorgRequired
  | rewind (commonAncestor : Nat) (orphanedBlocks : List Nat)

namespace ReorgPlanner

/-- The hash the journal has for each block that left a canonical log. -/
def canonicalHashes (journal : List JournaledLog) : FMap Nat String :=
  FMap.ofPairs ((journal.filter (·.isCanonical)).map fun log => (log.blockNumber, log.blockHash))

/-- The loop of `plan`: the highest block with a log, not more than the given depths below
`head`, that the source still has. -/
def search (source : ChainSource) (hashes : FMap Nat String) (head : Nat) :
    List Nat → Except RuntimeError (Option Nat)
  | [] => .ok none
  | depth :: depths =>
    if head < depth then .ok none
    else
      let n := head - depth
      match hashes.get? n with
      | none => search source hashes head depths
      | some localHash =>
        match source.blockAt n with
        | .error e =>
          .error (.chainSource ("reorg planner block_at(" ++ toString n ++ "): " ++ e.text))
        | .ok none => search source hashes head depths
        | .ok (some b) =>
          if hashesEq localHash b.hash then .ok (some n)
          else search source hashes head depths

/-- `ReorgPlanner::plan`. -/
def plan (maxDepth : Nat) (journal : List JournaledLog) (source : ChainSource) :
    Except RuntimeError ReorgOutcome :=
  let hashes := canonicalHashes journal
  match hashes.maxKey? with
  | none => .ok .noReorgRequired
  | some head =>
    match search source hashes head (range (maxDepth + 1)) with
    | .error e => .error e
    | .ok none => .error (.excessiveReorgDepth maxDepth maxDepth)
    | .ok (some ancestor) =>
      if ancestor = head then .ok .noReorgRequired
      else .ok (.rewind ancestor (range' (ancestor + 1) (head - ancestor)))

end ReorgPlanner

namespace IndexerRuntime

/-! ## Rewinding -/

/-- Orphaned rows stay in the journal, marked. -/
def orphan (commonAncestor : Nat) (orphanedBlocks : List Nat) (log : JournaledLog) : JournaledLog :=
  if orphanedBlocks.contains log.blockNumber then
    { log with isCanonical := false, orphanedAtBlock := some commonAncestor }
  else log

variable (decode : Decoder)

/-- One round of the loop of `rewind_to`.  An event that cannot be reduced is still shown to
the correlator. -/
def rewindLog (version : Nat) (acc : Fold × List (HybridV2Event × ApplyContext))
    (log : JournaledLog) : Fold × List (HybridV2Event × ApplyContext) :=
  let turned := acc.1.turnTo log.txHash
  match decode log.raw version with
  | .error _ => (turned, acc.2)
  | .ok event =>
    let state := (apply event log.ctx turned.state).2
    ({ turned with state := state }.observing event log.ctx, acc.2 ++ [(event, log.ctx)])

/-- `rewind_to`. -/
def rewindTo (commonAncestor : Nat) (orphanedBlocks : List Nat) (rt : IndexerRuntime) :
    IndexerRuntime :=
  let rawLogs := rt.rawLogs.map (orphan commonAncestor orphanedBlocks)
  let canonical := rawLogs.filter (·.isCanonical)
  let acc := canonical.foldl (rewindLog decode rt.manifest.eventVersion) ({}, [])
  let cs := acc.1.finish
  { rt with
    rawLogs := rawLogs
    state := cs.2
    correlator := cs.1
    decodedEvents := acc.2
    -- the cursor goes back to the last block that left a log
    cursor :=
      match canonical.getLast? with
      | some last =>
        { rt.cursor with
          indexedHeadBlock := last.blockNumber
          indexedHeadHash := last.blockHash
          indexedHeadParent := last.parentHash }
      | none => {} }

variable (source : ChainSource)

/-- `handle_reorg`. -/
def handleReorg (incoming : RawBlock) : RuntimeCall Unit := fun rt =>
  match ReorgPlanner.plan rt.maxReorgDepth rt.rawLogs source with
  | .error e => (.error e, rt)
  | .ok .noReorgRequired => (.ok (), rt)
  | .ok (.rewind commonAncestor orphanedBlocks) =>
    let orphanedLogs := rt.rawLogs.filter fun log =>
      orphanedBlocks.contains log.blockNumber && log.isCanonical
    let rewound := rewindTo decode commonAncestor orphanedBlocks rt
    (.ok (), { rewound with
        metrics :=
          { rt.metrics with
            reorgCount := rt.metrics.reorgCount + 1
            maxReorgDepthSeen := max rt.metrics.maxReorgDepthSeen orphanedBlocks.length }
        pendingReorgAudit := some
          { fromBlock := rt.cursor.indexedHeadBlock
            fromHash := rt.cursor.indexedHeadHash
            toBlock := incoming.number
            toHash := incoming.hash
            depth := orphanedBlocks.length
            orphanedLogCount := orphanedLogs.length } })

/-! ## A tick -/

/-- `await_chain_id`, `await_head`, `await_finalized`, `await_block_at`: a failed read is
reported and shows in the readiness. -/
def awaiting {α : Type} (answer : Except ChainSourceError α) : RuntimeCall α := fun rt =>
  match answer with
  | .ok a => (.ok a, rt)
  | .error e =>
    let detail := "chain_source: " ++ e.text
    (.error (.chainSource detail), { rt with
        readiness := notReady (.projectionFailure rt.cursor.indexedHeadBlock detail) })

/-- `recompute_readiness`. -/
def recomputeReadiness (rt : IndexerRuntime) : IndexerRuntime :=
  { rt with
    readiness :=
      if rt.cursor.indexedHeadBlock = 0 then notReady .awaitingFirstBlock
      else if rt.metrics.observedBlock > rt.cursor.indexedHeadBlock then
        notReady (.behind rt.metrics.observedBlock rt.cursor.indexedHeadBlock)
      else isReady }

/-- The chain the source speaks for is the manifest's. -/
def checkChainId : RuntimeCall Unit := fun rt =>
  match awaiting source.chainId rt with
  | (.error e, rt') => (.error e, rt')
  | (.ok id, rt') =>
    if id ≠ rt.manifest.chainId then
      (.error (.wrongChain rt.manifest.chainId id),
        { rt' with readiness := notReady (.wrongChain rt.manifest.chainId id) })
    else (.ok (), rt')

/-- The heads the source reports. -/
def observeHeads : RuntimeCall Unit := do
  let observed ← awaiting source.headBlockNumber
  write fun rt => { rt with metrics := { rt.metrics with observedBlock := observed } }
  let finalized ← awaiting source.finalizedBlockNumber
  write fun rt => { rt with metrics := { rt.metrics with finalizedBlock := finalized } }

/-- The incoming block does not follow the one the runtime stands on. -/
def conflicts (rt : IndexerRuntime) (block : RawBlock) : Bool :=
  rt.cursor.indexedHeadBlock > 0 && !hashesEq rt.cursor.indexedHeadHash block.parentHash

/-- The end of a tick that did something: the head is read once more. -/
def closeTick (later : ChainSource) : RuntimeCall Bool := do
  let observed ← awaiting later.headBlockNumber
  write fun rt =>
    recomputeReadiness
      { rt with
        metrics :=
          { rt.metrics with
            observedBlock := observed
            lag := observed - rt.cursor.indexedHeadBlock } }
  pure true

/-- The part of a tick that begins when the next block is there. -/
def follow (source later : ChainSource) (block : RawBlock) : RuntimeCall Bool := do
  if ← read fun rt => rt.conflicts block then
    handleReorg decode source block
  else
    applyBlock decode block
  closeTick later

/-- `tick`.  No block number is asked for twice in one tick, and the other reads but the head
are made once, so `source` stands for whatever the source answers while the tick runs; `later`
is what it answers when the head is read again. -/
def tick (source later : ChainSource) : RuntimeCall Bool := do
  checkChainId source
  observeHeads source
  let next ← read fun rt => rt.cursor.indexedHeadBlock + 1
  match ← awaiting (source.blockAt next) with
  | none =>
    write recomputeReadiness
    pure false
  | some block => follow decode source later block

/-! ## What a block leaves -/

section

variable {decode : Decoder}

/-- The loop over the logs of a block changes five fields, and only adds to the two lists. -/
structure Grown (rt rt' : IndexerRuntime) (rows : List JournaledLog)
    (events : List (HybridV2Event × ApplyContext)) : Prop where
  eq : rt' = { rt with
      correlator := rt'.correlator
      state := rt'.state
      rawLogs := rt.rawLogs ++ rows
      decodedEvents := rt.decodedEvents ++ events
      metrics := rt'.metrics }

theorem Grown.refl (rt : IndexerRuntime) : Grown rt rt [] [] := ⟨by simp⟩

theorem Grown.trans (h : Grown rt₁ rt₂ rows events) (h' : Grown rt₂ rt₃ rows' events') :
    Grown rt₁ rt₃ (rows ++ rows') (events ++ events') := by
  constructor
  have heq := h'.eq
  rw [h.eq] at heq
  rw [heq, append_assoc, append_assoc]

theorem journalFrom_one {emitters : List String} (h : log.emittedBy emitters) :
    journalFrom emitters block [log] idx = [journalRow block log idx] := by
  simp [journalFrom, h]

theorem journalFrom_none {emitters : List String} (h : ¬log.emittedBy emitters) :
    journalFrom emitters block [log] idx = [] := by
  simp [journalFrom, h]

/-- How the rows of logs end: they are added and go through the replay; or the replay fails,
and something was added to the lists. -/
def Applies (decode : Decoder) (rt : IndexerRuntime) (tx : Option String)
    (rows : List JournaledLog) : Except RuntimeError (Option String) × IndexerRuntime → Prop
  | (.ok tx', rt') => (∃ events, events.length = rows.length ∧ Grown rt rt' rows events) ∧
      rt'.metrics = rt.metrics ∧
      takeAll decode rt.manifest.eventVersion (rt.fold tx) rows = some (rt'.fold tx')
  | (.error _, rt') => (∃ rows events, Grown rt rt' rows events) ∧
      takeAll decode rt.manifest.eventVersion (rt.fold tx) rows = none

theorem applyLog_applies (h : applyLog decode block tx log idx rt = out) :
    Applies decode rt tx (journalFrom rt.emitters block [log] idx) out := by
  subst h
  by_cases hemit : log.emittedBy rt.emitters
  · rw [journalFrom_one hemit]
    simp only [applyLog, hemit, if_true]
    split
    · rename_i e hdecode
      have hraw : decode (journalRow block log idx).raw rt.manifest.eventVersion = .error e := hdecode
      exact ⟨⟨[journalRow block log idx], [], ⟨by simp⟩⟩, by simp [takeAll_cons, Fold.take, hraw]⟩
    rename_i event hdecode
    have hraw : decode (journalRow block log idx).raw rt.manifest.eventVersion = .ok event :=
      hdecode
    split
    · rename_i happly
      refine ⟨⟨_, _, ⟨rfl⟩⟩, ?_⟩
      simp only [takeAll_cons, Fold.take, hraw]
      rw [happly]
      rfl
    · rename_i happly
      refine ⟨⟨[(event, (journalRow block log idx).ctx)], rfl, ⟨rfl⟩⟩, rfl, ?_⟩
      rw [takeAll_cons, take_of_ok hdecode happly]
      have hlast := turnTo_lastTx (rt.fold tx) (journalRow block log idx).txHash
      simp only [hlast]
      rfl
  · rw [journalFrom_none hemit]
    simp only [applyLog, hemit]
    exact ⟨⟨[], rfl, .refl _⟩, rfl, rfl⟩

theorem journalFrom_cons (emitters : List String) : journalFrom emitters block (log :: logs) idx =
      journalFrom emitters block [log] idx ++ journalFrom emitters block logs (idx + 1) := by
  simp only [journalFrom]
  split <;> simp

/-- **The rows of a block are added and go through the replay, or it fails as the replay does.** -/
theorem applyLogs_applies (h : applyLogs decode block logs idx tx rt = out) :
    Applies decode rt tx (journalFrom rt.emitters block logs idx) out := by
  subst h
  induction logs generalizing rt idx tx with
  | nil => exact ⟨⟨[], rfl, .refl _⟩, rfl, rfl⟩
  | cons log logs ih =>
    rw [journalFrom_cons, applyLogs]
    rcases hfirst : applyLog decode block tx log idx rt with ⟨_ | tx₁, rt₁⟩
    · obtain ⟨hgrown, hnone⟩ := applyLog_applies hfirst
      rw [bind_of_error hfirst]
      exact ⟨hgrown, by rw [takeAll_append, hnone, bind_none]⟩
    obtain ⟨⟨events, hlen, hgrown⟩, hmetrics, htake⟩ := applyLog_applies hfirst
    have hemitters : rt₁.emitters = rt.emitters := by rw [hgrown.eq]
    have hmanifest : rt₁.manifest = rt.manifest := by rw [hgrown.eq]
    have hlogs : Applies decode rt₁ tx₁ _ (applyLogs decode block logs (idx + 1) tx₁ rt₁) := ih
    rw [bind_of_ok hfirst]
    generalize applyLogs decode block logs (idx + 1) tx₁ rt₁ = out at hlogs
    obtain ⟨_ | tx', rt'⟩ := out
    · obtain ⟨⟨rows', events', hgrown'⟩, hnone⟩ := hlogs
      rw [hemitters, hmanifest] at hnone
      exact ⟨⟨_, _, hgrown.trans hgrown'⟩, by rw [takeAll_append, htake, bind_some, hnone]⟩
    · obtain ⟨⟨events', hlen', hgrown'⟩, hmetrics', htake'⟩ := hlogs
      rw [hemitters] at hlen' hgrown' htake'
      rw [hmanifest] at htake'
      exact ⟨⟨events ++ events', by simp [hlen, hlen'], hgrown.trans hgrown'⟩,
        hmetrics'.trans hmetrics, by rw [takeAll_append, htake, bind_some, htake']⟩

def applied (rt : IndexerRuntime) (block : RawBlock) (state : ProjectionState)
    (events : List (HybridV2Event × ApplyContext)) : IndexerRuntime :=
  { rt with
    correlator := {}
    state := state
    rawLogs := rt.rawLogs ++ journalOf rt.emitters block
    decodedEvents := rt.decodedEvents ++ events
    cursor :=
      { rt.cursor with
        indexedHeadBlock := block.number
        indexedHeadHash := block.hash
        indexedHeadParent := block.parentHash
        lastError := none }
    metrics :=
      { rt.metrics with indexedBlock := block.number, lastSuccessfulBlock := block.number } }

/-- What an applied block leaves, whatever groups were pending before it. -/
theorem applyBlock_eq_applied (h : applyBlock decode block rt = (.ok (), rt')) :
    ∃ f events, events.length = (journalOf rt.emitters block).length ∧
      takeAll decode rt.manifest.eventVersion (rt.fold none) (journalOf rt.emitters block) =
        some f ∧
      rt' = { rt.applied block f.finish.2 events with correlator := f.finish.1 } := by
  simp only [applyBlock] at h
  split at h
  · cases h
  rename_i tx done hlogs
  cases h
  obtain ⟨⟨events, hlen, hgrown⟩, hmetrics, htake⟩ := applyLogs_applies hlogs
  refine ⟨done.fold tx, events, hlen, htake, ?_⟩
  have hcursor : done.cursor = rt.cursor := by rw [hgrown.eq]
  rw [hcursor, hmetrics]
  rw [hgrown.eq]
  rfl

/-- **What an applied block leaves**: the projection its rows lead to, and no group. -/
theorem applyBlock_eq_ok (h : applyBlock decode block rt = (.ok (), rt'))
    (hempty : rt.correlator = {}) :
    ∃ state events, events.length = (journalOf rt.emitters block).length ∧
      projectionFrom decode rt.manifest.eventVersion rt.state (journalOf rt.emitters block) =
        some state ∧
      rt' = rt.applied block state events := by
  obtain ⟨f, events, hlen, htake, rfl⟩ := applyBlock_eq_applied h
  have hstart : rt.fold none = { state := rt.state } := by simp [fold, hempty]
  rw [hstart] at htake
  have hfst : f.finish.1 = {} := (tidy_of_takeAll htake).finish_fst
  refine ⟨f.finish.2, events, hlen, projectionFrom_eq_some.2 ⟨f, htake, Prod.ext hfst rfl⟩, ?_⟩
  rw [hfst]
  rfl

/-- A block whose rows go through is applied. -/
theorem applyBlock_isOk {state : ProjectionState} (hempty : rt.correlator = {})
    (h : projectionFrom decode rt.manifest.eventVersion rt.state (journalOf rt.emitters block) =
      some state) : ∃ rt', applyBlock decode block rt = (.ok (), rt') := by
  obtain ⟨f, hf, -⟩ := projectionFrom_eq_some.1 h
  have hstart : rt.fold none = { state := rt.state } := by simp [fold, hempty]
  simp only [applyBlock]
  rcases hlogs : applyLogs decode block block.logs 0 none rt with ⟨_ | tx, done⟩
  · have hnone := (applyLogs_applies hlogs).2
    rw [hstart] at hnone
    rw [journalOf, hnone] at hf
    cases hf
  · exact ⟨_, rfl⟩

/-- **A block that fails leaves nothing** but a counter: the lists are cut back to what they
were. -/
theorem applyBlock_eq_error (h : applyBlock decode block rt = (.error e, rt')) :
    rt' = { rt with correlator := {}, metrics := rt'.metrics } := by
  simp only [applyBlock] at h
  split at h
  · rename_i e' broken hlogs
    cases h
    obtain ⟨⟨rows, events, hgrown⟩, -⟩ := applyLogs_applies hlogs
    rw [hgrown.eq]
    simp [rollback]
  · cases h

end

/-! ## What a tick can have done -/

/-- The runtime is the same up to its counters and its readiness. -/
def Touched (rt rt' : IndexerRuntime) : Prop :=
  rt' = { rt with metrics := rt'.metrics, readiness := rt'.readiness }

theorem Touched.refl (rt : IndexerRuntime) : Touched rt rt := rfl

theorem Touched.trans (h : Touched rt₁ rt₂) (h' : Touched rt₂ rt₃) : Touched rt₁ rt₃ := by
  unfold Touched at *
  rw [h'.trans (by rw [h])]

/-- The source answers the reads a tick begins with, for the chain of the manifest. -/
structure Reachable (source : ChainSource) (rt : IndexerRuntime) : Prop where
  chainId : source.chainId = .ok rt.manifest.chainId
  head : ∃ n, source.headBlockNumber = .ok n
  finalized : ∃ n, source.finalizedBlockNumber = .ok n
  block : ∃ b, source.blockAt (rt.cursor.indexedHeadBlock + 1) = .ok b

/-- How a tick ends that did something to the runtime: well, or with a failed read of the
head. -/
def Closed (r : Except RuntimeError Bool) : Prop :=
  r = .ok true ∨ ∃ detail, r = .error (.chainSource detail)

/-- What a tick can have done. -/
inductive TickEffect (decode : Decoder) (source : ChainSource) (rt : IndexerRuntime) :
    Except RuntimeError Bool → IndexerRuntime → Prop
  /-- A read failed before a block was looked at. -/
  | unread {e rt'} : ¬Reachable source rt → Touched rt rt' →
      TickEffect decode source rt (.error e) rt'
  /-- There is no next block yet. -/
  | noBlock {rt'} : source.blockAt (rt.cursor.indexedHeadBlock + 1) = .ok none →
      Touched rt rt' → TickEffect decode source rt (.ok false) rt'
  | applied {r block rt₁ rt₂ rt'} :
      source.blockAt (rt.cursor.indexedHeadBlock + 1) = .ok (some block) →
      rt.conflicts block = false → Touched rt rt₁ →
      applyBlock decode block rt₁ = (.ok (), rt₂) → Touched rt₂ rt' → Closed r →
      TickEffect decode source rt r rt'
  | failed {block e rt₁ rt'} :
      source.blockAt (rt.cursor.indexedHeadBlock + 1) = .ok (some block) →
      rt.conflicts block = false → Touched rt rt₁ →
      applyBlock decode block rt₁ = (.error e, rt') →
      TickEffect decode source rt (.error e) rt'
  /-- The planner found nothing to do, or failed. -/
  | stayed {r block rt'} :
      source.blockAt (rt.cursor.indexedHeadBlock + 1) = .ok (some block) →
      rt.conflicts block = true → Touched rt rt' →
      (∀ a orphaned, ReorgPlanner.plan rt.maxReorgDepth rt.rawLogs source ≠
        .ok (.rewind a orphaned)) → TickEffect decode source rt r rt'
  | rewound {r block a orphaned rt₁ rt'} :
      source.blockAt (rt.cursor.indexedHeadBlock + 1) = .ok (some block) →
      rt.conflicts block = true → Touched rt rt₁ →
      ReorgPlanner.plan rt.maxReorgDepth rt.rawLogs source = .ok (.rewind a orphaned) →
      rt' = { rewindTo decode a orphaned rt₁ with
        metrics := rt'.metrics
        readiness := rt'.readiness
        pendingReorgAudit := rt'.pendingReorgAudit } → Closed r →
      TickEffect decode source rt r rt'

section

variable {decode : Decoder} {source : ChainSource}

theorem awaiting_touched (answer : Except ChainSourceError α) (rt : IndexerRuntime) :
    Touched rt (awaiting answer rt).2 := by
  cases answer <;> rfl

theorem awaiting_eq_ok (h : awaiting answer rt = (.ok a, rt')) : answer = .ok a ∧ rt' = rt := by
  cases answer <;> cases h
  exact ⟨rfl, rfl⟩

theorem checkChainId_touched (source : ChainSource) (rt : IndexerRuntime) :
    Touched rt (checkChainId source rt).2 := by
  simp only [checkChainId]
  cases hid : source.chainId with
  | error e => exact awaiting_touched (.error e : Except ChainSourceError Nat) rt
  | ok =>
    simp only [awaiting]
    split <;> rfl

theorem checkChainId_eq_ok (h : checkChainId source rt = (.ok (), rt')) :
    source.chainId = .ok rt.manifest.chainId ∧ rt' = rt := by
  simp only [checkChainId] at h
  split at h
  · cases h
  rename_i id rt₁ hid
  obtain ⟨hsource, rfl⟩ := awaiting_eq_ok hid
  split at h
  · cases h
  · rename_i hne
    cases h
    exact ⟨by rw [hsource, Decidable.not_not.1 hne], rfl⟩

theorem observeHeads_touched (source : ChainSource) (rt : IndexerRuntime) :
    Touched rt (observeHeads source rt).2 := by
  cases hhead : source.headBlockNumber <;> cases hfin : source.finalizedBlockNumber <;>
    simp only [observeHeads, hhead, hfin] <;> rfl

theorem Reachable.checkChainId (h : Reachable source rt) :
    IndexerRuntime.checkChainId source rt = (.ok (), rt) := by
  simp [IndexerRuntime.checkChainId, awaiting, h.chainId]

theorem Reachable.observeHeads (h : Reachable source rt) (rt₁ : IndexerRuntime) :
    ∃ rt₂, IndexerRuntime.observeHeads source rt₁ = (.ok (), rt₂) := by
  obtain ⟨⟨n, hn⟩, ⟨m, hm⟩⟩ := And.intro h.head h.finalized
  simp only [IndexerRuntime.observeHeads, hn, hm]
  exact ⟨_, rfl⟩

section

variable (later : ChainSource) (rt : IndexerRuntime)

theorem closeTick_touched : Touched rt (closeTick later rt).2 := by
  cases hhead : later.headBlockNumber <;> simp only [closeTick, hhead] <;> rfl

theorem closeTick_closed : Closed (closeTick later rt).1 := by
  cases hhead : later.headBlockNumber with
  | error =>
    simp only [closeTick, hhead]
    exact .inr ⟨_, rfl⟩
  | ok =>
    simp only [closeTick, hhead]
    exact .inl rfl

end

theorem Touched.cursor (h : Touched rt rt') : rt'.cursor = rt.cursor := by rw [h]

theorem Touched.conflicts (h : Touched rt rt') (block : RawBlock) :
    rt'.conflicts block = rt.conflicts block := by
  rw [IndexerRuntime.conflicts, IndexerRuntime.conflicts, h.cursor]

/-- The planner's answer decides what becomes of a conflicting block. -/
theorem handleReorg_effect (h : handleReorg decode source block rt = (r, rt')) :
    (rt' = rt ∧ ∀ a orphaned, ReorgPlanner.plan rt.maxReorgDepth rt.rawLogs source ≠
      .ok (.rewind a orphaned)) ∨
    ∃ a orphaned, ReorgPlanner.plan rt.maxReorgDepth rt.rawLogs source =
        .ok (.rewind a orphaned) ∧ r = .ok () ∧
      rt' = { rewindTo decode a orphaned rt with
        metrics := rt'.metrics
        pendingReorgAudit := rt'.pendingReorgAudit } := by
  simp only [handleReorg] at h
  split at h
  · rename_i e hplan
    cases h
    exact .inl ⟨rfl, fun a orphaned heq => by rw [hplan] at heq; cases heq⟩
  · rename_i hplan
    cases h
    exact .inl ⟨rfl, fun a orphaned heq => by rw [hplan] at heq; cases heq⟩
  · rename_i a orphaned hplan
    cases h
    exact .inr ⟨a, orphaned, hplan, rfl, rfl⟩

theorem follow_effect (hblock : source.blockAt (rt.cursor.indexedHeadBlock + 1) = .ok (some block))
    (htouch : Touched rt rt₁) (h : follow decode source later block rt₁ = (r, rt')) :
    TickEffect decode source rt r rt' := by
  have hconf := htouch.conflicts block
  have hplan : ReorgPlanner.plan rt₁.maxReorgDepth rt₁.rawLogs source =
      ReorgPlanner.plan rt.maxReorgDepth rt.rawLogs source := by rw [htouch]
  unfold follow at h
  rw [bind_run, read_run] at h
  cases hc : rt₁.conflicts block with
  | true =>
    simp only [hc, if_true] at h
    rw [hc] at hconf
    rcases hreorg : handleReorg decode source block rt₁ with ⟨r', rt₂⟩
    have hclose := closeTick_touched later rt₂
    rcases handleReorg_effect hreorg with ⟨rfl, hno⟩ | ⟨a, orphaned, hyes, rfl, heq⟩
    · refine .stayed hblock hconf.symm ?_ (hplan ▸ hno)
      cases r' with
      | error =>
        rw [bind_of_error hreorg] at h
        cases h
        exact htouch
      | ok =>
        rw [bind_of_ok hreorg] at h
        rw [h] at hclose
        exact htouch.trans hclose
    · refine .rewound hblock hconf.symm htouch (hplan ▸ hyes) ?_ ?_
      · rw [bind_of_ok hreorg] at h
        have hend : Touched rt₂ rt' := by rwa [h] at hclose
        rw [heq] at hend
        rw [hend]
      · rw [bind_of_ok hreorg] at h
        simpa [h] using closeTick_closed later rt₂
  | false =>
    simp only [hc, Bool.false_eq_true, if_false] at h
    rw [hc] at hconf
    rcases happly : applyBlock decode block rt₁ with ⟨e | ⟨⟩, rt₂⟩
    · rw [bind_of_error happly] at h
      cases h
      exact .failed hblock hconf.symm htouch happly
    · rw [bind_of_ok happly] at h
      have hclose := closeTick_touched later rt₂
      rw [h] at hclose
      exact .applied hblock hconf.symm htouch happly hclose
        (by simpa [h] using closeTick_closed later rt₂)

/-- **What a tick can have done.** -/
theorem tick_effect (h : tick decode source later rt = (r, rt')) :
    TickEffect decode source rt r rt' := by
  unfold tick at h
  rcases hid : checkChainId source rt with ⟨e | ⟨⟩, rt₁⟩
  · rw [bind_of_error hid] at h
    cases h
    refine .unread (fun hreach => ?_) (by simpa [hid] using checkChainId_touched source rt)
    rw [hreach.checkChainId] at hid
    cases hid
  obtain ⟨hchain, rfl⟩ := checkChainId_eq_ok hid
  rw [bind_of_ok hid] at h
  rcases hheads : observeHeads source rt₁ with ⟨e | ⟨⟩, rt₂⟩
  all_goals have htouch : Touched rt₁ rt₂ := by simpa [hheads] using observeHeads_touched source rt₁
  · rw [bind_of_error hheads] at h
    cases h
    refine .unread (fun hreach => ?_) htouch
    obtain ⟨rt₃, hok⟩ := hreach.observeHeads rt₁
    rw [hok] at hheads
    cases hheads
  rw [bind_of_ok hheads, bind_run, read_run] at h
  simp only [htouch.cursor] at h
  cases hblock : source.blockAt (rt₁.cursor.indexedHeadBlock + 1) with
  | error =>
    rw [hblock, bind_run] at h
    cases h
    refine .unread (fun hreach => ?_) (htouch.trans rfl)
    obtain ⟨b, hb⟩ := hreach.block
    rw [hblock] at hb
    cases hb
  | ok found =>
    rw [hblock, bind_run] at h
    cases found with
    | none =>
      cases h
      exact .noBlock hblock (htouch.trans rfl)
    | some => exact follow_effect hblock htouch h

end

end IndexerRuntime

end DeoptBackend.HybridV2
