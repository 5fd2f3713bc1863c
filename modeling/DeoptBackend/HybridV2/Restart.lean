import DeoptBackend.HybridV2.Store

/-!
# Persisted ticks and restarts (`src/hybrid_v2/runtime.rs`)

With a store attached, a tick writes every block it applied, and a block that does not follow the
last one is not handled but reported, after a row for the recovery was written.  A new runtime
takes its cursor from the store and its projection from a replay of the stored journal.

* `tickAndPersist` — one such tick; `tickAndPersist_effect` says what it can have done.
* `bootstrapFromPersistence` — the restart.
* `InStep` — runtime and store have indexed the same blocks, after any such ticks.
* `restart_iff` — **a restart gives back what was stopped exactly when the block indexed last
  left a log**, because the replay counts only such blocks.
-/

namespace DeoptBackend.HybridV2

open Act IndexerRuntime RuntimeCursorSnapshot List Option

/-- A runtime with its store. -/
structure Indexer where
  rt : IndexerRuntime
  store : ProjectionStore

abbrev IndexerCall (α : Type) : Type := Act RuntimeError Indexer α

namespace Indexer

/-- The part of a call that does not use the store. -/
def onRuntime {α : Type} (x : RuntimeCall α) : IndexerCall α := fun w =>
  ((x w.rt).1, { w with rt := (x w.rt).2 })

/-! ## The persisted tick -/

/-- The runtime does not advance while a recovery is on. -/
def guardRecovery : IndexerCall Unit := fun w =>
  match w.store.reorgRecovery with
  | none => (.ok (), w)
  | some row =>
    if row.phase.isTerminalFailed then
      (.error (.reorgRecoveryPending row.phase.asStr), { w with
          rt :=
            { w.rt with
              readiness := notReady (.reorgManualInterventionRequired row.recoveryEpoch
                (row.lastFailureDetail.getD "manual intervention required")) } })
    else if row.phase.isActive then
      (.error (.reorgRecoveryPending row.phase.asStr),
        { w with rt := { w.rt with readiness := notReady row.readinessReason } })
    else (.ok (), w)

/-- `persist_reorg_detected`. -/
def persistReorgDetected (store : ProjectionStore) (oldTipBlock : Nat) (oldTipHash : String)
    (conflictingBlock : Nat) (conflictingHash : String) (nowMs : Int) : ProjectionStore :=
  let epoch := nextRecoveryEpoch store.reorgRecovery
  { store with
    reorgRecovery := some (ReorgRecoveryState.newDetected epoch oldTipBlock oldTipHash
      (some conflictingBlock) (some conflictingHash) nowMs)
    readiness := some (notReady (.reorgDetected oldTipBlock epoch)) }

/-- The block does not follow: the runtime is left as it is, and the recovery is asked for. -/
def requireReorg (block : RawBlock) (nowMs : Int) : IndexerCall Bool := fun w =>
  let cursor := w.rt.cursor
  (.error (.reorgRequired cursor.indexedHeadBlock cursor.indexedHeadHash block.number block.hash
      block.parentHash),
    { rt :=
        { w.rt with readiness := notReady (.reorgDetected cursor.indexedHeadBlock 0) }
      store := persistReorgDetected w.store cursor.indexedHeadBlock cursor.indexedHeadHash
        block.number block.hash nowMs })

variable (decode : Decoder)

/-- The block is applied and written, or neither. -/
def applyAndPersist (block : RawBlock) : IndexerCall Unit := fun w =>
  match applyBlock decode block w.rt with
  | (.error e, rt') => (.error e, { w with rt := rt' })
  | (.ok (), rt') =>
    let cursor := fromRuntime rt'.persistenceCursorName rt'.cursor
      rt'.metrics
    match w.store.persistBlockAtomic (rt'.rawLogs.drop w.rt.rawLogs.length)
        (rt'.decodedEvents.drop w.rt.decodedEvents.length) rt'.state cursor rt'.readiness with
    | .ok store => (.ok (), { rt := rt', store := store })
    | .error detail =>
      let metrics := w.rt.metrics
      (.error (.persistence block.number detail), { w with
          rt :=
            { rollback rt' w.rt.state w.rt.rawLogs.length w.rt.decodedEvents.length with
              cursor := w.rt.cursor
              metrics := { metrics with projectionFailures := metrics.projectionFailures + 1 }
              readiness := notReady (.projectionFailure block.number detail) } })

/-- The part of a persisted tick that begins when the next block is there. -/
def followAndPersist (later : ChainSource) (nowMs : Int) (block : RawBlock) :
    IndexerCall Bool := fun w =>
  if w.rt.conflicts block then requireReorg block nowMs w
  else
    match applyAndPersist decode block w with
    | (.error e, w') => (.error e, w')
    | (.ok (), w') => onRuntime (closeTick later) w'

/-- `tick_and_persist`. -/
def tickAndPersist (source later : ChainSource) (nowMs : Int) : IndexerCall Bool := do
  onRuntime (checkChainId source)
  guardRecovery
  onRuntime (observeHeads source)
  let next ← read fun w => w.rt.cursor.indexedHeadBlock + 1
  match ← onRuntime (awaiting (source.blockAt next)) with
  | none =>
    onRuntime (write recomputeReadiness)
    pure false
  | some block => followAndPersist decode later nowMs block

/-! ## The restart -/

/-- `BootstrapResult`. -/
inductive BootstrapResult where
  | chainForbidden (chainId : Nat)
  | freshStart
  | restoredCursorOnly (indexedHeadBlock : Nat)
  | hydratedFromJournal (blocks events : Nat)
  | diverged (persistedHead replayedHead : Nat) (detail : String)
  | rebuildBlocked (rebuildEpoch : Int) (phase : String)
  deriving DecidableEq

def rebuildReadiness (op : RebuildOperationState) : Option ReadinessState :=
  match op.phase with
  | .complete | .none => none
  | .requested => some (notReady (.rebuildRequested op.rebuildEpoch))
  | .failed => some (notReady (.rebuildFailed (op.lastFailureDetail.getD "rebuild failed")))
  | .manualInterventionRequired =>
    some (notReady (.rebuildFailed
      (op.lastFailureDetail.getD "rebuild requires manual intervention")))
  | _ => some (notReady .rebuildInProgress)

def restoredReadiness : Option ReadinessState → ReadinessState
  | some r => if r.ready then isReady else notReady .awaitingFirstBlock
  | none => notReady .awaitingFirstBlock

def restoreCursor (rt : IndexerRuntime) (snap : RuntimeCursorSnapshot) : IndexerRuntime :=
  { rt with
    cursor := snap.cursor
    metrics :=
      { rt.metrics with
        indexedBlock := snap.indexedHeadBlock
        lastSuccessfulBlock := snap.lastSuccessBlock
        observedBlock := snap.observedHeadBlock
        finalizedBlock := snap.finalizedHeadBlock
        reorgCount := snap.reorgCount
        maxReorgDepthSeen := snap.maxReorgDepthSeen
        decodeFailures := snap.decodeFailures
        projectionFailures := snap.projectionFailures
        unknownCanonicalEvents := snap.unknownCanonicalEvents } }

/-- The last part of a restart: the journal is replayed. -/
def hydrate (snap : RuntimeCursorSnapshot) (store : ProjectionStore) (rt : IndexerRuntime) :
    BootstrapResult × IndexerRuntime :=
  let journal := store.readCanonicalJournal
  let replayed := replayAll decode rt.manifest.eventVersion journal
  let rt' : IndexerRuntime :=
    { rt with state := replayed.1.2, correlator := replayed.1.1, rawLogs := journal }
  if replayed.2.finalHeadBlock ≠ snap.indexedHeadBlock then
    let detail := "bootstrap replay diverged: expected head " ++ toString snap.indexedHeadBlock ++
      ", replayed to " ++ toString replayed.2.finalHeadBlock
    (.diverged snap.indexedHeadBlock replayed.2.finalHeadBlock detail,
      { rt' with readiness := notReady (.projectionFailure snap.indexedHeadBlock detail) })
  else
    (.hydratedFromJournal replayed.2.finalHeadBlock replayed.2.eventsReplayed,
      { rt' with readiness := restoredReadiness store.readiness })

/-- What the restart takes from the store, when nothing blocks it. -/
def restore (store : ProjectionStore) (rt : IndexerRuntime) : BootstrapResult × IndexerRuntime :=
  match store.cursors.get? rt.persistenceCursorName with
  | none => (.freshStart, { rt with readiness := notReady .awaitingFirstBlock })
  | some snap =>
    let restored := restoreCursor rt snap
    if snap.indexedHeadBlock = 0 then
      (.restoredCursorOnly 0, { restored with
          rawLogs := []
          state := {}
          correlator := {}
          readiness := restoredReadiness store.readiness })
    else hydrate decode snap store restored

/-- `bootstrap_from_persistence`, with a store attached whose reads do not fail. -/
def bootstrapFromPersistence (w : Indexer) : BootstrapResult × Indexer :=
  let chainId := w.rt.manifest.chainId
  if chainId = baseMainnetChainId then
    (.chainForbidden chainId,
      { w with rt := { w.rt with readiness := notReady (.wrongChain chainId chainId) } })
  else
    let rt : IndexerRuntime := { w.rt with readiness := notReady .bootstrapping }
    match w.store.readLatestRebuildOperation.bind fun op =>
        (rebuildReadiness op).map fun readiness => (op, readiness) with
    | some (op, readiness) =>
      (.rebuildBlocked op.rebuildEpoch op.phase.asStr,
        { w with rt := { rt with readiness := readiness } })
    | none =>
      let restored := restore decode w.store rt
      (restored.1, { w with rt := restored.2 })

/-! ## What a persisted tick can have done -/

/-- The store once a block was written, with the runtime that block led to. -/
def written (block : RawBlock) (rt : IndexerRuntime) (store : ProjectionStore) : ProjectionStore :=
  { store with
    rawLogs := insertRawLogs (journalOf rt.emitters block) store.rawLogs
    stateSnapshot := some rt.state
    cursors := store.cursors.set rt.persistenceCursorName
      (fromRuntime rt.persistenceCursorName rt.cursor rt.metrics)
    readiness := some rt.readiness }

/-- What a persisted tick can have done. -/
inductive PersistedEffect (decode : Decoder) (source : ChainSource) (nowMs : Int) (w : Indexer) :
    Except RuntimeError Bool → Indexer → Prop
  /-- No block was looked at, or there is none yet. -/
  | idle {r w'} : Touched w.rt w'.rt → w'.store = w.store →
      PersistedEffect decode source nowMs w r w'
  | detected {block rt'} :
      source.blockAt (w.rt.cursor.indexedHeadBlock + 1) = .ok (some block) →
      w.rt.conflicts block = true → Touched w.rt rt' →
      PersistedEffect decode source nowMs w
        (.error (.reorgRequired w.rt.cursor.indexedHeadBlock w.rt.cursor.indexedHeadHash
          block.number block.hash block.parentHash))
        { rt := rt'
          store := persistReorgDetected w.store w.rt.cursor.indexedHeadBlock
            w.rt.cursor.indexedHeadHash block.number block.hash nowMs }
  | failed {block e rt₁ rt'} :
      source.blockAt (w.rt.cursor.indexedHeadBlock + 1) = .ok (some block) →
      w.rt.conflicts block = false → Touched w.rt rt₁ →
      applyBlock decode block rt₁ = (.error e, rt') →
      PersistedEffect decode source nowMs w (.error e) { w with rt := rt' }
  | applied {r block rt₁ rt₂ rt'} :
      source.blockAt (w.rt.cursor.indexedHeadBlock + 1) = .ok (some block) →
      w.rt.conflicts block = false → Touched w.rt rt₁ →
      applyBlock decode block rt₁ = (.ok (), rt₂) → Touched rt₂ rt' →
      PersistedEffect decode source nowMs w r ⟨rt', written block rt₂ w.store⟩

section

variable {decode : Decoder}

theorem onRuntime_of_ok (h : x w.rt = (.ok a, rt')) :
    onRuntime x w = (.ok a, { w with rt := rt' }) := by
  simp [onRuntime, h]

theorem onRuntime_of_error (h : x w.rt = (.error e, rt')) :
    onRuntime x w = (.error e, { w with rt := rt' }) := by
  simp [onRuntime, h]

/-- **A block that was applied is always written.** -/
theorem applyAndPersist_of_ok (h : applyBlock decode block w.rt = (.ok (), rt₂)) :
    applyAndPersist decode block w = (.ok (), ⟨rt₂, written block rt₂ w.store⟩) := by
  obtain ⟨f, events, hlen, -, heq⟩ := applyBlock_eq_applied h
  have hemit : rt₂.emitters = w.rt.emitters := by rw [heq]; rfl
  have hrows : rt₂.rawLogs.drop w.rt.rawLogs.length = journalOf rt₂.emitters block := by
    rw [hemit, heq]
    exact drop_left
  rw [← hemit] at hlen
  have hevents : rt₂.decodedEvents.drop w.rt.decodedEvents.length = events := by
    rw [heq]
    exact drop_left
  simp only [applyAndPersist, h, ProjectionStore.persistBlockAtomic, hrows, hevents, hlen, ne_eq]
  rfl

theorem followAndPersist_effect
    (hblock : source.blockAt (w.rt.cursor.indexedHeadBlock + 1) = .ok (some block))
    (htouch : Touched w.rt rt₁)
    (h : followAndPersist decode later nowMs block { w with rt := rt₁ } = (r, w')) :
    PersistedEffect decode source nowMs w r w' := by
  have hconf := htouch.conflicts block
  simp only [followAndPersist] at h
  cases hc : rt₁.conflicts block with
  | true =>
    simp only [hc] at h
    have hc' := hconf ▸ hc
    obtain ⟨metrics, readiness, rfl⟩ :
        ∃ metrics readiness, rt₁ = { w.rt with metrics := metrics, readiness := readiness } :=
      ⟨_, _, htouch⟩
    cases h
    exact .detected hblock hc' rfl
  | false =>
    simp only [hc] at h
    rcases happly : applyBlock decode block rt₁ with ⟨e | ⟨⟩, rt₂⟩
    · simp only [applyAndPersist, happly] at h
      cases h
      exact .failed hblock (hconf ▸ hc) htouch happly
    · have hpersist := applyAndPersist_of_ok (w := { w with rt := rt₁ }) happly
      simp only [hpersist] at h
      cases h
      exact .applied hblock (hconf ▸ hc) htouch happly (closeTick_touched later rt₂)

theorem guardRecovery_touched (w : Indexer) :
    Touched w.rt (guardRecovery w).2.rt ∧ (guardRecovery w).2.store = w.store := by
  simp only [guardRecovery]
  split
  · exact ⟨.refl _, rfl⟩
  split
  · exact ⟨rfl, rfl⟩
  · split
    · exact ⟨rfl, rfl⟩
    · exact ⟨.refl _, rfl⟩

/-- **What a persisted tick can have done.** -/
theorem tickAndPersist_effect (h : tickAndPersist decode source later nowMs w = (r, w')) :
    PersistedEffect decode source nowMs w r w' := by
  unfold tickAndPersist at h
  rcases hid : checkChainId source w.rt with ⟨e | ⟨⟩, rt₁⟩
  · rw [bind_of_error (onRuntime_of_error hid)] at h
    cases h
    exact .idle (by simpa [hid] using checkChainId_touched source w.rt) rfl
  obtain ⟨-, rfl⟩ := checkChainId_eq_ok hid
  rw [bind_of_ok (onRuntime_of_ok hid)] at h
  obtain ⟨hguard, hstore⟩ := guardRecovery_touched w
  rcases hg : guardRecovery w with ⟨e | ⟨⟩, w₁⟩
  all_goals rw [hg] at hguard hstore
  · rw [bind_of_error hg] at h
    cases h
    exact .idle hguard hstore
  rw [bind_of_ok hg] at h
  obtain ⟨rt₁, rfl⟩ : ∃ rt₁, w₁ = { w with rt := rt₁ } := ⟨w₁.rt, by rw [← hstore]⟩
  rcases hheads : observeHeads source rt₁ with ⟨e | ⟨⟩, rt₂⟩
  all_goals
    have htouch : Touched w.rt rt₂ :=
      hguard.trans (by simpa [hheads] using observeHeads_touched source rt₁)
  · rw [bind_of_error (onRuntime_of_error hheads)] at h
    cases h
    exact .idle htouch rfl
  rw [bind_of_ok (onRuntime_of_ok hheads), bind_run, read_run] at h
  simp only [htouch.cursor] at h
  cases hblock : source.blockAt (w.rt.cursor.indexedHeadBlock + 1) with
  | error =>
    rw [hblock, bind_run] at h
    cases h
    exact .idle (htouch.trans rfl) rfl
  | ok found =>
    rw [hblock, bind_run] at h
    cases found with
    | none =>
      cases h
      exact .idle (htouch.trans rfl) rfl
    | some => exact followAndPersist_effect hblock htouch h

end

end Indexer

/-! ## Runtime and store in step -/

open Indexer

/-- Runtime and store have indexed the same blocks. -/
structure InStep (decode : Decoder) (net : Network) (m : ManifestParams) (name : String)
    (w : Indexer) (blocks : List RawBlock) : Prop where
  named : w.rt.persistenceCursorName = name
  indexed : Indexed decode net m w.rt blocks
  holds : Holds w.store.rawLogs (branchLogs (collectEmitters m) blocks)
  rebuilds : w.store.rebuildOperations = ∅
  fresh : blocks = [] → w.store.cursors.get? name = none ∧ w.rt.cursor = {}
  stored : blocks ≠ [] → ∃ snap, w.store.cursors.get? name = some snap ∧ snap.cursor = w.rt.cursor

namespace InStep

theorem new (decode : Decoder) (net : Network) (m : ManifestParams) (d : Nat) (name : String) :
    InStep decode net m name
      { rt := { new m with maxReorgDepth := d, persistenceCursorName := name }
        store := {} } [] where
  named := rfl
  indexed := { Indexed.new decode net m d with }
  holds := Holds.empty
  rebuilds := rfl
  fresh := fun _ => ⟨rfl, rfl⟩
  stored := fun h => absurd rfl h

section

variable (h : InStep decode net m name w blocks)
include h

/-- The tick did nothing to what is indexed, here or in the store. -/
theorem kept (hrt : Indexed decode net m w'.rt blocks) (hcursor : w'.rt.cursor = w.rt.cursor)
    (hname : w'.rt.persistenceCursorName = w.rt.persistenceCursorName)
    (hlogs : w'.store.rawLogs = w.store.rawLogs) (hcursors : w'.store.cursors = w.store.cursors)
    (hrebuilds : w'.store.rebuildOperations = w.store.rebuildOperations) :
    InStep decode net m name w' blocks where
  named := hname.trans h.named
  indexed := hrt
  holds := by rw [hlogs]; exact h.holds
  rebuilds := by rw [hrebuilds]; exact h.rebuilds
  fresh := by rw [hcursors, hcursor]; exact h.fresh
  stored := by rw [hcursors, hcursor]; exact h.stored

theorem applied (hbranch : Branch net (blocks ++ [block])) (htouch : Touched w.rt rt₁)
    (happly : applyBlock decode block rt₁ = (.ok (), rt₂)) (hend : Touched rt₂ rt') :
    InStep decode net m name ⟨rt', written block rt₂ w.store⟩ (blocks ++ [block]) where
  named := by
    obtain ⟨f, events, -, -, rfl⟩ := applyBlock_eq_applied happly
    rw [hend]
    rw [htouch]
    exact h.named
  indexed := h.indexed.applied hbranch htouch happly hend
  holds := by
    have hkeys : ((branchLogs (collectEmitters m) (blocks ++ [block])).map
        JournaledLog.key).Nodup := hbranch.nodup_keys
    rw [branchLogs_append, branchLogs_singleton] at hkeys ⊢
    rw [written, (h.indexed.applied hbranch htouch happly (.refl _)).emitters]
    exact h.holds.insert hkeys fun row hrow => (of_mem_journalOf hrow).isCanonical
  rebuilds := h.rebuilds
  fresh := fun hnil => by simp at hnil
  stored := by
    intro _
    have hname : rt₂.persistenceCursorName = name := by
      obtain ⟨f, events, -, -, rfl⟩ := applyBlock_eq_applied happly
      rw [htouch]
      exact h.named
    rw [← hname]
    refine ⟨_, FMap.get?_set_self _ _ _, ?_⟩
    rw [fromRuntime_cursor, hend.cursor]

/-- **A persisted tick keeps runtime and store in step.** -/
theorem tick (hserves : source.Serves net) :
    ∃ blocks', InStep decode net m name (tickAndPersist decode source later nowMs w).2 blocks' := by
  rcases htick : tickAndPersist decode source later nowMs w with ⟨r, w'⟩
  cases tickAndPersist_effect htick with
  | idle htouch hstore =>
    refine ⟨blocks, h.kept (h.indexed.touched htouch) htouch.cursor (by rw [htouch]) ?_ ?_ ?_⟩ <;>
      rw [hstore]
  | detected _ _ htouch =>
    refine ⟨blocks, h.kept (h.indexed.touched htouch) htouch.cursor ?_ rfl rfl rfl⟩
    rw [htouch]
  | failed _ _ htouch happly =>
    have hend := applyBlock_eq_error happly
    refine ⟨blocks, h.kept (h.indexed.failed htouch happly) ?_ ?_ rfl rfl rfl⟩
    · rw [hend, htouch]
    · rw [hend, htouch]
  | applied hblock hconf htouch happly hend =>
    obtain ⟨hproduced, hnum⟩ := hserves.blockAt hblock
    exact ⟨_, h.applied (h.indexed.follows hproduced hnum hconf) htouch happly hend⟩

end

end InStep

/-- One persisted tick, with what the source answers and the time. -/
def persistedStep (decode : Decoder) (net : Network) :
    Indexer → ChainSource × ChainSource × Int → Indexer → Prop :=
  stepOf (fun w call => (tickAndPersist decode call.1 call.2.1 call.2.2 w).2)
    fun _ call => call.1.Serves net

theorem InStep.run (hrun : Run (persistedStep decode net) w calls w')
    (h : ∃ blocks, InStep decode net m name w blocks) :
    ∃ blocks, InStep decode net m name w' blocks := by
  refine hrun.invariant (P := fun w => ∃ blocks, InStep decode net m name w blocks) h ?_
  rintro w₁ call w₂ ⟨blocks, h₁⟩ ⟨hserves, rfl⟩
  exact h₁.tick hserves

/-! ## The restart gives back what was stopped -/

/-- The restart returned a result that fits what had been indexed, and gave back the projection
and the cursor. -/
def Resumes (stopped : Indexer) (result : BootstrapResult) (restarted : Indexer) : Prop :=
  (match result with
    | .hydratedFromJournal .. => True
    | .restoredCursorOnly _ => stopped.rt.cursor.indexedHeadBlock = 0
    | .freshStart => stopped.rt.cursor.indexedHeadBlock = 0
    | _ => False) ∧
  restarted.rt.state = stopped.rt.state ∧ restarted.rt.cursor = stopped.rt.cursor

def LastBlockLogged (rt : IndexerRuntime) : Prop :=
  ∃ log ∈ rt.rawLogs.filter (·.isCanonical), log.blockNumber = rt.cursor.indexedHeadBlock

/-- The replay ends at the last block exactly when that left a log. -/
theorem Branch.finalHeadBlock_iff {emitters : List String} (h : Branch net blocks)
    (hne : blocks ≠ []) :
    (({} : ReplayOutcome).after (branchLogs emitters blocks)).finalHeadBlock = blocks.length ↔
      ∃ log ∈ branchLogs emitters blocks, log.blockNumber = blocks.length := by
  have hpos : 0 < blocks.length := length_pos_iff.2 hne
  cases hlast : (branchLogs emitters blocks).getLast? with
  | none =>
    rw [getLast?_eq_none_iff.1 hlast]
    simp only [ReplayOutcome.after, getLast?_nil, map_none, getD_none,
      not_mem_nil, false_and, exists_false, iff_false]
    omega
  | some last =>
    have hmem := mem_of_getLast? hlast
    simp only [ReplayOutcome.after, hlast, map_some, getD_some]
    constructor
    · exact fun heq => ⟨last, hmem, heq⟩
    rintro ⟨log, hlog, heq⟩
    obtain ⟨b, hb, -, hof⟩ := of_mem_branchLogs hmem
    have hle := (h.number_le hb).2
    rw [← hof.blockNumber] at hle
    -- no log comes after the last one
    obtain ⟨front, hfront⟩ := getLast?_eq_some_iff.1 hlast
    have horder : InChainOrder (branchLogs emitters blocks) := h.inChainOrder
    rw [hfront] at horder hlog
    rcases mem_append.1 hlog with hlog | hlog
    · have hlt := (pairwise_append.1 horder).2.2 log hlog last (by simp)
      omega
    · rw [mem_singleton.1 hlog] at heq
      exact heq

section

variable {fresh : IndexerRuntime}

/-- **What a restart does**, on a chain where it is allowed. -/
theorem InStep.restore_iff (h : InStep decode net m name w blocks) (hm : fresh.manifest = m)
    (hname : fresh.persistenceCursorName = name)
    (hstate : fresh.state = {}) (hcursor : fresh.cursor = {}) :
    Resumes w (restore decode w.store fresh).1
        { w with rt := (restore decode w.store fresh).2 } ↔
      w.rt.cursor.indexedHeadBlock = 0 ∨ LastBlockLogged w.rt := by
  by_cases hnil : blocks = []
  · subst hnil
    obtain ⟨hnone, hzero⟩ := h.fresh rfl
    have hempty : w.rt.state = {} := (some.inj h.indexed.projection).symm
    simp only [restore, hname, hnone]
    refine iff_of_true ⟨?_, ?_, ?_⟩ (.inl ?_)
    · simp [hzero]
    · rw [hempty]
      exact hstate
    · rw [hzero]
      exact hcursor
    · rw [hzero]
  obtain ⟨snap, hsnap, hsame⟩ := h.stored hnil
  have hhead : snap.indexedHeadBlock = blocks.length := by
    rw [← h.indexed.head, ← hsame]
    rfl
  have hpos : 0 < blocks.length := length_pos_iff.2 hnil
  have hjournal : w.store.readCanonicalJournal = branchLogs (collectEmitters m) blocks :=
    h.holds.readCanonicalJournal h.indexed.branch.inChainOrder
  have hreplay : replayAll decode m.eventVersion (branchLogs (collectEmitters m) blocks) =
      (({}, w.rt.state),
        ({} : ReplayOutcome).after (branchLogs (collectEmitters m) blocks)) := by
    refine replayAll_eq ?_ h.indexed.projection
    rw [canonicalLogs_of_inChainOrder] <;> rw [filter_isCanonical_branchLogs]
    exact h.indexed.branch.inChainOrder
  have hlogged : LastBlockLogged w.rt ↔
      (({} : ReplayOutcome).after (branchLogs (collectEmitters m) blocks)).finalHeadBlock =
        blocks.length := by
    rw [h.indexed.branch.finalHeadBlock_iff hnil, LastBlockLogged, h.indexed.journal,
      h.indexed.head]
  have hzero : w.rt.cursor.indexedHeadBlock ≠ 0 := by
    rw [h.indexed.head]
    omega
  simp only [restore, hname, hsnap, hhead, Nat.ne_of_gt hpos, if_false, hydrate, restoreCursor,
    hm, hjournal, hreplay, hlogged, hzero, false_or]
  split
  · rename_i hne
    exact iff_of_false (fun hres => hres.1) hne
  · rename_i heq
    refine iff_of_true ⟨trivial, rfl, hsame⟩ (Decidable.not_not.1 heq)

end

/-- **A restart gives back what was stopped exactly when the last block left a log**: after any
persisted ticks of a new deployment, for a new runtime on the same store. -/
theorem restart_iff {decode : Decoder} {net : Network} {m : ManifestParams} {maxReorgDepth : Nat}
    {cursorName : String} {calls : List (ChainSource × ChainSource × Int)} {w : Indexer}
    {fresh : IndexerRuntime}
    (hfresh : fresh =
      { new m with
        maxReorgDepth := maxReorgDepth, persistenceCursorName := cursorName })
    (hrun : Run (persistedStep decode net) { rt := fresh, store := {} } calls w) :
    Resumes w (bootstrapFromPersistence decode { rt := fresh, store := w.store }).1
        (bootstrapFromPersistence decode { rt := fresh, store := w.store }).2 ↔
      m.chainId ≠ baseMainnetChainId ∧
        (w.rt.cursor.indexedHeadBlock = 0 ∨ LastBlockLogged w.rt) := by
  subst hfresh
  obtain ⟨blocks, h⟩ := InStep.run hrun ⟨[], InStep.new decode net m maxReorgDepth cursorName⟩
  by_cases hmain : m.chainId = baseMainnetChainId
  · have hforbidden : (new m).manifest.chainId = baseMainnetChainId := hmain
    simp only [bootstrapFromPersistence, hforbidden]
    exact iff_of_false (fun hres => hres.1) fun hboth => hboth.1 hmain
  have hallowed : (new m).manifest.chainId ≠ baseMainnetChainId := hmain
  have hrebuild : w.store.readLatestRebuildOperation = none := by
    rw [ProjectionStore.readLatestRebuildOperation, h.rebuilds]
    rfl
  simp only [bootstrapFromPersistence, hallowed, hrebuild]
  exact (h.restore_iff rfl rfl rfl rfl).trans (and_iff_right hmain).symm

namespace Sample

/-- The runtime of the sample deployment. -/
def fresh : IndexerRuntime :=
  { new manifest with maxReorgDepth := 64, persistenceCursorName := "indexer" }

variable (blocks : List RawBlock)

/-- Two persisted ticks on a source that serves a branch. -/
def calls : List (ChainSource × ChainSource × Int) :=
  [(source blocks, source blocks, 0), (source blocks, source blocks, 1)]

def persisted : Indexer :=
  (calls blocks).foldl (fun w call => (tickAndPersist decode call.1 call.2.1 call.2.2 w).2)
    { rt := fresh, store := {} }

theorem run_persisted {blocks : List RawBlock} (h : Branch net blocks) :
    Run (persistedStep decode net) { rt := fresh, store := {} } (calls blocks)
      (persisted blocks) := by
  refine Run.of_foldl _ fun _ call hmem => ?_
  have hsource : call.1 = source blocks := by
    simp only [calls, mem_cons, not_mem_nil, or_false] at hmem
    rcases hmem with rfl | rfl <;> rfl
  rw [hsource]
  exact h.serves 84532 0

/-- A new runtime on the store that was left. -/
def restarted : BootstrapResult × Indexer :=
  bootstrapFromPersistence decode { rt := fresh, store := (persisted blocks).store }

end Sample

open Sample in
/-- Both blocks left a log: the restart gives everything back. -/
theorem restart_sample :
    (restarted [a1, a2]).1 = .hydratedFromJournal 2 2 ∧
    Resumes (persisted [a1, a2]) (restarted [a1, a2]).1 (restarted [a1, a2]).2 := by
  refine ⟨by decide +kernel, (restart_iff rfl (run_persisted branch_a)).2 ⟨by decide, .inr ?_⟩⟩
  exact ⟨_, (by decide +kernel : (journalRow a2 resume 0) ∈ _), by decide +kernel⟩

open Sample in
/-- **The last block is empty.**  Both ticks returned, and the restart reports that the journal
has diverged. -/
theorem restart_diverges_after_empty_block :
    Run (persistedStep Sample.decode net) { rt := fresh, store := {} } (calls [a1, e2])
      (persisted [a1, e2]) ∧
    (tickAndPersist Sample.decode (source [a1, e2]) (source [a1, e2]) 0
      { rt := fresh, store := {} }).1 = .ok true ∧
    (tickAndPersist Sample.decode (source [a1, e2]) (source [a1, e2]) 1
      (tickAndPersist Sample.decode (source [a1, e2]) (source [a1, e2]) 0
        { rt := fresh, store := {} }).2).1 = .ok true ∧
    (restarted [a1, e2]).1 =
      .diverged 2 1 "bootstrap replay diverged: expected head 2, replayed to 1" ∧
    ¬Resumes (persisted [a1, e2]) (restarted [a1, e2]).1 (restarted [a1, e2]).2 := by
  have hresult : (restarted [a1, e2]).1 =
      .diverged 2 1 "bootstrap replay diverged: expected head 2, replayed to 1" := by
    decide +kernel
  refine ⟨run_persisted branch_e, by decide +kernel, by decide +kernel, hresult, ?_⟩
  rw [hresult]
  exact fun hres => hres.1

end DeoptBackend.HybridV2
