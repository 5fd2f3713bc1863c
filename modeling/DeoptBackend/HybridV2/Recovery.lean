import DeoptBackend.HybridV2.Restart

/-!
# The persisted reorg recovery (`src/hybrid_v2/reorg_recovery.rs`)

The recovery walks from the old tip down its branch until it meets a block the source still has,
fetches the source's branch from there on, and replaces the orphaned logs in one write.  Each
phase is written to the store before the next one begins.

* `walk`, `findCommonAncestor` — the search.  Each round may be answered differently, so it reads
  from a source of its own.
* `prepare` — everything up to the write: it ends with an outcome, or with what is to be written.
* `commit` — the write.
* `recover` — the call, under the operation lock.
* `finalized_boundary_iff` — **a recovery that is written leaves finalized blocks alone exactly
  when the source answered the question what is finalized**.
-/

namespace DeoptBackend.HybridV2

open Act ProjectionStore List FMap

/-! ## Configuration, outcomes and errors -/

/-- `ReorgRecoveryConfig`, and the deployment of the service. -/
structure ReorgRecoveryConfig where
  deploymentId : Int := 1
  maxReorgDepth : Nat := 64
  maxReplacementBlocks : Nat := 256
  ancestorSearchMaxHeaders : Nat := 128
  retryMax : Nat := 5
  retryBackoffMs : Nat := 500
  allowFinalizedBoundaryCrossing : Bool := false

variable (c : ReorgRecoveryConfig)

/-- `ReorgRecoveryConfig::validate`. -/
def ReorgRecoveryConfig.validate : Except String Unit :=
  if c.maxReorgDepth < 1 ∨ 512 < c.maxReorgDepth then
    .error ("configuration error: reorg_max_depth must be within [1, 512], got " ++
      toString c.maxReorgDepth)
  else if c.maxReplacementBlocks < 1 ∨ 4096 < c.maxReplacementBlocks then
    .error ("configuration error: max_replacement_blocks must be within [1, 4096], got " ++
      toString c.maxReplacementBlocks)
  else if c.ancestorSearchMaxHeaders < 1 ∨ 1024 < c.ancestorSearchMaxHeaders then
    .error ("configuration error: ancestor_search_max_headers must be within [1, 1024], got " ++
      toString c.ancestorSearchMaxHeaders)
  else if 20 < c.retryMax then
    .error ("configuration error: retry_max must be <= 20, got " ++ toString c.retryMax)
  else if c.retryBackoffMs < 50 ∨ 60000 < c.retryBackoffMs then
    .error ("configuration error: retry_backoff_ms must be within [50, 60000], got " ++
      toString c.retryBackoffMs)
  else .ok ()

/-- `RecoveryOutcome`. -/
inductive RecoveryOutcome where
  | nothingToDo
  | recovered (epoch : Int) (replacementTip : Nat) (replacementHash : String) (orphanDepth : Nat)
  | manualInterventionRequired (epoch : Int) (reason : String)

/-- `ReorgRecoveryError`, as far as it is returned with a store that does not fail. -/
inductive ReorgRecoveryError where
  | chainSource (source : ChainSourceError)
  | persistence (detail : String)
  | stateMachine (detail : String)
  | boundExceeded (kind : String) (actual bound : Nat)
  | finalizedBoundaryViolation (ancestor finalized : Nat)
  | lockContention (deploymentId : Int)

def ReorgRecoveryError.text : ReorgRecoveryError → String
  | .chainSource e => "chain source: " ++ e.text
  | .persistence detail => "persistence: " ++ detail
  | .stateMachine detail => "state machine: " ++ detail
  | .boundExceeded kind actual bound =>
    "bounded " ++ kind ++ " exceeded: " ++ toString actual ++ " > " ++ toString bound
  | .finalizedBoundaryViolation ancestor finalized =>
    "finalized boundary violation: ancestor=" ++ toString ancestor ++ " <= finalized=" ++
      toString finalized
  | .lockContention deploymentId =>
    "lock contention (another recovery for deployment " ++ toString deploymentId ++ " in progress)"

/-- `ReorgDetection`. -/
structure ReorgDetection where
  oldTipBlock : Nat
  oldTipHash : String
  conflictingBlock : Option Nat
  conflictingHash : Option String

abbrev RecoveryCall (α : Type) : Type := Act ReorgRecoveryError ProjectionStore α

/-! ## The search for the ancestor -/

/-- `CanonicalBlockRef`: what identifies a block. -/
structure CanonicalBlockRef where
  blockNumber : Nat
  blockHash : String
  parentHash : String

def RawBlock.ref (b : RawBlock) : CanonicalBlockRef := ⟨b.number, b.hash, b.parentHash⟩

def JournaledLog.ref (log : JournaledLog) : CanonicalBlockRef :=
  ⟨log.blockNumber, log.blockHash, log.parentHash⟩

/-- The blocks of the journal by their number; the first log of a block stands for it. -/
def journalByNumber (journal : List JournaledLog) : FMap Nat CanonicalBlockRef :=
  ofPairs ((journal.filter (·.isCanonical)).reverse.map fun log => (log.blockNumber, log.ref))

variable (byNumber : FMap Nat CanonicalBlockRef)

def lastJournaled : Option CanonicalBlockRef :=
  byNumber.maxKey?.bind byNumber.get?

/-- The highest block of the journal below a number. -/
def lastBelow (n : Nat) : Option CanonicalBlockRef :=
  lastJournaled (byNumber.retain fun k => decide (k < n))

/-- A block asked for by its hash; a failed read counts as no answer. -/
def askByHash (source : ChainSource) (hash : String) : Option CanonicalBlockRef :=
  match source.blockByHash hash with
  | .ok (some b) => some b.ref
  | _ => none

def stillThere (source : ChainSource) (entry : CanonicalBlockRef) : Except ChainSourceError Bool :=
  match source.blockAt entry.blockNumber with
  | .error e => .error e
  | .ok none => .ok false
  | .ok (some remote) => .ok (hashesEq remote.hash entry.blockHash)

/-- The loop of `find_common_ancestor_with_tip`, for at most `fuel` blocks. -/
def walk (reads : Nat → ChainSource) (byNumber : FMap Nat CanonicalBlockRef) :
    Nat → Nat → Option CanonicalBlockRef → Except ChainSourceError (Option CanonicalBlockRef)
  | _, _, none => .ok none
  | 0, _, some _ => .ok none
  | fuel + 1, i, some entry =>
    match stillThere (reads i) entry with
    | .error e => .error e
    | .ok true => .ok (some entry)
    | .ok false =>
      if entry.blockNumber = 0 then .ok none
      else
        walk reads byNumber fuel (i + 1)
          ((askByHash (reads i) entry.parentHash).or (lastBelow byNumber entry.blockNumber))

/-- `find_common_ancestor_with_tip`: the head of the journal and the ancestor. -/
def findCommonAncestor (reads : Nat → ChainSource) (journal : List JournaledLog) (oldTipBlock : Nat)
    (oldTipHash : String) : Except ChainSourceError (Nat × Option CanonicalBlockRef) :=
  let byNumber := journalByNumber journal
  let canonicalHead := byNumber.maxKey?.getD oldTipBlock
  let seed := askByHash (reads 0) oldTipHash
  (walk reads byNumber c.maxReorgDepth 1 (seed.or (lastJournaled byNumber))).map
    fun ancestor => (canonicalHead, ancestor)

/-- `fetch_replacement_branch`: the `remaining` blocks from `n` on, as far as there are any. -/
def fetchReplacement (c : ReorgRecoveryConfig) (source : ChainSource) :
    Nat → Nat → String → Nat → Except ReorgRecoveryError (List RawBlock)
  | 0, _, _, _ => .ok []
  | remaining + 1, n, prevHash, count =>
    if count ≥ c.maxReplacementBlocks then
      .error (.boundExceeded "replacement_blocks" (count + 1) c.maxReplacementBlocks)
    else
      match source.blockAt n with
      | .error e => .error (.chainSource e)
      | .ok none => .ok []
      | .ok (some block) =>
        if hashesEq block.parentHash prevHash then
          (fetchReplacement c source remaining (n + 1) block.hash (count + 1)).map
            fun blocks => block :: blocks
        else
          .error (.stateMachine ("replacement block " ++ toString n ++ " parent " ++
            block.parentHash ++ " does not match previous hash " ++ prevHash))

/-! ## The phases up to the write -/

variable (row : ReorgRecoveryState)

/-- `upsert_reorg_recovery`. -/
def upsertRow : RecoveryCall Unit :=
  write fun store => { store with reorgRecovery := some row }

/-- The row is written, and the readiness it stands for is published. -/
def publishRow : RecoveryCall Unit :=
  write fun store =>
    { store with
      reorgRecovery := some row
      readiness := some (notReady row.readinessReason) }

/-- `mark_failed`. -/
def markFailed (reason : String) (nowMs : Int) : RecoveryCall Unit :=
  upsertRow
    { row with
      phase := .failed
      lastFailureDetail := some reason
      retryCount := row.retryCount + 1
      updatedAtMs := nowMs }

/-- `escalate_manual`. -/
def escalateManual (reason : String) (nowMs : Int) : RecoveryCall Unit :=
  publishRow
    { row with
      phase := .manualInterventionRequired
      lastFailureDetail := some reason
      updatedAtMs := nowMs }

/-- What is to be written. -/
structure Commitment where
  row : ReorgRecoveryState
  ancestor : CanonicalBlockRef
  orphanDepth : Nat
  journal : List JournaledLog
  replacement : List RawBlock
  head : Nat
  finalized : Nat

/-- The row a recovery begins with, if there is something to recover. -/
def startingRow (existing : Option ReorgRecoveryState) (detection : Option ReorgDetection)
    (targetEpoch nowMs : Int) : Except RecoveryOutcome ReorgRecoveryState :=
  let detected : Except RecoveryOutcome ReorgRecoveryState :=
    match detection with
    | some d => .ok (ReorgRecoveryState.newDetected targetEpoch d.oldTipBlock d.oldTipHash
        d.conflictingBlock d.conflictingHash nowMs)
    | none => .error .nothingToDo
  match existing with
  | none => detected
  | some row =>
    if row.phase.isActive then .ok row
    else if row.phase.isTerminalFailed then
      .error (.manualInterventionRequired row.recoveryEpoch
        (row.lastFailureDetail.getD "manual intervention required"))
    else detected

def fetchBranch (source : ChainSource) (nowMs : Int) (row : ReorgRecoveryState)
    (ancestor : CanonicalBlockRef) (head : Nat) : RecoveryCall (List RawBlock) :=
  if head ≤ ancestor.blockNumber then pure []
  else
    match fetchReplacement c source (head - ancestor.blockNumber) (ancestor.blockNumber + 1)
        ancestor.blockHash 0 with
    | .error e => do
        markFailed row e.text nowMs
        fail e
    | .ok blocks =>
      if blocks.length > c.maxReplacementBlocks then do
        escalateManual row ("replacement branch too long: " ++ toString blocks.length ++ " > " ++
          toString c.maxReplacementBlocks) nowMs
        fail (.boundExceeded "replacement_blocks" blocks.length c.maxReplacementBlocks)
      else pure blocks

/-- A failed read of the finalized block counts as zero. -/
def finalizedOrZero (source : ChainSource) : Nat :=
  match source.finalizedBlockNumber with
  | .ok n => n
  | .error _ => 0

/-- The finalized-boundary check. -/
def guardFinalized (finalized : Nat) (nowMs : Int) (row : ReorgRecoveryState)
    (ancestor : CanonicalBlockRef) : RecoveryCall Unit :=
  if finalized > 0 ∧ ancestor.blockNumber ≤ finalized ∧
      c.allowFinalizedBoundaryCrossing = false then do
    escalateManual row ("ancestor " ++ toString ancestor.blockNumber ++ " <= finalized " ++
      toString finalized ++ " — refusing to rewrite finalized history") nowMs
    fail (.finalizedBoundaryViolation ancestor.blockNumber finalized)
  else pure ()

/-- The row once the ancestor is known. -/
def ReorgRecoveryState.found (ancestor : CanonicalBlockRef) (orphanDepth : Nat) (nowMs : Int) :
    ReorgRecoveryState :=
  { row with
    phase := .ancestorFound
    commonAncestorBlock := some ancestor.blockNumber
    commonAncestorHash := some ancestor.blockHash
    orphanDepth := some orphanDepth
    updatedAtMs := nowMs }

/-- The part of the recovery after an ancestor was found that is not the head of the journal. -/
def prepareBranch (source : ChainSource) (nowMs : Int) (row : ReorgRecoveryState)
    (journal : List JournaledLog) (canonicalHead : Nat) (ancestor : CanonicalBlockRef) :
    RecoveryCall Commitment := do
  let orphanDepth := canonicalHead - ancestor.blockNumber
  let finalized := finalizedOrZero source
  let found := row.found ancestor orphanDepth nowMs
  let guarded := { found with finalizedAtDetection := some finalized }
  let fetching := { guarded with phase := .fetchingReplacement, updatedAtMs := nowMs }
  publishRow found
  guardFinalized c finalized nowMs guarded ancestor
  publishRow fetching
  let head ← Act.check (source.headBlockNumber.mapError .chainSource)
  let replacement ← fetchBranch c source nowMs fetching ancestor head
  pure
    { row := fetching, ancestor := ancestor, orphanDepth := orphanDepth, journal := journal,
      replacement := replacement, head := head, finalized := finalized }

/-- The journal's head is still there: there was nothing to recover. -/
def declareSpurious (nowMs : Int) (row : ReorgRecoveryState) (ancestor : CanonicalBlockRef) :
    RecoveryCall RecoveryOutcome := do
  upsertRow
    { row with
      phase := .recovered
      commonAncestorBlock := some ancestor.blockNumber
      commonAncestorHash := some ancestor.blockHash
      replacementTipBlock := some ancestor.blockNumber
      replacementTipHash := some ancestor.blockHash
      orphanDepth := some 0
      replacementBlockCount := some 0
      completedAtMs := some nowMs
      updatedAtMs := nowMs }
  pure (.recovered row.recoveryEpoch ancestor.blockNumber ancestor.blockHash 0)

/-- The recovery up to the write: it is over, or there is something to write. -/
def prepare (m : ManifestParams) (reads : Nat → ChainSource) (nowMs : Int)
    (begun : ReorgRecoveryState) : RecoveryCall (RecoveryOutcome ⊕ Commitment) := do
  let row := { begun with updatedAtMs := nowMs }
  publishRow row
  let chainId ← Act.check ((reads 0).chainId.mapError .chainSource)
  if chainId ≠ m.chainId then
    let reason := "chain id mismatch: manifest=" ++ toString m.chainId ++ ", source=" ++
      toString chainId
    escalateManual row reason nowMs
    pure (.inl (.manualInterventionRequired row.recoveryEpoch reason))
  else
    let searching := { row with phase := .searchingAncestor }
    publishRow searching
    let journal ← read readCanonicalJournal
    match findCommonAncestor c reads journal row.oldTipBlock row.oldTipHash with
    | .error e =>
      markFailed searching (ReorgRecoveryError.chainSource e).text nowMs
      fail (.chainSource e)
    | .ok (_, none) =>
      let reason := "no common ancestor within depth " ++ toString c.maxReorgDepth
      escalateManual searching reason nowMs
      pure (.inl (.manualInterventionRequired row.recoveryEpoch reason))
    | .ok (canonicalHead, some ancestor) =>
      if ancestor.blockNumber = canonicalHead then
        let outcome ← declareSpurious nowMs searching ancestor
        pure (.inl outcome)
      else
        let commitment ← prepareBranch c (reads 0) nowMs searching journal canonicalHead ancestor
        pure (.inr commitment)

/-! ## The write -/

/-- The number, hash and parent of the block the cursor is set to. -/
def Commitment.tip (k : Commitment) : CanonicalBlockRef :=
  (k.replacement.getLast?.map RawBlock.ref).getD k.ancestor

/-- `build_replacement_payload`: the rows of the replacement. -/
def Commitment.rows (m : ManifestParams) (k : Commitment) : List JournaledLog :=
  branchLogs (collectEmitters m) k.replacement

/-- `filter_canonical_up_to`. -/
def filterCanonicalUpTo (journal : List JournaledLog) (ancestorBlock : Nat) : List JournaledLog :=
  journal.filter fun log => log.isCanonical && decide (log.blockNumber ≤ ancestorBlock)

/-- `build_cursor_snapshot`. -/
def Commitment.cursor (name : String) (k : Commitment) : RuntimeCursorSnapshot where
  cursorName := name
  indexedHeadBlock := k.tip.blockNumber
  indexedHeadHash := k.tip.blockHash
  indexedHeadParent := k.tip.parentHash
  observedHeadBlock := k.head
  finalizedHeadBlock := k.finalized
  lastError := none
  reorgCount := 0
  maxReorgDepthSeen := 0
  decodeFailures := 0
  projectionFailures := 0
  unknownCanonicalEvents := 0
  lastSuccessBlock := k.tip.blockNumber

/-- The orphaned logs are marked, the new ones written, the projection replaced and the cursor
set.  The phases the row passes through on the way leave no trace but the last. -/
def commit (decode : Decoder) (m : ManifestParams) (nowMs : Int) (name : String)
    (k : Commitment) : RecoveryCall RecoveryOutcome := do
  let row :=
    { k.row with
      replacementTipBlock := some k.tip.blockNumber
      replacementTipHash := some k.tip.blockHash
      replacementBlockCount := some k.replacement.length
      updatedAtMs := nowMs }
  let replayed := replayAll decode m.eventVersion
    (filterCanonicalUpTo k.journal k.ancestor.blockNumber ++ k.rows m)
  publishRow { row with phase := .committingReplacement }
  write fun store =>
    store.commitReorgRecovery k.row.recoveryEpoch k.ancestor.blockNumber (k.rows m)
      replayed.1.2 (k.cursor name) isReady
  upsertRow { row with phase := .recovered, completedAtMs := some nowMs }
  pure (.recovered row.recoveryEpoch k.tip.blockNumber k.tip.blockHash k.orphanDepth)

section

variable (decode : Decoder) (m : ManifestParams) (reads : Nat → ChainSource) (nowMs : Int)
  (name : String)

/-- `recover_inner`. -/
def recoverInner (begun : Except RecoveryOutcome ReorgRecoveryState) :
    RecoveryCall RecoveryOutcome :=
  match begun with
  | .error outcome => pure outcome
  | .ok row => do
      match ← prepare c m reads nowMs row with
      | .inl outcome => pure outcome
      | .inr commitment => commit decode m nowMs name commitment

/-- `recover`.  The guard has the store handle attached, so the lock is released at the end. -/
def recover (detection : Option ReorgDetection) : RecoveryCall RecoveryOutcome := fun store =>
  match c.validate with
  | .error detail => (.error (.persistence detail), store)
  | .ok () =>
    let existing := store.reorgRecovery
    let targetEpoch := nextRecoveryEpoch existing
    match store.tryAcquireOperationLock .reorg targetEpoch nowMs with
    | (none, store') => (.error (.lockContention c.deploymentId), store')
    | (some guard, locked) =>
      let done := recoverInner c decode m reads nowMs name
        (startingRow existing detection targetEpoch nowMs) locked
      (done.1, { guard with attached := true }.release done.2)

end

/-! ## What is written before the write -/

/-- Everything in the store but the row, the readiness and the lock. -/
def ProjectionStore.aside (store : ProjectionStore) : ProjectionStore :=
  { store with reorgRecovery := none, readiness := none, operationLock := none }

theorem readCanonicalJournal_of_aside {store store' : ProjectionStore}
    (h : store.aside = store'.aside) :
    store.readCanonicalJournal = store'.readCanonicalJournal := by
  have hlogs : store.rawLogs = store'.rawLogs := congrArg (·.rawLogs) h
  rw [readCanonicalJournal, hlogs, readCanonicalJournal]

section
variable {c : ReorgRecoveryConfig} {row : ReorgRecoveryState} {store : ProjectionStore}

theorem upsertRow_keeps (row : ReorgRecoveryState) : (upsertRow row).Keeps aside :=
  .write fun _ => rfl

theorem publishRow_keeps (row : ReorgRecoveryState) : (publishRow row).Keeps aside :=
  .write fun _ => rfl

theorem fetchBranch_keeps (head : Nat) :
    (fetchBranch c source nowMs row ancestor head).Keeps aside := by
  unfold fetchBranch
  split
  · exact .pure _
  split
  · exact (upsertRow_keeps _).bind fun _ => .fail _
  · split
    · exact (publishRow_keeps _).bind fun _ => .fail _
    · exact .pure _

theorem guardFinalized_keeps :
    (guardFinalized c finalized nowMs row ancestor).Keeps aside := by
  unfold guardFinalized
  split
  · exact (publishRow_keeps _).bind fun _ => .fail _
  · exact .pure _

theorem prepareBranch_keeps :
    (prepareBranch c source nowMs row journal canonicalHead ancestor).Keeps aside := by
  refine (publishRow_keeps _).bind fun _ => guardFinalized_keeps.bind fun _ => ?_
  refine (publishRow_keeps _).bind fun _ => (Keeps.check _).bind fun head => ?_
  exact (fetchBranch_keeps head).bind fun _ => .pure _

/-- **Nothing but the row and the readiness is written before the write.** -/
theorem prepare_keeps : (prepare c m reads nowMs begun).Keeps aside := by
  refine (publishRow_keeps _).bind fun _ => (Keeps.check _).bind fun chainId => ?_
  split
  · exact (publishRow_keeps _).bind fun _ => .pure _
  refine (publishRow_keeps _).bind fun _ => (Keeps.read _).bind fun journal => ?_
  split
  · exact (upsertRow_keeps _).bind fun _ => .fail _
  · exact (publishRow_keeps _).bind fun _ => .pure _
  split
  · exact ((upsertRow_keeps _).bind fun _ => .pure _).bind fun _ => .pure _
  · exact prepareBranch_keeps.bind fun _ => .pure _

/-! ## What is known when there is something to write -/

theorem guardFinalized_eq_ok {finalized : Nat}
    (h : guardFinalized c finalized nowMs row ancestor store = (.ok (), store')) :
    ¬(finalized > 0 ∧ ancestor.blockNumber ≤ finalized ∧
      c.allowFinalizedBoundaryCrossing = false) := by
  intro hcross
  rw [guardFinalized, if_pos hcross] at h
  cases h

theorem prepareBranch_eq_ok
    (h : prepareBranch c source nowMs row journal canonicalHead ancestor store = (.ok k, store')) :
    k.journal = journal ∧
    ¬(finalizedOrZero source > 0 ∧ k.ancestor.blockNumber ≤ finalizedOrZero source ∧
      c.allowFinalizedBoundaryCrossing = false) := by
  obtain ⟨_, store₁, -, h⟩ := bind_eq_ok.1 h
  obtain ⟨⟨⟩, store₂, hguard, h⟩ := bind_eq_ok.1 h
  obtain ⟨_, store₃, -, h⟩ := bind_eq_ok.1 h
  obtain ⟨head, store₄, -, h⟩ := bind_eq_ok.1 h
  obtain ⟨blocks, store₅, -, h⟩ := bind_eq_ok.1 h
  cases h
  exact ⟨rfl, guardFinalized_eq_ok hguard⟩

/-- The branch is that of the journal, and its ancestor passed the check. -/
theorem prepare_eq_ok (h : prepare c m reads nowMs begun store = (.ok (.inr k), store')) :
    k.journal = store.readCanonicalJournal ∧
    ¬(finalizedOrZero (reads 0) > 0 ∧ k.ancestor.blockNumber ≤ finalizedOrZero (reads 0) ∧
      c.allowFinalizedBoundaryCrossing = false) := by
  obtain ⟨_, store₁, hfirst, h⟩ := bind_eq_ok.1 h
  obtain ⟨chainId, -, h⟩ := check_bind_eq_ok.1 h
  split at h
  · obtain ⟨_, _, -, h⟩ := bind_eq_ok.1 h
    cases h
  obtain ⟨_, store₃, hsecond, h⟩ := bind_eq_ok.1 h
  have h := read_bind_eq_ok.1 h
  have haside : store₃.aside = store.aside :=
    ((publishRow_keeps _).of_run hsecond).trans ((publishRow_keeps _).of_run hfirst)
  rw [readCanonicalJournal_of_aside haside] at h
  rcases hfind : findCommonAncestor c reads store.readCanonicalJournal begun.oldTipBlock
      begun.oldTipHash with e | ⟨canonicalHead, _ | ancestor⟩ <;> rw [hfind] at h
  · obtain ⟨_, _, -, h⟩ := bind_eq_ok.1 h
    cases h
  · obtain ⟨_, _, -, h⟩ := bind_eq_ok.1 h
    cases h
  simp only at h
  split at h
  · obtain ⟨_, _, -, h⟩ := bind_eq_ok.1 h
    cases h
  · obtain ⟨_, _, hbranch, h⟩ := bind_eq_ok.1 h
    cases h
    exact prepareBranch_eq_ok hbranch

/-! ## The call as a whole -/

/-- The call gets as far as the write. -/
def Commits (c : ReorgRecoveryConfig) (m : ManifestParams) (reads : Nat → ChainSource)
    (nowMs : Int) (detection : Option ReorgDetection) (store : ProjectionStore)
    (k : Commitment) : Prop :=
  c.validate = .ok () ∧
  ∃ guard locked begun prepared,
    store.tryAcquireOperationLock .reorg (nextRecoveryEpoch store.reorgRecovery) nowMs =
      (some guard, locked) ∧
    startingRow store.reorgRecovery detection (nextRecoveryEpoch store.reorgRecovery) nowMs =
      .ok begun ∧
    prepare c m reads nowMs begun locked = (.ok (.inr k), prepared)

/-- There is one thing to write at most. -/
theorem Commits.unique (h : Commits c m reads nowMs detection store k)
    (h' : Commits c m reads nowMs detection store k') : k = k' := by
  obtain ⟨-, guard, locked, begun, prepared, hlock, hstart, hprep⟩ := h
  obtain ⟨-, guard', locked', begun', prepared', hlock', hstart', hprep'⟩ := h'
  cases hlock.symm.trans hlock'
  cases hstart.symm.trans hstart'
  cases hprep.symm.trans hprep'
  rfl

def Commitment.replayed (m : ManifestParams) (k : Commitment) : List JournaledLog :=
  filterCanonicalUpTo k.journal k.ancestor.blockNumber ++ k.rows m

/-- What the write leaves behind. -/
structure Committed (decode : Decoder) (m : ManifestParams) (name : String) (k : Commitment)
    (store store' : ProjectionStore) : Prop where
  rawLogs : store'.rawLogs = insertRawLogs (k.rows m)
    (store.rawLogs.mapVals (orphanAbove k.ancestor.blockNumber))
  stateSnapshot : store'.stateSnapshot = some (replayAll decode m.eventVersion (k.replayed m)).1.2
  cursors : store'.cursors = store.cursors.set name (k.cursor name)
  rebuildOperations : store'.rebuildOperations = store.rebuildOperations
  recovered : ∃ row, store'.reorgRecovery = some row ∧ row.phase = .recovered

theorem tryAcquireOperationLock_some {guard : OperationLockGuard} {locked : ProjectionStore}
    (h : store.tryAcquireOperationLock operation holderEpoch nowMs = (some guard, locked)) :
    locked = { store with
      operationLock := some
        { operation := operation, holderEpoch := holderEpoch, acquiredAtMs := nowMs } } := by
  unfold tryAcquireOperationLock at h
  dsimp only at h
  split at h
  · cases h
  · cases h
    rfl

theorem release_aside (guard : OperationLockGuard) (store : ProjectionStore) :
    (guard.release store).aside = store.aside ∧
      (guard.release store).reorgRecovery = store.reorgRecovery := by
  unfold OperationLockGuard.release
  split <;> exact ⟨rfl, rfl⟩

theorem committed_of_commit (decode : Decoder) (m : ManifestParams) (nowMs : Int) (name : String)
    (k : Commitment) (haside : prepared.aside = store.aside) (guard : OperationLockGuard) :
    (commit decode m nowMs name k prepared).1 =
      .ok (.recovered k.row.recoveryEpoch k.tip.blockNumber k.tip.blockHash k.orphanDepth) ∧
    Committed decode m name k store (guard.release (commit decode m nowMs name k prepared).2) := by
  obtain ⟨hrel, hrow⟩ := release_aside guard (commit decode m nowMs name k prepared).2
  have hlogs : prepared.rawLogs = store.rawLogs := congrArg (·.rawLogs) haside
  have hcursors : prepared.cursors = store.cursors := congrArg (·.cursors) haside
  have hrebuilds : prepared.rebuildOperations = store.rebuildOperations :=
    congrArg (·.rebuildOperations) haside
  refine ⟨rfl, ?_, ?_, ?_, ?_, ?_⟩
  · rw [← hlogs]
    exact congrArg (·.rawLogs) hrel
  · exact congrArg (·.stateSnapshot) hrel
  · rw [← hcursors]
    exact congrArg (·.cursors) hrel
  · rw [← hrebuilds]
    exact congrArg (·.rebuildOperations) hrel
  · exact ⟨_, hrow, rfl⟩

theorem tryAcquireOperationLock_none
    (h : store.tryAcquireOperationLock operation holderEpoch nowMs = (none, locked)) :
    locked = store := by
  unfold tryAcquireOperationLock at h
  dsimp only at h
  split at h
  · cases h
    rfl
  · cases h

/-- What the call does between taking the lock and giving it back. -/
theorem recoverInner_cases
    (hrun : recoverInner c decode m reads nowMs name start store = (r, store')) :
    (∃ begun k prepared, start = .ok begun ∧
      prepare c m reads nowMs begun store = (.ok (.inr k), prepared) ∧
      commit decode m nowMs name k prepared = (r, store')) ∨
    (∀ begun, start = .ok begun → ∀ k, (prepare c m reads nowMs begun store).1 ≠ .ok (.inr k)) ∧
      store'.aside = store.aside := by
  rcases start with outcome | begun
  · cases hrun
    exact .inr ⟨fun begun h => (by cases h), rfl⟩
  dsimp only [recoverInner] at hrun
  rcases hprep : prepare c m reads nowMs begun store with ⟨out, prepared⟩
  have haside := prepare_keeps.of_run hprep
  rcases out with e | outcome | k
  · rw [bind_of_error hprep] at hrun
    cases hrun
    refine .inr ⟨fun _ h k hk => ?_, haside⟩
    cases h
    cases hk.symm.trans (congrArg Prod.fst hprep)
  · rw [bind_of_ok hprep] at hrun
    cases hrun
    refine .inr ⟨fun _ h k hk => ?_, haside⟩
    cases h
    cases hk.symm.trans (congrArg Prod.fst hprep)
  · rw [bind_of_ok hprep] at hrun
    exact .inl ⟨begun, k, prepared, rfl, hprep, hrun⟩

/-- **What a call does.**  It gets to the write and makes it, or it writes nothing but the row
and the readiness. -/
theorem recover_cases {r : Except ReorgRecoveryError RecoveryOutcome}
    (hrun : recover c decode m reads nowMs name detection store = (r, store')) :
    (∃ k, Commits c m reads nowMs detection store k ∧
      r = .ok (.recovered k.row.recoveryEpoch k.tip.blockNumber k.tip.blockHash k.orphanDepth) ∧
      Committed decode m name k store store') ∨
    (∀ k, ¬Commits c m reads nowMs detection store k) ∧ store'.aside = store.aside := by
  unfold recover at hrun
  rcases hvalid : c.validate with detail | ⟨⟩
  · rw [hvalid] at hrun
    cases hrun
    refine .inr ⟨fun k hk => ?_, rfl⟩
    cases hvalid.symm.trans hk.1
  rw [hvalid] at hrun
  dsimp only at hrun
  rcases hlock : store.tryAcquireOperationLock .reorg (nextRecoveryEpoch store.reorgRecovery)
      nowMs with ⟨_ | guard, locked⟩
  · rw [hlock] at hrun
    obtain rfl := tryAcquireOperationLock_none hlock
    cases hrun
    refine .inr ⟨?_, rfl⟩
    rintro k ⟨-, _, _, _, _, hgot, -⟩
    cases hlock.symm.trans hgot
  rw [hlock] at hrun
  dsimp only at hrun
  have haside : locked.aside = store.aside := by
    rw [tryAcquireOperationLock_some hlock]
    rfl
  rcases hinner : recoverInner c decode m reads nowMs name
    (startingRow store.reorgRecovery detection (nextRecoveryEpoch store.reorgRecovery) nowMs)
    locked with ⟨r', done⟩
  rw [hinner] at hrun
  obtain ⟨rfl, rfl⟩ := Prod.mk.inj hrun
  rcases recoverInner_cases hinner with
    ⟨begun, k, prepared, hstart, hprep, hcommit⟩ | ⟨hnot, hkept⟩
  · have hprepared := (prepare_keeps.of_run hprep).trans haside
    have hdone := committed_of_commit decode m nowMs name k hprepared
      { guard with attached := true }
    rw [hcommit] at hdone
    exact .inl ⟨k, ⟨hvalid, guard, locked, begun, prepared, hlock, hstart, hprep⟩, hdone⟩
  · refine .inr ⟨?_, (release_aside _ done).1.trans (hkept.trans haside)⟩
    rintro k ⟨-, guard', locked', begun, prepared, hgot, hstart, hprep⟩
    cases hlock.symm.trans hgot
    exact hnot begun hstart k (congrArg Prod.fst hprep)

theorem Commits.prepared (h : Commits c m reads nowMs detection store k) :
    k.journal = store.readCanonicalJournal ∧
    ¬(finalizedOrZero (reads 0) > 0 ∧ k.ancestor.blockNumber ≤ finalizedOrZero (reads 0) ∧
      c.allowFinalizedBoundaryCrossing = false) := by
  obtain ⟨-, guard, locked, begun, prepared, hlock, -, hprep⟩ := h
  have hready := prepare_eq_ok hprep
  rwa [tryAcquireOperationLock_some hlock] at hready

/-! ## Finalized blocks -/

/-- Up to the block `fin`, the journal and what it does to the projection are left alone. -/
structure KeepsFinalized (decode : Decoder) (m : ManifestParams) (fin : Nat) (k : Commitment)
    (store store' : ProjectionStore) : Prop where
  ancestor : fin ≤ k.ancestor.blockNumber
  rows : ∀ {key log}, store.rawLogs.get? key = some log → log.isCanonical = true →
    log.blockNumber ≤ fin → ∃ log', store'.rawLogs.get? key = some log' ∧ log'.isCanonical = true
  projection : ∃ rest, store'.stateSnapshot = some (replayAll decode m.eventVersion
    (store.readCanonicalJournal.filter (fun log => decide (log.blockNumber ≤ fin)) ++ rest)).1.2

/-- In the order of the chain, the rows up to a lower block come first. -/
theorem filter_le_of_before {logs : List JournaledLog} (h : logs.Pairwise JournaledLog.Before)
    (hle : low ≤ high) : logs.filter (fun log => decide (log.blockNumber ≤ high)) =
      logs.filter (fun log => decide (log.blockNumber ≤ low)) ++
        logs.filter (fun log => decide (low < log.blockNumber ∧ log.blockNumber ≤ high)) := by
  induction logs with
  | nil => rfl
  | cons log logs ih =>
    rw [pairwise_cons] at h
    by_cases hlow : log.blockNumber ≤ low
    · have hnot : ¬(low < log.blockNumber ∧ log.blockNumber ≤ high) := by omega
      rw [filter_cons, filter_cons, filter_cons,
        if_pos (decide_eq_true (hlow.trans hle)), if_pos (decide_eq_true hlow),
        if_neg (by simpa using hnot), ih h.2, cons_append]
    -- nothing that follows is low either
    have hnone : (log :: logs).filter (fun log => decide (log.blockNumber ≤ low)) = [] := by
      rw [filter_eq_nil_iff]
      intro x hx hxlow
      rcases mem_cons.1 hx with rfl | hx
      · exact hlow (of_decide_eq_true hxlow)
      have hbefore := h.1 x hx
      have hxle := of_decide_eq_true hxlow
      simp only [JournaledLog.Before] at hbefore
      omega
    rw [hnone, nil_append]
    refine filter_congr fun x hx => ?_
    have hxlow := filter_eq_nil_iff.1 hnone x hx
    simp only [decide_eq_true_eq] at hxlow
    simp only [decide_eq_decide]
    omega

theorem filterCanonicalUpTo_readCanonicalJournal (store : ProjectionStore) (ancestor : Nat) :
    filterCanonicalUpTo store.readCanonicalJournal ancestor =
      store.readCanonicalJournal.filter (fun log => decide (log.blockNumber ≤ ancestor)) := by
  refine filter_congr fun log hlog => ?_
  have hmem := (mem_insertionSort _).1 hlog
  rw [(mem_filter.1 hmem).2, Bool.true_and]

theorem exists_get?_insertRawLogs (rows : List JournaledLog)
    {rawLogs : FMap (String × String × Nat) JournaledLog} (h : rawLogs.get? key = some log) :
    ∃ log', (insertRawLogs rows rawLogs).get? key = some log' ∧
      (log' = log ∨ ∃ row ∈ rows, log' = row) :=
  exists_get?_setAll h

/-- A row at or below the ancestor is canonical afterwards. -/
theorem Committed.rows_kept (h : Committed decode m name k store store')
    {key : String × String × Nat} (hget : store.rawLogs.get? key = some log)
    (hcanon : log.isCanonical = true) (hle : log.blockNumber ≤ k.ancestor.blockNumber) :
    ∃ log', store'.rawLogs.get? key = some log' ∧ log'.isCanonical = true := by
  have hkept : orphanAbove k.ancestor.blockNumber log = log := by
    rw [orphanAbove, if_neg]
    simpa [hcanon] using hle
  have hold : (store.rawLogs.mapVals (orphanAbove k.ancestor.blockNumber)).get? key = some log := by
    rw [get?_mapVals, hget, Option.map_some, hkept]
  obtain ⟨log', hget', hlog'⟩ := exists_get?_insertRawLogs (k.rows m) hold
  rw [h.rawLogs]
  refine ⟨log', hget', ?_⟩
  rcases hlog' with rfl | ⟨row, hrow, rfl⟩
  · exact hcanon
  · obtain ⟨_, -, -, hof⟩ := of_mem_branchLogs hrow
    exact hof.isCanonical

/-- What lies at or below the ancestor is left alone. -/
theorem Committed.keepsFinalized (h : Committed decode m name k store store')
    (hjournal : k.journal = store.readCanonicalJournal) {fin : Nat}
    (hle : fin ≤ k.ancestor.blockNumber) : KeepsFinalized decode m fin k store store' where
  ancestor := hle
  rows := fun hget hcanon hfin => h.rows_kept hget hcanon (hfin.trans hle)
  projection := by
    have hbefore : store.readCanonicalJournal.Pairwise JournaledLog.Before :=
      pairwise_insertionSort _ _
    have hstate := h.stateSnapshot
    rw [Commitment.replayed, hjournal, filterCanonicalUpTo_readCanonicalJournal,
      filter_le_of_before hbefore hle, append_assoc] at hstate
    exact ⟨_, hstate⟩

/-- **The finalized boundary.**  Where crossing is not allowed, a recovery that is written leaves
everything up to the finalized block alone, whatever that block is, exactly when the source
answered the question what it is; a failed answer counts as zero, and then nothing is protected.
A call that does not get to the write changes neither the logs nor the projection. -/
theorem finalized_boundary_iff (c : ReorgRecoveryConfig)
    (hoff : c.allowFinalizedBoundaryCrossing = false) (decode : Decoder) (m : ManifestParams)
    (reads : Nat → ChainSource) (nowMs : Int) (name : String)
    (detection : Option ReorgDetection) (store : ProjectionStore) :
    (∀ k, Commits c m reads nowMs detection store k →
      ((∀ fin, (∀ n, (reads 0).finalizedBlockNumber = .ok n → n = fin) →
          KeepsFinalized decode m fin k store
            (recover c decode m reads nowMs name detection store).2) ↔
        ∃ n, (reads 0).finalizedBlockNumber = .ok n)) ∧
    ((∀ k, ¬Commits c m reads nowMs detection store k) →
      (recover c decode m reads nowMs name detection store).2.rawLogs = store.rawLogs ∧
      (recover c decode m reads nowMs name detection store).2.stateSnapshot =
        store.stateSnapshot) := by
  rcases hrun : recover c decode m reads nowMs name detection store with ⟨r, store'⟩
  rcases recover_cases hrun with ⟨k', hk', -, hwritten⟩ | hidle
  · refine ⟨fun k hk => ?_, fun hnone => absurd hk' (hnone k')⟩
    obtain rfl : k' = k := hk'.unique hk
    obtain ⟨hjournal, hguard⟩ := hk.prepared
    constructor
    · intro hkeeps
      by_contra hunknown
      have habove := (hkeeps (k'.ancestor.blockNumber + 1) fun n hn =>
        absurd ⟨n, hn⟩ hunknown).ancestor
      omega
    · rintro ⟨n, hn⟩ fin hfin
      obtain rfl := hfin n hn
      refine hwritten.keepsFinalized hjournal ?_
      simp only [finalizedOrZero, hn, hoff, and_true] at hguard
      omega
  · refine ⟨fun k hk => absurd hk (hidle.1 k), fun _ => ⟨?_, ?_⟩⟩
    · exact congrArg (·.rawLogs) hidle.2
    · exact congrArg (·.stateSnapshot) hidle.2

end

namespace Sample

/-- The store with the rows of a branch. -/
def storeOf (blocks : List RawBlock) : ProjectionStore :=
  { rawLogs := insertRawLogs (branchLogs (collectEmitters manifest) blocks) ∅ }

/-- The recovery from a tip, with a source that serves a branch. -/
def recovered (source : ChainSource) (old : List RawBlock) (tip : RawBlock) :
    Except ReorgRecoveryError RecoveryOutcome × ProjectionStore :=
  recover {} decode manifest (fun _ => source) 0 "main"
    (some ⟨tip.number, tip.hash, none, none⟩) (storeOf old)

/-- The second block is finalized, and the source does not say so. -/
def silent : ChainSource := { source [a1, b2, b3] with finalizedBlockNumber := .error .timeout }

/-- A call that changes a row has made the write. -/
theorem commits (source : ChainSource) (old : List RawBlock) (tip : RawBlock)
    (key : String × String × Nat)
    (h : (recovered source old tip).2.rawLogs.get? key ≠ (storeOf old).rawLogs.get? key) :
    ∃ k, Commits {} manifest (fun _ => source) 0 (some ⟨tip.number, tip.hash, none, none⟩)
      (storeOf old) k := by
  rcases hrun : recovered source old tip with ⟨r, store'⟩
  rw [hrun] at h
  rcases recover_cases hrun with ⟨k, hk, -⟩ | hidle
  · exact ⟨k, hk⟩
  · exact absurd (congrArg (·.rawLogs.get? key) hidle.2) h

end Sample

open Sample in
/-- The third block is replaced, and the first one, which is finalized, is left alone. -/
theorem finalized_boundary_sample :
    (∃ k, Commits {} manifest (fun _ => ChainSource.ofChain 84532 1 [a1, b2, b3]) 0
      (some ⟨3, "0xf3", none, none⟩) (storeOf [a1, b2, f3]) k) ∧
    ∀ k, Commits {} manifest (fun _ => ChainSource.ofChain 84532 1 [a1, b2, b3]) 0
        (some ⟨3, "0xf3", none, none⟩) (storeOf [a1, b2, f3]) k →
      KeepsFinalized decode manifest 1 k (storeOf [a1, b2, f3])
        (recovered (.ofChain 84532 1 [a1, b2, b3]) [a1, b2, f3] f3).2 := by
  refine ⟨commits _ _ f3 ("0xf3", "0xf3::tx", 0) (by decide +kernel), fun k hk => ?_⟩
  refine (((finalized_boundary_iff {} rfl decode manifest
    (fun _ => ChainSource.ofChain 84532 1 [a1, b2, b3]) 0 "main" _ _).1 k hk).2 ⟨1, rfl⟩) 1 ?_
  rintro n ⟨⟩
  rfl

open Sample in
/-- The source does not answer what is finalized, and the finalized second block is replaced. -/
theorem finalized_block_orphaned : (∀ n, silent.finalizedBlockNumber = .ok n → n = 2) ∧
    ∃ k, Commits {} manifest (fun _ => silent) 0 (some ⟨2, "0xa2", none, none⟩)
        (storeOf [a1, a2]) k ∧
      ¬KeepsFinalized decode manifest 2 k (storeOf [a1, a2]) (recovered silent [a1, a2] a2).2 := by
  refine ⟨fun n hn => (by cases hn), ?_⟩
  obtain ⟨k, hk⟩ := commits silent [a1, a2] a2 ("0xa2", "0xa2::tx", 0) (by decide +kernel)
  refine ⟨k, hk, fun hkeeps => ?_⟩
  have hbefore : ((storeOf [a1, a2]).rawLogs.get? ("0xa2", "0xa2::tx", 0)).any
      (fun log => log.isCanonical && decide (log.blockNumber ≤ 2)) = true := by decide +kernel
  have hafter : ((recovered silent [a1, a2] a2).2.rawLogs.get? ("0xa2", "0xa2::tx", 0)).all
      (fun log => !log.isCanonical) = true := by decide +kernel
  obtain ⟨log, hget, hlog⟩ := (Option.any_eq_true _ _).1 hbefore
  obtain ⟨hcanon, hle⟩ := Bool.and_eq_true_iff.1 hlog
  obtain ⟨log', hget', hcanon'⟩ := hkeeps.rows hget hcanon (of_decide_eq_true hle)
  rw [hget', Option.all_some, hcanon'] at hafter
  cases hafter

end DeoptBackend.HybridV2
