import DeoptBackend.HybridV2.Reducer

/-!
# The chain as the indexer sees it (`src/hybrid_v2/chain_source.rs`, `runtime.rs`)

Blocks come from a source that is asked for one of them at a time and may fail.  The logs of
a block that one of the deployment's contracts emitted are copied into a journal; everything
else the indexer keeps is computed from that journal.

* `RawBlock`, `ChainSource` — a block and a source of blocks.
* `JournaledLog`, `journalOf` — a row of the journal, and the rows a block leaves in it.
* `Decoder` — the decoder of logs.  Nothing in the indexer depends on how it works, so it is
  a parameter throughout.
* `Network` — the assumption the indexer rests on: a hash stands for one block.
-/

namespace DeoptBackend.HybridV2

/-! ## Blocks and sources -/

/-- `CanonicalRawLog`. -/
structure CanonicalRawLog where
  emitter : String
  topics : List (List Nat)
  data : List Nat
  deriving DecidableEq

/-- `RawBlock`. -/
structure RawBlock where
  number : Nat
  hash : String
  parentHash : String
  timestamp : Nat
  logs : List CanonicalRawLog
  deriving DecidableEq

/-- `ChainSourceError`. -/
inductive ChainSourceError where
  | transport (detail : String)
  | timeout
  | rateLimited
  | serverError (status : Nat)
  | malformed (detail : String)
  | rpcError (code : Int) (message : String)
  | unsupported (detail : String)
  | cancelled
  deriving DecidableEq

def ChainSourceError.text : ChainSourceError → String
  | .transport detail => "transport: " ++ detail
  | .timeout => "timeout"
  | .rateLimited => "rate-limited (HTTP 429)"
  | .serverError status => "provider server error (HTTP " ++ toString status ++ ")"
  | .malformed detail => "malformed response: " ++ detail
  | .rpcError code message => "json-rpc error " ++ toString code ++ ": " ++ message
  | .unsupported detail => "unsupported: " ++ detail
  | .cancelled => "cancelled"

/-- `ChainSource`: what a source answers at some moment. -/
structure ChainSource where
  chainId : Except ChainSourceError Nat
  headBlockNumber : Except ChainSourceError Nat
  finalizedBlockNumber : Except ChainSourceError Nat
  blockAt : Nat → Except ChainSourceError (Option RawBlock)
  blockByHash : String → Except ChainSourceError (Option RawBlock)

/-- `DecoderError`. -/
inductive DecoderError where
  | noTopics
  | unknownTopic (topic0 : String)
  | unimplementedForVariant (event : String)
  | indexedTopicCountMismatch (event : String) (expected actual : Nat)
  | dataTooShort (event : String) (need got : Nat)
  | eventVersionMismatch (event : String) (expected actual : Nat)
  | wrongEmitter (event expected actual : String)
  deriving DecidableEq

/-- `decode_log_with(log, None, version)`. -/
abbrev Decoder : Type := CanonicalRawLog → Nat → Except DecoderError HybridV2Event

/-! ## The manifest (`src/hybrid_v2/manifest.rs`) -/

/-- `BASE_MAINNET_CHAIN_ID`. -/
def baseMainnetChainId : Nat := 8453

/-- The addresses of the manifest whose logs are indexed. -/
structure ManifestModuleAddresses where
  subaccountRegistry : String
  collateralVault : String
  optionsPositionsLedger : String
  riskModule : String
  marginEngine : String
  optionMatchingEngine : String
  escapeController : String
  recoveryFinalizer : String
  feesManagerV2 : Option String
  optionExecutionFeeAdapter : Option String

/-- The part of `ManifestParams` the indexer reads. -/
structure ManifestParams where
  chainId : Nat
  manifestAddress : String
  eventVersion : Nat
  moduleAddresses : ManifestModuleAddresses

/-- `collect_emitters`: the set as a list. -/
def collectEmitters (manifest : ManifestParams) : List String :=
  let m := manifest.moduleAddresses
  ([m.subaccountRegistry, m.collateralVault, m.optionsPositionsLedger, m.riskModule,
      m.marginEngine, m.optionMatchingEngine, m.escapeController, m.recoveryFinalizer] ++
    m.feesManagerV2.toList ++ m.optionExecutionFeeAdapter.toList ++
    [manifest.manifestAddress]).map toAsciiLowercase

/-- The emitter filter: the contract is one of the deployment's. -/
def CanonicalRawLog.emittedBy (log : CanonicalRawLog) (emitters : List String) : Bool :=
  emitters.contains (toAsciiLowercase log.emitter)

/-! ## The journal (`src/hybrid_v2/runtime.rs`) -/

/-- `JournaledLog`. -/
structure JournaledLog where
  blockNumber : Nat
  blockHash : String
  parentHash : String
  blockTimestamp : Nat
  txHash : String
  txIndex : Nat
  logIndex : Nat
  emitter : String
  topics : List (List Nat)
  data : List Nat
  isCanonical : Bool
  orphanedAtBlock : Option Nat
  deriving DecidableEq

/-- The context the reducer is given for a journaled log. -/
def JournaledLog.ctx (log : JournaledLog) : ApplyContext where
  blockNumber := log.blockNumber
  txHash := log.txHash
  logIndex := log.logIndex
  blockTimestamp := log.blockTimestamp

def JournaledLog.raw (log : JournaledLog) : CanonicalRawLog where
  emitter := log.emitter
  topics := log.topics
  data := log.data

/-- `tx_hash_for_log`: one synthetic transaction for each block, named after its hash. -/
def txHashForLog (block : RawBlock) (_logIndex : Nat) : String := block.hash ++ "::tx"

def journalRow (block : RawBlock) (log : CanonicalRawLog) (idx : Nat) : JournaledLog where
  blockNumber := block.number
  blockHash := block.hash
  parentHash := block.parentHash
  blockTimestamp := block.timestamp
  txHash := txHashForLog block idx
  txIndex := 0
  logIndex := idx
  emitter := log.emitter
  topics := log.topics
  data := log.data
  isCanonical := true
  orphanedAtBlock := none

/-- The rows of the logs from a place in the block on. -/
def journalFrom (emitters : List String) (block : RawBlock) :
    List CanonicalRawLog → Nat → List JournaledLog
  | [], _ => []
  | log :: logs, idx =>
    if log.emittedBy emitters then
      journalRow block log idx :: journalFrom emitters block logs (idx + 1)
    else journalFrom emitters block logs (idx + 1)

def journalOf (emitters : List String) (block : RawBlock) : List JournaledLog :=
  journalFrom emitters block block.logs 0

/-- Everything in a row except its place and contents is the block's. -/
structure JournaledLog.Of (log : JournaledLog) (block : RawBlock) : Prop where
  blockNumber : log.blockNumber = block.number
  blockHash : log.blockHash = block.hash
  parentHash : log.parentHash = block.parentHash
  txHash : log.txHash = block.hash ++ "::tx"
  isCanonical : log.isCanonical = true

theorem journalFrom_of (h : log ∈ journalFrom emitters block logs idx) :
    log.Of block ∧ idx ≤ log.logIndex := by
  induction logs generalizing idx with
  | nil => cases h
  | cons raw logs ih =>
    simp only [journalFrom] at h
    split at h
    · rcases List.mem_cons.1 h with rfl | h
      · exact ⟨⟨rfl, rfl, rfl, rfl, rfl⟩, Nat.le_refl _⟩
      · exact ⟨(ih h).1, Nat.le_of_succ_le (ih h).2⟩
    · exact ⟨(ih h).1, Nat.le_of_succ_le (ih h).2⟩

theorem of_mem_journalOf (h : log ∈ journalOf emitters block) :
    log.Of block := (journalFrom_of h).1

/-- Within a block the places are increasing. -/
theorem journalFrom_pairwise (logs : List CanonicalRawLog) (idx : Nat) :
    (journalFrom emitters block logs idx).Pairwise fun a b => a.logIndex < b.logIndex := by
  induction logs generalizing idx with
  | nil => exact List.Pairwise.nil
  | cons raw logs ih =>
    simp only [journalFrom]
    split
    · exact List.pairwise_cons.2 ⟨fun log h => (journalFrom_of h).2, ih (idx + 1)⟩
    · exact ih (idx + 1)

/-! ## Hashes -/

/-- `parents_match`, `hashes_eq`. -/
def hashesEq (a b : String) : Bool := eqIgnoreAsciiCase a b

theorem hashesEq_refl (a : String) : hashesEq a a = true := by
  simp [hashesEq, eqIgnoreAsciiCase]

theorem hashesEq_comm (a b : String) : hashesEq a b = hashesEq b a := by
  exact decide_eq_decide.2 eq_comm

theorem hashesEq_trans (hab : hashesEq a b = true) (hbc : hashesEq b c = true) :
    hashesEq a c = true := by
  simp only [hashesEq, eqIgnoreAsciiCase, decide_eq_true_eq] at *
  exact hab.trans hbc

/-- The blocks a network ever produced, on all its branches.  A block commits to its height, so
**blocks of different heights have different hashes**. -/
structure Network where
  /-- The block was produced at some time, on some branch. -/
  Produced : RawBlock → Prop
  hash_number : ∀ {b b' : RawBlock}, Produced b → Produced b' → b.hash = b'.hash →
    b.number = b'.number

/-- A hash stands for one block, in whatever case it is written. -/
def Network.Faithful (net : Network) : Prop :=
  ∀ {b b' : RawBlock}, net.Produced b → net.Produced b' → hashesEq b.hash b'.hash = true → b = b'

/-- The source answers with blocks of the network, and with the one it was asked for. -/
structure ChainSource.Serves (source : ChainSource) (net : Network) : Prop where
  blockAt : ∀ {n b}, source.blockAt n = .ok (some b) → net.Produced b ∧ b.number = n
  blockByHash : ∀ {h b}, source.blockByHash h = .ok (some b) →
    net.Produced b ∧ hashesEq b.hash h = true

/-- Blocks of different heights journal under different transactions. -/
theorem Network.txHash_ne (net : Network) (hb : net.Produced b) (hb' : net.Produced b')
    (hne : b.number ≠ b'.number) : b.hash ++ "::tx" ≠ b'.hash ++ "::tx" := by
  intro heq
  exact hne (net.hash_number hb hb' ((String.append_left_inj _).1 heq))

end DeoptBackend.HybridV2
