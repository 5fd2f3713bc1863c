import DeoptBackend.Lib.Run
import DeoptBackend.HybridV2.Branch

/-!
# What the indexer has indexed

Whatever ticks it made, the indexer stands at the end of a branch of the network: its cursor is
the branch's last block, its canonical journal the branch's logs and its projection the one
these lead to.

* `Indexed` — that invariant, with a lemma for each thing a tick can do.
* `Indexed.replayAll` — the rebuild of the journal therefore gives the live projection.
* `live_projection_eq_replay` — for whole runs of ticks.
-/

namespace DeoptBackend.HybridV2

open IndexerRuntime List ReorgPlanner FMap

/-- The runtime stands at the end of a branch. -/
structure Indexed (decode : Decoder) (net : Network) (m : ManifestParams) (rt : IndexerRuntime)
    (blocks : List RawBlock) : Prop where
  manifest : rt.manifest = m
  emitters : rt.emitters = collectEmitters m
  branch : Branch net blocks
  cursor : (rt.cursor.indexedHeadBlock, rt.cursor.indexedHeadHash, rt.cursor.indexedHeadParent) =
    tip blocks
  journal : rt.rawLogs.filter (·.isCanonical) = branchLogs (collectEmitters m) blocks
  projection : projectionOf decode m.eventVersion (branchLogs (collectEmitters m) blocks) =
    some rt.state
  correlator : rt.correlator = {}

section

variable {manifest : ManifestParams}

theorem tip_snoc (blocks : List RawBlock) (b : RawBlock) :
    tip (blocks ++ [b]) = (b.number, b.hash, b.parentHash) := by
  simp [tip]

/-- **The projection grows block by block.** -/
theorem Branch.projectionOf_snoc {emitters : List String} (h : Branch net (blocks ++ [block])) :
    projectionOf decode version (branchLogs emitters (blocks ++ [block])) =
      (projectionOf decode version (branchLogs emitters blocks)).bind fun state =>
        projectionFrom decode version state (journalOf emitters block) := by
  rw [branchLogs_append, branchLogs_singleton]
  have hnum : block.number = blocks.length + 1 := h.numbered (i := blocks.length) (by simp)
  have hown : ∀ log ∈ journalOf emitters block, log.txHash = block.hash ++ "::tx" :=
    fun log hlog => (of_mem_journalOf hlog).txHash
  refine projectionOf_append hown ?_
  -- an earlier block has another height, hence another hash
  intro log hlog
  obtain ⟨b, hb, -, hof⟩ := of_mem_branchLogs hlog
  obtain ⟨i, hi⟩ := mem_iff_getElem?.1 hb
  have hlt := (List.getElem?_eq_some_iff.1 hi).1
  have hnum' : b.number = i + 1 := h.numbered (by rw [getElem?_append_left hlt, hi])
  rw [hof.txHash]
  exact net.txHash_ne (h.produced b (by simp [hb])) (h.produced block (by simp)) (by omega)

namespace Indexed

theorem new (decode : Decoder) (net : Network) (manifest : ManifestParams) (d : Nat) :
    Indexed decode net manifest { new manifest with maxReorgDepth := d } [] where
  manifest := rfl
  emitters := rfl
  branch := Branch.nil
  cursor := rfl
  journal := rfl
  projection := rfl
  correlator := rfl

section

variable (h : Indexed decode net manifest rt blocks)
include h

theorem head : rt.cursor.indexedHeadBlock = blocks.length := by
  rw [← h.branch.tip_fst, ← h.cursor]

/-- **The rebuild gives the live projection.** -/
theorem replayAll : HybridV2.replayAll decode manifest.eventVersion rt.rawLogs = (({}, rt.state),
        ({} : ReplayOutcome).after (branchLogs (collectEmitters manifest) blocks)) := by
  refine replayAll_eq ?_ h.projection
  rw [← h.journal]
  refine canonicalLogs_of_inChainOrder ?_
  rw [h.journal]
  exact h.branch.inChainOrder

theorem touched (htouch : Touched rt rt') : Indexed decode net manifest rt' blocks := by
  rw [htouch]
  exact { h with }

theorem follows (hproduced : net.Produced block)
    (hnum : block.number = rt.cursor.indexedHeadBlock + 1)
    (hconf : rt.conflicts block = false) : Branch net (blocks ++ [block]) := by
  refine h.branch.snoc hproduced (by rw [hnum, h.head]) ?_
  intro p hp
  have hcursor := h.cursor
  simp only [tip, hp, Prod.mk.injEq] at hcursor
  have hpos : 0 < rt.cursor.indexedHeadBlock := by
    rw [h.head]
    exact length_pos_of_mem (mem_of_getLast? hp)
  simpa [conflicts, hpos, hcursor.2.1] using hconf

theorem applied (hbranch : Branch net (blocks ++ [block])) (htouch : Touched rt rt₁)
    (happly : applyBlock decode block rt₁ = (.ok (), rt₂)) (hend : Touched rt₂ rt') :
    Indexed decode net manifest rt' (blocks ++ [block]) := by
  have h₁ := h.touched htouch
  obtain ⟨state, events, -, hstate, rfl⟩ := applyBlock_eq_ok happly h₁.correlator
  rw [h₁.manifest, h₁.emitters] at hstate
  refine Indexed.touched ?_ hend
  exact {
    manifest := h₁.manifest
    emitters := h₁.emitters
    branch := hbranch
    cursor := (tip_snoc blocks block).symm
    journal := by
      have hrows : (journalOf rt₁.emitters block).filter (·.isCanonical) =
          journalOf rt₁.emitters block :=
        filter_eq_self.2 fun log hlog => (of_mem_journalOf hlog).isCanonical
      rw [branchLogs_append, branchLogs_singleton, ← h₁.journal, ← h₁.emitters]
      simp [IndexerRuntime.applied, hrows]
    projection := by
      rw [hbranch.projectionOf_snoc, h₁.projection, Option.bind_some, hstate]
      rfl
    correlator := rfl }

theorem failed (htouch : Touched rt rt₁) (happly : applyBlock decode block rt₁ = (.error e, rt')) :
    Indexed decode net manifest rt' blocks := by
  have h₁ := h.touched htouch
  rw [applyBlock_eq_error happly]
  exact { h₁ with correlator := rfl }

end

end Indexed

/-! ## The rewind -/

/-- The rewind takes logs that go through as the replay does. -/
theorem rewindLogs_of_takeAll (events : List (HybridV2Event × ApplyContext))
    (h : Fold.takeAll decode version f logs = some f') :
    (logs.foldl (rewindLog decode version) (f, events)).1 = f' := by
  induction logs generalizing f events with
  | nil => cases h; rfl
  | cons log logs ih =>
    obtain ⟨f₁, hfirst, hrest⟩ := Option.bind_eq_some_iff.1 h
    obtain ⟨event, state, hdecode, happly, rfl⟩ := Fold.take_eq_some hfirst
    rw [foldl_cons]
    simp only [rewindLog, hdecode, happly]
    exact ih _ hrest

theorem filter_isCanonical_orphan (a : Nat) (orphaned : List Nat) (journal : List JournaledLog) :
    (journal.map (orphan a orphaned)).filter (·.isCanonical) =
      (journal.filter (·.isCanonical)).filter fun log => !orphaned.contains log.blockNumber := by
  induction journal with
  | nil => rfl
  | cons log journal ih =>
    rw [map_cons]
    by_cases horphan : log.blockNumber ∈ orphaned
    · have hgone : (orphan a orphaned log).isCanonical = false := by simp [orphan, horphan]
      rw [filter_cons_of_neg (by simp [hgone]), ih]
      cases hcanon : log.isCanonical with
      | true => rw [filter_cons_of_pos hcanon, filter_cons_of_neg (by simp [horphan])]
      | false => rw [filter_cons_of_neg (by simp [hcanon])]
    · have hkept : orphan a orphaned log = log := by simp [orphan, horphan]
      rw [hkept]
      cases hcanon : log.isCanonical with
      | true =>
        rw [filter_cons_of_pos hcanon, filter_cons_of_pos hcanon,
          filter_cons_of_pos (by simp [horphan]), ih]
      | false =>
        rw [filter_cons_of_neg (by simp [hcanon]),
          filter_cons_of_neg (by simp [hcanon]), ih]

theorem Branch.canonicalHashes {emitters : List String} {hash : String} (h : Branch net blocks)
    (hjournal : journal.filter (·.isCanonical) = branchLogs emitters blocks)
    (hget : (canonicalHashes journal).get? n = some hash) :
    ∃ k b, n = k + 1 ∧ blocks[k]? = some b ∧ b.hash = hash ∧ journalOf emitters b ≠ [] := by
  rw [ReorgPlanner.canonicalHashes, hjournal] at hget
  obtain ⟨log, hlog, heq⟩ := mem_map.1 (mem_of_get?_ofPairs hget)
  obtain ⟨b, hb, hmem, hof⟩ := of_mem_branchLogs hlog
  cases heq
  obtain ⟨k, hk⟩ := mem_iff_getElem?.1 hb
  exact ⟨k, b, by rw [hof.blockNumber, h.numbered hk], hk, hof.blockHash.symm,
    ne_nil_of_mem hmem⟩

/-- The last row of a branch is the last block's, if that left one. -/
theorem getLast?_branchLogs {emitters : List String} (h : journalOf emitters block ≠ []) :
    ∃ log, (branchLogs emitters (blocks ++ [block])).getLast? = some log ∧ log.Of block := by
  rw [branchLogs_append, branchLogs_singleton, getLast?_append_of_ne_nil _ h]
  have hlog := getLast?_eq_some_getLast h
  exact ⟨_, hlog, of_mem_journalOf (mem_of_getLast? hlog)⟩

/-- **A rewind cuts the branch.**  The planner only goes to a block that left a log, so the
cursor, which is taken from the last log, is the block it went to. -/
theorem Indexed.rewound (h : Indexed decode net manifest rt blocks) (htouch : Touched rt rt₁)
    (hplan : plan rt.maxReorgDepth rt.rawLogs source = .ok (.rewind a orphaned))
    (heq : rt' = { rewindTo decode a orphaned rt₁ with
      metrics := rt'.metrics
      readiness := rt'.readiness
      pendingReorgAudit := rt'.pendingReorgAudit }) :
    Indexed decode net manifest rt' (blocks.take a) := by
  have h₁ := h.touched htouch
  obtain ⟨head, hmax, hlt, hshares, rfl⟩ := plan_eq_rewind hplan
  obtain ⟨hash, -, hget, -, -⟩ := shares_iff.1 hshares
  obtain ⟨k, b, rfl, hk, -, hlogs⟩ := h.branch.canonicalHashes h.journal hget
  -- what stays canonical are the rows of the blocks up to the ancestor
  have hcanon : (rt₁.rawLogs.map (orphan (k + 1) (range' (k + 1 + 1) (head - (k + 1))))).filter
      (·.isCanonical) = branchLogs (collectEmitters manifest) (blocks.take (k + 1)) := by
    rw [filter_isCanonical_orphan, h₁.journal, ← h.branch.filter_branchLogs]
    refine filter_congr fun log hlog => ?_
    have hle : log.blockNumber ≤ head := by
      rw [← h.journal] at hlog
      obtain ⟨v, hv⟩ : ∃ v, (canonicalHashes rt.rawLogs).get? log.blockNumber = some v :=
        get?_ofPairs_isSome (mem_map_of_mem hlog)
      exact (maxKey?_eq_some_iff.1 hmax).2 _ _ hv
    have hmem : log.blockNumber ∈ range' (k + 1 + 1) (head - (k + 1)) ↔
        ¬log.blockNumber ≤ k + 1 := by
      rw [mem_range'_1]
      omega
    simp only [contains_eq_mem, hmem, decide_not, Bool.not_not]
  obtain ⟨state, hstate⟩ : ∃ state, projectionOf decode manifest.eventVersion
      (branchLogs (collectEmitters manifest) (blocks.take (k + 1))) = some state := by
    have hall := h.projection
    rw [← take_append_drop (k + 1) blocks, branchLogs_append] at hall
    exact projectionOf_of_append hall
  obtain ⟨f, hf, hfinish⟩ := projectionFrom_eq_some.1 hstate
  have hfold := rewindLogs_of_takeAll [] hf
  have hsnoc := Branch.take_succ_eq hk
  obtain ⟨last, hlast, hof⟩ : ∃ log, (branchLogs (collectEmitters manifest)
      (blocks.take (k + 1))).getLast? = some log ∧ log.Of b := by
    rw [hsnoc]
    exact getLast?_branchLogs hlogs
  rw [heq]
  exact {
    manifest := h₁.manifest
    emitters := h₁.emitters
    branch := h.branch.take (k + 1)
    cursor := by
      simp only [rewindTo, hcanon, hlast]
      rw [hsnoc, tip_snoc, hof.blockNumber, hof.blockHash, hof.parentHash]
    journal := hcanon
    projection := by
      rw [hstate]
      simp only [rewindTo, hcanon, h₁.manifest]
      rw [hfold, hfinish]
    correlator := by
      simp only [rewindTo, hcanon, h₁.manifest]
      rw [hfold, hfinish] }

/-! ## Ticks -/

/-- **A tick keeps the invariant**, with some branch. -/
theorem Indexed.tick {later : ChainSource} (h : Indexed decode net manifest rt blocks)
    (hserves : source.Serves net) :
    ∃ blocks', Indexed decode net manifest (tick decode source later rt).2 blocks' := by
  rcases htick : IndexerRuntime.tick decode source later rt with ⟨r, rt'⟩
  cases tick_effect htick with
  | unread _ htouch => exact ⟨blocks, h.touched htouch⟩
  | noBlock _ htouch => exact ⟨blocks, h.touched htouch⟩
  | applied hblock hconf htouch happly hend =>
    obtain ⟨hproduced, hnum⟩ := hserves.blockAt hblock
    exact ⟨_, h.applied (h.follows hproduced hnum hconf) htouch happly hend⟩
  | failed _ _ htouch happly => exact ⟨blocks, h.failed htouch happly⟩
  | stayed _ _ htouch => exact ⟨blocks, h.touched htouch⟩
  | rewound _ _ htouch hplan heq => exact ⟨_, h.rewound htouch hplan heq⟩

def RuntimeError.isBlockFailure : RuntimeError → Bool
  | .decoder .. => true
  | .reducer .. => true
  | _ => false

/-- A tick whose block failed changed nothing but counters. -/
theorem tick_blockFailure (h : tick decode source later rt = (.error e, rt'))
    (hfail : e.isBlockFailure = true) :
    rt'.state = rt.state ∧ rt'.rawLogs = rt.rawLogs ∧ rt'.decodedEvents = rt.decodedEvents ∧
      rt'.cursor = rt.cursor := by
  have notClosed : ¬Closed (.error e : Except RuntimeError Bool) := by
    rintro (hok | ⟨detail, herr⟩)
    · cases hok
    · cases herr
      cases hfail
  cases tick_effect h with
  | unread _ htouch => rw [htouch]; exact ⟨rfl, rfl, rfl, rfl⟩
  | applied _ _ _ _ _ hclosed => exact absurd hclosed notClosed
  | failed _ _ htouch happly =>
    rw [applyBlock_eq_error happly, htouch]
    exact ⟨rfl, rfl, rfl, rfl⟩
  | stayed _ _ htouch => rw [htouch]; exact ⟨rfl, rfl, rfl, rfl⟩
  | rewound _ _ _ _ _ hclosed => exact absurd hclosed notClosed

end

/-- One tick, with what the source answers while it runs and when it reads the head again. -/
def tickStep (decode : Decoder) (net : Network) :
    IndexerRuntime → ChainSource × ChainSource → IndexerRuntime → Prop :=
  stepOf (fun rt answers => (tick decode answers.1 answers.2 rt).2)
    fun _ answers => answers.1.Serves net

theorem Indexed.run {manifest : ManifestParams} {rt rt' : IndexerRuntime}
    {ticks : List (ChainSource × ChainSource)} (hrun : Run (tickStep decode net) rt ticks rt')
    (h : ∃ blocks, Indexed decode net manifest rt blocks) :
    ∃ blocks, Indexed decode net manifest rt' blocks := by
  refine hrun.invariant (P := fun rt => ∃ blocks, Indexed decode net manifest rt blocks) h ?_
  rintro rt₁ answers rt₂ ⟨blocks, h₁⟩ ⟨hserves, rfl⟩
  exact h₁.tick hserves

/-- **Live projection equals journal replay**, after every sequence of ticks on whatever the
source answered; no group is left pending, and a block that fails leaves nothing behind. -/
theorem live_projection_eq_replay {decode : Decoder} {net : Network} {manifest : ManifestParams}
    {maxReorgDepth : Nat} {ticks : List (ChainSource × ChainSource)} {rt : IndexerRuntime}
    (hrun : Run (tickStep decode net)
      { new manifest with maxReorgDepth := maxReorgDepth } ticks rt) :
    rt.state = (replayAll decode manifest.eventVersion rt.rawLogs).1.2 ∧
    rt.correlator.pending = ∅ ∧
    ∀ source later e rt', tick decode source later rt = (.error e, rt') →
      e.isBlockFailure = true →
      rt'.state = rt.state ∧ rt'.rawLogs = rt.rawLogs ∧ rt'.decodedEvents = rt.decodedEvents ∧
        rt'.cursor = rt.cursor := by
  obtain ⟨blocks, h⟩ := Indexed.run hrun ⟨[], Indexed.new decode net manifest maxReorgDepth⟩
  refine ⟨by rw [h.replayAll], by rw [h.correlator], ?_⟩
  intro source later e rt' htick hfail
  exact tick_blockFailure htick hfail

/-! ## A small deployment

One contract, whose logs pause or resume a subaccount, and a network that forks after `a1`. -/

namespace Sample

/-- The deployment's manifest: one address for all contracts. -/
def manifest : ManifestParams where
  chainId := 84532
  manifestAddress := "0xm"
  eventVersion := 1
  moduleAddresses :=
    { subaccountRegistry := "0xc", collateralVault := "0xc", optionsPositionsLedger := "0xc",
      riskModule := "0xc", marginEngine := "0xc", optionMatchingEngine := "0xc",
      escapeController := "0xc", recoveryFinalizer := "0xc", feesManagerV2 := none,
      optionExecutionFeeAdapter := none }

/-- A log without topics cannot be decoded; another one sets the pause flag of the subaccount
to whether it carries data. -/
def decode : Decoder := fun log version =>
  match log.topics with
  | [] => .error .noTopics
  | _ :: _ =>
    .ok { kind := .pauseFlagChanged, eventVersion := version, subkey := some "alice",
          owner := none, subaccountId := none, token := none, engine := none,
          executionId := none, orderHash := none, seriesId := none,
          payload := [("paused", .bool (!log.data.isEmpty))] }

def pause : CanonicalRawLog := { emitter := "0xC", topics := [[1]], data := [1] }

def resume : CanonicalRawLog := { emitter := "0xC", topics := [[1]], data := [] }

def garbled : CanonicalRawLog := { emitter := "0xC", topics := [], data := [] }

def block (number : Nat) (hash parentHash : String) (logs : List CanonicalRawLog) : RawBlock where
  number := number
  hash := hash
  parentHash := parentHash
  timestamp := number
  logs := logs

def a1 : RawBlock := block 1 "0xa1" "0x00" [pause]

def a2 : RawBlock := block 2 "0xa2" "0xa1" [resume]

/-- A sibling of `a2` without logs. -/
def e2 : RawBlock := block 2 "0xe2" "0xa1" []

def b2 : RawBlock := block 2 "0xb2" "0xA1" []

def b3 : RawBlock := block 3 "0xb3" "0xb2" [resume]

/-- A sibling of `b3` that cannot be applied. -/
def f3 : RawBlock := block 3 "0xf3" "0xb2" [resume, garbled]

def produced : List RawBlock := [a1, a2, e2, b2, b3, f3]

def net : Network := Network.ofBlocks produced (by decide +kernel)

theorem faithful : net.Faithful := by
  have h : ∀ b ∈ produced, ∀ b' ∈ produced, hashesEq b.hash b'.hash = true → b = b' := by
    decide +kernel
  intro b b' hb hb' heq
  exact h b hb b' hb' heq

theorem branch (hproduced : ∀ b ∈ blocks, b ∈ produced)
    (hnumbers : blocks.map (·.number) = range' 1 blocks.length)
    (hlinks : blocks.IsChain fun p b => hashesEq p.hash b.parentHash = true) : Branch net blocks :=
  Branch.of_isChain hproduced hnumbers hlinks

theorem branch_a : Branch net [a1, a2] :=
  branch (by decide +kernel) (by decide +kernel) (by decide +kernel)

theorem branch_e : Branch net [a1, e2] :=
  branch (by decide +kernel) (by decide +kernel) (by decide +kernel)

theorem branch_b : Branch net [a1, b2, b3] :=
  branch (by decide +kernel) (by decide +kernel) (by decide +kernel)

theorem branch_f : Branch net [a1, b2, f3] :=
  branch (by decide +kernel) (by decide +kernel) (by decide +kernel)

/-- A source that serves one of the branches. -/
def source (blocks : List RawBlock) : ChainSource := .ofChain 84532 0 blocks

/-- The runtime after ticks on sources that serve these branches. -/
def after (branches : List (List RawBlock)) : IndexerRuntime :=
  (branches.map fun blocks => (source blocks, source blocks)).foldl
    (fun rt answers => (tick decode answers.1 answers.2 rt).2)
    { new manifest with maxReorgDepth := 64 }

theorem run {branches : List (List RawBlock)} (h : ∀ blocks ∈ branches, Branch net blocks) :
    Run (tickStep decode net) { new manifest with maxReorgDepth := 64 }
      (branches.map fun blocks => (source blocks, source blocks)) (after branches) := by
  refine Run.of_foldl _ fun _ answers hmem => ?_
  obtain ⟨blocks, hblocks, rfl⟩ := mem_map.1 hmem
  exact (h blocks hblocks).serves 84532 0

/-- Two blocks, the rewind, the block of the other branch, and a block that fails. -/
def forked : List (List RawBlock) :=
  [[a1, a2], [a1, a2], [a1, b2, f3], [a1, b2, f3], [a1, b2, f3]]

theorem branch_of_mem_forked : ∀ blocks ∈ forked, Branch net blocks := by
  intro blocks h
  have hor : blocks = [a1, a2] ∨ blocks = [a1, b2, f3] := by
    simp only [forked, mem_cons] at h
    tauto
  rcases hor with rfl | rfl
  · exact branch_a
  · exact branch_f

end Sample

/-- A run with a rewind and a block that fails: what is left is the pause of the block both
branches have, and the block after it. -/
theorem live_projection_eq_replay_sample : (Sample.after Sample.forked).state =
      (replayAll Sample.decode 1 (Sample.after Sample.forked).rawLogs).1.2 ∧
    (Sample.after Sample.forked).rawLogs.map (·.isCanonical) = [true, false] ∧
    (Sample.after Sample.forked).cursor.indexedHeadHash = "0xb2" ∧
    (Sample.after Sample.forked).state.pauseFlags.get? "alice" = some true ∧
    (tick Sample.decode (Sample.source [Sample.a1, Sample.b2, Sample.f3])
      (Sample.source []) (Sample.after Sample.forked)).2.state =
        (Sample.after Sample.forked).state := by
  have h := live_projection_eq_replay (Sample.run Sample.branch_of_mem_forked)
  refine ⟨h.1, by decide +kernel, by decide +kernel, by decide +kernel, ?_⟩
  exact (h.2.2 _ _ (.decoder 3 1 .noTopics) _ (Prod.ext (by decide +kernel) rfl) rfl).1

end DeoptBackend.HybridV2
