import DeoptBackend.HybridV2.Restart
import DeoptBackend.HybridV2.Execution.Preflight

/-!
# Finding a broadcast in the projection (`src/hybrid_v2/execution/broadcast_indexer_correlation.rs`)

A broadcast counts as confirmed once the indexer holds the complete match of its transaction,
and the two are joined by the hash of the transaction.  A raw log carries no such hash, so the
runtime makes one up from the hash of the block (`txHashForLog`), and this is what the rows keep.

* `check` — the question the confirmation worker asks.
* `Correlated.MadeUp` — every hash in the groups and the rows is such a name.
* `never_correlated` — **no hash of a transaction is ever found**.
-/

namespace DeoptBackend.HybridV2

open ExecutionCorrelator List Option

/-! ## The check -/

/-- `indexed_head_block`. -/
def ProjectionStore.indexedHeadBlock (store : ProjectionStore) : Option Nat :=
  (store.cursors.vals.map (·.indexedHeadBlock)).max?

/-- `get_matched_execution_by_tx_hash`. -/
def ProjectionStore.getMatchedExecutionByTxHash (store : ProjectionStore) (txHash : String) :
    Option (String × MatchedExecutionRow) := do
  (← store.stateSnapshot).firstMatched fun row => eqIgnoreAsciiCase row.txHash txHash

/-- `CorrelationOutcome`. -/
inductive CorrelationOutcome where
  | indexerBehind (indexedHead receiptBlock : Nat)
  | notCorrelatedYet
  | matchedRowIncomplete
  | matchedRowInvalidatedByReorg
  | matchedRowComplete (matchedExecutionId : String)
  | contradiction (detail : String)
  deriving DecidableEq

/-- `IndexerCorrelationChecker::check`. -/
def check (store : ProjectionStore) (canonicalExecutionId txHash : String) (receiptBlock : Nat)
    (toleranceExceeded : Bool) : CorrelationOutcome :=
  let indexedHead := store.indexedHeadBlock.getD 0
  if indexedHead < receiptBlock then .indexerBehind indexedHead receiptBlock
  else
    match store.getMatchedExecutionByTxHash txHash with
    | none =>
      if toleranceExceeded then
        .contradiction ("no matched execution row for tx_hash=" ++ txHash ++ " at receipt_block=" ++
          toString receiptBlock ++ " (canonical_execution_id=" ++ canonicalExecutionId ++
          ") after tolerance")
      else .notCorrelatedYet
    | some (id, row) =>
      if eqIgnoreAsciiCase row.txHash txHash then
        match row.completionStatus with
        | .complete => .matchedRowComplete id
        | .incomplete => .matchedRowIncomplete
        | .invalidatedByReorg => .matchedRowInvalidatedByReorg
      else
        .contradiction ("matched execution tx_hash disagrees with local tx_hash (local=" ++
          txHash ++ " indexer=" ++ row.txHash ++ ")")

/-! ## The hashes of the rows -/

/-- What was made up carries a colon. -/
def MadeUp (txHash : String) : Prop := ':' ∈ txHash.toList

/-- Every hash of a group or a row is made up. -/
abbrev Correlated.MadeUp (cs : Correlated) : Prop :=
  Each (fun _ txHash => HybridV2.MadeUp txHash) HybridV2.MadeUp cs

section

variable {f : Fold}

theorem Fold.take_madeUp (h : Correlated.MadeUp (f.correlator, f.state))
    (hlog : MadeUp log.ctx.txHash) (htake : f.take decode version log = some f') :
    Correlated.MadeUp (f'.correlator, f'.state) := by
  obtain ⟨event, state, -, happly, rfl⟩ := take_eq_some htake
  have hturn : Correlated.MadeUp
      ((f.turnTo log.txHash).correlator, (f.turnTo log.txHash).state) := by
    unfold turnTo
    split
    · exact h
    · split
      · exact h.flushKeys _
      · exact h
  -- the reducer leaves the rows alone
  have hrows := (Prod.mk.inj (Prod.mk.inj ((keeps_spared event log.ctx).of_run happly)).2).2
  have hreduced : Correlated.MadeUp ((f.turnTo log.txHash).correlator, state) :=
    ⟨id, hturn.groups, fun hrow => hturn.rows (hrows ▸ hrow)⟩
  exact hreduced.observe fun _ => hlog

theorem Fold.takeAll_madeUp (h : Correlated.MadeUp (f.correlator, f.state))
    (hlogs : ∀ log ∈ logs, MadeUp log.txHash) (htake : f.takeAll decode version logs = some f') :
    f'.finish.MadeUp := by
  induction logs generalizing f with
  | nil =>
    cases htake
    unfold finish
    split
    · exact h
    · exact h.flushKeys _
  | cons log logs ih =>
    obtain ⟨mid, hfirst, hrest⟩ := bind_eq_some_iff.mp htake
    exact ih (take_madeUp h (hlogs log mem_cons_self) hfirst)
      (fun l hl => hlogs l (mem_cons_of_mem _ hl)) hrest

end

/-! ## Along the ticks of the indexer -/

theorem persistedStep_snapshot (h : ∀ state ∈ w.store.stateSnapshot, state = w.rt.state)
    (hstep : persistedStep decode net w call w') :
    ∀ state ∈ w'.store.stateSnapshot, state = w'.rt.state := by
  obtain ⟨-, hw'⟩ := hstep
  rcases htick : Indexer.tickAndPersist decode call.1 call.2.1 call.2.2 w with ⟨r, w₁⟩
  obtain rfl : w' = w₁ := hw'.trans (congrArg Prod.snd htick)
  cases Indexer.tickAndPersist_effect htick with
  | idle htouch hstore =>
    rw [hstore, htouch]
    exact h
  | detected _ _ htouch =>
    rw [htouch]
    exact h
  | failed _ _ htouch happly =>
    rw [IndexerRuntime.applyBlock_eq_error happly, htouch]
    exact h
  | applied _ _ _ _ hend =>
    rintro state ⟨⟩
    rw [hend]

theorem asciiLower_eq_colon (h : asciiLower c = ':') : c = ':' := by
  unfold asciiLower at h
  split_ifs at h with hupper
  · have hn : 65 ≤ c.toNat := hupper.1
    have hcode := congrArg Char.toNat h
    rw [Char.toNat_ofNat] at hcode
    split_ifs at hcode
    · have : c.toNat + 32 = 58 := hcode
      omega
    · cases hcode
  · exact h

theorem madeUp_of_eqIgnoreAsciiCase (hmade : MadeUp made)
    (heq : eqIgnoreAsciiCase made txHash = true) : MadeUp txHash := by
  have hmem : asciiLower ':' ∈ txHash.toList.map asciiLower := by
    rw [← of_decide_eq_true heq]
    exact mem_map_of_mem hmade
  obtain ⟨c, hc, hlower⟩ := mem_map.mp hmem
  rwa [asciiLower_eq_colon hlower] at hc

/-- **No hash of a transaction is ever found.**  Whatever the indexer has indexed and persisted
by its ticks: for a hash without a colon, as every hash of a transaction is, the check returns
no complete match. -/
theorem never_correlated {maxReorgDepth : Nat} {name : String}
    {calls : List (ChainSource × ChainSource × Int)} (hrun : Run (persistedStep decode net)
      { rt := { IndexerRuntime.new m with
          maxReorgDepth := maxReorgDepth, persistenceCursorName := name }
        store := {} } calls w) (htx : ':' ∉ txHash.toList) (canonicalExecutionId : String)
    (receiptBlock : Nat) (toleranceExceeded : Bool) (executionId : String) :
    check w.store canonicalExecutionId txHash receiptBlock toleranceExceeded ≠
      .matchedRowComplete executionId := by
  have hsnapshot : ∀ state ∈ w.store.stateSnapshot, state = w.rt.state :=
    hrun.invariant (P := fun w => ∀ state ∈ w.store.stateSnapshot, state = w.rt.state) nofun
      fun h hstep => persistedStep_snapshot h hstep
  have hmade : Correlated.MadeUp ({}, w.rt.state) := by
    obtain ⟨blocks, hstep⟩ := InStep.run hrun ⟨[], InStep.new decode net m maxReorgDepth name⟩
    obtain ⟨f, htake, hfinish⟩ := projectionFrom_eq_some.mp hstep.indexed.projection
    rw [← hfinish]
    refine Fold.takeAll_madeUp (f := {}) ⟨fun hmade => hmade, nofun, nofun⟩ (fun log hlog => ?_) htake
    obtain ⟨block, -, -, hof⟩ := of_mem_branchLogs hlog
    simp [MadeUp, hof.txHash]
  have hnone : w.store.getMatchedExecutionByTxHash txHash = none := by
    refine eq_none_iff_forall_not_mem.mpr fun found hfound => htx ?_
    obtain ⟨state, hstate, hfirst⟩ := bind_eq_some_iff.mp hfound
    obtain ⟨id, -, hid⟩ := exists_of_findSome?_eq_some hfirst
    obtain ⟨row, hrow, -⟩ := map_eq_some_iff.mp hid
    obtain ⟨hget, hsame⟩ := filter_eq_some_iff.mp hrow
    rw [hsnapshot state hstate] at hget
    exact madeUp_of_eqIgnoreAsciiCase (hmade.rows hget) hsame
  unfold check
  simp only [hnone]
  split_ifs <;> simp

namespace Sample

/-- A log that says its kind, and a decoder that reads it: the logs of one execution. -/
def decodeMatch : Decoder := fun log version =>
  .ok { about (match log.data with
      | [0] => .optionOrderPairExecuted
      | [1] => .optionPremiumTransferred
      | _ => .optionOrderFilled) with
    eventVersion := version, executionId := some "x", seriesId := some "s"
    orderHash := some (if log.data = [2] then "buy" else "sell")
    payload := [("amount", .string "5"), ("buyer_order_hash", .string "buy"),
      ("seller_order_hash", .string "sell")] }

/-- A block with the logs of one execution, indexed and persisted. -/
def matchIndexed : Except RuntimeError Bool × Indexer :=
  let chain := source [block 1 "0xa1" "0x00"
    ([0, 1, 2, 3].map fun n => { emitter := "0xC", topics := [[1]], data := [n] })]
  Indexer.tickAndPersist decodeMatch chain chain 0 { rt := fresh, store := {} }

end Sample

open Sample in
theorem never_correlated_sample :
    check (persisted [a1, a2]).store "e" "0xab" 1 false ≠ .matchedRowComplete "x" :=
  never_correlated (run_persisted branch_a) (by decide) "e" 1 false "x"

open Sample in
/-- The complete match of an indexed block is found under the name made from the block, and not
under the hash of the transaction. -/
theorem match_indexed_not_found : matchIndexed.1 = .ok true ∧
      check matchIndexed.2.store "x" "0xab" 1 false = .notCorrelatedYet ∧
      check matchIndexed.2.store "x" "0xa1::tx" 1 false = .matchedRowComplete "x" := by
  decide +kernel

end DeoptBackend.HybridV2
