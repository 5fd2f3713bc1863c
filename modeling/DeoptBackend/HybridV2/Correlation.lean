import DeoptBackend.HybridV2.Reducer

/-!
# Grouping the events of an execution (`src/hybrid_v2/correlation.rs`)

A completed match is told by several events of one transaction.  The correlator collects
them in a group for each execution id, and writes a row into the projection when a group is
complete or when its transaction ends.

* `ExecutionCorrelator.observe`, `flushTransaction` — an event, and the end of a transaction.
* `ExecutionCorrelator.Each` — what holds of every group and every row, kept by all of these.
* `ExecutionCorrelator.Within` — all groups being assembled belong to one transaction.
  `observe` keeps that for the transaction of the event, and once that transaction is
  flushed no group is left (`flushTransaction_eq_empty`).
-/

namespace DeoptBackend.HybridV2

open FMap List

/-- `ExecutionGroup`. -/
structure ExecutionGroup where
  executionId : String := ""
  txHash : String := ""
  blockNumber : Nat := 0
  buyerOrderHash : String := ""
  sellerOrderHash : String := ""
  buyerSubkey : String := ""
  sellerSubkey : String := ""
  seriesId : String := ""
  matchedQty1e8 : String := ""
  premiumAmount : String := ""
  feeAmount : String := ""
  rebateAmount : String := ""
  buyerFillSeen : Bool := false
  sellerFillSeen : Bool := false
  premiumSeen : Bool := false
  pairExecutedSeen : Bool := false

/-- `is_complete`. -/
def ExecutionGroup.isComplete (g : ExecutionGroup) : Bool :=
  g.pairExecutedSeen && g.buyerFillSeen && g.sellerFillSeen && g.premiumSeen

def ExecutionGroup.row (g : ExecutionGroup) (status : ExecutionCompletion) :
    MatchedExecutionRow where
  buyerOrderHash := g.buyerOrderHash
  sellerOrderHash := g.sellerOrderHash
  buyerSubkey := g.buyerSubkey
  sellerSubkey := g.sellerSubkey
  seriesId := g.seriesId
  matchedQty1e8 := g.matchedQty1e8
  premiumAmount := g.premiumAmount
  feeAmount := g.feeAmount
  rebateAmount := g.rebateAmount
  blockNumber := g.blockNumber
  txHash := g.txHash
  completionStatus := status

/-- `ExecutionCorrelator`. -/
structure ExecutionCorrelator where
  /-- The groups being assembled, by transaction and execution. -/
  pending : FMap (String × String) ExecutionGroup := ∅

abbrev Correlated : Type := ExecutionCorrelator × ProjectionState

namespace ExecutionCorrelator

/-- A group leaves the correlator and its row enters the projection. -/
def emit (key : String × String) (group : ExecutionGroup) (status : ExecutionCompletion) :
    Correlated → Correlated
  | (c, state) =>
    ({ c with pending := c.pending.del key }, { state with
        matchedExecutions :=
          state.matchedExecutions.set group.executionId (group.row status) })

variable (cs : Correlated) (key : String × String)

/-- `finalize_if_ready`. -/
def finalizeIfReady : Correlated :=
  match cs.1.pending.get? key with
  | some group => if group.isComplete then emit key group .complete cs else cs
  | none => cs

variable (c : ExecutionCorrelator) (txHash : String)

/-- The keys of the groups of a transaction.  No two of them have the same execution, so the
order in which their rows are written makes no difference. -/
def keysOf : List (String × String) :=
  c.pending.keys.filter fun key => key.1 = txHash

/-- Change the groups of a transaction. -/
def eachOf (f : ExecutionGroup → ExecutionGroup) : ExecutionCorrelator :=
  { c with pending := c.pending.mapRows fun key g => if key.1 = txHash then f g else g }

/-- Write the rows of the groups of a transaction that have become complete. -/
def finalizeAll (cs : Correlated) (txHash : String) : Correlated :=
  (cs.1.keysOf txHash).foldl finalizeIfReady cs

variable (event : HybridV2Event) (ctx : ApplyContext)

def pairExecuted (execId : String) (g : ExecutionGroup) : ExecutionGroup :=
  { g with
    executionId := execId
    txHash := ctx.txHash
    blockNumber := ctx.blockNumber
    pairExecutedSeen := true
    buyerOrderHash := (payloadString event "buyer_order_hash").getD g.buyerOrderHash
    sellerOrderHash := (payloadString event "seller_order_hash").getD g.sellerOrderHash
    buyerSubkey := (payloadString event "buyer_subkey").getD g.buyerSubkey
    sellerSubkey :=
      (payloadString event "seller_subkey" <|> event.subkey).getD g.sellerSubkey
    matchedQty1e8 := (payloadString event "matched_qty_1e8").getD g.matchedQty1e8
    premiumAmount := (payloadString event "premium_1e8").getD g.premiumAmount
    seriesId := (payloadString event "series_id").getD g.seriesId }

def filled (orderHash : String) (g : ExecutionGroup) : ExecutionGroup :=
  { g with
    buyerFillSeen := g.buyerFillSeen || orderHash == g.buyerOrderHash
    sellerFillSeen := g.sellerFillSeen || orderHash == g.sellerOrderHash }

/-- The first premium of a transaction is that of every group without one. -/
def premiumPaid (amount : String) (g : ExecutionGroup) : ExecutionGroup :=
  if g.premiumSeen then g
  else
    { g with
      premiumAmount := if g.premiumAmount = "0" then amount else g.premiumAmount
      premiumSeen := true }

/-- `observe`. -/
def observe (cs : Correlated) : Correlated :=
  let amount := (payloadString event "amount").getD "0"
  match event.kind with
  | .optionOrderPairExecuted =>
    match event.executionId with
    | none => cs
    | some execId =>
      let key := (ctx.txHash, execId)
      let group := pairExecuted event ctx execId ((cs.1.pending.get? key).getD {})
      finalizeIfReady ({ cs.1 with pending := cs.1.pending.set key group }, cs.2) key
  | .optionOrderFilled =>
    match event.orderHash with
    | none => cs
    | some orderHash =>
      finalizeAll (cs.1.eachOf ctx.txHash (filled orderHash), cs.2) ctx.txHash
  | .optionPremiumTransferred =>
    finalizeAll (cs.1.eachOf ctx.txHash (premiumPaid amount), cs.2) ctx.txHash
  | .optionFeeCharged =>
    (cs.1.eachOf ctx.txHash fun g => { g with feeAmount := amount }, cs.2)
  | .optionRebatePaid =>
    (cs.1.eachOf ctx.txHash fun g => { g with rebateAmount := amount }, cs.2)
  | _ => cs

/-- A group ends with its transaction. -/
def flushKey : Correlated :=
  match cs.1.pending.get? key with
  | some group => emit key group (if group.isComplete then .complete else .incomplete) cs
  | none => cs

/-- `flush_transaction`. -/
def flushTransaction (txHash : String) (cs : Correlated) : Correlated :=
  (cs.1.keysOf txHash).foldl flushKey cs

/-! ## What holds of every group -/

/-- A property of the key and the hash of every group, and one it entails of the hash of every
row.  Nothing else of a group is spoken of, so it does not matter what fills, premiums and fees
write into it. -/
structure Each (Q : String × String → String → Prop) (W : String → Prop) (cs : Correlated) :
    Prop where
  entails : ∀ {key tx}, Q key tx → W tx
  groups : ∀ {key g}, cs.1.pending.get? key = some g → Q key g.txHash
  rows : ∀ {id row}, cs.2.matchedExecutions.get? id = some row → W row.txHash

namespace Each

variable {cs : Correlated} (h : Each Q W cs)
include h

theorem emit {key : String × String} (hg : cs.1.pending.get? key = some g) :
    Each Q W (emit key g status cs) where
  entails := h.entails
  groups hget := h.groups (get?_del_eq_some.1 hget).2
  rows hget := forall_set hget (h.entails (h.groups hg)) h.rows

theorem finalizeIfReady (key : String × String) : Each Q W (finalizeIfReady cs key) := by
  unfold ExecutionCorrelator.finalizeIfReady
  split
  · split
    · exact h.emit ‹_›
    · exact h
  · exact h

theorem finalizeAll (tx : String) : Each Q W (finalizeAll cs tx) :=
  foldlRecOn _ _ h fun _ h key _ => h.finalizeIfReady key

theorem flushKeys (keys : List (String × String)) : Each Q W (keys.foldl flushKey cs) := by
  refine foldlRecOn _ _ h fun _ h key _ => ?_
  unfold flushKey
  split
  · exact h.emit ‹_›
  · exact h

theorem eachOf (hf : ∀ g, (f g).txHash = g.txHash) (tx : String) :
    Each Q W (cs.1.eachOf tx f, cs.2) where
  entails := h.entails
  groups := by
    intro key g hget
    simp only [ExecutionCorrelator.eachOf, get?_mapRows, Option.map_eq_some_iff] at hget
    obtain ⟨old, hold, rfl⟩ := hget
    split
    · rw [hf]
      exact h.groups hold
    · exact h.groups hold
  rows := h.rows

/-- One arm starts a group, under the transaction of the event. -/
theorem observe {event : HybridV2Event} {ctx : ApplyContext}
    (hnew : ∀ execId, Q (ctx.txHash, execId) ctx.txHash) : Each Q W (observe event ctx cs) := by
  unfold ExecutionCorrelator.observe
  split
  · split
    · exact h
    · refine finalizeIfReady (Q := Q) (W := W) ⟨h.entails, fun {key g} hget => ?_, ?_⟩ _
      · rcases get?_set_eq_some.mp hget with ⟨rfl, rfl⟩ | ⟨-, hold⟩
        · exact hnew _
        · exact h.groups hold
      · exact h.rows
  · split
    · exact h
    · exact (h.eachOf (fun _ => by rfl) _).finalizeAll _
  · refine (h.eachOf (fun g => ?_) _).finalizeAll _
    unfold premiumPaid
    split <;> rfl
  · exact h.eachOf (fun _ => by rfl) _
  · exact h.eachOf (fun _ => by rfl) _
  · exact h

end Each

/-! ## Groups within one transaction -/

/-- Every group being assembled belongs to the transaction. -/
def Within (c : ExecutionCorrelator) (txHash : String) : Prop :=
  ∀ key group, c.pending.get? key = some group → key.1 = txHash

variable {cs : Correlated} {txHash : String}

theorem within_empty (txHash : String) : Within {} txHash := by
  intro key group h
  cases h

/-- **An event only starts groups of its own transaction.** -/
theorem Within.observe {event : HybridV2Event} {ctx : ApplyContext} (h : cs.1.Within ctx.txHash) :
    (observe event ctx cs).1.Within ctx.txHash := by
  have heach : Each (fun key _ => key.1 = ctx.txHash) (fun _ => True) cs :=
    ⟨fun _ => trivial, fun hget => h _ _ hget, fun _ => trivial⟩
  exact fun key group hget => (heach.observe fun _ => rfl).groups hget

theorem flushKey_self (cs : Correlated) (key : String × String) :
    (flushKey cs key).1.pending.get? key = none := by
  simp only [flushKey]
  split
  · simp [emit]
  · assumption

/-- A group that is gone is not brought back. -/
theorem flushKeys_none {key : String × String} (h : cs.1.pending.get? key = none)
    (keys : List (String × String)) : (keys.foldl flushKey cs).1.pending.get? key = none := by
  have heach : Each (fun j _ => j ≠ key) (fun _ => True) cs := by
    refine ⟨fun _ => trivial, ?_, fun _ => trivial⟩
    rintro j g hget rfl
    cases h.symm.trans hget
  exact Option.eq_none_iff_forall_ne_some.mpr fun g hg => (heach.flushKeys keys).groups hg rfl

/-- **The end of the transaction leaves no group.** -/
theorem flushTransaction_eq_empty (h : cs.1.Within txHash) :
    (flushTransaction txHash cs).1 = {} := by
  have hnone : ∀ key, (flushTransaction txHash cs).1.pending.get? key = none := by
    intro key
    by_cases hmem : key ∈ cs.1.keysOf txHash
    · -- its own turn removes it
      obtain ⟨before, after, hsplit⟩ := append_of_mem hmem
      rw [flushTransaction, hsplit, foldl_append, foldl_cons]
      exact flushKeys_none (flushKey_self _ key) after
    · refine flushKeys_none ?_ _
      cases hget : cs.1.pending.get? key with
      | none => rfl
      | some group =>
        refine absurd (mem_filter.2 ⟨mem_keys_iff.2 ⟨group, hget⟩, ?_⟩) hmem
        simpa using h key group hget
  exact congrArg ExecutionCorrelator.mk (eq_empty_of_get? hnone)

end ExecutionCorrelator

end DeoptBackend.HybridV2
