import DeoptBackend.HybridV2.Store

/-!
# The operation lock of a deployment (`src/hybrid_v2/persistence.rs`)

Reorg recovery, rebuild, reconciliation and execution share one lock row.  Two things free it
besides its holder: an acquisition first deletes a row whose holder it takes to be done, and a
release deletes whatever row carries its epoch.  This module follows the row through any
interleaving of acquisitions, releases and writes of the rows that the stale rule reads.

* `Holders` — the store with the acquisitions that are still held: those that were granted, have
  not been released by their own holder, and whose own row has not reached a terminal phase since.
  An execution's own row is found by its id, which the lock does not have.
* `LockMove` — what the services do.  The Postgres store deletes and inserts in two statements.
* `LockMove.Justified` — what frees the row belongs to its holder.
* `exclusive_iff_justified` — **no acquisition is granted while another one is held exactly when
  every move is justified**, in every run.
-/

namespace DeoptBackend.HybridV2

open ProjectionStore List FMap

/-! ## The rows behind the lock -/

/-- The phases of a recovery that the stale rule takes for its end. -/
def ReorgRecoveryState.isDone (row : ReorgRecoveryState) : Bool :=
  decide (row.phase = .recovered ∨ row.phase = .manualInterventionRequired)

/-- A lock as it was granted: one for an execution is for the request with this id. -/
structure LockGrant extends OperationLock where
  execution : String
  deriving DecidableEq

/-- A row that one of the services writes.  A reconciliation has none. -/
inductive OperationRow where
  | reorg (row : ReorgRecoveryState)
  | rebuild (row : RebuildOperationState)
  | execution (id : String) (row : ExecutionRequestRow)

namespace OperationRow

/-- The stale rule takes the row for the end of the lock's operation. -/
def countsFor (lock : OperationLock) : OperationRow → Bool
  | .reorg row => decide (lock.operation = .reorg) && row.isDone
  | .rebuild row => decide (lock.operation = .rebuild) && row.phase.isTerminal
  | .execution _ row => decide (lock.operation = .execution) &&
      (decide (row.holderEpoch = some lock.holderEpoch) && row.phase.isTerminal)

/-- The row is the grant's own, in a terminal phase. -/
def ends (grant : LockGrant) : OperationRow → Bool
  | .reorg row =>
    decide (grant.operation = .reorg ∧ row.recoveryEpoch = grant.holderEpoch) && row.isDone
  | .rebuild row =>
    decide (grant.operation = .rebuild ∧ row.rebuildEpoch = grant.holderEpoch) &&
      row.phase.isTerminal
  | .execution id row =>
    decide (grant.operation = .execution ∧ id = grant.execution) && row.phase.isTerminal

end OperationRow

namespace ProjectionStore

def writeRow (store : ProjectionStore) : OperationRow → ProjectionStore
  | .reorg row => { store with reorgRecovery := some row }
  | .rebuild row =>
    { store with rebuildOperations := store.rebuildOperations.set row.rebuildEpoch row }
  | .execution id row =>
    { store with executionRequests := store.executionRequests.set id row }

/-- The first statement of the Postgres acquisition. -/
def deleteStaleLock (store : ProjectionStore) : ProjectionStore :=
  { store with operationLock := store.operationLock.filter fun lock => !store.holderIsDone lock }

end ProjectionStore

/-! ## The moves -/

/-- The store, the locks that were ever granted, and those among them that are held.  The place of
a lock in the list of grants is its holder's ticket. -/
structure Holders where
  store : ProjectionStore := {}
  granted : List LockGrant := []
  held : List (Nat × LockGrant) := []

def Holders.grant (s : Holders) (grant : LockGrant) : Holders where
  store := { s.store with operationLock := some grant.toOperationLock }
  granted := s.granted ++ [grant]
  held := (s.granted.length, grant) :: s.held

/-- What the services do to the lock and the rows behind it. -/
inductive LockMove where
  | acquire (grant : LockGrant)
  | deleteStale
  | insertLock (grant : LockGrant)
  | release (ticket : Nat)
  | writeRow (row : OperationRow)

namespace LockMove

def apply (s : Holders) : LockMove → Holders
  | .acquire grant =>
    match s.store.tryAcquireOperationLock grant.operation grant.holderEpoch grant.acquiredAtMs with
    | (none, _) => s
    | (some _, store) => { s.grant grant with store := store }
  | .deleteStale => { s with store := s.store.deleteStaleLock }
  | .insertLock grant =>
    match s.store.operationLock with
    | some _ => s
    | none => s.grant grant
  | .release ticket =>
    match s.granted[ticket]? with
    | none => s
    | some lock =>
      { s with
        store := s.store.releaseOperationLock lock.holderEpoch
        held := s.held.filter fun g => decide (g.1 ≠ ticket) }
  | .writeRow row =>
    { s with
      store := s.store.writeRow row
      held := s.held.filter fun g => !row.ends g.2 }

/-- What frees the row belongs to its holder: no row that is there counts for a lock that is taken,
only its own for one that is held, and no release but the holder's own carries its epoch. -/
def Justified (s : Holders) : LockMove → Prop
  | .acquire grant => s.store.operationLock.all s.store.holderIsDone = true →
      s.store.holderIsDone grant.toOperationLock = false
  | .deleteStale => True
  | .insertLock grant =>
    s.store.operationLock = none → s.store.holderIsDone grant.toOperationLock = false
  | .release ticket =>
    ∀ g ∈ s.held, ∀ lock ∈ s.granted[ticket]?, g.2.holderEpoch = lock.holderEpoch → g.1 = ticket
  | .writeRow row =>
    ∀ g ∈ s.held, row.countsFor g.2.toOperationLock = true → row.ends g.2 = true

instance (s : Holders) (move : LockMove) : Decidable (move.Justified s) := by
  cases move <;> unfold Justified <;> infer_instance

end LockMove

/-- While a grant is held, no move grants another one: neither the next move of the run nor any
other. -/
def Holders.Exclusive (s : Holders) : Prop :=
  s.held ≠ [] → ∀ move : LockMove, (move.apply s).granted = s.granted

/-! ## One move -/

/-- A held grant is the one the row stands for, and the stale rule leaves it alone. -/
structure Holders.Guarded (s : Holders) : Prop where
  ticket : ∀ g ∈ s.held, s.granted[g.1]? = some g.2
  row : ∀ g ∈ s.held, s.store.operationLock = some g.2.toOperationLock
  fresh : ∀ g ∈ s.held, s.store.holderIsDone g.2.toOperationLock = false

section
variable {s : Holders} {store : ProjectionStore}

theorem tryAcquireOperationLock_free (h : store.operationLock.all store.holderIsDone = true) :
    store.tryAcquireOperationLock operation holderEpoch nowMs =
      (some ⟨operation, holderEpoch, false⟩,
        { store with operationLock := some ⟨operation, holderEpoch, nowMs⟩ }) := by
  unfold tryAcquireOperationLock
  rcases hlock : store.operationLock with _ | lock
  · simp
  · rw [hlock, Option.all_some] at h
    simp [Option.filter, h]

theorem tryAcquireOperationLock_taken (h : store.operationLock = some lock)
    (hdone : store.holderIsDone lock = false) :
    store.tryAcquireOperationLock operation holderEpoch nowMs = (none, store) := by
  unfold tryAcquireOperationLock
  simp [h, Option.filter, hdone]

theorem exists_lock_of_not_free (h : ¬store.operationLock.all store.holderIsDone = true) :
    ∃ lock, store.operationLock = some lock ∧ store.holderIsDone lock = false := by
  cases hlock : store.operationLock with
  | none => exact absurd (by rw [hlock]; rfl) h
  | some lock => exact ⟨lock, rfl, by simpa [hlock] using h⟩

/-! ### The rows the stale rule reads -/

theorem any_vals_set {κ ν : Type} [DecidableEq κ] {m : FMap κ ν} {isDone : ν → Bool}
    (h : m.vals.any isDone = false) (k : κ) (v : ν) :
    (m.set k v).vals.any isDone = isDone v := by
  rw [Bool.eq_iff_iff, any_eq_true]
  constructor
  · rintro ⟨w, hw, hdone⟩
    obtain ⟨j, hj⟩ := mem_vals.1 hw
    rcases get?_set_eq_some.1 hj with ⟨-, rfl⟩ | ⟨-, hj⟩
    · exact hdone
    · exact absurd hdone (any_eq_false.1 h w (mem_vals.2 ⟨j, hj⟩))
  · intro hdone
    exact ⟨v, mem_vals.2 ⟨k, get?_set_self ..⟩, hdone⟩

/-- Where no row counted for the lock, the one that is written decides. -/
theorem holderIsDone_writeRow (hfresh : store.holderIsDone lock = false) (row : OperationRow) :
    (store.writeRow row).holderIsDone lock = row.countsFor lock := by
  obtain ⟨operation, holderEpoch, _⟩ := lock
  cases operation <;> cases row <;> try exact hfresh
  case reorg.reorg => rfl
  case rebuild.rebuild row => exact any_vals_set hfresh _ row
  case execution.execution row => exact any_vals_set hfresh _ row

theorem operationLock_writeRow (row : OperationRow) :
    (store.writeRow row).operationLock = store.operationLock := by
  cases row <;> rfl

/-! ### The lock row -/

namespace Holders

/-- Nothing more is granted where the row is there and the stale rule leaves it alone. -/
theorem exclusive_iff : s.Exclusive ↔ (s.held ≠ [] →
    ∃ lock, s.store.operationLock = some lock ∧ s.store.holderIsDone lock = false) := by
  refine imp_congr_right fun _ => ⟨fun h => ?_, ?_⟩
  · refine exists_lock_of_not_free fun hfree => ?_
    have hsame := h (.acquire ⟨⟨.reorg, 0, 0⟩, ""⟩)
    simp [LockMove.apply, tryAcquireOperationLock_free hfree, grant] at hsame
  · rintro ⟨lock, hlock, hfresh⟩ move
    cases move with
    | acquire => simp [LockMove.apply, tryAcquireOperationLock_taken hlock hfresh]
    | insertLock => simp [LockMove.apply, hlock]
    | release =>
      simp only [LockMove.apply]
      split <;> rfl
    | deleteStale | writeRow => rfl

theorem Guarded.exclusive (h : s.Guarded) : s.Exclusive := by
  refine exclusive_iff.2 fun hheld => ?_
  obtain ⟨g, hg⟩ := exists_mem_of_ne_nil _ hheld
  exact ⟨g.2.toOperationLock, h.row g hg, h.fresh g hg⟩

theorem Exclusive.fresh (h : s.Exclusive) (hg : g ∈ s.held)
    (hrow : s.store.operationLock = some g.2.toOperationLock) :
    s.store.holderIsDone g.2.toOperationLock = false := by
  obtain ⟨lock, hlock, hfresh⟩ := exclusive_iff.1 h (ne_nil_of_mem hg)
  rwa [Option.some.inj (hrow.symm.trans hlock)]

/-- Where an acquisition can be granted, nothing is held. -/
theorem Guarded.held_eq_nil (h : s.Guarded)
    (hfree : s.store.operationLock.all s.store.holderIsDone = true) : s.held = [] := by
  refine eq_nil_iff_forall_not_mem.2 fun g hg => ?_
  rw [h.row g hg, Option.all_some, h.fresh g hg] at hfree
  cases hfree

theorem Guarded.grant {grant : LockGrant} (hheld : s.held = [])
    (hfresh : s.store.holderIsDone grant.toOperationLock = false) : (s.grant grant).Guarded := by
  unfold Holders.grant
  rw [hheld]
  constructor <;> intro g hg <;> obtain rfl := mem_singleton.1 hg
  · exact getElem?_concat_length
  · rfl
  · exact hfresh

end Holders

namespace LockMove

theorem apply_acquire (hfree : s.store.operationLock.all s.store.holderIsDone = true) :
    apply s (.acquire grant) = s.grant grant := by
  simp [apply, tryAcquireOperationLock_free hfree, Holders.grant]

theorem apply_acquire_of_taken (hfree : ¬s.store.operationLock.all s.store.holderIsDone = true) :
    apply s (.acquire grant) = s := by
  obtain ⟨lock, hlock, hdone⟩ := exists_lock_of_not_free hfree
  simp [apply, tryAcquireOperationLock_taken hlock hdone]

theorem guarded_deleteStale (h : s.Guarded) : (apply s .deleteStale).Guarded where
  ticket := h.ticket
  row := by
    intro g hg
    show s.store.operationLock.filter _ = _
    rw [h.row g hg, Option.filter_some, if_pos]
    rw [h.fresh g hg]
    rfl
  fresh := h.fresh

theorem apply_release (hlock : s.granted[ticket]? = some lock) :
    apply s (.release ticket) = { s with
        store := s.store.releaseOperationLock lock.holderEpoch
        held := s.held.filter fun g => decide (g.1 ≠ ticket) } := by
  simp [apply, hlock]

theorem guarded_release (h : s.Guarded) (hj : Justified s (.release ticket)) :
    (apply s (.release ticket)).Guarded := by
  cases hlock : s.granted[ticket]? with
  | none =>
    simp only [apply, hlock]
    exact h
  | some lock =>
    rw [apply_release hlock]
    constructor <;> intro g hg <;> obtain ⟨hmem, hother⟩ := mem_filter.1 hg
    · exact h.ticket g hmem
    · show s.store.operationLock.filter _ = _
      rw [h.row g hmem, Option.filter_some, if_pos]
      refine decide_eq_true fun heq => ?_
      exact of_decide_eq_true hother (hj g hmem lock hlock heq)
    · exact h.fresh g hmem

/-- Someone else's release frees a held lock. -/
theorem justified_release (h : s.Guarded) (hx : (apply s (.release ticket)).Exclusive) :
    Justified s (.release ticket) := by
  intro g hg lock hlock heq
  by_contra hne
  rw [apply_release (Option.mem_def.1 hlock)] at hx
  have hkept : g ∈ s.held.filter fun g => decide (g.1 ≠ ticket) :=
    mem_filter.2 ⟨hg, decide_eq_true hne⟩
  obtain ⟨lock', hlock', -⟩ := Holders.exclusive_iff.1 hx (ne_nil_of_mem hkept)
  have hgone : (s.store.releaseOperationLock lock.holderEpoch).operationLock = none := by
    show s.store.operationLock.filter _ = none
    rw [h.row g hg, Option.filter_some, if_neg]
    simpa using heq
  rw [hgone] at hlock'
  cases hlock'

theorem guarded_writeRow (h : s.Guarded) (hj : Justified s (.writeRow row)) :
    (apply s (.writeRow row)).Guarded := by
  constructor <;> intro g hg <;> obtain ⟨hmem, hkept⟩ := mem_filter.1 hg
  · exact h.ticket g hmem
  · exact (operationLock_writeRow row).trans (h.row g hmem)
  · refine (holderIsDone_writeRow (h.fresh g hmem) row).trans ?_
    by_contra hcounts
    simp [hj g hmem (by simpa using hcounts)] at hkept

/-- Someone else's row frees a held lock. -/
theorem justified_writeRow (h : s.Guarded) (hx : (apply s (.writeRow row)).Exclusive) :
    Justified s (.writeRow row) := by
  intro g hg hcounts
  by_contra hends
  have hfresh := hx.fresh (mem_filter.2 ⟨hg, by simpa using hends⟩)
    ((operationLock_writeRow row).trans (h.row g hg))
  rw [← holderIsDone_writeRow (h.fresh g hg)] at hcounts
  cases hcounts.symm.trans hfresh

/-! ### A move -/

/-- **A justified move keeps the lock with its holder.** -/
theorem guarded_apply (h : s.Guarded) {move : LockMove} (hj : Justified s move) :
    (apply s move).Guarded := by
  cases move with
  | acquire =>
    by_cases hfree : s.store.operationLock.all s.store.holderIsDone = true
    · rw [apply_acquire hfree]
      exact .grant (h.held_eq_nil hfree) (hj hfree)
    · rw [apply_acquire_of_taken hfree]
      exact h
  | deleteStale => exact guarded_deleteStale h
  | insertLock =>
    cases hlock : s.store.operationLock with
    | some =>
      simp only [apply, hlock]
      exact h
    | none =>
      simp only [apply, hlock]
      exact .grant (h.held_eq_nil (by rw [hlock]; rfl)) (hj hlock)
  | release => exact guarded_release h hj
  | writeRow => exact guarded_writeRow h hj

/-- **A move that is not justified lets somebody else in.** -/
theorem justified_of_exclusive (h : s.Guarded) (hx : (apply s move).Exclusive) :
    Justified s move := by
  cases move with
  | acquire =>
    intro hfree
    rw [apply_acquire hfree] at hx
    exact hx.fresh mem_cons_self rfl
  | deleteStale => trivial
  | insertLock =>
    intro hlock
    simp only [apply, hlock] at hx
    exact hx.fresh mem_cons_self rfl
  | release => exact justified_release h hx
  | writeRow => exact justified_writeRow h hx

end LockMove

end

/-! ## Whole runs -/

/-- The state a list of moves leads to, from a deployment without rows. -/
def Holders.after (moves : List LockMove) : Holders := moves.foldl LockMove.apply {}

theorem Holders.guarded_after (h : Run.allowed LockMove.apply LockMove.Justified {} moves) :
    (Holders.after moves).Guarded := by
  refine (Run.of_allowed h).invariant (P := Holders.Guarded) ?_ fun hs hstep =>
    hstep.2 ▸ LockMove.guarded_apply hs hstep.1
  constructor <;> intro g hg <;> cases hg

/-- **Mutual exclusion of the operation lock.**  Along a run, no acquisition is granted while
another one is held exactly when every move of the run is justified. -/
theorem exclusive_iff_justified (moves : List LockMove) :
    (∀ done, done <+: moves → (Holders.after done).Exclusive) ↔
      Run.allowed LockMove.apply LockMove.Justified {} moves := by
  induction moves using reverseRecOn with
  | nil =>
    refine ⟨fun _ => trivial, fun _ done hdone => ?_⟩
    obtain rfl := prefix_nil.1 hdone
    intro hheld
    exact absurd rfl hheld
  | append_singleton moves move ih =>
    rw [Run.allowed_concat, ← ih]
    constructor
    · intro h
      have hbefore : ∀ done, done <+: moves → (Holders.after done).Exclusive := fun done hdone =>
        h done (hdone.trans (prefix_append _ _))
      refine ⟨hbefore, LockMove.justified_of_exclusive (Holders.guarded_after (ih.1 hbefore)) ?_⟩
      have hlast := h (moves ++ [move]) (prefix_refl _)
      rwa [Holders.after, foldl_append] at hlast
    · rintro ⟨hbefore, hmove⟩ done hdone
      rcases prefix_concat_iff.1 hdone with rfl | hdone
      · exact (Holders.guarded_after (Run.allowed_concat.2 ⟨ih.1 hbefore, hmove⟩)).exclusive
      · exact hbefore done hdone

namespace Sample

def rebuild (epoch : Int) (phase : RebuildPhase) : LockMove :=
  .writeRow <| .rebuild
    { RebuildOperationState.newRequested epoch .journalReplay 0 with phase := phase }

def acquire (operation : OperationKind) (holderEpoch nowMs : Int) : LockMove :=
  .acquire ⟨⟨operation, holderEpoch, nowMs⟩, ""⟩

/-- A rebuild takes the lock.  A recovery that asks for it while the rebuild runs is turned away,
and one that asks again when the rebuild is complete is let in. -/
def rebuildThenReorg : List LockMove :=
  [rebuild 1 .requested, acquire .rebuild 1 10, rebuild 1 .lockAcquired, acquire .reorg 1 20,
    rebuild 1 .complete, acquire .reorg 1 30]

/-- A rebuild is completed, and the next one has just taken the lock. -/
def secondRebuild : List LockMove :=
  [rebuild 1 .requested, acquire .rebuild 1 10, rebuild 1 .lockAcquired, rebuild 1 .complete,
    rebuild 2 .requested, acquire .rebuild 2 20, rebuild 2 .lockAcquired]

/-- An execution is done with its row, a reconciliation takes the lock in the same millisecond, and
the execution releases. -/
def sameMillisecond : List LockMove :=
  [.acquire ⟨⟨.execution, 5000, 5000⟩, "0x1"⟩,
    .writeRow (.execution "0x1" ⟨some 5000, .broadcastDisabled⟩),
    acquire .reconciliation 5000 5000, .release 0]

/-- The same, and it is another execution that takes the lock. -/
def sameEpoch : List LockMove :=
  sameMillisecond.take 2 ++ [.acquire ⟨⟨.execution, 5000, 5000⟩, "0x2"⟩]

end Sample

open Sample in
theorem exclusive_while_rebuilding :
    (∀ done, done <+: rebuildThenReorg → (Holders.after done).Exclusive) ∧
      (Holders.after (rebuildThenReorg.take 4)).held = [(0, ⟨⟨.rebuild, 1, 10⟩, ""⟩)] ∧
      (Holders.after rebuildThenReorg).held = [(1, ⟨⟨.reorg, 1, 30⟩, ""⟩)] :=
  ⟨(exclusive_iff_justified _).2 (by decide +kernel), by decide +kernel, by decide +kernel⟩

open Sample in
/-- The completed row of the first rebuild frees the lock of the second one, a release by an
execution frees the lock of a reconciliation, and the row of an execution that of another one. -/
theorem operation_lock_granted_twice :
    ((Holders.after secondRebuild).held = [(1, ⟨⟨.rebuild, 2, 20⟩, ""⟩)] ∧
      ((Holders.after secondRebuild).store.tryAcquireOperationLock .reorg 1 30).1 =
        some ⟨.reorg, 1, false⟩) ∧
    ((Holders.after sameMillisecond).held = [(1, ⟨⟨.reconciliation, 5000, 5000⟩, ""⟩)] ∧
      ((Holders.after sameMillisecond).store.tryAcquireOperationLock .rebuild 1 5001).1 =
        some ⟨.rebuild, 1, false⟩) ∧
    (Holders.after sameEpoch).held = [(1, ⟨⟨.execution, 5000, 5000⟩, "0x2"⟩)] ∧
      ((Holders.after sameEpoch).store.tryAcquireOperationLock .rebuild 1 5001).1 =
        some ⟨.rebuild, 1, false⟩ := by
  decide +kernel

end DeoptBackend.HybridV2
