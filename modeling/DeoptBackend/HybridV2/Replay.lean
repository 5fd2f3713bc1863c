import DeoptBackend.HybridV2.Chain
import DeoptBackend.HybridV2.Correlation

/-!
# Replaying the journal (`src/hybrid_v2/rebuild.rs`)

The projection is rebuilt from the journal alone.  Logs are taken in the order of the chain;
when the transaction changes, the groups of the one before are flushed; a log that cannot be
decoded or reduced is skipped.

* `Fold` — what the replay carries from log to log.  `Fold.take` is a log that goes through,
  and `Fold.takeAll` a list of logs that all do.
* `replayAll` — the rebuild, which skips what does not go through.
* `projectionOf` — the projection a list of logs leads to, if they all go through:
  `replayAll_eq` says that the rebuild gives it.
* `projectionOf_append` — logs of a new transaction can be taken after the projection of the
  logs before them has been settled: this is why block by block and all at once agree.
-/

namespace DeoptBackend.HybridV2

open ExecutionCorrelator Option List

/-- A replay between two logs. -/
structure Fold where
  correlator : ExecutionCorrelator := {}
  state : ProjectionState := {}
  lastTx : Option String := none

namespace Fold

/-- The next log belongs to `tx`: if that is another transaction, the last one has ended. -/
def turnTo (f : Fold) (tx : String) : Fold :=
  match f.lastTx with
  | none => { f with lastTx := some tx }
  | some prev =>
    if prev ≠ tx then
      let cs := flushTransaction prev (f.correlator, f.state)
      { correlator := cs.1, state := cs.2, lastTx := some tx }
    else f

/-- There are no more logs: the last transaction has ended. -/
def finish (f : Fold) : Correlated :=
  match f.lastTx with
  | none => (f.correlator, f.state)
  | some tx => flushTransaction tx (f.correlator, f.state)

/-- The correlator sees an event that was applied. -/
def observing (f : Fold) (event : HybridV2Event) (ctx : ApplyContext) : Fold :=
  let cs := ExecutionCorrelator.observe event ctx (f.correlator, f.state)
  { f with correlator := cs.1, state := cs.2 }

variable (decode : Decoder) (version : Nat)

/-- A log that is decoded and reduced. -/
def take (f : Fold) (log : JournaledLog) : Option Fold :=
  match decode log.raw version with
  | .error _ => none
  | .ok event =>
    let turned := f.turnTo log.txHash
    match apply event log.ctx turned.state with
    | (.ok (), state) => some ({ turned with state := state }.observing event log.ctx)
    | (.error _, _) => none

/-- Logs that all go through. -/
def takeAll (f : Fold) (logs : List JournaledLog) : Option Fold :=
  logs.foldlM (take decode version) f

end Fold

/-! ## The rebuild -/

/-- `RebuildOutcome` of the replay. -/
structure ReplayOutcome where
  eventsReplayed : Nat := 0
  decodeFailures : Nat := 0
  projectionFailures : Nat := 0
  finalHeadBlock : Nat := 0

/-- The order of the chain. -/
def JournaledLog.Before (a b : JournaledLog) : Prop :=
  a.blockNumber < b.blockNumber ∨ (a.blockNumber = b.blockNumber ∧ a.logIndex ≤ b.logIndex)
  deriving Decidable

instance : Std.Total JournaledLog.Before := ⟨fun a b => by
  simp only [JournaledLog.Before]
  omega⟩

instance : IsTrans JournaledLog JournaledLog.Before := ⟨fun a b c => by
  simp only [JournaledLog.Before]
  omega⟩

/-- The canonical logs of a journal, in the order of the chain. -/
def canonicalLogs (journal : List JournaledLog) : List JournaledLog :=
  (journal.filter (·.isCanonical)).insertionSort JournaledLog.Before

/-- One round of the loop of `replay_all`. -/
def replayLog (decode : Decoder) (version : Nat) (acc : Fold × ReplayOutcome)
    (log : JournaledLog) : Fold × ReplayOutcome :=
  let turned := acc.1.turnTo log.txHash
  let outcome := acc.2
  match decode log.raw version with
  | .error _ => (turned, { outcome with decodeFailures := outcome.decodeFailures + 1 })
  | .ok event =>
    match apply event log.ctx turned.state with
    | (.error _, state) =>
      ({ turned with state := state },
        { outcome with projectionFailures := outcome.projectionFailures + 1 })
    | (.ok (), state) =>
      ({ turned with state := state }.observing event log.ctx, { outcome with
          eventsReplayed := outcome.eventsReplayed + 1
          finalHeadBlock := log.blockNumber })

/-- `RebuildService::replay_all`. -/
def replayAll (decode : Decoder) (version : Nat) (journal : List JournaledLog) :
    Correlated × ReplayOutcome :=
  let acc := (canonicalLogs journal).foldl (replayLog decode version) ({}, {})
  (acc.1.finish, acc.2)

/-! ## What holds between two logs -/

/-- All groups being assembled belong to the last transaction. -/
def Fold.Tidy (f : Fold) : Prop :=
  match f.lastTx with
  | none => f.correlator = {}
  | some tx => f.correlator.Within tx

namespace Fold

variable {f : Fold}

theorem Tidy.finish_fst (h : f.Tidy) : f.finish.1 = {} := by
  cases hlast : f.lastTx with
  | none => simpa [finish, Tidy, hlast] using h
  | some =>
    simp only [Tidy, hlast] at h
    simp only [finish, hlast]
    exact flushTransaction_eq_empty h

theorem turnTo_lastTx (f : Fold) (tx : String) : (f.turnTo tx).lastTx = some tx := by
  simp only [turnTo]
  split
  · rfl
  split
  · rfl
  · rename_i prev hprev hne
    rw [hprev, Decidable.not_not.1 hne]

theorem Tidy.turnTo (h : f.Tidy) (tx : String) : (f.turnTo tx).correlator.Within tx := by
  simp only [Fold.turnTo]
  split
  · rename_i hlast
    simp only [Tidy, hlast] at h
    rw [h]
    exact within_empty tx
  rename_i prev hlast
  simp only [Tidy, hlast] at h
  split
  · rw [flushTransaction_eq_empty h]
    exact within_empty tx
  · rename_i hne
    rw [← Decidable.not_not.1 hne]
    exact h

/-- What a log that goes through does. -/
theorem take_eq_some (h : take decode version f log = some f') :
    ∃ event state, decode log.raw version = .ok event ∧
      apply event log.ctx (f.turnTo log.txHash).state = (.ok (), state) ∧
      f' = { f.turnTo log.txHash with state := state }.observing event log.ctx := by
  simp only [take] at h
  split at h
  · cases h
  rename_i event hdecode
  split at h
  · rename_i state happly
    exact ⟨event, state, hdecode, happly, (Option.some.inj h).symm⟩
  · cases h

theorem take_of_ok {state : ProjectionState} (hdecode : decode log.raw version = .ok event)
    (happly : apply event log.ctx (f.turnTo log.txHash).state = (.ok (), state)) :
    take decode version f log =
      some ({ f.turnTo log.txHash with state := state }.observing event log.ctx) := by
  simp [take, hdecode, happly]

theorem take_lastTx (h : take decode version f log = some f') : f'.lastTx = some log.txHash := by
  obtain ⟨event, state, -, -, rfl⟩ := take_eq_some h
  exact turnTo_lastTx f log.txHash

theorem Tidy.take (htidy : f.Tidy) (h : take decode version f log = some f') : f'.Tidy := by
  have hlast := take_lastTx h
  obtain ⟨event, state, -, -, rfl⟩ := take_eq_some h
  have hwithin : ((f.turnTo log.txHash).correlator, state).1.Within log.ctx.txHash :=
    htidy.turnTo log.txHash
  simp only [Tidy, hlast]
  exact hwithin.observe

theorem takeAll_append (f : Fold) (logs logs' : List JournaledLog) :
    takeAll decode version f (logs ++ logs') =
      (takeAll decode version f logs).bind fun f' => takeAll decode version f' logs' :=
  foldlM_append

theorem takeAll_cons (f : Fold) (log : JournaledLog) (logs : List JournaledLog) :
    takeAll decode version f (log :: logs) =
      (take decode version f log).bind fun f' => takeAll decode version f' logs :=
  foldlM_cons

theorem Tidy.takeAll (htidy : f.Tidy) (h : takeAll decode version f logs = some f') : f'.Tidy := by
  induction logs generalizing f with
  | nil => cases h; exact htidy
  | cons log logs ih =>
    obtain ⟨f₁, hfirst, hrest⟩ := bind_eq_some_iff.1 h
    exact ih (htidy.take hfirst) hrest

theorem tidy_of_takeAll {state : ProjectionState}
    (h : takeAll decode version { state := state } logs = some f') : f'.Tidy :=
  Tidy.takeAll (f := { state := state }) rfl h

theorem takeAll_lastTx (h : takeAll decode version f logs = some f') :
    f'.lastTx = (logs.getLast?.map JournaledLog.txHash).or f.lastTx := by
  induction logs generalizing f with
  | nil => cases h; rfl
  | cons log logs ih =>
    obtain ⟨f₁, hfirst, hrest⟩ := bind_eq_some_iff.1 h
    rw [ih hrest, take_lastTx hfirst, getLast?_cons]
    cases logs.getLast? <;> rfl

/-! ## Settling between two transactions -/

/-- The replay as it goes on after the last transaction has been settled. -/
def settled (f : Fold) : Fold := { correlator := f.finish.1, state := f.finish.2 }

theorem turnTo_settled (h : f.lastTx ≠ some tx) : f.settled.turnTo tx = f.turnTo tx := by
  cases hlast : f.lastTx with
  | none => simp [turnTo, settled, finish, hlast]
  | some prev =>
    have hne : prev ≠ tx := fun heq => h (by rw [hlast, heq])
    simp [turnTo, settled, finish, hlast, hne]

theorem take_settled (h : f.lastTx ≠ some log.txHash) :
    take decode version f.settled log = take decode version f log := by
  simp [take, turnTo_settled h]

/-- **Logs of a new transaction may be taken after the last one was settled.** -/
theorem takeAll_settled (h : f.lastTx ≠ some tx) (hlogs : ∀ log ∈ logs, log.txHash = tx) :
    (takeAll decode version f.settled logs).map finish =
      (takeAll decode version f logs).map finish := by
  cases logs with
  | nil => rfl
  | cons log =>
    have hne : f.lastTx ≠ some log.txHash := by
      rw [hlogs log mem_cons_self]
      exact h
    rw [takeAll_cons, takeAll_cons, take_settled hne]

end Fold

/-! ## The projection of a list of logs -/

section

variable (decode : Decoder) (version : Nat)

/-- The projection that logs lead to from a settled one, if they all go through. -/
def projectionFrom (state : ProjectionState) (logs : List JournaledLog) : Option ProjectionState :=
  (Fold.takeAll decode version { state := state } logs).map fun f => f.finish.2

/-- The projection that logs lead to, if they all go through. -/
def projectionOf (logs : List JournaledLog) : Option ProjectionState :=
  projectionFrom decode version {} logs

end

@[simp] theorem projectionOf_nil : projectionOf decode version [] = some {} := rfl

/-- Logs that go through settle without a group left over. -/
theorem projectionFrom_eq_some : projectionFrom decode version state logs = some state' ↔
      ∃ f, Fold.takeAll decode version { state := state } logs = some f ∧
        f.finish = ({}, state') := by
  simp only [projectionFrom, map_eq_some_iff]
  constructor
  · rintro ⟨f, hf, rfl⟩
    exact ⟨f, hf, Prod.ext (Fold.tidy_of_takeAll hf).finish_fst rfl⟩
  · rintro ⟨f, hf, hfinish⟩
    exact ⟨f, hf, by rw [hfinish]⟩

/-- **Block by block.**  When the logs that are added belong to a transaction of their own,
they can be taken from the projection of the logs before them. -/
theorem projectionOf_append (hlogs' : ∀ log ∈ logs', log.txHash = tx)
    (hlast : ∀ log ∈ logs, log.txHash ≠ tx) : projectionOf decode version (logs ++ logs') =
      (projectionOf decode version logs).bind fun state =>
        projectionFrom decode version state logs' := by
  simp only [projectionOf]
  rw [projectionFrom, Fold.takeAll_append]
  cases htake : Fold.takeAll decode version { state := {} } logs with
  | none => simp [projectionFrom, htake]
  | some f =>
    -- the transaction the replay stands in is that of the last log, which is another one
    have hne : f.lastTx ≠ some tx := by
      rw [Fold.takeAll_lastTx htake]
      cases hget : logs.getLast? with
      | none => simp
      | some log =>
        have hmem : log ∈ logs := mem_of_getLast? hget
        simpa using hlast log hmem
    have htidy : f.Tidy := Fold.tidy_of_takeAll htake
    have hsettled : f.settled = { state := f.finish.2 } := by
      simp [Fold.settled, htidy.finish_fst]
    have hmap : (Fold.takeAll decode version f.settled logs').map Fold.finish =
        (Fold.takeAll decode version f logs').map Fold.finish :=
      Fold.takeAll_settled hne hlogs'
    simp only [projectionFrom, htake, bind_some, map_some]
    rw [← hsettled]
    have := congrArg (Option.map Prod.snd) hmap
    simpa [Function.comp_def] using this.symm

/-- The logs before a place go through if all of them do. -/
theorem projectionOf_of_append (h : projectionOf decode version (logs ++ logs') = some state) :
    ∃ state', projectionOf decode version logs = some state' := by
  obtain ⟨f, hf, -⟩ := projectionFrom_eq_some.1 h
  rw [Fold.takeAll_append] at hf
  obtain ⟨f₁, hfirst, -⟩ := bind_eq_some_iff.1 hf
  exact ⟨_, projectionFrom_eq_some.2
    ⟨f₁, hfirst, Prod.ext (Fold.tidy_of_takeAll hfirst).finish_fst rfl⟩⟩

/-! ## The rebuild gives it -/

/-- The outcome of a replay in which every log went through. -/
def ReplayOutcome.after (outcome : ReplayOutcome) (logs : List JournaledLog) : ReplayOutcome :=
  { outcome with
    eventsReplayed := outcome.eventsReplayed + logs.length
    finalHeadBlock := (logs.getLast?.map JournaledLog.blockNumber).getD outcome.finalHeadBlock }

theorem replayLog_of_take (outcome : ReplayOutcome) (h : Fold.take decode version f log = some f') :
    replayLog decode version (f, outcome) log = (f', outcome.after [log]) := by
  obtain ⟨event, state, hdecode, happly, rfl⟩ := Fold.take_eq_some h
  simp only [replayLog, hdecode, happly]
  rfl

theorem replayLogs_of_takeAll (outcome : ReplayOutcome)
    (h : Fold.takeAll decode version f logs = some f') :
    logs.foldl (replayLog decode version) (f, outcome) = (f', outcome.after logs) := by
  induction logs generalizing f outcome with
  | nil => cases h; rfl
  | cons log logs ih =>
    obtain ⟨f₁, hfirst, hrest⟩ := bind_eq_some_iff.1 h
    rw [foldl_cons, replayLog_of_take outcome hfirst, ih _ hrest]
    simp only [ReplayOutcome.after, getLast?_cons]
    cases logs.getLast? <;> simp <;> omega

/-- Logs in the order of the chain, no two at the same place. -/
def InChainOrder (logs : List JournaledLog) : Prop :=
  logs.Pairwise fun a b =>
    a.blockNumber < b.blockNumber ∨ (a.blockNumber = b.blockNumber ∧ a.logIndex < b.logIndex)

theorem InChainOrder.before (h : InChainOrder logs) : logs.Pairwise JournaledLog.Before :=
  h.imp fun hab => hab.imp_right fun heq => ⟨heq.1, Nat.le_of_lt heq.2⟩

/-- A journal whose canonical logs were written in the order of the chain is not reordered. -/
theorem canonicalLogs_of_inChainOrder (h : InChainOrder (journal.filter (·.isCanonical))) :
    canonicalLogs journal = journal.filter (·.isCanonical) :=
  Pairwise.insertionSort_eq h.before

/-- **The rebuild of a journal whose logs all go through** gives their projection, no group
left over, and the block of the last log as its head. -/
theorem replayAll_eq (hlogs : canonicalLogs journal = logs)
    (h : projectionOf decode version logs = some state) :
    replayAll decode version journal = (({}, state), ({} : ReplayOutcome).after logs) := by
  obtain ⟨f, hf, hfinish⟩ := projectionFrom_eq_some.1 h
  simp only [replayAll, hlogs]
  rw [replayLogs_of_takeAll (f := { state := {} }) {} hf, hfinish]

end DeoptBackend.HybridV2
