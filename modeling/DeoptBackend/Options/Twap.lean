import DeoptBackend.Lib.Run
import DeoptBackend.Options.Service

/-!
# TWAP orders (`src/options/service.rs`, `src/options/store.rs`, `src/db/repository.rs`)

A TWAP order is cut into slices.  A tick lists the orders that are due, and for each of
them looks at the slices already recorded, sends the next one to the matcher, records it
and writes the parent back.  Each of these is one call to the store or the repository, and
other ticks and cancels may come between any two of them.

* `TwapTick`, `TwapSystem.turn` — a tick between two of its calls, and its next call.  What
  the matcher answers is left open, and the statements of the repository may fail.
* `OptionTwapOrder.patch` — what a tick writes to the parent: everything it counts, and a status, as
  computed from the row it had listed.
* `TwapCall.Undisturbed` — no tick lists an order that another one is working on, no order is
  cancelled while a tick is, and the record of a slice that was sent is not lost.
* `twap_cancel_final_and_once` — in undisturbed runs a cancel is final and every slice is
  sent once.
* `OneParent.cancel_undone_and_sent_twice` — in others neither holds.
* `slice_hashes_differ_iff` — when two slices have different hashes; nothing but their sizes
  tells them apart.
-/

namespace DeoptBackend

open FMap List Option

/-! ## Rows -/

inductive OptionTwapStatus where
  | pending
  | running
  | completed
  | cancelled
  | failed
  | expired
  deriving DecidableEq

/-- The order still runs. -/
def OptionTwapStatus.isActive : OptionTwapStatus → Bool
  | .pending | .running => true
  | _ => false

structure OptionTwapOrder where
  optionTwapId : Uuid
  account : AccountId
  subaccountId : Nat
  optionSeriesId : OptionSeriesId
  side : Side
  size1e8 : Nat
  remainingSize1e8 : Nat
  limitPrice1e8 : Nat
  childCount : Nat
  /-- The time between two of them. -/
  childIntervalMs : Nat
  nextExecutionAtMs : TimestampMs
  status : OptionTwapStatus
  /-- How many slices were sent. -/
  createdChildCount : Nat
  filledSize1e8 : Nat
  failedChildCount : Nat
  clientOrderId : Option String
  lastError : Option String
  createdAtMs : TimestampMs
  updatedAtMs : TimestampMs

/-- Where a slice stands. -/
inductive OptionTwapChildStatus where
  | scheduled
  | submitted
  | filled
  | partiallyFilled
  | rejected
  | expired
  | failed
  deriving DecidableEq

/-- A slice. -/
structure OptionTwapChildOrder where
  optionTwapChildId : Uuid
  /-- The order it is a slice of. -/
  optionTwapId : Uuid
  sequence : Nat
  scheduledAtMs : TimestampMs
  submittedAtMs : Option TimestampMs
  childOrderId : Option OrderId
  status : OptionTwapChildStatus
  requestedSize1e8 : Nat
  filledSize1e8 : Nat
  limitPrice1e8 : Nat
  errorMessage : Option String

/-- What a tick writes to the parent. -/
structure OptionTwapParentPatch where
  createdChildCount : Nat
  remainingSize1e8 : Nat
  filledSize1e8 : Nat
  failedChildCount : Nat
  nextExecutionAtMs : TimestampMs
  status : OptionTwapStatus
  lastError : Option String
  updatedAtMs : TimestampMs

namespace OptionTwapOrder

variable (twap : OptionTwapOrder)

/-- `apply_option_twap_parent_patch` and `update_option_twap_parent`, on the row. -/
def patched (patch : OptionTwapParentPatch) : OptionTwapOrder :=
  { twap with
    createdChildCount := patch.createdChildCount
    remainingSize1e8 := patch.remainingSize1e8
    filledSize1e8 := patch.filledSize1e8
    failedChildCount := patch.failedChildCount
    nextExecutionAtMs := patch.nextExecutionAtMs
    status := patch.status
    lastError := patch.lastError
    updatedAtMs := patch.updatedAtMs }

def isDue (now : TimestampMs) (twap : OptionTwapOrder) : Bool :=
  twap.status.isActive && decide (twap.nextExecutionAtMs ≤ now) &&
    decide (twap.createdChildCount < twap.childCount)

/-- The size of the next slice; the last one takes what is left. -/
def childSize : Nat :=
  if twap.createdChildCount + 1 = twap.childCount then twap.remainingSize1e8
  else twap.size1e8 / twap.childCount

/-- What the next slice is sent as. -/
def submitInput : SubmitOptionOrderInput where
  optionSeriesId := twap.optionSeriesId
  account := twap.account
  subaccountId := twap.subaccountId
  side := twap.side
  price1e8 := twap.limitPrice1e8
  size1e8 := twap.childSize
  timeInForce := .ioc
  postOnly := false
  clientOrderId := twap.clientOrderId
  nonce := none
  deadlineMs := none
  signature := none
  attachedTpSl := none

end OptionTwapOrder

/-- How the slice that was sent came out. -/
structure TwapDispatch where
  finalStatus : OptionTwapChildStatus
  childOrderId : Option OrderId
  filled : Nat
  error : Option String

/-- What a tick makes of the matcher's answer: the name of the order and what it filled, or
an error. -/
def TwapDispatch.ofAnswer (childSize : Nat) : Except BackendError (OrderId × Nat) → TwapDispatch
  | .ok (orderId, filled) =>
    { finalStatus :=
        if filled = 0 then .rejected
        else if filled ≥ childSize then .filled else .partiallyFilled
      childOrderId := some orderId
      filled := filled
      error := none }
  | .error e => ⟨.failed, none, 0, some e.show⟩

/-- The row a slice is stored as. -/
def OptionTwapOrder.childRow (twap : OptionTwapOrder) (childId : Uuid) (d : TwapDispatch)
    (now : TimestampMs) : OptionTwapChildOrder where
  optionTwapChildId := childId
  optionTwapId := twap.optionTwapId
  sequence := twap.createdChildCount
  scheduledAtMs := twap.nextExecutionAtMs
  submittedAtMs := some now
  childOrderId := d.childOrderId
  status := d.finalStatus
  requestedSize1e8 := twap.childSize
  filledSize1e8 := d.filled
  limitPrice1e8 := twap.limitPrice1e8
  errorMessage := d.error

/-- The patch, from the row that was listed. -/
def OptionTwapOrder.patch (twap : OptionTwapOrder) (d : TwapDispatch) (now : TimestampMs) :
    OptionTwapParentPatch where
  createdChildCount := twap.createdChildCount + 1
  remainingSize1e8 := twap.remainingSize1e8 - d.filled
  filledSize1e8 := twap.filledSize1e8 + d.filled
  failedChildCount := twap.failedChildCount + if d.finalStatus = .failed then 1 else 0
  nextExecutionAtMs := max (twap.nextExecutionAtMs + twap.childIntervalMs)
    (now + twap.childIntervalMs)
  status := if twap.createdChildCount + 1 ≥ twap.childCount then .completed else .running
  lastError := d.error
  updatedAtMs := now

/-! ## Ticks -/

/-- Where a tick stands with the first of its orders. -/
inductive TwapPhase where
  /-- It is about to list the slices. -/
  | check
  /-- It is about to send the next slice. -/
  | submit
  /-- It is about to record the slice. -/
  | record (d : TwapDispatch)
  /-- It is about to write the parent. -/
  | patch (d : TwapDispatch)

/-- The slice was sent, and is not recorded yet. -/
def TwapPhase.isRecord : TwapPhase → Bool
  | .record _ => true
  | _ => false

/-- The slice was found missing, and is not recorded yet. -/
def TwapPhase.isOpen : TwapPhase → Bool
  | .submit | .record _ => true
  | _ => false

structure TickOptionTwapOutcome where
  childrenCreated : Nat
  childrenFailed : Nat
  parentsCompleted : Nat

/-- A tick between two of its calls. -/
structure TwapTick where
  /-- When it started. -/
  now : TimestampMs
  /-- The orders it still has to work on, as it listed them. -/
  due : List OptionTwapOrder
  /-- Where it stands with the first of them. -/
  phase : TwapPhase
  /-- What it has counted. -/
  outcome : TickOptionTwapOutcome

section

variable (tick : TwapTick)

/-- The tick stands somewhere else with its order. -/
def TwapTick.to (phase : TwapPhase) : TwapTick := { tick with phase := phase }

/-- The tick goes on with the next order. -/
def TwapTick.skip : TwapTick := { tick with due := tick.due.tail, phase := .check }

/-- The tick ends with an error. -/
def TwapTick.abort : TwapTick := { tick with due := [], phase := .check }

/-- The tick has written the parent. -/
def TwapTick.finish (twap : OptionTwapOrder) (d : TwapDispatch) : TwapTick :=
  { tick.skip with outcome :=
    { childrenCreated := tick.outcome.childrenCreated + 1
      childrenFailed := tick.outcome.childrenFailed + if d.finalStatus = .failed then 1 else 0
      parentsCompleted := tick.outcome.parentsCompleted +
        if twap.createdChildCount + 1 ≥ twap.childCount then 1 else 0 } }

end

inductive TwapBackend where
  | memory
  | postgres
  deriving DecidableEq

/-- What becomes of a statement: it is answered, or the call fails, with nothing done or after
it was carried out. -/
inductive TwapStatement where
  | answered
  | lost
  | unanswered
  deriving DecidableEq

/-- Nothing fails in memory. -/
def TwapBackend.statement : TwapBackend → TwapStatement → TwapStatement
  | .memory, _ => .answered
  | .postgres, statement => statement

/-- The tick goes on if its statement is answered. -/
def TwapTick.on (tick : TwapTick) (statement : TwapStatement) (next : TwapTick) : TwapTick :=
  if statement = .answered then next else tick.abort

/-- A slice that was sent to the matcher. -/
structure TwapSubmission where
  optionTwapId : Uuid
  sequence : Nat
  input : SubmitOptionOrderInput

/-- The rows and the ticks that run.  The last field is what the statements are about, and
no function reads it. -/
structure TwapSystem where
  twaps : FMap Uuid OptionTwapOrder
  children : FMap Uuid OptionTwapChildOrder
  /-- The ticks, under a name for each. -/
  ticks : FMap Nat TwapTick
  /-- The slices that were sent, last first. -/
  submitted : List TwapSubmission

namespace TwapSystem

/-- `list_due_option_twap_orders`. -/
def listDue (now : TimestampMs) (s : TwapSystem) : List OptionTwapOrder :=
  (s.twaps.vals.filter (·.isDue now)).insertionSort fun a b =>
    a.nextExecutionAtMs < b.nextExecutionAtMs ∨
      (a.nextExecutionAtMs = b.nextExecutionAtMs ∧ a.optionTwapId ≤ b.optionTwapId)

/-- The slice of a number is recorded. -/
def hasChild (s : TwapSystem) (id : Uuid) (sequence : Nat) : Bool :=
  s.children.vals.any fun c => decide (c.optionTwapId = id) && decide (c.sequence = sequence)

/-- A tick is written back. -/
def retick (s : TwapSystem) (name : Nat) (tick : TwapTick) : TwapSystem :=
  { s with ticks := s.ticks.set name tick }

/-- `tick_option_twap_orders` starts: it lists the orders that are due. -/
def startTick (s : TwapSystem) (name : Nat) (now : TimestampMs) : TwapSystem :=
  s.retick name ⟨now, s.listDue now, .check, ⟨0, 0, 0⟩⟩

variable (backend : TwapBackend) (s : TwapSystem)

/-- `insert_option_twap_child`: the table takes one row for each number of an order.  In
memory the row is stored and updated under one lock. -/
def recordChild (row : OptionTwapChildOrder) :
    Except BackendError (FMap Uuid OptionTwapChildOrder) :=
  if backend = .postgres ∧ ((s.children.get? row.optionTwapChildId).isSome ∨
      s.hasChild row.optionTwapId row.sequence ∨ (s.twaps.get? row.optionTwapId).isNone) then
    .error (.persistence
      "error returned from database: option_twap_child_orders violates a constraint")
  else .ok (s.children.set row.optionTwapChildId row)

/-- The next call of a tick.  The matcher answers with `answer`, a slice that is recorded is
named `childId`, and `outcome` is what becomes of the statement of the call. -/
def turn (name : Nat) (answer : Except BackendError (OrderId × Nat)) (childId : Uuid)
    (outcome : TwapStatement) : TwapSystem :=
  let statement := backend.statement outcome
  match s.ticks.get? name with
  | none => s
  | some tick =>
    match tick.due, tick.phase with
    | [], _ => s
    | twap :: _, .check =>
      if twap.status.isActive = false ∨ twap.childCount ≤ twap.createdChildCount then
        s.retick name tick.skip
      else
        s.retick name <| tick.on statement <|
          if s.hasChild twap.optionTwapId twap.createdChildCount then tick.skip else tick.to .submit
    | twap :: _, .submit =>
      { s.retick name (tick.to (.record (.ofAnswer twap.childSize answer))) with
        submitted := ⟨twap.optionTwapId, twap.createdChildCount, twap.submitInput⟩ :: s.submitted }
    | twap :: _, .record d =>
      match s.recordChild backend (twap.childRow childId d tick.now) with
      | .error _ => s.retick name tick.abort
      | .ok children =>
        if statement = .lost then s.retick name tick.abort
        else { s.retick name (tick.on statement (tick.to (.patch d))) with children := children }
    | twap :: _, .patch d =>
      match s.twaps.get? twap.optionTwapId with
      | none => s.retick name tick.abort
      | some row =>
        if statement = .lost then s.retick name tick.abort
        else
          { s.retick name (tick.on statement (tick.finish twap d)) with
            twaps := s.twaps.set twap.optionTwapId (row.patched (twap.patch d tick.now)) }

/-- `cancel_option_twap_order`. -/
def cancel (backend : TwapBackend) (id : Uuid) (now : TimestampMs) :
    Act BackendError TwapSystem OptionTwapOrder := fun s =>
  match s.twaps.get? id with
  | none =>
    (.error (match backend with
      | .memory => .invalidOptionTwapOrderId
      | .postgres => .invalidOptionTwapState "TWAP order is not cancellable"), s)
  | some twap =>
    if twap.status.isActive then
      let row := { twap with status := .cancelled, updatedAtMs := now }
      (.ok row, { s with twaps := s.twaps.set id row })
    else (.error (.invalidOptionTwapState "TWAP order is not cancellable"), s)

end TwapSystem

/-- What happens to the system. -/
inductive TwapCall where
  | start (name : Nat) (now : TimestampMs)
  /-- A tick makes its next call. -/
  | turn (name : Nat) (answer : Except BackendError (OrderId × Nat)) (childId : Uuid)
    (outcome : TwapStatement)
  | cancel (id : Uuid) (now : TimestampMs)
  | create (twap : OptionTwapOrder)

namespace TwapCall

def run (backend : TwapBackend) (s : TwapSystem) : TwapCall → TwapSystem
  | start name now => s.startTick name now
  | turn name answer childId outcome => s.turn backend name answer childId outcome
  | cancel id now => (TwapSystem.cancel backend id now s).2
  | create twap => { s with twaps := s.twaps.set twap.optionTwapId twap }

/-- The names that are drawn are new. -/
def Admissible (s : TwapSystem) : TwapCall → Prop
  | start name _ => s.ticks.get? name = none
  | turn _ _ childId _ => s.children.get? childId = none
  | cancel _ _ => True
  | create twap => s.twaps.get? twap.optionTwapId = none

end TwapCall

instance (s : TwapSystem) (call : TwapCall) : Decidable (call.Admissible s) := by
  cases call <;> unfold TwapCall.Admissible <;> infer_instance

/-- A tick has an order among those it still has to work on. -/
def TwapSystem.Holds (s : TwapSystem) (name : Nat) (id : Uuid) : Prop :=
  ∃ tick, s.ticks.get? name = some tick ∧ id ∈ tick.due.map (·.optionTwapId)

/-- A tick that starts finds no order that another tick holds, an order that is cancelled is
held by none, and the insert of a slice that was sent is carried out. -/
def TwapCall.Undisturbed (s : TwapSystem) : TwapCall → Prop
  | .start _ now => ∀ twap ∈ s.listDue now, ∀ name, ¬ s.Holds name twap.optionTwapId
  | .cancel id _ => ∀ name, ¬ s.Holds name id
  | .turn name _ _ outcome =>
    outcome = .lost → ∀ tick ∈ s.ticks.get? name, tick.phase.isRecord = false
  | .create _ => True

/-! ## The invariant -/

namespace TwapSystem

variable {s : TwapSystem}

/-- What the ticks hold: every order is stored as it was listed, still runs, and is held
once. -/
structure Held (s : TwapSystem) : Prop where
  /-- An order is stored under its own name. -/
  filed : ∀ {id twap}, s.twaps.get? id = some twap → twap.optionTwapId = id
  /-- What is held is stored as it was listed, and still runs. -/
  stored : ∀ {name tick twap}, s.ticks.get? name = some tick → twap ∈ tick.due →
    s.twaps.get? twap.optionTwapId = some twap ∧ twap.status.isActive = true
  /-- No tick holds it twice. -/
  nodup : ∀ {name tick}, s.ticks.get? name = some tick → (tick.due.map (·.optionTwapId)).Nodup
  /-- No two ticks hold it. -/
  apart : ∀ {name name' id}, s.Holds name id → s.Holds name' id → name = name'

/-- The next slice of an order is recorded, or a tick that has sent it is about to record it. -/
def Traced (s : TwapSystem) (twap : OptionTwapOrder) : Prop :=
  s.hasChild twap.optionTwapId twap.createdChildCount = true ∨
    ∃ name tick rest, s.ticks.get? name = some tick ∧ tick.due = twap :: rest ∧
      tick.phase.isRecord = true

/-- The invariant.  Every slice was sent once, with a number below the count of its order, or
equal to it while the order has not been written. -/
structure Dispatched (s : TwapSystem) : Prop extends s.Held where
  /-- A slice that a tick is about to send or record is not recorded. -/
  unrecorded : ∀ {name tick twap rest}, s.ticks.get? name = some tick → tick.due = twap :: rest →
    tick.phase.isOpen = true → s.hasChild twap.optionTwapId twap.createdChildCount = false
  /-- What was sent is counted, or can still be found. -/
  counted : ∀ e ∈ s.submitted, ∃ twap, s.twaps.get? e.optionTwapId = some twap ∧
    (e.sequence < twap.createdChildCount ∨ e.sequence = twap.createdChildCount ∧ s.Traced twap)
  /-- Nothing was sent twice. -/
  once : (s.submitted.map fun e => (e.optionTwapId, e.sequence)).Nodup

theorem holds_of_mem (htick : s.ticks.get? name = some tick) (hmem : twap ∈ tick.due) :
    s.Holds name twap.optionTwapId :=
  ⟨tick, htick, mem_map_of_mem hmem⟩

@[simp] theorem get?_retick_self (s : TwapSystem) (name : Nat) (tick : TwapTick) :
    (s.retick name tick).ticks.get? name = some tick :=
  get?_set_self ..

theorem get?_retick : (s.retick name tick').ticks.get? n = some t ↔
      n = name ∧ tick' = t ∨ n ≠ name ∧ s.ticks.get? n = some t :=
  get?_set_eq_some

section

variable (h : s.Held)
include h

/-- What is held only depends on the orders and the ticks. -/
theorem Held.congr {s' : TwapSystem} (htwaps : s'.twaps = s.twaps) (hticks : s'.ticks = s.ticks) :
    s'.Held where
  filed := fun hid => h.filed (htwaps ▸ hid)
  stored := fun htick hmem => htwaps ▸ h.stored (hticks ▸ htick) hmem
  nodup := fun htick => h.nodup (hticks ▸ htick)
  apart := by
    rintro name name' id ⟨tick, htick, hmem⟩ ⟨tick', htick', hmem'⟩
    exact h.apart ⟨tick, hticks ▸ htick, hmem⟩ ⟨tick', hticks ▸ htick', hmem'⟩

/-- A tick may hold orders that run, if no other tick does. -/
theorem Held.put (hstored : ∀ twap ∈ tick'.due,
      s.twaps.get? twap.optionTwapId = some twap ∧ twap.status.isActive = true)
    (hnodup : (tick'.due.map (·.optionTwapId)).Nodup)
    (hapart : ∀ n id, n ≠ name → s.Holds n id → id ∉ tick'.due.map (·.optionTwapId)) :
    (s.retick name tick').Held := by
  have hholds : ∀ {n id}, (s.retick name tick').Holds n id →
      n = name ∧ id ∈ tick'.due.map (·.optionTwapId) ∨ n ≠ name ∧ s.Holds n id := by
    rintro n id ⟨t, ht, hmem⟩
    rcases get?_retick.1 ht with ⟨rfl, rfl⟩ | ⟨hn, ht⟩
    · exact .inl ⟨rfl, hmem⟩
    · exact .inr ⟨hn, t, ht, hmem⟩
  refine ⟨h.filed, ?_, ?_, ?_⟩
  · intro n t twap ht hmem
    rcases get?_retick.1 ht with ⟨-, rfl⟩ | ⟨-, ht⟩
    · exact hstored twap hmem
    · exact h.stored ht hmem
  · intro n t ht
    rcases get?_retick.1 ht with ⟨-, rfl⟩ | ⟨-, ht⟩
    · exact hnodup
    · exact h.nodup ht
  · intro n n' id hn hn'
    rcases hholds hn with ⟨rfl, hmem⟩ | ⟨hne, hold⟩ <;>
      rcases hholds hn' with ⟨rfl, hmem'⟩ | ⟨hne', hold'⟩
    · rfl
    · exact absurd hmem (hapart n' id hne' hold')
    · exact absurd hmem' (hapart n id hne hold)
    · exact h.apart hold hold'

/-- A tick that goes on holds no more than before. -/
theorem Held.retick (htick : s.ticks.get? name = some tick) (hdue : tick'.due.Sublist tick.due) :
    (s.retick name tick').Held := by
  refine h.put (fun twap hmem => h.stored htick (hdue.subset hmem))
    ((hdue.map _).nodup (h.nodup htick)) fun n id hn hholds hmem => ?_
  exact hn (h.apart hholds ⟨tick, htick, (hdue.map _).subset hmem⟩)

/-- An order that no tick holds may be written. -/
theorem Held.write {id : Uuid} (hfree : ∀ name, ¬ s.Holds name id) (hid : row.optionTwapId = id) :
    { s with twaps := s.twaps.set id row }.Held := by
  refine ⟨fun h' => forall_set h' hid h.filed, ?_, h.nodup, h.apart⟩
  intro n t twap ht hmem
  have hne : twap.optionTwapId ≠ id := fun heq => hfree n (heq ▸ holds_of_mem ht hmem)
  rw [get?_set_ne _ hne]
  exact h.stored ht hmem

/-- An order that a tick is done with may be written. -/
theorem Held.rewrite (htick : s.ticks.get? name = some tick) {rest : List OptionTwapOrder}
    (hdue : tick.due = twap :: rest) (hrest : tick'.due.Sublist rest)
    (hid : row.optionTwapId = twap.optionTwapId) :
    { s.retick name tick' with twaps := s.twaps.set twap.optionTwapId row }.Held := by
  have hsub : tick'.due.Sublist tick.due := hdue ▸ hrest.cons _
  refine (h.retick htick hsub).write ?_ hid
  -- no tick holds the order any more
  rintro n ⟨t, ht, hmem⟩
  rcases get?_retick.1 ht with ⟨rfl, rfl⟩ | ⟨hn, ht⟩
  · have hnodup := h.nodup htick
    rw [hdue, map_cons, nodup_cons] at hnodup
    exact hnodup.1 ((hrest.map _).subset hmem)
  · exact hn (h.apart ⟨t, ht, hmem⟩ (holds_of_mem htick (hdue ▸ mem_cons_self)))

end

/-- What can be found still can when a tick goes on that is not about to record. -/
theorem Traced.retick (h : s.Traced twap)
    (hunsent : ∀ tick, s.ticks.get? name = some tick → tick.phase.isRecord = false) :
    (s.retick name tick').Traced twap := by
  refine h.imp_right ?_
  rintro ⟨n, t, rest, ht, hdue, hrecord⟩
  have hn : n ≠ name := by
    rintro rfl
    rw [hunsent t ht] at hrecord
    cases hrecord
  exact ⟨n, t, rest, get?_retick.2 (.inr ⟨hn, ht⟩), hdue, hrecord⟩

theorem Dispatched.counted_retick (h : s.Dispatched)
    (hunsent : ∀ tick, s.ticks.get? name = some tick → tick.phase.isRecord = false)
    (he : e ∈ s.submitted) : ∃ twap, s.twaps.get? e.optionTwapId = some twap ∧
      (e.sequence < twap.createdChildCount ∨
        e.sequence = twap.createdChildCount ∧ (s.retick name tick').Traced twap) := by
  obtain ⟨twap, htwap, hcounted⟩ := h.counted e he
  exact ⟨twap, htwap, hcounted.imp_right fun ⟨heq, htraced⟩ => ⟨heq, htraced.retick hunsent⟩⟩

theorem isRecord_of_get? (htick : s.ticks.get? name = some tick)
    (hunsent : tick.phase.isRecord = false) :
    ∀ t, s.ticks.get? name = some t → t.phase.isRecord = false := by
  rintro t ht
  rwa [← some.inj (htick.symm.trans ht)]

theorem Dispatched.unrecorded_retick (h : s.Dispatched)
    (hopen : tick'.phase.isOpen = true → ∀ twap rest, tick'.due = twap :: rest →
      s.hasChild twap.optionTwapId twap.createdChildCount = false)
    (ht : (s.retick name tick').ticks.get? n = some t) (hdue : t.due = twap :: rest)
    (hwaits : t.phase.isOpen = true) :
    s.hasChild twap.optionTwapId twap.createdChildCount = false := by
  rcases get?_retick.1 ht with ⟨-, rfl⟩ | ⟨-, ht⟩
  · exact hopen hwaits twap rest hdue
  · exact h.unrecorded ht hdue hwaits

/-- A tick that has sent nothing for its order may go on. -/
theorem Dispatched.retick (h : s.Dispatched) (htick : s.ticks.get? name = some tick)
    (hunsent : tick.phase.isRecord = false) (hless : tick'.due.Sublist tick.due)
    (hopen : tick'.phase.isOpen = true → ∀ twap rest, tick'.due = twap :: rest →
      s.hasChild twap.optionTwapId twap.createdChildCount = false) :
    (s.retick name tick').Dispatched :=
  ⟨h.toHeld.retick htick hless, h.unrecorded_retick hopen,
    fun _ he => h.counted_retick (isRecord_of_get? htick hunsent) he, h.once⟩

theorem Dispatched.retick_shut (h : s.Dispatched) (htick : s.ticks.get? name = some tick)
    (hunsent : tick.phase.isRecord = false) (hless : tick'.due.Sublist tick.due)
    (hshut : tick'.phase.isOpen = false) : (s.retick name tick').Dispatched := by
  refine h.retick htick hunsent hless fun hopen => ?_
  rw [hshut] at hopen
  cases hopen

/-! ### The calls of a tick -/

/-- **A slice is sent.** -/
theorem Dispatched.submit (h : s.Dispatched) (htick : s.ticks.get? name = some tick)
    (hdue : tick.due = twap :: rest) (hphase : tick.phase = .submit) (d : TwapDispatch)
    (input : SubmitOptionOrderInput) :
    { s.retick name (tick.to (.record d)) with
      submitted := ⟨twap.optionTwapId, twap.createdChildCount, input⟩ :: s.submitted }.Dispatched := by
  have hmem : twap ∈ tick.due := hdue ▸ mem_cons_self
  have hstored := (h.stored htick hmem).1
  have hfree := h.unrecorded htick hdue (by rw [hphase]; rfl)
  have hheld : (s.retick name (tick.to (.record d))).Held := h.toHeld.retick htick (.refl _)
  refine ⟨hheld.congr rfl rfl, h.unrecorded_retick fun _ other rest' hdue' => ?_, ?_, ?_⟩
  · obtain ⟨rfl, -⟩ := cons.inj (hdue.symm.trans hdue')
    exact hfree
  · intro e he
    rcases mem_cons.1 he with rfl | he
    · exact ⟨twap, hstored, .inr ⟨rfl, .inr ⟨name, _, rest, get?_retick_self .., hdue, rfl⟩⟩⟩
    · exact h.counted_retick (isRecord_of_get? htick (by rw [hphase]; rfl)) he
  · rw [map_cons, nodup_cons]
    refine ⟨fun hin => ?_, h.once⟩
    -- had it been sent before, it would be recorded, or this tick would be about to record it
    obtain ⟨e, he, hkey⟩ := mem_map.1 hin
    obtain ⟨hid, hseq⟩ := Prod.mk.inj hkey
    obtain ⟨other, hother, hcounted⟩ := h.counted e he
    rw [hid, hstored, some.injEq] at hother
    subst hother
    rcases hcounted with hlt | ⟨-, hchild | ⟨n, t, rest', ht, hdue', hrecord⟩⟩
    · exact absurd hseq (Nat.ne_of_lt hlt)
    · rw [hfree] at hchild
      cases hchild
    have hmem' : twap ∈ t.due := hdue' ▸ mem_cons_self
    obtain rfl := h.apart (holds_of_mem ht hmem') (holds_of_mem htick hmem)
    obtain rfl := some.inj (htick.symm.trans ht)
    rw [hphase] at hrecord
    cases hrecord

theorem hasChild_set {row : OptionTwapChildOrder}
    (hnew : s.children.get? row.optionTwapChildId = none) (id : Uuid) (sequence : Nat) :
    { s with children := s.children.set row.optionTwapChildId row }.hasChild id sequence =
      ((decide (row.optionTwapId = id) && decide (row.sequence = sequence)) ||
        s.hasChild id sequence) := by
  rw [hasChild, hasChild, vals_set_new hnew, any_cons]

section

variable (h : s.Dispatched) (htick : s.ticks.get? name = some tick) (hdue : tick.due = twap :: rest)
include h htick hdue

/-- **A slice is recorded.** -/
theorem Dispatched.record (row : OptionTwapChildOrder) (hrow : row.optionTwapId = twap.optionTwapId)
    (hsequence : row.sequence = twap.createdChildCount)
    (hnew : s.children.get? row.optionTwapChildId = none) (hless : tick'.due.Sublist tick.due)
    (hshut : tick'.phase.isOpen = false) :
    { s.retick name tick' with
      children := s.children.set row.optionTwapChildId row }.Dispatched := by
  refine ⟨(h.toHeld.retick htick hless).congr rfl rfl, ?_, fun e he => ?_, h.once⟩
  · intro n t other rest' ht hdue' hwaits
    rcases get?_retick.1 ht with ⟨rfl, rfl⟩ | ⟨hn, ht⟩
    · rw [hshut] at hwaits
      cases hwaits
    have hother : row.optionTwapId ≠ other.optionTwapId := by
      intro heq
      have hhere := holds_of_mem ht (hdue' ▸ mem_cons_self : other ∈ t.due)
      have hthere := holds_of_mem htick (hdue ▸ mem_cons_self : twap ∈ tick.due)
      exact hn (h.apart (heq.symm.trans hrow ▸ hhere) hthere)
    refine (hasChild_set hnew _ _).trans ?_
    rw [decide_eq_false hother, Bool.false_and, Bool.false_or]
    exact h.unrecorded ht hdue' hwaits
  obtain ⟨other, hother, hcounted⟩ := h.counted e he
  refine ⟨other, hother, hcounted.imp_right fun ⟨heq, htraced⟩ => ⟨heq, ?_⟩⟩
  rcases htraced with hchild | ⟨n, t, rest', ht, hdue', hrecord⟩
  · exact .inl ((hasChild_set hnew _ _).trans (by rw [hchild, Bool.or_true]))
  by_cases hn : n = name
  · -- it is the slice that has just been recorded
    subst hn
    obtain rfl := some.inj (htick.symm.trans ht)
    obtain ⟨rfl, -⟩ := cons.inj (hdue.symm.trans hdue')
    exact .inl ((hasChild_set hnew _ _).trans (by simp [hrow, hsequence]))
  · exact .inr ⟨n, t, rest', get?_retick.2 (.inr ⟨hn, ht⟩), hdue', hrecord⟩

/-- **The parent is written.** -/
theorem Dispatched.patch (hunsent : tick.phase.isRecord = false) (hrest : tick'.due.Sublist rest)
    (hshut : tick'.phase.isOpen = false) (hid : row.optionTwapId = twap.optionTwapId)
    (hcount : row.createdChildCount = twap.createdChildCount + 1) :
    { s.retick name tick' with twaps := s.twaps.set twap.optionTwapId row }.Dispatched := by
  have hstored := (h.stored htick (hdue ▸ mem_cons_self : twap ∈ tick.due)).1
  refine ⟨h.toHeld.rewrite htick hdue hrest hid,
    h.unrecorded_retick (by simp [hshut]), fun e he => ?_, h.once⟩
  obtain ⟨other, hother, hcounted⟩ := h.counted e he
  by_cases hid : e.optionTwapId = twap.optionTwapId
  · rw [hid, hstored, some.injEq] at hother
    subst hother
    refine ⟨row, by rw [hid]; exact get?_set_self .., .inl ?_⟩
    rcases hcounted with hlt | ⟨heq, -⟩ <;> omega
  exact ⟨other, by rw [get?_set_ne _ hid]; exact hother, hcounted.imp_right fun ⟨heq, htraced⟩ =>
    ⟨heq, htraced.retick (isRecord_of_get? htick hunsent)⟩⟩

/-- Under the invariant no constraint is violated by a slice with a new name. -/
theorem recordChild_eq_ok (hphase : tick.phase = .record d) (backend : TwapBackend)
    (hnew : s.children.get? childId = none) :
    s.recordChild backend (twap.childRow childId d tick.now) =
      .ok (s.children.set childId (twap.childRow childId d tick.now)) := by
  have hstored := (h.stored htick (hdue ▸ mem_cons_self : twap ∈ tick.due)).1
  have hfree := h.unrecorded htick hdue (by rw [hphase]; rfl)
  exact if_neg (by simp [OptionTwapOrder.childRow, hnew, hfree, hstored])

end

theorem isOpen_on {tick tick' : TwapTick} (statement : TwapStatement)
    (hshut : tick'.phase.isOpen = false) :
    (tick.on statement tick').phase.isOpen = false := by
  unfold TwapTick.on
  split
  · exact hshut
  · rfl

theorem due_on {tick tick' : TwapTick} (statement : TwapStatement) :
    (tick.on statement tick').due.Sublist tick'.due := by
  unfold TwapTick.on
  split
  · exact .refl _
  · exact nil_sublist _

theorem eq_lost_of_statement {backend : TwapBackend} (h : backend.statement outcome = .lost) :
    outcome = .lost := by
  cases backend with
  | memory => cases h
  | postgres => exact h

/-- **A call of a tick keeps the invariant**, if no record is lost. -/
theorem Dispatched.turn (h : s.Dispatched) (backend : TwapBackend)
    (answer : Except BackendError (OrderId × Nat)) {childId : Uuid}
    (hnew : s.children.get? childId = none)
    (hkept : outcome = .lost → ∀ tick ∈ s.ticks.get? name, tick.phase.isRecord = false) :
    (s.turn backend name answer childId outcome).Dispatched := by
  unfold TwapSystem.turn
  cases htick : s.ticks.get? name with
  | none => exact h
  | some tick =>
    obtain ⟨now, due, phase, counts⟩ := tick
    cases due with
    | nil => exact h
    | cons twap rest =>
      cases phase with
      | check =>
        dsimp only
        split
        · exact h.retick_shut htick rfl (sublist_cons_self _ _) rfl
        unfold TwapTick.on
        split
        · split
          · exact h.retick_shut htick rfl (sublist_cons_self _ _) rfl
          next hfree =>
            refine h.retick htick rfl (.refl _) fun _ other rest' hdue => ?_
            obtain ⟨rfl, -⟩ := cons.inj hdue
            simpa using hfree
        · exact h.retick_shut htick rfl (nil_sublist _) rfl
      | submit => exact h.submit htick rfl rfl _ _
      | record d =>
        simp only [recordChild_eq_ok h htick rfl rfl backend hnew]
        split
        · next hlost => cases hkept (eq_lost_of_statement hlost) _ htick
        · exact h.record htick rfl (twap.childRow childId d now) rfl rfl hnew (due_on _)
            (isOpen_on _ rfl)
      | patch d =>
        simp only [(h.stored htick mem_cons_self).1]
        split
        · exact h.retick_shut htick rfl (nil_sublist _) rfl
        · exact h.patch htick rfl rfl (due_on _) (isOpen_on _ rfl) rfl rfl

/-! ### The other calls -/

theorem nodup_listDue (hheld : s.Held) (now : TimestampMs) :
    ((s.listDue now).map (·.optionTwapId)).Nodup := by
  have hall : (s.twaps.vals.map (·.optionTwapId)).Nodup := nodup_vals_map fun hid => hheld.filed hid
  have hdue : ((s.twaps.vals.filter (·.isDue now)).map (·.optionTwapId)).Nodup :=
    (filter_sublist.map _).nodup hall
  exact ((perm_insertionSort _ _).map _).nodup_iff.2 hdue

theorem of_mem_listDue (hheld : s.Held) (hmem : twap ∈ s.listDue now) :
    s.twaps.get? twap.optionTwapId = some twap ∧ twap.status.isActive = true := by
  obtain ⟨hvals, hdue⟩ := mem_filter.1 (mem_insertionSort _ |>.1 hmem)
  obtain ⟨id, hid⟩ := mem_vals.1 hvals
  rw [OptionTwapOrder.isDue, Bool.and_eq_true, Bool.and_eq_true] at hdue
  exact ⟨by rw [hheld.filed hid, hid], hdue.1.1⟩

/-- **A tick that starts undisturbed keeps the invariant.** -/
theorem Dispatched.startTick (h : s.Dispatched) {now : TimestampMs}
    (hname : s.ticks.get? name = none)
    (hquiet : ∀ twap ∈ s.listDue now, ∀ name, ¬ s.Holds name twap.optionTwapId) :
    (s.startTick name now).Dispatched := by
  refine ⟨h.toHeld.put (fun twap hmem => of_mem_listDue h.toHeld hmem)
    (nodup_listDue h.toHeld now) fun n id _ hn hmem => ?_, h.unrecorded_retick nofun,
    fun e he => h.counted_retick (fun t ht => ?_) he, h.once⟩
  · obtain ⟨twap, htwap, rfl⟩ := mem_map.1 hmem
    exact hquiet twap htwap n hn
  · rw [hname] at ht
    cases ht

/-- **Writing an order that no tick holds keeps the invariant**, if its count is kept. -/
theorem Dispatched.write (h : s.Dispatched) (row : OptionTwapOrder)
    (hfree : ∀ name, ¬ s.Holds name row.optionTwapId)
    (hcount : ∀ twap, s.twaps.get? row.optionTwapId = some twap →
      row.createdChildCount = twap.createdChildCount) :
    { s with twaps := s.twaps.set row.optionTwapId row }.Dispatched := by
  refine ⟨h.toHeld.write hfree rfl, h.unrecorded, fun e he => ?_, h.once⟩
  obtain ⟨twap, htwap, hcounted⟩ := h.counted e he
  by_cases hid : e.optionTwapId = row.optionTwapId
  · refine ⟨row, by rw [hid]; exact get?_set_self .., ?_⟩
    rw [hid] at htwap
    rw [hcount twap htwap]
    refine hcounted.imp_right fun ⟨heq, htraced⟩ => ⟨heq, ?_⟩
    rcases htraced with hchild | ⟨n, t, rest, ht, hdue, -⟩
    · rw [Traced, hcount twap htwap, ← h.filed htwap]
      exact .inl hchild
    · have hmem : twap ∈ t.due := hdue ▸ mem_cons_self
      exact absurd (h.filed htwap ▸ holds_of_mem ht hmem) (hfree n)
  · exact ⟨twap, by rw [get?_set_ne _ hid]; exact htwap, hcounted⟩

theorem Dispatched.cancel (h : s.Dispatched) (backend : TwapBackend) {id : Uuid}
    (now : TimestampMs) (hquiet : ∀ name, ¬ s.Holds name id) :
    (TwapSystem.cancel backend id now s).2.Dispatched := by
  unfold TwapSystem.cancel
  cases htwap : s.twaps.get? id with
  | none => exact h
  | some twap =>
    obtain rfl := h.filed htwap
    dsimp only
    split
    · refine h.write { twap with status := .cancelled, updatedAtMs := now } hquiet
        fun other hother => ?_
      rw [htwap, some.injEq] at hother
      rw [← hother]
    · exact h

/-! ## Runs -/

/-- What was sent for an order. -/
def submissionsOf (s : TwapSystem) (id : Uuid) : List TwapSubmission :=
  s.submitted.filter fun e => decide (e.optionTwapId = id)

/-- Orders and slices, and no tick. -/
def Idle (s : TwapSystem) : Prop :=
  (∀ id twap, s.twaps.get? id = some twap → twap.optionTwapId = id) ∧ s.ticks = ∅ ∧ s.submitted = []

theorem Idle.dispatched (h : s.Idle) : s.Dispatched := by
  have hnone : ∀ {name tick}, s.ticks.get? name ≠ some tick := by
    intro name tick htick
    rw [h.2.1] at htick
    cases htick
  refine ⟨⟨fun hid => h.1 _ _ hid, fun htick => absurd htick hnone,
    fun htick => absurd htick hnone, ?_⟩, fun htick => absurd htick hnone, by simp [h.2.2],
    by simp [h.2.2]⟩
  rintro name name' id ⟨tick, htick, -⟩
  exact absurd htick hnone

end TwapSystem

/-- A call with new names. -/
def TwapCall.Step (backend : TwapBackend) : TwapSystem → TwapCall → TwapSystem → Prop :=
  stepOf (TwapCall.run backend) TwapCall.Admissible

/-- A call with new names that comes at a quiet moment. -/
def TwapCall.QuietStep (backend : TwapBackend) : TwapSystem → TwapCall → TwapSystem → Prop :=
  stepOf (TwapCall.run backend) fun s call => call.Admissible s ∧ call.Undisturbed s

section

open TwapSystem

variable {s : TwapSystem} {call : TwapCall} {id : Uuid}

theorem quietStep_keeps (h : s.Dispatched) (hstep : call.QuietStep backend s s') :
    s'.Dispatched := by
  obtain ⟨⟨hok, hquiet⟩, rfl⟩ := hstep
  cases call with
  | start => exact h.startTick hok hquiet
  | turn name answer => exact h.turn backend answer hok hquiet
  | cancel id now => exact h.cancel backend now hquiet
  | create twap =>
    have hnew : s.twaps.get? twap.optionTwapId = none := hok
    refine h.write twap ?_ fun other hother => ?_
    · rintro name ⟨tick, htick, hmem⟩
      obtain ⟨other, hother, hid⟩ := mem_map.1 hmem
      have hstored := (h.stored htick hother).1
      rw [hid, hnew] at hstored
      cases hstored
    · rw [hnew] at hother
      cases hother

theorem unheld_of_ended (hheld : s.Held) (htwap : s.twaps.get? id = some twap)
    (hended : twap.status.isActive = false) (name : Nat) : ¬ s.Holds name id := by
  rintro ⟨tick, htick, hmem⟩
  obtain ⟨other, hother, rfl⟩ := mem_map.1 hmem
  obtain ⟨hstored, hactive⟩ := hheld.stored htick hother
  rw [htwap, some.injEq] at hstored
  rw [← hstored, hended] at hactive
  cases hactive

/-- A tick does nothing about an order it does not hold. -/
theorem turn_other (answer : Except BackendError (OrderId × Nat)) (childId : Uuid)
    (outcome : TwapStatement) (hfree : ¬ s.Holds name id) :
    (s.turn backend name answer childId outcome).twaps.get? id = s.twaps.get? id ∧
      (s.turn backend name answer childId outcome).submissionsOf id = s.submissionsOf id := by
  unfold turn
  cases htick : s.ticks.get? name with
  | none => exact ⟨rfl, rfl⟩
  | some tick =>
    obtain ⟨now, due, phase, outcome⟩ := tick
    cases due with
    | nil => exact ⟨rfl, rfl⟩
    | cons twap =>
      have hne : id ≠ twap.optionTwapId := by
        rintro rfl
        exact hfree (holds_of_mem htick mem_cons_self)
      cases phase with
      | check =>
        dsimp only
        split <;> exact ⟨rfl, rfl⟩
      | submit =>
        refine ⟨rfl, ?_⟩
        simp only [submissionsOf]
        rw [filter_cons_of_neg (by simpa using hne.symm)]
      | record =>
        dsimp only
        split
        · exact ⟨rfl, rfl⟩
        · split <;> exact ⟨rfl, rfl⟩
      | patch =>
        dsimp only
        split
        · exact ⟨rfl, rfl⟩
        split
        · exact ⟨rfl, rfl⟩
        · exact ⟨get?_set_ne _ hne _, rfl⟩

/-- **What has ended stays as it is**, and nothing is sent for it. -/
theorem quietStep_ended (hheld : s.Held) (htwap : s.twaps.get? id = some twap)
    (hended : twap.status.isActive = false) (hstep : call.QuietStep backend s s') :
    s'.twaps.get? id = some twap ∧ s'.submissionsOf id = s.submissionsOf id := by
  obtain ⟨⟨hok, -⟩, rfl⟩ := hstep
  cases call with
  | start => exact ⟨htwap, rfl⟩
  | turn name answer childId outcome =>
    rw [← htwap]
    exact turn_other answer childId outcome (unheld_of_ended hheld htwap hended name)
  | cancel other now =>
    refine ⟨?_, ?_⟩
    · simp only [TwapCall.run, TwapSystem.cancel]
      split
      · exact htwap
      next row hrow =>
        split
        · next hactive =>
            have hne : id ≠ other := by
              rintro rfl
              rw [htwap, some.injEq] at hrow
              rw [← hrow, hended] at hactive
              cases hactive
            exact (get?_set_ne _ hne _).trans htwap
        · exact htwap
    · simp only [TwapCall.run, TwapSystem.cancel]
      split
      · rfl
      · split <;> rfl
  | create row =>
    have hne : id ≠ row.optionTwapId := by
      rintro rfl
      have hnew : s.twaps.get? row.optionTwapId = none := hok
      rw [htwap] at hnew
      cases hnew
    exact ⟨(get?_set_ne _ hne _).trans htwap, rfl⟩

theorem cancel_eq_ok (h : cancel backend id now s = (.ok twap, s')) :
    s'.twaps.get? id = some twap ∧ twap.status = .cancelled := by
  unfold cancel at h
  split at h
  · cases h
  split at h
  · obtain ⟨hrow, rfl⟩ := Prod.mk.inj h
    cases hrow
    exact ⟨get?_set_self .., rfl⟩
  · cases h

/-- **In undisturbed runs a cancel is final and every slice is sent once.**  From any rows,
whatever the matcher answers: no slice of an order is sent twice, and once a cancel has
returned, the order stays cancelled and nothing more is sent for it. -/
theorem twap_cancel_final_and_once {s₀ : TwapSystem} {calls : List TwapCall} (hidle : s₀.Idle)
    (hrun : Run (TwapCall.QuietStep backend) s₀ calls s) :
    (s.submitted.map fun e => (e.optionTwapId, e.sequence)).Nodup ∧
      ∀ id now twap s₁, cancel backend id now s = (.ok twap, s₁) →
        (TwapCall.cancel id now).Undisturbed s →
        ∀ calls' s₂, Run (TwapCall.QuietStep backend) s₁ calls' s₂ →
          (∃ row, s₂.twaps.get? id = some row ∧ row.status = .cancelled) ∧
            s₂.submissionsOf id = s₁.submissionsOf id := by
  have hkept : s.Dispatched :=
    hrun.invariant (P := Dispatched) hidle.dispatched fun h hstep => quietStep_keeps h hstep
  refine ⟨hkept.once, fun id now twap s₁ hcancel hquiet calls' s₂ hrun' => ?_⟩
  obtain ⟨hrow, hstatus⟩ := cancel_eq_ok hcancel
  have hended : twap.status.isActive = false := by rw [hstatus]; rfl
  have hstep : (TwapCall.cancel id now).QuietStep backend s s₁ :=
    ⟨⟨trivial, hquiet⟩, (congrArg Prod.snd hcancel).symm⟩
  have hlater : s₂.Dispatched ∧ s₂.twaps.get? id = some twap ∧
      s₂.submissionsOf id = s₁.submissionsOf id := by
    refine hrun'.invariant (P := fun s => s.Dispatched ∧ s.twaps.get? id = some twap ∧
      s.submissionsOf id = s₁.submissionsOf id) ⟨quietStep_keeps hkept hstep, hrow, rfl⟩ ?_
    rintro s call s' ⟨h, htwap, hsent⟩ hstep
    obtain ⟨htwap', hsent'⟩ := quietStep_ended h.toHeld htwap hended hstep
    exact ⟨quietStep_keeps h hstep, htwap', hsent'.trans hsent⟩
  exact ⟨⟨twap, hlater.2.1, hstatus⟩, hlater.2.2⟩

end

/-! ## One order of two slices -/

namespace OneParent

def parent : OptionTwapOrder where
  optionTwapId := 1
  account := ⟨"0xaaaaaaaaaaaaaaaaaaaaaaaaaaaaaaaaaaaaaaaa"⟩
  subaccountId := 1
  optionSeriesId := "ETH-C"
  side := .buy
  size1e8 := 10
  remainingSize1e8 := 10
  limitPrice1e8 := 100
  childCount := 2
  childIntervalMs := 5
  nextExecutionAtMs := 5
  status := .pending
  createdChildCount := 0
  filledSize1e8 := 0
  failedChildCount := 0
  clientOrderId := none
  lastError := none
  createdAtMs := 0
  updatedAtMs := 0

/-- The order, and nothing else. -/
def fresh : TwapSystem := ⟨(∅ : FMap Uuid OptionTwapOrder).set 1 parent, ∅, ∅, []⟩

theorem idle_fresh : fresh.Idle := by
  refine ⟨fun id twap htwap => ?_, rfl, rfl⟩
  by_cases hid : id = 1
  · subst hid
    rw [fresh, get?_set_self, some.injEq] at htwap
    rw [← htwap]
    rfl
  · rw [fresh, get?_set_ne _ hid] at htwap
    cases htwap

/-- A tick makes some calls; all that is sent is filled, and names are drawn from `base`
on. -/
def turns (name base count : Nat) : List TwapCall :=
  (range count).map fun i => .turn name (.ok (⟨base⟩, 5)) (base + i) .answered

/-- A tick has sent a slice when the order is cancelled; it writes the order back, and a
later tick sends the next slice. -/
def overtaken : List TwapCall :=
  [.start 1 5] ++ turns 1 10 2 ++ [.cancel 1 6] ++ turns 1 20 2 ++ [.start 2 10] ++ turns 2 30 2

/-- A tick sends a slice and its insert is lost; the next tick runs alone. -/
def unrecorded : List TwapCall :=
  [.start 1 5] ++ turns 1 10 2 ++ [.turn 1 (.ok (⟨10⟩, 5)) 20 .lost, .start 2 10] ++ turns 2 30 2

/-- Two ticks look at the slices before either sends one. -/
def doubled : List TwapCall :=
  [.start 1 5, .start 2 5] ++ turns 1 10 1 ++ turns 2 20 1 ++ turns 1 30 1 ++ turns 2 40 1

variable (backend : TwapBackend)

def after (calls : List TwapCall) : TwapSystem :=
  calls.foldl (TwapCall.run backend) fresh

/-- The cancel returns, and the order ends up running, with a slice sent by a tick that
started later. -/
def CancelUndone : Prop :=
  Run (TwapCall.Step backend) fresh overtaken (after backend overtaken) ∧
    (TwapSystem.cancel backend 1 6 (after backend (overtaken.take 3))).1.toOption.map (·.status) =
      some .cancelled ∧
    ((after backend overtaken).twaps.get? 1).map (·.status) = some .running ∧
    (after backend overtaken).submitted.map (·.sequence) = [1, 0]

/-- The first slice is sent twice. -/
def SentTwice (calls : List TwapCall) : Prop :=
  Run (TwapCall.Step backend) fresh calls (after backend calls) ∧
    (after backend calls).submitted.map (fun e => (e.optionTwapId, e.sequence)) = [(1, 0), (1, 0)]

/-- **A cancel is undone, and a slice is sent twice**, in memory and with a database; with a
database that fails once, a single tick at a time is enough. -/
theorem cancel_undone_and_sent_twice :
    (CancelUndone .memory ∧ SentTwice .memory doubled) ∧
      CancelUndone .postgres ∧ SentTwice .postgres doubled ∧ SentTwice .postgres unrecorded := by
  refine ⟨⟨⟨Run.of_allowed ?_, ?_, ?_, ?_⟩, Run.of_allowed ?_, ?_⟩,
    ⟨Run.of_allowed ?_, ?_, ?_, ?_⟩, ⟨Run.of_allowed ?_, ?_⟩, Run.of_allowed ?_, ?_⟩ <;>
    decide +kernel

/-- A tick sends and records the first slice. -/
def first : List TwapCall := [.start 1 5] ++ turns 1 10 4

def cancelled : TwapSystem := (TwapSystem.cancel .postgres 1 6 (after .postgres first)).2

theorem unheld_iff {s : TwapSystem} {id : Uuid} :
    (∀ name, ¬ s.Holds name id) ↔ ∀ tick ∈ s.ticks.vals, id ∉ tick.due.map (·.optionTwapId) := by
  constructor
  · intro h tick htick hmem
    obtain ⟨name, hname⟩ := mem_vals.1 htick
    exact h name ⟨tick, hname, hmem⟩
  · rintro h name ⟨tick, htick, hmem⟩
    exact h tick (mem_vals.2 ⟨name, htick⟩) hmem

/-- A cancel between two ticks: the second one sends nothing. -/
theorem twap_cancel_final_and_once_between :
    (∃ row, (cancelled.startTick 2 10).twaps.get? 1 = some row ∧ row.status = .cancelled) ∧
      (cancelled.startTick 2 10).submissionsOf 1 = cancelled.submissionsOf 1 ∧
      (cancelled.submissionsOf 1).length = 1 := by
  have hfirst : Run (TwapCall.QuietStep .postgres) fresh first (after .postgres first) := by
    refine Run.of_allowed ⟨⟨by decide, fun twap _ name => ?_⟩, ⟨by decide +kernel, nofun⟩,
      ⟨by decide +kernel, nofun⟩, ⟨by decide +kernel, nofun⟩, ⟨by decide +kernel, nofun⟩, trivial⟩
    exact unheld_iff.2 (fun _ htick => absurd htick not_mem_nil) name
  have hquiet : (TwapCall.cancel 1 6).Undisturbed (after .postgres first) :=
    unheld_iff.2 (by decide +kernel)
  obtain ⟨twap, hcancel⟩ :
      ∃ twap, TwapSystem.cancel .postgres 1 6 (after .postgres first) = (.ok twap, cancelled) :=
    Act.exists_ok (by decide +kernel)
  have hsecond : Run (TwapCall.QuietStep .postgres) cancelled [.start 2 10]
      (cancelled.startTick 2 10) := by
    refine Run.of_allowed ⟨⟨by decide +kernel, fun twap htwap => ?_⟩, trivial⟩
    cases htwap
  obtain ⟨hrow, hsent⟩ := (twap_cancel_final_and_once idle_fresh hfirst).2 1 6 twap _ hcancel hquiet
    _ _ hsecond
  exact ⟨hrow, hsent, by decide +kernel⟩

end OneParent

/-! ## The identities of the slices -/

structure SliceSent where
  tickedAt : TimestampMs
  submittedAt : TimestampMs
  /-- The name the order is given. -/
  orderId : OrderId
  series : Option OptionSeries
  openOrders : List OptionOrder
  answer : Except BackendError (OrderId × Nat)

section

variable (svc : OptionsService) (twap : OptionTwapOrder) (sent : Nat → SliceSent)

namespace OptionTwapOrder

/-- The order before the slice of a number: the slices before it were sent, and the order
was written after each. -/
def beforeSlice : Nat → OptionTwapOrder
  | 0 => twap
  | k + 1 =>
    let row := beforeSlice k
    row.patched (row.patch (.ofAnswer row.childSize (sent k).answer) (sent k).tickedAt)

/-- `submit_option_order_inner` gets as far as the hash of the slice. -/
def sliceHashed (k : Nat) : Bool :=
  let input := (twap.beforeSlice sent k).submitInput
  (svc.validateSubmit (sent k).submittedAt input).toOption.isSome &&
    (svc.validateSeries (sent k).submittedAt input (sent k).series
      (sent k).openOrders).toOption.isSome

def sliceHash (k : Nat) : String :=
  svc.canonicalOrderHashFor (OptionsService.orderOf (twap.beforeSlice sent k).submitInput
    (sent k).orderId (sent k).submittedAt) svc.domain

/-- The slices before it change what is counted and nothing else. -/
theorem beforeSlice_eq (k : Nat) : ∃ patch, twap.beforeSlice sent k = twap.patched patch ∧
    patch.createdChildCount = twap.createdChildCount + k := by
  induction k with
  | zero => exact ⟨⟨_, _, _, _, _, _, _, _⟩, rfl, rfl⟩
  | succ k ih =>
    obtain ⟨patch, hrow, hcount⟩ := ih
    refine ⟨_, by rw [beforeSlice, hrow]; rfl, ?_⟩
    change patch.createdChildCount + 1 = _
    rw [hcount, Nat.add_assoc]

variable {svc twap sent}

theorem childSize_beforeSlice (hnew : twap.createdChildCount = 0) :
    (twap.beforeSlice sent k).childSize = if k + 1 = twap.childCount then
      (twap.beforeSlice sent k).remainingSize1e8 else twap.size1e8 / twap.childCount := by
  obtain ⟨patch, hrow, hcount⟩ := twap.beforeSlice_eq sent k
  rw [hnew, Nat.zero_add] at hcount
  subst hcount
  rw [hrow]
  rfl

/-- Nothing but its size tells a slice from another. -/
theorem sliceHash_eq_iff
    (hbinds : ∀ a b, svc.orderHashOf a = svc.orderHashOf b → a.size1e8 = b.size1e8) :
    twap.sliceHash svc sent i = twap.sliceHash svc sent j ↔
      (twap.beforeSlice sent i).childSize = (twap.beforeSlice sent j).childSize := by
  refine ⟨hbinds _ _, fun h => ?_⟩
  obtain ⟨p, hi, -⟩ := twap.beforeSlice_eq sent i
  obtain ⟨q, hj, -⟩ := twap.beforeSlice_eq sent j
  rw [hi, hj] at h
  rw [sliceHash, sliceHash, hi, hj]
  exact congrArg (fun size => svc.orderHashOf ⟨_, _, _, _, _, _, _, size, _, _, _, _⟩) h

end OptionTwapOrder

/-- **Two slices have different hashes exactly when the later one is the last**, and what
is left for it is not the size of the others. -/
theorem slice_hashes_differ_iff (hnew : twap.createdChildCount = 0)
    (hbinds : ∀ a b, svc.orderHashOf a = svc.orderHashOf b → a.size1e8 = b.size1e8) :
    (∀ i j, i < j → j < twap.childCount → twap.sliceHashed svc sent i = true →
      twap.sliceHashed svc sent j = true → twap.sliceHash svc sent i ≠ twap.sliceHash svc sent j) ↔
    ∀ i j, i < j → j < twap.childCount → twap.sliceHashed svc sent i = true →
      twap.sliceHashed svc sent j = true → j + 1 = twap.childCount ∧
        (twap.beforeSlice sent j).remainingSize1e8 ≠ twap.size1e8 / twap.childCount := by
  refine forall₂_congr fun i j => forall₄_congr fun hij hj _ _ => ?_
  rw [Ne, OptionTwapOrder.sliceHash_eq_iff hbinds, OptionTwapOrder.childSize_beforeSlice hnew,
    OptionTwapOrder.childSize_beforeSlice hnew, if_neg (by omega)]
  split
  · next hlast => simp [hlast, eq_comm]
  · next hlast => simp [hlast]

end

namespace OneParent

/-- A service whose orders are named after their sizes. -/
def svc : OptionsService where
  enabled := true
  domain := .constantTestDomain
  orderHashOf := fun inputs => String.ofList (replicate inputs.size1e8 'x')
  executionIdOf := fun _ buyer seller _ => buyer ++ seller
  sqlLower := id
  preflight := fun _ _ _ => .ok ()

/-- Each slice finds the series active and nobody to trade with. -/
def sent (k : Nat) : SliceSent :=
  ⟨5 * k + 5, 5 * k + 5, ⟨k⟩,
    some ⟨"ETH-C", "ETH", "USDC", 100, 300000000000, true, 100000000, .active⟩, [],
    .ok (⟨k⟩, 0)⟩

def inThree : OptionTwapOrder := { parent with childCount := 3 }

/-- **The first two of three slices have one hash.** -/
theorem slices_share_a_hash : ¬ ∀ i j, i < j → j < inThree.childCount →
    inThree.sliceHashed svc sent i = true → inThree.sliceHashed svc sent j = true →
      inThree.sliceHash svc sent i ≠ inThree.sliceHash svc sent j := fun h =>
  h 0 1 (by decide) (by decide) (by decide +kernel) (by decide +kernel) (by decide +kernel)

/-- Of two slices the last takes the whole when nothing was filled. -/
theorem slice_hashes_differ_two : parent.sliceHashed svc sent 0 = true ∧
    parent.sliceHashed svc sent 1 = true ∧
      parent.sliceHash svc sent 0 ≠ parent.sliceHash svc sent 1 := by
  have hfirst : parent.sliceHashed svc sent 0 = true := by decide +kernel
  have hlast : parent.sliceHashed svc sent 1 = true := by decide +kernel
  refine ⟨hfirst, hlast, (slice_hashes_differ_iff svc parent sent rfl fun a b h => ?_).2
    (fun i j hij hj _ _ => ?_) 0 1 (by decide) (by decide) hfirst hlast⟩
  · simpa [svc] using congrArg String.length h
  · have hj : j < 2 := hj
    obtain rfl : j = 1 := by omega
    exact ⟨rfl, by decide +kernel⟩

end OneParent

end DeoptBackend
