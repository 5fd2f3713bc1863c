import DeoptBackend.Orders.Service
import DeoptBackend.Lib.Run

/-!
# Replay of signed orders

`submit_signed_order` is asynchronous: between its database calls other calls
run.  `SubmitStep` is the function cut at those points, one constructor for each way a
call can move on, so a run of steps is an interleaving of any number of calls,
each database call succeeding or failing as it likes.

The table of used nonces enforces its key: an insert waits for another open
transaction that has inserted the same pair, and fails if the pair is committed.

* `ReplayInv.step` — what one step of one call keeps, if nonces are taken
  carefully (`NonceCareful`): under the spelling their holders use, and not again
  after the row was rolled back.
* `replay_safe` — in every careful run no signer's nonce is processed twice.
* `replay_respelled_or_rolled_back` — in runs that are not careful it is.
-/

namespace DeoptBackend

open List Subset FMap Option

/-! ## Calls and steps -/

/-- How far a call of `submit_signed_order` has come. -/
inductive Phase where
  /-- The order has passed its checks. -/
  | validated
  /-- In memory: the nonce is reserved. -/
  | reserved
  | txOpen
  /-- The transaction has inserted the nonce. -/
  | nonceHeld
  /-- The engine has been run. -/
  | matched
  /-- The submission has been written. -/
  | persisted

/-- A call under way. -/
structure SubmitCall where
  order : SignedOrder
  phase : Phase

/-- The service, with the calls under way. -/
structure Submissions extends OrderState where
  calls : FMap Nat SubmitCall
  /-- The orders the engine has been given, in order. -/
  processed : List SignedOrder
  /-- The orders among them whose transaction was rolled back. -/
  lost : List SignedOrder

/-- What happens next, and to which call. -/
inductive SubmitAction where
  | arrive (call : Nat) (order : SignedOrder) (now : TimestampMs)
      (perpNonce : Except BackendError Unit)
  | reserve (call : Nat)
  | process (call : Nat) (draws : Draws)
  | begin (call : Nat)
  | insertNonce (call : Nat)
  | persist (call : Nat)
  | commit (call : Nat)
  /-- A database call fails: the call returns its error and its transaction, if
  there is one, is rolled back. -/
  | fail (call : Nat)

/-- The phases of a transaction in which the engine has been run. -/
def Phase.ran : Phase → Bool
  | .matched | .persisted => true
  | _ => false

/-- The phases of a transaction that has inserted its nonce. -/
def Phase.holdsRow : Phase → Bool
  | .nonceHeld => true
  | ph => ph.ran

/-- The phases of a call that has opened a transaction. -/
def Phase.inTx : Phase → Bool
  | .txOpen => true
  | ph => ph.holdsRow

/-- The phases of a call that has its nonce. -/
def Phase.engaged : Phase → Bool
  | .reserved => true
  | ph => ph.holdsRow

/-- The phases of a call that has its nonce, but has not run the engine. -/
def Phase.waits : Phase → Bool
  | .reserved | .nonceHeld => true
  | _ => false

/-- The pair a nonce is recorded under. -/
def nonceKey (order : SignedOrder) : AccountId × Nat := (order.account, order.nonce)

namespace Submissions

/-- A call moves on. -/
def put (s : Submissions) (c : Nat) (order : SignedOrder) (phase : Phase) : Submissions :=
  { s with calls := s.calls.set c ⟨order, phase⟩ }

def drop (s : Submissions) (c : Nat) : Submissions := { s with calls := s.calls.del c }

/-- The engine is given an order. -/
def run (s : Submissions) (draws : Draws) (order : SignedOrder) : Submissions :=
  { s with
    engine := (s.engine.process draws (.submitOrder order.toNewOrder)).1
    processed := s.processed ++ [order] }

end Submissions

open Submissions in
inductive SubmitStep (service : OrderService) : Submissions → SubmitAction → Submissions → Prop
  | refused {s c order now perpNonce e}
      (h : validateSignedOrder service s.engine now perpNonce order = .error e) :
      SubmitStep service s (.arrive c order now perpNonce) s
  /-- The checks pass. -/
  | arrived {s c order now perpNonce} (hc : s.calls.get? c = none)
      (h : validateSignedOrder service s.engine now perpNonce order = .ok ()) :
      SubmitStep service s (.arrive c order now perpNonce) (s.put c order .validated)
  /-- In memory, the nonce is reserved. -/
  | reserved {s c order nonces} (hmode : service.persistent = false)
      (hc : s.calls.get? c = some ⟨order, .validated⟩)
      (h : s.nonces.reserve order.account order.nonce = (nonces, .ok ())) :
      SubmitStep service s (.reserve c) { s.put c order .reserved with nonces := nonces }
  /-- In memory, the nonce is refused. -/
  | notReserved {s c order nonces e} (hmode : service.persistent = false)
      (hc : s.calls.get? c = some ⟨order, .validated⟩)
      (h : s.nonces.reserve order.account order.nonce = (nonces, .error e)) :
      SubmitStep service s (.reserve c) { s.drop c with nonces := nonces }
  /-- In memory, the engine is run and the call returns. -/
  | processed {s c order draws} (hc : s.calls.get? c = some ⟨order, .reserved⟩) :
      SubmitStep service s (.process c draws) ((s.run draws order).drop c)
  /-- A transaction is opened. -/
  | begun {s c order} (hmode : service.persistent = true)
      (hc : s.calls.get? c = some ⟨order, .validated⟩) :
      SubmitStep service s (.begin c) (s.put c order .txOpen)
  /-- The nonce is inserted: no committed row and no open transaction has it. -/
  | nonceInserted {s c order} (hc : s.calls.get? c = some ⟨order, .txOpen⟩)
      (hfits : order.nonce ≤ maxBigint) (hnew : nonceKey order ∉ s.usedNonces)
      (hfree : ∀ c' call, s.calls.get? c' = some call → call.phase.holdsRow = true →
        nonceKey call.order ≠ nonceKey order) :
      SubmitStep service s (.insertNonce c) (s.put c order .nonceHeld)
  /-- The engine is run inside the transaction. -/
  | matched {s c order draws events} (hc : s.calls.get? c = some ⟨order, .nonceHeld⟩)
      (h : (s.engine.process draws (.submitOrder order.toNewOrder)).2 = .ok events) :
      SubmitStep service s (.process c draws) ((s.run draws order).put c order .matched)
  /-- The engine returns an error, and the transaction is rolled back. -/
  | unmatched {s c order draws} (hc : s.calls.get? c = some ⟨order, .nonceHeld⟩)
      (h : ∀ events, (s.engine.process draws (.submitOrder order.toNewOrder)).2 ≠ .ok events) :
      SubmitStep service s (.process c draws) { (s.run draws order).drop c with
        lost := s.lost ++ [order] }
  /-- The submission is written. -/
  | persisted {s c order} (hc : s.calls.get? c = some ⟨order, .matched⟩) :
      SubmitStep service s (.persist c) (s.put c order .persisted)
  | committed {s c order} (hc : s.calls.get? c = some ⟨order, .persisted⟩) :
      SubmitStep service s (.commit c)
        { s.drop c with usedNonces := nonceKey order :: s.usedNonces }
  /-- A failure before the engine has been run. -/
  | failed {s c order phase} (hc : s.calls.get? c = some ⟨order, phase⟩)
      (hphase : phase.ran = false) :
      SubmitStep service s (.fail c) (s.drop c)
  /-- A failure after the engine has been run: the row of the nonce is rolled
  back, the engine is not. -/
  | rolledBack {s c order phase} (hc : s.calls.get? c = some ⟨order, phase⟩)
      (hphase : phase.ran = true) :
      SubmitStep service s (.fail c) { s.drop c with lost := s.lost ++ [order] }

/-- The service at the start: no call under way, whatever is on record. -/
def Submissions.start (state : OrderState) : Submissions :=
  { state with calls := ∅, processed := [], lost := [] }

/-! ## The property -/

/-- The signature of the order verifies for the account of these bytes. -/
def VerifiesFor (service : OrderService) (order : SignedOrder) (signer : Address) : Prop :=
  verifyStrict service.crypto order service.eip712Domain = .ok () ∧
    parseEvmAddress order.account = .ok signer

/-- No two orders that verify for one signer and carry one nonce have both been
given to the engine. -/
def ReplaySafe (service : OrderService) (s : Submissions) : Prop :=
  s.processed.Pairwise fun o o' => ∀ signer, VerifiesFor service o signer →
    VerifiesFor service o' signer → o.nonce ≠ o'.nonce

/-! ## When it holds -/

/-- Two orders whose accounts parse to the same bytes and whose nonces agree. -/
def SameTicket (o o' : SignedOrder) : Prop :=
  o.nonce = o'.nonce ∧
    ∃ signer, parseEvmAddress o.account = .ok signer ∧ parseEvmAddress o'.account = .ok signer

/-- The order has its nonce: the engine has been given it, or the call that will
give it is under way. -/
def Engaged (s : Submissions) (o : SignedOrder) : Prop :=
  o ∈ s.processed ∨ ∃ c ph, s.calls.get? c = some ⟨o, ph⟩ ∧ ph.engaged = true

/-- The order may take its nonce: whoever has the same nonce of the same signer
spells the account the same way, and nobody had it and lost its row. -/
def MayTakeNonce (s : Submissions) (o : SignedOrder) : Prop :=
  (∀ o', Engaged s o' → SameTicket o' o → o'.account = o.account) ∧ ∀ o' ∈ s.lost, ¬ SameTicket o' o

/-- The steps that take a nonce are taken only by orders that may. -/
def NonceCareful (s : Submissions) : SubmitAction → Prop
  | .reserve c => ∀ o ph, s.calls.get? c = some ⟨o, ph⟩ → MayTakeNonce s o
  | .insertNonce c => ∀ o ph, s.calls.get? c = some ⟨o, ph⟩ → MayTakeNonce s o
  | _ => True

/-! ## The invariant -/

namespace Submissions

variable {s : Submissions}

theorem get?_put (h : (s.put c o ph).calls.get? c' = some call) :
    (c' = c ∧ call = ⟨o, ph⟩) ∨ (c' ≠ c ∧ s.calls.get? c' = some call) := by
  rw [put, get?_set_eq_some] at h
  exact h.imp_left (And.imp_right Eq.symm)

theorem get?_drop (h : (s.drop c).calls.get? c' = some call) :
    c' ≠ c ∧ s.calls.get? c' = some call :=
  get?_del_eq_some.1 h

end Submissions

/-- The nonce of a processed order is on record, or was lost. -/
def OnRecord (service : OrderService) (s : Submissions) (o : SignedOrder) : Prop :=
  if service.persistent then
    o ∈ s.lost ∨ nonceKey o ∈ s.usedNonces ∨
      ∃ c ph, s.calls.get? c = some ⟨o, ph⟩ ∧ ph.ran = true
  else s.nonces.Has o.account o.nonce

/-- What careful runs keep. -/
structure ReplayInv (service : OrderService) (s : Submissions) : Prop where
  processed : s.processed.Pairwise fun o o' => ¬ SameTicket o o'
  apart : ∀ {c c' call call'}, c ≠ c' → s.calls.get? c = some call →
    s.calls.get? c' = some call' → call.phase.engaged = true → call'.phase.engaged = true →
    ¬ SameTicket call.order call'.order
  /-- A call that has its nonce but has not run the engine has a new ticket. -/
  waiting : ∀ {c call}, s.calls.get? c = some call → call.phase.waits = true →
    ∀ o ∈ s.processed, ¬ SameTicket o call.order
  recorded : ∀ o ∈ s.processed, OnRecord service s o
  reserved : ∀ {c call}, s.calls.get? c = some call → call.phase = .reserved →
    s.nonces.Has call.order.account call.order.nonce
  /-- Each mode has its own phases. -/
  mode : ∀ {c call}, s.calls.get? c = some call →
    if service.persistent then call.phase ≠ .reserved else call.phase.inTx = false

theorem SameTicket.symm {o o' : SignedOrder} (h : SameTicket o o') : SameTicket o' o := by
  obtain ⟨hnonce, signer, ho, ho'⟩ := h
  exact ⟨hnonce.symm, signer, ho', ho⟩

theorem Phase.engaged_of_waits {ph : Phase} (h : ph.waits = true) : ph.engaged = true := by
  cases ph <;> first | rfl | cases h

theorem Phase.engaged_cases {ph : Phase} (h : ph.engaged = true) :
    ph = .reserved ∨ ph.holdsRow = true := by
  cases ph <;> simp_all [engaged]

theorem Phase.holdsRow_of_ran {ph : Phase} (h : ph.ran = true) : ph.holdsRow = true := by
  cases ph <;> first | rfl | cases h

theorem Phase.inTx_of_holdsRow {ph : Phase} (h : ph.holdsRow = true) : ph.inTx = true := by
  cases ph <;> simp_all [inTx]

namespace ReplayInv

variable {service : OrderService} {s : Submissions} {ph : Phase} {call : SubmitCall}

theorem start (state : OrderState) : ReplayInv service (Submissions.start state) where
  processed := Pairwise.nil
  apart := by simp [Submissions.start]
  waiting := by simp [Submissions.start]
  recorded := by simp [Submissions.start]
  reserved := by simp [Submissions.start]
  mode := by simp [Submissions.start]

section

variable (h : ReplayInv service s)
include h

/-- What is on record may grow. -/
theorem grow (hnonces : ∀ account nonce, s.nonces.Has account nonce → nonces.Has account nonce)
    (hused : s.usedNonces ⊆ usedNonces) (hlost : s.lost ⊆ lost) : ReplayInv service
      { s with nonces := nonces, usedNonces := usedNonces, lost := lost } where
  processed := h.processed
  apart := h.apart
  waiting := h.waiting
  recorded := by
    intro o ho
    have hrec := h.recorded o ho
    unfold OnRecord at hrec ⊢
    split_ifs at hrec ⊢
    · exact hrec.imp (@hlost o) (Or.imp_left (@hused (nonceKey o)))
    · exact hnonces _ _ hrec
  reserved := fun hc hph => hnonces _ _ (h.reserved hc hph)
  mode := h.mode

/-- A call moves on, keeping the row it was the record of. -/
theorem put (hclear : ph.engaged = true → ∀ {c' call}, c' ≠ c → s.calls.get? c' = some call →
      call.phase.engaged = true → ¬ SameTicket call.order o)
    (hnew : ph.waits = true → ∀ o' ∈ s.processed, ¬ SameTicket o' o)
    (hres : ph = .reserved → s.nonces.Has o.account o.nonce)
    (hmode : if service.persistent then ph ≠ .reserved else ph.inTx = false)
    (hkeep : ∀ call, s.calls.get? c = some call → call.phase.ran = true →
      call.order = o ∧ ph.ran = true) :
    ReplayInv service (s.put c o ph) where
  processed := h.processed
  apart := by
    intro c₁ c₂ _ _ hne h₁ h₂ he₁ he₂
    rcases Submissions.get?_put h₁ with ⟨rfl, rfl⟩ | ⟨hc₁, hs₁⟩ <;>
      rcases Submissions.get?_put h₂ with ⟨hcc, rfl⟩ | ⟨hc₂, hs₂⟩
    · exact absurd hcc.symm hne
    · exact fun hsame => hclear he₁ hc₂ hs₂ he₂ hsame.symm
    · exact hclear he₂ hc₁ hs₁ he₁
    · exact h.apart hne hs₁ hs₂ he₁ he₂
  waiting := by
    intro c' call hc'
    rcases Submissions.get?_put hc' with ⟨_, rfl⟩ | ⟨_, hc'⟩
    · exact hnew
    · exact h.waiting hc'
  recorded := by
    intro p hp
    have hrec := h.recorded p hp
    unfold OnRecord at hrec ⊢
    split_ifs at hrec ⊢
    · refine hrec.imp_right (Or.imp_right ?_)
      rintro ⟨c', ph', hc', hph'⟩
      by_cases hcc : c' = c
      · subst hcc
        obtain ⟨rfl, hph⟩ := hkeep _ hc' hph'
        exact ⟨c', ph, get?_set_self .., hph⟩
      · refine ⟨c', ph', ?_, hph'⟩
        rw [Submissions.put, get?_set, if_neg hcc]
        exact hc'
    · exact hrec
  reserved := by
    intro c' call hc'
    rcases Submissions.get?_put hc' with ⟨_, rfl⟩ | ⟨_, hc'⟩
    · exact hres
    · exact h.reserved hc'
  mode := by
    intro c' call hc'
    rcases Submissions.get?_put hc' with ⟨_, rfl⟩ | ⟨_, hc'⟩
    · exact hmode
    · exact h.mode hc'

/-- A call returns, its row committed or lost if the engine was run. -/
theorem drop (hkeep : ∀ call, s.calls.get? c = some call → call.phase.ran = true →
      call.order ∈ s.lost ∨ nonceKey call.order ∈ s.usedNonces) :
    ReplayInv service (s.drop c) where
  processed := h.processed
  apart := fun hne h₁ h₂ =>
    h.apart hne (Submissions.get?_drop h₁).2 (Submissions.get?_drop h₂).2
  waiting := fun hc' => h.waiting (Submissions.get?_drop hc').2
  recorded := by
    intro p hp
    have hrec := h.recorded p hp
    unfold OnRecord at hrec ⊢
    split_ifs at hrec ⊢
    · rcases hrec with hlost | hused | ⟨c', ph', hc', hph'⟩
      · exact .inl hlost
      · exact .inr (.inl hused)
      · by_cases hcc : c' = c
        · subst hcc
          exact (hkeep _ hc' hph').imp_right .inl
        · refine .inr (.inr ⟨c', ph', ?_, hph'⟩)
          rw [Submissions.drop, get?_del, if_neg hcc]
          exact hc'
    · exact hrec
  reserved := fun hc' => h.reserved (Submissions.get?_drop hc').2
  mode := fun hc' => h.mode (Submissions.get?_drop hc').2

/-- The engine is given an order with a new ticket that is on record. -/
theorem run (draws : Draws) (hnew : ∀ o' ∈ s.processed, ¬ SameTicket o' o)
    (hwait : ∀ {c' call}, s.calls.get? c' = some call → call.phase.waits = true →
      ¬ SameTicket o call.order)
    (hrec : OnRecord service s o) : ReplayInv service (s.run draws o) where
  processed := by
    refine pairwise_append.mpr ⟨h.processed, pairwise_singleton _ _, ?_⟩
    intro o' ho' p hp
    rw [mem_singleton.mp hp]
    exact hnew o' ho'
  apart := h.apart
  waiting := by
    intro c' call hc' hph' p hp
    rcases mem_append.mp hp with hp | hp
    · exact h.waiting hc' hph' p hp
    · rw [mem_singleton.mp hp]
      exact hwait hc' hph'
  recorded := by
    intro p hp
    rcases mem_append.mp hp with hp | hp
    · exact h.recorded p hp
    · rw [mem_singleton.mp hp]
      exact hrec
  reserved := h.reserved
  mode := h.mode

/-- In memory, an order that may take its nonce and finds it unused has a ticket
nobody else has. -/
theorem clear_of_unreserved (hmode : service.persistent = false)
    (hmay : MayTakeNonce s o) (hunused : ¬ s.nonces.Has o.account o.nonce) :
    ∀ o', Engaged s o' → ¬ SameTicket o' o := by
  intro o' hengaged hsame
  have haccount := hmay.1 o' hengaged hsame
  refine hunused ?_
  rw [← haccount, ← hsame.1]
  rcases hengaged with hprocessed | ⟨c', ph', hc', hph'⟩
  · have hrec := h.recorded o' hprocessed
    rwa [OnRecord, hmode, if_neg Bool.false_ne_true] at hrec
  rcases Phase.engaged_cases hph' with rfl | hrow
  · exact h.reserved hc' rfl
  · have hnone := h.mode hc'
    rw [hmode, if_neg Bool.false_ne_true] at hnone
    exact absurd ((Phase.inTx_of_holdsRow hrow).symm.trans hnone) (by simp)

/-- In a transaction, likewise: the key is neither committed nor held. -/
theorem clear_of_uninserted (hmode : service.persistent = true)
    (hmay : MayTakeNonce s o) (hunused : nonceKey o ∉ s.usedNonces)
    (hfree : ∀ c' call, s.calls.get? c' = some call → call.phase.holdsRow = true →
      nonceKey call.order ≠ nonceKey o) :
    ∀ o', Engaged s o' → ¬ SameTicket o' o := by
  intro o' hengaged hsame
  have haccount := hmay.1 o' hengaged hsame
  have hkey : nonceKey o' = nonceKey o := by
    rw [nonceKey, nonceKey, haccount, hsame.1]
  rcases hengaged with hprocessed | ⟨c', ph', hc', hph'⟩
  · have hrec := h.recorded o' hprocessed
    rw [OnRecord, hmode, if_pos rfl] at hrec
    rcases hrec with hlost | hused | ⟨c', ph', hc', hph'⟩
    · exact hmay.2 o' hlost hsame
    · exact hunused (hkey ▸ hused)
    · exact hfree c' _ hc' (Phase.holdsRow_of_ran hph') hkey
  · rcases Phase.engaged_cases hph' with rfl | hrow
    · have hnone := h.mode hc'
      rw [hmode, if_pos rfl] at hnone
      exact hnone rfl
    · exact hfree c' _ hc' hrow hkey

/-- The phases of a transaction occur only where there is one. -/
theorem persistent_of_phase (hc : s.calls.get? c = some ⟨o, ph⟩)
    (hph : ph.inTx = true) : service.persistent = true := by
  have hmode := h.mode hc
  by_contra hp
  rw [if_neg hp] at hmode
  exact absurd (hph.symm.trans hmode) (by simp)

/-- The reserved phase occurs only in memory. -/
theorem inMemory_of_reserved
    (hc : s.calls.get? c = some ⟨o, .reserved⟩) : service.persistent = false := by
  have hmode := h.mode hc
  by_contra hp
  rw [if_pos (by simpa using hp)] at hmode
  exact hmode rfl

end

/-- A call that has not run the engine is the record of no order. -/
theorem not_ran {Q : SubmitCall → Prop} (hc : s.calls.get? c = some call)
    (hph : call.phase.ran = false) :
    ∀ call', s.calls.get? c = some call' → call'.phase.ran = true → Q call' := by
  intro call' hc' hran
  cases hc.symm.trans hc'
  exact absurd (hph.symm.trans hran) (by simp)

theorem mode_inTx (hmode : service.persistent = true) (hph : ph ≠ .reserved) :
    if service.persistent then ph ≠ .reserved else ph.inTx = false := by
  rwa [if_pos hmode]

section

variable (h : ReplayInv service s)
include h

/-- A call that has its nonce stays apart from the others while it moves on. -/
theorem clear_of_engaged (hc : s.calls.get? c = some ⟨o, ph⟩) (hph : ph.engaged = true) :
    ∀ {c' call}, c' ≠ c → s.calls.get? c' = some call → call.phase.engaged = true →
      ¬ SameTicket call.order o :=
  fun hne hc' hph' => h.apart hne hc' hc hph' hph

/-- It stays apart from those that wait when it has returned. -/
theorem apart_of_drop (hc : s.calls.get? c = some call) (hph : call.phase.engaged = true) :
    ∀ {c' call'}, (s.drop c).calls.get? c' = some call' → call'.phase.waits = true →
      ¬ SameTicket call.order call'.order := by
  intro c' call' hc' hph'
  obtain ⟨hne, hc'⟩ := Submissions.get?_drop hc'
  exact h.apart hne.symm hc hc' hph (Phase.engaged_of_waits hph')

theorem keeps_reserved (hmode : service.persistent = false) (hmay : MayTakeNonce s o)
    (hc : s.calls.get? c = some ⟨o, .validated⟩)
    (hreserve : s.nonces.reserve o.account o.nonce = (nonces, .ok ())) :
    ReplayInv service { s.put c o .reserved with nonces := nonces } := by
  obtain ⟨hunused, hused⟩ := NonceStore.reserve_ok hreserve
  have hclear := h.clear_of_unreserved hmode hmay hunused
  have hgrown := h.grow (fun _ _ => NonceStore.reserve_keeps hreserve)
    (refl _) (refl _)
  refine hgrown.put ?_ ?_ (fun _ => hused) ?_ (not_ran hc rfl)
  · exact fun _ c' call _ hc' hph => hclear _ (.inr ⟨c', call.phase, hc', hph⟩)
  · exact fun _ o' ho' => hclear o' (.inl ho')
  · rw [hmode, if_neg Bool.false_ne_true]
    rfl

theorem keeps_processed (draws : Draws) (hc : s.calls.get? c = some ⟨o, .reserved⟩) :
    ReplayInv service ((s.run draws o).drop c) := by
  have hmode := h.inMemory_of_reserved hc
  have hdropped : ReplayInv service (s.drop c) := h.drop (not_ran hc rfl)
  refine hdropped.run draws (h.waiting hc rfl) (h.apart_of_drop hc rfl) ?_
  rw [OnRecord, hmode, if_neg Bool.false_ne_true]
  exact h.reserved hc rfl

theorem keeps_nonceInserted (hmay : MayTakeNonce s o)
    (hc : s.calls.get? c = some ⟨o, .txOpen⟩) (hnew : nonceKey o ∉ s.usedNonces)
    (hfree : ∀ c' call, s.calls.get? c' = some call → call.phase.holdsRow = true →
      nonceKey call.order ≠ nonceKey o) :
    ReplayInv service (s.put c o .nonceHeld) := by
  have hmode := h.persistent_of_phase hc rfl
  have hclear := h.clear_of_uninserted hmode hmay hnew hfree
  refine h.put ?_ ?_ (by simp) (mode_inTx hmode (by simp)) (not_ran hc rfl)
  · exact fun _ c' call _ hc' hph => hclear _ (.inr ⟨c', call.phase, hc', hph⟩)
  · exact fun _ o' ho' => hclear o' (.inl ho')

section

variable (draws : Draws) (hc : s.calls.get? c = some ⟨o, .nonceHeld⟩)
include hc

theorem keeps_matched : ReplayInv service ((s.run draws o).put c o .matched) := by
  have hmode := h.persistent_of_phase hc rfl
  have hput : ReplayInv service (s.put c o .matched) :=
    h.put (fun _ => h.clear_of_engaged hc rfl) (by simp [Phase.waits]) (by simp)
      (mode_inTx hmode (by simp)) (not_ran hc rfl)
  refine hput.run draws (h.waiting hc rfl) ?_ ?_
  · intro c' call hc' hph'
    rcases Submissions.get?_put hc' with ⟨-, rfl⟩ | ⟨hne, hc'⟩
    · cases hph'
    · exact h.apart hne.symm hc hc' rfl (Phase.engaged_of_waits hph')
  · rw [OnRecord, hmode, if_pos rfl]
    exact .inr (.inr ⟨c, .matched, get?_set_self .., rfl⟩)

theorem keeps_unmatched :
    ReplayInv service { (s.run draws o).drop c with lost := s.lost ++ [o] } := by
  have hmode := h.persistent_of_phase hc rfl
  have hgrown := h.grow (fun _ _ => id) (refl _)
    (subset_append_left s.lost [o])
  have hdropped := hgrown.drop (not_ran hc rfl)
  refine hdropped.run draws (h.waiting hc rfl) (h.apart_of_drop hc rfl) ?_
  rw [OnRecord, hmode, if_pos rfl]
  exact .inl (mem_append_right _ (mem_singleton_self o))

end

theorem keeps_committed (hc : s.calls.get? c = some ⟨o, .persisted⟩) :
    ReplayInv service { s.drop c with usedNonces := nonceKey o :: s.usedNonces } := by
  have hgrown := h.grow (fun _ _ => id) (subset_cons_self (nonceKey o) s.usedNonces)
    (refl _)
  refine hgrown.drop ?_
  intro call hc' _
  cases hc.symm.trans hc'
  exact .inr mem_cons_self

theorem keeps_rolledBack (hc : s.calls.get? c = some ⟨o, ph⟩) :
    ReplayInv service { s.drop c with lost := s.lost ++ [o] } := by
  have hgrown := h.grow (fun _ _ => id) (refl _)
    (subset_append_left s.lost [o])
  refine hgrown.drop ?_
  intro call hc' _
  cases hc.symm.trans hc'
  exact .inl (mem_append_right _ (mem_singleton_self _))

/-- **One careful step keeps the invariant.** -/
theorem step (hcareful : NonceCareful s action) (hstep : SubmitStep service s action t) :
    ReplayInv service t := by
  cases hstep with
  | refused => exact h
  | arrived hc =>
    refine h.put nofun nofun nofun ?_ ?_
    · split_ifs
      · simp
      · rfl
    · intro call hc'
      exact absurd (hc.symm.trans hc') (by simp)
  | reserved hmode hc hreserve =>
    exact h.keeps_reserved hmode (hcareful _ _ hc) hc hreserve
  | notReserved hmode hc hreserve =>
    have hgrown := h.grow (fun _ _ => NonceStore.reserve_keeps hreserve)
      (refl _) (refl _)
    exact hgrown.drop (not_ran hc rfl)
  | processed hc => exact h.keeps_processed _ hc
  | begun hmode hc =>
    exact h.put nofun nofun nofun (mode_inTx hmode (by simp)) (not_ran hc rfl)
  | nonceInserted hc _ hnew hfree =>
    exact h.keeps_nonceInserted (hcareful _ _ hc) hc hnew hfree
  | matched hc => exact h.keeps_matched _ hc
  | unmatched hc => exact h.keeps_unmatched _ hc
  | persisted hc =>
    refine h.put (fun _ => h.clear_of_engaged hc rfl) nofun nofun
      (mode_inTx (h.persistent_of_phase hc rfl) (by simp)) ?_
    intro call hc' _
    cases hc.symm.trans hc'
    exact ⟨rfl, rfl⟩
  | committed hc => exact h.keeps_committed hc
  | failed hc hphase => exact h.drop (not_ran hc hphase)
  | rolledBack hc => exact h.keeps_rolledBack hc

/-- The invariant says what was to be shown. -/
theorem replaySafe : ReplaySafe service s := by
  refine h.processed.imp ?_
  intro o o' hdifferent signer ho ho' hnonce
  exact hdifferent ⟨hnonce, signer, ho.2, ho'.2⟩

end

end ReplayInv

/-- **Replay safety of careful runs.**  Whatever calls are interleaved and
whichever database calls fail, as long as each nonce is taken under the spelling
its holders use and none is taken again after its row was lost. -/
theorem replay_safe (service : OrderService) (state : OrderState) (actions : List SubmitAction)
    (s : Submissions)
    (hrun : Run (fun s action t => NonceCareful s action ∧ SubmitStep service s action t)
      (Submissions.start state) actions s) :
    ReplaySafe service s :=
  (hrun.invariant (P := ReplayInv service) (ReplayInv.start state)
    fun h hstep => h.step hstep.1 hstep.2).replaySafe

/-! ## Two runs that are not careful -/

variable (persistent : Bool)

/-- A strict service at which every signature recovers to the account `…0a`. -/
def replayService : OrderService :=
  { crypto :=
      { keccak256 := fun _ => []
        isSignature := fun _ => true
        recoverFromPrehash := fun _ _ _ => .ok (replicate 19 0 ++ [10]) }
    eip712Domain := Eip712Domain.default
    signatureVerificationMode := .strict
    persistent := persistent }

/-- An order of that account, under a given spelling of it. -/
def replayOrder (account : String) : SignedOrder :=
  { account := ⟨account⟩, marketId := 1, side := .buy, price1e8 := 5, size1e8 := 1,
    timeInForce := .gtc, reduceOnly := false, postOnly := false, clientOrderId := none, nonce := 1,
    deadlineMs := 1,
    signature := "0x" ++
      "00000000000000000000000000000000000000000000000000000000000000000" ++
      "00000000000000000000000000000000000000000000000000000000000000000" }

/-- The account `…0a` as it is usually written. -/
def lowerSpelling : String := "0x000000000000000000000000000000000000000a"

/-- The same account with a capital digit. -/
def upperSpelling : String := "0x000000000000000000000000000000000000000A"

/-- Ids and times for a run. -/
def replayDraws (uuid : Uuid) : Draws :=
  { orderId := ⟨uuid⟩, createdAtMs := 0, clock := fun _ => 0, intentId := fun n => n }

/-- A service with the default markets and nothing on record. -/
def replayState : OrderState :=
  { engine := EngineState.withDefaultMarkets, nonces := NonceStore.new, usedNonces := [] }

/-- Both spellings parse to the bytes the signatures recover to. -/
theorem replayOrder_verifies (h : account ∈ [lowerSpelling, upperSpelling]) :
    VerifiesFor (replayService persistent) (replayOrder account) (replicate 19 0 ++ [10]) := by
  have hall : ∀ persistent, ∀ account ∈ [lowerSpelling, upperSpelling],
      verifyStrict (replayService persistent).crypto (replayOrder account)
          (replayService persistent).eip712Domain = .ok () ∧
        parseEvmAddress (replayOrder account).account = .ok (replicate 19 0 ++ [10]) := by
    decide +kernel
  exact hall persistent account h

theorem replayOrder_validates {account : String} (h : account ∈ [lowerSpelling, upperSpelling])
    (hmarket : engine.hasMarket 1 = true) :
    validateSignedOrder (replayService persistent) engine 0 (.ok ()) (replayOrder account) =
      .ok () := by
  have hshape : validateSignatureShape (replayOrder account).signature = .ok () := by
    change validateSignatureShape (replayOrder lowerSpelling).signature = .ok ()
    decide +kernel
  have hverify : verify (replayService persistent).crypto (replayOrder account) .strict
      (replayService persistent).eip712Domain = .ok () := by
    rw [verify, hshape]
    exact (replayOrder_verifies persistent h).1
  have hdeadline : validateDeadline 0 (replayOrder account).deadlineMs = .ok () := rfl
  change (validateDeadline 0 (replayOrder account).deadlineMs >>= fun _ =>
    verify (replayService persistent).crypto (replayOrder account) .strict
      (replayService persistent).eip712Domain >>= fun _ =>
    if engine.hasMarket 1 then .ok () else .error (.unknownMarket 1)) = .ok ()
  rw [hdeadline, hverify, hmarket]
  rfl

/-- Two processed orders of one signer and one nonce are a replay. -/
theorem not_replaySafe (hs : s.processed = [replayOrder a, replayOrder a'])
    (ha : a ∈ [lowerSpelling, upperSpelling]) (ha' : a' ∈ [lowerSpelling, upperSpelling]) :
    ¬ ReplaySafe (replayService persistent) s := by
  intro hsafe
  rw [ReplaySafe, hs] at hsafe
  have hpair := rel_of_pairwise_cons hsafe mem_cons_self
  exact hpair _ (replayOrder_verifies persistent ha) (replayOrder_verifies persistent ha') rfl

/-- A transaction that is alone finds its nonce free. -/
theorem free_of_alone {s : Submissions} (hkeys : s.calls.keys = [c])
    (hc : s.calls.get? c = some ⟨o, .txOpen⟩) :
    ∀ c' call, s.calls.get? c' = some call → call.phase.holdsRow = true →
      nonceKey call.order ≠ nonceKey o := by
  intro c' call hc' hrow
  have hmem : c' ∈ s.calls.keys := by simp [mem_keys_iff, hc']
  rw [hkeys, mem_singleton] at hmem
  subst hmem
  obtain rfl := some.inj (hc.symm.trans hc')
  cases hrow

/-- The order of an account, and then the same order under another spelling. -/
def respelled : List SubmitAction :=
  [.arrive 0 (replayOrder lowerSpelling) 0 (.ok ()), .reserve 0, .process 0 (replayDraws 1),
    .arrive 0 (replayOrder upperSpelling) 0 (.ok ()), .reserve 0, .process 0 (replayDraws 2)]

/-- An order whose transaction fails to commit, and then the same order. -/
def rolledBackAndRetried : List SubmitAction :=
  [.arrive 0 (replayOrder lowerSpelling) 0 (.ok ()), .begin 0, .insertNonce 0,
    .process 0 (replayDraws 1), .persist 0, .fail 0,
    .arrive 0 (replayOrder lowerSpelling) 0 (.ok ()), .begin 0, .insertNonce 0,
    .process 0 (replayDraws 2), .persist 0, .commit 0]

theorem run_respelled :
    ∃ s, Run (SubmitStep (replayService false)) (Submissions.start replayState) respelled s ∧
      s.processed = [replayOrder lowerSpelling, replayOrder upperSpelling] := by
  have hrun : Run (SubmitStep (replayService false)) (Submissions.start replayState)
      respelled _ :=
    (((((Run.start.snoc (.arrived rfl
      (replayOrder_validates false (by simp) (by decide +kernel)))).snoc
      (.reserved rfl rfl rfl)).snoc (.processed rfl)).snoc (.arrived rfl
      (replayOrder_validates false (by simp) (by decide +kernel)))).snoc
      (.reserved rfl rfl rfl)).snoc (.processed rfl)
  exact ⟨_, hrun, rfl⟩

theorem run_rolledBackAndRetried :
    ∃ s, Run (SubmitStep (replayService true)) (Submissions.start replayState)
        rolledBackAndRetried s ∧
      s.processed = [replayOrder lowerSpelling, replayOrder lowerSpelling] := by
  have hfirst : Run (SubmitStep (replayService true)) (Submissions.start replayState)
      (rolledBackAndRetried.take 6) _ :=
    (((((Run.start.snoc (.arrived rfl
      (replayOrder_validates true (by simp) (by decide +kernel)))).snoc
      (.begun rfl rfl)).snoc (.nonceInserted rfl (by decide) (by decide) (free_of_alone rfl rfl))).snoc
      (.matched rfl rfl)).snoc (.persisted rfl)).snoc (.rolledBack rfl rfl)
  have hrun : Run (SubmitStep (replayService true)) (Submissions.start replayState)
      rolledBackAndRetried _ :=
    (((((hfirst.snoc (.arrived rfl
      (replayOrder_validates true (by simp) (by decide +kernel)))).snoc
      (.begun rfl rfl)).snoc (.nonceInserted rfl (by decide) (by decide) (free_of_alone rfl rfl))).snoc
      (.matched rfl rfl)).snoc (.persisted rfl)).snoc (.committed rfl)
  exact ⟨_, hrun, rfl⟩

/-- **A nonce can be used twice.**  In memory, one signed order is processed a
second time under another spelling of its account.  With a repository, an order
whose transaction fails after the engine has run is processed again when it is
sent again. -/
theorem replay_respelled_or_rolled_back :
    (∃ s, Run (SubmitStep (replayService false)) (Submissions.start replayState) respelled s ∧
        ¬ ReplaySafe (replayService false) s) ∧
      ∃ s, Run (SubmitStep (replayService true)) (Submissions.start replayState)
        rolledBackAndRetried s ∧ ¬ ReplaySafe (replayService true) s := by
  obtain ⟨s, hrun, hs⟩ := run_respelled
  obtain ⟨s', hrun', hs'⟩ := run_rolledBackAndRetried
  exact ⟨⟨s, hrun, not_replaySafe false hs (by simp) (by simp)⟩,
    s', hrun', not_replaySafe true hs' (by simp) (by simp)⟩

/-- As long as only one order is about, its calls are careful. -/
theorem nonceCareful_of_alone (o : SignedOrder) (hcalls : ∀ call ∈ s.calls.vals, call.order = o)
    (hprocessed : ∀ o' ∈ s.processed, o' = o) (hlost : s.lost = []) :
    NonceCareful s (.reserve c) := by
  have horder : ∀ {c o' ph}, s.calls.get? c = some ⟨o', ph⟩ → o' = o :=
    fun hc => hcalls _ (mem_vals.mpr ⟨_, hc⟩)
  intro o₁ ph₁ hc₁
  refine ⟨?_, by simp [hlost]⟩
  rintro o' (hmem | ⟨c, ph, hc, -⟩) -
  · rw [hprocessed o' hmem, horder hc₁]
  · rw [horder hc, horder hc₁]

/-- Two calls with the same order, one of them ahead of the other. -/
def twoCalls : List SubmitAction :=
  [.arrive 0 (replayOrder lowerSpelling) 0 (.ok ()),
    .arrive 1 (replayOrder lowerSpelling) 0 (.ok ()), .reserve 0, .reserve 1,
    .process 0 (replayDraws 1)]

theorem replay_safe_two_calls :
    ∃ s, Run (fun s action t => NonceCareful s action ∧ SubmitStep (replayService false) s action t)
        (Submissions.start replayState) twoCalls s ∧
      s.processed = [replayOrder lowerSpelling] ∧ ReplaySafe (replayService false) s := by
  have hrun : Run
      (fun s action t => NonceCareful s action ∧ SubmitStep (replayService false) s action t)
      (Submissions.start replayState) twoCalls _ :=
    ((((Run.start.snoc ⟨trivial, .arrived rfl
      (replayOrder_validates false (by simp) (by decide +kernel))⟩).snoc ⟨trivial, .arrived rfl
      (replayOrder_validates false (by simp) (by decide +kernel))⟩).snoc
      ⟨nonceCareful_of_alone (replayOrder lowerSpelling) (by decide) (by decide) rfl,
        .reserved rfl rfl rfl⟩).snoc
      ⟨nonceCareful_of_alone (replayOrder lowerSpelling) (by decide) (by decide) rfl,
        .notReserved rfl rfl rfl⟩).snoc ⟨trivial, .processed rfl⟩
  exact ⟨_, hrun, rfl, replay_safe _ _ _ _ hrun⟩

end DeoptBackend
