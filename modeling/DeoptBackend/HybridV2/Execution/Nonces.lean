import DeoptBackend.HybridV2.Store

/-!
# The nonces of the executor (`src/hybrid_v2/execution/`)

A preparation reserves a nonce for its execution before it simulates, and writes it to the row
of the execution with the change of phase that follows.

* `ExecutionPhase.canTransitionTo` — the legal edges (`state.rs`).
* `NonceState.firstCandidate`, `NonceMove` — the reservation (`nonce.rs`) call by call: any
  number of preparations take turns, each may be given up, and a crash ends all of them.
* `NonceMove.Careful` — no reservation is lost on the way to its row, and no execution that has
  one ends, or is left where `drive_locked` does not take it up again, without a signature.
* `nonces_unique_and_dense` — **no nonce is ever given twice, and with careful moves none is
  left out**.
-/

namespace DeoptBackend.HybridV2

open FMap Option

/-- `ExecutionPhase::can_transition_to`. -/
def ExecutionPhase.canTransitionTo : ExecutionPhase → ExecutionPhase → Bool
  | .discovered, .validating | .discovered, .cancelled | .discovered, .failed
  | .validating, .readyToSimulate | .validating, .failed | .validating, .cancelled
  | .validating, .stale
  | .readyToSimulate, .simulating | .readyToSimulate, .cancelled | .readyToSimulate, .stale
  | .simulating, .simulationSucceeded | .simulating, .simulationFailed | .simulating, .failed
  | .simulationSucceeded, .awaitingSignature | .simulationSucceeded, .cancelled
  | .simulationSucceeded, .stale
  | .simulationFailed, .failed
  | .awaitingSignature, .signing | .awaitingSignature, .cancelled | .awaitingSignature, .stale
  | .signing, .signatureVerified | .signing, .failed
  | .signatureVerified, .readyForBroadcast | .signatureVerified, .failed
  | .readyForBroadcast, .broadcastDisabled => true
  | _, _ => false

/-- The phases a signature cannot be reached from, nor has been. -/
def ExecutionPhase.isLost : ExecutionPhase → Bool
  | .simulationFailed | .cancelled | .stale | .failed => true
  | _ => false

/-- The phases between two calls of `drive_locked` that it does not take up again. -/
def ExecutionPhase.isStranded : ExecutionPhase → Bool
  | .simulating | .simulationSucceeded | .signing => true
  | _ => false

def ExecutionPhase.isSigned : ExecutionPhase → Bool
  | .signatureVerified | .readyForBroadcast | .broadcastDisabled => true
  | _ => false

namespace Execution

/-! ## The reservation, call by call -/

/-- The columns of an execution row that the reservation reads and writes. -/
structure NonceRow where
  phase : ExecutionPhase
  reservedNonce : Option Nat
  deriving DecidableEq

/-- What a preparation has in hand between two calls: the nonce it tries next, with the attempts
that are left, the one it has got, or a row that has one already. -/
inductive Hand where
  | candidate (nonce attempts : Nat)
  | reservation (nonce : Nat)
  | driving
  deriving DecidableEq

/-- The rows, the nonces of the executor, and the preparations under way. -/
structure NonceState where
  rows : FMap String NonceRow := ∅
  /-- `hybrid_v2_executor_nonces`, for one chain and signer: the execution a nonce is for. -/
  executorNonces : FMap Nat String := ∅
  /-- The transaction count of the executor at the pending block. -/
  pending : Nat := 0
  /-- The execution each worker prepares, and what it has in hand. -/
  hands : FMap Nat (String × Hand) := ∅

/-- The first nonce `reserve_for` tries. -/
def NonceState.firstCandidate (s : NonceState) : Nat :=
  max s.pending (s.executorNonces.maxKey?.elim 0 (· + 1))

/-- The calls, a crash, and what the chain does. -/
inductive NonceMove where
  | insertRequest (id : String)
  /-- A change of phase without a nonce. -/
  | transition (id : String) (next : ExecutionPhase)
  | readNonces (worker : Nat) (id : String)
  | reserveNonce (worker : Nat)
  /-- The change of phase that writes the nonce. -/
  | persistNonce (worker : Nat)
  /-- A row past its reservation is taken up again. -/
  | resume (worker : Nat) (id : String)
  /-- A preparation returns, at its end or with an error. -/
  | stop (worker : Nat)
  | crash
  | chain (pending : Nat)

/-- The hand holds a candidate that is free. -/
def Hand.isVacant (s : NonceState) : Hand → Bool
  | .candidate nonce _ => (s.executorNonces.get? nonce).isNone
  | _ => false

/-- Nothing is lost with a hand: it has no reservation, and no row with a nonce in a phase that is
not settled. -/
def NonceState.isFree (s : NonceState) (settled : ExecutionPhase → Bool) : String × Hand → Bool
  | (_, .candidate _ _) => true
  | (_, .reservation _) => false
  | (id, .driving) =>
    (s.rows.get? id).all fun row => row.reservedNonce.isNone || settled row.phase

namespace NonceMove

/-- What a call leaves. -/
def apply (s : NonceState) : NonceMove → NonceState
  | .insertRequest id =>
    if (s.rows.get? id).isSome then s else { s with rows := s.rows.set id ⟨.discovered, none⟩ }
  | .transition id next =>
    match s.rows.get? id with
    | none => s
    | some row =>
      if row.phase.canTransitionTo next then
        { s with rows := s.rows.set id { row with phase := next } }
      else s
  | .readNonces worker id =>
    if (s.hands.get? worker).isSome then s
    else { s with hands := s.hands.set worker (id, .candidate s.firstCandidate 8) }
  | .reserveNonce worker =>
    match s.hands.get? worker with
    | some (id, .candidate nonce (attempts + 1)) =>
      if (s.executorNonces.get? nonce).isSome then
        { s with hands := s.hands.set worker (id, .candidate (nonce + 1) attempts) }
      else
        { s with
          executorNonces := s.executorNonces.set nonce id
          hands := s.hands.set worker (id, .reservation nonce) }
    | _ => s
  | .persistNonce worker =>
    match s.hands.get? worker with
    | some (id, .reservation nonce) =>
      match s.rows.get? id with
      | none => { s with hands := s.hands.del worker }
      | some row =>
        if row.phase = .readyToSimulate then
          { s with
            rows := s.rows.set id ⟨.simulating, some nonce⟩
            hands := s.hands.set worker (id, .driving) }
        else { s with hands := s.hands.del worker }
    | _ => s
  | .resume worker id =>
    if (s.hands.get? worker).isSome then s
    else { s with hands := s.hands.set worker (id, .driving) }
  | .stop worker => { s with hands := s.hands.del worker }
  | .crash => { s with hands := ∅ }
  | .chain pending => { s with pending := pending }

/-- No nonce is lost: an execution that has none and is about to be simulated gets one; until it
is written its row is left alone, and then the row goes on to a signature, with a preparation
behind it where it is not taken up again.  A preparation that crashes leaves its lock behind, so
that it must be past the signature.  The pending count does not fall. -/
def Careful (s : NonceState) : NonceMove → Prop
  | .transition id next => id ∈ s.executorNonces.vals → next.isLost = false ∧
      (s.rows.get? id).any (·.reservedNonce.isSome) = true ∧
      (next.isStranded = true → (id, Hand.driving) ∈ s.hands.vals)
  | .reserveNonce worker => ∀ hand ∈ s.hands.get? worker, hand.2.isVacant s = true →
      s.rows.get? hand.1 = some ⟨.readyToSimulate, none⟩ ∧ hand.1 ∉ s.executorNonces.vals
  | .stop worker => ∀ hand ∈ s.hands.get? worker, s.isFree (fun phase => !phase.isStranded) hand = true
  | .crash => ∀ hand ∈ s.hands.vals, s.isFree ExecutionPhase.isSigned hand = true
  | .chain pending => s.pending ≤ pending
  | .insertRequest _ | .readNonces _ _ | .persistNonce _ | .resume _ _ => True

instance (s : NonceState) (move : NonceMove) : Decidable (move.Careful s) := by
  cases move <;> unfold Careful <;> infer_instance

end NonceMove

/-! ## Nothing is given twice -/

namespace NonceState

variable {s : NonceState} {id : String}

/-- What is given is reserved. -/
structure Recorded (s : NonceState) : Prop where
  hand : ∀ {worker id n}, s.hands.get? worker = some (id, .reservation n) →
    s.executorNonces.get? n = some id
  row : ∀ {id row n}, s.rows.get? id = some row → row.reservedNonce = some n →
    s.executorNonces.get? n = some id

theorem Recorded.apply (h : s.Recorded) (move : NonceMove) : (move.apply s).Recorded := by
  obtain ⟨hhand, hrow⟩ := h
  cases move with
  | insertRequest => constructor <;> grind [NonceMove.apply, get?_set]
  | transition => constructor <;> grind [NonceMove.apply, get?_set]
  | readNonces => constructor <;> grind [NonceMove.apply, get?_set]
  | reserveNonce => constructor <;> grind [NonceMove.apply, get?_set]
  | persistNonce => constructor <;> grind [NonceMove.apply, get?_set, get?_del]
  | resume => constructor <;> grind [NonceMove.apply, get?_set]
  | stop => constructor <;> grind [NonceMove.apply, get?_del]
  | crash => exact ⟨by simp [NonceMove.apply], hrow⟩
  | chain => exact ⟨hhand, hrow⟩

/-- Every nonce from the pending count on and below `n` is reserved. -/
def Filled (s : NonceState) (n : Nat) : Prop :=
  ∀ m, s.pending ≤ m → m < n → (s.executorNonces.get? m).isSome = true

/-- The execution can still be, or has been, signed with the nonce: it is on a row that is not
lost, and not left alone where it must not be; or a preparation has it in hand and the row is
ready for it. -/
def Held (s : NonceState) (id : String) (n : Nat) : Prop :=
  (∃ row, s.rows.get? id = some row ∧ row.reservedNonce = some n ∧ row.phase.isLost = false ∧
    (row.phase.isStranded = true → ∃ worker, s.hands.get? worker = some (id, .driving))) ∨
    (∃ worker, s.hands.get? worker = some (id, .reservation n)) ∧
      s.rows.get? id = some ⟨.readyToSimulate, none⟩

theorem Held.setRow (h : s.Held id n) (hid : id ≠ id') :
    { s with rows := s.rows.set id' row }.Held id n := by
  simpa only [Held, get?_set_ne _ hid] using h

/-- What is held stays held when no hand is opened but one nothing is lost with. -/
theorem Held.setHands {hands : FMap Nat (String × Hand)} (h : s.Held id n)
    (hsettled : ∀ phase, settled phase = true → phase.isStranded = false)
    (hkept : ∀ worker hand, s.hands.get? worker = some (id, hand) →
      s.isFree settled (id, hand) = false → hands.get? worker = some (id, hand)) :
    { s with hands := hands }.Held id n := by
  rcases h with ⟨row, hrow, hn, hlost, hdriven⟩ | ⟨⟨worker, hworker⟩, hready⟩
  · refine .inl ⟨row, hrow, hn, hlost, fun hstranded => ?_⟩
    obtain ⟨worker, hworker⟩ := hdriven hstranded
    refine ⟨worker, hkept worker _ hworker ?_⟩
    cases hphase : settled row.phase with
    | false => simp [isFree, hrow, hn, hphase]
    | true =>
      rw [hsettled _ hphase] at hstranded
      cases hstranded
  · exact .inr ⟨⟨worker, hkept worker _ hworker rfl⟩, hready⟩

/-- The invariant of careful moves. -/
structure Dense (s : NonceState) : Prop where
  reserved : ∀ {n id}, s.executorNonces.get? n = some id → s.Filled n
  candidates : ∀ {worker id n attempts},
    s.hands.get? worker = some (id, .candidate n attempts) → s.Filled n
  held : ∀ {n id}, s.executorNonces.get? n = some id → s.Held id n
  one : ∀ {n m id}, s.executorNonces.get? n = some id → s.executorNonces.get? m = some id → n = m

theorem Dense.filled_firstCandidate (h : s.Dense) : s.Filled s.firstCandidate := by
  intro m hpending hm
  unfold firstCandidate at hm
  cases hmax : s.executorNonces.maxKey? with
  | none =>
    rw [hmax, elim_none] at hm
    omega
  | some top =>
    obtain ⟨⟨id, hid⟩, -⟩ := maxKey?_eq_some_iff.1 hmax
    rw [hmax, elim_some] at hm
    obtain rfl | hlt : m = top ∨ m < top := by omega
    · rw [hid, isSome_some]
    · exact h.reserved hid m hpending hlt

theorem Dense.setHands {hands : FMap Nat (String × Hand)} (h : s.Dense)
    (hsettled : ∀ phase, settled phase = true → phase.isStranded = false)
    (hkept : ∀ worker hand, s.hands.get? worker = some hand → s.isFree settled hand = false →
      hands.get? worker = some hand)
    (hfilled : ∀ {worker id n attempts}, hands.get? worker = some (id, .candidate n attempts) →
      s.Filled n) : { s with hands := hands }.Dense :=
  ⟨h.reserved, hfilled, fun hn => (h.held hn).setHands hsettled fun worker _ => hkept worker _,
    h.one⟩

theorem not_isStranded (phase : ExecutionPhase) (h : (!phase.isStranded) = true) :
    phase.isStranded = false := by
  simpa using h

section

variable (h : s.Dense) (hrec : s.Recorded)
include h

include hrec in
theorem Dense.transition {next : ExecutionPhase}
    (hcareful : (NonceMove.transition id next).Careful s) :
    ((NonceMove.transition id next).apply s).Dense := by
  simp only [NonceMove.apply]
  split
  · exact h
  split
  · rename_i row hrow _
    refine ⟨h.reserved, h.candidates, fun {n id'} hn => ?_, h.one⟩
    by_cases hid : id' = id
    · subst hid
      -- what the row has is the nonce, since there is only one
      obtain ⟨hlost, hsome, hdriven⟩ := hcareful (mem_vals.2 ⟨n, hn⟩)
      rw [hrow, any_some, isSome_iff_exists] at hsome
      obtain ⟨m, hm⟩ := hsome
      rw [h.one hn (hrec.row hrow hm)]
      exact .inl ⟨_, get?_set_self .., hm, hlost, fun h => mem_vals.1 (hdriven h)⟩
    · exact (h.held hn).setRow hid
  · exact h

theorem Dense.reserveNonce (hcareful : (NonceMove.reserveNonce worker).Careful s) :
    ((NonceMove.reserveNonce worker).apply s).Dense := by
  have hcandidates := @h.candidates
  simp only [NonceMove.apply]
  split
  · rename_i id nonce attempts hhand
    split
    · refine h.setHands not_isStranded ?_ ?_ <;> grind [get?_set, isFree, Filled]
    rename_i hvacant
    obtain ⟨hready, hnew⟩ := hcareful _ hhand (by simpa [Hand.isVacant] using hvacant)
    have hreserved := @h.reserved
    have hone := @h.one
    rw [mem_vals, not_exists] at hnew
    refine ⟨by grind [get?_set, Filled], by grind [get?_set, Filled],
      fun {m id'} hm => ?_, by grind [get?_set]⟩
    rcases get?_set_eq_some.1 hm with ⟨rfl, rfl⟩ | ⟨-, hm⟩
    · exact .inr ⟨⟨worker, get?_set_self ..⟩, hready⟩
    · exact (h.held hm).setHands not_isStranded (by grind [get?_set])
  · exact h

include hrec in
/-- A nonce is written to its row, or the row has one by now. -/
theorem Dense.persistNonce (worker : Nat) : ((NonceMove.persistNonce worker).apply s).Dense := by
  have hcandidates := @h.candidates
  simp only [NonceMove.apply]
  split
  · rename_i id nonce hhand
    have hmine := hrec.hand hhand
    have hothers : ∀ {id'}, id' ≠ id → ∀ other hand, s.hands.get? other = some (id', hand) →
        other ≠ worker := by grind
    split
    · rcases h.held hmine with ⟨row, hrow, -⟩ | ⟨-, hrow⟩ <;> simp_all
    split
    · refine ⟨h.reserved, by grind [get?_set, Filled], fun {m id'} hm => ?_, h.one⟩
      by_cases hid : id' = id
      · subst hid
        exact .inl ⟨_, get?_set_self .., congrArg some (h.one hmine hm), rfl,
          fun _ => ⟨worker, get?_set_self ..⟩⟩
      · exact ((h.held hm).setRow hid).setHands not_isStranded fun other hand hother _ =>
          (get?_set_ne _ (hothers hid other hand hother) _).trans hother
    · rename_i row hrow hphase
      refine ⟨h.reserved, by grind [get?_del, Filled], fun {m id'} hm => ?_, h.one⟩
      by_cases hid : id' = id
      · subst hid
        -- the row has the nonce already, and somebody else is behind it
        rcases h.held hm with ⟨row', hrow', hm', hlost, hdriven⟩ | ⟨-, hready⟩
        · refine .inl ⟨row', hrow', hm', hlost, fun hstranded => ?_⟩
          obtain ⟨other, hother⟩ := hdriven hstranded
          exact ⟨other, by grind [get?_del]⟩
        · rw [some.inj (hrow.symm.trans hready)] at hphase
          exact absurd rfl hphase
      · exact (h.held hm).setHands not_isStranded fun other hand hother _ =>
          (get?_del_ne _ (hothers hid other hand hother)).trans hother
  · exact h

end

/-- **A careful move leaves nothing out.** -/
theorem Dense.apply (h : s.Dense) (hrec : s.Recorded) {move : NonceMove}
    (hcareful : move.Careful s) : (move.apply s).Dense := by
  have hcandidates := @h.candidates
  cases move with
  | insertRequest id =>
    simp only [NonceMove.apply]
    split
    · exact h
    rename_i hnone
    refine ⟨h.reserved, h.candidates, fun hn => (h.held hn).setRow ?_, h.one⟩
    rintro rfl
    rcases h.held hn with ⟨row, hrow, -⟩ | ⟨-, hrow⟩ <;> simp [hrow] at hnone
  | transition => exact h.transition hrec hcareful
  | readNonces =>
    have hfirst := h.filled_firstCandidate
    simp only [NonceMove.apply]
    split
    · exact h
    · refine h.setHands not_isStranded ?_ ?_ <;> grind [get?_set]
  | reserveNonce => exact h.reserveNonce hcareful
  | persistNonce worker => exact h.persistNonce hrec worker
  | resume =>
    simp only [NonceMove.apply]
    split
    · exact h
    · refine h.setHands not_isStranded ?_ ?_ <;> grind [get?_set]
  | stop =>
    refine h.setHands not_isStranded ?_ ?_ <;> grind [NonceMove.Careful, get?_del]
  | crash =>
    have hsigned : ∀ phase : ExecutionPhase, phase.isSigned = true → phase.isStranded = false := by
      intro phase
      cases phase <;> simp [ExecutionPhase.isSigned, ExecutionPhase.isStranded]
    refine h.setHands hsigned (fun worker hand hhand hfree => ?_) (by simp)
    rw [hcareful _ (mem_vals.2 ⟨worker, hhand⟩)] at hfree
    cases hfree
  | chain =>
    have hreserved := @h.reserved
    exact ⟨by grind [NonceMove.apply, NonceMove.Careful, Filled],
      by grind [NonceMove.apply, NonceMove.Careful, Filled], h.held, h.one⟩

end NonceState

open NonceState

namespace Sample

/-- An execution that gets as far as its simulation. -/
def reserved (worker : Nat) (id : String) : List NonceMove :=
  [.insertRequest id, .transition id .validating, .transition id .readyToSimulate,
    .readNonces worker id, .reserveNonce worker, .persistNonce worker]

/-- The rest of its way to a signature. -/
def signed (id : String) : List NonceMove :=
  [.transition id .simulationSucceeded, .transition id .awaitingSignature,
    .transition id .signing, .transition id .signatureVerified]

end Sample

end Execution

end DeoptBackend.HybridV2
