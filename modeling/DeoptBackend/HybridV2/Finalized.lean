import DeoptBackend.Lib.Run
import DeoptBackend.HybridV2.Reducer

/-!
# When a recovery has ended (`src/hybrid_v2/reducer.rs`)

`RecoveryFinalized` drops what a subaccount held and marks it recovered, and the rules at the
head of the source call that state terminal.  The arms guard it one by one: a deposit, a
cancellation and a second finalization are refused, while four arms never look.

* `Vacant` — a subaccount that is recovered and holds nothing.
* `keeps_spared` — the frame: which maps an event of a kind can touch at all.
* `Vacant.apply_iff` — what one accepted event does to a vacant subaccount.
* `closed_along_iff` — **the subaccount stays vacant exactly as long as no event revives it**.
-/

namespace DeoptBackend.HybridV2

open Act ProjectionState FMap Option

/-! ## What touches the vault -/

/-- The maps a recovery is about. -/
def ProjectionState.vault (state : ProjectionState) :
    FMap String RecoveryStateProjection × FMap (String × String) String ×
      FMap (String × String × String) String :=
  (state.recoveryState, state.balances, state.reservations)

def EventKind.movesVault : EventKind → Bool
  | .deposit | .withdraw | .internalTransfer | .collateralLocked | .collateralUnlocked
  | .orphanedLockReleased | .recoveryRequested | .recoveryActivated | .recoveryCancelled
  | .recoveryFinalized => true
  | _ => false

/-- The kinds of event that write the epochs of subaccounts or the withdrawals. -/
def EventKind.movesEpochs : EventKind → Bool
  | .recoveryEpochIncremented | .subaccountRecoveryEpochAdvanced
  | .recoveryFinalizationWithdrawn => true
  | _ => false

variable (kind : EventKind) (state : ProjectionState)

/-- What an event of a kind leaves alone. -/
def ProjectionState.spared :=
  (if kind.movesVault then none else some state.vault,
    if kind.movesEpochs then none
    else some (state.subaccountRecoveryEpochs, state.recoveryFinalizationWithdrawals),
    state.matchedExecutions)

theorem dropSeries_spared (subkey series : String) :
    (state.dropSeries subkey series).spared kind = state.spared kind := by
  unfold dropSeries
  split <;> rfl

theorem keeps_spared (event : HybridV2Event) (ctx : ApplyContext) :
    Keeps (spared event.kind) (apply event ctx) := by
  unfold apply
  cases hkind : event.kind <;> simp only
  all_goals
    try simp only [registerSubaccount, requireIdentity, applyPositionOpen, applyPositionModify,
      applyOrderFilled, recordFee, advanceSubaccountEpoch, requireAmount, require, credit, debit,
      adjustReservation]
    repeat' first
      | with_reducible refine Keeps.bind ?_ fun _ => ?_
      | with_reducible exact Keeps.pure _
      | with_reducible exact Keeps.fail _
      | with_reducible exact Keeps.check _
      | with_reducible exact Keeps.read _
      | with_reducible refine Keeps.write fun _ => ?_
      | split
      | rfl
      | exact dropSeries_spared ..

theorem credit_eq_ok (h : credit subkey token amount s = (.ok (), s')) :
    ∃ next, u256Add (s.balance subkey token) amount = some next ∧
      s' = { s with balances := s.balances.set (subkey, token) next } := by
  simp only [credit, bind_eq_ok, check_eq_ok, orFail_eq_ok, write_run, Prod.mk.injEq, true_and] at h
  obtain ⟨_, _, ⟨rfl, rfl⟩, next, _, ⟨hnext, rfl⟩, rfl⟩ := h
  exact ⟨next, hnext, rfl⟩

theorem debit_eq_ok (h : debit subkey token amount s = (.ok (), s')) :
    ∃ next, u256Sub (s.balance subkey token) amount = some next ∧
      s' = { s with balances := s.balances.set (subkey, token) next } := by
  simp only [debit, bind_eq_ok, check_eq_ok, orFail_eq_ok, write_run, Prod.mk.injEq, true_and] at h
  obtain ⟨_, _, ⟨rfl, rfl⟩, next, _, ⟨hnext, rfl⟩, rfl⟩ := h
  exact ⟨next, hnext, rfl⟩

theorem adjustReservation_eq_ok (h : adjustReservation event add s = (.ok (), s')) :
    ∃ subkey token engine amount next, event.subkey = some subkey ∧
      payloadString event "amount" = some amount ∧
      (if add then u256Add else u256Sub)
        ((s.reservations.get? (subkey, token, engine)).getD "0") amount = some next ∧
      s' = { s with reservations := s.reservations.set (subkey, token, engine) next } := by
  simp only [adjustReservation, requireAmount, bind_eq_ok, require_eq_ok, check_eq_ok, write_run,
    Prod.mk.injEq, true_and] at h
  obtain ⟨subkey, _, ⟨hsubkey, rfl⟩, token, _, ⟨-, rfl⟩, engine, _, ⟨-, rfl⟩, amount, _,
    ⟨hamount, rfl⟩, _, _, ⟨rfl, rfl⟩, next, _, ⟨hnext, rfl⟩, rfl⟩ := h
  refine ⟨subkey, token, engine, amount, next, hsubkey, hamount, ?_, rfl⟩
  cases add <;> simpa [orFail_eq_ok] using hnext

/-! ## A vacant subaccount -/

/-- **A vacant subaccount**: recovered, and every amount of it zero. -/
structure Vacant (subkey : String) (state : ProjectionState) : Prop where
  recovered : state.recoveryState.get? subkey = some .recovered
  balances : ∀ token, decimal (state.balance subkey token) = some 0
  reservations : ∀ token engine,
    decimal ((state.reservations.get? (subkey, token, engine)).getD "0") = some 0

/-- **The events that revive a vacant subaccount.**  None of the four arms consults the
recovery state. -/
def Revives (subkey : String) (event : HybridV2Event) : Prop :=
  match event.kind with
  | .recoveryRequested | .recoveryActivated => event.subkey = some subkey
  | .internalTransfer =>
    payloadString event "to_subkey" = some subkey ∧
      (payloadString event "amount").bind decimal ≠ some 0
  | .collateralLocked =>
    event.subkey = some subkey ∧ (payloadString event "amount").bind decimal ≠ some 0
  | _ => False

instance (subkey : String) (event : HybridV2Event) : Decidable (Revives subkey event) := by
  unfold Revives
  split <;> infer_instance

theorem decimal_zero : decimal "0" = some 0 := by decide +kernel

theorem decimal_u256Add (hcur : decimal cur = some 0) (h : u256Add cur amount = some next) :
    decimal next = decimal amount := by
  obtain ⟨x, y, hx, hy, hlt, rfl⟩ := u256Add_eq_some h
  cases hcur.symm.trans hx
  rw [zero_add] at hlt ⊢
  rw [decimal_toString hlt, hy]

theorem decimal_u256Sub (hcur : decimal cur = some 0) (h : u256Sub cur amount = some next) :
    decimal next = some 0 := by
  obtain ⟨x, y, hx, -, -, rfl⟩ := u256Sub_eq_some h
  cases hcur.symm.trans hx
  rw [Nat.zero_sub]
  exact decimal_toString (by decide)

namespace Vacant

theorem congr (h : s'.vault = s.vault) : Vacant subkey s' ↔ Vacant subkey s := by
  simp only [vault, Prod.mk.injEq] at h
  obtain ⟨hrecovery, hbalances, hreservations⟩ := h
  constructor
  · rintro ⟨h₁, h₂, h₃⟩
    simp only [balance, hrecovery, hbalances, hreservations] at h₁ h₂ h₃
    exact ⟨h₁, h₂, h₃⟩
  · rintro ⟨h₁, h₂, h₃⟩
    refine ⟨?_, ?_, ?_⟩ <;>
      simpa [balance, hrecovery, hbalances, hreservations]

section

variable (h : Vacant subkey s)
include h

theorem setBalance_iff :
    Vacant subkey { s with balances := s.balances.set (other, token) next } ↔
      (other = subkey → decimal next = some 0) := by
  constructor
  · rintro h' rfl
    simpa [balance] using h'.balances token
  refine fun hnext => ⟨h.recovered, fun t => ?_, h.reservations⟩
  by_cases hkey : (subkey, t) = (other, token)
  · cases hkey
    simpa [balance] using hnext rfl
  · simpa [balance, get?_set_ne _ hkey] using h.balances t

theorem setReservation_iff :
    Vacant subkey { s with reservations := s.reservations.set (other, token, engine) next } ↔
      (other = subkey → decimal next = some 0) := by
  constructor
  · rintro h' rfl
    simpa using h'.reservations token engine
  refine fun hnext => ⟨h.recovered, h.balances, fun t e => ?_⟩
  by_cases hkey : (subkey, t, e) = (other, token, engine)
  · cases hkey
    simpa using hnext rfl
  · simpa [get?_set_ne _ hkey] using h.reservations t e

theorem setRecovery_iff (hr : r ≠ .recovered) :
    Vacant subkey ((s.setRecovery other r).setEscape other f) ↔ other ≠ subkey := by
  constructor
  · rintro h' rfl
    exact hr (by simpa [setRecovery, setEscape] using h'.recovered)
  intro hne
  refine ⟨?_, h.balances, h.reservations⟩
  simpa [setRecovery, setEscape, get?_set_ne _ hne.symm]
    using h.recovered

/-- Nothing can be taken from a vacant subaccount but zero. -/
theorem debit (hrun : HybridV2.debit source token amount s = (.ok (), s')) : Vacant subkey s' := by
  obtain ⟨next, hnext, rfl⟩ := debit_eq_ok hrun
  refine h.setBalance_iff.mpr ?_
  rintro rfl
  exact decimal_u256Sub (h.balances token) hnext

theorem credit_iff (hrun : credit target token amount s = (.ok (), s')) :
    Vacant subkey s' ↔ (target = subkey → decimal amount = some 0) := by
  obtain ⟨next, hnext, rfl⟩ := credit_eq_ok hrun
  rw [h.setBalance_iff]
  refine forall_congr' ?_
  rintro rfl
  rw [decimal_u256Add (h.balances token) hnext]

theorem unreserved (hrun : adjustReservation event false s = (.ok (), s')) : Vacant subkey s' := by
  obtain ⟨other, token, engine, amount, next, -, -, hnext, rfl⟩ := adjustReservation_eq_ok hrun
  refine h.setReservation_iff.mpr ?_
  rintro rfl
  exact decimal_u256Sub (h.reservations token engine) (by simpa using hnext)

/-- **One accepted event leaves a vacant subaccount vacant exactly when it does not revive
it.** -/
theorem apply_iff (happly : apply event ctx s = (.ok (), s')) :
    Vacant subkey s' ↔ ¬Revives subkey event := by
  by_cases hmoves : event.kind.movesVault = false
  · have hspared := (keeps_spared event ctx).of_run happly
    simp only [spared, hmoves, Bool.false_eq_true, if_false, Prod.mk.injEq, some.injEq]
      at hspared
    rw [congr hspared.1]
    unfold Revives
    split <;> simp_all [EventKind.movesVault]
  unfold apply at happly
  unfold Revives
  cases hkind : event.kind <;> simp only [hkind, EventKind.movesVault, not_true_eq_false] at hmoves
  all_goals
    simp only [hkind, requireAmount, bind_eq_ok, require_eq_ok, guard_eq_ok] at happly
  case deposit =>
    obtain ⟨other, _, ⟨-, rfl⟩, token, _, ⟨-, rfl⟩, _, _, ⟨rfl, rfl⟩, hopen, amount, _,
      ⟨-, rfl⟩, hcredit⟩ := happly
    -- the guard: the subaccount that is credited is not a recovered one
    refine iff_of_true ((h.credit_iff hcredit).mpr ?_) (by simp)
    rintro rfl
    simp [isFinalized, h.recovered] at hopen
  case withdraw =>
    obtain ⟨other, _, ⟨-, rfl⟩, token, _, ⟨-, rfl⟩, amount, _, ⟨-, rfl⟩, hdebit⟩ := happly
    exact iff_of_true (h.debit hdebit) (by simp)
  case internalTransfer =>
    obtain ⟨token, _, ⟨-, rfl⟩, amount, _, ⟨hamount, rfl⟩, hmoved⟩ := happly
    cases hto : payloadString event "to_subkey" with
    | none =>
      refine iff_of_true ?_ (by simp)
      cases hfrom : payloadString event "from_subkey" with
      | none => rw [hfrom, hto] at hmoved; cases hmoved; exact h
      | some =>
        rw [hfrom, hto] at hmoved
        obtain ⟨_, s₁, hdebit, hrest⟩ := bind_eq_ok.mp hmoved
        cases hrest
        exact h.debit hdebit
    | some target =>
      obtain ⟨s₁, h₁, hcredit⟩ : ∃ s₁, Vacant subkey s₁ ∧
          credit target token amount s₁ = (.ok (), s') := by
        cases hfrom : payloadString event "from_subkey" with
        | none => rw [hfrom, hto] at hmoved; exact ⟨s, h, hmoved⟩
        | some =>
          rw [hfrom, hto] at hmoved
          obtain ⟨_, s₁, hdebit, hrest⟩ := bind_eq_ok.mp hmoved
          exact ⟨s₁, h.debit hdebit, hrest⟩
      rw [h₁.credit_iff hcredit, hamount]
      simp
  case collateralLocked =>
    obtain ⟨other, token, engine, amount, next, hsubkey, hamount, hnext, rfl⟩ :=
      adjustReservation_eq_ok happly
    rw [h.setReservation_iff, hsubkey, hamount]
    simp only [some.injEq, bind_some, not_and, Decidable.not_not]
    refine forall_congr' ?_
    rintro rfl
    rw [decimal_u256Add (h.reservations token engine) (by simpa using hnext)]
  case collateralUnlocked => exact iff_of_true (h.unreserved happly) (by simp)
  case orphanedLockReleased => exact iff_of_true (h.unreserved happly) (by simp)
  case recoveryRequested =>
    obtain ⟨other, _, ⟨hsubkey, rfl⟩, hwrite⟩ := happly
    cases hwrite
    rw [h.setRecovery_iff (by decide), hsubkey]
    simp
  case recoveryActivated =>
    obtain ⟨other, _, ⟨hsubkey, rfl⟩, hwrite⟩ := happly
    cases hwrite
    rw [h.setRecovery_iff (by decide), hsubkey]
    simp
  case recoveryCancelled =>
    obtain ⟨other, _, ⟨-, rfl⟩, _, _, ⟨rfl, rfl⟩, hopen, hwrite⟩ := happly
    cases hwrite
    refine iff_of_true ((h.setRecovery_iff (by decide)).mpr ?_) (by simp)
    rintro rfl
    exact hopen h.recovered
  case recoveryFinalized =>
    obtain ⟨other, _, ⟨-, rfl⟩, _, _, ⟨rfl, rfl⟩, hopen, hwrite⟩ := happly
    cases hwrite
    have hne : subkey ≠ other := by
      rintro rfl
      exact hopen h.recovered
    refine iff_of_true ⟨?_, fun token => ?_, fun token engine => ?_⟩ (by simp)
    · simpa [setRecovery, setEscape, get?_set_ne _ hne]
        using h.recovered
    · have hkept := h.balances token
      simpa [balance, setRecovery, setEscape, get?_retain, hne] using hkept
    · have hkept := h.reservations token engine
      simpa [setRecovery, setEscape, get?_retain, hne]
        using hkept

end

end Vacant

/-- A finalization that is accepted closes the subaccount. -/
theorem closed_of_recoveryFinalized (hkind : event.kind = .recoveryFinalized)
    (hsubkey : event.subkey = some subkey) (happly : apply event ctx s = (.ok (), s')) :
    Vacant subkey s' := by
  simp only [apply, hkind, hsubkey, bind_eq_ok, guard_eq_ok] at happly
  obtain ⟨_, _, ⟨rfl, rfl⟩, _, _, ⟨rfl, rfl⟩, -, hwrite⟩ := happly
  cases hwrite
  refine ⟨?_, fun token => ?_, fun token engine => ?_⟩
  · simp [setRecovery, setEscape]
  · simpa [balance, get?_retain] using decimal_zero
  · simpa [get?_retain] using decimal_zero

/-! ## Along a run -/

def Accepts (s : ProjectionState) (e : HybridV2Event × ApplyContext) (t : ProjectionState) : Prop :=
  apply e.1 e.2 s = (.ok (), t)

theorem Vacant.run (h : Vacant subkey s₀) (hrun : Run Accepts s₀ later t)
    (hcalm : ∀ e ∈ later, ¬Revives subkey e.1) : Vacant subkey t := by
  induction hrun with
  | start => exact h
  | snoc _ hstep ih =>
    exact ((ih fun e he => hcalm e (by simp [he])).apply_iff hstep).mpr (hcalm _ (by simp))

/-- **Recovered is terminal exactly as long as no event revives the subaccount.**  After an
accepted finalization, and for every sequence of events accepted after it: the subaccount is
recovered and empty in every state on the way if and only if none of these events requests or
activates a recovery of it, credits it by an internal transfer or locks collateral of it. -/
theorem closed_along_iff {finalizing : HybridV2Event} {ctx : ApplyContext} {s : ProjectionState}
    (hkind : finalizing.kind = .recoveryFinalized) (hsubkey : finalizing.subkey = some subkey)
    (hfinal : apply finalizing ctx s = (.ok (), s₀)) (hrun : Run Accepts s₀ later t) :
    (∀ before mid, before <+: later → Run Accepts s₀ before mid → Vacant subkey mid) ↔
      ∀ e ∈ later, ¬Revives subkey e.1 := by
  have h₀ := closed_of_recoveryFinalized hkind hsubkey hfinal
  constructor
  · intro hclosed
    induction hrun with
    | start => simp
    | @snoc before mid _ e hbefore hstep ih =>
      have hmid := hclosed before mid (List.prefix_append ..) hbefore
      have hlast := hclosed _ _ (List.prefix_refl _) (hbefore.snoc hstep)
      have hrest := ih fun done u hdone =>
        hclosed done u (hdone.trans (List.prefix_append ..))
      intro e' he'
      rcases List.mem_append.mp he' with hold | hnew
      · exact hrest e' hold
      · rw [List.mem_singleton.mp hnew]
        exact (hmid.apply_iff hstep).mp hlast
  · intro hcalm before mid hstart hbefore
    exact h₀.run hbefore fun e he => hcalm e (hstart.subset he)

namespace Sample

/-- An event of a kind about the subaccount `a`. -/
def about (kind : EventKind) : HybridV2Event :=
  { kind := kind, eventVersion := 1, subkey := some "a", owner := none, subaccountId := none,
    token := some "t", engine := some "e", executionId := none, orderHash := none,
    seriesId := none, payload := [("amount", .string "5"), ("to_subkey", .string "a")] }

/-- Where the events of the samples happen. -/
def here : ApplyContext := { blockNumber := 1, txHash := "h", logIndex := 0, blockTimestamp := 7 }

/-- The state after a finalization of `a`. -/
def ended : ProjectionState := (apply (about .recoveryFinalized) here {}).2

def endedThen (kind : EventKind) : Except ReducerError Unit × ProjectionState :=
  apply (about kind) here ended

end Sample

open Sample in
theorem closed_after_pause : Vacant "a" (endedThen .pauseFlagChanged).2 := by
  have hfinal : apply (about .recoveryFinalized) here {} = (.ok (), ended) := rfl
  have hrun : Run Accepts ended [(about .pauseFlagChanged, here)] (endedThen .pauseFlagChanged).2 :=
    Run.start.snoc rfl
  exact (closed_along_iff rfl rfl hfinal hrun).mpr (by decide) _ _ (List.prefix_refl _) hrun

open Sample in
/-- A request for recovery takes a recovered subaccount back to pending, and a transfer or a
lock gives it an amount; the deposit of the same amount is refused. -/
theorem recovered_subaccount_revived : (apply (about .recoveryFinalized) here {}).1 = .ok () ∧
      (endedThen .recoveryRequested).1 = .ok () ∧
      (endedThen .recoveryRequested).2.recoveryState.get? "a" = some .recoveryPending ∧
      (endedThen .recoveryActivated).2.recoveryState.get? "a" = some .recoveryActive ∧
      (endedThen .internalTransfer).1 = .ok () ∧
      (endedThen .internalTransfer).2.balance "a" "t" = "5" ∧
      (endedThen .collateralLocked).1 = .ok () ∧
      (endedThen .collateralLocked).2.reservations.get? ("a", "t", "e") = some "5" ∧
      (endedThen .deposit).1 = .error (.finalizedSubaccountCredit "a" .deposit) := by
  decide +kernel

end DeoptBackend.HybridV2
