import Mathlib

/-!
# The signature of an execution (`src/hybrid_v2/execution/`)

The orchestrator has a digest of the planned transaction signed, checks the signature and
stores it; the outbox later puts it into an EIP-1559 envelope.  What the chain recovers the
sender from is the digest of the envelope's own fields.

* `rlpList`, `rlpBytes`, `rlpUint` — the encoding (`tx_serialization.rs`).
* `eip1559PreimageHash`, `serializeSignedExecution` — the envelope.
* `deriveSigningPayloadHash` — the digest that is signed (`orchestrator.rs`).
* `verifySignedTx` — the check of what the signer answers (`signature_verify.rs`).
* `RowStep` — the two steps of `drive_locked` that write these columns.
* `sender_ne_recovered_signer` — **no verified row is signed for the chain**.

The hash and the curve are parameters.
-/

namespace DeoptBackend.HybridV2.Execution

abbrev Bytes := List Nat

/-! ## The encoding -/

/-- `to_be_bytes`. -/
def toBeBytes : Nat → Nat → Bytes
  | 0, _ => []
  | width + 1, n => toBeBytes width (n / 256) ++ [n % 256]

/-- `trim_leading_zeroes`. -/
def trimLeadingZeroes (bytes : Bytes) : Bytes := bytes.dropWhile (· == 0)

/-- `rlp_prefix`. -/
def rlpHead (offset len : Nat) : Bytes :=
  if len < 56 then [offset + len]
  else
    let lenBytes := trimLeadingZeroes (toBeBytes 8 len)
    (offset + 55 + lenBytes.length) :: lenBytes

/-- `rlp_bytes`. -/
def rlpBytes (bytes : Bytes) : Bytes :=
  if bytes.length = 1 ∧ bytes.headD 0 < 0x80 then bytes else rlpHead 0x80 bytes.length ++ bytes

/-- `rlp_u8`, `rlp_u64`, `rlp_u256`, for one, eight and thirty-two bytes. -/
def rlpUint (width value : Nat) : Bytes :=
  if value = 0 then rlpBytes [] else rlpBytes (trimLeadingZeroes (toBeBytes width value))

/-- `rlp_list`. -/
def rlpList (items : List Bytes) : Bytes := rlpHead 0xc0 items.flatten.length ++ items.flatten

/-! ## The envelope -/

/-- `ExecutionPlan`, as far as it is signed and sent. -/
structure ExecutionPlan where
  chainId : Nat
  target : Bytes
  valueWei : Nat
  calldata : Bytes
  calldataHash : Bytes
  planHash : Bytes

structure GasColumns where
  nonce : Nat
  gasLimit : Nat
  maxFeePerGasWei : Nat
  maxPriorityFeePerGasWei : Nat

/-- `SignedTx`. -/
structure SignedTx where
  signatureR : Bytes
  signatureS : Bytes
  signatureV : Nat
  recoveredSigner : Bytes
  txType : Nat
  deriving DecidableEq

structure Curve where
  /-- `Signature::from_slice`. -/
  wellFormed : Bytes → Bytes → Bool
  /-- `is_high_s`, `normalize_s().is_some()`. -/
  isHighS : Bytes → Bool
  /-- The address recovered from a digest, `r`, `s` and the parity. -/
  recover : Bytes → Bytes → Bytes → Nat → Option Bytes

/-- A fixed signature recovers different addresses for different digests. -/
def Curve.Separates (curve : Curve) : Prop :=
  ∀ r s v digest digest' signer, curve.recover digest r s v = some signer →
    curve.recover digest' r s v = some signer → digest = digest'

/-- The fields that are signed and sent. -/
def rlpFields (plan : ExecutionPlan) (gas : GasColumns) : List Bytes :=
  [rlpUint 8 plan.chainId, rlpUint 8 gas.nonce, rlpUint 32 gas.maxPriorityFeePerGasWei,
    rlpUint 32 gas.maxFeePerGasWei, rlpUint 8 gas.gasLimit, rlpBytes plan.target,
    rlpUint 32 plan.valueWei, rlpBytes plan.calldata, rlpList []]

/-- `eip1559_preimage_hash`. -/
def eip1559PreimageHash (keccak : Bytes → Bytes) (plan : ExecutionPlan) (gas : GasColumns) :
    Bytes :=
  keccak (0x02 :: rlpList (rlpFields plan gas))

/-- `TxSerializationError`. -/
inductive TxSerializationError where
  | wrongTxType (txType : Nat)
  | malformedSignature (detail : String)
  | highSSignature

/-- `SignedExecutionEnvelope`: the bytes and their hash. -/
structure SignedExecutionEnvelope where
  rawBytes : Bytes
  envelopeHash : Bytes

section

variable (keccak : Bytes → Bytes) (curve : Curve) (plan : ExecutionPlan) (signed : SignedTx)
  (gas : GasColumns)

/-- `serialize_signed_execution`. -/
def serializeSignedExecution : Except TxSerializationError SignedExecutionEnvelope :=
  if signed.txType ≠ 2 then .error (.wrongTxType signed.txType)
  else if signed.signatureV > 1 then
    .error (.malformedSignature ("y_parity must be 0 or 1, got " ++ toString signed.signatureV))
  else if curve.isHighS signed.signatureS then .error .highSSignature
  else if signed.signatureR = List.replicate 32 0 ∨ signed.signatureS = List.replicate 32 0 then
    .error (.malformedSignature "r or s is zero")
  else
    let rawBytes := 0x02 :: rlpList (rlpFields plan gas ++
      [rlpUint 1 signed.signatureV, rlpBytes (trimLeadingZeroes signed.signatureR),
        rlpBytes (trimLeadingZeroes signed.signatureS)])
    .ok { rawBytes := rawBytes, envelopeHash := keccak rawBytes }

/-- The sender of the envelope: what the chain recovers from its own digest. -/
def sender : Option Bytes :=
  curve.recover (eip1559PreimageHash keccak plan gas) signed.signatureR signed.signatureS
    signed.signatureV

end

/-! ## Signing -/

/-- The tag `HV2_SIG_V1`. -/
def signingTag : Bytes := [0x48, 0x56, 0x32, 0x5f, 0x53, 0x49, 0x47, 0x5f, 0x56, 0x31]

/-- `derive_signing_payload_hash`. -/
def deriveSigningPayloadHash (keccak : Bytes → Bytes) (chainId : Nat) (plan : ExecutionPlan)
    (gas : GasColumns) : Bytes :=
  keccak (signingTag ++
    [toBeBytes 8 chainId, toBeBytes 8 gas.nonce, plan.target, toBeBytes 32 plan.valueWei,
      plan.calldataHash, toBeBytes 8 gas.gasLimit, toBeBytes 32 gas.maxFeePerGasWei,
      toBeBytes 32 gas.maxPriorityFeePerGasWei, [2], plan.planHash].flatten)

/-- `SigVerifyError`. -/
inductive SigVerifyError where
  | fieldMismatch (field : String)
  | invalidRecoveryId (v : Nat)
  | malformed
  | highS
  | recoveryFailed
  | signerMismatch (expected recovered : Bytes)

/-- `verify_signed_tx`, for a request of type 2. -/
def verifySignedTx (curve : Curve) (signingPayloadHash : Bytes) (signed : SignedTx)
    (expectedSigner : Bytes) : Except SigVerifyError Unit :=
  if signed.txType ≠ 2 then .error (.fieldMismatch "tx_type")
  else if signed.signatureV > 1 then .error (.invalidRecoveryId signed.signatureV)
  else if !curve.wellFormed signed.signatureR signed.signatureS then .error .malformed
  else if curve.isHighS signed.signatureS then .error .highS
  else
    match curve.recover signingPayloadHash signed.signatureR signed.signatureS signed.signatureV with
    | none => .error .recoveryFailed
    | some recovered =>
      if recovered ≠ signed.recoveredSigner then
        .error (.signerMismatch signed.recoveredSigner recovered)
      else if recovered ≠ expectedSigner then .error (.signerMismatch expectedSigner recovered)
      else .ok ()

inductive SigningPhase where
  | simulationSucceeded
  | awaitingSignature
  | signing
  | failed
  | signatureVerified
  deriving DecidableEq

/-- The columns of an execution row that the two steps read and write. -/
structure SigningRow where
  phase : SigningPhase
  gas : GasColumns
  signingPayloadHash : Option Bytes
  signed : Option SignedTx

/-- What the two steps are given: the plan, built anew in each, the outcome of the gas policy,
the verdict of the firewall and the answer of the signer. -/
inductive RowStep where
  | priceGas (plan : ExecutionPlan) (gas : GasColumns)
  | sign (firewall : Bool) (answer : Option SignedTx)

structure Orchestrator where
  keccak : Bytes → Bytes
  curve : Curve
  chainId : Nat
  /-- `signer.identity().address`. -/
  signer : Bytes

variable (orch : Orchestrator)

/-- `drive_locked`, steps 3 (its end) and 4.  A step that finds another phase does nothing; one
without a stored digest stops in `Signing`. -/
def RowStep.apply (row : SigningRow) : RowStep → SigningRow
  | .priceGas plan gas =>
    if row.phase = .simulationSucceeded then
      { row with
        phase := .awaitingSignature
        gas := gas
        signingPayloadHash := some (deriveSigningPayloadHash orch.keccak orch.chainId plan gas) }
    else row
  | .sign firewall answer =>
    if row.phase ≠ .awaitingSignature then row
    else if !firewall then { row with phase := .failed }
    else
      match row.signingPayloadHash with
      | none => { row with phase := .signing }
      | some hash =>
        -- a signature that is stored is not asked for again
        match row.signed <|> answer with
        | none => { row with phase := .failed }
        | some signed =>
          match verifySignedTx orch.curve hash signed orch.signer with
          | .error _ => { row with phase := .failed }
          | .ok _ => { row with phase := .signatureVerified, signed := some signed }

def Tagged (hash : Bytes) : Prop := ∃ rest, hash = orch.keccak (signingTag ++ rest)

/-- What holds of a row: the digest that was signed is one of tagged bytes. -/
structure SignedForTag (row : SigningRow) : Prop where
  hash : ∀ hash, row.signingPayloadHash = some hash → Tagged orch hash
  verified : row.phase = .signatureVerified → ∃ signed hash, row.signed = some signed ∧
    Tagged orch hash ∧ orch.curve.recover hash signed.signatureR signed.signatureS
      signed.signatureV = some signed.recoveredSigner

variable {orch}

theorem recover_of_verifySignedTx {hash expected : Bytes} {u : Unit}
    (h : verifySignedTx curve hash signed expected = .ok u) :
    curve.recover hash signed.signatureR signed.signatureS signed.signatureV =
      some signed.recoveredSigner := by
  unfold verifySignedTx at h
  iterate 4
    split at h
    · cases h
  split at h
  · cases h
  rename_i recovered hrecovered
  split at h
  · cases h
  · rename_i hsame
    rw [hrecovered, not_not.mp hsame]

theorem SignedForTag.apply {row : SigningRow} (h : SignedForTag orch row) (step : RowStep) :
    SignedForTag orch (step.apply orch row) := by
  cases step with
  | priceGas =>
    simp only [RowStep.apply]
    split
    · refine ⟨?_, by simp⟩
      rintro hash ⟨⟩
      exact ⟨_, rfl⟩
    · exact h
  | sign firewall answer =>
    simp only [RowStep.apply]
    split
    · exact h
    split
    · exact ⟨h.hash, by simp⟩
    split
    · exact ⟨h.hash, by simp⟩
    rename_i hash hhash
    split
    · exact ⟨h.hash, by simp⟩
    rename_i signed _
    split
    · exact ⟨h.hash, by simp⟩
    · rename_i hverify
      exact ⟨h.hash, fun _ => ⟨signed, hash, rfl, h.hash hash hhash,
        recover_of_verifySignedTx hverify⟩⟩

/-- **No verified row is signed for the chain.**  From a row without a digest, through any steps
with any plans, gas columns, verdicts and answers: once it is verified, whatever plan the
envelope is built from, its sender is not the signer that was recovered and stored. -/
theorem sender_ne_recovered_signer (hkeccak : Function.Injective orch.keccak)
    (hcurve : orch.curve.Separates) {row₀ : SigningRow} (hfresh : row₀.signingPayloadHash = none)
    (hearly : row₀.phase = .simulationSucceeded) (steps : List RowStep)
    (hverified : (steps.foldl (RowStep.apply orch) row₀).phase = .signatureVerified) :
    ∃ signed, (steps.foldl (RowStep.apply orch) row₀).signed = some signed ∧
      ∀ plan, sender orch.keccak orch.curve plan signed (steps.foldl (RowStep.apply orch) row₀).gas ≠
        some signed.recoveredSigner := by
  have hstart : SignedForTag orch row₀ := ⟨by simp [hfresh], by simp [hearly]⟩
  have hend : SignedForTag orch (steps.foldl (RowStep.apply orch) row₀) :=
    List.foldlRecOn steps _ hstart fun row hrow step _ => hrow.apply step
  obtain ⟨signed, hash, hsigned, ⟨rest, rfl⟩, hrecover⟩ := hend.verified hverified
  refine ⟨signed, hsigned, fun plan hsender => ?_⟩
  -- one digest is of bytes that start with the tag, the other of bytes that start with the type
  have hbytes := hkeccak (hcurve _ _ _ _ _ _ hrecover hsender)
  simp [signingTag] at hbytes

namespace SignedRow

/-- A hash that loses nothing, and a curve whose addresses are the digests themselves. -/
def orchestrator : Orchestrator where
  keccak := id
  curve := { wellFormed := fun _ _ => true, isHighS := fun _ => false,
             recover := fun digest _ _ _ => some digest }
  chainId := 84532
  signer := deriveSigningPayloadHash id 84532 ⟨84532, [7], 0, [1, 2, 3, 4], [5], [6]⟩ ⟨0, 90000, 9, 1⟩

def plan : ExecutionPlan := ⟨84532, [7], 0, [1, 2, 3, 4], [5], [6]⟩

def row : SigningRow :=
  [.priceGas plan ⟨0, 90000, 9, 1⟩, .sign true (some ⟨[1], [1], 0, orchestrator.signer, 2⟩)].foldl
    (RowStep.apply orchestrator) ⟨.simulationSucceeded, ⟨0, 0, 0, 0⟩, none, none⟩

end SignedRow

open SignedRow in
theorem sample_sender_ne : ∃ signed, row.signed = some signed ∧ ∀ plan,
    sender orchestrator.keccak orchestrator.curve plan signed row.gas ≠ some signed.recoveredSigner :=
  sender_ne_recovered_signer Function.injective_id (by simp [Curve.Separates, orchestrator])
    rfl rfl _ (by decide +kernel)

open SignedRow in
/-- A row is verified, its envelope is built, and the sender is somebody else. -/
theorem verified_row_has_other_sender :
    row.phase = .signatureVerified ∧ ∃ signed ∈ row.signed,
      signed.recoveredSigner = orchestrator.signer ∧
      (serializeSignedExecution orchestrator.keccak orchestrator.curve plan signed row.gas).isOk ∧
      sender orchestrator.keccak orchestrator.curve plan signed row.gas ≠ some orchestrator.signer :=
  ⟨by decide +kernel, ⟨[1], [1], 0, orchestrator.signer, 2⟩, by decide +kernel, rfl,
    by decide +kernel, by decide +kernel⟩

end DeoptBackend.HybridV2.Execution
