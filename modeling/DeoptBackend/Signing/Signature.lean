import DeoptBackend.Error
import DeoptBackend.Lib.FiniteMap

/-!
# Signed orders (`src/signing/`)

An order is signed over the twenty bytes of its account, so the bytes are parsed
out of the account string before anything is hashed.  `verifyStrict` is the code:
parse the account, hash the order, recover the signer, compare.  Hashing and
recovery come from libraries and are parameters (`Crypto`); that recovery is a
function of the digest and the signature is all that is used of them.

* `verifyStrict` — the check of a signed order, which sees the account only as its bytes.
* `NonceStore.reserve` — the local record of used nonces, which is kept by the
  account string; `NonceStore.reserve_ok` says what an accepted nonce was.
-/

namespace DeoptBackend

/-- Bytes, first to last. -/
abbrev Bytes := List UInt8

/-- The twenty bytes of an account. -/
abbrev Address := Bytes

/-- The library functions the code calls. -/
structure Crypto where
  /-- `keccak256` -/
  keccak256 : Bytes → Bytes
  /-- Does `Signature::from_slice` take these 64 bytes? -/
  isSignature : Bytes → Bool
  /-- The account recovered from a digest, the two halves of a signature and a
  recovery id, or the error the code reports in its place. -/
  recoverFromPrehash : Bytes → Bytes → UInt8 → Except BackendError Address

/-! ## Hexadecimal text -/

/-- `decode_hex_nibble` -/
def decodeHexNibble (c : Char) : Option Nat :=
  if '0' ≤ c ∧ c ≤ '9' then some (c.toNat - '0'.toNat)
  else if 'a' ≤ c ∧ c ≤ 'f' then some (c.toNat - 'a'.toNat + 10)
  else if 'A' ≤ c ∧ c ≤ 'F' then some (c.toNat - 'A'.toNat + 10)
  else none

/-- The bytes that pairs of digits spell; `none` at the first character that is
no digit, or if a digit is left over. -/
def decodeHex : List Char → Option Bytes
  | [] => some []
  | [_] => none
  | high :: low :: rest =>
    match decodeHexNibble high, decodeHexNibble low, decodeHex rest with
    | some h, some l, some bytes => some (UInt8.ofNat (16 * h + l) :: bytes)
    | _, _, _ => none

/-- `strip_prefix("0x")` -/
def strip0x (s : String) : Option (List Char) :=
  match s.toList with
  | '0' :: 'x' :: rest => some rest
  | _ => none

/-- `parse_evm_address` -/
def parseEvmAddress (value : AccountId) : Except BackendError Address :=
  match strip0x value.name with
  | none => .error .malformedAccountAddress
  | some hex =>
    if hex.length ≠ 40 then .error .malformedAccountAddress
    else
      match decodeHex hex with
      | none => .error .malformedAccountAddress
      | some address => .ok address

/-! ## The digest (`eip712.rs`) -/

structure SignedOrder where
  account : AccountId
  marketId : MarketId
  side : Side
  price1e8 : Nat
  size1e8 : Nat
  timeInForce : TimeInForce
  /-- Carried along, never read by the book. -/
  reduceOnly : Bool
  postOnly : Bool
  clientOrderId : Option String
  nonce : Nat
  deadlineMs : TimestampMs
  /-- The signature, as hexadecimal text. -/
  signature : String
  deriving DecidableEq

/-- The order the engine is given. -/
def SignedOrder.toNewOrder (order : SignedOrder) : NewOrder :=
  { marketId := order.marketId
    account := order.account
    side := order.side
    price1e8 := order.price1e8
    size1e8 := order.size1e8
    timeInForce := order.timeInForce
    reduceOnly := order.reduceOnly
    postOnly := order.postOnly
    clientOrderId := order.clientOrderId
    signedNonce := some order.nonce
    signedDeadlineMs := some order.deadlineMs }

/-- The domain an order is signed for. -/
structure Eip712Domain where
  name : String
  version : String
  chainId : Nat
  verifyingContract : AccountId

/-- `Eip712Domain::default` -/
def Eip712Domain.default : Eip712Domain :=
  ⟨"DeOptV2", "1", 84532, ⟨"0x0000000000000000000000000000000000000000"⟩⟩

/-- `EIP712_DOMAIN_TYPE` -/
def eip712DomainType : String :=
  "EIP712Domain(string name,string version,uint256 chainId,address verifyingContract)"

/-- `EIP712_ORDER_TYPE` -/
def eip712OrderType : String :=
  "DeOptOrder(address account,uint64 marketId,uint8 side,uint128 price1e8,uint128 size1e8,uint8 timeInForce,bool reduceOnly,bool postOnly,string clientOrderId,uint64 nonce,uint64 deadlineMs)"

/-- `as_bytes` -/
def utf8 (s : String) : Bytes := s.toUTF8.toList

/-- `encode_u8`, `encode_u64`, `encode_u128`: a number as a word of 32 bytes, most
significant first. -/
def encodeWord (n : Nat) : Bytes :=
  (List.range 32).map fun i => UInt8.ofNat (n / 256 ^ (31 - i))

/-- `encode_address` -/
def encodeAddress (address : Address) : Bytes := List.replicate 12 0 ++ address

/-- `encode_bool` -/
def encodeBool (b : Bool) : Bytes := encodeWord b.toNat

/-- `side_value` -/
def sideValue : Side → Nat
  | .buy => 0
  | .sell => 1

/-- `time_in_force_value` -/
def timeInForceValue : TimeInForce → Nat
  | .gtc => 0
  | .ioc => 1
  | .fok => 2

/-- `domain_separator` -/
def domainSeparator (crypto : Crypto) (domain : Eip712Domain) : Except BackendError Bytes := do
  let verifyingContract ← parseEvmAddress domain.verifyingContract
  return crypto.keccak256 (
    crypto.keccak256 (utf8 eip712DomainType) ++ crypto.keccak256 (utf8 domain.name) ++
    crypto.keccak256 (utf8 domain.version) ++ encodeWord domain.chainId ++
    encodeAddress verifyingContract)

/-- `order_hash` -/
def orderHash (crypto : Crypto) (order : SignedOrder) : Except BackendError Bytes := do
  let account ← parseEvmAddress order.account
  let deadlineMs ← if order.deadlineMs < 0 then .error .deadlineExpired else .ok order.deadlineMs.toNat
  let clientOrderIdHash := crypto.keccak256 (utf8 (order.clientOrderId.getD ""))
  return crypto.keccak256 (
    crypto.keccak256 (utf8 eip712OrderType) ++ encodeAddress account ++
    encodeWord order.marketId ++ encodeWord (sideValue order.side) ++
    encodeWord order.price1e8 ++ encodeWord order.size1e8 ++
    encodeWord (timeInForceValue order.timeInForce) ++ encodeBool order.reduceOnly ++
    encodeBool order.postOnly ++ clientOrderIdHash ++ encodeWord order.nonce ++
    encodeWord deadlineMs)

/-- `eip712_digest` -/
def eip712Digest (crypto : Crypto) (order : SignedOrder) (domain : Eip712Domain) :
    Except BackendError Bytes := do
  let separator ← domainSeparator crypto domain
  let hash ← orderHash crypto order
  return crypto.keccak256 ([0x19, 0x01] ++ separator ++ hash)

/-! ## Verification (`signature.rs`) -/

/-- `SignatureVerificationMode` -/
inductive SignatureVerificationMode where
  | disabled
  | strict

/-- `validate_signature_shape` -/
def validateSignatureShape (signature : String) : Except BackendError Unit :=
  match strip0x signature with
  | none => .error .malformedSignature
  | some hex =>
    if hex.length ≠ 130 then .error .malformedSignature
    else if hex.all fun c => (decodeHexNibble c).isSome then .ok ()
    else .error .malformedSignature

/-- `signature_v_to_recovery_id` -/
def signatureVToRecoveryId (v : UInt8) : Except BackendError UInt8 :=
  if v = 0 ∨ v = 1 then .ok v
  else if v = 27 ∨ v = 28 then .ok (v - 27)
  else .error .unsupportedSignatureV

/-- `parse_signature`: the 64 bytes of the two halves, and `v`. -/
def parseSignature (signature : String) : Except BackendError (Bytes × UInt8) :=
  match (strip0x signature).bind decodeHex with
  | none => .error .malformedSignature
  | some bytes =>
    if bytes.length ≠ 65 then .error .malformedSignature
    else .ok (bytes.take 64, bytes.getD 64 0)

/-- `recover_signer` -/
def recoverSigner (crypto : Crypto) (digest : Bytes) (signature : Bytes × UInt8) :
    Except BackendError Address := do
  if crypto.isSignature signature.1 then
    let recoveryId ← signatureVToRecoveryId signature.2
    crypto.recoverFromPrehash digest signature.1 recoveryId
  else .error .malformedSignature

variable (crypto : Crypto) (order : SignedOrder)

/-- `verify_strict` -/
def verifyStrict (domain : Eip712Domain) : Except BackendError Unit := do
  let expectedAccount ← parseEvmAddress order.account
  let signature ← parseSignature order.signature
  let digest ← eip712Digest crypto order domain
  let recoveredAccount ← recoverSigner crypto digest signature
  if recoveredAccount ≠ expectedAccount then .error .signatureSignerMismatch else .ok ()

/-- `SignatureVerifier::verify` -/
def verify (mode : SignatureVerificationMode) (domain : Eip712Domain) :
    Except BackendError Unit := do
  validateSignatureShape order.signature
  match mode with
  | .disabled => .ok ()
  | .strict => verifyStrict crypto order domain

/-! ## Local nonces (`nonce.rs`) -/

/-- The nonces used by each account string. -/
structure NonceStore where
  used : FMap AccountId (List Nat)

namespace NonceStore

/-- `NonceStore::new` -/
def new : NonceStore := ⟨∅⟩

variable (self : NonceStore) (account : AccountId)

def usedBy : List Nat := (self.used.get? account).getD []

/-- `reserve` -/
def reserve (nonce : Nat) : NonceStore × Except BackendError Unit :=
  if nonce = 0 then (self, .error .invalidNonce)
  else if nonce ∈ self.usedBy account then
    (⟨self.used.set account (self.usedBy account)⟩, .error .nonceAlreadyUsed)
  else (⟨self.used.set account (nonce :: self.usedBy account)⟩, .ok ())

/-- The store has the nonce on record for the account string. -/
def Has (nonce : Nat) : Prop :=
  nonce ∈ self.usedBy account

variable {store : NonceStore} {account : AccountId}

/-- A nonce that is accepted was not on record, and is from then on. -/
theorem reserve_ok (h : store.reserve account nonce = (store', .ok ())) :
    ¬ store.Has account nonce ∧ store'.Has account nonce := by
  unfold reserve at h
  by_cases hzero : nonce = 0
  · simp [hzero] at h
  by_cases hused : nonce ∈ store.usedBy account
  · simp [hzero, hused] at h
  simp only [hzero, if_false, hused, Prod.mk.injEq, and_true] at h
  refine ⟨hused, ?_⟩
  rw [← h]
  simp [Has, usedBy]

/-- A record is never dropped. -/
theorem reserve_keeps (h : store.reserve account nonce = (store', r))
    (hhas : store.Has account' nonce') : store'.Has account' nonce' := by
  unfold reserve at h
  split at h
  · simp only [Prod.mk.injEq] at h
    rw [← h.1]
    exact hhas
  split at h <;>
  · simp only [Prod.mk.injEq] at h
    rw [← h.1, Has, usedBy, FMap.get?_set]
    by_cases ha : account' = account
    · subst ha
      simp only
      first
        | exact hhas
        | exact List.mem_cons_of_mem _ hhas
    · rw [if_neg ha]
      exact hhas

end NonceStore

end DeoptBackend
