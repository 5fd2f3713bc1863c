import DeoptBackend.Types

/-!
# Decimal strings as 256-bit numbers (`src/hybrid_v2/reducer.rs`)

Amounts, quantities and nonces of the projection are decimal strings, and the reducer does
its arithmetic on the 32 bytes they are parsed into.  The bytes are lists of thirty-two
numbers below 256, the least significant first: the order in which the loops of the source
visit the array.

* `parseDecUint256` — a string to its bytes, with the flag that says whether it was one;
  the empty string is zero.
* `u256BeToDecimal` — the bytes back to a string.
* `u256Add`, `u256Sub`, `u256Lt`, `u256BitwiseOrAndMask` — the operations.
* `decimal` — the number a string stands for; `Denotes` — what that is to mean.
* `decimal_arithmetic_exact` — **the operations compute with these numbers**, and what is no
  number is refused.
-/

namespace DeoptBackend.HybridV2

open List Nat

/-- `str::trim`, on the characters. -/
def trimChars (cs : List Char) : List Char :=
  ((cs.dropWhile isWhitespace).reverse.dropWhile isWhitespace).reverse

/-- `char::is_ascii_digit`. -/
def isAsciiDigit (c : Char) : Bool := 48 ≤ c.toNat && c.toNat ≤ 57

/-- `[0u8; 32]`. -/
def zeroBytes : List Nat := List.replicate 32 0

/-- The inner loop of the parser: the bytes times ten plus a carry, and what is carried out
of the last byte. -/
def timesTen : List Nat → Nat → List Nat × Nat
  | [], carry => ([], carry)
  | byte :: bytes, carry =>
    let product := byte * 10 + carry
    let rest := timesTen bytes (product / 256)
    (product % 256 :: rest.1, rest.2)

/-- The outer loop of the parser: one digit after the other. -/
def parseDigits : List Char → List Nat → List Nat × Bool
  | [], bytes => (bytes, true)
  | c :: cs, bytes =>
    if isAsciiDigit c then
      let next := timesTen bytes (c.toNat - 48)
      if next.2 ≠ 0 then (zeroBytes, false) else parseDigits cs next.1
    else (zeroBytes, false)

/-- `parse_dec_uint256`: the bytes, and whether the string was a number below `2 ^ 256`.
An empty string is a field that was never written, and reads as zero. -/
def parseDecUint256 (s : String) : List Nat × Bool :=
  let cs := trimChars s.toList
  if cs.isEmpty then (zeroBytes, true) else parseDigits cs zeroBytes

/-- One pass of the printer: the bytes, most significant first, divided by ten, and the
remainder. -/
def divTen : List Nat → Nat → List Nat × Nat
  | [], rem => ([], rem)
  | byte :: bytes, rem =>
    let acc := rem * 256 + byte
    let rest := divTen bytes (acc % 10)
    (acc / 10 :: rest.1, rest.2)

/-- The printer's loop, most significant byte first.  A number below `2 ^ 256` has at most
seventy-eight digits, which is the fuel it is given. -/
def decimalDigits : Nat → List Nat → List Char → List Char
  | 0, _, acc => acc
  | fuel + 1, bytes, acc =>
    if bytes.all (· == 0) then acc
    else
      let next := divTen bytes 0
      decimalDigits fuel next.1 (Char.ofNat (48 + next.2) :: acc)

/-- `u256_be_to_decimal_public`.  A number below `2 ^ 128` is printed by the standard library. -/
def u256BeToDecimal (bytes : List Nat) : String :=
  if (bytes.drop 16).all (· == 0) then
    toString ((bytes.take 16).foldr (fun byte acc => acc * 256 + byte) 0)
  else
    let digits := decimalDigits 78 bytes.reverse []
    if digits.isEmpty then "0" else String.ofList digits

/-- The addition loop: the sum bytes and the carry that is left. -/
def addBytes : List Nat → List Nat → Nat → List Nat × Nat
  | a :: as, b :: bs, carry =>
    let sum := a + b + carry
    let rest := addBytes as bs (sum / 256)
    (sum % 256 :: rest.1, rest.2)
  | _, _, carry => ([], carry)

/-- The subtraction loop. -/
def subBytes : List Nat → List Nat → Nat → List Nat
  | a :: as, b :: bs, borrow =>
    if a < b + borrow then (a + 256 - b - borrow) :: subBytes as bs 1
    else (a - b - borrow) :: subBytes as bs 0
  | _, _, _ => []

/-- `u256_cmp(..).is_lt()`, from the most significant byte down. -/
def ltBytes : List Nat → List Nat → Bool
  | a :: as, b :: bs => if a = b then ltBytes as bs else decide (a < b)
  | _, _ => false

/-- `u256_add`: nothing if one of the strings is no number or the sum does not fit. -/
def u256Add (a b : String) : Option String :=
  let bitsA := parseDecUint256 a
  let bitsB := parseDecUint256 b
  if !bitsA.2 || !bitsB.2 then none
  else
    let sum := addBytes bitsA.1 bitsB.1 0
    if sum.2 ≠ 0 then none else some (u256BeToDecimal sum.1)

/-- `u256_sub`: nothing if one of the strings is no number or the difference is negative. -/
def u256Sub (a b : String) : Option String :=
  let bitsA := parseDecUint256 a
  let bitsB := parseDecUint256 b
  if !bitsA.2 || !bitsB.2 then none
  else if ltBytes bitsA.1.reverse bitsB.1.reverse then none
  else some (u256BeToDecimal (subBytes bitsA.1 bitsB.1 0))

/-- `u256_lt`: false when one of the strings is no number. -/
def u256Lt (a b : String) : Bool :=
  let bitsA := parseDecUint256 a
  let bitsB := parseDecUint256 b
  if !bitsA.2 || !bitsB.2 then false else ltBytes bitsA.1.reverse bitsB.1.reverse

/-- `u256_bitwise_or_and_mask`: the bits of `add` set and those of `remove` cleared.  A
string that is no number counts as zero. -/
def u256BitwiseOrAndMask (current add remove : String) : String :=
  let c := (parseDecUint256 current).1
  let a := (parseDecUint256 add).1
  let r := (parseDecUint256 remove).1
  u256BeToDecimal (List.zipWith (fun ca r => ca &&& (255 ^^^ r)) (List.zipWith (· ||| ·) c a) r)

/-! ## The numbers the strings stand for -/

/-- Thirty-two bytes. -/
structure IsWord (bytes : List Nat) : Prop where
  length : bytes.length = 32
  lt : ∀ byte ∈ bytes, byte < 256

/-- The number a string stands for, if it is one. -/
def decimal (s : String) : Option Nat :=
  if (parseDecUint256 s).2 then some (Nat.ofDigits 256 (parseDecUint256 s).1) else none

theorem isWord_zeroBytes : IsWord zeroBytes := ⟨by decide, by decide⟩

theorem IsWord.value_lt (h : IsWord bytes) : Nat.ofDigits 256 bytes < 2 ^ 256 := by
  have := ofDigits_lt_base_pow_length (by decide) h.lt
  rw [h.length] at this
  exact this

theorem timesTen_spec (bytes : List Nat) (carry : Nat) :
    (timesTen bytes carry).1.length = bytes.length ∧
      (∀ byte ∈ (timesTen bytes carry).1, byte < 256) ∧
      Nat.ofDigits 256 (timesTen bytes carry).1 + 256 ^ bytes.length * (timesTen bytes carry).2 =
        Nat.ofDigits 256 bytes * 10 + carry := by
  induction bytes generalizing carry with
  | nil => simp [timesTen]
  | cons byte bytes ih =>
    obtain ⟨hlength, hlt, hvalue⟩ := ih ((byte * 10 + carry) / 256)
    refine ⟨by simp [timesTen, hlength], ?_, ?_⟩
    · simp only [timesTen, mem_cons, forall_eq_or_imp]
      exact ⟨mod_lt _ (by decide), hlt⟩
    · simp only [timesTen, ofDigits_cons, length_cons, pow_succ]
      have hdiv := div_add_mod (byte * 10 + carry) 256
      linarith

theorem le_ofDigitChars (cs : List Char) (n : Nat) : n ≤ Nat.ofDigitChars 10 cs n := by
  induction cs generalizing n with
  | nil => simp
  | cons c cs ih =>
    rw [ofDigitChars_cons]
    exact le_trans (by omega) (ih _)

theorem parseDigits_spec (cs : List Char) (hword : IsWord bytes) : IsWord (parseDigits cs bytes).1 ∧
      ((parseDigits cs bytes).2 = true → (∀ c ∈ cs, isAsciiDigit c = true) ∧
        Nat.ofDigits 256 (parseDigits cs bytes).1 =
          Nat.ofDigitChars 10 cs (Nat.ofDigits 256 bytes)) ∧
      ((∀ c ∈ cs, isAsciiDigit c = true) →
        Nat.ofDigitChars 10 cs (Nat.ofDigits 256 bytes) < 2 ^ 256 →
          (parseDigits cs bytes).2 = true) := by
  induction cs generalizing bytes with
  | nil => exact ⟨hword, fun _ => ⟨by simp, rfl⟩, fun _ _ => rfl⟩
  | cons c cs ih =>
    obtain ⟨hlength, hlt, hvalue⟩ := timesTen_spec bytes (c.toNat - 48)
    rw [ofDigitChars_cons, mul_comm 10]
    by_cases hdigit : isAsciiDigit c = true
    · by_cases hcarry : (timesTen bytes (c.toNat - 48)).2 = 0
      · rw [hcarry, mul_zero, add_zero] at hvalue
        have hnext : IsWord (timesTen bytes (c.toNat - 48)).1 := ⟨hlength.trans hword.length, hlt⟩
        have hrest := ih hnext
        rw [hvalue] at hrest
        simpa [parseDigits, hdigit, hcarry] using hrest
      · -- a carry out of the last byte: the number does not fit, and no digit makes it smaller
        have hbig : 2 ^ 256 ≤ Nat.ofDigits 256 bytes * 10 + (c.toNat - 48) := by
          rw [← hvalue, hword.length]
          omega
        refine ⟨?_, ?_, fun _ hfits => ?_⟩
        · simpa [parseDigits, hcarry] using isWord_zeroBytes
        · simp [parseDigits, hcarry]
        · exact absurd (lt_of_le_of_lt (hbig.trans (le_ofDigitChars cs _)) hfits) (lt_irrefl _)
    · refine ⟨?_, ?_, fun hall => absurd (hall c (by simp)) hdigit⟩
      · simpa [parseDigits, hdigit] using isWord_zeroBytes
      · simp [parseDigits, hdigit]

theorem parseDecUint256_eq (s : String) :
    parseDecUint256 s = parseDigits (trimChars s.toList) zeroBytes := by
  unfold parseDecUint256
  cases trimChars s.toList <;> rfl

theorem isWord_parse (s : String) : IsWord (parseDecUint256 s).1 := by
  rw [parseDecUint256_eq]
  exact (parseDigits_spec _ isWord_zeroBytes).1

theorem isAsciiDigit_of_isDigit (h : c.isDigit = true) : isAsciiDigit c = true := by
  simp only [Char.isDigit, Bool.and_eq_true, decide_eq_true_eq] at h
  simp only [isAsciiDigit, Bool.and_eq_true, decide_eq_true_eq]
  exact h

theorem isWhitespace_of_isAsciiDigit (h : isAsciiDigit c = true) : isWhitespace c = false := by
  simp only [isAsciiDigit, Bool.and_eq_true, decide_eq_true_eq] at h
  simp only [isWhitespace, Bool.or_eq_false_iff, Bool.and_eq_false_iff, decide_eq_false_iff_not,
    beq_eq_false_iff_ne]
  omega

theorem trimChars_eq_self (h : ∀ c ∈ cs, isWhitespace c = false) : trimChars cs = cs := by
  have hdrop : ∀ ds : List Char, (∀ c ∈ ds, isWhitespace c = false) →
      ds.dropWhile isWhitespace = ds := by
    intro ds hds
    cases ds with
    | nil => rfl
    | cons d => simp [hds d (by simp)]
  rw [trimChars, hdrop cs h, hdrop _ (by simpa using h), reverse_reverse]

theorem decimal_eq_some : decimal s = some n ↔
      (parseDecUint256 s).2 = true ∧ Nat.ofDigits 256 (parseDecUint256 s).1 = n := by
  unfold decimal
  by_cases hok : (parseDecUint256 s).2 = true <;> simp

/-- **The string is a numeral of the number**, perhaps with white space around it; no digit at
all is a zero. -/
def Denotes (s : String) (n : Nat) : Prop :=
  (∀ c ∈ trimChars s.toList, isAsciiDigit c = true) ∧
    Nat.ofDigitChars 10 (trimChars s.toList) 0 = n ∧ n < 2 ^ 256

theorem decimal_iff_denotes : decimal s = some n ↔ Denotes s n := by
  obtain ⟨hword, hvalue, hok⟩ := parseDigits_spec (trimChars s.toList) isWord_zeroBytes
  have hlt := hword.value_lt
  rw [show Nat.ofDigits 256 zeroBytes = 0 by decide] at hvalue hok
  rw [decimal_eq_some, parseDecUint256_eq, Denotes]
  constructor
  · rintro ⟨htrue, rfl⟩
    exact ⟨(hvalue htrue).1, (hvalue htrue).2.symm, hlt⟩
  · rintro ⟨hdigits, rfl, hfits⟩
    exact ⟨hok hdigits hfits, (hvalue (hok hdigits hfits)).2⟩

/-- **What is printed is read back.** -/
theorem decimal_toString (h : n < 2 ^ 256) : decimal (toString n) = some n := by
  have hdigits : ∀ c ∈ Nat.toDigits 10 n, isAsciiDigit c = true := fun c hc =>
    isAsciiDigit_of_isDigit (isDigit_of_mem_toDigits (by decide) (by decide) hc)
  have htrim : trimChars (toString n).toList = Nat.toDigits 10 n := by
    simpa using trimChars_eq_self fun c hc => isWhitespace_of_isAsciiDigit (hdigits c hc)
  rw [decimal_iff_denotes, Denotes, htrim, ofDigitChars_toDigits (by decide) (by decide)]
  exact ⟨hdigits, rfl, h⟩

theorem divTen_spec (bytes : List Nat) (rem : Nat) (hlt : ∀ byte ∈ bytes, byte < 256)
    (hrem : rem < 10) :
    (divTen bytes rem).1.length = bytes.length ∧ (∀ byte ∈ (divTen bytes rem).1, byte < 256) ∧
      (divTen bytes rem).2 < 10 ∧
      Nat.ofDigits 256 (divTen bytes rem).1.reverse * 10 + (divTen bytes rem).2 =
        256 ^ bytes.length * rem + Nat.ofDigits 256 bytes.reverse := by
  induction bytes generalizing rem with
  | nil => simpa [divTen] using hrem
  | cons byte bytes ih =>
    have hbyte := hlt byte (by simp)
    obtain ⟨hlength, hbytes, hlast, hvalue⟩ := ih ((rem * 256 + byte) % 10)
      (fun b hb => hlt b (by simp [hb])) (mod_lt _ (by decide))
    refine ⟨by simp [divTen, hlength], ?_, hlast, ?_⟩
    · simp only [divTen, mem_cons, forall_eq_or_imp]
      exact ⟨by omega, hbytes⟩
    simp only [divTen, reverse_cons, ofDigits_append, ofDigits_singleton,
      length_reverse, hlength, length_cons, pow_succ]
    have hdiv := congrArg (256 ^ bytes.length * ·) (div_add_mod (rem * 256 + byte) 10)
    linarith

theorem ofDigits_eq_zero : bytes.all (· == 0) = true ↔ Nat.ofDigits 256 bytes = 0 := by
  induction bytes with
  | nil => simp
  | cons byte bytes ih => simp [ofDigits_cons, ← ih]

theorem decimalDigits_spec (fuel : Nat) (acc : List Char) (hlt : ∀ byte ∈ bytes, byte < 256)
    (hfuel : Nat.ofDigits 256 bytes.reverse < 10 ^ fuel) : decimalDigits fuel bytes acc =
      (if Nat.ofDigits 256 bytes.reverse = 0 then [] else
        Nat.toDigits 10 (Nat.ofDigits 256 bytes.reverse)) ++ acc := by
  induction fuel generalizing bytes acc with
  | zero => simp [decimalDigits, lt_one_iff.mp hfuel]
  | succ fuel ih =>
    have hall : bytes.all (· == 0) = true ↔ Nat.ofDigits 256 bytes.reverse = 0 := by
      rw [← ofDigits_eq_zero, all_reverse]
    by_cases hzero : Nat.ofDigits 256 bytes.reverse = 0
    · rw [decimalDigits, if_pos (hall.mpr hzero), if_pos hzero, nil_append]
    obtain ⟨-, hbytes, hlast, hvalue⟩ := divTen_spec bytes 0 hlt (by decide)
    have hquot : Nat.ofDigits 256 (divTen bytes 0).1.reverse =
        Nat.ofDigits 256 bytes.reverse / 10 := by omega
    have hrem : (divTen bytes 0).2 = Nat.ofDigits 256 bytes.reverse % 10 := by omega
    have hchar : ∀ d < 10, Char.ofNat (48 + d) = Nat.digitChar d := by decide
    rw [decimalDigits, if_neg (mt hall.mp hzero), if_neg hzero,
      ih _ hbytes (by omega), hquot, hrem,
      hchar _ (mod_lt _ (by decide))]
    by_cases hsmall : Nat.ofDigits 256 bytes.reverse < 10
    · rw [if_pos (by omega), toDigits_of_lt_base hsmall, mod_eq_of_lt hsmall]
      rfl
    · rw [if_neg (by omega), toDigits_of_base_le (n := Nat.ofDigits 256 bytes.reverse)
        (by decide) (by omega)]
      simp

/-- The printer prints the number, whichever of its two ways it takes. -/
theorem u256BeToDecimal_eq (hword : IsWord bytes) :
    u256BeToDecimal bytes = toString (Nat.ofDigits 256 bytes) := by
  unfold u256BeToDecimal
  by_cases hhigh : (bytes.drop 16).all (· == 0) = true
  · have hsplit : Nat.ofDigits 256 (bytes.take 16 ++ bytes.drop 16) = _ := ofDigits_append
    rw [take_append_drop, ofDigits_eq_zero.mp hhigh, mul_zero, add_zero] at hsplit
    rw [if_pos hhigh, hsplit, ofDigits_eq_foldr]
    simp [mul_comm, add_comm]
  have hne : Nat.ofDigits 256 bytes ≠ 0 := fun h =>
    hhigh (all_eq_true.mpr fun b hb =>
      all_eq_true.mp (ofDigits_eq_zero.mpr h) b (mem_of_mem_drop hb))
  have hdigits : decimalDigits 78 bytes.reverse [] = _ :=
    decimalDigits_spec 78 [] (by simpa using hword.lt)
      (by rw [reverse_reverse]; exact hword.value_lt.trans (by decide))
  rw [reverse_reverse, if_neg hne, append_nil] at hdigits
  rw [if_neg hhigh, hdigits]
  simp only [List.isEmpty_iff, toDigits_ne_nil]
  rfl

theorem addBytes_spec (hlength : as.length = bs.length) (carry : Nat) :
    (addBytes as bs carry).1.length = as.length ∧ (∀ byte ∈ (addBytes as bs carry).1, byte < 256) ∧
      Nat.ofDigits 256 (addBytes as bs carry).1 + 256 ^ as.length * (addBytes as bs carry).2 =
        Nat.ofDigits 256 as + Nat.ofDigits 256 bs + carry := by
  induction as generalizing bs carry with
  | nil => cases length_eq_zero_iff.mp hlength.symm; simp [addBytes]
  | cons a as ih =>
    cases bs with
    | nil => simp at hlength
    | cons b =>
      obtain ⟨hlen, hlt, hvalue⟩ := ih (by simpa using hlength) ((a + b + carry) / 256)
      refine ⟨by simp [addBytes, hlen], ?_, ?_⟩
      · simp only [addBytes, mem_cons, forall_eq_or_imp]
        exact ⟨mod_lt _ (by decide), hlt⟩
      · simp only [addBytes, ofDigits_cons, length_cons, pow_succ]
        have hdiv := div_add_mod (a + b + carry) 256
        linarith

theorem subBytes_spec (hlength : as.length = bs.length) (has : ∀ byte ∈ as, byte < 256)
    (hbs : ∀ byte ∈ bs, byte < 256) (borrow : Nat) (hborrow : borrow ≤ 1) :
    (subBytes as bs borrow).length = as.length ∧ (∀ byte ∈ subBytes as bs borrow, byte < 256) ∧
      ∃ left ≤ 1, Nat.ofDigits 256 as + 256 ^ as.length * left =
        Nat.ofDigits 256 (subBytes as bs borrow) + Nat.ofDigits 256 bs + borrow := by
  induction as generalizing bs borrow with
  | nil =>
    cases length_eq_zero_iff.mp hlength.symm
    exact ⟨rfl, by simp [subBytes], borrow, hborrow, by simp [subBytes]⟩
  | cons a as ih =>
    cases bs with
    | nil => simp at hlength
    | cons b =>
      simp only [mem_cons, forall_eq_or_imp, length_cons, add_right_cancel_iff]
        at has hbs hlength
      by_cases hless : a < b + borrow
      · obtain ⟨hlen, hlt, left, hleft, hvalue⟩ := ih hlength has.2 hbs.2 1 le_rfl
        refine ⟨by simp [subBytes, hless, hlen], ?_, left, hleft, ?_⟩
        · simpa [subBytes, hless] using ⟨by omega, hlt⟩
        · simp only [subBytes, if_pos hless, ofDigits_cons, pow_succ, length_cons]
          have hbyte : a + 256 = a + 256 - b - borrow + b + borrow := by omega
          linarith
      · obtain ⟨hlen, hlt, left, hleft, hvalue⟩ := ih hlength has.2 hbs.2 0 (by decide)
        refine ⟨by simp [subBytes, hless, hlen], ?_, left, hleft, ?_⟩
        · simpa [subBytes, hless] using ⟨by omega, hlt⟩
        · simp only [subBytes, if_neg hless, ofDigits_cons, pow_succ, length_cons]
          have hbyte : a = a - b - borrow + b + borrow := by omega
          linarith

theorem ltBytes_reverse (hlength : as.length = bs.length) (has : ∀ byte ∈ as, byte < 256)
    (hbs : ∀ byte ∈ bs, byte < 256) :
    ltBytes as.reverse bs.reverse = decide (Nat.ofDigits 256 as < Nat.ofDigits 256 bs) := by
  induction as using List.reverseRecOn generalizing bs with
  | nil => cases length_eq_zero_iff.mp hlength.symm; rfl
  | append_singleton as a ih =>
    rcases eq_nil_or_concat' bs with rfl | ⟨bs, b, rfl⟩
    · simp at hlength
    simp only [length_append, length_singleton, add_right_cancel_iff] at hlength
    have has' : ∀ byte ∈ as, byte < 256 := fun byte h => has byte (by simp [h])
    have hbs' : ∀ byte ∈ bs, byte < 256 := fun byte h => hbs byte (by simp [h])
    have hva := ofDigits_lt_base_pow_length (by decide) has'
    have hvb := ofDigits_lt_base_pow_length (by decide) hbs'
    simp only [reverse_append, reverse_singleton, singleton_append, ltBytes,
      ofDigits_append, ofDigits_singleton, hlength] at hva ⊢
    by_cases heq : a = b
    · rw [if_pos heq, ih hlength has' hbs', heq]
      simp
    rw [if_neg heq, decide_eq_decide]
    -- the leading bytes decide, since what follows them is below one unit of theirs
    constructor
    · intro hlt
      have := mul_le_mul_left (256 ^ bs.length) (succ_le_of_lt hlt)
      rw [mul_succ] at this
      omega
    · by_contra hge
      have := mul_le_mul_left (256 ^ bs.length) (show b + 1 ≤ a by omega)
      rw [mul_succ] at this
      omega

def maskBytes (c a r : List Nat) : List Nat :=
  zipWith (fun ca r => ca &&& (255 ^^^ r)) (zipWith (· ||| ·) c a) r

theorem maskBytes_spec (ha : as.length = cs.length) (hr : rs.length = cs.length)
    (hcs : ∀ byte ∈ cs, byte < 256) (has : ∀ byte ∈ as, byte < 256) (hrs : ∀ byte ∈ rs, byte < 256) :
    (maskBytes cs as rs).length = cs.length ∧ (∀ byte ∈ maskBytes cs as rs, byte < 256) ∧
      ofDigits 256 (maskBytes cs as rs) =
        ldiff (ofDigits 256 cs ||| ofDigits 256 as) (ofDigits 256 rs) := by
  induction cs generalizing as rs with
  | nil => simp [maskBytes, length_eq_zero_iff.1 ha, length_eq_zero_iff.1 hr, ldiff]
  | cons c cs ih =>
    obtain ⟨a, as, rfl⟩ := exists_cons_of_length_eq_add_one ha
    obtain ⟨r, rs, rfl⟩ := exists_cons_of_length_eq_add_one hr
    simp only [mem_cons, forall_eq_or_imp, length_cons, add_right_cancel_iff] at ha hr hcs has hrs
    obtain ⟨hlength, hlt, hvalue⟩ := ih ha hr hcs.2 has.2 hrs.2
    have hbyte : (c ||| a) &&& (255 ^^^ r) < 2 ^ 8 :=
      and_lt_two_pow _ (xor_lt_two_pow (by decide) hrs.1)
    refine ⟨congrArg (· + 1) hlength, forall_mem_cons.2 ⟨hbyte, hlt⟩, ?_⟩
    refine Nat.eq_of_testBit_eq fun i => ?_
    have hbit {b} (hb : b < 256) (z : Nat) : (256 * z + b).testBit i = _ :=
      testBit_two_pow_mul_add (i := 8) z hb i
    have hcons : maskBytes (c :: cs) (a :: as) (r :: rs) =
      ((c ||| a) &&& (255 ^^^ r)) :: maskBytes cs as rs := rfl
    simp only [hcons, ofDigits_cons, hvalue, add_comm (_ : Nat) (256 * _), testBit_ldiff, testBit_or]
    rw [hbit hbyte, hbit hcs.1, hbit has.1, hbit hrs.1]
    split_ifs with hi
    · rw [testBit_and, testBit_xor, testBit_or, show 255 = 2 ^ 8 - 1 from rfl,
        testBit_two_pow_sub_one]
      simp [hi]
    · rw [testBit_ldiff, testBit_or]

/-! ## The operations -/

theorem parsed_of_decimal (h : decimal a = some x) :
    ∃ bytes, parseDecUint256 a = (bytes, true) ∧ IsWord bytes ∧ Nat.ofDigits 256 bytes = x := by
  obtain ⟨hok, hvalue⟩ := decimal_eq_some.1 h
  exact ⟨_, Prod.ext rfl hok, isWord_parse a, hvalue⟩

section

variable (ha : decimal a = some x) (hb : decimal b = some y)
include ha hb

/-- **Addition is addition of the numbers**, and refuses what does not fit. -/
theorem u256Add_eq : u256Add a b = if x + y < 2 ^ 256 then some (toString (x + y)) else none := by
  obtain ⟨as, hpa, hwa, rfl⟩ := parsed_of_decimal ha
  obtain ⟨bs, hpb, hwb, rfl⟩ := parsed_of_decimal hb
  obtain ⟨hlength, hlt, hvalue⟩ := addBytes_spec (hwa.length.trans hwb.length.symm) 0
  have hsum : IsWord _ := ⟨hlength.trans hwa.length, hlt⟩
  have hbound := hsum.value_lt
  rw [hwa.length, add_zero] at hvalue
  simp only [u256Add, hpa, hpb, Bool.not_true, Bool.or_self, Bool.false_eq_true, if_false, ne_eq,
    ite_not, ← hvalue]
  by_cases hcarry : (addBytes as bs 0).2 = 0
  · rw [if_pos hcarry, hcarry, mul_zero, add_zero, if_pos hbound, u256BeToDecimal_eq hsum]
  · rw [if_neg hcarry, if_neg (by omega)]

/-- **Subtraction is subtraction of the numbers**, and refuses to go below zero. -/
theorem u256Sub_eq : u256Sub a b = if y ≤ x then some (toString (x - y)) else none := by
  obtain ⟨as, hpa, hwa, rfl⟩ := parsed_of_decimal ha
  obtain ⟨bs, hpb, hwb, rfl⟩ := parsed_of_decimal hb
  have hlen := hwa.length.trans hwb.length.symm
  obtain ⟨hlength, hlt, left, hleft, hvalue⟩ := subBytes_spec hlen hwa.lt hwb.lt 0 (by decide)
  have hword : IsWord _ := ⟨hlength.trans hwa.length, hlt⟩
  have hbound := hword.value_lt
  rw [hwa.length, add_zero] at hvalue
  simp only [u256Sub, hpa, hpb, Bool.not_true, Bool.or_self, Bool.false_eq_true, if_false,
    ltBytes_reverse hlen hwa.lt hwb.lt, decide_eq_true_eq]
  split_ifs with hless hle hle
  · omega
  · rfl
  · -- nothing is borrowed beyond the last byte
    obtain rfl : left = 0 := by omega
    rw [mul_zero, add_zero] at hvalue
    rw [u256BeToDecimal_eq hword, Nat.sub_eq_of_eq_add hvalue]
  · omega

theorem u256Lt_eq : u256Lt a b = decide (x < y) := by
  obtain ⟨as, hpa, hwa, rfl⟩ := parsed_of_decimal ha
  obtain ⟨bs, hpb, hwb, rfl⟩ := parsed_of_decimal hb
  simp [u256Lt, hpa, hpb, ltBytes_reverse (hwa.length.trans hwb.length.symm) hwa.lt hwb.lt]

theorem u256BitwiseOrAndMask_eq (hc : decimal c = some z) :
    u256BitwiseOrAndMask a b c = toString (ldiff (x ||| y) z) := by
  obtain ⟨as, hpa, hwa, rfl⟩ := parsed_of_decimal ha
  obtain ⟨bs, hpb, hwb, rfl⟩ := parsed_of_decimal hb
  obtain ⟨cs, hpc, hwc, rfl⟩ := parsed_of_decimal hc
  obtain ⟨hlength, hlt, hvalue⟩ := maskBytes_spec (hwb.length.trans hwa.length.symm)
    (hwc.length.trans hwa.length.symm) hwa.lt hwb.lt hwc.lt
  rw [← hvalue, ← u256BeToDecimal_eq ⟨hlength.trans hwa.length, hlt⟩, u256BitwiseOrAndMask, hpa,
    hpb, hpc]
  rfl

end

theorem exists_decimals (h : ¬(!(parseDecUint256 a).2 || !(parseDecUint256 b).2) = true) :
    ∃ x y, decimal a = some x ∧ decimal b = some y := by
  simp only [Bool.or_eq_true, Bool.not_eq_true', not_or, Bool.not_eq_false] at h
  exact ⟨_, _, decimal_eq_some.2 ⟨h.1, rfl⟩, decimal_eq_some.2 ⟨h.2, rfl⟩⟩

theorem u256Add_eq_some (h : u256Add a b = some c) :
    ∃ x y, decimal a = some x ∧ decimal b = some y ∧ x + y < 2 ^ 256 ∧ c = toString (x + y) := by
  obtain ⟨x, y, hx, hy⟩ := exists_decimals fun hbad => by
    cases (if_pos hbad).symm.trans h
  rw [u256Add_eq hx hy] at h
  split_ifs at h with hlt
  exact ⟨x, y, hx, hy, hlt, (Option.some.inj h).symm⟩

theorem u256Sub_eq_some (h : u256Sub a b = some c) :
    ∃ x y, decimal a = some x ∧ decimal b = some y ∧ y ≤ x ∧ c = toString (x - y) := by
  obtain ⟨x, y, hx, hy⟩ := exists_decimals fun hbad => by
    cases (if_pos hbad).symm.trans h
  rw [u256Sub_eq hx hy] at h
  split_ifs at h with hle
  exact ⟨x, y, hx, hy, hle, (Option.some.inj h).symm⟩

/-- **The arithmetic on decimal strings is exact**: on numerals of numbers below `2 ^ 256` the
operations are those on the numbers, printed without leading zeros, and no other string is
parsed. -/
theorem decimal_arithmetic_exact (ha : Denotes a x) (hb : Denotes b y) (hc : Denotes c z) :
    u256Add a b = (if x + y < 2 ^ 256 then some (toString (x + y)) else none) ∧
      u256Sub a b = (if y ≤ x then some (toString (x - y)) else none) ∧
      u256Lt a b = decide (x < y) ∧
      u256BitwiseOrAndMask a b c = toString (Nat.ldiff (x ||| y) z) ∧
      ∀ s, (parseDecUint256 s).2 = true ↔ ∃ n, Denotes s n := by
  rw [← decimal_iff_denotes] at ha hb hc
  refine ⟨u256Add_eq ha hb, u256Sub_eq ha hb, u256Lt_eq ha hb,
    u256BitwiseOrAndMask_eq ha hb hc, fun s => ?_⟩
  simp only [← decimal_iff_denotes, decimal_eq_some, exists_and_left, exists_eq', and_true]

theorem decimal_arithmetic_exact_numerals : Denotes " 042" 42 ∧ u256Sub " 042" "100" = none := by
  have hnumeral : Denotes " 042" 42 := decimal_iff_denotes.1 (by decide +kernel)
  have hhundred : Denotes "100" 100 := decimal_iff_denotes.1 (by decide +kernel)
  exact ⟨hnumeral, (decimal_arithmetic_exact hnumeral hhundred hhundred).2.1⟩

example : u256Add "100" "42" = some "142" := by decide +kernel

example : u256Sub "42" "100" = none := by decide +kernel

end DeoptBackend.HybridV2
