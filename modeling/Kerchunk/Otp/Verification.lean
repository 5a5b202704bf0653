import Kerchunk.Config.Duration
import Kerchunk.Lib.Rfc4648
import Kerchunk.Otp.Sha1

set_option autoImplicit false

/-!
# Verification of a code (`modules/mod_otp.c`)

`totp_verify_at` of any secret, code, time and window.
-/

namespace Kerchunk.Otp

open Kerchunk.Config (Text isDigit atoiText numeral)

def base32Text (encoded : Text) (outMax : Nat) : List Byte :=
  base32Loop outMax encoded { buffer := 0, bitsLeft := 0, out := [] }

def totpVerifyAt (base32Secret code : Text) (now : BitVec 64) (skew : Int) : Option (BitVec 64) :=
  -- `matched_counter`, where there is one.
  let secret := base32Text base32Secret 64
  if secret = [] then none
  else
    let counters := (List.range (2 * skew + 1).toNat).map fun (k : Nat) =>
      (now + BitVec.ofInt 64 ((k - skew) * 30)) / 30
    counters.find? fun counter => atoiText code = totpGenerate secret counter 6

/-! ## Base32 -/

section Decoding

open Rfc4648 (digitOf digitsOf digitsOf_cons octets octets_concat)

theorem alphabet_digit (c : Char) : base32Alphabet.idxOf? (toUpper c) = digitOf c := by
  have ascii : ∀ n < 128, base32Alphabet.idxOf? (toUpper (Char.ofNat n)) = digitOf (Char.ofNat n) := by
    decide +kernel
  by_cases small : c.toNat < 128
  next =>
    have same := ascii c.toNat small
    rwa [Char.ofNat_toNat] at same
  next =>
    have code (a b : Char) : a ≤ b ↔ a.toNat ≤ b.toNat := Iff.rfl
    have other : digitOf c = none := by
      simp only [digitOf, code]
      rw [if_neg (by simp; omega), if_neg (by simp; omega), if_neg (by simp; omega)]
    have kept : toUpper c = c := by
      simp only [toUpper, code]
      rw [if_neg (by simp; omega)]
    have absent : c ∉ base32Alphabet := by
      intro member
      have ascii : base32Alphabet.all (fun a => decide (a.toNat < 128)) = true := by decide
      exact small (of_decide_eq_true (List.all_eq_true.mp ascii c member))
    rw [other, kept]
    exact List.idxOf?_eq_none_iff.mpr absent

/-- `digits` have been read: their octets are written out and the bits left over wait in the
buffer. -/
structure Base32.Reads (b : Base32) (digits : List Nat) : Prop where
  bits : b.bitsLeft = 5 * digits.length % 8
  buffer : b.buffer = Rfc4648.value digits % 4294967296
  out : b.out = octets digits

theorem octet_of_buffer (n : Nat) {k : Nat} (small : k ≤ 24) :
    BitVec.ofNat 8 (n % 4294967296 / 2 ^ k) = BitVec.ofNat 8 (n / 2 ^ k) := by
  -- An octet's bits are below the 32 of the buffer.
  have wide : 4294967296 = 2 ^ k * 2 ^ (32 - k) := by
    rw [← Nat.pow_add, Nat.add_sub_cancel' (by omega)]
  have inside : 2 ^ 8 ∣ 2 ^ (32 - k) := Nat.pow_dvd_pow 2 (by omega)
  apply BitVec.eq_of_toNat_eq
  rw [BitVec.toNat_ofNat, BitVec.toNat_ofNat, wide, Nat.mod_mul_right_div_self,
    Nat.mod_mod_of_dvd _ inside]

theorem base32Loop_eq (outMax : Nat) (encoded : Text) (b : Base32) (digits : List Nat)
    (reads : b.Reads digits) (room : b.out.length ≤ outMax) :
    base32Loop outMax encoded b = (octets (digits ++ digitsOf encoded)).take outMax := by
  induction encoded generalizing b digits with
  | nil =>
    rw [base32Loop, digitsOf, List.takeWhile_nil, List.filterMap_nil, List.append_nil,
      ← reads.out, List.take_of_length_le room]
  | cons c rest ih =>
    rw [base32Loop, digitsOf_cons, alphabet_digit]
    by_cases pad : c = '='
    next =>
      rw [if_pos pad, if_pos pad, List.append_nil, ← reads.out, List.take_of_length_le room]
    next =>
      rw [if_neg pad, if_neg pad]
      cases read : digitOf c with
      | none => simpa using ih b digits reads room
      | some digit =>
        have small := Rfc4648.digitOf_lt read
        have later : ∀ d ∈ digitsOf rest, d < 32 := Rfc4648.digitsOf_lt rest
        have split : digits ++ (digit :: digitsOf rest) = (digits ++ [digit]) ++ digitsOf rest := by simp
        have buffered : (b.buffer * 32 + digit) % 4294967296 =
            Rfc4648.value (digits ++ [digit]) % 4294967296 := by
          rw [reads.buffer, Rfc4648.value_concat]
          omega
        have waiting : b.bitsLeft < 8 := by
          rw [reads.bits]
          exact Nat.mod_lt _ (by omega)
        have next := octets_concat digits small
        rw [← reads.bits] at next
        simp only [Option.toList_some, List.singleton_append, split]
        by_cases more : 8 ≤ b.bitsLeft + 5
        next =>
          rw [if_pos more] at next ⊢
          by_cases full : outMax ≤ b.out.length
          next =>
            -- What is written out is the beginning of what would follow.
            rw [if_pos full]
            obtain ⟨tail, whole⟩ := (Rfc4648.octets_prefix digits ([digit] ++ digitsOf rest)
              (by simpa using ⟨small, later⟩))
            rw [← List.append_assoc] at whole
            rw [← whole, ← reads.out, List.take_append_of_le_length full,
              List.take_of_length_le room]
          next =>
            rw [if_neg full]
            refine ih _ _ ⟨?_, buffered, ?_⟩ (by simp; omega)
            next =>
              have bits := reads.bits
              simp only [List.length_append, List.length_singleton]
              omega
            next =>
              simp only [next, ← reads.out, buffered]
              rw [octet_of_buffer _ (by omega)]
        next =>
          rw [if_neg more] at next ⊢
          refine ih _ _ ⟨?_, buffered, ?_⟩ room
          next =>
            have bits := reads.bits
            simp only [List.length_append, List.length_singleton]
            omega
          next => rw [next, ← reads.out]

theorem base32Text_eq (encoded : Text) (outMax : Nat) :
    base32Text encoded outMax = (Rfc4648.decode encoded).take outMax :=
  base32Loop_eq outMax encoded _ [] ⟨rfl, rfl, rfl⟩ (Nat.zero_le outMax)

end Decoding

/-! ## The value of a counter -/

section Values

open SecureHash (hotp)

theorem hmacSha1_length (key msg : List Byte) : (hmacSha1 key msg).length = 20 := by
  rw [hmacSha1_eq, SecureHash.hmac, SecureHash.sha1_length]

theorem truncated_word (b0 b1 b2 b3 : Byte) :
    (wordOf (b0 &&& 0x7F) b1 b2 b3).toNat = SecureHash.number [b0, b1, b2, b3] % 2 ^ 31 := by
  have high : (b0 &&& 0x7F).toNat = b0.toNat % 128 := by
    rw [BitVec.toNat_and]
    exact Nat.and_two_pow_sub_one_eq_mod b0.toNat 7
  have h1 := b1.isLt
  have h2 := b2.isLt
  have h3 := b3.isLt
  rw [wordOf_toNat]
  simp only [SecureHash.number, List.foldl_cons, List.foldl_nil, high]
  omega

theorem four_from (bytes : List Byte) {i : Nat} (inside : i + 4 ≤ bytes.length) :
    (bytes.drop i).take 4 =
      [bytes.getD i 0, bytes.getD (i + 1) 0, bytes.getD (i + 2) 0, bytes.getD (i + 3) 0] := by
  have read (k : Nat) (below : k < bytes.length) : bytes.getD k 0 = bytes[k] := by
    simp [List.getD_eq_getElem?_getD, below]
  rw [read i (by omega), read (i + 1) (by omega), read (i + 2) (by omega), read (i + 3) (by omega),
    List.drop_eq_getElem_cons (by omega : i < bytes.length),
    List.drop_eq_getElem_cons (by omega : i + 1 < bytes.length),
    List.drop_eq_getElem_cons (by omega : i + 2 < bytes.length),
    List.drop_eq_getElem_cons (by omega : i + 3 < bytes.length)]
  rfl

/-- `totp_generate` is the HOTP value of the counter. -/
theorem totpGenerate_eq (secret : List Byte) (counter : BitVec 64) (digits : Nat) :
    totpGenerate secret counter digits =
      hotp SecureHash.sha1 64 digits secret counter.toNat := by
  have message : ((List.range 8).map fun i => (counter >>> (56 - i * 8)).setWidth 8) =
      SecureHash.bigEndian 8 counter.toNat := shifted_bytes counter
  have twenty := hmacSha1_length secret (SecureHash.bigEndian 8 counter.toNat)
  rw [hotp, totpGenerate, message, ← hmacSha1_eq]
  generalize hmacSha1 secret (SecureHash.bigEndian 8 counter.toNat) = mac at *
  have last : mac.getLastD 0 = mac.getD 19 0 := by
    rw [List.getLastD_eq_getLast?, List.getLast?_eq_getElem?, twenty, List.getD_eq_getElem?_getD]
  have offset : (mac.getD 19 0 &&& 0x0F).toNat = (mac.getD 19 0).toNat % 16 := by
    rw [BitVec.toNat_and]
    exact Nat.and_two_pow_sub_one_eq_mod (mac.getD 19 0).toNat 4
  have small : (mac.getD 19 0).toNat % 16 < 16 := Nat.mod_lt _ (by omega)
  simp only [SecureHash.truncate, last, offset, truncated_word]
  rw [four_from mac (by omega)]

end Values

/-! ## Codes and counters -/

section Codes

open Kerchunk.Config (digit)

/-- A number in `k` decimal digits. -/
def decimal : Nat → Nat → Text
  | 0, _ => []
  | k + 1, n => decimal k (n / 10) ++ [Char.ofNat (48 + n % 10)]

def IsCode (code : Text) : Prop :=
  code.length = 6 ∧ ∀ c ∈ code, isDigit c = true

theorem numeral_concat (digits : Text) (c : Char) :
    numeral (digits ++ [c]) = numeral digits * 10 + digit c := by
  simp [numeral]

theorem digit_ofNat {d : Nat} (small : d < 10) : digit (Char.ofNat (48 + d)) = d := by
  have all : ∀ d < 10, digit (Char.ofNat (48 + d)) = d := by decide
  exact all d small

theorem numeral_decimal (k n : Nat) : numeral (decimal k n) = (n % 10 ^ k : Nat) := by
  induction k generalizing n with
  | zero => rw [Nat.pow_zero, Nat.mod_one]; rfl
  | succ k ih =>
    have parts : n % 10 ^ (k + 1) = n / 10 % 10 ^ k * 10 + n % 10 := by
      rw [Nat.pow_succ', Nat.mod_mul]
      omega
    rw [decimal, numeral_concat, ih, digit_ofNat (Nat.mod_lt n (by omega)), parts]
    push_cast
    rfl

theorem decimal_numeral {digits : Text} (all : ∀ c ∈ digits, isDigit c = true) :
    decimal digits.length (numeral digits).toNat = digits := by
  induction digits using List.reverseRecOn with
  | nil => rfl
  | append_singleton digits c ih =>
    obtain ⟨earlier, last⟩ := List.forall_mem_append.mp all
    have low := Config.numeral_nonneg earlier
    have isDigit_c := last c (List.mem_singleton_self c)
    have bounds := Config.digit_bounds isDigit_c
    have high : (numeral digits * 10 + digit c).toNat / 10 = (numeral digits).toNat := by omega
    have figure : 48 + (numeral digits * 10 + digit c).toNat % 10 = c.toNat := by
      simp only [isDigit, Bool.and_eq_true, decide_eq_true_eq] at isDigit_c
      unfold digit at *
      omega
    rw [List.length_append, List.length_singleton, numeral_concat, decimal, high, figure,
      Char.ofNat_toNat, ih earlier]

theorem decimal_length (k n : Nat) : (decimal k n).length = k := by
  induction k generalizing n with
  | zero => rfl
  | succ k ih => rw [decimal, List.length_append, ih, List.length_singleton]

theorem numeral_code_lt {code : Text} (isCode : IsCode code) : numeral code < 10 ^ 6 := by
  have value := numeral_decimal code.length (numeral code).toNat
  have below := Nat.mod_lt (numeral code).toNat (show 10 ^ code.length > 0 from Nat.pow_pos (by decide))
  rw [decimal_numeral isCode.2] at value
  rw [isCode.1] at value below
  omega

/-- Of a code, `atoi` is a value just when the code is the value in six digits. -/
theorem atoiText_code {code : Text} (isCode : IsCode code) {n : Nat} (small : n < 10 ^ 6) :
    atoiText code = n ↔ code = decimal 6 n := by
  have shown : decimal 6 (numeral code).toNat = code := by
    rw [← isCode.1]
    exact decimal_numeral isCode.2
  have below := numeral_code_lt isCode
  rw [Config.atoiText_digits isCode.2 (by unfold Config.intMax; omega)]
  constructor
  next =>
    intro same
    rw [← shown, same, Int.toNat_natCast]
  next =>
    intro same
    rw [same, numeral_decimal, Nat.mod_eq_of_lt small]

/-- The counter `i` steps from `now`, on a clock of 64 bits. -/
def counterOf (now : BitVec 64) (i : Int) : Nat :=
  ((now.toNat + 30 * i) % 18446744073709551616).toNat / 30

def Window (now : BitVec 64) (skew : Int) (counter : Nat) : Prop :=
  ∃ i, -skew ≤ i ∧ i ≤ skew ∧ counter = counterOf now i

theorem wrapped_sum (n : Nat) (j : Int) {m : Nat} (positive : 0 < m) :
    (n + (j % m).toNat) % m = ((n + j) % m).toNat := by
  have part := Int.emod_nonneg j (show (m : Int) ≠ 0 by omega)
  have whole := Int.emod_nonneg (n + j) (show (m : Int) ≠ 0 by omega)
  apply Int.ofNat.inj
  change ((n + (j % m).toNat) % m : Nat) = (((n + j) % m).toNat : Int)
  rw [Int.toNat_of_nonneg whole, Int.natCast_emod, Int.natCast_add, Int.toNat_of_nonneg part,
    Int.add_emod_emod]

theorem counter_toNat (now : BitVec 64) (i : Int) :
    ((now + BitVec.ofInt 64 (i * 30)) / 30).toNat = counterOf now i := by
  have sum : (now + BitVec.ofInt 64 (i * 30)).toNat =
      ((now.toNat + i * 30) % (2 ^ 64 : Nat)).toNat := by
    rw [BitVec.toNat_add, BitVec.toNat_ofInt, wrapped_sum _ _ (Nat.two_pow_pos 64)]
  have thirty : (30 : BitVec 64).toNat = 30 := by decide
  rw [BitVec.toNat_udiv, sum, thirty, Int.mul_comm, counterOf]
  norm_num

/-- Where the window is inside the clock, its counters are those next to the one of the time. -/
theorem window_iff {now : BitVec 64} {skew : Int} (before : 30 * skew ≤ now.toNat)
    (after : now.toNat + 30 * skew < 18446744073709551616) (counter : Nat) :
    Window now skew counter ↔
      (now.toNat / 30 : Nat) - skew ≤ counter ∧ counter ≤ (now.toNat / 30 : Nat) + skew := by
  have inside (i : Int) (low : -skew ≤ i) (high : i ≤ skew) :
      (counterOf now i : Int) = (now.toNat / 30 : Nat) + i := by
    unfold counterOf
    omega
  constructor
  next =>
    rintro ⟨i, low, high, rfl⟩
    have at_i := inside i low high
    omega
  next =>
    rintro ⟨low, high⟩
    refine ⟨counter - (now.toNat / 30 : Nat), by omega, by omega, ?_⟩
    have at_i := inside (counter - (now.toNat / 30 : Nat)) (by omega) (by omega)
    omega

end Codes

/-! ## Verification -/

section Verifying

open SecureHash (hotp)

theorem totpVerifyAt_isSome (secret code : Text) (now : BitVec 64) (skew : Int) :
    (totpVerifyAt secret code now skew).isSome = true ↔
      Rfc4648.decode secret ≠ [] ∧ ∃ counter, Window now skew counter ∧
        atoiText code = hotp SecureHash.sha1 64 6 ((Rfc4648.decode secret).take 64) counter := by
  have empty : base32Text secret 64 = [] ↔ Rfc4648.decode secret = [] := by
    rw [base32Text_eq, List.take_eq_nil_iff]
    simp
  unfold totpVerifyAt
  by_cases none : base32Text secret 64 = []
  next => simp [none, empty.mp none]
  next =>
    simp only [if_neg none, List.find?_isSome, List.mem_map, List.mem_range, decide_eq_true_eq]
    simp only [base32Text_eq, totpGenerate_eq]
    refine Iff.trans ⟨?_, ?_⟩ (and_iff_right fun nil => none (empty.mpr nil)).symm
    next =>
      rintro ⟨counter, ⟨k, inside, rfl⟩, same⟩
      rw [counter_toNat] at same
      exact ⟨_, ⟨k - skew, by omega, by omega, rfl⟩, same⟩
    next =>
      rintro ⟨counter, ⟨i, low, high, rfl⟩, same⟩
      refine ⟨_, ⟨(i + skew).toNat, by omega, rfl⟩, ?_⟩
      rw [counter_toNat, same, Int.toNat_of_nonneg (by omega), Int.add_sub_cancel]

theorem numeral_atoi {digits : Text} (all : ∀ c ∈ digits, isDigit c = true) :
    numeral digits = atoi digits := by
  induction digits using List.reverseRecOn with
  | nil => rfl
  | append_singleton digits c ih =>
    obtain ⟨earlier, last⟩ := List.forall_mem_append.mp all
    have bounds := Config.digit_bounds (last c (List.mem_singleton_self c))
    have step : atoi (digits ++ [c]) = atoi digits * 10 + (c.toNat - 48) := by
      simp [atoi]
    unfold Config.digit at bounds
    rw [numeral_concat, ih earlier, step, Config.digit]
    omega

/-- Of a code, it is the verification of the login. -/
theorem totpVerify_eq (secret : Text) {code : Text} (isCode : IsCode code) (now : BitVec 64)
    (skew : Int) :
    totpVerify (String.ofList secret) code now.toNat skew =
      (totpVerifyAt secret code now skew).map BitVec.toNat := by
  have short : atoiText code = atoi code := by
    have small := numeral_code_lt isCode
    rw [Config.atoiText_digits isCode.2 (by unfold Config.intMax; omega), numeral_atoi isCode.2]
  have decoded : base32Decode (String.ofList secret) 64 = base32Text secret 64 := by
    rw [base32Decode, String.toList_ofList, base32Text]
  unfold totpVerify totpVerifyAt
  rw [decoded]
  by_cases none : base32Text secret 64 = []
  next => simp [none]
  next =>
    simp only [if_neg none, List.find?_map, Option.map_map]
    have counters (k : Nat) : counterAt now.toNat (k - skew) =
        ((now + BitVec.ofInt 64 ((k - skew) * 30)) / 30).toNat := by
      rw [counter_toNat, counterAt, counterOf, Int.mul_comm]
    simp only [Function.comp_def, counters, BitVec.ofNat_toNat, BitVec.setWidth_eq, short,
      Int.natCast_inj]

/-- A window of time steps, read from the secret's first 64 octets and the number of the code. -/
theorem totpVerifyAt_iff (secret code : Text) (now : BitVec 64) (skew : Int) :
    (∀ data, sha1Buffered data = SecureHash.sha1 data) ∧
      (∀ key msg, hmacSha1 key msg = SecureHash.hmac SecureHash.sha1 64 key msg) ∧
      ((totpVerifyAt secret code now skew).isSome = true ↔
        Rfc4648.decode secret ≠ [] ∧ ∃ counter, Window now skew counter ∧
          atoiText code = hotp SecureHash.sha1 64 6 ((Rfc4648.decode secret).take 64) counter) ∧
      (IsCode code → ((totpVerifyAt secret code now skew).isSome = true ↔
        Rfc4648.decode secret ≠ [] ∧ ∃ counter, Window now skew counter ∧
          code = decimal 6 (hotp SecureHash.sha1 64 6 ((Rfc4648.decode secret).take 64) counter))) ∧
      (30 * skew ≤ now.toNat ∧ now.toNat + 30 * skew < 18446744073709551616 →
        ∀ counter : Nat, Window now skew counter ↔
          (now.toNat / 30 : Nat) - skew ≤ counter ∧ counter ≤ (now.toNat / 30 : Nat) + skew) := by
  refine ⟨fun data => (sha1Buffered_eq data).trans (sha1_eq data), hmacSha1_eq,
    totpVerifyAt_isSome secret code now skew, fun isCode => ?_, fun ⟨before, after⟩ =>
      window_iff before after⟩
  rw [totpVerifyAt_isSome]
  refine and_congr_right fun _ => exists_congr fun counter => and_congr_right fun _ => ?_
  exact atoiText_code isCode (Nat.mod_lt _ (by decide))

/-- Characters behind the digits do not count. -/
theorem trailing_letter_verifies :
    ¬ ∀ (secret code : Text) (now : BitVec 64) (skew : Int),
      (totpVerifyAt secret code now skew).isSome = true ↔
        ∃ counter, Window now skew counter ∧
          code = decimal 6 (hotp SecureHash.sha1 64 6 (Rfc4648.decode secret) counter) := by
  intro all
  have verified : (totpVerifyAt "GEZDGNBVGY3TQOJQGEZDGNBVGY3TQOJQ".toList "287082x".toList 59 0).isSome =
      true := by decide +kernel
  obtain ⟨counter, -, same⟩ := (all _ _ _ _).mp verified
  have seven := congrArg List.length same
  rw [decimal_length] at seven
  exact absurd seven (by decide)

end Verifying

end Kerchunk.Otp
