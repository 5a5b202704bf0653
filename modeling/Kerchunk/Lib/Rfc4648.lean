import Kerchunk.Lib.SecureHash

set_option autoImplicit false

/-!
# Base32 and Base64

As RFC 4648 defines them: a digit of the first is five bits, the octets are taken from the left, and
the bits that are left over at the end are no octet; the second writes three octets as four digits.
-/

namespace Rfc4648

open SecureHash (Byte bigEndian)

def digitOf (c : Char) : Option Nat :=
  if 'A' ≤ c ∧ c ≤ 'Z' then some (c.toNat - 65)
  else if 'a' ≤ c ∧ c ≤ 'z' then some (c.toNat - 97)
  else if '2' ≤ c ∧ c ≤ '7' then some (c.toNat - 50 + 26)
  else none

def value (digits : List Nat) : Nat :=
  digits.foldl (fun n digit => n * 32 + digit) 0

def octets (digits : List Nat) : List Byte :=
  bigEndian (5 * digits.length / 8) (value digits / 2 ^ (5 * digits.length % 8))

theorem value_concat (digits : List Nat) (digit : Nat) :
    value (digits ++ [digit]) = value digits * 32 + digit := by
  simp [value]

/-- One digit more gives an octet, or more bits that wait for one. -/
theorem octets_concat (digits : List Nat) {digit : Nat} (small : digit < 32) :
    octets (digits ++ [digit]) =
      if 8 ≤ 5 * digits.length % 8 + 5 then
        octets digits ++
          [BitVec.ofNat 8 (value (digits ++ [digit]) / 2 ^ (5 * digits.length % 8 + 5 - 8))]
      else octets digits := by
  have shifted (k : Nat) :
      value (digits ++ [digit]) / 2 ^ (k + 5) = value digits / 2 ^ k := by
    rw [value_concat, Nat.add_comm k, Nat.pow_add, ← Nat.div_div_eq_div_mul]
    congr 1
    omega
  unfold octets
  rw [List.length_append, List.length_singleton]
  split
  next more =>
    have count : 5 * (digits.length + 1) / 8 = 5 * digits.length / 8 + 1 := by omega
    have left : 5 * (digits.length + 1) % 8 = 5 * digits.length % 8 + 5 - 8 := by omega
    have octet : 2 ^ (5 * digits.length % 8 + 5 - 8) * 256 = 2 ^ (5 * digits.length % 8 + 5) := by
      rw [show 256 = 2 ^ 8 from rfl, ← Nat.pow_add]
      congr 1
      omega
    rw [count, left, bigEndian, Nat.div_div_eq_div_mul, octet, shifted]
  next fewer =>
    have count : 5 * (digits.length + 1) / 8 = 5 * digits.length / 8 := by omega
    have left : 5 * (digits.length + 1) % 8 = 5 * digits.length % 8 + 5 := by omega
    rw [count, left, shifted]

theorem octets_prefix (digits more : List Nat) (small : ∀ digit ∈ more, digit < 32) :
    octets digits <+: octets (digits ++ more) := by
  induction more generalizing digits with
  | nil => simp
  | cons digit more ih =>
    obtain ⟨first, later⟩ := List.forall_mem_cons.mp small
    have step : octets digits <+: octets (digits ++ [digit]) := by
      rw [octets_concat digits first]
      split
      next => exact List.prefix_append _ _
      next => exact List.prefix_rfl
    have rest := ih (digits ++ [digit]) later
    rw [List.append_assoc, List.singleton_append] at rest
    exact step.trans rest

/-- The digits of a text, up to its padding. What is no digit is skipped. -/
def digitsOf (encoded : List Char) : List Nat :=
  (encoded.takeWhile (· ≠ '=')).filterMap digitOf

theorem digitsOf_cons (c : Char) (rest : List Char) :
    digitsOf (c :: rest) = if c = '=' then [] else (digitOf c).toList ++ digitsOf rest := by
  unfold digitsOf
  by_cases pad : c = '='
  next => simp [pad]
  next =>
    rw [List.takeWhile_cons_of_pos (by simpa using pad), List.filterMap_cons, if_neg pad]
    cases digitOf c <;> rfl

theorem digitOf_lt {c : Char} {digit : Nat} (read : digitOf c = some digit) : digit < 32 := by
  unfold digitOf at read
  have code (a b : Char) : a ≤ b ↔ a.toNat ≤ b.toNat := Iff.rfl
  simp only [code] at read
  split at read
  next upper =>
    have high : c.toNat ≤ 90 := upper.2
    have := Option.some.inj read
    omega
  next =>
    split at read
    next lower =>
      have high : c.toNat ≤ 122 := lower.2
      have := Option.some.inj read
      omega
    next =>
      split at read
      next figure =>
        have high : c.toNat ≤ 55 := figure.2
        have := Option.some.inj read
        omega
      next => simp at read

theorem digitsOf_lt (encoded : List Char) : ∀ digit ∈ digitsOf encoded, digit < 32 := by
  intro digit member
  obtain ⟨c, -, read⟩ := List.mem_filterMap.mp member
  exact digitOf_lt read

def decode (encoded : List Char) : List Byte :=
  octets (digitsOf encoded)

/-! ## Base64 -/

def digit64 (n : Nat) : Char :=
  if n < 26 then Char.ofNat (65 + n)
  else if n < 52 then Char.ofNat (71 + n)
  else if n < 62 then Char.ofNat (n - 4)
  else if n = 62 then '+'
  else '/'

def encode64 : List Nat → List Char
  | a :: b :: c :: rest =>
    digit64 (a / 4) :: digit64 (a % 4 * 16 + b / 16) :: digit64 (b % 16 * 4 + c / 64) ::
      digit64 (c % 64) :: encode64 rest
  | [a, b] => [digit64 (a / 4), digit64 (a % 4 * 16 + b / 16), digit64 (b % 16 * 4), '=']
  | [a] => [digit64 (a / 4), digit64 (a % 4 * 16), '=', '=']
  | [] => []

theorem encode64_length (octets : List Nat) : (encode64 octets).length = (octets.length + 2) / 3 * 4 := by
  induction octets using encode64.induct with
  | case1 a b c rest ih =>
    simp only [encode64, List.length_cons, ih]
    omega
  | case2 | case3 | case4 => simp [encode64]

end Rfc4648
