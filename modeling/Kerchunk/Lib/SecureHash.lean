import Mathlib.Algebra.Group.Nat.Defs
import Mathlib.Data.List.Basic
import Mathlib.Tactic.Common

set_option autoImplicit false

/-!
# SHA-1, HMAC and HOTP

As FIPS 180-4, RFC 2104 and RFC 4226 define them for messages of whole bytes.
-/

namespace SecureHash

abbrev Byte := BitVec 8
abbrev Word := BitVec 32

/-! ## Numbers of several bytes -/

/-- The last `k` bytes of a number, the most significant first. -/
def bigEndian : Nat → Nat → List Byte
  | 0, _ => []
  | k + 1, n => bigEndian k (n / 256) ++ [BitVec.ofNat 8 n]

def number (bytes : List Byte) : Nat :=
  bytes.foldl (fun n b => n * 256 + b.toNat) 0

@[simp] theorem bigEndian_length (k n : Nat) : (bigEndian k n).length = k := by
  induction k generalizing n with
  | zero => rfl
  | succ k ih => rw [bigEndian, List.length_append, ih, List.length_singleton]

theorem bigEndian_mod (k n : Nat) : bigEndian k (n % 256 ^ k) = bigEndian k n := by
  induction k generalizing n with
  | zero => rfl
  | succ k ih =>
    have high : n % 256 ^ (k + 1) / 256 = n / 256 % 256 ^ k := by
      rw [Nat.pow_succ', Nat.mod_mul_right_div_self]
    have low : BitVec.ofNat 8 (n % 256 ^ (k + 1)) = BitVec.ofNat 8 n := by
      apply BitVec.eq_of_toNat_eq
      rw [BitVec.toNat_ofNat, BitVec.toNat_ofNat, Nat.pow_succ']
      exact Nat.mod_mul_right_mod n 256 (256 ^ k)
    rw [bigEndian, bigEndian, high, low, ih]

/-! ## SHA-1 -/

/-- The working variables, and the words of a hash value. -/
@[ext] structure Vars where
  a : Word
  b : Word
  c : Word
  d : Word
  e : Word
deriving DecidableEq

namespace Vars

def add (s t : Vars) : Vars where
  a := s.a + t.a
  b := s.b + t.b
  c := s.c + t.c
  d := s.d + t.d
  e := s.e + t.e

def digest (s : Vars) : List Byte :=
  [s.a, s.b, s.c, s.d, s.e].flatMap fun word => bigEndian 4 word.toNat

end Vars

def ch (x y z : Word) : Word :=
  (x &&& y) ^^^ (~~~x &&& z)

def parity (x y z : Word) : Word :=
  x ^^^ y ^^^ z

def maj (x y z : Word) : Word :=
  (x &&& y) ^^^ (x &&& z) ^^^ (y &&& z)

def logical (t : Nat) : Word → Word → Word → Word :=
  if t ≤ 19 then ch else if t ≤ 39 then parity else if t ≤ 59 then maj else parity

def constant (t : Nat) : Word :=
  if t ≤ 19 then 0x5a827999
  else if t ≤ 39 then 0x6ed9eba1
  else if t ≤ 59 then 0x8f1bbcdc
  else 0xca62c1d6

def initial : Vars where
  a := 0x67452301
  b := 0xefcdab89
  c := 0x98badcfe
  d := 0x10325476
  e := 0xc3d2e1f0

/-- The fewest zero bytes that leave room for the length alone in the last block. -/
def zeroCount (len : Nat) : Nat :=
  (119 - len % 64) % 64

def pad (message : List Byte) : List Byte :=
  message ++ 0x80 ::
    (List.replicate (zeroCount message.length) 0 ++ bigEndian 8 (8 * message.length))

def blocks (padded : List Byte) : List (List Byte) :=
  (List.range (padded.length / 64)).map fun i => (padded.drop (64 * i)).take 64

def schedule (block : List Byte) (t : Nat) : Word :=
  if t < 16 then BitVec.ofNat 32 (number ((block.drop (4 * t)).take 4))
  else
    (schedule block (t - 3) ^^^ schedule block (t - 8) ^^^ schedule block (t - 14) ^^^
      schedule block (t - 16)).rotateLeft 1
termination_by t

def round (w : Nat → Word) (s : Vars) (t : Nat) : Vars where
  a := s.a.rotateLeft 5 + logical t s.b s.c s.d + s.e + constant t + w t
  b := s.a
  c := s.b.rotateLeft 30
  d := s.c
  e := s.d

def compress (h : Vars) (block : List Byte) : Vars :=
  h.add ((List.range 80).foldl (round (schedule block)) h)

def sha1 (message : List Byte) : List Byte :=
  ((blocks (pad message)).foldl compress initial).digest

@[simp] theorem sha1_length (message : List Byte) : (sha1 message).length = 20 := by
  simp [sha1, Vars.digest]

/-! ## HMAC and HOTP, over any hash -/

section Keyed

variable (hash : List Byte → List Byte)

/-- A key that is longer than a block is hashed; zeros fill the block. -/
def blockKey (size : Nat) (key : List Byte) : List Byte :=
  let key := if size < key.length then hash key else key
  key ++ List.replicate (size - key.length) 0

variable {hash} in
theorem blockKey_length {size : Nat} (short : ∀ message, (hash message).length ≤ size)
    (key : List Byte) : (blockKey hash size key).length = size := by
  rw [blockKey, List.length_append, List.length_replicate]
  by_cases long : size < key.length
  next =>
    have fits := short key
    rw [if_pos long]
    omega
  next =>
    rw [if_neg long]
    omega

def hmac (size : Nat) (key text : List Byte) : List Byte :=
  let ipad := List.replicate size 0x36
  let opad := List.replicate size 0x5c
  hash (List.zipWith (· ^^^ ·) (blockKey hash size key) opad ++
    hash (List.zipWith (· ^^^ ·) (blockKey hash size key) ipad ++ text))

/-- The four bytes at an offset that the last byte gives, without their first bit. -/
def truncate (mac : List Byte) : Nat :=
  let offset := (mac.getLastD 0).toNat % 16
  number ((mac.drop offset).take 4) % 2 ^ 31

def hotp (size digits : Nat) (key : List Byte) (counter : Nat) : Nat :=
  truncate (hmac hash size key (bigEndian 8 counter)) % 10 ^ digits

end Keyed

end SecureHash
