import Mathlib.Algebra.Group.Nat.Defs
import Mathlib.Tactic.Common

set_option autoImplicit false

/-!
# One-time codes (`modules/mod_otp.c`)

SHA-1, HMAC-SHA1, Base32 and the TOTP of `totp_generate`. Bytes and words wrap as the C types do.
-/

namespace Kerchunk.Otp

abbrev Byte := BitVec 8
abbrev Word := BitVec 32

def sha1Rotl (x : Word) (n : Nat) : Word :=
  (x <<< n) ||| (x >>> (32 - n))

/-- The five words of the SHA-1 state, as `state` and as `a` to `e`. -/
structure Sha1State where
  a : Word
  b : Word
  c : Word
  d : Word
  e : Word
deriving DecidableEq

def sha1Init : Sha1State where
  a := 0x67452301
  b := 0xEFCDAB89
  c := 0x98BADCFE
  d := 0x10325476
  e := 0xC3D2E1F0

def Sha1State.add (s t : Sha1State) : Sha1State where
  a := s.a + t.a
  b := s.b + t.b
  c := s.c + t.c
  d := s.d + t.d
  e := s.e + t.e

def wordOf (b0 b1 b2 b3 : Byte) : Word :=
  -- A big-endian word.
  (b0.setWidth 32 <<< 24) ||| (b1.setWidth 32 <<< 16) ||| (b2.setWidth 32 <<< 8) |||
    b3.setWidth 32

def wordsOf : List Byte → List Word
  | b0 :: b1 :: b2 :: b3 :: rest => wordOf b0 b1 b2 b3 :: wordsOf rest
  | _ => []

def nextWord (earlier : List Word) : Word :=
  -- `w[i]` from `w[i - 1]`, `w[i - 2]`, ...
  sha1Rotl (earlier.getD 2 0 ^^^ earlier.getD 7 0 ^^^ earlier.getD 13 0 ^^^ earlier.getD 15 0) 1

def expand : Nat → List Word → List Word
  | 0, earlier => earlier
  | n + 1, earlier => expand n (nextWord earlier :: earlier)

def sha1Schedule (block : List Byte) : List Word :=
  (expand 64 (wordsOf block).reverse).reverse

def sha1F (i : Nat) (b c d : Word) : Word :=
  if i < 20 then (b &&& c) ||| (~~~b &&& d)
  else if i < 40 then b ^^^ c ^^^ d
  else if i < 60 then (b &&& c) ||| (b &&& d) ||| (c &&& d)
  else b ^^^ c ^^^ d

def sha1K (i : Nat) : Word :=
  if i < 20 then 0x5A827999
  else if i < 40 then 0x6ED9EBA1
  else if i < 60 then 0x8F1BBCDC
  else 0xCA62C1D6

def sha1Round (s : Sha1State) (w : Word × Nat) : Sha1State where
  a := sha1Rotl s.a 5 + sha1F w.2 s.b s.c s.d + s.e + sha1K w.2 + w.1
  b := s.a
  c := sha1Rotl s.b 30
  d := s.c
  e := s.d

def sha1Transform (state : Sha1State) (block : List Byte) : Sha1State :=
  state.add ((sha1Schedule block).zipIdx.foldl sha1Round state)

def sha1Padding (len : Nat) : List Byte :=
  -- The 0x80, the zeros and the length in bits that end the last block.
  let rem := len % 64 + 1
  let zeros := if rem > 56 then 64 - rem + 56 else 56 - rem
  let bits := BitVec.ofNat 64 (len * 8)
  let length : List Byte := (List.range 8).map fun j => (bits >>> (56 - j * 8)).setWidth 8
  0x80 :: (List.replicate zeros 0 ++ length)

def sha1Blocks : Nat → Sha1State → List Byte → Sha1State
  | 0, state, _ => state
  | n + 1, state, data => sha1Blocks n (sha1Transform state (data.take 64)) (data.drop 64)

def bytesOf (w : Word) : List Byte :=
  [(w >>> 24).setWidth 8, (w >>> 16).setWidth 8, (w >>> 8).setWidth 8, w.setWidth 8]

def sha1 (data : List Byte) : List Byte :=
  let padded := data ++ sha1Padding data.length
  let state := sha1Blocks (padded.length / 64) sha1Init padded
  bytesOf state.a ++ bytesOf state.b ++ bytesOf state.c ++ bytesOf state.d ++ bytesOf state.e

def hmacSha1 (key msg : List Byte) : List Byte :=
  let short := if key.length > 64 then sha1 key else key
  let kPad := short ++ List.replicate (64 - short.length) 0
  let innerHash := sha1 (kPad.map (· ^^^ 0x36) ++ msg)
  sha1 (kPad.map (· ^^^ 0x5C) ++ innerHash)

def base32Alphabet : List Char := "ABCDEFGHIJKLMNOPQRSTUVWXYZ234567".toList

/-- The bits not yet written out and how many they are. -/
structure Base32 where
  buffer : Nat
  bitsLeft : Nat
  out : List Byte

def toUpper (c : Char) : Char :=
  if 'a' ≤ c ∧ c ≤ 'z' then Char.ofNat (c.toNat - 32) else c

def base32Loop (outMax : Nat) : List Char → Base32 → List Byte
  -- Stops at the end, at `=` and when `out` is full; skips what is not in the alphabet.
  | [], b => b.out
  | c :: rest, b =>
    if c = '=' then b.out
    else
      match base32Alphabet.idxOf? (toUpper c) with
      | none => base32Loop outMax rest b
      | some value =>
        let buffer := (b.buffer * 32 + value) % 4294967296
        let bits := b.bitsLeft + 5
        if 8 ≤ bits then
          if outMax ≤ b.out.length then b.out
          else
            base32Loop outMax rest
              { buffer := buffer
                bitsLeft := bits - 8
                out := b.out ++ [BitVec.ofNat 8 (buffer / 2 ^ (bits - 8))] }
        else base32Loop outMax rest { b with buffer := buffer, bitsLeft := bits }

def base32Decode (encoded : String) (outMax : Nat) : List Byte :=
  base32Loop outMax encoded.toList { buffer := 0, bitsLeft := 0, out := [] }

def totpGenerate (secret : List Byte) (counter : BitVec 64) (digits : Nat) : Nat :=
  -- `totp_generate`, of the counter `time_val / step`.
  let msg := (List.range 8).map fun i => (counter >>> (56 - i * 8)).setWidth 8
  let hmac := hmacSha1 secret msg
  let offset := (hmac.getD 19 0 &&& 0x0F).toNat
  let code := wordOf (hmac.getD offset 0 &&& 0x7F) (hmac.getD (offset + 1) 0)
    (hmac.getD (offset + 2) 0) (hmac.getD (offset + 3) 0)
  code.toNat % 10 ^ digits

example : totpGenerate (base32Decode "GEZDGNBVGY3TQOJQGEZDGNBVGY3TQOJQ" 64) 1 6 = 287082 := by
  decide +kernel

def atoi (digits : List Char) : Nat :=
  digits.foldl (fun n c => n * 10 + (c.toNat - '0'.toNat)) 0

def counterAt (now i : Int) : Nat :=
  -- `t / 30` for `t = now + i * 30` in `uint64_t`.
  ((now + i * 30) % 18446744073709551616).toNat / 30

def totpVerify (base32Secret : String) (code : List Char) (now skew : Int) : Option Nat :=
  -- `totp_verify_at`: the counter of the first time step whose code this is.
  let secret := base32Decode base32Secret 64
  if secret = [] then none
  else
    let steps := (List.range (2 * skew + 1).toNat).map fun (k : Nat) => counterAt now (k - skew)
    steps.find? fun counter => atoi code = totpGenerate secret (BitVec.ofNat 64 counter) 6

end Kerchunk.Otp
