import Kerchunk.Otp.Totp
import Kerchunk.Lib.SecureHash
import Mathlib.Tactic.NormNum
import Mathlib.Tactic.SplitIfs

set_option autoImplicit false

/-!
# The module's SHA-1 and HMAC-SHA1 (`modules/mod_otp.c`)

`sha1` of the model pads the message and takes its blocks; the code takes the whole blocks of
the message first, and builds the last one or two in a buffer.
-/

namespace Kerchunk.Otp

open SecureHash (bigEndian number)

/-! ## The code's loop -/

def sha1Whole (state : Sha1State) (data : List Byte) : Sha1State × List Byte :=
  -- The loop over the whole blocks, and what is left behind them.
  if 64 ≤ data.length then sha1Whole (sha1Transform state (data.take 64)) (data.drop 64)
  else (state, data)
termination_by data.length
decreasing_by rw [List.length_drop]; omega

def sha1Tail (state : Sha1State) (rest : List Byte) (len : Nat) : Sha1State :=
  let block := rest ++ [0x80]
  let bits := BitVec.ofNat 64 (len * 8)
  let length : List Byte := (List.range 8).map fun j => (bits >>> (56 - j * 8)).setWidth 8
  if 56 < block.length then
    sha1Transform (sha1Transform state (block ++ List.replicate (64 - block.length) 0))
      (List.replicate 56 0 ++ length)
  else sha1Transform state (block ++ List.replicate (56 - block.length) 0 ++ length)

def sha1Buffered (data : List Byte) : List Byte :=
  let (state, rest) := sha1Whole sha1Init data
  let state := sha1Tail state rest data.length
  bytesOf state.a ++ bytesOf state.b ++ bytesOf state.c ++ bytesOf state.d ++ bytesOf state.e

theorem sha1Blocks_append (n : Nat) (state : Sha1State) (block rest : List Byte)
    (full : block.length = 64) :
    sha1Blocks (n + 1) state (block ++ rest) = sha1Blocks n (sha1Transform state block) rest := by
  rw [sha1Blocks, ← full, List.take_left, List.drop_left]

theorem sha1Whole_spec (data : List Byte) (state : Sha1State) (tail : List Byte) (n : Nat) :
    (sha1Whole state data).2 = data.drop (64 * (data.length / 64)) ∧
      sha1Blocks (data.length / 64 + n) state (data ++ tail) =
        sha1Blocks n (sha1Whole state data).1 ((sha1Whole state data).2 ++ tail) := by
  induction state, data using sha1Whole.induct with
  | case1 state data more ih =>
    rw [sha1Whole, if_pos more]
    have count : data.length / 64 = (data.drop 64).length / 64 + 1 := by
      rw [List.length_drop]
      omega
    obtain ⟨left, same⟩ := ih
    refine ⟨?_, ?_⟩
    next =>
      rw [left, List.drop_drop, count, Nat.mul_succ, Nat.add_comm]
    next =>
      have split : data ++ tail = data.take 64 ++ (data.drop 64 ++ tail) := by
        rw [← List.append_assoc, List.take_append_drop]
      rw [split, count, Nat.add_right_comm, sha1Blocks_append _ _ _ _ (by simp; omega), same]
  | case2 state data few =>
    rw [sha1Whole, if_neg few]
    have none : data.length / 64 = 0 := by omega
    simp [none]

theorem sha1Tail_spec (state : Sha1State) (rest : List Byte) (len : Nat)
    (left : rest.length = len % 64) :
    sha1Blocks ((rest ++ sha1Padding len).length / 64) state (rest ++ sha1Padding len) =
      sha1Tail state rest len := by
  let length : List Byte :=
    (List.range 8).map fun j => (BitVec.ofNat 64 (len * 8) >>> (56 - j * 8)).setWidth 8
  have eight : length.length = 8 := by simp [length]
  have block : (rest ++ [0x80]).length = len % 64 + 1 := by simp [left]
  have small : len % 64 < 64 := Nat.mod_lt len (by omega)
  rw [sha1Tail, block]
  by_cases full : 56 < len % 64 + 1
  next =>
    have parts : rest ++ sha1Padding len =
        (rest ++ [0x80] ++ List.replicate (64 - (len % 64 + 1)) 0) ++
          ((List.replicate 56 0 ++ length) ++ []) := by
      simp only [sha1Padding, length, gt_iff_lt, if_pos full, List.replicate_add, List.append_assoc,
        List.cons_append, List.nil_append, List.append_nil]
    have total : (rest ++ sha1Padding len).length / 64 = 2 := by
      rw [parts]
      simp only [List.length_append, List.length_replicate, List.length_singleton, left, eight,
        List.length_nil]
      omega
    rw [if_pos full, total, parts, sha1Blocks_append _ _ _ _ (by simp [left]; omega),
      sha1Blocks_append _ _ _ _ (by simp [eight]), sha1Blocks]
  next =>
    have parts : rest ++ sha1Padding len =
        (rest ++ [0x80] ++ List.replicate (56 - (len % 64 + 1)) 0 ++ length) ++ [] := by
      simp only [sha1Padding, length, gt_iff_lt, if_neg full, List.append_assoc,
        List.cons_append, List.nil_append, List.append_nil]
    have total : (rest ++ sha1Padding len).length / 64 = 1 := by
      rw [parts]
      simp only [List.length_append, List.length_replicate, List.length_singleton, left, eight,
        List.length_nil]
      omega
    rw [if_neg full, total, parts, sha1Blocks_append _ _ _ _ (by simp [left, eight]; omega),
      sha1Blocks]

/-- The buffer of the code's loop holds the blocks of the padded message. -/
theorem sha1Buffered_eq (data : List Byte) : sha1Buffered data = sha1 data := by
  obtain ⟨left, whole⟩ := sha1Whole_spec data sha1Init (sha1Padding data.length)
    (((sha1Whole sha1Init data).2 ++ sha1Padding data.length).length / 64)
  have count : data.length / 64 +
      ((sha1Whole sha1Init data).2 ++ sha1Padding data.length).length / 64 =
        (data ++ sha1Padding data.length).length / 64 := by
    rw [left, List.length_append, List.length_append, List.length_drop]
    omega
  have rest : (sha1Whole sha1Init data).2.length = data.length % 64 := by
    rw [left, List.length_drop]
    omega
  rw [count, sha1Tail_spec _ _ _ rest] at whole
  simp only [sha1Buffered, sha1, whole]

/-! ## FIPS 180-4 -/

section Words

theorem sha1Rotl_eq (x : Word) {n : Nat} (small : n < 32) : sha1Rotl x n = x.rotateLeft n := by
  rw [BitVec.rotateLeft, BitVec.rotateLeftAux, Nat.mod_eq_of_lt small, sha1Rotl]

theorem sha1F_eq (i : Nat) (b c d : Word) : sha1F i b c d = SecureHash.logical i b c d := by
  have chosen : (b &&& c) ||| (~~~b &&& d) = SecureHash.ch b c d := by
    ext i small
    simp only [SecureHash.ch, BitVec.getElem_or, BitVec.getElem_and, BitVec.getElem_not,
      BitVec.getElem_xor]
    have each : ∀ x y z : Bool, (x && y || !x && z) = (x && y ^^ !x && z) := by decide
    exact each _ _ _
  have most : (b &&& c) ||| (b &&& d) ||| (c &&& d) = SecureHash.maj b c d := by
    ext i small
    simp only [SecureHash.maj, BitVec.getElem_or, BitVec.getElem_and, BitVec.getElem_xor]
    have each : ∀ x y z : Bool, (x && y || x && z || y && z) = (x && y ^^ x && z ^^ y && z) := by
      decide
    exact each _ _ _
  simp only [sha1F, SecureHash.logical, chosen, most, Nat.lt_succ_iff]
  split_ifs <;> rfl

theorem sha1K_eq (i : Nat) : sha1K i = SecureHash.constant i := by
  simp only [sha1K, SecureHash.constant, Nat.lt_succ_iff]

theorem wordOf_toNat (b0 b1 b2 b3 : Byte) :
    (wordOf b0 b1 b2 b3).toNat = number [b0, b1, b2, b3] := by
  have h0 := b0.isLt
  have h1 := b1.isLt
  have h2 := b2.isLt
  have h3 := b3.isLt
  have shifted (b : Byte) {k : Nat} (small : k ≤ 24) :
      (b.setWidth 32 <<< k).toNat = 2 ^ k * b.toNat := by
    have wide : 2 ^ k ≤ 2 ^ 24 := Nat.pow_le_pow_right (by omega) small
    have fits : b.toNat * 2 ^ k < 2 ^ 32 :=
      Nat.lt_of_lt_of_le (Nat.mul_lt_mul_of_lt_of_le b.isLt wide (by omega)) (by norm_num)
    have same : b.toNat % 2 ^ 32 = b.toNat :=
      Nat.mod_eq_of_lt (Nat.lt_of_lt_of_le b.isLt (by norm_num))
    rw [BitVec.toNat_shiftLeft, BitVec.toNat_setWidth, same, Nat.shiftLeft_eq,
      Nat.mod_eq_of_lt fits, Nat.mul_comm]
  have low : (b3.setWidth 32).toNat = b3.toNat := by
    rw [BitVec.toNat_setWidth, Nat.mod_eq_of_lt (by omega)]
  have first : (2 ^ 24 * b0.toNat) ||| (2 ^ 16 * b1.toNat) =
      2 ^ 16 * (256 * b0.toNat + b1.toNat) := by
    rw [← Nat.two_pow_add_eq_or_of_lt (by omega)]
    omega
  have second : (2 ^ 16 * (256 * b0.toNat + b1.toNat)) ||| (2 ^ 8 * b2.toNat) =
      2 ^ 8 * (256 * (256 * b0.toNat + b1.toNat) + b2.toNat) := by
    rw [← Nat.two_pow_add_eq_or_of_lt (by omega)]
    omega
  have third : (2 ^ 8 * (256 * (256 * b0.toNat + b1.toNat) + b2.toNat)) ||| b3.toNat =
      2 ^ 8 * (256 * (256 * b0.toNat + b1.toNat) + b2.toNat) + b3.toNat :=
    (Nat.two_pow_add_eq_or_of_lt (by omega) _).symm
  simp only [wordOf, BitVec.toNat_or]
  rw [shifted b0 (by omega), shifted b1 (by omega), shifted b2 (by omega), low, first, second, third]
  simp only [number, List.foldl_cons, List.foldl_nil]
  omega

theorem bytesOf_eq (w : Word) : bytesOf w = bigEndian 4 w.toNat := by
  have byte (k : Nat) : (w >>> k).setWidth 8 = BitVec.ofNat 8 (w.toNat / 2 ^ k) := by
    apply BitVec.eq_of_toNat_eq
    rw [BitVec.toNat_setWidth, BitVec.toNat_ushiftRight, Nat.shiftRight_eq_div_pow,
      BitVec.toNat_ofNat]
  have last := byte 0
  rw [BitVec.ushiftRight_zero] at last
  simp only [bytesOf, byte, last, bigEndian, List.nil_append, List.cons_append, Nat.div_div_eq_div_mul]
  norm_num

theorem shifted_bytes (x : BitVec 64) :
    ((List.range 8).map fun j => (x >>> (56 - j * 8)).setWidth 8) = bigEndian 8 x.toNat := by
  have byte (k : Nat) : (x >>> k).setWidth 8 = BitVec.ofNat 8 (x.toNat / 2 ^ k) := by
    apply BitVec.eq_of_toNat_eq
    rw [BitVec.toNat_setWidth, BitVec.toNat_ushiftRight, Nat.shiftRight_eq_div_pow,
      BitVec.toNat_ofNat]
  simp only [byte, bigEndian, List.range_succ, List.range_zero, List.map_cons, List.map_nil,
    List.nil_append, List.cons_append, Nat.div_div_eq_div_mul]
  norm_num

end Words

section Compression

open SecureHash (schedule)

theorem wordsOf_eq (n : Nat) (block : List Byte) (full : block.length = 4 * n) :
    wordsOf block =
      (List.range n).map fun t => BitVec.ofNat 32 (number ((block.drop (4 * t)).take 4)) := by
  induction n generalizing block with
  | zero =>
    rw [List.length_eq_zero_iff.mp full]
    rfl
  | succ n ih =>
    match block, full with
    | b0 :: b1 :: b2 :: b3 :: rest, full =>
      have first : BitVec.ofNat 32 (number [b0, b1, b2, b3]) = wordOf b0 b1 b2 b3 := by
        rw [← wordOf_toNat, BitVec.ofNat_toNat, BitVec.setWidth_eq]
      rw [wordsOf, ih rest (by simp at full; omega), List.range_succ_eq_map, List.map_cons,
        List.map_map]
      refine congr (congrArg List.cons first.symm) (List.map_congr_left fun t _ => ?_)
      rfl

theorem getD_earlier (w : Nat → Word) {m j : Nat} (inside : j < m) :
    ((List.range m).map w).reverse.getD j 0 = w (m - 1 - j) := by
  have below : j < ((List.range m).map w).length := by simpa using inside
  have last : m - 1 - j < m := by omega
  simp [List.getD_eq_getElem?_getD, List.getElem?_reverse below, List.getElem?_range last]

theorem nextWord_eq (block : List Byte) {m : Nat} (more : 16 ≤ m) :
    nextWord ((List.range m).map (schedule block)).reverse = schedule block m := by
  rw [nextWord, getD_earlier _ (by omega), getD_earlier _ (by omega), getD_earlier _ (by omega),
    getD_earlier _ (by omega), sha1Rotl_eq _ (by omega)]
  conv_rhs => rw [schedule, if_neg (by omega)]
  simp only [Nat.sub_sub, Nat.reduceAdd]

theorem expand_eq (block : List Byte) (n : Nat) {m : Nat} (more : 16 ≤ m) :
    expand n ((List.range m).map (schedule block)).reverse =
      ((List.range (m + n)).map (schedule block)).reverse := by
  induction n generalizing m with
  | zero => rfl
  | succ n ih =>
    have longer : schedule block m :: ((List.range m).map (schedule block)).reverse =
        ((List.range (m + 1)).map (schedule block)).reverse := by
      rw [List.range_succ, List.map_append, List.reverse_append]
      rfl
    rw [expand, nextWord_eq block more, longer, ih (by omega), Nat.add_right_comm, Nat.add_assoc]

theorem sha1Schedule_eq (block : List Byte) (full : block.length = 64) :
    sha1Schedule block = (List.range 80).map (schedule block) := by
  have input : wordsOf block = (List.range 16).map (schedule block) := by
    rw [wordsOf_eq 16 block full]
    refine List.map_congr_left fun t member => ?_
    rw [schedule, if_pos (List.mem_range.mp member)]
  rw [sha1Schedule, input, expand_eq block 64 (Nat.le_refl 16), List.reverse_reverse]

def Sha1State.vars (s : Sha1State) : SecureHash.Vars :=
  ⟨s.a, s.b, s.c, s.d, s.e⟩

theorem vars_round (s : Sha1State) (w : Nat → Word) (i : Nat) :
    (sha1Round s (w i, i)).vars = SecureHash.round w s.vars i := by
  simp only [sha1Round, Sha1State.vars, SecureHash.round, sha1F_eq, sha1K_eq,
    sha1Rotl_eq s.a (show 5 < 32 by omega), sha1Rotl_eq s.b (show 30 < 32 by omega)]

theorem vars_rounds (w : Nat → Word) (steps : List Nat) (s : Sha1State) :
    ((steps.map fun i => (w i, i)).foldl sha1Round s).vars =
      steps.foldl (SecureHash.round w) s.vars := by
  induction steps generalizing s with
  | nil => rfl
  | cons i steps ih => rw [List.map_cons, List.foldl_cons, ih, vars_round, List.foldl_cons]

theorem vars_transform (state : Sha1State) (block : List Byte) (full : block.length = 64) :
    (sha1Transform state block).vars = SecureHash.compress state.vars block := by
  have numbered : ((List.range 80).map (schedule block)).zipIdx =
      (List.range 80).map fun i => (schedule block i, i) := by
    refine List.ext_getElem (by simp) fun i _ _ => ?_
    simp
  rw [sha1Transform, sha1Schedule_eq block full, numbered, SecureHash.compress, ← vars_rounds]
  rfl

theorem vars_blocks (n : Nat) (state : Sha1State) (data : List Byte) (enough : 64 * n ≤ data.length) :
    (sha1Blocks n state data).vars =
      ((List.range n).map fun i => (data.drop (64 * i)).take 64).foldl SecureHash.compress state.vars := by
  induction n generalizing state data with
  | zero => rfl
  | succ n ih =>
    have later : (fun i => (data.drop (64 * i)).take 64) ∘ Nat.succ =
        fun i => ((data.drop 64).drop (64 * i)).take 64 := by
      funext i
      rw [Function.comp_apply, List.drop_drop, Nat.mul_succ, Nat.add_comm]
    rw [sha1Blocks, ih _ _ (by rw [List.length_drop]; omega), vars_transform _ _ (by simp; omega),
      List.range_succ_eq_map, List.map_cons, List.map_map, later, List.foldl_cons, Nat.mul_zero,
      List.drop_zero]

end Compression

theorem sha1Padding_eq (len : Nat) :
    sha1Padding len =
      0x80 :: (List.replicate (SecureHash.zeroCount len) 0 ++ bigEndian 8 (8 * len)) := by
  have zeros : (if len % 64 + 1 > 56 then 64 - (len % 64 + 1) + 56 else 56 - (len % 64 + 1)) =
      SecureHash.zeroCount len := by
    unfold SecureHash.zeroCount
    split <;> omega
  have bits : bigEndian 8 (BitVec.ofNat 64 (len * 8)).toNat = bigEndian 8 (8 * len) := by
    rw [BitVec.toNat_ofNat, Nat.mul_comm]
    exact SecureHash.bigEndian_mod 8 (8 * len)
  simp only [sha1Padding, zeros, shifted_bytes, bits]

/-- The module's SHA-1 is that of the standard. -/
theorem sha1_eq (data : List Byte) : sha1 data = SecureHash.sha1 data := by
  have padded : data ++ sha1Padding data.length = SecureHash.pad data := by
    rw [sha1Padding_eq, SecureHash.pad]
  have hashed := vars_blocks ((SecureHash.pad data).length / 64) sha1Init (SecureHash.pad data)
    (Nat.mul_div_le _ _)
  rw [SecureHash.sha1, SecureHash.blocks, show SecureHash.initial = sha1Init.vars from rfl, ← hashed]
  simp only [sha1, padded, bytesOf_eq, SecureHash.Vars.digest, Sha1State.vars, List.flatMap_cons,
    List.flatMap_nil, List.append_assoc, List.append_nil]

theorem hmacSha1_eq (key msg : List Byte) :
    hmacSha1 key msg = SecureHash.hmac SecureHash.sha1 64 key msg := by
  have short : (SecureHash.blockKey SecureHash.sha1 64 key).length = 64 :=
    SecureHash.blockKey_length (fun _ => by simp) key
  have masked (b : Byte) : List.zipWith (· ^^^ ·) (SecureHash.blockKey SecureHash.sha1 64 key)
      (List.replicate 64 b) = (SecureHash.blockKey SecureHash.sha1 64 key).map (· ^^^ b) := by
    refine List.ext_getElem (by simp [short]) fun i _ _ => ?_
    rw [List.getElem_zipWith, List.getElem_map, List.getElem_replicate]
  rw [SecureHash.hmac, masked, masked]
  simp only [hmacSha1, sha1_eq, SecureHash.blockKey, gt_iff_lt]

end Kerchunk.Otp
