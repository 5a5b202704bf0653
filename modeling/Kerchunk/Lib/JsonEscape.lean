import Kerchunk.Lib.Json

set_option autoImplicit false

/-!
# Short escapes

Strings written with the two-character escapes only, into a buffer that may be too small, and what
a reader makes of them.
-/

namespace Json

def tab : Char := Char.ofNat 9
def lineFeed : Char := Char.ofNat 10
def carriageReturn : Char := Char.ofNat 13

def shortEscape (c : Char) : List Char :=
  if c = '"' ∨ c = '\\' then ['\\', c]
  else if c = lineFeed then ['\\', 'n']
  else if c = carriageReturn then ['\\', 'r']
  else if c = tab then ['\\', 't']
  else [c]

def writable (c : Char) : Bool :=
  decide (0x20 ≤ c.toNat) || c = lineFeed || c = carriageReturn || c = tab

def escaped (s : List Char) : List Char :=
  s.flatMap shortEscape

theorem readString_escape {c d : Char} {rest : List Char} {fuel : Nat}
    (stands : simpleEscape d = some c) (other : d ≠ 'u') :
    readString (fuel + 1) ('\\' :: d :: rest) =
      (readString fuel rest).map fun r => (c :: r.1, r.2) := by
  have read : escape (d :: rest) = some (c, rest) := by
    unfold escape
    split
    next same => exact absurd (List.cons.inj same).1 other
    next e later _ same =>
      obtain ⟨rfl, rfl⟩ := List.cons.inj same
      rw [stands]
      rfl
    next same => cases same
  have slash : ('\\' : Char) ≠ '"' := by decide
  simp only [readString, slash, if_false, if_true, read, Option.bind_some]

theorem readString_short {c : Char} (isWritable : writable c = true) (rest : List Char) (fuel : Nat) :
    readString (fuel + 1) (shortEscape c ++ rest) =
      (readString fuel rest).map fun r => (c :: r.1, r.2) := by
  unfold shortEscape
  split_ifs with quote feed carriage tabbed
  next =>
    have stands : simpleEscape c = some c := by
      rcases quote with rfl | rfl <;> decide
    have other : c ≠ 'u' := by
      rcases quote with rfl | rfl <;> decide
    exact readString_escape stands other
  next => exact readString_escape (by rw [feed]; decide) (by decide)
  next => exact readString_escape (by rw [carriage]; decide) (by decide)
  next => exact readString_escape (by rw [tabbed]; decide) (by decide)
  next =>
    obtain ⟨noQuote, noSlash⟩ := not_or.mp quote
    have printable : ¬ c.toNat < 0x20 := by
      simpa [writable, feed, carriage, tabbed] using isWritable
    simp [readString, noQuote, noSlash, printable]

theorem readString_escaped {s : List Char} (all : ∀ c ∈ s, writable c = true) (rest : List Char)
    {fuel : Nat} (enough : s.length < fuel) :
    readString fuel (escaped s ++ '"' :: rest) = some (s, rest) := by
  induction s generalizing fuel with
  | nil =>
    obtain ⟨fuel, rfl⟩ := Nat.exists_eq_succ_of_ne_zero (Nat.ne_of_gt enough)
    simp [escaped, readString]
  | cons c s ih =>
    obtain ⟨fuel, rfl⟩ := Nat.exists_eq_succ_of_ne_zero (Nat.ne_of_gt (Nat.zero_lt_of_lt enough))
    have later := ih (fun d member => all d (by simp [member])) (by simpa using enough)
    have one : escaped (c :: s) = shortEscape c ++ escaped s := rfl
    rw [one, List.append_assoc, readString_short (all c (by simp)), later]
    rfl

/-! ## Control characters as code units -/

def lowHex (n : Nat) : Char :=
  if n < 10 then Char.ofNat (48 + n) else Char.ofNat (87 + n)

def controlEscape (c : Char) : List Char :=
  ['\\', 'u', '0', '0', lowHex (c.toNat / 16), lowHex (c.toNat % 16)]

def fullEscape (c : Char) : List Char :=
  if writable c then shortEscape c else controlEscape c

def fullyEscaped (s : List Char) : List Char :=
  s.flatMap fullEscape

theorem codeUnit_control :
    ∀ n < 0x20, codeUnit ['0', '0', lowHex (n / 16), lowHex (n % 16)] = some (Char.ofNat n) := by
  decide

theorem readString_control {c : Char} (control : c.toNat < 0x20) (rest : List Char) (fuel : Nat) :
    readString (fuel + 1) (controlEscape c ++ rest) =
      (readString fuel rest).map fun r => (c :: r.1, r.2) := by
  have unit := codeUnit_control c.toNat control
  rw [Char.ofNat_toNat] at unit
  have slash : ('\\' : Char) ≠ '"' := by decide
  simp [controlEscape, readString, slash, escape, unit]

theorem readString_full (c : Char) (rest : List Char) (fuel : Nat) :
    readString (fuel + 1) (fullEscape c ++ rest) =
      (readString fuel rest).map fun r => (c :: r.1, r.2) := by
  unfold fullEscape
  split
  next isWritable => exact readString_short isWritable rest fuel
  next other =>
    refine readString_control ?_ rest fuel
    simp only [writable, Bool.or_eq_true, decide_eq_true_eq, not_or] at other
    omega

theorem fullEscape_length (c : Char) : 1 ≤ (fullEscape c).length ∧ (fullEscape c).length ≤ 6 := by
  unfold fullEscape shortEscape controlEscape
  split_ifs <;> simp

theorem readString_fullyEscaped (s rest : List Char) {fuel : Nat}
    (enough : (fullyEscaped s).length < fuel) :
    readString fuel (fullyEscaped s ++ '"' :: rest) = some (s, rest) := by
  induction s generalizing fuel with
  | nil =>
    obtain ⟨fuel, rfl⟩ := Nat.exists_eq_succ_of_ne_zero (Nat.ne_of_gt enough)
    simp [fullyEscaped, readString]
  | cons c s ih =>
    obtain ⟨fuel, rfl⟩ := Nat.exists_eq_succ_of_ne_zero (Nat.ne_of_gt (Nat.zero_lt_of_lt enough))
    have one : fullyEscaped (c :: s) = fullEscape c ++ fullyEscaped s := rfl
    have long := (fullEscape_length c).1
    rw [one, List.length_append] at enough
    rw [one, List.append_assoc, readString_full, ih (by omega)]
    rfl

/-! ## A buffer that may be too small -/

def kept : Nat → List Char → List Char
  -- The characters that are written while room is left.
  | 0, _ => []
  | _ + 1, [] => []
  | room + 1, c :: rest =>
    if writable c then c :: kept (room + 1 - (shortEscape c).length) rest else kept (room + 1) rest

def Fits (room : Nat) (s : List Char) : Prop :=
  -- Room is left before the last character.
  s ≠ [] → (escaped s.dropLast).length < room

instance (room : Nat) (s : List Char) : Decidable (Fits room s) :=
  decidable_of_iff (s = [] ∨ (escaped s.dropLast).length < room) (by unfold Fits; tauto)

theorem shortEscape_length (c : Char) :
    (shortEscape c).length = 1 ∨ (shortEscape c).length = 2 := by
  unfold shortEscape
  split_ifs <;> simp

theorem kept_writable {room : Nat} {s : List Char} : ∀ c ∈ kept room s, writable c = true := by
  induction s generalizing room with
  | nil => cases room <;> simp [kept]
  | cons d s ih =>
    cases room with
    | zero => simp [kept]
    | succ room =>
      unfold kept
      split
      next written =>
        intro c member
        rcases List.mem_cons.mp member with rfl | later
        next => exact written
        next => exact ih c later
      next => exact ih

theorem kept_sublist (room : Nat) (s : List Char) : (kept room s).Sublist s := by
  induction s generalizing room with
  | nil => cases room <;> simp [kept]
  | cons d s ih =>
    cases room with
    | zero => simp [kept]
    | succ room =>
      unfold kept
      split
      next => exact (ih _).cons_cons d
      next => exact (ih _).cons d

theorem kept_eq {room : Nat} {s : List Char} (all : ∀ c ∈ s, writable c = true)
    (fits : Fits room s) : kept room s = s := by
  induction s generalizing room with
  | nil => cases room <;> rfl
  | cons c s ih =>
    have starts := fits (List.cons_ne_nil c s)
    obtain ⟨room, rfl⟩ := Nat.exists_eq_succ_of_ne_zero (Nat.ne_of_gt (Nat.zero_lt_of_lt starts))
    have later : kept (room + 1 - (shortEscape c).length) s = s := by
      refine ih (fun d member => all d (by simp [member])) fun some => ?_
      rw [List.dropLast_cons_of_ne_nil some] at starts
      simp only [escaped, List.flatMap_cons, List.length_append] at starts ⊢
      omega
    simp [kept, all c (by simp), later]

theorem kept_fits (room : Nat) (s : List Char) : Fits room (kept room s) := by
  induction s generalizing room with
  | nil => cases room <;> simp [kept, Fits]
  | cons c s ih =>
    cases room with
    | zero => simp [kept, Fits]
    | succ room =>
      unfold kept
      split
      next =>
        intro _
        have later := ih (room + 1 - (shortEscape c).length)
        by_cases none : kept (room + 1 - (shortEscape c).length) s = []
        next => simp [none, escaped]
        next =>
          have left := later none
          rw [List.dropLast_cons_of_ne_nil none]
          simp only [escaped, List.flatMap_cons, List.length_append] at left ⊢
          omega
      next => exact ih (room + 1)

theorem length_le_escaped (s : List Char) : s.length ≤ (escaped s).length := by
  induction s with
  | nil => simp [escaped]
  | cons c s ih =>
    have one := shortEscape_length c
    simp only [escaped, List.flatMap_cons, List.length_append, List.length_cons] at ih ⊢
    omega

theorem escaped_kept_length (room : Nat) (s : List Char) :
    (escaped (kept room s)).length ≤ room + 1 := by
  by_cases none : kept room s = []
  next => simp [none, escaped]
  next =>
    have left := kept_fits room s none
    have last := shortEscape_length ((kept room s).getLast none)
    rw [← List.dropLast_concat_getLast none]
    simp only [escaped, List.flatMap_append, List.length_append, List.flatMap_singleton] at left ⊢
    omega

end Json
