import Kerchunk.Config.Ini
import Mathlib.Algebra.Order.BigOperators.Group.List
import Mathlib.Algebra.Ring.Int.Defs
import Mathlib.Data.List.TakeWhile

set_option autoImplicit false

/-!
# Numbers and durations (`src/kerchunk_config.c`)

An `int` is an integer that every operation wraps to 32 bits.
-/

namespace Kerchunk.Config

def wrap (x : Int) : Int :=
  Int.bmod x 4294967296

def isDigit (c : Char) : Bool :=
  48 ≤ c.toNat && c.toNat ≤ 57

def digit (c : Char) : Int :=
  c.toNat - 48

def atoi (digits : Text) : Int :=
  -- `atoi` of a string of digits: `strtol` stops at the largest `long`.
  wrap (min (digits.foldl (fun val c => val * 10 + digit c) 0) 9223372036854775807)

def atoiText (text : Text) : Int :=
  -- `atoi` of any text: blanks, a sign and the digits that follow.
  match text.dropWhile isspace with
  | '-' :: rest =>
    let digits := rest.takeWhile isDigit
    wrap (max (-(digits.foldl (fun val c => val * 10 + digit c) 0)) (-9223372036854775808))
  | '+' :: rest => atoi (rest.takeWhile isDigit)
  | rest => atoi (rest.takeWhile isDigit)

def fracMs (places : Text) : Int :=
  -- The first three places of a fraction, in thousandths.
  ((places ++ ['0', '0', '0']).take 3).foldl (fun frac c => frac * 10 + digit c) 0

def parseNumberMs (p : Text) : Int × Text :=
  -- The number in thousandths, and what stands after it.
  let val := (p.takeWhile isDigit).foldl (fun val c => wrap (val * 10 + digit c)) 0
  match p.dropWhile isDigit with
  | '.' :: rest =>
    (wrap (wrap (val * 1000) + fracMs (rest.takeWhile isDigit)), rest.dropWhile isDigit)
  | rest => (wrap (val * 1000), rest)

def durationUnit (milliUnits : Int) : Text → Option (Int × Text)
  -- What a number with this unit adds to the total, and what stands after the unit.
  | 'm' :: 's' :: rest => some (milliUnits.tdiv 1000, rest)
  | 'h' :: rest =>
    some (wrap (wrap (milliUnits.tdiv 1000 * 3600000) + milliUnits.tmod 1000 * 3600), rest)
  | 'm' :: rest =>
    some (wrap (wrap (milliUnits.tdiv 1000 * 60000) + milliUnits.tmod 1000 * 60), rest)
  | 's' :: rest =>
    some (wrap (wrap (milliUnits.tdiv 1000 * 1000) + milliUnits.tmod 1000), rest)
  | _ => none

-- Every round takes a digit at least, so the length of the text bounds their number.
def durationTotal : Nat → Int → Text → Option Int
  | 0, total, _ => some total
  | rounds + 1, total, text =>
    match text.dropWhile (· = ' ') with
    | [] => some total
    | c :: rest =>
      if isDigit c then
        let number := parseNumberMs (c :: rest)
        match durationUnit number.1 number.2 with
        | some (ms, next) => durationTotal rounds (wrap (total + ms)) next
        | none => none
      else none

def parseDurationMs (str : Text) (defaultMs : Int) : Int :=
  if str = [] then defaultMs
  else if str.all isDigit then atoi str
  else
    match durationTotal str.length 0 str with
    | some total => if total > 0 then total else defaultMs
    | none => defaultMs

def configGetDurationMs (cfg : KerchunkConfig) (sectionName key : Text) (defaultMs : Int) : Int :=
  match configGet cfg sectionName key with
  | some v => parseDurationMs v defaultMs
  | none => defaultMs

def parseDurationS (str : Text) (defaultS : Int) : Int :=
  -- A plain number is of seconds.
  if str = [] then defaultS
  else if str.all isDigit then atoi str
  else (parseDurationMs str (wrap (defaultS * 1000))).tdiv 1000

def configGetDurationS (cfg : KerchunkConfig) (sectionName key : Text) (defaultS : Int) : Int :=
  match configGet cfg sectionName key with
  | some v => parseDurationS v defaultS
  | none => defaultS

example : parseDurationMs "1m2.5s".toList 7 = 62500 := by decide

end Kerchunk.Config

/-!
## What a duration is written as, and what is read (`src/kerchunk_config.c`)

A duration is a plain number of milliseconds or a sequence of numbers with units. A number has its
fraction to the thousandth, and a number of milliseconds is taken whole.
-/

namespace Kerchunk.Config

def intMax : Int := 2147483647

def numeral (digits : Text) : Int :=
  digits.foldl (fun val c => val * 10 + digit c) 0

inductive DurationUnit where
  | ms
  | s
  | m
  | h
deriving DecidableEq

def DurationUnit.text : DurationUnit → Text
  | .ms => ['m', 's']
  | .s => ['s']
  | .m => ['m']
  | .h => ['h']

structure DurationTerm where
  blanks : Nat
  whole : Text
  frac : Option Text
  unit : DurationUnit
  wholeDigits : whole ≠ [] ∧ ∀ c ∈ whole, isDigit c = true
  fracDigits : ∀ f ∈ frac, ∀ c ∈ f, isDigit c = true

def pointText : Option Text → Text
  | none => []
  | some places => '.' :: places

namespace DurationTerm

def text (t : DurationTerm) : Text :=
  List.replicate t.blanks ' ' ++ (t.whole ++ (pointText t.frac ++ t.unit.text))

def thousandths (t : DurationTerm) : Int :=
  numeral t.whole * 1000 + (t.frac.map fracMs).getD 0

def total (t : DurationTerm) : Int :=
  match t.unit with
  | .ms => t.thousandths / 1000
  | .s => t.thousandths
  | .m => t.thousandths * 60
  | .h => t.thousandths * 3600

/-- What 32 bits leave of a term: of milliseconds, the thousandths are reduced before they are divided
again. -/
def kept (t : DurationTerm) : Int :=
  match t.unit with
  | .ms => (wrap t.thousandths).tdiv 1000
  | _ => t.total

end DurationTerm

inductive Duration where
  | plain (digits : Text) (written : digits ≠ [] ∧ ∀ c ∈ digits, isDigit c = true)
  | compound (terms : List DurationTerm) (some : terms ≠ []) (blanks : Nat)

def termsText (terms : List DurationTerm) (blanks : Nat) : Text :=
  terms.flatMap DurationTerm.text ++ List.replicate blanks ' '

namespace Duration

def text : Duration → Text
  | plain digits _ => digits
  | compound terms _ blanks => termsText terms blanks

def total : Duration → Int
  | plain digits _ => numeral digits
  | compound terms _ _ => (terms.map DurationTerm.total).sum

/-- The total fits, is not zero and no number of milliseconds has too many thousandths; or the total
does not fit and its low 32 bits are of no positive number. -/
def Kept : Duration → Prop
  | plain digits _ => numeral digits ≤ intMax
  | compound terms _ _ =>
    if (terms.map DurationTerm.total).sum ≤ intMax then
      0 < (terms.map DurationTerm.total).sum ∧ ∀ t ∈ terms, t.unit = .ms → t.thousandths ≤ intMax
    else wrap (terms.map DurationTerm.kept).sum ≤ 0

end Duration

/-- A duration whose total fits is read as that total, and any other text as the default. -/
def ReadsExactly (str : Text) : Prop :=
  ∀ defaultMs,
    (∀ d : Duration, d.text = str →
      parseDurationMs str defaultMs = if d.total ≤ intMax then d.total else defaultMs) ∧
    ((∀ d : Duration, d.text ≠ str) → parseDurationMs str defaultMs = defaultMs)

/-! ### Numbers -/

theorem digit_bounds {c : Char} (isDigit_c : isDigit c = true) : 0 ≤ digit c ∧ digit c ≤ 9 := by
  rw [isDigit, Bool.and_eq_true, decide_eq_true_eq, decide_eq_true_eq] at isDigit_c
  unfold digit
  omega

theorem foldl_digits_nonneg {digits : Text} (all : ∀ c ∈ digits, isDigit c = true) {v : Int}
    (start : 0 ≤ v) : 0 ≤ digits.foldl (fun val c => val * 10 + digit c) v := by
  induction digits generalizing v with
  | nil => exact start
  | cons c rest ih =>
    obtain ⟨first, later⟩ := List.forall_mem_cons.mp all
    have low := (digit_bounds first).1
    refine ih later ?_
    dsimp only
    omega

theorem numeral_nonneg {digits : Text} (all : ∀ c ∈ digits, isDigit c = true) :
    0 ≤ numeral digits :=
  foldl_digits_nonneg all (Int.le_refl 0)

theorem fracMs_bounds {places : Text} (all : ∀ c ∈ places, isDigit c = true) :
    0 ≤ fracMs places ∧ fracMs places ≤ 999 := by
  have three : ∃ a b c, (places ++ ['0', '0', '0']).take 3 = [a, b, c] ∧
      isDigit a = true ∧ isDigit b = true ∧ isDigit c = true := by
    match places with
    | [] => exact ⟨_, _, _, rfl, rfl, rfl, rfl⟩
    | [a] => exact ⟨_, _, _, rfl, by simpa using all, rfl, rfl⟩
    | [a, b] =>
      simp only [List.forall_mem_cons] at all
      exact ⟨_, _, _, rfl, all.1, all.2.1, rfl⟩
    | a :: b :: c :: rest =>
      simp only [List.forall_mem_cons] at all
      exact ⟨_, _, _, rfl, all.1, all.2.1, all.2.2.1⟩
  obtain ⟨a, b, c, taken, digitA, digitB, digitC⟩ := three
  have := digit_bounds digitA
  have := digit_bounds digitB
  have := digit_bounds digitC
  rw [fracMs, taken]
  simp only [List.foldl_cons, List.foldl_nil]
  omega

theorem wrap_bounds (x : Int) : -2147483648 ≤ wrap x ∧ wrap x ≤ intMax := by
  have low := Int.le_bmod (x := x) (m := 4294967296) (by decide)
  have high := Int.bmod_lt (x := x) (m := 4294967296) (by decide)
  unfold wrap intMax
  omega

theorem wrap_of_fits {x : Int} (low : -2147483648 ≤ x) (high : x ≤ intMax) : wrap x = x := by
  unfold intMax at high
  exact Int.bmod_eq_of_le (by omega) (by omega)

@[simp] theorem wrap_wrap (x : Int) : wrap (wrap x) = wrap x := Int.bmod_bmod

@[simp] theorem wrap_add_wrap (x y : Int) : wrap (x + wrap y) = wrap (x + y) := Int.add_bmod_bmod

@[simp] theorem wrap_wrap_add (x y : Int) : wrap (wrap x + y) = wrap (x + y) := Int.bmod_add_bmod

@[simp] theorem wrap_wrap_mul (x y : Int) : wrap (wrap x * y) = wrap (x * y) := Int.bmod_mul_bmod

theorem foldl_wrap (digits : Text) (v : Int) :
    digits.foldl (fun val c => wrap (val * 10 + digit c)) (wrap v) =
      wrap (digits.foldl (fun val c => val * 10 + digit c) v) := by
  induction digits generalizing v with
  | nil => rfl
  | cons c rest ih =>
    rw [List.foldl_cons, List.foldl_cons, ← ih, ← wrap_wrap_add, wrap_wrap_mul, wrap_wrap_add]

/-- `atoi` reads a number that an `int` can hold. -/
theorem atoiText_digits {digits : Text} (all : ∀ c ∈ digits, isDigit c = true)
    (fits : numeral digits ≤ intMax) : atoiText digits = numeral digits := by
  have whole : digits.takeWhile isDigit = digits := List.takeWhile_eq_self_iff.mpr all
  have read : atoi digits = numeral digits := by
    have low := numeral_nonneg all
    rw [atoi, show digits.foldl _ 0 = numeral digits from rfl,
      min_eq_left (by unfold intMax at fits; omega)]
    exact wrap_of_fits (by omega) fits
  cases digits with
  | nil => rfl
  | cons c rest =>
    have isDigit_c := all c List.mem_cons_self
    have solid : isspace c = false := by
      simp only [isDigit, Bool.and_eq_true, decide_eq_true_eq] at isDigit_c
      simp only [isspace, Bool.or_eq_false_iff, Bool.and_eq_false_iff, decide_eq_false_iff_not]
      omega
    unfold atoiText
    rw [List.dropWhile_cons_of_neg (by simp [solid])]
    split
    next same => exact absurd ((List.cons.inj same).1 ▸ isDigit_c) (by decide)
    next same => exact absurd ((List.cons.inj same).1 ▸ isDigit_c) (by decide)
    next => rw [whole, read]

/-! ### One term -/

theorem takeWhile_digits {digits rest : Text} (all : ∀ c ∈ digits, isDigit c = true)
    (ends : ∀ c ∈ rest.head?, isDigit c = false) :
    (digits ++ rest).takeWhile isDigit = digits ∧ (digits ++ rest).dropWhile isDigit = rest := by
  rw [List.takeWhile_append_of_pos all, List.dropWhile_append_of_pos all]
  cases rest with
  | nil => simp
  | cons c rest => simp [ends c rfl]

theorem parseNumberMs_term (t : DurationTerm) {rest : Text}
    (ends : ∀ c ∈ rest.head?, isDigit c = false ∧ c ≠ '.') :
    parseNumberMs (t.whole ++ (pointText t.frac ++ rest)) = (wrap t.thousandths, rest) := by
  have value (digits : Text) : digits.foldl (fun val c => wrap (val * 10 + digit c)) 0 =
      wrap (numeral digits) := foldl_wrap digits 0
  obtain ⟨blanks, whole, frac, unit, ⟨_, wholeDigits⟩, fracDigits⟩ := t
  unfold parseNumberMs DurationTerm.thousandths
  cases frac with
  | none =>
    obtain ⟨taken, left⟩ := takeWhile_digits wholeDigits fun c head => (ends c head).1
    simp only [pointText, List.nil_append, taken, left, value, Option.map_none, Option.getD_none,
      add_zero]
    cases rest with
    | nil => simp
    | cons c rest =>
      have other := (ends c rfl).2
      simp [other]
  | some places =>
    obtain ⟨taken, left⟩ := @takeWhile_digits _ ('.' :: (places ++ rest)) wholeDigits
      fun c head => by cases head; rfl
    obtain ⟨takenPlaces, leftPlaces⟩ := takeWhile_digits (fracDigits places rfl)
      fun c head => (ends c head).1
    simp only [pointText, List.cons_append, taken, left, takenPlaces, leftPlaces, value,
      wrap_wrap_mul, wrap_wrap_add, Option.map_some, Option.getD_some]

/-- A unit of `1000 * k` milliseconds, as its number is taken apart and put together. -/
theorem unit_wrap (mu k : Int) :
    wrap (wrap ((wrap mu).tdiv 1000 * (1000 * k)) + (wrap mu).tmod 1000 * k) = wrap (mu * k) := by
  have whole := Int.tmod_add_mul_tdiv (wrap mu) 1000
  rw [wrap_wrap_add, ← Int.mul_assoc, ← Int.add_mul, Int.add_comm, Int.mul_comm _ (1000 : Int), whole,
    wrap_wrap_mul]

theorem durationUnit_term (t : DurationTerm) {rest : Text} (ends : ∀ c ∈ rest.head?, c ≠ 's') :
    ∃ x, durationUnit (wrap t.thousandths) (t.unit.text ++ rest) = some (x, rest) ∧
      wrap x = wrap t.kept := by
  unfold DurationTerm.kept DurationTerm.total
  cases t.unit with
  | ms => exact ⟨_, rfl, rfl⟩
  | s =>
    refine ⟨_, rfl, ?_⟩
    have joined := unit_wrap t.thousandths 1
    rw [Int.mul_one, Int.mul_one] at joined
    simpa using joined
  | m =>
    refine ⟨_, ?_, (wrap_wrap _).trans (unit_wrap t.thousandths 60)⟩
    cases rest with
    | nil => rfl
    | cons c rest => simp [DurationUnit.text, durationUnit, ends c rfl]
  | h => exact ⟨_, rfl, (wrap_wrap _).trans (unit_wrap t.thousandths 3600)⟩

/-! ### The loop -/

theorem termsText_cons (t : DurationTerm) (terms : List DurationTerm) (blanks : Nat) :
    termsText (t :: terms) blanks =
      List.replicate t.blanks ' ' ++
        (t.whole ++ (pointText t.frac ++ (t.unit.text ++ termsText terms blanks))) := by
  simp [termsText, DurationTerm.text]

/-- What stands behind a term begins with a blank or a digit. -/
theorem termsText_head (terms : List DurationTerm) (blanks : Nat) :
    ∀ c ∈ (termsText terms blanks).head?, c = ' ' ∨ isDigit c = true := by
  intro c head
  cases terms with
  | nil =>
    refine .inl (List.eq_of_mem_replicate (n := blanks) (List.mem_of_mem_head? ?_))
    simpa [termsText] using head
  | cons t terms =>
    obtain ⟨some, digits⟩ := t.wholeDigits
    obtain ⟨d, rest, same⟩ := List.exists_cons_of_ne_nil some
    cases count : t.blanks with
    | zero =>
      rw [termsText_cons, count, same] at head
      obtain rfl : d = c := Option.some.inj head
      exact .inr (digits d (by rw [same]; exact List.mem_cons_self))
    | succ n =>
      rw [termsText_cons, count] at head
      exact .inl (Option.some.inj head).symm

theorem dropWhile_blanks (n : Nat) (rest : Text) :
    (List.replicate n ' ' ++ rest).dropWhile (· = ' ') = rest.dropWhile (· = ' ') :=
  List.dropWhile_append_of_pos fun _ member => decide_eq_true (List.eq_of_mem_replicate member)

theorem durationTotal_terms (terms : List DurationTerm) (blanks rounds : Nat) (total : Int)
    (enough : (termsText terms blanks).length ≤ rounds) :
    durationTotal rounds (wrap total) (termsText terms blanks) =
      some (wrap (total + (terms.map DurationTerm.kept).sum)) := by
  induction terms generalizing rounds total with
  | nil =>
    cases rounds with
    | zero => simp [durationTotal]
    | succ rounds =>
      have empty := dropWhile_blanks blanks []
      rw [List.append_nil] at empty
      simp [durationTotal, termsText, empty]
  | cons t terms ih =>
    have head := termsText_head terms blanks
    have unit_head : ∀ c ∈ (t.unit.text ++ termsText terms blanks).head?,
        isDigit c = false ∧ c ≠ '.' := by
      cases t.unit <;> rintro _ ⟨⟩ <;> decide
    have number := parseNumberMs_term t unit_head
    obtain ⟨x, unit, keeps⟩ := @durationUnit_term t (termsText terms blanks) fun c first => by
      rintro rfl
      rcases head _ first with blank | digit
      next => exact absurd blank (by decide)
      next => exact absurd digit (by decide)
    obtain ⟨some, digits⟩ := t.wholeDigits
    obtain ⟨c, more, same⟩ := List.exists_cons_of_ne_nil some
    have digit : isDigit c = true := digits c (by rw [same]; exact List.mem_cons_self)
    rw [termsText_cons] at enough ⊢
    have dropped : (List.replicate t.blanks ' ' ++
        (t.whole ++ (pointText t.frac ++ (t.unit.text ++ termsText terms blanks)))).dropWhile
          (· = ' ') =
        t.whole ++ (pointText t.frac ++ (t.unit.text ++ termsText terms blanks)) := by
      rw [dropWhile_blanks, same, List.cons_append]
      refine List.dropWhile_cons_of_neg ?_
      simp only [decide_eq_true_eq]
      rintro rfl
      exact absurd digit (by decide)
    cases rounds with
    | zero =>
      simp [same] at enough
    | succ rounds =>
      have left : (termsText terms blanks).length ≤ rounds := by
        simp only [same, List.length_append, List.length_cons] at enough
        omega
      rw [durationTotal, dropped]
      rw [same, List.cons_append] at number ⊢
      dsimp only
      rw [if_pos digit, number]
      dsimp only
      rw [unit]
      dsimp only
      rw [ih _ _ left, List.map_cons, List.sum_cons, Int.add_assoc, wrap_wrap_add, ← Int.add_assoc,
        Int.add_right_comm, ← wrap_add_wrap, keeps, wrap_add_wrap, Int.add_right_comm, Int.add_assoc]

theorem takeWhile_isDigit (p : Text) : ∀ c ∈ p.takeWhile isDigit, isDigit c = true :=
  fun _ member => List.mem_takeWhile_imp member

theorem parseNumberMs_split (p : Text) :
    ∃ frac, p = p.takeWhile isDigit ++ (pointText frac ++ (parseNumberMs p).2) ∧
      ∀ f ∈ frac, ∀ c ∈ f, isDigit c = true := by
  have whole := List.takeWhile_append_dropWhile (p := isDigit) (l := p)
  unfold parseNumberMs
  dsimp only
  split
  next rest after =>
    refine ⟨some (rest.takeWhile isDigit), ?_, fun f member => ?_⟩
    next =>
      simp only [pointText, List.cons_append, List.takeWhile_append_dropWhile]
      rw [← after, whole]
    next =>
      cases member
      exact takeWhile_isDigit rest
  next => exact ⟨none, whole.symm, fun f member => by cases member⟩

theorem durationUnit_split {mu x : Int} {p next : Text} (found : durationUnit mu p = some (x, next)) :
    ∃ u : DurationUnit, p = u.text ++ next := by
  unfold durationUnit at found
  split at found <;> cases found
  next => exact ⟨.ms, rfl⟩
  next => exact ⟨.h, rfl⟩
  next => exact ⟨.m, rfl⟩
  next => exact ⟨.s, rfl⟩

theorem durationTotal_written {rounds : Nat} {total r : Int} {text : Text}
    (enough : text.length ≤ rounds) (read : durationTotal rounds total text = some r) :
    ∃ terms blanks, text = termsText terms blanks := by
  induction rounds generalizing total text with
  | zero =>
    obtain rfl := List.eq_nil_of_length_eq_zero (Nat.le_zero.mp enough)
    exact ⟨[], 0, rfl⟩
  | succ rounds ih =>
    have split := List.takeWhile_append_dropWhile (p := fun c => decide (c = ' ')) (l := text)
    have blank : text.takeWhile (· = ' ') =
        List.replicate (text.takeWhile (· = ' ')).length ' ' :=
      List.eq_replicate_of_mem fun _ member => of_decide_eq_true
        (List.mem_takeWhile_imp (p := fun c => decide (c = ' ')) member)
    rw [durationTotal] at read
    cases dropped : text.dropWhile (· = ' ') with
    | nil =>
      rw [dropped, List.append_nil] at split
      refine ⟨[], (text.takeWhile (· = ' ')).length, ?_⟩
      rw [termsText, List.flatMap_nil, List.nil_append, ← blank, split]
    | cons c rest =>
      rw [dropped] at read split
      dsimp only at read
      by_cases digit : isDigit c = true
      next =>
        rw [if_pos digit] at read
        cases unit : durationUnit (parseNumberMs (c :: rest)).1 (parseNumberMs (c :: rest)).2 with
        | none =>
          rw [unit] at read
          cases read
        | some found =>
          rw [unit] at read
          obtain ⟨frac, number, fracDigits⟩ := parseNumberMs_split (c :: rest)
          obtain ⟨u, tail⟩ := durationUnit_split unit
          have wholeSome : (c :: rest).takeWhile isDigit ≠ [] := by
            simp [digit]
          let t : DurationTerm :=
            { blanks := (text.takeWhile (· = ' ')).length
              whole := (c :: rest).takeWhile isDigit
              frac := frac
              unit := u
              wholeDigits := ⟨wholeSome, takeWhile_isDigit _⟩
              fracDigits := fracDigits }
          have text_eq : text = List.replicate t.blanks ' ' ++
              (t.whole ++ (pointText t.frac ++ (t.unit.text ++ found.2))) := by
            rw [← tail, ← number, ← blank, split]
          have shorter : found.2.length ≤ rounds := by
            have lengths := congrArg List.length text_eq
            have some := List.length_pos_iff.mpr t.wholeDigits.1
            simp only [List.length_append] at lengths
            omega
          obtain ⟨terms, blanks, next⟩ := ih shorter read
          exact ⟨t :: terms, blanks, by rw [termsText_cons, ← next]; exact text_eq⟩
      next =>
        rw [if_neg digit] at read
        cases read

/-! ### The total -/

theorem DurationTerm.thousandths_nonneg (t : DurationTerm) : 0 ≤ t.thousandths := by
  have whole := numeral_nonneg t.wholeDigits.2
  have frac : 0 ≤ (t.frac.map fracMs).getD 0 := by
    cases written : t.frac with
    | none => exact Int.le_refl 0
    | some places => exact (fracMs_bounds (t.fracDigits places written)).1
  unfold DurationTerm.thousandths
  omega

theorem tdiv_bounds {w : Int} (low : -2147483648 ≤ w) (high : w ≤ intMax) :
    -2147483 ≤ w.tdiv 1000 ∧ w.tdiv 1000 ≤ 2147483 ∧ (w < 0 → w.tdiv 1000 ≤ 0) := by
  unfold intMax at high
  rcases Int.le_total 0 w with positive | negative
  next =>
    rw [Int.tdiv_eq_ediv_of_nonneg positive]
    omega
  next =>
    have opposite := Int.neg_tdiv (a := w) (b := 1000)
    rw [Int.tdiv_eq_ediv_of_nonneg (show 0 ≤ -w by omega)] at opposite
    omega

/-- What is kept of a term is no more than its total, and the total itself unless the term is a number
of milliseconds with too many thousandths. -/
theorem DurationTerm.kept_le (t : DurationTerm) : 0 ≤ t.total ∧ -t.total ≤ t.kept ∧
    (t.kept = t.total ∨ t.kept < t.total) ∧
    (t.kept = t.total ↔ (t.unit = .ms → t.thousandths ≤ intMax)) := by
  have low := t.thousandths_nonneg
  unfold DurationTerm.total DurationTerm.kept DurationTerm.total
  cases t.unit with
  | ms =>
    simp only [forall_const]
    by_cases fits : t.thousandths ≤ intMax
    next =>
      rw [wrap_of_fits (by omega) fits, Int.tdiv_eq_ediv_of_nonneg low]
      omega
    next =>
      -- The wrapped thousandths are below 2147484 thousands, and negative just past the limit.
      have bounds := wrap_bounds t.thousandths
      have past (near : t.thousandths < 4294967296) : wrap t.thousandths = t.thousandths - 4294967296 := by
        rw [← wrap_of_fits (x := t.thousandths - 4294967296)] <;> unfold intMax at *
        next => exact (Int.sub_bmod_right _ 4294967296).symm
        next => omega
        next => omega
      have divided := tdiv_bounds bounds.1 bounds.2
      unfold intMax at *
      omega
  | s | m | h =>
    simp
    omega

variable {terms : List DurationTerm}

theorem total_nonneg (terms : List DurationTerm) : 0 ≤ (terms.map DurationTerm.total).sum := by
  refine List.sum_nonneg fun x member => ?_
  obtain ⟨t, _, rfl⟩ := List.mem_map.mp member
  exact t.kept_le.1

theorem kept_sum (terms : List DurationTerm) :
    -(terms.map DurationTerm.total).sum ≤ (terms.map DurationTerm.kept).sum ∧
      (terms.map DurationTerm.kept).sum ≤ (terms.map DurationTerm.total).sum ∧
      ((terms.map DurationTerm.kept).sum = (terms.map DurationTerm.total).sum ↔
        ∀ t ∈ terms, t.unit = .ms → t.thousandths ≤ intMax) := by
  induction terms with
  | nil => simp
  | cons t terms ih =>
    obtain ⟨low, high, exact⟩ := ih
    obtain ⟨_, keptLow, keptHigh, keptExact⟩ := t.kept_le
    rw [List.forall_mem_cons, ← exact, ← keptExact]
    simp only [List.map_cons, List.sum_cons]
    omega

/-! ### What is read -/

theorem parse_plain {digits : Text} (written : digits ≠ [] ∧ ∀ c ∈ digits, isDigit c = true)
    (defaultMs : Int) : parseDurationMs digits defaultMs = atoi digits := by
  rw [parseDurationMs, if_neg written.1, if_pos (List.all_eq_true.mpr written.2)]

theorem parse_terms {blanks : Nat} (some : terms ≠ []) (defaultMs : Int) :
    parseDurationMs (termsText terms blanks) defaultMs =
      if 0 < wrap (terms.map DurationTerm.kept).sum then wrap (terms.map DurationTerm.kept).sum
      else defaultMs := by
  obtain ⟨t, rest, rfl⟩ := List.exists_cons_of_ne_nil some
  have unit : ∃ c ∈ termsText (t :: rest) blanks, isDigit c = false := by
    rw [termsText_cons]
    cases t.unit with
    | ms | s => exact ⟨'s', by simp [DurationUnit.text], rfl⟩
    | m => exact ⟨'m', by simp [DurationUnit.text], rfl⟩
    | h => exact ⟨'h', by simp [DurationUnit.text], rfl⟩
  obtain ⟨c, member, letter⟩ := unit
  have notPlain : (termsText (t :: rest) blanks).all isDigit = false :=
    List.all_eq_false.mpr ⟨c, member, by simp [letter]⟩
  have read := durationTotal_terms (t :: rest) blanks _ 0 (Nat.le_refl _)
  rw [wrap_of_fits (by decide) (by decide), Int.zero_add] at read
  rw [parseDurationMs, if_neg (List.ne_nil_of_mem member), notPlain, if_neg (by decide), read]

theorem parse_other {str : Text} (other : ∀ d : Duration, d.text ≠ str) (defaultMs : Int) :
    parseDurationMs str defaultMs = defaultMs := by
  unfold parseDurationMs
  split
  next => rfl
  next some =>
    split
    next digits => exact absurd rfl (other (.plain str ⟨some, List.all_eq_true.mp digits⟩))
    next =>
      split
      next total read =>
        obtain ⟨terms, blanks, rfl⟩ := durationTotal_written (Nat.le_refl _) read
        cases terms with
        | nil =>
          have none := durationTotal_terms [] blanks _ 0 (Nat.le_refl _)
          rw [wrap_of_fits (by decide) (by decide), read] at none
          obtain rfl := Option.some.inj none
          rfl
        | cons t terms => exact absurd rfl (other (.compound (t :: terms) (List.cons_ne_nil _ _) blanks))
      next => rfl

theorem plain_reads_iff {digits : Text} (written : digits ≠ [] ∧ ∀ c ∈ digits, isDigit c = true) :
    (∀ defaultMs, parseDurationMs digits defaultMs =
      if numeral digits ≤ intMax then numeral digits else defaultMs) ↔ numeral digits ≤ intMax := by
  have low := numeral_nonneg written.2
  constructor
  next =>
    intro reads
    by_contra large
    have zero := reads 0
    have one := reads 1
    rw [parse_plain written, if_neg large] at zero one
    exact absurd (zero.symm.trans one) (by decide)
  next =>
    intro fits defaultMs
    rw [parse_plain written, if_pos fits]
    unfold intMax at fits
    rw [atoi, show digits.foldl _ 0 = numeral digits from rfl, min_eq_left (by omega)]
    exact wrap_of_fits (by omega) fits

theorem terms_reads_iff {blanks : Nat} (some : terms ≠ []) :
    (∀ defaultMs, parseDurationMs (termsText terms blanks) defaultMs =
      if (terms.map DurationTerm.total).sum ≤ intMax then (terms.map DurationTerm.total).sum
      else defaultMs) ↔ (Duration.compound terms some blanks).Kept := by
  obtain ⟨low, high, exact⟩ := kept_sum terms
  have positive := total_nonneg terms
  simp only [parse_terms some, Duration.Kept]
  generalize (terms.map DurationTerm.kept).sum = kept at *
  generalize (terms.map DurationTerm.total).sum = total at *
  by_cases fits : total ≤ intMax
  next =>
    have small : wrap kept = kept := wrap_of_fits (by unfold intMax at fits; omega) (by omega)
    simp only [if_pos fits, small, ← exact]
    constructor
    next =>
      intro reads
      have other := reads (total + 1)
      split at other <;> omega
    next =>
      rintro ⟨some, rfl⟩ defaultMs
      rw [if_pos some]
  next =>
    simp only [if_neg fits]
    constructor
    next =>
      intro reads
      by_contra counts
      have other := reads (wrap kept + 1)
      rw [if_pos (by omega)] at other
      omega
    next =>
      intro negative defaultMs
      rw [if_neg (by omega)]

/-- A text is read exactly, whatever the default, if and only if each duration that it is the text of
is kept. -/
theorem reads_exactly_iff (str : Text) :
    ReadsExactly str ↔ ∀ d : Duration, d.text = str → d.Kept := by
  have each (d : Duration) : (∀ defaultMs, parseDurationMs d.text defaultMs =
      if d.total ≤ intMax then d.total else defaultMs) ↔ d.Kept := by
    cases d with
    | plain digits written => exact plain_reads_iff written
    | compound terms some blanks => exact terms_reads_iff some
  constructor
  next =>
    rintro reads d rfl
    exact (each d).mp fun defaultMs => (reads defaultMs).1 d rfl
  next =>
    refine fun kept defaultMs => ⟨?_, fun other => parse_other other defaultMs⟩
    rintro d rfl
    exact (each d).mpr (kept d rfl) defaultMs

/-- Fifty minutes, written in milliseconds with their unit, are not read. -/
theorem fifty_minutes_lost : ¬ ReadsExactly "3000000ms".toList := by
  intro reads
  have total := (reads 0).1 (.compound
    [{ blanks := 0
       whole := "3000000".toList
       frac := none
       unit := .ms
       wholeDigits := ⟨by decide, List.all_eq_true.mp (by decide)⟩
       fracDigits := by decide }] (by decide) 0) (by decide)
  exact absurd total (by decide)

end Kerchunk.Config
