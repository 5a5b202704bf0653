import Kerchunk.Lib.CString
import Mathlib.Algebra.GroupWithZero.Nat

set_option autoImplicit false

/-!
# Flat JSON objects

A reader of objects without blanks whose values are strings, numbers and truth values, and what it
makes of a record whose strings were written as they are.
-/

namespace Json

/-! ## Strings -/

def hexValue (c : Char) : Option Nat :=
  if '0' ≤ c ∧ c ≤ '9' then some (c.toNat - 48)
  else if 'a' ≤ c ∧ c ≤ 'f' then some (c.toNat - 87)
  else if 'A' ≤ c ∧ c ≤ 'F' then some (c.toNat - 55)
  else none

def codeUnit (digits : List Char) : Option Char :=
  -- Surrogates are refused.
  (digits.mapM hexValue).bind fun values =>
    let n := values.foldl (fun n digit => 16 * n + digit) 0
    if n.isValidChar then some (Char.ofNat n) else none

def simpleEscape (c : Char) : Option Char :=
  if c = '"' ∨ c = '\\' ∨ c = '/' then some c
  else if c = 'b' then some (Char.ofNat 8)
  else if c = 'f' then some (Char.ofNat 12)
  else if c = 'n' then some '\n'
  else if c = 'r' then some '\r'
  else if c = 't' then some '\t'
  else none

def escape : List Char → Option (Char × List Char)
  -- What stands behind a backslash.
  | 'u' :: a :: b :: c :: d :: rest => (codeUnit [a, b, c, d]).map fun decoded => (decoded, rest)
  | c :: rest => (simpleEscape c).map fun decoded => (decoded, rest)
  | [] => none

theorem length_escape {text rest : List Char} {c : Char} (found : escape text = some (c, rest)) :
    rest.length < text.length := by
  unfold escape at found
  split at found
  next =>
    simp only [Option.map_eq_some_iff, Prod.mk.injEq] at found
    obtain ⟨_, _, _, rfl⟩ := found
    simp
    omega
  next =>
    simp only [Option.map_eq_some_iff, Prod.mk.injEq] at found
    obtain ⟨_, _, _, rfl⟩ := found
    simp
  next => cases found

def readString : Nat → List Char → Option (List Char × List Char)
  -- The string up to the closing quote, and what follows it.
  | 0, _ => none
  | _ + 1, [] => none
  | fuel + 1, c :: rest =>
    if c = '"' then some ([], rest)
    else if c = '\\' then
      (escape rest).bind fun e => (readString fuel e.2).map fun r => (e.1 :: r.1, r.2)
    else if c.toNat < 0x20 then none
    else (readString fuel rest).map fun r => (c :: r.1, r.2)

def plainChar (c : Char) : Bool :=
  c ≠ '"' && c ≠ '\\' && decide (0x20 ≤ c.toNat)

def Plain (s : List Char) : Prop :=
  -- The string needs no escape.
  ∀ c ∈ s, plainChar c = true

instance (s : List Char) : Decidable (Plain s) :=
  List.decidableBAll _ s

theorem plainChar_iff {c : Char} : plainChar c = true ↔ c ≠ '"' ∧ c ≠ '\\' ∧ ¬ c.toNat < 0x20 := by
  simp [plainChar, and_assoc]

theorem readString_plain {s : List Char} (plain : Plain s) (rest : List Char) {fuel : Nat}
    (enough : s.length < fuel) : readString fuel (s ++ '"' :: rest) = some (s, rest) := by
  induction s generalizing fuel with
  | nil =>
    obtain ⟨fuel, rfl⟩ := Nat.exists_eq_succ_of_ne_zero (Nat.ne_of_gt enough)
    simp [readString]
  | cons c s ih =>
    obtain ⟨fuel, rfl⟩ := Nat.exists_eq_succ_of_ne_zero (Nat.ne_of_gt (Nat.zero_lt_of_lt enough))
    obtain ⟨noQuote, noEscape, printable⟩ := plainChar_iff.mp (plain c (by simp))
    have later := ih (fun d member => plain d (by simp [member])) (by simpa using enough)
    simp [readString, noQuote, noEscape, printable, later]

theorem hexValue_quote : hexValue '"' = none := by
  decide

theorem codeUnit_quote {digits : List Char} (quoted : '"' ∈ digits) : codeUnit digits = none := by
  have refused : digits.mapM hexValue = none := by
    induction digits with
    | nil => cases quoted
    | cons d digits ih =>
      rw [List.mapM_cons]
      rcases List.mem_cons.mp quoted with rfl | later
      next => simp [hexValue_quote]
      next => cases hexValue d <;> simp [ih later]
  simp [codeUnit, refused]

theorem escape_consumes {u rest after : List Char} {c : Char}
    (found : escape (u ++ '"' :: rest) = some (c, after)) (other : c ≠ '"') :
    ∃ consumed u', u = consumed ++ u' ∧ after = u' ++ '"' :: rest ∧ consumed ≠ [] ∧
      '"' ∉ consumed := by
  -- An escape that stands for no quote lies before the next quote.
  unfold escape at found
  split at found
  next text a b d e later same =>
    simp only [Option.map_eq_some_iff, Prod.mk.injEq] at found
    obtain ⟨decoded, hex, rfl, rfl⟩ := found
    have unquoted : '"' ∉ [a, b, d, e] := by
      intro quoted
      rw [codeUnit_quote quoted] at hex
      cases hex
    match u, same with
    | [], same => simp at same
    | [_], same => simp_all
    | [_, _], same => simp_all
    | [_, _, _], same => simp_all
    | [_, _, _, _], same => simp_all
    | x :: y :: z :: v :: w :: u', same =>
      refine ⟨[x, y, z, v, w], u', rfl, ?_, by simp, ?_⟩ <;> simp_all
  next text d later _ same =>
    simp only [Option.map_eq_some_iff, Prod.mk.injEq] at found
    obtain ⟨decoded, simple, rfl, rfl⟩ := found
    cases u with
    | nil =>
      obtain ⟨rfl, -⟩ := List.cons.inj same
      simp [simpleEscape] at simple
      exact absurd simple.symm other
    | cons x u' =>
      obtain ⟨rfl, behind⟩ := List.cons.inj same
      refine ⟨[x], u', rfl, behind.symm, by simp, ?_⟩
      rintro quoted
      obtain rfl : '"' = x := by simpa using quoted
      simp [simpleEscape] at simple
      exact other simple.symm
  next => cases found

theorem readString_surplus {u w z rest : List Char} {fuel : Nat} (unquoted : '"' ∉ w)
    (more : w ≠ []) : readString fuel (u ++ '"' :: rest) ≠ some (w ++ u, z) := by
  -- Once an escape has been read, more is left to be told than is left to be read.
  intro found
  induction fuel generalizing u w with
  | zero => cases found
  | succ fuel ih =>
    obtain ⟨d, w, rfl⟩ := List.exists_cons_of_ne_nil more
    cases u with
    | nil => simp [readString] at found
    | cons c u =>
      simp only [List.cons_append, readString] at found
      split at found
      next => simp at found
      next noQuote =>
        split at found
        next =>
          simp only [Option.bind_eq_some_iff, Option.map_eq_some_iff, Prod.mk.injEq,
            List.cons.injEq] at found
          obtain ⟨⟨decoded, after⟩, escaped, ⟨told, _⟩, reads, ⟨rfl, rfl⟩, rfl⟩ := found
          have other : decoded ≠ '"' := fun same => unquoted (by simp [same])
          obtain ⟨consumed, u', rfl, rfl, -, plain⟩ := escape_consumes escaped other
          refine ih (w := w ++ '\\' :: consumed) (u := u') ?_ (by simp) (by simp_all)
          simp_all
        next =>
          split at found
          next => cases found
          next =>
            simp only [Option.map_eq_some_iff, Prod.mk.injEq, List.cons.injEq] at found
            obtain ⟨⟨told, _⟩, reads, ⟨rfl, rfl⟩, rfl⟩ := found
            refine ih (w := w ++ [c]) ?_ (by simp) (by simpa using reads)
            simp_all

theorem plain_of_readString {s z rest : List Char} {fuel : Nat}
    (found : readString fuel (s ++ '"' :: rest) = some (s, z)) : Plain s := by
  -- A string that was written as it is reads back exactly when it needs no escape.
  induction s generalizing fuel with
  | nil => simp [Plain]
  | cons c s ih =>
    cases fuel with
    | zero => cases found
    | succ fuel =>
      simp only [List.cons_append, readString] at found
      split at found
      next => simp at found
      next noQuote =>
        split at found
        next backslash =>
          simp only [Option.bind_eq_some_iff, Option.map_eq_some_iff, Prod.mk.injEq,
            List.cons.injEq] at found
          obtain ⟨⟨decoded, after⟩, escaped, ⟨told, _⟩, reads, ⟨rfl, rfl⟩, rfl⟩ := found
          obtain ⟨consumed, u', rfl, rfl, more, unquoted⟩ := escape_consumes escaped noQuote
          exact absurd reads (readString_surplus unquoted more)
        next noEscape =>
          split at found
          next => cases found
          next printable =>
            simp only [Option.map_eq_some_iff, Prod.mk.injEq, List.cons.injEq] at found
            obtain ⟨⟨told, _⟩, reads, ⟨-, rfl⟩, rfl⟩ := found
            intro d member
            rcases List.mem_cons.mp member with rfl | later
            next => exact plainChar_iff.mpr ⟨noQuote, noEscape, printable⟩
            next => exact ih reads d later

theorem length_readString {fuel : Nat} {text s rest : List Char}
    (found : readString fuel text = some (s, rest)) : s.length + 1 + rest.length ≤ text.length := by
  induction fuel generalizing text s with
  | zero => cases found
  | succ fuel ih =>
    cases text with
    | nil => cases found
    | cons c text =>
      rw [readString] at found
      split at found
      next =>
        obtain ⟨rfl, rfl⟩ := Prod.mk.inj (Option.some.inj found)
        simp only [List.length_nil, List.length_cons]
        omega
      next =>
        split at found
        next =>
          obtain ⟨⟨d, after⟩, escaped, read⟩ := Option.bind_eq_some_iff.mp found
          obtain ⟨⟨s, after'⟩, reads, same⟩ := Option.map_eq_some_iff.mp read
          obtain ⟨rfl, rfl⟩ := Prod.mk.inj same
          have consumed := length_escape escaped
          have later := ih reads
          simp only [List.length_cons] at later ⊢
          omega
        next =>
          split at found
          next => cases found
          next =>
            obtain ⟨⟨s, after⟩, reads, same⟩ := Option.map_eq_some_iff.mp found
            obtain ⟨rfl, rfl⟩ := Prod.mk.inj same
            have later := ih reads
            simp only [List.length_cons] at later ⊢
            omega

/-! ## Values -/

def numberChar (c : Char) : Bool :=
  c.isDigit || c = '-' || c = '.'

def wholePart (digits : List Char) : Bool :=
  !digits.isEmpty && (digits = ['0'] || digits.head? ≠ some '0')

def isNumber (lexeme : List Char) : Bool :=
  -- Without an exponent.
  let unsigned := if lexeme.head? = some '-' then lexeme.tail else lexeme
  let after := unsigned.dropWhile Char.isDigit
  wholePart (unsigned.takeWhile Char.isDigit) &&
    (after.isEmpty ||
      (after.head? = some '.' && !after.tail.isEmpty && after.tail.all Char.isDigit))

inductive Value where
  | string (s : List Char)
  | number (lexeme : List Char)
  | truth (b : Bool)
deriving DecidableEq

abbrev Member := List Char × Value

def expect (word text : List Char) : Option (List Char) :=
  if word.isPrefixOf text then some (text.drop word.length) else none

def trueWord : List Char := "true".toList
def falseWord : List Char := "false".toList

def readNumber (text : List Char) : Option (Value × List Char) :=
  if isNumber (text.takeWhile numberChar) then
    some (.number (text.takeWhile numberChar), text.dropWhile numberChar)
  else none

def readValue (text : List Char) : Option (Value × List Char) :=
  match expect ['"'] text, expect trueWord text, expect falseWord text with
  | some rest, _, _ => (readString (rest.length + 1) rest).map fun r => (.string r.1, r.2)
  | none, some rest, _ => some (.truth true, rest)
  | none, none, some rest => some (.truth false, rest)
  | none, none, none => readNumber text

def readMember (text : List Char) : Option (Member × List Char) :=
  (expect ['"'] text).bind fun rest =>
    (readString (rest.length + 1) rest).bind fun key =>
      (expect [':'] key.2).bind fun rest =>
        (readValue rest).map fun value => ((key.1, value.1), value.2)

def openBrace : Char := Char.ofNat 123
def closeBrace : Char := Char.ofNat 125

def readMembers : Nat → List Char → Option (List Member × List Char)
  | 0, _ => none
  | fuel + 1, text =>
    (readMember text).bind fun m =>
      match expect [','] m.2 with
      | some rest => (readMembers fuel rest).map fun ms => (m.1 :: ms.1, ms.2)
      | none => (expect [closeBrace] m.2).map fun rest => ([m.1], rest)

def readObject (text : List Char) : Option (List Member) :=
  -- The whole text is one object that has members.
  (expect [openBrace] text).bind fun rest =>
    (readMembers rest.length rest).bind fun ms => if ms.2.isEmpty then some ms.1 else none

/-! ## Records written as they are -/

def quoted (s : List Char) : List Char :=
  '"' :: s ++ ['"']

def Value.text : Value → List Char
  | .string s => quoted s
  | .number lexeme => lexeme
  | .truth true => trueWord
  | .truth false => falseWord

def memberText (m : Member) : List Char :=
  quoted m.1 ++ ':' :: m.2.text

def membersText : List Member → List Char
  | [] => []
  | [m] => memberText m
  | m :: next :: rest => memberText m ++ ',' :: membersText (next :: rest)

def render (ms : List Member) : List Char :=
  openBrace :: membersText ms ++ [closeBrace]

def Value.length (v : Value) : Nat :=
  match v with
  | .string s => s.length + 2
  | .number lexeme => lexeme.length
  | .truth true => 4
  | .truth false => 5

def size (ms : List Member) : Nat :=
  -- Two quotes and a colon in each member, and a comma or a brace behind it.
  1 + (ms.map fun m => m.1.length + m.2.length + 4).sum

def Value.Regular : Value → Prop
  -- A string that needs no escape, a number, or a truth value.
  | .string s => Plain s
  | .number lexeme => isNumber lexeme = true ∧ lexeme.all numberChar = true
  | .truth _ => True

instance : (v : Value) → Decidable v.Regular
  | .string s => inferInstanceAs (Decidable (Plain s))
  | .number _ => inferInstanceAs (Decidable (_ ∧ _))
  | .truth _ => inferInstanceAs (Decidable True)

def Regular (m : Member) : Prop :=
  Plain m.1 ∧ m.2.Regular

instance (m : Member) : Decidable (Regular m) :=
  inferInstanceAs (Decidable (_ ∧ _))

def Numeric (m : Member) : Prop :=
  -- What stands for a number is one.
  ∀ lexeme, m.2 = .number lexeme → m.2.Regular

/-! ## Decimal numbers -/

theorem digits_head {n : Nat} (positive : n ≠ 0) : (Nat.toDigits 10 n).head? ≠ some '0' := by
  induction n using Nat.strong_induction_on with
  | h n ih =>
    by_cases small : n < 10
    next =>
      rw [Nat.toDigits_of_lt_base small]
      have all : ∀ d < 10, d ≠ 0 → [Nat.digitChar d].head? ≠ some '0' := by decide
      exact all n small positive
    next =>
      have shorter : n / 10 < n := Nat.div_lt_self (Nat.pos_of_ne_zero positive) (by decide)
      have first := ih (n / 10) shorter (by omega)
      rw [Nat.toDigits_of_base_le (by decide) (Nat.not_lt.mp small)]
      cases digits : Nat.toDigits 10 (n / 10) with
      | nil => exact absurd digits Nat.toDigits_ne_nil
      | cons c rest => rwa [digits] at first

theorem wholePart_digits (n : Nat) : wholePart (Nat.toDigits 10 n) = true := by
  by_cases zero : n = 0
  next =>
    subst zero
    rfl
  next => simp [wholePart, Nat.toDigits_ne_nil, digits_head zero]

theorem digits_unsigned (n : Nat) (rest : List Char) :
    (Nat.toDigits 10 n ++ rest).head? ≠ some '-' := by
  cases digits : Nat.toDigits 10 n with
  | nil => exact absurd digits Nat.toDigits_ne_nil
  | cons c more =>
    have isDigit := Decimal.isDigit_toDigits n c (by simp [digits])
    intro minus
    obtain rfl : c = '-' := by simpa using minus
    cases isDigit

theorem isNumber_digits (n : Nat) {fraction : List Char}
    (isFraction : fraction = [] ∨ ∃ digits, fraction = '.' :: digits ∧ digits ≠ [] ∧
      digits.all Char.isDigit = true) :
    isNumber (Nat.toDigits 10 n ++ fraction) = true := by
  have ends : ∀ c ∈ fraction.head?, c.isDigit = false := by
    rcases isFraction with rfl | ⟨digits, rfl, -, -⟩
    next => simp
    next => simp
  obtain ⟨whole, after⟩ := Decimal.takeWhile_digits (Decimal.isDigit_toDigits n) ends
  simp only [isNumber, if_neg (digits_unsigned n fraction), whole, after, wholePart_digits]
  rcases isFraction with rfl | ⟨digits, rfl, more, all⟩
  next => rfl
  next => simpa [more] using all

theorem numberChars_digits (n : Nat) : (Nat.toDigits 10 n).all numberChar = true := by
  rw [List.all_eq_true]
  intro c member
  simp [numberChar, Decimal.isDigit_toDigits n c member]

theorem regular_digits (n : Nat) :
    (Value.number (Nat.toDigits 10 n)).Regular ∧ (Value.number ('-' :: Nat.toDigits 10 n)).Regular := by
  -- Decimal digits, after a sign or not, are a number.
  have plain := isNumber_digits n (.inl rfl)
  rw [List.append_nil] at plain
  have unsigned := digits_unsigned n []
  rw [List.append_nil] at unsigned
  refine ⟨⟨plain, numberChars_digits n⟩, ?_, ?_⟩
  next =>
    simp only [isNumber, if_neg unsigned] at plain
    simpa [isNumber] using plain
  next => simp [numberChars_digits n, numberChar, List.all_cons]

theorem regular_tenths (n d : Nat) :
    (Value.number (Nat.toDigits 10 n ++ '.' :: Nat.toDigits 10 d)).Regular := by
  refine ⟨isNumber_digits n (.inr ⟨_, rfl, Nat.toDigits_ne_nil, ?_⟩), ?_⟩
  next => exact List.all_eq_true.mpr (Decimal.isDigit_toDigits d)
  next =>
    rw [List.all_append, numberChars_digits n, List.all_cons, numberChars_digits d]
    rfl

/-! ## Reading a record back -/

theorem expect_append (word rest : List Char) : expect word (word ++ rest) = some rest := by
  simp [expect]

theorem expect_head (c : Char) (rest : List Char) : expect [c] (c :: rest) = some rest :=
  expect_append [c] rest

theorem expect_eq_some {word text rest : List Char} (found : expect word text = some rest) :
    text = word ++ rest := by
  unfold expect at found
  split at found
  next leads =>
    obtain ⟨after, rfl⟩ := List.isPrefixOf_iff_prefix.mp leads
    obtain rfl := Option.some.inj found
    rw [List.drop_left]
  next => cases found

theorem expect_other {word text : List Char} {c d : Char} (different : c ≠ d) :
    expect (c :: word) (d :: text) = none := by
  simp [expect, different]

theorem readString_quoted {s : List Char} (plain : Plain s) (tail : List Char) :
    readString ((s ++ '"' :: tail).length + 1) (s ++ '"' :: tail) = some (s, tail) := by
  apply readString_plain plain
  simp only [List.length_append]
  omega

theorem quoted_append (s tail : List Char) : quoted s ++ tail = ['"'] ++ (s ++ '"' :: tail) := by
  simp [quoted]

theorem numberChar_spec {c : Char} (isOne : numberChar c = true) : c ≠ '"' ∧ c ≠ 't' ∧ c ≠ 'f' := by
  have others : numberChar '"' = false ∧ numberChar 't' = false ∧ numberChar 'f' = false := by decide
  constructor
  next =>
    rintro rfl
    simp [others] at isOne
  next =>
    constructor <;>
    · rintro rfl
      simp [others] at isOne

theorem readNumber_text {lexeme tail : List Char} (number : isNumber lexeme = true)
    (all : lexeme.all numberChar = true) (ends : ∀ c ∈ tail.head?, numberChar c = false) :
    readNumber (lexeme ++ tail) = some (.number lexeme, tail) := by
  have every : ∀ c ∈ lexeme, numberChar c = true := List.all_eq_true.mp all
  have before : (lexeme ++ tail).takeWhile numberChar = lexeme := by
    rw [List.takeWhile_append_of_pos every]
    cases tail with
    | nil => simp
    | cons c tail => simp [ends c rfl]
  have after : (lexeme ++ tail).dropWhile numberChar = tail := by
    rw [List.dropWhile_append_of_pos every]
    cases tail with
    | nil => simp
    | cons c tail => simp [ends c rfl]
  rw [readNumber, before, after, if_pos number]

theorem readValue_string {s tail : List Char} :
    readValue ((Value.string s).text ++ tail) =
      (readString ((s ++ '"' :: tail).length + 1) (s ++ '"' :: tail)).map
        fun r => (.string r.1, r.2) := by
  rw [Value.text, quoted_append, readValue, expect_append]

theorem readValue_text {v : Value} (regular : v.Regular) {tail : List Char}
    (ends : ∀ c ∈ tail.head?, numberChar c = false) :
    readValue (v.text ++ tail) = some (v, tail) := by
  cases v with
  | string s => rw [readValue_string, readString_quoted regular, Option.map_some]
  | number lexeme =>
    obtain ⟨number, all⟩ := regular
    have read := readNumber_text number all ends
    cases lexeme with
    | nil => cases number
    | cons c lexeme =>
      obtain ⟨noQuote, noTrue, noFalse⟩ := numberChar_spec (List.all_eq_true.mp all c (by simp))
      have first : expect ['"'] (c :: (lexeme ++ tail)) = none := expect_other (Ne.symm noQuote)
      have second : expect trueWord (c :: (lexeme ++ tail)) = none := expect_other (Ne.symm noTrue)
      have third : expect falseWord (c :: (lexeme ++ tail)) = none := expect_other (Ne.symm noFalse)
      rw [List.cons_append] at read
      rw [Value.text, List.cons_append, readValue, first, second, third]
      exact read
  | truth b =>
    cases b with
    | true =>
      have first : expect ['"'] (trueWord ++ tail) = none := expect_other (by decide)
      rw [Value.text, readValue, first, expect_append]
    | false =>
      have first : expect ['"'] (falseWord ++ tail) = none := expect_other (by decide)
      have second : expect trueWord (falseWord ++ tail) = none := expect_other (by decide)
      rw [Value.text, readValue, first, second, expect_append]

theorem readMember_text {m : Member} (regular : Regular m) {tail : List Char}
    (ends : ∀ c ∈ tail.head?, numberChar c = false) :
    readMember (memberText m ++ tail) = some (m, tail) := by
  have split : memberText m ++ tail = quoted m.1 ++ ([':'] ++ (m.2.text ++ tail)) := by
    simp [memberText]
  rw [split, quoted_append, readMember, expect_append, Option.bind_some,
    readString_quoted regular.1, Option.bind_some, expect_append, Option.bind_some,
    readValue_text regular.2 ends, Option.map_some]

theorem regular_of_readMember {m : Member} (numeric : Numeric m) {tail z : List Char}
    (found : readMember (memberText m ++ tail) = some (m, z)) : Regular m := by
  obtain ⟨name, v⟩ := m
  have split : memberText (name, v) ++ tail = quoted name ++ ([':'] ++ (v.text ++ tail)) := by
    simp [memberText]
  rw [split, quoted_append, readMember, expect_append, Option.bind_some] at found
  obtain ⟨⟨key, after⟩, readKey, found⟩ := Option.bind_eq_some_iff.mp found
  obtain ⟨rest, colon, found⟩ := Option.bind_eq_some_iff.mp found
  obtain ⟨⟨told, after'⟩, read, same⟩ := Option.map_eq_some_iff.mp found
  obtain ⟨⟨rfl, rfl⟩, rfl⟩ : (key = name ∧ told = v) ∧ after' = z := by simpa using same
  have plain : Plain key := plain_of_readString readKey
  rw [readString_quoted plain] at readKey
  have behind := (Prod.mk.inj (Option.some.inj readKey)).2
  rw [← behind, expect_append] at colon
  rw [← Option.some.inj colon] at read
  refine ⟨plain, ?_⟩
  cases told with
  | string s =>
    rw [readValue_string] at read
    obtain ⟨⟨told, after⟩, reads, same⟩ := Option.map_eq_some_iff.mp read
    obtain ⟨rfl, rfl⟩ : told = s ∧ after = after' := by simpa using same
    exact plain_of_readString reads
  | number lexeme => exact numeric lexeme rfl
  | truth b => trivial

theorem readMembers_last {m : Member} (regular : Regular m) (tail : List Char) (fuel : Nat) :
    readMembers (fuel + 1) (memberText m ++ closeBrace :: tail) = some ([m], tail) := by
  have ends : ∀ c ∈ (closeBrace :: tail).head?, numberChar c = false := by
    simp [numberChar, closeBrace]
  have noComma : expect [','] (closeBrace :: tail) = none := expect_other (by decide)
  simp only [readMembers, readMember_text regular ends, Option.bind_some, noComma, expect_head,
    Option.map_some]

theorem readMembers_more {m : Member} (regular : Regular m) (text : List Char) (fuel : Nat) :
    readMembers (fuel + 1) (memberText m ++ ',' :: text) =
      (readMembers fuel text).map fun ms => (m :: ms.1, ms.2) := by
  have ends : ∀ c ∈ (',' :: text).head?, numberChar c = false := by
    simp [numberChar]
  simp only [readMembers, readMember_text regular ends, Option.bind_some, expect_head]

theorem head_of_readMembers {fuel : Nat} {text z : List Char} {m : Member} {ms : List Member}
    (found : readMembers fuel text = some (m :: ms, z)) : ∃ after, readMember text = some (m, after) := by
  cases fuel with
  | zero => cases found
  | succ fuel =>
    obtain ⟨⟨first, after⟩, read, found⟩ := Option.bind_eq_some_iff.mp found
    suffices same : first = m from ⟨after, same ▸ read⟩
    dsimp only at found
    split at found
    next =>
      obtain ⟨more, _, same⟩ := Option.map_eq_some_iff.mp found
      exact (List.cons.inj (Prod.mk.inj same).1).1
    next =>
      obtain ⟨rest, _, same⟩ := Option.map_eq_some_iff.mp found
      exact (List.cons.inj (Prod.mk.inj same).1).1

theorem membersText_cons (m : Member) (rest : List Member) (tail : List Char) :
    ∃ after, membersText (m :: rest) ++ tail = memberText m ++ after := by
  cases rest with
  | nil => exact ⟨tail, rfl⟩
  | cons next rest => exact ⟨',' :: membersText (next :: rest) ++ tail, by simp [membersText]⟩

theorem membersText_more (m next : Member) (rest : List Member) (tail : List Char) :
    membersText (m :: next :: rest) ++ tail =
      memberText m ++ ',' :: (membersText (next :: rest) ++ tail) := by
  simp [membersText]

theorem readMembers_text {ms : List Member} (some_members : ms ≠ [])
    (regular : ∀ m ∈ ms, Regular m) (tail : List Char) {fuel : Nat} (enough : ms.length ≤ fuel) :
    readMembers fuel (membersText ms ++ closeBrace :: tail) = some (ms, tail) := by
  induction ms generalizing fuel with
  | nil => exact absurd rfl some_members
  | cons m rest ih =>
    cases fuel with
    | zero => cases enough
    | succ fuel =>
      have isRegular := regular m (by simp)
      cases rest with
      | nil => exact readMembers_last isRegular tail fuel
      | cons next rest =>
        have later := ih (by simp) (fun m member => regular m (List.mem_cons_of_mem _ member))
          (Nat.le_of_succ_le_succ enough)
        rw [membersText_more, readMembers_more isRegular, later, Option.map_some]

theorem regular_of_readMembers {ms : List Member} (numeric : ∀ m ∈ ms, Numeric m)
    {tail z : List Char} {fuel : Nat}
    (found : readMembers fuel (membersText ms ++ closeBrace :: tail) = some (ms, z)) :
    ∀ m ∈ ms, Regular m := by
  induction ms generalizing fuel with
  | nil => simp
  | cons m rest ih =>
    have first : Regular m := by
      obtain ⟨after, read⟩ := head_of_readMembers found
      obtain ⟨text, split⟩ := membersText_cons m rest (closeBrace :: tail)
      rw [split] at read
      exact regular_of_readMember (numeric m (by simp)) read
    cases rest with
    | nil => simpa using first
    | cons next rest =>
      cases fuel with
      | zero => cases found
      | succ fuel =>
        rw [membersText_more, readMembers_more first] at found
        obtain ⟨⟨told, after⟩, read, same⟩ := Option.map_eq_some_iff.mp found
        obtain ⟨rfl, rfl⟩ : told = next :: rest ∧ after = z := by simpa using same
        have later := ih (fun m member => numeric m (List.mem_cons_of_mem _ member)) read
        exact List.forall_mem_cons.mpr ⟨first, later⟩

theorem members_le (ms : List Member) : ms.length ≤ (membersText ms).length := by
  induction ms with
  | nil => simp
  | cons m rest ih =>
    cases rest with
    | nil => simp [membersText, memberText, quoted]
    | cons next rest =>
      simp only [membersText, List.length_append, List.length_cons] at ih ⊢
      omega

theorem readObject_render {ms : List Member} (some_members : ms ≠ [])
    (numeric : ∀ m ∈ ms, Numeric m) :
    readObject (render ms) = some ms ↔ ∀ m ∈ ms, Regular m := by
  -- Records of strings that need no escape, and no others, read back.
  have opened : expect [openBrace] (render ms) = some (membersText ms ++ [closeBrace]) :=
    expect_head openBrace _
  rw [readObject, opened, Option.bind_some]
  constructor
  next =>
    intro found
    obtain ⟨⟨told, after⟩, read, same⟩ := Option.bind_eq_some_iff.mp found
    split at same
    next =>
      obtain rfl := Option.some.inj same
      exact regular_of_readMembers numeric read
    next => cases same
  next =>
    intro regular
    have enough : ms.length ≤ (membersText ms ++ [closeBrace]).length := by
      have within := members_le ms
      simp only [List.length_append]
      omega
    rw [readMembers_text some_members regular [] enough]
    rfl

/-! ## Sizes -/

theorem length_expect {word text rest : List Char} (found : expect word text = some rest) :
    text.length = word.length + rest.length := by
  rw [expect_eq_some found, List.length_append]

theorem length_readValue {text rest : List Char} {v : Value} (found : readValue text = some (v, rest)) :
    v.length + rest.length ≤ text.length := by
  unfold readValue at found
  split at found
  next after _ _ opened =>
    obtain ⟨⟨s, rest⟩, read, same⟩ := Option.map_eq_some_iff.mp found
    obtain ⟨rfl, rfl⟩ := Prod.mk.inj same
    have total := length_expect opened
    have inner := length_readString read
    simp only [Value.length, List.length_singleton] at total ⊢
    omega
  next _ opened =>
    obtain ⟨rfl, rfl⟩ := Prod.mk.inj (Option.some.inj found)
    have total := length_expect opened
    simp only [trueWord, Value.length] at total ⊢
    exact Nat.le_of_eq total.symm
  next _ opened =>
    obtain ⟨rfl, rfl⟩ := Prod.mk.inj (Option.some.inj found)
    have total := length_expect opened
    exact Nat.le_of_eq total.symm
  next =>
    unfold readNumber at found
    split at found
    next =>
      obtain ⟨rfl, rfl⟩ := Prod.mk.inj (Option.some.inj found)
      have total := congrArg List.length (List.takeWhile_append_dropWhile (p := numberChar) (l := text))
      rw [List.length_append] at total
      exact Nat.le_of_eq total
    next => cases found

theorem length_readMember {text rest : List Char} {m : Member}
    (found : readMember text = some (m, rest)) :
    m.1.length + m.2.length + 3 + rest.length ≤ text.length := by
  obtain ⟨opened, quote, found⟩ := Option.bind_eq_some_iff.mp found
  obtain ⟨⟨key, after⟩, readKey, found⟩ := Option.bind_eq_some_iff.mp found
  obtain ⟨behind, colon, found⟩ := Option.bind_eq_some_iff.mp found
  obtain ⟨⟨value, left⟩, read, same⟩ := Option.map_eq_some_iff.mp found
  obtain ⟨rfl, rfl⟩ := Prod.mk.inj same
  have first := length_expect quote
  have second := length_readString readKey
  have third := length_expect colon
  have last := length_readValue read
  simp only [List.length_singleton] at *
  omega

theorem length_readMembers {fuel : Nat} {text rest : List Char} {ms : List Member}
    (found : readMembers fuel text = some (ms, rest)) :
    (ms.map fun m => m.1.length + m.2.length + 4).sum + rest.length ≤ text.length := by
  induction fuel generalizing text ms with
  | zero => cases found
  | succ fuel ih =>
    obtain ⟨⟨m, after⟩, readFirst, found⟩ := Option.bind_eq_some_iff.mp found
    have first := length_readMember readFirst
    dsimp only at found
    split at found
    next behind comma =>
      obtain ⟨⟨more, left⟩, read, same⟩ := Option.map_eq_some_iff.mp found
      obtain ⟨rfl, rfl⟩ := Prod.mk.inj same
      have second := length_expect comma
      have later := ih read
      simp only [List.map_cons, List.sum_cons, List.length_singleton] at *
      omega
    next =>
      obtain ⟨left, brace, same⟩ := Option.map_eq_some_iff.mp found
      obtain ⟨rfl, rfl⟩ := Prod.mk.inj same
      have second := length_expect brace
      simp only [List.map_cons, List.map_nil, List.sum_cons, List.sum_nil,
        List.length_singleton] at *
      omega

theorem size_of_readObject {text : List Char} {ms : List Member} (found : readObject text = some ms) :
    size ms ≤ text.length := by
  obtain ⟨inner, brace, found⟩ := Option.bind_eq_some_iff.mp found
  obtain ⟨⟨told, after⟩, read, same⟩ := Option.bind_eq_some_iff.mp found
  split at same
  next =>
    obtain rfl := Option.some.inj same
    have first := length_expect brace
    have later := length_readMembers read
    simp only [size, List.length_singleton] at *
    omega
  next => cases same

theorem length_text (v : Value) : v.text.length = v.length := by
  match v with
  | .string s => simp [Value.text, Value.length, quoted]
  | .number lexeme => rfl
  | .truth true => rfl
  | .truth false => rfl

theorem length_membersText {ms : List Member} (some_members : ms ≠ []) :
    (membersText ms).length + 1 = (ms.map fun m => m.1.length + m.2.length + 4).sum := by
  induction ms with
  | nil => exact absurd rfl some_members
  | cons m rest ih =>
    have here : (memberText m).length = m.1.length + m.2.length + 3 := by
      simp [memberText, quoted, length_text]
      omega
    cases rest with
    | nil => simp [membersText, here]
    | cons next rest =>
      have later := ih (by simp)
      rw [membersText, List.length_append, List.length_cons, here, List.map_cons, List.sum_cons,
        ← later]
      omega

theorem length_render {ms : List Member} (some_members : ms ≠ []) :
    (render ms).length = size ms := by
  have inner := length_membersText some_members
  simp only [render, size, List.cons_append, List.length_cons, List.length_append, List.length_nil]
  omega

/-! ## Characters -/

def Printable (text : List Char) : Prop :=
  ∀ c ∈ text, 0x20 ≤ c.toNat

instance (text : List Char) : Decidable (Printable text) :=
  List.decidableBAll _ text

theorem printable_append {first second : List Char} :
    Printable (first ++ second) ↔ Printable first ∧ Printable second :=
  List.forall_mem_append

theorem printable_quoted {s : List Char} (plain : Plain s) : Printable (quoted s) := by
  have inner : Printable s := fun c member =>
    Nat.le_of_not_lt (plainChar_iff.mp (plain c member)).2.2
  have quote : Printable ['"'] := by decide
  exact printable_append.mpr ⟨printable_append.mpr ⟨quote, inner⟩, quote⟩

theorem printable_number {c : Char} (isOne : numberChar c = true) : 0x20 ≤ c.toNat := by
  unfold numberChar at isOne
  rcases Bool.or_eq_true_iff.mp isOne with digit | point
  next =>
    rcases Bool.or_eq_true_iff.mp digit with digit | minus
    next =>
      have atLeast : '0'.toNat ≤ c.toNat := (Bool.and_eq_true_iff.mp digit).1 |> of_decide_eq_true
      exact Nat.le_trans (by decide) atLeast
    next =>
      obtain rfl := of_decide_eq_true minus
      decide
  next =>
    obtain rfl := of_decide_eq_true point
    decide

theorem printable_text {v : Value} (regular : v.Regular) : Printable v.text := by
  match v, regular with
  | .string s, plain => exact printable_quoted plain
  | .number lexeme, ⟨_, all⟩ =>
    exact fun c member => printable_number (List.all_eq_true.mp all c member)
  | .truth true, _ => exact (by decide : Printable trueWord)
  | .truth false, _ => exact (by decide : Printable falseWord)

theorem printable_memberText {m : Member} (regular : Regular m) : Printable (memberText m) := by
  have colon : Printable [':'] := by decide
  have value := printable_append.mpr ⟨colon, printable_text regular.2⟩
  exact printable_append.mpr ⟨printable_quoted regular.1, value⟩

theorem printable_render {ms : List Member} (regular : ∀ m ∈ ms, Regular m) :
    Printable (render ms) := by
  have inner : Printable (membersText ms) := by
    induction ms with
    | nil => exact fun c member => absurd member List.not_mem_nil
    | cons m rest ih =>
      have first := printable_memberText (regular m (List.mem_cons_self ..))
      have later := ih fun m member => regular m (List.mem_cons_of_mem _ member)
      cases rest with
      | nil => exact first
      | cons next rest =>
        have comma : Printable [','] := by decide
        exact printable_append.mpr ⟨first, printable_append.mpr ⟨comma, later⟩⟩
  have opening : Printable [openBrace] := by decide
  have closing : Printable [closeBrace] := by decide
  exact printable_append.mpr ⟨printable_append.mpr ⟨opening, inner⟩, closing⟩

end Json
