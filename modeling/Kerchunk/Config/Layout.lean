import Kerchunk.Config.RoundTrip
import Kerchunk.Lib.Outline

set_option autoImplicit false

/-!
# Where the lines of a file stand

Each line that the parser reads stands in a section, and a file of whole lines is read before what
follows it.
-/

namespace Kerchunk.Config

/-- A line as it is read, and its text without the newline. -/
structure Row where
  line : Line
  text : Text
deriving DecidableEq

def row (chunk : Text) : Row where
  line := parseLine chunk
  text := chunk.takeWhile (· ≠ newline)

def chunks (file : Text) : List Text :=
  -- The lines of a text, as `fgets` cuts them.
  fileLines file.length file

def rows (file : Text) : List Row :=
  (chunks file).map row

def Row.heading (r : Row) : Option Text :=
  match r.line with
  | .header name => some (bounded maxSection name)
  | _ => none

def Row.entry (sectionName : Text) (r : Row) : Option ConfigEntry :=
  match r.line with
  | .pair key value =>
    some { sectionName := sectionName, key := bounded maxKey key, value := bounded maxValue value }
  | _ => none

abbrev Placed := List (Text × Row)

def located (sectionName : Text) (file : Text) : Placed :=
  -- The lines of a file that follows a line of the section.
  Outline.placed Row.heading sectionName (rows file)

def entriesOf (placed : Placed) : KerchunkConfig :=
  placed.filterMap fun p => p.2.entry p.1

def fileEntries (file : Text) : KerchunkConfig :=
  -- What the lines of the file say, were the table as large as it takes.
  entriesOf (located [] file)

@[simp] theorem entriesOf_append (first second : Placed) :
    entriesOf (first ++ second) = entriesOf first ++ entriesOf second :=
  List.filterMap_append

theorem entriesOf_cons (p : Text × Row) (placed : Placed) :
    entriesOf (p :: placed) = (p.2.entry p.1).toList ++ entriesOf placed := by
  cases found : p.2.entry p.1 <;> simp [entriesOf, found]

/-! ## Loading -/

theorem readLine_eq {r : Reader} (room : r.entries.length ≤ maxEntries) (chunk : Text) :
    readLine r chunk =
      let here := (row chunk).heading.getD r.currentSection
      let entries := r.entries ++ ((row chunk).entry here).toList
      if entries.length ≤ maxEntries then some ⟨here, entries⟩ else none := by
  unfold readLine
  cases parsed : parseLine chunk with
  | skip => simp [row, Row.heading, Row.entry, parsed, room]
  | header name => simp [row, Row.heading, Row.entry, parsed, room]
  | pair key value =>
    by_cases full : maxEntries ≤ r.entries.length
    next =>
      have tooMany : ¬ r.entries.length + 1 ≤ maxEntries := by omega
      simp [row, Row.heading, Row.entry, parsed, full, tooMany]
    next =>
      have fits : r.entries.length + 1 ≤ maxEntries := by omega
      simp [row, Row.heading, Row.entry, parsed, full, fits]

theorem foldlM_readLine {r : Reader} (room : r.entries.length ≤ maxEntries) (chunks : List Text) :
    (chunks.foldlM readLine r).map Reader.entries =
      let entries := r.entries ++
        entriesOf (Outline.placed Row.heading r.currentSection (chunks.map row))
      if entries.length ≤ maxEntries then some entries else none := by
  induction chunks generalizing r with
  | nil => simp [entriesOf, room]
  | cons chunk rest ih =>
    rw [List.foldlM_cons, readLine_eq room chunk]
    simp only [List.map_cons, Outline.placed_cons, entriesOf_cons, ← List.append_assoc]
    generalize r.entries ++ ((row chunk).entry _).toList = entries
    by_cases fits : entries.length ≤ maxEntries
    next =>
      rw [if_pos fits]
      exact ih fits
    next =>
      have more : ∀ later : KerchunkConfig, ¬ (entries ++ later).length ≤ maxEntries := by
        intro later
        simp only [List.length_append]
        omega
      rw [if_neg fits, if_neg (more _)]
      rfl

theorem parseFile_eq (file : Text) : parseFile file =
    if (fileEntries file).length ≤ maxEntries then some (fileEntries file) else none := by
  have none_yet : (⟨[], []⟩ : Reader).entries.length ≤ maxEntries := Nat.zero_le _
  exact foldlM_readLine none_yet (fileLines file.length file)

/-! ## Files in parts -/

def Terminated (text : Text) : Prop :=
  -- The text ends with its last line.
  ∀ c ∈ text.getLast?, c = newline

theorem terminated_nil : Terminated [] := by
  simp [Terminated]

theorem terminated_concat (text : Text) : Terminated (text ++ [newline]) := by
  simp [Terminated]

theorem fgets_split (room : Nat) (text : Text) : (fgets room text).1 ++ (fgets room text).2 = text := by
  induction room generalizing text with
  | zero => rfl
  | succ room ih =>
    cases text with
    | nil => rfl
    | cons c rest =>
      by_cases last : c = newline
      next => simp [fgets, last]
      next => simp [fgets, last, ih]

theorem fgets_takes (room : Nat) (some_room : 0 < room) {text : Text} (some_text : text ≠ []) :
    (fgets room text).2.length < text.length := by
  cases text with
  | nil => exact absurd rfl some_text
  | cons c rest =>
    cases room with
    | zero => cases some_room
    | succ room =>
      have whole := congrArg List.length (fgets_split room rest)
      simp only [fgets]
      split <;> simp only [List.length_cons, List.length_append] at whole ⊢ <;> omega

theorem fgets_append {text : Text} (some_text : text ≠ []) (terminated : Terminated text) (room : Nat)
    (more : Text) :
    fgets room (text ++ more) = ((fgets room text).1, (fgets room text).2 ++ more) := by
  induction room generalizing text with
  | zero => rfl
  | succ room ih =>
    cases text with
    | nil => exact absurd rfl some_text
    | cons c rest =>
      by_cases last : c = newline
      next => simp [fgets, last]
      next =>
        have longer : rest ≠ [] := by
          rintro rfl
          exact last (terminated c rfl)
        have ends : Terminated rest := by
          intro d isLast
          refine terminated d ?_
          rwa [List.getLast?_cons_of_ne_nil longer]
        simp [fgets, last, ih longer ends]

theorem terminated_rest {text : Text} (terminated : Terminated text) (room : Nat) :
    Terminated (fgets room text).2 := by
  intro c isLast
  have ended := @List.getLast?_append _ (fgets room text).1 (fgets room text).2
  rw [fgets_split, isLast] at ended
  exact terminated c ended

theorem fileLines_fuel {fuel : Nat} {text : Text} (enough : text.length ≤ fuel) :
    fileLines fuel text = fileLines text.length text := by
  induction fuel using Nat.strong_induction_on generalizing text with
  | h fuel ih =>
    cases text with
    | nil => cases fuel <;> rfl
    | cons c rest =>
      cases fuel with
      | zero => cases enough
      | succ fuel =>
        have shorter := fgets_takes (lineSize - 1) (by decide) (List.cons_ne_nil c rest)
        simp only [List.length_cons] at enough shorter
        simp only [fileLines, List.length_cons]
        rw [ih fuel (Nat.lt_succ_self _) (by omega)]
        by_cases equal : fuel = rest.length
        next => subst equal; rw [ih rest.length (Nat.lt_succ_self _) (by omega)]
        next => rw [ih rest.length (by omega) (by omega)]

theorem rows_nil : rows [] = [] := rfl

theorem chunks_cons {text : Text} (some_text : text ≠ []) :
    chunks text = (fgets (lineSize - 1) text).1 :: chunks (fgets (lineSize - 1) text).2 := by
  cases text with
  | nil => exact absurd rfl some_text
  | cons c rest =>
    have shorter := fgets_takes (lineSize - 1) (by decide) (List.cons_ne_nil c rest)
    simp only [List.length_cons] at shorter
    simp only [chunks, List.length_cons, fileLines]
    rw [fileLines_fuel (Nat.le_of_lt_succ shorter)]

theorem chunks_append {text : Text} (terminated : Terminated text) (more : Text) :
    chunks (text ++ more) = chunks text ++ chunks more := by
  induction size : text.length using Nat.strong_induction_on generalizing text with
  | h n ih =>
    by_cases none_left : text = []
    next =>
      rw [none_left, List.nil_append]
      rfl
    next =>
      have longer : text ++ more ≠ [] := by simp [none_left]
      have shorter := fgets_takes (lineSize - 1) (by decide) none_left
      rw [chunks_cons longer, chunks_cons none_left, fgets_append none_left terminated]
      rw [ih _ (size ▸ shorter) (terminated_rest terminated _) rfl, List.cons_append]

theorem rows_cons {text : Text} (some_text : text ≠ []) :
    rows text = row (fgets (lineSize - 1) text).1 :: rows (fgets (lineSize - 1) text).2 := by
  rw [rows, chunks_cons some_text, List.map_cons]
  rfl

theorem rows_append {text : Text} (terminated : Terminated text) (more : Text) :
    rows (text ++ more) = rows text ++ rows more := by
  rw [rows, chunks_append terminated, List.map_append]
  rfl

def blank : Row where
  line := .skip
  text := []

theorem rows_newline : rows [newline] = [blank] := by decide

theorem row_concat {line : Text} (whole : newline ∉ line) : row (line ++ [newline]) = row line := by
  -- A last line without a newline reads the same with one.
  have texts : (line ++ [newline]).takeWhile (· ≠ newline) = line.takeWhile (· ≠ newline) := by
    have all : ∀ c ∈ line, decide (c ≠ newline) = true := by
      intro c member
      exact decide_eq_true fun same => whole (same ▸ member)
    rw [List.takeWhile_append_of_pos all, List.takeWhile_eq_self_iff.mpr all]
    simp
  have trims : trim (cstr (line ++ [newline])) = trim (cstr line) := by
    by_cases clean : nul ∈ line
    next =>
      have cut : cstr (line ++ [newline]) = cstr line := by
        unfold cstr
        rw [List.takeWhile_append, if_neg]
        intro all
        have same : line.takeWhile (· ≠ nul) = line :=
          List.takeWhile_prefix _ |>.eq_of_length all
        have member := clean
        rw [← same] at member
        simpa using List.mem_takeWhile_imp member
      rw [cut]
    next => rw [trim_line line clean, cstr_same clean]
  simp only [row, texts, parseLine, trims]

theorem fgets_full {room : Nat} {text : Text} (full : ¬ text.length < room) (whole : newline ∉ text)
    (all : (fgets room text).1 = text) (more : Text) : fgets room (text ++ more) = (text, more) := by
  induction room generalizing text with
  | zero =>
    obtain rfl : [] = text := all
    rfl
  | succ room ih =>
    cases text with
    | nil => simp at full
    | cons c rest =>
      obtain ⟨other, whole⟩ := not_or.mp (List.mem_cons.not.mp whole)
      have rest_all : (fgets room rest).1 = rest := by
        simpa [fgets, Ne.symm other] using all
      have rest_full : ¬ rest.length < room := by simpa using full
      simp [fgets, Ne.symm other, ih rest_full whole rest_all]

theorem fgets_more {room : Nat} {text : Text} (left : (fgets room text).2 ≠ []) (more : Text) :
    fgets room (text ++ more) = ((fgets room text).1, (fgets room text).2 ++ more) := by
  -- What is left after a line decides nothing about the line.
  induction room generalizing text with
  | zero => rfl
  | succ room ih =>
    cases text with
    | nil => exact absurd rfl left
    | cons c rest =>
      by_cases last : c = newline
      next => simp [fgets, last]
      next =>
        have left : (fgets room rest).2 ≠ [] := by simpa [fgets, last] using left
        simp [fgets, last, ih left]

theorem rows_concat (text : Text) :
    ∃ n, rows (text ++ [newline]) = rows text ++ List.replicate n blank := by
  induction size : text.length using Nat.strong_induction_on generalizing text with
  | h n ih =>
    by_cases terminated : Terminated text
    next => exact ⟨1, by rw [rows_append terminated, rows_newline]; rfl⟩
    next =>
      have none_left : text ≠ [] := fun empty => terminated (empty ▸ terminated_nil)
      have longer : text ++ [newline] ≠ [] := by simp
      by_cases last : (fgets (lineSize - 1) text).2 = []
      next =>
        -- The last line: its newline is read with it, or as a line of its own.
        have all := fgets_split (lineSize - 1) text
        rw [last, List.append_nil] at all
        have whole : newline ∉ text := by
          obtain ⟨line, whole, same | same⟩ := fgets_ends (lineSize - 1) text
          next => rwa [← all, same]
          next =>
            rw [all] at same
            exact absurd (same ▸ terminated_concat line) terminated
        rw [rows_cons none_left, rows_cons longer, all, last]
        by_cases fits : text.length < lineSize - 1
        next =>
          rw [fgets_line whole fits []]
          exact ⟨0, by simp [row_concat whole, rows_nil]⟩
        next =>
          rw [fgets_full fits whole all]
          exact ⟨1, by simp [rows_nil, rows_newline]⟩
      next =>
        have shorter := fgets_takes (lineSize - 1) (by decide) none_left
        obtain ⟨k, later⟩ := ih _ (size ▸ shorter) (fgets (lineSize - 1) text).2 rfl
        rw [rows_cons none_left, rows_cons longer, fgets_more last, later]
        exact ⟨k, by simp⟩

end Kerchunk.Config
