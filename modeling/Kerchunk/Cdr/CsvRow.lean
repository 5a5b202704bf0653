import Kerchunk.Cdr.Replay

set_option autoImplicit false

/-!
# Rows of the call records (`csv_split_row` in `modules/mod_web.c`)

What the dashboard's reader makes of a row, and of the piece of a row that ends with a line break
inside quotes.
-/

namespace Kerchunk.Cdr

open Config

def unquoted : Text → Text × Option Text
  -- A quoted field up to its closing quote, and what follows it.
  | [] => ([], none)
  | [c] => if c = doubleQuote then ([], some []) else ([c], none)
  | c :: d :: rest =>
    if c = doubleQuote then
      if d = doubleQuote then (doubleQuote :: (unquoted rest).1, (unquoted rest).2)
      else ([], some (d :: rest))
    else (c :: (unquoted (d :: rest)).1, (unquoted (d :: rest)).2)

def quotedField (text : Text) : Text × Text :=
  match unquoted text with
  | (field, some rest) => (field, rest)
  -- Unescaped in place and not closed, it runs on into what was not overwritten.
  | (field, none) => (field ++ text.drop field.length, [])

def inField (c : Char) : Bool :=
  c ≠ ',' && c ≠ newline && c ≠ carriageReturn

def csvSplitRow : Nat → Text → List Text
  | 0, _ => []
  | _ + 1, [] => []
  | maxCols + 1, c :: text =>
    if c = doubleQuote then
      (quotedField text).1 ::
        match (quotedField text).2 with
        | [] => []
        | d :: rest =>
          if d = ',' then csvSplitRow maxCols rest
          else if d = newline ∨ d = carriageReturn then []
          else csvSplitRow maxCols (d :: rest)
    else
      (c :: text).takeWhile inField ::
        match (c :: text).dropWhile inField with
        | [] => []
        | d :: rest => if d = ',' then csvSplitRow maxCols rest else []

/-! ## Complete rows -/

def doubled (s : Text) : Text :=
  s.flatMap fun c => if c = doubleQuote then [doubleQuote, c] else [c]

theorem csvField_eq {s : Text} (clean : nul ∉ s) :
    csvField s = if s.any needsQuote then doubleQuote :: doubled s ++ [doubleQuote] else s := by
  simp only [csvField, cstr_same clean, doubled]

theorem unquoted_other {c : Char} (other : c ≠ doubleQuote) (rest : Text) :
    unquoted (c :: rest) = (c :: (unquoted rest).1, (unquoted rest).2) := by
  cases rest with
  | nil => simp [unquoted, other]
  | cons d rest => simp [unquoted, other]

theorem unquoted_quote (rest : Text) :
    unquoted (doubleQuote :: doubleQuote :: rest) =
      (doubleQuote :: (unquoted rest).1, (unquoted rest).2) := by
  simp [unquoted]

theorem unquoted_doubled (s rest : Text) :
    unquoted (doubled s ++ rest) = (s ++ (unquoted rest).1, (unquoted rest).2) := by
  induction s with
  | nil => rfl
  | cons c s ih =>
    by_cases quote : c = doubleQuote
    next =>
      have text : doubled (c :: s) ++ rest = doubleQuote :: doubleQuote :: (doubled s ++ rest) := by
        simp [doubled, quote]
      rw [text, unquoted_quote, ih, quote]
      rfl
    next =>
      have text : doubled (c :: s) ++ rest = c :: (doubled s ++ rest) := by
        simp [doubled, quote]
      rw [text, unquoted_other quote, ih]
      rfl

theorem unquoted_close {c : Char} (other : c ≠ doubleQuote) (rest : Text) :
    unquoted (doubleQuote :: c :: rest) = ([], some (c :: rest)) := by
  simp [unquoted, other]

theorem quotedField_closed (s : Text) {c : Char} (other : c ≠ doubleQuote) (rest : Text) :
    quotedField (doubled s ++ doubleQuote :: c :: rest) = (s, c :: rest) := by
  rw [quotedField, unquoted_doubled, unquoted_close other, List.append_nil]

theorem plain_field {s : Text} (plain : s.any needsQuote = false) :
    (∀ c ∈ s, inField c = true) ∧ doubleQuote ∉ s := by
  have each (c : Char) (member : c ∈ s) : needsQuote c = false := by
    simpa using List.any_eq_false.mp plain c member
  constructor
  next =>
    intro c member
    have free := each c member
    simp only [needsQuote, Bool.or_eq_false_iff, decide_eq_false_iff_not] at free
    simp [inField, free]
  next => exact fun member => absurd (each _ member) (by decide)

/-- A field with what ends it, as the writer wrote it. -/
theorem csvSplitRow_field {s : Text} (clean : nul ∉ s) {ends : Char}
    (stops : ends = ',' ∨ ends = newline) (maxCols : Nat) (rest : Text) :
    csvSplitRow (maxCols + 1) (csvField s ++ ends :: rest) =
      s :: if ends = ',' then csvSplitRow maxCols rest else [] := by
  have other : ends ≠ doubleQuote := by
    rcases stops with rfl | rfl <;> decide
  have outside : inField ends = false := by
    rcases stops with rfl | rfl <;> decide
  rw [csvField_eq clean]
  split
  next =>
    have text : doubleQuote :: doubled s ++ [doubleQuote] ++ ends :: rest =
        doubleQuote :: (doubled s ++ doubleQuote :: ends :: rest) := by simp
    rw [text, csvSplitRow, if_pos rfl, quotedField_closed s other]
    rcases stops with rfl | rfl
    next => simp
    next => simp [show newline ≠ ',' by decide]
  next plain =>
    obtain ⟨inside, noQuote⟩ := plain_field (by simpa using plain)
    have taken : (s ++ ends :: rest).takeWhile inField = s := by
      rw [List.takeWhile_append_of_pos inside]
      simp [outside]
    have dropped : (s ++ ends :: rest).dropWhile inField = ends :: rest := by
      rw [List.dropWhile_append_of_pos inside]
      simp [outside]
    cases s with
    | nil =>
      rw [List.nil_append] at taken dropped ⊢
      rw [csvSplitRow, if_neg other, taken, dropped]
    | cons c s =>
      have noQuote : c ≠ doubleQuote := fun same => noQuote (same ▸ List.mem_cons_self ..)
      rw [List.cons_append] at taken dropped ⊢
      rw [csvSplitRow, if_neg noQuote, taken, dropped]

theorem csvSplitRow_columns {fields : List Text} (clean : ∀ s ∈ fields, nul ∉ s) (maxCols : Nat)
    (rest : Text) :
    csvSplitRow (fields.length + maxCols) (fields.flatMap (fun s => csvField s ++ [',']) ++ rest) =
      fields ++ csvSplitRow maxCols rest := by
  induction fields with
  | nil => simp
  | cons s fields ih =>
    have later := ih fun t member => clean t (List.mem_cons_of_mem _ member)
    have first := csvSplitRow_field (clean s (List.mem_cons_self ..)) (.inl rfl)
      (fields.length + maxCols) (fields.flatMap (fun s => csvField s ++ [',']) ++ rest)
    rw [if_pos rfl, later] at first
    have size : (s :: fields).length + maxCols = fields.length + maxCols + 1 := by
      simp
      omega
    rw [size]
    simpa using first

theorem csvRow_concat (fields : List Text) (last : Text) :
    csvRow (fields.map csvField ++ [last]) =
      fields.flatMap (fun s => csvField s ++ [',']) ++ (last ++ [newline]) := by
  induction fields with
  | nil => rfl
  | cons s fields ih =>
    have more : fields.map csvField ++ [last] ≠ [] := by simp
    obtain ⟨head, tail, shape⟩ := List.exists_cons_of_ne_nil more
    have joined : csvRow (csvField s :: (fields.map csvField ++ [last])) =
        csvField s ++ ',' :: csvRow (fields.map csvField ++ [last]) := by
      rw [shape]
      simp [csvRow, csvColumns]
    rw [List.map_cons, List.cons_append, joined, ih]
    simp

theorem csvSplitRow_whole {fields : List Text} {last : Text} (clean : ∀ s ∈ fields, nul ∉ s)
    (cleanLast : nul ∉ last) (maxCols : Nat) :
    csvSplitRow (fields.length + (maxCols + 1)) (csvRow (fields.map csvField ++ [csvField last])) =
      fields ++ [last] := by
  have ends := csvSplitRow_field cleanLast (.inr rfl) maxCols []
  rw [if_neg (by decide)] at ends
  rw [csvRow_concat, csvSplitRow_columns clean, ends]

/-! ## Rows cut at a line break -/

def leftover (s : Text) : Text :=
  -- What the unescaping of a field and of the line break behind it leaves in place.
  (doubled s ++ [newline]).drop (s.length + 1)

theorem csvSplitRow_cut {fields : List Text} {last : Text} (clean : ∀ s ∈ fields, nul ∉ s)
    (maxCols : Nat) :
    csvSplitRow (fields.length + (maxCols + 1))
        (csvRow (fields.map csvField ++ [doubleQuote :: doubled last])) =
      fields ++ [last ++ newline :: leftover last] := by
  have open_ : unquoted (doubled last ++ [newline]) = (last ++ [newline], none) := by
    rw [unquoted_doubled]
    rfl
  have field : quotedField (doubled last ++ [newline]) =
      (last ++ newline :: leftover last, []) := by
    rw [quotedField, open_]
    simp [leftover]
  have ends : csvSplitRow (maxCols + 1) (doubleQuote :: doubled last ++ [newline]) =
      [last ++ newline :: leftover last] := by
    rw [List.cons_append, csvSplitRow, if_pos rfl, field]
  rw [csvRow_concat, csvSplitRow_columns clean, ends]

/-! ## Any line -/

def Line (text : Text) : Prop :=
  -- A line break is at most at the end.
  newline ∉ text.dropLast

theorem line_suffix {front rest : Text} (line : Line (front ++ rest)) : Line rest := by
  intro member
  have some : rest ≠ [] := by
    rintro rfl
    cases member
  refine line ?_
  rw [List.dropLast_append_of_ne_nil some]
  exact List.mem_append_right _ member

theorem line_front {front rest : Text} (line : Line (front ++ rest)) (some : rest ≠ []) :
    newline ∉ front := by
  intro member
  refine line ?_
  rw [List.dropLast_append_of_ne_nil some]
  exact List.mem_append_left _ member

theorem unquoted_consumes {text field rest : Text} (read : unquoted text = (field, some rest)) :
    ∃ consumed, text = consumed ++ rest ∧ ∀ c ∈ field, c ∈ consumed := by
  fun_induction unquoted text generalizing field with
  | case1 => simp at read
  | case2 =>
    obtain ⟨rfl, same⟩ := Prod.mk.inj read
    obtain rfl := Option.some.inj same
    exact ⟨[doubleQuote], rfl, by simp⟩
  | case3 => simp at read
  | case4 rest' ih =>
    obtain ⟨rfl, same⟩ := Prod.mk.inj read
    obtain ⟨consumed, text, inside⟩ := ih (Prod.ext rfl same)
    refine ⟨doubleQuote :: doubleQuote :: consumed, by simp [text], ?_⟩
    intro c member
    rcases List.mem_cons.mp member with rfl | later
    next => simp
    next => simp [inside c later]
  | case5 d rest' other =>
    obtain ⟨rfl, same⟩ := Prod.mk.inj read
    obtain rfl := Option.some.inj same
    exact ⟨[doubleQuote], rfl, by simp⟩
  | case6 c d rest' other ih =>
    obtain ⟨rfl, same⟩ := Prod.mk.inj read
    obtain ⟨consumed, text, inside⟩ := ih (Prod.ext rfl same)
    refine ⟨c :: consumed, by simp [text], ?_⟩
    intro e member
    rcases List.mem_cons.mp member with rfl | later
    next => simp
    next => simp [inside e later]

theorem quotedField_line {text d : Text} {c : Char} (line : Line text)
    (more : (quotedField text).2 = c :: d) :
    newline ∉ (quotedField text).1 ∧ Line (c :: d) := by
  unfold quotedField at more ⊢
  split at more
  next field rest read =>
    dsimp only at more ⊢
    obtain ⟨consumed, rfl, inside⟩ := unquoted_consumes read
    have some : rest ≠ [] := by simp [more]
    have clear := line_front line some
    rw [← more]
    exact ⟨fun member => clear (inside _ member), line_suffix line⟩
  next => cases more

theorem takeWhile_inField (text : Text) : newline ∉ text.takeWhile inField := fun member =>
  absurd (List.mem_takeWhile_imp member) (by decide)

/-- Of the columns of a line only the last can hold a line break. -/
theorem csvSplitRow_line {maxCols : Nat} {text : Text} (line : Line text) :
    ∀ s ∈ (csvSplitRow maxCols text).dropLast, newline ∉ s := by
  have first {field : Text} {rest : List Text} (clear : rest ≠ [] → newline ∉ field)
      (later : ∀ s ∈ rest.dropLast, newline ∉ s) : ∀ s ∈ (field :: rest).dropLast, newline ∉ s := by
    intro s member
    cases rest with
    | nil => cases member
    | cons next rest =>
      rw [List.dropLast_cons_of_ne_nil (List.cons_ne_nil _ _)] at member
      rcases List.mem_cons.mp member with rfl | among
      next => exact clear (List.cons_ne_nil _ _)
      next => exact later s among
  induction maxCols generalizing text with
  | zero => simp [csvSplitRow]
  | succ maxCols ih =>
    cases text with
    | nil => simp [csvSplitRow]
    | cons c text =>
      have inner : Line text := @line_suffix [c] text line
      rw [csvSplitRow]
      split
      next =>
        cases more : (quotedField text).2 with
        | nil => simp
        | cons d rest =>
          obtain ⟨clear, after⟩ := quotedField_line inner more
          refine first (fun _ => clear) ?_
          dsimp only
          split_ifs
          next => exact ih (@line_suffix [d] rest after)
          next => simp
          next => exact ih after
      next =>
        refine first (fun _ => takeWhile_inField _) ?_
        have whole := List.takeWhile_append_dropWhile (p := inField) (l := c :: text)
        cases more : (c :: text).dropWhile inField with
        | nil => simp
        | cons d rest =>
          rw [more] at whole
          have after : Line (d :: rest) := by
            rw [← whole] at line
            exact line_suffix line
          dsimp only
          split_ifs
          next => exact ih (@line_suffix [d] rest after)
          next => simp

theorem unquoted_length (text : Text) :
    (unquoted text).1.length + ((unquoted text).2.getD []).length ≤ text.length := by
  fun_induction unquoted text with
  | case1 => simp
  | case2 => simp
  | case3 => simp
  | case4 rest ih =>
    simp only [List.length_cons]
    omega
  | case5 d rest other => simp
  | case6 c d rest other ih =>
    simp only [List.length_cons] at ih ⊢
    omega

theorem quotedField_length (text : Text) :
    (quotedField text).1.length + (quotedField text).2.length ≤ text.length := by
  have size := unquoted_length text
  unfold quotedField
  split
  next field rest read =>
    rw [read] at size
    exact size
  next field read =>
    rw [read] at size
    simp only [List.length_append, List.length_drop, List.length_nil, Option.getD_none] at size ⊢
    omega

/-- The columns of a row take no more than the row. -/
theorem csvSplitRow_length (maxCols : Nat) (text : Text) :
    ((csvSplitRow maxCols text).map List.length).sum ≤ text.length := by
  induction maxCols generalizing text with
  | zero => simp [csvSplitRow]
  | succ maxCols ih =>
    cases text with
    | nil => simp [csvSplitRow]
    | cons c text =>
      rw [csvSplitRow]
      split
      next =>
        have size := quotedField_length text
        cases more : (quotedField text).2 with
        | nil =>
          simp only [List.map_cons, List.map_nil, List.sum_cons, List.sum_nil, List.length_cons]
          omega
        | cons d rest =>
          rw [more, List.length_cons] at size
          have here := ih rest
          have there := ih (d :: rest)
          simp only [List.map_cons, List.sum_cons, List.length_cons] at there ⊢
          split_ifs
          next => omega
          next =>
            simp only [List.map_nil, List.sum_nil]
            omega
          next => omega
      next =>
        have whole := congrArg List.length
          (List.takeWhile_append_dropWhile (p := inField) (l := c :: text))
        cases more : (c :: text).dropWhile inField with
        | nil =>
          rw [more, List.append_nil] at whole
          simp only [List.map_cons, List.map_nil, List.sum_cons, List.sum_nil]
          omega
        | cons d rest =>
          rw [more, List.length_append, List.length_cons] at whole
          have here := ih rest
          simp only [List.map_cons, List.sum_cons]
          split_ifs
          next => omega
          next =>
            simp only [List.map_nil, List.sum_nil]
            omega

end Kerchunk.Cdr
