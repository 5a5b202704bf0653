import Kerchunk.Lib.Json

set_option autoImplicit false

/-!
# Nested JSON

A reader of texts without blanks, and the texts that it reads back. How keys and strings are escaped
is a parameter.
-/

namespace Json

inductive Tree where
  | null
  | truth (b : Bool)
  | number (lexeme : List Char)
  | string (s : List Char)
  | array (items : List Tree)
  | object (fields : List (List Char × Tree))

def nullWord : List Char := "null".toList

def readWord (text : List Char) : Option (Tree × List Char) :=
  match expect nullWord text, expect trueWord text, expect falseWord text with
  | some rest, _, _ => some (.null, rest)
  | none, some rest, _ => some (.truth true, rest)
  | none, none, some rest => some (.truth false, rest)
  | none, none, none =>
    let lexeme := text.takeWhile numberChar
    if isNumber lexeme then some (.number lexeme, text.dropWhile numberChar) else none

/-! ## Reading -/

mutual

def readTree : Nat → List Char → Option (Tree × List Char)
  | 0, _ => none
  | fuel + 1, text =>
    match expect ['"'] text, expect ['['] text, expect [openBrace] text with
    | some rest, _, _ => (readString (rest.length + 1) rest).map fun r => (.string r.1, r.2)
    | none, some rest, _ =>
      match expect [']'] rest with
      | some after => some (.array [], after)
      | none => (readItems fuel rest).map fun r => (.array r.1, r.2)
    | none, none, some rest =>
      match expect [closeBrace] rest with
      | some after => some (.object [], after)
      | none => (readFields fuel rest).map fun r => (.object r.1, r.2)
    | none, none, none => readWord text

def readItems : Nat → List Char → Option (List Tree × List Char)
  | 0, _ => none
  | fuel + 1, text =>
    (readTree fuel text).bind fun t =>
      match expect [','] t.2 with
      | some rest => (readItems fuel rest).map fun r => (t.1 :: r.1, r.2)
      | none => (expect [']'] t.2).map fun rest => ([t.1], rest)

def readFields : Nat → List Char → Option (List (List Char × Tree) × List Char)
  | 0, _ => none
  | fuel + 1, text =>
    (expect ['"'] text).bind fun rest =>
      (readString (rest.length + 1) rest).bind fun key =>
        (expect [':'] key.2).bind fun rest =>
          (readTree fuel rest).bind fun t =>
            match expect [','] t.2 with
            | some rest => (readFields fuel rest).map fun r => ((key.1, t.1) :: r.1, r.2)
            | none => (expect [closeBrace] t.2).map fun rest => ([(key.1, t.1)], rest)

end

def readJson (text : List Char) : Option Tree :=
  -- The whole text is one value.
  (readTree (text.length + 1) text).bind fun t => if t.2.isEmpty then some t.1 else none

/-! ## Writing -/

section Writing

variable (name write : List Char → List Char)

def stringText (s : List Char) : List Char :=
  '"' :: (write s ++ ['"'])

mutual

def Tree.text : Tree → List Char
  | .null => nullWord
  | .truth true => trueWord
  | .truth false => falseWord
  | .number lexeme => lexeme
  | .string s => stringText write s
  | .array items => '[' :: (itemsText items ++ [']'])
  | .object fields => openBrace :: (fieldsText fields ++ [closeBrace])

def itemsText : List Tree → List Char
  | [] => []
  | t :: items => t.text ++ moreItems items

def moreItems : List Tree → List Char
  | [] => []
  | t :: items => ',' :: (t.text ++ moreItems items)

def fieldsText : List (List Char × Tree) → List Char
  | [] => []
  | (key, t) :: fields => stringText name key ++ ':' :: (t.text ++ moreFields fields)

def moreFields : List (List Char × Tree) → List Char
  | [] => []
  | (key, t) :: fields => ',' :: (stringText name key ++ ':' :: (t.text ++ moreFields fields))

end

/-- The string comes back from what is written for it. -/
def Kept (s : List Char) : Prop :=
  ∀ rest fuel, (write s).length < fuel → readString fuel (write s ++ '"' :: rest) = some (s, rest)

mutual

def Tree.Faithful : Tree → Prop
  | .null => True
  | .truth _ => True
  | .number lexeme => isNumber lexeme = true ∧ lexeme.all numberChar = true
  | .string s => Kept write s
  | .array items => ItemsFaithful items
  | .object fields => FieldsFaithful fields

def ItemsFaithful : List Tree → Prop
  | [] => True
  | t :: items => t.Faithful ∧ ItemsFaithful items

def FieldsFaithful : List (List Char × Tree) → Prop
  | [] => True
  | (key, t) :: fields => Kept name key ∧ t.Faithful ∧ FieldsFaithful fields

end

variable {name write}

theorem text_string (s : List Char) : (Tree.string s).text name write = '"' :: (write s ++ ['"']) := by
  rw [Tree.text, stringText]

theorem text_number (lexeme : List Char) : (Tree.number lexeme).text name write = lexeme := by
  rw [Tree.text]

theorem text_array (items : List Tree) :
    (Tree.array items).text name write = '[' :: (itemsText name write items ++ [']']) := by
  rw [Tree.text]

theorem expect_quote (s tail : List Char) :
    expect ['"'] (stringText write s ++ tail) = some (write s ++ '"' :: tail) := by
  have split : stringText write s ++ tail = '"' :: (write s ++ '"' :: tail) := by
    simp [stringText]
  rw [split, expect_head]

theorem readString_kept {s : List Char} (kept : Kept write s) (tail : List Char) :
    readString ((write s ++ '"' :: tail).length + 1) (write s ++ '"' :: tail) = some (s, tail) :=
  kept tail _ (by rw [List.length_append]; omega)

/-- Behind its bracket, an array is closed or its items are read. -/
theorem readTree_bracket (ts : List Tree) (tail : List Char) (fuel : Nat) :
    readTree (fuel + 1) (Tree.text name write (.array ts) ++ tail) =
      match expect [']'] (itemsText name write ts ++ ']' :: tail) with
      | some after => some (.array [], after)
      | none =>
        (readItems fuel (itemsText name write ts ++ ']' :: tail)).map fun r => (.array r.1, r.2) := by
  have split : Tree.text name write (.array ts) ++ tail =
      '[' :: (itemsText name write ts ++ ']' :: tail) := by
    simp [Tree.text]
  have noQuote (rest : List Char) : expect ['"'] ('[' :: rest) = none := expect_other (by decide)
  rw [split, readTree, noQuote, expect_head]

/-- Behind its brace, an object is closed or its fields are read. -/
theorem readTree_brace (fields : List (List Char × Tree)) (tail : List Char) (fuel : Nat) :
    readTree (fuel + 1) (Tree.text name write (.object fields) ++ tail) =
      match expect [closeBrace] (fieldsText name write fields ++ closeBrace :: tail) with
      | some after => some (.object [], after)
      | none =>
        (readFields fuel (fieldsText name write fields ++ closeBrace :: tail)).map
          fun r => (.object r.1, r.2) := by
  have split : Tree.text name write (.object fields) ++ tail =
      openBrace :: (fieldsText name write fields ++ closeBrace :: tail) := by
    simp [Tree.text]
  have noQuote (rest : List Char) : expect ['"'] (openBrace :: rest) = none := expect_other (by decide)
  have noBracket (rest : List Char) : expect ['['] (openBrace :: rest) = none := expect_other (by decide)
  rw [split, readTree, noQuote, noBracket, expect_head]

theorem readWord_number {lexeme tail : List Char} (number : isNumber lexeme = true)
    (all : lexeme.all numberChar = true) (ends : ∀ c ∈ tail.head?, numberChar c = false) :
    readWord (lexeme ++ tail) = some (.number lexeme, tail) := by
  have read := readNumber_text number all ends
  cases lexeme with
  | nil => cases number
  | cons c lexeme =>
    have others : numberChar 'n' = false := by decide
    have isOne := List.all_eq_true.mp all c (by simp)
    obtain ⟨-, noTrue, noFalse⟩ := numberChar_spec isOne
    have noNull : c ≠ 'n' := by
      rintro rfl
      simp [others] at isOne
    have first : expect nullWord (c :: (lexeme ++ tail)) = none := expect_other (Ne.symm noNull)
    have second : expect trueWord (c :: (lexeme ++ tail)) = none := expect_other (Ne.symm noTrue)
    have third : expect falseWord (c :: (lexeme ++ tail)) = none := expect_other (Ne.symm noFalse)
    unfold readNumber at read
    rw [List.cons_append] at read ⊢
    rw [readWord, first, second, third]
    split at read
    next isLexeme =>
      obtain ⟨same, after⟩ := Prod.mk.inj (Option.some.inj read)
      have taken := Value.number.inj same
      simp only [taken, after]
      rw [if_pos number]
    next => cases read

/-! ## Reading back -/

theorem text_head {t : Tree} (faithful : t.Faithful name write) :
    ∃ c rest, t.text name write = c :: rest ∧ c ≠ ']' := by
  cases t with
  | null => exact ⟨'n', _, rfl, by decide⟩
  | truth b =>
    cases b with
    | true => exact ⟨'t', _, rfl, by decide⟩
    | false => exact ⟨'f', _, rfl, by decide⟩
  | number lexeme =>
    unfold Tree.Faithful at faithful
    cases lexeme with
    | nil => exact absurd faithful.1 (by decide)
    | cons c rest =>
      refine ⟨c, rest, rfl, ?_⟩
      rintro rfl
      have isOne := List.all_eq_true.mp faithful.2 ']' (by simp)
      exact absurd isOne (by decide)
  | string s => exact ⟨'"', _, rfl, by decide⟩
  | array items => exact ⟨'[', _, rfl, by decide⟩
  | object fields => exact ⟨openBrace, _, rfl, by decide⟩

/-- How the reader of a value goes on behind its first character. -/
theorem readTree_scalar {c : Char} {rest : List Char} (other : c ≠ '"' ∧ c ≠ '[' ∧ c ≠ openBrace)
    (fuel : Nat) : readTree (fuel + 1) (c :: rest) = readWord (c :: rest) := by
  have first : expect ['"'] (c :: rest) = none := expect_other (Ne.symm other.1)
  have second : expect ['['] (c :: rest) = none := expect_other (Ne.symm other.2.1)
  have third : expect [openBrace] (c :: rest) = none := expect_other (Ne.symm other.2.2)
  rw [readTree, first, second, third]

theorem readTree_string {s : List Char} (kept : Kept write s) (tail : List Char) (fuel : Nat) :
    readTree (fuel + 1) (stringText write s ++ tail) = some (.string s, tail) := by
  rw [readTree, expect_quote]
  simp only [readString_kept kept tail, Option.map_some]

theorem readTree_word {t : Tree} {tail : List Char} (fuel : Nat)
    (word : t = .null ∨ ∃ b, t = .truth b) :
    readTree (fuel + 1) (t.text name write ++ tail) = some (t, tail) := by
  rcases word with rfl | ⟨_ | _, rfl⟩
  next =>
    have read : readWord (nullWord ++ tail) = some (.null, tail) := by
      rw [readWord, expect_append]
    exact (readTree_scalar (c := 'n') (by decide) fuel).trans read
  next =>
    have first : expect nullWord (falseWord ++ tail) = none := expect_other (by decide)
    have second : expect trueWord (falseWord ++ tail) = none := expect_other (by decide)
    have read : readWord (falseWord ++ tail) = some (.truth false, tail) := by
      rw [readWord, first, second, expect_append]
    exact (readTree_scalar (c := 'f') (by decide) fuel).trans read
  next =>
    have first : expect nullWord (trueWord ++ tail) = none := expect_other (by decide)
    have read : readWord (trueWord ++ tail) = some (.truth true, tail) := by
      rw [readWord, first, expect_append]
    exact (readTree_scalar (c := 't') (by decide) fuel).trans read

theorem readTree_number {lexeme tail : List Char} (number : isNumber lexeme = true)
    (all : lexeme.all numberChar = true) (ends : ∀ c ∈ tail.head?, numberChar c = false) (fuel : Nat) :
    readTree (fuel + 1) (lexeme ++ tail) = some (.number lexeme, tail) := by
  have read := readWord_number number all ends
  cases lexeme with
  | nil => cases number
  | cons c lexeme =>
    have isOne := List.all_eq_true.mp all c (by simp)
    have others : numberChar '"' = false ∧ numberChar '[' = false ∧ numberChar openBrace = false := by
      decide
    refine (readTree_scalar ⟨?_, ?_, ?_⟩ fuel).trans read <;>
    · rintro rfl
      simp [others] at isOne

variable (name write) in
/-- Values, items and fields that are read back where `fuel` is left. -/
structure ReadBack (fuel : Nat) : Prop where
  tree : ∀ t tail, t.Faithful name write → (t.text name write).length < fuel →
    (∀ c ∈ tail.head?, numberChar c = false) → readTree fuel (t.text name write ++ tail) = some (t, tail)
  items : ∀ t items tail, t.Faithful name write → ItemsFaithful name write items →
    (t.text name write ++ moreItems name write items).length + 1 < fuel →
    readItems fuel (t.text name write ++ (moreItems name write items ++ ']' :: tail)) =
      some (t :: items, tail)
  fields : ∀ key t fields tail, Kept name key → t.Faithful name write → FieldsFaithful name write fields →
    (stringText name key ++ ':' :: (t.text name write ++ moreFields name write fields)).length + 1 < fuel →
    readFields fuel (stringText name key ++
      ':' :: (t.text name write ++ (moreFields name write fields ++ closeBrace :: tail))) =
      some ((key, t) :: fields, tail)

theorem brace_ends : numberChar ',' = false ∧ numberChar ']' = false ∧
    numberChar closeBrace = false := by
  decide

theorem readTree_array {fuel : Nat} (back : ReadBack name write fuel) (ts : List Tree) (tail : List Char)
    (faithful : ItemsFaithful name write ts) (enough : (Tree.text name write (.array ts)).length < fuel + 1) :
    readTree (fuel + 1) (Tree.text name write (.array ts) ++ tail) = some (.array ts, tail) := by
  rw [readTree_bracket]
  cases ts with
  | nil => simp only [itemsText, List.nil_append, expect_head]
  | cons t items =>
    obtain ⟨faithfulT, faithfulItems⟩ : t.Faithful name write ∧ ItemsFaithful name write items := by
      simpa only [ItemsFaithful] using faithful
    have read := back.items t items tail faithfulT faithfulItems (by
      simp only [Tree.text, itemsText, List.length_cons, List.length_append] at enough ⊢
      omega)
    obtain ⟨c, rest, text, other⟩ := text_head faithfulT
    have more : expect [']'] (t.text name write ++ (moreItems name write items ++ ']' :: tail)) = none := by
      rw [text]
      exact expect_other (Ne.symm other)
    simp only [itemsText, List.append_assoc, more, read, Option.map_some]

theorem readTree_object {fuel : Nat} (back : ReadBack name write fuel) (fields : List (List Char × Tree))
    (tail : List Char) (faithful : FieldsFaithful name write fields)
    (enough : (Tree.text name write (.object fields)).length < fuel + 1) :
    readTree (fuel + 1) (Tree.text name write (.object fields) ++ tail) = some (.object fields, tail) := by
  rw [readTree_brace]
  cases fields with
  | nil => simp only [fieldsText, List.nil_append, expect_head]
  | cons field fields =>
    obtain ⟨key, t⟩ := field
    obtain ⟨kept, faithfulT, faithfulFields⟩ :
        Kept name key ∧ t.Faithful name write ∧ FieldsFaithful name write fields := by
      simpa only [FieldsFaithful] using faithful
    have read := back.fields key t fields tail kept faithfulT faithfulFields (by
      simp only [Tree.text, fieldsText, List.length_cons, List.length_append] at enough ⊢
      omega)
    have more (rest : List Char) : expect [closeBrace] (stringText name key ++ rest) = none :=
      expect_other (by decide)
    simp only [fieldsText, List.append_assoc, List.cons_append, more, read, Option.map_some]

theorem readItems_step {fuel : Nat} (back : ReadBack name write fuel) (t : Tree) (items : List Tree)
    (tail : List Char) (faithful : t.Faithful name write) (others : ItemsFaithful name write items)
    (enough : (t.text name write ++ moreItems name write items).length + 1 < fuel + 1) :
    readItems (fuel + 1) (t.text name write ++ (moreItems name write items ++ ']' :: tail)) =
      some (t :: items, tail) := by
  obtain ⟨comma, bracket, -⟩ := brace_ends
  obtain ⟨c, rest, text, -⟩ := text_head faithful
  have long : 0 < (t.text name write).length := by simp [text]
  rw [List.length_append] at enough
  cases items with
  | nil =>
    have read := back.tree t (']' :: tail) faithful (by omega) (by simp [bracket])
    have other : expect [','] (']' :: tail) = none := expect_other (by decide)
    rw [readItems, moreItems, List.nil_append, read, Option.bind_some]
    simp only [other, expect_head, Option.map_some]
  | cons u items =>
    obtain ⟨faithfulU, faithfulItems⟩ : u.Faithful name write ∧ ItemsFaithful name write items := by
      simpa only [ItemsFaithful] using others
    rw [moreItems, List.length_cons] at enough
    have read := back.tree t (',' :: (u.text name write ++ (moreItems name write items ++ ']' :: tail))) faithful
      (by omega) (by simp [comma])
    have later := back.items u items tail faithfulU faithfulItems (by omega)
    rw [readItems, moreItems, List.cons_append, List.append_assoc, read, Option.bind_some]
    simp only [expect_head, later, Option.map_some]

theorem readFields_step {fuel : Nat} (back : ReadBack name write fuel) (key : List Char) (t : Tree)
    (fields : List (List Char × Tree)) (tail : List Char) (kept : Kept name key)
    (faithful : t.Faithful name write) (others : FieldsFaithful name write fields)
    (enough : (stringText name key ++ ':' :: (t.text name write ++ moreFields name write fields)).length + 1 <
      fuel + 1) :
    readFields (fuel + 1) (stringText name key ++
      ':' :: (t.text name write ++ (moreFields name write fields ++ closeBrace :: tail))) =
      some ((key, t) :: fields, tail) := by
  obtain ⟨comma, -, brace⟩ := brace_ends
  rw [List.length_append, List.length_cons, List.length_append] at enough
  rw [readFields, expect_quote, Option.bind_some, readString_kept kept, Option.bind_some]
  simp only [expect_head, Option.bind_some]
  cases fields with
  | nil =>
    have read := back.tree t (closeBrace :: tail) faithful (by omega) (by simp [brace])
    have other : expect [','] (closeBrace :: tail) = none := expect_other (by decide)
    simp only [moreFields, List.nil_append, read, Option.bind_some, other, expect_head,
      Option.map_some]
  | cons field fields =>
    obtain ⟨next, u⟩ := field
    obtain ⟨keptNext, faithfulU, faithfulFields⟩ :
        Kept name next ∧ u.Faithful name write ∧ FieldsFaithful name write fields := by
      simpa only [FieldsFaithful] using others
    rw [moreFields, List.length_cons] at enough
    have read := back.tree t (',' :: (stringText name next ++
      ':' :: (u.text name write ++ (moreFields name write fields ++ closeBrace :: tail)))) faithful
      (by omega) (by simp [comma])
    have later := back.fields next u fields tail keptNext faithfulU faithfulFields (by omega)
    simp only [moreFields, List.cons_append, List.append_assoc, read, Option.bind_some, expect_head,
      later, Option.map_some]

theorem readBack (fuel : Nat) : ReadBack name write fuel := by
  induction fuel with
  | zero => exact ⟨fun _ _ _ few => by omega, fun _ _ _ _ _ few => by omega, fun _ _ _ _ _ _ _ few => by omega⟩
  | succ fuel back =>
    refine ⟨fun t tail faithful enough ends => ?_, readItems_step back, readFields_step back⟩
    cases t with
    | null => exact readTree_word fuel (.inl rfl)
    | truth b => exact readTree_word fuel (.inr ⟨b, rfl⟩)
    | number lexeme =>
      unfold Tree.Faithful at faithful
      exact readTree_number faithful.1 faithful.2 ends fuel
    | string s =>
      unfold Tree.Faithful at faithful
      exact readTree_string faithful tail fuel
    | array items =>
      unfold Tree.Faithful at faithful
      exact readTree_array back items tail faithful enough
    | object fields =>
      unfold Tree.Faithful at faithful
      exact readTree_object back fields tail faithful enough

/-- What was written faithfully is read back. -/
theorem readJson_text {t : Tree} (faithful : t.Faithful name write) :
    readJson (t.text name write) = some t := by
  have read := (readBack ((t.text name write).length + 1)).tree t [] faithful
    (Nat.lt_succ_self _) (by simp)
  rw [List.append_nil] at read
  rw [readJson, read]
  rfl

theorem kept_plain {s : List Char} (plain : Plain s) : Kept id s :=
  fun rest _ enough => readString_plain plain rest enough

/-! ## Faithful values -/

theorem faithful_number {lexeme : List Char} (regular : (Value.number lexeme).Regular) :
    (Tree.number lexeme).Faithful name write := by
  unfold Tree.Faithful
  exact regular

theorem regular_negative {lexeme : List Char} (regular : (Value.number lexeme).Regular)
    (unsigned : ¬ lexeme.head? = some '-') : (Value.number ('-' :: lexeme)).Regular := by
  obtain ⟨number, all⟩ := regular
  refine ⟨?_, by rw [List.all_cons, all]; rfl⟩
  simp only [isNumber, if_neg unsigned] at number
  simpa [isNumber] using number

theorem faithful_array {items : List Tree} :
    (Tree.array items).Faithful name write ↔ ∀ t ∈ items, t.Faithful name write := by
  rw [Tree.Faithful]
  induction items with
  | nil => simp [ItemsFaithful]
  | cons t items ih => rw [ItemsFaithful, ih, List.forall_mem_cons]

theorem faithful_object {fields : List (List Char × Tree)} :
    (Tree.object fields).Faithful name write ↔
      ∀ f ∈ fields, Kept name f.1 ∧ f.2.Faithful name write := by
  rw [Tree.Faithful]
  induction fields with
  | nil => simp [FieldsFaithful]
  | cons f fields ih => rw [FieldsFaithful, ih, List.forall_mem_cons, and_assoc]

theorem faithful_plain {s : List Char} (plain : Plain s) : (Tree.string s).Faithful name id := by
  unfold Tree.Faithful
  exact kept_plain plain

/-- An object with keys that need no escape. -/
theorem faithful_record {fields : List (List Char × Tree)}
    (keys : (fields.map Prod.fst).all (fun key => key.all plainChar) = true) :
    (Tree.object fields).Faithful id write ↔ ∀ f ∈ fields, f.2.Faithful id write := by
  rw [faithful_object]
  refine ⟨fun all f member => (all f member).2, fun values f member => ⟨?_, values f member⟩⟩
  refine kept_plain fun c inside => ?_
  have plain := List.all_eq_true.mp keys f.1 (List.mem_map_of_mem member)
  exact List.all_eq_true.mp plain c inside

/-! ## Items behind each other -/

/-- A comma is put before every text but the first. -/
def separated : List (List Char) → List (List Char)
  | [] => []
  | t :: ts => t :: ts.map (',' :: ·)

theorem separated_length (ts : List (List Char)) :
    (separated ts).flatten.length = ts.flatten.length + (ts.length - 1) := by
  cases ts with
  | nil => rfl
  | cons t ts =>
    have commas : ((ts.map (',' :: ·)).flatten).length = ts.flatten.length + ts.length := by
      induction ts with
      | nil => rfl
      | cons u ts ih => simp [ih]; omega
    rw [separated, List.flatten_cons, List.length_append, commas, List.flatten_cons,
      List.length_append, List.length_cons]
    omega

theorem moreItems_separated (ts : List Tree) :
    moreItems name write ts = ((ts.map (Tree.text name write)).map (',' :: ·)).flatten := by
  induction ts with
  | nil => simp [moreItems]
  | cons t ts ih => simp [moreItems, ih]

theorem itemsText_separated (ts : List Tree) :
    itemsText name write ts = (separated (ts.map (Tree.text name write))).flatten := by
  cases ts with
  | nil => simp [itemsText, separated]
  | cons t ts => simp [itemsText, separated, moreItems_separated]

/-! ## Only faithful values come back -/

variable (write) in
/-- A string that is read at its own place was kept. -/
def Told : Prop :=
  ∀ s rest z fuel, readString fuel (write s ++ '"' :: rest) = some (s, z) → Kept write s

theorem told_id : Told id := by
  intro s rest z fuel found
  exact kept_plain (plain_of_readString found)

theorem kept_id_iff {s : List Char} : Kept id s ↔ Plain s :=
  ⟨fun kept => plain_of_readString (kept [] (s.length + 1) (Nat.lt_succ_self _)), kept_plain⟩

theorem faithful_string_iff {s : List Char} : (Tree.string s).Faithful name id ↔ Plain s := by
  unfold Tree.Faithful
  exact kept_id_iff

variable (name write) in
/-- What a successful reading of a written value, of items or of fields tells. -/
structure Exact (fuel : Nat) : Prop where
  tree : ∀ t tail rest, readTree fuel (t.text name write ++ tail) = some (t, rest) →
    t.Faithful name write ∧ rest = tail
  items : ∀ t items tail rest,
    readItems fuel (t.text name write ++ (moreItems name write items ++ ']' :: tail)) =
      some (t :: items, rest) →
    t.Faithful name write ∧ ItemsFaithful name write items ∧ rest = tail
  fields : ∀ key t fields tail rest,
    readFields fuel (stringText name key ++
      ':' :: (t.text name write ++ (moreFields name write fields ++ closeBrace :: tail))) =
      some ((key, t) :: fields, rest) →
    Kept name key ∧ t.Faithful name write ∧ FieldsFaithful name write fields ∧ rest = tail

theorem told_string (told : Told write) {s tail z : List Char}
    (found : readString ((write s ++ '"' :: tail).length + 1) (write s ++ '"' :: tail) = some (s, z)) :
    Kept write s ∧ z = tail := by
  have kept := told s tail z _ found
  rw [readString_kept kept tail] at found
  exact ⟨kept, (Prod.mk.inj (Option.some.inj found)).2.symm⟩

theorem exact_number {lexeme tail rest : List Char}
    (found : readWord (lexeme ++ tail) = some (.number lexeme, rest)) :
    (Tree.number lexeme).Faithful name write ∧ rest = tail := by
  unfold readWord at found
  split at found
  next => cases found
  next => cases found
  next => cases found
  next =>
    dsimp only at found
    split at found
    next isLexeme =>
      obtain ⟨same, after⟩ := Prod.mk.inj (Option.some.inj found)
      have taken := Tree.number.inj same
      have whole := List.takeWhile_append_dropWhile (p := numberChar) (l := lexeme ++ tail)
      have all := List.all_takeWhile (p := numberChar) (l := lexeme ++ tail)
      rw [taken] at isLexeme whole all
      unfold Tree.Faithful
      exact ⟨⟨isLexeme, all⟩, after.symm.trans (List.append_cancel_left whole)⟩
    next => cases found

theorem readTree_exact_number {lexeme tail rest : List Char} {fuel : Nat}
    (found : readTree (fuel + 1) (lexeme ++ tail) = some (.number lexeme, rest)) :
    (Tree.number lexeme).Faithful name write ∧ rest = tail := by
  rw [readTree] at found
  split at found
  next => simp at found
  next =>
    split at found
    next => simp at found
    next => simp at found
  next =>
    split at found
    next => simp at found
    next => simp at found
  next => exact exact_number found

theorem readTree_exact_string (told : Told write) {s tail rest : List Char} {fuel : Nat}
    (found : readTree (fuel + 1) (stringText write s ++ tail) = some (.string s, rest)) :
    Kept write s ∧ rest = tail := by
  rw [readTree, expect_quote] at found
  obtain ⟨⟨read, after⟩, reads, same⟩ := Option.map_eq_some_iff.mp found
  obtain ⟨isString, rfl⟩ := Prod.mk.inj same
  obtain rfl := Tree.string.inj isString
  exact told_string told reads

theorem readTree_exact_array {fuel : Nat} (exact : Exact name write fuel) {ts : List Tree}
    {tail rest : List Char}
    (found : readTree (fuel + 1) (Tree.text name write (.array ts) ++ tail) = some (.array ts, rest)) :
    (Tree.array ts).Faithful name write ∧ rest = tail := by
  rw [readTree_bracket] at found
  unfold Tree.Faithful
  cases ts with
  | nil =>
    simp only [itemsText, List.nil_append, expect_head] at found
    exact ⟨trivial, (Prod.mk.inj (Option.some.inj found)).2.symm⟩
  | cons t items =>
    split at found
    next => simp at found
    next =>
      obtain ⟨⟨read, after⟩, reads, same⟩ := Option.map_eq_some_iff.mp found
      obtain ⟨isArray, rfl⟩ := Prod.mk.inj same
      obtain rfl := Tree.array.inj isArray
      rw [itemsText, List.append_assoc] at reads
      obtain ⟨faithful, others, ends⟩ := exact.items t items tail after reads
      unfold ItemsFaithful
      exact ⟨⟨faithful, others⟩, ends⟩

theorem readTree_exact_object {fuel : Nat} (exact : Exact name write fuel)
    {fields : List (List Char × Tree)} {tail rest : List Char}
    (found : readTree (fuel + 1) (Tree.text name write (.object fields) ++ tail) =
      some (.object fields, rest)) :
    (Tree.object fields).Faithful name write ∧ rest = tail := by
  rw [readTree_brace] at found
  unfold Tree.Faithful
  cases fields with
  | nil =>
    simp only [fieldsText, List.nil_append, expect_head] at found
    exact ⟨trivial, (Prod.mk.inj (Option.some.inj found)).2.symm⟩
  | cons field fields =>
    obtain ⟨key, t⟩ := field
    split at found
    next => simp at found
    next =>
      obtain ⟨⟨read, after⟩, reads, same⟩ := Option.map_eq_some_iff.mp found
      obtain ⟨isObject, rfl⟩ := Prod.mk.inj same
      obtain rfl := Tree.object.inj isObject
      rw [fieldsText, List.append_assoc, List.cons_append, List.append_assoc] at reads
      obtain ⟨kept, faithful, others, ends⟩ := exact.fields key t fields tail after reads
      unfold FieldsFaithful
      exact ⟨⟨kept, faithful, others⟩, ends⟩

/-- An item is read, and what follows it is read behind a comma or is the closing bracket. -/
theorem readItems_cons {fuel : Nat} {text rest : List Char} {t : Tree} {items : List Tree}
    (found : readItems (fuel + 1) text = some (t :: items, rest)) :
    ∃ after, readTree fuel text = some (t, after) ∧
      ((∃ more, expect [','] after = some more ∧ readItems fuel more = some (items, rest)) ∨
        expect [','] after = none ∧ items = [] ∧ expect [']'] after = some rest) := by
  rw [readItems] at found
  obtain ⟨⟨read, after⟩, reads, goesOn⟩ := Option.bind_eq_some_iff.mp found
  dsimp only at goesOn
  split at goesOn
  next more comma =>
    obtain ⟨⟨later, z⟩, readsLater, same⟩ := Option.map_eq_some_iff.mp goesOn
    obtain ⟨isList, rfl⟩ := Prod.mk.inj same
    obtain ⟨rfl, rfl⟩ := List.cons.inj isList
    exact ⟨after, reads, .inl ⟨more, comma, readsLater⟩⟩
  next noComma =>
    obtain ⟨z, closed, same⟩ := Option.map_eq_some_iff.mp goesOn
    obtain ⟨isList, rfl⟩ := Prod.mk.inj same
    obtain ⟨rfl, rfl⟩ := List.cons.inj isList
    exact ⟨after, reads, .inr ⟨noComma, rfl, closed⟩⟩

theorem readItems_exact {fuel : Nat} (exact : Exact name write fuel) {t : Tree} {items : List Tree}
    {tail rest : List Char}
    (found : readItems (fuel + 1) (t.text name write ++ (moreItems name write items ++ ']' :: tail)) =
      some (t :: items, rest)) :
    t.Faithful name write ∧ ItemsFaithful name write items ∧ rest = tail := by
  obtain ⟨after, reads, follows⟩ := readItems_cons found
  obtain ⟨faithful, rfl⟩ := exact.tree t _ after reads
  cases items with
  | nil =>
    have other : expect [','] (']' :: tail) = none := expect_other (by decide)
    rw [moreItems, List.nil_append, other, expect_head] at follows
    rcases follows with ⟨more, comma, -⟩ | ⟨-, -, closed⟩
    next => cases comma
    next =>
      unfold ItemsFaithful
      exact ⟨faithful, trivial, (Option.some.inj closed).symm⟩
  | cons u items =>
    rw [moreItems, List.cons_append, expect_head, List.append_assoc] at follows
    rcases follows with ⟨more, comma, later⟩ | ⟨noComma, -, -⟩
    next =>
      obtain rfl := Option.some.inj comma
      obtain ⟨faithfulU, others, ends⟩ := exact.items u items tail rest later
      unfold ItemsFaithful
      exact ⟨faithful, ⟨faithfulU, others⟩, ends⟩
    next => cases noComma

/-- A field is read, and what follows it is read behind a comma or is the closing brace. -/
theorem readFields_cons {fuel : Nat} {text rest : List Char} {key : List Char} {t : Tree}
    {fields : List (List Char × Tree)}
    (found : readFields (fuel + 1) text = some ((key, t) :: fields, rest)) :
    ∃ quoted named value after, expect ['"'] text = some quoted ∧
      readString (quoted.length + 1) quoted = some (key, named) ∧ expect [':'] named = some value ∧
      readTree fuel value = some (t, after) ∧
      ((∃ more, expect [','] after = some more ∧ readFields fuel more = some (fields, rest)) ∨
        expect [','] after = none ∧ fields = [] ∧ expect [closeBrace] after = some rest) := by
  rw [readFields] at found
  obtain ⟨quoted, opened, found⟩ := Option.bind_eq_some_iff.mp found
  obtain ⟨⟨readKey, named⟩, readsKey, found⟩ := Option.bind_eq_some_iff.mp found
  obtain ⟨value, colon, found⟩ := Option.bind_eq_some_iff.mp found
  obtain ⟨⟨read, after⟩, reads, goesOn⟩ := Option.bind_eq_some_iff.mp found
  dsimp only at goesOn
  split at goesOn
  next more comma =>
    obtain ⟨⟨later, z⟩, readsLater, same⟩ := Option.map_eq_some_iff.mp goesOn
    obtain ⟨isList, rfl⟩ := Prod.mk.inj same
    obtain ⟨pair, rfl⟩ := List.cons.inj isList
    obtain ⟨rfl, rfl⟩ := Prod.mk.inj pair
    exact ⟨quoted, named, value, after, opened, readsKey, colon, reads,
      .inl ⟨more, comma, readsLater⟩⟩
  next noComma =>
    obtain ⟨z, closed, same⟩ := Option.map_eq_some_iff.mp goesOn
    obtain ⟨isList, rfl⟩ := Prod.mk.inj same
    obtain ⟨pair, rfl⟩ := List.cons.inj isList
    obtain ⟨rfl, rfl⟩ := Prod.mk.inj pair
    exact ⟨quoted, named, value, after, opened, readsKey, colon, reads,
      .inr ⟨noComma, rfl, closed⟩⟩

theorem readFields_exact (told : Told name) {fuel : Nat} (exact : Exact name write fuel)
    {key : List Char} {t : Tree} {fields : List (List Char × Tree)} {tail rest : List Char}
    (found : readFields (fuel + 1) (stringText name key ++
      ':' :: (t.text name write ++ (moreFields name write fields ++ closeBrace :: tail))) =
      some ((key, t) :: fields, rest)) :
    Kept name key ∧ t.Faithful name write ∧ FieldsFaithful name write fields ∧ rest = tail := by
  obtain ⟨quoted, named, value, after, opened, readsKey, colon, reads, follows⟩ := readFields_cons found
  rw [expect_quote] at opened
  obtain rfl := Option.some.inj opened
  obtain ⟨kept, rfl⟩ := told_string told readsKey
  rw [expect_head] at colon
  obtain rfl := Option.some.inj colon
  obtain ⟨faithful, rfl⟩ := exact.tree t _ after reads
  cases fields with
  | nil =>
    have other : expect [','] (closeBrace :: tail) = none := expect_other (by decide)
    rw [moreFields, List.nil_append, other, expect_head] at follows
    rcases follows with ⟨more, comma, -⟩ | ⟨-, -, closed⟩
    next => cases comma
    next =>
      unfold FieldsFaithful
      exact ⟨kept, faithful, trivial, (Option.some.inj closed).symm⟩
  | cons field fields =>
    obtain ⟨nextKey, u⟩ := field
    rw [moreFields, List.cons_append, expect_head, List.append_assoc, List.cons_append,
      List.append_assoc] at follows
    rcases follows with ⟨more, comma, later⟩ | ⟨noComma, -, -⟩
    next =>
      obtain rfl := Option.some.inj comma
      obtain ⟨keptNext, faithfulU, others, ends⟩ := exact.fields nextKey u fields tail rest later
      unfold FieldsFaithful
      exact ⟨kept, faithful, ⟨keptNext, faithfulU, others⟩, ends⟩
    next => cases noComma

theorem exact_word {t : Tree} {tail rest : List Char} {fuel : Nat}
    (word : t = .null ∨ ∃ b, t = .truth b)
    (found : readTree (fuel + 1) (t.text name write ++ tail) = some (t, rest)) :
    t.Faithful name write ∧ rest = tail := by
  rw [readTree_word fuel word] at found
  refine ⟨?_, (Prod.mk.inj (Option.some.inj found)).2.symm⟩
  rcases word with rfl | ⟨b, rfl⟩ <;>
  · unfold Tree.Faithful
    trivial

theorem exactRead (named : Told name) (told : Told write) (fuel : Nat) : Exact name write fuel := by
  induction fuel with
  | zero => exact ⟨fun _ _ _ found => by simp [readTree] at found,
      fun _ _ _ _ found => by simp [readItems] at found,
      fun _ _ _ _ _ found => by simp [readFields] at found⟩
  | succ fuel exact =>
    refine ⟨fun t tail rest found => ?_, fun t items tail rest => readItems_exact exact,
      fun key t fields tail rest => readFields_exact named exact⟩
    cases t with
    | null => exact exact_word (.inl rfl) found
    | truth b => exact exact_word (.inr ⟨b, rfl⟩) found
    | number lexeme =>
      rw [Tree.text] at found
      exact readTree_exact_number found
    | string s =>
      rw [Tree.text] at found
      unfold Tree.Faithful
      exact readTree_exact_string told found
    | array items => exact readTree_exact_array exact found
    | object fields => exact readTree_exact_object exact found

/-- A value comes back from its own text exactly when it was written faithfully. -/
theorem readJson_text_iff (named : Told name) (told : Told write) {t : Tree} :
    readJson (t.text name write) = some t ↔ t.Faithful name write := by
  refine ⟨fun found => ?_, readJson_text⟩
  obtain ⟨⟨read, rest⟩, reads, whole⟩ := Option.bind_eq_some_iff.mp found
  dsimp only at whole
  split at whole
  next =>
    obtain rfl := Option.some.inj whole
    exact ((exactRead named told _).tree read [] rest (by rwa [List.append_nil])).1
  next => cases whole

end Writing

end Json
