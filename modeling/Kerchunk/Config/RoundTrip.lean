import Kerchunk.Config.Ini
import Kerchunk.Lib.Machine

set_option autoImplicit false

/-!
# Saving a configuration and loading it again
-/

namespace Kerchunk.Config

/-! ## Configurations that are reached -/

structure SetCall where
  sectionName : Text
  key : Text
  value : Text

def applySet (cfg : KerchunkConfig) (call : SetCall) : KerchunkConfig :=
  -- The arguments are C strings. A call that does not fit changes nothing.
  (configSet cfg (cstr call.sectionName) (cstr call.key) (cstr call.value)).getD cfg

def reached (file : Text) (calls : List SetCall) : Option KerchunkConfig :=
  -- A file is loaded, then values are set.
  (parseFile file).map fun cfg => calls.foldl applySet cfg

def listing (cfg : KerchunkConfig) : List (Text × List (Text × Text)) :=
  -- What the iterators show: sections in order, and in each its keys in order with their values.
  (sectionNames cfg).map fun name => (name, sectionKeys cfg name)

def RoundTrips (cfg : KerchunkConfig) : Prop :=
  ∃ again, parseFile (configSave cfg) = some again ∧ listing again = listing cfg

/-! ## Text that the reader leaves alone -/

def PlainSection (name : Text) : Prop :=
  ']' ∉ name ∧ newline ∉ name

def PlainKey (key : Text) : Prop :=
  '=' ∉ key ∧ newline ∉ key ∧ trim key = key ∧ ∀ c ∈ key.head?, c ≠ '#' ∧ c ≠ ';' ∧ c ≠ '['

def PlainValue (value : Text) : Prop :=
  trim value = value ∧ (value.head?.any isQuote = true ∨ value.any isComment = false)

def Plain (e : ConfigEntry) : Prop :=
  PlainSection e.sectionName ∧ PlainKey e.key ∧ PlainValue e.value

-- Only the first character is looked at, not every character there is.
instance instDecidableHead (head : Option Char) :
    Decidable (∀ c ∈ head, c ≠ '#' ∧ c ≠ ';' ∧ c ≠ '[') :=
  Option.decidableForallMem head

instance (e : ConfigEntry) : Decidable (Plain e) :=
  inferInstanceAs (Decidable ((_ ∧ _) ∧ (_ ∧ _ ∧ _ ∧ _) ∧ _ ∧ _))

/-! ## Lines -/

theorem isspace_newline : isspace newline = true := by decide

theorem fgets_line {line : Text} (whole : newline ∉ line) {room : Nat} (fits : line.length < room)
    (rest : Text) : fgets room (line ++ newline :: rest) = (line ++ [newline], rest) := by
  induction line generalizing room with
  | nil =>
    cases room with
    | zero => cases fits
    | succ room => simp [fgets]
  | cons c line ih =>
    cases room with
    | zero => cases fits
    | succ room =>
      obtain ⟨other, whole⟩ := not_or.mp (List.mem_cons.not.mp whole)
      have fits : line.length < room := by simpa using fits
      simp [fgets, Ne.symm other, ih whole fits]

theorem fgets_ends (room : Nat) (text : Text) :
    ∃ line, newline ∉ line ∧ ((fgets room text).1 = line ∨ (fgets room text).1 = line ++ [newline]) := by
  induction room generalizing text with
  | zero => exact ⟨[], List.not_mem_nil, .inl rfl⟩
  | succ room ih =>
    cases text with
    | nil => exact ⟨[], List.not_mem_nil, .inl rfl⟩
    | cons c rest =>
      by_cases last : c = newline
      next => exact ⟨[], List.not_mem_nil, .inr (by simp [fgets, last])⟩
      next =>
        obtain ⟨line, whole, ends⟩ := ih rest
        have grown : newline ∉ c :: line := by simp [whole, Ne.symm last]
        exact ⟨c :: line, grown, by simpa [fgets, last] using ends⟩

theorem fileLines_saved {lines : List Text} (whole : ∀ line ∈ lines, newline ∉ line)
    (fit : ∀ line ∈ lines, line.length < lineSize - 1) {fuel : Nat}
    (enough : (lines.flatMap (· ++ [newline])).length ≤ fuel) :
    fileLines fuel (lines.flatMap (· ++ [newline])) = lines.map (· ++ [newline]) := by
  induction lines generalizing fuel with
  | nil => cases fuel <;> rfl
  | cons line rest ih =>
    have regroup : (line :: rest).flatMap (· ++ [newline]) =
        line ++ newline :: rest.flatMap (· ++ [newline]) := by simp
    rw [regroup] at enough ⊢
    cases fuel with
    | zero => simp at enough
    | succ fuel =>
      have read := fgets_line (whole line (List.mem_cons_self ..)) (fit line (List.mem_cons_self ..))
        (rest.flatMap (· ++ [newline]))
      have enough : (rest.flatMap (· ++ [newline])).length ≤ fuel := by
        simp only [List.length_append, List.length_cons] at enough
        exact Nat.le_of_succ_le_succ (Nat.le_trans (Nat.le_add_left _ _) enough)
      have later := ih (fun l member => whole l (List.mem_cons_of_mem _ member))
        (fun l member => fit l (List.mem_cons_of_mem _ member)) enough
      cases opened : line ++ newline :: rest.flatMap (· ++ [newline]) with
      | nil => simp at opened
      | cons c text => rw [fileLines, ← opened, read, later, List.map_cons]

theorem cstr_same {text : Text} (clean : nul ∉ text) : cstr text = text := by
  apply List.takeWhile_eq_self_iff.mpr
  intro c member
  apply decide_eq_true
  rintro rfl
  exact clean member

theorem nul_cstr (text : Text) : nul ∉ cstr text := by
  intro member
  simpa using List.mem_takeWhile_imp member

theorem mem_of_mem_cstr {text : Text} {c : Char} (member : c ∈ cstr text) : c ∈ text :=
  (List.takeWhile_sublist _).subset member

theorem cstr_concat (line : Text) :
    cstr (line ++ [newline]) = cstr line ∨ cstr (line ++ [newline]) = line ++ [newline] := by
  have last : newline ≠ nul := by decide
  unfold cstr
  rw [List.takeWhile_append]
  split
  next => exact .inr (by simp [last])
  next => exact .inl rfl

theorem newline_trimmed (room : Nat) (text : Text) : newline ∉ trim (cstr (fgets room text).1) := by
  -- Of what `fgets` read, no newline is left.
  obtain ⟨line, whole, ends⟩ := fgets_ends room text
  intro member
  rcases ends with same | same <;> rw [same] at member
  next => exact whole (mem_of_mem_cstr (Trim.mem_of_mem_trim member))
  next =>
    rcases cstr_concat line with cut | cut <;> rw [cut] at member
    next => exact whole (mem_of_mem_cstr (Trim.mem_of_mem_trim member))
    next =>
      rw [trim, Trim.trim_concat_blank _ isspace_newline] at member
      exact whole (Trim.mem_of_mem_trim member)

/-! ## What loading leaves in the table -/

/-- What every loaded entry is like. -/
structure Loaded (e : ConfigEntry) : Prop where
  sectionLine : PlainSection e.sectionName
  keyLine : '=' ∉ e.key ∧ newline ∉ e.key
  keyHead : ∀ c ∈ e.key.head?, isspace c = false ∧ c ≠ '#' ∧ c ≠ ';' ∧ c ≠ '['
  valueLine : newline ∉ e.value
  clean : nul ∉ e.sectionName ∧ nul ∉ e.key ∧ nul ∉ e.value
  fits : e.sectionName.length < maxSection ∧ e.key.length < maxKey ∧ e.value.length < maxValue

theorem mem_bounded {size : Nat} {text : Text} {c : Char} (member : c ∈ bounded size text) :
    c ∈ text :=
  List.mem_of_mem_take member

theorem bounded_length {size : Nat} (room : 0 < size) (text : Text) :
    (bounded size text).length < size := by
  simp only [bounded, List.length_take]
  omega

theorem head_bounded {size : Nat} (room : 1 < size) (text : Text) :
    (bounded size text).head? = text.head? := by
  cases text with
  | nil => simp [bounded]
  | cons c rest =>
    obtain ⟨n, rfl⟩ : ∃ n, size = n + 2 := ⟨size - 2, by omega⟩
    simp [bounded]

theorem mem_stripComment {val : Text} {c : Char} (member : c ∈ stripComment val) : c ∈ val := by
  unfold stripComment at member
  split at member
  next => exact member
  next =>
    split at member
    next => exact (List.takeWhile_sublist _).subset (Trim.mem_of_mem_trim member)
    next => exact member

theorem parseLine_header {line name : Text} (parsed : parseLine line = .header name) :
    ']' ∉ name ∧ ∀ c ∈ name, c ∈ trim (cstr line) := by
  simp only [parseLine] at parsed
  split at parsed
  next => cases parsed
  next c rest shape =>
    split_ifs at parsed
    cases parsed
    constructor
    next =>
      intro member
      simpa using List.mem_takeWhile_imp member
    next =>
      intro d member
      rw [shape]
      exact List.mem_cons_of_mem _ ((List.takeWhile_sublist _).subset member)

theorem parseLine_pair {line key value : Text} (parsed : parseLine line = .pair key value) :
    '=' ∉ key ∧ (∀ c ∈ key.head?, isspace c = false ∧ c ≠ '#' ∧ c ≠ ';' ∧ c ≠ '[') ∧
      (∀ c ∈ key, c ∈ trim (cstr line)) ∧ ∀ c ∈ value, c ∈ trim (cstr line) := by
  simp only [parseLine] at parsed
  split at parsed
  next => cases parsed
  next c rest shape =>
    split_ifs at parsed with comment opened hasEquals
    cases parsed
    have solid : isspace c = false := by
      apply Trim.head_trim (show c ∈ (trim (cstr line)).head? from ?_)
      rw [shape]
      rfl
    refine ⟨?_, ?_, ?_, ?_⟩
    next =>
      intro member
      simpa using List.mem_takeWhile_imp (Trim.mem_of_mem_trim member)
    next =>
      intro d first
      rw [shape] at first
      by_cases equals : c = '='
      next => simp [equals] at first
      next =>
        rw [List.takeWhile_cons_of_pos (by simpa using equals)] at first
        have starts := Trim.trim_around solid [] (rest.takeWhile fun x => decide (x ≠ '='))
        rw [List.nil_append] at starts
        rw [trim, starts] at first
        obtain rfl : c = d := by simpa using first
        exact ⟨solid, fun same => comment (.inl same), fun same => comment (.inr same), opened⟩
    next =>
      intro d member
      exact (List.takeWhile_sublist _).subset (Trim.mem_of_mem_trim member)
    next =>
      intro d member
      exact (List.dropWhile_sublist _).subset
        (List.mem_of_mem_tail (Trim.mem_of_mem_trim (mem_stripComment member)))

theorem mem_fileLines {fuel : Nat} {text line : Text} (member : line ∈ fileLines fuel text) :
    ∃ rest, line = (fgets (lineSize - 1) rest).1 := by
  induction fuel generalizing text with
  | zero => cases member
  | succ fuel ih =>
    cases text with
    | nil => cases member
    | cons c rest =>
      rcases List.mem_cons.mp member with rfl | later
      next => exact ⟨c :: rest, rfl⟩
      next => exact ih later

structure Reading (r : Reader) : Prop where
  sectionLine : PlainSection r.currentSection
  clean : nul ∉ r.currentSection
  fits : r.currentSection.length < maxSection
  loaded : ∀ e ∈ r.entries, Loaded e
  room : r.entries.length ≤ maxEntries

theorem reading_step {r after : Reader} (reading : Reading r) (text : Text)
    (read : readLine r (fgets (lineSize - 1) text).1 = some after) : Reading after := by
  have noNewline := newline_trimmed (lineSize - 1) text
  have noNul : nul ∉ trim (cstr (fgets (lineSize - 1) text).1) :=
    fun member => nul_cstr _ (Trim.mem_of_mem_trim member)
  unfold readLine at read
  split at read
  next =>
    cases read
    exact reading
  next name parsed =>
    cases read
    obtain ⟨noBracket, fromLine⟩ := parseLine_header parsed
    exact {
      sectionLine := ⟨fun member => noBracket (mem_bounded member),
        fun member => noNewline (fromLine _ (mem_bounded member))⟩
      clean := fun member => noNul (fromLine _ (mem_bounded member))
      fits := bounded_length (by decide) name
      loaded := reading.loaded
      room := reading.room }
  next key value parsed =>
    split at read
    next => cases read
    next room =>
      cases read
      obtain ⟨noEquals, head, keyLine, valueLine⟩ := parseLine_pair parsed
      refine ⟨reading.sectionLine, reading.clean, reading.fits, ?_, ?_⟩
      next =>
        intro e member
        rcases List.mem_append.mp member with old | new
        next => exact reading.loaded e old
        next =>
          rw [List.mem_singleton.mp new]
          exact {
            sectionLine := reading.sectionLine
            keyLine := ⟨fun member => noEquals (mem_bounded member),
              fun member => noNewline (keyLine _ (mem_bounded member))⟩
            keyHead := by rwa [head_bounded (by decide)]
            valueLine := fun member => noNewline (valueLine _ (mem_bounded member))
            clean := ⟨reading.clean, fun member => noNul (keyLine _ (mem_bounded member)),
              fun member => noNul (valueLine _ (mem_bounded member))⟩
            fits := ⟨reading.fits, bounded_length (by decide) key, bounded_length (by decide) value⟩ }
      next =>
        simp only [List.length_append, List.length_singleton]
        omega

theorem parseFile_loaded {file : Text} {cfg : KerchunkConfig} (parsed : parseFile file = some cfg) :
    (∀ e ∈ cfg, Loaded e) ∧ cfg.length ≤ maxEntries := by
  obtain ⟨final, accepted, rfl⟩ := Option.map_eq_some_iff.mp parsed
  have start : Reading ⟨[], []⟩ :=
    ⟨by simp [PlainSection], List.not_mem_nil, by decide, fun _ member => absurd member List.not_mem_nil,
      by decide⟩
  have reading : Reading final := by
    refine Acceptor.accept_holds readLine (fun r line member after reading read => ?_) start accepted
    obtain ⟨text, rfl⟩ := mem_fileLines member
    exact reading_step reading text read
  exact ⟨reading.loaded, reading.room⟩

/-! ## What setting a value leaves in the table -/

/-- What every entry of a configuration is like. -/
structure Stored (e : ConfigEntry) : Prop where
  valueLine : newline ∉ e.value
  clean : nul ∉ e.sectionName ∧ nul ∉ e.key ∧ nul ∉ e.value
  fits : e.sectionName.length < maxSection ∧ e.key.length < maxKey ∧ e.value.length < maxValue

theorem Loaded.stored {e : ConfigEntry} (loaded : Loaded e) : Stored e :=
  ⟨loaded.valueLine, loaded.clean, loaded.fits⟩

theorem stripNewlines_line (value : Text) : newline ∉ stripNewlines value := by
  intro member
  obtain ⟨c, _, same⟩ := List.mem_map.mp member
  split at same
  next => exact absurd same (by decide)
  next other => exact other (.inl same)

theorem stripNewlines_clean {value : Text} (clean : nul ∉ value) : nul ∉ stripNewlines value := by
  intro member
  obtain ⟨c, present, same⟩ := List.mem_map.mp member
  split at same
  next => exact absurd same (by decide)
  next => exact clean (same ▸ present)

theorem mem_updateFirst {sectionName key value : Text} {cfg : KerchunkConfig} {e : ConfigEntry}
    (member : e ∈ updateFirst sectionName key value cfg) :
    e ∈ cfg ∨ ∃ old ∈ cfg, e = { old with value := value } := by
  induction cfg with
  | nil => cases member
  | cons old rest ih =>
    unfold updateFirst at member
    split at member
    next =>
      rcases List.mem_cons.mp member with rfl | later
      next => exact .inr ⟨old, List.mem_cons_self .., rfl⟩
      next => exact .inl (List.mem_cons_of_mem _ later)
    next =>
      rcases List.mem_cons.mp member with rfl | later
      next => exact .inl (List.mem_cons_self ..)
      next =>
        rcases ih later with kept | ⟨found, present, rfl⟩
        next => exact .inl (List.mem_cons_of_mem _ kept)
        next => exact .inr ⟨found, List.mem_cons_of_mem _ present, rfl⟩

theorem updateFirst_length (sectionName key value : Text) (cfg : KerchunkConfig) :
    (updateFirst sectionName key value cfg).length = cfg.length := by
  induction cfg with
  | nil => rfl
  | cons e rest ih =>
    unfold updateFirst
    split <;> simp [ih]

def Storing (cfg : KerchunkConfig) : Prop :=
  (∀ e ∈ cfg, Stored e) ∧ cfg.length ≤ maxEntries

theorem storing_set {cfg : KerchunkConfig} (storing : Storing cfg) (call : SetCall) :
    Storing (applySet cfg call) := by
  obtain ⟨stored, room⟩ := storing
  have noNul : nul ∉ bounded maxValue (cstr call.value) := fun member =>
    nul_cstr _ (mem_bounded member)
  have line := stripNewlines_line (bounded maxValue (cstr call.value))
  have clean := stripNewlines_clean noNul
  have fits : (stripNewlines (bounded maxValue (cstr call.value))).length < maxValue := by
    rw [stripNewlines, List.length_map]
    exact bounded_length (by decide) _
  unfold applySet configSet
  dsimp only
  split
  next =>
    constructor
    next =>
      intro e member
      rcases mem_updateFirst member with kept | ⟨old, present, rfl⟩
      next => exact stored e kept
      next =>
        have before := stored old present
        exact ⟨line, ⟨before.clean.1, before.clean.2.1, clean⟩,
          ⟨before.fits.1, before.fits.2.1, fits⟩⟩
    next =>
      rw [Option.getD_some, updateFirst_length]
      exact room
  next =>
    split
    next => exact ⟨stored, room⟩
    next space =>
      constructor
      next =>
        intro e member
        rcases List.mem_append.mp member with kept | new
        next => exact stored e kept
        next =>
          rw [List.mem_singleton.mp new]
          exact ⟨line,
            ⟨fun member => nul_cstr _ (mem_bounded member),
              fun member => nul_cstr _ (mem_bounded member), clean⟩,
            ⟨bounded_length (by decide) _, bounded_length (by decide) _, fits⟩⟩
      next =>
        simp only [Option.getD_some, List.length_append, List.length_singleton]
        omega

theorem reached_storing {file : Text} {calls : List SetCall} {cfg : KerchunkConfig}
    (reaches : reached file calls = some cfg) : Storing cfg := by
  obtain ⟨loaded, parsed, rfl⟩ := Option.map_eq_some_iff.mp reaches
  obtain ⟨entries, room⟩ := parseFile_loaded parsed
  have start : Storing loaded := ⟨fun e member => (entries e member).stored, room⟩
  exact Machine.run_holds (P := Storing) applySet (fun _ call storing => storing_set storing call) start

/-! ## Loading what was saved -/

/-- The reader finds the key of the line where the writer put it. -/
structure KeyLine (key : Text) : Prop where
  noEquals : '=' ∉ key
  noNewline : newline ∉ key
  head : ∀ c ∈ key.head?, isspace c = false ∧ c ≠ '#' ∧ c ≠ ';' ∧ c ≠ '['

def Readable (e : ConfigEntry) : Prop :=
  PlainSection e.sectionName ∧ KeyLine e.key

def reread (e : ConfigEntry) : ConfigEntry :=
  -- What is read for a saved entry.
  { e with key := trim e.key, value := stripComment (trim e.value) }

theorem takeWhile_until {l : Text} {c : Char} (absent : c ∉ l) (rest : Text) :
    (l ++ c :: rest).takeWhile (· ≠ c) = l := by
  rw [List.takeWhile_append_of_pos]
  next => simp
  next =>
    intro d member
    apply decide_eq_true
    rintro rfl
    exact absent member

theorem dropWhile_until {l : Text} {c : Char} (absent : c ∉ l) (rest : Text) :
    (l ++ c :: rest).dropWhile (· ≠ c) = c :: rest := by
  rw [List.dropWhile_append_of_pos]
  next => simp
  next =>
    intro d member
    apply decide_eq_true
    rintro rfl
    exact absent member

theorem trim_line (line : Text) (clean : nul ∉ line) :
    trim (cstr (line ++ [newline])) = trim line := by
  have ends : nul ∉ line ++ [newline] := by
    have other : nul ≠ newline := by decide
    simp [clean, other]
  rw [cstr_same ends, trim, Trim.trim_concat_blank _ isspace_newline]

theorem parseLine_blank : parseLine ([] ++ [newline]) = .skip := by decide

theorem parseLine_headerLine {name : Text} (plain : PlainSection name) (clean : nul ∉ name) :
    parseLine (headerLine name ++ [newline]) = .header name := by
  have cleanLine : nul ∉ headerLine name := by
    have first : nul ≠ '[' := by decide
    have last : nul ≠ ']' := by decide
    simp [headerLine, clean, first, last]
  have same : trim (headerLine name) = '[' :: (name ++ [']']) := by
    have left := Trim.trim_around (show isspace '[' = false by decide) [] (name ++ [']'])
    rw [Trim.rdropWhile_around (show isspace ']' = false by decide)] at left
    simpa [headerLine] using left
  have upTo := takeWhile_until plain.1 []
  simp only [parseLine, trim_line _ cleanLine, same]
  simpa using upTo

theorem trim_pairLine {e : ConfigEntry} (key : KeyLine e.key) :
    trim (pairLine e) =
      (if e.key = [] then [] else e.key ++ [' ']) ++ '=' :: (' ' :: e.value).rdropWhile isspace := by
  have split : pairLine e = (e.key ++ [' ']) ++ '=' :: (' ' :: e.value) := by simp [pairLine]
  rw [split, trim, Trim.trim_around (show isspace '=' = false by decide)]
  cases named : e.key with
  | nil => simp [isspace]
  | cons c rest =>
    have solid : isspace c = false := (key.head c (by simp [named])).1
    simp [solid]

theorem parseLine_pairLine {e : ConfigEntry} (key : KeyLine e.key) (stored : Stored e) :
    parseLine (pairLine e ++ [newline]) = .pair (trim e.key) (stripComment (trim e.value)) := by
  have cleanLine : nul ∉ pairLine e := by
    have blank : nul ≠ ' ' := by decide
    have equals : nul ≠ '=' := by decide
    simp [pairLine, stored.clean.2.1, stored.clean.2.2, blank, equals]
  have value : trim ((' ' :: e.value).rdropWhile isspace) = trim e.value := by
    rw [trim, Trim.trim_rdropWhile, Trim.trim_cons_blank (by decide)]
  simp only [parseLine, trim_line _ cleanLine, trim_pairLine key]
  cases named : e.key with
  | nil => simp [value]
  | cons c rest =>
    obtain ⟨_, noHash, noSemicolon, noBracket⟩ := key.head c (by simp [named])
    have noEquals : '=' ∉ c :: rest ++ [' '] := by
      have other : '=' ∉ c :: rest := named ▸ key.noEquals
      have blank : '=' ≠ ' ' := by decide
      rw [List.mem_append, List.mem_singleton]
      exact not_or.mpr ⟨other, blank⟩
    have before := takeWhile_until noEquals ((' ' :: e.value).rdropWhile isspace)
    have after := dropWhile_until noEquals ((' ' :: e.value).rdropWhile isspace)
    have blank : isspace ' ' = true := by decide
    rw [if_neg (List.cons_ne_nil c rest), before, after, List.tail_cons, value, trim,
      Trim.trim_concat_blank _ blank]
    simp [noHash, noSemicolon, noBracket]

theorem bounded_same {size : Nat} {text : Text} (fits : text.length < size) :
    bounded size text = text :=
  List.take_of_length_le (Nat.le_sub_one_of_lt fits)

theorem stripComment_length (val : Text) : (stripComment val).length ≤ val.length := by
  unfold stripComment
  split
  next => exact Nat.le_refl _
  next =>
    split
    next => exact (Trim.trim_length _).trans (List.takeWhile_sublist _).length_le
    next => exact Nat.le_refl _

abbrev withNewline (line : Text) : Text :=
  line ++ [newline]

theorem readLine_pairLine {r : Reader} {e : ConfigEntry} (key : KeyLine e.key) (stored : Stored e)
    (current : r.currentSection = e.sectionName) (room : r.entries.length < maxEntries) :
    readLine r (withNewline (pairLine e)) = some { r with entries := r.entries ++ [reread e] } := by
  have keyFits : (trim e.key).length < maxKey :=
    Nat.lt_of_le_of_lt (Trim.trim_length _) stored.fits.2.1
  have valueFits : (stripComment (trim e.value)).length < maxValue :=
    Nat.lt_of_le_of_lt ((stripComment_length _).trans (Trim.trim_length _)) stored.fits.2.2
  simp only [readLine, withNewline, parseLine_pairLine key stored, bounded_same keyFits,
    bounded_same valueFits, if_neg (Nat.not_le.mpr room), current, reread]

theorem read_pairs {group : List ConfigEntry} (readable : ∀ e ∈ group, KeyLine e.key ∧ Stored e)
    {r : Reader} (current : ∀ e ∈ group, e.sectionName = r.currentSection)
    (room : r.entries.length + group.length ≤ maxEntries) :
    Acceptor.accept readLine r (group.map fun e => withNewline (pairLine e)) =
      some { r with entries := r.entries ++ group.map reread } := by
  induction group generalizing r with
  | nil => simp
  | cons e rest ih =>
    have first : e ∈ e :: rest := List.mem_cons_self ..
    rw [List.length_cons] at room
    rw [List.map_cons, Acceptor.accept_cons,
      readLine_pairLine (readable e first).1 (readable e first).2 (current e first).symm (by omega),
      Option.bind_some, ih (fun e member => readable e (List.mem_cons_of_mem _ member))]
    next => simp
    next => exact fun e member => current e (List.mem_cons_of_mem _ member)
    next =>
      simp only [List.length_append, List.length_singleton]
      omega

structure SectionLine (name : Text) : Prop where
  plain : PlainSection name
  clean : nul ∉ name
  fits : name.length < maxSection

theorem read_section {cfg : KerchunkConfig} (readable : ∀ e ∈ cfg, KeyLine e.key ∧ Stored e)
    {name : Text} (line : SectionLine name) {r : Reader}
    (room : r.entries.length + (sectionEntries cfg name).length ≤ maxEntries) :
    Acceptor.accept readLine r ((sectionLines cfg name).map withNewline) =
      some { currentSection := name
             entries := r.entries ++ (sectionEntries cfg name).map reread } := by
  have header : readLine r (withNewline (headerLine name)) =
      some { r with currentSection := name } := by
    simp only [readLine, withNewline, parseLine_headerLine line.plain line.clean,
      bounded_same line.fits]
  have pairs := read_pairs (r := { r with currentSection := name })
    (fun e member => readable e (Grouping.mem_group.mp member).1)
    (fun e member => (Grouping.mem_group.mp member).2) room
  rw [sectionLines, List.map_cons, Acceptor.accept_cons, header, Option.bind_some, List.map_map]
  exact pairs

theorem read_saved {cfg : KerchunkConfig} (readable : ∀ e ∈ cfg, KeyLine e.key ∧ Stored e)
    {names : List Text} (lines : ∀ name ∈ names, SectionLine name) {r : Reader}
    (room : r.entries.length + (names.flatMap (sectionEntries cfg)).length ≤ maxEntries) :
    (Acceptor.accept readLine r ((savedLines cfg names).map withNewline)).map Reader.entries =
      some (r.entries ++ (names.flatMap (sectionEntries cfg)).map reread) := by
  induction names generalizing r with
  | nil => simp [savedLines]
  | cons name rest ih =>
    rw [List.flatMap_cons, List.length_append] at room
    have first := read_section readable (lines name (List.mem_cons_self ..)) (r := r) (by omega)
    cases rest with
    | nil => simp [savedLines, first]
    | cons next rest =>
      have blank (r : Reader) : readLine r (withNewline []) = some r := by
        simp only [readLine, withNewline, parseLine_blank]
      have later := ih (fun name member => lines name (List.mem_cons_of_mem _ member))
        (r := { currentSection := name
                entries := r.entries ++ (sectionEntries cfg name).map reread })
        (by simp only [List.length_append, List.length_map]; omega)
      rw [savedLines, List.map_append, List.map_cons, Acceptor.accept_append, first,
        Option.bind_some, Acceptor.accept_cons, blank, Option.bind_some, later]
      simp

theorem mem_sectionLines {cfg : KerchunkConfig} {name line : Text}
    (member : line ∈ sectionLines cfg name) :
    line = headerLine name ∨ ∃ e ∈ cfg, line = pairLine e := by
  rcases List.mem_cons.mp member with rfl | pair
  next => exact .inl rfl
  next =>
    obtain ⟨e, inGroup, rfl⟩ := List.mem_map.mp pair
    exact .inr ⟨e, (Grouping.mem_group.mp inGroup).1, rfl⟩

theorem mem_savedLines {cfg : KerchunkConfig} {names : List Text} {line : Text}
    (member : line ∈ savedLines cfg names) :
    line = [] ∨ (∃ name ∈ names, line = headerLine name) ∨ ∃ e ∈ cfg, line = pairLine e := by
  induction names with
  | nil => cases member
  | cons name rest ih =>
    have here (inSection : line ∈ sectionLines cfg name) :
        line = [] ∨ (∃ other ∈ name :: rest, line = headerLine other) ∨
          ∃ e ∈ cfg, line = pairLine e := by
      rcases mem_sectionLines inSection with rfl | pair
      next => exact .inr (.inl ⟨name, List.mem_cons_self .., rfl⟩)
      next => exact .inr (.inr pair)
    cases rest with
    | nil => exact here member
    | cons next rest =>
      rcases List.mem_append.mp member with first | later
      next => exact here first
      next =>
        rcases List.mem_cons.mp later with blank | later
        next => exact .inl blank
        next =>
          rcases ih later with blank | ⟨other, present, same⟩ | pair
          next => exact .inl blank
          next => exact .inr (.inl ⟨other, List.mem_cons_of_mem _ present, same⟩)
          next => exact .inr (.inr pair)

theorem parseFile_saved {cfg : KerchunkConfig} (storing : Storing cfg)
    (readable : ∀ e ∈ cfg, Readable e) :
    parseFile (configSave cfg) =
      some ((Grouping.grouped ConfigEntry.sectionName cfg).map reread) := by
  have lines : ∀ name ∈ sectionNames cfg, SectionLine name := by
    intro name member
    obtain ⟨e, present, rfl⟩ := Grouping.mem_keys.mp member
    have stored := storing.1 e present
    exact ⟨(readable e present).1, stored.clean.1, stored.fits.1⟩
  have whole : ∀ line ∈ savedLines cfg (sectionNames cfg), newline ∉ line := by
    intro line member
    rcases mem_savedLines member with rfl | ⟨name, named, rfl⟩ | ⟨e, present, rfl⟩
    next => exact List.not_mem_nil
    next =>
      have plain := (lines name named).plain.2
      have first : newline ≠ '[' := by decide
      have last : newline ≠ ']' := by decide
      simp [headerLine, plain, first, last]
    next =>
      have key := (readable e present).2.noNewline
      have value := (storing.1 e present).valueLine
      have blank : newline ≠ ' ' := by decide
      have equals : newline ≠ '=' := by decide
      simp [pairLine, key, value, blank, equals]
  have fit : ∀ line ∈ savedLines cfg (sectionNames cfg), line.length < lineSize - 1 := by
    intro line member
    rcases mem_savedLines member with rfl | ⟨name, named, rfl⟩ | ⟨e, present, rfl⟩
    next => decide
    next =>
      have fits := (lines name named).fits
      simp only [headerLine, List.length_cons, List.length_append, List.length_nil, maxSection,
        lineSize] at fits ⊢
      omega
    next =>
      have fits := (storing.1 e present).fits
      simp only [pairLine, List.length_cons, List.length_append, List.length_nil, maxSection, maxKey,
        maxValue, lineSize] at fits ⊢
      omega
  have room : (Grouping.grouped ConfigEntry.sectionName cfg).length ≤ maxEntries := by
    rw [(Grouping.grouped_perm cfg).length_eq]
    exact storing.2
  have read := read_saved (fun e member => ⟨(readable e member).2, storing.1 e member⟩) lines
    (r := ⟨[], []⟩) (by rw [List.length_nil, Nat.zero_add]; exact room)
  unfold parseFile configSave
  rw [fileLines_saved whole fit (Nat.le_refl _)]
  rw [List.nil_append] at read
  exact read

/-! ## The round trip -/

theorem listing_reread (cfg : KerchunkConfig) :
    listing ((Grouping.grouped ConfigEntry.sectionName cfg).map reread) =
      (sectionNames cfg).map fun name =>
        (name, (sectionEntries cfg name).map fun e => ((reread e).key, (reread e).value)) := by
  have keep (e : ConfigEntry) : (reread e).sectionName = e.sectionName := rfl
  unfold listing sectionNames
  rw [Grouping.keys_map keep, Grouping.keys_grouped]
  apply List.map_congr_left
  intro name member
  rw [sectionKeys, sectionEntries, Grouping.group_map keep, Grouping.group_grouped member,
    List.map_map]
  rfl

theorem listing_same {cfg : KerchunkConfig} :
    ((sectionNames cfg).map fun name =>
        (name, (sectionEntries cfg name).map fun e => ((reread e).key, (reread e).value))) =
      listing cfg ↔ ∀ e ∈ cfg, reread e = e := by
  simp only [listing, sectionKeys, List.map_inj_left, Prod.mk.injEq, true_and]
  constructor
  next =>
    intro same e present
    obtain ⟨key, value⟩ := same e.sectionName (Grouping.mem_keys.mpr ⟨e, present, rfl⟩) e
      (Grouping.mem_group.mpr ⟨present, rfl⟩)
    calc reread e = { e with key := (reread e).key, value := (reread e).value } := rfl
      _ = e := by rw [key, value]
  next =>
    intro same name _ e inGroup
    rw [same e (Grouping.mem_group.mp inGroup).1]
    exact ⟨rfl, rfl⟩

theorem mem_of_listing {cfg again : KerchunkConfig} (listed : listing cfg ⊆ listing again)
    {e : ConfigEntry} (present : e ∈ cfg) : e ∈ again := by
  have listed : (e.sectionName, sectionKeys cfg e.sectionName) ∈ listing again :=
    listed (List.mem_map_of_mem (Grouping.mem_keys.mpr ⟨e, present, rfl⟩))
  obtain ⟨name, _, shown⟩ := List.mem_map.mp listed
  obtain ⟨rfl, keys⟩ := Prod.mk.inj shown
  have pair : (e.key, e.value) ∈ sectionKeys again e.sectionName := by
    rw [keys]
    exact List.mem_map.mpr ⟨e, Grouping.mem_group.mpr ⟨present, rfl⟩, rfl⟩
  obtain ⟨other, inGroup, equal⟩ := List.mem_map.mp pair
  obtain ⟨found, sectionSame⟩ := Grouping.mem_group.mp inGroup
  obtain ⟨keySame, valueSame⟩ := Prod.mk.inj equal
  cases other
  cases e
  simp only at sectionSame keySame valueSame
  rw [← sectionSame, ← keySame, ← valueSame]
  exact found

theorem stripComment_same_iff (value : Text) :
    stripComment (trim value) = value ↔ PlainValue value := by
  constructor
  next =>
    intro same
    have trimmed : trim value = value := by
      rw [← same]
      unfold stripComment
      split
      next => exact Trim.trim_trim value
      next =>
        split
        next => exact Trim.trim_trim _
        next => exact Trim.trim_trim value
    rw [trimmed] at same
    refine ⟨trimmed, ?_⟩
    by_cases quoted : value.head?.any isQuote = true
    next => exact .inl quoted
    next =>
      by_cases commented : value.any isComment = true
      next =>
        -- The text before the comment cannot be the whole value.
        rw [stripComment, if_neg quoted, if_pos commented] at same
        obtain ⟨c, member, isOne⟩ := List.any_eq_true.mp commented
        rw [← same] at member
        have kept := List.mem_takeWhile_imp (Trim.mem_of_mem_trim member)
        simp [isOne] at kept
      next => exact .inr (by simpa using commented)
  next =>
    rintro ⟨trimmed, quoted | uncommented⟩
    next => rw [trimmed, stripComment, if_pos quoted]
    next => simp [trimmed, stripComment, uncommented]

theorem reread_same_iff {e : ConfigEntry} :
    reread e = e ↔ trim e.key = e.key ∧ PlainValue e.value := by
  rw [← stripComment_same_iff]
  cases e
  simp [reread]

theorem plain_iff_reread {e : ConfigEntry} : Plain e ↔ Readable e ∧ reread e = e := by
  rw [reread_same_iff]
  constructor
  next =>
    rintro ⟨sectionPlain, ⟨noEquals, noNewline, trimmed, head⟩, value⟩
    refine ⟨⟨sectionPlain, noEquals, noNewline, fun c first => ⟨?_, head c first⟩⟩, trimmed, value⟩
    exact Trim.head_trim (show c ∈ (trim e.key).head? by rwa [trimmed])
  next =>
    rintro ⟨⟨sectionPlain, key⟩, trimmed, value⟩
    exact ⟨sectionPlain,
      ⟨key.noEquals, key.noNewline, trimmed, fun c first => (key.head c first).2⟩, value⟩

theorem Loaded.readable {e : ConfigEntry} (loaded : Loaded e) : Readable e :=
  ⟨loaded.sectionLine, loaded.keyLine.1, loaded.keyLine.2, loaded.keyHead⟩

theorem round_trip_iff_plain (file : Text) (calls : List SetCall) (cfg : KerchunkConfig)
    (reaches : reached file calls = some cfg) : RoundTrips cfg ↔ ∀ e ∈ cfg, Plain e := by
  have storing := reached_storing reaches
  constructor
  next =>
    rintro ⟨again, parsed, same⟩
    have loaded := (parseFile_loaded parsed).1
    have readable : ∀ e ∈ cfg, Readable e := fun e present =>
      (loaded e (mem_of_listing (same ▸ List.Subset.refl _) present)).readable
    obtain rfl : _ = again := Option.some.inj ((parseFile_saved storing readable).symm.trans parsed)
    rw [listing_reread, listing_same] at same
    exact fun e present => plain_iff_reread.mpr ⟨readable e present, same e present⟩
  next =>
    intro plain
    have readable : ∀ e ∈ cfg, Readable e := fun e present =>
      (plain_iff_reread.mp (plain e present)).1
    refine ⟨_, parseFile_saved storing readable, ?_⟩
    rw [listing_reread, listing_same]
    exact fun e present => (plain_iff_reread.mp (plain e present)).2

/-! ## A value that holds a number sign -/

def station : Text :=
  "[general]\ncallsign = W1AW\n[voicemail]\nenabled = on\n".toList

def setPin (value : Text) : SetCall where
  sectionName := "general".toList
  key := "greeting".toList
  value := value

theorem number_sign_not_round_trips :
    ∃ cfg, reached station [setPin "dial #9".toList] = some cfg ∧ ¬ RoundTrips cfg := by
  refine ⟨_, rfl, ?_⟩
  rintro ⟨again, parsed, same⟩
  obtain rfl := Option.some.inj ((show parseFile _ = some _ from rfl).symm.trans parsed)
  exact absurd same (by decide)

def quotedEntries : KerchunkConfig :=
  [{ sectionName := "general".toList, key := "callsign".toList, value := "W1AW".toList },
   { sectionName := "voicemail".toList, key := "enabled".toList, value := "on".toList },
   { sectionName := "general".toList, key := "greeting".toList, value := "'dial #9'".toList }]

-- The new entry stands last in the table and comes back inside its section.
theorem quoted_number_sign_round_trips : RoundTrips quotedEntries :=
  (round_trip_iff_plain station [setPin "'dial #9'".toList] quotedEntries rfl).mpr (by decide)

end Kerchunk.Config
