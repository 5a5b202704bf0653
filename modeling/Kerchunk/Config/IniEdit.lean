import Kerchunk.Config.Layout

set_option autoImplicit false

/-!
# The section editor (`src/kerchunk_ini_edit.c`)

It finds its sections by text of its own. Writing the file is left out: an edit that succeeds has
replaced the contents.
-/

namespace Kerchunk.Config

/-! ## The editor -/

def headerAt (sectionName text : Text) : Bool :=
  -- The text starts with the header, at the end of its line.
  (headerLine sectionName).isPrefixOf text &&
    (text.drop (headerLine sectionName).length).head?.all fun c => c = newline || c = carriageReturn

def findSectionHeader (sectionName : Text) : Bool → Text → Option (Text × Text)
  -- What stands before the first line that is the header, and the text from there.
  | _, [] => none
  | lineStart, c :: rest =>
    if lineStart && headerAt sectionName (c :: rest) then some ([], c :: rest)
    else
      (findSectionHeader sectionName (c = newline) rest).map fun found => (c :: found.1, found.2)

def findNextSectionHeader : Bool → Text → Text × Text
  -- What stands before the next line that starts with a bracket, and the text from there.
  | _, [] => ([], [])
  | lineStart, c :: rest =>
    if lineStart && c = '[' then ([], c :: rest)
    else
      let next := findNextSectionHeader (c = newline) rest
      (c :: next.1, next.2)

def newSection (sectionName body : Text) : Text :=
  headerLine sectionName ++ newline :: body

def padding (file : Text) : Text :=
  -- Pad with newlines so that the section does not run into the previous line.
  if [newline, newline].isSuffixOf file then []
  else if [newline].isSuffixOf file then [newline]
  else [newline, newline]

def replaceSection (file sectionName body : Text) : Text :=
  match findSectionHeader sectionName true file with
  | none => file ++ padding file ++ newSection sectionName body
  | some (before, found) =>
    -- The line of the header itself is passed over.
    before ++ newSection sectionName body ++ (findNextSectionHeader false found).2

def removeSection (file sectionName : Text) : Text :=
  match findSectionHeader sectionName true file with
  | none => file
  | some (before, found) =>
    let after := (findNextSectionHeader false found).2.dropWhile fun c =>
      c = newline || c = carriageReturn
    if after ≠ [] ∧ before.getLast? = some newline then before ++ newline :: after
    else before ++ after

/-! ## What an edit is for -/

/-- A name that a header line can give to a section. -/
structure SectionName where
  text : Text
  clean : nul ∉ text ∧ newline ∉ text ∧ ']' ∉ text
  fits : text.length < maxSection

/-- Whole lines, none of which is a header. -/
structure Body where
  text : Text
  clean : nul ∉ text
  terminated : Terminated text
  bare : ∀ r ∈ rows text, r.heading = none

inductive Edit where
  | replace (body : Body)
  | remove

def Edit.apply (edit : Edit) (name : SectionName) (file : Text) : Text :=
  match edit with
  | .replace body => replaceSection file name.text body.text
  | .remove => removeSection file name.text

def Edit.entries (edit : Edit) (name : SectionName) : KerchunkConfig :=
  -- What the section holds after the edit.
  match edit with
  | .replace body => entriesOf (located name.text body.text)
  | .remove => []

def outside (name : Text) (placed : Placed) : List Row :=
  -- The lines that do not stand in the section.
  (placed.filter fun p => p.1 ≠ name).map Prod.snd

def Kept (old new : List Row) : Prop :=
  -- All old lines are there, in order; new ones may stand between them at one place.
  ∃ above between below, old = above ++ below ∧ new = above ++ between ++ below

/-- The edited file loads, with the new keys in the section, those of the other sections as they were,
and all lines outside the section. -/
def Agrees (file : Text) (name : SectionName) (edit : Edit) : Prop :=
  ∃ cfg, parseFile (edit.apply name file) = some cfg ∧
    sectionKeys cfg name.text = sectionKeys (edit.entries name) name.text ∧
    (∀ other ≠ name.text, sectionKeys cfg other = sectionKeys (fileEntries file) other) ∧
    Kept (outside name.text (located [] file)) (outside name.text (located [] (edit.apply name file)))

/-- The lines before, in and after the section, as the editor finds it: at the end of the file when it
finds none. -/
def parts (name : SectionName) (file : Text) : List Row × List Row × List Row :=
  match findSectionHeader name.text true file with
  | none => (rows file, [], [])
  | some (before, found) =>
    let next := findNextSectionHeader false found
    (rows before, rows next.1, rows next.2)

/-- The parser sees no header of another section in what the editor takes for the section, and no key
of the section outside it; and the table has room. -/
structure Aligned (file : Text) (name : SectionName) (edit : Edit) : Prop where
  own : ∀ r ∈ (parts name file).2.1, ∀ other, r.heading = some other → other = name.text
  before : ∀ e ∈ entriesOf (Outline.placed Row.heading [] (parts name file).1),
    e.sectionName ≠ name.text
  after : ∀ e ∈ entriesOf (Outline.placed Row.heading name.text (parts name file).2.2),
    e.sectionName ≠ name.text
  room : (entriesOf (Outline.placed Row.heading [] (parts name file).1)).length +
    (edit.entries name).length +
    (entriesOf (Outline.placed Row.heading name.text (parts name file).2.2)).length ≤ maxEntries

/-! ## Where the editor cuts -/

section

variable {name : Text}

theorem findSectionHeader_some {lineStart : Bool} {text before found : Text}
    (some_found : findSectionHeader name lineStart text = some (before, found)) :
    text = before ++ found ∧ Terminated before ∧ (before = [] → lineStart = true) ∧
      headerAt name found = true := by
  induction text generalizing lineStart before with
  | nil => cases some_found
  | cons c rest ih =>
    rw [findSectionHeader] at some_found
    split at some_found
    next here =>
      cases some_found
      obtain ⟨start, header⟩ := Bool.and_eq_true_iff.mp here
      exact ⟨rfl, terminated_nil, fun _ => start, header⟩
    next =>
      obtain ⟨⟨above, below⟩, later, same⟩ := Option.map_eq_some_iff.mp some_found
      cases same
      obtain ⟨split, ends, start, header⟩ := ih later
      refine ⟨by rw [split]; rfl, ?_, by simp, header⟩
      intro d isLast
      by_cases none_above : above = []
      next =>
        have last : c = newline := by simpa using start none_above
        have same : c = d := by simpa [none_above] using isLast
        rw [← same, last]
      next => exact ends d (by rwa [List.getLast?_cons_of_ne_nil none_above] at isLast)

theorem findNextSectionHeader_split (lineStart : Bool) (text : Text) :
    text = (findNextSectionHeader lineStart text).1 ++ (findNextSectionHeader lineStart text).2 ∧
      ((findNextSectionHeader lineStart text).2 ≠ [] →
        Terminated (findNextSectionHeader lineStart text).1 ∧
        ((findNextSectionHeader lineStart text).1 = [] → lineStart = true) ∧
        (findNextSectionHeader lineStart text).2.head? = some '[') := by
  induction text generalizing lineStart with
  | nil => exact ⟨rfl, fun left => absurd rfl left⟩
  | cons c rest ih =>
    rw [findNextSectionHeader]
    split
    next here =>
      obtain ⟨start, bracket⟩ := Bool.and_eq_true_iff.mp here
      refine ⟨rfl, fun _ => ⟨terminated_nil, fun _ => start, ?_⟩⟩
      simpa using bracket
    next =>
      obtain ⟨split, later⟩ := ih (c = newline)
      refine ⟨congrArg (c :: ·) split, fun left => ?_⟩
      obtain ⟨ends, start, bracket⟩ := later left
      refine ⟨?_, by simp, bracket⟩
      intro d isLast
      by_cases none_above : (findNextSectionHeader (c = newline) rest).1 = []
      next =>
        have last : c = newline := by simpa using start none_above
        have same : c = d := by simpa [none_above] using isLast
        rw [← same, last]
      next => exact ends d (by rwa [List.getLast?_cons_of_ne_nil none_above] at isLast)

theorem headerAt_split {text : Text} (header : headerAt name text = true) :
    ∃ rest, text = headerLine name ++ rest := by
  obtain ⟨first, _⟩ := Bool.and_eq_true_iff.mp header
  obtain ⟨rest, same⟩ := List.isPrefixOf_iff_prefix.mp first
  exact ⟨rest, same.symm⟩

end

theorem fgets_starts {line : Text} (whole : newline ∉ line) {room : Nat} (fits : line.length ≤ room)
    (rest : Text) : ∃ more, (fgets room (line ++ rest)).1 = line ++ more := by
  induction line generalizing room with
  | nil => exact ⟨_, rfl⟩
  | cons c line ih =>
    cases room with
    | zero => cases fits
    | succ room =>
      obtain ⟨other, whole⟩ := not_or.mp (List.mem_cons.not.mp whole)
      obtain ⟨more, read⟩ := ih whole (Nat.le_of_succ_le_succ fits)
      exact ⟨more, by simp [fgets, Ne.symm other, read]⟩

namespace SectionName

variable (name : SectionName)

theorem newline_headerLine : newline ∉ headerLine name.text := by
  have opens : newline ≠ '[' := by decide
  have closes : newline ≠ ']' := by decide
  simp [headerLine, name.clean.2.1, opens, closes]

theorem parseLine_header (rest : Text) :
    parseLine (headerLine name.text ++ rest) = .header name.text := by
  -- The parser reads the name off a line that starts with the header, whatever follows.
  have split : cstr (headerLine name.text ++ rest) = ('[' :: name.text) ++ ']' :: cstr rest := by
    have cleanLine : ∀ c ∈ headerLine name.text, decide (c ≠ nul) = true := by
      have opens : '[' ≠ nul := by decide
      have closes : ']' ≠ nul := by decide
      intro c member
      refine decide_eq_true ?_
      rintro rfl
      simp [headerLine, name.clean.1, Ne.symm opens, Ne.symm closes] at member
    unfold cstr
    rw [List.takeWhile_append_of_pos cleanLine]
    simp [headerLine]
  have trimmed : trim (cstr (headerLine name.text ++ rest)) =
      '[' :: (name.text ++ ']' :: (cstr rest).rdropWhile isspace) := by
    rw [split, trim, Trim.trim_around (show isspace ']' = false by decide)]
    simp [show isspace '[' = false by decide]
  simp only [parseLine, trimmed]
  simpa using takeWhile_until name.clean.2.2 ((cstr rest).rdropWhile isspace)

theorem heading_header (rest : Text) :
    (row (headerLine name.text ++ rest)).heading = some name.text := by
  simp [row, Row.heading, name.parseLine_header, bounded_same name.fits]

theorem rows_header (rest : Text) : ∃ first more,
    rows (headerLine name.text ++ rest) = first :: more ∧ first.heading = some name.text := by
  have fits : (headerLine name.text).length ≤ lineSize - 1 := by
    have short := name.fits
    simp only [headerLine, List.length_append, List.length_cons, List.length_nil, maxSection,
      lineSize] at short ⊢
    omega
  obtain ⟨more, read⟩ := fgets_starts name.newline_headerLine fits rest
  have some_text : headerLine name.text ++ rest ≠ [] := by simp [headerLine]
  rw [rows_cons some_text, read]
  exact ⟨_, _, rfl, name.heading_header more⟩

end SectionName

/-! ## Keys and lines in parts -/

theorem sectionKeys_append (first second : KerchunkConfig) (name : Text) :
    sectionKeys (first ++ second) name = sectionKeys first name ++ sectionKeys second name := by
  simp [sectionKeys, sectionEntries, Grouping.group_append]

theorem sectionKeys_none {cfg : KerchunkConfig} {name : Text} :
    sectionKeys cfg name = [] ↔ ∀ e ∈ cfg, e.sectionName ≠ name := by
  simp [sectionKeys, sectionEntries, Grouping.group, List.filter_eq_nil_iff]

theorem outside_append (name : Text) (first second : Placed) :
    outside name (first ++ second) = outside name first ++ outside name second := by
  simp [outside]

theorem outside_within (name : Text) (rs : List Row) : outside name (rs.map (Prod.mk name)) = [] := by
  simp [outside]

theorem entry_section {name : Text} {r : Row} {e : ConfigEntry} (read : r.entry name = some e) :
    e.sectionName = name := by
  unfold Row.entry at read
  split at read
  next =>
    cases read
    rfl
  next => cases read

theorem entriesOf_within {name : Text} {rs : List Row} {e : ConfigEntry}
    (member : e ∈ entriesOf (rs.map (Prod.mk name))) : e.sectionName = name := by
  obtain ⟨p, placed, read⟩ := List.mem_filterMap.mp member
  obtain ⟨r, _, rfl⟩ := List.mem_map.mp placed
  exact entry_section read

theorem entry_isSome (r : Row) (name : Text) : (r.entry name).isSome = (r.entry []).isSome := by
  unfold Row.entry
  split <;> rfl

theorem entriesOf_length (placed : Placed) :
    (entriesOf placed).length = (placed.map Prod.snd).countP fun r => (r.entry []).isSome := by
  -- The number of keys does not depend on the sections they stand in.
  induction placed with
  | nil => rfl
  | cons p rest ih =>
    rw [List.map_cons, List.countP_cons, ← ih, ← entry_isSome p.2 p.1]
    cases read : p.2.entry p.1 <;> simp [entriesOf, read]

theorem entriesOf_none {first second : Placed} (same : first.map Prod.snd = second.map Prod.snd)
    (none_first : entriesOf first = []) : entriesOf second = [] := by
  rw [← List.length_eq_zero_iff, entriesOf_length, ← same, ← entriesOf_length, none_first,
    List.length_nil]

theorem kept_between (above between lead below : List Row) :
    Kept (above ++ below) (above ++ between ++ (lead ++ below)) :=
  ⟨above, between ++ lead, below, rfl, by simp⟩

def Row.ofOther (name : Text) (r : Row) : Bool :=
  r.heading.any (· ≠ name)

theorem ofOther_none {name : Text} {rs : List Row} :
    rs.countP (Row.ofOther name) = 0 ↔
      ∀ r ∈ rs, ∀ other, r.heading = some other → other = name := by
  rw [List.countP_eq_zero]
  refine forall₂_congr fun r _ => ?_
  cases found : r.heading <;> simp [Row.ofOther, found]

theorem ofOther_outside (name start : Text) (rs : List Row) :
    (outside name (Outline.placed Row.heading start rs)).countP (Row.ofOther name) =
      rs.countP (Row.ofOther name) := by
  -- The headers of the other sections all stand outside the section.
  induction rs generalizing start with
  | nil => rfl
  | cons r rest ih =>
    have later := ih (r.heading.getD start)
    rw [Outline.placed_cons, List.countP_cons, ← later]
    cases found : r.heading with
    | none =>
      by_cases here : start = name <;> simp [outside, Row.ofOther, found, here]
    | some other =>
      by_cases here : other = name <;> simp [outside, Row.ofOther, found, here]

/-! ## One splice -/

/-- The lines of a file before and after an edit of the section. -/
structure Spliced (name : Text) (edited : KerchunkConfig) (above cut mid below : List Row) : Prop where
  cutHead : cut = [] ∧ below = [] ∨ ∃ first more, cut = first :: more ∧ first.heading = some name
  midOwn : ∀ r ∈ mid, ∀ other, r.heading = some other → other = name
  midEntries : entriesOf (Outline.placed Row.heading (Outline.current Row.heading [] above) mid) = edited
  midEnds : Outline.current Row.heading (Outline.current Row.heading [] above) mid = name ∨
    Outline.current Row.heading (Outline.current Row.heading [] above) mid =
      Outline.current Row.heading [] above
  inSection : ∀ e ∈ edited, e.sectionName = name

theorem located_rows {start : Text} {file : Text} {above mid below : List Row}
    (split : rows file = above ++ mid ++ below) : located start file =
      Outline.placed Row.heading start above ++
        Outline.placed Row.heading (Outline.current Row.heading start above) mid ++
        Outline.placed Row.heading
          (Outline.current Row.heading (Outline.current Row.heading start above) mid) below := by
  rw [located, split, Outline.placed_append, Outline.placed_append, Outline.current_append]

section

variable {name : Text} {edited : KerchunkConfig} {above cut mid below : List Row} {file file' : Text}

theorem Spliced.own_cut (spliced : Spliced name edited above cut mid below)
    (old : rows file = above ++ cut ++ below)
    (own : ∀ r ∈ cut, ∀ other, r.heading = some other → other = name) :
    located [] file = Outline.placed Row.heading [] above ++ cut.map (Prod.mk name) ++
      Outline.placed Row.heading name below := by
  -- A section without headers of others: all its lines stand in it, and so does what follows.
  rw [located_rows old]
  rcases spliced.cutHead with ⟨rfl, rfl⟩ | ⟨first, more, rfl, header⟩
  next => simp
  next =>
    have here : ∀ start, Outline.placed Row.heading start (first :: more) =
        Outline.placed Row.heading name (first :: more) := by
      intro start
      simp [Outline.placed_cons, header]
    have ends : ∀ start, Outline.current Row.heading start (first :: more) =
        Outline.current Row.heading name (first :: more) := by
      intro start
      simp [Outline.current, header]
    obtain ⟨placed, stays⟩ := Outline.placed_within own
    rw [ends, here, placed, stays]

theorem Spliced.keeps (spliced : Spliced name edited above cut mid below)
    (old : rows file = above ++ cut ++ below) (new : rows file' = above ++ mid ++ below)
    (own : ∀ r ∈ cut, ∀ other, r.heading = some other → other = name) :
    Kept (outside name (located [] file)) (outside name (located [] file')) := by
  obtain ⟨lead, later, _, after⟩ := Outline.placed_after Row.heading below
  rw [spliced.own_cut old own, located_rows new, after, after]
  simp only [outside_append, outside_within, List.append_nil, List.nil_append]
  exact kept_between _ _ _ _

theorem below_same (after : ∀ e ∈ entriesOf (Outline.placed Row.heading name below),
    e.sectionName ≠ name) (start : Text) :
    entriesOf (Outline.placed Row.heading start below) =
      entriesOf (Outline.placed Row.heading name below) := by
  -- The keys of what follows the section are the same after the edit, where none stand in it.
  obtain ⟨lead, later, _, split⟩ := Outline.placed_after Row.heading below
  simp only [split, entriesOf_append] at after ⊢
  have none_in_lead : entriesOf (lead.map (Prod.mk name)) = [] := by
    refine List.eq_nil_iff_forall_not_mem.mpr fun e member => ?_
    exact after e (List.mem_append_left _ member) (entriesOf_within member)
  rw [none_in_lead, entriesOf_none (by simp) none_in_lead]

theorem Spliced.below_none (spliced : Spliced name edited above cut mid below)
    (old : rows file = above ++ cut ++ below) (new : rows file' = above ++ mid ++ below)
    (own : ∀ r ∈ cut, ∀ other, r.heading = some other → other = name)
    (none_in : sectionKeys (entriesOf (Outline.placed Row.heading
      (Outline.current Row.heading (Outline.current Row.heading [] above) mid) below)) name = [])
    (others : ∀ other ≠ name,
      sectionKeys (fileEntries file') other = sectionKeys (fileEntries file) other) :
    ∀ e ∈ entriesOf (Outline.placed Row.heading name below), e.sectionName ≠ name := by
  -- The keys of what follows the section before the edit, from those after it.
  rcases spliced.midEnds with ends | ends
  next =>
    rw [ends] at none_in
    exact sectionKeys_none.mp none_in
  next =>
    by_cases inside : Outline.current Row.heading [] above = name
    next =>
      rw [ends, inside] at none_in
      exact sectionKeys_none.mp none_in
    next =>
      -- What the edit moves to the section above it would be new keys there.
      have same := others _ inside
      simp only [fileEntries, located_rows new, spliced.own_cut old own, entriesOf_append,
        spliced.midEntries, sectionKeys_append, ends] at same
      have foreign : ∀ {cfg : KerchunkConfig}, (∀ e ∈ cfg, e.sectionName = name) →
          sectionKeys cfg (Outline.current Row.heading [] above) = [] := by
        intro cfg all
        exact sectionKeys_none.mpr fun e member => all e member ▸ Ne.symm inside
      rw [foreign spliced.inSection, foreign fun e member => entriesOf_within member] at same
      obtain ⟨lead, later, _, split⟩ := Outline.placed_after Row.heading below
      simp only [ends, split, entriesOf_append, sectionKeys_append, List.append_nil,
        foreign fun e member => entriesOf_within member, List.nil_append, List.append_cancel_left_eq,
        List.append_left_eq_self, List.append_eq_nil_iff] at same none_in ⊢
      have none_moved : entriesOf (lead.map (Prod.mk (Outline.current Row.heading [] above))) = [] :=
        List.eq_nil_iff_forall_not_mem.mpr fun e member =>
          sectionKeys_none.mp same e member (entriesOf_within member)
      have none_in_lead : entriesOf (lead.map (Prod.mk name)) = [] :=
        entriesOf_none (by simp) none_moved
      rw [none_in_lead, List.nil_append]
      exact sectionKeys_none.mp none_in.2

theorem Spliced.agrees_iff (spliced : Spliced name edited above cut mid below)
    (old : rows file = above ++ cut ++ below) (new : rows file' = above ++ mid ++ below) :
    ((fileEntries file').length ≤ maxEntries ∧
        sectionKeys (fileEntries file') name = sectionKeys edited name ∧
        (∀ other ≠ name,
          sectionKeys (fileEntries file') other = sectionKeys (fileEntries file) other) ∧
        Kept (outside name (located [] file)) (outside name (located [] file'))) ↔
      (∀ r ∈ cut, ∀ other, r.heading = some other → other = name) ∧
        (∀ e ∈ entriesOf (Outline.placed Row.heading [] above), e.sectionName ≠ name) ∧
        (∀ e ∈ entriesOf (Outline.placed Row.heading name below), e.sectionName ≠ name) ∧
        (entriesOf (Outline.placed Row.heading [] above)).length + edited.length +
          (entriesOf (Outline.placed Row.heading name below)).length ≤ maxEntries := by
  have result : fileEntries file' = entriesOf (Outline.placed Row.heading [] above) ++ edited ++
      entriesOf (Outline.placed Row.heading
        (Outline.current Row.heading (Outline.current Row.heading [] above) mid) below) := by
    simp only [fileEntries, located_rows new, entriesOf_append, spliced.midEntries]
  have sizes : ∀ start, (entriesOf (Outline.placed Row.heading start below)).length =
      (entriesOf (Outline.placed Row.heading name below)).length := by
    intro start
    simp only [entriesOf_length, Outline.placed_items]
  constructor
  next =>
    rintro ⟨room, keys, others, _, _, _, before, after⟩
    have own : ∀ r ∈ cut, ∀ other, r.heading = some other → other = name := by
      -- A header of another section that the edit takes away is missing afterwards.
      refine ofOther_none.mp ?_
      have lost := congrArg (List.countP (Row.ofOther name)) before
      have left := congrArg (List.countP (Row.ofOther name)) after
      have fresh := ofOther_none.mpr spliced.midOwn
      simp only [located, ofOther_outside, old, new, List.countP_append] at lost left
      omega
    rw [result] at keys room
    simp only [sectionKeys_append, List.append_assoc] at keys
    have counts := congrArg List.length keys
    simp only [List.length_append] at counts
    have none_above : sectionKeys (entriesOf (Outline.placed Row.heading [] above)) name = [] :=
      List.length_eq_zero_iff.mp (by omega)
    have none_below := List.length_eq_zero_iff.mp (show (sectionKeys (entriesOf
      (Outline.placed Row.heading
        (Outline.current Row.heading (Outline.current Row.heading [] above) mid) below))
          name).length = 0 by omega)
    refine ⟨own, sectionKeys_none.mp none_above, spliced.below_none old new own none_below others, ?_⟩
    simpa only [List.length_append, sizes] using room
  next =>
    rintro ⟨own, before, after, room⟩
    rw [below_same after] at result
    refine ⟨by simpa [result, Nat.add_assoc] using room, ?_, fun other foreign => ?_, spliced.keeps old new own⟩
    next =>
      rw [result, sectionKeys_append, sectionKeys_append, sectionKeys_none.mpr before,
        sectionKeys_none.mpr after, List.nil_append, List.append_nil]
    next =>
      have none_edited : sectionKeys edited other = [] :=
        sectionKeys_none.mpr fun e member => spliced.inSection e member ▸ Ne.symm foreign
      have none_cut : sectionKeys (entriesOf (cut.map (Prod.mk name))) other = [] :=
        sectionKeys_none.mpr fun e member => entriesOf_within member ▸ Ne.symm foreign
      rw [result]
      simp only [fileEntries, spliced.own_cut old own, entriesOf_append, sectionKeys_append,
        none_edited, none_cut]

end

/-! ## The edits -/

theorem blank_bare {n : Nat} : ∀ r ∈ List.replicate n blank, r.heading = none := by
  intro r member
  rw [List.eq_of_mem_replicate member]
  rfl

theorem placed_blank (start : Text) (n : Nat) :
    Outline.placed Row.heading start (List.replicate n blank) =
        (List.replicate n blank).map (Prod.mk start) ∧
      Outline.current Row.heading start (List.replicate n blank) = start := by
  refine Outline.placed_within fun r member other found => ?_
  rw [blank_bare r member] at found
  cases found

theorem entriesOf_blank (start : Text) (n : Nat) :
    entriesOf ((List.replicate n blank).map (Prod.mk start)) = [] := by
  rw [← List.length_eq_zero_iff, entriesOf_length]
  simp [List.countP_eq_zero, blank, Row.entry]

theorem rows_padding (file more : Text) : ∃ n,
    rows (file ++ padding file ++ more) = rows file ++ List.replicate n blank ++ rows more := by
  obtain ⟨n, ended⟩ := rows_concat file
  have whole := terminated_concat file
  unfold padding
  split
  next twice =>
    obtain ⟨rest, split⟩ := List.isSuffixOf_iff_suffix.mp twice
    have terminated : Terminated file := by
      rw [← split]
      simpa using terminated_concat (rest ++ [newline])
    exact ⟨0, by simp [rows_append terminated]⟩
  next =>
    split
    next once =>
      exact ⟨n, by rw [rows_append whole, ended]⟩
    next =>
      have regroup : file ++ [newline, newline] ++ more =
          (file ++ [newline]) ++ ([newline] ++ more) := by simp
      have second : rows ([newline] ++ more) = blank :: rows more := by
        rw [rows_append (show Terminated [newline] from terminated_concat []), rows_newline,
          List.singleton_append]
      refine ⟨n + 1, ?_⟩
      rw [regroup, rows_append whole, ended, second]
      simp [List.replicate_succ']

theorem rows_newSection (name : SectionName) (body : Body) : ∃ header,
    rows (newSection name.text body.text) = header :: rows body.text ∧
      header.heading = some name.text ∧ header.entry name.text = none := by
  -- The header line, and what the body says under it.
  have split : newSection name.text body.text =
      (headerLine name.text ++ [newline]) ++ body.text := by simp [newSection]
  have whole := terminated_concat (headerLine name.text)
  have fits : (headerLine name.text).length < lineSize - 1 := by
    have short := name.fits
    simp only [headerLine, List.length_append, List.length_cons, List.length_nil, maxSection,
      lineSize] at short ⊢
    omega
  have one : rows (headerLine name.text ++ [newline]) = [row (headerLine name.text ++ [newline])] := by
    rw [rows_cons (by simp), fgets_line name.newline_headerLine fits [], rows_nil]
  refine ⟨row (headerLine name.text ++ [newline]), ?_, name.heading_header _, ?_⟩
  next => rw [split, rows_append whole, one, List.singleton_append]
  next => simp [row, Row.entry, name.parseLine_header]

section

variable {name : SectionName} {above cut below : List Row}

theorem spliced_replace (body : Body) (n : Nat)
    (cutHead : cut = [] ∧ below = [] ∨
      ∃ first more, cut = first :: more ∧ first.heading = some name.text) :
    Spliced name.text ((Edit.replace body).entries name) above cut
      (List.replicate n blank ++ rows (newSection name.text body.text)) below := by
  obtain ⟨header, split, heading, none_read⟩ := rows_newSection name body
  have own : ∀ r ∈ rows body.text, ∀ other, r.heading = some other → other = name.text := by
    intro r member other found
    rw [body.bare r member] at found
    cases found
  obtain ⟨placed, stays⟩ := Outline.placed_within own
  obtain ⟨padded, same⟩ := placed_blank (Outline.current Row.heading [] above) n
  have ends : ∀ start, Outline.current Row.heading start (header :: rows body.text) = name.text := by
    intro start
    rw [Outline.current, List.foldl_cons, heading]
    exact stays
  refine ⟨cutHead, ?_, ?_, Or.inl ?_, ?_⟩
  next =>
    intro r member other found
    rw [split] at member
    rcases List.mem_append.mp member with pad | member
    next =>
      rw [blank_bare r pad] at found
      cases found
    next =>
      rcases List.mem_cons.mp member with rfl | member
      next => exact Option.some.inj (found.symm.trans heading)
      next => exact own r member other found
  next =>
    rw [split, Outline.placed_append, padded, same, entriesOf_append, entriesOf_blank,
      Outline.placed_cons, heading]
    simp only [entriesOf, Option.getD_some, List.filterMap_cons, none_read, List.nil_append]
    rfl
  next => rw [split, Outline.current_append, ends]
  next =>
    intro e member
    simp only [Edit.entries, located, placed] at member
    exact entriesOf_within member

theorem spliced_remove (n : Nat)
    (cutHead : cut = [] ∧ below = [] ∨
      ∃ first more, cut = first :: more ∧ first.heading = some name.text) :
    Spliced name.text (Edit.remove.entries name) above cut (List.replicate n blank) below := by
  obtain ⟨placed, same⟩ := placed_blank (Outline.current Row.heading [] above) n
  refine ⟨cutHead, fun r member other found => ?_, ?_, Or.inr same, by simp [Edit.entries]⟩
  next =>
    rw [blank_bare r member] at found
    cases found
  next => rw [placed, entriesOf_blank]; rfl

end

theorem findNextSectionHeader_line {line : Text} (whole : newline ∉ line) (rest : Text) :
    findNextSectionHeader false (line ++ rest) =
      (line ++ (findNextSectionHeader false rest).1, (findNextSectionHeader false rest).2) := by
  induction line with
  | nil => rfl
  | cons c line ih =>
    obtain ⟨other, whole⟩ := not_or.mp (List.mem_cons.not.mp whole)
    simp [findNextSectionHeader, Ne.symm other, ih whole]

theorem rows_append_last {text more : Text} (whole : more ≠ [] → Terminated text) :
    rows (text ++ more) = rows text ++ rows more := by
  by_cases last : more = []
  next => simp [last, rows_nil]
  next => exact rows_append (whole last) more

theorem rows_parts (name : SectionName) (file : Text) :
    rows file = (parts name file).1 ++ (parts name file).2.1 ++ (parts name file).2.2 ∧
      ((parts name file).2.1 = [] ∧ (parts name file).2.2 = [] ∨
        ∃ first more, (parts name file).2.1 = first :: more ∧ first.heading = some name.text) := by
  -- The lines of the file, by the parts that the editor sees.
  unfold parts
  cases located : findSectionHeader name.text true file with
  | none => exact ⟨by simp, Or.inl ⟨rfl, rfl⟩⟩
  | some found =>
    obtain ⟨before, here⟩ := found
    obtain ⟨split, ends, _, header⟩ := findSectionHeader_some located
    obtain ⟨cut, after⟩ := findNextSectionHeader_split false here
    obtain ⟨rest, starts⟩ := headerAt_split header
    simp only
    constructor
    next =>
      rw [split, rows_append ends, List.append_assoc]
      conv_lhs => rw [cut]
      rw [rows_append_last fun left => (after left).1]
    next =>
      refine Or.inr ?_
      rw [starts, findNextSectionHeader_line name.newline_headerLine]
      exact name.rows_header _

theorem terminated_newSection (name : SectionName) (body : Body) :
    Terminated (newSection name.text body.text) := by
  intro c isLast
  rw [newSection, List.getLast?_append, List.getLast?_cons] at isLast
  cases ended : body.text.getLast? with
  | none => simpa [ended] using isLast.symm
  | some d =>
    have same : d = c := by simpa [ended] using isLast
    exact same ▸ body.terminated d ended

theorem rows_apply (edit : Edit) (name : SectionName) (file : Text) : ∃ mid,
    rows (edit.apply name file) = (parts name file).1 ++ mid ++ (parts name file).2.2 ∧
      Spliced name.text (edit.entries name) (parts name file).1 (parts name file).2.1 mid
        (parts name file).2.2 := by
  have cutHead := (rows_parts name file).2
  cases edit with
  | replace body =>
    have mid := fun n => @spliced_replace name (parts name file).1 (parts name file).2.1
      (parts name file).2.2 body n cutHead
    cases located : findSectionHeader name.text true file with
    | none =>
      obtain ⟨n, padded⟩ := rows_padding file (newSection name.text body.text)
      refine ⟨_, ?_, mid n⟩
      simp only [Edit.apply, replaceSection, parts, located]
      rw [padded, List.append_nil, List.append_assoc]
    | some found =>
      obtain ⟨before, here⟩ := found
      obtain ⟨_, ends, _⟩ := findSectionHeader_some located
      refine ⟨_, ?_, mid 0⟩
      simp only [Edit.apply, replaceSection, parts, located, List.append_assoc]
      rw [rows_append ends, rows_append (terminated_newSection name body)]
      rfl
  | remove =>
    have mid := fun n => @spliced_remove name (parts name file).1 (parts name file).2.1
      (parts name file).2.2 n cutHead
    cases located : findSectionHeader name.text true file with
    | none =>
      refine ⟨_, ?_, mid 0⟩
      simp [Edit.apply, removeSection, parts, located]
    | some found =>
      obtain ⟨before, here⟩ := found
      obtain ⟨_, ends, _⟩ := findSectionHeader_some located
      obtain ⟨_, after⟩ := findNextSectionHeader_split false here
      -- What follows starts with a bracket, so there is nothing to gobble.
      have same : ((findNextSectionHeader false here).2.dropWhile fun c =>
          c = newline || c = carriageReturn) = (findNextSectionHeader false here).2 := by
        cases left : (findNextSectionHeader false here).2 with
        | nil => rfl
        | cons c rest =>
          have bracket := (after (by simp [left])).2.2
          rw [left] at bracket
          obtain rfl : c = '[' := Option.some.inj bracket
          rw [List.dropWhile_cons_of_neg (by decide)]
      simp only [Edit.apply, removeSection, parts, located, same]
      simp only [parts, located] at mid
      split
      next =>
        refine ⟨_, ?_, mid 1⟩
        have regroup : before ++ newline :: (findNextSectionHeader false here).2 =
            before ++ ([newline] ++ (findNextSectionHeader false here).2) := rfl
        rw [regroup, rows_append ends,
          rows_append (show Terminated [newline] from terminated_concat []), rows_newline]
        simp
      next =>
        refine ⟨_, ?_, mid 0⟩
        rw [rows_append ends]
        simp

/-- The edit is what it should be exactly where the editor and the parser see the same section. -/
theorem edit_agrees_iff_aligned (file : Text) (name : SectionName) (edit : Edit) :
    Agrees file name edit ↔ Aligned file name edit := by
  obtain ⟨old, _⟩ := rows_parts name file
  obtain ⟨mid, new, spliced⟩ := rows_apply edit name file
  have both := spliced.agrees_iff old new
  constructor
  next =>
    rintro ⟨cfg, loaded, keys, others, kept⟩
    rw [parseFile_eq] at loaded
    split at loaded
    next room =>
      cases loaded
      obtain ⟨own, before, after, fits⟩ := both.mp ⟨room, keys, others, kept⟩
      exact ⟨own, before, after, fits⟩
    next => cases loaded
  next =>
    intro aligned
    obtain ⟨room, keys, others, kept⟩ :=
      both.mpr ⟨aligned.own, aligned.before, aligned.after, aligned.room⟩
    exact ⟨_, by rw [parseFile_eq, if_pos room], keys, others, kept⟩

def sectionA : SectionName where
  text := ['a']
  clean := by decide
  fits := by decide

def newX : Body where
  text := "x = 2".toList ++ [newline]
  clean := by decide
  terminated := terminated_concat _
  bare := by decide

/-- Section b has a blank before its header and is taken for a part of section a. -/
theorem indented_section_swallowed :
    ¬ Agrees "[a]\nx = 1\n [b]\ny = 2\n".toList sectionA (.replace newX) := by
  rintro ⟨cfg, loaded, -, others, -⟩
  have result : parseFile (Edit.apply (.replace newX) sectionA "[a]\nx = 1\n [b]\ny = 2\n".toList) =
      some [{ sectionName := ['a'], key := ['x'], value := ['2'] }] := by decide
  obtain rfl := Option.some.inj (loaded.symm.trans result)
  exact absurd (others ['b'] (by decide)) (by decide)

end Kerchunk.Config
