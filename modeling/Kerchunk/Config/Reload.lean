import Kerchunk.Config.Layout
import Kerchunk.Config.Lookup

set_option autoImplicit false

/-!
# Reloading (`src/kerchunk_config.c`)

A configuration is loaded again in place: the table is emptied first, and the file is then read
into it.
-/

namespace Kerchunk.Config

def pathSize : Nat := 256

structure LoadedConfig where
  entries : KerchunkConfig
  path : Text
deriving DecidableEq

/-- What a path holds: no file that opens for reading, or a file with the text that `fgets` gets. -/
inductive FileState where
  | unopened
  | opened (text : Text)
deriving DecidableEq

abbrev Disk := Text → FileState

def readRows : Reader → List Text → Bool × KerchunkConfig
  -- Whether the table takes every line, and the entries that are in it then.
  | r, [] => (true, r.entries)
  | r, line :: rest =>
    match readLine r line with
    | some next => readRows next rest
    | none => (false, r.entries)

def parseInto (entries : KerchunkConfig) : FileState → Bool × KerchunkConfig
  -- `parse_file` adds to what the table holds.
  | .unopened => (false, entries)
  | .opened text => readRows ⟨[], entries⟩ (fileLines text.length text)

def configLoad (path : Text) (disk : Disk) : Option LoadedConfig :=
  let parsed := parseInto [] (disk path)
  if parsed.1 then some { entries := parsed.2, path := bounded pathSize path } else none

def configReload (cfg : LoadedConfig) (disk : Disk) : Bool × LoadedConfig :=
  -- Whether it returns 0, and what is left.
  if cfg.path = [] then (false, cfg)
  else
    let parsed := parseInto [] (disk cfg.path)
    (parsed.1, { cfg with entries := parsed.2 })

/-! ## What the parser leaves in the table -/

theorem readRows_eq {r : Reader} (room : r.entries.length ≤ maxEntries) (lines : List Text) :
    readRows r lines =
      let entries := r.entries ++
        entriesOf (Outline.placed Row.heading r.currentSection (lines.map row))
      (decide (entries.length ≤ maxEntries), entries.take maxEntries) := by
  induction lines generalizing r with
  | nil => simp [readRows, entriesOf, room, List.take_of_length_le]
  | cons line rest ih =>
    unfold readRows
    rw [readLine_eq room line]
    simp only [List.map_cons, Outline.placed_cons, entriesOf_cons, ← List.append_assoc]
    by_cases fits : (r.entries ++
        ((row line).entry ((row line).heading.getD r.currentSection)).toList).length ≤ maxEntries
    next =>
      rw [if_pos fits]
      exact ih fits
    next =>
      -- One entry more does not fit, so the table is full.
      have full : r.entries.length = maxEntries := by
        cases entry : (row line).entry ((row line).heading.getD r.currentSection) with
        | none =>
          rw [entry, Option.toList_none, List.append_nil] at fits
          exact absurd room fits
        | some e =>
          rw [entry, List.length_append, Option.toList_some, List.length_singleton] at fits
          omega
      rw [if_neg fits, List.append_assoc]
      simp only [Prod.mk.injEq]
      constructor
      next =>
        apply Eq.symm
        apply decide_eq_false
        simp only [List.length_append] at fits ⊢
        omega
      next => rw [← full, List.take_left]

theorem parseInto_opened (text : Text) :
    parseInto [] (.opened text) =
      (decide ((fileEntries text).length ≤ maxEntries), (fileEntries text).take maxEntries) :=
  readRows_eq (Nat.zero_le _) (fileLines text.length text)

/-- The parser that stops at a full table and the one that gives up there. -/
theorem parseInto_parseFile (text : Text) :
    parseFile text =
      if (parseInto [] (.opened text)).1 then some (parseInto [] (.opened text)).2 else none := by
  rw [parseFile_eq, parseInto_opened]
  by_cases fits : (fileEntries text).length ≤ maxEntries
  next => simp [fits, List.take_of_length_le fits]
  next => simp [fits]

/-! ## What can be read of a configuration -/

def SameReadings (first second : KerchunkConfig) : Prop :=
  -- The iterators show the same sections, keys and values, and every key is found with its value.
  listing first = listing second ∧
    ∀ sectionName key, configGet first sectionName key = configGet second sectionName key

theorem sectionEntries_listed {first second : KerchunkConfig} {name : Text}
    (keys : sectionKeys first name = sectionKeys second name) :
    sectionEntries first name = sectionEntries second name := by
  have whole (cfg : KerchunkConfig) : (sectionKeys cfg name).map
      (fun pair => (⟨name, pair.1, pair.2⟩ : ConfigEntry)) = sectionEntries cfg name := by
    rw [sectionKeys, List.map_map]
    conv_rhs => rw [← List.map_id (sectionEntries cfg name)]
    apply List.map_congr_left
    intro e member
    simp only [Function.comp_apply, ← (Grouping.mem_group.mp member).2, id]
  rw [← whole first, ← whole second, keys]

theorem sectionEntries_grouped {first second : KerchunkConfig}
    (same : Grouping.grouped ConfigEntry.sectionName first =
      Grouping.grouped ConfigEntry.sectionName second) (name : Text) :
    sectionEntries first name = sectionEntries second name := by
  have kept (cfg : KerchunkConfig) :=
    @Grouping.group_regrouped _ _ _ ConfigEntry.sectionName cfg name
  exact (kept first).symm.trans ((congrArg (fun l => Grouping.group _ l name) same).trans (kept second))

/-- Two tables read the same when each section has the same entries in both, however the sections
are interleaved. -/
theorem sameReadings_iff {first second : KerchunkConfig} :
    SameReadings first second ↔
      Grouping.grouped ConfigEntry.sectionName first =
        Grouping.grouped ConfigEntry.sectionName second := by
  constructor
  next =>
    intro same
    have listed := same.1
    have names : sectionNames first = sectionNames second := by
      simpa [listing, Function.comp_def] using congrArg (List.map Prod.fst) listed
    rw [listing, listing, names] at listed
    have keys := List.map_inj_left.mp listed
    unfold Grouping.grouped
    rw [show Grouping.keys ConfigEntry.sectionName first = sectionNames second from names]
    apply List.flatMap_congr
    intro name member
    exact sectionEntries_listed (congrArg Prod.snd (keys name member))
  next =>
    intro same
    have entries := sectionEntries_grouped same
    have names : sectionNames first = sectionNames second := by
      rw [sectionNames, ← Grouping.keys_grouped first, same, Grouping.keys_grouped]
    constructor
    next => simp only [listing, names, sectionKeys, entries]
    next =>
      intro sectionName key
      rw [configGet_group, configGet_group, entries]

/-! ## A reload that fails -/

def KeepsReadings (cfg : LoadedConfig) (disk : Disk) : Prop :=
  -- A reload that reports failure leaves everything that can be read as it was.
  (configReload cfg disk).1 = false → SameReadings (configReload cfg disk).2.entries cfg.entries

def Harmless (cfg : LoadedConfig) : FileState → Prop
  -- There was nothing to lose, or nothing too many in the file, or the part that fits changes nothing.
  | .unopened => cfg.entries = []
  | .opened text =>
    (fileEntries text).length ≤ maxEntries ∨
      Grouping.grouped ConfigEntry.sectionName ((fileEntries text).take maxEntries) =
        Grouping.grouped ConfigEntry.sectionName cfg.entries

theorem grouped_eq_nil {cfg : KerchunkConfig} :
    [] = Grouping.grouped ConfigEntry.sectionName cfg ↔ cfg = [] := by
  rw [eq_comm, ← List.length_eq_zero_iff, (Grouping.grouped_perm cfg).length_eq,
    List.length_eq_zero_iff]

/-- A reload that succeeds is a fresh load, and one that fails drops what it had read. -/
theorem configLoad_reload {cfg : LoadedConfig} (fits : cfg.path.length < pathSize)
    (named : cfg.path ≠ []) (disk : Disk) :
    configLoad cfg.path disk =
      if (configReload cfg disk).1 then some (configReload cfg disk).2 else none := by
  simp only [configLoad, configReload, named, if_false, bounded_same fits]

theorem reload_keeps_iff (cfg : LoadedConfig) (disk : Disk) :
    KeepsReadings cfg disk ↔ cfg.path = [] ∨ Harmless cfg (disk cfg.path) := by
  unfold KeepsReadings configReload
  by_cases pathless : cfg.path = []
  next => simp [pathless, sameReadings_iff]
  next =>
    simp only [pathless, if_false, false_or, sameReadings_iff]
    cases disk cfg.path with
    | unopened =>
      simp only [parseInto, Harmless, forall_const]
      exact grouped_eq_nil
    | opened text =>
      simp only [parseInto_opened, Harmless, decide_eq_false_iff_not]
      exact imp_iff_or_not.trans (by rw [not_not, or_comm])

def stationConfig : LoadedConfig where
  entries := [{ sectionName := "general".toList, key := "callsign".toList, value := "W1AW".toList }]
  path := "kerchunk.conf".toList

theorem missing_file_clears :
    ¬ KeepsReadings stationConfig fun _ => .unopened := by
  rw [reload_keeps_iff]
  simp [Harmless, stationConfig]

end Kerchunk.Config
