import Kerchunk.Config.Lookup
import Kerchunk.Lib.CString
import Kerchunk.Users.Model

set_option autoImplicit false

/-!
# Whether new users and groups overwrite old ones
-/

namespace Kerchunk.Users

open Config
open Machine (Guarded run)

/-! ## Records -/

def Present (r : Created) (cfg : KerchunkConfig) : Prop :=
  ∀ field ∈ r.fields, configGet cfg r.sectionName field.1.toList = some (storedValue field.2)

def storedIds (cfg : KerchunkConfig) : Kind → List Nat
  | .user => (userInit cfg).map User.id
  | .group => (groupInit cfg).map Group.id

/-- The request, made after the inputs before it, gets an id and codes that nobody has, and its
record is found in memory and in the file after the inputs that follow. -/
structure Safe (start : State) (before : List Input) (i : Input) (after : List Input) (r : Created) :
    Prop where
  newId : r.id ∉ storedIds (run step start before).cfg r.kind
  newCodes : ∀ codes ∈ r.codes, ∀ u ∈ userInit (run step start before).cfg,
    u.dtmfLogin ≠ codes.1 ∧ u.ani ≠ codes.2
  present : Present r (run step start (before ++ i :: after)).cfg
  saved : ∃ again, parseFile (run step start (before ++ i :: after)).file = some again ∧
    Present r again

def UpToDate (s : State) : Kind → Prop
  -- The table in memory has what the configuration stores.
  | .user => ∀ u ∈ userInit s.cfg, u ∈ s.users
  | .group => ∀ g ∈ groupInit s.cfg, g ∈ s.groups

/-- The keys have room, and the reader takes the values, and the keys beside them, as they are. -/
structure Fits (cfg : KerchunkConfig) (r : Created) : Prop where
  room : cfg.length + (missing cfg r.calls).length ≤ maxEntries
  tidy : Tidy r.sectionName cfg
  plain : ∀ field ∈ r.fields, PlainValue (storedValue field.2)

/-- Requests that are accepted come when the table is up to date, and are saved whole; a reload
finds the file. -/
def Fresh (s : State) (i : Input) : Prop :=
  match i with
  | .turn mainOk readable _ => s.reload = true → (s.separate = true → mainOk = true) → readable = true
  | i => ∀ r save, created s i = some (r, save) → UpToDate s r.kind ∧ save = .whole ∧ Fits s.cfg r

/-! ## What a request makes -/

def recordKeys : List String :=
  ["name", "username", "email", "callsign", "dtmf_login", "ani", "access", "voicemail", "group",
    "totp_secret"]

structure Made (s : State) (r : Created) : Prop where
  next : match r.kind with
    | .user => nextUserId s.users = some r.id
    | .group => nextGroupId s.groups = some r.id
  newCodes : ∀ codes ∈ r.codes,
    r.kind = .user ∧ ∀ u ∈ s.users, u.dtmfLogin ≠ codes.1 ∧ u.ani ≠ codes.2
  distinct : (r.fields.map Prod.fst).Nodup
  known : ∀ field ∈ r.fields, field.1 ∈ recordKeys
  named : "name" ∈ r.fields.map Prod.fst

theorem fields_made (b : UserBody) (name : Text) :
    ((b.fields name).map Prod.fst).Nodup ∧ (∀ field ∈ b.fields name, field.1 ∈ recordKeys) ∧
      "name" ∈ (b.fields name).map Prod.fst := by
  unfold UserBody.fields optional recordKeys
  cases b.username <;> cases b.email <;> cases b.callsign <;> simp

theorem registration_made (q : Registration) (username login ani : Text) :
    ((q.fields username login ani).map Prod.fst).Nodup ∧
      (∀ field ∈ q.fields username login ani, field.1 ∈ recordKeys) ∧
      "name" ∈ (q.fields username login ani).map Prod.fst := by
  unfold Registration.fields optional recordKeys
  cases nonEmpty q.email <;> cases nonEmpty q.callsign <;> simp

theorem userCreate_made {s : State} {b : UserBody} {r : Created} (made : userCreate s b = .created r) :
    Made s r := by
  unfold userCreate at made
  split at made
  next => cases made
  next name _ =>
    split at made
    next => cases made
    next id next =>
      obtain rfl := Reply.created.inj made
      obtain ⟨distinct, known, named⟩ := fields_made b name
      exact ⟨next, by simp, distinct, known, named⟩

theorem groupCreate_made {s : State} {name : Option Text} {r : Created}
    (made : groupCreate s name = .created r) : Made s r := by
  unfold groupCreate at made
  split at made
  next => cases made
  next =>
    split at made
    next => cases made
    next id next =>
      obtain rfl := Reply.created.inj made
      exact ⟨next, by simp, by simp, by simp [recordKeys], by simp⟩

theorem generate_new {min max : Nat} {draws : Nat → Option Nat} {taken : Text → Bool} {code : Text}
    (generated : generate min max draws taken = some code) : taken code = false ∧ code ≠ [] := by
  constructor
  next => simpa using List.find?_some generated
  next =>
    obtain ⟨i, _, rfl⟩ := List.mem_map.mp (List.mem_of_find?_eq_some generated)
    exact Nat.toDigits_ne_nil

theorem register_made {s : State} {q : Registration} {r : Created}
    (made : register s.users q = .created r) : Made s r := by
  simp only [register] at made
  split at made
  next => cases made
  split at made
  next => cases made
  split at made
  next => cases made
  split at made
  next => cases made
  next id next =>
    split at made
    next => cases made
    next login newLogin =>
      split at made
      next => cases made
      next ani newAni =>
        obtain rfl := Reply.created.inj made
        obtain ⟨distinct, known, named⟩ := registration_made q _ login ani
        refine ⟨next, ?_, distinct, known, named⟩
        intro codes generated
        obtain rfl := Option.some.inj (Option.mem_def.mp generated)
        refine ⟨rfl, fun u member => ?_⟩
        constructor
        next =>
          rintro rfl
          have unused := (generate_new newLogin).1
          rw [List.any_eq_false] at unused
          exact unused u member (by simp)
        next =>
          rintro rfl
          obtain ⟨unused, some⟩ := generate_new newAni
          rw [lookupByAni, if_neg some, Option.isSome_eq_false_iff, Option.isNone_iff_eq_none,
            List.find?_eq_none] at unused
          exact unused u member (by simp [some])

theorem created_made {s : State} {i : Input} {r : Created} {save : Save}
    (accepted : created s i = some (r, save)) : Made s r := by
  unfold created at accepted
  split at accepted
  next r save replied =>
    obtain ⟨rfl, rfl⟩ := Prod.mk.inj (Option.some.inj accepted)
    cases i with
    | createUser b save =>
      exact userCreate_made (Prod.mk.inj (Option.some.inj replied)).1
    | createGroup name save =>
      exact groupCreate_made (Prod.mk.inj (Option.some.inj replied)).1
    | register q save =>
      have registered := (Prod.mk.inj (Option.some.inj replied)).1
      unfold apiRegister at registered
      split at registered
      next => cases registered
      split at registered
      next => cases registered
      split at registered
      next => cases registered
      split at registered
      next => cases registered
      next r made =>
        obtain rfl := Reply.created.inj registered
        exact register_made made
    | hangup => cases replied
    | turn mainOk readable registration => cases replied
  next => cases accepted

/-! ## New ids -/

theorem mem_loadedIds {A : Type} {load : Nat → Option A} {idOf : A → Nat}
    (own : ∀ {id a}, load id = some a → idOf a = id) {max id : Nat} :
    id ∈ ((List.range' 1 max).filterMap load).map idOf ↔
      (1 ≤ id ∧ id ≤ max) ∧ (load id).isSome = true := by
  -- The ids of what a range of numbers loads, each under its own number.
  have bound : (1 ≤ id ∧ id < 1 + max) ↔ 1 ≤ id ∧ id ≤ max := by omega
  simp only [List.mem_map, List.mem_filterMap, Option.isSome_iff_exists]
  constructor
  next =>
    rintro ⟨a, ⟨other, inRange, loads⟩, rfl⟩
    obtain rfl := own loads
    exact ⟨bound.mp (List.mem_range'_1.mp inRange), a, loads⟩
  next =>
    rintro ⟨inRange, a, loads⟩
    exact ⟨a, ⟨id, List.mem_range'_1.mpr (bound.mpr inRange), loads⟩, own loads⟩

theorem loadUser_id {cfg : KerchunkConfig} {id : Nat} {u : User} (loads : loadUser cfg id = some u) :
    u.id = id := by
  obtain ⟨_, _, rfl⟩ := Option.map_eq_some_iff.mp loads
  rfl

theorem loadGroup_id {cfg : KerchunkConfig} {id : Nat} {g : Group}
    (loads : loadGroup cfg id = some g) : g.id = id := by
  obtain ⟨_, _, rfl⟩ := Option.map_eq_some_iff.mp loads
  rfl

theorem loadUser_isSome (cfg : KerchunkConfig) (id : Nat) :
    (loadUser cfg id).isSome =
      (configGet cfg (Kind.user.sectionName id) "name".toList).isSome :=
  Option.isSome_map

theorem loadGroup_isSome (cfg : KerchunkConfig) (id : Nat) :
    (loadGroup cfg id).isSome =
      (configGet cfg (Kind.group.sectionName id) "name".toList).isSome :=
  Option.isSome_map

theorem mem_storedIds {cfg : KerchunkConfig} {kind : Kind} {id : Nat} :
    id ∈ storedIds cfg kind ↔ (1 ≤ id ∧ id ≤ kind.maxId) ∧
      (configGet cfg (kind.sectionName id) "name".toList).isSome = true := by
  -- The stored ids are those whose sections have names.
  cases kind with
  | user =>
    rw [← loadUser_isSome]
    exact mem_loadedIds loadUser_id
  | group =>
    rw [← loadGroup_isSome]
    exact mem_loadedIds loadGroup_id

theorem firstFree_inRange {max id : Nat} {free : Nat → Bool}
    (found : (List.range' 1 max).find? free = some id) : 1 ≤ id ∧ id ≤ max := by
  have member := List.mem_range'_1.mp (List.mem_of_find?_eq_some found)
  omega

theorem made_inRange {s : State} {r : Created} (made : Made s r) :
    1 ≤ r.id ∧ r.id ≤ r.kind.maxId := by
  have next := made.next
  cases kind : r.kind with
  | user =>
    rw [kind] at next
    exact firstFree_inRange next
  | group =>
    rw [kind] at next
    exact firstFree_inRange next

theorem firstFree_new {A : Type} {idOf : A → Nat} {known stored : List A} {max id : Nat}
    (loaded : ∀ a ∈ stored, a ∈ known)
    (found : (List.range' 1 max).find?
      (fun id => known.find? (fun a => idOf a = id) = none) = some id) :
    id ∉ stored.map idOf := by
  -- An id that nothing in memory has is not stored when all that is stored is in memory.
  intro member
  obtain ⟨a, present, same⟩ := List.mem_map.mp member
  have free := List.find?_some found
  rw [decide_eq_true_eq, List.find?_eq_none] at free
  exact free a (loaded a present) (decide_eq_true same)

theorem made_newId {s : State} {r : Created} (made : Made s r) (upToDate : UpToDate s r.kind) :
    r.id ∉ storedIds s.cfg r.kind := by
  have next := made.next
  cases kind : r.kind with
  | user =>
    rw [kind] at next upToDate
    exact firstFree_new upToDate next
  | group =>
    rw [kind] at next upToDate
    exact firstFree_new upToDate next

theorem made_newCodes {s : State} {r : Created} (made : Made s r) (upToDate : UpToDate s r.kind) :
    ∀ codes ∈ r.codes, ∀ u ∈ userInit s.cfg, u.dtmfLogin ≠ codes.1 ∧ u.ani ≠ codes.2 := by
  intro codes generated u stored
  obtain ⟨kind, unused⟩ := made.newCodes codes generated
  rw [kind] at upToDate
  exact unused u (upToDate u stored)

/-! ## The names of a record's entries -/

theorem mem_sectionName {kind : Kind} {id : Nat} {c : Char} (member : c ∈ kind.sectionName id) :
    c ∈ "user.".toList ∨ c ∈ "group.".toList ∨ c.isDigit = true := by
  have digit (isDigit : c ∈ decimal id) : c.isDigit = true :=
    Decimal.isDigit_toDigits id c isDigit
  cases kind with
  | user => exact (List.mem_append.mp member).elim .inl fun isDigit => .inr (.inr (digit isDigit))
  | group => exact .inr ((List.mem_append.mp member).elim .inl fun isDigit => .inr (digit isDigit))

theorem notMem_sectionName (kind : Kind) (id : Nat) {c : Char}
    (foreign : c ∉ "user.".toList ∧ c ∉ "group.".toList ∧ c.isDigit = false) :
    c ∉ kind.sectionName id := by
  intro member
  rcases mem_sectionName member with user | group | digit
  next => exact foreign.1 user
  next => exact foreign.2.1 group
  next => rw [foreign.2.2] at digit; cases digit

theorem sectionName_length {kind : Kind} {id : Nat} (small : id ≤ maxUserId) :
    (kind.sectionName id).length < maxSection := by
  have digits : (decimal id).length ≤ 4 :=
    (Nat.length_toDigits_le_iff (by decide) (by decide)).mpr (Nat.lt_of_le_of_lt small (by decide))
  have user : "user.".toList.length = 5 := by decide
  have group : "group.".toList.length = 6 := by decide
  cases kind with
  | user =>
    change ("user.".toList ++ decimal id).length < maxSection
    rw [List.length_append, user, maxSection]
    omega
  | group =>
    change ("group.".toList ++ decimal id).length < maxSection
    rw [List.length_append, group, maxSection]
    omega

/-- The reader takes the key as it is. -/
structure PlainName (sectionName key : Text) : Prop where
  readable : PlainSection sectionName ∧ KeyLine key
  trimmed : trim key = key

theorem recordKeys_plain : ∀ key ∈ recordKeys,
    nul ∉ key.toList ∧ key.toList.length < maxKey ∧ KeyLine key.toList ∧
      trim key.toList = key.toList := by
  have plain : ∀ key ∈ recordKeys,
      nul ∉ key.toList ∧ key.toList.length < maxKey ∧ '=' ∉ key.toList ∧ newline ∉ key.toList ∧
        trim key.toList = key.toList ∧
        (key.toList.head?.all fun c => !isspace c && c != '#' && c != ';' && c != '[') = true := by
    decide
  intro key member
  obtain ⟨clean, fits, noEquals, noNewline, trimmed, first⟩ := plain key member
  refine ⟨clean, fits, ⟨noEquals, noNewline, fun c isFirst => ?_⟩, trimmed⟩
  rw [Option.mem_def.mp isFirst] at first
  simpa [and_assoc] using first

variable {s : State} {r : Created}

theorem Made.id_le (made : Made s r) : r.id ≤ maxUserId := by
  have inRange := made_inRange made
  cases kind : r.kind <;> simp only [kind, Kind.maxId, maxGroups, maxUserId] at inRange ⊢ <;> omega

theorem Made.fitted (made : Made s r) : ∀ call ∈ r.calls, Fitted call := by
  intro call member
  obtain ⟨field, isField, rfl⟩ := List.mem_map.mp member
  obtain ⟨clean, fits, _⟩ := recordKeys_plain field.1 (made.known field isField)
  exact ⟨notMem_sectionName r.kind r.id (by decide), clean, sectionName_length made.id_le, fits⟩

theorem Made.plainNames (made : Made s r) :
    ∀ call ∈ r.calls, PlainName call.sectionName call.key := by
  intro call member
  obtain ⟨field, isField, rfl⟩ := List.mem_map.mp member
  obtain ⟨_, _, line, trimmed⟩ := recordKeys_plain field.1 (made.known field isField)
  exact ⟨⟨⟨notMem_sectionName r.kind r.id (by decide), notMem_sectionName r.kind r.id (by decide)⟩,
    line⟩, trimmed⟩

theorem Made.distinctCalls (made : Made s r) :
    r.calls.Pairwise fun a b => ¬ (a.sectionName = b.sectionName ∧ a.key = b.key) := by
  rw [Created.calls, List.pairwise_map]
  refine (List.pairwise_map.mp made.distinct).imp fun differs same => differs ?_
  exact String.toList_injective same.2

theorem calls_sectionName {call : SetCall} (member : call ∈ r.calls) :
    call.sectionName = r.sectionName := by
  obtain ⟨field, _, rfl⟩ := List.mem_map.mp member
  rfl

/-! ## What stays -/

/-- The record is found, and a save keeps it so. -/
structure Holds (r : Created) (cfg : KerchunkConfig) : Prop where
  present : Present r cfg
  tidy : Tidy r.sectionName cfg

/-- The configuration and the file are such as the editor and the reader make them. -/
structure Sound (s : State) : Prop where
  storing : Storing s.cfg
  readable : ∀ e ∈ s.cfg, Readable e
  saved : (parseFile s.file).isSome = true

structure Kept (r : Created) (s : State) : Prop where
  sound : Sound s
  memory : Holds r s.cfg
  file : ∃ again, parseFile s.file = some again ∧ Holds r again

theorem loaded_sound {file : Text} {cfg : KerchunkConfig} (parsed : parseFile file = some cfg) :
    Storing cfg ∧ ∀ e ∈ cfg, Readable e := by
  obtain ⟨loaded, room⟩ := parseFile_loaded parsed
  exact ⟨⟨fun e member => (loaded e member).stored, room⟩,
    fun e member => (loaded e member).readable⟩

theorem storing_sets {cfg : KerchunkConfig} (storing : Storing cfg) (calls : List SetCall) :
    Storing (calls.foldl applySet cfg) :=
  Machine.run_holds (P := Storing) applySet (fun _ call storing => storing_set storing call) storing

theorem holds_saved {cfg : KerchunkConfig} (storing : Storing cfg) (readable : ∀ e ∈ cfg, Readable e) :
    ∃ again, parseFile (configSave cfg) = some again ∧
      ∀ r, Holds r cfg → (∀ field ∈ r.fields, PlainValue (storedValue field.2)) → Holds r again := by
  -- What a save of the configuration gives back.
  refine ⟨_, parseFile_saved storing readable, fun r holds plain => ⟨fun field member => ?_,
    tidy_saved r.sectionName cfg⟩⟩
  exact configGet_saved holds.tidy (holds.present field member) (plain field member)

theorem Made.tidy (made : Made s r) {cfg : KerchunkConfig} {sectionName : Text}
    (tidy : Tidy sectionName cfg) : Tidy sectionName (r.calls.foldl applySet cfg) :=
  names_sets (P := fun name key => name = sectionName → trim key = key) made.fitted
    (fun call member _ => (made.plainNames call member).trimmed) tidy

theorem Made.readable (made : Made s r) {cfg : KerchunkConfig} (readable : ∀ e ∈ cfg, Readable e) :
    ∀ e ∈ r.calls.foldl applySet cfg, Readable e :=
  names_sets (P := fun name key => PlainSection name ∧ KeyLine key) made.fitted
    (fun call member => (made.plainNames call member).readable) readable

theorem Made.holds (made : Made s r) {cfg : KerchunkConfig} (fits : Fits cfg r) :
    Holds r (r.calls.foldl applySet cfg) := by
  -- A new record is there after it is set.
  refine ⟨fun field member => ?_, made.tidy fits.tidy⟩
  exact get_sets made.fitted made.distinctCalls fits.room _ (List.mem_map_of_mem member)

theorem Made.keeps (made : Made s r) {cfg : KerchunkConfig} {old : Created} (holds : Holds old cfg)
    (named : "name" ∈ old.fields.map Prod.fst)
    (unnamed : configGet cfg r.sectionName "name".toList = none) :
    Holds old (r.calls.foldl applySet cfg) := by
  -- A new record leaves those alone whose sections have names.
  have other : r.sectionName ≠ old.sectionName := by
    intro same
    obtain ⟨field, member, isName⟩ := List.mem_map.mp named
    have found := holds.present field member
    rw [isName, ← same, unnamed] at found
    cases found
  refine ⟨fun field member => ?_, made.tidy holds.tidy⟩
  rw [get_sets_other made.fitted fun call isCall same =>
    other ((calls_sectionName isCall).symm.trans same.1)]
  exact holds.present field member

/-! ## Steps -/

theorem boot_sound {separate enabled : Bool} {file : Text} {start : State}
    (boots : boot separate enabled file = some start) : Sound start := by
  obtain ⟨cfg, parsed, rfl⟩ := Option.map_eq_some_iff.mp boots
  obtain ⟨storing, readable⟩ := loaded_sound parsed
  exact ⟨storing, readable, Option.isSome_of_eq_some parsed⟩

theorem settle_creating {i : Input} {save : Save} (accepted : created s i = some (r, save)) :
    (settle s i).cfg = s.cfg ∧ (settle s i).file = s.file := by
  cases i with
  | createUser b save => exact ⟨rfl, rfl⟩
  | createGroup name save => exact ⟨rfl, rfl⟩
  | register q save => exact ⟨rfl, rfl⟩
  | hangup => cases accepted
  | turn mainOk readable registration => cases accepted

theorem mainTurn_cases {mainOk readable registration : Bool}
    (found : s.reload = true → (s.separate = true → mainOk = true) → readable = true) :
    (mainTurn s mainOk readable registration).file = s.file ∧
      ((mainTurn s mainOk readable registration).cfg = s.cfg ∨
        (mainTurn s mainOk readable registration).cfg = reloaded true s.file) := by
  -- A reload that finds the file has the file's entries, or leaves everything.
  unfold mainTurn State.refresh
  cases reload : s.reload <;> cases separate : s.separate <;> cases mainOk <;> cases readable <;>
    simp_all <;> split <;> simp

theorem reloaded_eq {file : Text} {again : KerchunkConfig} (parsed : parseFile file = some again) :
    reloaded true file = again := by
  rw [parseFile_eq] at parsed
  split at parsed
  next fits =>
    rw [reloaded, if_pos rfl, List.take_of_length_le fits]
    exact Option.some.inj parsed
  next => cases parsed

/-- An accepted request stores its record, every other step leaves the configuration or loads the
file. -/
theorem step_cases {i : Input} (fresh : Fresh s i) :
    (∃ r, Made s r ∧ UpToDate s r.kind ∧ Fits s.cfg r ∧ created s i = some (r, .whole) ∧
      (step s i).cfg = r.calls.foldl applySet s.cfg ∧
      (step s i).file = configSave (r.calls.foldl applySet s.cfg)) ∨
    (created s i = none ∧ (step s i).file = s.file ∧
      ((step s i).cfg = s.cfg ∨ (step s i).cfg = reloaded true s.file)) := by
  cases accepted : created s i with
  | none =>
    refine .inr ⟨rfl, ?_⟩
    have settled : step s i = settle s i := by simp only [step, accepted]
    rw [settled]
    cases i with
    | turn mainOk readable registration => exact mainTurn_cases fresh
    | _ => exact ⟨rfl, .inl rfl⟩
  | some made =>
    obtain ⟨r, save⟩ := made
    have conditions : UpToDate s r.kind ∧ save = .whole ∧ Fits s.cfg r := by
      cases i with
      | turn mainOk readable registration => cases accepted
      | _ => exact fresh r save accepted
    obtain ⟨upToDate, rfl, fits⟩ := conditions
    obtain ⟨sameCfg, _⟩ := settle_creating accepted
    refine .inl ⟨r, created_made accepted, upToDate, fits, rfl, ?_, ?_⟩ <;>
      simp only [step, accepted, State.store, Save.result, sameCfg]

theorem sound_step {i : Input} (sound : Sound s) (fresh : Fresh s i) : Sound (step s i) := by
  rcases step_cases fresh with ⟨r, made, _, _, _, cfg, file⟩ | ⟨_, file, cfg | cfg⟩
  next =>
    have storing := storing_sets sound.storing r.calls
    have readable := made.readable sound.readable
    obtain ⟨again, parsed, _⟩ := holds_saved storing readable
    exact ⟨cfg ▸ storing, cfg ▸ readable, by rw [file, parsed]; rfl⟩
  next => exact ⟨cfg ▸ sound.storing, cfg ▸ sound.readable, file ▸ sound.saved⟩
  next =>
    obtain ⟨again, parsed⟩ := Option.isSome_iff_exists.mp sound.saved
    obtain ⟨storing, readable⟩ := loaded_sound parsed
    rw [reloaded_eq parsed] at cfg
    exact ⟨cfg ▸ storing, cfg ▸ readable, file ▸ sound.saved⟩

theorem Made.unnamed (made : Made s r) (upToDate : UpToDate s r.kind) :
    configGet s.cfg r.sectionName "name".toList = none := by
  have new := made_newId made upToDate
  rw [mem_storedIds, not_and] at new
  exact Option.not_isSome_iff_eq_none.mp (new (made_inRange made))

theorem kept_step {old : Created} (named : "name" ∈ old.fields.map Prod.fst)
    (plain : ∀ field ∈ old.fields, PlainValue (storedValue field.2)) {i : Input} (kept : Kept old s)
    (fresh : Fresh s i) : Kept old (step s i) := by
  have sound := sound_step kept.sound fresh
  rcases step_cases fresh with ⟨r, made, upToDate, _, _, cfg, file⟩ | ⟨_, file, cfg | cfg⟩
  next =>
    have holds := made.keeps kept.memory named (made.unnamed upToDate)
    obtain ⟨again, parsed, saved⟩ :=
      holds_saved (storing_sets kept.sound.storing r.calls) (made.readable kept.sound.readable)
    exact ⟨sound, cfg ▸ holds, again, file ▸ parsed, saved old holds plain⟩
  next => exact ⟨sound, cfg ▸ kept.memory, file ▸ kept.file⟩
  next =>
    obtain ⟨again, parsed, holds⟩ := kept.file
    rw [reloaded_eq parsed] at cfg
    exact ⟨sound, cfg ▸ holds, again, file ▸ parsed, holds⟩

theorem kept_created {i : Input} {save : Save} (sound : Sound s) (fresh : Fresh s i)
    (accepted : created s i = some (r, save)) :
    Made s r ∧ UpToDate s r.kind ∧ Fits s.cfg r ∧ Kept r (step s i) := by
  -- The record is there right after the request.
  have after := sound_step sound fresh
  rcases step_cases fresh with ⟨made, isMade, upToDate, fits, same, cfg, file⟩ | ⟨refused, _⟩
  next =>
    obtain ⟨rfl, rfl⟩ := Prod.mk.inj (Option.some.inj (accepted.symm.trans same))
    have holds := isMade.holds fits
    obtain ⟨again, parsed, saved⟩ :=
      holds_saved (storing_sets sound.storing r.calls) (isMade.readable sound.readable)
    exact ⟨isMade, upToDate, fits, after, cfg ▸ holds, again, file ▸ parsed, saved r holds fits.plain⟩
  next =>
    rw [refused] at accepted
    cases accepted

/-! ## Runs -/

theorem creation_never_overwrites {separate enabled : Bool} {file : Text} {start : State}
    (boots : boot separate enabled file = some start) {before after : List Input} {i : Input}
    (fresh : Guarded step Fresh start (before ++ i :: after)) {r : Created} {save : Save}
    (accepted : created (run step start before) i = some (r, save)) :
    Safe start before i after r := by
  obtain ⟨freshBefore, freshHere, freshAfter⟩ := (Machine.guarded_append step Fresh ..).mp fresh
  have sound : Sound (run step start before) :=
    Machine.run_invariant step (fun _ _ => sound_step) (boot_sound boots) freshBefore
  obtain ⟨made, upToDate, fits, kept⟩ := kept_created sound freshHere accepted
  have final : Kept r (run step start (before ++ i :: after)) := by
    rw [Machine.run_append, Machine.run_cons]
    exact Machine.run_invariant step (fun _ _ => kept_step made.named fits.plain) kept freshAfter
  obtain ⟨again, parsed, holds⟩ := final.file
  exact ⟨made_newId made upToDate, made_newCodes made upToDate, final.memory.present, again, parsed,
    holds.present⟩

/-! ## Two users -/

def userNamed (name : String) : UserBody where
  name := some name.toList
  username := none
  email := none
  callsign := none
  dtmfLogin := none
  ani := none
  access := none
  voicemail := none
  group := none
  totpSecret := none

def firstUser (name : String) : Created where
  -- A user made with this name alone.
  kind := .user
  id := 1
  codes := none
  fields := (userNamed name).fields name.toList

def emptyStart : State where
  separate := false
  cfg := []
  file := []
  users := []
  groups := []
  reload := false
  registrar := idle false

theorem userInit_nil : userInit [] = [] :=
  List.filterMap_eq_nil_iff.mpr fun _ _ => rfl

theorem groupInit_nil : groupInit [] = [] :=
  List.filterMap_eq_nil_iff.mpr fun _ _ => rfl

theorem boot_empty : boot false false [] = some emptyStart := by
  have parsed : parseFile [] = some [] := rfl
  simp [boot, parsed, userInit_nil, groupInit_nil, emptyStart]

theorem create_first (s : State) (empty : s.users = []) (name : String) (save : Save) :
    created s (.createUser (userNamed name) save) = some (firstUser name, save) := by
  have next : nextUserId [] = some 1 := rfl
  have accepted : userCreate s (userNamed name) = .created (firstUser name) := by
    unfold userCreate
    rw [empty, next]
    rfl
  have replied : reply s (.createUser (userNamed name) save) =
      some (.created (firstUser name), save) := by
    rw [← accepted]
    rfl
  rw [created, replied]

theorem created_user {s : State} {b : UserBody} {save last : Save} {r : Created}
    (accepted : created s (.createUser b save) = some (r, last)) :
    last = save ∧ ∃ name, b.name = some name ∧ r.fields = b.fields name := by
  unfold created at accepted
  split at accepted
  next made saved replied =>
    obtain ⟨rfl, rfl⟩ := Prod.mk.inj (Option.some.inj accepted)
    obtain ⟨made, same⟩ := Prod.mk.inj (Option.some.inj replied)
    unfold userCreate at made
    split at made
    next => cases made
    next name given =>
      split at made
      next => cases made
      next => exact ⟨same.symm, name, given, by rw [← Reply.created.inj made]⟩
  next => cases accepted

theorem fits_tidy {cfg : KerchunkConfig} {r : Created}
    (room : cfg.length + r.fields.length ≤ maxEntries) (tidy : ∀ e ∈ cfg, trim e.key = e.key)
    (plain : ∀ field ∈ r.fields, PlainValue (storedValue field.2)) : Fits cfg r := by
  have few : (missing cfg r.calls).length ≤ r.fields.length :=
    (List.length_filter_le ..).trans (Nat.le_of_eq (List.length_map ..))
  exact ⟨by omega, fun e member _ => tidy e member, plain⟩

instance instDecidablePlainValue (value : Text) : Decidable (PlainValue value) :=
  inferInstanceAs (Decidable (_ ∧ _))

def savedFirst : KerchunkConfig :=
  reloaded true (configSave ((firstUser "Ann").calls.foldl applySet []))

theorem savedFirst_tidy : savedFirst.length = 7 ∧ ∀ e ∈ savedFirst, trim e.key = e.key := by decide

theorem apart_fresh :
    Guarded step Fresh emptyStart
      ([] ++ .createUser (userNamed "Ann") .whole ::
        [.turn true true false, .createUser (userNamed "Bob") .whole]) := by
  refine ⟨?_, ?_, ?_, trivial⟩
  next =>
    intro r save accepted
    obtain ⟨rfl, name, given, fields⟩ := created_user accepted
    obtain rfl := Option.some.inj given
    refine ⟨?_, rfl, fits_tidy (by rw [fields]; decide) (by decide) (by rw [fields]; decide)⟩
    cases r.kind with
    | user => exact fun u member => by rwa [emptyStart, userInit_nil] at member
    | group => exact fun g member => by rwa [emptyStart, groupInit_nil] at member
  next => exact fun _ _ => rfl
  next =>
    have stored : step emptyStart (.createUser (userNamed "Ann") .whole) =
        emptyStart.store (firstUser "Ann") .whole := by
      simp only [step, create_first emptyStart rfl, settle]
    have turned : step (emptyStart.store (firstUser "Ann") .whole) (.turn true true false) =
        { emptyStart with
          cfg := savedFirst
          file := configSave ((firstUser "Ann").calls.foldl applySet [])
          users := userInit savedFirst
          groups := groupInit savedFirst } := rfl
    rw [stored, turned]
    intro r save accepted
    obtain ⟨rfl, name, given, fields⟩ := created_user accepted
    obtain rfl := Option.some.inj given
    refine ⟨?_, rfl, fits_tidy ?_ savedFirst_tidy.2 (by rw [fields]; decide)⟩
    next => cases r.kind <;> exact fun _ member => member
    next =>
      have few : ((userNamed "Bob").fields "Bob".toList).length = 7 := rfl
      rw [fields, few, savedFirst_tidy.1]
      decide

-- With the reload between them the second user gets an id of its own.
theorem users_apart :
    Safe emptyStart [] (.createUser (userNamed "Ann") .whole)
      [.turn true true false, .createUser (userNamed "Bob") .whole] (firstUser "Ann") :=
  creation_never_overwrites boot_empty apart_fresh (create_first emptyStart rfl "Ann" .whole)

-- The second user comes before the reload, gets the id of the first and takes its section.
theorem second_user_overwrites :
    ∃ start r, boot false false [] = some start ∧
      created start (.createUser (userNamed "Ann") .whole) = some (r, .whole) ∧
      ¬ Safe start [] (.createUser (userNamed "Ann") .whole)
        [.createUser (userNamed "Bob") .whole] r := by
  refine ⟨emptyStart, firstUser "Ann", boot_empty, create_first _ rfl _ _, fun safe => ?_⟩
  have found := safe.present ("name", "Ann".toList) (by simp [firstUser, userNamed, UserBody.fields])
  have first : step emptyStart (.createUser (userNamed "Ann") .whole) =
      emptyStart.store (firstUser "Ann") .whole := by
    simp only [step, create_first emptyStart rfl, settle]
  have second : step (emptyStart.store (firstUser "Ann") .whole)
      (.createUser (userNamed "Bob") .whole) =
        (emptyStart.store (firstUser "Ann") .whole).store (firstUser "Bob") .whole := by
    simp only [step, create_first (emptyStart.store (firstUser "Ann") .whole) rfl, settle]
  rw [List.nil_append, Machine.run_cons, Machine.run_cons, Machine.run_nil, first, second] at found
  exact absurd found (by decide)

end Kerchunk.Users
