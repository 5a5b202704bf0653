import Kerchunk.Lib.Machine
import Kerchunk.Lib.Paths
import Kerchunk.Reflectd.Listings
import Kerchunk.Web.Routes

set_option autoImplicit false

/-!
# Paths that users name (`src/main.c`, `src/reflectd/main.c`, `modules/mod_web.c`)

Recordings are fetched and deleted and sounds are queued by a path that a user gives. A path leads
somewhere on the disk and is let through when that is below the directory of the configuration.
-/

namespace Kerchunk.Core.Sandbox

open Kerchunk.Config (Text)
open Kerchunk.Web.Routes (nul mgMatch)
open Kerchunk.Reflectd (validDateStr)
open Paths

variable {D : Type}

def pathMax : Nat := 4096

def snprintf (size : Nat) (string : Text) : Text :=
  string.take (size - 1)

/-- Where a daemon runs, and the directory its configuration names. -/
structure Home where
  cwd : List Name
  named : ∀ name ∈ cwd, IsName name
  dir : Text

/-! ## Paths -/

def realpath (disk : Disk D) (home : Home) (path : Text) : Option Text :=
  match locate disk home.cwd path with
  | some place => if (text place).length < pathMax then some (text place) else none
  | none => none

def fopen (disk : Disk D) (home : Home) (path : Text) : Option (List Name) :=
  if path.length < pathMax then locate disk home.cwd path else none

/-- What `strncmp` of the directory's length and the character after it say. -/
def contained (real root : Text) : Bool :=
  decide (real.take root.length = root) && decide (real[root.length]? = some '/')

def endsIn (extension : String) (path : Text) : Bool :=
  decide (4 ≤ path.length) && decide (path.drop (path.length - 4) = extension.toList)

/-- What `mg_http_get_var` leaves in an array: nothing or less is an error. -/
def mgHttpGetVar (size : Nat) (value : Option Text) : Option Text :=
  match value with
  | some decoded => if decoded ≠ [] ∧ decoded.length < size then some (CString.read nul decoded) else none
  | none => none

/-- A relative path starts at the directory. -/
def anchored (dirReal path : Text) : Text :=
  if path.head? = some '/' then path else dirReal ++ '/' :: path

structure Refusal where
  status : Nat
  error : String
deriving DecidableEq

/-! ## Recordings of the repeater -/

/-- The recording that the path leads to. -/
def handleAdminApiRecording (disk : Disk D) (home : Home) (path : Option Text) : Except Refusal Text :=
  match mgHttpGetVar 512 path with
  | none => .error ⟨400, "missing path"⟩
  | some rel =>
    if rel = [] then .error ⟨400, "empty path"⟩
    else if endsIn ".wav" rel = false then .error ⟨400, ".wav only"⟩
    else
      match realpath disk home home.dir with
      | none => .error ⟨500, "recordings_dir unresolved"⟩
      | some rdirReal =>
        match realpath disk home (snprintf pathMax (anchored rdirReal rel)) with
        | none => .error ⟨404, "not found"⟩
        | some real =>
          if contained real rdirReal then .ok real else .error ⟨403, "path outside recordings_dir"⟩

/-- Where what is sent stands. A client that takes compressed files is given the one beside. -/
def mgHttpServeFile (disk : Disk D) (home : Home) (acceptEncoding : Option Text) (path : Text) :
    Option (List Name) :=
  let gzip := (acceptEncoding.map (mgMatch · "*gzip*".toList)).getD false
  match if gzip then fopen disk home (snprintf pathMax (path ++ ".gz".toList)) else none with
  | some place => some place
  | none => fopen disk home path

/-! ## Recordings of the reflector -/

/-- `g_dir` -/
def recordingsDir (home : Home) : Text :=
  snprintf 256 home.dir

/-- The recording that a path below the directory leads to. -/
def recordingAt (disk : Disk D) (home : Home) (path : Option Text) : Except Refusal Text :=
  match mgHttpGetVar 256 path with
  | none => .error ⟨400, "missing path"⟩
  | some rel =>
    match realpath disk home (recordingsDir home) with
    | none => .error ⟨500, "recordings_dir unresolved"⟩
    | some dirReal =>
      match realpath disk home (snprintf pathMax (dirReal ++ '/' :: rel)) with
      | none => .error ⟨404, "not found"⟩
      | some real =>
        if contained real dirReal = false then .error ⟨403, "path outside recordings_dir"⟩
        else if endsIn ".wav" real = false then .error ⟨400, ".wav only"⟩
        else .ok real

def apiRecording (disk : Disk D) (home : Home) (path : Option Text) : Except Refusal Text :=
  recordingAt disk home path

/-- What is removed. -/
def adminRecordingDelete (disk : Disk D) (home : Home) (path : Option Text) : Except Refusal (List Name) :=
  match recordingAt disk home path with
  | .error refusal => .error refusal
  | .ok real =>
    match unlink disk home.cwd real with
    | some place => .ok place
    | none => .error ⟨500, "unlink failed"⟩

/-- What `readdir` gives. -/
abbrev DirEntry := { name : Name // name ≠ [] ∧ '/' ∉ name }

def unlinkAll (cwd : List Name) : Disk D → List Text → Disk D × List (List Name)
  | disk, [] => (disk, [])
  | disk, path :: rest =>
    match unlink disk cwd path with
    | some place =>
      let later := unlinkAll cwd (remove disk place) rest
      (later.1, place :: later.2)
    | none => unlinkAll cwd disk rest

def children (targetReal : Text) (names : List DirEntry) : List Text :=
  (names.filter fun name => name.1 ≠ ['.'] ∧ name.1 ≠ ['.', '.']).map fun name =>
    snprintf 512 (targetReal ++ '/' :: name.1)

/-- The day's directory with what is in it. A disk does not tell that a directory is empty, which `bare`
says. -/
def emptyDay (disk : Disk D) (home : Home) (dirReal : Text) (date : Text) (names : List DirEntry) (bare : Bool) :
    Disk D × List (List Name) :=
  match locate disk home.cwd (snprintf 300 (recordingsDir home ++ '/' :: date)) with
  | none => (disk, [])
  | some target =>
    if (text target).length < pathMax ∧ contained (text target) dirReal ∧ isDir (disk target) then
      let emptied := unlinkAll home.cwd disk (children (text target) names)
      if bare then (remove emptied.1 target, emptied.2 ++ [target]) else emptied
    else (disk, [])

/-- The disk afterwards and what was removed. -/
def adminRecordingsDeleteDay (disk : Disk D) (home : Home) (date : Option Text) (names : List DirEntry)
    (bare : Bool) : Except Refusal (Disk D × List (List Name)) :=
  match mgHttpGetVar 16 date with
  | none => .error ⟨400, "missing date"⟩
  | some date =>
    if validDateStr date = false then .error ⟨400, "bad date"⟩
    else
      match realpath disk home (recordingsDir home) with
      | none => .error ⟨500, "recordings_dir unresolved"⟩
      | some dirReal =>
        let emptied := emptyDay disk home dirReal date names bare
        let csv := unlinkAll home.cwd emptied.1
          [snprintf 300 (recordingsDir home ++ '/' :: (date ++ ".csv".toList))]
        .ok (csv.1, emptied.2 ++ csv.2)

/-! ## Sounds -/

/-- A dot after the last slash. -/
def hasExt (candidate : Text) : Bool :=
  decide ('.' ∈ candidate.reverse.takeWhile (· ≠ '/'))

def soundAt (disk : Disk D) (home : Home) (candidate : Text) (appendWav : Bool) : Option Text :=
  match realpath disk home candidate with
  | some real => some real
  | none =>
    if appendWav ∧ hasExt candidate = false ∧ candidate.length + 4 < pathMax then
      realpath disk home (candidate ++ ".wav".toList)
    else none

def resolveUnderSoundsDir (disk : Disk D) (home : Home) (input : Text) (appendWav : Bool) :
    Except String Text :=
  if input = [] then .error "empty path"
  else
    match realpath disk home home.dir with
    | none => .error "sounds_dir does not resolve"
    | some sdirReal =>
      if pathMax ≤ (anchored sdirReal input).length then .error "path too long"
      else
        match soundAt disk home (anchored sdirReal input) appendWav with
        | none => .error "file not found"
        | some real =>
          if contained real sdirReal = false then .error "path resolves outside sounds_dir"
          else .ok real

/-- The file `queue inject` queues. -/
def cmdQueueInject (disk : Disk D) (home : Home) (input : Text) : Except String Text :=
  if endsIn ".wav" input = false ∧ endsIn ".pcm" input = false then .error "only .wav and .pcm files allowed"
  else resolveUnderSoundsDir disk home input false

def cmdPlay (disk : Disk D) (home : Home) (name : Text) : Except String Text :=
  resolveUnderSoundsDir disk home name true

/-! ## What users ask for -/

inductive Request (D : Type) where
  | adminApiRecording (home : Home) (path acceptEncoding : Option Text)
  | apiRecording (home : Home) (path acceptEncoding : Option Text)
  | adminRecordingDelete (home : Home) (path : Option Text)
  | adminRecordingsDeleteDay (home : Home) (date : Option Text) (names : List DirEntry) (bare : Bool)
  | queueInject (home : Home) (input : Text)
  | play (home : Home) (name : Text)
  -- Whatever else happens to the disk.
  | others (disk : Disk D)

inductive Act where
  | streamed (place : List Name)
  | queued (path : Text)
  | deleted (place : List Name)
  | cleared (place : List Name)

/-- What was done, with the disk as it was. -/
structure Entry (D : Type) where
  disk : Disk D
  cwd : List Name
  dir : Text
  act : Act

structure World (D : Type) where
  disk : Disk D
  log : List (Entry D)

def World.note (w : World D) (home : Home) (dir : Text) (acts : List Act) (disk : Disk D) : World D where
  disk := disk
  log := w.log ++ acts.map fun act => ⟨w.disk, home.cwd, dir, act⟩

def step (w : World D) : Request D → World D
  | .adminApiRecording home path acceptEncoding =>
    match handleAdminApiRecording w.disk home path with
    | .ok real =>
      w.note home home.dir ((mgHttpServeFile w.disk home acceptEncoding real).toList.map .streamed) w.disk
    | .error _ => w
  | .apiRecording home path acceptEncoding =>
    match apiRecording w.disk home path with
    | .ok real =>
      w.note home (recordingsDir home)
        ((mgHttpServeFile w.disk home acceptEncoding real).toList.map .streamed) w.disk
    | .error _ => w
  | .adminRecordingDelete home path =>
    match adminRecordingDelete w.disk home path with
    | .ok place => w.note home (recordingsDir home) [.deleted place] (remove w.disk place)
    | .error _ => w
  | .adminRecordingsDeleteDay home date names bare =>
    match adminRecordingsDeleteDay w.disk home date names bare with
    | .ok (disk, removed) => w.note home (recordingsDir home) (removed.map .cleared) disk
    | .error _ => w
  | .queueInject home input =>
    match cmdQueueInject w.disk home input with
    | .ok real => w.note home home.dir [.queued real] w.disk
    | .error _ => w
  | .play home name =>
    match cmdPlay w.disk home name with
    | .ok real => w.note home home.dir [.queued real] w.disk
    | .error _ => w
  | .others disk => { w with disk := disk }

/-! ## Containment -/

def Beside (recording sibling : List Name) : Prop :=
  ∃ outer name suffix, recording = outer ++ [name] ∧ suffix <+: ".gz".toList ∧ sibling = outer ++ [name ++ suffix]

/-- A compressed file beside a recording is sent wherever it leads when it is a link. The paths of a
day's files are cut at 511 characters. -/
def Allowed (disk : Disk D) (root : List Name) : Act → Prop
  | .streamed place => ∃ recording, Below root recording ∧ (place = recording ∨
      ∃ sibling, Beside recording sibling ∧ (place = sibling ∨ ∃ target, disk sibling = some (.link target)))
  | .queued path => ∃ place, Below root place ∧ path = text place
  | .deleted place => Below root place ∧ endsIn ".wav" (text place) = true ∧ ∃ data, disk place = some (.file data)
  | .cleared place => (text root).length < 511 → Below root place

def Entry.Allowed (e : Entry D) : Prop :=
  ∃ root, locate e.disk e.cwd e.dir = some root ∧ Sandbox.Allowed e.disk root e.act

structure Within (disk : Disk D) (home : Home) (dir : Text) (root place : List Name) : Prop where
  found : locate disk home.cwd dir = some root
  base : Canonical disk root
  solid : root ≠ []
  canonical : Canonical disk place
  below : Below root place
  short : (text place).length < pathMax

section

variable {disk : Disk D} {home : Home}

theorem realpath_some {path real : Text} (found : realpath disk home path = some real) :
    ∃ place, locate disk home.cwd path = some place ∧ Canonical disk place ∧ real = text place ∧
      (text place).length < pathMax := by
  unfold realpath at found
  split at found
  next place located =>
    split at found
    next short => exact ⟨place, located, locate_canonical home.named located, (Option.some.inj found).symm, short⟩
    next => cases found
  next => cases found

theorem contained_iff {root place : List Name} (named : ∀ name ∈ root, IsName name)
    (named' : ∀ name ∈ place, IsName name) :
    contained (text place) (text root) = true ↔ root ≠ [] ∧ Below root place := by
  rw [← below_iff named named', contained, Bool.and_eq_true, decide_eq_true_eq, decide_eq_true_eq,
    List.prefix_iff_eq_take, eq_comm]

theorem within_of_contained {dir path rootReal real : Text} (rooted : realpath disk home dir = some rootReal)
    (found : realpath disk home path = some real) (inside : contained real rootReal = true) :
    ∃ root place, Within disk home dir root place ∧ real = text place := by
  obtain ⟨root, located, base, rfl, -⟩ := realpath_some rooted
  obtain ⟨place, -, canonical, rfl, short⟩ := realpath_some found
  obtain ⟨solid, below⟩ := (contained_iff base.names canonical.names).mp inside
  exact ⟨root, place, ⟨located, base, solid, canonical, below, short⟩, rfl⟩

theorem Within.filled {dir : Text} {root place : List Name} (within : Within disk home dir root place) :
    place ≠ [] := by
  rintro rfl
  exact within.solid (List.prefix_nil.mp within.below.inside)

theorem handleAdminApiRecording_ok {path : Option Text} {real : Text}
    (found : handleAdminApiRecording disk home path = .ok real) :
    ∃ root place, Within disk home home.dir root place ∧ real = text place := by
  unfold handleAdminApiRecording at found
  split at found
  next => cases found
  next =>
    split at found
    next => cases found
    next =>
      split at found
      next => cases found
      next =>
        split at found
        next => cases found
        next rooted =>
          split at found
          next => cases found
          next resolved =>
            split at found
            next inside =>
              cases found
              exact within_of_contained rooted resolved inside
            next => cases found

theorem recordingAt_ok {path : Option Text} {real : Text} (found : recordingAt disk home path = .ok real) :
    (∃ root place, Within disk home (recordingsDir home) root place ∧ real = text place) ∧
      endsIn ".wav" real = true := by
  unfold recordingAt at found
  split at found
  next => cases found
  next =>
    split at found
    next => cases found
    next rooted =>
      split at found
      next => cases found
      next resolved =>
        split at found
        next => cases found
        next inside =>
          split at found
          next => cases found
          next wav =>
            cases found
            exact ⟨within_of_contained rooted resolved (Bool.not_eq_false _ ▸ inside), Bool.not_eq_false _ ▸ wav⟩

theorem soundAt_some {candidate real : Text} {appendWav : Bool}
    (found : soundAt disk home candidate appendWav = some real) :
    ∃ path, realpath disk home path = some real := by
  unfold soundAt at found
  split at found
  next resolved => exact ⟨candidate, resolved.trans found⟩
  next =>
    split at found
    next => exact ⟨_, found⟩
    next => cases found

theorem resolveUnderSoundsDir_ok {input real : Text} {appendWav : Bool}
    (found : resolveUnderSoundsDir disk home input appendWav = .ok real) :
    ∃ root place, Within disk home home.dir root place ∧ real = text place := by
  unfold resolveUnderSoundsDir at found
  split at found
  next => cases found
  next =>
    split at found
    next => cases found
    next rooted =>
      split at found
      next => cases found
      next =>
        split at found
        next => cases found
        next sound =>
          split at found
          next => cases found
          next inside =>
            cases found
            obtain ⟨path, resolved⟩ := soundAt_some sound
            exact within_of_contained rooted resolved (Bool.not_eq_false _ ▸ inside)

theorem mgHttpServeFile_some {dir : Text} {root recording place : List Name} {acceptEncoding : Option Text}
    (within : Within disk home dir root recording)
    (served : mgHttpServeFile disk home acceptEncoding (text recording) = some place) :
    Allowed disk root (.streamed place) := by
  refine ⟨recording, within.below, ?_⟩
  obtain ⟨outer, name, rfl⟩ := (List.eq_nil_or_concat' recording).resolve_left within.filled
  have short := within.short
  simp only [mgHttpServeFile] at served
  split at served
  next beside =>
    cases served
    split at beside
    next =>
      -- The extension may be cut, and the name it is added to goes on.
      obtain ⟨extension, begins, cut⟩ : ∃ extension, extension <+: ".gz".toList ∧
          snprintf pathMax (text (outer ++ [name]) ++ ".gz".toList) = text (outer ++ [name]) ++ extension := by
        refine ⟨_, List.take_prefix (pathMax - 1 - (text (outer ++ [name])).length) _, ?_⟩
        rw [snprintf, List.take_append, List.take_of_length_le (by omega)]
      have whole : '/' ∉ extension := fun member => absurd (begins.subset member) (by decide)
      unfold fopen at beside
      split at beside
      next =>
        rw [cut, ← text_extend] at beside
        have names := within.canonical.names
        exact .inr ⟨_, ⟨outer, name, extension, rfl, begins, rfl⟩,
          locate_last ((names name (by simp)).append whole) (fun other member => names other (by simp [member]))
            within.canonical.outer_clear beside⟩
      next => cases beside
    next => cases beside
  next =>
    unfold fopen at served
    rw [if_pos short, locate_text within.canonical] at served
    exact .inl (Option.some.inj served).symm

theorem adminRecordingDelete_ok {path : Option Text} {place : List Name}
    (removed : adminRecordingDelete disk home path = .ok place) :
    (∃ root, Within disk home (recordingsDir home) root place) ∧ endsIn ".wav" (text place) = true ∧
      ∃ data, disk place = some (.file data) := by
  unfold adminRecordingDelete at removed
  split at removed
  next => cases removed
  next real found =>
    obtain ⟨⟨root, place', within, rfl⟩, wav⟩ := recordingAt_ok found
    split at removed
    next gone =>
      cases removed
      have leaf := (unlink_some gone).2
      rw [unlink_text within.canonical within.filled] at gone
      split at gone
      next =>
        cases gone
        refine ⟨⟨root, within⟩, wav, ?_⟩
        rcases within.canonical.there within.filled with dir | file
        next => simp [dir, isLeaf] at leaf
        next => exact file
      next => cases gone
    next => cases removed

/-! ## A whole day -/

theorem unlinkAll_fewer {cwd : List Name} {disk : Disk D} {paths : List Text} :
    Fewer (unlinkAll cwd disk paths).1 disk := by
  induction paths generalizing disk with
  | nil => exact Fewer.refl disk
  | cons path rest ih =>
    rw [unlinkAll]
    split
    next place _ => exact ih.trans (Fewer.remove disk place)
    next => exact ih

theorem unlinkAll_changed {cwd place : List Name} {disk : Disk D} {paths : List Text}
    (changed : (unlinkAll cwd disk paths).1 place ≠ disk place) : place ∈ (unlinkAll cwd disk paths).2 := by
  induction paths generalizing disk with
  | nil => exact absurd rfl changed
  | cons path rest ih =>
    rw [unlinkAll] at changed ⊢
    split at changed
    next gone _ =>
      by_cases same : place = gone
      next => exact List.mem_cons.mpr (.inl same)
      next =>
        refine List.mem_cons_of_mem _ (ih ?_)
        rwa [remove, Function.update_of_ne same]
    next => exact ih changed

theorem unlinkAll_below {root target cwd place : List Name} {disk : Disk D} {paths : List Text}
    (clear : Clear disk target) (named : ∀ name ∈ target, IsName name) (solid : root ≠ [])
    (rootNamed : ∀ name ∈ root, IsName name)
    (each : ∀ path ∈ paths, ∃ name, IsName name ∧ path <+: text (target ++ [name]) ∧
      text root ++ ['/'] <+: path)
    (removed : place ∈ (unlinkAll cwd disk paths).2) : Below root place := by
  induction paths generalizing disk with
  | nil => cases removed
  | cons path rest ih =>
    obtain ⟨first, others⟩ := List.forall_mem_cons.mp each
    obtain ⟨name, isName, within, inside⟩ := first
    rw [unlinkAll] at removed
    split at removed
    next gone_ gone =>
      rcases List.mem_cons.mp removed with rfl | later
      next => exact unlink_below clear named isName solid rootNamed within inside gone
      next => exact ih (clear.remove (unlink_some gone).2) others later
    next => exact ih clear others removed

theorem children_each {root target : List Name} {names : List DirEntry} (solid : root ≠ [])
    (below : Below root target) (short : (text root).length < 511) :
    ∀ path ∈ children (text target) names, ∃ name, IsName name ∧ path <+: text (target ++ [name]) ∧
      text root ++ ['/'] <+: path := by
  intro path member
  obtain ⟨entry, kept, rfl⟩ := List.mem_map.mp member
  have filled : target ≠ [] := by
    rintro rfl
    exact solid (List.prefix_nil.mp below.inside)
  obtain ⟨-, other⟩ := List.mem_filter.mp kept
  obtain ⟨notSelf, notUp⟩ := of_decide_eq_true other
  rw [text_slash filled]
  refine ⟨entry.1, ⟨entry.2.1, entry.2.2, notSelf, notUp⟩, List.take_prefix _ _, ?_⟩
  have within := (below.text_begin solid).trans ⟨_, text_slash filled entry.1⟩
  refine List.prefix_take_iff.mpr ⟨within, ?_⟩
  rw [List.length_append, List.length_singleton]
  omega

theorem emptyDay_cases (disk : Disk D) (home : Home) (dirReal date : Text) (names : List DirEntry) (bare : Bool) :
    emptyDay disk home dirReal date names bare = (disk, []) ∨
      ∃ target, Canonical disk target ∧ contained (text target) dirReal = true ∧ disk target = some .dir ∧
        (emptyDay disk home dirReal date names bare = unlinkAll home.cwd disk (children (text target) names) ∨
          emptyDay disk home dirReal date names bare =
            (remove (unlinkAll home.cwd disk (children (text target) names)).1 target,
              (unlinkAll home.cwd disk (children (text target) names)).2 ++ [target])) := by
  unfold emptyDay
  split
  next => exact .inl rfl
  next target located =>
    split
    next usable =>
      refine .inr ⟨target, locate_canonical home.named located, usable.2.1, isDir_iff.mp usable.2.2, ?_⟩
      cases bare
      next => exact .inl rfl
      next => exact .inr rfl
    next => exact .inl rfl

theorem emptyDay_fewer {dirReal date : Text} {names : List DirEntry} {bare : Bool} :
    Fewer (emptyDay disk home dirReal date names bare).1 disk := by
  rcases emptyDay_cases disk home dirReal date names bare with same | ⟨target, -, -, -, same | same⟩ <;> rw [same]
  next => exact Fewer.refl disk
  next => exact unlinkAll_fewer
  next => exact (Fewer.remove _ _).trans unlinkAll_fewer

theorem emptyDay_changed {dirReal date : Text} {names : List DirEntry} {bare : Bool} {place : List Name}
    (changed : (emptyDay disk home dirReal date names bare).1 place ≠ disk place) :
    place ∈ (emptyDay disk home dirReal date names bare).2 := by
  rcases emptyDay_cases disk home dirReal date names bare with same | ⟨target, -, -, -, same | same⟩ <;>
    rw [same] at changed ⊢
  next => exact absurd rfl changed
  next => exact unlinkAll_changed changed
  next =>
    by_cases day : place = target
    next => exact List.mem_append_right _ (List.mem_singleton.mpr day)
    next =>
      refine List.mem_append_left _ (unlinkAll_changed fun same => changed ?_)
      exact (Function.update_of_ne day ..).trans same

theorem emptyDay_below {root place : List Name} {date : Text} {names : List DirEntry} {bare : Bool}
    (base : Canonical disk root) (short : (text root).length < 511)
    (removed : place ∈ (emptyDay disk home (text root) date names bare).2) : Below root place := by
  rcases emptyDay_cases disk home (text root) date names bare with same | ⟨target, canonical, inside, dir, either⟩
  next =>
    rw [same] at removed
    cases removed
  next =>
    obtain ⟨solid, below⟩ := (contained_iff base.names canonical.names).mp inside
    have cleared : ∀ place ∈ (unlinkAll home.cwd disk (children (text target) names)).2, Below root place :=
      fun place gone => unlinkAll_below (canonical.clear dir) canonical.names solid base.names
        (children_each solid below short) gone
    rcases either with same | same <;> rw [same] at removed
    next => exact cleared place removed
    next =>
      rcases List.mem_append.mp removed with child | day
      next => exact cleared place child
      next => exact List.mem_singleton.mp day ▸ below

theorem date_plain {date : Text} (valid : validDateStr date = true) : date.length = 10 ∧ '/' ∉ date := by
  simp only [validDateStr, Bool.and_eq_true, decide_eq_true_eq, List.all_eq_true] at valid
  refine ⟨valid.1, fun member => ?_⟩
  obtain ⟨i, inside, at_⟩ := List.getElem_of_mem member
  have digit := valid.2 ('/', i) (List.mem_iff_getElem.mpr ⟨i, by simpa using inside, by simp [at_]⟩)
  split at digit
  next => simp at digit
  next =>
    have digit : Config.isDigit '/' = true := digit
    exact absurd digit (by decide)

theorem csv_below {root place : List Name} {date : Text} {less : Disk D} (fewer : Fewer less disk)
    (valid : validDateStr date = true) (located : locate disk home.cwd (recordingsDir home) = some root)
    (removed : place ∈
      (unlinkAll home.cwd less [snprintf 300 (recordingsDir home ++ '/' :: (date ++ ".csv".toList))]).2) :
    Below root place := by
  obtain ⟨ten, whole⟩ := date_plain valid
  have fits : (recordingsDir home).length ≤ 255 := (List.length_take_le ..)
  have complete : snprintf 300 (recordingsDir home ++ '/' :: (date ++ ".csv".toList)) =
      recordingsDir home ++ '/' :: (date ++ ".csv".toList) := by
    refine List.take_of_length_le ?_
    simp only [List.length_append, List.length_cons, ten, String.length_toList]
    have extension : ".csv".length = 4 := by decide
    omega
  rw [complete] at removed
  simp only [unlinkAll] at removed
  split at removed
  next gone =>
    have slashless : '/' ∉ date ++ ".csv".toList := fun member =>
      (List.mem_append.mp member).elim whole fun last => absurd last (by decide)
    rw [List.mem_singleton.mp removed, unlink_in fewer slashless located gone]
    exact ⟨List.prefix_append _ _, by simp⟩
  next => cases removed

theorem adminRecordingsDeleteDay_ok {date : Option Text} {names : List DirEntry} {bare : Bool} {after : Disk D}
    {removed : List (List Name)}
    (cleared : adminRecordingsDeleteDay disk home date names bare = .ok (after, removed)) :
    ∃ root, locate disk home.cwd (recordingsDir home) = some root ∧
      (∀ place ∈ removed, (text root).length < 511 → Below root place) ∧
        ∀ place, after place ≠ disk place → place ∈ removed := by
  unfold adminRecordingsDeleteDay at cleared
  split at cleared
  next => cases cleared
  next date _ =>
    split at cleared
    next => cases cleared
    next valid =>
      have valid : validDateStr date = true := Bool.not_eq_false _ ▸ valid
      split at cleared
      next => cases cleared
      next dirReal rooted =>
        obtain ⟨root, located, base, rfl, -⟩ := realpath_some rooted
        simp only [Except.ok.injEq, Prod.mk.injEq] at cleared
        obtain ⟨rfl, rfl⟩ := cleared
        refine ⟨root, located, fun place gone short => ?_, fun place changed => ?_⟩
        next =>
          rcases List.mem_append.mp gone with day | csv
          next => exact emptyDay_below base short day
          next => exact csv_below emptyDay_fewer valid located csv
        next =>
          by_cases early : (emptyDay disk home (text root) date names bare).1 place = disk place
          next =>
            rw [← early] at changed
            exact List.mem_append_right _ (unlinkAll_changed changed)
          next => exact List.mem_append_left _ (emptyDay_changed early)

end

/-! ## Recordings under their relative paths -/

/-- A WAV file that stands below the directory. -/
structure Recording (disk : Disk D) (home : Home) (root inner : List Name) : Prop where
  located : locate disk home.cwd (recordingsDir home) = some root
  solid : root ≠ []
  some_ : inner ≠ []
  canonical : Canonical disk (root ++ inner)
  file : ∃ data, disk (root ++ inner) = some (.file data)
  wav : endsIn ".wav" (['/'].intercalate inner) = true
  plain : nul ∉ ['/'].intercalate inner
  fits : (['/'].intercalate inner).length < 256
  short : (text (root ++ inner)).length < pathMax

theorem endsIn_append {extension : String} {path : Text} (ends : endsIn extension path = true) (before : Text) :
    endsIn extension (before ++ path) = true := by
  obtain ⟨long, same⟩ := Bool.and_eq_true_iff.mp ends
  have long : 4 ≤ path.length := of_decide_eq_true long
  have same : path.drop (path.length - 4) = extension.toList := of_decide_eq_true same
  refine Bool.and_eq_true_iff.mpr ⟨decide_eq_true ?_, decide_eq_true ?_⟩
  next =>
    rw [List.length_append]
    omega
  next =>
    rw [List.drop_append, List.drop_eq_nil_of_le (by rw [List.length_append]; omega), List.nil_append, ← same,
      List.length_append]
    congr 1
    omega

theorem Recording.text_eq {disk : Disk D} {home : Home} {root inner : List Name}
    (recording : Recording disk home root inner) :
    text (root ++ inner) = text root ++ '/' :: ['/'].intercalate inner :=
  text_append recording.solid recording.some_

theorem Recording.filled {disk : Disk D} {home : Home} {root inner : List Name}
    (recording : Recording disk home root inner) : root ++ inner ≠ [] := by
  simp [recording.solid]

theorem Recording.at_ {disk : Disk D} {home : Home} {root inner : List Name}
    (recording : Recording disk home root inner) :
    recordingAt disk home (some (['/'].intercalate inner)) = .ok (text (root ++ inner)) := by
  have whole := recording.text_eq
  have ends := recording.wav
  have base := locate_canonical home.named recording.located
  have lengths := congrArg List.length whole
  have short := recording.short
  simp only [List.length_append, List.length_cons] at lengths
  have some_ : ['/'].intercalate inner ≠ [] := by
    intro none
    rw [none] at ends
    exact absurd ends (by decide)
  have var : mgHttpGetVar 256 (some (['/'].intercalate inner)) = some (['/'].intercalate inner) := by
    simp only [mgHttpGetVar]
    rw [if_pos ⟨some_, recording.fits⟩, CString.read_plain recording.plain]
  have rooted : realpath disk home (recordingsDir home) = some (text root) := by
    simp only [realpath, recording.located]
    exact if_pos (by omega)
  have uncut : snprintf pathMax (text root ++ '/' :: ['/'].intercalate inner) = text (root ++ inner) := by
    rw [← whole]
    exact List.take_of_length_le (by omega)
  have resolved : realpath disk home (text (root ++ inner)) = some (text (root ++ inner)) := by
    simp only [realpath, locate_text recording.canonical]
    exact if_pos short
  have inside : contained (text (root ++ inner)) (text root) = true := by
    refine (contained_iff base.names recording.canonical.names).mpr ⟨recording.solid, List.prefix_append _ _, ?_⟩
    exact fun same => recording.some_ (List.self_eq_append_right.mp same)
  have wav : endsIn ".wav" (text (root ++ inner)) = true := by
    rw [whole, List.append_cons]
    exact endsIn_append ends _
  simp only [recordingAt, var, rooted, uncut, resolved, inside, wav, Bool.true_eq_false, if_false]

/-- A recording, and a link beside it that leads out of the directory. -/
def spool : Disk Nat := fun place =>
  if place = ["r".toList] then some .dir
  else if place = ["r".toList, "a.wav".toList] then some (.file 1)
  else if place = ["r".toList, "a.wav.gz".toList] then some (.link "/key".toList)
  else if place = ["key".toList] then some (.file 2)
  else none

def atRoot : Home where
  cwd := []
  named := by simp
  dir := "/r".toList

theorem spool_recording : Recording spool atRoot ["r".toList] ["a.wav".toList] where
  located := by decide
  solid := by decide
  some_ := by decide
  canonical :=
    { names := fun name member => ⟨by revert name; decide, by revert name; decide, by revert name; decide,
        by revert name; decide⟩
      way := stands_iff.mp (by decide)
      there := fun _ => .inr ⟨1, rfl⟩ }
  file := ⟨1, rfl⟩
  wav := by decide
  plain := by decide
  fits := by decide
  short := by decide

-- A client that takes compressed files is sent the key.
example : mgHttpServeFile spool atRoot (some "gzip".toList) "/r/a.wav".toList = some ["key".toList] := by
  decide

/-! ## Runs -/

def Kept (w : World D) : Prop :=
  ∀ e ∈ w.log, e.Allowed

theorem Kept.note {w : World D} (kept : Kept w) {home : Home} {dir : Text} {acts : List Act} {disk : Disk D}
    (allowed : ∀ act ∈ acts, ∃ root, locate w.disk home.cwd dir = some root ∧ Allowed w.disk root act) :
    Kept (w.note home dir acts disk) := by
  intro e member
  rcases List.mem_append.mp member with before | now
  next => exact kept e before
  next =>
    obtain ⟨act, done, rfl⟩ := List.mem_map.mp now
    exact allowed act done

theorem served_allowed {disk : Disk D} {home : Home} {dir real : Text} {acceptEncoding : Option Text}
    (found : ∃ root place, Within disk home dir root place ∧ real = text place) :
    ∀ act ∈ (mgHttpServeFile disk home acceptEncoding real).toList.map .streamed,
      ∃ root, locate disk home.cwd dir = some root ∧ Allowed disk root act := by
  intro act member
  obtain ⟨root, recording, within, rfl⟩ := found
  obtain ⟨place, served, rfl⟩ := List.mem_map.mp member
  exact ⟨root, within.found, mgHttpServeFile_some within (Option.mem_toList.mp served)⟩

theorem queued_allowed {disk : Disk D} {home : Home} {real : Text}
    (found : ∃ root place, Within disk home home.dir root place ∧ real = text place) :
    ∀ act ∈ [Act.queued real], ∃ root, locate disk home.cwd home.dir = some root ∧ Allowed disk root act := by
  intro act member
  obtain ⟨root, place, within, rfl⟩ := found
  rw [List.mem_singleton.mp member]
  exact ⟨root, within.found, place, within.below, rfl⟩

theorem step_kept {w : World D} (kept : Kept w) (request : Request D) : Kept (step w request) := by
  cases request with
  | adminApiRecording home path acceptEncoding =>
    rw [step]
    split
    next found => exact kept.note (served_allowed (handleAdminApiRecording_ok found))
    next => exact kept
  | apiRecording home path acceptEncoding =>
    rw [step]
    split
    next found => exact kept.note (served_allowed (recordingAt_ok found).1)
    next => exact kept
  | adminRecordingDelete home path =>
    rw [step]
    split
    next found =>
      obtain ⟨⟨root, within⟩, wav, file⟩ := adminRecordingDelete_ok found
      refine kept.note fun act member => ?_
      rw [List.mem_singleton.mp member]
      exact ⟨root, within.found, within.below, wav, file⟩
    next => exact kept
  | adminRecordingsDeleteDay home date names bare =>
    rw [step]
    split
    next found =>
      obtain ⟨root, located, below, -⟩ := adminRecordingsDeleteDay_ok found
      refine kept.note fun act member => ?_
      obtain ⟨place, gone, rfl⟩ := List.mem_map.mp member
      exact ⟨root, located, below place gone⟩
    next => exact kept
  | queueInject home input =>
    rw [step]
    split
    next found =>
      unfold cmdQueueInject at found
      split at found
      next => cases found
      next => exact kept.note (queued_allowed (resolveUnderSoundsDir_ok found))
    next => exact kept
  | play home name =>
    rw [step]
    split
    next found => exact kept.note (queued_allowed (resolveUnderSoundsDir_ok found))
    next => exact kept
  | others disk => exact kept

/-- The log says what a step takes from the disk. -/
theorem step_changed {w : World D} {request : Request D} {place : List Name}
    (changed : (step w request).disk place ≠ w.disk place) :
    (∃ disk, request = .others disk) ∨
      ∃ e ∈ (step w request).log, e.disk = w.disk ∧ (e.act = .deleted place ∨ e.act = .cleared place) := by
  cases request with
  | adminRecordingDelete home path =>
    rw [step] at changed ⊢
    split at changed
    next gone _ =>
      by_cases same : place = gone
      next => exact .inr ⟨_, List.mem_append_right _ (List.mem_singleton.mpr rfl), rfl, .inl (same ▸ rfl)⟩
      next => exact absurd (Function.update_of_ne same ..) changed
    next => exact absurd rfl changed
  | adminRecordingsDeleteDay home date names bare =>
    rw [step] at changed ⊢
    split at changed
    next found =>
      obtain ⟨root, located, -, all⟩ := adminRecordingsDeleteDay_ok found
      have member := all place changed
      exact .inr ⟨_, List.mem_append_right _ (List.mem_map_of_mem (List.mem_map_of_mem member)), rfl, .inr rfl⟩
    next => exact absurd rfl changed
  | others disk => exact .inl ⟨disk, rfl⟩
  | _ =>
    rw [step] at changed
    split at changed <;> exact absurd rfl changed

end Kerchunk.Core.Sandbox
