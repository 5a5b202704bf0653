import Kerchunk.Lib.CString
import Mathlib.Data.List.Infix
import Mathlib.Tactic.Common

set_option autoImplicit false

/-!
# Paths on a disk with symbolic links

A disk says what stands at each place, which is the list of names from the root. A path is a text; it is
followed name by name.
-/

namespace Paths

abbrev Name := List Char

structure IsName (name : Name) : Prop where
  some_ : name ≠ []
  whole : '/' ∉ name
  notSelf : name ≠ ['.']
  notUp : name ≠ ['.', '.']

inductive Node (D : Type) where
  | dir
  | file (data : D)
  | link (target : List Char)

abbrev Disk (D : Type) := List Name → Option (Node D)

def parts (path : List Char) : List Name :=
  path.splitOn '/'

def text (place : List Name) : List Char :=
  if place = [] then ['/'] else ['/'].intercalate ([] :: place)

variable {D : Type} (disk : Disk D)

/-- `follow` goes on after a symbolic link. -/
def walkWith (follow : List Name → List Name → Option (List Name)) :
    List Name → List Name → Option (List Name)
  | here, [] => some here
  | here, name :: rest =>
    if name = [] ∨ name = ['.'] then walkWith follow here rest
    else if name = ['.', '.'] then walkWith follow here.dropLast rest
    else
      match disk (here ++ [name]) with
      | none => none
      | some .dir => walkWith follow (here ++ [name]) rest
      | some (.file _) => if rest = [] then some (here ++ [name]) else none
      | some (.link target) =>
        follow (if target.head? = some '/' then [] else here) (parts target ++ rest)

def walk : Nat → List Name → List Name → Option (List Name)
  -- The first number is that of the links that may still be followed.
  | 0 => walkWith disk fun _ _ => none
  | links + 1 => walkWith disk (walk links)

def maxLinks : Nat := 40

/-- Only directories stand on the way. -/
def Clear (place : List Name) : Prop :=
  ∀ inner, inner <+: place → inner ≠ [] → disk inner = some .dir

/-- What is reached at the place without a link. -/
structure Canonical (place : List Name) : Prop where
  names : ∀ name ∈ place, IsName name
  way : Clear disk place.dropLast
  there : place ≠ [] → disk place = some .dir ∨ ∃ data, disk place = some (.file data)

structure Below (outer place : List Name) : Prop where
  inside : outer <+: place
  proper : outer ≠ place

def isDir : Option (Node D) → Bool
  | some .dir => true
  | _ => false

def isLeaf : Option (Node D) → Bool
  | some (.file _) => true
  | some (.link _) => true
  | _ => false

def stands (place : List Name) : Bool :=
  place.inits.all fun inner => inner.isEmpty || isDir (disk inner)

/-- Where a process that runs in a directory starts: a relative path leads nowhere once the directory is
gone. -/
def origin (cwd : List Name) (path : List Char) : Option (List Name) :=
  if path.head? = some '/' then some [] else if stands disk cwd then some cwd else none

def locate (cwd : List Name) (path : List Char) : Option (List Name) :=
  if path = [] then none else (origin disk cwd path).bind (walk disk maxLinks · (parts path))

/-- What the removal of a path removes: the entry itself, also where it is a link, and no directory. -/
def unlink (cwd : List Name) (path : List Char) : Option (List Name) :=
  let last := (parts path).getLastD []
  if last = [] ∨ last = ['.'] ∨ last = ['.', '.'] then none
  else
    match (origin disk cwd path).bind (walk disk maxLinks · (parts path).dropLast) with
    | none => none
    | some outer =>
      if (outer = [] ∨ isDir (disk outer)) ∧ isLeaf (disk (outer ++ [last])) then some (outer ++ [last])
      else none

def remove (place : List Name) : Disk D :=
  Function.update disk place none

variable {disk}

theorem isDir_iff {node : Option (Node D)} : isDir node = true ↔ node = some .dir := by
  rcases node with _ | _ | _ | _ <;> simp [isDir]

theorem stands_iff {place : List Name} : stands disk place = true ↔ Clear disk place := by
  simp only [stands, List.all_eq_true, List.mem_inits, Bool.or_eq_true, List.isEmpty_iff, isDir_iff]
  exact forall₂_congr fun inner _ => Decidable.or_iff_not_imp_left

theorem parts_whole (path : List Char) : ∀ name ∈ parts path, '/' ∉ name :=
  fun _ member => (Lines.piece_of_splitOn member).1

theorem named_concat {names : List Name} (named : ∀ name ∈ names, IsName name) {last : Name}
    (isName : IsName last) : ∀ name ∈ names ++ [last], IsName name := by
  intro name member
  rcases List.mem_append.mp member with before | same
  next => exact named name before
  next => exact List.mem_singleton.mp same ▸ isName

theorem Clear.dropLast {place : List Name} (clear : Clear disk place) : Clear disk place.dropLast :=
  fun inner within => clear inner (within.trans (List.dropLast_prefix place))

theorem Clear.snoc {place : List Name} (clear : Clear disk place) {name : Name}
    (dir : disk (place ++ [name]) = some .dir) : Clear disk (place ++ [name]) := by
  intro inner within some_
  rcases List.prefix_concat_iff.mp within with rfl | before
  next => exact dir
  next => exact clear inner before some_

theorem walkWith_canonical {follow : List Name → List Name → Option (List Name)}
    (onward : ∀ here names place, Clear disk here → (∀ name ∈ here, IsName name) →
      (∀ name ∈ names, '/' ∉ name) → follow here names = some place → Canonical disk place)
    {names here place : List Name} (clear : Clear disk here) (named : ∀ name ∈ here, IsName name)
    (whole : ∀ name ∈ names, '/' ∉ name) (walked : walkWith disk follow here names = some place) :
    Canonical disk place := by
  induction names generalizing here with
  | nil =>
    cases walked
    exact ⟨named, clear.dropLast, fun some_ => .inl (clear _ List.prefix_rfl some_)⟩
  | cons name rest ih =>
    obtain ⟨slashless, later⟩ := List.forall_mem_cons.mp whole
    rw [walkWith] at walked
    split at walked
    next => exact ih clear named later walked
    next solid =>
      obtain ⟨some_, notSelf⟩ := not_or.mp solid
      split at walked
      next =>
        exact ih clear.dropLast (fun other member => named other (List.mem_of_mem_dropLast member)) later
          walked
      next notUp =>
        have isName : IsName name := ⟨some_, slashless, notSelf, notUp⟩
        have all := named_concat named isName
        split at walked
        next => cases walked
        next dir => exact ih (clear.snoc dir) all later walked
        next data file =>
          split at walked
          next =>
            cases walked
            refine ⟨all, ?_, fun _ => .inr ⟨data, file⟩⟩
            rwa [List.dropLast_concat]
          next => cases walked
        next target link =>
          refine onward _ _ place ?_ ?_ ?_ walked
          next =>
            split
            next => exact fun inner within some_ => absurd (List.prefix_nil.mp within) some_
            next => exact clear
          next =>
            split
            next => simp
            next => exact named
          next =>
            intro other member
            rcases List.mem_append.mp member with first | second
            next => exact parts_whole target other first
            next => exact later other second

theorem walk_canonical (links : Nat) {names here place : List Name} (clear : Clear disk here)
    (named : ∀ name ∈ here, IsName name) (whole : ∀ name ∈ names, '/' ∉ name)
    (walked : walk disk links here names = some place) : Canonical disk place := by
  induction links generalizing names here place with
  | zero =>
    refine walkWith_canonical (fun _ _ _ _ _ _ none => ?_) clear named whole walked
    cases none
  | succ links ih =>
    exact walkWith_canonical (fun _ _ _ clear named whole walked => ih clear named whole walked) clear
      named whole walked

theorem clear_root : Clear disk [] :=
  fun _ within some_ => absurd (List.prefix_nil.mp within) some_

theorem origin_clear {cwd start : List Name} (named : ∀ name ∈ cwd, IsName name) {path : List Char}
    (starts : origin disk cwd path = some start) : Clear disk start ∧ ∀ name ∈ start, IsName name := by
  unfold origin at starts
  split at starts
  next =>
    cases starts
    exact ⟨clear_root, by simp⟩
  next =>
    split at starts
    next clear =>
      cases starts
      exact ⟨stands_iff.mp clear, named⟩
    next => cases starts

theorem locate_canonical {cwd place : List Name} (named : ∀ name ∈ cwd, IsName name) {path : List Char}
    (found : locate disk cwd path = some place) : Canonical disk place := by
  unfold locate at found
  split at found
  next => cases found
  next =>
    obtain ⟨start, starts, walked⟩ := Option.bind_eq_some_iff.mp found
    obtain ⟨clear, named⟩ := origin_clear named starts
    exact walk_canonical maxLinks clear named (parts_whole path) walked

/-! ## The text of a place -/

theorem text_eq {place : List Name} (some_ : place ≠ []) : text place = ['/'].intercalate ([] :: place) :=
  if_neg some_

theorem parts_text {place : List Name} (some_ : place ≠ []) (named : ∀ name ∈ place, IsName name) :
    parts (text place) = [] :: place := by
  rw [text_eq some_, parts, List.splitOn_intercalate _ _ (List.cons_ne_nil _ _)]
  intro name member
  rcases List.mem_cons.mp member with rfl | member
  next => simp
  next => exact (named name member).whole

theorem text_injective {place other : List Name} (some_ : place ≠ []) (some_' : other ≠ [])
    (named : ∀ name ∈ place, IsName name) (named' : ∀ name ∈ other, IsName name)
    (same : text place = text other) : place = other := by
  have apart := congrArg parts same
  rw [parts_text some_ named, parts_text some_' named'] at apart
  exact (List.cons_eq_cons.mp apart).2

theorem text_head {place : List Name} : (text place).head? = some '/' := by
  unfold text
  split
  next => rfl
  next some_ =>
    obtain ⟨name, rest, rfl⟩ := List.exists_cons_of_ne_nil some_
    simp [List.intercalate_cons_of_ne_nil]

theorem text_ne_nil (place : List Name) : text place ≠ [] := by
  intro empty
  have head := @text_head place
  simp [empty] at head

theorem walkWith_straight {follow : List Name → List Name → Option (List Name)} {names here : List Name}
    (canonical : Canonical disk (here ++ names)) : walkWith disk follow here names = some (here ++ names) := by
  induction names generalizing here with
  | nil => simp [walkWith]
  | cons name rest ih =>
    have isName := canonical.names name (by simp)
    have onward : here ++ [name] ++ rest = here ++ name :: rest := by simp
    rw [walkWith, if_neg (not_or.mpr ⟨isName.some_, isName.notSelf⟩), if_neg isName.notUp]
    cases rest with
    | nil =>
      rcases canonical.there (by simp) with dir | ⟨data, file⟩
      next => simp [dir, walkWith]
      next => simp [file]
    | cons next later =>
      have dir : disk (here ++ [name]) = some .dir := by
        refine canonical.way _ ?_ (by simp)
        rw [← onward, List.dropLast_append_of_ne_nil (List.cons_ne_nil _ _)]
        exact List.prefix_append _ _
      simp only [dir]
      rw [ih (onward.symm ▸ canonical), onward]

theorem walk_straight {place : List Name} (canonical : Canonical disk place) :
    walk disk maxLinks [] ([] :: place) = some place := by
  have straight : walkWith disk (walk disk 39) [] place = some place := walkWith_straight canonical
  simpa [walk, maxLinks, walkWith] using straight

/-- The text of what was found leads to it again. -/
theorem locate_text {place : List Name} (canonical : Canonical disk place) (cwd : List Name) :
    locate disk cwd (text place) = some place := by
  rw [locate, if_neg (text_ne_nil place), origin, if_pos text_head, Option.bind_some]
  by_cases root : place = []
  next =>
    subst root
    rfl
  next =>
    rw [parts_text root canonical.names]
    exact walk_straight canonical

theorem intercalate_append (sep : List Char) {outer inner : List Name} (some_ : outer ≠ []) (more : inner ≠ []) :
    sep.intercalate (outer ++ inner) = sep.intercalate outer ++ sep ++ sep.intercalate inner := by
  induction outer with
  | nil => exact absurd rfl some_
  | cons name rest ih =>
    cases rest with
    | nil => simp [List.intercalate_cons_of_ne_nil more]
    | cons next later =>
      rw [List.cons_append, List.intercalate_cons_of_ne_nil (by simp), ih (List.cons_ne_nil _ _),
        List.intercalate_cons_of_ne_nil (List.cons_ne_nil next later)]
      simp

theorem text_append {outer inner : List Name} (some_ : outer ≠ []) (more : inner ≠ []) :
    text (outer ++ inner) = text outer ++ '/' :: ['/'].intercalate inner := by
  rw [text_eq (by simp [some_]), text_eq some_, ← List.cons_append,
    intercalate_append _ (List.cons_ne_nil _ _) more]
  simp

theorem text_cons (name : Name) (rest : List Name) :
    text (name :: rest) = '/' :: ['/'].intercalate (name :: rest) := by
  rw [text_eq (List.cons_ne_nil _ _), List.intercalate_cons_cons]
  simp

theorem text_slash {outer : List Name} (some_ : outer ≠ []) (name : Name) :
    text outer ++ '/' :: name = text (outer ++ [name]) := by
  rw [text_append some_ (List.cons_ne_nil _ _), List.intercalate_singleton]

theorem Below.text_begin {outer place : List Name} (below : Below outer place) (some_ : outer ≠ []) :
    text outer ++ ['/'] <+: text place := by
  obtain ⟨⟨inner, rfl⟩, proper⟩ := below
  have more : inner ≠ [] := by
    rintro rfl
    exact proper (List.append_nil _).symm
  rw [text_append some_ more]
  exact ⟨['/'].intercalate inner, by simp⟩

/-- A path begins with another and a slash if and only if its place is strictly below. -/
theorem below_iff {outer place : List Name} (named : ∀ name ∈ outer, IsName name)
    (named' : ∀ name ∈ place, IsName name) :
    (text outer <+: text place ∧ (text place)[(text outer).length]? = some '/') ↔
      outer ≠ [] ∧ Below outer place := by
  constructor
  next =>
    rintro ⟨⟨tail, whole⟩, slash⟩
    rw [← whole, List.getElem?_append_right (Nat.le_refl _), Nat.sub_self] at slash
    obtain ⟨rest, rfl⟩ : ∃ rest, tail = '/' :: rest := by
      cases tail with
      | nil => cases slash
      | cons first rest => exact ⟨rest, by simpa using slash⟩
    have apart : parts (text place) = parts (text outer) ++ parts rest := by
      rw [← whole, parts, List.splitOn_append_cons_self]
      rfl
    have solid : place ≠ [] := by
      rintro rfl
      obtain ⟨more, first⟩ := List.head?_eq_some_iff.mp (@text_head outer)
      have empty : more ++ '/' :: rest = [] := by simpa [first] using whole.trans (if_pos rfl)
      simp at empty
    rw [parts_text solid named'] at apart
    have filled : outer ≠ [] := by
      -- Below the root itself a second slash would be needed, and no name is empty.
      rintro rfl
      have second : parts (text []) = [[], []] := by decide
      rw [second] at apart
      obtain ⟨-, same⟩ := List.cons_eq_cons.mp apart
      exact (named' [] (by simp [same])).some_ rfl
    rw [parts_text filled named] at apart
    obtain ⟨-, same⟩ := List.cons_eq_cons.mp apart
    refine ⟨filled, ⟨⟨_, same.symm⟩, ?_⟩⟩
    rintro rfl
    exact List.splitOn_ne_nil _ _ (List.self_eq_append_right.mp same)
  next =>
    rintro ⟨filled, below⟩
    obtain ⟨rest, whole⟩ := below.text_begin filled
    rw [← whole]
    exact ⟨⟨'/' :: rest, by simp⟩, by simp⟩

theorem Canonical.clear {place : List Name} (canonical : Canonical disk place) (dir : disk place = some .dir) :
    Clear disk place := by
  rcases List.eq_nil_or_concat' place with rfl | ⟨outer, name, rfl⟩
  next => exact clear_root
  next =>
    have way := canonical.way
    rw [List.dropLast_concat] at way
    exact way.snoc dir

theorem Canonical.outer_clear {outer : List Name} {name : Name} (canonical : Canonical disk (outer ++ [name])) :
    Clear disk outer := by
  have way := canonical.way
  rwa [List.dropLast_concat] at way

/-! ## A name that goes on -/

theorem IsName.append {name suffix : Name} (isName : IsName name) (whole : '/' ∉ suffix) :
    IsName (name ++ suffix) := by
  refine ⟨by simp [isName.some_], fun member => (List.mem_append.mp member).elim isName.whole whole,
    fun same => ?_, fun same => ?_⟩
  all_goals
    have within := (List.mem_inits name _).mpr ⟨suffix, same⟩
    simp [isName.some_, isName.notSelf, isName.notUp] at within

theorem text_extend (outer : List Name) (name suffix : Name) :
    text (outer ++ [name ++ suffix]) = text (outer ++ [name]) ++ suffix := by
  cases outer with
  | nil => simp [text_cons]
  | cons first rest =>
    rw [text_append (by simp) (by simp), text_append (by simp) (by simp)]
    simp

theorem walkWith_last {follow : List Name → List Name → Option (List Name)} {names here place : List Name}
    {last : Name} (isName : IsName last) (named : ∀ name ∈ names, IsName name) (clear : Clear disk (here ++ names))
    (walked : walkWith disk follow here (names ++ [last]) = some place) :
    place = here ++ names ++ [last] ∨ ∃ target, disk (here ++ names ++ [last]) = some (.link target) := by
  induction names generalizing here with
  | nil =>
    rw [List.nil_append, walkWith, if_neg (not_or.mpr ⟨isName.some_, isName.notSelf⟩), if_neg isName.notUp]
      at walked
    rw [List.append_nil]
    split at walked
    next => cases walked
    next => exact .inl (Option.some.inj walked).symm
    next => exact .inl (Option.some.inj walked).symm
    next target link => exact .inr ⟨target, link⟩
  | cons name rest ih =>
    obtain ⟨isFirst, later⟩ := List.forall_mem_cons.mp named
    have onward : here ++ [name] ++ rest = here ++ name :: rest := by simp
    have dir : disk (here ++ [name]) = some .dir :=
      clear _ (onward ▸ List.prefix_append _ _) (by simp)
    rw [List.cons_append, walkWith, if_neg (not_or.mpr ⟨isFirst.some_, isFirst.notSelf⟩),
      if_neg isFirst.notUp] at walked
    simp only [dir] at walked
    rw [← onward]
    exact ih later (onward ▸ clear) walked

theorem locate_last {cwd outer place : List Name} {last : Name} (isName : IsName last)
    (named : ∀ name ∈ outer, IsName name) (clear : Clear disk outer)
    (found : locate disk cwd (text (outer ++ [last])) = some place) :
    place = outer ++ [last] ∨ ∃ target, disk (outer ++ [last]) = some (.link target) := by
  rw [locate, if_neg (text_ne_nil _), origin, if_pos text_head, Option.bind_some,
    parts_text (by simp) (named_concat named isName), maxLinks, walk, walkWith, if_pos (.inl rfl)] at found
  have onWay : Clear disk ([] ++ outer) := clear
  simpa using walkWith_last isName named onWay found

/-! ## Where less stands -/

/-- The first disk is the second with some places emptied. -/
def Fewer (less disk : Disk D) : Prop :=
  ∀ place, less place = disk place ∨ less place = none

theorem Fewer.refl (disk : Disk D) : Fewer disk disk := fun _ => .inl rfl

theorem Fewer.trans {least less disk : Disk D} (first : Fewer least less) (second : Fewer less disk) :
    Fewer least disk := by
  intro place
  rcases first place with same | none
  next => exact same ▸ second place
  next => exact .inr none

theorem Fewer.remove (disk : Disk D) (place : List Name) : Fewer (remove disk place) disk := by
  intro other
  by_cases same : other = place
  next => exact .inr (same ▸ Function.update_self ..)
  next => exact .inl (Function.update_of_ne same ..)

theorem Fewer.walkWith {less : Disk D} (fewer : Fewer less disk)
    {follow follow' : List Name → List Name → Option (List Name)}
    (onward : ∀ here names place, follow here names = some place → follow' here names = some place)
    {names here place : List Name} (walked : walkWith less follow here names = some place) :
    Paths.walkWith disk follow' here names = some place := by
  induction names generalizing here with
  | nil => exact walked
  | cons name rest ih =>
    rw [Paths.walkWith] at walked ⊢
    split
    next blank =>
      rw [if_pos blank] at walked
      exact ih walked
    next solid =>
      rw [if_neg solid] at walked
      split
      next up =>
        rw [if_pos up] at walked
        exact ih walked
      next notUp =>
        rw [if_neg notUp] at walked
        rcases fewer (here ++ [name]) with same | none
        next =>
          rw [same] at walked
          split at walked
          next => cases walked
          next => exact ih walked
          next => exact walked
          next => exact onward _ _ _ walked
        next =>
          rw [none] at walked
          cases walked

/-- Nothing is found in another place because less stands on the disk. -/
theorem Fewer.walk {less : Disk D} (fewer : Fewer less disk) (links : Nat) {names here place : List Name}
    (walked : walk less links here names = some place) : Paths.walk disk links here names = some place := by
  induction links generalizing names here place with
  | zero => exact fewer.walkWith (fun _ _ _ found => found) walked
  | succ links ih => exact fewer.walkWith (fun _ _ _ found => ih found) walked

theorem Fewer.origin {less : Disk D} (fewer : Fewer less disk) {cwd start : List Name} {path : List Char}
    (starts : origin less cwd path = some start) : Paths.origin disk cwd path = some start := by
  unfold Paths.origin at starts ⊢
  split
  next absolute => rwa [if_pos absolute] at starts
  next relative =>
    rw [if_neg relative] at starts
    split at starts
    next clear =>
      have clear' : Clear disk cwd := fun inner within some_ =>
        (fewer inner).elim (fun same => same ▸ stands_iff.mp clear inner within some_)
          fun none => nomatch none.symm.trans (stands_iff.mp clear inner within some_)
      rwa [if_pos (stands_iff.mpr clear')]
    next => cases starts

/-! ## Removal -/

theorem parts_begin {start path : List Char} (within : start <+: path) :
    ∃ number piece whole, parts start = (parts path).take number ++ [piece] ∧
      (parts path)[number]? = some whole ∧ piece <+: whole := by
  induction start generalizing path with
  | nil =>
    obtain ⟨whole, rest, split⟩ := List.exists_cons_of_ne_nil (List.splitOn_ne_nil '/' path)
    exact ⟨0, [], whole, rfl, by simp [parts, split], List.nil_prefix⟩
  | cons c start ih =>
    obtain ⟨later, rfl⟩ := within
    obtain ⟨number, piece, whole, split, at_, begins⟩ := ih (List.prefix_append start later)
    by_cases slash : c = '/'
    next =>
      refine ⟨number + 1, piece, whole, ?_, ?_, begins⟩ <;>
        simp_all [parts, List.splitOn_cons_eq_if_modifyHead]
    next =>
      obtain ⟨first, rest, apart⟩ := List.exists_cons_of_ne_nil (List.splitOn_ne_nil '/' (start ++ later))
      cases number with
      | zero =>
        refine ⟨0, c :: piece, c :: whole, ?_, ?_, List.cons_prefix_cons.mpr ⟨rfl, begins⟩⟩ <;>
          simp_all [parts, List.splitOn_cons_eq_if_modifyHead]
      | succ number =>
        refine ⟨number + 1, piece, whole, ?_, ?_, begins⟩ <;>
          simp_all [parts, List.splitOn_cons_eq_if_modifyHead]

theorem Clear.canonical {place : List Name} (clear : Clear disk place) (named : ∀ name ∈ place, IsName name) :
    Canonical disk place :=
  ⟨named, clear.dropLast, fun some_ => .inl (clear _ List.prefix_rfl some_)⟩

theorem unlink_eq {cwd names : List Name} {last : Name} {path : List Char} (clear : Clear disk names)
    (named : ∀ name ∈ names, IsName name) (isName : IsName last) (absolute : path.head? = some '/')
    (apart : parts path = [] :: names ++ [last]) :
    unlink disk cwd path = if isLeaf (disk (names ++ [last])) then some (names ++ [last]) else none := by
  have onWay : names = [] ∨ isDir (disk names) = true := by
    rcases eq_or_ne names [] with root | some_
    next => exact .inl root
    next => exact .inr (isDir_iff.mpr (clear _ List.prefix_rfl some_))
  have solid : ¬(last = [] ∨ last = ['.'] ∨ last = ['.', '.']) :=
    not_or.mpr ⟨isName.some_, not_or.mpr ⟨isName.notSelf, isName.notUp⟩⟩
  simp only [unlink, apart, List.cons_append, List.getLastD_cons, List.getLastD_concat, if_neg solid,
    origin, if_pos absolute, Option.bind_some]
  rw [← List.cons_append, List.dropLast_concat, walk_straight (clear.canonical named)]
  simp only [onWay, true_and]

theorem parts_last (path : List Char) : (parts path).getLastD [] ∈ parts path := by
  have solid : parts path ≠ [] := List.splitOn_ne_nil '/' path
  rw [List.getLastD_eq_getLast?, List.getLast?_eq_some_getLast solid, Option.getD_some]
  exact List.getLast_mem solid

theorem unlink_some {cwd place : List Name} {path : List Char} (removed : unlink disk cwd path = some place) :
    IsName ((parts path).getLastD []) ∧ isLeaf (disk place) = true := by
  simp only [unlink] at removed
  split at removed
  next => cases removed
  next solid =>
    obtain ⟨some_, others⟩ := not_or.mp solid
    obtain ⟨notSelf, notUp⟩ := not_or.mp others
    refine ⟨⟨some_, parts_whole path _ (parts_last path), notSelf, notUp⟩, ?_⟩
    split at removed
    next => cases removed
    next =>
      split at removed
      next entry =>
        cases removed
        exact entry.2
      next => cases removed

theorem unlink_text {cwd place : List Name} (canonical : Canonical disk place) (some_ : place ≠ []) :
    unlink disk cwd (text place) = if isLeaf (disk place) then some place else none := by
  obtain ⟨outer, name, rfl⟩ := (List.eq_nil_or_concat' place).resolve_left some_
  have names := canonical.names
  exact unlink_eq canonical.outer_clear (fun other member => names other (by simp [member]))
    (names name (by simp)) text_head (parts_text some_ names)

/-- Also where the path is cut short, what is removed stays below each directory the path still
names. -/
theorem unlink_below {cwd outer target place : List Name} {name : Name} {path : List Char}
    (clear : Clear disk target) (named : ∀ other ∈ target, IsName other) (isName : IsName name)
    (filled : outer ≠ []) (named' : ∀ other ∈ outer, IsName other)
    (within : path <+: text (target ++ [name])) (below : text outer ++ ['/'] <+: path)
    (removed : unlink disk cwd path = some place) : Below outer place := by
  obtain ⟨rest, rfl⟩ := below
  have outerFirst : parts (text outer ++ ['/'] ++ rest) = [] :: outer ++ parts rest := by
    rw [List.append_assoc, List.singleton_append, parts, List.splitOn_append_cons_self, ← parts,
      parts_text filled named']
    rfl
  obtain ⟨number, piece, whole, split, at_, -⟩ := parts_begin within
  rw [parts_text (by simp) (named_concat named isName)] at split at_
  have short := (List.getElem?_eq_some_iff.mp at_).1
  simp only [List.length_cons, List.length_append, List.length_nil] at short
  obtain ⟨inner, rfl⟩ : ∃ inner, number = inner + 1 := by
    cases number with
    | zero =>
      obtain ⟨first, others, solid⟩ := List.exists_cons_of_ne_nil (List.splitOn_ne_nil '/' rest)
      rw [outerFirst] at split
      have lengths := congrArg List.length split
      simp [parts, solid] at lengths
    | succ inner => exact ⟨inner, rfl⟩
  have taken : ([] :: (target ++ [name])).take (inner + 1) = [] :: target.take inner := by
    rw [List.take_succ_cons, List.take_append_of_le_length (by omega)]
  rw [taken] at split
  have pieceName : IsName piece := by
    have last := (unlink_some removed).1
    rwa [split, List.getLastD_concat] at last
  have onWay : Clear disk (target.take inner) := fun other inside =>
    clear other (inside.trans (List.take_prefix _ _))
  rw [unlink_eq onWay (fun other member => named other (List.mem_of_mem_take member)) pieceName _ split]
    at removed
  next =>
    split at removed
    next =>
      cases removed
      have same : target.take inner ++ [piece] = outer ++ parts rest := by
        simpa using split.symm.trans outerFirst
      rw [same]
      exact ⟨List.prefix_append _ _, fun same => List.splitOn_ne_nil '/' rest (List.self_eq_append_right.mp same)⟩
    next => cases removed
  next =>
    obtain ⟨more, first⟩ := List.head?_eq_some_iff.mp (@text_head outer)
    simp [first]

theorem Clear.remove {place gone : List Name} (clear : Clear disk place) (leaf : isLeaf (disk gone) = true) :
    Clear (remove disk gone) place := by
  intro inner within some_
  have dir := clear inner within some_
  have other : inner ≠ gone := by
    rintro rfl
    simp [isLeaf, dir] at leaf
  exact (Function.update_of_ne other ..).trans dir

theorem unlink_in {less : Disk D} (fewer : Fewer less disk) {cwd root place : List Name} {dir last : List Char}
    (whole : '/' ∉ last) (found : locate disk cwd dir = some root)
    (removed : unlink less cwd (dir ++ '/' :: last) = some place) : place = root ++ [last] := by
  have solid : dir ≠ [] := by
    rintro rfl
    cases found
  have apart : parts (dir ++ '/' :: last) = parts dir ++ [last] := by
    rw [parts, List.splitOn_append_cons_self, List.splitOn_eq_singleton whole]
    rfl
  have sameOrigin : origin less cwd (dir ++ '/' :: last) = origin less cwd dir := by
    rw [origin, origin, List.head?_append_of_ne_nil _ solid]
  simp only [unlink, apart, List.getLastD_concat, List.dropLast_concat, sameOrigin] at removed
  split at removed
  next => cases removed
  next =>
    split at removed
    next => cases removed
    next outer walked =>
      obtain ⟨start, starts, walked⟩ := Option.bind_eq_some_iff.mp walked
      rw [locate, if_neg solid, fewer.origin starts, Option.bind_some, fewer.walk maxLinks walked] at found
      cases found
      split at removed
      next => exact (Option.some.inj removed).symm
      next => cases removed

end Paths
