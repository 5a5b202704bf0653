import Kerchunk.Dtmf.Command
import Kerchunk.Lib.PrefixTable

set_option autoImplicit false

/-!
# Which command an entry stands for (`modules/mod_dtmfcmd.c`)

The table is searched in the order of registration, which is the order in which the modules are
loaded, and the first pattern that the entry begins with is taken.
-/

namespace Kerchunk.Dtmf

open Kerchunk.Config (KerchunkConfig bounded configGet)
open Machine (Guarded)

def keys : List Char := "0123456789ABCD".toList

/-- What can be typed between `*` and `#`. -/
def Enterable (entry : List Char) : Prop :=
  entry.length ≤ maxCmdLen ∧ ∀ d ∈ entry, d ∈ keys

instance (entry : List Char) : Decidable (Enterable entry) :=
  @instDecidableAnd _ _ _ (List.decidableBAll _ entry)

open Dtmfcmd (matchCommand)

/-- An entry is the command with the longest pattern it begins with, and the rest is the argument, in
whatever order the patterns were registered. -/
structure Resolves (cmds : List DtmfCmdEntry) : Prop where
  unknown : ∀ entry, Enterable entry → matchCommand cmds entry = none →
    ∀ c ∈ cmds, ¬ c.pattern <+: entry
  longest : ∀ entry, Enterable entry → ∀ event, matchCommand cmds entry = some event →
    ∃ c ∈ cmds, ∃ arg, entry = c.pattern ++ arg ∧ event = ⟨c.customEventId, arg⟩ ∧
      ∀ d ∈ cmds, d.pattern <+: entry → d.pattern.length ≤ c.pattern.length
  anyOrder : ∀ entry, Enterable entry → ∀ other : List DtmfCmdEntry, other.Perm cmds →
    matchCommand other entry = matchCommand cmds entry

/-- No pattern is empty, and none that can be entered begins with another one; patterns that are
equal are of one event. -/
structure Apart (cmds : List DtmfCmdEntry) : Prop where
  proper : ∀ c ∈ cmds, c.pattern ≠ []
  apart : ∀ a ∈ cmds, ∀ b ∈ cmds, a.pattern <+: b.pattern → Enterable b.pattern →
    a.pattern = b.pattern ∧ a.customEventId = b.customEventId

/-! ## One search -/

theorem matchCommand_lookup (cmds : List DtmfCmdEntry) (entry : List Char) :
    matchCommand cmds entry =
      (PrefixTable.lookup DtmfCmdEntry.pattern DtmfCmdEntry.customEventId (bounded maxCmdLen) cmds
        entry).map fun found => ⟨found.1, found.2⟩ := by
  rw [matchCommand, PrefixTable.lookup, Option.map_map]
  rfl

theorem enterable_begins {short long : List Char} (begins : short <+: long)
    (enterable : Enterable long) : Enterable short :=
  ⟨begins.length_le.trans enterable.1, fun d member => enterable.2 d (begins.subset member)⟩

theorem event_injective :
    Function.Injective fun found : Int × List Char => (⟨found.1, found.2⟩ : CustomEvent) := by
  rintro ⟨id, arg⟩ ⟨id', arg'⟩ same
  cases same
  rfl

theorem apart_resolves {cmds : List DtmfCmdEntry} (apart : Apart cmds) : Resolves cmds := by
  have table : PrefixTable.Apart _ _ Enterable cmds := apart.apart
  constructor
  next =>
    intro entry _ unknown c member
    rw [matchCommand_lookup, Option.map_eq_none_iff] at unknown
    exact PrefixTable.lookup_none unknown member
  next =>
    intro entry enterable event hit
    rw [matchCommand_lookup] at hit
    obtain ⟨found, looked, rfl⟩ := Option.map_eq_some_iff.mp hit
    obtain ⟨c, member, arg, split, rfl, longest⟩ :=
      table.lookup_longest enterable_begins enterable looked
    -- The pattern takes a digit at least, so that the argument is not cut.
    have some := List.length_pos_iff.mpr (apart.proper c member)
    have bound := enterable.1
    rw [split, List.length_append] at bound
    have whole : bounded maxCmdLen arg = arg := by
      rw [bounded, List.take_of_length_le]
      unfold maxCmdLen at *
      omega
    exact ⟨c, member, arg, split, by rw [whole], longest⟩
  next =>
    intro entry enterable other perm
    rw [matchCommand_lookup, matchCommand_lookup, table.lookup_perm enterable_begins enterable perm]

theorem resolves_apart {cmds : List DtmfCmdEntry} (resolves : Resolves cmds) : Apart cmds := by
  have whole (rest : List Char) (same : bounded maxCmdLen rest = bounded maxCmdLen []) :
      rest = [] := by
    cases rest with
    | nil => rfl
    | cons => cases same
  have table : PrefixTable.Apart DtmfCmdEntry.pattern DtmfCmdEntry.customEventId Enterable cmds := by
    refine PrefixTable.apart_of_any_order whole fun entry enterable other perm => ?_
    have same := resolves.anyOrder entry enterable other perm
    rw [matchCommand_lookup, matchCommand_lookup] at same
    exact Option.map_injective event_injective same
  refine ⟨fun c member empty => ?_, table⟩
  -- An empty pattern leaves an argument that is too long.
  have enterable : Enterable (List.replicate maxCmdLen '0') := by decide
  have begins : c.pattern <+: List.replicate maxCmdLen '0' := by
    rw [empty]
    exact List.nil_prefix
  cases hit : matchCommand cmds (List.replicate maxCmdLen '0') with
  | none => exact resolves.unknown _ enterable hit c member begins
  | some event =>
    obtain ⟨d, listed, arg, split, rfl, _⟩ := resolves.longest _ enterable event hit
    have same := (table c member d listed (by rw [empty]; exact List.nil_prefix)
      (enterable_begins ⟨arg, split.symm⟩ enterable)).1
    rw [← same, empty, List.nil_append] at split
    rw [matchCommand_lookup] at hit
    obtain ⟨found, looked, made⟩ := Option.map_eq_some_iff.mp hit
    obtain ⟨e, _, _, rfl⟩ := PrefixTable.lookup_some looked
    have cut := congrArg (fun event => event.arg.length) made
    simp only [← split, bounded, List.length_take, List.length_drop, List.length_replicate] at cut
    unfold maxCmdLen at cut
    omega

theorem resolves_iff (cmds : List DtmfCmdEntry) : Resolves cmds ↔ Apart cmds :=
  ⟨resolves_apart, apart_resolves⟩

/-! ## The calls that change the table -/

def configured (cfg : KerchunkConfig) (c : DtmfCmdEntry) : Option (List Char) :=
  -- The pattern that the configuration gives an entry.
  if c.configKey = [] then none
  else
    match configGet cfg "dtmf".toList c.configKey with
    | none | some [] => none
    | some pattern => some (bounded maxCmdLen pattern)

theorem overridePattern_pattern (cfg : KerchunkConfig) (c : DtmfCmdEntry) :
    (Dtmfcmd.overridePattern cfg c).pattern = (configured cfg c).getD c.pattern := by
  unfold Dtmfcmd.overridePattern configured
  by_cases keyless : c.configKey = []
  next => rw [if_pos keyless, if_pos keyless, Option.getD_none]
  next =>
    rw [if_neg keyless, if_neg keyless]
    cases configGet cfg "dtmf".toList c.configKey with
    | none => rfl
    | some pattern =>
      cases pattern with
      | nil => rfl
      | cons => rfl

/-- The module with the patterns that have been unregistered and not been given again. -/
structure Registry where
  cmd : Dtmfcmd
  withdrawn : List (List Char)

def registry (receiving : Bool) : Registry := ⟨load receiving, []⟩

namespace Registry

def withdrawnAfter (r : Registry) : Input → List (List Char)
  | .unregister pattern => pattern :: r.withdrawn
  | .register pattern _ _ _ => r.withdrawn.filter fun p => p ≠ bounded maxCmdLen pattern
  | .configure cfg => r.withdrawn.filter fun p => some p ∉ r.cmd.cmds.map (configured cfg)
  | _ => r.withdrawn

def step (r : Registry) (i : Input) : Registry :=
  ⟨r.cmd.step i, r.withdrawnAfter i⟩

def Silent (r : Registry) : Prop :=
  -- No withdrawn pattern that can be entered is in the table.
  ∀ p ∈ r.withdrawn, Enterable p → ∀ c ∈ r.cmd.cmds, c.pattern ≠ p

/-- What is entered after this call is dispatched to the longest pattern, and to no withdrawn one. -/
structure Lawful (r : Registry) (i : Input) : Prop where
  resolves : Resolves (r.step i).cmd.cmds
  silent : (r.step i).Silent

/-- The patterns that the call leaves are apart, and a pattern that is unregistered stands in the table
no more than once. -/
structure Orderly (r : Registry) (i : Input) : Prop where
  apart : Apart (r.step i).cmd.cmds
  single : ∀ p, i = .unregister p → Enterable p →
    (r.cmd.cmds.filter fun c => c.pattern = p).length ≤ 1

theorem cmds_step (s : Dtmfcmd) (i : Input) :
    (s.step i).cmds =
      match i with
      | .register pattern eventOffset description configKey =>
        (s.dtmfRegisterCmd pattern eventOffset description configKey).cmds
      | .unregister pattern => s.cmds.eraseP fun c => c.pattern = pattern
      | .configure cfg => s.cmds.map (Dtmfcmd.overridePattern cfg)
      | _ => s.cmds := by
  cases i with
  | digit d =>
    simp only [Dtmfcmd.step, Dtmfcmd.onDtmfDigit]
    split_ifs <;> rfl
  | corDrop =>
    simp only [Dtmfcmd.step, Dtmfcmd.onCorDrop]
    split_ifs <;> rfl
  | timeout =>
    simp only [Dtmfcmd.step, Dtmfcmd.timeoutCb]
    split_ifs <;> rfl
  | corAssert | register | unregister | configure => rfl

theorem erased_gone {cmds : List DtmfCmdEntry} {p : List Char} :
    (∀ c ∈ cmds.eraseP fun c => c.pattern = p, c.pattern ≠ p) ↔
      (cmds.filter fun c => c.pattern = p).length ≤ 1 := by
  induction cmds with
  | nil => simp
  | cons c rest ih =>
    by_cases here : c.pattern = p
    next =>
      simp [here, List.eraseP_cons_of_pos, List.filter_cons_of_pos, List.length_eq_zero_iff,
        List.filter_eq_nil_iff]
    next => simpa [here, List.eraseP_cons_of_neg, List.filter_cons_of_neg] using ih

theorem silent_step {r : Registry} (silent : r.Silent) (i : Input) :
    (r.step i).Silent ↔ ∀ p, i = .unregister p → Enterable p →
      (r.cmd.cmds.filter fun c => c.pattern = p).length ≤ 1 := by
  unfold Silent step
  dsimp only
  rw [cmds_step]
  cases i with
  | unregister pattern =>
    constructor
    next =>
      rintro still _ ⟨⟩ enterable
      exact erased_gone.mp (still pattern List.mem_cons_self enterable)
    next =>
      intro single p member enterable c listed
      rcases List.mem_cons.mp member with rfl | before
      next => exact erased_gone.mpr (single p rfl enterable) c listed
      next => exact silent p before enterable c (List.mem_of_mem_eraseP listed)
  | register pattern eventOffset description configKey =>
    refine iff_of_true (fun p member enterable c listed => ?_) fun _ same => by cases same
    obtain ⟨before, other⟩ := List.mem_filter.mp member
    dsimp only [Dtmfcmd.dtmfRegisterCmd] at listed
    split at listed
    next => exact silent p before enterable c listed
    next =>
      rcases List.mem_append.mp listed with old | new
      next => exact silent p before enterable c old
      next =>
        obtain rfl := List.mem_singleton.mp new
        exact Ne.symm (of_decide_eq_true other)
  | configure cfg =>
    refine iff_of_true (fun p member enterable c listed => ?_) fun _ same => by cases same
    obtain ⟨before, other⟩ := List.mem_filter.mp member
    obtain ⟨d, old, rfl⟩ := List.mem_map.mp listed
    rw [overridePattern_pattern]
    cases given : configured cfg d with
    | none => exact silent p before enterable d old
    | some q =>
      rintro rfl
      exact of_decide_eq_true other (List.mem_map.mpr ⟨d, old, given⟩)
  | digit | corAssert | corDrop | timeout =>
    exact iff_of_true silent fun _ same => by cases same

theorem lawful_iff_orderly {r : Registry} (silent : r.Silent) (i : Input) :
    r.Lawful i ↔ r.Orderly i := by
  constructor
  next => exact fun lawful =>
    ⟨(resolves_iff _).mp lawful.resolves, (silent_step silent i).mp lawful.silent⟩
  next => exact fun orderly =>
    ⟨(resolves_iff _).mpr orderly.apart, (silent_step silent i).mpr orderly.single⟩

/-- In every run, all entries are dispatched to the longest pattern and none to a withdrawn one if and
only if after each call the patterns are apart and none is unregistered that stands in the table
twice. -/
theorem lawful_run_iff (receiving : Bool) (inputs : List Input) :
    Guarded step Lawful (registry receiving) inputs ↔
      Guarded step Orderly (registry receiving) inputs :=
  Machine.guarded_iff_of_invariant step (P := Silent)
    (fun _ i silent => lawful_iff_orderly silent i)
    (fun _ i silent orderly => (silent_step silent i).mpr orderly.single)
    fun _ member => absurd member List.not_mem_nil

/-- The autopatch and the weather report as their modules register them, and a configuration in which
the weather report is `02`. -/
def shadowed : List Input :=
  [.register "0".toList 17 "AutoPatch".toList "autopatch".toList,
    .register "93".toList 8 "Weather report".toList "weather_report".toList,
    .configure [⟨"dtmf".toList, "weather_report".toList, "02".toList⟩]]

/-- `*02#` dials the number 2. -/
theorem autopatch_answers : ¬ Guarded step Lawful (registry false) shadowed := by
  intro lawful
  obtain ⟨c, _, arg, split, event, longest⟩ :=
    lawful.2.2.1.resolves.longest ['0', '2'] (by decide) ⟨1017, ['2']⟩ (by decide)
  have weather := longest
    ⟨['0', '2'], 1008, "Weather report".toList, "weather_report".toList⟩ (by decide) (by decide)
  have rest : arg = ['2'] := (congrArg CustomEvent.arg event).symm
  have lengths := congrArg List.length split
  rw [rest, List.length_append] at lengths
  dsimp at lengths weather
  omega

end Registry

end Kerchunk.Dtmf
