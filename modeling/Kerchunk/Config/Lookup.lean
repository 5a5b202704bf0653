import Kerchunk.Config.RoundTrip

set_option autoImplicit false

/-!
# What is found after setting, and after a save

Keys that are set one after another in a section are all found there, and nothing else changes. A
save and a load keep what is found, unless the reader would take the value for something else.
-/

namespace Kerchunk.Config

/-! ## Setting one key -/

/-- The names are C strings that fit the buffers of an entry. -/
structure Fitted (call : SetCall) : Prop where
  sectionClean : nul ∉ call.sectionName
  keyClean : nul ∉ call.key
  sectionFits : call.sectionName.length < maxSection
  keyFits : call.key.length < maxKey

def storedValue (value : Text) : Text :=
  stripNewlines (bounded maxValue (cstr value))

def newEntry (call : SetCall) : ConfigEntry where
  sectionName := call.sectionName
  key := call.key
  value := storedValue call.value

theorem configGet_eq_none {cfg : KerchunkConfig} {sectionName key : Text} :
    configGet cfg sectionName key = none ↔
      ∀ e ∈ cfg, ¬ (e.sectionName = sectionName ∧ e.key = key) := by
  simp [configGet, List.find?_eq_none]

theorem applySet_eq {call : SetCall} (fitted : Fitted call) (cfg : KerchunkConfig) :
    applySet cfg call =
      if configGet cfg call.sectionName call.key = none then
        if cfg.length ≥ maxEntries then cfg else cfg ++ [newEntry call]
      else updateFirst call.sectionName call.key (storedValue call.value) cfg := by
  have found : (cfg.any fun e => e.sectionName = call.sectionName ∧ e.key = call.key) = true ↔
      ¬ configGet cfg call.sectionName call.key = none := by
    simp [configGet_eq_none, List.any_eq_true]
  simp only [applySet, configSet, cstr_same fitted.sectionClean, cstr_same fitted.keyClean, found,
    bounded_same fitted.sectionFits, bounded_same fitted.keyFits]
  by_cases missing : configGet cfg call.sectionName call.key = none
  next =>
    by_cases full : cfg.length ≥ maxEntries <;> simp [missing, full, newEntry, storedValue]
  next => simp [missing, storedValue]

theorem configGet_append_other {cfg : KerchunkConfig} {e : ConfigEntry} {sectionName key : Text}
    (other : ¬ (e.sectionName = sectionName ∧ e.key = key)) :
    configGet (cfg ++ [e]) sectionName key = configGet cfg sectionName key := by
  simp [configGet, List.find?_append, other]

theorem configGet_update_other {sectionName key : Text} {other : Text × Text}
    (differs : ¬ (other.1 = sectionName ∧ other.2 = key)) (value : Text) (cfg : KerchunkConfig) :
    configGet (updateFirst other.1 other.2 value cfg) sectionName key =
      configGet cfg sectionName key := by
  induction cfg with
  | nil => rfl
  | cons e rest ih =>
    unfold updateFirst
    by_cases found : e.sectionName = other.1 ∧ e.key = other.2
    next => simp [found, configGet, differs]
    next =>
      rw [if_neg found]
      by_cases here : e.sectionName = sectionName ∧ e.key = key
      next => simp [configGet, here]
      next =>
        simp only [configGet, List.find?_cons, here, decide_false] at ih ⊢
        exact ih

theorem configGet_update_same {sectionName key : Text} (value : Text) {cfg : KerchunkConfig}
    (present : configGet cfg sectionName key ≠ none) :
    configGet (updateFirst sectionName key value cfg) sectionName key = some value := by
  induction cfg with
  | nil => exact absurd rfl present
  | cons e rest ih =>
    unfold updateFirst
    by_cases found : e.sectionName = sectionName ∧ e.key = key
    next => simp [found, configGet]
    next =>
      rw [if_neg found]
      simp only [configGet, List.find?_cons, found, decide_false] at present ih ⊢
      exact ih present

theorem get_set_other {call : SetCall} (fitted : Fitted call) {sectionName key : Text}
    (other : ¬ (call.sectionName = sectionName ∧ call.key = key)) (cfg : KerchunkConfig) :
    configGet (applySet cfg call) sectionName key = configGet cfg sectionName key := by
  rw [applySet_eq fitted]
  split
  next =>
    split
    next => rfl
    next => exact configGet_append_other other
  next => exact @configGet_update_other sectionName key (call.sectionName, call.key) other _ cfg

theorem get_set_same {call : SetCall} (fitted : Fitted call) {cfg : KerchunkConfig}
    (room : configGet cfg call.sectionName call.key = none → cfg.length < maxEntries) :
    configGet (applySet cfg call) call.sectionName call.key = some (storedValue call.value) := by
  rw [applySet_eq fitted]
  split
  next missing =>
    rw [if_neg (Nat.not_le.mpr (room missing))]
    have noneBefore : cfg.find? (fun e => e.sectionName = call.sectionName ∧ e.key = call.key) =
        none := Option.map_eq_none_iff.mp missing
    rw [configGet, List.find?_append, noneBefore, Option.none_or]
    simp [newEntry]
  next present => exact configGet_update_same _ present

/-! ## Setting several keys -/

def missing (cfg : KerchunkConfig) (calls : List SetCall) : List SetCall :=
  -- The calls whose keys are not there yet.
  calls.filter fun call => configGet cfg call.sectionName call.key = none

theorem get_sets_other {calls : List SetCall} (fitted : ∀ call ∈ calls, Fitted call)
    {sectionName key : Text}
    (others : ∀ call ∈ calls, ¬ (call.sectionName = sectionName ∧ call.key = key))
    (cfg : KerchunkConfig) :
    configGet (calls.foldl applySet cfg) sectionName key = configGet cfg sectionName key := by
  induction calls generalizing cfg with
  | nil => rfl
  | cons call rest ih =>
    rw [List.foldl_cons, ih (fun c member => fitted c (List.mem_cons_of_mem _ member))
      (fun c member => others c (List.mem_cons_of_mem _ member))]
    exact get_set_other (fitted call (List.mem_cons_self ..)) (others call (List.mem_cons_self ..)) cfg

theorem set_length {call : SetCall} (fitted : Fitted call) (cfg : KerchunkConfig) :
    (applySet cfg call).length ≤ cfg.length + (missing cfg [call]).length := by
  rw [applySet_eq fitted]
  by_cases absent : configGet cfg call.sectionName call.key = none
  next =>
    simp only [missing, absent, if_true, List.filter_cons, decide_true, List.filter_nil,
      List.length_cons, List.length_nil]
    split
    next => omega
    next => rw [List.length_append, List.length_singleton]
  next => simp [absent, updateFirst_length]

theorem missing_set {call : SetCall} (fitted : Fitted call) {calls : List SetCall}
    (others : ∀ c ∈ calls, ¬ (call.sectionName = c.sectionName ∧ call.key = c.key))
    (cfg : KerchunkConfig) : missing (applySet cfg call) calls = missing cfg calls := by
  apply List.filter_congr
  intro c member
  rw [get_set_other fitted (others c member)]

theorem get_sets {calls : List SetCall} (fitted : ∀ call ∈ calls, Fitted call)
    (distinct : calls.Pairwise fun a b => ¬ (a.sectionName = b.sectionName ∧ a.key = b.key))
    {cfg : KerchunkConfig} (room : cfg.length + (missing cfg calls).length ≤ maxEntries) :
    ∀ call ∈ calls,
      configGet (calls.foldl applySet cfg) call.sectionName call.key =
        some (storedValue call.value) := by
  -- Keys that differ and fit are all found with their values.
  induction calls generalizing cfg with
  | nil => exact fun _ member => absurd member List.not_mem_nil
  | cons first rest ih =>
    obtain ⟨others, distinct⟩ := List.pairwise_cons.mp distinct
    have firstFits := fitted first (List.mem_cons_self ..)
    have restFit := fun call member => fitted call (List.mem_cons_of_mem first member)
    have split : (missing cfg (first :: rest)).length =
        (missing cfg [first]).length + (missing cfg rest).length := by
      rw [← List.length_append]
      simp only [missing, ← List.filter_append, List.singleton_append]
    have grown := set_length firstFits cfg
    intro call member
    rw [List.foldl_cons]
    rcases List.mem_cons.mp member with rfl | later
    next =>
      rw [get_sets_other restFit fun c isLater same => others c isLater ⟨same.1.symm, same.2.symm⟩]
      refine get_set_same firstFits fun absent => ?_
      have counted : (missing cfg [call]).length = 1 := by simp [missing, absent]
      omega
    next =>
      refine ih restFit distinct ?_ call later
      rw [missing_set firstFits others]
      omega

/-! ## Entries that setting leaves -/

theorem entry_set {call : SetCall} (fitted : Fitted call) {cfg : KerchunkConfig} {e : ConfigEntry}
    (member : e ∈ applySet cfg call) :
    (∃ old ∈ cfg, e.sectionName = old.sectionName ∧ e.key = old.key) ∨
      e.sectionName = call.sectionName ∧ e.key = call.key := by
  rw [applySet_eq fitted] at member
  split at member
  next =>
    split at member
    next => exact .inl ⟨e, member, rfl, rfl⟩
    next =>
      rcases List.mem_append.mp member with old | new
      next => exact .inl ⟨e, old, rfl, rfl⟩
      next =>
        rw [List.mem_singleton.mp new]
        exact .inr ⟨rfl, rfl⟩
  next =>
    rcases mem_updateFirst member with old | ⟨old, present, rfl⟩
    next => exact .inl ⟨e, old, rfl, rfl⟩
    next => exact .inl ⟨old, present, rfl, rfl⟩

theorem names_sets {P : Text → Text → Prop} {calls : List SetCall}
    (fitted : ∀ call ∈ calls, Fitted call) (set : ∀ call ∈ calls, P call.sectionName call.key)
    {cfg : KerchunkConfig} (all : ∀ e ∈ cfg, P e.sectionName e.key) :
    ∀ e ∈ calls.foldl applySet cfg, P e.sectionName e.key := by
  -- What holds of the names of all entries and of all calls holds of the names afterwards.
  induction calls generalizing cfg with
  | nil => exact all
  | cons call rest ih =>
    refine ih (fun c member => fitted c (List.mem_cons_of_mem _ member))
      (fun c member => set c (List.mem_cons_of_mem _ member)) fun e member => ?_
    rcases entry_set (fitted call (List.mem_cons_self ..)) member with
      ⟨old, present, sameSection, sameKey⟩ | ⟨sameSection, sameKey⟩
    next =>
      rw [sameSection, sameKey]
      exact all old present
    next =>
      rw [sameSection, sameKey]
      exact set call (List.mem_cons_self ..)

/-! ## After a save -/

def Tidy (sectionName : Text) (cfg : KerchunkConfig) : Prop :=
  -- No key of the section changes when its line is read.
  ∀ e ∈ cfg, e.sectionName = sectionName → trim e.key = e.key

theorem configGet_group (cfg : KerchunkConfig) (sectionName key : Text) :
    configGet cfg sectionName key =
      ((sectionEntries cfg sectionName).find? fun e => e.key = key).map ConfigEntry.value := by
  unfold configGet sectionEntries Grouping.group
  rw [List.find?_filter]
  congr 2
  funext e
  simp [Bool.decide_and]

theorem sectionEntries_saved (cfg : KerchunkConfig) (sectionName : Text) :
    sectionEntries ((Grouping.grouped ConfigEntry.sectionName cfg).map reread) sectionName =
      (sectionEntries cfg sectionName).map reread := by
  have keep (e : ConfigEntry) : (reread e).sectionName = e.sectionName := rfl
  rw [sectionEntries, Grouping.group_map keep, Grouping.group_regrouped]

theorem configGet_saved {cfg : KerchunkConfig} {sectionName key value : Text}
    (tidy : Tidy sectionName cfg) (found : configGet cfg sectionName key = some value)
    (plain : PlainValue value) :
    configGet ((Grouping.grouped ConfigEntry.sectionName cfg).map reread) sectionName key =
      some value := by
  rw [configGet_group] at found ⊢
  rw [sectionEntries_saved, List.find?_map]
  have same : (sectionEntries cfg sectionName).find? ((fun e => decide (e.key = key)) ∘ reread) =
      (sectionEntries cfg sectionName).find? fun e => e.key = key := by
    have keys : ∀ e ∈ sectionEntries cfg sectionName, (reread e).key = e.key := fun e member =>
      tidy e (Grouping.mem_group.mp member).1 (Grouping.mem_group.mp member).2
    generalize sectionEntries cfg sectionName = entries at keys
    induction entries with
    | nil => rfl
    | cons e rest ih =>
      rw [List.find?_cons, List.find?_cons, Function.comp_apply, keys e (List.mem_cons_self ..),
        ih fun e member => keys e (List.mem_cons_of_mem _ member)]
  obtain ⟨e, isFirst, rfl⟩ := Option.map_eq_some_iff.mp found
  rw [same, isFirst]
  simp only [Option.map_some, reread, (stripComment_same_iff _).mpr plain]

theorem tidy_saved (sectionName : Text) (cfg : KerchunkConfig) :
    Tidy sectionName ((Grouping.grouped ConfigEntry.sectionName cfg).map reread) := by
  intro e member _
  obtain ⟨old, _, rfl⟩ := List.mem_map.mp member
  exact Trim.trim_trim old.key

end Kerchunk.Config
