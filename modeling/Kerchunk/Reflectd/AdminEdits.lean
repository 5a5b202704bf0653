import Kerchunk.Reflectd.Admin

set_option autoImplicit false

/-!
# Whether admin edits stay

What the file says of an object is compared as the loader reads it: the key in either case, and the
default talkgroup among the allowed ones.
-/

namespace Kerchunk.Reflectd.Admin

open Machine (Guarded run)

/-! ## What a section says -/

def NodeSection.values (n : NodeSection) : Option String × Int × Bool :=
  (n.presharedKeyHex.map lowerHex, n.defaultTg % 65536, n.banned)

def NodeSection.Allows (n : NodeSection) (tg : Int) : Prop :=
  tg ∈ n.allowedTgs ∨ tg = n.defaultTg % 65536

instance (n : NodeSection) (tg : Int) : Decidable (n.Allows tg) :=
  inferInstanceAs (Decidable (_ ∨ _))

def NodeRecord.toSection (n : NodeRecord) : NodeSection where
  presharedKeyHex := some n.psk
  allowedTgs := n.allowedTgs.map Int.ofNat
  defaultTg := n.defaultTg
  banned := n.banned

def SectionKept (granted : Int → Prop) : Option NodeSection → Option NodeSection → Prop
  -- The section is there as before, but that granted talkgroups may have been added.
  | none, none => True
  | some before, some after => after.values = before.values ∧
      (∀ tg, before.Allows tg → after.Allows tg) ∧
      ∀ tg, after.Allows tg → before.Allows tg ∨ granted tg
  | _, _ => False

theorem sectionKept_refl (granted : Int → Prop) (n : Option NodeSection) :
    SectionKept granted n n := by
  cases n with
  | none => trivial
  | some n => exact ⟨rfl, fun _ => id, fun _ => Or.inl⟩

theorem SectionKept.trans {first second : Int → Prop} {a b c : Option NodeSection}
    (one : SectionKept first a b) (two : SectionKept second b c) :
    SectionKept (fun tg => first tg ∨ second tg) a c := by
  cases a <;> cases b <;> cases c <;> try exact one.elim
  next => trivial
  next => exact two.elim
  next => exact two.elim
  next a b c =>
    obtain ⟨values, kept, fresh⟩ := one
    obtain ⟨values', kept', fresh'⟩ := two
    refine ⟨values'.trans values, fun tg allows => kept' tg (kept tg allows), fun tg allows => ?_⟩
    rcases fresh' tg allows with old | new
    next => exact (fresh tg old).imp_right Or.inl
    next => exact Or.inr (Or.inr new)

/-! ## What a request is for -/

def Input.setsNode (i : Input) (id : String) : Option (Option NodeSection) :=
  -- The section that an accepted request gives the node; `some none` when it deletes it.
  match i with
  | .request (.nodeSave b) writes =>
    match nodeCheck b with
    | .ok (saved, n) => if writes 0 ∧ saved = id then some (some n) else none
    | .error _ => none
  | .request (.nodeDelete deleted) writes =>
    match nodeIdCheck deleted with
    | .ok deleted => if writes 0 ∧ deleted = id then some none else none
    | .error _ => none
  | _ => none

def Input.setsTg (i : Input) (suffix : String) : Option (Option TgSection) :=
  match i with
  | .request (.tgSave b) writes =>
    match tgCheck b with
    | .ok t => if writes 0 ∧ tgSuffix t.number = suffix then some (some t) else none
    | .error _ => none
  | .request (.tgDelete tg) writes =>
    match tgNumberCheck tg with
    | .ok tg => if writes 0 ∧ tgSuffix tg = suffix then some none else none
    | .error _ => none
  | _ => none

def Input.Grants (i : Input) (id : String) (tg : Int) : Prop :=
  -- An accepted save of the talkgroup lists the node.
  ∃ b writes t, i = .request (.tgSave b) writes ∧ tgCheck b = .ok t ∧ writes 0 = true ∧
    t.number = tg ∧ id ∈ t.nodes

def lastNode (id : String) (start : Option NodeSection) (inputs : List Input) : Option NodeSection :=
  inputs.foldl (fun last i => (i.setsNode id).getD last) start

def lastTg (suffix : String) (start : Option TgSection) (inputs : List Input) : Option TgSection :=
  inputs.foldl (fun last i => (i.setsTg suffix).getD last) start

def granted (id : String) (start : Int → Prop) (inputs : List Input) : Int → Prop :=
  -- The talkgroups granted since the node was last set.
  inputs.foldl (fun before i tg => (i.setsNode id = none ∧ before tg) ∨ i.Grants id tg) start

/-- Each node and talkgroup is as the last accepted request about it left it. -/
structure Reflects (start final : IniFile) (inputs : List Input) : Prop where
  nodes : ∀ id, SectionKept (granted id (fun _ => False) inputs)
    (lastNode id (start.nodes.lookup id) inputs) (final.nodes.lookup id)
  talkgroups : ∀ suffix,
    final.talkgroups.lookup suffix = lastTg suffix (start.talkgroups.lookup suffix) inputs

def Keeps (s : State) (i : Input) : Prop :=
  -- The step changes no node that its request is not about, but for the talkgroup it grants.
  ∀ id, i.setsNode id = none →
    SectionKept (i.Grants id) (s.file.nodes.lookup id) ((step s i).file.nodes.lookup id)

/-! ## When the roster is up to date -/

def Fits (size : Nat) (items : List String) : Prop :=
  -- The text of a list fits its buffer; a longer one runs past the end of it.
  (", ".intercalate items).length < size

def Current (file : Option NodeSection) (n : NodeRecord) (tg : Int) : Prop :=
  -- The file says of the node what the roster says, the talkgroup apart.
  ∃ f, file = some f ∧ f.values = n.toSection.values ∧
    ∀ other, other ≠ tg → (f.Allows other ↔ n.toSection.Allows other)

/-- At a save of a talkgroup, each member that the roster shows without it is as in the file. The
lists fit their buffers, and an id is not so long that the section's name is cut. -/
def Fresh (s : State) (i : Input) : Prop :=
  match i with
  | .request (.nodeSave b) _ => Fits 256 (b.allowedTgs.map toString) ∧ (b.id.getD "").length ≤ 58
  | .request (.tgSave b) _ =>
    ∀ t, tgCheck b = .ok t → Fits 1024 t.nodes ∧
      ∀ id ∈ t.nodes, ∀ n, s.cfg.node id = some n → t.number.toNat ∉ n.allowedTgs →
        Current (s.file.nodes.lookup id) n t.number
  | _ => True

/-! ## Steps -/

theorem extendMembers_lookup (cfg : Roster) (tg : Int) (writes : Nat → Bool) (members : List String)
    (file : IniFile) (id : String) :
    (extendMembers cfg tg writes members file).nodes.lookup id = file.nodes.lookup id ∨
      ∃ n, cfg.node id = some n ∧ tg.toNat ∉ n.allowedTgs ∧ id ∈ members ∧
        (extendMembers cfg tg writes members file).nodes.lookup id = some (n.withTg tg) := by
  -- A member's section is the old one, or what the roster has with the talkgroup added.
  induction members generalizing writes file with
  | nil => exact Or.inl rfl
  | cons member rest ih =>
    rcases ih (fun i => writes (i + 1)) (extendNodeAllowedTgs cfg member tg (writes 0) file) with
      same | ⟨n, known, lacks, listed, written⟩
    next =>
      unfold extendMembers
      rw [same]
      unfold extendNodeAllowedTgs
      cases known : cfg.node member with
      | none => exact Or.inl rfl
      | some n =>
        by_cases lists : tg.toNat ∈ n.allowedTgs
        next => exact Or.inl (by simp only [lists, if_true])
        by_cases written : writes 0 = true
        next =>
          simp only [lists, written, if_false, if_true]
          by_cases here : id = member
          next =>
            subst here
            exact Or.inr ⟨n, known, lists, List.mem_cons_self .., AList.lookup_insert _⟩
          next => exact Or.inl (AList.lookup_insert_ne here)
        next => exact Or.inl (by simp only [lists, written, if_false]; rfl)
    next => exact Or.inr ⟨n, known, lacks, List.mem_cons_of_mem _ listed, written⟩

theorem extendMembers_talkgroups (cfg : Roster) (tg : Int) (writes : Nat → Bool)
    (members : List String) (file : IniFile) :
    (extendMembers cfg tg writes members file).talkgroups = file.talkgroups := by
  induction members generalizing writes file with
  | nil => rfl
  | cons member rest ih =>
    rw [extendMembers, ih]
    unfold extendNodeAllowedTgs
    split
    next => rfl
    next =>
      split
      next => rfl
      next => split <;> rfl

theorem withTg_kept {file : Option NodeSection} {n : NodeRecord} {tg : Int}
    (current : Current file n tg) {granted : Int → Prop} (grants : granted tg) :
    SectionKept granted file (some (n.withTg tg)) := by
  obtain ⟨f, rfl, values, allows⟩ := current
  have added : ∀ other, (n.withTg tg).Allows other ↔ n.toSection.Allows other ∨ other = tg := by
    intro other
    simp only [NodeSection.Allows, NodeRecord.withTg, NodeRecord.toSection, List.mem_append,
      List.mem_singleton]
    tauto
  refine ⟨values.symm, fun other allowed => ?_, fun other allowed => ?_⟩
  next =>
    rw [added]
    by_cases same : other = tg
    next => exact Or.inr same
    next => exact Or.inl ((allows other same).mp allowed)
  next =>
    by_cases same : other = tg
    next => exact Or.inr (same ▸ grants)
    next => exact Or.inl ((allows other same).mpr (((added other).mp allowed).resolve_right same))

theorem doReload_file (s : State) (readable : Bool) : (doReload s readable).file = s.file := by
  unfold doReload
  split <;> rfl

theorem turn_file (s : State) (readable : Bool) : (step s (.turn readable)).file = s.file := by
  unfold step
  simp only
  split
  next => exact doReload_file _ readable
  next => rfl

theorem keeps_nodeSave (s : State) (b : NodeBody) (writes : Nat → Bool) :
    Keeps s (.request (.nodeSave b) writes) := by
  intro id other
  simp only [step, serve, adminNodeSave, Input.setsNode] at other ⊢
  cases checked : nodeCheck b with
  | error e => exact sectionKept_refl _ _
  | ok saved =>
    simp only [checked] at other ⊢
    by_cases written : writes 0 = true
    next =>
      have elsewhere : id ≠ saved.1 := by
        rintro rfl
        simp [written] at other
      simp only [written, if_true, AList.lookup_insert_ne elsewhere]
      exact sectionKept_refl _ _
    next =>
      simp only [written]
      exact sectionKept_refl _ _

theorem keeps_nodeDelete (s : State) (deleted : Option String) (writes : Nat → Bool) :
    Keeps s (.request (.nodeDelete deleted) writes) := by
  intro id other
  simp only [step, serve, adminNodeDelete, Input.setsNode] at other ⊢
  cases checked : nodeIdCheck deleted with
  | error e => exact sectionKept_refl _ _
  | ok deleted =>
    simp only [checked] at other ⊢
    by_cases written : writes 0 = true
    next =>
      have elsewhere : id ≠ deleted := by
        rintro rfl
        simp [written] at other
      simp only [written, if_true, AList.lookup_erase_ne elsewhere]
      exact sectionKept_refl _ _
    next =>
      simp only [written]
      exact sectionKept_refl _ _

theorem keeps_tgSave {s : State} {b : TgBody} {writes : Nat → Bool}
    (fresh : Fresh s (.request (.tgSave b) writes)) : Keeps s (.request (.tgSave b) writes) := by
  -- A node is changed only when the talkgroup lists it and it lacks the talkgroup.
  intro id other
  simp only [step, serve, adminTgSave]
  cases checked : tgCheck b with
  | error e => exact sectionKept_refl _ _
  | ok t =>
    by_cases written : writes 0 = true
    next =>
      simp only [written, if_true]
      rcases extendMembers_lookup s.cfg t.number (fun i => writes (i + 1)) t.nodes
        { s.file with talkgroups := s.file.talkgroups.insert (tgSuffix t.number) t } id with
        same | ⟨n, known, lacks, listed, extended⟩
      next =>
        rw [same]
        exact sectionKept_refl _ _
      next =>
        rw [extended]
        exact withTg_kept ((fresh t checked).2 id listed n known lacks)
          ⟨b, writes, t, rfl, checked, written, rfl, listed⟩
    next =>
      simp only [written]
      exact sectionKept_refl _ _

theorem keeps_tgDelete (s : State) (tg : Option Int) (writes : Nat → Bool) :
    Keeps s (.request (.tgDelete tg) writes) := by
  intro id other
  simp only [step, serve, adminTgDelete]
  cases tgNumberCheck tg with
  | error e => exact sectionKept_refl _ _
  | ok tg =>
    by_cases written : writes 0 = true <;> simp only [written] <;>
      exact sectionKept_refl _ _

theorem keeps_step {s : State} {i : Input} (fresh : Fresh s i) : Keeps s i := by
  cases i with
  | sighup => exact fun id _ => sectionKept_refl _ _
  | turn readable =>
    intro id _
    rw [turn_file]
    exact sectionKept_refl _ _
  | request r writes =>
    cases r with
    | nodeSave b => exact keeps_nodeSave s b writes
    | nodeDelete deleted => exact keeps_nodeDelete s deleted writes
    | tgSave b => exact keeps_tgSave fresh
    | tgDelete tg => exact keeps_tgDelete s tg writes

theorem sets_step (s : State) {i : Input} {id : String} {n : Option NodeSection}
    (sets : i.setsNode id = some n) : (step s i).file.nodes.lookup id = n := by
  cases i with
  | sighup | turn => cases sets
  | request r writes =>
    cases r with
    | tgSave | tgDelete => cases sets
    | nodeSave b =>
      simp only [Input.setsNode, step, serve, adminNodeSave] at sets ⊢
      cases checked : nodeCheck b with
      | error e => simp [checked] at sets
      | ok saved =>
        simp only [checked, Option.ite_none_right_eq_some, Option.some.injEq] at sets ⊢
        obtain ⟨⟨written, rfl⟩, rfl⟩ := sets
        rw [if_pos written]
        exact AList.lookup_insert _
    | nodeDelete deleted =>
      simp only [Input.setsNode, step, serve, adminNodeDelete] at sets ⊢
      cases checked : nodeIdCheck deleted with
      | error e => simp [checked] at sets
      | ok deleted =>
        simp only [checked, Option.ite_none_right_eq_some, Option.some.injEq] at sets ⊢
        obtain ⟨⟨written, rfl⟩, rfl⟩ := sets
        rw [if_pos written]
        exact AList.lookup_erase _ _

theorem talkgroup_step (s : State) (i : Input) (suffix : String) :
    (step s i).file.talkgroups.lookup suffix =
      (i.setsTg suffix).getD (s.file.talkgroups.lookup suffix) := by
  cases i with
  | sighup => rfl
  | turn readable =>
    rw [turn_file]
    rfl
  | request r writes =>
    cases r with
    | nodeSave b =>
      simp only [step, serve, adminNodeSave, Input.setsTg]
      split
      next => rfl
      next => split <;> rfl
    | nodeDelete id =>
      simp only [step, serve, adminNodeDelete, Input.setsTg]
      split
      next => rfl
      next => split <;> rfl
    | tgSave b =>
      simp only [step, serve, adminTgSave, Input.setsTg]
      cases tgCheck b with
      | error e => rfl
      | ok t =>
        by_cases written : writes 0 = true
        next =>
          simp only [written, if_true, true_and, extendMembers_talkgroups]
          by_cases here : tgSuffix t.number = suffix
          next =>
            subst here
            simp [AList.lookup_insert]
          next => simp [AList.lookup_insert_ne (Ne.symm here), here]
        next => simp [written]
    | tgDelete tg =>
      simp only [step, serve, adminTgDelete, Input.setsTg]
      cases tgNumberCheck tg with
      | error e => rfl
      | ok tg =>
        by_cases written : writes 0 = true
        next =>
          simp only [written, if_true, true_and]
          by_cases here : tgSuffix tg = suffix
          next =>
            subst here
            simp [AList.lookup_erase]
          next => simp [AList.lookup_erase_ne (Ne.symm here), here]
        next => simp [written]

/-! ## Runs -/

theorem nodes_run {s : State} {inputs : List Input} (fresh : Guarded step Fresh s inputs)
    {id : String} {last : Option NodeSection} {before : Int → Prop}
    (kept : SectionKept before last (s.file.nodes.lookup id)) :
    SectionKept (granted id before inputs) (lastNode id last inputs)
      ((run step s inputs).file.nodes.lookup id) := by
  induction inputs generalizing s last before with
  | nil => exact kept
  | cons i rest ih =>
    have now : SectionKept (fun tg => (i.setsNode id = none ∧ before tg) ∨ i.Grants id tg)
        ((i.setsNode id).getD last) ((step s i).file.nodes.lookup id) := by
      cases sets : i.setsNode id with
      | some n =>
        rw [sets_step s sets]
        exact sectionKept_refl _ n
      | none =>
        simp only [true_and, Option.getD_none]
        exact kept.trans (keeps_step fresh.1 id sets)
    exact ih fresh.2 now

theorem talkgroups_run (s : State) (inputs : List Input) (suffix : String) :
    (run step s inputs).file.talkgroups.lookup suffix =
      lastTg suffix (s.file.talkgroups.lookup suffix) inputs := by
  induction inputs generalizing s with
  | nil => rfl
  | cons i rest ih =>
    rw [Machine.run_cons, ih, talkgroup_step]
    rfl

/-- Where each talkgroup is saved from an up-to-date roster, no edit is lost, whatever reloads come
between. -/
theorem edits_stay_when_fresh (s : State) (inputs : List Input)
    (fresh : Guarded step Fresh s inputs) :
    Guarded step Keeps s inputs ∧ Reflects s.file (run step s inputs).file inputs := by
  refine ⟨?_, fun id => nodes_run fresh (sectionKept_refl _ _), talkgroups_run s inputs⟩
  induction inputs generalizing s with
  | nil => trivial
  | cons i rest ih => exact ⟨keeps_step fresh.1, ih (step s i) fresh.2⟩

/-! ## A ban that is lifted by a talkgroup -/

def key : String := String.ofList (List.replicate 64 'a')

def member (banned : Bool) : NodeBody where
  id := some "A"
  presharedKeyHex := some key
  allowedTgs := []
  defaultTg := 1
  banned := banned

def oneNode : State where
  -- Node A is allowed on talkgroup 1, in the file and in the roster.
  file :=
    { nodes := AList.singleton "A"
        { presharedKeyHex := some key, allowedTgs := [1], defaultTg := 1, banned := false }
      talkgroups := AList.singleton "1" { number := 1, name := "One", nodes := ["A"] }
      globals := true }
  cfg := { node := fun id =>
    if id = "A" then some { psk := key, allowedTgs := [1], defaultTg := 1, banned := false } else none }
  reload := false

def saveTwo : Request :=
  .tgSave { tg := 2, name := some "Two", nodes := [some "A"] }

/-- A is banned and put on a second talkgroup after the reload. -/
theorem banned_after_reload :
    Guarded step Keeps oneNode [.request (.nodeSave (member true)) (fun _ => true), .turn true,
      .request saveTwo fun _ => true] ∧
    Reflects oneNode.file
      (run step oneNode [.request (.nodeSave (member true)) (fun _ => true), .turn true,
        .request saveTwo fun _ => true]).file
      [.request (.nodeSave (member true)) (fun _ => true), .turn true,
        .request saveTwo fun _ => true] := by
  refine edits_stay_when_fresh _ _ ⟨⟨by unfold Fits; decide, by decide⟩, trivial, ?_, trivial⟩
  have checked : tgCheck { tg := 2, name := some "Two", nodes := [some "A"] } =
      .ok { number := 2, name := "Two", nodes := ["A"] } := by decide
  have roster : (run step oneNode
      [.request (.nodeSave (member true)) (fun _ => true), .turn true]).cfg.node "A" =
        some { psk := key, allowedTgs := [1], defaultTg := 1, banned := true } := by decide
  intro t ok
  obtain rfl := Except.ok.inj (ok.symm.trans checked)
  refine ⟨by unfold Fits; decide, fun id listed n known _ => ?_⟩
  obtain rfl : id = "A" := by simpa using listed
  obtain rfl := Option.some.inj (known.symm.trans roster)
  exact ⟨{ presharedKeyHex := some key, allowedTgs := [1], defaultTg := 1, banned := true },
    by decide, by decide, fun _ _ => Iff.rfl⟩

/-- Before the reload the roster still has A without the ban, and the save writes that back. -/
theorem ban_lost_before_reload :
    ¬ Reflects oneNode.file
      (run step oneNode [.request (.nodeSave (member true)) (fun _ => true),
        .request saveTwo fun _ => true]).file
      [.request (.nodeSave (member true)) (fun _ => true), .request saveTwo fun _ => true] := by
  intro reflects
  have kept := reflects.nodes "A"
  have last : lastNode "A" (oneNode.file.nodes.lookup "A")
      [.request (.nodeSave (member true)) (fun _ => true), .request saveTwo fun _ => true] =
        some { presharedKeyHex := some key, allowedTgs := [1], defaultTg := 1, banned := true } := by
    decide
  have final : (run step oneNode [.request (.nodeSave (member true)) (fun _ => true),
      .request saveTwo fun _ => true]).file.nodes.lookup "A" =
        some { presharedKeyHex := some key, allowedTgs := [1, 2], defaultTg := 1, banned := false } := by
    decide
  rw [last, final] at kept
  exact absurd kept.1 (by decide)

end Kerchunk.Reflectd.Admin
