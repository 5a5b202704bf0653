import Kerchunk.Core.Registry
import Kerchunk.Lib.Machine
import Mathlib.Data.List.Nodup

set_option autoImplicit false

/-!
# Calls into unloaded modules
-/

namespace Kerchunk.Core.Registry

def IsEvent (source : Source) : Prop :=
  source ≠ .capture ∧ source ≠ .playback

/-- What a step calls is loaded and still registered, and a dispatch that ends has called each
handler of the event once and those registered throughout in their order. -/
def Sane (s : System) : Input → Prop
  | .visit i => ∀ e ∈ s.timers.due i, Live s e.callback
  | .next thread =>
    match s.frames thread with
    | [] => True
    | f :: _ =>
      match f.left with
      | [] => IsEvent f.source → f.called.Nodup ∧ f.kept.Sublist f.called
      | fn :: _ => Live s fn ∧ fn ∈ s.registered f.source
  | _ => True

instance (source : Source) : Decidable (IsEvent source) :=
  inferInstanceAs (Decidable (_ ∧ _))

instance (s : System) : (i : Input) → Decidable (Sane s i)
  | .visit i => inferInstanceAs (Decidable (∀ e ∈ s.timers.due i, Live s e.callback))
  | .next thread =>
    match h : s.frames thread with
    | [] => .isTrue (by simp [Sane, h])
    | f :: _ =>
      match left : f.left with
      | [] =>
        decidable_of_iff (IsEvent f.source → f.called.Nodup ∧ f.kept.Sublist f.called)
          (by simp [Sane, h, left])
      | fn :: _ =>
        decidable_of_iff (Live s fn ∧ fn ∈ s.registered f.source) (by simp [Sane, h, left])
  | .load _ _ _ | .unload _ | .register _ _ | .unregister _ _ | .timerSet _ _ _ | .timerCancel _
  | .elapse _ | .tick | .fire _ _ => .isTrue trivial

/-- Nothing of the module that was mapped there can be called any more. -/
structure Gone (s : System) (name : String) (image : Nat) : Prop where
  registered : ∀ source, ∀ fn ∈ s.registered source, fn.moduleName = name → fn.image ≠ image
  timers : ∀ e, s.timers.Holds e → e.callback.moduleName = name → e.callback.image ≠ image
  pending : ∀ thread, ∀ f ∈ s.frames thread, ∀ fn ∈ f.left, fn.moduleName = name →
    fn.image ≠ image

section Step

variable (defs : String → ModuleDef)

/-- A module that is not there after a load or an unload has left nothing behind, and no handler is
removed that a dispatch in progress is yet to call. -/
def Clean (s : System) : Input → Prop
  | .load name image succeeds =>
    ¬ Live (moduleLoad defs s name image succeeds) ⟨name, image, ""⟩ →
      Gone (moduleLoad defs s name image succeeds) name image
  | .unload name => ∀ image, Live s ⟨name, image, ""⟩ → Gone (moduleUnload defs s name) name image
  | .unregister source fn =>
    ∀ thread, ∀ f ∈ s.frames thread, f.source = source → fn ∈ f.left →
      fn ∈ (unregister s source fn).registered source
  | _ => True

end Step

structure Sound (s : System) : Prop where
  names : (s.modules.map Prod.fst).Nodup
  registered : ∀ source, ∀ fn ∈ s.registered source, Live s fn
  timers : ∀ e, s.timers.Holds e → Live s e.callback
  pending : ∀ thread, ∀ f ∈ s.frames thread, ∀ fn ∈ f.left, fn ∈ s.registered f.source
  distinct : ∀ source, IsEvent source → (s.registered source).Nodup
  ordered : ∀ thread, ∀ f ∈ s.frames thread, IsEvent f.source →
    (f.called ++ f.left).Nodup ∧ f.kept.Sublist (f.called ++ f.left)

variable {s : System}

theorem init_sound : Sound init where
  names := List.nodup_nil
  registered := by simp [init]
  timers := by simp [init]
  pending := by simp [init]
  distinct := by simp [init]
  ordered := by simp [init]

theorem Sound.sane (sound : Sound s) (i : Input) : Sane s i := by
  cases i with
  | visit i => exact fun e found => sound.timers e (TimerTable.due_holds found)
  | next thread =>
    simp only [Sane]
    split
    next => trivial
    next f outer top =>
      have member : f ∈ s.frames thread := by simp [top]
      split
      next done =>
        intro event
        simpa [done] using sound.ordered thread f member event
      next fn left more =>
        have listed := sound.pending thread f member fn (by simp [more])
        exact ⟨sound.registered f.source fn listed, listed⟩
  | _ => trivial

/-! ## Registering -/

theorem register_mem {source other : Source} {fn g : Fn}
    (listed : g ∈ (register s source fn).registered other) :
    g ∈ s.registered other ∨ (other = source ∧ g = fn) := by
  unfold register at listed
  split at listed
  next => exact Or.inl listed
  next =>
    by_cases same : other = source
    next =>
      subst same
      simpa using listed
    next => exact Or.inl (by simpa [same] using listed)

theorem register_keeps {source other : Source} {fn g : Fn} (listed : g ∈ s.registered other) :
    g ∈ (register s source fn).registered other := by
  unfold register
  split
  next => exact listed
  next =>
    by_cases same : other = source
    next =>
      subst same
      simp [listed]
    next => simpa [same] using listed

theorem register_distinct {source other : Source} {fn : Fn} (event : IsEvent other)
    (distinct : (s.registered other).Nodup) :
    ((register s source fn).registered other).Nodup := by
  unfold register
  split
  next => exact distinct
  next accepted =>
    by_cases same : other = source
    next =>
      subst same
      have fresh : fn ∉ s.registered other := by
        cases other with
        | event e =>
          intro listed
          simp [refuses, listed] at accepted
        | capture => exact absurd rfl event.1
        | playback => exact absurd rfl event.2
      simp only [Function.update_self, List.nodup_append, distinct, true_and]
      simpa using fun g listed => ne_of_mem_of_not_mem listed fresh
    next => simpa [same] using distinct

@[simp] theorem register_frames (source : Source) (fn : Fn) :
    (register s source fn).frames = s.frames := by
  unfold register
  split <;> rfl

@[simp] theorem register_modules (source : Source) (fn : Fn) :
    (register s source fn).modules = s.modules := by
  unfold register
  split <;> rfl

@[simp] theorem register_timers (source : Source) (fn : Fn) :
    (register s source fn).timers = s.timers := by
  unfold register
  split <;> rfl

/-- What `load` may have done so far. -/
structure Grown (name : String) (image : Nat) (s t : System) : Prop where
  modules : t.modules = s.modules
  frames : t.frames = s.frames
  added : ∀ source, ∀ fn ∈ t.registered source,
    fn ∈ s.registered source ∨ (fn.moduleName = name ∧ fn.image = image)
  kept : ∀ source, ∀ fn ∈ s.registered source, fn ∈ t.registered source
  distinct : ∀ source, IsEvent source → (s.registered source).Nodup →
    (t.registered source).Nodup
  timers : ∀ e, t.timers.Holds e →
    s.timers.Holds e ∨ (e.callback.moduleName = name ∧ e.callback.image = image)

/-- What `unload` may have done so far. -/
structure Shrunk (name : String) (image : Nat) (s t : System) : Prop where
  modules : t.modules = s.modules
  frames : t.frames = s.frames
  removed : ∀ source, ∀ fn ∈ t.registered source, fn ∈ s.registered source
  kept : ∀ source, ∀ fn ∈ s.registered source, (fn.moduleName = name → fn.image ≠ image) →
    fn ∈ t.registered source
  distinct : ∀ source, (s.registered source).Nodup → (t.registered source).Nodup
  timers : ∀ e, t.timers.Holds e → s.timers.Holds e

section Image

variable {name : String} {image : Nat}

theorem Grown.refl (s : System) : Grown name image s s where
  modules := rfl
  frames := rfl
  added _ _ listed := Or.inl listed
  kept _ _ listed := listed
  distinct _ _ nodup := nodup
  timers _ held := Or.inl held

theorem Grown.trans {t u : System} (first : Grown name image s t) (second : Grown name image t u) :
    Grown name image s u where
  modules := second.modules.trans first.modules
  frames := second.frames.trans first.frames
  added source fn listed := (second.added source fn listed).elim (first.added source fn) Or.inr
  kept source fn listed := second.kept source fn (first.kept source fn listed)
  distinct source event nodup := second.distinct source event (first.distinct source event nodup)
  timers e held := (second.timers e held).elim (first.timers e) Or.inr

theorem Shrunk.refl (s : System) : Shrunk name image s s where
  modules := rfl
  frames := rfl
  removed _ _ listed := listed
  kept _ _ listed _ := listed
  distinct _ nodup := nodup
  timers _ held := held

theorem Shrunk.trans {t u : System} (first : Shrunk name image s t)
    (second : Shrunk name image t u) : Shrunk name image s u where
  modules := second.modules.trans first.modules
  frames := second.frames.trans first.frames
  removed source fn listed := first.removed source fn (second.removed source fn listed)
  kept source fn listed other := second.kept source fn (first.kept source fn listed other) other
  distinct source nodup := second.distinct source (first.distinct source nodup)
  timers e held := first.timers e (second.timers e held)

theorem registration_grown (s : System) (r : Registration) :
    Grown name image s (applyRegistration name image s r) := by
  cases r with
  | register source symbol =>
    exact
      { modules := register_modules source _
        frames := register_frames source _
        added := by
          intro other fn listed
          rcases register_mem listed with before | ⟨-, rfl⟩
          next => exact Or.inl before
          next => exact Or.inr ⟨rfl, rfl⟩
        kept := fun _ _ => register_keeps
        distinct := fun _ event nodup => register_distinct event nodup
        timers := by
          intro e held
          simp only [applyRegistration, register_timers] at held
          exact Or.inl held }
  | timer symbol ms repeats =>
    exact
      { modules := rfl
        frames := rfl
        added := fun _ _ listed => Or.inl listed
        kept := fun _ _ listed => listed
        distinct := fun _ _ nodup => nodup
        timers := by
          intro e held
          rcases (TimerTable.create_holds ..).mp held with before | ⟨-, rfl⟩
          next => exact Or.inl before
          next => exact Or.inr ⟨rfl, rfl⟩ }

theorem unregister_mem {source other : Source} {fn g : Fn}
    (listed : g ∈ (unregister s source fn).registered other) : g ∈ s.registered other := by
  by_cases same : other = source
  next =>
    subst same
    simp only [unregister, Function.update_self] at listed
    exact List.mem_of_mem_erase listed
  next => simpa [unregister, same] using listed

theorem unregister_keeps {source other : Source} {fn g : Fn} (listed : g ∈ s.registered other)
    (different : other = source → g ≠ fn) : g ∈ (unregister s source fn).registered other := by
  by_cases same : other = source
  next =>
    subst same
    simpa [unregister] using (List.mem_erase_of_ne (different rfl)).mpr listed
  next => simpa [unregister, same] using listed

theorem unregister_distinct {source other : Source} {fn : Fn}
    (distinct : (s.registered other).Nodup) :
    ((unregister s source fn).registered other).Nodup := by
  by_cases same : other = source
  next =>
    subst same
    simpa [unregister] using distinct.erase fn
  next => simpa [unregister, same] using distinct

theorem removal_shrunk (s : System) (r : Removal) :
    Shrunk name image s (applyRemoval name image s r) := by
  cases r with
  | unregister source symbol =>
    exact
      { modules := rfl
        frames := rfl
        removed := fun _ _ => unregister_mem
        kept := by
          intro other fn listed theirs
          refine unregister_keeps listed ?_
          rintro - rfl
          exact theirs rfl rfl
        distinct := fun _ => unregister_distinct
        timers := fun _ held => held }
  | cancel symbol =>
    exact
      { modules := rfl
        frames := rfl
        removed := fun _ _ listed => listed
        kept := fun _ _ listed _ => listed
        distinct := fun _ nodup => nodup
        timers := fun e held => ((TimerTable.drop_holds ..).mp held).1 }

theorem load_grown (registrations : List Registration) (s : System) :
    Grown name image s (registrations.foldl (applyRegistration name image) s) := by
  induction registrations generalizing s with
  | nil => exact Grown.refl s
  | cons r rest ih => exact (registration_grown s r).trans (ih _)

theorem unload_shrunk (removals : List Removal) (s : System) :
    Shrunk name image s (removals.foldl (applyRemoval name image) s) := by
  induction removals generalizing s with
  | nil => exact Shrunk.refl s
  | cons r rest ih => exact (removal_shrunk s r).trans (ih _)

/-! ## What an unload must name -/

theorem unregistered_gone {source : Source} {symbol : String} (removals : List Removal)
    {s : System} (named : .unregister source symbol ∈ removals)
    (distinct : (s.registered source).Nodup) :
    ⟨name, image, symbol⟩ ∉ (removals.foldl (applyRemoval name image) s).registered source := by
  induction removals generalizing s with
  | nil => cases named
  | cons r rest ih =>
    rcases List.mem_cons.mp named with rfl | later
    next =>
      intro listed
      have still := (unload_shrunk rest _).removed source _ listed
      simp only [applyRemoval, unregister, Function.update_self] at still
      exact distinct.not_mem_erase still
    next => exact ih later ((removal_shrunk s r).distinct source distinct)

theorem cancelled_gone {symbol : String} (removals : List Removal) {s : System}
    (named : .cancel symbol ∈ removals) {e : TimerEntry Fn}
    (held : (removals.foldl (applyRemoval name image) s).timers.Holds e) :
    e.callback ≠ ⟨name, image, symbol⟩ := by
  induction removals generalizing s with
  | nil => cases named
  | cons r rest ih =>
    rcases List.mem_cons.mp named with rfl | later
    next =>
      have still := (unload_shrunk rest _).timers e held
      simpa using ((TimerTable.drop_holds ..).mp still).2
    next => exact ih later held

/-- The unload names whatever the module has registered, and no dispatch is yet to call it. -/
structure Covered (removals : List Removal) (name : String) (image : Nat) (s : System) : Prop where
  registered : ∀ source, ∀ fn ∈ s.registered source, fn.moduleName = name → fn.image = image →
    .unregister source fn.symbol ∈ removals ∧ (s.registered source).Nodup
  timers : ∀ e, s.timers.Holds e → e.callback.moduleName = name → e.callback.image = image →
    .cancel e.callback.symbol ∈ removals
  pending : ∀ thread, ∀ f ∈ s.frames thread, ∀ fn ∈ f.left, fn.moduleName = name →
    fn.image ≠ image

theorem Covered.gone {removals : List Removal} (covered : Covered removals name image s) :
    Gone (removals.foldl (applyRemoval name image) s) name image := by
  have shrunk : Shrunk name image s _ := unload_shrunk removals s
  constructor
  next =>
    rintro source fn listed rfl rfl
    have before := shrunk.removed source fn listed
    obtain ⟨named, distinct⟩ := covered.registered source fn before rfl rfl
    exact unregistered_gone removals named distinct listed
  next =>
    rintro e held rfl rfl
    have named := covered.timers e (shrunk.timers e held) rfl rfl
    exact cancelled_gone removals named held rfl
  next =>
    rw [shrunk.frames]
    exact covered.pending

end Image

/-! ## What each step keeps -/

theorem settle_sound (sound : Sound s) : Sound (settle s) where
  names := sound.names
  registered := sound.registered
  timers := sound.timers
  pending := by
    intro thread f member fn left
    obtain ⟨g, before, rfl⟩ := List.mem_map.mp member
    exact sound.pending thread g before fn left
  distinct := sound.distinct
  ordered := by
    intro thread f member event
    obtain ⟨g, before, rfl⟩ := List.mem_map.mp member
    have ordered := sound.ordered thread g before event
    exact ⟨ordered.1, List.filter_sublist.trans ordered.2⟩

theorem unsettled {name : String} {image : Nat} (gone : Gone (settle s) name image) :
    Gone s name image where
  registered := gone.registered
  timers := gone.timers
  pending thread f member :=
    gone.pending thread { f with kept := f.kept.filter fun fn => fn ∈ s.registered f.source }
      (List.mem_map.mpr ⟨f, member, rfl⟩)

variable {defs : String → ModuleDef}

theorem load_sound (sound : Sound s) {name : String} {image : Nat} {succeeds : Bool}
    (clean : Clean defs s (.load name image succeeds)) :
    Sound (moduleLoad defs s name image succeeds) := by
  simp only [Clean] at clean
  unfold moduleLoad at clean ⊢
  split
  next => exact sound
  next free =>
    simp only [free, if_false] at clean
    have unnamed : name ∉ s.modules.map Prod.fst := fun listed => free (Or.inl listed)
    have grown : Grown name image s _ := load_grown (defs name).load s
    generalize (defs name).load.foldl (applyRegistration name image) s = done at grown clean ⊢
    have pending : ∀ thread, ∀ f ∈ done.frames thread, ∀ fn ∈ f.left,
        fn ∈ done.registered f.source := by
      intro thread f member fn left
      rw [grown.frames] at member
      exact grown.kept _ _ (sound.pending thread f member fn left)
    have distinct : ∀ source, IsEvent source → (done.registered source).Nodup :=
      fun source event => grown.distinct source event (sound.distinct source event)
    have ordered : ∀ thread, ∀ f ∈ done.frames thread, IsEvent f.source →
        (f.called ++ f.left).Nodup ∧ f.kept.Sublist (f.called ++ f.left) := by
      rw [grown.frames]
      exact sound.ordered
    cases succeeds with
    | true =>
      have live : ∀ fn : Fn, Live s fn ∨ (fn.moduleName = name ∧ fn.image = image) →
          (fn.moduleName, fn.image) ∈ done.modules ++ [(name, image)] := by
        rintro fn (before | ⟨rfl, rfl⟩)
        next =>
          rw [grown.modules]
          exact List.mem_append_left _ before
        next => simp
      exact
        { names := by
            simp only [if_true, grown.modules, List.map_append, List.nodup_append, sound.names,
              true_and]
            refine ⟨List.nodup_singleton name, ?_⟩
            intro other listed added appended same
            have mine : other = name := same.trans (List.mem_singleton.mp appended)
            exact unnamed (mine ▸ listed)
          registered := fun source fn listed =>
            live fn ((grown.added source fn listed).imp_left (sound.registered source fn))
          timers := fun e held => live e.callback ((grown.timers e held).imp_left (sound.timers e))
          pending := pending
          distinct := distinct
          ordered := ordered }
    | false =>
      have absent : ¬ Live done ⟨name, image, ""⟩ := by
        intro listed
        rw [Live, grown.modules] at listed
        exact unnamed (List.mem_map_of_mem listed)
      have gone := clean absent
      have modules : ∀ fn : Fn, Live s fn → Live done fn := by
        intro fn before
        rwa [Live, grown.modules]
      exact
        { names := by simpa [grown.modules] using sound.names
          registered := by
            intro source fn listed
            rcases grown.added source fn listed with before | ⟨rfl, rfl⟩
            next => exact modules fn (sound.registered source fn before)
            next => exact absurd rfl (gone.registered source fn listed rfl)
          timers := by
            intro e held
            rcases grown.timers e held with before | ⟨rfl, rfl⟩
            next => exact modules e.callback (sound.timers e before)
            next => exact absurd rfl (gone.timers e held rfl)
          pending := pending
          distinct := distinct
          ordered := ordered }

theorem find_module {name : String} {m : String × Nat}
    (found : s.modules.find? (fun m => m.1 = name) = some m) : m ∈ s.modules ∧ m.1 = name :=
  ⟨List.mem_of_find?_eq_some found, by simpa using List.find?_some found⟩

theorem unload_sound (sound : Sound s) {name : String} (clean : Clean defs s (.unload name)) :
    Sound (moduleUnload defs s name) := by
  simp only [Clean] at clean
  unfold moduleUnload at clean ⊢
  split
  next => exact sound
  next m found =>
    obtain ⟨member, rfl⟩ := find_module found
    simp only [found] at clean
    have gone := unsettled (clean m.2 member)
    have shrunk : Shrunk m.1 m.2 s _ := unload_shrunk (defs m.1).unload s
    generalize (defs m.1).unload.foldl (applyRemoval m.1 m.2) s = done at shrunk gone
    -- A function of another module is still live.
    have live : ∀ fn : Fn, Live s fn → (fn.moduleName = m.1 → fn.image ≠ m.2) →
        (fn.moduleName, fn.image) ∈ done.modules.filter fun other => other.1 ≠ m.1 := by
      intro fn before theirs
      rw [shrunk.modules, List.mem_filter]
      refine ⟨before, ?_⟩
      simp only [ne_eq, decide_not, Bool.not_eq_eq_eq_not, Bool.not_true, decide_eq_false_iff_not]
      intro same
      refine theirs same ?_
      have one := List.inj_on_of_nodup_map sound.names before member same
      exact congrArg Prod.snd one
    apply settle_sound
    exact
      { names := by
          refine List.Nodup.sublist ?_ sound.names
          rw [shrunk.modules]
          exact List.filter_sublist.map Prod.fst
        registered := fun source fn listed =>
          live fn (sound.registered source fn (shrunk.removed source fn listed))
            (gone.registered source fn listed)
        timers := fun e held =>
          live e.callback (sound.timers e (shrunk.timers e held)) (gone.timers e held)
        pending := by
          intro thread f pending fn left
          have before : f ∈ s.frames thread := by
            rw [← shrunk.frames]
            exact pending
          exact shrunk.kept _ _ (sound.pending thread f before fn left)
            (gone.pending thread f pending fn left)
        distinct := fun source event => shrunk.distinct source (sound.distinct source event)
        ordered := by
          intro thread f member event
          have before : f ∈ s.frames thread := by
            rw [← shrunk.frames]
            exact member
          exact sound.ordered thread f before event }

theorem register_sound (sound : Sound s) (source : Source) {fn : Fn} (live : Live s fn) :
    Sound (register s source fn) where
  names := by simpa using sound.names
  registered := by
    intro other g listed
    rw [Live, register_modules]
    rcases register_mem listed with before | ⟨-, rfl⟩
    next => exact sound.registered other g before
    next => exact live
  timers := by
    intro e held
    rw [Live, register_modules]
    exact sound.timers e (by simpa using held)
  pending := by
    intro thread f member g left
    rw [register_frames] at member
    exact register_keeps (sound.pending thread f member g left)
  distinct other event := register_distinct event (sound.distinct other event)
  ordered := by
    intro thread f member event
    rw [register_frames] at member
    exact sound.ordered thread f member event

theorem unregister_sound (sound : Sound s) {source : Source} {fn : Fn}
    (clean : Clean defs s (.unregister source fn)) : Sound (settle (unregister s source fn)) := by
  apply settle_sound
  exact
    { names := sound.names
      registered := fun other g listed => sound.registered other g (unregister_mem listed)
      timers := sound.timers
      pending := by
        intro thread f member g left
        have listed := sound.pending thread f member g left
        by_cases mine : f.source = source ∧ g = fn
        next =>
          obtain ⟨rfl, rfl⟩ := mine
          exact clean thread f member rfl left
        next => exact unregister_keeps listed fun same other => mine ⟨same, other⟩
      distinct := fun other event => unregister_distinct (sound.distinct other event)
      ordered := sound.ordered }

theorem Sound.of_timers (sound : Sound s) {timers : TimerTable Fn}
    (held : ∀ e, timers.Holds e → Live s e.callback) : Sound { s with timers := timers } where
  names := sound.names
  registered := sound.registered
  timers := held
  pending := sound.pending
  distinct := sound.distinct
  ordered := sound.ordered

theorem Sound.of_frames (sound : Sound s) {thread : Nat} {frames : List Frame}
    (fine : ∀ f ∈ frames, (∀ fn ∈ f.left, fn ∈ s.registered f.source) ∧
      (IsEvent f.source → (f.called ++ f.left).Nodup ∧ f.kept.Sublist (f.called ++ f.left))) :
    Sound { s with frames := Function.update s.frames thread frames } where
  -- A thread's dispatches change, and each is as it should be.
  names := sound.names
  registered := sound.registered
  timers := sound.timers
  pending := by
    intro other f member
    by_cases same : other = thread
    next =>
      subst same
      simp only [Function.update_self] at member
      exact (fine f member).1
    next => exact sound.pending other f (by simpa [same] using member)
  distinct := sound.distinct
  ordered := by
    intro other f member
    by_cases same : other = thread
    next =>
      subst same
      simp only [Function.update_self] at member
      exact (fine f member).2
    next => exact sound.ordered other f (by simpa [same] using member)

theorem Sound.frame (sound : Sound s) {thread : Nat} {f : Frame} (member : f ∈ s.frames thread) :
    (∀ fn ∈ f.left, fn ∈ s.registered f.source) ∧
      (IsEvent f.source → (f.called ++ f.left).Nodup ∧ f.kept.Sublist (f.called ++ f.left)) :=
  ⟨sound.pending thread f member, sound.ordered thread f member⟩

theorem fire_sound (sound : Sound s) (thread : Nat) (source : Source) :
    Sound (fire s thread source) := by
  have pushed : Sound
      { s with
        frames := Function.update s.frames thread
          (⟨source, [], s.registered source, s.registered source⟩ :: s.frames thread) } := by
    apply sound.of_frames
    intro f member
    rcases List.mem_cons.mp member with rfl | before
    next => exact ⟨fun fn listed => listed, fun event => ⟨sound.distinct source event, .refl _⟩⟩
    next => exact sound.frame before
  unfold fire
  cases source with
  | event e =>
    dsimp only
    split
    next => exact pushed
    next => exact sound
  | capture => exact pushed
  | playback => exact pushed

theorem next_sound (sound : Sound s) (thread : Nat) : Sound (next s thread) := by
  unfold next
  split
  next => exact sound
  next f outer top =>
    have inner : ∀ g ∈ outer, g ∈ s.frames thread := by
      intro g member
      simp [top, member]
    split
    next => exact sound.of_frames fun g member => sound.frame (inner g member)
    next fn left more =>
      have listed : f ∈ s.frames thread := by simp [top]
      have before := sound.frame listed
      apply sound.of_frames
      intro g member
      rcases List.mem_cons.mp member with rfl | outside
      next =>
        have same : f.called ++ [fn] ++ left = f.called ++ f.left := by simp [more]
        refine ⟨fun g listed => before.1 g (by simp [more, listed]), fun event => ?_⟩
        dsimp only
        rw [same]
        exact before.2 event
      next => exact sound.frame (inner g outside)

theorem step_sound (sound : Sound s) {i : Input} (clean : Clean defs s i) :
    Sound (step defs s i) := by
  cases i with
  | load name image succeeds => exact load_sound sound clean
  | unload name => exact unload_sound sound clean
  | register source fn =>
    simp only [step]
    split
    next live => exact register_sound sound source live
    next => exact sound
  | unregister source fn => exact unregister_sound sound clean
  | timerSet fn ms repeats =>
    simp only [step]
    split
    next live =>
      apply sound.of_timers
      intro e held
      rcases (TimerTable.create_holds ..).mp held with before | ⟨-, rfl⟩
      next => exact sound.timers e before
      next => exact live
    next => exact sound
  | timerCancel timerId =>
    exact sound.of_timers fun e held => sound.timers e ((TimerTable.cancel_holds ..).mp held).1
  | elapse us => exact sound.of_timers sound.timers
  | tick => exact sound.of_timers sound.timers
  | visit i =>
    apply sound.of_timers
    intro e held
    rcases (TimerTable.visit_holds ..).mp held with ⟨before, -⟩ | ⟨f, due, -, rfl⟩
    next => exact sound.timers e before
    next => exact sound.timers f (TimerTable.due_holds due)
  | fire thread source => exact fire_sound sound thread source
  | next thread => exact next_sound sound thread

/-- No run whose modules and handlers leave cleanly calls what has left. -/
theorem clean_run_sane (defs : String → ModuleDef) (inputs : List Input)
    (clean : Machine.Guarded (step defs) (Clean defs) init inputs) :
    Machine.Guarded (step defs) Sane init inputs :=
  Machine.guarded_of_invariant (step defs) (P := Sound)
    (fun _ i sound ok => ⟨step_sound sound ok, sound.sane i⟩) init_sound clean

/-! ## Modules of the repository -/

def repository (name : String) : ModuleDef :=
  -- The other modules are left out.
  if name = "mod_logger" then modLogger
  else if name = "mod_voicemail" then modVoicemail
  else { load := [], unload := [] }

/-- The load registers no tap, and the unload names each registration of the load. -/
structure Matched (d : ModuleDef) : Prop where
  events : ∀ source symbol, .register source symbol ∈ d.load → IsEvent source
  registered : ∀ source symbol, .register source symbol ∈ d.load →
    .unregister source symbol ∈ d.unload
  timers : ∀ symbol ms repeats, .timer symbol ms repeats ∈ d.load → .cancel symbol ∈ d.unload

theorem voicemail_matched : Matched modVoicemail where
  events := by
    intro source symbol listed
    obtain ⟨h, -, same⟩ := List.mem_map.mp listed
    cases same
    simp [IsEvent]
  registered := by
    intro source symbol listed
    simpa [modVoicemail] using listed
  timers := by simp [modVoicemail]

section Load

variable {name : String} {image : Nat}

theorem load_listed (registrations : List Registration) {s : System} {source : Source} {fn : Fn}
    (listed : fn ∈ (registrations.foldl (applyRegistration name image) s).registered source) :
    fn ∈ s.registered source ∨ .register source fn.symbol ∈ registrations := by
  induction registrations generalizing s with
  | nil => exact Or.inl listed
  | cons r rest ih =>
    rcases ih listed with before | later
    next =>
      cases r with
      | timer symbol ms repeats => exact Or.inl before
      | register other symbol =>
        rcases register_mem before with earlier | ⟨rfl, rfl⟩
        next => exact Or.inl earlier
        next => exact Or.inr (List.mem_cons_self ..)
    next => exact Or.inr (List.mem_cons_of_mem r later)

theorem load_timers (registrations : List Registration) {s : System} {e : TimerEntry Fn}
    (held : (registrations.foldl (applyRegistration name image) s).timers.Holds e) :
    s.timers.Holds e ∨ ∃ ms repeats, .timer e.callback.symbol ms repeats ∈ registrations := by
  induction registrations generalizing s with
  | nil => exact Or.inl held
  | cons r rest ih =>
    rcases ih held with before | ⟨ms, repeats, later⟩
    next =>
      cases r with
      | timer symbol ms repeats =>
        rcases (TimerTable.create_holds ..).mp before with earlier | ⟨-, rfl⟩
        next => exact Or.inl earlier
        next => exact Or.inr ⟨ms, repeats, List.mem_cons_self ..⟩
      | register other symbol =>
        left
        simpa [applyRegistration] using before
    next => exact Or.inr ⟨ms, repeats, List.mem_cons_of_mem r later⟩

end Load

theorem Gone.settled {name : String} {image : Nat} (gone : Gone s name image)
    (modules : List (String × Nat)) : Gone (settle { s with modules := modules }) name image where
  registered := gone.registered
  timers := gone.timers
  pending := by
    intro thread f member
    obtain ⟨g, before, rfl⟩ := List.mem_map.mp member
    exact gone.pending thread g before

theorem covered_clean (sound : Sound s) {name : String}
    (covered : ∀ image, Live s ⟨name, image, ""⟩ → Covered (defs name).unload name image s) :
    Clean defs s (.unload name) := by
  intro image live
  unfold moduleUnload
  split
  next none_found =>
    have absent := List.find?_eq_none.mp none_found (name, image) live
    simp at absent
  next m found =>
    obtain ⟨member, rfl⟩ := find_module found
    have same : (m.1, image) = m :=
      List.inj_on_of_nodup_map sound.names live member rfl
    have mapped : image = m.2 := congrArg Prod.snd same
    subst mapped
    exact (covered m.2 live).gone.settled _

theorem matched_clean {name : String} {image : Nat} (matched : Matched (defs name)) :
    Clean defs (moduleLoad defs init name image true) (.unload name) := by
  -- A module that did nothing since its load leaves cleanly, where its unload names all.
  have fresh : moduleLoad defs init name image true =
      { (defs name).load.foldl (applyRegistration name image) init with
        modules := ((defs name).load.foldl (applyRegistration name image) init).modules ++
          [(name, image)] } := by
    simp [moduleLoad, init, maxModules]
  have sound : Sound (moduleLoad defs init name image true) := by
    refine load_sound init_sound fun absent => absurd ?_ absent
    simp [Live, fresh]
  refine covered_clean sound fun other live => ?_
  constructor
  next =>
    rintro source fn listed rfl rfl
    rw [fresh] at listed
    rcases load_listed _ listed with before | named
    next => cases before
    next =>
      have event := matched.events source fn.symbol named
      refine ⟨matched.registered source fn.symbol named, ?_⟩
      exact sound.distinct source event
  next =>
    rintro e held rfl rfl
    rw [fresh] at held
    rcases load_timers _ held with before | ⟨ms, repeats, named⟩
    next => exact absurd before (TimerTable.init_holds e)
    next => exact matched.timers _ ms repeats named
  next =>
    intro thread f pending
    rw [fresh, (load_grown _ _).frames] at pending
    cases pending

theorem voicemail_comes_and_goes :
    Machine.Guarded (step repository) Sane init
      [.load "mod_voicemail" 0 true, .unload "mod_voicemail"] := by
  refine clean_run_sane repository _ ⟨?_, ?_, trivial⟩
  next =>
    intro absent
    exact absurd (by decide) absent
  next => exact matched_clean voicemail_matched

/-- What calls into a module that is gone: an event the logger forgets, a handler unloaded before
its turn, the tap of a recording, and whatever a failed load has subscribed. -/
theorem unloaded_modules_called :
    ¬ Machine.Guarded (step repository) Sane init
        [.load "mod_logger" 0 true, .unload "mod_logger", .fire 0 (.event .announcement),
          .next 0] ∧
      ¬ Machine.Guarded (step repository) Sane init
        [.load "mod_logger" 0 true, .load "mod_voicemail" 1 true, .fire 0 (.event .corAssert),
          .next 0, .unload "mod_voicemail", .next 0] ∧
      ¬ Machine.Guarded (step repository) Sane init
        [.load "mod_voicemail" 0 true, .register .capture ⟨"mod_voicemail", 0, "rec_audio_tap"⟩,
          .unload "mod_voicemail", .fire 0 .capture, .next 0] ∧
      ¬ Machine.Guarded (step repository) Sane init
        [.load "mod_logger" 0 false, .fire 0 (.event .announcement), .next 0] := by
  decide +kernel

end Kerchunk.Core.Registry
