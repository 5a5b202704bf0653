import Kerchunk.Web.Stream
import Mathlib.Data.List.Nodup

set_option autoImplicit false

/-!
# Whether clients end up with the snapshots in the cache
-/

namespace Kerchunk.Web

open Events (Text)
open Machine (Guarded run)

/-! ## What clients have heard -/

def Heard.isOf (type : Text) (h : Heard) : Bool :=
  h.version.any fun v => v.type = type

def Client.of (c : Client) (type : Text) : List Heard :=
  c.heard.filter (Heard.isOf type)

def Stream.inFlight (s : Stream) (type : Text) : List Heard :=
  (s.wakeups.map Wakeup.heard).filter (Heard.isOf type)

def Version.whole (v : Version) : Heard where
  version := some v
  text := v.line

def Stream.Entitled (s : Stream) (c : Client) (type : Text) : Prop :=
  -- A type is the client's to see when it is an admin or nothing of the type was for admins alone.
  c.admin = true ∨ ∀ v ∈ s.published, v.type = type → v.adminOnly = false

/-- When all is quiet the last that a client heard of a type is what the cache has; and what was in the
cache when it connected it has heard, or something newer. -/
structure Converged (s : Stream) : Prop where
  final : s.pending = [] → s.wakeups = [] → ∀ c ∈ s.clients, ∀ slot ∈ s.cache,
    s.Entitled c slot.type → (c.of slot.type).getLast?.map Heard.text = some slot.version.line
  current : ∀ c ∈ s.clients, ∀ v ∈ s.published, v.serial < c.joined → s.Entitled c v.type →
    ∃ h ∈ c.of v.type, ∃ w ∈ h.version, v.serial ≤ w.serial ∧ h.text = w.line

def Publication.Short (p : Publication) : Prop :=
  -- The type fits a slot and the line fits a message.
  p.type.length < typeSize ∧ p.line.length ≤ wakeupRoom

/-- Of each type nothing is handed over after something newer, nor lost on the way; and with no client
to hand it to, nothing older is still on its way. -/
def Orderly (s : Stream) : Act → Prop
  | .update p => p.Short
  | .event evt image nowUs => ∀ p ∈ statusUpdate evt image nowUs, p.Short
  | .handOver i taken => ∀ v ∈ s.pending[i]?,
    if s.clients.isEmpty then s.inFlight v.type = []
    else taken = true ∧ ∀ w ∈ s.published, w.type = v.type → v.serial < w.serial → w ∈ s.pending
  | _ => True

instance (p : Publication) : Decidable p.Short :=
  inferInstanceAs (Decidable (_ ∧ _))

instance (s : Stream) : (a : Act) → Decidable (Orderly s a)
  | .update p => inferInstanceAs (Decidable p.Short)
  | .event _ _ _ => inferInstanceAs (Decidable (∀ p ∈ _, Publication.Short p))
  | .handOver _ _ => inferInstanceAs (Decidable (∀ v ∈ _, _))
  | .broadcast _ _ | .connect _ | .deliver | .close _ => inferInstanceAs (Decidable True)

/-! ## The cache -/

/-- Slots have the types of what they hold, each its own. -/
structure Indexed (cache : List Slot) : Prop where
  named : ∀ slot ∈ cache, slot.type = slot.version.type
  distinct : (cache.map Slot.type).Nodup

def fresh (v : Version) : Slot where
  type := v.type
  version := v

theorem mem_store {v : Version} (short : v.type.length < typeSize) {cache : List Slot}
    (distinct : (cache.map Slot.type).Nodup) {slot : Slot} :
    slot ∈ storeSnapshot v cache ↔ slot = fresh v ∨ slot ∈ cache ∧ slot.type ≠ v.type := by
  induction cache with
  | nil =>
    have whole : v.type.take (typeSize - 1) = v.type :=
      List.take_of_length_le (Nat.le_sub_one_of_lt short)
    simp [storeSnapshot, whole, fresh]
  | cons first rest ih =>
    obtain ⟨alone, distinct⟩ := List.nodup_cons.mp distinct
    by_cases same : first.type = v.type
    next =>
      have others (member : slot ∈ rest) : slot.type ≠ v.type := by
        intro also
        exact alone (same.trans also.symm ▸ List.mem_map_of_mem member)
      have here : ({ first with version := v } : Slot) = fresh v := by simp [fresh, same]
      rw [storeSnapshot, if_pos same, here, List.mem_cons, List.mem_cons]
      constructor
      next =>
        rintro (isNew | member)
        next => exact .inl isNew
        next => exact .inr ⟨.inr member, others member⟩
      next =>
        rintro (isNew | ⟨rfl | member, other⟩)
        next => exact .inl isNew
        next => exact absurd same other
        next => exact .inr member
    next =>
      rw [storeSnapshot, if_neg same, List.mem_cons, List.mem_cons, ih distinct]
      constructor
      next =>
        rintro (rfl | isNew | ⟨member, other⟩)
        next => exact .inr ⟨.inl rfl, same⟩
        next => exact .inl isNew
        next => exact .inr ⟨.inr member, other⟩
      next =>
        rintro (isNew | ⟨rfl | member, other⟩)
        next => exact .inr (.inl isNew)
        next => exact .inl rfl
        next => exact .inr (.inr ⟨member, other⟩)

theorem store_nodup {v : Version} (short : v.type.length < typeSize) {cache : List Slot}
    (distinct : (cache.map Slot.type).Nodup) : ((storeSnapshot v cache).map Slot.type).Nodup := by
  induction cache with
  | nil => simp [storeSnapshot]
  | cons first rest ih =>
    obtain ⟨alone, others⟩ := List.nodup_cons.mp distinct
    by_cases same : first.type = v.type
    next =>
      rw [storeSnapshot, if_pos same]
      exact distinct
    next =>
      rw [storeSnapshot, if_neg same, List.map_cons, List.nodup_cons]
      refine ⟨fun member => ?_, ih others⟩
      obtain ⟨slot, stored, type⟩ := List.mem_map.mp member
      rcases (mem_store short others).mp stored with rfl | ⟨old, _⟩
      next => exact same type.symm
      next => exact alone (type ▸ List.mem_map_of_mem old)

theorem indexed_store {v : Version} (short : v.type.length < typeSize) {cache : List Slot}
    (indexed : Indexed cache) : Indexed (storeSnapshot v cache) := by
  refine ⟨fun slot member => ?_, store_nodup short indexed.distinct⟩
  rcases (mem_store short indexed.distinct).mp member with rfl | ⟨old, _⟩
  next => rfl
  next => exact indexed.named slot old

/-! ## What holds in every state -/

/-- The publications so far, numbered in order, and what the cache and the publishers have of them. -/
structure Recorded (s : Stream) : Prop where
  indexed : Indexed s.cache
  numbered : s.published.map Version.serial = List.range s.published.length
  short : ∀ v ∈ s.published, v.publication.Short
  cached : ∀ slot ∈ s.cache, slot.version ∈ s.published
  newest : ∀ v ∈ s.published, ∃ slot ∈ s.cache, slot.type = v.type ∧ v.serial ≤ slot.version.serial
  pending : ∀ v ∈ s.pending, v ∈ s.published
  sent : ∀ w ∈ s.wakeups, ∀ v, w = .snapshot v → v ∈ s.published
  joined : ∀ c ∈ s.clients, c.joined ≤ s.published.length

/-- What is handed over of the cache comes last. -/
structure Settled (s : Stream) : Prop where
  flying : ∀ slot ∈ s.cache, slot.version ∉ s.pending →
    ∀ h ∈ (s.inFlight slot.type).getLast?, h = slot.version.whole
  told : ∀ c ∈ s.clients, ∀ slot ∈ s.cache, s.Entitled c slot.type → slot.version ∉ s.pending →
    (c.of slot.type ++ s.inFlight slot.type).getLast? = some slot.version.whole
  current : ∀ c ∈ s.clients, ∀ v ∈ s.published, v.serial < c.joined → s.Entitled c v.type →
    ∃ w : Version, w.whole ∈ c.of v.type ∧ v.serial ≤ w.serial

structure Sound (s : Stream) : Prop where
  recorded : Recorded s
  settled : Settled s

theorem isOf_whole {v : Version} {type : Text} : v.whole.isOf type = true ↔ v.type = type := by
  simp [Heard.isOf, Version.whole]

theorem heard_whole {v : Version} (short : v.publication.Short) :
    (Wakeup.snapshot v).heard = v.whole := by
  have fits : v.line.take wakeupRoom = v.line := List.take_of_length_le short.2
  simp [Wakeup.heard, Wakeup.payload, Version.whole, fits]

theorem sound_converged {s : Stream} (sound : Sound s) : Converged s := by
  obtain ⟨recorded, settled⟩ := sound
  constructor
  next =>
    intro quiet empty c present slot cached entitled
    have last := settled.told c present slot cached entitled (quiet ▸ List.not_mem_nil)
    have none : s.inFlight slot.type = [] := by simp [Stream.inFlight, empty]
    rw [none, List.append_nil] at last
    rw [last]
    rfl
  next =>
    intro c present v published before entitled
    obtain ⟨w, heard, newer⟩ := settled.current c present v published before entitled
    exact ⟨w.whole, heard, w, rfl, newer, rfl⟩

/-! ## Publishing -/

variable {s : Stream}

theorem entitled_mono {s s' : Stream} (grown : ∀ v ∈ s.published, v ∈ s'.published) {c : Client}
    {type : Text} (entitled : s'.Entitled c type) : s.Entitled c type :=
  entitled.imp_right fun all v published => all v (grown v published)

theorem Recorded.before (recorded : Recorded s) {v : Version} (published : v ∈ s.published) :
    v.serial < s.published.length := by
  have listed := List.mem_map_of_mem (f := Version.serial) published
  rwa [recorded.numbered, List.mem_range] at listed

theorem Recorded.unique (recorded : Recorded s) {v w : Version} (first : v ∈ s.published)
    (second : w ∈ s.published) (same : v.serial = w.serial) : v = w := by
  have distinct : (s.published.map Version.serial).Nodup := recorded.numbered ▸ List.nodup_range
  exact List.inj_on_of_nodup_map distinct first second same

def Stream.next (s : Stream) (p : Publication) : Version where
  -- The version that a publication becomes.
  serial := s.published.length
  publication := p

theorem update_eq {p : Publication} (named : p.type ≠ []) :
    s.update p = { s with
      published := s.published ++ [s.next p]
      cache := storeSnapshot (s.next p) s.cache
      pending := s.pending ++ [s.next p] } :=
  if_neg named

theorem recorded_update (recorded : Recorded s) {p : Publication} (short : p.Short)
    (named : p.type ≠ []) : Recorded (s.update p) := by
  have fits : (s.next p).type.length < typeSize := short.1
  have stored (slot : Slot) : slot ∈ storeSnapshot (s.next p) s.cache ↔
      slot = fresh (s.next p) ∨ slot ∈ s.cache ∧ slot.type ≠ (s.next p).type :=
    mem_store fits recorded.indexed.distinct
  rw [update_eq named]
  constructor
  case indexed => exact indexed_store fits recorded.indexed
  case numbered =>
    rw [List.map_append, recorded.numbered, List.length_append, List.length_singleton,
      List.range_succ]
    rfl
  case short =>
    intro w member
    rcases List.mem_append.mp member with old | new
    next => exact recorded.short w old
    next =>
      rw [List.mem_singleton.mp new]
      exact short
  case cached =>
    intro slot member
    rcases (stored slot).mp member with rfl | ⟨old, _⟩
    next => exact List.mem_append_right _ (List.mem_singleton_self _)
    next => exact List.mem_append_left _ (recorded.cached slot old)
  case newest =>
    intro w member
    have first : fresh (s.next p) ∈ storeSnapshot (s.next p) s.cache := (stored _).mpr (.inl rfl)
    rcases List.mem_append.mp member with old | new
    next =>
      obtain ⟨slot, present, type, newer⟩ := recorded.newest w old
      by_cases same : slot.type = (s.next p).type
      next => exact ⟨_, first, same.symm.trans type, Nat.le_of_lt (recorded.before old)⟩
      next => exact ⟨slot, (stored _).mpr (.inr ⟨present, same⟩), type, newer⟩
    next =>
      rw [List.mem_singleton.mp new]
      exact ⟨_, first, rfl, Nat.le_refl _⟩
  case pending =>
    intro w member
    rcases List.mem_append.mp member with old | new
    next => exact List.mem_append_left _ (recorded.pending w old)
    next => exact List.mem_append_right _ new
  case sent =>
    intro w member other same
    exact List.mem_append_left _ (recorded.sent w member other same)
  case joined =>
    intro c member
    rw [List.length_append]
    exact Nat.le_add_right_of_le (recorded.joined c member)

theorem settled_update (sound : Sound s) {p : Publication} (short : p.Short) (named : p.type ≠ []) :
    Settled (s.update p) := by
  obtain ⟨recorded, settled⟩ := sound
  have fits : (s.next p).type.length < typeSize := short.1
  rw [update_eq named]
  -- What is new is not handed over yet.
  have old (slot : Slot) (member : slot ∈ storeSnapshot (s.next p) s.cache)
      (handed : slot.version ∉ s.pending ++ [s.next p]) :
      slot ∈ s.cache ∧ slot.version ∉ s.pending := by
    rcases (mem_store fits recorded.indexed.distinct).mp member with rfl | ⟨present, _⟩
    next => exact absurd (List.mem_append_right _ (List.mem_singleton_self _)) handed
    next => exact ⟨present, fun waits => handed (List.mem_append_left _ waits)⟩
  have grown : ∀ v ∈ s.published, v ∈ s.published ++ [s.next p] :=
    fun v published => List.mem_append_left _ published
  constructor
  case flying =>
    intro slot member handed
    obtain ⟨present, handed⟩ := old slot member handed
    exact settled.flying slot present handed
  case told =>
    intro c client slot member entitled handed
    obtain ⟨present, handed⟩ := old slot member handed
    exact settled.told c client slot present (entitled_mono grown entitled) handed
  case current =>
    intro c client v member before entitled
    rcases List.mem_append.mp member with published | new
    next => exact settled.current c client v published before (entitled_mono grown entitled)
    next =>
      rw [List.mem_singleton.mp new] at before
      exact absurd before (Nat.not_lt.mpr (recorded.joined c client))

theorem sound_update (sound : Sound s) {p : Publication} (short : p.Short) : Sound (s.update p) := by
  by_cases named : p.type = []
  next =>
    rw [Stream.update, if_pos named]
    exact sound
  next => exact ⟨recorded_update sound.recorded short named, settled_update sound short named⟩

/-! ## Handing over -/

theorem getLast_append_whole {first : List Heard} {v : Version} {h : Heard}
    (isLast : (first ++ [v.whole]).getLast? = some h) : h = v.whole := by
  simpa using isLast.symm

theorem recorded_handOver (recorded : Recorded s) (i : Nat) (taken : Bool) :
    Recorded (s.handOver i taken) := by
  unfold Stream.handOver
  split
  next => exact recorded
  next v waits =>
    have published : v ∈ s.published := recorded.pending v (List.mem_of_getElem? waits)
    have rest : ∀ w ∈ s.pending.eraseIdx i, w ∈ s.pending := fun w member =>
      List.mem_of_mem_eraseIdx member
    have erased : Recorded { s with pending := s.pending.eraseIdx i } :=
      { recorded with
        pending := fun w member => recorded.pending w (rest w member) }
    unfold Stream.wake
    split
    next => exact erased
    next =>
      refine { erased with sent := fun w member other same => ?_ }
      rcases List.mem_append.mp member with old | new
      next => exact erased.sent w old other same
      next =>
        rw [List.mem_singleton.mp new] at same
        exact Wakeup.snapshot.inj same ▸ published

theorem Recorded.newest_of (recorded : Recorded s) {slot : Slot} (present : slot ∈ s.cache)
    {v : Version} (published : v ∈ s.published) (type : v.type = slot.type) :
    v.serial ≤ slot.version.serial := by
  obtain ⟨other, member, same, newer⟩ := recorded.newest v published
  obtain rfl := List.inj_on_of_nodup_map recorded.indexed.distinct member present (same.trans type)
  exact newer

theorem Recorded.newer (recorded : Recorded s) {slot : Slot} (present : slot ∈ s.cache)
    {v : Version} (published : v ∈ s.published) (type : v.type = slot.type)
    (other : slot.version ≠ v) : v.serial < slot.version.serial := by
  have atLeast := recorded.newest_of present published type
  refine Nat.lt_of_le_of_ne atLeast fun same => other ?_
  exact recorded.unique (recorded.cached slot present) published same.symm

theorem left_waiting {pending : List Version} {i : Nat} {v w : Version} (waits : pending[i]? = some v)
    (other : w ≠ v) (gone : w ∉ pending.eraseIdx i) : w ∉ pending := by
  intro member
  obtain ⟨j, found⟩ := List.mem_iff_getElem?.mp member
  apply gone
  refine List.mem_eraseIdx_iff_getElem?.mpr ⟨j, fun same => other ?_, found⟩
  rw [same, waits] at found
  exact (Option.some.inj found).symm

theorem settled_skip (sound : Sound s) {i : Nat} {v : Version} (waits : s.pending[i]? = some v)
    (alone : s.clients = []) (clear : s.inFlight v.type = []) :
    Settled { s with pending := s.pending.eraseIdx i } := by
  -- With no client it is enough that nothing older is on its way.
  obtain ⟨recorded, settled⟩ := sound
  constructor
  case flying =>
    intro slot present handed h isLast
    by_cases same : slot.version = v
    next =>
      change h ∈ (s.inFlight slot.type).getLast? at isLast
      rw [recorded.indexed.named slot present, same, clear] at isLast
      cases isLast
    next => exact settled.flying slot present (left_waiting waits same handed) h isLast
  case told =>
    intro c client
    rw [alone] at client
    cases client
  case current =>
    intro c client
    rw [alone] at client
    cases client

theorem settled_send (sound : Sound s) {i : Nat} {v : Version} (waits : s.pending[i]? = some v)
    (orderly : ∀ w ∈ s.published, w.type = v.type → v.serial < w.serial → w ∈ s.pending) :
    Settled { s with
      pending := s.pending.eraseIdx i
      wakeups := s.wakeups ++ [.snapshot v] } := by
  obtain ⟨recorded, settled⟩ := sound
  have published : v ∈ s.published := recorded.pending v (List.mem_of_getElem? waits)
  have heard := heard_whole (recorded.short v published)
  -- A slot that has been handed over holds the version itself or is of another type.
  have cases_of (slot : Slot) (present : slot ∈ s.cache)
      (handed : slot.version ∉ s.pending.eraseIdx i) :
      slot.version = v ∧ slot.type = v.type ∨ slot.version ∉ s.pending ∧ v.type ≠ slot.type := by
    by_cases same : slot.version = v
    next => exact .inl ⟨same, same ▸ recorded.indexed.named slot present⟩
    next =>
      have gone := left_waiting waits same handed
      refine .inr ⟨gone, fun type => gone ?_⟩
      refine orderly _ (recorded.cached slot present) ?_ (recorded.newer present published type same)
      rw [type, recorded.indexed.named slot present]
  have flies (type : Text) : Stream.inFlight { s with
      pending := s.pending.eraseIdx i
      wakeups := s.wakeups ++ [.snapshot v] } type =
        s.inFlight type ++ [v.whole].filter (Heard.isOf type) := by
    simp [Stream.inFlight, heard]
  have here : [v.whole].filter (Heard.isOf v.type) = [v.whole] := by
    simp [isOf_whole]
  have elsewhere {type : Text} (other : v.type ≠ type) :
      [v.whole].filter (Heard.isOf type) = [] := by
    simp [isOf_whole, other]
  constructor
  case flying =>
    intro slot present handed h isLast
    rw [flies] at isLast
    rcases cases_of slot present handed with ⟨same, type⟩ | ⟨handed, other⟩
    next =>
      rw [type, here] at isLast
      rw [same]
      exact getLast_append_whole isLast
    next =>
      rw [elsewhere other, List.append_nil] at isLast
      exact settled.flying slot present handed h isLast
  case told =>
    intro c client slot present entitled handed
    rw [flies]
    rcases cases_of slot present handed with ⟨same, type⟩ | ⟨handed, other⟩
    next => simp [type, same, here]
    next =>
      rw [elsewhere other, List.append_nil]
      exact settled.told c client slot present entitled handed
  case current => exact settled.current

theorem sound_handOver (sound : Sound s) {i : Nat} {taken : Bool}
    (orderly : Orderly s (.handOver i taken)) : Sound (s.handOver i taken) := by
  refine ⟨recorded_handOver sound.recorded i taken, ?_⟩
  unfold Stream.handOver
  split
  next => exact sound.settled
  next v waits =>
    have condition := orderly v waits
    unfold Stream.wake
    split at condition
    next alone =>
      rw [if_pos (by simp [alone])]
      exact settled_skip sound waits (List.isEmpty_iff.mp alone) condition
    next some_clients =>
      obtain ⟨rfl, ordered⟩ := condition
      rw [if_neg (by simpa using some_clients)]
      exact settled_send sound waits ordered

/-! ## Events -/

theorem sound_handling (sound : Sound s) (handling : List Events.Event) :
    Sound { s with handling := handling } :=
  ⟨{ sound.recorded with }, { sound.settled with }⟩

theorem sound_event (sound : Sound s) {evt : Events.Event} {image : StatusImage} {nowUs : Nat}
    (orderly : Orderly s (.event evt image nowUs)) : Sound (s.event evt image nowUs) := by
  unfold Stream.event
  split
  next => exact sound
  next =>
    apply sound_handling
    cases refreshed : statusUpdate evt image nowUs with
    | none => exact sound
    | some p => exact sound_update sound (orderly p refreshed)

theorem sound_wakeEvent (sound : Sound s) (taken isPublic : Bool) (text : Text) :
    Sound (s.wake taken (.event isPublic text)) := by
  unfold Stream.wake
  split
  next => exact sound
  next =>
    obtain ⟨recorded, settled⟩ := sound
    have flies (type : Text) :
        Stream.inFlight { s with wakeups := s.wakeups ++ [.event isPublic text] } type =
          s.inFlight type := by
      simp [Stream.inFlight, Wakeup.heard, Heard.isOf]
    constructor
    next =>
      refine { recorded with sent := fun w member other same => ?_ }
      rcases List.mem_append.mp member with old | new
      next => exact recorded.sent w old other same
      next =>
        rw [List.mem_singleton.mp new] at same
        cases same
    next =>
      constructor
      case flying =>
        intro slot present handed h isLast
        rw [flies] at isLast
        exact settled.flying slot present handed h isLast
      case told =>
        intro c client slot present entitled handed
        rw [flies]
        exact settled.told c client slot present entitled handed
      case current => exact settled.current

theorem sound_broadcast (sound : Sound s) (i : Nat) (taken : Bool) :
    Sound (s.broadcast i taken) := by
  unfold Stream.broadcast
  split
  next => exact sound
  next =>
    dsimp only
    split
    next => exact sound_handling sound _
    next => exact sound_wakeEvent (sound_handling sound _) taken _ _

/-! ## Clients -/

def Stream.newClient (s : Stream) (admin : Bool) : Client where
  admin := admin
  joined := s.published.length
  heard := s.cache.filterMap (replay admin)

theorem replay_entitled (recorded : Recorded s) {admin : Bool} {slot : Slot} (present : slot ∈ s.cache)
    (entitled : s.Entitled (s.newClient admin) slot.type) :
    replay admin slot = some slot.version.whole := by
  have shown : (slot.version.adminOnly && !admin) = false := by
    rcases entitled with isAdmin | all
    next =>
      obtain rfl : admin = true := isAdmin
      simp
    next =>
      rw [all _ (recorded.cached slot present) (recorded.indexed.named slot present).symm,
        Bool.false_and]
  rw [replay, shown, if_neg Bool.false_ne_true]
  rfl

theorem replay_version {admin : Bool} {slot : Slot} {h : Heard} (shown : replay admin slot = some h) :
    h = slot.version.whole := by
  unfold replay at shown
  split at shown
  next => cases shown
  next => exact (Option.some.inj shown).symm

theorem replayed_of (admin : Bool) {cache : List Slot} (indexed : Indexed cache) {slot : Slot}
    (present : slot ∈ cache) (shown : replay admin slot = some slot.version.whole) :
    (cache.filterMap (replay admin)).filter (Heard.isOf slot.type) = [slot.version.whole] := by
  -- Of each type one slot is replayed.
  induction cache with
  | nil => cases present
  | cons first rest ih =>
    obtain ⟨alone, distinct⟩ := List.nodup_cons.mp indexed.distinct
    have named := fun slot member => indexed.named slot (List.mem_cons_of_mem first member)
    have split (h : Option Heard) (tail : List Heard) :
        ((h.toList ++ tail).filter (Heard.isOf slot.type)) =
          h.toList.filter (Heard.isOf slot.type) ++ tail.filter (Heard.isOf slot.type) :=
      List.filter_append ..
    have unfolded : (first :: rest).filterMap (replay admin) =
        (replay admin first).toList ++ rest.filterMap (replay admin) := by
      cases found : replay admin first <;> simp [found]
    rw [unfolded, split]
    rcases List.mem_cons.mp present with rfl | later
    next =>
      have others : (rest.filterMap (replay admin)).filter (Heard.isOf slot.type) = [] := by
        rw [List.filter_eq_nil_iff]
        intro h member isOne
        obtain ⟨other, inRest, isShown⟩ := List.mem_filterMap.mp member
        rw [replay_version isShown, isOf_whole] at isOne
        exact alone (((named other inRest).trans isOne) ▸ List.mem_map_of_mem inRest)
      have type := isOf_whole.mpr (indexed.named slot (List.mem_cons_self ..)).symm
      rw [shown, others, Option.toList_some, List.append_nil]
      exact List.filter_eq_self.mpr (by simpa using type)
    next =>
      have skipped : (replay admin first).toList.filter (Heard.isOf slot.type) = [] := by
        rw [List.filter_eq_nil_iff]
        intro h member isOne
        rw [replay_version (Option.mem_toList.mp member), isOf_whole] at isOne
        have type := (indexed.named first (List.mem_cons_self ..)).trans isOne
        exact alone (type ▸ List.mem_map_of_mem later)
      rw [skipped, List.nil_append, ih ⟨named, distinct⟩ later]

theorem sound_connect (sound : Sound s) (admin : Bool) : Sound (s.connect admin) := by
  obtain ⟨recorded, settled⟩ := sound
  have heard {slot : Slot} (present : slot ∈ s.cache)
      (entitled : s.Entitled (s.newClient admin) slot.type) :
      (s.newClient admin).of slot.type = [slot.version.whole] :=
    replayed_of admin recorded.indexed present (replay_entitled recorded present entitled)
  constructor
  next =>
    refine { recorded with joined := fun c member => ?_ }
    rcases List.mem_append.mp member with old | new
    next => exact recorded.joined c old
    next => exact Nat.le_of_eq (congrArg Client.joined (List.mem_singleton.mp new))
  next =>
    constructor
    case flying => exact settled.flying
    case told =>
      intro c client slot present entitled handed
      rcases List.mem_append.mp client with old | new
      next => exact settled.told c old slot present entitled handed
      next =>
        obtain rfl : c = s.newClient admin := List.mem_singleton.mp new
        change ((s.newClient admin).of slot.type ++ s.inFlight slot.type).getLast? = _
        rw [heard present entitled, List.getLast?_append]
        cases isLast : (s.inFlight slot.type).getLast? with
        | none => rfl
        | some h => rw [settled.flying slot present handed h isLast, Option.some_or]
    case current =>
      intro c client v published before entitled
      rcases List.mem_append.mp client with old | new
      next => exact settled.current c old v published before entitled
      next =>
        obtain rfl : c = s.newClient admin := List.mem_singleton.mp new
        obtain ⟨slot, present, type, newer⟩ := recorded.newest v published
        rw [← type] at entitled ⊢
        exact ⟨slot.version, by simp [heard present entitled], newer⟩

theorem receive_of {c : Client} {w : Wakeup} {type : Text}
    (sees : w.heard.isOf type = true → (c.admin || w.isPublic) = true) :
    (c.receive w).of type = c.of type ++ [w.heard].filter (Heard.isOf type) := by
  unfold Client.receive Client.of
  by_cases isOne : w.heard.isOf type = true
  next => rw [if_pos (sees isOne), List.filter_append]
  next => split <;> simp [isOne]

theorem sees_entitled (recorded : Recorded s) {w : Wakeup} (sent : w ∈ s.wakeups) {c : Client}
    {type : Text} (entitled : s.Entitled c type) (isOne : w.heard.isOf type = true) :
    (c.admin || w.isPublic) = true := by
  rcases entitled with isAdmin | all
  next => rw [isAdmin, Bool.true_or]
  next =>
    cases w with
    | event isPublic text => cases isOne
    | snapshot v =>
      have type : v.type = type := by simpa [Heard.isOf, Wakeup.heard] using isOne
      rw [Wakeup.isPublic, all v (recorded.sent _ sent v rfl) type, Bool.not_false, Bool.or_true]

theorem receive_joined (w : Wakeup) (c : Client) : (c.receive w).joined = c.joined := by
  unfold Client.receive
  split <;> rfl

theorem receive_entitled (w : Wakeup) (c : Client) (type : Text) :
    s.Entitled (c.receive w) type ↔ s.Entitled c type := by
  have admin : (c.receive w).admin = c.admin := by
    unfold Client.receive
    split <;> rfl
  rw [Stream.Entitled, Stream.Entitled, admin]

theorem heard_receive {c : Client} {type : Text} {h : Heard} (member : h ∈ c.of type) (w : Wakeup) :
    h ∈ (c.receive w).of type := by
  obtain ⟨present, isOne⟩ := List.mem_filter.mp member
  refine List.mem_filter.mpr ⟨?_, isOne⟩
  unfold Client.receive
  split
  next => exact List.mem_append_left _ present
  next => exact present

theorem sound_deliver (sound : Sound s) : Sound s.deliver := by
  obtain ⟨recorded, settled⟩ := sound
  unfold Stream.deliver
  split
  next => exact ⟨recorded, settled⟩
  next w rest wakeups =>
    have first : w ∈ s.wakeups := wakeups ▸ List.mem_cons_self ..
    have flies (type : Text) : s.inFlight type =
        [w.heard].filter (Heard.isOf type) ++ (rest.map Wakeup.heard).filter (Heard.isOf type) := by
      rw [Stream.inFlight, wakeups, List.map_cons, ← List.filter_append, List.singleton_append]
    constructor
    next =>
      refine { recorded with
        sent := fun other member v same => recorded.sent other ?_ v same
        joined := fun c member => ?_ }
      next => exact wakeups ▸ List.mem_cons_of_mem _ member
      next =>
        obtain ⟨old, present, rfl⟩ := List.mem_map.mp member
        rw [receive_joined]
        exact recorded.joined old present
    next =>
      constructor
      case flying =>
        intro slot present handed h isLast
        refine settled.flying slot present handed h ?_
        change h ∈ ((rest.map Wakeup.heard).filter (Heard.isOf slot.type)).getLast? at isLast
        rw [flies, List.getLast?_append, Option.mem_def.mp isLast]
        rfl
      case told =>
        intro c client slot present entitled handed
        obtain ⟨old, member, rfl⟩ := List.mem_map.mp client
        have entitled := (receive_entitled w old slot.type).mp entitled
        have told := settled.told old member slot present entitled handed
        rw [flies, ← List.append_assoc] at told
        rw [receive_of (sees_entitled recorded first entitled)]
        exact told
      case current =>
        intro c client v published before entitled
        obtain ⟨old, member, rfl⟩ := List.mem_map.mp client
        have entitled := (receive_entitled w old v.type).mp entitled
        rw [receive_joined] at before
        obtain ⟨newer, heard, atLeast⟩ := settled.current old member v published before entitled
        exact ⟨newer, heard_receive heard w, atLeast⟩

theorem sound_close (sound : Sound s) (i : Nat) :
    Sound { s with clients := s.clients.eraseIdx i } := by
  obtain ⟨recorded, settled⟩ := sound
  have stays (c : Client) (member : c ∈ s.clients.eraseIdx i) : c ∈ s.clients :=
    List.mem_of_mem_eraseIdx member
  exact ⟨{ recorded with joined := fun c member => recorded.joined c (stays c member) },
    { settled with
      told := fun c member => settled.told c (stays c member)
      current := fun c member => settled.current c (stays c member) }⟩

/-! ## Runs -/

theorem sound_start : Sound start := by
  refine ⟨⟨⟨?_, ?_⟩, ?_, ?_, ?_, ?_, ?_, ?_, ?_⟩, ?_, ?_, ?_⟩ <;> simp [start]

theorem sound_step (s : Stream) (a : Act) (sound : Sound s) (orderly : Orderly s a) :
    Sound (step s a) := by
  cases a with
  | update p => exact sound_update sound orderly
  | handOver i taken => exact sound_handOver sound orderly
  | event evt image nowUs => exact sound_event sound orderly
  | broadcast i taken => exact sound_broadcast sound i taken
  | connect admin => exact sound_connect sound admin
  | deliver => exact sound_deliver sound
  | close i => exact sound_close sound i

def queueDepth (n : Nat) : Publication where
  type := "status".toList
  payload := Events.unsigned n
  adminOnly := false
  nowUs := n

def inOrder : List Act :=
  [.connect false, .update (queueDepth 1), .update (queueDepth 2), .handOver 0 true,
    .handOver 0 true, .deliver, .connect true, .deliver]

-- The second publisher hands over before the first.
def overtaking : List Act :=
  [.connect false, .update (queueDepth 1), .update (queueDepth 2), .handOver 1 true,
    .handOver 0 true, .deliver, .deliver]

end Kerchunk.Web
