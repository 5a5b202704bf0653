import Kerchunk.Nws.Alerts

set_option autoImplicit false

/-!
# What enters the alert table and what leaves it (`modules/mod_nws.c`)
-/

namespace Kerchunk.Nws

open Config (KerchunkConfig)
open SlotTable (occupied)

def announcedAs (notice : Notice) (s : State) (i : Input) : List Config.Text :=
  ((announced s i).filter (·.notice = notice)).map Announcement.id

def Enters (s : State) (i : Input) (id : Config.Text) : Prop :=
  id ∉ s.ids ∧ id ∈ (step s i).ids

def Leaves (s : State) (i : Input) (id : Config.Text) : Prop :=
  id ∈ s.ids ∧ id ∉ (step s i).ids

/-- Those that the condition holds of, each of them once. -/
def OnceEach (ids : List Config.Text) (p : Config.Text → Prop) : Prop :=
  ids.Nodup ∧ ∀ id, id ∈ ids ↔ p id

structure Consistent (s : State) : Prop where
  distinct : s.ids.Nodup
  count : s.alertCount = s.tracked.length

/-- A poll that gives up an entry. -/
def GivesUp (s : State) (i : Input) (a : TrackedAlert) : Prop :=
  ∃ alerts now, i = .poll alerts now ∧
    (∀ l ∈ alerts, l.Counts s.minSeverity → l.id ≠ a.id) ∧ (a.expires = 0 ∨ a.expires ≤ now)

/-- What is announced is what happens to the table. `announces` says whether new alerts are. -/
structure Tracked (announces : State → Prop) (s : State) (i : Input) : Prop where
  new : OnceEach (announcedAs .new s i) fun id => announces s ∧ Enters s i id
  expired : OnceEach (announcedAs .expired s i) (Leaves s i)
  leaves : ∀ a ∈ s.tracked, Leaves s i a.id → GivesUp s i a

/-! ## The walk -/

/-- What the walk has done of the listed alerts, where `added` are the entries it has made. -/
structure Walked (s : State) (worked : List Listed) (added : List TrackedAlert) (w : Walk) :
    Prop where
  distinct : (w.entries.map Sighted.id).Nodup
  count : w.alertCount = w.entries.length
  entries : (w.entries.map Sighted.alert).Perm (added ++ s.tracked)
  listed : ∀ a ∈ added, ∃ l ∈ worked, l.Counts s.minSeverity ∧ l.id = a.id
  seen : ∀ e ∈ w.entries, ∀ l ∈ worked, l.Counts s.minSeverity → l.id = e.id → e.seen = true
  announced : w.announced =
    if s.autoAnnounce then added.map (announceNewAlert s.attentionTones) else []

theorem filterMap_id {α β : Type} (f : α → β) (entries : List α) :
    entries.filterMap (fun a => some (f a)) = entries.map f :=
  congrFun (List.filterMap_eq_map (f := f)) entries

theorem begin_walked {s : State} (consistent : Consistent s) : Walked s [] [] (beginWalk s) := by
  have entries : (beginWalk s).entries = s.tracked.map fun a => ⟨a, false⟩ := by
    unfold beginWalk Walk.entries
    dsimp only
    rw [SlotTable.occupied_map, filterMap_id]
    rfl
  have alerts : (beginWalk s).entries.map Sighted.alert = s.tracked := by
    rw [entries, List.map_map]
    exact List.map_id _
  refine ⟨?_, ?_, ?_, by simp, by simp, ?_⟩
  · have ids : (beginWalk s).entries.map Sighted.id = s.ids := by
      rw [entries, List.map_map]
      rfl
    rw [ids]
    exact consistent.distinct
  · rw [entries, List.length_map]
    exact consistent.count
  · rw [alerts]
    exact List.Perm.refl _
  · simp [beginWalk]

theorem newAlert_id (l : Listed) (now : Int) (announces : Bool) :
    (newAlert l now announces).id = l.id :=
  List.take_of_length_le (Nat.le_sub_one_of_lt l.idFits)

section Sight

variable {s : State} {worked : List Listed} {added : List TrackedAlert} {w : Walk} {l : Listed}

theorem Walked.listed_more (walked : Walked s worked added w) (l : Listed) :
    ∀ a ∈ added, ∃ k ∈ worked ++ [l], k.Counts s.minSeverity ∧ k.id = a.id := by
  intro a member
  obtain ⟨k, known, rest⟩ := walked.listed a member
  exact ⟨k, List.mem_append_left _ known, rest⟩

/-- An alert that does not count, or that no entry is of. -/
theorem Walked.passed (walked : Walked s worked added w)
    (foreign : l.Counts s.minSeverity → ∀ e ∈ w.entries, e.id ≠ l.id) :
    Walked s (worked ++ [l]) added w := by
  refine { walked with listed := walked.listed_more l, seen := ?_ }
  intro e present k member counts same
  rcases List.mem_append.mp member with known | here
  next => exact walked.seen e present k known counts same
  next =>
    rw [List.mem_singleton.mp here] at counts same
    exact absurd same.symm (foreign counts e present)

theorem Walked.marked (walked : Walked s worked added w) (l : Listed) :
    Walked s (worked ++ [l]) added
      { w with slots := markSeen l.id w.slots } := by
  let mark : Sighted → Sighted := fun e => if e.id = l.id then { e with seen := true } else e
  have entries : occupied (markSeen l.id w.slots) = w.entries.map mark := by
    rw [markSeen, SlotTable.occupied_alter (fun e => some { e with seen := true })
      (fun e => decide_eq_true_iff) walked.distinct, ← filterMap_id]
    refine List.filterMap_congr fun e _ => ?_
    by_cases same : e.id = l.id <;> simp [mark, same]
  have alert : ∀ e, (mark e).alert = e.alert := by
    intro e
    by_cases same : e.id = l.id <;> simp [mark, same]
  have alerts : Sighted.alert ∘ mark = Sighted.alert := funext alert
  have ids : Sighted.id ∘ mark = Sighted.id := congrArg (TrackedAlert.id ∘ ·) alerts
  refine ⟨?_, ?_, ?_, walked.listed_more l, ?_, walked.announced⟩
  · unfold Walk.entries
    rw [entries, List.map_map, ids]
    exact walked.distinct
  · unfold Walk.entries
    rw [entries, List.length_map]
    exact walked.count
  · unfold Walk.entries
    rw [entries, List.map_map, alerts]
    exact walked.entries
  · unfold Walk.entries
    rw [entries]
    intro e present k member counts same
    obtain ⟨e, before, rfl⟩ := List.mem_map.mp present
    rw [show (mark e).id = e.id from congrFun ids e] at same
    by_cases here : e.id = l.id
    next => simp [mark, here]
    next =>
      have known : k ∈ worked := by
        rcases List.mem_append.mp member with known | last
        next => exact known
        next =>
          rw [List.mem_singleton.mp last] at same
          exact absurd same.symm here
      simpa [mark, here] using walked.seen e before k known counts same

theorem Walked.entered (walked : Walked s worked added w) (counts : l.Counts s.minSeverity)
    (unknown : ∀ e ∈ w.entries, e.id ≠ l.id) {a : TrackedAlert} (named : a.id = l.id)
    {slots : List (Option Sighted)} (room : SlotTable.add ⟨a, true⟩ w.slots = some slots) :
    Walked s (worked ++ [l]) (added ++ [a])
      { slots := slots
        alertCount := w.alertCount + 1
        announced :=
          if s.autoAnnounce then w.announced ++ [announceNewAlert s.attentionTones a]
          else w.announced } := by
  have entries := SlotTable.add_perm room
  refine ⟨?_, ?_, ?_, ?_, ?_, ?_⟩
  · unfold Walk.entries
    rw [(entries.map Sighted.id).nodup_iff, List.map_cons, List.nodup_cons]
    refine ⟨?_, walked.distinct⟩
    intro member
    obtain ⟨e, present, same⟩ := List.mem_map.mp member
    exact unknown e present (same.trans named)
  · unfold Walk.entries
    rw [entries.length_eq, List.length_cons]
    have counted := walked.count
    unfold Walk.entries at counted
    push_cast
    omega
  · unfold Walk.entries
    refine (entries.map Sighted.alert).trans ?_
    rw [List.append_assoc, List.map_cons]
    exact (walked.entries.cons a).trans List.perm_middle.symm
  · intro b member
    rcases List.mem_append.mp member with earlier | here
    next => exact walked.listed_more l b earlier
    next =>
      rw [List.mem_singleton.mp here]
      exact ⟨l, List.mem_append_right _ (List.mem_singleton_self l), counts, named.symm⟩
  · intro e present k member listed same
    rcases List.mem_cons.mp (entries.mem_iff.mp present) with rfl | before
    next => rfl
    next =>
      rcases List.mem_append.mp member with known | here
      next => exact walked.seen e before k known listed same
      next =>
        rw [List.mem_singleton.mp here] at same
        exact absurd same.symm (unknown e before)
  · rw [walked.announced]
    by_cases announces : s.autoAnnounce = true <;> simp [announces]

theorem Walked.sight (walked : Walked s worked added w) (now : Int) (l : Listed) :
    ∃ added, Walked s (worked ++ [l]) added (Nws.sight s now w l) := by
  unfold Nws.sight
  by_cases counts : l.Counts s.minSeverity
  next =>
    rw [if_pos counts]
    by_cases found : (w.entries.any (·.id = l.id)) = true
    next =>
      rw [if_pos found]
      exact ⟨added, walked.marked l⟩
    next =>
      have unknown : ∀ e ∈ w.entries, e.id ≠ l.id := by simpa using found
      rw [if_neg found]
      dsimp only
      cases room : SlotTable.add ⟨newAlert l now s.autoAnnounce, true⟩ w.slots with
      | none => exact ⟨added, walked.passed fun _ => unknown⟩
      | some slots => exact ⟨_, walked.entered counts unknown (newAlert_id l now _) room⟩
  next =>
    rw [if_neg counts]
    exact ⟨added, walked.passed fun also => absurd also counts⟩

theorem Walked.sights (walked : Walked s worked added w) (now : Int) (alerts : List Listed) :
    ∃ added, Walked s (worked ++ alerts) added (alerts.foldl (Nws.sight s now) w) := by
  induction alerts generalizing worked added w with
  | nil => exact ⟨added, by simpa using walked⟩
  | cons l rest ih =>
    obtain ⟨further, after⟩ := walked.sight now l
    simpa using ih after

end Sight

/-! ## The end of a poll -/

section Expire

variable {s : State} {alerts : List Listed} {added : List TrackedAlert} {w : Walk}

theorem expire_entries (now : Int) (w : Walk) :
    (expire now w).entries = w.entries.filter fun e => !e.overdue now := by
  unfold expire Walk.entries
  dsimp only
  rw [SlotTable.occupied_map, ← List.filterMap_eq_filter]
  refine List.filterMap_congr fun e _ => ?_
  cases overdue : e.overdue now <;> simp [Option.guard, overdue]

theorem Walked.entry_of_added (walked : Walked s alerts added w) {a : TrackedAlert}
    (member : a ∈ added ++ s.tracked) : ∃ e ∈ w.entries, e.alert = a :=
  List.mem_map.mp (walked.entries.mem_iff.mpr member)

theorem Walked.added_stays (walked : Walked s alerts added w) {e : Sighted}
    (present : e ∈ w.entries) (new : e.alert ∈ added) (now : Int) : e.overdue now = false := by
  obtain ⟨l, listed, counts, same⟩ := walked.listed e.alert new
  simp [Sighted.overdue, walked.seen e present l listed counts same]

theorem Walked.overdue_tracked (walked : Walked s alerts added w) {e : Sighted}
    (present : e ∈ w.entries) {now : Int} (overdue : e.overdue now = true) :
    e.alert ∈ s.tracked := by
  have member := walked.entries.mem_iff.mp (List.mem_map_of_mem present)
  rcases List.mem_append.mp member with new | old
  next => simp [walked.added_stays present new] at overdue
  next => exact old

theorem Walked.same_entry (walked : Walked s alerts added w) {e f : Sighted}
    (first : e ∈ w.entries) (second : f ∈ w.entries) (same : e.id = f.id) : e = f :=
  List.inj_on_of_nodup_map walked.distinct first second same

theorem Walked.ids (walked : Walked s alerts added w) :
    (added.map TrackedAlert.id).Nodup ∧
      ∀ a ∈ added, a.id ∉ s.ids := by
  have all : (w.entries.map Sighted.id).Perm (added.map TrackedAlert.id ++ s.ids) := by
    have mapped := walked.entries.map TrackedAlert.id
    rwa [List.map_map, List.map_append] at mapped
  have distinct := all.nodup_iff.mp walked.distinct
  rw [List.nodup_append] at distinct
  exact ⟨distinct.1, fun a new old =>
    distinct.2.2 a.id (List.mem_map_of_mem new) a.id old rfl⟩

end Expire

section Poll

variable {s : State} {alerts : List Listed} {added : List TrackedAlert} {now : Int}

abbrev walk (s : State) (alerts : List Listed) (now : Int) : Walk :=
  alerts.foldl (sight s now) (beginWalk s)

theorem poll_tracked (s : State) (alerts : List Listed) (now : Int) :
    (step s (.poll alerts now)).tracked =
      (((walk s alerts now).entries).filter fun e => !e.overdue now).map Sighted.alert := by
  rw [← expire_entries]
  unfold step react processAlerts State.tracked Walk.entries
  dsimp only
  rw [SlotTable.occupied_map, filterMap_id]

theorem mem_poll_ids {id : Config.Text} :
    id ∈ (step s (.poll alerts now)).ids ↔
      ∃ e ∈ (walk s alerts now).entries, e.overdue now = false ∧ e.id = id := by
  unfold State.ids
  rw [poll_tracked, List.map_map]
  simp only [List.mem_map, List.mem_filter, Function.comp_apply, Bool.not_eq_true', and_assoc]
  rfl

variable (walked : Walked s alerts added (walk s alerts now))

include walked in
theorem enters_iff {id : Config.Text} :
    Enters s (.poll alerts now) id ↔ id ∈ added.map TrackedAlert.id := by
  unfold Enters
  rw [mem_poll_ids, List.mem_map]
  constructor
  · rintro ⟨absent, e, present, -, rfl⟩
    have member := walked.entries.mem_iff.mp (List.mem_map_of_mem present)
    rcases List.mem_append.mp member with new | old
    next => exact ⟨e.alert, new, rfl⟩
    next => exact absurd (List.mem_map_of_mem old) absent
  · rintro ⟨a, new, rfl⟩
    obtain ⟨e, present, rfl⟩ := walked.entry_of_added (List.mem_append_left _ new)
    exact ⟨walked.ids.2 e.alert new, e, present, walked.added_stays present new now, rfl⟩

include walked in
theorem leaves_iff {id : Config.Text} :
    Leaves s (.poll alerts now) id ↔
      id ∈ ((walk s alerts now).entries.filter (·.overdue now)).map Sighted.id := by
  unfold Leaves
  rw [mem_poll_ids]
  simp only [List.mem_map, List.mem_filter]
  constructor
  · rintro ⟨tracked, gone⟩
    obtain ⟨a, old, rfl⟩ := List.mem_map.mp tracked
    obtain ⟨e, present, rfl⟩ := walked.entry_of_added (List.mem_append_right _ old)
    refine ⟨e, ⟨present, ?_⟩, rfl⟩
    by_contra stays
    exact gone ⟨e, present, Bool.eq_false_iff.mpr stays, rfl⟩
  · rintro ⟨e, ⟨present, overdue⟩, rfl⟩
    refine ⟨List.mem_map_of_mem (walked.overdue_tracked present overdue), ?_⟩
    rintro ⟨f, also, stays, same⟩
    rw [walked.same_entry also present same, overdue] at stays
    cases stays

theorem poll_announcedAs (notice : Notice) :
    announcedAs notice s (.poll alerts now) =
      (((walk s alerts now).announced ++
        ((walk s alerts now).entries.filter (·.overdue now)).map
          fun e => announceExpired e.alert).filter (·.notice = notice)).map Announcement.id := rfl

theorem filter_notice {α : Type} (announce : α → Announcement) {notice : Notice}
    (same : ∀ a, (announce a).notice = notice) (wanted : Notice) (entries : List α) :
    (entries.map announce).filter (·.notice = wanted) =
      if notice = wanted then entries.map announce else [] := by
  split
  next match_ =>
    rw [List.filter_eq_self]
    intro a member
    obtain ⟨e, -, rfl⟩ := List.mem_map.mp member
    simp [same, match_]
  next other =>
    rw [List.filter_eq_nil_iff]
    intro a member
    obtain ⟨e, -, rfl⟩ := List.mem_map.mp member
    simp [same, other]

include walked in
theorem announced_new :
    announcedAs .new s (.poll alerts now) =
      if s.autoAnnounce then added.map TrackedAlert.id else [] := by
  rw [poll_announcedAs, walked.announced, List.filter_append,
    filter_notice (fun e : Sighted => announceExpired e.alert) fun _ => rfl,
    if_neg (show ¬ Notice.expired = .new by decide), List.append_nil]
  split
  next =>
    rw [filter_notice (announceNewAlert _) fun _ => rfl, if_pos rfl, List.map_map]
    rfl
  next => rfl

include walked in
theorem announced_expired :
    announcedAs .expired s (.poll alerts now) =
      ((walk s alerts now).entries.filter (·.overdue now)).map Sighted.id := by
  have new : (walk s alerts now).announced.filter (·.notice = .expired) = [] := by
    rw [walked.announced]
    split
    next => exact filter_notice (announceNewAlert _) (fun _ => rfl) .expired added
    next => rfl
  rw [poll_announcedAs, List.filter_append, new, List.nil_append,
    filter_notice (fun e : Sighted => announceExpired e.alert) fun _ => rfl, if_pos rfl,
    List.map_map]
  rfl

include walked in
theorem poll_gives_up {a : TrackedAlert} (old : a ∈ s.tracked)
    (leaves : Leaves s (.poll alerts now) a.id) : GivesUp s (.poll alerts now) a := by
  obtain ⟨e, present, rfl⟩ := walked.entry_of_added (List.mem_append_right _ old)
  have overdue : e.overdue now = true := by
    by_contra stays
    exact leaves.2 (mem_poll_ids.mpr ⟨e, present, Bool.eq_false_iff.mpr stays, rfl⟩)
  have unseen : e.seen = false ∧ (e.alert.expires = 0 ∨ e.alert.expires ≤ now) := by
    simpa [Sighted.overdue] using overdue
  refine ⟨alerts, now, rfl, ?_, unseen.2⟩
  intro l listed counts same
  have seen := walked.seen e present l listed counts same
  rw [unseen.1] at seen
  cases seen

include walked in
theorem tracked_poll : Tracked (·.autoAnnounce = true) s (.poll alerts now) where
  new := by
    rw [announced_new walked]
    unfold OnceEach
    simp only [enters_iff walked]
    by_cases announces : s.autoAnnounce = true
    next => simpa [announces] using walked.ids.1
    next => simp [announces]
  expired := by
    rw [announced_expired walked]
    refine ⟨?_, fun id => (leaves_iff walked).symm⟩
    exact walked.distinct.sublist (List.filter_sublist.map Sighted.id)
  leaves := fun _ old => poll_gives_up walked old

include walked in
theorem consistent_poll : Consistent (step s (.poll alerts now)) where
  distinct := by
    unfold State.ids
    rw [poll_tracked, List.map_map]
    exact walked.distinct.sublist (List.filter_sublist.map Sighted.id)
  count := by
    have counted : (step s (.poll alerts now)).alertCount =
        (walk s alerts now).alertCount -
          ((walk s alerts now).entries.filter (·.overdue now)).length := rfl
    have parts := List.length_eq_length_filter_add (l := (walk s alerts now).entries)
      (·.overdue now)
    rw [counted, walked.count, poll_tracked, List.length_map, parts]
    push_cast
    omega

end Poll

/-! ## Every step -/

theorem quiet {s : State} {i : Input} (ids : (step s i).ids = s.ids)
    (silent : ∀ a ∈ announced s i, a.notice = .reminder) (announces : State → Prop) :
    Tracked announces s i := by
  have none (notice : Notice) (other : notice ≠ .reminder) : announcedAs notice s i = [] := by
    unfold announcedAs
    rw [List.filter_eq_nil_iff.mpr, List.map_nil]
    intro a member
    simpa [silent a member] using other.symm
  refine ⟨?_, ?_, ?_⟩
  · rw [none .new (by decide)]
    simp [OnceEach, Enters, ids]
  · rw [none .expired (by decide)]
    simp [OnceEach, Leaves, ids]
  · intro a _ leaves
    rw [Leaves, ids] at leaves
    exact absurd leaves.1 leaves.2

theorem reannounce_tracked (s : State) (now : Int) :
    (step s (.reannounce now)).tracked =
      s.tracked.map fun a => if due s now a then { a with lastAnnounced := now } else a := by
  unfold step react reannounce State.tracked
  dsimp only
  rw [SlotTable.occupied_map, filterMap_id]

theorem reannounce_ids (s : State) (now : Int) : (step s (.reannounce now)).ids = s.ids := by
  unfold State.ids
  rw [reannounce_tracked, List.map_map]
  refine List.map_congr_left fun a _ => ?_
  by_cases late : due s now a = true <;> simp [late]

theorem step_tracked {s : State} (consistent : Consistent s) (i : Input) :
    Consistent (step s i) ∧ Tracked (·.autoAnnounce = true) s i := by
  cases i with
  | poll alerts now =>
    obtain ⟨added, walked⟩ := (begin_walked consistent).sights now alerts
    exact ⟨consistent_poll walked, tracked_poll walked⟩
  | reannounce now =>
    refine ⟨⟨?_, ?_⟩, quiet (reannounce_ids s now) ?_ _⟩
    · rw [reannounce_ids]
      exact consistent.distinct
    · rw [reannounce_tracked, List.length_map]
      exact consistent.count
    · intro a member
      obtain ⟨alert, -, rfl⟩ := List.mem_map.mp member
      rfl
  | configure cfg =>
    refine ⟨⟨consistent.distinct, consistent.count⟩, quiet rfl ?_ _⟩
    intro a member
    cases member

theorem start_consistent : Consistent start where
  distinct := by decide
  count := by decide

theorem alerts_tracked (inputs : List Input) :
    Consistent (Machine.run step start inputs) ∧
      Machine.Guarded step (Tracked (·.autoAnnounce = true)) start inputs := by
  have free : Machine.Guarded step (fun _ _ => True) start inputs :=
    Machine.guarded_of_forall step (fun _ _ _ => trivial) start
  have keeps : ∀ s i, Consistent s → True →
      Consistent (step s i) ∧ Tracked (·.autoAnnounce = true) s i :=
    fun _ i consistent _ => step_tracked consistent i
  exact ⟨Machine.run_invariant step (fun s i consistent _ => (keeps s i consistent trivial).1)
      start_consistent free,
    Machine.guarded_of_invariant step keeps start_consistent free⟩

def unannounced : KerchunkConfig :=
  [{ sectionName := "nws".toList, key := "auto_announce".toList, value := "off".toList }]

theorem tornado_id_fits : "urn:1".toList.length < alertIdLen := by decide

def tornadoWarning : Listed where
  id := "urn:1".toList
  event := "Tornado Warning".toList
  severity := "Extreme".toList
  headline := "Tornado Warning issued".toList
  status := "Actual".toList
  description := []
  instruction := []
  areaDesc := []
  sender := "NWS Tulsa OK".toList
  effective := 1714582800
  expires := 1714586400
  idFits := tornado_id_fits

/-- With `auto_announce` off a new alert is not announced. -/
theorem silent_alert :
    ¬ Machine.Guarded step (Tracked fun _ => True) start
      [.configure unannounced, .poll [tornadoWarning] 1714582800] := by
  intro tracked
  have enters : Enters (step start (.configure unannounced)) (.poll [tornadoWarning] 1714582800)
      tornadoWarning.id := by
    unfold Enters
    decide
  have said := (tracked.2.1.new.2 tornadoWarning.id).mpr ⟨trivial, enters⟩
  revert said
  decide

end Kerchunk.Nws
