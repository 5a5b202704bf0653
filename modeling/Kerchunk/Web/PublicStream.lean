import Kerchunk.Web.Stream
import Mathlib.Data.List.Forall2
import Mathlib.Data.List.InsertIdx

set_option autoImplicit false

/-!
# What clients without a login can tell about users
-/

namespace Kerchunk.Web

open Events (Text Event EventData Vcor)
open Machine (run)

/-! ## Runs that differ in identities -/

def anonymous (vcor : Vcor) : Vcor :=
  { vcor with userId := 0, username := none }

def namesUsers (source : Option Text) : Bool :=
  -- Transcripts, what is spoken, and the name of a user of the web microphone.
  source = some "asr".toList || source = some "tts".toList || source = some "web_ptt".toList

def redact : EventData → EventData
  -- The event without users, digits, transcripts and paths.
  | .vcorAssert vcor => .vcorAssert (anonymous vcor)
  | .vcorDrop vcor => .vcorDrop (anonymous vcor)
  | .callerIdentified _ _ => .callerIdentified 0 0
  | .dtmfDigit _ => .dtmfDigit '0'
  | .recordingSaved _ direction _ tenths => .recordingSaved none direction 0 tenths
  | .announcement source description =>
    .announcement source (if namesUsers source then none else description)
  | data => data

/-- The same is done at the same times, but for identities in events and for what is published to
admins alone. -/
inductive Alike : Act → Act → Prop where
  | same (a : Act) : Alike a a
  | update (p q : Publication) (type : p.type = q.type) (admin : p.adminOnly = true)
      (alsoAdmin : q.adminOnly = true) : Alike (.update p) (.update q)
  | event (evt other : Event) (image : StatusImage) (nowUs : Nat)
      (time : evt.timestampUs = other.timestampUs) (data : redact evt.data = redact other.data) :
      Alike (.event evt image nowUs) (.event other image nowUs)

def Stream.publicBytes (s : Stream) : List Text :=
  (s.clients.filter fun c => !c.admin).map Client.bytes

def Undisclosed : Act → Act → Prop
  -- Of virtual carriers and announcements the runs have the same, and every event can be printed.
  | .event evt _ _, .event other _ _ =>
    (isPublicSafeEvent evt.data = true → evt.data = other.data) ∧
      Json.size evt.record ≤ Events.intMax ∧ Json.size other.record ≤ Events.intMax
  | _, _ => True

/-! ## What is public of a state -/

def Version.hide (v : Version) : Nat × Text × Option Publication :=
  (v.serial, v.type, if v.adminOnly then none else some v.publication)

def Slot.hide (slot : Slot) : Text × Nat × Text × Option Publication :=
  (slot.type, slot.version.hide)

def hideEvent (evt : Event) : Nat × EventData :=
  (evt.timestampUs, if isPublicSafeEvent evt.data then evt.data else redact evt.data)

def Wakeup.hide (w : Wakeup) : Option Text :=
  if w.isPublic then some w.payload else none

def Client.hide (c : Client) : Option (List Text) :=
  if c.admin then none else some (c.heard.map Heard.text)

/-- The states differ in nothing that is public, and in nothing that waits by how much there is. -/
structure Same (s t : Stream) : Prop where
  published : s.published.length = t.published.length
  cache : s.cache.map Slot.hide = t.cache.map Slot.hide
  pending : s.pending.map Version.hide = t.pending.map Version.hide
  handling : s.handling.map hideEvent = t.handling.map hideEvent
  printed : (∀ evt ∈ s.handling, Json.size evt.record ≤ Events.intMax) ∧
    ∀ evt ∈ t.handling, Json.size evt.record ≤ Events.intMax
  wakeups : s.wakeups.map Wakeup.hide = t.wakeups.map Wakeup.hide
  clients : s.clients.map Client.hide = t.clients.map Client.hide

theorem publicBytes_eq (s : Stream) : s.publicBytes =
    (s.clients.map Client.hide).filterMap (Option.map (List.flatMap dataLine)) := by
  have bytes (c : Client) : (c.heard.map Heard.text).flatMap dataLine = c.bytes := List.flatMap_map ..
  unfold Stream.publicBytes
  induction s.clients with
  | nil => rfl
  | cons c rest ih =>
    cases admin : c.admin with
    | true => simpa [admin, Client.hide] using ih
    | false => simpa [admin, Client.hide, bytes] using ih

theorem publicBytes_same {s t : Stream} (same : Same s t) : s.publicBytes = t.publicBytes := by
  rw [publicBytes_eq, publicBytes_eq, same.clients]

/-! ## What redacting leaves -/

theorem redact_kind (data : EventData) :
    Events.webSubscribed (redact data) = Events.webSubscribed data ∧
      refreshesStatus (redact data) = refreshesStatus data ∧
      isPublicSafeEvent (redact data) = isPublicSafeEvent data := by
  cases data <;> exact ⟨rfl, rfl, rfl⟩

theorem kinds_of_redact {data other : EventData} (same : redact data = redact other) :
    Events.webSubscribed data = Events.webSubscribed other ∧
      refreshesStatus data = refreshesStatus other ∧
      isPublicSafeEvent data = isPublicSafeEvent other := by
  obtain ⟨subscribed, refreshes, safe⟩ := redact_kind data
  rw [same] at subscribed refreshes safe
  obtain ⟨subscribed', refreshes', safe'⟩ := redact_kind other
  exact ⟨subscribed.symm.trans subscribed', refreshes.symm.trans refreshes', safe.symm.trans safe'⟩

/-- Two acts that an observer of public things cannot tell apart. -/
structure Unseen (a b : Act) : Prop where
  alike : Alike a b
  undisclosed : Undisclosed a b

/-! ## Publishing -/

variable {s t : Stream}

theorem store_hide {v w : Version} (same : v.hide = w.hide) {cache other : List Slot}
    (caches : cache.map Slot.hide = other.map Slot.hide) :
    (storeSnapshot v cache).map Slot.hide = (storeSnapshot w other).map Slot.hide := by
  have type : v.type = w.type := congrArg (fun hidden => hidden.2.1) same
  induction cache generalizing other with
  | nil =>
    obtain rfl : other = [] := List.map_eq_nil_iff.mp caches.symm
    simp [storeSnapshot, Slot.hide, type, same]
  | cons slot rest ih =>
    cases other with
    | nil => cases caches
    | cons slot' rest' =>
      obtain ⟨slots, rests⟩ := List.cons.inj caches
      have types : slot.type = slot'.type := congrArg Prod.fst slots
      unfold storeSnapshot
      rw [types, type]
      split
      next =>
        rw [List.map_cons, List.map_cons, rests]
        simp only [Slot.hide, same]
      next => rw [List.map_cons, List.map_cons, slots, ih rests]

theorem same_update (same : Same s t) {p q : Publication} (type : p.type = q.type)
    (hidden : (if p.adminOnly then none else some p) = if q.adminOnly then none else some q) :
    Same (s.update p) (t.update q) := by
  unfold Stream.update
  rw [type]
  split
  next => exact same
  next =>
    have version : ({ serial := s.published.length, publication := p } : Version).hide =
        ({ serial := t.published.length, publication := q } : Version).hide := by
      rw [Version.hide, Version.hide, same.published]
      exact congrArg (Prod.mk _) (Prod.ext type hidden)
    refine { same with published := ?_, cache := ?_, pending := ?_ }
    next => rw [List.length_append, List.length_append, same.published]; rfl
    next => exact store_hide version same.cache
    next => rw [List.map_append, List.map_append, same.pending, List.map_singleton,
        List.map_singleton, version]

theorem found_same {A B : Type} {f : A → B} {first second : List A}
    (same : first.map f = second.map f) (i : Nat) : first[i]?.map f = second[i]?.map f := by
  rw [← List.getElem?_map, ← List.getElem?_map, same]

theorem erased_same {A B : Type} {f : A → B} {first second : List A}
    (same : first.map f = second.map f) (i : Nat) :
    (first.eraseIdx i).map f = (second.eraseIdx i).map f := by
  rw [← List.eraseIdx_map, ← List.eraseIdx_map, same]

theorem same_wake (same : Same s t) (taken : Bool) {w u : Wakeup} (hidden : w.hide = u.hide) :
    Same (s.wake taken w) (t.wake taken u) := by
  have counted : s.clients.isEmpty = t.clients.isEmpty := by
    have empty := congrArg List.isEmpty same.clients
    rwa [List.isEmpty_map, List.isEmpty_map] at empty
  unfold Stream.wake
  rw [counted]
  split
  next => exact same
  next =>
    refine { same with wakeups := ?_ }
    rw [List.map_append, List.map_append, same.wakeups, List.map_singleton, List.map_singleton, hidden]

theorem snapshot_hide {v w : Version} (same : v.hide = w.hide) :
    (Wakeup.snapshot v).hide = (Wakeup.snapshot w).hide := by
  have eq (v : Version) : (Wakeup.snapshot v).hide =
      v.hide.2.2.map fun publication => publication.line.take wakeupRoom := by
    cases admin : v.adminOnly <;>
      simp [Wakeup.hide, Wakeup.isPublic, Wakeup.payload, Version.hide, Version.line, admin]
  rw [eq, eq, same]

theorem same_handOver (same : Same s t) (i : Nat) (taken : Bool) :
    Same (s.handOver i taken) (t.handOver i taken) := by
  have found := found_same same.pending i
  have rest : Same { s with pending := s.pending.eraseIdx i }
      { t with pending := t.pending.eraseIdx i } :=
    { same with pending := erased_same same.pending i }
  unfold Stream.handOver
  cases first : s.pending[i]? with
  | none =>
    rw [first, Option.map_none] at found
    rw [Option.map_eq_none_iff.mp found.symm]
    exact same
  | some v =>
    rw [first, Option.map_some] at found
    obtain ⟨w, second, hidden⟩ := Option.map_eq_some_iff.mp found.symm
    rw [second]
    exact same_wake rest taken (snapshot_hide hidden.symm)

/-! ## Events -/

theorem hideEvent_same {evt other : Event} (time : evt.timestampUs = other.timestampUs)
    (data : redact evt.data = redact other.data)
    (undisclosed : isPublicSafeEvent evt.data = true → evt.data = other.data) :
    hideEvent evt = hideEvent other := by
  unfold hideEvent
  rw [time, ← (kinds_of_redact data).2.2]
  split
  next safe => rw [undisclosed safe]
  next => rw [data]

theorem event_of_hide {evt other : Event} (hidden : hideEvent evt = hideEvent other) :
    isPublicSafeEvent evt.data = isPublicSafeEvent other.data ∧
      (isPublicSafeEvent evt.data = true → evt = other) := by
  have safe (evt : Event) :
      isPublicSafeEvent (hideEvent evt).2 = isPublicSafeEvent evt.data := by
    unfold hideEvent
    split
    next => rfl
    next => exact (redact_kind evt.data).2.2
  have both : isPublicSafeEvent evt.data = isPublicSafeEvent other.data := by
    rw [← safe, ← safe, hidden]
  refine ⟨both, fun isSafe => ?_⟩
  obtain ⟨time, data⟩ := Prod.mk.inj hidden
  rw [if_pos isSafe, if_pos (both ▸ isSafe)] at data
  cases evt
  cases other
  simp_all

theorem same_event (same : Same s t) {evt other : Event} (image : StatusImage) (nowUs : Nat)
    (time : evt.timestampUs = other.timestampUs) (data : redact evt.data = redact other.data)
    (undisclosed : Undisclosed (.event evt image nowUs) (.event other image nowUs)) :
    Same (s.event evt image nowUs) (t.event other image nowUs) := by
  obtain ⟨subscribed, refreshes, _⟩ := kinds_of_redact data
  obtain ⟨open_data, printed, printed'⟩ := undisclosed
  have handled {s t : Stream} (same : Same s t) :
      Same { s with handling := s.handling ++ [evt] } { t with handling := t.handling ++ [other] } := by
    refine { same with handling := ?_, printed := ⟨?_, ?_⟩ }
    next =>
      rw [List.map_append, List.map_append, same.handling, List.map_singleton, List.map_singleton,
        hideEvent_same time data open_data]
    next => exact List.forall_mem_append.mpr ⟨same.printed.1, by simpa using printed⟩
    next => exact List.forall_mem_append.mpr ⟨same.printed.2, by simpa using printed'⟩
  unfold Stream.event statusUpdate
  rw [subscribed, refreshes]
  split
  next => exact same
  next =>
    apply handled
    split
    next =>
      cases image.publication nowUs with
      | none => exact same
      | some p => exact same_update same rfl rfl
    next => exact same

theorem webEvent_some {evt : Event} (printed : Json.size evt.record ≤ Events.intMax) :
    ∃ sent, Events.webEvent evt = some sent := by
  have positive := Events.size_positive evt
  have length := Events.printed_length printed (Events.webBufferSize - 1)
  refine ⟨_, if_pos ?_⟩
  rw [length]
  exact Int.natCast_pos.mpr positive

theorem event_hide (isPublic : Bool) (text : Text) : (Wakeup.event isPublic text).hide =
    if isPublic then some (text.take wakeupRoom) else none := rfl

theorem same_broadcast (same : Same s t) (i : Nat) (taken : Bool) :
    Same (s.broadcast i taken) (t.broadcast i taken) := by
  have found := found_same same.handling i
  have rest : Same { s with handling := s.handling.eraseIdx i }
      { t with handling := t.handling.eraseIdx i } :=
    { same with
      handling := erased_same same.handling i
      printed := ⟨fun evt member => same.printed.1 evt (List.mem_of_mem_eraseIdx member),
        fun evt member => same.printed.2 evt (List.mem_of_mem_eraseIdx member)⟩ }
  unfold Stream.broadcast
  cases first : s.handling[i]? with
  | none =>
    rw [first, Option.map_none] at found
    rw [Option.map_eq_none_iff.mp found.symm]
    exact same
  | some evt =>
    rw [first, Option.map_some] at found
    obtain ⟨other, second, hidden⟩ := Option.map_eq_some_iff.mp found.symm
    obtain ⟨safe, open_event⟩ := event_of_hide hidden.symm
    obtain ⟨sent, sends⟩ := webEvent_some (same.printed.1 evt (List.mem_of_getElem? first))
    obtain ⟨sent', sends'⟩ := webEvent_some (same.printed.2 other (List.mem_of_getElem? second))
    rw [second]
    dsimp only
    rw [sends, sends']
    apply same_wake rest
    rw [event_hide, event_hide, ← safe]
    split
    next isSafe =>
      obtain rfl := open_event isSafe
      rw [sends] at sends'
      rw [Option.some.inj sends']
    next => rfl

/-! ## Clients -/

theorem replayed_hide (cache : List Slot) :
    (cache.filterMap (replay false)).map Heard.text =
      (cache.map Slot.hide).filterMap fun hidden => hidden.2.2.2.map Publication.line := by
  induction cache with
  | nil => rfl
  | cons slot rest ih =>
    cases admin : slot.version.adminOnly with
    | true => simpa [replay, admin, Slot.hide, Version.hide] using ih
    | false => simpa [replay, admin, Slot.hide, Version.hide, Version.line] using ih

theorem same_connect (same : Same s t) (admin : Bool) : Same (s.connect admin) (t.connect admin) := by
  refine { same with clients := ?_ }
  have new (s : Stream) : ({
      admin := admin
      joined := s.published.length
      heard := s.cache.filterMap (replay admin) } : Client).hide =
        if admin then none
        else some ((s.cache.map Slot.hide).filterMap fun hidden =>
          hidden.2.2.2.map Publication.line) := by
    cases admin with
    | true => rfl
    | false => rw [← replayed_hide]; rfl
  change (s.clients ++ [_]).map Client.hide = (t.clients ++ [_]).map Client.hide
  rw [List.map_append, List.map_append, same.clients, List.map_singleton, List.map_singleton, new,
    new, same.cache]

theorem receive_hide (w : Wakeup) (c : Client) :
    (c.receive w).hide = c.hide.map fun texts => texts ++ w.hide.toList := by
  unfold Client.receive Client.hide Wakeup.hide
  cases admin : c.admin with
  | true => simp
  | false => cases shown : w.isPublic <;> simp [admin, Wakeup.heard]

theorem same_deliver (same : Same s t) : Same s.deliver t.deliver := by
  unfold Stream.deliver
  cases first : s.wakeups with
  | nil =>
    have none : t.wakeups = [] := by
      have hidden := same.wakeups
      rw [first] at hidden
      exact List.map_eq_nil_iff.mp hidden.symm
    rw [none]
    exact same
  | cons w rest =>
    obtain ⟨u, rest', second, hidden, rests⟩ : ∃ u rest', t.wakeups = u :: rest' ∧
        w.hide = u.hide ∧ rest.map Wakeup.hide = rest'.map Wakeup.hide := by
      have hidden := same.wakeups
      rw [first] at hidden
      cases second : t.wakeups with
      | nil =>
        rw [second] at hidden
        cases hidden
      | cons u rest' =>
        rw [second] at hidden
        exact ⟨u, rest', rfl, List.cons.inj hidden⟩
    rw [second]
    refine { same with wakeups := rests, clients := ?_ }
    have received (w : Wakeup) (clients : List Client) : (clients.map (Client.receive w)).map Client.hide =
        (clients.map Client.hide).map (Option.map fun texts => texts ++ w.hide.toList) := by
      rw [List.map_map, List.map_map]
      exact List.map_congr_left fun c _ => receive_hide w c
    rw [received, received, same.clients, hidden]

/-! ## Runs -/

theorem same_step (same : Same s t) {a b : Act} (unseen : Unseen a b) : Same (step s a) (step t b) := by
  obtain ⟨alike, undisclosed⟩ := unseen
  cases alike with
  | update p q type admin alsoAdmin =>
    exact same_update same type (by rw [admin, alsoAdmin]; rfl)
  | event evt other image nowUs time data => exact same_event same image nowUs time data undisclosed
  | same =>
    cases a with
    | update p => exact same_update same rfl rfl
    | handOver i taken => exact same_handOver same i taken
    | event evt image nowUs => exact same_event same image nowUs rfl rfl undisclosed
    | broadcast i taken => exact same_broadcast same i taken
    | connect admin => exact same_connect same admin
    | deliver => exact same_deliver same
    | close i => exact { same with clients := erased_same same.clients i }

theorem same_start : Same start start :=
  ⟨rfl, rfl, rfl, rfl, by simp [start], rfl, rfl⟩

theorem same_run {first second : List Act} (unseen : List.Forall₂ Unseen first second)
    (same : Same s t) : Same (run step s first) (run step t second) := by
  induction unseen generalizing s t with
  | nil => exact same
  | cons here _ ih => exact ih (same_step same here)

def idleImage : StatusImage where
  rxState := "IDLE".toList
  txState := "TX_IDLE".toList
  cor := false
  ptt := false
  emergency := false
  emergencyExpiresAt := 0
  queueDepth := 0
  audioListeners := 0
  sampleRate := 48000
  registrationEnabled := false

def sends (data : EventData) : List Act :=
  -- A client without a login is sent what there is of the event.
  [.connect false, .event { data := data, timestampUs := 1000 } idleImage 1000, .broadcast 0 true,
    .deliver]

theorem alike_sends {data other : EventData} (same : redact data = redact other) :
    List.Forall₂ Alike (sends data) (sends other) :=
  .cons (.same _) (.cons (.event _ _ _ _ rfl same) (.cons (.same _) (.cons (.same _) .nil)))

def speaker (username : String) : EventData :=
  .vcorAssert { source := some "zello".toList, userId := 9001, username := some username.toList }

end Kerchunk.Web
