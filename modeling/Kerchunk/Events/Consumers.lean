import Kerchunk.Events.Json
import Kerchunk.Lib.CString

set_option autoImplicit false

/-!
# Who sends events on (`modules/mod_web.c`, `src/kerchunk_socket.c`, `modules/mod_webhook.c`)

Each prints an event into a buffer of its own and looks at the length that the serialiser returns.
-/

namespace Kerchunk.Events

/-! ## Printing -/

def intMax : Nat := 2147483647

def cstr (buf : Text) : Text :=
  CString.read (Char.ofNat 0) buf

/-- What `snprintf` returns, and the string that it leaves in the buffer. -/
structure Printed where
  length : Int
  buffer : Text
deriving DecidableEq

def snprintf (size : Nat) (text : Text) : Printed where
  length := if text.length ≤ intMax then text.length else -1
  buffer := cstr (text.take (size - 1))

/-- What goes out, and how many bytes of each buffer are read for it, with the buffers' sizes. -/
structure Sent where
  text : Text
  reads : List (Nat × Nat)
deriving DecidableEq

/-! ## The event stream -/

def webBufferSize : Nat := 520

def webSubscribed : EventData → Bool
  | .corAssert | .corDrop | .vcorAssert _ | .vcorDrop _ | .pttAssert | .pttDrop
  | .rxStateChange _ _ | .txStateChange _ _ | .tailStart | .tailExpire | .rxTimeout
  | .callerIdentified _ _ | .callerCleared | .dtmfDigit _ | .dtmfEnd | .queueDrain
  | .queueComplete _ | .queuePreempted _ _ | .recordingSaved _ _ _ _ | .announcement _ _
  | .configReload | .shutdown | .heartbeat => true
  | .custom id => id ≤ 15
  | _ => false

def webEvent (evt : Event) : Option Sent :=
  -- `web_event_handler` with clients. A byte for the scope stands before the text, and the terminator
  -- ends what is sent to a client.
  let printed := snprintf (webBufferSize - 1) (kerchevtToJson evt)
  if printed.length > 0 then
    some { text := printed.buffer, reads := [(printed.length.toNat + 1, webBufferSize)] }
  else none

/-! ## The control socket -/

def evtLineMax : Nat := 1152
def socketBufferSize : Nat := 512

def socketSubscribed : EventData → Bool
  | .corAssert | .corDrop | .vcorAssert _ | .vcorDrop _ | .pttAssert | .pttDrop
  | .rxStateChange _ _ | .tailStart | .tailExpire | .rxTimeout | .callerIdentified _ _
  | .callerCleared | .ctcssDetect _ _ | .dcsDetect _ _ | .dtmfDigit _ | .dtmfEnd | .queueDrain
  | .queueComplete _ | .recordingSaved _ _ _ _ | .announcement _ _ | .configReload
  | .shutdown => true
  | _ => false

def broadcastEvent (evt : Event) : Option Sent :=
  -- `kerchunk_socket_broadcast_event`. In a response the text waits in a slot of the ring, else it
  -- is sent as a line that starts with a mark.
  let printed := snprintf socketBufferSize (kerchevtToJson evt)
  if printed.length ≤ 0 then none
  else
    some {
      text := printed.buffer
      reads := [(printed.buffer.length + 1, socketBufferSize), (printed.buffer.length + 1, evtLineMax),
        (printed.buffer.length + 3, evtLineMax + 4)] }

/-! ## The webhook -/

def payloadMax : Nat := 1024

def onEvent (evt : Event) : Option Sent :=
  let printed := snprintf payloadMax (kerchevtToJson evt)
  if printed.length ≤ 0 ∨ printed.length ≥ payloadMax then none
  else some { text := printed.buffer, reads := [(printed.buffer.length + 1, payloadMax)] }

/-! ## Consumers -/

inductive Consumer where
  | sse
  | cli
  | webhook
deriving DecidableEq

/-- Whom a consumer serves: it has clients or a worker, and which events are configured. -/
structure Audience where
  listening : Bool
  chosen : EventData → Bool

def Consumer.subscribed (c : Consumer) (a : Audience) (data : EventData) : Bool :=
  match c with
  | .sse => webSubscribed data
  | .cli => socketSubscribed data
  | .webhook => a.chosen data

def Consumer.send (c : Consumer) (a : Audience) (evt : Event) : Option Sent :=
  if a.listening && c.subscribed a evt.data then
    match c with
    | .sse => webEvent evt
    | .cli => broadcastEvent evt
    | .webhook => onEvent evt
  else none

def Whole (evt : Event) (sent : Option Sent) : Prop :=
  -- What is sent reads as the event, and no buffer is read past its end.
  ∀ out ∈ sent, Json.readObject out.text = some evt.record ∧ ∀ read ∈ out.reads, read.1 ≤ read.2

instance (evt : Event) (sent : Option Sent) : Decidable (Whole evt sent) :=
  inferInstanceAs (Decidable (∀ out ∈ sent, _ ∧ _))

def Consumer.Faithful (c : Consumer) (a : Audience) (evt : Event) : Prop :=
  Whole evt (c.send a evt)

def Consumer.room : Consumer → Nat
  -- The text that the buffer has room for.
  | .sse => 518
  | .cli => 511
  | .webhook => 1023

def Consumer.Silent (c : Consumer) (a : Audience) (evt : Event) : Prop :=
  (a.listening && c.subscribed a evt.data) = false ∨ intMax < Json.size evt.record ∨
    c = .webhook ∧ c.room < Json.size evt.record

/-- No string needs an escape, and the text fits. -/
structure Consumer.Fits (c : Consumer) (evt : Event) : Prop where
  plain : ∀ s ∈ evt.data.strings, Json.Plain s
  room : Json.size evt.record ≤ c.room

/-! ## What is read back -/

theorem printed_reads (evt : Event) (size : Nat) :
    Json.readObject (cstr ((kerchevtToJson evt).take size)) = some evt.record ↔
      (∀ s ∈ evt.data.strings, Json.Plain s) ∧ Json.size evt.record ≤ size := by
  constructor
  next =>
    intro reads
    have enough := Json.size_of_readObject reads
    have cut : (cstr ((kerchevtToJson evt).take size)).length ≤ ((kerchevtToJson evt).take size).length :=
      (List.takeWhile_prefix _).length_le
    have short : ((kerchevtToJson evt).take size).length ≤ size := List.length_take_le ..
    have long := json_length evt
    have whole : (kerchevtToJson evt).take size = kerchevtToJson evt :=
      List.take_of_length_le (by omega)
    have same : cstr (kerchevtToJson evt) = kerchevtToJson evt := by
      apply (List.takeWhile_prefix _).eq_of_length_le
      rw [whole] at enough
      exact long ▸ enough
    rw [whole, same] at reads
    exact ⟨(json_reads evt).mp reads, by omega⟩
  next =>
    rintro ⟨plain, fits⟩
    have regular := (record_regular evt).mpr plain
    have clean : Char.ofNat 0 ∉ kerchevtToJson evt := by
      rw [kerchevtToJson_eq]
      intro member
      exact absurd (Json.printable_render regular _ member) (by decide)
    rw [List.take_of_length_le (json_length evt ▸ fits), cstr, CString.read_plain clean]
    exact (json_reads evt).mpr plain

theorem sent_reads (c : Consumer) (evt : Event) :
    Json.readObject (cstr ((kerchevtToJson evt).take c.room)) = some evt.record ↔ c.Fits evt :=
  (printed_reads evt c.room).trans
    ⟨fun ⟨plain, room⟩ => ⟨plain, room⟩, fun fits => ⟨fits.plain, fits.room⟩⟩

theorem buffer_length (size : Nat) (text : Text) :
    (snprintf size text).buffer.length ≤ size - 1 :=
  (List.takeWhile_prefix _).length_le.trans (List.length_take_le ..)

/-! ## Each consumer -/

variable {evt : Event}

theorem printed_length (small : Json.size evt.record ≤ intMax) (size : Nat) :
    (snprintf size (kerchevtToJson evt)).length = Json.size evt.record := by
  rw [snprintf, json_length, if_pos small]

theorem size_positive (evt : Event) : 0 < Json.size evt.record := by
  simp only [Json.size]
  omega

theorem webEvent_faithful (small : Json.size evt.record ≤ intMax) :
    Whole evt (webEvent evt) ↔ Consumer.sse.Fits evt := by
  have positive := size_positive evt
  have length := printed_length small (webBufferSize - 1)
  have sends : webEvent evt = some {
      text := (snprintf (webBufferSize - 1) (kerchevtToJson evt)).buffer
      reads := [(Json.size evt.record + 1, webBufferSize)] } := by
    rw [webEvent, length, if_pos (Int.natCast_pos.mpr positive), Int.toNat_natCast]
  have reads : Json.readObject (snprintf (webBufferSize - 1) (kerchevtToJson evt)).buffer = some evt.record ↔
      Consumer.sse.Fits evt := sent_reads .sse evt
  rw [sends]
  simp only [Whole, Option.mem_def, Option.some.injEq, forall_eq', List.forall_mem_singleton]
  refine (and_iff_left_of_imp fun read => ?_).trans reads
  have room := (reads.mp read).room
  simp only [Consumer.room, webBufferSize] at room ⊢
  omega

theorem broadcastEvent_faithful (small : Json.size evt.record ≤ intMax) :
    Whole evt (broadcastEvent evt) ↔ Consumer.cli.Fits evt := by
  have positive := size_positive evt
  have length := printed_length small socketBufferSize
  have bound := buffer_length socketBufferSize (kerchevtToJson evt)
  have some_text : ¬ (Json.size evt.record : Int) ≤ 0 := by omega
  have reads : Json.readObject (snprintf socketBufferSize (kerchevtToJson evt)).buffer = some evt.record ↔
      Consumer.cli.Fits evt := sent_reads .cli evt
  simp only [Whole, broadcastEvent, length, if_neg some_text, Option.mem_def, Option.some.injEq,
    forall_eq']
  refine (and_iff_left_of_imp fun _ => ?_).trans reads
  simp only [List.forall_mem_cons, List.not_mem_nil, false_implies, implies_true, and_true,
    socketBufferSize, evtLineMax] at bound ⊢
  omega

theorem onEvent_faithful (small : Json.size evt.record ≤ intMax) :
    Whole evt (onEvent evt) ↔
      Consumer.webhook.room < Json.size evt.record ∨ Consumer.webhook.Fits evt := by
  have positive := size_positive evt
  have length := printed_length small payloadMax
  have bound := buffer_length payloadMax (kerchevtToJson evt)
  have reads : Json.readObject (snprintf payloadMax (kerchevtToJson evt)).buffer = some evt.record ↔
      Consumer.webhook.Fits evt := sent_reads .webhook evt
  by_cases long : Consumer.webhook.room < Json.size evt.record
  next =>
    have dropped : (Json.size evt.record : Int) ≤ 0 ∨ (Json.size evt.record : Int) ≥ payloadMax := by
      simp only [Consumer.room, payloadMax] at long ⊢
      omega
    simp only [Whole, onEvent, length, if_pos dropped, long, true_or, iff_true]
    exact fun _ none => nomatch none
  next =>
    have kept : ¬ ((Json.size evt.record : Int) ≤ 0 ∨ (Json.size evt.record : Int) ≥ payloadMax) := by
      simp only [Consumer.room, payloadMax] at long ⊢
      omega
    simp only [Whole, onEvent, length, if_neg kept, Option.mem_def, Option.some.injEq, forall_eq',
      List.forall_mem_singleton, long, false_or]
    refine (and_iff_left_of_imp fun _ => ?_).trans reads
    simp only [payloadMax] at bound ⊢
    omega

theorem nothing_printed (long : intMax < Json.size evt.record) (c : Consumer) (a : Audience) :
    c.send a evt = none := by
  have length (size : Nat) : (snprintf size (kerchevtToJson evt)).length = -1 := by
    rw [snprintf, json_length, if_neg (Nat.not_le.mpr long)]
  unfold Consumer.send
  split
  next =>
    cases c with
    | sse => simp [webEvent, length]
    | cli => simp [broadcastEvent, length]
    | webhook => simp [onEvent, length]
  next => rfl

theorem events_sent_whole (c : Consumer) (a : Audience) (evt : Event) :
    c.Faithful a evt ↔ c.Silent a evt ∨ c.Fits evt := by
  unfold Consumer.Faithful Consumer.Silent
  have nothing : Whole evt none := fun _ none => nomatch none
  by_cases served : (a.listening && c.subscribed a evt.data) = true
  next =>
    by_cases small : Json.size evt.record ≤ intMax
    next =>
      have notLong : ¬ intMax < Json.size evt.record := Nat.not_lt.mpr small
      simp only [Consumer.send, served, if_true, notLong, false_or, Bool.true_eq_false]
      cases c with
      | sse => simpa using webEvent_faithful small
      | cli => simpa using broadcastEvent_faithful small
      | webhook => simpa using onEvent_faithful small
    next =>
      have long : intMax < Json.size evt.record := Nat.not_le.mp small
      simp [nothing_printed long, long, nothing]
  next =>
    have unserved : (a.listening && c.subscribed a evt.data) = false := by simpa using served
    simp [Consumer.send, unserved, nothing]

/-! ## A quotation and a long transcript -/

def everyone : Audience where
  listening := true
  chosen := fun _ => true

def transcript (text : Text) : Event where
  data := .announcement (some "asr".toList) (some text)
  timestampUs := 1000

-- No consumer sends an object for a transcript with a quotation in it, and the event stream reads past
-- its buffer for a long one.
theorem quotation_breaks_events :
    (∀ c : Consumer, ¬ c.Faithful everyone (transcript "he said \"hello\"".toList)) ∧
      ∃ out ∈ Consumer.sse.send everyone (transcript (List.replicate 500 'a')),
        ∃ read ∈ out.reads, read.2 < read.1 := by
  constructor
  next =>
    intro c
    unfold Consumer.Faithful
    cases c <;> decide +kernel
  next => decide +kernel

end Kerchunk.Events
