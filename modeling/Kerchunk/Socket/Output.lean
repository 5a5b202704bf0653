import Kerchunk.Lib.CString
import Kerchunk.Lib.CircularWindow
import Kerchunk.Lib.Machine
import Kerchunk.Socket.Model

set_option autoImplicit false

/-!
# What a client is sent, and what it reads (`src/kerchunk_socket.c`, `cli/kerchunk.c`)

The main thread answers commands while other threads broadcast; each section under the mutex is
one step, and so is each write. The stream begins behind the welcome line, which the client reads
by itself. The client's limit on a whole response and how it prints are left out.
-/

namespace Kerchunk.Socket

open Kerchunk.Config (Text nul newline)

def evtRingSize : Nat := 64
def evtLineMax : Nat := 1152

/-- `snprintf` into a buffer of `size` bytes, then `write_all` of the length that it returned: of a
text that is too long the buffer has a part and a NUL, and what lies `beyond` it goes out too. -/
def written (size : Nat) (beyond : Nat → Char) (text : Text) : Text :=
  if text.length < size then text
  else text.take (size - 1) ++ nul :: (List.range (text.length - size)).map beyond

def rowLine (text : Text) : Text :=
  'R' :: ' ' :: text ++ [newline]

def eventLine (text : Text) : Text :=
  'E' :: ' ' :: text ++ [newline]

def sentinelLine : Text :=
  ['.', newline]

inductive MainThread where
  | idle
  | acknowledging
  | answering (rows : List Row)
  | ending

structure Wire where
  slot : Slot
  inResponse : Bool
  evtRing : LossyRing Text
  main : MainThread
  sent : Text

def Wire.connected : Wire where
  slot := initSlot
  inResponse := false
  evtRing := ⟨fun _ => [], 0, 0⟩
  main := .idle
  sent := []

/-- `advance` is the next section or write of the main thread; what lies behind its line buffer
is anything. -/
inductive Input where
  | subscribe (arg : Text)
  | unsubscribe
  | subscribeEvents
  | respond (text : Text)
  | enumerate (rows : List Row)
  | advance (beyond : Nat → Char)
  | broadcastLog (level : Int) (formatted : Text)
  | broadcastEvent (json : Text)

/-- The line that a broadcast has for the client: `kerchunk_log_msg` formats it into 1100 bytes, an
event is written as JSON into 512. -/
def broadcastLine (slot : Slot) : Input → Option Text
  | .broadcastLog level formatted =>
    if slot.subscribed = true ∧ level ≤ slot.subscribeLevel ∧ slot.jsonEvents = false then
      some ((cString formatted).take 1099)
    else none
  | .broadcastEvent json => if slot.jsonEvents = true then some ((cString json).take 511) else none
  | _ => none

def Wire.broadcast (w : Wire) (line : Text) : Wire :=
  if w.inResponse = true then
    { w with evtRing := w.evtRing.push evtRingSize (line.take (evtLineMax - 1)) }
  -- The formatted line never fills the buffer.
  else { w with sent := w.sent ++ written (evtLineMax + 4) (fun _ => nul) (eventLine line) }

def Wire.flush (w : Wire) : Wire :=
  -- The second half of `end_response`.
  let (lines, ring) := w.evtRing.drain evtRingSize evtRingSize
  { w with
    inResponse := false
    evtRing := ring
    main := .idle
    sent := w.sent ++
      lines.flatMap fun line => written (evtLineMax + 4) (fun _ => nul) (eventLine line) }

def Wire.advance (w : Wire) (beyond : Nat → Char) : Wire :=
  match w.main with
  | .idle => w
  | .acknowledging => { w with main := .idle, sent := w.sent ++ sentinelLine }
  | .answering (row :: rest) =>
    { w with
      main := .answering rest
      sent := w.sent ++ written row.size beyond (rowLine row.text) }
  | .answering [] => { w with main := .ending, sent := w.sent ++ sentinelLine }
  | .ending => w.flush

def Wire.beginResponse (w : Wire) (rows : List Row) : Wire :=
  { w with inResponse := true, main := .answering rows }

def Wire.command (w : Wire) : Input → Wire
  -- A command runs where the main thread has none in hand.
  | .subscribe arg => { w with slot := Socket.subscribe w.slot arg, main := .acknowledging }
  | .unsubscribe => { w with slot := Socket.unsubscribe w.slot, main := .acknowledging }
  | .subscribeEvents => { w with slot := Socket.subscribeEvents w.slot, main := .acknowledging }
  | .respond text => w.beginResponse (responseRows text)
  | .enumerate rows => w.beginResponse rows
  | _ => w

def Wire.step (w : Wire) (input : Input) : Wire :=
  match input with
  | .advance beyond => w.advance beyond
  | .broadcastLog .. | .broadcastEvent _ =>
    match broadcastLine w.slot input with
    | some line => w.broadcast line
    | none => w
  | _ =>
    match w.main with
    | .idle => w.command input
    | _ => w

/-! ## What the stream should be -/

inductive Packet where
  | event (line : Text)
  | response (rows : List Text)
deriving DecidableEq

def Packet.encode : Packet → Text
  | .event line => eventLine line
  | .response rows => rows.flatMap rowLine ++ sentinelLine

inductive Phase where
  | idle
  | acknowledging
  | answering (rows left waiting : List Text)
  | ending (waiting : List Text)

/-- Whole packets; `waiting` are the events since the response in hand began, of which the newest
follow it. -/
structure Story where
  slot : Slot
  packets : List Packet
  phase : Phase

def Story.start : Story where
  slot := initSlot
  packets := []
  phase := .idle

def Story.broadcast (s : Story) (line : Text) : Story :=
  match s.phase with
  | .answering rows left waiting => { s with phase := .answering rows left (waiting ++ [line]) }
  | .ending waiting => { s with phase := .ending (waiting ++ [line]) }
  | _ => { s with packets := s.packets ++ [.event line] }

def Story.advance (s : Story) : Story :=
  match s.phase with
  | .idle => s
  | .acknowledging => { s with packets := s.packets ++ [.response []], phase := .idle }
  | .answering rows (row :: left) waiting =>
    { s with phase := .answering (rows ++ [row]) left waiting }
  | .answering rows [] waiting =>
    { s with packets := s.packets ++ [.response rows], phase := .ending waiting }
  | .ending waiting =>
    { s with
      packets := s.packets ++ (LossyRing.newest (evtRingSize - 1) waiting).map .event
      phase := .idle }

def nonEmptyLines (text : Text) : List Text :=
  ((cString text).splitOn newline).filter (· ≠ [])

def Story.command (s : Story) : Input → Story
  | .subscribe arg => { s with slot := Socket.subscribe s.slot arg, phase := .acknowledging }
  | .unsubscribe => { s with slot := Socket.unsubscribe s.slot, phase := .acknowledging }
  | .subscribeEvents => { s with slot := Socket.subscribeEvents s.slot, phase := .acknowledging }
  | .respond text => { s with phase := .answering [] (nonEmptyLines text) [] }
  | .enumerate rows => { s with phase := .answering [] (rows.map (·.text)) [] }
  | _ => s

def Story.step (s : Story) (input : Input) : Story :=
  match input with
  | .advance _ => s.advance
  | .broadcastLog .. | .broadcastEvent _ =>
    match broadcastLine s.slot input with
    | some line => s.broadcast line
    | none => s
  | _ =>
    match s.phase with
    | .idle => s.command input
    | _ => s

def Story.rows (s : Story) : List Text :=
  -- The rows of a response that is not over.
  match s.phase with
  | .answering rows _ _ => rows
  | _ => []

def Story.bytes (s : Story) : Text :=
  s.packets.flatMap Packet.encode ++ s.rows.flatMap rowLine

/-! ## The client -/

/-- The line in `read_line`'s buffer, the rows since the last sentinel, and what has been read. -/
structure Reader where
  line : Text
  rows : List Text
  packets : List Packet
deriving DecidableEq

def Reader.start : Reader where
  line := []
  rows := []
  packets := []

def Reader.endLine (r : Reader) (line : Text) : Reader :=
  -- What `reader_thread_fn` makes of a line.
  let r := { r with line := [] }
  match line with
  | 'R' :: ' ' :: text => { r with rows := r.rows ++ [cString text] }
  | '.' :: rest =>
    if rest.head?.getD nul = nul ∨ rest.head? = some ' ' then
      { r with rows := [], packets := r.packets ++ [.response r.rows] }
    else r
  | 'E' :: ' ' :: text => { r with packets := r.packets ++ [.event (cString text)] }
  | _ => r

def Reader.byte (r : Reader) (c : Char) : Reader :=
  -- `read_line` into 4096 bytes: a full buffer ends the line as a newline does.
  if c = newline then r.endLine r.line
  else if (r.line ++ [c]).length = maxRespLen - 1 then r.endLine (r.line ++ [c])
  else { r with line := r.line ++ [c] }

def Reader.read (r : Reader) (bytes : Text) : Reader :=
  bytes.foldl Reader.byte r

/-! ## When everything fits -/

/-- A row that its buffer holds and that the client reads in one piece. -/
structure RowFits (row : Row) : Prop where
  buffer : row.text.length + 3 < row.size
  line : row.text.length + 2 < maxRespLen
  newline : newline ∉ row.text
  nul : nul ∉ row.text

structure EventFits (line : Text) : Prop where
  short : line.length ≤ 1099
  newline : newline ∉ line
  nul : nul ∉ line

/-- Rows of a response are short enough for the client's reader, and no broadcast that the client
is to get breaks a line. -/
def Orderly (w : Wire) : Input → Prop
  | .respond text =>
    w.main = .idle → ∀ line ∈ nonEmptyLines text, line.length + 2 < maxRespLen
  | .enumerate rows => w.main = .idle → ∀ row ∈ rows, RowFits row
  | input => ∀ line, broadcastLine w.slot input = some line → newline ∉ line

theorem written_short {size : Nat} {text : Text} (short : text.length < size)
    (beyond : Nat → Char) : written size beyond text = text :=
  if_pos short

theorem broadcastLine_fits {slot : Slot} {input : Input} {line : Text}
    (shown : broadcastLine slot input = some line) (plain : newline ∉ line) : EventFits line := by
  have cut (text : Text) (count : Nat) (small : count ≤ 1099)
      (same : (cString text).take count = line) : EventFits line := by
    subst same
    refine ⟨?_, plain, fun member => CString.nul_read text (List.mem_of_mem_take member)⟩
    exact (List.length_take_le count _).trans small
  cases input with
  | broadcastLog level formatted =>
      simp only [broadcastLine] at shown
      split at shown
      · exact cut formatted 1099 (le_refl _) (Option.some.inj shown)
      · simp at shown
  | broadcastEvent json =>
      simp only [broadcastLine] at shown
      split at shown
      · exact cut json 511 (by decide) (Option.some.inj shown)
      · simp at shown
  | _ => simp [broadcastLine] at shown

theorem linesFrom_eq {fuel : Nat} {p : Text} (enough : p.length ≤ fuel) :
    linesFrom fuel p = (p.splitOn newline).filter (· ≠ []) := by
  -- The loop of `send_framed_response` finds the non-empty lines.
  induction fuel generalizing p with
  | zero =>
      have empty : p = [] := List.length_eq_zero_iff.mp (Nat.le_zero.mp enough)
      subst empty
      simp [linesFrom]
  | succ fuel ih =>
      by_cases broken : newline ∈ p
      next =>
        obtain ⟨line, rest, rfl, plain⟩ := List.eq_append_cons_of_mem broken
        have solid : ∀ c ∈ line, (decide (c ≠ newline)) = true := by
          intro c member
          have different : c ≠ newline := fun same => plain (same ▸ member)
          simpa using different
        have short : rest.length ≤ fuel := by
          simp only [List.length_append, List.length_cons] at enough
          omega
        rw [linesFrom, if_neg (by simp), List.takeWhile_append_of_pos solid,
          List.dropWhile_append_of_pos solid, List.splitOn_append_cons_self_of_not_mem plain]
        simp only [ne_eq, not_true_eq_false, decide_false, Bool.false_eq_true, not_false_eq_true,
          List.takeWhile_cons_of_neg, List.append_nil, List.dropWhile_cons_of_neg, List.tail_cons,
          ih short]
        by_cases empty : line = []
        next => simp [empty]
        next => simp [empty]
      next =>
        have solid : ∀ c ∈ p, (decide (c ≠ newline)) = true := by
          intro c member
          have different : c ≠ newline := fun same => broken (same ▸ member)
          simpa using different
        have line : p.takeWhile (fun c => decide (c ≠ newline)) = p :=
          List.takeWhile_eq_self_iff.mpr solid
        have none : p.dropWhile (fun c => decide (c ≠ newline)) = [] :=
          List.dropWhile_eq_nil_iff.mpr solid
        have after : linesFrom fuel [] = [] := by
          cases fuel <;> simp [linesFrom]
        rw [linesFrom, List.splitOn_eq_singleton broken]
        simp only [line, none, List.tail_nil, after]
        by_cases empty : p = []
        next => simp [empty]
        next => simp [empty]

theorem responseLines_eq (text : Text) : responseLines (cString text) = nonEmptyLines text :=
  linesFrom_eq (le_refl _)

theorem responseRows_text (text : Text) :
    (responseRows text).map (·.text) = nonEmptyLines text := by
  rw [responseRows, List.map_map, ← responseLines_eq]
  exact List.map_id _

theorem responseRows_fit {text : Text}
    (short : ∀ line ∈ nonEmptyLines text, line.length + 2 < maxRespLen) :
    ∀ row ∈ responseRows text, RowFits row := by
  intro row member
  rw [responseRows, responseLines_eq] at member
  obtain ⟨line, listed, rfl⟩ := List.mem_map.mp member
  have small := short line listed
  obtain ⟨plain, inside⟩ := Lines.piece_of_splitOn (List.mem_of_mem_filter listed)
  refine ⟨?_, small, plain, fun held => CString.nul_read text (inside held)⟩
  simp only [maxRespLen] at small ⊢
  omega

/-! ## The client's reader -/

theorem read_append (r : Reader) (first second : Text) :
    r.read (first ++ second) = (r.read first).read second := by
  simp [Reader.read]

theorem read_gather {r : Reader} {more : Text} (plain : newline ∉ more)
    (room : r.line.length + more.length < maxRespLen - 1) :
    r.read more = { r with line := r.line ++ more } := by
  induction more generalizing r with
  | nil => simp [Reader.read]
  | cons c more ih =>
      simp only [List.mem_cons, not_or] at plain
      simp only [List.length_cons] at room
      have next : r.byte c = { r with line := r.line ++ [c] } := by
        rw [Reader.byte, if_neg (Ne.symm plain.1), if_neg]
        simp only [List.length_append, List.length_singleton]
        omega
      have rest := ih (r := { r with line := r.line ++ [c] }) plain.2 (by
        simp only [List.length_append, List.length_singleton]
        omega)
      simp only [Reader.read, List.foldl_cons] at rest ⊢
      rw [next, rest]
      simp

theorem endLine_line (r : Reader) (line text : Text) :
    ({ r with line := line } : Reader).endLine text = r.endLine text := rfl

theorem endLine_empty (r : Reader) (text : Text) : (r.endLine text).line = [] := by
  simp only [Reader.endLine]
  split
  next => rfl
  next => split <;> rfl
  next => rfl
  next => rfl

theorem read_full {r : Reader} (fresh : r.line = []) {line : Text} (plain : newline ∉ line)
    (full : line.length = maxRespLen - 1) : r.read line = r.endLine line := by
  have some : line ≠ [] := by
    rintro rfl
    simp [maxRespLen] at full
  obtain ⟨init, c, rfl⟩ := List.eq_nil_or_concat line |>.resolve_left some
  simp only [List.concat_eq_append, List.mem_append, List.mem_singleton, not_or] at plain full ⊢
  have gathered := read_gather (r := r) plain.1 (by
    simp only [fresh, List.length_nil, List.length_append, List.length_singleton] at full ⊢
    omega)
  rw [fresh, List.nil_append] at gathered
  have last : ({ r with line := init } : Reader).byte c = r.endLine (init ++ [c]) := by
    rw [Reader.byte, if_neg (Ne.symm plain.2), if_pos full, endLine_line]
  rw [read_append, gathered, ← last]
  rfl

theorem read_line {r : Reader} (fresh : r.line = []) {line : Text} (plain : newline ∉ line)
    (short : line.length < maxRespLen) : r.read (line ++ [newline]) = r.endLine line := by
  -- A line that fills the buffer leaves its newline for an empty line.
  have ends (r : Reader) : r.read [newline] = r.endLine r.line := by
    simp [Reader.read, Reader.byte]
  by_cases full : line.length = maxRespLen - 1
  next =>
    rw [read_append, read_full fresh plain full, ends, endLine_empty]
    have same := endLine_empty r line
    generalize r.endLine line = ended at same
    cases ended
    cases same
    rfl
  next =>
    have gathered := read_gather (r := r) plain (by
      rw [fresh, List.length_nil]
      omega)
    rw [read_append, gathered, ends, fresh, List.nil_append]
    rfl

theorem read_row {r : Reader} (fresh : r.line = []) {row : Row} (fits : RowFits row) :
    r.read (rowLine row.text) = { r with rows := r.rows ++ [row.text] } := by
  have plain : newline ∉ 'R' :: ' ' :: row.text := by simpa [newline] using fits.newline
  have read := read_line fresh plain fits.line
  rw [rowLine, read, Reader.endLine, cString, CString.read_plain fits.nul, ← fresh]

theorem read_event {r : Reader} (fresh : r.line = []) {line : Text} (fits : EventFits line) :
    r.read (eventLine line) = { r with packets := r.packets ++ [.event line] } := by
  have short := fits.short
  have plain : newline ∉ 'E' :: ' ' :: line := by simpa [newline] using fits.newline
  have read := read_line fresh plain (by simp [maxRespLen]; omega)
  rw [eventLine, read, Reader.endLine, cString, CString.read_plain fits.nul, ← fresh]

theorem read_sentinel {r : Reader} (fresh : r.line = []) :
    r.read sentinelLine =
      { r with rows := [], packets := r.packets ++ [.response r.rows] } := by
  have plain : newline ∉ ['.'] := by decide
  have read := read_line fresh plain (by decide)
  rw [sentinelLine, show (['.', newline] : Text) = ['.'] ++ [newline] from rfl, read,
    Reader.endLine]
  simp [fresh]

/-! ## The story of a stream -/

/-- What is in the ring while a response is in hand. -/
structure Deferring (w : Wire) (waiting : List Text) : Prop where
  inResponse : w.inResponse = true
  ring : w.evtRing.contents evtRingSize = LossyRing.newest (evtRingSize - 1) waiting
  fits : ∀ line ∈ waiting, EventFits line

structure Undeferred (w : Wire) : Prop where
  inResponse : w.inResponse = false
  ring : w.evtRing.contents evtRingSize = []

def InPhase (w : Wire) : Phase → Prop
  | .idle => w.main = .idle ∧ Undeferred w
  | .acknowledging => w.main = .acknowledging ∧ Undeferred w
  | .answering _ left waiting =>
    (∃ rows, w.main = .answering rows ∧ rows.map (·.text) = left ∧ ∀ row ∈ rows, RowFits row) ∧
      Deferring w waiting
  | .ending waiting => w.main = .ending ∧ Deferring w waiting

/-- The stream is the story's, and the client has read it so. -/
structure Tells (w : Wire) (s : Story) : Prop where
  slot : w.slot = s.slot
  valid : w.evtRing.Valid evtRingSize
  sent : w.sent = s.bytes
  read : Reader.start.read w.sent = ⟨[], s.rows, s.packets⟩
  phase : InPhase w s.phase

theorem tells_start : Tells Wire.connected Story.start where
  slot := rfl
  valid := ⟨by decide, by decide⟩
  sent := rfl
  read := rfl
  phase := ⟨rfl, rfl, rfl⟩

theorem Tells.packets {w next : Wire} {s after : Story} (tells : Tells w s)
    {packets : List Packet} (closed : s.rows = []) (same : after.rows = [])
    (slot : next.slot = after.slot) (valid : next.evtRing.Valid evtRingSize)
    (shown : after.packets = s.packets ++ packets)
    (sent : next.sent = w.sent ++ packets.flatMap Packet.encode)
    (reads : ∀ r : Reader, r.line = [] → r.rows = [] →
      r.read (packets.flatMap Packet.encode) = { r with packets := r.packets ++ packets })
    (phase : InPhase next after.phase) : Tells next after where
  -- One more packet, or several, where no response is in hand.
  slot := slot
  valid := valid
  sent := by
    rw [sent, tells.sent, Story.bytes, Story.bytes, closed, same, shown]
    simp
  read := by
    rw [sent, read_append, tells.read, closed, reads _ rfl rfl, same, shown]
  phase := phase

theorem Tells.kept {w next : Wire} {s after : Story} (tells : Tells w s)
    (slot : next.slot = after.slot) (valid : next.evtRing.Valid evtRingSize)
    (sent : next.sent = w.sent) (packets : after.packets = s.packets) (rows : after.rows = s.rows)
    (phase : InPhase next after.phase) : Tells next after where
  -- Nothing is written.
  slot := slot
  valid := valid
  sent := by
    rw [sent, tells.sent, Story.bytes, Story.bytes, packets, rows]
  read := by
    rw [sent, tells.read, packets, rows]
  phase := phase

theorem read_events {r : Reader} (fresh : r.line = []) {lines : List Text}
    (fits : ∀ line ∈ lines, EventFits line) :
    r.read ((lines.map Packet.event).flatMap Packet.encode) =
      { r with packets := r.packets ++ lines.map .event } := by
  induction lines generalizing r with
  | nil => simp [Reader.read]
  | cons line rest ih =>
      obtain ⟨first, others⟩ := List.forall_mem_cons.mp fits
      rw [List.map_cons, List.flatMap_cons, read_append, Packet.encode, read_event fresh first,
        ih (by exact fresh) others]
      simp

theorem written_event {line : Text} (fits : EventFits line) :
    written (evtLineMax + 4) (fun _ => nul) (eventLine line) = eventLine line := by
  have short := fits.short
  apply written_short
  simp only [eventLine, evtLineMax, List.length_append, List.length_cons, List.length_nil]
  omega

theorem broadcast_direct {w : Wire} (plain : Undeferred w) {line : Text} (fits : EventFits line) :
    w.broadcast line = { w with sent := w.sent ++ [Packet.event line].flatMap Packet.encode } := by
  have single : (written (evtLineMax + 4) (fun _ => nul) (eventLine line)) =
      [Packet.event line].flatMap Packet.encode := by
    rw [written_event fits]
    simp [Packet.encode]
  rw [Wire.broadcast, if_neg (by simp [plain.inResponse]), single]

theorem broadcast_deferred {w : Wire} {waiting : List Text} (deferring : Deferring w waiting)
    (valid : w.evtRing.Valid evtRingSize) {line : Text} (fits : EventFits line) :
    w.broadcast line =
        { w with evtRing := w.evtRing.push evtRingSize (line.take (evtLineMax - 1)) } ∧
      Deferring (w.broadcast line) (waiting ++ [line]) := by
  -- Where the event waits, it enters the ring behind those before it.
  have whole : line.take (evtLineMax - 1) = line := by
    have short := fits.short
    apply List.take_of_length_le
    simp only [evtLineMax]
    omega
  have stored : w.broadcast line =
      { w with evtRing := w.evtRing.push evtRingSize (line.take (evtLineMax - 1)) } :=
    if_pos deferring.inResponse
  refine ⟨stored, ?_, ?_, ?_⟩
  · rw [stored]
    exact deferring.inResponse
  · rw [stored, whole, LossyRing.contents_push valid (by decide), deferring.ring,
      LossyRing.newest_newest]
  · intro other member
    rcases List.mem_append.mp member with old | new
    · exact deferring.fits other old
    · exact List.mem_singleton.mp new ▸ fits

theorem broadcast_tells {w : Wire} {s : Story} (tells : Tells w s) {line : Text}
    (fits : EventFits line) : Tells (w.broadcast line) (s.broadcast line) := by
  have reads (r : Reader) (fresh : r.line = []) (_ : r.rows = []) :
      r.read ([Packet.event line].flatMap Packet.encode) =
        { r with packets := r.packets ++ [.event line] } := by
    have only : ∀ other ∈ [line], EventFits other := by simpa using fits
    exact read_events fresh only
  have phase := tells.phase
  cases now : s.phase with
  | idle =>
      rw [now] at phase
      obtain ⟨main, plain⟩ := phase
      rw [broadcast_direct plain fits, Story.broadcast, now]
      exact tells.packets (by rw [Story.rows, now]) rfl tells.slot tells.valid rfl rfl reads
        ⟨main, plain.1, plain.2⟩
  | acknowledging =>
      rw [now] at phase
      obtain ⟨main, plain⟩ := phase
      rw [broadcast_direct plain fits, Story.broadcast, now]
      exact tells.packets (by rw [Story.rows, now]) rfl tells.slot tells.valid rfl rfl reads
        ⟨main, plain.1, plain.2⟩
  | answering rows left waiting =>
      rw [now] at phase
      obtain ⟨main, deferring⟩ := phase
      obtain ⟨stored, deferring⟩ := broadcast_deferred deferring tells.valid fits
      rw [stored] at deferring ⊢
      rw [Story.broadcast, now]
      exact tells.kept tells.slot (tells.valid.push _) rfl rfl (by rw [Story.rows, Story.rows, now])
        ⟨main, deferring⟩
  | ending waiting =>
      rw [now] at phase
      obtain ⟨main, deferring⟩ := phase
      obtain ⟨stored, deferring⟩ := broadcast_deferred deferring tells.valid fits
      rw [stored] at deferring ⊢
      rw [Story.broadcast, now]
      exact tells.kept tells.slot (tells.valid.push _) rfl rfl (by rw [Story.rows, Story.rows, now])
        ⟨main, deferring⟩

theorem advance_tells {w : Wire} {s : Story} (tells : Tells w s) (beyond : Nat → Char) :
    Tells (w.advance beyond) s.advance := by
  have phase := tells.phase
  cases now : s.phase with
  | idle =>
      rw [now] at phase
      rw [Wire.advance, phase.1, Story.advance, now]
      exact tells
  | acknowledging =>
      rw [now] at phase
      obtain ⟨main, plain⟩ := phase
      rw [Wire.advance, main, Story.advance, now]
      refine tells.packets (by rw [Story.rows, now]) rfl tells.slot
        tells.valid rfl (by simp [Packet.encode]) (fun r fresh none => ?_) ⟨rfl, plain.1, plain.2⟩
      have read := read_sentinel fresh
      rw [none] at read
      simpa [Packet.encode, none] using read
  | answering rows left waiting =>
      rw [now] at phase
      obtain ⟨⟨listed, main, same, fits⟩, deferring⟩ := phase
      have sent := tells.sent
      have read := tells.read
      simp only [Story.bytes, Story.rows, now] at sent read
      subst same
      cases listed with
      | nil =>
          rw [Wire.advance, main, Story.advance, now]
          refine ⟨tells.slot, tells.valid, ?_, ?_, rfl, deferring.1, deferring.2, deferring.3⟩
          · simp [sent, Story.bytes, Story.rows, Packet.encode]
          · rw [read_append, read, read_sentinel rfl]
            rfl
      | cons row rest =>
          obtain ⟨first, others⟩ := List.forall_mem_cons.mp fits
          have buffer : (rowLine row.text).length < row.size := by
            have := first.buffer
            simp only [rowLine, List.length_append, List.length_cons, List.length_nil]
            omega
          simp only [Wire.advance, main, Story.advance, now, List.map_cons, written_short buffer]
          refine ⟨tells.slot, tells.valid, ?_, ?_, ⟨rest, rfl, rfl, others⟩, deferring.1,
            deferring.2, deferring.3⟩
          · simp [sent, Story.bytes, Story.rows]
          · rw [read_append, read, read_row rfl first]
            rfl
  | ending waiting =>
      rw [now] at phase
      obtain ⟨main, deferring⟩ := phase
      have full : w.evtRing.count evtRingSize ≤ evtRingSize := tells.valid.count_lt.le
      have newest : ∀ line ∈ LossyRing.newest (evtRingSize - 1) waiting, EventFits line :=
        fun line member => deferring.fits line (LossyRing.mem_of_mem_newest member)
      have drained := LossyRing.drain_contents tells.valid full
      have bytes : (LossyRing.newest (evtRingSize - 1) waiting).flatMap (fun line =>
          written (evtLineMax + 4) (fun _ => nul) (eventLine line)) =
          ((LossyRing.newest (evtRingSize - 1) waiting).map Packet.event).flatMap
            Packet.encode := by
        rw [List.flatMap_map]
        exact List.flatMap_congr fun line member => written_event (newest line member)
      rw [Wire.advance, main, Story.advance, now]
      simp only [Wire.flush, drained, deferring.ring, bytes]
      refine tells.packets (by rw [Story.rows, now]) rfl tells.slot
        ⟨tells.valid.tail, tells.valid.tail⟩ rfl rfl (fun r fresh _ => read_events fresh newest)
        ⟨rfl, rfl, ?_⟩
      exact LossyRing.contents_met evtRingSize w.evtRing.cells w.evtRing.tail

theorem command_tells {w : Wire} {s : Story} (tells : Tells w s) (idle : s.phase = .idle)
    {input : Input} (orderly : Orderly w input) : Tells (w.command input) (s.command input) := by
  have phase := tells.phase
  rw [idle] at phase
  obtain ⟨main, plain⟩ := phase
  have none : s.rows = [] := by rw [Story.rows, idle]
  -- A response begins with nothing deferred.
  have begins (rows : List Row) (fits : ∀ row ∈ rows, RowFits row) :
      Tells (w.beginResponse rows) { s with phase := .answering [] (rows.map (·.text)) [] } := by
    refine tells.kept tells.slot tells.valid rfl rfl (by rw [none]; rfl) ⟨⟨rows, rfl, rfl, fits⟩, ?_⟩
    exact ⟨rfl, plain.ring, by simp⟩
  cases input with
  | subscribe arg =>
      rw [Wire.command, Story.command, tells.slot]
      exact tells.kept rfl tells.valid rfl rfl (by rw [none]; rfl) ⟨rfl, plain.1, plain.2⟩
  | unsubscribe =>
      rw [Wire.command, Story.command, tells.slot]
      exact tells.kept rfl tells.valid rfl rfl (by rw [none]; rfl) ⟨rfl, plain.1, plain.2⟩
  | subscribeEvents =>
      rw [Wire.command, Story.command, tells.slot]
      exact tells.kept rfl tells.valid rfl rfl (by rw [none]; rfl) ⟨rfl, plain.1, plain.2⟩
  | respond text =>
      have begun := begins (responseRows text) (responseRows_fit (orderly main))
      rw [responseRows_text] at begun
      exact begun
  | enumerate rows => exact begins rows (orderly main)
  | advance _ => exact tells
  | broadcastLog _ _ => exact tells
  | broadcastEvent _ => exact tells

theorem step_tells {w : Wire} {s : Story} (tells : Tells w s) {input : Input}
    (orderly : Orderly w input) : Tells (w.step input) (s.step input) := by
  -- Both are idle together.
  have commanded (input : Input) (orderly : Orderly w input) :
      Tells (match w.main with | .idle => w.command input | _ => w)
        (match s.phase with | .idle => s.command input | _ => s) := by
    have phase := tells.phase
    cases now : s.phase with
    | idle =>
        rw [now] at phase
        rw [phase.1]
        exact command_tells tells now orderly
    | acknowledging =>
        rw [now] at phase
        rw [phase.1]
        exact tells
    | answering rows left waiting =>
        rw [now] at phase
        obtain ⟨⟨listed, main, -⟩, -⟩ := phase
        rw [main]
        exact tells
    | ending waiting =>
        rw [now] at phase
        rw [phase.1]
        exact tells
  have announced (input : Input)
      (plain : ∀ line, broadcastLine w.slot input = some line → newline ∉ line) :
      Tells (match broadcastLine w.slot input with | some line => w.broadcast line | none => w)
        (match broadcastLine s.slot input with | some line => s.broadcast line | none => s) := by
    rw [tells.slot] at plain ⊢
    cases shown : broadcastLine s.slot input with
    | none => exact tells
    | some line => exact broadcast_tells tells (broadcastLine_fits shown (plain line shown))
  cases input with
  | advance beyond => exact advance_tells tells beyond
  | broadcastLog level formatted => exact announced _ orderly
  | broadcastEvent json => exact announced _ orderly
  | subscribe arg => exact commanded _ orderly
  | unsubscribe => exact commanded _ orderly
  | subscribeEvents => exact commanded _ orderly
  | respond text => exact commanded _ orderly
  | enumerate rows => exact commanded _ orderly

theorem run_tells {w : Wire} {s : Story} (tells : Tells w s) {inputs : List Input}
    (orderly : Machine.Guarded Wire.step Orderly w inputs) :
    Tells (Machine.run Wire.step w inputs) (Machine.run Story.step s inputs) := by
  induction inputs generalizing w s with
  | nil => exact tells
  | cons input rest ih => exact ih (step_tells tells orderly.1) orderly.2

/-- Over every run, the stream is whole packets and the rows of the response in hand, and that is
what the client has read; the newest of the events that came during a response follow it. -/
theorem stream_tells {inputs : List Input}
    (orderly : Machine.Guarded Wire.step Orderly Wire.connected inputs) :
    (Machine.run Wire.step Wire.connected inputs).sent =
        (Machine.run Story.step Story.start inputs).bytes ∧
      Reader.start.read (Machine.run Wire.step Wire.connected inputs).sent =
        ⟨[], (Machine.run Story.step Story.start inputs).rows,
          (Machine.run Story.step Story.start inputs).packets⟩ := by
  have tells := run_tells tells_start orderly
  exact ⟨tells.sent, tells.read⟩

def session : List Input :=
  -- An event that comes while two rows are sent.
  [.subscribe ['7'], .advance fun _ => nul, .respond ['a', newline, newline, 'b'],
    .advance fun _ => nul, .broadcastLog 6 ['x'], .advance fun _ => nul, .advance fun _ => nul,
    .advance fun _ => nul]

theorem event_follows_response :
    (Machine.run Wire.step Wire.connected session).sent =
        sentinelLine ++ rowLine ['a'] ++ rowLine ['b'] ++ sentinelLine ++ eventLine ['x'] ∧
      Reader.start.read (Machine.run Wire.step Wire.connected session).sent =
        ⟨[], [], [.response [], .response [['a'], ['b']], .event ['x']]⟩ := by
  have silent (w : Wire) (input : Input) (none : broadcastLine w.slot input = none) :
      ∀ line, broadcastLine w.slot input = some line → newline ∉ line := by
    simp [none]
  refine stream_tells ⟨silent _ _ rfl, silent _ _ rfl, fun _ => by decide, silent _ _ rfl, ?_,
    silent _ _ rfl, silent _ _ rfl, silent _ _ rfl, trivial⟩
  rintro line shown
  rw [← Option.some.inj shown]
  decide

def longLine : Text :=
  -- A response line of 4094 characters that ends in a full stop.
  List.replicate (maxRespLen - 3) 'a' ++ ['.']

def behind : Nat → Char := fun _ => nul

/-- The client takes the end of a long line for a sentinel, and a log text with a newline in it
for more than one line. -/
theorem long_line_ends_early :
    (Reader.start.read (Machine.run Wire.step Wire.connected
          [.respond longLine, .advance behind, .advance behind]).sent ≠
        ⟨[], [], [.response [longLine]]⟩ ∧
      (Machine.run Story.step Story.start
          [.respond longLine, .advance behind, .advance behind]).packets =
        [.response [longLine]]) ∧
    Reader.start.read (Machine.run Wire.step Wire.connected
        [.subscribe ['7'], .advance behind, .broadcastLog 6 ['a', newline, '.']]).sent =
      ⟨[], [], [.response [], .event ['a'], .response []]⟩ := by
  have lines : nonEmptyLines longLine = [longLine] := by
    have plain : newline ∉ longLine := by simp [longLine, newline]
    have whole : cString longLine = longLine := CString.read_plain (by simp [longLine, nul])
    rw [nonEmptyLines, whole, List.splitOn_eq_singleton plain]
    simp [longLine]
  have rows : responseRows longLine = [⟨maxRespLen + 4, longLine⟩] := by
    rw [responseRows, responseLines_eq, lines]
    rfl
  have size : (rowLine longLine).length < maxRespLen + 4 := by
    simp only [rowLine, longLine, List.length_append, List.length_cons, List.length_replicate,
      List.length_nil]
    decide
  have stream : (Machine.run Wire.step Wire.connected
      [.respond longLine, .advance behind, .advance behind]).sent =
      rowLine longLine ++ sentinelLine := by
    simp only [Machine.run_cons, Machine.run_nil, Wire.step, Wire.connected, Wire.command, rows,
      Wire.beginResponse, Wire.advance, written_short size, List.nil_append]
  have pieces : rowLine longLine ++ sentinelLine =
      ('R' :: ' ' :: List.replicate (maxRespLen - 3) 'a') ++ (sentinelLine ++ sentinelLine) := by
    simp only [rowLine, longLine, sentinelLine, List.cons_append, List.append_assoc,
      List.nil_append]
  have plain : newline ∉ 'R' :: ' ' :: List.replicate (maxRespLen - 3) 'a' := by
    simp [newline, List.mem_replicate]
  have full : ('R' :: ' ' :: List.replicate (maxRespLen - 3) 'a').length = maxRespLen - 1 := by
    simp only [List.length_cons, List.length_replicate]
    decide
  have piece : Reader.start.read ('R' :: ' ' :: List.replicate (maxRespLen - 3) 'a') =
      ⟨[], [cString (List.replicate (maxRespLen - 3) 'a')], []⟩ :=
    read_full rfl plain full
  refine ⟨⟨?_, ?_⟩, by decide⟩
  · rw [stream, pieces, read_append, piece, read_append, read_sentinel rfl, read_sentinel rfl]
    simp
  · simp [Story.step, Story.start, Story.command, Story.advance, lines]

end Kerchunk.Socket
