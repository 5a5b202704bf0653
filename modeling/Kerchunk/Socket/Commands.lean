import Kerchunk.Lib.CString
import Kerchunk.Socket.Model

set_option autoImplicit false

/-!
# Lines that become commands

A client's bytes arrive in pieces of any length. They are gathered up to a newline; a buffer that
is full forgets what it holds together with the byte that found it full.
-/

namespace Kerchunk.Socket

open Kerchunk.Config (Text nul newline doubleQuote)

variable {World : Type}

/-- A client's slot with its buffer; `record` has each line that was dispatched, with what was
written for it. -/
structure Client (World : Type) where
  slot : Slot
  cmdBuf : Text
  world : World
  record : List (Text × List Write)

def connected (w : World) : Client World where
  slot := initSlot
  cmdBuf := []
  world := w
  record := []

def dispatch (d : Daemon World) (c : Client World) (line : Text) : Client World :=
  let handled := handleCommand d c.slot c.world line
  { c with
    slot := handled.slot
    world := handled.world
    record := c.record ++ [(line, handled.writes)] }

def receive (d : Daemon World) (c : Client World) (byte : Char) : Client World :=
  if c.cmdBuf.length ≥ maxCmdLen - 1 then { c with cmdBuf := [] }
  else
    let buf := c.cmdBuf ++ [byte]
    if byte = newline then
      let c := if buf.length > 1 then dispatch d c buf.dropLast else c
      { c with cmdBuf := [] }
    else { c with cmdBuf := buf }

def poll (d : Daemon World) (c : Client World) (bytes : Text) : Client World :=
  -- One `read` in `kerchunk_socket_poll`.
  bytes.foldl (receive d) c

def serve (d : Daemon World) (w : World) (reads : List Text) : Client World :=
  reads.foldl (poll d) (connected w)

/-! ## What is asked of the framing -/

def Fits (line : Text) : Prop :=
  -- A line that is not empty and for which, with its newline, the buffer has room.
  line ≠ [] ∧ line.length + 1 < maxCmdLen

instance (line : Text) : Decidable (Fits line) :=
  inferInstanceAs (Decidable (_ ∧ _))

def isSubscription (line : Text) : Bool :=
  let line := cString line
  "__SUBSCRIBE__".toList.isPrefixOf line || "__UNSUBSCRIBE__".toList.isPrefixOf line ||
    "__JSON_EVENTS__".toList.isPrefixOf line

def IsReply (writes : List Write) : Prop :=
  -- Response lines and one sentinel behind them.
  ∃ rows, writes = framed rows

/-- The dispatched lines are the stream's lines that fit, in order, and each is answered once. -/
structure Paired (stream : Text) (record : List (Text × List Write)) : Prop where
  dispatched : record.map (·.1) = (Lines.complete newline stream).filter fun line => Fits line
  answered : ∀ entry ∈ record, isSubscription entry.1 = false → IsReply entry.2

def commandText (line : Text) : Text :=
  -- What a line has behind `__JSON__ `.
  let line := cString line
  if "__JSON__ ".toList.isPrefixOf line then line.drop 9 else line

def HasWord (line : Text) : Prop :=
  ∃ c ∈ commandText line, isBlank c = false

/-- An over-long line is dropped without a trace when its newline finds the buffer full or empty;
a line that fits needs a word. -/
def Sound (line : Text) : Prop :=
  (line.length + 1 < maxCmdLen ∨ (line.length + 1) % maxCmdLen < 2) ∧ (Fits line → HasWord line)

/-! ## One line -/

def held (line : Text) : Text :=
  -- What the buffer holds of a line without its newline.
  line.drop (line.length / maxCmdLen * maxCmdLen)

theorem held_length (line : Text) : (held line).length = line.length % maxCmdLen := by
  have split := Nat.div_add_mod line.length maxCmdLen
  simp only [held, List.length_drop, maxCmdLen] at *
  omega

theorem held_short {line : Text} (short : line.length < maxCmdLen) : held line = line := by
  simp [held, Nat.div_eq_of_lt short]

theorem held_full {line : Text} (full : line.length % maxCmdLen = maxCmdLen - 1) (byte : Char) :
    held (line ++ [byte]) = [] := by
  have empty : (held (line ++ [byte])).length = 0 := by
    rw [held_length]
    simp only [List.length_append, List.length_singleton, maxCmdLen] at *
    omega
  exact List.length_eq_zero_iff.mp empty

theorem held_next {line : Text} (room : line.length % maxCmdLen ≠ maxCmdLen - 1) (byte : Char) :
    held (line ++ [byte]) = held line ++ [byte] := by
  have same : (line ++ [byte]).length / maxCmdLen = line.length / maxCmdLen := by
    simp only [List.length_append, List.length_singleton, maxCmdLen] at *
    omega
  have within : line.length / maxCmdLen * maxCmdLen ≤ line.length := Nat.div_mul_le_self _ _
  rw [held, same, List.drop_append_of_le_length within]
  rfl

theorem held_fresh {c : Client World} (fresh : c.cmdBuf = []) : c.cmdBuf = held [] := by
  rw [fresh, held_short (by decide)]

theorem receive_plain (d : Daemon World) {c : Client World} {line : Text}
    (gathered : c.cmdBuf = held line) {byte : Char} (plain : byte ≠ newline) :
    receive d c byte = { c with cmdBuf := held (line ++ [byte]) } := by
  have size := held_length line
  by_cases full : line.length % maxCmdLen = maxCmdLen - 1
  next =>
    rw [receive, if_pos (by rw [gathered, size, full]), held_full full]
  next =>
    have room : ¬ c.cmdBuf.length ≥ maxCmdLen - 1 := by
      have := Nat.mod_lt line.length (show 0 < maxCmdLen by decide)
      rw [gathered, size]
      omega
    rw [receive, if_neg room, held_next full]
    simp only [plain, if_false, gathered]

theorem poll_plain (d : Daemon World) {c : Client World} {line more : Text}
    (gathered : c.cmdBuf = held line) (plain : newline ∉ more) :
    poll d c more = { c with cmdBuf := held (line ++ more) } := by
  induction more generalizing c line with
  | nil => simp [poll, ← gathered]
  | cons byte more ih =>
      simp only [List.mem_cons, not_or] at plain
      have first := receive_plain d gathered (Ne.symm plain.1)
      have held' : (receive d c byte).cmdBuf = held (line ++ [byte]) := by rw [first]
      have rest := ih held' plain.2
      simp only [poll, List.foldl_cons] at rest ⊢
      rw [rest, first]
      simp

def tail? (line : Text) : Option Text :=
  -- What is dispatched for a line.
  if 0 < line.length % maxCmdLen ∧ line.length % maxCmdLen < maxCmdLen - 1 then some (held line)
  else none

theorem receive_newline (d : Daemon World) {c : Client World} {line : Text}
    (gathered : c.cmdBuf = held line) :
    receive d c newline =
      { (tail? line).elim c (dispatch d c) with cmdBuf := [] } := by
  have size := held_length line
  have below := Nat.mod_lt line.length (show 0 < maxCmdLen by decide)
  by_cases full : line.length % maxCmdLen = maxCmdLen - 1
  next =>
    rw [receive, if_pos (by rw [gathered, size, full]), tail?, if_neg (by omega)]
    rfl
  next =>
    rw [receive, if_neg (by rw [gathered, size]; omega)]
    by_cases some : 0 < line.length % maxCmdLen
    next =>
      have long : (c.cmdBuf ++ [newline]).length > 1 := by
        simp only [gathered, List.length_append, size, List.length_singleton]
        omega
      simp only [if_true, long, List.dropLast_concat]
      rw [tail?, if_pos ⟨some, by omega⟩, gathered]
      rfl
    next =>
      have short : ¬ (c.cmdBuf ++ [newline]).length > 1 := by
        simp only [gathered, List.length_append, size, List.length_singleton]
        omega
      simp only [if_true, short, if_false]
      rw [tail?, if_neg (by omega)]
      rfl

theorem poll_line (d : Daemon World) {c : Client World} (fresh : c.cmdBuf = []) {line : Text}
    (plain : newline ∉ line) (rest : Text) :
    poll d c (line ++ newline :: rest) =
      poll d { (tail? line).elim c (dispatch d c) with cmdBuf := [] } rest := by
  have gathered := poll_plain d (held_fresh fresh) plain
  simp only [poll, List.nil_append] at gathered
  rw [poll, List.foldl_append, List.foldl_cons, gathered,
    receive_newline d (c := { c with cmdBuf := held line }) rfl, poll]
  cases tail? line with
  | none => simp
  | some part => rfl

/-! ## One command -/

theorem parseCmd_empty {p : Text} (plain : newline ∉ p) (places : Nat) :
    parseCmd (places + 1) p = [] ↔ ∀ c ∈ p, isBlank c = true := by
  rw [← List.dropWhile_eq_nil_iff, parseCmd]
  cases word : p.dropWhile isBlank with
  | nil => simp
  | cons c rest =>
      have member : c ∈ p := (List.dropWhile_suffix isBlank).subset (word ▸ List.mem_cons_self ..)
      have different : c ≠ newline := fun same => plain (same ▸ member)
      simp only [different, if_false, reduceCtorEq, iff_false]
      split <;> simp

theorem runCommand_reply (d : Daemon World) (slot : Slot) (w : World) (json : Bool) {line : Text}
    (plain : newline ∉ line) :
    IsReply (runCommand d slot w json line).writes ↔ ∃ c ∈ line, isBlank c = false := by
  have empty := parseCmd_empty plain 255
  simp only [runCommand]
  by_cases silent : parseCmd 256 line = []
  next =>
    have noReply : ¬ IsReply [] := by
      rintro ⟨rows, same⟩
      simp [framed] at same
    have blank := empty.mp silent
    simp only [silent, if_true, noReply, false_iff, not_exists, not_and, Bool.not_eq_false]
    exact blank
  next =>
    have solid : ¬ ∀ c ∈ line, isBlank c = true := fun all => silent (empty.mpr all)
    push Not at solid
    simp only [silent, if_false]
    constructor
    · intro _
      obtain ⟨c, member, notBlank⟩ := solid
      exact ⟨c, member, by simpa using notBlank⟩
    · intro _
      exact ⟨_, rfl⟩

def metaCommands : List Text :=
  ["__COMMANDS__".toList, "__COMPLETIONS__".toList, "__USERS__".toList, "__MODULES__".toList,
    "__SOUNDS__".toList, "__SUBSCRIBE__".toList, "__UNSUBSCRIBE__".toList,
    "__JSON_EVENTS__".toList]

theorem metaCommand_word {line name : Text} (listed : name ∈ metaCommands)
    (starts : name.isPrefixOf (cString line) = true) : HasWord line := by
  have starts := List.isPrefixOf_iff_prefix.mp starts
  have underscores : ∀ name ∈ metaCommands, '_' ∈ name := by decide
  have apart : ∀ name ∈ metaCommands, ¬ name <+: "__JSON__ ".toList ∧
      ¬ "__JSON__ ".toList <+: name := by decide
  have command : commandText line = cString line := by
    rw [commandText]
    split
    next json =>
      have json := List.isPrefixOf_iff_prefix.mp json
      rcases List.prefix_or_prefix_of_prefix starts json with first | second
      · exact absurd first (apart name listed).1
      · exact absurd second (apart name listed).2
    next => rfl
  exact ⟨'_', command ▸ starts.subset (underscores name listed), by decide⟩

theorem handleCommand_reply (d : Daemon World) (slot : Slot) (w : World) {line : Text}
    (plain : newline ∉ line) :
    IsReply (handleCommand d slot w line).writes ↔ HasWord line := by
  have plain : newline ∉ cString line := fun member => plain (CString.mem_of_mem_read member)
  have listed : ∀ name ∈ metaCommands, name.isPrefixOf (cString line) = true →
      ∀ rows, (IsReply (framed rows) ↔ HasWord line) := fun name member starts rows =>
    iff_of_true ⟨rows, rfl⟩ (metaCommand_word member starts)
  rw [handleCommand]
  split_ifs with h₁ h₂ h₃ h₄ h₅ h₆ h₇ h₈ json
  · exact listed _ (by decide) h₁ _
  · exact listed _ (by decide) h₂ _
  · exact listed _ (by decide) h₃ _
  · exact listed _ (by decide) h₄ _
  · exact listed _ (by decide) h₅ _
  · exact listed _ (by decide) h₆ []
  · exact listed _ (by decide) h₇ []
  · exact listed _ (by decide) h₈ []
  · rw [runCommand_reply d slot w true fun member => plain (List.mem_of_mem_drop member), HasWord,
      commandText, if_pos json]
  · rw [runCommand_reply d slot w false plain, HasWord, commandText, if_neg json]

/-! ## Every stream -/

theorem serve_flatten (d : Daemon World) (w : World) (reads : List Text) :
    serve d w reads = poll d (connected w) reads.flatten := by
  have every (c : Client World) : reads.foldl (poll d) c = poll d c reads.flatten := by
    induction reads generalizing c with
    | nil => rfl
    | cons bytes rest ih => simp [ih, poll]
  exact every (connected w)

theorem poll_record (d : Daemon World) {c : Client World} (fresh : c.cmdBuf = []) (stream : Text) :
    (poll d c stream).record.map (·.1) =
      c.record.map (·.1) ++ (Lines.complete newline stream).filterMap tail? := by
  -- The lines that were dispatched, over any stream that begins with a line.
  induction stream using Lines.stream_induction newline generalizing c with
  | plain stream absent =>
      rw [poll_plain d (held_fresh fresh) absent,
        Lines.complete_plain absent]
      simp
  | line first rest absent ih =>
      rw [poll_line d fresh absent, ih rfl, Lines.complete_line absent]
      cases tail : tail? first with
      | none => simp [tail]
      | some part => simp [tail, dispatch]

def Answered (d : Daemon World) (c : Client World) : Prop :=
  -- Every dispatched line has its answer in the record, and no newline in it.
  newline ∉ c.cmdBuf ∧ ∀ entry ∈ c.record, newline ∉ entry.1 ∧
    ∃ slot w, entry.2 = (handleCommand d slot w entry.1).writes

theorem receive_answered (d : Daemon World) {c : Client World} (answered : Answered d c)
    (byte : Char) : Answered d (receive d c byte) := by
  obtain ⟨plain, entries⟩ := answered
  rw [receive]
  by_cases full : c.cmdBuf.length ≥ maxCmdLen - 1
  next =>
    rw [if_pos full]
    exact ⟨by simp, entries⟩
  next =>
    rw [if_neg full]
    by_cases ends : byte = newline
    next =>
      simp only [ends, if_true, List.dropLast_concat]
      split
      next =>
        constructor
        · simp
        · intro entry member
          simp only [dispatch, List.mem_append, List.mem_singleton] at member
          rcases member with old | rfl
          · exact entries entry old
          · exact ⟨plain, _, _, rfl⟩
      next => exact ⟨by simp, entries⟩
    next =>
      simp only [ends, if_false]
      constructor
      · simp only [List.mem_append, List.mem_singleton, not_or]
        exact ⟨plain, Ne.symm ends⟩
      · exact entries

theorem poll_answered (d : Daemon World) {c : Client World} (answered : Answered d c)
    (stream : Text) : Answered d (poll d c stream) := by
  induction stream generalizing c with
  | nil => exact answered
  | cons byte rest ih => exact ih (receive_answered d answered byte)

theorem tail?_fits {line : Text} (fits : Fits line) : tail? line = some line := by
  obtain ⟨some, short⟩ := fits
  have positive := List.length_pos_iff.mpr some
  have small : line.length < maxCmdLen := by omega
  rw [tail?, Nat.mod_eq_of_lt small, if_pos (by omega), held_short small]

theorem tail?_none {line : Text} (clean : line.length + 1 < maxCmdLen ∨
    (line.length + 1) % maxCmdLen < 2) (unfit : ¬ Fits line) : tail? line = none := by
  have long : line = [] ∨ maxCmdLen ≤ line.length + 1 := by
    by_cases empty : line = []
    · exact .inl empty
    · exact .inr (Nat.le_of_not_lt fun short => unfit ⟨empty, short⟩)
  rw [tail?, if_neg]
  rcases long with rfl | long
  · simp
  · simp only [maxCmdLen] at *
    omega

theorem tail?_some {line : Text} (unclean : ¬ (line.length + 1) % maxCmdLen < 2) :
    (tail? line).isSome = true := by
  rw [tail?, if_pos]
  · rfl
  · simp only [maxCmdLen] at *
    omega

theorem clean_of_count {lines : List Text}
    (count : (lines.filterMap tail?).length = (lines.filter fun line => Fits line).length) :
    ∀ line ∈ lines, line.length + 1 < maxCmdLen ∨ (line.length + 1) % maxCmdLen < 2 := by
  -- Where as many lines are dispatched as fit, no over-long line leaves a tail.
  have bound (lines : List Text) :
      (lines.filter fun line => Fits line).length ≤ (lines.filterMap tail?).length := by
    induction lines with
    | nil => simp
    | cons line rest ih =>
        by_cases fits : Fits line
        next => simp [fits, tail?_fits fits, ih]
        next =>
          cases tail : tail? line with
          | none => simpa [fits, tail] using ih
          | some part =>
              simp only [List.filter_cons, fits, decide_false, Bool.false_eq_true, if_false,
                List.filterMap_cons, tail, List.length_cons]
              omega
  induction lines with
  | nil => simp
  | cons line rest ih =>
      have rest_bound := bound rest
      by_cases fits : Fits line
      next =>
        simp only [List.filter_cons, fits, decide_true, if_true, List.filterMap_cons,
          tail?_fits fits, List.length_cons, Nat.add_right_cancel_iff] at count
        exact List.forall_mem_cons.mpr ⟨.inl fits.2, ih count⟩
      next =>
        cases tail : tail? line with
        | none =>
            simp only [List.filter_cons, fits, decide_false, Bool.false_eq_true, if_false,
              List.filterMap_cons, tail] at count
            refine List.forall_mem_cons.mpr ⟨?_, ih count⟩
            by_contra unclean
            push Not at unclean
            have some : (tail? line).isSome = true := tail?_some (by omega)
            simp [tail] at some
        | some part =>
            simp only [List.filter_cons, fits, decide_false, Bool.false_eq_true, if_false,
              List.filterMap_cons, tail, List.length_cons] at count
            omega

theorem filterMap_tail? {lines : List Text} (clean : ∀ line ∈ lines,
    line.length + 1 < maxCmdLen ∨ (line.length + 1) % maxCmdLen < 2) :
    lines.filterMap tail? = lines.filter fun line => Fits line := by
  induction lines with
  | nil => rfl
  | cons line rest ih =>
      obtain ⟨first, others⟩ := List.forall_mem_cons.mp clean
      by_cases fits : Fits line
      next => simp [fits, tail?_fits fits, ih others]
      next => simp [fits, tail?_none first fits, ih others]

/-- The commands of every stream, however it is cut into reads, are its lines, and each has its
reply, exactly when every line is sound. -/
theorem framing_iff (d : Daemon World) (w : World) (reads : List Text) :
    Paired reads.flatten (serve d w reads).record ↔
      ∀ line ∈ Lines.complete newline reads.flatten, Sound line := by
  have lines := poll_record d (c := connected w) rfl reads.flatten
  have answers := poll_answered d (c := connected w) ⟨by simp [connected], by simp [connected]⟩
    reads.flatten
  rw [← serve_flatten] at lines answers
  simp only [connected, List.map_nil, List.nil_append] at lines
  constructor
  · rintro ⟨dispatched, answered⟩ line member
    have clean := clean_of_count (congrArg List.length (lines.symm.trans dispatched))
    refine ⟨clean line member, fun fits => ?_⟩
    have listed : line ∈ (serve d w reads).record.map (·.1) := by
      rw [dispatched]
      simp [member, fits]
    obtain ⟨entry, recorded, rfl⟩ := List.mem_map.mp listed
    obtain ⟨plain, slot, world, writes⟩ := answers.2 entry recorded
    by_cases subscription : isSubscription entry.1 = true
    next =>
      simp only [isSubscription, Bool.or_eq_true] at subscription
      rcases subscription with (starts | starts) | starts
      · exact metaCommand_word (by decide) starts
      · exact metaCommand_word (by decide) starts
      · exact metaCommand_word (by decide) starts
    next =>
      have reply := answered entry recorded (by simpa using subscription)
      rw [writes] at reply
      exact (handleCommand_reply d slot world plain).mp reply
  · intro sound
    have dispatched := lines.trans (filterMap_tail? fun line member => (sound line member).1)
    refine ⟨dispatched, fun entry member _ => ?_⟩
    obtain ⟨plain, slot, world, writes⟩ := answers.2 entry member
    have listed : entry.1 ∈ (Lines.complete newline reads.flatten).filter fun line => Fits line :=
      dispatched ▸ List.mem_map_of_mem member
    rw [List.mem_filter, decide_eq_true_eq] at listed
    rw [writes]
    exact (handleCommand_reply d slot world plain).mpr ((sound _ listed.1).2 listed.2)

def bare : Daemon Unit where
  -- A daemon without modules.
  coreCmds := []
  modules := fun _ => []
  usernames := fun _ => []
  sounds := fun _ => none

def overLongLine : Text :=
  List.replicate maxCmdLen 'x' ++ "ptt on".toList

theorem tail?_overLong : tail? overLongLine = some "ptt on".toList := by
  have size : overLongLine.length = maxCmdLen + 6 := by simp [overLongLine]
  have within : (maxCmdLen + 6) % maxCmdLen = 6 := by decide
  have whole : (maxCmdLen + 6) / maxCmdLen * maxCmdLen = maxCmdLen := by decide
  rw [tail?, size, within, if_pos (by decide), held, size, whole, overLongLine,
    List.drop_left' (List.length_replicate ..)]

/-- The end of an over-long line runs as a command, and a blank line is never answered. -/
theorem over_long_tail_dispatched :
    (¬ Paired (overLongLine ++ [newline]) (serve bare () [overLongLine ++ [newline]]).record) ∧
      ¬ Paired [' ', newline] (serve bare () [[' ', newline]]).record := by
  constructor
  · rintro ⟨dispatched, -⟩
    have plain : newline ∉ overLongLine := by
      simp [overLongLine, newline]
    have only : Lines.complete newline (overLongLine ++ [newline]) = [overLongLine] := by
      rw [Lines.complete_line plain, Lines.complete_plain List.not_mem_nil]
    have unfit : ¬ Fits overLongLine := by
      simp [Fits, overLongLine]
      omega
    have ran := poll_record bare (c := connected ()) rfl (overLongLine ++ [newline])
    rw [only] at dispatched ran
    have served := serve_flatten bare () [overLongLine ++ [newline]]
    simp only [List.flatten_cons, List.flatten_nil, List.append_nil] at served
    rw [served, ran] at dispatched
    simp [tail?_overLong, unfit, connected] at dispatched
  · rintro ⟨-, answered⟩
    have silent : (serve bare () [[' ', newline]]).record = [([' '], [])] := by decide
    obtain ⟨rows, reply⟩ := answered ([' '], []) (by simp [silent]) (by decide)
    simp [framed] at reply

end Kerchunk.Socket
