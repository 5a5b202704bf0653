import Kerchunk.Config.Ini
import Kerchunk.Lib.BlankLines
import Kerchunk.Lib.CString
import Kerchunk.Lib.Machine

set_option autoImplicit false

/-!
# Blocks of the ESL stream (`modules/mod_freeswitch.c`)

Blocks are taken off the front of the receive buffer, which is searched as a C string. What lies
behind the shifted data is what lay there before.
-/

namespace Kerchunk.Freeswitch

open BlankLines (cut deframe join)
open Kerchunk.Config (Text nul newline)

def eslBufSize : Nat := 16384

/-- `g_esl_buf`, with anything in it. -/
structure EslBuf where
  bytes : Text
  size : bytes.length = eslBufSize

/-- One connection: `incoming` is what the peer has sent and `received` what has been taken of it.
A length below zero is one near 2^64 to `memmove`: nothing after it is modelled. -/
structure Esl where
  buf : Text
  bufLen : Nat
  incoming : Text
  received : Text
  handled : List Text
  underflow : Bool

def Esl.start (buf : EslBuf) (stream : Text) : Esl where
  buf := buf.bytes
  bufLen := 0
  incoming := stream
  received := []
  handled := []
  underflow := false

def findBlankLine (buf : Text) : Option Nat :=
  -- `strstr(g_esl_buf, "\n\n")`.
  (cut newline (CString.read nul buf)).map fun (block, _) => block.length

def processBuffer : Nat → Esl → Esl
  -- The loop of `esl_process_buffer`; each round shortens the data.
  | 0, e => e
  | fuel + 1, e =>
    if e.bufLen = 0 then e
    else
      match findBlankLine e.buf with
      | none => e
      | some sep =>
        let blockLen := sep + 2
        let buf := e.buf.set sep nul
        let handled := e.handled ++ [CString.read nul buf]
        if e.bufLen < blockLen then { e with buf := buf, handled := handled, underflow := true }
        else
          let remaining := e.bufLen - blockLen
          processBuffer fuel
            { e with
              buf := (buf.drop blockLen).take remaining ++ buf.drop remaining
              bufLen := remaining
              handled := handled }

def Esl.chunk (e : Esl) (amount : Nat) : Text :=
  -- What `recv` takes where `amount` bytes are there.
  e.incoming.take (min amount (eslBufSize - 1 - e.bufLen))

def Esl.receive (e : Esl) (chunk : Text) : Esl :=
  let bufLen := e.bufLen + chunk.length
  { e with
    buf := (e.buf.take e.bufLen ++ chunk ++ e.buf.drop bufLen).set bufLen nul
    bufLen := bufLen
    incoming := e.incoming.drop chunk.length
    received := e.received ++ chunk }

def Esl.poll (e : Esl) (amount : Nat) : Esl :=
  -- `esl_poll` on an open connection.
  if e.underflow = true ∨ e.chunk amount = [] then e
  else
    let e := e.receive (e.chunk amount)
    let e := processBuffer e.bufLen e
    if e.underflow = false ∧ e.bufLen ≥ eslBufSize - 1 then
      { e with buf := e.buf.set 0 nul, bufLen := 0 }
    else e

def Esl.data (e : Esl) : Text :=
  e.buf.take e.bufLen

/-! ## What is asked -/

/-- Every block so far has been handed on, and the rest is what is unfinished. -/
structure Deframed (e : Esl) : Prop where
  underflow : e.underflow = false
  handled : e.handled = (deframe newline e.received).1
  left : e.data = (deframe newline e.received).2
  amount : e.bufLen = (deframe newline e.received).2.length

structure Fits (stream : Text) : Prop where
  blocks : ∀ block ∈ (deframe newline stream).1, block.length + 2 < eslBufSize
  unfinished : (deframe newline stream).2.length < eslBufSize - 1

/-- What stands behind the `rest` once a block has been taken off: what stood there before, up to
the NUL in the place of the block's blank line, where that is behind the rest. -/
def behind (block rest stale : Text) : Text :=
  if rest.length ≤ block.length then block.drop rest.length
  else (block ++ newline :: newline :: rest).drop rest.length ++ stale

def staleBehind : List Text → Text → Text → Text
  | [], _, stale => stale
  | block :: blocks, unfinished, stale =>
    staleBehind blocks unfinished (behind block (join newline blocks unfinished) stale)

/-- What is unfinished, with what stands behind it once the blocks are taken off, shows no blank
line. -/
def QuietBehind (stale data : Text) : Prop :=
  let (blocks, unfinished) := deframe newline data
  unfinished = [] ∨ cut newline (unfinished ++ staleBehind blocks unfinished stale) = none

instance (stale data : Text) : Decidable (QuietBehind stale data) :=
  inferInstanceAs (Decidable (_ ∨ _))

def Quiet (e : Esl) (amount : Nat) : Prop :=
  QuietBehind [] (e.data ++ e.chunk amount)

/-! ## The loop -/

/-- The data, what stands behind it as a string, and the NUL that ends it. -/
structure Holds (e : Esl) (data stale : Text) : Prop where
  shown : ∃ tail, e.buf = data ++ stale ++ nul :: tail
  plain : nul ∉ data
  plainBehind : nul ∉ stale
  amount : e.bufLen = data.length

theorem Holds.find {e : Esl} {data stale : Text} (holds : Holds e data stale) :
    findBlankLine e.buf = (cut newline (data ++ stale)).map fun (block, _) => block.length := by
  obtain ⟨tail, shown⟩ := holds.shown
  have plain : nul ∉ data ++ stale := by
    simp only [List.mem_append, not_or]
    exact ⟨holds.plain, holds.plainBehind⟩
  rw [findBlankLine, shown, CString.read_terminated plain]

theorem behind_plain {block rest stale : Text} (plain : nul ∉ block ++ newline :: newline :: rest)
    (plainBehind : nul ∉ stale) : nul ∉ behind block rest stale := by
  simp only [List.mem_append] at plain
  rw [behind]
  split
  next => exact fun member => plain (.inl (List.mem_of_mem_drop member))
  next =>
    intro member
    rcases List.mem_append.mp member with old | new
    · exact plain (List.mem_append.mp (List.mem_of_mem_drop old))
    · exact plainBehind new

theorem shifted_shown {block rest stale tail buf : Text}
    (shown : buf = (block ++ newline :: newline :: rest) ++ stale ++ nul :: tail) :
    ∃ after, ((buf.set block.length nul).drop (block.length + 2)).take rest.length ++
        (buf.set block.length nul).drop rest.length =
      rest ++ behind block rest stale ++ nul :: after := by
  -- The buffer with the first block taken off.
  have marked : buf.set block.length nul =
      block ++ nul :: newline :: (rest ++ stale ++ nul :: tail) := by
    rw [shown]
    simp
  have front : ((buf.set block.length nul).drop (block.length + 2)).take rest.length = rest := by
    rw [marked, ← List.drop_drop, List.drop_left]
    simp
  rw [front, behind]
  split
  next near =>
    -- The NUL of this block's blank line is not overwritten.
    refine ⟨newline :: (rest ++ stale ++ nul :: tail), ?_⟩
    rw [marked, List.drop_append_of_le_length near]
    simp only [List.append_assoc]
  next far =>
    refine ⟨tail, ?_⟩
    have beyond : block.length < rest.length := by omega
    have same : (buf.set block.length nul).drop rest.length = buf.drop rest.length :=
      List.drop_set_of_lt beyond
    have inside : rest.length ≤ (block ++ newline :: newline :: rest).length := by
      simp only [List.length_append, List.length_cons]
      omega
    rw [same, shown, List.append_assoc, List.drop_append_of_le_length inside]
    simp only [List.append_assoc]

theorem set_read {block rest : Text} (plain : nul ∉ block) {buf : Text}
    (shown : buf = block ++ newline :: rest) : CString.read nul (buf.set block.length nul) = block := by
  have marked : buf.set block.length nul = block ++ nul :: rest := by
    rw [shown]
    simp
  rw [marked, CString.read_terminated plain]

/-- What a pass makes of the data it finds. -/
structure Passed (e after : Esl) (data : Text) : Prop where
  underflow : after.underflow = e.underflow
  handled : after.handled = e.handled ++ (deframe newline data).1
  left : after.data = (deframe newline data).2
  amount : after.bufLen = (deframe newline data).2.length
  size : after.buf.length = e.buf.length
  received : after.received = e.received
  incoming : after.incoming = e.incoming

theorem Holds.data {e : Esl} {data stale : Text} (holds : Holds e data stale) : e.data = data := by
  obtain ⟨tail, shown⟩ := holds.shown
  rw [Esl.data, shown, holds.amount, List.append_assoc, List.take_left]

theorem Holds.passed {e : Esl} {data stale : Text} (holds : Holds e data stale)
    (none : cut newline data = none) : Passed e e data := by
  have whole := BlankLines.deframe_open none
  refine ⟨rfl, ?_, ?_, ?_, rfl, rfl, rfl⟩
  · simp [whole]
  · rw [whole, holds.data]
  · rw [whole, holds.amount]

theorem round_open (fuel : Nat) {e : Esl} {data stale : Text} (holds : Holds e data stale)
    (none : cut newline data = none) :
    (QuietBehind stale data → processBuffer (fuel + 1) e = e) ∧
      (¬ QuietBehind stale data → (processBuffer (fuel + 1) e).underflow = true) := by
  -- The round that finds no blank line in the data.
  simp only [QuietBehind, BlankLines.deframe_open none, staleBehind]
  rw [processBuffer]
  by_cases empty : data = []
  next =>
    have nothing : e.bufLen = 0 := by rw [holds.amount, empty, List.length_nil]
    rw [if_pos nothing]
    exact ⟨fun _ => rfl, fun loud => absurd (.inl empty) loud⟩
  next =>
    have some : e.bufLen ≠ 0 := by
      rw [holds.amount]
      exact fun zero => empty (List.length_eq_zero_iff.mp zero)
    rw [if_neg some, holds.find]
    simp only [empty, false_or]
    cases beyond : cut newline (data ++ stale) with
    | none => exact ⟨fun _ => rfl, fun loud => absurd rfl loud⟩
    | some parts =>
        obtain ⟨block, after⟩ := parts
        have short := BlankLines.cut_beyond none beyond
        simp only [Option.map_some, reduceCtorEq, false_implies, not_false_eq_true, true_implies,
          true_and]
        rw [if_pos (by rw [holds.amount]; exact short)]

/-- The block is handed on, and nothing else but the buffer changes. -/
structure Taken (e next : Esl) (block : Text) : Prop where
  handled : next.handled = e.handled ++ [block]
  size : next.buf.length = e.buf.length
  underflow : next.underflow = e.underflow
  received : next.received = e.received
  incoming : next.incoming = e.incoming

theorem round_block (fuel : Nat) {e : Esl} {data stale block after : Text}
    (holds : Holds e data stale) (found : cut newline data = some (block, after)) :
    ∃ next, processBuffer (fuel + 1) e = processBuffer fuel next ∧
      Holds next after (behind block after stale) ∧ Taken e next block := by
  -- The round that takes the first block off the data.
  have parts := BlankLines.cut_parts found
  have length := BlankLines.cut_length found
  obtain ⟨tail, shown⟩ := holds.shown
  have plain := holds.plain
  rw [parts] at shown plain
  obtain ⟨more, shifted⟩ := shifted_shown shown
  have some : e.bufLen ≠ 0 := by rw [holds.amount]; omega
  have within : ¬ e.bufLen < block.length + 2 := by rw [holds.amount]; omega
  have remaining : e.bufLen - (block.length + 2) = after.length := by
    rw [holds.amount]
    omega
  have blockPlain : nul ∉ block := fun member => plain (List.mem_append_left _ member)
  have read := set_read blockPlain (by simpa using shown)
  have next : Holds
      { e with
        buf := after ++ behind block after stale ++ nul :: more
        bufLen := after.length
        handled := e.handled ++ [block] } after (behind block after stale) :=
    ⟨⟨more, rfl⟩, fun member => plain (by simp [member]), behind_plain plain holds.plainBehind, rfl⟩
  refine ⟨_, ?_, next, rfl, ?_, rfl, rfl, rfl⟩
  · rw [processBuffer, if_neg some, holds.find, BlankLines.cut_append found stale]
    simp only [Option.map_some, within, if_false, remaining, read, shifted]
  · have room : block.length + 2 + after.length ≤ e.buf.length := by
      rw [shown]
      simp only [List.length_append, List.length_cons]
      omega
    rw [← shifted]
    simp only [List.length_append, List.length_take, List.length_drop, List.length_set]
    omega

theorem processBuffer_passed {fuel : Nat} {e : Esl} {data stale : Text} (holds : Holds e data stale)
    (enough : data.length ≤ fuel) :
    (QuietBehind stale data → Passed e (processBuffer fuel e) data) ∧
      (¬ QuietBehind stale data → (processBuffer fuel e).underflow = true) := by
  induction fuel generalizing e data stale with
  | zero =>
      have empty : data = [] := List.length_eq_zero_iff.mp (Nat.le_zero.mp enough)
      subst empty
      exact ⟨fun _ => holds.passed rfl, fun loud => absurd (.inl rfl) loud⟩
  | succ fuel ih =>
      cases found : cut newline data with
      | none =>
          have round := round_open fuel holds found
          exact ⟨fun calm => (round.1 calm).symm ▸ holds.passed found, round.2⟩
      | some parts =>
          obtain ⟨block, after⟩ := parts
          have length := BlankLines.cut_length found
          have blocks := BlankLines.deframe_block found
          have joined := BlankLines.join_deframe newline after
          have quiet : QuietBehind stale data ↔ QuietBehind (behind block after stale) after := by
            simp only [QuietBehind, blocks, staleBehind, joined]
          obtain ⟨next, round, left, taken⟩ := round_block fuel holds found
          have rest := ih left (by omega)
          rw [quiet, round]
          refine ⟨fun calm => ?_, rest.2⟩
          have passed := rest.1 calm
          exact
            { underflow := passed.underflow.trans taken.underflow
              handled := by
                rw [passed.handled, taken.handled, blocks, List.append_assoc,
                  List.singleton_append]
              left := by rw [passed.left, blocks]
              amount := by rw [passed.amount, blocks]
              size := passed.size.trans taken.size
              received := passed.received.trans taken.received
              incoming := passed.incoming.trans taken.incoming }

/-! ## Every arrival -/

structure Good (stream : Text) (e : Esl) : Prop where
  deframed : Deframed e
  size : e.buf.length = eslBufSize
  whole : e.received ++ e.incoming = stream

theorem unfinished_short (first second : Text) (fits : Fits (first ++ second)) :
    (deframe newline first).2.length < eslBufSize - 1 := by
  -- What is unfinished of a stream that fits never fills the buffer.
  have split := BlankLines.deframe_append newline first second
  have none := BlankLines.cut_unfinished newline first
  cases found : cut newline ((deframe newline first).2 ++ second) with
  | none =>
      have rest := fits.unfinished
      rw [split, BlankLines.deframe_open found, List.length_append] at rest
      omega
  | some parts =>
      obtain ⟨block, after⟩ := parts
      have short := BlankLines.cut_beyond none found
      have listed : block ∈ (deframe newline (first ++ second)).1 := by
        rw [split, BlankLines.deframe_block found]
        simp
      have bound := fits.blocks block listed
      simp only [eslBufSize] at *
      omega

theorem Good.room {stream : Text} {e : Esl} (good : Good stream e) (fits : Fits stream) :
    e.bufLen < eslBufSize - 1 := by
  rw [good.deframed.amount]
  exact unfinished_short e.received e.incoming (good.whole ▸ fits)

theorem receive_holds {stream : Text} {e : Esl} (good : Good stream e) (plain : nul ∉ stream)
    {chunk : Text} (sent : chunk <+: e.incoming)
    (room : e.bufLen + chunk.length ≤ eslBufSize - 1) :
    Holds (e.receive chunk) (e.data ++ chunk) [] ∧ (e.receive chunk).buf.length = eslBufSize := by
  have size := good.size
  have amount : e.data.length = e.bufLen := by rw [good.deframed.left, good.deframed.amount]
  have within : e.bufLen + chunk.length < e.buf.length := by
    rw [size]
    simp only [eslBufSize] at *
    omega
  obtain ⟨stale, tail, rest⟩ : ∃ stale tail, e.buf.drop (e.bufLen + chunk.length) = stale :: tail := by
    cases rest : e.buf.drop (e.bufLen + chunk.length) with
    | nil => exact absurd (List.drop_eq_nil_iff.mp rest) (by omega)
    | cons stale tail => exact ⟨stale, tail, rfl⟩
  have front : (e.data ++ chunk).length = e.bufLen + chunk.length := by
    rw [List.length_append, amount]
  have shown : (e.receive chunk).buf = (e.data ++ chunk) ++ [] ++ nul :: tail := by
    simp only [Esl.receive, rest]
    rw [← Esl.data, ← front]
    simp
  constructor
  · refine ⟨⟨tail, shown⟩, ?_, List.not_mem_nil, ?_⟩
    · intro member
      apply plain
      rw [← good.whole]
      rcases List.mem_append.mp member with old | new
      · have inside := BlankLines.join_deframe newline e.received
        rw [good.deframed.left] at old
        rw [← inside, join, List.append_assoc]
        exact List.mem_append_right _ (List.mem_append_left _ old)
      · exact List.mem_append_right _ (sent.subset new)
    · exact front.symm
  · simp only [Esl.receive, List.length_set, List.length_append, List.length_take,
      List.length_drop]
    omega

theorem chunk_fits {e : Esl} (room : e.bufLen < eslBufSize - 1) (amount : Nat) :
    e.bufLen + (e.chunk amount).length ≤ eslBufSize - 1 := by
  have bound : (e.chunk amount).length ≤ eslBufSize - 1 - e.bufLen :=
    (List.length_take_le _ _).trans (Nat.min_le_right _ _)
  omega

theorem Passed.good {stream chunk : Text} {e after : Esl}
    (passed : Passed (e.receive chunk) after (e.data ++ chunk)) (good : Good stream e)
    (fits : Fits stream) (sent : chunk <+: e.incoming)
    (size : (e.receive chunk).buf.length = eslBufSize) :
    Good stream after ∧ after.bufLen < eslBufSize - 1 := by
  -- A pass over what has arrived keeps everything good and leaves room for more.
  have received : after.received = e.received ++ chunk := passed.received
  have incoming : after.incoming = e.incoming.drop chunk.length := passed.incoming
  have whole : e.received ++ chunk ++ e.incoming.drop chunk.length = stream := by
    have rest : chunk ++ e.incoming.drop chunk.length = e.incoming :=
      List.prefix_iff_eq_append.mp sent
    rw [List.append_assoc, rest, good.whole]
  have before := BlankLines.deframe_append newline e.received chunk
  rw [← good.deframed.left, ← received] at before
  have short := unfinished_short (e.received ++ chunk) _ (whole ▸ fits)
  rw [← received, before] at short
  have deframed : Deframed after :=
    { underflow := passed.underflow.trans good.deframed.underflow
      handled := by
        rw [passed.handled, before]
        exact congrArg (· ++ _) good.deframed.handled
      left := by rw [passed.left, before]
      amount := by rw [passed.amount, before] }
  exact ⟨⟨deframed, passed.size.trans size, by rw [received, incoming, whole]⟩,
    passed.amount.trans_lt short⟩

theorem poll_good {stream : Text} {e : Esl} (good : Good stream e) (plain : nul ∉ stream)
    (fits : Fits stream) (amount : Nat) :
    (Quiet e amount → Good stream (e.poll amount)) ∧
      (¬ Quiet e amount → (e.poll amount).underflow = true) := by
  -- A poll goes well exactly when no blank line shows behind what is unfinished.
  by_cases none : e.chunk amount = []
  next =>
    have unfinished := BlankLines.cut_unfinished newline e.received
    have quiet : Quiet e amount := by
      rw [Quiet, none, List.append_nil, QuietBehind, good.deframed.left,
        BlankLines.deframe_open unfinished]
      right
      rw [staleBehind, List.append_nil]
      exact unfinished
    rw [Esl.poll, if_pos (.inr none)]
    exact ⟨fun _ => good, fun loud => absurd quiet loud⟩
  next =>
    have sent : e.chunk amount <+: e.incoming := List.take_prefix _ _
    obtain ⟨holds, size⟩ := receive_holds good plain sent (chunk_fits (good.room fits) amount)
    have enough : (e.data ++ e.chunk amount).length ≤ (e.receive (e.chunk amount)).bufLen :=
      holds.amount.ge
    have passed := processBuffer_passed holds enough
    have running : ¬ (e.underflow = true ∨ e.chunk amount = []) := by
      simp [good.deframed.underflow, none]
    rw [Esl.poll, if_neg running]
    constructor
    · intro quiet
      obtain ⟨after, short⟩ := (passed.1 quiet).good good fits sent size
      simp only [Nat.not_le.mpr short, and_false, if_false]
      exact after
    · intro loud
      have broken := passed.2 loud
      simp [broken]

theorem poll_underflow {e : Esl} (broken : e.underflow = true) (amount : Nat) :
    e.poll amount = e := by
  rw [Esl.poll, if_pos (.inl broken)]

theorem run_underflow {e : Esl} (broken : e.underflow = true) (amounts : List Nat) :
    (Machine.run Esl.poll e amounts).underflow = true := by
  induction amounts generalizing e with
  | nil => exact broken
  | cons amount rest ih => exact ih (by rw [poll_underflow broken]; exact broken)

theorem run_good {stream : Text} {e : Esl} (good : Good stream e) (plain : nul ∉ stream)
    (fits : Fits stream) (amounts : List Nat) :
    Deframed (Machine.run Esl.poll e amounts) ↔ Machine.Guarded Esl.poll Quiet e amounts := by
  induction amounts generalizing e with
  | nil => exact iff_of_true good.deframed trivial
  | cons amount rest ih =>
      have step := poll_good good plain fits amount
      by_cases quiet : Quiet e amount
      next => simp only [Machine.run_cons, Machine.Guarded, quiet, true_and, ih (step.1 quiet)]
      next =>
        have broken := run_underflow (step.2 quiet) rest
        refine iff_of_false (fun deframed => ?_) fun guarded => quiet guarded.1
        have sound := deframed.underflow
        rw [Machine.run_cons, broken] at sound
        simp at sound

theorem start_good (buf : EslBuf) (stream : Text) : Good stream (Esl.start buf stream) where
  deframed := ⟨rfl, rfl, rfl, rfl⟩
  size := buf.size
  whole := rfl

/-- However a stream of fitting blocks arrives, its blocks are handed on one by one and nothing
beyond them is looked at, exactly when no pass leaves a blank line behind its data. -/
theorem deframed_iff {stream : Text} (buf : EslBuf) (plain : nul ∉ stream) (fits : Fits stream)
    (amounts : List Nat) :
    Deframed (Machine.run Esl.poll (Esl.start buf stream) amounts) ↔
      Machine.Guarded Esl.poll Quiet (Esl.start buf stream) amounts :=
  run_good (start_good buf stream) plain fits amounts

instance (e : Esl) (amount : Nat) : Decidable (Quiet e amount) :=
  inferInstanceAs (Decidable (QuietBehind _ _))

def zeroed : EslBuf where
  bytes := List.replicate eslBufSize nul
  size := List.length_replicate

/-- Two events and the beginning of a third arrive at once. -/
theorem two_events_deframed :
    Deframed (Machine.run Esl.poll
      (Esl.start zeroed "Event-Name: DTMF\n\nEvent-Name: CHANNEL_ANSWER\n\nEvent-".toList) [64]) :=
  (deframed_iff zeroed (by decide) ⟨by decide, by decide⟩ [64]).mpr ⟨by decide, trivial⟩

def firstEvent : Text := "Content-Length: 1000\nContent-Type: text/event-plain\n\n".toList

def secondEvent : Text := "Content-Length: 999\nContent-Type: text/event-plain\n\n".toList

/-- The second event has come up to the end of its first line, which now stands where that line of
the first event had its last digit: the newline behind it is the first event's. -/
theorem stale_newline_ends_block :
    nul ∉ firstEvent ++ secondEvent ∧ Fits (firstEvent ++ secondEvent) ∧
      ¬ Deframed (Machine.run Esl.poll (Esl.start zeroed (firstEvent ++ secondEvent)) [73]) := by
  have plain : nul ∉ firstEvent ++ secondEvent := by decide
  have fits : Fits (firstEvent ++ secondEvent) := ⟨by decide +kernel, by decide +kernel⟩
  refine ⟨plain, fits, fun deframed => ?_⟩
  have broken := (poll_good (start_good zeroed _) plain fits 73).2 (by decide +kernel)
  have sound := deframed.underflow
  rw [Machine.run_cons, Machine.run_nil, broken] at sound
  simp at sound

end Kerchunk.Freeswitch
