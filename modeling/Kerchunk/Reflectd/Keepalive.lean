import Kerchunk.Reflectd.Lifelines
import Mathlib.Data.List.Induction

set_option autoImplicit false

/-!
# The keepalive (`src/reflectd/main.c`)

A connection that is quiet is asked, and closed when it stays quiet.
-/

namespace Kerchunk.Reflectd

open Link (Msg)
open Machine (Guarded run run_nil run_cons run_append guarded_append)

/-- A message of connection `c` that counts as traffic. -/
def Event.heardOn (c : Nat) : Event → Bool
  | .wsMsg d frame _ => d == c && decide (frame.len ≤ Link.maxMsg)
  | _ => false

def kaliveMs (s : State) : Int := s.cfg.keepaliveS * 1000

def isClosing (s : State) (c : Nat) : Bool :=
  (s.conns c).any Conn.isClosing

def SaysNothing (c : Nat) (s : State) (timed : Moment × Event) : Prop :=
  -- The connection is open, and says nothing.
  s.conns c ≠ none ∧ timed.2.heardOn c = false

/-! ## The lifeline of one connection -/

/-- What an event does to a connection that stays open: a message, a turn of the keepalive, or
nothing. -/
theorem lifeline_cases {s : State} {m : Moment} {e : Event} {c : Nat} {cs : Conn} {line : Lifeline}
    (here : s.conns c = some cs) (after : lifelines (step s (m, e)) c = some line) :
    e.heardOn c = true ∧ line = (cs.heard (s.nowMs + m.elapsed)).lifeline ∨
      e = .keepaliveTick ∧ line =
        (keepaliveConn (s.nowMs + m.elapsed) (kaliveMs s) cs).1.lifeline ∨
      e.heardOn c = false ∧ e ≠ .keepaliveTick ∧ line = cs.lifeline := by
  rw [lifeline_step] at after
  cases e with
  | wsOpen d challenge =>
    rw [Event.lifeline, if_neg (by simp [here]), here] at after
    exact Or.inr (Or.inr ⟨rfl, by simp, (Option.some.inj after).symm⟩)
  | wsMsg d frame draw =>
    simp only [Event.lifeline, here] at after
    split at after
    next heard =>
      left
      exact ⟨by simp [Event.heardOn, heard], (Option.some.inj after).symm⟩
    next quiet =>
      refine Or.inr (Or.inr ⟨?_, by simp, (Option.some.inj after).symm⟩)
      simpa [Event.heardOn] using quiet
  | close d =>
    simp only [Event.lifeline, here] at after
    split at after
    next => cases after
    next => exact Or.inr (Or.inr ⟨rfl, by simp, (Option.some.inj after).symm⟩)
  | keepaliveTick =>
    simp only [Event.lifeline, here] at after
    exact Or.inr (Or.inl ⟨rfl, (Option.some.inj after).symm⟩)
  | _ =>
    simp only [Event.lifeline, here] at after
    exact Or.inr (Or.inr ⟨rfl, by simp, (Option.some.inj after).symm⟩)

/-- A connection that an event opens has not been asked anything. -/
theorem lifeline_opened {s : State} {m : Moment} {e : Event} {c : Nat} {line : Lifeline}
    (closed : s.conns c = none) (after : lifelines (step s (m, e)) c = some line) :
    line.waitingPong = false ∧ line.isClosing = false ∧ line.lastPingMs = 0 ∧
      (line.lastTrafficMs = 0 ∨ line.lastTrafficMs = s.nowMs + m.elapsed) := by
  rw [lifeline_step, closed] at after
  cases e with
  | wsOpen d challenge =>
    simp only [Event.lifeline] at after
    split at after
    next =>
      cases after
      refine ⟨rfl, rfl, rfl, ?_⟩
      cases challenge
      next => exact Or.inl rfl
      next => exact Or.inr rfl
    next => cases after
  | wsMsg d frame draw =>
    simp only [Event.lifeline, Option.map_none, ite_self] at after
    cases after
  | close d =>
    simp only [Event.lifeline, Option.map_none, ite_self] at after
    cases after
  | _ =>
    simp only [Event.lifeline, Option.map_none] at after
    cases after

/-! ## Only silent connections are closed -/

/-- After `before` a turn of the keepalive asked the connection, which has been open and silent
since. -/
structure Asked (start : State) (inputs : List (Moment × Event)) (c : Nat) (asked : Int)
    (before : List (Moment × Event)) (m : Moment) (since : List (Moment × Event)) : Prop where
  split : inputs = before ++ (m, .keepaliveTick) :: since
  time : asked = (run step start before).nowMs + m.elapsed
  sent : (step (run step start before) (m, .keepaliveTick)).sent c =
    (run step start before).sent c ++ [.ping asked]
  silent : Guarded step (SaysNothing c) (step (run step start before) (m, .keepaliveTick)) since

theorem asked_snoc {start : State} {inputs : List (Moment × Event)} {c : Nat} {asked : Int}
    {before : List (Moment × Event)} {m : Moment} {since : List (Moment × Event)}
    {timed : Moment × Event} (was : Asked start inputs c asked before m since)
    (silent : SaysNothing c (run step start inputs) timed) :
    Asked start (inputs ++ [timed]) c asked before m (since ++ [timed]) where
  split := by simp [was.split]
  time := was.time
  sent := was.sent
  silent := by
    have reached : run step (step (run step start before) (m, .keepaliveTick)) since =
        run step start inputs := by
      rw [was.split, run_append, run_cons]
    exact (guarded_append step _ _ since [timed]).mpr ⟨was.silent, by rw [reached]; exact ⟨silent, trivial⟩⟩

theorem keepalive_sends {s : State} {m : Moment} {c : Nat} {cs : Conn} (here : s.conns c = some cs)
    (asks : (keepaliveConn (s.nowMs + m.elapsed) (kaliveMs s) cs).2 = true) :
    (step s (m, .keepaliveTick)).sent c = s.sent c ++ [.ping (s.nowMs + m.elapsed)] := by
  simp only [kaliveMs] at asks
  simp [step, handle, keepaliveTick, State.at, here, asks]

theorem keepaliveConn_waiting {now kalive : Int} {cs : Conn}
    (waits : (keepaliveConn now kalive cs).1.waitingPong = true) :
    (keepaliveConn now kalive cs).2 = true ∧ (keepaliveConn now kalive cs).1.lastPingMs = now ∨
      cs.waitingPong = true ∧ (keepaliveConn now kalive cs).1.lastPingMs = cs.lastPingMs := by
  unfold keepaliveConn at waits ⊢
  repeat' split
  all_goals simp_all

theorem waiting_asked (start : State) (fresh : ∀ c, start.conns c = none)
    (inputs : List (Moment × Event)) {c : Nat} {line : Lifeline}
    (at_ : lifelines (run step start inputs) c = some line) (waits : line.waitingPong = true) :
    ∃ before m since, Asked start inputs c line.lastPingMs before m since := by
  induction inputs using List.reverseRecOn generalizing line with
  | nil => simp [lifelines, fresh] at at_
  | append_singleton rest timed ih =>
    obtain ⟨m, e⟩ := timed
    rw [run_append, run_cons, run_nil] at at_
    cases here : (run step start rest).conns c with
    | none => simp [(lifeline_opened here at_).1] at waits
    | some cs =>
      have opened : (run step start rest).conns c ≠ none := by simp [here]
      have line_ : lifelines (run step start rest) c = some cs.lifeline := by simp [lifelines, here]
      rcases lifeline_cases here at_ with ⟨-, rfl⟩ | ⟨rfl, rfl⟩ | ⟨quiet, -, rfl⟩
      next => cases waits
      next =>
        rcases keepaliveConn_waiting waits with ⟨asks, time⟩ | ⟨still, time⟩
        next =>
          refine ⟨rest, m, [], rfl, time, ?_, trivial⟩
          simp only [Conn.lifeline, time]
          exact keepalive_sends here asks
        next =>
          obtain ⟨before, m', since, was⟩ := ih line_ still
          refine ⟨before, m', since ++ [(m, .keepaliveTick)], ?_⟩
          simp only [Conn.lifeline, time]
          exact asked_snoc was ⟨opened, rfl⟩
      next =>
        obtain ⟨before, m', since, was⟩ := ih line_ waits
        exact ⟨before, m', since ++ [(m, e)], asked_snoc was ⟨opened, quiet⟩⟩

theorem keepaliveConn_closes {now kalive : Int} {cs : Conn} (before : cs.isClosing = false)
    (closes : (keepaliveConn now kalive cs).1.isClosing = true) :
    cs.waitingPong = true ∧ kalive < now - cs.lastPingMs := by
  unfold keepaliveConn at closes
  repeat' split at closes
  all_goals simp_all

/-- Only a turn of the keepalive closes a connection, and only one that was asked more than
`keepalive_s` ago and has been silent since. -/
theorem keepalive_closes_silent (cfg : Rcfg) (bootMs : Nat) (inputs : List (Moment × Event))
    (m : Moment) (e : Event) (c : Nat)
    (before : isClosing (run step (State.init cfg bootMs) inputs) c = false)
    (closes : isClosing (step (run step (State.init cfg bootMs) inputs) (m, e)) c = true) :
    e = .keepaliveTick ∧ ∃ asked first tick since,
      Asked (State.init cfg bootMs) inputs c asked first tick since ∧
        kaliveMs (run step (State.init cfg bootMs) inputs) <
          (run step (State.init cfg bootMs) inputs).nowMs + m.elapsed - asked := by
  have closing (s : State) : isClosing s c = (lifelines s c).any Lifeline.isClosing := by
    cases here : s.conns c <;> simp [isClosing, lifelines, here, Conn.lifeline]
  rw [closing] at before closes
  obtain ⟨line, after, shut⟩ := (Option.any_eq_true _ _).mp closes
  cases here : (run step (State.init cfg bootMs) inputs).conns c with
  | none => simp [(lifeline_opened here after).2.1] at shut
  | some cs =>
    have line_ : lifelines (run step (State.init cfg bootMs) inputs) c = some cs.lifeline := by
      simp [lifelines, here]
    have stays : cs.isClosing = false := by
      simpa [line_, Conn.lifeline] using before
    rcases lifeline_cases here after with ⟨-, rfl⟩ | ⟨rfl, rfl⟩ | ⟨-, -, rfl⟩
    next =>
      have kept : cs.isClosing = true := shut
      simp [stays] at kept
    next =>
      obtain ⟨waits, late⟩ := keepaliveConn_closes stays shut
      obtain ⟨first, tick, since, was⟩ :=
        waiting_asked (State.init cfg bootMs) (fun _ => rfl) inputs line_ waits
      exact ⟨rfl, _, first, tick, since, was, late⟩
    next =>
      have kept : cs.isClosing = true := shut
      simp [stays] at kept

/-! ## Silent connections are closed -/

/-- The times that a connection remembers are past. -/
def Past (s : State) : Prop :=
  0 ≤ s.nowMs ∧ ∀ c cs, s.conns c = some cs → cs.lastTrafficMs ≤ s.nowMs ∧ cs.lastPingMs ≤ s.nowMs

theorem past_step {s : State} (past : Past s) (timed : Moment × Event) : Past (step s timed) := by
  obtain ⟨m, e⟩ := timed
  have later := nowMs_step s (m, e)
  refine ⟨by rw [later]; have := past.1; omega, fun c cs at_ => ?_⟩
  have after : lifelines (step s (m, e)) c = some cs.lifeline := by simp [lifelines, at_]
  rw [later]
  cases here : s.conns c with
  | none =>
    obtain ⟨-, -, ping, traffic⟩ := lifeline_opened here after
    have start := past.1
    simp only [Conn.lifeline] at ping traffic
    simp only
    omega
  | some old =>
    obtain ⟨traffic, ping⟩ := past.2 c old here
    have same (line : Lifeline) (eq : cs.lifeline = line) :
        cs.lastTrafficMs = line.lastTrafficMs ∧ cs.lastPingMs = line.lastPingMs :=
      ⟨congrArg Lifeline.lastTrafficMs eq, congrArg Lifeline.lastPingMs eq⟩
    rcases lifeline_cases here after with ⟨-, eq⟩ | ⟨-, eq⟩ | ⟨-, -, eq⟩
    next =>
      obtain ⟨t, p⟩ := same _ eq
      simp only [Conn.lifeline, Conn.heard] at t p
      simp only
      omega
    next =>
      obtain ⟨t, p⟩ := same _ eq
      have bounds : (keepaliveConn (s.nowMs + m.elapsed) (kaliveMs s) old).1.lastTrafficMs =
          old.lastTrafficMs ∧
          ((keepaliveConn (s.nowMs + m.elapsed) (kaliveMs s) old).1.lastPingMs = old.lastPingMs ∨
            (keepaliveConn (s.nowMs + m.elapsed) (kaliveMs s) old).1.lastPingMs =
              s.nowMs + m.elapsed) := by
        unfold keepaliveConn
        repeat' split
        all_goals simp
      simp only [Conn.lifeline] at t p
      simp only
      omega
    next =>
      obtain ⟨t, p⟩ := same _ eq
      simp only [Conn.lifeline] at t p
      simp only
      omega

/-- A node's connection, last heard by `heard`. -/
def QuietSince (c : Nat) (heard : Int) (s : State) : Prop :=
  seatOf s c ≠ none ∧ ∀ cs, s.conns c = some cs → cs.lastTrafficMs ≤ heard

/-- A node's connection that is going, or that was asked by `asked` and has not answered. -/
def Overdue (c : Nat) (asked : Int) (s : State) : Prop :=
  isClosing s c = true ∨ isDraining s c = true ∨
    seatOf s c ≠ none ∧ ∀ cs, s.conns c = some cs → cs.waitingPong = true ∧ cs.lastPingMs ≤ asked

section

variable {s : State} {timed : Moment × Event} {c : Nat}

theorem seat_stays (opened : (step s timed).conns c ≠ none) (seated : seatOf s c ≠ none) :
    seatOf (step s timed) c ≠ none := by
  rcases seatOf_step opened with same | ⟨empty, -⟩
  next => rwa [same]
  next => exact absurd empty seated

/-- What a silent connection goes through while it stays open. -/
theorem silent_lifeline (silent : SaysNothing c s timed) {cs : Conn}
    (after : (step s timed).conns c = some cs) :
    ∃ old, s.conns c = some old ∧ (cs.lifeline = old.lifeline ∨ timed.2 = .keepaliveTick ∧
      cs.lifeline = (keepaliveConn (s.nowMs + timed.1.elapsed) (kaliveMs s) old).1.lifeline) := by
  obtain ⟨old, here⟩ := Option.ne_none_iff_exists'.mp silent.1
  refine ⟨old, here, ?_⟩
  have line : lifelines (step s (timed.1, timed.2)) c = some cs.lifeline := by simp [lifelines, after]
  rcases lifeline_cases here line with ⟨heard, -⟩ | ⟨tick, same⟩ | ⟨-, -, same⟩
  next => simp [silent.2] at heard
  next => exact Or.inr ⟨tick, same⟩
  next => exact Or.inl same

theorem keepaliveConn_traffic (now kalive : Int) (cs : Conn) :
    (keepaliveConn now kalive cs).1.lastTrafficMs = cs.lastTrafficMs := by
  unfold keepaliveConn
  repeat' split
  all_goals rfl

theorem quiet_step {heard : Int} (quiet : QuietSince c heard s) (silent : SaysNothing c s timed)
    (opened : (step s timed).conns c ≠ none) : QuietSince c heard (step s timed) := by
  refine ⟨seat_stays opened quiet.1, fun cs after => ?_⟩
  obtain ⟨old, here, same | ⟨-, same⟩⟩ := silent_lifeline silent after
  all_goals
    have traffic := congrArg Lifeline.lastTrafficMs same
    simp only [Conn.lifeline, keepaliveConn_traffic] at traffic
    rw [traffic]
    exact quiet.2 old here

theorem tick_conn (m : Moment) {cs : Conn} (here : s.conns c = some cs) :
    (step s (m, .keepaliveTick)).conns c =
      some (keepaliveConn (s.nowMs + m.elapsed) (kaliveMs s) cs).1 := by
  simp [step, handle, keepaliveTick, State.at, here, kaliveMs]

theorem seated_conn {cs : Conn} (here : s.conns c = some cs) (seated : seatOf s c ≠ none) :
    cs.nodeIdx.isNone = false := by
  rw [seatOf, here, Option.bind_some] at seated
  exact Option.isNone_eq_false_iff.mpr (Option.isSome_iff_ne_none.mpr seated)

/-- A connection that has been quiet for long is asked by the next turn, unless it is going or has
been asked. -/
theorem quiet_tick {heard : Int} {m : Moment} (past : Past s) (quiet : QuietSince c heard s)
    (late : kaliveMs s < s.nowMs + m.elapsed - heard) (opened : s.conns c ≠ none) :
    Overdue c (s.nowMs + m.elapsed) (step s (m, .keepaliveTick)) := by
  obtain ⟨cs, here⟩ := Option.ne_none_iff_exists'.mp opened
  obtain ⟨traffic, ping⟩ := past.2 c cs here
  have last := quiet.2 cs here
  have after := tick_conn m here
  have opened' : (step s (m, .keepaliveTick)).conns c ≠ none := by simp [after]
  have seat := seat_stays opened' quiet.1
  have seated := seated_conn here quiet.1
  unfold Overdue isClosing isDraining
  simp only [after, Option.any_some, Option.some.injEq, forall_eq']
  unfold keepaliveConn
  cases closing : cs.isClosing with
  | true => simp [closing]
  | false =>
    cases draining : cs.isDraining with
    | true => simp [draining]
    | false =>
      simp only [Bool.or_self, seated, Bool.false_eq_true, if_false]
      cases waits : cs.waitingPong with
      | true =>
        simp only [if_true]
        split
        next => simp
        next => exact Or.inr (Or.inr ⟨seat, waits, by simp only; omega⟩)
      | false =>
        rw [if_neg (by simp), if_pos (by omega)]
        exact Or.inr (Or.inr ⟨seat, rfl, by simp⟩)

theorem closing_step (opened : (step s timed).conns c ≠ none) (closing : isClosing s c = true) :
    isClosing (step s timed) c = true := by
  obtain ⟨old, here, shut⟩ := (Option.any_eq_true _ _).mp closing
  obtain ⟨cs, after⟩ := Option.ne_none_iff_exists'.mp opened
  have line : lifelines (step s (timed.1, timed.2)) c = some cs.lifeline := by simp [lifelines, after]
  have kept : cs.isClosing = true := by
    rcases lifeline_cases here line with ⟨-, same⟩ | ⟨-, same⟩ | ⟨-, -, same⟩
    next => exact (congrArg Lifeline.isClosing same).trans shut
    next =>
      refine (congrArg Lifeline.isClosing same).trans ?_
      simp [keepaliveConn, shut, Conn.lifeline]
    next => exact (congrArg Lifeline.isClosing same).trans shut
  simp [isClosing, after, kept]

theorem overdue_step {asked : Int} (overdue : Overdue c asked s) (silent : SaysNothing c s timed)
    (opened : (step s timed).conns c ≠ none) : Overdue c asked (step s timed) := by
  rcases overdue with closing | draining | ⟨seat, waits⟩
  next => exact Or.inl (closing_step opened closing)
  next => exact Or.inr (Or.inl (drains_step opened draining))
  next =>
    obtain ⟨cs, after⟩ := Option.ne_none_iff_exists'.mp opened
    obtain ⟨old, here, same⟩ := silent_lifeline silent after
    obtain ⟨waiting, ping⟩ := waits old here
    by_cases shut : cs.isClosing = true
    next => exact Or.inl (by simp [isClosing, after, shut])
    next =>
      refine Or.inr (Or.inr ⟨seat_stays opened seat, fun cs' after' => ?_⟩)
      obtain rfl : cs = cs' := Option.some.inj (after.symm.trans after')
      have kept (now kalive : Int) :
          (keepaliveConn now kalive old).1.waitingPong = true ∧
            (keepaliveConn now kalive old).1.lastPingMs = old.lastPingMs := by
        unfold keepaliveConn
        repeat' split
        all_goals simp_all
      rcases same with same | ⟨-, same⟩
      all_goals
        have pong := congrArg Lifeline.waitingPong same
        have last := congrArg Lifeline.lastPingMs same
        simp only [Conn.lifeline, kept] at pong last
      next => exact ⟨pong.trans waiting, by omega⟩
      next => exact ⟨pong, by omega⟩

/-- A connection that has not answered for long is closed by the next turn. -/
theorem overdue_tick {asked : Int} {m : Moment} (overdue : Overdue c asked s)
    (late : kaliveMs s < s.nowMs + m.elapsed - asked) (opened : s.conns c ≠ none) :
    isClosing (step s (m, .keepaliveTick)) c = true ∨
      isDraining (step s (m, .keepaliveTick)) c = true := by
  obtain ⟨cs, here⟩ := Option.ne_none_iff_exists'.mp opened
  have after := tick_conn m here
  have opened' : (step s (m, .keepaliveTick)).conns c ≠ none := by simp [after]
  rcases overdue with closing | draining | ⟨seat, waits⟩
  next => exact Or.inl (closing_step opened' closing)
  next => exact Or.inr (drains_step opened' draining)
  next =>
    obtain ⟨waiting, ping⟩ := waits cs here
    have seated := seated_conn here seat
    have late' : kaliveMs s < s.nowMs + m.elapsed - cs.lastPingMs := by omega
    simp only [isClosing, isDraining, after, Option.any_some]
    unfold keepaliveConn
    cases closing : cs.isClosing <;> cases draining : cs.isDraining <;>
      simp [closing, draining, seated, waiting, late']

end

/-- What a silent connection keeps while it is open, it keeps along a run. -/
theorem silent_run {P : State → Prop} {c : Nat}
    (keeps : ∀ s timed, P s → SaysNothing c s timed → (step s timed).conns c ≠ none → P (step s timed))
    {s : State} {inputs : List (Moment × Event)} (start : P s)
    (silent : Guarded step (SaysNothing c) s inputs) (opened : (run step s inputs).conns c ≠ none) :
    P (run step s inputs) := by
  induction inputs generalizing s with
  | nil => exact start
  | cons timed rest ih =>
    obtain ⟨now, later⟩ := silent
    have between : (step s timed).conns c ≠ none := by
      cases rest with
      | nil => exact opened
      | cons next _ => exact later.1.1
    exact ih (keeps s timed start now between) later opened

theorem past_run (cfg : Rcfg) (bootMs : Nat) (inputs : List (Moment × Event)) :
    Past (run step (State.init cfg bootMs) inputs) := by
  refine Machine.run_holds (P := Past) step (fun s timed past => past_step past timed) ⟨?_, nofun⟩
  simp only [State.init]
  omega

/-- A node's connection that says nothing is gone, or on its way out, after two turns of the
keepalive: one more than `keepalive_s` after the start, and one more than `keepalive_s` after that. -/
theorem silent_node_closes (cfg : Rcfg) (bootMs : Nat) (inputs first second : List (Moment × Event))
    (m m' : Moment) (c : Nat)
    (seated : seatOf (run step (State.init cfg bootMs) inputs) c ≠ none)
    (silent : Guarded step (SaysNothing c) (run step (State.init cfg bootMs) inputs)
      (first ++ (m, .keepaliveTick) :: second ++ [(m', .keepaliveTick)]))
    (late : kaliveMs (run step (State.init cfg bootMs) (inputs ++ first)) <
      (run step (State.init cfg bootMs) (inputs ++ first)).nowMs + m.elapsed -
        (run step (State.init cfg bootMs) inputs).nowMs)
    (later : kaliveMs (run step (State.init cfg bootMs) (inputs ++ first ++ (m, .keepaliveTick) :: second)) <
      (run step (State.init cfg bootMs) (inputs ++ first ++ (m, .keepaliveTick) :: second)).nowMs +
        m'.elapsed - ((run step (State.init cfg bootMs) (inputs ++ first)).nowMs + m.elapsed)) :
    isClosing (run step (State.init cfg bootMs)
        (inputs ++ first ++ (m, .keepaliveTick) :: second ++ [(m', .keepaliveTick)])) c = true ∨
      isDraining (run step (State.init cfg bootMs)
        (inputs ++ first ++ (m, .keepaliveTick) :: second ++ [(m', .keepaliveTick)])) c = true := by
  simp only [run_append, run_cons, run_nil] at late later ⊢
  generalize reached : run step (State.init cfg bootMs) inputs = s at *
  have past : Past s := reached ▸ past_run cfg bootMs inputs
  rw [guarded_append, guarded_append] at silent
  obtain ⟨⟨quietly, ⟨tickOpen, -⟩, patiently⟩, ⟨lastOpen, -⟩, -⟩ := silent
  simp only [run_append, run_cons] at lastOpen
  have start : QuietSince c s.nowMs s := ⟨seated, fun cs here => (past.2 c cs here).1⟩
  have quiet := silent_run (P := QuietSince c s.nowMs)
    (fun _ _ was nothing opened => quiet_step was nothing opened) start quietly tickOpen
  have pastThen : Past (run step s first) :=
    Machine.run_holds (P := Past) step (fun s timed past => past_step past timed) past
  have asked := quiet_tick pastThen quiet late tickOpen
  have overdue := silent_run (fun _ _ was nothing opened => overdue_step was nothing opened) asked patiently
    lastOpen
  exact overdue_tick overdue later lastOpen

/-! ## A node that falls silent -/

def fallsSilent : List (Moment × Event) :=
  signIn 0 "A" ++ [(after 16000, .keepaliveTick), (after 400, .floorTick)]

theorem closed_after_ping :
    Event.keepaliveTick = .keepaliveTick ∧ ∃ asked first tick since,
      Asked (State.init roster 0) fallsSilent 0 asked first tick since ∧
        kaliveMs (run step (State.init roster 0) fallsSilent) <
          (run step (State.init roster 0) fallsSilent).nowMs + (after 15000).elapsed - asked :=
  keepalive_closes_silent roster 0 fallsSilent (after 15000) .keepaliveTick 0 (by decide) (by decide)

theorem closed_after_two_turns :
    isClosing (run step (State.init roster 0)
        (signIn 0 "A" ++ [] ++ (after 16000, .keepaliveTick) :: [(after 400, .floorTick)] ++
          [(after 15000, .keepaliveTick)])) 0 = true ∨
      isDraining (run step (State.init roster 0)
        (signIn 0 "A" ++ [] ++ (after 16000, .keepaliveTick) :: [(after 400, .floorTick)] ++
          [(after 15000, .keepaliveTick)])) 0 = true :=
  silent_node_closes roster 0 (signIn 0 "A") [] [(after 400, .floorTick)] (after 16000) (after 15000) 0
    (by decide)
    ⟨⟨Option.isSome_iff_ne_none.mp (by decide), rfl⟩, ⟨Option.isSome_iff_ne_none.mp (by decide), rfl⟩,
      ⟨Option.isSome_iff_ne_none.mp (by decide), rfl⟩, trivial⟩
    (by decide) (by decide)

end Kerchunk.Reflectd
