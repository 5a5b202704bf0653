import Kerchunk.Lib.Machine
import Mathlib.Algebra.Ring.Int.Defs
import Mathlib.Logic.Function.Basic

set_option autoImplicit false

/-!
# Push to talk over WebSocket (`modules/mod_web.c`)

Everything here runs on the web thread, one event at a time.
-/

namespace Kerchunk.Web.PushToTalk

open Acceptor (accept accept_snoc accept_append)

/-! ## State -/

/-- `frame_samples` and `sample_rate` of the core. -/
structure Core where
  frameSamples : Nat
  sampleRate : Nat

structure PttConfig where
  enabled : Bool
  maxDurationS : Int
  priority : Int

/-- The fields of `kerchunk_user_t` that a login reads. -/
structure User where
  id : Nat
  username : String
  dtmfLogin : String
  access : Nat
  name : String

def accessBasic : Nat := 1

structure ConnState where
  authenticated : Bool
  admin : Bool
  userId : Nat
  userName : String
  pttHeld : Bool
  audioLen : Nat
  authFailures : Nat
  lastAuthFailure : Int

def ConnState.opened (admin : Bool) : ConnState where
  authenticated := admin
  admin := admin
  userId := 0
  userName := ""
  pttHeld := false
  audioLen := 0
  authFailures := 0
  lastAuthFailure := 0

/-- What leaves for the bus and the queue, with the connection that it comes of. `frame` has the bytes
of a buffer and the limit at its time, in samples. Of `lost`, a close in the middle of a hold, nothing
is fired. -/
inductive Out where
  | vcorAssert (c userId : Nat)
  | frame (c : Nat) (bytes : List Nat) (limit : Nat)
  | vcorDrop (c userId : Nat)
  | announcement (userName : String) (samples : Nat)
  | lost (c : Nat)
deriving DecidableEq

inductive Reply where
  | error (text : String)
  | authenticated (userName : String) (pttEnabled : Bool)
  | transmitting (maxDurationS : Int)
  | idle (samples : Nat)
deriving DecidableEq

/-- A connection may be open without a state, when there was no memory for one; `failed` counts those.
`tapped` is whether the audio taps are registered. -/
structure Server where
  cfg : PttConfig
  users : List User
  conns : Nat → Option (Option ConnState)
  pttHolder : Option Nat
  audioCount : Int
  tapped : Bool
  failed : Nat
  out : List Out
  replies : List (Nat × Reply)

def Server.init (cfg : PttConfig) (users : List User) : Server where
  cfg := cfg
  users := users
  conns := fun _ => none
  pttHolder := none
  audioCount := 0
  tapped := false
  failed := 0
  out := []
  replies := []

inductive Command where
  | auth (user pin : Option String)
  | pttOn
  | pttOff
  | unknown

/-- `text` has no command when its JSON names none. -/
inductive Event where
  | opened (c : Nat) (admin allocated : Bool)
  | text (c : Nat) (command : Option Command) (now : Int)
  | binary (c : Nat) (data : List Nat)
  | closed (c : Nat)
  | configure (cfg : PttConfig) (users : List User)

namespace Server

variable (core : Core) (w : Server)

def stateOf (c : Nat) : Option ConnState := (w.conns c).join

def setState (c : Nat) (st : ConnState) : Server :=
  { w with conns := Function.update w.conns c (some (some st)) }

def reply (c : Nat) (r : Reply) : Server :=
  { w with replies := w.replies ++ [(c, r)] }

def fire (out : List Out) : Server :=
  { w with out := w.out ++ out }

/-! ## Commands -/

def findUser (user pin : String) : Option User :=
  -- `strcasecmp` and `strcmp`.
  w.users.find? fun u =>
    u.username.toList.map Char.toLower == user.toList.map Char.toLower && u.dtmfLogin == pin

def wsHandleAuth (c : Nat) (st : ConnState) (user pin : Option String) (now : Int) : Server :=
  if 5 ≤ st.authFailures ∧ now - st.lastAuthFailure < 60 then
    w.reply c (.error "too many failures, wait 60s")
  else
    let st := if 5 ≤ st.authFailures then { st with authFailures := 0 } else st
    let w := w.setState c st
    match user, pin with
    | some user, some pin =>
        match w.findUser user pin with
        | none =>
            (w.setState c
              { st with authFailures := st.authFailures + 1, lastAuthFailure := now }).reply c
                (.error "invalid credentials")
        | some found =>
            if found.access < accessBasic then w.reply c (.error "insufficient access")
            else
              (w.setState c
                { st with
                  authenticated := true
                  userId := found.id
                  userName := String.ofList (found.name.toList.take 31) }).reply c
                (.authenticated (String.ofList (found.name.toList.take 31)) w.cfg.enabled)
    | _, _ => w.reply c (.error "missing user or pin")

def wsHandlePttOn (c : Nat) (st : ConnState) : Server :=
  if !w.cfg.enabled then w.reply c (.error "PTT disabled")
  else if !st.authenticated then w.reply c (.error "not authenticated")
  else if st.pttHeld then w.reply c (.error "PTT already held")
  else if w.pttHolder.any fun holder => holder != c then w.reply c (.error "channel busy")
  else
    let taken := { w with pttHolder := some c }.setState c { st with pttHeld := true, audioLen := 0 }
    (taken.fire [.vcorAssert c st.userId]).reply c (.transmitting w.cfg.maxDurationS)

def wsHandlePttOff (c : Nat) (st : ConnState) : Server :=
  if !st.pttHeld then w.reply c (.error "PTT not held")
  else
    let freed := { w with pttHolder := if w.pttHolder = some c then none else w.pttHolder }
    let announced :=
      if 0 < st.audioLen then [Out.announcement st.userName st.audioLen] else []
    ((freed.setState c { st with pttHeld := false, audioLen := 0 }).fire
      (.vcorDrop c st.userId :: announced)).reply c (.idle st.audioLen)

def maxSamples : Nat :=
  -- The product of two `size_t`.
  ((w.cfg.maxDurationS * core.sampleRate) % 2 ^ 64).toNat

def wsHandleAudioFrame (c : Nat) (st : ConnState) (data : List Nat) : Server :=
  if !st.pttHeld then w
  else if data.length ≠ 1 + core.frameSamples * 2 ∨ data.head? ≠ some 2 then w
  else if w.maxSamples core ≤ st.audioLen then w
  else
    (w.fire [.frame c (data.drop 1) (w.maxSamples core)]).setState c
      { st with audioLen := st.audioLen + core.frameSamples }

/-! ## Events -/

def wsOpen (c : Nat) (admin allocated : Bool) : Server :=
  match w.conns c with
  | some _ => w
  | none =>
      { w with
        conns := Function.update w.conns c (some (if allocated then some (.opened admin) else none))
        failed := if allocated then w.failed else w.failed + 1
        audioCount := w.audioCount + 1
        tapped := w.tapped || w.audioCount == 0 }

def wsText (c : Nat) (command : Option Command) (now : Int) : Server :=
  match w.stateOf c with
  | none => w
  | some st =>
      if !st.admin then w.reply c (.error "listen only")
      else
        match command with
        | none => w
        | some (.auth user pin) => w.wsHandleAuth c st user pin now
        | some .pttOn => w.wsHandlePttOn c st
        | some .pttOff => w.wsHandlePttOff c st
        | some .unknown => w.reply c (.error "unknown cmd")

def wsBinary (c : Nat) (data : List Nat) : Server :=
  match w.stateOf c with
  | none => w
  | some st => if !st.admin then w else w.wsHandleAudioFrame core c st data

def wsClose (c : Nat) : Server :=
  let gone := { w with conns := Function.update w.conns c none }
  match w.stateOf c with
  | none => gone
  | some st =>
      let freed :=
        if st.pttHeld then
          { gone with pttHolder := if w.pttHolder = some c then none else w.pttHolder }.fire [.lost c]
        else gone
      { freed with
        audioCount := w.audioCount - 1
        tapped := w.tapped && w.audioCount != 1 }

def step : Event → Server
  | .opened c admin allocated => w.wsOpen c admin allocated
  | .text c command now => w.wsText c command now
  | .binary c data => w.wsBinary core c data
  | .closed c => w.wsClose c
  | .configure cfg users => { w with cfg := cfg, users := users }

end Server

/-! ## Sessions on the bus -/

/-- The channel as the bus sees it: free, held with so much audio queued, or given back with its
announcement to come. -/
inductive Channel where
  | free
  | held (c samples : Nat)
  | ended (samples : Nat)
deriving DecidableEq

/-- What may come next. A hold has one holder, audio of whole frames while it is under its limit, and
one end. -/
def next (core : Core) : Channel → Out → Option Channel
  | .free, .vcorAssert c _ => some (.held c 0)
  | .held c n, .frame d bytes limit =>
      if d = c ∧ n < limit ∧ bytes.length = 2 * core.frameSamples then
        some (.held c (n + core.frameSamples))
      else none
  | .held c n, .vcorDrop d _ =>
      if d = c then some (if n = 0 then .free else .ended n) else none
  | .held c _, .lost d => if d = c then some .free else none
  | .ended n, .announcement _ samples => if samples = n then some .free else none
  | _, _ => none

namespace Server

def channel (w : Server) : Channel :=
  match w.pttHolder with
  | none => .free
  | some c => .held c ((w.stateOf c).elim 0 ConnState.audioLen)

structure Sessions (core : Core) (w : Server) : Prop where
  holder : ∀ c, w.pttHolder = some c ↔ ∃ st, w.stateOf c = some st ∧ st.pttHeld = true
  admin : ∀ c st, w.stateOf c = some st → st.pttHeld = true → st.admin = true
  log : accept (next core) .free w.out = some w.channel

variable {core : Core} {w : Server}

@[simp] theorem stateOf_setState (w : Server) (c : Nat) (st : ConnState) (d : Nat) :
    (w.setState c st).stateOf d = if d = c then some st else w.stateOf d := by
  by_cases at_ : d = c <;> simp [stateOf, setState, at_]

@[simp] theorem stateOf_fire (w : Server) (out : List Out) (d : Nat) :
    (w.fire out).stateOf d = w.stateOf d := rfl

@[simp] theorem pttHolder_setState (w : Server) (c : Nat) (st : ConnState) :
    (w.setState c st).pttHolder = w.pttHolder := rfl

@[simp] theorem pttHolder_fire (w : Server) (out : List Out) :
    (w.fire out).pttHolder = w.pttHolder := rfl

theorem sessions_reply (sessions : Sessions core w) (c : Nat) (r : Reply) :
    Sessions core (w.reply c r) :=
  ⟨sessions.holder, sessions.admin, sessions.log⟩

/-- A change of a connection's state that leaves its hold alone. -/
theorem sessions_setState (sessions : Sessions core w) {c : Nat} {st st' : ConnState}
    (here : w.stateOf c = some st) (held : st'.pttHeld = st.pttHeld) (admin : st'.admin = st.admin)
    (audio : st'.audioLen = st.audioLen) : Sessions core (w.setState c st') where
  holder := by
    intro d
    rw [stateOf_setState]
    by_cases at_ : d = c
    next =>
      subst at_
      refine (sessions.holder d).trans ?_
      simp [here, held]
    next => simpa [at_] using sessions.holder d
  admin := by
    intro d st'' there holds
    rw [stateOf_setState] at there
    split at there
    next =>
      cases there
      rw [admin]
      exact sessions.admin c st here (held ▸ holds)
    next => exact sessions.admin d st'' there holds
  log := by
    have same : (w.setState c st').channel = w.channel := by
      unfold channel
      simp only [stateOf_setState]
      simp only [setState]
      cases w.pttHolder with
      | none => rfl
      | some d =>
        by_cases at_ : d = c
        next => simp [at_, here, audio]
        next => simp [at_]
    rw [same]
    exact sessions.log

theorem channel_held (sessions : Sessions core w) {c : Nat} {st : ConnState}
    (here : w.stateOf c = some st) (held : st.pttHeld = true) :
    w.pttHolder = some c ∧ w.channel = .held c st.audioLen := by
  have holder := (sessions.holder c).mpr ⟨st, here, held⟩
  exact ⟨holder, by simp [channel, holder, here]⟩

theorem sessions_pttOn (sessions : Sessions core w) {c : Nat} {st : ConnState}
    (here : w.stateOf c = some st) (admin : st.admin = true) :
    Sessions core (w.wsHandlePttOn c st) := by
  unfold wsHandlePttOn
  split
  next => exact sessions_reply sessions c _
  split
  next => exact sessions_reply sessions c _
  split
  next => exact sessions_reply sessions c _
  next silent =>
    split
    next => exact sessions_reply sessions c _
    next free =>
      have idle : st.pttHeld = false := by simpa using silent
      have nobody : w.pttHolder = none := by
        cases holder : w.pttHolder with
        | none => rfl
        | some d =>
          have at_ : d = c := by simpa [holder] using free
          subst at_
          obtain ⟨st', there, held⟩ := (sessions.holder d).mp holder
          obtain rfl : st = st' := Option.some.inj (here.symm.trans there)
          simp [idle] at held
      refine sessions_reply ⟨fun d => ?_, fun d st' there held => ?_, ?_⟩ c _
      next =>
        rw [stateOf_fire, stateOf_setState]
        by_cases at_ : d = c
        next => simp [at_, fire, setState]
        next =>
          have other : ¬ ∃ st, w.stateOf d = some st ∧ st.pttHeld = true := by
            rw [← sessions.holder d, nobody]
            simp
          simp only [at_, if_false]
          refine iff_of_false ?_ other
          simp [fire, setState, Ne.symm at_]
      next =>
        rw [stateOf_fire, stateOf_setState] at there
        split at there
        next =>
          cases there
          exact admin
        next => exact sessions.admin d st' there held
      next =>
        have was : accept (next core) .free w.out = some .free := by
          rw [sessions.log, channel, nobody]
        have now : channel ((setState { w with pttHolder := some c } c
            { st with pttHeld := true, audioLen := 0 }).fire [.vcorAssert c st.userId]) = .held c 0 := by
          simp [channel, fire, setState, stateOf]
        rw [now]
        exact accept_snoc (next core) was _

theorem sessions_release (sessions : Sessions core w) {w' : Server} {c : Nat} {st : ConnState}
    (here : w.stateOf c = some st) (held : st.pttHeld = true)
    (freed : w'.pttHolder = if w.pttHolder = some c then none else w.pttHolder)
    (others : ∀ d, d ≠ c → w'.stateOf d = w.stateOf d)
    (silent : ∀ st', w'.stateOf c = some st' → st'.pttHeld = false)
    (log : accept (next core) (.held c st.audioLen) (w'.out.drop w.out.length) = some .free)
    (more : w.out <+: w'.out) : Sessions core w' := by
  obtain ⟨holder, channel_⟩ := channel_held sessions here held
  have free : w'.pttHolder = none := by rw [freed, if_pos holder]
  have idle (d : Nat) (st' : ConnState) (there : w'.stateOf d = some st') : st'.pttHeld = false := by
    by_cases at_ : d = c
    next =>
      subst at_
      exact silent st' there
    next =>
      by_contra holds
      rw [others d at_] at there
      have also := (sessions.holder d).mpr ⟨st', there, by simpa using holds⟩
      rw [holder] at also
      exact at_ (Option.some.inj also).symm
  refine ⟨fun d => ?_, fun d st' there holds => ?_, ?_⟩
  next =>
    rw [free]
    refine iff_of_false nofun ?_
    rintro ⟨st', there, holds⟩
    simp [idle d st' there] at holds
  next => simp [idle d st' there] at holds
  next =>
    obtain ⟨rest, split⟩ := more
    rw [← split, List.drop_left] at log
    rw [← split, accept_append, sessions.log, channel_, Option.bind_some, log, channel, free]

theorem sessions_pttOff (sessions : Sessions core w) {c : Nat} {st : ConnState}
    (here : w.stateOf c = some st) : Sessions core (w.wsHandlePttOff c st) := by
  unfold wsHandlePttOff
  split
  next => exact sessions_reply sessions c _
  next keyed =>
    have held : st.pttHeld = true := by simpa using keyed
    refine sessions_reply (sessions_release sessions here held rfl (fun d other => ?_)
      (fun st' there => ?_) ?_ (List.prefix_append _ _)) c _
    next => simp [fire, setState, stateOf, other]
    next =>
      obtain rfl : { st with pttHeld := false, audioLen := 0 } = st' := by
        simpa [fire, setState, stateOf] using there
      rfl
    next =>
      simp only [fire, setState, List.drop_left]
      by_cases spoke : 0 < st.audioLen
      next =>
        have some_ : st.audioLen ≠ 0 := by omega
        simp [spoke, Acceptor.accept_cons, next, some_]
      next =>
        have none_ : st.audioLen = 0 := by omega
        simp [Acceptor.accept_cons, next, none_]

theorem sessions_frame (sessions : Sessions core w) {c : Nat} {st : ConnState}
    (here : w.stateOf c = some st) (data : List Nat) :
    Sessions core (w.wsHandleAudioFrame core c st data) := by
  unfold wsHandleAudioFrame
  split
  next => exact sessions
  split
  next => exact sessions
  split
  next => exact sessions
  next keyed whole under =>
    have held : st.pttHeld = true := by simpa using keyed
    obtain ⟨holder, channel_⟩ := channel_held sessions here held
    have length : (data.drop 1).length = 2 * core.frameSamples := by
      have exactly : data.length = 1 + core.frameSamples * 2 := by
        by_contra other
        exact whole (Or.inl other)
      rw [List.length_drop]
      omega
    refine ⟨fun d => ?_, fun d st' there holds => ?_, ?_⟩
    next =>
      rw [stateOf_setState]
      by_cases at_ : d = c
      next =>
        subst at_
        simp [held, holder]
      next => simpa [at_] using sessions.holder d
    next =>
      rw [stateOf_setState] at there
      split at there
      next =>
        cases there
        exact sessions.admin c st here held
      next => exact sessions.admin d st' there holds
    next =>
      have was : accept (next core) .free w.out = some (.held c st.audioLen) := by
        rw [sessions.log, channel_]
      have now : channel ((w.fire [.frame c (data.drop 1) (w.maxSamples core)]).setState c
          { st with audioLen := st.audioLen + core.frameSamples }) =
            .held c (st.audioLen + core.frameSamples) := by
        simp [channel, setState, fire, holder, stateOf]
      rw [now]
      refine (accept_snoc (next core) was _).trans ?_
      rw [next, if_pos ⟨rfl, by omega, length⟩]

theorem sessions_auth (sessions : Sessions core w) {c : Nat} {st : ConnState}
    (here : w.stateOf c = some st) (user pin : Option String) (now : Int) :
    Sessions core (w.wsHandleAuth c st user pin now) := by
  unfold wsHandleAuth
  split
  next => exact sessions_reply sessions c _
  next =>
    simp only
    generalize cooled : (if 5 ≤ st.authFailures then { st with authFailures := 0 } else st) = st'
    have same : st'.pttHeld = st.pttHeld ∧ st'.admin = st.admin ∧ st'.audioLen = st.audioLen := by
      rw [← cooled]
      split <;> exact ⟨rfl, rfl, rfl⟩
    obtain ⟨held, admin, audio⟩ := same
    have cool := sessions_setState sessions here held admin audio
    have there : (w.setState c st').stateOf c = some st' := by simp
    cases user with
    | none => exact sessions_reply cool c _
    | some user =>
      cases pin with
      | none => exact sessions_reply cool c _
      | some pin =>
        simp only
        split
        next => refine sessions_reply (sessions_setState cool there ?_ ?_ ?_) c _ <;> rfl
        next =>
          split
          next => exact sessions_reply cool c _
          next => refine sessions_reply (sessions_setState cool there ?_ ?_ ?_) c _ <;> rfl

/-- A connection without the channel comes, goes or changes, and stays without it. -/
theorem sessions_aside (sessions : Sessions core w) {w' : Server} {c : Nat}
    (apart : ∀ st, w.stateOf c = some st → st.pttHeld = false)
    (silent : ∀ st, w'.stateOf c = some st → st.pttHeld = false)
    (others : ∀ d, d ≠ c → w'.stateOf d = w.stateOf d)
    (holder : w'.pttHolder = w.pttHolder) (out : w'.out = w.out) : Sessions core w' := by
  have idle : w.pttHolder ≠ some c := by
    intro holds
    obtain ⟨st, there, held⟩ := (sessions.holder c).mp holds
    simp [apart st there] at held
  refine ⟨fun d => ?_, fun d st there holds => ?_, ?_⟩
  next =>
    rw [holder]
    by_cases at_ : d = c
    next =>
      subst at_
      refine iff_of_false idle ?_
      rintro ⟨st, there, held⟩
      simp [silent st there] at held
    next => rw [others d at_, sessions.holder d]
  next =>
    by_cases at_ : d = c
    next =>
      subst at_
      simp [silent st there] at holds
    next => exact sessions.admin d st (others d at_ ▸ there) holds
  next =>
    rw [out, sessions.log, channel, channel, holder]
    cases holds : w.pttHolder with
    | none => rfl
    | some d =>
      have other : d ≠ c := by
        rintro rfl
        exact idle holds
      simp only [others d other]

theorem sessions_open (sessions : Sessions core w) (c : Nat) (admin allocated : Bool) :
    Sessions core (w.wsOpen c admin allocated) := by
  unfold wsOpen
  cases here : w.conns c with
  | some _ => exact sessions
  | none =>
    refine sessions_aside sessions (c := c) ?_ ?_ (fun d other => by simp [stateOf, other]) rfl rfl
    next => simp [stateOf, here]
    next => cases allocated <;> simp [stateOf, ConnState.opened]

theorem sessions_close (sessions : Sessions core w) (c : Nat) : Sessions core (w.wsClose c) := by
  unfold wsClose
  cases here : w.stateOf c with
  | none =>
    refine sessions_aside sessions (c := c) ?_ ?_ (fun d other => by simp [stateOf, other]) rfl rfl
    next => simp [here]
    next => simp [stateOf]
  | some st =>
    by_cases held : st.pttHeld = true
    next =>
      simp only [held, if_true]
      refine sessions_release sessions here held rfl (fun d other => ?_) (fun st' there => ?_) ?_
        (List.prefix_append _ _)
      next => simp [stateOf, fire, other]
      next => simp [stateOf, fire] at there
      next => simp [fire, Acceptor.accept_cons, next]
    next =>
      have idle : st.pttHeld = false := by simpa using held
      simp only [idle, Bool.false_eq_true, if_false]
      refine sessions_aside sessions (c := c) ?_ ?_ (fun d other => by simp [stateOf, other]) rfl rfl
      next => simp [here, idle]
      next => simp [stateOf]

theorem sessions_step (sessions : Sessions core w) (e : Event) : Sessions core (w.step core e) := by
  cases e with
  | opened c admin allocated => exact sessions_open sessions c admin allocated
  | closed c => exact sessions_close sessions c
  | configure cfg users => exact ⟨sessions.holder, sessions.admin, sessions.log⟩
  | binary c data =>
    simp only [step, wsBinary]
    split
    next => exact sessions
    next st here =>
      split
      next => exact sessions
      next => exact sessions_frame sessions here data
  | text c command now =>
    simp only [step, wsText]
    split
    next => exact sessions
    next st here =>
      split
      next => exact sessions_reply sessions c _
      next public_ =>
        have admin : st.admin = true := by simpa using public_
        split
        next => exact sessions
        next user pin => exact sessions_auth sessions here user pin now
        next => exact sessions_pttOn sessions here admin
        next => exact sessions_pttOff sessions here
        next => exact sessions_reply sessions c _

end Server

open Server

end Kerchunk.Web.PushToTalk
