import Kerchunk.Link.Quality
import Kerchunk.Reflectd.Isolation

set_option autoImplicit false

/-!
# The sequence numbers of one listener

The daemon's packets to node `l` and the starts of its sessions, in order, are what its client
(`modules/mod_link.c`) works through at its own pace.
-/

namespace Kerchunk.Reflectd

open Link (Quality)
open Machine (Guarded run trace)
open Serial (Seq ahead wire)

/-! ## What is sent -/

/-- The fields that `audio_node_send_to` writes, on a packet of `len` bytes. -/
structure Outgoing where
  seq : Seq
  ts : Nat
  ssrc : Nat
  len : Nat
deriving DecidableEq

inductive Item where
  | session
  | packet (o : Outgoing)
deriving DecidableEq

def AudioNode.outgoing (an : AudioNode) (len : Nat) : Outgoing where
  seq := wire an.outSeq
  ts := an.outTs
  ssrc := an.reflectorSsrc
  len := len

def relay (tgIdx sender : Nat) (p : RtpPacket) (delivers : Nat → Bool) (s : State) (peer : Nat) :
    State :=
  -- One turn of the fan-out.
  if peer = sender ∨ (s.nodeRt peer).rtpAddr = none then s
  else forward s tgIdx sender peer p (delivers peer)

def relayed (l sender : Nat) (p : RtpPacket) (delivers : Nat → Bool) (s : State) (peer : Nat) :
    List Item :=
  if peer = sender ∨ (s.nodeRt peer).rtpAddr = none ∨ peer ≠ l ∨ delivers peer = false then []
  else (s.nodeRt peer).session.toList.map fun session => .packet (session.audio.outgoing p.len)

def acceptedItems (l : Nat) (s : State) (sender : Nat) (p : RtpPacket) (d : Datagram) : List Item :=
  if p.payloadType = Link.rtpBootstrapPt then []
  else
    match rcfgTgIdx s.cfg (s.nodeRt sender).curTg with
    | none => []
    | some tgIdx =>
        match floorTryGrant s tgIdx sender with
        | none => []
        | some granted =>
            let counted := granted.setNode sender fun n => n.received s.nowMs d.len
            trace (relay tgIdx sender p d.delivers) (relayed l sender p d.delivers) counted
              (counted.cfg.members tgIdx)

def audioItems (l : Nat) (s : State) (d : Datagram) : List Item :=
  if rtpOk d then
    match findSender s d with
    | none => []
    | some (sender, p) =>
        let learned := s.setNode sender fun n => n.setAudio fun an => { an with rtpAddr := some d.src }
        if (s.nodeRt sender).muted then [] else acceptedItems l learned sender p d
  else []

def items (l : Nat) (s : State) (timed : Moment × Event) : List Item :=
  -- What one step sends to node `l`.
  match timed.2 with
  | .datagram d => audioItems l (s.at timed.1) d
  | _ =>
      if !(s.nodeRt l).connected && ((step s timed).nodeRt l).connected then [.session] else []

/-! ## The numbering -/

def NodeRt.nextSeq (n : NodeRt) : Option Seq :=
  n.session.map fun session => wire session.audio.outSeq

def SameSeqs (s t : State) : Prop :=
  -- Every node's next number is the same as before.
  ∀ l, (t.nodeRt l).nextSeq = (s.nodeRt l).nextSeq

namespace SameSeqs

variable {r s t : State}

theorem refl (s : State) : SameSeqs s s := fun _ => rfl

theorem trans (first : SameSeqs r s) (second : SameSeqs s t) : SameSeqs r t :=
  fun l => (second l).trans (first l)

theorem of_eq (same : t.nodeRt = s.nodeRt) : SameSeqs s t := fun l => by rw [same]

theorem foldl {α : Type} {body : State → α → State} (each : ∀ s a, SameSeqs s (body s a))
    (s : State) (as : List α) : SameSeqs s (as.foldl body s) := by
  induction as generalizing s with
  | nil => exact refl s
  | cons a rest ih => exact (each s a).trans (ih (body s a))

end SameSeqs

section

variable (s : State)

theorem sameSeqs_setNode (k : Nat) (change : NodeRt → NodeRt)
    (same : (change (s.nodeRt k)).nextSeq = (s.nodeRt k).nextSeq) :
    SameSeqs s (s.setNode k change) := by
  intro l
  by_cases here : l = k
  next =>
    subst here
    simpa [State.setNode] using same
  next => simp [State.setNode, here]

theorem sameSeqs_note (n : Note) : SameSeqs s (s.note n) :=
  SameSeqs.refl s

theorem sameSeqs_send (c : Nat) (m : Link.Msg) : SameSeqs s (s.send c m) :=
  SameSeqs.refl s

theorem sameSeqs_sendNode (k : Nat) (m : Link.Msg) : SameSeqs s (s.sendNode k m) := by
  obtain ⟨sent, told⟩ := sendNode_sent s k m
  exact SameSeqs.of_eq (by rw [told])

theorem sameSeqs_sendNodes (ks : List Nat) (m : Link.Msg) : SameSeqs s (s.sendNodes ks m) :=
  SameSeqs.foldl (fun s k => sameSeqs_sendNode s k m) s ks

theorem sameSeqs_broadcastTalker (j : Nat) (talker except : Option Nat) :
    SameSeqs s (broadcastTalker s j talker except) :=
  sameSeqs_sendNodes s _ _

theorem sameSeqs_broadcastRosterOf (tg : Nat) : SameSeqs s (broadcastRosterOf s tg) := by
  unfold broadcastRosterOf
  cases rcfgTgIdx s.cfg tg with
  | none => exact SameSeqs.refl s
  | some j => exact sameSeqs_sendNodes s _ _

theorem sameSeqs_tally (j k : Nat) : SameSeqs s (tally s j k) := by
  unfold tally
  simp only
  split
  next =>
    refine SameSeqs.trans ?_ (sameSeqs_note _ _)
    exact sameSeqs_setNode s k _ rfl
  next => exact SameSeqs.refl s

theorem sameSeqs_floorRelease (j : Nat) (reason : Option Link.ErrCode) :
    SameSeqs s (floorRelease s j reason) := by
  unfold floorRelease
  cases (s.tgRt j).talkerNodeIdx with
  | none => exact SameSeqs.refl s
  | some k =>
    have idle : SameSeqs s ((tally s j k).setTg j { talkerNodeIdx := none, leaseExpiresMs := 0 }) :=
      sameSeqs_tally s j k
    have told := idle.trans (sameSeqs_broadcastTalker _ j none none)
    cases reason with
    | none => exact told
    | some code => exact told.trans (sameSeqs_sendNode _ _ _)

theorem sameSeqs_releaseHeld (k j : Nat) :
    SameSeqs s (if holds s k j then floorRelease s j none else s) := by
  split
  next => exact sameSeqs_floorRelease s j none
  next => exact SameSeqs.refl s

theorem sameSeqs_floorTryGrant {s granted : State} {j k : Nat}
    (success : floorTryGrant s j k = some granted) : SameSeqs s granted := by
  unfold floorTryGrant at success
  simp only at success
  split at success
  next => cases success
  next =>
    split at success
    next =>
      cases success
      have told := sameSeqs_broadcastTalker (s.setTg j
        { talkerNodeIdx := some k, leaseExpiresMs := s.nowMs + s.cfg.hangtimeMs }) j (some k) none
      exact SameSeqs.trans told (sameSeqs_setNode _ k _ rfl)
    next =>
      cases success
      exact SameSeqs.refl s

theorem sameSeqs_floorTick : SameSeqs s (floorTick s) := by
  refine SameSeqs.foldl (fun s j => ?_) s _
  split
  next => exact sameSeqs_floorRelease s j _
  next => exact SameSeqs.refl s

theorem sameSeqs_releaseOldTg (k tg : Nat) : SameSeqs s (releaseOldTg s k tg) := by
  unfold releaseOldTg
  simp only
  split
  next =>
    split
    next => exact sameSeqs_releaseHeld s k _
    next => exact SameSeqs.refl s
  next => exact SameSeqs.refl s

theorem sameSeqs_switchTg (c k tg j : Nat) : SameSeqs s (switchTg s c k tg j) := by
  let moved := (releaseOldTg s k tg).setNode k fun n => { n with curTg := tg }
  let told := moved.send c (.tgOk tg (s.cfg.tgName j))
  have arrived : SameSeqs s moved :=
    (sameSeqs_releaseOldTg s k tg).trans (sameSeqs_setNode _ k _ rfl)
  have announced : SameSeqs s told := arrived.trans (sameSeqs_send moved c _)
  unfold switchTg
  simp only
  split
  next => exact (announced.trans (sameSeqs_broadcastRosterOf told _)).trans (sameSeqs_sendNodes _ _ _)
  next => exact announced.trans (sameSeqs_sendNodes told _ _)

theorem sameSeqs_suggestBitrate (k : Nat) (lossPct : Rat) :
    SameSeqs s (suggestBitrate s k lossPct) := by
  unfold suggestBitrate
  split
  next => exact SameSeqs.refl s
  next => exact sameSeqs_sendNodes s _ _

theorem sameSeqs_handleQuality (c k : Nat) (lossPct : Rat) :
    SameSeqs s (handleQuality s c k lossPct) := by
  have reported : SameSeqs s (s.setNode k fun n => n.reportLoss s.time lossPct) :=
    sameSeqs_setNode s k _ rfl
  refine SameSeqs.trans ?_ (sameSeqs_suggestBitrate _ k lossPct)
  split
  next =>
    refine SameSeqs.trans ?_ (sameSeqs_send _ c _)
    exact reported.trans (sameSeqs_setNode _ k _ rfl)
  next => exact reported

theorem sameSeqs_handleAuthenticated (c k : Nat) (request : Link.Request) :
    SameSeqs s (handleAuthenticated s c k request) := by
  cases request with
  | untyped | login | pong | unhandled | ping => exact SameSeqs.refl s
  | setTg tg =>
    simp only [handleAuthenticated, handleSetTg]
    split
    next => exact SameSeqs.refl s
    next => exact sameSeqs_switchTg s c k _ _
  | quality lossPct => exact sameSeqs_handleQuality s c k lossPct
  | simulateTalkStart =>
    simp only [handleAuthenticated, handleSimulateTalkStart]
    split
    next => exact SameSeqs.refl s
    next =>
      split
      next granted => exact sameSeqs_floorTryGrant granted
      next => exact SameSeqs.refl s
  | simulateTalkEnd =>
    simp only [handleAuthenticated, handleSimulateTalkEnd]
    split
    next => exact SameSeqs.refl s
    next => exact sameSeqs_releaseHeld s k _

theorem sameSeqs_authFailure (src : Nat) : SameSeqs s (authFailure s src) := by
  unfold authFailure
  split
  next => exact SameSeqs.refl s
  next i _ =>
    have counted : SameSeqs s (s.setNode i fun n => countAuthFail n s.nowMs) := by
      refine sameSeqs_setNode s i _ ?_
      unfold countAuthFail
      split <;> rfl
    simp only
    split
    next =>
      split <;> exact counted
    next => exact counted

theorem sameSeqs_denyFloor (j k : Nat) : SameSeqs s (denyFloor s j k) := by
  unfold denyFloor
  split
  next =>
    split
    next => exact sameSeqs_setNode (s.send _ _) k _ rfl
    next => exact SameSeqs.refl s
  next => exact SameSeqs.refl s

theorem sameSeqs_adminNodeAction (nodeId : Option String) (action : NodeAction) :
    SameSeqs s (adminNodeAction s nodeId action).1 := by
  unfold adminNodeAction
  split
  next => exact SameSeqs.refl s
  next =>
    split
    next => exact SameSeqs.refl s
    next idx _ =>
      cases action with
      | kick =>
        simp only [actOnNode]
        split <;> exact SameSeqs.refl s
      | mute => exact (sameSeqs_setNode s idx _ rfl).trans (sameSeqs_sendNode _ _ _)
      | unmute => exact (sameSeqs_setNode s idx _ rfl).trans (sameSeqs_sendNode _ _ _)

theorem sameSeqs_doReload (loaded : Option Rcfg) : SameSeqs s (doReload s loaded) := by
  cases loaded with
  | none => exact SameSeqs.refl s
  | some newcfg =>
    refine SameSeqs.foldl (fun s i => ?_) s (List.range s.cfg.nodes.length)
    unfold reloadNode
    simp only
    split
    next => exact SameSeqs.refl s
    next => exact SameSeqs.refl s
    next =>
      split
      next => exact SameSeqs.refl s
      next => exact sameSeqs_setNode (s.send _ _) i _ rfl

theorem sameSeqs_leaveNode {k l : Nat} (other : l ≠ k) :
    ((leaveNode s k).nodeRt l).nextSeq = (s.nodeRt l).nextSeq := by
  have released : SameSeqs s (releaseAllOf s k) :=
    SameSeqs.foldl (fun s j => sameSeqs_releaseHeld s k j) s _
  unfold leaveNode
  simp only
  rw [sameSeqs_broadcastRosterOf _ _ l]
  simpa [State.setNode, other] using released l

theorem gone_leaveNode (k : Nat) : ((leaveNode s k).nodeRt k).nextSeq = none := by
  unfold leaveNode
  simp only
  rw [sameSeqs_broadcastRosterOf _ _ k]
  simp [State.setNode, NodeRt.nextSeq]

end

/-! ## The order of what is sent -/

/-- From the number due next, if any, to the one due after the items. A session may start at any
number, and one that has ended sends nothing. -/
def Numbered : Option Seq → List Item → Option Seq → Prop
  | due, [], due' => due' = due ∨ due' = none
  | _, .session :: rest, due' => ∃ first, Numbered (some first) rest due'
  | due, .packet o :: rest, due' => due = some o.seq ∧ Numbered (some (o.seq + 1)) rest due'

theorem numbered_append {due due' due'' : Option Seq} {sent more : List Item}
    (first : Numbered due sent due') (second : Numbered due' more due'') :
    Numbered due (sent ++ more) due'' := by
  induction sent generalizing due with
  | nil =>
    rcases first with rfl | rfl
    next => exact second
    next =>
      cases more with
      | nil =>
        rcases second with rfl | rfl
        next => exact Or.inr rfl
        next => exact Or.inr rfl
      | cons item rest =>
        cases item with
        | session => exact second
        | packet o => cases second.1
  | cons item rest ih =>
    cases item with
    | session =>
      obtain ⟨start, later⟩ := first
      exact ⟨start, ih later⟩
    | packet o => exact ⟨first.1, ih first.2⟩

theorem numbered_same {due due' : Option Seq} (same : due' = due) : Numbered due [] due' :=
  Or.inl same

section

variable {l : Nat}

theorem nextSeq_forward (s : State) (j sender peer : Nat) (p : RtpPacket) (delivered : Bool) :
    ((forward s j sender peer p delivered).nodeRt peer).nextSeq =
      (s.nodeRt peer).nextSeq.map (· + 1) := by
  have bumped : ∀ n : NodeRt, (n.setAudio AudioNode.advance).nextSeq = n.nextSeq.map (· + 1) := by
    intro n
    unfold NodeRt.setAudio NodeRt.nextSeq
    cases n.session with
    | none => rfl
    | some session =>
      have wraps : wire ((session.audio.outSeq + 1) % 65536) = wire (session.audio.outSeq + 1) :=
        BitVec.eq_of_toNat_eq (by simp [wire])
      simp only [AudioNode.advance, Option.map_some, wraps, Option.some.injEq]
      exact (Serial.wire_succ _).symm
  simp only [forward, State.note, State.setNode, Function.update_self]
  cases delivered <;> exact bumped _

theorem numbered_relay {s : State} (j sender : Nat) (p : RtpPacket) {delivers : Nat → Bool}
    (delivered : delivers l = true) (peer : Nat) :
    Numbered (s.nodeRt l).nextSeq (relayed l sender p delivers s peer)
      ((relay j sender p delivers s peer).nodeRt l).nextSeq := by
  unfold relay relayed
  by_cases skipped : peer = sender ∨ (s.nodeRt peer).rtpAddr = none
  next =>
    rw [if_pos skipped, if_pos (by tauto)]
    exact numbered_same rfl
  rw [if_neg skipped]
  by_cases here : peer = l
  next =>
    subst here
    obtain ⟨session, online⟩ : ∃ session, (s.nodeRt peer).session = some session :=
      Option.isSome_iff_exists.mp (rtpAddr_connected fun unknown => skipped (Or.inr unknown))
    rw [if_neg (by simp_all), nextSeq_forward]
    simp [NodeRt.nextSeq, online, Numbered, AudioNode.outgoing]
  next =>
    rw [if_pos (by tauto)]
    refine numbered_same ?_
    simp [forward, State.note, State.setNode, Ne.symm here]

theorem numbered_fanOut (s : State) (j sender : Nat) (p : RtpPacket) {delivers : Nat → Bool}
    (delivered : delivers l = true) (peers : List Nat) :
    Numbered (s.nodeRt l).nextSeq
      (trace (relay j sender p delivers) (relayed l sender p delivers) s peers)
      ((run (relay j sender p delivers) s peers).nodeRt l).nextSeq := by
  induction peers generalizing s with
  | nil => exact numbered_same rfl
  | cons peer rest ih => exact numbered_append (numbered_relay j sender p delivered peer) (ih _)

theorem numbered_accepted (s : State) (sender : Nat) (p : RtpPacket) {d : Datagram}
    (delivered : d.delivers l = true) :
    Numbered (s.nodeRt l).nextSeq (acceptedItems l s sender p d)
      ((acceptAudio s sender p d).nodeRt l).nextSeq := by
  unfold acceptedItems acceptAudio
  split
  next => exact numbered_same rfl
  next =>
    cases rcfgTgIdx s.cfg (s.nodeRt sender).curTg with
    | none => exact numbered_same rfl
    | some j =>
      cases success : floorTryGrant s j sender with
      | none =>
        simp only [success]
        exact numbered_same (sameSeqs_denyFloor s j sender l)
      | some granted =>
        simp only [success]
        have counted : SameSeqs s (granted.setNode sender fun n => n.received s.nowMs d.len) :=
          (sameSeqs_floorTryGrant success).trans (sameSeqs_setNode granted sender _ rfl)
        rw [← counted l]
        exact numbered_fanOut _ j sender p delivered _

theorem numbered_audio (s : State) {d : Datagram} (delivered : d.delivers l = true) :
    Numbered (s.nodeRt l).nextSeq (audioItems l s d) ((audioPacket s d).nodeRt l).nextSeq := by
  unfold audioItems audioPacket
  split
  next =>
    cases findSender s d with
    | none => exact numbered_same (sameSeqs_authFailure s d.src l)
    | some found =>
      obtain ⟨sender, p⟩ := found
      have learned : SameSeqs s (s.setNode sender fun n =>
          n.setAudio fun an => { an with rtpAddr := some d.src }) := by
        refine sameSeqs_setNode s sender _ ?_
        unfold NodeRt.setAudio NodeRt.nextSeq
        cases (s.nodeRt sender).session <;> rfl
      simp only
      split
      next => exact numbered_same (learned l)
      next =>
        rw [← learned l]
        exact numbered_accepted _ sender p delivered
  next => exact numbered_same rfl

/-! ## Steps and runs -/

def Continues (s t : State) (l : Nat) : Prop :=
  -- A session keeps its next number or ends, and one that starts was not there before.
  (s.nodeRt l).nextSeq = none ∨ (t.nodeRt l).nextSeq = none ∨
    (t.nodeRt l).nextSeq = (s.nodeRt l).nextSeq

theorem continues_login (s : State) (c : Nat) (body : Link.Login) (draw : LoginDraw) :
    Continues s (handleLogin s c body draw) l := by
  unfold handleLogin
  cases accepted : loginCheck s body draw with
  | error denial => exact Or.inr (Or.inr rfl)
  | ok a =>
    by_cases here : l = a.nodeIdx
    next =>
      obtain ⟨_, _, offline, _⟩ := loginCheck_ok accepted
      exact Or.inl (by simp [NodeRt.nextSeq, here, offline])
    next =>
      refine Or.inr (Or.inr ?_)
      simp only [signOn]
      rw [sameSeqs_broadcastRosterOf _ _ l]
      simp [State.send, State.note, State.setNode, State.setConn, here]

theorem continues_receive (s : State) (c : Nat) (frame : Frame) (draw : LoginDraw) :
    Continues s (receive s c frame draw) l := by
  unfold receive
  split
  next => exact Or.inr (Or.inr rfl)
  next cs _ =>
    split
    next => exact Or.inr (Or.inr rfl)
    next =>
      unfold handleMessage
      simp only
      split
      next =>
        unfold handleUntyped
        simp only
        split <;> exact Or.inr (Or.inr rfl)
      next => exact Or.inr (Or.inr rfl)
      next body _ _ => exact continues_login (s.setConn c fun cs => cs.heard s.nowMs) c body draw
      next => exact Or.inr (Or.inr rfl)
      next k _ _ _ =>
        exact Or.inr (Or.inr (sameSeqs_handleAuthenticated (s.setConn c _) c k _ l))

theorem continues_close (s : State) (c : Nat) : Continues s (closeConn s c) l := by
  unfold closeConn
  split
  next => exact Or.inr (Or.inr rfl)
  next cs _ =>
    simp only
    cases cs.nodeIdx with
    | none => exact Or.inr (Or.inr rfl)
    | some k =>
      by_cases here : l = k
      next =>
        subst here
        exact Or.inr (Or.inl (gone_leaveNode s l))
      next => exact Or.inr (Or.inr (sameSeqs_leaveNode s here))

theorem numbered_of_continues {s t : State} (continues : Continues s t l) :
    Numbered (s.nodeRt l).nextSeq
      (if !(s.nodeRt l).connected && (t.nodeRt l).connected then [.session] else [])
      (t.nodeRt l).nextSeq := by
  have online : ∀ n : NodeRt, n.connected = true ↔ n.nextSeq ≠ none := by
    intro n
    unfold NodeRt.connected NodeRt.nextSeq
    cases n.session <;> simp
  split
  next opened =>
    simp only [Bool.and_eq_true, online] at opened
    obtain ⟨first, next_⟩ := Option.ne_none_iff_exists'.mp opened.2
    exact ⟨first, Or.inl next_⟩
  next quiet =>
    rcases continues with none_before | ended | same
    next =>
      refine Or.inr ?_
      by_contra later
      have before : (s.nodeRt l).connected = false := by
        rw [← Bool.not_eq_true, online, none_before]
        exact fun absent => absent rfl
      exact quiet (by simp [before, (online _).mpr later])
    next => exact Or.inr ended
    next => exact Or.inl same

theorem numbered_step {s : State} {timed : Moment × Event}
    (delivered : ∀ d, timed.2 = .datagram d → d.delivers l = true) :
    Numbered (s.nodeRt l).nextSeq (items l s timed) ((step s timed).nodeRt l).nextSeq := by
  obtain ⟨m, e⟩ := timed
  let now := s.at m
  cases e with
  | datagram d => exact numbered_audio now (delivered d rfl)
  | wsOpen c challenge =>
    refine numbered_of_continues (t := openConn now c challenge) (Or.inr (Or.inr ?_))
    unfold openConn
    split
    next => rfl
    next =>
      unfold sendHello
      cases challenge <;> rfl
  | wsMsg c frame draw => exact numbered_of_continues (continues_receive now c frame draw)
  | close c => exact numbered_of_continues (continues_close now c)
  | floorTick => exact numbered_of_continues (Or.inr (Or.inr (sameSeqs_floorTick now l)))
  | keepaliveTick => exact numbered_of_continues (t := keepaliveTick now) (Or.inr (Or.inr rfl))
  | reload loaded => exact numbered_of_continues (Or.inr (Or.inr (sameSeqs_doReload now loaded l)))
  | admin nodeId action =>
    exact numbered_of_continues (Or.inr (Or.inr (sameSeqs_adminNodeAction now nodeId action l)))
  | adminReleaseFloor tg =>
    refine numbered_of_continues (t := (adminReleaseFloor now tg).1) (Or.inr (Or.inr ?_))
    unfold adminReleaseFloor
    split
    next => rfl
    next j _ => exact sameSeqs_floorRelease now j _ l

def Delivers (l : Nat) (timed : Moment × Event) : Prop :=
  -- No packet to node `l` fails to be sent.
  ∀ d, timed.2 = .datagram d → d.delivers l = true

theorem numbered_run {s : State} {inputs : List (Moment × Event)}
    (delivered : ∀ timed ∈ inputs, Delivers l timed) :
    Numbered (s.nodeRt l).nextSeq (trace step (items l) s inputs)
      ((run step s inputs).nodeRt l).nextSeq := by
  induction inputs generalizing s with
  | nil => exact numbered_same rfl
  | cons timed rest ih =>
    exact numbered_append (numbered_step (delivered timed (List.mem_cons_self ..)))
      (ih fun later member => delivered later (List.mem_cons_of_mem _ member))

end

end Kerchunk.Reflectd
