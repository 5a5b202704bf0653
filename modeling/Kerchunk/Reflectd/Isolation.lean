import Kerchunk.Reflectd.FloorSafety

set_option autoImplicit false

/-!
# Who hears a talker

The fan-out goes to the configured members of the talker's talkgroup, wherever
they are now.
-/

namespace Kerchunk.Reflectd

open Link (Msg)
open Machine (Guarded run)

def Note.peer : Note → Option Nat
  | .forwarded _ _ peer => some peer
  | _ => none

def forwardedTo (s : State) (timed : Moment × Event) : List Nat :=
  -- The nodes that a step forwards a packet to.
  ((step s timed).log.drop s.log.length).filterMap Note.peer

/-- The packet is voice from node `k`, which has or gets the floor of its talkgroup. -/
structure AcceptedFrom (s : State) (d : Datagram) (k : Nat) : Prop where
  wellFormed : rtpOk d = true
  sender : ∃ p, findSender s d = some (k, p) ∧ p.payloadType ≠ Link.rtpBootstrapPt
  unmuted : (s.nodeRt k).muted = false
  floor : ∃ j, rcfgTgIdx s.cfg (s.nodeRt k).curTg = some j ∧ floorBusy s j k = false

def Reachable (s : State) (p : Nat) : Prop :=
  (s.nodeRt p).connected = true ∧ (s.nodeRt p).rtpAddr ≠ none

def Isolated (s : State) (timed : Moment × Event) (k : Nat) : Prop :=
  -- The packet reaches exactly the other nodes on the sender's talkgroup that can be reached.
  ∀ p, p ∈ forwardedTo s timed ↔ p ≠ k ∧ Reachable s p ∧ (s.nodeRt p).curTg = (s.nodeRt k).curTg

/-- Of the other nodes that can be reached, the configured members of the sender's talkgroup are
those that are on it now. -/
def MembersPresent (s : State) (k : Nat) : Prop :=
  ∀ p, p ≠ k → Reachable s p →
    ((∃ j, rcfgTgIdx s.cfg (s.nodeRt k).curTg = some j ∧ p ∈ s.cfg.members j) ↔
      (s.nodeRt p).curTg = (s.nodeRt k).curTg)

/-! ## The fan-out -/

theorem rtpAddr_connected {n : NodeRt} (known : n.rtpAddr ≠ none) : n.connected = true := by
  unfold NodeRt.rtpAddr at known
  unfold NodeRt.connected
  cases session : n.session <;> simp [session] at known ⊢

theorem rtpAddr_advance (n : NodeRt) : (n.setAudio AudioNode.advance).rtpAddr = n.rtpAddr := by
  unfold NodeRt.setAudio NodeRt.rtpAddr
  cases n.session <;> rfl

theorem forward_rtpAddr (s : State) (j sender peer : Nat) (p : RtpPacket) (delivered : Bool)
    (q : Nat) :
    ((forward s j sender peer p delivered).nodeRt q).rtpAddr = (s.nodeRt q).rtpAddr := by
  by_cases at_ : q = peer
  · subst at_
    simp only [forward, State.note, State.setNode, Function.update_self]
    cases delivered <;> exact rtpAddr_advance _
  · simp [forward, State.note, State.setNode, at_]

theorem fanOut_log (s : State) (j sender : Nat) (p : RtpPacket) (delivers : Nat → Bool) :
    (fanOut s j sender p delivers).log = s.log ++
      ((s.cfg.members j).filter fun peer =>
        peer ≠ sender ∧ (s.nodeRt peer).rtpAddr ≠ none).map (Note.forwarded j sender) := by
  unfold fanOut
  generalize s.cfg.members j = peers
  induction peers generalizing s with
  | nil => simp
  | cons peer rest ih =>
      rw [List.foldl_cons, ih]
      by_cases skipped : peer = sender ∨ (s.nodeRt peer).rtpAddr = none
      · have dropped : ¬ (peer ≠ sender ∧ (s.nodeRt peer).rtpAddr ≠ none) := by tauto
        rw [if_pos skipped, List.filter_cons_of_neg (by simpa using dropped)]
      · have taken : peer ≠ sender ∧ (s.nodeRt peer).rtpAddr ≠ none := by tauto
        rw [if_neg skipped, List.filter_cons_of_pos (by simpa using taken)]
        simp only [forward_rtpAddr]
        simp [forward, State.note, State.setNode]

theorem sendNode_sent (s : State) (k : Nat) (m : Msg) : ∃ sent, s.sendNode k m = { s with sent := sent } := by
  unfold State.sendNode
  cases (s.nodeRt k).session with
  | none => exact ⟨s.sent, rfl⟩
  | some session => exact ⟨_, rfl⟩

theorem sendNodes_sent (s : State) (ks : List Nat) (m : Msg) :
    ∃ sent, s.sendNodes ks m = { s with sent := sent } := by
  induction ks generalizing s with
  | nil => exact ⟨s.sent, rfl⟩
  | cons k rest ih =>
      obtain ⟨first, one⟩ := sendNode_sent s k m
      obtain ⟨last, later⟩ := ih { s with sent := first }
      exact ⟨last, by rw [State.sendNodes, List.foldl_cons, one]; exact later⟩

theorem broadcastTalker_frame (s : State) (j : Nat) (talker except : Option Nat) :
    ∃ sent n, n.peer = none ∧
      broadcastTalker s j talker except = { s with sent := sent, log := s.log ++ [n] } := by
  obtain ⟨sent, told⟩ := sendNodes_sent s
    ((s.cfg.members j).filter fun idx => decide (some idx ≠ except))
    (.talker (s.cfg.tgNumber j) (talker.map s.cfg.nodeId) s.time)
  refine ⟨sent, _, ?_, by rw [broadcastTalker, told]; rfl⟩
  rfl

theorem floorTryGrant_frame {s granted : State} {j k : Nat}
    (success : floorTryGrant s j k = some granted) :
    granted.cfg = s.cfg ∧ (∀ q, (granted.nodeRt q).rtpAddr = (s.nodeRt q).rtpAddr) ∧
      ∃ notes, granted.log = s.log ++ notes ∧ notes.filterMap Note.peer = [] := by
  -- A grant leaves configuration and addresses alone, and forwards nothing.
  unfold floorTryGrant at success
  simp only at success
  split at success
  next => cases success
  next =>
    split at success
    next =>
      cases success
      obtain ⟨sent, n, quiet, told⟩ := broadcastTalker_frame
        (s.setTg j { talkerNodeIdx := some k, leaseExpiresMs := s.nowMs + s.cfg.hangtimeMs }) j
        (some k) none
      rw [startHold, told]
      refine ⟨rfl, fun q => ?_, [n], rfl, by simp [quiet]⟩
      by_cases at_ : q = k
      · subst at_
        simp [State.setNode, State.setTg, NodeRt.rtpAddr]
      · simp [State.setNode, State.setTg, at_]
    next =>
      cases success
      exact ⟨rfl, fun _ => rfl, [], by simp [State.setTg], rfl⟩

theorem acceptAudio_granted {s granted : State} {k i : Nat} {p : RtpPacket} {d : Datagram}
    (voice : p.payloadType ≠ Link.rtpBootstrapPt)
    (onTg : rcfgTgIdx s.cfg (s.nodeRt k).curTg = some i)
    (success : floorTryGrant s i k = some granted) :
    acceptAudio s k p d =
      fanOut (granted.setNode k fun n => n.received s.nowMs d.len) i k p d.delivers := by
  simp only [acceptAudio, if_neg voice, onTg, success]

theorem mem_forwardedTo {s : State} {m : Moment} {d : Datagram} {k j : Nat}
    (accepted : AcceptedFrom (s.at m) d k) (onTg : rcfgTgIdx s.cfg (s.nodeRt k).curTg = some j)
    (q : Nat) :
    q ∈ forwardedTo s (m, .datagram d) ↔
      q ∈ s.cfg.members j ∧ q ≠ k ∧ (s.nodeRt q).rtpAddr ≠ none := by
  -- An accepted packet goes to the configured members that have an address, wherever they are.
  obtain ⟨wellFormed, ⟨p, sender, voice⟩, unmuted, ⟨i, onTg', free⟩⟩ := accepted
  obtain rfl : i = j := Option.some.inj (onTg'.symm.trans onTg)
  -- The sender's address is learned before the floor is tried.
  let learned := (s.at m).setNode k fun n => n.setAudio fun an => { an with rtpAddr := some d.src }
  have tg : (learned.nodeRt k).curTg = (s.nodeRt k).curTg := by
    simp [learned, State.setNode, NodeRt.setAudio, State.at]
  have address : ∀ q ≠ k, (learned.nodeRt q).rtpAddr = (s.nodeRt q).rtpAddr := by
    intro q other
    simp [learned, State.setNode, State.at, other]
  obtain ⟨granted, success, _⟩ := floorTryGrant_free (s := learned) (k := k) free
  obtain ⟨cfg, kept, notes, logged, quiet⟩ := floorTryGrant_frame success
  have stepped : step s (m, .datagram d) =
      fanOut (granted.setNode k fun n => n.received learned.nowMs d.len) i k p d.delivers := by
    change audioPacket (s.at m) d = _
    have found : rcfgTgIdx learned.cfg (learned.nodeRt k).curTg = some i := by rw [tg]; exact onTg
    simp only [audioPacket, wellFormed, if_true, sender, unmuted, Bool.false_eq_true, if_false]
    exact acceptAudio_granted voice found success
  have members : granted.cfg.members i = s.cfg.members i := by rw [cfg]; rfl
  have before : granted.log = s.log ++ notes := logged
  unfold forwardedTo
  rw [stepped, fanOut_log]
  simp only [State.setNode, before, List.append_assoc, List.drop_left, List.filterMap_append, quiet,
    List.nil_append, members, List.filterMap_map]
  have unfiltered : (Note.peer ∘ Note.forwarded i k) = some := rfl
  rw [unfiltered, List.filterMap_some, List.mem_filter]
  refine and_congr_right fun _ => ?_
  simp only [decide_eq_true_eq]
  refine and_congr_right fun other => ?_
  rw [Function.update_of_ne other, kept, address q other]

theorem isolated_iff_present {s : State} {m : Moment} {d : Datagram} {k : Nat}
    (accepted : AcceptedFrom (s.at m) d k) :
    Isolated s (m, .datagram d) k ↔ MembersPresent s k := by
  obtain ⟨j, onTg, _⟩ := accepted.floor
  have onTg : rcfgTgIdx s.cfg (s.nodeRt k).curTg = some j := onTg
  have reachable : ∀ q, Reachable s q ↔ (s.nodeRt q).rtpAddr ≠ none := fun q =>
    ⟨And.right, fun known => ⟨rtpAddr_connected known, known⟩⟩
  have listed : ∀ q, (∃ i, rcfgTgIdx s.cfg (s.nodeRt k).curTg = some i ∧ q ∈ s.cfg.members i) ↔
      q ∈ s.cfg.members j := by
    intro q
    simp [onTg]
  unfold Isolated MembersPresent
  simp only [mem_forwardedTo accepted onTg, listed, reachable]
  refine forall_congr' fun q => ?_
  tauto

/-! ## Whole runs -/

def OfSender (ok : Nat → Prop) (s : State) (timed : Moment × Event) : Prop :=
  -- If the event is a packet that the daemon accepts, `ok` holds of its sender.
  ∀ d k, timed.2 = .datagram d → AcceptedFrom (s.at timed.1) d k → ok k

/-- In a run, every accepted packet stays on its talkgroup exactly if at each of them the reachable
members of the sender's talkgroup are the reachable nodes on it. -/
theorem isolated_iff_members_present (cfg : Rcfg) (bootMs : Nat) (inputs : List (Moment × Event)) :
    Guarded step (fun s timed => OfSender (Isolated s timed) s timed) (State.init cfg bootMs) inputs ↔
      Guarded step (fun s timed => OfSender (MembersPresent s) s timed) (State.init cfg bootMs)
        inputs := by
  refine Machine.guarded_congr step (fun s timed => ?_) _ inputs
  obtain ⟨m, e⟩ := timed
  refine forall_congr' fun d => forall_congr' fun k => forall_congr' fun same => ?_
  cases same
  exact forall_congr' isolated_iff_present

/-! ## A listener that moves -/

def listening : List (Moment × Event) :=
  -- Both nodes sign in, and B makes its address known.
  signIn 0 "A" ++ signIn 1 "B" ++ [(after 5, packet 1 99)]

/-- B moves to the second talkgroup and still hears A on the first. -/
theorem moved_listener_not_isolated :
    let moved := run step (State.init roster 0) (listening ++ [(after 5, request 1 (.setTg 2))])
    AcceptedFrom (moved.at (after 100)) (rtp 0 100) 0 ∧
      ¬ Isolated moved (after 100, .datagram (rtp 0 100)) 0 := by
  refine ⟨⟨by decide, ⟨_, rfl, by decide⟩, by decide, ⟨0, by decide, by decide⟩⟩, fun isolated => ?_⟩
  obtain ⟨_, _, onTg⟩ := (isolated 1).mp (by decide)
  exact absurd onTg (by decide)

end Kerchunk.Reflectd
