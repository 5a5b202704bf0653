import Kerchunk.Reflectd.Identity
import Kerchunk.Reflectd.Isolation

set_option autoImplicit false

/-!
# The bitrate that is suggested

Each loss report is answered to all members of its talkgroup with the bitrate for the loss that it
gives itself.
-/

namespace Kerchunk.Reflectd

open Link (Msg Request)
open Machine (Guarded run)
open Hall (Seated)

def Msg.bps : Msg → Option Nat
  | .targetBitrate bps => some bps
  | _ => none

def hintOf (s : State) (c : Nat) : Option Nat :=
  -- The bitrate last suggested on the connection.
  ((s.sent c).filterMap Msg.bps).getLast?

/-- The node whose connection the event is a loss report of, and the loss. -/
def reportOf (s : State) : Event → Option (Nat × Rat)
  | .wsMsg c frame _ =>
    match frame.request with
    | .quality lossPct =>
      if Link.maxMsg < frame.len then none else (seatOf s c).map fun k => (k, lossPct)
    | _ => none
  | _ => none

def overLoss (s : State) (k : Nat) : Prop :=
  (s.nodeRt k).connected = true ∧ 5 < (s.nodeRt k).lastLossPct

instance (s : State) (k : Nat) : Decidable (overLoss s k) :=
  inferInstanceAs (Decidable (_ ∧ _))

/-- The event is a loss report of a member of the talkgroup that it is on. -/
def Reports (s : State) (e : Event) (k j : Nat) (lossPct : Rat) : Prop :=
  reportOf s e = some (k, lossPct) ∧ rcfgTgIdx s.cfg (s.nodeRt k).curTg = some j ∧
    k ∈ s.cfg.members j

instance (s : State) (e : Event) (k j : Nat) (lossPct : Rat) : Decidable (Reports s e k j lossPct) :=
  inferInstanceAs (Decidable (_ ∧ _ ∧ _))

/-- After a report, the bitrate suggested to a connected member of the talkgroup is the reduced one if
and only if a connected member has last reported a loss over the limit. -/
def HintsRight (s : State) (timed : Moment × Event) : Prop :=
  ∀ k j lossPct, Reports s timed.2 k j lossPct → ∀ p ∈ s.cfg.members j, ∀ session,
    ((step s timed).nodeRt p).session = some session →
      (hintOf (step s timed) session.c = some 24000 ↔
        ∃ q ∈ s.cfg.members j, overLoss (step s timed) q)

/-- Little loss is reported only while no other connected member has last reported much. -/
def OthersWell (s : State) (timed : Moment × Event) : Prop :=
  ∀ k j lossPct, Reports s timed.2 k j lossPct → ¬ 5 < lossPct →
    ∀ q ∈ s.cfg.members j, q ≠ k → ¬ overLoss s q

/-! ## What a report does -/

theorem hintOf_send (s : State) (c d bps : Nat) :
    hintOf (s.send c (.targetBitrate bps)) d = if d = c then some bps else hintOf s d := by
  unfold hintOf State.send
  by_cases here : d = c
  next => simp [here, Msg.bps]
  next => simp [here]

theorem hintOf_sendNode {s : State} {c bps : Nat} (k : Nat) (hinted : hintOf s c = some bps) :
    hintOf (s.sendNode k (.targetBitrate bps)) c = some bps := by
  unfold State.sendNode
  cases (s.nodeRt k).session with
  | none => exact hinted
  | some session =>
    dsimp only
    rw [hintOf_send, hinted]
    exact ite_self _

theorem nodeRt_sendNode (s : State) (k : Nat) (m : Msg) : (s.sendNode k m).nodeRt = s.nodeRt := by
  obtain ⟨sent, same⟩ := sendNode_sent s k m
  rw [same]

theorem hintOf_sendNodes {s : State} {ks : List Nat} {p bps : Nat} {session : Session}
    (online : (s.nodeRt p).session = some session) (hinted : p ∈ ks ∨ hintOf s session.c = some bps) :
    hintOf (s.sendNodes ks (.targetBitrate bps)) session.c = some bps := by
  induction ks generalizing s with
  | nil => exact hinted.resolve_left (List.not_mem_nil)
  | cons k rest ih =>
    rw [State.sendNodes, List.foldl_cons]
    refine ih ((congrArg (fun rt => (rt p).session) (nodeRt_sendNode s k _)).trans online) ?_
    rcases hinted with member | already
    next =>
      rcases List.mem_cons.mp member with rfl | later
      next =>
        right
        rw [State.sendNode, online]
        dsimp only
        rw [hintOf_send, if_pos rfl]
      next => exact .inl later
    next => exact .inr (hintOf_sendNode k already)

/-- The state in which the bitrate is suggested. -/
structure Judged (s judged : State) (k : Nat) (lossPct : Rat) : Prop where
  cfg : judged.cfg = s.cfg
  other : ∀ q, q ≠ k → judged.nodeRt q = s.nodeRt q
  session : (judged.nodeRt k).session = (s.nodeRt k).session
  curTg : (judged.nodeRt k).curTg = (s.nodeRt k).curTg
  loss : (judged.nodeRt k).lastLossPct = lossPct

theorem handleQuality_judged (s : State) (c k : Nat) (lossPct : Rat) :
    ∃ judged, Judged s judged k lossPct ∧ handleQuality s c k lossPct = suggestBitrate judged k lossPct := by
  unfold handleQuality
  refine ⟨_, ?_, rfl⟩
  split <;> constructor <;> intros <;>
    simp_all [muteNode, State.send, State.setNode, NodeRt.reportLoss]

theorem reported_step {s : State} {timed : Moment × Event} {k : Nat} {lossPct : Rat}
    (reported : reportOf s timed.2 = some (k, lossPct)) :
    ∃ judged, Judged s judged k lossPct ∧ step s timed = suggestBitrate judged k lossPct := by
  obtain ⟨m, e⟩ := timed
  cases e with
  | wsMsg c frame draw =>
    obtain ⟨len, request⟩ := frame
    cases request with
    | quality loss =>
      simp only [reportOf] at reported
      split at reported
      next => cases reported
      next short =>
        obtain ⟨seat, seated, same⟩ := Option.map_eq_some_iff.mp reported
        cases same
        obtain ⟨cs, opened, authenticated⟩ := Option.bind_eq_some_iff.mp seated
        have state : cs.state = .authenticated k := by
          cases at_ : cs.state <;> simp_all [Conn.nodeIdx]
        obtain ⟨judged, frame, answered⟩ := handleQuality_judged
          ((s.at m).setConn c fun cs => cs.heard (s.at m).nowMs) c k lossPct
        have handled : step s (m, .wsMsg c ⟨len, .quality lossPct⟩ draw) =
            handleQuality ((s.at m).setConn c fun cs => cs.heard (s.at m).nowMs) c k lossPct := by
          have opened : (s.at m).conns c = some cs := opened
          simp only [step, handle, receive, opened, short, if_false, handleMessage, state,
            handleAuthenticated]
        exact ⟨judged, ⟨frame.cfg, frame.other, frame.session, frame.curTg, frame.loss⟩,
          handled.trans answered⟩
    | _ => cases reported
  | _ => cases reported

/-- What a report leaves: the sender's loss, and the suggestion on every member's connection. -/
structure Answered (s after : State) (k j : Nat) (lossPct : Rat) : Prop where
  session : ∀ q, (after.nodeRt q).session = (s.nodeRt q).session
  other : ∀ q, q ≠ k → after.nodeRt q = s.nodeRt q
  loss : (after.nodeRt k).lastLossPct = lossPct
  hint : ∀ p ∈ s.cfg.members j, ∀ session, (s.nodeRt p).session = some session →
    hintOf after session.c = some (if 5 < lossPct then 24000 else 32000)

theorem report_answered {s : State} {timed : Moment × Event} {k j : Nat} {lossPct : Rat}
    (reports : Reports s timed.2 k j lossPct) : Answered s (step s timed) k j lossPct := by
  obtain ⟨reported, onTg, _⟩ := reports
  obtain ⟨judged, frame, stepped⟩ := reported_step reported
  have found : rcfgTgIdx judged.cfg (judged.nodeRt k).curTg = some j := by
    rw [frame.cfg, frame.curTg, onTg]
  have session (q : Nat) : (judged.nodeRt q).session = (s.nodeRt q).session := by
    by_cases sender : q = k
    next => rw [sender, frame.session]
    next => rw [frame.other q sender]
  rw [stepped, suggestBitrate, found]
  obtain ⟨sent, told⟩ := sendNodes_sent judged (judged.cfg.members j)
    (.targetBitrate (if 5 < lossPct then 24000 else 32000))
  refine ⟨fun q => ?_, fun q different => ?_, ?_, fun p member session' online => ?_⟩
  next =>
    dsimp only
    rw [told, session]
  next =>
    dsimp only
    rw [told, frame.other q different]
  next =>
    dsimp only
    rw [told, frame.loss]
  next =>
    exact hintOf_sendNodes ((session p).trans online) (.inl (by rwa [frame.cfg]))

theorem reporter_connected {s : State} (seated : Seated (hall s)) {e : Event} {k : Nat}
    {lossPct : Rat} (reported : reportOf s e = some (k, lossPct)) :
    (s.nodeRt k).connected = true := by
  cases e with
  | wsMsg c frame draw =>
    obtain ⟨len, request⟩ := frame
    cases request with
    | quality loss =>
      simp only [reportOf] at reported
      split at reported
      next => cases reported
      next =>
        obtain ⟨seat, at_, same⟩ := Option.map_eq_some_iff.mp reported
        cases same
        have conn := (seated c k).mp ((hall_seat s c).trans at_)
        obtain ⟨session, online, _⟩ := Option.map_eq_some_iff.mp conn
        exact Option.isSome_iff_exists.mpr ⟨session, online⟩
    | _ => cases reported
  | _ => cases reported

/-! ## One report -/

theorem hints_iff_others {s : State} (seated : Seated (hall s)) (timed : Moment × Event) :
    HintsRight s timed ↔ OthersWell s timed := by
  refine forall_congr' fun k => forall_congr' fun j => forall_congr' fun lossPct =>
    forall_congr' fun reports => ?_
  have answered := report_answered reports
  have online := reporter_connected seated reports.1
  have limits (q : Nat) : overLoss (step s timed) q ↔
      if q = k then 5 < lossPct else overLoss s q := by
    unfold overLoss NodeRt.connected
    rw [answered.session]
    split
    next sender =>
      rw [sender, answered.loss]
      exact and_iff_right online
    next different => rw [answered.other q different]
  constructor
  next =>
    intro right little q member different much
    obtain ⟨session, at_⟩ := Option.isSome_iff_exists.mp online
    have hinted := answered.hint k reports.2.2 session at_
    rw [if_neg little] at hinted
    have reduced := (right k reports.2.2 session ((answered.session k).trans at_)).mpr
      ⟨q, member, (limits q).mpr (by rwa [if_neg different])⟩
    cases hinted.symm.trans reduced
  next =>
    intro clear p member session at_
    rw [answered.hint p member session ((answered.session p).symm.trans at_)]
    by_cases much : 5 < lossPct
    next =>
      rw [if_pos much]
      exact iff_of_true rfl ⟨k, reports.2.2, (limits k).mpr (by rwa [if_pos rfl])⟩
    next =>
      rw [if_neg much]
      refine iff_of_false (by decide) ?_
      rintro ⟨q, listed, still⟩
      have := (limits q).mp still
      split at this
      next => exact much this
      next different => exact clear much q listed different this

/-! ## Whole runs -/

/-- In every run, the bitrate suggested after each report is the right one if and only if little loss
is reported only while no other connected member has last reported much. -/
theorem hints_right_iff (cfg : Rcfg) (bootMs : Nat) (inputs : List (Moment × Event)) :
    Guarded step HintsRight (State.init cfg bootMs) inputs ↔
      Guarded step OthersWell (State.init cfg bootMs) inputs :=
  Machine.guarded_iff_of_invariant step (P := fun s => Seated (hall s))
    (fun _ timed seated => hints_iff_others seated timed)
    (fun s timed seated _ => seated_step s timed seated) (seated_init cfg bootMs)

/-- A reports a loss of 20 %. -/
def suffering : List (Moment × Event) :=
  signIn 0 "A" ++ signIn 1 "B" ++ [(after 5000, request 0 (.quality 20))]

/-- B reports a loss of 1 % after that, and both are told to go back to the full rate. -/
theorem last_report_wins :
    ¬ Guarded step HintsRight (State.init roster 0)
      (suffering ++ [(after 100, request 1 (.quality 1))]) := by
  intro right
  have last := ((Machine.guarded_append step HintsRight _ _ _).mp right).2.1
  have seated : Seated (hall (run step (State.init roster 0) suffering)) :=
    Machine.run_holds step (P := fun s => Seated (hall s)) seated_step (seated_init roster 0)
  have reports : Reports (run step (State.init roster 0) suffering) (request 1 (.quality 1)) 1 0 1 :=
    by decide
  exact (hints_iff_others seated _).mp last 1 0 1 reports (by decide) 0 (by decide) (by decide)
    (by decide)

end Kerchunk.Reflectd
