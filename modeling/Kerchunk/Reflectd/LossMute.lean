import Kerchunk.Lib.Machine
import Kerchunk.Reflectd.Bitrate
import Kerchunk.Reflectd.Lifelines

set_option autoImplicit false

/-!
# Muting for loss (`src/reflectd/main.c`)

A node that goes on reporting loss is muted. What counts is what it reported since its login.
-/

namespace Kerchunk.Reflectd

open Link (Msg ErrCode Login Request)
open Machine (run run_nil run_cons trace)

/-! ## What marks a standing -/

inductive Mark where
  | report (lossPct : Rat) (thresholdPct : Int)
  | login
  | mute
  | unmute
  | leave

/-- The node that the event logs in. -/
def loginOf (s : State) (timed : Moment × Event) : Option Nat :=
  match timed.2 with
  | .wsMsg c frame draw =>
    match frame.request with
    | .login body =>
      if Link.maxMsg < frame.len ∨ (s.conns c).map Conn.state ≠ some .awaitingLogin then none
      else
        match loginCheck (s.at timed.1) body draw with
        | .ok a => some a.nodeIdx
        | .error _ => none
    | _ => none
  | _ => none

/-- The node whose standing the event touches. -/
def markOf (s : State) (timed : Moment × Event) : Option (Nat × Mark) :=
  match timed.2 with
  | .wsMsg _ _ _ =>
    match reportOf s timed.2 with
    | some (k, lossPct) => some (k, .report lossPct s.cfg.muteThresholdPct)
    | none => (loginOf s timed).map (·, .login)
  | .close c => (seatOf s c).map (·, .leave)
  | .admin (some id) (.mute _) => (rcfgNodeIdx s.cfg id).map (·, .mute)
  | .admin (some id) .unmute => (rcfgNodeIdx s.cfg id).map (·, .unmute)
  | _ => none

def Standing.report (st : Standing) (lossPct : Rat) (thresholdPct : Int) : Standing :=
  let lossHist := st.lossHist.drop 1 ++ [lossPct]
  let lossHistN := if st.lossHistN < lossHistLen * 2 then st.lossHistN + 1 else st.lossHistN
  { lossHist := lossHist
    lossHistN := lossHistN
    muted := st.muted || (decide (lossHistLen ≤ lossHistN) &&
      decide (lossHistTrip ≤ lossHist.countP fun loss => decide ((thresholdPct : Rat) < loss))) }

def Standing.apply (st : Standing) : Mark → Standing
  | .report lossPct thresholdPct => st.report lossPct thresholdPct
  | .login => { st with lossHist := List.replicate lossHistLen 0, lossHistN := 0 }
  | .mute => { st with muted := true }
  | .unmute | .leave => { st with muted := false }

def standings (s : State) (k : Nat) : Standing :=
  (s.nodeRt k).standing

def applyMark (standings : Nat → Standing) (marked : Nat × Mark) : Nat → Standing :=
  Function.update standings marked.1 ((standings marked.1).apply marked.2)

def KeepsStandings (before after : State) : Prop :=
  standings after = standings before

theorem standings_setNode (s : State) (k : Nat) (change : NodeRt → NodeRt) :
    standings (s.setNode k change) =
      Function.update (standings s) k (change (s.nodeRt k)).standing := by
  funext j
  by_cases same : j = k
  next =>
    subst same
    simp [standings, State.setNode]
  next => simp [standings, State.setNode, same]

theorem still : Passive KeepsStandings where
  refl _ := rfl
  trans first second := second.trans first
  send _ _ _ := rfl
  note _ _ := rfl
  setTg _ _ _ := rfl
  setConn _ _ _ _ _ := rfl
  setNode s k _ keeps := by
    rw [KeepsStandings, standings_setNode, keeps]
    exact Function.update_eq_self k (standings s)
  reconfigured _ _ _ _ := rfl

/-! ## One event -/

variable (s : State)

/-- The source judges a node that is not muted yet. -/
theorem report_judged (n : NodeRt) (time thresholdPct : Int) (lossPct : Rat) :
    n.standing.report lossPct thresholdPct =
      { (n.reportLoss time lossPct).standing with
        muted := n.muted || (n.reportLoss time lossPct).tripsMute thresholdPct } := by
  cases muted : n.muted <;>
    simp [Standing.report, NodeRt.standing, NodeRt.tripsMute, NodeRt.reportLoss, muted]

theorem standings_handleQuality (c k : Nat) (lossPct : Rat) :
    standings (handleQuality s c k lossPct) =
      applyMark (standings s) (k, .report lossPct s.cfg.muteThresholdPct) := by
  have judged := report_judged (s.nodeRt k) s.time s.cfg.muteThresholdPct lossPct
  unfold handleQuality
  simp only
  rw [still.suggestBitrate _ k lossPct, applyMark, Standing.apply]
  split
  next trips =>
    rw [mutesSender] at trips
    rw [still.send _ c _, muteNode, standings_setNode, standings_setNode, Function.update_idem, standings, judged,
      trips, Bool.or_true]
    simp only [State.setNode, Function.update_self]
    rfl
  next calm =>
    rw [mutesSender, Bool.not_eq_true] at calm
    rw [standings_setNode, standings, judged, calm, Bool.or_false]
    rfl

theorem standings_handleLogin (c : Nat) (body : Login) (draw : LoginDraw) :
    standings (handleLogin s c body draw) =
      match loginCheck s body draw with
      | .ok a => applyMark (standings s) (a.nodeIdx, .login)
      | .error _ => standings s := by
  unfold handleLogin
  cases loginCheck s body draw with
  | error denial => exact still.sendThenClose s c _
  | ok a =>
    have told : standings (signOn s c body a) = standings (s.setNode a.nodeIdx fun n =>
        n.login s c body.clientVersion a) := still.broadcastRosterOf _ a.tg
    simp only [told, standings_setNode]
    rfl

theorem standings_handleMessage (c : Nat) (cs : Conn) (request : Request) (draw : LoginDraw) :
    standings (handleMessage s c cs request draw) =
      match request, cs.state with
      | .quality lossPct, .authenticated k => applyMark (standings s) (k, .report lossPct s.cfg.muteThresholdPct)
      | .login body, .awaitingLogin =>
        match loginCheck s body draw with
        | .ok a => applyMark (standings s) (a.nodeIdx, .login)
        | .error _ => standings s
      | _, _ => standings s := by
  let heard := s.setConn c fun cs => cs.heard s.nowMs
  cases request with
  | quality lossPct =>
    unfold handleMessage
    cases cs.state with
    | awaitingLogin => exact still.sendThenClose heard c _
    | authenticated k => exact standings_handleQuality heard c k lossPct
  | login body =>
    unfold handleMessage
    cases cs.state with
    | awaitingLogin => exact standings_handleLogin heard c body draw
    | authenticated k => exact still.sendThenClose heard c _
  | _ => exact still.handleMessage s c nofun nofun

theorem seatOf_state {c : Nat} {cs : Conn} (here : s.conns c = some cs) :
    seatOf s c = match cs.state with
      | .awaitingLogin => none
      | .authenticated k => some k := by
  rw [seatOf, here]
  rfl

theorem standings_receive (m : Moment) (c : Nat) (frame : Frame) (draw : LoginDraw) :
    standings (receive (s.at m) c frame draw) =
      ((markOf s (m, .wsMsg c frame draw)).map (applyMark (standings s))).getD (standings s) := by
  obtain ⟨len, request⟩ := frame
  have there : (s.at m).conns c = s.conns c := rfl
  unfold receive
  cases here : s.conns c with
  | none =>
    have quiet : markOf s (m, .wsMsg c ⟨len, request⟩ draw) = none := by
      cases request <;> simp [markOf, reportOf, loginOf, here, seatOf_closed here]
    rw [there, here, quiet]
    rfl
  | some cs =>
    simp only [there, here]
    split
    next long =>
      have quiet : markOf s (m, .wsMsg c ⟨len, request⟩ draw) = none := by
        cases request <;> simp [markOf, reportOf, loginOf, long]
      rw [quiet]
      exact still.sendThenClose (s.at m) c _
    next fits =>
      have seat := seatOf_state s here
      rw [standings_handleMessage]
      cases state : cs.state <;> rw [state] at seat <;> cases request
      case awaitingLogin.login body =>
        simp only [markOf, reportOf, loginOf, here, state, fits, Option.map_some, ne_eq, not_true_eq_false,
          or_self, if_false]
        cases loginCheck (s.at m) body draw <;> rfl
      all_goals
        simp [markOf, reportOf, loginOf, here, seat, state, fits]
        rfl

theorem standings_leaveNode (k : Nat) :
    standings (leaveNode s k) = applyMark (standings s) (k, .leave) := by
  have gone := still.broadcastRosterOf ((releaseAllOf s k).setNode k fun n =>
    { n with session := none, connectedAt := 0, muted := false, muteReason := "" }) (s.nodeRt k).curTg
  rw [leaveNode]
  refine gone.trans ?_
  rw [standings_setNode, still.releaseAllOf s k]
  have same : standings (releaseAllOf s k) k = standings s k := congrFun (still.releaseAllOf s k) k
  rw [applyMark, ← same]
  rfl

/-- Reports, logins, operators and closing are all that touches a standing. -/
theorem standings_step (timed : Moment × Event) :
    standings (step s timed) = ((markOf s timed).map (applyMark (standings s))).getD (standings s) := by
  obtain ⟨m, e⟩ := timed
  cases e with
  | wsOpen c challenge =>
    simp only [step, handle, openConn]
    cases (s.at m).conns c with
    | some _ => rfl
    | none => cases challenge <;> rfl
  | wsMsg c frame draw => exact standings_receive s m c frame draw
  | close c =>
    simp only [step, handle, closeConn, markOf]
    cases here : s.conns c with
    | none =>
      have there : (s.at m).conns c = none := here
      rw [there, seatOf_closed here]
      rfl
    | some cs =>
      have there : (s.at m).conns c = some cs := here
      simp only [there, seatOf, here, Option.bind_some]
      cases left : cs.nodeIdx with
      | none => rfl
      | some k => exact standings_leaveNode (s.at m) k
  | datagram d => exact still.audioPacket (s.at m) d
  | floorTick => exact still.floorTick (s.at m)
  | keepaliveTick => rfl
  | reload loaded => exact still.doReload (s.at m) loaded
  | adminReleaseFloor tg => exact still.adminReleaseFloor (s.at m) tg
  | admin nodeId action =>
    have config : (s.at m).cfg = s.cfg := rfl
    simp only [step, handle, adminNodeAction]
    cases nodeId with
    | none => cases action <;> rfl
    | some id =>
      cases known : rcfgNodeIdx s.cfg id with
      | none => cases action <;> simp [markOf, config, known] <;> rfl
      | some k =>
        simp only [config, known]
        cases action with
        | kick reason =>
          simp only [actOnNode]
          split
          next session _ => exact still.sendThenClose (s.at m) session.c _
          next => rfl
        | mute retryInS =>
          have muted := still.sendNode (muteNode (s.at m) k "admin_action") k (.mute "admin_action" retryInS)
          simp only [markOf, known, Option.map_some, Option.getD_some]
          exact muted.trans (standings_setNode (s.at m) k _)
        | unmute =>
          have unmuted := still.sendNode
            ((s.at m).setNode k fun n => { n with muted := false, muteReason := "" }) k .unmute
          simp only [markOf, known, Option.map_some, Option.getD_some]
          exact unmuted.trans (standings_setNode (s.at m) k _)

/-! ## What a node reported -/

/-- What node `k` reported since its login. -/
def heardSince (k : Nat) (past : List Rat) (marked : Nat × Mark) : List Rat :=
  if marked.1 = k then
    match marked.2 with
    | .report lossPct _ => past ++ [lossPct]
    | .login => []
    | _ => past
  else past

def marksOf (s : State) (timed : Moment × Event) : List (Nat × Mark) :=
  (markOf s timed).toList

def reportsSince (k : Nat) (marks : List (Nat × Mark)) : List Rat :=
  marks.foldl (heardSince k) []

/-- Two of the last three reports are over the threshold. -/
def Sustained (thresholdPct : Int) (reports : List Rat) : Prop :=
  lossHistLen ≤ reports.length ∧
    lossHistTrip ≤ (reports.drop (reports.length - lossHistLen)).countP fun loss =>
      decide ((thresholdPct : Rat) < loss)

/-- The last reports, with zeros where there are too few. -/
def latest (reports : List Rat) : List Rat :=
  (List.replicate lossHistLen 0 ++ reports).drop reports.length

theorem latest_snoc (reports : List Rat) (loss : Rat) :
    latest (reports ++ [loss]) = (latest reports).drop 1 ++ [loss] := by
  rw [latest, latest, List.drop_drop, ← List.append_assoc, List.length_append, List.length_singleton,
    List.drop_append_of_le_length]
  simp [lossHistLen]

theorem latest_long {reports : List Rat} (long : lossHistLen ≤ reports.length) :
    latest reports = reports.drop (reports.length - lossHistLen) := by
  rw [latest, List.drop_append, List.drop_eq_nil_of_le (by simpa using long), List.nil_append,
    List.length_replicate]

structure Recalls (st : Standing) (past : List Rat) : Prop where
  lossHist : st.lossHist = latest past
  lossHistN : st.lossHistN = min (lossHistLen * 2) past.length

theorem Recalls.report {st : Standing} {past : List Rat} (recalls : Recalls st past) (lossPct : Rat)
    (thresholdPct : Int) :
    Recalls (st.report lossPct thresholdPct) (past ++ [lossPct]) ∧
      ((st.report lossPct thresholdPct).muted = true ↔
        st.muted = true ∨ Sustained thresholdPct (past ++ [lossPct])) := by
  have counted : (st.report lossPct thresholdPct).lossHistN =
      min (lossHistLen * 2) (past ++ [lossPct]).length := by
    simp only [Standing.report, recalls.lossHistN, lossHistLen, List.length_append, List.length_singleton]
    split <;> omega
  have kept : (st.report lossPct thresholdPct).lossHist = latest (past ++ [lossPct]) := by
    rw [latest_snoc, ← recalls.lossHist]
    rfl
  refine ⟨⟨kept, counted⟩, ?_⟩
  have enough : lossHistLen ≤ (st.report lossPct thresholdPct).lossHistN ↔
      lossHistLen ≤ (past ++ [lossPct]).length := by
    rw [counted]
    simp only [lossHistLen]
    omega
  have judged : (st.report lossPct thresholdPct).muted = true ↔ st.muted = true ∨
      lossHistLen ≤ (st.report lossPct thresholdPct).lossHistN ∧
        lossHistTrip ≤ (st.report lossPct thresholdPct).lossHist.countP fun loss =>
          decide ((thresholdPct : Rat) < loss) := by
    simp [Standing.report]
  rw [judged, enough, kept, Sustained]
  refine or_congr_right (and_congr_right fun long => ?_)
  rw [latest_long long]

theorem Recalls.mark {standings : Nat → Standing} {k : Nat} {past : List Rat}
    (recalls : Recalls (standings k) past) (marked : Nat × Mark) :
    Recalls (applyMark standings marked k) (heardSince k past marked) := by
  obtain ⟨j, mark⟩ := marked
  by_cases same : j = k
  next =>
    subst same
    rw [applyMark, Function.update_self, heardSince, if_pos rfl]
    cases mark with
    | report lossPct thresholdPct => exact (recalls.report lossPct thresholdPct).1
    | login => exact ⟨rfl, rfl⟩
    | mute | unmute | leave => exact ⟨recalls.lossHist, recalls.lossHistN⟩
  next => rwa [applyMark, Function.update_of_ne (Ne.symm same), heardSince, if_neg same]

theorem Recalls.marks {standings : Nat → Standing} {k : Nat} {past : List Rat}
    (recalls : Recalls (standings k) past) (marks : List (Nat × Mark)) :
    Recalls (run applyMark standings marks k) (marks.foldl (heardSince k) past) := by
  induction marks generalizing standings past with
  | nil => exact recalls
  | cons marked rest ih => exact ih (recalls.mark marked)

/-! ## Whole runs -/

theorem standings_run (inputs : List (Moment × Event)) :
    standings (run step s inputs) = run applyMark (standings s) (trace step marksOf s inputs) := by
  refine Machine.run_trace (fun s timed => ?_) s inputs
  rw [standings_step, marksOf]
  cases markOf s timed <;> rfl

theorem recalls_run (cfg : Rcfg) (bootMs : Nat) (inputs : List (Moment × Event)) (k : Nat) :
    Recalls (standings (run step (State.init cfg bootMs) inputs) k)
      (reportsSince k (trace step marksOf (State.init cfg bootMs) inputs)) := by
  rw [standings_run]
  exact Recalls.marks ⟨rfl, rfl⟩ _

theorem markOf_reported {timed : Moment × Event} {k : Nat} {lossPct : Rat}
    (reported : reportOf s timed.2 = some (k, lossPct)) :
    markOf s timed = some (k, .report lossPct s.cfg.muteThresholdPct) := by
  obtain ⟨m, e⟩ := timed
  cases e with
  | wsMsg c frame draw => simp only [markOf, reported]
  | _ => cases reported

theorem reported_marked {timed : Moment × Event} {k : Nat} {lossPct : Rat} {thresholdPct : Int}
    (marked : markOf s timed = some (k, .report lossPct thresholdPct)) :
    reportOf s timed.2 = some (k, lossPct) := by
  unfold markOf at marked
  split at marked
  next =>
    split at marked
    next reported =>
      cases marked
      exact reported
    next => simp at marked
  all_goals simp at marked

/-- In every run, a report mutes its sender if and only if two of the last three reports since the login
are over the threshold; beyond that only an operator mutes, and only an operator or the end of the
connection ends it. -/
theorem muted_for_loss (cfg : Rcfg) (bootMs : Nat) (inputs : List (Moment × Event)) (timed : Moment × Event)
    (k : Nat) :
    let s := run step (State.init cfg bootMs) inputs
    let past := reportsSince k (trace step marksOf (State.init cfg bootMs) inputs)
    (∀ lossPct, reportOf s timed.2 = some (k, lossPct) →
      (((step s timed).nodeRt k).muted = true ↔
        (s.nodeRt k).muted = true ∨ Sustained s.cfg.muteThresholdPct (past ++ [lossPct]))) ∧
    ((∀ lossPct, reportOf s timed.2 ≠ some (k, lossPct)) →
      (((step s timed).nodeRt k).muted = true ↔
        markOf s timed = some (k, .mute) ∨ (s.nodeRt k).muted = true ∧
          markOf s timed ≠ some (k, .unmute) ∧ markOf s timed ≠ some (k, .leave))) := by
  intro s past
  have recalls : Recalls (standings s k) past := recalls_run cfg bootMs inputs k
  have after : ((step s timed).nodeRt k).muted =
      (((markOf s timed).map (applyMark (standings s))).getD (standings s) k).muted := by
    rw [← standings_step]
    rfl
  rw [after]
  refine ⟨fun lossPct reported => ?_, fun quiet => ?_⟩
  next =>
    rw [markOf_reported s reported, Option.map_some, Option.getD_some, applyMark, Function.update_self]
    exact (recalls.report lossPct s.cfg.muteThresholdPct).2
  next =>
    cases marked : markOf s timed with
    | none => simp [standings, NodeRt.standing]
    | some mark =>
      obtain ⟨j, mark⟩ := mark
      rw [Option.map_some, Option.getD_some]
      by_cases same : j = k
      next =>
        subst same
        rw [applyMark, Function.update_self]
        cases mark with
        | report lossPct thresholdPct => exact absurd (reported_marked s marked) (quiet lossPct)
        | login | mute | unmute | leave => simp [Standing.apply, standings, NodeRt.standing]
      next =>
        rw [applyMark, Function.update_of_ne (Ne.symm same)]
        simp [same, standings, NodeRt.standing]

end Kerchunk.Reflectd
