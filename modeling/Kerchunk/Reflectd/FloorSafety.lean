import Kerchunk.Reflectd.Invariants

set_option autoImplicit false

/-!
# Floor control

Who can hold a floor, and how a holder loses it.
-/

namespace Kerchunk.Reflectd

open Link (Request)
open Machine (Guarded run)
open Hall (Seated Allowed)

namespace Hall

/-! ## Holders are on their talkgroup -/

def Placed (h : Hall) : Prop :=
  -- A holder is connected and on the talkgroup whose floor it has.
  ∀ j < h.cfg.tgs.length, ∀ k, h.talker j = some k →
    (h.station k).conn ≠ none ∧ rcfgTgIdx h.cfg (h.station k).tg = some j

def Fit (h : Hall) : Prop :=
  -- A holder is configured and not muted.
  ∀ j < h.cfg.tgs.length, ∀ k, h.talker j = some k →
    k < h.cfg.nodes.length ∧ (h.station k).muted = false

/-- Every floor that the new configuration keeps or adds is idle, or its holder stays configured
and on that talkgroup. -/
def ReloadKeeps (h : Hall) (cfg : Rcfg) : Prop :=
  ∀ j < cfg.tgs.length, ∀ k, h.talker j = some k →
    j < h.cfg.tgs.length ∧ k < cfg.nodes.length ∧ tgAfter cfg h k = (h.station k).tg ∧
      rcfgTgIdx cfg (h.station k).tg = some j

def HoldsNone (h : Hall) (k : Nat) : Prop :=
  ∀ j < h.cfg.tgs.length, h.talker j ≠ some k

def Sparing (h : Hall) : Move → Prop
  -- What keeps holders placed and fit beyond what the daemon checks.
  | .grant _ k => k < h.cfg.nodes.length ∧ (h.station k).muted = false
  | .mute k _ => h.HoldsNone k
  | .reload cfg => h.ReloadKeeps cfg
  | _ => True

theorem reload_talker (h : Hall) (cfg : Rcfg) (j : Nat) : (h.reload cfg).talker j = h.talker j :=
  congrArg (fun floor => (floor j).talkerNodeIdx) (visited_all cfg h h.cfg.nodes.length).floor

theorem reload_station (h : Hall) (cfg : Rcfg) (k : Nat) :
    (h.reload cfg).station k =
      if k < h.cfg.nodes.length ∧ (h.station k).conn ≠ none then
        { h.station k with tg := tgAfter cfg h k }
      else h.station k := by
  refine ((visited_all cfg h h.cfg.nodes.length).station k).trans ?_
  simp only [List.mem_range]

theorem placed_same {g h : Hall} (placed : Placed h) (cfg : g.cfg = h.cfg)
    (talker : ∀ j k, g.talker j = some k → h.talker j = some k)
    (conn : ∀ k, (g.station k).conn = (h.station k).conn)
    (tg : ∀ k, (g.station k).tg = (h.station k).tg) : Placed g := by
  intro j bound k talks
  rw [cfg] at bound ⊢
  rw [conn, tg]
  exact placed j bound k (talker j k talks)

theorem placed_apply {h : Hall} {m : Move} (placed : Placed h) (allowed : Allowed h m)
    (reloads : ∀ cfg, m = .reload cfg → h.ReloadKeeps cfg) : Placed (h.apply m) := by
  cases m with
  | advance elapsed | enter c | drain c => exact placed
  | grant j k =>
      obtain ⟨online, onTg, _⟩ := allowed
      have places := grant_places h j k
      intro i bound holder talks
      rw [apply, places.conn, places.tg, places.cfg]
      rw [apply, grant_talker] at talks
      split at talks
      next at_ =>
        cases talks
        exact ⟨online, at_ ▸ onTg⟩
      next =>
        rw [apply, places.cfg] at bound
        exact placed i bound holder talks
  | release j =>
      have places := release_places h j
      refine placed_same placed places.cfg (fun i k talks => ?_) places.conn places.tg
      rw [apply, release_talker] at talks
      split at talks
      next => cases talks
      next => exact talks
  | join c node tg =>
      obtain ⟨_, _, offline, _⟩ := allowed
      intro i bound k talks
      have held := placed i bound k talks
      -- The node that joins was not connected, so it holds nothing.
      have other : k ≠ node := by
        rintro rfl
        exact held.1 offline
      rw [apply, join_station, if_neg other]
      exact held
  | tune c node tg =>
      obtain ⟨seat, _, gaveUp⟩ := allowed
      intro i bound k talks
      simp only [apply, tune, tell_cfg, tell_station, setStation_station, talker, tell_floor]
        at bound talks ⊢
      obtain ⟨online, onTg⟩ := placed i bound k talks
      split
      next at_ =>
        subst at_
        exact ⟨online, gaveUp i talks onTg⟩
      next => exact ⟨online, onTg⟩
  | mute node c | unmute node c =>
      refine placed_same placed (tell_cfg _ _ _) (fun j k talks => ?_) (fun k => ?_) fun k => ?_
      · simpa only [apply, talker, tell_floor, setStation] using talks
      · simp only [apply, tell_station, setStation_station]
        split <;> rfl
      · simp only [apply, tell_station, setStation_station]
        split <;> rfl
  | leave c =>
      intro i bound k talks
      have same : (h.leave c).floor = h.floor ∧ (h.leave c).cfg = h.cfg := by
        unfold leave
        cases h.seat c <;> exact ⟨rfl, rfl⟩
      simp only [apply, talker, same, leave_station] at bound talks ⊢
      have away : h.seat c ≠ some k := fun seat => allowed k seat i bound talks
      rw [if_neg away]
      exact placed i bound k talks
  | reload cfg =>
      intro j bound k talks
      obtain ⟨old, _, stays, onTg⟩ := reloads cfg rfl j bound k ((reload_talker h cfg j) ▸ talks)
      have held := placed j old k ((reload_talker h cfg j) ▸ talks)
      have tg : ((h.reload cfg).station k).tg = (h.station k).tg := by
        rw [reload_station]
        split
        next => exact stays
        next => rfl
      refine ⟨?_, ?_⟩
      · rw [apply, reload_conn]
        exact held.1
      · rw [apply, tg]
        exact onTg

theorem fit_same {g h : Hall} (fit : Fit h) (cfg : g.cfg = h.cfg)
    (talker : ∀ j k, g.talker j = some k → h.talker j = some k)
    (muted : ∀ k, (g.station k).muted = true → (h.station k).muted = true) : Fit g := by
  intro j bound k talks
  rw [cfg] at bound ⊢
  obtain ⟨configured, free⟩ := fit j bound k (talker j k talks)
  refine ⟨configured, ?_⟩
  cases now : (g.station k).muted with
  | false => rfl
  | true => simp [muted k now] at free

theorem fit_apply {h : Hall} {m : Move} (fit : Fit h) (sparing : Sparing h m) :
    Fit (h.apply m) := by
  cases m with
  | advance elapsed | enter c | drain c => exact fit
  | grant j k =>
      obtain ⟨configured, free⟩ := sparing
      have places := grant_places h j k
      intro i bound holder talks
      rw [apply, places.muted, places.cfg]
      rw [apply, grant_talker] at talks
      split at talks
      next =>
        cases talks
        exact ⟨configured, free⟩
      next =>
        rw [apply, places.cfg] at bound
        exact fit i bound holder talks
  | release j =>
      have places := release_places h j
      refine fit_same fit places.cfg (fun i k talks => ?_) fun k muted => ?_
      · rw [apply, release_talker] at talks
        split at talks
        next => cases talks
        next => exact talks
      · rwa [apply, places.muted] at muted
  | join c node tg =>
      refine fit_same fit rfl (fun j k talks => talks) fun k muted => ?_
      rw [apply, join_station] at muted
      split at muted <;> exact muted
  | tune c node tg =>
      refine fit_same fit rfl (fun j k talks => talks) fun k muted => ?_
      simp only [apply, tune, tell_station, setStation_station] at muted
      split at muted <;> exact muted
  | mute node c =>
      intro j bound k talks
      simp only [apply, tell_cfg, tell_station, setStation_station, talker, tell_floor]
        at bound talks ⊢
      have other : k ≠ node := by
        rintro rfl
        exact sparing j bound talks
      rw [if_neg other]
      exact fit j bound k talks
  | unmute node c =>
      refine fit_same fit (tell_cfg _ _ _) (fun j k talks => ?_) fun k muted => ?_
      · simpa only [apply, talker, tell_floor, setStation] using talks
      · simp only [apply, tell_station, setStation_station] at muted
        split at muted
        next => cases muted
        next => exact muted
  | leave c =>
      have same : (h.leave c).floor = h.floor ∧ (h.leave c).cfg = h.cfg := by
        unfold leave
        cases h.seat c <;> exact ⟨rfl, rfl⟩
      refine fit_same fit same.2 (fun j k talks => ?_) fun k muted => ?_
      · simpa only [apply, talker, same] using talks
      · simp only [apply, leave_station] at muted
        split at muted
        next => cases muted
        next => exact muted
  | reload cfg =>
      intro j bound k talks
      obtain ⟨old, configured, _⟩ := sparing j bound k ((reload_talker h cfg j) ▸ talks)
      refine ⟨configured, ?_⟩
      have muted : ((h.reload cfg).station k).muted = (h.station k).muted := by
        rw [reload_station]
        split <;> rfl
      rw [apply, muted]
      exact (fit j old k ((reload_talker h cfg j) ▸ talks)).2

end Hall

open Hall (Placed Fit Sparing)

/-! ## Safety of the daemon's floors -/

structure FloorSafe (s : State) : Prop where
  holder : ∀ j < s.cfg.tgs.length, ∀ k, (s.tgRt j).talkerNodeIdx = some k →
    k < s.cfg.nodes.length ∧ (s.nodeRt k).connected = true ∧ (s.nodeRt k).muted = false ∧
      (s.nodeRt k).curTg = s.cfg.tgNumber j
  single : ∀ i < s.cfg.tgs.length, ∀ j < s.cfg.tgs.length, ∀ k,
    (s.tgRt i).talkerNodeIdx = some k → (s.tgRt j).talkerNodeIdx = some k → i = j

theorem connected_iff {s : State} {k : Nat} :
    (s.nodeRt k).connected = true ↔ ((hall s).station k).conn ≠ none := by
  simp [NodeRt.connected, hall, NodeRt.station, Option.isSome_iff_ne_none]

theorem floorSafe_of_hall {s : State} (placed : Placed (hall s)) (fit : Fit (hall s)) :
    FloorSafe s where
  holder := by
    intro j bound k talks
    obtain ⟨online, onTg⟩ := placed j bound k talks
    obtain ⟨configured, free⟩ := fit j bound k talks
    exact ⟨configured, connected_iff.mpr online, free, (rcfgTgIdx_some onTg).2.symm⟩
  single := by
    intro i first j second k talks talks'
    have here := (placed i first k talks).2
    have there := (placed j second k talks').2
    exact Option.some.inj (here.symm.trans there)

def HoldsNone (s : State) (k : Nat) : Prop :=
  ∀ j < s.cfg.tgs.length, (s.tgRt j).talkerNodeIdx ≠ some k

instance (s : State) (k : Nat) : Decidable (HoldsNone s k) :=
  inferInstanceAs (Decidable (∀ j < s.cfg.tgs.length, (s.tgRt j).talkerNodeIdx ≠ some k))

def StaysOnReload (s : State) (newcfg : Rcfg) (k : Nat) : Prop :=
  -- The reload does not take the node off its talkgroup.
  ∀ newIdx ∈ rcfgNodeIdx newcfg (s.cfg.nodeId k),
    rcfgNodeAllowedOnTg newcfg newIdx (s.nodeRt k).curTg = true ∨
      newcfg.initialTg newIdx = (s.nodeRt k).curTg

instance (s : State) (newcfg : Rcfg) (k : Nat) : Decidable (StaysOnReload s newcfg k) :=
  inferInstanceAs (Decidable (∀ newIdx ∈ rcfgNodeIdx newcfg (s.cfg.nodeId k), _ ∨ _))

def SparesRequest (s : State) (k : Nat) : Request → Prop
  -- A muted node is not given a floor by a simulated start, and a holder is not muted for loss.
  | .simulateTalkStart =>
      (∀ j ∈ rcfgTgIdx s.cfg (s.nodeRt k).curTg, floorBusy s j k = true) ∨
        k < s.cfg.nodes.length ∧ (s.nodeRt k).muted = false
  | .quality lossPct => mutesSender s k lossPct = true → HoldsNone s k
  | _ => True

instance (s : State) (k : Nat) : (request : Request) → Decidable (SparesRequest s k request)
  | .simulateTalkStart => inferInstanceAs (Decidable (_ ∨ _ ∧ _))
  | .quality lossPct => inferInstanceAs (Decidable (mutesSender s k lossPct = true → _))
  | .untyped | .login _ | .ping _ | .pong | .setTg _ | .simulateTalkEnd | .unhandled _ =>
      isTrue trivial

def SparesReload (s : State) (newcfg : Rcfg) : Prop :=
  -- Each floor that the new configuration has is idle, or its holder stays configured and on it.
  ∀ j < newcfg.tgs.length, ∀ k ∈ (s.tgRt j).talkerNodeIdx,
    j < s.cfg.tgs.length ∧ k < newcfg.nodes.length ∧ StaysOnReload s newcfg k ∧
      rcfgTgIdx newcfg (s.nodeRt k).curTg = some j

instance (s : State) (newcfg : Rcfg) : Decidable (SparesReload s newcfg) :=
  inferInstanceAs (Decidable (∀ j < newcfg.tgs.length, ∀ k ∈ (s.tgRt j).talkerNodeIdx, _ ∧ _))

def seatOf (s : State) (c : Nat) : Option Nat :=
  (s.conns c).bind Conn.nodeIdx

def SparesEvent (s : State) : Event → Prop
  | .wsMsg c frame _ => ∀ k ∈ seatOf s c, SparesRequest s k frame.request
  | .admin nodeId (.mute _) => ∀ k ∈ nodeId.bind (rcfgNodeIdx s.cfg), HoldsNone s k
  | .reload loaded => ∀ newcfg ∈ loaded, SparesReload s newcfg
  | _ => True

instance (s : State) : (e : Event) → Decidable (SparesEvent s e)
  | .wsMsg c frame _ =>
      inferInstanceAs (Decidable (∀ k ∈ seatOf s c, SparesRequest s k frame.request))
  | .admin nodeId (.mute _) =>
      inferInstanceAs (Decidable (∀ k ∈ nodeId.bind (rcfgNodeIdx s.cfg), HoldsNone s k))
  | .reload loaded => inferInstanceAs (Decidable (∀ newcfg ∈ loaded, SparesReload s newcfg))
  | .wsOpen _ _ | .close _ | .datagram _ | .floorTick | .keepaliveTick
  | .admin _ (.kick _) | .admin _ .unmute | .adminReleaseFloor _ => isTrue trivial

def SparesFloors (s : State) (timed : Moment × Event) : Prop :=
  -- The step leaves no floor with a node that has lost the right to it.
  SparesEvent (s.at timed.1) timed.2

instance (s : State) (timed : Moment × Event) : Decidable (SparesFloors s timed) :=
  inferInstanceAs (Decidable (SparesEvent _ _))

theorem seatOf_some {s : State} {c k : Nat} {cs : Conn} (here : s.conns c = some cs)
    (state : cs.state = .authenticated k) : seatOf s c = some k := by
  simp [seatOf, here, Conn.nodeIdx, state]

theorem tgAfter_stays {s : State} {newcfg : Rcfg} {k : Nat} (stays : StaysOnReload s newcfg k) :
    Hall.tgAfter newcfg (hall s) k = (s.nodeRt k).curTg := by
  have tg : ((hall s).station k).tg = (s.nodeRt k).curTg := rfl
  have cfg : (hall s).cfg = s.cfg := rfl
  unfold Hall.tgAfter
  rw [tg, cfg]
  cases found : rcfgNodeIdx newcfg (s.cfg.nodeId k) with
  | none => rfl
  | some newIdx =>
      simp only
      split
      next => rfl
      next mayNot => exact (stays newIdx found).resolve_left mayNot

theorem sparing_plain {m : Move} (plain : m.plain = true) (h : Hall) : Sparing h m := by
  cases m with
  | grant | mute | reload => cases plain
  | _ => trivial

theorem sparing_moves {s : State} {timed : Moment × Event} (spares : SparesFloors s timed) :
    Guarded Hall.apply Sparing (hall s) (stepMoves s timed) := by
  refine ⟨trivial, ?_⟩
  obtain ⟨m, e⟩ := timed
  rw [← hall_at]
  change SparesEvent (s.at m) e at spares
  generalize s.at m = t at *
  have shape := moves_shape t e
  generalize moves t e = ms at shape ⊢
  cases shape with
  | plain only => exact Machine.guarded_of_forall _ (fun m member => sparing_plain (only m member)) _
  | @grant j k talks onTg free =>
      refine ⟨?_, trivial⟩
      cases talks with
      | audio _ sender unmuted _ => exact ⟨(findSender_some sender).1, unmuted⟩
      | @simulated c _ cs frame draw here state _ asks =>
          have fit := spares k (seatOf_some here state)
          rw [asks] at fit
          refine fit.resolve_left fun busy => ?_
          simp [busy j onTg] at free
  | @mute k c mutes =>
      refine ⟨?_, trivial⟩
      cases mutes with
      | @loss c _ cs frame draw lossPct here state reports trips =>
          have holdsNone := spares k (seatOf_some here state)
          rw [reports] at holdsNone
          exact holdsNone trips
      | operator known => exact spares k known
  | @reload cfg loaded =>
      subst loaded
      refine ⟨fun j bound k talks => ?_, trivial⟩
      obtain ⟨old, configured, stays, onTg⟩ := spares cfg rfl j bound k talks
      exact ⟨old, configured, tgAfter_stays stays, onTg⟩

def FloorInv (s : State) : Prop :=
  -- What the daemon's own checks keep, and what they keep when floors are spared.
  Seated (hall s) ∧ Placed (hall s) ∧ Fit (hall s)

theorem floorInv_step (s : State) (timed : Moment × Event) (inv : FloorInv s)
    (spares : SparesFloors s timed) : FloorInv (step s timed) := by
  obtain ⟨seated, placed, fit⟩ := inv
  refine ⟨seated_step s timed seated, ?_⟩
  rw [hall_step]
  have both := Machine.guarded_and _ (stepMoves_allowed s timed seated) (sparing_moves spares)
  refine Machine.run_invariant (P := fun h => Placed h ∧ Fit h) _ ?_ ⟨placed, fit⟩ both
  intro h m held ok
  refine ⟨Hall.placed_apply held.1 ok.1 ?_, Hall.fit_apply held.2 ok.2⟩
  rintro cfg rfl
  exact ok.2

theorem idle_init (cfg : Rcfg) (bootMs : Nat) {j k : Nat} (bound : j < cfg.tgs.length)
    (talks : ((State.init cfg bootMs).tgRt j).talkerNodeIdx = some k) : False := by
  simp [State.init, bound] at talks

theorem floorInv_init (cfg : Rcfg) (bootMs : Nat) : FloorInv (State.init cfg bootMs) :=
  ⟨seated_init cfg bootMs,
    fun _ bound _ talks => (idle_init cfg bootMs bound talks).elim,
    fun _ bound _ talks => (idle_init cfg bootMs bound talks).elim⟩

/-! ## How a holder loses the floor -/

def LetsGo (s : State) (e : Event) (j k : Nat) : Prop :=
  -- The event releases the floor for the holder, or is the holder leaving.
  match e with
  | .adminReleaseFloor tg => rcfgTgIdx s.cfg (tg % 65536).toNat = some j
  | .wsMsg c frame _ =>
      seatOf s c = some k ∧
        (frame.request = .simulateTalkEnd ∨ ∃ tg, frame.request = .setTg tg)
  | .close c => seatOf s c = some k
  | _ => False

theorem leave_floor (h : Hall) (c : Nat) : (h.leave c).floor = h.floor := by
  unfold Hall.leave
  cases h.seat c <;> rfl

theorem floor_plain {h : Hall} {m : Move} (plain : m.plain = true) {j : Nat}
    (spared : m ≠ .release j) : (h.apply m).floor j = h.floor j := by
  cases m with
  | grant | mute | reload => cases plain
  | advance | enter | drain => rfl
  | join c node tg => rfl
  | tune c node tg => rfl
  | unmute node c => exact congrFun (Hall.tell_floor _ _ _) j
  | leave c => exact congrFun (leave_floor h c) j
  | release i =>
      have other : j ≠ i := by
        rintro rfl
        exact spared rfl
      exact Hall.release_floor h other

theorem floor_plains {h : Hall} {ms : List Move} (plain : ∀ m ∈ ms, m.plain = true) {j : Nat}
    (spared : .release j ∉ ms) : (run Hall.apply h ms).floor j = h.floor j := by
  induction ms generalizing h with
  | nil => rfl
  | cons m rest ih =>
      refine (ih (fun m member => plain m (List.mem_cons_of_mem _ member))
        fun member => spared (List.mem_cons_of_mem _ member)).trans ?_
      exact floor_plain (plain m (List.mem_cons_self ..)) fun at_ => spared (at_ ▸ List.mem_cons_self ..)

theorem release_mem_releaseMoves {s : State} {k i j : Nat} (member : .release j ∈ releaseMoves s k i) :
    (hall s).talker j = some k := by
  obtain rfl : j = i := by simpa using mem_releaseMoves member
  unfold releaseMoves at member
  split at member
  next held => exact holds_iff.mp held
  next => cases member

theorem release_mem_request {s : State} {c k j : Nat} {request : Request}
    (member : .release j ∈ requestMoves s c k request) :
    (hall s).talker j = some k ∧ (request = .simulateTalkEnd ∨ ∃ tg, request = .setTg tg) := by
  -- A message releases only its sender's floors.
  cases request with
  | setTg tg =>
      refine ⟨?_, Or.inr ⟨tg, rfl⟩⟩
      simp only [requestMoves] at member
      split at member
      next => cases member
      next =>
        have released : .release j ∈ releaseOldMoves s k tg.toNat := by simpa using member
        unfold releaseOldMoves at released
        split at released
        next =>
          split at released
          next => exact release_mem_releaseMoves released
          next => cases released
        next => cases released
  | simulateTalkEnd =>
      refine ⟨?_, Or.inl rfl⟩
      simp only [requestMoves] at member
      split at member
      next => cases member
      next => exact release_mem_releaseMoves member
  | simulateTalkStart =>
      simp only [requestMoves, talkMoves, grantMoves] at member
      repeat' split at member
      all_goals simp at member
  | quality lossPct =>
      simp only [requestMoves] at member
      split at member <;> simp at member
  | _ => simp [requestMoves] at member

theorem release_mem_receive {s : State} {c j k : Nat} {frame : Frame} {draw : LoginDraw}
    (member : .release j ∈ receiveMoves s c frame draw) (talks : (hall s).talker j = some k) :
    LetsGo s (.wsMsg c frame draw) j k := by
  unfold receiveMoves at member
  cases here : s.conns c with
  | none => simp [here] at member
  | some cs =>
      simp only [here] at member
      split at member
      next => simp at member
      next =>
        unfold messageMoves at member
        cases state : cs.state with
        | awaitingLogin =>
            rw [state] at member
            cases request : frame.request with
            | untyped =>
                rw [request] at member
                simp only at member
                split at member <;> simp at member
            | login body =>
                rw [request] at member
                cases checked : loginCheck s body draw <;> simp [checked] at member
            | _ =>
                rw [request] at member
                simp at member
        | authenticated node =>
            rw [state] at member
            have asked : .release j ∈ requestMoves s c node frame.request := by
              cases request : frame.request with
              | untyped =>
                  rw [request] at member
                  simp only at member
                  split at member <;> simp at member
              | login body =>
                  rw [request] at member
                  simp at member
              | _ =>
                  rw [request] at member
                  exact member
            obtain ⟨held, ends⟩ := release_mem_request asked
            obtain rfl : node = k := Option.some.inj (held.symm.trans talks)
            exact ⟨seatOf_some here state, ends⟩

theorem close_keeps {s : State} {c j k : Nat} (talks : (hall s).talker j = some k)
    (stays : seatOf s c ≠ some k) : (hall (closeConn s c)).talker j = some k := by
  rw [hall_closeConn]
  unfold closeMoves
  cases here : s.conns c with
  | none => exact talks
  | some cs =>
      cases state : cs.state with
      | awaitingLogin =>
          simp only [state, Machine.run_cons, Machine.run_nil, Hall.apply, Hall.talker, leave_floor]
          exact talks
      | authenticated node =>
          have other : node ≠ k := by
            rintro rfl
            exact stays (seatOf_some here state)
          have released : (hall (releaseAllOf s node)).talker j = some k := by
            refine Machine.run_holds (P := fun t => (hall t).talker j = some k) _
              (fun t i held => ?_) talks
            rw [hall_releaseHeld]
            unfold releaseMoves
            cases holding : holds t node i with
            | false => exact held
            | true =>
                -- Slot `j` belongs to another node, so another slot is released.
                have elsewhere : j ≠ i := by
                  rintro rfl
                  exact other (Option.some.inj ((holds_iff.mp holding).symm.trans held))
                refine (congrArg TgRt.talkerNodeIdx ?_).trans held
                exact Hall.release_floor _ elsewhere
          simp only [state, Machine.run_append, ← hall_releaseAllOf, Machine.run_cons,
            Machine.run_nil, Hall.apply, Hall.talker, leave_floor]
          exact released

theorem floorTick_keeps {s : State} {j : Nat} (running : s.nowMs < (s.tgRt j).leaseExpiresMs) :
    (hall (floorTick s)).floor j = (hall s).floor j := by
  refine (Machine.run_holds
    (P := fun t => (hall t).floor j = (hall s).floor j ∧ (hall t).now = (hall s).now) _
    (fun t i same => ?_) ⟨rfl, rfl⟩).1
  cases expired : (t.tgRt i).expired t.nowMs with
  | false => exact same
  | true =>
      simp only [if_true]
      rw [hall_floorRelease]
      have elsewhere : j ≠ i := by
        rintro rfl
        have lease : (t.tgRt j).leaseExpiresMs = (s.tgRt j).leaseExpiresMs :=
          congrArg TgRt.leaseExpiresMs same.1
        have now : t.nowMs = s.nowMs := same.2
        simp only [TgRt.expired, Bool.and_eq_true, decide_eq_true_eq] at expired
        omega
      exact ⟨(Hall.release_floor _ elsewhere).trans same.1, (Hall.release_places _ i).now.trans same.2⟩

theorem release_mem_moves {s : State} {e : Event} {j k : Nat} (member : .release j ∈ moves s e)
    (talks : (hall s).talker j = some k) (notTick : e ≠ .floorTick) (notClose : ∀ c, e ≠ .close c) :
    LetsGo s e j k := by
  cases e with
  | wsOpen c challenge =>
      simp only [moves, openMoves] at member
      repeat' split at member
      all_goals simp at member
  | wsMsg c frame draw => exact release_mem_receive member talks
  | close c => exact absurd rfl (notClose c)
  | datagram d =>
      simp only [moves, datagramMoves, authFailMoves, talkMoves, grantMoves] at member
      repeat' split at member
      all_goals simp at member
  | floorTick => exact absurd rfl notTick
  | keepaliveTick => simp [moves] at member
  | reload loaded => cases loaded <;> simp [moves] at member
  | admin nodeId action =>
      simp only [moves, adminMoves] at member
      repeat' split at member
      all_goals simp at member
  | adminReleaseFloor tg =>
      have found : rcfgTgIdx s.cfg (tg % 65536).toNat = some j := by
        simpa [moves, eq_comm] using member
      exact found

theorem holder_keeps {s : State} {e : Event} {j k : Nat} (talks : (hall s).talker j = some k)
    (running : s.nowMs < (s.tgRt j).leaseExpiresMs) (held : ¬ LetsGo s e j k) :
    (hall (handle s e)).talker j = some k := by
  -- While its lease runs, a node keeps the floor unless the event lets go of it.
  by_cases tick : e = .floorTick
  · subst tick
    exact (congrArg TgRt.talkerNodeIdx (floorTick_keeps running)).trans talks
  by_cases closes : ∃ c, e = .close c
  · obtain ⟨c, rfl⟩ := closes
    exact close_keeps talks held
  have kept : .release j ∉ moves s e := fun member =>
    held (release_mem_moves member talks tick fun c same => closes ⟨c, same⟩)
  rw [hall_handle]
  have shape := moves_shape s e
  generalize moves s e = ms at shape kept ⊢
  cases shape with
  | plain only => exact (congrArg TgRt.talkerNodeIdx (floor_plains only kept)).trans talks
  | @grant i node _ _ free =>
      simp only [Machine.run_cons, Machine.run_nil, Hall.apply, Hall.grant_talker]
      split
      next at_ =>
        subst at_
        by_contra other
        have late := floorBusy_false free talks fun same => other (by rw [same])
        have running : (hall s).now < ((hall s).floor j).leaseExpiresMs := running
        omega
      next => exact talks
  | @mute node c _ =>
      simpa [Hall.apply, Hall.talker, Hall.tell_floor, Hall.setStation] using talks
  | @reload cfg _ => simpa [Hall.apply, Hall.reload_talker] using talks

/-! ## Whole runs -/

def EndsHold (s : State) (timed : Moment × Event) (j k : Nat) : Prop :=
  -- The step takes the floor of slot `j` from node `k` for one of the reasons that may.
  (s.tgRt j).leaseExpiresMs ≤ (s.at timed.1).nowMs ∨ LetsGo (s.at timed.1) timed.2 j k

/-- Between two states of a run where different nodes have a floor, the first let it go or let its
lease run out. -/
def HoldersEnd (s : State) (inputs : List (Moment × Event)) : Prop :=
  ∀ first second j k k', inputs = first ++ second →
    ((run step s first).tgRt j).talkerNodeIdx = some k →
    ((run step s inputs).tgRt j).talkerNodeIdx = some k' → k' ≠ k →
    ∃ before timed after, second = before ++ timed :: after ∧
      ((run step s (first ++ before)).tgRt j).talkerNodeIdx = some k ∧
      EndsHold (run step s (first ++ before)) timed j k

theorem holders_end (s : State) (inputs : List (Moment × Event)) : HoldersEnd s inputs := by
  rintro first second j k k' rfl talks talks' other
  rw [Machine.run_append] at talks'
  obtain ⟨before, timed, after, split, held, lost⟩ := Machine.exists_breaking_step step
    (P := fun t => (t.tgRt j).talkerNodeIdx = some k) talks fun same =>
      other (Option.some.inj (talks'.symm.trans same))
  refine ⟨before, timed, after, split, by rw [Machine.run_append]; exact held, ?_⟩
  rw [Machine.run_append]
  by_contra stays
  obtain ⟨running, kept⟩ := not_or.mp stays
  exact lost (holder_keeps (s := (run step (run step s first) before).at timed.1) held
    (Int.not_le.mp running) kept)

theorem floors_safe_when_spared (cfg : Rcfg) (bootMs : Nat) (inputs : List (Moment × Event))
    (spared : Guarded step SparesFloors (State.init cfg bootMs) inputs) :
    FloorSafe (run step (State.init cfg bootMs) inputs) ∧
      HoldersEnd (State.init cfg bootMs) inputs := by
  obtain ⟨_, placed, fit⟩ :=
    Machine.run_invariant step floorInv_step (floorInv_init cfg bootMs) spared
  exact ⟨floorSafe_of_hall placed fit, holders_end _ _⟩

/-! ## A small site -/

def site (nodes : List RcfgNode) (tgs : List RcfgTg)
    (numbered : ∀ t ∈ tgs, 0 < t.number ∧ t.number ≤ 65535)
    (membersConfigured : ∀ t ∈ tgs, ∀ p ∈ t.memberNodeIdxs, p < nodes.length) : Rcfg where
  nodes := nodes
  tgs := tgs
  keepaliveS := 15
  hangtimeMs := 1500
  minClientVersion := ""
  muteThresholdPct := 15
  authFailKick := 200
  rtpPort := 7878
  rtpAdvertiseHost := "192.0.2.1"
  numbered := numbered
  membersConfigured := membersConfigured

def after (ms : Nat) : Moment where
  elapsed := ms
  time := 0

def signIn (c : Nat) (id : String) : List (Moment × Event) :=
  -- Open a connection and log in with the node's key.
  [(after 0, .wsOpen c (some (List.replicate 16 3))),
    (after 0, .wsMsg c
      { len := 300
        request := .login {
          nodeId := some id
          keyHmac := some (String.ofList (List.replicate 64 'a'))
          nonce := some (String.ofList (List.replicate 32 '0'))
          clientVersion := some "kerchunk 1.0" } }
      { hmacMatches := true
        srtp := some {
          masterKey := List.replicate 16 1
          masterSalt := List.replicate 14 2
          nodeSsrc := 1000 + c
          reflSsrc := 2000 + c }
        rtpStart := some (0, 0) })]

def rtp (k payloadType : Nat) : Datagram where
  -- A voice packet from node `k`, or with payload type 99 its address only.
  src := k
  len := 200
  rtpVersion := 2
  unprotect := fun i =>
    if i = k then
      some { len := 190, payloadType := payloadType, header := by decide, fits := by decide }
    else none
  delivers := fun _ => true

def packet (k payloadType : Nat) : Event :=
  .datagram (rtp k payloadType)

def request (c : Nat) (r : Request) : Event :=
  .wsMsg c { len := 60, request := r } { hmacMatches := false, srtp := none, rtpStart := none }

def roster : Rcfg :=
  site
    [{ id := "A", allowedTgs := [1, 2], defaultTg := 1, banned := false },
      { id := "B", allowedTgs := [1, 2], defaultTg := 1, banned := false }]
    [{ number := 1, name := "One", memberNodeIdxs := [0, 1] },
      { number := 2, name := "Two", memberNodeIdxs := [0, 1] }] (by decide) (by decide)

def rosterMoved : Rcfg :=
  -- Node A may from now on use the second talkgroup only.
  site
    [{ id := "A", allowedTgs := [2], defaultTg := 2, banned := false },
      { id := "B", allowedTgs := [1, 2], defaultTg := 1, banned := false }]
    [{ number := 1, name := "One", memberNodeIdxs := [1] },
      { number := 2, name := "Two", memberNodeIdxs := [0, 1] }] (by decide) (by decide)

/-- The reload moves the talker to another talkgroup and leaves it the floor of the old one. -/
theorem moved_talker_not_safe :
    ¬ FloorSafe (run step (State.init roster 0)
      (signIn 0 "A" ++ [(after 100, packet 0 100), (after 60, .reload (some rosterMoved))])) := by
  intro safe
  obtain ⟨_, _, _, onTg⟩ := safe.holder 0 (by decide) 0 (by decide)
  exact absurd onTg (by decide)

/-- Two nodes sign in, the first talks past its lease, is released and the second talks. -/
theorem floors_safe_handover :
    FloorSafe (run step (State.init roster 0)
      (signIn 0 "A" ++ signIn 1 "B" ++
        [(after 100, packet 0 100), (after 1600, .floorTick), (after 0, packet 1 100),
          (after 5, .admin (some "A") (.mute 60)), (after 0, .reload (some roster))])) :=
  (floors_safe_when_spared roster 0 _ (by decide)).1

end Kerchunk.Reflectd
