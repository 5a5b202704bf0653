import Kerchunk.Reflectd.FloorSafety

set_option autoImplicit false

/-!
# The session fields of the reflector (`src/reflectd/main.c`)

What `State` keeps as one session of a node, and one state of a connection, is here as the source keeps
it: `connected`, `c` and `audio` of a node's runtime, `state` and `node_idx` of a connection, each
tested and set on its own.
-/

namespace Kerchunk.Reflectd

open Link (Login Request)

structure Slot where
  connected : Bool
  c : Option Nat
  audio : Option AudioNode

inductive PeerState where
  | awaitingLogin
  | authenticated
deriving DecidableEq

/-- `nodeIdx` is `none` for -1. -/
structure Peer where
  state : PeerState
  nodeIdx : Option Nat

structure Slots where
  cfg : Rcfg
  node : Nat → Slot
  conn : Nat → Option Peer

namespace Slots

def init (cfg : Rcfg) : Slots where
  cfg := cfg
  node := fun _ => { connected := false, c := none, audio := none }
  conn := fun _ => none

def setNode (t : Slots) (idx : Nat) (slot : Slot) : Slots :=
  { t with node := Function.update t.node idx slot }

def setConn (t : Slots) (c : Nat) (peer : Option Peer) : Slots :=
  { t with conn := Function.update t.conn c peer }

def wsOpen (t : Slots) (c : Nat) : Slots :=
  match t.conn c with
  | some _ => t
  | none => t.setConn c (some { state := .awaitingLogin, nodeIdx := none })

/-- The checks of `handle_login` in their order; the last two are the random bytes and the SRTP
session. -/
def loginCheck (t : Slots) (body : Login) (draw : LoginDraw) : Except Denial Admission := do
  let nodeId ← require body.nodeId .protocolError "missing field"
  let keyHmac ← require body.keyHmac .protocolError "missing field"
  let nonce ← require body.nonce .protocolError "missing field"
  let idx ← require (rcfgNodeIdx t.cfg nodeId) .unknownNode "no such node"
  refuse (t.cfg.banned idx) .banned "operator-banned"
  refuse (t.node idx).connected .nodeBusy "already connected"
  refuse (!versionAtLeast body.clientVersion t.cfg.minClientVersion) .versionMismatch
    "client below min_client_version"
  refuse (!(isHexOf Link.nonceBytes nonce && isHexOf Link.hmacBytes keyHmac)) .protocolError
    "bad nonce/hmac"
  refuse (!draw.hmacMatches) .badKey "HMAC mismatch"
  let tg := t.cfg.initialTg idx
  refuse (!rcfgNodeAllowedOnTg t.cfg idx tg) .notAuthorized "no usable default talkgroup"
  let srtp ← require draw.srtp .internal "RAND_bytes"
  let (outSeq, outTs) ← require draw.rtpStart .internal "srtp setup"
  return {
    nodeIdx := idx
    tg := tg
    srtp := srtp
    audio :=
      { nodeSsrc := srtp.nodeSsrc, reflectorSsrc := srtp.reflSsrc
        outSeq := outSeq, outTs := outTs, rtpAddr := none } }

def handleLogin (t : Slots) (c : Nat) (body : Login) (draw : LoginDraw) : Slots :=
  -- A denied login writes none of these fields.
  match t.loginCheck body draw with
  | .error _ => t
  | .ok a =>
      (t.setConn c (some { state := .authenticated, nodeIdx := some a.nodeIdx })).setNode a.nodeIdx
        { connected := true, c := some c, audio := some a.audio }

def receive (t : Slots) (c : Nat) (frame : Frame) (draw : LoginDraw) : Slots :=
  match t.conn c with
  | none => t
  | some cs =>
      if Link.maxMsg < frame.len then t
      else
        match frame.request, cs.state with
        | .login body, .awaitingLogin => t.handleLogin c body draw
        | _, _ => t

def clearNode (t : Slots) : Option Nat → Slots
  | none => t
  | some idx => t.setNode idx { connected := false, c := none, audio := none }

def close (t : Slots) (c : Nat) : Slots :=
  match t.conn c with
  | none => t
  | some cs => (t.clearNode cs.nodeIdx).setConn c none

def handle (t : Slots) : Event → Slots
  | .wsOpen c _ => t.wsOpen c
  | .wsMsg c frame draw => t.receive c frame draw
  | .close c => t.close c
  | .reload (some newcfg) => { t with cfg := newcfg }
  | _ => t

def seat (t : Slots) (c : Nat) : Option Nat :=
  (t.conn c).bind Peer.nodeIdx

def Authenticated (t : Slots) (c nodeIdx : Nat) : Prop :=
  ∃ cs, t.conn c = some cs ∧ cs.state = .authenticated ∧ cs.nodeIdx = some nodeIdx

/-! ## What the fields say of each other -/

/-- A node's fields are set together, and a node and its connection point at each other. -/
structure Paired (t : Slots) : Prop where
  marked : ∀ k, (t.node k).connected = (t.node k).c.isSome
  heard : ∀ k, (t.node k).audio.isSome = (t.node k).c.isSome
  back : ∀ c k, t.seat c = some k ↔ (t.node k).c = some c
  admitted : ∀ c cs, t.conn c = some cs → (cs.state = .authenticated ↔ cs.nodeIdx ≠ none)

theorem init_paired (cfg : Rcfg) : (init cfg).Paired := by
  constructor <;> simp [init, seat]

theorem setConn_seat (t : Slots) (c d : Nat) (peer : Option Peer) :
    (t.setConn c peer).seat d = if d = c then peer.bind Peer.nodeIdx else t.seat d := by
  by_cases same : d = c
  next => simp [seat, setConn, same]
  next => simp [seat, setConn, same]

theorem Paired.admitted_setConn {t : Slots} (paired : t.Paired) {c : Nat} {peer : Option Peer}
    (admitted : ∀ cs ∈ peer, cs.state = .authenticated ↔ cs.nodeIdx ≠ none) :
    ∀ d cs, (t.setConn c peer).conn d = some cs →
      (cs.state = .authenticated ↔ cs.nodeIdx ≠ none) := by
  intro d cs known
  by_cases same : d = c
  next =>
    simp only [setConn, same, Function.update_self] at known
    exact admitted cs known
  next =>
    simp only [setConn, Function.update_of_ne same] at known
    exact paired.admitted d cs known

@[simp] theorem setConn_node (t : Slots) (c : Nat) (peer : Option Peer) :
    (t.setConn c peer).node = t.node := rfl

@[simp] theorem setNode_seat (t : Slots) (idx : Nat) (slot : Slot) (c : Nat) :
    (t.setNode idx slot).seat c = t.seat c := rfl

theorem setNode_node (t : Slots) (idx k : Nat) (slot : Slot) :
    (t.setNode idx slot).node k = if k = idx then slot else t.node k :=
  Function.update_apply ..

theorem wsOpen_paired {t : Slots} (paired : t.Paired) (c : Nat) : (t.wsOpen c).Paired := by
  rw [wsOpen]
  cases here : t.conn c with
  | some cs => exact paired
  | none =>
    have empty : t.seat c = none := by simp [seat, here]
    constructor
    case marked => exact paired.marked
    case heard => exact paired.heard
    case back =>
      intro d k
      rw [setConn_seat]
      split
      next same =>
        subst same
        have before := paired.back d k
        rw [empty] at before
        exact before
      next => exact paired.back d k
    case admitted => exact paired.admitted_setConn (by simp)

theorem loginCheck_ok {t : Slots} {body : Login} {draw : LoginDraw} {a : Admission}
    (accepted : t.loginCheck body draw = .ok a) :
    (t.node a.nodeIdx).connected = false ∧
      ∃ nodeId, rcfgNodeIdx t.cfg nodeId = some a.nodeIdx := by
  simp only [loginCheck, require_bind, refuse_bind] at accepted
  obtain ⟨nodeId, _, _, _, _, _, idx, found, _, free, _, _, _, _, _, _, _, _, done⟩ := accepted
  cases done
  exact ⟨free, nodeId, found⟩

theorem handleLogin_paired {t : Slots} (paired : t.Paired) {c : Nat} (waiting : t.seat c = none)
    (body : Login) (draw : LoginDraw) : (t.handleLogin c body draw).Paired := by
  rw [handleLogin]
  cases checked : t.loginCheck body draw with
  | error denial => exact paired
  | ok a =>
    have free : (t.node a.nodeIdx).c = none := by
      have offline := (loginCheck_ok checked).1
      rw [paired.marked] at offline
      simpa using offline
    constructor
    case marked =>
      intro k
      rw [setNode_node]
      split
      next => rfl
      next => exact paired.marked k
    case heard =>
      intro k
      rw [setNode_node]
      split
      next => rfl
      next => exact paired.heard k
    case back =>
      intro d k
      rw [setNode_seat, setConn_seat, setNode_node, setConn_node]
      have here := paired.back c k
      have there := paired.back d a.nodeIdx
      have rest := paired.back d k
      by_cases mine : d = c <;> by_cases node : k = a.nodeIdx <;> grind
    case admitted => exact paired.admitted_setConn (by simp)

theorem seat_awaiting {t : Slots} (paired : t.Paired) {c : Nat} {cs : Peer}
    (here : t.conn c = some cs) (waiting : cs.state = .awaitingLogin) : t.seat c = none := by
  have admitted := paired.admitted c cs here
  rw [seat, here, Option.bind_some]
  by_contra seated
  rw [waiting] at admitted
  cases admitted.mpr seated

theorem receive_paired {t : Slots} (paired : t.Paired) (c : Nat) (frame : Frame)
    (draw : LoginDraw) : (t.receive c frame draw).Paired := by
  rw [receive]
  cases here : t.conn c with
  | none => exact paired
  | some cs =>
    simp only
    split
    next => exact paired
    next =>
      split
      next body _ waiting => exact handleLogin_paired paired (seat_awaiting paired here waiting) body draw
      next => exact paired

theorem clearNode_node {t : Slots} (paired : t.Paired) {c : Nat} {cs : Peer}
    (here : t.conn c = some cs) (k : Nat) : (t.clearNode cs.nodeIdx).node k =
      if (t.node k).c = some c then { connected := false, c := none, audio := none } else t.node k := by
  -- The node that a connection's index names is the one that points to it.
  have back := paired.back c k
  rw [seat, here, Option.bind_some] at back
  cases index : cs.nodeIdx with
  | none =>
    rw [index] at back
    rw [if_neg (fun points => by cases back.mpr points)]
    rfl
  | some idx =>
    rw [index, Option.some.injEq] at back
    rw [clearNode, setNode_node]
    by_cases same : k = idx
    next => rw [if_pos same, if_pos (back.mp same.symm)]
    next => rw [if_neg same, if_neg (fun points => same (back.mpr points).symm)]

theorem clearNode_conn (t : Slots) (index : Option Nat) : (t.clearNode index).conn = t.conn := by
  cases index <;> rfl

theorem close_paired {t : Slots} (paired : t.Paired) (c : Nat) : (t.close c).Paired := by
  rw [close]
  cases here : t.conn c with
  | none => exact paired
  | some cs =>
    have node := clearNode_node paired here
    have conn := clearNode_conn t cs.nodeIdx
    constructor
    case marked =>
      intro k
      rw [setConn_node, node]
      split
      next => rfl
      next => exact paired.marked k
    case heard =>
      intro k
      rw [setConn_node, node]
      split
      next => rfl
      next => exact paired.heard k
    case back =>
      intro d k
      have same : (t.clearNode cs.nodeIdx).seat d = t.seat d := by rw [seat, conn, seat]
      have rest := paired.back d k
      rw [setConn_seat, setConn_node, node, same]
      by_cases mine : d = c
      next =>
        rw [if_pos mine, mine]
        split
        next => simp
        next other => simp [other]
      next =>
        rw [if_neg mine]
        split
        next points => simp [rest, points, Ne.symm mine]
        next => exact rest
    case admitted =>
      intro d cs' known
      simp only [setConn, conn] at known
      exact paired.admitted_setConn (by simp) d cs' known

theorem handle_paired {t : Slots} (paired : t.Paired) (e : Event) : (t.handle e).Paired := by
  cases e with
  | wsOpen c challenge => exact wsOpen_paired paired c
  | wsMsg c frame draw => exact receive_paired paired c frame draw
  | close c => exact close_paired paired c
  | reload loaded =>
    cases loaded with
    | none => exact paired
    | some newcfg => exact ⟨paired.marked, paired.heard, paired.back, paired.admitted⟩
  | _ => exact paired

/-! ## One session for a node -/

/-- What the fields promise while the configuration stays: a node id is behind at most one authenticated
connection, and a node counts as connected exactly when its connection and its audio session are set
and the connection points back to it. -/
structure OneSession (t : Slots) : Prop where
  unique : ∀ c d j k, t.Authenticated c j → t.Authenticated d k →
    t.cfg.nodeId j = t.cfg.nodeId k → c = d
  connected : ∀ k, (t.node k).connected = true ↔ ∃ c, (t.node k).c = some c ∧
    (t.node k).audio.isSome ∧ t.Authenticated c k
  cleared : ∀ k, (t.node k).connected = false → (t.node k).c = none ∧ (t.node k).audio = none

/-- A close clears the node of its own connection and no other. -/
def Spares (t : Slots) (e : Event) : Prop :=
  ∀ c, e = .close c → ∀ k, (t.node k).c ≠ some c → (t.handle e).node k = t.node k

/-- A connection sits at the first place of its node id. -/
def Placed (t : Slots) : Prop :=
  ∀ c k, t.seat c = some k → rcfgNodeIdx t.cfg (t.cfg.nodeId k) = some k

theorem authenticated_iff {t : Slots} (paired : t.Paired) {c k : Nat} :
    t.Authenticated c k ↔ t.seat c = some k := by
  constructor
  next =>
    rintro ⟨cs, here, _, index⟩
    rw [seat, here, Option.bind_some, index]
  next =>
    intro seated
    obtain ⟨cs, here, index⟩ := Option.bind_eq_some_iff.mp seated
    exact ⟨cs, here, (paired.admitted c cs here).mpr (by simp [index]), index⟩

theorem Paired.oneSession {t : Slots} (paired : t.Paired) (placed : t.Placed) : t.OneSession := by
  constructor
  case unique =>
    intro c d j k first second same
    have first := (authenticated_iff paired).mp first
    have second := (authenticated_iff paired).mp second
    have place := placed c j first
    rw [same, placed d k second] at place
    obtain rfl := Option.some.inj place
    have here := (paired.back c k).mp first
    rw [(paired.back d k).mp second] at here
    exact (Option.some.inj here).symm
  case connected =>
    intro k
    rw [paired.marked, paired.heard]
    constructor
    next =>
      intro set
      obtain ⟨c, points⟩ := Option.isSome_iff_exists.mp set
      exact ⟨c, points, set, (authenticated_iff paired).mpr ((paired.back c k).mpr points)⟩
    next =>
      rintro ⟨c, _, set, _⟩
      exact set
  case cleared =>
    intro k offline
    have marked := paired.marked k
    have heard := paired.heard k
    rw [offline] at marked
    rw [← marked] at heard
    exact ⟨by simpa using marked.symm, by simpa using heard⟩

theorem Paired.spares {t : Slots} (paired : t.Paired) (e : Event) : t.Spares e := by
  rintro c rfl k other
  rw [handle, close]
  cases here : t.conn c with
  | none => rfl
  | some cs => rw [setConn_node, clearNode_node paired here, if_neg other]

theorem handleLogin_seat {t : Slots} {c d k : Nat} {body : Login} {draw : LoginDraw}
    (seated : (t.handleLogin c body draw).seat d = some k) :
    t.seat d = some k ∨ ∃ nodeId, rcfgNodeIdx t.cfg nodeId = some k := by
  rw [handleLogin] at seated
  cases checked : t.loginCheck body draw with
  | error denial =>
    rw [checked] at seated
    exact .inl seated
  | ok a =>
    rw [checked] at seated
    simp only [setNode_seat, setConn_seat] at seated
    split at seated
    next =>
      obtain rfl : a.nodeIdx = k := Option.some.inj seated
      exact .inr (loginCheck_ok checked).2
    next => exact .inl seated

theorem handle_seat {t : Slots} {e : Event} (noReload : e.loaded = none) {c k : Nat}
    (seated : (t.handle e).seat c = some k) :
    t.seat c = some k ∨ ∃ nodeId, rcfgNodeIdx t.cfg nodeId = some k := by
  cases e with
  | wsOpen d challenge =>
    rw [handle, wsOpen] at seated
    split at seated
    next => exact .inl seated
    next =>
      rw [setConn_seat] at seated
      split at seated
      next => cases seated
      next => exact .inl seated
  | wsMsg d frame draw =>
    rw [handle, receive] at seated
    split at seated
    next => exact .inl seated
    next =>
      split at seated
      next => exact .inl seated
      next =>
        split at seated
        next => exact handleLogin_seat seated
        next => exact .inl seated
  | close d =>
    rw [handle, close] at seated
    split at seated
    next => exact .inl seated
    next cs _ =>
      rw [setConn_seat] at seated
      split at seated
      next => cases seated
      next =>
        rw [seat, clearNode_conn] at seated
        exact .inl seated
  | reload loaded =>
    obtain rfl : loaded = none := noReload
    exact .inl seated
  | _ => exact .inl seated

theorem handle_cfg {t : Slots} {e : Event} (noReload : e.loaded = none) :
    (t.handle e).cfg = t.cfg := by
  cases e with
  | wsOpen c challenge =>
    rw [handle, wsOpen]
    split <;> rfl
  | wsMsg c frame draw =>
    rw [handle, receive]
    repeat' split
    all_goals try rfl
    rw [handleLogin]
    split <;> rfl
  | close c =>
    rw [handle, close]
    split
    next => rfl
    next cs _ => cases cs.nodeIdx <;> rfl
  | reload loaded =>
    obtain rfl : loaded = none := noReload
    rfl
  | _ => rfl

theorem handle_placed {t : Slots} (placed : t.Placed) {e : Event} (noReload : e.loaded = none) :
    (t.handle e).Placed := by
  intro c k seated
  rw [handle_cfg noReload]
  rcases handle_seat noReload seated with before | ⟨nodeId, found⟩
  next => exact placed c k before
  next => rw [(rcfgNodeIdx_some found).2, found]

/-- However connections open, log in and close, while the configuration is not loaded again. -/
theorem sessions_unique (cfg : Rcfg) (events : List Event)
    (noReload : ∀ e ∈ events, e.loaded = none) :
    (Machine.run handle (init cfg) events).OneSession ∧
      Machine.Guarded handle Spares (init cfg) events := by
  have quiet : Machine.Guarded handle (fun _ e => e.loaded = none) (init cfg) events :=
    Machine.guarded_of_forall handle (fun e member _ => noReload e member) _
  have start : (init cfg).Paired ∧ (init cfg).Placed := by
    refine ⟨init_paired cfg, fun c k seated => ?_⟩
    simp [init, seat] at seated
  have keeps (t : Slots) (e : Event) (sound : t.Paired ∧ t.Placed) (stays : e.loaded = none) :
      (t.handle e).Paired ∧ (t.handle e).Placed :=
    ⟨handle_paired sound.1 e, handle_placed sound.2 stays⟩
  constructor
  next =>
    have sound := Machine.run_invariant handle keeps start quiet
    exact sound.1.oneSession sound.2
  next =>
    exact Machine.guarded_of_invariant handle
      (fun t e sound stays => ⟨keeps t e sound stays, sound.1.spares e⟩) start quiet

/-- A node logs in, a second connection tries the same id and closes, and the node talks on. -/
theorem second_login_spared :
    let events := ((signIn 0 "A" ++ signIn 1 "A").map Prod.snd ++ [.close 1])
    (Machine.run handle (init roster) events).OneSession ∧
      Machine.Guarded handle Spares (init roster) events :=
  sessions_unique roster _ (by decide)

example :
    ((Machine.run handle (init roster) ((signIn 0 "A" ++ signIn 1 "A").map Prod.snd)).node 0).c =
      some 0 := by
  decide

end Slots

end Kerchunk.Reflectd
