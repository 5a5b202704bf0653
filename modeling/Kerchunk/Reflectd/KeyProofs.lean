import Kerchunk.Reflectd.Handshake

set_option autoImplicit false

/-!
# Who is logged in has proved its key

The challenge of an open connection went out on it and on no other, and is answered for once.
-/

namespace Kerchunk.Reflectd

open ChallengeResponse (Accepted Agrees Lawful New Permitted accepted_snoc issued_once lawful_agrees
  lawful_nil lawful_snoc not_accepted_of_new)
open Link (Client Login Request)
open Machine (Guarded run)

variable (hmac : List Nat → List Nat → Option (List Nat))

namespace Handshake

/-! ## What is checked -/

theorem lifeline_challenge (s : State) (c : Nat) :
    challenge s c = (lifelines s c).map Lifeline.challenge := by
  rw [challenge, lifelines, Option.map_map]
  rfl

/-- An open connection keeps its challenge. -/
theorem challenge_step {s : State} {timed : Moment × Event} {c : Nat}
    (elsewhere : ∀ drawn, timed.2 = .wsOpen c drawn → s.conns c ≠ none) {x : List Nat}
    (after : challenge (Reflectd.step s timed) c = some x) : challenge s c = some x := by
  rw [lifeline_challenge, lifeline_step] at after
  obtain ⟨line, found, rfl⟩ := Option.map_eq_some_iff.mp after
  obtain ⟨m, e⟩ := timed
  have kept (same : (s.conns c).map Conn.lifeline = some line) :
      challenge s c = some line.challenge := by
    rw [lifeline_challenge, lifelines, same]
    rfl
  cases e with
  | wsOpen d drawn =>
    simp only [Event.lifeline] at found
    split at found
    next opened =>
      obtain ⟨rfl, closed⟩ := opened
      exact absurd closed (elsewhere drawn rfl)
    next => exact kept found
  | wsMsg d frame draw =>
    simp only [Event.lifeline] at found
    split at found
    next =>
      obtain ⟨cs, here, rfl⟩ := Option.map_eq_some_iff.mp found
      simp [challenge, here, Conn.lifeline, Conn.heard]
    next => exact kept found
  | close d =>
    simp only [Event.lifeline] at found
    split at found
    next => cases found
    next => exact kept found
  | keepaliveTick =>
    simp only [Event.lifeline] at found
    obtain ⟨cs, here, rfl⟩ := Option.map_eq_some_iff.mp found
    simp only [challenge, here, Option.map_some, Option.some.injEq, Conn.lifeline, keepaliveConn]
    repeat' split
    all_goals rfl
  | _ => exact kept found

theorem loginCheck_verified {s : State} {body : Login} {draw : LoginDraw} {a : Admission}
    (accepted : loginCheck s body draw = .ok a) : draw.hmacMatches = true := by
  simp only [loginCheck, require_bind, refuse_bind] at accepted
  obtain ⟨_, _, _, _, _, _, _, _, _, _, _, _, matches_, _⟩ := accepted
  simpa using matches_

theorem hmacCheck_some {h : Handshake} {c : Nat} {body : Login} {check : HmacCheck}
    (found : h.hmacCheck c body = some check) :
    challenge h.server c = some check.challenge ∧
      ∃ id idx, body.nodeId = some id ∧ rcfgNodeIdx h.server.cfg id = some idx ∧
        check.psk = h.psk idx := by
  simp only [hmacCheck, bind, Option.bind_eq_some_iff, pure, Option.some.injEq] at found
  obtain ⟨x, sent, idx, ⟨id, named, configured⟩, _, _, _, _, rfl⟩ := found
  exact ⟨sent, id, idx, named, configured, rfl⟩

/-! ## The invariant -/

structure Proven (h : Handshake) : Prop where
  lawful : Lawful h.log
  issued : ∀ c x, challenge h.server c = some x →
    .issued c x ∈ h.log ∧ x.length = Client.challengeBytes
  waiting : ∀ c x, challenge h.server c = some x → seatOf h.server c = none → ¬ Accepted h.log x
  seated : ∀ c k, seatOf h.server c = some k →
    ∃ key x, challenge h.server c = some x ∧ .accepted c k key x ∈ h.log
  macs : ∀ key text, (key, text) ∈ h.macs →
    ∃ x nonce, text = x ++ nonce ∧ x.length = Client.challengeBytes ∧ .proved key x ∈ h.log

theorem proven_init (cfg : Rcfg) (bootMs : Nat) (psk : Nat → List Nat) :
    Proven (init cfg bootMs psk) where
  lawful := lawful_nil
  issued := nofun
  waiting := nofun
  seated := nofun
  macs := nofun

theorem verified_message (h : Handshake) (m : Moment) (c : Nat) (frame : Frame) (draw : LoginDraw) :
    ∃ draw', h.verified hmac (m, .wsMsg c frame draw) = (m, .wsMsg c frame draw') ∧
      ∀ body, frame.request = .login body →
        draw'.hmacMatches = (h.hmacCheck c body).any (HmacCheck.passes hmac) := by
  cases asked : frame.request with
  | login body =>
    refine ⟨{ draw with hmacMatches := (h.hmacCheck c body).any (HmacCheck.passes hmac) }, ?_, ?_⟩
    next => simp only [verified, asked]
    next =>
      intro other same
      cases same
      rfl
  | _ => exact ⟨draw, by simp only [verified, asked], nofun⟩

variable {hmac} {h : Handshake}

theorem Proven.issued_later (proven : Proven h) {c : Nat} {x : List Nat}
    (sent : challenge h.server c = some x) (more : List Deed) :
    .issued c x ∈ h.log ++ more ∧ x.length = Client.challengeBytes :=
  (proven.issued c x sent).imp_left (List.mem_append_left more)

theorem Proven.macs_later (proven : Proven h) {key text : List Nat} (computed : (key, text) ∈ h.macs)
    (more : List Deed) : ∃ x nonce, text = x ++ nonce ∧ x.length = Client.challengeBytes ∧
      .proved key x ∈ h.log ++ more := by
  obtain ⟨y, nonce, same, long, proved⟩ := proven.macs key text computed
  exact ⟨y, nonce, same, long, List.mem_append_left _ proved⟩

/-- What is accepted on a connection was answered by somebody who holds the node's key. -/
theorem accepted_permitted (proven : Proven h) {c k : Nat} {x : List Nat} {body : Login}
    (sound : ∀ check, h.hmacCheck c body = some check → check.passes hmac = true →
      (check.psk, check.challenge ++ check.nonce) ∈ h.macs)
    (checked : (h.hmacCheck c body).any (HmacCheck.passes hmac) = true)
    (named : ∃ id, body.nodeId = some id ∧ rcfgNodeIdx h.server.cfg id = some k)
    (empty : seatOf h.server c = none) (sent : challenge h.server c = some x) :
    Permitted h.log (.accepted c k (h.psk k) x) := by
  obtain ⟨check, found, passes⟩ := (Option.any_eq_true _ _).mp checked
  obtain ⟨sent', id, idx, asked, configured, key⟩ := hmacCheck_some found
  obtain ⟨id', asked', configured'⟩ := named
  obtain rfl : id = id' := Option.some.inj (asked.symm.trans asked')
  obtain rfl : idx = k := Option.some.inj (configured.symm.trans configured')
  obtain rfl : x = check.challenge := Option.some.inj (sent.symm.trans sent')
  obtain ⟨issued, long⟩ := proven.issued c _ sent
  obtain ⟨y, nonce, text, long', proved⟩ := proven.macs _ _ (sound check found passes)
  -- Challenges have one length, so the text of the HMAC says which it was computed for.
  obtain ⟨rfl, -⟩ := List.append_inj text (long.trans long'.symm)
  rw [key] at proved
  exact ⟨issued, proved, proven.waiting c _ sent empty⟩

theorem open_iff {s : State} {c : Nat} : s.conns c ≠ none ↔ ∃ x, challenge s c = some x := by
  cases here : s.conns c <;> simp [challenge, here]

/-- Where nobody comes and nobody logs in, there is nothing to record. -/
theorem proven_quiet (proven : Proven h) {server : State} (psk : Nat → List Nat)
    (kept : ∀ c x, challenge server c = some x → challenge h.server c = some x)
    (seats : ∀ c, server.conns c ≠ none → seatOf server c = seatOf h.server c) :
    Proven { h with server := server, psk := psk } where
  lawful := proven.lawful
  issued := fun c x sent => proven.issued c x (kept c x sent)
  waiting := by
    intro c x sent empty
    have opened : server.conns c ≠ none := open_iff.mpr ⟨x, sent⟩
    exact proven.waiting c x (kept c x sent) ((seats c opened).symm.trans empty)
  seated := by
    intro c k seat
    have opened : server.conns c ≠ none := by
      intro closed
      simp [seatOf_closed closed] at seat
    obtain ⟨key, x, sent, accepted⟩ := proven.seated c k ((seats c opened).symm.trans seat)
    obtain ⟨y, sent'⟩ := open_iff.mp opened
    obtain rfl : y = x := Option.some.inj ((kept c y sent').symm.trans sent)
    exact ⟨key, y, sent', accepted⟩
  macs := proven.macs

theorem proven_open (proven : Proven h) {m : Moment} {c : Nat} {bytes : List Nat}
    (closed : h.server.conns c = none) (long : bytes.length = Client.challengeBytes)
    (new : New h.log bytes) :
    challenge (Reflectd.step h.server (m, .wsOpen c (some bytes))) c = some bytes ∧
      Proven { h with
        server := Reflectd.step h.server (m, .wsOpen c (some bytes))
        log := h.log ++ [.issued c bytes] } := by
  have opened : challenge (Reflectd.step h.server (m, .wsOpen c (some bytes))) c = some bytes := by
    rw [lifeline_challenge, lifeline_step, Event.lifeline, if_pos ⟨rfl, closed⟩]
    rfl
  have older (d : Nat) (x : List Nat) (other : d ≠ c)
      (sent : challenge (Reflectd.step h.server (m, .wsOpen c (some bytes))) d = some x) :
      challenge h.server d = some x := by
    refine challenge_step (fun drawn same => ?_) sent
    cases same
    exact absurd rfl other
  have seats (d : Nat) : seatOf (Reflectd.step h.server (m, .wsOpen c (some bytes))) d =
      seatOf h.server d := seatOf_open h.server m c (some bytes) d
  refine ⟨opened, ⟨lawful_snoc proven.lawful new, fun d x sent => ?_, fun d x sent empty => ?_,
    fun d k seat => ?_, fun key text computed => ?_⟩⟩
  next =>
    by_cases at_ : d = c
    next =>
      subst at_
      obtain rfl := Option.some.inj (opened.symm.trans sent)
      exact ⟨by simp, long⟩
    next => exact proven.issued_later (older d x at_ sent) _
  next =>
    rw [accepted_snoc (by simp)]
    by_cases at_ : d = c
    next =>
      subst at_
      obtain rfl := Option.some.inj (opened.symm.trans sent)
      exact not_accepted_of_new new
    next => exact proven.waiting d x (older d x at_ sent) ((seats d).symm.trans empty)
  next =>
    have before := (seats d).symm.trans seat
    have at_ : d ≠ c := by
      rintro rfl
      simp [seatOf_closed closed] at before
    obtain ⟨key, x, sent, accepted⟩ := proven.seated d k before
    refine ⟨key, x, ?_, List.mem_append_left _ accepted⟩
    rw [lifeline_challenge, lifeline_step, Event.lifeline, if_neg (by simp [Ne.symm at_]), ← sent,
      lifeline_challenge]
    rfl
  next => exact proven.macs_later computed _

theorem proven_login (proven : Proven h) {server : State} {c k : Nat} {key x : List Nat}
    (kept : ∀ d y, challenge server d = some y → challenge h.server d = some y)
    (others : ∀ d, d ≠ c → server.conns d ≠ none → seatOf server d = seatOf h.server d)
    (sent : challenge server c = some x) (seat : seatOf server c = some k)
    (permitted : Permitted h.log (.accepted c k key x)) :
    Proven { h with server := server, log := h.log ++ [.accepted c k key x] } where
  lawful := lawful_snoc proven.lawful permitted
  issued := fun d y sent' => proven.issued_later (kept d y sent') _
  waiting := by
    intro d y sent' empty
    have other : d ≠ c := by
      rintro rfl
      simp [seat] at empty
    have opened : server.conns d ≠ none := open_iff.mpr ⟨y, sent'⟩
    have issued := (proven.issued d y (kept d y sent')).1
    rw [accepted_snoc]
    next => exact proven.waiting d y (kept d y sent') ((others d other opened).symm.trans empty)
    next =>
      -- Another connection has another challenge.
      intro _ _ _ same
      cases same
      exact other (issued_once proven.lawful issued permitted.1)
  seated := by
    intro d l seat'
    by_cases at_ : d = c
    next =>
      subst at_
      obtain rfl := Option.some.inj (seat.symm.trans seat')
      exact ⟨key, x, sent, by simp⟩
    next =>
      have opened : server.conns d ≠ none := by
        intro closed
        simp [seatOf_closed closed] at seat'
      obtain ⟨key', y, sent', accepted⟩ := proven.seated d l ((others d at_ opened).symm.trans seat')
      obtain ⟨z, sent''⟩ := open_iff.mp opened
      obtain rfl : z = y := Option.some.inj ((kept d z sent'').symm.trans sent')
      exact ⟨key', z, sent'', List.mem_append_left _ accepted⟩
  macs := fun _ _ computed => proven.macs_later computed _

theorem proven_message (proven : Proven h) {m : Moment} {c : Nat} {frame : Frame}
    {draw : LoginDraw} {psk : Nat → List Nat} (sound : Sound hmac h (.serve (m, .wsMsg c frame draw) psk)) :
    Proven (h.step hmac (.serve (m, .wsMsg c frame draw) psk)) := by
  obtain ⟨draw', event, checked⟩ := h.verified_message hmac m c frame draw
  simp only [step, event]
  have kept (d : Nat) (y : List Nat)
      (sent : challenge (Reflectd.step h.server (m, .wsMsg c frame draw')) d = some y) :
      challenge h.server d = some y := challenge_step (by simp) sent
  have seats (d : Nat) := seatOf_step (s := h.server) (m := m) (e := .wsMsg c frame draw') (c := d)
  simp only [deeds]
  split
  next k x empty seat sent =>
    refine proven_login proven kept (fun d other opened => ?_) sent seat ?_
    next =>
      rcases seats d opened with same | ⟨_, _, _, _, _, event, _⟩
      next => exact same
      next =>
        cases event
        exact absurd rfl other
    next =>
      rcases seats c (open_iff.mpr ⟨x, sent⟩) with same | ⟨_, _, _, body, a, event, asked, accepted, node⟩
      next => simp [same, empty] at seat
      next =>
        cases event
        obtain rfl := Option.some.inj (node.symm.trans seat)
        have passed := (checked body asked).symm.trans (loginCheck_verified accepted)
        exact accepted_permitted proven (fun check => sound body check asked) passed
          (loginCheck_node accepted) empty (kept c x sent)
  next quiet =>
    rw [List.append_nil]
    refine proven_quiet proven h.psk kept fun d opened => ?_
    rcases seats d opened with same | ⟨empty, _, _, _, _, event, _, _, node⟩
    next => exact same
    next =>
      cases event
      obtain ⟨x, sent⟩ := open_iff.mp opened
      exact absurd sent (quiet _ x empty node)

theorem proven_step (proven : Proven h) {act : Act} (sound : Sound hmac h act) :
    Proven (h.step hmac act) := by
  cases act with
  | answer cl psk x nonce =>
    simp only [step]
    split
    next => exact proven
    next sent =>
      have long : x.length = Client.challengeBytes := by
        by_contra short
        simp [onHello, Client.onHello, short] at sent
      refine ⟨lawful_snoc proven.lawful trivial, fun c y sent => ?_, fun c y sent empty => ?_,
        fun c k seat => ?_, fun key text computed => ?_⟩
      next => exact proven.issued_later sent _
      next =>
        rw [accepted_snoc (by simp)]
        exact proven.waiting c y sent empty
      next =>
        obtain ⟨key, y, sent, accepted⟩ := proven.seated c k seat
        exact ⟨key, y, sent, List.mem_append_left _ accepted⟩
      next =>
        rcases List.mem_append.mp computed with old | new
        next => exact proven.macs_later old _
        next =>
          cases List.mem_singleton.mp new
          exact ⟨x, nonce, rfl, long, by simp⟩
  | serve timed psk =>
    obtain ⟨m, e⟩ := timed
    cases e with
    | wsMsg c frame draw => exact proven_message proven sound
    | wsOpen c drawn =>
      simp only [step, verified, deeds]
      split
      next closed =>
        obtain ⟨bytes, rfl, long, new⟩ := sound closed
        obtain ⟨opened, after⟩ := proven_open (m := m) proven closed long new
        rw [opened]
        exact after
      next opened =>
        rw [List.append_nil]
        exact proven_quiet proven h.psk (fun d y => challenge_step fun _ same => by
          cases same; exact opened) fun d _ => seatOf_open h.server m c drawn d
    | _ =>
      simp only [step, verified, deeds, List.append_nil]
      refine proven_quiet proven _ (fun d y => challenge_step (by simp)) fun d opened => ?_
      rcases seatOf_step opened with same | ⟨_, _, _, _, _, event, _⟩
      next => exact same
      next => cases event

theorem proven_run {cfg : Rcfg} {bootMs : Nat} {psk : Nat → List Nat} {acts : List Act}
    (sound : Guarded (step hmac) (Sound hmac) (init cfg bootMs psk) acts) :
    Proven (run (step hmac) (init cfg bootMs psk) acts) :=
  Machine.run_invariant (P := Proven) (step hmac) (fun _ _ proven ok => proven_step proven ok)
    (proven_init cfg bootMs psk) sound

end Handshake

open Handshake

/-- Whoever is connected as a node was let in for the challenge of his connection, and every such
login has an HMAC to itself, which somebody who holds the node's key computed with that challenge
after it had gone out. -/
theorem logins_prove_keys (cfg : Rcfg) (bootMs : Nat) (psk : Nat → List Nat) (acts : List Act)
    (sound : Guarded (Handshake.step hmac) (Sound hmac) (Handshake.init cfg bootMs psk) acts) :
    (∀ c k, seatOf (run (Handshake.step hmac) (Handshake.init cfg bootMs psk) acts).server c = some k →
      ∃ key x, challenge (run (Handshake.step hmac) (Handshake.init cfg bootMs psk) acts).server c =
          some x ∧
        .accepted c k key x ∈ (run (Handshake.step hmac) (Handshake.init cfg bootMs psk) acts).log) ∧
    ∀ before after c k key x,
      (run (Handshake.step hmac) (Handshake.init cfg bootMs psk) acts).log =
        before ++ .accepted c k key x :: after → Agrees before after c key x := by
  have proven := proven_run sound
  exact ⟨proven.seated, fun _ _ _ _ _ _ split => lawful_agrees proven.lawful split⟩

/-! ## A client with the right key -/

/-- What a client answers to the challenge of a connection, where it has the key of the node that it
calls itself. -/
structure Answer (h : Handshake) (c k : Nat) (body : Login) (cl : Client) (x nonce mac : List Nat) :
    Prop where
  sent : challenge h.server c = some x
  configured : rcfgNodeIdx h.server.cfg cl.cfg.nodeId = some k
  computed : hmac (h.psk k) (x ++ nonce) = some mac
  drawn : nonce.length = Link.nonceBytes
  whole : mac.length = Link.hmacBytes
  octets : ∀ b ∈ nonce ++ mac, b < 256
  answered : (onHello hmac cl (h.psk k) x nonce).2 = [.login body]

/-- What else a login is checked for. -/
structure Welcome (s : State) (k : Nat) (clientVersion : Option String) : Prop where
  banned : s.cfg.banned k = false
  free : (s.nodeRt k).connected = false
  version : versionAtLeast clientVersion s.cfg.minClientVersion = true
  allowed : rcfgNodeAllowedOnTg s.cfg k (s.cfg.initialTg k) = true

section

variable {h : Handshake} {cl : Client} {c k : Nat} {x nonce mac : List Nat} {body : Login}

theorem readHex_bytesToHex {bytes : List Nat} (octets : ∀ b ∈ bytes, b < 256) :
    readHex bytes.length (String.ofList (bytesToHex bytes)) = some bytes := by
  rw [readHex, String.toList_ofList, if_pos (bytesToHex_length bytes), hexToBytes_bytesToHex bytes octets]

theorem Answer.fields (answer : Answer hmac h c k body cl x nonce mac) :
    body.nodeId = some cl.cfg.nodeId ∧
      (∃ text, body.nonce = some text ∧ readHex Link.nonceBytes text = some nonce) ∧
      ∃ text, body.keyHmac = some text ∧ readHex Link.hmacBytes text = some mac := by
  obtain ⟨nonceOctets, macOctets⟩ := List.forall_mem_append.mp answer.octets
  have answered := answer.answered
  simp only [onHello, Client.onHello, answer.computed] at answered
  split at answered
  next => cases answered
  next =>
    cases answered
    exact ⟨rfl, ⟨_, rfl, answer.drawn ▸ readHex_bytesToHex nonceOctets⟩,
      ⟨_, rfl, answer.whole ▸ readHex_bytesToHex macOctets⟩⟩

theorem Answer.passes (answer : Answer hmac h c k body cl x nonce mac) :
    (h.hmacCheck c body).any (HmacCheck.passes hmac) = true := by
  obtain ⟨named, ⟨_, nonceText, readNonce⟩, ⟨_, macText, readMac⟩⟩ := answer.fields
  have check : h.hmacCheck c body =
      some { psk := h.psk k, challenge := x, nonce := nonce, claimed := mac } := by
    simp [hmacCheck, answer.sent, named, answer.configured, nonceText, macText, readNonce, readMac]
  rw [check, Option.any_some, HmacCheck.passes]
  exact (verifyLoginHmac_iff hmac answer.whole).mpr answer.computed

theorem Answer.checked (answer : Answer hmac h c k body cl x nonce mac) (m : Moment) {draw : LoginDraw}
    (passes : draw.hmacMatches = true) (material : draw.srtp ≠ none) (start : draw.rtpStart ≠ none) :
    (∃ a, loginCheck (h.server.at m) body draw = .ok a ∧ a.nodeIdx = k) ↔
      Welcome h.server k body.clientVersion := by
  obtain ⟨named, ⟨_, nonceText, readNonce⟩, ⟨_, macText, readMac⟩⟩ := answer.fields
  have hexNonce := (readHex_isSome _ _).symm.trans (congrArg Option.isSome readNonce)
  have hexMac := (readHex_isSome _ _).symm.trans (congrArg Option.isSome readMac)
  obtain ⟨srtp, material⟩ := Option.ne_none_iff_exists'.mp material
  obtain ⟨rtpStart, start⟩ := Option.ne_none_iff_exists'.mp start
  simp only [loginCheck, require_bind, refuse_bind, State.at, named, nonceText, macText, material, start,
    passes, answer.configured, hexNonce, hexMac, Option.some.injEq, exists_eq_left', Option.isSome_some,
    Bool.and_self, Bool.not_true, Bool.not_eq_false', true_and]
  constructor
  next =>
    rintro ⟨a, ⟨banned, free, version, allowed, -⟩, -⟩
    exact ⟨banned, free, version, allowed⟩
  next =>
    rintro ⟨banned, free, version, allowed⟩
    exact ⟨_, ⟨banned, free, version, allowed, rfl⟩, rfl⟩

end

/-- Who holds the key of a node and answers the challenge is let in as that node, unless it is banned,
connected, of an old version or without a talkgroup. -/
theorem key_holder_seated (h : Handshake) {cl : Client} {c k : Nat} {x nonce mac : List Nat} {body : Login}
    (answer : Answer hmac h c k body cl x nonce mac) (empty : seatOf h.server c = none) {frame : Frame}
    {draw : LoginDraw} (asked : frame.request = .login body) (fits : frame.len ≤ Link.maxMsg)
    (material : draw.srtp ≠ none) (start : draw.rtpStart ≠ none) (m : Moment) (psk : Nat → List Nat) :
    seatOf (Handshake.step hmac h (.serve (m, .wsMsg c frame draw) psk)).server c = some k ↔
      Welcome h.server k body.clientVersion := by
  let drawn : LoginDraw := { draw with hmacMatches := true }
  have served : (Handshake.step hmac h (.serve (m, .wsMsg c frame draw) psk)).server =
      Reflectd.step h.server (m, .wsMsg c frame drawn) := by
    simp only [Handshake.step, verified, asked, answer.passes, drawn]
  have passes : drawn.hmacMatches = true := rfl
  rw [served, ← answer.checked hmac m passes material start]
  constructor
  next =>
    intro seated
    rcases seatOf_message h.server m c frame drawn c with kept | ⟨-, -, body', a, asked', accepted, seat⟩
    next => cases empty.symm.trans (kept.symm.trans seated)
    next =>
      cases asked.symm.trans asked'
      exact ⟨a, accepted, Option.some.inj (seat.symm.trans seated)⟩
  next =>
    rintro ⟨a, accepted, rfl⟩
    obtain ⟨cs, here, -⟩ := Option.map_eq_some_iff.mp answer.sent
    have waiting : cs.state = .awaitingLogin := by
      rw [seatOf, here, Option.bind_some, Conn.nodeIdx] at empty
      split at empty
      next waiting => exact waiting
      next => cases empty
    rw [seatOf_login here waiting asked fits accepted c, if_pos rfl]

/-! ## A run -/

def keyOfA : List Nat := List.range 32

def firstChallenge : List Nat := List.replicate 16 165

def firstNonce : List Nat := List.range' 16 16

def firstMac : List Nat :=
  [212, 11, 217, 220, 59, 62, 172, 122, 224, 201, 224, 106, 153, 191, 35, 120, 193, 71, 137, 120, 117,
    225, 214, 217, 149, 204, 22, 85, 8, 139, 40, 100]

def sha256Hmac (key text : List Nat) : Option (List Nat) :=
  -- HMAC-SHA-256 of the one text that the run below computes it of.
  if key = keyOfA ∧ text = firstChallenge ++ firstNonce then
    some firstMac
  else none

def clientA : Client :=
  Client.init
    { enabled := true, nodeId := "A", reflectorWs := "ws://192.0.2.1:7443/link"
      reconnectMinMs := 1000, reconnectMaxMs := 60000 }

def firstChallenged : List Act :=
  [.serve (after 0, .wsOpen 0 (some firstChallenge)) fun _ => [],
    .answer clientA keyOfA firstChallenge firstNonce]

def firstLoginBody : Login where
  nodeId := some "A"
  keyHmac := some "d40bd9dc3b3eac7ae0c9e06a99bf2378c147897875e1d6d995cc1655088b2864"
  nonce := some "101112131415161718191a1b1c1d1e1f"
  clientVersion := some "kerchunk 1.0"

def firstDraw : LoginDraw where
  hmacMatches := false
  srtp := some {
    masterKey := List.replicate 16 1
    masterSalt := List.replicate 14 2
    nodeSsrc := 1000
    reflSsrc := 2000 }
  rtpStart := some (0, 0)

def firstMessage : Act :=
  .serve (after 20, .wsMsg 0 { len := 300, request := .login firstLoginBody } firstDraw) fun _ => []

def firstLogin : List Act :=
  firstChallenged ++ [firstMessage]

theorem first_login_proves_key :
    seatOf (run (Handshake.step sha256Hmac) (Handshake.init roster 0 fun _ => keyOfA)
      firstLogin).server 0 = some 0 ∧
    ∀ before after c k key x,
      (run (Handshake.step sha256Hmac) (Handshake.init roster 0 fun _ => keyOfA) firstLogin).log =
        before ++ .accepted c k key x :: after → Agrees before after c key x := by
  refine ⟨by decide, (logins_prove_keys sha256Hmac roster 0 (fun _ => keyOfA) firstLogin ?_).2⟩
  refine ⟨fun _ => ⟨firstChallenge, rfl, by decide, nofun⟩, trivial, ?_, trivial⟩
  intro body check asked found _
  cases asked
  have read : check =
      { psk := keyOfA, challenge := firstChallenge, nonce := firstNonce, claimed := firstMac } :=
    Option.some.inj (found.symm.trans (by decide))
  rw [read]
  decide

theorem first_login_seated :
    seatOf (Handshake.step sha256Hmac
        (run (Handshake.step sha256Hmac) (Handshake.init roster 0 fun _ => keyOfA) firstChallenged)
        firstMessage).server 0 = some 0 ↔
      Welcome (run (Handshake.step sha256Hmac) (Handshake.init roster 0 fun _ => keyOfA)
        firstChallenged).server 0 firstLoginBody.clientVersion := by
  have answer : Answer sha256Hmac
      (run (Handshake.step sha256Hmac) (Handshake.init roster 0 fun _ => keyOfA) firstChallenged) 0 0
      firstLoginBody clientA firstChallenge firstNonce firstMac :=
    { sent := by decide, configured := by decide, computed := by decide, drawn := by decide
      whole := by decide, octets := by decide, answered := by decide }
  exact key_holder_seated sha256Hmac _ answer (by decide) rfl (by decide) (Option.some_ne_none _)
    (Option.some_ne_none _) _ _

end Kerchunk.Reflectd
