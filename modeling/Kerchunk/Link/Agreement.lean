import Kerchunk.Link.Network
import Kerchunk.Reflectd.FloorSafety
import Kerchunk.Reflectd.Hearing

set_option autoImplicit false

/-!
# Agreement of client and reflector

The messages on the way to the client are what it has yet to hear. Once it has
heard them, its talkgroup and mute are those of its node, if its mute was right
when it logged in.
-/

namespace Kerchunk.Link

open Machine (Guarded run)
open Reflectd (Event Frame LoginDraw Moment State Told hall nodeView seatOf told)
open Reflectd.Hall (Seated Untold)

def Client.view (cl : Client) : Nat × Bool :=
  (cl.currentTg, cl.muted)

/-! ## What the client does with a message -/

/-- The client keeps what the reflector can change, and does not become connected. -/
structure Unmoved (before after : Client) : Prop where
  cfg : after.cfg = before.cfg
  ws : after.ws = before.ws
  view : after.view = before.view
  state : after.state = .connected → before.state = .connected

/-- The client takes the message to heart. -/
structure Hears (before after : Client) (t : Told) : Prop where
  cfg : after.cfg = before.cfg
  ws : after.ws = before.ws
  view : after.view = t.heard before.view
  state : after.state = .connected → before.state = .connected

section

variable (cl : Client)

theorem Unmoved.refl : Unmoved cl cl := ⟨rfl, rfl, rfl, id⟩

theorem onHello_unmoved (challenge : List Nat) (answer : Client.HelloAnswer) :
    Unmoved cl (cl.onHello challenge answer).1 := by
  unfold Client.onHello
  split
  next => exact ⟨rfl, rfl, rfl, id⟩
  next =>
    cases answer with
    | login nonce keyHmac => exact ⟨rfl, rfl, rfl, fun up => by cases up⟩
    | _ => exact ⟨rfl, rfl, rfl, id⟩

theorem onKicked_unmoved (code : ErrCode) (msg : String) (now : Int) (rand : Nat) :
    Unmoved cl (cl.onKicked code msg now rand) := by
  unfold Client.onKicked
  cases linkErrIsPermanent code with
  | true => exact ⟨rfl, rfl, rfl, fun up => by cases up⟩
  | false => exact ⟨rfl, rfl, rfl, id⟩

theorem onLoginDenied_unmoved (code : ErrCode) (msg : String) :
    Unmoved cl (cl.onLoginDenied code msg) := by
  unfold Client.onLoginDenied
  cases linkErrIsPermanent code with
  | true => exact ⟨rfl, rfl, rfl, fun up => by cases up⟩
  | false => exact ⟨rfl, rfl, rfl, id⟩

theorem onWsMsg_unmoved {m : Msg} (quiet : told m = none) (answers : Client.Answers) :
    Unmoved cl (cl.onWsMsg m answers).1 := by
  cases m with
  | hello challenge reflectorVersion minClientVersion proto => exact onHello_unmoved cl challenge _
  | loginDenied code msg => exact onLoginDenied_unmoved cl code msg
  | kicked code msg => exact onKicked_unmoved cl code msg _ _
  | floorRevoked tg code =>
      simp only [Client.onWsMsg, Client.onFloorRevoked]
      split <;> exact ⟨rfl, rfl, rfl, id⟩
  | targetBitrate bps =>
      simp only [Client.onWsMsg, Client.onTargetBitrate]
      split <;> exact ⟨rfl, rfl, rfl, id⟩
  | loginOk | tgOk | tgMembershipChanged | mute | unmute => cases quiet
  | _ => exact ⟨rfl, rfl, rfl, id⟩

theorem onWsMsg_hears {m : Msg} {t : Told} (heard : told m = some t) (later : t.later = true)
    (answers : Client.Answers) : Hears cl (cl.onWsMsg m answers).1 t := by
  cases m with
  | loginOk body =>
      cases heard
      cases later
  | tgOk tg name =>
      cases heard
      have range : ¬ (tg = 0 ∨ 65535 < tg) := by
        have both : 0 < tg ∧ tg ≤ 65535 := by simpa [Told.later] using later
        omega
      simp only [Client.onWsMsg, Client.onTgOk, range, if_false]
      exact ⟨rfl, rfl, rfl, id⟩
  | tgMembershipChanged | mute | unmute =>
      cases heard
      exact ⟨rfl, rfl, rfl, id⟩
  | _ => cases heard

theorem onLoginOk_cases (body : LoginOk) (failure : Option Client.SetupFailure) :
    (cl.onLoginOk body failure).cfg = cl.cfg ∧ (cl.onLoginOk body failure).ws = cl.ws ∧
      ((cl.onLoginOk body failure).state = .connected ∧
          (cl.onLoginOk body failure).view = (body.talkgroup, cl.muted) ∨
        (cl.onLoginOk body failure).state = cl.state) := by
  -- A login message connects the client on its talkgroup, or its session does not come up.
  by_cases malformed : body.srtpMasterKey.length ≠ Client.srtpKeyBytes ∨
      body.srtpMasterSalt.length ≠ Client.srtpSaltBytes ∨ body.ssrc = 0 ∨ body.reflectorSsrc = 0 ∨
      body.talkgroup = 0
  · simp only [Client.onLoginOk, Client.sessionSetup, if_pos malformed]
    exact ⟨rfl, rfl, Or.inr rfl⟩
  · simp only [Client.onLoginOk, Client.sessionSetup, if_neg malformed]
    cases failure with
    | none => exact ⟨rfl, rfl, Or.inl ⟨rfl, rfl⟩⟩
    | some step => exact ⟨rfl, rfl, Or.inr rfl⟩

theorem onWsMsg_asks {m : Msg} {answers : Client.Answers} {body : Login}
    (sent : .login body ∈ (cl.onWsMsg m answers).2) : body.nodeId = some cl.cfg.nodeId := by
  -- The client logs in as its configured node.
  cases m with
  | hello challenge reflectorVersion minClientVersion proto =>
      simp only [Client.onWsMsg, Client.onHello] at sent
      split at sent
      next => cases sent
      next =>
        cases answer : answers.hello with
        | login nonce keyHmac =>
            rw [answer] at sent
            simp only [List.mem_singleton, Request.login.injEq] at sent
            rw [sent]
        | _ =>
            rw [answer] at sent
            cases sent
  | ping seq => simp [Client.onWsMsg] at sent
  | _ => simp [Client.onWsMsg] at sent

end

/-! ## What is on the way to the client -/

def pending (s : State) (c delivered : Nat) : List Told :=
  ((s.sent c).drop delivered).filterMap told

/-- How the messages on the way end up with the node's view: the login message comes first, or the
client has had it, and if its session is up it hears of what changed since. -/
inductive Tracks (cl : Client) : List Told → Nat × Bool → Prop
  | welcome {id : String} {tg : Nat} {rest : List Told} {view : Nat × Bool}
      (notYet : cl.state ≠ .connected) (later : ∀ t ∈ rest, t.later = true)
      (ends : rest.foldl Told.heard (tg, cl.muted) = view) :
      Tracks cl (.loggedIn id tg :: rest) view
  | past {rest : List Told} {view : Nat × Bool} (later : ∀ t ∈ rest, t.later = true)
      (ends : cl.state = .connected → rest.foldl Told.heard cl.view = view) : Tracks cl rest view

theorem tracks_append {cl : Client} {rest more : List Told} {view view' : Nat × Bool}
    (tracks : Tracks cl rest view) (later : ∀ t ∈ more, t.later = true)
    (follows : view' = more.foldl Told.heard view) : Tracks cl (rest ++ more) view' := by
  have both : ∀ rest : List Told, (∀ t ∈ rest, t.later = true) →
      ∀ t ∈ rest ++ more, t.later = true := fun rest first t member =>
    (List.mem_append.mp member).elim (first t) (later t)
  cases tracks with
  | welcome notYet first ends =>
      rw [List.cons_append]
      exact .welcome notYet (both _ first) (by rw [List.foldl_append, ends, follows])
  | past first ends =>
      exact .past (both _ first) fun up => by rw [List.foldl_append, ends up, follows]

theorem tracks_unmoved {cl cl' : Client} {rest : List Told} {view : Nat × Bool}
    (tracks : Tracks cl rest view) (unmoved : Unmoved cl cl') : Tracks cl' rest view := by
  have muted : cl'.muted = cl.muted := congrArg Prod.snd unmoved.view
  cases tracks with
  | welcome notYet later ends =>
      exact .welcome (fun up => notYet (unmoved.state up)) later (by rw [muted, ends])
  | past later ends =>
      exact .past later fun up => by rw [unmoved.view, ends (unmoved.state up)]

/-- A connection between the client and the reflector, which the reflector has taken. -/
inductive Channel (s : State) (cl : Client) (c delivered : Nat) : Prop
  | closed (counted : delivered ≤ (s.sent c).length) (closed : s.conns c = none)
  | anonymous (counted : delivered ≤ (s.sent c).length) (untold : Untold (hall s) c)
      (notYet : cl.state ≠ .connected)
  | seated (counted : delivered ≤ (s.sent c).length) {k : Nat} (seat : seatOf s c = some k)
      (tracks : Tracks cl (pending s c delivered) (nodeView s k))

theorem channel_unmoved {s : State} {cl cl' : Client} {c delivered : Nat}
    (channel : Channel s cl c delivered) (unmoved : Unmoved cl cl') : Channel s cl' c delivered := by
  cases channel with
  | closed counted closed => exact .closed counted closed
  | anonymous counted untold notYet =>
      exact .anonymous counted untold fun up => notYet (unmoved.state up)
  | seated counted seat tracks => exact .seated counted seat (tracks_unmoved tracks unmoved)

theorem pending_grown {s s' : State} {c delivered : Nat} {more : List Msg}
    (counted : delivered ≤ (s.sent c).length) (grown : s'.sent c = s.sent c ++ more) :
    pending s' c delivered = pending s c delivered ++ more.filterMap told := by
  rw [pending, grown, List.drop_append_of_le_length counted, List.filterMap_append, pending]

theorem channel_followed {s : State} {cl : Client} {c delivered k : Nat} {timed : Moment × Event}
    (placed : Seated (hall s)) (noReload : timed.2.loaded = none) (stays : timed.2 ≠ .close c)
    (notOpen : ∀ challenge, timed.2 ≠ .wsOpen c challenge)
    (counted : delivered ≤ (s.sent c).length) (seat : seatOf s c = some k)
    (tracks : Tracks cl (pending s c delivered) (nodeView s k)) :
    Channel (Reflectd.step s timed) cl c delivered := by
  obtain ⟨seat', more, grown, later, view⟩ :=
    Reflectd.follows_step timed placed noReload stays notOpen seat
  refine .seated ?_ seat' ?_
  · rw [grown, List.length_append]
    exact Nat.le_add_right_of_le counted
  · rw [pending_grown counted grown]
    exact tracks_append tracks later view

theorem counted_step {s : State} {c delivered : Nat} {timed : Moment × Event}
    (notOpen : ∀ challenge, timed.2 ≠ .wsOpen c challenge)
    (counted : delivered ≤ (s.sent c).length) :
    delivered ≤ ((Reflectd.step s timed).sent c).length :=
  Nat.le_trans counted (Reflectd.sends_step c s timed notOpen).length_le

theorem channel_elsewhere {s : State} {cl : Client} {c delivered : Nat} {timed : Moment × Event}
    (placed : Seated (hall s)) (noReload : timed.2.loaded = none)
    (elsewhere : timed.2.conn ≠ some c) (channel : Channel s cl c delivered) :
    Channel (Reflectd.step s timed) cl c delivered := by
  -- An event away from the connection.
  have notOpen : ∀ challenge, timed.2 ≠ .wsOpen c challenge := fun _ same =>
    elsewhere (by rw [same]; rfl)
  have stays : timed.2 ≠ .close c := fun same => elsewhere (by rw [same]; rfl)
  have away := Reflectd.elsewhere_moves (s := s.at timed.1) elsewhere
  cases channel with
  | closed counted closed =>
      exact .closed (counted_step notOpen counted) (Reflectd.closed_step _ noReload away closed)
  | anonymous counted untold notYet =>
      exact .anonymous (counted_step notOpen counted)
        (Reflectd.untold_step placed noReload away untold) notYet
  | seated counted seat tracks =>
      exact channel_followed placed noReload stays notOpen counted seat tracks

theorem channel_served {s : State} {cl : Client} {c delivered : Nat} {m : Moment} {frame : Frame}
    {draw : LoginDraw} (placed : Seated (hall s))
    (alike : frame.len ≤ maxMsg → ∀ body a, frame.request = .login body →
      Reflectd.loginCheck (s.at m) body draw = .ok a → (s.nodeRt a.nodeIdx).muted = cl.muted)
    (channel : Channel s cl c delivered) :
    Channel (Reflectd.step s (m, .wsMsg c frame draw)) cl c delivered := by
  -- A message on the connection. A login that is accepted finds the client's mute right.
  have notOpen : ∀ challenge, (m, Event.wsMsg c frame draw).2 ≠ .wsOpen c challenge :=
    fun _ same => by cases same
  cases channel with
  | closed counted closed =>
      exact .closed (counted_step notOpen counted)
        (Reflectd.closed_step _ rfl (Reflectd.closed_moves closed notOpen) closed)
  | anonymous counted untold notYet =>
      rcases Reflectd.login_step m frame draw placed untold with
        still | ⟨body, a, id, fits, asks, checked, seat, said, view⟩
      · exact .anonymous (counted_step notOpen counted) still notYet
      · refine .seated (counted_step notOpen counted) seat ?_
        have silent : (s.sent c).filterMap told = [] := untold.told
        obtain ⟨more, grown⟩ := Reflectd.sends_step c s (m, .wsMsg c frame draw) notOpen
        have nothing : pending s c delivered = [] := by
          refine List.filterMap_eq_nil_iff.mpr fun msg member => ?_
          exact List.filterMap_eq_nil_iff.mp silent msg (List.mem_of_mem_drop member)
        have welcome : more.filterMap told = [.loggedIn id a.tg] := by
          rw [← said, ← grown, List.filterMap_append, silent, List.nil_append]
        rw [pending_grown counted grown.symm, nothing, welcome, view, alike fits body a asks checked]
        exact .welcome notYet (by simp) rfl
  | seated counted seat tracks =>
      exact channel_followed placed rfl (fun same => by cases same) notOpen counted seat tracks

theorem channel_delivered {s : State} {cl : Client} {c delivered : Nat} {m : Msg}
    (answers : Client.Answers) (next : (s.sent c)[delivered]? = some m)
    (channel : Channel s cl c delivered) :
    Channel s (cl.onWsMsg m answers).1 c (delivered + 1) := by
  -- The next message arrives.
  obtain ⟨bound, same⟩ := List.getElem?_eq_some_iff.mp next
  have first : pending s c delivered =
      (told m).toList ++ pending s c (delivered + 1) := by
    rw [pending, List.drop_eq_getElem_cons bound, same, pending, List.filterMap_cons]
    cases told m <;> rfl
  cases channel with
  | closed counted closed => exact .closed bound closed
  | anonymous counted untold notYet =>
      have quiet : told m = none :=
        List.filterMap_eq_nil_iff.mp untold.told m (same ▸ List.getElem_mem bound)
      exact .anonymous bound untold fun up => notYet ((onWsMsg_unmoved cl quiet answers).state up)
  | seated counted seat tracks =>
      refine .seated bound seat ?_
      rw [first] at tracks
      cases heard : told m with
      | none =>
          rw [heard] at tracks
          exact tracks_unmoved tracks (onWsMsg_unmoved cl heard answers)
      | some t =>
          rw [heard] at tracks
          generalize pending s c (delivered + 1) = rest at tracks ⊢
          generalize nodeView s _ = view at tracks ⊢
          cases tracks with
          | @welcome id tg _ _ notYet later ends =>
              cases m with
              | loginOk body =>
                  cases heard
                  rcases (onLoginOk_cases cl body answers.setup).2.2 with ⟨_, view⟩ | down
                  · exact .past later fun _ => by
                      rw [← ends]
                      exact congrArg (fun v => List.foldl Told.heard v rest) view
                  · exact .past later fun up => absurd (down.symm.trans up) notYet
              | _ => cases heard
          | past later ends =>
              have hears := onWsMsg_hears cl heard (later t (List.mem_cons_self ..)) answers
              refine .past (fun t member => later t (List.mem_cons_of_mem _ member)) fun up => ?_
              rw [hears.view]
              exact ends (hears.state up)

/-! ## The invariant of the network -/

structure Linked (n : Network) : Prop where
  placed : Seated (hall n.server)
  silent : Reflectd.Silent (hall n.server)
  owned : ∀ c, n.client.ws = some c → n.mine c = true
  offline : n.client.ws = none → n.accepted = false ∧ n.client.state ≠ .connected
  waiting : ∀ c, n.client.ws = some c → n.accepted = false →
    n.server.conns c = none ∧ n.client.state ≠ .connected
  channel : ∀ c, n.client.ws = some c → n.accepted = true →
    Channel n.server n.client c n.delivered
  node : ∀ c, n.mine c = true → ∀ k, seatOf n.server c = some k →
    Reflectd.rcfgNodeIdx n.server.cfg n.client.cfg.nodeId = some k
  asked : ∀ c body, .login body ∈ n.requests c → body.nodeId = some n.client.cfg.nodeId

theorem linked_unmoved {n : Network} {cl : Client} (linked : Linked n) (unmoved : Unmoved n.client cl) :
    Linked { n with client := cl } where
  -- The state of the client changes, but nothing that the reflector follows.
  placed := linked.placed
  silent := linked.silent
  owned := fun c at_ => linked.owned c (unmoved.ws ▸ at_)
  offline := fun gone => by
    obtain ⟨notAccepted, notUp⟩ := linked.offline (unmoved.ws ▸ gone)
    exact ⟨notAccepted, fun up => notUp (unmoved.state up)⟩
  waiting := fun c at_ notAccepted => by
    obtain ⟨closed, notUp⟩ := linked.waiting c (unmoved.ws ▸ at_) notAccepted
    exact ⟨closed, fun up => notUp (unmoved.state up)⟩
  channel := fun c at_ accepted =>
    channel_unmoved (linked.channel c (unmoved.ws ▸ at_) accepted) unmoved
  node := fun c own k seat => by
    rw [unmoved.cfg]
    exact linked.node c own k seat
  asked := fun c body member => by
    rw [unmoved.cfg]
    exact linked.asked c body member

theorem linked_server {n : Network} (timed : Moment × Event) (linked : Linked n)
    (noReload : timed.2.loaded = none)
    (notOpen : ∀ c, n.mine c = true → ∀ challenge, timed.2 ≠ .wsOpen c challenge)
    (channel : ∀ c, n.client.ws = some c → n.accepted = true →
      Channel (Reflectd.step n.server timed) n.client c n.delivered)
    (node : ∀ c, n.mine c = true → timed.2.conn = some c → ∀ k,
      seatOf (Reflectd.step n.server timed) c = some k →
        Reflectd.rcfgNodeIdx n.server.cfg n.client.cfg.nodeId = some k) :
    Linked { n with server := Reflectd.step n.server timed } where
  -- An event of the reflector that opens none of the client's connections.
  placed := Reflectd.seated_step n.server timed linked.placed
  silent := Reflectd.silent_step linked.placed noReload linked.silent
  owned := linked.owned
  offline := linked.offline
  waiting := fun c at_ notAccepted => by
    obtain ⟨closed, notUp⟩ := linked.waiting c at_ notAccepted
    have stays := Reflectd.closed_moves (s := n.server.at timed.1) closed
      (notOpen c (linked.owned c at_))
    exact ⟨Reflectd.closed_step _ noReload stays closed, notUp⟩
  channel := channel
  node := fun c own k seat => by
    rw [Reflectd.cfg_step noReload]
    by_cases about : timed.2.conn = some c
    · exact node c own about k seat
    · rw [Reflectd.seat_step noReload (Reflectd.elsewhere_moves about)] at seat
      exact linked.node c own k seat
  asked := linked.asked

theorem linked_elsewhere {n : Network} {timed : Moment × Event} (linked : Linked n)
    (elsewhere : n.isElsewhere timed.2 = true) :
    Linked { n with server := Reflectd.step n.server timed } := by
  have noReload : timed.2.loaded = none := by
    cases event : timed.2 <;> simp [event, Network.isElsewhere, Event.loaded] at elsewhere ⊢
  have away : ∀ c, n.mine c = true → timed.2.conn ≠ some c := by
    intro c own about
    cases event : timed.2 <;>
      simp_all [Network.isElsewhere, Event.conn]
  refine linked_server timed linked noReload (fun c own challenge same => away c own (by rw [same]; rfl))
    (fun c at_ accepted => ?_) fun c own about => absurd about (away c own)
  exact channel_elsewhere linked.placed noReload (away c (linked.owned c at_))
    (linked.channel c at_ accepted)

theorem linked_accept {n : Network} (linked : Linked n) (m : Moment)
    (challenge : Option (List Nat)) : Linked (n.accept m challenge) := by
  unfold Network.accept
  cases at_ : n.client.ws with
  | none => exact linked
  | some c =>
      cases accepted : n.accepted with
      | true => simpa [accepted] using linked
      | false =>
          obtain ⟨closed, notYet⟩ := linked.waiting c at_ accepted
          have opened := Reflectd.open_step (m := m) challenge closed
          simp only [Bool.false_eq_true, if_false]
          refine ⟨Reflectd.seated_step n.server _ linked.placed,
            Reflectd.silent_step linked.placed rfl linked.silent, linked.owned, ?_, ?_, ?_, ?_,
            linked.asked⟩
          · intro gone
            simp [at_] at gone
          · intro _ _ notAccepted
            cases notAccepted
          · intro d there _
            obtain rfl : c = d := Option.some.inj (at_.symm.trans there)
            exact .anonymous (Nat.zero_le _) opened notYet
          · intro d own k seat
            change seatOf (Reflectd.step n.server (m, .wsOpen c challenge)) d = some k at seat
            have cfg : (Reflectd.step n.server (m, .wsOpen c challenge)).cfg = n.server.cfg :=
              Reflectd.cfg_step rfl
            simp only [cfg]
            by_cases here : d = c
            · subst here
              rw [← Reflectd.hall_seat, opened.seat] at seat
              cases seat
            · have about : (m, Event.wsOpen c challenge).2.conn ≠ some d := fun same =>
                here (Option.some.inj same).symm
              rw [Reflectd.seat_step rfl (Reflectd.elsewhere_moves about)] at seat
              exact linked.node d own k seat

theorem linked_requests {n : Network} (linked : Linked n) (sent : List Request)
    (asks : ∀ body, .login body ∈ sent → body.nodeId = some n.client.cfg.nodeId) :
    Linked (n.sendRequests sent) := by
  unfold Network.sendRequests
  cases at_ : n.client.ws with
  | none => exact linked
  | some c =>
      refine { linked with asked := fun d body member => ?_ }
      by_cases here : d = c
      · subst here
        simp only [Function.update_self] at member
        exact (List.mem_append.mp member).elim (linked.asked d body) (asks body)
      · simp only [Function.update_of_ne here] at member
        exact linked.asked d body member

theorem onWsMsg_kept (cl : Client) (m : Msg) (answers : Client.Answers) :
    (cl.onWsMsg m answers).1.cfg = cl.cfg ∧ (cl.onWsMsg m answers).1.ws = cl.ws := by
  cases heard : told m with
  | none =>
      have unmoved := onWsMsg_unmoved cl heard answers
      exact ⟨unmoved.cfg, unmoved.ws⟩
  | some t =>
      cases m with
      | loginOk body =>
          obtain ⟨cfg, ws, _⟩ := onLoginOk_cases cl body answers.setup
          exact ⟨cfg, ws⟩
      | tgOk tg name =>
          simp only [Client.onWsMsg, Client.onTgOk]
          split <;> exact ⟨rfl, rfl⟩
      | tgMembershipChanged | mute | unmute => exact ⟨rfl, rfl⟩
      | _ => cases heard

theorem linked_deliver {n : Network} (linked : Linked n) (answers : Client.Answers) :
    Linked (n.deliver answers) := by
  unfold Network.deliver
  cases at_ : n.client.ws with
  | none => exact linked
  | some c =>
      simp only
      split
      next up =>
        cases next : (n.server.sent c)[n.delivered]? with
        | none => exact linked
        | some m =>
            have sending := linked_requests linked (n.client.onWsMsg m answers).2
              fun body => onWsMsg_asks n.client
            have heard := channel_delivered answers next (linked.channel c at_ up.1)
            have same : (n.sendRequests (n.client.onWsMsg m answers).2).server = n.server ∧
                (n.sendRequests (n.client.onWsMsg m answers).2).mine = n.mine ∧
                (n.sendRequests (n.client.onWsMsg m answers).2).accepted = n.accepted ∧
                (n.sendRequests (n.client.onWsMsg m answers).2).client = n.client := by
              unfold Network.sendRequests
              cases n.client.ws <;> exact ⟨rfl, rfl, rfl, rfl⟩
            obtain ⟨server, mine, accepted, client⟩ := same
            obtain ⟨cfg, ws⟩ := onWsMsg_kept n.client m answers
            refine ⟨sending.placed, sending.silent, fun d there => ?_, fun gone => ?_, fun d there notAccepted => ?_,
              fun d there _ => ?_, fun d own k seat => ?_, fun d body member => ?_⟩
            · simp only [ws] at there
              simp only [mine]
              exact linked.owned d there
            · simp [ws, at_] at gone
            · simp only [accepted, up.1] at notAccepted
              cases notAccepted
            · simp only [ws, at_] at there
              obtain rfl : c = d := Option.some.inj there
              simp only [server]
              exact heard
            · simp only [cfg]
              have kept := sending.node d own k seat
              simpa only [client] using kept
            · simp only [cfg]
              have kept := sending.asked d body member
              simpa only [client] using kept
      next => exact linked

def nextLogin : List Request → Option Login
  | .login body :: _ => some body
  | _ => none

def MutedAlike (n : Network) : Input → Prop
  -- A login that the reflector is about to accept finds its node muted as the client thinks.
  | .serve c m len draw =>
      n.client.ws = some c → len ≤ maxMsg → ∀ body ∈ nextLogin (n.requests c),
        ∀ a ∈ (Reflectd.loginCheck (n.server.at m) body draw).toOption,
          (n.server.nodeRt a.nodeIdx).muted = n.client.muted
  | _ => True

instance (n : Network) : (i : Input) → Decidable (MutedAlike n i)
  | .serve c m len draw =>
      inferInstanceAs (Decidable (n.client.ws = some c → len ≤ maxMsg →
        ∀ body ∈ nextLogin (n.requests c),
          ∀ a ∈ (Reflectd.loginCheck (n.server.at m) body draw).toOption, _))
  | .elsewhere _ | .accept _ _ | .upgraded | .deliver _ | .serverClose _ _ | .clientClose _ _
  | .clientError _ | .poll _ _ _ | .command _ => isTrue trivial

theorem linked_serve {n : Network} (linked : Linked n) {c : Nat} {m : Moment} {len : Nat}
    {draw : LoginDraw} (alike : MutedAlike n (.serve c m len draw)) :
    Linked (n.serve c m len draw) := by
  unfold Network.serve
  cases waiting : n.requests c with
  | nil => exact linked
  | cons request rest =>
      let taken : Network := { n with requests := Function.update n.requests c rest }
      have linked' : Linked taken := by
        refine { linked with asked := fun d body member => ?_ }
        by_cases here : d = c
        · subst here
          simp only [taken, Function.update_self] at member
          exact linked.asked d body (waiting ▸ List.mem_cons_of_mem _ member)
        · simp only [taken, Function.update_of_ne here] at member
          exact linked.asked d body member
      refine linked_server (n := taken) _ linked' rfl (fun _ _ _ same => by cases same)
        (fun d at_ accepted => ?_) fun d own about k seat => ?_
      · have before := linked.channel d at_ accepted
        by_cases here : c = d
        · subst here
          refine channel_served linked.placed (fun fits body a asks checked => ?_) before
          simp only at asks
          subst asks
          have checked : Reflectd.loginCheck (n.server.at m) body draw = .ok a := checked
          have right := alike at_ fits body (by rw [waiting]; rfl)
          rw [checked] at right
          exact right a rfl
        · exact channel_elsewhere linked.placed rfl (fun same => here (Option.some.inj same)) before
      · obtain rfl : c = d := Option.some.inj about
        change seatOf (Reflectd.step n.server
          (m, .wsMsg c { len := len, request := request } draw)) c = some k at seat
        cases before : seatOf n.server c with
        | some k' =>
            have stays := (Reflectd.follows_step
              (m, .wsMsg c { len := len, request := request } draw) linked.placed rfl
              (fun same => by cases same) (fun _ same => by cases same) before).1
            obtain rfl : k' = k := Option.some.inj (stays.symm.trans seat)
            exact linked.node c own k' before
        | none =>
            cases here : n.server.conns c with
            | none =>
                have notOpen : ∀ challenge, Event.wsMsg c { len := len, request := request } draw ≠
                    .wsOpen c challenge := fun _ same => by cases same
                have closed := Reflectd.closed_step
                  (m, .wsMsg c { len := len, request := request } draw) rfl
                  (Reflectd.closed_moves (s := n.server.at m) here notOpen) here
                simp [seatOf, closed] at seat
            | some cs =>
                have opened : ((hall n.server).door c).isSome := by simp [hall, here]
                have empty : (hall n.server).seat c = none := (Reflectd.hall_seat _ c).trans before
                rcases Reflectd.login_step m { len := len, request := request } draw linked.placed
                    ⟨opened, empty, linked.silent c opened empty⟩ with
                  still | ⟨body, a, _, _, asks, checked, seat', _⟩
                · rw [← Reflectd.hall_seat, still.seat] at seat
                  cases seat
                · obtain rfl : a.nodeIdx = k := Option.some.inj (seat'.symm.trans seat)
                  simp only at asks
                  subst asks
                  obtain ⟨id, named, found⟩ := Reflectd.loginCheck_node checked
                  have own' := linked.asked c body (waiting ▸ List.mem_cons_self ..)
                  obtain rfl : id = n.client.cfg.nodeId := Option.some.inj (named.symm.trans own')
                  exact found

theorem linked_clientClose {n : Network} (linked : Linked n) (now : Int) (rand : Nat) :
    Linked (n.clientClose now rand) := by
  unfold Network.clientClose
  cases at_ : n.client.ws with
  | none => exact linked
  | some c =>
      have closed : (n.client.onClose now rand).ws = none ∧
          (n.client.onClose now rand).cfg = n.client.cfg ∧
          (n.client.onClose now rand).state ≠ .connected := by
        unfold Client.onClose
        simp only
        split
        next stopped => exact ⟨rfl, rfl, by rw [stopped]; decide⟩
        next => split <;> exact ⟨rfl, rfl, fun up => by cases up⟩
      obtain ⟨ws, cfg, down⟩ := closed
      refine ⟨linked.placed, linked.silent, fun d there => ?_, fun _ => ⟨rfl, down⟩,
        fun d there => ?_, fun d there => ?_, fun d own k seat => ?_, fun d body member => ?_⟩
      · simp [ws] at there
      · simp [ws] at there
      · simp [ws] at there
      · simp only [cfg]
        exact linked.node d own k seat
      · simp only [cfg]
        exact linked.asked d body member

theorem linked_serverClose {n : Network} (linked : Linked n) (c : Nat) (m : Moment) :
    Linked { n with server := Reflectd.step n.server (m, .close c) } := by
  have gone : (Reflectd.step n.server (m, .close c)).conns c = none := Reflectd.close_step
  refine linked_server (m, .close c) linked rfl (fun _ _ _ same => by cases same)
    (fun d at_ accepted => ?_) fun d own about k seat => ?_
  · have before := linked.channel d at_ accepted
    by_cases here : c = d
    · subst here
      have counted : n.delivered ≤ (n.server.sent c).length := by
        cases before with
        | closed counted _ | anonymous counted _ _ | seated counted _ _ => exact counted
      exact .closed (counted_step (fun _ same => by cases same) counted) gone
    · exact channel_elsewhere linked.placed rfl (fun same => here (Option.some.inj same)) before
  · obtain rfl : c = d := Option.some.inj about
    simp [seatOf, gone] at seat

/-! ### The background thread -/

theorem pollClearAlarm_unmoved (cl : Client) : Unmoved cl cl.pollClearAlarm := by
  unfold Client.pollClearAlarm
  simp only
  split
  next =>
    split
    next => exact ⟨rfl, rfl, rfl, fun up => by cases up⟩
    next => exact ⟨rfl, rfl, rfl, id⟩
  next => exact Unmoved.refl cl

theorem pollReconnect_unmoved (cl : Client) : Unmoved cl cl.pollReconnect := by
  unfold Client.pollReconnect
  simp only
  split
  next => split <;> exact ⟨rfl, rfl, rfl, id⟩
  next => exact Unmoved.refl cl

theorem pollSetTg_unmoved (cl : Client) : Unmoved cl cl.pollSetTg.1 := by
  unfold Client.pollSetTg
  split
  next => exact ⟨rfl, rfl, rfl, id⟩
  next => exact Unmoved.refl cl

theorem Unmoved.trans {a b c : Client} (first : Unmoved a b) (second : Unmoved b c) : Unmoved a c :=
  ⟨second.cfg.trans first.cfg, second.ws.trans first.ws, second.view.trans first.view,
    fun up => first.state (second.state up)⟩

theorem poll_cases (cl : Client) (now : Int) (lossPct : Option Rat) (dialled : Option Nat) :
    Unmoved cl (cl.poll now lossPct dialled).1 ∨
      cl.ws = none ∧ (cl.poll now lossPct dialled).1.cfg = cl.cfg ∧
        (cl.poll now lossPct dialled).1.ws = dialled ∧
        (cl.poll now lossPct dialled).1.state ≠ .connected := by
  -- A turn of the thread leaves the connection alone, or makes one when there is none.
  have asked : Unmoved cl cl.pollClearAlarm.pollReconnect.pollSetTg.1 :=
    ((pollClearAlarm_unmoved cl).trans (pollReconnect_unmoved _)).trans (pollSetTg_unmoved _)
  simp only [Client.poll, Client.pollConnect]
  split
  next dials =>
    have free : cl.ws = none := asked.ws.symm.trans dials.2.1
    refine Or.inr ⟨free, ?_, ?_, ?_⟩
    · cases dialled <;> exact asked.cfg
    · cases dialled with
      | none => exact dials.2.1
      | some c => rfl
    · cases dialled <;> exact fun up => by cases up
  next => exact Or.inl asked

theorem poll_asks (cl : Client) (now : Int) (lossPct : Option Rat) (dialled : Option Nat)
    (body : Login) : .login body ∉ (cl.poll now lossPct dialled).2 := by
  intro member
  simp only [Client.poll, Client.pollSetTg, Client.pollQuality] at member
  rcases List.mem_append.mp member with tg | quality
  · split at tg <;> simp at tg
  · split at quality <;> simp at quality

theorem linked_poll {n : Network} (linked : Linked n) (now : Int) (lossPct : Option Rat)
    (dialled : Option Nat) : Linked (n.poll now lossPct dialled) := by
  have sending := linked_requests linked (n.client.poll now lossPct dialled).2
    fun body member => absurd member (poll_asks n.client now lossPct dialled body)
  unfold Network.poll
  split
  next fresh =>
    rcases poll_cases n.client now lossPct dialled with unmoved | ⟨free, cfg, ws, down⟩
    · have client : (n.sendRequests (n.client.poll now lossPct dialled).2).client = n.client := by
        unfold Network.sendRequests
        cases n.client.ws <;> rfl
      have mine : (n.sendRequests (n.client.poll now lossPct dialled).2).mine =
          fun c => n.mine c || decide ((n.client.poll now lossPct dialled).1.ws = some c) := by
        have own : (n.sendRequests (n.client.poll now lossPct dialled).2).mine = n.mine := by
          unfold Network.sendRequests
          cases n.client.ws <;> rfl
        rw [own]
        funext c
        by_cases at_ : n.client.ws = some c
        · simp [linked.owned c at_]
        · simp [unmoved.ws, at_]
      have kept := linked_unmoved sending (by rw [client]; exact unmoved)
      simp only [← mine]
      exact kept
    · have still : n.sendRequests (n.client.poll now lossPct dialled).2 = n := by
        simp [Network.sendRequests, free]
      obtain ⟨notAccepted, _⟩ := linked.offline free
      have new : ∀ c, dialled = some c → n.server.conns c = none := by
        rintro c rfl
        simp only [Option.all_some, Network.isFresh, Bool.and_eq_true, Option.isNone_iff_eq_none]
          at fresh
        exact fresh.1.2
      simp only [still]
      refine ⟨linked.placed, linked.silent, fun d there => ?_, fun _ => ⟨notAccepted, down⟩,
        fun d there _ => ⟨new d (ws.symm.trans there), down⟩, fun d _ accepted => ?_,
        fun d own k seat => ?_, fun d body member => ?_⟩
      · simp only [Bool.or_eq_true, decide_eq_true_eq]
        exact Or.inr there
      · simp [notAccepted] at accepted
      · simp only [cfg]
        simp only [ws, Bool.or_eq_true, decide_eq_true_eq] at own
        rcases own with own | dials
        · exact linked.node d own k seat
        · simp [seatOf, new d dials] at seat
      · simp only [cfg]
        exact linked.asked d body member
  next => exact linked

theorem linked_step {n : Network} {i : Input} (linked : Linked n) (alike : MutedAlike n i) :
    Linked (n.step i) := by
  cases i with
  | elsewhere timed =>
      simp only [Network.step]
      split
      next elsewhere => exact linked_elsewhere linked elsewhere
      next => exact linked
  | accept m challenge => exact linked_accept linked m challenge
  | upgraded =>
      simp only [Network.step]
      split
      next => exact linked_unmoved linked ⟨rfl, rfl, rfl, fun up => by cases up⟩
      next => exact linked
  | deliver answers => exact linked_deliver linked answers
  | serve c m len draw => exact linked_serve linked alike
  | serverClose c m =>
      simp only [Network.step]
      split
      next => exact linked_serverClose linked c m
      next => exact linked
  | clientClose now rand => exact linked_clientClose linked now rand
  | clientError text => exact linked_unmoved linked ⟨rfl, rfl, rfl, id⟩
  | poll now lossPct dialled => exact linked_poll linked now lossPct dialled
  | command command =>
      refine linked_unmoved linked ?_
      cases command with
      | tg tg =>
          simp only [Client.command]
          split <;> exact ⟨rfl, rfl, rfl, id⟩
      | _ => exact ⟨rfl, rfl, rfl, id⟩

theorem linked_init (server : Reflectd.Rcfg) (bootMs : Nat) (client : LinkCfg) :
    Linked (Network.init server bootMs client) where
  placed := Reflectd.seated_init server bootMs
  silent := fun _ opened => by cases opened
  owned := fun _ at_ => by cases at_
  offline := fun _ => ⟨rfl, fun up => by cases up⟩
  waiting := fun _ at_ => by cases at_
  channel := fun _ at_ => by cases at_
  node := fun _ own => by cases own
  asked := fun _ _ member => by cases member

theorem agrees_of_linked {n : Network} (linked : Linked n) : n.Agrees := by
  intro up
  cases at_ : n.client.ws with
  | none => exact absurd up (linked.offline at_).2
  | some c =>
      refine ⟨c, rfl, fun quiet => ?_⟩
      obtain ⟨opened, drained, _⟩ := quiet
      have accepted : n.accepted = true := by
        cases taken : n.accepted with
        | true => rfl
        | false => exact absurd up (linked.waiting c at_ taken).2
      cases linked.channel c at_ accepted with
      | closed _ closed => simp [closed] at opened
      | anonymous _ _ notYet => exact absurd up notYet
      | @seated _ k seat tracks =>
          refine ⟨k, linked.node c (linked.owned c at_) k seat, ?_⟩
          have nothing : pending n.server c n.delivered = [] := by
            rw [pending, drained, List.drop_length, List.filterMap_nil]
          rw [nothing] at tracks
          cases tracks with
          | past _ ends =>
              have same : n.client.view = nodeView n.server k := ends up
              exact ⟨congrArg Prod.snd same, congrArg Prod.fst same⟩

theorem agrees_when_muted_alike (server : Reflectd.Rcfg) (bootMs : Nat) (client : LinkCfg)
    (inputs : List Input)
    (alike : Guarded Network.step MutedAlike (Network.init server bootMs client) inputs) :
    (run Network.step (Network.init server bootMs client) inputs).Agrees :=
  agrees_of_linked
    (Machine.run_invariant Network.step (fun _ _ => linked_step) (linked_init server bootMs client)
      alike)

/-! ## A muted client that reconnects -/

def station : LinkCfg where
  enabled := true
  nodeId := "A"
  reflectorWs := "wss://192.0.2.1:8443"
  reconnectMinMs := 1000
  reconnectMaxMs := 60000

def answers : Client.Answers where
  now := 0
  rand := 0
  hello := .login (String.ofList (List.replicate 32 '0')) (String.ofList (List.replicate 64 'a'))
  setup := none

def comeUp (c : Nat) (now : Int) : List Input :=
  -- Connect, log in and hear the welcome and the roster.
  [.poll now none (some c), .accept (Reflectd.after 0) (some (List.replicate 16 3)), .upgraded,
    .deliver answers,
    .serve c (Reflectd.after 5) 300
      { hmacMatches := true
        srtp := some {
          masterKey := List.replicate 16 1
          masterSalt := List.replicate 14 2
          nodeSsrc := 1000
          reflSsrc := 2000 }
        rtpStart := some (0, 0) },
    .deliver answers, .deliver answers]

def operator (action : Reflectd.NodeAction) : Input :=
  .elsewhere (Reflectd.after 5, .admin (some "A") action)

def goDown (c : Nat) : List Input :=
  [.serverClose c (Reflectd.after 5), .clientClose 100 0]

def mutedOffline : Network :=
  run Network.step (Network.init Reflectd.roster 0 station)
    (comeUp 0 0 ++ [operator (.mute 60), .deliver answers] ++ goDown 0 ++ comeUp 1 5000)

/-- The close unmutes the node, and the new session does not unmute the client. -/
theorem muted_client_not_unmuted : ¬ mutedOffline.Agrees := by
  intro agrees
  obtain ⟨c, at_, settled⟩ := agrees (by decide)
  obtain rfl : 1 = c := Option.some.inj ((show mutedOffline.client.ws = some 1 by decide).symm.trans at_)
  obtain ⟨k, found, muted, _⟩ := settled ⟨by decide, by decide, by decide⟩
  obtain rfl : 0 = k := Option.some.inj
    ((show Reflectd.rcfgNodeIdx mutedOffline.server.cfg mutedOffline.client.cfg.nodeId = some 0
      by decide).symm.trans found)
  exact absurd muted (by decide)

/-- With the mute lifted before the close, the client and the reflector agree again. -/
theorem unmuted_client_agrees :
    (run Network.step (Network.init Reflectd.roster 0 station)
      (comeUp 0 0 ++ [operator (.mute 60), .deliver answers, operator .unmute, .deliver answers] ++
        goDown 0 ++ comeUp 1 5000)).Agrees :=
  agrees_when_muted_alike Reflectd.roster 0 station _ (by decide)

end Kerchunk.Link
