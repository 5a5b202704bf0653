import Kerchunk.Lib.Appends
import Kerchunk.Reflectd.State
import Kerchunk.Resp.Model

set_option autoImplicit false

/-!
# The state that the dashboard shows (`build_state_json`)

The buffer grows before each node's record, and for nothing else. Memory is granted.
-/

namespace Kerchunk.Reflectd

open Config (Text)
open Events (signed truth unsigned)
open GrowingBuffer (Growing Op recordOps run)
open Json (Tree separated)

def stateCap : Nat := 16384
def nodeRoom : Nat := 600

/-- `%.1f` of a number: tenths, and a tie goes to the even one. -/
def tenthsOf (x : Rat) : Nat :=
  let scaled := (if x < 0 then -x else x) * 10
  let whole := scaled.floor.toNat
  let rest := scaled - whole
  if rest < 1 / 2 then whole
  else if 1 / 2 < rest then whole + 1
  else whole + whole % 2

def oneDecimal (x : Rat) : Text :=
  (Resp.Printed.finite (decide (x < 0)) (tenthsOf x)).text

/-- The runtime state with the daemon's start and the configuration's recording switch. -/
structure Dashboard where
  state : State
  startedAt : Int
  recordingEnabled : Bool

namespace Dashboard

variable (d : Dashboard)

def uptimeS (i : Nat) : Int :=
  let n := d.state.nodeRt i
  if n.connected then d.state.time - n.connectedAt else 0

def quietMs (i : Nat) : Int :=
  let n := d.state.nodeRt i
  if n.connected then d.state.nowMs - n.lastPktAt else 0

def talker (i : Nat) : Option Text :=
  (d.state.tgRt i).talkerNodeIdx.map fun k => (d.state.cfg.nodeId k).toList

def talkerForMs (i : Nat) : Int :=
  match (d.state.tgRt i).talkerNodeIdx with
  | none => 0
  | some k =>
    let started := (d.state.nodeRt k).floorStartedMs
    if 0 < started then d.state.nowMs - started else 0

/-! ## Pieces -/

def header : Text :=
  "\x7b\"reflector\":\"reflectd\",\"keepalive_s\":".toList ++ signed d.state.cfg.keepaliveS ++
    ",\"hangtime_ms\":".toList ++ signed d.state.cfg.hangtimeMs ++
    ",\"now\":".toList ++ signed d.state.time ++
    ",\"started_at\":".toList ++ signed d.startedAt ++
    ",\"last_reload_at\":".toList ++ signed d.state.lastReloadAt ++
    ",\"reload_count\":".toList ++ unsigned d.state.reloadCount ++
    ",\"recording_enabled\":".toList ++ truth d.recordingEnabled ++ ",\"nodes\":[".toList

def nodeItem (i : Nat) : Text :=
  let n := d.state.nodeRt i
  "\x7b\"id\":\"".toList ++ (d.state.cfg.nodeId i).toList ++
    "\",\"connected\":".toList ++ truth n.connected ++
    ",\"muted\":".toList ++ truth n.muted ++
    ",\"tg\":".toList ++ unsigned n.curTg ++
    ",\"banned\":".toList ++ truth (d.state.cfg.banned i) ++
    ",\"client_version\":\"".toList ++ n.clientVersion.toList ++
    "\",\"connected_at\":".toList ++ signed n.connectedAt ++
    ",\"uptime_s\":".toList ++ signed (d.uptimeS i) ++
    ",\"quiet_ms\":".toList ++ signed (d.quietMs i) ++
    ",\"rtp_in\":".toList ++ unsigned n.rtpIn ++
    ",\"rtp_out\":".toList ++ unsigned n.rtpOut ++
    ",\"bytes_in\":".toList ++ unsigned n.bytesIn ++
    ",\"bytes_out\":".toList ++ unsigned n.bytesOut ++
    ",\"floor_holds\":".toList ++ unsigned n.floorHolds ++
    ",\"floor_seconds\":".toList ++ oneDecimal (n.floorMs / 1000) ++
    ",\"last_loss_pct\":".toList ++ oneDecimal n.lastLossPct ++
    ",\"last_quality_at\":".toList ++ signed n.lastQualityAt ++
    ",\"srtp_fail_30s\":".toList ++ signed n.srtpFailCount ++
    ",\"mute_reason\":\"".toList ++ n.muteReason.toList ++ "\"\x7d".toList

def tgItem (i : Nat) : Text :=
  "\x7b\"tg\":".toList ++ unsigned (d.state.cfg.tgNumber i) ++
    ",\"name\":\"".toList ++ (d.state.cfg.tgName i).toList ++
    "\",\"members\":".toList ++ unsigned (d.state.cfg.members i).length ++
    ",\"talker\":".toList ++
      (match d.talker i with
        | some talker => "\"".toList ++ talker ++ "\"".toList
        | none => "null".toList) ++
    ",\"talker_for_ms\":".toList ++ signed (d.talkerForMs i) ++ "\x7d".toList

def nodeItems : List Text :=
  separated ((List.range d.state.cfg.nodes.length).map d.nodeItem)

def tail : List Text :=
  "],\"talkgroups\":[".toList ::
    separated ((List.range d.state.cfg.tgs.length).map d.tgItem) ++ ["]\x7d".toList]

def ops : List (Op Char) :=
  .put d.header :: (recordOps nodeRoom d.nodeItems ++ d.tail.map .put)

def start : Growing Char where
  capacity := stateCap
  buffer := Appends.empty

def buildStateJson : Text :=
  (run start d.ops).buffer.written

/-! ## The value that is meant -/

def nodeTree (i : Nat) : Tree :=
  let n := d.state.nodeRt i
  .object
    [("id".toList, .string (d.state.cfg.nodeId i).toList),
      ("connected".toList, .truth n.connected),
      ("muted".toList, .truth n.muted),
      ("tg".toList, .number (unsigned n.curTg)),
      ("banned".toList, .truth (d.state.cfg.banned i)),
      ("client_version".toList, .string n.clientVersion.toList),
      ("connected_at".toList, .number (signed n.connectedAt)),
      ("uptime_s".toList, .number (signed (d.uptimeS i))),
      ("quiet_ms".toList, .number (signed (d.quietMs i))),
      ("rtp_in".toList, .number (unsigned n.rtpIn)),
      ("rtp_out".toList, .number (unsigned n.rtpOut)),
      ("bytes_in".toList, .number (unsigned n.bytesIn)),
      ("bytes_out".toList, .number (unsigned n.bytesOut)),
      ("floor_holds".toList, .number (unsigned n.floorHolds)),
      ("floor_seconds".toList, .number (oneDecimal (n.floorMs / 1000))),
      ("last_loss_pct".toList, .number (oneDecimal n.lastLossPct)),
      ("last_quality_at".toList, .number (signed n.lastQualityAt)),
      ("srtp_fail_30s".toList, .number (signed n.srtpFailCount)),
      ("mute_reason".toList, .string n.muteReason.toList)]

def tgTree (i : Nat) : Tree :=
  .object
    [("tg".toList, .number (unsigned (d.state.cfg.tgNumber i))),
      ("name".toList, .string (d.state.cfg.tgName i).toList),
      ("members".toList, .number (unsigned (d.state.cfg.members i).length)),
      ("talker".toList, ((d.talker i).map Tree.string).getD .null),
      ("talker_for_ms".toList, .number (signed (d.talkerForMs i)))]

def tree : Tree :=
  .object
    [("reflector".toList, .string "reflectd".toList),
      ("keepalive_s".toList, .number (signed d.state.cfg.keepaliveS)),
      ("hangtime_ms".toList, .number (signed d.state.cfg.hangtimeMs)),
      ("now".toList, .number (signed d.state.time)),
      ("started_at".toList, .number (signed d.startedAt)),
      ("last_reload_at".toList, .number (signed d.state.lastReloadAt)),
      ("reload_count".toList, .number (unsigned d.state.reloadCount)),
      ("recording_enabled".toList, .truth d.recordingEnabled),
      ("nodes".toList, .array ((List.range d.state.cfg.nodes.length).map d.nodeTree)),
      ("talkgroups".toList, .array ((List.range d.state.cfg.tgs.length).map d.tgTree))]

variable {d}

theorem truth_text (b : Bool) : (Tree.truth b).text id id = truth b := by
  cases b <;> rfl

set_option maxRecDepth 2000 in
theorem nodeItem_text (i : Nat) : (d.nodeTree i).text id id = d.nodeItem i := by
  unfold nodeTree nodeItem
  rw [Tree.text, Json.fieldsText]
  simp only [Json.moreFields, Json.stringText, Json.text_string, Json.text_number, truth_text, id_eq]
  simp only [String.reduceToList, List.append_assoc, List.cons_append, List.nil_append]
  rfl

theorem tgItem_text (i : Nat) : (d.tgTree i).text id id = d.tgItem i := by
  unfold tgTree tgItem
  rw [Tree.text, Json.fieldsText]
  cases d.talker i <;>
  · simp only [Json.moreFields, Json.stringText, Json.text_string, Option.map_some,
      Option.map_none, Option.getD_some, Option.getD_none, Tree.text, Json.nullWord, id_eq]
    simp only [String.reduceToList, List.append_assoc, List.cons_append, List.nil_append]
    rfl

theorem items_text {item : Nat → Text} {value : Nat → Tree}
    (texts : ∀ i, (value i).text id id = item i) (n : Nat) :
    Json.itemsText id id ((List.range n).map value) =
      (separated ((List.range n).map item)).flatten := by
  rw [Json.itemsText_separated, List.map_map]
  congr 2
  exact List.map_congr_left fun i _ => texts i

set_option maxRecDepth 2000 in
theorem tree_text : d.tree.text id id = d.header ++ (d.nodeItems.flatten ++ d.tail.flatten) := by
  have nodes := items_text (nodeItem_text (d := d)) d.state.cfg.nodes.length
  have tgs := items_text (tgItem_text (d := d)) d.state.cfg.tgs.length
  unfold tree header tail nodeItems
  rw [Tree.text, Json.fieldsText]
  simp only [Json.moreFields, Json.stringText, Json.text_string, Json.text_number, Json.text_array,
    truth_text, nodes, tgs, id_eq, List.flatten_cons, List.flatten_append, List.flatten_nil]
  simp only [String.reduceToList, List.append_assoc, List.cons_append, List.nil_append]
  rfl

/-! ## Which states come back -/

/-- The strings that are copied into the text. -/
structure Plain (d : Dashboard) : Prop where
  nodes : ∀ i < d.state.cfg.nodes.length, Json.Plain (d.state.cfg.nodeId i).toList ∧
    Json.Plain (d.state.nodeRt i).clientVersion.toList ∧
    Json.Plain (d.state.nodeRt i).muteReason.toList
  tgs : ∀ i < d.state.cfg.tgs.length, Json.Plain (d.state.cfg.tgName i).toList ∧
    ∀ talker ∈ d.talker i, Json.Plain talker

theorem natural_faithful (n : Nat) : (Tree.number (unsigned n)).Faithful id id ↔ True :=
  iff_true_intro (Json.faithful_number (Events.regular_natural n))

theorem integer_faithful (x : Int) : (Tree.number (signed x)).Faithful id id ↔ True :=
  iff_true_intro (Json.faithful_number (Events.regular_integer x))

theorem decimal_faithful (x : Rat) : (Tree.number (oneDecimal x)).Faithful id id ↔ True :=
  iff_true_intro ((Resp.printed_regular _).mpr rfl)

theorem truth_faithful (b : Bool) : (Tree.truth b).Faithful id id ↔ True := by
  unfold Tree.Faithful
  exact Iff.rfl

theorem nodeTree_faithful (i : Nat) :
    (d.nodeTree i).Faithful id id ↔ Json.Plain (d.state.cfg.nodeId i).toList ∧
      Json.Plain (d.state.nodeRt i).clientVersion.toList ∧
      Json.Plain (d.state.nodeRt i).muteReason.toList := by
  unfold nodeTree
  rw [Json.faithful_record rfl]
  simp only [List.forall_mem_cons, Json.faithful_string_iff, natural_faithful, integer_faithful,
    decimal_faithful, truth_faithful, true_and, List.not_mem_nil, false_implies, implies_true, and_true]

theorem tgTree_faithful (i : Nat) :
    (d.tgTree i).Faithful id id ↔ Json.Plain (d.state.cfg.tgName i).toList ∧
      ∀ talker ∈ d.talker i, Json.Plain talker := by
  have nobody : Tree.null.Faithful id id ↔ True := by
    unfold Tree.Faithful
    exact Iff.rfl
  unfold tgTree
  rw [Json.faithful_record rfl]
  cases d.talker i with
  | none =>
    simp [Json.faithful_string_iff, natural_faithful, integer_faithful, nobody]
  | some talker =>
    simp [Json.faithful_string_iff, natural_faithful, integer_faithful]

theorem tree_faithful : d.tree.Faithful id id ↔ d.Plain := by
  have title : Json.Plain "reflectd".toList ↔ True := iff_true_intro (by decide)
  unfold tree
  rw [Json.faithful_record rfl]
  simp only [List.forall_mem_cons, Json.faithful_string_iff, natural_faithful, integer_faithful,
    truth_faithful, title, Json.faithful_array, List.forall_mem_map, List.mem_range,
    nodeTree_faithful, tgTree_faithful, true_and, List.not_mem_nil, false_implies, implies_true,
    and_true]
  exact ⟨fun ⟨nodes, tgs⟩ => ⟨nodes, tgs⟩, fun ⟨nodes, tgs⟩ => ⟨nodes, tgs⟩⟩

/-! ## How much room there is -/

/-- Room in the buffer as it was granted, and as it was doubled before each node's record. -/
structure Held (slack : Nat) (d : Dashboard) : Prop where
  header : d.header.length + slack ≤ stateCap
  bare : d.nodeItems = [] → d.header.length + d.tail.flatten.length + slack ≤ stateCap
  records : GrowingBuffer.Holds stateCap nodeRoom slack d.header.length d.nodeItems d.tail

/-- The cursor stays inside, and a state that fits is read back. -/
structure Sound (d : Dashboard) : Prop where
  within : GrowingBuffer.Within 0 start d.ops
  back : GrowingBuffer.Within 1 start d.ops → Json.readJson d.buildStateJson = some d.tree

theorem header_grown {slack : Nat} (room : d.header.length + slack ≤ stateCap) :
    GrowingBuffer.Grown stateCap nodeRoom slack (GrowingBuffer.step start (.put d.header)) := by
  have cursor : (GrowingBuffer.step start (.put d.header)).buffer.cursor = d.header.length :=
    Nat.zero_add _
  refine ⟨by rwa [cursor], ⟨0, rfl⟩, fun m below => ?_⟩
  have atLeast : stateCap ≤ stateCap * 2 ^ m := Nat.le_mul_of_pos_right stateCap (Nat.two_pow_pos m)
  exact absurd below (Nat.not_lt.mpr atLeast)

theorem within_held (slack : Nat) : GrowingBuffer.Within slack start d.ops ↔ Held slack d := by
  have cursor : (GrowingBuffer.step start (.put d.header)).buffer.cursor = d.header.length :=
    Nat.zero_add _
  have capacity : (GrowingBuffer.step start (.put d.header)).capacity = stateCap := rfl
  have later (room : d.header.length + slack ≤ stateCap) :=
    @GrowingBuffer.within_iff Char slack _ stateCap nodeRoom d.nodeItems d.tail (header_grown room)
      (Nat.le_of_ble_eq_true rfl)
  rw [cursor, capacity] at later
  rw [ops, GrowingBuffer.within_cons]
  constructor
  next =>
    rintro ⟨-, rest⟩
    have room := rest [] List.nil_prefix
    rw [run, List.foldl_nil, cursor, capacity] at room
    obtain ⟨bare, records⟩ := (later room).mp rest
    exact ⟨room, bare, records⟩
  next =>
    rintro ⟨room, bare, records⟩
    have begun : start.buffer.cursor + slack ≤ start.capacity :=
      Nat.le_trans (Nat.add_le_add_right (Nat.zero_le _) slack) room
    exact ⟨begun, (later room).mpr ⟨bare, records⟩⟩

theorem buildStateJson_whole (within : GrowingBuffer.Within 1 start d.ops) :
    d.buildStateJson = d.tree.text id id := by
  rw [buildStateJson, GrowingBuffer.run_whole within, tree_text, ops, List.map_cons, List.map_append,
    List.flatten_cons, List.flatten_append, GrowingBuffer.records_pieces,
    GrowingBuffer.puts_pieces]
  rfl

theorem sound_iff (d : Dashboard) : d.Sound ↔ Held 0 d ∧ (Held 1 d → d.Plain) := by
  have back (held : Held 1 d) : Json.readJson d.buildStateJson = some d.tree ↔ d.Plain := by
    rw [buildStateJson_whole ((within_held 1).mpr held),
      Json.readJson_text_iff Json.told_id Json.told_id, tree_faithful]
  constructor
  next =>
    rintro ⟨within, reads⟩
    exact ⟨(within_held 0).mp within,
      fun held => (back held).mp (reads ((within_held 1).mpr held))⟩
  next =>
    rintro ⟨held, plain⟩
    refine ⟨(within_held 0).mpr held, fun within => ?_⟩
    have fits := (within_held 1).mp within
    exact (back fits).mpr (plain fits)

end Dashboard

end Kerchunk.Reflectd
