import Kerchunk.Lib.Json

set_option autoImplicit false

/-!
# Events as JSON (`src/kerchunk_evt_json.c`)

Strings of an event are what their pointers hold, `none` for a null pointer. Fields that no line of
the serialiser reads are left out.
-/

namespace Kerchunk.Events

abbrev Text := List Char

/-! ## Events -/

structure Vcor where
  source : Option Text
  userId : Int
  username : Option Text
deriving DecidableEq

/-- `kerchevt_type_t` with the fields of each. -/
inductive EventData where
  | audioFrame
  | ctcssDetect (freqX10 : Nat) (active : Bool)
  | dcsDetect (code : Nat) (active : Bool)
  | dtmfDigit (digit : Char)
  | dtmfEnd
  | corAssert
  | corDrop
  | vcorAssert (vcor : Vcor)
  | vcorDrop (vcor : Vcor)
  | pttAssert
  | pttDrop
  | linkRxAssert
  | linkRxDrop
  | rxStateChange (oldState newState : Int)
  | txStateChange (oldState newState : Int)
  | tailStart
  | tailExpire
  | rxTimeout
  | callerIdentified (userId method : Int)
  | callerCleared
  | queueDrain
  | queueComplete (durationMs : Nat)
  | queuePreempted (source : Option Text) (itemsFlushed : Int)
  /-- The duration in tenths of a second, as it is printed. -/
  | recordingSaved (path direction : Option Text) (userId : Int) (tenths : Nat)
  | announcement (source description : Option Text)
  | configReload
  | shutdown
  | tick
  | heartbeat
  | custom (id : Nat)
  | unlisted (code : Int)
deriving DecidableEq

structure Event where
  data : EventData
  timestampUs : Nat
deriving DecidableEq

/-! ## Names -/

def rxStateName (s : Int) : Text :=
  if s = 0 then "IDLE".toList
  else if s = 1 then "RECEIVING".toList
  else if s = 2 then "TAIL_WAIT".toList
  else if s = 3 then "HANG_WAIT".toList
  else if s = 4 then "RX_TIMEOUT".toList
  else if s = 5 then "BRIDGING".toList
  else "UNKNOWN".toList

def txStateName (s : Int) : Text :=
  if s = 0 then "TX_IDLE".toList
  else if s = 1 then "TX_RELAY".toList
  else if s = 2 then "TX_DELAY".toList
  else if s = 3 then "TX_DRAIN".toList
  else if s = 4 then "TX_TAIL".toList
  else if s = 5 then "TX_HOLD".toList
  else "TX_UNKNOWN".toList

def methodName (m : Int) : Text :=
  if m = 1 then "CTCSS".toList
  else if m = 2 then "DCS".toList
  else if m = 3 then "ANI".toList
  else if m = 4 then "DTMF".toList
  else "unknown".toList

/-! ## Serialising -/

def unsigned (n : Nat) : Text :=
  Nat.toDigits 10 n

def signed : Int → Text
  | .ofNat n => unsigned n
  | .negSucc n => '-' :: unsigned (n + 1)

def tenths (n : Nat) : Text :=
  -- `%.1f` of a tenth of the number.
  unsigned (n / 10) ++ '.' :: unsigned (n % 10)

def truth (b : Bool) : Text :=
  if b then "true".toList else "false".toList

def orEmpty (s : Option Text) : Text :=
  s.getD []

def stamp (evt : Event) : Text :=
  "\"ts\":".toList ++ unsigned evt.timestampUs ++ "\x7d".toList

def bare (name : String) (evt : Event) : Text :=
  -- An event without fields.
  "\x7b\"type\":\"".toList ++ name.toList ++ "\",".toList ++ stamp evt

def vcorText (name : String) (vcor : Vcor) (evt : Event) : Text :=
  let start := "\x7b\"type\":\"".toList ++ name.toList ++ "\",\"source\":\"".toList ++
    orEmpty vcor.source ++ "\",\"user_id\":".toList ++ signed vcor.userId
  match vcor.username with
  | some (c :: rest) =>
    start ++ ",\"username\":\"".toList ++ (c :: rest) ++ "\",".toList ++ stamp evt
  | _ => start ++ ",".toList ++ stamp evt

def statesText (name : String) (oldState newState : Text) (evt : Event) : Text :=
  "\x7b\"type\":\"".toList ++ name.toList ++ "\",\"old_state\":\"".toList ++ oldState ++
    "\",\"new_state\":\"".toList ++ newState ++ "\",".toList ++ stamp evt

def unknownText (code : Int) (evt : Event) : Text :=
  "\x7b\"type\":\"unknown\",\"code\":".toList ++ signed code ++ ",".toList ++ stamp evt

def kerchevtToJson (evt : Event) : Text :=
  -- What is printed, were the buffer as large as it takes.
  match evt.data with
  | .corAssert => bare "cor_assert" evt
  | .corDrop => bare "cor_drop" evt
  | .vcorAssert vcor => vcorText "vcor_assert" vcor evt
  | .vcorDrop vcor => vcorText "vcor_drop" vcor evt
  | .pttAssert => bare "ptt_assert" evt
  | .pttDrop => bare "ptt_drop" evt
  | .rxStateChange oldState newState =>
    statesText "rx_state_change" (rxStateName oldState) (rxStateName newState) evt
  | .txStateChange oldState newState =>
    statesText "tx_state_change" (txStateName oldState) (txStateName newState) evt
  | .tailStart => bare "tail_start" evt
  | .tailExpire => bare "tail_expire" evt
  | .rxTimeout => bare "rx_timeout" evt
  | .callerIdentified userId method =>
    "\x7b\"type\":\"caller_identified\",\"user_id\":".toList ++ signed userId ++
      ",\"method\":\"".toList ++ methodName method ++ "\",".toList ++ stamp evt
  | .callerCleared => bare "caller_cleared" evt
  | .ctcssDetect freqX10 active =>
    "\x7b\"type\":\"ctcss_detect\",\"freq_hz\":".toList ++ tenths freqX10 ++
      ",\"active\":".toList ++ truth active ++ ",".toList ++ stamp evt
  | .dcsDetect code active =>
    "\x7b\"type\":\"dcs_detect\",\"code\":".toList ++ unsigned code ++
      ",\"active\":".toList ++ truth active ++ ",".toList ++ stamp evt
  | .dtmfDigit digit =>
    "\x7b\"type\":\"dtmf_digit\",\"digit\":\"".toList ++ [digit] ++ "\",".toList ++ stamp evt
  | .dtmfEnd => bare "dtmf_end" evt
  | .queueDrain => bare "queue_drain" evt
  | .queueComplete durationMs =>
    "\x7b\"type\":\"queue_complete\",\"duration_ms\":".toList ++ unsigned durationMs ++
      ",".toList ++ stamp evt
  | .queuePreempted source itemsFlushed =>
    "\x7b\"type\":\"queue_preempted\",\"source\":\"".toList ++ orEmpty source ++
      "\",\"items_flushed\":".toList ++ signed itemsFlushed ++ ",".toList ++ stamp evt
  | .recordingSaved path direction userId duration =>
    "\x7b\"type\":\"recording_saved\",\"direction\":\"".toList ++ orEmpty direction ++
      "\",\"path\":\"".toList ++ orEmpty path ++ "\",\"duration\":".toList ++ tenths duration ++
      ",\"user_id\":".toList ++ signed userId ++ ",".toList ++ stamp evt
  | .announcement source description =>
    "\x7b\"type\":\"announcement\",\"source\":\"".toList ++ orEmpty source ++
      "\",\"description\":\"".toList ++ orEmpty description ++ "\",".toList ++ stamp evt
  | .configReload => bare "config_reload" evt
  | .shutdown => bare "shutdown" evt
  | .heartbeat => bare "heartbeat" evt
  | .custom id => "\x7b\"type\":\"custom\",\"id\":".toList ++ unsigned id ++ ",".toList ++ stamp evt
  -- The types that are not listed come with their numbers.
  | .audioFrame => unknownText 0 evt
  | .linkRxAssert => unknownText 11 evt
  | .linkRxDrop => unknownText 12 evt
  | .tick => unknownText 27 evt
  | .unlisted code => unknownText code evt

/-! ## What the text says -/

open Json (Member Value)

def string (name : String) (s : Text) : Member :=
  (name.toList, .string s)

def integer (name : String) (n : Int) : Member :=
  (name.toList, .number (signed n))

def natural (name : String) (n : Nat) : Member :=
  (name.toList, .number (unsigned n))

def fixed (name : String) (n : Nat) : Member :=
  (name.toList, .number (tenths n))

def flag (name : String) (b : Bool) : Member :=
  (name.toList, .truth b)

def Vcor.fields (vcor : Vcor) : List Member :=
  [string "source" (orEmpty vcor.source), integer "user_id" vcor.userId] ++
    match vcor.username with
    | some (c :: rest) => [string "username" (c :: rest)]
    | _ => []

def EventData.typeName : EventData → String
  | .audioFrame => "unknown"
  | .ctcssDetect _ _ => "ctcss_detect"
  | .dcsDetect _ _ => "dcs_detect"
  | .dtmfDigit _ => "dtmf_digit"
  | .dtmfEnd => "dtmf_end"
  | .corAssert => "cor_assert"
  | .corDrop => "cor_drop"
  | .vcorAssert _ => "vcor_assert"
  | .vcorDrop _ => "vcor_drop"
  | .pttAssert => "ptt_assert"
  | .pttDrop => "ptt_drop"
  | .linkRxAssert => "unknown"
  | .linkRxDrop => "unknown"
  | .rxStateChange _ _ => "rx_state_change"
  | .txStateChange _ _ => "tx_state_change"
  | .tailStart => "tail_start"
  | .tailExpire => "tail_expire"
  | .rxTimeout => "rx_timeout"
  | .callerIdentified _ _ => "caller_identified"
  | .callerCleared => "caller_cleared"
  | .queueDrain => "queue_drain"
  | .queueComplete _ => "queue_complete"
  | .queuePreempted _ _ => "queue_preempted"
  | .recordingSaved _ _ _ _ => "recording_saved"
  | .announcement _ _ => "announcement"
  | .configReload => "config_reload"
  | .shutdown => "shutdown"
  | .tick => "unknown"
  | .heartbeat => "heartbeat"
  | .custom _ => "custom"
  | .unlisted _ => "unknown"

def EventData.fields : EventData → List Member
  | .ctcssDetect freqX10 active =>
    [fixed "freq_hz" freqX10, flag "active" active]
  | .dcsDetect code active => [natural "code" code, flag "active" active]
  | .dtmfDigit digit => [string "digit" [digit]]
  | .vcorAssert vcor => vcor.fields
  | .vcorDrop vcor => vcor.fields
  | .rxStateChange oldState newState =>
    [string "old_state" (rxStateName oldState), string "new_state" (rxStateName newState)]
  | .txStateChange oldState newState =>
    [string "old_state" (txStateName oldState), string "new_state" (txStateName newState)]
  | .callerIdentified userId method =>
    [integer "user_id" userId, string "method" (methodName method)]
  | .queueComplete durationMs => [natural "duration_ms" durationMs]
  | .queuePreempted source itemsFlushed =>
    [string "source" (orEmpty source), integer "items_flushed" itemsFlushed]
  | .recordingSaved path direction userId duration =>
    [string "direction" (orEmpty direction), string "path" (orEmpty path),
      fixed "duration" duration, integer "user_id" userId]
  | .announcement source description =>
    [string "source" (orEmpty source), string "description" (orEmpty description)]
  | .custom id => [natural "id" id]
  | .audioFrame => [integer "code" 0]
  | .linkRxAssert => [integer "code" 11]
  | .linkRxDrop => [integer "code" 12]
  | .tick => [integer "code" 27]
  | .unlisted code => [integer "code" code]
  | _ => []

def Event.record (evt : Event) : List Member :=
  string "type" evt.data.typeName.toList :: evt.data.fields ++ [natural "ts" evt.timestampUs]

theorem string_text (name : String) (s : Text) :
    Json.memberText (string name s) = '"' :: (name.toList ++ '"' :: ':' :: '"' :: (s ++ ['"'])) := by
  simp [string, Json.memberText, Json.quoted, Json.Value.text]

theorem number_text (key lexeme : Text) :
    Json.memberText (key, .number lexeme) = '"' :: (key ++ '"' :: ':' :: lexeme) := by
  simp [Json.memberText, Json.quoted, Json.Value.text]

theorem flag_text (name : String) (b : Bool) :
    Json.memberText (flag name b) = '"' :: (name.toList ++ '"' :: ':' :: truth b) := by
  have value : (Value.truth b).text = truth b := by cases b <;> rfl
  simp [flag, Json.memberText, Json.quoted, value]

theorem integer_text (name : String) (n : Int) :
    Json.memberText (integer name n) = '"' :: (name.toList ++ '"' :: ':' :: signed n) :=
  number_text ..

theorem natural_text (name : String) (n : Nat) :
    Json.memberText (natural name n) = '"' :: (name.toList ++ '"' :: ':' :: unsigned n) :=
  number_text ..

theorem fixed_text (name : String) (n : Nat) :
    Json.memberText (fixed name n) = '"' :: (name.toList ++ '"' :: ':' :: tenths n) :=
  number_text ..

theorem brace_eq : Json.openBrace = '\x7b' ∧ Json.closeBrace = '\x7d' := by
  decide

theorem bare_render (name : String) (evt : Event) :
    bare name evt = Json.render [string "type" name.toList, natural "ts" evt.timestampUs] := by
  unfold bare stamp
  simp [Json.render, Json.membersText, string_text, natural_text, brace_eq]

theorem statesText_render (name : String) (oldState newState : Text) (evt : Event) :
    statesText name oldState newState evt =
      Json.render [string "type" name.toList, string "old_state" oldState,
        string "new_state" newState, natural "ts" evt.timestampUs] := by
  unfold statesText stamp
  simp [Json.render, Json.membersText, string_text, natural_text, brace_eq]

theorem vcorText_render (name : String) (vcor : Vcor) (evt : Event) :
    vcorText name vcor evt =
      Json.render (string "type" name.toList :: vcor.fields ++ [natural "ts" evt.timestampUs]) := by
  obtain ⟨source, userId, username⟩ := vcor
  unfold vcorText Vcor.fields stamp
  match username with
  | none => simp [Json.render, Json.membersText, string_text, natural_text, integer_text, brace_eq]
  | some [] => simp [Json.render, Json.membersText, string_text, natural_text, integer_text, brace_eq]
  | some (c :: rest) =>
    simp [Json.render, Json.membersText, string_text, natural_text, integer_text, brace_eq]

theorem unknownText_render (code : Int) (evt : Event) :
    unknownText code evt =
      Json.render [string "type" "unknown".toList, integer "code" code,
        natural "ts" evt.timestampUs] := by
  unfold unknownText stamp
  simp [Json.render, Json.membersText, string_text, natural_text, integer_text, brace_eq]

theorem kerchevtToJson_eq (evt : Event) : kerchevtToJson evt = Json.render evt.record := by
  -- The serialiser writes the record as it is.
  obtain ⟨data, ts⟩ := evt
  cases data with
  | vcorAssert vcor => exact vcorText_render "vcor_assert" vcor _
  | vcorDrop vcor => exact vcorText_render "vcor_drop" vcor _
  | rxStateChange oldState newState => exact statesText_render "rx_state_change" _ _ _
  | txStateChange oldState newState => exact statesText_render "tx_state_change" _ _ _
  | audioFrame | linkRxAssert | linkRxDrop | tick | unlisted => exact unknownText_render _ _
  | ctcssDetect | dcsDetect | dtmfDigit | callerIdentified | queueComplete | queuePreempted
  | recordingSaved | announcement | custom =>
    unfold kerchevtToJson stamp Event.record EventData.typeName EventData.fields
    simp only [Json.render, Json.membersText, string_text, natural_text, integer_text, fixed_text,
      flag_text, brace_eq, List.append_assoc, List.cons_append, List.nil_append]
    simp only [String.reduceToList, List.cons_append, List.nil_append]
  | _ => exact bare_render _ _

/-! ## Strings that are printed -/

def EventData.strings : EventData → List Text
  -- What comes from outside: with a tone's digit, all strings of the event.
  | .dtmfDigit digit => [[digit]]
  | .vcorAssert vcor => [orEmpty vcor.source, orEmpty vcor.username]
  | .vcorDrop vcor => [orEmpty vcor.source, orEmpty vcor.username]
  | .queuePreempted source _ => [orEmpty source]
  | .recordingSaved path direction _ _ => [orEmpty path, orEmpty direction]
  | .announcement source description => [orEmpty source, orEmpty description]
  | _ => []

theorem regular_integer (n : Int) : (Value.number (signed n)).Regular := by
  cases n with
  | ofNat n => exact (Json.regular_digits n).1
  | negSucc n => exact (Json.regular_digits (n + 1)).2

theorem regular_natural (n : Nat) : (Value.number (unsigned n)).Regular :=
  (Json.regular_digits n).1

theorem regular_decimal (n : Nat) : (Value.number (tenths n)).Regular :=
  Json.regular_tenths (n / 10) (n % 10)

theorem plain_rxStateName (s : Int) : Json.Plain (rxStateName s) := by
  unfold rxStateName
  split_ifs <;> decide

theorem plain_txStateName (s : Int) : Json.Plain (txStateName s) := by
  unfold txStateName
  split_ifs <;> decide

theorem plain_methodName (m : Int) : Json.Plain (methodName m) := by
  unfold methodName
  split_ifs <;> decide

theorem plain_typeName (data : EventData) : Json.Plain data.typeName.toList := by
  unfold EventData.typeName
  cases data <;> dsimp only <;> decide

theorem string_regular {name : String} (key : Json.Plain name.toList) (s : Text) :
    Json.Regular (string name s) ↔ Json.Plain s :=
  and_iff_right key

theorem integer_regular {name : String} (key : Json.Plain name.toList) (n : Int) :
    Json.Regular (integer name n) :=
  ⟨key, regular_integer n⟩

theorem natural_regular {name : String} (key : Json.Plain name.toList) (n : Nat) :
    Json.Regular (natural name n) :=
  ⟨key, regular_natural n⟩

theorem fixed_regular {name : String} (key : Json.Plain name.toList) (n : Nat) :
    Json.Regular (fixed name n) :=
  ⟨key, regular_decimal n⟩

theorem flag_regular {name : String} (key : Json.Plain name.toList) (b : Bool) :
    Json.Regular (flag name b) :=
  ⟨key, trivial⟩

theorem plain_nil : Json.Plain [] := by
  decide

theorem vcor_regular (vcor : Vcor) : (∀ m ∈ vcor.fields, Json.Regular m) ↔
    ∀ s ∈ [orEmpty vcor.source, orEmpty vcor.username], Json.Plain s := by
  obtain ⟨source, userId, username⟩ := vcor
  match username with
  | none =>
    simp (disch := decide) [Vcor.fields, string_regular, integer_regular, orEmpty, plain_nil]
  | some [] =>
    simp (disch := decide) [Vcor.fields, string_regular, integer_regular, orEmpty, plain_nil]
  | some (c :: rest) =>
    simp (disch := decide) [Vcor.fields, string_regular, integer_regular, orEmpty]

theorem fields_regular (data : EventData) :
    (∀ m ∈ data.fields, Json.Regular m) ↔ ∀ s ∈ data.strings, Json.Plain s := by
  unfold EventData.fields EventData.strings
  cases data with
  | vcorAssert vcor => exact vcor_regular vcor
  | vcorDrop vcor => exact vcor_regular vcor
  | recordingSaved path direction userId duration =>
    simp (disch := decide) [string_regular, integer_regular, fixed_regular, and_comm]
  | _ =>
    simp (disch := decide) [string_regular, integer_regular, natural_regular, fixed_regular,
      flag_regular, plain_rxStateName, plain_txStateName, plain_methodName]

theorem record_regular (evt : Event) :
    (∀ m ∈ evt.record, Json.Regular m) ↔ ∀ s ∈ evt.data.strings, Json.Plain s := by
  have kind : Json.Regular (string "type" evt.data.typeName.toList) :=
    (string_regular (by decide) _).mpr (plain_typeName evt.data)
  have time : Json.Regular (natural "ts" evt.timestampUs) := natural_regular (by decide) _
  have last : ∀ m ∈ [natural "ts" evt.timestampUs], Json.Regular m := by
    rwa [List.forall_mem_singleton]
  rw [← fields_regular, Event.record, List.cons_append, List.forall_mem_cons,
    List.forall_mem_append, and_iff_right kind, and_iff_left last]

theorem numeric_of_regular {m : Member} (regular : m.2.Regular) : Json.Numeric m :=
  fun _ _ => regular

theorem string_numeric (name : String) (s : Text) : Json.Numeric (string name s) :=
  fun _ same => nomatch same

theorem integer_numeric (name : String) (n : Int) : Json.Numeric (integer name n) :=
  numeric_of_regular (regular_integer n)

theorem natural_numeric (name : String) (n : Nat) : Json.Numeric (natural name n) :=
  numeric_of_regular (regular_natural n)

theorem fixed_numeric (name : String) (n : Nat) : Json.Numeric (fixed name n) :=
  numeric_of_regular (regular_decimal n)

theorem flag_numeric (name : String) (b : Bool) : Json.Numeric (flag name b) :=
  fun _ same => nomatch same

theorem vcor_numeric (vcor : Vcor) : ∀ m ∈ vcor.fields, Json.Numeric m := by
  unfold Vcor.fields
  split <;> simp [string_numeric, integer_numeric]

theorem record_numeric (evt : Event) : ∀ m ∈ evt.record, Json.Numeric m := by
  have inner : ∀ m ∈ evt.data.fields, Json.Numeric m := by
    unfold EventData.fields
    cases evt.data with
    | vcorAssert vcor => exact vcor_numeric vcor
    | vcorDrop vcor => exact vcor_numeric vcor
    | _ => simp [string_numeric, integer_numeric, natural_numeric, fixed_numeric, flag_numeric]
  rw [Event.record, List.cons_append, List.forall_mem_cons, List.forall_mem_append,
    List.forall_mem_singleton]
  exact ⟨string_numeric _ _, inner, natural_numeric _ _⟩

theorem json_reads (evt : Event) :
    Json.readObject (kerchevtToJson evt) = some evt.record ↔
      ∀ s ∈ evt.data.strings, Json.Plain s := by
  -- What is written reads back when no string needs an escape.
  rw [kerchevtToJson_eq, Json.readObject_render (by simp [Event.record]) (record_numeric evt),
    record_regular]

theorem json_length (evt : Event) : (kerchevtToJson evt).length = Json.size evt.record := by
  rw [kerchevtToJson_eq, Json.length_render (by simp [Event.record])]

end Kerchunk.Events
