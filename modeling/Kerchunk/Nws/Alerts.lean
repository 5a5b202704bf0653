import Kerchunk.Lib.Machine
import Kerchunk.Lib.Tables
import Kerchunk.Nws.Response

set_option autoImplicit false

/-!
# Weather alerts (`modules/mod_nws.c`)

The table of alerts, the polls that reconcile it with an answer, and the reminders. The clock stands
still in each of them. Speech is modelled with the speech module loaded. `nws_unload` is the end of a
run.
-/

namespace Kerchunk.Nws

open Config (KerchunkConfig Text bounded configGet configGetDurationMs)
open SlotTable (occupied)

def maxAlerts : Nat := 32

structure TrackedAlert where
  id : Text
  event : Text
  headline : Text
  description : Text
  instruction : Text
  areaDesc : Text
  sender : Text
  effective : Int
  expires : Int
  severity : Severity
  firstSeen : Int
  lastAnnounced : Int
deriving DecidableEq

structure State where
  minSeverity : Severity
  autoAnnounce : Bool
  attentionTones : Bool
  reannounceMs : Int
  alerts : List (Option TrackedAlert)
  alertCount : Int
deriving DecidableEq

def start : State where
  minSeverity := .moderate
  autoAnnounce := true
  attentionTones := true
  reannounceMs := 900000
  alerts := List.replicate maxAlerts none
  alertCount := 0

def State.tracked (s : State) : List TrackedAlert :=
  occupied s.alerts

def State.ids (s : State) : List Text :=
  s.tracked.map TrackedAlert.id

/-! ## Announcements -/

inductive Notice where
  | new
  | reminder
  | expired
deriving DecidableEq

/-- `id` says which alert it is; the module does not say it. -/
structure Announcement where
  notice : Notice
  id : Text
  attention : Bool
  text : Text
  priority : Nat
  description : Text
deriving DecidableEq

def severityToPriority : Severity → Nat
  | .extreme => 8
  | .severe => 6
  | .moderate => 4
  | .minor => 2
  | .unknown => 2

def announceNewAlert (attentionTones : Bool) (a : TrackedAlert) : Announcement where
  notice := .new
  id := a.id
  attention := a.severity = .extreme && attentionTones
  text := bounded 512
    ("Attention. National Weather Service ".toList ++ a.event ++ ". ".toList ++ a.headline)
  priority := severityToPriority a.severity
  description := a.event

def announceReminder (a : TrackedAlert) : Announcement where
  notice := .reminder
  id := a.id
  attention := false
  text := bounded 256 ("Reminder. ".toList ++ a.event ++ " remains in effect.".toList)
  priority := severityToPriority a.severity
  description := a.event

def announceExpired (a : TrackedAlert) : Announcement where
  notice := .expired
  id := a.id
  attention := false
  text := bounded 256 ("The ".toList ++ a.event ++ " has expired.".toList)
  priority := 2
  description := a.event

/-! ## A poll -/

/-- An entry and its place in the array `seen`. -/
structure Sighted where
  alert : TrackedAlert
  seen : Bool
deriving DecidableEq

def Sighted.id (e : Sighted) : Text :=
  e.alert.id

/-- Where `process_alerts` is: the table, and what it has announced so far. -/
structure Walk where
  slots : List (Option Sighted)
  alertCount : Int
  announced : List Announcement
deriving DecidableEq

def Walk.entries (w : Walk) : List Sighted :=
  occupied w.slots

def beginWalk (s : State) : Walk where
  slots := s.alerts.map (·.bind fun a => some ⟨a, false⟩)
  alertCount := s.alertCount
  announced := []

def newAlert (l : Listed) (now : Int) (announces : Bool) : TrackedAlert where
  id := bounded alertIdLen l.id
  event := bounded alertEvtLen l.event
  headline := bounded alertHdlLen l.headline
  description := bounded alertDescLen l.description
  instruction := bounded alertInstLen l.instruction
  areaDesc := bounded alertAreaLen l.areaDesc
  sender := bounded alertSendLen l.sender
  effective := l.effective
  expires := l.expires
  severity := parseSeverity l.severity
  firstSeen := now
  lastAnnounced := if announces then now else 0

/-- An actual alert of sufficient severity. -/
def Listed.Counts (minSeverity : Severity) (l : Listed) : Prop :=
  l.status = "Actual".toList ∧ l.id ≠ [] ∧ minSeverity.level ≤ (parseSeverity l.severity).level

instance (minSeverity : Severity) (l : Listed) : Decidable (l.Counts minSeverity) :=
  inferInstanceAs (Decidable (_ ∧ _ ∧ _))

def markSeen (id : Text) (slots : List (Option Sighted)) : List (Option Sighted) :=
  -- Still active.
  SlotTable.alter (·.id = id) (fun e => some { e with seen := true }) slots

def sight (s : State) (now : Int) (w : Walk) (l : Listed) : Walk :=
  if l.Counts s.minSeverity then
    if w.entries.any (·.id = l.id) then
      { w with slots := markSeen l.id w.slots }
    else
      let a := newAlert l now s.autoAnnounce
      match SlotTable.add ⟨a, true⟩ w.slots with
      -- Dropped.
      | none => w
      | some slots =>
        { slots := slots
          alertCount := w.alertCount + 1
          announced :=
            if s.autoAnnounce then w.announced ++ [announceNewAlert s.attentionTones a]
            else w.announced }
  else w

def Sighted.overdue (now : Int) (e : Sighted) : Bool :=
  !e.seen && (e.alert.expires = 0 || e.alert.expires ≤ now)

def expire (now : Int) (w : Walk) : Walk where
  slots := w.slots.map (·.bind fun e => if e.overdue now then none else some e)
  alertCount := w.alertCount - (w.entries.filter (·.overdue now)).length
  announced := w.announced ++
    (w.entries.filter (·.overdue now)).map fun e => announceExpired e.alert

def processAlerts (s : State) (alerts : List Listed) (now : Int) : State × List Announcement :=
  let w := expire now (alerts.foldl (sight s now) (beginWalk s))
  ({ s with
      alerts := w.slots.map (·.bind fun e => some e.alert)
      alertCount := w.alertCount }, w.announced)

/-! ## The module -/

def due (s : State) (now : Int) (a : TrackedAlert) : Bool :=
  s.reannounceMs.tdiv 1000 ≤ now - a.lastAnnounced

def reannounce (s : State) (now : Int) : State × List Announcement :=
  ({ s with
      alerts := s.alerts.map
        (·.bind fun a => some (if due s now a then { a with lastAnnounced := now } else a)) },
    (s.tracked.filter (due s now)).map announceReminder)

def configure (s : State) (cfg : KerchunkConfig) : State :=
  let value (key : String) := configGet cfg "nws".toList key.toList
  { s with
    reannounceMs := configGetDurationMs cfg "nws".toList "reannounce_interval".toList 900000
    minSeverity :=
      if value "min_severity" = some "extreme".toList then .extreme
      else if value "min_severity" = some "severe".toList then .severe
      else if value "min_severity" = some "moderate".toList then .moderate
      else if value "min_severity" = some "minor".toList then .minor
      else s.minSeverity
    autoAnnounce := match value "auto_announce" with
      | some v => v = "on".toList
      | none => s.autoAnnounce
    attentionTones := match value "attention_tones" with
      | some v => v ≠ "off".toList
      | none => s.attentionTones }

inductive Input where
  | poll (alerts : List Listed) (now : Int)
  | reannounce (now : Int)
  | configure (cfg : KerchunkConfig)

def react (s : State) : Input → State × List Announcement
  | .poll alerts now => processAlerts s alerts now
  | .reannounce now => reannounce s now
  | .configure cfg => (configure s cfg, [])

def step (s : State) (i : Input) : State :=
  (react s i).1

def announced (s : State) (i : Input) : List Announcement :=
  (react s i).2

/-- A poll gets its alerts out of the text of an answer. -/
def pollNws (json : Text) (now : Int) : Input :=
  .poll (listedAlerts json) now

end Kerchunk.Nws
