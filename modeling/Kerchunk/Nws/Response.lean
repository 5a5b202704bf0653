import Kerchunk.Config.Duration

set_option autoImplicit false

/-!
# Answers of the weather service (`modules/mod_nws.c`)

What `process_alerts` reads out of the JSON of an answer. It does not parse the JSON: it looks for
the names of fields in the text.
-/

namespace Kerchunk.Nws

open Config (Text atoiText isDigit isspace)

def alertIdLen : Nat := 128
def alertEvtLen : Nat := 64
def alertHdlLen : Nat := 256
def alertDescLen : Nat := 4096
def alertInstLen : Nat := 1024
def alertAreaLen : Nat := 512
def alertSendLen : Nat := 64

def strstr (needle : Text) : Text → Option (Text × Text)
  -- What stands before the first occurrence, and the text from it on.
  | [] => if needle = [] then some ([], []) else none
  | c :: rest =>
    if needle.isPrefixOf (c :: rest) then some ([], c :: rest)
    else (strstr needle rest).map fun found => (c :: found.1, found.2)

/-! ## Strings -/

def decoded (c : Char) : Char :=
  if c = 'n' then '\n' else if c = 'r' then '\r' else if c = 't' then '\t' else c

def put (max : Nat) (out more : Text) : Text :=
  -- What does not fit is left out, and what follows it may fit again.
  if out.length + more.length < max then out ++ more else out

def jsonChars (max : Nat) (out : Text) : Text → Text
  | [] => out
  | '"' :: _ => out
  | '\\' :: 'u' :: a :: b :: c :: d :: rest =>
    -- `\uXXXX` is kept as it stands.
    jsonChars max (put max out ['\\', 'u', a, b, c, d]) rest
  | '\\' :: 'u' :: rest => jsonChars max out ('u' :: rest)
  | '\\' :: c :: rest => jsonChars max (put max out [decoded c]) rest
  | c :: rest => jsonChars max (put max out [c]) rest

def isBlank (c : Char) : Bool :=
  c = ' ' || c = '\n' || c = '\r' || c = '\t'

def jsonStr (json : Text) (key : String) (max : Nat) : Text :=
  let needle := ['"'] ++ key.toList ++ ['"', ':']
  match strstr needle json with
  | none => []
  | some (_, found) =>
    match (found.drop needle.length).dropWhile isBlank with
    | '"' :: p => jsonChars max [] p
    | _ => []

theorem put_fits {max : Nat} {out : Text} (more : Text) (fits : out.length < max) :
    (put max out more).length < max := by
  unfold put
  split
  · rwa [List.length_append]
  · exact fits

theorem jsonChars_fits {max : Nat} {out : Text} (fits : out.length < max) (p : Text) :
    (jsonChars max out p).length < max := by
  fun_induction jsonChars max out p with
  | case1 => exact fits
  | case2 => exact fits
  | case3 out a b c d rest ih => exact ih (put_fits _ fits)
  | case4 out rest notLong ih => exact ih fits
  | case5 out c rest notLong notU ih => exact ih (put_fits _ fits)
  | case6 out c rest notQuote notLong notU notEscape ih => exact ih (put_fits _ fits)

theorem jsonStr_fits (json : Text) (key : String) {max : Nat} (room : 0 < max) :
    (jsonStr json key max).length < max := by
  unfold jsonStr
  dsimp only
  split
  · exact room
  · split
    · exact jsonChars_fits room _
    · exact room

/-! ## Times -/

def scanInt (text : Text) : Option (Int × Text) :=
  -- `%d`
  let blanked := text.dropWhile isspace
  let digits := match blanked with
    | '-' :: rest => rest
    | '+' :: rest => rest
    | rest => rest
  if (digits.takeWhile isDigit) = [] then none
  else some (atoiText blanked, digits.dropWhile isDigit)

def scanNext (mark : Char) (text : Text) : Option (Int × Text) :=
  -- A character of the format, and `%d`.
  match text with
  | c :: rest => if c = mark then scanInt rest else none
  | [] => none

def daysFromCivil (year month day : Int) : Int :=
  -- Days since 1970-01-01; the year begins with March, and a month may be of another year.
  let year := year + (month - 1) / 12
  let month := (month - 1) % 12 + 1
  let year := if month ≤ 2 then year - 1 else year
  let monthFromMarch := if month > 2 then month - 3 else month + 9
  let dayOfYear := (153 * monthFromMarch + 2) / 5 + day - 1
  365 * year + year / 4 - year / 100 + year / 400 + dayOfYear - 719468

def tzOffSec (tz : Text) : Int :=
  let hoursMinutes (rest : Text) : Int :=
    match scanInt rest with
    | none => 0
    | some (th, rest) =>
      match scanNext ':' rest with
      | none => th * 3600
      | some (tm, _) => th * 3600 + tm * 60
  match tz with
  | '+' :: rest => hoursMinutes rest
  | '-' :: rest => -hoursMinutes rest
  -- `Z` or empty is UTC.
  | _ => 0

def scanTime (s : Text) : Option Int := do
  let (year, s) ← scanInt s
  let (month, s) ← scanNext '-' s
  let (day, s) ← scanNext '-' s
  let (hour, s) ← scanNext 'T' s
  let (minute, s) ← scanNext ':' s
  let (second, _) ← scanNext ':' s
  return daysFromCivil year month day * 86400 + hour * 3600 + minute * 60 + second

def parseIso8601 (s : Text) : Int :=
  -- 0 is an unknown time.
  match scanTime s with
  | none => 0
  | some t => if s.length < 19 ∨ t = -1 then 0 else t - tzOffSec (s.drop 19)

example : parseIso8601 "2024-05-01T12:00:00-05:00".toList = 1714582800 := by decide

/-! ## Alerts -/

inductive Severity where
  | unknown
  | minor
  | moderate
  | severe
  | extreme
deriving DecidableEq

def Severity.level : Severity → Nat
  | .unknown => 0
  | .minor => 1
  | .moderate => 2
  | .severe => 3
  | .extreme => 4

def parseSeverity (s : Text) : Severity :=
  if s = "Extreme".toList then .extreme
  else if s = "Severe".toList then .severe
  else if s = "Moderate".toList then .moderate
  else if s = "Minor".toList then .minor
  else .unknown

/-- An alert as an answer lists it. -/
structure Listed where
  id : Text
  event : Text
  severity : Text
  headline : Text
  status : Text
  description : Text
  instruction : Text
  areaDesc : Text
  sender : Text
  effective : Int
  expires : Int
  idFits : id.length < alertIdLen
deriving DecidableEq

theorem id_fits (block : Text) : (jsonStr block "id" alertIdLen).length < alertIdLen :=
  jsonStr_fits block "id" (Nat.succ_pos 127)

def Listed.ofBlock (block : Text) : Listed where
  id := jsonStr block "id" alertIdLen
  event := jsonStr block "event" alertEvtLen
  severity := jsonStr block "severity" 32
  headline := jsonStr block "headline" alertHdlLen
  status := jsonStr block "status" 16
  description := jsonStr block "description" alertDescLen
  instruction := jsonStr block "instruction" alertInstLen
  areaDesc := jsonStr block "areaDesc" alertAreaLen
  sender := jsonStr block "senderName" alertSendLen
  effective := parseIso8601 (jsonStr block "effective" 48)
  expires := parseIso8601 (jsonStr block "expires" 48)
  idFits := id_fits block

def properties : Text :=
  "\"properties\"".toList

-- Every round takes the mark of a block, so the length of the text bounds their number.
def blocksFrom : Nat → Text → List Text
  | 0, _ => []
  | rounds + 1, p =>
    match strstr properties p with
    | none => []
    | some (_, found) =>
      let p := found.drop properties.length
      -- The search for the next block begins one character further on.
      match strstr properties (p.drop 1) with
      | none => [p]
      | some (between, blockEnd) => (p.take 1 ++ between) :: blocksFrom rounds blockEnd

def listedAlerts (json : Text) : List Listed :=
  (blocksFrom json.length json).map Listed.ofBlock

/-! The rounds are enough. -/

theorem length_strstr {needle text between found : Text}
    (occurs : strstr needle text = some (between, found)) :
    between.length + found.length = text.length := by
  induction text generalizing between found with
  | nil =>
    unfold strstr at occurs
    split_ifs at occurs
    cases occurs
    rfl
  | cons c rest ih =>
    unfold strstr at occurs
    split_ifs at occurs with here
    next =>
      cases occurs
      simp
    next =>
      obtain ⟨later, inner, same⟩ := Option.map_eq_some_iff.mp occurs
      cases same
      have := @ih later.1 later.2 inner
      simp only [List.length_cons]
      omega

theorem blocksFrom_enough {rounds : Nat} {p : Text} (enough : p.length ≤ rounds) (more : Nat) :
    blocksFrom (rounds + more) p = blocksFrom rounds p := by
  induction rounds generalizing p with
  | zero =>
    have empty : p = [] := List.length_eq_zero_iff.mp (Nat.le_zero.mp enough)
    subst empty
    cases more <;> rfl
  | succ rounds ih =>
    rw [Nat.add_right_comm]
    unfold blocksFrom
    cases first : strstr properties p with
    | none => rfl
    | some occurrence =>
      dsimp only
      cases next : strstr properties ((occurrence.2.drop properties.length).drop 1) with
      | none => rfl
      | some following =>
        have whole := @length_strstr _ _ occurrence.1 occurrence.2 first
        have part := @length_strstr _ _ following.1 following.2 next
        have mark : properties.length = 12 := rfl
        rw [List.length_drop, List.length_drop] at part
        dsimp only
        rw [ih (by omega)]

end Kerchunk.Nws
