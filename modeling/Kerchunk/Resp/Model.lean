import Kerchunk.Config.Ini
import Kerchunk.Events.Json
import Kerchunk.Lib.Appends
import Kerchunk.Lib.JsonEscape
import Kerchunk.Lib.JsonTree

set_option autoImplicit false

/-!
# Responses (`src/kerchunk_resp.c`)

A response is built as JSON and as text at once. A call is what it appends to either buffer, piece by
piece; the cursor decides how far a string is taken.
-/

namespace Kerchunk.Resp

open Appends (Buffer Within appendAll)
open Config (Text bounded newline)
open Events (signed tenths truth)
open Json (Tree)

def respMax : Nat := 4096

/-! ## Values -/

/-- A double as `%.1f` prints it. -/
inductive Printed where
  | finite (negative : Bool) (tenths : Nat)
  | infinite (negative : Bool)
  | notANumber (negative : Bool)
deriving DecidableEq

def signText (negative : Bool) : Text :=
  if negative then ['-'] else []

def Printed.text : Printed → Text
  | .finite negative n => signText negative ++ tenths n
  | .infinite negative => signText negative ++ "inf".toList
  | .notANumber negative => signText negative ++ "nan".toList

def Printed.isFinite : Printed → Bool
  | .finite _ _ => true
  | _ => false

inductive Call where
  | str (key : Text) (val : Option Text)
  | int (key : Text) (val : Int)
  | int64 (key : Text) (val : Int)
  | bool (key : Text) (val : Bool)
  | float (key : Text) (val : Printed)
  | jsonRaw (fragment : Text)
  | textRaw (fragment : Text)

/-! ## JSON -/

def jsonKey (jfirst : Bool) (key : Text) : List Text :=
  (if jfirst then [] else [[',']]) ++ ['"' :: (key ++ ['"', ':'])]

def respEscape (c : Char) : Text :=
  if c = '"' then "\\\"".toList
  else if c = '\\' then "\\\\".toList
  else if c = Json.lineFeed then "\\n".toList
  else if c = Json.carriageReturn then "\\r".toList
  else if c = Json.tab then "\\t".toList
  else if c.toNat < 0x20 then
    "\\u00".toList ++ [Json.lowHex (c.toNat / 16), Json.lowHex (c.toNat % 16)]
  else [c]

def escapeLoop (jlen : Nat) : Text → List Text
  | [] => []
  | c :: rest =>
    if jlen < respMax - 6 then respEscape c :: escapeLoop (jlen + (respEscape c).length) rest else []

def respStr (jfirst : Bool) (jlen : Nat) (key : Text) (val : Option Text) : List Text :=
  let opening := jsonKey jfirst key ++ [['"']]
  opening ++ escapeLoop (jlen + opening.flatten.length) (val.getD []) ++ [['"']]

def respInt (jfirst : Bool) (key : Text) (val : Int) : List Text :=
  jsonKey jfirst key ++ [signed val]

def respInt64 (jfirst : Bool) (key : Text) (val : Int) : List Text :=
  jsonKey jfirst key ++ [signed val]

def respBool (jfirst : Bool) (key : Text) (val : Bool) : List Text :=
  jsonKey jfirst key ++ [truth val]

def respFloat (jfirst : Bool) (key : Text) (val : Printed) : List Text :=
  jsonKey jfirst key ++ [val.text]

def Call.json (jfirst : Bool) (jlen : Nat) : Call → List Text
  | .str key val => respStr jfirst jlen key val
  | .int key val => respInt jfirst key val
  | .int64 key val => respInt64 jfirst key val
  | .bool key val => respBool jfirst key val
  | .float key val => respFloat jfirst key val
  | .jsonRaw fragment => [fragment]
  | .textRaw _ => []

def Call.jfirst (jfirst : Bool) : Call → Bool
  -- A raw fragment does not count as a field.
  | .jsonRaw _ | .textRaw _ => jfirst
  | _ => false

def jsonPieces (jfirst : Bool) (jlen : Nat) : List Call → List Text
  | [] => [[Json.closeBrace]]
  | call :: calls =>
    let pieces := call.json jfirst jlen
    pieces ++ jsonPieces (call.jfirst jfirst) (jlen + pieces.flatten.length) calls

/-- From `resp_init` to `resp_finish`. -/
def respJson (calls : List Call) : List Text :=
  [Json.openBrace] :: jsonPieces true 1 calls

/-! ## Text -/

def capitalised : Text → Text
  | [] => []
  | c :: rest => (if 'a' ≤ c ∧ c ≤ 'z' then Char.ofNat (c.toNat - 32) else c) :: rest

def textKey (key : Text) : Text :=
  (capitalised (bounded 64 key)).map fun c => if c = '_' then ' ' else c

def textLine (key val : Text) : Text :=
  let label := textKey key
  label ++ List.replicate (16 - label.length) ' ' ++ ' ' :: (val ++ [newline])

def yesNo (val : Bool) : Text :=
  if val then "yes".toList else "no".toList

def Call.line : Call → List Text
  | .str key val => [textLine key (val.getD [])]
  | .int key val => [textLine key (signed val)]
  | .int64 key val => [textLine key (signed val)]
  | .bool key val => [textLine key (yesNo val)]
  | .float key val => [textLine key val.text]
  | .jsonRaw _ => []
  | .textRaw fragment => [fragment]

def respText (calls : List Call) : List Text :=
  calls.flatMap Call.line

/-! ## The whole response -/

def Call.field : Call → Option (Text × Tree)
  | .str key val => some (key, .string (val.getD []))
  | .int key val => some (key, .number (signed val))
  | .int64 key val => some (key, .number (signed val))
  | .bool key val => some (key, .truth val)
  | .float key val => some (key, .number val.text)
  | .jsonRaw _ => none
  | .textRaw _ => none

/-- The fields that were given. -/
def fields (calls : List Call) : List (Text × Tree) :=
  calls.filterMap Call.field

def Call.isTyped : Call → Bool
  | .jsonRaw _ => false
  | _ => true

/-- The JSON of a call whose string is not cut. -/
def Call.whole (jfirst : Bool) : Call → Text
  | .str key val =>
    (jsonKey jfirst key).flatten ++ Json.stringText (fun s => s.flatMap respEscape) (val.getD [])
  | call => (call.json jfirst 0).flatten

def wholePieces (jfirst : Bool) : List Call → Text
  | [] => [Json.closeBrace]
  | call :: calls => call.whole jfirst ++ wholePieces (call.jfirst jfirst) calls

def wholeJson (calls : List Call) : Text :=
  Json.openBrace :: wholePieces true calls

/-- Nothing is cut, neither by a buffer nor by the escape loop. -/
structure Fits (calls : List Call) : Prop where
  json : Within 1 respMax Appends.empty (respJson calls)
  text : Within 1 respMax Appends.empty (respText calls)
  uncut : (respJson calls).flatten = wholeJson calls

theorem respEscape_full (c : Char) : respEscape c = Json.fullEscape c := by
  by_cases special : c = '"' ∨ c = '\\' ∨ c = Json.lineFeed ∨ c = Json.carriageReturn ∨ c = Json.tab
  next => rcases special with rfl | rfl | rfl | rfl | rfl <;> rfl
  next =>
    simp only [not_or] at special
    obtain ⟨quote, slash, feed, carriage, tabbed⟩ := special
    by_cases control : c.toNat < 0x20
    next =>
      have low : ¬ 0x20 ≤ c.toNat := Nat.not_le.mpr control
      simp [respEscape, Json.fullEscape, Json.writable, Json.controlEscape, quote, slash, feed,
        carriage, tabbed, control, low]
    next =>
      have printable : 0x20 ≤ c.toNat := Nat.not_lt.mp control
      simp [respEscape, Json.fullEscape, Json.shortEscape, Json.writable, quote, slash, feed, carriage,
        tabbed, control, printable]

theorem respEscape_all (s : Text) : s.flatMap respEscape = Json.fullyEscaped s := by
  rw [Json.fullyEscaped, show respEscape = Json.fullEscape from funext respEscape_full]

theorem told_escaped : Json.Told Json.fullyEscaped :=
  fun s _ _ _ _ rest _ enough => Json.readString_fullyEscaped s rest enough

theorem kept_escaped (s : Text) : Json.Kept Json.fullyEscaped s :=
  fun rest _ enough => Json.readString_fullyEscaped s rest enough

/-! ## The fields as one value -/

theorem jsonKey_text (jfirst : Bool) (key : Text) :
    (jsonKey jfirst key).flatten = (if jfirst then [] else [',']) ++ Json.stringText id key ++ [':'] := by
  cases jfirst <;> simp [jsonKey, Json.stringText]

/-- A typed call writes its field. -/
theorem whole_field {call : Call} {key : Text} {t : Tree} (given : call.field = some (key, t))
    (jfirst : Bool) :
    call.whole jfirst =
      (if jfirst then [] else [',']) ++ Json.stringText id key ++
        ':' :: t.text id Json.fullyEscaped ∧ call.jfirst jfirst = false := by
  cases call with
  | str k val =>
    obtain ⟨rfl, rfl⟩ := Prod.mk.inj (Option.some.inj given)
    simp [Call.whole, jsonKey_text, Tree.text, Json.stringText, respEscape_all, Call.jfirst]
  | int k val =>
    obtain ⟨rfl, rfl⟩ := Prod.mk.inj (Option.some.inj given)
    simp [Call.whole, Call.json, respInt, jsonKey_text, Tree.text, Call.jfirst]
  | int64 k val =>
    obtain ⟨rfl, rfl⟩ := Prod.mk.inj (Option.some.inj given)
    simp [Call.whole, Call.json, respInt64, jsonKey_text, Tree.text, Call.jfirst]
  | bool k val =>
    obtain ⟨rfl, rfl⟩ := Prod.mk.inj (Option.some.inj given)
    cases val <;>
      simp [Call.whole, Call.json, respBool, truth, Json.trueWord, Json.falseWord, jsonKey_text,
        Tree.text, Call.jfirst]
  | float k val =>
    obtain ⟨rfl, rfl⟩ := Prod.mk.inj (Option.some.inj given)
    simp [Call.whole, Call.json, respFloat, jsonKey_text, Tree.text, Call.jfirst]
  | jsonRaw fragment => cases given
  | textRaw fragment => cases given

theorem whole_text {call : Call} (typed : call.isTyped = true) (unfielded : call.field = none)
    (jfirst : Bool) : call.whole jfirst = [] ∧ call.jfirst jfirst = jfirst := by
  cases call with
  | textRaw fragment => exact ⟨rfl, rfl⟩
  | jsonRaw fragment => cases typed
  | str | int | int64 | bool | float => cases unfielded

theorem wholePieces_fields {calls : List Call} (typed : calls.all Call.isTyped = true)
    (jfirst : Bool) :
    wholePieces jfirst calls =
      (if jfirst then Json.fieldsText id Json.fullyEscaped (fields calls)
        else Json.moreFields id Json.fullyEscaped (fields calls)) ++ [Json.closeBrace] := by
  induction calls generalizing jfirst with
  | nil => cases jfirst <;> simp [wholePieces, fields, Json.fieldsText, Json.moreFields]
  | cons call calls ih =>
    obtain ⟨isTyped, others⟩ := Bool.and_eq_true_iff.mp typed
    rw [wholePieces, ih others]
    cases given : call.field with
    | none =>
      obtain ⟨nothing, first⟩ := whole_text isTyped given jfirst
      have skipped : fields (call :: calls) = fields calls := List.filterMap_cons_none given
      rw [nothing, first, skipped]
      rfl
    | some field =>
      obtain ⟨key, t⟩ := field
      obtain ⟨written, first⟩ := whole_field given jfirst
      have listed : fields (call :: calls) = (key, t) :: fields calls :=
        List.filterMap_cons_some given
      rw [written, first, listed]
      cases jfirst <;> simp [Json.fieldsText, Json.moreFields]

theorem wholeJson_text {calls : List Call} (typed : calls.all Call.isTyped = true) :
    wholeJson calls = (Tree.object (fields calls)).text id Json.fullyEscaped := by
  rw [wholeJson, wholePieces_fields typed, Tree.text]
  rfl

/-! ## Which fields come back -/

/-- Keys that need no escape and numbers that JSON has. -/
structure Proper (calls : List Call) : Prop where
  keys : ∀ f ∈ fields calls, Json.Plain f.1
  numbers : ∀ key val, Call.float key val ∈ calls → val.isFinite = true

theorem printed_regular {name write : Text → Text} (val : Printed) :
    (Tree.number val.text).Faithful name write ↔ val.isFinite = true := by
  unfold Tree.Faithful
  cases val with
  | finite negative n =>
    have regular := Events.regular_decimal n
    cases negative with
    | false => exact ⟨fun _ => rfl, fun _ => regular⟩
    | true =>
      exact ⟨fun _ => rfl, fun _ => Json.regular_negative regular (Json.digits_unsigned _ _)⟩
  | infinite negative => cases negative <;> decide
  | notANumber negative => cases negative <;> decide

theorem field_faithful {call : Call} {key : Text} {t : Tree} (given : call.field = some (key, t)) :
    t.Faithful id Json.fullyEscaped ↔ ∀ k val, call = .float k val → val.isFinite = true := by
  cases call with
  | str k val =>
    obtain ⟨-, rfl⟩ := Prod.mk.inj (Option.some.inj given)
    unfold Tree.Faithful
    simp [kept_escaped]
  | int k val | int64 k val =>
    obtain ⟨-, rfl⟩ := Prod.mk.inj (Option.some.inj given)
    simp [Json.faithful_number (Events.regular_integer val)]
  | bool k val =>
    obtain ⟨-, rfl⟩ := Prod.mk.inj (Option.some.inj given)
    unfold Tree.Faithful
    simp
  | float k val =>
    obtain ⟨-, rfl⟩ := Prod.mk.inj (Option.some.inj given)
    rw [printed_regular]
    simp
  | jsonRaw fragment | textRaw fragment => cases given

theorem fields_faithful (calls : List Call) :
    (Tree.object (fields calls)).Faithful id Json.fullyEscaped ↔ Proper calls := by
  rw [Json.faithful_object]
  constructor
  next =>
    intro all
    refine ⟨fun f member => Json.kept_id_iff.mp (all f member).1, fun key val called => ?_⟩
    have given : (key, Tree.number val.text) ∈ fields calls :=
      List.mem_filterMap.mpr ⟨_, called, rfl⟩
    exact (printed_regular val).mp (all _ given).2
  next =>
    rintro ⟨keys, numbers⟩ ⟨key, t⟩ member
    refine ⟨Json.kept_id_iff.mpr (keys _ member), ?_⟩
    obtain ⟨call, called, given⟩ := List.mem_filterMap.mp member
    refine (field_faithful given).mpr fun k val isFloat => numbers k val ?_
    rwa [← isFloat]

/-! ## What is built -/

def jsonBuffer (calls : List Call) : Text :=
  (appendAll respMax Appends.empty (respJson calls)).written

def textBuffer (calls : List Call) : Text :=
  (appendAll respMax Appends.empty (respText calls)).written

/-- The cursors stay inside, and a response that fits holds what was given. -/
structure Sound (calls : List Call) : Prop where
  json : Within 0 respMax Appends.empty (respJson calls)
  text : Within 0 respMax Appends.empty (respText calls)
  lines : Fits calls → textBuffer calls = (calls.flatMap Call.line).flatten
  back : Fits calls → calls.all Call.isTyped = true →
    Json.readJson (jsonBuffer calls) = some (.object (fields calls))

/-- The lengths add up, and where that leaves room for the terminators the fields can be read. -/
structure Suits (calls : List Call) : Prop where
  json : (respJson calls).flatten.length ≤ respMax
  text : (respText calls).flatten.length ≤ respMax
  proper : (respJson calls).flatten.length < respMax → (respText calls).flatten.length < respMax →
    (respJson calls).flatten = wholeJson calls → calls.all Call.isTyped = true → Proper calls

theorem back_iff {calls : List Call} (fits : Fits calls) (typed : calls.all Call.isTyped = true) :
    Json.readJson (jsonBuffer calls) = some (.object (fields calls)) ↔ Proper calls := by
  have whole : jsonBuffer calls = (Tree.object (fields calls)).text id Json.fullyEscaped := by
    rw [jsonBuffer, Appends.appendAll_whole fits.json, fits.uncut, wholeJson_text typed]
  rw [whole, Json.readJson_text_iff Json.told_id told_escaped, fields_faithful]

theorem textLine_length (key val : Text) :
    (textLine key val).length = max 16 (textKey key).length + val.length + 2 := by
  simp only [textLine, List.length_append, List.length_replicate, List.length_cons, List.length_nil]
  omega

theorem within_length (slack : Nat) (pieces : List Text) :
    Within slack respMax Appends.empty pieces ↔ pieces.flatten.length + slack ≤ respMax := by
  rw [Appends.within_iff]
  simp [Appends.empty]

theorem sound_iff (calls : List Call) : Sound calls ↔ Suits calls := by
  constructor
  next =>
    rintro ⟨json, text, -, back⟩
    refine ⟨(within_length 0 _).mp json, (within_length 0 _).mp text,
      fun jsonFits textFits uncut typed => ?_⟩
    have fits : Fits calls :=
      ⟨(within_length 1 _).mpr jsonFits, (within_length 1 _).mpr textFits, uncut⟩
    exact (back_iff fits typed).mp (back fits typed)
  next =>
    rintro ⟨json, text, proper⟩
    refine ⟨(within_length 0 _).mpr json, (within_length 0 _).mpr text,
      fun fits => Appends.appendAll_whole fits.text, fun fits typed => (back_iff fits typed).mpr ?_⟩
    exact proper ((within_length 1 _).mp fits.json) ((within_length 1 _).mp fits.text) fits.uncut typed

end Kerchunk.Resp
