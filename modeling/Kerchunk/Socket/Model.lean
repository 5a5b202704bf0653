import Kerchunk.Config.Duration
import Kerchunk.Lib.CString

set_option autoImplicit false

/-!
# Commands on the CLI socket (`src/kerchunk_socket.c`)

What a command answers is the list of what the main thread writes for it. The modules, their
commands, the users and the sound files change as commands run: they are read from a `World`.
-/

namespace Kerchunk.Socket

open Kerchunk.Config (Text nul newline doubleQuote atoiText)

def maxCmdLen : Nat := 1024
def maxRespLen : Nat := 4096
def respMax : Nat := 4096

def cString (s : Text) : Text :=
  CString.read nul s

def tab : Char := Char.ofNat 9

/-- A response line: what is printed behind "R " into a buffer of `size` bytes. -/
structure Row where
  size : Nat
  text : Text
deriving DecidableEq

inductive Write where
  | row (r : Row)
  | sentinel
deriving DecidableEq

/-! ## Responses -/

def linesFrom : Nat → Text → List Text
  -- The lines that the loop of `send_framed_response` finds; every round takes a character.
  | 0, _ => []
  | fuel + 1, p =>
    if p = [] then []
    else
      let line := p.takeWhile (· ≠ newline)
      let next := (p.dropWhile (· ≠ newline)).tail
      if line = [] then linesFrom fuel next else line :: linesFrom fuel next

def responseLines (text : Text) : List Text :=
  linesFrom text.length text

def responseRows (text : Text) : List Row :=
  (responseLines (cString text)).map fun line => ⟨maxRespLen + 4, line⟩

def framed (rows : List Row) : List Write :=
  rows.map .row ++ [.sentinel]

structure Resp where
  text : Text
  json : Text

def respInit : Resp where
  text := []
  json := ['{']

def respFinish (r : Resp) : Resp :=
  { r with json := (r.json ++ ['}']).take (respMax - 1) }

def unknownCommand (r : Resp) : Resp where
  -- `resp_str(r, "error", "Unknown command")`.
  text := (r.text ++ "Error            Unknown command".toList ++ [newline]).take (respMax - 1)
  json := (r.json ++ "\"error\":\"Unknown command\"".toList).take (respMax - 1)

/-! ## What the meta-commands list -/

structure UiField where
  name : Option Text
  kind : Option Text
  options : Option Text

/-- The core's own commands always have a handler. -/
structure CliCmd (World : Type) where
  name : Text
  usage : Option Text
  description : Option Text
  handler : Option (List Text → World → Resp → Resp × World)
  uiCommand : Option Text
  uiFields : List UiField
  subcommands : Option Text

structure Module (World : Type) where
  name : Option Text
  cliCommands : List (CliCmd World)

inductive SoundEntry where
  | file (name : Text)
  /-- With no names when it cannot be opened. -/
  | directory (name : Text) (files : List Text)
  | other

structure Daemon (World : Type) where
  coreCmds : List (CliCmd World)
  modules : World → List (Module World)
  usernames : World → List Text
  /-- None when no directory is set, or when it cannot be opened. -/
  sounds : World → Option (List SoundEntry)

section

variable {World : Type}

def maxSeenNames : Nat := 256

def dedup : List Text → List (CliCmd World) → List (CliCmd World)
  -- The commands whose name `dedup_seen` meets first.
  | _, [] => []
  | seen, cmd :: rest =>
    if cmd.name ∈ seen then dedup seen rest
    else cmd :: dedup (if seen.length < maxSeenNames then seen ++ [cmd.name] else seen) rest

def commandRow (cmd : CliCmd World) : Row where
  size := 512
  text := cmd.name ++ tab :: cmd.usage.getD cmd.name ++ tab :: cmd.description.getD []

def Daemon.commands (d : Daemon World) (w : World) : List (CliCmd World) :=
  d.coreCmds ++ (d.modules w).flatMap (·.cliCommands)

def commandRows (d : Daemon World) (w : World) : List Row :=
  (dedup [] (d.commands w)).map commandRow

def uiSubcommand (uiCommand : Option Text) : Text :=
  -- The second word of `ui_command`.
  match uiCommand with
  | none => []
  | some command => ((command.dropWhile (· ≠ ' ')).tail.takeWhile (· ≠ ' ')).take 63

def withFields (line : Text) : List UiField → Text
  -- The fields that still fit the line.
  | [] => line
  | f :: rest =>
    let longer := line ++ tab :: f.name.getD [] ++ ':' :: f.kind.getD "text".toList ++
      ':' :: f.options.getD []
    if longer.length + 2 ≥ 1024 then line else withFields longer rest

def completionRow (cmd : CliCmd World) : List Row :=
  let line := cmd.name ++ tab :: uiSubcommand cmd.uiCommand
  if line.length + 2 ≥ 1024 then []
  -- The newline takes the place of the last character where there is no other room for it.
  else [⟨1024, (withFields line cmd.uiFields).take 1020⟩]

def subcommandRows (cmd : CliCmd World) : List Row :=
  (((cmd.subcommands.getD []).splitOnP fun c => c = ' ' ∨ c = ',').filter (· ≠ [])).map
    fun sub => ⟨256, cmd.name ++ tab :: sub⟩

def completionRows (d : Daemon World) (w : World) : List Row :=
  (d.commands w).flatMap fun cmd => completionRow cmd ++ subcommandRows cmd

def userRows (d : Daemon World) (w : World) : List Row :=
  ((d.usernames w).filter (· ≠ [])).map fun name => ⟨64, name⟩

def moduleRows (d : Daemon World) (w : World) : List Row :=
  ((d.modules w).filterMap (·.name)).map fun name =>
    ⟨64, if name.take 4 = "mod_".toList then name.drop 4 else name⟩

def wavName (name : Text) : Option Text :=
  -- A file's name without `.wav`.
  if name.length ≤ 4 ∨ name.drop (name.length - 4) ≠ ".wav".toList then none
  else some (name.take (name.length - 4))

def hidden (name : Text) : Bool :=
  name.head? = some '.'

def soundRows (d : Daemon World) (w : World) : List Row :=
  ((d.sounds w).getD []).flatMap fun
    | .file name => if hidden name then [] else (wavName name).toList.map fun base => ⟨256, base⟩
    | .directory name files =>
      if hidden name then []
      else ((files.filter (!hidden ·)).filterMap wavName).map fun base =>
        ⟨256, name ++ '/' :: base⟩
    | .other => []

end

/-! ## Commands -/

def isBlank (c : Char) : Bool :=
  c = ' ' ∨ c = tab

def inWord (c : Char) : Bool :=
  ¬ isBlank c ∧ c ≠ newline

def parseCmd : Nat → Text → List Text
  -- `parse_cmd` with so many places left in `argv`.
  | 0, _ => []
  | places + 1, p =>
    match p.dropWhile isBlank with
    | [] => []
    | c :: rest =>
      if c = newline then []
      else if c = doubleQuote then
        rest.takeWhile (· ≠ doubleQuote) ::
          parseCmd places (rest.dropWhile (· ≠ doubleQuote)).tail
      else (c :: rest).takeWhile inWord :: parseCmd places ((c :: rest).dropWhile inWord).tail

structure Slot where
  subscribed : Bool
  subscribeLevel : Int
  jsonMode : Bool
  jsonEvents : Bool
deriving DecidableEq

def initSlot : Slot where
  -- `init_slot`; the level is `KERCHUNK_LOG_INFO`.
  subscribed := false
  subscribeLevel := 6
  jsonMode := false
  jsonEvents := false

def subscribe (slot : Slot) (arg : Text) : Slot :=
  -- `handle_meta_subscribe`: between `KERCHUNK_LOG_ERROR` and `KERCHUNK_LOG_DEBUG`.
  let level := if arg = [] then 6 else atoiText arg
  { slot with subscribed := true, subscribeLevel := min (max level 3) 7 }

def unsubscribe (slot : Slot) : Slot :=
  { slot with subscribed := false }

def subscribeEvents (slot : Slot) : Slot :=
  { slot with subscribed := true, subscribeLevel := 7, jsonEvents := true }

section

variable {World : Type}

def dispatchCommand (d : Daemon World) (argv : List Text) (w : World) (r : Resp) : Resp × World :=
  match argv with
  | [] => (r, w)
  | name :: _ =>
    match d.coreCmds.find? (·.name = name) with
    | some cmd => (cmd.handler.map fun handler => handler argv w r).getD (r, w)
    | none =>
      let named := ((d.modules w).flatMap (·.cliCommands)).find? fun cmd =>
        cmd.name = name ∧ cmd.handler.isSome
      ((named.bind (·.handler)).map fun handler => handler argv w r).getD (unknownCommand r, w)

/-- The slot and the world after a command, and what is written. -/
structure Handled (World : Type) where
  slot : Slot
  world : World
  writes : List Write

def runCommand (d : Daemon World) (slot : Slot) (w : World) (json : Bool) (line : Text) :
    Handled World :=
  -- The rest of `handle_command`, from where it knows that the line is no meta-command.
  let slot := { slot with jsonMode := json }
  let argv := parseCmd 256 line
  if argv = [] then ⟨slot, w, []⟩
  else
    let (resp, w) := dispatchCommand d argv w respInit
    let resp := respFinish resp
    ⟨slot, w, framed (responseRows (if json then resp.json else resp.text))⟩

def handleCommand (d : Daemon World) (slot : Slot) (w : World) (buf : Text) : Handled World :=
  let line := cString buf
  if "__COMMANDS__".toList.isPrefixOf line then ⟨slot, w, framed (commandRows d w)⟩
  else if "__COMPLETIONS__".toList.isPrefixOf line then ⟨slot, w, framed (completionRows d w)⟩
  else if "__USERS__".toList.isPrefixOf line then ⟨slot, w, framed (userRows d w)⟩
  else if "__MODULES__".toList.isPrefixOf line then ⟨slot, w, framed (moduleRows d w)⟩
  else if "__SOUNDS__".toList.isPrefixOf line then ⟨slot, w, framed (soundRows d w)⟩
  else if "__SUBSCRIBE__".toList.isPrefixOf line then
    ⟨subscribe slot ((line.drop 13).dropWhile (· = ' ')), w, [.sentinel]⟩
  else if "__UNSUBSCRIBE__".toList.isPrefixOf line then ⟨unsubscribe slot, w, [.sentinel]⟩
  else if "__JSON_EVENTS__".toList.isPrefixOf line then ⟨subscribeEvents slot, w, [.sentinel]⟩
  else if "__JSON__ ".toList.isPrefixOf line then runCommand d slot w true (line.drop 9)
  else runCommand d slot w false line

end

end Kerchunk.Socket
