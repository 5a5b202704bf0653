import Kerchunk.Lib.Grouping
import Kerchunk.Lib.CString

set_option autoImplicit false

/-!
# The INI configuration (`src/kerchunk_config.c`)

Text is a list of bytes, written as characters. A configuration is its table
of entries, in the order in which they were added.
-/

namespace Kerchunk.Config

abbrev Text := List Char

def maxSection : Nat := 64
def maxKey : Nat := 64
def maxValue : Nat := 1024
def maxEntries : Nat := 1024
def lineSize : Nat := 2048

def nul : Char := Char.ofNat 0
def newline : Char := Char.ofNat 10
def carriageReturn : Char := Char.ofNat 13
def doubleQuote : Char := Char.ofNat 34
def singleQuote : Char := Char.ofNat 39

def isspace (c : Char) : Bool :=
  -- `isspace` in the C locale.
  c.toNat = 32 || (9 ≤ c.toNat && c.toNat ≤ 13)

structure ConfigEntry where
  sectionName : Text
  key : Text
  value : Text
deriving DecidableEq

abbrev KerchunkConfig := List ConfigEntry

/-! ## Reading -/

def fgets : Nat → Text → Text × Text
  -- Up to `room` bytes of the file, none of them past a newline, and the rest.
  | 0, text => ([], text)
  | _ + 1, [] => ([], [])
  | room + 1, c :: rest =>
    if c = newline then ([c], rest)
    else
      let more := fgets room rest
      (c :: more.1, more.2)

-- Every call takes a byte, so the length of the file bounds the number of lines.
def fileLines : Nat → Text → List Text
  | 0, _ => []
  | _ + 1, [] => []
  | fuel + 1, c :: rest =>
    let line := fgets (lineSize - 1) (c :: rest)
    line.1 :: fileLines fuel line.2

def cstr (buf : Text) : Text :=
  -- What the string functions see of a buffer.
  buf.takeWhile (· ≠ nul)

abbrev trim (buf : Text) : Text :=
  Trim.trim isspace buf

def bounded (size : Nat) (text : Text) : Text :=
  -- `snprintf` of a string into a buffer.
  text.take (size - 1)

def isComment (c : Char) : Bool :=
  c = ';' || c = '#'

def isQuote (c : Char) : Bool :=
  c = doubleQuote || c = singleQuote

def stripComment (val : Text) : Text :=
  -- Strip an inline comment, but not from a quoted value.
  if val.head?.any isQuote then val
  else if val.any isComment then trim (val.takeWhile fun c => !isComment c)
  else val

inductive Line where
  | skip
  | header (name : Text)
  | pair (key value : Text)
deriving DecidableEq

def parseLine (line : Text) : Line :=
  let p := trim (cstr line)
  match p with
  | [] => .skip
  | c :: rest =>
    if c = '#' ∨ c = ';' then .skip
    else if c = '[' then
      if ']' ∈ rest then .header (rest.takeWhile (· ≠ ']')) else .skip
    else if '=' ∈ p then
      .pair (trim (p.takeWhile (· ≠ '=')))
        (stripComment (trim (p.dropWhile (· ≠ '=')).tail))
    else .skip

/-- `current_section` and the table so far. -/
structure Reader where
  currentSection : Text
  entries : KerchunkConfig
deriving DecidableEq

def readLine (r : Reader) (line : Text) : Option Reader :=
  -- `none` when the table is full.
  match parseLine line with
  | .skip => some r
  | .header name => some { r with currentSection := bounded maxSection name }
  | .pair key value =>
    if r.entries.length ≥ maxEntries then none
    else
      some { r with
        entries := r.entries ++
          [{ sectionName := r.currentSection
             key := bounded maxKey key
             value := bounded maxValue value }] }

def parseFile (text : Text) : Option KerchunkConfig :=
  ((fileLines text.length text).foldlM readLine ⟨[], []⟩).map Reader.entries

/-! ## Access -/

def configGet (cfg : KerchunkConfig) (sectionName key : Text) : Option Text :=
  (cfg.find? fun e => e.sectionName = sectionName ∧ e.key = key).map ConfigEntry.value

def stripNewlines (value : Text) : Text :=
  -- Strip newlines to prevent INI injection.
  value.map fun c => if c = newline ∨ c = carriageReturn then ' ' else c

def updateFirst (sectionName key value : Text) : KerchunkConfig → KerchunkConfig
  | [] => []
  | e :: rest =>
    if e.sectionName = sectionName ∧ e.key = key then { e with value := value } :: rest
    else e :: updateFirst sectionName key value rest

def configSet (cfg : KerchunkConfig) (sectionName key value : Text) : Option KerchunkConfig :=
  -- `none` when a new entry does not fit.
  let stored := stripNewlines (bounded maxValue value)
  if cfg.any fun e => e.sectionName = sectionName ∧ e.key = key then
    some (updateFirst sectionName key stored cfg)
  else if cfg.length ≥ maxEntries then none
  else
    some (cfg ++
      [{ sectionName := bounded maxSection sectionName
         key := bounded maxKey key
         value := stored }])

/-- What `kerchunk_config_next_section` returns, call after call. -/
abbrev sectionNames (cfg : KerchunkConfig) : List Text :=
  Grouping.keys ConfigEntry.sectionName cfg

abbrev sectionEntries (cfg : KerchunkConfig) (sectionName : Text) : List ConfigEntry :=
  Grouping.group ConfigEntry.sectionName cfg sectionName

def sectionKeys (cfg : KerchunkConfig) (sectionName : Text) : List (Text × Text) :=
  -- What `kerchunk_config_next_key` returns for a section, call after call.
  (sectionEntries cfg sectionName).map fun e => (e.key, e.value)

/-! ## Writing -/

def pairLine (e : ConfigEntry) : Text :=
  e.key ++ [' ', '=', ' '] ++ e.value

def headerLine (sectionName : Text) : Text :=
  '[' :: sectionName ++ [']']

def sectionLines (cfg : KerchunkConfig) (sectionName : Text) : List Text :=
  headerLine sectionName :: (sectionEntries cfg sectionName).map pairLine

def savedLines (cfg : KerchunkConfig) : List Text → List Text
  -- A blank line stands before every section but the first.
  | [] => []
  | [name] => sectionLines cfg name
  | name :: next :: rest => sectionLines cfg name ++ [] :: savedLines cfg (next :: rest)

def configSave (cfg : KerchunkConfig) : Text :=
  (savedLines cfg (sectionNames cfg)).flatMap (· ++ [newline])

end Kerchunk.Config
