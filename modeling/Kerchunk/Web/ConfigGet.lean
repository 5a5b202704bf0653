import Kerchunk.Ai.Request
import Kerchunk.Cdr.WebApi

set_option autoImplicit false

/-!
# The configuration on the dashboard (`handle_api_config_get` in `modules/mod_web.c`)
-/

namespace Kerchunk.Web.ConfigGet

open Appends (Buffer append)
open Cdr.WebApi (jsonEscapeStr)
open Config (KerchunkConfig Text sectionKeys sectionNames)

def bufferSize : Nat := 16384

/-- The listing is broken off here. -/
def enough : Nat := bufferSize - 64

def isSensitive (key : Text) : Bool :=
  key = "api_key".toList || key = "auth_password".toList || key = "totp_secret".toList ||
    key = "tls_key".toList || key = "google_maps_api_key".toList

def opening : Text := "\x7b\"sections\":\x7b".toList
def brace : Text := "\x7d".toList
def closing : Text := "\x7d\x7d".toList

def headerText (sectionName : Text) : Text :=
  ['"'] ++ jsonEscapeStr sectionName 128 ++ "\":\x7b".toList

def pairText (pair : Text × Text) : Text :=
  let shown := if isSensitive pair.1 then "********".toList else pair.2
  ['"'] ++ jsonEscapeStr pair.1 128 ++ "\":\"".toList ++ jsonEscapeStr shown 512 ++ ['"']

def comma (first : Bool) (b : Buffer Char) : Buffer Char :=
  if !first && decide (b.cursor < bufferSize - 2) then
    { b with written := b.written ++ [','], cursor := b.cursor + 1 }
  else b

def keyLoop (first : Bool) (b : Buffer Char) : List (Text × Text) → Buffer Char
  | [] => b
  | pair :: rest =>
    let b := append bufferSize (comma first b) (pairText pair)
    if b.cursor ≥ enough then b else keyLoop false b rest

/-- A section and its pairs. -/
abbrev Listing := List (Text × List (Text × Text))

def sectionLoop (first : Bool) (b : Buffer Char) : Listing → Buffer Char
  | [] => b
  | listed :: rest =>
    let b := append bufferSize (comma first b) (headerText listed.1)
    let b := append bufferSize (keyLoop true b listed.2) brace
    if b.cursor ≥ enough then b else sectionLoop false b rest

def isAccount (sectionName : Text) : Bool :=
  -- A user or a group.
  "user.".toList.isPrefixOf sectionName || "group.".toList.isPrefixOf sectionName

def listing (cfg : KerchunkConfig) : Listing :=
  ((sectionNames cfg).filter fun name => !isAccount name).map fun name =>
    (name, sectionKeys cfg name)

def begun : Buffer Char where
  written := opening
  cursor := opening.length
  overrun := false

def buildConfig (cfg : KerchunkConfig) : Buffer Char :=
  append bufferSize (sectionLoop true begun (listing cfg)) closing

inductive Reply where
  | forbidden
  | noConfig
  | listed (body : Text)
deriving DecidableEq

def handleApiConfigGet (authPassword : Text) (cfg : Option KerchunkConfig) : Reply :=
  if authPassword = [] then .forbidden
  else
    match cfg with
    | none => .noConfig
    | some cfg => .listed (buildConfig cfg).written

/-! ## Where the pairs and the sections of the whole text end -/

def pairEnds (first : Bool) (off : Nat) : List (Text × Text) → List Nat
  | [] => []
  | pair :: rest =>
    let off := off + (if first then 0 else 1) + (pairText pair).length
    off :: pairEnds false off rest

def sectionEnds (first : Bool) (off : Nat) : Listing → List Nat
  | [] => []
  | listed :: rest =>
    let off := off + (if first then 0 else 1) + (headerText listed.1).length
    let pairs := pairEnds true off listed.2
    let off := pairs.getLastD off + brace.length
    pairs ++ off :: sectionEnds false off rest

def ends (cfg : KerchunkConfig) : List Nat :=
  sectionEnds true opening.length (listing cfg)

/-! ## The loops -/

/-- Where the loop over the ends stops: at the first that is far enough, or at the last. -/
def stop (off : Nat) (ends : List Nat) : Nat :=
  (ends.find? (enough ≤ ·)).getD (ends.getLastD off)

theorem comma_cursor {first : Bool} {b : Buffer Char} (room : first = false → b.cursor < enough) :
    (comma first b).cursor = b.cursor + if first then 0 else 1 := by
  unfold comma
  cases first with
  | true => rfl
  | false =>
    have space := room rfl
    unfold enough at space
    rw [if_pos (by simp; omega)]
    rfl

theorem piece_cursor {first : Bool} {b : Buffer Char} (room : first = false → b.cursor < enough)
    (piece : Text) :
    (append bufferSize (comma first b) piece).cursor =
      b.cursor + (if first then 0 else 1) + piece.length := by
  rw [Appends.append_cursor, comma_cursor room]

@[simp] theorem comma_overrun (first : Bool) (b : Buffer Char) :
    (comma first b).overrun = b.overrun := by
  unfold comma
  split <;> rfl

theorem stop_cons (off e : Nat) (rest : List Nat) :
    stop off (e :: rest) = if enough ≤ e then e else stop e rest := by
  unfold stop
  by_cases far : enough ≤ e
  next => simp [far]
  next => rw [List.find?_cons_of_neg (by simpa using far), List.getLastD_cons, if_neg far]

theorem keyLoop_spec {b : Buffer Char} (sound : b.overrun = false) (room : b.cursor < enough)
    (pairs : List (Text × Text)) :
    (keyLoop false b pairs).cursor = stop b.cursor (pairEnds false b.cursor pairs) ∧
      (keyLoop false b pairs).overrun = false := by
  induction pairs generalizing b with
  | nil => exact ⟨rfl, sound⟩
  | cons pair rest ih =>
    have moved := @piece_cursor false b (fun _ => room) (pairText pair)
    have inside : (append bufferSize (comma false b) (pairText pair)).overrun = false := by
      rw [Appends.append_overrun, comma_overrun, sound, comma_cursor fun _ => room]
      unfold enough bufferSize at *
      simp
      omega
    unfold keyLoop pairEnds
    dsimp only
    rw [stop_cons, ← moved]
    split
    next => exact ⟨rfl, inside⟩
    next near => exact ih inside (Nat.lt_of_not_le near)

theorem keyLoop_mono (first : Bool) (b : Buffer Char) (pairs : List (Text × Text)) :
    b.cursor ≤ (keyLoop first b pairs).cursor := by
  induction pairs generalizing first b with
  | nil => exact Nat.le_refl _
  | cons pair rest ih =>
    have comma_mono : b.cursor ≤ (comma first b).cursor := by
      unfold comma
      split
      next => exact Nat.le_succ _
      next => exact Nat.le_refl _
    have moved : b.cursor ≤ (append bufferSize (comma first b) (pairText pair)).cursor :=
      Nat.le_trans comma_mono (Nat.le_add_right _ _)
    unfold keyLoop
    dsimp only
    split
    next => exact moved
    next => exact Nat.le_trans moved (ih false _)

/-- A header may already pass the end, as the loop looks at pairs and sections only. -/
theorem keyLoop_first {b : Buffer Char} (sound : b.overrun = false) {pairs : List (Text × Text)}
    (some_ : pairs ≠ []) :
    (keyLoop true b pairs).cursor = stop b.cursor (pairEnds true b.cursor pairs) ∧
      (keyLoop true b pairs).overrun = decide (bufferSize < b.cursor) := by
  cases pairs with
  | nil => exact absurd rfl some_
  | cons pair rest =>
    have overrun : (append bufferSize (comma true b) (pairText pair)).overrun =
        decide (bufferSize < b.cursor) := by
      rw [Appends.append_overrun, comma_overrun, sound, Bool.false_or]
      rfl
    have moved := @piece_cursor true b (by simp) (pairText pair)
    unfold keyLoop pairEnds
    dsimp only
    rw [stop_cons, ← moved]
    split
    next => exact ⟨rfl, overrun⟩
    next near =>
      have within : ¬ bufferSize < b.cursor := by
        have grown : b.cursor ≤ (append bufferSize (comma true b) (pairText pair)).cursor :=
          Nat.le_add_right _ _
        unfold enough at near
        omega
      rw [decide_eq_false within] at overrun ⊢
      exact keyLoop_spec overrun (Nat.lt_of_not_le near) rest

theorem pairEnds_nonempty {pairs : List (Text × Text)} (some_ : pairs ≠ []) (off : Nat) :
    pairEnds true off pairs ≠ [] := by
  cases pairs with
  | nil => exact absurd rfl some_
  | cons pair rest => exact List.cons_ne_nil _ _

/-- The first pair or section that ends far enough ends inside. -/
def StopsInside (ends : List Nat) : Prop :=
  ∀ e ∈ ends.find? (enough ≤ ·), e < bufferSize

theorem sectionLoop_spec {first : Bool} {b : Buffer Char} (sound : b.overrun = false)
    (room : b.cursor < enough) {l : Listing} (some_ : ∀ listed ∈ l, listed.2 ≠ []) :
    (append bufferSize (sectionLoop first b l) closing).overrun = false ↔
      StopsInside (sectionEnds first b.cursor l) := by
  induction l generalizing first b with
  | nil =>
    have within : ¬ bufferSize < b.cursor := by
      unfold enough at room
      omega
    simp [sectionLoop, sectionEnds, StopsInside, sound, within]
  | cons listed rest ih =>
    let header := append bufferSize (comma first b) (headerText listed.1)
    have moved : header.cursor = _ := @piece_cursor first b (fun _ => room) (headerText listed.1)
    have inside : header.overrun = false := by
      rw [Appends.append_overrun, comma_overrun, sound, comma_cursor fun _ => room]
      unfold enough bufferSize at *
      simp
      split <;> omega
    obtain ⟨cursor, overrun⟩ := keyLoop_first inside (some_ listed (List.mem_cons_self ..))
    have grown := keyLoop_mono true header listed.2
    have last := pairEnds_nonempty (some_ listed (List.mem_cons_self ..)) header.cursor
    unfold sectionLoop sectionEnds
    dsimp only
    rw [← moved]
    generalize keyLoop true header listed.2 = keys at *
    generalize pairEnds true header.cursor listed.2 = ends at *
    have closed : (append bufferSize keys brace).overrun = decide (bufferSize < keys.cursor) := by
      rw [Appends.append_overrun, overrun, Bool.eq_iff_iff, Bool.or_eq_true, decide_eq_true_iff,
        decide_eq_true_iff]
      omega
    have one : (append bufferSize keys brace).cursor = keys.cursor + 1 := rfl
    unfold StopsInside
    rw [List.find?_append, one]
    unfold stop at cursor
    cases found : ends.find? (enough ≤ ·) with
    | some e =>
      have far : enough ≤ e := by simpa using List.find?_some found
      rw [found, Option.getD_some] at cursor
      rw [if_pos (by omega), Appends.append_overrun, closed, one, cursor]
      simp only [Option.some_or, Option.mem_def, Option.some.injEq, forall_eq',
        Bool.or_eq_false_iff, decide_eq_false_iff_not]
      omega
    | none =>
      rw [found, Option.getD_none] at cursor
      have near : keys.cursor < enough := by
        have member : ends.getLastD header.cursor ∈ ends := by
          rw [List.getLastD_eq_getLast?, List.getLast?_eq_getLast_of_ne_nil last, Option.getD_some]
          exact List.getLast_mem last
        have notFar := List.find?_eq_none.mp found _ member
        rw [cursor]
        simpa using notFar
      have sound : (append bufferSize keys brace).overrun = false := by
        rw [closed, decide_eq_false_iff_not]
        unfold enough at near
        omega
      rw [Option.none_or, ← cursor]
      split
      next far =>
        have exactly : keys.cursor + brace.length = keys.cursor + 1 := rfl
        rw [exactly, List.find?_cons_of_pos (by simpa using far), Appends.append_overrun, sound, one]
        unfold enough bufferSize at *
        simp
        omega
      next near =>
        have exactly : keys.cursor + brace.length = keys.cursor + 1 := rfl
        rw [exactly, List.find?_cons_of_neg (by simpa using near)]
        exact ih sound (Nat.lt_of_not_le near)
          fun listed member => some_ listed (List.mem_cons_of_mem _ member)

theorem listing_nonempty {cfg : KerchunkConfig} :
    ∀ listed ∈ listing cfg, listed.2 ≠ [] := by
  intro listed member
  obtain ⟨name, kept, rfl⟩ := List.mem_map.mp member
  obtain ⟨e, present, same⟩ := Grouping.mem_keys.mp (List.mem_filter.mp kept).1
  have entry : e ∈ Config.sectionEntries cfg name := Grouping.mem_group.mpr ⟨present, same⟩
  exact List.ne_nil_of_mem (List.mem_map_of_mem entry)

theorem config_in_bounds_iff (cfg : KerchunkConfig) :
    (buildConfig cfg).overrun = false ↔ StopsInside (ends cfg) :=
  sectionLoop_spec rfl (by decide) listing_nonempty

/-! ## The three builders -/

/-- The builders with what each of them is given. -/
structure BuildersLawful (cfg : Ai.Settings) (messages : List Ai.Message) (forceNoTools : Bool)
    (tools : List Ai.RegisteredTool) (config : KerchunkConfig) : Prop where
  request : Ai.RequestLawful cfg messages forceNoTools
  tools : (Ai.buildToolsJson tools).overrun = false
  config : (buildConfig config).overrun = false

theorem builders_in_bounds_iff (cfg : Ai.Settings) (messages : List Ai.Message)
    (forceNoTools : Bool) (tools : List Ai.RegisteredTool) (config : KerchunkConfig) :
    BuildersLawful cfg messages forceNoTools tools config ↔
      ((Ai.requestText cfg messages forceNoTools).length ≤ Ai.maxRequestBytes + 1 ∧
          (Ai.requestText cfg messages forceNoTools).length ≠ Ai.maxRequestBytes - 1) ∧
        (Ai.toolsText tools).length ≤ Ai.maxToolsJson + 1 ∧ StopsInside (ends config) := by
  rw [← Ai.request_lawful_iff, ← Ai.tools_in_bounds_iff, ← config_in_bounds_iff]
  constructor
  · intro lawful
    exact ⟨lawful.request, lawful.tools, lawful.config⟩
  · rintro ⟨request, registry, listed⟩
    exact ⟨request, registry, listed⟩

/-- A prompt as long as the module takes. -/
def longPrompt : Ai.Settings :=
  { Ai.defaultSettings "[]".toList with systemPrompt := List.replicate 65536 'a' }

def firstQuestion : List Ai.Message :=
  (((Ai.load longPrompt).begins 0 7 false "what time is it".toList).conv 0).messages

/-- The first question that is asked with it. -/
theorem long_prompt_overruns : ¬ BuildersLawful longPrompt firstQuestion false [] [] := by
  intro lawful
  have room := ((Ai.request_lawful_iff _ _ _).mp lawful.request).1
  have long := Ai.requestText_length longPrompt firstQuestion false
  have prompt : longPrompt.systemPrompt.length = 65536 := List.length_replicate
  unfold Ai.maxRequestBytes at room
  omega

def longValues : KerchunkConfig :=
  List.replicate 32 { sectionName := ['a'], key := ['k'], value := List.replicate 1023 'x' }

example : (ends longValues).find? (enough ≤ ·) = some 16561 := by decide +kernel

end Kerchunk.Web.ConfigGet
