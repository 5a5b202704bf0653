import Kerchunk.Lib.Appends
import Kerchunk.Lib.JsonTree
import Kerchunk.Reflectd.Admin
import Kerchunk.Reflectd.LoadConfig

set_option autoImplicit false

/-!
# Lists in fixed buffers (`api_recordings`, `render_str_csv`)

The days that have recordings, and the node ids that an operator assigns to a talkgroup.
-/

namespace Kerchunk.Reflectd

open Appends (Within appendAll)
open Config (Text nul)
open Json (Tree separated)

/-! ## Days -/

def bodySize : Nat := 8192

def validDateStr (s : Text) : Bool :=
  s.length = 10 && s.zipIdx.all fun (c, i) =>
    if i = 4 ∨ i = 7 then c = '-' else Config.isDigit c

/-- The day of a directory entry. -/
def dayOf (name : Text) : Option Text :=
  if name.length = 14 ∧ name.drop 10 = ".csv".toList ∧ validDateStr (name.take 10) then
    some (name.take 10)
  else none

def days (names : List Text) : List Text :=
  names.filterMap dayOf

def dayPieces (names : List Text) : List Text :=
  "\x7b\"days\":[".toList :: separated ((days names).map fun ymd => '"' :: (ymd ++ ['"']))

/-- The last append leaves the cursor. -/
def apiRecordings (names : List Text) : Text :=
  (appendAll bodySize Appends.empty (dayPieces names ++ ["]\x7d".toList])).written

def daysTree (names : List Text) : Tree :=
  .object [("days".toList, .array ((days names).map Tree.string))]

theorem plainChar_digit {c : Char} (digit : Config.isDigit c = true) : Json.plainChar c = true := by
  obtain ⟨low, high⟩ := Bool.and_eq_true_iff.mp digit
  have atLeast : 48 ≤ c.toNat := of_decide_eq_true low
  have atMost : c.toNat ≤ 57 := of_decide_eq_true high
  refine Json.plainChar_iff.mpr ⟨?_, ?_, by omega⟩
  next =>
    rintro rfl
    exact absurd atLeast (by decide)
  next =>
    rintro rfl
    exact absurd atMost (by decide)

theorem day_spec {name ymd : Text} (found : dayOf name = some ymd) :
    ymd.length = 10 ∧ Json.Plain ymd := by
  unfold dayOf at found
  split at found
  next valid =>
    obtain rfl := Option.some.inj found
    obtain ⟨long, chars⟩ := Bool.and_eq_true_iff.mp valid.2.2
    refine ⟨of_decide_eq_true long, fun c member => ?_⟩
    obtain ⟨i, below, rfl⟩ := List.getElem_of_mem member
    have each := List.all_eq_true.mp chars (_, i) (List.mem_zipIdx_iff_getElem?.mpr
      (List.getElem?_eq_getElem below))
    dsimp only at each
    split at each
    next =>
      rw [of_decide_eq_true each]
      decide
    next => exact plainChar_digit each
  next => cases found

theorem days_spec {names : List Text} {ymd : Text} (listed : ymd ∈ days names) :
    ymd.length = 10 ∧ Json.Plain ymd := by
  obtain ⟨name, -, found⟩ := List.mem_filterMap.mp listed
  exact day_spec found

theorem quoted_length {ymds : List Text} (tens : ∀ ymd ∈ ymds, ymd.length = 10) :
    ((ymds.map fun ymd => '"' :: (ymd ++ ['"'])).flatten).length = 12 * ymds.length := by
  induction ymds with
  | nil => rfl
  | cons ymd ymds ih =>
    have first := tens ymd (by simp)
    have later := ih fun u member => tens u (by simp [member])
    simp only [List.map_cons, List.flatten_cons, List.length_append, List.length_cons,
      List.length_nil, later, first]
    omega

theorem dayPieces_length (names : List Text) :
    (dayPieces names).flatten.length = 9 + 12 * (days names).length + ((days names).length - 1) := by
  rw [dayPieces, List.flatten_cons, List.length_append, Json.separated_length,
    quoted_length fun ymd listed => (days_spec listed).1, List.length_map, ← Nat.add_assoc]
  rfl

theorem dayPieces_text (names : List Text) :
    (dayPieces names ++ ["]\x7d".toList]).flatten = (daysTree names).text id id := by
  have items := @Json.itemsText_separated id id ((days names).map Tree.string)
  have quoted : ((days names).map Tree.string).map (Tree.text id id) =
      (days names).map fun ymd => '"' :: (ymd ++ ['"']) := by
    rw [List.map_map]
    exact List.map_congr_left fun ymd _ => Json.text_string ymd
  rw [quoted] at items
  unfold daysTree dayPieces
  rw [Tree.text, Json.fieldsText]
  simp [Json.text_array, items, Json.moreFields, Json.stringText, Json.openBrace, Json.closeBrace]

theorem daysTree_faithful (names : List Text) : (daysTree names).Faithful id id := by
  refine (Json.faithful_record rfl).mpr ?_
  simp only [List.forall_mem_cons]
  refine ⟨Json.faithful_array.mpr fun t listed => ?_, by simp⟩
  obtain ⟨ymd, member, rfl⟩ := List.mem_map.mp listed
  exact Json.faithful_plain (days_spec member).2

/-- The cursor stays inside, and a list that fits is read back. -/
structure DaysSound (names : List Text) : Prop where
  within : Within 0 bodySize Appends.empty (dayPieces names)
  back : Within 1 bodySize Appends.empty (dayPieces names ++ ["]\x7d".toList]) →
    Json.readJson (apiRecordings names) = some (daysTree names)

/-- The buffer holds the list for 629 days. -/
theorem daysSound_iff (names : List Text) : DaysSound names ↔ (days names).length ≤ 629 := by
  have begun : (Appends.empty : Appends.Buffer Char).cursor = 0 := rfl
  have inside : Within 0 bodySize Appends.empty (dayPieces names) ↔ (days names).length ≤ 629 := by
    rw [Appends.within_iff, dayPieces_length, begun]
    simp only [bodySize]
    omega
  constructor
  next =>
    rintro ⟨within, -⟩
    exact inside.mp within
  next =>
    intro few
    refine ⟨inside.mpr few, fun fits => ?_⟩
    rw [apiRecordings, Appends.appendAll_whole fits, dayPieces_text]
    exact Json.readJson_text (daysTree_faithful names)

/-! ## Node ids -/

def membersCap : Nat := 1024

/-- The id in a value of the array, as `mg_json_next` finds it. -/
def idOf (val : Text) : Option Text :=
  if val.length < 2 ∨ val.head? ≠ some '"' then none
  else if rcfgMaxNodeId ≤ val.length - 2 then none
  else
    let id := CString.read nul ((val.drop 1).take (val.length - 2))
    if Admin.validNodeId (some (String.ofList id)) then some id else none

/-- The ids that are appended: a value that holds none ends the loop. -/
def leading : List Text → List Text
  | [] => []
  | val :: vals =>
    match idOf val with
    | none => []
    | some id => id :: leading vals

def csvPieces (vals : List Text) : List Text :=
  match leading vals with
  | [] => []
  | id :: ids => id :: ids.map fun id => ", ".toList ++ id

/-- `stale` is what stands in the caller's buffer, which an empty array leaves as it is. -/
def renderStrCsv (stale : Text) (vals : List Text) : Option Text :=
  if vals.all fun val => (idOf val).isSome then
    some (if csvPieces vals = [] then stale
      else (appendAll membersCap Appends.empty (csvPieces vals)).written)
  else none

/-- What the configuration makes of a `nodes` line. -/
def namesIn (members : Text) : List Text :=
  (CString.tokens ',' members).map trimUnquote

def idChar (c : Char) : Bool :=
  c.isAlphanum || c = '_' || c = '-'

/-- What `valid_node_id` lets through. -/
def ValidId (id : Text) : Prop :=
  id ≠ [] ∧ ∀ c ∈ id, idChar c = true

theorem id_spec {val id : Text} (found : idOf val = some id) : ValidId id := by
  unfold idOf at found
  split at found
  next => cases found
  next =>
    split at found
    next => cases found
    next =>
      dsimp only at found
      split at found
      next valid =>
        obtain rfl := Option.some.inj found
        simp only [Admin.validNodeId, String.toList_ofList, Bool.and_eq_true, List.all_eq_true] at valid
        obtain ⟨⟨nonempty, -⟩, chars⟩ := valid
        refine ⟨fun none => ?_, fun c member => by simpa [idChar] using chars c member⟩
        rw [none] at nonempty
        exact absurd nonempty (by decide)
      next => cases found

theorem idChar_low {c : Char} (valid : idChar c = true) : 45 ≤ c.toNat := by
  rcases Bool.or_eq_true_iff.mp valid with word | minus
  next =>
    rcases Bool.or_eq_true_iff.mp word with alnum | under
    next =>
      have same : c.toNat = c.val.toNat := rfl
      have ranges : ((decide (c.val ≥ 65 ∧ c.val ≤ 90) ||
          decide (c.val ≥ 97) && decide (c.val ≤ 122)) ||
          decide (c.val ≥ 48) && decide (c.val ≤ 57)) = true := alnum
      simp only [Bool.or_eq_true, Bool.and_eq_true, decide_eq_true_eq, ge_iff_le,
        UInt32.le_iff_toNat_le, UInt32.reduceToNat] at ranges
      omega
    next =>
      rw [of_decide_eq_true under]
      decide
  next =>
    rw [of_decide_eq_true minus]
    decide

theorem idChar_solid {c : Char} (valid : idChar c = true) :
    Config.isspace c = false ∧ c ≠ ',' ∧ c ≠ Config.doubleQuote ∧ c ≠ Config.singleQuote := by
  have low := idChar_low valid
  refine ⟨?_, ?_, ?_, ?_⟩
  next =>
    simp only [Config.isspace, Bool.or_eq_false_iff, Bool.and_eq_false_iff, decide_eq_false_iff_not]
    omega
  all_goals
    rintro rfl
    exact absurd low (by decide)

theorem trimUnquote_id {id : Text} (valid : ValidId id) :
    trimUnquote id = id ∧ trimUnquote (' ' :: id) = id := by
  have solid : Config.trim id = id :=
    Trim.trim_solid fun c member => (idChar_solid (valid.2 c member)).1
  have behind : Config.trim (' ' :: id) = id := (Trim.trim_cons_blank (by decide) id).trans solid
  have unquoted (quote : Char) (other : ∀ c ∈ id, c ≠ quote) : ¬ id.head? = some quote :=
    fun first => other quote (List.mem_of_head? first) rfl
  have noDouble := unquoted _ fun c member => (idChar_solid (valid.2 c member)).2.2.1
  have noSingle := unquoted _ fun c member => (idChar_solid (valid.2 c member)).2.2.2
  constructor <;>
  · rw [trimUnquote]
    simp only [solid, behind, noDouble, noSingle, false_and, decide_false, Bool.false_eq_true,
      or_self, and_false, if_false]

theorem leading_valid {vals : List Text} : ∀ id ∈ leading vals, ValidId id := by
  induction vals with
  | nil => simp [leading]
  | cons val vals ih =>
    rw [leading]
    split
    next => simp
    next id found =>
      intro other member
      rcases List.mem_cons.mp member with rfl | later
      next => exact id_spec found
      next => exact ih other later

/-- The ids behind a comma and a blank are the tokens between the commas. -/
theorem tokens_joined {first : Text} (nonempty : first ≠ []) (clean : ',' ∉ first) {ids : List Text}
    (valid : ∀ id ∈ ids, ValidId id) :
    CString.tokens ',' (first ++ (ids.map fun id => ", ".toList ++ id).flatten) =
      first :: ids.map fun id => ' ' :: id := by
  induction ids generalizing first with
  | nil =>
    rw [List.map_nil, List.flatten_nil, List.append_nil, CString.tokens,
      List.splitOn_eq_singleton clean]
    simp [nonempty]
  | cons id ids ih =>
    have cleanId : ',' ∉ ' ' :: id := by
      intro member
      rcases List.mem_cons.mp member with same | inside
      next => exact absurd same (by decide)
      next => exact (idChar_solid ((valid id (by simp)).2 _ inside)).2.1 rfl
    have later := @ih (' ' :: id) (by simp) cleanId fun other member =>
      valid other (by simp [member])
    have split : first ++ ((id :: ids).map fun id => ", ".toList ++ id).flatten =
        first ++ ',' :: ((' ' :: id) ++ (ids.map fun id => ", ".toList ++ id).flatten) := by
      simp
    rw [CString.tokens] at later
    rw [split, CString.tokens, List.splitOn_append_cons_self_of_not_mem clean,
      List.filter_cons_of_pos (by simpa using nonempty), later]
    rfl

theorem namesIn_csv (vals : List Text) : namesIn (csvPieces vals).flatten = leading vals := by
  have valid := @leading_valid vals
  rw [csvPieces]
  cases listed : leading vals with
  | nil => rfl
  | cons id ids =>
    rw [listed] at valid
    have first := valid id (by simp)
    have clean : ',' ∉ id := fun inside => (idChar_solid (first.2 _ inside)).2.1 rfl
    have others : ∀ other ∈ ids, ValidId other := fun other member => valid other (by simp [member])
    have each : ids.map (fun other => trimUnquote (' ' :: other)) = ids := by
      conv_rhs => rw [← List.map_id ids]
      exact List.map_congr_left fun other member => (trimUnquote_id (others other member)).2
    rw [List.flatten_cons, namesIn, tokens_joined first.1 clean others, List.map_cons,
      (trimUnquote_id first).1, List.map_map]
    exact congrArg (id :: ·) each

theorem leading_all {vals : List Text} (all : vals.all (fun val => (idOf val).isSome) = true) :
    vals.mapM idOf = some (leading vals) := by
  induction vals with
  | nil => rfl
  | cons val vals ih =>
    obtain ⟨first, later⟩ := Bool.and_eq_true_iff.mp all
    obtain ⟨id, found⟩ := Option.isSome_iff_exists.mp first
    rw [List.mapM_cons, found, ih later, leading, found]
    rfl

/-- The cursor stays inside, and a list that fits is read back. -/
structure CsvSound (stale : Text) (vals : List Text) : Prop where
  within : Within 0 membersCap Appends.empty (csvPieces vals)
  back : Within 1 membersCap Appends.empty (csvPieces vals) →
    ∀ members, renderStrCsv stale vals = some members → vals.mapM idOf = some (namesIn members)

/-- The ids add up to what the buffer holds, and an empty array leaves nothing in it. -/
structure CsvSuits (stale : Text) (vals : List Text) : Prop where
  length : (csvPieces vals).flatten.length ≤ membersCap
  empty : vals = [] → namesIn stale = []

theorem csvSound_iff (stale : Text) (vals : List Text) :
    CsvSound stale vals ↔ CsvSuits stale vals := by
  have begun : (Appends.empty : Appends.Buffer Char).cursor = 0 := rfl
  have inside : Within 0 membersCap Appends.empty (csvPieces vals) ↔
      (csvPieces vals).flatten.length ≤ membersCap := by
    rw [Appends.within_iff, begun, Nat.zero_add, Nat.add_zero]
  constructor
  next =>
    rintro ⟨within, back⟩
    refine ⟨inside.mp within, ?_⟩
    rintro rfl
    have fits : Within 1 membersCap Appends.empty (csvPieces []) :=
      Appends.within_iff.mpr (by decide)
    exact (Option.some.inj (back fits stale rfl)).symm
  next =>
    rintro ⟨length, empty⟩
    refine ⟨inside.mpr length, fun fits members rendered => ?_⟩
    unfold renderStrCsv at rendered
    split at rendered
    next all =>
      obtain rfl := Option.some.inj rendered
      rw [leading_all all]
      split
      next nothing =>
        have noneGiven : vals = [] := by
          cases vals with
          | nil => rfl
          | cons val vals =>
            obtain ⟨id, found⟩ := Option.isSome_iff_exists.mp (Bool.and_eq_true_iff.mp all).1
            rw [csvPieces, leading, found] at nothing
            cases nothing
        rw [empty noneGiven, noneGiven]
        rfl
      next => rw [Appends.appendAll_whole fits, namesIn_csv]
    next => cases rendered

end Kerchunk.Reflectd
