import Kerchunk.Users.Creation

set_option autoImplicit false

/-!
# What a registration does to the stored users
-/

namespace Kerchunk.Users

open Config

/-! ## The new section -/

def basicAccess : Text := ['1']

/-- The configuration that is read back lists what there was and, last, the new user's section with
the record's keys. -/
def AddsOnly (cfg again : KerchunkConfig) (r : Created) : Prop :=
  ∃ values, listing again = listing cfg ++ [(Kind.user.sectionName r.id, values)] ∧
    values.map Prod.fst = r.fields.map (fun field => field.1.toList) ∧
    ("access".toList, basicAccess) ∈ values

def StoresOnly (s : State) (i : Input) (r : Created) : Prop :=
  -- Saving after the request and loading the file again.
  ∃ again, parseFile (configSave (step s i).cfg) = some again ∧ AddsOnly s.cfg again r

def Registration.keyCount (q : Registration) : Nat :=
  7 + (nonEmpty q.email).toList.length + (nonEmpty q.callsign).toList.length

/-- What there is reads back as it is, the new keys have room, and the id that the table of users
leaves free has no section. -/
structure Clear (s : State) (q : Registration) : Prop where
  plain : ∀ e ∈ s.cfg, Plain e
  room : s.cfg.length + q.keyCount ≤ maxEntries
  unused : ∀ id ∈ nextUserId s.users, ∀ e ∈ s.cfg, e.sectionName ≠ Kind.user.sectionName id

/-! ## What is registered -/

/-- The user that a registration makes. -/
structure Registered (users : List User) (q : Registration) (r : Created) : Prop where
  kind : r.kind = .user
  next : nextUserId users = some r.id
  count : r.fields.length = q.keyCount
  access : ("access", basicAccess) ∈ r.fields

theorem fields_length (q : Registration) (username login ani : Text) :
    (q.fields username login ani).length = q.keyCount := by
  unfold Registration.fields Registration.keyCount optional
  cases nonEmpty q.email <;> cases nonEmpty q.callsign <;> rfl

theorem register_registered {users : List User} {q : Registration} {r : Created}
    (made : register users q = .created r) : Registered users q r := by
  simp only [register] at made
  split_ifs at made
  split at made
  next => cases made
  next id next =>
    split at made
    next => cases made
    next login _ =>
      split at made
      next => cases made
      next ani _ =>
        obtain rfl := Reply.created.inj made
        exact ⟨rfl, next, fields_length q _ login ani, by simp [Registration.fields, basicAccess]⟩

theorem created_registered {s : State} {q : Registration} {save last : Save} {r : Created}
    (accepted : created s (.register q save) = some (r, last)) : Registered s.users q r := by
  unfold created at accepted
  split at accepted
  next made saved replied =>
    obtain ⟨rfl, rfl⟩ := Prod.mk.inj (Option.some.inj accepted)
    have registered := (Prod.mk.inj (Option.some.inj replied)).1
    unfold apiRegister at registered
    split_ifs at registered
    split at registered
    next => cases registered
    next =>
      split at registered
      next => cases registered
      next made isMade =>
        obtain rfl := Reply.created.inj registered
        exact register_registered isMade
  next => cases accepted

/-! ## Setting a new section -/

theorem sets_new {calls : List SetCall} (fitted : ∀ call ∈ calls, Fitted call)
    (distinct : calls.Pairwise fun a b => ¬ (a.sectionName = b.sectionName ∧ a.key = b.key))
    {cfg : KerchunkConfig}
    (absent : ∀ call ∈ calls, configGet cfg call.sectionName call.key = none) :
    calls.foldl applySet cfg = cfg ++ (calls.map newEntry).take (maxEntries - cfg.length) := by
  -- Entries are added until the table is full.
  induction calls generalizing cfg with
  | nil => simp
  | cons call rest ih =>
    obtain ⟨others, distinct⟩ := List.pairwise_cons.mp distinct
    have here : call ∈ call :: rest := List.mem_cons_self ..
    have restFit := fun c member => fitted c (List.mem_cons_of_mem call member)
    have restAbsent := fun c member => absent c (List.mem_cons_of_mem call member)
    rw [List.foldl_cons, applySet_eq (fitted call here), if_pos (absent call here), List.map_cons]
    by_cases full : cfg.length ≥ maxEntries
    next =>
      rw [if_pos full, ih restFit distinct restAbsent, Nat.sub_eq_zero_of_le full, List.take_zero,
        List.take_zero]
    next =>
      have room : maxEntries - cfg.length = (maxEntries - (cfg.length + 1)) + 1 := by omega
      rw [if_neg full, ih restFit distinct]
      next =>
        rw [room, List.take_succ_cons, List.length_append, List.length_singleton, List.append_assoc,
          List.singleton_append]
      next =>
        intro c member
        rw [configGet_append_other (others c member)]
        exact restAbsent c member

variable {s : State} {q : Registration} {r : Created}

theorem Made.stored (made : Made s r) {cfg : KerchunkConfig}
    (unused : ∀ e ∈ cfg, e.sectionName ≠ r.sectionName) :
    r.calls.foldl applySet cfg = cfg ++ (r.calls.map newEntry).take (maxEntries - cfg.length) := by
  refine sets_new made.fitted made.distinctCalls fun call member => ?_
  rw [configGet_eq_none, calls_sectionName member]
  exact fun e present same => unused e present same.1

/-! ## Listing a new section -/

/-- Entries after those of a configuration, all in one section that is new to it. -/
structure NewGroup (cfg added : KerchunkConfig) (sectionName : Text) : Prop where
  some : added ≠ []
  own : ∀ e ∈ added, e.sectionName = sectionName
  unused : ∀ e ∈ cfg, e.sectionName ≠ sectionName

def shown (e : ConfigEntry) : Text × Text :=
  -- Key and value as a saved entry is read.
  ((reread e).key, (reread e).value)

theorem listing_saved {cfg added : KerchunkConfig} {sectionName : Text}
    (new : NewGroup cfg added sectionName) :
    listing ((Grouping.grouped ConfigEntry.sectionName (cfg ++ added)).map reread) =
      ((sectionNames cfg).map fun name => (name, (sectionEntries cfg name).map shown)) ++
        [(sectionName, added.map shown)] := by
  have old : ∀ name ∈ sectionNames cfg,
      sectionEntries (cfg ++ added) name = sectionEntries cfg name := by
    intro name member
    obtain ⟨e, present, rfl⟩ := Grouping.mem_keys.mp member
    rw [sectionEntries, Grouping.group_append, Grouping.group_none (l := added), List.append_nil]
    intro other isNew same
    exact new.unused e present (same.symm.trans (new.own other isNew))
  have last : sectionEntries (cfg ++ added) sectionName = added := by
    rw [sectionEntries, Grouping.group_append, Grouping.group_none new.unused,
      Grouping.group_same new.own, List.nil_append]
  rw [listing_reread, sectionNames, Grouping.keys_concat new.some new.own new.unused,
    List.map_append, List.map_singleton, last]
  congr 1
  apply List.map_congr_left
  intro name member
  rw [old name member]
  rfl

theorem listing_names (cfg : KerchunkConfig) : (listing cfg).map Prod.fst = sectionNames cfg := by
  simp [listing, Function.comp_def]

theorem unused_of_listing {cfg again : KerchunkConfig} {sectionName : Text}
    {values : List (Text × Text)} (same : listing again = listing cfg ++ [(sectionName, values)]) :
    ∀ e ∈ cfg, e.sectionName ≠ sectionName := by
  -- No section is listed twice.
  have names := congrArg (List.map Prod.fst) same
  rw [List.map_append, listing_names, listing_names] at names
  have distinct : (sectionNames cfg ++ [sectionName]).Nodup :=
    names ▸ Grouping.keys_nodup again
  have apart := (List.nodup_append.mp distinct).2.2
  intro e present sameSection
  exact apart e.sectionName (Grouping.mem_keys.mpr ⟨e, present, rfl⟩) sectionName
    (List.mem_singleton_self _) sameSection

theorem readable_of_listing {cfg again : KerchunkConfig} {file : Text}
    (parsed : parseFile file = some again) (listed : listing cfg ⊆ listing again) :
    ∀ e ∈ cfg, Readable e := by
  intro e present
  exact (loaded_sound parsed).2 e (mem_of_listing listed present)

theorem listed_keys {cfg : KerchunkConfig} {sectionName : Text} {values : List (Text × Text)}
    (listed : (sectionName, values) ∈ listing cfg) : values = sectionKeys cfg sectionName := by
  obtain ⟨name, _, same⟩ := List.mem_map.mp listed
  obtain ⟨rfl, keys⟩ := Prod.mk.inj same
  exact keys.symm

theorem saved_keys (cfg : KerchunkConfig) (sectionName : Text) :
    sectionKeys ((Grouping.grouped ConfigEntry.sectionName cfg).map reread) sectionName =
      (sectionEntries cfg sectionName).map shown := by
  rw [sectionKeys, sectionEntries_saved, List.map_map]
  rfl

/-! ## The record's entries -/

theorem Made.shown_keys (made : Made s r) :
    ((r.calls.map newEntry).map shown).map Prod.fst = r.fields.map fun field => field.1.toList := by
  have keys : ∀ call ∈ r.calls, (shown (newEntry call)).1 = call.key :=
    fun call member => (made.plainNames call member).trimmed
  calc ((r.calls.map newEntry).map shown).map Prod.fst
      = r.calls.map fun call => (shown (newEntry call)).1 := by simp
    _ = r.calls.map SetCall.key := List.map_congr_left keys
    _ = r.fields.map fun field => field.1.toList := by simp [Created.calls]

theorem Registered.shown_access (registered : Registered s.users q r) :
    ("access".toList, basicAccess) ∈ (r.calls.map newEntry).map shown := by
  have call : { sectionName := r.sectionName, key := "access".toList, value := basicAccess } ∈
      r.calls := List.mem_map.mpr ⟨_, registered.access, rfl⟩
  exact List.mem_map.mpr ⟨_, List.mem_map_of_mem call, rfl⟩

theorem newEntry_section {e : ConfigEntry} (member : e ∈ r.calls.map newEntry) :
    e.sectionName = r.sectionName := by
  obtain ⟨call, isCall, rfl⟩ := List.mem_map.mp member
  exact calls_sectionName isCall

theorem Registered.newGroup (registered : Registered s.users q r)
    (unused : ∀ e ∈ s.cfg, e.sectionName ≠ r.sectionName) :
    NewGroup s.cfg (r.calls.map newEntry) r.sectionName := by
  have some := List.ne_nil_of_mem registered.access
  exact ⟨by simpa [Created.calls] using some, fun _ => newEntry_section, unused⟩

/-! ## Registrations -/

theorem register_stores {save : Save}
    (accepted : created s (.register q save) = some (r, save)) :
    (step s (.register q save)).cfg = r.calls.foldl applySet s.cfg := by
  simp only [step, accepted, State.store, (settle_creating accepted).1]

theorem Made.room (made : Made s r) (unused : ∀ e ∈ s.cfg, e.sectionName ≠ r.sectionName)
    (storing : Storing s.cfg)
    (counted : (sectionEntries (r.calls.foldl applySet s.cfg) r.sectionName).length =
      r.fields.length) : s.cfg.length + r.fields.length ≤ maxEntries := by
  -- As many entries came in as there are fields.
  rw [made.stored unused, sectionEntries, Grouping.group_append, Grouping.group_none unused,
    List.nil_append, Grouping.group_same fun e member =>
      newEntry_section ((List.take_sublist ..).subset member)] at counted
  simp only [List.length_take, List.length_map, Created.calls] at counted
  have within := storing.2
  omega

theorem Made.stored_all (made : Made s r) (unused : ∀ e ∈ s.cfg, e.sectionName ≠ r.sectionName)
    (room : s.cfg.length + r.fields.length ≤ maxEntries) :
    r.calls.foldl applySet s.cfg = s.cfg ++ r.calls.map newEntry := by
  rw [made.stored unused, List.take_of_length_le]
  simp only [List.length_map, Created.calls]
  omega

theorem registration_adds_only {file : Text} {calls : List SetCall}
    (reaches : reached file calls = some s.cfg) {save : Save}
    (accepted : created s (.register q save) = some (r, save)) :
    StoresOnly s (.register q save) r ↔ Clear s q := by
  have made := created_made accepted
  have registered := created_registered accepted
  have storing := reached_storing reaches
  have stores := storing_sets storing r.calls
  have own : Kind.user.sectionName r.id = r.sectionName := by
    rw [Created.sectionName, registered.kind]
  simp only [StoresOnly, AddsOnly, own, register_stores accepted]
  constructor
  next =>
    rintro ⟨again, parsed, values, listed, keys, _⟩
    have unused := unused_of_listing listed
    have old := readable_of_listing parsed (listed ▸ List.subset_append_left ..)
    obtain rfl := Option.some.inj ((parseFile_saved stores (made.readable old)).symm.trans parsed)
    have room : s.cfg.length + r.fields.length ≤ maxEntries := by
      have isLast : (r.sectionName, values) ∈ listing s.cfg ++ [(r.sectionName, values)] := by simp
      have all := listed_keys (listed ▸ isLast)
      rw [saved_keys] at all
      apply made.room unused storing
      have sizes := congrArg List.length keys
      rwa [all, List.length_map, List.length_map, List.length_map] at sizes
    rw [made.stored_all unused room, listing_saved (registered.newGroup unused)] at listed
    have same := listing_same.mp (List.append_inj_left' listed rfl)
    refine ⟨fun e present => plain_iff_reread.mpr ⟨old e present, same e present⟩,
      registered.count ▸ room, fun id next => ?_⟩
    obtain rfl := Option.some.inj (registered.next.symm.trans next)
    rwa [own]
  next =>
    intro clear
    have unused : ∀ e ∈ s.cfg, e.sectionName ≠ r.sectionName :=
      own ▸ clear.unused r.id registered.next
    have room : s.cfg.length + r.fields.length ≤ maxEntries := registered.count ▸ clear.room
    have old : ∀ e ∈ s.cfg, Readable e := fun e present =>
      (plain_iff_reread.mp (clear.plain e present)).1
    have same := listing_same.mpr fun e present => (plain_iff_reread.mp (clear.plain e present)).2
    refine ⟨_, parseFile_saved stores (made.readable old), _, ?_, made.shown_keys,
      registered.shown_access⟩
    rw [made.stored_all unused room, listing_saved (registered.newGroup unused), ← same]
    rfl

/-! ## A value with lines of its own -/

def applicant (username name : String) : Registration where
  peer := nobody
  now := 100
  username := some username.toList
  name := some name.toList
  email := none
  callsign := none
  loginDraws := fun _ => some 0
  aniDraws := fun _ => some 0
  later := 100

def openStart (stored : KerchunkConfig) (users : List User) : State where
  separate := true
  cfg := stored
  file := []
  users := users
  groups := []
  reload := false
  registrar := idle true

def adminBody : UserBody :=
  { userNamed "Ann" with access := some 2 }

def adminFile : Text :=
  "[user.1]\nname = Ann\naccess = 2\n".toList

def adminEntries : KerchunkConfig :=
  [{ sectionName := "user.1".toList, key := "name".toList, value := "Ann".toList },
   { sectionName := "user.1".toList, key := "access".toList, value := ['2'] }]

def ann : User where
  id := 1
  name := "Ann".toList
  username := "ann".toList
  dtmfLogin := []
  ani := []

def intruder : Registration :=
  applicant "eve" "Eve\n[user.2]\naccess = 2"

def registeredAs (id : Nat) (q : Registration) : Created where
  kind := .user
  id := id
  codes := some ("1000".toList, "10000".toList)
  fields := q.fields (q.username.getD []) "1000".toList "10000".toList

theorem intruder_adds_only :
    StoresOnly (openStart adminEntries [ann]) (.register intruder .whole)
      (registeredAs 2 intruder) := by
  have reaches : reached adminFile [] = some (openStart adminEntries [ann]).cfg := rfl
  exact (registration_adds_only reaches rfl).mpr ⟨by decide, by decide, by decide⟩

/-! ## A registration before the reload -/

def adminCreated : State :=
  -- The table of users is not read again yet.
  step (openStart [] []) (.createUser adminBody .whole)

def adminCalls : List SetCall :=
  (adminBody.fields "Ann".toList).map fun field =>
    { sectionName := "user.1".toList, key := field.1.toList, value := field.2 }

theorem registration_takes_admin :
    ∃ file calls s q r, reached file calls = some s.cfg ∧
      created s (.register q .whole) = some (r, .whole) ∧ ¬ StoresOnly s (.register q .whole) r := by
  refine ⟨[], adminCalls, adminCreated, applicant "eve" "Eve", registeredAs 1 (applicant "eve" "Eve"),
    rfl, rfl, ?_⟩
  rintro ⟨again, parsed, values, listed, _⟩
  have some : ∃ e ∈ adminCreated.cfg, e.sectionName = Kind.user.sectionName 1 := by decide
  obtain ⟨e, present, same⟩ := some
  exact unused_of_listing listed e present same

end Kerchunk.Users
