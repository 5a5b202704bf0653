import Kerchunk.Config.Duration
import Kerchunk.Lib.CString
import Kerchunk.Lib.Octets

set_option autoImplicit false

/-!
# The admin access list (`modules/mod_web.c`)

`inet_pton` is the C library's.
-/

namespace Kerchunk.Web.Acl

open Kerchunk.Config (Text bounded isDigit atoiText numeral)
open LeadingBits (Byte bitsOf)

def maxAclEntries : Nat := 16

inductive Address where
  | ip4 (bytes : Vector Byte 4)
  | ip6 (bytes : Vector Byte 16)
deriving DecidableEq

namespace Address

def width : Address → Nat
  | ip4 _ => 32
  | ip6 _ => 128

def bytes : Address → List Byte
  | ip4 bytes => bytes.toList
  | ip6 bytes => bytes.toList

end Address

/-! ## `inet_pton` -/

def pton4Loop : Text → List Byte → Option Nat → Option (List Byte)
  -- `done` holds the numbers before the one that is read, of which there is a digit or none.
  | [], done, some value => if done.length = 3 then some (done ++ [BitVec.ofNat 8 value]) else none
  | [], _, none => none
  | c :: rest, done, value =>
    if isDigit c then
      match value with
      | none => if done.length < 4 then pton4Loop rest done (some (c.toNat - 48)) else none
      | some value =>
        if value = 0 ∨ 255 < value * 10 + (c.toNat - 48) then none
        else pton4Loop rest done (some (value * 10 + (c.toNat - 48)))
    else if c = '.' then
      match value with
      | some value =>
        if done.length = 3 then none else pton4Loop rest (done ++ [BitVec.ofNat 8 value]) none
      | none => none
    else none

def pton4 (text : Text) : Option (List Byte) :=
  pton4Loop text [] none

def hexDigit (c : Char) : Option Nat :=
  if isDigit c then some (c.toNat - 48)
  else if 'a' ≤ c ∧ c ≤ 'f' then some (c.toNat - 87)
  else if 'A' ≤ c ∧ c ≤ 'F' then some (c.toNat - 55)
  else none

def groupBytes (value : Nat) : List Byte :=
  [BitVec.ofNat 8 (value / 256), BitVec.ofNat 8 value]

def pton6Fill (out : List Byte) : Option Nat → Option (List Byte)
  -- `::` stands for as many zeros as are missing.
  | none => if out.length = 16 then some out else none
  | some colon =>
    if out.length = 16 then none
    else some (out.take colon ++ List.replicate (16 - out.length) 0 ++ out.drop colon)

def pton6Loop : Text → Text → List Byte → Option Nat → Nat → Nat → Option (List Byte)
  -- `curtok` is the group that is read, with what follows; `seen` of its digits make `value`.
  | [], _, out, colon, seen, value =>
    if seen = 0 then pton6Fill out colon
    else if 16 < out.length + 2 then none
    else pton6Fill (out ++ groupBytes value) colon
  | c :: rest, curtok, out, colon, seen, value =>
    match hexDigit c with
    | some digit =>
      if seen = 4 then none else pton6Loop rest curtok out colon (seen + 1) (value * 16 + digit)
    | none =>
      if c = ':' then
        if seen = 0 then
          match colon with
          | some _ => none
          | none => pton6Loop rest rest out (some out.length) 0 value
        else if rest = [] ∨ 16 < out.length + 2 then none
        else pton6Loop rest rest (out ++ groupBytes value) colon 0 0
      else if c = '.' ∧ out.length + 4 ≤ 16 then
        match pton4 curtok with
        | some four => pton6Fill (out ++ four) colon
        | none => none
      else none

def pton6 (text : Text) : Option (List Byte) :=
  match text with
  | [] => none
  | ':' :: rest =>
    match rest with
    | ':' :: _ => pton6Loop rest rest [] none 0 0
    | _ => none
  | _ => pton6Loop text text [] none 0 0

def vectorOf (n : Nat) (bytes : List Byte) : Option (Vector Byte n) :=
  if size : bytes.toArray.size = n then some ⟨bytes.toArray, size⟩ else none

def inetPton6 (text : Text) : Option Address :=
  ((pton6 text).bind (vectorOf 16)).map .ip6

def inetPton4 (text : Text) : Option Address :=
  ((pton4 text).bind (vectorOf 4)).map .ip4

example : (inetPton6 "fd00::1".toList).map Address.bytes =
    some (0xfd :: List.replicate 14 0 ++ [1]) := by decide

/-! ## The list -/

/-- `is_ip6` and `addr` are one address. -/
structure AclEntry where
  addr : Address
  prefixLen : Int
deriving DecidableEq

def parseAclEntry (str : Text) : Option AclEntry :=
  let s := Trim.trim (· = ' ') (bounded 64 str)
  if s = [] then none
  else
    let address := s.takeWhile (· ≠ '/')
    let prefixLen :=
      match s.dropWhile (· ≠ '/') with
      | _ :: text => atoiText text
      | [] => -1
    match inetPton6 address with
    | some addr => some ⟨addr, if prefixLen ≥ 0 then prefixLen else 128⟩
    | none =>
      match inetPton4 address with
      | some addr => some ⟨addr, if prefixLen ≥ 0 then prefixLen else 32⟩
      | none => none

def tokens (text : Text) : List Text :=
  CString.tokens ',' text

def parseAdminAcl (aclStr : Text) : List AclEntry :=
  -- No string is the empty one. The loop ends when the table is full.
  ((tokens (bounded 1024 aclStr)).filterMap parseAclEntry).take maxAclEntries

def maskMatch : List Byte → List Byte → Int → Bool
  | a :: ip, b :: addr, bits =>
    if 0 < bits then
      let mask : Byte := if 8 ≤ bits then 0xff else 0xff <<< (8 - bits).toNat
      if a &&& mask ≠ b &&& mask then false else maskMatch ip addr (bits - 8)
    else true
  | _, _, _ => true

def AclEntry.admits (acl : AclEntry) (rem : Address) : Bool :=
  match rem, acl.addr with
  | .ip6 ip6, .ip4 addr =>
    ip6[10] = 0xff && ip6[11] = 0xff && maskMatch (ip6.toList.drop 12) addr.toList acl.prefixLen
  | .ip4 _, .ip6 _ => false
  | .ip4 ip, .ip4 addr => maskMatch ip.toList addr.toList acl.prefixLen
  | .ip6 ip, .ip6 addr => maskMatch ip.toList addr.toList acl.prefixLen

def checkAdminAcl (acl : List AclEntry) (rem : Address) : Bool :=
  acl = [] || acl.any (·.admits rem)

/-! ## What the list says -/

structure Cidr where
  net : Address
  len : Nat
  inside : len ≤ net.width
deriving DecidableEq

/-- `::ffff:a.b.c.d` -/
def mappedTo (ip6 : Vector Byte 16) : Option (List Byte) :=
  if ip6.toList.take 12 = List.replicate 10 0 ++ [0xff, 0xff] then some (ip6.toList.drop 12) else none

def Cidr.holds (c : Cidr) (rem : Address) : Prop :=
  match rem, c.net with
  | .ip6 ip6, .ip4 net =>
    ∃ ip, mappedTo ip6 = some ip ∧ (bitsOf ip).take c.len = (bitsOf net.toList).take c.len
  | .ip4 _, .ip6 _ => False
  | .ip4 ip, .ip4 net => (bitsOf ip.toList).take c.len = (bitsOf net.toList).take c.len
  | .ip6 ip, .ip6 net => (bitsOf ip.toList).take c.len = (bitsOf net.toList).take c.len

def inetPton (text : Text) : Option Address :=
  (inetPton6 text).or (inetPton4 text)

/-- A well-formed entry: an address, and a length in decimal that its family has. -/
def cidrOf (entry : Text) : Option Cidr :=
  match (Trim.trim (· = ' ') entry).splitOn '/' with
  | [address] => (inetPton address).map fun net => ⟨net, net.width, Nat.le_refl net.width⟩
  | [address, len] =>
    if len ≠ [] ∧ len.all isDigit then
      (inetPton address).bind fun net =>
        if inside : (numeral len).toNat ≤ net.width then some ⟨net, (numeral len).toNat, inside⟩
        else none
    else none
  | _ => none

def written (aclStr : Text) : List Cidr :=
  (tokens aclStr).filterMap cidrOf

def Allowed (aclStr : Text) (rem : Address) : Prop :=
  aclStr = [] ∨ ∃ c ∈ written aclStr, c.holds rem

/-- What an entry becomes when it is read as it is written. -/
def Cidr.entry (c : Cidr) : AclEntry :=
  ⟨c.net, c.len⟩

/-- The first ten bytes of `::ffff:a.b.c.d` are not looked at. -/
def Cidr.lookalike (c : Cidr) (rem : Address) : Prop :=
  match rem, c.net with
  | .ip6 ip6, .ip4 net =>
    ip6[10] = 0xff ∧ ip6[11] = 0xff ∧ mappedTo ip6 = none ∧
      (bitsOf (ip6.toList.drop 12)).take c.len = (bitsOf net.toList).take c.len
  | _, _ => False

theorem maskMatch_done (ip addr : List Byte) {bits : Int} (done : bits ≤ 0) :
    maskMatch ip addr bits = true := by
  cases ip <;> cases addr <;> simp [maskMatch, not_lt.mpr done]

theorem maskMatch_iff (ip addr : List Byte) (same : ip.length = addr.length) (bits : Nat) :
    maskMatch ip addr bits = true ↔ (bitsOf ip).take bits = (bitsOf addr).take bits := by
  induction ip generalizing addr bits with
  | nil =>
    rw [List.length_eq_zero_iff.mp same.symm]
    simp [maskMatch]
  | cons a ip ih =>
    obtain _ | ⟨b, addr⟩ := addr
    next => simp at same
    next =>
      have rest : ip.length = addr.length := Nat.succ.inj same
      by_cases none : bits = 0
      next => simp [maskMatch, none]
      next =>
        have left : (bits : Int) - 8 = (bits - 8 : Nat) ∨ (bits : Int) - 8 ≤ 0 ∧ bits - 8 = 0 := by omega
        have more : maskMatch ip addr ((bits : Int) - 8) = true ↔
            (bitsOf ip).take (bits - 8) = (bitsOf addr).take (bits - 8) := by
          rcases left with counted | ⟨done, zero⟩
          next => rw [counted]; exact ih addr rest (bits - 8)
          next =>
            rw [zero, maskMatch_done ip addr done]
            simp
        have masks : (if (8 : Int) ≤ bits then (0xff : Byte) else 0xff <<< ((8 : Int) - bits).toNat) =
            LeadingBits.mask bits := by
          unfold LeadingBits.mask
          by_cases whole : 8 ≤ bits
          next => rw [if_pos (by omega), if_pos whole]
          next =>
            have shift : ((8 : Int) - bits).toNat = 8 - bits := by omega
            rw [if_neg (by omega), if_neg whole, shift]
        rw [LeadingBits.take_bitsOf_cons, maskMatch, if_pos (by omega)]
        simp only [masks]
        by_cases byte : a &&& LeadingBits.mask bits = b &&& LeadingBits.mask bits
        next => simp [byte, more]
        next => simp [byte]

theorem mapped_marks {ip6 : Vector Byte 16} {ip : List Byte} (mapped : mappedTo ip6 = some ip) :
    ip6[10] = 0xff ∧ ip6[11] = 0xff ∧ ip = ip6.toList.drop 12 := by
  unfold mappedTo at mapped
  split at mapped
  next marks =>
    have byte (i : Nat) (small : i < 12) :
        ip6.toList[i]? = (List.replicate 10 (0 : Byte) ++ [0xff, 0xff])[i]? := by
      rw [← marks, List.getElem?_take_of_lt small]
    refine ⟨?_, ?_, (Option.some.inj mapped).symm⟩
    next => simpa using byte 10 (by omega)
    next => simpa using byte 11 (by omega)
  next => simp at mapped

/-- What an entry that is kept as it is written admits. -/
theorem entry_admits (c : Cidr) (rem : Address) :
    c.entry.admits rem = true ↔ c.holds rem ∨ c.lookalike rem := by
  unfold AclEntry.admits Cidr.holds Cidr.lookalike Cidr.entry
  cases rem with
  | ip4 ip =>
    cases net : c.net with
    | ip4 addr => simpa using maskMatch_iff ip.toList addr.toList (by simp) c.len
    | ip6 addr => simp
  | ip6 ip =>
    cases net : c.net with
    | ip6 addr => simpa using maskMatch_iff ip.toList addr.toList (by simp) c.len
    | ip4 addr =>
      have low := maskMatch_iff (ip.toList.drop 12) addr.toList (by simp) c.len
      simp only [Bool.and_eq_true, decide_eq_true_eq, low]
      cases mapped : mappedTo ip with
      | none => simp [and_assoc]
      | some four =>
        obtain ⟨ten, eleven, rfl⟩ := mapped_marks mapped
        simp [ten, eleven]

section Reading

theorem inetPton_width {text : Text} {net : Address} (read : inetPton text = some net) (bits : Int) :
    (match inetPton6 text with
      | some addr => some (AclEntry.mk addr (if bits ≥ 0 then bits else 128))
      | none =>
        match inetPton4 text with
        | some addr => some ⟨addr, if bits ≥ 0 then bits else 32⟩
        | none => none) = some ⟨net, if bits ≥ 0 then bits else net.width⟩ := by
  unfold inetPton at read
  cases six : inetPton6 text with
  | some addr =>
    rw [six, Option.some_or, Option.some_inj] at read
    subst read
    obtain ⟨bytes, -, rfl⟩ := Option.map_eq_some_iff.mp six
    rfl
  | none =>
    rw [six, Option.none_or] at read
    rw [read]
    obtain ⟨bytes, -, rfl⟩ := Option.map_eq_some_iff.mp read
    rfl

/-- A well-formed entry that fits the buffer is read as it is written. -/
theorem parse_wellFormed {entry : Text} {c : Cidr} (shape : cidrOf entry = some c)
    (short : entry.length < 64) : parseAclEntry entry = some c.entry := by
  have whole : bounded 64 entry = entry := List.take_of_length_le (by omega)
  unfold cidrOf at shape
  unfold parseAclEntry
  rw [whole]
  generalize Trim.trim (· = ' ') entry = s at *
  by_cases slash : '/' ∈ s
  next =>
    obtain ⟨address, len, rfl, plain⟩ := List.eq_append_cons_of_mem slash
    have before : ∀ c ∈ address, decide (c ≠ '/') = true := by
      intro c held
      exact decide_eq_true fun same => plain (same ▸ held)
    have first : (address ++ '/' :: len).takeWhile (· ≠ '/') = address := by
      rw [List.takeWhile_append_of_pos before]
      simp
    have last : (address ++ '/' :: len).dropWhile (· ≠ '/') = '/' :: len := by
      rw [List.dropWhile_append_of_pos before]
      simp
    rw [List.splitOn_append_cons_self_of_not_mem plain] at shape
    by_cases again : '/' ∈ len
    next =>
      obtain ⟨mid, rest, rfl, below⟩ := List.eq_append_cons_of_mem again
      obtain ⟨piece, pieces, more⟩ := List.exists_cons_of_ne_nil (List.splitOn_ne_nil '/' rest)
      rw [List.splitOn_append_cons_self_of_not_mem below, more] at shape
      simp at shape
    next =>
      rw [List.splitOn_eq_singleton again] at shape
      simp only at shape
      split at shape
      next number =>
        obtain ⟨net, read, shape⟩ := Option.bind_eq_some_iff.mp shape
        split at shape
        next inside =>
          obtain rfl := Option.some.inj shape
          have digits : ∀ c ∈ len, isDigit c = true := List.all_eq_true.mp number.2
          have low := Config.numeral_nonneg digits
          have wide : net.width ≤ 128 := by cases net <;> simp [Address.width]
          have value := Config.atoiText_digits digits (by unfold Config.intMax; omega)
          simp only [first, last, value, inetPton_width read, Cidr.entry]
          rw [if_neg (by simp), if_pos low, Int.toNat_of_nonneg low]
        next => simp at shape
      next => simp at shape
  next =>
    have all : ∀ c ∈ s, decide (c ≠ '/') = true := by
      intro c held
      exact decide_eq_true fun same => slash (same ▸ held)
    have first : s.takeWhile (· ≠ '/') = s := List.takeWhile_eq_self_iff.mpr all
    have last : s.dropWhile (· ≠ '/') = [] := List.dropWhile_eq_nil_iff.mpr all
    rw [List.splitOn_eq_singleton slash] at shape
    obtain ⟨net, read, rfl⟩ := Option.map_eq_some_iff.mp shape
    have some : s ≠ [] := by
      rintro rfl
      exact absurd read (by rw [show inetPton [] = none by decide]; simp)
    simp only [first, last, inetPton_width read, Cidr.entry]
    rw [if_neg some]
    rfl

theorem plain_table {aclStr : Text} (short : aclStr.length < 1024)
    (few : (tokens aclStr).length ≤ maxAclEntries)
    (shaped : ∀ entry ∈ tokens aclStr, (cidrOf entry).isSome = true ∧ entry.length < 64) :
    parseAdminAcl aclStr = (written aclStr).map Cidr.entry := by
  have whole : bounded 1024 aclStr = aclStr := List.take_of_length_le (by omega)
  have read : (tokens aclStr).filterMap parseAclEntry = (written aclStr).map Cidr.entry := by
    rw [written, List.map_filterMap]
    refine List.filterMap_congr fun entry member => ?_
    obtain ⟨shape, fits⟩ := shaped entry member
    obtain ⟨c, shape⟩ := Option.isSome_iff_exists.mp shape
    rw [shape, parse_wellFormed shape fits, Option.map_some]
  rw [parseAdminAcl, whole, List.take_of_length_le, read]
  exact (List.length_filterMap_le _ _).trans few

def KeptHolding (aclStr : Text) (rem : Address) : Prop :=
  ∃ c ∈ written aclStr, c.entry ∈ parseAdminAcl aclStr ∧ c.holds rem

def KeptLookalike (aclStr : Text) (rem : Address) : Prop :=
  ∃ c ∈ written aclStr, c.entry ∈ parseAdminAcl aclStr ∧ c.lookalike rem

/-- An entry of the table that stands for none that is written. -/
def MisreadAdmitting (aclStr : Text) (rem : Address) : Prop :=
  ∃ e ∈ parseAdminAcl aclStr, (∀ c ∈ written aclStr, c.entry ≠ e) ∧ e.admits rem = true

def LostHolding (aclStr : Text) (rem : Address) : Prop :=
  ∃ c ∈ written aclStr, c.entry ∉ parseAdminAcl aclStr ∧ c.holds rem

theorem checkAdminAcl_iff (aclStr : Text) (rem : Address) :
    checkAdminAcl (parseAdminAcl aclStr) rem = true ↔
      parseAdminAcl aclStr = [] ∨ KeptHolding aclStr rem ∨ KeptLookalike aclStr rem ∨
        MisreadAdmitting aclStr rem := by
  unfold checkAdminAcl
  rw [Bool.or_eq_true, decide_eq_true_eq, List.any_eq_true]
  refine or_congr_right ⟨?_, ?_⟩
  next =>
    rintro ⟨e, kept, admitted⟩
    by_cases read : ∃ c ∈ written aclStr, c.entry = e
    next =>
      obtain ⟨c, member, rfl⟩ := read
      rcases (entry_admits c rem).mp admitted with holds | lookalike
      next => exact .inl ⟨c, member, kept, holds⟩
      next => exact .inr (.inl ⟨c, member, kept, lookalike⟩)
    next => exact .inr (.inr ⟨e, kept, fun c member same => read ⟨c, member, same⟩, admitted⟩)
  next =>
    rintro (⟨c, -, kept, holds⟩ | ⟨c, -, kept, lookalike⟩ | ⟨e, kept, -, admitted⟩)
    next => exact ⟨c.entry, kept, (entry_admits c rem).mpr (.inl holds)⟩
    next => exact ⟨c.entry, kept, (entry_admits c rem).mpr (.inr lookalike)⟩
    next => exact ⟨e, kept, admitted⟩

theorem allowed_iff (aclStr : Text) (rem : Address) :
    Allowed aclStr rem ↔ aclStr = [] ∨ KeptHolding aclStr rem ∨ LostHolding aclStr rem := by
  refine or_congr_right ⟨?_, ?_⟩
  next =>
    rintro ⟨c, member, holds⟩
    by_cases kept : c.entry ∈ parseAdminAcl aclStr
    next => exact .inl ⟨c, member, kept, holds⟩
    next => exact .inr ⟨c, member, kept, holds⟩
  next =>
    rintro (⟨c, member, -, holds⟩ | ⟨c, member, -, holds⟩)
    next => exact ⟨c, member, holds⟩
    next => exact ⟨c, member, holds⟩

/-- The table admits whom the list allows, except where what is read from it is not what
is written in it. -/
theorem admits_allowed_iff (aclStr : Text) (rem : Address) :
    (checkAdminAcl (parseAdminAcl aclStr) rem = true ↔ Allowed aclStr rem) ↔
      aclStr = [] ∨ KeptHolding aclStr rem ∨
        (parseAdminAcl aclStr = [] ∨ KeptLookalike aclStr rem ∨ MisreadAdmitting aclStr rem ↔
          LostHolding aclStr rem) := by
  rw [checkAdminAcl_iff, allowed_iff]
  by_cases empty : aclStr = []
  next =>
    subst empty
    have none : parseAdminAcl [] = [] := by decide
    simp [none]
  next =>
    by_cases holding : KeptHolding aclStr rem
    next => simp [holding]
    next => simp [holding, empty]

/-- A list of well-formed entries that fits the buffer and the table. -/
theorem plain_admits {aclStr : Text} (some : tokens aclStr ≠ []) (short : aclStr.length < 1024)
    (few : (tokens aclStr).length ≤ maxAclEntries)
    (shaped : ∀ entry ∈ tokens aclStr, (cidrOf entry).isSome = true ∧ entry.length < 64)
    {rem : Address} (real : ∀ c ∈ written aclStr, ¬ c.lookalike rem) :
    checkAdminAcl (parseAdminAcl aclStr) rem = true ↔ Allowed aclStr rem := by
  have table := plain_table short few shaped
  have kept (c : Cidr) (member : c ∈ written aclStr) : c.entry ∈ parseAdminAcl aclStr := by
    rw [table]
    exact List.mem_map_of_mem member
  have filled : parseAdminAcl aclStr ≠ [] := by
    obtain ⟨entry, rest, first⟩ := List.exists_cons_of_ne_nil some
    have member : entry ∈ tokens aclStr := first ▸ List.mem_cons_self
    obtain ⟨c, shape⟩ := Option.isSome_iff_exists.mp (shaped entry member).1
    exact List.ne_nil_of_mem (kept c (List.mem_filterMap.mpr ⟨entry, member, shape⟩))
  have noLookalike : ¬ KeptLookalike aclStr rem :=
    fun ⟨c, member, _, lookalike⟩ => real c member lookalike
  have noMisread : ¬ MisreadAdmitting aclStr rem := by
    rintro ⟨e, member, other, -⟩
    obtain ⟨c, from_list, same⟩ := List.mem_map.mp (table ▸ member)
    exact other c from_list same
  have noLost : ¬ LostHolding aclStr rem := fun ⟨c, member, lost, _⟩ => lost (kept c member)
  refine (admits_allowed_iff aclStr rem).mpr (.inr (.inr ?_))
  simp only [filled, noLookalike, noMisread, noLost, or_self]

/-- One entry, with an octet left out, is refused, and the table is as good as no list. -/
theorem malformed_admits_everyone :
    ¬ ∀ (aclStr : Text) (rem : Address),
      checkAdminAcl (parseAdminAcl aclStr) rem = true ↔ Allowed aclStr rem := by
  intro all
  have allowed := (all "192.168.86/24".toList (.ip4 #v[203, 0, 113, 9])).mp (by decide)
  have none : written "192.168.86/24".toList = [] := by decide
  rcases allowed with empty | ⟨c, member, -⟩
  next => exact absurd empty (by decide)
  next =>
    rw [none] at member
    exact absurd member List.not_mem_nil

end Reading

end Kerchunk.Web.Acl
