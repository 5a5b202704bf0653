import Kerchunk.Lib.ChallengeResponse
import Kerchunk.Link.Client
import Kerchunk.Reflectd.Lifelines
import Kerchunk.Reflectd.RosterMessages
import Mathlib.Data.Nat.Bitwise

set_option autoImplicit false

/-!
# Logging in with a key (`src/reflectd/main.c`, `modules/mod_link.c`)

Anyone may open connections and send what he likes on them, and show any challenge to any client.
`hmac` is what OpenSSL computes, `none` when it fails.
-/

namespace Kerchunk.Reflectd

open ChallengeResponse (Accepted Agrees Lawful New Permitted accepted_snoc issued_once lawful_agrees
  lawful_snoc not_accepted_of_new)
open Link (Client Login Request)
open Machine (run)

/-! ## Hexadecimal -/

def hexDigitValue (ch : Char) : Nat :=
  -- Of a character that `isxdigit` accepts.
  if '0' ≤ ch ∧ ch ≤ '9' then ch.toNat - 48
  else if 'a' ≤ ch ∧ ch ≤ 'f' then ch.toNat - 87
  else ch.toNat - 55

def hexToBytes : Nat → List Char → Option (List Nat)
  | 0, _ => some []
  | n + 1, hi :: lo :: rest =>
      if isHexDigit hi && isHexDigit lo then
        (hexToBytes n rest).map fun bytes => (16 * hexDigitValue hi + hexDigitValue lo) :: bytes
      else none
  | _ + 1, _ => none

def readHex (n : Nat) (text : String) : Option (List Nat) :=
  -- Behind the check of the length.
  if text.toList.length = 2 * n then hexToBytes n text.toList else none

theorem hexToBytes_isSome (n : Nat) (text : List Char) (exactly : text.length = 2 * n) :
    (hexToBytes n text).isSome = text.all isHexDigit := by
  induction n generalizing text with
  | zero =>
    obtain rfl := List.eq_nil_of_length_eq_zero exactly
    rfl
  | succ n ih =>
    match text, exactly with
    | hi :: lo :: rest, exactly =>
      have shorter : rest.length = 2 * n := by
        simp only [List.length_cons] at exactly
        omega
      simp only [hexToBytes, List.all_cons]
      cases isHexDigit hi <;> cases isHexDigit lo <;> simp [ih rest shorter]

theorem readHex_isSome (n : Nat) (text : String) : (readHex n text).isSome = isHexOf n text := by
  unfold readHex isHexOf
  split
  next exactly => simp [hexToBytes_isSome n text.toList exactly, exactly]
  next other => simp [other]

theorem hexToBytes_bytesToHex (bytes : List Nat) (octets : ∀ b ∈ bytes, b < 256) :
    hexToBytes bytes.length (bytesToHex bytes) = some bytes := by
  -- What one side writes the other reads.
  induction bytes with
  | nil => rfl
  | cons b rest ih =>
    have digit : ∀ n < 16, isHexDigit (hexDigit n) = true ∧ hexDigitValue (hexDigit n) = n := by decide
    obtain ⟨small, later⟩ := List.forall_mem_cons.mp octets
    obtain ⟨high, highValue⟩ := digit (b / 16) (by omega)
    obtain ⟨low, lowValue⟩ := digit (b % 16) (by omega)
    simp only [bytesToHex, List.flatMap_cons, List.cons_append, List.nil_append, List.length_cons,
      hexToBytes, high, low, Bool.and_self, if_true, highValue, lowValue]
    simp only [bytesToHex] at ih
    rw [ih later, Option.map_some, Nat.div_add_mod]

/-! ## The HMAC of a login -/

variable (hmac : List Nat → List Nat → Option (List Nat))

def verifyLoginHmac (psk challenge nonce claimed : List Nat) : Bool :=
  match hmac psk (challenge ++ nonce) with
  | none => false
  | some computed =>
      decide (computed.length = Link.hmacBytes) &&
        (List.zipWith (· ^^^ ·) computed claimed).foldl (· ||| ·) 0 == 0

/-- What `verify_login_hmac` is called with. -/
structure HmacCheck where
  psk : List Nat
  challenge : List Nat
  nonce : List Nat
  claimed : List Nat
deriving DecidableEq

def HmacCheck.passes (check : HmacCheck) : Bool :=
  verifyLoginHmac hmac check.psk check.challenge check.nonce check.claimed

def onHello (cl : Client) (psk challenge nonce : List Nat) : Client × List Request :=
  -- The client's side, with the nonce that it draws.
  cl.onHello challenge <|
    match hmac psk (challenge ++ nonce) with
    | none => .hmacFails
    | some mac => .login (String.ofList (bytesToHex nonce)) (String.ofList (bytesToHex mac))

theorem or_xor_eq_zero {computed claimed : List Nat} (same : computed.length = claimed.length)
    (start : Nat) :
    (List.zipWith (· ^^^ ·) computed claimed).foldl (· ||| ·) start = 0 ↔
      start = 0 ∧ computed = claimed := by
  -- The loop without a branch is a comparison.
  induction computed generalizing claimed start with
  | nil =>
    obtain rfl := List.eq_nil_of_length_eq_zero same.symm
    simp
  | cons a rest ih =>
    cases claimed with
    | nil => cases same
    | cons b later =>
      rw [List.zipWith_cons_cons, List.foldl_cons, ih (by simpa using same), Nat.or_eq_zero_iff,
        Nat.xor_eq_zero_iff, List.cons.injEq, and_assoc]

theorem verifyLoginHmac_iff {psk challenge nonce claimed : List Nat}
    (whole : claimed.length = Link.hmacBytes) :
    verifyLoginHmac hmac psk challenge nonce claimed = true ↔
      hmac psk (challenge ++ nonce) = some claimed := by
  unfold verifyLoginHmac
  cases hmac psk (challenge ++ nonce) with
  | none => simp
  | some computed =>
    simp only [Bool.and_eq_true, decide_eq_true_eq, beq_iff_eq, Option.some.injEq]
    constructor
    next =>
      rintro ⟨full, none⟩
      exact ((or_xor_eq_zero (full.trans whole.symm) 0).mp none).2
    next =>
      rintro rfl
      exact ⟨whole, (or_xor_eq_zero rfl 0).mpr ⟨rfl, rfl⟩⟩

/-! ## The reflector among clients that hold keys -/

abbrev Deed := ChallengeResponse.Deed Nat Nat (List Nat) (List Nat)

/-- `psk` are the keys of the configured nodes. `macs` are the keys and texts of the HMACs that
clients have computed so far, and `log` what has been done. -/
structure Handshake where
  server : State
  psk : Nat → List Nat
  macs : List (List Nat × List Nat)
  log : List Deed

/-- `psk` of an event of the reflector counts where it loads a configuration. -/
inductive Act where
  | serve (timed : Moment × Event) (psk : Nat → List Nat)
  | answer (cl : Client) (psk challenge nonce : List Nat)

namespace Handshake

def init (cfg : Rcfg) (bootMs : Nat) (psk : Nat → List Nat) : Handshake where
  server := State.init cfg bootMs
  psk := psk
  macs := []
  log := []

def challenge (s : State) (c : Nat) : Option (List Nat) :=
  (s.conns c).map Conn.challenge

def hmacCheck (h : Handshake) (c : Nat) (body : Login) : Option HmacCheck := do
  let challenge ← challenge h.server c
  let idx ← body.nodeId.bind (rcfgNodeIdx h.server.cfg)
  let nonce ← body.nonce.bind (readHex Link.nonceBytes)
  let claimed ← body.keyHmac.bind (readHex Link.hmacBytes)
  return { psk := h.psk idx, challenge := challenge, nonce := nonce, claimed := claimed }

def verified (h : Handshake) (timed : Moment × Event) : Moment × Event :=
  -- What OpenSSL answers about the HMAC is no choice of the environment.
  match timed with
  | (m, .wsMsg c frame draw) =>
      match frame.request with
      | .login body =>
          (m, .wsMsg c frame
            { draw with hmacMatches := (h.hmacCheck c body).any (HmacCheck.passes hmac) })
      | _ => (m, .wsMsg c frame draw)
  | timed => timed

def deeds (h : Handshake) (server : State) : Event → List Deed
  -- Seen from the states of the reflector before and after an event.
  | .wsOpen c _ =>
      if h.server.conns c = none then ((challenge server c).map (.issued c)).toList else []
  | .wsMsg c _ _ =>
      match seatOf h.server c, seatOf server c, challenge server c with
      | none, some k, some x => [.accepted c k (h.psk k) x]
      | _, _, _ => []
  | _ => []

def step (h : Handshake) : Act → Handshake
  | .serve timed psk =>
      let server := Reflectd.step h.server (h.verified hmac timed)
      { h with
        server := server
        psk := match timed.2 with
          | .reload (some _) => psk
          | _ => h.psk
        log := h.log ++ h.deeds server timed.2 }
  | .answer cl psk challenge nonce =>
      match (onHello hmac cl psk challenge nonce).2 with
      | [] => h
      | _ :: _ =>
          { h with
            macs := h.macs ++ [(psk, challenge ++ nonce)]
            log := h.log ++ [.proved psk challenge] }

/-- `RAND_bytes` gives a challenge that nobody has seen, and only who holds a key computes an HMAC
with it: one that passes was computed by a client. -/
def Sound (h : Handshake) : Act → Prop
  | .serve (_, .wsOpen c drawn) _ =>
      h.server.conns c = none →
        ∃ bytes, drawn = some bytes ∧ bytes.length = Client.challengeBytes ∧ New h.log bytes
  | .serve (_, .wsMsg c frame _) _ =>
      ∀ body check, frame.request = .login body → h.hmacCheck c body = some check →
        check.passes hmac = true → (check.psk, check.challenge ++ check.nonce) ∈ h.macs
  | _ => True

end Handshake

end Kerchunk.Reflectd
