import Kerchunk.Push.Tokens

set_option autoImplicit false

/-!
# What the push token store is

A map from users to their tokens, and what is done with the jobs that are queued for them.
-/

namespace Kerchunk.Push

open KeyedArray (Distinct)

/-! ## The map -/

abbrev TokenMap := UInt32 → Option Token

def State.tokenMap (s : State) : TokenMap :=
  fun uid => (findToken s.tokens uid).map TokenEntry.token

inductive Change where
  | registered (uid : UInt32) (token : Token)
  | evicted (uid : UInt32)

def Change.apply (m : TokenMap) : Change → TokenMap
  | .registered uid token => Function.update m uid (some token)
  | .evicted uid => Function.update m uid none

def changes (s : State) : Input → List Change
  -- What a step does to the map.
  | .register uid token _ _ =>
    if s.pushing = none ∧ validLength token ∧
        (s.tokenMap uid ≠ none ∨ s.tokens.length < maxTokens) then [.registered uid token]
    else []
  | .work _ _ =>
    match s.worker with
    | .evicting job _ _ =>
      if s.pushing = none ∧ s.tokenMap job.uid = some job.token then [.evicted job.uid] else []
    | _ => []
  | _ => []

/-! ## What is asked of it -/

def Worker.job : Worker → Option PushJob
  | .trying job _ => some job
  | .evicting job _ _ => some job
  | _ => none

def PushJob.queued (job : PushJob) : PushJob :=
  -- The job as it was queued.
  { job with retried := false }

/-- The store is a bounded map of the tokens that were registered last, and the worker does the
accepted jobs in order, each once. -/
structure Represents (s : State) : Prop where
  distinct : Distinct TokenEntry.uid s.tokens
  bounded : s.tokens.length ≤ maxTokens
  latest : ∀ uid token, s.tokenMap uid = some token →
    (s.registered.filter fun r => r.1 = uid).getLast? = some (uid, token)
  taken : s.taken <+: s.accepted
  each : s.taken = s.finished.map (fun f => f.job.queued) ++ s.worker.job.toList.map PushJob.queued
  attempts : ∀ f ∈ s.finished, f.attempts ≤ 2
  sent : s.sent = s.finished.countP fun f => f.sent
  failed : s.failed = s.finished.countP fun f => !f.sent

/-- A step does to the map what its changes say, and takes an entry away only after a reply to a push
with the token that it holds. -/
structure Moves (s : State) (i : Input) : Prop where
  map : (step s i).tokenMap = (changes s i).foldl Change.apply s.tokenMap
  leaves : ∀ uid token, s.tokenMap uid = some token → (step s i).tokenMap uid = none →
    ∃ job http, (job, http) ∈ s.replies ∧ (http = 400 ∨ http = 410) ∧ job.uid = uid ∧
      job.token = token

structure Sound (s : State) : Prop where
  distinct : Distinct TokenEntry.uid s.tokens
  bounded : s.tokens.length ≤ maxTokens
  latest : ∀ uid token, s.tokenMap uid = some token →
    (s.registered.filter fun r => r.1 = uid).getLast? = some (uid, token)
  ring : CountedRing.Valid apnsQueueSize s.ring
  accepted : s.accepted = s.taken ++ s.ring.contents apnsQueueSize
  queued : ∀ job ∈ s.accepted, job.queued = job
  each : s.taken = s.finished.map (fun f => f.job.queued) ++ s.worker.job.toList.map PushJob.queued
  trying : ∀ job attempts, s.worker = .trying job attempts →
    attempts ≤ 1 ∧ (job.retried = false → attempts = 0)
  evicting : ∀ job attempts http, s.worker = .evicting job attempts http →
    attempts ≤ 2 ∧ (http = 400 ∨ http = 410) ∧ (job, http) ∈ s.replies
  attempts : ∀ f ∈ s.finished, f.attempts ≤ 2
  sent : s.sent = s.finished.countP fun f => f.sent
  failed : s.failed = s.finished.countP fun f => !f.sent

theorem Sound.represents {s : State} (sound : Sound s) : Represents s where
  distinct := sound.distinct
  bounded := sound.bounded
  latest := sound.latest
  taken := sound.accepted ▸ List.prefix_append _ _
  each := sound.each
  attempts := sound.attempts
  sent := sound.sent
  failed := sound.failed

/-! ## The token store -/

theorem replace_distinct {tokens : List TokenEntry} (distinct : Distinct TokenEntry.uid tokens)
    {uid : UInt32} {f : TokenEntry → TokenEntry} (kept : ∀ e, (f e).uid = e.uid) :
    Distinct TokenEntry.uid (KeyedArray.replace TokenEntry.uid uid f tokens) := by
  have keys : (KeyedArray.replace TokenEntry.uid uid f tokens).map TokenEntry.uid =
      tokens.map TokenEntry.uid :=
    KeyedArray.replace_keys (fun e same => (kept e).trans same) tokens
  unfold Distinct
  rwa [keys]

theorem replace_find {tokens : List TokenEntry} {uid : UInt32} {f : TokenEntry → TokenEntry}
    (kept : ∀ e, (f e).uid = e.uid) (other : UInt32) :
    findToken (KeyedArray.replace TokenEntry.uid uid f tokens) other =
      if other = uid then (findToken tokens other).map f else findToken tokens other :=
  KeyedArray.find_replace (fun e same => (kept e).trans same) tokens other

/-- What a registration does: nothing, with a bad length or with no room, or it sets the token. -/
theorem register_spec {s : State} (sound : Sound s) (uid : UInt32) (token : Token)
    (bundleId : Option Config.Text) (now : Int) :
    (¬ validLength token ∧ registerToken s uid token bundleId now = s) ∨
    (validLength token ∧ ∃ tokens, registerToken s uid token bundleId now =
        { s with registered := s.registered ++ [(uid, token)], tokens := tokens } ∧
      Distinct TokenEntry.uid tokens ∧ tokens.length ≤ maxTokens ∧
      ((s.tokenMap uid = none ∧ maxTokens ≤ s.tokens.length ∧ tokens = s.tokens) ∨
        ((s.tokenMap uid ≠ none ∨ s.tokens.length < maxTokens) ∧ ∀ other,
          (findToken tokens other).map TokenEntry.token =
            Function.update s.tokenMap uid (some token) other))) := by
  unfold registerToken
  split
  next bad => exact .inl ⟨bad, rfl⟩
  next good =>
    refine .inr ⟨not_not.mp good, ?_⟩
    dsimp only
    split
    next e known =>
      have kept (e : TokenEntry) : (e.rebound token bundleId now).uid = e.uid := rfl
      refine ⟨_, rfl, replace_distinct sound.distinct kept, ?_, .inr ⟨.inl ?_, ?_⟩⟩
      next =>
        rw [KeyedArray.replace_length]
        exact sound.bounded
      next => simp [State.tokenMap, known]
      next =>
        intro other
        rw [replace_find kept]
        by_cases same : other = uid
        next =>
          subst same
          simp [known, TokenEntry.rebound]
        next => simp [same, State.tokenMap]
    next unknown =>
      split
      next full =>
        exact ⟨s.tokens, rfl, sound.distinct, sound.bounded,
          .inl ⟨by simp [State.tokenMap, unknown], full, rfl⟩⟩
      next room =>
        have free : s.tokens.length < maxTokens := by omega
        refine ⟨_, rfl, KeyedArray.append_distinct sound.distinct unknown, ?_, .inr ⟨.inr free, ?_⟩⟩
        next =>
          rw [List.length_append]
          exact free
        intro other
        let entry : TokenEntry :=
          ⟨uid, token, Config.bounded 128 (bundleId.getD []), now, now, true⟩
        have placed : KeyedArray.find TokenEntry.uid (s.tokens ++ [entry]) other =
            if other = entry.uid then some entry
            else KeyedArray.find TokenEntry.uid s.tokens other :=
          KeyedArray.find_append s.tokens entry other unknown
        unfold findToken
        rw [placed]
        by_cases same : other = uid <;> simp [entry, same, State.tokenMap, findToken]

theorem dormant_map (s : State) (uid : UInt32) (now : Int) :
    (markDormant s uid now).tokenMap = s.tokenMap := by
  funext other
  have kept (e : TokenEntry) : (e.dormant now).uid = e.uid := by
    unfold TokenEntry.dormant
    split <;> rfl
  have same (e : TokenEntry) : (e.dormant now).token = e.token := by
    unfold TokenEntry.dormant
    split <;> rfl
  simp only [State.tokenMap, markDormant, replace_find kept]
  split
  next => simp [Option.map_map, Function.comp_def, same]
  next => rfl

/-- What an eviction does: nothing, or it takes away the entry that has the token. -/
theorem evict_spec {s : State} (sound : Sound s) (uid : UInt32) (token : Token) :
    (s.tokenMap uid ≠ some token ∧ evictTokenIfMatch s uid token = s) ∨
    (s.tokenMap uid = some token ∧ ∃ tokens, evictTokenIfMatch s uid token =
        { s with tokens := tokens, dropped := s.dropped + 1 } ∧
      Distinct TokenEntry.uid tokens ∧ tokens.length ≤ maxTokens ∧
      ∀ other, (findToken tokens other).map TokenEntry.token =
        Function.update s.tokenMap uid none other) := by
  unfold evictTokenIfMatch
  split
  next missing =>
    have unknown : s.tokenMap uid = none := by
      simp only [State.tokenMap, Option.map_eq_none_iff]
      refine KeyedArray.find_none.mpr fun e member => ?_
      simpa using List.findIdx?_eq_none_iff.mp missing e member
    exact .inl ⟨by simp [unknown], rfl⟩
  next i found =>
    obtain ⟨bound, mine, -⟩ := List.findIdx?_eq_some_iff_getElem.mp found
    have uids : s.tokens[i].uid = uid := by simpa using mine
    have known : s.tokenMap uid = some s.tokens[i].token := by
      have := (KeyedArray.find_some sound.distinct).mpr ⟨List.getElem_mem bound, uids⟩
      simp [State.tokenMap, findToken, this]
    have here : s.tokens[i]?.map TokenEntry.token = s.tokenMap uid := by
      rw [known, List.getElem?_eq_getElem bound, Option.map_some]
    rw [here]
    split
    next held =>
      refine .inr ⟨held, _, rfl, KeyedArray.swapRemove_distinct sound.distinct bound, ?_, ?_⟩
      next =>
        have := KeyedArray.swapRemove_length bound
        have := sound.bounded
        omega
      next =>
        intro other
        unfold findToken
        rw [KeyedArray.find_swapRemove sound.distinct bound, uids]
        by_cases same : other = uid <;> simp [same, State.tokenMap, findToken]
    next other => exact .inl ⟨other, rfl⟩

theorem latest_append (registered : List (UInt32 × Token)) (uid other : UInt32) (token : Token) :
    ((registered ++ [(uid, token)]).filter fun r => r.1 = other).getLast? =
      if other = uid then some (uid, token)
      else (registered.filter fun r => r.1 = other).getLast? := by
  by_cases same : other = uid
  next => simp [same, List.filter_append]
  next => simp [same, List.filter_append, Ne.symm same]

theorem Sound.store {s : State} (sound : Sound s) {tokens : List TokenEntry}
    {registered : List (UInt32 × Token)} (distinct : Distinct TokenEntry.uid tokens)
    (bounded : tokens.length ≤ maxTokens)
    (latest : ∀ uid token, (findToken tokens uid).map TokenEntry.token = some token →
      (registered.filter fun r => r.1 = uid).getLast? = some (uid, token)) (dropped : Nat) :
    Sound { s with tokens := tokens, registered := registered, dropped := dropped } where
  distinct := distinct
  bounded := bounded
  latest := latest
  ring := sound.ring
  accepted := sound.accepted
  queued := sound.queued
  each := sound.each
  trying := sound.trying
  evicting := sound.evicting
  attempts := sound.attempts
  sent := sound.sent
  failed := sound.failed

theorem register_sound {s : State} (sound : Sound s) (uid : UInt32) (token : Token)
    (bundleId : Option Config.Text) (now : Int) : Sound (registerToken s uid token bundleId now) := by
  rcases register_spec sound uid token bundleId now with
    ⟨-, same⟩ | ⟨-, tokens, after, distinct, bounded, outcome⟩
  next => rwa [same]
  next =>
    rw [after]
    refine sound.store distinct bounded ?_ s.dropped
    intro other held there
    rw [latest_append]
    rcases outcome with ⟨unknown, -, rfl⟩ | ⟨-, map⟩
    next =>
      have apart : other ≠ uid := by
        rintro rfl
        rw [State.tokenMap] at unknown
        simp [unknown] at there
      rw [if_neg apart]
      exact sound.latest other held there
    next =>
      rw [map other] at there
      by_cases same : other = uid
      next =>
        subst same
        simpa using there
      next =>
        rw [if_neg same]
        exact sound.latest other held (by simpa [same] using there)

theorem dormant_sound {s : State} (sound : Sound s) (uid : UInt32) (now : Int) :
    Sound (markDormant s uid now) := by
  have kept (e : TokenEntry) : (e.dormant now).uid = e.uid := by
    unfold TokenEntry.dormant
    split <;> rfl
  refine sound.store (replace_distinct sound.distinct kept) ?_ ?_ s.dropped
  next =>
    rw [KeyedArray.replace_length]
    exact sound.bounded
  next =>
    intro other held there
    have map := congrFun (dormant_map s uid now) other
    exact sound.latest other held (map ▸ there)

theorem evict_sound {s : State} (sound : Sound s) (uid : UInt32) (token : Token) :
    Sound (evictTokenIfMatch s uid token) := by
  rcases evict_spec sound uid token with ⟨-, same⟩ | ⟨-, tokens, after, distinct, bounded, map⟩
  next => rwa [same]
  next =>
    rw [after]
    refine sound.store distinct bounded ?_ (s.dropped + 1)
    intro other held there
    rw [map other] at there
    by_cases same : other = uid
    next => simp [same] at there
    next => exact sound.latest other held (by simpa [same] using there)

theorem evict_frame (s : State) (uid : UInt32) (token : Token) :
    (evictTokenIfMatch s uid token).worker = s.worker ∧
      (evictTokenIfMatch s uid token).pushing = s.pushing := by
  unfold evictTokenIfMatch
  split
  next => exact ⟨rfl, rfl⟩
  next => split <;> exact ⟨rfl, rfl⟩

/-! ## The jobs -/

theorem pushNext_sound {s : State} (sound : Sound s) (p : Pushing) : Sound (pushNext s p) := by
  have pushing (q : Option Pushing) : Sound { s with pushing := q } := { sound with }
  unfold pushNext
  split
  next => exact pushing none
  next e rest left =>
    dsimp only
    split
    next => exact pushing _
    next =>
      split
      next => exact pushing _
      next ring pushed =>
        have ⟨valid, contents⟩ := CountedRing.push_valid sound.ring pushed
        refine { sound with ring := valid, accepted := ?_, queued := ?_ }
        next => rw [contents, ← List.append_assoc, ← sound.accepted]
        next =>
          intro job listed
          rcases List.mem_append.mp listed with before | now
          next => exact sound.queued job before
          next => exact List.mem_singleton.mp now ▸ rfl

theorem takeJob_sound {s : State} (sound : Sound s) (idle : s.worker = .idle) : Sound (takeJob s) := by
  have each := sound.each
  rw [idle] at each
  unfold takeJob
  split
  next => exact { sound with each := each, trying := by simp, evicting := by simp }
  next =>
    split
    next => exact sound
    next job ring popped =>
      have ⟨valid, contents⟩ := CountedRing.pop_valid sound.ring popped
      have accepted : s.accepted = s.taken ++ [job] ++ ring.contents apnsQueueSize := by
        rw [sound.accepted, contents, List.append_assoc, List.singleton_append]
      have queued : job.queued = job := sound.queued job (by simp [accepted])
      refine { sound with
        ring := valid
        accepted := accepted
        each := ?_
        trying := ?_
        evicting := by simp }
      next => simp [each, Worker.job, queued]
      next =>
        rintro job attempts same
        cases same
        exact ⟨Nat.zero_le 1, fun _ => rfl⟩

theorem finish_sound {s : State} (sound : Sound s) {job : PushJob} (mine : s.worker.job = some job)
    {attempts : Nat} (few : attempts ≤ 2) (sent : Bool) : Sound (finish s job attempts sent) := by
  have each := sound.each
  rw [mine] at each
  refine { sound with
    each := ?_
    trying := by simp [finish]
    evicting := by simp [finish]
    attempts := ?_
    sent := ?_
    failed := ?_ }
  next => simp [finish, each, Worker.job]
  next =>
    intro f listed
    rcases List.mem_append.mp listed with before | now
    next => exact sound.attempts f before
    next => exact List.mem_singleton.mp now ▸ few
  next => cases sent <;> simp [finish, sound.sent, List.countP_append]
  next => cases sent <;> simp [finish, sound.failed, List.countP_append]

theorem processJob_sound {s : State} (sound : Sound s) {job : PushJob} {attempts : Nat}
    (working : s.worker = .trying job attempts) (jwt : Bool) (reply : Nat) :
    Sound (processJob s job attempts jwt reply) := by
  obtain ⟨few, first⟩ := sound.trying job attempts working
  have each := sound.each
  rw [working] at each
  unfold processJob
  generalize doPushOnce s.cfg job jwt reply = posted
  dsimp only
  have again : (if posted.isSome then attempts + 1 else attempts) ≤ attempts + 1 := by
    split <;> omega
  generalize (if posted.isSome then attempts + 1 else attempts) = made at again
  have noted : Sound { s with replies := s.replies ++ (posted.map fun http => (job, http)).toList } :=
    { sound with evicting := by simp [working] }
  have mine : s.worker.job = some job := by simp [working, Worker.job]
  split
  next => exact finish_sound noted mine (by omega) true
  next =>
    split
    next dead =>
      obtain ⟨status, fresh⟩ := dead
      refine { noted with each := by simpa [Worker.job] using each, trying := by simp, evicting := ?_ }
      rintro other count http same
      cases same
      refine ⟨by omega, status, List.mem_append_right _ ?_⟩
      cases posted with
      | none => simp at status
      | some http => simp
    next =>
      split
      next retries =>
        have none := first retries.2
        refine { noted with
          each := by simpa [Worker.job, PushJob.queued] using each
          trying := ?_
          evicting := by simp }
        rintro other count same
        cases same
        exact ⟨by omega, by simp⟩
      next => exact finish_sound noted mine (by omega) false

theorem step_sound {s : State} (sound : Sound s) (i : Input) : Sound (step s i) := by
  cases i with
  | register uid token bundleId now =>
    simp only [step]
    split
    next => exact sound
    next => exact register_sound sound uid token bundleId now
  | markDormant uid now =>
    simp only [step]
    split
    next => exact sound
    next => exact dormant_sound sound uid now
  | pushAll talker groupId excludeUid =>
    simp only [step, pushAll]
    split
    next => exact sound
    next =>
      split
      next => exact { sound with }
      next => exact sound
  | pushNext =>
    simp only [step]
    split
    next => exact sound
    next p _ => exact pushNext_sound sound p
  | work jwt reply =>
    simp only [step]
    split
    next idle => exact takeJob_sound sound idle
    next job attempts working => exact processJob_sound sound working jwt reply
    next job attempts http dead =>
      split
      next => exact sound
      next =>
        have few := (sound.evicting job attempts http dead).1
        refine finish_sound (evict_sound sound job.uid job.token) ?_ few false
        simp [(evict_frame s job.uid job.token).1, dead, Worker.job]
    next => exact sound
  | stop => exact { sound with }

/-! ## What a step does to the map -/

theorem tokenMap_tokens {s t : State} (same : t.tokens = s.tokens) : t.tokenMap = s.tokenMap := by
  unfold State.tokenMap
  rw [same]

theorem register_map {s : State} (sound : Sound s) (uid : UInt32) (token : Token)
    (bundleId : Option Config.Text) (now : Int) :
    (registerToken s uid token bundleId now).tokenMap =
      if validLength token ∧ (s.tokenMap uid ≠ none ∨ s.tokens.length < maxTokens) then
        Function.update s.tokenMap uid (some token)
      else s.tokenMap := by
  rcases register_spec sound uid token bundleId now with
    ⟨bad, same⟩ | ⟨good, tokens, after, -, -, outcome⟩
  next => simp [same, bad]
  next =>
    rw [after]
    rcases outcome with ⟨unknown, full, rfl⟩ | ⟨room, map⟩
    next =>
      have none : ¬ s.tokens.length < maxTokens := by omega
      simp only [unknown, none, ne_eq, not_true_eq_false, or_self, and_false, if_false]
      rfl
    next =>
      rw [if_pos ⟨good, room⟩]
      exact funext map

theorem evict_map {s : State} (sound : Sound s) (uid : UInt32) (token : Token) :
    (evictTokenIfMatch s uid token).tokenMap =
      if s.tokenMap uid = some token then Function.update s.tokenMap uid none else s.tokenMap := by
  rcases evict_spec sound uid token with ⟨other, same⟩ | ⟨held, tokens, after, -, -, map⟩
  next => simp [same, other]
  next =>
    rw [after, if_pos held]
    exact funext map

theorem takeJob_tokens (s : State) : (takeJob s).tokens = s.tokens := by
  unfold takeJob
  split
  next => rfl
  next => split <;> rfl

theorem processJob_tokens (s : State) (job : PushJob) (attempts : Nat) (jwt : Bool) (reply : Nat) :
    (processJob s job attempts jwt reply).tokens = s.tokens := by
  simp only [processJob]
  split
  next => rfl
  next =>
    split
    next => rfl
    next => split <;> rfl

theorem pushNext_tokens (s : State) (p : Pushing) : (pushNext s p).tokens = s.tokens := by
  unfold pushNext
  split
  next => rfl
  next =>
    dsimp only
    split
    next => rfl
    next => split <;> rfl

theorem step_map {s : State} (sound : Sound s) (i : Input) :
    (step s i).tokenMap = (changes s i).foldl Change.apply s.tokenMap := by
  cases i with
  | register uid token bundleId now =>
    cases locked : s.pushing with
    | some p => simp [step, changes, locked]
    | none =>
      simp only [step, changes, locked, Option.isSome_none, Bool.false_eq_true, if_false, true_and,
        register_map sound]
      split <;> rfl
  | markDormant uid now =>
    simp only [step, changes, List.foldl_nil]
    split
    next => rfl
    next => exact dormant_map s uid now
  | pushAll talker groupId excludeUid =>
    refine tokenMap_tokens ?_
    simp only [step, pushAll]
    split
    next => rfl
    next => split <;> rfl
  | pushNext =>
    refine tokenMap_tokens ?_
    simp only [step]
    split
    next => rfl
    next p _ => exact pushNext_tokens s p
  | work jwt reply =>
    cases working : s.worker with
    | idle => simpa [step, changes, working] using tokenMap_tokens (takeJob_tokens s)
    | trying job attempts =>
      simpa [step, changes, working] using tokenMap_tokens (processJob_tokens s job attempts jwt reply)
    | ended => simp [step, changes, working]
    | evicting job attempts http =>
      cases locked : s.pushing with
      | some p => simp [step, changes, working, locked]
      | none =>
        have finished (t : State) : (finish t job attempts false).tokenMap = t.tokenMap :=
          tokenMap_tokens rfl
        simp only [step, changes, working, locked, Option.isSome_none, Bool.false_eq_true, if_false,
          true_and, finished, evict_map sound]
        split <;> rfl
  | stop => exact tokenMap_tokens rfl

theorem step_leaves {s : State} (sound : Sound s) {i : Input} {uid : UInt32} {token : Token}
    (held : s.tokenMap uid = some token) (gone : (step s i).tokenMap uid = none) :
    ∃ job http, (job, http) ∈ s.replies ∧ (http = 400 ∨ http = 410) ∧ job.uid = uid ∧
      job.token = token := by
  rw [step_map sound] at gone
  cases i with
  | register other new bundleId now =>
    simp only [changes] at gone
    split at gone
    next =>
      by_cases same : uid = other <;> simp [Change.apply, same] at gone
      simp [held] at gone
    next => simp [held] at gone
  | work jwt reply =>
    simp only [changes] at gone
    split at gone
    next job attempts http dead =>
      split at gone
      next matched =>
        have ⟨_, status, replied⟩ := sound.evicting job attempts http dead
        by_cases same : uid = job.uid
        next =>
          subst same
          exact ⟨job, http, replied, status, rfl,
            Option.some.inj (matched.2.symm.trans held)⟩
        next => simp [Change.apply, same, held] at gone
      next => simp [held] at gone
    next => simp [held] at gone
  | markDormant | pushAll | pushNext | stop => simp [changes, held] at gone

theorem create_sound (cfg : ApnsConfig) : Sound (create cfg) where
  distinct := List.nodup_nil
  bounded := Nat.zero_le _
  latest := by simp [create, State.tokenMap, findToken, KeyedArray.find]
  ring := CountedRing.empty_valid (by decide)
  accepted := rfl
  queued := by simp [create]
  each := rfl
  trying := by simp [create]
  evicting := by simp [create]
  attempts := by simp [create]
  sent := rfl
  failed := rfl

/-- In every run the store is a map of the tokens that were registered last, changed by accepted
registrations and by dead tokens only, and the worker does the accepted jobs in order, each once. -/
theorem store_refines_map (cfg : ApnsConfig) (inputs : List Input) :
    Machine.Guarded step (fun s i => Represents (step s i) ∧ Moves s i) (create cfg) inputs := by
  have keeps (s : State) (i : Input) (sound : Sound s) (_ : True) :
      Sound (step s i) ∧ Represents (step s i) ∧ Moves s i := by
    have after := step_sound sound i
    exact ⟨after, after.represents, step_map sound i, fun _ _ => step_leaves sound⟩
  exact Machine.guarded_of_invariant step keeps (create_sound cfg)
    (Machine.guarded_of_forall step (fun _ _ _ => trivial) _)

end Kerchunk.Push
