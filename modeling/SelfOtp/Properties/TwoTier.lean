import SelfOtp.Properties.LostUpdate

/-! `storeOtp` and `verifyOtp` calls that do not overlap, on one process, whatever Redis does. -/
namespace SelfOtp

/-- What the latest `storeOtp` call stored, as long as no code has been accepted since. -/
def unusedStored : List JournalEntry → Option StoredOtp
  | [] => none
  | .stored data :: _ => some data
  | .accepted _ :: _ => none
  | .refused _ :: journal => unusedStored journal

/-- Every accepted code was that of the latest `storeOtp` call, and the first accepted since. -/
def LatestOnce (env : Env) : List JournalEntry → Prop
  | [] => True
  | .stored _ :: journal => LatestOnce env journal
  | .accepted code :: journal =>
    (∃ data ∈ unusedStored journal, verifyOtpCode env code data.otpHash = true) ∧
      LatestOnce env journal
  | .refused _ :: journal => LatestOnce env journal

instance decidableLatestOnce (env : Env) : DecidablePred (LatestOnce env)
  | [] => isTrue trivial
  | .stored _ :: journal | .refused _ :: journal => decidableLatestOnce env journal
  | .accepted _ :: journal =>
    have := decidableLatestOnce env journal
    inferInstanceAs (Decidable (_ ∧ _))

def OtpCall.process : OtpCall → ℕ
  | store c => c.process
  | verify c => c.process

/-- 1 for a call that has not returned. -/
def OtpCall.pending (t : OtpCall) : ℕ := if t.isOver then 0 else 1

theorem OtpCall.pending_of_active {t : OtpCall} (active : t.isOver = false) : t.pending = 1 := by
  simp [pending, active]

theorem OtpCall.isOver_of_pending {t : OtpCall} (returned : t.pending = 0) : t.isOver = true := by
  by_contra going
  simp [pending, going] at returned

namespace OtpPool

open Pool Transition

variable {env : Env} {key : OtpKey} {process : ℕ} {p q : OtpPool} {l : OtpLabel}

/-- The live in-memory entry of the key in a process. -/
def memoryEntry (key : OtpKey) (process : ℕ) (p : OtpPool) : Option StoredOtp :=
  ((p.shared.world.memory process).otp key).bind fun object =>
    let data := (p.shared.world.memory process).heap object
    if seconds p.shared.world.now ≤ data.expiresAt then some data.otp else none

/-- Calls on one process start when no other is in flight, with a `ttl_seconds` that the send
schema admits. -/
def Sequential (process : ℕ) (p : OtpPool) : OtpLabel → Prop
  | .resume .. | .external (.tick _) => True
  | .external (.store _ _ ttlSeconds caller) =>
    (∀ t ∈ p.threads, t.isOver = true) ∧ caller = process ∧ 60 ≤ ttlSeconds ∧ ttlSeconds ≤ 3600
  | .external (.verify _ _ _ _ caller) => (∀ t ∈ p.threads, t.isOver = true) ∧ caller = process

instance : DecidablePred (Sequential process p)
  | .resume .. | .external (.tick _) => isTrue trivial
  | .external (.store ..) | .external (.verify ..) => inferInstanceAs (Decidable (_ ∧ _))

/-- `storeOtp` leaves no live entry behind in the tier it does not write to, and the deletion
after a right code leaves none in Redis. -/
def LeavesOne (env : Env) (key : OtpKey) (process : ℕ) (p : OtpPool) (ok : Bool) : OtpCall → Prop
  | .store c => if ok = true ∧ 0 < c.ttlSeconds ∧ c.ttlSeconds.den = 1 then
      p.memoryEntry key process = none else p.entry key = none
  | .verify c => (c.phase env).undeleted = true → ok = true ∨ p.entry key = none

instance (ok : Bool) : DecidablePred (LeavesOne env key process p ok)
  | .store _ => inferInstanceAs (Decidable (ite _ _ _))
  | .verify _ => inferInstanceAs (Decidable (_ → _ ∨ _))

def TiersAgree (env : Env) (key : OtpKey) (process : ℕ) (p : OtpPool) : OtpLabel → Prop
  | .resume i ok => ∀ t ∈ p.threads[i]?, LeavesOne env key process p ok t
  | .external _ => True

instance : DecidablePred (TiersAgree env key process p)
  | .resume i ok => inferInstanceAs (Decidable (∀ t ∈ p.threads[i]?, LeavesOne env key process p ok t))
  | .external _ => isTrue trivial

/-- How many calls have not returned. -/
def running (p : OtpPool) : ℕ := total OtpCall.pending p.threads

/-- The record and the object it may come from carry the code that is yet unused. -/
def Held (process : ℕ) (s : OtpState) (f : Fetched) : Prop :=
  ∃ unused ∈ unusedStored s.journal, f.data.otpHash = unused.otpHash ∧
    ∀ object ∈ f.object, ((s.world.memory process).heap object).otp.otpHash = unused.otpHash

/-- A live entry of either tier is the unused one. -/
def TiersUnused (key : OtpKey) (process : ℕ) (p : OtpPool) : Prop :=
  (∀ data ∈ p.entry key, ∃ unused ∈ unusedStored p.shared.journal,
    data.otpHash = unused.otpHash) ∧
  ∀ data ∈ p.memoryEntry key process, ∃ unused ∈ unusedStored p.shared.journal,
    data.otpHash = unused.otpHash

structure TierInvariant (env : Env) (key : OtpKey) (process : ℕ) (p : OtpPool) : Prop where
  callers : ∀ t ∈ p.threads, t.process = process
  calls : ∀ c, .verify c ∈ p.threads → c.key env = key ∧ (c.phase env).Sound env c.isValid ∧
    ∀ f ∈ (c.phase env).fetched, Held process p.shared f
  one : p.running ≤ 1
  tiers : p.inPhase env Phase.undeleted = 0 → TiersUnused key process p
  once : LatestOnce env p.shared.journal

theorem Fresh.tierInvariant (fresh : Fresh key p) : TierInvariant env key process p := by
  obtain ⟨idle, journal, redis, memory⟩ := fresh
  refine ⟨by simp [idle], by simp [idle], by simp [running, idle], fun _ => ⟨?_, ?_⟩, ?_⟩
  · have absent : p.entry key = none := by simp [entry, ExpiringMap.get, redis]
    simp [absent]
  · have absent : p.memoryEntry key process = none := by simp [memoryEntry, memory]
    simp [absent]
  · rw [journal]
    trivial

/-- A call that has returned holds nothing and has nothing to delete. -/
theorem phase_of_isOver {pc : VerifyPc} (returned : pc.isOver = true) :
    (pc.phase env).fetched = none ∧ (pc.phase env).undeleted = false := by
  cases pc with
  | verified | rejected | internalError => exact ⟨rfl, rfl⟩
  | lookup | findRecord | incorrectAttempts | incorrectVerification | maxStatus | maxBlock
  | maxDelete | ttl | writeBack | delete | verifiedStatus | correctVerification => cases returned

theorem undeleted_le_pending (t : OtpCall) :
    OtpCall.count (fun c => (c.phase env).undeleted) t ≤ t.pending := by
  cases t with
  | store c => exact Nat.zero_le _
  | verify c =>
    by_cases returned : c.pc.isOver = true
    · have quiet : (c.phase env).undeleted = false := (phase_of_isOver returned).2
      simp [quiet]
    · have active : (OtpCall.verify c).isOver = false := Bool.eq_false_iff.mpr returned
      rw [OtpCall.pending_of_active active, OtpCall.count_verify]
      split <;> omega

/-- Next to a running call that is not deleting, no call is. -/
theorem TierInvariant.none_undeleted {i : ℕ} {t : OtpCall} (inv : TierInvariant env key process p)
    (found : p.threads[i]? = some t) (active : t.isOver = false)
    (quiet : OtpCall.count (fun c => (c.phase env).undeleted) t = 0) :
    p.inPhase env Phase.undeleted = 0 := by
  have fewer : p.inPhase env Phase.undeleted < p.running := by
    refine total_lt_total (fun u _ => undeleted_le_pending u) ⟨t, List.mem_of_getElem? found, ?_⟩
    rw [quiet, OtpCall.pending_of_active active]
    exact Nat.one_pos
  have one := inv.one
  omega

/-- What a step of the running call has to establish; every other call has returned. -/
theorem TierInvariant.moved {i : ℕ} {t t' : OtpCall} {s : OtpState}
    (inv : TierInvariant env key process p) (found : p.threads[i]? = some t)
    (active : t.isOver = false) (caller : t'.process = process)
    (call : ∀ c, t' = .verify c → c.key env = key ∧ (c.phase env).Sound env c.isValid ∧
      ∀ f ∈ (c.phase env).fetched, Held process s f)
    (tiers : OtpCall.count (fun c => (c.phase env).undeleted) t' = 0 →
      TiersUnused key process ⟨s, p.threads.set i t'⟩)
    (once : LatestOnce env s.journal) :
    TierInvariant env key process ⟨s, p.threads.set i t'⟩ := by
  have one := inv.one
  have weight := OtpCall.pending_of_active active
  have inside : i < p.threads.length := (List.getElem?_eq_some_iff.mp found).1
  refine ⟨fun u member => ?_, fun c member => ?_, ?_, fun none_left => tiers ?_, once⟩
  · rcases List.mem_or_eq_of_mem_set member with old | rfl
    · exact inv.callers u old
    · exact caller
  · rcases mem_set_cases member with same | ⟨j, ne, other⟩
    · exact call c same.symm
    · -- another call: it has returned, so it holds nothing
      have both := add_le_total (m := OtpCall.pending) found other ne
      unfold running at one
      have returned : c.pc.isOver = true := OtpCall.isOver_of_pending (t := .verify c) (by omega)
      obtain ⟨of_key, sound, -⟩ := inv.calls c (List.mem_of_getElem? other)
      refine ⟨of_key, sound, fun f held => ?_⟩
      have nothing : (c.phase env).fetched = none := (phase_of_isOver returned).1
      rw [nothing] at held
      cases held
  · have count := total_set (m := OtpCall.pending) found t'
    have light : t'.pending ≤ 1 := by
      unfold OtpCall.pending
      split <;> omega
    unfold running at one ⊢
    dsimp only
    omega
  · have mine : t' ∈ p.threads.set i t' :=
      List.mem_of_getElem? (by rw [List.getElem?_set_self inside])
    exact total_eq_zero.mp none_left t' mine

theorem TierInvariant.store {i : ℕ} {ok : Bool} {c : StoreCall}
    (inv : TierInvariant env key process p) (found : p.threads[i]? = some (.store c))
    (unfinished : c.finished = false) (leaves : LeavesOne env key process p ok (.store c)) :
    TierInvariant env key process
      ⟨⟨storeOtp p.shared.world c.process key (storedOtp env c.otpCode c.requestId) c.ttlSeconds
          ok, .stored (storedOtp env c.otpCode c.requestId) :: p.shared.journal⟩,
        p.threads.set i (.store { c with finished := true })⟩ := by
  have caller : c.process = process := inv.callers _ (List.mem_of_getElem? found)
  refine inv.moved found unfinished caller (fun d same => by cases same) (fun _ => ?_) inv.once
  dsimp only [LeavesOne] at leaves
  split at leaves
  next works =>
    -- the new record is in Redis, and memory holds no live one
    rw [storeOtp_set works.1 works.2.1 works.2.2]
    refine ⟨fun data stored => ⟨_, rfl, ?_⟩, fun data stored => ?_⟩
    · simp only [entry, World.mapRedis_redis, World.mapRedis_now, ExpiringMap.get_put_self,
        Option.mem_def] at stored
      split at stored
      · cases stored
        rfl
      · cases stored
    · have nothing : p.memoryEntry key process = some data := stored
      rw [leaves] at nothing
      cases nothing
  next fails =>
    -- the new record is in memory, and Redis holds no live one
    rw [storeOtp_fallback fails, caller]
    refine ⟨fun data stored => ?_, fun data stored => ⟨_, rfl, ?_⟩⟩
    · have nothing : p.entry key = some data := stored
      rw [leaves] at nothing
      cases nothing
    · simp only [memoryEntry, World.mapMemory_memory, if_pos, Memory.setOtp,
        Function.update_self, Option.bind_some, Option.mem_def] at stored
      split at stored
      · cases stored
        rfl
      · cases stored

theorem isOver_of_step {c c' : VerifyCall} {w w' : World} {ok : Bool}
    (stepped : c.step env w ok = some (w', c')) : (OtpCall.verify c).isOver = false := by
  unfold VerifyCall.step at stepped
  cases pc : c.pc with
  | verified | rejected | internalError => simp [pc] at stepped
  | lookup | findRecord | incorrectAttempts | incorrectVerification | maxStatus | maxBlock
  | maxDelete | ttl | writeBack | delete | verifiedStatus | correctVerification =>
    simp [OtpCall.isOver, pc, VerifyPc.isOver]

/-- A verification leaves no in-memory entry that was not there before. -/
theorem memoryEntry_shrinks {w' : World} {journal : List JournalEntry} {threads : List OtpCall}
    (shrinks : VerifyCall.MemoryShrinks (p.shared.world.memory process) (w'.memory process))
    (now : w'.now = p.shared.world.now) {data : StoredOtp}
    (found : data ∈ memoryEntry key process ⟨⟨w', journal⟩, threads⟩) :
    ∃ before ∈ p.memoryEntry key process, data.otpHash = before.otpHash := by
  simp only [memoryEntry, Option.mem_def, Option.bind_eq_some_iff, Option.ite_none_right_eq_some,
    Option.some.injEq, now] at found ⊢
  obtain ⟨object, stored, live, rfl⟩ := found
  rcases shrinks.otp key with kept | dropped
  · rw [kept] at stored
    rw [shrinks.expiresAt] at live
    exact ⟨_, ⟨object, stored, live, rfl⟩, shrinks.otpHash object⟩
  · rw [dropped] at stored
    cases stored

theorem deleteEntry_memory_self {c : VerifyCall} {w : World} {ok : Bool} :
    ((c.deleteEntry env w ok).memory c.process).otp (c.key env) = none := by
  simp [VerifyCall.deleteEntry]

/-- A right code also empties the in-memory entry. -/
theorem consumed_memory {c c' : VerifyCall} {w w' : World} {ok : Bool}
    (stepped : c.step env w ok = some (w', c')) (deletes : (c.phase env).undeleted = true) :
    (w'.memory c.process).otp (c.key env) = none := by
  unfold VerifyCall.phase at deletes
  cases pc : c.pc with
  | delete f record =>
    simp only [VerifyCall.step, pc] at stepped
    cases record <;> cases stepped <;> exact deleteEntry_memory_self
  | incorrectAttempts | incorrectVerification =>
    rw [pc, VerifyPc.phase, VerifyPc.afterWrong_undeleted] at deletes
    cases deletes
  | lookup | findRecord | maxStatus | maxBlock | maxDelete | ttl | writeBack | verifiedStatus
  | correctVerification | verified | rejected | internalError =>
    rw [pc] at deletes
    cases deletes

section Verify

variable {i : ℕ} {ok : Bool} {c c' : VerifyCall} {w' : World} {f : Fetched}

/-- A step may count an attempt in an object, but leaves its hash. -/
theorem Held.step (held : Held process p.shared f)
    (stepped : c.step env p.shared.world ok = some (w', c')) : Held process ⟨w', p.shared.journal⟩ f := by
  obtain ⟨unused, stored, hash, objects⟩ := held
  refine ⟨unused, stored, hash, fun object refers => ?_⟩
  rw [(VerifyCall.step_memory stepped process).otpHash]
  exact objects object refers

/-- What a call writes back has the hash that it read. -/
theorem Held.storedData (held : Held process p.shared f) (caller : c.process = process) :
    ∃ unused ∈ unusedStored p.shared.journal,
      (c.storedData p.shared.world f).otpHash = unused.otpHash := by
  obtain ⟨unused, latest, hash, objects⟩ := held
  refine ⟨unused, latest, ?_⟩
  unfold VerifyCall.storedData
  split
  · exact hash
  next object refers =>
    rw [caller]
    exact objects object refers

/-- A step takes no time. -/
theorem entry_unmoved (key : OtpKey) (stepped : c.step env p.shared.world ok = some (w', c')) :
    p.shared.world.redis.otp.get w'.now key = p.entry key := by
  rw [(VerifyCall.step_move stepped).2.2]
  rfl

/-- While the call that moves has nothing to delete, both tiers hold unused codes only. -/
theorem TierInvariant.settled (inv : TierInvariant env key process p)
    (found : p.threads[i]? = some (.verify c)) (stepped : c.step env p.shared.world ok = some (w', c'))
    (quiet : (c.phase env).undeleted = false) : TiersUnused key process p :=
  inv.tiers (inv.none_undeleted found (isOver_of_step stepped) (by simp [quiet]))

/-- The memory of a step that had nothing to delete, or that has emptied it. -/
theorem TierInvariant.memory_unused (inv : TierInvariant env key process p)
    (found : p.threads[i]? = some (.verify c)) (stepped : c.step env p.shared.world ok = some (w', c'))
    (memory : (c.phase env).undeleted = false ∨ (w'.memory process).otp key = none)
    {journal : List JournalEntry} {threads : List OtpCall} :
    ∀ data ∈ memoryEntry key process ⟨⟨w', journal⟩, threads⟩,
      ∃ unused ∈ unusedStored p.shared.journal, data.otpHash = unused.otpHash := by
  intro data stored
  rcases memory with quiet | dropped
  · obtain ⟨old, present, hash⟩ := memoryEntry_shrinks (VerifyCall.step_memory stepped process)
      (VerifyCall.step_move stepped).2.2 stored
    rw [hash]
    exact (inv.settled found stepped quiet).2 old present
  · simp [memoryEntry, dropped] at stored

/-- What a step of a verification has to establish, for the journal that it leaves. -/
theorem TierInvariant.verified (inv : TierInvariant env key process p)
    (found : p.threads[i]? = some (.verify c)) (stepped : c.step env p.shared.world ok = some (w', c'))
    {journal : List JournalEntry}
    (held : ∀ f ∈ (c'.phase env).fetched, Held process ⟨w', journal⟩ f)
    (tiers : (c'.phase env).undeleted = false →
      TiersUnused key process ⟨⟨w', journal⟩, p.threads.set i (.verify c')⟩)
    (once : LatestOnce env journal) :
    TierInvariant env key process ⟨⟨w', journal⟩, p.threads.set i (.verify c')⟩ := by
  have member := List.mem_of_getElem? found
  obtain ⟨of_key, sound, -⟩ := inv.calls c member
  obtain ⟨move, same, -⟩ := VerifyCall.step_move stepped
  refine inv.moved found (isOver_of_step stepped) (same.process.trans (inv.callers _ member))
    (fun d is_c' => ?_) (fun undeleted => tiers (by simpa using undeleted)) once
  cases is_c'
  exact ⟨same.key.trans of_key, move.sound sound, held⟩

/-- A step without a comparison, by the record that it holds and what it leaves in the tiers. -/
theorem TierInvariant.uncompared (inv : TierInvariant env key process p)
    (found : p.threads[i]? = some (.verify c)) (stepped : c.step env p.shared.world ok = some (w', c'))
    (unchanged : c'.isValid = c.isValid)
    (held : ∀ f ∈ (c'.phase env).fetched, Held process ⟨w', p.shared.journal⟩ f)
    (redis : (c'.phase env).undeleted = false → ∀ data ∈ w'.redis.otp.get w'.now key,
      ∃ unused ∈ unusedStored p.shared.journal, data.otpHash = unused.otpHash)
    (memory : (c'.phase env).undeleted = false →
      (c.phase env).undeleted = false ∨ (w'.memory process).otp key = none) :
    TierInvariant env key process ⟨⟨w', OtpCall.recorded c c' p.shared.journal⟩,
      p.threads.set i (.verify c')⟩ := by
  rw [recorded_same unchanged]
  exact inv.verified found stepped held
    (fun settles => ⟨redis settles, inv.memory_unused found stepped (memory settles)⟩) inv.once

/-- The right code was the unused one, and its deletion is outstanding. -/
theorem TierInvariant.accepted (inv : TierInvariant env key process p)
    (found : p.threads[i]? = some (.verify c)) (stepped : c.step env p.shared.world ok = some (w', c'))
    (before : c.phase env = .holding f) (after : c'.phase env = .consuming f)
    (valid : c'.isValid = some true)
    (right : verifyOtpCode env c.submittedCode f.data.otpHash = true) :
    TierInvariant env key process ⟨⟨w', OtpCall.recorded c c' p.shared.journal⟩,
      p.threads.set i (.verify c')⟩ := by
  obtain ⟨-, sound, held⟩ := inv.calls c (List.mem_of_getElem? found)
  rw [before] at sound held
  obtain ⟨unused, latest, hash, -⟩ := held f rfl
  rw [recorded_accepted sound.1 valid]
  refine inv.verified found stepped (fun g held => ?_) (fun settles => ?_)
    ⟨⟨unused, latest, hash ▸ right⟩, inv.once⟩
  · rw [after] at held
    cases held
  · rw [after] at settles
    cases settles

/-- A wrong code uses nothing up. -/
theorem TierInvariant.refused (inv : TierInvariant env key process p)
    (found : p.threads[i]? = some (.verify c)) (stepped : c.step env p.shared.world ok = some (w', c'))
    (before : c.phase env = .holding f)
    (after : c'.phase env = VerifyPc.afterWrong env (VerifyCall.counted f))
    (valid : c'.isValid = some false) (redis : w'.redis.otp = p.shared.world.redis.otp) :
    TierInvariant env key process ⟨⟨w', OtpCall.recorded c c' p.shared.journal⟩,
      p.threads.set i (.verify c')⟩ := by
  obtain ⟨-, sound, held⟩ := inv.calls c (List.mem_of_getElem? found)
  have quiet : (c.phase env).undeleted = false := by
    rw [before]
    rfl
  rw [before] at sound held
  rw [recorded_refused sound.1 valid]
  refine inv.verified found stepped (fun g counting => ?_) (fun _ => ⟨fun data stored => ?_, ?_⟩) inv.once
  · rw [after, VerifyPc.afterWrong] at counting
    split at counting
    · cases counting
    · cases counting
      -- counting the attempt changes neither the hash nor the object
      exact (held f rfl).step stepped
  · have present : data ∈ w'.redis.otp.get w'.now key := stored
    rw [redis, entry_unmoved key stepped] at present
    exact (inv.settled found stepped quiet).1 data present
  · exact inv.memory_unused found stepped (Or.inl quiet)

theorem TierInvariant.verify (inv : TierInvariant env key process p)
    (found : p.threads[i]? = some (.verify c)) (leaves : LeavesOne env key process p ok (.verify c))
    (stepped : c.step env p.shared.world ok = some (w', c')) :
    TierInvariant env key process ⟨⟨w', OtpCall.recorded c c' p.shared.journal⟩,
      p.threads.set i (.verify c')⟩ := by
  have member := List.mem_of_getElem? found
  have caller : c.process = process := inv.callers _ member
  obtain ⟨of_key, -, held⟩ := inv.calls c member
  have settled := inv.settled found stepped
  have unmoved := entry_unmoved key stepped
  have emptied := consumed_memory stepped
  have uncompared := inv.uncompared found stepped
  have accepted := fun f => inv.accepted (f := f) found stepped
  have refused := fun f => inv.refused (f := f) found stepped
  have move := (VerifyCall.step_move stepped).1
  generalize before : c.phase env = ph at *
  generalize after : c'.phase env = ph' at *
  generalize valid : c'.isValid = v at *
  generalize store : w'.redis.otp = otp at *
  cases move with
  | fetch f object up stored next =>
    rw [of_key] at stored
    obtain ⟨unused, latest, hash⟩ := (settled rfl).1 _ stored
    refine uncompared rfl (fun g held => ?_) (fun _ => unmoved ▸ (settled rfl).1) fun _ => Or.inl rfl
    obtain rfl : f = g := Option.some.inj held
    exact ⟨unused, latest, hash, by simp [object]⟩
  | fetchMemory f object ref missed stored live data next =>
    rw [of_key, caller] at stored
    rw [caller] at live data
    have present : f.data ∈ p.memoryEntry key process := by simp [memoryEntry, stored, live, data]
    obtain ⟨unused, latest, hash⟩ := (settled rfl).2 _ present
    refine uncompared rfl (fun g held => ?_) (fun _ => unmoved ▸ (settled rfl).1) fun _ => Or.inl rfl
    obtain rfl : f = g := Option.some.inj held
    refine ⟨unused, latest, hash, fun other refers => ?_⟩
    rw [ref] at refers
    cases refers
    rw [(VerifyCall.step_memory stepped process).otpHash, ← data]
    exact hash
  | stay =>
    exact uncompared rfl (fun f h => (held f h).step stepped)
      (fun settles => unmoved ▸ (settled settles).1) Or.inl
  | time f up live =>
    exact uncompared rfl (fun g h => (held g h).step stepped)
      (fun _ => unmoved ▸ (settled rfl).1) fun _ => Or.inl rfl
  | miss | lapse | unwritten =>
    exact uncompared rfl (by simp [Phase.fetched]) (fun _ => unmoved ▸ (settled rfl).1)
      fun _ => Or.inl rfl
  | crash _ down database =>
    have untouched : ph.undeleted = false := by
      by_contra deletes
      rw [← before, Bool.not_eq_false] at deletes
      rw [VerifyPc.undeleted_awaitsRedis deletes] at database
      cases database
    exact uncompared rfl (by simp [Phase.fetched]) (fun _ => unmoved ▸ (settled untouched).1)
      fun _ => Or.inl untouched
  | accept f at_compare up right => exact accepted f rfl rfl rfl right
  | wrong f at_compare up wrong => exact refused f rfl rfl rfl rfl
  | write f ttl at_write up otp set =>
    obtain ⟨unused, latest, written⟩ := (held f rfl).storedData caller
    refine uncompared rfl (by simp [Phase.fetched]) (fun _ data stored => ⟨unused, latest, ?_⟩)
      fun _ => Or.inl rfl
    obtain ⟨-, -, rfl⟩ := ExpiringMap.setEx_eq_some set
    rw [of_key, ExpiringMap.get_put_self] at stored
    split at stored
    · cases stored
      exact written
    · cases stored
  | discard f redis =>
    refine uncompared rfl (by simp [Phase.fetched]) (fun _ data stored => ?_) fun _ => Or.inl rfl
    rw [of_key] at stored
    split at stored
    · rw [ExpiringMap.get_del_self] at stored
      cases stored
    · rw [unmoved] at stored
      exact (settled rfl).1 data stored
  | consume f redis =>
    refine uncompared rfl (by simp [Phase.fetched]) (fun _ data stored => ?_) fun _ => Or.inr ?_
    · -- the deletion worked, or there was nothing to delete
      rw [of_key] at stored
      rcases leaves (by rw [before]; rfl) with up | absent
      · rw [if_pos up, ExpiringMap.get_del_self] at stored
        cases stored
      · split at stored
        · rw [ExpiringMap.get_del_self] at stored
          cases stored
        · rw [unmoved, absent] at stored
          cases stored
    · rw [← of_key, ← caller]
      exact emptied rfl

end Verify

/-- A call starts when all others have returned. -/
theorem TierInvariant.started {t : OtpCall} (inv : TierInvariant env key process p)
    (idle : ∀ u ∈ p.threads, u.isOver = true) (caller : t.process = process)
    (call : ∀ c, t = .verify c → c.key env = key ∧ (c.phase env).Sound env c.isValid ∧
      (c.phase env).fetched = none) :
    TierInvariant env key process ⟨p.shared, p.threads ++ [t]⟩ := by
  refine ⟨fun u member => ?_, fun c member => ?_, ?_, fun settled => ?_, inv.once⟩
  · rcases List.mem_append.mp member with old | new
    · exact inv.callers u old
    · rw [List.mem_singleton.mp new]
      exact caller
  · rcases List.mem_append.mp member with old | new
    · exact inv.calls c old
    · obtain ⟨of_key, sound, nothing⟩ := call c (List.mem_singleton.mp new).symm
      exact ⟨of_key, sound, by simp [nothing]⟩
  · have none_running : total OtpCall.pending p.threads = 0 := by
      rw [total_eq_zero]
      intro u member
      simp [OtpCall.pending, idle u member]
    have light : t.pending ≤ 1 := by
      unfold OtpCall.pending
      split <;> omega
    simp only [running, total_append, total_cons, total_nil]
    omega
  · apply inv.tiers
    have sum : total (OtpCall.count fun c => (c.phase env).undeleted) (p.threads ++ [t]) = 0 :=
      settled
    rw [total_append] at sum
    unfold inPhase
    omega

theorem TierInvariant.step (inv : TierInvariant env key process p)
    (sequential : Sequential process p l) (agree : TiersAgree env key process p l)
    (taken : step (otpProgram env key) p l = some q) : TierInvariant env key process q := by
  cases step_took taken with
  | tick d =>
    refine ⟨inv.callers, inv.calls, inv.one, fun settled => ⟨fun data stored => ?_,
      fun data stored => ?_⟩, inv.once⟩
    · exact (inv.tiers settled).1 data (ExpiringMap.get_later stored (Nat.le_add_right _ d))
    · refine (inv.tiers settled).2 data ?_
      simp only [memoryEntry, Option.mem_def, Option.bind_eq_some_iff,
        Option.ite_none_right_eq_some] at stored ⊢
      obtain ⟨object, refers, live, is_data⟩ := stored
      refine ⟨object, refers, ?_, is_data⟩
      exact (seconds_mono (Nat.le_add_right _ d)).trans live
  | startStore otpCode requestId ttlSeconds caller =>
    exact inv.started sequential.1 sequential.2.1 fun c same => by cases same
  | startVerify phoneNumber submittedCode ipAddress userAgent caller c of_key idle unknown of_caller =>
    refine inv.started sequential.1 (of_caller.trans sequential.2) fun d same => ?_
    cases same
    rw [idle]
    exact ⟨of_key, unknown, rfl⟩
  | store i ok c found unfinished => exact inv.store found unfinished (agree _ found)
  | verify i ok c c' w' found stepped => exact inv.verify found (agree _ found) stepped

/-- Only the latest code is accepted, and once, in a run whose two tiers agree. -/
theorem latestOnce_of_tiersAgree (process : ℕ) {labels : List OtpLabel} (fresh : Fresh key p)
    (respects : Respects (Pool.step (otpProgram env key))
      (fun s l => Sequential process s l ∧ TiersAgree env key process s l) p labels)
    (returned : run (Pool.step (otpProgram env key)) p labels = some q) :
    LatestOnce env q.shared.journal := by
  have inv := run_invariant_of_respects (TierInvariant env key process)
    (fun s l t inv allowed taken => inv.step allowed.1 allowed.2 taken)
    fresh.tierInvariant respects returned
  exact inv.once

/-- Redis fails for the second `storeOtp`, after the first record has expired. -/
theorem latestOnce_of_fallback :
    ∃ q, run (Pool.step (otpProgram sampleEnv sampleKey)) freshPool
      [sampleStore "123456" "req_1", .resume 0 true, .external (.tick 300001),
        sampleStore "654321" "req_2", .resume 1 false,
        sampleVerify "654321", .resume 2 false, .resume 2 true, .resume 2 false] = some q ∧
      LatestOnce sampleEnv q.shared.journal :=
  ⟨_, (Option.some_get (by decide +kernel)).symm,
    latestOnce_of_tiersAgree 0 freshPool_fresh (by decide +kernel)
      (Option.some_get (by decide +kernel)).symm⟩

/-- The second `storeOtp` asks for a fraction of a second, which Redis rejects: its code goes to
memory, and the code it replaces is accepted. -/
theorem superseded_code_accepted :
    ¬∀ (env : Env) (key : OtpKey) (process : ℕ) (p q : OtpPool) (labels : List OtpLabel),
      Fresh key p → Respects (Pool.step (otpProgram env key)) (Sequential process) p labels →
      run (Pool.step (otpProgram env key)) p labels = some q → LatestOnce env q.shared.journal := by
  intro safe
  have latest := safe sampleEnv sampleKey 0 freshPool _
    [sampleStore "123456" "req_1", .resume 0 true,
      .external (.store "654321" "req_2" (121 / 2) 0), .resume 1 true,
      sampleVerify "123456", .resume 2 true, .resume 2 true]
    freshPool_fresh (by decide +kernel) (Option.some_get (by decide +kernel)).symm
  revert latest
  decide +kernel

end OtpPool

end SelfOtp
