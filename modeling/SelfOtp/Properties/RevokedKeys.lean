import SelfOtp.Properties.OtpPool
import SelfOtp.Properties.Tenants

/-! Revoked API keys: what a step does to the keys, and that a request that comes in after a
revocation was answered is not let through with the key. -/
namespace SelfOtp

open Pool Transition

/-! ### What a step does to the keys -/

/-- The hash of the key that a thread is about to create. -/
def Thread.draws (env : Env) : Thread → Option String
  | dashboard c =>
    match c.pc, c.request with
    | .handle _, .createApiKey _ _ rawSecret => some (hashApiKey env ("wotp_live_" ++ rawSecret))
    | _, _ => none
  | _ => none

/-- The key that a thread is about to revoke. -/
def Thread.revokes : Thread → Option Id
  | dashboard c =>
    match c.pc with
    | .revokeApiKey _ apiKey => some apiKey.id
    | _ => none
  | _ => none

inductive KeysStep (w w' : World) (drawn : Option String) (revoked : Option Id) : Prop
  | same (apiKeys : w'.db.apiKeys = w.db.apiKeys) (grows : w.nextId ≤ w'.nextId)
  | create (row : ApiKey) (fresh : row.id = w.nextId)
      (unused : ∀ k ∈ w.db.apiKeys, k.keyHash ≠ row.keyHash) (hash : drawn = some row.keyHash)
      (apiKeys : w'.db.apiKeys = w.db.apiKeys ++ [row]) (next : w'.nextId = w.nextId + 1)
  | revoke (id : Id) (named : revoked = some id)
      (apiKeys : w'.db.apiKeys = (w.db.revokeApiKey id).apiKeys) (next : w'.nextId = w.nextId)
  | delete (applicationId : Id)
      (apiKeys : w'.db.apiKeys = w.db.apiKeys.filter (·.applicationId ≠ applicationId))
      (next : w'.nextId = w.nextId)

section Steps

variable {env : Env} {w w' : World} {ok : Bool} {drawn : Option String} {revoked : Option Id}

theorem KeysStep.refl (w : World) : KeysStep w w drawn revoked := .same rfl (le_refl _)

theorem DashboardCall.handle_keys {c : DashboardCall} {customer : Customer}
    (before : c.pc = .handle customer) :
    KeysStep w (c.handle env w customer).1 ((Thread.dashboard c).draws env) revoked := by
  cases request : c.request with
  | createApplication name =>
    simp only [handle, request, Database.createApplication]
    split
    next created =>
      split at created <;> cases created
      exact .same rfl (Nat.le_succ _)
    · exact .refl w
  | createApiKey applicationId name rawSecret =>
    simp only [handle, request, Database.createApiKey]
    split
    next created =>
      split at created <;> cases created
      next conditions =>
        exact .create (apiKeyRow env w.nextId customer.id applicationId name rawSecret) rfl conditions.1
          (by simp only [Thread.draws, before, request]; rfl) rfl rfl
    · exact .refl w
  | topup amount referenceId =>
    simp only [handle, request]
    split <;> exact .same rfl (le_refl _)
  | account accountRequest =>
    cases accountRequest <;> simp only [handle, request] <;> exact .same rfl (le_refl _)
  | getApplication | deleteApplication | revokeApiKey =>
    simp only [handle, request]
    split <;> exact .refl w
  | listApplications | listApiKeys | transactions =>
    simp only [handle, request]
    exact .same rfl (le_refl _)

theorem DashboardCall.step_keys {c c' : DashboardCall} (h : c.step env w ok = some (w', c')) :
    KeysStep w w' ((Thread.dashboard c).draws env) (Thread.dashboard c).revokes := by
  cases pc : c.pc with
  | authenticate sub jwt =>
    simp only [step, pc] at h
    split at h <;> cases h <;> exact .refl w
  | handle customer =>
    simp only [step, pc] at h
    split at h
    · have handled : KeysStep w (c.handle env w customer).1 ((Thread.dashboard c).draws env)
          (Thread.dashboard c).revokes := handle_keys pc
      rw [Option.some.inj h] at handled
      exact handled
    · cases h
      exact .refl w
  | deleteApplication customer app =>
    simp only [step, pc, Database.deleteApplication] at h
    split at h <;> cases h
    next deleted =>
      split at deleted
      · split at deleted <;> cases deleted
        exact .delete app.id rfl rfl
      · cases deleted
    · exact .refl w
  | revokeApiKey customer apiKey =>
    simp only [step, pc] at h
    split at h <;> cases h
    · exact .revoke apiKey.id (by simp only [Thread.revokes, pc]) rfl rfl
    · exact .refl w
  | readWallet | readTransactions | countVerified | countFailed =>
    simp only [step, pc] at h
    split at h <;> cases h <;> exact .same rfl (le_refl _)
  | answered | rejected | internalError => simp [step, pc] at h

theorem RegisterCall.step_keys {c c' : RegisterCall} (h : c.step w ok = some (w', c')) :
    w'.db.apiKeys = w.db.apiKeys := by
  cases pc : c.pc with
  | findUser =>
    simp only [step, pc] at h
    split at h
    · split at h <;> cases h <;> rfl
    · cases h
      rfl
  | create =>
    simp only [step, pc] at h
    split at h <;> cases h
    next registered =>
      split at registered
      · unfold RegisterCall.create Database.createApplication at registered
        dsimp only at registered
        split at registered
        · split at registered <;> cases registered
          rfl
        · cases registered
      · cases registered
    · rfl
  | registered | rejected | internalError => simp [step, pc] at h

theorem Thread.resume_keys {t t' : Thread} {a : Answer} (h : Thread.resume env w t a = some (w', t')) :
    KeysStep w w' (t.draws env) t.revokes := by
  have rows := resume_rows h
  cases t with
  | authenticating request c =>
    simp only [resume] at h
    obtain ⟨c', stepped, -⟩ := stepped_eq_some h
    exact .same (by rw [(AuthCall.step_session stepped).1.db]) rows.grows
  | send c =>
    obtain ⟨c', stepped, -⟩ := stepped_eq_some h
    exact .same (SendCall.step_tables stepped).apiKeys rows.grows
  | verify customer c =>
    obtain ⟨c', stepped, -⟩ := stepped_eq_some h
    exact .same (VerifyCall.step_tables stepped).apiKeys rows.grows
  | resend c =>
    obtain ⟨c', stepped, -⟩ := stepped_eq_some h
    exact .same (ResendCall.step_tables stepped).apiKeys rows.grows
  | status customer c =>
    obtain ⟨c', stepped, -⟩ := stepped_eq_some h
    exact .same (StatusCall.step_tables stepped).apiKeys rows.grows
  | dashboard c =>
    obtain ⟨c', stepped, -⟩ := stepped_eq_some h
    exact DashboardCall.step_keys stepped
  | register c =>
    obtain ⟨c', stepped, -⟩ := stepped_eq_some h
    exact .same (RegisterCall.step_keys stepped) rows.grows
  | sendOtpJob c =>
    obtain ⟨c', stepped, -⟩ := stepped_eq_some h
    exact .same (JobCall.step_tables stepped).apiKeys rows.grows
  | webhook c =>
    obtain ⟨c', stepped, -⟩ := stepped_eq_some h
    exact .same (WebhookCall.step_tables stepped).apiKeys rows.grows

end Steps

/-! ### Revocations -/

/-- The key whose revocation has been answered. -/
def Thread.revoked : Thread → Option Id
  | dashboard c =>
    match c.pc, c.request with
    | .answered _ .noContent, .revokeApiKey keyId => some keyId
    | _, _ => none
  | _ => none

/-- What a thread is about to revoke or delete is what it was asked to. -/
def Thread.Intends : Thread → Prop
  | dashboard c =>
    match c.pc with
    | .revokeApiKey _ apiKey => c.request = .revokeApiKey apiKey.id
    | .deleteApplication _ app => c.request = .deleteApplication app.id
    | _ => True
  | _ => True

/-- Ids are handed out in order, a hash is that of one key, and an answered revocation has been made. -/
structure Keyed (p : System) : Prop where
  bounded : ∀ k ∈ p.shared.db.apiKeys, k.id < p.shared.nextId
  hashes : ∀ k ∈ p.shared.db.apiKeys, ∀ k' ∈ p.shared.db.apiKeys, k.keyHash = k'.keyHash → k.id = k'.id
  intends : ∀ t ∈ p.threads, t.Intends
  revoking : ∀ t ∈ p.threads, ∀ id ∈ t.revokes, id < p.shared.nextId
  revoked : ∀ t ∈ p.threads, ∀ id ∈ t.revoked, id < p.shared.nextId ∧
    ∀ k ∈ p.shared.db.apiKeys, k.id = id → k.status = .revoked

section Revocations

variable {env : Env} {w w' : World} {ok : Bool} {a : Answer} {p q : System}

/-- What the step of a dashboard request leads to, as far as keys are revoked. -/
structure RevokingStep (w w' : World) (t t' : Thread) : Prop where
  intends : t'.Intends
  revokes : ∀ id ∈ t'.revokes, ∃ k ∈ w.db.apiKeys, k.id = id
  revoked : ∀ id ∈ t'.revoked, t.revokes = some id ∧ w'.db = w.db.revokeApiKey id

theorem RevokingStep.other {t t' : Thread} (intends : t'.Intends) (revokes : t'.revokes = none)
    (revoked : t'.revoked = none) : RevokingStep w w' t t' := by
  refine ⟨intends, fun id present => ?_, fun id present => ?_⟩
  · rw [revokes] at present
    cases present
  · rw [revoked] at present
    cases present

theorem DashboardCall.handle_revoking {t : Thread} (c : DashboardCall) (customer : Customer) :
    RevokingStep w w' t (.dashboard (c.handle env w customer).2) := by
  cases request : c.request with
  | revokeApiKey keyId =>
    simp only [handle, request]
    split
    next apiKey found =>
      have selected := List.find?_some found
      simp only [Bool.and_eq_true, beq_iff_eq] at selected
      refine ⟨?_, fun id present => ?_, fun id present => (by cases present)⟩
      · simp only [Thread.Intends, goto, request, selected.1]
      · cases present
        exact ⟨apiKey, List.mem_of_find?_eq_some found, rfl⟩
    · exact .other trivial rfl rfl
  | deleteApplication appId =>
    simp only [handle, request]
    split
    next app found =>
      have selected := List.find?_some found
      simp only [Bool.and_eq_true, beq_iff_eq] at selected
      refine .other ?_ rfl rfl
      simp only [Thread.Intends, goto, request, selected.1]
    · exact .other trivial rfl rfl
  | createApplication | createApiKey | getApplication | topup =>
    simp only [handle, request]
    split <;> exact .other trivial rfl rfl
  | account accountRequest =>
    cases accountRequest <;> simp only [handle, request] <;> exact .other trivial rfl rfl
  | listApplications | listApiKeys | transactions =>
    simp only [handle, request]
    exact .other trivial rfl rfl

theorem DashboardCall.step_revoking {c c' : DashboardCall} (intends : (Thread.dashboard c).Intends)
    (h : c.step env w ok = some (w', c')) : RevokingStep w w' (.dashboard c) (.dashboard c') := by
  cases pc : c.pc with
  | authenticate sub jwt =>
    simp only [step, pc] at h
    split at h <;> cases h <;> exact .other trivial rfl rfl
  | handle customer =>
    simp only [step, pc] at h
    split at h
    · have handled : RevokingStep w w' (.dashboard c) (.dashboard (c.handle env w customer).2) :=
        c.handle_revoking customer
      rw [Option.some.inj h] at handled
      exact handled
    · cases h
      exact .other trivial rfl rfl
  -- the same answer as to a revocation, but to another request
  | deleteApplication customer app =>
    simp only [Thread.Intends, pc] at intends
    simp only [step, pc] at h
    split at h <;> cases h
    · exact .other trivial rfl (by simp only [Thread.revoked, goto, intends])
    · exact .other trivial rfl rfl
  | revokeApiKey customer apiKey =>
    simp only [Thread.Intends, pc] at intends
    simp only [step, pc] at h
    split at h <;> cases h
    · refine ⟨trivial, fun id present => (by cases present), fun id present => ?_⟩
      simp only [Thread.revoked, goto, intends, Option.mem_def, Option.some.injEq] at present
      subst present
      exact ⟨by simp only [Thread.revokes, pc], rfl⟩
    · exact .other trivial rfl rfl
  | readWallet | readTransactions | countVerified | countFailed =>
    simp only [step, pc] at h
    split at h <;> cases h <;> exact .other trivial rfl rfl
  | answered | rejected | internalError => simp [step, pc] at h

theorem Thread.resume_revoking {t t' : Thread} (intends : t.Intends)
    (h : Thread.resume env w t a = some (w', t')) : RevokingStep w w' t t' := by
  cases t with
  | authenticating request c =>
    simp only [resume] at h
    obtain ⟨c', -, rfl⟩ := stepped_eq_some h
    split
    · unfold handler
      split <;> exact .other trivial rfl rfl
    · exact .other trivial rfl rfl
  | dashboard c =>
    obtain ⟨c', stepped, rfl⟩ := stepped_eq_some h
    exact DashboardCall.step_revoking intends stepped
  | send | verify | resend | status | register | sendOtpJob | webhook =>
    obtain ⟨c', -, rfl⟩ := stepped_eq_some h
    exact .other trivial rfl rfl

/-- Keys come from keys: they keep their ids and hashes, and what is revoked stays revoked. -/
theorem KeysStep.origin {drawn : Option String} {revoked : Option Id} (step : KeysStep w w' drawn revoked)
    {k : ApiKey} (member : k ∈ w'.db.apiKeys) :
    (∃ j ∈ w.db.apiKeys, j.id = k.id ∧ j.keyHash = k.keyHash ∧
      (k.status = j.status ∨ k.status = .revoked)) ∨
      (k.id = w.nextId ∧ drawn = some k.keyHash ∧ ∀ j ∈ w.db.apiKeys, j.keyHash ≠ k.keyHash) := by
  cases step with
  | same apiKeys => exact Or.inl ⟨k, apiKeys ▸ member, rfl, rfl, Or.inl rfl⟩
  | create row fresh unused hash apiKeys =>
    rw [apiKeys] at member
    rcases List.mem_append.mp member with old | new
    · exact Or.inl ⟨k, old, rfl, rfl, Or.inl rfl⟩
    · cases List.mem_singleton.mp new
      exact Or.inr ⟨fresh, hash, unused⟩
  | revoke id named apiKeys =>
    rw [apiKeys] at member
    obtain ⟨j, old, rfl⟩ := List.mem_map.mp member
    refine Or.inl ⟨j, old, ?_⟩
    split
    · exact ⟨rfl, rfl, Or.inr rfl⟩
    · exact ⟨rfl, rfl, Or.inl rfl⟩
  | delete applicationId apiKeys =>
    rw [apiKeys] at member
    exact Or.inl ⟨k, List.mem_of_mem_filter member, rfl, rfl, Or.inl rfl⟩

theorem KeysStep.grows {drawn : Option String} {revoked : Option Id} (step : KeysStep w w' drawn revoked) :
    w.nextId ≤ w'.nextId := by
  cases step with
  | same apiKeys grows => exact grows
  | create row fresh unused hash apiKeys next => exact next ▸ Nat.le_succ _
  | revoke id named apiKeys next => exact next.ge
  | delete applicationId apiKeys next => exact next.ge

theorem KeysStep.bounded {drawn : Option String} {revoked : Option Id} (step : KeysStep w w' drawn revoked)
    (bounded : ∀ k ∈ w.db.apiKeys, k.id < w.nextId) : ∀ k ∈ w'.db.apiKeys, k.id < w'.nextId := by
  intro k member
  rcases step.origin member with ⟨j, old, same, -⟩ | ⟨new, drawn, unused⟩
  · exact same ▸ lt_of_lt_of_le (bounded j old) step.grows
  · cases step with
    | create row fresh unused' hash apiKeys next =>
      rw [new, next]
      exact Nat.lt_succ_self _
    | same apiKeys => exact absurd rfl (unused k (apiKeys ▸ member))
    | revoke id named apiKeys =>
      rw [apiKeys] at member
      obtain ⟨j, old, rfl⟩ := List.mem_map.mp member
      refine absurd ?_ (unused j old)
      split <;> rfl
    | delete applicationId apiKeys =>
      rw [apiKeys] at member
      exact absurd rfl (unused k (List.mem_of_mem_filter member))

theorem KeysStep.hashes {drawn : Option String} {revoked : Option Id} (step : KeysStep w w' drawn revoked)
    (hashes : ∀ k ∈ w.db.apiKeys, ∀ k' ∈ w.db.apiKeys, k.keyHash = k'.keyHash → k.id = k'.id) :
    ∀ k ∈ w'.db.apiKeys, ∀ k' ∈ w'.db.apiKeys, k.keyHash = k'.keyHash → k.id = k'.id := by
  intro k member k' member' same
  rcases step.origin member with ⟨j, old, of_id, of_hash, -⟩ | ⟨new, -, unused⟩ <;>
    rcases step.origin member' with ⟨j', old', of_id', of_hash', -⟩ | ⟨new', -, unused'⟩
  · rw [← of_id, ← of_id']
    exact hashes j old j' old' (of_hash.trans (same.trans of_hash'.symm))
  · exact absurd (of_hash.trans same) (unused' j old)
  · exact absurd (of_hash'.trans same.symm) (unused j' old')
  · exact new.trans new'.symm

theorem KeysStep.revoked {drawn : Option String} {revoked : Option Id} (step : KeysStep w w' drawn revoked)
    {id : Id} (below : id < w.nextId) (dead : ∀ k ∈ w.db.apiKeys, k.id = id → k.status = .revoked) :
    ∀ k ∈ w'.db.apiKeys, k.id = id → k.status = .revoked := by
  intro k member same
  rcases step.origin member with ⟨j, old, of_id, -, unchanged | revoked⟩ | ⟨new, -⟩
  · exact unchanged.trans (dead j old (of_id.trans same))
  · exact revoked
  · exact absurd (same.symm.trans new) below.ne

theorem Keyed.resume (keyed : Keyed p) {i : ℕ} {t t' : Thread} (found : p.threads[i]? = some t)
    (resumed : Thread.resume env p.shared t a = some (w', t')) : Keyed ⟨w', p.threads.set i t'⟩ := by
  have member := List.mem_of_getElem? found
  have keys := Thread.resume_keys resumed
  have step := Thread.resume_revoking (keyed.intends t member) resumed
  refine ⟨keys.bounded keyed.bounded, keys.hashes keyed.hashes, fun u there => ?_,
    fun u there id names => ?_, fun u there id names => ?_⟩ <;>
    rcases List.mem_or_eq_of_mem_set there with old | rfl
  · exact keyed.intends u old
  · exact step.intends
  · exact lt_of_lt_of_le (keyed.revoking u old id names) keys.grows
  · obtain ⟨k, inside, rfl⟩ := step.revokes id names
    exact lt_of_lt_of_le (keyed.bounded k inside) keys.grows
  · obtain ⟨below, dead⟩ := keyed.revoked u old id names
    exact ⟨lt_of_lt_of_le below keys.grows, keys.revoked below dead⟩
  · obtain ⟨names, made⟩ := step.revoked id names
    refine ⟨lt_of_lt_of_le (keyed.revoking t member id names) keys.grows, fun k inside same => ?_⟩
    -- the row has just been written
    rw [made] at inside
    obtain ⟨j, old, rfl⟩ := List.mem_map.mp inside
    split at same
    next of_id => rw [if_pos of_id]
    next apart => exact absurd same apart

theorem Thread.external_keyed {event : SystemEvent} {born : List Thread}
    (h : Thread.external w event = some (w', born)) :
    ∀ t ∈ born, t.Intends ∧ t.revokes = none ∧ t.revoked = none := by
  cases event with
  | tick d =>
    cases h
    exact fun t member => (by cases member)
  | takeSendOtpJob i =>
    simp only [external] at h
    split at h <;> cases h
    intro t member
    cases List.mem_singleton.mp member
    exact ⟨trivial, rfl, rfl⟩
  | api | dashboard | register | processWebhook =>
    cases h
    intro t member
    cases List.mem_singleton.mp member
    exact ⟨trivial, rfl, rfl⟩

theorem Keyed.step (keyed : Keyed p) {l : SystemLabel}
    (taken : Pool.step (systemProgram env) p l = some q) : Keyed q := by
  cases l with
  | resume i a =>
    obtain ⟨t, w', t', found, resumed, rfl⟩ := step_resume taken
    exact keyed.resume found resumed
  | external event =>
    obtain ⟨w', born, acted, rfl⟩ := step_external taken
    have same : External env p.shared w' born := Thread.external_cases acted
    have starts := Thread.external_keyed acted
    refine ⟨?_, ?_, fun u there => ?_, fun u there id names => ?_, fun u there id names => ?_⟩
    · simp only [same.db, same.nextId]
      exact keyed.bounded
    · simp only [same.db]
      exact keyed.hashes
    · rcases List.mem_append.mp there with old | new
      · exact keyed.intends u old
      · exact (starts u new).1
    · simp only [same.nextId]
      rcases List.mem_append.mp there with old | new
      · exact keyed.revoking u old id names
      · rw [(starts u new).2.1] at names
        cases names
    · simp only [same.nextId, same.db]
      rcases List.mem_append.mp there with old | new
      · exact keyed.revoked u old id names
      · rw [(starts u new).2.2] at names
        cases names

end Revocations

/-! ### Requests with a revoked key -/

/-- The hash that the key of a request is looked up by. -/
def AuthCall.presents (env : Env) (c : AuthCall) : Option String := c.rawApiKey.map (hashApiKey env)

/-- The step lets a request with a key of this hash through; the request is the `n`-th thread or a
later one. -/
def Admits (env : Env) (keyHash : String) (n : ℕ) (p : System) : SystemLabel → Prop
  | .resume i a => n ≤ i ∧ ∃ request c w' c' s, p.threads[i]? = some (.authenticating request c) ∧
      c.presents env = some keyHash ∧ c.step env p.shared a.ok = some (w', c') ∧ c'.pc = .authenticated s
  | .external _ => False

/-- The step creates a key with this hash. -/
def DrawsHash (env : Env) (keyHash : String) (p : System) : SystemLabel → Prop
  | .resume i _ => ∃ t ∈ p.threads[i]?, t.draws env = some keyHash
  | .external _ => False

/-- No active key has the hash, and of the requests since none has found one. -/
structure Dead (env : Env) (keyHash : String) (n : ℕ) (p : System) : Prop where
  keys : ∀ k ∈ p.shared.db.apiKeys, k.keyHash = keyHash → k.status ≠ .active
  length : n ≤ p.threads.length
  unfound : ∀ i request c, n ≤ i → p.threads[i]? = some (.authenticating request c) →
    c.presents env = some keyHash → c.session = none

section Dead

variable {env : Env} {keyHash : String} {n : ℕ} {p q : System} {a : Answer} {w w' : World}

theorem KeysStep.dead {drawn : Option String} {revoked : Option Id} (step : KeysStep w w' drawn revoked)
    (dead : ∀ k ∈ w.db.apiKeys, k.keyHash = keyHash → k.status ≠ .active)
    (other : drawn ≠ some keyHash) :
    ∀ k ∈ w'.db.apiKeys, k.keyHash = keyHash → k.status ≠ .active := by
  intro k member same
  rcases step.origin member with ⟨j, old, -, of_hash, unchanged | revoked⟩ | ⟨-, drawn, -⟩
  · rw [unchanged]
    exact dead j old (of_hash.trans same)
  · rw [revoked]
    simp
  · exact absurd (same ▸ drawn) other

theorem Database.findApiKey_active {db : Database} {apiKey : ApiKey} {application : Application}
    {customer : Customer} (found : db.findApiKey keyHash = some (apiKey, application, customer)) :
    apiKey ∈ db.apiKeys ∧ apiKey.keyHash = keyHash ∧ apiKey.status = .active := by
  simp only [findApiKey, Option.bind_eq_bind, Option.pure_def, Option.bind_eq_some_iff,
    Option.some.injEq, Prod.mk.injEq] at found
  obtain ⟨key, first, -, -, -, -, rfl, -, -⟩ := found
  have selected := List.find?_some first
  simp only [Bool.and_eq_true, beq_iff_eq] at selected
  exact ⟨List.mem_of_find?_eq_some first, selected.1, selected.2⟩

theorem Thread.external_unfound {event : SystemEvent} {born : List Thread}
    (h : Thread.external w event = some (w', born)) {request : ApiRequest} {c : AuthCall}
    (member : Thread.authenticating request c ∈ born) : c.session = none := by
  cases event with
  | api rawApiKey request' =>
    cases h
    cases List.mem_singleton.mp member
    unfold AuthCall.start
    split <;> rfl
  | tick =>
    cases h
    cases member
  | takeSendOtpJob i =>
    simp only [external] at h
    split at h <;> cases h
    cases List.mem_singleton.mp member
  | dashboard | register | processWebhook =>
    cases h
    cases List.mem_singleton.mp member

/-- A look-up among keys that are not active finds none. -/
theorem AuthCall.step_unfound {c c' : AuthCall} {ok : Bool}
    (dead : ∀ k ∈ w.db.apiKeys, k.keyHash = keyHash → k.status ≠ .active)
    (presents : c.presents env = some keyHash) (unfound : c.session = none)
    (h : c.step env w ok = some (w', c')) : c'.session = none := by
  obtain ⟨-, -, sessions⟩ := step_session h
  by_contra present
  obtain ⟨s, holds⟩ := Option.ne_none_iff_exists'.mp present
  rcases sessions s holds with before | found
  · rw [unfound] at before
    cases before
  · obtain ⟨raw, sent, hash⟩ := Option.map_eq_some_iff.mp presents
    rw [sent, Option.getD_some, hash] at found
    obtain ⟨member, same, active⟩ := Database.findApiKey_active found
    exact dead s.apiKey member same active

theorem Dead.not_admits (dead : Dead env keyHash n p) (l : SystemLabel) : ¬Admits env keyHash n p l := by
  cases l with
  | resume i a =>
    rintro ⟨later, request, c, w', c', s, found, presents, stepped, through⟩
    have unfound := AuthCall.step_unfound dead.keys presents
      (dead.unfound i request c later found presents) stepped
    rw [AuthCall.session, through] at unfound
    cases unfound
  | external event => exact id

theorem Dead.step (dead : Dead env keyHash n p) {l : SystemLabel} (other : ¬DrawsHash env keyHash p l)
    (taken : Pool.step (systemProgram env) p l = some q) : Dead env keyHash n q := by
  cases l with
  | resume i a =>
    obtain ⟨t, w', t', found, resumed, rfl⟩ := step_resume taken
    simp only [systemProgram] at resumed
    have undrawn : t.draws env ≠ some keyHash := fun draws => other ⟨t, found, draws⟩
    refine ⟨(Thread.resume_keys resumed).dead dead.keys undrawn, ?_,
      fun j request c later there presents => ?_⟩
    · rw [List.length_set]
      exact dead.length
    rcases getElem?_set_cases there with ⟨rfl, rfl⟩ | ⟨-, old⟩
    · -- the thread was authenticating before
      cases t with
      | authenticating request' c₀ =>
        simp only [Thread.resume] at resumed
        obtain ⟨c', stepped, same⟩ := Thread.stepped_eq_some resumed
        have before : c₀.presents env = some keyHash := by
          split at same
          · unfold Thread.handler at same
            split at same <;> cases same
          · cases same
            rw [AuthCall.presents, ← (AuthCall.step_session stepped).2.1]
            exact presents
        have unfound := AuthCall.step_unfound dead.keys before
          (dead.unfound j request' c₀ later found before) stepped
        split at same
        · unfold Thread.handler at same
          split at same <;> cases same
        · cases same
          exact unfound
      | send | verify | resend | status | dashboard | register | sendOtpJob | webhook =>
        obtain ⟨c', -, same⟩ := Thread.stepped_eq_some resumed
        cases same
    · exact dead.unfound j request c later old presents
  | external event =>
    obtain ⟨w', born, acted, rfl⟩ := step_external taken
    have same : External env p.shared w' born := Thread.external_cases acted
    refine ⟨?_, ?_, fun j request c later there presents => ?_⟩
    · simp only [same.db]
      exact dead.keys
    · rw [List.length_append]
      exact dead.length.trans (Nat.le_add_right _ _)
    by_cases inside : j < p.threads.length
    · rw [List.getElem?_append_left inside] at there
      exact dead.unfound j request c later there presents
    · rw [List.getElem?_append_right (not_lt.mp inside)] at there
      exact Thread.external_unfound acted (List.mem_of_getElem? there)

end Dead

/-- Nothing runs, and the keys are as the database keeps them. -/
structure KeysAtRest (p : System) : Prop where
  threads : p.threads = []
  bounded : ∀ k ∈ p.shared.db.apiKeys, k.id < p.shared.nextId
  hashes : ∀ k ∈ p.shared.db.apiKeys, ∀ k' ∈ p.shared.db.apiKeys, k.keyHash = k'.keyHash → k.id = k'.id

theorem KeysAtRest.keyed {p : System} (rest : KeysAtRest p) : Keyed p := by
  refine ⟨rest.bounded, rest.hashes, ?_, ?_, ?_⟩ <;>
    (rw [rest.threads]; exact fun t member => (by cases member))

/-- Once the revocation of a key has been answered, no request that comes in later is let through with
it, whatever else happens; a new key does not get the same hash. -/
theorem revoked_key_refused {env : Env} {p₀ p q : System} {es fs : List SystemLabel} (rest : KeysAtRest p₀)
    (before : Transition.run (Pool.step (systemProgram env)) p₀ es = some p)
    {i : ℕ} {c : DashboardCall} {customer : Customer} {k : ApiKey}
    (found : p.threads[i]? = some (.dashboard c)) (request : c.request = .revokeApiKey k.id)
    (answered : c.pc = .answered customer .noContent) (member : k ∈ p.shared.db.apiKeys)
    (fresh : Respects (Pool.step (systemProgram env)) (fun s l => ¬DrawsHash env k.keyHash s l) p fs)
    (after : Transition.run (Pool.step (systemProgram env)) p fs = some q) :
    Respects (Pool.step (systemProgram env))
      (fun s l => ¬Admits env k.keyHash p.threads.length s l) p fs ∧
      ∀ k' ∈ q.shared.db.apiKeys, k'.keyHash = k.keyHash → k'.status ≠ .active := by
  have keyed : Keyed p :=
    Transition.run_invariant Keyed (fun _ _ _ keyed => keyed.step) rest.keyed before
  have names : (Thread.dashboard c).revoked = some k.id := by
    simp only [Thread.revoked, answered, request]
  obtain ⟨-, revoked⟩ := keyed.revoked _ (List.mem_of_getElem? found) k.id names
  have dead : Dead env k.keyHash p.threads.length p := by
    refine ⟨fun k' there same => ?_, le_refl _, fun j _ _ later there => ?_⟩
    · rw [revoked k' there (keyed.hashes k' there k member same)]
      simp
    · rw [List.getElem?_eq_none later] at there
      cases there
  exact ⟨Respects.of_invariant (Dead env k.keyHash p.threads.length)
      (fun _ _ _ dead other => dead.step other) (fun _ l dead _ => dead.not_admits l) dead fresh,
    (run_invariant_of_respects (Dead env k.keyHash p.threads.length)
      (fun _ _ _ dead other => dead.step other) dead fresh after).keys⟩

instance (env : Env) (keyHash : String) (p : System) : DecidablePred (DrawsHash env keyHash p)
  | .resume i _ => inferInstanceAs (Decidable (∃ t ∈ p.threads[i]?, t.draws env = some keyHash))
  | .external _ => isFalse id

/-- Acme with a user and an API key. -/
def acme : System :=
  ⟨{ sampleSystem.shared with
      db := { sampleSystem.shared.db with
        users := [⟨5, "it@acme.test", .active⟩]
        customerUsers := [⟨1, 5⟩] } }, []⟩

theorem acme_atRest : KeysAtRest acme := by
  refine ⟨rfl, fun k member => ?_, fun k member k' member' _ => ?_⟩
  · cases List.mem_singleton.mp member
    decide
  · cases List.mem_singleton.mp member
    cases List.mem_singleton.mp member'
    rfl

/-- The key is revoked, and then used again. -/
theorem revoked_key_refused_acme :
    ∃ p q, Transition.run (Pool.step (systemProgram OtpPool.sampleEnv)) acme
        (.external (.dashboard 5 (.revokeApiKey 3)) :: resolve 0 4) = some p ∧
      Transition.run (Pool.step (systemProgram OtpPool.sampleEnv)) p
        (sampleRequest (.status "req_1") :: resolve 1 1) = some q ∧
      Respects (Pool.step (systemProgram OtpPool.sampleEnv))
        (fun s l => ¬Admits OtpPool.sampleEnv "wotp_live_00:pepper" p.threads.length s l) p
        (sampleRequest (.status "req_1") :: resolve 1 1) ∧
      ∀ k' ∈ q.shared.db.apiKeys, k'.keyHash = "wotp_live_00:pepper" → k'.status ≠ .active :=
  ⟨_, _, (Option.some_get (by decide +kernel)).symm, (Option.some_get (by decide +kernel)).symm,
    revoked_key_refused (i := 0)
      (c := ⟨.revokeApiKey 3, .answered ⟨1, "Acme", "it@acme.test", .active⟩ .noContent⟩)
      (k := ⟨3, 1, 2, "server", "wotp_live_00", "wotp_live_00:pepper", .revoked⟩) acme_atRest
      (Option.some_get (by decide +kernel)).symm rfl rfl rfl (by decide +kernel) (by decide +kernel)
      (Option.some_get (by decide +kernel)).symm⟩

end SelfOtp
