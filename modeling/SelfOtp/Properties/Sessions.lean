import SelfOtp.Model.Sessions
import SelfOtp.Properties.TokenLineage

/-! Where the tokens of a session come from: nobody holds one for a user whose password was never given. -/
namespace SelfOtp

open Pool Transition

/-! ### Who a request acts for -/

/-- The users that a rotation may write into a row or answer with. -/
def RotatePc.users : RotatePc → List Id
  | findUser record => [record.userId]
  | create record user _ => [record.userId, user.id]
  | update r | commit r _ | rotated r => [r.user.id, r.newRecord.userId]
  | select | lock _ | rollback .. | revoke .. | rejected _ | reuseDetected _ | internalError => []

def SessionThread.users : SessionThread → List Id
  | login c =>
    match c.pc with
    | .findCustomer user => [user.id]
    | .createToken accessToken create => [accessToken.sub, create.userId]
    | .updateLastLogin tokens | .answered tokens => [tokens.accessToken.sub]
    | .findUser | .verifyPassword .. | .rejected _ | .internalError => []
  | refresh (.rotate c) => c.pc.users
  | refresh (.answered tokens) => [tokens.accessToken.sub]
  | refresh (.rejected _) | refresh .internalError => []
  | logout _ => []

/-- The user whose password a login presents in its step. -/
def SessionThread.proves (env : LoginEnv) (a : TokenAnswer) : SessionThread → List Id
  | login c =>
    match c.pc with
    | .verifyPassword user passwordHash =>
      if a.ok && env.verifyPassword passwordHash c.password then [user.id] else []
    | .findUser | .findCustomer _ | .createToken .. | .updateLastLogin _ | .answered _ | .rejected _
    | .internalError => []
  | refresh _ | logout _ => []

def authenticated (env : LoginEnv) (p : SessionPool) : SessionLabel → List Id
  | .resume i a =>
    match p.threads[i]? with
    | some t => t.proves env a
    | none => []
  | .external _ => []

/-- The rows of the table, those of running transactions included, are of these users. -/
def TokenStore.Owned (s : TokenStore) (known : List Id) : Prop := ∀ r ∈ s.all, r.userId ∈ known

section Steps

variable {env : SessionEnv} {s s' : TokenStore} {a : TokenAnswer} {known : List Id}

theorem TokenStore.Owned.update (owned : s.Owned known) (selected : Id → Bool)
    (data : RefreshToken → RefreshToken) (keeps : ∀ r, (data r).userId = r.userId) :
    (s.updateRows selected data).Owned known := by
  intro r member
  rcases List.mem_append.mp member with row | inserted
  · obtain ⟨old, there, rfl⟩ := List.mem_map.mp row
    have before := owned old (List.mem_append_left _ there)
    split
    · rwa [keeps]
    · exact before
  · exact owned r (List.mem_append_right _ inserted)

theorem TokenStore.Owned.discard (owned : s.Owned known) (row : RefreshToken) : (s.discard row).Owned known := by
  intro r member
  rcases List.mem_append.mp member with there | inserted
  · exact owned r (List.mem_append_left _ there)
  · exact owned r (List.mem_append_right _ (List.mem_of_mem_erase inserted))

/-- The condition is on the table alone. -/
theorem TokenStore.Owned.same (owned : s.Owned known) (rows : s'.refreshTokens = s.refreshTokens)
    (inserted : s'.inserted = s.inserted) : s'.Owned known := by
  rw [Owned, all, rows, inserted]
  exact owned

theorem RevokePc.step_owned {condition : RevokeWhere} {pc pc' : RevokePc} (owned : s.Owned known)
    (stepped : pc.step s condition a = some (s', pc')) : s'.Owned known := by
  cases RevokePc.step_move stepped with
  | snapshot | refused | pass => exact owned
  | lock | abort => exact owned.same rfl rfl
  | finish held revokedAt =>
    have updated := owned.update held.contains (fun r => { r with revokedAt := some revokedAt }) fun _ => rfl
    exact updated.same rfl rfl

theorem CreateInitialToken.step_owned {c c' : CreateInitialToken} (owned : s.Owned known)
    (own : c.userId ∈ known) (stepped : c.step env s a = some (s', c')) :
    s'.Owned known ∧ c'.userId = c.userId := by
  unfold step at stepped
  split at stepped
  · split at stepped
    · dsimp only at stepped
      split at stepped
      · cases stepped
      · split at stepped <;> cases stepped
        · exact ⟨owned, rfl⟩
        · refine ⟨fun r member => ?_, rfl⟩
          rcases List.mem_append.mp member with row | inserted
          · rcases List.mem_append.mp row with old | new
            · exact owned r (List.mem_append_left _ old)
            · rw [List.mem_singleton.mp new]
              exact own
          · exact owned r (List.mem_append_right _ inserted)
    · cases stepped
      exact ⟨owned, rfl⟩
  · cases stepped
  · cases stepped

theorem RotateToken.step_owned {c c' : RotateToken} (owned : s.Owned known)
    (own : ∀ u ∈ c.pc.users, u ∈ known)
    (stepped : c.step env s a = some (s', c')) :
    s'.Owned known ∧ ∀ u ∈ c'.pc.users, u ∈ known := by
  obtain ⟨rawToken, newRawToken, pc⟩ := c
  cases pc with
  | select =>
    simp only [step] at stepped
    split at stepped
    · split at stepped <;> cases stepped <;> exact ⟨owned, own⟩
    · cases stepped
      exact ⟨owned, own⟩
  | lock id =>
    simp only [step] at stepped
    split at stepped
    · split at stepped
      · cases stepped
      · split at stepped
        next record found =>
          have row := owned record (List.mem_append_left _ (TokenStore.findById_some found).1)
          split at stepped
          · cases stepped
            exact ⟨owned.same rfl rfl, own⟩
          · split at stepped <;> cases stepped
            · exact ⟨owned.same rfl rfl, own⟩
            · exact ⟨owned.same rfl rfl, fun u member => List.mem_singleton.mp member ▸ row⟩
        · cases stepped
          exact ⟨owned, own⟩
    · cases stepped
      exact ⟨owned, own⟩
  | findUser record =>
    have row : record.userId ∈ known := own _ (List.mem_singleton_self _)
    have gone : ∀ u ∈ ([] : List Id), u ∈ known := fun u member => (by cases member)
    simp only [step] at stepped
    split at stepped
    · split at stepped
      next user found =>
        have same : user.id = record.userId := by simpa using List.find?_some found
        split at stepped <;> cases stepped
        · exact ⟨owned, gone⟩
        · refine ⟨owned, fun u member => ?_⟩
          rcases List.mem_pair.mp member with rfl | rfl
          · exact row
          · rwa [same]
      · cases stepped
        exact ⟨owned, gone⟩
    · cases stepped
      exact ⟨owned.same rfl rfl, gone⟩
  | create record user customerId =>
    have named : user.id ∈ known := own _ (List.mem_pair.mpr (Or.inr rfl))
    have gone : ∀ u ∈ ([] : List Id), u ∈ known := fun u member => (by cases member)
    simp only [step] at stepped
    split at stepped
    · split at stepped
      · cases stepped
      · split at stepped <;> cases stepped
        · exact ⟨owned.same rfl rfl, gone⟩
        · refine ⟨fun r member => ?_, fun u member => ?_⟩
          · rcases List.mem_append.mp member with row | inserted
            · exact owned r (List.mem_append_left _ row)
            · rcases List.mem_append.mp inserted with old | new
              · exact owned r (List.mem_append_right _ old)
              · rw [List.mem_singleton.mp new]
                exact named
          · rcases List.mem_pair.mp member with rfl | rfl <;> exact named
    · cases stepped
      exact ⟨owned.same rfl rfl, gone⟩
  | update r =>
    simp only [step] at stepped
    split at stepped <;> cases stepped
    · exact ⟨owned, own⟩
    · exact ⟨(owned.discard r.newRecord).same rfl rfl, fun u member => (by cases member)⟩
  | commit r usedAt =>
    simp only [step] at stepped
    split at stepped <;> cases stepped
    · -- the new row has been inserted for a user that is known
      have new : r.newRecord.userId ∈ known := own _ (List.mem_pair.mpr (Or.inr rfl))
      refine ⟨fun t member => ?_, own⟩
      have used := owned.update (· == r.record.id) (fun row => { row with
        revokedAt := some usedAt, lastUsedAt := some usedAt, replacedByTokenId := some r.newRecord.id })
        fun _ => rfl
      rcases List.mem_append.mp member with row | inserted
      · rcases List.mem_append.mp row with old | committed
        · exact used t (List.mem_append_left _ old)
        · rw [List.mem_singleton.mp committed]
          exact new
      · exact used t (List.mem_append_right _ (List.mem_of_mem_erase inserted))
    · exact ⟨(owned.discard r.newRecord).same rfl rfl, fun u member => (by cases member)⟩
  | rollback record error family =>
    simp only [step] at stepped
    split at stepped <;> cases stepped <;> exact ⟨owned.same rfl rfl, fun u member => (by cases member)⟩
  | revoke familyId pc =>
    have gone : ∀ u ∈ ([] : List Id), u ∈ known := fun u member => (by cases member)
    simp only [step] at stepped
    split at stepped
    next stopped =>
      cases stepped
      exact ⟨RevokePc.step_owned owned stopped, gone⟩
    next stopped =>
      cases stepped
      exact ⟨RevokePc.step_owned owned stopped, gone⟩
    next moved =>
      cases stepped
      exact ⟨RevokePc.step_owned owned moved, gone⟩
    · cases stepped
  | rotated | rejected | reuseDetected | internalError => cases stepped

theorem RevokeFamilyByToken.step_owned {c c' : RevokeFamilyByToken} (owned : s.Owned known)
    (stepped : c.step env s a = some (s', c')) : s'.Owned known := by
  obtain ⟨rawToken, pc⟩ := c
  cases pc with
  | find =>
    simp only [step] at stepped
    split at stepped
    · split at stepped <;> cases stepped <;> exact owned
    · cases stepped
      exact owned
  | revoke familyId pc =>
    simp only [step] at stepped
    split at stepped
    next stopped =>
      cases stepped
      exact RevokePc.step_owned owned stopped
    next stopped =>
      cases stepped
      exact RevokePc.step_owned owned stopped
    next moved =>
      cases stepped
      exact RevokePc.step_owned owned moved
    · cases stepped
  | revoked | unknown | internalError => cases stepped

end Steps

/-! ### The requests -/

section Requests

variable {env : LoginEnv} {p q : SessionPool} {known : List Id}

/-- The rows are of known users, and the requests act for none but these. -/
structure Proven (p : SessionPool) (known : List Id) : Prop where
  owned : p.shared.tokens.Owned known
  threads : ∀ t ∈ p.threads, ∀ u ∈ t.users, u ∈ known

theorem LoginCall.step_owned {s s' : SessionStore} {c c' : LoginCall} {a : TokenAnswer}
    (owned : s.tokens.Owned known) (own : ∀ u ∈ (SessionThread.login c).users, u ∈ known)
    (stepped : c.step env s a = some (s', c')) :
    s'.tokens.Owned known ∧
      ∀ u ∈ (SessionThread.login c').users, u ∈ known ∨ u ∈ (SessionThread.login c).proves env a := by
  obtain ⟨email, password, rawToken, pc⟩ := c
  cases pc with
  | findUser =>
    simp only [step] at stepped
    split at stepped
    · split at stepped <;> cases stepped <;> exact ⟨owned, fun u member => (by cases member)⟩
    · cases stepped
      exact ⟨owned, fun u member => (by cases member)⟩
  | verifyPassword user passwordHash =>
    simp only [step] at stepped
    split at stepped <;> cases stepped
    next verified =>
      refine ⟨owned, fun u member => Or.inr ?_⟩
      simp only [SessionThread.proves, verified, if_true]
      exact member
    · exact ⟨owned, fun u member => (by cases member)⟩
  | findCustomer user =>
    have named : user.id ∈ known := own _ (List.mem_singleton_self _)
    simp only [step] at stepped
    split at stepped <;> cases stepped
    · refine ⟨owned, fun u member => Or.inl ?_⟩
      rcases List.mem_pair.mp member with rfl | rfl <;> exact named
    · exact ⟨owned, fun u member => (by cases member)⟩
  | createToken accessToken create =>
    have signed : accessToken.sub ∈ known := own _ (List.mem_pair.mpr (Or.inl rfl))
    have named : create.userId ∈ known := own _ (List.mem_pair.mpr (Or.inr rfl))
    simp only [step] at stepped
    split at stepped
    next tokens create' created =>
      obtain ⟨kept, same⟩ := CreateInitialToken.step_owned owned named created
      split at stepped <;> cases stepped
      · exact ⟨kept, fun u member => Or.inl (List.mem_singleton.mp member ▸ signed)⟩
      · exact ⟨kept, fun u member => (by cases member)⟩
      · refine ⟨kept, fun u member => Or.inl ?_⟩
        rcases List.mem_pair.mp member with rfl | rfl
        · exact signed
        · rwa [same]
    · cases stepped
  | updateLastLogin tokens =>
    cases stepped
    exact ⟨owned, fun u member => Or.inl (own u member)⟩
  | answered | rejected | internalError => cases stepped

theorem RefreshCall.step_owned {s s' : SessionStore} {c c' : RefreshCall} {a : TokenAnswer}
    (owned : s.tokens.Owned known) (own : ∀ u ∈ (SessionThread.refresh c).users, u ∈ known)
    (stepped : c.step env s a = some (s', c')) :
    s'.tokens.Owned known ∧ ∀ u ∈ (SessionThread.refresh c').users, u ∈ known := by
  cases c with
  | rotate c =>
    simp only [step] at stepped
    split at stepped
    next tokens c' rotated =>
      obtain ⟨kept, users⟩ := RotateToken.step_owned owned own rotated
      split at stepped <;> cases stepped
      next r pc =>
        rw [pc] at users
        refine ⟨kept, fun u member => ?_⟩
        rw [List.mem_singleton.mp member]
        exact users _ (List.mem_pair.mpr (Or.inl rfl))
      · exact ⟨kept, fun u member => (by cases member)⟩
      · exact ⟨kept, fun u member => (by cases member)⟩
      · exact ⟨kept, fun u member => (by cases member)⟩
      · exact ⟨kept, users⟩
    · cases stepped
  | answered | rejected | internalError => cases stepped

theorem LogoutCall.step_owned {s s' : SessionStore} {c c' : LogoutCall} {a : TokenAnswer}
    (owned : s.tokens.Owned known) (stepped : c.step env s a = some (s', c')) : s'.tokens.Owned known := by
  obtain ⟨refreshToken, bearer, pc⟩ := c
  cases pc with
  | revokeFamily revoke =>
    simp only [step] at stepped
    split at stepped
    next revoked =>
      have kept := RevokeFamilyByToken.step_owned owned revoked
      split at stepped <;> cases stepped <;> exact kept
    · cases stepped
  | jwtVerify =>
    simp only [step] at stepped
    split at stepped <;> cases stepped <;> exact owned
  | revokeAll revoke =>
    simp only [step] at stepped
    split at stepped
    next revoked =>
      obtain ⟨⟨tokens, pc⟩, moved, same⟩ := Option.map_eq_some_iff.mp revoked
      cases same
      have kept := RevokePc.step_owned owned moved
      split at stepped <;> cases stepped <;> exact kept
    · cases stepped
  | answered | internalError => cases stepped

theorem SessionThread.resume_owned {s s' : SessionStore} {t t' : SessionThread} {a : TokenAnswer}
    (owned : s.tokens.Owned known) (own : ∀ u ∈ t.users, u ∈ known)
    (resumed : t.resume env s a = some (s', t')) :
    s'.tokens.Owned known ∧ ∀ u ∈ t'.users, u ∈ known ∨ u ∈ t.proves env a := by
  cases t with
  | login c =>
    obtain ⟨⟨s', c'⟩, stepped, same⟩ := Option.map_eq_some_iff.mp resumed
    cases same
    exact LoginCall.step_owned owned own stepped
  | refresh c =>
    obtain ⟨⟨s', c'⟩, stepped, same⟩ := Option.map_eq_some_iff.mp resumed
    cases same
    obtain ⟨kept, users⟩ := RefreshCall.step_owned owned own stepped
    exact ⟨kept, fun u member => Or.inl (users u member)⟩
  | logout c =>
    obtain ⟨⟨s', c'⟩, stepped, same⟩ := Option.map_eq_some_iff.mp resumed
    cases same
    exact ⟨LogoutCall.step_owned owned stepped, fun u member => (by cases member)⟩

theorem Proven.step (authentic : Proven p known) {l : SessionLabel}
    (taken : Pool.step (sessionProgram env) p l = some q) : Proven q (known ++ authenticated env p l) := by
  cases l with
  | resume i a =>
    obtain ⟨t, s', t', found, resumed, rfl⟩ := step_resume taken
    obtain ⟨kept, users⟩ :=
      SessionThread.resume_owned authentic.owned (authentic.threads t (List.mem_of_getElem? found)) resumed
    simp only [authenticated, found]
    refine ⟨fun r member => List.mem_append_left _ (kept r member), fun other member u acts => ?_⟩
    rw [List.mem_append]
    rcases mem_set_cases member with rfl | ⟨j, -, there⟩
    · exact users u acts
    · exact Or.inl (authentic.threads other (List.mem_of_getElem? there) u acts)
  | external event =>
    obtain ⟨s', born, acted, rfl⟩ := step_external taken
    rw [authenticated, List.append_nil]
    have idle : s'.tokens.refreshTokens = p.shared.tokens.refreshTokens ∧
        s'.tokens.inserted = p.shared.tokens.inserted ∧ ∀ t ∈ born, t.users = [] := by
      cases event with
      | tick | users =>
        cases acted
        exact ⟨rfl, rfl, fun t member => (by cases member)⟩
      | login | refresh | logout =>
        cases acted
        exact ⟨rfl, rfl, fun t member => (by rw [List.mem_singleton.mp member]; rfl)⟩
    refine ⟨authentic.owned.same idle.1 idle.2.1, fun t member u acts => ?_⟩
    rcases List.mem_append.mp member with old | new
    · exact authentic.threads t old u acts
    · rw [idle.2.2 t new] at acts
      cases acts

/-- Nothing runs; there may be rows of earlier sessions. -/
structure IdleSessions (p : SessionPool) : Prop where
  inserted : p.shared.tokens.inserted = []
  idle : p.threads = []

/-- The users with a row at the start, and those for whom a login of the run has presented the
password. -/
def legitimate (env : LoginEnv) (p : SessionPool) (es : List SessionLabel) : List Id :=
  p.shared.tokens.refreshTokens.map (·.userId) ++
    observed (Pool.step (sessionProgram env)) (authenticated env) p es

/-- However logins, refreshes and logouts are interleaved, the tokens that a request is answered with
and the rows of the table are of users who had a row at the start or for whom a login has presented the
password. -/
theorem tokens_authenticated {es : List SessionLabel} (start : IdleSessions p)
    (ran : Transition.run (Pool.step (sessionProgram env)) p es = some q) :
    (∀ t ∈ q.threads, ∀ tokens, t.tokens = some tokens →
      tokens.accessToken.sub ∈ legitimate env p es) ∧
    ∀ r ∈ q.shared.tokens.refreshTokens, r.userId ∈ legitimate env p es := by
  have rows_only : Proven p (p.shared.tokens.refreshTokens.map (·.userId)) := by
    refine ⟨fun r member => ?_, fun t member => ?_⟩
    · rw [TokenStore.all, start.inserted, List.append_nil] at member
      exact List.mem_map_of_mem member
    · rw [start.idle] at member
      cases member
  have authentic := run_observed Proven (fun _ _ _ _ authentic taken => authentic.step taken) rows_only ran
  refine ⟨fun t member tokens answered => authentic.threads t member _ ?_, fun r member =>
    authentic.owned r (List.mem_append_left _ member)⟩
  cases t with
  | login c =>
    simp only [SessionThread.tokens] at answered
    split at answered
    next pc =>
      cases answered
      simp only [SessionThread.users, pc, List.mem_singleton]
    · cases answered
  | refresh c =>
    cases c with
    | answered =>
      cases answered
      exact List.mem_singleton_self _
    | rotate | rejected | internalError => cases answered
  | logout c => cases answered

end Requests

/-- A login, and a refresh with the token that it has issued. -/
def loginAndRefresh : List SessionLabel :=
  .external (.login "it@acme.test" "secret123" "a") :: List.replicate 5 (.resume 0 ⟨true, 0⟩) ++
    .external (.refresh "a" "b") :: List.replicate 6 (.resume 1 ⟨true, 0⟩)

theorem tokens_authenticated_loginAndRefresh :
    ∃ q, Transition.run (Pool.step (sessionProgram sampleLogins)) sampleSessionPool loginAndRefresh =
        some q ∧
      q.threads.map SessionThread.tokens =
        [some ⟨⟨1, some 2, 1700000900⟩, "a"⟩, some ⟨⟨1, some 2, 1700000900⟩, "b"⟩] ∧
      (∀ t ∈ q.threads, ∀ tokens, t.tokens = some tokens →
        tokens.accessToken.sub ∈ legitimate sampleLogins sampleSessionPool loginAndRefresh) ∧
      ∀ r ∈ q.shared.tokens.refreshTokens,
        r.userId ∈ legitimate sampleLogins sampleSessionPool loginAndRefresh :=
  ⟨_, (Option.some_get (by decide +kernel)).symm, by decide +kernel,
    tokens_authenticated ⟨rfl, rfl⟩ (Option.some_get (by decide +kernel)).symm⟩

end SelfOtp
