import SelfOtp.Properties.TokenMoves

/-! What `rotateToken` changes in the table when it runs alone, and that it ends. -/
namespace SelfOtp

open Pool Transition

/-- A table on which no transaction runs. -/
structure TokenStore.Settled (s : TokenStore) : Prop where
  ids : s.DistinctIds
  hashes : (s.refreshTokens.map (·.tokenHash)).Nodup
  bounded : ∀ r ∈ s.refreshTokens, r.id < s.nextId
  inserted : s.inserted = []
  unlocked : ∀ id, s.locked id = false

/-- The call takes its next statement, time passes or the users change, but no call starts. -/
def RunsNoOther : TokenLabel → Prop
  | .resume .. | .external (.tick _) | .external (.users ..) => True
  | .external (.createInitialToken ..) | .external (.rotateToken ..)
  | .external (.revokeFamilyByToken _) | .external (.revokeAllUserTokens _) => False

def isStatement : TokenLabel → Bool
  | .resume .. => true
  | .external _ => false

/-! ### Effects -/

/-- The row that a token is presented for. -/
structure Presented (rows : List RefreshToken) (tokenHash : String) (record : RefreshToken) : Prop where
  found : record ∈ rows
  hash : record.tokenHash = tokenHash

/-- A new unrevoked row with the user and the family of another one. -/
structure Succeeds (rows : List RefreshToken) (record new : RefreshToken) : Prop where
  fresh : ∀ r ∈ rows, r.id ≠ new.id
  user : new.userId = record.userId
  family : new.familyId = record.familyId
  live : new.revokedAt = none

namespace RotatePc

/-- What the call has done to the table when it is here. -/
def Effect (rows rows' : List RefreshToken) (tokenHash : String) : RotatePc → Prop
  | rotated r => Presented rows tokenHash r.record ∧ r.record.revokedAt = none ∧
      Succeeds rows r.record r.newRecord ∧
      ∃ usedAt, rows' = (rows.map fun row => if row = r.record then { row with
        revokedAt := some usedAt, lastUsedAt := some usedAt, replacedByTokenId := some r.newRecord.id }
        else row) ++ [r.newRecord]
  | reuseDetected familyId =>
      (∃ record, Presented rows tokenHash record ∧ record.revokedAt.isSome ∧ record.familyId = familyId) ∧
      ∃ revokedAt, rows' = rows.map fun row => if row.familyId = familyId ∧ row.revokedAt = none then
        { row with revokedAt := some revokedAt } else row
  | select | lock _ | findUser _ | create .. | update _ | commit .. | rollback .. | revoke ..
  | rejected _ | internalError => rows' = rows

def ended : RotatePc → Bool
  | rotated _ | rejected _ | reuseDetected _ | internalError => true
  | select | lock _ | findUser _ | create .. | update _ | commit .. | rollback .. | revoke .. => false

/-- The rows of the open transaction. -/
def insertedRows : RotatePc → List RefreshToken
  | update r | commit r _ => [r.newRecord]
  | select | lock _ | findUser _ | create .. | rollback .. | revoke .. | rotated _ | rejected _
  | reuseDetected _ | internalError => []

/-- The statements that are left, in a table of `n` rows. -/
def remaining (n : ℕ) : RotatePc → ℕ
  | select => n + 6
  | lock _ => n + 5
  | findUser _ => n + 4
  | create .. => n + 3
  | update _ => n + 2
  | commit .. => n + 1
  | rollback .. => n + 3
  | revoke _ .start => n + 2
  | revoke _ (.visit waiting ..) => waiting.length + 1
  | revoke _ (.done _) | revoke _ .failed => 0
  | rotated _ | rejected _ | reuseDetected _ | internalError => 0

end RotatePc

/-- The rows that the bulk update waits for or has locked are those of the family that are not
revoked. -/
def RevokePc.Visits (rows : List RefreshToken) (familyId : Id) : RevokePc → Prop
  | start => True
  | visit waiting held _ => (waiting ++ held).Nodup ∧ waiting.length ≤ rows.length ∧
      ∀ id, id ∈ waiting ++ held ↔ ∃ r ∈ rows, r.id = id ∧ r.familyId = familyId ∧ r.revokedAt = none
  | done _ | failed => False

/-- What the call has read when it is here. -/
def RotatePc.Knows (rows : List RefreshToken) (tokenHash : String) : RotatePc → Prop
  | lock id => ∃ record, Presented rows tokenHash record ∧ record.id = id
  | findUser record => Presented rows tokenHash record ∧ record.revokedAt = none
  | create record user _ => (Presented rows tokenHash record ∧ record.revokedAt = none) ∧
      user.id = record.userId
  | update r | commit r _ => (Presented rows tokenHash r.record ∧ r.record.revokedAt = none) ∧
      Succeeds rows r.record r.newRecord
  | rollback record _ family => ∀ familyId ∈ family, Presented rows tokenHash record ∧
      record.revokedAt.isSome ∧ record.familyId = familyId
  | revoke familyId pc =>
      (∃ record, Presented rows tokenHash record ∧ record.revokedAt.isSome ∧ record.familyId = familyId) ∧
      pc.Visits rows familyId
  | select | rotated _ | rejected _ | reuseDetected _ | internalError => True

/-- A call alone on a table that had these rows when it started: the locks and the inserted rows
are its own. -/
structure RunsAlone (env : SessionEnv) (rows : List RefreshToken) (s : TokenStore) (c : RotateToken) :
    Prop where
  locked : ∀ id, s.locked id = c.holds id
  inserted : s.inserted = c.pc.insertedRows
  bounded : ∀ r ∈ rows, r.id < s.nextId
  effect : c.pc.Effect rows s.refreshTokens (hashRefreshToken env.toEnv c.rawToken)
  knows : c.pc.Knows rows (hashRefreshToken env.toEnv c.rawToken)

@[simp] theorem RotateToken.goto_pc (c : RotateToken) (pc : RotatePc) : (c.goto pc).pc = pc := rfl

namespace RunsAlone

variable {env : SessionEnv} {rows : List RefreshToken} {s s' : TokenStore} {c c' : RotateToken}
  {a : TokenAnswer}

theorem unlock (alone : RunsAlone env rows s c) (id : Id) : (s.unlock c.holds).locked id = false := by
  simp only [TokenStore.unlock, alone.locked id, Bool.and_not_self]

theorem step_rawToken (stepped : c.step env s a = some (s', c')) : c'.rawToken = c.rawToken := by
  simp only [RotateToken.step] at stepped
  (repeat' split at stepped) <;> cases stepped <;> rfl

theorem free (alone : RunsAlone env rows s c) (none : ∀ id, c.holds id = false) (id : Id) :
    s.locked id = false := (alone.locked id).trans (none id)

/-- A call that throws with the table as it was. -/
theorem thrown (c : RotateToken) {pc : RotatePc} (throws : pc = .internalError ∨ ∃ error, pc = .rejected error)
    (unlocked : ∀ id, s.locked id = false) (inserted : s.inserted = [])
    (bounded : ∀ r ∈ rows, r.id < s.nextId) (same : s.refreshTokens = rows) :
    RunsAlone env rows s (c.goto pc) := by
  rcases throws with rfl | ⟨error, rfl⟩
  · exact ⟨unlocked, inserted, bounded, same, trivial⟩
  · exact ⟨unlocked, inserted, bounded, same, trivial⟩

/-- A statement or the transaction fails: what the transaction has locked is free again. -/
theorem aborted (alone : RunsAlone env rows s c) (same : s.refreshTokens = rows)
    (inserted : c.pc.insertedRows = []) {pc : RotatePc}
    (throws : pc = .internalError ∨ ∃ error, pc = .rejected error) :
    RunsAlone env rows (s.unlock c.holds) (c.goto pc) :=
  thrown c throws alone.unlock (alone.inserted.trans inserted) alone.bounded same

theorem step_select (alone : RunsAlone env rows s c) (here : c.pc = .select)
    (stepped : c.step env s a = some (s', c')) :
    RunsAlone env rows s' c' ∧ c'.pc.remaining rows.length < c.pc.remaining rows.length := by
  have unlocked := alone.free (by simp [RotateToken.holds, here])
  obtain ⟨-, inserted, bounded, effect, -⟩ := alone
  rw [here] at inserted effect
  simp only [RotateToken.step, here] at stepped
  split at stepped
  · split at stepped
    next record found =>
      cases stepped
      obtain ⟨member, hash⟩ := TokenStore.findByHash_some found
      refine ⟨⟨unlocked, inserted, bounded, effect, record, ⟨effect ▸ member, hash⟩, rfl⟩, ?_⟩
      simp [here, RotatePc.remaining]
    · cases stepped
      refine ⟨thrown c (.inr ⟨_, rfl⟩) unlocked inserted bounded effect, ?_⟩
      simp [here, RotatePc.remaining]
  · cases stepped
    refine ⟨thrown c (.inl rfl) unlocked inserted bounded effect, ?_⟩
    simp [here, RotatePc.remaining]

theorem step_lock (distinct : (rows.map (·.id)).Nodup) (alone : RunsAlone env rows s c) {id : Id}
    (here : c.pc = .lock id) (stepped : c.step env s a = some (s', c')) :
    RunsAlone env rows s' c' ∧ c'.pc.remaining rows.length < c.pc.remaining rows.length := by
  have unlocked := alone.free (by simp [RotateToken.holds, here])
  obtain ⟨-, inserted, bounded, effect, knows⟩ := alone
  rw [here] at inserted effect knows
  obtain ⟨presented, there, rfl⟩ := knows
  simp only [RotateToken.step, here] at stepped
  split at stepped
  · rw [unlocked] at stepped
    simp only [Bool.false_eq_true, if_false] at stepped
    split at stepped
    next record found =>
      obtain ⟨member, same⟩ := TokenStore.findById_some found
      have member : record ∈ rows := effect ▸ member
      obtain rfl := List.inj_on_of_nodup_map distinct member there.found same
      have locked (id : Id) : (s.lock record.id).locked id = (id == record.id) := by
        simp only [TokenStore.lock, Function.update_apply, unlocked]
        split
        next own => simp [own]
        next other => simp [other]
      split at stepped
      -- only a token that was revoked before leaves a family for the bulk update
      next revoked =>
        cases stepped
        refine ⟨⟨locked, inserted, bounded, effect, ?_⟩, by simp [here, RotatePc.remaining]⟩
        intro familyId family
        obtain rfl := Option.some.inj family
        exact ⟨there, revoked, rfl⟩
      next live =>
        have live : record.revokedAt = none := by simpa using live
        split at stepped
        · cases stepped
          refine ⟨⟨locked, inserted, bounded, effect, ?_⟩, by simp [here, RotatePc.remaining]⟩
          intro familyId family
          cases family
        · cases stepped
          exact ⟨⟨locked, inserted, bounded, effect, there, live⟩, by simp [here, RotatePc.remaining]⟩
    · cases stepped
      exact ⟨thrown c (.inr ⟨_, rfl⟩) unlocked inserted bounded effect, by simp [here, RotatePc.remaining]⟩
  · cases stepped
    exact ⟨thrown c (.inl rfl) unlocked inserted bounded effect, by simp [here, RotatePc.remaining]⟩

theorem step_findUser (alone : RunsAlone env rows s c) {record : RefreshToken}
    (here : c.pc = .findUser record) (stepped : c.step env s a = some (s', c')) :
    RunsAlone env rows s' c' ∧ c'.pc.remaining rows.length < c.pc.remaining rows.length := by
  have unlock := alone.unlock
  obtain ⟨locked, inserted, bounded, effect, knows⟩ := alone
  simp only [RotateToken.holds, here] at locked
  rw [here] at inserted effect knows
  -- an inactive user rolls back without a family
  have inactive : RunsAlone env rows s (c.goto (.rollback record RotateToken.userInactive none)) := by
    refine ⟨locked, inserted, bounded, effect, ?_⟩
    intro familyId family
    cases family
  simp only [RotateToken.step, here] at stepped
  split at stepped
  · split at stepped
    next user found =>
      have same : user.id = record.userId := by simpa using List.find?_some found
      split at stepped
      · cases stepped
        exact ⟨inactive, by simp [here, RotatePc.remaining]⟩
      · cases stepped
        exact ⟨⟨locked, inserted, bounded, effect, knows, same⟩, by simp [here, RotatePc.remaining]⟩
    · cases stepped
      exact ⟨inactive, by simp [here, RotatePc.remaining]⟩
  · cases stepped
    exact ⟨thrown c (.inl rfl) unlock inserted bounded effect, by simp [here, RotatePc.remaining]⟩

theorem step_create (alone : RunsAlone env rows s c) {record : RefreshToken} {user : User}
    {customerId : Option Id} (here : c.pc = .create record user customerId)
    (stepped : c.step env s a = some (s', c')) :
    RunsAlone env rows s' c' ∧ c'.pc.remaining rows.length < c.pc.remaining rows.length := by
  have unlock := alone.unlock
  obtain ⟨locked, inserted, bounded, effect, knows⟩ := alone
  simp only [RotateToken.holds, here] at locked
  rw [here] at inserted effect knows
  obtain ⟨presented, same⟩ := knows
  have failed : RunsAlone env rows (s.unlock c.holds) (c.goto .internalError) :=
    thrown c (.inl rfl) unlock inserted bounded effect
  simp only [RotateToken.step, here] at stepped
  split at stepped
  · split at stepped
    · cases stepped
    split at stepped
    · cases stepped
      exact ⟨failed, by simp [here, RotatePc.remaining]⟩
    · cases stepped
      -- the new row is locked by its own transaction until the end
      have fresh : ∀ r ∈ rows, r.id ≠ s.nextId := fun r member => (bounded r member).ne
      refine ⟨⟨fun id => ?_, ?_, fun r member => Nat.lt_succ_of_lt (bounded r member), effect,
        presented, fresh, same, rfl, rfl⟩, by simp [here, RotatePc.remaining]⟩
      · simp only [TokenStore.lock, Function.update_apply, locked, RotateToken.holds, RotateToken.goto_pc]
        split
        next own => simp [own, TokenStore.newRow]
        next other =>
          have other : id ≠ s.nextId := other
          simp [other, TokenStore.newRow]
      · have none : s.inserted = [] := inserted
        simp only [none, List.nil_append, RotatePc.insertedRows, RotateToken.goto_pc]
  · cases stepped
    exact ⟨failed, by simp [here, RotatePc.remaining]⟩

/-- The transaction takes its new row back. -/
theorem discarded (alone : RunsAlone env rows s c) {r : Rotation}
    (opened : c.pc.insertedRows = [r.newRecord]) (same : s.refreshTokens = rows) :
    RunsAlone env rows ((s.discard r.newRecord).unlock c.holds) (c.goto .internalError) := by
  refine thrown c (.inl rfl) alone.unlock ?_ alone.bounded same
  have inserted : s.inserted = [r.newRecord] := alone.inserted.trans opened
  simp [TokenStore.discard, TokenStore.unlock, inserted]

theorem step_update (alone : RunsAlone env rows s c) {r : Rotation} (here : c.pc = .update r)
    (stepped : c.step env s a = some (s', c')) :
    RunsAlone env rows s' c' ∧ c'.pc.remaining rows.length < c.pc.remaining rows.length := by
  have effect := alone.effect
  rw [here] at effect
  have failed := alone.discarded (r := r) (by rw [here]; rfl) effect
  obtain ⟨locked, inserted, bounded, -, knows⟩ := alone
  simp only [RotateToken.holds, here] at locked
  rw [here] at inserted knows
  simp only [RotateToken.step, here] at stepped
  split at stepped
  · cases stepped
    exact ⟨⟨locked, inserted, bounded, effect, knows⟩, by simp [here, RotatePc.remaining]⟩
  · cases stepped
    exact ⟨failed, by simp [here, RotatePc.remaining]⟩

theorem step_commit (distinct : (rows.map (·.id)).Nodup) (alone : RunsAlone env rows s c)
    {r : Rotation} {usedAt : Millis} (here : c.pc = .commit r usedAt)
    (stepped : c.step env s a = some (s', c')) :
    RunsAlone env rows s' c' ∧ c'.pc.remaining rows.length < c.pc.remaining rows.length := by
  have effect := alone.effect
  rw [here] at effect
  have failed := alone.discarded (r := r) (by rw [here]; rfl) effect
  have unlock := alone.unlock
  obtain ⟨-, inserted, bounded, -, knows⟩ := alone
  rw [here] at inserted knows
  obtain ⟨⟨presented, live⟩, succeeds⟩ := knows
  simp only [RotateToken.step, here] at stepped
  split at stepped
  · cases stepped
    have inserted : s.inserted = [r.newRecord] := inserted
    have rows_eq : s.refreshTokens = rows := effect
    refine ⟨⟨unlock, ?_, bounded, ⟨presented, live, succeeds, usedAt, ?_⟩, trivial⟩,
      by simp [here, RotatePc.remaining]⟩
    · simp [TokenStore.unlock, TokenStore.discard, TokenStore.updateRows, inserted,
        RotatePc.insertedRows]
    · simp only [TokenStore.unlock, TokenStore.discard, TokenStore.updateRows, rows_eq]
      congr 1
      refine List.map_congr_left fun row member => ?_
      -- the id names the row
      by_cases same : row = r.record
      · simp [same]
      · have other : row.id ≠ r.record.id := fun id =>
          same (List.inj_on_of_nodup_map distinct member presented.found id)
        simp [same, other]
  · cases stepped
    exact ⟨failed, by simp [here, RotatePc.remaining]⟩

theorem step_rollback (alone : RunsAlone env rows s c) {record : RefreshToken} {error : AppError}
    {family : Option Id} (here : c.pc = .rollback record error family)
    (stepped : c.step env s a = some (s', c')) :
    RunsAlone env rows s' c' ∧ c'.pc.remaining rows.length < c.pc.remaining rows.length := by
  have unlock := alone.unlock
  obtain ⟨-, inserted, bounded, effect, knows⟩ := alone
  rw [here] at inserted effect knows
  simp only [RotateToken.step, here] at stepped
  split at stepped
  next familyId =>
    cases stepped
    refine ⟨⟨unlock, inserted, bounded, effect, ⟨record, knows familyId rfl⟩, trivial⟩, ?_⟩
    simp [here, RotatePc.remaining]
  · cases stepped
    exact ⟨thrown c (.inr ⟨_, rfl⟩) unlock inserted bounded effect, by simp [here, RotatePc.remaining]⟩

/-- The row of an id that the bulk update comes to is one that it is to revoke. -/
theorem selected (distinct : (rows.map (·.id)).Nodup) {familyId id : Id} {waiting held : List Id}
    {revokedAt : Millis} (visits : (RevokePc.visit waiting held revokedAt).Visits rows familyId)
    (same : s.refreshTokens = rows) (member : id ∈ waiting ++ held) :
    ∃ row, s.findById id = some row ∧ row ∈ rows ∧ row.id = id ∧
      (RevokeWhere.familyId familyId).selects row = true := by
  obtain ⟨r, there, rfl, of_family, live⟩ := (visits.2.2 id).mp member
  obtain ⟨row, found⟩ : ∃ row, s.findById r.id = some row := by
    refine Option.isSome_iff_exists.mp (List.find?_isSome.mpr ⟨r, same ▸ there, ?_⟩)
    exact beq_self_eq_true r.id
  obtain ⟨present, row_id⟩ := TokenStore.findById_some found
  obtain rfl := List.inj_on_of_nodup_map distinct (same ▸ present) there row_id
  exact ⟨row, found, there, rfl, by simp [RevokeWhere.selects, of_family, live]⟩

/-- The rows of the snapshot are those to visit. -/
theorem visits_snapshot (distinct : (rows.map (·.id)).Nodup) (familyId : Id) (revokedAt : Millis) :
    (RevokePc.visit ((rows.filter (RevokeWhere.familyId familyId).selects).map (·.id)) []
      revokedAt).Visits rows familyId := by
  refine ⟨?_, ?_, fun id => ?_⟩
  · rw [List.append_nil]
    exact distinct.sublist (List.filter_sublist.map _)
  · rw [List.length_map]
    exact List.length_filter_le _ _
  · rw [List.append_nil, List.mem_map]
    constructor
    · rintro ⟨r, member, rfl⟩
      obtain ⟨member, selected⟩ := List.mem_filter.mp member
      exact ⟨r, member, rfl, by simpa [RevokeWhere.selects] using selected⟩
    · rintro ⟨r, member, rfl, selected⟩
      exact ⟨r, List.mem_filter.mpr ⟨member, by simpa [RevokeWhere.selects] using selected⟩, rfl⟩

/-- A row moves from the ones that wait to the ones that are held. -/
theorem visits_lock {familyId id : Id} {waiting held : List Id} {revokedAt : Millis} {pick : ℕ}
    (visits : (RevokePc.visit waiting held revokedAt).Visits rows familyId)
    (picked : waiting[pick]? = some id) :
    (RevokePc.visit (waiting.eraseIdx pick) (held ++ [id]) revokedAt).Visits rows familyId := by
  obtain ⟨inside, picked⟩ := List.getElem?_eq_some_iff.mp picked
  have moved : (waiting.eraseIdx pick ++ (held ++ [id])).Perm (waiting ++ held) := by
    have erased := List.getElem_cons_eraseIdx_perm inside
    rw [picked] at erased
    rw [← List.append_assoc]
    exact (List.perm_append_singleton _ _).trans (erased.append_right held)
  refine ⟨moved.nodup_iff.mpr visits.1, (List.length_eraseIdx_le _ _).trans visits.2.1, fun id => ?_⟩
  rw [moved.mem_iff]
  exact visits.2.2 id

/-- When no row waits, the ones that are held are those to revoke. -/
theorem visits_finish (distinct : (rows.map (·.id)).Nodup) {familyId : Id} {held : List Id}
    {revokedAt : Millis} (visits : (RevokePc.visit [] held revokedAt).Visits rows familyId)
    {row : RefreshToken} (member : row ∈ rows) :
    held.contains row.id = true ↔ row.familyId = familyId ∧ row.revokedAt = none := by
  rw [List.contains_iff_mem, ← List.nil_append held, visits.2.2 row.id]
  constructor
  · rintro ⟨r, there, of_id, selected⟩
    rwa [← List.inj_on_of_nodup_map distinct there member of_id]
  · exact fun selected => ⟨row, member, rfl, selected⟩

theorem step_revoke (distinct : (rows.map (·.id)).Nodup) (alone : RunsAlone env rows s c)
    {familyId : Id} {pc : RevokePc} (here : c.pc = .revoke familyId pc)
    (stepped : c.step env s a = some (s', c')) :
    RunsAlone env rows s' c' ∧ c'.pc.remaining rows.length < c.pc.remaining rows.length := by
  have unlock := alone.unlock
  obtain ⟨locked, inserted, bounded, effect, knows⟩ := alone
  rw [here] at inserted effect knows
  have same : s.refreshTokens = rows := effect
  have holds : c.holds = pc.holds := by
    funext id
    rw [RotateToken.holds, here]
  rw [holds] at locked unlock
  obtain ⟨reused, visits⟩ := knows
  simp only [RotateToken.step, here] at stepped
  split at stepped
  -- the bulk update has ended, failed or goes on
  next count ended =>
    cases stepped
    cases RevokePc.step_move ended with
    | finish held revokedAt =>
      refine ⟨⟨unlock, inserted, bounded, ⟨reused, revokedAt, ?_⟩, trivial⟩, ?_⟩
      · simp only [TokenStore.unlock, TokenStore.revoke, TokenStore.updateRows, same]
        exact List.map_congr_left fun row member => by simp only [visits_finish distinct visits member]
      · simp [here, RotatePc.remaining]
  next ended =>
    cases stepped
    cases RevokePc.step_move ended with
    | refused =>
      exact ⟨thrown c (.inl rfl) locked inserted bounded same, by simp [here, RotatePc.remaining]⟩
    | abort waiting held revokedAt =>
      exact ⟨thrown c (.inl rfl) unlock inserted bounded same, by simp [here, RotatePc.remaining]⟩
  next notDone notFailed moved =>
    cases stepped
    cases RevokePc.step_move moved with
    | snapshot revokedAt =>
      have visits := visits_snapshot distinct familyId revokedAt
      rw [← same] at visits
      refine ⟨⟨locked, inserted, bounded, same, reused, same ▸ visits⟩, ?_⟩
      have few := visits.2.1
      simp only [here, RotatePc.remaining, RotateToken.goto_pc]
      rw [same] at few ⊢
      omega
    | lock waiting held revokedAt pick row picked found free =>
      have inside := (List.getElem?_eq_some_iff.mp picked).1
      refine ⟨⟨fun id => ?_, inserted, bounded, same, reused, visits_lock visits picked⟩, ?_⟩
      · simp only [TokenStore.lock, Function.update_apply, locked, RotateToken.holds, RotateToken.goto_pc,
          RevokePc.holds]
        by_cases own : id = row.id
        · simp [own]
        · simp [own]
      · simp only [here, RotatePc.remaining, RotateToken.goto_pc, List.length_eraseIdx_of_lt inside]
        omega
    -- only a row of the family that is not revoked can wait
    | pass waiting held revokedAt pick id picked unselected =>
      have member : id ∈ waiting ++ held := List.mem_append_left _ (List.mem_of_getElem? picked)
      obtain ⟨row, found, -, -, selects⟩ := selected distinct visits same member
      rw [unselected row found] at selects
      cases selects
    | finish => exact (notDone _ rfl).elim
    | refused | abort => exact (notFailed rfl).elim
  · cases stepped

/-- A statement keeps what is known of the call, and it has fewer left. -/
theorem step (distinct : (rows.map (·.id)).Nodup) (alone : RunsAlone env rows s c)
    (stepped : c.step env s a = some (s', c')) :
    RunsAlone env rows s' c' ∧ c'.pc.remaining rows.length < c.pc.remaining rows.length := by
  cases here : c.pc with
  | select => exact here ▸ alone.step_select here stepped
  | lock id => exact here ▸ alone.step_lock distinct here stepped
  | findUser record => exact here ▸ alone.step_findUser here stepped
  | create record user customerId => exact here ▸ alone.step_create here stepped
  | update r => exact here ▸ alone.step_update here stepped
  | commit r usedAt => exact here ▸ alone.step_commit distinct here stepped
  | rollback record error family => exact here ▸ alone.step_rollback here stepped
  | revoke familyId pc => exact here ▸ alone.step_revoke distinct here stepped
  | rotated | rejected | reuseDetected | internalError => simp [RotateToken.step, here] at stepped

/-- Nothing blocks the call: whether its next statement succeeds or fails, it goes on. -/
theorem progress (distinct : (rows.map (·.id)).Nodup) (alone : RunsAlone env rows s c)
    (running : c.pc.ended = false) (ok : Bool) : ∃ pick, (c.step env s ⟨ok, pick⟩).isSome := by
  refine ⟨0, ?_⟩
  obtain ⟨locked, inserted, -, effect, knows⟩ := alone
  cases here : c.pc with
  | select =>
    simp only [RotateToken.step, here]
    split
    · split <;> rfl
    · rfl
  | lock id =>
    have free : s.locked id = false := by rw [locked, RotateToken.holds, here]
    simp only [RotateToken.step, here, free]
    split
    · simp only [Bool.false_eq_true, if_false]
      split
      · split
        · rfl
        · split <;> rfl
      · rfl
    · rfl
  | findUser record =>
    simp only [RotateToken.step, here]
    split
    · split
      · split <;> rfl
      · rfl
    · rfl
  | create record user customerId =>
    have none : s.inserted = [] := by rw [inserted, here, RotatePc.insertedRows]
    simp only [RotateToken.step, here, TokenStore.awaitsHash, none, List.any_nil, Bool.false_eq_true,
      if_false]
    split
    · split <;> rfl
    · rfl
  | update | commit =>
    simp only [RotateToken.step, here]
    split <;> rfl
  | rollback record error family =>
    simp only [RotateToken.step, here]
    split <;> rfl
  | revoke familyId pc =>
    rw [here] at effect knows
    -- it is enough that the bulk update goes on
    suffices goes : (pc.step s (.familyId familyId) ⟨ok, 0⟩).isSome by
      obtain ⟨⟨s', pc'⟩, moved⟩ := Option.isSome_iff_exists.mp goes
      simp only [RotateToken.step, here, moved]
      cases pc' <;> rfl
    cases pc with
    | start => cases ok <;> rfl
    | visit waiting held revokedAt =>
      cases ok with
      | false => rfl
      | true =>
        cases waiting with
        | nil => rfl
        | cons id waiting =>
          obtain ⟨row, found, -, -, selects⟩ :=
            selected distinct knows.2 effect (List.mem_cons_self (a := id))
          have free : s.locked id = false := by
            have apart : id ∉ held := fun member =>
              (List.nodup_cons.mp knows.2.1).1 (List.mem_append_right _ member)
            rw [locked, RotateToken.holds, here]
            simpa [RevokePc.holds] using apart
          simp only [RevokePc.step, List.getElem?_cons_zero, free, found, selects, if_true,
            Bool.false_eq_true, if_false, Option.isSome_some]
    | done | failed => exact knows.2.elim
  | rotated | rejected | reuseDetected | internalError =>
    rw [here] at running
    cases running

end RunsAlone

/-! ### Runs -/

section Runs

variable {env : SessionEnv} {p q : TokenPool} {rows : List RefreshToken} {rawToken : String}

/-- The one call of the pool is for this token and runs alone, with at most so many statements
left. -/
def OnlyRotation (env : SessionEnv) (rows : List RefreshToken) (rawToken : String) (left : ℕ)
    (p : TokenPool) : Prop :=
  ∃ c, p.threads = [.rotateToken c] ∧ c.rawToken = rawToken ∧ RunsAlone env rows p.shared c ∧
    c.pc.remaining rows.length ≤ left

theorem OnlyRotation.step (distinct : (rows.map (·.id)).Nodup) {left : ℕ}
    (only : OnlyRotation env rows rawToken left p) {l : TokenLabel} (quiet : RunsNoOther l)
    (taken : Pool.step (tokenProgram env) p l = some q) :
    OnlyRotation env rows rawToken (left - if isStatement l then 1 else 0) q ∧
      (if isStatement l then 1 else 0) ≤ left := by
  obtain ⟨c, single, same_token, alone, few⟩ := only
  cases l with
  | resume i a =>
    obtain ⟨t, s', u, found, resumed, rfl⟩ := step_resume taken
    rw [single] at found
    obtain ⟨rfl, rfl⟩ : i = 0 ∧ t = .rotateToken c := by
      cases i with
      | zero => exact ⟨rfl, (Option.some.inj found).symm⟩
      | succ i => cases found
    obtain ⟨⟨w, c'⟩, stepped, same⟩ := Option.map_eq_some_iff.mp resumed
    cases same
    obtain ⟨kept, fewer⟩ := alone.step distinct stepped
    refine ⟨⟨c', by simp [single], (RunsAlone.step_rawToken stepped).trans same_token, kept, ?_⟩, ?_⟩
    · simp only [isStatement, if_true]
      omega
    · simp only [isStatement, if_true]
      omega
  | external event =>
    obtain ⟨s', born, acted, rfl⟩ := step_external taken
    cases event with
    | tick d =>
      cases acted
      exact ⟨⟨c, by simp [single], same_token, ⟨alone.locked, alone.inserted, alone.bounded, alone.effect,
        alone.knows⟩, few⟩, Nat.zero_le _⟩
    | users users customerUsers =>
      cases acted
      exact ⟨⟨c, by simp [single], same_token, ⟨alone.locked, alone.inserted, alone.bounded, alone.effect,
        alone.knows⟩, few⟩, Nat.zero_le _⟩
    | createInitialToken | rotateToken | revokeFamilyByToken | revokeAllUserTokens => exact quiet.elim

theorem OnlyRotation.run (distinct : (rows.map (·.id)).Nodup) {left : ℕ}
    (only : OnlyRotation env rows rawToken left p) {es : List TokenLabel} (quiet : ∀ l ∈ es, RunsNoOther l)
    (reached : Transition.run (Pool.step (tokenProgram env)) p es = some q) :
    (∃ left, OnlyRotation env rows rawToken left q) ∧ es.countP isStatement ≤ left := by
  induction es generalizing p left with
  | nil =>
    cases reached
    exact ⟨⟨left, only⟩, Nat.zero_le _⟩
  | cons l es ih =>
    obtain ⟨t, taken, rest⟩ := run_cons reached
    rw [List.forall_mem_cons] at quiet
    obtain ⟨next, enough⟩ := only.step distinct quiet.1 taken
    obtain ⟨later, few⟩ := ih next quiet.2 rest
    refine ⟨later, ?_⟩
    rw [List.countP_cons]
    omega

end Runs

end SelfOtp
