import Mathlib.Data.List.Nodup
import SelfOtp.Model.RefreshTokens

/-! What one step of a refresh-token call can do to the table, given the rows that the call has
locked before the step and after it. -/
namespace SelfOtp

/-- The new token of a rotation, as long as no one has touched it. -/
structure Rotation.Prepared (s : TokenStore) (r : Rotation) : Prop where
  record : r.record ∈ s.refreshTokens
  live : r.record.revokedAt = none
  inserted : r.newRecord ∈ s.inserted
  family : r.newRecord.familyId = r.record.familyId
  user : r.newRecord.userId = r.record.userId
  unreplaced : r.newRecord.replacedByTokenId = none

namespace TokenStore

def revoke (s : TokenStore) (held : Id → Bool) (revokedAt : Millis) : TokenStore :=
  s.updateRows held fun r => { r with revokedAt := some revokedAt }

def replace (s : TokenStore) (r : Rotation) (usedAt : Millis) : TokenStore :=
  let s := s.updateRows (· == r.record.id) fun row => { row with
    revokedAt := some usedAt, lastUsedAt := some usedAt, replacedByTokenId := some r.newRecord.id }
  { s with refreshTokens := s.refreshTokens ++ [r.newRecord] }.discard r.newRecord

/-- The moves of a call that holds `held` before and `held'` after, and that commits a rotation
with none but the move `rotate`. -/
inductive Move (s : TokenStore) (commits : Option Rotation) (held held' : Id → Bool) :
    TokenStore → Prop
  | stay (keeps : ∀ id, held' id = held id) : Move s commits held held' s
  | lock (row : RefreshToken) (found : row ∈ s.refreshTokens) (free : s.locked row.id = false)
      (gains : ∀ id, held' id = (held id || decide (id = row.id))) :
      Move s commits held held' (s.lock row.id)
  | create (row : RefreshToken) (id : row.id = s.nextId) (family : row.familyId = s.nextId + 1)
      (unreplaced : row.replacedByTokenId = none) (unique : s.hasHash row.tokenHash = false)
      (alone : s.awaitsHash row.tokenHash = false) (keeps : ∀ id, held' id = held id) :
      Move s commits held held' { s with
        nextId := s.nextId + 2, refreshTokens := s.refreshTokens ++ [row] }
  | insert (record row : RefreshToken) (found : record ∈ s.refreshTokens) (id : row.id = s.nextId)
      (family : row.familyId = record.familyId) (unique : s.hasHash row.tokenHash = false)
      (alone : s.awaitsHash row.tokenHash = false)
      (gains : ∀ id, held' id = (held id || decide (id = row.id))) :
      Move s commits held held' { s.lock row.id with nextId := s.nextId + 1, inserted := s.inserted ++ [row] }
  | release (drops : ∀ id, held' id = false) : Move s commits held held' (s.unlock held)
  | abort (row : RefreshToken) (own : held row.id = true) (drops : ∀ id, held' id = false) :
      Move s commits held held' ((s.discard row).unlock held)
  | rotate (r : Rotation) (usedAt : Millis) (committed : commits = some r) (prepared : r.Prepared s)
      (own : held r.record.id = true ∧ held r.newRecord.id = true)
      (drops : ∀ id, held' id = false) :
      Move s commits held held' ((s.replace r usedAt).unlock held)
  | revoke (revokedAt : Millis) (drops : ∀ id, held' id = false) :
      Move s commits held held' ((s.revoke held revokedAt).unlock held)

end TokenStore

variable {env : SessionEnv} {s s' : TokenStore} {a : TokenAnswer}

theorem TokenStore.findById_some {id : Id} {r : RefreshToken} (found : s.findById id = some r) :
    r ∈ s.refreshTokens ∧ r.id = id := by
  constructor
  · exact List.mem_of_find?_eq_some found
  · simpa using List.find?_some found

/-- No two rows of the table share an id. -/
def TokenStore.DistinctIds (s : TokenStore) : Prop := (s.refreshTokens.map (·.id)).Nodup

theorem TokenStore.DistinctIds.eq {r t : RefreshToken} (distinct : s.DistinctIds)
    (row : r ∈ s.refreshTokens) (other : t ∈ s.refreshTokens) (same : r.id = t.id) : r = t :=
  List.inj_on_of_nodup_map distinct row other same

theorem TokenStore.findByHash_some {tokenHash : String} {r : RefreshToken}
    (found : s.findByHash tokenHash = some r) :
    r ∈ s.refreshTokens ∧ r.tokenHash = tokenHash := by
  constructor
  · exact List.mem_of_find?_eq_some found
  · simpa using List.find?_some found

/-! ### `updateMany` -/

namespace RevokePc

/-- The moves of an `updateMany`: the snapshot, a row that it locks or passes by, the end of
the statement and its failure. -/
inductive Move (s : TokenStore) (condition : RevokeWhere) :
    RevokePc → TokenStore → RevokePc → Prop
  | snapshot (revokedAt : Millis) :
      Move s condition .start s
        (.visit ((s.refreshTokens.filter condition.selects).map (·.id)) [] revokedAt)
  | refused : Move s condition .start s .failed
  | lock (waiting held : List Id) (revokedAt : Millis) (pick : ℕ) (row : RefreshToken)
      (picked : waiting[pick]? = some row.id) (found : s.findById row.id = some row)
      (free : s.locked row.id = false) :
      Move s condition (.visit waiting held revokedAt) (s.lock row.id)
        (.visit (waiting.eraseIdx pick) (held ++ [row.id]) revokedAt)
  | pass (waiting held : List Id) (revokedAt : Millis) (pick : ℕ) (id : Id)
      (picked : waiting[pick]? = some id)
      (unselected : ∀ row, s.findById id = some row → condition.selects row = false) :
      Move s condition (.visit waiting held revokedAt) s
        (.visit (waiting.eraseIdx pick) held revokedAt)
  | finish (held : List Id) (revokedAt : Millis) :
      Move s condition (.visit [] held revokedAt)
        ((s.revoke held.contains revokedAt).unlock held.contains) (.done held.length)
  | abort (waiting held : List Id) (revokedAt : Millis) :
      Move s condition (.visit waiting held revokedAt) (s.unlock held.contains) .failed

theorem step_move {condition : RevokeWhere} {pc pc' : RevokePc}
    (stepped : pc.step s condition a = some (s', pc')) : Move s condition pc s' pc' := by
  cases pc with
  | start =>
    simp only [step] at stepped
    split at stepped
    · cases stepped
      exact .snapshot s.now
    · cases stepped
      exact .refused
  | visit waiting held revokedAt =>
    simp only [step] at stepped
    split at stepped
    · split at stepped
      next id picked =>
        split at stepped
        · cases stepped
        next free =>
          have unlocked : s.locked id = false := Bool.eq_false_iff.mpr free
          split at stepped
          next row found =>
            obtain rfl : row.id = id := (TokenStore.findById_some found).2
            split at stepped
            · cases stepped
              exact .lock waiting held revokedAt a.pick row picked found unlocked
            next unselected =>
              cases stepped
              refine .pass waiting held revokedAt a.pick row.id picked fun other same => ?_
              rw [found] at same
              cases same
              exact Bool.eq_false_iff.mpr unselected
          next missing =>
            cases stepped
            refine .pass waiting held revokedAt a.pick id picked fun other same => ?_
            rw [missing] at same
            cases same
      · split at stepped
        next empty =>
          cases stepped
          subst empty
          exact .finish held revokedAt
        · cases stepped
    · cases stepped
      exact .abort waiting held revokedAt
  | done => cases stepped
  | failed => cases stepped

/-- The moves of an `updateMany` on the table. -/
theorem Move.store {condition : RevokeWhere} {pc pc' : RevokePc}
    (move : Move s condition pc s' pc') : s.Move none pc.holds pc'.holds s' := by
  cases move with
  | snapshot => exact .stay fun id => (by simp [holds])
  | refused => exact .stay fun id => rfl
  | lock waiting held revokedAt pick row picked found free =>
    refine .lock row (TokenStore.findById_some found).1 free fun id => ?_
    simp [holds, Bool.decide_or]
  | pass => exact .stay fun id => rfl
  | finish held revokedAt => exact .revoke revokedAt fun id => rfl
  | abort waiting held => exact .release fun id => rfl

end RevokePc

/-! ### createInitialToken -/

theorem CreateInitialToken.step_move {c c' : CreateInitialToken}
    (stepped : c.step env s a = some (s', c')) :
    s.Move none (fun _ => false) (fun _ => false) s' := by
  unfold step at stepped
  split at stepped
  · split at stepped
    · dsimp only at stepped
      split at stepped
      · cases stepped
      next alone =>
        split at stepped
        · cases stepped
          exact .stay fun _ => rfl
        next unique =>
          cases stepped
          exact .create _ rfl rfl rfl (Bool.eq_false_iff.mpr unique) (Bool.eq_false_iff.mpr alone)
            fun _ => rfl
    · cases stepped
      exact .stay fun _ => rfl
  · cases stepped
  · cases stepped

/-! ### rotateToken -/

namespace RotateToken

variable {c c' : RotateToken}

/-- The row that the call has locked: it is as it was read, and it has not been revoked. -/
structure Locked (env : SessionEnv) (s : TokenStore) (rawToken : String) (record : RefreshToken) :
    Prop where
  found : record ∈ s.refreshTokens
  live : record.revokedAt = none
  hash : record.tokenHash = hashRefreshToken env.toEnv rawToken

/-- The rotation that the call commits when its next statement succeeds. -/
def commits (c : RotateToken) (a : TokenAnswer) : Option Rotation :=
  match c.pc with
  | .commit r _ => if a.ok then some r else none
  | .select | .lock _ | .findUser _ | .create .. | .update _ | .rollback .. | .revoke .. | .rotated _
  | .rejected _ | .reuseDetected _ | .internalError => none

/-- What a call may rely on at each of its positions. -/
def Sound (env : SessionEnv) (s : TokenStore) (c : RotateToken) : Prop :=
  match c.pc with
  | .lock id => ∃ row ∈ s.refreshTokens,
      row.id = id ∧ row.tokenHash = hashRefreshToken env.toEnv c.rawToken
  | .findUser record => Locked env s c.rawToken record
  | .create record user _ => Locked env s c.rawToken record ∧ user.id = record.userId
  | .update r | .commit r _ => Locked env s c.rawToken r.record ∧ r.Prepared s
  | .rotated r => ∃ row ∈ s.refreshTokens,
      row.tokenHash = hashRefreshToken env.toEnv c.rawToken ∧ row.familyId = r.record.familyId ∧
        row.revokedAt.isSome
  | .select | .rollback .. | .revoke .. | .rejected _ | .reuseDetected _ | .internalError => True

theorem step_move (distinct : s.DistinctIds) (sound : c.Sound env s)
    (stepped : c.step env s a = some (s', c')) :
    s.Move (c.commits a) c.holds c'.holds s' ∧ c'.Sound env s' := by
  obtain ⟨rawToken, newRawToken, pc⟩ := c
  cases pc with
  | select =>
    simp only [step] at stepped
    split at stepped
    · split at stepped
      next record found =>
        cases stepped
        obtain ⟨member, hash⟩ := TokenStore.findByHash_some found
        exact ⟨.stay fun _ => rfl, record, member, rfl, hash⟩
      · cases stepped
        exact ⟨.stay fun _ => rfl, trivial⟩
    · cases stepped
      exact ⟨.stay fun _ => rfl, trivial⟩
  | lock id =>
    obtain ⟨row, member, rfl, hash⟩ := sound
    simp only [step] at stepped
    split at stepped
    · split at stepped
      · cases stepped
      next free =>
        split at stepped
        next record found =>
          obtain ⟨here, same⟩ := TokenStore.findById_some found
          -- it is still the row that the hash selected
          obtain rfl := distinct.eq here member same
          have lock (pc : RotatePc)
              (gains : ∀ id, (RotateToken.mk rawToken newRawToken pc).holds id =
                (id == record.id)) :
              s.Move none (RotateToken.mk rawToken newRawToken (.lock record.id)).holds
                (RotateToken.mk rawToken newRawToken pc).holds (s.lock record.id) := by
            refine .lock record here (Bool.eq_false_iff.mpr free) fun id => ?_
            rw [gains id]
            rfl
          split at stepped
          · cases stepped
            exact ⟨lock _ fun _ => rfl, trivial⟩
          next live =>
            split at stepped
            · cases stepped
              exact ⟨lock _ fun _ => rfl, trivial⟩
            · cases stepped
              have live : record.revokedAt = none := by simpa using live
              exact ⟨lock _ fun _ => rfl, here, live, hash⟩
        · cases stepped
          exact ⟨.stay fun _ => rfl, trivial⟩
    · cases stepped
      exact ⟨.stay fun _ => rfl, trivial⟩
  | findUser record =>
    simp only [step] at stepped
    split at stepped
    · split at stepped
      next user found =>
        have same : user.id = record.userId := by simpa using List.find?_some found
        split at stepped
        · cases stepped
          exact ⟨.stay fun _ => rfl, trivial⟩
        · cases stepped
          exact ⟨.stay fun _ => rfl, sound, same⟩
      · cases stepped
        exact ⟨.stay fun _ => rfl, trivial⟩
    · cases stepped
      exact ⟨.release fun _ => rfl, trivial⟩
  | create record user customerId =>
    obtain ⟨locked, same⟩ := sound
    simp only [step] at stepped
    split at stepped
    · split at stepped
      · cases stepped
      next alone =>
        split at stepped
        · cases stepped
          exact ⟨.release fun _ => rfl, trivial⟩
        next unique =>
          cases stepped
          refine ⟨.insert record _ locked.found rfl rfl (Bool.eq_false_iff.mpr unique)
            (Bool.eq_false_iff.mpr alone) fun id => rfl, ?_, ?_⟩
          · exact ⟨locked.found, locked.live, locked.hash⟩
          · exact ⟨locked.found, locked.live, List.mem_append_right _ (List.mem_singleton_self _),
              rfl, same, rfl⟩
    · cases stepped
      exact ⟨.release fun _ => rfl, trivial⟩
  | update r =>
    obtain ⟨locked, prepared⟩ := sound
    simp only [step] at stepped
    split at stepped
    · cases stepped
      exact ⟨.stay fun _ => rfl, locked, prepared⟩
    · cases stepped
      exact ⟨.abort r.newRecord (by simp [holds]) fun _ => rfl, trivial⟩
  | commit r usedAt =>
    obtain ⟨locked, prepared⟩ := sound
    simp only [step] at stepped
    split at stepped
    next up =>
      cases stepped
      refine ⟨.rotate r usedAt (if_pos up) prepared (by simp [holds]) fun _ => rfl, ?_⟩
      refine ⟨_, List.mem_append_left _ (List.mem_map_of_mem locked.found), ?_⟩
      simpa [TokenStore.updateRows, goto] using locked.hash
    · cases stepped
      exact ⟨.abort r.newRecord (by simp [holds]) fun _ => rfl, trivial⟩
  | rollback record error family =>
    simp only [step] at stepped
    split at stepped
    · cases stepped
      exact ⟨.release fun _ => rfl, trivial⟩
    · cases stepped
      exact ⟨.release fun _ => rfl, trivial⟩
  | revoke familyId pc =>
    simp only [step] at stepped
    split at stepped
    next s count stopped =>
      cases stepped
      exact ⟨(RevokePc.step_move stopped).store, trivial⟩
    next s stopped =>
      cases stepped
      exact ⟨(RevokePc.step_move stopped).store, trivial⟩
    next s pc moved =>
      cases stepped
      exact ⟨(RevokePc.step_move moved).store, trivial⟩
    · cases stepped
  | rotated | rejected | reuseDetected | internalError => cases stepped

/-- A call that has rotated its token has just committed. -/
theorem step_rotated {r : Rotation} (stepped : c.step env s a = some (s', c'))
    (rotated : c'.pc = .rotated r) :
    a.ok = true ∧ (∃ usedAt, c.pc = .commit r usedAt) ∧ c'.rawToken = c.rawToken := by
  obtain ⟨rawToken, newRawToken, pc⟩ := c
  simp only [step] at stepped
  (repeat' split at stepped) <;> cases stepped <;> simp_all [goto]

end RotateToken

/-! ### The calls together -/

theorem RevokeFamilyByToken.step_move {c c' : RevokeFamilyByToken}
    (stepped : c.step env s a = some (s', c')) :
    s.Move none (TokenCall.revokeFamilyByToken c).holds (TokenCall.revokeFamilyByToken c').holds s' := by
  obtain ⟨rawToken, pc⟩ := c
  cases pc with
  | find =>
    simp only [step] at stepped
    split at stepped
    · split at stepped
      · cases stepped
        exact .stay fun _ => rfl
      · cases stepped
        exact .stay fun _ => rfl
    · cases stepped
      exact .stay fun _ => rfl
  | revoke familyId pc =>
    simp only [step] at stepped
    split at stepped
    next s count stopped =>
      cases stepped
      exact (RevokePc.step_move stopped).store
    next s stopped =>
      cases stepped
      exact (RevokePc.step_move stopped).store
    next s pc moved =>
      cases stepped
      exact (RevokePc.step_move moved).store
    · cases stepped
  | revoked | unknown | internalError => cases stepped

namespace TokenCall

variable {call call' : TokenCall}

def Sound (env : SessionEnv) (s : TokenStore) : TokenCall → Prop
  | rotateToken c => c.Sound env s
  | createInitialToken _ | revokeFamilyByToken _ | revokeAllUserTokens _ => True

def commits : TokenCall → TokenAnswer → Option Rotation
  | rotateToken c, a => c.commits a
  | createInitialToken _, _ | revokeFamilyByToken _, _ | revokeAllUserTokens _, _ => none

theorem resume_rotateToken {c' : RotateToken}
    (resumed : call.resume env s a = some (s', rotateToken c')) :
    ∃ c, call = rotateToken c ∧ c.step env s a = some (s', c') := by
  cases call with
  | rotateToken c =>
    obtain ⟨⟨s', c'⟩, stepped, same⟩ := Option.map_eq_some_iff.mp resumed
    cases same
    exact ⟨c, rfl, stepped⟩
  | createInitialToken c | revokeFamilyByToken c | revokeAllUserTokens c =>
    obtain ⟨next, -, same⟩ := Option.map_eq_some_iff.mp resumed
    cases same

theorem resume_move (distinct : s.DistinctIds) (sound : call.Sound env s)
    (resumed : call.resume env s a = some (s', call')) :
    s.Move (call.commits a) call.holds call'.holds s' ∧ call'.Sound env s' := by
  cases call with
  | createInitialToken c =>
    obtain ⟨⟨s', c'⟩, stepped, same⟩ := Option.map_eq_some_iff.mp resumed
    cases same
    exact ⟨c.step_move stepped, trivial⟩
  | rotateToken c =>
    obtain ⟨⟨s', c'⟩, stepped, same⟩ := Option.map_eq_some_iff.mp resumed
    cases same
    exact c.step_move distinct sound stepped
  | revokeFamilyByToken c =>
    obtain ⟨⟨s', c'⟩, stepped, same⟩ := Option.map_eq_some_iff.mp resumed
    cases same
    exact ⟨c.step_move stepped, trivial⟩
  | revokeAllUserTokens c =>
    obtain ⟨⟨s', c'⟩, stepped, same⟩ := Option.map_eq_some_iff.mp resumed
    cases same
    obtain ⟨⟨s', pc⟩, moved, same⟩ := Option.map_eq_some_iff.mp stepped
    cases same
    exact ⟨(RevokePc.step_move moved).store, trivial⟩

end TokenCall

end SelfOtp
