import SelfOtp.Properties.TokenLineage

/-! A family that has been revoked stays dead, as long as no rotation of it commits while the
revoking `updateMany` is under way. -/
namespace SelfOtp

/-- Every token of the family is revoked. -/
structure TokenStore.Dead (s : TokenStore) (familyId : Id) : Prop where
  known : familyId < s.nextId
  revoked : ∀ r ∈ s.refreshTokens, r.familyId = familyId → r.revokedAt.isSome

/-- The `updateMany` has taken its snapshot and has not ended. -/
def RevokePc.isVisiting : RevokePc → Bool
  | visit .. => true
  | start | done _ | failed => false

/-- Every live token of the family is among the rows that the `updateMany` is to lock or has
locked; once it is done there is none. -/
def RevokePc.Covers (s : TokenStore) (familyId : Id) : RevokePc → Prop
  | visit waiting held _ => ∀ r ∈ s.refreshTokens, r.familyId = familyId → r.revokedAt = none →
      r.id ∈ waiting ∨ r.id ∈ held
  | done _ => s.Dead familyId
  | start | failed => True

namespace TokenCall

/-- The call is revoking this family. -/
def visits (familyId : Id) : TokenCall → Bool
  | rotateToken c =>
    match c.pc with
    | .revoke f pc => f == familyId && pc.isVisiting
    | .select | .lock _ | .findUser _ | .create .. | .update _ | .commit .. | .rollback ..
    | .rotated _ | .rejected _ | .reuseDetected _ | .internalError => false
  | revokeFamilyByToken c =>
    match c.pc with
    | .revoke f pc => f == familyId && pc.isVisiting
    | .find | .revoked _ | .unknown | .internalError => false
  | createInitialToken _ | revokeAllUserTokens _ => false

/-- The family whose end the call has reported, with `true` or with `TOKEN_REUSE_DETECTED`. -/
def terminated : TokenCall → Option Id
  | rotateToken c =>
    match c.pc with
    | .reuseDetected familyId => some familyId
    | .select | .lock _ | .findUser _ | .create .. | .update _ | .commit .. | .rollback ..
    | .revoke .. | .rotated _ | .rejected _ | .internalError => none
  | revokeFamilyByToken c =>
    match c.pc with
    | .revoked familyId => some familyId
    | .find | .revoke .. | .unknown | .internalError => none
  | createInitialToken _ | revokeAllUserTokens _ => none

/-- The rotation that the call has returned. -/
def rotation : TokenCall → Option Rotation
  | rotateToken c =>
    match c.pc with
    | .rotated r => some r
    | .select | .lock _ | .findUser _ | .create .. | .update _ | .commit .. | .rollback ..
    | .revoke .. | .rejected _ | .reuseDetected _ | .internalError => none
  | createInitialToken _ | revokeFamilyByToken _ | revokeAllUserTokens _ => none

end TokenCall

/-- What a call that revokes a family has made sure of. -/
def RotateToken.Covers (s : TokenStore) (c : RotateToken) : Prop :=
  match c.pc with
  | .rollback _ _ family => ∀ familyId ∈ family, familyId < s.nextId
  | .revoke familyId pc => familyId < s.nextId ∧ pc.Covers s familyId
  | .reuseDetected familyId => s.Dead familyId
  | .select | .lock _ | .findUser _ | .create .. | .update _ | .commit .. | .rotated _
  | .rejected _ | .internalError => True

def RevokeFamilyByToken.Covers (s : TokenStore) (c : RevokeFamilyByToken) : Prop :=
  match c.pc with
  | .revoke familyId pc => familyId < s.nextId ∧ pc.Covers s familyId
  | .revoked familyId => s.Dead familyId
  | .find | .unknown | .internalError => True

def TokenCall.Covers (s : TokenStore) : TokenCall → Prop
  | rotateToken c => c.Covers s
  | revokeFamilyByToken c => c.Covers s
  | createInitialToken _ | revokeAllUserTokens _ => True

section Steps

variable {env : SessionEnv} {s s' : TokenStore} {a : TokenAnswer} {familyId : Id}

theorem mem_eraseIdx_or {l : List Id} {i : ℕ} {x y : Id} (picked : l[i]? = some y)
    (member : x ∈ l) : x = y ∨ x ∈ l.eraseIdx i := by
  obtain ⟨j, found⟩ := List.mem_iff_getElem?.mp member
  by_cases same : j = i
  · subst same
    left
    rw [picked] at found
    exact (Option.some.inj found).symm
  · right
    exact List.mem_eraseIdx_iff_getElem?.mpr ⟨j, same, found⟩

/-- An `updateMany` covers its family from its snapshot on. -/
theorem RevokePc.Move.covers {pc pc' : RevokePc} (distinct : s.DistinctIds)
    (known : familyId < s.nextId) (move : Move s (.familyId familyId) pc s' pc')
    (covers : pc.Covers s familyId) : pc'.Covers s' familyId := by
  cases move with
  | snapshot =>
    intro r member own live
    left
    refine List.mem_map_of_mem (List.mem_filter.mpr ⟨member, ?_⟩)
    simp [RevokeWhere.selects, own, live]
  | refused => trivial
  | lock waiting held revokedAt pick row picked =>
    intro r member own live
    rcases covers r member own live with waits | locked
    · rcases mem_eraseIdx_or picked waits with same | later
      · exact Or.inr (by simp [same])
      · exact Or.inl later
    · exact Or.inr (List.mem_append_left _ locked)
  | pass waiting held revokedAt pick id picked unselected =>
    intro r member own live
    rcases covers r member own live with waits | locked
    · rcases mem_eraseIdx_or picked waits with same | later
      · -- the row that was passed by is not a live one of the family
        have selected := unselected r (by
          obtain ⟨row, found⟩ : ∃ row, s.findById id = some row :=
            Option.isSome_iff_exists.mp (List.find?_isSome.mpr ⟨r, member, by simp [same]⟩)
          obtain ⟨there, same'⟩ := TokenStore.findById_some found
          rw [found, distinct.eq there member (same'.trans same.symm)])
        simp [RevokeWhere.selects, own, live] at selected
      · exact Or.inl later
    · exact Or.inr locked
  | finish held revokedAt =>
    refine ⟨known, fun r member own => ?_⟩
    obtain ⟨old, present, rfl⟩ := List.mem_map.mp member
    by_cases locked : old.id ∈ held
    · simp [locked]
    · simp only [List.contains_iff_mem, locked, if_false] at own ⊢
      by_contra live
      have waits := covers old present own (by simpa using live)
      simp [locked] at waits
  | abort => trivial

/-- Where a live token can come from in a step: it was there, it is the first of a new family, or
a rotation has committed it. -/
structure TokenStore.Grows (s : TokenStore) (commits : Option Rotation) (s' : TokenStore) : Prop where
  nextId : s.nextId ≤ s'.nextId
  live : ∀ row ∈ s'.refreshTokens, row.revokedAt = none →
    row ∈ s.refreshTokens ∨ row.familyId = s.nextId + 1 ∨
      ∃ r, commits = some r ∧ r.Prepared s ∧ row = r.newRecord

variable {commits : Option Rotation} {held held' : Id → Bool}

theorem live_of_updateRows {selected : Id → Bool} {data : RefreshToken → RefreshToken}
    (revokes : ∀ r, (data r).revokedAt.isSome) {row : RefreshToken}
    (member : row ∈ (s.updateRows selected data).refreshTokens) (live : row.revokedAt = none) :
    row ∈ s.refreshTokens := by
  obtain ⟨old, present, rfl | rfl⟩ := TokenStore.mem_updateRows member
  · exact present
  · have revoked := revokes old
    rw [live] at revoked
    cases revoked

theorem TokenStore.Move.grows (move : s.Move commits held held' s') : s.Grows commits s' := by
  cases move with
  | stay | lock | release | abort => exact ⟨le_refl _, fun row member _ => Or.inl member⟩
  | insert => exact ⟨Nat.le_succ _, fun row member _ => Or.inl member⟩
  | create new id family =>
    refine ⟨Nat.le_add_right _ 2, fun row member _ => ?_⟩
    rcases List.mem_append.mp member with old | last
    · exact Or.inl old
    · rw [List.mem_singleton.mp last]
      exact Or.inr (Or.inl family)
  | rotate r usedAt committed prepared =>
    refine ⟨le_refl _, fun row member live => ?_⟩
    rcases List.mem_append.mp member with updated | last
    · exact Or.inl (live_of_updateRows (fun _ => rfl) updated live)
    · exact Or.inr (Or.inr ⟨r, committed, prepared, List.mem_singleton.mp last⟩)
  | revoke revokedAt =>
    exact ⟨le_refl _, fun row member live => Or.inl (live_of_updateRows (fun _ => rfl) member live)⟩

theorem SameTable.grows (same : TokenPool.SameTable s s') : s.Grows none s' := by
  refine ⟨same.nextId.ge, fun row member _ => Or.inl ?_⟩
  rw [← same.refreshTokens]
  exact member

/-- A dead family has no token to rotate. -/
theorem TokenStore.Dead.unprepared (dead : s.Dead familyId) {r : Rotation} (prepared : r.Prepared s) :
    r.record.familyId ≠ familyId := by
  intro own
  have revoked := dead.revoked r.record prepared.record own
  rw [prepared.live] at revoked
  cases revoked

theorem TokenStore.Dead.grows (dead : s.Dead familyId) (grows : s.Grows commits s') :
    s'.Dead familyId := by
  refine ⟨Nat.lt_of_lt_of_le dead.known grows.nextId, fun row member own => ?_⟩
  by_contra live
  rcases grows.live row member (by simpa using live) with old | new | ⟨r, -, prepared, rfl⟩
  · exact live (dead.revoked row old own)
  · exact absurd dead.known (by rw [← own, new]; exact Nat.not_lt.mpr (Nat.le_succ _))
  · exact dead.unprepared prepared (prepared.family.symm.trans own)

/-- A step that commits no rotation of the family leaves it covered. -/
theorem RevokePc.Covers.grows {pc : RevokePc} (covers : pc.Covers s familyId)
    (known : familyId < s.nextId) (grows : s.Grows commits s')
    (apart : pc.isVisiting = true → ∀ r ∈ commits, r.record.familyId ≠ familyId) :
    pc.Covers s' familyId := by
  cases pc with
  | visit waiting held revokedAt =>
    intro row member own live
    rcases grows.live row member live with old | new | ⟨r, committed, prepared, rfl⟩
    · exact covers row old own live
    · exact absurd known (by rw [← own, new]; exact Nat.not_lt.mpr (Nat.le_succ _))
    · exact absurd (prepared.family.symm.trans own) (apart rfl r committed)
  | done count => exact TokenStore.Dead.grows covers grows
  | start | failed => trivial

/-- The step of another call. -/
theorem TokenCall.Covers.grows {call : TokenCall} (covers : call.Covers s)
    (grows : s.Grows commits s')
    (apart : ∀ r ∈ commits, call.visits r.record.familyId = false) : call.Covers s' := by
  have unvisited {f : Id} {pc : RevokePc}
      (visits : ∀ id, call.visits id = (f == id && pc.isVisiting)) :
      pc.isVisiting = true → ∀ r ∈ commits, r.record.familyId ≠ f := by
    rintro visiting r committed rfl
    have absent := apart r committed
    simp [visits, visiting] at absent
  cases call with
  | createInitialToken | revokeAllUserTokens => trivial
  | rotateToken c =>
    obtain ⟨rawToken, newRawToken, pc⟩ := c
    cases pc with
    | rollback record error family =>
      intro f member
      exact Nat.lt_of_lt_of_le (covers f member) grows.nextId
    | revoke f pc =>
      have known := Nat.lt_of_lt_of_le covers.1 grows.nextId
      exact ⟨known, covers.2.grows covers.1 grows (unvisited fun _ => rfl)⟩
    | reuseDetected f => exact TokenStore.Dead.grows covers grows
    | select | lock | findUser | create | update | commit | rotated | rejected | internalError =>
      trivial
  | revokeFamilyByToken c =>
    obtain ⟨rawToken, pc⟩ := c
    cases pc with
    | revoke f pc =>
      have known := Nat.lt_of_lt_of_le covers.1 grows.nextId
      exact ⟨known, covers.2.grows covers.1 grows (unvisited fun _ => rfl)⟩
    | revoked f => exact TokenStore.Dead.grows covers grows
    | find | unknown | internalError => trivial

theorem RotateToken.step_covers {c c' : RotateToken} (table : s.Table) (covers : c.Covers s)
    (stepped : c.step env s a = some (s', c')) : c'.Covers s' := by
  obtain ⟨rawToken, newRawToken, pc⟩ := c
  cases pc with
  | lock id =>
    simp only [step] at stepped
    split at stepped
    · split at stepped
      · cases stepped
      · split at stepped
        next record found =>
          have member := (TokenStore.findById_some found).1
          have known := (table.bounded record (List.mem_append_left _ member)).2
          split at stepped
          · cases stepped
            intro f same
            obtain rfl := Option.some.inj same
            exact known
          · split at stepped
            · cases stepped
              intro f same
              cases same
            · cases stepped
              trivial
        · cases stepped
          trivial
    · cases stepped
      trivial
  | rollback record error family =>
    simp only [step] at stepped
    split at stepped
    next f =>
      cases stepped
      exact ⟨covers f rfl, trivial⟩
    · cases stepped
      trivial
  | revoke f pc =>
    obtain ⟨known, covers⟩ := covers
    simp only [step] at stepped
    split at stepped
    next s count stopped =>
      cases stepped
      exact (RevokePc.step_move stopped).covers table.distinct known covers
    next s stopped =>
      cases stepped
      trivial
    next s pc moved =>
      cases stepped
      have move := RevokePc.step_move moved
      exact ⟨Nat.lt_of_lt_of_le known move.store.grows.nextId, move.covers table.distinct known covers⟩
    · cases stepped
  | select | create | update | commit | findUser | rotated | rejected | reuseDetected
  | internalError =>
    simp only [step] at stepped
    (repeat' split at stepped) <;> cases stepped <;> simp [Covers, goto]

theorem RevokeFamilyByToken.step_covers {c c' : RevokeFamilyByToken} (table : s.Table)
    (covers : c.Covers s) (stepped : c.step env s a = some (s', c')) : c'.Covers s' := by
  obtain ⟨rawToken, pc⟩ := c
  cases pc with
  | find =>
    simp only [step] at stepped
    split at stepped
    · split at stepped
      next record found =>
        cases stepped
        have member := (TokenStore.findByHash_some found).1
        exact ⟨(table.bounded record (List.mem_append_left _ member)).2, trivial⟩
      · cases stepped
        trivial
    · cases stepped
      trivial
  | revoke f pc =>
    obtain ⟨known, covers⟩ := covers
    simp only [step] at stepped
    split at stepped
    next s count stopped =>
      cases stepped
      exact (RevokePc.step_move stopped).covers table.distinct known covers
    next s stopped =>
      cases stepped
      trivial
    next s pc moved =>
      cases stepped
      have move := RevokePc.step_move moved
      exact ⟨Nat.lt_of_lt_of_le known move.store.grows.nextId, move.covers table.distinct known covers⟩
    · cases stepped
  | revoked | unknown | internalError => cases stepped

theorem TokenCall.resume_covers {call call' : TokenCall} (table : s.Table) (covers : call.Covers s)
    (resumed : call.resume env s a = some (s', call')) : call'.Covers s' := by
  cases call with
  | rotateToken c =>
    obtain ⟨⟨s', c'⟩, stepped, same⟩ := Option.map_eq_some_iff.mp resumed
    cases same
    exact c.step_covers table covers stepped
  | revokeFamilyByToken c =>
    obtain ⟨⟨s', c'⟩, stepped, same⟩ := Option.map_eq_some_iff.mp resumed
    cases same
    exact c.step_covers table covers stepped
  | createInitialToken c | revokeAllUserTokens c =>
    obtain ⟨next, -, same⟩ := Option.map_eq_some_iff.mp resumed
    cases same
    trivial

theorem RotateToken.Covers.dead {c : RotateToken} (covers : c.Covers s)
    (terminated : (TokenCall.rotateToken c).terminated = some familyId) : s.Dead familyId := by
  obtain ⟨rawToken, newRawToken, pc⟩ := c
  cases pc with
  | reuseDetected f =>
    obtain rfl := Option.some.inj terminated
    exact covers
  | select | lock | findUser | create | update | commit | rollback | revoke | rotated | rejected
  | internalError => cases terminated

theorem RevokeFamilyByToken.Covers.dead {c : RevokeFamilyByToken} (covers : c.Covers s)
    (terminated : (TokenCall.revokeFamilyByToken c).terminated = some familyId) :
    s.Dead familyId := by
  obtain ⟨rawToken, pc⟩ := c
  cases pc with
  | revoked f =>
    obtain rfl := Option.some.inj terminated
    exact covers
  | find | revoke | unknown | internalError => cases terminated

theorem TokenCall.Covers.dead {call : TokenCall} (covers : call.Covers s)
    (terminated : call.terminated = some familyId) : s.Dead familyId := by
  cases call with
  | rotateToken c => exact RotateToken.Covers.dead covers terminated
  | revokeFamilyByToken c => exact RevokeFamilyByToken.Covers.dead covers terminated
  | createInitialToken | revokeAllUserTokens => cases terminated

theorem TokenCall.rotation_some {call : TokenCall} {r : Rotation} (rotated : call.rotation = some r) :
    ∃ c, call = .rotateToken c ∧ c.pc = .rotated r := by
  cases call with
  | rotateToken c =>
    obtain ⟨rawToken, newRawToken, pc⟩ := c
    cases pc with
    | rotated r' =>
      obtain rfl := Option.some.inj rotated
      exact ⟨_, rfl, rfl⟩
    | select | lock | findUser | create | update | commit | rollback | revoke | reuseDetected
    | rejected | internalError => cases rotated
  | createInitialToken | revokeFamilyByToken | revokeAllUserTokens => cases rotated

end Steps

/-! ### Every interleaving -/

namespace TokenPool

open Pool Transition

variable {env : SessionEnv} {p q q' : TokenPool} {l : TokenLabel} {familyId : Id}

def rotationAt (p : TokenPool) (i : ℕ) : Option Rotation := (p.threads[i]?).bind TokenCall.rotation

/-- Every rotation of the family that has succeeded in the later state had succeeded before. -/
def NoRotationSince (familyId : Id) (p q : TokenPool) : Prop :=
  ∀ i, ∀ r ∈ q.rotationAt i, r.record.familyId = familyId → p.rotationAt i = some r

/-- No rotation commits while an `updateMany` on its family is under way. -/
def CommitsApart (p : TokenPool) : TokenLabel → Prop
  | .resume i a => ∀ call ∈ p.threads[i]?, ∀ r ∈ call.commits a,
      ∀ other ∈ p.threads, other.visits r.record.familyId = false
  | .external _ => True

instance : DecidablePred (CommitsApart p)
  | .resume i a => inferInstanceAs (Decidable (∀ call ∈ p.threads[i]?, ∀ r ∈ call.commits a,
      ∀ other ∈ p.threads, other.visits r.record.familyId = false))
  | .external _ => isTrue trivial

structure RevocationInvariant (env : SessionEnv) (p : TokenPool) : Prop where
  lineage : LineageInvariant env p
  covers : ∀ call ∈ p.threads, call.Covers p.shared

theorem RevocationInvariant.step (inv : RevocationInvariant env p) (apart : CommitsApart p l)
    (taken : step (tokenProgram env) p l = some q) : RevocationInvariant env q := by
  refine ⟨inv.lineage.step taken, ?_⟩
  cases l with
  | resume i a =>
    obtain ⟨call, s', call', found, resumed, rfl⟩ := step_resume taken
    have member := List.mem_of_getElem? found
    have table := inv.lineage.table
    obtain ⟨move, -⟩ := TokenCall.resume_move table.distinct (inv.lineage.sound call member) resumed
    intro other there
    rcases List.mem_or_eq_of_mem_set there with old | rfl
    · apply (inv.covers other old).grows move.grows
      intro r committed
      exact apart call found r committed other old
    · exact TokenCall.resume_covers table (inv.covers call member) resumed
  | external event =>
    obtain ⟨s', born, acted, rfl⟩ := step_external taken
    have same := (external_table env acted).1
    intro call member
    rcases List.mem_append.mp member with old | new
    · apply (inv.covers call old).grows (SameTable.grows same)
      intro r committed
      cases committed
    · cases event with
      | tick | users =>
        cases acted
        cases new
      | createInitialToken | rotateToken | revokeFamilyByToken | revokeAllUserTokens =>
        cases acted
        obtain rfl := List.mem_singleton.mp new
        trivial

/-- In a dead family nothing is rotated. -/
structure StaysDead (env : SessionEnv) (familyId : Id) (before p : TokenPool) : Prop where
  lineage : LineageInvariant env p
  dead : p.shared.Dead familyId
  kept : NoRotationSince familyId before p

theorem StaysDead.step {before : TokenPool} (stays : StaysDead env familyId before p)
    (taken : step (tokenProgram env) p l = some q) : StaysDead env familyId before q := by
  have lineage := stays.lineage
  cases l with
  | resume i a =>
    have next := lineage.step taken
    obtain ⟨call, s', call', found, resumed, rfl⟩ := step_resume taken
    have member := List.mem_of_getElem? found
    obtain ⟨move, -⟩ := TokenCall.resume_move lineage.table.distinct (lineage.sound call member) resumed
    refine ⟨next, stays.dead.grows move.grows, fun j r rotated own => ?_⟩
    obtain ⟨other, at_j, returned⟩ := Option.bind_eq_some_iff.mp rotated
    rcases getElem?_set_cases at_j with ⟨-, rfl⟩ | ⟨-, old⟩
    · -- it has just committed, from a live token of the family
      obtain ⟨c', rfl, done⟩ := TokenCall.rotation_some returned
      obtain ⟨c, rfl, stepped⟩ := TokenCall.resume_rotateToken resumed
      obtain ⟨-, ⟨usedAt, committing⟩, -⟩ := RotateToken.step_rotated stepped done
      have ready : c.Sound env p.shared := lineage.sound _ member
      rw [RotateToken.Sound, committing] at ready
      exact absurd own (stays.dead.unprepared ready.2)
    · exact stays.kept j r (by rw [Option.mem_def, rotationAt, old]; exact returned) own
  | external event =>
    have next := lineage.step taken
    obtain ⟨s', born, acted, rfl⟩ := step_external taken
    obtain ⟨same, fresh⟩ := external_table env acted
    refine ⟨next, stays.dead.grows (SameTable.grows same), fun j r rotated own => ?_⟩
    obtain ⟨call, at_j, returned⟩ := Option.bind_eq_some_iff.mp rotated
    rw [List.getElem?_append] at at_j
    split at at_j
    · exact stays.kept j r (by rw [Option.mem_def, rotationAt, at_j]; exact returned) own
    · obtain ⟨c, rfl, done⟩ := TokenCall.rotation_some returned
      exact absurd done ((fresh _ (List.mem_of_getElem? at_j)).2.2 c r rfl)

/-- Once a call has reported the end of a family, none of its tokens is rotated any more, in
every run in which rotations commit apart from the `updateMany`s on their families. -/
theorem dead_of_commitsApart {schedule later : List TokenLabel} (start : Started p)
    (apart : Respects (Pool.step (tokenProgram env)) CommitsApart p schedule)
    (reached : run (Pool.step (tokenProgram env)) p schedule = some q)
    (continued : run (Pool.step (tokenProgram env)) q later = some q') :
    ∀ familyId, (∃ call ∈ q.threads, call.terminated = some familyId) →
      NoRotationSince familyId q q' := by
  intro familyId ⟨call, member, terminated⟩
  have initial : RevocationInvariant env p := by
    refine ⟨start.invariant, ?_⟩
    rw [start.idle]
    simp
  have inv := run_invariant_of_respects (RevocationInvariant env)
    (fun _ _ _ inv apart taken => inv.step apart taken) initial apart reached
  -- a call that reports the end has seen to it that no token of the family is live
  have dead := (inv.covers call member).dead terminated
  have stays : StaysDead env familyId q q := ⟨inv.lineage, dead, fun _ _ rotated _ => rotated⟩
  exact (run_invariant (StaysDead env familyId q) (fun _ _ _ stays taken => stays.step taken)
    stays continued).kept

/-- Logout after a rotation, and a refresh with the last token. -/
theorem dead_of_logout :
    ∃ q q', run (Pool.step (tokenProgram sampleSessions)) sampleTokens
        ([.external (.createInitialToken 1 "a")] ++ completes 0 1 ++
          [.external (.rotateToken "a" "b")] ++ completes 1 6 ++
          [.external (.revokeFamilyByToken "b")] ++ completes 2 4) = some q ∧
      run (Pool.step (tokenProgram sampleSessions)) q
        ([.external (.rotateToken "b" "c")] ++ completes 3 5) = some q' ∧
      (∃ call ∈ q.threads, call.terminated = some 11) ∧ NoRotationSince 11 q q' := by
  refine ⟨_, _, (Option.some_get (by decide +kernel)).symm,
    (Option.some_get (by decide +kernel)).symm, by decide +kernel, ?_⟩
  exact dead_of_commitsApart sampleTokens_started (by decide +kernel)
    (Option.some_get (by decide +kernel)).symm (Option.some_get (by decide +kernel)).symm 11
    (by decide +kernel)

/-- Logout takes its snapshot, a rotation commits, and logout passes the revoked token by and
reports the end of the family; the token of the rotation lives on. -/
theorem rotated_after_logout :
    ¬∀ (env : SessionEnv) (p q q' : TokenPool) (schedule later : List TokenLabel), Started p →
      run (Pool.step (tokenProgram env)) p schedule = some q →
      run (Pool.step (tokenProgram env)) q later = some q' →
      ∀ familyId, (∃ call ∈ q.threads, call.terminated = some familyId) →
        NoRotationSince familyId q q' := by
  intro stays
  have violated := stays sampleSessions sampleTokens _ _
    ([.external (.createInitialToken 1 "a")] ++ completes 0 1 ++
      [.external (.rotateToken "a" "b")] ++ completes 1 5 ++
      [.external (.revokeFamilyByToken "a")] ++ completes 2 2 ++ completes 1 1 ++ completes 2 2)
    ([.external (.rotateToken "b" "c")] ++ completes 3 6)
    sampleTokens_started (Option.some_get (by decide +kernel)).symm
    (Option.some_get (by decide +kernel)).symm 11 (by decide +kernel) 3
  revert violated
  decide +kernel

end TokenPool

end SelfOtp
