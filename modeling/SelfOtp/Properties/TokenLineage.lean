import Mathlib.Data.List.Chain
import Mathlib.Data.List.Perm.Basic
import SelfOtp.Properties.TokenMoves

/-! The tokens of a family form one chain, whose last token is the only one that can be live. -/
namespace SelfOtp

/-! ### Chains of tokens -/

structure ReplacedBy (r next : RefreshToken) : Prop where
  link : r.replacedByTokenId = some next.id
  revoked : r.revokedAt.isSome
  user : next.userId = r.userId

/-- Oldest first: each token has been revoked and replaced by the next one, for the same user,
and the last one has not been replaced. -/
def Linear (tokens : List RefreshToken) : Prop :=
  tokens.IsChain ReplacedBy ∧ ∀ last ∈ tokens.getLast?, last.replacedByTokenId = none

namespace Linear

variable {tokens : List RefreshToken} {r t : RefreshToken}

theorem nil : Linear [] := by
  constructor
  · exact .nil
  · intro last member
    cases member

/-- A live token is the last one. -/
theorem live_last (linear : Linear tokens) (member : r ∈ tokens) (live : r.revokedAt = none) :
    ∃ earlier, tokens = earlier ++ [r] := by
  obtain ⟨earlier, later, rfl⟩ := List.append_of_mem member
  cases later with
  | nil => exact ⟨earlier, rfl⟩
  | cons next later =>
    have linked := (List.isChain_append_cons_cons.mp linear.1).2.1
    have revoked := linked.revoked
    rw [live] at revoked
    cases revoked

/-- A replaced token is followed by its replacement. -/
theorem replacement (linear : Linear tokens) (member : r ∈ tokens)
    (replaced : r.replacedByTokenId.isSome) :
    ∃ earlier next later, tokens = earlier ++ r :: next :: later ∧ ReplacedBy r next := by
  obtain ⟨earlier, later, rfl⟩ := List.append_of_mem member
  cases later with
  | nil =>
    have unreplaced := linear.2 r (by simp)
    rw [unreplaced] at replaced
    cases replaced
  | cons next later =>
    exact ⟨earlier, next, later, rfl, (List.isChain_append_cons_cons.mp linear.1).2.1⟩

theorem same_user (linear : Linear tokens) (member : r ∈ tokens) (other : t ∈ tokens) :
    t.userId = r.userId := by
  have users : ∀ x ∈ tokens, some x.userId = tokens.head?.map (·.userId) := by
    have chain := linear.1
    clear linear member other
    induction chain with
    | nil => simp
    | singleton => simp
    | cons_cons linked chain ih =>
      intro x member
      rcases List.mem_cons.mp member with rfl | later
      · rfl
      · have same := ih x later
        simpa [linked.user] using same
  have first := users r member
  have second := users t other
  rw [← first] at second
  exact Option.some.inj second

/-- Revoking tokens keeps the chain. -/
theorem map (linear : Linear tokens) {f : RefreshToken → RefreshToken}
    (id : ∀ r, (f r).id = r.id) (user : ∀ r, (f r).userId = r.userId)
    (link : ∀ r, (f r).replacedByTokenId = r.replacedByTokenId)
    (revoked : ∀ r, r.revokedAt.isSome → (f r).revokedAt.isSome) : Linear (tokens.map f) := by
  constructor
  · apply List.isChain_map_of_isChain f _ linear.1
    intro r next linked
    refine ⟨?_, revoked r linked.revoked, ?_⟩
    · rw [link, id, linked.link]
    · rw [user, user, linked.user]
  · intro last member
    rw [List.getLast?_map] at member
    obtain ⟨r, found, rfl⟩ := Option.map_eq_some_iff.mp member
    rw [link, linear.2 r found]

/-- The live token is replaced by a new one. -/
theorem replace {earlier : List RefreshToken} {used new : RefreshToken}
    (linear : Linear (earlier ++ [r])) (id : used.id = r.id) (user : used.userId = r.userId)
    (linked : ReplacedBy used new) (unreplaced : new.replacedByTokenId = none) :
    Linear (earlier ++ [used, new]) := by
  constructor
  · refine List.isChain_append_cons_cons.mpr ⟨?_, linked, .singleton _⟩
    apply List.IsChain.append linear.1.left_of_append (.singleton _)
    intro before last next first
    obtain rfl : used = next := by simpa using first
    have chained := (List.isChain_append.mp linear.1).2.2 before last r rfl
    refine ⟨?_, chained.revoked, ?_⟩
    · rw [id, chained.link]
    · rw [user, chained.user]
  · intro last member
    obtain rfl : new = last := by simpa using member
    exact unreplaced

end Linear

/-- Without repetition, an element stands directly after one other. -/
theorem before_unique {earlier earlier' later later' : List RefreshToken}
    {r t next : RefreshToken} (distinct : (earlier ++ r :: next :: later).Nodup)
    (same : earlier ++ r :: next :: later = earlier' ++ t :: next :: later') : t = r := by
  have split : ((earlier ++ [r]) ++ next :: later).Nodup := by simpa using distinct
  have apart := List.disjoint_of_nodup_append split
  have absent : next ∉ earlier ++ [r] := fun member => apart member (by simp)
  have absent' : next ∉ later := (List.nodup_cons.mp split.of_append_right).1
  have ends : (earlier ++ [r]) ++ next :: later = (earlier' ++ [t]) ++ next :: later' := by
    simpa using same
  have prefixes := ((List.append_cons_inj_of_notMem absent absent').mp ends).1
  exact (List.append_singleton_inj.mp prefixes).2.symm

/-! ### The table -/

def family (familyId : Id) (rows : List RefreshToken) : List RefreshToken :=
  rows.filter (·.familyId == familyId)

theorem mem_family {familyId : Id} {rows : List RefreshToken} {r : RefreshToken} :
    r ∈ family familyId rows ↔ r ∈ rows ∧ r.familyId = familyId := by
  simp [family]

theorem family_map {familyId : Id} {rows : List RefreshToken} {f : RefreshToken → RefreshToken}
    (keeps : ∀ r, (f r).familyId = r.familyId) :
    family familyId (rows.map f) = (family familyId rows).map f := by
  unfold family
  rw [List.filter_map]
  congr 1
  apply List.filter_congr
  intro r member
  simp [keeps]

/-- The lineage of refresh tokens. -/
structure Lineage (rows : List RefreshToken) : Prop where
  ids : (rows.map (·.id)).Nodup
  hashes : (rows.map (·.tokenHash)).Nodup
  linear : ∀ familyId, Linear (family familyId rows)
  sameUser : ∀ r ∈ rows, ∀ t ∈ rows, t.familyId = r.familyId → t.userId = r.userId
  onePredecessor : ∀ r ∈ rows, ∀ t ∈ rows, r.replacedByTokenId.isSome →
    t.replacedByTokenId = r.replacedByTokenId → t = r
  oneLive : ∀ r ∈ rows, ∀ t ∈ rows, t.familyId = r.familyId → r.revokedAt = none →
    t.revokedAt = none → t = r

namespace TokenStore

variable {s s' : TokenStore} {commits : Option Rotation} {held held' : Id → Bool}

/-- The rows that the table and the running transactions have. -/
def all (s : TokenStore) : List RefreshToken := s.refreshTokens ++ s.inserted

structure Table (s : TokenStore) : Prop where
  ids : (s.all.map (·.id)).Nodup
  hashes : (s.all.map (·.tokenHash)).Nodup
  bounded : ∀ r ∈ s.all, r.id < s.nextId ∧ r.familyId < s.nextId
  unlocked : ∀ id, s.nextId ≤ id → s.locked id = false
  linear : ∀ familyId, Linear (family familyId s.refreshTokens)

theorem Table.distinct (table : s.Table) : s.DistinctIds := by
  have ids := table.ids
  rw [all, List.map_append] at ids
  exact ids.of_append_left

theorem Table.distinctHashes (table : s.Table) : (s.refreshTokens.map (·.tokenHash)).Nodup := by
  have hashes := table.hashes
  rw [all, List.map_append] at hashes
  exact hashes.of_append_left

theorem Table.lineage (table : s.Table) : Lineage s.refreshTokens := by
  refine ⟨table.distinct, table.distinctHashes, table.linear, ?_, ?_, ?_⟩
  · intro r row t other same
    exact (table.linear r.familyId).same_user (mem_family.mpr ⟨row, rfl⟩)
      (mem_family.mpr ⟨other, same⟩)
  · intro r row t other replaced same
    obtain ⟨earlier, next, later, chain, linked⟩ := (table.linear r.familyId).replacement
      (mem_family.mpr ⟨row, rfl⟩) replaced
    obtain ⟨earlier', next', later', chain', linked'⟩ := (table.linear t.familyId).replacement
      (mem_family.mpr ⟨other, rfl⟩) (same ▸ replaced)
    have next_row : next ∈ s.refreshTokens ∧ next.familyId = r.familyId := by
      apply mem_family.mp
      simp [chain]
    have next_row' : next' ∈ s.refreshTokens ∧ next'.familyId = t.familyId := by
      apply mem_family.mp
      simp [chain']
    -- both are replaced by one token, so both stand before it in one family
    have one_next : next' = next := by
      apply table.distinct.eq next_row'.1 next_row.1
      have link := linked.link
      have link' := linked'.link
      rw [same, link] at link'
      exact (Option.some.inj link').symm
    subst one_next
    have one_family : t.familyId = r.familyId := next_row'.2.symm.trans next_row.2
    rw [one_family, chain] at chain'
    have distinct : (earlier ++ r :: next' :: later).Nodup := by
      rw [← chain]
      exact (table.distinct.of_map _).filter _
    exact before_unique distinct chain'
  · intro r row t other same live live'
    obtain ⟨earlier, chain⟩ := (table.linear r.familyId).live_last (mem_family.mpr ⟨row, rfl⟩) live
    obtain ⟨earlier', chain'⟩ := (table.linear r.familyId).live_last
      (mem_family.mpr ⟨other, same⟩) live'
    rw [chain] at chain'
    exact (List.append_singleton_inj.mp chain').2.symm

/-! ### What a step keeps -/

@[simp] theorem unlock_refreshTokens : (s.unlock held).refreshTokens = s.refreshTokens := rfl

@[simp] theorem lock_refreshTokens (id : Id) : (s.lock id).refreshTokens = s.refreshTokens := rfl

@[simp] theorem unlock_inserted : (s.unlock held).inserted = s.inserted := rfl

@[simp] theorem revoke_inserted (at_ : Millis) : (s.revoke held at_).inserted = s.inserted := rfl

theorem map_updateRows {β : Type} {key : RefreshToken → β} {selected : Id → Bool}
    {data : RefreshToken → RefreshToken} (fixed : ∀ r, key (data r) = key r) :
    (s.updateRows selected data).refreshTokens.map key = s.refreshTokens.map key := by
  rw [updateRows, List.map_map]
  apply List.map_congr_left
  intro r member
  dsimp only [Function.comp]
  split
  · exact fixed r
  · rfl

/-- The tables that a step leaves: the rows known before, or one more. -/
theorem Move.nodup {β : Type} {key : RefreshToken → β} (move : s.Move commits held held' s')
    (fixed : ∀ r a b c,
      key { r with revokedAt := a, lastUsedAt := b, replacedByTokenId := c } = key r)
    (fresh : ∀ row : RefreshToken, row.id = s.nextId → s.hasHash row.tokenHash = false →
      s.awaitsHash row.tokenHash = false → key row ∉ s.all.map key)
    (distinct : (s.all.map key).Nodup) : (s'.all.map key).Nodup := by
  cases move with
  | stay | lock | release => exact distinct
  | create row id _ _ unique alone =>
    have extended := List.nodup_cons.mpr ⟨fresh row id unique alone, distinct⟩
    refine (List.Perm.nodup_iff ?_).mp extended
    simpa [all] using List.perm_middle.symm
  | insert record row _ id _ unique alone =>
    have extended := List.nodup_cons.mpr ⟨fresh row id unique alone, distinct⟩
    refine (List.Perm.nodup_iff ?_).mp extended
    simpa [all] using (List.perm_append_singleton (key row) (s.all.map key)).symm
  | abort row =>
    refine distinct.sublist (List.Sublist.map key ?_)
    exact List.Sublist.append_left List.erase_sublist _
  | rotate r usedAt _ prepared =>
    refine (List.Perm.nodup_iff ?_).mp distinct
    have moved := (List.perm_cons_erase prepared.inserted).map key
    have same : (s.replace r usedAt).refreshTokens.map key =
        s.refreshTokens.map key ++ [key r.newRecord] := by
      rw [replace, discard, List.map_append]
      congr 1
      exact map_updateRows fun row => fixed row _ _ _
    rw [all, all, List.map_append, List.map_append, unlock_refreshTokens, same, List.append_assoc]
    exact moved.append_left _
  | revoke revokedAt =>
    have same : (s.revoke held revokedAt).refreshTokens.map key = s.refreshTokens.map key :=
      map_updateRows fun row => fixed row _ _ _
    rw [all, List.map_append, unlock_refreshTokens, same]
    simpa [all] using distinct

theorem keys_fresh (table : s.Table) {row : RefreshToken} (id : row.id = s.nextId) :
    row.id ∉ s.all.map (·.id) := by
  intro member
  obtain ⟨r, present, same⟩ := List.mem_map.mp member
  exact absurd (same.trans id) (Nat.ne_of_lt (table.bounded r present).1)

theorem hash_fresh {tokenHash : String} (unique : s.hasHash tokenHash = false)
    (alone : s.awaitsHash tokenHash = false) : tokenHash ∉ s.all.map (·.tokenHash) := by
  intro member
  obtain ⟨r, present, rfl⟩ := List.mem_map.mp member
  rcases List.mem_append.mp present with row | new
  · have taken : s.hasHash r.tokenHash = true := List.any_eq_true.mpr ⟨r, row, by simp⟩
    rw [unique] at taken
    cases taken
  · have taken : s.awaitsHash r.tokenHash = true := List.any_eq_true.mpr ⟨r, new, by simp⟩
    rw [alone] at taken
    cases taken

/-- A row keeps its id and its family through an update. -/
theorem mem_updateRows {selected : Id → Bool} {data : RefreshToken → RefreshToken}
    {r : RefreshToken} (member : r ∈ (s.updateRows selected data).refreshTokens) :
    ∃ old ∈ s.refreshTokens, r = old ∨ r = data old := by
  obtain ⟨old, present, rfl⟩ := List.mem_map.mp member
  refine ⟨old, present, ?_⟩
  split
  · exact Or.inr rfl
  · exact Or.inl rfl

theorem Move.bounded (table : s.Table) (move : s.Move commits held held' s') :
    ∀ r ∈ s'.all, r.id < s'.nextId ∧ r.familyId < s'.nextId := by
  have bounded := table.bounded
  intro r member
  cases move with
  | stay | lock | release => exact bounded r member
  | create row id family =>
    have known : r = row ∨ r ∈ s.all := by
      simpa [all, or_comm, or_left_comm, or_assoc] using member
    rcases known with rfl | old
    · rw [id, family]
      exact ⟨Nat.lt_add_of_pos_right Nat.two_pos, Nat.lt_succ_self _⟩
    · have bound := bounded r old
      exact ⟨Nat.lt_add_right 2 bound.1, Nat.lt_add_right 2 bound.2⟩
  | insert record row found id family =>
    have known : r = row ∨ r ∈ s.all := by
      simpa [all, or_comm, or_left_comm, or_assoc] using member
    rcases known with rfl | old
    · have bound := bounded record (List.mem_append_left _ found)
      rw [id, family]
      exact ⟨Nat.lt_succ_self _, Nat.lt_succ_of_lt bound.2⟩
    · have bound := bounded r old
      exact ⟨Nat.lt_succ_of_lt bound.1, Nat.lt_succ_of_lt bound.2⟩
  | abort row =>
    apply bounded r
    rcases List.mem_append.mp member with old | new
    · exact List.mem_append_left _ old
    · exact List.mem_append_right _ (List.mem_of_mem_erase new)
  | rotate rotation usedAt _ prepared =>
    rcases List.mem_append.mp member with row | new
    · rcases List.mem_append.mp row with updated | last
      · obtain ⟨old, present, rfl | rfl⟩ := mem_updateRows updated
        · exact bounded r (List.mem_append_left _ present)
        · exact bounded old (List.mem_append_left _ present)
      · obtain rfl : r = rotation.newRecord := by simpa using last
        exact bounded _ (List.mem_append_right _ prepared.inserted)
    · exact bounded r (List.mem_append_right _ (List.mem_of_mem_erase new))
  | revoke revokedAt =>
    rcases List.mem_append.mp member with updated | new
    · obtain ⟨old, present, rfl | rfl⟩ := mem_updateRows updated
      · exact bounded r (List.mem_append_left _ present)
      · exact bounded old (List.mem_append_left _ present)
    · exact bounded r (List.mem_append_right _ new)

theorem Move.keeps_unlocked (table : s.Table) (move : s.Move commits held held' s') :
    ∀ id, s'.nextId ≤ id → s'.locked id = false := by
  intro id beyond
  cases move with
  | stay => exact table.unlocked id beyond
  | lock row found =>
    have bound := (table.bounded row (List.mem_append_left _ found)).1
    have other : id ≠ row.id := Nat.ne_of_gt (Nat.lt_of_lt_of_le bound beyond)
    simpa [TokenStore.lock, other] using table.unlocked id beyond
  | create => exact table.unlocked id (Nat.le_trans (Nat.le_add_right _ 2) beyond)
  | insert record row _ new =>
    have other : id ≠ row.id := by
      rw [new]
      exact Nat.ne_of_gt beyond
    simpa [TokenStore.lock, other] using table.unlocked id (Nat.le_of_succ_le beyond)
  | release | abort | rotate | revoke =>
    have free : s.locked id = false := table.unlocked id beyond
    simp [unlock, discard, replace, TokenStore.revoke, updateRows, free]

/-- What a rotation leaves of a family. -/
theorem family_replace (distinct : s.DistinctIds) {r : Rotation} (prepared : r.Prepared s)
    (usedAt : Millis) (familyId : Id) :
    (familyId ≠ r.record.familyId ∧
      family familyId (s.replace r usedAt).refreshTokens = family familyId s.refreshTokens) ∨
    (familyId = r.record.familyId ∧ ∀ earlier,
      family familyId s.refreshTokens = earlier ++ [r.record] →
      family familyId (s.replace r usedAt).refreshTokens = earlier ++
        [{ r.record with revokedAt := some usedAt, lastUsedAt := some usedAt,
                         replacedByTokenId := some r.newRecord.id }, r.newRecord]) := by
  let used (row : RefreshToken) : RefreshToken :=
    if row.id == r.record.id then { row with
      revokedAt := some usedAt, lastUsedAt := some usedAt, replacedByTokenId := some r.newRecord.id }
    else row
  have split : family familyId (s.replace r usedAt).refreshTokens =
      (family familyId s.refreshTokens).map used ++ family familyId [r.newRecord] := by
    have keeps : ∀ row, (used row).familyId = row.familyId := by
      intro row
      dsimp only [used]
      split <;> rfl
    rw [← family_map keeps]
    exact List.filter_append _ _
  -- ids are distinct: the update touches the rotated row alone
  have others : ∀ rows : List RefreshToken, (∀ row ∈ rows, row ∈ s.refreshTokens ∧ row ≠ r.record) →
      rows.map used = rows := by
    intro rows apart
    nth_rewrite 2 [← List.map_id rows]
    apply List.map_congr_left
    intro row member
    obtain ⟨row_of, other⟩ := apart row member
    refine if_neg fun same => other ?_
    exact distinct.eq row_of prepared.record (beq_iff_eq.mp same)
  by_cases same : familyId = r.record.familyId
  · right
    refine ⟨same, fun earlier chain => ?_⟩
    have none_left : ∀ row ∈ earlier, row ∈ s.refreshTokens ∧ row ≠ r.record := by
      intro row member
      have inside : row ∈ family familyId s.refreshTokens := by simp [chain, member]
      refine ⟨(mem_family.mp inside).1, ?_⟩
      rintro rfl
      have once : (earlier ++ [r.record]).Nodup := by
        rw [← chain]
        exact (distinct.of_map _).filter _
      exact List.disjoint_of_nodup_append once member (List.mem_singleton_self _)
    rw [split, chain, List.map_append, others earlier none_left]
    simp [used, family, prepared.family, same]
  · left
    refine ⟨same, ?_⟩
    rw [split, others]
    · simp [family, prepared.family, Ne.symm same]
    · intro row member
      obtain ⟨row_of, own⟩ := mem_family.mp member
      refine ⟨row_of, ?_⟩
      rintro rfl
      exact same own.symm

theorem Move.keeps_linear (table : s.Table) (move : s.Move commits held held' s') (familyId : Id) :
    Linear (family familyId s'.refreshTokens) := by
  have linear := table.linear
  cases move with
  | stay | lock | insert | release | abort => exact linear familyId
  | create row id own unreplaced =>
    by_cases same : familyId = s.nextId + 1
    · -- the family is new: the token is its only one
      have empty : family familyId s.refreshTokens = [] := by
        apply List.filter_eq_nil_iff.mpr
        intro r member
        have bound := (table.bounded r (List.mem_append_left _ member)).2
        rw [beq_iff_eq, same]
        exact Nat.ne_of_lt (Nat.lt_succ_of_lt bound)
      have alone : family familyId (s.refreshTokens ++ [row]) = [row] := by
        unfold family at empty ⊢
        rw [List.filter_append, empty]
        simp [own, same]
      dsimp only
      rw [alone]
      exact ⟨.singleton row, by simpa using unreplaced⟩
    · have others : family familyId (s.refreshTokens ++ [row]) = family familyId s.refreshTokens := by
        unfold family
        rw [List.filter_append]
        simp [own, Ne.symm same]
      dsimp only
      rw [others]
      exact linear familyId
  | rotate r usedAt _ prepared =>
    rw [unlock_refreshTokens]
    rcases family_replace table.distinct prepared usedAt familyId with
      ⟨-, unchanged⟩ | ⟨rfl, extended⟩
    · rw [unchanged]
      exact linear familyId
    · have chain := linear r.record.familyId
      -- a live token is the last of its family, so its replacement goes to the end
      obtain ⟨earlier, last⟩ := chain.live_last (mem_family.mpr ⟨prepared.record, rfl⟩) prepared.live
      rw [last] at chain
      rw [extended earlier last]
      refine chain.replace rfl rfl ⟨rfl, rfl, ?_⟩ prepared.unreplaced
      exact prepared.user
  | revoke revokedAt =>
    rw [unlock_refreshTokens, TokenStore.revoke, updateRows, family_map]
    · apply (linear familyId).map
      · intro r
        split <;> rfl
      · intro r
        split <;> rfl
      · intro r
        split <;> rfl
      · intro r already
        split
        · rfl
        · exact already
    · intro r
      split <;> rfl

theorem Move.table (table : s.Table) (move : s.Move commits held held' s') : s'.Table := by
  refine ⟨?_, ?_, move.bounded table, move.keeps_unlocked table, move.keeps_linear table⟩
  · exact move.nodup (fun _ _ _ _ => rfl) (fun _ id _ _ => keys_fresh table id) table.ids
  · exact move.nodup (fun _ _ _ _ => rfl) (fun _ _ unique alone => hash_fresh unique alone)
      table.hashes

/-- What a step leaves to the other calls: the rows that its call had not locked are as they
were, and no revocation is taken back. -/
structure Later (s : TokenStore) (held : Id → Bool) (s' : TokenStore) : Prop where
  rows : ∀ r ∈ s.refreshTokens, held r.id = false → r ∈ s'.refreshTokens
  inserted : ∀ r ∈ s.inserted, held r.id = false → r ∈ s'.inserted
  still : ∀ r ∈ s.refreshTokens, ∃ r' ∈ s'.refreshTokens, r'.id = r.id ∧
    r'.tokenHash = r.tokenHash ∧ r'.familyId = r.familyId ∧
    (r.revokedAt.isSome → r'.revokedAt.isSome)

/-- No row is updated. -/
theorem Later.same (rows : ∀ r ∈ s.refreshTokens, r ∈ s'.refreshTokens)
    (inserted : ∀ r ∈ s.inserted, held r.id = false → r ∈ s'.inserted) : s.Later held s' :=
  ⟨fun r member _ => rows r member, inserted,
    fun r member => ⟨r, rows r member, rfl, rfl, rfl, id⟩⟩

/-- Locked rows are revoked. -/
theorem Later.update {selected : Id → Bool} {data : RefreshToken → RefreshToken}
    (rows : ∀ r ∈ (s.updateRows selected data).refreshTokens, r ∈ s'.refreshTokens)
    (inserted : ∀ r ∈ s.inserted, held r.id = false → r ∈ s'.inserted)
    (locked : ∀ id, selected id = true → held id = true)
    (keeps : ∀ r, (data r).id = r.id ∧ (data r).tokenHash = r.tokenHash ∧
      (data r).familyId = r.familyId ∧ (data r).revokedAt.isSome) : s.Later held s' := by
  have image : ∀ r ∈ s.refreshTokens, (if selected r.id then data r else r) ∈ s'.refreshTokens :=
    fun r member => rows _ (List.mem_map_of_mem member)
  refine ⟨fun r member free => ?_, inserted, fun r member => ?_⟩
  · have unselected : ¬selected r.id = true := by
      intro chosen
      rw [locked r.id chosen] at free
      cases free
    simpa [unselected] using image r member
  · refine ⟨_, image r member, ?_⟩
    split
    · obtain ⟨id, hash, family, revoked⟩ := keeps r
      exact ⟨id, hash, family, fun _ => revoked⟩
    · exact ⟨rfl, rfl, rfl, id⟩

theorem mem_erase_free {r row : RefreshToken} (own : held row.id = true) (member : r ∈ s.inserted)
    (free : held r.id = false) : r ∈ s.inserted.erase row := by
  refine (List.mem_erase_of_ne ?_).mpr member
  rintro rfl
  rw [own] at free
  cases free

theorem Move.later (move : s.Move commits held held' s') : s.Later held s' := by
  cases move with
  | stay | lock | release => exact .same (fun _ member => member) (fun _ member _ => member)
  | create => exact .same (fun _ => List.mem_append_left _) (fun _ member _ => member)
  | insert => exact .same (fun _ member => member) (fun _ member _ => List.mem_append_left _ member)
  | abort row own => exact .same (fun _ member => member) (fun _ => mem_erase_free own)
  | rotate r usedAt _ prepared own =>
    refine .update (fun _ => List.mem_append_left _) (fun _ => mem_erase_free own.2) ?_
      fun _ => ⟨rfl, rfl, rfl, rfl⟩
    intro id same
    rw [beq_iff_eq.mp same]
    exact own.1
  | revoke revokedAt =>
    exact .update (fun _ member => member) (fun _ member _ => member) (fun _ same => same)
      fun _ => ⟨rfl, rfl, rfl, rfl⟩

/-- The row locks stay exclusive. -/
theorem Move.exclusive {τ : Type} {holds : τ → Id → Bool} {threads : List τ} {i : ℕ} {t u : τ}
    (table : s.Table) (move : s.Move commits (holds t) (holds u) s') (found : threads[i]? = some t)
    (exclusive : RowLocks.Exclusive s.locked holds threads) :
    RowLocks.Exclusive s'.locked holds (threads.set i u) := by
  cases move with
  | stay keeps => exact exclusive.same found keeps
  | create _ _ _ _ _ _ keeps => exact exclusive.same found keeps
  | lock row _ free gains => exact exclusive.acquire found row.id free gains
  | insert record row _ new _ _ _ gains =>
    have free : s.locked row.id = false := table.unlocked row.id (Nat.le_of_eq new.symm)
    exact exclusive.acquire found row.id free gains
  | release drops => exact exclusive.release found drops
  | abort _ _ drops => exact exclusive.release found drops
  | rotate _ _ _ _ _ drops => exact exclusive.release found drops
  | revoke _ drops => exact exclusive.release found drops

end TokenStore

/-! ### The other calls -/

section Frame

variable {env : SessionEnv} {s s' : TokenStore} {held : Id → Bool}

theorem RotateToken.Locked.later {rawToken : String} {record : RefreshToken}
    (locked : Locked env s rawToken record) (later : s.Later held s')
    (free : held record.id = false) : Locked env s' rawToken record :=
  ⟨later.rows record locked.found free, locked.live, locked.hash⟩

theorem Rotation.Prepared.later {r : Rotation} (prepared : r.Prepared s)
    (later : s.Later held s') (free : held r.record.id = false)
    (free_new : held r.newRecord.id = false) : r.Prepared s' :=
  ⟨later.rows _ prepared.record free, prepared.live, later.inserted _ prepared.inserted free_new,
    prepared.family, prepared.user, prepared.unreplaced⟩

/-- A call may rely on its rows while other calls move. -/
theorem RotateToken.Sound.later {c : RotateToken} (sound : c.Sound env s)
    (later : s.Later held s') (apart : ∀ id, c.holds id = true → held id = false) :
    c.Sound env s' := by
  obtain ⟨rawToken, newRawToken, pc⟩ := c
  cases pc with
  | lock id =>
    obtain ⟨row, member, own, hash⟩ := sound
    obtain ⟨row', member', id', hash', -, -⟩ := later.still row member
    exact ⟨row', member', id'.trans own, hash'.trans hash⟩
  | findUser record => exact RotateToken.Locked.later sound later (apart _ (by simp [holds]))
  | create record user customerId =>
    exact ⟨sound.1.later later (apart _ (by simp [holds])), sound.2⟩
  | update r =>
    have free := apart r.record.id (by simp [holds])
    exact ⟨sound.1.later later free, sound.2.later later free (apart _ (by simp [holds]))⟩
  | commit r usedAt =>
    have free := apart r.record.id (by simp [holds])
    exact ⟨sound.1.later later free, sound.2.later later free (apart _ (by simp [holds]))⟩
  | rotated r =>
    obtain ⟨row, member, hash, family, revoked⟩ := sound
    obtain ⟨row', member', -, hash', family', keeps⟩ := later.still row member
    exact ⟨row', member', hash'.trans hash, family'.trans family, keeps revoked⟩
  | select | rollback | revoke | rejected | reuseDetected | internalError => trivial

theorem TokenCall.Sound.later {call : TokenCall} (sound : call.Sound env s)
    (later : s.Later held s') (apart : ∀ id, call.holds id = true → held id = false) :
    call.Sound env s' := by
  cases call with
  | rotateToken c => exact RotateToken.Sound.later sound later apart
  | createInitialToken | revokeFamilyByToken | revokeAllUserTokens => trivial

end Frame

/-! ### Every interleaving -/

namespace TokenPool

open Pool Transition

variable {env : SessionEnv} {p q : TokenPool} {l : TokenLabel}

/-- No two calls have rotated one raw token. -/
def RotatedOnce (p : TokenPool) : Prop :=
  ∀ (i j : ℕ) (c d : RotateToken) (r t : Rotation), p.threads[i]? = some (.rotateToken c) →
    p.threads[j]? = some (.rotateToken d) → c.pc = .rotated r → d.pc = .rotated t →
    c.rawToken = d.rawToken → i = j

structure LineageInvariant (env : SessionEnv) (p : TokenPool) : Prop where
  table : p.shared.Table
  exclusive : RowLocks.Exclusive p.shared.locked TokenCall.holds p.threads
  sound : ∀ call ∈ p.threads, call.Sound env p.shared
  once : RotatedOnce p

theorem Started.invariant (start : Started p) : LineageInvariant env p := by
  obtain ⟨rows, inserted, locked, idle⟩ := start
  have none_known : p.shared.all = [] := by rw [TokenStore.all, rows, inserted, List.append_nil]
  refine ⟨⟨?_, ?_, ?_, ?_, ?_⟩, ?_, ?_, ?_⟩
  · simp [none_known]
  · simp [none_known]
  · simp [none_known]
  · simp [locked]
  · intro familyId
    rw [rows]
    exact Linear.nil
  · rw [locked, idle]
    exact RowLocks.exclusive_nil
  · simp [idle]
  · intro i j c d r t found
    simp [idle] at found

/-- A row that is live has not been rotated. -/
theorem LineageInvariant.unrotated (inv : LineageInvariant env p) {record : RefreshToken}
    {rawToken : String} (locked : RotateToken.Locked env p.shared rawToken record) {c : RotateToken}
    {r : Rotation} (member : .rotateToken c ∈ p.threads) (rotated : c.pc = .rotated r) :
    c.rawToken ≠ rawToken := by
  rintro rfl
  have sound : c.Sound env p.shared := inv.sound _ member
  rw [RotateToken.Sound, rotated] at sound
  obtain ⟨row, present, hash, -, revoked⟩ := sound
  -- equal raw tokens have equal hashes, and a hash belongs to one row
  have same : row = record := List.inj_on_of_nodup_map inv.table.distinctHashes present
    locked.found (hash.trans locked.hash.symm)
  rw [same, locked.live] at revoked
  cases revoked

theorem LineageInvariant.resume (inv : LineageInvariant env p) {i : ℕ} {a : TokenAnswer}
    {call call' : TokenCall} {s' : TokenStore} (found : p.threads[i]? = some call)
    (resumed : call.resume env p.shared a = some (s', call')) :
    LineageInvariant env ⟨s', p.threads.set i call'⟩ := by
  have member := List.mem_of_getElem? found
  obtain ⟨move, sound⟩ := TokenCall.resume_move inv.table.distinct (inv.sound call member) resumed
  refine ⟨move.table inv.table, move.exclusive inv.table found inv.exclusive, ?_, ?_⟩
  · intro other there
    rcases mem_set_cases there with rfl | ⟨j, apart, found'⟩
    · exact sound
    · -- the other call holds none of the rows that this one has touched
      apply (inv.sound other (List.mem_of_getElem? found')).later move.later
      intro id held
      exact inv.exclusive.alone found' found (Ne.symm apart) held
  · -- a call that has just rotated its token is the only one for its raw token
    have first {c d : RotateToken} {r t : Rotation} (here : call' = .rotateToken c)
        (there : .rotateToken d ∈ p.threads) (rotated : c.pc = .rotated r)
        (rotated' : d.pc = .rotated t) : d.rawToken ≠ c.rawToken := by
      subst here
      obtain ⟨before, rfl, stepped⟩ := TokenCall.resume_rotateToken resumed
      obtain ⟨-, ⟨usedAt, committing⟩, same⟩ := RotateToken.step_rotated stepped rotated
      have ready : before.Sound env p.shared := inv.sound _ member
      rw [RotateToken.Sound, committing] at ready
      rw [same]
      exact inv.unrotated ready.1 there rotated'
    intro j k c d r t at_j at_k rotated rotated' same
    rcases getElem?_set_cases at_j with ⟨rfl, here⟩ | ⟨apart, old⟩
    · rcases getElem?_set_cases at_k with ⟨rfl, -⟩ | ⟨-, there⟩
      · rfl
      · exact absurd same.symm (first here.symm (List.mem_of_getElem? there) rotated rotated')
    · rcases getElem?_set_cases at_k with ⟨rfl, here⟩ | ⟨-, there⟩
      · exact absurd same (first here.symm (List.mem_of_getElem? old) rotated' rotated)
      · exact inv.once j k c d r t old there rotated rotated' same

/-- The table does not change while time passes, users change and calls start. -/
structure SameTable (s s' : TokenStore) : Prop where
  refreshTokens : s'.refreshTokens = s.refreshTokens
  inserted : s'.inserted = s.inserted
  locked : s'.locked = s.locked
  nextId : s'.nextId = s.nextId

theorem external_table (env : SessionEnv) {s s' : TokenStore} {event : TokenEvent} {born : List TokenCall}
    (acted : TokenCall.external s event = some (s', born)) :
    SameTable s s' ∧ ∀ call ∈ born, call.Sound env s' ∧ (∀ id, call.holds id = false) ∧
      ∀ c r, call = .rotateToken c → c.pc ≠ .rotated r := by
  cases event with
  | tick d =>
    cases acted
    exact ⟨⟨rfl, rfl, rfl, rfl⟩, by simp⟩
  | users users customerUsers =>
    cases acted
    exact ⟨⟨rfl, rfl, rfl, rfl⟩, by simp⟩
  | createInitialToken | rotateToken | revokeFamilyByToken | revokeAllUserTokens =>
    cases acted
    refine ⟨⟨rfl, rfl, rfl, rfl⟩, fun call member => ?_⟩
    obtain rfl := List.mem_singleton.mp member
    refine ⟨trivial, fun id => rfl, fun c r same => ?_⟩
    cases same <;> simp

theorem SameTable.table {s s' : TokenStore} (same : SameTable s s') (table : s.Table) : s'.Table := by
  have known : s'.all = s.all := by rw [TokenStore.all, same.refreshTokens, same.inserted]; rfl
  refine ⟨?_, ?_, ?_, ?_, ?_⟩
  · rw [known]
    exact table.ids
  · rw [known]
    exact table.hashes
  · rw [known, same.nextId]
    exact table.bounded
  · rw [same.locked, same.nextId]
    exact table.unlocked
  · rw [same.refreshTokens]
    exact table.linear

theorem SameTable.later {s s' : TokenStore} (same : SameTable s s') :
    s.Later (fun _ => false) s' := by
  apply TokenStore.Later.same
  · rw [same.refreshTokens]
    exact fun _ member => member
  · rw [same.inserted]
    exact fun _ member _ => member

theorem LineageInvariant.step (inv : LineageInvariant env p)
    (taken : step (tokenProgram env) p l = some q) : LineageInvariant env q := by
  cases l with
  | resume i a =>
    obtain ⟨call, s', call', found, resumed, rfl⟩ := step_resume taken
    exact inv.resume found resumed
  | external event =>
    obtain ⟨s', born, acted, rfl⟩ := step_external taken
    obtain ⟨same, fresh⟩ := external_table env acted
    refine ⟨same.table inv.table, ?_, ?_, ?_⟩
    · rw [same.locked]
      exact inv.exclusive.append fun call new => (fresh call new).2.1
    · intro call member
      rcases List.mem_append.mp member with old | new
      · exact (inv.sound call old).later same.later fun _ _ => rfl
      · exact (fresh call new).1
    · have old {j : ℕ} {c : RotateToken} {r : Rotation}
          (found : (p.threads ++ born)[j]? = some (.rotateToken c)) (rotated : c.pc = .rotated r) :
          p.threads[j]? = some (.rotateToken c) := by
        rw [List.getElem?_append] at found
        split at found
        · exact found
        · exact absurd rotated ((fresh _ (List.mem_of_getElem? found)).2.2 c r rfl)
      intro j k c d r t at_j at_k rotated rotated' same
      exact inv.once j k c d r t (old at_j rotated) (old at_k rotated') rotated rotated' same

/-- In every state that any interleaving reaches, the tokens have their lineage, and every raw
token has been rotated at most once. -/
theorem lineage_of_reachable {schedule : List TokenLabel} (start : Started p)
    (returned : run (Pool.step (tokenProgram env)) p schedule = some q) :
    Lineage q.shared.refreshTokens ∧ RotatedOnce q := by
  have inv := run_invariant (LineageInvariant env) (fun _ _ _ inv taken => inv.step taken)
    start.invariant returned
  exact ⟨inv.table.lineage, inv.once⟩

/-- Two refreshes wait for one token; the first one rotates it, and the second one finds it
revoked. -/
theorem lineage_of_concurrent_refreshes :
    ∃ q, run (Pool.step (tokenProgram sampleSessions)) sampleTokens
      ([.external (.createInitialToken 1 "a")] ++ completes 0 1 ++
        [.external (.rotateToken "a" "b"), .external (.rotateToken "a" "c")] ++
        completes 1 2 ++ completes 2 1 ++ completes 1 4 ++ completes 2 5) = some q ∧
      Lineage q.shared.refreshTokens ∧ RotatedOnce q :=
  ⟨_, (Option.some_get (by decide +kernel)).symm,
    lineage_of_reachable sampleTokens_started (Option.some_get (by decide +kernel)).symm⟩

end TokenPool

end SelfOtp
