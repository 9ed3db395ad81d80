import SelfOtp.Properties.MessageMoves
import SelfOtp.Properties.OtpPool

/-! Webhook jobs that run while a send job is still recording its message. -/
namespace SelfOtp

open Pool Transition

namespace MessageStage

/-- It is to create the message of this provider id. -/
def holds (wamid : String) : MessageStage → Bool
  | holding (some other) _ => other == wamid
  | _ => false

/-- It is to record this event. -/
def records (key : Id × MessageEventType) : MessageStage → Bool
  | entering message type | recording _ type message => (message, type) == key
  | _ => false

/-- A webhook job on this provider id, under way or done. -/
def reports (wamid : String) : MessageStage → Bool
  | lookingUp other _ | found other .. | recording other .. | settled other _ => other == wamid
  | _ => false

/-- The message that a webhook job has found. -/
def link : MessageStage → Option (String × Id)
  | found wamid _ message | recording wamid _ message => some (wamid, message)
  | _ => none

theorem idle_holds {stage : MessageStage} (idle : stage.idle = true) (wamid : String) :
    stage.holds wamid = false := by
  cases stage <;> first | rfl | cases idle

theorem idle_records {stage : MessageStage} (idle : stage.idle = true)
    (key : Id × MessageEventType) : stage.records key = false := by
  cases stage <;> first | rfl | cases idle

theorem idle_link {stage : MessageStage} (idle : stage.idle = true) : stage.link = none := by
  cases stage <;> first | rfl | cases idle

/-- No thread is about to write what the next step of this one relies on: the message that it looks
up, or an event like the one it looks for. -/
def InTurn (stages : List MessageStage) : MessageStage → Prop
  | lookingUp wamid _ => ∀ s ∈ stages, s.holds wamid = false
  | found _ type message => ∀ s ∈ stages, s.records (message, type) = false
  | _ => True

end MessageStage

open MessageStage

/-- Neither a message nor a thread has to do with this provider id. -/
def Unseen (j : Journal) (stages : List MessageStage) (wamid : String) : Prop :=
  (∀ row ∈ j.rows, row.2 ≠ some wamid) ∧
    ∀ s ∈ stages, s.holds wamid = false ∧ s.reports wamid = false

/-! ### The invariant -/

/-- How many threads are to create the message of this provider id. -/
def holders (wamid : String) (stages : List MessageStage) : ℕ :=
  total (fun s => (s.holds wamid).toNat) stages

/-- How many threads are to record this event. -/
def recorders (key : Id × MessageEventType) (stages : List MessageStage) : ℕ :=
  total (fun s => (s.records key).toNat) stages

theorem holders_eq_zero {wamid : String} {stages : List MessageStage} :
    holders wamid stages = 0 ↔ ∀ s ∈ stages, s.holds wamid = false := by
  simp only [holders, total_eq_zero, Bool.toNat_eq_zero]

theorem recorders_eq_zero {key : Id × MessageEventType} {stages : List MessageStage} :
    recorders key stages = 0 ↔ ∀ s ∈ stages, s.records key = false := by
  simp only [recorders, total_eq_zero, Bool.toNat_eq_zero]

/-- Each provider id belongs to at most one message, and each event is recorded at most once, those
included that are still to be written; what a webhook job has settled is recorded. -/
structure Consistent (j : Journal) (stages : List MessageStage) : Prop where
  rowsBelow : ∀ row ∈ j.rows, row.1 < j.nextId
  eventsBelow : ∀ event ∈ j.events, event.1 < j.nextId
  recordsBelow : ∀ s ∈ stages, ∀ key, s.records key = true → key.1 < j.nextId
  sentOnce : ∀ wamid, j.rows.countP (·.2 == some wamid) + holders wamid stages ≤ 1
  recordedOnce : ∀ key, j.events.count key + recorders key stages ≤ 1
  linked : ∀ s ∈ stages, ∀ wamid message, s.link = some (wamid, message) →
    (message, some wamid) ∈ j.rows
  settled : ∀ wamid type, .settled wamid type ∈ stages → (∀ s ∈ stages, s.holds wamid = false) ∧
    ∀ message, (message, some wamid) ∈ j.rows → (message, type) ∈ j.events

theorem eq_of_countP_le_one {α : Type} {p : α → Bool} {l : List α} (once : l.countP p ≤ 1) {a b : α}
    (first : a ∈ l) (second : b ∈ l) (ha : p a = true) (hb : p b = true) : a = b := by
  have first : a ∈ l.filter p := List.mem_filter.mpr ⟨first, ha⟩
  have second : b ∈ l.filter p := List.mem_filter.mpr ⟨second, hb⟩
  rw [List.countP_eq_length_filter] at once
  generalize l.filter p = chosen at first second once
  rcases chosen with _ | ⟨x, _ | ⟨y, rest⟩⟩
  · cases first
  · rw [List.mem_singleton.mp first, List.mem_singleton.mp second]
  · simp at once

section Moves

variable {j j' : Journal} {a : Answer} {stages : List MessageStage} {i : ℕ}
  {stage stage' : MessageStage}

theorem Consistent.unheld (c : Consistent j stages) {wamid : String} {message : Id}
    (row : (message, some wamid) ∈ j.rows) : ∀ s ∈ stages, s.holds wamid = false := by
  have once := c.sentOnce wamid
  have counted : 0 < j.rows.countP (·.2 == some wamid) :=
    List.countP_pos_iff.mpr ⟨_, row, beq_self_eq_true _⟩
  exact holders_eq_zero.mp (by omega)

theorem Consistent.unique (c : Consistent j stages) {wamid : String} {message other : Id}
    (row : (message, some wamid) ∈ j.rows) (also : (other, some wamid) ∈ j.rows) :
    other = message := by
  have once := c.sentOnce wamid
  have same := eq_of_countP_le_one (p := fun r : Id × Option String => r.2 == some wamid) (by omega) also
    row (beq_self_eq_true _) (beq_self_eq_true _)
  exact congrArg Prod.fst same

theorem MessageStage.Move.grows (move : stage.Move j a j' stage') : j.nextId ≤ j'.nextId := by
  cases move with
  | leave idle grows => exact grows
  | create => exact Nat.le_succ _
  | _ => exact le_refl _

theorem MessageStage.Move.rows_mono (move : stage.Move j a j' stage') :
    ∀ row ∈ j.rows, row ∈ j'.rows := by
  intro row member
  cases move with
  | create => exact List.mem_append_left _ member
  | _ => exact member

/-! What a move does to each clause of the invariant. -/

theorem Consistent.move_rowsBelow (c : Consistent j stages) (move : stage.Move j a j' stage') :
    ∀ row ∈ j'.rows, row.1 < j'.nextId := by
  intro row member
  cases move with
  | leave idle grows => exact lt_of_lt_of_le (c.rowsBelow row member) grows
  | create wamid type =>
    rcases List.mem_append.mp member with old | new
    · exact lt_of_lt_of_le (c.rowsBelow row old) (Nat.le_succ _)
    · rw [List.mem_singleton.mp new]
      exact Nat.lt_succ_self _
  | _ => exact c.rowsBelow row member

theorem Consistent.move_eventsBelow (c : Consistent j stages) (here : stages[i]? = some stage)
    (move : stage.Move j a j' stage') : ∀ event ∈ j'.events, event.1 < j'.nextId := by
  have own := c.recordsBelow stage (List.mem_of_getElem? here)
  intro event member
  cases move with
  | leave idle grows => exact lt_of_lt_of_le (c.eventsBelow event member) grows
  | create wamid type => exact lt_of_lt_of_le (c.eventsBelow event member) (Nat.le_succ _)
  | enter message type | record _ type message =>
    rcases List.mem_append.mp member with old | new
    · exact c.eventsBelow event old
    · rw [List.mem_singleton.mp new]
      exact own (message, type) (beq_self_eq_true _)
  | _ => exact c.eventsBelow event member

theorem Consistent.move_recordsBelow (c : Consistent j stages) (here : stages[i]? = some stage)
    (move : stage.Move j a j' stage') :
    ∀ s ∈ stages.set i stage', ∀ key, s.records key = true → key.1 < j'.nextId := by
  intro s member key records
  rcases List.mem_or_eq_of_mem_set member with old | rfl
  · exact lt_of_lt_of_le (c.recordsBelow s old key records) move.grows
  · have own := c.recordsBelow stage (List.mem_of_getElem? here)
    cases move with
    | leave idle | enter message type idle =>
      rw [idle_records idle] at records
      cases records
    | create wamid type =>
      have same : (j.nextId, type) = key := beq_iff_eq.mp records
      rw [← same]
      exact Nat.lt_succ_self _
    | new wamid type message ok absent =>
      have same : (message, type) = key := beq_iff_eq.mp records
      have row := c.linked _ (List.mem_of_getElem? here) wamid message rfl
      rw [← same]
      exact c.rowsBelow _ row
    | update wamid type message => exact own key records
    | sent | find | miss | known | record | stay => cases records

theorem Consistent.move_linked (c : Consistent j stages) (here : stages[i]? = some stage)
    (move : stage.Move j a j' stage') :
    ∀ s ∈ stages.set i stage', ∀ wamid message, s.link = some (wamid, message) →
      (message, some wamid) ∈ j'.rows := by
  intro s member wamid message link
  rcases List.mem_or_eq_of_mem_set member with old | rfl
  · exact move.rows_mono _ (c.linked s old wamid message link)
  · have own := c.linked stage (List.mem_of_getElem? here)
    cases move with
    | leave idle | enter _ _ idle =>
      rw [idle_link idle] at link
      cases link
    | find wamid' type message' ok row =>
      cases link
      exact row
    | new | update => exact own wamid message link
    | sent | create | miss | known | record | stay => cases link

theorem Consistent.move_sentOnce (c : Consistent j stages) (here : stages[i]? = some stage)
    (move : stage.Move j a j' stage')
    (faithful : stage = .sending → a.ok = true →
      ∀ wamid ∈ a.delivery.providerMessageId, Unseen j stages wamid) (wamid : String) :
    j'.rows.countP (·.2 == some wamid) + holders wamid (stages.set i stage') ≤ 1 := by
  have once := c.sentOnce wamid
  -- only the thread that moves changes the sum
  have counted : holders wamid (stages.set i stage') + (stage.holds wamid).toNat =
      holders wamid stages + (stage'.holds wamid).toNat := total_set here stage'
  have keep (rows : j'.rows = j.rows)
      (less : (stage'.holds wamid).toNat ≤ (stage.holds wamid).toNat) :
      j'.rows.countP (·.2 == some wamid) + holders wamid (stages.set i stage') ≤ 1 := by
    rw [rows]
    omega
  cases move with
  | leave idle | enter _ _ idle => exact keep rfl (by simp [idle_holds idle])
  | sent type ok =>
    by_cases own : a.delivery.providerMessageId = some wamid
    · -- nothing has to do with a provider id that has just been given out
      obtain ⟨unused, unheld⟩ := faithful rfl ok wamid own
      have rows : j.rows.countP (·.2 == some wamid) = 0 := by
        rw [List.countP_eq_zero]
        intro row member same
        exact unused row member (beq_iff_eq.mp same)
      have none : holders wamid stages = 0 := holders_eq_zero.mpr fun s member => (unheld s member).1
      have one := Bool.toNat_le ((holding a.delivery.providerMessageId type).holds wamid)
      omega
    · apply keep rfl
      cases given : a.delivery.providerMessageId with
      | none => rfl
      | some other =>
        rw [given] at own
        have apart : (other == wamid) = false := beq_eq_false_iff_ne.mpr fun same => own (congrArg some same)
        simp [holds, apart]
  | create wamid' type =>
    have entering : ((entering j.nextId type).holds wamid).toNat = 0 := rfl
    rw [List.countP_append, List.countP_singleton]
    by_cases own : wamid' = some wamid
    · subst own
      -- the thread hands its claim over to the row
      have held : ((holding (some wamid) type).holds wamid).toNat = 1 := by simp [holds]
      rw [if_pos (beq_self_eq_true _)]
      omega
    · have apart : ¬ (wamid' == some wamid) = true := fun same => own (beq_iff_eq.mp same)
      rw [if_neg apart]
      omega
  | find | miss | known | new | update | record | stay => exact keep rfl (le_refl _)

theorem Consistent.move_recordedOnce (c : Consistent j stages) (here : stages[i]? = some stage)
    (move : stage.Move j a j' stage') (inTurn : a.ok = true → stage.InTurn stages)
    (key : Id × MessageEventType) :
    j'.events.count key + recorders key (stages.set i stage') ≤ 1 := by
  have once := c.recordedOnce key
  have counted : recorders key (stages.set i stage') + (stage.records key).toNat =
      recorders key stages + (stage'.records key).toNat := total_set here stage'
  have keep (events : j'.events = j.events)
      (less : (stage'.records key).toNat ≤ (stage.records key).toNat) :
      j'.events.count key + recorders key (stages.set i stage') ≤ 1 := by
    rw [events]
    omega
  -- the event that is written was already counted
  have write (message : Id) (type : MessageEventType) (events : j'.events = j.events ++ [(message, type)])
      (own : stage.records key = ((message, type) == key)) (done : stage'.records key = false) :
      j'.events.count key + recorders key (stages.set i stage') ≤ 1 := by
    rw [events, List.count_append, List.count_singleton]
    rw [own, done] at counted
    cases same : ((message, type) == key) with
    | true =>
      simp only [same, Bool.toNat_true, Bool.toNat_false] at counted
      simp only [if_true]
      omega
    | false =>
      simp only [same, Bool.toNat_false] at counted
      simp only [Bool.false_eq_true, if_false]
      omega
  cases move with
  | leave idle => exact keep rfl (by simp [idle_records idle])
  | enter message type idle => exact write message type rfl rfl (idle_records idle key)
  | record _ type message => exact write message type rfl rfl rfl
  | create wamid type =>
    have holding : ((holding wamid type).records key).toNat = 0 := rfl
    have one := Bool.toNat_le ((entering j.nextId type).records key)
    by_cases own : key.1 < j.nextId
    · have apart : ((entering j.nextId type).records key).toNat = 0 := by
        rw [Bool.toNat_eq_zero]
        refine beq_eq_false_iff_ne.mpr ?_
        rintro rfl
        exact lt_irrefl _ own
      exact keep rfl (by omega)
    · -- a message that has just been created has no events yet
      have events : j.events.count key = 0 := List.count_eq_zero.mpr fun member =>
        own (c.eventsBelow key member)
      have none : recorders key stages = 0 := recorders_eq_zero.mpr fun s member =>
        Bool.eq_false_iff.mpr fun records => own (c.recordsBelow s member key records)
      show j.events.count key + _ ≤ 1
      omega
  | new wamid type message ok absent =>
    have found : ((found wamid type message).records key).toNat = 0 := rfl
    by_cases own : (message, type) = key
    · subst own
      have events : j.events.count (message, type) = 0 := List.count_eq_zero.mpr absent
      -- the job found no event, and in turn nobody else is about to write one
      have none : recorders (message, type) stages = 0 := recorders_eq_zero.mpr (inTurn ok)
      have one := Bool.toNat_le ((recording wamid type message).records (message, type))
      omega
    · have apart : ((recording wamid type message).records key).toNat = 0 := by
        rw [Bool.toNat_eq_zero]
        exact beq_eq_false_iff_ne.mpr own
      exact keep rfl (by omega)
  | sent | find | miss | known | update | stay => exact keep rfl (le_refl _)

/-- What is settled stays so when another thread moves. -/
theorem Consistent.settled_others (c : Consistent j stages) (here : stages[i]? = some stage)
    (move : stage.Move j a j' stage')
    (faithful : stage = .sending → a.ok = true →
      ∀ wamid ∈ a.delivery.providerMessageId, Unseen j stages wamid)
    {wamid : String} {type : MessageEventType} (before : .settled wamid type ∈ stages) :
    stage'.holds wamid = false ∧
      ∀ message, (message, some wamid) ∈ j'.rows → (message, type) ∈ j'.events := by
  obtain ⟨unheld, recorded⟩ := c.settled wamid type before
  have member := List.mem_of_getElem? here
  cases move with
  | leave idle => exact ⟨idle_holds idle wamid, recorded⟩
  | sent type' ok =>
    refine ⟨?_, recorded⟩
    cases given : a.delivery.providerMessageId with
    | none => rfl
    | some other =>
      -- the provider would have given out an id that has been reported on
      refine beq_eq_false_iff_ne.mpr ?_
      rintro rfl
      have unreported := ((faithful rfl ok other given).2 _ before).2
      simp [reports] at unreported
  | create wamid' type' =>
    refine ⟨rfl, ?_⟩
    intro message row
    rcases List.mem_append.mp row with old | new
    · exact recorded message old
    · have own : some wamid = wamid' := congrArg Prod.snd (List.mem_singleton.mp new)
      -- a thread that creates it now would have held the id when the job settled
      have held := unheld _ member
      rw [← own] at held
      simp [holds] at held
  | enter _ _ idle =>
    exact ⟨idle_holds idle wamid, fun message row => List.mem_append_left _ (recorded message row)⟩
  | record => exact ⟨rfl, fun message row => List.mem_append_left _ (recorded message row)⟩
  | find | miss | known | new | update | stay => exact ⟨rfl, recorded⟩

/-- A webhook job settles its event, or has found no message and none will come. -/
theorem Consistent.settled_own (c : Consistent j stages) (here : stages[i]? = some stage)
    (move : stage.Move j a j' stage') (inTurn : a.ok = true → stage.InTurn stages)
    {wamid : String} {type : MessageEventType} (now : stage' = .settled wamid type) :
    (∀ s ∈ stages, s.holds wamid = false) ∧
      ∀ message, (message, some wamid) ∈ j'.rows → (message, type) ∈ j'.events := by
  have member := List.mem_of_getElem? here
  cases move with
  | leave idle | enter _ _ idle =>
    rw [now] at idle
    cases idle
  | miss wamid' type' ok none =>
    cases now
    -- no message yet, and in turn nobody is about to create it
    exact ⟨inTurn ok, fun message row => absurd rfl (none _ row)⟩
  | known wamid' type' message present =>
    cases now
    have row := c.linked _ member wamid message rfl
    refine ⟨c.unheld row, ?_⟩
    intro other also
    -- the id has one message only
    rw [c.unique row also]
    exact present
  | record wamid' type' message =>
    cases now
    have row := c.linked _ member wamid message rfl
    refine ⟨c.unheld row, ?_⟩
    intro other also
    rw [c.unique row also]
    exact List.mem_append_right _ (List.mem_singleton_self _)
  | stay =>
    cases now
    exact c.settled wamid type member
  | sent | create | find | new | update => cases now

theorem Consistent.move (c : Consistent j stages) (here : stages[i]? = some stage)
    (move : stage.Move j a j' stage')
    (faithful : stage = .sending → a.ok = true →
      ∀ wamid ∈ a.delivery.providerMessageId, Unseen j stages wamid)
    (inTurn : a.ok = true → stage.InTurn stages) : Consistent j' (stages.set i stage') where
  rowsBelow := c.move_rowsBelow move
  eventsBelow := c.move_eventsBelow here move
  recordsBelow := c.move_recordsBelow here move
  sentOnce := c.move_sentOnce here move faithful
  recordedOnce := c.move_recordedOnce here move inTurn
  linked := c.move_linked here move
  settled wamid type member := by
    rcases List.mem_or_eq_of_mem_set member with old | now
    · obtain ⟨unheld, recorded⟩ := c.settled_others here move faithful old
      refine ⟨?_, recorded⟩
      intro s member
      rcases List.mem_or_eq_of_mem_set member with old' | rfl
      · exact (c.settled wamid type old).1 s old'
      · exact unheld
    · obtain ⟨unheld, recorded⟩ := c.settled_own here move inTurn now.symm
      refine ⟨?_, recorded⟩
      intro s member
      rcases List.mem_or_eq_of_mem_set member with old | rfl
      · exact unheld s old
      · rw [← now]
        rfl

/-- A thread that starts has not written anything, and is about to look things up first. -/
theorem Consistent.born (c : Consistent j stages) {born : List MessageStage}
    (started : ∀ s ∈ born, s.idle = true ∨ ∃ wamid type, s = .lookingUp wamid type) :
    Consistent j (stages ++ born) := by
  have unheld (wamid : String) : ∀ s ∈ born, s.holds wamid = false := by
    intro s member
    rcases started s member with idle | ⟨wamid', type, rfl⟩
    · exact idle_holds idle wamid
    · rfl
  have unrecorded (key : Id × MessageEventType) : ∀ s ∈ born, s.records key = false := by
    intro s member
    rcases started s member with idle | ⟨wamid', type, rfl⟩
    · exact idle_records idle key
    · rfl
  constructor
  · exact c.rowsBelow
  · exact c.eventsBelow
  · intro s member key records
    rcases List.mem_append.mp member with old | new
    · exact c.recordsBelow s old key records
    · rw [unrecorded key s new] at records
      cases records
  · intro wamid
    have none := holders_eq_zero.mpr (unheld wamid)
    have once := c.sentOnce wamid
    have sum : holders wamid (stages ++ born) = holders wamid stages + holders wamid born :=
      total_append born
    omega
  · intro key
    have none := recorders_eq_zero.mpr (unrecorded key)
    have once := c.recordedOnce key
    have sum : recorders key (stages ++ born) = recorders key stages + recorders key born :=
      total_append born
    omega
  · intro s member wamid message link
    rcases List.mem_append.mp member with old | new
    · exact c.linked s old wamid message link
    · rcases started s new with idle | ⟨wamid', type, rfl⟩
      · rw [idle_link idle] at link
        cases link
      · cases link
  · intro wamid type member
    rcases List.mem_append.mp member with old | new
    · obtain ⟨before, recorded⟩ := c.settled wamid type old
      refine ⟨?_, recorded⟩
      intro s member
      rcases List.mem_append.mp member with old' | new'
      · exact before s old'
      · exact unheld wamid s new'
    · rcases started _ new with idle | ⟨wamid', type', same⟩
      · cases idle
      · cases same

end Moves

/-! ### Runs of the system -/

def stages (p : System) : List MessageStage := p.threads.map Thread.stage

/-- The provider gives every message an id of its own, on which nothing is reported before. -/
def Faithful (p : System) : SystemLabel → Prop
  | .resume i a => ∀ t ∈ p.threads[i]?, t.stage = .sending → a.ok = true →
      ∀ wamid ∈ a.delivery.providerMessageId, Unseen p.shared.journal (stages p) wamid
  | .external _ => True

/-- A webhook job looks for its message when no send job is about to create it, and for its event
when no thread is about to record the same. -/
def Orderly (p : System) : SystemLabel → Prop
  | .resume i a => ∀ t ∈ p.threads[i]?, a.ok = true → t.stage.InTurn (stages p)
  | .external _ => True

theorem consistent_step {env : Env} {p q : System} {l : SystemLabel}
    (c : Consistent p.shared.journal (stages p)) (allowed : Faithful p l ∧ Orderly p l)
    (taken : Pool.step (systemProgram env) p l = some q) :
    Consistent q.shared.journal (stages q) := by
  cases l with
  | resume i a =>
    obtain ⟨t, w', t', found, resumed, rfl⟩ := step_resume taken
    have here : (stages p)[i]? = some t.stage := by rw [stages, List.getElem?_map, found]; rfl
    have after : stages ⟨w', p.threads.set i t'⟩ = (stages p).set i t'.stage := List.map_set
    rw [after]
    exact c.move here (Thread.resume_stage resumed) (allowed.1 t found) (allowed.2 t found)
  | external event =>
    obtain ⟨w', born, acted, rfl⟩ := step_external taken
    obtain ⟨same, started⟩ := Thread.external_stage acted
    have after : stages ⟨w', p.threads ++ born⟩ = stages p ++ born.map Thread.stage := List.map_append
    rw [after, same]
    apply c.born
    intro s member
    obtain ⟨t, present, rfl⟩ := List.mem_map.mp member
    exact started t present

/-- Nothing is running, and no message has been sent. -/
structure Blank (p : System) : Prop where
  threads : p.threads = []
  messages : p.shared.db.messages = []
  messageEvents : p.shared.db.messageEvents = []

theorem Blank.consistent {p : System} (blank : Blank p) :
    Consistent p.shared.journal (stages p) := by
  have rows : p.shared.journal.rows = [] := by simp [World.journal, blank.messages]
  have events : p.shared.journal.events = [] := by simp [World.journal, blank.messageEvents]
  have none : stages p = [] := by simp [stages, blank.threads]
  constructor <;> simp [rows, events, none, holders, recorders]

/-! ### Recorded events -/

/-- It is no worker's, or the worker has completed it. -/
def Thread.completed : Thread → Bool
  | sendOtpJob c => match c.pc with
    | .completed _ => true
    | _ => false
  | webhook c => c.pc == .finished
  | authenticating .. | send _ | verify .. | resend _ | status .. | dashboard _ | register _ => true

/-- The execution of `processWebhookJob` that the thread is. -/
def Thread.execution : Thread → Option WebhookCall
  | webhook c => some c
  | authenticating .. | send _ | verify .. | resend _ | status .. | dashboard _ | register _
  | sendOtpJob _ => none

/-- Once all jobs have completed, every webhook event that is marked `processed` has exactly one
event of its type for the message of its provider id. -/
def Recorded (q : System) : Prop :=
  (∀ t ∈ q.threads, t.completed = true) →
    ∀ e ∈ q.shared.db.webhookEvents, e.processingStatus = .processed →
      ∀ t ∈ q.threads, ∀ c ∈ t.execution, c.eventId = e.id →
        ∀ m ∈ q.shared.db.messages, m.providerMessageId = some c.wamid →
          (q.shared.db.messageEvents.countP fun r =>
            r.messageId == m.id && r.eventType == c.newEventType) = 1

theorem Consistent.recorded {q : System} (c : Consistent q.shared.journal (stages q)) : Recorded q := by
  intro completed e _ _ t member call execution _ m present own
  obtain rfl : t = .webhook call := by
    cases t <;> cases execution
    rfl
  have finished : call.pc = .finished := beq_iff_eq.mp (completed _ member)
  have settled : .settled call.wamid call.newEventType ∈ stages q := by
    refine List.mem_map.mpr ⟨_, member, ?_⟩
    simp only [Thread.stage, WebhookCall.stage, finished]
  have row : (m.id, some call.wamid) ∈ q.shared.journal.rows :=
    List.mem_map.mpr ⟨m, present, by rw [own]⟩
  have recorded := (c.settled _ _ settled).2 m.id row
  have once := c.recordedOnce (m.id, call.newEventType)
  have counted : q.shared.journal.events.count (m.id, call.newEventType) =
      q.shared.db.messageEvents.countP fun r => r.messageId == m.id && r.eventType == call.newEventType := by
    rw [World.journal, List.count, List.countP_map]
    rfl
  have positive := List.count_pos_iff.mpr recorded
  omega

theorem recorded_of_orderly {env : Env} {p q : System} {schedule : List SystemLabel}
    (blank : Blank p) (faithful : Respects (Pool.step (systemProgram env)) Faithful p schedule)
    (orderly : Respects (Pool.step (systemProgram env)) Orderly p schedule)
    (returned : run (Pool.step (systemProgram env)) p schedule = some q) : Recorded q :=
  (run_invariant_of_respects (fun p => Consistent p.shared.journal (stages p))
    (fun _ _ _ c allowed taken => consistent_step c allowed taken) blank.consistent
    (faithful.and orderly) returned).recorded

/-! ### In turn and overtaking -/

section Sample

instance (j : Journal) (stages : List MessageStage) (wamid : String) :
    Decidable (Unseen j stages wamid) := inferInstanceAs (Decidable (_ ∧ _))

instance (stages : List MessageStage) : DecidablePred (InTurn stages)
  | .lookingUp wamid _ => inferInstanceAs (Decidable (∀ s ∈ stages, s.holds wamid = false))
  | .found _ type message =>
    inferInstanceAs (Decidable (∀ s ∈ stages, s.records (message, type) = false))
  | .away | .sending | .holding .. | .entering .. | .recording .. | .settled .. => isTrue trivial

instance (p : System) : DecidablePred (Faithful p)
  | .resume i a => inferInstanceAs (Decidable (∀ t ∈ p.threads[i]?, t.stage = .sending →
      a.ok = true → ∀ wamid ∈ a.delivery.providerMessageId,
        Unseen p.shared.journal (stages p) wamid))
  | .external _ => isTrue trivial

instance (p : System) : DecidablePred (Orderly p)
  | .resume i a => inferInstanceAs (Decidable (∀ t ∈ p.threads[i]?, a.ok = true →
      t.stage.InTurn (stages p)))
  | .external _ => isTrue trivial

instance (q : System) : Decidable (Recorded q) := inferInstanceAs (Decidable (_ → _))

/-- The sample system, with the event of a `delivered` report on `wamid.1`. -/
def reportedSystem : System :=
  ⟨{ sampleSystem.shared with
      db := { sampleSystem.shared.db with
        webhookEvents := [⟨5, "wamid.1_delivered", "delivered", .received, none⟩] } }, []⟩

theorem reportedSystem_blank : Blank reportedSystem := ⟨rfl, rfl, rfl⟩

/-- The report is processed after the send job. -/
def sampleInTurn : List SystemLabel :=
  sampleCustomSend ++ .external (.takeSendOtpJob 0) :: .resume 1 (.accepted "wamid.1") ::
    resolve 1 3 ++ .external (.processWebhook 5 "wamid.1" "delivered") :: resolve 2 7

/-- The report is processed between the provider's answer and the creation of the message. -/
def sampleOvertaking : List SystemLabel :=
  sampleCustomSend ++ .external (.takeSendOtpJob 0) :: .resume 1 (.accepted "wamid.1") ::
    .external (.processWebhook 5 "wamid.1" "delivered") :: resolve 2 2 ++ resolve 1 3

end Sample

theorem recorded_in_turn :
    ∃ q, run (Pool.step (systemProgram OtpPool.sampleEnv)) reportedSystem sampleInTurn = some q ∧
      Recorded q :=
  ⟨_, (Option.some_get (by decide +kernel)).symm,
    recorded_of_orderly reportedSystem_blank (by decide +kernel) (by decide +kernel)
      (Option.some_get (by decide +kernel)).symm⟩

/-- The report is marked `processed`, and the message never gets its `delivered` event. -/
theorem dropped_when_overtaking :
    ¬∀ (env : Env) (p q : System) (schedule : List SystemLabel), Blank p →
      Respects (Pool.step (systemProgram env)) Faithful p schedule →
        run (Pool.step (systemProgram env)) p schedule = some q → Recorded q := by
  intro recorded
  have once := recorded OtpPool.sampleEnv reportedSystem _ sampleOvertaking reportedSystem_blank
    (by decide +kernel) (Option.some_get (by decide +kernel)).symm
  revert once
  decide +kernel

end SelfOtp
