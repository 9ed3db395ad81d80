import SelfOtp.Lib.Once
import SelfOtp.Model.WebhookPool
import SelfOtp.Properties.WebhookPayload

/-! Rows and jobs of concurrent webhook deliveries. -/
namespace SelfOtp

open Pool Transition

/-! ### Event keys -/

/-- The part behind the last separator. -/
theorem append_cons_inj_of_notMem_right {α : Type} {c : α} {x y b d : List α} (left : c ∉ b) (right : c ∉ d)
    (same : x ++ c :: b = y ++ c :: d) : x = y ∧ b = d := by
  rcases List.append_eq_append_iff.mp same with ⟨a, longer, rest⟩ | ⟨a, longer, rest⟩
  · cases a with
    | nil => exact ⟨by rw [longer, List.append_nil], (List.cons.inj rest).2⟩
    | cons e a =>
      rw [List.cons_append] at rest
      exact absurd ((List.cons.inj rest).2 ▸ List.mem_append_right a List.mem_cons_self) left
  · cases a with
    | nil => exact ⟨by rw [longer, List.append_nil], (List.cons.inj rest).2.symm⟩
    | cons e a =>
      rw [List.cons_append] at rest
      exact absurd ((List.cons.inj rest).2 ▸ List.mem_append_right a List.mem_cons_self) right

/-- `${wamid}_${statusStr}`. -/
def pairKey (id status : JsString) : JsString := id ++ js "_" ++ status

/-- No reported status has the separator in it, so the last one is where the id ends. -/
theorem pairKey_injective {id id' status status' : JsString} (reported : status ∈ reportedStatuses)
    (reported' : status' ∈ reportedStatuses) (same : pairKey id status = pairKey id' status') :
    id = id' ∧ status = status' := by
  have plain : ∀ s ∈ reportedStatuses, 0x5F ∉ s := by decide
  have separator : js "_" = [0x5F] := by decide
  simp only [pairKey, separator, List.append_assoc, List.singleton_append] at same
  exact append_cons_inj_of_notMem_right (plain status reported) (plain status' reported') same

/-! ### Rows and jobs of pairs -/

/-- The row is the one of this pair. -/
structure ReceivedEvent.Of (row : ReceivedEvent) (id status : JsString) : Prop where
  eventType : row.eventType = .string status
  key : row.externalEventId = pairKey id status

/-- The rows are those of deliveries before. -/
def WebhookStore.Earlier (s : WebhookStore) : Prop :=
  ∀ row ∈ s.events, ∃ id status, id ≠ [] ∧ status ∈ reportedStatuses ∧ row.Of id status

/-- The pair occurs in the payloads, and no delivery before has written its row. -/
def NewPair (s : WebhookStore) (payloads : List Json) (id status : JsString) : Prop :=
  (∃ payload ∈ payloads, Occurs payload id status) ∧ id ≠ [] ∧ status ≠ [] ∧ ∀ row ∈ s.events, ¬row.Of id status

/-- A row that has been created: its id, and the item that it is of. -/
abbrev Created := Id × StatusItem

def Created.row (m : Created) : ReceivedEvent :=
  ⟨m.1, m.2.statusStr, m.2.eventIdempotencyKey, m.2.payload⟩

def Created.job (m : Created) : WebhookJob := ⟨m.1, m.2.wamid, m.2.statusStr⟩

/-- Every created row has its job in the queue or in the hands of its delivery, and every item has its row
or is still to be gone through. -/
structure Ingesting (start : WebhookStore) (all : List StatusItem) (p : IngestPool) (created : List Created) :
    Prop where
  events : p.shared.events = start.events ++ created.map Created.row
  jobs : ∃ queued, p.shared.jobs = start.jobs ++ queued ∧
    (queued ++ p.threads.filterMap (·.queueing)).Perm (created.map Created.job)
  distinct : (created.map (·.2.eventIdempotencyKey)).Nodup
  new : ∀ m ∈ created, start.stored m.2.eventIdempotencyKey = false
  sources : ∀ m ∈ created, m.2 ∈ all
  ahead : ∀ t ∈ p.threads, ∀ item ∈ t.items, item ∈ all
  reached : ∀ item ∈ all, (∃ t ∈ p.threads, item ∈ t.items) ∨ p.shared.stored item.eventIdempotencyKey = true

section Steps

variable {env : WebhookEnv} {s s' start : WebhookStore} {t t' : IngestTask} {p q : IngestPool}
  {all : List StatusItem} {created : List Created}

/-- What the next awaited call of a delivery does. -/
inductive IngestTask.Move (env : WebhookEnv) (s : WebhookStore) : IngestTask → WebhookStore → IngestTask → Prop
  | add (items : List StatusItem) (job : WebhookJob) :
      Move env s ⟨items, some job⟩ { s with jobs := s.jobs ++ [job] } ⟨items, none⟩
  | refuse (item : StatusItem) (rest : List StatusItem)
      (refused : env.storable item = false ∨ s.stored item.eventIdempotencyKey = true) :
      Move env s ⟨item :: rest, none⟩ s ⟨rest, none⟩
  | create (item : StatusItem) (rest : List StatusItem) (new : s.stored item.eventIdempotencyKey = false) :
      Move env s ⟨item :: rest, none⟩
        { s with nextId := s.nextId + 1, events := s.events ++ [Created.row (s.nextId, item)] }
        ⟨rest, some (Created.job (s.nextId, item))⟩

theorem IngestTask.resume_move (resumed : t.resume env s () = some (s', t')) : Move env s t s' t' := by
  obtain ⟨items, queueing⟩ := t
  cases queueing with
  | some job =>
    cases resumed
    exact .add items job
  | none =>
    cases items with
    | nil => cases resumed
    | cons item rest =>
      simp only [resume] at resumed
      split at resumed
      next refused =>
        cases resumed
        refine .refuse item rest ?_
        simpa [WebhookStore.stored] using refused
      next created =>
        cases resumed
        refine .create item rest ?_
        simp only [Bool.or_eq_true, not_or, Bool.not_eq_true] at created
        exact created.2

theorem Ingesting.stored (ingesting : Ingesting start all p created) (key : JsString) :
    p.shared.stored key = (start.stored key || created.any fun m => m.2.eventIdempotencyKey == key) := by
  simp only [WebhookStore.stored, ingesting.events, List.any_append, List.any_map]
  rfl

/-- The other threads, and the one that has moved, still have what they have not come to. -/
theorem mem_items_set {i : ℕ} {u : IngestTask} (found : p.threads[i]? = some t) {item : StatusItem}
    (waits : ∃ v ∈ p.threads, item ∈ v.items) (kept : item ∈ t.items → item ∈ u.items) :
    ∃ v ∈ p.threads.set i u, item ∈ v.items := by
  obtain ⟨v, there, inside⟩ := waits
  rcases mem_set_or_eq found there with still | rfl
  · exact ⟨v, still, inside⟩
  · exact ⟨u, List.mem_set (List.getElem?_eq_some_iff.mp found).1 u, kept inside⟩

theorem Ingesting.ahead_set {i : ℕ} {u : IngestTask} (ingesting : Ingesting start all p created)
    (found : p.threads[i]? = some t) (kept : ∀ item ∈ u.items, item ∈ t.items) :
    ∀ v ∈ p.threads.set i u, ∀ item ∈ v.items, item ∈ all := by
  intro v there item inside
  rcases List.mem_or_eq_of_mem_set there with old | rfl
  · exact ingesting.ahead v old item inside
  · exact ingesting.ahead t (List.mem_of_getElem? found) item (kept item inside)

section Moves

variable {i : ℕ} {items : List StatusItem} {item : StatusItem} {job : WebhookJob}
  (ingesting : Ingesting start all p created)
include ingesting

/-- The job goes from the hands of its delivery into the queue. -/
theorem Ingesting.add (found : p.threads[i]? = some ⟨items, some job⟩) :
    Ingesting start all ⟨{ p.shared with jobs := p.shared.jobs ++ [job] }, p.threads.set i ⟨items, none⟩⟩
      created := by
  obtain ⟨queued, jobs, hands⟩ := ingesting.jobs
  have held := filterMap_set_perm (f := IngestTask.queueing) found ⟨items, none⟩
  refine ⟨ingesting.events, ⟨queued ++ [job], ?_, ?_⟩, ingesting.distinct, ingesting.new,
    ingesting.sources, ingesting.ahead_set found fun _ => id, fun item there => ?_⟩
  · rw [jobs, List.append_assoc]
  · rw [Option.toList_none, List.append_nil] at held
    rw [List.append_assoc]
    exact ((List.perm_append_comm.trans held).append_left queued).trans hands
  · exact (ingesting.reached item there).imp_left fun waits => mem_items_set found waits id

/-- A delivery has come past the item, whose row is there. -/
theorem Ingesting.reached_past (found : p.threads[i]? = some ⟨item :: items, none⟩) {u : IngestTask}
    (rest : u.items = items) {next : WebhookStore} (known : next.stored item.eventIdempotencyKey = true)
    (kept : ∀ key, p.shared.stored key = true → next.stored key = true) :
    ∀ other ∈ all, (∃ t ∈ p.threads.set i u, other ∈ t.items) ∨
      next.stored other.eventIdempotencyKey = true := by
  intro other there
  by_cases same : other = item
  · exact Or.inr (same ▸ known)
  · refine (ingesting.reached other there).imp (fun waits => ?_) (kept _)
    exact mem_items_set found waits fun inside => rest ▸ (List.mem_cons.mp inside).resolve_left same

/-- What the unique key refuses has its row already. -/
theorem Ingesting.refuse (found : p.threads[i]? = some ⟨item :: items, none⟩)
    (known : p.shared.stored item.eventIdempotencyKey = true) :
    Ingesting start all ⟨p.shared, p.threads.set i ⟨items, none⟩⟩ created := by
  obtain ⟨queued, jobs, hands⟩ := ingesting.jobs
  have held := filterMap_set_perm (f := IngestTask.queueing) found ⟨items, none⟩
  refine ⟨ingesting.events, ⟨queued, jobs, ?_⟩, ingesting.distinct, ingesting.new, ingesting.sources,
    ingesting.ahead_set found fun _ => List.mem_cons_of_mem _,
    ingesting.reached_past found rfl known fun _ => id⟩
  simp only [Option.toList_none, List.append_nil] at held
  exact (held.append_left queued).trans hands

/-- A new row, and its job in the hands of the delivery. -/
theorem Ingesting.create (found : p.threads[i]? = some ⟨item :: items, none⟩)
    (new : p.shared.stored item.eventIdempotencyKey = false) :
    Ingesting start all
      ⟨{ p.shared with
          nextId := p.shared.nextId + 1
          events := p.shared.events ++ [Created.row (p.shared.nextId, item)] },
        p.threads.set i ⟨items, some (Created.job (p.shared.nextId, item))⟩⟩
      (created ++ [(p.shared.nextId, item)]) := by
  obtain ⟨queued, jobs, hands⟩ := ingesting.jobs
  have here : item ∈ all := ingesting.ahead _ (List.mem_of_getElem? found) item List.mem_cons_self
  have held := filterMap_set_perm (f := IngestTask.queueing) found
    ⟨items, some (Created.job (p.shared.nextId, item))⟩
  rw [ingesting.stored, Bool.or_eq_false_iff] at new
  refine ⟨?_, ⟨queued, jobs, ?_⟩, ?_, fun m member => ?_, fun m member => ?_,
    ingesting.ahead_set found fun _ => List.mem_cons_of_mem _, ingesting.reached_past found rfl ?_ ?_⟩
  · dsimp only
    rw [ingesting.events, List.map_append, List.append_assoc]
    rfl
  · simp only [Option.toList_none, List.append_nil, Option.toList_some] at held
    rw [List.map_append]
    refine (held.append_left queued).trans ?_
    rw [← List.append_assoc]
    exact hands.append_right _
  -- a second row of the pair would have been refused
  · rw [List.map_append]
    refine List.Nodup.append ingesting.distinct (List.nodup_singleton _) ?_
    rw [List.map_singleton, List.disjoint_singleton]
    intro known
    obtain ⟨m, member, same⟩ := List.mem_map.mp known
    have fresh := List.any_eq_false.mp new.2 m member
    exact fresh (beq_iff_eq.mpr same)
  · rcases List.mem_append.mp member with old | last
    · exact ingesting.new m old
    · rw [List.mem_singleton.mp last]
      exact new.1
  · rcases List.mem_append.mp member with old | last
    · exact ingesting.sources m old
    · rw [List.mem_singleton.mp last]
      exact here
  · simp [WebhookStore.stored, Created.row]
  · intro key known
    simp only [WebhookStore.stored] at known ⊢
    rw [List.any_append, known, Bool.true_or]

end Moves

theorem Ingesting.step (ingesting : Ingesting start all p created)
    (storable : ∀ item ∈ all, env.storable item = true) {l : Label Unit Empty}
    (taken : Pool.step (ingestProgram env) p l = some q) :
    ∃ created, Ingesting start all q created := by
  cases l with
  | external e => exact e.elim
  | resume i a =>
    obtain ⟨t, s, t', found, resumed, rfl⟩ := step_resume taken
    cases IngestTask.resume_move resumed with
    | add items job => exact ⟨created, ingesting.add found⟩
    | refuse item rest refused =>
      have here : item ∈ all := ingesting.ahead _ (List.mem_of_getElem? found) item List.mem_cons_self
      have known : p.shared.stored item.eventIdempotencyKey = true :=
        refused.resolve_left fun unstorable => by simp [storable item here] at unstorable
      exact ⟨created, ingesting.refuse found known⟩
    | create item rest new => exact ⟨_, ingesting.create found new⟩

/-- The items of all deliveries. -/
def allItems (payloads : List Json) : List StatusItem :=
  payloads.flatMap fun payload => (ingestion (some payload)).items

theorem Ingesting.initial (s : WebhookStore) (payloads : List Json) :
    Ingesting s (allItems payloads) ⟨s, payloads.map IngestTask.start⟩ [] := by
  have idle : (payloads.map IngestTask.start).filterMap (·.queueing) = [] :=
    List.filterMap_eq_nil_iff.mpr fun t there => by
      obtain ⟨payload, -, rfl⟩ := List.mem_map.mp there
      rfl
  refine ⟨(List.append_nil _).symm, ⟨[], (List.append_nil _).symm, by rw [idle]; rfl⟩, List.nodup_nil,
    fun m there => (List.not_mem_nil there).elim, fun m there => (List.not_mem_nil there).elim,
    fun t there item inside => ?_, fun item there => ?_⟩
  · obtain ⟨payload, member, rfl⟩ := List.mem_map.mp there
    exact List.mem_flatMap.mpr ⟨payload, member, inside⟩
  · obtain ⟨payload, member, inside⟩ := List.mem_flatMap.mp there
    exact Or.inl ⟨.start payload, List.mem_map_of_mem member, inside⟩

/-- A delivery that has come to its end leaves every item with its row. -/
theorem Ingesting.finished (ingesting : Ingesting start all p created)
    (finished : ∀ t ∈ p.threads, t.finished = true) :
    (∃ queued, p.shared.jobs = start.jobs ++ queued ∧ queued.Perm (created.map Created.job)) ∧
      ∀ item ∈ all, p.shared.stored item.eventIdempotencyKey = true := by
  have ended (t : IngestTask) (there : t ∈ p.threads) : t.items = [] ∧ t.queueing = none := by
    simpa [IngestTask.finished] using finished t there
  constructor
  · obtain ⟨queued, jobs, hands⟩ := ingesting.jobs
    have idle : p.threads.filterMap (·.queueing) = [] :=
      List.filterMap_eq_nil_iff.mpr fun t there => (ended t there).2
    rw [idle, List.append_nil] at hands
    exact ⟨queued, jobs, hands⟩
  · intro item there
    rcases ingesting.reached item there with ⟨t, running, inside⟩ | known
    · rw [(ended t running).1] at inside
      cases inside
    · exact known

end Steps

/-! ### The pairs of the items -/

section Pairs

variable {s : WebhookStore} {payloads : List Json} {item : StatusItem} {id id' status status' : JsString}

theorem StatusItem.Of.unique (one : item.Of id status) (two : item.Of id' status') :
    id = id' ∧ status = status' :=
  ⟨Json.string.inj (one.wamid.symm.trans two.wamid), Json.string.inj (one.statusStr.symm.trans two.statusStr)⟩

theorem pair_of_item (shapes : ∀ payload ∈ payloads, PayloadShape payload) (there : item ∈ allItems payloads) :
    ∃ id status, (∃ payload ∈ payloads, Occurs payload id status) ∧ id ≠ [] ∧ status ∈ reportedStatuses ∧
      item.Of id status := by
  obtain ⟨payload, member, inside⟩ := List.mem_flatMap.mp there
  obtain ⟨id, status, occurs, rest⟩ := (ingestion_collects (shapes payload member)).1 item inside
  exact ⟨id, status, ⟨payload, member, occurs⟩, rest⟩

/-- A new pair has an item, and its key has no row. -/
theorem NewPair.reported (new : NewPair s payloads id status)
    (shapes : ∀ payload ∈ payloads, PayloadShape payload) (earlier : s.Earlier) :
    ∃ item ∈ allItems payloads, item.Of id status ∧ status ∈ reportedStatuses ∧
      s.stored item.eventIdempotencyKey = false := by
  obtain ⟨⟨payload, member, occurs⟩, some_id, some_status, unwritten⟩ := new
  obtain ⟨item, inside, of⟩ :=
    (ingestion_collects (shapes payload member)).2 id status occurs some_id some_status
  have there : item ∈ allItems payloads := List.mem_flatMap.mpr ⟨payload, member, inside⟩
  obtain ⟨id', status', -, -, reported, also⟩ := pair_of_item shapes there
  obtain ⟨rfl, rfl⟩ := of.unique also
  refine ⟨item, there, of, reported, ?_⟩
  rw [WebhookStore.stored, List.any_eq_false]
  intro row written same
  obtain ⟨id', status', -, reported', row_of⟩ := earlier row written
  have keys : pairKey id' status' = pairKey id status :=
    row_of.key.symm.trans ((beq_iff_eq.mp same).trans of.key)
  obtain ⟨rfl, rfl⟩ := pairKey_injective reported' reported keys
  exact unwritten row written row_of

/-- Among rows with different keys, all of reported statuses, a pair has one row and one job. -/
theorem created_once {created : List Created} {m : Created}
    (pairs : ∀ n ∈ created, ∃ id status, status ∈ reportedStatuses ∧ n.2.Of id status)
    (distinct : (created.map (·.2.eventIdempotencyKey)).Nodup) (there : m ∈ created)
    (reported : status ∈ reportedStatuses) (of : m.2.Of id status) :
    Once (·.Of id status) m.row (created.map Created.row) ∧
      Once (·.Reports (.string id) (.string status)) m.job (created.map Created.job) := by
  have once := once_of_nodup (f := fun n : Created => n.2.eventIdempotencyKey) distinct there
  -- the key says which pair it is
  have same_pair (n : Created) (member : n ∈ created)
      (same : n.2.eventIdempotencyKey = m.2.eventIdempotencyKey) : n.2.Of id status := by
    obtain ⟨id', status', reported', also⟩ := pairs n member
    obtain ⟨rfl, rfl⟩ := pairKey_injective reported' reported (also.key.symm.trans (same.trans of.key))
    exact also
  constructor
  · refine once.map fun n member => ⟨fun row_of => row_of.key.trans of.key.symm, fun same => ?_⟩
    exact ⟨(same_pair n member same).statusStr, (same_pair n member same).key⟩
  · refine once.map fun n member => ⟨fun reports => ?_, fun same => ?_⟩
    · obtain ⟨id', status', -, also⟩ := pairs n member
      have same_id : id' = id := Json.string.inj (also.wamid.symm.trans reports.1)
      have same_status : status' = status := Json.string.inj (also.statusStr.symm.trans reports.2)
      rw [same_id, same_status] at also
      exact also.key.trans of.key.symm
    · exact ⟨(same_pair n member same).wamid, (same_pair n member same).statusStr⟩

end Pairs

/-- Webhook ingestion is exactly once for each pair of an id and a status, however the inserts of the
deliveries are interleaved. -/
theorem ingested_once (env : WebhookEnv) (s : WebhookStore) (payloads : List Json) (earlier : s.Earlier)
    (shapes : ∀ payload ∈ payloads, PayloadShape payload)
    (fits : ∀ payload ∈ payloads, ∀ item ∈ (ingestion (some payload)).items, env.storable item = true)
    {labels : List (Label Unit Empty)} {q : IngestPool}
    (returned : run (Pool.step (ingestProgram env)) ⟨s, payloads.map IngestTask.start⟩ labels = some q)
    (finished : ∀ t ∈ q.threads, t.finished = true) :
    ∃ rows jobs, q.shared.events = s.events ++ rows ∧ q.shared.jobs = s.jobs ++ jobs ∧
      (∀ id status, NewPair s payloads id status → ∃ row, Once (·.Of id status) row rows ∧
        Once (·.Reports (.string id) (.string status)) ⟨row.id, .string id, .string status⟩ jobs) ∧
      (∀ row ∈ rows, ∃ id status, NewPair s payloads id status ∧ row.Of id status) ∧
      (∀ job ∈ jobs, ∃ id status, NewPair s payloads id status ∧ job.Reports (.string id) (.string status)) ∧
      q.shared.Earlier := by
  have storable : ∀ item ∈ allItems payloads, env.storable item = true := fun item there => by
    obtain ⟨payload, member, inside⟩ := List.mem_flatMap.mp there
    exact fits payload member item inside
  obtain ⟨created, ingesting⟩ := run_invariant (fun p => ∃ created, Ingesting s (allItems payloads) p created)
    (fun _ _ _ ⟨_, ingesting⟩ taken => ingesting.step storable taken) ⟨[], .initial s payloads⟩ returned
  obtain ⟨⟨jobs, queued, hands⟩, reached⟩ := ingesting.finished finished
  have pairs : ∀ m ∈ created, ∃ id status, NewPair s payloads id status ∧ status ∈ reportedStatuses ∧
      m.2.Of id status := by
    intro m there
    obtain ⟨id, status, occurs, some_id, reported, of⟩ := pair_of_item shapes (ingesting.sources m there)
    have some_status : status ≠ [] := by
      rintro rfl
      exact absurd reported (by decide)
    refine ⟨id, status, ⟨occurs, some_id, some_status, fun row written row_of => ?_⟩, reported, of⟩
    have unstored := List.any_eq_false.mp (ingesting.new m there) row written
    exact unstored (beq_iff_eq.mpr (row_of.key.trans of.key.symm))
  have reported : ∀ m ∈ created, ∃ id status, status ∈ reportedStatuses ∧ m.2.Of id status := fun m there =>
    have ⟨id, status, _, known, of⟩ := pairs m there
    ⟨id, status, known, of⟩
  refine ⟨created.map Created.row, jobs, ingesting.events, queued, fun id status new => ?_, fun row there => ?_,
    fun job there => ?_, fun row there => ?_⟩
  · obtain ⟨item, inside, of, known, unstored⟩ := new.reported shapes earlier
    have stored := reached item inside
    rw [ingesting.stored, unstored, Bool.false_or, List.any_eq_true] at stored
    -- the row under the key of the item is one of the created ones
    obtain ⟨m, there, same⟩ := stored
    obtain ⟨id', status', also_known, also⟩ := reported m there
    obtain ⟨rfl, rfl⟩ := pairKey_injective also_known known
      (also.key.symm.trans ((beq_iff_eq.mp same).trans of.key))
    obtain ⟨row, job⟩ := created_once reported ingesting.distinct there also_known also
    refine ⟨m.row, row, ?_⟩
    have job := job.perm hands.symm
    rwa [Created.job, also.wamid, also.statusStr] at job
  · obtain ⟨m, created_there, rfl⟩ := List.mem_map.mp there
    obtain ⟨id, status, new, -, of⟩ := pairs m created_there
    exact ⟨id, status, new, of.statusStr, of.key⟩
  · obtain ⟨m, created_there, rfl⟩ := List.mem_map.mp (hands.mem_iff.mp there)
    obtain ⟨id, status, new, -, of⟩ := pairs m created_there
    exact ⟨id, status, new, of.wamid, of.statusStr⟩
  · rw [ingesting.events] at there
    rcases List.mem_append.mp there with old | written
    · exact earlier row old
    · obtain ⟨m, created_there, rfl⟩ := List.mem_map.mp written
      obtain ⟨id, status, new, known, of⟩ := pairs m created_there
      exact ⟨id, status, new.2.1, known, of.statusStr, of.key⟩

theorem statusReport_shape : PayloadShape statusReport := by
  have item : StatusShape
      (.object [(js "id", .string (js "wamid.1")), (js "status", .string (js "delivered"))]) :=
    ⟨Or.inr ⟨_, rfl⟩, Or.inr ⟨_, rfl, Or.inr (by decide)⟩⟩
  refine Or.inr ⟨_, rfl, fun entry there => ?_⟩
  obtain rfl := List.mem_singleton.mp there
  refine Or.inr ⟨_, rfl, fun change there => ?_⟩
  obtain rfl := List.mem_singleton.mp there
  refine Or.inr ⟨_, rfl, Or.inr ⟨_, rfl, fun found there => ?_⟩⟩
  obtain rfl := List.mem_singleton.mp there
  exact item

/-- Two deliveries of one status: the second one finds the row of the first, whose job is not queued yet. -/
theorem ingested_once_of_two :
    ∃ q, run (Pool.step (ingestProgram statusReportEnv))
        ⟨.empty, [statusReport, statusReport].map IngestTask.start⟩
        [.resume 0 (), .resume 1 (), .resume 0 ()] = some q ∧
      ∃ row, Once (·.Of (js "wamid.1") (js "delivered")) row q.shared.events ∧
        Once (·.Reports (.string (js "wamid.1")) (.string (js "delivered")))
          ⟨row.id, .string (js "wamid.1"), .string (js "delivered")⟩ q.shared.jobs := by
  have shapes : ∀ payload ∈ [statusReport, statusReport], PayloadShape payload := by
    simp [statusReport_shape]
  have occurs : Occurs statusReport (js "wamid.1") (js "delivered") :=
    ⟨_, rfl, _, List.mem_singleton_self _, _, rfl, _, List.mem_singleton_self _, _, rfl, _, rfl, _,
      List.mem_singleton_self _, rfl, rfl⟩
  refine ⟨_, (Option.some_get (by decide +kernel)).symm, ?_⟩
  obtain ⟨rows, jobs, events, queued, once, -⟩ := ingested_once statusReportEnv .empty
    [statusReport, statusReport] (fun row there => (List.not_mem_nil there).elim) shapes (fun _ _ _ _ => rfl)
    (Option.some_get (x := run (Pool.step (ingestProgram statusReportEnv))
      ⟨.empty, [statusReport, statusReport].map IngestTask.start⟩ [.resume 0 (), .resume 1 (), .resume 0 ()])
      (by decide +kernel)).symm (by decide +kernel)
  rw [events, queued]
  exact once _ _ ⟨⟨statusReport, List.mem_cons_self, occurs⟩, by decide, by decide,
    fun row there => (List.not_mem_nil there).elim⟩

end SelfOtp
