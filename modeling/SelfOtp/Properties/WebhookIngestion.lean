import Mathlib.Data.List.Induction
import SelfOtp.Model.Webhooks

/-! Which status items of webhook requests end up in the queue. -/
namespace SelfOtp

variable {env : WebhookEnv} {s : WebhookStore} {item : StatusItem} {up : Up} {key : JsString}

/-! ### The events that are stored -/

/-- There is an event of this key. -/
def WebhookStore.stored (s : WebhookStore) (key : JsString) : Bool :=
  s.events.any (·.externalEventId == key)

/-- The delivery is of an item with this key, and the database is up and takes its row. -/
def reaches (env : WebhookEnv) (key : JsString) (d : StatusItem × Up) : Bool :=
  d.2.database && env.storable d.1 && d.1.eventIdempotencyKey == key

def ingestAll (env : WebhookEnv) (s : WebhookStore) (items : List (StatusItem × Up)) : WebhookStore :=
  items.foldl (fun s (item, up) => ingest env s item up) s

theorem handle_store (env : WebhookEnv) (s : WebhookStore) (request : WebhookRequest) (up : ℕ → Up) :
    (handle env s request up).2 = ingestAll env s (deliveries env request up) := rfl

theorem ingest_of_apart (apart : reaches env item.eventIdempotencyKey (item, up) = false) :
    ingest env s item up = s := by
  have kept : (!up.database || !env.storable item) = true := by
    simpa [reaches, or_iff_not_imp_left] using apart
  simp only [ingest, kept, if_true]

theorem ingest_of_stored (duplicate : s.stored item.eventIdempotencyKey = true) :
    ingest env s item up = s := by
  simp only [ingest, WebhookStore.stored] at duplicate ⊢
  simp only [duplicate, if_true, ite_self]

theorem ingest_of_new (reached : reaches env item.eventIdempotencyKey (item, up) = true)
    (new : s.stored item.eventIdempotencyKey = false) :
    (ingest env s item up).events =
        s.events ++ [⟨s.nextId, item.statusStr, item.eventIdempotencyKey, item.payload⟩] ∧
      (ingest env s item up).jobs =
        if up.queue then s.jobs ++ [⟨s.nextId, item.wamid, item.statusStr⟩] else s.jobs := by
  simp only [reaches, Bool.and_eq_true, beq_self_eq_true, and_true] at reached
  simp only [WebhookStore.stored] at new
  simp only [ingest, reached, new, Bool.not_true, Bool.or_false, Bool.false_eq_true, if_false,
    and_self]

/-- A delivery stores its own key, and takes no event back. -/
theorem stored_ingest (key : JsString) :
    (ingest env s item up).stored key = (s.stored key || reaches env key (item, up)) := by
  by_cases own : item.eventIdempotencyKey = key
  · subst own
    cases reached : reaches env item.eventIdempotencyKey (item, up) with
    | false => rw [ingest_of_apart reached, Bool.or_false]
    | true =>
      rw [Bool.or_true]
      cases duplicate : s.stored item.eventIdempotencyKey with
      | true => rw [ingest_of_stored duplicate, duplicate]
      | false =>
        rw [WebhookStore.stored, (ingest_of_new reached duplicate).1]
        simp
  · have apart : reaches env key (item, up) = false := by simp [reaches, own]
    rw [apart, Bool.or_false]
    cases reached : reaches env item.eventIdempotencyKey (item, up) with
    | false => rw [ingest_of_apart reached]
    | true =>
      cases duplicate : s.stored item.eventIdempotencyKey with
      | true => rw [ingest_of_stored duplicate]
      | false =>
        rw [WebhookStore.stored, (ingest_of_new reached duplicate).1]
        simp [WebhookStore.stored, own]

theorem stored_ingestAll (items : List (StatusItem × Up)) (key : JsString) :
    (ingestAll env s items).stored key = (s.stored key || items.any (reaches env key)) := by
  induction items generalizing s with
  | nil => simp [ingestAll]
  | cons first items ih =>
    have rest := @ih (ingest env s first.1 first.2)
    rw [stored_ingest, Bool.or_assoc] at rest
    exact rest

theorem ingestAll_unstorable {items : List (StatusItem × Up)}
    (unstorable : ∀ d ∈ items, env.storable d.1 = false) : ingestAll env s items = s := by
  induction items with
  | nil => rfl
  | cons first items ih =>
    have apart : reaches env first.1.eventIdempotencyKey (first.1, first.2) = false := by
      simp [reaches, unstorable first List.mem_cons_self]
    have rest := ih fun d member => unstorable d (List.mem_cons_of_mem _ member)
    show ingestAll env (ingest env s first.1 first.2) items = s
    rw [ingest_of_apart apart, rest]

theorem mem_deliveries {request : WebhookRequest} {up : ℕ → Up} {d : StatusItem × Up}
    (member : d ∈ deliveries env request up) : d.1 ∈ (env.receive request).items := by
  obtain ⟨⟨item, i⟩, present, rfl⟩ := List.mem_map.mp member
  exact (List.mem_zipIdx' present).2 ▸ List.getElem_mem _

theorem deliveries_of_mem {request : WebhookRequest} (member : item ∈ (env.receive request).items)
    (up : Up) : (item, up) ∈ deliveries env request fun _ => up := by
  obtain ⟨i, inside, same⟩ := List.getElem_of_mem member
  refine List.mem_map.mpr ⟨(item, i), ?_, rfl⟩
  rw [List.mem_zipIdx_iff_getElem?]
  rw [List.getElem?_eq_getElem inside, same]

/-! ### Keys -/

def eventKey (wamid statusStr : Json) : Option JsString :=
  match wamid.toText, statusStr.toText with
  | some id, some status => some (id ++ js "_" ++ status)
  | _, _ => none

def StatusItem.Keyed (item : StatusItem) : Prop :=
  eventKey item.wamid item.statusStr = some item.eventIdempotencyKey

theorem statusLoop_keyed (statusItem : Json) : ∀ item ∈ (statusLoop statusItem).items, item.Keyed := by
  intro item member
  unfold statusLoop at member
  split at member
  · split at member
    · split at member
      · split at member
        next id status idText statusText =>
          obtain rfl := List.mem_singleton.mp member
          simp only [StatusItem.Keyed, eventKey, idText, statusText]
        · cases member
      · cases member
    · cases member
  · cases member

theorem Loop.forOf_items {P : StatusItem → Prop} {body : Json → Loop}
    (holds : ∀ e, ∀ item ∈ (body e).items, P item) (iterable : Json) :
    ∀ item ∈ (Loop.forOf iterable body).items, P item := by
  -- a loop that throws ends with the items of the elements before
  have each (elements : List Json) : ∀ item ∈ (Loop.each body elements).items, P item := by
    induction elements with
    | nil =>
      intro item member
      cases member
    | cons e rest ih =>
      intro item member
      rw [Loop.each] at member
      dsimp only at member
      split at member
      · exact holds e item member
      · rcases List.mem_append.mp member with first | others
        · exact holds e item first
        · exact ih item others
  unfold Loop.forOf
  split
  · exact each _
  · intro item member
    cases member

theorem entryLoop_keyed (entry : Json) : ∀ item ∈ (entryLoop entry).items, item.Keyed := by
  have changes (change : Json) : ∀ item ∈ (changeLoop change).items, item.Keyed := by
    intro item member
    unfold changeLoop at member
    split at member
    · split at member
      · exact Loop.forOf_items statusLoop_keyed _ item member
      · cases member
    · cases member
  intro item member
  unfold entryLoop at member
  split at member
  · exact Loop.forOf_items changes _ item member
  · cases member

theorem ingestion_keyed (body : Option Json) : ∀ item ∈ (ingestion body).items, item.Keyed := by
  intro item member
  unfold ingestion at member
  split at member
  · cases member
  · split at member
    · cases member
    · cases member
    · split at member
      · exact Loop.forOf_items entryLoop_keyed _ item member
      · cases member

theorem receive_keyed (request : WebhookRequest) :
    ∀ item ∈ (env.receive request).items, item.Keyed := by
  intro item member
  unfold WebhookEnv.receive at member
  split at member
  · cases member
  · split at member
    · exact ingestion_keyed _ item member
    · split at member
      · exact ingestion_keyed _ item member
      · cases member
      · cases member

/-! ### Runs of requests -/

/-- The deliveries of a sequence of requests, in the order in which the route comes to them. -/
def delivered (env : WebhookEnv) (requests : List (WebhookRequest × (ℕ → Up))) :
    List (StatusItem × Up) :=
  requests.flatMap fun (request, up) => deliveries env request up

def received (env : WebhookEnv) (requests : List (WebhookRequest × (ℕ → Up))) : WebhookStore :=
  requests.foldl (fun s (request, up) => (handle env s request up).2) .empty

theorem received_eq (requests : List (WebhookRequest × (ℕ → Up))) :
    received env requests = ingestAll env .empty (delivered env requests) := by
  unfold received
  generalize WebhookStore.empty = s
  induction requests generalizing s with
  | nil => rfl
  | cons first requests ih =>
    have split : delivered env (first :: requests) =
        deliveries env first.1 first.2 ++ delivered env requests := rfl
    rw [split, ingestAll, List.foldl_append]
    exact ih _

theorem delivered_keyed (requests : List (WebhookRequest × (ℕ → Up))) :
    ∀ d ∈ delivered env requests, d.1.Keyed := by
  intro d member
  obtain ⟨⟨request, up⟩, -, present⟩ := List.mem_flatMap.mp member
  exact receive_keyed request d.1 (mem_deliveries present)

/-! ### Jobs -/

/-- The item reports this status of this message. -/
def StatusItem.Reports (item : StatusItem) (wamid statusStr : Json) : Prop :=
  item.wamid = wamid ∧ item.statusStr = statusStr

def WebhookJob.Reports (job : WebhookJob) (wamid statusStr : Json) : Prop :=
  job.wamid = wamid ∧ job.statusStr = statusStr

/-- There is exactly one job for the status of the message. -/
def WebhookStore.QueuedOnce (s : WebhookStore) (wamid statusStr : Json) : Prop :=
  ∃ earlier job later, s.jobs = earlier ++ job :: later ∧ job.Reports wamid statusStr ∧
    ∀ other ∈ earlier ++ later, ¬ other.Reports wamid statusStr

/-- The first delivery that the database takes with its event key is one of the status of the
message, and the queue is up for it. -/
def FirstQueued (env : WebhookEnv) (items : List (StatusItem × Up)) (wamid statusStr : Json) : Prop :=
  ∃ d, items.find? (reaches env d.1.eventIdempotencyKey) = some d ∧
    d.1.Reports wamid statusStr ∧ d.2.queue = true

variable {wamid statusStr : Json} {items : List (StatusItem × Up)}

theorem ingestAll_snoc (d : StatusItem × Up) :
    ingestAll env s (items ++ [d]) = ingest env (ingestAll env s items) d.1 d.2 := by
  simp [ingestAll]

theorem keys_eq {a b : StatusItem} (keyed : a.Keyed) (also : b.Keyed)
    (first : a.Reports wamid statusStr) (second : b.Reports wamid statusStr) :
    a.eventIdempotencyKey = b.eventIdempotencyKey := by
  unfold StatusItem.Keyed at keyed also
  rw [first.1, first.2] at keyed
  rw [second.1, second.2] at also
  exact Option.some.inj (keyed.symm.trans also)

theorem queuedOnce_of_first {s' : WebhookStore} {job : WebhookJob}
    (jobs : s'.jobs = s.jobs ++ [job]) (own : job.Reports wamid statusStr)
    (unqueued : ∀ job ∈ s.jobs, ¬ job.Reports wamid statusStr) : s'.QueuedOnce wamid statusStr := by
  refine ⟨s.jobs, job, [], jobs, own, ?_⟩
  rw [List.append_nil]
  exact unqueued

theorem WebhookStore.QueuedOnce.keeps {s' : WebhookStore} {job : WebhookJob}
    (once : s.QueuedOnce wamid statusStr) (jobs : s'.jobs = s.jobs ++ [job])
    (other : ¬ job.Reports wamid statusStr) : s'.QueuedOnce wamid statusStr := by
  obtain ⟨earlier, found, later, split, own, others⟩ := once
  refine ⟨earlier, found, later ++ [job], by rw [jobs, split]; simp, own, ?_⟩
  intro any member
  rw [← List.append_assoc] at member
  rcases List.mem_append.mp member with old | new
  · exact others any old
  · rw [List.mem_singleton.mp new]
    exact other

theorem stored_iff_found :
    (ingestAll env .empty items).stored key = (items.find? (reaches env key)).isSome := by
  rw [stored_ingestAll, List.isSome_find?]
  rfl

/-- One more delivery is the first with its key when no earlier one reached the database. -/
theorem firstQueued_snoc (d : StatusItem × Up) :
    FirstQueued env (items ++ [d]) wamid statusStr ↔
      FirstQueued env items wamid statusStr ∨
        (items.find? (reaches env d.1.eventIdempotencyKey) = none ∧
          reaches env d.1.eventIdempotencyKey d = true ∧ d.1.Reports wamid statusStr ∧
            d.2.queue = true) := by
  constructor
  · rintro ⟨e, found, reports, queued⟩
    rw [List.find?_append, Option.or_eq_some_iff] at found
    rcases found with before | ⟨unseen, now⟩
    · exact .inl ⟨e, before, reports, queued⟩
    · obtain rfl : d = e := List.mem_singleton.mp (List.mem_of_find?_eq_some now) |>.symm
      exact .inr ⟨unseen, List.find?_some now, reports, queued⟩
  · rintro (⟨e, found, reports, queued⟩ | ⟨unseen, reached, reports, queued⟩)
    · exact ⟨e, by rw [List.find?_append, found, Option.some_or], reports, queued⟩
    · refine ⟨d, ?_, reports, queued⟩
      rw [List.find?_append, unseen, Option.none_or, List.find?_singleton, if_pos reached]

/-- The job of a status is queued once when its first delivery is queued, and never otherwise. -/
theorem jobs_of_ingestAll (keyed : ∀ d ∈ items, d.1.Keyed) :
    (FirstQueued env items wamid statusStr →
        (ingestAll env .empty items).QueuedOnce wamid statusStr) ∧
      (¬ FirstQueued env items wamid statusStr →
        ∀ job ∈ (ingestAll env .empty items).jobs, ¬ job.Reports wamid statusStr) := by
  induction items using List.reverseRec with
  | nil =>
    constructor
    · rintro ⟨d, found, -⟩
      cases found
    · intro _ job member
      cases member
  | append_singleton items d ih =>
    have ih := ih fun e member => keyed e (List.mem_append_left _ member)
    rw [ingestAll_snoc, firstQueued_snoc]
    cases reached : reaches env d.1.eventIdempotencyKey d with
    | false =>
      -- the database does not take it: nothing changes
      rw [ingest_of_apart reached]
      simpa using ih
    | true =>
      cases duplicate : (ingestAll env .empty items).stored d.1.eventIdempotencyKey with
      | true =>
        -- a duplicate: nothing changes, and it is the first of no key
        rw [ingest_of_stored duplicate]
        rw [stored_iff_found, Option.isSome_iff_ne_none] at duplicate
        simpa [duplicate] using ih
      | false =>
        have jobs : (ingest env (ingestAll env .empty items) d.1 d.2).jobs = _ :=
          (ingest_of_new reached duplicate).2
        rw [stored_iff_found, Option.isSome_eq_false_iff, Option.isNone_iff_eq_none] at duplicate
        -- an earlier delivery of the same status would have had the same key
        have unseen (reports : d.1.Reports wamid statusStr) :
            ¬ FirstQueued env items wamid statusStr := by
          rintro ⟨e, found, also, -⟩
          have member := List.mem_of_find?_eq_some found
          have same := keys_eq (keyed e (List.mem_append_left _ member))
            (keyed d (List.mem_append_right _ (List.mem_singleton_self d))) also reports
          rw [same, duplicate] at found
          cases found
        by_cases queued : d.2.queue = true
        · rw [if_pos queued] at jobs
          by_cases reports : d.1.Reports wamid statusStr
          · constructor
            · intro _
              exact queuedOnce_of_first jobs reports (ih.2 (unseen reports))
            · intro not
              exact absurd (.inr ⟨duplicate, rfl, reports, queued⟩) not
          · constructor
            · rintro (before | ⟨-, -, now, -⟩)
              · exact (ih.1 before).keeps jobs reports
              · exact absurd now reports
            · intro not job member
              rw [jobs] at member
              rcases List.mem_append.mp member with old | new
              · exact ih.2 (fun before => not (.inl before)) job old
              · rw [List.mem_singleton.mp new]
                exact reports
        · rw [if_neg queued] at jobs
          simp only [WebhookStore.QueuedOnce, jobs]
          simpa [queued, WebhookStore.QueuedOnce] using ih

/-! ### No acknowledged event is lost -/

/-- A status that is delivered while both are up is in the queue once, and a delivery of it that
is ignored as a duplicate had its job queued before. -/
structure NotLost (env : WebhookEnv) (requests : List (WebhookRequest × (ℕ → Up)))
    (wamid statusStr : Json) : Prop where
  queued : (∃ d ∈ delivered env requests, d.1.Reports wamid statusStr ∧ d.2 = ⟨true, true⟩) →
    (received env requests).QueuedOnce wamid statusStr
  heard : ∀ earlier d later, delivered env requests = earlier ++ d :: later →
    d.1.Reports wamid statusStr → d.2 = ⟨true, true⟩ →
      (ingestAll env .empty earlier).stored d.1.eventIdempotencyKey = true →
        ∃ job ∈ (ingestAll env .empty earlier).jobs, job.Reports wamid statusStr

/-- Once both were up for the status, its first delivery that reached the database was queued. -/
theorem notLost_iff_firstQueued (env : WebhookEnv) (requests : List (WebhookRequest × (ℕ → Up)))
    (wamid statusStr : Json) :
    NotLost env requests wamid statusStr ↔
      ((∃ d ∈ delivered env requests, d.1.Reports wamid statusStr ∧ d.2 = ⟨true, true⟩) →
        FirstQueued env (delivered env requests) wamid statusStr) := by
  have keyed : ∀ d ∈ delivered env requests, d.1.Keyed := delivered_keyed requests
  have jobs : (FirstQueued env (delivered env requests) wamid statusStr →
        (ingestAll env .empty (delivered env requests)).QueuedOnce wamid statusStr) ∧
      (¬ FirstQueued env (delivered env requests) wamid statusStr →
        ∀ job ∈ (ingestAll env .empty (delivered env requests)).jobs,
          ¬ job.Reports wamid statusStr) := jobs_of_ingestAll keyed
  rw [← received_eq] at jobs
  constructor
  · intro kept up
    obtain ⟨earlier, job, later, split, own, -⟩ := kept.queued up
    by_contra unqueued
    exact jobs.2 unqueued job (by simp [split]) own
  · intro queued
    constructor
    · intro up
      exact jobs.1 (queued up)
    · intro earlier d later split reports up duplicate
      have member : d ∈ delivered env requests := by simp [split]
      obtain ⟨e, found, also, sent⟩ := queued ⟨d, member, reports, up⟩
      have same := keys_eq (keyed e (List.mem_of_find?_eq_some found)) (keyed d member) also reports
      rw [stored_iff_found, Option.isSome_iff_exists] at duplicate
      obtain ⟨first, before⟩ := duplicate
      -- the first delivery of the key is among the earlier ones
      have here : first = e := by
        rw [split, same, List.find?_append, before, Option.some_or] at found
        exact Option.some.inj found
      rw [here, ← same] at before
      have once := (jobs_of_ingestAll fun e member => keyed e (by simp [split, member])).1
        ⟨e, before, also, sent⟩
      obtain ⟨others, job, more, jobs, own, -⟩ := once
      exact ⟨job, by simp [jobs], own⟩

def signedReport : WebhookRequest where
  contentType := some "application/json"
  body := JsString.utf8 statusReport.stringify
  signature := some "sha256=17c66039c26fb33f2d507a1444214ccf20d10fc20fa7508d848d838f61aedc1f"

/-- The queue is down for the first delivery of `wamid.1_delivered`; the second one finds both up. -/
def retriedReport : List (WebhookRequest × (ℕ → Up)) :=
  [(signedReport, fun _ => ⟨true, false⟩), (signedReport, fun _ => ⟨true, true⟩)]

theorem lost_after_retry :
    ¬ NotLost statusReportEnv retriedReport (.string (js "wamid.1")) (.string (js "delivered")) := by
  intro kept
  have nothing : (received statusReportEnv retriedReport).jobs = [] := rfl
  obtain ⟨earlier, job, later, split, -⟩ := kept.queued
    ⟨((statusReportEnv.receive signedReport).items.head (by decide +kernel), ⟨true, true⟩),
      .tail _ (.head _), ⟨rfl, rfl⟩, rfl⟩
  rw [nothing] at split
  cases List.append_ne_nil_of_right_ne_nil earlier (List.cons_ne_nil job later) split.symm

end SelfOtp
