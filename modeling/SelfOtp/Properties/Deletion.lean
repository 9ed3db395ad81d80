import Mathlib.Data.List.Nodup
import SelfOtp.Properties.TenantIsolation

/-! When `DELETE /v1/applications/:app_id` completes. -/
namespace SelfOtp

open Pool Transition

/-- No row of another customer has changed, nor a row of a table without a customer column. -/
structure OthersKept (customerId : Id) (db db' : Database) : Prop where
  customers : db'.customers.filter (·.id ≠ customerId) = db.customers.filter (·.id ≠ customerId)
  customerUsers : db'.customerUsers.filter (·.customerId ≠ customerId) =
    db.customerUsers.filter (·.customerId ≠ customerId)
  applications : db'.applications.filter (·.customerId ≠ customerId) =
    db.applications.filter (·.customerId ≠ customerId)
  apiKeys : db'.apiKeys.filter (·.customerId ≠ customerId) =
    db.apiKeys.filter (·.customerId ≠ customerId)
  otpRequests : db'.otpRequests.filter (·.customerId ≠ customerId) =
    db.otpRequests.filter (·.customerId ≠ customerId)
  messages : db'.messages.filter (·.customerId ≠ customerId) =
    db.messages.filter (·.customerId ≠ customerId)
  idempotencyKeys : db'.idempotencyKeys.filter (·.customerId ≠ customerId) =
    db.idempotencyKeys.filter (·.customerId ≠ customerId)
  wallets : ∀ other, other ≠ customerId → db'.wallets other = db.wallets other
  users : db'.users = db.users
  otpVerifications : db'.otpVerifications = db.otpVerifications
  messageEvents : db'.messageEvents = db.messageEvents
  webhookEvents : db'.webhookEvents = db.webhookEvents

/-- Thread `i` has answered 204, the application and its keys are gone, and nothing of another
customer has changed. -/
structure ApplicationDeleted (p q : System) (i : ℕ) (customer : Customer) (appId : Id) : Prop where
  noContent : q.threads[i]? =
    some (.dashboard ⟨.deleteApplication appId, .answered customer .noContent⟩)
  application : ∀ a ∈ q.shared.db.applications, a.id ≠ appId
  apiKeys : ∀ k ∈ q.shared.db.apiKeys, k.applicationId ≠ appId
  others : OthersKept customer.id p.shared.db q.shared.db

/-- No row with a foreign key that restricts refers to the application or to a key of it, and its
keys are the customer's own. -/
structure Deletable (db : Database) (appId customerId : Id) : Prop where
  unrequested : ∀ r ∈ db.otpRequests, r.applicationId ≠ appId
  unused : ∀ k ∈ db.apiKeys, k.applicationId = appId → ∀ r ∈ db.otpRequests, r.apiKeyId ≠ some k.id
  unsaved : ∀ i ∈ db.idempotencyKeys, i.applicationId ≠ appId
  own : ∀ k ∈ db.apiKeys, k.applicationId = appId → k.customerId = customerId

section Deletion

variable {env : Env} {p q : System} {i : ℕ} {customer : Customer} {appId : Id} {app : Application}
  {a b : Answer}

theorem Database.findApplication_eq_some {db : Database} {customerId : Id}
    (found : db.findApplication appId customerId = some app) :
    app ∈ db.applications ∧ app.id = appId ∧ app.customerId = customerId := by
  have holds := List.find?_some found
  rw [Bool.and_eq_true, beq_iff_eq, beq_iff_eq] at holds
  exact ⟨List.mem_of_find?_eq_some found, holds⟩

theorem Database.deleteApplication_eq_some {db db' : Database} {id : Id} :
    db.deleteApplication id = some db' ↔
      ((∃ a ∈ db.applications, a.id = id) ∧ (∀ r ∈ db.otpRequests, r.applicationId ≠ id) ∧
        (∀ k ∈ db.apiKeys, k.applicationId = id → ∀ r ∈ db.otpRequests, r.apiKeyId ≠ some k.id) ∧
        ∀ i ∈ db.idempotencyKeys, i.applicationId ≠ id) ∧
      db' = { db with
        applications := db.applications.filter (·.id ≠ id)
        apiKeys := db.apiKeys.filter (·.applicationId ≠ id) } := by
  unfold deleteApplication
  split
  next meets =>
    rw [Option.some.injEq]
    constructor
    · rintro rfl
      exact ⟨meets, rfl⟩
    · rintro ⟨-, rfl⟩
      rfl
  next fails => simp only [fails, false_and, reduceCtorEq]

/-- What the request does once its owner is authenticated: the look-up, then the deletion. -/
theorem delete_run
    (handler : p.threads[i]? = some (.dashboard ⟨.deleteApplication appId, .handle customer⟩))
    (owned : p.shared.db.findApplication appId customer.id = some app)
    (answered : a.ok = true ∧ b.ok = true) :
    run (Pool.step (systemProgram env)) p [.resume i a, .resume i b] = some
      (match p.shared.db.deleteApplication appId with
      | some db => ⟨{ p.shared with db := db }, p.threads.set i
          (.dashboard ⟨.deleteApplication appId, .answered customer .noContent⟩)⟩
      | none => ⟨p.shared, p.threads.set i
          (.dashboard ⟨.deleteApplication appId, .internalError⟩)⟩) := by
  have inside := (List.getElem?_eq_some_iff.mp handler).1
  have same : app.id = appId := (Database.findApplication_eq_some owned).2.1
  -- the first answer finds the application, the second one is that of the deletion
  have first : Pool.step (systemProgram env) p (.resume i a) = some ⟨p.shared, p.threads.set i
      (.dashboard ⟨.deleteApplication appId, .deleteApplication customer app⟩)⟩ := by
    simp only [Pool.step, handler, systemProgram, Thread.resume, DashboardCall.step, answered.1,
      if_true, DashboardCall.handle, owned, Thread.stepped, Option.map_some, DashboardCall.goto]
  have held : (p.threads.set i
      (.dashboard ⟨.deleteApplication appId, .deleteApplication customer app⟩))[i]? =
      some (.dashboard ⟨.deleteApplication appId, .deleteApplication customer app⟩) :=
    List.getElem?_set_self inside
  rw [run, first, Option.bind_some, run]
  simp only [Pool.step, held, systemProgram, Thread.resume, DashboardCall.step, answered.2,
    if_true, same, List.set_set]
  cases p.shared.db.deleteApplication appId with
  | some db => rfl
  | none => rfl

/-- The rows that the deletion takes away are all of the customer. -/
theorem Deletable.others {db db' : Database} (deletable : Deletable db appId customer.id)
    (primary : (db.applications.map (·.id)).Nodup)
    (owned : db.findApplication appId customer.id = some app)
    (deleted : db.deleteApplication appId = some db') : OthersKept customer.id db db' := by
  obtain ⟨-, rfl⟩ := Database.deleteApplication_eq_some.mp deleted
  obtain ⟨member, of_id, of_customer⟩ := Database.findApplication_eq_some owned
  -- the id names one application, and it is the customer's
  have applications : ∀ a ∈ db.applications, a.id = appId → a.customerId = customer.id := by
    intro other there same
    rw [List.inj_on_of_nodup_map primary there member (same.trans of_id.symm)]
    exact of_customer
  refine ⟨rfl, rfl, ?_, ?_, rfl, rfl, rfl, fun _ _ => rfl, rfl, rfl, rfl, rfl⟩
  · rw [List.filter_filter]
    refine List.filter_congr fun a there => ?_
    by_cases same : a.id = appId
    · simp [applications a there same]
    · simp [same]
  · rw [List.filter_filter]
    refine List.filter_congr fun k there => ?_
    by_cases same : k.applicationId = appId
    · simp [deletable.own k there same]
    · simp [same]

/-- The owner's request to delete an application completes if and only if no OTP request and no
idempotency record refers to the application, no OTP request refers to one of its keys, and no key
of it is another customer's. -/
theorem delete_completes_iff (primary : (p.shared.db.applications.map (·.id)).Nodup)
    (handler : p.threads[i]? = some (.dashboard ⟨.deleteApplication appId, .handle customer⟩))
    (owned : p.shared.db.findApplication appId customer.id = some app)
    (answered : a.ok = true ∧ b.ok = true) :
    (∃ q, run (Pool.step (systemProgram env)) p [.resume i a, .resume i b] = some q ∧
      ApplicationDeleted p q i customer appId) ↔
    Deletable p.shared.db appId customer.id := by
  have inside := (List.getElem?_eq_some_iff.mp handler).1
  obtain ⟨member, of_id, -⟩ := Database.findApplication_eq_some owned
  rw [delete_run handler owned answered]
  constructor
  · rintro ⟨q, reached, done⟩
    obtain rfl := Option.some.inj reached
    cases deleted : p.shared.db.deleteApplication appId with
    -- a foreign key has refused the deletion, and the answer is not 204
    | none =>
      have stuck := done.noContent
      rw [deleted, List.getElem?_set_self inside] at stuck
      cases stuck
    | some db =>
      have others := done.others.apiKeys
      simp only [deleted] at others
      obtain ⟨⟨-, unrequested, unused, unsaved⟩, rfl⟩ := Database.deleteApplication_eq_some.mp deleted
      refine ⟨unrequested, unused, unsaved, fun k there same => ?_⟩
      -- a key of another customer would be among the rows that are kept
      by_contra foreign
      have kept : k ∈ p.shared.db.apiKeys.filter (·.customerId ≠ customer.id) := by
        simp [there, foreign]
      rw [← others] at kept
      simp [same] at kept
  · intro deletable
    obtain ⟨db, deleted⟩ : ∃ db, p.shared.db.deleteApplication appId = some db :=
      ⟨_, Database.deleteApplication_eq_some.mpr ⟨⟨⟨app, member, of_id⟩, deletable.unrequested,
        deletable.unused, deletable.unsaved⟩, rfl⟩⟩
    have others := deletable.others primary owned deleted
    refine ⟨_, rfl, ?_⟩
    rw [deleted]
    obtain ⟨-, rfl⟩ := Database.deleteApplication_eq_some.mp deleted
    exact ⟨List.getElem?_set_self inside, fun a there => by simpa using (List.mem_filter.mp there).2,
      fun k there => by simpa using (List.mem_filter.mp there).2, others⟩

/-! ### After a send -/

/-- No step of the system deletes an OTP request, or files it under another application. -/
theorem request_persists_step {l : SystemLabel}
    (filed : ∃ r ∈ p.shared.db.otpRequests, r.applicationId = appId)
    (taken : Pool.step (systemProgram env) p l = some q) :
    ∃ r ∈ q.shared.db.otpRequests, r.applicationId = appId := by
  have rows {target : Option RowChange} (rows : RowsTo p.shared q.shared target) :
      ∃ r ∈ q.shared.db.otpRequests, r.applicationId = appId := by
    obtain ⟨r, member, of_app⟩ := filed
    obtain ⟨s, kept, same⟩ := rows.persists member
    exact ⟨s, kept, same.applicationId.trans of_app⟩
  cases l with
  | resume j answer =>
    obtain ⟨t, w', u, -, resumed, rfl⟩ := step_resume taken
    exact rows (Thread.resume_rows resumed)
  | external event =>
    obtain ⟨w', born, acted, rfl⟩ := step_external taken
    exact rows (Thread.external_cases acted : External env _ _ _).rows

theorem delete_refused (filed : ∃ r ∈ p.shared.db.otpRequests, r.applicationId = appId)
    (handler : p.threads[i]? = some (.dashboard ⟨.deleteApplication appId, .handle customer⟩))
    (owned : p.shared.db.findApplication appId customer.id = some app)
    (answered : a.ok = true ∧ b.ok = true) :
    run (Pool.step (systemProgram env)) p [.resume i a, .resume i b] =
      some ⟨p.shared, p.threads.set i (.dashboard ⟨.deleteApplication appId, .internalError⟩)⟩ := by
  obtain ⟨r, member, of_app⟩ := filed
  have refused : p.shared.db.deleteApplication appId = none := by
    cases deleted : p.shared.db.deleteApplication appId with
    | none => rfl
    | some db =>
      obtain ⟨⟨-, unrequested, -⟩, -⟩ := Database.deleteApplication_eq_some.mp deleted
      exact absurd of_app (unrequested r member)
  rw [delete_run handler owned answered, refused]

/-- Once an application has an OTP request, every later request to delete it ends with an internal
error and changes nothing. -/
theorem delete_fails_after_send {es : List SystemLabel}
    (filed : ∃ r ∈ p.shared.db.otpRequests, r.applicationId = appId)
    (reached : run (Pool.step (systemProgram env)) p es = some q)
    (handler : q.threads[i]? = some (.dashboard ⟨.deleteApplication appId, .handle customer⟩))
    (owned : q.shared.db.findApplication appId customer.id = some app)
    (answered : a.ok = true ∧ b.ok = true) :
    run (Pool.step (systemProgram env)) q [.resume i a, .resume i b] =
      some ⟨q.shared, q.threads.set i (.dashboard ⟨.deleteApplication appId, .internalError⟩)⟩ := by
  have filed := run_invariant
    (fun p : System => ∃ r ∈ p.shared.db.otpRequests, r.applicationId = appId)
    (fun _ _ _ filed taken => request_persists_step filed taken) filed reached
  exact delete_refused filed handler owned answered

end Deletion

/-! ### Runs -/

/-- Beta creates an API key for its application. -/
def createsKey : List SystemLabel :=
  .external (.dashboard 5 (.createApiKey 6 "server" "ff")) :: resolve 0 3

/-- Beta sends a code with the key. -/
def sendsCode : List SystemLabel :=
  .external (.api (some "wotp_live_ff") ⟨.send ⟨"+4915112345678", none, 300, "otp_auth_v1", "en_US"⟩
    none, "198.51.100.7", none, 0, 7, 0⟩) :: resolve 1 29

/-- Beta asks for the deletion of its application, as thread `i`, and is authenticated. -/
def asksDeletion (i : ℕ) : List SystemLabel :=
  .external (.dashboard 5 (.deleteApplication 6)) :: resolve i 2

/-- Beta deletes its application, whose key has never been used. -/
def deletingUnused : System :=
  (run (Pool.step (systemProgram OtpPool.sampleEnv)) twoTenants (createsKey ++ asksDeletion 1)).get
    (by decide +kernel)

/-- An application with a key that was never used is deleted. -/
theorem delete_completes_of_unused_key :
    ∃ p q, run (Pool.step (systemProgram OtpPool.sampleEnv)) twoTenants
        (createsKey ++ asksDeletion 1) = some p ∧
      run (Pool.step (systemProgram OtpPool.sampleEnv)) p [.resume 1 .resolved, .resume 1 .resolved] =
        some q ∧
      ApplicationDeleted p q 1 ⟨4, "Beta", "it@beta.test", .active⟩ 6 := by
  have deletable : Deletable deletingUnused.shared.db 6 4 :=
    ⟨by decide +kernel, by decide +kernel, by decide +kernel, by decide +kernel⟩
  have completes : ∃ q, run (Pool.step (systemProgram OtpPool.sampleEnv)) deletingUnused
      [.resume 1 .resolved, .resume 1 .resolved] = some q ∧
      ApplicationDeleted deletingUnused q 1 ⟨4, "Beta", "it@beta.test", .active⟩ 6 :=
    (delete_completes_iff (by decide +kernel) (Option.some_get (by decide +kernel)).symm
      (Option.some_get (by decide +kernel)).symm ⟨rfl, rfl⟩).mpr deletable
  obtain ⟨q, reached, deleted⟩ := completes
  exact ⟨_, q, (Option.some_get (by decide +kernel)).symm, reached, deleted⟩

theorem Thread.of_handling {t : Thread} {c : DashboardCall} {customer : Customer}
    (handling : t.handling = some (c, customer)) : t = dashboard c := by
  cases t with
  | dashboard d =>
    simp only [Thread.handling] at handling
    split at handling <;> cases handling
    rfl
  | authenticating | send | verify | resend | status | register | sendOtpJob | webhook =>
    cases handling

/-- Beta deletes its application after a send. -/
def deletingAfterSend : System :=
  (run (Pool.step (systemProgram OtpPool.sampleEnv)) twoTenants
    (createsKey ++ sendsCode ++ asksDeletion 2)).get (by decide +kernel)

/-- After a send the deletion answers with an internal error. -/
theorem delete_refused_after_send :
    ¬ ∀ (env : Env) (p q : System) (es : List SystemLabel) (i : ℕ) (customer : Customer) (appId : Id)
      (app : Application) (a b : Answer), Registered p →
      run (Pool.step (systemProgram env)) p es = some q →
      q.threads[i]? = some (.dashboard ⟨.deleteApplication appId, .handle customer⟩) →
      q.shared.db.findApplication appId customer.id = some app → a.ok = true ∧ b.ok = true →
      ∃ r, run (Pool.step (systemProgram env)) q [.resume i a, .resume i b] = some r ∧
        ApplicationDeleted q r i customer appId := by
  intro completes
  have handler : deletingAfterSend.threads[2]? = some (.dashboard
      ⟨.deleteApplication 6, .handle ⟨4, "Beta", "it@beta.test", .active⟩⟩) := by
    obtain ⟨t, there, handling⟩ := Option.bind_eq_some_iff.mp
      (by decide +kernel : (deletingAfterSend.threads[2]?).bind Thread.handling =
        some (⟨.deleteApplication 6, .handle ⟨4, "Beta", "it@beta.test", .active⟩⟩,
          ⟨4, "Beta", "it@beta.test", .active⟩))
    rw [there, Thread.of_handling handling]
  have owned : deletingAfterSend.shared.db.findApplication 6 4 =
      some ⟨6, 4, "Beta - Default", none⟩ := by decide +kernel
  obtain ⟨r, ended, deleted⟩ := completes OtpPool.sampleEnv twoTenants deletingAfterSend _ 2 _ 6 _
    .resolved .resolved twoTenants_registered (Option.some_get (by decide +kernel)).symm handler owned
    ⟨rfl, rfl⟩
  have refused : run (Pool.step (systemProgram OtpPool.sampleEnv)) deletingAfterSend
      [.resume 2 .resolved, .resume 2 .resolved] = _ :=
    delete_refused (by decide +kernel) handler owned ⟨rfl, rfl⟩
  obtain rfl := Option.some.inj (refused.symm.trans ended)
  have stuck := deleted.noContent
  rw [List.getElem?_set_self (by decide +kernel)] at stuck
  cases stuck

end SelfOtp
