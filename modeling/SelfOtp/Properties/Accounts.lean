import SelfOtp.Lib.UniqueColumn
import SelfOtp.Properties.SystemLedger

/-! The accounts that `POST /v1/auth/register` makes, whatever else is going on. -/
namespace SelfOtp

open Pool Transition

/-! ### Accounts -/

/-- A user and the customer that was registered with it. -/
structure Account where
  email : String
  companyName : String
  userId : Id
  customerId : Id
  deriving DecidableEq

namespace Account

def customer (a : Account) : Customer := ⟨a.customerId, a.companyName, a.email, .active⟩

def user (a : Account) : User := ⟨a.userId, a.email, .active⟩

def link (a : Account) : CustomerUser := ⟨a.customerId, a.userId⟩

/-- A token of the user is accepted, and its requests act for the user's own customer. -/
def Authenticates (a : Account) (db : Database) : Prop :=
  JwtPc.step db a.userId true .findUser = some (.findCustomer a.userId) ∧
    JwtPc.step db a.userId true (.findCustomer a.userId) = some (.authenticated a.customer)

end Account

/-- The tables hold these accounts and no others. -/
structure Enrolled (accounts : List Account) (w : World) : Prop where
  customers : w.db.customers = accounts.map (·.customer)
  users : w.db.users = accounts.map (·.user)
  customerUsers : w.db.customerUsers = accounts.map (·.link)
  emails : UniqueColumn Account.email accounts
  userIds : UniqueColumn Account.userId accounts
  customerIds : UniqueColumn Account.customerId accounts
  known : ∀ a ∈ accounts, a.userId < w.nextId ∧ a.customerId < w.nextId
  wallets : ∀ a ∈ accounts, (w.db.wallets a.customerId).isSome

section Enrolled

variable {accounts : List Account} {w w' : World} {a : Account}

theorem Enrolled.authenticates (enrolled : Enrolled accounts w) (member : a ∈ accounts) :
    a.Authenticates w.db := by
  have user : w.db.users.find? (·.id == a.userId) = some a.user := by
    rw [enrolled.users]
    exact enrolled.userIds.find?_map_eq Account.user User.id (fun _ => rfl) member
  have link : w.db.customerUsers.find? (·.userId == a.userId) = some a.link := by
    rw [enrolled.customerUsers]
    exact enrolled.userIds.find?_map_eq Account.link CustomerUser.userId (fun _ => rfl) member
  have customer : w.db.findCustomer a.customerId = some a.customer := by
    unfold Database.findCustomer
    rw [enrolled.customers]
    exact enrolled.customerIds.find?_map_eq Account.customer Customer.id (fun _ => rfl) member
  have own : w.db.findCustomerOf a.userId = some a.customer := by
    unfold Database.findCustomerOf
    rw [link]
    exact customer
  constructor
  · simp only [JwtPc.step, user, if_true]
    rfl
  · simp only [JwtPc.step, own, if_true]
    rfl

end Enrolled

/-! ### What a step does to the accounts -/

structure SameAccounts (w w' : World) : Prop where
  customers : w'.db.customers = w.db.customers
  users : w'.db.users = w.db.users
  customerUsers : w'.db.customerUsers = w.db.customerUsers

section Steps

variable {env : Env} {w w' : World} {a : Answer} {ok : Bool}

theorem SameAccounts.of_db (same : w'.db = w.db) : SameAccounts w w' :=
  ⟨by rw [same], by rw [same], by rw [same]⟩

theorem SameAccounts.of_storeOtp {process : ℕ} {key : OtpKey} {data : StoredOtp} {ttlSeconds : ℚ} :
    SameAccounts w (storeOtp w process key data ttlSeconds ok) := by
  unfold storeOtp
  split <;> exact ⟨rfl, rfl, rfl⟩

theorem SendCall.step_sameAccounts {c c' : SendCall} (h : c.step env w a = some (w', c')) :
    SameAccounts w w' := by
  have move := (step_move h).1
  generalize c.pc = pc at move
  generalize c'.pc = pc' at move
  cases move with
  | refuse before same | check before same | setCooldown d same => exact .of_db same.db
  | create otpCode requestId expiresAt db created =>
    unfold Database.createOtpRequest at created
    split at created <;> cases created
    exact ⟨rfl, rfl, rfl⟩
  | store d => exact .of_storeOtp
  | saveCache d key =>
    unfold cacheResponse
    dsimp only
    split <;> exact ⟨rfl, rfl, rfl⟩
  | saveRecord d key =>
    unfold recordResponse
    split <;> exact ⟨rfl, rfl, rfl⟩
  | _ => exact ⟨rfl, rfl, rfl⟩

theorem ResendCall.step_sameAccounts {c c' : ResendCall} (h : c.step env w a = some (w', c')) :
    SameAccounts w w' := by
  have move := (step_move h).1
  generalize c.pc = pc at move
  generalize c'.pc = pc' at move
  cases move with
  | setCooldown d same => exact .of_db same.db
  | store d => exact .of_storeOtp
  | _ => exact ⟨rfl, rfl, rfl⟩

theorem VerifyCall.step_sameAccounts {c c' : VerifyCall} (h : c.step env w ok = some (w', c')) :
    SameAccounts w w' := by
  cases pc : c.pc with
  | findRecord f =>
    simp only [step, pc] at h
    split at h
    · split at h <;> cases h
      · exact ⟨rfl, rfl, rfl⟩
      · unfold mutate
        split <;> exact ⟨rfl, rfl, rfl⟩
    · cases h
      exact ⟨rfl, rfl, rfl⟩
  | maxBlock f =>
    simp only [step, pc] at h
    cases h
    exact .of_db (blockPhoneNumber_sameCore ..).db
  | maxDelete f =>
    simp only [step, pc] at h
    cases h
    cases ok <;> exact ⟨rfl, rfl, rfl⟩
  | delete f record =>
    simp only [step, pc] at h
    cases record <;> cases h <;> cases ok <;> exact ⟨rfl, rfl, rfl⟩
  | lookup | incorrectVerification | correctVerification | incorrectAttempts | maxStatus | verifiedStatus | ttl
  | writeBack =>
    simp only [step, pc] at h
    split at h <;> cases h <;> exact ⟨rfl, rfl, rfl⟩
  | verified | rejected | internalError => simp [step, pc] at h

theorem StatusCall.step_sameAccounts {c c' : StatusCall} (h : c.step w ok = some (w', c')) :
    SameAccounts w w' := by
  cases pc : c.pc with
  | findRecord =>
    simp only [step, pc] at h
    split at h
    · split at h
      · cases h
        exact ⟨rfl, rfl, rfl⟩
      · split at h <;> cases h <;> exact ⟨rfl, rfl, rfl⟩
    · cases h
      exact ⟨rfl, rfl, rfl⟩
  | expire record =>
    simp only [step, pc] at h
    split at h <;> cases h <;> exact ⟨rfl, rfl, rfl⟩
  | answered | rejected | internalError => simp [step, pc] at h

theorem JobCall.step_sameAccounts {c c' : JobCall} (h : c.step w a = some (w', c')) : SameAccounts w w' := by
  have granted {reason : String} {v : World} (paid : refunded w c reason = .ok v) : SameAccounts w v := by
    unfold refunded at paid
    split at paid <;> cases paid
    exact ⟨rfl, rfl, rfl⟩
  cases pc : c.pc with
  | createEvent res message =>
    simp only [step, pc] at h
    split at h
    · split at h
      · cases h
        exact ⟨rfl, rfl, rfl⟩
      · split at h <;> cases h <;> exact ⟨rfl, rfl, rfl⟩
    · cases h
      exact ⟨rfl, rfl, rfl⟩
  | refund res =>
    simp only [step, pc] at h
    split at h
    · split at h <;> cases h
      next paid => exact granted paid
      · exact ⟨rfl, rfl, rfl⟩
    · cases h
      exact ⟨rfl, rfl, rfl⟩
  | exhaustedRefund error =>
    simp only [step, pc] at h
    cases h
    split
    · split
      next paid => exact granted paid
      · exact ⟨rfl, rfl, rfl⟩
    · exact ⟨rfl, rfl, rfl⟩
  | exhaustedMark error | exhaustedDeadLetter error =>
    simp only [step, pc] at h
    cases h
    split <;> exact ⟨rfl, rfl, rfl⟩
  | createMessage | markSent | markFailed | send | deadLetter =>
    simp only [step, pc] at h
    split at h <;> cases h <;> exact ⟨rfl, rfl, rfl⟩
  | completed | failed => simp [step, pc] at h

theorem WebhookCall.step_sameAccounts {c c' : WebhookCall} (h : c.step w ok = some (w', c')) :
    SameAccounts w w' := by
  cases pc : c.pc with
  | findMessage | findEvent =>
    simp only [step, pc] at h
    split at h
    · split at h <;> cases h <;> exact ⟨rfl, rfl, rfl⟩
    · cases h
      exact ⟨rfl, rfl, rfl⟩
  | findOtpRequest record =>
    simp only [step, pc] at h
    split at h
    · split at h
      · split at h
        · cases h
          exact ⟨rfl, rfl, rfl⟩
        · split at h <;> cases h <;> exact ⟨rfl, rfl, rfl⟩
      · cases h
        exact ⟨rfl, rfl, rfl⟩
    · cases h
      exact ⟨rfl, rfl, rfl⟩
  | updateOtpRequest | updateMessage | createEvent =>
    simp only [step, pc] at h
    split at h <;> cases h <;> exact ⟨rfl, rfl, rfl⟩
  | markProcessed =>
    simp only [step, pc] at h
    cases h
    split <;> exact ⟨rfl, rfl, rfl⟩
  | finished | threw => simp [step, pc] at h

theorem DashboardCall.step_sameAccounts {c c' : DashboardCall} (h : c.step env w ok = some (w', c')) :
    SameAccounts w w' := by
  cases pc : c.pc with
  | authenticate sub jwt =>
    simp only [step, pc] at h
    split at h <;> cases h <;> exact ⟨rfl, rfl, rfl⟩
  | handle customer =>
    simp only [step, pc] at h
    split at h
    · have handled : SameAccounts w (c.handle env w customer).1 := by
        cases request : c.request with
        | createApplication name =>
          simp only [handle, request, Database.createApplication]
          split
          next created =>
            split at created <;> cases created
            exact ⟨rfl, rfl, rfl⟩
          · exact ⟨rfl, rfl, rfl⟩
        | createApiKey applicationId name rawSecret =>
          simp only [handle, request, Database.createApiKey]
          split
          next created =>
            split at created <;> cases created
            exact ⟨rfl, rfl, rfl⟩
          · exact ⟨rfl, rfl, rfl⟩
        | account accountRequest =>
          simp only [handle, request]
          cases accountRequest <;> exact ⟨rfl, rfl, rfl⟩
        | getApplication | deleteApplication | revokeApiKey | topup =>
          simp only [handle, request]
          split <;> exact ⟨rfl, rfl, rfl⟩
        | listApplications | listApiKeys | transactions =>
          simp only [handle, request]
          exact ⟨rfl, rfl, rfl⟩
      rw [Option.some.inj h] at handled
      exact handled
    · cases h
      exact ⟨rfl, rfl, rfl⟩
  | deleteApplication customer app =>
    simp only [step, pc, Database.deleteApplication] at h
    split at h <;> cases h
    next deleted =>
      split at deleted
      · split at deleted <;> cases deleted
        exact ⟨rfl, rfl, rfl⟩
      · cases deleted
    · exact ⟨rfl, rfl, rfl⟩
  | revokeApiKey | readWallet | readTransactions | countVerified | countFailed =>
    simp only [step, pc] at h
    split at h <;> cases h <;> exact ⟨rfl, rfl, rfl⟩
  | answered | rejected | internalError => simp [step, pc] at h

/-- The account of a registration whose transaction commits. -/
def RegisterCall.account (w : World) (c : RegisterCall) : Account :=
  ⟨c.email, c.companyName, w.nextId + 1, w.nextId⟩

/-- What the transaction does: it finds the address unused, and makes the account and its wallet. -/
structure RegisterCall.Created (w : World) (c : RegisterCall) (w' : World) : Prop where
  unused : ∀ user ∈ w.db.users, user.email ≠ c.email
  customers : w'.db.customers = w.db.customers ++ [(c.account w).customer]
  users : w'.db.users = w.db.users ++ [(c.account w).user]
  customerUsers : w'.db.customerUsers = w.db.customerUsers ++ [(c.account w).link]
  wallets : w'.db.wallets = Function.update w.db.wallets w.nextId
    (some (WalletService.getOrCreateWallet (w.db.wallets w.nextId)))
  nextId : w'.nextId = w.nextId + 3

theorem RegisterCall.create_eq_some {c : RegisterCall} (created : c.create w = some w') : c.Created w w' := by
  unfold create Database.createApplication at created
  dsimp only at created
  split at created
  next conditions =>
    split at created <;> cases created
    exact ⟨conditions.2.1, rfl, rfl, rfl, rfl, rfl⟩
  · cases created

end Steps

/-! ### Requests -/

/-- The accounts that a step commits. -/
def registration (p : System) : SystemLabel → List Account
  | .resume i a =>
    match p.threads[i]? with
    | some (.register c) =>
      if c.pc = .create ∧ a.ok = true ∧ (c.create p.shared).isSome then [c.account p.shared] else []
    | _ => []
  | .external _ => []

/-- The account of a registration that has been answered with 201. -/
def Thread.account : Thread → Option Account
  | register c =>
    match c.pc with
    | .registered userId customerId => some ⟨c.email, c.companyName, userId, customerId⟩
    | _ => none
  | _ => none

/-- The registration has been refused with `EMAIL_EXISTS`. -/
def Thread.emailRefused : Thread → Option String
  | register c =>
    match c.pc with
    | .rejected _ => some c.email
    | _ => none
  | _ => none

/-- The accounts are those in the tables and those of the answered registrations, and a registration is only
refused for the address of one of them. -/
structure Registrations (accounts : List Account) (p : System) : Prop where
  enrolled : Enrolled accounts p.shared
  answered : (p.threads.filterMap Thread.account).Perm accounts
  refused : ∀ t ∈ p.threads, ∀ email ∈ t.emailRefused, ∃ a ∈ accounts, a.email = email

/-- What a step of a request does to the accounts. -/
inductive EnrolmentStep (w w' : World) (t t' : Thread) : List Account → Prop
  | same (accounts : SameAccounts w w') (account : t'.account = t.account) : EnrolmentStep w w' t t' []
  | create (c : RegisterCall) (created : c.Created w w') (before : t.account = none)
      (after : t'.account = some (c.account w)) : EnrolmentStep w w' t t' [c.account w]

section Requests

variable {env : Env} {w w' : World} {a : Answer} {t t' : Thread}

theorem RegisterCall.step_enrolment {c c' : RegisterCall} {ok : Bool} (h : c.step w ok = some (w', c')) :
    EnrolmentStep w w' (.register c) (.register c')
      (if c.pc = .create ∧ ok = true ∧ (c.create w).isSome then [c.account w] else []) := by
  cases pc : c.pc with
  | findUser =>
    rw [if_neg (by simp)]
    simp only [step, pc] at h
    split at h
    · split at h <;> cases h <;> exact .same ⟨rfl, rfl, rfl⟩ (by simp only [Thread.account, goto, pc])
    · cases h
      exact .same ⟨rfl, rfl, rfl⟩ (by simp only [Thread.account, goto, pc])
  | create =>
    simp only [step, pc] at h
    cases ok with
    | false =>
      cases h
      exact .same ⟨rfl, rfl, rfl⟩ (by simp only [Thread.account, goto, pc])
    | true =>
      cases created : c.create w with
      | none =>
        simp only [created, if_true] at h
        cases h
        exact .same ⟨rfl, rfl, rfl⟩ (by simp only [Thread.account, goto, pc])
      | some v =>
        simp only [created, if_true] at h
        cases h
        exact .create c (create_eq_some created) (by simp only [Thread.account, pc]) rfl
  | registered | rejected | internalError => simp [step, pc] at h

theorem RegisterCall.step_refused {c c' : RegisterCall} {ok : Bool} (h : c.step w ok = some (w', c')) :
    ∀ email ∈ (Thread.register c').emailRefused, ∃ user ∈ w.db.users, user.email = email := by
  cases pc : c.pc with
  | findUser =>
    simp only [step, pc] at h
    split at h
    · split at h <;> cases h
      next user found =>
        intro email named
        cases named
        exact ⟨user, List.mem_of_find?_eq_some found, by simpa [goto] using List.find?_some found⟩
      · simp [Thread.emailRefused, goto]
    · cases h
      simp [Thread.emailRefused, goto]
  | create =>
    simp only [step, pc] at h
    split at h <;> cases h <;> simp [Thread.emailRefused, goto]
  | registered | rejected | internalError => simp [step, pc] at h

theorem Thread.handler_account (s : Session) (request : ApiRequest) :
    (handler s request).account = none ∧ (handler s request).emailRefused = none := by
  unfold handler
  cases request.endpoint <;> exact ⟨rfl, rfl⟩

theorem Thread.resume_enrolment {p : System} {i : ℕ} (found : p.threads[i]? = some t)
    (h : Thread.resume env p.shared t a = some (w', t')) :
    EnrolmentStep p.shared w' t t' (registration p (.resume i a)) ∧
      ∀ email ∈ t'.emailRefused, ∃ user ∈ p.shared.db.users, user.email = email := by
  simp only [registration, found]
  cases t with
  | authenticating request c =>
    simp only [resume] at h
    obtain ⟨c', stepped, rfl⟩ := stepped_eq_some h
    have same : SameAccounts p.shared w' := .of_db (AuthCall.step_session stepped).1.db
    split
    next s authenticated =>
      obtain ⟨account, refused⟩ := handler_account s request
      exact ⟨.same same account, by simp [refused]⟩
    · exact ⟨.same same rfl, by simp [emailRefused]⟩
  | register c =>
    obtain ⟨c', stepped, rfl⟩ := stepped_eq_some h
    exact ⟨RegisterCall.step_enrolment stepped, RegisterCall.step_refused stepped⟩
  | send c =>
    obtain ⟨c', stepped, rfl⟩ := stepped_eq_some h
    exact ⟨.same (SendCall.step_sameAccounts stepped) rfl, by simp [emailRefused]⟩
  | verify customer c =>
    obtain ⟨c', stepped, rfl⟩ := stepped_eq_some h
    exact ⟨.same (VerifyCall.step_sameAccounts stepped) rfl, by simp [emailRefused]⟩
  | resend c =>
    obtain ⟨c', stepped, rfl⟩ := stepped_eq_some h
    exact ⟨.same (ResendCall.step_sameAccounts stepped) rfl, by simp [emailRefused]⟩
  | status customer c =>
    obtain ⟨c', stepped, rfl⟩ := stepped_eq_some h
    exact ⟨.same (StatusCall.step_sameAccounts stepped) rfl, by simp [emailRefused]⟩
  | dashboard c =>
    obtain ⟨c', stepped, rfl⟩ := stepped_eq_some h
    exact ⟨.same (DashboardCall.step_sameAccounts stepped) rfl, by simp [emailRefused]⟩
  | sendOtpJob c =>
    obtain ⟨c', stepped, rfl⟩ := stepped_eq_some h
    exact ⟨.same (JobCall.step_sameAccounts stepped) rfl, by simp [emailRefused]⟩
  | webhook c =>
    obtain ⟨c', stepped, rfl⟩ := stepped_eq_some h
    exact ⟨.same (WebhookCall.step_sameAccounts stepped) rfl, by simp [emailRefused]⟩

theorem Thread.external_account {event : SystemEvent} {born : List Thread}
    (h : Thread.external w event = some (w', born)) :
    ∀ u ∈ born, u.account = none ∧ u.emailRefused = none := by
  cases event with
  | tick d =>
    cases h
    exact fun u member => (by cases member)
  | takeSendOtpJob i =>
    simp only [external] at h
    split at h <;> cases h
    intro u member
    cases List.mem_singleton.mp member
    exact ⟨rfl, rfl⟩
  | api | dashboard | register | processWebhook =>
    cases h
    intro u member
    cases List.mem_singleton.mp member
    exact ⟨rfl, rfl⟩

end Requests

/-! ### Runs -/

section Runs

variable {env : Env} {p q : System} {accounts : List Account} {w w' : World}

theorem WalletsStep.isSome {charge : Option (Id × WalletCall)} (step : WalletsStep w w' charge) {id : Id}
    (there : (w.db.wallets id).isSome) : (w'.db.wallets id).isSome := by
  cases step with
  | same wallets => rwa [wallets]
  | opened customerId wallets | posted customerId call charged balance wallet returned wallets =>
    rw [wallets, Function.update_apply]
    split
    · rfl
    · exact there

theorem Enrolled.of_same (enrolled : Enrolled accounts w) (same : SameAccounts w w')
    (grows : w.nextId ≤ w'.nextId) {charge : Option (Id × WalletCall)} (wallets : WalletsStep w w' charge) :
    Enrolled accounts w' where
  customers := same.customers.trans enrolled.customers
  users := same.users.trans enrolled.users
  customerUsers := same.customerUsers.trans enrolled.customerUsers
  emails := enrolled.emails
  userIds := enrolled.userIds
  customerIds := enrolled.customerIds
  known a there := ⟨lt_of_lt_of_le (enrolled.known a there).1 grows,
    lt_of_lt_of_le (enrolled.known a there).2 grows⟩
  wallets a there := wallets.isSome (enrolled.wallets a there)

/-- The new account differs from the others in its address, as the database holds none with it, and in its
ids, as they are new. -/
theorem Enrolled.create (enrolled : Enrolled accounts w) {c : RegisterCall} (created : c.Created w w') :
    Enrolled (accounts ++ [c.account w]) w' where
  customers := by rw [created.customers, enrolled.customers, List.map_append, List.map_singleton]
  users := by rw [created.users, enrolled.users, List.map_append, List.map_singleton]
  customerUsers := by rw [created.customerUsers, enrolled.customerUsers, List.map_append, List.map_singleton]
  emails := by
    refine enrolled.emails.concat fun a there => created.unused a.user ?_
    rw [enrolled.users]
    exact List.mem_map_of_mem there
  userIds := enrolled.userIds.concat fun a there =>
    ne_of_lt (lt_of_lt_of_le (enrolled.known a there).1 (Nat.le_succ w.nextId))
  customerIds := enrolled.customerIds.concat fun a there => ne_of_lt (enrolled.known a there).2
  known a there := by
    rw [created.nextId]
    rcases List.mem_append.mp there with old | new
    · exact ⟨Nat.lt_add_right 3 (enrolled.known a old).1, Nat.lt_add_right 3 (enrolled.known a old).2⟩
    · rw [List.mem_singleton.mp new]
      exact ⟨Nat.add_lt_add_left (by decide) w.nextId, Nat.lt_add_of_pos_right (by decide)⟩
  wallets a there := by
    rw [created.wallets, Function.update_apply]
    split
    · rfl
    · rcases List.mem_append.mp there with old | new
      · exact enrolled.wallets a old
      next apart =>
        rw [List.mem_singleton.mp new] at apart
        exact absurd rfl apart

theorem Registrations.step (registered : Registrations accounts p) {l : SystemLabel}
    (taken : Pool.step (systemProgram env) p l = some q) : Registrations (accounts ++ registration p l) q := by
  cases l with
  | resume i a =>
    obtain ⟨t, w', t', found, resumed, rfl⟩ := step_resume taken
    obtain ⟨enrolment, refused⟩ := Thread.resume_enrolment found resumed
    have grows := (Thread.resume_rows resumed).grows
    have wallets := Thread.resume_wallets resumed
    have swapped := filterMap_set_perm (f := Thread.account) found t'
    generalize registration p (.resume i a) = new at enrolment ⊢
    refine ⟨?_, ?_, fun u there email named => ?_⟩
    · cases enrolment with
      | same same =>
        rw [List.append_nil]
        exact registered.enrolled.of_same same grows wallets
      | create c created => exact registered.enrolled.create created
    · cases enrolment with
      | same same account =>
        rw [account, List.perm_append_right_iff] at swapped
        rw [List.append_nil]
        exact swapped.trans registered.answered
      | create c created before after =>
        rw [before, after, Option.toList_none, List.append_nil] at swapped
        exact swapped.trans (registered.answered.append_right _)
    · rcases mem_set_cases there with rfl | ⟨j, -, other⟩
      · obtain ⟨user, known, same⟩ := refused email named
        rw [registered.enrolled.users] at known
        obtain ⟨a, member, rfl⟩ := List.mem_map.mp known
        exact ⟨a, List.mem_append_left _ member, same⟩
      · obtain ⟨a, member, same⟩ := registered.refused u (List.mem_of_getElem? other) email named
        exact ⟨a, List.mem_append_left _ member, same⟩
  | external event =>
    obtain ⟨w', born, acted, rfl⟩ := step_external taken
    have same : External env p.shared w' born := Thread.external_cases acted
    have starts := Thread.external_account acted
    simp only [registration, List.append_nil]
    refine ⟨?_, ?_, fun u there email named => ?_⟩
    · have wallets : WalletsStep p.shared w' none := .of_db same.db
      exact registered.enrolled.of_same (.of_db same.db) same.nextId.ge wallets
    · have none_born : born.filterMap Thread.account = [] :=
        List.filterMap_eq_nil_iff.mpr fun u new => (starts u new).1
      rw [List.filterMap_append, none_born, List.append_nil]
      exact registered.answered
    · rcases List.mem_append.mp there with old | new
      · exact registered.refused u old email named
      · rw [(starts u new).2] at named
        cases named

/-- In every run from a database without accounts, the registrations that commit leave exactly one account
each, with an address, a user, a customer and a wallet of its own; these are the registrations that are
answered with 201; only an address that is taken is refused; and the token of a user acts for its own
customer. -/
theorem accounts_registered {es : List SystemLabel} (idle : p.threads = [])
    (customers : p.shared.db.customers = []) (users : p.shared.db.users = [])
    (customerUsers : p.shared.db.customerUsers = [])
    (returned : run (Pool.step (systemProgram env)) p es = some q) :
    Registrations (observed (Pool.step (systemProgram env)) registration p es) q ∧
      ∀ a ∈ observed (Pool.step (systemProgram env)) registration p es, a.Authenticates q.shared.db := by
  have start : Registrations [] p := by
    refine ⟨⟨customers, users, customerUsers, .nil, .nil, .nil, ?_, ?_⟩, ?_, ?_⟩
    · simp
    · simp
    · simp [idle]
    · simp [idle]
  have registered := run_observed (fun s seen => Registrations seen s)
    (fun _ _ _ _ registered taken => registered.step taken) start returned
  rw [List.nil_append] at registered
  exact ⟨registered, fun a member => registered.enrolled.authenticates member⟩

/-- Two registrations with one address, both of which find it unused. -/
def registerTwice : List SystemLabel :=
  let register : SystemLabel := .external (.register "it@acme.test" "Acme")
  register :: register :: resolve 0 1 ++ resolve 1 2 ++ resolve 0 1

theorem accounts_registered_once :
    ∃ q, run (Pool.step (systemProgram OtpPool.sampleEnv)) ⟨World.empty 0, []⟩ registerTwice = some q ∧
      Registrations [⟨"it@acme.test", "Acme", 1, 0⟩] q := by
  refine ⟨_, (Option.some_get (by decide +kernel)).symm, ?_⟩
  have shown : observed (Pool.step (systemProgram OtpPool.sampleEnv)) registration ⟨World.empty 0, []⟩
      registerTwice = [⟨"it@acme.test", "Acme", 1, 0⟩] := by decide +kernel
  have reached : (run (Pool.step (systemProgram OtpPool.sampleEnv)) ⟨World.empty 0, []⟩
    registerTwice).isSome = true := by decide +kernel
  have registered := (accounts_registered rfl rfl rfl rfl (Option.some_get reached).symm).1
  rw [shown] at registered
  exact registered

end Runs

end SelfOtp
