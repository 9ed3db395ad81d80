import SelfOtp.Properties.EdgeRequests
import SelfOtp.Properties.SystemLedger

/-! The ledger of a customer against the request rows: every send is charged at most once and to the
customer of its row, and no customer is ever refunded twice. -/
namespace SelfOtp

open Pool Transition WalletService

/-! ### References -/

theorem isHexDigit_digitChar : ∀ d < 16, isHexDigit (Nat.digitChar d) = true := by decide

theorem lowerHex_digitChar : ∀ d < 16, lowerHex (Nat.digitChar d) = Nat.digitChar d := by decide

theorem mem_hexDigits {k n : ℕ} {c : Char} (member : c ∈ hexDigits k n) :
    ∃ d, d < 16 ∧ c = Nat.digitChar d := by
  induction k generalizing n with
  | zero => cases member
  | succ k ih =>
    rcases List.mem_append.mp member with first | last
    · exact ih first
    · exact ⟨n % 16, Nat.mod_lt n (by decide), List.mem_singleton.mp last⟩

theorem all_hexDigits (k n : ℕ) : (hexDigits k n).all isHexDigit = true := by
  rw [List.all_eq_true]
  intro c member
  obtain ⟨d, below, rfl⟩ := mem_hexDigits member
  exact isHexDigit_digitChar d below

theorem map_lowerHex_hexDigits (k n : ℕ) : (hexDigits k n).map lowerHex = hexDigits k n := by
  refine (List.map_congr_left fun c member => ?_).trans (List.map_id _)
  obtain ⟨d, below, rfl⟩ := mem_hexDigits member
  exact lowerHex_digitChar d below

theorem matchesBlocks_cons {n : ℕ} {ns : List ℕ} {block rest : List Char} (some_left : ns ≠ [])
    (length : block.length = n) (hex : block.all isHexDigit = true) :
    matchesBlocks (n :: ns) (block ++ '-' :: rest) = matchesBlocks ns rest := by
  obtain ⟨m, ms, rfl⟩ := List.exists_cons_of_ne_nil some_left
  subst length
  simp only [matchesBlocks, List.take_left, List.drop_left, List.head?_cons, hex, beq_self_eq_true,
    Bool.and_self, Bool.true_and]
  rw [← List.drop_drop, List.drop_left]
  rfl

theorem uuidRegex_uuidText (id : Id) : uuidRegex (uuidText id) = true := by
  simp only [uuidRegex, uuidText, String.toList_ofList, List.append_assoc, List.cons_append]
  rw [matchesBlocks_cons (by decide) (Edge.hexDigits_length _ _) (all_hexDigits _ _),
    matchesBlocks_cons (by decide) (Edge.hexDigits_length _ _) (all_hexDigits _ _),
    matchesBlocks_cons (by decide) (Edge.hexDigits_length _ _) (all_hexDigits _ _),
    matchesBlocks_cons (by decide) (Edge.hexDigits_length _ _) (all_hexDigits _ _)]
  simp only [matchesBlocks, Edge.hexDigits_length, all_hexDigits, beq_self_eq_true, Bool.and_self]

theorem storedReferenceId_uuidText (id : Id) : storedReferenceId (uuidText id) = some (uuidText id) := by
  have nonempty : uuidText id ≠ "" := by
    intro empty
    have matched := uuidRegex_uuidText id
    rw [empty] at matched
    revert matched
    decide
  have dash : lowerHex '-' = '-' := by decide
  simp only [storedReferenceId, toValidUuidOrNull, nonempty, if_false, uuidRegex_uuidText, if_true,
    Option.map_some, uuidColumn]
  simp only [uuidText, String.toList_ofList, List.map_append, List.map_cons, map_lowerHex_hexDigits, dash]

theorem storedReferenceId_plain {referenceId : String} (plain : uuidRegex referenceId = false) :
    storedReferenceId referenceId = none := by
  simp only [storedReferenceId, toValidUuidOrNull, plain]
  split <;> rfl

/-! ### What a history leaves -/

/-- The request rows that the sends in the ledger refer to. -/
def chargedRows (wallet : Wallet) : List (Option String) :=
  (wallet.transactions.filter (·.referenceType == "otp_request")).map (·.referenceId)

def refunds (wallet : Wallet) : List WalletTransaction :=
  wallet.transactions.filter (·.transactionType == .refund)

section Histories

variable {env : Env} {wallet wallet' : Wallet} {call : WalletCall} {balance : ℚ}

/-- A call that returns appends its entry, or has found an earlier refund. -/
theorem result_appends (returned : call.result resolves (some wallet) = .ok (balance, wallet')) :
    (call.Reaches wallet ∧ wallet'.transactions = wallet.transactions ++ [call.entry wallet]) ∨
    ((∃ cost kind id reason, call = .refund cost kind id reason) ∧ wallet' = wallet) := by
  rcases WalletCall.result_ok returned with ⟨⟨reaches, -⟩, rfl⟩ | found
  · exact Or.inl ⟨reaches, rfl⟩
  · exact Or.inr found

private theorem history_induct {motive : Wallet → Prop}
    (posts : ∀ wallet wallet' call balance, motive wallet → Systemic env call →
      call.result resolves (some wallet) = .ok (balance, wallet') → motive wallet')
    {calls : List WalletCall} {start : Wallet} (holds : motive start)
    (systemic : ∀ call ∈ calls, Systemic env call)
    (reached : WalletCall.history resolves (some start) calls = some wallet) : motive wallet := by
  induction calls generalizing start with
  | nil =>
    cases reached
    exact holds
  | cons call calls ih =>
    have later := fun other member => systemic other (List.mem_cons_of_mem call member)
    rw [WalletCall.history_cons, WalletCall.apply] at reached
    split at reached
    next balance next returned =>
      exact ih (posts _ _ call balance holds (systemic call List.mem_cons_self) returned) later reached
    · exact ih holds later reached

/-- The rule for what every call of the system keeps. -/
theorem LeftBy.induct {motive : Wallet → Prop} (opened : motive WalletCall.opened)
    (posts : ∀ wallet wallet' call balance, motive wallet → Systemic env call →
      call.result resolves (some wallet) = .ok (balance, wallet') → motive wallet')
    {calls : List WalletCall} (left : LeftBy env calls wallet) : motive wallet :=
  history_induct posts opened left.systemic left.history

theorem refunds_append (entries : List WalletTransaction) (entry : WalletTransaction) :
    (entries ++ [entry]).filter (·.transactionType == .refund) =
      entries.filter (·.transactionType == .refund) ++
        if entry.transactionType = .refund then [entry] else [] := by
  rw [List.filter_append]
  split
  next is_refund => simp [is_refund]
  next no_refund => simp [no_refund]

/-- What is kept of the refunds: there is one at most, and it names no request. -/
structure OneRefund (wallet : Wallet) : Prop where
  count : (refunds wallet).length ≤ 1
  names : ∀ t ∈ refunds wallet, t.referenceType = "otp_request_failure" ∧ t.referenceId = none

theorem OneRefund.posted (one : OneRefund wallet) (systemic : Systemic env call)
    (returned : call.result resolves (some wallet) = .ok (balance, wallet')) : OneRefund wallet' := by
  rcases result_appends returned with ⟨reaches, appended⟩ | ⟨-, rfl⟩
  · cases systemic with
    | send | resend | topup =>
      have same : refunds wallet' = refunds wallet := by
        rw [refunds, appended, refunds_append]
        exact List.append_nil _
      exact ⟨same ▸ one.count, same ▸ one.names⟩
    | refund requestId reason plain =>
      -- another refund would have been found: none names a request
      have none_yet : refunds wallet = [] := by
        refine List.eq_nil_iff_forall_not_mem.mpr fun t member => reaches ?_
        obtain ⟨kind, unnamed⟩ := one.names t member
        obtain ⟨there, is_refund⟩ := List.mem_filter.mp member
        exact ⟨t, there, kind, unnamed.trans (storedReferenceId_plain plain).symm,
          by simpa using is_refund⟩
      have single : refunds wallet' =
          [refundEntry wallet env.otpCreditCost "otp_request_failure" requestId reason] := by
        rw [refunds, appended, refunds_append, ← refunds, none_yet]
        rfl
      constructor
      · rw [single]
        exact le_refl 1
      · rw [single]
        intro t member
        cases List.mem_singleton.mp member
        exact ⟨rfl, storedReferenceId_plain plain⟩
  · exact one

theorem chargedRows_posted (systemic : Systemic env call)
    (returned : call.result resolves (some wallet) = .ok (balance, wallet')) :
    chargedRows wallet' = chargedRows wallet ∨
      ∃ record, call = .deduct env.otpCreditCost "otp_request" (uuidText record) ∧
        chargedRows wallet' = chargedRows wallet ++ [some (uuidText record)] := by
  rcases result_appends returned with ⟨-, appended⟩ | ⟨-, rfl⟩
  · have last : chargedRows wallet' = chargedRows wallet ++
        (([call.entry wallet].filter (·.referenceType == "otp_request")).map
          (·.referenceId)) := by
      simp only [chargedRows, appended, List.filter_append, List.map_append]
    cases systemic with
    | send record =>
      refine Or.inr ⟨record, rfl, ?_⟩
      simp only [last, WalletCall.entry, debitEntry, List.filter_cons, beq_self_eq_true, if_true,
        List.filter_nil, List.map_cons, List.map_nil, storedReferenceId_uuidText]
    | resend | refund | topup => exact Or.inl (last.trans (List.append_nil _))
  · exact Or.inl rfl

end Histories

/-! ### The sends that are about to be charged -/

/-- The row that a thread is about to charge. -/
def Thread.charging : Thread → Option Id
  | send c =>
    match c.pc with
    | .debit d => some d.record
    | _ => none
  | _ => none

def Thread.charges (id : Id) (t : Thread) : ℕ := if t.charging = some id then 1 else 0

section Charging

variable {env : Env} {w w' : World} {a : Answer} {p q : System}

theorem SendCall.step_charging {c c' : SendCall} (h : c.step env w a = some (w', c')) {d : Dispatch}
    (charging : c'.pc = .debit d) : d.record = w.nextId := by
  obtain ⟨move, -⟩ := step_move h
  generalize c.pc = pc at move
  generalize c'.pc = pc' at move charging
  cases move with
  | create otpCode requestId expiresAt db created =>
    cases charging
    rfl
  | early _ after =>
    obtain rfl | ⟨_, -, rfl⟩ | ⟨-, rfl⟩ := after <;> cases charging
  | check _ _ after =>
    subst charging
    cases after
  | enqueue d | markSent d | refund d =>
    unfold finish at charging
    split at charging <;> cases charging
  | deliver d after =>
    subst after
    split at charging <;> cases charging
  | refuse | hit | miss | known | unknown | prepare | debit | unpaid | store | setCooldown | offline
  | markFailed | saveCache | saveRecord | crash => cases charging

/-- A thread that is about to charge a row has just created it. -/
theorem Thread.resume_charging {t t' : Thread} (h : Thread.resume env w t a = some (w', t')) {id : Id}
    (charging : t'.charging = some id) : id = w.nextId := by
  cases t with
  | authenticating request c =>
    simp only [resume] at h
    obtain ⟨c', stepped, rfl⟩ := stepped_eq_some h
    split at charging
    · unfold handler at charging
      split at charging <;> cases charging
    · cases charging
  | send c =>
    obtain ⟨c', stepped, rfl⟩ := stepped_eq_some h
    simp only [Thread.charging] at charging
    split at charging <;> cases charging
    next d pc => exact SendCall.step_charging stepped pc
  | verify | resend | status | dashboard | register | sendOtpJob | webhook =>
    obtain ⟨c', stepped, rfl⟩ := stepped_eq_some h
    cases charging

theorem Thread.Linked.charging {t : Thread} (linked : t.Linked env w) {id : Id}
    (charging : t.charging = some id) : ∃ r ∈ w.db.otpRequests, r.id = id := by
  cases t with
  | send c =>
    simp only [Thread.charging] at charging
    split at charging <;> cases charging
    next d pc =>
      obtain ⟨r, member, same, -⟩ := linked d (by rw [pc]; rfl)
      exact ⟨r, member, same⟩
  | _ => cases charging

end Charging

/-! ### Runs -/

/-- The sends in the ledger refer to these rows, which are the customer's and are not charged again. -/
structure SendsCharged (p : System) (customerId : Id) (wallet : Wallet) (ids : List Id) : Prop where
  distinct : ids.Nodup
  references : chargedRows wallet = ids.map fun id => some (uuidText id)
  rows : ∀ id ∈ ids, ∃ r ∈ p.shared.db.otpRequests, r.id = id ∧ r.customerId = customerId
  settled : ∀ id ∈ ids, ∀ t ∈ p.threads, t.charging ≠ some id

structure Reconciling (env : Env) (p : System) : Prop where
  filed : Filed env p
  ledgered : Ledgered env p
  alone : ∀ id, total (Thread.charges id) p.threads ≤ 1
  sends : ∀ customerId wallet, p.shared.db.wallets customerId = some wallet →
    ∃ ids, SendsCharged p customerId wallet ids

section Runs

variable {env : Env} {p q : System} {customerId : Id} {wallet : Wallet} {ids : List Id}

theorem SendsCharged.opened (p : System) (customerId : Id) :
    SendsCharged p customerId WalletCall.opened [] :=
  ⟨List.nodup_nil, rfl, fun id member => (by cases member), fun id member => (by cases member)⟩

theorem SendsCharged.bounded (charged : SendsCharged p customerId wallet ids)
    (filed : Filed env p) {id : Id} (member : id ∈ ids) : id < p.shared.nextId := by
  obtain ⟨r, there, rfl, -⟩ := charged.rows id member
  exact filed.rows.bounded r there

theorem Filed.uncharged (filed : Filed env p) {t : Thread} (member : t ∈ p.threads) :
    t.charging ≠ some p.shared.nextId := by
  intro charging
  obtain ⟨r, there, same⟩ := (filed.threads t member).charging charging
  exact absurd same (filed.rows.bounded r there).ne

theorem SendsCharged.rest (charged : SendsCharged p customerId wallet ids) (filed : Filed env p)
    {i : ℕ} {a : Answer} {t t' : Thread} {w' : World}
    (resumed : Thread.resume env p.shared t a = some (w', t')) :
    SendsCharged ⟨w', p.threads.set i t'⟩ customerId wallet ids := by
  refine ⟨charged.distinct, charged.references, fun id member => ?_, fun id member u there charging => ?_⟩
  · obtain ⟨r, old, same, owner⟩ := charged.rows id member
    obtain ⟨s, kept, keeps⟩ := (Thread.resume_rows resumed).persists old
    exact ⟨s, kept, keeps.id.trans same, keeps.customerId.trans owner⟩
  · rcases List.mem_or_eq_of_mem_set there with old | rfl
    · exact charged.settled id member u old charging
    · -- only a row that did not exist before is about to be charged
      exact absurd (Thread.resume_charging resumed charging) (charged.bounded filed member).ne

/-- A thread charges the row that it has created: no other thread does, and none will again. -/
theorem SendsCharged.charge (charged : SendsCharged p customerId wallet ids) (filed : Filed env p)
    (alone : ∀ id, total (Thread.charges id) p.threads ≤ 1) {i : ℕ} {a : Answer} {c : SendCall}
    {t' : Thread} {w' : World} (found : p.threads[i]? = some (.send c)) {d : Dispatch}
    (debits : c.pc = .debit d) (owner : c.customer.id = customerId) {wallet' : Wallet}
    (appended : chargedRows wallet' = chargedRows wallet ++ [some (uuidText d.record)])
    (resumed : Thread.resume env p.shared (.send c) a = some (w', t')) :
    SendsCharged ⟨w', p.threads.set i t'⟩ customerId wallet' (ids ++ [d.record]) := by
  have member := List.mem_of_getElem? found
  have charging : (Thread.send c).charging = some d.record := by simp only [Thread.charging, debits]
  obtain ⟨r, there, of_id, -, of_customer, -⟩ := filed.threads _ member d (by rw [debits]; rfl)
  have rest := charged.rest (i := i) filed resumed
  constructor
  case distinct =>
    refine List.nodup_append.mpr ⟨charged.distinct, by simp, fun id old new last => ?_⟩
    rw [List.mem_singleton.mp last]
    rintro rfl
    exact charged.settled _ old _ member charging
  case references =>
    rw [appended, charged.references, List.map_append]
    rfl
  case rows =>
    intro id inside
    rcases List.mem_append.mp inside with old | new
    · exact rest.rows id old
    · rw [List.mem_singleton.mp new]
      obtain ⟨s, kept, keeps⟩ := (Thread.resume_rows resumed).persists there
      exact ⟨s, kept, keeps.id.trans of_id, keeps.customerId.trans (of_customer.trans owner)⟩
  case settled =>
    intro id inside u running again
    rcases List.mem_append.mp inside with old | new
    · exact rest.settled id old u running again
    · rw [List.mem_singleton.mp new] at again
      rcases mem_set_cases running with rfl | ⟨j, apart, other⟩
      · have fresh := Thread.resume_charging resumed again
        exact absurd (of_id.trans fresh) (filed.rows.bounded r there).ne
      · have counts (v : Thread) (same : v.charging = some d.record) : Thread.charges d.record v = 1 :=
          if_pos same
        have none_other := eq_zero_of_total_le_one found other apart (alone d.record)
          (by rw [counts _ charging]; exact Nat.one_pos)
        rw [counts u again] at none_other
        cases none_other

theorem Reconciling.alone_resume (reconciling : Reconciling env p) {i : ℕ} {a : Answer} {t t' : Thread}
    {w' : World} (found : p.threads[i]? = some t)
    (resumed : Thread.resume env p.shared t a = some (w', t')) (id : Id) :
    total (Thread.charges id) (p.threads.set i t') ≤ 1 := by
  by_cases charging : t'.charging = some id
  · have fresh := Thread.resume_charging resumed charging
    have none_before : total (Thread.charges id) p.threads = 0 := by
      rw [total_eq_zero]
      intro u member
      rw [Thread.charges, fresh, if_neg (reconciling.filed.uncharged member)]
    have moved := total_set (m := Thread.charges id) found t'
    have counted : Thread.charges id t' = 1 := if_pos charging
    omega
  · have uncounted : Thread.charges id t' = 0 := if_neg charging
    have fewer := total_set_le (m := Thread.charges id) (u := t') found (by rw [uncounted]; exact Nat.zero_le _)
    exact fewer.trans (reconciling.alone id)

theorem Thread.walletCall_send {t : Thread} {record : Id} {call : WalletCall}
    (awaits : t.walletCall env = some (customerId, call))
    (send : call = .deduct env.otpCreditCost "otp_request" (uuidText record)) :
    ∃ c d, t = .send c ∧ c.pc = .debit d ∧ c.customer.id = customerId ∧
      uuidText d.record = uuidText record := by
  subst send
  cases t with
  | send c =>
    simp only [walletCall] at awaits
    split at awaits
    next d pc =>
      simp only [Option.some.injEq, Prod.mk.injEq, WalletCall.deduct.injEq, true_and] at awaits
      exact ⟨c, d, rfl, pc, awaits.1, awaits.2⟩
    · simp at awaits
    · cases awaits
  | resend c =>
    simp only [walletCall] at awaits
    split at awaits <;> simp at awaits
  | sendOtpJob c =>
    simp only [walletCall] at awaits
    split at awaits <;> simp at awaits
  | dashboard c =>
    simp only [walletCall] at awaits
    split at awaits <;> simp at awaits
  | authenticating | verify | status | register | webhook => cases awaits

/-- What a call that a thread awaits leaves of the wallet it is for. -/
theorem Reconciling.post (reconciling : Reconciling env p) {i : ℕ} {a : Answer} {t t' : Thread}
    {w' : World} (found : p.threads[i]? = some t)
    (resumed : Thread.resume env p.shared t a = some (w', t')) {call : WalletCall}
    (awaits : t.walletCall env = some (customerId, call)) {balance : ℚ} {wallet' : Wallet}
    (charged : SendsCharged p customerId wallet ids)
    (returned : call.result resolves (some wallet) = .ok (balance, wallet')) :
    ∃ ids, SendsCharged ⟨w', p.threads.set i t'⟩ customerId wallet' ids := by
  have priced := reconciling.ledgered.priced.threads t (List.mem_of_getElem? found)
  rcases chargedRows_posted (Thread.walletCall_systemic priced awaits) returned with
    same | ⟨record, send, appended⟩
  · have rest := charged.rest (i := i) reconciling.filed resumed
    exact ⟨ids, rest.distinct, same.trans rest.references, rest.rows, rest.settled⟩
  · obtain ⟨c, d, rfl, pc, owner, same⟩ := Thread.walletCall_send awaits send
    rw [← same] at appended
    exact ⟨_, charged.charge reconciling.filed reconciling.alone found pc owner appended resumed⟩

theorem Reconciling.sends_resume (reconciling : Reconciling env p) {i : ℕ} {a : Answer} {t t' : Thread}
    {w' : World} (found : p.threads[i]? = some t)
    (resumed : Thread.resume env p.shared t a = some (w', t'))
    (has : w'.db.wallets customerId = some wallet) :
    ∃ ids, SendsCharged ⟨w', p.threads.set i t'⟩ customerId wallet ids := by
  have filed := reconciling.filed
  have unchanged (old : p.shared.db.wallets customerId = some wallet) :
      ∃ ids, SendsCharged ⟨w', p.threads.set i t'⟩ customerId wallet ids := by
    obtain ⟨ids, charged⟩ := reconciling.sends customerId wallet old
    exact ⟨ids, charged.rest filed resumed⟩
  cases Thread.resume_wallets resumed with
  | same wallets => exact unchanged (wallets ▸ has)
  | opened owner wallets =>
    rw [wallets, Function.update_apply] at has
    split at has
    next same =>
      subst same
      cases existing : p.shared.db.wallets customerId with
      | some old =>
        rw [existing] at has
        cases has
        exact unchanged existing
      | none =>
        rw [existing] at has
        cases has
        exact ⟨[], (SendsCharged.opened p customerId).rest filed resumed⟩
    · exact unchanged has
  | posted owner call awaits balance paid returned wallets =>
    rw [wallets, Function.update_apply] at has
    split at has
    next same =>
      subst same
      cases has
      cases existing : p.shared.db.wallets customerId with
      | some old =>
        rw [existing] at returned
        obtain ⟨ids, charged⟩ := reconciling.sends customerId old existing
        exact reconciling.post found resumed awaits charged returned
      | none =>
        rw [existing, ← result_opened] at returned
        exact reconciling.post found resumed awaits (.opened p customerId) returned
    · exact unchanged has

theorem Thread.external_charging {w w' : World} {event : SystemEvent} {born : List Thread}
    (h : Thread.external w event = some (w', born)) : ∀ t ∈ born, t.charging = none := by
  cases event with
  | tick d =>
    cases h
    exact fun t member => (by cases member)
  | takeSendOtpJob i =>
    simp only [external] at h
    split at h <;> cases h
    intro t member
    cases List.mem_singleton.mp member
    rfl
  | api | dashboard | register | processWebhook =>
    cases h
    intro t member
    cases List.mem_singleton.mp member
    rfl

theorem Reconciling.step (reconciling : Reconciling env p) {l : SystemLabel} (parsed : TopupsParsed l)
    (taken : Pool.step (systemProgram env) p l = some q) : Reconciling env q := by
  have filed := reconciling.filed.step taken
  have ledgered := reconciling.ledgered.step parsed taken
  cases l with
  | resume i a =>
    obtain ⟨t, w', t', found, resumed, rfl⟩ := step_resume taken
    exact ⟨filed, ledgered, reconciling.alone_resume found resumed,
      fun customerId wallet => reconciling.sends_resume found resumed⟩
  | external event =>
    obtain ⟨w', born, acted, rfl⟩ := step_external taken
    have same : External env p.shared w' born := Thread.external_cases acted
    have uncharging := Thread.external_charging acted
    refine ⟨filed, ledgered, fun id => ?_, fun customerId wallet has => ?_⟩
    · have none_born : total (Thread.charges id) born = 0 := by
        rw [total_eq_zero]
        intro t member
        rw [Thread.charges, uncharging t member, if_neg (by simp)]
      rw [total_append, none_born]
      exact reconciling.alone id
    · simp only [same.db] at has
      obtain ⟨ids, charged⟩ := reconciling.sends customerId wallet has
      refine ⟨ids, charged.distinct, charged.references, ?_, fun id member t there => ?_⟩
      · simp only [same.db]
        exact charged.rows
      · rcases List.mem_append.mp there with old | new
        · exact charged.settled id member t old
        · rw [uncharging t new]
          simp

theorem Opening.reconciling (opening : Opening p) : Reconciling env p := by
  refine ⟨opening.toUnused.filed, opening.ledgered, fun id => ?_, fun customerId wallet has => ?_⟩
  · rw [opening.threads]
    exact Nat.zero_le 1
  · rw [opening.wallets customerId wallet has]
    exact ⟨[], .opened p customerId⟩

/-- Whatever is interleaved, the sends that the ledger of a customer charges are those of different
request rows, all of them the customer's own. -/
theorem sends_charged_once {es : List SystemLabel} (opening : Opening p)
    (parsed : ∀ l ∈ es, TopupsParsed l)
    (ran : Transition.run (Pool.step (systemProgram env)) p es = some q)
    (has : q.shared.db.wallets customerId = some wallet) :
    ∃ ids : List Id, ids.Nodup ∧ chargedRows wallet = ids.map (fun id => some (uuidText id)) ∧
      ∀ id ∈ ids, ∃ r ∈ q.shared.db.otpRequests, r.id = id ∧ r.customerId = customerId := by
  have reconciling : Reconciling env q :=
    run_invariant_of_respects (Reconciling env)
      (fun _ l _ reconciling (parsed : TopupsParsed l) => reconciling.step parsed) opening.reconciling
      (respects_of_forall (fun l member _ => parsed l member) p) ran
  obtain ⟨ids, charged⟩ := reconciling.sends customerId wallet has
  exact ⟨ids, charged.distinct, charged.references, charged.rows⟩

/-- Every refund is entered without a reference, so a customer is refunded once at most, however
many of the messages fail. -/
theorem refunded_at_most_once {es : List SystemLabel} (opening : Opening p)
    (parsed : ∀ l ∈ es, TopupsParsed l)
    (ran : Transition.run (Pool.step (systemProgram env)) p es = some q)
    (has : q.shared.db.wallets customerId = some wallet) :
    (refunds wallet).length ≤ 1 ∧ ∀ t ∈ refunds wallet, t.referenceId = none := by
  obtain ⟨calls, left⟩ := (opening.ledgered.run parsed ran).wallets customerId wallet has
  have one : OneRefund wallet :=
    left.induct ⟨Nat.zero_le 1, fun t member => (by cases member)⟩
      fun _ _ _ _ one systemic returned => one.posted systemic returned
  exact ⟨one.count, fun t member => (one.names t member).2⟩

end Runs

/-! ### A run -/

/-- Two sends of a customer, both refused by the provider. -/
def twoRefusals : List SystemLabel :=
  Billing.sampleSend "+4915112345678" 7 0 ++ .resume 1 (.rejected "Meta API error (HTTP 400)") :: resolve 1 5 ++
    Billing.sampleSend "+4915112345679" 8 2 ++ .resume 3 (.rejected "Meta API error (HTTP 400)") :: resolve 3 5

theorem sends_charged_once_twoRefusals :
    ∃ q wallet, Transition.run (Pool.step (systemProgram OtpPool.sampleEnv)) sampleSystem twoRefusals =
        some q ∧
      q.shared.db.wallets 1 = some wallet ∧
      ∃ ids : List Id, ids.Nodup ∧ chargedRows wallet = ids.map (fun id => some (uuidText id)) ∧
        ∀ id ∈ ids, ∃ r ∈ q.shared.db.otpRequests, r.id = id ∧ r.customerId = 1 :=
  ⟨_, _, (Option.some_get (by decide +kernel)).symm, (Option.some_get (by decide +kernel)).symm,
    sends_charged_once sampleSystem_opening (by decide +kernel)
      (Option.some_get (by decide +kernel)).symm (Option.some_get (by decide +kernel)).symm⟩

theorem refunded_at_most_once_twoRefusals :
    ∃ q wallet, Transition.run (Pool.step (systemProgram OtpPool.sampleEnv)) sampleSystem twoRefusals =
        some q ∧
      q.shared.db.wallets 1 = some wallet ∧
      (refunds wallet).length ≤ 1 ∧ ∀ t ∈ refunds wallet, t.referenceId = none :=
  ⟨_, _, (Option.some_get (by decide +kernel)).symm, (Option.some_get (by decide +kernel)).symm,
    refunded_at_most_once sampleSystem_opening (by decide +kernel)
      (Option.some_get (by decide +kernel)).symm (Option.some_get (by decide +kernel)).symm⟩

end SelfOtp
