import SelfOtp.Model.EdgeSystem

/-! The steps between the awaited calls of a send, a verification and a resend. -/
namespace SelfOtp.Edge

theorem mem_of_single {α : Type} {rows : List α} {row : α} (found : single rows = some row) :
    row ∈ rows := by
  unfold single at found
  split at found <;> cases found
  exact List.mem_singleton_self row

theorem Database.mem_of_findOtpRequests {db : Database} {customerId : Id} {requestId : JsString}
    {r : OtpRequest} (found : single (db.findOtpRequests customerId requestId) = some r) :
    r ∈ db.otpRequests :=
  List.mem_of_mem_filter (mem_of_single found)

/-- An error of the look-up, or no row, or a row. -/
theorem lookup_cases {α : Type} {ok : Bool} {rows : List α} {row : α}
    (found : (if ok then single rows else none) = some row) : single rows = some row := by
  split at found
  · exact found
  · cases found

theorem SendCall.describe_cases (phoneNumber : Json) :
    (∃ description, SendCall.describe phoneNumber = .deduct description) ∨
      SendCall.describe phoneNumber = .answered .crashed [] := by
  unfold describe textOr
  split
  · exact Or.inl ⟨_, rfl⟩
  · exact Or.inr rfl

/-- What a step of a send does. -/
inductive SendMove (env : Env) (w : World) (c : SendCall) : SendPc → SendPc → Prop
  | cached (key : JsString) (cached : IdempotencyKey) : SendMove env w c (.lookup key)
      (.answered (.sent cached.responseCode cached.responseBody) [])
  | describe (key description : JsString) : SendMove env w c (.lookup key) (.deduct description)
  | unreadable (key : JsString) : SendMove env w c (.lookup key) (.answered .crashed [])
  | refuse (description : JsString) (message : String) : SendMove env w c (.deduct description)
      (.answered (errorResponse message "INSUFFICIENT_FUNDS" 402) [])
  | charge (description otpCode : JsString) (generated : generateOtp c.length c.random = some otpCode) :
      SendMove env w c (.deduct description) (.hash otpCode)
  | crash (description : JsString) (thrown : generateOtp c.length c.random = none) :
      SendMove env w c (.deduct description) (.answered .crashed [])
  | hash (otpCode : JsString) : SendMove env w c (.hash otpCode) (.dispatch otpCode
      ⟨hashOtp env otpCode, newRequestId c.uuid, w.now + env.otpExpirySeconds * 1000⟩)
  | dispatch (otpCode : JsString) (d : Prepared) (delivery : MetaSendResult) :
      SendMove env w c (.dispatch otpCode d) (.insert d delivery)
  | insert (d : Prepared) (metaResult : MetaSendResult) (writes : List Write) :
      SendMove env w c (.insert d metaResult)
        (.answered (.sent 200 (SendCall.responsePayload env (c.row w d metaResult))) writes)
  | fail (d : Prepared) (metaResult : MetaSendResult) (message : JsString) :
      SendMove env w c (.insert d metaResult) (.refund message)
  | refund (message : JsString) : SendMove env w c (.refund message)
      (.answered (.error message "SERVER_ERROR" 500) [])
  | write (reply : Reply) (first : Write) (rest : List Write) :
      SendMove env w c (.answered reply (first :: rest)) (.answered reply rest)

/-- What a step of a verification does. -/
inductive VerifyMove (env : Env) (w : World) (c : VerifyCall) : VerifyPc → VerifyPc → Prop
  | missing : VerifyMove env w c .findRow (.answered notFound)
  | used (otp : OtpRequest) (found : single (w.db.findOtpRequests c.customerId c.requestId) = some otp)
      (verified : otp.status = .verified) : VerifyMove env w c .findRow (.answered alreadyVerified)
  | lapse (otp : OtpRequest) (found : single (w.db.findOtpRequests c.customerId c.requestId) = some otp)
      (unverified : otp.status ≠ .verified) (late : otp.expiresAt < w.now) :
      VerifyMove env w c .findRow (.expire otp)
  | read (otp : OtpRequest) (found : single (w.db.findOtpRequests c.customerId c.requestId) = some otp)
      (unverified : otp.status ≠ .verified) (in_time : w.now ≤ otp.expiresAt) :
      VerifyMove env w c .findRow (.recordAttempt otp)
  | expire (otp : OtpRequest) : VerifyMove env w c (.expire otp)
      (.answered (errorResponse "OTP has expired" "OTP_EXPIRED" 400))
  | exceed (otp : OtpRequest) : VerifyMove env w c (.recordAttempt otp)
      (.answered (errorResponse "Maximum verification attempts exceeded" "MAX_ATTEMPTS_EXCEEDED" 400))
  | crash (otp : OtpRequest) (unreadable : c.code.toText = none) :
      VerifyMove env w c (.recordAttempt otp) (.answered .crashed)
  | count (otp : OtpRequest) (code : JsString) (attempts : Option ℕ) (text : c.code.toText = some code) :
      VerifyMove env w c (.recordAttempt otp) (.compare otp code attempts)
  | differ (otp : OtpRequest) (code : JsString) (attempts : Option ℕ)
      (wrong : hashOtp env code.trim ≠ otp.otpHash) : VerifyMove env w c (.compare otp code attempts)
      (.answered (VerifyCall.invalidCode (VerifyCall.remaining otp attempts)))
  | agree (otp : OtpRequest) (code : JsString) (attempts : Option ℕ)
      (right : hashOtp env code.trim = otp.otpHash) :
      VerifyMove env w c (.compare otp code attempts) (.markVerified otp w.now)
  | mark (otp : OtpRequest) (now : Millis) : VerifyMove env w c (.markVerified otp now)
      (.answered (.verified ⟨otp.id, otp.requestId, now⟩))

/-- What a step of a resend does. -/
inductive ResendMove (env : Env) (w : World) (c : ResendCall) : ResendPc → ResendPc → Prop
  | missing : ResendMove env w c .findRow (.answered notFound)
  | used (otp : OtpRequest) (found : single (w.db.findOtpRequests c.customerId c.requestId) = some otp)
      (verified : otp.status = .verified) : ResendMove env w c .findRow (.answered alreadyVerified)
  | wait (otp : OtpRequest) (found : single (w.db.findOtpRequests c.customerId c.requestId) = some otp)
      (unverified : otp.status ≠ .verified)
      (early : ResendCall.elapsedSeconds w otp < env.otpCooldownSeconds) :
      ResendMove env w c .findRow
        (.answered (ResendCall.cooldownActive env (ResendCall.elapsedSeconds w otp)))
  | crash : ResendMove env w c .findRow (.answered .crashed)
  | read (otp : OtpRequest) (otpCode : JsString)
      (found : single (w.db.findOtpRequests c.customerId c.requestId) = some otp)
      (unverified : otp.status ≠ .verified)
      (elapsed : env.otpCooldownSeconds ≤ ResendCall.elapsedSeconds w otp) :
      ResendMove env w c .findRow (.hash otp otpCode)
  | hash (otp : OtpRequest) (otpCode : JsString) : ResendMove env w c (.hash otp otpCode)
      (.dispatch otp otpCode (hashOtp env otpCode) (w.now + env.otpExpirySeconds * 1000))
  | dispatch (otp : OtpRequest) (otpCode : JsString) (otpHash : String) (expiresAt : Millis) :
      ResendMove env w c (.dispatch otp otpCode otpHash expiresAt) (.update otp otpHash expiresAt)
  | update (otp : OtpRequest) (otpHash : String) (expiresAt : Millis) :
      ResendMove env w c (.update otp otpHash expiresAt)
        (.answered (.resent ⟨otp.id, otp.requestId, expiresAt, env.otpCooldownSeconds⟩))

section Moves

variable {env : Env} {w w' : World} {a : Answer}

theorem SendCall.step_move {c c' : SendCall} (h : c.step env w a = some (w', c')) :
    SendMove env w c c.pc c'.pc ∧ c' = c.goto c'.pc := by
  cases pc : c.pc with
  | lookup key =>
    -- without a cached answer that is still valid the send goes on to its debit
    have described (h : some (w, c.goto (describe c.phoneNumber)) = some (w', c')) :
        SendMove env w c (.lookup key) c'.pc ∧ c' = c.goto c'.pc := by
      cases h
      refine ⟨?_, rfl⟩
      rcases describe_cases c.phoneNumber with ⟨description, charges⟩ | crashes
      · exact charges ▸ .describe key description
      · exact crashes ▸ .unreadable key
    simp only [step, pc] at h
    split at h
    next cached found =>
      split at h
      · cases h
        exact ⟨.cached key cached, rfl⟩
      · exact described h
    · exact described h
  | deduct description =>
    simp only [step, pc] at h
    split at h
    · cases h
      exact ⟨.refuse description _, rfl⟩
    · cases h
      exact ⟨.refuse description _, rfl⟩
    -- the debit has been made before the code is generated
    · split at h <;> cases h
      next generated => exact ⟨.charge description _ generated, rfl⟩
      next thrown => exact ⟨.crash description thrown, rfl⟩
  | hash otpCode =>
    simp only [step, pc] at h
    cases h
    exact ⟨.hash otpCode, rfl⟩
  | dispatch otpCode d =>
    simp only [step, pc] at h
    cases h
    exact ⟨.dispatch otpCode d a.delivery, rfl⟩
  | insert d metaResult =>
    simp only [step, pc] at h
    split at h <;> cases h
    · exact ⟨.insert d metaResult _, rfl⟩
    · exact ⟨.fail d metaResult _, rfl⟩
  | refund message =>
    simp only [step, pc] at h
    cases h
    exact ⟨.refund message, rfl⟩
  | answered reply writes =>
    cases writes with
    | nil => simp [step, pc] at h
    | cons first rest =>
      simp only [step, pc] at h
      cases h
      exact ⟨.write reply first rest, rfl⟩

theorem VerifyCall.step_move {c c' : VerifyCall} (h : c.step env w a = some (w', c')) :
    VerifyMove env w c c.pc c'.pc ∧ c' = c.goto c'.pc := by
  cases pc : c.pc with
  | findRow =>
    simp only [step, pc] at h
    split at h
    · cases h
      exact ⟨.missing, rfl⟩
    next otp found =>
      have found := lookup_cases found
      split at h
      next verified =>
        cases h
        exact ⟨.used otp found verified, rfl⟩
      next unverified =>
        split at h <;> cases h
        next late => exact ⟨.lapse otp found unverified late, rfl⟩
        next in_time => exact ⟨.read otp found unverified (not_lt.mp in_time), rfl⟩
  | expire otp =>
    simp only [step, pc] at h
    cases h
    exact ⟨.expire otp, rfl⟩
  | recordAttempt otp =>
    simp only [step, pc] at h
    -- an attempt that exceeds is answered before the code is looked at
    split at h <;> cases h
    · exact ⟨.exceed otp, rfl⟩
    next unreadable _ => exact ⟨.crash otp unreadable, rfl⟩
    next text => exact ⟨.count otp _ _ text, rfl⟩
    next text => exact ⟨.count otp _ _ text, rfl⟩
  | compare otp code attempts =>
    simp only [step, pc] at h
    split at h <;> cases h
    next wrong => exact ⟨.differ otp code attempts wrong, rfl⟩
    next right => exact ⟨.agree otp code attempts (not_not.mp right), rfl⟩
  | markVerified otp now =>
    simp only [step, pc] at h
    cases h
    exact ⟨.mark otp now, rfl⟩
  | answered reply => simp [step, pc] at h

theorem ResendCall.step_move {c c' : ResendCall} (h : c.step env w a = some (w', c')) :
    ResendMove env w c c.pc c'.pc ∧ c' = c.goto c'.pc := by
  cases pc : c.pc with
  | findRow =>
    simp only [step, pc] at h
    split at h
    · cases h
      exact ⟨.missing, rfl⟩
    next otp found =>
      have found := lookup_cases found
      split at h
      next verified =>
        cases h
        exact ⟨.used otp found verified, rfl⟩
      next unverified =>
        split at h
        next early =>
          cases h
          exact ⟨.wait otp found unverified early, rfl⟩
        next elapsed =>
          split at h <;> cases h
          · exact ⟨.read otp _ found unverified (not_lt.mp elapsed), rfl⟩
          · exact ⟨.crash, rfl⟩
  | hash otp otpCode =>
    simp only [step, pc] at h
    cases h
    exact ⟨.hash otp otpCode, rfl⟩
  | dispatch otp otpCode otpHash expiresAt =>
    simp only [step, pc] at h
    cases h
    exact ⟨.dispatch otp otpCode otpHash expiresAt, rfl⟩
  | update otp otpHash expiresAt =>
    simp only [step, pc] at h
    cases h
    exact ⟨.update otp otpHash expiresAt, rfl⟩
  | answered reply => simp [step, pc] at h

end Moves

end SelfOtp.Edge
