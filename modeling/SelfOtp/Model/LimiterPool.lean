import SelfOtp.Model.Middleware

/-! Concurrent calls of `isRateLimited` on one key, interleaved at every command of their pipelines. -/
namespace SelfOtp

inductive LimitTask where
  | running (c : LimitCall)
  | answered (c : LimitCall) (isLimited : Bool)

inductive LimitEvent where
  | tick (d : Millis)
  | isRateLimited (process : ℕ)

namespace LimitTask

def call : LimitTask → LimitCall
  | running c => c
  | answered c _ => c

/-- Redis executes the next command of the call. -/
def resume (w : World) (t : LimitTask) (_ : Unit) : Option (World × LimitTask) :=
  match t with
  | running c =>
    match c.step w true with
    | (w, .pending c) => some (w, running c)
    | (w, .done isLimited _) => some (w, answered c isLimited)
  | answered _ _ => none

/-- Time passes, or a call starts on a node; the clocks of the nodes agree. -/
def external (key : LimitKey) (maxRequests windowSeconds : ℕ) (w : World) (event : LimitEvent) :
    Option (World × List LimitTask) :=
  match event with
  | .tick d => some (w.tick d, [])
  | .isRateLimited process => some (w, [running (.start w process key maxRequests windowSeconds)])

end LimitTask

abbrev LimitPool := Pool World LimitTask

abbrev LimitLabel := Pool.Label Unit LimitEvent

def limitProgram (key : LimitKey) (maxRequests windowSeconds : ℕ) :
    Pool.Program World LimitTask Unit LimitEvent :=
  ⟨LimitTask.resume, LimitTask.external key maxRequests windowSeconds⟩

/-- No call has been made on the key. -/
def LimitPool.Fresh (key : LimitKey) (p : LimitPool) : Prop :=
  p.threads = [] ∧ p.shared.redis.limits key = none

end SelfOtp
