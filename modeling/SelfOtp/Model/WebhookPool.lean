import SelfOtp.Lib.Pool
import SelfOtp.Model.Webhooks

/-! Concurrent deliveries to `POST /v1/webhooks/meta`, interleaved at every insert and every `add`. -/
namespace SelfOtp

/-- A delivery in its ingestion loop. -/
structure IngestTask where
  /-- The items that the loop still comes to. -/
  items : List StatusItem
  /-- The job of the row that has just been inserted. -/
  queueing : Option WebhookJob

abbrev IngestPool := Pool WebhookStore IngestTask

namespace IngestTask

/-- A delivery whose body is parsed and accepted. -/
def start (payload : Json) : IngestTask := ⟨(ingestion (some payload)).items, none⟩

def finished (t : IngestTask) : Bool := t.items.isEmpty && t.queueing.isNone

/-- The next awaited call; the database and the queue are available. -/
def resume (env : WebhookEnv) (s : WebhookStore) (t : IngestTask) (_ : Unit) :
    Option (WebhookStore × IngestTask) :=
  match t.queueing with
  | some job => some ({ s with jobs := s.jobs ++ [job] }, ⟨t.items, none⟩)
  | none =>
    match t.items with
    | [] => none
    | item :: rest =>
      -- a row that is refused, as a duplicate or for its values, is logged, and the loop goes on
      if !env.storable item || s.events.any (·.externalEventId == item.eventIdempotencyKey) then
        some (s, ⟨rest, none⟩)
      else
        let event : ReceivedEvent := ⟨s.nextId, item.statusStr, item.eventIdempotencyKey, item.payload⟩
        some ({ s with nextId := s.nextId + 1, events := s.events ++ [event] },
          ⟨rest, some ⟨event.id, item.wamid, item.statusStr⟩⟩)

end IngestTask

def ingestProgram (env : WebhookEnv) : Pool.Program WebhookStore IngestTask Unit Empty :=
  ⟨IngestTask.resume env, fun _ e => e.elim⟩

end SelfOtp
