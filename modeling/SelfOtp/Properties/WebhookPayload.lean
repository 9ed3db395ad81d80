import SelfOtp.Properties.WebhookIngestion

/-! The status items of payloads as the provider sends them. -/
namespace SelfOtp

/-! ### What a payload reports -/

/-- The member is an array. -/
def Json.Lists (j : Json) (name : String) (elements : List Json) : Prop :=
  j.get name = some (some (.array elements))

def Json.HasText (j : Json) (name : String) (text : JsString) : Prop :=
  j.get name = some (some (.string text))

/-- Some item of the payload has this id and this status. -/
def Occurs (payload : Json) (id status : JsString) : Prop :=
  ∃ entries, payload.Lists "entry" entries ∧ ∃ entry ∈ entries,
    ∃ changes, entry.Lists "changes" changes ∧ ∃ change ∈ changes,
      ∃ value, change.get "value" = some (some value) ∧
        ∃ statuses, value.Lists "statuses" statuses ∧ ∃ item ∈ statuses,
          item.HasText "id" id ∧ item.HasText "status" status

/-- The statuses that the provider reports. -/
def reportedStatuses : List JsString := [js "sent", js "delivered", js "read", js "failed"]

/-- The value has the member as an array of such elements, or does not have it. -/
def Json.ListsOnly (shape : Json → Prop) (j : Json) (name : String) : Prop :=
  j.get name = some none ∨ ∃ elements, j.Lists name elements ∧ ∀ e ∈ elements, shape e

/-- The id is a text, the status one of the four; either may be missing or empty. -/
structure StatusShape (item : Json) : Prop where
  id : item.get "id" = some none ∨ ∃ text, item.HasText "id" text
  status : item.get "status" = some none ∨
    ∃ text, item.HasText "status" text ∧ (text = [] ∨ text ∈ reportedStatuses)

def ChangeShape (change : Json) : Prop :=
  change.get "value" = some none ∨
    ∃ value, change.get "value" = some (some value) ∧ value.ListsOnly StatusShape "statuses"

def EntryShape (entry : Json) : Prop := entry.ListsOnly ChangeShape "changes"

def PayloadShape (payload : Json) : Prop := payload.ListsOnly EntryShape "entry"

/-- The item is one of this pair. -/
structure StatusItem.Of (item : StatusItem) (id status : JsString) : Prop where
  wamid : item.wamid = .string id
  statusStr : item.statusStr = .string status
  key : item.eventIdempotencyKey = id ++ js "_" ++ status

/-! ### The loop -/

section Loops

/-- The loop goes through all elements, and ends without an error. -/
structure Loop.Collects (loop : Loop) (pairs : JsString → JsString → Prop) : Prop where
  ends : loop.threw = false
  sound : ∀ item ∈ loop.items, ∃ id status, pairs id status ∧ id ≠ [] ∧ status ∈ reportedStatuses ∧
    item.Of id status
  complete : ∀ id status, pairs id status → id ≠ [] → status ≠ [] → ∃ item ∈ loop.items, item.Of id status

theorem Loop.collects_nothing {pairs : JsString → JsString → Prop}
    (none_there : ∀ id status, pairs id status → id = [] ∨ status = []) : Loop.nothing.Collects pairs := by
  refine ⟨rfl, fun item there => (List.not_mem_nil there).elim, fun id status there some_id some_status => ?_⟩
  rcases none_there id status there with empty | empty
  · exact absurd empty some_id
  · exact absurd empty some_status

theorem Loop.each_collects {body : Json → Loop} {pairs : Json → JsString → JsString → Prop}
    {elements : List Json} (collects : ∀ e ∈ elements, (body e).Collects (pairs e)) :
    (Loop.each body elements).Collects fun id status => ∃ e ∈ elements, pairs e id status := by
  induction elements with
  | nil => exact collects_nothing fun id status there => by simp at there
  | cons e rest ih =>
    have first := collects e List.mem_cons_self
    have others := ih fun f there => collects f (List.mem_cons_of_mem _ there)
    simp only [Loop.each, first.ends, Bool.false_eq_true, if_false]
    refine ⟨others.ends, fun item there => ?_, fun id status there some_id some_status => ?_⟩
    · rcases List.mem_append.mp there with here | later
      · obtain ⟨id, status, pair, rest⟩ := first.sound item here
        exact ⟨id, status, ⟨e, List.mem_cons_self, pair⟩, rest⟩
      · obtain ⟨id, status, ⟨f, member, pair⟩, rest⟩ := others.sound item later
        exact ⟨id, status, ⟨f, List.mem_cons_of_mem _ member, pair⟩, rest⟩
    · obtain ⟨f, member, pair⟩ := there
      rcases List.mem_cons.mp member with rfl | later
      · obtain ⟨item, there, rest⟩ := first.complete id status pair some_id some_status
        exact ⟨item, List.mem_append_left _ there, rest⟩
      · obtain ⟨item, there, rest⟩ := others.complete id status ⟨f, later, pair⟩ some_id some_status
        exact ⟨item, List.mem_append_right _ there, rest⟩

/-- `for (const e of j.name || []) body(e)`. -/
theorem Loop.forOf_collects {body : Json → Loop} {pairs : Json → JsString → JsString → Prop}
    {shape : Json → Prop} {j : Json} {name : String} (listed : j.ListsOnly shape name)
    (collects : ∀ e, shape e → (body e).Collects (pairs e)) :
    ∃ elements, j.get name = some elements ∧
      (Loop.forOf (Json.orElse elements (.array [])) body).Collects fun id status =>
        ∃ elements, j.Lists name elements ∧ ∃ e ∈ elements, pairs e id status := by
  rcases listed with missing | ⟨elements, lists, shaped⟩
  · refine ⟨none, missing, collects_nothing fun id status there => ?_⟩
    obtain ⟨elements, lists, -⟩ := there
    rw [Json.Lists, missing] at lists
    cases lists
  · refine ⟨some (.array elements), lists, ?_⟩
    have loop := Loop.each_collects (fun e there => collects e (shaped e there))
    refine ⟨loop.ends, fun item there => ?_, fun id status there => loop.complete id status ?_⟩
    · obtain ⟨id, status, pair, rest⟩ := loop.sound item there
      exact ⟨id, status, ⟨elements, lists, pair⟩, rest⟩
    · obtain ⟨others, also, pair⟩ := there
      rw [Json.Lists, lists] at also
      cases also
      exact pair

theorem statusLoop_collects {item : Json} (shape : StatusShape item) :
    (statusLoop item).Collects fun id status => item.HasText "id" id ∧ item.HasText "status" status := by
  unfold statusLoop Json.HasText
  obtain ⟨no_id | ⟨id, has_id⟩, no_status | ⟨status, has_status, known⟩⟩ := shape
  · simp only [no_id, no_status]
    exact Loop.collects_nothing (by simp)
  · rw [Json.HasText] at has_status
    simp only [no_id, has_status]
    exact Loop.collects_nothing (by simp)
  · rw [Json.HasText] at has_id
    simp only [has_id, no_status]
    exact Loop.collects_nothing (by simp)
  · rw [Json.HasText] at has_id has_status
    simp only [has_id, has_status, Json.truthy, Json.toText]
    by_cases some_id : id = []
    · simp only [some_id, ne_eq, not_true_eq_false, decide_false, Bool.false_and, Bool.false_eq_true, if_false]
      exact Loop.collects_nothing (by simp +contextual)
    · by_cases some_status : status = []
      · simp only [some_status, ne_eq, not_true_eq_false, decide_false, Bool.and_false, Bool.false_eq_true,
          if_false]
        exact Loop.collects_nothing (by simp +contextual)
      · simp only [some_id, some_status, ne_eq, not_false_eq_true, decide_true, Bool.and_self, if_true]
        refine ⟨rfl, fun found there => ?_, fun i s pair _ _ => ?_⟩
        · obtain rfl := List.mem_singleton.mp there
          exact ⟨id, status, ⟨rfl, rfl⟩, some_id, known.resolve_left some_status, ⟨rfl, rfl, rfl⟩⟩
        · simp only [Option.some.injEq, Json.string.injEq] at pair
          obtain ⟨rfl, rfl⟩ := pair
          exact ⟨_, List.mem_singleton_self _, ⟨rfl, rfl, rfl⟩⟩

/-- `j || {}` has the members of `j`, where reading one does not throw. -/
theorem Json.get_orElse {j : Json} {name : String} {found : Option Json} (read : j.get name = some found) :
    (Json.orElse (some j) (.object [])).get name = some found := by
  cases truthy : j.truthy with
  | true => simpa only [Json.orElse, truthy, if_true] using read
  | false =>
    -- what is falsy has no members, and `{}` neither
    simp only [Json.orElse, truthy, Bool.false_eq_true, if_false]
    cases j <;> simp_all [Json.get, Json.truthy, Json.member]

theorem changeLoop_collects {change : Json} (shape : ChangeShape change) :
    (changeLoop change).Collects fun id status => ∃ value, change.get "value" = some (some value) ∧
      ∃ statuses, value.Lists "statuses" statuses ∧ ∃ item ∈ statuses,
        item.HasText "id" id ∧ item.HasText "status" status := by
  unfold changeLoop
  rcases shape with missing | ⟨value, present, listed⟩
  · rw [missing]
    exact Loop.collects_nothing (by simp)
  · obtain ⟨statuses, read, loop⟩ := Loop.forOf_collects listed fun item => statusLoop_collects
    simp only [present, Json.get_orElse read]
    refine ⟨loop.ends, fun item there => ?_, fun id status there => loop.complete id status ?_⟩
    · obtain ⟨id, status, pair, rest⟩ := loop.sound item there
      exact ⟨id, status, ⟨value, rfl, pair⟩, rest⟩
    · obtain ⟨other, same, pair⟩ := there
      cases same
      exact pair

theorem entryLoop_collects {entry : Json} (shape : EntryShape entry) :
    (entryLoop entry).Collects fun id status => ∃ changes, entry.Lists "changes" changes ∧
      ∃ change ∈ changes, ∃ value, change.get "value" = some (some value) ∧
        ∃ statuses, value.Lists "statuses" statuses ∧ ∃ item ∈ statuses,
          item.HasText "id" id ∧ item.HasText "status" status := by
  obtain ⟨changes, read, loop⟩ := Loop.forOf_collects shape fun change => changeLoop_collects
  unfold entryLoop
  rw [read]
  exact loop

/-- The items that are ingested are those of the pairs that occur in the payload. -/
theorem ingestion_collects {payload : Json} (shape : PayloadShape payload) :
    (∀ item ∈ (ingestion (some payload)).items, ∃ id status, Occurs payload id status ∧ id ≠ [] ∧
        status ∈ reportedStatuses ∧ item.Of id status) ∧
      ∀ id status, Occurs payload id status → id ≠ [] → status ≠ [] →
        ∃ item ∈ (ingestion (some payload)).items, item.Of id status := by
  obtain ⟨entries, read, loop⟩ := Loop.forOf_collects shape fun entry => entryLoop_collects
  have items : (ingestion (some payload)).items =
      (Loop.forOf (Json.orElse entries (.array [])) entryLoop).items := by
    rcases shape with missing | ⟨elements, lists, -⟩
    · rw [missing] at read
      cases read
      simp only [ingestion, missing]
      rfl
    · rw [Json.Lists] at lists
      rw [lists] at read
      cases read
      have object : payload.truthy = true := by
        cases payload <;> simp_all [Json.get, Json.truthy]
      simp only [ingestion, lists, object]
      rfl
  rw [items]
  exact ⟨loop.sound, loop.complete⟩

end Loops

end SelfOtp
