import Mathlib.Data.Fintype.EquivFin
import SelfOtp.Lib.JsonText
import SelfOtp.Model.RequestHash

/-! What the hash of a request body tells apart. -/
namespace SelfOtp.Json

/-! ### Members -/

section Members

variable {names : List JsString} {members others : List (JsString × Json)} {name : JsString} {value : Json}

theorem member_eq_some_iff (distinct : (members.map (·.1)).Nodup) :
    member members name = some value ↔ (name, value) ∈ members := by
  induction members with
  | nil => simp [member]
  | cons m rest ih =>
    obtain ⟨fresh, distinct⟩ := List.nodup_cons.mp distinct
    have tail := ih distinct
    -- the first member with the name is the only one
    by_cases own : m.1 = name
    · have absent : (name, value) ∉ rest := fun there =>
        fresh (List.mem_map.mpr ⟨_, there, own.symm⟩)
      subst own
      simp [member, absent, Prod.ext_iff, eq_comm]
    · have other : (name, value) ≠ m := fun same => own (same ▸ rfl)
      simpa [member, own, other] using tail

theorem member_perm (distinct : (members.map (·.1)).Nodup) (perm : members.Perm others) :
    member members name = member others name := by
  refine Option.ext fun value => ?_
  rw [member_eq_some_iff distinct, member_eq_some_iff ((perm.map _).nodup_iff.mp distinct),
    perm.mem_iff]

theorem mem_listed {m : JsString × Json} (there : m ∈ listed names members) :
    m ∈ members ∨ inherited m.1 = some m.2 := by
  obtain ⟨name, _, found⟩ := List.mem_filterMap.mp there
  obtain ⟨value, defined, rfl⟩ := Option.map_eq_some_iff.mp found
  rcases Option.or_eq_some_iff.mp defined with own | ⟨_, prototype⟩
  · obtain ⟨n, first, rfl⟩ := Option.map_eq_some_iff.mp own
    have same : n.1 = name := by simpa using List.find?_some first
    exact .inl (same ▸ List.mem_of_find?_eq_some first)
  · exact .inr prototype

theorem listed_congr (same : ∀ name ∈ names, member members name = member others name) :
    listed names members = listed names others :=
  List.filterMap_congr fun name there => by rw [same name there]

theorem member_append_of_ne {fresh : JsString} (value : Json) (other : name ≠ fresh) :
    member (members ++ [(fresh, value)]) name = member members name := by
  have last : [(fresh, value)].find? (·.1 == name) = none := by
    simpa using other.symm
  rw [member, List.find?_append, last, Option.or_none, member]

/-- In the order of the names. -/
def byName (members : List (JsString × Json)) : List (JsString × Json) :=
  members.insertionSort fun m n => m.1 ≤ n.1

theorem byName_perm (members : List (JsString × Json)) : (byName members).Perm members :=
  List.perm_insertionSort _ _

theorem map_byName (f : Json → Json) (members : List (JsString × Json)) :
    (byName members).map (fun m => (m.1, f m.2)) = byName (members.map fun m => (m.1, f m.2)) :=
  List.map_insertionSort _ _ _ _ fun _ _ _ _ => Iff.rfl

theorem byName_names (members : List (JsString × Json)) :
    (byName members).map (·.1) = (members.map (·.1)).insertionSort (· ≤ ·) :=
  List.map_insertionSort _ _ _ _ fun _ _ _ _ => Iff.rfl

/-- An object has all the members that its own names list. -/
theorem listed_own (distinct : (members.map (·.1)).Nodup)
    (own : names = (members.map (·.1)).insertionSort (· ≤ ·)) : listed names members = byName members := by
  rw [own, ← byName_names, listed, List.filterMap_map]
  have each : ∀ m ∈ byName members, ((fun name => ((member members name).or (inherited name)).map (name, ·)) ∘
      (·.1)) m = some m := by
    intro m there
    have found := (member_eq_some_iff distinct).mpr ((byName_perm members).mem_iff.mp there)
    simp only [Function.comp_apply, found, Option.some_or, Option.map_some]
  rw [List.filterMap_congr each, List.filterMap_some]

end Members

/-! ### Equality of values -/

mutual

/-- The value with the members of every object in the order of their names. -/
def sorted : Json → Json
  | null => null
  | bool b => bool b
  | number text => number text
  | string s => string s
  | array elements => array (sortedElements elements)
  | object members => object (byName (sortedMembers members))

def sortedElements : List Json → List Json
  | [] => []
  | e :: rest => sorted e :: sortedElements rest

def sortedMembers : List (JsString × Json) → List (JsString × Json)
  | [] => []
  | (name, value) :: rest => (name, sorted value) :: sortedMembers rest

end

/-- Equal but for the order of the members of objects. -/
def Alike (x y : Json) : Prop := x.sorted = y.sorted

/-- No object and no null in the value, and no infinite number. -/
inductive Flat : Json → Prop
  | bool (b : Bool) : Flat (bool b)
  | number {text : String} (decimal : Decimal text) : Flat (number text)
  | string (s : JsString) : Flat (string s)
  | array {elements : List Json} (each : ∀ e ∈ elements, Flat e) : Flat (array elements)

/-- Flat, or an object of flat values. -/
def Plain (j : Json) : Prop := Flat j ∨ ∃ members, j = object members ∧ ∀ m ∈ members, Flat m.2

theorem sortedElements_eq (elements : List Json) : sortedElements elements = elements.map sorted := by
  induction elements with
  | nil => rfl
  | cons e rest ih => rw [sortedElements, ih, List.map_cons]

theorem sortedMembers_eq (members : List (JsString × Json)) :
    sortedMembers members = members.map fun m => (m.1, sorted m.2) := by
  induction members with
  | nil => rfl
  | cons m rest ih => rw [sortedMembers, ih, List.map_cons]

theorem keptElements_eq (names : List JsString) (elements : List Json) :
    keptElements names elements = elements.map (kept names) := by
  induction elements with
  | nil => rfl
  | cons e rest ih => rw [keptElements, ih, List.map_cons]

theorem keptMembers_eq (names : List JsString) (members : List (JsString × Json)) :
    keptMembers names members = members.map fun m => (m.1, kept names m.2) := by
  induction members with
  | nil => rfl
  | cons m rest ih => rw [keptMembers, ih, List.map_cons]

theorem names_map (f : Json → Json) (members : List (JsString × Json)) :
    (members.map fun m => (m.1, f m.2)).map (·.1) = members.map (·.1) := by
  rw [List.map_map]
  rfl

theorem map_values_eq {f : Json → Json} {members : List (JsString × Json)}
    (each : ∀ m ∈ members, f m.2 = m.2) : (members.map fun m => (m.1, f m.2)) = members :=
  (List.map_congr_left fun m there => by rw [each m there]).trans (List.map_id' _)

/-! ### Bodies that are alike -/

/-- What is kept of a value does not depend on the order of its members. -/
theorem Valid.kept_sorted {j : Json} (valid : Valid j) (names : List JsString) :
    kept names (sorted j) = kept names j := by
  induction valid with
  | null | bool | number | string => rfl
  | @array elements _ ih =>
    rw [sorted, sortedElements_eq, kept, kept, keptElements_eq, keptElements_eq, List.map_map]
    exact congrArg Json.array (List.map_congr_left ih)
  | @object members distinct _ ih =>
    have values : (members.map fun m => (m.1, sorted m.2)).map (fun m => (m.1, kept names m.2)) =
        members.map fun m => (m.1, kept names m.2) := by
      rw [List.map_map]
      exact List.map_congr_left fun m there => by rw [Function.comp_apply, ih m there]
    rw [sorted, sortedMembers_eq, kept, kept, keptMembers_eq, keptMembers_eq, map_byName, values]
    -- a look-up by name finds the same in every order
    exact congrArg Json.object (listed_congr fun name _ =>
      (member_perm ((names_map _ _).symm ▸ distinct) (byName_perm _).symm).symm)

theorem sortedKeys_sorted (j : Json) : sortedKeys (sorted j) = sortedKeys j := by
  cases j with
  | null | bool | number | string => rfl
  | array elements => rw [sorted, sortedElements_eq, sortedKeys, sortedKeys, keys, keys, List.length_map]
  | object members =>
    rw [sorted, sortedMembers_eq, sortedKeys, sortedKeys, keys, keys, byName_names, names_map]
    exact (List.pairwise_insertionSort _ _).insertionSort_eq

/-- Bodies that are alike have one text. -/
theorem Alike.sortedJson_eq {x y : Json} (alike : Alike x y) (valid : Valid x) (valid' : Valid y) :
    sortedJson x = sortedJson y := by
  rw [sortedJson, sortedJson, ← valid.kept_sorted, ← valid'.kept_sorted, ← sortedKeys_sorted x,
    ← sortedKeys_sorted y, alike]

/-! ### Plain bodies -/

theorem Flat.sorted_eq {j : Json} (flat : Flat j) : sorted j = j := by
  induction flat with
  | bool | number | string => rfl
  | array _ ih =>
    rw [sorted, sortedElements_eq, List.map_congr_left ih, List.map_id']

theorem sorted_of_flat {members : List (JsString × Json)} (flat : ∀ m ∈ members, Flat m.2) :
    sorted (object members) = object (byName members) := by
  rw [sorted, sortedMembers_eq, map_values_eq fun m there => (flat m there).sorted_eq]

/-- What the text of a value denotes that is written with the names. -/
def denoted (names : List JsString) (j : Json) : Json := written (kept names j)

theorem denoted_array (names : List JsString) (elements : List Json) :
    denoted names (array elements) = array (elements.map (denoted names)) := by
  rw [denoted, kept, written, keptElements_eq, writtenElements_eq, List.map_map]
  rfl

theorem Flat.denoted_eq {j : Json} (flat : Flat j) (names : List JsString) : denoted names j = j := by
  induction flat with
  | bool | string => rfl
  | @number text decimal =>
    rw [denoted, kept, written, if_neg decimal.finite]
  | @array elements _ ih =>
    rw [denoted_array]
    exact congrArg Json.array ((List.map_congr_left ih).trans (List.map_id' _))

/-- Only a flat value has a flat text. -/
theorem denoted_eq_of_flat {j : Json} {names : List JsString} (flat : Flat (denoted names j)) :
    denoted names j = j := by
  induction j using induction_on with
  | null => cases flat
  | bool | string => rfl
  | number text =>
    rw [denoted, kept, written] at flat ⊢
    split at flat
    · cases flat
    · next finite => rw [if_neg finite]
  | array elements ih =>
    rw [denoted_array] at flat ⊢
    cases flat with
    | array each =>
      exact congrArg Json.array ((List.map_congr_left fun e member =>
        ih e member (each _ (List.mem_map_of_mem member))).trans (List.map_id' _))
  -- an object is written as an object, whatever is kept of it
  | object members =>
    rw [denoted, kept, written] at flat
    cases flat

/-- An object is written with all its members. -/
theorem denoted_object {members : List (JsString × Json)} (distinct : (members.map (·.1)).Nodup) :
    denoted (sortedKeys (object members)) (object members) =
      object (byName (members.map fun m => (m.1, denoted (sortedKeys (object members)) m.2))) := by
  have own : sortedKeys (object members) = (members.map (·.1)).insertionSort (· ≤ ·) := rfl
  -- the same names select the members at every depth
  generalize sortedKeys (object members) = names at own
  rw [← names_map (kept names)] at own distinct
  rw [denoted, kept, written, writtenMembers_eq, keptMembers_eq, listed_own distinct own, map_byName,
    List.map_map]
  rfl

/-- A plain body shares its text with bodies that are alike only. -/
theorem Plain.alike_of_denoted_eq {x y : Json} (plain : Plain x) (valid : Valid x) (valid' : Valid y)
    (same : denoted (sortedKeys x) x = denoted (sortedKeys y) y) : Alike x y := by
  rcases plain with flat | ⟨members, rfl, flat⟩
  · rw [flat.denoted_eq] at same
    rw [same, denoted_eq_of_flat (same ▸ flat), Alike]
  · cases valid with
    | object distinct =>
      rw [denoted_object distinct, map_values_eq fun m there => (flat m there).denoted_eq _] at same
      -- only an object is written as one
      cases valid' with
      | @object others distinct' =>
        rw [denoted_object distinct'] at same
        -- the members of the other body are written as members of this one, so nothing of them is lost
        have flat' : ∀ n ∈ others, Flat (denoted (sortedKeys (object others)) n.2) := by
          intro n there
          have listed : (n.1, denoted (sortedKeys (object others)) n.2) ∈ byName members := by
            rw [object.inj same, (byName_perm _).mem_iff]
            exact List.mem_map_of_mem there
          exact flat _ ((byName_perm members).mem_iff.mp listed)
        have whole (n) (there : n ∈ others) : denoted (sortedKeys (object others)) n.2 = n.2 :=
          denoted_eq_of_flat (flat' n there)
        rw [map_values_eq whole] at same
        rw [Alike, sorted_of_flat flat, same, sorted_of_flat fun n there => whole n there ▸ flat' n there]
      | null | bool | string | array => cases same
      | @number text =>
        rw [denoted, kept, written] at same
        split at same <;> cases same

/-! ### Other bodies -/

theorem forall_mem_replace {α : Type} {P : α → Prop} {before after : List α} {e f : α}
    (each : ∀ g ∈ before ++ e :: after, P g) (replaced : P f) : ∀ g ∈ before ++ f :: after, P g := by
  simp only [List.forall_mem_append, List.forall_mem_cons] at each ⊢
  exact ⟨each.1, replaced, each.2.2⟩

theorem not_alike_array {before after : List Json} {e f : Json} (different : ¬ Alike e f) :
    ¬ Alike (array (before ++ e :: after)) (array (before ++ f :: after)) := by
  intro alike
  rw [Alike, sorted, sorted, sortedElements_eq, sortedElements_eq, List.map_append, List.map_append,
    array.injEq, List.append_cancel_left_eq] at alike
  exact different (List.cons.inj alike).1

theorem not_alike_object {members others : List (JsString × Json)}
    (different : members.length ≠ others.length) : ¬ Alike (object members) (object others) := by
  intro alike
  rw [Alike, sorted, sorted, sortedMembers_eq, sortedMembers_eq, object.injEq] at alike
  have lengths := congrArg List.length alike
  rw [(byName_perm _).length_eq, (byName_perm _).length_eq, List.length_map, List.length_map] at lengths
  exact different lengths

theorem not_alike_member {before after : List (JsString × Json)} {m : JsString × Json} {k : Json}
    (different : ¬ Alike m.2 k) :
    ¬ Alike (object (before ++ m :: after)) (object (before ++ (m.1, k) :: after)) := by
  intro alike
  rw [Alike, sorted, sorted, sortedMembers_eq, sortedMembers_eq, object.injEq, List.map_append,
    List.map_append, List.map_cons, List.map_cons] at alike
  -- the two objects have their other members in common
  have perm := (byName_perm _).symm.trans ((alike ▸ byName_perm _))
  have single : [(m.1, k.sorted)].Perm [(m.1, m.2.sorted)] :=
    (List.perm_append_right_iff _).mp ((List.perm_append_left_iff _).mp perm)
  exact different (Prod.mk.inj (List.singleton_perm_singleton.mp single)).2.symm

/-- A value that is not flat shares its text with another one. -/
theorem exists_same_text (names : List JsString) {j : Json} (valid : Valid j) (lossy : ¬ Flat j) :
    ∃ k, Valid k ∧ denoted names k = denoted names j ∧ ¬ Alike j k ∧ (j.kind ≠ 5 → k.keys = j.keys) := by
  induction valid with
  -- null and the infinite numbers have one text
  | null => exact ⟨number "Infinity", .number (.inr (.inl rfl)), rfl, (by rintro ⟨⟩), fun _ => rfl⟩
  | bool b => exact absurd (.bool b) lossy
  | string s => exact absurd (.string s) lossy
  | @number text form =>
    have infinite := form.resolve_left fun decimal => lossy (.number decimal)
    refine ⟨null, .null, ?_, (by rintro ⟨⟩), fun _ => rfl⟩
    rw [denoted, denoted, kept, kept, written, written, if_pos infinite]
  | @array elements each ih =>
    obtain ⟨e, member, lossy⟩ : ∃ e ∈ elements, ¬ Flat e := by
      by_contra! flat
      exact lossy (.array flat)
    obtain ⟨f, valid, same, different, _⟩ := ih e member lossy
    obtain ⟨before, after, rfl⟩ := List.append_of_mem member
    refine ⟨array (before ++ f :: after), .array (forall_mem_replace each valid), ?_,
      not_alike_array different, fun _ => ?_⟩
    · rw [denoted_array, denoted_array, List.map_append, List.map_append, List.map_cons, List.map_cons, same]
    · rw [keys, keys, List.length_append, List.length_append, List.length_cons, List.length_cons]
  | @object members distinct each ih =>
    -- a name that is neither listed nor among the members
    obtain ⟨fresh, unlisted⟩ := Infinite.exists_notMem_finset (names ++ members.map (·.1)).toFinset
    rw [List.mem_toFinset, List.mem_append, not_or] at unlisted
    -- one member more, which the list leaves out
    refine ⟨object (members ++ [(fresh, null)]), .object ?_ ?_, ?_, not_alike_object (by simp),
      fun other => absurd rfl other⟩
    · rw [List.map_append, List.nodup_append]
      refine ⟨distinct, List.nodup_singleton _, ?_⟩
      intro name there other last same
      rw [same, List.mem_singleton.mp last] at there
      exact unlisted.2 there
    · intro m there
      rcases List.mem_append.mp there with there | there
      · exact each m there
      · rw [List.mem_singleton.mp there]
        exact .null
    · rw [denoted, denoted, kept, kept, keptMembers_eq, keptMembers_eq, List.map_append]
      refine congrArg (fun members => written (object members)) (listed_congr fun name listed =>
        member_append_of_ne _ fun same => ?_)
      rw [same] at listed
      exact unlisted.1 listed

/-- A body that is not plain shares its text with a body that is not alike. -/
theorem exists_same_body {x : Json} (valid : Valid x) (lossy : ¬ Plain x) :
    ∃ y, Valid y ∧ denoted (sortedKeys y) y = denoted (sortedKeys x) x ∧ ¬ Alike x y := by
  rw [Plain, not_or] at lossy
  cases x with
  | object members =>
    obtain ⟨m, member, lossy⟩ : ∃ m ∈ members, ¬ Flat m.2 := by
      by_contra! flat
      exact lossy.2 ⟨members, rfl, flat⟩
    cases valid with
    | object distinct each =>
      -- the value of that member is exchanged, so that the names stay the same
      obtain ⟨k, valid, same, different, _⟩ :=
        exists_same_text (sortedKeys (object members)) (each m member) lossy
      obtain ⟨before, after, rfl⟩ := List.append_of_mem member
      have names : (before ++ (m.1, k) :: after).map (·.1) = (before ++ m :: after).map (·.1) := by
        rw [List.map_append, List.map_append, List.map_cons, List.map_cons]
      have keys_eq : sortedKeys (object (before ++ (m.1, k) :: after)) =
          sortedKeys (object (before ++ m :: after)) := by
        rw [sortedKeys, keys, names, sortedKeys, keys]
      refine ⟨_, .object (names ▸ distinct) (forall_mem_replace each valid), ?_,
        not_alike_member different⟩
      rw [denoted_object (names ▸ distinct), denoted_object distinct, keys_eq, List.map_append,
        List.map_append, List.map_cons, List.map_cons, same]
  | null | bool | number | string | array =>
    obtain ⟨y, valid', same, different, same_keys⟩ := exists_same_text (sortedKeys _) valid lossy.1
    refine ⟨y, valid', ?_, different⟩
    rw [← same, sortedKeys, same_keys (by rintro ⟨⟩), sortedKeys]

/-! ### Hashes -/

theorem Valid.finite_denoted {j : Json} (valid : Valid j) (names : List JsString) : Finite (denoted names j) := by
  induction valid with
  | null => exact .null
  | bool b => exact .bool b
  | string s => exact .string s
  | @number text form =>
    rw [denoted, kept, written]
    split
    · exact .null
    · next finite => exact .number (form.resolve_right finite)
  | @array elements _ ih =>
    rw [denoted_array]
    exact .array (List.forall_mem_map.mpr ih)
  | @object members _ _ ih =>
    rw [denoted, kept, written, writtenMembers_eq, keptMembers_eq]
    refine .object (List.forall_mem_map.mpr fun m there => ?_)
    -- a member of the object, or `__proto__` of the prototype
    rcases mem_listed there with own | prototype
    · obtain ⟨n, member, rfl⟩ := List.mem_map.mp own
      exact ih n member
    · unfold inherited at prototype
      split at prototype
      · rw [← Option.some.inj prototype]
        exact .object (List.forall_mem_singleton.mpr .null)
      · cases prototype

theorem hashRequestBody_eq_iff {sha256 : String → String} (injective : Function.Injective sha256)
    {x y : Json} (valid : Valid x) (valid' : Valid y) :
    hashRequestBody sha256 x = hashRequestBody sha256 y ↔
      denoted (sortedKeys x) x = denoted (sortedKeys y) y :=
  injective.eq_iff.trans (asString_stringify_eq_iff (valid.finite_denoted _) (valid'.finite_denoted _))

/-- A body has its hash in common with no body but those alike exactly if it is plain. -/
theorem hash_tells_apart_iff {sha256 : String → String} (injective : Function.Injective sha256)
    {x : Json} (valid : Valid x) :
    (∀ y, Valid y → (hashRequestBody sha256 x = hashRequestBody sha256 y ↔ Alike x y)) ↔ Plain x := by
  constructor
  -- where something is lost, another body differs in just that
  · intro tells
    by_contra lossy
    obtain ⟨y, valid', same, different⟩ := exists_same_body valid lossy
    exact different ((tells y valid').mp ((hashRequestBody_eq_iff injective valid valid').mpr same.symm))
  · intro plain y valid'
    constructor
    · intro same
      exact plain.alike_of_denoted_eq valid valid' ((hashRequestBody_eq_iff injective valid valid').mp same)
    · intro alike
      rw [hashRequestBody, hashRequestBody, alike.sortedJson_eq valid valid']

/-! ### Bodies of sends -/

theorem Plain.toJson {numberText : ℚ → String} {bodyData : SendBody}
    (decimal : Decimal (numberText bodyData.ttlSeconds)) : Plain (bodyData.toJson numberText) := by
  refine .inr ⟨_, rfl, ?_⟩
  cases bodyData.otp <;> simp [Flat.string, Flat.number decimal]

theorem Valid.toJson {numberText : ℚ → String} {bodyData : SendBody}
    (decimal : Decimal (numberText bodyData.ttlSeconds)) : Valid (bodyData.toJson numberText) := by
  refine .object ?_ ?_
  · cases bodyData.otp
    · exact (by decide :
        [js "phone_number", js "ttl_seconds", js "template_name", js "language_code"].Nodup)
    · exact (by decide :
        [js "phone_number", js "otp", js "ttl_seconds", js "template_name", js "language_code"].Nodup)
  · cases bodyData.otp <;> simp [Valid.string, Valid.number (.inl decimal)]

def sampleBody : SendBody := ⟨"+4915112345678", some "123456", 300, "otp_auth_v1", "en_US"⟩

/-- The body of a send has its hash in common with no body but those alike. -/
theorem hash_tells_apart_of_send :
    Plain (sampleBody.toJson fun _ => "300") ∧
    ∀ y, Valid y → (hashRequestBody id (sampleBody.toJson fun _ => "300") = hashRequestBody id y ↔
      Alike (sampleBody.toJson fun _ => "300") y) := by
  have decimal : Decimal "300" := ⟨by decide, by decide⟩
  exact ⟨.toJson decimal, (hash_tells_apart_iff Function.injective_id (.toJson decimal)).mpr
    (.toJson decimal)⟩

/-- Two bodies that differ in a member of a nested object. -/
theorem nested_bodies_hashed_alike :
    ¬ ∀ (sha256 : String → String) (x y : Json), Function.Injective sha256 → Valid x → Valid y →
      (hashRequestBody sha256 x = hashRequestBody sha256 y ↔ Alike x y) := by
  intro tells
  have valid (digit : String) (decimal : Decimal digit) :
      Valid (object [(js "a", object [(js "b", number digit)])]) :=
    .object (List.nodup_singleton _) (List.forall_mem_singleton.mpr
      (.object (List.nodup_singleton _) (List.forall_mem_singleton.mpr (.number (.inl decimal)))))
  have alike := (tells id _ _ Function.injective_id (valid "1" ⟨by decide, by decide⟩)
    (valid "2" ⟨by decide, by decide⟩)).mp rfl
  simp [Alike, sorted, sortedMembers, byName] at alike

end SelfOtp.Json
