import HanamiNetwork.Basis.WriteOnce
import HanamiNetwork.Messaging.Event

/-!
# The two registries

The blossoms of `HanamiMessaging` are registered by group and name, its endpoints by id and
request type, each in a map of maps (`hanami_messaging.cpp`). A request is dispatched through
both: its endpoint gives a group and a name, and these give the blossom.

Both ways of adding an entry refine the addition to a write-once map by pairs
(`adds_addBlossom`, `adds_addEndpoint`). So whatever calls are made in whatever order, the
registries hold what was added first. What is added as a blossom is a pointer, which nobody
tests: a null pointer takes its pair like any other, and `getBlossom` then gives what it
gives for a pair that is free (`stableDispatch_iff`).
-/

namespace HanamiNetwork

open HanamiNetwork.Basis HanamiNetwork.Basis.WriteOnce

/-! ### The blossoms -/

/-- `doesBlossomExist`. -/
def doesBlossomExist (registered : RegisteredBlossoms) (groupName itemName : Str) : Bool :=
  match registered[groupName]? with
  | some group => group.contains itemName
  | none => false

/-- `addBlossom`. -/
def addBlossom (registered : RegisteredBlossoms) (groupName itemName : Str) (newBlossom : Option Blossom) :
    Bool × RegisteredBlossoms :=
  if doesBlossomExist registered groupName itemName = true then (false, registered)
  else
    let registered := if registered.contains groupName then registered else registered.insertIfNew groupName ∅
    (true, registered.modify groupName fun group => group.insertIfNew itemName newBlossom)

/-! ### The endpoints -/

/-- `addEndpoint`. -/
def addEndpoint (endpointRules : StdMap (Std.ExtTreeMap HttpRequestType EndpointEntry)) (id : Str)
    (httpType : HttpRequestType) (sakuraType : UInt32) (group name : Str) :
    Bool × StdMap (Std.ExtTreeMap HttpRequestType EndpointEntry) :=
  let newEntry : EndpointEntry := { type := sakuraType, group := group, name := name }
  match endpointRules[id]? with
  | some rules =>
    if rules.contains httpType then (false, endpointRules)
    else (true, endpointRules.insert id (rules.insertIfNew httpType newEntry))
  | none =>
    let typeEntry := (∅ : Std.ExtTreeMap HttpRequestType EndpointEntry).insertIfNew httpType newEntry
    (true, endpointRules.insertIfNew id typeEntry)

/-- `mapEndpoint`, with its result argument. -/
def Controller.mapEndpointInto (k : Controller) (result : EndpointEntry) (id : Str) (type : HttpRequestType) :
    Bool × EndpointEntry :=
  match k.endpointRules[id]? with
  | none => (false, result)
  | some rules =>
    match rules[type]? with
    | none => (false, result)
    | some entry => (true, { result with type := entry.type, group := entry.group, name := entry.name })

theorem Controller.mapEndpointInto_eq (k : Controller) (result : EndpointEntry) (id : Str) (type : HttpRequestType) :
    k.mapEndpointInto result id type =
      (k.mapEndpoint id type).elim (false, result) fun entry => (true, entry) := by
  unfold mapEndpointInto mapEndpoint
  cases hr : k.endpointRules[id]? with
  | none => rfl
  | some rules => cases ht : rules[type]? <;> simp [ht]

/-! ### Adding an entry -/

/-- The blossom that is found is the pointer under its pair of names, if there is one. -/
theorem getBlossom_eq (registered : RegisteredBlossoms) (groupName itemName : Str) :
    getBlossom registered groupName itemName = (Nested.flat registered (groupName, itemName)).join := by
  unfold Nested.flat getBlossom
  cases registered[groupName]? with
  | none => rfl
  | some group =>
    show _ = group[itemName]?.join
    cases h : group[itemName]? <;> simp [h]

theorem flat_endpointRules (k : Controller) (id : Str) (type : HttpRequestType) :
    Nested.flat k.endpointRules (id, type) = k.mapEndpoint id type := by
  unfold Nested.flat Controller.mapEndpoint
  cases k.endpointRules[id]? <;> rfl

/-- A blossom exists if there is a pointer under its pair of names. -/
theorem doesBlossomExist_eq (registered : RegisteredBlossoms) (groupName itemName : Str) :
    doesBlossomExist registered groupName itemName = (Nested.flat registered (groupName, itemName)).isSome := by
  unfold doesBlossomExist Nested.flat
  cases registered[groupName]? with
  | none => rfl
  | some group => exact Std.ExtTreeMap.contains_eq_isSome_getElem?

/-- Adding a blossom refines adding the pointer by its pair of names. -/
theorem adds_addBlossom (registered : RegisteredBlossoms) (groupName itemName : Str) (newBlossom : Option Blossom) :
    Adds registered ((groupName, itemName), newBlossom) (addBlossom registered groupName itemName newBlossom) := by
  have hexist := doesBlossomExist_eq registered groupName itemName
  unfold addBlossom
  split_ifs with h hg
  · exact adds_taken (hexist.symm.trans h)
  all_goals
    rw [hexist, Bool.not_eq_true, Option.isSome_eq_false_iff, Option.isNone_iff_eq_none] at h
    refine adds_new h ?_ fun group hne => ?_
  · obtain ⟨group, hgroup⟩ := Option.isSome_iff_exists.mp
      (Std.ExtTreeMap.contains_eq_isSome_getElem?.symm.trans hg)
    show (registered.modify groupName _)[groupName]? = _
    rw [Std.ExtTreeMap.getElem?_modify_self, hgroup]
    rfl
  · rw [Std.ExtTreeMap.getElem?_modify, if_neg fun hk => hne (Std.LawfulEqOrd.eq_of_compare hk).symm]
  · have hnone : registered[groupName]? = none := by
      rw [← Option.not_isSome_iff_eq_none, ← Std.ExtTreeMap.contains_eq_isSome_getElem?]
      exact hg
    show ((registered.insertIfNew groupName ∅).modify groupName _)[groupName]? = _
    rw [Std.ExtTreeMap.getElem?_modify_self, Std.ExtTreeMap.getElem?_insertIfNew]
    simp [hnone, Std.ExtTreeMap.mem_iff_isSome_getElem?]
  · have hk : ¬ compare groupName group = .eq := fun hk => hne (Std.LawfulEqOrd.eq_of_compare hk).symm
    rw [Std.ExtTreeMap.getElem?_modify, if_neg hk, Std.ExtTreeMap.getElem?_insertIfNew, if_neg fun h => hk h.1]

theorem adds_addEndpoint (endpointRules : StdMap (Std.ExtTreeMap HttpRequestType EndpointEntry)) (id : Str)
    (httpType : HttpRequestType) (sakuraType : UInt32) (group name : Str) :
    Adds endpointRules ((id, httpType), ⟨sakuraType, group, name⟩)
      (addEndpoint endpointRules id httpType sakuraType group name) := by
  unfold addEndpoint
  cases hid : endpointRules[id]? with
  | none =>
    refine adds_new (by simp [Nested.flat, hid]) ?_ fun id' hne => ?_
    · show (endpointRules.insertIfNew id _)[id]? = _
      rw [Std.ExtTreeMap.getElem?_insertIfNew]
      simp [hid, Std.ExtTreeMap.mem_iff_isSome_getElem?]
    · rw [Std.ExtTreeMap.getElem?_insertIfNew, if_neg fun hk => hne (Std.LawfulEqOrd.eq_of_compare hk.1).symm]
  | some rules =>
    have hflat : Nested.flat endpointRules (id, httpType) = rules[httpType]? := by simp [Nested.flat, hid]
    dsimp only
    split_ifs with h
    · refine adds_taken ?_
      rw [hflat]
      exact Std.ExtTreeMap.contains_eq_isSome_getElem?.symm.trans h
    · refine adds_new ?_ ?_ fun id' hne => ?_
      · rw [hflat, ← Option.not_isSome_iff_eq_none, ← Std.ExtTreeMap.contains_eq_isSome_getElem?]
        exact h
      · simp [hid]
      · rw [Std.ExtTreeMap.getElem?_insert, if_neg fun hk => hne (Std.LawfulEqOrd.eq_of_compare hk).symm]

/-! ### Runs -/

/-- A call that registers something. -/
inductive RegistryCall where
  /-- `addBlossom`. -/
  | addBlossom (groupName itemName : Str) (newBlossom : Option Blossom)
  /-- `addEndpoint`. -/
  | addEndpoint (id : Str) (httpType : HttpRequestType) (sakuraType : UInt32) (group name : Str)

/-- What is taken by a call that is accepted. -/
inductive RegistryKey where
  /-- A group and a name. -/
  | blossom (groupName itemName : Str)
  /-- An id and a request type. -/
  | endpoint (id : Str) (httpType : HttpRequestType)

namespace RegistryCall

/-- What a call returns, and the registries after it. -/
def apply (k : Controller) : RegistryCall → Bool × Controller
  | .addBlossom groupName itemName newBlossom =>
    let (ret, registered) := HanamiNetwork.addBlossom k.registeredBlossoms groupName itemName newBlossom
    (ret, { k with registeredBlossoms := registered })
  | .addEndpoint id httpType sakuraType group name =>
    let (ret, rules) := HanamiNetwork.addEndpoint k.endpointRules id httpType sakuraType group name
    (ret, { k with endpointRules := rules })

/-- What a call asks for. -/
def key : RegistryCall → RegistryKey
  | .addBlossom groupName itemName _ => .blossom groupName itemName
  | .addEndpoint id httpType _ _ _ => .endpoint id httpType

/-- The pointer to a blossom a call adds. -/
def blossom : RegistryCall → Option ((Str × Str) × Option Blossom)
  | .addBlossom groupName itemName newBlossom => some ((groupName, itemName), newBlossom)
  | .addEndpoint .. => none

/-- The endpoint a call adds. -/
def endpoint : RegistryCall → Option ((Str × HttpRequestType) × EndpointEntry)
  | .addBlossom .. => none
  | .addEndpoint id httpType sakuraType group name => some ((id, httpType), ⟨sakuraType, group, name⟩)

end RegistryCall

/-- The controller with nothing registered. -/
def Controller.started (k : Controller) : Controller := { k with registeredBlossoms := ∅, endpointRules := ∅ }

/-- The controller after a list of calls. -/
def Controller.register (k : Controller) (calls : List RegistryCall) : Controller :=
  calls.foldl (fun k call => (call.apply k).2) k

/-- The first pointer to a blossom that is added under a group and a name. -/
def firstBlossom (calls : List RegistryCall) (groupName itemName : Str) : Option (Option Blossom) :=
  firstAdded (calls.filterMap RegistryCall.blossom) (groupName, itemName)

/-- The first endpoint that is added for an id and a type. -/
def firstEndpoint (calls : List RegistryCall) (id : Str) (httpType : HttpRequestType) : Option EndpointEntry :=
  firstAdded (calls.filterMap RegistryCall.endpoint) (id, httpType)

section

variable (k : Controller) (call : RegistryCall) (calls : List RegistryCall)

/-- A call adds its blossom to the flat map, and leaves the blossoms alone if it has none. -/
theorem flat_registeredBlossoms_apply : Nested.flat (call.apply k).2.registeredBlossoms =
    addAll (Nested.flat k.registeredBlossoms) call.blossom.toList := by
  cases call with
  | addBlossom groupName itemName newBlossom =>
    exact (adds_addBlossom k.registeredBlossoms groupName itemName newBlossom).flat
  | addEndpoint id httpType sakuraType group name => rfl

theorem flat_endpointRules_apply : Nested.flat (call.apply k).2.endpointRules =
    addAll (Nested.flat k.endpointRules) call.endpoint.toList := by
  cases call with
  | addBlossom groupName itemName newBlossom => rfl
  | addEndpoint id httpType sakuraType group name =>
    exact (adds_addEndpoint k.endpointRules id httpType sakuraType group name).flat

/-- A rejected call changes nothing. -/
theorem apply_rejected (h : (call.apply k).1 = false) : (call.apply k).2 = k := by
  cases call with
  | addBlossom groupName itemName newBlossom =>
    exact congrArg (fun registered => { k with registeredBlossoms := registered })
      ((adds_addBlossom k.registeredBlossoms groupName itemName newBlossom).rejected h)
  | addEndpoint id httpType sakuraType group name =>
    exact congrArg (fun rules => { k with endpointRules := rules })
      ((adds_addEndpoint k.endpointRules id httpType sakuraType group name).rejected h)

theorem flat_registeredBlossoms_register (groupName itemName : Str) :
    Nested.flat (k.register calls).registeredBlossoms (groupName, itemName) =
      (Nested.flat k.registeredBlossoms (groupName, itemName)).or (firstBlossom calls groupName itemName) := by
  induction calls generalizing k with
  | nil => exact Option.or_none.symm
  | cons call calls ih =>
    show Nested.flat ((call.apply k).2.register calls).registeredBlossoms (groupName, itemName) = _
    rw [ih, flat_registeredBlossoms_apply, addAll_apply, Option.or_assoc, firstBlossom, firstBlossom,
      ← firstAdded_append]
    cases h : call.blossom <;> simp [h]

theorem mapEndpoint_register (id : Str) (httpType : HttpRequestType) :
    (k.register calls).mapEndpoint id httpType =
      (k.mapEndpoint id httpType).or (firstEndpoint calls id httpType) := by
  induction calls generalizing k with
  | nil => exact Option.or_none.symm
  | cons call calls ih =>
    show ((call.apply k).2.register calls).mapEndpoint id httpType = _
    rw [ih, ← flat_endpointRules, flat_endpointRules_apply, addAll_apply, flat_endpointRules, Option.or_assoc,
      firstEndpoint, firstEndpoint, ← firstAdded_append]
    cases h : call.endpoint <;> simp [h]

/-- No blossom was added under the names if no call asked for them. -/
theorem firstBlossom_eq_none (groupName itemName : Str) :
    firstBlossom calls groupName itemName = none ↔ ∀ c ∈ calls, c.key ≠ .blossom groupName itemName := by
  rw [firstBlossom, firstAdded_eq_none]
  simp only [List.mem_filterMap, forall_exists_index, and_imp]
  constructor
  · rintro h c hc hkey
    cases c with
    | addBlossom g n b => exact h _ _ hc rfl (by injection hkey with hg hn; rw [hg, hn])
    | addEndpoint => cases hkey
  · rintro h e c hc he hkey
    cases c with
    | addBlossom g n b =>
      obtain rfl := Option.some_inj.mp he
      obtain ⟨rfl, rfl⟩ := Prod.mk.inj hkey
      exact h _ hc rfl
    | addEndpoint => cases he

theorem firstEndpoint_eq_none (id : Str) (httpType : HttpRequestType) :
    firstEndpoint calls id httpType = none ↔ ∀ c ∈ calls, c.key ≠ .endpoint id httpType := by
  rw [firstEndpoint, firstAdded_eq_none]
  simp only [List.mem_filterMap, forall_exists_index, and_imp]
  constructor
  · rintro h c hc hkey
    cases c with
    | addBlossom => cases hkey
    | addEndpoint i t s g n => exact h _ _ hc rfl (by injection hkey with hi ht; rw [hi, ht])
  · rintro h e c hc he hkey
    cases c with
    | addBlossom => cases he
    | addEndpoint i t s g n =>
      obtain rfl := Option.some_inj.mp he
      obtain ⟨rfl, rfl⟩ := Prod.mk.inj hkey
      exact h _ hc rfl

theorem flat_registeredBlossoms_apply_of_ne {groupName itemName : Str} (h : call.key ≠ .blossom groupName itemName) :
    Nested.flat (call.apply k).2.registeredBlossoms (groupName, itemName) =
      Nested.flat k.registeredBlossoms (groupName, itemName) := by
  have hone := flat_registeredBlossoms_register k [call] groupName itemName
  rwa [(firstBlossom_eq_none [call] groupName itemName).mpr (by simpa using h), Option.or_none] at hone

theorem mapEndpoint_apply_of_ne {id : Str} {httpType : HttpRequestType} (h : call.key ≠ .endpoint id httpType) :
    (call.apply k).2.mapEndpoint id httpType = k.mapEndpoint id httpType := by
  have hone := mapEndpoint_register k [call] id httpType
  rwa [(firstEndpoint_eq_none [call] id httpType).mpr (by simpa using h), Option.or_none] at hone

theorem flat_registeredBlossoms_started (names : Str × Str) :
    Nested.flat k.started.registeredBlossoms names = none := by
  simp [Nested.flat, Controller.started]

theorem mapEndpoint_started (id : Str) (httpType : HttpRequestType) : k.started.mapEndpoint id httpType = none := by
  simp [Controller.mapEndpoint, Controller.started]

/-- A call is accepted exactly if no earlier one asked for the same. -/
theorem apply_accepted_iff :
    (call.apply (k.started.register calls)).1 = true ↔ ∀ c ∈ calls, c.key ≠ call.key := by
  cases call with
  | addBlossom groupName itemName newBlossom =>
    show (addBlossom _ groupName itemName newBlossom).1 = true ↔ _
    rw [(adds_addBlossom _ groupName itemName newBlossom).accepted, add_accepts, flat_registeredBlossoms_register,
      flat_registeredBlossoms_started, Option.none_or]
    exact firstBlossom_eq_none calls groupName itemName
  | addEndpoint id httpType sakuraType group name =>
    show (addEndpoint _ id httpType sakuraType group name).1 = true ↔ _
    rw [(adds_addEndpoint _ id httpType sakuraType group name).accepted, add_accepts, flat_endpointRules,
      mapEndpoint_register, mapEndpoint_started, Option.none_or]
    exact firstEndpoint_eq_none calls id httpType

end

/-! ### Dispatch -/

/-- After these calls, the registries are write-once maps, and requests are dispatched by what was
added first. -/
structure StableDispatch (calls : List RegistryCall) (k : Controller) : Prop where
  /-- The blossoms by group and name. -/
  blossoms : Nested.flat k.registeredBlossoms = addAll (fun _ => none) (calls.filterMap RegistryCall.blossom)
  /-- The endpoints by id and type. -/
  endpoints : Nested.flat k.endpointRules = addAll (fun _ => none) (calls.filterMap RegistryCall.endpoint)
  /-- The next call is accepted exactly if no earlier one asked for the same. -/
  accepted : ∀ call : RegistryCall, (call.apply k).1 = true ↔ ∀ c ∈ calls, c.key ≠ call.key
  /-- It changes nothing if it is rejected. -/
  rejected : ∀ call : RegistryCall, (call.apply k).1 = false → (call.apply k).2 = k
  /-- It leaves the blossoms under other names alone. -/
  otherBlossoms : ∀ (call : RegistryCall) (groupName itemName : Str), call.key ≠ .blossom groupName itemName →
    Nested.flat (call.apply k).2.registeredBlossoms (groupName, itemName) =
      Nested.flat k.registeredBlossoms (groupName, itemName)
  /-- It leaves the endpoints for other ids and types alone. -/
  otherEndpoints : ∀ (call : RegistryCall) (id : Str) (httpType : HttpRequestType), call.key ≠ .endpoint id httpType →
    ∀ result, (call.apply k).2.mapEndpointInto result id httpType = k.mapEndpointInto result id httpType
  /-- A request is mapped to the first endpoint, and from there to the first blossom. -/
  route : ∀ (id : Str) (httpType : HttpRequestType) (entry : EndpointEntry),
    firstEndpoint calls id httpType = some entry →
    (∀ result, k.mapEndpointInto result id httpType = (true, entry)) ∧
      getBlossom k.registeredBlossoms entry.group entry.name = (firstBlossom calls entry.group entry.name).join
  /-- Without an endpoint, the result argument is left as it was. -/
  noRoute : ∀ (id : Str) (httpType : HttpRequestType), firstEndpoint calls id httpType = none →
    ∀ result, k.mapEndpointInto result id httpType = (false, result)
  /-- A blossom exists exactly if it is found. -/
  exist : ∀ groupName itemName : Str,
    doesBlossomExist k.registeredBlossoms groupName itemName = true ↔
      getBlossom k.registeredBlossoms groupName itemName ≠ none
  /-- No later call changes what is found. -/
  stable : ∀ later : List RegistryCall,
    (∀ (id : Str) (httpType : HttpRequestType) (entry : EndpointEntry), k.mapEndpoint id httpType = some entry →
      (k.register later).mapEndpoint id httpType = some entry) ∧
    ∀ (groupName itemName : Str) (b : Option Blossom),
      Nested.flat k.registeredBlossoms (groupName, itemName) = some b →
      Nested.flat (k.register later).registeredBlossoms (groupName, itemName) = some b

/-- A blossom exists exactly if it is found, unless the pointer that was added first is null. -/
theorem doesBlossomExist_register_iff (k : Controller) (calls : List RegistryCall) (groupName itemName : Str) :
    (doesBlossomExist (k.started.register calls).registeredBlossoms groupName itemName = true ↔
      getBlossom (k.started.register calls).registeredBlossoms groupName itemName ≠ none) ↔
    firstBlossom calls groupName itemName ≠ some none := by
  rw [doesBlossomExist_eq, getBlossom_eq, flat_registeredBlossoms_register, flat_registeredBlossoms_started,
    Option.none_or]
  cases firstBlossom calls groupName itemName with
  | none => simp
  | some b => cases b <;> simp

/-- **Stable dispatch**: whatever is registered in whatever order, the first registration of every pair stands,
and requests are dispatched by these, as a write-once map would; exactly if what is added first under a group and a
name is never a null pointer. -/
theorem stableDispatch_iff (k : Controller) (calls : List RegistryCall) :
    StableDispatch calls (k.started.register calls) ↔
      ∀ groupName itemName, firstBlossom calls groupName itemName ≠ some none := by
  constructor
  · exact fun h groupName itemName =>
      (doesBlossomExist_register_iff k calls groupName itemName).mp (h.exist groupName itemName)
  intro h
  refine
    { blossoms := ?_
      endpoints := ?_
      accepted := fun call => apply_accepted_iff k call calls
      rejected := fun call => apply_rejected _ call
      otherBlossoms := fun call _ _ hne => flat_registeredBlossoms_apply_of_ne _ call hne
      otherEndpoints := fun call id httpType hne result => ?_
      route := fun id httpType entry he => ⟨fun result => ?_, ?_⟩
      noRoute := fun id httpType he result => ?_
      exist := fun groupName itemName =>
        (doesBlossomExist_register_iff k calls groupName itemName).mpr (h groupName itemName)
      stable := fun later => ⟨fun id httpType entry he => ?_, fun groupName itemName b hb => ?_⟩ }
  · funext ⟨groupName, itemName⟩
    rw [flat_registeredBlossoms_register, flat_registeredBlossoms_started, addAll_apply]
    rfl
  · funext ⟨id, httpType⟩
    rw [flat_endpointRules, mapEndpoint_register, mapEndpoint_started, addAll_apply]
    rfl
  · rw [Controller.mapEndpointInto_eq, Controller.mapEndpointInto_eq, mapEndpoint_apply_of_ne _ call hne]
  · rw [Controller.mapEndpointInto_eq, mapEndpoint_register, mapEndpoint_started, he]
    rfl
  · rw [getBlossom_eq, flat_registeredBlossoms_register, flat_registeredBlossoms_started, Option.none_or]
  · rw [Controller.mapEndpointInto_eq, mapEndpoint_register, mapEndpoint_started, he]
    rfl
  · rw [mapEndpoint_register, he, Option.some_or]
  · rw [flat_registeredBlossoms_register, hb, Option.some_or]

/-- A null pointer that is added is a blossom that exists and is not found. -/
theorem not_stableDispatch_null : ¬ StableDispatch [.addBlossom (str "test") (str "greet") none]
    (greeterController.started.register [.addBlossom (str "test") (str "greet") none]) :=
  fun h => (doesBlossomExist_register_iff greeterController _ _ _).mp (h.exist (str "test") (str "greet")) (by
    simp [firstBlossom, firstAdded, RegistryCall.blossom])

end HanamiNetwork
