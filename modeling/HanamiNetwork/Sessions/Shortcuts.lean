import HanamiNetwork.Basis.WriteOnce
import HanamiNetwork.Sessions.Outgoing
import Mathlib.Data.List.Induction

/-!
# Shortcuts

`initClients` (`hanami_messaging.cpp`) as a whole: the clients it makes for the groups of the
config, the map it puts them into, and the seven pointers to them, the shortcuts.

The map keeps the first client of a group, and a shortcut the last one. So they agree, and
every client that was started is in the map, exactly if no group with an address is given
twice (`shortcutsAgree_iff`).

The threads of the clients run from `startThread` on; what they do to the sessions is not
part of this.
-/

namespace HanamiNetwork

open HanamiNetwork.Basis HanamiNetwork.Basis.WriteOnce

/-- `getOutgoingClient`. -/
def HanamiMessaging.getOutgoingClient (m : HanamiMessaging) (identifier : Str) : Option Client :=
  match m.clients[identifier]? with
  | some client => some client
  | none => none

/-- The components that have a shortcut. -/
inductive Component where
  /-- `misakiClient`. -/
  | misaki
  /-- `shioriClient`. -/
  | shiori
  /-- `kyoukoClient`. -/
  | kyouko
  /-- `azukiClient`. -/
  | azuki
  /-- `nozomiClient`. -/
  | nozomi
  /-- `inoriClient`. -/
  | inori
  /-- `toriiClient`. -/
  | torii
  deriving DecidableEq

/-- The name of the group of a component. -/
def Component.name : Component → Str
  | misaki => str "misaki"
  | shiori => str "shiori"
  | kyouko => str "kyouko"
  | azuki => str "azuki"
  | nozomi => str "nozomi"
  | inori => str "inori"
  | torii => str "torii"

/-- `HanamiMessaging` in `initClients`. -/
structure Initialization where
  /-- The clients. -/
  messaging : HanamiMessaging
  /-- The shortcuts, as the addresses of the clients they point to. -/
  shortcut : Component → Option ClientId
  /-- The clients whose thread was started, under the name of their group. -/
  started : List (Str × Client)

/-- Before `initClients`: there are no clients, and the shortcuts are null. -/
def Initialization.initial (nextClient : ClientId) : Initialization := ⟨⟨∅, ∅, nextClient⟩, fun _ => none, []⟩

section

variable (x : Network)

/-- `if(groupName == name) { shortcut = newClient; }`, of a component. -/
def setShortcut (groupName : Str) (newClient : ClientId) (shortcut : Component → Option ClientId)
    (component : Component) : Component → Option ClientId :=
  if groupName = component.name then Function.update shortcut component (some newClient) else shortcut

/-- The body of the loop of `initClients`, with the shortcuts. -/
def initGroup (s : Initialization) (groupName : Str) : Initialization :=
  match newClient x s.messaging.nextClient groupName groupName with
  | none => s
  | some newClient =>
    { messaging := initClient x s.messaging groupName
      shortcut := [.misaki, .shiori, .kyouko, .azuki, .nozomi, .inori, .torii].foldl
        (setShortcut groupName newClient.id) s.shortcut
      started := s.started ++ [(groupName, newClient)] }

/-- The second loop of `initClients`; `waitForAllConnected` says which clients are connected in time. -/
def waitForClients (waitForAllConnected : Client → Bool) (m : HanamiMessaging) (error : ErrorContainer) :
    ErrorContainer :=
  m.clients.toList.foldl (fun error entry =>
    if waitForAllConnected entry.2 then error
    else error.addMeesage (str "Failed to initalize connection for client '" ++ entry.1 ++ str "'")) error

/-- `initClients`. -/
def initClients (waitForAllConnected : Client → Bool) (s : Initialization) (configGroups : List Str)
    (error : ErrorContainer) : Bool × Initialization × ErrorContainer :=
  let s := configGroups.foldl (initGroup x) s
  (true, s, waitForClients waitForAllConnected s.messaging error)

/-- The config has an address for the group. -/
def hasAddress (groupName : Str) : Bool := x.GET_STRING_CONFIG groupName (str "address") ≠ []

end

/-! ### What the loop leaves -/

theorem foldl_setShortcut (groupName : Str) (newClient : ClientId) (shortcut : Component → Option ClientId)
    (component : Component) :
    [.misaki, .shiori, .kyouko, .azuki, .nozomi, .inori, .torii].foldl (setShortcut groupName newClient) shortcut
      component = if groupName = component.name then some newClient else shortcut component := by
  have hset : ∀ shortcut c, setShortcut groupName newClient shortcut c component =
      if c = component ∧ groupName = component.name then some newClient else shortcut component := by
    intro shortcut c
    unfold setShortcut
    by_cases hc : c = component
    · subst hc
      split_ifs <;> simp_all
    · split_ifs <;> simp_all [Function.update_of_ne (Ne.symm hc)]
  simp only [List.foldl_cons, List.foldl_nil, hset]
  cases component <;> split_ifs <;> simp_all

/-- The state of the loop after the clients that were made so far. -/
structure Initialized (x : Network) (groups : List Str) (s : Initialization) : Prop where
  /-- A client was made for every group with an address. -/
  groups : s.started.map Prod.fst = groups.filter (hasAddress x)
  /-- The map has the first client of a group. -/
  clients : ∀ name : Str, s.messaging.clients[name]? = firstAdded s.started name
  /-- A shortcut points to the last one. -/
  shortcut : ∀ component, s.shortcut component =
    (firstAdded s.started.reverse component.name).map Client.id
  /-- The clients are different objects. -/
  distinct : (s.started.map fun e => e.2.id).Nodup
  /-- Their addresses are used up. -/
  used : ∀ e ∈ s.started, e.2.id < s.messaging.nextClient

section

variable {x : Network} {groups : List Str} {s : Initialization}

theorem initialized_initial (x : Network) (nextClient : ClientId) : Initialized x [] (.initial nextClient) :=
  ⟨rfl, fun _ => Std.ExtTreeMap.getElem?_empty, fun _ => rfl, List.nodup_nil, fun _ h => nomatch h⟩

theorem newClient_of_address {groupName : Str} (h : hasAddress x groupName = true) (id : ClientId) :
    ∃ c, newClient x id groupName groupName = some c ∧ c.id = id :=
  ⟨_, if_pos (of_decide_eq_true h), rfl⟩

theorem initialized_add (h : Initialized x groups s) {groupName : Str} (haddress : hasAddress x groupName = true)
    {c : Client} (hc : c.id = s.messaging.nextClient) (shortcut : Component → Option ClientId)
    (hshortcut : ∀ component, shortcut component =
      if groupName = component.name then some c.id else s.shortcut component) :
    Initialized x (groups ++ [groupName])
      ⟨{ s.messaging with
          clients := s.messaging.clients.insertIfNew groupName c, nextClient := s.messaging.nextClient + 1 },
        shortcut, s.started ++ [(groupName, c)]⟩ where
  groups := by
    rw [List.map_append, h.groups, List.filter_append, List.filter_singleton, haddress]
    rfl
  clients name := by
    refine (getElem?_foldl_insertIfNew s.messaging.clients [(groupName, c)] name).trans ?_
    rw [h.clients, firstAdded_append]
  shortcut component := by
    refine (hshortcut component).trans ?_
    rw [List.reverse_append, List.reverse_singleton, List.singleton_append, firstAdded_cons, h.shortcut]
    split_ifs
    · rfl
    · rw [Option.none_or]
  distinct := by
    rw [List.map_append, List.nodup_append]
    refine ⟨h.distinct, List.nodup_singleton _, fun id hmem id' hlast heq => ?_⟩
    obtain ⟨e, he, rfl⟩ := List.mem_map.mp hmem
    obtain rfl := List.mem_singleton.mp hlast
    exact absurd (heq.trans hc) (h.used e he).ne
  used e he := by
    rcases List.mem_append.mp he with he | he
    · exact Nat.lt_succ_of_lt (h.used e he)
    · obtain rfl := List.mem_singleton.mp he
      exact hc ▸ Nat.lt_succ_self _

/-- **What one group adds**: one client if it has an address, and else nothing. -/
theorem initialized_initGroup (h : Initialized x groups s) (groupName : Str) :
    Initialized x (groups ++ [groupName]) (initGroup x s groupName) := by
  by_cases haddress : hasAddress x groupName = true
  · obtain ⟨c, hnew, hc⟩ := newClient_of_address haddress s.messaging.nextClient
    simp only [initGroup, initClient, hnew]
    exact initialized_add h haddress hc _ fun component => foldl_setShortcut groupName c.id s.shortcut component
  · have hnone : newClient x s.messaging.nextClient groupName groupName = none :=
      if_neg fun hne => haddress (decide_eq_true hne)
    simp only [initGroup, hnone]
    refine { h with groups := ?_ }
    rw [h.groups, List.filter_append, List.filter_singleton, Bool.eq_false_iff.mpr haddress]
    exact (List.append_nil _).symm

theorem initialized_foldl (x : Network) (nextClient : ClientId) (groups : List Str) :
    Initialized x groups (groups.foldl (initGroup x) (.initial nextClient)) := by
  induction groups using List.reverseRecOn with
  | nil => exact initialized_initial x nextClient
  | append_singleton groups groupName ih =>
    rw [List.foldl_append, List.foldl_cons, List.foldl_nil]
    exact initialized_initGroup ih groupName

end

/-! ### Agreement -/

/-- The shortcuts and the map of the clients agree after `initClients`. -/
structure ShortcutsAgree (x : Network) (configGroups : List Str) (s : Initialization) : Prop where
  /-- A shortcut points to the client of its name. -/
  shortcut : ∀ component, s.shortcut component = (s.messaging.getOutgoingClient component.name).map Client.id
  /-- There is none for a group that does not occur or has no address. -/
  absent : ∀ component, component.name ∉ configGroups ∨ x.GET_STRING_CONFIG component.name (str "address") = [] →
    s.shortcut component = none ∧ s.messaging.getOutgoingClient component.name = none
  /-- Every client that was started is found under some name. -/
  reachable : ∀ e ∈ s.started, ∃ name client, s.messaging.getOutgoingClient name = some client ∧ client.id = e.2.id
  /-- Closing the client of a name works on the one the shortcut points to. -/
  closes : ∀ component outcome error client,
    .lock client ∈ (s.messaging.closeClient component.name outcome error).effects ↔
      s.shortcut component = some client

/-- Closing a client takes its lock, and no other. -/
theorem lock_mem_closeClient_iff (c : Client) (outcome : CloseOutcome) (error : ErrorContainer) (client : ClientId) :
    .lock client ∈ (closeClient c outcome error).effects ↔ c.id = client := by
  cases hs : c.session with
  | none => simp [closeClient_of_none hs, eq_comm]
  | some session =>
    cases ho : outcome.closed with
    | false => simp [closeClient_of_failed hs ho, eq_comm]
    | true => simp [closeClient_of_closed hs ho, eq_comm]

theorem lock_mem_closeClient_of_name (m : HanamiMessaging) (name : Str) (outcome : CloseOutcome)
    (error : ErrorContainer) (client : ClientId) :
    .lock client ∈ (m.closeClient name outcome error).effects ↔ (m.clients[name]?).map Client.id = some client := by
  unfold HanamiMessaging.closeClient
  cases m.clients[name]? with
  | none => simp
  | some c =>
    have hc := lock_mem_closeClient_iff c outcome error client
    simp [hc]

@[simp] theorem getOutgoingClient_eq (m : HanamiMessaging) (identifier : Str) :
    m.getOutgoingClient identifier = m.clients[identifier]? := by
  unfold HanamiMessaging.getOutgoingClient
  cases m.clients[identifier]? <;> rfl

section

variable {x : Network} {groups : List Str} {s : Initialization} (h : Initialized x groups s)
include h

theorem nodup_of_reachable (hreach : ∀ e ∈ s.started, ∃ name client,
    s.messaging.getOutgoingClient name = some client ∧ client.id = e.2.id) : (s.started.map Prod.fst).Nodup := by
  -- a client that is in the map is the first one of its group
  have hfirst : ∀ e ∈ s.started, firstAdded s.started e.1 = some e.2 := by
    intro e he
    obtain ⟨name, client, hfound, hid⟩ := hreach e he
    rw [getOutgoingClient_eq, h.clients] at hfound
    have heq : (name, client) = e := List.inj_on_of_nodup_map h.distinct (firstAdded_mem hfound) he hid
    rw [← heq]
    exact hfound
  refine List.Nodup.map_on (fun e he e' he' hname => ?_) (List.Nodup.of_map _ h.distinct)
  have hsame := (hfirst e he).symm.trans ((congrArg _ hname).trans (hfirst e' he'))
  exact Prod.ext hname (Option.some_inj.mp hsame)

/-- Where no two clients were made for one group, the shortcuts and the map agree. -/
theorem shortcutsAgree_of_nodup (hnodup : (s.started.map Prod.fst).Nodup) : ShortcutsAgree x groups s := by
  have hshortcut : ∀ component, s.shortcut component = (s.messaging.clients[component.name]?).map Client.id := by
    intro component
    rw [h.shortcut, firstAdded_reverse hnodup, h.clients]
  refine ⟨fun component => ?_, fun component habsent => ?_, fun e he => ⟨e.1, e.2, ?_, rfl⟩, ?_⟩
  · rw [getOutgoingClient_eq, hshortcut]
  · have hnone : s.messaging.clients[component.name]? = none := by
      rw [h.clients, firstAdded_eq_none]
      intro e he hname
      have hmem : component.name ∈ groups.filter (hasAddress x) :=
        h.groups ▸ List.mem_map.mpr ⟨e, he, hname⟩
      obtain ⟨hgroup, haddress⟩ := List.mem_filter.mp hmem
      have hne : x.GET_STRING_CONFIG component.name (str "address") ≠ [] := of_decide_eq_true haddress
      exact habsent.elim (fun hn => hn hgroup) hne
    rw [getOutgoingClient_eq, hshortcut, hnone]
    exact ⟨rfl, rfl⟩
  · rw [getOutgoingClient_eq, h.clients, firstAdded_eq_some_iff hnodup]
    exact he
  · intro component outcome error client
    rw [lock_mem_closeClient_of_name, hshortcut]

end

/-- **When the shortcuts and the clients agree**: exactly if no group with an address is given twice. -/
theorem shortcutsAgree_iff (x : Network) (waitForAllConnected : Client → Bool) (nextClient : ClientId)
    (configGroups : List Str) (error : ErrorContainer) :
    ShortcutsAgree x configGroups (initClients x waitForAllConnected (.initial nextClient) configGroups error).2.1 ↔
      (configGroups.filter (hasAddress x)).Nodup := by
  have h := initialized_foldl x nextClient configGroups
  rw [← h.groups]
  exact ⟨fun hagree => nodup_of_reachable h hagree.reachable, shortcutsAgree_of_nodup h⟩

/-- A group is given twice: the shortcut points to the second client, and the map has the first one. -/
theorem not_shortcutsAgree_twice :
    ¬ ShortcutsAgree literalNetwork [str "misaki", str "misaki"]
      (initClients literalNetwork (fun _ => true) (.initial 0) [str "misaki", str "misaki"] ⟨[]⟩).2.1 := by
  intro h
  have hs : some 1 = some 0 := h.shortcut .misaki
  cases hs

end HanamiNetwork
