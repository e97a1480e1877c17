import ConnectApp.Lib.CString
import ConnectApp.Lib.FirstMatch
import ConnectApp.Lib.ObjectManager

/-!
# The D-Bus client (gdbus/client.c)

A client keeps one proxy for every interface of every object of its service. It learns of them from
the signals `InterfacesAdded`, `InterfacesRemoved` and `PropertiesChanged` and from the reply to
`GetManagedObjects`, stores their properties and calls the handlers of the application
(`proxy_added`, `proxy_removed` and `property_changed` of a2dp_masterctrl.c).

The functions take the arguments of the messages as they come, well formed or not. `Client.input`
is what the client does with one of them.

- `Client.WF`: no two proxies are for the same interface of an object, and none is pending
- `Callback.accept`: the calls an application can deal with: a proxy is added once, changed only
  while it is there, and removed once
- `callbacks_accepted`: whatever messages arrive, the calls are such, and they add up to the proxies
  the client has
-/

namespace ConnectApp.Gdbus

open CString DBus ObjectManager

/-- `struct GDBusProxy` (client.c:61-74). `id` stands for the address, `propList` for the hash
table. -/
structure Proxy where
  id : Nat
  objPath : List UInt8
  interface : List UInt8
  propList : List UInt8 → Option Value := fun _ => none
  getAllCall : Bool := false
  pending : Bool := true

/-- The calls of the application's functions. -/
inductive Callback
  | proxyAdded (proxy : Proxy)
  | proxyRemoved (id : Nat)
  | propertyChanged (id : Nat) (name : List UInt8) (value : Option Value)
  | connect
  | disconnect

/-- `struct GDBusClient` (client.c:33-59), with the calls made so far. `fresh` is the address of the
next proxy. -/
structure Client where
  connected : Bool := false
  getObjectsCall : Bool := false
  proxyList : List Proxy := []
  fresh : Nat := 0
  calls : List Callback := []

/-- The value of a property, which must be a variant (client.c:312-315). -/
def variant? : Value → Option Value
  | .variant v => some v
  | _ => none

/-- The properties that `update_properties` (client.c:341-367) gives to `add_property`. -/
def properties (iter : Option Value) : List (List UInt8 × Value) :=
  (entries (elements iter)).filterMap fun e => (variant? e.2).map (e.1, ·)

namespace Client

variable (c : Client)

/-- The application is called. -/
def report (cbs : List Callback) : Client := { c with calls := c.calls ++ cbs }

/-- An assignment to the fields of one proxy. -/
def modify (id : Nat) (f : Proxy → Proxy) : Client :=
  { c with proxyList := c.proxyList.map fun p => if p.id = id then f p else p }

/-- A change of the properties of one proxy. -/
def store (id : Nat) (f : (List UInt8 → Option Value) → List UInt8 → Option Value) : Client :=
  c.modify id fun p => { p with propList := f p.propList }

/-- `add_property` (client.c:305-339). -/
def addProperty (id : Nat) (name : List UInt8) (value : Value) (sendChanged : Bool) : Client :=
  let c := c.store id fun m => Function.update m name (some value)
  if sendChanged then c.report [.propertyChanged id name (some value)] else c

/-- `update_properties` (client.c:341-367). -/
def updateProperties (id : Nat) (iter : Option Value) (sendChanged : Bool) : Client :=
  (properties iter).foldl (fun c e => c.addProperty id e.1 e.2 sendChanged) c

/-- `proxy_added` (client.c:369-378). -/
def proxyAdded (id : Nat) : Client :=
  match c.proxyList.find? fun p => p.id = id with
  | none => c
  | some p =>
    if p.pending then (c.report [.proxyAdded p]).modify id fun p => { p with pending := false }
    else c

/-- `g_dbus_proxy_lookup` (client.c:441-463). -/
def gDbusProxyLookup (path interface : List UInt8) : Option Proxy :=
  c.proxyList.find? fun p => p.interface = interface ∧ p.objPath = path

/-- `properties_changed` (client.c:484-528) for one proxy. -/
def propertiesChanged (args : List Value) (id : Nat) : Client :=
  match args with
  | .string _ :: rest =>
    let c := c.updateProperties id rest.head? true
    (strings (elements rest.tail.head?)).foldl
      (fun c name =>
        (c.store id fun m => Function.update m name none).report [.propertyChanged id name none])
      c
  | _ => c

/-- The signal `PropertiesChanged` from the object at `path`. The watch of a proxy is for its path
and, as the first argument, its interface (client.c:543-548). -/
def propertiesSignal (path : List UInt8) (args : List Value) : Client :=
  match args with
  | .string interface :: _ =>
    ((c.proxyList.filter fun p => p.interface = interface ∧ p.objPath = path).map Proxy.id).foldl
      (fun c id => c.propertiesChanged args id) c
  | _ => c

/-- `proxy_new` (client.c:530-556). -/
def proxyNew (path interface : List UInt8) : Client :=
  { c with
    proxyList := c.proxyList ++ [{ id := c.fresh, objPath := path, interface := interface }]
    fresh := c.fresh + 1 }

/-- `proxy_remove` (client.c:587-604), with `proxy_free` (558-585). -/
def proxyRemove (path interface : List UInt8) : Client :=
  match c.gDbusProxyLookup path interface with
  | none => c
  | some p =>
    { c with
      proxyList := c.proxyList.eraseP fun q => q.interface = interface ∧ q.objPath = path }.report
      [.proxyRemoved p.id]

/-- `parse_properties` (client.c:1065-1092). -/
def parseProperties (path interface : List UInt8) (iter : Option Value) : Client :=
  if interface = introspectable then c
  else if interface = propertiesInterface then c
  else
    match c.gDbusProxyLookup path interface with
    | some p =>
      if p.pending then (c.updateProperties p.id iter false).proxyAdded p.id
      else c.updateProperties p.id iter false
    | none => ((c.proxyNew path interface).updateProperties c.fresh iter false).proxyAdded c.fresh

/-- `parse_interfaces` (client.c:1094-1120). -/
def parseInterfaces (path : List UInt8) (iter : Option Value) : Client :=
  (entries (elements iter)).foldl (fun c e => c.parseProperties path e.1 (some e.2)) c

/-- `interfaces_added` (client.c:1122-1145). -/
def interfacesAdded (args : List Value) : Client :=
  match args with
  | .objectPath path :: rest => c.parseInterfaces path rest.head?
  | _ => c

/-- `interfaces_removed` (client.c:1147-1181). -/
def interfacesRemoved (args : List Value) : Client :=
  match args with
  | .objectPath path :: rest =>
    (strings (elements rest.head?)).foldl (fun c interface => c.proxyRemove path interface) c
  | _ => c

/-- `parse_managed_objects` (client.c:1183-1212). -/
def parseManagedObjects (args : List Value) : Client :=
  (pathEntries (elements args.head?)).foldl (fun c e => c.parseInterfaces e.1 (some e.2)) c

/-- `get_all_properties` (client.c:412-439). -/
def getAllProperties (id : Nat) : Client := c.modify id fun p => { p with getAllCall := true }

/-- `refresh_properties` (client.c:1053-1063). It looks at the first proxy in every round. -/
def refreshProperties : Client :=
  match c.proxyList.head? with
  | none => c
  | some p =>
    c.proxyList.foldl (fun c _ => if p.pending then c.getAllProperties p.id else c) c

/-- `get_managed_objects_reply` (client.c:1214-1243); `none` is an error. -/
def getManagedObjectsReply (reply : Option (List Value)) : Client :=
  let c := match reply with
    | none => c
    | some args => c.parseManagedObjects args
  { c with getObjectsCall := false }.refreshProperties

/-- `get_managed_objects` (client.c:1245-1281). -/
def getManagedObjects : Client :=
  if !c.connected then c
  else if c.getObjectsCall then c
  else { c with getObjectsCall := true }

/-- `service_connect` (client.c:1283-1297). -/
def serviceConnect : Client := ({ c with connected := true }.getManagedObjects).report [.connect]

/-- All proxies are freed, in the order of the list. -/
def freeAll : Client :=
  { c with proxyList := [] }.report (c.proxyList.map fun p : Proxy => .proxyRemoved p.id)

/-- `service_disconnect` (client.c:1299-1310). -/
def serviceDisconnect : Client := ({ c with connected := false }.freeAll).report [.disconnect]

/-- `g_dbus_client_unref` (client.c:1418-1468) by the last user. -/
def gDbusClientUnref : Client := if c.connected then c.freeAll.report [.disconnect] else c.freeAll

end Client

/-- What the client gets from the bus. -/
inductive Input
  | connect
  | disconnect
  | interfacesAdded (args : List Value)
  | interfacesRemoved (args : List Value)
  | propertiesChanged (path : List UInt8) (args : List Value)
  | managedObjects (reply : Option (List Value))

/-- The handler of each message. -/
def Client.input (c : Client) : Input → Client
  | .connect => c.serviceConnect
  | .disconnect => c.serviceDisconnect
  | .interfacesAdded args => c.interfacesAdded args
  | .interfacesRemoved args => c.interfacesRemoved args
  | .propertiesChanged path args => c.propertiesSignal path args
  | .managedObjects reply => c.getManagedObjectsReply reply

/-! ## One proxy for each interface -/

/-- The object and the interface a proxy is for. -/
def Proxy.key (p : Proxy) : List UInt8 × List UInt8 := (p.objPath, p.interface)

/-- The same proxies, perhaps with other properties. -/
def Same (l l' : List Proxy) : Prop :=
  l.map (fun p => (p.id, p.key)) = l'.map fun p => (p.id, p.key)

/-- Such lists have the same ids. -/
theorem Same.ids {l l' : List Proxy} (h : Same l l') : l.map Proxy.id = l'.map Proxy.id := by
  have hfst := congrArg (List.map Prod.fst) h
  rwa [List.map_map, List.map_map] at hfst

/-- Such lists have the same keys. -/
theorem Same.keys {l l' : List Proxy} (h : Same l l') : l.map Proxy.key = l'.map Proxy.key := by
  have hsnd := congrArg (List.map Prod.snd) h
  rwa [List.map_map, List.map_map] at hsnd

section
variable (f g : (List UInt8 → Option Value) → List UInt8 → Option Value) (l : List Proxy) (id : Nat)

/-- Storing properties changes nothing else of a proxy. -/
theorem same_store :
    Same l (l.map fun p => if p.id = id then { p with propList := f p.propList } else p) := by
  rw [Same, List.map_map]
  refine List.map_congr_left fun p _ => ?_
  rw [Function.comp_apply]
  split_ifs <;> rfl

/-- Two stores are one. -/
theorem map_store :
    ((l.map fun p => if p.id = id then { p with propList := f p.propList } else p).map fun p =>
        if p.id = id then { p with propList := g p.propList } else p) =
      l.map fun p => if p.id = id then { p with propList := g (f p.propList) } else p := by
  rw [List.map_map]
  refine List.map_congr_left fun p _ => ?_
  rw [Function.comp_apply]
  by_cases h : p.id = id
  · rw [if_pos h, if_pos h, if_pos h]
  · rw [if_neg h, if_neg h, if_neg h]

end

/-- The client has proxies for all but two interfaces. -/
def Visible (interface : List UInt8) : Prop :=
  interface ≠ introspectable ∧ interface ≠ propertiesInterface

/-- The changes in a signal `PropertiesChanged`. -/
def changes : List Value → List (List UInt8 × Option Value)
  | .string _ :: rest =>
    given (properties rest.head?) ++ (strings (elements rest.tail.head?)).map (·, none)
  | _ => []

/-- The calls that report changes of one proxy. -/
def changeCalls (id : Nat) (cs : List (List UInt8 × Option Value)) : List Callback :=
  cs.map fun e => .propertyChanged id e.1 e.2

theorem changeCalls_append (id : Nat) (cs cs' : List (List UInt8 × Option Value)) :
    changeCalls id (cs ++ cs') = changeCalls id cs ++ changeCalls id cs' := List.map_append

namespace Client

variable {c : Client} {path interface : List UInt8}
  {f g : (List UInt8 → Option Value) → List UInt8 → Option Value}

/-- Ids and keys are used once, new ids are free, and no proxy waits for its properties. -/
structure WF (c : Client) : Prop where
  ids : (c.proxyList.map Proxy.id).Nodup
  below : ∀ p ∈ c.proxyList, p.id < c.fresh
  keys : (c.proxyList.map Proxy.key).Nodup
  settled : ∀ p ∈ c.proxyList, p.pending = false

/-- The test for a proxy, as a test of its key. -/
theorem isFor_eq (path interface : List UInt8) :
    (fun p : Proxy => decide (p.interface = interface ∧ p.objPath = path)) =
      fun p => decide (p.key = (path, interface)) := by
  funext p
  rw [Proxy.key, decide_eq_decide, Prod.mk.injEq, and_comm]

/-- The lookup is by key. -/
theorem lookup_eq_find? (c : Client) (path interface : List UInt8) :
    c.gDbusProxyLookup path interface =
      c.proxyList.find? fun p => p.key = (path, interface) := by
  rw [gDbusProxyLookup, isFor_eq]

theorem mem_of_lookup {p : Proxy} (h : c.gDbusProxyLookup path interface = some p) :
    p ∈ c.proxyList ∧ p.key = (path, interface) := by
  rw [lookup_eq_find?] at h
  have hkey := List.find?_some h
  exact ⟨List.mem_of_find?_eq_some h, of_decide_eq_true hkey⟩

/-- Without a result no proxy has the key. -/
theorem not_mem_of_lookup (h : c.gDbusProxyLookup path interface = none) :
    (path, interface) ∉ c.proxyList.map Proxy.key := by
  rw [lookup_eq_find?, List.find?_eq_none] at h
  intro hmem
  obtain ⟨p, hp, hkey⟩ := List.mem_map.mp hmem
  exact h p hp (decide_eq_true hkey)

/-! ### What the functions do to the list -/

theorem store_store (c : Client) (id : Nat) :
    (c.store id f).store id g = c.store id fun m => g (f m) :=
  congrArg (fun l => { c with proxyList := l }) (map_store f g c.proxyList id)

theorem store_id (c : Client) (id : Nat) : c.store id (fun m => m) = c := by
  rw [store, modify]
  simp

theorem store_report (c : Client) (id : Nat) (cbs : List Callback) :
    (c.report cbs).store id f = (c.store id f).report cbs := rfl

theorem report_report (c : Client) (cbs cbs' : List Callback) :
    (c.report cbs).report cbs' = c.report (cbs ++ cbs') := by
  rw [report, report, report, List.append_assoc]

theorem report_nil (c : Client) : c.report [] = c := by
  rw [report, List.append_nil]

/-- The properties are stored, and reported if this is asked for. -/
theorem updateProperties_eq (c : Client) (id : Nat) (iter : Option Value) (sendChanged : Bool) :
    c.updateProperties id iter sendChanged =
      (c.store id fun m => write m (given (properties iter))).report
        (if sendChanged then changeCalls id (given (properties iter)) else []) := by
  rw [updateProperties]
  induction properties iter generalizing c with
  | nil =>
    have hnil : changeCalls id (given []) = [] := rfl
    rw [List.foldl_nil, hnil, ite_self, report_nil]
    exact (store_id c id).symm
  | cons e props ih =>
    rw [List.foldl_cons, ih, addProperty]
    cases sendChanged with
    | false =>
      simp only [Bool.false_eq_true, if_false]
      rw [store_store]
      rfl
    | true =>
      simp only [if_true]
      rw [store_report, store_store, report_report]
      rfl

/-- The loop over the invalidated properties. -/
theorem discard_eq (c : Client) (id : Nat) (names : List (List UInt8)) :
    names.foldl (fun c name =>
        (c.store id fun m => Function.update m name none).report [.propertyChanged id name none]) c =
      (c.store id fun m => write m (names.map (·, none))).report
        (changeCalls id (names.map (·, none))) := by
  induction names generalizing c with
  | nil =>
    have hnil : changeCalls id [] = [] := rfl
    rw [List.foldl_nil, List.map_nil, hnil, report_nil]
    exact (store_id c id).symm
  | cons name names ih =>
    rw [List.foldl_cons, ih, store_report, store_store, report_report]
    rfl

/-- The changes of a signal are stored and reported, in the same order. -/
theorem propertiesChanged_eq (c : Client) (args : List Value) (id : Nat) :
    c.propertiesChanged args id =
      (c.store id fun m => write m (changes args)).report (changeCalls id (changes args)) := by
  have hnone : c = (c.store id fun m => write m []).report (changeCalls id []) :=
    ((report_nil _).trans (store_id c id)).symm
  cases args with
  | nil => exact hnone
  | cons arg rest =>
    cases arg with
    | string interface =>
      rw [propertiesChanged, discard_eq, updateProperties_eq, store_report, store_store,
        report_report, if_pos rfl, changes, changeCalls_append]
      simp only [write_append]
    | _ => exact hnone

/-- The proxy that the next new object gets. -/
def newProxy (c : Client) (path interface : List UInt8) (iter : Option Value) : Proxy where
  id := c.fresh
  objPath := path
  interface := interface
  propList := write (fun _ => none) (given (properties iter))

/-- One more proxy, and the application is told. -/
def announce (c : Client) (p : Proxy) : Client :=
  { c with
    proxyList := c.proxyList ++ [{ p with pending := false }]
    fresh := c.fresh + 1 }.report [.proxyAdded p]

/-- The next id is not in use. -/
theorem WF.fresh_not_mem (h : c.WF) : c.fresh ∉ c.proxyList.map Proxy.id := by
  intro hmem
  obtain ⟨p, hp, hid⟩ := List.mem_map.mp hmem
  exact absurd hid (Nat.ne_of_lt (h.below p hp))

/-- A new proxy stands at the end of the list, with its properties, when it is reported. -/
theorem WF.proxyAdded_new (h : c.WF) (path interface : List UInt8)
    (iter : Option Value) :
    ((c.proxyNew path interface).updateProperties c.fresh iter false).proxyAdded c.fresh =
      c.announce (c.newProxy path interface iter) := by
  have hother : ∀ f : Proxy → Proxy,
      (c.proxyList.map fun p => if p.id = c.fresh then f p else p) = c.proxyList := by
    intro f
    refine (List.map_congr_left fun p hp => ?_).trans (List.map_id _)
    rw [if_neg (Nat.ne_of_lt (h.below p hp))]
    rfl
  have hfind : c.proxyList.find? (fun p => decide (p.id = c.fresh)) = none :=
    List.find?_eq_none.mpr fun p hp =>
      decide_eq_true_iff.not.mpr (Nat.ne_of_lt (h.below p hp))
  rw [updateProperties_eq, if_neg Bool.false_ne_true, report_nil, proxyNew, store, modify]
  simp only [List.map_append, List.map_cons, List.map_nil, hother, if_true]
  rw [proxyAdded]
  simp only [List.find?_append, hfind, Option.none_or, List.find?_cons, decide_true, if_true]
  rw [modify, report]
  simp only [List.map_append, List.map_cons, List.map_nil, hother, if_true]
  rfl

/-- An interface is not visible, or there is a proxy for it, which gets the new values without the
application being told, or it gets a proxy. -/
theorem WF.parseProperties_cases (h : c.WF) (path interface : List UInt8)
    (iter : Option Value) :
    (¬ Visible interface ∧ c.parseProperties path interface iter = c) ∨
    (Visible interface ∧ ∃ p, c.gDbusProxyLookup path interface = some p ∧
      c.parseProperties path interface iter =
        c.store p.id fun m => write m (given (properties iter))) ∨
    (Visible interface ∧ c.gDbusProxyLookup path interface = none ∧
      c.parseProperties path interface iter = c.announce (c.newProxy path interface iter)) := by
  rw [parseProperties]
  split_ifs with hintro hprops
  · exact .inl ⟨fun hv => hv.1 hintro, rfl⟩
  · exact .inl ⟨fun hv => hv.2 hprops, rfl⟩
  · cases hlookup : c.gDbusProxyLookup path interface with
    | none => exact .inr (.inr ⟨⟨hintro, hprops⟩, rfl, h.proxyAdded_new path interface iter⟩)
    | some p =>
      refine .inr (.inl ⟨⟨hintro, hprops⟩, p, rfl, ?_⟩)
      show (if p.pending then _ else c.updateProperties p.id iter false) = _
      rw [if_neg (ne_true_of_eq_false (h.settled p (mem_of_lookup hlookup).1)),
        updateProperties_eq, if_neg Bool.false_ne_true, report_nil]

/-- No proxy is pending between two messages, so nothing is asked for once more. -/
theorem refreshProperties_eq (h : c.WF) : c.refreshProperties = c := by
  rw [refreshProperties]
  cases hhead : c.proxyList.head? with
  | none => rfl
  | some p =>
    have hp : p.pending = false := h.settled p (List.mem_of_head? hhead)
    simp only [hp, Bool.false_eq_true, if_false]
    exact List.foldl_fixed _

/-! ### Kept by every message -/

/-- Storing properties keeps the list in order. -/
theorem WF.store (h : c.WF) (id : Nat) : (c.store id f).WF := by
  have hsame : Same c.proxyList (c.store id f).proxyList := same_store f c.proxyList id
  have hold : ∀ q ∈ (c.store id f).proxyList, ∃ p ∈ c.proxyList, q.id = p.id ∧
      q.pending = p.pending := by
    intro q hq
    obtain ⟨p, hp, rfl⟩ := List.mem_map.mp hq
    refine ⟨p, hp, ?_⟩
    split_ifs <;> exact ⟨rfl, rfl⟩
  refine ⟨hsame.ids ▸ h.ids, fun q hq => ?_, hsame.keys ▸ h.keys, fun q hq => ?_⟩
  · obtain ⟨p, hp, hid, -⟩ := hold q hq
    exact hid ▸ h.below p hp
  · obtain ⟨p, hp, -, hpending⟩ := hold q hq
    exact hpending.trans (h.settled p hp)

theorem WF.report (h : c.WF) (cbs : List Callback) : (c.report cbs).WF :=
  ⟨h.ids, h.below, h.keys, h.settled⟩

theorem WF.flags (h : c.WF) (connected getObjectsCall : Bool) :
    WF { c with connected := connected, getObjectsCall := getObjectsCall } :=
  ⟨h.ids, h.below, h.keys, h.settled⟩

/-- The signal keeps the list in order. -/
theorem WF.propertiesChanged (h : c.WF) (args : List Value) (id : Nat) :
    (c.propertiesChanged args id).WF := by
  rw [propertiesChanged_eq]
  exact (h.store id).report _

/-- A removal keeps it in order. -/
theorem WF.proxyRemove (h : c.WF) (path interface : List UInt8) :
    (c.proxyRemove path interface).WF := by
  rw [Client.proxyRemove]
  cases c.gDbusProxyLookup path interface with
  | none => exact h
  | some p =>
    have hsub := List.eraseP_sublist (p := fun q : Proxy =>
      decide (q.interface = interface ∧ q.objPath = path)) (l := c.proxyList)
    exact ⟨h.ids.sublist (hsub.map _), fun q hq => h.below q (hsub.subset hq),
      h.keys.sublist (hsub.map _), fun q hq => h.settled q (hsub.subset hq)⟩

/-- A new proxy keeps it in order, if its key is new. -/
theorem WF.announce (h : c.WF) {p : Proxy} (hid : p.id = c.fresh)
    (hkey : p.key ∉ c.proxyList.map Proxy.key) : (c.announce p).WF where
  ids := by
    rw [Client.announce, Client.report, List.map_append]
    exact h.ids.append (List.nodup_singleton _) (List.disjoint_singleton.mpr (hid ▸ h.fresh_not_mem))
  below := List.forall_mem_append.mpr ⟨fun q hq => Nat.lt_succ_of_lt (h.below q hq),
    List.forall_mem_singleton.mpr (hid ▸ Nat.lt_succ_self _)⟩
  keys := by
    rw [Client.announce, Client.report, List.map_append]
    exact h.keys.append (List.nodup_singleton _) (List.disjoint_singleton.mpr hkey)
  settled := List.forall_mem_append.mpr ⟨h.settled, List.forall_mem_singleton.mpr rfl⟩

end Client

/-! ## What the application is told -/

/-- What an application that goes along with the calls knows of the proxies: `none` if it is told
twice of the same one, or of a change or the removal of one that is not there. -/
def Callback.accept (known : List Proxy) : Callback → Option (List Proxy)
  | .proxyAdded p =>
    if p.id ∈ known.map Proxy.id then none else some (known ++ [{ p with pending := false }])
  | .proxyRemoved id =>
    if id ∈ known.map Proxy.id then some (known.filter fun p => p.id ≠ id) else none
  | .propertyChanged id name value =>
    if id ∈ known.map Proxy.id then
      some (known.map fun p =>
        if p.id = id then { p with propList := Function.update p.propList name value } else p)
    else none
  | .connect | .disconnect => some known

/-- An application that has missed changes of properties can still go along. -/
theorem Callback.accept_same {l l' m : List Proxy} (h : Same l l') {cb : Callback}
    (hm : cb.accept l = some m) : ∃ m', cb.accept l' = some m' ∧ Same m m' := by
  cases cb with
  | proxyAdded p =>
    rw [accept, h.ids, Option.ite_none_left_eq_some] at hm
    obtain ⟨hnew, hm⟩ := hm
    obtain rfl := Option.some.inj hm
    refine ⟨_, if_neg hnew, ?_⟩
    rw [Same, List.map_append, List.map_append, h]
  | proxyRemoved id =>
    rw [accept, h.ids, Option.ite_none_right_eq_some] at hm
    obtain ⟨hmem, hm⟩ := hm
    obtain rfl := Option.some.inj hm
    refine ⟨_, if_pos hmem, ?_⟩
    have hfilter : ∀ l : List Proxy, (l.filter fun p => p.id ≠ id).map (fun p => (p.id, p.key)) =
        (l.map fun p => (p.id, p.key)).filter fun e => e.1 ≠ id := fun l => by
      rw [List.filter_map]
      rfl
    rw [Same, hfilter, hfilter, h]
  | propertyChanged id name value =>
    rw [accept, h.ids, Option.ite_none_right_eq_some] at hm
    obtain ⟨hmem, hm⟩ := hm
    obtain rfl := Option.some.inj hm
    refine ⟨_, if_pos hmem, ?_⟩
    exact (same_store (Function.update · name value) l id).symm.trans
      (h.trans (same_store (Function.update · name value) l' id))
  | connect | disconnect =>
    obtain rfl := Option.some.inj hm
    exact ⟨l', rfl, h⟩

/-- The application accepts the same calls, whatever the properties are. -/
theorem Callback.accept_all_same {cbs : List Callback} {l l' m : List Proxy} (h : Same l l')
    (hm : cbs.foldlM accept l = some m) : ∃ m', cbs.foldlM accept l' = some m' ∧ Same m m' := by
  induction cbs generalizing l l' with
  | nil =>
    obtain rfl := Option.some.inj hm
    exact ⟨l', rfl, h⟩
  | cons cb cbs ih =>
    rw [List.foldlM_cons] at hm
    obtain ⟨l₁, hl₁, hm⟩ := Option.bind_eq_some_iff.mp hm
    obtain ⟨l₁', hl₁', hsame⟩ := accept_same h hl₁
    obtain ⟨m', hm', hsame'⟩ := ih hsame hm
    refine ⟨m', ?_, hsame'⟩
    rw [List.foldlM_cons, hl₁']
    exact hm'

/-- The calls tell of the changes of one proxy. -/
theorem Callback.accept_changeCalls {l : List Proxy} {id : Nat} (h : id ∈ l.map Proxy.id)
    (cs : List (List UInt8 × Option Value)) :
    (changeCalls id cs).foldlM accept l =
      some (l.map fun p => if p.id = id then { p with propList := write p.propList cs } else p) := by
  induction cs generalizing l with
  | nil =>
    have hsame : (l.map fun p => if p.id = id then { p with propList := write p.propList [] }
        else p) = l :=
      (List.map_congr_left fun p _ => ite_self p).trans (List.map_id l)
    rw [hsame]
    rfl
  | cons e cs ih =>
    have hsame := same_store (Function.update · e.1 e.2) l id
    rw [changeCalls, List.map_cons, List.foldlM_cons, accept, if_pos h]
    show (changeCalls id cs).foldlM accept _ = _
    rw [ih (hsame.ids ▸ h)]
    exact congrArg some (map_store (Function.update · e.1 e.2) (write · cs) l id)

/-- The calls tell that all proxies go, one after the other. -/
theorem Callback.accept_removed {l : List Proxy} (h : (l.map Proxy.id).Nodup) :
    (l.map fun p => proxyRemoved p.id).foldlM accept l = some [] := by
  induction l with
  | nil => rfl
  | cons p l ih =>
    obtain ⟨hp, hl⟩ := List.nodup_cons.mp h
    have hrest : (p :: l).filter (fun q => q.id ≠ p.id) = l := by
      rw [List.filter_cons_of_neg (by simp)]
      exact List.filter_eq_self.mpr fun q hq => decide_eq_true fun heq =>
        hp (heq ▸ List.mem_map_of_mem hq)
    rw [List.map_cons, List.foldlM_cons, accept, if_pos (List.mem_map_of_mem List.mem_cons_self),
      hrest]
    exact ih hl

namespace Client

variable {c d e : Client}

/-- The calls made between two states tell all the difference. -/
def Says (c d : Client) : Prop :=
  ∃ cbs, d.calls = c.calls ++ cbs ∧ cbs.foldlM Callback.accept c.proxyList = some d.proxyList

theorem says_refl (c : Client) : Says c c := ⟨[], (List.append_nil _).symm, rfl⟩

/-- What is said in two steps is said. -/
theorem Says.trans (h : Says c d) (h' : Says d e) : Says c e := by
  obtain ⟨cbs, hcalls, hcbs⟩ := h
  obtain ⟨cbs', hcalls', hcbs'⟩ := h'
  refine ⟨cbs ++ cbs', ?_, ?_⟩
  · rw [hcalls', hcalls, List.append_assoc]
  · rw [List.foldlM_append, hcbs]
    exact hcbs'

/-- A change of properties is told. -/
theorem says_propertiesChanged (args : List Value) {id : Nat}
    (hid : id ∈ c.proxyList.map Proxy.id) : Says c (c.propertiesChanged args id) := by
  rw [propertiesChanged_eq]
  exact ⟨changeCalls id (changes args), rfl, Callback.accept_changeCalls hid _⟩

/-- A new proxy is told. -/
theorem WF.says_announce (h : c.WF) {p : Proxy} (hid : p.id = c.fresh) :
    Says c (c.announce p) := by
  refine ⟨_, rfl, ?_⟩
  rw [List.foldlM_cons, Callback.accept, if_neg (hid ▸ h.fresh_not_mem)]
  rfl

/-- The proxy found by its key is the one with its address. -/
theorem WF.eraseP_lookup (h : c.WF) {path interface : List UInt8} {p : Proxy}
    (hp : c.gDbusProxyLookup path interface = some p) :
    (c.proxyList.eraseP fun q => q.interface = interface ∧ q.objPath = path) =
      c.proxyList.filter fun q => q.id ≠ p.id := by
  obtain ⟨hmem, hkey⟩ := mem_of_lookup hp
  rw [isFor_eq, FirstMatch.eraseP_key h.keys]
  refine List.filter_congr fun q hq => ?_
  rw [decide_eq_decide, ← hkey, not_iff_not]
  constructor
  · intro heq
    rw [List.inj_on_of_nodup_map h.keys hq hmem heq]
  · intro heq
    rw [List.inj_on_of_nodup_map h.ids hq hmem heq]

/-- A removal is told. -/
theorem WF.says_proxyRemove (h : c.WF) (path interface : List UInt8) :
    Says c (c.proxyRemove path interface) := by
  rw [Client.proxyRemove]
  cases hlookup : c.gDbusProxyLookup path interface with
  | none => exact says_refl c
  | some p =>
    refine ⟨[.proxyRemoved p.id], rfl, ?_⟩
    rw [List.foldlM_cons, Callback.accept,
      if_pos (List.mem_map_of_mem (mem_of_lookup hlookup).1)]
    exact congrArg some (h.eraseP_lookup hlookup).symm

/-- With the service, every proxy goes, one by one. -/
theorem WF.says_freeAll (h : c.WF) : Says c c.freeAll :=
  ⟨_, rfl, Callback.accept_removed h.ids⟩

/-- Flags that say nothing of the proxies. -/
theorem says_flags (c : Client) (connected getObjectsCall : Bool) :
    Says c { c with connected := connected, getObjectsCall := getObjectsCall } :=
  ⟨[], (List.append_nil _).symm, rfl⟩

theorem says_connect (c : Client) : Says c (c.report [.connect]) := ⟨[.connect], rfl, rfl⟩

theorem says_disconnect (c : Client) : Says c (c.report [.disconnect]) := ⟨[.disconnect], rfl, rfl⟩

/-! ### Messages of any kind -/

/-- The calls made between two states tell of the difference, but for properties. -/
def Moves (c d : Client) : Prop :=
  d.WF ∧ ∃ cbs, d.calls = c.calls ++ cbs ∧
    ∃ l, cbs.foldlM Callback.accept c.proxyList = some l ∧ Same l d.proxyList

/-- A step that is told and keeps the list in order. -/
theorem Says.moves (h : Says c d) (hd : d.WF) : Moves c d := by
  obtain ⟨cbs, hcalls, hcbs⟩ := h
  exact ⟨hd, cbs, hcalls, d.proxyList, hcbs, rfl⟩

/-- Two such steps are one. -/
theorem Moves.trans (h : Moves c d) (h' : Moves d e) : Moves c e := by
  obtain ⟨-, cbs, hcalls, l, hl, hsame⟩ := h
  obtain ⟨hwf, cbs', hcalls', l', hl', hsame'⟩ := h'
  obtain ⟨m, hm, hsame₂⟩ := Callback.accept_all_same hsame.symm hl'
  refine ⟨hwf, cbs ++ cbs', ?_, m, ?_, hsame₂.symm.trans hsame'⟩
  · rw [hcalls', hcalls, List.append_assoc]
  · rw [List.foldlM_append, hl]
    exact hm

/-- A loop of such steps. -/
theorem Moves.foldl {α : Type} {f : Client → α → Client} (hf : ∀ c a, c.WF → Moves c (f c a))
    (l : List α) {c : Client} (h : c.WF) : Moves c (l.foldl f c) := by
  induction l generalizing c with
  | nil => exact (says_refl c).moves h
  | cons a l ih =>
    have hstep := hf c a h
    exact hstep.trans (ih hstep.1)

/-- An interface, new or known. -/
theorem WF.moves_parseProperties (h : c.WF) (path interface : List UInt8)
    (iter : Option Value) : Moves c (c.parseProperties path interface iter) := by
  obtain ⟨-, heq⟩ | ⟨-, p, -, heq⟩ | ⟨-, hnone, heq⟩ := h.parseProperties_cases path interface iter
  · rw [heq]
    exact (says_refl c).moves h
  · -- the values are stored without a call
    rw [heq]
    exact ⟨h.store _, [], (List.append_nil _).symm, c.proxyList, rfl,
      same_store (write · (given (properties iter))) c.proxyList p.id⟩
  · rw [heq]
    exact (h.says_announce rfl).moves (h.announce rfl (not_mem_of_lookup hnone))

/-- All interfaces of an object. -/
theorem WF.moves_parseInterfaces (h : c.WF) (path : List UInt8)
    (iter : Option Value) : Moves c (c.parseInterfaces path iter) :=
  Moves.foldl (fun _ e hc => hc.moves_parseProperties path e.1 (some e.2)) _ h

theorem WF.freeAll : c.freeAll.WF :=
  ⟨List.nodup_nil, nofun, List.nodup_nil, nofun⟩

theorem ids_propertiesChanged (c : Client) (args : List Value) (id : Nat) :
    (c.propertiesChanged args id).proxyList.map Proxy.id = c.proxyList.map Proxy.id := by
  rw [propertiesChanged_eq]
  exact (same_store (write · (changes args)) c.proxyList id).ids.symm

/-- A signal that reaches several proxies. -/
theorem WF.moves_changes (h : c.WF) (args : List Value) {ids : List Nat}
    (hids : ∀ id ∈ ids, id ∈ c.proxyList.map Proxy.id) :
    Moves c (ids.foldl (fun c id => c.propertiesChanged args id) c) := by
  induction ids generalizing c with
  | nil => exact (says_refl c).moves h
  | cons id ids ih =>
    obtain ⟨hid, hids⟩ := List.forall_mem_cons.mp hids
    have hwf : (c.propertiesChanged args id).WF := h.propertiesChanged args id
    refine ((says_propertiesChanged args hid).moves hwf).trans (ih hwf ?_)
    rw [ids_propertiesChanged]
    exact hids

theorem serviceConnect_eq (c : Client) :
    c.serviceConnect = { c with connected := true, getObjectsCall := true }.report [.connect] := by
  rw [serviceConnect, getManagedObjects]
  cases hcall : c.getObjectsCall with
  | true | false => simp

/-- What `get_managed_objects_reply` does behind the parsing. -/
theorem Moves.replied (h : Moves c d) :
    Moves c { d with getObjectsCall := false }.refreshProperties := by
  have hwf := h.1.flags d.connected false
  rw [refreshProperties_eq hwf]
  exact h.trans ((says_flags d d.connected false).moves hwf)

/-- **One message.** -/
theorem WF.moves_input (h : c.WF) (i : Input) : Moves c (c.input i) := by
  cases i with
  | connect =>
    rw [input, serviceConnect_eq]
    exact ((says_flags c true true).trans (says_connect _)).moves ((h.flags true true).report _)
  | disconnect =>
    have hflags := h.flags false c.getObjectsCall
    exact (((says_flags c false c.getObjectsCall).trans hflags.says_freeAll).trans
      (says_disconnect _)).moves (WF.freeAll.report _)
  | interfacesAdded args =>
    rw [input, interfacesAdded.eq_def]
    split
    · exact h.moves_parseInterfaces _ _
    · exact (says_refl c).moves h
  | interfacesRemoved args =>
    rw [input, interfacesRemoved.eq_def]
    split
    · exact Moves.foldl (fun _ interface hc =>
        (hc.says_proxyRemove _ interface).moves (hc.proxyRemove _ interface)) _ h
    · exact (says_refl c).moves h
  | propertiesChanged path args =>
    rw [input, propertiesSignal.eq_def]
    split
    · exact h.moves_changes _ fun id hid => (List.filter_sublist.map Proxy.id).subset hid
    · exact (says_refl c).moves h
  | managedObjects reply =>
    cases reply with
    | none => exact ((says_refl c).moves h).replied
    | some args =>
      exact Moves.replied (Moves.foldl (fun _ e hc => hc.moves_parseInterfaces e.1 (some e.2)) _ h)

/-- Every sequence of messages is told and keeps the list in order. -/
theorem WF.moves_inputs (h : c.WF) (inputs : List Input) :
    Moves c (inputs.foldl input c) :=
  Moves.foldl (fun _ i hc => hc.moves_input i) inputs h

theorem wf_new : WF {} := ⟨List.nodup_nil, nofun, List.nodup_nil, nofun⟩

end Client

/-- **The calls make sense.** Whatever messages arrive, in whatever order, no two proxies are for
the same interface of an object, an application can go along with the calls and then knows of
exactly the proxies there are; and when the client is given up it is told that they all go. -/
theorem callbacks_accepted (inputs : List Input) :
    ((inputs.foldl Client.input {}).proxyList.map Proxy.key).Nodup ∧
      (∃ known, (inputs.foldl Client.input {}).calls.foldlM Callback.accept [] = some known ∧
        known.map (fun p => (p.id, p.key)) =
          (inputs.foldl Client.input {}).proxyList.map fun p => (p.id, p.key)) ∧
      (inputs.foldl Client.input {}).gDbusClientUnref.calls.foldlM Callback.accept [] = some [] := by
  have hmoves := Client.wf_new.moves_inputs inputs
  have hfree := hmoves.trans (hmoves.1.says_freeAll.moves Client.WF.freeAll)
  refine ⟨hmoves.1.keys, ?_, ?_⟩
  · obtain ⟨-, cbs, hcalls, l, hl, hsame⟩ := hmoves
    rw [hcalls]
    exact ⟨l, hl, hsame⟩
  · have hunref : Client.Moves {} (inputs.foldl Client.input {}).gDbusClientUnref := by
      rw [Client.gDbusClientUnref]
      split_ifs
      · exact hfree.trans ((Client.says_disconnect _).moves (hfree.1.report _))
      · exact hfree
    have hnil : (inputs.foldl Client.input {}).gDbusClientUnref.proxyList = [] := by
      rw [Client.gDbusClientUnref]
      split_ifs <;> rfl
    obtain ⟨-, cbs, hcalls, l, hl, hsame⟩ := hunref
    rw [Same, hnil, List.map_nil, List.map_eq_nil_iff] at hsame
    subst hsame
    rw [hcalls]
    exact hl

end ConnectApp.Gdbus
