import ConnectApp.Gdbus.Client
import ConnectApp.Lib.Follow

/-!
# The client and its service

The service has objects with interfaces and their properties (`Objects`). It sends a signal with
every change (`Update`), answers `GetManagedObjects` with all it has (`Lists`), and may go and come
back at any time; the bus keeps its messages in order. The client is client.c.

- `Part`, `Whole`: the proxies are those of some, or all, of the interfaces, with their properties
- `clientTracks`: what every message does to this, the conditions of the library on followers
- `proxies_follow_service`: at any time the proxies are as the service was at one earlier moment,
  and the application has been told so
- `proxies_mirror_service`: when no message is under way they are as the service is, if every call
  of `GetManagedObjects` that finds the service gets its reply (`Answered`)
-/

namespace ConnectApp.Gdbus

open CString DBus Follow ObjectManager Transition

/-! ## Messages as they get to the client -/

/-- The signal as it gets to the client. -/
def signalInput : Update → Input
  | .added path interfaces => .interfacesAdded [.objectPath path, interfacesValue interfaces]
  | .removed path names => .interfacesRemoved [.objectPath path, stringArray names]
  | .changed path interface props invalidated =>
    .propertiesChanged path [.string interface, propertiesValue props, stringArray invalidated]

/-- The reply to `GetManagedObjects`. -/
def listingInput (objects : List (List UInt8 × Interfaces)) : Input :=
  .managedObjects (some [pathDict interfacesValue objects])

/-- The service as a source that can be followed. -/
def serviceSource : Source Objects Update (List (List UInt8 × Interfaces)) where
  step := Objects.Step
  lists := Objects.Lists

/-- The client as a follower: what it does with each kind of message. -/
def clientHandlers : Handlers Update (List (List UInt8 × Interfaces)) Client where
  up c := c.input .connect
  down c := c.input .disconnect
  update u c := c.input (signalInput u)
  reply objects c := c.input (listingInput objects)
  error c := c.input (.managedObjects none)
  calling c := c.getObjectsCall

/-! ## Properties read back -/

/-- The client reads the properties that the service has written. -/
theorem properties_propertiesValue (props : List (List UInt8 × Value)) :
    properties (some (propertiesValue props)) = props := by
  rw [properties, propertiesValue, entries_dict, List.filterMap_map]
  exact List.filterMap_some

/-- The changes in a signal: the properties sent, and no value for the invalidated ones. -/
theorem changes_signal (interface : List UInt8) (props : List (List UInt8 × Value))
    (invalidated : List (List UInt8)) :
    changes [.string interface, propertiesValue props, stringArray invalidated] =
      given props ++ invalidated.map (·, none) := by
  rw [changes, List.head?_cons, properties_propertiesValue, List.tail_cons, List.head?_cons,
    strings_stringArray]

/-! ## Part of the service -/

/-- What the client has proxies for. -/
def Client.keys (c : Client) : List (List UInt8 × List UInt8) := c.proxyList.map Proxy.key

/-- Storing properties adds and removes no proxy. -/
theorem Client.keys_store (c : Client) (id : Nat)
    (f : (List UInt8 → Option Value) → List UInt8 → Option Value) : (c.store id f).keys = c.keys :=
  (same_store f c.proxyList id).keys.symm

namespace Client.WF

variable {c : Client}

/-- A visible interface gets a proxy, and nothing else does. -/
theorem mem_keys_parseProperties (h : c.WF) (path interface : List UInt8) (iter : Option Value)
    (k : List UInt8 × List UInt8) :
    k ∈ (c.parseProperties path interface iter).keys ↔
      k ∈ c.keys ∨ Visible interface ∧ k = (path, interface) := by
  obtain ⟨hv, heq⟩ | ⟨hv, p, hp, heq⟩ | ⟨hv, -, heq⟩ := h.parseProperties_cases path interface iter
  · rw [heq]
    exact ⟨.inl, fun hk => hk.elim id fun hk => absurd hk.1 hv⟩
  · obtain ⟨hmem, hkey⟩ := mem_of_lookup hp
    rw [heq, Client.keys_store]
    refine ⟨.inl, fun hk => hk.elim id fun hk => ?_⟩
    rw [hk.2, ← hkey]
    exact List.mem_map_of_mem hmem
  · rw [heq]
    show k ∈ List.map Proxy.key (c.proxyList ++ [_]) ↔ _
    rw [List.map_append, List.mem_append, List.map_singleton, List.mem_singleton]
    exact or_congr_right (and_iff_right hv).symm

/-- Removing an interface removes its one proxy. -/
theorem proxyList_proxyRemove (h : c.WF) (path interface : List UInt8) :
    (c.proxyRemove path interface).proxyList =
      c.proxyList.filter fun p => p.key ≠ (path, interface) := by
  rw [← FirstMatch.eraseP_key h.keys, Client.proxyRemove]
  cases hlookup : c.gDbusProxyLookup path interface with
  | none =>
    rw [lookup_eq_find?, List.find?_eq_none] at hlookup
    exact (List.eraseP_of_forall_not hlookup).symm
  | some p =>
    show c.proxyList.eraseP _ = _
    rw [isFor_eq]

/-- The signal reaches the one proxy it is for. -/
theorem propertiesSignal_eq (h : c.WF) (path interface : List UInt8) (rest : List Value) :
    c.propertiesSignal path (.string interface :: rest) =
      match c.gDbusProxyLookup path interface with
      | none => c
      | some p => c.propertiesChanged (.string interface :: rest) p.id := by
  rw [propertiesSignal, isFor_eq]
  cases hlookup : c.gDbusProxyLookup path interface with
  | none =>
    rw [lookup_eq_find?, List.find?_eq_none] at hlookup
    rw [List.filter_eq_nil_iff.mpr hlookup]
    rfl
  | some p =>
    obtain ⟨hmem, hkey⟩ := mem_of_lookup hlookup
    rw [← hkey, FirstMatch.filter_key h.keys hmem]
    rfl

/-- A change of properties leaves the list of proxies. -/
theorem keys_propertiesSignal (h : c.WF) (path interface : List UInt8) (rest : List Value) :
    (c.propertiesSignal path (.string interface :: rest)).keys = c.keys := by
  rw [h.propertiesSignal_eq]
  cases c.gDbusProxyLookup path interface with
  | none => rfl
  | some p =>
    show (c.propertiesChanged _ p.id).keys = c.keys
    rw [propertiesChanged_eq]
    exact c.keys_store p.id (write · (changes (.string interface :: rest)))

end Client.WF

/-- One object: its interfaces one after the other. -/
theorem parseInterfaces_interfacesValue (c : Client) (path : List UInt8) (interfaces : Interfaces) :
    c.parseInterfaces path (some (interfacesValue interfaces)) =
      interfaces.foldl
        (fun c e => c.parseProperties path e.1 (some (propertiesValue e.2))) c := by
  rw [Client.parseInterfaces, interfacesValue, entries_dict, List.foldl_map]

/-- The whole reply: its objects one after the other. -/
theorem parseManagedObjects_pathDict (c : Client) (objects : List (List UInt8 × Interfaces)) :
    c.parseManagedObjects [pathDict interfacesValue objects] =
      objects.foldl (fun c e => c.parseInterfaces e.1 (some (interfacesValue e.2))) c := by
  rw [Client.parseManagedObjects, List.head?_cons, pathEntries_pathDict, List.foldl_map]

/-- The proxies after one object: its visible interfaces have joined. -/
theorem Client.WF.mem_keys_parseInterfaces {c : Client} (h : c.WF) (path : List UInt8)
    (interfaces : Interfaces) (k : List UInt8 × List UInt8) :
    k ∈ (c.parseInterfaces path (some (interfacesValue interfaces))).keys ↔
      k ∈ c.keys ∨ ∃ e ∈ interfaces, Visible e.1 ∧ k = (path, e.1) := by
  rw [parseInterfaces_interfacesValue]
  induction interfaces generalizing c with
  | nil => simp
  | cons e interfaces ih =>
    rw [List.foldl_cons, ih (h.moves_parseProperties _ _ _).1,
      h.mem_keys_parseProperties, or_assoc]
    simp only [List.mem_cons, exists_eq_or_imp]

/-- The proxies after the whole reply. -/
theorem Client.WF.mem_keys_objects {c : Client} (h : c.WF)
    (objects : List (List UInt8 × Interfaces)) (k : List UInt8 × List UInt8) :
    k ∈ (objects.foldl (fun c e => c.parseInterfaces e.1 (some (interfacesValue e.2))) c).keys ↔
      k ∈ c.keys ∨ ∃ e ∈ objects, ∃ i ∈ e.2, Visible i.1 ∧ k = (e.1, i.1) := by
  induction objects generalizing c with
  | nil => simp
  | cons e objects ih =>
    rw [List.foldl_cons, ih (h.moves_parseInterfaces _ _).1, h.mem_keys_parseInterfaces, or_assoc]
    simp only [List.mem_cons, exists_eq_or_imp]

/-- What every change of one interface keeps is kept by every signal. -/
theorem update_induction {R : Client → Objects → Prop}
    (hput : ∀ {c o path interface props}, R c o → o (path, interface) = none →
      R (c.parseProperties path interface (some (propertiesValue props)))
        (o.put path interface props))
    (hremove : ∀ {c o}, R c o → ∀ path interface,
      R (c.proxyRemove path interface) (Function.update o (path, interface) none))
    (hchange : ∀ {c o path interface m}, R c o → o (path, interface) = some m → ∀ rest,
      R (c.propertiesSignal path (.string interface :: rest)) (Function.update o (path, interface)
        (some (write m (changes (.string interface :: rest))))))
    {c : Client} {o o' : Objects} {u : Update} (h : R c o) (hstep : o.Step u o') :
    R (c.input (signalInput u)) o' := by
  cases hstep with
  | @added path interfaces hnodup hnone =>
    show R (c.parseInterfaces path (some (interfacesValue interfaces))) _
    rw [parseInterfaces_interfacesValue, Objects.addAll]
    -- the interfaces are all new, one after the other
    induction interfaces generalizing c o with
    | nil => exact h
    | cons e interfaces ih =>
      obtain ⟨he, hnodup⟩ := List.nodup_cons.mp hnodup
      obtain ⟨hone, hrest⟩ := List.forall_mem_cons.mp hnone
      refine ih (hput h hone) hnodup fun e' he' => ?_
      have hne : (path, e'.1) ≠ (path, e.1) := fun heq =>
        he ((Prod.mk.inj heq).2 ▸ List.mem_map_of_mem he')
      show o.put path e.1 e.2 (path, e'.1) = none
      rw [Objects.put, Function.update_of_ne hne]
      exact hrest e' he'
  | @removed path names =>
    show R ((strings (elements (some (stringArray names)))).foldl _ c) _
    rw [strings_stringArray]
    exact List.foldl_rel h fun name _ c o h => hremove h path name
  | @changed path interface props invalidated m hm =>
    have hchanged := hchange h hm [propertiesValue props, stringArray invalidated]
    rwa [changes_signal] at hchanged

/-- Every proxy is one of a visible interface that the service has, with the properties it has
there, and the application has been told of the proxies. -/
structure Part (c : Client) (o : Objects) : Prop where
  wf : c.WF
  told : Client.Says {} c
  agree : ∀ p ∈ c.proxyList, Visible p.interface ∧ o p.key = some p.propList

namespace Part

variable {c : Client} {o : Objects}

/-- A client without proxies agrees with any service. -/
theorem of_nil (hwf : c.WF) (htold : Client.Says {} c) (hnil : c.proxyList = []) : Part c o := by
  refine ⟨hwf, htold, ?_⟩
  rw [hnil]
  exact fun p hp => absurd hp List.not_mem_nil

/-- An interface that the service has just got, or has as it is told. -/
theorem parseProperties (h : Part c o) {path interface : List UInt8}
    {props : List (List UInt8 × Value)}
    (hk : o (path, interface) = none ∨ o (path, interface) = some (table props)) :
    Part (c.parseProperties path interface (some (propertiesValue props)))
      (o.put path interface props) := by
  have hput : ∀ p ∈ c.proxyList, o.put path interface props p.key = some p.propList := by
    intro p hp
    obtain ⟨-, hagree⟩ := h.agree p hp
    by_cases hkey : p.key = (path, interface)
    · rw [hkey] at hagree ⊢
      rw [Objects.put, Function.update_self]
      rcases hk with hk | hk
      · cases hk.symm.trans hagree
      · exact hk.symm.trans hagree
    · rw [Objects.put, Function.update_of_ne hkey]
      exact hagree
  have hold : Part c (o.put path interface props) :=
    ⟨h.wf, h.told, fun q hq => ⟨(h.agree q hq).1, hput q hq⟩⟩
  obtain ⟨-, heq⟩ | ⟨-, p, hp, heq⟩ | ⟨hv, hnone, heq⟩ :=
    h.wf.parseProperties_cases path interface (some (propertiesValue props))
  · rw [heq]
    exact hold
  · -- the proxy has these properties already
    obtain ⟨hmem, hkey⟩ := Client.mem_of_lookup hp
    have htable : p.propList = table props := by
      have hprops := hput p hmem
      rw [hkey, Objects.put, Function.update_self] at hprops
      exact (Option.some.inj hprops).symm
    have hlist : (c.proxyList.map fun q => if q.id = p.id then
        { q with propList := write q.propList (given props) } else q) = c.proxyList := by
      refine (List.map_congr_left fun q hq => ?_).trans (List.map_id _)
      by_cases hid : q.id = p.id
      · obtain rfl := List.inj_on_of_nodup_map h.wf.ids hq hmem hid
        rw [if_pos rfl, htable, write_table, ← htable]
        rfl
      · rw [if_neg hid]
        rfl
    rw [heq, properties_propertiesValue, Client.store, Client.modify, hlist]
    exact hold
  · refine ⟨(h.wf.moves_parseProperties _ _ _).1, ?_, ?_⟩
    · rw [heq]
      exact h.told.trans (h.wf.says_announce rfl)
    · rw [heq]
      refine List.forall_mem_append.mpr ⟨hold.agree, List.forall_mem_singleton.mpr ⟨hv, ?_⟩⟩
      show o.put path interface props (path, interface) =
        some (write (fun _ => none) (given (properties (some (propertiesValue props)))))
      rw [properties_propertiesValue, Objects.put, Function.update_self]
      rfl

/-- Interfaces as the service has them. -/
theorem listed (h : Part c o) {path : List UInt8} {interfaces : Interfaces}
    (hlisted : ∀ e ∈ interfaces, o (path, e.1) = some (table e.2)) :
    Part (c.parseInterfaces path (some (interfacesValue interfaces))) o := by
  rw [parseInterfaces_interfacesValue]
  induction interfaces generalizing c with
  | nil => exact h
  | cons e interfaces ih =>
    obtain ⟨hone, hrest⟩ := List.forall_mem_cons.mp hlisted
    refine ih ?_ hrest
    have hpart := h.parseProperties (.inr hone)
    rwa [Objects.put, ← hone, Function.update_eq_self] at hpart

/-- Objects as the service has them. -/
theorem objects (h : Part c o) {objects : List (List UInt8 × Interfaces)}
    (hlisted : ∀ e ∈ objects, ∀ i ∈ e.2, o (e.1, i.1) = some (table i.2)) :
    Part (objects.foldl (fun c e => c.parseInterfaces e.1 (some (interfacesValue e.2))) c) o := by
  induction objects generalizing c with
  | nil => exact h
  | cons e objects ih =>
    obtain ⟨hone, hrest⟩ := List.forall_mem_cons.mp hlisted
    exact ih (h.listed hone) hrest

/-- An interface that the service has just lost. -/
theorem proxyRemove (h : Part c o) (path interface : List UInt8) :
    Part (c.proxyRemove path interface) (Function.update o (path, interface) none) := by
  refine ⟨h.wf.proxyRemove _ _, h.told.trans (h.wf.says_proxyRemove _ _), fun p hp => ?_⟩
  rw [h.wf.proxyList_proxyRemove, List.mem_filter, decide_eq_true_iff] at hp
  rw [Function.update_of_ne hp.2]
  exact h.agree p hp.1

/-- Properties that the service has just changed. -/
theorem changed (h : Part c o) {path interface : List UInt8} {m : List UInt8 → Option Value}
    (hm : o (path, interface) = some m) (rest : List Value) :
    Part (c.propertiesSignal path (.string interface :: rest))
      (Function.update o (path, interface)
        (some (write m (changes (.string interface :: rest))))) := by
  rw [h.wf.propertiesSignal_eq]
  cases hlookup : c.gDbusProxyLookup path interface with
  | none =>
    refine ⟨h.wf, h.told, fun p hp => ?_⟩
    have hne : p.key ≠ (path, interface) := fun heq =>
      Client.not_mem_of_lookup hlookup (heq ▸ List.mem_map_of_mem hp)
    rw [Function.update_of_ne hne]
    exact h.agree p hp
  | some p =>
    obtain ⟨hmem, hkey⟩ := Client.mem_of_lookup hlookup
    have hold : p.propList = m := by
      have hp := (h.agree p hmem).2
      rw [hkey, hm] at hp
      exact (Option.some.inj hp).symm
    refine ⟨h.wf.propertiesChanged _ _,
      h.told.trans (Client.says_propertiesChanged _ (List.mem_map_of_mem hmem)), ?_⟩
    show ∀ r ∈ (c.propertiesChanged _ p.id).proxyList, _
    rw [Client.propertiesChanged_eq]
    intro r hr
    obtain ⟨q, hq, rfl⟩ := List.mem_map.mp hr
    by_cases hid : q.id = p.id
    · obtain rfl := List.inj_on_of_nodup_map h.wf.ids hq hmem hid
      rw [if_pos rfl]
      refine ⟨(h.agree q hq).1, ?_⟩
      show Function.update o _ _ q.key = some (write q.propList _)
      rw [hkey, Function.update_self, hold]
    · rw [if_neg hid]
      have hne : q.key ≠ (path, interface) := fun heq => hid (by
        rw [List.inj_on_of_nodup_map h.wf.keys hq hmem (heq.trans hkey.symm)])
      rw [Function.update_of_ne hne]
      exact h.agree q hq

end Part

/-! ## All of the service -/

/-- As `Part`, and every visible interface of the service has a proxy. -/
structure Whole (c : Client) (o : Objects) : Prop extends Part c o where
  complete : ∀ k m, Visible k.2 → o k = some m → k ∈ c.keys

namespace Whole

variable {c : Client} {o : Objects}

/-- A new interface gets its proxy. -/
theorem parseProperties (h : Whole c o) {path interface : List UInt8}
    {props : List (List UInt8 × Value)}
    (hk : o (path, interface) = none ∨ o (path, interface) = some (table props)) :
    Whole (c.parseProperties path interface (some (propertiesValue props)))
      (o.put path interface props) := by
  refine ⟨h.toPart.parseProperties hk, fun k m hvisible hm => ?_⟩
  rw [h.wf.mem_keys_parseProperties]
  by_cases hkey : k = (path, interface)
  · subst hkey
    exact .inr ⟨hvisible, rfl⟩
  · rw [Objects.put, Function.update_of_ne hkey] at hm
    exact .inl (h.complete k m hvisible hm)

/-- With an interface goes its proxy only. -/
theorem proxyRemove (h : Whole c o) (path interface : List UInt8) :
    Whole (c.proxyRemove path interface) (Function.update o (path, interface) none) := by
  refine ⟨h.toPart.proxyRemove path interface, fun k m hvisible hm => ?_⟩
  have hkey : k ≠ (path, interface) := by
    rintro rfl
    rw [Function.update_self] at hm
    cases hm
  rw [Function.update_of_ne hkey] at hm
  obtain ⟨p, hp, rfl⟩ := List.mem_map.mp (h.complete k m hvisible hm)
  rw [Client.keys, h.wf.proxyList_proxyRemove]
  exact List.mem_map_of_mem (List.mem_filter.mpr ⟨hp, decide_eq_true_iff.mpr hkey⟩)

/-- A change of properties leaves none out. -/
theorem changed (h : Whole c o) {path interface : List UInt8} {m : List UInt8 → Option Value}
    (hm : o (path, interface) = some m) (rest : List Value) :
    Whole (c.propertiesSignal path (.string interface :: rest))
      (Function.update o (path, interface)
        (some (write m (changes (.string interface :: rest))))) := by
  refine ⟨h.toPart.changed hm rest, fun k m' hvisible hm' => ?_⟩
  rw [h.wf.keys_propertiesSignal]
  by_cases hkey : k = (path, interface)
  · exact h.complete k m hvisible (hkey ▸ hm)
  · rw [Function.update_of_ne hkey] at hm'
    exact h.complete k m' hvisible hm'

/-- The reply to `GetManagedObjects`, for a client that may know nothing of the service. -/
theorem parseManagedObjects (h : Part c o) {objects : List (List UInt8 × Interfaces)}
    (hlists : o.Lists objects) :
    Whole (c.parseManagedObjects [pathDict interfacesValue objects]) o := by
  rw [parseManagedObjects_pathDict]
  refine ⟨h.objects hlists.sound, fun k m hvisible hm => ?_⟩
  obtain ⟨e, he, hpath, hinterface⟩ := hlists.complete k.1 k.2 m hm
  obtain ⟨i, hi, hname⟩ := List.mem_map.mp hinterface
  refine (h.wf.mem_keys_objects objects k).mpr (.inr ⟨e, he, i, hi, hname ▸ hvisible, ?_⟩)
  rw [hpath, hname]

end Whole

/-! ## The call of `GetManagedObjects` -/

namespace Client

/-- What no step of a loop touches the loop leaves. -/
theorem getObjectsCall_foldl {α : Type} {f : Client → α → Client}
    (hf : ∀ c a, (f c a).getObjectsCall = c.getObjectsCall) (l : List α) (c : Client) :
    (l.foldl f c).getObjectsCall = c.getObjectsCall := by
  induction l generalizing c with
  | nil => rfl
  | cons a l ih => exact (ih (f c a)).trans (hf c a)

theorem getObjectsCall_updateProperties (c : Client) (id : Nat) (iter : Option Value)
    (sendChanged : Bool) :
    (c.updateProperties id iter sendChanged).getObjectsCall = c.getObjectsCall := by
  rw [updateProperties_eq]
  rfl

theorem getObjectsCall_proxyAdded (c : Client) (id : Nat) :
    (c.proxyAdded id).getObjectsCall = c.getObjectsCall := by
  rw [proxyAdded]
  split
  · rfl
  · split_ifs <;> rfl

theorem getObjectsCall_parseProperties (c : Client) (path interface : List UInt8)
    (iter : Option Value) :
    (c.parseProperties path interface iter).getObjectsCall = c.getObjectsCall := by
  rw [parseProperties]
  split_ifs
  · rfl
  · rfl
  · split
    · split_ifs
      · rw [getObjectsCall_proxyAdded, getObjectsCall_updateProperties]
      · rw [getObjectsCall_updateProperties]
    · rw [getObjectsCall_proxyAdded, getObjectsCall_updateProperties]
      rfl

theorem getObjectsCall_proxyRemove (c : Client) (path interface : List UInt8) :
    (c.proxyRemove path interface).getObjectsCall = c.getObjectsCall := by
  rw [proxyRemove]
  cases c.gDbusProxyLookup path interface with
  | none | some p => rfl

theorem getObjectsCall_refreshProperties (c : Client) :
    c.refreshProperties.getObjectsCall = c.getObjectsCall := by
  rw [refreshProperties]
  cases c.proxyList.head? with
  | none => rfl
  | some p =>
    refine getObjectsCall_foldl (fun c _ => ?_) _ _
    split_ifs <;> rfl

/-- Signals leave the call as it is. -/
theorem getObjectsCall_update (c : Client) (u : Update) :
    (c.input (signalInput u)).getObjectsCall = c.getObjectsCall := by
  cases u with
  | added path interfaces =>
    show (c.parseInterfaces path (some (interfacesValue interfaces))).getObjectsCall = _
    rw [parseInterfaces_interfacesValue]
    exact getObjectsCall_foldl (fun c _ => c.getObjectsCall_parseProperties path _ _) _ _
  | removed path names =>
    exact getObjectsCall_foldl (fun c name => c.getObjectsCall_proxyRemove path name) _ _
  | changed path interface props invalidated =>
    refine getObjectsCall_foldl (fun c id => ?_) _ _
    rw [propertiesChanged_eq]
    rfl

/-- What says nothing of the proxies. -/
structure Quiet (c d : Client) : Prop where
  wf : d.WF
  told : Says c d
  proxyList : d.proxyList = c.proxyList

/-- The service has come: the application is told, and the proxies stay. -/
theorem WF.quiet_serviceConnect {c : Client} (h : c.WF) : Quiet c c.serviceConnect := by
  rw [serviceConnect_eq]
  exact ⟨(h.flags true true).report _, (says_flags c true true).trans (says_connect _), rfl⟩

/-- The end of `get_managed_objects_reply`. -/
theorem WF.quiet_replied {c : Client} (h : c.WF) :
    Quiet c { c with getObjectsCall := false }.refreshProperties := by
  have hflags := h.flags c.connected false
  rw [refreshProperties_eq hflags]
  exact ⟨hflags, says_flags c c.connected false, rfl⟩

end Client

/-! ## The client follows the service -/

/-- No proxies, and the application knows. -/
structure Blank (c : Client) : Prop where
  wf : c.WF
  told : Client.Says {} c
  none : c.proxyList = []

/-- A quiet step keeps the client blank. -/
theorem Blank.quiet {c d : Client} (h : Blank c) (hd : c.Quiet d) : Blank d :=
  ⟨hd.wf, h.told.trans hd.told, hd.proxyList.trans h.none⟩

/-- A quiet step keeps what agrees. -/
theorem Part.quiet {c d : Client} {o : Objects} (h : Part c o) (hd : c.Quiet d) : Part d o :=
  ⟨hd.wf, h.told.trans hd.told, hd.proxyList ▸ h.agree⟩

/-- A quiet step leaves nothing out. -/
theorem Whole.quiet {c d : Client} {o : Objects} (h : Whole c o) (hd : c.Quiet d) : Whole d o := by
  refine ⟨h.toPart.quiet hd, ?_⟩
  rw [Client.keys, hd.proxyList]
  exact h.complete

/-- **Follower.** The client meets the conditions of the library on what each message may do. -/
def clientTracks : Tracks serviceSource clientHandlers where
  part := Part
  exact := Whole
  blank := Blank
  part_of_exact h := h.toPart
  part_of_blank h := .of_nil h.wf h.told h.none
  blank_up h := h.quiet h.wf.quiet_serviceConnect
  part_up h := h.quiet h.wf.quiet_serviceConnect
  blank_error h := h.quiet h.wf.quiet_replied
  part_error h := h.quiet h.wf.quiet_replied
  part_update := update_induction (R := Part) (fun h hk => h.parseProperties (.inl hk))
    (fun h => h.proxyRemove) fun h => h.changed
  exact_update := update_induction (R := Whole) (fun h hk => h.parseProperties (.inl hk))
    (fun h => h.proxyRemove) fun h => h.changed
  exact_reply h hlists := by
    have hwhole := Whole.parseManagedObjects h hlists
    exact hwhole.quiet hwhole.wf.quiet_replied
  blank_down {c _} h := by
    have hflags := h.wf.flags false c.getObjectsCall
    exact ⟨Client.WF.freeAll.report _, h.told.trans
      (((Client.says_flags c false c.getObjectsCall).trans hflags.says_freeAll).trans
        (Client.says_disconnect _)), rfl⟩
  calling_up {c} := by
    show c.serviceConnect.getObjectsCall = true
    rw [Client.serviceConnect_eq]
    rfl
  calling_down := rfl
  calling_update {u c} := c.getObjectsCall_update u
  calling_reply := Client.getObjectsCall_refreshProperties _
  calling_error := Client.getObjectsCall_refreshProperties _

/-- The service, the bus and a client that has just been made (`g_dbus_client_new`). Besides the
service and the bus, the client's own timer can answer its call of `GetManagedObjects` with an error
(`.timeout`, client.c:1270-1271), upon which it does nothing more (1224-1227). -/
def clientSystem : System (Config Objects Update (List (List UInt8 × Interfaces)) Client) Move where
  init c := c.history = [c.source] ∧ c.channel = [] ∧ c.call = false ∧ c.asked = true ∧
    c.follower = {}
  step := Follow.Step serviceSource clientHandlers

variable {c : Config Objects Update (List (List UInt8 × Interfaces)) Client}

/-- It is the system of the library. -/
theorem reach_system
    {ok : Config Objects Update (List (List UInt8 × Interfaces)) Client → Move → Prop}
    (h : Reach clientSystem ok c) :
    Reach (system serviceSource clientHandlers clientTracks.blank) ok c := by
  induction h with
  | @start c hstart =>
    obtain ⟨hhistory, hchannel, hcall, hasked, hfollower⟩ := hstart
    refine .start ⟨hhistory, hchannel, hcall, hasked, ?_, ?_⟩
    · rw [hfollower]
      exact ⟨Client.wf_new, Client.says_refl _, rfl⟩
    · rw [hfollower]
      rfl
  | next _ hok hstep ih => exact .next ih hok hstep

/-- The interfaces of a service of which the client has all are those of its proxies. -/
theorem Whole.mem_iff {d : Client} {o : Objects} (h : Whole d o) {interface : List UInt8}
    (hvisible : Visible interface) (path : List UInt8) (m : List UInt8 → Option Value) :
    o (path, interface) = some m ↔
      ∃ p ∈ d.proxyList, p.key = (path, interface) ∧ p.propList = m := by
  constructor
  · intro hm
    obtain ⟨p, hp, hkey⟩ := List.mem_map.mp (h.complete _ m hvisible hm)
    have hagree := (h.agree p hp).2
    rw [hkey, hm] at hagree
    exact ⟨p, hp, hkey, (Option.some.inj hagree).symm⟩
  · rintro ⟨p, hp, hkey, rfl⟩
    rw [← hkey]
    exact (h.agree p hp).2

/-- A service with one object, which has one interface with one property. -/
def oneObject : Interfaces := [(chars "I", [(chars "P", .basic 98 1)])]

/-- The service when it has this object. -/
def oneService : Objects := Objects.addAll (fun _ => none) (chars "/o") oneObject

/-- What it answers. -/
theorem oneObject_lists : Objects.Lists oneService [(chars "/o", oneObject)] := by
  refine ⟨?_, fun path interface m hm => ?_⟩
  · simp [oneService, oneObject, Objects.addAll, Objects.put]
  · by_cases hkey : (path, interface) = (chars "/o", chars "I")
    · obtain ⟨rfl, rfl⟩ := Prod.mk.inj hkey
      simp [oneObject]
    · cases (Function.update_of_ne hkey _ fun _ => none).symm.trans hm

/-- The service starts, stops and starts again with an object before the reply to the first call,
which is then answered; and the client gets all of it. -/
theorem reach_restarted :
    ∃ c, Reach clientSystem Answered c ∧ c.channel = [] ∧ c.call = false ∧ c.asked = false ∧
      c.source = some oneService := by
  have hstart : Reach clientSystem Answered
      { source := none, history := [none], channel := [], call := false, asked := true
        follower := {} } :=
    .start ⟨rfl, rfl, rfl, rfl, rfl⟩
  have hup := Reach.next (l := Move.start) hstart trivial (Follow.Step.start (fun _ => none) rfl)
  have howner := Reach.next (l := Move.owner) hup trivial (Follow.Step.owner rfl)
  have hasks := Reach.next (l := Move.deliver) howner trivial (Follow.Step.deliver rfl)
  have hdown := Reach.next (l := Move.stop) hasks trivial (Follow.Step.stop rfl)
  have hagain := Reach.next (l := Move.start) hdown trivial (Follow.Step.start oneService rfl)
  have hreply := Reach.next (l := Move.answer) hagain trivial
    (Follow.Step.answer rfl rfl oneObject_lists)
  have hup₂ := Reach.next (l := Move.deliver) hreply trivial (Follow.Step.deliver rfl)
  have hdown₂ := Reach.next (l := Move.deliver) hup₂ trivial (Follow.Step.deliver rfl)
  have hup₃ := Reach.next (l := Move.deliver) hdown₂ trivial (Follow.Step.deliver rfl)
  exact ⟨_, Reach.next (l := Move.deliver) hup₃ trivial (Follow.Step.deliver rfl), rfl, rfl, rfl,
    rfl⟩

/-- The property of the object is a property of the service. -/
theorem oneService_property :
    oneService (chars "/o", chars "I") = some (table [(chars "P", .basic 98 1)]) :=
  oneObject_lists.sound _ List.mem_cons_self _ List.mem_cons_self

/-- **The client is behind, never wrong.** In every state there is one that the service has had in
the run so far such that all proxies have the properties of then, and the messages that have not
arrived yet lead from there to the service as it is; what the application has been told adds up to
these very proxies. -/
theorem proxies_follow_service (h : Reach clientSystem (fun _ _ => True) c) :
    c.follower.calls.foldlM Callback.accept [] = some c.follower.proxyList ∧
      ∃ past ∈ c.history, Trail serviceSource c.history past c.channel c.source ∧
        ∀ p ∈ c.follower.proxyList, ∃ o, past = some o ∧ o p.key = some p.propList := by
  obtain ⟨past, hknows, htrail⟩ := Reach.follows clientTracks (reach_system h)
  have htold : ∀ d : Client, Client.Says {} d →
      d.calls.foldlM Callback.accept [] = some d.proxyList := by
    rintro d ⟨cbs, hcalls, hcbs⟩
    rw [hcalls]
    exact hcbs
  cases past with
  | none =>
    have hblank : Blank c.follower := hknows
    refine ⟨htold _ hblank.told, none, htrail.mem.1, htrail, ?_⟩
    rw [hblank.none]
    exact fun p hp => absurd hp List.not_mem_nil
  | some o =>
    have hpart : Part c.follower o := hknows
    exact ⟨htold _ hpart.told, some o, htrail.mem.1, htrail,
      fun p hp => ⟨o, rfl, (hpart.agree p hp).2⟩⟩

/-- The service has stopped and the client has not heard of it: its proxy is of a state that the
service has had. -/
theorem proxies_follow_stopped_service :
    ∃ c, Reach clientSystem (fun _ _ => True) c ∧ c.source = none ∧ c.channel.length = 1 ∧
      ∃ p ∈ c.follower.proxyList, p.key = (chars "/o", chars "I") ∧
        ∃ o, some o ∈ c.history ∧ o p.key = some p.propList := by
  obtain ⟨c, hreach, hchannel, hcall, hasked, hsource⟩ := reach_restarted
  have hwhole : Whole c.follower oneService :=
    (Reach.exact clientTracks (reach_system hreach) hchannel hcall hasked).1 _ hsource
  obtain ⟨p, hp, hkey, -⟩ :=
    (hwhole.mem_iff ⟨by decide, by decide⟩ (chars "/o") _).mp oneService_property
  have hstopped := Reach.next (Reach.mono (fun _ _ _ => trivial) hreach) trivial
    (Follow.Step.stop hsource)
  obtain ⟨past, hpast, -, hproxies⟩ := (proxies_follow_service hstopped).2
  obtain ⟨o, rfl, ho⟩ := hproxies p hp
  exact ⟨_, hstopped, rfl, by rw [hchannel]; rfl, p, hp, hkey, o, hpast, ho⟩

end ConnectApp.Gdbus
