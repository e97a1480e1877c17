import ConnectApp.Bluez.LateReply
import ConnectApp.Gdbus.Client

/-!
# The events come from the D-Bus client (a2dp_masterctrl.c:1060-1099, 1191-1295)

`busSystem` is about events in which an object is added before it is changed or removed. It is
client.c that calls the handlers, and `client_events_legal` says that its calls are always such:
whatever messages and replies arrive, an event can only be illegal for the address of a device.
-/

namespace ConnectApp.Bluez

open CString Gdbus Transition

/-- What the handlers read of a proxy with its properties, and of a property that has changed. -/
structure Reading where
  device : Gdbus.Proxy → DeviceProps
  attr : Gdbus.Proxy → Attribute
  change : List UInt8 → Option DBus.Value → Change

/-- The interfaces the handlers tell apart, as far as they lead to an `Event`. -/
inductive Kind
  | device
  | adapter
  | attr (kind : AttrKind)
  | other
  deriving DecidableEq

/-- The kind, by the name of the interface. -/
def kindOf (p : Gdbus.Proxy) : Kind :=
  if p.interface = chars "org.bluez.Device1" then .device
  else if p.interface = chars "org.bluez.Adapter1" then .adapter
  else if p.interface = chars "org.bluez.GattService1" then .attr .service
  else if p.interface = chars "org.bluez.GattCharacteristic1" then .attr .characteristic
  else if p.interface = chars "org.bluez.GattDescriptor1" then .attr .descriptor
  else .other

namespace Reading

variable (r : Reading)

/-- `proxy_added`. -/
def added (p : Gdbus.Proxy) : Option Event :=
  match kindOf p with
  | .device => some (.deviceAdded p.id (r.device p))
  | .adapter => some (.adapterAdded p.id p.objPath)
  | .attr kind => some (.attributeAdded kind (r.attr p))
  | .other => none

/-- `proxy_removed`. -/
def removed (p : Gdbus.Proxy) : Option Event :=
  match kindOf p with
  | .device => some (.deviceRemoved p.id)
  | .adapter => some (.adapterRemoved p.id)
  | .attr kind => some (.attributeRemoved kind (r.attr p))
  | .other => none

/-- The event of a call, with the proxies there were before it. -/
def event (known : List Gdbus.Proxy) : Callback → Option Event
  | .proxyAdded p => r.added p
  | .proxyRemoved id => (known.find? fun p => p.id = id).bind r.removed
  | .propertyChanged id name value =>
    (known.find? fun p => p.id = id).bind fun p =>
      if kindOf p = .device then some (.deviceChanged id (r.change name value)) else none
  | .connect | .disconnect => none

/-- The events of a list of callbacks. -/
def events : List Gdbus.Proxy → List Callback → List Event
  | _, [] => []
  | known, cb :: cbs =>
    (r.event known cb).toList ++ ((cb.accept known).elim [] fun known => events known cbs)

end Reading

/-- Legal, if the address of a device is not at fault. -/
def State.Sensible (s : State) (e : Event) : Prop :=
  (match e with
    | .deviceAdded proxy props => props.address ≠ none ∧ s.AddressFree proxy props
    | .deviceChanged proxy change => s.AddressFree proxy (change.apply (s.props proxy))
    | _ => True) → s.Legal e

/-! ## The objects that are there -/

namespace State

/-- The devices and the adapters. -/
def objects (s : State) : List Proxy × List Proxy := (s.present, s.adapters)

/-- The devices and the adapters after an event. -/
def objectsAfter (s : State) : Event → List Proxy × List Proxy
  | .adapterAdded proxy _ => (s.present, proxy :: s.adapters)
  | .adapterRemoved proxy => (s.present, s.adapters.erase proxy)
  | .deviceAdded proxy _ => (proxy :: s.present, s.adapters)
  | .deviceRemoved proxy => (s.present.filter (· ≠ proxy), s.adapters)
  | _ => s.objects

theorem objects_setDefaultDevice (s : State) (proxy : Option Proxy) :
    (s.setDefaultDevice proxy).objects = s.objects := by
  unfold setDefaultDevice
  split_ifs
  · rfl
  · cases proxy <;> rfl

theorem OnlyRecords.objects {s t : State} (h : OnlyRecords s t) : t.objects = s.objects := by
  obtain ⟨l, r, rfl⟩ := h
  rfl

theorem objects_propertyChanged (s : State) (proxy : Proxy) (change : Change) :
    (s.propertyChanged proxy change).objects = s.objects := by
  obtain h | h := s.propertyChanged_writes proxy change
  · exact h.objects
  · rw [h.objects, followConnected.eq_def]
    split
    · split_ifs
      · exact objects_setDefaultDevice _ _
      · rfl
    · split_ifs
      · exact objects_setDefaultDevice _ _
      · rfl
    · rfl

theorem objects_attributes (s : State) (kind : AttrKind) (a : Attribute) :
    (s.attributeAdded kind a).objects = s.objects ∧
      (s.attributeRemoved kind a).objects = s.objects := by
  have hset : ∀ l, (s.setAttributes l kind).objects = s.objects := by
    cases kind <;> exact fun l => rfl
  rw [attributeAdded, attributeRemoved]
  constructor
  · split_ifs
    · exact hset _
    · rfl
  · split_ifs
    · exact (objects_setDefaultDevice _ _).trans (hset _)
    · exact hset _

/-- The handlers leave the objects to the D-Bus client. -/
theorem objects_handle {s t : State} {e : Event} (h : s.handle e = some t) :
    t.objects = s.objectsAfter e := by
  cases e with
  | adapterAdded proxy path =>
    obtain rfl := Option.some.inj h
    rw [adapterAdded]
    split <;> rfl
  | adapterRemoved proxy =>
    obtain rfl := Option.some.inj h
    exact congrArg (·, _) (s.adapterRemoved_lists proxy).2.1
  | deviceAdded proxy props =>
    obtain rfl := Option.some.inj h
    obtain h | ⟨-, h⟩ := deviceAdded_writes _ proxy <;> exact h.objects
  | deviceChanged proxy change =>
    obtain rfl := Option.some.inj h
    exact objects_propertyChanged _ _ _
  | deviceRemoved proxy =>
    obtain rfl := Option.some.inj h
    obtain h | ⟨-, h⟩ := s.deviceRemoved_writes proxy <;>
      exact congrArg (_, Prod.snd ·) h.objects
  | connectReply proxy error =>
    cases error with
    | some message => exact (onlyRecords_btStateChange h).objects
    | none =>
      obtain rfl := Option.some.inj h
      exact objects_setDefaultDevice _ _
  | disconnReply proxy failed =>
    cases failed with
    | true => exact (onlyRecords_btStateChange h).objects
    | false =>
      obtain rfl := Option.some.inj h
      split_ifs
      · exact objects_setDefaultDevice _ _
      · rfl
  | attributeAdded kind a =>
    obtain rfl := Option.some.inj h
    exact (s.objects_attributes kind a).1
  | attributeRemoved kind a =>
    obtain rfl := Option.some.inj h
    exact (s.objects_attributes kind a).2

end State

/-! ## Along the calls -/

/-- The kind of the proxy with this number. -/
def kindIn (known : List Gdbus.Proxy) (id : Nat) : Option Kind :=
  (known.find? fun p => p.id = id).map kindOf

/-- The devices and the adapters are those that `kind` gives. -/
structure Knows (objects : List Nat × List Nat) (kind : Nat → Option Kind) : Prop where
  present : ∀ id, id ∈ objects.1 ↔ kind id = some .device
  adapters : ∀ id, id ∈ objects.2 ↔ kind id = some .adapter
  nodup : objects.2.Nodup

section
variable {s : State} {kind : Nat → Option Kind} {known known' : List Gdbus.Proxy}

theorem Knows.added (h : Knows s.objects kind) {id : Nat} (hnew : kind id = none) (k : Kind) :
    Knows (if k = .device then id :: s.present else s.present,
      if k = .adapter then id :: s.adapters else s.adapters)
      (Function.update kind id (some k)) := by
  obtain ⟨hpresent, hadapters, hnodup⟩ := h
  constructor <;> grind [State.objects, Function.update]

theorem Knows.removed (h : Knows s.objects kind) {id : Nat} {k : Kind} (hid : kind id = some k) :
    Knows (if k = .device then s.present.filter (· ≠ id) else s.present,
      if k = .adapter then s.adapters.erase id else s.adapters) (Function.update kind id none) := by
  obtain ⟨hpresent, hadapters, hnodup⟩ := h
  have herase : ∀ i, i ∈ s.adapters.erase id ↔ _ := fun i => List.Nodup.mem_erase_iff hnodup
  have := List.Nodup.erase id hnodup
  constructor <;> grind [State.objects, Function.update]

theorem find?_eq_none_iff (known : List Gdbus.Proxy) (id : Nat) :
    known.find? (fun p => p.id = id) = none ↔ id ∉ known.map Gdbus.Proxy.id := by
  simp [List.find?_eq_none]

theorem kindIn_append {p : Gdbus.Proxy} (h : p.id ∉ known.map Gdbus.Proxy.id) :
    kindIn (known ++ [{ p with pending := false }]) =
      Function.update (kindIn known) p.id (some (kindOf p)) := by
  have hkind : kindOf { p with pending := false } = kindOf p := rfl
  funext id
  rw [kindIn, List.find?_append]
  have hnone := find?_eq_none_iff known id
  grind [kindIn, Function.update]

theorem kindIn_filter (id : Nat) :
    kindIn (known.filter fun p => p.id ≠ id) = Function.update (kindIn known) id none := by
  funext i
  rw [kindIn, List.find?_filter]
  grind [kindIn, Function.update]

theorem kindIn_map {f : Gdbus.Proxy → Gdbus.Proxy} (hid : ∀ p, (f p).id = p.id)
    (hkind : ∀ p, kindOf (f p) = kindOf p) : kindIn (known.map f) = kindIn known := by
  funext i
  simp [kindIn, List.find?_map, Function.comp_def, hid, hkind]

/-- **One call.** Its event, if it has one, is legal but for addresses, and the objects after it are
those that the application knows of after the call. -/
theorem Knows.event (h : Knows s.objects (kindIn known)) {r : Reading} {cb : Callback}
    (haccept : cb.accept known = some known') :
    match r.event known cb with
    | none => Knows s.objects (kindIn known')
    | some e => s.Sensible e ∧ Knows (s.objectsAfter e) (kindIn known') := by
  have hfound : ∀ {id}, id ∈ known.map Gdbus.Proxy.id →
      ∃ p, known.find? (fun p => p.id = id) = some p ∧ p.id = id ∧
        kindIn known id = some (kindOf p) := by
    intro id hid
    obtain ⟨p, hp⟩ := Option.ne_none_iff_exists'.mp fun h => (find?_eq_none_iff known id).mp h hid
    exact ⟨p, hp, by simpa using List.find?_some hp, by rw [kindIn, hp]; rfl⟩
  cases cb with
  | proxyAdded p =>
    obtain ⟨hnew, haccept⟩ := Option.ite_none_left_eq_some.mp haccept
    obtain rfl := Option.some.inj haccept
    have hnone : kindIn known p.id = none := by
      rw [kindIn, (find?_eq_none_iff known p.id).mpr hnew]
      rfl
    have hpresent : p.id ∉ s.present := fun hid => by
      cases hnone.symm.trans ((h.present p.id).mp hid)
    have hadapters : p.id ∉ s.adapters := fun hid => by
      cases hnone.symm.trans ((h.adapters p.id).mp hid)
    have hknows := h.added hnone (kindOf p)
    rw [kindIn_append hnew, Reading.event, Reading.added]
    generalize kindOf p = k at hknows
    cases k with
    | device => exact ⟨fun hok => ⟨hpresent, hok⟩, hknows⟩
    | adapter => exact ⟨fun _ => hadapters, hknows⟩
    | attr kind => exact ⟨fun _ => trivial, hknows⟩
    | other => exact hknows
  | proxyRemoved id =>
    obtain ⟨hid, haccept⟩ := Option.ite_none_right_eq_some.mp haccept
    obtain rfl := Option.some.inj haccept
    obtain ⟨p, hp, rfl, hkind⟩ := hfound hid
    have hpresent := h.present p.id
    have hadapters := h.adapters p.id
    -- its kind tells in which list it is
    have hknows := h.removed hkind
    rw [hkind] at hpresent hadapters
    rw [kindIn_filter, Reading.event, hp, Option.bind_some, Reading.removed]
    generalize kindOf p = k at hknows hpresent hadapters
    cases k with
    | device => exact ⟨fun _ => hpresent.mpr rfl, hknows⟩
    | adapter => exact ⟨fun _ => hadapters.mpr rfl, hknows⟩
    | attr kind => exact ⟨fun _ => trivial, hknows⟩
    | other => exact hknows
  | propertyChanged id name value =>
    obtain ⟨hid, haccept⟩ := Option.ite_none_right_eq_some.mp haccept
    obtain rfl := Option.some.inj haccept
    obtain ⟨p, hp, rfl, hkind⟩ := hfound hid
    rw [kindIn_map (fun p => by split_ifs <;> rfl) fun p => by split_ifs <;> rfl, Reading.event, hp,
      Option.bind_some]
    by_cases hdev : kindOf p = .device
    · rw [if_pos hdev]
      exact ⟨fun hok => ⟨(h.present p.id).mpr (hdev ▸ hkind), hok⟩, h⟩
    · rw [if_neg hdev]
      exact h
  | connect | disconnect =>
    obtain rfl := Option.some.inj haccept
    exact h

/-- Replies leave the objects as they are. -/
theorem Knows.replies (h : Knows s.objects kind) {es es' : List Event} (hes : ∀ e ∈ es, e.isReply)
    (hrest : ∀ t : State, Knows t.objects kind → Along State.next State.Sensible t es') :
    Along State.next State.Sensible s (es ++ es') := by
  induction es generalizing s with
  | nil => exact hrest s h
  | cons e es ih =>
    obtain ⟨he, htail⟩ := List.forall_mem_cons.mp hes
    cases e with
    | connectReply | disconnReply =>
      refine ⟨fun _ => trivial, fun t ht => ih ?_ htail⟩
      rw [State.objects_handle (Option.ite_none_right_eq_some.mp ht).2]
      exact h
    | _ => cases he

end

/-- **Only addresses can be at fault.** Whatever messages client.c gets, the calls that it makes are
legal events for the application, one after the other and with replies anywhere between them, but
for the addresses of devices. -/
theorem client_events_legal (r : Reading) (inputs : List Input) (es : List Event)
    (h : es.filter (fun e => !e.isReply) = r.events [] (inputs.foldl Client.input {}).calls) :
    Along State.next State.Sensible State.opened es := by
  obtain ⟨-, cbs, hcalls, l, hl, -⟩ := Client.wf_new.moves_inputs inputs
  rw [hcalls, show ({} : Client).calls ++ cbs = cbs from rfl] at h
  have hknows : Knows State.opened.objects (kindIn []) :=
    ⟨fun _ => by simp [State.opened, State.objects, kindIn],
      fun _ => by simp [State.opened, State.objects, kindIn], List.nodup_nil⟩
  change cbs.foldlM Callback.accept [] = _ at hl
  clear hcalls
  generalize State.opened = s, ([] : List Gdbus.Proxy) = known at h hl hknows
  induction cbs generalizing s known es with
  | nil =>
    rw [← es.append_nil]
    exact hknows.replies (fun e he => by simpa using List.filter_eq_nil_iff.mp h e he)
      fun t _ => trivial
  | cons cb cbs ih =>
    rw [List.foldlM_cons] at hl
    obtain ⟨known', haccept, hl⟩ := Option.bind_eq_some_iff.mp hl
    rw [Reading.events, haccept] at h
    cases he : r.event known cb with
    | none =>
      have hevent := hknows.event (r := r) haccept
      rw [he] at h hevent
      exact ih es s known' h hl hevent
    | some e =>
      rw [he] at h
      -- the replies in front of the event
      obtain ⟨replies, es', rfl, hreplies, -, hrest⟩ := List.filter_eq_cons_iff.mp h
      refine hknows.replies (fun e he => by simpa using hreplies e he) fun t ht => ?_
      have hevent := ht.event (r := r) haccept
      rw [he] at hevent
      refine ⟨hevent.1, fun u hu => ih es' u known' hrest hl ?_⟩
      rw [State.objects_handle (Option.ite_none_right_eq_some.mp hu).2]
      exact hevent.2

/-- An adapter, with a reply before it. -/
theorem client_events_legal_adapter :
    Along State.next State.Sensible State.opened
      [.connectReply 0 none, .adapterAdded 0 (chars "/hci0")] :=
  client_events_legal ⟨fun _ => { path := [] }, fun _ => ⟨0, [], none, none⟩, fun _ _ => .rssi none⟩
    [.interfacesAdded [.objectPath (chars "/hci0"),
      ObjectManager.interfacesValue [(chars "org.bluez.Adapter1", [])]]] _ rfl

end ConnectApp.Bluez
