import ConnectApp.Lib.Transition
import ConnectApp.Bluez.Device

/-!
# What bluetoothd announces (a2dp_masterctrl.c:1060-1235, gatt.c:180-365)

`Event` are the announcements of objects, their changes and removals, and the replies to the
calls `Connect` and `Disconnect`. `State.handle` is what the application does with one.
`busSystem` runs them in any order, as long as an object is added at most once before it is
removed and the present devices of one adapter have distinct addresses (`State.Legal`).

The lemmas after the definitions say what each handler does to the lists of adapters;
later modules use these and do not look into the handlers again.
-/

namespace ConnectApp.Bluez

open CString Transition

/-- The three levels of GATT attributes. -/
inductive AttrKind
  | service
  | characteristic
  | descriptor
  deriving DecidableEq

namespace State

/-! ## The lists of attributes -/

/-- The list of gatt.c for one kind of attribute (gatt.c:94-96). -/
def attributes (s : State) : AttrKind → List Attribute
  | .service => s.services
  | .characteristic => s.characteristics
  | .descriptor => s.descriptors

/-- Stores the list of one kind. -/
def setAttributes (s : State) (l : List Attribute) : AttrKind → State
  | .service => { s with services := l }
  | .characteristic => { s with characteristics := l }
  | .descriptor => { s with descriptors := l }

/-- Whether the object an attribute belongs to is known: `service_is_child`
(a2dp_masterctrl.c:868-883), `chrc_is_child` and `descriptor_is_child`
(gatt.c:230-242, 320-341). -/
def hasParent (s : State) (a : Attribute) : AttrKind → Bool
  | .service =>
    s.defaultAdapter.any fun ctrl => ctrl.devices.any fun d => a.parent = some (s.props d).path
  | .characteristic => s.services.any fun b => a.parent = some b.path
  | .descriptor => s.characteristics.any fun b => a.parent = some b.path

/-- `proxy_added` for an attribute (a2dp_masterctrl.c:1083-1089). -/
def attributeAdded (s : State) (kind : AttrKind) (a : Attribute) : State :=
  if s.hasParent a kind then s.setAttributes (s.attributes kind ++ [a]) kind else s

/-- `proxy_removed` for an attribute (a2dp_masterctrl.c:1209-1224). -/
def attributeRemoved (s : State) (kind : AttrKind) (a : Attribute) : State :=
  let s := s.setAttributes ((s.attributes kind).eraseP fun b => b.proxy = a.proxy) kind
  if s.defaultAttr = some a.proxy then s.setDefaultAttribute none else s

end State

/-! ## Events -/

/-- What BlueZ sends. -/
inductive Event
  | adapterAdded (proxy : Proxy) (path : List UInt8)
  | adapterRemoved (proxy : Proxy)
  | deviceAdded (proxy : Proxy) (props : DeviceProps)
  | deviceChanged (proxy : Proxy) (change : Change)
  | deviceRemoved (proxy : Proxy)
  | connectReply (proxy : Proxy) (error : Option (List UInt8))
  | disconnReply (proxy : Proxy) (failed : Bool)
  | attributeAdded (kind : AttrKind) (a : Attribute)
  | attributeRemoved (kind : AttrKind) (a : Attribute)

namespace State

/-- The D-Bus client stores the properties of a device proxy. -/
def cache (s : State) (proxy : Proxy) (props : DeviceProps) : State :=
  { s with props := Function.update s.props proxy props }

/-- The D-Bus client has the new properties before it calls the handler, and gives up a
removed object after it. -/
def handle (s : State) : Event → Option State
  | .adapterAdded proxy path =>
    some ({ s with adapters := proxy :: s.adapters }.adapterAdded proxy path)
  | .adapterRemoved proxy =>
    some { s.adapterRemoved proxy with adapters := s.adapters.erase proxy }
  | .deviceAdded proxy props =>
    some (({ s with present := proxy :: s.present }.cache proxy props).deviceAdded proxy)
  | .deviceChanged proxy change =>
    some ((s.cache proxy (change.apply (s.props proxy))).propertyChanged proxy change)
  | .deviceRemoved proxy =>
    some { s.deviceRemoved proxy with present := s.present.filter (· ≠ proxy) }
  | .connectReply proxy error => s.connectByAddressReply proxy error
  | .disconnReply proxy failed => s.disconnReply proxy failed
  | .attributeAdded kind a => some (s.attributeAdded kind a)
  | .attributeRemoved kind a => some (s.attributeRemoved kind a)

/-- No other present device of the same adapter has the address. -/
def AddressFree (s : State) (proxy : Proxy) (props : DeviceProps) : Prop :=
  ∀ q ∈ s.present, q ≠ proxy → (s.props q).adapter = props.adapter →
    (s.props q).address ≠ props.address

instance (s : State) (proxy : Proxy) (props : DeviceProps) :
    Decidable (s.AddressFree proxy props) :=
  inferInstanceAs (Decidable (∀ q ∈ s.present, q ≠ proxy → _ → _))

/-- An object is added when it is not there, changed and removed when it is, and the present
devices of an adapter have distinct addresses. -/
def Legal (s : State) : Event → Prop
  | .adapterAdded proxy _ => proxy ∉ s.adapters
  | .adapterRemoved proxy => proxy ∈ s.adapters
  | .deviceAdded proxy props =>
    proxy ∉ s.present ∧ props.address ≠ none ∧ s.AddressFree proxy props
  | .deviceChanged proxy change =>
    proxy ∈ s.present ∧ s.AddressFree proxy (change.apply (s.props proxy))
  | .deviceRemoved proxy => proxy ∈ s.present
  | _ => True

instance (s : State) : (e : Event) → Decidable (s.Legal e)
  | .adapterAdded proxy _ => inferInstanceAs (Decidable (proxy ∉ s.adapters))
  | .adapterRemoved proxy => inferInstanceAs (Decidable (proxy ∈ s.adapters))
  | .deviceAdded proxy props =>
    inferInstanceAs (Decidable (proxy ∉ s.present ∧ props.address ≠ none ∧ s.AddressFree proxy props))
  | .deviceChanged proxy change =>
    inferInstanceAs (Decidable (proxy ∈ s.present ∧
      s.AddressFree proxy (change.apply (s.props proxy))))
  | .deviceRemoved proxy => inferInstanceAs (Decidable (proxy ∈ s.present))
  | .connectReply .. | .disconnReply .. | .attributeAdded .. | .attributeRemoved .. =>
    inferInstanceAs (Decidable True)

/-- One event, if it can happen. -/
def next (s : State) (e : Event) : Option State := if s.Legal e then s.handle e else none

/-- The state after `bluetooth_open` (a2dp_masterctrl.c:2114-2152). -/
def opened : State where
  ctrlList := []
  defaultCtrl := none
  defaultDev := none
  defaultAttr := none
  services := []
  characteristics := []
  descriptors := []
  reports := []
  adapters := []
  present := []
  props := fun _ => { path := [] }
  fresh := 0

end State

/-! ## What the handlers leave alone -/

/-- The adapters with their lists, the default adapter and the objects on the bus are the
same. -/
structure State.SameLists (s t : State) : Prop where
  ctrlList : t.ctrlList = s.ctrlList
  defaultCtrl : t.defaultCtrl = s.defaultCtrl
  present : t.present = s.present
  props : t.props = s.props
  fresh : t.fresh = s.fresh

namespace State

theorem SameLists.refl (s : State) : SameLists s s := ⟨rfl, rfl, rfl, rfl, rfl⟩

/-- Two steps that keep the lists keep them together. -/
theorem SameLists.trans {s t u : State} (h : SameLists s t) (h' : SameLists t u) :
    SameLists s u :=
  ⟨h'.ctrlList.trans h.ctrlList, h'.defaultCtrl.trans h.defaultCtrl, h'.present.trans h.present,
    h'.props.trans h.props, h'.fresh.trans h.fresh⟩

/-- `set_default_device` keeps the lists. -/
theorem sameLists_setDefaultDevice (s : State) (proxy : Option Proxy) :
    SameLists s (s.setDefaultDevice proxy) := by
  unfold setDefaultDevice
  split_ifs
  · exact .refl s
  · cases proxy <;> exact ⟨rfl, rfl, rfl, rfl, rfl⟩

/-- A report keeps the lists. -/
theorem sameLists_btStateSend (s : State) (rdev : Option RemoteDev) (state : BtState) :
    SameLists s (s.btStateSend rdev state) := ⟨rfl, rfl, rfl, rfl, rfl⟩

/-- A change of `Connected` can change the default device, which is in no list. -/
theorem sameLists_followConnected (s : State) (proxy : Proxy) (change : Change) :
    SameLists s (s.followConnected proxy change) := by
  unfold followConnected
  split
  · split_ifs
    · exact sameLists_setDefaultDevice s _
    · exact .refl s
  · split_ifs
    · exact sameLists_setDefaultDevice s _
    · exact .refl s
  · exact .refl s

/-- The attributes are kept beside the lists. -/
theorem sameLists_setAttributes (s : State) (l : List Attribute) (kind : AttrKind) :
    SameLists s (s.setAttributes l kind) := by
  cases kind <;> exact ⟨rfl, rfl, rfl, rfl, rfl⟩

/-- So is the default attribute. -/
theorem sameLists_setDefaultAttribute (s : State) (proxy : Option Proxy) :
    SameLists s (s.setDefaultAttribute proxy) :=
  .trans (t := { s with defaultAttr := proxy }) ⟨rfl, rfl, rfl, rfl, rfl⟩
    (sameLists_setDefaultDevice _ _)

/-- An attribute that comes leaves the lists. -/
theorem sameLists_attributeAdded (s : State) (kind : AttrKind) (a : Attribute) :
    SameLists s (s.attributeAdded kind a) := by
  unfold attributeAdded
  split_ifs
  · exact sameLists_setAttributes s _ kind
  · exact .refl s

/-- An attribute that goes leaves the lists. -/
theorem sameLists_attributeRemoved (s : State) (kind : AttrKind) (a : Attribute) :
    SameLists s (s.attributeRemoved kind a) := by
  unfold attributeRemoved
  have hset := sameLists_setAttributes s
    ((s.attributes kind).eraseP fun b => b.proxy = a.proxy) kind
  dsimp only
  split_ifs
  · exact hset.trans (sameLists_setDefaultAttribute _ none)
  · exact hset

/-! ## What the handlers do to the lists -/

/-- The default adapter is in the list, under the id of `default_ctrl`. -/
theorem mem_defaultAdapter {s : State} {a : Adapter} (h : s.defaultAdapter = some a) :
    a ∈ s.ctrlList ∧ s.defaultCtrl = some a.id := by
  obtain ⟨i, hi, hfind⟩ := Option.bind_eq_some_iff.mp h
  have hid := List.find?_some hfind
  refine ⟨List.mem_of_find?_eq_some hfind, ?_⟩
  rw [hi, of_decide_eq_true hid]

/-- `find_parent` finds an adapter of the list, by the path the device names. -/
theorem findParent_eq_some {s : State} {proxy : Proxy} {a : Adapter}
    (h : s.findParent proxy = some a) :
    a ∈ s.ctrlList ∧ (s.props proxy).adapter = some a.path := by
  have hchild := List.find?_some h
  exact ⟨List.mem_of_find?_eq_some h, of_decide_eq_true hchild⟩

/-- The record of a changed device is written back, or there is none and nothing happens. -/
theorem changeRecord_cases (s : State) (ctrl : Adapter) (proxy : Proxy) (change : List UInt8)
    (newState : BtState) :
    (s.changeRecord ctrl proxy change newState = s ∧ ∀ r ∈ ctrl.appDevs, r.data ≠ proxy) ∨
    ∃ rdev ∈ ctrl.appDevs, rdev.data = proxy ∧
      s.changeRecord ctrl proxy change newState =
        (s.updateAdapter ctrl.id fun a => { a with
          appDevs := FirstMatch.update (fun r => r.data = proxy)
            (fun _ => (rdev.refresh (s.props proxy) change newState).1) a.appDevs }).btStateSend
          (some (rdev.refresh (s.props proxy) change newState).1)
          (rdev.refresh (s.props proxy) change newState).2 := by
  unfold changeRecord
  cases hfind : ctrl.appDevs.find? (fun r => r.data = proxy) with
  | none =>
    refine .inl ⟨rfl, fun r hr heq => ?_⟩
    have hnone := List.find?_eq_none.mp hfind r hr
    exact hnone (by simpa using heq)
  | some rdev =>
    have hdata := List.find?_some hfind
    exact .inr ⟨rdev, List.mem_of_find?_eq_some hfind, by simpa using hdata, rfl⟩

/-- **A device that appears connected.** The first test of `device_added` makes it the
default device when there is none, so the second test never succeeds: the new record is
reported as found by a scan and stays unconnected. -/
theorem deviceAdded_of_parent {s : State} {proxy : Proxy} {adapter : Adapter}
    (h : s.findParent proxy = some adapter) :
    s.deviceAdded proxy =
      let rdev := RemoteDev.new proxy (s.props proxy)
      let t := s.updateAdapter adapter.id fun a =>
        { a with devices := a.devices ++ [proxy], appDevs := a.appDevs ++ [rdev] }
      match (s.props proxy).connected with
      | none => t
      | some connected =>
        (if connected ∧ s.defaultDev = none then t.setDefaultDevice (some proxy)
          else t).btStateSend (some rdev) .scanNewRemoteDev := by
  unfold deviceAdded
  rw [h]
  dsimp only [updateAdapter]
  cases (s.props proxy).connected with
  | none => rfl
  | some connected =>
    by_cases hdefault : connected = true ∧ s.defaultDev = none
    · -- now `default_dev` is the new device itself
      have hset : ¬ (some proxy ≠ none ∧ s.defaultDev ≠ none ∧ s.defaultDev ≠ some proxy) :=
        fun hne => hne.2.1 hdefault.2
      simp only [if_pos hdefault, setDefaultDevice, if_neg hset, reduceCtorEq, and_false,
        if_false]
    · simp only [if_neg hdefault]

/-- `device_added` adds the proxy and its record to one adapter. -/
theorem sameLists_deviceAdded {s : State} {proxy : Proxy} {adapter : Adapter}
    (h : s.findParent proxy = some adapter) :
    SameLists
      (s.updateAdapter adapter.id fun a => { a with
        devices := a.devices ++ [proxy]
        appDevs := a.appDevs ++ [RemoteDev.new proxy (s.props proxy)] })
      (s.deviceAdded proxy) := by
  rw [deviceAdded_of_parent h]
  dsimp only
  split
  · exact .refl _
  · refine .trans ?_ (sameLists_btStateSend ..)
    split_ifs
    · exact sameLists_setDefaultDevice _ _
    · exact .refl _

/-- The records that `device_removed` keeps. -/
def keptRecords (address : Option BdAddr) (l : List RemoteDev) : List RemoteDev :=
  match address with
  | none => l
  | some addr =>
    match FirstMatch.stop (hasAddress addr) l with
    | none => l
    | some i => l.eraseIdx i

/-- An update depends on the adapters with that id only. -/
theorem updateAdapter_congr {s : State} {i : Nat} {f g : Adapter → Adapter}
    (h : ∀ a ∈ s.ctrlList, a.id = i → f a = g a) : s.updateAdapter i f = s.updateAdapter i g := by
  have hmap : (s.ctrlList.map fun a => if a.id = i then f a else a) =
      s.ctrlList.map fun a => if a.id = i then g a else a := by
    refine List.map_congr_left fun a ha => ?_
    split_ifs with hid
    · exact h a ha hid
    · rfl
  rw [updateAdapter, updateAdapter, hmap]

/-- Two updates of one adapter are one. -/
theorem updateAdapter_updateAdapter {s : State} {i : Nat} {f g : Adapter → Adapter}
    (h : ∀ a, (f a).id = a.id) :
    (s.updateAdapter i f).updateAdapter i g = s.updateAdapter i fun a => g (f a) := by
  have hmap : ∀ a : Adapter,
      (if (if a.id = i then f a else a).id = i then g (if a.id = i then f a else a)
        else if a.id = i then f a else a) = if a.id = i then g (f a) else a := by
    intro a
    by_cases hid : a.id = i
    · simp only [if_pos hid, h a]
    · simp only [if_neg hid]
  simp only [updateAdapter, List.map_map, Function.comp_def, hmap]

/-- The deletion of a record is one assignment to the adapter. -/
theorem sameLists_dropRecord {s : State} {adapter : Adapter} (addr : BdAddr)
    (h : ∀ a ∈ s.ctrlList, a.id = adapter.id → a.appDevs = adapter.appDevs) :
    SameLists
      (s.updateAdapter adapter.id fun a => { a with
        appDevs := keptRecords (some addr) a.appDevs })
      (s.dropRecord adapter addr) := by
  rw [updateAdapter_congr (g := fun a => { a with
    appDevs := match FirstMatch.stop (hasAddress addr) adapter.appDevs with
      | none => a.appDevs
      | some i => a.appDevs.eraseIdx i })]
  · unfold dropRecord
    cases FirstMatch.stop (hasAddress addr) adapter.appDevs with
    | none =>
      refine ⟨?_, rfl, rfl, rfl, rfl⟩
      simp only [updateAdapter, ite_self, List.map_id']
    | some i => exact sameLists_btStateSend ..
  · intro a ha hid
    rw [keptRecords, h a ha hid]

/-- `device_removed` takes the proxy and its record off one adapter. -/
theorem sameLists_deviceRemoved {s : State} {proxy : Proxy} {adapter : Adapter}
    (h : s.findParent proxy = some adapter)
    (hids : ∀ a ∈ s.ctrlList, a.id = adapter.id → a = adapter) :
    SameLists
      (s.updateAdapter adapter.id fun a => { a with
        devices := a.devices.erase proxy
        appDevs := keptRecords (s.props proxy).address a.appDevs })
      (s.deviceRemoved proxy) := by
  have hdefault : ∀ t : State,
      SameLists t (if t.defaultDev = some proxy then t.setDefaultDevice none else t) := by
    intro t
    split_ifs
    · exact sameLists_setDefaultDevice t none
    · exact .refl t
  unfold deviceRemoved
  rw [h]
  refine .trans ?_ (hdefault _)
  show SameLists _ (match (s.props proxy).address with
    | none => _
    | some addr => _)
  cases (s.props proxy).address with
  | none => exact .refl _
  | some addr =>
    have hrecords : ∀ a ∈ (s.updateAdapter adapter.id fun a =>
        { a with devices := a.devices.erase proxy }).ctrlList,
        a.id = adapter.id → a.appDevs = adapter.appDevs := by
      intro a ha hid
      obtain ⟨b, hb, rfl⟩ := List.mem_map.mp ha
      split_ifs at hid ⊢ with hbid
      · rw [hids b hb hbid]
      · exact absurd hid hbid
    have hdrop := sameLists_dropRecord addr hrecords
    rw [updateAdapter_updateAdapter (f := fun a => { a with devices := a.devices.erase proxy })
      fun _ => rfl] at hdrop
    exact hdrop

/-- `adapter_removed` shortens the list of adapters and leaves the devices. -/
theorem adapterRemoved_lists (s : State) (proxy : Proxy) :
    (s.adapterRemoved proxy).ctrlList.Sublist s.ctrlList ∧
    (s.adapterRemoved proxy).present = s.present ∧
    (s.adapterRemoved proxy).props = s.props ∧ (s.adapterRemoved proxy).fresh = s.fresh := by
  unfold adapterRemoved
  split_ifs
  · have hsame := sameLists_setDefaultDevice { s with defaultCtrl := none } none
    refine ⟨?_, hsame.present, hsame.props, hsame.fresh⟩
    show List.Sublist (List.eraseP _ _) _
    rw [hsame.ctrlList]
    exact List.eraseP_sublist
  · exact ⟨List.eraseP_sublist, rfl, rfl, rfl⟩
  · exact ⟨List.Sublist.refl _, rfl, rfl, rfl⟩

/-! ## What the handlers write besides the lists -/

/-- At most the adapters with their lists and the reports differ. -/
def OnlyRecords (s t : State) : Prop := ∃ l r, t = { s with ctrlList := l, reports := r }

/-- Other records, the same devices on the bus. -/
theorem OnlyRecords.present {s t : State} (h : OnlyRecords s t) : t.present = s.present := by
  obtain ⟨l, r, rfl⟩ := h
  rfl

/-- Other records, the same default adapter. -/
theorem OnlyRecords.defaultCtrl {s t : State} (h : OnlyRecords s t) :
    t.defaultCtrl = s.defaultCtrl := by
  obtain ⟨l, r, rfl⟩ := h
  rfl

/-- Other records, the same default device. -/
theorem OnlyRecords.defaultDev {s t : State} (h : OnlyRecords s t) :
    t.defaultDev = s.defaultDev := by
  obtain ⟨l, r, rfl⟩ := h
  rfl

/-- `changeRecord` touches the record of one device. -/
theorem onlyRecords_changeRecord (s : State) (ctrl : Adapter) (proxy : Proxy)
    (change : List UInt8) (newState : BtState) :
    OnlyRecords s (s.changeRecord ctrl proxy change newState) := by
  obtain ⟨heq, -⟩ | ⟨rdev, -, -, heq⟩ := s.changeRecord_cases ctrl proxy change newState
  · rw [heq]
    exact ⟨_, _, rfl⟩
  · rw [heq]
    exact ⟨_, _, rfl⟩

/-- `bt_state_change` touches records only. -/
theorem onlyRecords_btStateChange {s t : State} {proxy : Proxy} {change : List UInt8}
    {newState : BtState} (h : s.btStateChange proxy change newState = some t) :
    OnlyRecords s t := by
  obtain ⟨ctrl, -, rfl⟩ := Option.map_eq_some_iff.mp h
  exact s.onlyRecords_changeRecord ctrl proxy change newState

/-- `device_added` makes the device the default device only if there is none. -/
theorem deviceAdded_writes (s : State) (proxy : Proxy) :
    OnlyRecords s (s.deviceAdded proxy) ∨
      s.defaultDev = none ∧ OnlyRecords { s with defaultDev := some proxy } (s.deviceAdded proxy) := by
  cases hparent : s.findParent proxy with
  | none =>
    rw [deviceAdded, hparent]
    exact .inl ⟨_, _, rfl⟩
  | some adapter =>
    rw [deviceAdded_of_parent hparent]
    dsimp only
    split
    · exact .inl ⟨_, _, rfl⟩
    · split_ifs with hdefault
      · refine .inr ⟨hdefault.2, ?_⟩
        rw [setDefaultDevice, if_neg fun hne => hne.2.1 hdefault.2]
        exact ⟨_, _, rfl⟩
      · exact .inl ⟨_, _, rfl⟩

/-- `device_removed` clears the selection only if it is the default device that goes. -/
theorem deviceRemoved_writes (s : State) (proxy : Proxy) :
    OnlyRecords s (s.deviceRemoved proxy) ∨
      s.defaultDev = some proxy ∧
        OnlyRecords { s with defaultDev := none, defaultAttr := none } (s.deviceRemoved proxy) := by
  have hlast : ∀ t, OnlyRecords s t →
      OnlyRecords s (if t.defaultDev = some proxy then t.setDefaultDevice none else t) ∨
        s.defaultDev = some proxy ∧ OnlyRecords { s with defaultDev := none, defaultAttr := none }
          (if t.defaultDev = some proxy then t.setDefaultDevice none else t) := by
    rintro t ⟨l, r, rfl⟩
    split_ifs with hdev
    · refine .inr ⟨hdev, ?_⟩
      rw [setDefaultDevice, if_neg fun hne => hne.1 rfl]
      exact ⟨_, _, rfl⟩
    · exact .inl ⟨_, _, rfl⟩
  rw [deviceRemoved]
  cases s.findParent proxy with
  | none => exact .inl ⟨_, _, rfl⟩
  | some adapter =>
    refine hlast _ ?_
    split
    · exact ⟨_, _, rfl⟩
    · unfold dropRecord
      split <;> exact ⟨_, _, rfl⟩

/-- `property_changed` follows the connection of the device before it changes the record. -/
theorem propertyChanged_writes (s : State) (proxy : Proxy) (change : Change) :
    OnlyRecords s (s.propertyChanged proxy change) ∨
      OnlyRecords (s.followConnected proxy change) (s.propertyChanged proxy change) := by
  unfold propertyChanged
  split
  · exact .inl ⟨_, _, rfl⟩
  · split_ifs
    · exact .inr (onlyRecords_changeRecord ..)
    · exact .inl ⟨_, _, rfl⟩

end State

/-- All runs from the state after `bluetooth_open`. -/
def busSystem : System State Event where
  init := fun s => s = State.opened
  step := fun s e t => s.next e = some t

end ConnectApp.Bluez
