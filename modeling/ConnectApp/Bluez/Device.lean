import ConnectApp.Lib.CBuffer
import ConnectApp.Lib.FirstMatch

/-!
# Adapters, devices and their records (a2dp_masterctrl.c:331-501, 848-1295)

bluetoothd announces objects on D-Bus; for each one the application has a proxy with the
object's properties. `ctrl_list` holds the adapters. An adapter has the list `devices` of its
device proxies and the list `app_devs` of the records that the application sees; a record
points to its proxy (`data`) and copies some of its properties.

The handlers below are called by the D-Bus client when an object appears, changes or
disappears. A proxy is a number that stands for its address, and `State.props` are the
properties the client has cached for it. What the handlers only print (prompt, log) is left
out.
-/

namespace ConnectApp.Bluez

open CString

/-- A `GDBusProxy *` other than NULL. -/
abbrev Proxy := Nat

/-- The address of a device as BlueZ writes it, `00:0C:3E:3A:4B:69`. -/
abbrev BdAddr := {a : List UInt8 // a.length = 17}

/-- The states of `RK_BT_STATE` (RkBtBase.h:65-137) that the functions here report. -/
inductive BtState
  | none
  | scanNewRemoteDev
  | scanDelRemoteDev
  | scanChgRemoteDev
  | disconnFailed
  | disconn
  | disconnAlready
  | connectFailed
  | connectFailedInvaildAddr
  | connectFailedNoFoundDevice
  | connectFailedScanning
  | connectedAlready
  | connected
  | bondNone
  | bonded
  | pairNone
  | pairFailed
  | paired
  | delDevOk
  | delDevFailed
  | commandRespOk
  | transportIdle
  | transportActive
  | transportVolume
  | sinkAdd
  | sinkDel
  | srcAdd
  | srcDel
  deriving DecidableEq

/-- The properties of an `org.bluez.Device1` object; `none` where
`g_dbus_proxy_get_property` fails. -/
structure DeviceProps where
  path : List UInt8
  adapter : Option (List UInt8) := none
  address : Option BdAddr := none
  addressType : Option (List UInt8) := none
  aliasName : Option (List UInt8) := none
  name : Option (List UInt8) := none
  rssi : Option Int := none
  uuids : Option (List (List UInt8)) := none
  modalias : Option (List UInt8) := none
  cls : Option Nat := none
  icon : Option (List UInt8) := none
  paired : Option Bool := none
  bonded : Option Bool := none
  connected : Option Bool := none
  deriving DecidableEq

/-- `RkBtMedia` (RkBtBase.h:342-370): the buffer of the uuid, the codec, the four bytes of the
SBC configuration, the state and the volume. -/
structure Media where
  remoteUuids : List UInt8 := List.replicate 37 0
  codec : UInt8 := 0
  sbc : List UInt8 := List.replicate 4 0
  state : BtState := .none
  volume : UInt16 := 0
  deriving DecidableEq

/-- `struct remote_dev` (RkBtBase.h:417-512), as far as the handlers here write it. -/
structure RemoteDev where
  data : Proxy
  devPath : List UInt8
  remoteAddress : List UInt8 := []
  remoteAddressType : List UInt8 := []
  remoteAlias : List UInt8 := []
  remoteName : List UInt8 := []
  rssi : Int := 0
  cod : Nat := 0
  icon : List UInt8 := []
  modalias : List UInt8 := []
  remoteUuids : List (List UInt8) := []
  changeName : List UInt8 := []
  connected : Bool := false
  paired : Bool := false
  bonded : Bool := false
  objPath : List UInt8 := []
  media : Media := {}
  deriving DecidableEq

/-- `struct adapter`. `id` stands for the address of the structure, `proxy` and `path` are
`adapter->proxy` and its object path. -/
structure Adapter where
  id : Nat
  proxy : Proxy
  path : List UInt8
  devices : List Proxy := []
  appDevs : List RemoteDev := []
  deriving DecidableEq

/-- A proxy of a GATT service, characteristic or descriptor of a remote device: its object
path, its `UUID`, and the path of the object it belongs to (`Device`, `Service` or
`Characteristic`). -/
structure Attribute where
  proxy : Proxy
  path : List UInt8
  uuid : Option (List UInt8)
  parent : Option (List UInt8)
  deriving DecidableEq

/-- One call of the state callback. -/
structure Report where
  rdev : Option RemoteDev
  state : BtState
  deriving DecidableEq

/-- The global variables of a2dp_masterctrl.c and gatt.c, the calls of the state callback
made so far, the objects present on the bus and the properties of the device proxies.
`fresh` is the address of the next adapter structure. -/
structure State where
  ctrlList : List Adapter
  defaultCtrl : Option Nat
  defaultDev : Option Proxy
  defaultAttr : Option Proxy
  services : List Attribute
  characteristics : List Attribute
  descriptors : List Attribute
  reports : List Report
  adapters : List Proxy
  present : List Proxy
  props : Proxy → DeviceProps
  fresh : Nat

namespace State

/-- `default_ctrl`. -/
def defaultAdapter (s : State) : Option Adapter :=
  s.defaultCtrl.bind fun i => s.ctrlList.find? fun a => a.id = i

/-- An assignment to the fields of one adapter. -/
def updateAdapter (s : State) (i : Nat) (f : Adapter → Adapter) : State :=
  { s with ctrlList := s.ctrlList.map fun a => if a.id = i then f a else a }

/-- `bt_state_send` (a2dp_masterctrl.c:367-371). -/
def btStateSend (s : State) (rdev : Option RemoteDev) (state : BtState) : State :=
  { s with reports := s.reports ++ [⟨rdev, state⟩] }

/-- `device_is_child` (a2dp_masterctrl.c:848-866). -/
def deviceIsChild (s : State) (device : Proxy) (master : Adapter) : Bool :=
  decide ((s.props device).adapter = some master.path)

/-- `find_parent` (a2dp_masterctrl.c:885-896). -/
def findParent (s : State) (device : Proxy) : Option Adapter :=
  s.ctrlList.find? (s.deviceIsChild device)

/-- `find_ctrl` (a2dp_masterctrl.c:1237-1249). -/
def findCtrl (s : State) (path : List UInt8) : Option Adapter :=
  s.ctrlList.find? fun a => eqIgnoringCase a.path path

/-- `set_default_device` (a2dp_masterctrl.c:898-932). -/
def setDefaultDevice (s : State) (proxy : Option Proxy) : State :=
  if proxy ≠ none ∧ s.defaultDev ≠ none ∧ s.defaultDev ≠ proxy then s
  else
    match proxy with
    | none => { s with defaultDev := none, defaultAttr := none }
    | some p => { s with defaultDev := some p }

/-- `set_default_attribute` (a2dp_masterctrl.c:1101-1111). -/
def setDefaultAttribute (s : State) (proxy : Option Proxy) : State :=
  { s with defaultAttr := proxy }.setDefaultDevice s.defaultDev

end State

/-! ## Records -/

/-- The record `device_added` makes (a2dp_masterctrl.c:953-995). -/
def RemoteDev.new (proxy : Proxy) (p : DeviceProps) : RemoteDev :=
  let rdev : RemoteDev := { data := proxy, devPath := p.path }
  match p.address with
  | none => rdev
  | some address =>
    { rdev with
      remoteAddress := address
      remoteAddressType := p.addressType.getD []
      remoteAlias := p.aliasName.getD []
      remoteName := p.name.getD []
      rssi := p.rssi.getD 0
      paired := p.paired.getD false
      objPath := p.path }

/-- The record keeps the proxy it is made for. -/
@[simp] theorem RemoteDev.new_data (proxy : Proxy) (p : DeviceProps) :
    (RemoteDev.new proxy p).data = proxy := by
  unfold new
  split <;> rfl

/-- The record takes over the address of the device. -/
theorem RemoteDev.new_remoteAddress {proxy : Proxy} {p : DeviceProps} {addr : BdAddr}
    (h : p.address = some addr) : (RemoteDev.new proxy p).remoteAddress = addr := by
  rw [new, h]

/-- The properties `bt_state_change` copies on every change (a2dp_masterctrl.c:405-429). -/
def RemoteDev.base (rdev : RemoteDev) (p : DeviceProps) : RemoteDev :=
  match p.address with
  | none => rdev
  | some address =>
    { rdev with
      remoteAddress := address
      remoteAddressType := p.addressType.getD rdev.remoteAddressType
      remoteAlias := p.aliasName.getD rdev.remoteAlias
      rssi := p.rssi.getD rdev.rssi }

/-- The row of `remote_uuids` behind the last uuid. -/
def uuidsEnd : List UInt8 := chars "NULL"

/-- The property `change` copied into the record, and the state to report if it is one of
the three that have a state of their own (a2dp_masterctrl.c:431-490). -/
def RemoteDev.copy (rdev : RemoteDev) (p : DeviceProps) (change : List UInt8) :
    RemoteDev × Option BtState :=
  if change = chars "UUIDs" then
    match p.uuids with
    | none => (rdev, none)
    | some us =>
      ({ rdev with remoteUuids := us ++ uuidsEnd :: rdev.remoteUuids.drop (us.length + 1) }, none)
  else if change = chars "Modalias" then
    ({ rdev with modalias := p.modalias.getD rdev.modalias }, none)
  else if change = chars "Class" then ({ rdev with cod := p.cls.getD rdev.cod }, none)
  else if change = chars "Icon" then ({ rdev with icon := p.icon.getD rdev.icon }, none)
  else if change = chars "Paired" then
    match p.paired with
    | none => (rdev, none)
    | some b => ({ rdev with paired := b }, some (if b then .paired else .pairNone))
  else if change = chars "Bonded" then
    match p.bonded with
    | none => (rdev, none)
    | some b => ({ rdev with bonded := b }, some (if b then .bonded else .bondNone))
  else if change = chars "Connected" then
    match p.connected with
    | none => (rdev, none)
    | some b => ({ rdev with connected := b }, some (if b then .connected else .disconn))
  else (rdev, none)

/-- `bt_state_change` on the record it has found: the record afterwards and the state it
reports (a2dp_masterctrl.c:405-500). -/
def RemoteDev.refresh (rdev : RemoteDev) (p : DeviceProps) (change : List UInt8)
    (newState : BtState) : RemoteDev × BtState :=
  let (rdev, state) := (rdev.base p).copy p change
  ({ rdev with changeName := change },
    state.getD (if newState = .none then .scanChgRemoteDev else newState))

/-- What no change of a property touches: the proxy, the paths and the media information. -/
theorem RemoteDev.copy_fixed (rdev : RemoteDev) (p : DeviceProps) (change : List UInt8) :
    (rdev.copy p change).1.data = rdev.data ∧ (rdev.copy p change).1.devPath = rdev.devPath ∧
      (rdev.copy p change).1.media = rdev.media ∧
      (rdev.copy p change).1.remoteAddress = rdev.remoteAddress := by
  unfold copy
  split_ifs <;> first | exact ⟨rfl, rfl, rfl, rfl⟩ | (split <;> exact ⟨rfl, rfl, rfl, rfl⟩)

/-- The base information is neither the proxy nor the path, and holds no media state. -/
theorem RemoteDev.base_fixed (rdev : RemoteDev) (p : DeviceProps) :
    (rdev.base p).data = rdev.data ∧ (rdev.base p).devPath = rdev.devPath ∧
      (rdev.base p).media = rdev.media := by
  unfold base
  split <;> exact ⟨rfl, rfl, rfl⟩

/-- A refresh keeps the proxy of the record. -/
theorem RemoteDev.refresh_data (rdev : RemoteDev) (p : DeviceProps) (change : List UInt8)
    (newState : BtState) : (rdev.refresh p change newState).1.data = rdev.data :=
  (copy_fixed (rdev.base p) p change).1.trans (base_fixed rdev p).1

/-- A refresh keeps the path of the record. -/
theorem RemoteDev.refresh_devPath (rdev : RemoteDev) (p : DeviceProps) (change : List UInt8)
    (newState : BtState) : (rdev.refresh p change newState).1.devPath = rdev.devPath :=
  (copy_fixed (rdev.base p) p change).2.1.trans (base_fixed rdev p).2.1

/-- A refresh leaves what the media events have stored. -/
theorem RemoteDev.refresh_media (rdev : RemoteDev) (p : DeviceProps) (change : List UInt8)
    (newState : BtState) : (rdev.refresh p change newState).1.media = rdev.media :=
  (copy_fixed (rdev.base p) p change).2.2.1.trans (base_fixed rdev p).2.2

/-- A refresh takes over the address. -/
theorem RemoteDev.refresh_remoteAddress {rdev : RemoteDev} {p : DeviceProps} {addr : BdAddr}
    (h : p.address = some addr) (change : List UInt8) (newState : BtState) :
    (rdev.refresh p change newState).1.remoteAddress = addr := by
  refine (copy_fixed (rdev.base p) p change).2.2.2.trans ?_
  rw [base, h]

namespace State

/-- `bt_state_change` once `default_ctrl` has been read (a2dp_masterctrl.c:387-500). -/
def changeRecord (s : State) (ctrl : Adapter) (proxy : Proxy) (change : List UInt8)
    (newState : BtState) : State :=
  match ctrl.appDevs.find? (fun r => r.data = proxy) with
  | none => s
  | some rdev =>
    let (rdev', state) := rdev.refresh (s.props proxy) change newState
    (s.updateAdapter ctrl.id fun a =>
      { a with appDevs := FirstMatch.update (fun r => r.data = proxy) (fun _ => rdev') a.appDevs
      }).btStateSend (some rdev') state

/-- `bt_state_change` (a2dp_masterctrl.c:373-501); `none` is its use of a `default_ctrl` that
is NULL. -/
def btStateChange (s : State) (proxy : Proxy) (change : List UInt8) (newState : BtState) :
    Option State :=
  s.defaultAdapter.map fun ctrl => s.changeRecord ctrl proxy change newState

/-- `bt_get_devices` (a2dp_masterctrl.c:331-365); `none` is the return value -1. -/
def btGetDevices (s : State) : Option (List RemoteDev) := s.defaultAdapter.map Adapter.appDevs

/-! ## Devices -/

/-- `device_added` (a2dp_masterctrl.c:934-1020). -/
def deviceAdded (s : State) (proxy : Proxy) : State :=
  match s.findParent proxy with
  | none => s
  | some adapter =>
    let rdev := RemoteDev.new proxy (s.props proxy)
    let s := s.updateAdapter adapter.id fun a =>
      { a with devices := a.devices ++ [proxy], appDevs := a.appDevs ++ [rdev] }
    match (s.props proxy).connected with
    | none => s
    | some connected =>
      let s := if connected ∧ s.defaultDev = none then s.setDefaultDevice (some proxy) else s
      if connected ∧ s.defaultDev = none then
        let rdev := { rdev with connected := connected, changeName := chars "Connected" }
        (s.updateAdapter adapter.id fun a =>
          { a with appDevs := a.appDevs.dropLast ++ [rdev] }).btStateSend (some rdev) .connected
      else s.btStateSend (some rdev) .scanNewRemoteDev

/-- The test with which `device_removed` looks for the record of `addr`. -/
def hasAddress (addr : BdAddr) (rdev : RemoteDev) : Bool := eqFirst 17 rdev.remoteAddress addr

/-- The record `device_removed` deletes, and what it reports (a2dp_masterctrl.c:1128-1150). -/
def dropRecord (s : State) (adapter : Adapter) (addr : BdAddr) : State :=
  match FirstMatch.stop (hasAddress addr) adapter.appDevs with
  | none => s
  | some i =>
    let rdev := adapter.appDevs[i]?
    let deleted := rdev.any RemoteDev.paired
    (s.updateAdapter adapter.id fun a => { a with appDevs := a.appDevs.eraseIdx i }).btStateSend
      rdev (if deleted then .delDevOk else .scanDelRemoteDev)

/-- `device_removed` (a2dp_masterctrl.c:1113-1158). -/
def deviceRemoved (s : State) (proxy : Proxy) : State :=
  match s.findParent proxy with
  | none => s
  | some adapter =>
    let s := s.updateAdapter adapter.id fun a => { a with devices := a.devices.erase proxy }
    let s :=
      match (s.props proxy).address with
      | none => s
      | some addr => s.dropRecord adapter addr
    if s.defaultDev = some proxy then s.setDefaultDevice none else s

/-! ## Adapters -/

/-- `adapter_new` (a2dp_masterctrl.c:1024-1034), with the proxy that its caller sets. -/
def adapterNew (s : State) (proxy : Proxy) (path : List UInt8) : State :=
  { s with
    ctrlList := s.ctrlList ++ [{ id := s.fresh, proxy := proxy, path := path }]
    defaultCtrl := some (s.defaultCtrl.getD s.fresh)
    fresh := s.fresh + 1 }

/-- `adapter_added` (a2dp_masterctrl.c:1036-1048). -/
def adapterAdded (s : State) (proxy : Proxy) (path : List UInt8) : State :=
  match s.findCtrl path with
  | none => s.adapterNew proxy path
  | some adapter => s.updateAdapter adapter.id fun a => { a with proxy := proxy, path := path }

/-- `adapter_removed` (a2dp_masterctrl.c:1160-1189). -/
def adapterRemoved (s : State) (proxy : Proxy) : State :=
  if s.ctrlList.any fun a => a.proxy = proxy then
    let s :=
      if s.defaultAdapter.any fun a => a.proxy = proxy then
        { s with defaultCtrl := none }.setDefaultDevice none
      else s
    { s with ctrlList := s.ctrlList.eraseP fun a => a.proxy = proxy }
  else s

end State

/-! ## Changes of properties -/

/-- The names of the properties with a constructor of their own in `Change`. -/
def changeNames : List (List UInt8) :=
  ["Address", "AddressType", "Alias", "Name", "RSSI", "UUIDs", "Modalias", "Class", "Icon",
    "Paired", "Bonded", "Connected"].map chars

/-- A change of one property of a device, with its new value; RSSI can also go away.
`other` is a change of any property that no function here reads. -/
inductive Change
  | address (a : BdAddr)
  | addressType (t : List UInt8)
  | aliasName (t : List UInt8)
  | name (t : List UInt8)
  | rssi (v : Option Int)
  | uuids (us : List (List UInt8))
  | modalias (t : List UInt8)
  | cls (n : Nat)
  | icon (t : List UInt8)
  | paired (b : Bool)
  | bonded (b : Bool)
  | connected (b : Bool)
  | other (key : {t : List UInt8 // t ∉ changeNames})

/-- The name the handler is called with. -/
def Change.key : Change → List UInt8
  | .address _ => chars "Address"
  | .addressType _ => chars "AddressType"
  | .aliasName _ => chars "Alias"
  | .name _ => chars "Name"
  | .rssi _ => chars "RSSI"
  | .uuids _ => chars "UUIDs"
  | .modalias _ => chars "Modalias"
  | .cls _ => chars "Class"
  | .icon _ => chars "Icon"
  | .paired _ => chars "Paired"
  | .bonded _ => chars "Bonded"
  | .connected _ => chars "Connected"
  | .other key => key

/-- The cached properties after the change. -/
def Change.apply (p : DeviceProps) : Change → DeviceProps
  | .address a => { p with address := some a }
  | .addressType t => { p with addressType := some t }
  | .aliasName t => { p with aliasName := some t }
  | .name t => { p with name := some t }
  | .rssi v => { p with rssi := v }
  | .uuids us => { p with uuids := some us }
  | .modalias t => { p with modalias := some t }
  | .cls n => { p with cls := some n }
  | .icon t => { p with icon := some t }
  | .paired b => { p with paired := some b }
  | .bonded b => { p with bonded := some b }
  | .connected b => { p with connected := some b }
  | .other _ => p

/-- The change is one of the address. -/
def Change.isAddress : Change → Bool
  | .address _ => true
  | _ => false

/-- No property change moves a device to another adapter. -/
@[simp] theorem Change.apply_adapter (p : DeviceProps) (change : Change) :
    (change.apply p).adapter = p.adapter := by
  cases change <;> rfl

/-- Only a change of the address changes it. -/
theorem Change.apply_address (p : DeviceProps) (change : Change) :
    (∃ a, change = .address a ∧ (change.apply p).address = some a) ∨
      (change.apply p).address = p.address := by
  cases change with
  | address a => exact .inl ⟨a, rfl, rfl⟩
  | _ => exact .inr rfl

namespace State

/-- What `property_changed` does with the default device (a2dp_masterctrl.c:1277-1287). -/
def followConnected (s : State) (proxy : Proxy) : Change → State
  | .connected true => if s.defaultDev = none then s.setDefaultDevice (some proxy) else s
  | .connected false => if s.defaultDev = some proxy then s.setDefaultDevice none else s
  | _ => s

/-- `property_changed` for a device (a2dp_masterctrl.c:1251-1295). -/
def propertyChanged (s : State) (proxy : Proxy) (change : Change) : State :=
  match s.defaultAdapter with
  | none => s
  | some ctrl =>
    if s.deviceIsChild proxy ctrl then
      (s.followConnected proxy change).changeRecord ctrl proxy change.key .none
    else s

/-! ## Replies -/

/-- `connect_by_address_reply` (a2dp_masterctrl.c:2311-2334), with the message of an error. -/
def connectByAddressReply (s : State) (proxy : Proxy) : Option (List UInt8) → Option State
  | some message => s.btStateChange proxy (chars "Failed to connect: " ++ message) .connectFailed
  | none => some ((s.btStateSend none .commandRespOk).setDefaultDevice (some proxy))

/-- `disconn_reply` (a2dp_masterctrl.c:2062-2112). The error is printed after it has been
freed, when its name and message are NULL. -/
def disconnReply (s : State) (proxy : Proxy) (failed : Bool) : Option State :=
  if failed then
    s.btStateChange proxy (chars "Failed to disconnect device: (null):(null)") .disconnFailed
  else
    let s := s.btStateSend none .commandRespOk
    some (if s.defaultDev = some proxy then s.setDefaultDevice none else s)

end State

end ConnectApp.Bluez
