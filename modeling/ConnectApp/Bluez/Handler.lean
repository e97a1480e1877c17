import ConnectApp.Bluez.GattClient
import ConnectApp.Bluez.Request

/-!
# The handlers (a2dp_masterctrl.c:1754-1971, 2114-2509, gatt_config.c:1074-1150)

Each handler looks at the device lists or at the table of the local GATT services, makes
D-Bus calls and reports a state to the application. Its return value tells the main loop
whether to run it again. `Request.handle` is the handler of a request with what it has found
in its buffer.

Of all handlers only two can return something other than 0: `gatt_write_data` when no
characteristic has the uuid, and `pair_by_addr` when the call of `Pair` cannot be made
(`handle_ret_iff`). Such a handler is run again and again, and the requests behind it wait.
-/

namespace ConnectApp.Bluez

open CString

/-- The D-Bus methods the handlers call. -/
inductive Method
  | connect
  | disconnect
  | pair
  | removeDevice
  | startDiscovery
  | stopDiscovery
  deriving DecidableEq

/-- A local characteristic (gatt_config.c:96-109): its uuid and its value. -/
structure Chrc where
  uuid : List UInt8
  value : List UInt8
  deriving DecidableEq

/-- What a handler finds: the device lists; the local services with their characteristics
(`gatt_service_instance`); whether the profile includes BLE; whether a D-Bus call of a method
on a device or adapter can be made (the result of `g_dbus_proxy_method_call`); whether the
routine of a client operation fails; for `bluetooth_open`, whether there is a D-Bus client and
the table `gatt_init` makes; for `_bluetooth_close`, the state in which giving up the client
leaves the lists; and what stands outside of the buffers. -/
structure World where
  state : State
  table : List (List Chrc)
  profileBle : Bool
  accepts : Method → Proxy → Bool
  routineFails : Bool
  clientMade : Bool
  created : List (List Chrc)
  released : State
  stray : Stray

/-- What a handler sets off. -/
inductive Effect
  | call (method : Method) (proxy : Proxy)
  | discoveryFilter (transport : List UInt8)
  | advertise (enable : Bool)
  | routine (op : ClientOp) (attr : Option Proxy) (data : List UInt8)
  | message (text : List UInt8) (error : ClientError)
  deriving DecidableEq

/-- The return value of a handler and what it leaves behind. -/
structure Outcome where
  ret : Int
  state : State
  table : List (List Chrc)
  effects : List Effect

namespace World

/-- An outcome that leaves the state. -/
def returns (w : World) (ret : Int) (effects : List Effect) : Outcome :=
  ⟨ret, w.state, w.table, effects⟩

/-- `bt_state_send(NULL, state)` and `return false`. -/
def sends (w : World) (state : BtState) : Outcome :=
  ⟨0, w.state.btStateSend none state, w.table, []⟩

/-- A D-Bus call, if it can be made. -/
def calls (w : World) (method : Method) (proxy : Proxy) : List Effect :=
  if w.accepts method proxy then [.call method proxy] else []

/-! ## Devices -/

/-- `find_device_by_address` with an address of 17 characters, as all handlers call it
(a2dp_masterctrl.c:1429-1446, 1852-1873). -/
def findDeviceByAddress (w : World) (address : List UInt8) : Option Proxy :=
  w.state.defaultAdapter.bind fun ctrl =>
    ctrl.devices.find? fun d =>
      (w.state.props d).address.any fun a => eqIgnoringCase a address

/-- `cmd_pair` (a2dp_masterctrl.c:1911-1924). -/
def cmdPair (w : World) (proxy : Proxy) : Outcome :=
  if w.accepts .pair proxy then w.returns 0 [.call .pair proxy] else w.returns (-1) []

/-- `remove_device` (a2dp_masterctrl.c:1951-1971). -/
def removeDevice (w : World) (proxy : Proxy) : Outcome :=
  if w.state.defaultAdapter.isNone then w.returns 0 []
  else w.returns 0 (w.calls .removeDevice proxy)

/-- `disconnect_by_proxy` (a2dp_masterctrl.c:2194-2210). -/
def disconnectByProxy (w : World) (proxy : Proxy) : Outcome :=
  w.returns 0 (w.calls .disconnect proxy)

/-- `_bt_remove_by_address` (a2dp_masterctrl.c:2212-2245). -/
def btRemoveByAddress (w : World) (address : List UInt8) : Outcome :=
  match w.state.defaultAdapter with
  | none => w.returns 0 []
  | some ctrl =>
    if address = chars "*" then
      w.returns 0 (ctrl.devices.flatMap fun d => (w.removeDevice d).effects)
    else if address.length ≠ 17 then w.returns 0 []
    else
      match w.findDeviceByAddress address with
      | none => w.returns 0 []
      | some proxy => w.removeDevice proxy

/-- `disconnect_current_devices` (a2dp_masterctrl.c:2247-2255). -/
def disconnectCurrentDevices (w : World) : Outcome :=
  match w.state.defaultDev with
  | none => w.returns 0 []
  | some proxy => w.disconnectByProxy proxy

/-- `connect_by_address` (a2dp_masterctrl.c:2336-2374). -/
def connectByAddress (w : World) (address : List UInt8) : Outcome :=
  if address.length ≠ 17 then w.sends .connectFailedInvaildAddr
  else
    match w.findDeviceByAddress address with
    | none => w.sends .connectFailedNoFoundDevice
    | some proxy =>
      if (w.state.props proxy).connected = some true then w.sends .connectedAlready
      else w.returns 0 (w.calls .connect proxy)

/-- `_bt_disconnect_by_address` (a2dp_masterctrl.c:2376-2407). -/
def btDisconnectByAddress (w : World) (address : List UInt8) : Outcome :=
  if address.length ≠ 17 then w.sends .disconnFailed
  else
    match w.findDeviceByAddress address with
    | none => w.sends .disconnFailed
    | some proxy =>
      if (w.state.props proxy).connected = some false then w.sends .disconnAlready
      else w.disconnectByProxy proxy

/-- `pair_by_addr` (a2dp_masterctrl.c:2409-2426). -/
def pairByAddr (w : World) (address : List UInt8) : Outcome :=
  if address.length ≠ 17 then w.returns 0 []
  else
    match w.findDeviceByAddress address with
    | none => w.returns 0 []
    | some proxy => w.cmdPair proxy

/-- `unpair_by_addr` (a2dp_masterctrl.c:2428-2449). -/
def unpairByAddr (w : World) (address : List UInt8) : Outcome :=
  if address.length ≠ 17 then w.sends .delDevFailed
  else
    match w.findDeviceByAddress address with
    | none => w.sends .delDevFailed
    | some proxy => w.removeDevice proxy

/-! ## Discovery -/

/-- The text for `filter.transport` (a2dp_masterctrl.c:1773-1785). -/
def transport : ScanType → List UInt8
  | .bredr => chars "bredr"
  | .le => chars "le"
  | .auto | .other _ => chars "auto"

/-- `reomve_unpaired_device` (a2dp_masterctrl.c:2451-2485). -/
def reomveUnpairedDevice (w : World) : List Effect :=
  match w.state.defaultAdapter with
  | none => []
  | some ctrl =>
    (ctrl.devices.filter fun d =>
      !((w.state.props d).paired.getD false || (w.state.props d).connected.getD false)).flatMap
        fun d => (w.removeDevice d).effects

/-- `bt_start_discovery` with `cmd_scan("on", ..)`, whose result it ignores
(a2dp_masterctrl.c:1754-1810, 2488-2500). -/
def btStartDiscovery (w : World) (scanType : ScanType) : Outcome :=
  match w.state.defaultAdapter with
  | none => w.returns 0 []
  | some ctrl =>
    w.returns 0 (w.reomveUnpairedDevice ++ .discoveryFilter (transport scanType) ::
      w.calls .startDiscovery ctrl.proxy)

/-- `bt_cancel_discovery` with `cmd_scan("off", 0)` (a2dp_masterctrl.c:2502-2509). -/
def btCancelDiscovery (w : World) : Outcome :=
  match w.state.defaultAdapter with
  | none => w.returns 0 []
  | some ctrl => w.returns 0 (w.calls .stopDiscovery ctrl.proxy)

/-! ## Advertising and attributes -/

/-- `ble_enable_adv` and `ble_disable_adv` (gatt_config.c:1123-1150). -/
def bleAdv (w : World) (enable : Bool) : Outcome :=
  if w.profileBle then w.returns 0 [.advertise enable] else w.returns 0 []

/-- `gatt_client_read` and `gatt_client_write`, which always return false
(gatt_client.c:77-137). -/
def gattClient (w : World) (op : ClientOp) (uuid data : List UInt8) : Outcome :=
  let r := State.clientOperation op w.state uuid w.routineFails
  ⟨0, r.state, w.table,
    (r.routine.toList.map fun attr => .routine op attr data) ++
      r.message.toList.map fun m => .message m.1 m.2⟩

/-- The comparison of `gatt_write_data`. -/
def hasUuid (uuid : List UInt8) (c : Chrc) : Bool := eqFirst 36 c.uuid uuid

/-- The table with the value of the first characteristic that has the uuid. -/
def writeFirst (uuid value : List UInt8) : List (List Chrc) → Option (List (List Chrc))
  | [] => none
  | chrs :: rest =>
    if chrs.any (hasUuid uuid) then
      some (FirstMatch.update (hasUuid uuid) (fun c => { c with value := value }) chrs :: rest)
    else (writeFirst uuid value rest).map (chrs :: ·)

/-- `gatt_write_data` (gatt_config.c:1074-1119); `data` are the bytes of `ble_cfg.data`, of
which it writes 244. -/
def gattWriteData (w : World) (uuid data : List UInt8) : Outcome :=
  match writeFirst uuid (data.take 244) w.table with
  | none => w.returns (-1) []
  | some table => ⟨0, w.state, table, []⟩

/-! ## Opening and closing -/

/-- `bluetooth_open` (a2dp_masterctrl.c:2114-2152). -/
def bluetoothOpen (w : World) : Outcome :=
  let s := { w.state with
    ctrlList := [], defaultCtrl := none, defaultDev := none, defaultAttr := none }
  if w.clientMade ∧ w.profileBle then ⟨0, s, w.created, []⟩ else ⟨0, s, w.table, []⟩

/-- `_bluetooth_close` (a2dp_masterctrl.c:2172-2187). -/
def bluetoothClose (w : World) : Outcome := ⟨0, w.released, [], []⟩

end World

/-- The handler of a request, with the arguments it finds; `gatt_write_data` reads the bytes
from the record itself. -/
def Request.handle (w : World) (m : Memory) : Request → Outcome
  | .byAddress .con address => w.connectByAddress address
  | .byAddress .dis address => w.btDisconnectByAddress address
  | .byAddress .pair address => w.pairByAddr address
  | .byAddress .unpair address => w.unpairByAddr address
  | .byAddress .del address => w.btRemoveByAddress address
  | .disconnectCurrentDevices _ => w.disconnectCurrentDevices
  | .gattClientRead uuid => w.gattClient .read uuid []
  | .gattClientWrite uuid data => w.gattClient .write uuid data
  | .gattWriteData uuid _ => w.gattWriteData uuid m.bleCfg.data
  | .btStartDiscovery scanType => w.btStartDiscovery scanType
  | .btCancelDiscovery => w.btCancelDiscovery
  | .bleEnableAdv => w.bleAdv true
  | .bleDisableAdv => w.bleAdv false
  | .bluetoothOpen => w.bluetoothOpen
  | .bluetoothClose => w.bluetoothClose

/-! ## Return values -/

namespace World

theorem removeDevice_ret (w : World) (proxy : Proxy) : (w.removeDevice proxy).ret = 0 := by
  unfold removeDevice
  split_ifs <;> rfl

theorem btRemoveByAddress_ret (w : World) (address : List UInt8) :
    (w.btRemoveByAddress address).ret = 0 := by
  unfold btRemoveByAddress
  split
  · rfl
  · split_ifs
    · rfl
    · rfl
    · split
      · rfl
      · exact w.removeDevice_ret _

theorem connectByAddress_ret (w : World) (address : List UInt8) :
    (w.connectByAddress address).ret = 0 := by
  unfold connectByAddress
  split_ifs
  · rfl
  · split
    · rfl
    · split_ifs <;> rfl

theorem btDisconnectByAddress_ret (w : World) (address : List UInt8) :
    (w.btDisconnectByAddress address).ret = 0 := by
  unfold btDisconnectByAddress
  split_ifs
  · rfl
  · split
    · rfl
    · split_ifs <;> rfl

theorem unpairByAddr_ret (w : World) (address : List UInt8) : (w.unpairByAddr address).ret = 0 := by
  unfold unpairByAddr
  split_ifs
  · rfl
  · split
    · rfl
    · exact w.removeDevice_ret _

theorem disconnectCurrentDevices_ret (w : World) : w.disconnectCurrentDevices.ret = 0 := by
  unfold disconnectCurrentDevices
  split <;> rfl

theorem btStartDiscovery_ret (w : World) (scanType : ScanType) :
    (w.btStartDiscovery scanType).ret = 0 := by
  unfold btStartDiscovery
  split <;> rfl

theorem btCancelDiscovery_ret (w : World) : w.btCancelDiscovery.ret = 0 := by
  unfold btCancelDiscovery
  split <;> rfl

theorem bleAdv_ret (w : World) (enable : Bool) : (w.bleAdv enable).ret = 0 := by
  unfold bleAdv
  split_ifs <;> rfl

theorem bluetoothOpen_ret (w : World) : w.bluetoothOpen.ret = 0 := by
  unfold bluetoothOpen
  dsimp only
  split_ifs <;> rfl

/-- `pair_by_addr` passes on the -1 of `cmd_pair`. -/
theorem pairByAddr_ret_iff (w : World) (address : List UInt8) :
    (w.pairByAddr address).ret = 0 ↔
      (address.length = 17 → ∀ d ∈ w.findDeviceByAddress address, w.accepts .pair d = true) := by
  unfold pairByAddr
  split_ifs with hlength
  · exact iff_of_true rfl fun h => absurd h hlength
  · cases w.findDeviceByAddress address with
    | none => exact iff_of_true rfl fun _ d hd => nomatch hd
    | some proxy =>
      show (w.cmdPair proxy).ret = 0 ↔ _
      unfold cmdPair
      split_ifs with haccepts
      · refine iff_of_true rfl fun _ d hd => ?_
        rw [← Option.some.inj hd]
        exact haccepts
      · refine iff_of_false (show (-1 : Int) ≠ 0 by decide) fun h => haccepts ?_
        exact h (not_not.mp hlength) proxy rfl

/-- The loops find no characteristic exactly if there is none with the UUID. -/
theorem writeFirst_eq_none_iff {uuid value : List UInt8} {table : List (List Chrc)} :
    writeFirst uuid value table = none ↔ ∀ chrs ∈ table, ∀ c ∈ chrs, hasUuid uuid c = false := by
  induction table with
  | nil => exact iff_of_true rfl nofun
  | cons chrs rest ih =>
    rw [writeFirst, List.forall_mem_cons]
    split_ifs with hany
    · refine iff_of_false not_false fun h => ?_
      obtain ⟨c, hc, hcu⟩ := List.any_eq_true.mp hany
      exact Bool.false_ne_true ((h.1 c hc).symm.trans hcu)
    · rw [Option.map_eq_none_iff, ih, iff_and_self]
      intro _ c hc
      exact Bool.eq_false_iff.mpr fun hcu => hany (List.any_eq_true.mpr ⟨c, hc, hcu⟩)

/-- `gatt_write_data` returns 0 exactly if it has found the characteristic. -/
theorem gattWriteData_ret_iff (w : World) (uuid data : List UInt8) :
    (w.gattWriteData uuid data).ret = 0 ↔ ∃ chrs ∈ w.table, ∃ c ∈ chrs, hasUuid uuid c = true := by
  unfold gattWriteData
  cases hwrite : writeFirst uuid (data.take 244) w.table with
  | none =>
    refine iff_of_false (show (-1 : Int) ≠ 0 by decide) ?_
    rintro ⟨chrs, hchrs, c, hc, hcu⟩
    exact Bool.false_ne_true ((writeFirst_eq_none_iff.mp hwrite chrs hchrs c hc).symm.trans hcu)
  | some table =>
    refine iff_of_true rfl ?_
    by_contra hnone
    refine Option.some_ne_none table (hwrite.symm.trans (writeFirst_eq_none_iff.mpr ?_))
    intro chrs hchrs c hc
    exact Bool.eq_false_iff.mpr fun hcu => hnone ⟨chrs, hchrs, c, hc, hcu⟩

end World

/-- What the handler of a request needs to be done with it: a characteristic with the uuid of
a notification; for an address of 17 characters that belongs to a device, that the call of
`Pair` can be made. -/
def Request.Answerable (w : World) : Request → Prop
  | .gattWriteData uuid _ => ∃ chrs ∈ w.table, ∃ c ∈ chrs, World.hasUuid uuid c = true
  | .byAddress .pair address =>
    address.1.length = 17 → ∀ d ∈ w.findDeviceByAddress address, w.accepts .pair d = true
  | _ => True

/-- **Return values.** -/
theorem Request.handle_ret_iff (w : World) (m : Memory) (r : Request) :
    (r.handle w m).ret = 0 ↔ r.Answerable w := by
  cases r with
  | byAddress kind address =>
    cases kind with
    | con => exact iff_of_true (w.connectByAddress_ret address) trivial
    | dis => exact iff_of_true (w.btDisconnectByAddress_ret address) trivial
    | pair => exact w.pairByAddr_ret_iff address
    | unpair => exact iff_of_true (w.unpairByAddr_ret address) trivial
    | del => exact iff_of_true (w.btRemoveByAddress_ret address) trivial
  | disconnectCurrentDevices address =>
    exact iff_of_true w.disconnectCurrentDevices_ret trivial
  | gattWriteData uuid data => exact w.gattWriteData_ret_iff uuid m.bleCfg.data
  | btStartDiscovery scanType => exact iff_of_true (w.btStartDiscovery_ret scanType) trivial
  | btCancelDiscovery => exact iff_of_true w.btCancelDiscovery_ret trivial
  | bleEnableAdv => exact iff_of_true (w.bleAdv_ret true) trivial
  | bleDisableAdv => exact iff_of_true (w.bleAdv_ret false) trivial
  | bluetoothOpen => exact iff_of_true w.bluetoothOpen_ret trivial
  | gattClientRead | gattClientWrite | bluetoothClose => exact iff_of_true rfl trivial

/-- The world after `bluetooth_open`. -/
def World.opened : World where
  state := State.opened
  table := []
  profileBle := true
  accepts := fun _ _ => true
  routineFails := false
  clientMade := true
  created := []
  released := State.opened
  stray := ⟨⟨[], List.not_mem_nil⟩, [], .auto⟩

end ConnectApp.Bluez
