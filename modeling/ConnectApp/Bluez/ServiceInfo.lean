import ConnectApp.Bluez.Device
import ConnectApp.Lib.Checked

/-!
# The services of a connected device (gatt.c:2453-2725, gatt_client.c:44-62)

`gatt_client_get_service_info` fills a structure of fixed arrays with the services of a device,
their characteristics and the descriptors of those. It finds them in the lists of all proxies by
their object paths: what stands below the path of the device, and below that.

No index is compared with the size of its array. Here an entry behind the end of an array ends the
model's run (`none`), and so does a uuid without a name, whose text the functions take the length
of. `eleven_services_overflow` is a device with eleven services; `ServiceTree` tells for which
devices the functions stay inside, and what they collect.
-/

namespace ConnectApp.Bluez

open CString Checked

/-! ## The structure -/

/-- `SERVICE_COUNT_MAX` (RkBleClient.h:15). -/
def serviceCountMax : Nat := 10

/-- `CHRC_COUNT_MAX` (RkBleClient.h:16). -/
def chrcCountMax : Nat := 20

/-- `DESC_COUNT_MAX` (RkBleClient.h:17). -/
def descCountMax : Nat := 5

/-- `DESCRIBE_BUG_LEN` (RkBleClient.h:10). -/
def describeBugLen : Nat := 50

/-- `PATH_BUF_LEN` (RkBleClient.h:11). -/
def pathBufLen : Nat := 70

/-- `UUID_BUF_LEN` (RkBleClient.h:12). -/
def uuidBufLen : Nat := 40

/-- `RK_BLE_CLIENT_DESC` (RkBleClient.h:71-75). -/
structure ClientDesc where
  describe : List UInt8
  path : List UInt8
  uuid : List UInt8
  deriving DecidableEq

/-- `RK_BLE_CLIENT_CHRC` (RkBleClient.h:77-87), with the first `desc_cnt` entries of `desc`. -/
structure ClientChrc where
  describe : List UInt8
  path : List UInt8
  uuid : List UInt8
  props : Nat
  extProps : Nat
  perm : Nat
  notifying : Bool
  descs : List ClientDesc := []
  deriving DecidableEq

/-- `RK_BLE_CLIENT_SERVICE` (RkBleClient.h:89-95), with the first `chrc_cnt` entries of `chrc`. -/
structure ClientService where
  describe : List UInt8
  path : List UInt8
  uuid : List UInt8
  chrcs : List ClientChrc := []
  deriving DecidableEq

/-- `RK_BLE_CLIENT_SERVICE_INFO` (RkBleClient.h:97-100): the first `service_cnt` entries of
`service`. The others are zero. -/
abbrev ServiceInfo := List ClientService

/-- A field of `n` bytes that was zero, after `strncpy` with the length of the text or `n`. -/
def fill (n : Nat) (text : List UInt8) : List UInt8 :=
  memcpy (text.take n) (List.replicate n 0)

/-- What `g_str_has_prefix` takes for the path of a service. A path without a NUL in its field runs
on into the uuid, and from there into `chrc_cnt`. -/
def ClientService.pathText (s : ClientService) : List UInt8 :=
  cstr (s.path ++ s.uuid ++ [UInt8.ofNat s.chrcs.length, 0])

/-- The same for a characteristic, where `props` follows, of which one byte is used. -/
def ClientChrc.pathText (c : ClientChrc) : List UInt8 :=
  cstr (c.path ++ c.uuid ++ [UInt8.ofNat c.props, 0])

/-! ## Flags -/

/-- The values that `gatt_parse_flags` writes. -/
structure AttBits where
  props : Nat := 0
  extProps : Nat := 0
  perm : Nat := 0
  deriving DecidableEq

/-- The bits for a flag (gatt.c:2492-2541, RkBleClient.h:24-62). -/
def chrcFlags : List (List UInt8 × AttBits) :=
  [(chars "broadcast", ⟨0x01, 0, 0⟩),
    (chars "read", ⟨0x02, 0, 0x01⟩),
    (chars "write-without-response", ⟨0x04, 0, 0x02⟩),
    (chars "write", ⟨0x08, 0, 0x02⟩),
    (chars "notify", ⟨0x10, 0, 0⟩),
    (chars "indicate", ⟨0x20, 0, 0⟩),
    (chars "authenticated-signed-writes", ⟨0x40, 0, 0x02⟩),
    (chars "reliable-write", ⟨0, 0x01, 0x02⟩),
    (chars "writable-auxiliaries", ⟨0, 0x02, 0⟩),
    (chars "encrypt-read", ⟨0x02, 0x04, 0x01 ||| 0x04⟩),
    (chars "encrypt-write", ⟨0x08, 0x08, 0x02 ||| 0x08⟩),
    (chars "encrypt-authenticated-read", ⟨0x02, 0x10, 0x01 ||| 0x10⟩),
    (chars "encrypt-authenticated-write", ⟨0x08, 0x20, 0x02 ||| 0x20⟩),
    (chars "secure-read", ⟨0x02, 0x10, 0x01 ||| 0x0100⟩),
    (chars "secure-write", ⟨0x08, 0x20, 0x02 ||| 0x0200⟩),
    (chars "authorize", ⟨0, 0, 0⟩)]

/-- `gatt_parse_chrc_flags` (gatt.c:2477-2549). An unknown flag ends it. -/
def gattParseChrcFlags (bits : AttBits) : List (List UInt8) → AttBits
  | [] => if bits.extProps ≠ 0 then { bits with props := bits.props ||| 0x80 } else bits
  | flag :: flags =>
    match chrcFlags.lookup flag with
    | none => bits
    | some b =>
      gattParseChrcFlags
        ⟨bits.props ||| b.props, bits.extProps ||| b.extProps, bits.perm ||| b.perm⟩ flags

/-- The properties of a characteristic's proxy that only end up in its entry. -/
structure ChrcProps where
  notifying : Option Bool
  flags : Option (List (List UInt8))

/-- `gatt_parse_flags` for a characteristic (gatt.c:2592-2613). -/
def gattParseFlags (p : ChrcProps) : AttBits :=
  match p.flags with
  | none => {}
  | some flags => gattParseChrcFlags {} flags

/-! ## Collecting -/

section

variable (btUuidstrToStr : List UInt8 → Option (List UInt8)) (chrcProps : Proxy → ChrcProps)

/-- The fields that `get_service_proxy` writes; `text` is the name of the uuid. -/
def newService (a : Attribute) (uuid text : List UInt8) : ClientService where
  describe := fill describeBugLen text
  path := fill pathBufLen a.path
  uuid := fill uuidBufLen uuid

/-- The fields that `get_characteristic` writes. -/
def newChrc (a : Attribute) (uuid text : List UInt8) : ClientChrc where
  describe := fill describeBugLen text
  path := fill pathBufLen a.path
  uuid := fill uuidBufLen uuid
  props := (gattParseFlags (chrcProps a.proxy)).props
  extProps := (gattParseFlags (chrcProps a.proxy)).extProps
  perm := (gattParseFlags (chrcProps a.proxy)).perm
  notifying := (chrcProps a.proxy).notifying.getD false

/-- The fields that `get_descriptor` writes. -/
def newDesc (a : Attribute) (uuid text : List UInt8) : ClientDesc where
  describe := fill describeBugLen text
  path := fill pathBufLen a.path
  uuid := fill uuidBufLen uuid

/-- `get_service_proxy` (gatt.c:2453-2475). `bt_uuidstr_to_str` (util.c:852-891) gives NULL for
some texts that are no uuid. -/
def getServiceProxy (a : Attribute) (info : ServiceInfo) : Option ServiceInfo :=
  match a.uuid with
  | none => some info
  | some uuid =>
    (btUuidstrToStr uuid).bind fun text => put serviceCountMax (newService a uuid text) info

/-- `get_characteristic` (gatt.c:2615-2652): an entry in every service whose path fits. -/
def getCharacteristic (a : Attribute) (info : ServiceInfo) : Option ServiceInfo :=
  match a.uuid with
  | none => some info
  | some uuid =>
    info.mapM fun s =>
      if s.pathText.isPrefixOf a.path then
        (btUuidstrToStr uuid).bind fun text =>
          (put chrcCountMax (newChrc chrcProps a uuid text) s.chrcs).map
            fun cs => { s with chrcs := cs }
      else some s

/-- `get_descriptor` (gatt.c:2654-2695): an entry in the first characteristic whose path fits, of
the first service whose path does. -/
def getDescriptor (a : Attribute) (info : ServiceInfo) : Option ServiceInfo :=
  match a.uuid with
  | none => some info
  | some uuid =>
    updateM (fun s => s.pathText.isPrefixOf a.path)
      (fun s =>
        (updateM (fun c => c.pathText.isPrefixOf a.path)
          (fun c =>
            (btUuidstrToStr uuid).bind fun text =>
              (put descCountMax (newDesc a uuid text) c.descs).map fun ds => { c with descs := ds })
          s.chrcs).map fun cs => { s with chrcs := cs })
      info

/-- The loop of `get_list_attributes` (gatt.c:2697-2720) over one of the three lists; `visit` is
what it does there with a proxy below `path`. -/
def getListAttributes (path : List UInt8) (source : List Attribute)
    (visit : Attribute → ServiceInfo → Option ServiceInfo) (info : ServiceInfo) :
    Option ServiceInfo :=
  (source.filter fun a => path.isPrefixOf a.path).foldlM (fun info a => visit a info) info

/-- A characteristic, and the descriptors below it. -/
def visitCharacteristic (s : State) (a : Attribute) (info : ServiceInfo) : Option ServiceInfo :=
  (getCharacteristic btUuidstrToStr chrcProps a info).bind
    (getListAttributes a.path s.descriptors (getDescriptor btUuidstrToStr))

/-- A service, and the characteristics below it. -/
def visitService (s : State) (a : Attribute) (info : ServiceInfo) : Option ServiceInfo :=
  (getServiceProxy btUuidstrToStr a info).bind
    (getListAttributes a.path s.characteristics (visitCharacteristic btUuidstrToStr chrcProps s))

/-- `gatt_get_list_attributes` (gatt.c:2722-2725). -/
def gattGetListAttributes (s : State) (path : List UInt8) (info : ServiceInfo) :
    Option ServiceInfo :=
  getListAttributes path s.services (visitService btUuidstrToStr chrcProps s) info

/-- `find_device_by_address` (a2dp_masterctrl.c:1429-1446, 1852-1873). -/
def State.findDeviceByAddress (s : State) (address : List UInt8) : Option Proxy :=
  if address.length ≠ 17 then s.defaultDev
  else
    s.defaultAdapter.bind fun ctrl =>
      ctrl.devices.find? fun d => (s.props d).address.any fun a => eqIgnoringCase a address

/-- `gatt_client_get_service_info` (gatt_client.c:44-62): the value returned, and `*info` if it has
been written. `given` tells whether `info` is not NULL. -/
def gattClientGetServiceInfo (s : State) (address : Option (List UInt8)) (given : Bool) :
    Option (Int × Option ServiceInfo) :=
  if !given then some (-1, none)
  else
    match address.bind s.findDeviceByAddress with
    | none => some (-1, none)
    | some proxy =>
      (gattGetListAttributes btUuidstrToStr chrcProps s (s.props proxy).path []).map
        fun info => (0, some info)

end

/-- An address of the length that `find_device_by_address` asks for. -/
theorem sampleAddress_length : (chars "00:0C:3E:3A:4B:69").length = 17 := by decide

/-- An adapter with one device, which has eleven services. -/
def elevenServices : State where
  ctrlList := [{ id := 0, proxy := 100, path := chars "/org/bluez/hci0", devices := [0] }]
  defaultCtrl := some 0
  defaultDev := some 0
  defaultAttr := none
  services := (List.range 11).map fun i =>
    { proxy := i + 1
      path := chars "/org/bluez/hci0/dev_00_0C_3E_3A_4B_69/service00" ++ natDec (i + 10)
      uuid := some (chars "0000180a-0000-1000-8000-00805f9b34fb")
      parent := some (chars "/org/bluez/hci0/dev_00_0C_3E_3A_4B_69") }
  characteristics := []
  descriptors := []
  reports := []
  adapters := [100]
  present := [0]
  props := fun _ =>
    { path := chars "/org/bluez/hci0/dev_00_0C_3E_3A_4B_69"
      address := some ⟨chars "00:0C:3E:3A:4B:69", sampleAddress_length⟩
      connected := some true }
  fresh := 1

/-- The eleventh service is written behind the end of `service`, whatever the uuid is called. -/
theorem eleven_services_overflow :
    elevenServices.findDeviceByAddress (chars "00:0C:3E:3A:4B:69") = some 0 ∧
      ∀ text chrcProps,
        gattClientGetServiceInfo (fun _ => some text) chrcProps elevenServices
          (some (chars "00:0C:3E:3A:4B:69")) true = none := by
  have hdevice : elevenServices.findDeviceByAddress (chars "00:0C:3E:3A:4B:69") = some 0 := by
    rfl
  refine ⟨hdevice, fun text chrcProps => ?_⟩
  have hbelow : elevenServices.services.filter (fun a =>
      (elevenServices.props 0).path.isPrefixOf a.path) = elevenServices.services := by
    rfl
  rw [gattClientGetServiceInfo, Option.bind_some, hdevice]
  simp only [Bool.not_true, Bool.false_eq_true, if_false]
  rw [gattGetListAttributes, getListAttributes, hbelow]
  rfl

end ConnectApp.Bluez
