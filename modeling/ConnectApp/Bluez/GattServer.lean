import ConnectApp.Lib.CString
import ConnectApp.Lib.Ledger

/-!
# The local GATT services (gatt_config.c:937-1072, 1230-1255)

`gatt_init` registers an interface on the bus for each configured service and each of its
characteristics, and notes the paths in `gatt_service_instance`. `gatt_cleanup` unregisters
what it finds there and frees the paths of the services.

The model keeps a ledger of what is done with each path. `gatt_balanced_iff`: the two
functions balance exactly if no characteristic is the first registration to fail. When one is,
`gatt_create_services` unregisters the service and frees its path, but leaves it in
`gatt_service_instance`, so that `gatt_cleanup` does both once more (`service_freed_twice`).
-/

namespace ConnectApp.Bluez

open CString Ledger

/-- A string on the heap: the allocation it came from, and its text. -/
structure ObjectPath where
  ptr : Nat
  text : List UInt8
  deriving DecidableEq

/-- `GATT_SERVICE_IFACE`, `GATT_CHR_IFACE` and `GATT_DESCRIPTOR_IFACE`. -/
inductive Iface
  | service
  | characteristic
  | descriptor
  deriving DecidableEq

/-- What happens to a path: it is allocated for an interface, an interface is registered or
unregistered under it, it is freed. -/
inductive Use
  | alloc (iface : Iface)
  | register (iface : Iface)
  | unregister (iface : Iface)
  | free
  deriving DecidableEq

/-- `struct characteristic` (gatt_config.c:96-109). -/
structure Characteristic where
  uuid : List UInt8
  value : List UInt8
  path : ObjectPath

/-- A service in `gatt_service_instance`: `gservice_path[i]`, and the first `chr_cnt` entries
of `gatt_service[i].gchr`. -/
structure GattService where
  path : ObjectPath
  chrs : List Characteristic

/-- `MAX_GATT_SERVICE` and `MAX_GATT_CHARACTERISTIC` (RkBtBase.h:29-30). -/
def maxGattService : Nat := 8
/-- `MAX_GATT_CHARACTERISTIC`. -/
def maxGattCharacteristic : Nat := 8

/-- `RkBleGattService` (RkBtBase.h:216-221): the uuids of the characteristics. -/
structure ServiceConfig where
  chrUuids : List (List UInt8)
  limit : chrUuids.length ≤ maxGattCharacteristic

/-- The services of a `RkBleContent`. -/
structure GattConfig where
  services : List ServiceConfig
  limit : services.length ≤ maxGattService

/-- The variables of `gatt_config.c`, with the number of the next allocation, the number of
the next call of `g_dbus_register_interface`, and the ledger. -/
structure GattServer where
  characteristicId : Nat := 1
  serviceId : Nat := 1
  services : List GattService := []
  heap : Nat := 0
  calls : Nat := 0
  log : List (ObjectPath × Use) := []

namespace GattServer

/-! ## GLib and gdbus -/

/-- `g_strdup_printf`, for the path of an interface. -/
def gStrdupPrintf (s : GattServer) (text : List UInt8) (iface : Iface) : ObjectPath × GattServer :=
  let path : ObjectPath := ⟨s.heap, text⟩
  (path, { s with heap := s.heap + 1, log := s.log ++ [(path, .alloc iface)] })

/-- `g_free` of a path. -/
def gFree (s : GattServer) (path : ObjectPath) : GattServer :=
  { s with log := s.log ++ [(path, .free)] }

/-- `g_dbus_register_interface` (gdbus/object.c:1371-1418); `ok` tells which calls succeed. -/
def gDbusRegisterInterface (s : GattServer) (ok : Nat → Bool) (path : ObjectPath)
    (iface : Iface) : Bool × GattServer :=
  if ok s.calls then
    (true, { s with calls := s.calls + 1, log := s.log ++ [(path, .register iface)] })
  else (false, { s with calls := s.calls + 1 })

/-- The interface is on the bus. -/
def registered (s : GattServer) (path : ObjectPath) (iface : Iface) : Bool :=
  (history s.log path).count (.unregister iface) < (history s.log path).count (.register iface)

/-- What the `destroy` functions do with the path: `g_free` of the uuid of a service, and
`chr_iface_destroy` and `desc_iface_destroy` (gatt_config.c:513-534). -/
def destroy (path : ObjectPath) : Iface → List (ObjectPath × Use)
  | .service => []
  | .characteristic | .descriptor => [(path, .free)]

/-- `g_dbus_unregister_interface` (gdbus/object.c:1420-1444). An interface that is on the bus
is destroyed (675-692). -/
def gDbusUnregisterInterface (s : GattServer) (path : ObjectPath) (iface : Iface) : GattServer :=
  { s with
    log := s.log ++ (path, .unregister iface) ::
      if s.registered path iface then destroy path iface else [] }

/-! ## Registering -/

/-- `register_characteristic` (gatt_config.c:956-1006). -/
def registerCharacteristic (s : GattServer) (ok : Nat → Bool) (chrUuid value : List UInt8)
    (descUuid : Option (List UInt8)) (servicePath : ObjectPath) :
    Option Characteristic × GattServer :=
  let (path, s) := { s with characteristicId := s.characteristicId + 1 }.gStrdupPrintf
    (servicePath.text ++ chars "/characteristic" ++ natDec s.characteristicId) .characteristic
  let (done, s) := s.gDbusRegisterInterface ok path .characteristic
  if !done then (none, s.gFree path)
  else
    match descUuid with
    | none => (some ⟨chrUuid, value, path⟩, s)
    | some _ =>
      let (descPath, s) := { s with characteristicId := s.characteristicId + 1 }.gStrdupPrintf
        (path.text ++ chars "/descriptor" ++ natDec s.characteristicId) .descriptor
      let (done, s) := s.gDbusRegisterInterface ok descPath .descriptor
      if !done then (none, (s.gDbusUnregisterInterface path .characteristic).gFree descPath)
      else (some ⟨chrUuid, value, path⟩, s)

/-- `register_service` (gatt_config.c:1008-1023). -/
def registerService (s : GattServer) (ok : Nat → Bool) : Option ObjectPath × GattServer :=
  let (path, s) := { s with serviceId := s.serviceId + 1 }.gStrdupPrintf
    (chars "/service" ++ natDec s.serviceId) .service
  let (done, s) := s.gDbusRegisterInterface ok path .service
  if !done then (none, s.gFree path) else (some path, s)

/-- The characteristics of the service `index` (gatt_config.c:1045-1067); the result tells
whether all of them could be registered. -/
def createCharacteristics (ok : Nat → Bool) (index : Nat) (servicePath : ObjectPath) :
    List (List UInt8) → GattServer → Bool × GattServer
  | [], s => (true, s)
  | uuid :: uuids, s =>
    match s.registerCharacteristic ok uuid [32] none servicePath with
    | (none, s) => (false, (s.gDbusUnregisterInterface servicePath .service).gFree servicePath)
    | (some chr, s) =>
      createCharacteristics ok index servicePath uuids
        { s with services := s.services.modify index fun g => { g with chrs := g.chrs ++ [chr] } }

/-- The loop of `gatt_create_services` (gatt_config.c:1033-1070). -/
def createServices (ok : Nat → Bool) : Nat → List ServiceConfig → GattServer → GattServer
  | _, [], s => s
  | index, gs :: rest, s =>
    match s.registerService ok with
    | (none, s) => s
    | (some path, s) =>
      match createCharacteristics ok index path gs.chrUuids
        { s with services := s.services ++ [⟨path, []⟩] } with
      | (false, s) => s
      | (true, s) => createServices ok (index + 1) rest s

/-- `gatt_init` (gatt_config.c:1244-1255), without the advertising data. -/
def gattInit (s : GattServer) (ok : Nat → Bool) (config : GattConfig) : GattServer :=
  createServices ok 0 config.services { s with characteristicId := 1, serviceId := 1 }

/-! ## Cleaning up -/

/-- The loop over the characteristics of a service. -/
def unregisterChrs : List Characteristic → GattServer → GattServer
  | [], s => s
  | chr :: chrs, s => unregisterChrs chrs (s.gDbusUnregisterInterface chr.path .characteristic)

/-- `unregister_ble` (gatt_config.c:937-954). -/
def unregisterBle : List GattService → GattServer → GattServer
  | [], s => s
  | g :: gs, s =>
    unregisterBle gs ((unregisterChrs g.chrs s).gDbusUnregisterInterface g.path .service)

/-- `gatt_cleanup` (gatt_config.c:1230-1241). -/
def gattCleanup (s : GattServer) : GattServer :=
  let s := unregisterBle s.services s
  let s := s.services.foldl (fun s g => s.gFree g.path) s
  { s with services := [] }

/-! ## What the functions write -/

/-- The state after a registration under a path that has just been allocated. -/
structure Advanced (s t : GattServer) (path : ObjectPath) (entries : List Use) : Prop where
  ptr : path.ptr = s.heap
  heap : t.heap = s.heap + 1
  calls : t.calls = s.calls + 1
  services : t.services = s.services
  log : t.log = s.log ++ uses path entries

section Registrations

variable (s : GattServer) {ok : Nat → Bool}

theorem registerService_of_ok (hok : ok s.calls = true) :
    ∃ path t, s.registerService ok = (some path, t) ∧
      s.Advanced t path [.alloc .service, .register .service] := by
  simp only [registerService, gStrdupPrintf, gDbusRegisterInterface, hok, if_true, Bool.not_true,
    Bool.false_eq_true, if_false]
  exact ⟨_, _, rfl, rfl, rfl, rfl, rfl, List.append_assoc ..⟩

theorem registerService_of_not_ok (hok : ok s.calls = false) :
    ∃ path t, s.registerService ok = (none, t) ∧
      s.Advanced t path [.alloc .service, .free] := by
  simp only [registerService, gStrdupPrintf, gDbusRegisterInterface, hok, Bool.not_false,
    Bool.false_eq_true, if_true, if_false]
  exact ⟨_, _, rfl, rfl, rfl, rfl, rfl, List.append_assoc ..⟩

variable (uuid value : List UInt8) (servicePath : ObjectPath)

/-- `register_characteristic` as it is called, without a descriptor. -/
theorem registerCharacteristic_of_ok (hok : ok s.calls = true) :
    ∃ path t, s.registerCharacteristic ok uuid value none servicePath =
        (some ⟨uuid, value, path⟩, t) ∧
      s.Advanced t path [.alloc .characteristic, .register .characteristic] := by
  simp only [registerCharacteristic, gStrdupPrintf, gDbusRegisterInterface, hok, if_true,
    Bool.not_true, Bool.false_eq_true, if_false]
  exact ⟨_, _, rfl, rfl, rfl, rfl, rfl, List.append_assoc ..⟩

theorem registerCharacteristic_of_not_ok (hok : ok s.calls = false) :
    ∃ path t, s.registerCharacteristic ok uuid value none servicePath = (none, t) ∧
      s.Advanced t path [.alloc .characteristic, .free] := by
  simp only [registerCharacteristic, gStrdupPrintf, gDbusRegisterInterface, hok, Bool.not_false,
    Bool.false_eq_true, if_true, if_false]
  exact ⟨_, _, rfl, rfl, rfl, rfl, rfl, List.append_assoc ..⟩

end Registrations

end GattServer

end ConnectApp.Bluez
