import ConnectApp.Lib.CBuffer

/-!
# Requests of the Bluetooth interface (bt_hal.c:42-224, 575-660, 752-853)

A call of the interface copies its arguments into static buffers and has the main loop run a
handler (`g_idle_add`). The handler gets a pointer to a buffer and reads it when its turn
comes. There is one buffer for the address of each kind of request, one uuid buffer for reads
and writes, one buffer for the bytes to write, one record for notifications; the scan type is
passed as a pointer to a parameter of a function that has returned by then.

`Call.request` are the tests of the calls, `Request.store` what a call leaves in the buffers
(`Memory`), and `Memory.find` what the handler finds there.
-/

namespace ConnectApp.Bluez

open CString

/-- `RK_BT_SCAN_TYPE`; `other` is a value outside the enumeration. -/
inductive ScanType
  | auto
  | bredr
  | le
  | other (n : Int)
  deriving DecidableEq

/-- The requests with an address, by the buffer they use: `con_addr`, `dis_addr`,
`pair_addr`, `unpair_addr`, `del_addr`. Their handlers are `connect_by_address`,
`_bt_disconnect_by_address`, `pair_by_addr`, `unpair_by_addr` and `_bt_remove_by_address`. -/
inductive AddrKind
  | con
  | dis
  | pair
  | unpair
  | del
  deriving DecidableEq

/-- A posted handler with the arguments of the call, or with those the handler finds.
`disconnect_current_devices` is passed NULL. -/
inductive Request
  | byAddress (kind : AddrKind) (address : Text)
  | disconnectCurrentDevices (address : Option Text)
  | gattClientRead (uuid : Text)
  | gattClientWrite (uuid : Text) (data : List UInt8)
  | gattWriteData (uuid : Text) (data : List UInt8)
  | btStartDiscovery (scanType : ScanType)
  | btCancelDiscovery
  | bleEnableAdv
  | bleDisableAdv
  | bluetoothOpen
  | bluetoothClose
  deriving DecidableEq

/-! ## Calls -/

/-- The calls, with NULL pointers as `none`; `data` are the bytes passed with their number.
`started` says that `rk_bt_init` and `rk_bt_deinit` have got their thread as far as posting:
it was created, and the vendor callback succeeded. -/
inductive Call
  | bleAdvStart
  | bleAdvStop
  | bleSendNotify (uuid : Text) (data : Option (List UInt8))
  | bleClientRead (uuid : Option Text)
  | bleClientWrite (uuid : Option Text) (data : List UInt8)
  | btDisconnectByAddr (address : Option Text)
  | btRemove (address : Option Text)
  | btInit (started : Bool)
  | btDeinit (started : Bool)
  | btStartDiscovery (scanType : ScanType)
  | btCancelDiscovery
  | btConnectByAddr (address : Option Text)
  | btPairByAddr (address : Option Text)
  | btUnpairByAddr (address : Option Text)

/-- What a call finds: `bt_is_open()` and `g_rkbt_content->scanning`, the latter after the
wait of up to ten seconds in `rk_bt_connect_by_addr`. -/
structure CallEnv where
  isOpen : Bool
  scanning : Bool

/-- `rk_bt_disconnect_by_addr` (bt_hal.c:194-211). -/
def disconnectRequest (address : Text) : Request :=
  if address.1.length ≠ 17 then .disconnectCurrentDevices (some address)
  else .byAddress .dis address

/-- The request a call posts; `none` when it returns without one (bt_hal.c:78-175, 194-224,
575-660, 752-853). -/
def Call.request (env : CallEnv) : Call → Option Request
  | .bleAdvStart => if env.isOpen then some .bleEnableAdv else none
  | .bleAdvStop => some .bleDisableAdv
  | .bleSendNotify uuid data => data.map (.gattWriteData uuid)
  | .bleClientRead uuid => if env.isOpen then uuid.map .gattClientRead else none
  | .bleClientWrite uuid data =>
    if env.isOpen then uuid.map fun u => .gattClientWrite u data else none
  | .btDisconnectByAddr address => address.map disconnectRequest
  | .btRemove address => address.map (.byAddress .del)
  | .btInit started => if env.isOpen then none else if started then some .bluetoothOpen else none
  | .btDeinit started => if env.isOpen ∧ started then some .bluetoothClose else none
  | .btStartDiscovery scanType =>
    if env.isOpen ∧ ¬ env.scanning then some (.btStartDiscovery scanType) else none
  | .btCancelDiscovery => if env.isOpen ∧ env.scanning then some .btCancelDiscovery else none
  | .btConnectByAddr address => if env.scanning then none else address.map (.byAddress .con)
  | .btPairByAddr address => if env.isOpen then address.map (.byAddress .pair) else none
  | .btUnpairByAddr address => if env.isOpen then address.map (.byAddress .unpair) else none

/-! ## Buffers -/

/-- `RkBleConfig` (gatt_config.h:11-15). -/
structure RkBleConfig where
  uuid : List UInt8
  data : List UInt8
  len : Nat

/-- The static buffers of bt_hal.c (lines 42-53, 101). `damaged` is set by a copy that runs
over the end of its buffer, after which nothing is known of what lies in memory. -/
structure Memory where
  addr : AddrKind → List UInt8
  gattClientUuid : List UInt8
  rkGattData : List UInt8
  bleCfg : RkBleConfig
  damaged : Bool

/-- The buffers before the first call. -/
def Memory.zero : Memory where
  addr := fun _ => List.replicate 18 0
  gattClientUuid := List.replicate 36 0
  rkGattData := List.replicate 513 0
  bleCfg := ⟨List.replicate 38 0, List.replicate 512 0, 0⟩
  damaged := false

/-- What a call writes before `g_idle_add`. -/
def Request.store (m : Memory) : Request → Memory
  | .byAddress kind a => { m with addr := Function.update m.addr kind (strncpy 18 a) }
  | .gattClientRead u => { m with gattClientUuid := strncpy 36 u }
  | .gattClientWrite u d => { m with
      gattClientUuid := strncpy 36 u
      rkGattData := memcpy (UInt8.ofNat d.length :: d) m.rkGattData
      damaged := m.damaged || decide (512 < d.length) }
  | .gattWriteData u d => { m with
      bleCfg := ⟨strcpy u m.bleCfg.uuid, memcpy (d.take 512) m.bleCfg.data, min d.length 512⟩
      damaged := m.damaged || decide (37 < u.1.length) }
  | _ => m

/-- What stands in memory outside of the buffers: the text behind a buffer without a NUL, the
bytes in place of overrun data, and what is left where the parameter of
`rk_bt_start_discovery` was. -/
structure Stray where
  text : Text
  bytes : List UInt8
  scanType : ScanType

/-- The bytes for `gatt_client_write`: the first one of the buffer is their number. -/
def Memory.clientData (m : Memory) : List UInt8 :=
  (m.rkGattData.drop 1).take (m.rkGattData.head?.getD 0).toNat

/-- What the handler of a request finds when it runs. -/
def Memory.find (m : Memory) (x : Stray) : Request → Request
  | .byAddress kind _ =>
    .byAddress kind (if m.damaged then x.text else readText x.text (m.addr kind))
  | .disconnectCurrentDevices _ => .disconnectCurrentDevices none
  | .gattClientRead _ =>
    .gattClientRead (if m.damaged then x.text else readText x.text m.gattClientUuid)
  | .gattClientWrite _ _ =>
    if m.damaged then .gattClientWrite x.text x.bytes
    else .gattClientWrite (readText x.text m.gattClientUuid) m.clientData
  | .gattWriteData _ _ =>
    if m.damaged then .gattWriteData x.text x.bytes
    else .gattWriteData (readText x.text m.bleCfg.uuid) (m.bleCfg.data.take m.bleCfg.len)
  | .btStartDiscovery _ => .btStartDiscovery x.scanType
  | r => r

/-! ## Cells

A buffer, or a part of one that is read by itself, is a cell. -/

/-- The static variables that requests are handed over in. -/
inductive Cell
  | addr (kind : AddrKind)
  | clientUuid
  | clientData
  | cfgUuid
  | cfgData
  deriving DecidableEq

/-- What a request needs in a cell. -/
def Request.content : Request → Cell → Option (List UInt8)
  | .byAddress kind a, .addr k => if kind = k then some a else none
  | .gattClientRead u, .clientUuid => some u
  | .gattClientWrite u _, .clientUuid => some u
  | .gattClientWrite _ d, .clientData => some d
  | .gattWriteData u _, .cfgUuid => some u
  | .gattWriteData _ d, .cfgData => some d
  | _, _ => none

/-- What a handler reads in a cell; `none` for a text without a NUL. -/
def Memory.read (m : Memory) : Cell → Option (List UInt8)
  | .addr kind => text? (m.addr kind)
  | .clientUuid => text? m.gattClientUuid
  | .clientData => some m.clientData
  | .cfgUuid => text? m.bleCfg.uuid
  | .cfgData => some (m.bleCfg.data.take m.bleCfg.len)

/-- The arguments have room in the buffers, with the NUL of a text and the length byte of the
data, and the handler gets to see them. -/
def Request.Fits : Request → Prop
  | .byAddress _ a => a.1.length ≤ 17
  | .disconnectCurrentDevices a => a = none
  | .gattClientRead u => u.1.length ≤ 35
  | .gattClientWrite u d => u.1.length ≤ 35 ∧ d.length ≤ 255
  | .gattWriteData u d => u.1.length ≤ 37 ∧ d.length ≤ 512
  | .btStartDiscovery _ => False
  | .btCancelDiscovery | .bleEnableAdv | .bleDisableAdv | .bluetoothOpen | .bluetoothClose => True

/-- Two requests that need the same in every cell they share. -/
def Request.Compatible (p r : Request) : Prop :=
  ∀ c, ∀ t ∈ p.content c, ∀ t' ∈ r.content c, t = t'

/-- The memory has the arguments of the request. -/
structure Request.Held (m : Memory) (r : Request) : Prop where
  fits : r.Fits
  whole : m.damaged = false
  cells : ∀ c t, r.content c = some t → m.read c = some t

namespace Request

/-- The handler of a request whose arguments are in memory finds them. -/
theorem Held.find {m : Memory} {r : Request} (h : r.Held m) (x : Stray) : m.find x r = r := by
  obtain ⟨hfits, hwhole, hcells⟩ := h
  cases r with
  | byAddress kind a =>
    have ha := hcells (.addr kind) a (if_pos rfl)
    rw [Memory.find, hwhole, if_neg Bool.false_ne_true, readText_eq ha]
  | disconnectCurrentDevices a => rw [Memory.find, show a = none from hfits]
  | gattClientRead u =>
    rw [Memory.find, hwhole, if_neg Bool.false_ne_true, readText_eq (hcells .clientUuid u rfl)]
  | gattClientWrite u d =>
    have hd := Option.some.inj (hcells .clientData d rfl)
    rw [Memory.find, hwhole, if_neg Bool.false_ne_true, readText_eq (hcells .clientUuid u rfl), hd]
  | gattWriteData u d =>
    have hd := Option.some.inj (hcells .cfgData d rfl)
    rw [Memory.find, hwhole, if_neg Bool.false_ne_true, readText_eq (hcells .cfgUuid u rfl), hd]
  | btStartDiscovery t => exact absurd hfits id
  | _ => rfl

theorem clientData_memcpy {m : Memory} {d : List UInt8} (h : d.length ≤ 255) :
    { m with rkGattData := memcpy (UInt8.ofNat d.length :: d) m.rkGattData }.clientData = d := by
  have hlen : (UInt8.ofNat d.length).toNat = d.length := by
    rw [UInt8.toNat_ofNat']
    omega
  show (d ++ m.rkGattData.drop _).take (UInt8.ofNat d.length).toNat = d
  rw [hlen, List.take_left]

/-- A cell that the request does not need is left alone by its call. -/
theorem read_store_of_none {r : Request} {c : Cell} (m : Memory) (h : r.content c = none) :
    (r.store m).read c = m.read c := by
  cases r with
  | byAddress kind a =>
    cases c with
    | addr k =>
      have hne : k ≠ kind := by
        rintro rfl
        rw [content, if_pos rfl] at h
        cases h
      show text? (Function.update m.addr kind _ k) = text? (m.addr k)
      rw [Function.update_of_ne hne]
    | _ => rfl
  | gattClientRead u => cases c with
    | clientUuid => cases h
    | _ => rfl
  | gattClientWrite u d => cases c with
    | clientUuid => cases h
    | clientData => cases h
    | _ => rfl
  | gattWriteData u d => cases c with
    | cfgUuid => cases h
    | cfgData => cases h
    | _ => rfl
  | _ => rfl

/-- The others get what the request needs. -/
theorem read_store {r : Request} {c : Cell} {t : List UInt8} (m : Memory) (hfits : r.Fits)
    (h : r.content c = some t) : (r.store m).read c = some t := by
  cases r with
  | byAddress kind a =>
    cases c with
    | addr k =>
      rw [content] at h
      split_ifs at h with hk
      subst hk
      obtain rfl := Option.some.inj h
      show text? (Function.update m.addr kind (strncpy 18 a) kind) = some a.1
      rw [Function.update_self, text?_strncpy a.2 (Nat.lt_succ_of_le hfits)]
    | _ => cases h
  | gattClientRead u => cases c with
    | clientUuid =>
      obtain rfl := Option.some.inj h
      exact text?_strncpy u.2 (Nat.lt_succ_of_le hfits)
    | _ => cases h
  | gattClientWrite u d => cases c with
    | clientUuid =>
      obtain rfl := Option.some.inj h
      exact text?_strncpy u.2 (Nat.lt_succ_of_le hfits.1)
    | clientData =>
      obtain rfl := Option.some.inj h
      exact congrArg some (clientData_memcpy hfits.2)
    | _ => cases h
  | gattWriteData u d => cases c with
    | cfgUuid =>
      obtain rfl := Option.some.inj h
      exact text?_strcpy u.2 m.bleCfg.uuid
    | cfgData =>
      obtain rfl := Option.some.inj h
      show some ((memcpy (d.take 512) m.bleCfg.data).take (min d.length 512)) = some d
      rw [List.take_of_length_le hfits.2, min_eq_left hfits.2, take_memcpy]
    | _ => cases h
  | _ => cases h

theorem store_damaged {r : Request} (m : Memory) (hfits : r.Fits) :
    (r.store m).damaged = m.damaged := by
  cases r with
  | gattClientWrite u d =>
    have hd : ¬ 512 < d.length := by
      have := hfits.2
      omega
    show (m.damaged || decide (512 < d.length)) = m.damaged
    rw [decide_eq_false hd, Bool.or_false]
  | gattWriteData u d =>
    show (m.damaged || decide (37 < u.1.length)) = m.damaged
    rw [decide_eq_false (Nat.not_lt.mpr hfits.1), Bool.or_false]
  | _ => rfl

end Request

end ConnectApp.Bluez
