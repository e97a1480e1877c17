import ConnectApp.Bluez.DeviceMutex
import ConnectApp.Bluez.LateReply
import ConnectApp.Lib.Memory

/-!
# The buffers of the device records (a2dp_masterctrl.c:121, 155-501, 1875-1896, 2062-2078,
2311-2327)

Four buffers take what other devices announce: `g_scan_array[100]`, to which `bt_get_devices`
copies the records; `remote_uuids`, 36 rows of 37 bytes, which the uuids of a device and the
marker "NULL" behind them go to; `change_name[64]`, the name of the last change; and the `buff[128]`
in which a reply handler puts together such a name. None of the copies has a bound of its own.

Here the writes of each function are listed, and `device_buffers_iff` says when they stay inside:
with at most 100 records, at most 35 uuids, names of at most 63 characters, and a failed `Connect`
with a message of at most 108 characters, or 44 if the device has a record. The names for a
failed `Pair` and `Disconnect` always fit, since the error is printed after it has been freed.
-/

namespace ConnectApp.Bluez

open CString

/-! ## Writes -/

/-- The buffers that the texts of a device are copied into. -/
inductive DevBuffer
  | scanArray
  | remoteUuids
  | changeName
  | buff
  deriving DecidableEq

/-- The number of places: records in `g_scan_array`, bytes in the others. -/
def DevBuffer.size : DevBuffer → Nat
  | .scanArray => 100
  | .remoteUuids => 36 * 37
  | .changeName => 64
  | .buff => 128

/-- A write into one of them. -/
structure DevWrite where
  buffer : DevBuffer
  span : Memory.Span
  deriving DecidableEq

/-- The write stays inside its buffer. -/
def DevWrite.Fits (w : DevWrite) : Prop := w.span.Below w.buffer.size

instance (w : DevWrite) : Decidable w.Fits := inferInstanceAs (Decidable (w.span.Below _))

/-- `strcpy` or `sprintf` of a text to a place of a buffer, with its NUL. -/
def textWrite (buffer : DevBuffer) (pos : Nat) (t : List UInt8) : DevWrite :=
  ⟨buffer, pos, t.length + 1⟩

theorem textWrite_fits (buffer : DevBuffer) (pos : Nat) (t : List UInt8) :
    (textWrite buffer pos t).Fits ↔ pos + (t.length + 1) ≤ buffer.size := Iff.rfl

/-- The loop of `bt_get_devices` (a2dp_masterctrl.c:344-355). -/
def scanWrites : Nat → List RemoteDev → List DevWrite
  | _, [] => []
  | i, _ :: devs => ⟨.scanArray, i, 1⟩ :: scanWrites (i + 1) devs

/-- The loop over the uuids, and the marker (a2dp_masterctrl.c:304-315, 436-447). -/
def uuidWrites : Nat → List (List UInt8) → List DevWrite
  | index, [] => [textWrite .remoteUuids (37 * index) uuidsEnd]
  | index, uuid :: uuids => textWrite .remoteUuids (37 * index) uuid :: uuidWrites (index + 1) uuids

namespace State

/-- The writes of `bt_get_devices`. -/
def btGetDevicesWrites (s : State) : List DevWrite :=
  match s.btGetDevices with
  | none => []
  | some devs => scanWrites 0 devs

/-- The record that `bt_state_change` finds. -/
def recordOf (s : State) (proxy : Proxy) : Option RemoteDev :=
  s.defaultAdapter.bind fun ctrl => ctrl.appDevs.find? fun r => r.data = proxy

/-- The writes of `bt_state_change` to `remote_uuids` and `change_name`. -/
def btStateChangeWrites (s : State) (proxy : Proxy) (change : List UInt8) : List DevWrite :=
  match s.recordOf proxy with
  | none => []
  | some _ =>
    (if change = chars "UUIDs" then (s.props proxy).uuids.elim [] (uuidWrites 0) else []) ++
      [textWrite .changeName 0 change]

/-- The record that `bt_get_dev_info` finds and copies to the caller. -/
def infoRecord (s : State) (addr : Option (List UInt8)) : Option RemoteDev :=
  (s.btGetDevInfo addr).1

/-- The writes of `bt_get_dev_info` to `remote_uuids`. -/
def btGetDevInfoWrites (s : State) (addr : Option (List UInt8)) : List DevWrite :=
  match s.infoRecord addr with
  | none => []
  | some rdev => (s.props rdev.data).uuids.elim [] (uuidWrites 0)

end State

/-- `DBusError`, with NULL as `none`. -/
structure DBusError where
  name : Option (List UInt8)
  message : Option (List UInt8)

/-- `dbus_error_free` leaves NULL in both fields. -/
def DBusError.free (_ : DBusError) : DBusError := ⟨none, none⟩

/-- `%s` of a `char *` that may be NULL. -/
def printed (t : Option (List UInt8)) : List UInt8 := t.getD (chars "(null)")

/-- The name that a reply handler makes of an error. Those of `Pair` and `Disconnect` free it
first. -/
def failureName (error : DBusError) : Method → Option (List UInt8)
  | .connect => some (chars "Failed to connect: " ++ printed error.message)
  | .disconnect =>
    some (chars "Failed to disconnect device: " ++ printed error.free.name ++ chars ":" ++
      printed error.free.message)
  | .pair =>
    some (chars "Failed to pair: " ++ printed error.free.name ++ chars ":" ++
      printed error.free.message)
  | .removeDevice | .startDiscovery | .stopDiscovery => none

/-- The writes of a reply handler when the call has failed. -/
def State.replyWrites (s : State) (proxy : Proxy) (error : DBusError) (method : Method) :
    List DevWrite :=
  match failureName error method with
  | none => []
  | some name => textWrite .buff 0 name :: s.btStateChangeWrites proxy name

/-- The reply handlers pass these names to `bt_state_change`. -/
theorem reply_failed (s : State) (proxy : Proxy) (name : Option (List UInt8))
    (message : List UInt8) {method : Method} {change : List UInt8}
    (h : failureName ⟨name, some message⟩ method = some change) :
    ∃ state, s.reply proxy (some message) method = s.btStateChange proxy change state := by
  cases method with
  | connect =>
    obtain rfl := Option.some.inj h
    exact ⟨_, rfl⟩
  | disconnect =>
    obtain rfl := Option.some.inj h
    exact ⟨_, rfl⟩
  | pair =>
    obtain rfl := Option.some.inj h
    exact ⟨_, rfl⟩
  | removeDevice | startDiscovery | stopDiscovery => cases h

/-! ## When they fit -/

theorem scanWrites_fit {devs : List RemoteDev} {i : Nat} (hi : i ≤ 100) :
    (∀ w ∈ scanWrites i devs, w.Fits) ↔ i + devs.length ≤ 100 := by
  induction devs generalizing i with
  | nil => simpa [scanWrites] using hi
  | cons d devs ih =>
    rw [scanWrites, List.forall_mem_cons, List.length_cons]
    have hfirst : (DevWrite.mk .scanArray ⟨i, 1⟩).Fits ↔ i + 1 ≤ 100 := Iff.rfl
    rw [hfirst]
    constructor
    · rintro ⟨h, hrest⟩
      have := (ih h).mp hrest
      omega
    · intro h
      exact ⟨by omega, (ih (by omega)).mpr (by omega)⟩

/-- Uuids of 36 characters take a row each, and the marker takes one more. -/
theorem uuidWrites_fit {uuids : List (List UInt8)} (h36 : ∀ u ∈ uuids, u.length = 36)
    (index : Nat) : (∀ w ∈ uuidWrites index uuids, w.Fits) ↔ index + uuids.length ≤ 35 := by
  induction uuids generalizing index with
  | nil =>
    -- the marker is in row `index`
    rw [uuidWrites, List.forall_mem_singleton, textWrite_fits]
    show 37 * index + (4 + 1) ≤ 36 * 37 ↔ index + 0 ≤ 35
    omega
  | cons u uuids ih =>
    obtain ⟨hu, hrest⟩ := List.forall_mem_cons.mp h36
    rw [uuidWrites, List.forall_mem_cons, textWrite_fits, hu, ih hrest, List.length_cons]
    show 37 * index + (36 + 1) ≤ 36 * 37 ∧ index + 1 + uuids.length ≤ 35 ↔ _
    omega

section

variable {s : State}

theorem btGetDevicesWrites_fit :
    (∀ w ∈ s.btGetDevicesWrites, w.Fits) ↔ ∀ devs ∈ s.btGetDevices, devs.length ≤ 100 := by
  rw [State.btGetDevicesWrites]
  cases s.btGetDevices with
  | none => simp
  | some devs =>
    rw [show (∀ w ∈ scanWrites 0 devs, w.Fits) ↔ 0 + devs.length ≤ 100 from
      scanWrites_fit (Nat.zero_le _)]
    simp

/-- The uuids of one device, if its proxy has them. -/
theorem uuidsWrites_fit {uuids : Option (List (List UInt8))}
    (h36 : ∀ us ∈ uuids, ∀ u ∈ us, u.length = 36) :
    (∀ w ∈ uuids.elim [] (uuidWrites 0), w.Fits) ↔ ∀ us ∈ uuids, us.length ≤ 35 := by
  cases uuids with
  | none => simp
  | some us =>
    have := uuidWrites_fit (h36 us rfl) 0
    simpa using this

theorem btStateChangeWrites_fit {proxy : Proxy}
    (h36 : ∀ us ∈ (s.props proxy).uuids, ∀ u ∈ us, u.length = 36) (change : List UInt8) :
    (∀ w ∈ s.btStateChangeWrites proxy change, w.Fits) ↔
      (s.recordOf proxy ≠ none → change.length ≤ 63 ∧
        (change = chars "UUIDs" → ∀ us ∈ (s.props proxy).uuids, us.length ≤ 35)) := by
  rw [State.btStateChangeWrites]
  cases s.recordOf proxy with
  | none => simp
  | some rdev =>
    have hname : (textWrite .changeName 0 change).Fits ↔ change.length ≤ 63 := by
      rw [textWrite_fits]
      show 0 + (change.length + 1) ≤ 64 ↔ _
      omega
    rw [List.forall_mem_append, List.forall_mem_singleton, hname, and_comm]
    by_cases hchange : change = chars "UUIDs"
    · rw [if_pos hchange, uuidsWrites_fit h36]
      simp [hchange]
    · simp [hchange]

theorem btGetDevInfoWrites_fit
    (h36 : ∀ p, ∀ us ∈ (s.props p).uuids, ∀ u ∈ us, u.length = 36) (addr : Option (List UInt8)) :
    (∀ w ∈ s.btGetDevInfoWrites addr, w.Fits) ↔
      ∀ rdev ∈ s.infoRecord addr, ∀ us ∈ (s.props rdev.data).uuids, us.length ≤ 35 := by
  rw [State.btGetDevInfoWrites]
  cases s.infoRecord addr with
  | none => simp
  | some rdev =>
    rw [show (∀ w ∈ (s.props rdev.data).uuids.elim [] (uuidWrites 0), w.Fits) ↔ _ from
      uuidsWrites_fit (h36 rdev.data)]
    simp

/-- A name that a reply handler has made: it starts with an `F`. -/
theorem failedWrites_fit {proxy : Proxy}
    (h36 : ∀ us ∈ (s.props proxy).uuids, ∀ u ∈ us, u.length = 36) {name : List UInt8}
    (hname : name.head? = some 70) :
    (∀ w ∈ textWrite .buff 0 name :: s.btStateChangeWrites proxy name, w.Fits) ↔
      name.length ≤ 127 ∧ (s.recordOf proxy ≠ none → name.length ≤ 63) := by
  -- so the rows of the uuids are not written
  have hne : name ≠ chars "UUIDs" := by
    rintro rfl
    exact absurd hname (by decide)
  have hbuff : (textWrite .buff 0 name).Fits ↔ name.length ≤ 127 := by
    rw [textWrite_fits]
    show 0 + (name.length + 1) ≤ 128 ↔ _
    omega
  rw [List.forall_mem_cons, hbuff, btStateChangeWrites_fit h36]
  simp [hne]

theorem replyWrites_fit {proxy : Proxy}
    (h36 : ∀ us ∈ (s.props proxy).uuids, ∀ u ∈ us, u.length = 36) (error : DBusError)
    (method : Method) :
    (∀ w ∈ s.replyWrites proxy error method, w.Fits) ↔
      (method = .connect → (printed error.message).length ≤ 108 ∧
        (s.recordOf proxy ≠ none → (printed error.message).length ≤ 44)) := by
  cases method with
  | connect =>
    have hlen : (chars "Failed to connect: " ++ printed error.message).length =
        19 + (printed error.message).length := List.length_append
    refine (failedWrites_fit h36 rfl).trans ?_
    rw [hlen, forall_prop_of_true rfl]
    exact and_congr (by omega) (imp_congr_right fun _ => by omega)
  | disconnect =>
    -- name and message are NULL by now, which is printed as "(null)"
    have hlen : (chars "Failed to disconnect device: " ++ printed error.free.name ++ chars ":" ++
        printed error.free.message).length = 42 := rfl
    refine (failedWrites_fit h36 rfl).trans (iff_of_true ?_ nofun)
    rw [hlen]
    exact ⟨by decide, fun _ => by decide⟩
  | pair =>
    have hlen : (chars "Failed to pair: " ++ printed error.free.name ++ chars ":" ++
        printed error.free.message).length = 29 := rfl
    refine (failedWrites_fit h36 rfl).trans (iff_of_true ?_ nofun)
    rw [hlen]
    exact ⟨by decide, fun _ => by decide⟩
  | removeDevice | startDiscovery | stopDiscovery => exact iff_of_true nofun nofun

end

/-- **The buffers of the device records.** Where all uuids have 36 characters, each function
writes inside its buffers exactly under the given bound. -/
theorem device_buffers_iff {s : State}
    (h36 : ∀ p, ∀ us ∈ (s.props p).uuids, ∀ u ∈ us, u.length = 36) :
    ((∀ w ∈ s.btGetDevicesWrites, w.Fits) ↔ ∀ devs ∈ s.btGetDevices, devs.length ≤ 100) ∧
    (∀ proxy change, (∀ w ∈ s.btStateChangeWrites proxy change, w.Fits) ↔
      (s.recordOf proxy ≠ none → change.length ≤ 63 ∧
        (change = chars "UUIDs" → ∀ us ∈ (s.props proxy).uuids, us.length ≤ 35))) ∧
    (∀ addr, (∀ w ∈ s.btGetDevInfoWrites addr, w.Fits) ↔
      ∀ rdev ∈ s.infoRecord addr, ∀ us ∈ (s.props rdev.data).uuids, us.length ≤ 35) ∧
    ∀ proxy error method, (∀ w ∈ s.replyWrites proxy error method, w.Fits) ↔
      (method = .connect → (printed error.message).length ≤ 108 ∧
        (s.recordOf proxy ≠ none → (printed error.message).length ≤ 44)) :=
  ⟨btGetDevicesWrites_fit, fun proxy change => btStateChangeWrites_fit (h36 proxy) change,
    fun addr => btGetDevInfoWrites_fit h36 addr,
    fun proxy error method => replyWrites_fit (h36 proxy) error method⟩

/-- A device with `n` uuids of 36 characters. -/
def manyUuids (n : Nat) : DeviceProps where
  path := chars "/org/bluez/hci0/dev_00_0C_3E_3A_4B_69"
  adapter := some (chars "/org/bluez/hci0")
  address := some ⟨chars "00:0C:3E:3A:4B:69", by decide⟩
  uuids := some (List.replicate n (List.replicate 36 48))

/-- The state in which an adapter has such a device. -/
def State.withUuids (n : Nat) : State :=
  { State.opened with
    ctrlList := [{ id := 0, proxy := 1, path := chars "/org/bluez/hci0", devices := [2], appDevs :=
      [RemoteDev.new 2 (manyUuids n)] }]
    defaultCtrl := some 0
    fresh := 1
    adapters := [1]
    present := [2]
    props := Function.update State.opened.props 2 (manyUuids n) }

theorem withUuids_length36 (n : Nat) :
    ∀ p, ∀ us ∈ ((State.withUuids n).props p).uuids, ∀ u ∈ us, u.length = 36 := by
  intro p us hus u hu
  by_cases hp : p = 2
  · subst hp
    have hprops : ((State.withUuids n).props 2).uuids =
      some (List.replicate n (List.replicate 36 48)) := rfl
    rw [hprops] at hus
    rw [← Option.some.inj hus] at hu
    rw [List.eq_of_mem_replicate hu, List.length_replicate]
  · have hprops : ((State.withUuids n).props p).uuids = none := by
      show (Function.update State.opened.props 2 (manyUuids n) p).uuids = none
      rw [Function.update_of_ne hp]
      rfl
    rw [hprops] at hus
    cases hus

/-- A device with 35 uuids fits. -/
theorem device_buffers_iff_uuids :
    (State.withUuids 35).recordOf 2 ≠ none ∧
      ∀ w ∈ (State.withUuids 35).btStateChangeWrites 2 (chars "UUIDs"), w.Fits := by
  refine ⟨Option.some_ne_none (RemoteDev.new 2 (manyUuids 35)), ?_⟩
  refine ((device_buffers_iff (withUuids_length36 35)).2.1 2 (chars "UUIDs")).mpr ?_
  refine fun _ => ⟨by decide, fun _ us hus => ?_⟩
  rw [← Option.some.inj hus, List.length_replicate]

/-- One with 36 does not: bluetoothd announces it, and the marker is written behind the last
row when its uuids are known. -/
theorem uuids_overflow :
    ((State.opened.next (.adapterAdded 1 (chars "/org/bluez/hci0"))).bind fun s =>
        s.next (.deviceAdded 2 (manyUuids 36))) = some (State.withUuids 36) ∧
      ∃ w ∈ (State.withUuids 36).btStateChangeWrites 2 (chars "UUIDs"), ¬ w.Fits := by
  refine ⟨rfl, ?_⟩
  by_contra hall
  have hfits : ∀ w ∈ (State.withUuids 36).btStateChangeWrites 2 (chars "UUIDs"), w.Fits :=
    fun w hw => not_not.mp fun hfit => hall ⟨w, hw, hfit⟩
  have hbound := ((btStateChangeWrites_fit (withUuids_length36 36 2) (chars "UUIDs")).mp hfits
    (Option.some_ne_none (RemoteDev.new 2 (manyUuids 36)))).2 rfl _ rfl
  rw [List.length_replicate] at hbound
  exact absurd hbound (by decide)

end ConnectApp.Bluez
