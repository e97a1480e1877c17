import ConnectApp.Lib.Mutex
import ConnectApp.Bluez.Bus

/-!
# The mutex of the device lists (a2dp_masterctrl.c:155-371, 934-1020, 1113-1189)

Five functions use the mutex: `bt_get_dev_info` and `bt_get_devices`, which the application
calls, and the handlers `device_added`, `device_removed` and `adapter_removed`. The handlers
of devices report through the state callback, and the callback may call the first two.

Each function is modelled with its path, that is, what it does to the mutex in the same
branches. `mutex_clean_iff` says which sequences use the mutex correctly. Two things go
wrong: `bt_get_dev_info` unlocks without a lock when the address has not 17 characters, and
`device_removed` reports while it holds the mutex, so that the callback cannot use it.
-/

namespace ConnectApp.Bluez

open CString Mutex Transition

/-! ## The functions of the application -/

/-- What `bt_get_dev_info` copies into the record (a2dp_masterctrl.c:193-315); the
advertising data and the appearance, which the records here do not have, are left out. -/
def RemoteDev.info (rdev : RemoteDev) (p : DeviceProps) : RemoteDev :=
  { rdev with
    remoteAddressType := p.addressType.getD rdev.remoteAddressType
    remoteName := p.name.getD rdev.remoteName
    remoteAlias := p.aliasName.getD rdev.remoteAlias
    cod := p.cls.getD rdev.cod
    rssi := p.rssi.getD rdev.rssi
    icon := p.icon.getD rdev.icon
    paired := p.paired.getD rdev.paired
    connected := p.connected.getD rdev.connected
    remoteUuids :=
      match p.uuids with
      | none => rdev.remoteUuids
      | some us => us ++ uuidsEnd :: rdev.remoteUuids.drop (us.length + 1) }

/-- A call by the application. -/
inductive ApiCall
  | btGetDevInfo (addr : Option (List UInt8))
  | btGetDevices
  deriving DecidableEq

namespace State

/-- `bt_get_dev_info` (a2dp_masterctrl.c:155-328): the record it gives back, the state and
the path. -/
def btGetDevInfo (s : State) (addr : Option (List UInt8)) : Option RemoteDev × State × Path :=
  match s.defaultCtrl with
  | none => (none, s, .done)
  | some i =>
    match addr with
    | none => (none, s, .done)
    | some addr =>
      -- `goto fail`, where the mutex is unlocked
      if addr.length ≠ 17 then (none, s, .unlock .done)
      else
        match s.defaultAdapter.bind fun ctrl =>
          ctrl.appDevs.find? (fun r => r.remoteAddress = addr) with
        | none => (none, s, .lock (.unlock .done))
        | some rdev =>
          let rdev' := rdev.info (s.props rdev.data)
          (some rdev',
            s.updateAdapter i fun a => { a with
              appDevs := FirstMatch.update (fun r => r.remoteAddress = addr) (fun _ => rdev')
                a.appDevs },
            .lock (.unlock .done))

/-- The path of `bt_get_devices` (a2dp_masterctrl.c:331-365). -/
def btGetDevicesPath (s : State) : Path :=
  if s.defaultCtrl = none then .done else .lock (.unlock .done)

end State

/-- The state after a call, and its path. -/
def ApiCall.run (s : State) : ApiCall → State × Path
  | .btGetDevInfo addr => (s.btGetDevInfo addr).2
  | .btGetDevices => (s, s.btGetDevicesPath)

/-- What the callback does when it is called. -/
def callback (s : State) : List ApiCall → State × List Path
  | [] => (s, [])
  | c :: cs =>
    let (s, path) := c.run s
    let (s, paths) := callback s cs
    (s, path :: paths)

/-! ## The handlers -/

namespace State

/-- `device_added`, with the calls its callback makes. It reports at the end, without the
mutex. -/
def deviceAddedPath (s : State) (proxy : Proxy) (calls : List ApiCall) : State × Path :=
  match s.findParent proxy with
  | none => (s, .done)
  | some _ =>
    match (s.props proxy).connected with
    | none => (s.deviceAdded proxy, .lock (.unlock .done))
    | some _ =>
      let (t, paths) := callback (s.deviceAdded proxy) calls
      (t, .lock (.unlock (Mutex.calls paths .done)))

/-- The record that `device_removed` deletes, reported before it goes. -/
def dropRecordPath (s : State) (adapter : Adapter) (addr : BdAddr) (calls : List ApiCall) :
    State × List Path :=
  match FirstMatch.stop (hasAddress addr) adapter.appDevs with
  | none => (s, [])
  | some i =>
    let rdev := adapter.appDevs[i]?
    let (s, paths) := callback
      (s.btStateSend rdev (if rdev.any RemoteDev.paired then .delDevOk else .scanDelRemoteDev)) calls
    (s.updateAdapter adapter.id fun a => { a with appDevs := a.appDevs.eraseIdx i }, paths)

/-- `device_removed`, with the calls its callback makes. -/
def deviceRemovedPath (s : State) (proxy : Proxy) (calls : List ApiCall) : State × Path :=
  match s.findParent proxy with
  | none => (s, .done)
  | some adapter =>
    let s := s.updateAdapter adapter.id fun a => { a with devices := a.devices.erase proxy }
    let (s, paths) :=
      match (s.props proxy).address with
      | none => (s, [])
      | some addr => s.dropRecordPath adapter addr calls
    (if s.defaultDev = some proxy then s.setDefaultDevice none else s,
      .lock (Mutex.calls paths (.unlock .done)))

theorem dropRecordPath_nil (s : State) (adapter : Adapter) (addr : BdAddr) :
    s.dropRecordPath adapter addr [] = (s.dropRecord adapter addr, []) := by
  rw [dropRecordPath, dropRecord]
  cases FirstMatch.stop (hasAddress addr) adapter.appDevs <;> rfl

/-- Without calls by the callback this is `device_removed`. -/
theorem deviceRemovedPath_nil (s : State) (proxy : Proxy) :
    (s.deviceRemovedPath proxy []).1 = s.deviceRemoved proxy := by
  rw [deviceRemovedPath, deviceRemoved]
  cases s.findParent proxy with
  | none => rfl
  | some adapter =>
    dsimp only
    simp only [dropRecordPath_nil]
    cases ((s.updateAdapter adapter.id fun a =>
      { a with devices := a.devices.erase proxy }).props proxy).address <;> rfl

end State

/-! ## Sequences -/

/-- A call or an event, with what the state callback does if it is called. -/
inductive MutexMove
  | api (c : ApiCall)
  | deviceAdded (proxy : Proxy) (props : DeviceProps) (calls : List ApiCall)
  | deviceRemoved (proxy : Proxy) (calls : List ApiCall)
  | adapterRemoved (proxy : Proxy)

namespace MutexMove

/-- One move, with the path it takes through the mutex. -/
def run (s : State) : MutexMove → State × Path
  | .api c => c.run s
  | .deviceAdded proxy props calls =>
    ({ s with present := proxy :: s.present }.cache proxy props).deviceAddedPath proxy calls
  | .deviceRemoved proxy calls =>
    let (t, path) := s.deviceRemovedPath proxy calls
    ({ t with present := t.present.filter (· ≠ proxy) }, path)
  | .adapterRemoved proxy =>
    ({ s.adapterRemoved proxy with adapters := s.adapters.erase proxy }, .lock (.unlock .done))

/-- The whole sequence, as calls from outside. -/
def session : State → List MutexMove → Path
  | _, [] => .done
  | s, m :: ms => .call (m.run s).2 (session (m.run s).1 ms)

end MutexMove

/-- While there is a default adapter, an address that is given has 17 characters. -/
def ApiCall.Valid (s : State) : ApiCall → Prop
  | .btGetDevInfo (some addr) => s.defaultCtrl ≠ none → addr.length = 17
  | _ => True

/-- The records of the adapter in which `device_removed` searches: it reports one if there is
any. -/
def State.searched (s : State) (proxy : Proxy) : List RemoteDev :=
  match s.findParent proxy, (s.props proxy).address with
  | some adapter, some _ => adapter.appDevs
  | _, _ => []

/-- Addresses given have 17 characters, also in the callback of `device_added`, and the
callback of `device_removed` calls nothing. -/
def MutexMove.Careful (s : State) : MutexMove → Prop
  | .api c => c.Valid s
  | .deviceAdded proxy props calls =>
    ({ s with present := proxy :: s.present }.cache proxy props).findParent proxy ≠ none →
      props.connected ≠ none → ∀ c ∈ calls, c.Valid s
  | .deviceRemoved proxy calls => s.searched proxy ≠ [] → calls = []
  | .adapterRemoved _ => True

/-! ## Paths of the single functions -/

namespace ApiCall

theorem valid_congr {s t : State} (h : t.defaultCtrl = s.defaultCtrl) (c : ApiCall) :
    c.Valid t ↔ c.Valid s := by
  cases c with
  | btGetDevInfo addr =>
    cases addr with
    | none => exact Iff.rfl
    | some addr => rw [Valid, Valid, h]
  | btGetDevices => exact Iff.rfl

/-- The only call that is not clean is `bt_get_dev_info` with an address of another length. -/
theorem run_spec (s : State) (c : ApiCall) :
    (c.run s).1.defaultCtrl = s.defaultCtrl ∧
      (clean false false (c.run s).2 = true ↔ c.Valid s) := by
  cases c with
  | btGetDevices =>
    rw [run, State.btGetDevicesPath]
    refine ⟨rfl, iff_of_true ?_ trivial⟩
    split_ifs <;> rfl
  | btGetDevInfo addr =>
    rw [run, State.btGetDevInfo]
    cases hdefault : s.defaultCtrl with
    | none =>
      refine ⟨hdefault, iff_of_true rfl ?_⟩
      cases addr with
      | none => trivial
      | some addr => exact fun hne => absurd hdefault hne
    | some i =>
      cases addr with
      | none => exact ⟨hdefault, iff_of_true rfl trivial⟩
      | some addr =>
        have hvalid : Valid s (.btGetDevInfo (some addr)) ↔ addr.length = 17 := by
          rw [Valid, hdefault]
          exact forall_prop_of_true (Option.some_ne_none i)
        rw [hvalid]
        dsimp only
        split_ifs with hlength
        · exact ⟨hdefault, iff_of_false Bool.false_ne_true hlength⟩
        · split <;> exact ⟨hdefault, iff_of_true rfl (not_not.mp hlength)⟩

end ApiCall

/-- A callback outside of the mutex. -/
theorem callback_spec (s : State) (cs : List ApiCall) :
    ((callback s cs).2 = [] ↔ cs = []) ∧
      ((∀ path ∈ (callback s cs).2, clean false false path = true) ↔ ∀ c ∈ cs, c.Valid s) := by
  induction cs generalizing s with
  | nil => exact ⟨iff_of_true rfl rfl, iff_of_true nofun nofun⟩
  | cons c cs ih =>
    obtain ⟨hdefault, hclean⟩ := c.run_spec s
    refine ⟨iff_of_false (List.cons_ne_nil _ _) (List.cons_ne_nil _ _), ?_⟩
    show (∀ path ∈ (c.run s).2 :: (callback (c.run s).1 cs).2, _) ↔ _
    rw [List.forall_mem_cons, List.forall_mem_cons, hclean, (ih _).2]
    -- the calls before have left `default_ctrl` as it was
    simp only [ApiCall.valid_congr hdefault]

namespace State

theorem deviceAdded_defaultCtrl (s : State) (proxy : Proxy) :
    (s.deviceAdded proxy).defaultCtrl = s.defaultCtrl := by
  obtain h | ⟨-, h⟩ := s.deviceAdded_writes proxy
  · exact h.defaultCtrl
  · exact h.defaultCtrl

theorem clean_deviceAddedPath (s : State) (proxy : Proxy) (calls : List ApiCall) :
    clean false false (s.deviceAddedPath proxy calls).2 = true ↔
      (s.findParent proxy ≠ none → (s.props proxy).connected ≠ none → ∀ c ∈ calls, c.Valid s) := by
  rw [deviceAddedPath]
  cases hparent : s.findParent proxy with
  | none => exact iff_of_true rfl fun hne => absurd rfl hne
  | some adapter =>
    cases (s.props proxy).connected with
    | none => exact iff_of_true rfl fun _ hne => absurd rfl hne
    | some connected =>
      have hspec := (callback_spec (s.deviceAdded proxy) calls).2
      simp only [ApiCall.valid_congr (s.deviceAdded_defaultCtrl proxy)] at hspec
      show clean false false (Mutex.calls (callback (s.deviceAdded proxy) calls).2 .done) = true ↔ _
      rw [clean_calls, hspec]
      simp [clean]

/-- A callback under the mutex has to be silent. -/
theorem clean_dropRecordPath (s : State) (adapter : Adapter) (addr : BdAddr)
    (calls : List ApiCall) :
    clean true true (Mutex.calls (s.dropRecordPath adapter addr calls).2 (.unlock .done)) = true ↔
      (adapter.appDevs ≠ [] → calls = []) := by
  rw [clean_calls_held, dropRecordPath]
  cases hstop : FirstMatch.stop (hasAddress addr) adapter.appDevs with
  | none => exact iff_of_true ⟨rfl, rfl⟩ fun hne => absurd (FirstMatch.stop_eq_none_iff.mp hstop) hne
  | some i =>
    have hne : adapter.appDevs ≠ [] := fun hnil => by
      rw [FirstMatch.stop_eq_none_iff.mpr hnil] at hstop
      cases hstop
    rw [forall_prop_of_true hne]
    exact (and_iff_left rfl).trans (callback_spec _ calls).1

theorem clean_deviceRemovedPath (s : State) (proxy : Proxy) (calls : List ApiCall) :
    clean false false (s.deviceRemovedPath proxy calls).2 = true ↔
      (s.searched proxy ≠ [] → calls = []) := by
  rw [deviceRemovedPath, searched]
  cases s.findParent proxy with
  | none => exact iff_of_true rfl fun hne => absurd rfl hne
  | some adapter =>
    have hprops : (s.updateAdapter adapter.id fun a =>
      { a with devices := a.devices.erase proxy }).props = s.props := rfl
    simp only [hprops]
    cases (s.props proxy).address with
    | none => exact iff_of_true rfl fun hne => absurd rfl hne
    | some addr => exact clean_dropRecordPath _ adapter addr calls

end State

/-! ## Sequences of calls and events -/

theorem MutexMove.clean_run (s : State) (m : MutexMove) :
    clean false false (m.run s).2 = true ↔ m.Careful s := by
  cases m with
  | api c => exact (c.run_spec s).2
  | deviceAdded proxy props calls =>
    refine (State.clean_deviceAddedPath _ proxy calls).trans ?_
    have hprops : ({ s with present := proxy :: s.present }.cache proxy props).props proxy = props :=
      Function.update_self ..
    rw [hprops, MutexMove.Careful]
    simp only [ApiCall.valid_congr (s := s)
      (t := { s with present := proxy :: s.present }.cache proxy props) rfl]
  | deviceRemoved proxy calls => exact s.clean_deviceRemovedPath proxy calls
  | adapterRemoved proxy => exact iff_of_true rfl trivial

/-- **The mutex of the device lists.** A sequence uses the mutex correctly exactly if each
given address has 17 characters and the callback of `device_removed` makes no calls. -/
theorem mutex_clean_iff (s : State) (ms : List MutexMove) :
    clean false false (MutexMove.session s ms) = true ↔
      Along (fun s m => some (m.run s).1) (fun s m => m.Careful s) s ms := by
  induction ms generalizing s with
  | nil => exact iff_of_true rfl trivial
  | cons m ms ih =>
    rw [MutexMove.session, clean, Bool.and_eq_true, m.clean_run, ih, Along]
    refine and_congr_right fun _ => ⟨fun h t ht => ?_, fun h => h _ rfl⟩
    rwa [← Option.some.inj ht]

/-- A device of the first adapter. -/
def headset : DeviceProps where
  path := chars "/org/bluez/hci0/dev_00_0C_3E_3A_4B_0A"
  adapter := some (chars "/org/bluez/hci0")
  address := some ⟨chars "00:0C:3E:3A:4B:0A", by decide⟩
  connected := some false

/-- An application that asks for the device list whenever it changes. -/
def refreshingRun : List MutexMove :=
  [.deviceAdded 2 headset [.btGetDevices], .deviceRemoved 2 [.btGetDevices]]

/-- One adapter and no devices yet. -/
def State.oneAdapter : State :=
  State.opened.adapterAdded 0 (chars "/org/bluez/hci0")

/-- The application asks for the list while `device_removed` holds the mutex. -/
theorem callback_deadlocks :
    ∃ s ms, clean false false (MutexMove.session s ms) = false :=
  ⟨State.oneAdapter, refreshingRun, by decide⟩

end ConnectApp.Bluez
