import ConnectApp.Bluez.DeviceList

/-!
# The connection state of the records

A record has a flag `connected` of its own. `bt_state_change` writes it when the property
`Connected` changes and reports `RK_BT_STATE_CONNECTED` or `RK_BT_STATE_DISCONN`.
`device_added` is meant to do the same for a device that is connected when it appears, but
does not (`State.deviceAdded_of_parent`).

`deviceSystem` has one adapter and the events of its devices. `connected_tracked` is about
the runs in which no device is connected when it appears; `connected_missed` is a device
that is.
-/

namespace ConnectApp.Bluez

open CString Transition

/-! ## Single handlers -/

/-- A change of `Connected` reaches the record and the callback. -/
theorem RemoteDev.refresh_connected (rdev : RemoteDev) {p : DeviceProps} {b : Bool}
    (h : p.connected = some b) :
    (rdev.refresh p (chars "Connected") .none).1.connected = b ∧
      (rdev.refresh p (chars "Connected") .none).2 = if b then .connected else .disconn := by
  have hcopy : (rdev.base p).copy p (chars "Connected") =
      ({ rdev.base p with connected := b }, some (if b then .connected else .disconn)) := by
    unfold copy
    rw [if_neg (by decide), if_neg (by decide), if_neg (by decide),
      if_neg (by decide), if_neg (by decide), if_neg (by decide),
      if_pos rfl, h]
  rw [refresh, hcopy]
  exact ⟨rfl, rfl⟩

theorem RemoteDev.new_connected (proxy : Proxy) (p : DeviceProps) :
    (RemoteDev.new proxy p).connected = false := by
  unfold new
  split <;> rfl

namespace State

theorem setDefaultDevice_reports (s : State) (proxy : Option Proxy) :
    (s.setDefaultDevice proxy).reports = s.reports := by
  unfold setDefaultDevice
  split_ifs
  · rfl
  · cases proxy <;> rfl

theorem followConnected_reports (s : State) (proxy : Proxy) (change : Change) :
    (s.followConnected proxy change).reports = s.reports := by
  unfold followConnected
  split
  · split_ifs
    · exact s.setDefaultDevice_reports _
    · rfl
  · split_ifs
    · exact s.setDefaultDevice_reports _
    · rfl
  · rfl

/-- A change of a device with a record: the record is refreshed and reported. -/
theorem propertyChanged_listed {s : State} {ctrl : Adapter} {p : Proxy}
    (hdefault : s.defaultAdapter = some ctrl) (hchild : (s.props p).adapter = some ctrl.path)
    (hrecord : ∃ r ∈ ctrl.appDevs, r.data = p) (change : Change) :
    ∃ rdev ∈ ctrl.appDevs, rdev.data = p ∧
      SameLists
        (s.updateAdapter ctrl.id fun a => { a with
          appDevs := FirstMatch.update (fun r => r.data = p)
            (fun _ => (rdev.refresh (s.props p) change.key .none).1) a.appDevs })
        (s.propertyChanged p change) ∧
      (s.propertyChanged p change).reports = s.reports ++
        [⟨some (rdev.refresh (s.props p) change.key .none).1,
          (rdev.refresh (s.props p) change.key .none).2⟩] := by
  have hsame := s.sameLists_followConnected p change
  have hreports := s.followConnected_reports p change
  rw [propertyChanged, hdefault]
  dsimp only
  rw [if_pos (show s.deviceIsChild p ctrl = true from decide_eq_true hchild)]
  generalize s.followConnected p change = u at hsame hreports ⊢
  obtain ⟨-, hnone⟩ | ⟨rdev, hrdev, hdata, heq⟩ := u.changeRecord_cases ctrl p change.key .none
  · obtain ⟨r, hr, hrp⟩ := hrecord
    exact absurd hrp (hnone r hr)
  · refine ⟨rdev, hrdev, hdata, ?_⟩
    rw [heq, hsame.props]
    refine ⟨⟨?_, hsame.defaultCtrl, hsame.present, hsame.props, hsame.fresh⟩, ?_⟩
    · simp only [updateAdapter, btStateSend, hsame.ctrlList]
    · simp only [updateAdapter, btStateSend, hreports]

end State

/-! ## One adapter -/

/-- The state after `bluetooth_open` and the first adapter. -/
def State.withAdapter (proxy : Proxy) (path : List UInt8) : State :=
  { State.opened with adapters := [proxy] }.adapterAdded proxy path

/-- The events of the devices of the default adapter. -/
def State.OfDevice (s : State) : Event → Prop
  | .deviceAdded _ props => ∃ ctrl, s.defaultAdapter = some ctrl ∧ props.adapter = some ctrl.path
  | .deviceChanged _ (.connected _) => True
  | .deviceRemoved _ => True
  | _ => False

/-- The devices of one adapter, which stays. -/
def deviceSystem : System State Event where
  init := fun s => ∃ proxy path, s = State.withAdapter proxy path
  step := fun s e t => s.OfDevice e ∧ s.next e = some t

/-- No device is connected when it appears. -/
def State.AddedUnconnected (_ : State) : Event → Prop
  | .deviceAdded _ props => props.connected ≠ some true
  | _ => True

/-- The event says that the device is connected now. -/
def Event.Connects (p : Proxy) : Event → Prop
  | .deviceAdded q props => q = p ∧ props.connected = some true
  | .deviceChanged q (.connected true) => q = p
  | _ => False

/-- The invariant: `a` is the only adapter, every present device has a record, and a record
has the `Connected` value of its device. -/
structure State.Tracked (s : State) (a : Adapter) : Prop where
  mirrored : s.Mirrored none
  only : s.ctrlList = [a]
  isDefault : s.defaultCtrl = some a.id
  listed : ∀ p ∈ s.present, p ∈ a.devices
  connected : ∀ r ∈ a.appDevs, ∀ v, (s.props r.data).connected = some v → r.connected = v

theorem State.findParent_single {s : State} {a : Adapter} {p : Proxy} (h : s.ctrlList = [a])
    (hp : (s.props p).adapter = some a.path) : s.findParent p = some a := by
  rw [findParent, h]
  exact List.find?_cons_of_pos (decide_eq_true hp)

namespace State.Tracked

variable {s : State} {a : Adapter} {p : Proxy}

theorem mem (h : s.Tracked a) : a ∈ s.ctrlList := h.only ▸ List.mem_singleton_self a

theorem defaultAdapter (h : s.Tracked a) : s.defaultAdapter = some a :=
  h.mirrored.defaultAdapter_eq h.mem h.isDefault

theorem updateAdapter_ctrlList (h : s.Tracked a) (f : Adapter → Adapter) :
    (s.updateAdapter a.id f).ctrlList = [f a] := by
  rw [updateAdapter, h.only, List.map_singleton, if_pos rfl]

theorem deviceAdded (h : s.Tracked a) {props : DeviceProps}
    (hlegal : s.Legal (.deviceAdded p props)) (hadapter : props.adapter = some a.path)
    (hconnected : props.connected ≠ some true) :
    (({ s with present := p :: s.present }.cache p props).deviceAdded p).Tracked { a with
      devices := a.devices ++ [p], appDevs := a.appDevs ++ [RemoteDev.new p props] } := by
  have hmirrored := h.mirrored.deviceAdded hlegal.1 hlegal.2.1 hlegal.2.2
  have hprops : ({ s with present := p :: s.present }.cache p props).props p = props :=
    Function.update_self ..
  have hparent : ({ s with present := p :: s.present }.cache p props).findParent p = some a :=
    findParent_single h.only (by rw [hprops, hadapter])
  have hsame := sameLists_deviceAdded hparent
  rw [hprops] at hsame
  refine ⟨hmirrored, ?_, ?_, ?_, ?_⟩
  · rw [hsame.ctrlList]
    exact h.updateAdapter_ctrlList _
  · rw [hsame.defaultCtrl]
    exact h.isDefault
  · rw [hsame.present]
    intro q hq
    rcases List.mem_cons.mp hq with rfl | hq
    · exact List.mem_append_right _ (List.mem_singleton_self _)
    · exact List.mem_append_left _ (h.listed q hq)
  · rw [hsame.props]
    intro r hr v hv
    rcases List.mem_append.mp hr with hr | hr
    · have hne : r.data ≠ p := fun heq =>
        hlegal.1 (heq ▸ ((h.mirrored.listed a h.mem).present _ (h.mirrored.mem_devices h.mem hr)).1)
      refine h.connected r hr v ?_
      rw [← hv]
      exact congrArg DeviceProps.connected (Function.update_of_ne hne ..).symm
    · obtain rfl := List.mem_singleton.mp hr
      rw [RemoteDev.new_data] at hv
      have hv : props.connected = some v := by
        rw [← hprops]
        exact hv
      rw [RemoteDev.new_connected]
      cases v with
      | false => rfl
      | true => exact absurd hv hconnected

theorem deviceChanged (h : s.Tracked a) {b : Bool} {t : State}
    (hlegal : s.Legal (.deviceChanged p (.connected b)))
    (ht : s.handle (.deviceChanged p (.connected b)) = some t) :
    ∃ rdev : RemoteDev, rdev.data = p ∧
      t.Tracked { a with
        appDevs := FirstMatch.update (fun r => r.data = p) (fun _ => rdev) a.appDevs } ∧
      rdev ∈ FirstMatch.update (fun r => r.data = p) (fun _ => rdev) a.appDevs ∧
      t.reports = s.reports ++ [⟨some rdev, if b then .connected else .disconn⟩] := by
  obtain rfl := Option.some.inj ht
  have hmirrored := h.mirrored.deviceChanged hlegal.1 hlegal.2 (fun haddress => nomatch haddress)
  set u := s.cache p ((Change.connected b).apply (s.props p)) with hu
  have hprops : u.props p = (Change.connected b).apply (s.props p) := Function.update_self ..
  have hlisted := h.mirrored.listed a h.mem
  have hp := h.listed p hlegal.1
  have hrecord : ∃ r ∈ a.appDevs, r.data = p := List.mem_map.mp (hlisted.mirror ▸ hp)
  have hchild : (u.props p).adapter = some a.path := by
    rw [hprops, Change.apply_adapter]
    exact (hlisted.present p hp).2
  obtain ⟨rdev, -, hdata, hsame, hsent⟩ :=
    propertyChanged_listed (s := u) h.defaultAdapter hchild hrecord (.connected b)
  have hconnected : (u.props p).connected = some b := by
    rw [hprops]
    rfl
  obtain ⟨hflag, hstate⟩ := rdev.refresh_connected hconnected
  have hkey := (rdev.refresh_data (u.props p) (chars "Connected") .none).trans hdata
  refine ⟨_, hkey, ⟨hmirrored, ?_, ?_, ?_, ?_⟩, FirstMatch.mem_update_of_exists ?_ _, ?_⟩
  · rw [hsame.ctrlList]
    exact h.updateAdapter_ctrlList _
  · rw [hsame.defaultCtrl]
    exact h.isDefault
  · rw [hsame.present]
    exact h.listed
  · rw [hsame.props]
    intro r hr v hv
    have hnodup : (a.appDevs.map RemoteDev.data).Nodup := hlisted.mirror ▸ hlisted.nodup
    rcases FirstMatch.mem_update (fun r => decide_eq_true_iff) hnodup hr with
      ⟨-, -, -, rfl⟩ | ⟨hr, hne⟩
    · rw [hkey] at hv
      exact hflag.trans (Option.some.inj (hconnected.symm.trans hv))
    · refine h.connected r hr v ?_
      rw [← hv]
      exact congrArg DeviceProps.connected (Function.update_of_ne hne ..).symm
  · obtain ⟨r, hr, hrp⟩ := hrecord
    exact ⟨r, hr, decide_eq_true hrp⟩
  · rw [hsent, ← hstate]
    rfl

theorem deviceRemoved (h : s.Tracked a) (hp : p ∈ s.present) :
    { s.deviceRemoved p with present := s.present.filter (· ≠ p) }.Tracked (a.without p) := by
  have hkeeps : s.KeepsRecords (.deviceRemoved p) := by
    intro b hb _
    rw [h.only, List.mem_singleton] at hb
    exact .inl (hb ▸ h.listed p hp)
  have hlisted := h.mirrored.listed a h.mem
  have hparent := findParent_single h.only (hlisted.present p (h.listed p hp)).2
  have hsame := sameLists_deviceRemoved hparent fun b hb _ => by
    rw [h.only, List.mem_singleton] at hb
    exact hb
  refine ⟨h.mirrored.deviceRemoved hp hkeeps, ?_, ?_, ?_, ?_⟩
  · show (s.deviceRemoved p).ctrlList = [a.without p]
    rw [h.mirrored.deviceRemoved_ctrlList hp hkeeps, h.only, List.map_singleton]
  · show (s.deviceRemoved p).defaultCtrl = some a.id
    rw [hsame.defaultCtrl]
    exact h.isDefault
  · intro q hq
    obtain ⟨hq, hne⟩ := List.mem_filter.mp hq
    exact (List.mem_erase_of_ne (of_decide_eq_true hne)).mpr (h.listed q hq)
  · show ∀ r ∈ a.appDevs.eraseP _, ∀ v, ((s.deviceRemoved p).props r.data).connected = some v → _
    rw [hsame.props]
    exact fun r hr => h.connected r (List.mem_of_mem_eraseP hr)

/-- **Step.** -/
theorem next (h : s.Tracked a) {e : Event} {t : State} (hok : s.AddedUnconnected e)
    (hstep : deviceSystem.step s e t) : ∃ b, t.Tracked b := by
  obtain ⟨hof, hnext⟩ := hstep
  rw [State.next] at hnext
  split_ifs at hnext with hlegal
  cases e with
  | deviceAdded p props =>
    obtain ⟨ctrl, hctrl, hadapter⟩ := hof
    obtain rfl := Option.some.inj (h.defaultAdapter.symm.trans hctrl)
    obtain rfl := Option.some.inj hnext
    exact ⟨_, h.deviceAdded hlegal hadapter hok⟩
  | deviceChanged p change =>
    cases change with
    | connected b =>
      obtain ⟨rdev, -, htracked, -⟩ := h.deviceChanged hlegal hnext
      exact ⟨_, htracked⟩
    | _ => exact absurd hof id
  | deviceRemoved p =>
    obtain rfl := Option.some.inj hnext
    exact ⟨_, h.deviceRemoved hlegal⟩
  | _ => exact absurd hof id

end State.Tracked

theorem State.withAdapter_tracked (proxy : Proxy) (path : List UInt8) :
    (State.withAdapter proxy path).Tracked { id := 0, proxy := proxy, path := path } where
  mirrored := by
    have hopened : ({ State.opened with adapters := [proxy] } : State).Mirrored none :=
      State.mirrored_opened.congr ⟨rfl, rfl, rfl, rfl, rfl⟩
    exact hopened.adapterAdded fun _ ha => absurd ha List.not_mem_nil
  only := rfl
  isDefault := rfl
  listed := by
    intro p hp
    exact absurd hp List.not_mem_nil
  connected := by
    intro r hr
    exact absurd hr List.not_mem_nil

/-! ## Runs -/

theorem Reach.tracked {s : State} (h : Reach deviceSystem State.AddedUnconnected s) :
    ∃ a, s.Tracked a := by
  refine Reach.invariant (P := fun s => ∃ a, s.Tracked a) ?_ ?_ h
  · rintro s ⟨proxy, path, rfl⟩
    exact ⟨_, State.withAdapter_tracked proxy path⟩
  · rintro s e t ⟨a, ha⟩ hok hstep
    exact ha.next hok hstep

/-- **Connections are tracked.** As long as no device is connected when it appears, every
record returned has the last `Connected` value of its device, and whenever that becomes true
the callback gets the record with `RK_BT_STATE_CONNECTED`. -/
theorem connected_tracked {s : State} (h : Reach deviceSystem State.AddedUnconnected s) :
    (∀ rs, s.btGetDevices = some rs →
      ∀ r ∈ rs, ∀ v, (s.props r.data).connected = some v → r.connected = v) ∧
    ∀ e t p, s.AddedUnconnected e → deviceSystem.step s e t → e.Connects p →
      ∃ rs rdev, t.btGetDevices = some rs ∧ rdev ∈ rs ∧ rdev.data = p ∧
        t.reports = s.reports ++ [⟨some rdev, .connected⟩] := by
  obtain ⟨a, ha⟩ := Reach.tracked h
  constructor
  · intro rs hrs
    rw [State.btGetDevices, ha.defaultAdapter] at hrs
    obtain rfl := Option.some.inj hrs
    exact ha.connected
  · intro e t p hok hstep hconnects
    cases e with
    | deviceAdded q props => exact absurd hconnects.2 hok
    | deviceChanged q change =>
      cases change with
      | connected b =>
        cases b with
        | true =>
          obtain rfl : q = p := hconnects
          have hnext := hstep.2
          rw [State.next] at hnext
          split_ifs at hnext with hlegal
          obtain ⟨rdev, hdata, htracked, hmem, hreports⟩ := ha.deviceChanged hlegal hnext
          refine ⟨_, rdev, ?_, hmem, hdata, hreports⟩
          rw [State.btGetDevices, htracked.defaultAdapter]
          rfl
        | false => exact absurd hconnects id
      | _ => exact absurd hconnects id
    | _ => exact absurd hconnects id

theorem sampleDevice_ofDevice (b : UInt8) (connected : Bool) :
    (State.withAdapter 0 (hci 0)).OfDevice (.deviceAdded 2 (sampleDevice 0 b connected)) :=
  ⟨{ id := 0, proxy := 0, path := hci 0 }, rfl, rfl⟩

/-- A device appears and then connects. -/
theorem connected_tracked_change :
    ∃ s : State, s.reports.map Report.state = [.scanNewRemoteDev, .connected] ∧
      ∀ rs, s.btGetDevices = some rs →
        ∀ r ∈ rs, ∀ v, (s.props r.data).connected = some v → r.connected = v := by
  have hrun : ([.deviceAdded 2 (sampleDevice 0 65 false), .deviceChanged 2 (.connected true)].foldlM
      State.next (State.withAdapter 0 (hci 0))).map (fun s => s.reports.map Report.state) =
      some [.scanNewRemoteDev, .connected] := by decide
  obtain ⟨s, hs, hreports⟩ := Option.map_eq_some_iff.mp hrun
  rw [List.foldlM_cons] at hs
  obtain ⟨t, ht, hs⟩ := Option.bind_eq_some_iff.mp hs
  rw [List.foldlM_cons] at hs
  obtain ⟨u, hu, hs⟩ := Option.bind_eq_some_iff.mp hs
  obtain rfl := Option.some.inj hs
  have hstart : Reach deviceSystem State.AddedUnconnected (State.withAdapter 0 (hci 0)) :=
    .start ⟨0, hci 0, rfl⟩
  have hok : (State.withAdapter 0 (hci 0)).AddedUnconnected
      (.deviceAdded 2 (sampleDevice 0 65 false)) := fun h => nomatch h
  have hadded := hstart.next hok ⟨sampleDevice_ofDevice 65 false, ht⟩
  have hchange : t.AddedUnconnected (.deviceChanged 2 (.connected true)) := trivial
  have hchanged := hadded.next hchange ⟨show t.OfDevice _ from trivial, hu⟩
  exact ⟨u, hreports, (connected_tracked hchanged).1⟩

/-- A device that is connected when it appears: its record says that it is not, and the
callback is never told. -/
theorem connected_missed :
    ∃ s, Reach deviceSystem (fun _ _ => True) s ∧
      (¬ ∀ rs, s.btGetDevices = some rs →
        ∀ r ∈ rs, ∀ v, (s.props r.data).connected = some v → r.connected = v) ∧
      ¬ ∃ r ∈ s.reports, r.state = .connected := by
  have hrun : ((State.withAdapter 0 (hci 0)).next (.deviceAdded 2 (sampleDevice 0 65 true))).map
      (fun s => (s.btGetDevices.map fun rs => rs.map fun r => (r.data, r.connected),
        (s.props 2).connected, s.reports.map Report.state)) =
      some (some [(2, false)], some true, [.scanNewRemoteDev]) := by decide
  obtain ⟨s, hs, hvalues⟩ := Option.map_eq_some_iff.mp hrun
  obtain ⟨hrecords, hvalues⟩ := Prod.mk.inj hvalues
  obtain ⟨hconnected, hreports⟩ := Prod.mk.inj hvalues
  refine ⟨s, .next (.start ⟨0, hci 0, rfl⟩) trivial ⟨sampleDevice_ofDevice 65 true, hs⟩,
    fun htracked => ?_, ?_⟩
  · obtain ⟨rs, hrs, hflags⟩ := Option.map_eq_some_iff.mp hrecords
    have hmem : (2, false) ∈ rs.map fun r => (r.data, r.connected) := by
      rw [hflags]
      exact List.mem_singleton_self _
    obtain ⟨r, hr, hpair⟩ := List.mem_map.mp hmem
    obtain ⟨hdata, hflag⟩ := Prod.mk.inj hpair
    have hbad := htracked rs hrs r hr true (by rw [hdata]; exact hconnected)
    rw [hflag] at hbad
    cases hbad
  · rintro ⟨r, hr, hstate⟩
    have hmem := List.mem_map_of_mem (f := Report.state) hr
    rw [hreports, hstate] at hmem
    cases List.mem_singleton.mp hmem

end ConnectApp.Bluez
