import ConnectApp.Bluez.Bus

/-!
# The records mirror the devices

`device_added` appends to `devices` and to `app_devs` together, but `device_removed` looks
for the record by the text of its address. When no record has the address, its loop variable
is left at the last record, and that one is deleted. So the two lists stay in step only as
long as every record knows the present address of its device: `property_changed` refreshes it
for devices of the default adapter only.

`records_mirror` is about the runs in which addresses change on the default adapter only and
a device is removed only from an adapter that lists it; `last_record_deleted` is a run in
which an address changes on a second adapter. The invariant is `Mirrored`.
-/

namespace ConnectApp.Bluez

open CString Transition

namespace State

/-- The two lists of an adapter agree, and what they list is present and belongs to it. -/
structure Listed (s : State) (a : Adapter) : Prop where
  mirror : a.appDevs.map RemoteDev.data = a.devices
  nodup : a.devices.Nodup
  present : ∀ d ∈ a.devices, d ∈ s.present ∧ (s.props d).adapter = some a.path

/-- The record has the present address of its device. -/
def Addressed (s : State) (r : RemoteDev) : Prop :=
  ∃ addr, (s.props r.data).address = some addr ∧ r.remoteAddress = addr

theorem Addressed.congr {s t : State} {r : RemoteDev} (h : s.Addressed r) (hsame : SameLists s t) :
    t.Addressed r := by
  unfold Addressed
  rw [hsame.props]
  exact h

/-- The invariant. The records of the device `stale` need not have its present address. -/
structure Mirrored (s : State) (stale : Option Proxy) : Prop where
  ids : (s.ctrlList.map Adapter.id).Nodup
  fresh : ∀ a ∈ s.ctrlList, a.id < s.fresh
  paths : (s.ctrlList.map Adapter.path).Nodup
  distinct : ∀ p ∈ s.present, (s.props p).address ≠ none ∧ s.AddressFree p (s.props p)
  listed : ∀ a ∈ s.ctrlList, s.Listed a
  addressed : ∀ a ∈ s.ctrlList, ∀ r ∈ a.appDevs, some r.data ≠ stale → s.Addressed r

namespace Mirrored

variable {s t : State} {stale : Option Proxy}

theorem id_inj (h : s.Mirrored stale) {a b : Adapter} (ha : a ∈ s.ctrlList) (hb : b ∈ s.ctrlList)
    (hid : a.id = b.id) : a = b :=
  List.inj_on_of_nodup_map h.ids ha hb hid

theorem path_inj (h : s.Mirrored stale) {a b : Adapter} (ha : a ∈ s.ctrlList)
    (hb : b ∈ s.ctrlList) (hpath : a.path = b.path) : a = b :=
  List.inj_on_of_nodup_map h.paths ha hb hpath

theorem mem_devices (h : s.Mirrored stale) {a : Adapter} (ha : a ∈ s.ctrlList) {r : RemoteDev}
    (hr : r ∈ a.appDevs) : r.data ∈ a.devices :=
  (h.listed a ha).mirror ▸ List.mem_map_of_mem hr

theorem addressed_none (h : s.Mirrored none) {a : Adapter} (ha : a ∈ s.ctrlList) {r : RemoteDev}
    (hr : r ∈ a.appDevs) : s.Addressed r :=
  h.addressed a ha r hr nofun

/-- A device is listed by one adapter at most. -/
theorem adapter_unique (h : s.Mirrored stale) {a b : Adapter} (ha : a ∈ s.ctrlList)
    (hb : b ∈ s.ctrlList) {p : Proxy} (hp : p ∈ a.devices)
    (hadapter : (s.props p).adapter = some b.path) : a = b := by
  refine h.path_inj ha hb ?_
  have hpath := ((h.listed a ha).present p hp).2
  exact Option.some.inj (hpath.symm.trans hadapter)

theorem congr (h : s.Mirrored stale) (hsame : SameLists s t) : t.Mirrored stale := by
  obtain ⟨hctrl, hdefault, hpresent, hprops, hfresh⟩ := hsame
  constructor
  · rw [hctrl]
    exact h.ids
  · rw [hctrl, hfresh]
    exact h.fresh
  · rw [hctrl]
    exact h.paths
  · unfold AddressFree
    rw [hpresent, hprops]
    exact h.distinct
  · intro a ha
    rw [hctrl] at ha
    obtain ⟨hmirror, hnodup, hmine⟩ := h.listed a ha
    refine ⟨hmirror, hnodup, ?_⟩
    rw [hpresent, hprops]
    exact hmine
  · intro a ha r hr hne
    rw [hctrl] at ha
    exact (h.addressed a ha r hr hne).congr ⟨hctrl, hdefault, hpresent, hprops, hfresh⟩

/-- All records of the device are up to date after all. -/
theorem settle {p : Proxy} (h : s.Mirrored (some p))
    (hp : ∀ a ∈ s.ctrlList, ∀ r ∈ a.appDevs, r.data = p → s.Addressed r) : s.Mirrored none where
  ids := h.ids
  fresh := h.fresh
  paths := h.paths
  distinct := h.distinct
  listed := h.listed
  addressed := by
    intro a ha r hr _
    by_cases hrp : r.data = p
    · exact hp a ha r hr hrp
    · exact h.addressed a ha r hr fun heq => hrp (Option.some.inj heq)

/-- The devices on the bus change, those listed by an adapter keep what the invariant says
about them, the address of `p` apart. -/
theorem rebus (h : s.Mirrored none) {present : List Proxy} {props : Proxy → DeviceProps} {p : Proxy}
    (hdistinct : ∀ q ∈ present, (props q).address ≠ none ∧
      { s with present := present, props := props }.AddressFree q (props q))
    (hlisted : ∀ a ∈ s.ctrlList, ∀ d ∈ a.devices,
      d ∈ present ∧ (props d).adapter = (s.props d).adapter ∧
        (d ≠ p → (props d).address = (s.props d).address)) :
    { s with present := present, props := props }.Mirrored (some p) where
  ids := h.ids
  fresh := h.fresh
  paths := h.paths
  distinct := hdistinct
  listed := by
    intro a ha
    obtain ⟨hmirror, hnodup, hmine⟩ := h.listed a ha
    refine ⟨hmirror, hnodup, fun d hd => ?_⟩
    obtain ⟨hpresent, hadapter, -⟩ := hlisted a ha d hd
    exact ⟨hpresent, hadapter.trans (hmine d hd).2⟩
  addressed := by
    intro a ha r hr hne
    obtain ⟨-, -, haddress⟩ := hlisted a ha r.data (h.mem_devices ha hr)
    obtain ⟨addr, haddr, hremote⟩ := h.addressed_none ha hr
    exact ⟨addr, (haddress fun heq => hne (congrArg some heq)).trans haddr, hremote⟩

/-- An assignment to one adapter that keeps its lists in step. -/
theorem update (h : s.Mirrored stale) {stale' : Option Proxy} {a : Adapter} {f : Adapter → Adapter}
    (ha : a ∈ s.ctrlList) (hid : ∀ b, (f b).id = b.id) (hpath : ∀ b, (f b).path = b.path)
    (hlisted : s.Listed (f a))
    (haddressed : ∀ r ∈ (f a).appDevs, some r.data ≠ stale' → s.Addressed r)
    (hother : ∀ b ∈ s.ctrlList, b ≠ a → ∀ r ∈ b.appDevs, some r.data ≠ stale' → s.Addressed r) :
    (s.updateAdapter a.id f).Mirrored stale' := by
  have hids : (s.updateAdapter a.id f).ctrlList.map Adapter.id = s.ctrlList.map Adapter.id := by
    rw [updateAdapter, List.map_map]
    refine List.map_congr_left fun b _ => ?_
    show (if b.id = a.id then f b else b).id = b.id
    split_ifs
    · exact hid b
    · rfl
  have hpaths : (s.updateAdapter a.id f).ctrlList.map Adapter.path =
      s.ctrlList.map Adapter.path := by
    rw [updateAdapter, List.map_map]
    refine List.map_congr_left fun b _ => ?_
    show (if b.id = a.id then f b else b).path = b.path
    split_ifs
    · exact hpath b
    · rfl
  -- an adapter afterwards is the changed one or another one as before
  have hcases : ∀ c ∈ (s.updateAdapter a.id f).ctrlList, c = f a ∨ c ∈ s.ctrlList ∧ c ≠ a := by
    intro c hc
    obtain ⟨b, hb, rfl⟩ := List.mem_map.mp hc
    split_ifs with hbid
    · exact .inl (by rw [h.id_inj hb ha hbid])
    · exact .inr ⟨hb, fun heq => hbid (by rw [heq])⟩
  refine ⟨hids ▸ h.ids, ?_, hpaths ▸ h.paths, h.distinct, ?_, ?_⟩
  · intro c hc
    rcases hcases c hc with rfl | ⟨hc, -⟩
    · rw [hid]
      exact h.fresh a ha
    · exact h.fresh c hc
  · intro c hc
    rcases hcases c hc with rfl | ⟨hc, -⟩
    · exact ⟨hlisted.mirror, hlisted.nodup, hlisted.present⟩
    · exact ⟨(h.listed c hc).mirror, (h.listed c hc).nodup, (h.listed c hc).present⟩
  · intro c hc r hr hne
    rcases hcases c hc with rfl | ⟨hc, hca⟩
    · exact haddressed r hr hne
    · exact hother c hc hca r hr hne

/-! ## Changes of a device -/

/-- `bt_state_change` brings the record of its device up to date. -/
theorem changeRecord {p : Proxy} (h : s.Mirrored (some p)) {ctrl : Adapter}
    (hctrl : ctrl ∈ s.ctrlList)
    (hp : ∀ a ∈ s.ctrlList, ∀ r ∈ a.appDevs, r.data = p → a = ctrl ∨ s.Addressed r)
    (hpresent : p ∈ ctrl.devices → (s.props p).address ≠ none)
    (change : List UInt8) (newState : BtState) :
    (s.changeRecord ctrl p change newState).Mirrored none := by
  obtain ⟨heq, hnone⟩ | ⟨rdev, hrdev, hdata, heq⟩ := s.changeRecord_cases ctrl p change newState
  · rw [heq]
    refine h.settle fun a ha r hr hrp => ?_
    refine (hp a ha r hr hrp).resolve_left ?_
    rintro rfl
    exact hnone r hr hrp
  · rw [heq]
    refine congr ?_ (sameLists_btStateSend ..)
    obtain ⟨hmirror, hnodup, hmine⟩ := h.listed ctrl hctrl
    obtain ⟨addr, haddr⟩ :=
      Option.ne_none_iff_exists'.mp (hpresent (hdata ▸ h.mem_devices hctrl hrdev))
    have hkey : (rdev.refresh (s.props p) change newState).1.data = p :=
      (rdev.refresh_data ..).trans hdata
    have haddressed : s.Addressed (rdev.refresh (s.props p) change newState).1 :=
      ⟨addr, by rw [hkey, haddr], RemoteDev.refresh_remoteAddress haddr change newState⟩
    have hrecords : (FirstMatch.update (fun r => decide (r.data = p))
        (fun _ => (rdev.refresh (s.props p) change newState).1) ctrl.appDevs).map RemoteDev.data =
        ctrl.devices := by
      rw [← hmirror]
      refine FirstMatch.map_update (fun r hr => ?_) ctrl.appDevs
      rw [hkey, of_decide_eq_true hr]
    refine h.update hctrl (fun _ => rfl) (fun _ => rfl) ⟨hrecords, hnodup, hmine⟩ ?_ ?_
    · intro r hr _
      have hnodup' : (ctrl.appDevs.map RemoteDev.data).Nodup := hmirror ▸ hnodup
      rcases FirstMatch.mem_update (fun r => decide_eq_true_iff) hnodup' hr with
        ⟨x, -, -, rfl⟩ | ⟨hr, hne⟩
      · exact haddressed
      · exact h.addressed ctrl hctrl r hr fun heq => hne (Option.some.inj heq)
    · intro a ha hne r hr _
      by_cases hrp : r.data = p
      · exact (hp a ha r hr hrp).resolve_left hne
      · exact h.addressed a ha r hr fun heq => hrp (Option.some.inj heq)

/-- The addresses stay distinct when the properties of one device are set. -/
theorem distinct_update (h : s.Mirrored stale) {p : Proxy} {props : DeviceProps}
    {present : List Proxy} (hpresent : ∀ q ∈ present, q = p ∨ q ∈ s.present)
    (haddress : props.address ≠ none) (hfree : s.AddressFree p props) :
    ∀ q ∈ present, (Function.update s.props p props q).address ≠ none ∧
      { s with present := present, props := Function.update s.props p props }.AddressFree q
        (Function.update s.props p props q) := by
  intro q hq
  by_cases hqp : q = p
  · subst hqp
    rw [Function.update_self]
    refine ⟨haddress, fun r hr hne => ?_⟩
    show (Function.update s.props q props r).adapter = _ → (Function.update s.props q props r).address ≠ _
    rw [Function.update_of_ne hne]
    exact hfree r ((hpresent r hr).resolve_left hne) hne
  · rw [Function.update_of_ne hqp]
    have hq := (hpresent q hq).resolve_left hqp
    refine ⟨(h.distinct q hq).1, fun r hr hne => ?_⟩
    show (Function.update s.props p props r).adapter = _ → (Function.update s.props p props r).address ≠ _
    by_cases hrp : r = p
    · rw [hrp, Function.update_self]
      exact fun hadapter heq => hfree q hq hqp hadapter.symm heq.symm
    · rw [Function.update_of_ne hrp]
      exact (h.distinct q hq).2 r ((hpresent r hr).resolve_left hrp) hne

end Mirrored

/-- The steps that keep the lists in step. The paths of the adapters differ, also in more
than the case of their letters; the address of a listed device changes only on the default
adapter; a device is removed only from an adapter that lists it, or that lists none. -/
def KeepsRecords (s : State) : Event → Prop
  | .adapterAdded _ path => ∀ a ∈ s.ctrlList, eqIgnoringCase a.path path = false
  | .deviceChanged p change =>
    change.isAddress = true → ∀ a ∈ s.ctrlList, p ∈ a.devices → s.defaultCtrl = some a.id
  | .deviceRemoved p =>
    ∀ a ∈ s.ctrlList, (s.props p).adapter = some a.path → p ∈ a.devices ∨ a.devices = []
  | _ => True

namespace Mirrored

variable {s : State} {p : Proxy}

theorem defaultAdapter_eq {stale : Option Proxy} (h : s.Mirrored stale) {a : Adapter}
    (ha : a ∈ s.ctrlList) (hdefault : s.defaultCtrl = some a.id) : s.defaultAdapter = some a := by
  rw [defaultAdapter, hdefault, Option.bind_some]
  cases hfind : s.ctrlList.find? (fun b => b.id = a.id) with
  | none =>
    have hne := List.find?_eq_none.mp hfind a ha
    simp at hne
  | some b =>
    have hid := List.find?_some hfind
    rw [h.id_inj (List.mem_of_find?_eq_some hfind) ha (of_decide_eq_true hid)]

theorem deviceChanged (h : s.Mirrored none) (hp : p ∈ s.present) {change : Change}
    (hfree : s.AddressFree p (change.apply (s.props p)))
    (hkeeps : s.KeepsRecords (.deviceChanged p change)) :
    ((s.cache p (change.apply (s.props p))).propertyChanged p change).Mirrored none := by
  have haddress : (change.apply (s.props p)).address ≠ none := by
    obtain ⟨a, -, ha⟩ | heq := change.apply_address (s.props p)
    · rw [ha]
      exact Option.some_ne_none a
    · rw [heq]
      exact (h.distinct p hp).1
  have hstale : (s.cache p (change.apply (s.props p))).Mirrored (some p) := by
    refine h.rebus (h.distinct_update (fun _ => .inr) haddress hfree) fun a ha d hd => ?_
    refine ⟨((h.listed a ha).present d hd).1, ?_, fun hne => by rw [Function.update_of_ne hne]⟩
    by_cases hdp : d = p
    · rw [hdp, Function.update_self, Change.apply_adapter]
    · rw [Function.update_of_ne hdp]
  -- outside the default adapter the address has not changed
  have hother : ∀ a ∈ s.ctrlList, ∀ r ∈ a.appDevs, r.data = p →
      s.defaultCtrl = some a.id ∨ (s.cache p (change.apply (s.props p))).Addressed r := by
    intro a ha r hr hrp
    obtain ⟨addr, rfl, -⟩ | heq := change.apply_address (s.props p)
    · exact .inl (hkeeps rfl a ha (hrp ▸ h.mem_devices ha hr))
    · obtain ⟨addr, haddr, hremote⟩ := h.addressed_none ha hr
      refine .inr ⟨addr, ?_, hremote⟩
      show (Function.update s.props p (change.apply (s.props p)) r.data).address = some addr
      rw [hrp, Function.update_self, heq, ← hrp, haddr]
  have hprops : (s.cache p (change.apply (s.props p))).props p = change.apply (s.props p) :=
    Function.update_self ..
  generalize hu : s.cache p (change.apply (s.props p)) = u at hstale hother hprops ⊢
  have hlist : u.ctrlList = s.ctrlList := by rw [← hu, cache]
  have hdefault : u.defaultCtrl = s.defaultCtrl := by rw [← hu, cache]
  rw [← hlist, ← hdefault] at hother
  unfold State.propertyChanged
  split
  · next hnone =>
    refine hstale.settle fun a ha r hr hrp => (hother a ha r hr hrp).resolve_left fun hid => ?_
    rw [hstale.defaultAdapter_eq ha hid] at hnone
    cases hnone
  · next ctrl hsome =>
    obtain ⟨hctrl, hid⟩ := mem_defaultAdapter hsome
    have hother : ∀ a ∈ u.ctrlList, ∀ r ∈ a.appDevs, r.data = p → a = ctrl ∨ u.Addressed r := by
      intro a ha r hr hrp
      refine (hother a ha r hr hrp).imp_left fun haid => ?_
      exact hstale.id_inj ha hctrl (Option.some.inj (haid.symm.trans hid))
    split_ifs with hchild
    · have hsame := u.sameLists_followConnected p change
      refine (hstale.congr hsame).changeRecord (hsame.ctrlList ▸ hctrl) ?_ ?_ _ _
      · rw [hsame.ctrlList]
        exact fun a ha r hr hrp => (hother a ha r hr hrp).imp_right fun hr => hr.congr hsame
      · rw [hsame.props, hprops]
        exact fun _ => haddress
    · -- a device of another adapter has no record here
      refine hstale.settle fun a ha r hr hrp => (hother a ha r hr hrp).resolve_left ?_
      rintro rfl
      have hmine := ((hstale.listed a ha).present p (hrp ▸ hstale.mem_devices ha hr)).2
      exact hchild (decide_eq_true hmine)

theorem deviceAdded (h : s.Mirrored none) (hp : p ∉ s.present) {props : DeviceProps}
    (haddress : props.address ≠ none) (hfree : s.AddressFree p props) :
    (({ s with present := p :: s.present }.cache p props).deviceAdded p).Mirrored none := by
  have hfresh : ∀ a ∈ s.ctrlList, p ∉ a.devices := fun a ha hd =>
    hp ((h.listed a ha).present p hd).1
  have hstale : ({ s with present := p :: s.present }.cache p props).Mirrored (some p) := by
    refine h.rebus (h.distinct_update (fun _ => List.mem_cons.mp) haddress hfree) ?_
    intro a ha d hd
    have hne : d ≠ p := fun heq => hfresh a ha (heq ▸ hd)
    rw [Function.update_of_ne hne]
    exact ⟨List.mem_cons_of_mem p ((h.listed a ha).present d hd).1, rfl, fun _ => rfl⟩
  have hmirrored := hstale.settle fun a ha r hr hrp =>
    absurd (hrp ▸ h.mem_devices ha hr) (hfresh a ha)
  have hprops : ({ s with present := p :: s.present }.cache p props).props p = props :=
    Function.update_self ..
  have hpresent : p ∈ ({ s with present := p :: s.present }.cache p props).present :=
    List.mem_cons_self
  generalize hu : { s with present := p :: s.present }.cache p props = u at *
  have hlist : u.ctrlList = s.ctrlList := by rw [← hu, cache]
  rw [← hlist] at hfresh
  cases hparent : u.findParent p with
  | none => rwa [State.deviceAdded, hparent]
  | some a =>
    refine Mirrored.congr ?_ (sameLists_deviceAdded hparent)
    obtain ⟨ha, hchild⟩ := findParent_eq_some hparent
    obtain ⟨hmirror, hnodup, hmine⟩ := hmirrored.listed a ha
    refine hmirrored.update ha (fun _ => rfl) (fun _ => rfl) ⟨?_, ?_, ?_⟩ ?_ ?_
    · show (a.appDevs ++ [_]).map _ = a.devices ++ [p]
      rw [List.map_append, hmirror, List.map_singleton, RemoteDev.new_data]
    · exact List.concat_eq_append ▸ hnodup.concat (hfresh a ha)
    · intro d hd
      rcases List.mem_append.mp hd with hd | hd
      · exact hmine d hd
      · rw [List.mem_singleton.mp hd]
        exact ⟨hpresent, hchild⟩
    · intro r hr _
      rcases List.mem_append.mp hr with hr | hr
      · exact hmirrored.addressed_none ha hr
      · obtain ⟨addr, haddr⟩ := Option.ne_none_iff_exists'.mp haddress
        rw [List.mem_singleton.mp hr, hprops]
        refine ⟨addr, ?_, RemoteDev.new_remoteAddress haddr⟩
        rw [RemoteDev.new_data, hprops, haddr]
    · exact fun b hb _ r hr _ => hmirrored.addressed_none hb hr

end Mirrored

end State

/-! ## Removal of a device -/

/-- The adapter without one of its devices and that device's record. -/
def Adapter.without (p : Proxy) (a : Adapter) : Adapter :=
  { a with
    devices := a.devices.erase p
    appDevs := a.appDevs.eraseP fun r => r.data = p }

namespace State

theorem Listed.without_eq_self {s : State} {a : Adapter} (h : s.Listed a) {p : Proxy}
    (hp : p ∉ a.devices) : a.without p = a := by
  have hrecords : ∀ r ∈ a.appDevs, ¬ decide (r.data = p) = true := by
    intro r hr heq
    rw [← h.mirror] at hp
    exact hp (of_decide_eq_true heq ▸ List.mem_map_of_mem hr)
  rw [Adapter.without, List.erase_of_not_mem hp, List.eraseP_of_forall_not hrecords]

theorem Listed.without {s : State} {a : Adapter} (h : s.Listed a) (p : Proxy) :
    s.Listed (a.without p) where
  mirror := by
    show (a.appDevs.eraseP _).map _ = a.devices.erase p
    rw [← h.mirror, List.erase_eq_eraseP, List.eraseP_map]
    refine congrArg _ (congrArg (fun q => List.eraseP q a.appDevs) ?_)
    funext r
    exact decide_eq_decide.mpr eq_comm
  nodup := h.nodup.erase p
  present := fun d hd => h.present d (List.mem_of_mem_erase hd)

namespace Mirrored

variable {s : State} {p : Proxy}

/-- Among the records of an adapter the address of a listed device is its own only. -/
theorem hasAddress_eq (h : s.Mirrored none) {a : Adapter} (ha : a ∈ s.ctrlList)
    (hp : p ∈ a.devices) {addr : BdAddr} (haddr : (s.props p).address = some addr)
    {r : RemoteDev} (hr : r ∈ a.appDevs) : hasAddress addr r = decide (r.data = p) := by
  obtain ⟨raddr, hraddr, hremote⟩ := h.addressed_none ha hr
  rw [hasAddress, hremote, Bool.eq_iff_iff, eqFirst_iff raddr.2.le addr.2.le, decide_eq_true_iff]
  constructor
  · intro heq
    by_contra hne
    have hrp := (h.listed a ha).present r.data (h.mem_devices ha hr)
    have hpp := (h.listed a ha).present p hp
    refine (h.distinct p hpp.1).2 r.data hrp.1 hne (hrp.2.trans hpp.2.symm) ?_
    rw [hraddr, haddr, Subtype.ext heq]
  · intro heq
    rw [heq, haddr] at hraddr
    rw [Option.some.inj hraddr]

theorem keptRecords_eq (h : s.Mirrored none) (hpresent : p ∈ s.present) {a : Adapter}
    (ha : a ∈ s.ctrlList) (hp : p ∈ a.devices ∨ a.devices = []) :
    keptRecords (s.props p).address a.appDevs = a.appDevs.eraseP fun r => r.data = p := by
  obtain ⟨addr, haddr⟩ := Option.ne_none_iff_exists'.mp (h.distinct p hpresent).1
  rw [haddr, keptRecords]
  rcases hp with hp | hempty
  · have hrecord : ∃ r ∈ a.appDevs, decide (r.data = p) = true := by
      rw [← (h.listed a ha).mirror] at hp
      obtain ⟨r, hr, hrp⟩ := List.mem_map.mp hp
      exact ⟨r, hr, decide_eq_true hrp⟩
    obtain ⟨i, hi, herase⟩ :=
      FirstMatch.eraseIdx_stop (fun r hr => h.hasAddress_eq ha hp haddr hr) hrecord
    rw [hi]
    exact herase
  · have hnil : a.appDevs = [] := List.map_eq_nil_iff.mp ((h.listed a ha).mirror.trans hempty)
    rw [hnil]
    rfl

/-- A removed device takes its own record with it. -/
theorem deviceRemoved_ctrlList (h : s.Mirrored none) (hpresent : p ∈ s.present)
    (hkeeps : s.KeepsRecords (.deviceRemoved p)) :
    (s.deviceRemoved p).ctrlList = s.ctrlList.map (Adapter.without p) := by
  cases hparent : s.findParent p with
  | none =>
    rw [State.deviceRemoved, hparent, List.map_congr_left, List.map_id]
    intro a ha
    refine (h.listed a ha).without_eq_self fun hp => ?_
    have hne := List.find?_eq_none.mp hparent a ha
    exact hne (decide_eq_true ((h.listed a ha).present p hp).2)
  | some adapter =>
    obtain ⟨hadapter, hchild⟩ := findParent_eq_some hparent
    have hids := fun a ha hid => h.id_inj (a := a) (b := adapter) ha hadapter hid
    rw [(sameLists_deviceRemoved hparent hids).ctrlList]
    refine List.map_congr_left fun a ha => ?_
    split_ifs with hid
    · obtain rfl := hids a ha hid
      dsimp only
      rw [h.keptRecords_eq hpresent ha (hkeeps a ha hchild)]
      rfl
    · refine ((h.listed a ha).without_eq_self fun hp => hid ?_).symm
      rw [h.adapter_unique ha hadapter hp hchild]

theorem deviceRemoved (h : s.Mirrored none) (hpresent : p ∈ s.present)
    (hkeeps : s.KeepsRecords (.deviceRemoved p)) :
    { s.deviceRemoved p with present := s.present.filter (· ≠ p) }.Mirrored none := by
  have hlist := h.deviceRemoved_ctrlList hpresent hkeeps
  obtain ⟨hprops, hfresh⟩ :
      (s.deviceRemoved p).props = s.props ∧ (s.deviceRemoved p).fresh = s.fresh := by
    cases hparent : s.findParent p with
    | none => rw [State.deviceRemoved, hparent]; exact ⟨rfl, rfl⟩
    | some adapter =>
      have hids := fun a ha hid =>
        h.id_inj (a := a) (b := adapter) ha (findParent_eq_some hparent).1 hid
      have hsame := sameLists_deviceRemoved hparent hids
      exact ⟨hsame.props, hsame.fresh⟩
  constructor
  · show ((s.deviceRemoved p).ctrlList.map Adapter.id).Nodup
    rw [hlist, List.map_map]
    exact h.ids
  · intro c hc
    rw [hlist] at hc
    obtain ⟨a, ha, rfl⟩ := List.mem_map.mp hc
    rw [hfresh]
    exact h.fresh a ha
  · show ((s.deviceRemoved p).ctrlList.map Adapter.path).Nodup
    rw [hlist, List.map_map]
    exact h.paths
  · intro q hq
    unfold AddressFree
    rw [hprops]
    obtain ⟨haddress, hfree⟩ := h.distinct q (List.mem_of_mem_filter hq)
    exact ⟨haddress, fun r hr => hfree r (List.mem_of_mem_filter hr)⟩
  · intro c hc
    rw [hlist] at hc
    obtain ⟨a, ha, rfl⟩ := List.mem_map.mp hc
    obtain ⟨hmirror, hnodup, hmine⟩ := (h.listed a ha).without p
    refine ⟨hmirror, hnodup, fun d hd => ?_⟩
    have hne := ((h.listed a ha).nodup.mem_erase_iff.mp hd).1
    rw [hprops]
    exact ⟨List.mem_filter.mpr ⟨(hmine d hd).1, decide_eq_true hne⟩, (hmine d hd).2⟩
  · intro c hc r hr _
    rw [hlist] at hc
    obtain ⟨a, ha, rfl⟩ := List.mem_map.mp hc
    unfold Addressed
    rw [hprops]
    exact h.addressed_none ha (List.mem_of_mem_eraseP hr)

/-! ## Adapters and replies -/

theorem adapterAdded (h : s.Mirrored none) {path : List UInt8}
    (hkeeps : s.KeepsRecords (.adapterAdded p path)) : (s.adapterAdded p path).Mirrored none := by
  have hctrl : s.findCtrl path = none :=
    List.find?_eq_none.mpr fun a ha => by rw [hkeeps a ha]; exact Bool.false_ne_true
  rw [State.adapterAdded, hctrl]
  have hnew : ∀ c ∈ (s.adapterNew p path).ctrlList,
      c ∈ s.ctrlList ∨ c = { id := s.fresh, proxy := p, path := path } := by
    intro c hc
    exact (List.mem_append.mp hc).imp_right List.mem_singleton.mp
  constructor
  · show ((s.ctrlList ++ [_]).map Adapter.id).Nodup
    rw [List.map_append, List.map_singleton, ← List.concat_eq_append]
    refine h.ids.concat fun hmem => ?_
    obtain ⟨a, ha, hid⟩ := List.mem_map.mp hmem
    exact absurd (h.fresh a ha) (hid ▸ lt_irrefl _)
  · intro c hc
    rcases hnew c hc with hc | rfl
    · exact (h.fresh c hc).trans (Nat.lt_succ_self _)
    · exact Nat.lt_succ_self _
  · show ((s.ctrlList ++ [_]).map Adapter.path).Nodup
    rw [List.map_append, List.map_singleton, ← List.concat_eq_append]
    refine h.paths.concat fun hmem => ?_
    obtain ⟨a, ha, hpath⟩ := List.mem_map.mp hmem
    have hne := hkeeps a ha
    rw [hpath, eqIgnoringCase, decide_eq_false_iff_not] at hne
    exact hne rfl
  · exact h.distinct
  · intro c hc
    rcases hnew c hc with hc | rfl
    · exact ⟨(h.listed c hc).mirror, (h.listed c hc).nodup, (h.listed c hc).present⟩
    · exact ⟨rfl, List.nodup_nil, nofun⟩
  · intro c hc r hr _
    rcases hnew c hc with hc | rfl
    · exact h.addressed_none hc hr
    · cases hr

theorem adapterRemoved (h : s.Mirrored none) (p : Proxy) : (s.adapterRemoved p).Mirrored none := by
  obtain ⟨hsub, hpresent, hprops, hfresh⟩ := s.adapterRemoved_lists p
  constructor
  · exact h.ids.sublist (hsub.map _)
  · rw [hfresh]
    exact fun a ha => h.fresh a (hsub.subset ha)
  · exact h.paths.sublist (hsub.map _)
  · unfold AddressFree
    rw [hpresent, hprops]
    exact h.distinct
  · intro a ha
    obtain ⟨hmirror, hnodup, hmine⟩ := h.listed a (hsub.subset ha)
    refine ⟨hmirror, hnodup, ?_⟩
    rw [hpresent, hprops]
    exact hmine
  · intro a ha r hr _
    unfold Addressed
    rw [hprops]
    exact h.addressed_none (hsub.subset ha) hr

/-- The record of a device is refreshed; its address is known already. -/
theorem btStateChange {t : State} (h : s.Mirrored none) {change : List UInt8} {newState : BtState}
    (ht : s.btStateChange p change newState = some t) : t.Mirrored none := by
  obtain ⟨ctrl, hdefault, rfl⟩ := Option.map_eq_some_iff.mp ht
  have hctrl := (mem_defaultAdapter hdefault).1
  have hstale : s.Mirrored (some p) :=
    ⟨h.ids, h.fresh, h.paths, h.distinct, h.listed, fun a ha r hr _ => h.addressed_none ha hr⟩
  refine hstale.changeRecord hctrl (fun a ha r hr _ => .inr (h.addressed_none ha hr)) ?_ _ _
  exact fun hp => (h.distinct p ((h.listed ctrl hctrl).present p hp).1).1

end Mirrored

/-- **Step.** Every event that meets the condition keeps the lists in step. -/
theorem Mirrored.next {s t : State} {e : Event} (h : s.Mirrored none) (hkeeps : s.KeepsRecords e)
    (hnext : s.next e = some t) : t.Mirrored none := by
  rw [State.next] at hnext
  split_ifs at hnext with hlegal
  cases e with
  | adapterAdded proxy path =>
    obtain rfl := Option.some.inj hnext
    exact (h.congr (t := { s with adapters := proxy :: s.adapters })
      ⟨rfl, rfl, rfl, rfl, rfl⟩).adapterAdded hkeeps
  | adapterRemoved proxy =>
    obtain rfl := Option.some.inj hnext
    exact (h.adapterRemoved proxy).congr ⟨rfl, rfl, rfl, rfl, rfl⟩
  | deviceAdded proxy props =>
    obtain rfl := Option.some.inj hnext
    exact h.deviceAdded hlegal.1 hlegal.2.1 hlegal.2.2
  | deviceChanged proxy change =>
    obtain rfl := Option.some.inj hnext
    exact h.deviceChanged hlegal.1 hlegal.2 hkeeps
  | deviceRemoved proxy =>
    obtain rfl := Option.some.inj hnext
    exact h.deviceRemoved hlegal hkeeps
  | connectReply proxy error =>
    cases error with
    | some message => exact h.btStateChange hnext
    | none =>
      obtain rfl := Option.some.inj hnext
      exact h.congr ((s.sameLists_btStateSend ..).trans (sameLists_setDefaultDevice ..))
  | disconnReply proxy failed =>
    cases failed with
    | true => exact h.btStateChange hnext
    | false =>
      obtain rfl := Option.some.inj hnext
      refine (h.congr (s.sameLists_btStateSend none .commandRespOk)).congr ?_
      split_ifs
      · exact sameLists_setDefaultDevice ..
      · exact .refl _
  | attributeAdded kind a =>
    obtain rfl := Option.some.inj hnext
    exact h.congr (s.sameLists_attributeAdded kind a)
  | attributeRemoved kind a =>
    obtain rfl := Option.some.inj hnext
    exact h.congr (s.sameLists_attributeRemoved kind a)

theorem mirrored_opened : opened.Mirrored none :=
  ⟨List.nodup_nil, nofun, List.nodup_nil, nofun, nofun, nofun⟩

end State

/-! ## Runs -/

theorem Reach.mirrored {s : State} (h : Reach busSystem State.KeepsRecords s) : s.Mirrored none := by
  refine Reach.invariant (P := fun s => s.Mirrored none) ?_ ?_ h
  · rintro s rfl
    exact State.mirrored_opened
  · exact fun s e t hs hkeeps hnext => hs.next hkeeps hnext

/-- **The records mirror the devices.** In every state of such a run the records of an adapter
are those of its devices, in their order and one for each; and a device that is removed takes
its own record with it and no other. -/
theorem records_mirror {s : State} (h : Reach busSystem State.KeepsRecords s) :
    (∀ a ∈ s.ctrlList, a.appDevs.map RemoteDev.data = a.devices ∧ a.devices.Nodup) ∧
    ∀ p t, s.KeepsRecords (.deviceRemoved p) → s.next (.deviceRemoved p) = some t →
      t.ctrlList = s.ctrlList.map (Adapter.without p) := by
  have hmirrored := Reach.mirrored h
  refine ⟨fun a ha => ?_, fun p t hkeeps hnext => ?_⟩
  · exact ⟨(hmirrored.listed a ha).mirror, (hmirrored.listed a ha).nodup⟩
  · rw [State.next] at hnext
    split_ifs at hnext with hlegal
    obtain rfl := Option.some.inj hnext
    exact hmirrored.deviceRemoved_ctrlList hlegal hkeeps

instance (s : State) : (e : Event) → Decidable (s.KeepsRecords e)
  | .adapterAdded _ path =>
    inferInstanceAs (Decidable (∀ a ∈ s.ctrlList, eqIgnoringCase a.path path = false))
  | .deviceChanged p change =>
    inferInstanceAs (Decidable (change.isAddress = true →
      ∀ a ∈ s.ctrlList, p ∈ a.devices → s.defaultCtrl = some a.id))
  | .deviceRemoved p =>
    inferInstanceAs (Decidable (∀ a ∈ s.ctrlList, (s.props p).adapter = some a.path →
      p ∈ a.devices ∨ a.devices = []))
  | .adapterRemoved .. | .deviceAdded .. | .connectReply .. | .disconnReply ..
  | .attributeAdded .. | .attributeRemoved .. => inferInstanceAs (Decidable True)

/-- The object path of an adapter. -/
def hci (i : UInt8) : List UInt8 := chars "/org/bluez/hci" ++ [48 + i]

/-- An address, told from the others by its last digit. -/
def sampleAddr (b : UInt8) : BdAddr := ⟨chars "00:0C:3E:3A:4B:0" ++ [b], rfl⟩

/-- A device of adapter `i` with the address that ends in `b`. -/
def sampleDevice (i b : UInt8) (connected : Bool) : DeviceProps where
  path := hci i ++ chars "/dev_" ++ [b]
  adapter := some (hci i)
  address := some (sampleAddr b)
  connected := some connected

/-- Two devices of the default adapter. One of them connects, changes its address and is
removed. -/
def defaultRun : List Event :=
  [.adapterAdded 0 (hci 0), .deviceAdded 2 (sampleDevice 0 65 false),
    .deviceAdded 3 (sampleDevice 0 66 false), .deviceChanged 2 (.connected true),
    .deviceChanged 2 (.address (sampleAddr 67)), .deviceRemoved 2]

theorem records_mirror_default :
    ∃ s : State, s.ctrlList.map Adapter.devices = [[3]] ∧
      ∀ a ∈ s.ctrlList, a.appDevs.map RemoteDev.data = a.devices ∧ a.devices.Nodup := by
  have hrun : (defaultRun.foldlM (guarded State.next State.KeepsRecords)
      State.opened).map (fun s => s.ctrlList.map Adapter.devices) = some [[3]] := by
    decide
  obtain ⟨s, hreach, hlists⟩ := Reach.of_guarded_run (S := busSystem) (fun _ _ _ h => h) rfl hrun
  exact ⟨s, hlists, (records_mirror hreach).1⟩

/-- Two devices of a second adapter. One of them changes its address and is removed. -/
def readdressedRun : List Event :=
  [.adapterAdded 0 (hci 0), .adapterAdded 1 (hci 1), .deviceAdded 2 (sampleDevice 1 65 false),
    .deviceAdded 3 (sampleDevice 1 66 false), .deviceChanged 2 (.address (sampleAddr 67)),
    .deviceRemoved 2]

/-- The record of the other device is deleted. -/
theorem last_record_deleted :
    ∃ s, Reach busSystem (fun _ _ => True) s ∧
      ¬ ∀ a ∈ s.ctrlList, a.appDevs.map RemoteDev.data = a.devices := by
  have hrun : (readdressedRun.foldlM State.next State.opened).map
      (fun s => s.ctrlList.map fun a => (a.devices, a.appDevs.map RemoteDev.data)) =
      some [([], []), ([3], [2])] := by decide
  obtain ⟨s, hreach, hlists⟩ := Reach.of_run (S := busSystem) (fun _ _ _ h => h) rfl hrun
  refine ⟨s, hreach, fun hmirror => ?_⟩
  have hmem : ([3], [2]) ∈ s.ctrlList.map fun a => (a.devices, a.appDevs.map RemoteDev.data) := by
    rw [hlists]
    decide
  obtain ⟨a, ha, hpair⟩ := List.mem_map.mp hmem
  have heq := hmirror a ha
  rw [(Prod.mk.inj hpair).1, (Prod.mk.inj hpair).2] at heq
  cases heq

end ConnectApp.Bluez
