import ConnectApp.Bluez.Bus

/-!
# Listed devices are present

The outline of the adapter list leaves out the records: only `devices` counts when a device
is looked up by address, and only `devices` and `default_dev` lead from the application's
variables to a device proxy. `State.Live` says that both lead to proxies that exist.

`Live.next` is the step lemma for the announcements of bluetoothd. It needs that two adapters
never have the same path and that the default device is removed while its adapter is still
known: `device_removed` returns at once when it finds no adapter, and leaves `default_dev`
alone.
-/

namespace ConnectApp.Bluez

open CString

/-- An adapter without its records. -/
structure Outline where
  id : Nat
  path : List UInt8
  devices : List Proxy

/-- An adapter without its records. -/
def Adapter.outline (a : Adapter) : Outline := ⟨a.id, a.path, a.devices⟩

namespace State

/-- The adapters without their records. -/
def outline (s : State) : List Outline := s.ctrlList.map Adapter.outline

/-- Listed devices and the default device are present. -/
structure Live (s : State) : Prop where
  ids : (s.outline.map Outline.id).Nodup
  fresh : ∀ o ∈ s.outline, o.id < s.fresh
  paths : (s.outline.map Outline.path).Nodup
  listed : ∀ o ∈ s.outline, o.devices.Nodup ∧
    ∀ d ∈ o.devices, d ∈ s.present ∧ (s.props d).adapter = some o.path
  dev : ∀ p ∈ s.defaultDev, p ∈ s.present

/-! ## Outlines -/

theorem outline_updateAdapter (s : State) (i : Nat) {f : Adapter → Adapter}
    {g : List Proxy → List Proxy}
    (h : ∀ a, (f a).outline = { a.outline with devices := g a.devices }) :
    (s.updateAdapter i f).outline =
      s.outline.map fun o => if o.id = i then { o with devices := g o.devices } else o := by
  rw [outline, outline, updateAdapter, List.map_map, List.map_map]
  refine List.map_congr_left fun a _ => ?_
  show (if a.id = i then f a else a).outline = if a.id = i then _ else _
  split_ifs
  · exact h a
  · rfl

/-- Assignments to the records do not show in the outline. -/
theorem outline_updateAdapter_records (s : State) (i : Nat) {f : Adapter → Adapter}
    (h : ∀ a, (f a).outline = a.outline) : (s.updateAdapter i f).outline = s.outline := by
  rw [outline_updateAdapter s i (g := id) h]
  simp only [id, ite_self, List.map_id']

/-- With the lists, the outline is the same. -/
theorem SameLists.outline {s t : State} (h : SameLists s t) : t.outline = s.outline := by
  rw [State.outline, State.outline, h.ctrlList]

/-- A handler that changes at most records, reports and the default device. -/
structure SameOutline (s t : State) : Prop where
  outline : t.outline = s.outline
  defaultCtrl : t.defaultCtrl = s.defaultCtrl
  present : t.present = s.present
  props : t.props = s.props
  fresh : t.fresh = s.fresh

theorem SameLists.toOutline {s t : State} (h : SameLists s t) : SameOutline s t :=
  ⟨h.outline, h.defaultCtrl, h.present, h.props, h.fresh⟩

theorem SameOutline.trans {s t u : State} (h : SameOutline s t) (h' : SameOutline t u) :
    SameOutline s u :=
  ⟨h'.outline.trans h.outline, h'.defaultCtrl.trans h.defaultCtrl, h'.present.trans h.present,
    h'.props.trans h.props, h'.fresh.trans h.fresh⟩

theorem sameOutline_changeRecord (s : State) (ctrl : Adapter) (proxy : Proxy)
    (change : List UInt8) (newState : BtState) :
    SameOutline s (s.changeRecord ctrl proxy change newState) ∧
      (s.changeRecord ctrl proxy change newState).defaultDev = s.defaultDev := by
  obtain ⟨heq, -⟩ | ⟨rdev, -, -, heq⟩ := s.changeRecord_cases ctrl proxy change newState
  · rw [heq]
    exact ⟨(SameLists.refl s).toOutline, rfl⟩
  · rw [heq]
    exact ⟨⟨outline_updateAdapter_records s _ fun _ => rfl, rfl, rfl, rfl, rfl⟩, rfl⟩

/-! ## The default device -/

/-- `set_default_device` sets the default device or leaves it. -/
theorem setDefaultDevice_defaultDev (s : State) (proxy : Option Proxy) :
    (s.setDefaultDevice proxy).defaultDev = s.defaultDev ∨
      (s.setDefaultDevice proxy).defaultDev = proxy := by
  unfold setDefaultDevice
  split_ifs
  · exact .inl rfl
  · cases proxy <;> exact .inr rfl

@[simp] theorem setDefaultDevice_none (s : State) :
    (s.setDefaultDevice none).defaultDev = none := by
  rw [setDefaultDevice, if_neg fun h => h.1 rfl]

/-- A change of `Connected` can set the default device to this one only, or to none. -/
theorem followConnected_defaultDev (s : State) (proxy : Proxy) (change : Change) :
    (s.followConnected proxy change).defaultDev = s.defaultDev ∨
      (s.followConnected proxy change).defaultDev = none ∨
      (s.followConnected proxy change).defaultDev = some proxy := by
  unfold followConnected
  split
  · split_ifs
    · exact (s.setDefaultDevice_defaultDev _).imp_right .inr
    · exact .inl rfl
  · split_ifs
    · exact .inr (.inl (s.setDefaultDevice_none))
    · exact .inl rfl
  · exact .inl rfl

theorem setDefaultAttribute_defaultDev (s : State) (proxy : Option Proxy) :
    (s.setDefaultAttribute proxy).defaultDev = s.defaultDev :=
  (({ s with defaultAttr := proxy } : State).setDefaultDevice_defaultDev s.defaultDev).elim id id

/-- A device that comes can only be the new default itself. -/
theorem deviceAdded_defaultDev (s : State) (proxy : Proxy) :
    (s.deviceAdded proxy).defaultDev = s.defaultDev ∨
      (s.deviceAdded proxy).defaultDev = some proxy := by
  obtain h | ⟨-, h⟩ := s.deviceAdded_writes proxy
  · exact .inl h.defaultDev
  · exact .inr h.defaultDev

theorem setAttributes_defaultDev (s : State) (l : List Attribute) (kind : AttrKind) :
    (s.setAttributes l kind).defaultDev = s.defaultDev := by
  cases kind <;> rfl

theorem attributeAdded_defaultDev (s : State) (kind : AttrKind) (a : Attribute) :
    (s.attributeAdded kind a).defaultDev = s.defaultDev := by
  unfold attributeAdded
  split_ifs
  · exact s.setAttributes_defaultDev _ kind
  · rfl

theorem attributeRemoved_defaultDev (s : State) (kind : AttrKind) (a : Attribute) :
    (s.attributeRemoved kind a).defaultDev = s.defaultDev := by
  unfold attributeRemoved
  dsimp only
  split_ifs
  · exact (setDefaultAttribute_defaultDev _ none).trans (s.setAttributes_defaultDev _ kind)
  · exact s.setAttributes_defaultDev _ kind

/-! ## Removals -/

theorem sameOutline_dropRecord (s : State) (adapter : Adapter) (addr : BdAddr) :
    SameOutline s (s.dropRecord adapter addr) ∧
      (s.dropRecord adapter addr).defaultDev = s.defaultDev := by
  unfold dropRecord
  split
  · exact ⟨(SameLists.refl s).toOutline, rfl⟩
  · exact ⟨⟨outline_updateAdapter_records s _ fun _ => rfl, rfl, rfl, rfl, rfl⟩, rfl⟩

/-- The device leaves the list of its adapter, and it is not the default device any more. -/
theorem deviceRemoved_of_parent {s : State} {proxy : Proxy} {adapter : Adapter}
    (h : s.findParent proxy = some adapter) :
    SameOutline (s.updateAdapter adapter.id fun a => { a with devices := a.devices.erase proxy })
        (s.deviceRemoved proxy) ∧
      (s.deviceRemoved proxy).defaultDev =
        if s.defaultDev = some proxy then none else s.defaultDev := by
  have hlast : ∀ u v : State, SameOutline u v ∧ v.defaultDev = s.defaultDev →
      SameOutline u (if v.defaultDev = some proxy then v.setDefaultDevice none else v) ∧
        (if v.defaultDev = some proxy then v.setDefaultDevice none else v).defaultDev =
          if s.defaultDev = some proxy then none else s.defaultDev := by
    rintro u v ⟨hsame, hdev⟩
    rw [hdev]
    split_ifs
    · exact ⟨hsame.trans (sameLists_setDefaultDevice v none).toOutline, v.setDefaultDevice_none⟩
    · exact ⟨hsame, hdev⟩
  rw [deviceRemoved, h]
  refine hlast _ _ ?_
  split
  · exact ⟨(SameLists.refl _).toOutline, rfl⟩
  · exact sameOutline_dropRecord _ adapter _

/-- With its adapter the default device can go. -/
theorem adapterRemoved_defaultDev (s : State) (proxy : Proxy) :
    (s.adapterRemoved proxy).defaultDev = s.defaultDev ∨
      (s.adapterRemoved proxy).defaultDev = none := by
  unfold adapterRemoved
  split_ifs
  · exact .inr (setDefaultDevice_none { s with defaultCtrl := none })
  · exact .inl rfl
  · exact .inl rfl

/-- Only the removal of the default adapter makes `default_ctrl` NULL. -/
theorem adapterRemoved_defaultCtrl {s : State} {proxy : Proxy}
    (h : ∀ a ∈ s.defaultAdapter, a.proxy ≠ proxy) :
    (s.adapterRemoved proxy).defaultCtrl = s.defaultCtrl := by
  have hany : ¬ (s.defaultAdapter.any fun a => a.proxy = proxy) = true := by
    intro hany
    obtain ⟨a, ha, hproxy⟩ := (Option.any_eq_true _ _).mp hany
    exact h a ha (of_decide_eq_true hproxy)
  unfold adapterRemoved
  rw [if_neg hany]
  split_ifs <;> rfl

/-! ## Steps -/

namespace Live

variable {s t : State}

/-- Live is a property of the outline and the default device. -/
theorem congr (h : s.Live) (hsame : SameOutline s t) (hdev : ∀ p ∈ t.defaultDev, p ∈ s.present) :
    t.Live := by
  constructor
  · rw [hsame.outline]
    exact h.ids
  · rw [hsame.outline, hsame.fresh]
    exact h.fresh
  · rw [hsame.outline]
    exact h.paths
  · rw [hsame.outline, hsame.present, hsame.props]
    exact h.listed
  · rw [hsame.present]
    exact hdev

/-- An assignment to the device list of one adapter. -/
theorem update (h : s.Live) {a : Adapter} (ha : a ∈ s.ctrlList) {f : Adapter → Adapter}
    {g : List Proxy → List Proxy}
    (hf : ∀ b, (f b).outline = { b.outline with devices := g b.devices })
    (hdevices : (g a.devices).Nodup ∧
      ∀ d ∈ g a.devices, d ∈ s.present ∧ (s.props d).adapter = some a.path) :
    (s.updateAdapter a.id f).Live := by
  have ha : a.outline ∈ s.outline := List.mem_map_of_mem ha
  have houtline := outline_updateAdapter s a.id hf
  -- the identities and paths are the same as before
  have hkeep : ∀ {β : Type} (k : Outline → β), (∀ o l, k { o with devices := l } = k o) →
      (s.updateAdapter a.id f).outline.map k = s.outline.map k := by
    intro β k hk
    rw [houtline, List.map_map]
    refine List.map_congr_left fun o _ => ?_
    show k (if o.id = a.id then _ else _) = _
    split_ifs
    · exact hk o _
    · rfl
  refine ⟨?_, ?_, ?_, ?_, h.dev⟩
  · rw [hkeep Outline.id fun _ _ => rfl]
    exact h.ids
  · intro o ho
    have hid := List.mem_map_of_mem (f := Outline.id) ho
    rw [hkeep Outline.id fun _ _ => rfl] at hid
    obtain ⟨o', ho', hid⟩ := List.mem_map.mp hid
    rw [← hid]
    exact h.fresh o' ho'
  · rw [hkeep Outline.path fun _ _ => rfl]
    exact h.paths
  · intro o ho
    rw [houtline] at ho
    obtain ⟨o', ho', rfl⟩ := List.mem_map.mp ho
    split_ifs with hid
    · rw [List.inj_on_of_nodup_map h.ids ho' ha hid]
      exact hdevices
    · exact h.listed o' ho'

/-- Proxies appear, and the properties of unlisted ones change. -/
theorem rebus (h : s.Live) {present : List Proxy} {props : Proxy → DeviceProps}
    (hpresent : ∀ p ∈ s.present, p ∈ present)
    (hprops : ∀ p ∈ s.present, (props p).adapter = (s.props p).adapter) :
    { s with present := present, props := props }.Live where
  ids := h.ids
  fresh := h.fresh
  paths := h.paths
  listed := by
    intro o ho
    obtain ⟨hnodup, hmine⟩ := h.listed o ho
    refine ⟨hnodup, fun d hd => ?_⟩
    obtain ⟨hd, hadapter⟩ := hmine d hd
    exact ⟨hpresent d hd, (hprops d hd).trans hadapter⟩
  dev := fun p hp => hpresent p (h.dev p hp)

/-- An adapter with a new path keeps the state live. -/
theorem adapterAdded (h : s.Live) (proxy : Proxy) {path : List UInt8}
    (hpath : ∀ a ∈ s.ctrlList, eqIgnoringCase a.path path = false) :
    (s.adapterAdded proxy path).Live := by
  have hfind : s.findCtrl path = none := by
    refine List.find?_eq_none.mpr fun a ha => ?_
    rw [hpath a ha]
    exact Bool.false_ne_true
  have houtline : (s.adapterAdded proxy path).outline = s.outline ++ [⟨s.fresh, path, []⟩] := by
    rw [State.adapterAdded, hfind]
    exact List.map_append
  have hfresh : (s.adapterAdded proxy path).fresh = s.fresh + 1 := by
    rw [State.adapterAdded, hfind]
    rfl
  have hrest : (s.adapterAdded proxy path).present = s.present ∧
      (s.adapterAdded proxy path).props = s.props ∧
      (s.adapterAdded proxy path).defaultDev = s.defaultDev := by
    rw [State.adapterAdded, hfind]
    exact ⟨rfl, rfl, rfl⟩
  constructor
  · rw [houtline, List.map_append, List.map_singleton, ← List.concat_eq_append]
    refine h.ids.concat fun hmem => ?_
    obtain ⟨o, ho, hid⟩ := List.mem_map.mp hmem
    exact absurd hid (h.fresh o ho).ne
  · intro o ho
    rw [houtline] at ho
    rw [hfresh]
    rcases List.mem_append.mp ho with ho | ho
    · exact Nat.lt_succ_of_lt (h.fresh o ho)
    · rw [List.mem_singleton.mp ho]
      exact Nat.lt_succ_self _
  · rw [houtline, List.map_append, List.map_singleton, ← List.concat_eq_append]
    refine h.paths.concat fun hmem => ?_
    obtain ⟨o, ho, heq⟩ := List.mem_map.mp hmem
    obtain ⟨a, ha, rfl⟩ := List.mem_map.mp ho
    have hne := hpath a ha
    rw [show a.path = path from heq] at hne
    exact absurd rfl (of_decide_eq_false hne)
  · intro o ho
    rw [houtline] at ho
    rw [hrest.1, hrest.2.1]
    rcases List.mem_append.mp ho with ho | ho
    · exact h.listed o ho
    · rw [List.mem_singleton.mp ho]
      exact ⟨.nil, nofun⟩
  · rw [hrest.1, hrest.2.2]
    exact h.dev

/-- The removal of an adapter keeps it live. -/
theorem adapterRemoved (h : s.Live) (proxy : Proxy) : (s.adapterRemoved proxy).Live := by
  obtain ⟨hsub, hpresent, hprops, hfresh⟩ := s.adapterRemoved_lists proxy
  have hsub : (s.adapterRemoved proxy).outline.Sublist s.outline := hsub.map _
  constructor
  · exact h.ids.sublist (hsub.map _)
  · rw [hfresh]
    exact fun o ho => h.fresh o (hsub.subset ho)
  · exact h.paths.sublist (hsub.map _)
  · rw [hpresent, hprops]
    exact fun o ho => h.listed o (hsub.subset ho)
  · rw [hpresent]
    rcases s.adapterRemoved_defaultDev proxy with hdev | hdev
    · rw [hdev]
      exact h.dev
    · rw [hdev]
      nofun

/-- A device that was not present is appended to the list of its adapter. -/
theorem deviceAdded (h : s.Live) {proxy : Proxy} (hpresent : proxy ∈ s.present)
    (hnew : ∀ o ∈ s.outline, proxy ∉ o.devices) : (s.deviceAdded proxy).Live := by
  cases hparent : s.findParent proxy with
  | none => rwa [State.deviceAdded, hparent]
  | some adapter =>
    obtain ⟨hadapter, hchild⟩ := findParent_eq_some hparent
    obtain ⟨hnodup, hmine⟩ := h.listed adapter.outline (List.mem_map_of_mem hadapter)
    have hfresh := hnew adapter.outline (List.mem_map_of_mem hadapter)
    refine congr (h.update hadapter (g := (· ++ [proxy])) (fun _ => rfl) ⟨?_, ?_⟩)
      (sameLists_deviceAdded hparent).toOutline ?_
    · exact List.concat_eq_append ▸ hnodup.concat hfresh
    · intro d hd
      rcases List.mem_append.mp hd with hd | hd
      · exact hmine d hd
      · rw [List.mem_singleton.mp hd]
        exact ⟨hpresent, hchild⟩
    · intro p hp
      rcases s.deviceAdded_defaultDev proxy with hdev | hdev
      · rw [hdev] at hp
        exact h.dev p hp
      · rw [hdev] at hp
        rwa [← Option.some.inj hp]

/-- A property of a device on the bus keeps it live. -/
theorem propertyChanged (h : s.Live) {proxy : Proxy} (hpresent : proxy ∈ s.present)
    (change : Change) : (s.propertyChanged proxy change).Live := by
  unfold State.propertyChanged
  split
  · exact h
  · split_ifs
    · have hfollow := s.sameLists_followConnected proxy change
      have hchange := (s.followConnected proxy change).sameOutline_changeRecord ‹Adapter› proxy
        change.key .none
      refine h.congr (hfollow.toOutline.trans hchange.1) ?_
      rw [hchange.2]
      intro p hp
      rcases s.followConnected_defaultDev proxy change with hdev | hdev | hdev
      · rw [hdev] at hp
        exact h.dev p hp
      · rw [hdev] at hp
        cases hp
      · rw [hdev] at hp
        rwa [← Option.some.inj hp]
    · exact h

/-- A proxy that is neither listed nor the default device can go. -/
theorem gone (h : s.Live) {proxy : Proxy} (hlisted : ∀ o ∈ s.outline, proxy ∉ o.devices)
    (hdev : s.defaultDev ≠ some proxy) :
    { s with present := s.present.filter (· ≠ proxy) }.Live where
  ids := h.ids
  fresh := h.fresh
  paths := h.paths
  listed := by
    intro o ho
    obtain ⟨hnodup, hmine⟩ := h.listed o ho
    refine ⟨hnodup, fun d hd => ⟨List.mem_filter.mpr ⟨(hmine d hd).1, ?_⟩, (hmine d hd).2⟩⟩
    exact decide_eq_true fun heq => hlisted o ho (heq ▸ hd)
  dev := by
    intro p hp
    refine List.mem_filter.mpr ⟨h.dev p hp, decide_eq_true fun heq => hdev ?_⟩
    rw [← heq]
    exact hp

/-- A removed device was listed by its own adapter only, and once. -/
theorem not_listed (h : s.Live) {proxy : Proxy} {adapter : Adapter}
    (hparent : s.findParent proxy = some adapter) :
    ∀ o ∈ (s.deviceRemoved proxy).outline, proxy ∉ o.devices := by
  obtain ⟨hadapter, hchild⟩ := findParent_eq_some hparent
  have hadapter : adapter.outline ∈ s.outline := List.mem_map_of_mem hadapter
  intro o ho
  rw [(deviceRemoved_of_parent hparent).1.outline,
    outline_updateAdapter s adapter.id (g := (List.erase · proxy)) fun _ => rfl] at ho
  obtain ⟨o', ho', rfl⟩ := List.mem_map.mp ho
  split_ifs with hid
  · exact fun hmem => ((h.listed o' ho').1.mem_erase_iff.mp hmem).1 rfl
  · intro hmem
    have hpath := ((h.listed o' ho').2 proxy hmem).2
    have heq := List.inj_on_of_nodup_map h.paths ho' hadapter
      (Option.some.inj (hpath.symm.trans hchild))
    exact hid (congrArg Outline.id heq)

/-- The removal of a device keeps it live, if the default device has a parent. -/
theorem deviceRemoved (h : s.Live) {proxy : Proxy}
    (hknown : s.defaultDev = some proxy → s.findParent proxy ≠ none) :
    { s.deviceRemoved proxy with present := s.present.filter (· ≠ proxy) }.Live := by
  cases hparent : s.findParent proxy with
  | none =>
    rw [State.deviceRemoved, hparent]
    refine h.gone (fun o ho hmem => ?_) fun hdev => hknown hdev hparent
    -- the adapter that lists the device would have been found
    obtain ⟨a, ha, rfl⟩ := List.mem_map.mp ho
    have hchild := ((h.listed a.outline ho).2 proxy hmem).2
    exact List.find?_eq_none.mp hparent a ha (decide_eq_true hchild)
  | some adapter =>
    obtain ⟨hsame, hdev⟩ := deviceRemoved_of_parent hparent
    obtain ⟨hadapter, hchild⟩ := findParent_eq_some hparent
    obtain ⟨hnodup, hmine⟩ := h.listed adapter.outline (List.mem_map_of_mem hadapter)
    have hlive : (s.deviceRemoved proxy).Live := by
      refine congr (h.update hadapter (g := (List.erase · proxy)) (fun _ => rfl) ⟨?_, ?_⟩) hsame ?_
      · exact hnodup.erase proxy
      · exact fun d hd => hmine d (List.mem_of_mem_erase hd)
      · rw [hdev]
        split_ifs
        · intro d hd
          cases hd
        · exact h.dev
    have hgone := hlive.gone (h.not_listed hparent) (by
      rw [hdev]
      split_ifs with hp
      · intro hd
        cases hd
      · exact hp)
    rwa [hsame.present] at hgone

end Live

/-- The steps that keep listed devices present. The paths of the adapters differ in more than
the case of their letters, the default device is removed while its adapter is known, and the
device of a successful call of `Connect` still exists when the reply arrives. -/
def KeepsLive (s : State) : Event → Prop
  | .adapterAdded _ path => ∀ a ∈ s.ctrlList, eqIgnoringCase a.path path = false
  | .deviceRemoved p => s.defaultDev = some p → s.findParent p ≠ none
  | .connectReply p _ => p ∈ s.present
  | _ => True

instance (s : State) : (e : Event) → Decidable (s.KeepsLive e)
  | .adapterAdded _ path =>
    inferInstanceAs (Decidable (∀ a ∈ s.ctrlList, eqIgnoringCase a.path path = false))
  | .deviceRemoved p =>
    inferInstanceAs (Decidable (s.defaultDev = some p → s.findParent p ≠ none))
  | .connectReply p _ => inferInstanceAs (Decidable (p ∈ s.present))
  | .adapterRemoved .. | .deviceAdded .. | .deviceChanged .. | .disconnReply ..
  | .attributeAdded .. | .attributeRemoved .. => inferInstanceAs (Decidable True)

theorem Live.btStateChange {s t : State} (h : s.Live) {proxy : Proxy} {change : List UInt8}
    {newState : BtState} (hchange : s.btStateChange proxy change newState = some t) : t.Live := by
  obtain ⟨ctrl, -, rfl⟩ := Option.map_eq_some_iff.mp hchange
  obtain ⟨hsame, hdev⟩ := s.sameOutline_changeRecord ctrl proxy change newState
  exact h.congr hsame (hdev ▸ h.dev)

/-- **One announcement.** -/
theorem Live.next {s t : State} {e : Event} (h : s.Live) (hkeeps : s.KeepsLive e)
    (hnext : s.next e = some t) : t.Live := by
  rw [State.next, Option.ite_none_right_eq_some] at hnext
  obtain ⟨hlegal, hnext⟩ := hnext
  cases e with
  | adapterAdded proxy path =>
    obtain rfl := Option.some.inj hnext
    have h' : { s with adapters := proxy :: s.adapters }.Live :=
      h.congr ⟨rfl, rfl, rfl, rfl, rfl⟩ h.dev
    exact h'.adapterAdded proxy hkeeps
  | adapterRemoved proxy =>
    obtain rfl := Option.some.inj hnext
    exact congr (h.adapterRemoved proxy) ⟨rfl, rfl, rfl, rfl, rfl⟩ (h.adapterRemoved proxy).dev
  | deviceAdded proxy props =>
    obtain rfl := Option.some.inj hnext
    have hold : ∀ p ∈ s.present, (Function.update s.props proxy props p).adapter =
        (s.props p).adapter := by
      intro p hp
      rw [Function.update_of_ne]
      rintro rfl
      exact hlegal.1 hp
    refine Live.deviceAdded (h.rebus (fun p => List.mem_cons_of_mem proxy) hold)
      List.mem_cons_self ?_
    exact fun o ho hmem => hlegal.1 ((h.listed o ho).2 proxy hmem).1
  | deviceChanged proxy change =>
    obtain rfl := Option.some.inj hnext
    have hold : ∀ p ∈ s.present,
        (Function.update s.props proxy (change.apply (s.props proxy)) p).adapter =
          (s.props p).adapter := by
      intro p _
      by_cases hp : p = proxy
      · rw [hp, Function.update_self, Change.apply_adapter]
      · rw [Function.update_of_ne hp]
    exact Live.propertyChanged (h.rebus (fun _ => id) hold) hlegal.1 change
  | deviceRemoved proxy =>
    obtain rfl := Option.some.inj hnext
    exact h.deviceRemoved hkeeps
  | connectReply proxy error =>
    cases error with
    | some message => exact h.btStateChange hnext
    | none =>
      obtain rfl := Option.some.inj hnext
      refine h.congr (.trans (sameLists_btStateSend s none .commandRespOk).toOutline
        (sameLists_setDefaultDevice _ (some proxy)).toOutline) fun p hp => ?_
      rcases (s.btStateSend none .commandRespOk).setDefaultDevice_defaultDev (some proxy) with
        hdev | hdev
      · exact h.dev p (hdev ▸ hp)
      · rw [hdev] at hp
        rwa [← Option.some.inj hp]
  | disconnReply proxy failed =>
    cases failed with
    | true => exact h.btStateChange hnext
    | false =>
      obtain rfl := Option.some.inj hnext
      split_ifs
      · refine h.congr (.trans (sameLists_btStateSend s none .commandRespOk).toOutline
          (sameLists_setDefaultDevice _ none).toOutline) ?_
        rw [setDefaultDevice_none]
        nofun
      · exact h.congr (sameLists_btStateSend s none .commandRespOk).toOutline h.dev
  | attributeAdded kind a =>
    obtain rfl := Option.some.inj hnext
    refine h.congr (s.sameLists_attributeAdded kind a).toOutline ?_
    rw [attributeAdded_defaultDev]
    exact h.dev
  | attributeRemoved kind a =>
    obtain rfl := Option.some.inj hnext
    refine h.congr (s.sameLists_attributeRemoved kind a).toOutline ?_
    rw [attributeRemoved_defaultDev]
    exact h.dev

end State

end ConnectApp.Bluez
