import ConnectApp.Bluez.Audio
import ConnectApp.Bluez.ServiceInfo

/-!
# The collected services are the tree of the device (gatt.c:2453-2725)

`get_list_attributes` sees three flat lists with the objects of all devices. It puts an object
where the paths say: below a service, below a characteristic. While it does so, it searches what it
has already stored.

- `Exposes`: what bluetoothd exposes for a device, as a tree of objects whose paths are prefixes of
  one another only along its branches
- `Exposes.gattGetListAttributes_eq`: the functions collect this tree, each list in the order of the
  proxies, if the arrays hold it (`State.FitsServices`), and leave an array if they do not
- `service_info_in_bounds_iff`: so `gatt_client_get_service_info` stays inside exactly for such
  devices
- `service_info_is_tree`: and then it returns the tree
-/

namespace ConnectApp.Bluez

open CString Checked

/-! ## Devices and their objects -/

namespace DevicePath

/-- The object of the attribute is below that of the device. -/
def Has (d : DevicePath) (a : Attribute) : Prop := d.path ++ [47] <+: a.path

instance (d : DevicePath) : DecidablePred d.Has := fun a =>
  inferInstanceAs (Decidable (d.path ++ [47] <+: a.path))

/-- The attributes of the device in a list. -/
def own (d : DevicePath) (l : List Attribute) : List Attribute := l.filter d.Has

/-- Membership in the attributes of the device. -/
theorem mem_own {d : DevicePath} {l : List Attribute} {a : Attribute} :
    a ∈ d.own l ↔ a ∈ l ∧ d.Has a := by
  rw [own, List.mem_filter, decide_eq_true_iff]

/-- The path of an attribute goes on from that of its device. -/
theorem Has.below {d : DevicePath} {a : Attribute} (h : d.Has a) : d.path <+: a.path :=
  (List.prefix_append _ _).trans h

/-- No attribute has the path of the device itself. -/
theorem Has.ne {d : DevicePath} {a : Attribute} (h : d.Has a) : a.path ≠ d.path := by
  intro heq
  have hlen := h.length_le
  rw [heq, List.length_append, List.length_singleton] at hlen
  omega

/-- Nothing is below two devices: the number of the adapter ends at the slash, and all addresses
are of one length. -/
theorem eq_of_below {d d' : DevicePath} {p : List UInt8} (h : d.path <+: p) (h' : d'.path <+: p) :
    d = d' := by
  obtain ⟨r, rfl⟩ := h
  obtain ⟨r', heq⟩ := h'
  have hslash : ∀ t, ∀ b ∈ (chars "/dev_" ++ t).head?, isDigit b = false := fun _ =>
    head_not_digit rfl _
  rw [path, path] at heq
  simp only [List.append_assoc] at heq
  obtain ⟨hhci, heq⟩ := natDec_append_inj (hslash _) (hslash _) (List.append_cancel_left heq)
  have haddr := List.append_inj_left (List.append_cancel_left heq)
    (d'.address.2.trans d.address.2.symm)
  cases d
  cases d'
  simp only [DevicePath.mk.injEq]
  exact ⟨hhci.symm, Subtype.ext haddr.symm⟩

end DevicePath

namespace State

variable (s : State) (d : DevicePath)

/-- The attributes of the device. -/
def attributesOf : List Attribute :=
  d.own s.services ++ d.own s.characteristics ++ d.own s.descriptors

/-- `a` is what `b` belongs to, or what that belongs to. -/
def Ancestor (a b : Attribute) : Prop :=
  b.parent = some a.path ∨
    ∃ c ∈ s.attributesOf d, b.parent = some c.path ∧ c.parent = some a.path

instance : DecidableRel (s.Ancestor d) := fun a b =>
  inferInstanceAs (Decidable (b.parent = some a.path ∨
    ∃ c ∈ s.attributesOf d, b.parent = some c.path ∧ c.parent = some a.path))

/-- The characteristics of a service, in the order of the list. -/
def chrcsOf (g : Attribute) : List Attribute :=
  (d.own s.characteristics).filter fun c => c.parent = some g.path

/-- The descriptors of a characteristic. -/
def descsOf (c : Attribute) : List Attribute :=
  (d.own s.descriptors).filter fun e => e.parent = some c.path

/-- These characteristics fit into an array, and their descriptors into those. -/
def FitsChrcs (cs : List Attribute) : Prop :=
  cs.length ≤ chrcCountMax ∧ ∀ c ∈ cs, (s.descsOf d c).length ≤ descCountMax

instance : DecidablePred (s.FitsChrcs d) := fun cs =>
  inferInstanceAs (Decidable (cs.length ≤ chrcCountMax ∧
    ∀ c ∈ cs, (s.descsOf d c).length ≤ descCountMax))

/-- The same for services. -/
def FitsServices (gs : List Attribute) : Prop :=
  gs.length ≤ serviceCountMax ∧ ∀ g ∈ gs, s.FitsChrcs d (s.chrcsOf d g)

instance : DecidablePred (s.FitsServices d) := fun gs =>
  inferInstanceAs (Decidable (gs.length ≤ serviceCountMax ∧
    ∀ g ∈ gs, s.FitsChrcs d (s.chrcsOf d g)))

end State

/-- What bluetoothd exposes. Every attribute is one of some device. Those of the device `d` make up
a tree, their paths are different and fit into their fields, and only along the branches is one
the prefix of another; they have uuids of 36 characters. -/
structure Exposes (s : State) (d : DevicePath) : Prop where
  owner : ∀ a ∈ s.services ++ s.characteristics ++ s.descriptors, ∃ d' : DevicePath, d'.Has a
  service : ∀ g ∈ d.own s.services, g.parent = some d.path
  characteristic : ∀ c ∈ d.own s.characteristics, ∃ g ∈ d.own s.services, c.parent = some g.path
  descriptor : ∀ e ∈ d.own s.descriptors, ∃ c ∈ d.own s.characteristics, e.parent = some c.path
  below : ∀ a ∈ s.attributesOf d, ∀ p ∈ a.parent, p ++ [47] <+: a.path
  nodup : ((s.attributesOf d).map Attribute.path).Nodup
  branch : ∀ a ∈ s.attributesOf d, ∀ b ∈ s.attributesOf d, a.path <+: b.path →
    a = b ∨ s.Ancestor d a b
  text : ∀ a ∈ s.attributesOf d, 0 ∉ a.path ∧ a.path.length < pathBufLen
  uuid : ∀ a ∈ s.attributesOf d, ∃ u, a.uuid = some u ∧ 0 ∉ u ∧ u.length = 36

namespace Exposes

variable {s : State} {d : DevicePath} (h : Exposes s d) {g c e : Attribute}

theorem mem_of_service (hg : g ∈ d.own s.services) : g ∈ s.attributesOf d :=
  List.mem_append_left _ (List.mem_append_left _ hg)

theorem mem_of_characteristic (hc : c ∈ d.own s.characteristics) : c ∈ s.attributesOf d :=
  List.mem_append_left _ (List.mem_append_right _ hc)

theorem mem_of_descriptor (he : e ∈ d.own s.descriptors) : e ∈ s.attributesOf d :=
  List.mem_append_right _ he

include h

/-! ### Paths -/

/-- An attribute of the device is known by its path. -/
theorem eq_of_path {a b : Attribute} (ha : a ∈ s.attributesOf d) (hb : b ∈ s.attributesOf d)
    (hpath : a.path = b.path) : a = b :=
  List.inj_on_of_nodup_map h.nodup ha hb hpath

theorem nodup_services : (d.own s.services).Nodup :=
  (List.nodup_append'.mp (List.nodup_append'.mp (h.nodup.of_map _)).1).1

theorem nodup_characteristics : (d.own s.characteristics).Nodup :=
  (List.nodup_append'.mp (List.nodup_append'.mp (h.nodup.of_map _)).1).2.1

/-- The three lists have no path in common. -/
theorem disjoint :
    (∀ g ∈ d.own s.services, ∀ c ∈ d.own s.characteristics, g.path ≠ c.path) ∧
      (∀ g ∈ d.own s.services, ∀ e ∈ d.own s.descriptors, g.path ≠ e.path) ∧
      ∀ c ∈ d.own s.characteristics, ∀ e ∈ d.own s.descriptors, c.path ≠ e.path := by
  have hnodup := h.nodup
  rw [State.attributesOf, List.map_append, List.map_append, List.nodup_append',
    List.nodup_append'] at hnodup
  obtain ⟨⟨-, -, hgc⟩, -, hge⟩ := hnodup
  refine ⟨fun g hg c hc heq => ?_, fun g hg e he heq => ?_, fun c hc e he heq => ?_⟩
  · exact hgc (List.mem_map_of_mem hg) (heq ▸ List.mem_map_of_mem hc)
  · exact hge (List.mem_append_left _ (List.mem_map_of_mem hg)) (heq ▸ List.mem_map_of_mem he)
  · exact hge (List.mem_append_right _ (List.mem_map_of_mem hc)) (heq ▸ List.mem_map_of_mem he)

/-- What is below the device's path is one of its attributes. -/
theorem has_of_below {a : Attribute} (ha : a ∈ s.services ++ s.characteristics ++ s.descriptors)
    (hbelow : d.path <+: a.path) : d.Has a := by
  obtain ⟨d', hd'⟩ := h.owner a ha
  rwa [DevicePath.eq_of_below hbelow hd'.below]

/-- A service whose path is a prefix of that of a characteristic is its service. -/
theorem parent_of_service (hg : g ∈ d.own s.services) (hc : c ∈ d.own s.characteristics)
    (hpre : g.path <+: c.path) : c.parent = some g.path := by
  rcases h.branch g (mem_of_service hg) c (mem_of_characteristic hc) hpre with heq | hanc
  · exact absurd (congrArg Attribute.path heq) (h.disjoint.1 g hg c hc)
  · rcases hanc with hparent | ⟨z, hz, hcz, hzg⟩
    · exact hparent
    · -- what a characteristic belongs to is a service, and that belongs to the device
      obtain ⟨g', hg', hcg'⟩ := h.characteristic c hc
      obtain rfl : z = g' := h.eq_of_path hz (mem_of_service hg')
        (Option.some.inj (hcz.symm.trans hcg'))
      rw [h.service z hg'] at hzg
      exact absurd (Option.some.inj hzg).symm (DevicePath.mem_own.mp hg).2.ne

/-- A characteristic whose path is a prefix of that of a descriptor is its characteristic. -/
theorem parent_of_characteristic (hc : c ∈ d.own s.characteristics) (he : e ∈ d.own s.descriptors)
    (hpre : c.path <+: e.path) : e.parent = some c.path := by
  rcases h.branch c (mem_of_characteristic hc) e (mem_of_descriptor he) hpre with heq | hanc
  · exact absurd (congrArg Attribute.path heq) (h.disjoint.2.2 c hc e he)
  · rcases hanc with hparent | ⟨z, hz, hez, hzc⟩
    · exact hparent
    · -- no characteristic belongs to another one
      obtain ⟨c', hc', hec'⟩ := h.descriptor e he
      obtain rfl : z = c' := h.eq_of_path hz (mem_of_characteristic hc')
        (Option.some.inj (hez.symm.trans hec'))
      obtain ⟨g, hg, hzg⟩ := h.characteristic z hc'
      exact absurd (Option.some.inj (hzg.symm.trans hzc)) (h.disjoint.1 g hg c hc)

/-- A service whose path is a prefix of that of a descriptor is that of the characteristic. -/
theorem parent_of_descriptor (hg : g ∈ d.own s.services) (hc : c ∈ d.own s.characteristics)
    (he : e ∈ d.own s.descriptors) (hec : e.parent = some c.path) (hpre : g.path <+: e.path) :
    c.parent = some g.path := by
  rcases h.branch g (mem_of_service hg) e (mem_of_descriptor he) hpre with heq | hanc
  · exact absurd (congrArg Attribute.path heq) (h.disjoint.2.1 g hg e he)
  · rcases hanc with hparent | ⟨z, hz, hez, hzg⟩
    · exact absurd (Option.some.inj (hparent.symm.trans hec)) (h.disjoint.1 g hg c hc)
    · obtain rfl : z = c := h.eq_of_path hz (mem_of_characteristic hc)
        (Option.some.inj (hez.symm.trans hec))
      exact hzg

/-- An attribute is below its parent. -/
theorem below_parent {a : Attribute} (ha : a ∈ s.attributesOf d) {p : List UInt8}
    (hp : a.parent = some p) : p <+: a.path :=
  (List.prefix_append p [47]).trans (h.below a ha p hp)

/-! ### The lists that the loops go through -/

/-- The loop over the services sees those of the device. -/
theorem filter_services :
    s.services.filter (fun a => d.path.isPrefixOf a.path) = d.own s.services := by
  refine List.filter_congr fun a ha => Bool.eq_iff_iff.mpr ?_
  rw [List.isPrefixOf_iff_prefix, decide_eq_true_iff]
  exact ⟨h.has_of_below (List.mem_append_left _ (List.mem_append_left _ ha)), (·.below)⟩

/-- The comparison of the paths finds the children, where an entry of the list has no other
ancestor in the one that `a` is from. -/
theorem filter_below {a : Attribute} (ha : d.Has a) {l : List Attribute}
    (hl : ∀ x ∈ l, x ∈ s.services ++ s.characteristics ++ s.descriptors)
    (hmem : ∀ x ∈ d.own l, x ∈ s.attributesOf d)
    (hparent : ∀ x ∈ d.own l, a.path <+: x.path → x.parent = some a.path) :
    l.filter (fun x => a.path.isPrefixOf x.path) =
      (d.own l).filter fun x => x.parent = some a.path := by
  rw [DevicePath.own, List.filter_filter]
  refine List.filter_congr fun x hx => Bool.eq_iff_iff.mpr ?_
  rw [List.isPrefixOf_iff_prefix, Bool.and_eq_true, decide_eq_true_iff, decide_eq_true_iff]
  constructor
  · -- what is below `a` is below the device, so it is the device's own
    intro hpre
    have hhas : d.Has x := h.has_of_below (hl x hx) (ha.below.trans hpre)
    exact ⟨hparent x (DevicePath.mem_own.mpr ⟨hx, hhas⟩) hpre, hhas⟩
  · rintro ⟨hpar, hhas⟩
    exact h.below_parent (hmem x (DevicePath.mem_own.mpr ⟨hx, hhas⟩)) hpar

/-- The loop for a service sees its characteristics. -/
theorem filter_characteristics (hg : g ∈ d.own s.services) :
    s.characteristics.filter (fun a => g.path.isPrefixOf a.path) = s.chrcsOf d g :=
  h.filter_below (DevicePath.mem_own.mp hg).2
    (fun _ hx => List.mem_append_left _ (List.mem_append_right _ hx))
    (fun _ => mem_of_characteristic) fun _ => h.parent_of_service hg

/-- The loop for a characteristic sees its descriptors. -/
theorem filter_descriptors (hc : c ∈ d.own s.characteristics) :
    s.descriptors.filter (fun a => c.path.isPrefixOf a.path) = s.descsOf d c :=
  h.filter_below (DevicePath.mem_own.mp hc).2 (fun _ => List.mem_append_right _)
    (fun _ => mem_of_descriptor) fun _ => h.parent_of_characteristic hc

end Exposes

/-! ## Entries -/

/-- A text that is shorter than its field is read back, whatever stands behind the field. -/
theorem cstr_fill {n : Nat} {t : List UInt8} (h0 : 0 ∉ t) (hlen : t.length < n)
    (rest : List UInt8) : cstr (fill n t ++ rest) = t := by
  have hfill : fill n t = t ++ 0 :: List.replicate (n - t.length - 1) 0 := by
    have hpad : n - t.length = n - t.length - 1 + 1 := by omega
    rw [fill, memcpy, List.take_of_length_le (Nat.le_of_lt hlen), List.drop_replicate, hpad,
      List.replicate_succ, Nat.add_sub_cancel]
  rw [hfill, List.append_assoc, List.cons_append, cstr_append, if_neg h0, cstr_cons_zero,
    List.append_nil]

section

variable (btUuidstrToStr : List UInt8 → Option (List UInt8)) (chrcProps : Proxy → ChrcProps)

/-- The uuid of an attribute that has one. -/
def Attribute.uuidText (a : Attribute) : List UInt8 := a.uuid.getD []

/-- The name of this uuid. -/
def Attribute.nameText (a : Attribute) : List UInt8 := (btUuidstrToStr a.uuidText).getD []

/-- The entry of a descriptor. -/
def descEntry (e : Attribute) : ClientDesc := newDesc e e.uuidText (e.nameText btUuidstrToStr)

/-- The entry of a characteristic with these descriptors. -/
def chrcEntry (c : Attribute) (es : List Attribute) : ClientChrc :=
  { newChrc chrcProps c c.uuidText (c.nameText btUuidstrToStr) with
    descs := es.map (descEntry btUuidstrToStr) }

/-- The entry of a service with these characteristics. -/
def serviceEntry (g : Attribute) (cs : List ClientChrc) : ClientService :=
  { newService g g.uuidText (g.nameText btUuidstrToStr) with chrcs := cs }

variable (s : State) (d : DevicePath)

/-- The characteristic with its own descriptors. -/
def treeChrc (c : Attribute) : ClientChrc :=
  chrcEntry btUuidstrToStr chrcProps c (s.descsOf d c)

/-- The service with its own characteristics. -/
def treeService (g : Attribute) : ClientService :=
  serviceEntry btUuidstrToStr g ((s.chrcsOf d g).map (treeChrc btUuidstrToStr chrcProps s d))

/-- Every uuid of the device has a name. `bt_uuidstr_to_str` (util.c:852-891) finds one for each
uuid of the form that bluetoothd writes; it gives NULL where a text of 36 characters ends as the
uuids of the standard do and does not begin with a hexadecimal digit. -/
def State.Named : Prop := ∀ a ∈ s.attributesOf d, (btUuidstrToStr a.uuidText).isSome = true

end

namespace Exposes

variable {btUuidstrToStr : List UInt8 → Option (List UInt8)} {chrcProps : Proxy → ChrcProps}
  {s : State} {d : DevicePath} {g c e : Attribute}

theorem mem_chrcsOf : c ∈ s.chrcsOf d g ↔ c ∈ d.own s.characteristics ∧ c.parent = some g.path := by
  rw [State.chrcsOf, List.mem_filter, decide_eq_true_iff]

theorem mem_descsOf : e ∈ s.descsOf d c ↔ e ∈ d.own s.descriptors ∧ e.parent = some c.path := by
  rw [State.descsOf, List.mem_filter, decide_eq_true_iff]

variable (h : Exposes s d)

include h

/-- Every attribute of the device has a uuid. -/
theorem uuid_eq {a : Attribute} (ha : a ∈ s.attributesOf d) : a.uuid = some a.uuidText := by
  obtain ⟨u, hu, -⟩ := h.uuid a ha
  rw [Attribute.uuidText, hu]
  rfl

/-- The path is read back in the entry of a service. -/
theorem serviceEntry_pathText (hg : g ∈ d.own s.services) (cs : List ClientChrc) :
    (serviceEntry btUuidstrToStr g cs).pathText = g.path := by
  obtain ⟨h0, hlen⟩ := h.text g (mem_of_service hg)
  rw [ClientService.pathText, List.append_assoc]
  exact cstr_fill h0 hlen _

/-- The path is read back in the entry of a characteristic. -/
theorem chrcEntry_pathText (hc : c ∈ d.own s.characteristics) (es : List Attribute) :
    (chrcEntry btUuidstrToStr chrcProps c es).pathText = c.path := by
  obtain ⟨h0, hlen⟩ := h.text c (mem_of_characteristic hc)
  rw [ClientChrc.pathText, List.append_assoc]
  exact cstr_fill h0 hlen _

/-! ### One attribute -/

variable (hnamed : s.Named btUuidstrToStr d)

include hnamed

omit h in
/-- The name is found. -/
theorem nameText_eq {a : Attribute} (ha : a ∈ s.attributesOf d) :
    btUuidstrToStr a.uuidText = some (a.nameText btUuidstrToStr) := by
  obtain ⟨text, htext⟩ := Option.isSome_iff_exists.mp (hnamed a ha)
  rw [Attribute.nameText, htext]
  rfl

/-- A service gets the next entry. -/
theorem getServiceProxy_eq (hg : g ∈ d.own s.services) (done : ServiceInfo) :
    getServiceProxy btUuidstrToStr g done =
      if done.length < serviceCountMax then some (done ++ [serviceEntry btUuidstrToStr g []])
      else none := by
  rw [getServiceProxy, h.uuid_eq (mem_of_service hg)]
  simp only
  rw [nameText_eq hnamed (mem_of_service hg)]
  rfl

/-- A characteristic gets into the entry of its service, the last one, and into no other. -/
theorem getCharacteristic_eq (hg : g ∈ d.own s.services) (hc : c ∈ s.chrcsOf d g)
    {done : ServiceInfo} (hdone : ∀ t ∈ done, ¬ t.pathText <+: c.path) (cs : List ClientChrc) :
    getCharacteristic btUuidstrToStr chrcProps c (done ++ [serviceEntry btUuidstrToStr g cs]) =
      if cs.length < chrcCountMax then
        some (done ++ [serviceEntry btUuidstrToStr g
          (cs ++ [chrcEntry btUuidstrToStr chrcProps c []])])
      else none := by
  obtain ⟨hown, hparent⟩ := mem_chrcsOf.mp hc
  have hbelow := h.below_parent (mem_of_characteristic hown) hparent
  rw [getCharacteristic, h.uuid_eq (mem_of_characteristic hown)]
  simp only
  rw [mapM_append_singleton, if_pos, nameText_eq hnamed (mem_of_characteristic hown),
    Option.bind_some, put]
  · by_cases hroom : cs.length < chrcCountMax
    · rw [if_pos hroom, serviceEntry, if_pos hroom]
      rfl
    · rw [if_neg hroom, serviceEntry, if_neg hroom]
      rfl
  · rw [List.isPrefixOf_iff_prefix, h.serviceEntry_pathText hg]
    exact hbelow
  · -- the services before it are not above `c`
    intro t ht
    rw [if_neg]
    rw [List.isPrefixOf_iff_prefix]
    exact hdone t ht

/-- A descriptor gets into the entry of its characteristic, the last one of the last service. -/
theorem getDescriptor_eq (hg : g ∈ d.own s.services) (hc : c ∈ s.chrcsOf d g)
    (he : e ∈ s.descsOf d c) {done : ServiceInfo} (hdone : ∀ t ∈ done, ¬ t.pathText <+: e.path)
    {cs : List ClientChrc} (hcs : ∀ t ∈ cs, ¬ t.pathText <+: e.path) (es : List Attribute) :
    getDescriptor btUuidstrToStr e (done ++ [serviceEntry btUuidstrToStr g
        (cs ++ [chrcEntry btUuidstrToStr chrcProps c es])]) =
      if (es ++ [e]).length ≤ descCountMax then
        some (done ++ [serviceEntry btUuidstrToStr g
          (cs ++ [chrcEntry btUuidstrToStr chrcProps c (es ++ [e])])])
      else none := by
  obtain ⟨hcown, hcparent⟩ := mem_chrcsOf.mp hc
  obtain ⟨heown, heparent⟩ := mem_descsOf.mp he
  have hbelow := h.below_parent (mem_of_descriptor heown) heparent
  have hbelow' := (h.below_parent (mem_of_characteristic hcown) hcparent).trans hbelow
  rw [getDescriptor, h.uuid_eq (mem_of_descriptor heown)]
  simp only
  rw [updateM_append_singleton, serviceEntry, updateM_append_singleton,
    nameText_eq hnamed (mem_of_descriptor heown), Option.bind_some, put, chrcEntry,
    List.length_map, List.length_append, List.length_singleton]
  · by_cases hroom : es.length < descCountMax
    · rw [if_pos hroom, if_pos (Nat.succ_le_of_lt hroom), chrcEntry, List.map_append]
      rfl
    · rw [if_neg hroom, if_neg (mt Nat.lt_of_succ_le hroom)]
      rfl
  · -- the search in the last service
    intro t ht
    rw [← Bool.not_eq_true, List.isPrefixOf_iff_prefix]
    exact hcs t ht
  · rw [List.isPrefixOf_iff_prefix, h.chrcEntry_pathText hcown]
    exact hbelow
  · -- the search for this service
    intro t ht
    rw [← Bool.not_eq_true, List.isPrefixOf_iff_prefix]
    exact hdone t ht
  · rw [List.isPrefixOf_iff_prefix, h.serviceEntry_pathText hg]
    exact hbelow'

/-! ### The loops -/

/-- The descriptors of a characteristic. -/
theorem getListAttributes_descriptors (hg : g ∈ d.own s.services) (hc : c ∈ s.chrcsOf d g)
    {done : ServiceInfo} (hdone : ∀ e ∈ s.descsOf d c, ∀ t ∈ done, ¬ t.pathText <+: e.path)
    {cs : List ClientChrc} (hcs : ∀ e ∈ s.descsOf d c, ∀ t ∈ cs, ¬ t.pathText <+: e.path) :
    getListAttributes c.path s.descriptors (getDescriptor btUuidstrToStr)
        (done ++ [serviceEntry btUuidstrToStr g
          (cs ++ [chrcEntry btUuidstrToStr chrcProps c []])]) =
      if (s.descsOf d c).length ≤ descCountMax then
        some (done ++ [serviceEntry btUuidstrToStr g
          (cs ++ [treeChrc btUuidstrToStr chrcProps s d c])])
      else none := by
  rw [getListAttributes, h.filter_descriptors (mem_chrcsOf.mp hc).1]
  refine foldlM_build (f := fun es => done ++ [serviceEntry btUuidstrToStr g
    (cs ++ [chrcEntry btUuidstrToStr chrcProps c es])]) (P := fun es => es.length ≤ descCountMax)
    (Nat.zero_le _) (fun before after hall => ?_) fun before e after hl _ => ?_
  · exact (List.sublist_append_left before after).length_le.trans hall
  · have he : e ∈ s.descsOf d c := by
      rw [hl]
      exact List.mem_append_right _ List.mem_cons_self
    exact h.getDescriptor_eq hnamed hg hc he (hdone e he) (hcs e he) before

/-- The characteristics of a service, with their descriptors. -/
theorem getListAttributes_characteristics (hg : g ∈ d.own s.services) {done : ServiceInfo}
    (hdone : ∀ c ∈ s.chrcsOf d g, ∀ t ∈ done, ¬ t.pathText <+: c.path ∧
      ∀ e ∈ s.descsOf d c, ¬ t.pathText <+: e.path) :
    getListAttributes g.path s.characteristics (visitCharacteristic btUuidstrToStr chrcProps s)
        (done ++ [serviceEntry btUuidstrToStr g []]) =
      if s.FitsChrcs d (s.chrcsOf d g) then
        some (done ++ [treeService btUuidstrToStr chrcProps s d g])
      else none := by
  rw [getListAttributes, h.filter_characteristics hg]
  refine foldlM_build (f := fun cs => done ++ [serviceEntry btUuidstrToStr g
    (cs.map (treeChrc btUuidstrToStr chrcProps s d))]) (P := s.FitsChrcs d)
    ⟨Nat.zero_le _, fun _ hc => absurd hc List.not_mem_nil⟩ (fun before after hall => ?_)
    fun before c after hl hbefore => ?_
  · exact ⟨(List.sublist_append_left before after).length_le.trans hall.1,
      fun c hc => hall.2 c (List.mem_append_left _ hc)⟩
  have hmem : ∀ c' ∈ before ++ c :: after, c' ∈ s.chrcsOf d g := fun c' hc' => hl ▸ hc'
  have hc : c ∈ s.chrcsOf d g := hmem c (List.mem_append_right _ List.mem_cons_self)
  -- a characteristic in front of `c` is another one, and no descriptor belongs to both
  have hother : ∀ e ∈ s.descsOf d c, ∀ t ∈ before.map (treeChrc btUuidstrToStr chrcProps s d),
      ¬ t.pathText <+: e.path := by
    intro e he t ht hpre
    obtain ⟨c', hc', rfl⟩ := List.mem_map.mp ht
    obtain ⟨hown', -⟩ := mem_chrcsOf.mp (hmem c' (List.mem_append_left _ hc'))
    obtain ⟨hown, -⟩ := mem_chrcsOf.mp hc
    obtain ⟨heown, heparent⟩ := mem_descsOf.mp he
    rw [treeChrc, h.chrcEntry_pathText hown'] at hpre
    have hsame := h.eq_of_path (mem_of_characteristic hown') (mem_of_characteristic hown)
      (Option.some.inj ((h.parent_of_characteristic hown' heown hpre).symm.trans heparent))
    have hnodup : (before ++ c :: after).Nodup := hl ▸ h.nodup_characteristics.filter _
    exact (List.nodup_append'.mp hnodup).2.2 hc' (hsame ▸ List.mem_cons_self)
  have hfits : s.FitsChrcs d (before ++ [c]) ↔
      before.length < chrcCountMax ∧ (s.descsOf d c).length ≤ descCountMax := by
    rw [State.FitsChrcs, List.forall_mem_append, List.forall_mem_singleton, List.length_append]
    exact ⟨fun hall => ⟨hall.1, hall.2.2⟩, fun hboth => ⟨hboth.1, hbefore.2, hboth.2⟩⟩
  rw [visitCharacteristic,
    h.getCharacteristic_eq hnamed hg hc fun t ht => (hdone c hc t ht).1, List.length_map]
  by_cases hroom : before.length < chrcCountMax
  · rw [if_pos hroom, Option.bind_some, h.getListAttributes_descriptors hnamed hg hc
      (fun e he t ht => (hdone c hc t ht).2 e he) hother, List.map_append, List.map_singleton]
    exact if_congr (by rw [hfits, and_iff_right hroom]) rfl rfl
  · rw [if_neg hroom, if_neg fun hall => hroom (hfits.mp hall).1]
    rfl

/-- **The functions collect the tree of the device** if their arrays hold it; otherwise an entry
is written behind the end of one. -/
theorem gattGetListAttributes_eq :
    gattGetListAttributes btUuidstrToStr chrcProps s d.path [] =
      if s.FitsServices d (d.own s.services) then
        some ((d.own s.services).map (treeService btUuidstrToStr chrcProps s d))
      else none := by
  rw [gattGetListAttributes, getListAttributes, h.filter_services]
  refine foldlM_build (f := List.map (treeService btUuidstrToStr chrcProps s d))
    (P := s.FitsServices d) ⟨Nat.zero_le _, fun _ hg => absurd hg List.not_mem_nil⟩
    (fun before after hall => ?_) fun before g after hl hbefore => ?_
  · exact ⟨(List.sublist_append_left before after).length_le.trans hall.1,
      fun g hg => hall.2 g (List.mem_append_left _ hg)⟩
  have hmem : ∀ g' ∈ before ++ g :: after, g' ∈ d.own s.services := fun g' hg' => hl ▸ hg'
  have hg : g ∈ d.own s.services := hmem g (List.mem_append_right _ List.mem_cons_self)
  -- a service in front of `g` is another one, and has other characteristics and descriptors
  have hother : ∀ c ∈ s.chrcsOf d g, ∀ t ∈ before.map (treeService btUuidstrToStr chrcProps s d),
      ¬ t.pathText <+: c.path ∧ ∀ e ∈ s.descsOf d c, ¬ t.pathText <+: e.path := by
    intro c hc t ht
    obtain ⟨g', hg', rfl⟩ := List.mem_map.mp ht
    have hown' : g' ∈ d.own s.services := hmem g' (List.mem_append_left _ hg')
    obtain ⟨hown, hparent⟩ := mem_chrcsOf.mp hc
    have hforeign : c.parent ≠ some g'.path := by
      intro hparent'
      have hsame : g' = g := h.eq_of_path (mem_of_service hown') (mem_of_service hg)
        (Option.some.inj (hparent'.symm.trans hparent))
      have hnodup : (before ++ g :: after).Nodup := hl ▸ h.nodup_services
      exact (List.nodup_append'.mp hnodup).2.2 hg' (hsame ▸ List.mem_cons_self)
    rw [treeService, h.serviceEntry_pathText hown']
    refine ⟨fun hpre => hforeign (h.parent_of_service hown' hown hpre), fun e he hpre => ?_⟩
    obtain ⟨heown, heparent⟩ := mem_descsOf.mp he
    exact hforeign (h.parent_of_descriptor hown' hown heown heparent hpre)
  have hfits : s.FitsServices d (before ++ [g]) ↔
      before.length < serviceCountMax ∧ s.FitsChrcs d (s.chrcsOf d g) := by
    rw [State.FitsServices, List.forall_mem_append, List.forall_mem_singleton, List.length_append]
    exact ⟨fun hall => ⟨hall.1, hall.2.2⟩, fun hboth => ⟨hboth.1, hbefore.2, hboth.2⟩⟩
  rw [visitService, h.getServiceProxy_eq hnamed hg, List.length_map]
  by_cases hroom : before.length < serviceCountMax
  · rw [if_pos hroom, Option.bind_some, h.getListAttributes_characteristics hnamed hg hother,
      List.map_append, List.map_singleton]
    exact if_congr (by rw [hfits, and_iff_right hroom]) rfl rfl
  · rw [if_neg hroom, if_neg fun hall => hroom (hfits.mp hall).1]
    rfl

end Exposes

/-! ## What the caller reads -/

/-- A node with its uuid, its path and its children. -/
structure Node (α : Type) where
  uuid : List UInt8
  path : List UInt8
  children : List α

/-- A descriptor as the caller reads it in the structure. -/
def ClientDesc.read (e : ClientDesc) : Node Empty := ⟨cstr e.uuid, cstr e.path, []⟩

/-- A characteristic as the caller reads it. -/
def ClientChrc.read (c : ClientChrc) : Node (Node Empty) :=
  ⟨cstr c.uuid, cstr c.path, c.descs.map ClientDesc.read⟩

/-- A service as the caller reads it. -/
def ClientService.read (g : ClientService) : Node (Node (Node Empty)) :=
  ⟨cstr g.uuid, cstr g.path, g.chrcs.map ClientChrc.read⟩

/-- The tree of the device. -/
def State.tree (s : State) (d : DevicePath) : List (Node (Node (Node Empty))) :=
  (d.own s.services).map fun g => ⟨g.uuidText, g.path, (s.chrcsOf d g).map fun c =>
    ⟨c.uuidText, c.path, (s.descsOf d c).map fun e => ⟨e.uuidText, e.path, []⟩⟩⟩

namespace Exposes

variable {btUuidstrToStr : List UInt8 → Option (List UInt8)} {chrcProps : Proxy → ChrcProps}
  {s : State} {d : DevicePath} (h : Exposes s d)

include h

/-- Uuid and path stand in their fields as they are. -/
theorem cstr_fields {a : Attribute} (ha : a ∈ s.attributesOf d) :
    cstr (fill uuidBufLen a.uuidText) = a.uuidText ∧ cstr (fill pathBufLen a.path) = a.path := by
  obtain ⟨h0, hlen⟩ := h.text a ha
  obtain ⟨u, hu, hu0, hulen⟩ := h.uuid a ha
  have htext : a.uuidText = u := by
    rw [Attribute.uuidText, hu]
    rfl
  rw [htext, ← List.append_nil (fill uuidBufLen u), ← List.append_nil (fill pathBufLen a.path)]
  exact ⟨cstr_fill hu0 (by rw [hulen]; decide) [], cstr_fill h0 hlen []⟩

/-- The caller reads the tree in the entries. -/
theorem read_treeService :
    ((d.own s.services).map (treeService btUuidstrToStr chrcProps s d)).map ClientService.read =
      s.tree d := by
  have hdesc : ∀ e ∈ d.own s.descriptors,
      (descEntry btUuidstrToStr e).read = ⟨e.uuidText, e.path, []⟩ := by
    intro e he
    obtain ⟨huuid, hpath⟩ := h.cstr_fields (mem_of_descriptor he)
    rw [ClientDesc.read, descEntry, newDesc, huuid, hpath]
  have hchrc : ∀ c ∈ d.own s.characteristics, (treeChrc btUuidstrToStr chrcProps s d c).read =
      ⟨c.uuidText, c.path, (s.descsOf d c).map fun e => ⟨e.uuidText, e.path, []⟩⟩ := by
    intro c hc
    obtain ⟨huuid, hpath⟩ := h.cstr_fields (mem_of_characteristic hc)
    rw [ClientChrc.read, treeChrc, chrcEntry, List.map_map]
    refine congr (congrArg₂ Node.mk huuid hpath) (List.map_congr_left fun e he => ?_)
    exact hdesc e (mem_descsOf.mp he).1
  rw [List.map_map, State.tree]
  refine List.map_congr_left fun g hg => ?_
  obtain ⟨huuid, hpath⟩ := h.cstr_fields (mem_of_service hg)
  rw [Function.comp_apply, ClientService.read, treeService, serviceEntry, List.map_map]
  refine congr (congrArg₂ Node.mk huuid hpath) (List.map_congr_left fun c hc => ?_)
  exact hchrc c (mem_chrcsOf.mp hc).1

end Exposes

/-- **The call stays in bounds** exactly if it is not to look for the services at all, or the device
has at most 10 services with at most 20 characteristics with at most 5 descriptors each. The counts
it returns are within these limits. -/
theorem service_info_in_bounds_iff {btUuidstrToStr : List UInt8 → Option (List UInt8)}
    (chrcProps : Proxy → ChrcProps) {s : State} (address : Option (List UInt8)) (given : Bool)
    {d : DevicePath}
    (hpath : ∀ device ∈ address.bind s.findDeviceByAddress, (s.props device).path = d.path)
    (h : Exposes s d) (hnamed : s.Named btUuidstrToStr d) :
    ((gattClientGetServiceInfo btUuidstrToStr chrcProps s address given).isSome = true ↔
      (given = true → (address.bind s.findDeviceByAddress).isSome = true →
        (d.own s.services).length ≤ 10 ∧ ∀ g ∈ d.own s.services, (s.chrcsOf d g).length ≤ 20 ∧
          ∀ c ∈ s.chrcsOf d g, (s.descsOf d c).length ≤ 5)) ∧
      ∀ ret info, gattClientGetServiceInfo btUuidstrToStr chrcProps s address given =
          some (ret, some info) →
        info.length ≤ 10 ∧
          ∀ g ∈ info, g.chrcs.length ≤ 20 ∧ ∀ c ∈ g.chrcs, c.descs.length ≤ 5 := by
  rw [gattClientGetServiceInfo]
  cases given with
  | false =>
    refine ⟨iff_of_true rfl fun hgiven => ?_, fun ret info hnone => ?_⟩
    · cases hgiven
    · cases hnone
  | true =>
    cases hdevice : address.bind s.findDeviceByAddress with
    | none =>
      refine ⟨iff_of_true rfl fun _ hsome => ?_, fun ret info hnone => ?_⟩
      · cases hsome
      · cases hnone
    | some device =>
      -- the call fails only in the arrays
      simp only [Bool.not_true, Bool.false_eq_true, if_false]
      rw [hpath device hdevice, h.gattGetListAttributes_eq hnamed]
      by_cases hfits : s.FitsServices d (d.own s.services)
      · rw [if_pos hfits]
        refine ⟨iff_of_true rfl fun _ _ => hfits, ?_⟩
        rintro ret info ⟨⟩
        rw [List.length_map, List.forall_mem_map]
        refine ⟨hfits.1, fun g hg => ?_⟩
        rw [treeService, serviceEntry, List.length_map, List.forall_mem_map]
        refine ⟨(hfits.2 g hg).1, fun c hc => ?_⟩
        rw [treeChrc, chrcEntry, List.length_map]
        exact (hfits.2 g hg).2 c hc
      · rw [if_neg hfits]
        refine ⟨iff_of_false (fun hsome => ?_) fun hall => hfits (hall trivial rfl),
          fun ret info hnone => ?_⟩
        · cases hsome
        · cases hnone

/-- **The table is the tree.** For a device within the limits the call returns 0, and the structure
lists every service of the device once in list order, under each its own characteristics, and
under each of those its own descriptors, with their uuids and paths; whatever the lists hold of
other devices. -/
theorem service_info_is_tree {btUuidstrToStr : List UInt8 → Option (List UInt8)}
    (chrcProps : Proxy → ChrcProps) {s : State} {address : List UInt8} {device : Proxy}
    (hdevice : s.findDeviceByAddress address = some device) {d : DevicePath}
    (hpath : (s.props device).path = d.path) (h : Exposes s d)
    (hnamed : s.Named btUuidstrToStr d) (hservices : (d.own s.services).length ≤ 10)
    (hchrcs : ∀ g ∈ d.own s.services, (s.chrcsOf d g).length ≤ 20)
    (hdescs : ∀ c ∈ d.own s.characteristics, (s.descsOf d c).length ≤ 5) :
    ∃ info, gattClientGetServiceInfo btUuidstrToStr chrcProps s (some address) true =
        some (0, some info) ∧
      info.map ClientService.read = s.tree d := by
  have hfits : s.FitsServices d (d.own s.services) := ⟨hservices, fun g hg =>
    ⟨hchrcs g hg, fun c hc => hdescs c (Exposes.mem_chrcsOf.mp hc).1⟩⟩
  refine ⟨(d.own s.services).map (treeService btUuidstrToStr chrcProps s d), ?_,
    h.read_treeService⟩
  rw [gattClientGetServiceInfo, Option.bind_some, hdevice]
  simp only [Bool.not_true, Bool.false_eq_true, if_false]
  rw [hpath, h.gattGetListAttributes_eq hnamed, if_pos hfits]
  rfl

/-- A device and its service, whose characteristic has a descriptor. -/
def sensor : DevicePath := ⟨0, ⟨chars "00_0C_3E_3A_4B_69", by decide⟩⟩

/-- Another device, of which a service is in the lists. -/
def lamp : DevicePath := ⟨0, ⟨chars "00_0C_3E_3A_4B_70", by decide⟩⟩

/-- One adapter with both. -/
def twoDevices : State where
  ctrlList := [{ id := 0, proxy := 100, path := chars "/org/bluez/hci0", devices := [0, 1] }]
  defaultCtrl := some 0
  defaultDev := some 0
  defaultAttr := none
  services :=
    [{ proxy := 2
       path := lamp.path ++ chars "/service0001"
       uuid := some (chars "0000180a-0000-1000-8000-00805f9b34fb")
       parent := some lamp.path },
     { proxy := 3
       path := sensor.path ++ chars "/service0001"
       uuid := some (chars "0000180f-0000-1000-8000-00805f9b34fb")
       parent := some sensor.path }]
  characteristics :=
    [{ proxy := 4
       path := sensor.path ++ chars "/service0001/char0002"
       uuid := some (chars "00002a19-0000-1000-8000-00805f9b34fb")
       parent := some (sensor.path ++ chars "/service0001") }]
  descriptors :=
    [{ proxy := 5
       path := sensor.path ++ chars "/service0001/char0002/desc0004"
       uuid := some (chars "00002902-0000-1000-8000-00805f9b34fb")
       parent := some (sensor.path ++ chars "/service0001/char0002") }]
  reports := []
  adapters := [100]
  present := [0, 1]
  props := fun proxy =>
    if proxy = 0 then
      { path := sensor.path
        address := some ⟨chars "00:0C:3E:3A:4B:69", sampleAddress_length⟩
        connected := some true }
    else
      { path := lamp.path
        address := some ⟨chars "00:0C:3E:3A:4B:70", by decide⟩
        connected := some true }
  fresh := 6

/-- The objects of the first make up a tree. -/
theorem twoDevices_exposes : Exposes twoDevices sensor where
  owner := by
    intro a ha
    have hall : ∀ a ∈ twoDevices.services ++ twoDevices.characteristics ++
        twoDevices.descriptors, lamp.Has a ∨ sensor.Has a := by decide
    exact (hall a ha).elim (⟨lamp, ·⟩) (⟨sensor, ·⟩)
  service := by decide
  characteristic := by decide
  descriptor := by decide
  below := by decide
  nodup := by decide
  branch := by decide
  text := by decide
  uuid := by
    intro a ha
    have hall : ∀ a ∈ twoDevices.attributesOf sensor,
        a.uuid = some a.uuidText ∧ 0 ∉ a.uuidText ∧ a.uuidText.length = 36 := by decide
    exact ⟨a.uuidText, hall a ha⟩

/-- Three arrays with one entry each. -/
theorem service_info_in_bounds_twoDevices :
    (gattClientGetServiceInfo some (fun _ => ⟨none, none⟩) twoDevices
      (some (chars "00:0C:3E:3A:4B:69")) true).isSome = true :=
  (service_info_in_bounds_iff _ _ true (d := sensor)
    (by rintro device ⟨⟩; rfl) twoDevices_exposes fun _ _ => rfl).1.mpr fun _ _ => by decide

theorem service_info_is_tree_twoDevices :
    (∀ chrcProps, ∃ info,
        gattClientGetServiceInfo some chrcProps twoDevices
          (some (chars "00:0C:3E:3A:4B:69")) true = some (0, some info) ∧
        info.map ClientService.read = twoDevices.tree sensor) ∧
      (twoDevices.tree sensor).length = 1 :=
  ⟨fun chrcProps => service_info_is_tree chrcProps (d := sensor) rfl rfl twoDevices_exposes
    (fun _ _ => rfl) (by decide) (by decide) (by decide), rfl⟩

end ConnectApp.Bluez
