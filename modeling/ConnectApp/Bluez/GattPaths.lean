import ConnectApp.Bluez.GattBalance

/-!
# The object paths of the GATT services (gatt_config.c:937-1072, 1230-1255)

`gatt_create_services` numbers its services, and its characteristics in one count over all
services: a path is `/service%d`, or `/service%d/characteristic%d`. `gatt_init` starts both counts
from 1 again, so the same paths come back in every cycle of `gatt_init` and `gatt_cleanup`.

- `GattName.text_injective`: different numbers give different paths
- `gattInit_all`, `Idle.cycle_eq`: what whole calls do when every registration succeeds
- `gatt_paths_never_collide`: in any sequence of such cycles no path is registered a second time
  before it has been unregistered

The ledger of `GattServer` is about allocations. What the bus sees is the text of a path; a text is
allocated anew in every cycle, so the ledger is read by texts here (`byText`).
-/

namespace ConnectApp.Bluez

open CString Ledger

/-! ## Names -/

/-- What a path is made of: the number of a service, and behind it that of a characteristic. -/
inductive GattName
  | service (n : Nat)
  | characteristic (n m : Nat)
  deriving DecidableEq

namespace GattName

/-- The path as the server writes it. -/
def text : GattName → List UInt8
  | service n => chars "/service" ++ natDec n
  | characteristic n m => chars "/service" ++ natDec n ++ chars "/characteristic" ++ natDec m

/-- The number of the service. -/
def number : GattName → Nat
  | service n | characteristic n _ => n

/-- The slash behind the number of the service. -/
theorem slash_head (m : Nat) :
    ∀ b ∈ (chars "/characteristic" ++ natDec m).head?, isDigit b = false :=
  head_not_digit rfl _

theorem service_text_ne (n n' m' : Nat) : (service n).text ≠ (characteristic n' m').text := by
  intro h
  rw [text, text, List.append_assoc, List.append_assoc, List.append_cancel_left_eq,
    ← List.append_nil (natDec n)] at h
  have hnil := (natDec_append_inj (by simp) (slash_head m') h).2
  cases hnil

/-- **Different names have different texts.** The slash ends the first number. -/
theorem text_injective : Function.Injective text := by
  intro x y h
  cases x with
  | service n =>
    cases y with
    | service n' => rw [natDec_injective (List.append_cancel_left h)]
    | characteristic n' m' => exact absurd h (service_text_ne n n' m')
  | characteristic n m =>
    cases y with
    | service n' => exact absurd h.symm (service_text_ne n' n m)
    | characteristic n' m' =>
      rw [text, text, List.append_assoc, List.append_assoc, List.append_assoc, List.append_assoc,
        List.append_cancel_left_eq] at h
      obtain ⟨rfl, htail⟩ := natDec_append_inj (slash_head m) (slash_head m') h
      rw [natDec_injective (List.append_cancel_left htail)]

end GattName

/-- `p` is the parent of the object path `c`. -/
def IsParent (p c : List UInt8) : Prop := ∃ name, 47 ∉ name ∧ c = p ++ 47 :: name

theorem eq_nil_of_slash_eq {a b r : List UInt8} (ha : 47 ∉ a) (h : 47 :: a = r ++ 47 :: b) :
    r = [] := by
  cases r with
  | nil => rfl
  | cons c r =>
    obtain ⟨-, rfl⟩ := List.cons_eq_cons.mp h
    exact absurd (List.mem_append_right r List.mem_cons_self) ha

/-- An object path has one parent: what stands in front of its last slash. -/
theorem IsParent.unique {p q c : List UInt8} (hp : IsParent p c) (hq : IsParent q c) : p = q := by
  obtain ⟨a, ha, rfl⟩ := hp
  obtain ⟨b, hb, heq⟩ := hq
  -- one of the two is the front of the other, and the rest would have a slash in a name
  rcases List.append_eq_append_iff.mp heq with ⟨r, rfl, hr⟩ | ⟨r, rfl, hr⟩
  · rw [eq_nil_of_slash_eq ha hr, List.append_nil]
  · rw [eq_nil_of_slash_eq hb hr, List.append_nil]

theorem isParent_characteristic (n m : Nat) :
    IsParent (GattName.service n).text (GattName.characteristic n m).text := by
  refine ⟨(chars "/characteristic").tail ++ natDec m, fun hmem => ?_, ?_⟩
  · rcases List.mem_append.mp hmem with h | h
    · exact absurd h (by decide)
    · exact absurd ((natDec_digits m).digits 47 h) (by decide)
  · rw [GattName.text, GattName.text, List.append_assoc]
    rfl

/-! ## What is on the bus -/

/-- Whether the interface is on the bus after the uses of a path. -/
def onBus (uses : List Use) (iface : Iface) : Bool :=
  uses.foldl (fun on use =>
    if use = .register iface then true else if use = .unregister iface then false else on) false

/-- No interface is on the bus. -/
def OffBus (uses : List Use) : Prop := ∀ iface, onBus uses iface = false

theorem OffBus.onBus_append {us : List Use} (h : OffBus us) (vs : List Use) (iface : Iface) :
    onBus (us ++ vs) iface = onBus vs iface := by
  rw [onBus, List.foldl_append, show us.foldl _ false = false from h iface]
  rfl

/-- Interfaces are only registered when none is on the bus. -/
def Settled (uses : List Use) : Prop :=
  ∀ before iface after, uses = before ++ .register iface :: after → OffBus before

theorem Settled.append {us vs : List Use} (hus : Settled us) (hoff : OffBus us)
    (hvs : Settled vs) : Settled (us ++ vs) := by
  intro before iface after heq
  rcases List.append_eq_append_iff.mp heq with ⟨r, rfl, hr⟩ | ⟨r, rfl, hr⟩
  · -- the registration is one of `vs`, and nothing is left from `us`
    intro i
    rw [hoff.onBus_append]
    exact hvs r iface after hr i
  · cases r with
    | nil =>
      rw [List.append_nil] at hoff
      exact hoff
    | cons use r =>
      obtain ⟨rfl, -⟩ := List.cons_eq_cons.mp hr
      exact hus before iface r rfl

/-- The whole life of a path. -/
def block (iface : Iface) : List Use :=
  [.alloc iface, .register iface, .unregister iface, .free]

theorem offBus_block (iface : Iface) : OffBus (block iface) := by
  intro i
  cases iface <;> cases i <;> rfl

theorem settled_block (iface : Iface) : Settled (block iface) := by
  intro before i after heq
  -- there is one registration, behind the allocation
  have hbefore : before = [.alloc iface] := by
    match before, heq with
    | [_], heq =>
      obtain ⟨rfl, -⟩ := List.cons_eq_cons.mp heq
      rfl
    | [], heq | [_, _], heq | [_, _, _], heq => simp [block] at heq
    | _ :: _ :: _ :: _ :: rest, heq => simp [block] at heq
  intro j
  rw [hbefore]
  cases iface <;> cases j <;> rfl

/-- The ledger by the texts of the paths. -/
def byText (log : List (ObjectPath × Use)) : List (List UInt8 × Use) :=
  log.map fun e => (e.1.text, e.2)

/-- Every interface is registered under a path that has nothing on the bus. -/
def NoClash (log : List (ObjectPath × Use)) : Prop :=
  ∀ before path iface after, log = before ++ (path, .register iface) :: after →
    OffBus (history (byText before) path.text)

theorem NoClash.of_append {log more : List (ObjectPath × Use)} (h : NoClash (log ++ more)) :
    NoClash log := by
  rintro before path iface after rfl
  exact h before path iface (after ++ more) (by rw [List.append_assoc, List.cons_append])

/-- It is a matter of the history of each text. -/
theorem noClash_of_settled {log : List (ObjectPath × Use)}
    (h : ∀ text, Settled (history (byText log) text)) : NoClash log := by
  rintro before path iface after rfl
  refine h path.text _ iface (history (byText after) path.text) ?_
  rw [byText, List.map_append, history_append, List.map_cons, ← List.singleton_append,
    history_append]
  simp [history, byText]

namespace GattServer

/-! ## `gatt_init` -/

/-- No registration fails. -/
def allSucceed : Nat → Bool := fun _ => true

/-- The characteristics of a service, from a number and an allocation on. -/
def chrsOf (servicePath : ObjectPath) : Nat → Nat → List (List UInt8) → List Characteristic
  | _, _, [] => []
  | heap, m, uuid :: uuids =>
    ⟨uuid, [32], heap, servicePath.text ++ chars "/characteristic" ++ natDec m⟩ ::
      chrsOf servicePath (heap + 1) (m + 1) uuids

/-- The services of a configuration, from the given numbers and an allocation on. -/
def servicesOf : Nat → Nat → Nat → List ServiceConfig → List GattService
  | _, _, _, [] => []
  | heap, n, m, gs :: rest =>
    let path : ObjectPath := ⟨heap, chars "/service" ++ natDec n⟩
    ⟨path, chrsOf path (heap + 1) m gs.chrUuids⟩ ::
      servicesOf (heap + 1 + gs.chrUuids.length) (n + 1) (m + gs.chrUuids.length) rest

theorem registerService_all (s : GattServer) :
    s.registerService allSucceed =
      (some ⟨s.heap, chars "/service" ++ natDec s.serviceId⟩,
        { s with
          serviceId := s.serviceId + 1
          heap := s.heap + 1
          calls := s.calls + 1
          log := s.log ++ uses ⟨s.heap, chars "/service" ++ natDec s.serviceId⟩
            [.alloc .service, .register .service] }) := by
  simp [registerService, gStrdupPrintf, gDbusRegisterInterface, allSucceed, uses]

theorem registerCharacteristic_all (s : GattServer) (uuid value : List UInt8)
    (servicePath : ObjectPath) :
    s.registerCharacteristic allSucceed uuid value none servicePath =
      (some ⟨uuid, value, s.heap,
          servicePath.text ++ chars "/characteristic" ++ natDec s.characteristicId⟩,
        { s with
          characteristicId := s.characteristicId + 1
          heap := s.heap + 1
          calls := s.calls + 1
          log := s.log ++ uses
            ⟨s.heap, servicePath.text ++ chars "/characteristic" ++ natDec s.characteristicId⟩
            [.alloc .characteristic, .register .characteristic] }) := by
  simp [registerCharacteristic, gStrdupPrintf, gDbusRegisterInterface, allSucceed, uses]

theorem createCharacteristics_all (gs : List GattService) (path : ObjectPath)
    (uuids : List (List UInt8)) {s : GattServer} {g : GattService} (hs : s.services = gs ++ [g]) :
    createCharacteristics allSucceed gs.length path uuids s =
      (true, { s with
        characteristicId := s.characteristicId + uuids.length
        heap := s.heap + uuids.length
        calls := s.calls + uuids.length
        services := gs ++
          [{ g with chrs := g.chrs ++ chrsOf path s.heap s.characteristicId uuids }]
        log := s.log ++ (chrsOf path s.heap s.characteristicId uuids).flatMap fun chr =>
          uses chr.path [.alloc .characteristic, .register .characteristic] }) := by
  induction uuids generalizing s g with
  | nil =>
    rw [createCharacteristics, chrsOf]
    simp [← hs]
  | cons uuid uuids ih =>
    -- the characteristic gets into the service at the end of the table, which is the current one
    rw [createCharacteristics, registerCharacteristic_all]
    simp only [hs, modify_last]
    rw [ih rfl, chrsOf]
    simp only [List.length_cons, List.flatMap_cons, List.append_assoc, List.singleton_append,
      Nat.add_assoc, Nat.add_comm 1]

/-- The services `gs` have been registered and stand at the end of the table. -/
structure Grows (s t : GattServer) (gs : List GattService) : Prop where
  services : t.services = s.services ++ gs
  heap : t.heap = s.heap + (resources (layoutOf gs)).length
  log : t.log = s.log ++ created (layoutOf gs)

theorem layoutOf_append (gs gs' : List GattService) :
    layoutOf (gs ++ gs') = layoutOf gs ++ layoutOf gs' := List.map_append

theorem Grows.trans {s t u : GattServer} {gs gs' : List GattService} (h : s.Grows t gs)
    (h' : t.Grows u gs') : s.Grows u (gs ++ gs') := by
  refine ⟨?_, ?_, ?_⟩
  · rw [h'.services, h.services, List.append_assoc]
  · rw [h'.heap, h.heap, layoutOf_append, resources, resources, resources, List.flatMap_append,
      List.length_append, Nat.add_assoc]
  · rw [h'.log, h.log, layoutOf_append, created, rows, rows, rows, List.flatMap_append,
      List.append_assoc]

theorem length_chrsOf (path : ObjectPath) (heap m : Nat) (uuids : List (List UInt8)) :
    (chrsOf path heap m uuids).length = uuids.length := by
  induction uuids generalizing heap m with
  | nil => rfl
  | cons uuid uuids ih => rw [chrsOf, List.length_cons, ih, List.length_cons]

/-- One service with its characteristics, the first one of `servicesOf`. -/
theorem createService_all (s : GattServer) (gs : ServiceConfig) :
    ∃ path t u, s.registerService allSucceed = (some path, t) ∧
      createCharacteristics allSucceed s.services.length path gs.chrUuids
        { t with services := t.services ++ [⟨path, []⟩] } = (true, u) ∧
      u.serviceId = s.serviceId + 1 ∧
      u.characteristicId = s.characteristicId + gs.chrUuids.length ∧
      u.heap = s.heap + 1 + gs.chrUuids.length ∧
      s.Grows u [⟨path, chrsOf path (s.heap + 1) s.characteristicId gs.chrUuids⟩] ∧
      path = ⟨s.heap, chars "/service" ++ natDec s.serviceId⟩ := by
  refine ⟨_, _, _, s.registerService_all, createCharacteristics_all s.services _ _ rfl, rfl, rfl,
    rfl, ⟨rfl, ?_, ?_⟩, rfl⟩
  · simp only [layoutOf, resources, List.map_cons, List.map_nil, List.flatMap_cons,
      List.flatMap_nil, List.append_nil, List.length_cons, List.length_map, length_chrsOf]
    omega
  · simp [layoutOf, created, rows, uses, List.flatMap_map]

/-- The loop of `gatt_create_services`. -/
theorem createServices_all (configs : List ServiceConfig) (s : GattServer) :
    s.Grows (createServices allSucceed s.services.length configs s)
      (servicesOf s.heap s.serviceId s.characteristicId configs) := by
  induction configs generalizing s with
  | nil => exact ⟨(List.append_nil _).symm, rfl, (List.append_nil _).symm⟩
  | cons gs configs ih =>
    obtain ⟨path, t, u, hservice, hchrs, hn, hm, hheap, hgrows, hpath⟩ := s.createService_all gs
    have hindex : s.services.length + 1 = u.services.length := by
      rw [hgrows.services, List.length_append]
      rfl
    have hrest := ih u
    rw [hn, hm, hheap] at hrest
    rw [createServices, hservice]
    simp only [hchrs]
    rw [hindex, servicesOf, ← hpath]
    exact hgrows.trans hrest

/-- **`gatt_init`**, when every registration succeeds. -/
theorem gattInit_all (s : GattServer) (hs : s.services = []) (config : GattConfig) :
    s.Grows (s.gattInit allSucceed config) (servicesOf s.heap 1 1 config.services) := by
  have h := createServices_all config.services { s with characteristicId := 1, serviceId := 1 }
  rw [show ({ s with characteristicId := 1, serviceId := 1 } : GattServer).services.length = 0 by
    rw [hs]; rfl] at h
  exact ⟨h.services, h.heap, h.log⟩

/-! ## The paths of one `gatt_init` -/

/-- The allocations are numbered from `heap` on. -/
theorem ptr_chrsOf (path : ObjectPath) (heap m : Nat) (uuids : List (List UInt8)) :
    (chrsOf path heap m uuids).map (fun chr => chr.path.ptr) = List.range' heap uuids.length := by
  induction uuids generalizing heap m with
  | nil => rfl
  | cons uuid uuids ih => rw [chrsOf, List.map_cons, ih, List.length_cons, List.range'_succ]

theorem ptr_servicesOf (heap n m : Nat) (configs : List ServiceConfig) :
    (resources (layoutOf (servicesOf heap n m configs))).map ObjectPath.ptr =
      List.range' heap (resources (layoutOf (servicesOf heap n m configs))).length := by
  induction configs generalizing heap n m with
  | nil => rfl
  | cons gs configs ih =>
    have hcons : resources (layoutOf (servicesOf heap n m (gs :: configs))) =
        ⟨heap, chars "/service" ++ natDec n⟩ ::
          (chrsOf ⟨heap, chars "/service" ++ natDec n⟩ (heap + 1) m gs.chrUuids).map
            Characteristic.path ++
          resources (layoutOf (servicesOf (heap + 1 + gs.chrUuids.length) (n + 1)
            (m + gs.chrUuids.length) configs)) := rfl
    rw [hcons, List.map_append, ih, List.map_cons, List.map_map, List.length_append,
      List.length_cons, List.length_map, length_chrsOf]
    have hchrs := ptr_chrsOf ⟨heap, chars "/service" ++ natDec n⟩ (heap + 1) m gs.chrUuids
    rw [show (ObjectPath.ptr ∘ Characteristic.path) = fun chr => chr.path.ptr from rfl, hchrs,
      ← List.range'_succ, Nat.add_assoc, Nat.add_comm 1, List.range'_append_1]

/-- The names of the paths, in rows of a service and its characteristics. -/
def namesOf : Nat → Nat → List ServiceConfig → List (GattName × List GattName)
  | _, _, [] => []
  | n, m, gs :: rest =>
    (.service n, (List.range' m gs.chrUuids.length).map (.characteristic n)) ::
      namesOf (n + 1) (m + gs.chrUuids.length) rest

theorem text_chrsOf (heap heap' n m : Nat) (uuids : List (List UInt8)) :
    (chrsOf ⟨heap, chars "/service" ++ natDec n⟩ heap' m uuids).map (fun chr => chr.path.text) =
      (List.range' m uuids.length).map fun m => (GattName.characteristic n m).text := by
  induction uuids generalizing heap' m with
  | nil => rfl
  | cons uuid uuids ih =>
    rw [chrsOf, List.map_cons, ih, List.length_cons, List.range'_succ, List.map_cons]
    rfl

theorem text_servicesOf (heap n m : Nat) (configs : List ServiceConfig) :
    rename ObjectPath.text (layoutOf (servicesOf heap n m configs)) =
      rename GattName.text (namesOf n m configs) := by
  induction configs generalizing heap n m with
  | nil => rfl
  | cons gs configs ih =>
    have hrest := ih (heap + 1 + gs.chrUuids.length) (n + 1) (m + gs.chrUuids.length)
    have hrow : ((chrsOf ⟨heap, chars "/service" ++ natDec n⟩ (heap + 1) m gs.chrUuids).map
          Characteristic.path).map ObjectPath.text =
        ((List.range' m gs.chrUuids.length).map (GattName.characteristic n)).map GattName.text := by
      rw [List.map_map, List.map_map]
      exact text_chrsOf heap (heap + 1) n m gs.chrUuids
    exact congrArg₂ List.cons (Prod.ext rfl hrow) hrest

theorem uuid_servicesOf (heap n m : Nat) (configs : List ServiceConfig) :
    (servicesOf heap n m configs).map (fun g => g.chrs.map Characteristic.uuid) =
      configs.map ServiceConfig.chrUuids := by
  have hchrs : ∀ path heap m uuids,
      (chrsOf path heap m uuids).map Characteristic.uuid = uuids := by
    intro path heap m uuids
    induction uuids generalizing heap m with
    | nil => rfl
    | cons uuid uuids ih => rw [chrsOf, List.map_cons, ih]
  induction configs generalizing heap n m with
  | nil => rfl
  | cons gs configs ih => rw [servicesOf, List.map_cons, List.map_cons, hchrs, ih]

/-- The services are numbered upwards. -/
theorem le_number_of_mem {n m : Nat} {configs : List ServiceConfig} {name : GattName}
    (h : name ∈ resources (namesOf n m configs)) : n ≤ name.number := by
  induction configs generalizing n m with
  | nil => cases h
  | cons gs configs ih =>
    rw [namesOf, resources, List.flatMap_cons, List.mem_append] at h
    rcases h with h | h
    · rcases List.mem_cons.mp h with rfl | h
      · exact Nat.le_refl n
      · obtain ⟨k, -, rfl⟩ := List.mem_map.mp h
        exact Nat.le_refl n
    · exact Nat.le_of_succ_le (ih h)

theorem nodup_namesOf (n m : Nat) (configs : List ServiceConfig) :
    (resources (namesOf n m configs)).Nodup := by
  induction configs generalizing n m with
  | nil => exact List.nodup_nil
  | cons gs configs ih =>
    rw [namesOf, resources, List.flatMap_cons]
    refine List.nodup_append'.mpr ⟨List.nodup_cons.mpr ⟨by simp, ?_⟩, ih _ _, ?_⟩
    · exact List.Nodup.map (fun _ _ h => (GattName.characteristic.inj h).2) List.nodup_range'
    · -- the number of the service tells the rows apart
      intro name hrow hrest
      have hle := le_number_of_mem hrest
      rcases List.mem_cons.mp hrow with rfl | hmem
      · exact Nat.not_succ_le_self n hle
      · obtain ⟨k, -, rfl⟩ := List.mem_map.mp hmem
        exact Nat.not_succ_le_self n hle

theorem isParent_namesOf {n m : Nat} {configs : List ServiceConfig}
    {row : GattName × List GattName} (hrow : row ∈ namesOf n m configs) :
    ∀ name ∈ row.2, IsParent row.1.text name.text := by
  induction configs generalizing n m with
  | nil => cases hrow
  | cons gs configs ih =>
    rcases List.mem_cons.mp hrow with rfl | hrow
    · intro name hname
      obtain ⟨k, -, rfl⟩ := List.mem_map.mp hname
      exact isParent_characteristic n k
    · exact ih hrow

/-- **The paths of one `gatt_init`** are pairwise distinct. -/
theorem nodup_text_servicesOf (heap n m : Nat) (configs : List ServiceConfig) :
    (resources (rename ObjectPath.text (layoutOf (servicesOf heap n m configs)))).Nodup := by
  rw [text_servicesOf, resources_rename]
  exact (nodup_namesOf n m configs).map GattName.text_injective

theorem isParent_servicesOf {heap n m : Nat} {configs : List ServiceConfig} {g : GattService}
    (hg : g ∈ servicesOf heap n m configs) {chr : Characteristic} (hchr : chr ∈ g.chrs) :
    IsParent g.path.text chr.path.text := by
  have hrow : (g.path.text, (g.chrs.map Characteristic.path).map ObjectPath.text) ∈
      rename GattName.text (namesOf n m configs) := by
    rw [← text_servicesOf heap]
    exact List.mem_map_of_mem (List.mem_map_of_mem hg)
  obtain ⟨row, hmem, heq⟩ := List.mem_map.mp hrow
  obtain ⟨hhead, hmembers⟩ := Prod.mk_inj.mp heq
  have hchr' : chr.path.text ∈ row.2.map GattName.text := by
    rw [hmembers]
    exact List.mem_map_of_mem (List.mem_map_of_mem hchr)
  obtain ⟨name, hname, htext⟩ := List.mem_map.mp hchr'
  rw [← hhead, ← htext]
  exact isParent_namesOf hmem name hname

/-! ## Cycles -/

/-- `gatt_init` and then `gatt_cleanup`. -/
def cycle (s : GattServer) (config : GattConfig) : GattServer :=
  (s.gattInit allSucceed config).gattCleanup

/-- Between two cycles: no service is in the table, and no interface is on the bus. -/
structure Idle (s : GattServer) : Prop where
  services : s.services = []
  below : ∀ e ∈ s.log, e.1.ptr < s.heap
  settled : ∀ text, Settled (history (byText s.log) text)
  offBus : ∀ text, OffBus (history (byText s.log) text)

section

variable {s : GattServer} (h : s.Idle) (config : GattConfig)

include h

theorem Idle.init_services :
    (s.gattInit allSucceed config).services = servicesOf s.heap 1 1 config.services := by
  rw [(s.gattInit_all h.services config).services, h.services, List.nil_append]

theorem Idle.init_nodup : (resources (layoutOf (s.gattInit allSucceed config).services)).Nodup := by
  refine List.Nodup.of_map ObjectPath.ptr ?_
  rw [h.init_services, ptr_servicesOf]
  exact List.nodup_range'

/-- The paths are new, so the ledger says nothing else about them. -/
theorem Idle.init_registered :
    ∀ g ∈ (s.gattInit allSucceed config).services, ∀ chr ∈ g.chrs,
      (s.gattInit allSucceed config).registered chr.path .characteristic = true := by
  intro g hg chr hchr
  have hnodup := h.init_nodup config
  have hrow : (g.path, g.chrs.map Characteristic.path) ∈
      layoutOf (s.gattInit allSucceed config).services := List.mem_map_of_mem hg
  have hmem : chr.path ∈ g.chrs.map Characteristic.path := List.mem_map_of_mem hchr
  rw [h.init_services] at hnodup hrow
  have hfresh : s.heap ≤ chr.path.ptr := by
    have hin := List.mem_map_of_mem (f := ObjectPath.ptr) (member_mem_resources hrow hmem)
    rw [ptr_servicesOf, List.mem_range'_1] at hin
    exact hin.1
  have hbefore : history s.log chr.path = [] := by
    rw [history, List.filterMap_eq_nil_iff]
    intro e he
    exact if_neg fun heq => absurd (h.below e he) (by rw [heq]; omega)
  rw [registered, (s.gattInit_all h.services config).log, history_append, hbefore, created,
    history_rows_member hnodup hrow hmem]
  decide

/-- What a cycle leaves. -/
theorem Idle.cycle_eq {layout : List (ObjectPath × List ObjectPath)}
    (hlayout : layout = layoutOf (servicesOf s.heap 1 1 config.services)) :
    (s.cycle config).log = s.log ++ created layout ++ removed layout ++
        rows [.free] [] [] layout ∧
      (s.cycle config).heap = s.heap + (resources layout).length := by
  have hinit := s.gattInit_all h.services config
  rw [cycle, gattCleanup, unregisterBle_eq _ _ (h.init_nodup config) (h.init_registered config),
    foldl_gFree_eq]
  refine ⟨?_, hinit.heap.trans (by rw [hlayout])⟩
  rw [hinit.log, h.init_services, ← hlayout]

end

/-- What the bus sees of a cycle, under one text: nothing, or the whole life of one path. -/
theorem history_cycle {layout : List (ObjectPath × List ObjectPath)}
    (hnodup : (resources (rename ObjectPath.text layout)).Nodup) (text : List UInt8) :
    history (byText (created layout ++ removed layout ++ rows [.free] [] [] layout)) text = [] ∨
      ∃ iface, history (byText (created layout ++ removed layout ++ rows [.free] [] [] layout)) text
        = block iface := by
  rw [byText, List.map_append, List.map_append, created, removed, map_rows, map_rows, map_rows,
    history_append, history_append]
  by_cases htext : text ∈ resources (rename ObjectPath.text layout)
  · -- only one object has this path, and its row says what becomes of it
    obtain ⟨row, hrow, hin⟩ := List.mem_flatMap.mp htext
    rcases List.mem_cons.mp hin with rfl | hin
    · refine .inr ⟨.service, ?_⟩
      rw [history_rows_head hnodup hrow, history_rows_head hnodup hrow,
        history_rows_head hnodup hrow]
      rfl
    · refine .inr ⟨.characteristic, ?_⟩
      rw [history_rows_member hnodup hrow hin, history_rows_member hnodup hrow hin,
        history_rows_member hnodup hrow hin]
      rfl
  · rw [history_rows_of_not_mem htext, history_rows_of_not_mem htext,
      history_rows_of_not_mem htext]
    exact .inl rfl

/-- **One cycle** ends as it began, with nothing on the bus. -/
theorem Idle.cycle {s : GattServer} (h : s.Idle) (config : GattConfig) : (s.cycle config).Idle := by
  obtain ⟨layout, hlayout⟩ : ∃ layout, layout = layoutOf (servicesOf s.heap 1 1 config.services) :=
    ⟨_, rfl⟩
  obtain ⟨hlog, hheap⟩ := h.cycle_eq config hlayout
  have hnodup : (resources (rename ObjectPath.text layout)).Nodup :=
    hlayout ▸ nodup_text_servicesOf _ _ _ _
  have hhistory : ∀ text, history (byText (s.cycle config).log) text =
      history (byText s.log) text ++
        history (byText (created layout ++ removed layout ++ rows [.free] [] [] layout)) text := by
    intro text
    rw [hlog, List.append_assoc, List.append_assoc, ← List.append_assoc (created layout), byText,
      List.map_append, history_append]
    rfl
  have hbelow : ∀ path ∈ resources layout, path.ptr < s.heap + (resources layout).length := by
    intro path hpath
    have hin := List.mem_map_of_mem (f := ObjectPath.ptr) hpath
    rw [hlayout, ptr_servicesOf, List.mem_range'_1, ← hlayout] at hin
    exact hin.2
  refine ⟨rfl, fun e he => ?_, fun text => ?_, fun text => ?_⟩
  · -- the pointers of the cycle are those that `malloc` has given out in it
    rw [hlog, List.mem_append, List.mem_append, List.mem_append] at he
    rw [hheap]
    rcases he with ((he | he) | he) | he
    · exact Nat.lt_of_lt_of_le (h.below e he) (Nat.le_add_right _ _)
    · exact hbelow _ (mem_resources_of_mem_rows he)
    · exact hbelow _ (mem_resources_of_mem_rows he)
    · exact hbelow _ (mem_resources_of_mem_rows he)
  · -- a path used in the cycle before was off the bus when this one registered it
    rw [hhistory]
    rcases history_cycle hnodup text with hnil | ⟨iface, hblock⟩
    · rw [hnil, List.append_nil]
      exact h.settled text
    · rw [hblock]
      exact (h.settled text).append (h.offBus text) (settled_block iface)
  · intro iface
    rw [hhistory, (h.offBus text).onBus_append]
    rcases history_cycle hnodup text with hnil | ⟨iface', hblock⟩
    · rw [hnil]
      rfl
    · rw [hblock]
      exact offBus_block iface' iface

/-- Any number of cycles from the start of the program on. -/
def cycles (configs : List GattConfig) : GattServer := configs.foldl cycle {}

theorem idle_cycles (configs : List GattConfig) : (cycles configs).Idle := by
  have hrun : ∀ s : GattServer, s.Idle → (configs.foldl cycle s).Idle := by
    induction configs with
    | nil => exact fun s h => h
    | cons config configs ih => exact fun s h => ih _ (h.cycle config)
  refine hrun {} ⟨rfl, nofun, fun text => ?_, fun text iface => rfl⟩
  intro before iface after heq
  exact absurd heq.symm (List.append_ne_nil_of_right_ne_nil _ (List.cons_ne_nil _ _))

end GattServer

open GattServer in
/-- **GATT paths never collide.** After any cycles of `gatt_init` and `gatt_cleanup` nothing is on
the bus, and no interface has been registered under a path that had one. In the next `gatt_init` the
paths of all services and characteristics are pairwise distinct, the parent of each
characteristic's path is that of its own service and no other, and all of them get on the bus. -/
theorem gatt_paths_never_collide (configs : List GattConfig) :
    NoClash (cycles configs).log ∧
      (∀ text, OffBus (history (byText (cycles configs).log) text)) ∧
      ∀ config t, t = (cycles configs).gattInit allSucceed config →
        NoClash t.log ∧
        t.services.map (fun g => g.chrs.map Characteristic.uuid) =
          config.services.map ServiceConfig.chrUuids ∧
        (resources (rename ObjectPath.text (layoutOf t.services))).Nodup ∧
        ∀ g ∈ t.services, onBus (history (byText t.log) g.path.text) .service = true ∧
          ∀ chr ∈ g.chrs, onBus (history (byText t.log) chr.path.text) .characteristic = true ∧
            ∀ p, IsParent p chr.path.text ↔ p = g.path.text := by
  have hidle := idle_cycles configs
  refine ⟨noClash_of_settled hidle.settled, hidle.offBus, ?_⟩
  rintro config t rfl
  have hinit := (cycles configs).gattInit_all hidle.services config
  have hservices := hidle.init_services config
  -- the clean-up that follows only adds to the ledger
  have hclash : NoClash ((cycles configs).gattInit allSucceed config).log := by
    have hcycle := noClash_of_settled (hidle.cycle config).settled
    rw [(hidle.cycle_eq config rfl).1, ← hinit.log] at hcycle
    exact hcycle.of_append.of_append
  have hnodup := nodup_text_servicesOf (cycles configs).heap 1 1 config.services
  have hbus : ∀ text iface, onBus
      (history (byText ((cycles configs).gattInit allSucceed config).log) text) iface =
      onBus (history (rows [.alloc .service, .register .service]
        [.alloc .characteristic, .register .characteristic] []
        (rename ObjectPath.text (layoutOf (servicesOf (cycles configs).heap 1 1 config.services))))
        text) iface := by
    intro text iface
    rw [hinit.log, byText, List.map_append, history_append, created, map_rows]
    exact (hidle.offBus text).onBus_append _ iface
  refine ⟨hclash, by rw [hservices, uuid_servicesOf], hservices ▸ hnodup, fun g hg => ?_⟩
  rw [hservices] at hg
  have hrow : (g.path.text, (g.chrs.map Characteristic.path).map ObjectPath.text) ∈
      rename ObjectPath.text
        (layoutOf (servicesOf (cycles configs).heap 1 1 config.services)) :=
    List.mem_map_of_mem (List.mem_map_of_mem hg)
  refine ⟨?_, fun chr hchr => ⟨?_, fun p => ?_⟩⟩
  · rw [hbus, history_rows_head hnodup hrow]
    rfl
  · rw [hbus, history_rows_member hnodup hrow (List.mem_map_of_mem (List.mem_map_of_mem hchr))]
    rfl
  · have hparent := isParent_servicesOf hg hchr
    exact ⟨fun hp => hp.unique hparent, fun hp => hp ▸ hparent⟩

end ConnectApp.Bluez
