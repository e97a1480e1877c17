import ConnectApp.Bluez.GattServer

/-!
# Registering and cleaning up the GATT services balance

After `gatt_init` the ledger holds the entries of the table `gatt_service_instance`, and a
short tail when a registration failed. `gatt_cleanup` goes through the table again. Which tail
it is depends on the registration that fails first, and `gatt_balanced_iff` says which one
does harm.
-/

namespace ConnectApp.Bluez

open CString Ledger

/-! ## The property -/

/-- A path is used properly: each interface registered under it is unregistered exactly once,
it is not passed to `g_dbus_unregister_interface` when it has been freed, and the path of a
service is freed exactly once. -/
def Proper (uses : List Use) : Prop :=
  (∀ iface, .register iface ∈ uses → uses.count (.unregister iface) = 1) ∧
    (∀ iface, ¬ [.free, .unregister iface].Sublist uses) ∧
    (.alloc .service ∈ uses → uses.count .free = 1)

theorem proper_nil : Proper [] := ⟨nofun, nofun, nofun⟩

/-- Every path is used properly. -/
def Balanced (log : List (ObjectPath × Use)) : Prop := ∀ path, Proper (history log path)

/-- The registrations for a configuration, in the order in which they are made. -/
def registrations (services : List ServiceConfig) : List Iface :=
  services.flatMap fun gs => .service :: gs.chrUuids.map fun _ => .characteristic

/-- The first of these registrations to fail; `n` is the number of the first call. -/
def firstFailure (ok : Nat → Bool) (n : Nat) (ifaces : List Iface) : Option Iface :=
  ((ifaces.zipIdx n).find? fun x => !ok x.2).map Prod.fst

theorem firstFailure_cons (ok : Nat → Bool) (n : Nat) (iface : Iface) (ifaces : List Iface) :
    firstFailure ok n (iface :: ifaces) =
      if ok n then firstFailure ok (n + 1) ifaces else some iface := by
  cases hok : ok n <;> simp [firstFailure, List.zipIdx_cons, hok]

theorem firstFailure_append (ok : Nat → Bool) (n : Nat) (ifaces ifaces' : List Iface) :
    firstFailure ok n (ifaces ++ ifaces') =
      (firstFailure ok n ifaces).or (firstFailure ok (n + ifaces.length) ifaces') := by
  rw [firstFailure, List.zipIdx_append, List.find?_append, Option.map_or]
  rfl

namespace GattServer

/-! ## The table -/

/-- The paths in `gatt_service_instance`. -/
def layoutOf (services : List GattService) : List (ObjectPath × List ObjectPath) :=
  services.map fun g => (g.path, g.chrs.map Characteristic.path)

/-- What registering a table writes. -/
def created : List (ObjectPath × List ObjectPath) → List (ObjectPath × Use) :=
  rows [.alloc .service, .register .service] [.alloc .characteristic, .register .characteristic] []

/-- What unregistering a table writes. -/
def removed : List (ObjectPath × List ObjectPath) → List (ObjectPath × Use) :=
  rows [] [.unregister .characteristic, .free] [.unregister .service]

/-- Nothing has failed: the ledger holds the table, and its paths are different. -/
structure Built (s : GattServer) : Prop where
  log : s.log = created (layoutOf s.services)
  below : ∀ path ∈ resources (layoutOf s.services), path.ptr < s.heap
  nodup : (resources (layoutOf s.services)).Nodup

/-- The ledger holds the table and `tail`. -/
structure Ends (s : GattServer) (tail : List (ObjectPath × Use)) : Prop where
  log : s.log = created (layoutOf s.services) ++ tail
  nodup : (resources (layoutOf s.services)).Nodup

/-- A path that has just been allocated is not in the table. -/
theorem Built.not_mem {s : GattServer} (h : s.Built) {path : ObjectPath}
    (hpath : path.ptr = s.heap) : path ∉ resources (layoutOf s.services) := fun hmem =>
  absurd (h.below path hmem) (by omega)

theorem Built.ends {s : GattServer} (h : s.Built) : s.Ends [] :=
  ⟨h.log.trans (List.append_nil _).symm, h.nodup⟩

/-- A path has been registered and is the next one in the table. -/
theorem Built.extend {s t u : GattServer} (h : s.Built) {path : ObjectPath} {entries : List Use}
    (hadv : s.Advanced t path entries) (hheap : u.heap = t.heap)
    (hresources : resources (layoutOf u.services) = resources (layoutOf s.services) ++ [path])
    (hlog : u.log = created (layoutOf u.services)) : u.Built := by
  have hbound : u.heap = s.heap + 1 := hheap.trans hadv.heap
  refine ⟨hlog, fun p hp => ?_, ?_⟩
  · rw [hresources, List.mem_append, List.mem_singleton] at hp
    rcases hp with hp | rfl
    · have := h.below p hp
      omega
    · have := hadv.ptr
      omega
  · rw [hresources, ← List.concat_eq_append]
    exact h.nodup.concat (h.not_mem hadv.ptr)

/-- A service is added to the table. -/
theorem Built.addService {s t : GattServer} (h : s.Built) {path : ObjectPath}
    (hadv : s.Advanced t path [.alloc .service, .register .service]) :
    { t with services := t.services ++ [(⟨path, []⟩ : GattService)] }.Built := by
  refine h.extend hadv rfl (by simp [hadv.services, layoutOf, resources]) ?_
  show t.log = _
  rw [hadv.log, h.log, hadv.services]
  simp [layoutOf, created, rows, uses]

/-- A characteristic is added to the last service of the table. -/
theorem Built.addChr {s t : GattServer} (h : s.Built) {gs : List GattService} {g : GattService}
    (hs : s.services = gs ++ [g]) (chr : Characteristic)
    (hadv : s.Advanced t chr.path [.alloc .characteristic, .register .characteristic]) :
    { t with services := gs ++ [{ g with chrs := g.chrs ++ [chr] }] }.Built := by
  refine h.extend hadv rfl (by simp [hs, layoutOf, resources]) ?_
  show t.log = _
  rw [hadv.log, h.log, hs]
  simp [layoutOf, created, rows, uses]

/-! ## Creating the services -/

/-- What is written when a characteristic cannot be registered under `path`. -/
def botchedTail (path service : ObjectPath) : List (ObjectPath × Use) :=
  uses path [.alloc .characteristic, .free] ++ uses service [.unregister .service, .free]

/-- A characteristic could not be registered: the path of its service has been freed and is
still in the table. -/
def Botched (s : GattServer) : Prop :=
  ∃ g ∈ s.services, ∃ path ∉ resources (layoutOf s.services), s.Ends (botchedTail path g.path)

/-- `g_free` of the uuid does not concern the path. -/
theorem gDbusUnregisterInterface_service (s : GattServer) (path : ObjectPath) :
    s.gDbusUnregisterInterface path .service =
      { s with log := s.log ++ uses path [.unregister .service] } := by
  simp [gDbusUnregisterInterface, destroy, uses]

theorem modify_last (gs : List GattService) (g : GattService) (f : GattService → GattService) :
    (gs ++ [g]).modify gs.length f = gs ++ [f g] := by
  rw [List.modify_eq_take_drop, List.take_left, List.drop_left]
  rfl

/-- The characteristics of the last service of the table. -/
theorem createCharacteristics_spec (ok : Nat → Bool) (gs : List GattService) (path : ObjectPath)
    (uuids : List (List UInt8)) {s : GattServer} (h : s.Built) {g : GattService}
    (hs : s.services = gs ++ [g]) (hpath : g.path = path) :
    (∃ t, createCharacteristics ok gs.length path uuids s = (true, t) ∧ t.Built ∧
        (∃ g', t.services = gs ++ [g']) ∧ t.calls = s.calls + uuids.length ∧
        firstFailure ok s.calls (uuids.map fun _ => .characteristic) = none) ∨
      ∃ t, createCharacteristics ok gs.length path uuids s = (false, t) ∧ t.Botched ∧
        firstFailure ok s.calls (uuids.map fun _ => .characteristic) = some .characteristic := by
  -- the table grows with every round, and the service stays the last one
  induction uuids generalizing s g with
  | nil => exact .inl ⟨s, rfl, h, ⟨g, hs⟩, rfl, rfl⟩
  | cons uuid uuids ih =>
    rw [createCharacteristics, List.map_cons, firstFailure_cons]
    cases hok : ok s.calls with
    | true =>
      obtain ⟨chrPath, t, heq, hadv⟩ := s.registerCharacteristic_of_ok uuid [32] path hok
      simp only [heq, if_true, hadv.services, hs, modify_last]
      rw [← hadv.calls]
      rcases ih (h.addChr hs ⟨uuid, [32], chrPath⟩ hadv) rfl hpath with
        ⟨u, hu, hbuilt, hlast, hcalls, hnone⟩ | ⟨u, hu, hbotched, hfails⟩
      · have hnumber : u.calls = s.calls + (uuids.length + 1) := by
          have : u.calls = t.calls + uuids.length := hcalls
          rw [this, hadv.calls]
          omega
        exact .inl ⟨u, hu, hbuilt, hlast, hnumber, hnone⟩
      · exact .inr ⟨u, hu, hbotched, hfails⟩
    | false =>
      obtain ⟨chrPath, t, heq, hadv⟩ := s.registerCharacteristic_of_not_ok uuid [32] path hok
      simp only [heq, Bool.false_eq_true, if_false]
      rw [gDbusUnregisterInterface_service, gFree]
      refine .inr ⟨_, rfl, ⟨g, ?_, chrPath, ?_, ?_, ?_⟩, trivial⟩
      · show g ∈ t.services
        rw [hadv.services, hs]
        exact List.mem_append_right _ List.mem_cons_self
      · show chrPath ∉ resources (layoutOf t.services)
        rw [hadv.services]
        exact h.not_mem hadv.ptr
      · show t.log ++ _ ++ _ = created (layoutOf t.services) ++ _
        rw [hadv.log, hadv.services, h.log, hpath]
        simp only [botchedTail, uses, List.map_cons, List.map_nil, List.append_assoc,
          List.cons_append, List.nil_append]
      · show (resources (layoutOf t.services)).Nodup
        rw [hadv.services]
        exact h.nodup

/-- The services from `index` on. The first registration to fail decides how the ledger ends. -/
theorem createServices_spec (ok : Nat → Bool) (configs : List ServiceConfig) {s : GattServer}
    (h : s.Built) :
    let t := createServices ok s.services.length configs s
    match firstFailure ok s.calls (registrations configs) with
    | none => t.Ends []
    | some .service =>
      ∃ path ∉ resources (layoutOf t.services), t.Ends (uses path [.alloc .service, .free])
    | some .characteristic => t.Botched
    | some .descriptor => False := by
  induction configs generalizing s with
  | nil => exact h.ends
  | cons gs configs ih =>
    rw [registrations, List.flatMap_cons, List.cons_append, firstFailure_cons, createServices]
    cases hok : ok s.calls with
    | false =>
      obtain ⟨path, t, heq, hadv⟩ := s.registerService_of_not_ok hok
      simp only [heq, Bool.false_eq_true, if_false]
      rw [hadv.services]
      refine ⟨path, h.not_mem hadv.ptr, ?_, ?_⟩
      · rw [hadv.log, h.log, hadv.services]
      · rw [hadv.services]
        exact h.nodup
    | true =>
      obtain ⟨path, t, heq, hadv⟩ := s.registerService_of_ok hok
      simp only [heq, if_true, firstFailure_append]
      rw [← hadv.calls]
      have hadded := h.addService hadv
      rcases createCharacteristics_spec ok s.services path gs.chrUuids hadded
        (by rw [hadv.services]) rfl with
        ⟨u, hu, hbuilt, ⟨g, hlast⟩, hcalls, hnone⟩ | ⟨u, hu, hbotched, hfails⟩
      · have hindex : s.services.length + 1 = u.services.length := by
          rw [hlast, List.length_append]
          rfl
        have hnumber : t.calls + (gs.chrUuids.map fun _ => Iface.characteristic).length =
            u.calls := by
          rw [List.length_map]
          exact hcalls.symm
        simp only [hu, show firstFailure ok t.calls _ = none from hnone, Option.none_or, hindex,
          hnumber]
        exact ih hbuilt
      · simp only [hu, show firstFailure ok t.calls _ = some _ from hfails, Option.some_or]
        exact hbotched

/-! ## Cleaning up -/

/-- Whether an interface is on the bus is a matter of the history of its path. -/
theorem registered_congr {s t : GattServer} {path : ObjectPath}
    (h : history t.log path = history s.log path) (iface : Iface) :
    t.registered path iface = s.registered path iface := by
  rw [registered, registered, h]

/-- Characteristics that are on the bus are unregistered, and their paths are freed. -/
theorem unregisterChrs_eq (chrs : List Characteristic) (s : GattServer)
    (hnodup : (chrs.map Characteristic.path).Nodup)
    (hreg : ∀ chr ∈ chrs, s.registered chr.path .characteristic = true) :
    unregisterChrs chrs s =
      { s with
        log := s.log ++ (chrs.map Characteristic.path).flatMap
          fun path => uses path [.unregister .characteristic, .free] } := by
  induction chrs generalizing s with
  | nil => simp [unregisterChrs]
  | cons chr chrs ih =>
    obtain ⟨hnot, hrest⟩ := List.nodup_cons.mp hnodup
    have hfirst : s.gDbusUnregisterInterface chr.path .characteristic =
        { s with log := s.log ++ uses chr.path [.unregister .characteristic, .free] } := by
      simp [gDbusUnregisterInterface, hreg chr List.mem_cons_self, destroy, uses]
    rw [unregisterChrs, hfirst, ih _ hrest]
    · simp only [List.map_cons, List.flatMap_cons, List.append_assoc]
    · -- the entries for the first one do not concern the others
      intro chr' hchr'
      have hne : chr.path ≠ chr'.path := fun heq =>
        hnot (heq ▸ List.mem_map_of_mem (f := Characteristic.path) hchr')
      rw [registered_congr (s := s) (by
        rw [history_append, history_uses_of_ne hne, List.append_nil])]
      exact hreg chr' (List.mem_cons_of_mem _ hchr')

theorem unregisterBle_eq (services : List GattService) (s : GattServer)
    (hnodup : (resources (layoutOf services)).Nodup)
    (hreg : ∀ g ∈ services, ∀ chr ∈ g.chrs, s.registered chr.path .characteristic = true) :
    unregisterBle services s = { s with log := s.log ++ removed (layoutOf services) } := by
  induction services generalizing s with
  | nil => simp [unregisterBle, removed, layoutOf, rows]
  | cons g services ih =>
    rw [layoutOf, List.map_cons, resources, List.flatMap_cons, List.nodup_append'] at hnodup
    obtain ⟨hrow, hrest, hdisjoint⟩ := hnodup
    have hfirst : (unregisterChrs g.chrs s).gDbusUnregisterInterface g.path .service =
        { s with log := s.log ++ removed (layoutOf [g]) } := by
      rw [unregisterChrs_eq g.chrs s (List.nodup_cons.mp hrow).2 (hreg g List.mem_cons_self),
        gDbusUnregisterInterface_service]
      simp [removed, layoutOf, rows, uses]
    rw [unregisterBle, hfirst, ih _ hrest]
    · simp only [removed, layoutOf, List.map_cons, List.map_nil, List.append_assoc]
      rw [rows_cons _ _ _ _ (services.map _)]
    · intro g' hg' chr hchr
      have hother : chr.path ∉ resources (layoutOf [g]) := by
        have hmem : chr.path ∈ resources (layoutOf services) :=
          member_mem_resources (List.mem_map_of_mem hg') (List.mem_map_of_mem hchr)
        intro hin
        rw [layoutOf, List.map_cons, List.map_nil, resources, List.flatMap_singleton] at hin
        exact hdisjoint hin hmem
      rw [registered_congr (s := s) (by
        rw [history_append, removed, history_rows_of_not_mem hother, List.append_nil])]
      exact hreg g' (List.mem_cons_of_mem _ hg') chr hchr

theorem foldl_gFree_eq (services : List GattService) (s : GattServer) :
    services.foldl (fun s g => s.gFree g.path) s =
      { s with log := s.log ++ rows [.free] [] [] (layoutOf services) } := by
  induction services generalizing s with
  | nil => simp [layoutOf, rows]
  | cons g services ih =>
    rw [List.foldl_cons, ih, gFree]
    simp [layoutOf, rows, uses]

/-- What `gatt_cleanup` adds to the ledger, if the characteristics in the table are on the
bus. -/
theorem gattCleanup_log {s : GattServer} (hnodup : (resources (layoutOf s.services)).Nodup)
    (hreg : ∀ g ∈ s.services, ∀ chr ∈ g.chrs, s.registered chr.path .characteristic = true) :
    s.gattCleanup.log = s.log ++ removed (layoutOf s.services) ++
      rows [.free] [] [] (layoutOf s.services) := by
  rw [gattCleanup, unregisterBle_eq s.services s hnodup hreg, foldl_gFree_eq]

section Histories

variable {s : GattServer} {tail : List (ObjectPath × Use)}

/-- With a tail that leaves them alone, the characteristics in the table are on the bus. -/
theorem Ends.cleanup (h : s.Ends tail)
    (htail : ∀ g ∈ s.services, ∀ chr ∈ g.chrs, history tail chr.path = []) :
    s.gattCleanup.log = created (layoutOf s.services) ++ tail ++ removed (layoutOf s.services) ++
      rows [.free] [] [] (layoutOf s.services) := by
  rw [gattCleanup_log h.nodup, h.log]
  intro g hg chr hchr
  have hhistory : history s.log chr.path =
      [.alloc .characteristic, .register .characteristic] := by
    rw [h.log, history_append, htail g hg chr hchr, created,
      history_rows_member h.nodup (List.mem_map_of_mem hg) (List.mem_map_of_mem hchr)]
    rfl
  rw [registered, hhistory]
  decide

/-- The history of the path of a service after `gatt_cleanup`. -/
theorem Ends.history_service (h : s.Ends tail)
    (htail : ∀ g ∈ s.services, ∀ chr ∈ g.chrs, history tail chr.path = []) {g : GattService}
    (hg : g ∈ s.services) :
    history s.gattCleanup.log g.path =
      [.alloc .service, .register .service] ++ history tail g.path ++
        [.unregister .service, .free] := by
  have hrow : (g.path, g.chrs.map Characteristic.path) ∈ layoutOf s.services :=
    List.mem_map_of_mem hg
  rw [h.cleanup htail, history_append, history_append, history_append, created, removed,
    history_rows_head h.nodup hrow, history_rows_head h.nodup hrow, history_rows_head h.nodup hrow,
    List.append_assoc _ ([] ++ _)]
  rfl

theorem Ends.history_chr (h : s.Ends tail)
    (htail : ∀ g ∈ s.services, ∀ chr ∈ g.chrs, history tail chr.path = []) {g : GattService}
    (hg : g ∈ s.services) {chr : Characteristic} (hchr : chr ∈ g.chrs) :
    history s.gattCleanup.log chr.path =
      [.alloc .characteristic, .register .characteristic, .unregister .characteristic, .free] := by
  have hrow : (g.path, g.chrs.map Characteristic.path) ∈ layoutOf s.services :=
    List.mem_map_of_mem hg
  have hmem : chr.path ∈ g.chrs.map Characteristic.path := List.mem_map_of_mem hchr
  rw [h.cleanup htail, history_append, history_append, history_append, created, removed,
    htail g hg chr hchr, history_rows_member h.nodup hrow hmem,
    history_rows_member h.nodup hrow hmem, history_rows_member h.nodup hrow hmem]
  rfl

theorem Ends.history_other (h : s.Ends tail)
    (htail : ∀ g ∈ s.services, ∀ chr ∈ g.chrs, history tail chr.path = []) {path : ObjectPath}
    (hpath : path ∉ resources (layoutOf s.services)) :
    history s.gattCleanup.log path = history tail path := by
  rw [h.cleanup htail, history_append, history_append, history_append, created, removed,
    history_rows_of_not_mem hpath, history_rows_of_not_mem hpath, history_rows_of_not_mem hpath,
    List.nil_append, List.append_nil, List.append_nil]

/-- A tail that leaves the table alone and is proper itself does no harm. -/
theorem Ends.balanced (h : s.Ends tail)
    (htable : ∀ path ∈ resources (layoutOf s.services), history tail path = [])
    (hproper : ∀ path, Proper (history tail path)) : Balanced s.gattCleanup.log := by
  have hchrs : ∀ g ∈ s.services, ∀ chr ∈ g.chrs, history tail chr.path = [] := fun g hg chr hchr =>
    htable _ (member_mem_resources (List.mem_map_of_mem hg) (List.mem_map_of_mem hchr))
  intro path
  by_cases hpath : path ∈ resources (layoutOf s.services)
  · obtain ⟨row, hrow, hin⟩ := List.mem_flatMap.mp hpath
    obtain ⟨g, hg, rfl⟩ := List.mem_map.mp hrow
    rcases List.mem_cons.mp hin with rfl | hin
    · rw [h.history_service hchrs hg, htable _ hpath]
      refine ⟨fun iface => ?_, fun iface => ?_, fun _ => rfl⟩ <;> cases iface <;> decide
    · obtain ⟨chr, hchr, rfl⟩ := List.mem_map.mp hin
      rw [h.history_chr hchrs hg hchr]
      refine ⟨fun iface => ?_, fun iface => ?_, fun _ => rfl⟩ <;> cases iface <;> decide
  · rw [h.history_other hchrs hpath]
    exact hproper path

/-- The service whose path was freed is unregistered and freed once more. -/
theorem Botched.not_balanced (h : s.Botched) : ¬ Balanced s.gattCleanup.log := by
  obtain ⟨g, hg, path, hpath, hends⟩ := h
  have hrow : (g.path, g.chrs.map Characteristic.path) ∈ layoutOf s.services :=
    List.mem_map_of_mem hg
  have hother : path ≠ g.path := fun heq => hpath (heq ▸ head_mem_resources hrow)
  have hchrs : ∀ g' ∈ s.services, ∀ chr ∈ g'.chrs,
      history (botchedTail path g.path) chr.path = [] := by
    intro g' hg' chr hchr
    have hrow' : (g'.path, g'.chrs.map Characteristic.path) ∈ layoutOf s.services :=
      List.mem_map_of_mem hg'
    have hmem : chr.path ∈ g'.chrs.map Characteristic.path := List.mem_map_of_mem hchr
    have hnew : path ≠ chr.path := fun heq => hpath (heq ▸ member_mem_resources hrow' hmem)
    have hservice : g.path ≠ chr.path := head_ne_member hends.nodup hrow hrow' hmem
    rw [botchedTail, history_append, history_uses_of_ne hnew, history_uses_of_ne hservice]
    rfl
  intro hbalanced
  have hproper := hbalanced g.path
  rw [hends.history_service hchrs hg, botchedTail, history_append, history_uses_of_ne hother,
    history_uses_self] at hproper
  have hcount := hproper.1 .service (by decide)
  exact absurd hcount (by decide)

end Histories

end GattServer

/-- **Registration and clean-up balance.** For every configuration and every pattern of
failures, `gatt_init` and `gatt_cleanup` balance exactly if the first registration to fail is
not that of a characteristic. -/
theorem gatt_balanced_iff (ok : Nat → Bool) (config : GattConfig) :
    Balanced (({} : GattServer).gattInit ok config).gattCleanup.log ↔
      firstFailure ok 0 (registrations config.services) ≠ some .characteristic := by
  have hempty : ({} : GattServer).Built := ⟨rfl, nofun, List.nodup_nil⟩
  have hspec := GattServer.createServices_spec ok config.services hempty
  have hinit : ({} : GattServer).gattInit ok config =
      GattServer.createServices ok 0 config.services {} := rfl
  rw [hinit]
  cases hfirst : firstFailure ok 0 (registrations config.services) with
  | none =>
    have hends : (GattServer.createServices ok 0 config.services {}).Ends [] := by
      simpa [hfirst] using hspec
    exact iff_of_true (hends.balanced (fun _ _ => rfl) fun _ => proper_nil) nofun
  | some iface =>
    rw [show ({} : GattServer).calls = 0 from rfl, hfirst] at hspec
    cases iface with
    | service =>
      obtain ⟨path, hpath, hends⟩ := hspec
      refine iff_of_true (hends.balanced (fun p hp => ?_) fun p => ?_) nofun
      · exact history_uses_of_ne (fun (heq : path = p) => hpath (heq ▸ hp)) _
      · -- the path that could not be used has been freed at once
        by_cases heq : path = p
        · rw [← heq, history_uses_self]
          refine ⟨fun iface => ?_, fun iface => ?_, fun _ => rfl⟩ <;> cases iface <;> decide
        · rw [history_uses_of_ne heq]
          exact proper_nil
    | characteristic => exact iff_of_false hspec.not_balanced fun hne => hne rfl
    | descriptor => exact hspec.elim

/-- One service with one characteristic. -/
def oneService : GattConfig where
  services := [⟨[chars "00002a26-0000-1000-8000-00805f9b34fb"], by decide⟩]
  limit := by decide

/-- The characteristic cannot be registered: the path of the service is freed, passed to
`g_dbus_unregister_interface` and freed again. -/
theorem service_freed_twice :
    ∃ ok config, ¬ Balanced (({} : GattServer).gattInit ok config).gattCleanup.log := by
  refine ⟨fun n => n == 0, oneService, fun h => ?_⟩
  have hhistory : history (({} : GattServer).gattInit (fun n => n == 0) oneService).gattCleanup.log
      ⟨0, chars "/service1"⟩ =
      [.alloc .service, .register .service, .unregister .service, .free, .unregister .service,
        .free] := by decide
  have hproper := h ⟨0, chars "/service1"⟩
  rw [hhistory] at hproper
  exact absurd (hproper.2.2 List.mem_cons_self) (by decide)

end ConnectApp.Bluez
