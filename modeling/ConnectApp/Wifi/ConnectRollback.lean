import ConnectApp.Wifi.ConnectFailure

/-!
# What a failed `RK_wifi_connect` leaves in the table (Rk_wifi.c:1522-1695, 2121-2207)

`RK_wifi_connect1` disables all networks, may add one, sets its parameters, selects and
enables it; every failure leaves through one exit that undoes none of this. `AllOrNothing`
asks that a call that returns -1 leaves the ids and the enabled flags as they were;
`all_or_nothing_iff` says for which tables and which answers of the supplicant this holds.
-/

namespace ConnectApp.Wifi

open CString Script

/-- The ids and enabled flags of the supplicant's table. -/
def World.keys (w : World) : List (Int × Bool) := w.table.map Net.key

/-- The keys after `select_network id`: this network is enabled, all others are disabled. -/
def selected (id : Int) (keys : List (Int × Bool)) : List (Int × Bool) :=
  keys.map fun key => (key.1, decide (key.1 = id))

theorem exec_select_keys {env : Env} {id : Int} (w : World)
    (h : (machine env).ok (.selectNetwork id) = true) :
    ((machine env).exec (.selectNetwork id) w).keys = selected id w.keys := by
  show (if answersOk _ then w.table.map _ else w.table).map Net.key = (w.table.map Net.key).map _
  rw [if_pos (show answersOk (env.reply (.selectNetwork id)) = true from h), List.map_map,
    List.map_map]
  rfl

theorem exec_refused {env : Env} {c : Cmd} (w : World) (hadd : c ≠ .addNetwork)
    (h : (machine env).ok c = false) : ((machine env).exec c w).keys = w.keys := by
  have happly : c.apply (env.reply c) w.table = w.table := by
    cases c with
    | addNetwork => exact absurd rfl hadd
    | _ => exact if_neg (Bool.eq_false_iff.mp h)
  exact congrArg (List.map Net.key) happly

/-! ## The end of the script -/

theorem run_settings_keys (env : Env) {l : List Line} (hl : ∀ st ∈ l, IsSetting st) (w : World) :
    (run (machine env) l w).2.keys = w.keys :=
  run_frame (machine env) (fun st hst w => effect_keys (hl st hst) w) w

/-- What `select_network` does before it selects changes no key. -/
theorem select_prepares (env : Env) (v : World) (id : Int) (w : World) (l : List Line) :
    ∃ t, run (machine env) (selectScript v id ++ l) w =
      run (machine env) (.check (.selectNetwork id) (-1) :: l) t ∧ t.keys = w.keys := by
  unfold selectScript
  split_ifs
  · exact ⟨_, rfl, rfl⟩
  · refine ⟨_, rfl, ?_⟩
    exact apply_keys (c := .clearBssid id) rfl _ _

/-- The lines behind the settings have run: how far they came, and the keys they leave. -/
theorem run_select_keys (env : Env) (v : World) (id : Int) (w : World) :
    let r := run (machine env) (selectScript v id ++ [.check (.enableNetwork id) (-1)]) w
    (r.1 = none ↔ (machine env).ok (.selectNetwork id) = true ∧
        (machine env).ok (.enableNetwork id) = true) ∧
      (r.1 ≠ none → r.2.keys =
        if (machine env).ok (.selectNetwork id) then selected id w.keys else w.keys) := by
  obtain ⟨t, hrun, ht⟩ := select_prepares env v id w [.check (.enableNetwork id) (-1)]
  simp only [hrun, run]
  by_cases hselect : (machine env).ok (.selectNetwork id) = true
  · rw [if_pos hselect, if_pos hselect]
    by_cases henable : (machine env).ok (.enableNetwork id) = true
    · rw [if_pos henable]
      exact ⟨iff_of_true rfl ⟨hselect, henable⟩, fun h => absurd rfl h⟩
    · rw [if_neg henable]
      refine ⟨iff_of_false (by simp) fun h => henable h.2, fun _ => ?_⟩
      rw [exec_refused _ (by simp) (Bool.eq_false_iff.mpr henable), exec_select_keys _ hselect, ht]
  · rw [if_neg hselect, if_neg hselect]
    refine ⟨iff_of_false (by simp) fun h => hselect h.1, fun _ => ?_⟩
    rw [exec_refused _ (by simp) (Bool.eq_false_iff.mpr hselect), ht]

/-- The supplicant takes all settings and selects the network. -/
def selects (env : Env) (w : World) (id : Int) (ssid psk : List UInt8) (encryp : KeyMgmt) : Bool :=
  passes (machine env) (settingsScript env w id ssid psk encryp) &&
    (machine env).ok (.selectNetwork id)

/-- The whole script has run. -/
theorem run_connect_keys (env : Env) (v : World) (id : Int) (ssid psk : List UInt8)
    (encryp : KeyMgmt) (w : World) :
    let r := run (machine env) (connectScript env v id ssid psk encryp) w
    (r.1 = none ↔ selects env v id ssid psk encryp = true ∧
        (machine env).ok (.enableNetwork id) = true) ∧
      (r.1 ≠ none → r.2.keys =
        if selects env v id ssid psk encryp then selected id w.keys else w.keys) := by
  have hl := settingsScript_setting env v id ssid psk encryp
  have hkeys := run_settings_keys env hl w
  unfold selects connectScript
  by_cases hpass : passes (machine env) (settingsScript env v id ssid psk encryp) = true
  · rw [run_append_of_passes _ hpass, hpass, Bool.true_and, ← hkeys]
    exact run_select_keys env v id _
  · have hsome : (run (machine env) (settingsScript env v id ssid psk encryp) w).1 ≠ none := by
      rw [Ne, run_eq_none_iff]
      exact hpass
    rw [run_append, Bool.eq_false_iff.mpr hpass]
    cases hrun : run (machine env) (settingsScript env v id ssid psk encryp) w with
    | mk r t =>
      rw [hrun] at hsome hkeys
      cases r with
      | none => exact absurd rfl hsome
      | some err => exact ⟨iff_of_false (by simp) (by simp), fun _ => hkeys⟩

/-! ## The whole call -/

/-- `RK_wifi_connect` as a transaction: an error leaves the table as it was. -/
def AllOrNothing (env : Env) (ssid psk : Option (List UInt8)) (keyMgmt : KeyMgmt)
    (bssid : Option (List UInt8)) (w : World) : Prop :=
  ((Call.connect ssid psk keyMgmt bssid).run env w).1 = -1 →
    ((Call.connect ssid psk keyMgmt bssid).run env w).2.keys = w.keys

/-- The call adds a network. -/
def addsNetwork (env : Env) (ssid : List UInt8) (keyMgmt : KeyMgmt) : Bool :=
  decide (rkWifiSearchWithSsid env.saved ssid keyMgmt < 0) && adds (env.reply .addNetwork)

/-- The keys when `RK_wifi_connect1` has its network. -/
theorem started_keys (env : Env) (ssid : List UInt8) (encryp : KeyMgmt) (w : World) :
    (started env ssid encryp w).keys =
      (if (machine env).ok .disableAll then w.keys.map fun key => (key.1, false) else w.keys) ++
        if addsNetwork env ssid encryp then [(addedId (env.reply .addNetwork), false)] else [] := by
  have hdisable : (Cmd.disableAll.apply (env.reply .disableAll) w.table).map Net.key =
      if (machine env).ok .disableAll then w.keys.map fun key => (key.1, false) else w.keys := by
    show (if answersOk _ then w.table.map _ else w.table).map Net.key =
      if answersOk _ then (w.table.map Net.key).map _ else w.table.map Net.key
    split_ifs
    · rw [List.map_map, List.map_map]
      rfl
    · rfl
  have hadd : ∀ t : List Net, (Cmd.addNetwork.apply (env.reply .addNetwork) t).map Net.key =
      t.map Net.key ++
        if adds (env.reply .addNetwork) then [(addedId (env.reply .addNetwork), false)] else [] := by
    intro t
    show (if adds _ then t ++ _ else t).map Net.key = _
    split_ifs
    · rw [List.map_append]
      rfl
    · rw [List.append_nil]
  unfold World.keys
  rw [started_table]
  unfold addsNetwork
  by_cases hsearch : rkWifiSearchWithSsid env.saved ssid encryp < 0
  · rw [if_pos hsearch, hadd, hdisable, decide_eq_true hsearch, Bool.true_and]
    rfl
  · rw [if_neg hsearch, hdisable, decide_eq_false hsearch, Bool.false_and]
    exact (List.append_nil _).symm

/-- Nothing has been changed: no network was added, and none was enabled if all were
disabled. -/
theorem started_keys_eq_iff (env : Env) (ssid : List UInt8) (encryp : KeyMgmt) (w : World) :
    (started env ssid encryp w).keys = w.keys ↔ addsNetwork env ssid encryp = false ∧
      ((machine env).ok .disableAll = true → ∀ key ∈ w.keys, key.2 = false) := by
  rw [started_keys]
  by_cases hadd : addsNetwork env ssid encryp = true
  · rw [if_pos hadd]
    refine iff_of_false (fun h => ?_) (by simp [hadd])
    have hlen := congrArg List.length h
    split_ifs at hlen <;> simp at hlen
  · have hfalse := Bool.eq_false_iff.mpr hadd
    rw [if_neg hadd, List.append_nil]
    by_cases hok : (machine env).ok .disableAll = true
    · rw [if_pos hok]
      constructor
      · intro h
        refine ⟨hfalse, fun _ key hkey => ?_⟩
        rw [← h] at hkey
        obtain ⟨key', -, rfl⟩ := List.mem_map.mp hkey
        rfl
      · rintro ⟨-, h⟩
        refine (List.map_congr_left fun key hkey => ?_).trans (List.map_id _)
        exact Prod.ext rfl (h hok key hkey).symm
    · rw [if_neg hok]
      exact iff_of_true rfl ⟨hfalse, fun h => absurd h hok⟩

/-- Selecting the network has restored the flags. -/
theorem selected_keys_eq_iff (env : Env) (ssid : List UInt8) (encryp : KeyMgmt) (w : World)
    (id : Int) : selected id (started env ssid encryp w).keys = w.keys ↔
      addsNetwork env ssid encryp = false ∧ ∀ key ∈ w.keys, key.2 = decide (key.1 = id) := by
  have hsel : selected id (if (machine env).ok .disableAll then
      w.keys.map fun key => (key.1, false) else w.keys) = selected id w.keys := by
    split_ifs
    · unfold selected
      rw [List.map_map]
      rfl
    · rfl
  have happ : ∀ l l' : List (Int × Bool), selected id (l ++ l') = selected id l ++ selected id l' :=
    fun _ _ => List.map_append
  rw [started_keys, happ, hsel]
  by_cases hadd : addsNetwork env ssid encryp = true
  · rw [if_pos hadd]
    refine iff_of_false (fun h => ?_) (by simp [hadd])
    have hlen := congrArg List.length h
    simp [selected] at hlen
  · rw [if_neg hadd, show selected id [] = [] from rfl, List.append_nil]
    constructor
    · intro h
      refine ⟨Bool.eq_false_iff.mpr hadd, fun key hkey => ?_⟩
      rw [← h] at hkey
      obtain ⟨key', -, rfl⟩ := List.mem_map.mp hkey
      rfl
    · rintro ⟨-, h⟩
      refine (List.map_congr_left fun key hkey => ?_).trans (List.map_id _)
      exact Prod.ext rfl (h key hkey).symm

/-- When an error leaves nothing to undo. A rejected call sends nothing, a complete one
returns no error. Else no network may have been added; and if the network was selected, it
must have been the enabled one before, if not, either the networks were not disabled or none
was enabled. -/
def NothingToUndo (env : Env) (ssid psk : Option (List UInt8)) (keyMgmt : KeyMgmt)
    (bssid : Option (List UInt8)) (w : World) : Prop :=
  match ssid with
  | none => True
  | some ssid =>
    let id := networkId env ssid keyMgmt
    let select := 0 ≤ id ∧
      selects env (prepare keyMgmt bssid w) id ssid (psk.getD []) keyMgmt = true
    argsOk (some ssid) psk keyMgmt = false ∨ w.wifiConnectLock = true ∨
      (select ∧ (machine env).ok (.enableNetwork id) = true) ∨
      (addsNetwork env ssid keyMgmt = false ∧
        if select then ∀ key ∈ w.keys, key.2 = decide (key.1 = id)
        else (machine env).ok .disableAll = true → ∀ key ∈ w.keys, key.2 = false)

/-- The settings depend on the BSSID and the two name tables only. -/
theorem selects_congr {env : Env} {v w : World} (hflag : v.gbssidFlag = w.gbssidFlag)
    (hbssid : v.gbssid = w.gbssid) (hnonpsk : v.nonpskHead = w.nonpskHead)
    (hgbk : v.gbkHead = w.gbkHead) (id : Int) (ssid psk : List UInt8) (encryp : KeyMgmt) :
    selects env v id ssid psk encryp = selects env w id ssid psk encryp := by
  unfold selects settingsScript configureScript setNetworkScript
  rw [hflag, hbssid, hnonpsk, hgbk]

theorem connectFail_keys (w : World) : (connectFail w).2.keys = w.keys := by
  unfold connectFail
  rw [wifiStateSend_eq]
  rfl

/-- `RK_wifi_connect1`, run to its end. -/
theorem connect1_keys_iff (env : Env) (ssid psk : List UInt8) (encryp : KeyMgmt) (w : World) :
    let id := networkId env ssid encryp
    let select := 0 ≤ id ∧ selects env w id ssid psk encryp = true
    ((rkWifiConnect1 env ssid psk encryp w).1 = -1 →
        (rkWifiConnect1 env ssid psk encryp w).2.keys = w.keys) ↔
      (select ∧ (machine env).ok (.enableNetwork id) = true) ∨
        (addsNetwork env ssid encryp = false ∧
          if select then ∀ key ∈ w.keys, key.2 = decide (key.1 = id)
          else (machine env).ok .disableAll = true → ∀ key ∈ w.keys, key.2 = false) := by
  intro id select
  rw [connect1_eq]
  by_cases hid : networkId env ssid encryp < 0
  · have hselect : ¬ select := fun h => absurd hid (Int.not_lt.mpr h.1)
    rw [if_pos hid, connectFail_keys, if_neg hselect, ← started_keys_eq_iff]
    constructor
    · intro h
      exact .inr (h rfl)
    · rintro (h | h) -
      · exact absurd h.1 hselect
      · exact h
  · have hsel : selects env (started env ssid encryp w) id ssid psk encryp =
        selects env w id ssid psk encryp := by
      rw [started_eq]
      exact selects_congr rfl rfl rfl rfl id ssid psk encryp
    obtain ⟨hdone, hkeys⟩ := run_connect_keys env (started env ssid encryp w) id ssid psk encryp
      { started env ssid encryp w with connectingId := id }
    rw [hsel] at hdone hkeys
    rw [if_neg hid]
    generalize run (machine env) (connectScript env (started env ssid encryp w) id ssid psk encryp)
      { started env ssid encryp w with connectingId := id } = r at hdone hkeys ⊢
    obtain ⟨r, t⟩ := r
    cases r with
    | none =>
      obtain ⟨hselects, henable⟩ := hdone.mp rfl
      exact iff_of_true (fun h => by cases h) (.inl ⟨⟨Int.not_lt.mp hid, hselects⟩, henable⟩)
    | some err =>
      -- the script has failed: its keys are to be compared with those of before
      have hfail : ¬ (select ∧ (machine env).ok (.enableNetwork id) = true) := fun h => by
        cases hdone.mpr ⟨h.1.2, h.2⟩
      have hkeys : t.keys = _ := hkeys (by simp)
      rw [or_iff_right hfail]
      show ((-1 : Int) = -1 → (connectFail t).2.keys = w.keys) ↔ _
      rw [connectFail_keys, hkeys]
      by_cases hselects : selects env w id ssid psk encryp = true
      · rw [if_pos hselects, if_pos (show select from ⟨Int.not_lt.mp hid, hselects⟩),
          ← selected_keys_eq_iff]
        exact forall_prop_of_true rfl
      · rw [if_neg hselects, if_neg (fun h : select => hselects h.2), ← started_keys_eq_iff]
        exact forall_prop_of_true rfl

/-- **All or nothing.** A failing `RK_wifi_connect` leaves the ids and flags of the table alone
exactly when there was nothing to undo. -/
theorem all_or_nothing_iff (env : Env) (ssid psk : Option (List UInt8)) (keyMgmt : KeyMgmt)
    (bssid : Option (List UInt8)) (w : World) :
    AllOrNothing env ssid psk keyMgmt bssid w ↔ NothingToUndo env ssid psk keyMgmt bssid w := by
  have hreturned : (Call.connect ssid psk keyMgmt bssid).enter w = .returned w →
      AllOrNothing env ssid psk keyMgmt bssid w := by
    intro henter _
    unfold Call.run
    rw [henter]
  cases ssid with
  | none => exact iff_of_true (hreturned rfl) trivial
  | some ssid =>
    by_cases hargs : argsOk (some ssid) psk keyMgmt = false
    · exact iff_of_true (hreturned (if_pos hargs)) (.inl hargs)
    by_cases hlock : w.wifiConnectLock = true
    · refine iff_of_true (hreturned ?_) (.inr (.inl hlock))
      show (if _ then _ else if w.wifiConnectLock then _ else _) = _
      rw [if_pos hlock, ite_self]
    have hkeys : (prepare keyMgmt bssid { w with wifiConnectLock := true }).keys = w.keys := by
      rw [prepare_eq]
      rfl
    have hsel : selects env (prepare keyMgmt bssid { w with wifiConnectLock := true })
        (networkId env ssid keyMgmt) ssid (psk.getD []) keyMgmt =
        selects env (prepare keyMgmt bssid w) (networkId env ssid keyMgmt) ssid (psk.getD [])
          keyMgmt := by
      refine selects_congr ?_ ?_ ?_ ?_ _ _ _ _
      all_goals
        unfold prepare
        cases bssid <;> by_cases hwep : keyMgmt = .wep <;> simp [hwep]
    have hrun := connect_run (Bool.not_eq_false _ ▸ hargs) (Bool.eq_false_iff.mpr hlock) env bssid
    have hiff := connect1_keys_iff env ssid (psk.getD []) keyMgmt
      (prepare keyMgmt bssid { w with wifiConnectLock := true })
    rw [← hrun, hkeys] at hiff
    simp only [hsel] at hiff
    exact hiff.trans ((or_iff_right hargs).trans (or_iff_right hlock)).symm

/-- `set_network` is refused after all networks were disabled: the network that was connected
stays disabled, and a new one stays in the table. -/
theorem refused_network_stays : ¬ ∀ (env : Env) (ssid psk : Option (List UInt8))
    (keyMgmt : KeyMgmt) (bssid : Option (List UInt8)) (w : World),
    AllOrNothing env ssid psk keyMgmt bssid w := by
  intro h
  have hkeys := h .noBssid (some (chars "cafe")) none .none (some (chars "02:00:00:00:00:01"))
    { World.boot with table := [⟨7, true, []⟩] } (by decide)
  exact absurd hkeys (by decide)

end ConnectApp.Wifi
