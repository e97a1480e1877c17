import ConnectApp.Wifi.Connect

/-!
# The connect functions as scripts

Once the network id is known, the functions below the entry points only send commands.
`connectNetwork_eq` and `connectSaved_eq` put the scripts of the single functions together
to one script each, so that what holds of every line holds of a whole call.

`World.rest` is the part of the state that no line of these scripts writes; `run_rest` says
that a run leaves it alone.
-/

namespace ConnectApp.Wifi

open CString Script

/-! ## One script per function -/

/-- The lines of the scripts: commands, and the two assignments between them. -/
inductive IsLine : Line → Prop
  | send (c : Cmd) : IsLine (.send c)
  | check (c : Cmd) (err : Int) : IsLine (.check c err)
  | wep (id : Int) : IsLine (.assign fun w => { w with wepId := id })
  | unflag : IsLine (.assign fun w => { w with gbssidFlag := false })

/-- The state without what the scripts write. -/
def World.rest (w : World) : World :=
  { w with wepId := 0, gbssidFlag := false, table := [], sent := [] }

/-- A line leaves what no script writes. -/
theorem effect_rest {env : Env} {l : Line} (h : IsLine l) (w : World) :
    (l.effect (machine env) w).rest = w.rest := by
  cases h <;> rfl

/-- So does a whole script. -/
theorem run_rest (env : Env) {l : List Line} (h : ∀ st ∈ l, IsLine st) (w : World) :
    (run (machine env) l w).2.rest = w.rest :=
  run_frame (machine env) (fun st hst w => effect_rest (h st hst) w) w

/-- The log of a run. -/
theorem run_sent (env : Env) {l : List Line} (h : ∀ st ∈ l, IsLine st) (w : World) :
    (run (machine env) l w).2.sent = w.sent ++ issued (machine env) l := by
  have hassign : ∀ f, Step.assign f ∈ l → ∀ w : World, (f w).sent = w.sent := by
    intro f hf w
    cases h _ hf <;> rfl
  exact run_log (machine env) (fun _ _ => rfl) hassign w

/-- The lines in front of `select_network`: they only set parameters. -/
inductive IsSetting : Line → Prop
  | send (id : Int) (param : Param) (value : List UInt8) :
      IsSetting (.send (.setNetwork id param value))
  | check (id : Int) (param : Param) (value : List UInt8) (err : Int) :
      IsSetting (.check (.setNetwork id param value) err)
  | wep (id : Int) : IsSetting (.assign fun w => { w with wepId := id })

/-- A setting is a line. -/
theorem IsSetting.isLine {st : Line} (h : IsSetting st) : IsLine st := by
  cases h with
  | send => exact .send _
  | check => exact .check _ _
  | wep => exact .wep _

/-- A setting leaves the flag of the BSSID. -/
theorem effect_gbssidFlag {env : Env} {st : Line} (h : IsSetting st) (w : World) :
    (st.effect (machine env) w).gbssidFlag = w.gbssidFlag := by
  cases h <;> rfl

/-- A setting adds and removes no network. -/
theorem effect_keys {env : Env} {st : Line} (h : IsSetting st) (w : World) :
    (st.effect (machine env) w).table.map Net.key = w.table.map Net.key := by
  cases h with
  | send id param value => exact apply_keys (c := .setNetwork id param value) rfl _ _
  | check id param value err => exact apply_keys (c := .setNetwork id param value) rfl _ _
  | wep => rfl

/-! ## The scripts -/

/-- The lines of `set_network` as `RK_wifi_connect1` calls it. -/
def configureScript (w : World) (id : Int) (ssid psk : List UInt8) (encryp : KeyMgmt) :
    List Line :=
  if encryp = .none ∨ psk = [] then
    setNetworkScript w id (getEncodeGbkOri w.nonpskHead ssid) [] .none
  else setNetworkScript w id (getEncodeGbkOri w.gbkHead ssid) psk encryp

/-- The lines of `RK_wifi_connect1` in front of `select_network`. -/
def settingsScript (env : Env) (w : World) (id : Int) (ssid psk : List UInt8)
    (encryp : KeyMgmt) : List Line :=
  configureScript w id ssid psk encryp ++
    (priorityScript env id ++ [.check (.setNetwork id .scanSsid (chars "1")) (-1)])

/-- The lines of `RK_wifi_connect1` once the id is known. -/
def connectScript (env : Env) (w : World) (id : Int) (ssid psk : List UInt8) (encryp : KeyMgmt) :
    List Line :=
  settingsScript env w id ssid psk encryp ++
    (selectScript w id ++ [.check (.enableNetwork id) (-1)])

/-- The lines of the other two functions once the id is known. -/
def savedScript (env : Env) (w : World) (id : Int) : List Line :=
  selectScript w id ++ (priorityScript env id ++ [.check (.enableNetwork id) (-1)])

/-- The lines of step 2 of `set_network` name neither the ssid nor the bssid. -/
inductive IsSecurity (id : Int) : Line → Prop
  | param {param : Param} (value : List UInt8) (err : Int) (hbssid : param ≠ .bssid)
      (hssid : param ≠ .ssid) : IsSecurity id (.check (.setNetwork id param value) err)
  | wep : IsSecurity id (.assign fun w => { w with wepId := id })

/-- A security line is a setting. -/
theorem IsSecurity.isSetting {id : Int} {st : Line} (h : IsSecurity id st) : IsSetting st := by
  cases h with
  | param value err => exact .check _ _ _ _
  | wep => exact .wep _

/-- The settings of every key management are security lines of that network. -/
theorem securityScript_lines (id : Int) (psk : List UInt8) (encryp : KeyMgmt) :
    ∀ st ∈ securityScript id psk encryp, IsSecurity id st := by
  have hparam : ∀ (p : Param) (value : List UInt8) (err : Int), p ≠ .bssid → p ≠ .ssid →
      IsSecurity id (.check (.setNetwork id p value) err) :=
    fun p value err hb hs => .param value err hb hs
  unfold securityScript
  intro st hst
  split_ifs at hst
  all_goals
    simp only [List.mem_cons, List.not_mem_nil, or_false] at hst
  · subst hst
    exact hparam _ _ _ (by decide) (by decide)
  · rcases hst with rfl | rfl | rfl | rfl
    · exact hparam _ _ _ (by decide) (by decide)
    · exact .wep
    · exact hparam _ _ _ (by decide) (by decide)
    · exact hparam _ _ _ (by decide) (by decide)
  · subst hst
    exact hparam _ _ _ (by decide) (by decide)
  · rcases hst with rfl | rfl | rfl <;> exact hparam _ _ _ (by decide) (by decide)

/-- The lines of `set_network` are settings. -/
theorem setNetworkScript_setting (w : World) (id : Int) (ssid psk : List UInt8)
    (encryp : KeyMgmt) : ∀ st ∈ setNetworkScript w id ssid psk encryp, IsSetting st := by
  intro st hst
  rcases List.mem_append.mp hst with hst | hst
  · split_ifs at hst
    · rw [List.mem_singleton.mp hst]
      exact .check _ _ _ _
    · cases hst
  · rcases List.mem_cons.mp hst with rfl | hst
    · exact .check _ _ _ _
    · exact (securityScript_lines id psk encryp st hst).isSetting

/-- The lines of the priorities are settings. -/
theorem priorityScript_setting (env : Env) (id : Int) :
    ∀ st ∈ priorityScript env id, IsSetting st := by
  intro st hst
  obtain ⟨row, -, rfl⟩ := List.mem_map.mp hst
  exact .send _ _ _

/-- The lines from `set_network` to `scan_ssid` are settings. -/
theorem configureScript_setting (w : World) (id : Int) (ssid psk : List UInt8)
    (encryp : KeyMgmt) : ∀ st ∈ configureScript w id ssid psk encryp, IsSetting st := by
  unfold configureScript
  split_ifs <;> exact setNetworkScript_setting _ _ _ _ _

/-- All lines in front of `select_network` are settings. -/
theorem settingsScript_setting (env : Env) (w : World) (id : Int) (ssid psk : List UInt8)
    (encryp : KeyMgmt) : ∀ st ∈ settingsScript env w id ssid psk encryp, IsSetting st := by
  intro st hst
  rcases List.mem_append.mp hst with hst | hst
  · exact configureScript_setting w id ssid psk encryp st hst
  rcases List.mem_append.mp hst with hst | hst
  · exact priorityScript_setting env id st hst
  · rw [List.mem_singleton.mp hst]
    exact .check _ _ _ _

/-- `select_network` and `bssid` of it are lines. -/
theorem selectScript_isLine (w : World) (id : Int) : ∀ st ∈ selectScript w id, IsLine st := by
  intro st hst
  rcases List.mem_append.mp hst with hst | hst
  · split_ifs at hst
    · rw [List.mem_singleton.mp hst]
      exact .unflag
    · rw [List.mem_singleton.mp hst]
      exact .send _
  · rw [List.mem_singleton.mp hst]
    exact .check _ _

/-- The whole script of `RK_wifi_connect1` consists of lines. -/
theorem connectScript_isLine (env : Env) (w : World) (id : Int) (ssid psk : List UInt8)
    (encryp : KeyMgmt) : ∀ st ∈ connectScript env w id ssid psk encryp, IsLine st := by
  intro st hst
  rcases List.mem_append.mp hst with hst | hst
  · exact (settingsScript_setting env w id ssid psk encryp st hst).isLine
  rcases List.mem_append.mp hst with hst | hst
  · exact selectScript_isLine w id st hst
  · rw [List.mem_singleton.mp hst]
    exact .check _ _

/-- So does that of a saved network. -/
theorem savedScript_isLine (env : Env) (w : World) (id : Int) :
    ∀ st ∈ savedScript env w id, IsLine st := by
  intro st hst
  rcases List.mem_append.mp hst with hst | hst
  · exact selectScript_isLine w id st hst
  rcases List.mem_append.mp hst with hst | hst
  · exact (priorityScript_setting env id st hst).isLine
  · rw [List.mem_singleton.mp hst]
    exact .check _ _

/-! ## The functions run their scripts -/

/-- A report changes nothing else. -/
theorem wifiStateSend_eq (state : RunningState) (w : World) :
    wifiStateSend state w = { w with reports := (wifiStateSend state w).reports } := by
  unfold wifiStateSend
  split_ifs <;> rfl

/-- What `announce` changes. -/
theorem announce_eq (env : Env) (ssid bssid : Option (List UInt8)) (w : World) :
    announce env ssid bssid w = { w with
      connectSsid := (ssid.getD []).take 129
      connectBssid := (bssid.getD []).take 20
      reports := (announce env ssid bssid w).reports
      table := Cmd.disableAll.apply (env.reply .disableAll) w.table
      sent := w.sent ++ [.disableAll] } := by
  unfold announce
  rw [wifiStateSend_eq]
  rfl

section

variable (env : Env) (fail : World → Int × World)

/-- Two scripts with the same fail exit are one script. -/
theorem orFail_run (l l' : List Line) (w : World) (k : World → Int × World) :
    orFail fail (run (machine env) l w) (fun t => orFail fail (run (machine env) l' t) k) =
      orFail fail (run (machine env) (l ++ l') w) k := by
  rw [run_append]
  cases run (machine env) l w with
  | mk r t => cases r <;> rfl

/-- What follows a script depends on the state behind it only. -/
theorem orFail_congr {r : Option Int × World} {k k' : World → Int × World} (h : k r.2 = k' r.2) :
    orFail fail r k = orFail fail r k' := by
  obtain ⟨r, t⟩ := r
  cases r with
  | none => exact h
  | some err => rfl

/-- The exits of a function that ends with its script. -/
def exits (r : Option Int × World) : Int × World := orFail fail r fun w => (0, w)

/-- Nobody looks at the answers to the priorities. -/
theorem passes_priority (id : Int) : passes (machine env) (priorityScript env id) = true := by
  have hsend : ∀ (f : Int → Cmd) (rows : List Int),
      passes (machine env) (rows.map fun row => (.send (f row) : Line)) = true := by
    intro f rows
    induction rows with
    | nil => rfl
    | cons row rows ih => exact ih
  exact hsend _ _

/-- The priorities are a script in front of the next one. -/
theorem priority_then (id : Int) (l : List Line) (w : World) :
    run (machine env) l (setNetworkHighestPriority env id w) =
      run (machine env) (priorityScript env id ++ l) w :=
  (run_append_of_passes (machine env) (passes_priority env id) l w).symm

end

/-- `configure` is its script. -/
theorem configure_eq (env : Env) (id : Int) (ssid psk : List UInt8) (encryp : KeyMgmt)
    (w : World) : configure env id ssid psk encryp w =
      run (machine env) (configureScript w id ssid psk encryp) w := by
  unfold configure configureScript
  split_ifs <;> rfl

/-- `select_network` depends on the flag of the BSSID only. -/
theorem selectScript_congr {w w' : World} (h : w.gbssidFlag = w'.gbssidFlag) (id : Int) :
    selectScript w id = selectScript w' id := by
  unfold selectScript
  rw [h]

/-- `RK_wifi_connect1` runs its lines up to the first failing check. -/
theorem connectNetwork_eq (env : Env) (id : Int) (ssid psk : List UInt8) (encryp : KeyMgmt)
    (w : World) : connectNetwork env id ssid psk encryp w =
      exits connectFail (run (machine env) (connectScript env w id ssid psk encryp)
        { w with connectingId := id }) := by
  have hflag : (run (machine env) (settingsScript env w id ssid psk encryp)
      { w with connectingId := id }).2.gbssidFlag = w.gbssidFlag :=
    run_frame (machine env) (g := World.gbssidFlag) (fun st hst w =>
      effect_gbssidFlag (settingsScript_setting env _ id ssid psk encryp st hst) w) _
  unfold connectNetwork exits connectScript
  rw [configure_eq]
  simp only [setHideNetwork, selectNetwork, enableNetwork, priority_then, orFail_run]
  rw [show configureScript { w with connectingId := id } id ssid psk encryp ++
      (priorityScript env id ++ [.check (.setNetwork id .scanSsid (chars "1")) (-1)]) =
    settingsScript env w id ssid psk encryp from rfl]
  rw [← orFail_run]
  refine orFail_congr connectFail ?_
  show orFail connectFail (run (machine env) (selectScript _ id ++ _) _) _ = _
  rw [selectScript_congr hflag]

/-- The other two functions run theirs. -/
theorem connectSaved_eq (env : Env) (id : Int) (text : List UInt8) (w : World) :
    connectSaved env id text w = exits existFail (run (machine env) (savedScript env w id)
      (announce env none (some text) { w with connectingId := id })) := by
  have hflag : (announce env none (some text) { w with connectingId := id }).gbssidFlag =
      w.gbssidFlag := by
    rw [announce_eq]
  unfold connectSaved exits savedScript
  simp only [selectNetwork, enableNetwork, priority_then, orFail_run, selectScript_congr hflag]

/-- The id of the network `RK_wifi_connect1` configures, negative if there is none. -/
def networkId (env : Env) (ssid : List UInt8) (encryp : KeyMgmt) : Int :=
  if rkWifiSearchWithSsid env.saved ssid encryp < 0 then
    if env.reply .addNetwork = [] then -1 else addedId (env.reply .addNetwork)
  else rkWifiSearchWithSsid env.saved ssid encryp

/-- `RK_wifi_connect1` up to the network id. -/
def started (env : Env) (ssid : List UInt8) (encryp : KeyMgmt) (w : World) : World :=
  (findOrAdd env ssid encryp (announce env (some ssid) none { w with wifiWrongKey := false })).2

/-- `RK_wifi_connect1` is its start, one script and the exits. -/
theorem connect1_eq (env : Env) (ssid psk : List UInt8) (encryp : KeyMgmt) (w : World) :
    rkWifiConnect1 env ssid psk encryp w =
      if networkId env ssid encryp < 0 then connectFail (started env ssid encryp w)
      else exits connectFail (run (machine env)
        (connectScript env (started env ssid encryp w) (networkId env ssid encryp) ssid psk encryp)
        { started env ssid encryp w with connectingId := networkId env ssid encryp }) := by
  have hid : networkId env ssid encryp = (findOrAdd env ssid encryp
      (announce env (some ssid) none { w with wifiWrongKey := false })).1 := by
    unfold networkId findOrAdd
    simp only
    split_ifs <;> simp [addNetwork, *]
  rw [← connectNetwork_eq, hid]
  rfl

/-- Up to the network id, the flags stay as they are. -/
theorem started_eq (env : Env) (ssid : List UInt8) (encryp : KeyMgmt) (w : World) :
    started env ssid encryp w = { w with
      wifiWrongKey := false
      connectSsid := ssid.take 129
      connectBssid := []
      reports := (started env ssid encryp w).reports
      table := (started env ssid encryp w).table
      sent := (started env ssid encryp w).sent } := by
  unfold started findOrAdd
  rw [announce_eq]
  simp only
  split_ifs <;> rfl

/-- What `prepare` changes. -/
theorem prepare_eq (keyMgmt : KeyMgmt) (bssid : Option (List UInt8)) (w : World) :
    prepare keyMgmt bssid w = { w with
      isWep := (prepare keyMgmt bssid w).isWep
      gbssid := (prepare keyMgmt bssid w).gbssid
      gbssidFlag := (prepare keyMgmt bssid w).gbssidFlag } := by
  unfold prepare
  cases bssid <;> by_cases h : keyMgmt = .wep <;> simp [h]

/-- The commands sent up to the network id. -/
def startCommands (env : Env) (ssid : List UInt8) (encryp : KeyMgmt) : List Cmd :=
  .disableAll :: if rkWifiSearchWithSsid env.saved ssid encryp < 0 then [.addNetwork] else []

/-- The start sends `disable_network all` and, for a new network, `add_network`. -/
theorem started_sent (env : Env) (ssid : List UInt8) (encryp : KeyMgmt) (w : World) :
    (started env ssid encryp w).sent = w.sent ++ startCommands env ssid encryp := by
  unfold started findOrAdd startCommands
  rw [announce_eq]
  simp only
  split_ifs
  · exact List.append_assoc ..
  · rfl

/-- What these two leave in the table. -/
theorem started_table (env : Env) (ssid : List UInt8) (encryp : KeyMgmt) (w : World) :
    (started env ssid encryp w).table =
      if rkWifiSearchWithSsid env.saved ssid encryp < 0 then
        Cmd.addNetwork.apply (env.reply .addNetwork)
          (Cmd.disableAll.apply (env.reply .disableAll) w.table)
      else Cmd.disableAll.apply (env.reply .disableAll) w.table := by
  unfold started findOrAdd
  rw [announce_eq]
  simp only
  split_ifs <;> rfl

/-! ## The commands of a call -/

/-- The fail exit sends nothing. -/
theorem connectFail_sent (w : World) : (connectFail w).2.sent = w.sent := by
  unfold connectFail
  rw [wifiStateSend_eq]

/-- The fail exit of a saved network sends nothing. -/
theorem existFail_sent (w : World) : (existFail w).2.sent = w.sent := by
  unfold existFail
  rw [wifiStateSend_eq]

/-- A script and its exits send the commands up to the first that fails. -/
theorem exits_sent {env : Env} {fail : World → Int × World} {l : List Line}
    (hfail : ∀ w, (fail w).2.sent = w.sent) (hl : ∀ st ∈ l, IsLine st) (w : World) :
    (exits fail (run (machine env) l w)).2.sent = w.sent ++ issued (machine env) l := by
  rw [← run_sent env hl w]
  cases run (machine env) l w with
  | mk r t =>
    cases r with
    | none => rfl
    | some err => exact hfail t

/-- All that `RK_wifi_connect1` sends. -/
theorem connect1_sent (env : Env) (ssid psk : List UInt8) (encryp : KeyMgmt) (w : World) :
    (rkWifiConnect1 env ssid psk encryp w).2.sent =
      w.sent ++ (startCommands env ssid encryp ++
        if networkId env ssid encryp < 0 then []
        else issued (machine env) (connectScript env (started env ssid encryp w)
          (networkId env ssid encryp) ssid psk encryp)) := by
  rw [connect1_eq, ← List.append_assoc, ← started_sent env ssid encryp w]
  split_ifs
  · rw [connectFail_sent, List.append_nil]
  · exact exits_sent connectFail_sent (connectScript_isLine _ _ _ _ _ _) _

/-- All that a connection to a saved network sends. -/
theorem connectSaved_sent (env : Env) (id : Int) (text : List UInt8) (w : World) :
    (connectSaved env id text w).2.sent =
      w.sent ++ .disableAll :: issued (machine env) (savedScript env w id) := by
  rw [connectSaved_eq, exits_sent existFail_sent (savedScript_isLine env w id), announce_eq]
  exact List.append_assoc ..

/-! ## The end of an attempt -/

/-- What the end of an attempt changes. -/
theorem concludeAttempt_eq (env : Env) (ending : Ending) (id : Int) (w : World) :
    concludeAttempt env ending id w = { w with
      table := (concludeAttempt env ending id w).table
      sent := (concludeAttempt env ending id w).sent
      reports := (concludeAttempt env ending id w).reports } := by
  unfold concludeAttempt
  split_ifs
  · rw [wifiStateSend_eq]
    rfl
  · rfl
  · rw [wifiStateSend_eq]
    rfl

/-- The flags after the end of an attempt. -/
theorem stateCheck_eq (env : Env) (ending : Ending) (id : Int) (w : World) :
    wifiConnectStateCheck env ending id w = { w with
      wifiWrongKey := ending.wrongKey
      wifiIsExist := false
      wifiConnectLock := false
      isWep := false
      wifiCancel := false
      table := (wifiConnectStateCheck env ending id w).table
      sent := (wifiConnectStateCheck env ending id w).sent
      reports := (wifiConnectStateCheck env ending id w).reports } := by
  unfold wifiConnectStateCheck
  rw [concludeAttempt_eq]
  simp only
  split_ifs <;> rfl

end ConnectApp.Wifi
