import ConnectApp.Wifi.ConnectBssid

/-!
# What a failed attempt does to the saved networks (Rk_wifi.c:1965-2049, 2121-2173)

When an attempt ends without a connection, `wifi_connectfail_process` removes its network, or
only disables it if `wifi_is_exist` says that it was saved before. The flag is set by
`RK_wifi_connect_with_ssid` and `RK_wifi_connect_with_bssid`, but not by `RK_wifi_connect`
when it finds the network among the saved ones.

`SavedKept` is what a failed attempt should leave: all networks that were there, and a
`remove_network` only for a network the attempt added. `failed_attempt_iff` says for which
calls it does, whatever the supplicant answers.
-/

namespace ConnectApp.Wifi

open CString Script Transition

/-! ## The networks stay through a call -/

theorem exec_mem_ids (env : Env) (c : Cmd) {w : World} {k : Int} (hc : c.removes k = false)
    (h : k ∈ w.table.map Net.id) : k ∈ ((machine env).exec c w).table.map Net.id :=
  mem_ids_apply hc _ h

/-- No line of the connect functions removes a network. -/
theorem effect_mem_ids {env : Env} {v w : World} {id k : Int} {st : Line}
    (hst : ConnectLine v id st) (h : k ∈ w.table.map Net.id) :
    k ∈ (st.effect (machine env) w).table.map Net.id := by
  cases hst with
  | bssid => exact exec_mem_ids env _ rfl h
  | ssid => exact exec_mem_ids env _ rfl h
  | security hsec =>
    cases hsec with
    | param => exact exec_mem_ids env _ rfl h
    | wep => exact h
  | priority => exact exec_mem_ids env _ rfl h
  | hide => exact exec_mem_ids env _ rfl h
  | unflag => exact h
  | clear => exact exec_mem_ids env _ rfl h
  | select => exact exec_mem_ids env _ rfl h
  | enable => exact exec_mem_ids env _ rfl h

theorem run_mem_ids {env : Env} {v w : World} {id k : Int} {l : List Line}
    (hl : ∀ st ∈ l, ConnectLine v id st) (h : k ∈ w.table.map Net.id) :
    k ∈ (run (machine env) l w).2.table.map Net.id :=
  run_induction (machine env) (P := fun w => k ∈ w.table.map Net.id)
    (fun st hst _ hw => effect_mem_ids (hl st hst) hw) h

theorem started_mem_ids {env : Env} {w : World} {k : Int} (ssid : List UInt8) (encryp : KeyMgmt)
    (h : k ∈ w.table.map Net.id) : k ∈ (started env ssid encryp w).table.map Net.id := by
  have hdisable := mem_ids_apply (c := .disableAll) rfl (env.reply .disableAll) h
  rw [started_table]
  split_ifs
  · exact mem_ids_apply (c := .addNetwork) rfl _ hdisable
  · exact hdisable

/-! ## A call that starts the state check -/

/-- What a call that returns 0 leaves: the script has run to its end. -/
theorem exits_zero {fail : World → Int × World} (hfail : ∀ w, (fail w).1 = -1)
    {r : Option Int × World} (h : (exits fail r).1 = 0) : r.1 = none ∧ (exits fail r).2 = r.2 := by
  obtain ⟨r, t⟩ := r
  cases r with
  | none => exact ⟨rfl, rfl⟩
  | some err =>
    have hneg := hfail t
    rw [show (exits fail (some err, t)).1 = (fail t).1 from rfl, hneg] at h
    cases h

/-- `RK_wifi_connect1` has started the state check: for the saved network or the new one,
with `wifi_is_exist` as it was. -/
theorem connect1_zero {env : Env} {ssid psk : List UInt8} {encryp : KeyMgmt} {w : World}
    (h : (rkWifiConnect1 env ssid psk encryp w).1 = 0) :
    0 ≤ networkId env ssid encryp ∧
      (rkWifiConnect1 env ssid psk encryp w).2.connectingId = networkId env ssid encryp ∧
      (rkWifiConnect1 env ssid psk encryp w).2.wifiIsExist = w.wifiIsExist ∧
      ∀ k ∈ w.table.map Net.id,
        k ∈ (rkWifiConnect1 env ssid psk encryp w).2.table.map Net.id := by
  rw [connect1_eq] at h ⊢
  by_cases hid : networkId env ssid encryp < 0
  · rw [if_pos hid] at h
    cases h
  · rw [if_neg hid] at h ⊢
    obtain ⟨-, hrun⟩ := exits_zero (fun _ => rfl) h
    have hrest := run_rest env
      (connectScript_isLine env (started env ssid encryp w) (networkId env ssid encryp) ssid psk
        encryp)
      { started env ssid encryp w with connectingId := networkId env ssid encryp }
    rw [hrun]
    refine ⟨Int.not_lt.mp hid, congrArg World.connectingId hrest, ?_, fun k hk => ?_⟩
    · have hexist := congrArg World.wifiIsExist hrest
      refine hexist.trans ?_
      rw [started_eq]
      rfl
    · exact run_mem_ids (connectScript_lines _ _ _ _ _ _) (started_mem_ids ssid encryp hk)

/-- The other two functions have started the state check of a saved network. -/
theorem connectSaved_zero {env : Env} {id : Int} {text : List UInt8} {w : World}
    (h : (connectSaved env id text w).1 = 0) :
    (connectSaved env id text w).2.wifiIsExist = w.wifiIsExist ∧
      ∀ k ∈ w.table.map Net.id, k ∈ (connectSaved env id text w).2.table.map Net.id := by
  rw [connectSaved_eq] at h ⊢
  obtain ⟨-, hrun⟩ := exits_zero (fun _ => rfl) h
  have hrest := run_rest env (savedScript_isLine env w id)
    (announce env none (some text) { w with connectingId := id })
  rw [hrun]
  refine ⟨?_, fun k hk => run_mem_ids (savedScript_lines env w id) ?_⟩
  · have hexist := congrArg World.wifiIsExist hrest
    refine hexist.trans ?_
    rw [announce_eq]
    rfl
  · rw [announce_eq]
    exact mem_ids_apply (c := .disableAll) rfl _ hk

/-! ## The end without a connection -/

/-- The command of `wifi_connectfail_process`. -/
def failCommand (w : World) (id : Int) : Cmd :=
  if w.wifiIsExist then .disableNetwork id else .removeNetwork id

theorem failed_sent (env : Env) (wrongKey : Bool) (id : Int) (w : World) :
    (wifiConnectStateCheck env ⟨false, wrongKey⟩ id w).sent =
      w.sent ++ [failCommand w id, .saveConfig, .enableAll, .reconnect] := by
  have hproc : ∀ w : World, (wifiConnectfailProcess env id w).sent =
      w.sent ++ [failCommand w id, .saveConfig] := fun w => List.append_assoc ..
  have hconclude : ∀ w : World, (concludeAttempt env ⟨false, wrongKey⟩ id w).sent =
      w.sent ++ [failCommand w id, .saveConfig] := by
    intro w
    cases wrongKey with
    | false =>
      show (wifiStateSend .connectFailed _).sent = _
      rw [wifiStateSend_eq]
      exact hproc w
    | true => exact hproc w
  show (concludeAttempt env ⟨false, wrongKey⟩ id _).sent ++ [.enableAll] ++ [.reconnect] = _
  rw [hconclude]
  simp [failCommand]

theorem failed_mem_ids {env : Env} {wrongKey : Bool} {id k : Int} {w : World}
    (hk : (failCommand w id).removes k = false) (h : k ∈ w.table.map Net.id) :
    k ∈ (wifiConnectStateCheck env ⟨false, wrongKey⟩ id w).table.map Net.id := by
  have hconclude : k ∈ (concludeAttempt env ⟨false, wrongKey⟩ id
      { w with wifiWrongKey := wrongKey }).table.map Net.id := by
    have hproc : k ∈ (wifiConnectfailProcess env id
        { w with wifiWrongKey := wrongKey }).table.map Net.id :=
      exec_mem_ids env .saveConfig rfl (exec_mem_ids env (failCommand w id) hk h)
    cases wrongKey with
    | false =>
      show k ∈ (wifiStateSend .connectFailed _).table.map Net.id
      rw [wifiStateSend_eq]
      exact hproc
    | true => exact hproc
  exact exec_mem_ids env .reconnect rfl (exec_mem_ids env .enableAll rfl hconclude)

/-! ## Failed attempts -/

/-- `add_network` answers with an id that is not in the table. -/
def FreshAdd (env : Env) (w : World) : Prop :=
  env.reply .addNetwork = [] ∨ addedId (env.reply .addNetwork) ∉ w.table.map Net.id

/-- What a call started in `w` leaves once its state check has ended without a connection:
the networks of before, and a removal only of a network that the call has added. -/
structure SavedKept (env endEnv : Env) (call : Call) (wrongKey : Bool) (w : World) : Prop where
  kept : ∀ k ∈ w.table.map Net.id, k ∈ (wifiConnectStateCheck endEnv ⟨false, wrongKey⟩
    (call.run env w).2.connectingId (call.run env w).2).table.map Net.id
  removes : ∀ k, .removeNetwork k ∈ (wifiConnectStateCheck endEnv ⟨false, wrongKey⟩
    (call.run env w).2.connectingId { (call.run env w).2 with sent := [] }).sent →
      .addNetwork ∈ call.commands env w ∧ k = addedId (env.reply .addNetwork)
  disables : .addNetwork ∉ call.commands env w →
    .disableNetwork (call.run env w).2.connectingId ∈
      (wifiConnectStateCheck endEnv ⟨false, wrongKey⟩ (call.run env w).2.connectingId
        { (call.run env w).2 with sent := [] }).sent

/-- The call is `RK_wifi_connect`, it takes the lock and finds its network saved. -/
def Call.Reuses (call : Call) (saved : List SavedInfo) (w : World) : Prop :=
  match call with
  | .connect (some ssid) psk keyMgmt _ =>
    w.wifiConnectLock = false ∧ argsOk (some ssid) psk keyMgmt = true ∧
      0 ≤ rkWifiSearchWithSsid saved ssid keyMgmt
  | _ => False

theorem removes_failCommand {w : World} {id k : Int}
    (h : .removeNetwork k ∈ [failCommand w id, .saveConfig, .enableAll, .reconnect]) :
    w.wifiIsExist = false ∧ k = id := by
  rcases List.mem_cons.mp h with h | h
  · unfold failCommand at h
    split_ifs at h with hexist
    exact ⟨Bool.eq_false_iff.mpr hexist, (Cmd.removeNetwork.inj h)⟩
  · simp at h

/-- With `wifi_is_exist` set, the network is only disabled. -/
theorem savedKept_of_exist {env endEnv : Env} {call : Call} {wrongKey : Bool} {w : World}
    (hexist : (call.run env w).2.wifiIsExist = true)
    (hkept : ∀ k ∈ w.table.map Net.id, k ∈ (call.run env w).2.table.map Net.id) :
    SavedKept env endEnv call wrongKey w := by
  refine ⟨fun k hk => failed_mem_ids ?_ (hkept k hk), fun k h => ?_, fun _ => ?_⟩
  · unfold failCommand
    rw [hexist]
    rfl
  · rw [failed_sent, List.nil_append] at h
    have hfalse := (removes_failCommand h).1
    rw [show ({ (call.run env w).2 with sent := [] } : World).wifiIsExist =
      (call.run env w).2.wifiIsExist from rfl, hexist] at hfalse
    cases hfalse
  · rw [failed_sent, List.nil_append]
    unfold failCommand
    rw [show ({ (call.run env w).2 with sent := [] } : World).wifiIsExist =
      (call.run env w).2.wifiIsExist from rfl, hexist]
    exact List.mem_cons_self ..

/-- `RK_wifi_connect` with good arguments and a free lock. -/
theorem connect_run {ssid : List UInt8} {psk : Option (List UInt8)} {keyMgmt : KeyMgmt} {w : World}
    (hargs : argsOk (some ssid) psk keyMgmt = true) (hlock : w.wifiConnectLock = false) (env : Env)
    (bssid : Option (List UInt8)) :
    (Call.connect (some ssid) psk keyMgmt bssid).run env w =
      rkWifiConnect1 env ssid (psk.getD []) keyMgmt
        (prepare keyMgmt bssid { w with wifiConnectLock := true }) := by
  have henter : (Call.connect (some ssid) psk keyMgmt bssid).enter w =
      .holds { w with wifiConnectLock := true } := by
    show (if _ then _ else if w.wifiConnectLock then _ else _) = _
    rw [if_neg (by rw [hargs]; decide), hlock]
    rfl
  unfold Call.run
  rw [henter]
  rfl

/-- The commands of such a call start with those that find the network. -/
theorem connect_commands {ssid : List UInt8} {psk : Option (List UInt8)} {keyMgmt : KeyMgmt}
    {w : World} (hargs : argsOk (some ssid) psk keyMgmt = true) (hlock : w.wifiConnectLock = false)
    (env : Env) (bssid : Option (List UInt8)) :
    .addNetwork ∈ (Call.connect (some ssid) psk keyMgmt bssid).commands env w ↔
      rkWifiSearchWithSsid env.saved ssid keyMgmt < 0 := by
  have hsent : (prepare keyMgmt bssid { w with sent := [], wifiConnectLock := true }).sent = [] := by
    rw [prepare_eq]
  unfold Call.commands
  rw [connect_run hargs (by exact hlock), connect1_sent, hsent, List.nil_append, startCommands]
  constructor
  · intro h
    by_contra hneg
    rw [if_neg hneg] at h
    rcases List.mem_append.mp h with h | h
    · cases List.mem_singleton.mp h
    · split_ifs at h
      · cases h
      · rcases issued_line (machine env) h with hst | ⟨err, hst⟩
        · cases connectScript_lines _ _ _ _ _ _ _ hst with
          | security hsec => cases hsec
        · cases connectScript_lines _ _ _ _ _ _ _ hst with
          | security hsec => cases hsec
  · intro h
    rw [if_pos h]
    exact List.mem_append_left _ (by simp)

/-- `RK_wifi_connect` for a network that is not saved removes only the network it added. -/
theorem savedKept_of_added {env endEnv : Env} {ssid : List UInt8} {psk : Option (List UInt8)}
    {keyMgmt : KeyMgmt} {bssid : Option (List UInt8)} {wrongKey : Bool} {w : World}
    (hargs : argsOk (some ssid) psk keyMgmt = true) (hlock : w.wifiConnectLock = false)
    (hexist : w.wifiIsExist = false) (hsearch : rkWifiSearchWithSsid env.saved ssid keyMgmt < 0)
    (hfresh : FreshAdd env w)
    (h : ((Call.connect (some ssid) psk keyMgmt bssid).run env w).1 = 0) :
    SavedKept env endEnv (.connect (some ssid) psk keyMgmt bssid) wrongKey w := by
  have hadd := (connect_commands hargs hlock env bssid).mpr hsearch
  have hrun := connect_run hargs hlock env bssid
  rw [hrun] at h
  obtain ⟨hid, hconn, hex, hkept⟩ := connect1_zero h
  rw [← hrun] at hconn hex hkept
  have hprep : ∀ v : World, (prepare keyMgmt bssid v).wifiIsExist = v.wifiIsExist ∧
      (prepare keyMgmt bssid v).table = v.table := by
    intro v
    rw [prepare_eq]
    exact ⟨rfl, rfl⟩
  rw [(hprep _).1] at hex
  rw [(hprep _).2] at hkept
  have hreply : env.reply .addNetwork ≠ [] := by
    intro hnil
    rw [networkId, if_pos hsearch, if_pos hnil] at hid
    omega
  have hnet : networkId env ssid keyMgmt = addedId (env.reply .addNetwork) := by
    rw [networkId, if_pos hsearch, if_neg hreply]
  have hcmd : failCommand ((Call.connect (some ssid) psk keyMgmt bssid).run env w).2
      ((Call.connect (some ssid) psk keyMgmt bssid).run env w).2.connectingId =
      .removeNetwork (addedId (env.reply .addNetwork)) := by
    unfold failCommand
    rw [hex, show ({ w with wifiConnectLock := true } : World).wifiIsExist = w.wifiIsExist from rfl,
      hexist, hconn, hnet]
    rfl
  refine ⟨fun k hk => failed_mem_ids ?_ (hkept k hk), fun k hrem => ⟨hadd, ?_⟩,
    fun hno => absurd hadd hno⟩
  · rw [hcmd]
    have hne : k ≠ addedId (env.reply .addNetwork) := by
      rintro rfl
      exact hfresh.resolve_left hreply hk
    simpa [Cmd.removes] using hne.symm
  · rw [failed_sent, List.nil_append] at hrem
    rw [(removes_failCommand hrem).2, hconn, hnet]

/-- A result 0 comes with `wifi_is_exist` set and all networks still there. -/
def StartsSaved (v : World) (r : Int × World) : Prop :=
  r.1 = 0 → r.2.wifiIsExist = true ∧ ∀ k ∈ v.table.map Net.id, k ∈ r.2.table.map Net.id

theorem startsSaved_fail (v w : World) : StartsSaved v (existFail w) := by
  intro h
  cases h

theorem startsSaved_ssid (env : Env) (ssid : Option (List UInt8)) (keyMgmt : KeyMgmt)
    (v : World) : StartsSaved v (connectWithSsidBody env ssid keyMgmt v) := by
  unfold connectWithSsidBody
  cases ssid with
  | none => exact startsSaved_fail _ _
  | some ssid =>
    simp only
    split_ifs
    · exact startsSaved_fail _ _
    · intro h
      exact connectSaved_zero h

theorem startsSaved_bssid (env : Env) (bssid : Option (List UInt8)) (v : World) :
    StartsSaved v (connectWithBssidBody env bssid v) := by
  unfold connectWithBssidBody
  cases bssid with
  | none => exact startsSaved_fail _ _
  | some bssid =>
    simp only
    split_ifs
    · exact startsSaved_fail _ _
    · exact startsSaved_fail _ _
    · intro h
      exact connectSaved_zero h

/-- The other two functions start a state check with `wifi_is_exist` set. -/
theorem savedCall_zero {env : Env} {call : Call} {w : World}
    (hcall : ∀ ssid psk keyMgmt bssid, call ≠ .connect ssid psk keyMgmt bssid) :
    StartsSaved w (call.run env w) := by
  unfold Call.run
  rcases enter_cases call w with ⟨henter, -⟩ | henter | ⟨bssid, -, -, henter⟩
  · rw [henter]
    cases call with
    | connect ssid psk keyMgmt bssid => exact absurd rfl (hcall ssid psk keyMgmt bssid)
    | connectWithSsid ssid keyMgmt => exact startsSaved_ssid env ssid keyMgmt _
    | connectWithBssid bssid => exact startsSaved_bssid env bssid _
  · rw [henter]
    intro h
    cases h
  · rw [henter]
    intro h
    cases h

/-! ## `wifi_is_exist` between attempts -/

theorem exits_ne_zero {fail : World → Int × World} {r : Option Int × World}
    (h : (exits fail r).1 ≠ 0) : exits fail r = fail r.2 := by
  obtain ⟨r, t⟩ := r
  cases r with
  | none => exact absurd rfl h
  | some err => rfl

theorem connectFail_isExist (w : World) : (connectFail w).2.wifiIsExist = w.wifiIsExist := by
  unfold connectFail
  rw [wifiStateSend_eq]

theorem connect1_isExist {env : Env} {ssid psk : List UInt8} {encryp : KeyMgmt} {w : World}
    (h : (rkWifiConnect1 env ssid psk encryp w).1 ≠ 0) :
    (rkWifiConnect1 env ssid psk encryp w).2.wifiIsExist = w.wifiIsExist := by
  have hstart : (started env ssid encryp w).wifiIsExist = w.wifiIsExist := by
    rw [started_eq]
  rw [connect1_eq] at h ⊢
  split_ifs at h ⊢
  · rw [connectFail_isExist, hstart]
  · have hrest := congrArg World.wifiIsExist (run_rest env
      (connectScript_isLine env (started env ssid encryp w) (networkId env ssid encryp) ssid psk
        encryp)
      { started env ssid encryp w with connectingId := networkId env ssid encryp })
    rw [exits_ne_zero h, connectFail_isExist]
    exact hrest.trans hstart

theorem savedBody_isExist {env : Env} {id : Int} {text : List UInt8} {w : World}
    (h : (connectSaved env id text w).1 ≠ 0) :
    (connectSaved env id text w).2.wifiIsExist = false := by
  rw [connectSaved_eq] at h ⊢
  rw [exits_ne_zero h]
  rfl

/-- A call that returns an error leaves `wifi_is_exist` clear. -/
theorem call_isExist {env : Env} {call : Call} {w : World} (hw : w.wifiIsExist = false)
    (h : (call.run env w).1 ≠ 0) : (call.run env w).2.wifiIsExist = false := by
  unfold Call.run at h ⊢
  rcases enter_cases call w with ⟨henter, -⟩ | henter | ⟨bssid, -, -, henter⟩
  · rw [henter] at h ⊢
    cases call with
    | connect ssid psk keyMgmt bssid =>
      refine (connect1_isExist h).trans ?_
      rw [prepare_eq]
      exact hw
    | connectWithSsid ssid keyMgmt =>
      change (connectWithSsidBody env ssid keyMgmt _).1 ≠ 0 at h
      show (connectWithSsidBody env ssid keyMgmt _).2.wifiIsExist = false
      unfold connectWithSsidBody at h ⊢
      cases ssid with
      | none => rfl
      | some ssid =>
        simp only at h ⊢
        split_ifs at h ⊢
        · rfl
        · exact savedBody_isExist h
    | connectWithBssid bssid =>
      change (connectWithBssidBody env bssid _).1 ≠ 0 at h
      show (connectWithBssidBody env bssid _).2.wifiIsExist = false
      unfold connectWithBssidBody at h ⊢
      cases bssid with
      | none => rfl
      | some bssid =>
        simp only at h ⊢
        split_ifs at h ⊢
        · rfl
        · rfl
        · exact savedBody_isExist h
  · rw [henter]
    exact hw
  · rw [henter]
    rfl

/-- Sequences of calls of the three functions, each attempt finished before the next call. -/
def attemptSystem : System World Attempt where
  init w := w.wifiIsExist = false
  step w a t := a.run w = t

theorem isExist_reach {w : World} (h : Reach attemptSystem (fun _ _ => True) w) :
    w.wifiIsExist = false := by
  refine h.invariant (fun w hw => hw) fun w a t hw _ hstep => ?_
  obtain rfl : a.run w = t := hstep
  show (a.run w).wifiIsExist = false
  unfold Attempt.run
  split_ifs with hret
  · rw [stateCheck_eq]
  · exact call_isExist hw hret

/-! ## Which attempts keep the saved networks -/

/-- A supplicant that accepts every setting. -/
def Env.accepting (saved : List SavedInfo) : Env where
  reply
    | .addNetwork => []
    | _ => chars "OK\n"
  saved := saved
  rows := []

theorem accepting_ok (saved : List SavedInfo) {c : Cmd} (h : c ≠ .addNetwork) :
    (machine (Env.accepting saved)).ok c = true := by
  have hok : answersOk (chars "OK\n") = true := by decide
  cases c with
  | addNetwork => exact absurd rfl h
  | _ => exact hok

theorem passes_of_ok {m : Machine World Cmd} {v : World} {id : Int} {l : List Line}
    (hl : ∀ st ∈ l, ConnectLine v id st) (hok : ∀ c, c ≠ .addNetwork → m.ok c = true) :
    passes m l = true := by
  induction l with
  | nil => rfl
  | cons st l ih =>
    have htail := ih fun st hst => hl st (List.mem_cons_of_mem _ hst)
    have hst := hl st (List.mem_cons_self ..)
    cases st with
    | assign f => exact htail
    | send c => exact htail
    | check c err =>
      have hne : c ≠ .addNetwork := by
        rintro rfl
        cases hst with
        | security hsec => cases hsec
      show (m.ok c && passes m l) = true
      rw [hok c hne, htail]
      rfl

/-- With such a supplicant, `RK_wifi_connect` for a saved network starts its state check. -/
theorem connect1_accepting {saved : List SavedInfo} {ssid : List UInt8} {encryp : KeyMgmt}
    (h : 0 ≤ rkWifiSearchWithSsid saved ssid encryp) (psk : List UInt8) (w : World) :
    (rkWifiConnect1 (.accepting saved) ssid psk encryp w).1 = 0 := by
  have hid : networkId (.accepting saved) ssid encryp = rkWifiSearchWithSsid saved ssid encryp :=
    if_neg (Int.not_lt.mpr h)
  rw [connect1_eq, hid, if_neg (Int.not_lt.mpr h)]
  have hpass := passes_of_ok
    (connectScript_lines (.accepting saved) (started (.accepting saved) ssid encryp w)
      (rkWifiSearchWithSsid saved ssid encryp) ssid psk encryp)
    fun c hc => accepting_ok saved hc
  rw [run_of_passes _ hpass]
  rfl

/-- **Failed attempts.** Between attempts, the calls after which a failed attempt leaves every
saved network in place, whatever the supplicant answers, are those that do not reuse a saved
network in `RK_wifi_connect`. -/
theorem failed_attempt_iff {w : World} (h : Reach attemptSystem (fun _ _ => True) w)
    (call : Call) (saved : List SavedInfo) :
    (∀ env endEnv wrongKey, env.saved = saved → FreshAdd env w → (call.run env w).1 = 0 →
      SavedKept env endEnv call wrongKey w) ↔ ¬ call.Reuses saved w := by
  have hexist := isExist_reach h
  constructor
  · intro hkept hreuse
    match call, hreuse with
    | .connect (some ssid) psk keyMgmt bssid, ⟨hlock, hargs, hfound⟩ =>
      have hrun := connect_run hargs hlock (.accepting saved) bssid
      have hzero := connect1_accepting hfound (psk.getD [])
        (prepare keyMgmt bssid { w with wifiConnectLock := true })
      have hflag := (connect1_zero hzero).2.2.1
      rw [← hrun] at hzero hflag
      rw [prepare_eq] at hflag
      have hsaved := hkept (.accepting saved) (.accepting saved) false rfl (.inl rfl) hzero
      -- the network is removed although it was not added
      have hadd := (hsaved.removes
        ((Call.connect (some ssid) psk keyMgmt bssid).run (.accepting saved) w).2.connectingId ?_).1
      · exact absurd ((connect_commands hargs hlock _ bssid).mp hadd) (Int.not_lt.mpr hfound)
      · rw [failed_sent, List.nil_append]
        unfold failCommand
        rw [show ({ ((Call.connect (some ssid) psk keyMgmt bssid).run (.accepting saved) w).2 with
            sent := [] } : World).wifiIsExist = false from hflag.trans hexist]
        exact List.mem_cons_self ..
  · intro hreuse env endEnv wrongKey hsaved hfresh hzero
    subst hsaved
    cases call with
    | connect ssid psk keyMgmt bssid =>
      rcases enter_cases (.connect ssid psk keyMgmt bssid) w with ⟨henter, hlock⟩ | henter | hb
      · cases ssid with
        | none => cases henter
        | some ssid =>
          have hargs : argsOk (some ssid) psk keyMgmt = true := by
            by_contra hno
            rw [Call.enter, if_pos (Bool.eq_false_iff.mpr hno)] at henter
            cases henter
          refine savedKept_of_added hargs hlock hexist ?_ hfresh hzero
          by_contra hfound
          exact hreuse ⟨hlock, hargs, Int.not_lt.mp hfound⟩
      · unfold Call.run at hzero
        rw [henter] at hzero
        cases hzero
      · obtain ⟨b, hb, -⟩ := hb
        cases hb
    | connectWithSsid ssid keyMgmt =>
      obtain ⟨hex, hkept⟩ := savedCall_zero (by intros; simp) hzero
      exact savedKept_of_exist hex hkept
    | connectWithBssid bssid =>
      obtain ⟨hex, hkept⟩ := savedCall_zero (by intros; simp) hzero
      exact savedKept_of_exist hex hkept

/-- The open network `cafe` is saved under the id 0. -/
def cafeSaved : List SavedInfo := [⟨0, chars "any", chars "cafe", [], chars "NONE"⟩]

/-- Its entry in the supplicant's table. -/
def cafeWorld : World := { World.boot with table := [⟨0, true, []⟩] }

/-- `RK_wifi_connect_with_ssid` for the saved network `cafe`: a failed attempt disables it. -/
theorem failed_attempt_savedCafe :
    ((Call.connectWithSsid (some (chars "cafe")) .none).run (.accepting cafeSaved)
      cafeWorld).1 = 0 ∧
    SavedKept (.accepting cafeSaved) (.accepting []) (.connectWithSsid (some (chars "cafe")) .none)
      false cafeWorld := by
  have hzero : ((Call.connectWithSsid (some (chars "cafe")) .none).run (.accepting cafeSaved)
      cafeWorld).1 = 0 := by decide
  have hkept := (failed_attempt_iff (.start (show cafeWorld.wifiIsExist = false from rfl))
    (.connectWithSsid (some (chars "cafe")) .none) cafeSaved).mpr fun h => h
  exact ⟨hzero, hkept _ _ false rfl (.inl rfl) hzero⟩

/-- A failed `RK_wifi_connect` to the saved network `cafe` removes it. -/
theorem saved_cafe_removed : ¬ ∀ w, Reach attemptSystem (fun _ _ => True) w →
    ∀ (call : Call) (env endEnv : Env) (wrongKey : Bool), FreshAdd env w →
      (call.run env w).1 = 0 → SavedKept env endEnv call wrongKey w := by
  intro h
  have hkept := h cafeWorld (.start rfl) openCall
    (.accepting cafeSaved) (.accepting []) false (.inl rfl) (by decide)
  exact absurd (hkept.kept 0 (by decide)) (by decide)

end ConnectApp.Wifi
