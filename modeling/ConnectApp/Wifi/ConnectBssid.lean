import ConnectApp.Lib.Transition
import ConnectApp.Wifi.ConnectLock

/-!
# The BSSID of a connection (Rk_wifi.c:1535-1556, 1658-1679, 2069-2119)

`RK_wifi_connect` leaves the BSSID it was given in `gbssid` and `gbssid_flag`; `set_network`
reads them and `select_network` clears the flag. `BssidOk` says of the commands of one call
that the BSSID they constrain the network to is the one of that call.

A call with a BSSID that fails before `select_network` leaves the flag set for the next one
(`stale_bssid`). `bssid_follows_call` is about the runs without such a call: every call sends
the commands for its own BSSID.
-/

namespace ConnectApp.Wifi

open CString Script Transition

/-! ## The commands that name a BSSID -/

/-- The lines of `RK_wifi_connect1` in the state `w`. -/
inductive ConnectLine (w : World) (id : Int) : Line → Prop
  | bssid : w.gbssidFlag = true → ConnectLine w id (.check (.setNetwork id .bssid w.gbssid) (-1))
  | ssid (value : List UInt8) : ConnectLine w id (.check (.setNetwork id .ssid value) (-1))
  | security {st : Line} : IsSecurity id st → ConnectLine w id st
  | priority (row : Int) (value : List UInt8) :
      ConnectLine w id (.send (.setNetwork row .priority value))
  | hide : ConnectLine w id (.check (.setNetwork id .scanSsid (chars "1")) (-1))
  | unflag : ConnectLine w id (.assign fun w => { w with gbssidFlag := false })
  | clear : w.gbssidFlag = false → ConnectLine w id (.send (.clearBssid id))
  | select : ConnectLine w id (.check (.selectNetwork id) (-1))
  | enable : ConnectLine w id (.check (.enableNetwork id) (-1))

theorem setNetworkScript_lines (w : World) (id : Int) (ssid psk : List UInt8)
    (encryp : KeyMgmt) : ∀ st ∈ setNetworkScript w id ssid psk encryp, ConnectLine w id st := by
  intro st hst
  rcases List.mem_append.mp hst with hst | hst
  · split_ifs at hst with hflag
    · rw [List.mem_singleton.mp hst]
      exact .bssid hflag
    · cases hst
  · rcases List.mem_cons.mp hst with rfl | hst
    · exact .ssid _
    · exact .security (securityScript_lines id psk encryp st hst)

theorem selectScript_lines (w : World) (id : Int) :
    ∀ st ∈ selectScript w id, ConnectLine w id st := by
  intro st hst
  rcases List.mem_append.mp hst with hst | hst
  · split_ifs at hst with hflag
    · rw [List.mem_singleton.mp hst]
      exact .unflag
    · rw [List.mem_singleton.mp hst]
      exact .clear (Bool.eq_false_iff.mpr hflag)
  · rw [List.mem_singleton.mp hst]
    exact .select

theorem priorityScript_lines (env : Env) (w : World) (id : Int) :
    ∀ st ∈ priorityScript env id, ConnectLine w id st := by
  intro st hst
  obtain ⟨row, -, rfl⟩ := List.mem_map.mp hst
  exact .priority _ _

theorem connectScript_lines (env : Env) (w : World) (id : Int) (ssid psk : List UInt8)
    (encryp : KeyMgmt) : ∀ st ∈ connectScript env w id ssid psk encryp, ConnectLine w id st := by
  intro st hst
  rcases List.mem_append.mp hst with hst | hst
  · rcases List.mem_append.mp hst with hst | hst
    · unfold configureScript at hst
      split_ifs at hst <;> exact setNetworkScript_lines _ _ _ _ _ st hst
    rcases List.mem_append.mp hst with hst | hst
    · exact priorityScript_lines env w id st hst
    · rw [List.mem_singleton.mp hst]
      exact .hide
  rcases List.mem_append.mp hst with hst | hst
  · exact selectScript_lines w id st hst
  · rw [List.mem_singleton.mp hst]
    exact .enable

theorem savedScript_lines (env : Env) (w : World) (id : Int) :
    ∀ st ∈ savedScript env w id, ConnectLine w id st := by
  intro st hst
  rcases List.mem_append.mp hst with hst | hst
  · exact selectScript_lines w id st hst
  rcases List.mem_append.mp hst with hst | hst
  · exact priorityScript_lines env w id st hst
  · rw [List.mem_singleton.mp hst]
    exact .enable

section

variable {env : Env} {w : World} {id : Int} {l : List Line}
  (hl : ∀ st ∈ l, ConnectLine w id st)

include hl

theorem bssid_of_issued {k : Int} {value : List UInt8}
    (h : .setNetwork k .bssid value ∈ issued (machine env) l) :
    w.gbssidFlag = true ∧ value = w.gbssid := by
  rcases issued_line (machine env) h with hst | ⟨err, hst⟩
  · cases hl _ hst with
    | security hsec => cases hsec
  · cases hl _ hst with
    | bssid hflag => exact ⟨hflag, rfl⟩
    | security hsec =>
      cases hsec with
      | param _ _ hbssid _ => exact absurd rfl hbssid

theorem clear_of_issued {k : Int} (h : .clearBssid k ∈ issued (machine env) l) :
    w.gbssidFlag = false := by
  rcases issued_line (machine env) h with hst | ⟨err, hst⟩
  · cases hl _ hst with
    | security hsec => cases hsec
    | clear hflag => exact hflag
  · cases hl _ hst with
    | security hsec => cases hsec

theorem id_of_issued {k : Int} {c : Cmd} (hc : (∃ value, c = .setNetwork k .ssid value) ∨
    c = .selectNetwork k) (h : c ∈ issued (machine env) l) : k = id := by
  rcases issued_line (machine env) h with hst | ⟨err, hst⟩
  · have hline := hl _ hst
    rcases hc with ⟨value, rfl⟩ | rfl
    · cases hline with
      | security hsec => cases hsec
    · cases hline with
      | security hsec => cases hsec
  · have hline := hl _ hst
    rcases hc with ⟨value, rfl⟩ | rfl
    · cases hline with
      | ssid => rfl
      | security hsec => cases hsec; rfl
    · cases hline with
      | security hsec => cases hsec
      | select => rfl

end

/-- With the flag set, `set_network` starts with the BSSID. -/
theorem connectScript_bssid (env : Env) {w : World} (hflag : w.gbssidFlag = true) (id : Int)
    (ssid psk : List UInt8) (encryp : KeyMgmt) : .setNetwork id .bssid w.gbssid ∈
      issued (machine env) (connectScript env w id ssid psk encryp) := by
  have hset : ∀ (s p : List UInt8) (e : KeyMgmt), ∃ l, setNetworkScript w id s p e =
      .check (.setNetwork id .bssid w.gbssid) (-1) :: l := by
    intro s p e
    unfold setNetworkScript
    rw [if_pos hflag]
    exact ⟨_, rfl⟩
  obtain ⟨l, hl⟩ : ∃ l, configureScript w id ssid psk encryp =
      .check (.setNetwork id .bssid w.gbssid) (-1) :: l := by
    unfold configureScript
    split_ifs
    · exact hset _ _ _
    · exact hset _ _ _
  unfold connectScript settingsScript
  rw [hl]
  exact List.mem_cons_self ..

theorem selectScript_clear {w : World} (hflag : w.gbssidFlag = false) (id : Int) :
    selectScript w id = [.send (.clearBssid id), .check (.selectNetwork id) (-1)] := by
  unfold selectScript
  rw [hflag]
  rfl

/-- With the flag clear, `select_network` clears the BSSID before it selects. -/
theorem connectScript_clear (env : Env) {w : World} (hflag : w.gbssidFlag = false) {id k : Int}
    {ssid psk : List UInt8} {encryp : KeyMgmt}
    (h : .selectNetwork k ∈ issued (machine env) (connectScript env w id ssid psk encryp)) :
    .clearBssid id ∈ issued (machine env) (connectScript env w id ssid psk encryp) := by
  unfold connectScript at h ⊢
  rw [issued_append, selectScript_clear hflag] at h ⊢
  -- no line in front of `select_network` selects, so all of them have passed
  have hnone : Cmd.selectNetwork k ∉
      issued (machine env) (settingsScript env w id ssid psk encryp) := by
    intro hmem
    rcases issued_line (machine env) hmem with hst | ⟨err, hst⟩
    · cases settingsScript_setting env w id ssid psk encryp _ hst
    · cases settingsScript_setting env w id ssid psk encryp _ hst
  rcases List.mem_append.mp h with h | h
  · exact absurd h hnone
  · refine List.mem_append_right _ ?_
    split_ifs at h ⊢
    · exact List.mem_cons_self ..
    · cases h

/-! ## One call -/

/-- The BSSID a call passes. -/
def Call.passed : Call → Option (List UInt8)
  | .connect _ _ _ bssid => bssid
  | .connectWithSsid _ _ => none
  | .connectWithBssid _ => none

/-- The commands a call sends. -/
def Call.commands (env : Env) (call : Call) (w : World) : List Cmd :=
  (call.run env { w with sent := [] }).2.sent

/-- The commands of a call constrain the network to the BSSID passed, and to no other:
`set_network` sends its first 17 characters exactly when there is one, `select_network`
clears the network's BSSID exactly when there is none. -/
structure BssidOk (passed : Option (List UInt8)) (cmds : List Cmd) : Prop where
  own : ∀ id value, .setNetwork id .bssid value ∈ cmds → ∃ b, passed = some b ∧ value = b.take 17
  sends : ∀ id value b, .setNetwork id .ssid value ∈ cmds → passed = some b →
    .setNetwork id .bssid (b.take 17) ∈ cmds
  keeps : ∀ id, .clearBssid id ∈ cmds → passed = none
  clears : ∀ id, .selectNetwork id ∈ cmds → passed = none → .clearBssid id ∈ cmds

/-- Commands that are about no BSSID and select nothing. -/
def Cmd.neutral : Cmd → Bool
  | .setNetwork _ .bssid _ => false
  | .setNetwork _ .ssid _ => false
  | .clearBssid _ => false
  | .selectNetwork _ => false
  | _ => true

theorem bssidOk_append {passed : Option (List UInt8)} {cs cmds : List Cmd}
    (hcs : ∀ c ∈ cs, c.neutral = true) (h : BssidOk passed cmds) : BssidOk passed (cs ++ cmds) := by
  have hmem : ∀ c : Cmd, c.neutral = false → c ∈ cs ++ cmds → c ∈ cmds := by
    intro c hc hin
    rcases List.mem_append.mp hin with hin | hin
    · rw [hcs c hin] at hc
      cases hc
    · exact hin
  refine ⟨?_, ?_, ?_, ?_⟩
  · intro id value hin
    exact h.own id value (hmem _ rfl hin)
  · intro id value b hin hb
    exact List.mem_append_right _ (h.sends id value b (hmem _ rfl hin) hb)
  · intro id hin
    exact h.keeps id (hmem _ rfl hin)
  · intro id hin hnone
    exact List.mem_append_right _ (h.clears id (hmem _ rfl hin) hnone)

theorem bssidOk_nil (passed : Option (List UInt8)) : BssidOk passed [] := by
  refine ⟨?_, ?_, ?_, ?_⟩
  · intro id value h
    cases h
  · intro id value b h
    cases h
  · intro id h
    cases h
  · intro id h
    cases h

/-- The globals say what the call passed. -/
def Holds (passed : Option (List UInt8)) (w : World) : Prop :=
  match passed with
  | some b => w.gbssidFlag = true ∧ w.gbssid = b.take 17
  | none => w.gbssidFlag = false

theorem bssidOk_connectScript {passed : Option (List UInt8)} {w : World} (hw : Holds passed w)
    (env : Env) (id : Int) (ssid psk : List UInt8) (encryp : KeyMgmt) :
    BssidOk passed (issued (machine env) (connectScript env w id ssid psk encryp)) := by
  have hl := connectScript_lines env w id ssid psk encryp
  cases passed with
  | some b =>
    obtain ⟨hflag, hb⟩ := hw
    refine ⟨?_, ?_, ?_, ?_⟩
    · intro k value h
      exact ⟨b, rfl, (bssid_of_issued hl h).2.trans hb⟩
    · intro k value b' h hb'
      obtain rfl := Option.some.inj hb'
      rw [id_of_issued hl (.inl ⟨value, rfl⟩) h, ← hb]
      exact connectScript_bssid env hflag id ssid psk encryp
    · intro k h
      rw [clear_of_issued hl h] at hflag
      cases hflag
    · intro k _ hnone
      cases hnone
  | none =>
    have hflag : w.gbssidFlag = false := hw
    refine ⟨?_, ?_, ?_, ?_⟩
    · intro k value h
      rw [(bssid_of_issued hl h).1] at hflag
      cases hflag
    · intro k value b _ hb
      cases hb
    · intro k _
      rfl
    · intro k h _
      rw [id_of_issued hl (.inr rfl) h]
      exact connectScript_clear env hflag h

theorem bssidOk_savedScript {w : World} (hflag : w.gbssidFlag = false) (env : Env) (id : Int) :
    BssidOk none (issued (machine env) (savedScript env w id)) := by
  have hl := savedScript_lines env w id
  refine ⟨?_, ?_, ?_, ?_⟩
  · intro k value h
    rw [(bssid_of_issued hl h).1] at hflag
    cases hflag
  · intro k value b _ hb
    cases hb
  · intro k _
    rfl
  · intro k h _
    rw [id_of_issued hl (.inr rfl) h]
    unfold savedScript
    rw [selectScript_clear hflag]
    exact List.mem_cons_self ..

theorem holds_prepare (keyMgmt : KeyMgmt) (bssid : Option (List UInt8)) {w : World}
    (hw : w.gbssidFlag = false) : Holds bssid (prepare keyMgmt bssid w) := by
  cases bssid with
  | some b => exact ⟨rfl, rfl⟩
  | none =>
    show (if keyMgmt = .wep then { w with isWep := true } else w).gbssidFlag = false
    split_ifs <;> exact hw

theorem holds_started {passed : Option (List UInt8)} {w : World} (h : Holds passed w) (env : Env)
    (ssid : List UInt8) (encryp : KeyMgmt) : Holds passed (started env ssid encryp w) := by
  rw [started_eq]
  cases passed <;> exact h

theorem bssidOk_connect1 {passed : Option (List UInt8)} {w : World} (hw : Holds passed w)
    (hsent : w.sent = []) (env : Env) (ssid psk : List UInt8) (encryp : KeyMgmt) :
    BssidOk passed (rkWifiConnect1 env ssid psk encryp w).2.sent := by
  rw [connect1_sent, hsent, List.nil_append]
  refine bssidOk_append (fun c hc => ?_) ?_
  · unfold startCommands at hc
    split_ifs at hc
    · simp only [List.mem_cons, List.not_mem_nil, or_false] at hc
      rcases hc with rfl | rfl <;> rfl
    · rw [List.mem_singleton.mp hc]
      rfl
  · split_ifs
    · exact bssidOk_nil passed
    · exact bssidOk_connectScript (holds_started hw env ssid encryp) env _ ssid psk encryp

theorem bssidOk_connectSaved {w : World} (hflag : w.gbssidFlag = false) (hsent : w.sent = [])
    (env : Env) (id : Int) (text : List UInt8) :
    BssidOk none (connectSaved env id text w).2.sent := by
  have hstart : ∀ c ∈ [Cmd.disableAll], c.neutral = true := by
    intro c hc
    rw [List.mem_singleton.mp hc]
    rfl
  rw [connectSaved_sent, hsent, List.nil_append]
  exact bssidOk_append hstart (bssidOk_savedScript hflag env id)

theorem bssidOk_existFail {w : World} (hsent : w.sent = []) : BssidOk none (existFail w).2.sent := by
  rw [existFail_sent, hsent]
  exact bssidOk_nil none

/-- A call made while the flag is clear is about its own BSSID. -/
theorem bssidOk_call {w : World} (hflag : w.gbssidFlag = false) (env : Env) (call : Call)
    (hcall : ∀ bssid, call ≠ .connectWithBssid bssid) :
    BssidOk call.passed (call.commands env w) := by
  unfold Call.commands Call.run
  rcases enter_cases call { w with sent := [] } with ⟨henter, -⟩ | henter | ⟨bssid, hb, -⟩
  · rw [henter]
    cases call with
    | connect ssid psk keyMgmt bssid =>
      refine bssidOk_connect1 (holds_prepare keyMgmt bssid ?_) ?_ env _ _ keyMgmt
      · exact hflag
      · rw [prepare_eq]
    | connectWithSsid ssid keyMgmt =>
      show BssidOk none (connectWithSsidBody env ssid keyMgmt _).2.sent
      unfold connectWithSsidBody
      cases ssid with
      | none => exact bssidOk_existFail rfl
      | some ssid =>
        simp only
        split_ifs
        · exact bssidOk_existFail rfl
        · refine bssidOk_connectSaved ?_ ?_ env _ ssid
          · exact hflag
          · rfl
    | connectWithBssid bssid => exact absurd rfl (hcall bssid)
  · rw [henter]
    exact bssidOk_nil _
  · exact absurd hb (hcall bssid)

/-! ## The flag between calls -/

theorem connectFail_gbssidFlag (w : World) : (connectFail w).2.gbssidFlag = w.gbssidFlag := by
  unfold connectFail
  rw [wifiStateSend_eq]

theorem existFail_gbssidFlag (w : World) : (existFail w).2.gbssidFlag = w.gbssidFlag := by
  unfold existFail
  rw [wifiStateSend_eq]

/-- No line sets the flag. -/
theorem run_gbssidFlag {env : Env} {l : List Line} (hl : ∀ st ∈ l, IsLine st) {w : World}
    (hw : w.gbssidFlag = false) : (run (machine env) l w).2.gbssidFlag = false := by
  refine run_induction (machine env) (P := fun w => w.gbssidFlag = false) (fun st hst w hw => ?_) hw
  cases hl st hst with
  | send => exact hw
  | check => exact hw
  | wep => exact hw
  | unflag => rfl

theorem exits_gbssidFlag {fail : World → Int × World} {r : Option Int × World}
    (hfail : ∀ w, (fail w).2.gbssidFlag = w.gbssidFlag) (hr : r.2.gbssidFlag = false) :
    (exits fail r).2.gbssidFlag = false := by
  obtain ⟨r, t⟩ := r
  cases r with
  | none => exact hr
  | some err => exact (hfail t).trans hr

/-- The settings `RK_wifi_connect1` makes depend on the BSSID and on the two name tables. -/
theorem settingsScript_started (env : Env) (w : World) (id : Int) (ssid psk : List UInt8)
    (encryp : KeyMgmt) : settingsScript env (started env ssid encryp w) id ssid psk encryp =
      settingsScript env w id ssid psk encryp := by
  rw [started_eq]
  rfl

/-- `select_network` clears the flag. -/
theorem run_connectScript_flag {env : Env} {w t : World} {id : Int} {ssid psk : List UInt8}
    {encryp : KeyMgmt} (hflag : w.gbssidFlag = true)
    (hpass : passes (machine env) (settingsScript env w id ssid psk encryp) = true) :
    (run (machine env) (connectScript env w id ssid psk encryp) t).2.gbssidFlag = false := by
  have hselect : selectScript w id =
      [.assign fun w => { w with gbssidFlag := false }, .check (.selectNetwork id) (-1)] := by
    unfold selectScript
    rw [hflag]
    rfl
  unfold connectScript
  rw [run_append_of_passes (machine env) hpass, hselect]
  have hl : ∀ st ∈ ([.check (.selectNetwork id) (-1), .check (.enableNetwork id) (-1)] :
      List Line), IsLine st := by
    intro st hst
    simp only [List.mem_cons, List.not_mem_nil, or_false] at hst
    rcases hst with rfl | rfl <;> exact .check _ _
  exact run_gbssidFlag hl rfl

/-- A call with a BSSID gets as far as `select_network`: there is a network for it, and the
supplicant takes all its settings. -/
def Call.ReachesSelect (env : Env) (call : Call) (w : World) : Prop :=
  match call with
  | .connect (some ssid) psk keyMgmt (some b) =>
    0 ≤ networkId env ssid keyMgmt ∧
      passes (machine env) (settingsScript env (prepare keyMgmt (some b) w)
        (networkId env ssid keyMgmt) ssid (psk.getD []) keyMgmt) = true
  | _ => True

theorem connect1_flag {env : Env} {w : World} {passed : Option (List UInt8)}
    (hw : Holds passed w) (ssid psk : List UInt8) (encryp : KeyMgmt)
    (h : passed ≠ none → 0 ≤ networkId env ssid encryp ∧
      passes (machine env) (settingsScript env w (networkId env ssid encryp) ssid psk encryp)
        = true) :
    (rkWifiConnect1 env ssid psk encryp w).2.gbssidFlag = false := by
  have hstart := holds_started hw env ssid encryp
  rw [connect1_eq]
  cases passed with
  | some b =>
    obtain ⟨hid, hpass⟩ := h (by simp)
    rw [if_neg (Int.not_lt.mpr hid)]
    rw [← settingsScript_started] at hpass
    exact exits_gbssidFlag connectFail_gbssidFlag (run_connectScript_flag hstart.1 hpass)
  | none =>
    split_ifs
    · exact (connectFail_gbssidFlag _).trans hstart
    · exact exits_gbssidFlag connectFail_gbssidFlag
        (run_gbssidFlag (connectScript_isLine _ _ _ _ _ _) hstart)

theorem connectSaved_flag {w : World} (hw : w.gbssidFlag = false) (env : Env) (id : Int)
    (text : List UInt8) : (connectSaved env id text w).2.gbssidFlag = false := by
  rw [connectSaved_eq]
  refine exits_gbssidFlag existFail_gbssidFlag (run_gbssidFlag (savedScript_isLine env w id) ?_)
  rw [announce_eq]
  exact hw

/-- A call leaves the flag clear, unless it fails between setting the flag and
`select_network`. -/
theorem call_flag {w : World} (hw : w.gbssidFlag = false) {env : Env} {call : Call}
    (hcall : ∀ bssid, call ≠ .connectWithBssid bssid)
    (h : ∀ t, call.enter w = .holds t → call.ReachesSelect env t) :
    (call.run env w).2.gbssidFlag = false := by
  unfold Call.run
  rcases enter_cases call w with ⟨henter, -⟩ | henter | ⟨bssid, hb, -⟩
  · have hreach := h _ henter
    rw [henter]
    cases call with
    | connect ssid psk keyMgmt bssid =>
      cases ssid with
      | none => cases henter
      | some ssid =>
        have hlocked : { w with wifiConnectLock := true : World }.gbssidFlag = false := hw
        refine connect1_flag (holds_prepare keyMgmt bssid hlocked) _ _ keyMgmt fun hne => ?_
        cases bssid with
        | none => exact absurd rfl hne
        | some b => exact hreach
    | connectWithSsid ssid keyMgmt =>
      show (connectWithSsidBody env ssid keyMgmt _).2.gbssidFlag = false
      unfold connectWithSsidBody
      cases ssid with
      | none =>
        rw [existFail_gbssidFlag]
        exact hw
      | some ssid =>
        simp only
        split_ifs
        · rw [existFail_gbssidFlag]
          exact hw
        · refine connectSaved_flag ?_ env _ ssid
          exact hw
    | connectWithBssid bssid => exact absurd rfl (hcall bssid)
  · rw [henter]
    exact hw
  · exact absurd hb (hcall bssid)

/-! ## Sequences of calls -/

/-- A call of `RK_wifi_connect` or `RK_wifi_connect_with_ssid`. -/
def Attempt.Named (a : Attempt) : Prop := ∀ bssid, a.call ≠ .connectWithBssid bssid

/-- Sequences of such calls, each attempt finished before the next call. -/
def bssidSystem : System World Attempt where
  init w := w.gbssidFlag = false
  step w a t := a.Named ∧ a.run w = t

/-- If the call passes a BSSID and takes the lock, it gets as far as `select_network`. -/
def BssidCallsSelect (w : World) (a : Attempt) : Prop :=
  ∀ t, a.call.enter w = .holds t → a.call.ReachesSelect a.env t

theorem flag_reach {w : World} (h : Reach bssidSystem BssidCallsSelect w) :
    w.gbssidFlag = false := by
  refine h.invariant (fun w hw => hw) fun w a t hw hok hstep => ?_
  obtain ⟨hnamed, rfl⟩ : a.Named ∧ a.run w = t := hstep
  have hcall := call_flag hw hnamed hok
  unfold Attempt.run
  split_ifs
  · rw [stateCheck_eq]
    exact hcall
  · exact hcall

/-- **BSSID of the call.** In every sequence of calls in which each call with a BSSID gets as
far as `select_network`, every call sends the commands for the BSSID it was given. -/
theorem bssid_follows_call {w : World} (h : Reach bssidSystem BssidCallsSelect w)
    (a : Attempt) (ha : a.Named) : BssidOk a.call.passed (a.call.commands a.env w) :=
  bssidOk_call (flag_reach h) a.env a.call ha

/-- An attempt to connect to an open network. -/
def openAttempt (bssid : Option (List UInt8)) (env : Env) : Attempt where
  call := .connect (some (chars "cafe")) none .none bssid
  env := env
  endEnv := .allOk
  ending := ⟨false, false⟩

/-- A call without a BSSID, behind one that passed a BSSID and selected its network. -/
theorem bssid_follows_openCall :
    BssidOk none ((openAttempt none .allOk).call.commands .allOk
      ((openAttempt (some (chars "02:00:00:00:00:01")) .allOk).run .boot)) := by
  have hselect : BssidCallsSelect .boot
      (openAttempt (some (chars "02:00:00:00:00:01")) .allOk) := by
    intro t ht
    obtain rfl := Entered.holds.inj ht
    exact ⟨by decide, by decide⟩
  refine bssid_follows_call (.next (.start (show World.boot.gbssidFlag = false from rfl)) hselect
    ⟨?_, rfl⟩) (openAttempt none .allOk) ?_
  all_goals
    intro bssid h
    cases h

/-- A supplicant that refuses the BSSID. -/
def Env.noBssid : Env :=
  { Env.allOk with
    reply
      | .setNetwork _ .bssid _ => chars "FAIL\n"
      | c => Env.allOk.reply c }

/-- After a call with a BSSID that the supplicant refused, a call without one still sends it. -/
theorem stale_bssid : ¬ ∀ w, Reach bssidSystem (fun _ _ => True) w →
    ∀ a : Attempt, a.Named → BssidOk a.call.passed (a.call.commands a.env w) := by
  intro h
  have hnamed : ∀ bssid env, (openAttempt bssid env).Named := by
    intro bssid env b hb
    cases hb
  have hreach : Reach bssidSystem (fun _ _ => True)
      ((openAttempt (some (chars "02:00:00:00:00:01")) .noBssid).run .boot) :=
    .next (.start (show World.boot.gbssidFlag = false from rfl)) trivial ⟨hnamed _ _, rfl⟩
  have hcmd : Cmd.setNetwork 0 .bssid (chars "02:00:00:00:00:01") ∈
      (openAttempt none .allOk).call.commands .allOk
        ((openAttempt (some (chars "02:00:00:00:00:01")) .noBssid).run .boot) := by
    decide
  obtain ⟨b, hb, -⟩ := (h _ hreach (openAttempt none .allOk) (hnamed _ _)).own 0 _ hcmd
  cases hb

end ConnectApp.Wifi
