import ConnectApp.Wifi.ConnectLock
import ConnectApp.Wifi.Event

/-!
# One final report per attempt (Rk_wifi.c:1736-1801, 1991-2049, 2768-2830)

An attempt reports `RK_WIFI_State_CONNECTING` and later how it ended: connected, failed, or
failed with a wrong key. The thread `wifi_connect_state_check` makes the first two reports,
`dispatch_event` the third, and `wifi_wrong_key` is meant to keep one of them silent.

`attemptRun` interleaves the steps of one attempt, from the moment `wifi_wrong_key` is
cleared to the release of the lock, with events and with calls that are rejected. The
accounting is `RunInv`: the final reports made, plus the one that the monitor still owes
after it has set `wifi_wrong_key`, against what the attempt has decided.

`one_final_report` is about runs without the events that break the accounting, such as a
second wrong key (`two_wrong_keys`). `stateCheck_run` ties the steps to
`wifiConnectStateCheck`.
-/

namespace ConnectApp.Wifi

open CString Script Transition

/-! ## Final reports -/

/-- The states that end an attempt. -/
def RunningState.isFinal : RunningState → Bool
  | .dhcpOk => true
  | .connectFailed => true
  | .connectFailedWrongKey => true
  | _ => false

/-- The number of final reports in a log. -/
def finalCount (reports : List Report) : Nat := reports.countP fun r => r.state.isFinal

theorem finalCount_append (l l' : List Report) :
    finalCount (l ++ l') = finalCount l + finalCount l' := List.countP_append ..

/-- From `w` to `w'` exactly `n` final reports are made, and what the accounting looks at
besides stays the same. -/
structure Makes (n : Nat) (w w' : World) : Prop where
  lock : w'.wifiConnectLock = w.wifiConnectLock
  wrongKey : w'.wifiWrongKey = w.wifiWrongKey
  callback : w'.callback = w.callback
  reports : ∃ new, w'.reports = w.reports ++ new ∧ finalCount new = n

theorem Makes.refl (w : World) : Makes 0 w w :=
  ⟨rfl, rfl, rfl, [], (List.append_nil _).symm, rfl⟩

theorem Makes.trans {m n : Nat} {u v w : World} (h : Makes m u v) (h' : Makes n v w) :
    Makes (m + n) u w := by
  obtain ⟨new, hnew, hm⟩ := h.reports
  obtain ⟨new', hnew', hn⟩ := h'.reports
  refine ⟨h'.lock.trans h.lock, h'.wrongKey.trans h.wrongKey, h'.callback.trans h.callback,
    new ++ new', ?_, ?_⟩
  · rw [hnew', hnew, List.append_assoc]
  · rw [finalCount_append, hm, hn]

/-- A command reports nothing. -/
theorem makes_exec (env : Env) (c : Cmd) (w : World) : Makes 0 w ((machine env).exec c w) :=
  ⟨rfl, rfl, rfl, [], (List.append_nil _).symm, rfl⟩

theorem makes_exec_two (env : Env) (c c' : Cmd) (w : World) :
    Makes 0 w ((machine env).exec c' ((machine env).exec c w)) :=
  (makes_exec env c w).trans (makes_exec env c' _)

/-- Nor does a line of the connect functions. -/
theorem makes_line (env : Env) {st : Line} (h : IsLine st) (w : World) :
    Makes 0 w (st.effect (machine env) w) := by
  have hrest : (st.effect (machine env) w).rest = w.rest := effect_rest h w
  have hlock := congrArg World.wifiConnectLock hrest
  have hkey := congrArg World.wifiWrongKey hrest
  have hcb := congrArg World.callback hrest
  have hrep := congrArg World.reports hrest
  exact ⟨hlock, hkey, hcb, [], hrep.trans (List.append_nil _).symm, rfl⟩

/-- A report is one entry of the log, with the state that is reported. -/
theorem wifiStateSend_reports (state : RunningState) {w : World} (h : w.callback = true) :
    ∃ info, wifiStateSend state w = { w with reports := w.reports ++ [⟨state, info⟩] } := by
  unfold wifiStateSend
  rw [if_pos h]
  split_ifs
  · exact ⟨_, rfl⟩
  · exact ⟨_, rfl⟩

theorem wifiStateSendInfo_reports (state : RunningState) (info : ConnInfo) {w : World}
    (h : w.callback = true) :
    ∃ info', wifiStateSendInfo state info w =
      { w with reports := w.reports ++ [⟨state, info'⟩] } := by
  unfold wifiStateSendInfo
  split_ifs
  · exact wifiStateSend_reports state h
  · exact ⟨_, rfl⟩

/-- The number of final reports a report of `state` is. -/
def RunningState.weight (state : RunningState) : Nat := if state.isFinal then 1 else 0

theorem makes_report (state : RunningState) (w : World)
    (info : Option (List UInt8 × List UInt8)) :
    Makes state.weight w { w with reports := w.reports ++ [⟨state, info⟩] } :=
  ⟨rfl, rfl, rfl, [⟨state, info⟩], rfl, List.countP_singleton ..⟩

theorem makes_send (state : RunningState) {w : World} (h : w.callback = true) :
    Makes state.weight w (wifiStateSend state w) := by
  obtain ⟨info, hsend⟩ := wifiStateSend_reports state h
  rw [hsend]
  exact makes_report state w info

theorem makes_sendInfo (state : RunningState) (info : ConnInfo) {w : World}
    (h : w.callback = true) : Makes state.weight w (wifiStateSendInfo state info w) := by
  obtain ⟨info', hsend⟩ := wifiStateSendInfo_reports state info h
  rw [hsend]
  exact makes_report state w info'

/-! ## What events report -/

theorem makes_retryWep (e : EventEnv) (event : List UInt8) (w : World) :
    Makes 0 w (retryWep e event w) := by
  unfold retryWep
  split_ifs
  · exact makes_exec_two e.env _ _ w
  · exact .refl w

theorem makes_disable (e : EventEnv) (w : World) : Makes 0 w (disableNoConnectedSsid e w) := by
  unfold disableNoConnectedSsid
  generalize e.env.rows.filter _ = rows
  induction rows generalizing w with
  | nil => exact .refl w
  | cons id rows ih => exact (makes_exec e.env (.disableNetwork id) w).trans (ih _)

theorem makes_connected (e : EventEnv) {w : World} (h : w.callback = true) :
    Makes 0 w (reportConnected e w) :=
  (makes_sendInfo .connected e.connection h).trans (makes_disable e _)

/-- The branches without a final report. -/
theorem makes_plain (e : EventEnv) (event : List UInt8) {w : World} (h : w.callback = true)
    (handler : Handler) : Makes 0 w (handlePlain e event w handler) := by
  cases handler with
  | disconnected =>
    have hsent := makes_sendInfo .disconnected (disconnectedInfo event e.connection) h
    show Makes 0 w (if _ then _ else _)
    split_ifs
    · exact hsent
    · exact hsent.trans (makes_exec_two e.env .enableAll .reconnect _)
  | scanResults => exact makes_send .scanResults h
  | associating =>
    show Makes 0 w (if w.wifiConnectLock then w else _)
    split_ifs
    · exact .refl w
    · exact makes_sendInfo .connecting _ h
  | _ => exact .refl w

/-- A wrong key is a final report. -/
theorem makes_wrongKey {e : EventEnv} {event : List UInt8} {w w' : World} (h : w.callback = true)
    (hreport : reportWrongKey e event w = some w') : Makes 1 w w' := by
  obtain ⟨info, -, rfl⟩ := Option.map_eq_some_iff.mp hreport
  exact makes_sendInfo .connectFailedWrongKey info h

/-! ## The steps of an attempt -/

/-- What `check_wifi_isconnected` reads of the status. -/
structure Status where
  completed : Bool
  address : Bool

/-- Where an attempt is: `wifi_wrong_key` cleared, polling for the `i`-th time after the
report of `RK_WIFI_State_CONNECTING`, the connection checked, what to report decided, that
reported, the lock released. -/
inductive Phase
  | cleared
  | polling (i : Nat)
  | checked (connected : Bool)
  | decided (connected : Bool) (report : Option RunningState)
  | sent (connected : Bool)
  | released
  deriving DecidableEq

/-- What the monitor is in the middle of: the report of a wrong key, or `rkwifi_check_ip`. -/
inductive Job
  | idle
  | wrongKey (e : EventEnv) (event : List UInt8)
  | address (e : EventEnv) (event : List UInt8)

/-- The variables, the attempt and the monitor; `mark` is the length of the log behind the
attempt's report of `RK_WIFI_State_CONNECTING`. -/
structure AttemptState where
  world : World
  phase : Phase
  job : Job
  mark : Nat

/-- The final reports since then. -/
def AttemptState.finals (s : AttemptState) : Nat := finalCount (s.world.reports.drop s.mark)

/-- What can happen during an attempt. -/
inductive AttemptMove
  | announce (env : Env) (ssid bssid : Option (List UInt8))
  | line (env : Env) (st : { st : Line // IsLine st })
  | poll (status : Status) (stop : Bool)
  | decide (env : Env)
  | send
  | release (env : Env)
  | event (e : EventEnv) (event : List UInt8)
  | monitor
  | reject (call : Call)

/-- A round of `check_wifi_isconnected` (Rk_wifi.c:1745-1796). `stop` says that Wi-Fi is
switched off, the monitor is gone or the attempt is cancelled. -/
def pollStep (i : Nat) (status : Status) (stop wrongKey : Bool) : Phase :=
  if status.completed && status.address then .checked true
  else if !status.completed && decide (i = 20) then .checked false
  else if stop || wrongKey then .checked false
  else if i + 1 = 60 then .checked false
  else .polling (i + 1)

/-- The end of `check_wifi_isconnected` up to what is reported (Rk_wifi.c:2003-2028). -/
def decideStep (env : Env) (connected : Bool) (w : World) : World × Option RunningState :=
  if connected then ((machine env).exec .saveConfig w, some .dhcpOk)
  else
    (wifiConnectfailProcess env w.connectingId w,
      if w.wifiWrongKey then none else some .connectFailed)

/-- The end of the thread (Rk_wifi.c:2036-2046). -/
def releaseStep (env : Env) (connected : Bool) (w : World) : World :=
  let w := { w with
    wifiIsExist := false, wifiConnectLock := false, isWep := false, wifiCancel := false }
  if connected then w else reconnectAll env w

/-- `dispatch_event` up to the report of a wrong key or the wait for an address. -/
def beginEvent (e : EventEnv) (event : List UInt8) (w : World) : Option (World × Job) :=
  match handlerOf event with
  | .wrongKey => some ({ w with wifiWrongKey := true }, .wrongKey e event)
  | .connected =>
    let w := reportConnected e w
    if w.wifiConnectLock then some (retryWep e event w, .idle) else some (w, .address e event)
  | _ => (dispatchEvent e event w).map fun handled => (handled.world, .idle)

/-- The rest of it. -/
def Job.finish (w : World) : Job → Option World
  | .idle => none
  | .wrongKey e event => (reportWrongKey e event w).map (retryWep e event)
  | .address e event => some (retryWep e event (rkwifiCheckIp e w))

/-- A step of the attempt itself. -/
def AttemptState.attemptNext (s : AttemptState) : AttemptMove → Option AttemptState
  | .announce env ssid bssid =>
    if s.phase = .cleared then
      let w := announce env ssid bssid s.world
      some { s with world := w, phase := .polling 0, mark := w.reports.length }
    else none
  | .line env st =>
    if s.phase = .polling 0 then some { s with world := st.1.effect (machine env) s.world }
    else none
  | .poll status stop =>
    match s.phase with
    | .polling i => some { s with phase := pollStep i status stop s.world.wifiWrongKey }
    | _ => none
  | .decide env =>
    match s.phase with
    | .checked connected =>
      let decided := decideStep env connected s.world
      some { s with world := decided.1, phase := .decided connected decided.2 }
    | _ => none
  | .send =>
    match s.phase with
    | .decided connected (some state) =>
      some { s with world := wifiStateSend state s.world, phase := .sent connected }
    | .decided connected none => some { s with phase := .sent connected }
    | _ => none
  | .release env =>
    match s.phase with
    | .sent connected =>
      some { s with world := releaseStep env connected s.world, phase := .released }
    | _ => none
  | _ => none

/-- A step of the monitor or of a rejected call. -/
def AttemptState.outsideNext (s : AttemptState) : AttemptMove → Option AttemptState
  | .event e event =>
    match s.job with
    | .idle => (beginEvent e event s.world).map fun r => { s with world := r.1, job := r.2 }
    | _ => none
  | .monitor => (s.job.finish s.world).map fun w => { s with world := w, job := .idle }
  | .reject call =>
    match call.enter s.world with
    | .returned w => some { s with world := w }
    | .holds _ => none
  | _ => none

/-- A run ends with the release of the lock. -/
def AttemptState.next (s : AttemptState) (move : AttemptMove) : Option AttemptState :=
  if s.phase = .released then none
  else
    match s.attemptNext move with
    | some t => some t
    | none => s.outsideNext move

/-- An attempt holds the lock and has cleared `wifi_wrong_key`; a callback is registered. -/
structure AttemptState.Begin (s : AttemptState) : Prop where
  phase : s.phase = .cleared
  lock : s.world.wifiConnectLock = true
  wrongKey : s.world.wifiWrongKey = false
  callback : s.world.callback = true

/-- One attempt, from the call on. -/
def attemptRun : System AttemptState AttemptMove where
  init := AttemptState.Begin
  step s move t := s.next move = some t

/-- The attempt has made one final report when it is over. -/
def OneFinalReport (s : AttemptState) : Prop := s.phase = .released → s.finals = 1

/-- The monitor is about to report a wrong key of this attempt. -/
def AttemptState.owes (s : AttemptState) : Bool :=
  match s.job with
  | .wrongKey _ _ => s.world.wifiWrongKey
  | _ => false

/-- What keeps the reports apart. No `RK_wifi_connect_with_bssid` is called. A wrong key is
announced once, after the attempt has reported that it is connecting and before it has
decided how it ended, and the network does not connect after it. The monitor gets to its
report before the lock is released, and it does not come to the end of an event from before
the attempt while the attempt runs. -/
structure Undisturbed (s : AttemptState) (move : AttemptMove) : Prop where
  call : ∀ bssid, move ≠ .reject (.connectWithBssid bssid)
  once : ∀ e event, move = .event e event → handlerOf event = .wrongKey →
    s.world.wifiWrongKey = false ∧ ((∃ i, s.phase = .polling i) ∨ s.phase = .checked false)
  lost : ∀ status stop, move = .poll status stop → s.world.wifiWrongKey = true →
    (status.completed && status.address) = false
  prompt : ∀ env e event, move = .release env → s.job ≠ .wrongKey e event
  stale : move = .monitor → s.phase = .cleared ∨ s.owes = true

/-! ## The accounting -/

/-- The final reports made and owed, against what the attempt has got to. -/
def AttemptState.Balanced (s : AttemptState) : Prop :=
  match s.phase with
  | .cleared => s.world.wifiWrongKey = false
  | .polling _ => s.finals + s.owes.toNat = s.world.wifiWrongKey.toNat
  | .checked connected =>
    s.finals + s.owes.toNat = s.world.wifiWrongKey.toNat ∧
      (connected = true → s.world.wifiWrongKey = false)
  | .decided _ report => s.finals + s.owes.toNat + (report.map RunningState.weight).getD 0 = 1
  | .sent _ => s.finals + s.owes.toNat = 1
  | .released => s.finals = 1

/-- What every reachable state keeps. -/
structure RunInv (s : AttemptState) : Prop where
  lock : s.phase ≠ .released → s.world.wifiConnectLock = true
  callback : s.world.callback = true
  mark : s.phase ≠ .cleared → s.mark ≤ s.world.reports.length
  balanced : s.Balanced

theorem Makes.finals {n : Nat} {s : AttemptState} {w : World} (h : Makes n s.world w)
    (hmark : s.mark ≤ s.world.reports.length) (phase : Phase) (job : Job) :
    (AttemptState.mk w phase job s.mark).finals = s.finals + n := by
  obtain ⟨new, hnew, hn⟩ := h.reports
  unfold AttemptState.finals
  show finalCount (w.reports.drop s.mark) = _
  rw [hnew, List.drop_append_of_le_length hmark, finalCount_append, hn]

theorem Makes.mark_le {n : Nat} {s : AttemptState} {w : World} (h : Makes n s.world w)
    (hmark : s.mark ≤ s.world.reports.length) : s.mark ≤ w.reports.length := by
  obtain ⟨new, hnew, -⟩ := h.reports
  rw [hnew, List.length_append]
  omega

/-- A step in which the reports made are the reports no longer owed. -/
theorem RunInv.settle {s : AttemptState} {n : Nat} {w : World} {job : Job} (hs : RunInv s)
    (hm : Makes n s.world w)
    (howed : s.phase ≠ .cleared → n + (AttemptState.mk w s.phase job s.mark).owes.toNat =
      s.owes.toNat) (hrun : s.phase ≠ .released) :
    RunInv { s with world := w, job := job } := by
  refine ⟨fun _ => hm.lock.trans (hs.lock hrun), hm.callback.trans hs.callback,
    fun hphase => hm.mark_le (hs.mark hphase), ?_⟩
  have hbal := hs.balanced
  cases hphase : s.phase with
  | cleared =>
    simp only [AttemptState.Balanced, hphase] at hbal ⊢
    exact hm.wrongKey.trans hbal
  | released => exact absurd hphase hrun
  | checked connected =>
    have hmark := hs.mark (by rw [hphase]; rintro ⟨⟩)
    have hfin := hm.finals hmark s.phase job
    have hsum := howed (by rw [hphase]; rintro ⟨⟩)
    simp only [AttemptState.Balanced, hphase, hm.wrongKey] at hbal hfin hsum ⊢
    exact ⟨by omega, hbal.2⟩
  | _ =>
    have hmark := hs.mark (by rw [hphase]; rintro ⟨⟩)
    have hfin := hm.finals hmark s.phase job
    have hsum := howed (by rw [hphase]; rintro ⟨⟩)
    simp only [AttemptState.Balanced, hphase, hm.wrongKey] at hbal hfin hsum ⊢
    omega

theorem owes_idle (w : World) (phase : Phase) (mark : Nat) :
    (AttemptState.mk w phase .idle mark).owes = false := rfl

theorem owes_of_clear {s : AttemptState} (h : s.world.wifiWrongKey = false) : s.owes = false := by
  unfold AttemptState.owes
  split
  · exact h
  · rfl

/-! ## The steps of the attempt -/

theorem runInv_announce {s : AttemptState} (hs : RunInv s) (hphase : s.phase = .cleared)
    (env : Env) (ssid bssid : Option (List UInt8)) :
    RunInv { s with
      world := announce env ssid bssid s.world, phase := .polling 0
      mark := (announce env ssid bssid s.world).reports.length } := by
  have hbal := hs.balanced
  simp only [AttemptState.Balanced, hphase] at hbal
  have hkey : (announce env ssid bssid s.world).wifiWrongKey = false := by
    rw [announce_eq]
    exact hbal
  refine ⟨fun _ => ?_, ?_, fun _ => Nat.le_refl _, ?_⟩
  · show (announce env ssid bssid s.world).wifiConnectLock = true
    rw [announce_eq]
    exact hs.lock (by rw [hphase]; rintro ⟨⟩)
  · show (announce env ssid bssid s.world).callback = true
    rw [announce_eq]
    exact hs.callback
  · -- the log is marked behind the report, so nothing is counted yet
    show finalCount (List.drop _ _) + Bool.toNat _ = Bool.toNat _
    rw [owes_of_clear hkey, List.drop_length]
    exact (congrArg Bool.toNat hkey).symm

theorem runInv_poll {s : AttemptState} {i : Nat} {status : Status} {stop : Bool} (hs : RunInv s)
    (hok : Undisturbed s (.poll status stop)) (hphase : s.phase = .polling i) :
    RunInv { s with phase := pollStep i status stop s.world.wifiWrongKey } := by
  have hbal := hs.balanced
  simp only [AttemptState.Balanced, hphase] at hbal
  have hlock := hs.lock (by rw [hphase]; rintro ⟨⟩)
  have hmark := hs.mark (by rw [hphase]; rintro ⟨⟩)
  refine ⟨fun _ => hlock, hs.callback, fun _ => hmark, ?_⟩
  unfold pollStep
  split_ifs with hconnected
  · refine ⟨hbal, fun _ => ?_⟩
    by_contra hkey
    cases (hok.lost status stop rfl (Bool.not_eq_false _ ▸ hkey)).symm.trans hconnected
  · exact ⟨hbal, by rintro ⟨⟩⟩
  · exact ⟨hbal, by rintro ⟨⟩⟩
  · exact ⟨hbal, by rintro ⟨⟩⟩
  · exact hbal

/-- Deciding makes no report, and fixes the one that is still to be made. -/
theorem runInv_decide {s : AttemptState} {connected : Bool} (hs : RunInv s)
    (hphase : s.phase = .checked connected) (env : Env) :
    RunInv { s with
      world := (decideStep env connected s.world).1
      phase := .decided connected (decideStep env connected s.world).2 } := by
  have hbal := hs.balanced
  simp only [AttemptState.Balanced, hphase] at hbal
  obtain ⟨hsum, hclear⟩ := hbal
  have hlock := hs.lock (by rw [hphase]; rintro ⟨⟩)
  have hmark := hs.mark (by rw [hphase]; rintro ⟨⟩)
  have hm : Makes 0 s.world (decideStep env connected s.world).1 := by
    cases connected with
    | true => exact makes_exec env .saveConfig s.world
    | false => exact makes_exec_two env _ .saveConfig s.world
  have howes : (AttemptState.mk (decideStep env connected s.world).1
      (.decided connected (decideStep env connected s.world).2) s.job s.mark).owes = s.owes := by
    unfold AttemptState.owes
    simp only [hm.wrongKey]
  refine ⟨fun _ => hm.lock.trans hlock, hm.callback.trans hs.callback,
    fun _ => hm.mark_le hmark, ?_⟩
  show AttemptState.finals _ + Bool.toNat _ + _ = 1
  rw [hm.finals hmark, howes]
  cases connected with
  | true =>
    rw [hclear rfl] at hsum
    show s.finals + 0 + s.owes.toNat + 1 = 1
    rw [Bool.toNat_false] at hsum
    omega
  | false =>
    cases hkey : s.world.wifiWrongKey with
    | true =>
      rw [hkey, Bool.toNat_true] at hsum
      simp only [decideStep, hkey, Bool.false_eq_true, if_false, if_true, Option.map_none,
        Option.getD_none]
      omega
    | false =>
      rw [hkey, Bool.toNat_false] at hsum
      simp only [decideStep, hkey, Bool.false_eq_true, if_false, Option.map_some,
        Option.getD_some]
      show s.finals + 0 + s.owes.toNat + 1 = 1
      omega

theorem owes_congr {w w' : World} (h : w'.wifiWrongKey = w.wifiWrongKey) (phase phase' : Phase)
    (job : Job) (mark : Nat) :
    (AttemptState.mk w' phase' job mark).owes = (AttemptState.mk w phase job mark).owes := by
  unfold AttemptState.owes
  simp only [h]

/-- The report that was decided is made. -/
theorem runInv_send {s : AttemptState} {connected : Bool} {state : RunningState} (hs : RunInv s)
    (hphase : s.phase = .decided connected (some state)) :
    RunInv { s with world := wifiStateSend state s.world, phase := .sent connected } := by
  have hbal := hs.balanced
  simp only [AttemptState.Balanced, hphase, Option.map_some, Option.getD_some] at hbal
  have hlock := hs.lock (by rw [hphase]; rintro ⟨⟩)
  have hmark := hs.mark (by rw [hphase]; rintro ⟨⟩)
  have hm := makes_send state hs.callback
  refine ⟨fun _ => hm.lock.trans hlock, hm.callback.trans hs.callback,
    fun _ => hm.mark_le hmark, ?_⟩
  show AttemptState.finals _ + Bool.toNat _ = 1
  rw [hm.finals hmark, owes_congr hm.wrongKey s.phase]
  show s.finals + state.weight + s.owes.toNat = 1
  omega

theorem runInv_skip {s : AttemptState} {connected : Bool} (hs : RunInv s)
    (hphase : s.phase = .decided connected none) : RunInv { s with phase := .sent connected } := by
  have hbal := hs.balanced
  simp only [AttemptState.Balanced, hphase] at hbal
  have hlock := hs.lock (by rw [hphase]; rintro ⟨⟩)
  have hmark := hs.mark (by rw [hphase]; rintro ⟨⟩)
  exact ⟨fun _ => hlock, hs.callback, fun _ => hmark, hbal⟩

theorem releaseStep_reports (env : Env) (connected : Bool) (w : World) :
    (releaseStep env connected w).reports = w.reports ∧
      (releaseStep env connected w).callback = w.callback := by
  unfold releaseStep
  split_ifs
  · exact ⟨rfl, rfl⟩
  · exact ⟨rfl, rfl⟩

/-- With nothing owed, the one report is among those made. -/
theorem runInv_release {s : AttemptState} {connected : Bool} {env : Env} (hs : RunInv s)
    (hok : Undisturbed s (.release env)) (hphase : s.phase = .sent connected) :
    RunInv { s with world := releaseStep env connected s.world, phase := .released } := by
  have hbal := hs.balanced
  simp only [AttemptState.Balanced, hphase] at hbal
  have hmark := hs.mark (by rw [hphase]; rintro ⟨⟩)
  obtain ⟨hreports, hcallback⟩ := releaseStep_reports env connected s.world
  have howes : s.owes = false := by
    unfold AttemptState.owes
    split
    next e event hjob => exact absurd hjob (hok.prompt env e event rfl)
    next => rfl
  refine ⟨fun h => absurd rfl h, hcallback.trans hs.callback, fun _ => ?_, ?_⟩
  · show s.mark ≤ (releaseStep env connected s.world).reports.length
    rw [hreports]
    exact hmark
  · show finalCount ((releaseStep env connected s.world).reports.drop s.mark) = 1
    rw [howes] at hbal
    rw [hreports]
    exact hbal

theorem runInv_attempt {s t : AttemptState} {move : AttemptMove} (hs : RunInv s)
    (hok : Undisturbed s move) (h : s.attemptNext move = some t) : RunInv t := by
  unfold AttemptState.attemptNext at h
  split at h
  next env ssid bssid =>
    split_ifs at h with hphase
    obtain rfl := Option.some.inj h
    exact runInv_announce hs hphase env ssid bssid
  next env st =>
    split_ifs at h with hphase
    obtain rfl := Option.some.inj h
    have hm := makes_line env st.2 s.world
    refine hs.settle hm (fun _ => ?_) (by rw [hphase]; rintro ⟨⟩)
    rw [owes_congr hm.wrongKey s.phase]
    exact Nat.zero_add _
  next status stop =>
    split at h
    next i hphase =>
      obtain rfl := Option.some.inj h
      exact runInv_poll hs hok hphase
    next => cases h
  next env =>
    split at h
    next connected hphase =>
      obtain rfl := Option.some.inj h
      exact runInv_decide hs hphase env
    next => cases h
  next =>
    split at h
    next connected state hphase =>
      obtain rfl := Option.some.inj h
      exact runInv_send hs hphase
    next connected hphase =>
      obtain rfl := Option.some.inj h
      exact runInv_skip hs hphase
    next => cases h
  next env =>
    split at h
    next connected hphase =>
      obtain rfl := Option.some.inj h
      exact runInv_release hs hok hphase
    next => cases h
  next => cases h

/-! ## The steps of the others -/

/-- The first half of an event makes no final report while the lock is held, and starts
nothing but the report of a wrong key. -/
theorem beginEvent_makes {e : EventEnv} {event : List UInt8} {w : World} {r : World × Job}
    (hlock : w.wifiConnectLock = true) (hcb : w.callback = true)
    (hkey : handlerOf event ≠ .wrongKey) (h : beginEvent e event w = some r) :
    Makes 0 w r.1 ∧ r.2 = .idle := by
  unfold beginEvent at h
  split at h
  next hwrong => exact absurd hwrong hkey
  next =>
    have hm := makes_connected e hcb
    simp only [hm.lock.trans hlock, if_true] at h
    obtain rfl := Option.some.inj h
    exact ⟨hm.trans (makes_retryWep e event _), rfl⟩
  next hconnected =>
    obtain ⟨handled, hdispatch, rfl⟩ := Option.map_eq_some_iff.mp h
    refine ⟨?_, rfl⟩
    unfold dispatchEvent at hdispatch
    split at hdispatch
    next =>
      obtain rfl := Option.some.inj hdispatch
      exact .refl w
    next =>
      obtain rfl := Option.some.inj hdispatch
      exact .refl w
    next hwrong => exact absurd hwrong hkey
    next hconn => exact absurd hconn hconnected
    next =>
      obtain rfl := Option.some.inj hdispatch
      exact (makes_plain e event hcb _).trans (makes_retryWep e event _)

/-- The first wrong key: a report is owed from here on. -/
theorem runInv_wrongKey {s : AttemptState} {e : EventEnv} {event : List UInt8} (hs : RunInv s)
    (hclear : s.world.wifiWrongKey = false)
    (hphase : (∃ i, s.phase = .polling i) ∨ s.phase = .checked false) :
    RunInv { s with
      world := { s.world with wifiWrongKey := true }, job := .wrongKey e event } := by
  have howes : s.owes = false := owes_of_clear hclear
  have hbal := hs.balanced
  have hlock := hs.lock (by rcases hphase with ⟨i, h⟩ | h <;> rw [h] <;> rintro ⟨⟩)
  have hmark := hs.mark (by rcases hphase with ⟨i, h⟩ | h <;> rw [h] <;> rintro ⟨⟩)
  refine ⟨fun _ => hlock, hs.callback, fun _ => hmark, ?_⟩
  rcases hphase with ⟨i, hphase⟩ | hphase
  · simp only [AttemptState.Balanced, hphase, howes, hclear, Bool.toNat_false] at hbal ⊢
    exact congrArg (· + 1) hbal
  · simp only [AttemptState.Balanced, hphase, howes, hclear, Bool.toNat_false] at hbal ⊢
    exact ⟨congrArg (· + 1) hbal.1, by rintro ⟨⟩⟩

/-- What the monitor still does with an event makes one final report if one was owed. -/
theorem finish_makes {s : AttemptState} {w : World} (hcb : s.world.callback = true)
    (howes : s.owes = true) (h : s.job.finish s.world = some w) : Makes 1 s.world w := by
  unfold AttemptState.owes at howes
  split at howes
  next e event hjob =>
    rw [hjob] at h
    obtain ⟨w', hreport, rfl⟩ := Option.map_eq_some_iff.mp h
    exact (makes_wrongKey hcb hreport).trans (makes_retryWep e event w')
  next => cases howes

/-- In any case it leaves the flags alone. -/
theorem finish_makes_some {job : Job} {v w : World} (hcb : v.callback = true)
    (h : job.finish v = some w) : ∃ n, Makes n v w := by
  cases job with
  | idle => cases h
  | wrongKey e event =>
    obtain ⟨w', hreport, rfl⟩ := Option.map_eq_some_iff.mp h
    exact ⟨_, (makes_wrongKey hcb hreport).trans (makes_retryWep e event w')⟩
  | address e event =>
    obtain rfl := Option.some.inj h
    unfold rkwifiCheckIp
    split
    · exact ⟨_, (makes_sendInfo .dhcpOk _ hcb).trans (makes_retryWep e event _)⟩
    · exact ⟨_, (makes_sendInfo .connectFailed _ hcb).trans (makes_retryWep e event _)⟩

theorem runInv_outside {s t : AttemptState} {move : AttemptMove} (hs : RunInv s)
    (hok : Undisturbed s move) (hrun : s.phase ≠ .released) (h : s.outsideNext move = some t) :
    RunInv t := by
  unfold AttemptState.outsideNext at h
  split at h
  next e event =>
    split at h
    next hjob =>
      obtain ⟨r, hbegin, rfl⟩ := Option.map_eq_some_iff.mp h
      by_cases hkey : handlerOf event = .wrongKey
      · obtain ⟨hclear, hphase⟩ := hok.once e event rfl hkey
        unfold beginEvent at hbegin
        rw [hkey] at hbegin
        obtain rfl := Option.some.inj hbegin
        exact runInv_wrongKey hs hclear hphase
      · obtain ⟨hm, hidle⟩ := beginEvent_makes (hs.lock hrun) hs.callback hkey hbegin
        have howes : s.owes = false := by
          unfold AttemptState.owes
          rw [hjob]
        refine hs.settle hm (fun _ => ?_) hrun
        rw [hidle, owes_idle, howes]
        rfl
    next => cases h
  next =>
    obtain ⟨w, hfinish, rfl⟩ := Option.map_eq_some_iff.mp h
    rcases hok.stale rfl with hphase | howes
    · -- before the report of this attempt nothing is counted
      obtain ⟨n, hm⟩ := finish_makes_some hs.callback hfinish
      exact hs.settle hm (fun hnot => absurd hphase hnot) hrun
    · refine hs.settle (finish_makes hs.callback howes hfinish) (fun _ => ?_) hrun
      rw [owes_idle, howes]
      rfl
  next call =>
    rcases enter_cases call s.world with ⟨hcall, -⟩ | hcall | ⟨bssid, rfl, -, -⟩
    · rw [hcall] at h
      cases h
    · rw [hcall] at h
      obtain rfl := Option.some.inj h
      exact hs
    · exact absurd rfl (hok.call bssid)
  next => cases h

/-! ## All runs -/

theorem runInv_reach {s : AttemptState} (h : Reach attemptRun Undisturbed s) : RunInv s := by
  refine h.invariant ?_ ?_
  · intro s hs
    refine ⟨fun _ => hs.lock, hs.callback, fun hphase => absurd hs.phase hphase, ?_⟩
    simp only [AttemptState.Balanced, hs.phase]
    exact hs.wrongKey
  · intro s move t hs hok hstep
    have hstep : s.next move = some t := hstep
    unfold AttemptState.next at hstep
    split_ifs at hstep with hrun
    split at hstep
    next u hattempt =>
      obtain rfl := Option.some.inj hstep
      exact runInv_attempt hs hok hattempt
    next => exact runInv_outside hs hok hrun hstep

/-- **One final report.** In every undisturbed run the attempt has made exactly one final
report when it releases the lock. -/
theorem one_final_report {s : AttemptState} (h : Reach attemptRun Undisturbed s) :
    OneFinalReport s := by
  intro hphase
  have hbal := (runInv_reach h).balanced
  simp only [AttemptState.Balanced, hphase] at hbal
  exact hbal

/-- The moves of the attempt itself. -/
def AttemptMove.own : AttemptMove → Bool
  | .event _ _ => false
  | .monitor => false
  | .reject _ => false
  | _ => true

/-- An attempt that is left to itself is undisturbed. -/
theorem undisturbed_own {s : AttemptState} {move : AttemptMove} (hown : move.own = true)
    (hjob : s.job = .idle) (hclear : s.world.wifiWrongKey = false) : Undisturbed s move := by
  constructor
  · rintro bssid rfl
    cases hown
  · rintro e event rfl
    cases hown
  · intro status stop _ hkey
    cases hclear.symm.trans hkey
  · rintro env e event - hwrong
    cases hjob.symm.trans hwrong
  · rintro rfl
    cases hown

/-- `RK_wifi_connect` holds the lock and has not reported anything. -/
def AttemptState.cafe : AttemptState :=
  ⟨{ World.boot with wifiConnectLock := true }, .cleared, .idle, 0⟩

/-- The run of an attempt that connects at the first look. -/
theorem one_final_report_cafe :
    ∃ s, Reach attemptRun Undisturbed s ∧ s.phase = .released ∧ s.finals = 1 := by
  have hcleared : Reach attemptRun Undisturbed .cafe := .start ⟨rfl, rfl, rfl, rfl⟩
  have hpolling := hcleared.next (undisturbed_own rfl rfl rfl)
    (show AttemptState.cafe.next (.announce .allOk (some (chars "cafe")) none) = some _ from rfl)
  have hchecked := hpolling.next (undisturbed_own rfl rfl rfl)
    (show AttemptState.next _ (.poll ⟨true, true⟩ false) = some _ from rfl)
  have hdecided := hchecked.next (undisturbed_own rfl rfl rfl)
    (show AttemptState.next _ (.decide .allOk) = some _ from rfl)
  have hsent := hdecided.next (undisturbed_own rfl rfl rfl)
    (show AttemptState.next _ .send = some _ from rfl)
  have hreleased := hsent.next (undisturbed_own rfl rfl rfl)
    (show AttemptState.next _ (.release .allOk) = some _ from rfl)
  exact ⟨_, hreleased, rfl, one_final_report hreleased rfl⟩

/-- The event of a wrong key. -/
def wrongKeyEvent : List UInt8 :=
  chars "CTRL-EVENT-SSID-TEMP-DISABLED id=0 ssid=\"cafe\" auth_failures=1 duration=10 reason=WRONG_KEY"

/-- A supplicant that takes every command, and empty statuses. -/
def EventEnv.quiet : EventEnv := ⟨.allOk, ⟨0, [], [], 0⟩, ⟨0, [], [], 0⟩, none⟩

/-- A key that is refused twice is reported twice. -/
theorem two_wrong_keys :
    ¬ ∀ s, Reach attemptRun (fun _ _ => True) s → OneFinalReport s := by
  intro h
  have hstart : Reach attemptRun (fun _ _ => True) .cafe := .start ⟨rfl, rfl, rfl, rfl⟩
  have hrun : ([.announce .allOk (some (chars "cafe")) none, .event .quiet wrongKeyEvent,
      .monitor, .event .quiet wrongKeyEvent, .monitor, .poll ⟨false, false⟩ false,
      .decide .allOk, .send, .release .allOk].foldlM AttemptState.next .cafe).map
        (fun s => (s.phase, s.finals)) = some (.released, 2) := by
    decide +kernel
  obtain ⟨s, hs, hlast⟩ := Option.map_eq_some_iff.mp hrun
  obtain ⟨hphase, htwo⟩ := Prod.mk.inj hlast
  have hone := h s (hstart.of_foldlM (fun s move t h => ⟨trivial, h⟩) hs) hphase
  omega

/-! ## The steps are those of the functions -/

/-- **The thread.** Its last steps, taken without interruption, are the end of
`wifi_connect_state_check`. -/
theorem stateCheck_run (env : Env) (connected : Bool) (w : World) (job : Job) (mark : Nat) :
    [AttemptMove.decide env, .send, .release env].foldlM AttemptState.next
        ⟨w, .checked connected, job, mark⟩ =
      some ⟨wifiConnectStateCheck env ⟨connected, w.wifiWrongKey⟩ w.connectingId w, .released, job,
        mark⟩ := by
  obtain ⟨_, _, _, wrongKey⟩ := w
  cases connected with
  | true => rfl
  | false => cases wrongKey <;> rfl

/-- **An event.** Its two halves, taken without interruption, are `dispatch_event`. -/
theorem dispatch_run (e : EventEnv) (event : List UInt8) (w : World) :
    ((beginEvent e event w).bind fun r =>
        match r.2 with
        | .idle => some r.1
        | job => job.finish r.1) =
      (dispatchEvent e event w).map Handled.world := by
  unfold beginEvent dispatchEvent
  generalize handlerOf event = handler
  cases handler with
  | wrongKey =>
    show (reportWrongKey e event _).map (retryWep e event) = _
    show _ = ((reportWrongKey e event _).bind _).map _
    cases reportWrongKey e event { w with wifiWrongKey := true } with
    | none => rfl
    | some w' => rfl
  | connected =>
    simp only
    split_ifs <;> rfl
  | _ => rfl

end ConnectApp.Wifi
