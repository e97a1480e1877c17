import ConnectApp.Lib.Transition
import ConnectApp.Wifi.ConnectScript

/-!
# One attempt at a time (Rk_wifi.c:1991-2207, 2301-2425)

`wifi_connect_lock` is taken by the three connect functions and released by their fail
exits or by the end of the thread `wifi_connect_state_check`. `lockSystem` interleaves any
number of callers and threads: entering a call up to the test-and-set of the lock, the rest
of a call with arbitrary answers of the supplicant, and the end of a thread.

An attempt is in progress from taking the lock to the fail exit or the end of its thread.
`one_attempt` is the invariant for all runs in which `RK_wifi_connect_with_bssid` is only
called while the lock is free: its test of the lock leaves through the fail exit, which
releases a lock it does not hold (`attempts_overlap`).
-/

namespace ConnectApp.Wifi

open CString Script Transition

/-! ## What a call does to the lock -/

/-- A call has returned 0 with the lock held, or -1 with the lock released. -/
def Settled (r : Int × World) : Prop :=
  (r.1 = 0 ∧ r.2.wifiConnectLock = true) ∨ (r.1 = -1 ∧ r.2.wifiConnectLock = false)

theorem settled_exits {fail : World → Int × World} {env : Env} {l : List Line} {w : World}
    (hfail : ∀ w, Settled (fail w)) (hl : ∀ st ∈ l, IsLine st) (hw : w.wifiConnectLock = true) :
    Settled (exits fail (run (machine env) l w)) := by
  have hlock : (run (machine env) l w).2.wifiConnectLock = w.wifiConnectLock := by
    have hrest := congrArg World.wifiConnectLock (run_rest env hl w)
    exact hrest
  cases hrun : run (machine env) l w with
  | mk r t =>
    rw [hrun] at hlock
    cases r with
    | none => exact .inl ⟨rfl, hlock.trans hw⟩
    | some err => exact hfail t

theorem settled_connectFail (w : World) : Settled (connectFail w) := .inr ⟨rfl, rfl⟩

theorem settled_existFail (w : World) : Settled (existFail w) := .inr ⟨rfl, rfl⟩

theorem settled_connectSaved (env : Env) (id : Int) (text : List UInt8) {w : World}
    (hw : w.wifiConnectLock = true) : Settled (connectSaved env id text w) := by
  rw [connectSaved_eq]
  refine settled_exits settled_existFail (savedScript_isLine env w id) ?_
  rw [announce_eq]
  exact hw

theorem settled_connect1 (env : Env) (ssid psk : List UInt8) (encryp : KeyMgmt) {w : World}
    (hw : w.wifiConnectLock = true) : Settled (rkWifiConnect1 env ssid psk encryp w) := by
  rw [connect1_eq]
  split_ifs
  · exact settled_connectFail _
  · refine settled_exits settled_connectFail (connectScript_isLine _ _ _ _ _ _) ?_
    rw [started_eq]
    exact hw

theorem settled_body (env : Env) (call : Call) {w : World} (hw : w.wifiConnectLock = true) :
    Settled (call.body env w) := by
  cases call with
  | connect ssid psk keyMgmt bssid =>
    refine settled_connect1 env _ _ keyMgmt ?_
    rw [prepare_eq]
    exact hw
  | connectWithSsid ssid keyMgmt =>
    show Settled (connectWithSsidBody env ssid keyMgmt w)
    unfold connectWithSsidBody
    cases ssid with
    | none => exact settled_existFail _
    | some ssid =>
      simp only
      split_ifs
      · exact settled_existFail _
      · exact settled_connectSaved env _ ssid hw
  | connectWithBssid bssid =>
    show Settled (connectWithBssidBody env bssid w)
    unfold connectWithBssidBody
    cases bssid with
    | none => exact settled_existFail _
    | some bssid =>
      simp only
      split_ifs
      · exact settled_existFail _
      · exact settled_existFail _
      · exact settled_connectSaved env _ bssid hw

/-- Entering a call: it takes the free lock, or it returns without a trace, or it is
`RK_wifi_connect_with_bssid` leaving through its fail exit. -/
theorem enter_cases (call : Call) (w : World) :
    (call.enter w = .holds { w with wifiConnectLock := true } ∧ w.wifiConnectLock = false) ∨
      call.enter w = .returned w ∨
      ∃ bssid, call = .connectWithBssid bssid ∧ w.wifiConnectLock = true ∧
        call.enter w = .returned (existFail w).2 := by
  cases hlock : w.wifiConnectLock with
  | false =>
    cases call with
    | connect ssid psk keyMgmt bssid =>
      by_cases hargs : argsOk ssid psk keyMgmt = false
      · exact .inr (.inl (if_pos hargs))
      · refine .inl ⟨?_, rfl⟩
        show (if _ then _ else if w.wifiConnectLock then _ else _) = _
        rw [if_neg hargs, hlock]
        rfl
    | connectWithSsid ssid keyMgmt =>
      refine .inl ⟨?_, rfl⟩
      show (if w.wifiConnectLock then _ else _) = _
      rw [hlock]
      rfl
    | connectWithBssid bssid =>
      refine .inl ⟨?_, rfl⟩
      show (if w.wifiConnectLock then _ else _) = _
      rw [hlock]
      rfl
  | true =>
    cases call with
    | connect ssid psk keyMgmt bssid =>
      refine .inr (.inl ?_)
      show (if _ then _ else if w.wifiConnectLock then _ else _) = _
      rw [if_pos hlock, ite_self]
    | connectWithSsid ssid keyMgmt => exact .inr (.inl (if_pos hlock))
    | connectWithBssid bssid => exact .inr (.inr ⟨bssid, rfl, rfl, if_pos hlock⟩)

/-! ## Callers and threads -/

/-- The variables, the calls that hold the lock, and the running state checks with the
network each of them waits for. -/
structure Running where
  world : World
  calling : List Call
  threads : List Int
  deriving DecidableEq

/-- The attempts in progress. -/
def Running.attempts (s : Running) : Nat := s.calling.length + s.threads.length

/-- What can happen: a call gets in, returns, or its thread ends. -/
inductive Move
  | enter (call : Call)
  | finish (call : Call) (env : Env)
  | stop (id : Int) (env : Env) (ending : Ending)

/-- The state after a move, if the move is possible. -/
def Running.next (s : Running) : Move → Option Running
  | .enter call =>
    match call.enter s.world with
    | .returned w => some { s with world := w }
    | .holds w => some { s with world := w, calling := call :: s.calling }
  | .finish call env =>
    if call ∈ s.calling then
      let r := call.body env s.world
      some
        { world := r.2
          calling := s.calling.erase call
          threads := if r.1 = 0 then r.2.connectingId :: s.threads else s.threads }
    else none
  | .stop id env ending =>
    if id ∈ s.threads then
      some { s with
        world := wifiConnectStateCheck env ending id s.world
        threads := s.threads.erase id }
    else none

/-- Before the first call. -/
structure Running.Boot (s : Running) : Prop where
  lock : s.world.wifiConnectLock = false
  isExist : s.world.wifiIsExist = false
  calling : s.calling = []
  threads : s.threads = []

/-- The component, from the start of the program. -/
def lockSystem : System Running Move where
  init := Running.Boot
  step s move t := s.next move = some t

/-- `RK_wifi_connect_with_bssid` is not called while the lock is held. -/
def BssidCallsFree (s : Running) (move : Move) : Prop :=
  ∀ bssid, move = .enter (.connectWithBssid bssid) → s.world.wifiConnectLock = false

/-- At most one attempt, exactly one while the lock is held, and a call that finds the lock
held changes nothing. The calls considered are those `ok` allows. -/
structure OneAttempt (ok : Running → Move → Prop) (s : Running) : Prop where
  atMostOne : s.attempts ≤ 1
  locked : s.world.wifiConnectLock = true → s.attempts = 1
  rejected : ∀ call t, ok s (.enter call) → s.world.wifiConnectLock = true →
    s.next (.enter call) = some t →
      t.world.wifiConnectLock = s.world.wifiConnectLock ∧
        t.world.wifiIsExist = s.world.wifiIsExist ∧
        t.calling = s.calling ∧ t.threads = s.threads

/-- The lock is held by the one attempt there is. -/
def LockInv (s : Running) : Prop :=
  (s.world.wifiConnectLock = true ∧ s.attempts = 1) ∨
    (s.world.wifiConnectLock = false ∧ s.attempts = 0)

theorem lockInv_enter {s t : Running} {call : Call} (hs : LockInv s)
    (hok : BssidCallsFree s (.enter call)) (h : s.next (.enter call) = some t) : LockInv t := by
  rw [Running.next] at h
  rcases enter_cases call s.world with ⟨hcall, hfree⟩ | hcall | ⟨bssid, rfl, hheld, -⟩
  · rw [hcall] at h
    obtain rfl := Option.some.inj h
    rcases hs with ⟨hheld, -⟩ | ⟨-, hnone⟩
    · rw [hfree] at hheld
      cases hheld
    · refine .inl ⟨rfl, ?_⟩
      show s.calling.length + 1 + s.threads.length = 1
      unfold Running.attempts at hnone
      omega
  · rw [hcall] at h
    obtain rfl := Option.some.inj h
    exact hs
  · rw [hok bssid rfl] at hheld
    cases hheld

/-- The attempt whose call or thread ends is the only one. -/
theorem lockInv_busy {s : Running} (hs : LockInv s) (h : 0 < s.attempts) :
    s.world.wifiConnectLock = true ∧ s.attempts = 1 := by
  rcases hs with hheld | ⟨-, hnone⟩
  · exact hheld
  · omega

theorem lockInv_finish {s t : Running} {call : Call} {env : Env} (hs : LockInv s)
    (h : s.next (.finish call env) = some t) : LockInv t := by
  rw [Running.next] at h
  split_ifs at h with hmem
  obtain rfl := Option.some.inj h
  have hpos := List.length_pos_of_mem hmem
  obtain ⟨hlock, hone⟩ := lockInv_busy hs (by unfold Running.attempts; omega)
  unfold Running.attempts at hone
  have herase := List.length_erase_of_mem hmem
  rcases settled_body env call hlock with ⟨hret, hheld⟩ | ⟨hret, hfree⟩
  · refine .inl ⟨hheld, ?_⟩
    show (s.calling.erase call).length + (if _ = 0 then _ else _ : List Int).length = 1
    rw [if_pos hret, List.length_cons]
    omega
  · refine .inr ⟨hfree, ?_⟩
    show (s.calling.erase call).length + (if _ = 0 then _ else _ : List Int).length = 0
    rw [if_neg (by rw [hret]; decide)]
    omega

theorem lockInv_stop {s t : Running} {id : Int} {env : Env} {ending : Ending} (hs : LockInv s)
    (h : s.next (.stop id env ending) = some t) : LockInv t := by
  rw [Running.next] at h
  split_ifs at h with hmem
  obtain rfl := Option.some.inj h
  have hpos := List.length_pos_of_mem hmem
  obtain ⟨-, hone⟩ := lockInv_busy hs (by unfold Running.attempts; omega)
  unfold Running.attempts at hone
  have herase := List.length_erase_of_mem hmem
  refine .inr ⟨by rw [stateCheck_eq], ?_⟩
  show s.calling.length + (s.threads.erase id).length = 0
  omega

theorem lockInv_reach {s : Running} (h : Reach lockSystem BssidCallsFree s) : LockInv s := by
  refine h.invariant (fun s hs => ?_) fun s move t hs hok hstep => ?_
  · refine .inr ⟨hs.lock, ?_⟩
    unfold Running.attempts
    rw [hs.calling, hs.threads]
    rfl
  · cases move with
    | enter call => exact lockInv_enter hs hok hstep
    | finish call env => exact lockInv_finish hs hstep
    | stop id env ending => exact lockInv_stop hs hstep

/-- **One attempt.** In every run in which `RK_wifi_connect_with_bssid` is only called while
the lock is free, at most one attempt is in progress. -/
theorem one_attempt {s : Running} (h : Reach lockSystem BssidCallsFree s) :
    OneAttempt BssidCallsFree s := by
  have hinv := lockInv_reach h
  refine ⟨?_, ?_, ?_⟩
  · rcases hinv with ⟨-, h⟩ | ⟨-, h⟩ <;> omega
  · intro hheld
    rcases hinv with ⟨-, h⟩ | ⟨hfree, -⟩
    · exact h
    · rw [hfree] at hheld
      cases hheld
  · intro call t hok hheld hnext
    rw [Running.next] at hnext
    rcases enter_cases call s.world with ⟨-, hfree⟩ | hcall | ⟨bssid, rfl, -, -⟩
    · rw [hfree] at hheld
      cases hheld
    · rw [hcall] at hnext
      obtain rfl := Option.some.inj hnext
      exact ⟨rfl, rfl, rfl, rfl⟩
    · rw [hok bssid rfl] at hheld
      cases hheld

/-- Before the first call, with an empty table. -/
def Running.start : Running := ⟨World.boot, [], []⟩

/-- A call of `RK_wifi_connect` for an open network. -/
def openCall : Call := .connect (some (chars "cafe")) none .none none

theorem one_attempt_openCall :
    OneAttempt BssidCallsFree ⟨{ World.boot with wifiConnectLock := true }, [openCall], []⟩ := by
  refine one_attempt (.next (.start ⟨rfl, rfl, rfl, rfl⟩) ?_
    (show Running.start.next (.enter openCall) = _ from rfl))
  intro bssid h
  cases h

/-- A rejected `RK_wifi_connect_with_bssid` lets a second attempt start. -/
theorem attempts_overlap : ¬ ∀ s, Reach lockSystem (fun _ _ => True) s →
    OneAttempt (fun _ _ => True) s := by
  intro h
  have hstart : Reach lockSystem (fun _ _ => True) Running.start := .start ⟨rfl, rfl, rfl, rfl⟩
  have hrun : ([.enter openCall, .finish openCall .allOk, .enter (.connectWithBssid none),
      .enter openCall].foldlM Running.next Running.start).map Running.attempts = some 2 := by
    decide
  obtain ⟨s, hs, htwo⟩ := Option.map_eq_some_iff.mp hrun
  have hreach := hstart.of_foldlM (fun s move t h => ⟨trivial, h⟩) hs
  have := (h s hreach).atMostOne
  omega

end ConnectApp.Wifi
