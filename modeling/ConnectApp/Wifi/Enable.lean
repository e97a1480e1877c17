import ConnectApp.Lib.Transition
import ConnectApp.Wifi.MonitorLoop

/-!
# Switching Wi-Fi on and off (Rk_wifi.c:1125-1232, 2832-2890, 3019-3055)

`RK_wifi_enable(1)` starts wpa_supplicant and a thread `RK_wifi_start_monitor`;
`RK_wifi_enable(0)` clears `wifi_onoff_flag`, waits some time for the thread to set
`wpa_exit`, and stops wpa_supplicant. Both decide from `gstate` and from the list of
processes whether there is anything to do, not from the thread.

`radioSystem` has the steps of one caller, of the monitor threads, and the exit of
wpa_supplicant on its own. What a function does between two commands or pauses is one step. A
monitor that cannot connect calls `RK_wifi_enable(0)` itself, and the caller goes on beside it.

`one_monitor` is about the runs in which wpa_supplicant stays up once it has been started, every
monitor connects to it, Wi-Fi is switched off only once the monitor is in its loop, and the wait is
long enough. `monitors_pile_up` is a run in which wpa_supplicant exits. A thread's test and wait
are one turn of the loop of `MonitorLoop` (`turn_steps`).
-/

namespace ConnectApp.Wifi

open Transition

/-- Where a call of `RK_wifi_enable(0)` is: before its test, saving the configuration, in its wait
with `cnt` rounds to go, before `killall -15`, behind it with `gstate` still as it was, before the
report, or behind that. -/
inductive ClosePc
  | test
  | save
  | wait (cnt : Nat)
  | kill
  | settle
  | report
  | finish
  deriving DecidableEq

/-- Where a monitor thread is: before `wpa_exit = false`, connecting to wpa_supplicant, in
the `RK_wifi_enable(0)` of its own when that fails, at the test of the loop, waiting for an
event, or on the way to the test after it has set `wpa_exit`. -/
inductive MonitorPc
  | created
  | connecting
  | aborting (pc : ClosePc)
  | testing
  | waiting
  | leaving
  deriving DecidableEq

/-- Where the caller of `RK_wifi_enable` is: outside, before wpa_supplicant is started, before
`gstate` is set, before `pthread_create`, or in `RK_wifi_enable(0)`. -/
inductive EnablePc
  | idle
  | starting
  | opening
  | creating
  | closing (pc : ClosePc)
  deriving DecidableEq

/-- `monitors` are the threads that have not left their loop, and `off` says that
`RK_wifi_enable(0)` has reported `RK_WIFI_State_OFF` and `RK_wifi_enable(1)` has not been
called since. -/
structure Radio where
  gstate : RunningState
  onoff : Bool
  wpaExit : Bool
  supplicant : Bool
  caller : EnablePc
  monitors : List MonitorPc
  off : Bool
  deriving DecidableEq

/-- `is_wifi_enable` (Rk_wifi.c:1125-1137). -/
def Radio.isWifiEnable (s : Radio) : Bool := decide (s.gstate = .opened) && s.supplicant

/-- A step of `RK_wifi_enable(0)` (Rk_wifi.c:1196-1230); `none` is its end. `ends` says whether
`killall -15` ends wpa_supplicant, otherwise `killall -9` does. -/
def Radio.closeStep (s : Radio) (ends : Bool) : ClosePc → Option ClosePc × Radio
  | .test => (if s.isWifiEnable then some .save else none, s)
  | .save => (some (.wait 50), { s with onoff := false })
  | .wait cnt =>
    if s.wpaExit then (some .kill, s)
    else
      match cnt with
      | 0 => (some .kill, s)
      | cnt + 1 => (some (.wait cnt), s)
  | .kill => (some .settle, { s with supplicant := s.supplicant && !ends })
  | .settle => (some .report, { s with gstate := .off })
  | .report => (some .finish, { s with off := true })
  | .finish => (none, { s with supplicant := false })

/-- The steps; the flags are the outcomes of what the caller and a monitor try. -/
inductive RadioMove
  | enable (on : Bool)
  | caller (succeeds : Bool)
  | monitor (i : Nat) (succeeds : Bool)
  | supplicantExits

/-- A step of the caller behind its call (Rk_wifi.c:1152-1230); `succeeds` is the outcome of
`pthread_create` or of `killall -15`. -/
def Radio.callerNext (s : Radio) (succeeds : Bool) : Option Radio :=
  match s.caller with
  | .idle => none
  | .starting => some { s with supplicant := true, caller := .opening }
  | .opening => some { s with gstate := .opened, caller := .creating }
  | .creating =>
    if succeeds then some { s with caller := .idle, monitors := s.monitors ++ [.created] }
    else some { s with gstate := .off, onoff := false, caller := .idle }
  | .closing pc =>
    match s.closeStep succeeds pc with
    | (some pc, s) => some { s with caller := .closing pc }
    | (none, s) => some { s with caller := .idle }

/-- A step of monitor `i` (Rk_wifi.c:3019-3055). `succeeds` says whether it connects to
wpa_supplicant, which has to run for that, and whether its wait ends with a look at
`wifi_onoff_flag`. -/
def Radio.monitorNext (s : Radio) (i : Nat) (succeeds : Bool) : Option Radio :=
  match s.monitors[i]? with
  | none => none
  | some .created => some { s with wpaExit := false, monitors := s.monitors.set i .connecting }
  | some .connecting =>
    if succeeds && s.supplicant then some { s with monitors := s.monitors.set i .testing }
    else some { s with wpaExit := true, monitors := s.monitors.set i (.aborting .test) }
  | some (.aborting pc) =>
    match s.closeStep succeeds pc with
    | (some pc, s) => some { s with monitors := s.monitors.set i (.aborting pc) }
    | (none, s) => some { s with monitors := s.monitors.eraseIdx i }
  | some .testing =>
    if s.wpaExit then some { s with monitors := s.monitors.eraseIdx i }
    else some { s with monitors := s.monitors.set i .waiting }
  | some .waiting =>
    if succeeds && !s.onoff then
      some { s with wpaExit := true, monitors := s.monitors.set i .leaving }
    else some { s with monitors := s.monitors.set i .testing }
  | some .leaving =>
    if s.wpaExit then some { s with monitors := s.monitors.eraseIdx i }
    else some { s with monitors := s.monitors.set i .waiting }

/-- A step of anybody. -/
def Radio.next (s : Radio) : RadioMove → Option Radio
  | .enable true =>
    if s.caller = .idle then
      if s.isWifiEnable then some { s with off := false }
      else some { s with onoff := true, caller := .starting, off := false }
    else none
  | .enable false => if s.caller = .idle then some { s with caller := .closing .test } else none
  | .caller succeeds => s.callerNext succeeds
  | .monitor i succeeds => s.monitorNext i succeeds
  | .supplicantExits => some { s with supplicant := false }

/-- The variables before the first call; `wifi_onoff_flag` starts as -1. -/
def Radio.start : Radio := ⟨.off, true, false, false, .idle, [], false⟩

/-- The system of the caller, the monitors and wpa_supplicant. -/
def radioSystem : System Radio RadioMove where
  init s := s = .start
  step s move t := s.next move = some t

/-- There is at most one monitor, and none once Wi-Fi is reported off. -/
structure OneMonitor (s : Radio) : Prop where
  atMostOne : s.monitors.length ≤ 1
  off : s.off = true → s.monitors = []

/-- A monitor that has got to its loop. -/
def MonitorPc.inLoop : MonitorPc → Bool
  | .testing => true
  | .waiting => true
  | .leaving => true
  | _ => false

/-- What keeps the monitors apart: Wi-Fi is switched off only once the monitor is in its loop; the
wait does not time out, and before the report a monitor that has set `wpa_exit` has had the time to
leave its loop; every monitor connects; and wpa_supplicant stays up from its start on. -/
def Orderly (s : Radio) : RadioMove → Prop
  | .enable on => on = false → ∀ pc ∈ s.monitors, pc.inLoop = true
  | .caller _ => (s.caller = .closing (.wait 0) → s.wpaExit = true) ∧
      (s.caller = .closing .report → MonitorPc.leaving ∉ s.monitors)
  | .monitor i succeeds => s.monitors[i]? = some .connecting → succeeds = true
  | .supplicantExits => s.gstate ≠ .opened ∧ s.caller ≠ .opening

instance (s : Radio) (move : RadioMove) : Decidable (Orderly s move) := by
  cases move <;> (rw [Orderly]; infer_instance)

/-! ## The invariant -/

/-- A monitor while Wi-Fi is on and nobody switches it off, with the two flags it reads. -/
inductive Working (onoff wpaExit : Bool) : MonitorPc → Prop
  | created : onoff = true → Working onoff wpaExit .created
  | connecting : onoff = true → wpaExit = false → Working onoff wpaExit .connecting
  | testing : onoff = true → wpaExit = false → Working onoff wpaExit .testing
  | waiting : onoff = true → wpaExit = false → Working onoff wpaExit .waiting

/-- The monitors while Wi-Fi is switched off: the one there is has not looked at
`wifi_onoff_flag` yet, or it has set `wpa_exit`, or it has left. -/
inductive Stopping (wpaExit : Bool) : List MonitorPc → Prop
  | testing : wpaExit = false → Stopping wpaExit [.testing]
  | waiting : wpaExit = false → Stopping wpaExit [.waiting]
  | leaving : wpaExit = true → Stopping wpaExit [.leaving]
  | left : wpaExit = true → Stopping wpaExit []

/-- Which monitor there is, by what the caller is doing. -/
inductive RadioInv (s : Radio) : Prop
  | isOff (pc : EnablePc) : s.caller = pc →
      pc ∈ [.idle, .starting, .closing .test, .closing .finish] → s.gstate ≠ .opened →
      s.monitors = [] → (pc = .starting → s.onoff = true ∧ s.off = false) → RadioInv s
  | opening : s.caller = .opening ∧ s.gstate ≠ .opened ∨ s.caller = .creating ∧ s.gstate = .opened →
      s.supplicant = true → s.monitors = [] → s.onoff = true → s.off = false → RadioInv s
  | isOn (pc : MonitorPc) : s.caller = .idle → s.gstate = .opened → s.supplicant = true →
      s.monitors = [pc] → s.off = false → Working s.onoff s.wpaExit pc → RadioInv s
  | called (pc : MonitorPc) : s.caller = .closing .test ∨ s.caller = .closing .save →
      s.gstate = .opened → s.supplicant = true → s.monitors = [pc] → s.off = false →
      pc.inLoop = true → Working s.onoff s.wpaExit pc → RadioInv s
  | closing (cnt : Nat) : s.caller = .closing (.wait cnt) → s.off = false →
      Stopping s.wpaExit s.monitors → RadioInv s
  | killing (pc : ClosePc) : s.caller = .closing pc → pc ∈ [.kill, .settle, .report] →
      (pc = .report → s.gstate ≠ .opened) → s.wpaExit = true → s.off = false →
      Stopping s.wpaExit s.monitors → RadioInv s

/-! ## One step -/

/-- Without a monitor and with Wi-Fi off, outside the functions. -/
theorem RadioInv.idle_off {s : Radio} (hcaller : s.caller = .idle) (hstate : s.gstate ≠ .opened)
    (hmon : s.monitors = []) : RadioInv s := by
  refine .isOff .idle hcaller (by decide) hstate hmon ?_
  rintro ⟨⟩

/-- `gstate` when Wi-Fi has been switched off. -/
theorem off_ne_opened : RunningState.off ≠ .opened := by decide

/-- Wi-Fi is on. -/
theorem isWifiEnable_opened {s : Radio} (hstate : s.gstate = .opened) (hsup : s.supplicant = true) :
    s.isWifiEnable = true := by
  rw [Radio.isWifiEnable, hstate, hsup]
  rfl

/-- Wi-Fi is off, whatever the list of processes says. -/
theorem isWifiEnable_off {s : Radio} (hstate : s.gstate ≠ .opened) : s.isWifiEnable = false := by
  rw [Radio.isWifiEnable, decide_eq_false hstate, Bool.false_and]

/-- Only with Wi-Fi on or off can the caller be outside. -/
theorem RadioInv.of_idle {s : Radio} (hs : RadioInv s) (hidle : s.caller = .idle) :
    (s.gstate ≠ .opened ∧ s.monitors = []) ∨ ∃ pc, s.gstate = .opened ∧ s.supplicant = true ∧
      s.monitors = [pc] ∧ s.off = false ∧ Working s.onoff s.wpaExit pc := by
  cases hs with
  | isOff pc _ _ hstate hmon => exact .inl ⟨hstate, hmon⟩
  | opening hpc => rcases hpc with ⟨hpc, -⟩ | ⟨hpc, -⟩ <;> cases hidle.symm.trans hpc
  | isOn pc _ hstate hsup hmon hoff hwork => exact .inr ⟨pc, hstate, hsup, hmon, hoff, hwork⟩
  | called pc hpc => rcases hpc with hpc | hpc <;> cases hidle.symm.trans hpc
  | closing cnt hpc => cases hidle.symm.trans hpc
  | killing pc hpc => cases hidle.symm.trans hpc

/-- A call of one of the functions. -/
theorem radioInv_enable {s t : Radio} {on : Bool} (hs : RadioInv s) (hok : Orderly s (.enable on))
    (h : s.next (.enable on) = some t) : RadioInv t := by
  cases on with
  | true =>
    rw [Radio.next] at h
    split_ifs at h with hidle henabled
    · obtain rfl := Option.some.inj h
      rcases hs.of_idle hidle with ⟨hstate, -⟩ | ⟨pc, hstate, hsup, hmon, -, hwork⟩
      · cases (isWifiEnable_off hstate).symm.trans henabled
      · exact .isOn pc hidle hstate hsup hmon rfl hwork
    · obtain rfl := Option.some.inj h
      rcases hs.of_idle hidle with ⟨hstate, hmon⟩ | ⟨pc, hstate, hsup, -⟩
      · exact .isOff .starting rfl (by decide) hstate hmon fun _ => ⟨rfl, rfl⟩
      · exact absurd (isWifiEnable_opened hstate hsup) henabled
  | false =>
    rw [Radio.next] at h
    split_ifs at h with hidle
    obtain rfl := Option.some.inj h
    rcases hs.of_idle hidle with ⟨hstate, hmon⟩ | ⟨pc, hstate, hsup, hmon, hoff, hwork⟩
    · refine .isOff (.closing .test) rfl (by decide) hstate hmon ?_
      rintro ⟨⟩
    · have hloop : pc.inLoop = true := hok rfl pc (by rw [hmon]; exact List.mem_singleton_self _)
      exact .called pc (.inl rfl) hstate hsup hmon hoff hloop hwork

/-- When the wait is over, the monitor is on its last way or has left. -/
theorem Stopping.eq_nil {monitors : List MonitorPc} (h : Stopping true monitors)
    (hgone : MonitorPc.leaving ∉ monitors) : monitors = [] := by
  cases h with
  | testing hclear => cases hclear
  | waiting hclear => cases hclear
  | leaving => exact absurd (List.mem_singleton_self _) hgone
  | left => rfl

/-- A step of the caller. -/
theorem radioInv_caller {s t : Radio} {b : Bool} (hs : RadioInv s) (hok : Orderly s (.caller b))
    (h : s.callerNext b = some t) : RadioInv t := by
  rw [Radio.callerNext] at h
  cases hs with
  | isOff pc hpc hmem hstate hmon hstart =>
    simp only [List.mem_cons, List.not_mem_nil, or_false] at hmem
    rcases hmem with rfl | rfl | rfl | rfl
    · rw [hpc] at h
      cases h
    · obtain ⟨hon, hoff⟩ := hstart rfl
      simp only [hpc] at h
      obtain rfl := Option.some.inj h
      exact .opening (.inl ⟨rfl, hstate⟩) rfl hmon hon hoff
    · -- there is nothing to switch off
      simp only [hpc, Radio.closeStep, isWifiEnable_off hstate] at h
      obtain rfl := Option.some.inj h
      exact .idle_off rfl hstate hmon
    · simp only [hpc, Radio.closeStep] at h
      obtain rfl := Option.some.inj h
      exact .idle_off rfl hstate hmon
  | opening hpc hsup hmon hon hoff =>
    rcases hpc with ⟨hpc, -⟩ | ⟨hpc, hstate⟩
    · simp only [hpc] at h
      obtain rfl := Option.some.inj h
      exact .opening (.inr ⟨rfl, rfl⟩) hsup hmon hon hoff
    · simp only [hpc, hmon] at h
      split_ifs at h
      · obtain rfl := Option.some.inj h
        exact .isOn .created rfl hstate hsup rfl hoff (.created hon)
      · obtain rfl := Option.some.inj h
        exact .idle_off rfl off_ne_opened rfl
  | isOn pc hpc =>
    rw [hpc] at h
    cases h
  | called pc hpc hstate hsup hmon hoff hloop hwork =>
    rcases hpc with hpc | hpc
    · simp only [hpc, Radio.closeStep, isWifiEnable_opened hstate hsup] at h
      obtain rfl := Option.some.inj h
      exact .called pc (.inr rfl) hstate hsup hmon hoff hloop hwork
    · simp only [hpc, Radio.closeStep] at h
      obtain rfl := Option.some.inj h
      refine .closing 50 rfl hoff ?_
      show Stopping s.wpaExit s.monitors
      rw [hmon]
      cases hwork with
      | created => cases hloop
      | connecting => cases hloop
      | testing _ hexit => exact .testing hexit
      | waiting _ hexit => exact .waiting hexit
  | closing cnt hpc hoff hstop =>
    cases hexit : s.wpaExit with
    | true =>
      rw [hexit] at hstop
      simp only [hpc, Radio.closeStep, hexit, if_true] at h
      obtain rfl := Option.some.inj h
      exact .killing .kill rfl (by decide) nofun rfl hoff hstop
    | false =>
      cases cnt with
      | zero => cases hexit.symm.trans (hok.1 hpc)
      | succ cnt =>
        simp only [hpc, Radio.closeStep, hexit] at h
        obtain rfl := Option.some.inj h
        exact .closing cnt rfl hoff hstop
  | killing pc hpc hmem hstate hexit hoff hstop =>
    simp only [List.mem_cons, List.not_mem_nil, or_false] at hmem
    -- `killall`, then `gstate`, then the report
    rcases hmem with rfl | rfl | rfl
    · simp only [hpc, Radio.closeStep] at h
      obtain rfl := Option.some.inj h
      exact .killing .settle rfl (by decide) nofun hexit hoff hstop
    · simp only [hpc, Radio.closeStep] at h
      obtain rfl := Option.some.inj h
      exact .killing .report rfl (by decide) (fun _ => off_ne_opened) hexit hoff hstop
    · -- the monitor has had its time
      have hmon : s.monitors = [] := (hexit ▸ hstop).eq_nil (hok.2 hpc)
      simp only [hpc, Radio.closeStep] at h
      obtain rfl := Option.some.inj h
      exact .isOff (.closing .finish) rfl (by decide) (hstate rfl) hmon (by rintro ⟨⟩)

/-- A step of a monitor in its loop while `wifi_onoff_flag` is set: it stays in the loop. -/
theorem monitorNext_inLoop {s t : Radio} {pc : MonitorPc} {i : Nat} {b : Bool}
    (hmon : s.monitors = [pc]) (hloop : pc.inLoop = true) (hwork : Working s.onoff s.wpaExit pc)
    (h : s.monitorNext i b = some t) :
    ∃ pc', t = { s with monitors := [pc'] } ∧ pc'.inLoop = true ∧
      Working s.onoff s.wpaExit pc' := by
  rw [Radio.monitorNext, hmon] at h
  cases i with
  | succ i => cases h
  | zero =>
    cases hwork with
    | created => cases hloop
    | connecting => cases hloop
    | testing hon hexit =>
      simp only [List.getElem?_cons_zero] at h
      rw [if_neg (by rw [hexit]; decide)] at h
      exact ⟨.waiting, (Option.some.inj h).symm, rfl, .waiting hon hexit⟩
    | waiting hon hexit =>
      simp only [List.getElem?_cons_zero] at h
      rw [if_neg (by rw [hon, Bool.not_true, Bool.and_false]; decide)] at h
      exact ⟨.testing, (Option.some.inj h).symm, rfl, .testing hon hexit⟩

/-- A step of the one monitor while Wi-Fi is on; it does not fail to connect. -/
theorem radioInv_working {s t : Radio} {pc : MonitorPc} {i : Nat} {b : Bool}
    (hcaller : s.caller = .idle) (hstate : s.gstate = .opened) (hsup : s.supplicant = true)
    (hmon : s.monitors = [pc]) (hoff : s.off = false) (hwork : Working s.onoff s.wpaExit pc)
    (hok : Orderly s (.monitor i b)) (h : s.monitorNext i b = some t) : RadioInv t := by
  cases hloop : pc.inLoop with
  | true =>
    obtain ⟨pc', rfl, -, hwork'⟩ := monitorNext_inLoop hmon hloop hwork h
    exact .isOn pc' hcaller hstate hsup rfl hoff hwork'
  | false =>
    rw [Orderly, hmon] at hok
    rw [Radio.monitorNext, hmon] at h
    cases i with
    | succ i => cases h
    | zero =>
      cases hwork with
      | testing => cases hloop
      | waiting => cases hloop
      | created hon =>
        obtain rfl := Option.some.inj h
        exact .isOn .connecting hcaller hstate hsup rfl hoff (.connecting hon rfl)
      | connecting hon hexit =>
        obtain rfl := hok rfl
        simp only [List.getElem?_cons_zero] at h
        rw [if_pos (by rw [hsup]; rfl)] at h
        obtain rfl := Option.some.inj h
        exact .isOn .testing hcaller hstate hsup rfl hoff (.testing hon hexit)

/-- A step of the monitor while Wi-Fi is switched off. -/
theorem monitorNext_stopping {s t : Radio} {i : Nat} {b : Bool}
    (hstop : Stopping s.wpaExit s.monitors) (h : s.monitorNext i b = some t) :
    ∃ exit monitors, t = { s with wpaExit := exit, monitors := monitors } ∧
      (s.wpaExit = true → exit = true) ∧ Stopping exit monitors := by
  rw [Radio.monitorNext] at h
  generalize s.monitors = old at h hstop
  cases i with
  | succ i => cases hstop <;> cases h
  | zero =>
    cases hstop with
    | left => cases h
    | testing hexit =>
      simp only [List.getElem?_cons_zero] at h
      rw [if_neg (by rw [hexit]; decide)] at h
      exact ⟨s.wpaExit, [.waiting], (Option.some.inj h).symm, id, .waiting hexit⟩
    | waiting hexit =>
      simp only [List.getElem?_cons_zero] at h
      split_ifs at h
      · exact ⟨true, [.leaving], (Option.some.inj h).symm, fun _ => rfl, .leaving rfl⟩
      · exact ⟨s.wpaExit, [.testing], (Option.some.inj h).symm, id, .testing hexit⟩
    | leaving hexit =>
      simp only [List.getElem?_cons_zero] at h
      rw [if_pos hexit] at h
      exact ⟨s.wpaExit, [], (Option.some.inj h).symm, id, .left hexit⟩

/-- Without monitors there is no step of one. -/
theorem monitorNext_nil {s t : Radio} {i : Nat} {b : Bool} (hmon : s.monitors = [])
    (h : s.monitorNext i b = some t) : RadioInv t := by
  rw [Radio.monitorNext, hmon] at h
  cases h

/-- A step of a monitor. -/
theorem radioInv_monitor {s t : Radio} {i : Nat} {b : Bool} (hs : RadioInv s)
    (hok : Orderly s (.monitor i b)) (h : s.monitorNext i b = some t) : RadioInv t := by
  cases hs with
  | isOff _ _ _ _ hmon => exact monitorNext_nil hmon h
  | opening _ _ hmon => exact monitorNext_nil hmon h
  | isOn pc hcaller hstate hsup hmon hoff hwork =>
    exact radioInv_working hcaller hstate hsup hmon hoff hwork hok h
  | called pc hpc hstate hsup hmon hoff hloop hwork =>
    obtain ⟨pc', rfl, hloop', hwork'⟩ := monitorNext_inLoop hmon hloop hwork h
    exact .called pc' hpc hstate hsup rfl hoff hloop' hwork'
  | closing cnt hpc hoff hstop =>
    obtain ⟨exit, monitors, rfl, -, hstop'⟩ := monitorNext_stopping hstop h
    exact .closing cnt hpc hoff hstop'
  | killing pc hpc hmem hstate hexit hoff hstop =>
    obtain ⟨exit, monitors, rfl, hkept, hstop'⟩ := monitorNext_stopping hstop h
    exact .killing pc hpc hmem hstate (hkept hexit) hoff hstop'

/-- wpa_supplicant exits while it is not needed. -/
theorem radioInv_exits {s : Radio} (hs : RadioInv s) (hok : Orderly s .supplicantExits) :
    RadioInv { s with supplicant := false } := by
  obtain ⟨hstate, hcaller⟩ := hok
  cases hs with
  | isOff pc hpc hmem _ hmon hstart => exact .isOff pc hpc hmem hstate hmon hstart
  | opening hpc =>
    rcases hpc with ⟨hpc, -⟩ | ⟨-, hopened⟩
    · exact absurd hpc hcaller
    · exact absurd hopened hstate
  | isOn pc _ hopened => exact absurd hopened hstate
  | called pc _ hopened => exact absurd hopened hstate
  | closing cnt hpc hoff hstop => exact .closing cnt hpc hoff hstop
  | killing pc hpc hmem hstate' hexit hoff hstop =>
    exact .killing pc hpc hmem hstate' hexit hoff hstop

/-! ## All runs -/

/-- Every orderly run keeps the invariant. -/
theorem radioInv_reach {s : Radio} (h : Reach radioSystem Orderly s) : RadioInv s := by
  refine h.invariant ?_ ?_
  · rintro s rfl
    exact .idle_off rfl off_ne_opened rfl
  · intro s move t hs hok hstep
    cases move with
    | enable on => exact radioInv_enable hs hok hstep
    | caller b => exact radioInv_caller hs hok hstep
    | monitor i b => exact radioInv_monitor hs hok hstep
    | supplicantExits =>
      obtain rfl := Option.some.inj hstep
      exact radioInv_exits hs hok

/-- A monitor that is being stopped is the only one. -/
theorem Stopping.length_le {exit : Bool} {monitors : List MonitorPc} (h : Stopping exit monitors) :
    monitors.length ≤ 1 := by
  cases h <;> decide

/-- **One monitor.** In every orderly run there is at most one monitor, and none from the
report that Wi-Fi is off to the next time it is switched on. -/
theorem one_monitor {s : Radio} (h : Reach radioSystem Orderly s) : OneMonitor s := by
  cases radioInv_reach h with
  | isOff _ _ _ _ hmon => exact ⟨by rw [hmon]; decide, fun _ => hmon⟩
  | opening _ _ hmon => exact ⟨by rw [hmon]; decide, fun _ => hmon⟩
  | isOn pc _ _ _ hmon hoff =>
    exact ⟨by rw [hmon]; exact Nat.le_refl 1, fun hset => by cases hoff.symm.trans hset⟩
  | called pc _ _ _ hmon hoff =>
    exact ⟨by rw [hmon]; exact Nat.le_refl 1, fun hset => by cases hoff.symm.trans hset⟩
  | closing cnt _ hoff hstop =>
    exact ⟨hstop.length_le, fun hset => by cases hoff.symm.trans hset⟩
  | killing pc _ _ _ _ hoff hstop =>
    exact ⟨hstop.length_le, fun hset => by cases hoff.symm.trans hset⟩

/-- Wi-Fi is switched on, and its monitor gets to its wait. -/
def switchOn : List RadioMove :=
  [.enable true, .caller true, .caller true, .caller true, .monitor 0 true, .monitor 0 true,
    .monitor 0 true]

/-- Wi-Fi is switched off; the monitor looks at the flag in the first round of the wait. -/
def switchOff : List RadioMove :=
  [.enable false, .caller true, .caller true, .caller true, .monitor 0 true, .monitor 0 true] ++
    List.replicate 5 (.caller true)

/-- On, off and on again: the report leaves no monitor, and the one there is then is the second. -/
theorem one_monitor_again :
    (∃ s, OneMonitor s ∧ s.off = true ∧ s.monitors = []) ∧
      ∃ s, OneMonitor s ∧ s.off = false ∧ s.monitors = [.waiting] := by
  have hoff : ((switchOn ++ switchOff).foldlM (guarded Radio.next Orderly) .start).map
      (fun s => (s.off, s.monitors)) = some (true, []) := by decide
  have hon : ((switchOn ++ switchOff ++ switchOn).foldlM (guarded Radio.next Orderly) .start).map
      (fun s => (s.off, s.monitors)) = some (false, [.waiting]) := by decide
  obtain ⟨s, hs, hval⟩ := Reach.of_guarded_run (S := radioSystem) (fun _ _ _ h => h) rfl hoff
  obtain ⟨s', hs', hval'⟩ := Reach.of_guarded_run (S := radioSystem) (fun _ _ _ h => h) rfl hon
  exact ⟨⟨s, one_monitor hs, Prod.mk.inj hval⟩, ⟨s', one_monitor hs', Prod.mk.inj hval'⟩⟩

/-- wpa_supplicant exits while Wi-Fi is on; switching Wi-Fi on again starts a second monitor
next to the first. -/
theorem monitors_pile_up :
    ¬ ∀ s, Reach radioSystem (fun _ _ => True) s → OneMonitor s := by
  intro h
  have hrun : ((switchOn ++ .supplicantExits :: switchOn).foldlM Radio.next .start).map
      (fun s => s.monitors.length) = some 2 := by decide
  obtain ⟨s, hs, htwo⟩ := Reach.of_run (S := radioSystem) (fun _ _ _ h => h) rfl hrun
  have hone := (h s hs).atMostOne
  omega

/-! ## The steps are the turns of the loop -/

/-- **A turn.** A turn of the loop, with nobody writing `wpa_exit` in between, is the step of
the test and, if that does not leave the loop, the step of the wait; the wait looks at
`wifi_onoff_flag` if `wifi_ctrl_recv` returns -4. -/
theorem turn_steps {turn : Turn} {m : Monitor} {p : Progress} {s : Radio}
    (h : monitorTurn turn m = some p) (hwrite : turn.write = none) (hexit : s.wpaExit = m.wpaExit)
    (hon : turn.recv.exits = true → s.onoff = false) (hconn : m.monitorConn = true)
    (hmon : s.monitors = [.testing]) :
    (∃ m', p = .left m' ∧ s.monitorNext 0 true = some { s with monitors := [] }) ∨
      ∃ m' t, p = .looping m' ∧
        (s.monitorNext 0 true).bind (fun s => s.monitorNext 0 turn.recv.exits) = some t ∧
        t.wpaExit = m'.wpaExit ∧
        t.monitors = [if turn.recv.exits then .leaving else .testing] := by
  have hkept : turn.write.getD m.wpaExit = s.wpaExit := by
    rw [hwrite, hexit]
    rfl
  rcases monitorTurn_cases h with ⟨hset, m', rfl⟩ | ⟨hclear, m', rfl, hnext, -, -⟩
  · rw [hkept] at hset
    refine .inl ⟨m', rfl, ?_⟩
    rw [Radio.monitorNext]
    simp only [hmon, List.getElem?_cons_zero]
    rw [if_pos hset]
    rfl
  · rw [hkept] at hclear
    have htest : s.monitorNext 0 true = some { s with monitors := [.waiting] } := by
      rw [Radio.monitorNext]
      simp only [hmon, List.getElem?_cons_zero]
      rw [if_neg (by rw [hclear]; decide)]
      rfl
    rw [hconn, Bool.true_and] at hnext
    rw [htest]
    cases hrecv : turn.recv.exits with
    | true =>
      refine .inr ⟨m', { s with wpaExit := true, monitors := [.leaving] }, rfl, ?_,
        (hnext.trans hrecv).symm, rfl⟩
      rw [Option.bind_some]
      rw [Radio.monitorNext]
      simp only [List.getElem?_cons_zero, hon hrecv]
      rfl
    | false =>
      exact .inr ⟨m', { s with monitors := [.testing] }, rfl, rfl,
        hclear.trans (hnext.trans hrecv).symm, rfl⟩

end ConnectApp.Wifi
