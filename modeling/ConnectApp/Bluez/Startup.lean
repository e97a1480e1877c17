import ConnectApp.Lib.Transition

/-!
# Switching Bluetooth on and off (bt_hal.c:54-68, 517-549, 565-682, a2dp_masterctrl.c:2154-2169)

`rk_bt_init` and `rk_bt_deinit` start a thread each. Whether Bluetooth is open is recorded in
the field `init` of the application's `RkBtContent` and in the process bluetoothd; that an
initialisation has been started, in `rk_bt_init_thread`. The last one is reset only by
`_rk_bt_deinit`: not when the initialisation fails, and not when bluetoothd exits.

`init_retriable_iff`: `rk_bt_init` can be retried in every state of a run exactly if every
initialisation succeeds and bluetoothd exits only after `rk_bt_deinit`. `failed_init_sticks`
is a run in which the vendor callback fails.
-/

namespace ConnectApp.Bluez

open Transition

/-- The variables of `bt_hal.c`. A content is a number; `init` is the field of that name of
each of them. `runs` counts the threads that ran `_rk_bt_init`. -/
structure Hal where
  rkBtInitThread : Bool := false
  content : Option Nat := none
  init : Nat → Bool
  bluetoothd : Bool
  mainLoopThread : Bool := false
  vendorCb : Bool
  runs : Nat := 0

/-- What happens during `_rk_bt_init`: whether bluetoothd is there at the start and at the end,
what the vendor callback returns, and whether `BT_OPENED` is set in time. -/
structure InitEnv where
  atStart : Bool
  vendor : Bool
  opened : Bool
  atEnd : Bool

/-- What happens during `_rk_bt_deinit`: whether the main loop can be joined, and whether
bluetoothd is there at the end. -/
structure DeinitEnv where
  joined : Bool
  atEnd : Bool

namespace Hal

/-- `bt_is_open` (bt_hal.c:54-68). -/
def btIsOpen (s : Hal) : Bool :=
  match s.content with
  | none => false
  | some c => s.init c && s.bluetoothd

/-- The assignment `g_rkbt_content->init = value`. -/
def setInit (s : Hal) (c : Nat) (value : Bool) : Hal :=
  { s with init := Function.update s.init c value }

/-- `bt_open` (a2dp_masterctrl.c:2154-2169). -/
def btOpen (e : InitEnv) : Int := if e.opened then 0 else -1

/-- `_rk_bt_init` (bt_hal.c:566-606). -/
def rkBtInitRun (s : Hal) (p : Nat) (e : InitEnv) : Hal :=
  let s := { s with content := some p, bluetoothd := e.atStart }
  if s.btIsOpen then { s.setInit p true with bluetoothd := e.atEnd }
  else
    let s := { s with mainLoopThread := true, bluetoothd := e.atEnd }
    if s.vendorCb && !e.vendor then s.setInit p false
    else if btOpen e < 0 then s.setInit p false
    else s.setInit p true

/-- `rk_bt_init` (bt_hal.c:609-628), with the thread it starts. -/
def rkBtInit (s : Hal) (p : Nat) (e : InitEnv) : Hal × Int :=
  if s.btIsOpen then (s, 0)
  else if s.rkBtInitThread then (s, 0)
  else ({ s with rkBtInitThread := true, runs := s.runs + 1 }.rkBtInitRun p e, 0)

/-- `rk_bt_deinit` (bt_hal.c:671-682), with the thread it starts (632-667). -/
def rkBtDeinit (s : Hal) (e : DeinitEnv) : Hal :=
  let s := { s with rkBtInitThread := false }
  match s.content with
  | none => s
  | some c =>
    if s.btIsOpen then
      { s.setInit c false with
        mainLoopThread := s.mainLoopThread && !e.joined
        bluetoothd := e.atEnd }
    else s

/-- `register_agent_reply` on success (agent.c:314-319). -/
def registerAgentReply (s : Hal) : Hal :=
  match s.content with
  | none => s
  | some c => s.setInit c true

end Hal

/-- The two calls, the start or the end of bluetoothd, and the answer to the registration of
the agent. -/
inductive HalMove
  | init (p : Nat) (e : InitEnv)
  | deinit (e : DeinitEnv)
  | bluetoothd (running : Bool)
  | agentRegistered

namespace Hal

/-- One move. -/
def next (s : Hal) : HalMove → Hal
  | .init p e => (s.rkBtInit p e).1
  | .deinit e => s.rkBtDeinit e
  | .bluetoothd running => { s with bluetoothd := running }
  | .agentRegistered => s.registerAgentReply

/-- With Bluetooth not open `rk_bt_init` starts an initialisation, and it returns 0 only if
Bluetooth is open or it has started one. -/
def Retriable (s : Hal) : Prop :=
  ∀ p e, (s.btIsOpen = false → (s.rkBtInit p e).1.runs = s.runs + 1) ∧
    ((s.rkBtInit p e).2 = 0 → s.btIsOpen = true ∨ (s.rkBtInit p e).1.runs = s.runs + 1)

/-- An initialisation succeeds and bluetoothd is there at its end; bluetoothd exits only when
no initialisation has been started since the last `rk_bt_deinit`. -/
def Lasting (s : Hal) : HalMove → Prop
  | .init p e =>
    s.btIsOpen = false →
      e.atEnd = true ∧
        (s.init p = true ∧ e.atStart = true ∨
          (s.vendorCb = true → e.vendor = true) ∧ e.opened = true)
  | .bluetoothd false => s.rkBtInitThread = false
  | _ => True

/-! ## What an initialisation leaves behind -/

/-- `_rk_bt_init` gets to `end:`. -/
def succeeds (s : Hal) (p : Nat) (e : InitEnv) : Bool :=
  s.init p && e.atStart || !(s.vendorCb && !e.vendor) && e.opened

theorem rkBtInitRun_eq (s : Hal) (p : Nat) (e : InitEnv) :
    s.rkBtInitRun p e =
      { s.setInit p (s.succeeds p e) with
        content := some p
        bluetoothd := e.atEnd
        mainLoopThread := s.mainLoopThread || !(s.init p && e.atStart) } := by
  have hstart : ({ s with content := some p, bluetoothd := e.atStart } : Hal).btIsOpen =
      (s.init p && e.atStart) := rfl
  rw [rkBtInitRun, hstart]
  by_cases hopen : (s.init p && e.atStart) = true
  · simp [setInit, succeeds, hopen]
  · -- the thread goes through the vendor callback and `bt_open`
    rw [Bool.not_eq_true] at hopen
    by_cases hvendor : (s.vendorCb && !e.vendor) = true
    · simp [setInit, succeeds, hopen, hvendor]
    · rw [Bool.not_eq_true] at hvendor
      cases hopened : e.opened <;> simp [setInit, succeeds, btOpen, hopen, hvendor, hopened]

theorem btIsOpen_rkBtInitRun (s : Hal) (p : Nat) (e : InitEnv) :
    (s.rkBtInitRun p e).btIsOpen = (s.succeeds p e && e.atEnd) := by
  rw [rkBtInitRun_eq]
  simp [btIsOpen, setInit]

/-- **Retrying.** What decides is whether the thread id is reset. -/
theorem retriable_iff (s : Hal) :
    s.Retriable ↔ (s.btIsOpen = false → s.rkBtInitThread = false) := by
  constructor
  · intro h hclosed
    by_contra hthread
    have hruns := (h 0 ⟨false, false, false, false⟩).1 hclosed
    rw [Bool.not_eq_false] at hthread
    simp [rkBtInit, hclosed, hthread] at hruns
  · intro h p e
    have hruns (hclosed : s.btIsOpen = false) : (s.rkBtInit p e).1.runs = s.runs + 1 := by
      simp [rkBtInit, hclosed, h hclosed, rkBtInitRun_eq, setInit]
    refine ⟨hruns, fun _ => ?_⟩
    cases hopen : s.btIsOpen with
    | true => exact .inl rfl
    | false => exact .inr (hruns hopen)

theorem succeeds_eq_true_iff (s : Hal) (p : Nat) (e : InitEnv) :
    s.succeeds p e = true ↔ s.init p = true ∧ e.atStart = true ∨
      (s.vendorCb = true → e.vendor = true) ∧ e.opened = true := by
  cases hcb : s.vendorCb <;> simp [succeeds, hcb]

/-- **One move** from a state in which `rk_bt_init` can be retried. -/
theorem retriable_next_iff {s : Hal} (hs : s.Retriable) (m : HalMove) :
    (s.next m).Retriable ↔ s.Lasting m := by
  rw [retriable_iff] at hs ⊢
  cases m with
  | init p e =>
    cases hopen : s.btIsOpen with
    | true => simp [next, rkBtInit, hopen, Lasting]
    | false =>
      -- the thread id is set now, so that Bluetooth has to be open
      have hnext : s.next (.init p e) =
          { s with rkBtInitThread := true, runs := s.runs + 1 }.rkBtInitRun p e := by
        simp [next, rkBtInit, hopen, hs hopen]
      have hthread : (s.next (.init p e)).rkBtInitThread = true := by
        rw [hnext, rkBtInitRun_eq]
        rfl
      rw [hthread, hnext, btIsOpen_rkBtInitRun, Lasting, ← succeeds_eq_true_iff]
      simp [hopen, succeeds, and_comm]
  | deinit e =>
    refine iff_of_true (fun _ => ?_) trivial
    rw [next, rkBtDeinit]
    split
    · rfl
    · split_ifs <;> rfl
  | bluetoothd running =>
    cases running with
    | true =>
      refine iff_of_true (fun hclosed => hs ?_) trivial
      cases hc : s.content with
      | none => simp [btIsOpen, hc]
      | some c =>
        have hinit : s.init c = false := by simpa [next, btIsOpen, hc] using hclosed
        simp [btIsOpen, hc, hinit]
    | false =>
      refine ⟨fun h => h ?_, fun h _ => h⟩
      cases hc : s.content <;> simp [next, btIsOpen, hc]
  | agentRegistered =>
    refine iff_of_true (fun hclosed => ?_) trivial
    cases hc : s.content with
    | none =>
      have hsame : s.next .agentRegistered = s := by simp [next, registerAgentReply, hc]
      rw [hsame] at hclosed ⊢
      exact hs hclosed
    | some c =>
      have hdown : s.bluetoothd = false := by
        simpa [next, registerAgentReply, setInit, btIsOpen, hc] using hclosed
      have hthread := hs (by simp [btIsOpen, hc, hdown])
      simpa [next, registerAgentReply, hc, setInit] using hthread

end Hal

/-- **Retrying the initialisation.** From a state with no initialisation behind it,
`rk_bt_init` can be retried in every state of a run exactly if every initialisation of the run
succeeds and bluetoothd exits only after `rk_bt_deinit`. -/
theorem init_retriable_iff (s : Hal) (hs : s.rkBtInitThread = false) (ms : List HalMove) :
    (∀ ns, ns <+: ms → (ns.foldl Hal.next s).Retriable) ↔
      Along (fun s m => some (s.next m)) Hal.Lasting s ms := by
  have hstart : s.Retriable := (Hal.retriable_iff s).mpr fun _ => hs
  exact forall_prefix_iff_along (P := Hal.Retriable) (fun _ m h => Hal.retriable_next_iff h m)
    hstart ms

/-- Nothing has happened yet; `bt_vendor_cb` is registered. -/
def Hal.boot : Hal where
  init := fun _ => false
  bluetoothd := false
  vendorCb := true

/-- Bluetooth is switched on, off and on again. -/
theorem init_retriable_twice : Hal.boot.rkBtInitThread = false ∧
    ∀ ns, ns <+: [HalMove.init 0 ⟨false, true, true, true⟩, .agentRegistered,
      .deinit ⟨true, false⟩, .init 0 ⟨false, true, true, true⟩] →
      (ns.foldl Hal.next Hal.boot).Retriable := by
  refine ⟨rfl, (init_retriable_iff Hal.boot rfl _).mpr ?_⟩
  refine ⟨fun _ => ⟨rfl, .inr ⟨fun _ => rfl, rfl⟩⟩, ?_⟩
  rintro _ ⟨⟩
  refine ⟨trivial, ?_⟩
  rintro _ ⟨⟩
  refine ⟨trivial, ?_⟩
  rintro _ ⟨⟩
  exact ⟨fun _ => ⟨rfl, .inr ⟨fun _ => rfl, rfl⟩⟩, fun _ _ => trivial⟩

/-- The vendor callback fails once, and `rk_bt_init` never starts anything again. -/
theorem failed_init_sticks :
    ∃ (s : Hal) (ms : List HalMove), s.rkBtInitThread = false ∧
      ¬ (ms.foldl Hal.next s).Retriable := by
  refine ⟨Hal.boot, [.init 0 ⟨false, false, true, false⟩], rfl, fun h => ?_⟩
  have hruns := (h 0 ⟨true, true, true, true⟩).1 (by decide)
  exact absurd hruns (by decide)

end ConnectApp.Bluez
