import ConnectApp.Wifi.ConnectFailure

/-!
# The flags of an attempt, one assignment at a time (Rk_wifi.c:2025-2046, 2094-2207, 2277-2359)

Four variables belong to the attempt in progress: `wifi_connect_lock`, `wifi_cancel`,
`is_wep` and `wifi_is_exist`. Here every test and every assignment of them is a step of its
own, taken by one caller of the connect functions, one caller of `RK_wifi_cancel`, or one of
the `wifi_connect_state_check` threads, of which the last may still be resetting flags when
the next attempt starts.

The thread releases the lock before it resets `is_wep` and `wifi_cancel`, `RK_wifi_cancel`
tests the lock before it sets `wifi_cancel`, and the fail exits do not reset `wifi_cancel`.
`flags_isolated` is about the runs in which none of the three gaps is hit: an attempt starts
with `wifi_cancel` and `wifi_is_exist` clear and keeps its own `is_wep`.
`call_flags` and `stateCheck_flags` tie the steps to the functions they are taken from.
-/

namespace ConnectApp.Wifi

open CString Script Transition

/-- The function an attempt was started by. -/
inductive Starter
  | connect (wep : Bool)
  | withSsid
  deriving DecidableEq

namespace Starter

/-- The value of `is_wep` during the attempt. -/
def wep : Starter → Bool
  | .connect wep => wep
  | .withSsid => false

/-- The value of `wifi_is_exist` during the attempt. -/
def exist : Starter → Bool
  | .connect _ => false
  | .withSsid => true

end Starter

/-- Where the caller of the connect functions is: before the test of the lock, before taking
it, before setting the flag of its function, behind that, and in front of the two assignments
of the fail exit. -/
inductive CallerPc
  | idle
  | test (k : Starter)
  | take (k : Starter)
  | mark (k : Starter)
  | body (k : Starter)
  | failFirst (k : Starter)
  | failSecond (k : Starter)
  deriving DecidableEq

/-- Where a state check is: waiting for the connection, or in front of one of its four last
assignments. -/
inductive ThreadPc
  | running
  | clearExist
  | clearLock
  | clearWep
  | clearCancel
  deriving DecidableEq

/-- Where the caller of `RK_wifi_cancel` is. -/
inductive CancelPc
  | idle
  | test
  | set
  | poll (timeout : Nat)
  | last
  deriving DecidableEq

/-- The flags, and where each of the threads stands. -/
structure FlagState where
  lock : Bool
  cancel : Bool
  isWep : Bool
  isExist : Bool
  caller : CallerPc
  canceller : CancelPc
  threads : List (ThreadPc × Starter)
  deriving DecidableEq

/-- A call, or a step of one thread. -/
inductive FlagMove
  | call (k : Starter)
  | caller (succeeds : Bool)
  | cancelCall
  | cancel
  | thread (i : Nat)

/-- The next step of the caller; `succeeds` is the outcome of the commands. -/
def FlagState.callerNext (s : FlagState) (succeeds : Bool) : Option FlagState :=
  match s.caller with
  | .idle => none
  | .test k => some { s with caller := if s.lock then .idle else .take k }
  | .take k => some { s with lock := true, caller := .mark k }
  | .mark (.connect wep) =>
    some { s with isWep := if wep then true else s.isWep, caller := .body (.connect wep) }
  | .mark .withSsid => some { s with isExist := true, caller := .body .withSsid }
  | .body k =>
    if succeeds then some { s with caller := .idle, threads := s.threads ++ [(.running, k)] }
    else some { s with caller := .failFirst k }
  | .failFirst (.connect wep) =>
    some { s with lock := false, caller := .failSecond (.connect wep) }
  | .failFirst .withSsid => some { s with isExist := false, caller := .failSecond .withSsid }
  | .failSecond (.connect _) => some { s with isWep := false, caller := .idle }
  | .failSecond .withSsid => some { s with lock := false, caller := .idle }

/-- The next step of `RK_wifi_cancel`. -/
def FlagState.cancelNext (s : FlagState) : Option FlagState :=
  match s.canceller with
  | .idle => none
  | .test => some { s with canceller := if s.lock then .set else .idle }
  | .set => some { s with cancel := true, canceller := .poll 8 }
  | .poll 0 => some { s with canceller := .last }
  | .poll (n + 1) => some { s with canceller := if s.cancel then .poll n else .last }
  | .last => some { s with canceller := .idle }

/-- The next step of thread `i`. -/
def FlagState.threadNext (s : FlagState) (i : Nat) : Option FlagState :=
  match s.threads[i]? with
  | none => none
  | some (.running, k) => some { s with threads := s.threads.set i (.clearExist, k) }
  | some (.clearExist, k) =>
    some { s with isExist := false, threads := s.threads.set i (.clearLock, k) }
  | some (.clearLock, k) => some { s with lock := false, threads := s.threads.set i (.clearWep, k) }
  | some (.clearWep, k) =>
    some { s with isWep := false, threads := s.threads.set i (.clearCancel, k) }
  | some (.clearCancel, _) => some { s with cancel := false, threads := s.threads.eraseIdx i }

/-- One move. `none` if it cannot be made. -/
def FlagState.next (s : FlagState) : FlagMove → Option FlagState
  | .call k => if s.caller = .idle then some { s with caller := .test k } else none
  | .caller succeeds => s.callerNext succeeds
  | .cancelCall => if s.canceller = .idle then some { s with canceller := .test } else none
  | .cancel => s.cancelNext
  | .thread i => s.threadNext i

/-- Nobody has called anything yet. -/
def FlagState.start : FlagState := ⟨false, false, false, false, .idle, .idle, []⟩

/-- The component, from the start of the program. -/
def flagSystem : System FlagState FlagMove where
  init s := s = .start
  step s move t := s.next move = some t

/-! ## The condition and the property -/

/-- The three gaps are not hit: the lock is taken only when no thread is still resetting
flags behind its release, `wifi_cancel` is set only while the lock is held, and a fail exit
releases the lock only while `wifi_cancel` is clear. -/
structure NoGap (s : FlagState) (move : FlagMove) : Prop where
  take : ∀ b k, move = .caller b → s.caller = .take k →
    ∀ th ∈ s.threads, th.1 ≠ .clearWep ∧ th.1 ≠ .clearCancel
  cancel : move = .cancel → s.canceller = .set → s.lock = true
  failConnect : ∀ b wep, move = .caller b → s.caller = .failFirst (.connect wep) → s.cancel = false
  failSsid : ∀ b, move = .caller b → s.caller = .failSecond .withSsid → s.cancel = false

/-- No clean-up leaks: taking the lock gives a state with `wifi_cancel` and `wifi_is_exist`
clear, and a WEP attempt has `is_wep` set until its own reset. -/
structure Isolated (ok : FlagState → FlagMove → Prop) (s : FlagState) : Prop where
  fresh : ∀ b k t, s.caller = .take k → ok s (.caller b) → s.next (.caller b) = some t →
    t.lock = true ∧ t.cancel = false ∧ t.isExist = false
  wepCalling : ∀ pc ∈ [CallerPc.body (.connect true), .failFirst (.connect true),
    .failSecond (.connect true)], s.caller = pc → s.isWep = true
  wepRunning : ∀ pc, pc ≠ ThreadPc.clearCancel → (pc, Starter.connect true) ∈ s.threads →
    s.isWep = true

/-! ## The invariant -/

/-- What the lock, `wifi_is_exist` and `is_wep` are while the caller is in an attempt. -/
def CallerPc.flags : CallerPc → Option (Bool × Bool × Bool)
  | .mark _ => some (true, false, false)
  | .body k => some (true, k.exist, k.wep)
  | .failFirst k => some (true, k.exist, k.wep)
  | .failSecond (.connect wep) => some (false, false, wep)
  | .failSecond .withSsid => some (true, false, false)
  | _ => none

/-- The same while a thread is in charge of the attempt. -/
def ThreadPc.flags (k : Starter) : ThreadPc → Bool × Bool × Bool
  | .running => (true, k.exist, k.wep)
  | .clearExist => (true, k.exist, k.wep)
  | .clearLock => (true, false, k.wep)
  | .clearWep => (false, false, k.wep)
  | .clearCancel => (false, false, false)

/-- The lock and the flags that are cleared with it. -/
def FlagState.flags (s : FlagState) : Bool × Bool × Bool := (s.lock, s.isExist, s.isWep)

/-- One attempt at a time is in charge of the flags, and `wifi_cancel` is only set while
somebody will reset it. -/
inductive FlagInv (s : FlagState) : Prop
  | free : s.caller.flags = none → s.threads = [] → s.flags = (false, false, false) →
      s.cancel = false → FlagInv s
  | calling : s.caller.flags = some s.flags → s.threads = [] → (s.cancel = true → s.lock = true) →
      FlagInv s
  | running (pc : ThreadPc) (k : Starter) : s.caller.flags = none → s.threads = [(pc, k)] →
      s.flags = pc.flags k → (∀ k', s.caller = .take k' → s.lock = false) → FlagInv s

/-! ## One step -/

theorem FlagInv.start : FlagInv .start := .free rfl rfl rfl rfl

/-- A caller that is not in an attempt does not matter to the others: the test of the lock
and the call itself only move it. -/
theorem FlagInv.move {s : FlagState} {pc : CallerPc} (hs : FlagInv s)
    (hidle : s.caller.flags = none) (hpc : pc.flags = none) (htake : ∀ k, pc = .take k → s.lock = false) :
    FlagInv { s with caller := pc } := by
  cases hs with
  | free _ hthreads hflags hcancel => exact .free hpc hthreads hflags hcancel
  | calling hcaller => cases hidle.symm.trans hcaller
  | running tpc k _ hthreads hflags _ => exact .running tpc k hpc hthreads hflags htake

theorem FlagState.flags_eq_iff {s : FlagState} {lock exist wep : Bool} :
    s.flags = (lock, exist, wep) ↔ s.lock = lock ∧ s.isExist = exist ∧ s.isWep = wep := by
  unfold FlagState.flags
  rw [Prod.mk.injEq, Prod.mk.injEq]

/-- While the caller is in an attempt the flags are its own and there is no thread. -/
theorem FlagInv.of_calling {s : FlagState} {pc : CallerPc} {lock exist wep : Bool} (hs : FlagInv s)
    (hpc : s.caller = pc) (hflags : pc.flags = some (lock, exist, wep)) :
    s.lock = lock ∧ s.isExist = exist ∧ s.isWep = wep ∧ s.threads = [] ∧
      (s.cancel = true → s.lock = true) := by
  rw [← hpc] at hflags
  cases hs with
  | free hnone => cases hnone.symm.trans hflags
  | calling hcaller hthreads hcancel =>
    obtain ⟨hlock, hexist, hwep⟩ :=
      FlagState.flags_eq_iff.mp (Option.some.inj (hcaller.symm.trans hflags))
    exact ⟨hlock, hexist, hwep, hthreads, hcancel⟩
  | running _ _ hnone => cases hnone.symm.trans hflags

theorem FlagInv.inCall {s : FlagState} {lock exist wep : Bool}
    (hflags : s.caller.flags = some (lock, exist, wep)) (hlock : s.lock = lock)
    (hexist : s.isExist = exist) (hwep : s.isWep = wep) (hthreads : s.threads = [])
    (hcancel : s.cancel = true → s.lock = true) : FlagInv s :=
  .calling (hflags.trans (congrArg some (FlagState.flags_eq_iff.mpr ⟨hlock, hexist, hwep⟩).symm))
    hthreads hcancel

/-- Taking the lock is allowed only when no attempt is left at all. -/
theorem FlagInv.of_take {s : FlagState} {b : Bool} {k : Starter} (hs : FlagInv s)
    (hok : NoGap s (.caller b)) (hpc : s.caller = .take k) :
    s.threads = [] ∧ s.flags = (false, false, false) ∧ s.cancel = false := by
  cases hs with
  | free _ hthreads hflags hcancel => exact ⟨hthreads, hflags, hcancel⟩
  | calling hcaller =>
    rw [hpc] at hcaller
    cases hcaller
  | running tpc k' _ hthreads hflags hlock =>
    -- the lock is free, so the thread is behind its release
    have hmem : (tpc, k') ∈ s.threads := by
      rw [hthreads]
      exact List.mem_singleton_self _
    have hbehind := hok.take b k rfl hpc (tpc, k') hmem
    have hfree : (tpc.flags k').1 = false := by
      rw [← hflags]
      exact hlock k hpc
    cases tpc with
    | running => cases hfree
    | clearExist => cases hfree
    | clearLock => cases hfree
    | clearWep => exact absurd rfl hbehind.1
    | clearCancel => exact absurd rfl hbehind.2

theorem flagInv_caller {s t : FlagState} {b : Bool} (hs : FlagInv s) (hok : NoGap s (.caller b))
    (h : s.callerNext b = some t) : FlagInv t := by
  unfold FlagState.callerNext at h
  split at h
  next => cases h
  next k hpc =>
    obtain rfl := Option.some.inj h
    refine hs.move (by rw [hpc]; rfl) (by split <;> rfl) ?_
    intro k' htake
    cases hlock : s.lock with
    | false => rfl
    | true =>
      rw [hlock] at htake
      cases htake
  next k hpc =>
    obtain rfl := Option.some.inj h
    obtain ⟨hthreads, hflags, hcancel⟩ := hs.of_take hok hpc
    obtain ⟨-, hexist, hwep⟩ := FlagState.flags_eq_iff.mp hflags
    exact .inCall rfl rfl hexist hwep hthreads fun _ => rfl
  next wep hpc =>
    obtain rfl := Option.some.inj h
    obtain ⟨hlock, hexist, hwep, hthreads, hcancel⟩ := hs.of_calling hpc rfl
    refine .inCall rfl hlock hexist ?_ hthreads hcancel
    show (if wep then true else s.isWep) = wep
    rw [hwep]
    cases wep <;> rfl
  next hpc =>
    obtain rfl := Option.some.inj h
    obtain ⟨hlock, -, hwep, hthreads, hcancel⟩ := hs.of_calling hpc rfl
    exact .inCall rfl hlock rfl hwep hthreads hcancel
  next k hpc =>
    obtain ⟨hlock, hexist, hwep, hthreads, hcancel⟩ := hs.of_calling hpc rfl
    split at h
    · -- the attempt is handed over to its thread
      obtain rfl := Option.some.inj h
      refine .running .running k rfl ?_ (FlagState.flags_eq_iff.mpr ⟨hlock, hexist, hwep⟩) ?_
      · show s.threads ++ [(ThreadPc.running, k)] = [(.running, k)]
        rw [hthreads]
        rfl
      · intro k' htake
        cases htake
    · obtain rfl := Option.some.inj h
      exact .inCall rfl hlock hexist hwep hthreads hcancel
  next wep hpc =>
    obtain rfl := Option.some.inj h
    obtain ⟨-, hexist, hwep, hthreads, -⟩ := hs.of_calling hpc rfl
    refine .inCall rfl rfl hexist hwep hthreads ?_
    -- the lock goes, so a pending cancel request would be left behind
    intro hset
    cases (hok.failConnect b wep rfl hpc).symm.trans hset
  next hpc =>
    obtain rfl := Option.some.inj h
    obtain ⟨hlock, -, hwep, hthreads, hcancel⟩ := hs.of_calling hpc rfl
    exact .inCall rfl hlock rfl hwep hthreads hcancel
  next wep hpc =>
    obtain rfl := Option.some.inj h
    obtain ⟨hlock, hexist, -, hthreads, hcancel⟩ := hs.of_calling hpc rfl
    refine .free rfl hthreads (FlagState.flags_eq_iff.mpr ⟨hlock, hexist, rfl⟩) ?_
    rw [hlock] at hcancel
    exact Bool.eq_false_iff.mpr fun hset => Bool.false_ne_true (hcancel hset)
  next hpc =>
    obtain rfl := Option.some.inj h
    obtain ⟨-, hexist, hwep, hthreads, -⟩ := hs.of_calling hpc rfl
    exact .free rfl hthreads (FlagState.flags_eq_iff.mpr ⟨rfl, hexist, hwep⟩)
      (hok.failSsid b rfl hpc)

/-- Only `wifi_cancel` and the caller of `RK_wifi_cancel` change, and the request is made
while the lock is held. -/
theorem FlagInv.request {s : FlagState} {cancel : Bool} {pc : CancelPc} (hs : FlagInv s)
    (hcancel : cancel = s.cancel ∨ s.lock = true) :
    FlagInv { s with cancel := cancel, canceller := pc } := by
  cases hs with
  | free hcaller hthreads hflags hclear =>
    rcases hcancel with rfl | hheld
    · exact .free hcaller hthreads hflags hclear
    · cases (FlagState.flags_eq_iff.mp hflags).1.symm.trans hheld
  | calling hcaller hthreads hreset =>
    refine .calling hcaller hthreads ?_
    rcases hcancel with rfl | hheld
    · exact hreset
    · exact fun _ => hheld
  | running tpc k hcaller hthreads hflags hlock => exact .running tpc k hcaller hthreads hflags hlock

theorem flagInv_cancel {s t : FlagState} (hs : FlagInv s) (hok : NoGap s .cancel)
    (h : s.cancelNext = some t) : FlagInv t := by
  unfold FlagState.cancelNext at h
  split at h
  next => cases h
  next hpc =>
    obtain rfl := Option.some.inj h
    exact hs.request (.inl rfl)
  next hpc =>
    obtain rfl := Option.some.inj h
    exact hs.request (.inr (hok.cancel rfl hpc))
  next hpc =>
    obtain rfl := Option.some.inj h
    exact hs.request (.inl rfl)
  next n hpc =>
    obtain rfl := Option.some.inj h
    exact hs.request (.inl rfl)
  next hpc =>
    obtain rfl := Option.some.inj h
    exact hs.request (.inl rfl)

/-- The thread that takes a step is the only one, and no caller is in an attempt. -/
theorem FlagInv.of_thread {s : FlagState} {i : Nat} {pc : ThreadPc} {k : Starter} (hs : FlagInv s)
    (h : s.threads[i]? = some (pc, k)) :
    i = 0 ∧ s.threads = [(pc, k)] ∧ s.caller.flags = none ∧ s.flags = pc.flags k ∧
      (∀ k', s.caller = .take k' → s.lock = false) := by
  cases hs with
  | free _ hthreads =>
    rw [hthreads] at h
    cases h
  | calling _ hthreads =>
    rw [hthreads] at h
    cases h
  | running tpc k' hcaller hthreads hflags hlock =>
    rw [hthreads] at h
    cases i with
    | zero =>
      obtain ⟨rfl, rfl⟩ := Prod.mk.inj (Option.some.inj h)
      exact ⟨rfl, hthreads, hcaller, hflags, hlock⟩
    | succ i => cases h

theorem flagInv_thread {s t : FlagState} {i : Nat} (hs : FlagInv s) (h : s.threadNext i = some t) :
    FlagInv t := by
  unfold FlagState.threadNext at h
  split at h
  next => cases h
  next k hth =>
    obtain rfl := Option.some.inj h
    obtain ⟨rfl, hthreads, hcaller, hflags, hlock⟩ := hs.of_thread hth
    exact .running .clearExist k hcaller (by rw [hthreads]; rfl) hflags hlock
  next k hth =>
    obtain rfl := Option.some.inj h
    obtain ⟨rfl, hthreads, hcaller, hflags, hlock⟩ := hs.of_thread hth
    obtain ⟨hheld, -, hwep⟩ := FlagState.flags_eq_iff.mp hflags
    exact .running .clearLock k hcaller (by rw [hthreads]; rfl)
      (FlagState.flags_eq_iff.mpr ⟨hheld, rfl, hwep⟩) hlock
  next k hth =>
    obtain rfl := Option.some.inj h
    obtain ⟨rfl, hthreads, hcaller, hflags, -⟩ := hs.of_thread hth
    obtain ⟨-, hexist, hwep⟩ := FlagState.flags_eq_iff.mp hflags
    exact .running .clearWep k hcaller (by rw [hthreads]; rfl)
      (FlagState.flags_eq_iff.mpr ⟨rfl, hexist, hwep⟩) fun _ _ => rfl
  next k hth =>
    obtain rfl := Option.some.inj h
    obtain ⟨rfl, hthreads, hcaller, hflags, hlock⟩ := hs.of_thread hth
    obtain ⟨hfree, hexist, -⟩ := FlagState.flags_eq_iff.mp hflags
    exact .running .clearCancel k hcaller (by rw [hthreads]; rfl)
      (FlagState.flags_eq_iff.mpr ⟨hfree, hexist, rfl⟩) hlock
  next k hth =>
    obtain rfl := Option.some.inj h
    obtain ⟨rfl, hthreads, hcaller, hflags, -⟩ := hs.of_thread hth
    exact .free hcaller (by rw [hthreads]; rfl) hflags rfl

theorem flagInv_next {s t : FlagState} {move : FlagMove} (hs : FlagInv s) (hok : NoGap s move)
    (h : s.next move = some t) : FlagInv t := by
  cases move with
  | call k =>
    rw [FlagState.next] at h
    split_ifs at h with hidle
    obtain rfl := Option.some.inj h
    refine hs.move (by rw [hidle]; rfl) rfl ?_
    intro k' htake
    cases htake
  | caller b => exact flagInv_caller hs hok h
  | cancelCall =>
    rw [FlagState.next] at h
    split_ifs at h
    obtain rfl := Option.some.inj h
    exact hs.request (.inl rfl)
  | cancel => exact flagInv_cancel hs hok h
  | thread i => exact flagInv_thread hs h

/-! ## All runs -/

theorem flagInv_reach {s : FlagState} (h : Reach flagSystem NoGap s) : FlagInv s := by
  refine h.invariant ?_ ?_
  · rintro s rfl
    exact .start
  · intro s move t hs hok hstep
    exact flagInv_next hs hok hstep

/-- A WEP attempt in the hands of the caller has `is_wep` set. -/
theorem FlagInv.wep_calling {s : FlagState} {pc : CallerPc} {lock exist : Bool} (hs : FlagInv s)
    (hpc : s.caller = pc) (hflags : pc.flags = some (lock, exist, true)) : s.isWep = true := by
  obtain ⟨-, -, hwep, -⟩ := hs.of_calling hpc hflags
  exact hwep

/-- A WEP attempt in the hands of its thread has `is_wep` set until the thread resets it. -/
theorem FlagInv.wep_running {s : FlagState} {pc : ThreadPc} (hs : FlagInv s)
    (hpc : pc ≠ .clearCancel) (hth : (pc, Starter.connect true) ∈ s.threads) : s.isWep = true := by
  obtain ⟨i, hi⟩ := List.mem_iff_getElem?.mp hth
  obtain ⟨-, -, -, hflags, -⟩ := hs.of_thread hi
  have hwep : s.isWep = (pc.flags (.connect true)).2.2 := congrArg (fun f => f.2.2) hflags
  rw [hwep]
  cases pc with
  | running => rfl
  | clearExist => rfl
  | clearLock => rfl
  | clearWep => rfl
  | clearCancel => exact absurd rfl hpc

/-- **No leak between attempts.** In every run that hits none of the three gaps, an attempt
that takes the lock finds `wifi_cancel` and `wifi_is_exist` clear, and a WEP attempt keeps
`is_wep` until it ends. -/
theorem flags_isolated {s : FlagState} (h : Reach flagSystem NoGap s) : Isolated NoGap s := by
  have hinv := flagInv_reach h
  refine ⟨?_, ?_, ?_⟩
  · intro b k t hpc hok hnext
    obtain ⟨-, hflags, hcancel⟩ := hinv.of_take hok hpc
    rw [FlagState.next, FlagState.callerNext, hpc] at hnext
    obtain rfl := Option.some.inj hnext
    exact ⟨rfl, hcancel, (FlagState.flags_eq_iff.mp hflags).2.1⟩
  · intro pc hmem hpc
    simp only [List.mem_cons, List.not_mem_nil, or_false] at hmem
    rcases hmem with rfl | rfl | rfl
    · exact hinv.wep_calling hpc rfl
    · exact hinv.wep_calling hpc rfl
    · exact hinv.wep_calling hpc rfl
  · intro pc hpc hth
    exact hinv.wep_running hpc hth

/-- The tests of `NoGap`, to be evaluated along a run. -/
def FlagState.noGap (s : FlagState) : FlagMove → Bool
  | .caller _ =>
    match s.caller with
    | .take _ => s.threads.all fun th => decide (th.1 ≠ .clearWep ∧ th.1 ≠ .clearCancel)
    | .failFirst (.connect _) => !s.cancel
    | .failSecond .withSsid => !s.cancel
    | _ => true
  | .cancel => decide (s.canceller = .set → s.lock = true)
  | _ => true

/-- A step that passes them hits no gap. -/
theorem FlagState.noGap_sound {s : FlagState} {move : FlagMove} (h : s.noGap move = true) :
    NoGap s move := by
  constructor
  · rintro b k rfl hpc th hth
    rw [noGap, hpc] at h
    exact of_decide_eq_true (List.all_eq_true.mp h th hth)
  · rintro rfl
    exact of_decide_eq_true h
  · rintro b wep rfl hpc
    rw [noGap, hpc] at h
    simpa using h
  · rintro b rfl hpc
    rw [noGap, hpc] at h
    simpa using h

/-- A WEP attempt takes the lock and starts its thread; `RK_wifi_cancel` is called, and the thread
comes to the release of the lock. -/
def wepAttempt : List FlagMove :=
  [.call (.connect true), .caller true, .caller true, .caller true, .caller true, .cancelCall,
    .cancel, .cancel, .thread 0, .thread 0]

/-- The thread ends, and the next call comes to the lock. -/
def nextAttempt : List FlagMove :=
  [.thread 0, .thread 0, .thread 0, .call .withSsid, .caller true]

/-- The WEP attempt has its `is_wep` while it is cancelled; and when it has ended and the next call
stands before the lock, that takes it with `wifi_cancel` and `wifi_is_exist` clear. -/
theorem flags_isolated_next :
    (∃ s : FlagState, Reach flagSystem NoGap s ∧ s.threads = [(.clearLock, .connect true)] ∧
        s.cancel = true ∧ s.isWep = true) ∧
      ∃ s t : FlagState, Reach flagSystem NoGap s ∧ s.caller = .take .withSsid ∧
        s.next (.caller true) = some t ∧ t.lock = true ∧ t.cancel = false ∧ t.isExist = false := by
  have hreach : ∀ {ls : List FlagMove} {s : FlagState},
      ls.foldlM (guarded FlagState.next fun s l => s.noGap l = true) .start = some s →
      Reach flagSystem NoGap s := by
    intro ls s
    refine Reach.of_foldlM (fun s l t hstep => ?_) (.start rfl)
    rw [guarded, Option.ite_none_right_eq_some] at hstep
    exact ⟨FlagState.noGap_sound hstep.1, hstep.2⟩
  have hfirst : (wepAttempt.foldlM (guarded FlagState.next fun s l => s.noGap l = true)
      .start).map (fun s => (s.threads, s.cancel)) =
        some ([(.clearLock, .connect true)], true) := by decide
  have hsecond : ((wepAttempt ++ nextAttempt).foldlM
      (guarded FlagState.next fun s l => s.noGap l = true) .start).map
        (fun s => (s.caller, s.noGap (.caller true))) = some (.take .withSsid, true) := by decide
  obtain ⟨s, hs, hval⟩ := Option.map_eq_some_iff.mp hfirst
  obtain ⟨hthreads, hcancel⟩ := Prod.mk.inj hval
  obtain ⟨s', hs', hval'⟩ := Option.map_eq_some_iff.mp hsecond
  obtain ⟨hpc, hgap⟩ := Prod.mk.inj hval'
  have hnext : s'.next (.caller true) = some { s' with lock := true, caller := .mark .withSsid } := by
    rw [FlagState.next, FlagState.callerNext, hpc]
  refine ⟨⟨s, hreach hs, hthreads, hcancel, ?_⟩, s', _, hreach hs', hpc, hnext, ?_⟩
  · refine (flags_isolated (hreach hs)).wepRunning .clearLock (by decide) ?_
    rw [hthreads]
    exact List.mem_singleton_self _
  · exact (flags_isolated (hreach hs')).fresh true .withSsid _ hpc (FlagState.noGap_sound hgap) hnext

/-- `RK_wifi_cancel` finds the lock held, the attempt ends, and the request hits the next
attempt before it has started. -/
theorem cancel_hits_next : ¬ ∀ s, Reach flagSystem (fun _ _ => True) s →
    Isolated (fun _ _ => True) s := by
  intro h
  have hstart : Reach flagSystem (fun _ _ => True) .start := .start rfl
  let k : Starter := .connect false
  have hrun : ([.call k, .caller true, .caller true, .caller true, .caller true, .cancelCall,
      .cancel, .thread 0, .thread 0, .thread 0, .thread 0, .thread 0, .cancel, .call k,
      .caller true].foldlM FlagState.next .start).map
        (fun s => (s.caller, (s.next (.caller true)).map FlagState.cancel)) =
      some (.take k, some true) := by
    decide
  obtain ⟨s, hs, hlast⟩ := Option.map_eq_some_iff.mp hrun
  obtain ⟨hpc, hnext⟩ := Prod.mk.inj hlast
  obtain ⟨t, ht, hcancel⟩ := Option.map_eq_some_iff.mp hnext
  have hreach := hstart.of_foldlM (fun s move t h => ⟨trivial, h⟩) hs
  cases ((h s hreach).fresh true k t hpc trivial ht).2.1.symm.trans hcancel

/-! ## The steps are those of the functions -/

/-- The flags of the variables, with nobody running. -/
def FlagState.ofWorld (w : World) : FlagState :=
  ⟨w.wifiConnectLock, w.wifiCancel, w.isWep, w.wifiIsExist, .idle, .idle, []⟩

/-- The attempt a call starts if it passes its argument checks. -/
def Call.starter : Call → Option Starter
  | .connect ssid psk keyMgmt _ =>
    if argsOk ssid psk keyMgmt then some (.connect (decide (keyMgmt = .wep))) else none
  | .connectWithSsid _ _ => some .withSsid
  | .connectWithBssid _ => none

/-- The flags an attempt runs with. -/
def Starter.marked (k : Starter) (s : FlagState) : FlagState :=
  match k with
  | .connect wep => { s with lock := true, isWep := if wep then true else s.isWep }
  | .withSsid => { s with lock := true, isExist := true }

/-- The fail exit. -/
def Starter.undo (k : Starter) (s : FlagState) : FlagState :=
  match k with
  | .connect _ => { s with lock := false, isWep := false }
  | .withSsid => { s with isExist := false, lock := false }

/-- A call has kept the flags `s` and returned 0, or undone them and returned -1. -/
def Leaves (k : Starter) (s : FlagState) (r : Int × World) : Prop :=
  (r.1 = 0 ∧ FlagState.ofWorld r.2 = s) ∨ (r.1 = -1 ∧ FlagState.ofWorld r.2 = k.undo s)

theorem leaves_connectFail (wep : Bool) (w : World) :
    Leaves (.connect wep) (.ofWorld w) (connectFail w) := by
  refine .inr ⟨rfl, ?_⟩
  unfold connectFail
  rw [wifiStateSend_eq]
  rfl

theorem leaves_existFail (w : World) : Leaves .withSsid (.ofWorld w) (existFail w) := by
  refine .inr ⟨rfl, ?_⟩
  unfold existFail
  rw [wifiStateSend_eq]
  rfl

theorem leaves_exits {k : Starter} {fail : World → Int × World} {env : Env} {l : List Line}
    {w : World} (hfail : ∀ w, Leaves k (.ofWorld w) (fail w)) (hl : ∀ st ∈ l, IsLine st) :
    Leaves k (.ofWorld w) (exits fail (run (machine env) l w)) := by
  have hkept : FlagState.ofWorld (run (machine env) l w).2 = .ofWorld w := by
    have hrest := congrArg FlagState.ofWorld (run_rest env hl w)
    exact hrest
  cases hrun : run (machine env) l w with
  | mk r t =>
    rw [hrun] at hkept
    cases r with
    | none => exact .inl ⟨rfl, hkept⟩
    | some err =>
      rw [← hkept]
      exact hfail t

/-- The part of a call behind the lock. -/
theorem leaves_body {call : Call} {k : Starter} (hk : call.starter = some k) (env : Env)
    (w : World) (hw : w.wifiConnectLock = true) :
    Leaves k (k.marked (.ofWorld w)) (call.body env w) := by
  cases call with
  | connect ssid psk keyMgmt bssid =>
    rw [Call.starter] at hk
    split_ifs at hk
    obtain rfl := Option.some.inj hk
    have hmarked : (Starter.connect (decide (keyMgmt = .wep))).marked (.ofWorld w) =
        .ofWorld (prepare keyMgmt bssid w) := by
      unfold prepare Starter.marked FlagState.ofWorld
      cases bssid <;> by_cases hwep : keyMgmt = .wep <;> simp [hwep, hw]
    rw [hmarked]
    show Leaves _ _ (rkWifiConnect1 _ _ _ _ _)
    rw [connect1_eq]
    -- neither the report nor the commands in front of the script touch a flag
    have hstarted : FlagState.ofWorld (prepare keyMgmt bssid w) =
        .ofWorld (started env (ssid.getD []) keyMgmt (prepare keyMgmt bssid w)) := by
      rw [started_eq]
      rfl
    rw [hstarted]
    split_ifs
    · exact leaves_connectFail _ _
    · exact leaves_exits (leaves_connectFail _) (connectScript_isLine _ _ _ _ _ _)
  | connectWithSsid ssid keyMgmt =>
    obtain rfl := Option.some.inj hk
    have hmarked : Starter.withSsid.marked (.ofWorld w) =
        .ofWorld { w with wifiWrongKey := false, wifiIsExist := true } := by
      unfold Starter.marked FlagState.ofWorld
      rw [hw]
    rw [hmarked]
    show Leaves _ _ (connectWithSsidBody _ _ _ _)
    unfold connectWithSsidBody
    cases ssid with
    | none => exact leaves_existFail _
    | some ssid =>
      simp only
      split_ifs
      · exact leaves_existFail _
      · rw [connectSaved_eq, announce_eq]
        exact leaves_exits leaves_existFail (savedScript_isLine _ _ _)
  | connectWithBssid bssid => cases hk

/-- A call with good arguments returns at once only if the lock is held. -/
theorem enter_returned {call : Call} {k : Starter} {w : World} (hk : call.starter = some k)
    (h : call.enter w = .returned w) : w.wifiConnectLock = true := by
  by_contra hfree
  cases call with
  | connect ssid psk keyMgmt bssid =>
    rw [Call.starter] at hk
    split_ifs at hk with hargs
    rw [Call.enter, if_neg (by rw [hargs]; decide), if_neg hfree] at h
    cases h
  | connectWithSsid ssid keyMgmt =>
    rw [Call.enter, if_neg hfree] at h
    cases h
  | connectWithBssid bssid => cases hk

/-- The moves of a call with nobody else about. -/
def callMoves (k : Starter) (lock succeeds : Bool) : List FlagMove :=
  .call k :: List.replicate (if lock then 1 else if succeeds then 4 else 6) (.caller succeeds)

/-- **A call.** Its steps, taken without interruption, give the flags of the whole function. -/
theorem call_flags {call : Call} {k : Starter} (hk : call.starter = some k) (env : Env)
    (w : World) :
    (callMoves k w.wifiConnectLock (decide ((call.run env w).1 = 0))).foldlM FlagState.next
        (.ofWorld w) =
      some { FlagState.ofWorld (call.run env w).2 with
        threads := if (call.run env w).1 = 0 then [(.running, k)] else [] } := by
  unfold Call.run
  rcases enter_cases call w with ⟨henter, hfree⟩ | henter | ⟨bssid, rfl, -, -⟩
  · rw [henter]
    simp only
    have hstart : FlagState.ofWorld w = ⟨false, w.wifiCancel, w.isWep, w.wifiIsExist, .idle, .idle,
        []⟩ := by
      unfold FlagState.ofWorld
      rw [hfree]
    rw [hstart, hfree]
    rcases leaves_body hk env { w with wifiConnectLock := true } rfl with
      ⟨hret, hflags⟩ | ⟨hret, hflags⟩
    · rw [hflags, hret]
      cases k <;> rfl
    · rw [hflags, hret]
      cases k <;> rfl
  · have hheld := enter_returned hk henter
    have hstart : FlagState.ofWorld w = ⟨true, w.wifiCancel, w.isWep, w.wifiIsExist, .idle, .idle,
        []⟩ := by
      unfold FlagState.ofWorld
      rw [hheld]
    rw [henter, hstart, hheld]
    rfl
  · cases hk

/-- **A thread.** The same for the end of `wifi_connect_state_check`. -/
theorem stateCheck_flags (env : Env) (ending : Ending) (id : Int) (k : Starter) (w : World) :
    (List.replicate 5 (.thread 0)).foldlM FlagState.next
        { FlagState.ofWorld w with threads := [(.running, k)] } =
      some (.ofWorld (wifiConnectStateCheck env ending id w)) := by
  rw [stateCheck_eq]
  rfl

end ConnectApp.Wifi
