import ConnectApp.Wifi.Event

/-!
# The monitor loop (Rk_wifi.c:2832-2955, 3019-3055)

`RK_wifi_start_monitor` waits for events on the monitor socket and hands each to
`dispatch_event`, until `wpa_exit` is set or an event makes `dispatch_event` return non-zero.
When the connection is gone, `wifi_wait_on_socket` fabricates a `CTRL-EVENT-TERMINATING`
event to end the loop. That event is among those `dispatch_event` drops first, so the loop
runs on: `monitor_ends_iff` says that only `wpa_exit` ends it.

A turn of the loop is `monitorTurn`; `monitorRun` takes the turns one after the other, with
what the socket delivers and what other threads write to `wpa_exit` in between.
-/

namespace ConnectApp.Wifi

open CString ConnectApp.Utility

/-! ## Waiting on the socket -/

/-- The outcome of one `poll`: an error, nothing for a second, or an event on the socket with
`POLLIN` or without it. `reply` is what `wpa_ctrl_recv` then receives, if it succeeds. -/
inductive Poll
  | failed
  | timeout
  | ready (pollin : Bool) (reply : Option (List UInt8))

/-- What `wifi_ctrl_recv` returns; `data` is what it has put into the buffer. -/
structure Received where
  result : Int
  data : Option (List UInt8)

/-- `wifi_ctrl_recv` sets `wpa_exit` on the one exit with -4. -/
def Received.exits (r : Received) : Bool := r.result = -4

/-- `wifi_ctrl_recv` (Rk_wifi.c:2844-2890) on a list of polls, each with the value of
`wifi_onoff_flag` behind it. `check_wpa_supplicant_state` returns 0 or 1, so a time-out never
ends the wait by itself. -/
def wifiCtrlRecv : List (Poll × Bool) → Option Received
  | [] => none
  | (.failed, _) :: _ => some ⟨-1, none⟩
  | (.timeout, onoff) :: polls => if onoff then wifiCtrlRecv polls else some ⟨-4, none⟩
  | (.ready pollin reply, onoff) :: _ =>
    if onoff = false then some ⟨-4, none⟩
    else if pollin then
      match reply with
      | some data => some ⟨0, some data⟩
      | none => some ⟨-1, none⟩
    else some ⟨-2, none⟩

/-- `primary_iface`. -/
def primaryIface : List UInt8 := chars "wlan0"

/-- The event `wifi_wait_on_socket` makes up. -/
def closedEvent (why : List UInt8) : List UInt8 :=
  chars "IFNAME=" ++ primaryIface ++ chars " " ++ wpaEventTerminating ++ chars " - " ++ why

/-- `WPA_EVENT_IGNORE`. -/
def wpaEventIgnore : List UInt8 := chars "CTRL-EVENT-IGNORE "

/-- `memmove` inside a buffer. -/
def memmove (dst src n : Nat) (buf : List UInt8) : List UInt8 :=
  buf.take dst ++ (buf.drop src).take n ++ buf.drop (dst + n)

/-- `strchr` as an index. -/
def strchr (c : UInt8) (t : List UInt8) : Option Nat := t.findIdx? (· = c)

/-- A text printed into the buffer, with the value `snprintf` returns. -/
def printed (buflen : Nat) (text : List UInt8) : Nat × List UInt8 :=
  (text.length, snprintf buflen text)

/-- The end of `wifi_wait_on_socket`: the message level is cut out of a message of `nread`
bytes, behind the interface name or at the start. -/
def stripLevel (buflen nread : Nat) (buf : List UInt8) : Nat × List UInt8 :=
  if chars "IFNAME=" <+: cstr buf then
    match strchr 32 (cstr buf) with
    | none => printed buflen wpaEventIgnore
    | some m =>
      if (cstr buf)[m + 1]? = some 60 then
        match strchr 62 ((cstr buf).drop (m + 2)) with
        | none => (nread, buf)
        | some k =>
          let nread := nread - (k + 2)
          (nread, memmove (m + 1) (m + 2 + k + 1) (nread - m + 1) buf)
      else (nread, buf)
  else if (cstr buf)[0]? = some 60 then
    match strchr 62 (cstr buf) with
    | none => (nread, buf)
    | some m =>
      let nread := nread - (m + 1)
      (nread, memmove 0 (m + 1) (nread + 1) buf)
  else (nread, buf)

/-- `wifi_wait_on_socket` (Rk_wifi.c:2892-2955) into a zeroed buffer. A failed reception
leaves the buffer and its length as they were. -/
def wifiWaitOnSocket (buflen : Nat) (conn : Bool) (r : Received) : Nat × List UInt8 :=
  if conn = false then printed buflen (closedEvent (chars "connection closed"))
  else if r.result = -2 then printed buflen (closedEvent (chars "connection closed"))
  else
    let nread := match r.data with
      | some data => (data.take (buflen - 1)).length
      | none => buflen - 1
    let buf := (r.data.getD []).take (buflen - 1)
    let buf := buf ++ List.replicate (buflen - buf.length) 0
    if r.result = 0 ∧ nread = 0 then printed buflen (closedEvent (chars "signal 0 received"))
    else stripLevel buflen nread buf

/-! ## The loop -/

/-- The monitor thread: `wpa_exit`, its two sockets, and the shared variables. -/
structure Monitor where
  wpaExit : Bool
  ctrlConn : Bool
  monitorConn : Bool
  world : World

/-- One turn of the loop seen from outside: what another thread writes to `wpa_exit` before
the test, what `wifi_ctrl_recv` returns, and the answers while the event is handled. -/
structure Turn where
  write : Option Bool
  recv : Received
  returned : ∃ polls, wifiCtrlRecv polls = some recv
  env : EventEnv

/-- The loop goes on, or it is left. -/
inductive Progress
  | looping (m : Monitor)
  | left (m : Monitor)

/-- `wifi_close_sockets` (Rk_wifi.c:2643-2653). -/
def wifiCloseSockets (m : Monitor) : Monitor :=
  { m with ctrlConn := false, monitorConn := false }

/-- The size of the buffer for events. -/
def eventBufSize : Nat := 1024

/-- The body of the `for` loop (Rk_wifi.c:3036-3050) behind the test of `wpa_exit`. -/
def handleTurn (turn : Turn) (m : Monitor) : Option Progress :=
  let got := wifiWaitOnSocket eventBufSize m.monitorConn turn.recv
  let m := { m with wpaExit := m.wpaExit || (m.monitorConn && turn.recv.exits) }
  if got.1 = 0 then some (.looping m)
  else do
    let handled ← dispatchEvent turn.env (cstr got.2) m.world
    let m := { m with world := handled.world }
    let m := if handled.closed then wifiCloseSockets m else m
    some (if handled.ret = 0 then .looping m else .left (wifiCloseSockets m))

/-- A whole turn. -/
def monitorTurn (turn : Turn) (m : Monitor) : Option Progress :=
  let m := { m with wpaExit := turn.write.getD m.wpaExit }
  if m.wpaExit then some (.left (wifiCloseSockets m)) else handleTurn turn m

/-- The first `n` turns. -/
def monitorRun (turns : Nat → Turn) : Nat → Monitor → Option Progress
  | 0, m => some (.looping m)
  | n + 1, m =>
    (monitorRun turns n m).bind fun
      | .looping m => monitorTurn (turns n) m
      | .left m => some (.left m)

/-! ## The loop with its connection gone -/

/-- From now on there is nothing to read: the socket is closed, or every reception fails with
-2 or ends the file. -/
def Gone (turns : Nat → Turn) (m : Monitor) : Prop :=
  m.monitorConn = false ∨
    ∀ n, (turns n).recv.result = -2 ∨ ((turns n).recv.result = 0 ∧ (turns n).recv.data = some [])

/-- The loop is left after finitely many turns with both sockets closed. -/
def Ends (turns : Nat → Turn) (m : Monitor) : Prop :=
  ∃ n m', monitorRun turns n m = some (.left m') ∧ m'.ctrlConn = false ∧ m'.monitorConn = false

/-- An event text that starts with `CTRL-EVENT-TERMINATING`, on its own or behind the name of
an interface. -/
def TerminatingEvent (event : List UInt8) : Prop :=
  chars "CTRL-EVENT-TERMINATING" <+: event ∨
    ∃ iface, chars "IFNAME=" ++ iface ++ chars " CTRL-EVENT-TERMINATING" <+: event

/-- The value of `wpa_exit` after what other threads write to it before the tests of the
first `n` turns. -/
def wpaExitAfter (turns : Nat → Turn) (start : Bool) : Nat → Bool
  | 0 => start
  | n + 1 => (turns n).write.getD (wpaExitAfter turns start n)

/-- `dispatch_event` drops every event that names the end of the supplicant. -/
theorem dispatch_terminating {event : List UInt8}
    (h : chars "CTRL-EVENT-TERMINATING" <:+: event) (e : EventEnv) (w : World) :
    dispatchEvent e event w = some ⟨0, false, w⟩ := by
  have hfilter : handlerOf event = .filtered := by
    unfold handlerOf
    rw [if_pos]
    rw [Bool.or_eq_true]
    exact .inr (decide_eq_true h)
  unfold dispatchEvent
  rw [hfilter]

theorem TerminatingEvent.infix {event : List UInt8} (h : TerminatingEvent event) :
    chars "CTRL-EVENT-TERMINATING" <:+: event := by
  rcases h with h | ⟨iface, h⟩
  · exact h.isInfix
  · refine List.IsInfix.trans ?_ h.isInfix
    refine List.IsSuffix.isInfix ⟨chars "IFNAME=" ++ iface ++ chars " ", ?_⟩
    rw [List.append_assoc]
    rfl

/-- A text that starts with the event is dropped before the comparison. -/
theorem filtered_of_terminating (event : List UInt8)
    (h : strStartsWith event wpaEventTerminating = true) :
    (contains (chars "CTRL-EVENT-BSS") event || contains (chars "CTRL-EVENT-TERMINATING") event) =
      true := by
  obtain ⟨-, hpre⟩ := strstr_eq_some (of_decide_eq_true h)
  rw [List.drop_zero] at hpre
  have hinfix : chars "CTRL-EVENT-TERMINATING" <:+: event := by
    refine List.IsInfix.trans ?_ hpre.isInfix
    exact List.IsPrefix.isInfix ⟨chars " ", rfl⟩
  rw [Bool.or_eq_true]
  exact .inr (decide_eq_true hinfix)

/-- The branch for the end of the supplicant is never taken: its texts are dropped before. -/
theorem handlerOf_ne_terminating (event : List UInt8) : handlerOf event ≠ .terminating := by
  intro h
  unfold handlerOf at h
  split_ifs at h with hfilter _ _ _ _ hstart
  exact hfilter (filtered_of_terminating event hstart)

/-- So no event at all ends the loop. -/
theorem dispatch_ret {e : EventEnv} {event : List UInt8} {w : World} {handled : Handled}
    (h : dispatchEvent e event w = some handled) : handled.ret = 0 ∧ handled.closed = false := by
  unfold dispatchEvent at h
  split at h
  next =>
    obtain rfl := Option.some.inj h
    exact ⟨rfl, rfl⟩
  next hterm => exact absurd hterm (handlerOf_ne_terminating event)
  next =>
    obtain ⟨w', -, h⟩ := Option.bind_eq_some_iff.mp h
    obtain rfl := Option.some.inj h
    exact ⟨rfl, rfl⟩
  next =>
    obtain rfl := Option.some.inj h
    exact ⟨rfl, rfl⟩
  next =>
    obtain rfl := Option.some.inj h
    exact ⟨rfl, rfl⟩

/-- **One turn.** The loop is left exactly if `wpa_exit` is set at the test; otherwise the
turn sets it only if `wifi_ctrl_recv` sees `wifi_onoff_flag` cleared. -/
theorem monitorTurn_cases {turn : Turn} {m : Monitor} {p : Progress}
    (h : monitorTurn turn m = some p) :
    (turn.write.getD m.wpaExit = true ∧ ∃ m', p = .left m') ∨
      (turn.write.getD m.wpaExit = false ∧
        ∃ m', p = .looping m' ∧ m'.wpaExit = (m.monitorConn && turn.recv.exits) ∧
          m'.ctrlConn = m.ctrlConn ∧ m'.monitorConn = m.monitorConn) := by
  unfold monitorTurn at h
  cases hexit : turn.write.getD m.wpaExit with
  | true =>
    simp only [hexit, if_true] at h
    exact .inl ⟨rfl, _, (Option.some.inj h).symm⟩
  | false =>
    simp only [hexit] at h
    refine .inr ⟨rfl, ?_⟩
    unfold handleTurn at h
    simp only [Bool.false_eq_true, if_false] at h
    split_ifs at h with hzero
    · exact ⟨_, (Option.some.inj h).symm, Bool.false_or _, rfl, rfl⟩
    · obtain ⟨handled, hdispatch, h⟩ := Option.bind_eq_some_iff.mp h
      obtain ⟨hret, hopen⟩ := dispatch_ret hdispatch
      rw [hret, hopen] at h
      exact ⟨_, (Option.some.inj h).symm, Bool.false_or _, rfl, rfl⟩

/-! ## A turn without a connection -/

/-- Nothing is read and the socket reports its end. -/
def Received.Gone (r : Received) : Prop := r.result = -2 ∨ (r.result = 0 ∧ r.data = some [])

/-- The event that is made up fits the buffer and names the end of the supplicant. -/
theorem wait_gone {conn : Bool} {r : Received} (h : conn = false ∨ r.Gone) :
    (wifiWaitOnSocket eventBufSize conn r).1 ≠ 0 ∧
      chars "CTRL-EVENT-TERMINATING" <:+: cstr (wifiWaitOnSocket eventBufSize conn r).2 := by
  have hclosed : (printed eventBufSize (closedEvent (chars "connection closed"))).1 ≠ 0 ∧
      chars "CTRL-EVENT-TERMINATING" <:+:
        cstr (printed eventBufSize (closedEvent (chars "connection closed"))).2 := by
    decide
  have hsignal : (printed eventBufSize (closedEvent (chars "signal 0 received"))).1 ≠ 0 ∧
      chars "CTRL-EVENT-TERMINATING" <:+:
        cstr (printed eventBufSize (closedEvent (chars "signal 0 received"))).2 := by
    decide
  unfold wifiWaitOnSocket
  split_ifs with hconn hresult
  · exact hclosed
  · exact hclosed
  · rcases h with h | h | ⟨hzero, hdata⟩
    · exact absurd h hconn
    · exact absurd h hresult
    · simp only [hdata, hzero, List.take_nil, List.length_nil, and_self, if_true]
      exact hsignal

/-- **A turn changes nothing.** Behind the test of `wpa_exit` the loop starts over. -/
theorem handleTurn_gone {turn : Turn} {m : Monitor}
    (h : m.monitorConn = false ∨ turn.recv.Gone) : handleTurn turn m = some (.looping m) := by
  obtain ⟨hret, hevent⟩ := wait_gone h
  have hkept : (m.wpaExit || (m.monitorConn && turn.recv.exits)) = m.wpaExit := by
    have hno : (m.monitorConn && turn.recv.exits) = false := by
      rcases h with h | h | ⟨h, -⟩
      · rw [h, Bool.false_and]
      · rw [Received.exits, h]
        exact Bool.and_false _
      · rw [Received.exits, h]
        exact Bool.and_false _
    rw [hno, Bool.or_false]
  unfold handleTurn
  simp only [if_neg hret, dispatch_terminating hevent, hkept]
  rfl

/-- A whole turn: the loop is left if `wpa_exit` is set at the test, and goes on otherwise. -/
theorem monitorTurn_gone {turn : Turn} {m : Monitor} (h : m.monitorConn = false ∨ turn.recv.Gone) :
    monitorTurn turn m = some
      (if turn.write.getD m.wpaExit then
        .left (wifiCloseSockets { m with wpaExit := turn.write.getD m.wpaExit })
      else .looping { m with wpaExit := turn.write.getD m.wpaExit }) := by
  unfold monitorTurn
  cases hexit : turn.write.getD m.wpaExit with
  | true => rfl
  | false => exact handleTurn_gone h

section

variable {turns : Nat → Turn} {m : Monitor} (hgone : Gone turns m)

include hgone

theorem Gone.turn (n : Nat) : m.monitorConn = false ∨ (turns n).recv.Gone := by
  rcases hgone with hconn | hrecv
  · exact .inl hconn
  · exact .inr (hrecv n)

theorem run_turn_gone {n : Nat} {exit : Bool}
    (h : monitorRun turns n m = some (.looping { m with wpaExit := exit })) :
    monitorRun turns (n + 1) m = some
      (if (turns n).write.getD exit then
        .left (wifiCloseSockets { m with wpaExit := (turns n).write.getD exit })
      else .looping { m with wpaExit := (turns n).write.getD exit }) := by
  rw [monitorRun, h]
  exact monitorTurn_gone (m := { m with wpaExit := exit }) (hgone.turn n)

/-- As long as no test sees `wpa_exit`, the turns leave the monitor as it was. -/
theorem run_gone {n : Nat} (h : ∀ k < n, wpaExitAfter turns m.wpaExit (k + 1) = false) :
    monitorRun turns n m =
      some (.looping { m with wpaExit := wpaExitAfter turns m.wpaExit n }) := by
  induction n with
  | zero => rfl
  | succ n ih =>
    have hclear : (turns n).write.getD (wpaExitAfter turns m.wpaExit n) = false :=
      h n (Nat.lt_succ_self n)
    rw [run_turn_gone hgone (ih fun k hk => h k (Nat.lt_succ_of_lt hk)), wpaExitAfter, hclear]
    rfl

/-- The first test that sees `wpa_exit` ends the loop. -/
theorem ends_of_exit {n : Nat} (h : wpaExitAfter turns m.wpaExit (n + 1) = true) :
    Ends turns m := by
  classical
  let P : Nat → Prop := fun k => wpaExitAfter turns m.wpaExit (k + 1) = true
  have hex : ∃ k, P k := ⟨n, h⟩
  have hfirst : (turns (Nat.find hex)).write.getD (wpaExitAfter turns m.wpaExit (Nat.find hex)) =
      true := Nat.find_spec hex
  have hbefore : ∀ k < Nat.find hex, wpaExitAfter turns m.wpaExit (k + 1) = false := by
    intro k hk
    exact Bool.eq_false_iff.mpr (Nat.find_min hex hk)
  refine ⟨Nat.find hex + 1, wifiCloseSockets { m with wpaExit := true }, ?_, rfl, rfl⟩
  rw [run_turn_gone hgone (run_gone hgone hbefore), hfirst]
  rfl

end

/-- **The end of the loop.** With its connection gone, the loop is left exactly if `wpa_exit`
is set at one of its tests: the events made up for this purpose, like any other event of the
end of the supplicant, make `dispatch_event` return 0. -/
theorem monitor_ends_iff {turns : Nat → Turn} {m : Monitor} (hgone : Gone turns m) :
    (Ends turns m ↔ ∃ n, wpaExitAfter turns m.wpaExit (n + 1) = true) ∧
      ∀ e event w, TerminatingEvent event → dispatchEvent e event w = some ⟨0, false, w⟩ := by
  refine ⟨⟨?_, ?_⟩, ?_⟩
  · rintro ⟨n, m', hleft, -, -⟩
    by_contra hnever
    have hclear : ∀ k, wpaExitAfter turns m.wpaExit (k + 1) = false := by
      intro k
      exact Bool.eq_false_iff.mpr fun hexit => hnever ⟨k, hexit⟩
    rw [run_gone hgone fun k _ => hclear k] at hleft
    cases hleft
  · rintro ⟨n, hexit⟩
    exact ends_of_exit hgone hexit
  · intro e event w hevent
    exact dispatch_terminating hevent.infix e w

/-- A monitor whose sockets are closed, before any call. -/
def Monitor.closed : Monitor := ⟨false, false, false, .boot⟩

/-- A turn in which nothing happens outside. -/
def Turn.quiet : Turn where
  write := none
  recv := ⟨-2, none⟩
  returned := ⟨[(.ready false none, true)], rfl⟩
  env := ⟨.allOk, ⟨0, [], [], 0⟩, ⟨0, [], [], 0⟩, none⟩

theorem monitor_ends_closed :
    (Ends (fun _ => { Turn.quiet with write := some true }) .closed ↔
        ∃ n, wpaExitAfter (fun _ => { Turn.quiet with write := some true }) false (n + 1) = true) ∧
      ∀ e event w, TerminatingEvent event → dispatchEvent e event w = some ⟨0, false, w⟩ :=
  monitor_ends_iff (.inl rfl)

/-- A monitor without connection that nobody tells to exit runs on for ever. -/
theorem monitor_spins : ¬ ∀ (turns : Nat → Turn) (m : Monitor), Gone turns m →
    Ends turns m ∧ ∀ e event w, TerminatingEvent event →
      ∀ handled, dispatchEvent e event w = some handled → handled.ret ≠ 0 := by
  intro h
  obtain ⟨n, m', hleft, -, -⟩ := (h (fun _ => .quiet) .closed (.inl rfl)).1
  have hnever : ∀ k, wpaExitAfter (fun _ => Turn.quiet) false k = false := by
    intro k
    induction k with
    | zero => rfl
    | succ k ih => exact ih
  rw [run_gone (.inl rfl) fun k _ => hnever (k + 1)] at hleft
  cases hleft

end ConnectApp.Wifi
