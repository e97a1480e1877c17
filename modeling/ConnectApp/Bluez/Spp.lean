import ConnectApp.Lib.Transition

/-!
# Serial port profile (spp_server.c:109-210, 291-410, 458-510)

`bt_spp_server_open` starts a thread that waits for connections and reads from them,
`bt_spp_client_open` one that connects to another device. Both threads and the functions that
start and stop them share the variables of `g_spp_handler`. Nothing protects them; the steps
below are those between two system calls, in any order.

The sockets are never closed, only shut down, so a descriptor always stands for the same
socket; what counts here is whose it is (`Sock`).

`server_restartable`: the server can be restarted, if its threads get past `listen`. Opening
looks at `tid`, closing at `server_running`, and a thread that fails earlier leaves the one
set and the other not (`listen_failure_sticks`).
-/

namespace ConnectApp.Bluez

open Transition

/-- Whose socket it is: the one the server listens on, a connection it has accepted, or the
client's. -/
inductive Sock
  | listening
  | accepted
  | client
  deriving DecidableEq

/-- Who shuts a socket down. -/
inductive Agent
  | server
  | client
  | application
  deriving DecidableEq

/-- `RK_BT_SPP_STATE`. -/
inductive SppState
  | idle
  | connect
  | disconnect
  | connectFailed
  deriving DecidableEq

/-- The next system call of the server thread. -/
inductive ServerPc
  | socket
  | bind
  | listen
  /-- The test of `server_running`, and `select`. -/
  | select
  | accept
  | read
  /-- `OUT:`, before `close_cilent_fd`. -/
  | outClient
  | outServer
  deriving DecidableEq

/-- The next system call of a client thread. -/
inductive ClientPc
  | socket
  | bind
  | connect
  | poll
  /-- `DIS:` -/
  | dis
  /-- `OUT:`, before `close_cilent_fd`. -/
  | outClient
  | outServer
  deriving DecidableEq

/-- Where `bt_spp_server_close` is: in its sleep, or before `pthread_join`. -/
inductive ClosePc
  | sleep
  | join
  deriving DecidableEq

/-- What a system call returns: a failure, a success, or a time-out. -/
inductive SysResult
  | fail
  | ok
  | again
  deriving DecidableEq

/-- `g_spp_handler`, with the threads that are alive. `tid`, `cid` and `stateCb` tell whether
the thread ids and the status callback are set. `created` counts the server threads,
`shutdowns` are the calls of `shutdown` and `reports` those of the callback. -/
structure Spp where
  clientFd : Option Sock := none
  serverFd : Option Sock := none
  tid : Bool := false
  cid : Bool := false
  serverRunning : Bool := false
  serverState : SppState := .idle
  server : Option ServerPc := none
  clients : List ClientPc := []
  closing : Option ClosePc := none
  stateCb : Bool := false
  created : Nat := 0
  shutdowns : List (Agent × Sock) := []
  reports : List SppState := []
  deriving DecidableEq

namespace Spp

/-- `spp_state_send` (spp_server.c:103-107). -/
def sppStateSend (s : Spp) (state : SppState) : Spp :=
  if s.stateCb then { s with reports := s.reports ++ [state] } else s

/-- `close_cilent_fd` (spp_server.c:109-115). -/
def closeCilentFd (s : Spp) (by_ : Agent) : Spp :=
  match s.clientFd with
  | none => s
  | some fd => { s with clientFd := none, shutdowns := s.shutdowns ++ [(by_, fd)] }

/-- `close_server_fd` (spp_server.c:117-123). -/
def closeServerFd (s : Spp) (by_ : Agent) : Spp :=
  match s.serverFd with
  | none => s
  | some fd => { s with serverFd := none, shutdowns := s.shutdowns ++ [(by_, fd)] }

/-- One step of `spp_server_thread` (spp_server.c:125-210). -/
def serverStep (s : Spp) (r : SysResult) : ServerPc → Spp
  | .socket =>
    if r = .fail then { s with serverFd := none, server := some .outClient }
    else { s with serverFd := some .listening, server := some .bind }
  | .bind => { s with server := some (if r = .fail then .outClient else .listen) }
  | .listen =>
    if r = .fail then { s with server := some .outClient }
    else { s with serverRunning := true, server := some .select }
  | .select =>
    if !s.serverRunning then { s with server := some .outClient }
    else
      { s with
        server := some (match r with
          | .fail => .outClient
          | .again => .select
          | .ok => .accept) }
  | .accept =>
    if r = .fail then { s with clientFd := none, server := some .outClient }
    else
      { s with clientFd := some .accepted, serverState := .connect, server := some .read
        }.sppStateSend .connect
  | .read =>
    if r = .fail then
      { s.closeCilentFd .server with serverState := .disconnect, server := some .select
        }.sppStateSend .disconnect
    else s
  | .outClient => { s.closeCilentFd .server with server := some .outServer }
  | .outServer => { s.closeServerFd .server with serverState := .idle, server := none }

/-- One step of the client thread number `i` (spp_server.c:291-391). The process ends when
the address of the adapter cannot be read, so that this is left out. -/
def clientStep (s : Spp) (i : Nat) (r : SysResult) : ClientPc → Spp
  | .socket =>
    if r = .fail then { s with clientFd := none, clients := s.clients.set i .outClient }
    else { s with clientFd := some .client, clients := s.clients.set i .bind }
  -- a failure returns at once, and leaves `cid` as it is
  | .bind =>
    if r = .fail then { s with clients := s.clients.eraseIdx i }
    else { s with clients := s.clients.set i .connect }
  | .connect =>
    if r = .fail then { s with clients := s.clients.set i .outClient }.sppStateSend .connectFailed
    else
      { s with serverState := .connect, cid := false, clients := s.clients.set i .poll
        }.sppStateSend .connect
  | .poll =>
    if r = .again ∧ s.clientFd ≠ none then s else { s with clients := s.clients.set i .dis }
  | .dis => { s with clients := s.clients.set i .outClient }.sppStateSend .disconnect
  | .outClient => { s.closeCilentFd .client with clients := s.clients.set i .outServer }
  | .outServer =>
    { s.closeServerFd .client with
      serverState := .idle, cid := false, clients := s.clients.eraseIdx i }

/-- `bt_spp_client_open` (spp_server.c:393-410); the thread can be created. -/
def btSppClientOpen (s : Spp) : Spp :=
  if s.cid then s else { s with cid := true, clients := s.clients ++ [.socket] }

/-- `bt_spp_server_open` (spp_server.c:458-477); the thread can be created. -/
def btSppServerOpen (s : Spp) : Spp :=
  if s.tid then s else { s with tid := true, server := some .socket, created := s.created + 1 }

/-- `bt_spp_server_close` up to its sleep (spp_server.c:489-497). -/
def btSppServerClose (s : Spp) : Spp :=
  if s.serverRunning then
    { { s with serverRunning := false }.closeCilentFd .application with closing := some .sleep }
  else s

/-- The rest of `bt_spp_server_close` (spp_server.c:498-510). It waits for the server thread,
if there is a thread id. -/
def closeStep (s : Spp) : ClosePc → Option Spp
  | .sleep => some { s.closeServerFd .application with closing := some .join }
  | .join =>
    if s.tid ∧ s.server ≠ none then none
    else some { s with tid := false, stateCb := false, serverState := .idle, closing := none }

/-- `bt_spp_register_status_callback` (spp_server.c:484-487). -/
def btSppRegisterStatusCallback (s : Spp) : Spp := { s with stateCb := true }

end Spp

/-! ## Runs -/

/-- What can happen, thread by thread. -/
inductive SppMove
  | register
  | clientOpen
  | serverOpen
  | serverClose
  | closeStep
  | server (r : SysResult)
  | client (i : Nat) (r : SysResult)
  deriving DecidableEq

/-- One move, if it can happen. `bt_spp_server_close` is not called while it runs. -/
def Spp.next (s : Spp) : SppMove → Option Spp
  | .register => some s.btSppRegisterStatusCallback
  | .clientOpen => some s.btSppClientOpen
  | .serverOpen => some s.btSppServerOpen
  | .serverClose => if s.closing = none then some s.btSppServerClose else none
  | .closeStep => s.closing.bind s.closeStep
  | .server r => s.server.map (s.serverStep r)
  | .client i r => s.clients[i]?.map (s.clientStep i r)

/-- The component, from the start of the program. -/
def sppSystem : System Spp SppMove where
  init := fun s => s = {}
  step := fun s m t => s.next m = some t

namespace Spp

/-! ### What the helpers write

One equation for each of them, from which every other field can be read off. -/

theorem sppStateSend_eq (s : Spp) (state : SppState) :
    s.sppStateSend state =
      { s with reports := if s.stateCb then s.reports ++ [state] else s.reports } := by
  unfold sppStateSend
  split_ifs <;> rfl

theorem closeCilentFd_eq (s : Spp) (by_ : Agent) :
    s.closeCilentFd by_ =
      { s with
        clientFd := none
        shutdowns := s.shutdowns ++ (s.clientFd.map (by_, ·)).toList } := by
  obtain ⟨clientFd⟩ := s
  cases clientFd with
  | none => simp [closeCilentFd]
  | some fd => rfl

theorem closeServerFd_eq (s : Spp) (by_ : Agent) :
    s.closeServerFd by_ =
      { s with
        serverFd := none
        shutdowns := s.shutdowns ++ (s.serverFd.map (by_, ·)).toList } := by
  obtain ⟨-, serverFd⟩ := s
  cases serverFd with
  | none => simp [closeServerFd]
  | some fd => rfl

end Spp

/-! ## The life of the server

`tid`, `server_running`, the thread and a call of `bt_spp_server_close` under way: as long as
the thread gets past `listen`, only four combinations occur. -/

/-- The thread has not got past `listen` yet. -/
def ServerPc.starting : ServerPc → Bool
  | .socket | .bind | .listen => true
  | _ => false

/-- The phases of the server. -/
inductive ServerPhase
  | stopped
  | starting
  | up
  | closing
  deriving DecidableEq

namespace ServerPhase

/-- The threads a phase goes with. When the server is up its thread may have ended. -/
def Thread : ServerPhase → Option ServerPc → Prop
  | stopped, server => server = none
  | starting, server => ∃ pc, server = some pc ∧ pc.starting = true
  | up, server | closing, server => ∀ pc, server = some pc → pc.starting = false

/-- What the variables look like in a phase. -/
structure Shows (p : ServerPhase) (s : Spp) : Prop where
  tid : s.tid = decide (p ≠ stopped)
  running : s.serverRunning = decide (p = up)
  closing : s.closing.isSome = decide (p = closing)
  thread : p.Thread s.server

theorem Shows.congr {p : ServerPhase} {s t : Spp} (h : p.Shows s) (htid : t.tid = s.tid)
    (hrunning : t.serverRunning = s.serverRunning) (hclosing : t.closing = s.closing)
    (hserver : t.server = s.server) : p.Shows t :=
  ⟨htid ▸ h.tid, hrunning ▸ h.running, hclosing ▸ h.closing, hserver ▸ h.thread⟩

end ServerPhase

namespace ServerPhase

/-- A client thread does not touch the server's life. -/
theorem Shows.clientStep {p : ServerPhase} {s : Spp} (h : p.Shows s) (i : Nat)
    (r : SysResult) (pc : ClientPc) : p.Shows (s.clientStep i r pc) := by
  cases pc <;> simp only [Spp.clientStep, Spp.sppStateSend_eq, Spp.closeCilentFd_eq,
    Spp.closeServerFd_eq]
  case socket | bind | connect | poll => split_ifs <;> exact h.congr rfl rfl rfl rfl
  all_goals exact h.congr rfl rfl rfl rfl

/-- A thread that is past `listen` changes neither variable. -/
theorem Shows.late {p : ServerPhase} {s t : Spp} (h : p.Shows s) (hp : p = up ∨ p = .closing)
    (htid : t.tid = s.tid) (hrunning : t.serverRunning = s.serverRunning)
    (hclosing : t.closing = s.closing)
    (hserver : ∀ pc, t.server = some pc → pc.starting = false) : p.Shows t := by
  refine ⟨htid ▸ h.tid, hrunning ▸ h.running, hclosing ▸ h.closing, ?_⟩
  obtain rfl | rfl := hp <;> exact hserver

theorem Shows.serverStep_late {p : ServerPhase} {s : Spp} (h : p.Shows s)
    (hp : p = up ∨ p = .closing) {pc : ServerPc} (hpc : s.server = some pc) (r : SysResult) :
    p.Shows (s.serverStep r pc) := by
  have hlate : pc.starting = false := by
    obtain rfl | rfl := hp <;> exact h.thread pc hpc
  cases pc <;> simp only [Spp.serverStep, Spp.sppStateSend_eq, Spp.closeCilentFd_eq,
    Spp.closeServerFd_eq]
  case socket | bind | listen => cases hlate
  case select =>
    split_ifs
    · exact h.late hp rfl rfl rfl (by rintro _ ⟨⟩; rfl)
    · cases r <;> exact h.late hp rfl rfl rfl (by rintro _ ⟨⟩; rfl)
  case accept => split_ifs <;> exact h.late hp rfl rfl rfl (by rintro _ ⟨⟩; rfl)
  case read =>
    by_cases hr : r = .fail
    · rw [if_pos hr]
      exact h.late hp rfl rfl rfl (by rintro _ ⟨⟩; rfl)
    · rw [if_neg hr]
      exact h
  case outClient => exact h.late hp rfl rfl rfl (by rintro _ ⟨⟩; rfl)
  case outServer => exact h.late hp rfl rfl rfl nofun

/-- A thread on its way to the loop: it gets on with it, or the server is up. -/
theorem Shows.serverStep_starting {s : Spp} (h : starting.Shows s) {pc : ServerPc}
    (hstarting : pc.starting = true) {r : SysResult} (hr : r ≠ .fail) :
    ∃ q : ServerPhase, q.Shows (s.serverStep r pc) := by
  cases pc <;> simp only [Spp.serverStep, if_neg hr]
  case socket => exact ⟨starting, h.tid, h.running, h.closing, .bind, rfl, rfl⟩
  case bind => exact ⟨starting, h.tid, h.running, h.closing, .listen, rfl, rfl⟩
  case listen => exact ⟨up, h.tid, rfl, h.closing, by rintro _ ⟨⟩; rfl⟩
  all_goals cases hstarting

/-- A step of the server thread, if `socket`, `bind` and `listen` succeed. -/
theorem Shows.serverStep {p : ServerPhase} {s : Spp} (h : p.Shows s) {pc : ServerPc}
    (hpc : s.server = some pc) {r : SysResult} (hr : pc.starting = true → r ≠ .fail) :
    ∃ q : ServerPhase, q.Shows (s.serverStep r pc) := by
  cases p with
  | stopped =>
    have hnone : s.server = none := h.thread
    rw [hnone] at hpc
    cases hpc
  | starting =>
    obtain ⟨pc', hpc', hstarting⟩ := h.thread
    obtain rfl : pc' = pc := Option.some.inj (hpc'.symm.trans hpc)
    exact h.serverStep_starting hstarting (hr hstarting)
  | up => exact ⟨up, h.serverStep_late (.inl rfl) hpc r⟩
  | closing => exact ⟨.closing, h.serverStep_late (.inr rfl) hpc r⟩

theorem Shows.btSppServerOpen {p : ServerPhase} {s : Spp} (h : p.Shows s) :
    ∃ q : ServerPhase, q.Shows s.btSppServerOpen := by
  unfold Spp.btSppServerOpen
  split_ifs with htid
  · exact ⟨p, h⟩
  · obtain rfl : p = stopped := by
      rw [h.tid, decide_eq_true_iff, not_not] at htid
      exact htid
    exact ⟨starting, rfl, h.running, h.closing, .socket, rfl, rfl⟩

theorem Shows.btSppServerClose {p : ServerPhase} {s : Spp} (h : p.Shows s) :
    ∃ q : ServerPhase, q.Shows s.btSppServerClose := by
  unfold Spp.btSppServerClose
  split_ifs with hrunning
  · obtain rfl : p = up := by rwa [h.running, decide_eq_true_iff] at hrunning
    rw [Spp.closeCilentFd_eq]
    exact ⟨.closing, h.tid, rfl, rfl, h.thread⟩
  · exact ⟨p, h⟩

/-- While the server is being closed its thread id is set, so that the thread is joined. -/
theorem Shows.closeStep {p : ServerPhase} {s t : Spp} (h : p.Shows s) {pc : ClosePc}
    (hpc : s.closing = some pc) (hstep : s.closeStep pc = some t) :
    ∃ q : ServerPhase, q.Shows t := by
  obtain rfl : p = .closing := by
    have hclosing := h.closing
    rw [hpc] at hclosing
    exact of_decide_eq_true hclosing.symm
  cases pc with
  | sleep =>
    obtain rfl := Option.some.inj hstep
    rw [Spp.closeServerFd_eq]
    exact ⟨.closing, h.tid, h.running, rfl, h.thread⟩
  | join =>
    have htid : s.tid = true := h.tid
    rw [Spp.closeStep, Option.ite_none_left_eq_some] at hstep
    obtain ⟨hended, ⟨⟩⟩ := hstep
    have hnone : s.server = none := by simpa [htid] using hended
    exact ⟨stopped, rfl, h.running, rfl, hnone⟩

end ServerPhase

/-! ### Restarting -/

namespace Spp

/-- A whole call of `bt_spp_server_close`, with nothing else in between. -/
def serverCloseCall (s : Spp) : Option Spp := do
  let s ← s.next .serverClose
  match s.closing with
  | none => return s
  | some _ =>
    let s ← s.next .closeStep
    s.next .closeStep

/-- Closing and opening the server creates a thread. -/
def Restartable (s : Spp) : Prop :=
  ∃ t, s.serverCloseCall = some t ∧ t.btSppServerOpen.created = s.created + 1

/-- `socket`, `bind` and `listen` succeed in the server thread. -/
def Listens (s : Spp) : SppMove → Prop
  | .server r => ∀ pc, s.server = some pc → pc.starting = true → r ≠ .fail
  | _ => True

theorem next_phase {p : ServerPhase} {s t : Spp} (h : p.Shows s) {m : SppMove}
    (hlistens : s.Listens m) (hnext : s.next m = some t) : ∃ q : ServerPhase, q.Shows t := by
  cases m with
  | register =>
    obtain rfl := Option.some.inj hnext
    exact ⟨p, h.congr rfl rfl rfl rfl⟩
  | clientOpen =>
    obtain rfl := Option.some.inj hnext
    unfold btSppClientOpen
    split_ifs
    · exact ⟨p, h⟩
    · exact ⟨p, h.congr rfl rfl rfl rfl⟩
  | serverOpen =>
    obtain rfl := Option.some.inj hnext
    exact h.btSppServerOpen
  | serverClose =>
    rw [next, Option.ite_none_right_eq_some] at hnext
    obtain ⟨-, ⟨⟩⟩ := hnext
    exact h.btSppServerClose
  | closeStep =>
    obtain ⟨pc, hpc, hstep⟩ := Option.bind_eq_some_iff.mp hnext
    exact h.closeStep hpc hstep
  | server r =>
    obtain ⟨pc, hpc, rfl⟩ := Option.map_eq_some_iff.mp hnext
    exact h.serverStep hpc (hlistens pc hpc)
  | client i r =>
    obtain ⟨pc, -, rfl⟩ := Option.map_eq_some_iff.mp hnext
    exact ⟨p, h.clientStep i r pc⟩

/-- With the server stopped, closing does nothing and opening starts the thread. -/
theorem restartable_stopped {s : Spp} (h : ServerPhase.stopped.Shows s) : s.Restartable := by
  have hclosing : s.closing = none := Option.isNone_iff_eq_none.mp (by
    rw [← Option.not_isSome, h.closing]
    rfl)
  have hclose : s.btSppServerClose = s := by
    rw [btSppServerClose, h.running]
    rfl
  have hfirst : s.next .serverClose = some s := by rw [next, if_pos hclosing, hclose]
  refine ⟨s, ?_, ?_⟩
  · simp [serverCloseCall, hfirst, hclosing]
  · rw [btSppServerOpen, h.tid]
    rfl

/-- With the server up and its thread ended, `pthread_join` returns and `tid` is cleared. -/
theorem restartable_up {s : Spp} (h : ServerPhase.up.Shows s) (hended : s.server = none) :
    s.Restartable := by
  have hclosing : s.closing = none := Option.isNone_iff_eq_none.mp (by
    rw [← Option.not_isSome, h.closing]
    rfl)
  have hrunning : s.serverRunning = true := h.running
  simp [Restartable, serverCloseCall, next, hclosing, btSppServerClose, hrunning,
    closeCilentFd_eq, closeServerFd_eq, closeStep, hended, btSppServerOpen]

end Spp

/-- **The server can be restarted.** In a run in which every server thread gets past
`listen`, closing and opening the server creates a thread, whenever none is alive. -/
theorem server_restartable {s : Spp} (h : Reach sppSystem Spp.Listens s) (hended : s.server = none)
    (hidle : s.closing = none) : s.Restartable := by
  have hphase : ∃ p : ServerPhase, p.Shows s := by
    refine h.invariant (P := fun s => ∃ p : ServerPhase, p.Shows s) ?_ ?_
    · rintro s rfl
      exact ⟨.stopped, rfl, rfl, rfl, rfl⟩
    · rintro s m t ⟨p, hp⟩ hlistens hnext
      exact Spp.next_phase hp hlistens hnext
  obtain ⟨p, hshows⟩ := hphase
  cases p with
  | stopped => exact Spp.restartable_stopped hshows
  | starting =>
    obtain ⟨pc, hpc, -⟩ := hshows.thread
    rw [hended] at hpc
    cases hpc
  | up => exact Spp.restartable_up hshows hended
  | closing =>
    have hclosing := hshows.closing
    rw [hidle] at hclosing
    cases hclosing

instance (s : Spp) : (m : SppMove) → Decidable (s.Listens m)
  | .server r =>
    match hs : s.server with
    | none => isTrue fun _ h => by rw [hs] at h; cases h
    | some pc => decidable_of_iff (pc.starting = true → r ≠ .fail) (by simp [Spp.Listens, hs])
  | .register | .clientOpen | .serverOpen | .serverClose | .closeStep | .client .. =>
    inferInstanceAs (Decidable True)

/-- The server comes up and `select` fails. -/
theorem server_restartable_select :
    ∃ s : Spp, s.server = none ∧ s.closing = none ∧ s.created = 1 ∧ s.Restartable := by
  have hrun : ([SppMove.serverOpen, .server .ok, .server .ok, .server .ok, .server .fail,
      .server .ok, .server .ok].foldlM (guarded Spp.next Spp.Listens) {}).map
      (fun s => (s.server, s.closing, s.created)) = some (none, none, 1) := by
    decide
  obtain ⟨s, hreach, hvals⟩ := Reach.of_guarded_run (S := sppSystem) (fun _ _ _ h => h) rfl hrun
  obtain ⟨hended, hvals⟩ := Prod.mk.inj hvals
  obtain ⟨hidle, hcreated⟩ := Prod.mk.inj hvals
  exact ⟨s, hended, hidle, hcreated, server_restartable hreach hended hidle⟩

instance (s : Spp) : Decidable s.Restartable :=
  decidable_of_iff (s.serverCloseCall.any fun t => t.btSppServerOpen.created = s.created + 1)
    (by simp [Spp.Restartable, Option.any_eq_true])

/-- `listen` fails: `tid` is set and `server_running` is not, so that closing returns at once
and opening finds a thread. -/
theorem listen_failure_sticks :
    ∃ s, Reach sppSystem (fun _ _ => True) s ∧ s.server = none ∧ s.closing = none ∧
      ¬ s.Restartable := by
  have hrun : ([SppMove.serverOpen, .server .ok, .server .ok, .server .fail, .server .ok,
      .server .ok].foldlM Spp.next {}).map
      (fun s => (s.server, s.closing, decide s.Restartable)) = some (none, none, false) := by
    decide
  obtain ⟨s, hreach, hvals⟩ := Reach.of_run (S := sppSystem) (fun _ _ _ h => h) rfl hrun
  obtain ⟨hended, hvals⟩ := Prod.mk.inj hvals
  obtain ⟨hidle, hstuck⟩ := Prod.mk.inj hvals
  exact ⟨s, hreach, hended, hidle, of_decide_eq_false hstuck⟩

end ConnectApp.Bluez
