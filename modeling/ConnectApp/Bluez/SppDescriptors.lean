import ConnectApp.Bluez.Spp
import Mathlib.Data.List.Induction

/-!
# The descriptors of the serial port profile (spp_server.c:109-210, 291-391)

The threads get descriptors from `socket`, `accept` and `hci_open_dev`. What they do with them in
the end is in `close_cilent_fd` and `close_server_fd`: a `shutdown`, and the field is overwritten
with -1. There is no `close` in either thread but for the one in front of `exit(1)`, and nobody
else has the number any more.

- `sysCalls`: the calls that a move of `sppSystem` makes, `next_shutdowns`: they are the calls the
  model of `Spp` records
- `spp_descriptors_stay_open`: in every run the open descriptors are all that were ever obtained,
  so all of them are closed only if there were none
- `exists_closed`: a server that is opened, serves `n` connections and is closed leaves `n + 1` of
  them; so there is no bound (`spp_descriptors_pile_up`)
-/

namespace ConnectApp.Bluez

open Transition

/-- What a descriptor is for: a socket, or `dd`, the device opened by a client thread. -/
inductive Descriptor
  | socket (sock : Sock)
  | hci
  deriving DecidableEq

/-- The system calls on descriptors. -/
inductive FdCall
  /-- A successful `socket`, `accept` or `hci_open_dev`. -/
  | obtain (d : Descriptor)
  | shutdown (sock : Sock)
  | close (d : Descriptor)
  deriving DecidableEq

namespace FdCall

/-- The descriptor that the call returns. -/
def obtained? : FdCall → Option Descriptor
  | obtain d => some d
  | _ => none

/-- The socket that the call shuts down. -/
def shutdown? : FdCall → Option Sock
  | shutdown sock => some sock
  | _ => none

end FdCall

/-- Every descriptor that was obtained. -/
def obtained (log : List FdCall) : List Descriptor := log.filterMap FdCall.obtained?

/-- The descriptors that are open after the calls. A `shutdown` ends the connection, and leaves the
descriptor. -/
def stillOpen (log : List FdCall) : List Descriptor :=
  log.foldl (fun fds call =>
    match call with
    | .obtain d => fds ++ [d]
    | .shutdown _ => fds
    | .close d => fds.erase d) []

namespace Spp

/-! ## The calls of a move -/

/-- `close_cilent_fd` (spp_server.c:109-115). -/
def closeCilentFdCalls (s : Spp) : List FdCall := s.clientFd.toList.map .shutdown

/-- `close_server_fd` (spp_server.c:117-123). -/
def closeServerFdCalls (s : Spp) : List FdCall := s.serverFd.toList.map .shutdown

/-- The calls in a step of `spp_server_thread` (spp_server.c:125-210). -/
def serverCalls (s : Spp) (r : SysResult) : ServerPc → List FdCall
  | .socket => if r = .fail then [] else [.obtain (.socket .listening)]
  | .accept => if r = .fail then [] else [.obtain (.socket .accepted)]
  | .read => if r = .fail then s.closeCilentFdCalls else []
  | .outClient => s.closeCilentFdCalls
  | .outServer => s.closeServerFdCalls
  | .bind | .listen | .select => []

/-- The calls in a step of `spp_client_thread` (spp_server.c:291-391). The device is opened before
the socket; if that fails the address cannot be read either, and the process ends. -/
def clientCalls (s : Spp) (r : SysResult) : ClientPc → List FdCall
  | .socket => .obtain .hci :: if r = .fail then [] else [.obtain (.socket .client)]
  | .outClient => s.closeCilentFdCalls
  | .outServer => s.closeServerFdCalls
  | .bind | .connect | .poll | .dis => []

/-- The calls in a move. -/
def sysCalls (s : Spp) : SppMove → List FdCall
  | .register | .clientOpen | .serverOpen => []
  | .serverClose => if s.serverRunning then s.closeCilentFdCalls else []
  | .closeStep =>
    match s.closing with
    | some .sleep => s.closeServerFdCalls
    | _ => []
  | .server r => s.server.toList.flatMap (s.serverCalls r)
  | .client i r => s.clients[i]?.toList.flatMap (s.clientCalls r)

end Spp

/-- One move, with the calls that have been made. -/
def sppFdNext (s : Spp × List FdCall) (m : SppMove) : Option (Spp × List FdCall) :=
  (s.1.next m).map fun t => (t, s.2 ++ s.1.sysCalls m)

/-- The component with the log of its calls. -/
def sppFdSystem : System (Spp × List FdCall) SppMove where
  init := fun s => s = ({}, [])
  step := fun s m t => sppFdNext s m = some t

namespace Spp

theorem closeCilentFd_shutdowns (s : Spp) (by_ : Agent) :
    (s.closeCilentFd by_).shutdowns.map Prod.snd =
      s.shutdowns.map Prod.snd ++ s.closeCilentFdCalls.filterMap FdCall.shutdown? := by
  rw [closeCilentFd_eq, closeCilentFdCalls]
  cases s.clientFd with
  | none => simp
  | some fd => simp [FdCall.shutdown?]

theorem closeServerFd_shutdowns (s : Spp) (by_ : Agent) :
    (s.closeServerFd by_).shutdowns.map Prod.snd =
      s.shutdowns.map Prod.snd ++ s.closeServerFdCalls.filterMap FdCall.shutdown? := by
  rw [closeServerFd_eq, closeServerFdCalls]
  cases s.serverFd with
  | none => simp
  | some fd => simp [FdCall.shutdown?]

theorem sppStateSend_shutdowns (s : Spp) (state : SppState) :
    (s.sppStateSend state).shutdowns = s.shutdowns := by
  rw [sppStateSend_eq]

theorem serverStep_shutdowns (s : Spp) (r : SysResult) (pc : ServerPc) :
    (s.serverStep r pc).shutdowns.map Prod.snd =
      s.shutdowns.map Prod.snd ++ (s.serverCalls r pc).filterMap FdCall.shutdown? := by
  cases pc with
  | socket | listen => simp only [serverStep, serverCalls]; split_ifs <;> simp [FdCall.shutdown?]
  | bind => simp [serverStep, serverCalls]
  | select => simp only [serverStep, serverCalls]; split_ifs <;> simp
  | accept =>
    rw [serverStep, serverCalls]
    split_ifs
    · simp
    · rw [sppStateSend_shutdowns]
      simp [FdCall.shutdown?]
  | read =>
    rw [serverStep, serverCalls]
    split_ifs
    · rw [sppStateSend_shutdowns]
      exact s.closeCilentFd_shutdowns .server
    · simp
  | outClient => exact s.closeCilentFd_shutdowns .server
  | outServer => exact s.closeServerFd_shutdowns .server

theorem clientStep_shutdowns (s : Spp) (i : Nat) (r : SysResult) (pc : ClientPc) :
    (s.clientStep i r pc).shutdowns.map Prod.snd =
      s.shutdowns.map Prod.snd ++ (s.clientCalls r pc).filterMap FdCall.shutdown? := by
  cases pc with
  | socket => rw [clientStep, clientCalls]; split_ifs <;> simp [FdCall.shutdown?]
  | bind | poll => rw [clientStep, clientCalls]; split_ifs <;> simp
  | connect =>
    rw [clientStep, clientCalls]
    split_ifs <;> rw [sppStateSend_shutdowns] <;> simp
  | dis => rw [clientStep, sppStateSend_shutdowns]; simp [clientCalls]
  | outClient => exact s.closeCilentFd_shutdowns .client
  | outServer => exact s.closeServerFd_shutdowns .client

/-- **The calls are those of the model**: a move records the shutdowns among them, and no others. -/
theorem next_shutdowns {s t : Spp} {m : SppMove} (h : s.next m = some t) :
    t.shutdowns.map Prod.snd =
      s.shutdowns.map Prod.snd ++ (s.sysCalls m).filterMap FdCall.shutdown? := by
  cases m with
  | register =>
    obtain rfl := Option.some.inj h
    exact (List.append_nil _).symm
  | clientOpen =>
    obtain rfl := Option.some.inj h
    rw [btSppClientOpen, sysCalls]
    split_ifs <;> simp
  | serverOpen =>
    obtain rfl := Option.some.inj h
    rw [btSppServerOpen, sysCalls]
    split_ifs <;> simp
  | serverClose =>
    rw [next, Option.ite_none_right_eq_some] at h
    obtain ⟨-, ⟨⟩⟩ := h
    rw [btSppServerClose, sysCalls]
    split_ifs
    · exact closeCilentFd_shutdowns { s with serverRunning := false } .application
    · simp
  | closeStep =>
    obtain ⟨pc, hpc, hstep⟩ := Option.bind_eq_some_iff.mp h
    rw [sysCalls, hpc]
    cases pc with
    | sleep =>
      obtain rfl := Option.some.inj hstep
      exact s.closeServerFd_shutdowns .application
    | join =>
      -- `pthread_join` only comes back when the thread has ended, and calls nothing
      rw [closeStep, Option.ite_none_left_eq_some] at hstep
      obtain ⟨-, ⟨⟩⟩ := hstep
      exact (List.append_nil _).symm
  | server r =>
    obtain ⟨pc, hpc, rfl⟩ := Option.map_eq_some_iff.mp h
    rw [sysCalls, hpc, Option.toList_some, List.flatMap_singleton]
    exact s.serverStep_shutdowns r pc
  | client i r =>
    obtain ⟨pc, hpc, rfl⟩ := Option.map_eq_some_iff.mp h
    rw [sysCalls, hpc, Option.toList_some, List.flatMap_singleton]
    exact s.clientStep_shutdowns i r pc

/-! ## What is never called -/

theorem close_not_mem_shutdowns (fd : Option Sock) (d : Descriptor) :
    FdCall.close d ∉ fd.toList.map FdCall.shutdown := by
  cases fd <;> simp

theorem close_not_mem_serverCalls (s : Spp) (r : SysResult) (pc : ServerPc) (d : Descriptor) :
    .close d ∉ s.serverCalls r pc := by
  cases pc <;> rw [serverCalls]
  case socket | accept => split_ifs <;> simp
  case bind | listen | select => exact List.not_mem_nil
  case outClient => exact close_not_mem_shutdowns s.clientFd d
  case outServer => exact close_not_mem_shutdowns s.serverFd d
  case read =>
    split_ifs
    · exact close_not_mem_shutdowns s.clientFd d
    · exact List.not_mem_nil

theorem close_not_mem_clientCalls (s : Spp) (r : SysResult) (pc : ClientPc) (d : Descriptor) :
    .close d ∉ s.clientCalls r pc := by
  cases pc <;> rw [clientCalls]
  case socket => split_ifs <;> simp
  case bind | connect | poll | dis => exact List.not_mem_nil
  case outClient => exact close_not_mem_shutdowns s.clientFd d
  case outServer => exact close_not_mem_shutdowns s.serverFd d

theorem close_not_mem_sysCalls (s : Spp) (m : SppMove) (d : Descriptor) :
    .close d ∉ s.sysCalls m := by
  cases m with
  | register | clientOpen | serverOpen => exact List.not_mem_nil
  | serverClose =>
    rw [sysCalls]
    split_ifs
    · exact close_not_mem_shutdowns s.clientFd d
    · exact List.not_mem_nil
  | closeStep =>
    rw [sysCalls]
    split
    · exact close_not_mem_shutdowns s.serverFd d
    · exact List.not_mem_nil
  | server r =>
    intro h
    obtain ⟨pc, -, hpc⟩ := List.mem_flatMap.mp h
    exact s.close_not_mem_serverCalls r pc d hpc
  | client i r =>
    intro h
    obtain ⟨pc, -, hpc⟩ := List.mem_flatMap.mp h
    exact s.close_not_mem_clientCalls r pc d hpc

end Spp

/-- Without a `close` everything obtained is open. -/
theorem stillOpen_eq_obtained {log : List FdCall} (h : ∀ d, .close d ∉ log) :
    stillOpen log = obtained log := by
  induction log using List.reverseRecOn with
  | nil => rfl
  | append_singleton log call ih =>
    have hlog : ∀ d, FdCall.close d ∉ log := fun d hd => h d (List.mem_append_left _ hd)
    rw [stillOpen, List.foldl_append, ← stillOpen, ih hlog, obtained, obtained,
      List.filterMap_append]
    cases call with
    | obtain d => rfl
    | shutdown sock => exact (List.append_nil _).symm
    | close d => exact absurd (List.mem_append_right log List.mem_cons_self) (h d)

section

variable {s : Spp} {log : List FdCall} (h : Reach sppFdSystem (fun _ _ => True) (s, log))

include h

theorem close_not_mem_log : ∀ d, FdCall.close d ∉ log := by
  refine h.invariant (P := fun s : Spp × List FdCall => ∀ d, FdCall.close d ∉ s.2) ?_ ?_
  · rintro s rfl d
    exact List.not_mem_nil
  · rintro ⟨s, log⟩ m t hlog - hstep d hd
    obtain ⟨t, -, rfl⟩ := Option.map_eq_some_iff.mp hstep
    rcases List.mem_append.mp hd with hd | hd
    · exact hlog d hd
    · exact s.close_not_mem_sysCalls m d hd

theorem shutdowns_log : log.filterMap FdCall.shutdown? = s.shutdowns.map Prod.snd := by
  refine h.invariant (P := fun s : Spp × List FdCall =>
    s.2.filterMap FdCall.shutdown? = s.1.shutdowns.map Prod.snd) ?_ ?_
  · rintro s rfl
    rfl
  · rintro ⟨s, log⟩ m t hlog - hstep
    obtain ⟨t, hnext, rfl⟩ := Option.map_eq_some_iff.mp hstep
    rw [List.filterMap_append, hlog, Spp.next_shutdowns hnext]

end

/-- **No descriptor is closed.** In every run, whatever the sockets return, the open descriptors
are all that `socket`, `accept` and `hci_open_dev` have given; none is left open only if none was
obtained. All that happens to a socket are the shutdowns of the model. -/
theorem spp_descriptors_stay_open {s : Spp} {log : List FdCall}
    (h : Reach sppFdSystem (fun _ _ => True) (s, log)) :
    stillOpen log = obtained log ∧ (stillOpen log = [] ↔ obtained log = []) ∧
      log.filterMap FdCall.shutdown? = s.shutdowns.map Prod.snd := by
  have hopen := stillOpen_eq_obtained (close_not_mem_log h)
  exact ⟨hopen, by rw [hopen], shutdowns_log h⟩

/-- A server whose `socket` fails obtains nothing, and leaves nothing open. -/
theorem spp_descriptors_stay_open_no_socket :
    ∃ s log, Reach sppFdSystem (fun _ _ => True) (s, log) ∧ s.server = none ∧ s.clients = [] ∧
      obtained log = [] ∧ stillOpen log = [] := by
  have hrun : ([SppMove.serverOpen, .server .fail, .server .ok, .server .ok].foldlM sppFdNext
      ({}, [])).map (fun s => (s.1.server, s.1.clients, obtained s.2)) = some (none, [], []) := by
    decide
  obtain ⟨⟨s, log⟩, hreach, hvals⟩ := Reach.of_run (S := sppFdSystem) (fun _ _ _ h => h) rfl hrun
  obtain ⟨hserver, hvals⟩ := Prod.mk.inj hvals
  obtain ⟨hclients, hobtained⟩ := Prod.mk.inj hvals
  exact ⟨s, log, hreach, hserver, hclients, hobtained,
    (spp_descriptors_stay_open hreach).2.1.mpr hobtained⟩

/-! ## A server and its connections -/

/-- The server waits in `select`, nobody is closing it, and no client is there. -/
structure Spp.Waiting (s : Spp) : Prop where
  server : s.server = some .select
  running : s.serverRunning = true
  closing : s.closing = none
  clients : s.clients = []

namespace Spp.Waiting

/-- A connection that is accepted, and then lost. -/
theorem connection {s : Spp} (h : s.Waiting) (log : List FdCall) :
    ∃ t log', [SppMove.server .ok, .server .ok, .server .fail].foldlM sppFdNext (s, log) =
        some (t, log') ∧ obtained log' = obtained log ++ [.socket .accepted] ∧ t.Waiting := by
  obtain ⟨clientFd, serverFd, tid, cid, serverRunning, serverState, server, clients, closing,
    stateCb, created, shutdowns, reports⟩ := s
  obtain ⟨rfl, rfl, rfl, rfl⟩ := h
  -- `select` and `accept` succeed, and `read` does not
  have hlog : obtained (log ++ [] ++ [.obtain (.socket .accepted)] ++ [.shutdown .accepted]) =
      obtained log ++ [.socket .accepted] := by
    simp [obtained, FdCall.obtained?]
  cases stateCb <;> exact ⟨_, _, rfl, hlog, rfl, rfl, rfl, rfl⟩

/-- `bt_spp_server_close`, with the steps of the thread until it ends. -/
theorem close {s : Spp} (h : s.Waiting) (log : List FdCall) :
    ∃ t log', [SppMove.serverClose, .closeStep, .server .ok, .server .ok, .server .ok,
        .closeStep].foldlM sppFdNext (s, log) = some (t, log') ∧ obtained log' = obtained log ∧
      t.server = none ∧ t.clients = [] ∧ t.closing = none := by
  obtain ⟨clientFd, serverFd, tid, cid, serverRunning, serverState, server, clients, closing,
    stateCb, created, shutdowns, reports⟩ := s
  obtain ⟨rfl, rfl, rfl, rfl⟩ := h
  -- the sockets are shut down by the application, so that the thread finds none
  have hlog : obtained (log ++ clientFd.toList.map .shutdown ++ serverFd.toList.map .shutdown ++
      [] ++ [] ++ [] ++ []) = obtained log := by
    cases clientFd <;> cases serverFd <;> simp [obtained, FdCall.obtained?]
  cases clientFd <;> cases serverFd <;> cases tid <;> exact ⟨_, _, rfl, hlog, rfl, rfl, rfl⟩

end Spp.Waiting

/-- A server that has been opened, and has had `n` connections. -/
theorem exists_waiting (n : Nat) :
    ∃ s log, Reach sppFdSystem (fun _ _ => True) (s, log) ∧ s.Waiting ∧
      obtained log = .socket .listening :: List.replicate n (.socket .accepted) := by
  have hnext : ∀ s m t, sppFdNext s m = some t → True ∧ sppFdSystem.step s m t :=
    fun _ _ _ h => ⟨trivial, h⟩
  induction n with
  | zero =>
    -- the socket is made, bound and listens; then the thread waits in `select`
    have hrun : [SppMove.serverOpen, .server .ok, .server .ok, .server .ok].foldlM sppFdNext
        ({}, []) = some
          ({ serverFd := some .listening, tid := true, serverRunning := true,
             server := some .select, created := 1 }, [.obtain (.socket .listening)]) := by
      decide
    exact ⟨_, _, Reach.of_foldlM hnext (.start rfl) hrun, ⟨rfl, rfl, rfl, rfl⟩, rfl⟩
  | succ n ih =>
    obtain ⟨s, log, hreach, hwaiting, hobtained⟩ := ih
    obtain ⟨t, log', hrun, hlog, ht⟩ := hwaiting.connection log
    refine ⟨t, log', Reach.of_foldlM hnext hreach hrun, ht, ?_⟩
    rw [hlog, hobtained, List.cons_append, List.replicate_succ']

/-- After `n` connections and a close no thread is alive, and the sockets of the connections and of
the server are open. -/
theorem exists_closed (n : Nat) :
    ∃ s log, Reach sppFdSystem (fun _ _ => True) (s, log) ∧
      s.server = none ∧ s.clients = [] ∧ s.closing = none ∧
      stillOpen log = .socket .listening :: List.replicate n (.socket .accepted) := by
  obtain ⟨s, log, hreach, hwaiting, hobtained⟩ := exists_waiting n
  obtain ⟨t, log', hrun, hlog, hserver, hclients, hclosing⟩ := hwaiting.close log
  have hreach' := Reach.of_foldlM (fun _ _ _ h => ⟨trivial, h⟩) hreach hrun
  refine ⟨t, log', hreach', hserver, hclients, hclosing, ?_⟩
  rw [stillOpen_eq_obtained (close_not_mem_log hreach'), hlog, hobtained]

/-- **Descriptors pile up.** They are open when no thread is alive any more, and no bound holds for
the number of open ones. -/
theorem spp_descriptors_pile_up :
    (¬ ∀ s log, Reach sppFdSystem (fun _ _ => True) (s, log) →
        s.server = none → s.clients = [] → stillOpen log = []) ∧
      ¬ ∃ bound, ∀ s log, Reach sppFdSystem (fun _ _ => True) (s, log) →
        (stillOpen log).length ≤ bound := by
  constructor
  · intro h
    -- one connection and a close are enough
    obtain ⟨s, log, hreach, hserver, hclients, -, hopen⟩ := exists_closed 1
    rw [h s log hreach hserver hclients] at hopen
    cases hopen
  · rintro ⟨bound, h⟩
    obtain ⟨s, log, hreach, -, -, -, hopen⟩ := exists_closed bound
    have hle := h s log hreach
    rw [hopen, List.length_cons, List.length_replicate] at hle
    exact Nat.not_succ_le_self bound hle

end ConnectApp.Bluez
