import ConnectApp.Bluez.Spp

/-!
# Serial port client and server together (spp_server.c:291-410)

A client thread clears `cid` when it is connected, and keeps it when `bind` fails: the variable
does not tell whether a client is alive. At its end it shuts down both descriptors of
`g_spp_handler`, whoever they belong to (`roles_interfere`).

`roles_apart`: the two roles do not interfere in a run that keeps them apart, one client thread
at a time and none while the server thread is alive, if the client's `bind` succeeds.
-/

namespace ConnectApp.Bluez

open Transition

namespace Spp

/-- A thread is started only when the other kind, and the other client, is not alive, and the
client's `bind` succeeds. -/
def Apart (s : Spp) : SppMove → Prop
  | .clientOpen => s.cid = false → s.clients = [] ∧ s.server = none
  | .serverOpen => s.tid = false → s.clients = []
  | .client i r => s.clients[i]? = some .bind → r ≠ .fail
  | _ => True

/-- What the two roles have between them. The server clears `server_fd` when it ends, and has
shut its connection down one step earlier. -/
structure Separate (s : Spp) : Prop where
  one : s.clients.length ≤ 1
  idle : s.clients = [] → s.cid = false
  alone : s.clients ≠ [] → s.server = none
  serverFd : s.server = none → s.serverFd = none
  clientFd : s.server = none ∨ s.server = some .outServer → ∀ fd ∈ s.clientFd, fd = .client
  shutdowns : ∀ x ∈ s.shutdowns, x.1 = .client → x.2 = .client

namespace Separate

variable {s : Spp}

/-- The client that is alive is the only one. -/
theorem client_eq (h : s.Separate) {i : Nat} {pc : ClientPc} (hpc : s.clients[i]? = some pc) :
    i = 0 ∧ s.clients = [pc] := by
  have hone := h.one
  obtain ⟨hi, hget⟩ := List.getElem?_eq_some_iff.mp hpc
  obtain ⟨pc', hpc'⟩ := List.length_eq_one_iff.mp (by omega : s.clients.length = 1)
  obtain rfl : i = 0 := by omega
  refine ⟨rfl, ?_⟩
  rw [hpc'] at hpc
  obtain rfl := Option.some.inj hpc
  exact hpc'

/-- Shutdowns by anyone but a client do no harm. -/
theorem shutdowns_append (h : s.Separate) {by_ : Agent} {fd : Option Sock}
    (hfd : by_ = .client → ∀ sock ∈ fd, sock = .client) :
    ∀ x ∈ s.shutdowns ++ (fd.map (by_, ·)).toList, x.1 = .client → x.2 = .client := by
  intro x hx hclient
  rw [List.mem_append, Option.mem_toList, Option.map_eq_some_iff] at hx
  rcases hx with hx | ⟨sock, hsock, rfl⟩
  · exact h.shutdowns x hx hclient
  · exact hfd hclient sock hsock

theorem btSppClientOpen (h : s.Separate) (hapart : s.Apart .clientOpen) :
    s.btSppClientOpen.Separate := by
  unfold Spp.btSppClientOpen
  split_ifs with hcid
  · exact h
  · obtain ⟨hclients, hserver⟩ := hapart (Bool.eq_false_iff.mpr hcid)
    rw [hclients]
    exact ⟨Nat.le_refl 1, nofun, fun _ => hserver, h.serverFd, h.clientFd, h.shutdowns⟩

theorem btSppServerOpen (h : s.Separate) (hapart : s.Apart .serverOpen) :
    s.btSppServerOpen.Separate := by
  unfold Spp.btSppServerOpen
  split_ifs with htid
  · exact h
  · have hclients := hapart (Bool.eq_false_iff.mpr htid)
    exact ⟨h.one, h.idle, fun hne => absurd hclients hne, nofun, nofun, h.shutdowns⟩

theorem btSppServerClose (h : s.Separate) : s.btSppServerClose.Separate := by
  unfold Spp.btSppServerClose
  split_ifs
  · rw [closeCilentFd_eq]
    exact ⟨h.one, h.idle, h.alone, h.serverFd, fun _ => nofun, h.shutdowns_append nofun⟩
  · exact h

theorem closeStep (h : s.Separate) {t : Spp} {pc : ClosePc} (hstep : s.closeStep pc = some t) :
    t.Separate := by
  cases pc with
  | sleep =>
    obtain rfl := Option.some.inj hstep
    rw [closeServerFd_eq]
    exact ⟨h.one, h.idle, h.alone, fun _ => rfl, h.clientFd, h.shutdowns_append nofun⟩
  | join =>
    rw [Spp.closeStep, Option.ite_none_left_eq_some] at hstep
    obtain ⟨-, ⟨⟩⟩ := hstep
    exact ⟨h.one, h.idle, h.alone, h.serverFd, h.clientFd, h.shutdowns⟩

/-- A step of the server thread; no client is alive. -/
theorem serverStep (h : s.Separate) {pc : ServerPc} (hpc : s.server = some pc) (r : SysResult) :
    (s.serverStep r pc).Separate := by
  have hclients : s.clients = [] := by
    by_contra hne
    rw [h.alone hne] at hpc
    cases hpc
  -- whatever the thread does, there is no client it could meet
  have hkeep {t : Spp} (hc : t.clients = s.clients) (hcid : t.cid = s.cid)
      (hfd : t.server = none → t.serverFd = none)
      (hconn : t.server = none ∨ t.server = some .outServer → ∀ fd ∈ t.clientFd, fd = .client)
      (hdown : ∀ x ∈ t.shutdowns, x.1 = .client → x.2 = .client) : t.Separate :=
    ⟨hc ▸ h.one, hcid ▸ hc ▸ h.idle, fun hne => absurd (hc.trans hclients) hne, hfd, hconn, hdown⟩
  -- most steps leave the thread alive, and away from its last one
  have hgo {t : Spp} (pc' : ServerPc) (hc : t.clients = s.clients) (hcid : t.cid = s.cid)
      (hserver : t.server = some pc') (hpc' : pc' ≠ .outServer)
      (hdown : ∀ x ∈ t.shutdowns, x.1 = .client → x.2 = .client) : t.Separate := by
    refine hkeep hc hcid (fun hnone => ?_) (fun hend => ?_) hdown
    · rw [hserver] at hnone
      cases hnone
    · rw [hserver] at hend
      rcases hend with hnone | hout
      · cases hnone
      · exact absurd (Option.some.inj hout) hpc'
  have hdown (fd : Option Sock) : ∀ x ∈ s.shutdowns ++ (fd.map (Agent.server, ·)).toList,
      x.1 = .client → x.2 = .client := h.shutdowns_append fun hclient => by cases hclient
  cases pc <;> simp only [Spp.serverStep, sppStateSend_eq, closeCilentFd_eq, closeServerFd_eq]
  case socket | bind | listen | accept =>
    split_ifs <;> exact hgo _ rfl rfl rfl (by decide) h.shutdowns
  case select =>
    split_ifs
    · exact hgo _ rfl rfl rfl (by decide) h.shutdowns
    · cases r <;> exact hgo _ rfl rfl rfl (by decide) h.shutdowns
  case read =>
    by_cases hr : r = .fail
    · rw [if_pos hr]
      exact hgo _ rfl rfl rfl (by decide) (hdown _)
    · rw [if_neg hr]
      exact h
  case outClient =>
    -- the connection has been shut down before the last step
    exact hkeep rfl rfl (fun hnone => by cases hnone)
      (fun _ fd hfd => absurd hfd (Option.not_mem_none fd)) (hdown _)
  case outServer =>
    exact hkeep rfl rfl (fun _ => rfl) (fun _ => h.clientFd (.inr hpc)) (hdown _)

/-- A step of a client thread; the server is not alive. -/
theorem clientStep (h : s.Separate) {i : Nat} {r : SysResult} {pc : ClientPc}
    (hpc : s.clients[i]? = some pc) (hapart : s.Apart (.client i r)) :
    (s.clientStep i r pc).Separate := by
  obtain ⟨rfl, hclients⟩ := h.client_eq hpc
  have hserver : s.server = none := h.alone (by rw [hclients]; exact List.cons_ne_nil _ _)
  have hserverFd := h.serverFd hserver
  have hclientFd := h.clientFd (.inl hserver)
  -- the thread is still there after most of its steps
  have hstay {t : Spp} (pc' : ClientPc) (hc : t.clients = [pc']) (hs : t.server = s.server)
      (hfd : t.serverFd = none) (hconn : ∀ fd ∈ t.clientFd, fd = .client)
      (hdown : ∀ x ∈ t.shutdowns, x.1 = .client → x.2 = .client) : t.Separate :=
    ⟨by rw [hc]; exact Nat.le_refl 1, fun hnil => absurd (hc.symm.trans hnil) (List.cons_ne_nil _ _),
      fun _ => hs.trans hserver, fun _ => hfd, fun _ => hconn, hdown⟩
  have hnone : ∀ fd ∈ (none : Option Sock), fd = .client := fun fd hfd =>
    absurd hfd (Option.not_mem_none fd)
  cases pc <;> simp only [Spp.clientStep, hclients, sppStateSend_eq, closeCilentFd_eq,
    closeServerFd_eq, List.set_cons_zero, List.eraseIdx_cons_zero]
  case socket =>
    split_ifs
    · exact hstay _ rfl rfl hserverFd hnone h.shutdowns
    · exact hstay _ rfl rfl hserverFd (by rintro _ ⟨⟩; rfl) h.shutdowns
  case bind =>
    rw [if_neg (hapart hpc)]
    exact hstay _ rfl rfl hserverFd hclientFd h.shutdowns
  case connect => split_ifs <;> exact hstay _ rfl rfl hserverFd hclientFd h.shutdowns
  case poll =>
    split_ifs
    · exact h
    · exact hstay _ rfl rfl hserverFd hclientFd h.shutdowns
  case dis => exact hstay _ rfl rfl hserverFd hclientFd h.shutdowns
  case outClient =>
    exact hstay _ rfl rfl hserverFd hnone (h.shutdowns_append fun _ => hclientFd)
  case outServer =>
    rw [hserverFd]
    exact ⟨Nat.zero_le 1, fun _ => rfl, fun hne => absurd rfl hne, fun _ => rfl,
      fun _ => hclientFd, h.shutdowns_append fun _ => hnone⟩

end Separate

/-- **One move** of a run that keeps the roles apart. -/
theorem Separate.next {s t : Spp} (h : s.Separate) {m : SppMove} (hapart : s.Apart m)
    (hnext : s.next m = some t) : t.Separate := by
  cases m with
  | register =>
    obtain rfl := Option.some.inj hnext
    exact ⟨h.one, h.idle, h.alone, h.serverFd, h.clientFd, h.shutdowns⟩
  | clientOpen =>
    obtain rfl := Option.some.inj hnext
    exact h.btSppClientOpen hapart
  | serverOpen =>
    obtain rfl := Option.some.inj hnext
    exact h.btSppServerOpen hapart
  | serverClose =>
    rw [Spp.next, Option.ite_none_right_eq_some] at hnext
    obtain ⟨-, ⟨⟩⟩ := hnext
    exact h.btSppServerClose
  | closeStep =>
    obtain ⟨pc, -, hstep⟩ := Option.bind_eq_some_iff.mp hnext
    exact h.closeStep hstep
  | server r =>
    obtain ⟨pc, hpc, rfl⟩ := Option.map_eq_some_iff.mp hnext
    exact h.serverStep hpc r
  | client i r =>
    obtain ⟨pc, hpc, rfl⟩ := Option.map_eq_some_iff.mp hnext
    exact h.clientStep hpc hapart

/-- The roles do not interfere: there is at most one client thread, no client has shut down a
socket of the server, and a client can be started when there is none. -/
def Undisturbed (s : Spp) : Prop :=
  s.clients.length ≤ 1 ∧ (∀ x ∈ s.shutdowns, x.1 = .client → x.2 = .client) ∧
    (s.clients = [] → s.btSppClientOpen.clients.length = 1)

end Spp

/-- **Client and server.** In a run that keeps the roles apart they do not interfere. -/
theorem roles_apart {s : Spp} (h : Reach sppSystem Spp.Apart s) : s.Undisturbed := by
  have hsep : s.Separate := by
    refine h.invariant (P := Spp.Separate) ?_ fun s m t hs hapart hnext => hs.next hapart hnext
    rintro s rfl
    exact ⟨Nat.zero_le 1, fun _ => rfl, fun _ => rfl, fun _ => rfl, fun _ => nofun, nofun⟩
  refine ⟨hsep.one, hsep.shutdowns, fun hnone => ?_⟩
  have hcid := hsep.idle hnone
  rw [Spp.btSppClientOpen, hcid, hnone]
  rfl

instance (s : Spp) : (m : SppMove) → Decidable (s.Apart m)
  | .clientOpen => inferInstanceAs (Decidable (s.cid = false → s.clients = [] ∧ s.server = none))
  | .serverOpen => inferInstanceAs (Decidable (s.tid = false → s.clients = []))
  | .client i r => inferInstanceAs (Decidable (s.clients[i]? = some .bind → r ≠ .fail))
  | .register | .serverClose | .closeStep | .server _ => inferInstanceAs (Decidable True)

/-- A client connects and ends, then a server accepts a connection. -/
theorem roles_apart_turns :
    ∃ s : Spp, s.shutdowns = [(.client, .client)] ∧ s.clientFd = some .accepted ∧
      s.Undisturbed := by
  have hrun : ([SppMove.clientOpen, .client 0 .ok, .client 0 .ok, .client 0 .ok, .client 0 .fail,
      .client 0 .ok, .client 0 .ok, .client 0 .ok, .serverOpen, .server .ok, .server .ok,
      .server .ok, .server .ok, .server .ok].foldlM (guarded Spp.next Spp.Apart) {}).map
      (fun s => (s.shutdowns, s.clientFd)) = some ([(.client, .client)], some .accepted) := by
    decide
  obtain ⟨s, hreach, hvals⟩ := Reach.of_guarded_run (S := sppSystem) (fun _ _ _ h => h) rfl hrun
  obtain ⟨hdown, hconn⟩ := Prod.mk.inj hvals
  exact ⟨s, hdown, hconn, roles_apart hreach⟩

/-- A second client is started when the first one is connected; a client that ends shuts down
the socket the server listens on and its connection; and after a failed `bind` no client can be
started any more. -/
theorem roles_interfere :
    (∃ s, Reach sppSystem (fun _ _ => True) s ∧ ¬ s.clients.length ≤ 1) ∧
      (∃ s, Reach sppSystem (fun _ _ => True) s ∧
        ¬ ∀ x ∈ s.shutdowns, x.1 = .client → x.2 = .client) ∧
      ∃ s, Reach sppSystem (fun _ _ => True) s ∧
        ¬ (s.clients = [] → s.btSppClientOpen.clients.length = 1) := by
  refine ⟨?_, ?_, ?_⟩
  · have hrun : ([SppMove.clientOpen, .client 0 .ok, .client 0 .ok, .client 0 .ok,
        .clientOpen].foldlM Spp.next {}).map (fun s => s.clients.length) = some 2 := by
      decide
    obtain ⟨s, hreach, htwo⟩ := Reach.of_run (S := sppSystem) (fun _ _ _ h => h) rfl hrun
    exact ⟨s, hreach, by omega⟩
  · -- the server accepts a connection between the client's `bind` and its failed `connect`
    have hrun : ([SppMove.serverOpen, .server .ok, .server .ok, .server .ok, .server .ok,
        .clientOpen, .client 0 .ok, .client 0 .ok, .server .ok, .client 0 .fail, .client 0 .ok,
        .client 0 .ok].foldlM Spp.next {}).map Spp.shutdowns =
        some [(.client, .accepted), (.client, .listening)] := by decide
    obtain ⟨s, hreach, hdown⟩ := Reach.of_run (S := sppSystem) (fun _ _ _ h => h) rfl hrun
    refine ⟨s, hreach, fun hall => ?_⟩
    rw [hdown] at hall
    cases hall _ List.mem_cons_self rfl
  · have hrun : ([SppMove.clientOpen, .client 0 .ok, .client 0 .fail].foldlM Spp.next {}).map
        (fun s => (s.clients, s.btSppClientOpen.clients)) = some ([], []) := by decide
    obtain ⟨s, hreach, hvals⟩ := Reach.of_run (S := sppSystem) (fun _ _ _ h => h) rfl hrun
    obtain ⟨hnone, hopened⟩ := Prod.mk.inj hvals
    refine ⟨s, hreach, fun hopen => ?_⟩
    have hlength := hopen hnone
    rw [hopened] at hlength
    cases hlength

end ConnectApp.Bluez
