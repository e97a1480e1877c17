import ConnectApp.Bluez.Handler
import ConnectApp.Bluez.Outline

/-!
# Late replies (a2dp_masterctrl.c:373-403, 1875-1924, 2062-2112, 2311-2374)

`Connect`, `Disconnect` and `Pair` are asynchronous: the handler that makes the call gives the
proxy of the device to the reply handler, which runs when the answer arrives. In the meantime
the device, the default adapter or the whole D-Bus service may have gone. The reply handlers
use the proxy, and `bt_state_change` uses `default_ctrl`, without a look.

`late_replies_safe` is about the runs in which what a pending call needs stays. In
`reply_after_removal` it does not: a device goes while it is being connected, and the reply
makes its freed proxy the default device.
-/

namespace ConnectApp.Bluez

open CString Transition

/-! ## What the reply handlers touch -/

/-- A use of `default_ctrl` or of a proxy, or the assignment of a proxy to `default_dev`. -/
inductive Access
  | defaultCtrl
  | proxy (p : Proxy)
  | store (p : Proxy)
  deriving DecidableEq

namespace State

/-- `bt_state_change` reads `default_ctrl` for the records, and the proxy for its properties
or, when it has no record, for its path (a2dp_masterctrl.c:387-406). -/
def btStateChangeUses (s : State) (proxy : Proxy) : List Access :=
  if s.defaultCtrl = none then [.defaultCtrl] else [.defaultCtrl, .proxy proxy]

/-- `set_default_device` prints the reference counts of two different devices, or stores the
proxy and reads its properties (a2dp_masterctrl.c:898-932). -/
def setDefaultDeviceUses (s : State) : Option Proxy → List Access
  | none => []
  | some p =>
    if s.defaultDev ≠ none ∧ s.defaultDev ≠ some p then
      .proxy p :: s.defaultDev.toList.map .proxy
    else [.store p, .proxy p]

/-- `pair_reply` (a2dp_masterctrl.c:1875-1896). The error is printed after it has been freed,
when its name and message are NULL. -/
def pairReply (s : State) (proxy : Proxy) (failed : Bool) : Option State :=
  if failed then s.btStateChange proxy (chars "Failed to pair: (null):(null)") .pairFailed
  else some s

/-- The reply handler of a call; `none` is the use of a `default_ctrl` that is NULL. -/
def reply (s : State) (proxy : Proxy) (error : Option (List UInt8)) : Method → Option State
  | .connect => s.connectByAddressReply proxy error
  | .disconnect => s.disconnReply proxy error.isSome
  | .pair => s.pairReply proxy error.isSome
  | .removeDevice | .startDiscovery | .stopDiscovery => some s

/-- What the reply handler touches. -/
def replyUses (s : State) (proxy : Proxy) (error : Option (List UInt8)) : Method → List Access
  | .connect =>
    if error.isSome then s.btStateChangeUses proxy else s.setDefaultDeviceUses (some proxy)
  | .disconnect =>
    if error.isSome then s.btStateChangeUses proxy
    else if s.defaultDev = some proxy then s.setDefaultDeviceUses none
    else []
  | .pair => if error.isSome then s.btStateChangeUses proxy else []
  | .removeDevice | .startDiscovery | .stopDiscovery => []

/-- `default_ctrl` is not NULL, the proxy has not been removed. -/
def Safe (s : State) : Access → Prop
  | .defaultCtrl => s.defaultCtrl ≠ none
  | .proxy p | .store p => p ∈ s.present

instance (s : State) : (a : Access) → Decidable (s.Safe a)
  | .defaultCtrl => inferInstanceAs (Decidable (s.defaultCtrl ≠ none))
  | .proxy p | .store p => inferInstanceAs (Decidable (p ∈ s.present))

/-- `disconnect_handler` (a2dp_masterctrl.c:581-587). -/
def disconnectHandler (s : State) : State := { s with ctrlList := [], defaultCtrl := none }

end State

/-! ## Runs -/

/-- The handlers that make the calls, with the address they are given. -/
inductive Caller
  | connectByAddress (address : List UInt8)
  | btDisconnectByAddress (address : List UInt8)
  | disconnectCurrentDevices
  | pairByAddr (address : List UInt8)
  deriving DecidableEq

/-- What the caller does. -/
def Caller.run (w : World) : Caller → Outcome
  | .connectByAddress address => w.connectByAddress address
  | .btDisconnectByAddress address => w.btDisconnectByAddress address
  | .disconnectCurrentDevices => w.disconnectCurrentDevices
  | .pairByAddr address => w.pairByAddr address

/-- The calls that get one of the three reply handlers. -/
def Effect.awaited : Effect → Option (Method × Proxy)
  | .call .connect p => some (.connect, p)
  | .call .disconnect p => some (.disconnect, p)
  | .call .pair p => some (.pair, p)
  | _ => none

/-- The application, the calls without a reply so far, and the unsafe uses made so far. -/
structure Late where
  bus : State
  pending : List (Method × Proxy) := []
  faults : List Access := []

/-- What can happen while replies are outstanding. -/
inductive LateMove
  | issue (caller : Caller) (w : World)
  | reply (i : Nat) (error : Option (List UInt8))
  | announce (e : Event)
  | disconnected

/-- The replies are moves of their own here. -/
def Event.isReply : Event → Bool
  | .connectReply .. | .disconnReply .. => true
  | _ => false

namespace Late

/-- One move, if it can happen. Replies arrive in any order. When the service disconnects,
the D-Bus client removes all proxies before it calls `disconnect_handler`. -/
def next (s : Late) : LateMove → Option Late
  | .issue caller w =>
    let o := caller.run { w with state := s.bus }
    some { s with bus := o.state, pending := s.pending ++ o.effects.filterMap Effect.awaited }
  | .reply i error =>
    match s.pending[i]? with
    | none => none
    | some (method, proxy) =>
      some {
        bus := (s.bus.reply proxy error method).getD s.bus
        pending := s.pending.eraseIdx i
        faults := s.faults ++
          (s.bus.replyUses proxy error method).filter fun a => ¬ s.bus.Safe a }
  | .announce e =>
    if e.isReply then none else (s.bus.next e).map fun bus => { s with bus := bus }
  | .disconnected =>
    if s.bus.present = [] ∧ s.bus.adapters = [] then some { s with bus := s.bus.disconnectHandler }
    else none

/-- What the pending calls need stays: their devices and, while there is any, the default
adapter. `disconnect_current_devices` is called with a default adapter, and the lists of
devices are kept up to date (`State.KeepsLive`). -/
def Orderly (s : Late) : LateMove → Prop
  | .issue .disconnectCurrentDevices _ => s.bus.defaultCtrl ≠ none
  | .announce (.deviceRemoved p) =>
    (∀ c ∈ s.pending, c.2 ≠ p) ∧ s.bus.KeepsLive (.deviceRemoved p)
  | .announce (.adapterRemoved p) => s.pending ≠ [] → ∀ a ∈ s.bus.defaultAdapter, a.proxy ≠ p
  | .announce e => s.bus.KeepsLive e
  | .disconnected => s.pending = []
  | _ => True

end Late

/-- All runs from the state after `bluetooth_open`. -/
def lateSystem : System Late LateMove where
  init := fun s => s = { bus := State.opened }
  step := fun s m t => s.next m = some t

/-! ## What the moves leave alone -/

namespace State

/-- A reply handler changes at most records, reports and the default device. -/
theorem reply_sameOutline {s t : State} {proxy : Proxy} {error : Option (List UInt8)}
    {method : Method} (h : s.reply proxy error method = some t) :
    SameOutline s t ∧ ∀ p ∈ t.defaultDev, s.defaultDev = some p ∨ p = proxy := by
  have hchange : ∀ change newState, s.btStateChange proxy change newState = some t →
      SameOutline s t ∧ ∀ p ∈ t.defaultDev, s.defaultDev = some p ∨ p = proxy := by
    intro change newState hchange
    obtain ⟨ctrl, -, rfl⟩ := Option.map_eq_some_iff.mp hchange
    obtain ⟨hsame, hdev⟩ := s.sameOutline_changeRecord ctrl proxy change newState
    exact ⟨hsame, fun p hp => .inl (hdev.symm.trans hp)⟩
  have hsend := (sameLists_btStateSend s none .commandRespOk).toOutline
  cases method with
  | connect =>
    cases error with
    | some message => exact hchange _ _ h
    | none =>
      obtain rfl := Option.some.inj h
      refine ⟨hsend.trans (sameLists_setDefaultDevice _ _).toOutline, fun p hp => ?_⟩
      rcases (s.btStateSend none .commandRespOk).setDefaultDevice_defaultDev (some proxy) with
        hdev | hdev
      · exact .inl (hdev.symm.trans hp)
      · exact .inr (Option.some.inj (hdev.symm.trans hp)).symm
  | disconnect =>
    cases error with
    | some message => exact hchange _ _ h
    | none =>
      obtain rfl := Option.some.inj h
      split_ifs
      · refine ⟨hsend.trans (sameLists_setDefaultDevice _ _).toOutline, ?_⟩
        rw [setDefaultDevice_none]
        nofun
      · exact ⟨hsend, fun p hp => .inl hp⟩
  | pair =>
    cases error with
    | some message => exact hchange _ _ h
    | none =>
      obtain rfl := Option.some.inj h
      exact ⟨(SameLists.refl s).toOutline, fun p hp => .inl hp⟩
  | removeDevice | startDiscovery | stopDiscovery =>
    obtain rfl := Option.some.inj h
    exact ⟨(SameLists.refl s).toOutline, fun p hp => .inl hp⟩

theorem deviceAdded_keeps (s : State) (proxy : Proxy) :
    (s.deviceAdded proxy).present = s.present ∧
      (s.deviceAdded proxy).defaultCtrl = s.defaultCtrl := by
  obtain h | ⟨-, h⟩ := s.deviceAdded_writes proxy
  · exact ⟨h.present, h.defaultCtrl⟩
  · exact ⟨h.present, h.defaultCtrl⟩

theorem propertyChanged_keeps (s : State) (proxy : Proxy) (change : Change) :
    (s.propertyChanged proxy change).present = s.present ∧
      (s.propertyChanged proxy change).defaultCtrl = s.defaultCtrl := by
  have hfollow := s.sameLists_followConnected proxy change
  obtain h | h := s.propertyChanged_writes proxy change
  · exact ⟨h.present, h.defaultCtrl⟩
  · exact ⟨h.present.trans hfollow.present, h.defaultCtrl.trans hfollow.defaultCtrl⟩

theorem deviceRemoved_defaultCtrl (s : State) (proxy : Proxy) :
    (s.deviceRemoved proxy).defaultCtrl = s.defaultCtrl := by
  obtain h | ⟨-, h⟩ := s.deviceRemoved_writes proxy
  · exact h.defaultCtrl
  · exact h.defaultCtrl

/-- A proxy stays until it is removed, and `default_ctrl` becomes NULL only with the removal
of the default adapter. -/
theorem next_keeps {s t : State} {e : Event} (h : s.next e = some t) (hreply : e.isReply = false) :
    (∀ p ∈ s.present, e ≠ .deviceRemoved p → p ∈ t.present) ∧
    (s.defaultCtrl ≠ none →
      (∀ p, e = .adapterRemoved p → ∀ a ∈ s.defaultAdapter, a.proxy ≠ p) →
      t.defaultCtrl ≠ none) := by
  rw [State.next, Option.ite_none_right_eq_some] at h
  obtain ⟨-, h⟩ := h
  cases e with
  | adapterAdded proxy path =>
    obtain rfl := Option.some.inj h
    unfold State.adapterAdded
    split
    · exact ⟨fun p hp _ => hp, fun _ _ => Option.some_ne_none _⟩
    · exact ⟨fun p hp _ => hp, fun hdefault _ => hdefault⟩
  | adapterRemoved proxy =>
    obtain rfl := Option.some.inj h
    refine ⟨fun p hp _ => ?_, fun hdefault hother => ?_⟩
    · rwa [← (s.adapterRemoved_lists proxy).2.1] at hp
    · rw [← adapterRemoved_defaultCtrl (hother proxy rfl)] at hdefault
      exact hdefault
  | deviceAdded proxy props =>
    obtain rfl := Option.some.inj h
    obtain ⟨hpresent, hctrl⟩ :=
      deviceAdded_keeps ({ s with present := proxy :: s.present }.cache proxy props) proxy
    rw [hpresent, hctrl]
    exact ⟨fun p hp _ => List.mem_cons_of_mem proxy hp, fun hdefault _ => hdefault⟩
  | deviceChanged proxy change =>
    obtain rfl := Option.some.inj h
    obtain ⟨hpresent, hctrl⟩ :=
      propertyChanged_keeps (s.cache proxy (change.apply (s.props proxy))) proxy change
    rw [hpresent, hctrl]
    exact ⟨fun p hp _ => hp, fun hdefault _ => hdefault⟩
  | deviceRemoved proxy =>
    obtain rfl := Option.some.inj h
    refine ⟨fun p hp hne => ?_, fun hdefault _ => ?_⟩
    · exact List.mem_filter.mpr ⟨hp, decide_eq_true fun heq => hne (by rw [heq])⟩
    · rw [← deviceRemoved_defaultCtrl s proxy] at hdefault
      exact hdefault
  | connectReply proxy error => cases hreply
  | disconnReply proxy failed => cases hreply
  | attributeAdded kind a =>
    obtain rfl := Option.some.inj h
    have hsame := s.sameLists_attributeAdded kind a
    rw [hsame.present, hsame.defaultCtrl]
    exact ⟨fun p hp _ => hp, fun hdefault _ => hdefault⟩
  | attributeRemoved kind a =>
    obtain rfl := Option.some.inj h
    have hsame := s.sameLists_attributeRemoved kind a
    rw [hsame.present, hsame.defaultCtrl]
    exact ⟨fun p hp _ => hp, fun hdefault _ => hdefault⟩

end State

/-! ## Calls -/

theorem World.mem_findDeviceByAddress {w : World} {address : List UInt8} {p : Proxy}
    (h : w.findDeviceByAddress address = some p) :
    w.state.defaultCtrl ≠ none ∧ ∃ o ∈ w.state.outline, p ∈ o.devices := by
  obtain ⟨ctrl, hctrl, hfind⟩ := Option.bind_eq_some_iff.mp h
  obtain ⟨hmem, hdefault⟩ := State.mem_defaultAdapter hctrl
  refine ⟨hdefault ▸ Option.some_ne_none _, ctrl.outline, List.mem_map_of_mem hmem, ?_⟩
  exact List.mem_of_find?_eq_some hfind

theorem World.mem_calls {w : World} {method : Method} {p : Proxy} {c : Method × Proxy}
    (h : c ∈ (w.calls method p).filterMap Effect.awaited) : c.2 = p := by
  obtain ⟨e, he, hawaited⟩ := List.mem_filterMap.mp h
  unfold World.calls at he
  split_ifs at he
  · rw [List.mem_singleton.mp he] at hawaited
    cases method <;> cases hawaited <;> rfl
  · cases he

/-- A caller only reports. Its call is made on a device found by its address, or on the
default device. -/
structure Caller.Spec (w : World) (caller : Caller) (o : Outcome) : Prop where
  same : State.SameOutline w.state o.state
  dev : o.state.defaultDev = w.state.defaultDev
  calls : ∀ c ∈ o.effects.filterMap Effect.awaited,
    (w.state.defaultCtrl ≠ none ∧ ∃ o ∈ w.state.outline, c.2 ∈ o.devices) ∨
      (caller = .disconnectCurrentDevices ∧ w.state.defaultDev = some c.2)

namespace Caller

theorem Spec.sends (w : World) (caller : Caller) (state : BtState) :
    Spec w caller (w.sends state) :=
  ⟨(State.sameLists_btStateSend w.state none state).toOutline, rfl, nofun⟩

theorem Spec.nothing (w : World) (caller : Caller) : Spec w caller (w.returns 0 []) :=
  ⟨(State.SameLists.refl w.state).toOutline, rfl, nofun⟩

theorem Spec.found {w : World} {address : List UInt8} {p : Proxy}
    (h : w.findDeviceByAddress address = some p) (caller : Caller) (ret : Int) (method : Method) :
    Spec w caller (w.returns ret (w.calls method p)) where
  same := (State.SameLists.refl w.state).toOutline
  dev := rfl
  calls := by
    intro c hc
    rw [World.mem_calls hc]
    exact .inl (World.mem_findDeviceByAddress h)

theorem run_spec (w : World) (caller : Caller) : Spec w caller (caller.run w) := by
  cases caller with
  | connectByAddress address =>
    rw [run, World.connectByAddress]
    split_ifs
    · exact .sends ..
    · split
      · exact .sends ..
      · split_ifs
        · exact .sends ..
        · exact .found ‹_› ..
  | btDisconnectByAddress address =>
    rw [run, World.btDisconnectByAddress]
    split_ifs
    · exact .sends ..
    · split
      · exact .sends ..
      · split_ifs
        · exact .sends ..
        · exact .found ‹_› ..
  | disconnectCurrentDevices =>
    rw [run, World.disconnectCurrentDevices]
    split
    · exact .nothing ..
    · next p hdev =>
      refine ⟨(State.SameLists.refl w.state).toOutline, rfl, fun c hc => .inr ⟨rfl, ?_⟩⟩
      rw [World.mem_calls hc, hdev]
  | pairByAddr address =>
    rw [run, World.pairByAddr]
    split_ifs
    · exact .nothing ..
    · split
      · exact .nothing ..
      · next p hfind =>
        have hcalls : w.cmdPair p =
            w.returns (if w.accepts .pair p then 0 else -1) (w.calls .pair p) := by
          rw [World.cmdPair, World.calls]
          split_ifs <;> rfl
        rw [hcalls]
        exact .found hfind ..

end Caller

/-! ## The invariant -/

namespace Late

/-- The devices of the pending calls are present, and while there is a pending call there is
a default adapter. -/
structure Sound (s : Late) : Prop where
  live : s.bus.Live
  devices : ∀ c ∈ s.pending, c.2 ∈ s.bus.present
  ctrl : s.pending ≠ [] → s.bus.defaultCtrl ≠ none
  faults : s.faults = []

/-- Under the invariant a reply handler touches nothing that is gone. -/
theorem Sound.replyUses_safe {s : Late} (h : s.Sound) {method : Method} {proxy : Proxy}
    (hmem : (method, proxy) ∈ s.pending) (error : Option (List UInt8)) :
    ∀ a ∈ s.bus.replyUses proxy error method, s.bus.Safe a := by
  have hproxy : proxy ∈ s.bus.present := h.devices _ hmem
  have hchange : ∀ a ∈ s.bus.btStateChangeUses proxy, s.bus.Safe a := by
    have hctrl : s.bus.defaultCtrl ≠ none := h.ctrl (List.ne_nil_of_mem hmem)
    rw [State.btStateChangeUses, if_neg hctrl]
    simp only [List.forall_mem_cons, List.not_mem_nil, false_imp_iff, implies_true, and_true]
    exact ⟨hctrl, hproxy⟩
  cases method with
  | connect =>
    rw [State.replyUses]
    split_ifs
    · exact hchange
    · rw [State.setDefaultDeviceUses]
      split_ifs
      · -- the reference count of the other default device is printed
        intro a ha
        rcases List.mem_cons.mp ha with rfl | ha
        · exact hproxy
        · obtain ⟨d, hd, rfl⟩ := List.mem_map.mp ha
          exact h.live.dev d (Option.mem_toList.mp hd)
      · simp only [List.forall_mem_cons, List.not_mem_nil, false_imp_iff, implies_true, and_true]
        exact ⟨hproxy, hproxy⟩
  | disconnect =>
    rw [State.replyUses]
    split_ifs
    · exact hchange
    · nofun
    · nofun
  | pair =>
    rw [State.replyUses]
    split_ifs
    · exact hchange
    · nofun
  | removeDevice | startDiscovery | stopDiscovery => nofun

theorem Sound.issue {s : Late} (h : s.Sound) {caller : Caller} {w : World}
    (hcurrent : caller = .disconnectCurrentDevices → s.bus.defaultCtrl ≠ none)
    (hspec : Caller.Spec { w with state := s.bus } caller (caller.run { w with state := s.bus })) :
    Sound { s with
      bus := (caller.run { w with state := s.bus }).state
      pending := s.pending ++
        (caller.run { w with state := s.bus }).effects.filterMap Effect.awaited } := by
  obtain ⟨hsame, hdev, hcalls⟩ := hspec
  -- a new call is made on a present device, when there is a default adapter
  have hnew : ∀ c ∈ (caller.run { w with state := s.bus }).effects.filterMap Effect.awaited,
      c.2 ∈ s.bus.present ∧ s.bus.defaultCtrl ≠ none := by
    intro c hc
    rcases hcalls c hc with ⟨hctrl, o, ho, hmem⟩ | ⟨hcaller, hdefault⟩
    · exact ⟨((h.live.listed o ho).2 c.2 hmem).1, hctrl⟩
    · exact ⟨h.live.dev c.2 hdefault, hcurrent hcaller⟩
  refine ⟨h.live.congr hsame (hdev ▸ h.live.dev), ?_, ?_, h.faults⟩
  · intro c hc
    rw [hsame.present]
    rcases List.mem_append.mp hc with hc | hc
    · exact h.devices c hc
    · exact (hnew c hc).1
  · intro hne
    rw [hsame.defaultCtrl]
    by_cases hold : s.pending = []
    · obtain ⟨c, hc⟩ := List.exists_mem_of_ne_nil _ hne
      rw [hold, List.nil_append] at hc
      exact (hnew c hc).2
    · exact h.ctrl hold

theorem Sound.reply {s t : Late} (h : s.Sound) {i : Nat} {error : Option (List UInt8)}
    (hnext : s.next (.reply i error) = some t) : t.Sound := by
  rw [Late.next] at hnext
  split at hnext
  · cases hnext
  next method proxy hcall =>
  obtain rfl := Option.some.inj hnext
  have hmem : (method, proxy) ∈ s.pending := List.mem_of_getElem? hcall
  have hsame : State.SameOutline s.bus ((s.bus.reply proxy error method).getD s.bus) ∧
      ∀ p ∈ ((s.bus.reply proxy error method).getD s.bus).defaultDev,
        s.bus.defaultDev = some p ∨ p = proxy := by
    cases hreply : s.bus.reply proxy error method with
    | none => exact ⟨(State.SameLists.refl _).toOutline, fun p hp => .inl hp⟩
    | some bus => exact State.reply_sameOutline hreply
  obtain ⟨hsame, hdev⟩ := hsame
  refine ⟨h.live.congr hsame fun p hp => ?_, ?_, ?_, ?_⟩
  · rcases hdev p hp with hp | rfl
    · exact h.live.dev p hp
    · exact h.devices _ hmem
  · intro c hc
    rw [hsame.present]
    exact h.devices c (List.mem_of_mem_eraseIdx hc)
  · intro _
    rw [hsame.defaultCtrl]
    exact h.ctrl (List.ne_nil_of_mem hmem)
  · show s.faults ++ _ = []
    rw [h.faults, List.nil_append, List.filter_eq_nil_iff]
    intro a ha
    simpa using h.replyUses_safe hmem error a ha

theorem Sound.announce {s t : Late} (h : s.Sound) {e : Event} (horderly : s.Orderly (.announce e))
    (hnext : s.next (.announce e) = some t) : t.Sound := by
  rw [Late.next, Option.ite_none_left_eq_some] at hnext
  obtain ⟨hreply, hnext⟩ := hnext
  obtain ⟨bus, hbus, rfl⟩ := Option.map_eq_some_iff.mp hnext
  obtain ⟨hpresent, hctrl⟩ := State.next_keeps hbus (Bool.eq_false_iff.mpr hreply)
  have hkeeps : s.bus.KeepsLive e := by
    cases e with
    | deviceRemoved p => exact horderly.2
    | adapterRemoved p => trivial
    | _ => exact horderly
  refine ⟨h.live.next hkeeps hbus, ?_, ?_, h.faults⟩
  · intro c hc
    refine hpresent c.2 (h.devices c hc) ?_
    rintro rfl
    exact horderly.1 c hc rfl
  · intro hne
    refine hctrl (h.ctrl hne) ?_
    rintro p rfl
    exact horderly hne

/-- **One move.** -/
theorem Sound.next {s t : Late} (h : s.Sound) {m : LateMove} (horderly : s.Orderly m)
    (hnext : s.next m = some t) : t.Sound := by
  cases m with
  | issue caller w =>
    obtain rfl := Option.some.inj hnext
    refine h.issue ?_ (caller.run_spec _)
    rintro rfl
    exact horderly
  | reply i error => exact h.reply hnext
  | announce e => exact h.announce horderly hnext
  | disconnected =>
    rw [Late.next, Option.ite_none_right_eq_some] at hnext
    obtain ⟨-, hnext⟩ := hnext
    obtain rfl := Option.some.inj hnext
    have hnone : s.pending = [] := horderly
    refine ⟨⟨.nil, nofun, .nil, nofun, h.live.dev⟩, h.devices, fun hne => ?_, h.faults⟩
    exact absurd hnone hne

end Late

/-- **Late replies.** As long as the devices of the pending calls and the default adapter
stay, no reply handler touches anything that is gone. -/
theorem late_replies_safe {s : Late} (h : Reach lateSystem Late.Orderly s) : s.faults = [] := by
  have hsound : s.Sound := by
    refine h.invariant ?_ fun s m t hs horderly hnext => Late.Sound.next hs horderly hnext
    rintro s rfl
    exact ⟨⟨.nil, nofun, .nil, nofun, nofun⟩, nofun, fun hne => absurd rfl hne, rfl⟩
  exact hsound.faults

instance (s : Late) : (m : LateMove) → Decidable (s.Orderly m)
  | .issue .disconnectCurrentDevices _ => inferInstanceAs (Decidable (s.bus.defaultCtrl ≠ none))
  | .announce (.deviceRemoved p) =>
    inferInstanceAs (Decidable ((∀ c ∈ s.pending, c.2 ≠ p) ∧ s.bus.KeepsLive (.deviceRemoved p)))
  | .announce (.adapterRemoved p) =>
    inferInstanceAs (Decidable (s.pending ≠ [] → ∀ a ∈ s.bus.defaultAdapter, a.proxy ≠ p))
  | .announce (.adapterAdded p path) =>
    inferInstanceAs (Decidable (s.bus.KeepsLive (.adapterAdded p path)))
  | .announce (.connectReply p error) =>
    inferInstanceAs (Decidable (s.bus.KeepsLive (.connectReply p error)))
  | .disconnected => inferInstanceAs (Decidable (s.pending = []))
  | .issue (.connectByAddress _) _ | .issue (.btDisconnectByAddress _) _
  | .issue (.pairByAddr _) _ | .reply .. | .announce (.deviceAdded ..)
  | .announce (.deviceChanged ..) | .announce (.disconnReply ..) | .announce (.attributeAdded ..)
  | .announce (.attributeRemoved ..) => inferInstanceAs (Decidable True)

/-- A device is found and asked to connect; `moves` come after that. -/
def connectRun (moves : List LateMove) : List LateMove :=
  [.announce (.adapterAdded 0 (hci 0)), .announce (.deviceAdded 2 (sampleDevice 0 65 false)),
    .issue (.connectByAddress (sampleAddr 65)) World.opened] ++ moves

/-- The reply arrives, and the device goes after that. -/
theorem late_replies_safe_connect :
    ∃ s : Late, s.bus.present = [] ∧ s.pending = [] ∧ s.faults = [] := by
  have hrun : ((connectRun [.reply 0 none, .announce (.deviceRemoved 2)]).foldlM
      (guarded Late.next Late.Orderly) { bus := State.opened }).map
      (fun s => (s.bus.present, s.pending)) = some ([], []) := by decide
  obtain ⟨s, hreach, hvals⟩ := Reach.of_guarded_run (S := lateSystem) (fun _ _ _ h => h) rfl hrun
  obtain ⟨hpresent, hpending⟩ := Prod.mk.inj hvals
  exact ⟨s, hpresent, hpending, late_replies_safe hreach⟩

/-- The device goes before the reply arrives: its proxy is stored and read. -/
theorem reply_after_removal :
    ∃ s, Reach lateSystem (fun _ _ => True) s ∧ s.faults ≠ [] ∧ s.bus.defaultDev = some 2 := by
  have hrun : ((connectRun [.announce (.deviceRemoved 2), .reply 0 none]).foldlM Late.next
      { bus := State.opened }).map (fun s => (s.faults, s.bus.defaultDev)) =
      some ([.store 2, .proxy 2], some 2) := by decide
  obtain ⟨s, hreach, hvals⟩ := Reach.of_run (S := lateSystem) (fun _ _ _ h => h) rfl hrun
  obtain ⟨hfaults, hdev⟩ := Prod.mk.inj hvals
  refine ⟨s, hreach, ?_, hdev⟩
  rw [hfaults]
  exact List.cons_ne_nil _ _

end ConnectApp.Bluez
