import ConnectApp.Bluez.Bus

/-!
# Players and transports (avrcpctrl.c:74-84, 126-190, 217-271, 448-484)

A connected headset has a `MediaPlayer1` and a `MediaTransport1` object. The handlers keep
their proxies in the lists `players` and `transports` and in the variables `default_player`
and `default_transport`, through which the commands for playback and volume reach them. What
a transport announces about codec, state and volume is gathered in `transport_media` and
copied from there into the record of the device.

`handles_live` says when none of the four variables holds a proxy that is gone;
`removed_transport_kept` is a run in which `default_transport` does.
-/

namespace ConnectApp.Bluez

open CString Transition

/-! ## Transports -/

/-- The object path of a device, `/org/bluez/hci0/dev_F8_7D_76_F2_12_F3`. -/
structure DevicePath where
  hci : Nat
  address : BdAddr
  deriving DecidableEq

/-- The object path. -/
def DevicePath.path (d : DevicePath) : List UInt8 :=
  chars "/org/bluez/hci" ++ natDec d.hci ++ chars "/dev_" ++ d.address

/-- A proxy of a `MediaTransport1` object: the device it belongs to, what its own path has
after that of the device, and its properties `UUID`, `Codec` and `Configuration`. -/
structure Transport where
  proxy : Proxy
  device : DevicePath
  suffix : List UInt8
  uuid : {u : List UInt8 // u.length = 36}
  codec : Option UInt8
  configuration : Option (List UInt8)
  deriving DecidableEq

/-- The object path: that of the device and an own part. -/
def Transport.path (t : Transport) : List UInt8 := t.device.path ++ t.suffix

/-- A change of a property of a transport; `other` is one the handler only prints. -/
inductive TransportChange
  | state (value : List UInt8)
  | volume (value : UInt16)
  | other
  deriving DecidableEq

/-- `BT_UUID_A2DP_SOURCE` and `BT_UUID_A2DP_SINK` (RkBtBase.h:45-46). -/
def uuidA2dpSource : List UInt8 := chars "0000110A-0000-1000-8000-00805F9B34FB"

/-- The UUID that makes a transport a sink. -/
def uuidA2dpSink : List UInt8 := chars "0000110B-0000-1000-8000-00805F9B34FB"

/-! ## Handlers -/

/-- `bt_media_state_change` for the change "Media" (a2dp_masterctrl.c:503-559). -/
def State.btMediaStateChange (s : State) (path : List UInt8) (newState : BtState)
    (data : Media) : State :=
  match s.defaultAdapter with
  | none => s
  | some ctrl =>
    match ctrl.appDevs.find? (fun r => r.devPath = path) with
    | none => s
    | some rdev =>
      let ctrl' := { ctrl with
        appDevs := FirstMatch.update (fun r => r.devPath = path) ({ · with media := data })
          ctrl.appDevs }
      (s.updateAdapter ctrl.id fun _ => ctrl').changeRecord ctrl' rdev.data (chars "Media") newState

/-- The variables of avrcpctrl.c, next to those of a2dp_masterctrl.c. `livePlayers` and
`liveTransports` are the proxies that exist. -/
structure Audio where
  app : State
  players : List Proxy := []
  defaultPlayer : Option Proxy := none
  transports : List Proxy := []
  defaultTransport : Option Proxy := none
  media : Media := {}
  livePlayers : List Proxy := []
  liveTransports : List Proxy := []

namespace Audio

/-- A call of `bt_media_state_change` with `transport_media`. -/
def mediaStateChange (s : Audio) (path : List UInt8) (newState : BtState) : Audio :=
  { s with app := s.app.btMediaStateChange path newState s.media }

/-- `player_added` (avrcpctrl.c:74-84). -/
def playerAdded (s : Audio) (proxy : Proxy) : Audio :=
  { s with players := s.players ++ [proxy], defaultPlayer := some proxy }

/-- `player_removed` (avrcpctrl.c:217-234). -/
def playerRemoved (s : Audio) (proxy : Proxy) : Audio :=
  if s.defaultPlayer = some proxy then { s with defaultPlayer := none } else s

/-- The call of `bt_media_state_change` at the end of `transport_added` and in
`transport_removed`: `source` and `sink` are the states for the two roles. -/
def reportRole (s : Audio) (t : Transport) (source sink : BtState) : Audio :=
  let s :=
    if eqIgnoringCase t.uuid uuidA2dpSource then s.mediaStateChange t.device.path source else s
  if eqIgnoringCase t.uuid uuidA2dpSink then s.mediaStateChange t.device.path sink else s

/-- `transport_added` (avrcpctrl.c:141-190). -/
def transportAdded (s : Audio) (t : Transport) : Audio :=
  let s := { s with transports := s.transports ++ [t.proxy], defaultTransport := some t.proxy }
  let value := t.configuration.getD []
  -- only SBC is supported
  if value.length ≠ 4 then s
  else
    { s with
      media := { s.media with
        codec := t.codec.getD 0xff
        sbc := value
        remoteUuids := memcpy t.uuid s.media.remoteUuids } }.reportRole t .srcAdd .sinkAdd

/-- `transport_removed` (avrcpctrl.c:249-271). -/
def transportRemoved (s : Audio) (t : Transport) : Audio :=
  let s := s.reportRole t .srcDel .sinkDel
  { s with transports := s.transports.erase t.proxy }

/-- `transport_property_changed` (avrcpctrl.c:448-484). -/
def transportPropertyChanged (s : Audio) (t : Transport) (change : TransportChange) : Audio :=
  let devPath := t.path.take 37
  match change with
  | .state value =>
    if contains (chars "active") value then
      { s with media := { s.media with state := .transportActive } }.mediaStateChange devPath
        .transportActive
    else if contains (chars "idle") value then
      { s with media := { s.media with state := .transportIdle } }.mediaStateChange devPath
        .transportIdle
    else s
  | .volume value =>
    { s with media := { s.media with volume := value, state := .transportVolume }
      }.mediaStateChange devPath .transportVolume
  | .other => s

end Audio

/-! ## Runs -/

/-- What BlueZ sends about transports. -/
inductive TransportEvent
  | added (t : Transport)
  | removed (t : Transport)
  | changed (t : Transport) (change : TransportChange)
  deriving DecidableEq

/-- What BlueZ sends about players and transports. -/
inductive AudioEvent
  | playerAdded (proxy : Proxy)
  | playerRemoved (proxy : Proxy)
  | transport (e : TransportEvent)
  deriving DecidableEq

namespace Audio

/-- The handler of each of them. -/
def transportHandle (s : Audio) : TransportEvent → Audio
  | .added t => s.transportAdded t
  | .removed t => s.transportRemoved t
  | .changed t change => s.transportPropertyChanged t change

/-- One event, if it can happen: a proxy is added when it does not exist, and it is freed
after its removal handler. -/
def next (s : Audio) : AudioEvent → Option Audio
  | .playerAdded p =>
    if p ∉ s.livePlayers then some { s.playerAdded p with livePlayers := p :: s.livePlayers }
    else none
  | .playerRemoved p =>
    if p ∈ s.livePlayers then
      some { s.playerRemoved p with livePlayers := s.livePlayers.filter (· ≠ p) }
    else none
  | .transport (.added t) =>
    if t.proxy ∉ s.liveTransports then
      some { s.transportAdded t with liveTransports := t.proxy :: s.liveTransports }
    else none
  | .transport (.removed t) =>
    if t.proxy ∈ s.liveTransports then
      some { s.transportRemoved t with liveTransports := s.liveTransports.filter (· ≠ t.proxy) }
    else none
  | .transport (.changed t change) =>
    if t.proxy ∈ s.liveTransports then some (s.transportPropertyChanged t change) else none

/-- No player is removed, and a transport only when another one has been added since. -/
def KeepsHandles (s : Audio) : AudioEvent → Prop
  | .playerRemoved _ => False
  | .transport (.removed t) => s.defaultTransport ≠ some t.proxy
  | _ => True

instance (s : Audio) : (e : AudioEvent) → Decidable (s.KeepsHandles e)
  | .playerRemoved _ => inferInstanceAs (Decidable False)
  | .transport (.removed t) => inferInstanceAs (Decidable (s.defaultTransport ≠ some t.proxy))
  | .playerAdded _ | .transport (.added _) | .transport (.changed ..) =>
    inferInstanceAs (Decidable True)

end Audio

/-- All runs from the state in which nothing has been added yet. -/
def audioSystem : System Audio AudioEvent where
  init := fun s => ∃ app, s = { app := app }
  step := fun s e t => s.next e = some t

namespace Audio

/-- The proxies of one kind: the list and the variable that hold them, and those that exist. -/
structure Handles where
  list : List Proxy
  default : Option Proxy
  live : List Proxy

/-- No proxy that is gone is held. -/
def Handles.Live (h : Handles) : Prop :=
  (∀ p ∈ h.default, p ∈ h.live) ∧ ∀ p ∈ h.list, p ∈ h.live

/-- The players with their default. -/
def playerHandles (s : Audio) : Handles := ⟨s.players, s.defaultPlayer, s.livePlayers⟩

/-- The transports with their default. -/
def transportHandles (s : Audio) : Handles :=
  ⟨s.transports, s.defaultTransport, s.liveTransports⟩

/-- The handles of both kinds are the same. -/
def SameHandles (s t : Audio) : Prop :=
  t.playerHandles = s.playerHandles ∧ t.transportHandles = s.transportHandles

/-- A report leaves the lists. -/
theorem sameHandles_reportRole (s : Audio) (t : Transport) (source sink : BtState) :
    SameHandles s (s.reportRole t source sink) := by
  unfold reportRole
  dsimp only
  split_ifs <;> exact ⟨rfl, rfl⟩

/-- A transport that comes is appended, and is the default. -/
theorem sameHandles_transportAdded (s : Audio) (t : Transport) :
    SameHandles { s with
      transports := s.transports ++ [t.proxy], defaultTransport := some t.proxy }
      (s.transportAdded t) := by
  unfold transportAdded
  dsimp only
  split_ifs
  · exact ⟨rfl, rfl⟩
  · exact sameHandles_reportRole _ t .srcAdd .sinkAdd

/-- A transport that goes is taken out. The default may still be it. -/
theorem sameHandles_transportRemoved (s : Audio) (t : Transport) :
    SameHandles { s with transports := s.transports.erase t.proxy } (s.transportRemoved t) := by
  obtain ⟨hplayer, htransport⟩ := s.sameHandles_reportRole t .srcDel .sinkDel
  refine ⟨hplayer, ?_⟩
  simp only [transportHandles, Handles.mk.injEq] at htransport ⊢
  obtain ⟨hlist, hdefault, hlive⟩ := htransport
  exact ⟨congrArg (List.erase · t.proxy) hlist, hdefault, hlive⟩

/-- A property leaves the lists. -/
theorem sameHandles_transportPropertyChanged (s : Audio) (t : Transport)
    (change : TransportChange) : SameHandles s (s.transportPropertyChanged t change) := by
  unfold transportPropertyChanged
  cases change with
  | state value =>
    dsimp only
    split_ifs <;> exact ⟨rfl, rfl⟩
  | volume value => exact ⟨rfl, rfl⟩
  | other => exact ⟨rfl, rfl⟩

/-! ### One event -/

/-- What one event does to the proxies of its own kind, as `p` and the handles before and
after; the other kind is left alone. -/
inductive Moves : Handles → Handles → Prop
  | stay (h : Handles) : Moves h h
  | add (h : Handles) {p : Proxy} (hp : p ∉ h.live) : Moves h ⟨h.list ++ [p], some p, p :: h.live⟩
  | remove (h : Handles) {p : Proxy} (hp : p ∈ h.live) (hdefault : h.default ≠ some p) :
    Moves h ⟨h.list.erase p, h.default, h.live.filter (· ≠ p)⟩

/-- Every event moves the players and the transports by one of these moves. -/
theorem next_moves {s t : Audio} {e : AudioEvent} (hkeeps : s.KeepsHandles e)
    (h : s.next e = some t) :
    Moves s.playerHandles t.playerHandles ∧ Moves s.transportHandles t.transportHandles := by
  cases e with
  | playerAdded p =>
    rw [next, Option.ite_none_right_eq_some] at h
    obtain ⟨hp, ⟨⟩⟩ := h
    exact ⟨.add s.playerHandles hp, .stay _⟩
  | playerRemoved p => exact hkeeps.elim
  | transport e =>
    cases e with
    | added tr =>
      rw [next, Option.ite_none_right_eq_some] at h
      obtain ⟨hp, ⟨⟩⟩ := h
      obtain ⟨hplayer, htransport⟩ := s.sameHandles_transportAdded tr
      simp only [transportHandles, Handles.mk.injEq] at htransport
      refine ⟨hplayer ▸ .stay _, ?_⟩
      simp only [transportHandles, htransport.1, htransport.2.1]
      exact .add s.transportHandles hp
    | removed tr =>
      rw [next, Option.ite_none_right_eq_some] at h
      obtain ⟨hp, ⟨⟩⟩ := h
      obtain ⟨hplayer, htransport⟩ := s.sameHandles_transportRemoved tr
      simp only [transportHandles, Handles.mk.injEq] at htransport
      refine ⟨hplayer ▸ .stay _, ?_⟩
      simp only [transportHandles, htransport.1, htransport.2.1]
      exact .remove s.transportHandles hp hkeeps
    | changed tr change =>
      rw [next, Option.ite_none_right_eq_some] at h
      obtain ⟨-, ⟨⟩⟩ := h
      obtain ⟨hplayer, htransport⟩ := s.sameHandles_transportPropertyChanged tr change
      rw [hplayer, htransport]
      exact ⟨.stay _, .stay _⟩

/-- A listed proxy exists, and is listed once: so `g_list_remove` leaves no second copy. -/
def Handles.Sound (h : Handles) : Prop := h.Live ∧ h.list.Nodup

/-- The moves keep the handles sound. -/
theorem Moves.sound {h k : Handles} (hs : h.Sound) (hmoves : Moves h k) : k.Sound := by
  obtain ⟨⟨hdefault, hlist⟩, hnodup⟩ := hs
  cases hmoves with
  | stay => exact ⟨⟨hdefault, hlist⟩, hnodup⟩
  | @add p hp =>
    have hlisted : p ∉ h.list := fun hmem => hp (hlist p hmem)
    refine ⟨⟨?_, ?_⟩, ?_⟩
    · intro q hq
      rw [← Option.some.inj hq]
      exact List.mem_cons_self
    · intro q hq
      rcases List.mem_append.mp hq with hq | hq
      · exact List.mem_cons_of_mem p (hlist q hq)
      · rw [List.mem_singleton.mp hq]
        exact List.mem_cons_self
    · rw [← List.concat_eq_append]
      exact hnodup.concat hlisted
  | @remove p hp hne =>
    refine ⟨⟨?_, ?_⟩, hnodup.erase p⟩
    · intro q hq
      refine List.mem_filter.mpr ⟨hdefault q hq, decide_eq_true fun heq => hne ?_⟩
      rw [← heq]
      exact hq
    · intro q hq
      obtain ⟨hqp, hq⟩ := hnodup.mem_erase_iff.mp hq
      exact List.mem_filter.mpr ⟨hlist q hq, decide_eq_true hqp⟩

end Audio

/-- **Audio handles.** When no player is removed, and a transport only while another one is
the default, the handles hold no proxy that is gone. -/
theorem handles_live {s : Audio} (h : Reach audioSystem Audio.KeepsHandles s) :
    (∀ p ∈ s.defaultTransport, p ∈ s.liveTransports) ∧
      (∀ p ∈ s.defaultPlayer, p ∈ s.livePlayers) ∧
      (∀ p ∈ s.transports, p ∈ s.liveTransports) ∧ ∀ p ∈ s.players, p ∈ s.livePlayers := by
  have hsound : s.playerHandles.Sound ∧ s.transportHandles.Sound := by
    refine h.invariant (P := fun s => s.playerHandles.Sound ∧ s.transportHandles.Sound) ?_ ?_
    · rintro s ⟨app, rfl⟩
      exact ⟨⟨⟨nofun, nofun⟩, .nil⟩, ⟨nofun, nofun⟩, .nil⟩
    · intro s e t hs hkeeps hstep
      obtain ⟨hplayer, htransport⟩ := Audio.next_moves hkeeps hstep
      exact ⟨hplayer.sound hs.1, htransport.sound hs.2⟩
  exact ⟨hsound.2.1.1, hsound.1.1.1, hsound.2.1.2, hsound.1.1.2⟩

/-- A transport of a headset, as BlueZ describes it. -/
def sampleTransport (proxy : Proxy) (b : UInt8) : Transport where
  proxy := proxy
  device := ⟨0, ⟨chars "F8_7D_76_F2_12_F" ++ [b], rfl⟩⟩
  suffix := chars "/fd" ++ [b]
  uuid := ⟨uuidA2dpSink, by decide⟩
  codec := some 0
  configuration := some [0x21, 0x15, 2, 53]

/-- A second headset connects before the first one goes. -/
def twoHeadsets : List AudioEvent :=
  [.playerAdded 1, .transport (.added (sampleTransport 2 48)), .playerAdded 3,
    .transport (.added (sampleTransport 4 49)), .transport (.removed (sampleTransport 2 48))]

/-- Two headsets, of which one goes. -/
theorem handles_live_twoHeadsets :
    ∃ s : Audio, s.defaultTransport = some 4 ∧ ∀ p ∈ s.defaultTransport, p ∈ s.liveTransports := by
  have hrun : (twoHeadsets.foldlM (guarded Audio.next Audio.KeepsHandles)
      { app := State.opened }).map Audio.defaultTransport = some (some 4) := by decide
  obtain ⟨s, hreach, hdefault⟩ :=
    Reach.of_guarded_run (S := audioSystem) (fun _ _ _ h => h) ⟨_, rfl⟩ hrun
  exact ⟨s, hdefault, (handles_live hreach).1⟩

/-- The only transport goes: `transport_removed` does not look at `default_transport`. -/
theorem removed_transport_kept :
    ∃ s, Reach audioSystem (fun _ _ => True) s ∧
      ¬ ((∀ p ∈ s.defaultTransport, p ∈ s.liveTransports) ∧
        (∀ p ∈ s.defaultPlayer, p ∈ s.livePlayers) ∧
        (∀ p ∈ s.transports, p ∈ s.liveTransports) ∧ ∀ p ∈ s.players, p ∈ s.livePlayers) := by
  have hrun : ([AudioEvent.transport (.added (sampleTransport 2 48)),
      .transport (.removed (sampleTransport 2 48))].foldlM Audio.next
      { app := State.opened }).map (fun s => (s.defaultTransport, s.liveTransports)) =
      some (some 2, []) := by decide
  obtain ⟨s, hreach, hvals⟩ := Reach.of_run (S := audioSystem) (fun _ _ _ h => h) ⟨_, rfl⟩ hrun
  obtain ⟨hdefault, hlive⟩ := Prod.mk.inj hvals
  refine ⟨s, hreach, fun hall => ?_⟩
  have hmem := hall.1 2 hdefault
  rw [hlive] at hmem
  cases hmem

end ConnectApp.Bluez
