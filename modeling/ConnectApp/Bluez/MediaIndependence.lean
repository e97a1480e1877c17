import ConnectApp.Lib.Latest
import ConnectApp.Bluez.Audio

/-!
# Media information and other devices

`transport_media` is one buffer for all devices. An event overwrites part of it and then
copies all of it into the record of its device, so a record also gets what other devices
have announced in the meantime.

`media_independent_iff` compares two runs that have the same events of a device `d`. The
states reported for `d` are always the same. The media information is the same exactly when
the latest announcements of each kind, by any device, agree up to the last event of `d` that
reaches its record. `volume_leaks` is a pair of runs in which they do not.
-/

namespace ConnectApp.Bluez

open CString Latest

/-! ## Paths -/

/-- A path of 37 bytes has its fourth slash behind the first digit of the number of the
adapter; in a longer one there is another digit. -/
theorem DevicePath.slash_iff (d : DevicePath) :
    37 ≤ d.path.length ∧ (d.path[15]? = some 47 ↔ d.path.length = 37) := by
  obtain ⟨c, rest, hdec, -⟩ := (natDec_digits d.hci).head
  have hpath : d.path = chars "/org/bluez/hci" ++ (c :: (rest ++ (chars "/dev_" ++ d.address))) := by
    rw [path, hdec, List.append_assoc, List.append_assoc, List.cons_append]
  have hlen : d.path.length = 37 + rest.length := by
    rw [hpath]
    simp only [List.length_append, List.length_cons, d.address.2,
      show (chars "/org/bluez/hci").length = 14 by decide,
      show (chars "/dev_").length = 5 by decide]
    omega
  have hbyte : d.path[15]? = (rest ++ (chars "/dev_" ++ d.address))[0]? := by
    rw [hpath, List.getElem?_append_right (by decide)]
    rfl
  refine ⟨by omega, ?_⟩
  rw [hbyte]
  cases rest with
  | nil => exact ⟨fun _ => hlen, fun _ => rfl⟩
  | cons b rest =>
    refine ⟨fun hb => ?_, fun h37 => ?_⟩
    · -- the second digit is not a slash
      have hdigit := (natDec_digits d.hci).digits b (by rw [hdec]; simp)
      rw [Option.some.inj hb] at hdigit
      exact absurd hdigit (by decide)
    · rw [List.length_cons] at hlen
      omega

/-- **Cut paths.** Cut to 37 bytes, the path of a transport is the path of its own device or
of none. -/
theorem Transport.path_take {t : Transport} {d : DevicePath} (h : t.path.take 37 = d.path) :
    t.device.path = d.path := by
  obtain ⟨hlen, hslash⟩ := t.device.slash_iff
  have hcut : t.device.path.take 37 = d.path := by
    rw [← h, Transport.path, List.take_append_of_le_length hlen]
  have h37 : d.path.length = 37 := by
    rw [← hcut, List.length_take, Nat.min_eq_left hlen]
  have hbyte : t.device.path[15]? = some 47 := by
    rw [← d.slash_iff.2.mpr h37, ← hcut, List.getElem?_take_of_lt (by decide)]
  rw [← hcut, List.take_of_length_le (hslash.mp hbyte).le]

/-! ## What is asked of `bt_media_state_change` -/

namespace State

/-- The records in which `bt_media_state_change` searches. -/
def records (s : State) : List RemoteDev := (s.defaultAdapter.map Adapter.appDevs).getD []

/-- Every record carries the path of its proxy. -/
def PathsKept (s : State) : Prop := ∀ r ∈ s.records, r.devPath = (s.props r.data).path

/-- The media information in the record of `path`. -/
def mediaOf (s : State) (path : List UInt8) : Option Media :=
  (s.records.find? fun r => r.devPath = path).map RemoteDev.media

/-- The states reported for `path`. -/
def statesOf (s : State) (path : List UInt8) : List BtState :=
  (s.reports.filter fun r => r.rdev.any fun r => r.devPath = path).map Report.state

theorem defaultAdapter_updateAdapter {s : State} {ctrl : Adapter}
    (h : s.defaultAdapter = some ctrl) {f : Adapter → Adapter} (hf : ∀ a, a.id = ctrl.id →
    (f a).id = ctrl.id) : (s.updateAdapter ctrl.id f).defaultAdapter = some (f ctrl) := by
  obtain ⟨i, hi, hfind⟩ := Option.bind_eq_some_iff.mp h
  obtain rfl : ctrl.id = i := by simpa using List.find?_some hfind
  have hsearch : (fun a : Adapter => decide ((if a.id = ctrl.id then f a else a).id = ctrl.id)) =
      fun a => decide (a.id = ctrl.id) := by
    funext a
    split_ifs with ha
    · simp only [hf a ha, ha]
    · rfl
  simp only [defaultAdapter, updateAdapter, hi, Option.bind_some, List.find?_map,
    Function.comp_def, hsearch, hfind, Option.map_some, if_true]

end State

theorem RemoteDev.refresh_state (rdev : RemoteDev) (p : DeviceProps) {newState : BtState}
    (h : newState ≠ .none) : (rdev.refresh p (chars "Media") newState).2 = newState := by
  have hcopy : (rdev.base p).copy p (chars "Media") = (rdev.base p, none) := by
    unfold copy
    rw [if_neg (by decide), if_neg (by decide), if_neg (by decide),
      if_neg (by decide), if_neg (by decide), if_neg (by decide),
      if_neg (by decide)]
  rw [refresh, hcopy]
  exact if_neg h

namespace State

/-- The records after `bt_media_state_change` has found one with `path`. -/
def storeMedia (path : List UInt8) (data : Media) (l : List RemoteDev) : List RemoteDev :=
  FirstMatch.update (fun r => r.devPath = path) ({ · with media := data }) l

theorem storeMedia_keys (path : List UInt8) (data : Media) (l : List RemoteDev) :
    (storeMedia path data l).map (fun r => (r.data, r.devPath)) =
      l.map fun r => (r.data, r.devPath) := by
  refine FirstMatch.map_update ?_ l
  intro r _
  rfl

/-- The search of `bt_state_change` for the proxy of the record that
`bt_media_state_change` has found: it ends at a record with the same path. -/
theorem find?_storeMedia {s : State} (hs : s.PathsKept) {rdev : RemoteDev}
    (hrdev : rdev ∈ s.records) (path : List UInt8) (data : Media) :
    ∃ first, (storeMedia path data s.records).find? (fun r => r.data = rdev.data) = some first ∧
      first.devPath = rdev.devPath := by
  have hmem : (rdev.data, rdev.devPath) ∈
      (storeMedia path data s.records).map fun r => (r.data, r.devPath) := by
    rw [storeMedia_keys]
    exact List.mem_map_of_mem hrdev
  obtain ⟨r, hr, hpair⟩ := List.mem_map.mp hmem
  obtain ⟨first, hfirst⟩ := Option.isSome_iff_exists.mp
    (List.find?_isSome (p := fun r => decide (r.data = rdev.data)).mpr
      ⟨r, hr, decide_eq_true (Prod.mk.inj hpair).1⟩)
  refine ⟨first, hfirst, ?_⟩
  -- the paths of both are that of their common proxy
  have hfirstMem : (first.data, first.devPath) ∈ s.records.map fun r => (r.data, r.devPath) := by
    rw [← storeMedia_keys path data]
    exact List.mem_map_of_mem (List.mem_of_find?_eq_some hfirst)
  obtain ⟨q, hq, hqpair⟩ := List.mem_map.mp hfirstMem
  obtain ⟨hqdata, hqpath⟩ := Prod.mk.inj hqpair
  have hdata : first.data = rdev.data := by simpa using List.find?_some hfirst
  rw [← hqpath, hs q hq, hqdata, hdata, ← hs rdev hrdev]

/-- `bt_media_state_change` with a default adapter and a record for the path. -/
theorem btMediaStateChange_found {s : State} {ctrl : Adapter} (hctrl : s.defaultAdapter = some ctrl)
    {path : List UInt8} {rdev first : RemoteDev} {data : Media}
    (hfind : ctrl.appDevs.find? (fun r => r.devPath = path) = some rdev)
    (hfirst : (storeMedia path data ctrl.appDevs).find? (fun r => r.data = rdev.data) = some first)
    {newState : BtState} (hstate : newState ≠ .none) :
    let sent := (first.refresh (s.props rdev.data) (chars "Media") newState).1
    let ctrl' := { ctrl with appDevs := storeMedia path data ctrl.appDevs }
    s.btMediaStateChange path newState data =
      ((s.updateAdapter ctrl.id fun _ => ctrl').updateAdapter ctrl'.id fun a => { a with
        appDevs := FirstMatch.update (fun r => r.data = rdev.data) (fun _ => sent) a.appDevs
        }).btStateSend (some sent) newState := by
  have hstored : storeMedia path data ctrl.appDevs =
      FirstMatch.update (fun r => r.devPath = path) ({ · with media := data }) ctrl.appDevs := rfl
  rw [btMediaStateChange, hctrl]
  dsimp only
  rw [hfind]
  dsimp only
  rw [← hstored, changeRecord, hfirst]
  dsimp only [updateAdapter]
  rw [RemoteDev.refresh_state first _ hstate]

/-- `bt_media_state_change` finds no record and does nothing, or it stores the media
information in the record found, refreshes that record and reports it. -/
theorem btMediaStateChange_cases {s : State} (hs : s.PathsKept) (path : List UInt8)
    {newState : BtState} (hstate : newState ≠ .none) (data : Media) :
    (s.mediaOf path = none ∧ s.btMediaStateChange path newState data = s) ∨
    ∃ rdev ∈ s.records, rdev.devPath = path ∧
      (s.btMediaStateChange path newState data).props = s.props ∧
      (s.btMediaStateChange path newState data).records =
        FirstMatch.update (fun r => r.data = rdev.data)
          (fun r => (r.refresh (s.props rdev.data) (chars "Media") newState).1)
          (storeMedia path data s.records) ∧
      ∃ sent : RemoteDev, sent.devPath = path ∧
        (s.btMediaStateChange path newState data).reports =
          s.reports ++ [⟨some sent, newState⟩] := by
  cases hctrl : s.defaultAdapter with
  | none => exact .inl ⟨by simp [mediaOf, records, hctrl], by rw [btMediaStateChange, hctrl]⟩
  | some ctrl =>
    have hrecords : s.records = ctrl.appDevs := by
      rw [records, hctrl]
      rfl
    cases hfind : ctrl.appDevs.find? (fun r => r.devPath = path) with
    | none =>
      refine .inl ⟨?_, ?_⟩
      · rw [mediaOf, hrecords, hfind]
        rfl
      · rw [btMediaStateChange, hctrl]
        dsimp only
        rw [hfind]
    | some rdev =>
      have hpath : rdev.devPath = path := by simpa using List.find?_some hfind
      have hrdev : rdev ∈ s.records := hrecords ▸ List.mem_of_find?_eq_some hfind
      obtain ⟨first, hfirst, hsame⟩ := find?_storeMedia hs hrdev path data
      rw [hrecords] at hfirst
      have hchange := btMediaStateChange_found hctrl hfind hfirst hstate
      have hdefault := defaultAdapter_updateAdapter (defaultAdapter_updateAdapter hctrl
        (f := fun _ => { ctrl with appDevs := storeMedia path data ctrl.appDevs }) fun _ _ => rfl)
        (f := fun a => { a with
          appDevs := FirstMatch.update (fun r => r.data = rdev.data)
            (fun _ => (first.refresh (s.props rdev.data) (chars "Media") newState).1) a.appDevs })
        fun _ h => h
      refine .inr ⟨rdev, hrdev, hpath, by rw [hchange]; rfl, ?_, _, ?_, by rw [hchange]; rfl⟩
      · rw [hchange, hrecords, records]
        refine (congrArg (fun o => (Option.map Adapter.appDevs o).getD []) hdefault).trans ?_
        exact FirstMatch.update_find? hfirst
          fun r => (r.refresh (s.props rdev.data) (chars "Media") newState).1
      · rw [RemoteDev.refresh_devPath, hsame, hpath]

/-- Refreshing a record changes neither paths nor proxies nor media information. -/
theorem refreshed_keys (q : RemoteDev → Bool) (p : DeviceProps) (newState : BtState)
    (l : List RemoteDev) :
    (FirstMatch.update q (fun r => (r.refresh p (chars "Media") newState).1) l).map
        (fun r => (r.data, r.devPath, r.media)) = l.map fun r => (r.data, r.devPath, r.media) := by
  refine FirstMatch.map_update ?_ l
  intro r _
  rw [r.refresh_data, r.refresh_devPath, r.refresh_media]

/-- The search by path sees only paths and media information. -/
theorem mediaOf_congr {l l' : List RemoteDev} (path : List UInt8)
    (h : l'.map (fun r => (r.data, r.devPath, r.media)) =
      l.map fun r => (r.data, r.devPath, r.media)) :
    (l'.find? fun r => r.devPath = path).map RemoteDev.media =
      (l.find? fun r => r.devPath = path).map RemoteDev.media := by
  have hsearch : ∀ l : List RemoteDev, (l.find? fun r => r.devPath = path).map RemoteDev.media =
      ((l.map fun r => (r.data, r.devPath, r.media)).find? fun x => x.2.1 = path).map
        fun x => x.2.2 := by
    intro l
    rw [List.find?_map, Option.map_map]
    rfl
  rw [hsearch, hsearch, h]

theorem mediaOf_btMediaStateChange {s : State} (hs : s.PathsKept) (path d : List UInt8)
    {newState : BtState} (hstate : newState ≠ .none) (data : Media) :
    (s.btMediaStateChange path newState data).mediaOf d =
      if path = d then (s.mediaOf d).map fun _ => data else s.mediaOf d := by
  rcases btMediaStateChange_cases hs path hstate data with ⟨hnone, hsame⟩ |
    ⟨rdev, -, -, -, hrecords, -⟩
  · rw [hsame]
    split_ifs with hd
    · rw [← hd, hnone]
      rfl
    · rfl
  · rw [mediaOf, hrecords, mediaOf_congr d (refreshed_keys _ _ newState _), storeMedia]
    split_ifs with hd
    · subst hd
      rw [FirstMatch.find?_update_self, mediaOf, Option.map_map, Option.map_map]
      · rfl
      · exact fun r hr => hr
    · rw [FirstMatch.find?_update_of_ne, mediaOf]
      intro r hr
      have hne : r.devPath ≠ d := fun heq => hd ((of_decide_eq_true hr).symm.trans heq)
      exact ⟨decide_eq_false hne, decide_eq_false hne⟩

theorem statesOf_btMediaStateChange {s : State} (hs : s.PathsKept) (path d : List UInt8)
    {newState : BtState} (hstate : newState ≠ .none) (data : Media) :
    (s.btMediaStateChange path newState data).statesOf d =
      s.statesOf d ++ if path = d ∧ s.mediaOf d ≠ none then [newState] else [] := by
  rcases btMediaStateChange_cases hs path hstate data with ⟨hnone, hsame⟩ |
    ⟨rdev, hrdev, hpath, -, -, sent, hsent, hreports⟩
  · rw [hsame, if_neg, List.append_nil]
    rintro ⟨rfl, hd⟩
    exact hd hnone
  · rw [statesOf, hreports, List.filter_append, List.map_append, statesOf]
    congr 1
    by_cases hd : path = d
    · have hfound : s.mediaOf d ≠ none := by
        rw [mediaOf, Ne, Option.map_eq_none_iff, List.find?_eq_none]
        exact fun hall => hall rdev hrdev (decide_eq_true (hpath.trans hd))
      rw [if_pos ⟨hd, hfound⟩]
      simp [hsent, hd]
    · rw [if_neg fun h => hd h.1]
      simp [hsent, hd]

theorem pathsKept_btMediaStateChange {s : State} (hs : s.PathsKept) (path : List UInt8)
    {newState : BtState} (hstate : newState ≠ .none) (data : Media) :
    (s.btMediaStateChange path newState data).PathsKept := by
  rcases btMediaStateChange_cases hs path hstate data with ⟨-, hsame⟩ |
    ⟨rdev, -, -, hprops, hrecords, -⟩
  · rwa [hsame]
  · intro r hr
    have hmem : (r.data, r.devPath) ∈ s.records.map fun r => (r.data, r.devPath) := by
      rw [← storeMedia_keys path data, ← FirstMatch.map_update (q := fun r => r.data = rdev.data)
        (f := fun r => (r.refresh (s.props rdev.data) (chars "Media") newState).1), ← hrecords]
      · exact List.mem_map_of_mem hr
      · intro r _
        rw [r.refresh_data, r.refresh_devPath]
    obtain ⟨q, hq, hpair⟩ := List.mem_map.mp hmem
    obtain ⟨hdata, hpath⟩ := Prod.mk.inj hpair
    rw [hprops, ← hpath, ← hdata, hs q hq]

end State

/-! ## Events -/

namespace TransportEvent

/-- The device of the transport. -/
def device : TransportEvent → DevicePath
  | added t | removed t | changed t _ => t.device

/-- The codec, configuration and uuid that an event announces. -/
def config : TransportEvent → Option (UInt8 × List UInt8 × {u : List UInt8 // u.length = 36})
  | added t =>
    if (t.configuration.getD []).length = 4 then
      some (t.codec.getD 0xff, t.configuration.getD [], t.uuid)
    else none
  | _ => none

/-- The state that an event announces. -/
def state : TransportEvent → Option BtState
  | changed _ (.state value) =>
    if contains (chars "active") value then some .transportActive
    else if contains (chars "idle") value then some .transportIdle
    else none
  | changed _ (.volume _) => some .transportVolume
  | _ => none

/-- The volume that is announced. -/
def volume : TransportEvent → Option UInt16
  | changed _ (.volume value) => some value
  | _ => none

/-- What the event makes of `transport_media`. -/
def write (e : TransportEvent) (m : Media) : Media where
  codec := (e.config.map fun c => c.1).getD m.codec
  sbc := (e.config.map fun c => c.2.1).getD m.sbc
  remoteUuids := (e.config.map fun c => memcpy c.2.2 m.remoteUuids).getD m.remoteUuids
  state := e.state.getD m.state
  volume := e.volume.getD m.volume

/-- The state for the role of the device, if the uuid is that of A2DP. -/
def roleState (t : Transport) (source sink : BtState) : Option BtState :=
  if eqIgnoringCase t.uuid uuidA2dpSource then some source
  else if eqIgnoringCase t.uuid uuidA2dpSink then some sink
  else none

/-- The path and the state with which `bt_media_state_change` is called. -/
def call : TransportEvent → Option (List UInt8 × BtState)
  | e@(added t) =>
    if e.config = none then none else (roleState t .srcAdd .sinkAdd).map (t.device.path, ·)
  | removed t => (roleState t .srcDel .sinkDel).map (t.device.path, ·)
  | e@(changed t _) => e.state.map (t.path.take 37, ·)

/-- The event reaches the record of `d`, if there is one. -/
def hits (d : DevicePath) (e : TransportEvent) : Bool := e.call.any fun c => c.1 = d.path

end TransportEvent

theorem Audio.reportRole_eq (s : Audio) (t : Transport) (source sink : BtState) :
    s.reportRole t source sink =
      match TransportEvent.roleState t source sink with
      | none => s
      | some state => s.mediaStateChange t.device.path state := by
  unfold reportRole TransportEvent.roleState
  by_cases hsource : eqIgnoringCase t.uuid uuidA2dpSource = true
  · -- a uuid that is equal to the one is not equal to the other
    have hsink : ¬ eqIgnoringCase t.uuid uuidA2dpSink = true := by
      intro hsink
      have heq := (of_decide_eq_true hsource).symm.trans (of_decide_eq_true hsink)
      exact absurd heq (by decide)
    simp only [if_pos hsource, if_neg hsink]
  · simp only [if_neg hsource]
    split_ifs <;> rfl

/-- Every event is a write to `transport_media`, followed by at most one call of
`bt_media_state_change`. -/
theorem Audio.transportHandle_eq (s : Audio) (e : TransportEvent) :
    (s.transportHandle e).media = e.write s.media ∧
      (s.transportHandle e).app =
        match e.call with
        | none => s.app
        | some (path, state) => s.app.btMediaStateChange path state (e.write s.media) := by
  cases e with
  | added t =>
    rw [transportHandle, transportAdded]
    dsimp only
    by_cases hlen : (t.configuration.getD []).length = 4
    · have hconfig : (TransportEvent.added t).config =
          some (t.codec.getD 0xff, t.configuration.getD [], t.uuid) := if_pos hlen
      have hwrite : (TransportEvent.added t).write s.media = { s.media with
          codec := t.codec.getD 0xff
          sbc := t.configuration.getD []
          remoteUuids := memcpy t.uuid s.media.remoteUuids } := by
        rw [TransportEvent.write, hconfig]
        rfl
      rw [if_neg (not_not.mpr hlen), reportRole_eq, hwrite, TransportEvent.call, hconfig,
        if_neg nofun]
      cases TransportEvent.roleState t .srcAdd .sinkAdd <;> exact ⟨rfl, rfl⟩
    · have hconfig : (TransportEvent.added t).config = none := if_neg hlen
      rw [if_pos hlen, TransportEvent.write, TransportEvent.call, hconfig, if_pos rfl]
      exact ⟨rfl, rfl⟩
  | removed t =>
    rw [transportHandle, transportRemoved, reportRole_eq, TransportEvent.call]
    cases TransportEvent.roleState t .srcDel .sinkDel <;> exact ⟨rfl, rfl⟩
  | changed t change =>
    cases change with
    | state value =>
      rw [transportHandle, transportPropertyChanged, TransportEvent.write, TransportEvent.call,
        TransportEvent.state]
      dsimp only
      split_ifs <;> exact ⟨rfl, rfl⟩
    | volume value => exact ⟨rfl, rfl⟩
    | other => exact ⟨rfl, rfl⟩

namespace TransportEvent

theorem roleState_eq_some {t : Transport} {source sink state : BtState}
    (h : roleState t source sink = some state) : state = source ∨ state = sink := by
  unfold roleState at h
  split_ifs at h
  · exact .inl (Option.some.inj h).symm
  · exact .inr (Option.some.inj h).symm

/-- The state of a call is never the one that `bt_state_change` would replace. -/
theorem call_ne_none {e : TransportEvent} {path : List UInt8} {state : BtState}
    (h : e.call = some (path, state)) : state ≠ .none := by
  cases e with
  | added t =>
    rw [call] at h
    split_ifs at h
    obtain ⟨_, hrole, ⟨⟩⟩ := Option.map_eq_some_iff.mp h
    rcases roleState_eq_some hrole with rfl | rfl <;> nofun
  | removed t =>
    obtain ⟨_, hrole, ⟨⟩⟩ := Option.map_eq_some_iff.mp h
    rcases roleState_eq_some hrole with rfl | rfl <;> nofun
  | changed t change =>
    obtain ⟨_, hstate, ⟨⟩⟩ := Option.map_eq_some_iff.mp h
    unfold TransportEvent.state at hstate
    split at hstate
    · split_ifs at hstate <;> cases hstate <;> nofun
    · cases hstate
      nofun
    · cases hstate

/-- Only the events of a device reach its record. -/
theorem device_of_hits {d : DevicePath} {e : TransportEvent} (h : e.hits d = true) :
    e.device.path = d.path := by
  obtain ⟨c, hc, hpath⟩ := Option.any_eq_true _ _ |>.mp h
  have hpath : c.1 = d.path := of_decide_eq_true hpath
  cases e with
  | added t =>
    rw [call] at hc
    split_ifs at hc
    obtain ⟨state, -, rfl⟩ := Option.map_eq_some_iff.mp hc
    exact hpath
  | removed t =>
    obtain ⟨state, -, rfl⟩ := Option.map_eq_some_iff.mp hc
    exact hpath
  | changed t change =>
    obtain ⟨state, -, rfl⟩ := Option.map_eq_some_iff.mp hc
    exact Transport.path_take hpath

end TransportEvent

/-- The buffer `m` with the latest announcement of each kind. -/
def announced (m : Media) (es : List TransportEvent) : Media where
  codec := latest (fun e => e.config.map fun c => c.1) m.codec es
  sbc := latest (fun e => e.config.map fun c => c.2.1) m.sbc es
  remoteUuids :=
    latest (fun e => e.config.map fun c => c.2.2.1) (m.remoteUuids.take 36) es ++
      m.remoteUuids.drop 36
  state := latest TransportEvent.state m.state es
  volume := latest TransportEvent.volume m.volume es

/-- The uuids have 36 bytes, so the rest of the buffer stays as it is. -/
theorem drop_announced (m : Media) (es : List TransportEvent) :
    (announced m es).remoteUuids.drop 36 = m.remoteUuids.drop 36 := by
  induction es using List.reverseRecOn with
  | nil =>
    show (m.remoteUuids.take 36 ++ m.remoteUuids.drop 36).drop 36 = _
    rw [List.take_append_drop]
  | append_singleton es e ih =>
    rw [announced, latest_concat]
    cases e.config with
    | none => exact ih
    | some c => exact List.drop_left' c.2.2.2

theorem announced_concat (m : Media) (es : List TransportEvent) (e : TransportEvent) :
    announced m (es ++ [e]) = e.write (announced m es) := by
  have huuids : (announced m (es ++ [e])).remoteUuids = (e.write (announced m es)).remoteUuids := by
    rw [announced, latest_concat, TransportEvent.write]
    cases e.config with
    | none => rfl
    | some c =>
      show c.2.2.1 ++ _ = c.2.2.1 ++ (announced m es).remoteUuids.drop c.2.2.1.length
      rw [c.2.2.2, drop_announced]
  have hrest : ∀ u, { announced m (es ++ [e]) with remoteUuids := u } =
      { e.write (announced m es) with remoteUuids := u } := by
    intro u
    simp only [announced, latest_concat, TransportEvent.write]
  exact (hrest _).trans (congrArg (fun u => { e.write (announced m es) with remoteUuids := u })
    huuids)

/-! ## Runs -/

/-- What a run does to `transport_media`, to the record of `d` and to the states reported for
it. -/
structure Audio.Follows (d : DevicePath) (s : Audio) (es : List TransportEvent) (t : Audio) :
    Prop where
  paths : t.app.PathsKept
  buffer : t.media = announced s.media es
  media : t.app.mediaOf d.path = (s.app.mediaOf d.path).map fun m =>
    if heard (TransportEvent.hits d) es = [] then m
    else announced s.media (heard (TransportEvent.hits d) es)
  states : t.app.statesOf d.path = s.app.statesOf d.path ++
    if s.app.mediaOf d.path = none then []
    else (es.filter (TransportEvent.hits d)).filterMap fun e => e.call.map fun c => c.2

namespace Audio

theorem Follows.nil (d : DevicePath) {s : Audio} (hs : s.app.PathsKept) : Follows d s [] s where
  paths := hs
  buffer := by
    show s.media = { s.media with
      remoteUuids := s.media.remoteUuids.take 36 ++ s.media.remoteUuids.drop 36 }
    rw [List.take_append_drop]
  media := by
    rw [show heard (TransportEvent.hits d) [] = [] from rfl]
    simp only [if_true, Option.map_id']
  states := by
    rw [List.filter_nil, List.filterMap_nil, ite_self, List.append_nil]

/-- An event that does not reach the record of `d` changes at most the buffer. -/
theorem Follows.miss {d : DevicePath} {s t : Audio} {es : List TransportEvent}
    (h : Follows d s es t) {e : TransportEvent} (hmiss : e.hits d = false) :
    Follows d s (es ++ [e]) (t.transportHandle e) := by
  obtain ⟨hbuffer, happ⟩ := t.transportHandle_eq e
  have hkept : (t.transportHandle e).app.PathsKept ∧
      (t.transportHandle e).app.mediaOf d.path = t.app.mediaOf d.path ∧
      (t.transportHandle e).app.statesOf d.path = t.app.statesOf d.path := by
    cases hcall : e.call with
    | none =>
      rw [happ, hcall]
      exact ⟨h.paths, rfl, rfl⟩
    | some c =>
      have hne : c.1 ≠ d.path := fun heq => by
        rw [TransportEvent.hits, hcall] at hmiss
        exact absurd (decide_eq_true heq) (Bool.eq_false_iff.mp hmiss)
      have hstate := TransportEvent.call_ne_none hcall
      rw [happ, hcall]
      refine ⟨State.pathsKept_btMediaStateChange h.paths c.1 hstate _, ?_, ?_⟩
      · exact (State.mediaOf_btMediaStateChange h.paths c.1 d.path hstate _).trans (if_neg hne)
      · refine (State.statesOf_btMediaStateChange h.paths c.1 d.path hstate _).trans ?_
        rw [if_neg fun hand => hne hand.1, List.append_nil]
  refine ⟨hkept.1, ?_, ?_, ?_⟩
  · rw [hbuffer, h.buffer, announced_concat]
  · rw [hkept.2.1, h.media, heard_concat_neg hmiss]
  · rw [hkept.2.2, h.states, List.filter_append, List.filter_cons_of_neg (Bool.eq_false_iff.mp hmiss),
      List.filter_nil, List.append_nil]

/-- An event that reaches the record of `d` copies the whole buffer into it. -/
theorem Follows.hit {d : DevicePath} {s t : Audio} {es : List TransportEvent}
    (h : Follows d s es t) {e : TransportEvent} (hhit : e.hits d = true) :
    Follows d s (es ++ [e]) (t.transportHandle e) := by
  obtain ⟨hbuffer, happ⟩ := t.transportHandle_eq e
  obtain ⟨c, hcall, hpath⟩ := Option.any_eq_true _ _ |>.mp hhit
  have hpath : c.1 = d.path := of_decide_eq_true hpath
  have hstate := TransportEvent.call_ne_none hcall
  have happ : (t.transportHandle e).app =
      t.app.btMediaStateChange c.1 c.2 (e.write t.media) := by rw [happ, hcall]
  have hfound : t.app.mediaOf d.path = none ↔ s.app.mediaOf d.path = none := by
    rw [h.media, Option.map_eq_none_iff]
  refine ⟨?_, ?_, ?_, ?_⟩
  · rw [happ]
    exact State.pathsKept_btMediaStateChange h.paths c.1 hstate _
  · rw [hbuffer, h.buffer, announced_concat]
  · rw [happ, State.mediaOf_btMediaStateChange h.paths c.1 d.path hstate, if_pos hpath, h.media,
      heard_concat_pos hhit, Option.map_map, announced_concat, h.buffer]
    simp only [Function.comp_def, List.append_eq_nil_iff, List.cons_ne_nil, and_false, if_false]
  · rw [happ, State.statesOf_btMediaStateChange h.paths c.1 d.path hstate, h.states,
      List.append_assoc, List.filter_append, List.filter_cons_of_pos hhit, List.filter_nil,
      List.filterMap_append]
    congr 1
    by_cases hnone : s.app.mediaOf d.path = none
    · rw [if_pos hnone, if_pos hnone, if_neg fun hand => hand.2 (hfound.mpr hnone), List.append_nil]
    · rw [if_neg hnone, if_neg hnone, if_pos ⟨hpath, fun hd => hnone (hfound.mp hd)⟩]
      congr 1
      simp [hcall]

/-- **One run.** -/
theorem follows_run (d : DevicePath) {s : Audio} (hs : s.app.PathsKept) (es : List TransportEvent) :
    Follows d s es (es.foldl transportHandle s) := by
  induction es using List.reverseRecOn with
  | nil => exact .nil d hs
  | append_singleton es e ih =>
    rw [List.foldl_append]
    cases hhits : e.hits d with
    | false => exact ih.miss hhits
    | true => exact ih.hit hhits

end Audio

/-- The same events of a device reach its record in both runs. -/
theorem filter_hits_congr {d : DevicePath} {es es' : List TransportEvent}
    (h : es.filter (fun e => e.device.path = d.path) =
      es'.filter fun e => e.device.path = d.path) :
    es.filter (TransportEvent.hits d) = es'.filter (TransportEvent.hits d) := by
  have hown : ∀ es : List TransportEvent, es.filter (TransportEvent.hits d) =
      (es.filter fun e => e.device.path = d.path).filter (TransportEvent.hits d) := by
    intro es
    rw [List.filter_filter]
    refine List.filter_congr fun e _ => ?_
    cases hhits : e.hits d with
    | false => rfl
    | true => simp [TransportEvent.device_of_hits hhits]
  rw [hown es, hown es', h]

/-- **Media information of one device.** Two runs with the same events of `d` report the same
states for it. Its media information agrees exactly if, up to the last event that reaches
its record, the latest announcements by any device agree. -/
theorem media_independent_iff (s : Audio) (hs : s.app.PathsKept) (d : DevicePath)
    (es es' : List TransportEvent)
    (h : es.filter (fun e => e.device.path = d.path) =
      es'.filter fun e => e.device.path = d.path) :
    ((es.foldl Audio.transportHandle s).app.mediaOf d.path =
        (es'.foldl Audio.transportHandle s).app.mediaOf d.path ∧
      (es.foldl Audio.transportHandle s).app.statesOf d.path =
        (es'.foldl Audio.transportHandle s).app.statesOf d.path) ↔
    (s.app.mediaOf d.path ≠ none →
      announced s.media (heard (TransportEvent.hits d) es) =
        announced s.media (heard (TransportEvent.hits d) es')) := by
  have hrun := s.follows_run d hs es
  have hrun' := s.follows_run d hs es'
  have hhits := filter_hits_congr h
  have hstates : (es.foldl Audio.transportHandle s).app.statesOf d.path =
      (es'.foldl Audio.transportHandle s).app.statesOf d.path := by
    rw [hrun.states, hrun'.states, hhits]
  rw [and_iff_left hstates, hrun.media, hrun'.media]
  cases hmedia : s.app.mediaOf d.path with
  | none => simp
  | some m =>
    have hsilent : heard (TransportEvent.hits d) es = [] ↔ heard (TransportEvent.hits d) es' = [] := by
      rw [heard_eq_nil_iff, heard_eq_nil_iff, hhits]
    by_cases hnil : heard (TransportEvent.hits d) es = []
    · simp [hnil, hsilent.mp hnil]
    · simp [hnil, mt hsilent.mpr hnil]

/-- The first headset has a record. -/
def oneRecord : Audio where
  app := { State.opened with
    ctrlList := [{ id := 0, proxy := 0, path := chars "/org/bluez/hci0", devices := [7], appDevs := [
      { data := 7, devPath := (sampleTransport 2 48).device.path }] }]
    defaultCtrl := some 0
    props := fun _ => { path := (sampleTransport 2 48).device.path } }

theorem oneRecord_pathsKept : oneRecord.app.PathsKept := by
  intro r hr
  rw [List.mem_singleton.mp hr]
  rfl

/-- The second headset announces a volume after the last event of the first one. -/
theorem media_independent_late :
    let es : List TransportEvent := [.added (sampleTransport 2 48)]
    let es' : List TransportEvent := es ++ [.changed (sampleTransport 4 49) (.volume 5)]
    (es.foldl Audio.transportHandle oneRecord).app.mediaOf (sampleTransport 2 48).device.path =
        (es'.foldl Audio.transportHandle oneRecord).app.mediaOf (sampleTransport 2 48).device.path ∧
      (es.foldl Audio.transportHandle oneRecord).app.statesOf (sampleTransport 2 48).device.path =
        (es'.foldl Audio.transportHandle oneRecord).app.statesOf
          (sampleTransport 2 48).device.path := by
  refine (media_independent_iff oneRecord oneRecord_pathsKept (sampleTransport 2 48).device _ _
    ?_).mpr fun _ => ?_
  · decide
  · decide

/-- The second headset announces a volume before the transport of the first one is added. -/
theorem volume_leaks :
    ∃ (s : Audio) (d : DevicePath) (es es' : List TransportEvent), s.app.PathsKept ∧
      es.filter (fun e => e.device.path = d.path) =
        es'.filter (fun e => e.device.path = d.path) ∧
      ¬ ((es.foldl Audio.transportHandle s).app.mediaOf d.path =
          (es'.foldl Audio.transportHandle s).app.mediaOf d.path ∧
        (es.foldl Audio.transportHandle s).app.statesOf d.path =
          (es'.foldl Audio.transportHandle s).app.statesOf d.path) := by
  refine ⟨oneRecord, (sampleTransport 2 48).device, [.added (sampleTransport 2 48)],
    [.changed (sampleTransport 4 49) (.volume 5), .added (sampleTransport 2 48)],
    oneRecord_pathsKept, by decide, fun h => ?_⟩
  exact absurd h.1 (by decide)

end ConnectApp.Bluez
