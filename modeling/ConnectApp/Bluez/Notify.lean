import ConnectApp.Bluez.GattClient

/-!
# Replies to StartNotify and StopNotify (gatt.c:894-959, gatt_client.c:164-192)

`gatt_client_notify` selects a characteristic, which makes it `default_attr`, and calls
`StartNotify` or `StopNotify` on it. The reply carries only the direction. `notify_reply`
tells the application the uuid of whatever `default_attr` is when the reply arrives, and an
uninitialised pointer when it is NULL.

`notify_attributed` is about the runs in which the selection stays while a reply is
outstanding; in `reply_misattributed` another characteristic is read in the meantime.
-/

namespace ConnectApp.Bluez

open CString Transition

/-- The events with which `notify_reply` calls `cb_ble_recv_fun`. -/
inductive GattState
  | clientNotifyEnable
  | clientNotifyDisable
  | serverErrNotifyByRemote
  deriving DecidableEq

/-- A call of `StartNotify` or `StopNotify` without a reply so far. -/
structure Subscription where
  attr : Attribute
  enable : Bool
  deriving DecidableEq

/-- A call of `cb_ble_recv_fun` by `notify_reply`: for which call, with which uuid (`none` is
the uninitialised pointer) and event. -/
structure Notified where
  request : Subscription
  uuid : Option (List UInt8)
  event : GattState
  deriving DecidableEq

namespace State

/-- All attributes listed. -/
def allAttributes (s : State) : List Attribute :=
  s.services ++ s.characteristics ++ s.descriptors

/-- The attribute behind a proxy. -/
def attributeOf (s : State) (proxy : Proxy) : Option Attribute :=
  s.allAttributes.find? fun a => a.proxy = proxy

/-- The call that `gatt_notify_attribute` makes (gatt.c:930-959): only on a characteristic,
and if it can be made. -/
def gattNotifyAttribute (s : State) (proxy : Proxy) (enable accepted : Bool) :
    Option Subscription :=
  match s.attributeOf proxy with
  | none => none
  | some a => if a ∈ s.characteristics ∧ accepted then some ⟨a, enable⟩ else none

/-- `notify_reply` (gatt.c:894-928). -/
def notifyReply (s : State) (request : Subscription) (failed : Bool) : Notified where
  request := request
  uuid := s.defaultAttr.bind fun p => (s.attributeOf p).bind Attribute.uuid
  event :=
    if failed then .serverErrNotifyByRemote
    else if request.enable then .clientNotifyEnable
    else .clientNotifyDisable

end State

/-! ## Runs -/

/-- The subscriptions under way, beside the objects on the bus. -/
structure NotifyState where
  bus : State
  pending : List Subscription := []
  notified : List Notified := []

/-- A request for an attribute by its uuid (`enable` is for `gatt_client_notify`, `accepted`
tells whether the D-Bus call can be made), a reply, or an announcement of bluetoothd. -/
inductive NotifyMove
  | client (op : ClientOp) (uuid : List UInt8) (enable accepted : Bool)
  | reply (i : Nat) (failed : Bool)
  | announce (e : Event)

/-- An announcement that clears `default_attr`: the attribute itself goes, or the default
device or the default adapter is lost. -/
def State.Unselects (s : State) : Event → Prop
  | .adapterRemoved p => s.defaultAdapter.any (fun a => a.proxy = p) = true
  | .deviceChanged p (.connected false) => s.defaultDev = some p
  | .deviceRemoved p => s.defaultDev = some p
  | .disconnReply p false => s.defaultDev = some p
  | .attributeRemoved _ a => s.defaultAttr = some a.proxy
  | _ => False

/-- An attribute is announced under the proxy of a listed one. -/
def Event.proxyUsed (s : State) : Event → Bool
  | .attributeAdded _ a => s.allAttributes.any fun b => b.proxy = a.proxy
  | _ => false

namespace NotifyState

/-- The call a request leaves behind. -/
def issued (t : State) (op : ClientOp) (enable accepted : Bool) :
    Option (Option Proxy) → Option Subscription
  | some (some proxy) =>
    if op = .notify then t.gattNotifyAttribute proxy enable accepted else none
  | _ => none

/-- One move, if it can happen. A uuid does not start with a slash. Replies arrive in any
order. An attribute that is announced has a proxy of its own. -/
def next (s : NotifyState) : NotifyMove → Option NotifyState
  | .client op uuid enable accepted =>
    if uuid.head? = some 47 then none
    else
      let r := State.clientOperation op s.bus uuid !accepted
      some { s with
        bus := r.state
        pending := s.pending ++ (issued r.state op enable accepted r.routine).toList }
  | .reply i failed =>
    match s.pending[i]? with
    | none => none
    | some request =>
      some { s with
        pending := s.pending.eraseIdx i
        notified := s.notified ++ [s.bus.notifyReply request failed] }
  | .announce e =>
    if e.proxyUsed s.bus then none else (s.bus.next e).map fun bus => { s with bus := bus }

/-- While a reply is outstanding no request selects another attribute, and nothing clears
`default_attr`. -/
def Quiet (s : NotifyState) : NotifyMove → Prop
  | .client _ uuid _ _ =>
    ∀ x ∈ s.pending, ∀ a ∈ s.bus.gattSelectAttribute uuid, a.proxy = x.attr.proxy
  | .reply .. => True
  | .announce e => s.pending ≠ [] → ¬ s.bus.Unselects e

end NotifyState

/-- The component, from an opened state. -/
def notifySystem : System NotifyState NotifyMove where
  init := fun s => s = { bus := State.opened }
  step := fun s m t => s.next m = some t

/-! ## The attribute lists -/

namespace State

/-- The lists of attributes are the same. -/
def SameAttributes (s t : State) : Prop :=
  t.services = s.services ∧ t.characteristics = s.characteristics ∧ t.descriptors = s.descriptors

theorem SameAttributes.trans {s t u : State} (h : SameAttributes s t) (h' : SameAttributes t u) :
    SameAttributes s u :=
  ⟨h'.1.trans h.1, h'.2.1.trans h.2.1, h'.2.2.trans h.2.2⟩

theorem sameAttributes_setDefaultDevice (s : State) (proxy : Option Proxy) :
    SameAttributes s (s.setDefaultDevice proxy) := by
  unfold setDefaultDevice
  split_ifs
  · exact ⟨rfl, rfl, rfl⟩
  · cases proxy <;> exact ⟨rfl, rfl, rfl⟩

theorem OnlyRecords.sameAttributes {s t : State} (h : OnlyRecords s t) : SameAttributes s t := by
  obtain ⟨l, r, rfl⟩ := h
  exact ⟨rfl, rfl, rfl⟩

theorem sameAttributes_deviceAdded (s : State) (proxy : Proxy) :
    SameAttributes s (s.deviceAdded proxy) := by
  obtain h | ⟨-, h⟩ := s.deviceAdded_writes proxy
  · exact h.sameAttributes
  · exact h.sameAttributes

theorem sameAttributes_propertyChanged (s : State) (proxy : Proxy) (change : Change) :
    SameAttributes s (s.propertyChanged proxy change) := by
  have hfollow : SameAttributes s (s.followConnected proxy change) := by
    unfold followConnected
    split
    · split_ifs
      · exact s.sameAttributes_setDefaultDevice _
      · exact ⟨rfl, rfl, rfl⟩
    · split_ifs
      · exact s.sameAttributes_setDefaultDevice _
      · exact ⟨rfl, rfl, rfl⟩
    · exact ⟨rfl, rfl, rfl⟩
  obtain h | h := s.propertyChanged_writes proxy change
  · exact h.sameAttributes
  · exact hfollow.trans h.sameAttributes

theorem sameAttributes_deviceRemoved (s : State) (proxy : Proxy) :
    SameAttributes s (s.deviceRemoved proxy) := by
  obtain h | ⟨-, h⟩ := s.deviceRemoved_writes proxy
  · exact h.sameAttributes
  · exact h.sameAttributes

theorem sameAttributes_adapterRemoved (s : State) (proxy : Proxy) :
    SameAttributes s (s.adapterRemoved proxy) := by
  have hclear := sameAttributes_setDefaultDevice { s with defaultCtrl := none } none
  unfold adapterRemoved
  split_ifs
  · exact ⟨hclear.1, hclear.2.1, hclear.2.2⟩
  · exact ⟨rfl, rfl, rfl⟩
  · exact ⟨rfl, rfl, rfl⟩

/-- Only the announcements of attributes touch the lists of attributes. -/
theorem next_sameAttributes {s t : State} {e : Event} (h : s.next e = some t) :
    SameAttributes s t ∨ (∃ kind a, e = .attributeAdded kind a ∧ t = s.attributeAdded kind a) ∨
      ∃ kind a, e = .attributeRemoved kind a ∧ t = s.attributeRemoved kind a := by
  rw [State.next, Option.ite_none_right_eq_some] at h
  obtain ⟨-, h⟩ := h
  cases e with
  | adapterAdded proxy path =>
    obtain rfl := Option.some.inj h
    unfold adapterAdded
    split <;> exact .inl ⟨rfl, rfl, rfl⟩
  | adapterRemoved proxy =>
    obtain rfl := Option.some.inj h
    exact .inl (s.sameAttributes_adapterRemoved proxy)
  | deviceAdded proxy props =>
    obtain rfl := Option.some.inj h
    exact .inl (sameAttributes_deviceAdded ({ s with present := proxy :: s.present }.cache proxy
      props) proxy)
  | deviceChanged proxy change =>
    obtain rfl := Option.some.inj h
    exact .inl (sameAttributes_propertyChanged (s.cache proxy (change.apply (s.props proxy))) proxy
      change)
  | deviceRemoved proxy =>
    obtain rfl := Option.some.inj h
    exact .inl (s.sameAttributes_deviceRemoved proxy)
  | connectReply proxy error =>
    cases error with
    | some message => exact .inl (onlyRecords_btStateChange h).sameAttributes
    | none =>
      obtain rfl := Option.some.inj h
      exact .inl (sameAttributes_setDefaultDevice (s.btStateSend none .commandRespOk) (some proxy))
  | disconnReply proxy failed =>
    cases failed with
    | true => exact .inl (onlyRecords_btStateChange h).sameAttributes
    | false =>
      obtain rfl := Option.some.inj h
      split_ifs
      · exact .inl (sameAttributes_setDefaultDevice (s.btStateSend none .commandRespOk) none)
      · exact .inl ⟨rfl, rfl, rfl⟩
  | attributeAdded kind a => exact .inr (.inl ⟨kind, a, rfl, (Option.some.inj h).symm⟩)
  | attributeRemoved kind a => exact .inr (.inr ⟨kind, a, rfl, (Option.some.inj h).symm⟩)

/-! ## Proxies of attributes -/

theorem mem_allAttributes {s : State} {a : Attribute} :
    a ∈ s.allAttributes ↔ ∃ kind, a ∈ s.attributes kind := by
  rw [allAttributes, List.mem_append, List.mem_append]
  constructor
  · rintro ((h | h) | h)
    · exact ⟨.service, h⟩
    · exact ⟨.characteristic, h⟩
    · exact ⟨.descriptor, h⟩
  · rintro ⟨kind, h⟩
    cases kind with
    | service => exact .inl (.inl h)
    | characteristic => exact .inl (.inr h)
    | descriptor => exact .inr h

theorem attributes_setAttributes (s : State) (l : List Attribute) (kind k : AttrKind) :
    (s.setAttributes l kind).attributes k = if k = kind then l else s.attributes k := by
  cases kind <;> cases k <;> rfl

theorem SameAttributes.attributes {s t : State} (h : SameAttributes s t) (kind : AttrKind) :
    t.attributes kind = s.attributes kind := by
  cases kind with
  | service => exact h.1
  | characteristic => exact h.2.1
  | descriptor => exact h.2.2

theorem attributes_attributeAdded (s : State) (kind k : AttrKind) (a : Attribute) :
    (s.attributeAdded kind a).attributes k = s.attributes k ∨
      k = kind ∧ (s.attributeAdded kind a).attributes k = s.attributes k ++ [a] := by
  unfold attributeAdded
  split_ifs
  · rw [attributes_setAttributes]
    split_ifs with hk
    · exact .inr ⟨hk, by rw [hk]⟩
    · exact .inl rfl
  · exact .inl rfl

theorem attributes_attributeRemoved (s : State) (kind k : AttrKind) (a : Attribute) :
    (s.attributeRemoved kind a).attributes k =
      if k = kind then (s.attributes k).eraseP fun b => b.proxy = a.proxy else s.attributes k := by
  have hset : (s.attributeRemoved kind a).attributes k = (s.setAttributes
      ((s.attributes kind).eraseP fun b => b.proxy = a.proxy) kind).attributes k := by
    unfold attributeRemoved
    dsimp only
    split_ifs
    · exact (SameAttributes.trans (t := State.mk ..) ⟨rfl, rfl, rfl⟩
        (sameAttributes_setDefaultDevice _ _)).attributes k
    · rfl
  rw [hset, attributes_setAttributes]
  split_ifs with hk
  · rw [hk]
  · rfl

/-- A proxy belongs to one attribute. -/
def Distinct (s : State) : Prop :=
  ∀ a ∈ s.allAttributes, ∀ b ∈ s.allAttributes, a.proxy = b.proxy → a = b

theorem Distinct.attributeOf {s : State} (h : s.Distinct) {a : Attribute}
    (ha : a ∈ s.allAttributes) : s.attributeOf a.proxy = some a := by
  cases hfind : s.attributeOf a.proxy with
  | none =>
    have hne := List.find?_eq_none.mp hfind a ha
    simp at hne
  | some b =>
    have hb := List.mem_of_find?_eq_some hfind
    have hproxy : b.proxy = a.proxy := by simpa using List.find?_some hfind
    rw [h b hb a ha hproxy]

theorem Distinct.next {s t : State} (h : s.Distinct) {e : Event} (hused : e.proxyUsed s = false)
    (hnext : s.next e = some t) : t.Distinct := by
  have hsub : (∀ b ∈ t.allAttributes, b ∈ s.allAttributes) → t.Distinct := fun hsub a ha b hb =>
    h a (hsub a ha) b (hsub b hb)
  rcases next_sameAttributes hnext with hsame | ⟨kind, a, rfl, rfl⟩ | ⟨kind, a, rfl, rfl⟩
  · refine hsub fun b hb => ?_
    obtain ⟨k, hk⟩ := mem_allAttributes.mp hb
    exact mem_allAttributes.mpr ⟨k, hsame.attributes k ▸ hk⟩
  · have hfresh : ∀ b ∈ s.allAttributes, b.proxy ≠ a.proxy := by
      intro b hb heq
      exact absurd (List.any_eq_true.mpr ⟨b, hb, decide_eq_true heq⟩) (Bool.eq_false_iff.mp hused)
    have hmem : ∀ b ∈ (s.attributeAdded kind a).allAttributes, b ∈ s.allAttributes ∨ b = a := by
      intro b hb
      obtain ⟨k, hk⟩ := mem_allAttributes.mp hb
      rcases s.attributes_attributeAdded kind k a with heq | ⟨-, heq⟩
      · exact .inl (mem_allAttributes.mpr ⟨k, heq ▸ hk⟩)
      · rw [heq] at hk
        exact (List.mem_append.mp hk).imp (fun hk => mem_allAttributes.mpr ⟨k, hk⟩)
          List.mem_singleton.mp
    intro b hb c hc heq
    rcases hmem b hb with hb | hb <;> rcases hmem c hc with hc | hc
    · exact h b hb c hc heq
    · exact absurd (hc ▸ heq) (hfresh b hb)
    · exact absurd (hb ▸ heq.symm) (hfresh c hc)
    · rw [hb, hc]
  · refine hsub fun b hb => ?_
    obtain ⟨k, hk⟩ := mem_allAttributes.mp hb
    rw [attributes_attributeRemoved] at hk
    split_ifs at hk
    · exact mem_allAttributes.mpr ⟨k, List.mem_of_mem_eraseP hk⟩
    · exact mem_allAttributes.mpr ⟨k, hk⟩

/-! ## The selection -/

/-- The default device and the default attribute are the same. -/
def SameDefaults (s t : State) : Prop :=
  t.defaultDev = s.defaultDev ∧ t.defaultAttr = s.defaultAttr

/-- A second device does not replace the default device. -/
theorem setDefaultDevice_some {s : State} (h : s.defaultDev ≠ none) (p : Proxy) :
    s.setDefaultDevice (some p) = s := by
  rw [setDefaultDevice]
  split_ifs with hother
  · rfl
  · have hsame : s.defaultDev = some p := by
      by_contra hne
      exact hother ⟨Option.some_ne_none p, h, hne⟩
    show { s with defaultDev := some p } = s
    rw [← hsame]

theorem OnlyRecords.sameDefaults {s t : State} (h : OnlyRecords s t) : SameDefaults s t := by
  obtain ⟨l, r, rfl⟩ := h
  exact ⟨rfl, rfl⟩

theorem sameDefaults_deviceAdded {s : State} (h : s.defaultDev ≠ none) (proxy : Proxy) :
    SameDefaults s (s.deviceAdded proxy) :=
  ((s.deviceAdded_writes proxy).resolve_right fun hnew => h hnew.1).sameDefaults

theorem sameDefaults_propertyChanged {s : State} (h : s.defaultDev ≠ none) {proxy : Proxy}
    {change : Change} (hquiet : ¬ s.Unselects (.deviceChanged proxy change)) :
    SameDefaults s (s.propertyChanged proxy change) := by
  have hfollow : s.followConnected proxy change = s := by
    unfold followConnected
    split
    · exact if_neg h
    · exact if_neg hquiet
    · rfl
  obtain hwrites | hwrites := s.propertyChanged_writes proxy change
  · exact hwrites.sameDefaults
  · rw [hfollow] at hwrites
    exact hwrites.sameDefaults

theorem sameDefaults_deviceRemoved {s : State} {proxy : Proxy} (h : s.defaultDev ≠ some proxy) :
    SameDefaults s (s.deviceRemoved proxy) :=
  ((s.deviceRemoved_writes proxy).resolve_right fun hgone => h hgone.1).sameDefaults

theorem sameDefaults_adapterRemoved {s : State} {proxy : Proxy}
    (h : ¬ s.Unselects (.adapterRemoved proxy)) : SameDefaults s (s.adapterRemoved proxy) := by
  have hother : ¬ (s.defaultAdapter.any fun a => a.proxy = proxy) = true := h
  rw [adapterRemoved, if_neg hother]
  split_ifs <;> exact ⟨rfl, rfl⟩

theorem sameDefaults_attributeAdded (s : State) (kind : AttrKind) (a : Attribute) :
    SameDefaults s (s.attributeAdded kind a) := by
  unfold attributeAdded
  split_ifs
  · cases kind <;> exact ⟨rfl, rfl⟩
  · exact ⟨rfl, rfl⟩

theorem sameDefaults_attributeRemoved {s : State} {kind : AttrKind} {a : Attribute}
    (h : ¬ s.Unselects (.attributeRemoved kind a)) :
    SameDefaults s (s.attributeRemoved kind a) := by
  have hset : ∀ l, SameDefaults s (s.setAttributes l kind) := by
    intro l
    cases kind <;> exact ⟨rfl, rfl⟩
  unfold attributeRemoved
  dsimp only
  rw [(hset _).2, if_neg (show ¬ s.defaultAttr = some a.proxy from h)]
  exact hset _

/-- **A quiet announcement.** While there is a default device, it and the selection stay. -/
theorem next_sameDefaults {s t : State} {e : Event} (hdev : s.defaultDev ≠ none)
    (hquiet : ¬ s.Unselects e) (h : s.next e = some t) : SameDefaults s t := by
  rw [State.next, Option.ite_none_right_eq_some] at h
  obtain ⟨-, h⟩ := h
  cases e with
  | adapterAdded proxy path =>
    obtain rfl := Option.some.inj h
    unfold adapterAdded
    split <;> exact ⟨rfl, rfl⟩
  | adapterRemoved proxy =>
    obtain rfl := Option.some.inj h
    exact sameDefaults_adapterRemoved hquiet
  | deviceAdded proxy props =>
    obtain rfl := Option.some.inj h
    exact sameDefaults_deviceAdded (s := { s with present := proxy :: s.present }.cache proxy props)
      hdev proxy
  | deviceChanged proxy change =>
    obtain rfl := Option.some.inj h
    exact sameDefaults_propertyChanged (s := s.cache proxy (change.apply (s.props proxy))) hdev
      hquiet
  | deviceRemoved proxy =>
    obtain rfl := Option.some.inj h
    exact sameDefaults_deviceRemoved hquiet
  | connectReply proxy error =>
    cases error with
    | some message => exact (onlyRecords_btStateChange h).sameDefaults
    | none =>
      obtain rfl := Option.some.inj h
      rw [setDefaultDevice_some (s := s.btStateSend none .commandRespOk) hdev]
      exact ⟨rfl, rfl⟩
  | disconnReply proxy failed =>
    cases failed with
    | true => exact (onlyRecords_btStateChange h).sameDefaults
    | false =>
      obtain rfl := Option.some.inj h
      rw [if_neg (show ¬ (s.btStateSend none .commandRespOk).defaultDev = some proxy from hquiet)]
      exact ⟨rfl, rfl⟩
  | attributeAdded kind a =>
    obtain rfl := Option.some.inj h
    exact s.sameDefaults_attributeAdded kind a
  | attributeRemoved kind a =>
    obtain rfl := Option.some.inj h
    exact sameDefaults_attributeRemoved hquiet

/-- There is a default device, and the characteristic `c` is selected. -/
structure Selected (s : State) (c : Attribute) : Prop where
  dev : s.defaultDev ≠ none
  attr : s.defaultAttr = some c.proxy
  listed : c ∈ s.attributes .characteristic

theorem Selected.next {s t : State} {c : Attribute} (h : s.Selected c) {e : Event}
    (hquiet : ¬ s.Unselects e) (hnext : s.next e = some t) : t.Selected c := by
  obtain ⟨hdev, hattr⟩ := next_sameDefaults h.dev hquiet hnext
  refine ⟨hdev ▸ h.dev, hattr.trans h.attr, ?_⟩
  rcases next_sameAttributes hnext with hsame | ⟨kind, a, rfl, rfl⟩ | ⟨kind, a, rfl, rfl⟩
  · rw [hsame.attributes]
    exact h.listed
  · rcases s.attributes_attributeAdded kind .characteristic a with heq | ⟨-, heq⟩
    · rw [heq]
      exact h.listed
    · rw [heq]
      exact List.mem_append_left _ h.listed
  · -- only an attribute with another proxy goes
    have hne : ¬ decide (c.proxy = a.proxy) = true := fun heq =>
      hquiet (h.attr.trans (congrArg some (of_decide_eq_true heq)))
    rw [attributes_attributeRemoved]
    split_ifs
    · exact (List.mem_eraseP_of_neg (p := fun b : Attribute => b.proxy = a.proxy) hne).mpr h.listed
    · exact h.listed

theorem mem_of_gattSelectAttribute {s : State} {arg : List UInt8} {a : Attribute}
    (h : s.gattSelectAttribute arg = some a) : a ∈ s.allAttributes ∧ a.named arg = true := by
  rw [gattSelectAttribute, Option.or_eq_some_iff, Option.or_eq_some_iff] at h
  have hfound : ∀ l : List Attribute, l.find? (Attribute.named arg) = some a →
      a ∈ l ∧ a.named arg = true :=
    fun l hl => ⟨List.mem_of_find?_eq_some hl, List.find?_some hl⟩
  rw [mem_allAttributes]
  rcases h with (h | ⟨-, h⟩) | ⟨-, h⟩
  · exact ⟨⟨.service, (hfound _ h).1⟩, (hfound _ h).2⟩
  · exact ⟨⟨.characteristic, (hfound _ h).1⟩, (hfound _ h).2⟩
  · exact ⟨⟨.descriptor, (hfound _ h).1⟩, (hfound _ h).2⟩

/-- A request for an unknown uuid changes nothing. Otherwise the attribute found is selected,
if there is a default device. -/
theorem clientOperation_cases (op : ClientOp) (s : State) (uuid : List UInt8) (failed : Bool) :
    (s.gattSelectAttribute uuid = none ∧ (clientOperation op s uuid failed).state = s ∧
      (clientOperation op s uuid failed).routine = none) ∨
    ∃ a, s.gattSelectAttribute uuid = some a ∧
      SameAttributes s (clientOperation op s uuid failed).state ∧
      (clientOperation op s uuid failed).state.defaultDev = s.defaultDev ∧
      (clientOperation op s uuid failed).state.defaultAttr =
        (if s.defaultDev = none then none else some a.proxy) ∧
      (clientOperation op s uuid failed).routine =
        some (clientOperation op s uuid failed).state.defaultAttr := by
  rw [clientOperation, gattClientSelectAttribute]
  cases s.gattSelectAttribute uuid with
  | none => exact .inl ⟨rfl, rfl, rfl⟩
  | some a =>
    refine .inr ⟨a, rfl, ?_, ?_, s.setDefaultAttribute_defaultAttr (some a.proxy), rfl⟩
    · exact sameAttributes_setDefaultDevice { s with defaultAttr := some a.proxy } s.defaultDev
    · show (State.setDefaultDevice { s with defaultAttr := some a.proxy } s.defaultDev).defaultDev =
        s.defaultDev
      unfold setDefaultDevice
      split_ifs
      · rfl
      · cases s.defaultDev <;> rfl

end State

/-! ## The invariant -/

namespace NotifyState

/-- The characteristics of all outstanding calls are the selected one, and they have a uuid.
What has been reported so far is right. -/
structure Attributed (s : NotifyState) : Prop where
  distinct : s.bus.Distinct
  selected : ∀ x ∈ s.pending, s.bus.Selected x.attr ∧ x.attr.uuid ≠ none
  right : ∀ n ∈ s.notified, n.uuid ≠ none ∧ n.uuid = n.request.attr.uuid

theorem Attributed.reply {s : NotifyState} (h : s.Attributed) {request : Subscription}
    (hmem : request ∈ s.pending) (failed : Bool) :
    (s.bus.notifyReply request failed).uuid = request.attr.uuid := by
  obtain ⟨-, hattr, hlisted⟩ := (h.selected request hmem).1
  rw [State.notifyReply, hattr, Option.bind_some,
    h.distinct.attributeOf (State.mem_allAttributes.mpr ⟨_, hlisted⟩)]
  rfl

theorem issued_eq_some {t : State} {op : ClientOp} {enable accepted : Bool}
    {routine : Option (Option Proxy)} {x : Subscription}
    (h : issued t op enable accepted routine = some x) :
    ∃ proxy, routine = some (some proxy) ∧ t.attributeOf proxy = some x.attr ∧
      x.attr ∈ t.characteristics := by
  unfold issued at h
  split at h
  · split_ifs at h
    unfold State.gattNotifyAttribute at h
    split at h
    · cases h
    · split_ifs at h with hchrc
      obtain rfl := Option.some.inj h
      exact ⟨_, rfl, ‹_›, hchrc.1⟩
  · cases h

theorem Attributed.client {s : NotifyState} (h : s.Attributed) {op : ClientOp} {uuid : List UInt8}
    {enable accepted : Bool} (huuid : uuid.head? ≠ some 47)
    (hquiet : s.Quiet (.client op uuid enable accepted)) (failed : Bool) :
    let r := State.clientOperation op s.bus uuid failed
    Attributed { s with
      bus := r.state
      pending := s.pending ++ (issued r.state op enable accepted r.routine).toList } := by
  dsimp only
  obtain ⟨-, hstate, hroutine⟩ | ⟨a, hselect, hsame, hdev, hattr, hroutine⟩ :=
    State.clientOperation_cases op s.bus uuid failed
  · rw [hstate, hroutine]
    refine ⟨h.distinct, ?_, h.right⟩
    rw [show s.pending ++ (issued s.bus op enable accepted none).toList = s.pending from
      List.append_nil _]
    exact h.selected
  · obtain ⟨ha, hnamed⟩ := State.mem_of_gattSelectAttribute hselect
    rw [hroutine]
    generalize (State.clientOperation op s.bus uuid failed).state = t at hsame hdev hattr ⊢
    have hlists : ∀ b, b ∈ t.allAttributes ↔ b ∈ s.bus.allAttributes := by
      intro b
      rw [State.allAttributes, State.allAttributes, hsame.1, hsame.2.1, hsame.2.2]
    have hdistinct : t.Distinct := fun b hb c hc =>
      h.distinct b ((hlists b).mp hb) c ((hlists c).mp hc)
    refine ⟨hdistinct, fun x hx => ?_, h.right⟩
    rcases List.mem_append.mp hx with hx | hx
    · -- an earlier call: its characteristic is selected once more
      obtain ⟨⟨hdefault, -, hlisted⟩, hnamed⟩ := h.selected x hx
      refine ⟨⟨hdev ▸ hdefault, ?_, hsame.attributes _ ▸ hlisted⟩, hnamed⟩
      rw [hattr, if_neg hdefault, hquiet x hx a hselect]
    · -- the call of this request
      obtain ⟨proxy, hproxy, hfind, hlisted⟩ := issued_eq_some (Option.mem_toList.mp hx)
      have hproxy : t.defaultAttr = some proxy := Option.some.inj hproxy
      have hdefault : s.bus.defaultDev ≠ none := by
        intro hnone
        rw [hattr, if_pos hnone] at hproxy
        cases hproxy
      obtain rfl : a.proxy = proxy := by
        rw [hattr, if_neg hdefault] at hproxy
        exact Option.some.inj hproxy
      have hx : x.attr = a := by
        rw [hdistinct.attributeOf ((hlists a).mpr ha)] at hfind
        exact (Option.some.inj hfind).symm
      refine ⟨⟨hdev ▸ hdefault, hx ▸ hproxy, hlisted⟩, ?_⟩
      -- it was found by its uuid
      rw [Attribute.named, if_neg huuid] at hnamed
      rw [hx]
      intro hnone
      rw [hnone] at hnamed
      cases hnamed

/-- **One move.** -/
theorem Attributed.next {s t : NotifyState} (h : s.Attributed) {m : NotifyMove}
    (hquiet : s.Quiet m) (hnext : s.next m = some t) : t.Attributed := by
  cases m with
  | client op uuid enable accepted =>
    rw [NotifyState.next, Option.ite_none_left_eq_some] at hnext
    obtain ⟨huuid, hnext⟩ := hnext
    obtain rfl := Option.some.inj hnext
    exact h.client huuid hquiet _
  | reply i failed =>
    rw [NotifyState.next] at hnext
    split at hnext
    · cases hnext
    next request hrequest =>
    obtain rfl := Option.some.inj hnext
    have hmem : request ∈ s.pending := List.mem_of_getElem? hrequest
    refine ⟨h.distinct, fun x hx => h.selected x (List.mem_of_mem_eraseIdx hx), fun n hn => ?_⟩
    rcases List.mem_append.mp hn with hn | hn
    · exact h.right n hn
    · rw [List.mem_singleton.mp hn]
      have huuid := h.reply hmem failed
      exact ⟨huuid ▸ (h.selected request hmem).2, huuid⟩
  | announce e =>
    rw [NotifyState.next, Option.ite_none_left_eq_some] at hnext
    obtain ⟨hused, hnext⟩ := hnext
    obtain ⟨bus, hbus, rfl⟩ := Option.map_eq_some_iff.mp hnext
    refine ⟨h.distinct.next (Bool.eq_false_iff.mpr hused) hbus, fun x hx => ?_, h.right⟩
    obtain ⟨hselected, hnamed⟩ := h.selected x hx
    exact ⟨hselected.next (hquiet (List.ne_nil_of_mem hx)) hbus, hnamed⟩

end NotifyState

/-- **Attribution of notifications.** If the selection stays while replies are outstanding,
every reply is reported with the uuid of the characteristic its request was made for. -/
theorem notify_attributed {s : NotifyState} (h : Reach notifySystem NotifyState.Quiet s) :
    ∀ n ∈ s.notified, n.uuid ≠ none ∧ n.uuid = n.request.attr.uuid := by
  have hattributed : s.Attributed := by
    refine h.invariant ?_ fun s m t hs hquiet hnext => NotifyState.Attributed.next hs hquiet hnext
    rintro s rfl
    exact ⟨nofun, nofun, nofun⟩
  exact hattributed.right

instance (s : State) : (e : Event) → Decidable (s.Unselects e)
  | .adapterRemoved p =>
    inferInstanceAs (Decidable (s.defaultAdapter.any (fun a => a.proxy = p) = true))
  | .deviceChanged p (.connected false) | .deviceRemoved p | .disconnReply p false =>
    inferInstanceAs (Decidable (s.defaultDev = some p))
  | .attributeRemoved _ a => inferInstanceAs (Decidable (s.defaultAttr = some a.proxy))
  | .deviceChanged _ (.connected true) | .deviceChanged _ (.address _)
  | .deviceChanged _ (.addressType _) | .deviceChanged _ (.aliasName _)
  | .deviceChanged _ (.name _) | .deviceChanged _ (.rssi _) | .deviceChanged _ (.uuids _)
  | .deviceChanged _ (.modalias _) | .deviceChanged _ (.cls _) | .deviceChanged _ (.icon _)
  | .deviceChanged _ (.paired _) | .deviceChanged _ (.bonded _) | .deviceChanged _ (.other _)
  | .adapterAdded .. | .deviceAdded .. | .connectReply .. | .disconnReply _ true
  | .attributeAdded .. => inferInstanceAs (Decidable False)

instance (s : NotifyState) : (m : NotifyMove) → Decidable (s.Quiet m)
  | .client _ uuid _ _ => inferInstanceAs (Decidable
    (∀ x ∈ s.pending, ∀ a ∈ s.bus.gattSelectAttribute uuid, a.proxy = x.attr.proxy))
  | .reply .. => inferInstanceAs (Decidable True)
  | .announce e => inferInstanceAs (Decidable (s.pending ≠ [] → ¬ s.bus.Unselects e))

/-- A second characteristic of the sample device. -/
def otherChrc : Attribute :=
  { sampleChrc 65 with
    proxy := 12
    path := (sampleService 65).path ++ chars "/char004e"
    uuid := some (chars "00002a29-0000-1000-8000-00805f9b34fb") }

/-- A device with two characteristics is connected; notifications of the first one are asked
for, and `moves` come after that. -/
def notifyRun (moves : List NotifyMove) : List NotifyMove :=
  [.announce (.adapterAdded 0 (hci 0)), .announce (.deviceAdded 2 (sampleDevice 0 65 true)),
    .announce (.attributeAdded .service (sampleService 65)),
    .announce (.attributeAdded .characteristic (sampleChrc 65)),
    .announce (.attributeAdded .characteristic otherChrc),
    .client .notify (chars "00002a26-0000-1000-8000-00805f9b34fb") true true] ++ moves

/-- Another request follows when the reply has arrived. -/
theorem notify_attributed_between :
    ∃ s : NotifyState, s.notified.length = 1 ∧
      ∀ n ∈ s.notified, n.uuid ≠ none ∧ n.uuid = n.request.attr.uuid := by
  have hrun : ((notifyRun [.reply 0 false,
      .client .read (chars "00002a29-0000-1000-8000-00805f9b34fb") true true]).foldlM
      (guarded NotifyState.next NotifyState.Quiet)
      { bus := State.opened }).map (fun s => s.notified.length) = some 1 := by decide
  obtain ⟨s, hreach, hlength⟩ :=
    Reach.of_guarded_run (S := notifySystem) (fun _ _ _ h => h) rfl hrun
  exact ⟨s, hlength, notify_attributed hreach⟩

/-- The other characteristic is read before the reply arrives, and the reply is reported for
it. -/
theorem reply_misattributed :
    ∃ s, Reach notifySystem (fun _ _ => True) s ∧
      ¬ ∀ n ∈ s.notified, n.uuid ≠ none ∧ n.uuid = n.request.attr.uuid := by
  have hrun : ((notifyRun [.client .read (chars "00002a29-0000-1000-8000-00805f9b34fb") true true,
      .reply 0 false]).foldlM NotifyState.next { bus := State.opened }).map
      NotifyState.notified = some [⟨⟨sampleChrc 65, true⟩, otherChrc.uuid, .clientNotifyEnable⟩] := by
    decide
  obtain ⟨s, hreach, hnotified⟩ := Reach.of_run (S := notifySystem) (fun _ _ _ h => h) rfl hrun
  refine ⟨s, hreach, fun hall => ?_⟩
  rw [hnotified] at hall
  exact absurd (hall _ List.mem_cons_self).2 (by decide)

end ConnectApp.Bluez
