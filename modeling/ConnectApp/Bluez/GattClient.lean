import ConnectApp.Bluez.DeviceList

/-!
# GATT client operations (gatt_client.c:64-192, gatt.c:385-468)

An operation names an attribute by its uuid or its object path. `gatt_select_attribute`
looks it up, `set_default_attribute` stores it in `default_attr`, and the routine that reads,
writes or subscribes is called with `default_attr`. `set_default_attribute` ends with
`set_default_device(default_dev, path)`, and that clears `default_attr` when `default_dev` is
NULL. So the operation acts on the attribute it selected exactly when there is a default
device (`selected_attribute_iff`). `attribute_cleared` is a run that ends without one: two
devices are connected and the first, the default device, disconnects.
-/

namespace ConnectApp.Bluez

open CString Transition

/-- Whether `gatt_select_attribute` looks for this attribute: by path when the argument
starts with a slash, otherwise by uuid. -/
def Attribute.named (arg : List UInt8) (a : Attribute) : Bool :=
  if arg.head? = some 47 then decide (a.path = arg) else a.uuid.any (eqIgnoringCase arg)

/-- The codes with which a client operation reports its failure
(RkBtBase.h:178-180). -/
inductive ClientError
  | clientReadErr
  | clientWriteErr
  | clientNotifydErr
  deriving DecidableEq

/-- The operations that act on `default_attr`. -/
inductive ClientOp
  | read
  | write
  | notify
  deriving DecidableEq

namespace ClientOp

/-- The error that is reported for the operation. -/
def error : ClientOp → ClientError
  | .read => .clientReadErr
  | .write => .clientWriteErr
  | .notify => .clientNotifydErr

/-- The text for a routine that has failed. -/
def failure : ClientOp → List UInt8
  | .read => chars "UNKNOW ERR"
  | .write => chars "UNKNOW ERR"
  | .notify => chars "Invalid uuid"

end ClientOp

/-- The state afterwards; the attribute the routine is called with, if it is called (`none`
inside is NULL); the message for `cb_ble_recv_fun`, if there is one. -/
structure ClientResult where
  state : State
  routine : Option (Option Proxy)
  message : Option (List UInt8 × ClientError)

namespace State

/-- `gatt_select_attribute(NULL, arg)` (gatt.c:385-468): the first attribute with this name
among the services, then the characteristics, then the descriptors. -/
def gattSelectAttribute (s : State) (arg : List UInt8) : Option Attribute :=
  ((s.services.find? (Attribute.named arg)).or (s.characteristics.find? (Attribute.named arg))).or
    (s.descriptors.find? (Attribute.named arg))

/-- `gatt_client_select_attribute` (gatt_client.c:64-75). -/
def gattClientSelectAttribute (s : State) (uuid : List UInt8) : Int × State :=
  match s.gattSelectAttribute uuid with
  | some a => (0, s.setDefaultAttribute (some a.proxy))
  | none => (-1, s)

/-- `gatt_client_read`, `gatt_client_write` and `gatt_client_notify`
(gatt_client.c:77-137, 164-192) with a uuid other than NULL; `failed` is the result of the
routine. -/
def clientOperation (op : ClientOp) (s : State) (uuid : List UInt8) (failed : Bool) :
    ClientResult :=
  let (ret, t) := s.gattClientSelectAttribute uuid
  if ret < 0 then ⟨t, none, some (chars "Invalid uuid", op.error)⟩
  else ⟨t, some t.defaultAttr, if failed then some (op.failure, op.error) else none⟩

/-! ## The selected attribute -/

theorem gattSelectAttribute_eq_none_iff {s : State} {arg : List UInt8} :
    s.gattSelectAttribute arg = none ↔
      ∀ kind, ∀ a ∈ s.attributes kind, a.named arg = false := by
  simp only [gattSelectAttribute, Option.or_eq_none_iff, List.find?_eq_none, Bool.not_eq_true]
  constructor
  · rintro ⟨⟨hservices, hcharacteristics⟩, hdescriptors⟩ kind
    cases kind with
    | service => exact hservices
    | characteristic => exact hcharacteristics
    | descriptor => exact hdescriptors
  · intro h
    exact ⟨⟨h .service, h .characteristic⟩, h .descriptor⟩

/-- `set_default_attribute` keeps the attribute if there is a default device. -/
theorem setDefaultAttribute_defaultAttr (s : State) (a : Option Proxy) :
    (s.setDefaultAttribute a).defaultAttr = if s.defaultDev = none then none else a := by
  unfold setDefaultAttribute setDefaultDevice
  cases s.defaultDev with
  | none => rfl
  | some d =>
    dsimp only
    rw [if_neg fun h => h.2.2 rfl, if_neg (Option.some_ne_none d)]

/-- The operation acts on the attribute it has selected: a selection that succeeds leaves it
in `default_attr`, and no routine is called with another one or with NULL. -/
def ActsOnSelected (s : State) (uuid : List UInt8) : Prop :=
  ((s.gattClientSelectAttribute uuid).1 = 0 →
    (s.gattClientSelectAttribute uuid).2.defaultAttr =
      (s.gattSelectAttribute uuid).map Attribute.proxy) ∧
  ∀ op failed arg, (clientOperation op s uuid failed).routine = some arg →
    arg ≠ none ∧ arg = (s.gattSelectAttribute uuid).map Attribute.proxy

end State

/-- **The selected attribute.** A client operation acts on it exactly when there is a default
device, or when no attribute has the name. -/
theorem selected_attribute_iff (s : State) (uuid : List UInt8) :
    s.ActsOnSelected uuid ↔
      s.defaultDev ≠ none ∨ ∀ kind, ∀ a ∈ s.attributes kind, a.named uuid = false := by
  rw [← State.gattSelectAttribute_eq_none_iff]
  cases hselect : s.gattSelectAttribute uuid with
  | none =>
    have hret : s.gattClientSelectAttribute uuid = (-1, s) := by
      rw [State.gattClientSelectAttribute, hselect]
    refine iff_of_true ⟨?_, ?_⟩ (.inr rfl)
    · rw [hret]
      exact fun h => absurd h (show (-1 : Int) ≠ 0 by decide)
    · intro op failed arg harg
      rw [State.clientOperation, hret] at harg
      cases harg
  | some a =>
    have hret : s.gattClientSelectAttribute uuid = (0, s.setDefaultAttribute (some a.proxy)) := by
      rw [State.gattClientSelectAttribute, hselect]
    have hattr := s.setDefaultAttribute_defaultAttr (some a.proxy)
    constructor
    · -- a selection without a default device leaves NULL behind
      rintro ⟨hkept, -⟩
      refine .inl fun hdev => ?_
      rw [hret, hselect, hattr, if_pos hdev] at hkept
      cases hkept rfl
    · intro h
      have hdev : s.defaultDev ≠ none := h.resolve_right (Option.some_ne_none a)
      rw [if_neg hdev] at hattr
      refine ⟨fun _ => by rw [hret, hselect]; exact hattr, ?_⟩
      intro op failed arg harg
      rw [State.clientOperation, hret] at harg
      obtain rfl : some a.proxy = arg := hattr ▸ Option.some.inj harg
      rw [hselect]
      exact ⟨Option.some_ne_none _, rfl⟩

/-- A service of the device with the address that ends in `b`, and a characteristic of it. -/
def sampleService (b : UInt8) : Attribute where
  proxy := 10
  path := (sampleDevice 0 b true).path ++ chars "/service0048"
  uuid := some (chars "0000180a-0000-1000-8000-00805f9b34fb")
  parent := some (sampleDevice 0 b true).path

/-- A characteristic of the sample service. -/
def sampleChrc (b : UInt8) : Attribute where
  proxy := 11
  path := (sampleService b).path ++ chars "/char004c"
  uuid := some (chars "00002a26-0000-1000-8000-00805f9b34fb")
  parent := some (sampleService b).path

/-- Two devices are connected; the first one, which is the default device, disconnects. -/
def secondDeviceRun : List Event :=
  [.adapterAdded 0 (hci 0), .deviceAdded 2 (sampleDevice 0 65 true),
    .deviceAdded 3 (sampleDevice 0 66 true), .attributeAdded .service (sampleService 66),
    .attributeAdded .characteristic (sampleChrc 66), .deviceChanged 2 (.connected false)]

/-- The characteristic of the second device is found, and it is read as NULL. -/
theorem attribute_cleared :
    ∃ s uuid, Reach busSystem (fun _ _ => True) s ∧ ¬ s.ActsOnSelected uuid ∧
      (State.clientOperation .read s uuid false).routine = some none := by
  have hrun : (secondDeviceRun.foldlM State.next State.opened).map (fun s =>
      ((s.gattSelectAttribute (chars "00002a26-0000-1000-8000-00805f9b34fb")).map Attribute.proxy,
        (State.clientOperation .read s (chars "00002a26-0000-1000-8000-00805f9b34fb")
          false).routine)) = some (some 11, some none) := by decide
  obtain ⟨s, hreach, hvalues⟩ := Reach.of_run (S := busSystem) (fun _ _ _ h => h) rfl hrun
  have hroutine := (Prod.mk.inj hvalues).2
  refine ⟨s, _, hreach, fun hacts => ?_, hroutine⟩
  exact (hacts.2 .read false none hroutine).1 rfl

end ConnectApp.Bluez
