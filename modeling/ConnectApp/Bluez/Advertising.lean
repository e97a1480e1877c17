import ConnectApp.Lib.Transition

/-!
# BLE advertising (advertising.c:87-102, 201-224, 467-541, a2dp_masterctrl.c:1973-1986)

To advertise, the application puts an object on the bus at `AD_PATH` and asks bluetoothd to
register it. Three things are to agree: `ad.registered`, `ble_content.ble_advertised`, which
the application waits for, and whether the object is on the bus.

`AdvPhase` is the protocol as it is meant: idle, registering, advertising, unregistering.
`Adv.next_phase` shows that the code follows it, and `advertised_truthful` that the three agree
whenever no reply is outstanding, in the runs in which bluetoothd neither releases the
advertisement nor removes the manager in use, the call of `RegisterAdvertisement` can be made
and a second stop waits for the reply to the first. `released_still_advertised` is a run in
which bluetoothd calls `Release`.
-/

namespace ConnectApp.Bluez

open Transition

/-- A call to the advertising manager that has not been answered. -/
inductive AdvCall
  | registerAdvertisement
  | unregisterAdvertisement
  deriving DecidableEq

/-- The states `RK_BT_STATE_ADAPTER_BLE_ADV_*` reported. -/
inductive AdvReport
  | start
  | stop
  | err
  deriving DecidableEq

/-- `registered` is `ad.registered`, `advertised` is `ble_content.ble_advertised`, `object`
tells whether AD_PATH is on the bus, `adProxy` whether `default_ctrl->ad_proxy` is set, and
`manager` whether the `LEAdvertisingManager1` object exists. -/
structure Adv where
  registered : Bool := false
  advertised : Bool := false
  object : Bool := false
  adProxy : Bool := false
  manager : Bool := false
  profileBle : Bool
  pending : List AdvCall := []
  reports : List AdvReport := []
  deriving DecidableEq

namespace Adv

/-- `ad_release` (advertising.c:87-92). -/
def adRelease (s : Adv) : Adv := { s with registered := false, object := false }

/-- `ad_register` (advertising.c:467-490). An object that is there already cannot be
registered again; `registers` tells whether the registration succeeds otherwise, `called`
whether the call can be made. -/
def adRegister (s : Adv) (registers called : Bool) : Adv :=
  if s.registered then s
  else if s.object || !registers then s
  else
    let s := { s with object := true }
    if called then { s with pending := s.pending ++ [.registerAdvertisement] } else s

/-- `ad_unregister` (advertising.c:526-541). Without a manager nothing is registered after
`ad_release`, so that no call is made. -/
def adUnregister (s : Adv) (manager called : Bool) : Adv :=
  let s := if manager then s else s.adRelease
  if !s.registered then s
  else if called then { s with pending := s.pending ++ [.unregisterAdvertisement] }
  else s

/-- `register_reply` (advertising.c:201-224). -/
def registerReply (s : Adv) (ok : Bool) : Adv :=
  if ok then { s with registered := true, advertised := true, reports := s.reports ++ [.start] }
  else { s with object := false }

/-- `unregister_reply` (advertising.c:499-524). -/
def unregisterReply (s : Adv) (ok : Bool) : Adv :=
  if ok then
    { s with
      registered := false, object := false, advertised := false, reports := s.reports ++ [.stop] }
  else { s with reports := s.reports ++ [.err] }

/-- `iBle_advertise` (a2dp_masterctrl.c:1973-1986), as `ble_enable_adv` and `ble_disable_adv`
call it (gatt_config.c:1123-1150). -/
def bleAdvertise (s : Adv) (enable registers called : Bool) : Adv :=
  if !s.profileBle || !s.adProxy then s
  else if enable then s.adRegister registers called
  else s.adUnregister true called

end Adv

/-! ## Runs -/

/-- What can happen to the advertising. -/
inductive AdvMove
  | start (registers called : Bool)
  | stop (called : Bool)
  | reply (i : Nat) (ok : Bool)
  | release
  | managerAdded
  | managerRemoved
  deriving DecidableEq

namespace Adv

/-- One move, if it can happen. `Release` is a method of the object on the bus. The removal of
the manager leaves `ad_proxy` as it is. -/
def next (s : Adv) : AdvMove → Option Adv
  | .start registers called => some (s.bleAdvertise true registers called)
  | .stop called => some (s.bleAdvertise false true called)
  | .reply i ok =>
    match s.pending[i]? with
    | none => none
    | some call =>
      let s := { s with pending := s.pending.eraseIdx i }
      match call with
      | .registerAdvertisement => some (s.registerReply ok)
      | .unregisterAdvertisement => some (s.unregisterReply ok)
  | .release => if s.object then some s.adRelease else none
  | .managerAdded => if s.manager then none else some { s with manager := true, adProxy := true }
  | .managerRemoved =>
    if s.manager then some { s.adUnregister false true with manager := false } else none

/-- The call of `RegisterAdvertisement` can be made; no second `UnregisterAdvertisement` is
asked for while one is outstanding; bluetoothd does not call `Release`; and the manager is
not removed while something is registered or a reply is outstanding. -/
def Regular (s : Adv) : AdvMove → Prop
  | .start _ called => called = true
  | .stop _ => .unregisterAdvertisement ∉ s.pending
  | .release => False
  | .managerRemoved => s.registered = false ∧ s.pending = []
  | _ => True

/-- The flags tell the truth. -/
def Truthful (s : Adv) : Prop := s.advertised = s.registered ∧ s.object = s.registered

end Adv

/-- The advertising, from the start of the program. -/
def advSystem : System Adv AdvMove where
  init := fun s => ∃ profileBle, s = { profileBle := profileBle }
  step := fun s m t => s.next m = some t

/-! ## The protocol -/

/-- Where the protocol is. -/
inductive AdvPhase
  | idle
  | registering
  | advertising
  | unregistering
  deriving DecidableEq

namespace AdvPhase

/-- BlueZ has the advertisement. -/
def registered : AdvPhase → Bool
  | idle | registering => false
  | advertising | unregistering => true

/-- The object is on the bus. -/
def object : AdvPhase → Bool
  | idle => false
  | registering | advertising | unregistering => true

/-- The calls outstanding. -/
def calls : AdvPhase → List AdvCall
  | idle | advertising => []
  | registering => [.registerAdvertisement]
  | unregistering => [.unregisterAdvertisement]

/-- The variables in a phase. -/
structure Shows (p : AdvPhase) (s : Adv) : Prop where
  registered : s.registered = p.registered
  advertised : s.advertised = p.registered
  object : s.object = p.object
  pending : s.pending = p.calls

/-- How the phases follow each other. -/
inductive Follows : AdvPhase → AdvPhase → Prop
  | stay (p : AdvPhase) : Follows p p
  | register : Follows idle registering
  | registered : Follows registering advertising
  | refused : Follows registering idle
  | unregister : Follows advertising unregistering
  | unregistered : Follows unregistering idle
  | kept : Follows unregistering advertising

/-- What `Shows` says does not depend on the manager or on what has been reported. -/
theorem Shows.congr {p : AdvPhase} {s t : Adv} (h : p.Shows s)
    (hregistered : t.registered = s.registered) (hadvertised : t.advertised = s.advertised)
    (hobject : t.object = s.object) (hpending : t.pending = s.pending) : p.Shows t where
  registered := hregistered.trans h.registered
  advertised := hadvertised.trans h.advertised
  object := hobject.trans h.object
  pending := hpending.trans h.pending

theorem Shows.adRegister {p : AdvPhase} {s : Adv} (h : p.Shows s) (registers : Bool) :
    ∃ q, Follows p q ∧ q.Shows (s.adRegister registers true) := by
  cases p with
  | idle =>
    have hregistered : ¬ s.registered = true := Bool.eq_false_iff.mp h.registered
    have hobject : s.object = false := h.object
    rw [Adv.adRegister, if_neg hregistered, hobject, Bool.false_or]
    cases registers with
    | false => exact ⟨idle, .stay idle, h⟩
    | true =>
      refine ⟨registering, .register, h.registered, h.advertised, rfl, ?_⟩
      show s.pending ++ [.registerAdvertisement] = _
      rw [h.pending]
      rfl
  | registering =>
    -- the object is on the bus already
    have hregistered : ¬ s.registered = true := Bool.eq_false_iff.mp h.registered
    have hobject : s.object = true := h.object
    rw [Adv.adRegister, if_neg hregistered, hobject, Bool.true_or, if_pos rfl]
    exact ⟨registering, .stay _, h⟩
  | advertising | unregistering =>
    have hregistered : s.registered = true := h.registered
    rw [Adv.adRegister, if_pos hregistered]
    exact ⟨_, .stay _, h⟩

theorem Shows.adUnregister {p : AdvPhase} {s : Adv} (h : p.Shows s)
    (hone : .unregisterAdvertisement ∉ s.pending) (called : Bool) :
    ∃ q, Follows p q ∧ q.Shows (s.adUnregister true called) := by
  rw [Adv.adUnregister, if_pos rfl]
  cases p with
  | idle | registering =>
    have hregistered : s.registered = false := h.registered
    rw [hregistered, Bool.not_false, if_pos rfl]
    exact ⟨_, .stay _, h⟩
  | advertising =>
    have hregistered : ¬ (!s.registered) = true := by
      rw [h.registered]
      exact Bool.false_ne_true
    rw [if_neg hregistered]
    cases called with
    | false => exact ⟨advertising, .stay _, h⟩
    | true =>
      refine ⟨unregistering, .unregister, h.registered, h.advertised, h.object, ?_⟩
      show s.pending ++ [.unregisterAdvertisement] = _
      rw [h.pending]
      rfl
  | unregistering =>
    rw [h.pending] at hone
    exact absurd List.mem_cons_self hone

/-- Only one call is ever outstanding, so its reply is the only one that can arrive. -/
theorem Shows.reply {p : AdvPhase} {s t : Adv} (h : p.Shows s) {i : Nat} {ok : Bool}
    (hnext : s.next (.reply i ok) = some t) : ∃ q, Follows p q ∧ q.Shows t := by
  rw [Adv.next, h.pending] at hnext
  cases p with
  | idle | advertising => cases hnext
  | registering =>
    cases i with
    | succ i => cases hnext
    | zero =>
      obtain rfl := Option.some.inj hnext
      cases ok with
      | true => exact ⟨advertising, .registered, rfl, rfl, h.object, rfl⟩
      | false => exact ⟨idle, .refused, h.registered, h.advertised, rfl, rfl⟩
  | unregistering =>
    cases i with
    | succ i => cases hnext
    | zero =>
      obtain rfl := Option.some.inj hnext
      cases ok with
      | true => exact ⟨idle, .unregistered, rfl, rfl, rfl, rfl⟩
      | false => exact ⟨advertising, .kept, h.registered, h.advertised, h.object, rfl⟩

theorem Shows.bleAdvertise {p : AdvPhase} {s : Adv} (h : p.Shows s) {enable registers called : Bool}
    (hstart : enable = true → called = true)
    (hstop : enable = false → .unregisterAdvertisement ∉ s.pending) :
    ∃ q, Follows p q ∧ q.Shows (s.bleAdvertise enable registers called) := by
  rw [Adv.bleAdvertise]
  split_ifs with hmanager henable
  · exact ⟨p, .stay p, h⟩
  · rw [hstart henable]
    exact h.adRegister registers
  · exact h.adUnregister (hstop (Bool.eq_false_iff.mpr henable)) called

end AdvPhase

/-- **One move.** A regular move is a step of the protocol. -/
theorem Adv.next_phase {p : AdvPhase} {s t : Adv} (h : p.Shows s) {m : AdvMove}
    (hregular : s.Regular m) (hnext : s.next m = some t) : ∃ q, p.Follows q ∧ q.Shows t := by
  cases m with
  | start registers called =>
    obtain rfl := Option.some.inj hnext
    exact h.bleAdvertise (fun _ => hregular) nofun
  | stop called =>
    obtain rfl := Option.some.inj hnext
    exact h.bleAdvertise nofun fun _ => hregular
  | reply i ok => exact h.reply hnext
  | release => exact hregular.elim
  | managerAdded =>
    rw [Adv.next, Option.ite_none_left_eq_some] at hnext
    obtain ⟨-, ⟨⟩⟩ := hnext
    exact ⟨p, .stay p, h.congr rfl rfl rfl rfl⟩
  | managerRemoved =>
    rw [Adv.next, Option.ite_none_right_eq_some] at hnext
    obtain ⟨-, ⟨⟩⟩ := hnext
    obtain ⟨hregistered, hpending⟩ := hregular
    -- nothing is registered and nothing is outstanding: the protocol is idle
    obtain rfl : p = .idle := by
      have hshown := h.registered
      have hcalls := h.pending
      rw [hregistered] at hshown
      rw [hpending] at hcalls
      cases p with
      | idle => rfl
      | registering => cases hcalls
      | advertising => cases hshown
      | unregistering => cases hshown
    exact ⟨.idle, .stay _, h.congr hregistered.symm rfl h.object.symm rfl⟩

/-- **The advertised flag.** In a regular run the public flag, the flag of the module and the
object on the bus agree whenever no reply is outstanding. -/
theorem advertised_truthful {s : Adv} (h : Reach advSystem Adv.Regular s) (hidle : s.pending = []) :
    s.Truthful := by
  have hphase : ∃ p : AdvPhase, p.Shows s := by
    refine h.invariant (P := fun s => ∃ p : AdvPhase, p.Shows s) ?_ ?_
    · rintro s ⟨profileBle, rfl⟩
      exact ⟨.idle, rfl, rfl, rfl, rfl⟩
    · rintro s m t ⟨p, hp⟩ hregular hnext
      obtain ⟨q, -, hq⟩ := Adv.next_phase hp hregular hnext
      exact ⟨q, hq⟩
  obtain ⟨p, hshows⟩ := hphase
  refine ⟨hshows.advertised.trans hshows.registered.symm, ?_⟩
  have hcalls := hshows.pending
  rw [hidle] at hcalls
  rw [hshows.object, hshows.registered]
  cases p with
  | idle => rfl
  | registering => cases hcalls
  | advertising => rfl
  | unregistering => cases hcalls

instance (s : Adv) : (m : AdvMove) → Decidable (s.Regular m)
  | .start _ called => inferInstanceAs (Decidable (called = true))
  | .stop _ => inferInstanceAs (Decidable (.unregisterAdvertisement ∉ s.pending))
  | .release => inferInstanceAs (Decidable False)
  | .managerRemoved => inferInstanceAs (Decidable (s.registered = false ∧ s.pending = []))
  | .reply .. | .managerAdded => inferInstanceAs (Decidable True)

/-- Advertising is started, stopped and started again. -/
theorem advertised_truthful_again :
    ∃ s : Adv, s.registered = true ∧ s.pending = [] ∧ s.Truthful := by
  have hrun : ([AdvMove.managerAdded, .start true true, .reply 0 true, .stop true, .reply 0 true,
      .start true true, .reply 0 true].foldlM
      (guarded Adv.next Adv.Regular) { profileBle := true }).map
      (fun s => (s.registered, s.pending)) = some (true, []) := by decide
  obtain ⟨s, hreach, hvals⟩ :=
    Reach.of_guarded_run (S := advSystem) (fun _ _ _ h => h) ⟨true, rfl⟩ hrun
  obtain ⟨hregistered, hpending⟩ := Prod.mk.inj hvals
  exact ⟨s, hregistered, hpending, advertised_truthful hreach hpending⟩

/-- bluetoothd releases the advertisement: `ble_advertised` stays set. -/
theorem released_still_advertised :
    ∃ s, Reach advSystem (fun _ _ => True) s ∧ s.pending = [] ∧ ¬ s.Truthful := by
  have hrun : ([AdvMove.managerAdded, .start true true, .reply 0 true, .release].foldlM Adv.next
      { profileBle := true }).map (fun s => (s.pending, s.advertised, s.registered)) =
      some ([], true, false) := by decide
  obtain ⟨s, hreach, hvals⟩ := Reach.of_run (S := advSystem) (fun _ _ _ h => h) ⟨true, rfl⟩ hrun
  obtain ⟨hpending, hflags⟩ := Prod.mk.inj hvals
  obtain ⟨hadvertised, hregistered⟩ := Prod.mk.inj hflags
  refine ⟨s, hreach, hpending, fun htrue => ?_⟩
  have heq := htrue.1
  rw [hadvertised, hregistered] at heq
  cases heq

end ConnectApp.Bluez
