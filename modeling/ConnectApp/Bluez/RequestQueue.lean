import ConnectApp.Lib.IdleQueue
import ConnectApp.Bluez.Handler

/-!
# The queue of Bluetooth requests

`requestLoop` has the calls of bt_hal.c post their requests and the main loop dispatch the
oldest one, in any order and with any state of the world at each dispatch. A handler that
returns 0 is taken off the queue, any other is dispatched again.

- `arguments_kept`: every handler finds the arguments of its own call, as long as the
  arguments fit and no call overwrites a buffer that a waiting request still needs.
  `address_overwritten` is a second call of `rk_bt_connect_by_addr` before the handler of the
  first has run.
- `requests_once_iff`: every request is dispatched once exactly when each dispatched one is
  answerable. `request_repeats` are a notification for a uuid that no
  characteristic has, and a pairing whose D-Bus call cannot be made.
-/

namespace ConnectApp.Bluez

open CString IdleQueue Transition

/-- The API and the main loop as a queue of idle calls. -/
def requestLoop : Loop (CallEnv × Call) Request Memory World Request where
  request := fun c => c.2.request c.1
  store := fun r m => r.store m
  observe := fun r w m => m.find w.stray r
  again := fun r w m => decide (((m.find w.stray r).handle w m).ret ≠ 0)

/-- The queue with the static variables. -/
abbrev QueueState := IdleQueue.State Request Memory Request

/-- A call of the API, or a dispatch of the main loop. -/
abbrev QueueMove := Move (CallEnv × Call) World

/-- Nothing is posted yet. -/
def QueueState.start : QueueState := ⟨Memory.zero, [], [], []⟩

/-! ## Arguments -/

/-- The rules of the buffers: a request that fits stores its arguments, and a later one
leaves them alone if it needs the same in the cells they share. -/
theorem requestLoop_protects :
    requestLoop.Protects (fun m => m.damaged = false) (fun r m => r.Held m) Request.Fits
      Request.Compatible where
  store_sound := fun r m hfits hm => (Request.store_damaged m hfits).trans hm
  store_holds := fun r m hfits hm =>
    ⟨hfits, (Request.store_damaged m hfits).trans hm, fun c t ht => Request.read_store m hfits ht⟩
  store_keeps := by
    intro p r m hfits hcompatible hp
    refine ⟨hp.fits, (Request.store_damaged m hfits).trans hp.whole, fun c t ht => ?_⟩
    cases hr : r.content c with
    | none => exact (Request.read_store_of_none m hr).trans (hp.cells c t ht)
    | some t' =>
      rw [hcompatible c t ht t' hr]
      exact Request.read_store m hfits hr

/-- **Arguments are kept.** In every run in which the calls post requests that fit and that
are compatible with the waiting ones, each handler finds what was passed in its call. -/
theorem arguments_kept {s : QueueState}
    (h : Reach (requestLoop.system Memory.zero)
      (requestLoop.Careful Request.Fits Request.Compatible) s) :
    ∀ x ∈ s.dispatched, x.2 = x.1 := by
  intro x hx
  obtain ⟨w, m, hheld, hfound⟩ := Loop.dispatched_holds requestLoop_protects rfl h x hx
  rw [hfound]
  exact hheld.find w.stray

/-- An address. -/
def addrA : Text := ⟨chars "00:0C:3E:3A:4B:0A", by decide⟩

/-- Another one. -/
def addrB : Text := ⟨chars "00:0C:3E:3A:4B:0B", by decide⟩

/-- Bluetooth is open and does not scan. -/
def idleEnv : CallEnv := ⟨true, false⟩

theorem compatible_byAddress {kind kind' : AddrKind} (h : kind ≠ kind') (a b : Text) :
    Request.Compatible (.byAddress kind a) (.byAddress kind' b) := by
  intro c t ht t' ht'
  cases c with
  | addr k =>
    simp only [Request.content, Option.mem_def, Option.ite_none_right_eq_some] at ht ht'
    exact absurd (ht.1.trans ht'.1.symm) h
  | _ => cases ht

/-- A connection and a pairing, both posted before either is dispatched. -/
theorem arguments_kept_pairing :
    ∃ s : QueueState, s.dispatched.map Prod.fst = [.byAddress .con addrA, .byAddress .pair addrB] ∧
      ∀ x ∈ s.dispatched, x.2 = x.1 := by
  have hstart : Reach (requestLoop.system Memory.zero)
      (requestLoop.Careful Request.Fits Request.Compatible) QueueState.start := .start rfl
  have hconnectOk : requestLoop.Careful Request.Fits Request.Compatible QueueState.start
      (.call (idleEnv, .btConnectByAddr (some addrA))) := by
    intro r hr
    obtain rfl := Option.some.inj hr
    exact ⟨show addrA.1.length ≤ 17 by decide, nofun⟩
  have hconnect := hstart.next hconnectOk
    (show requestLoop.next QueueState.start _ = some _ from rfl)
  have hpairOk : requestLoop.Careful Request.Fits Request.Compatible
      { QueueState.start with
        mem := Request.store Memory.zero (.byAddress .con addrA)
        queue := [.byAddress .con addrA], posted := [.byAddress .con addrA] }
      (.call (idleEnv, .btPairByAddr (some addrB))) := by
    intro r hr
    obtain rfl := Option.some.inj hr
    refine ⟨show addrB.1.length ≤ 17 by decide, fun p hp => ?_⟩
    rw [List.mem_singleton.mp hp]
    exact compatible_byAddress (by decide) addrA addrB
  have hpair := hconnect.next hpairOk (show requestLoop.next _ _ = some _ from rfl)
  have hdispatch : ∀ s, requestLoop.Careful Request.Fits Request.Compatible s
      (.dispatch World.opened) := fun _ => trivial
  have hfirst := hpair.next (hdispatch _) (by exact rfl)
  have hsecond := hfirst.next (hdispatch _) (by exact rfl)
  exact ⟨_, rfl, arguments_kept hsecond⟩

/-- Two connections are asked for before the first handler runs. -/
def connectTwiceRun : List QueueMove :=
  [.call (idleEnv, .btConnectByAddr (some addrA)), .call (idleEnv, .btConnectByAddr (some addrB)),
    .dispatch World.opened]

/-- The handler of the first call connects to the address of the second. -/
theorem address_overwritten :
    ∃ s, Reach (requestLoop.system Memory.zero) (fun _ _ => True) s ∧
      ¬ ∀ x ∈ s.dispatched, x.2 = x.1 := by
  have hrun : (connectTwiceRun.foldlM requestLoop.next QueueState.start).map
      IdleQueue.State.dispatched = some [(.byAddress .con addrA, .byAddress .con addrB)] := by
    decide
  obtain ⟨s, hreach, hdispatched⟩ :=
    Reach.of_run (S := requestLoop.system Memory.zero) (fun _ _ _ h => h) rfl hrun
  refine ⟨s, hreach, fun hkept => ?_⟩
  rw [hdispatched] at hkept
  have heq := hkept _ (List.mem_singleton_self _)
  exact absurd heq (by decide)

/-! ## Each request once -/

/-- What the dispatched handler finds is answerable. -/
def Answered (s : QueueState) : QueueMove → Prop
  | .call _ => True
  | .dispatch w => ∀ r ∈ s.queue.head?, (s.mem.find w.stray r).Answerable w

theorem settles_iff (s : QueueState) (l : QueueMove) :
    requestLoop.Settles s l ↔ Answered s l := by
  cases l with
  | call c => exact Iff.rfl
  | dispatch w =>
    refine forall₂_congr fun r _ => ?_
    rw [← Request.handle_ret_iff w s.mem]
    exact decide_eq_false_iff_not.trans not_not

/-- **Each request once.** After any run of calls and dispatches, the requests dispatched and
those waiting are the requests posted in their order, and none waits after as many dispatches
as requests, exactly when each dispatched one was answerable. -/
theorem requests_once_iff {ls : List QueueMove} {t : QueueState}
    (h : ls.foldlM requestLoop.next QueueState.start = some t) :
    (t.Once ∧ (t.dispatched.length = t.posted.length → t.queue = [])) ↔
      Along requestLoop.next Answered QueueState.start ls := by
  have hsettles : requestLoop.Settles = Answered :=
    funext fun s => funext fun l => propext (settles_iff s l)
  rw [← hsettles, ← Loop.once_iff (show QueueState.start.Once from rfl) h]
  exact ⟨And.left, fun honce => ⟨honce, honce.queue_eq_nil⟩⟩

/-- A pairing with a device that is not there. -/
theorem requests_once_pairing :
    ∃ t : QueueState, t.dispatched.length = 1 ∧ t.Once ∧ t.queue = [] := by
  have hrun : ([.call (idleEnv, .btPairByAddr (some addrA)), .dispatch World.opened].foldlM
      requestLoop.next QueueState.start).map (fun t => (t.dispatched.length, t.posted.length)) =
      some (1, 1) := by decide
  obtain ⟨t, ht, hlengths⟩ := Option.map_eq_some_iff.mp hrun
  obtain ⟨hdispatched, hposted⟩ := Prod.mk.inj hlengths
  have honce := (requests_once_iff ht).mpr ⟨trivial, fun u hu => ⟨?_, fun _ _ => trivial⟩⟩
  · exact ⟨t, hdispatched, honce.1, honce.2 (hdispatched.trans hposted.symm)⟩
  · obtain rfl := Option.some.inj hu
    intro r hr
    obtain rfl := Option.some.inj hr
    exact fun _ d hd => nomatch hd

/-- One characteristic, and a device that cannot be called. -/
def World.busy : World :=
  { World.opened with
    state := { State.opened with
      ctrlList := [{ id := 0, proxy := 0, path := hci 0, devices := [2] }]
      defaultCtrl := some 0
      props := fun _ => sampleDevice 0 65 false }
    table := [[⟨chars "dfd4416e-1810-47f7-8248-eb8be3dc47f9", []⟩]]
    accepts := fun _ _ => false }

/-- A notification for a uuid that no characteristic has, and a pairing. -/
def repeatedCalls : List Call :=
  [.bleSendNotify ⟨chars "00009999-0000-1000-8000-00805f9b34fb", by decide⟩ (some [1]),
    .btPairByAddr (some addrA)]

/-- Each of them is still waiting after its dispatch. -/
theorem request_repeats : repeatedCalls ≠ [] ∧
    ∀ c ∈ repeatedCalls, ∃ t : QueueState,
      [.call (idleEnv, c), .dispatch World.busy].foldlM requestLoop.next QueueState.start = some t ∧
        ¬ t.Once ∧ t.queue ≠ [] := by
  have hruns : ∀ c ∈ repeatedCalls,
      ([.call (idleEnv, c), .dispatch World.busy].foldlM requestLoop.next QueueState.start).map
        (fun t => (t.dispatched.length, t.queue.length, t.posted.length)) = some (1, 1, 1) := by
    decide
  refine ⟨List.cons_ne_nil _ _, fun c hc => ?_⟩
  obtain ⟨t, ht, hlengths⟩ := Option.map_eq_some_iff.mp (hruns c hc)
  obtain ⟨hdispatched, hlengths⟩ := Prod.mk.inj hlengths
  obtain ⟨hqueue, hposted⟩ := Prod.mk.inj hlengths
  refine ⟨t, ht, fun honce => ?_, fun hnil => ?_⟩
  · have hzero := honce.repeats
    rw [IdleQueue.State.repeats, hdispatched, hqueue, hposted] at hzero
    exact absurd hzero (by decide)
  · rw [hnil] at hqueue
    cases hqueue

end ConnectApp.Bluez
