import ConnectApp.Lib.CString
import ConnectApp.Lib.Transition

/-!
# Setting up Wi-Fi from a phone (test/rk_ble_app.c)

A phone that writes `wifi_scan` to the characteristic is sent the list of networks, in pieces of
the MTU, each of them after the confirmation of the one before. With `wifi_setup` it gives the name
and the password of the network to connect to.

Every `wifi_scan` starts a thread `rk_ble_send_data`. Its buffer, its counters and the flag
`confirm_done` are variables of the file, which other such threads and the callbacks of the main
loop write as well; `bleSystem` interleaves them.

- `list_arrives`: unless `wifi_scan` comes while a thread `rk_ble_send_data` is running, the pieces
  of a list make up its message, however the confirmations and changes of the MTU fall
- `setup_understood_iff`: the names and passwords that get through, which depends on the bytes that
  lie behind the written ones
-/

namespace ConnectApp.App

open CString Transition

/-! ## The list -/

/-- `MSG_BLE_WIFI_LIST_FORMAT` with the list, in the 20 KiB of `rk_wifi_list_buf` (35-37, 122). -/
def message (list : List UInt8) : List UInt8 :=
  snprintf (20 * 1024) (chars "\x7b\"cmd\":\"wifilists\", \"ret\":" ++ list ++ chars "\x7d")

/-- A list that is being sent: the MTU when this began, and what `rk_ble_send_notify` has been given
since; `none` stands for bytes that are not all of the message. -/
structure Transfer where
  list : List UInt8
  mtu : Nat
  pieces : List (Option (List UInt8)) := []
  deriving DecidableEq

/-- Where a thread `rk_ble_send_data` (95-155) is, with its variables: getting the list, at the test
of the loop, about to clear `confirm_done`, about to send, waiting. -/
inductive Pc
  | scan
  | loop (max : Int)
  | chosen (max len data : Int)
  | cleared (max len data : Int)
  | wait (max len : Int)
  | done
  deriving DecidableEq

/-- The variables of the file (37-64), the threads, and the lists sent, the last one first. -/
structure BleState where
  listBuf : List UInt8 := []
  scanrLen : Int := 0
  scanrLenUse : Int := 0
  confirmDone : Bool := false
  attMtu : Nat := 0
  threads : List Pc := []
  log : List Transfer := []
  deriving DecidableEq

/-- `len` bytes from `data` on. -/
def slice (buf : List UInt8) (data len : Int) : Option (List UInt8) :=
  if 0 ≤ data ∧ 0 ≤ len ∧ data + len ≤ buf.length then
    some ((buf.drop data.toNat).take len.toNat)
  else none

namespace BleState

variable (s : BleState)

/-- Thread `i` goes on to `pc`. -/
def go (i : Nat) (pc : Pc) : BleState := { s with threads := s.threads.set i pc }

/-- `rk_ble_send_notify`. -/
def send (piece : Option (List UInt8)) : BleState :=
  { s with log := s.log.modifyHead fun t => { t with pieces := t.pieces ++ [piece] } }

/-- The next step of a thread that has its list (132-152). -/
def turn (i : Nat) : Option BleState :=
  match s.threads[i]? with
  | some (.loop max) =>
    if s.scanrLen = 0 then some (s.go i .done)
    else
      some (s.go i
        (.chosen max (if s.scanrLen > max then max else s.scanrLen) s.scanrLenUse))
  | some (.chosen max len data) =>
    some ({ s with confirmDone := false }.go i (.cleared max len data))
  | some (.cleared max len data) =>
    some ((s.send (slice s.listBuf data len)).go i (.wait max len))
  | some (.wait max len) =>
    if s.confirmDone then
      some ({ s with
        scanrLen := s.scanrLen - len
        scanrLenUse := s.scanrLenUse + len }.go i (.loop max))
    else some s
  | _ => none

/-- A scan has given a list of at least three bytes (107-130). -/
def listed (i : Nat) (list : List UInt8) : Option BleState :=
  if s.threads[i]? = some .scan ∧ 3 ≤ list.length then
    some ({ s with
      listBuf := message list
      scanrLen := (message list).length
      scanrLenUse := 0
      log := ⟨list, s.attMtu, []⟩ :: s.log }.go i (.loop s.attMtu))
  else none

end BleState

/-- `wifi_scan` is written (160-161), a step of a thread, and the callbacks
`RK_BLE_GATT_SERVER_INDICATE_RESP_BY_REMOTE` and `RK_BLE_GATT_MTU` (198-208). -/
inductive Label
  | request
  | listed (i : Nat) (list : List UInt8)
  | turn (i : Nat)
  | confirm
  | mtu (m : UInt16)
  deriving DecidableEq

/-- One move. `none` if it cannot be made. -/
def BleState.next (s : BleState) : Label → Option BleState
  | .request => some { s with threads := s.threads ++ [.scan] }
  | .listed i list => s.listed i list
  | .turn i => s.turn i
  | .confirm => some { s with confirmDone := true }
  | .mtu m => some { s with attMtu := m.toNat }

/-- The component, from its start. -/
def bleSystem : System BleState Label where
  init s := s = {}
  step s l t := s.next l = some t

/-- No thread `rk_ble_send_data` is running when a list is asked for: all of them have returned. -/
def Alone (s : BleState) (l : Label) : Prop := l = .request → ∀ pc ∈ s.threads, pc = .done

instance (s : BleState) (l : Label) : Decidable (Alone s l) :=
  inferInstanceAs (Decidable (_ → _))

/-! ## What has been sent -/

/-- The first `n` bytes of the message have been sent. -/
def Transfer.Sent (t : Transfer) (n : Nat) : Prop :=
  ∃ ps : List (List UInt8), t.pieces = ps.map some ∧ ps.flatten = (message t.list).take n ∧
    ∀ p ∈ ps, p.length ≤ t.mtu

/-- All of the message has been sent. -/
def Transfer.Complete (t : Transfer) : Prop := t.Sent (message t.list).length

/-- The next piece. -/
theorem Transfer.Sent.send {t : Transfer} {n len : Nat} (h : t.Sent n) (hlen : len ≤ t.mtu)
    (hle : n + len ≤ (message t.list).length) :
    Transfer.Sent { t with pieces := t.pieces ++ [slice (message t.list) n len] } (n + len) := by
  obtain ⟨ps, hpieces, hflatten, hshort⟩ := h
  have hslice : slice (message t.list) n len = some (((message t.list).drop n).take len) := by
    rw [slice, if_pos ⟨Int.natCast_nonneg n, Int.natCast_nonneg len, by omega⟩]
    rfl
  refine ⟨ps ++ [((message t.list).drop n).take len], ?_, ?_, ?_⟩
  · show t.pieces ++ [slice (message t.list) n len] = _
    rw [List.map_append, ← hpieces, hslice]
    rfl
  · rw [List.flatten_append, hflatten, List.take_add, List.flatten_singleton]
  · exact List.forall_mem_append.mpr ⟨hshort, List.forall_mem_singleton.mpr
      ((List.length_take_le _ _).trans hlen)⟩

/-- How far the thread is with its list. -/
inductive Sending (t : Transfer) (n : Nat) : Pc → Prop
  | loop : t.Sent n → Sending t n (.loop t.mtu)
  | chosen {len : Nat} : t.Sent n → len ≤ t.mtu → n + len ≤ (message t.list).length →
      Sending t n (.chosen t.mtu len n)
  | cleared {len : Nat} : t.Sent n → len ≤ t.mtu → n + len ≤ (message t.list).length →
      Sending t n (.cleared t.mtu len n)
  | wait {len : Nat} : t.Sent (n + len) → n + len ≤ (message t.list).length →
      Sending t n (.wait t.mtu len)

theorem Sending.sent {t : Transfer} {n : Nat} {pc : Pc} (h : Sending t n pc) :
    pc ≠ .done ∧ ∃ m, t.Sent m := by
  cases h with
  | loop h | chosen h | cleared h | wait h => exact ⟨Pc.noConfusion, _, h⟩

/-- The last thread is sending the list `t`, with `n` of its bytes counted; the lists before it are
complete. -/
structure Busy (s : BleState) (old : List Pc) (pc : Pc) (t : Transfer) (sent : List Transfer)
    (n : Nat) : Prop where
  threads : s.threads = old ++ [pc]
  done : ∀ pc ∈ old, pc = .done
  log : s.log = t :: sent
  complete : ∀ t ∈ sent, t.Complete
  buf : s.listBuf = message t.list
  use : s.scanrLenUse = n
  rest : s.scanrLen = ((message t.list).length - n : Nat)
  le : n ≤ (message t.list).length
  sending : Sending t n pc

/-- At most the last thread is not done. -/
inductive Orderly (s : BleState) : Prop
  | idle : (∀ pc ∈ s.threads, pc = .done) → (∀ t ∈ s.log, t.Complete) → Orderly s
  | scanning {old : List Pc} : s.threads = old ++ [.scan] → (∀ pc ∈ old, pc = .done) →
      (∀ t ∈ s.log, t.Complete) → Orderly s
  | busy {old : List Pc} {pc : Pc} {t : Transfer} {sent : List Transfer} {n : Nat} :
      Busy s old pc t sent n → Orderly s

/-- A thread that is not done is the last one. -/
theorem eq_last {old : List Pc} {pc pc' : Pc} {i : Nat} (hold : ∀ pc ∈ old, pc = .done)
    (h : (old ++ [pc])[i]? = some pc') (hne : pc' ≠ .done) : i = old.length ∧ pc' = pc := by
  rcases Nat.lt_or_ge i old.length with hi | hi
  · rw [List.getElem?_append_left hi] at h
    exact absurd (hold pc' (List.mem_of_getElem? h)) hne
  · rw [List.getElem?_append_right hi] at h
    obtain ⟨hlt, heq⟩ := List.getElem?_eq_some_iff.mp h
    rw [List.length_singleton] at hlt
    refine ⟨by omega, ?_⟩
    rw [← heq]
    exact List.getElem_singleton hlt

theorem set_last (old : List Pc) (pc pc' : Pc) :
    (old ++ [pc]).set old.length pc' = old ++ [pc'] := by
  rw [List.set_append_right old.length pc' (Nat.le_refl _), Nat.sub_self]
  rfl

/-- A step of the thread that is sending. -/
theorem Busy.turn {s s' : BleState} {old : List Pc} {pc : Pc} {t : Transfer} {sent : List Transfer}
    {n : Nat} (h : Busy s old pc t sent n) (hget : s.threads[old.length]? = some pc)
    (hstep : s.turn old.length = some s') : Orderly s' := by
  have hgo : ∀ (u : BleState) (pc' : Pc), u.threads = s.threads →
      (u.go old.length pc').threads = old ++ [pc'] := by
    intro u pc' hu
    show u.threads.set old.length pc' = _
    rw [hu, h.threads, set_last]
  obtain ⟨hthreads, hold, hlog, hcomplete, hbuf, huse, hrest, hle, hsending⟩ := h
  rw [BleState.turn, hget] at hstep
  cases hsending with
  | loop hsent =>
    simp only at hstep
    by_cases hzero : s.scanrLen = 0
    · -- nothing is left
      rw [if_pos hzero] at hstep
      obtain rfl := Option.some.inj hstep
      refine .idle ?_ ?_
      · rw [hgo s .done rfl]
        exact List.forall_mem_append.mpr ⟨hold, List.forall_mem_singleton.mpr rfl⟩
      · show ∀ t ∈ s.log, t.Complete
        rw [hlog]
        obtain rfl : n = (message t.list).length := by omega
        exact List.forall_mem_cons.mpr ⟨hsent, hcomplete⟩
    · rw [if_neg hzero] at hstep
      obtain rfl := Option.some.inj hstep
      have hlen : (if s.scanrLen > t.mtu then (t.mtu : Int) else s.scanrLen) =
          (min t.mtu ((message t.list).length - n) : Nat) := by
        split_ifs <;> omega
      refine .busy ⟨hgo s _ rfl, hold, hlog, hcomplete, hbuf, huse, hrest, hle, ?_⟩
      rw [hlen, huse]
      exact .chosen hsent (by omega) (by omega)
  | chosen hsent hlen hend =>
    obtain rfl := Option.some.inj hstep
    exact .busy ⟨hgo _ _ rfl, hold, hlog, hcomplete, hbuf, huse, hrest, hle,
      .cleared hsent hlen hend⟩
  | @cleared len hsent hlen hend =>
    obtain rfl := Option.some.inj hstep
    refine .busy (t := { t with pieces := t.pieces ++ [slice (message t.list) n len] })
      ⟨hgo (s.send _) _ rfl, hold, ?_, hcomplete, hbuf, huse, hrest, hle,
        .wait (hsent.send hlen hend) hend⟩
    show s.log.modifyHead _ = _
    rw [hlog, hbuf]
    rfl
  | @wait len hsent hend =>
    simp only at hstep
    split_ifs at hstep
    · obtain rfl := Option.some.inj hstep
      refine .busy ⟨hgo _ _ rfl, hold, hlog, hcomplete, hbuf, ?_, ?_, hend, .loop hsent⟩
      · show s.scanrLenUse + len = _
        omega
      · show s.scanrLen - len = _
        omega
    · -- not confirmed yet
      obtain rfl := Option.some.inj hstep
      exact .busy ⟨hthreads, hold, hlog, hcomplete, hbuf, huse, hrest, hle, .wait hsent hend⟩

/-- **One step.** -/
theorem Orderly.next {s s' : BleState} {l : Label} (h : Orderly s) (hok : Alone s l)
    (hstep : s.next l = some s') : Orderly s' := by
  cases l with
  | request =>
    obtain rfl := Option.some.inj hstep
    have hdone := hok rfl
    cases h with
    | idle _ hcomplete => exact .scanning rfl hdone hcomplete
    | scanning hthreads _ _ => cases hdone .scan (by simp [hthreads])
    | busy h => exact absurd (hdone _ (by simp [h.threads])) h.sending.sent.1
  | listed i list =>
    have hlisted : s.listed i list = some s' := hstep
    rw [BleState.listed, Option.ite_none_right_eq_some] at hlisted
    obtain ⟨⟨hget, -⟩, hs'⟩ := hlisted
    obtain rfl := Option.some.inj hs'
    cases h with
    | idle hdone _ => cases hdone _ (List.mem_of_getElem? hget)
    | @scanning old hthreads hold hcomplete =>
      rw [hthreads] at hget
      obtain ⟨rfl, -⟩ := eq_last hold hget Pc.noConfusion
      refine .busy (n := 0) ⟨?_, hold, rfl, hcomplete, rfl, rfl, rfl, Nat.zero_le _,
        .loop ⟨[], rfl, rfl, fun p hp => absurd hp List.not_mem_nil⟩⟩
      show s.threads.set old.length _ = _
      rw [hthreads, set_last]
    | busy h =>
      rw [h.threads] at hget
      obtain ⟨-, rfl⟩ := eq_last h.done hget Pc.noConfusion
      cases h.sending
  | turn i =>
    have hturn : s.turn i = some s' := hstep
    obtain ⟨pc', hget, hrun⟩ : ∃ pc', s.threads[i]? = some pc' ∧ pc' ≠ .done ∧ pc' ≠ .scan := by
      rw [BleState.turn] at hturn
      cases hpc : s.threads[i]? with
      | none =>
        rw [hpc] at hturn
        cases hturn
      | some pc' =>
        rw [hpc] at hturn
        refine ⟨pc', rfl, ?_, ?_⟩
        · rintro rfl
          cases hturn
        · rintro rfl
          cases hturn
    cases h with
    | idle hdone _ => exact absurd (hdone pc' (List.mem_of_getElem? hget)) hrun.1
    | scanning hthreads hold _ =>
      rw [hthreads] at hget
      exact absurd (eq_last hold hget hrun.1).2 hrun.2
    | busy h =>
      have hget' := hget
      rw [h.threads] at hget'
      obtain ⟨rfl, rfl⟩ := eq_last h.done hget' hrun.1
      exact h.turn hget hturn
  | confirm | mtu m =>
    obtain rfl := Option.some.inj hstep
    cases h with
    | idle hdone hcomplete => exact .idle hdone hcomplete
    | scanning hthreads hold hcomplete => exact .scanning hthreads hold hcomplete
    | busy h =>
      obtain ⟨hthreads, hold, hlog, hcomplete, hbuf, huse, hrest, hle, hsending⟩ := h
      exact .busy ⟨hthreads, hold, hlog, hcomplete, hbuf, huse, hrest, hle, hsending⟩

theorem message_ne_nil (list : List UInt8) : message list ≠ [] := by
  rw [message, snprintf]
  exact List.cons_ne_nil _ _

theorem Orderly.sent {s : BleState} (h : Orderly s) {t : Transfer} (ht : t ∈ s.log) :
    ∃ n, t.Sent n ∧ ((∀ pc ∈ s.threads, pc = .done) → n = (message t.list).length) := by
  cases h with
  | idle _ hcomplete | scanning _ _ hcomplete => exact ⟨_, hcomplete t ht, fun _ => rfl⟩
  | busy h =>
    rw [h.log] at ht
    obtain ⟨hpc, m, hm⟩ := h.sending.sent
    rcases List.mem_cons.mp ht with rfl | ht
    · exact ⟨m, hm, fun hdone => absurd (hdone _ (by simp [h.threads])) hpc⟩
    · exact ⟨_, h.complete t ht, fun _ => rfl⟩

/-- **The list arrives.** As long as `wifi_scan` only comes when no thread is running, the pieces
of a list are no longer than the MTU it was begun with and make up the front of its message, and
once the threads are done the whole of it; so with an MTU of 0 a thread is never done. -/
theorem list_arrives {s : BleState} (h : Reach bleSystem Alone s) :
    ∀ t ∈ s.log, ∃ ps : List (List UInt8), t.pieces = ps.map some ∧ (∀ p ∈ ps, p.length ≤ t.mtu) ∧
      ps.flatten <+: message t.list ∧
      ((∀ pc ∈ s.threads, pc = .done) → ps.flatten = message t.list ∧ 0 < t.mtu) := by
  have horderly : Orderly s := by
    refine Reach.invariant (P := Orderly) ?_ (fun s l t hs hok hstep => hs.next hok hstep) h
    rintro s rfl
    exact .idle (fun pc hpc => absurd hpc List.not_mem_nil) fun t ht => absurd ht List.not_mem_nil
  intro t ht
  obtain ⟨n, ⟨ps, hpieces, hflatten, hshort⟩, hall⟩ := horderly.sent ht
  refine ⟨ps, hpieces, hshort, hflatten ▸ List.take_prefix _ _, fun hdone => ?_⟩
  rw [hall hdone, List.take_length] at hflatten
  refine ⟨hflatten, Nat.pos_of_ne_zero fun hzero => message_ne_nil t.list ?_⟩
  -- pieces of an MTU of 0 are empty
  rw [← hflatten, List.flatten_eq_nil_iff]
  intro p hp
  exact List.eq_nil_of_length_eq_zero (Nat.le_zero.mp (hzero ▸ hshort p hp))

/-- A list in two pieces. -/
def twoPieces : List Label :=
  [.mtu 16, .request, .listed 0 (chars "[1]"), .turn 0, .turn 0, .turn 0, .confirm, .turn 0,
    .turn 0, .turn 0, .turn 0, .confirm, .turn 0, .turn 0]

theorem list_arrives_in_two :
    ∃ s, Reach bleSystem Alone s ∧ ∃ t ∈ s.log, t.pieces.length = 2 ∧
      ∃ ps : List (List UInt8), t.pieces = ps.map some ∧ ps.flatten = message (chars "[1]") := by
  have hrun : (twoPieces.foldlM (guarded BleState.next Alone) {}).map
      (fun s => (s.threads, s.log.map fun t => (t.list, t.pieces.length))) =
        some ([Pc.done], [(chars "[1]", 2)]) := by decide +kernel
  obtain ⟨s, hreach, hval⟩ := Reach.of_guarded_run (S := bleSystem) (fun _ _ _ h => h) rfl hrun
  obtain ⟨hthreads, hlog⟩ := Prod.mk.inj hval
  obtain ⟨t, hlog', ht⟩ := List.map_eq_singleton_iff.mp hlog
  obtain ⟨hlist, hlength⟩ := Prod.mk.inj ht
  have hmem : t ∈ s.log := by rw [hlog']; exact List.mem_cons_self
  obtain ⟨ps, hpieces, -, -, hdone⟩ := list_arrives hreach t hmem
  refine ⟨s, hreach, t, hmem, hlength, ps, hpieces, hlist ▸ (hdone ?_).1⟩
  rw [hthreads]
  exact List.forall_mem_singleton.mpr rfl

/-! ## Name and password -/

/-- `%s` of `sscanf`: a word behind spaces, and what follows. -/
def word (t : List UInt8) : List UInt8 × List UInt8 :=
  ((ltrim t).takeWhile fun b => !isSpace b, (ltrim t).dropWhile fun b => !isSpace b)

/-- What `ble_wifi_recv_data_cb` (157-172) takes from what is written to the characteristic; `setup`
has the texts that go to `cmd[12]`, `wifi_ssid[256]` and `wifi_password[256]`. -/
inductive Written
  | scan
  | setup (cmd ssid password : List UInt8)
  | ignored

/-- `ble_wifi_recv_data_cb` (157-172). `data` is the memory from `data` on: the bytes written, which
`chr_write` has copied without a NUL (gatt_config.c:338), and whatever lies behind them. `strncmp`
and `sscanf` read up to the first NUL, and nobody looks at `len`. -/
def bleWifiRecvDataCb (data : List UInt8) : Written :=
  if chars "wifi_scan" <+: cstr data then .scan
  else if chars "wifi_setup" <+: cstr data then
    let cmd := word (cstr data)
    let ssid := word cmd.2
    .setup cmd.1 ssid.1 (word ssid.2).1
  else .ignored

/-- The words fit their buffers, each with a 0 behind it. -/
def Written.Fits : Written → Prop
  | .setup cmd ssid password => cmd.length < 12 ∧ ssid.length < 256 ∧ password.length < 256
  | _ => True

/-- The bytes of a word are those of the text, and none is a space. -/
theorem mem_word {t : List UInt8} {b : UInt8} (h : b ∈ (word t).1) : b ∈ t ∧ isSpace b = false := by
  have hspace := List.mem_takeWhile_imp h
  refine ⟨(List.dropWhile_suffix _).subset ((List.takeWhile_prefix _).subset h), ?_⟩
  simpa using hspace

/-- A word goes on with what stands behind it up to a space. -/
theorem word_append {w : List UInt8} (hw : ∀ b ∈ w, isSpace b = false) (hne : w ≠ [])
    (t : List UInt8) :
    word (w ++ t) = (w ++ t.takeWhile fun b => !isSpace b, t.dropWhile fun b => !isSpace b) := by
  have hall : ∀ b ∈ w, (!isSpace b) = true := fun b hb => by rw [hw b hb]; rfl
  have htrim : ltrim (w ++ t) = w ++ t := by
    obtain ⟨b, w, rfl⟩ := List.exists_cons_of_ne_nil hne
    exact List.dropWhile_cons_of_neg (by simp [hw b List.mem_cons_self])
  rw [word, htrim, List.takeWhile_append_of_pos hall, List.dropWhile_append_of_pos hall]

/-- The word in front of a space. -/
theorem word_append_space {w : List UInt8} (hw : ∀ b ∈ w, isSpace b = false) (hne : w ≠ [])
    (t : List UInt8) : word (w ++ 32 :: t) = (w, 32 :: t) := by
  rw [word_append hw hne]
  exact congrArg (·, _) w.append_nil

/-- There is no word in a text of spaces only. -/
theorem word_eq_nil_iff {t : List UInt8} : (word t).1 = [] ↔ ∀ b ∈ t, isSpace b = true := by
  rw [← List.dropWhile_eq_nil_iff]
  constructor
  · intro h
    cases htrim : t.dropWhile isSpace with
    | nil => rfl
    | cons b u =>
      have hb : ¬ isSpace b = true := by
        have hhead := List.head?_dropWhile_not isSpace t
        rw [htrim] at hhead
        simpa using hhead
      rw [word, show ltrim t = b :: u from htrim, List.takeWhile_cons_of_pos (by simpa using hb)] at h
      cases h
  · intro h
    rw [word, show ltrim t = [] from h]
    rfl

/-- When there is no word, there is none behind it either. -/
theorem word_of_nil {t : List UInt8} (h : (word t).1 = []) : (word (word t).2).1 = [] := by
  have hspaces := word_eq_nil_iff.mp h
  rw [word_eq_nil_iff]
  intro b hb
  exact hspaces b ((List.dropWhile_suffix _).subset ((List.dropWhile_suffix _).subset hb))

/-- What is taken from a text are words of it. -/
theorem setup_words {data cmd ssid password : List UInt8}
    (h : bleWifiRecvDataCb data = .setup cmd ssid password) :
    (∀ b ∈ ssid ++ password, isSpace b = false ∧ b ≠ 0) ∧ (ssid = [] → password = []) := by
  rw [bleWifiRecvDataCb] at h
  split_ifs at h
  obtain ⟨-, rfl, rfl⟩ := Written.setup.inj h
  refine ⟨fun b hb => ?_, word_of_nil⟩
  have hcut : ∀ {t : List UInt8}, t ⊆ cstr data → (word t).2 ⊆ cstr data := fun ht _ hb =>
    ht ((List.dropWhile_suffix _).subset ((List.dropWhile_suffix _).subset hb))
  have hcmd := hcut (List.Subset.refl _)
  have hmem : b ∈ cstr data ∧ isSpace b = false := by
    rcases List.mem_append.mp hb with hb | hb
    · exact ⟨hcmd (mem_word hb).1, (mem_word hb).2⟩
    · exact ⟨hcut hcmd (mem_word hb).1, (mem_word hb).2⟩
  exact ⟨hmem.2, fun hzero => zero_not_mem_cstr data (hzero ▸ hmem.1)⟩

/-- What `sscanf` reads when neither name nor password has a NUL: the text goes on with the bytes
behind it. -/
theorem setup_read {ssid password : List UInt8} (h0 : 0 ∉ ssid ++ password) (behind : List UInt8) :
    bleWifiRecvDataCb (chars "wifi_setup " ++ ssid ++ 32 :: password ++ behind) =
      .setup (chars "wifi_setup") (word (ssid ++ 32 :: (password ++ cstr behind))).1
        (word (word (ssid ++ 32 :: (password ++ cstr behind))).2).1 := by
  generalize hdata : chars "wifi_setup " ++ ssid ++ 32 :: password ++ behind = data
  have hcstr : cstr data =
      chars "wifi_setup" ++ 32 :: (ssid ++ 32 :: (password ++ cstr behind)) := by
    rw [List.mem_append, not_or] at h0
    rw [← hdata, cstr_append, if_neg]
    · simp only [List.append_assoc, List.cons_append]
      rfl
    · rw [List.mem_append, List.mem_append, List.mem_cons]
      rintro ((h | h) | h | h)
      · exact absurd h (by decide)
      · exact h0.1 h
      · cases h
      · exact h0.2 h
  have hfront : chars "wifi_setup" <+: cstr data := hcstr ▸ List.prefix_append _ _
  have hscan : ¬ chars "wifi_scan" <+: cstr data := fun h =>
    absurd (List.prefix_of_prefix_length_le h hfront (by decide)) (by decide)
  have hcmd : word (cstr data) =
      (chars "wifi_setup", 32 :: (ssid ++ 32 :: (password ++ cstr behind))) := by
    rw [hcstr]
    exact word_append_space (by decide +kernel) (by decide) _
  rw [bleWifiRecvDataCb, if_neg hscan, if_pos hfront, hcmd]
  rfl

/-- The password ends where it should: what lies behind it begins with a NUL or a space, and where
there is no password there are only spaces up to a NUL. -/
def EndsAt (password behind : List UInt8) : Prop :=
  if password = [] then ∀ b ∈ cstr behind, isSpace b = true
  else ∀ b ∈ (cstr behind).head?, isSpace b = true

/-- The last word. -/
theorem word_password_iff {password : List UInt8} (hp : ∀ b ∈ password, isSpace b = false)
    (behind : List UInt8) :
    (word (password ++ cstr behind)).1 = password ↔ EndsAt password behind := by
  rw [EndsAt]
  by_cases hnil : password = []
  · rw [if_pos hnil, hnil]
    exact word_eq_nil_iff
  · rw [if_neg hnil, word_append hp hnil, List.append_right_eq_self]
    cases cstr behind with
    | nil => simp
    | cons b t => cases hb : isSpace b <;> simp [hb]

/-- **What gets through.** The name and the password a phone sends come out as they are, inside
their buffers, exactly when they have no spaces, are short enough, there is no password without a
name, and the bytes that lie behind the written ones end the password. -/
theorem setup_understood_iff (ssid password behind : List UInt8) :
    ((bleWifiRecvDataCb (chars "wifi_setup " ++ ssid ++ 32 :: password ++ behind)).Fits ∧
      ∃ cmd, bleWifiRecvDataCb (chars "wifi_setup " ++ ssid ++ 32 :: password ++ behind) =
        .setup cmd ssid password) ↔
      (∀ b ∈ ssid ++ password, isSpace b = false ∧ b ≠ 0) ∧ ssid.length < 256 ∧
        password.length < 256 ∧ (ssid = [] → password = []) ∧ EndsAt password behind := by
  -- with good bytes, what is read depends on what lies behind
  have hread : (∀ b ∈ ssid ++ password, isSpace b = false ∧ b ≠ 0) → (ssid = [] → password = []) →
      ((word (ssid ++ 32 :: (password ++ cstr behind))).1 = ssid ∧
        (word (word (ssid ++ 32 :: (password ++ cstr behind))).2).1 = password ↔
        EndsAt password behind) := by
    intro hbytes hnone
    obtain ⟨hs, hp⟩ := List.forall_mem_append.mp hbytes
    rw [← word_password_iff fun b hb => (hp b hb).1]
    by_cases hnil : ssid = []
    · rw [hnil, hnone hnil]
      exact ⟨fun h => h.1, fun h => ⟨h, word_of_nil h⟩⟩
    · rw [word_append_space (fun b hb => (hs b hb).1) hnil]
      exact and_iff_right rfl
  constructor
  · rintro ⟨hfits, cmd, heq⟩
    rw [heq] at hfits
    obtain ⟨hbytes, hnone⟩ := setup_words heq
    refine ⟨hbytes, hfits.2.1, hfits.2.2, hnone, (hread hbytes hnone).mp ?_⟩
    rw [setup_read fun h0 => (hbytes 0 h0).2 rfl] at heq
    exact (Written.setup.inj heq).2
  · rintro ⟨hbytes, hssid, hpassword, hnone, hends⟩
    obtain ⟨hname, hlast⟩ := (hread hbytes hnone).mpr hends
    rw [setup_read fun h0 => (hbytes 0 h0).2 rfl, hname, hlast]
    exact ⟨⟨by decide, hssid, hpassword⟩, _, rfl⟩

end ConnectApp.App
