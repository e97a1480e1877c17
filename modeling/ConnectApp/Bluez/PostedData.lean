import ConnectApp.Bluez.Handler
import ConnectApp.Lib.Memory

/-!
# The bytes of notifications and writes (bt_hal.c:101-175, gatt_config.c:1074-1119,
gatt_client.c:110-137, rk_ble_app.c:134-152)

Two calls hand bytes to a posted handler. `rk_ble_send_notify` puts them with their number into
`ble_cfg`, and `gatt_write_data` writes 244 bytes of it, whatever the number is.
`rk_ble_client_write` puts them behind one byte for their number, and `gatt_client_write` reads
that byte as a `char`.

- `writeFirst_eq_setValue`: with distinct uuids a notification changes one characteristic
- `notify_delivers_iff`: it carries the caller's bytes exactly if there are 244 of them, and so
  with the chunks of `rk_ble_send_data`
- `client_write_delivers_iff`: a write carries them exactly if a `char` can hold their number
-/

namespace ConnectApp.Bluez

open CString

/-- The handler of a request, when it runs before any other call. -/
def Request.dispatched (w : World) (m : Memory) (r : Request) : Outcome :=
  ((r.store m).find w.stray r).handle w (r.store m)

/-! ## Notifications -/

/-- The table with the value of the characteristic that has the uuid, and no other change. -/
def setValue (uuid value : List UInt8) (table : List (List Chrc)) : List (List Chrc) :=
  table.map (List.map fun c => if c.uuid = uuid then { c with value := value } else c)

/-- A notification can be sent: the characteristics have distinct uuids of 36 characters, one of
them is the given uuid, and the record is as the source declares it. -/
structure Ready (uuid : Text) (w : World) (m : Memory) : Prop where
  uuid_length : ∀ c ∈ w.table.flatten, c.uuid.length = 36
  distinct : (w.table.flatten.map Chrc.uuid).Nodup
  registered : ∃ c ∈ w.table.flatten, c.uuid = uuid
  whole : m.damaged = false
  data_length : m.bleCfg.data.length = 512

theorem setValue_of_ne {uuid value : List UInt8} {table : List (List Chrc)}
    (h : ∀ c ∈ table.flatten, c.uuid ≠ uuid) : setValue uuid value table = table := by
  have hrow : ∀ chrs ∈ table,
      chrs.map (fun c => if c.uuid = uuid then { c with value := value } else c) = chrs := by
    intro chrs hchrs
    have hchr : ∀ c ∈ chrs, (if c.uuid = uuid then { c with value := value } else c) = c :=
      fun c hc => if_neg (h c (List.mem_flatten.mpr ⟨chrs, hchrs, hc⟩))
    rw [List.map_congr_left hchr, List.map_id']
  rw [setValue, List.map_congr_left hrow, List.map_id']

/-- **One characteristic.** With distinct uuids the first match is the only one. -/
theorem writeFirst_eq_setValue {uuid : List UInt8} (value : List UInt8)
    {table : List (List Chrc)} (hlen : ∀ c ∈ table.flatten, c.uuid.length = 36)
    (hdistinct : (table.flatten.map Chrc.uuid).Nodup) (huuid : ∃ c ∈ table.flatten, c.uuid = uuid) :
    World.writeFirst uuid value table = some (setValue uuid value table) := by
  have hlen36 : uuid.length = 36 := by
    obtain ⟨c, hc, rfl⟩ := huuid
    exact hlen c hc
  have hhas : ∀ c ∈ table.flatten, World.hasUuid uuid c = true ↔ c.uuid = uuid :=
    fun c hc => eqFirst_iff (hlen c hc).le hlen36.le
  induction table with
  | nil => simp at huuid
  | cons chrs rest ih =>
    rw [List.flatten_cons] at hlen hdistinct huuid hhas
    have hfront : ∀ c ∈ chrs, World.hasUuid uuid c = true ↔ c.uuid = uuid :=
      fun c hc => hhas c (List.mem_append_left _ hc)
    rw [List.map_append, List.nodup_append] at hdistinct
    obtain ⟨hnodup, hnodup', hdisjoint⟩ := hdistinct
    rw [World.writeFirst]
    split_ifs with hany
    · -- found in this service, so in no later one
      obtain ⟨c, hc, hcu⟩ := List.any_eq_true.mp hany
      have hrest : setValue uuid value rest = rest := by
        refine setValue_of_ne fun d hd hdu => ?_
        refine hdisjoint _ (List.mem_map_of_mem hc) _ (List.mem_map_of_mem hd) ?_
        rw [(hfront c hc).mp hcu, hdu]
      have hrow : ∀ d ∈ chrs, (if World.hasUuid uuid d = true then { d with value := value } else d)
          = if d.uuid = uuid then { d with value := value } else d :=
        fun d hd => if_congr (hfront d hd) rfl rfl
      rw [FirstMatch.update_eq_map hfront hnodup, List.map_congr_left hrow, setValue, List.map_cons]
      exact congrArg (fun t => some (_ :: t)) hrest.symm
    · -- not here: the service stays as it is, and the search goes on
      have hnone : ∀ c ∈ chrs, c.uuid ≠ uuid := fun c hc hcu =>
        hany (List.any_eq_true.mpr ⟨c, hc, (hfront c hc).mpr hcu⟩)
      have hrow : [chrs] = setValue uuid value [chrs] :=
        (setValue_of_ne (by simpa using hnone)).symm
      obtain ⟨c, hc, hcu⟩ := huuid
      have hc' : c ∈ rest.flatten := (List.mem_append.mp hc).resolve_left fun h => hnone c h hcu
      rw [ih (fun c hc => hlen c (List.mem_append_right _ hc)) hnodup' ⟨c, hc', hcu⟩
        fun c hc => hhas c (List.mem_append_right _ hc)]
      exact congrArg (fun t => some (t :: _)) (List.cons.inj hrow).1

/-- What becomes of one characteristic. -/
theorem flatten_setValue (uuid value : List UInt8) (table : List (List Chrc)) :
    (setValue uuid value table).flatten =
      table.flatten.map fun c => if c.uuid = uuid then { c with value := value } else c :=
  List.map_flatten.symm

theorem setValue_uuid (uuid value : List UInt8) (c : Chrc) :
    (if c.uuid = uuid then { c with value := value } else c).uuid = c.uuid := by
  split_ifs <;> rfl

/-- The value that the characteristic with the uuid has. -/
def valueOf (uuid : List UInt8) (table : List (List Chrc)) : Option (List UInt8) :=
  (table.flatten.find? fun c => c.uuid = uuid).map Chrc.value

theorem valueOf_setValue {uuid : List UInt8} (value : List UInt8) {table : List (List Chrc)}
    (huuid : ∃ c ∈ table.flatten, c.uuid = uuid) :
    valueOf uuid (setValue uuid value table) = some value := by
  obtain ⟨c, hc⟩ : ∃ c, table.flatten.find? (fun c => c.uuid = uuid) = some c := by
    rw [← Option.isSome_iff_exists, List.find?_isSome]
    simpa using huuid
  have hcu : c.uuid = uuid := by simpa using List.find?_some hc
  have hkey : (fun c : Chrc => decide (c.uuid = uuid)) ∘
      (fun c => if c.uuid = uuid then { c with value := value } else c) =
        fun c => decide (c.uuid = uuid) :=
    funext fun c => congrArg (fun u => decide (u = uuid)) (setValue_uuid uuid value c)
  rw [valueOf, flatten_setValue, List.find?_map, hkey, hc, Option.map_some, if_pos hcu]
  rfl

namespace Ready

variable {uuid : Text} {w : World} {m : Memory}

theorem length36 (h : Ready uuid w m) : uuid.1.length = 36 := by
  obtain ⟨c, hc, hcu⟩ := h.registered
  rw [← hcu]
  exact h.uuid_length c hc

/-- What the handler of a notification does: it writes the first 244 bytes of the record. -/
theorem dispatched_table (h : Ready uuid w m) (d : List UInt8) :
    ((Request.gattWriteData uuid d).dispatched w m).table =
      setValue uuid ((memcpy (d.take 512) m.bleCfg.data).take 244) w.table := by
  have hwhole : ((Request.gattWriteData uuid d).store m).damaged = false := by
    simp [Request.store, h.whole, h.length36]
  have huuid : readText w.stray.text (strcpy uuid m.bleCfg.uuid) = uuid :=
    readText_eq (text?_strcpy uuid.2 _) _
  rw [Request.dispatched, Memory.find, hwhole, if_neg Bool.false_ne_true]
  show (w.gattWriteData (readText w.stray.text (strcpy uuid m.bleCfg.uuid))
    (memcpy (d.take 512) m.bleCfg.data)).table = _
  rw [huuid, World.gattWriteData, writeFirst_eq_setValue _ h.uuid_length h.distinct h.registered]

/-- The next notification can be sent too. -/
theorem next (h : Ready uuid w m) (d : List UInt8) :
    Ready uuid { w with table := ((Request.gattWriteData uuid d).dispatched w m).table }
      ((Request.gattWriteData uuid d).store m) := by
  -- the handler changes values only
  have huuids : (setValue uuid ((memcpy (d.take 512) m.bleCfg.data).take 244) w.table).flatten.map
      Chrc.uuid = w.table.flatten.map Chrc.uuid := by
    rw [flatten_setValue, List.map_map]
    exact List.map_congr_left fun c _ => setValue_uuid _ _ c
  have hmem : ∀ u, (∃ c ∈ w.table.flatten, c.uuid = u) ↔
      ∃ c ∈ (setValue uuid ((memcpy (d.take 512) m.bleCfg.data).take 244) w.table).flatten,
        c.uuid = u := by
    intro u
    rw [← List.mem_map, ← List.mem_map, huuids]
  rw [h.dispatched_table]
  refine ⟨?_, ?_, (hmem uuid).mp h.registered, ?_, ?_⟩
  · intro c hc
    obtain ⟨c', hc', hu⟩ := (hmem c.uuid).mpr ⟨c, hc, rfl⟩
    rw [← hu]
    exact h.uuid_length c' hc'
  · rw [huuids]
    exact h.distinct
  · simp [Request.store, h.whole, h.length36]
  · show (memcpy (d.take 512) m.bleCfg.data).length = 512
    rw [memcpy, List.length_append, List.length_drop, h.data_length, List.length_take]
    omega

/-- The 244 bytes are those of the caller, up to 512 of them, exactly if there are 244. -/
theorem written_iff (h : Ready uuid w m) (d : List UInt8) :
    (memcpy (d.take 512) m.bleCfg.data).take 244 = d.take 512 ↔ min d.length 512 = 244 := by
  constructor
  · intro heq
    have hlen := congrArg List.length heq
    rw [List.length_take, memcpy, List.length_append, List.length_drop, h.data_length,
      List.length_take] at hlen
    omega
  · intro hlen
    rw [show 244 = (d.take 512).length by rw [List.length_take]; omega, take_memcpy]

/-- **A notification** gives its characteristic the caller's bytes exactly if there are 244. -/
theorem delivers_iff (h : Ready uuid w m) (d : List UInt8) :
    ((Request.gattWriteData uuid d).dispatched w m).table = setValue uuid (d.take 512) w.table ↔
      min d.length 512 = 244 := by
  rw [h.dispatched_table, ← h.written_iff]
  constructor
  · intro heq
    have hvalue := congrArg (valueOf uuid) heq
    rw [valueOf_setValue _ h.registered, valueOf_setValue _ h.registered] at hvalue
    exact Option.some.inj hvalue
  · intro heq
    rw [heq]

end Ready

/-! ## The chunks of `rk_ble_send_data` -/

/-- The `while` loop, which sends the next `len` bytes of `rk_wifi_list_buf` in each round. -/
def chunkLoop (sendMaxLen : Nat) (buf : List UInt8) : Nat → Nat → Nat → List (List UInt8)
  | 0, _, _ => []
  | rounds + 1, scanrLen, scanrLenUse =>
    if scanrLen = 0 then []
    else
      let len := if scanrLen > sendMaxLen then sendMaxLen else scanrLen
      (buf.drop scanrLenUse).take len ::
        chunkLoop sendMaxLen buf rounds (scanrLen - len) (scanrLenUse + len)

/-- The messages for a text. With a positive `sendMaxLen` there is a round for each byte at
most. -/
def chunks (sendMaxLen : Nat) (buf : List UInt8) : List (List UInt8) :=
  chunkLoop sendMaxLen buf buf.length buf.length 0

theorem chunkLoop_flatten {sendMaxLen : Nat} (hpos : 1 ≤ sendMaxLen) (buf : List UInt8) :
    ∀ rounds scanrLen scanrLenUse, scanrLen ≤ rounds → scanrLenUse + scanrLen = buf.length →
      (chunkLoop sendMaxLen buf rounds scanrLen scanrLenUse).flatten = buf.drop scanrLenUse := by
  intro rounds
  induction rounds with
  | zero =>
    intro scanrLen scanrLenUse hrounds hlen
    rw [List.drop_eq_nil_of_le (by omega)]
    rfl
  | succ rounds ih =>
    intro scanrLen scanrLenUse hrounds hlen
    rw [chunkLoop]
    split_ifs with h0 hmax
    · rw [List.drop_eq_nil_of_le (by omega)]
      rfl
    · rw [List.flatten_cons, ih _ _ (by omega) (by omega), ← List.drop_drop, List.take_append_drop]
    · rw [List.flatten_cons, ih _ _ (by omega) (by omega), ← List.drop_drop, List.take_append_drop]

/-- The messages make up the text. -/
theorem chunks_flatten {sendMaxLen : Nat} (hpos : 1 ≤ sendMaxLen) (text : List UInt8) :
    (chunks sendMaxLen text).flatten = text :=
  chunkLoop_flatten hpos text _ _ 0 (Nat.le_refl _) (Nat.zero_add _)

theorem chunkLoop_length_le (sendMaxLen : Nat) (buf : List UInt8) :
    ∀ rounds scanrLen scanrLenUse, ∀ q ∈ chunkLoop sendMaxLen buf rounds scanrLen scanrLenUse,
      q.length ≤ sendMaxLen := by
  intro rounds
  induction rounds with
  | zero => exact fun _ _ _ hq => nomatch hq
  | succ rounds ih =>
    intro scanrLen scanrLenUse q hq
    rw [chunkLoop] at hq
    split_ifs at hq with h0 hmax
    · cases hq
    all_goals
      rcases List.mem_cons.mp hq with rfl | hq
      · rw [List.length_take]
        omega
      · exact ih _ _ q hq

/-- The values that the characteristic takes when each message is handled before the next one is
sent, as `rk_ble_send_data` waits for the confirmation. -/
def notified (uuid : Text) : World → Memory → List (List UInt8) → List (Option (List UInt8))
  | _, _, [] => []
  | w, m, d :: ds =>
    valueOf uuid ((Request.gattWriteData uuid d).dispatched w m).table ::
      notified uuid { w with table := ((Request.gattWriteData uuid d).dispatched w m).table }
        ((Request.gattWriteData uuid d).store m) ds

/-- The values notified are the messages exactly if every message has 244 bytes. -/
theorem notified_iff {uuid : Text} {ds : List (List UInt8)} (hds : ∀ d ∈ ds, d.length ≤ 512) :
    ∀ {w : World} {m : Memory}, Ready uuid w m →
      (notified uuid w m ds = ds.map some ↔ ∀ d ∈ ds, d.length = 244) := by
  induction ds with
  | nil => simp [notified]
  | cons d ds ih =>
    intro w m h
    obtain ⟨hd, hds⟩ := List.forall_mem_cons.mp hds
    have hfirst : valueOf uuid ((Request.gattWriteData uuid d).dispatched w m).table = some d ↔
        d.length = 244 := by
      have hiff := h.written_iff d
      rw [List.take_of_length_le hd, min_eq_left hd] at hiff
      rw [h.dispatched_table, List.take_of_length_le hd, valueOf_setValue _ h.registered,
        Option.some.injEq, hiff]
    -- the next round starts from the table and the record that this one leaves
    rw [notified, List.map_cons, List.cons.injEq, ih hds (h.next d), hfirst,
      List.forall_mem_cons]

/-- **Notifications carry the caller's bytes if there are 244 of them.** A call of
`rk_ble_send_notify` whose handler runs next sets the characteristic with the uuid, and no other,
to the first 512 bytes of the data at most, exactly if these are 244 bytes. What the loop of
`rk_ble_send_data` notifies are its chunks exactly if each has 244 bytes, and then it is the
text. -/
theorem notify_delivers_iff {uuid : Text} {w : World} {m : Memory} (h : Ready uuid w m)
    (env : CallEnv) :
    (∀ d, ∃ r, (Call.bleSendNotify uuid (some d)).request env = some r ∧
      ((r.dispatched w m).table = setValue uuid (d.take 512) w.table ↔ min d.length 512 = 244)) ∧
    ∀ sendMaxLen, 1 ≤ sendMaxLen → sendMaxLen ≤ 512 → ∀ text,
      (notified uuid w m (chunks sendMaxLen text) = (chunks sendMaxLen text).map some ↔
        ∀ q ∈ chunks sendMaxLen text, q.length = 244) ∧
      ((∀ q ∈ chunks sendMaxLen text, q.length = 244) →
        ((notified uuid w m (chunks sendMaxLen text)).map (·.getD [])).flatten = text) := by
  refine ⟨fun d => ⟨_, rfl, h.delivers_iff d⟩, fun sendMaxLen hpos hmax text => ?_⟩
  have hle : ∀ q ∈ chunks sendMaxLen text, q.length ≤ 512 := fun q hq =>
    Nat.le_trans (chunkLoop_length_le sendMaxLen text _ _ _ q hq) hmax
  have hiff := notified_iff hle h
  refine ⟨hiff, fun h244 => ?_⟩
  rw [hiff.mpr h244, List.map_map]
  have hid : ((fun x : Option (List UInt8) => x.getD []) ∘ some) = id := rfl
  rw [hid, List.map_id, chunks_flatten hpos]

/-- `BLE_UUID_WIFI_CHAR` of rk_ble_app.c. -/
def bleUuidWifiChar : Text := ⟨chars "00009999-0000-1000-8000-00805F9B34FB", by decide⟩

/-- A service with the characteristic of rk_ble_app.c. -/
def World.wifiChar : World := { World.opened with table := [[⟨bleUuidWifiChar, [0]⟩]] }

theorem ready_wifiChar : Ready bleUuidWifiChar World.wifiChar Memory.zero where
  uuid_length := by decide
  distinct := by decide
  registered := by decide
  whole := rfl
  data_length := List.length_replicate

/-- A message of 244 bytes. -/
theorem notify_delivers_iff_full :
    ∃ r, (Call.bleSendNotify bleUuidWifiChar (some (List.replicate 244 7))).request ⟨true, false⟩ =
        some r ∧
      (r.dispatched World.wifiChar Memory.zero).table =
        setValue bleUuidWifiChar ((List.replicate 244 7).take 512) World.wifiChar.table := by
  obtain ⟨r, hr, hiff⟩ :=
    (notify_delivers_iff ready_wifiChar ⟨true, false⟩).1 (List.replicate 244 7)
  exact ⟨r, hr, hiff.mpr (by rw [List.length_replicate]; rfl)⟩

/-- The message `wifi ok` of rk_ble_app.c:71 is notified with 237 bytes of the record behind it. -/
theorem notify_sends_stale :
    valueOf bleUuidWifiChar ((Request.gattWriteData bleUuidWifiChar (chars "wifi ok")).dispatched
        World.wifiChar Memory.zero).table = some (chars "wifi ok" ++ List.replicate 237 0) ∧
      ((Request.gattWriteData bleUuidWifiChar (chars "wifi ok")).dispatched
        World.wifiChar Memory.zero).table ≠
          setValue bleUuidWifiChar ((chars "wifi ok").take 512) World.wifiChar.table := by
  constructor
  · have hdrop : memcpy ((chars "wifi ok").take 512) Memory.zero.bleCfg.data =
        chars "wifi ok" ++ List.replicate 505 0 := by
      rw [memcpy, show Memory.zero.bleCfg.data = List.replicate 512 0 from rfl, List.drop_replicate]
      rfl
    rw [ready_wifiChar.dispatched_table, valueOf_setValue _ ready_wifiChar.registered, hdrop,
      List.take_append, List.take_replicate]
    rfl
  · intro heq
    exact absurd ((ready_wifiChar.delivers_iff _).mp heq) (by decide)

/-! ## Client writes -/

/-- What the platform decides: whether plain `char` is signed, and the size of `size_t`. -/
structure Abi where
  charSigned : Bool
  sizeBits : Nat
  enough : 32 ≤ sizeBits

namespace Abi

/-- A `char` as an `int`. -/
def char (abi : Abi) (b : UInt8) : Int :=
  if abi.charSigned ∧ 128 ≤ b.toNat then b.toNat - 256 else b.toNat

/-- The largest value of a `char`. -/
def charMax (abi : Abi) : Nat := if abi.charSigned then 127 else 255

/-- An `int` as a `size_t`. -/
def sizeT (abi : Abi) (n : Int) : Nat := (n % 2 ^ abi.sizeBits).toNat

theorem sizeT_natCast (abi : Abi) {n : Nat} (h : n < 2 ^ 32) : abi.sizeT n = n := by
  have hpow : 2 ^ 32 ≤ 2 ^ abi.sizeBits := Nat.pow_le_pow_right (by decide) abi.enough
  have hlt : (n : Int) < 2 ^ abi.sizeBits := by exact_mod_cast Nat.lt_of_lt_of_le h hpow
  rw [sizeT, Int.emod_eq_of_lt (Int.natCast_nonneg n) hlt, Int.toNat_natCast]

/-- A number that is read back from a `char` in the same size was small enough. -/
theorem char_ofNat_eq_iff (abi : Abi) (n : Nat) :
    abi.char (UInt8.ofNat n) = n ↔ n ≤ abi.charMax := by
  rw [char, charMax, UInt8.toNat_ofNat']
  cases abi.charSigned with
  | false =>
    simp only [Bool.false_eq_true, false_and, if_false]
    omega
  | true =>
    simp only [true_and, if_true]
    split_ifs <;> omega

end Abi

/-- What `gatt_client_write` does: the places of `rk_gatt_data` that it reads, the places of its
`data[512]` that it writes, and what `gatt_write_attribute` receives, if it is called: the
attribute, `data_len` and that many bytes of `data`. -/
structure ClientWrite where
  reads : List Memory.Span
  writes : List Memory.Span
  received : Option (Option Proxy × Int × List UInt8)

/-- `gatt_client_write` (gatt_client.c:110-137). -/
def gattClientWrite (abi : Abi) (w : World) (m : Memory) (uuid : List UInt8) : ClientWrite :=
  let dataLen := abi.char (m.rkGattData.head?.getD 0)
  let r := State.clientOperation .write w.state uuid w.routineFails
  { reads := [⟨0, 1⟩, ⟨1, abi.sizeT dataLen⟩]
    writes := [⟨0, abi.sizeT dataLen⟩]
    received := r.routine.map fun attr =>
      (attr, dataLen, (m.rkGattData.drop 1).take dataLen.toNat) }

/-- With an unsigned `char` this is what the handler of the queue passes on. -/
theorem gattClient_effects {abi : Abi} (h : abi.charSigned = false) (w : World) (m : Memory)
    (uuid : List UInt8) :
    (w.gattClient .write uuid m.clientData).effects.filter
        (fun e => match e with | .routine .. => true | _ => false) =
      (gattClientWrite abi w m uuid).received.toList.map fun x => .routine .write x.1 x.2.2 := by
  have hchar : (abi.char (m.rkGattData.head?.getD 0)).toNat =
      (m.rkGattData.head?.getD 0).toNat := by
    simp [Abi.char, h]
  rw [World.gattClient, gattClientWrite, hchar]
  cases (State.clientOperation .write w.state uuid w.routineFails).routine <;>
    cases (State.clientOperation .write w.state uuid w.routineFails).message <;> rfl

/-- What `rk_ble_client_write` writes to `rk_gatt_data` (bt_hal.c:169-170). -/
def clientWriteStores (data : List UInt8) : List Memory.Span := [⟨0, 1⟩, ⟨1, data.length⟩]

/-- The uuid that the handler finds: `gatt_client_uuid` has 36 bytes, and what stands behind them
is read as well if there is no NUL. -/
def foundUuid (w : World) (uuid : Text) : Text := readText w.stray.text (strncpy 36 uuid)

theorem foundUuid_eq {uuid : Text} (h : uuid.1.length ≤ 35) (w : World) :
    foundUuid w uuid = uuid :=
  readText_eq (text?_strncpy uuid.2 (Nat.lt_succ_of_le h)) _

/-- The write as it should be: the routine gets the caller's bytes, and both buffers are kept
to. -/
structure WriteDelivered (abi : Abi) (w : World) (m : Memory) (uuid : Text) (d : List UInt8) :
    Prop where
  received : ∃ attr, (gattClientWrite abi w ((Request.gattClientWrite uuid d).store m)
    (foundUuid w uuid)).received = some (attr, (d.length : Int), d)
  stores : ∀ s ∈ clientWriteStores d, s.Below 513
  reads : ∀ s ∈ (gattClientWrite abi w ((Request.gattClientWrite uuid d).store m)
    (foundUuid w uuid)).reads, s.Below 513
  writes : ∀ s ∈ (gattClientWrite abi w ((Request.gattClientWrite uuid d).store m)
    (foundUuid w uuid)).writes, s.Below 512

/-- The routine is called if the uuid names an attribute. -/
theorem clientOperation_routine (op : ClientOp) (s : State) (uuid : List UInt8) (failed : Bool) :
    (∃ attr, (State.clientOperation op s uuid failed).routine = some attr) ↔
      s.gattSelectAttribute uuid ≠ none := by
  rw [State.clientOperation, State.gattClientSelectAttribute]
  cases s.gattSelectAttribute uuid with
  | none => simp
  | some a => simp

/-- The handler finds the number in the first byte and the data behind it. -/
theorem received_store (abi : Abi) (w : World) (m : Memory) (uuid : Text) (d found : List UInt8) :
    (gattClientWrite abi w ((Request.gattClientWrite uuid d).store m) found).received =
      (State.clientOperation .write w.state found w.routineFails).routine.map fun attr =>
        (attr, abi.char (UInt8.ofNat d.length),
          (d ++ m.rkGattData.drop (d.length + 1)).take (abi.char (UInt8.ofNat d.length)).toNat) :=
  rfl

/-- **Client writes deliver what a `char` can count.** A write of up to 512 bytes reaches the
attribute as it is, and inside the buffers, exactly if the number of bytes is a value of `char`
and the uuid that the handler finds names an attribute. -/
theorem client_write_delivers_iff (abi : Abi) (w : World) (m : Memory) (uuid : Text)
    {d : List UInt8} (hd : d.length ≤ 512) :
    WriteDelivered abi w m uuid d ↔
      d.length ≤ abi.charMax ∧ w.state.gattSelectAttribute (foundUuid w uuid) ≠ none := by
  rw [← abi.char_ofNat_eq_iff, ← clientOperation_routine .write w.state _ w.routineFails]
  constructor
  · -- the number alone decides: it has to survive the way through the `char`
    rintro ⟨⟨attr, hattr⟩, -, -, -⟩
    rw [received_store, Option.map_eq_some_iff] at hattr
    obtain ⟨attr', hroutine, htuple⟩ := hattr
    exact ⟨congrArg (fun x => x.2.1) htuple, attr', hroutine⟩
  · rintro ⟨hchar, attr, hroutine⟩
    have hsize : abi.sizeT (abi.char (UInt8.ofNat d.length)) = d.length := by
      rw [hchar]
      exact abi.sizeT_natCast (by omega)
    refine ⟨⟨attr, ?_⟩, ?_, ?_, ?_⟩
    · rw [received_store, hroutine, Option.map_some, hchar, Int.toNat_natCast, List.take_left]
    · simp only [clientWriteStores, List.forall_mem_cons, Memory.Span.Below]
      exact ⟨by omega, by omega, nofun⟩
    · show ∀ s ∈ [Memory.Span.mk 0 1, ⟨1, abi.sizeT (abi.char (UInt8.ofNat d.length))⟩], s.Below 513
      rw [hsize]
      simp only [List.forall_mem_cons, Memory.Span.Below]
      exact ⟨by omega, by omega, nofun⟩
    · show ∀ s ∈ [Memory.Span.mk 0 (abi.sizeT (abi.char (UInt8.ofNat d.length)))], s.Below 512
      rw [hsize]
      simp only [List.forall_mem_cons, Memory.Span.Below]
      exact ⟨by omega, nofun⟩

/-- A device with one characteristic, which is named by its object path. -/
def World.remoteChar : World :=
  { World.opened with state := { State.opened with
      defaultDev := some 2
      characteristics := [⟨1, chars "/org/bluez/hci0/dev/char", none, none⟩] } }

/-- The path of a characteristic. -/
def remoteCharPath : Text := ⟨chars "/org/bluez/hci0/dev/char", by decide⟩

theorem select_remoteChar :
    World.remoteChar.state.gattSelectAttribute (foundUuid World.remoteChar remoteCharPath) ≠
      none := by
  rw [foundUuid_eq (by decide)]
  decide

/-- Where `char` is unsigned, 255 bytes are delivered. -/
theorem client_write_delivers_iff_full :
    WriteDelivered ⟨false, 64, by decide⟩ World.remoteChar Memory.zero remoteCharPath
      (List.replicate 255 7) := by
  refine (client_write_delivers_iff _ _ _ _ ?_).mpr ⟨?_, select_remoteChar⟩
  · rw [List.length_replicate]
    decide
  · rw [List.length_replicate]
    decide

/-- Of 256 bytes none is delivered, whatever kind `char` is: the number becomes 0. -/
theorem client_write_loses :
    World.remoteChar.state.gattSelectAttribute remoteCharPath ≠ none ∧
      ∀ abi : Abi, (gattClientWrite abi World.remoteChar ((Request.gattClientWrite remoteCharPath
        (List.replicate 256 7)).store Memory.zero) remoteCharPath).received =
          some (some 1, 0, []) := by
  refine ⟨by decide, fun abi => ?_⟩
  have hzero : abi.char (UInt8.ofNat 256) = 0 := by simp [Abi.char]
  rw [received_store, List.length_replicate, hzero]
  rfl

end ConnectApp.Bluez
