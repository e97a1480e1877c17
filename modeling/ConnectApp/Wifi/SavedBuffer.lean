import ConnectApp.Lib.CBuffer
import ConnectApp.Lib.Memory
import ConnectApp.Wifi.SavedColumn

/-!
# The records of the saved networks in memory (Rk_wifi.c:455-669, Rk_wifi.h:49-55)

`RK_wifi_getSavedInfo` fills an array of `RK_WIFI_SAVED_INFO_s` row by row, with one `strncpy`
for each character field. Its bound is the length of the source for `ssid` and `key_mgmt`, and
the whole field for `bssid` and `state`, so a field can be overrun or left without a NUL.

- `place`: where the fields of a record lie. A record takes 196 bytes, three of them behind its
  last field.
- `row_record`: after a row whose texts fit, each field holds the text that `savedRecord` has for
  it, and zeros behind it.
- `row_confined_iff`: a row stays in the fields of its record and ends each text exactly if
  `FitsRecord` holds of the four texts. For networks with one flag that is up to `key_mgmt` alone.
- `keyClear_before`: no earlier row reaches the `key_mgmt` of a record, the one field that is not
  cleared again when its row is processed.

What `spec_char_convers` does to its own `buf_temp` is not looked at here (`convers_safe_iff`):
the name of a row is the text that it leaves in `sname`, also if it has written past `buf_temp`.
-/

namespace ConnectApp.Wifi

open CString TextTools ConnectApp.Utility Memory

/-! ## The record -/

/-- The fields of `RK_WIFI_SAVED_INFO_s`. -/
inductive SavedField
  | id
  | bssid
  | ssid
  | state
  | keyMgmt
  deriving DecidableEq

namespace SavedField

/-- The offset of a field. -/
def pos : SavedField → Nat
  | id => 0
  | bssid => 4
  | ssid => 24
  | state => 153
  | keyMgmt => 173

/-- The size of the field. -/
def size : SavedField → Nat
  | id => 4
  | bssid => 20
  | ssid => 129
  | state => 20
  | keyMgmt => 20

/-- The order in which a row writes the fields. -/
def order : List SavedField := [id, state, bssid, ssid, keyMgmt]

theorem mem_order (f : SavedField) : f ∈ order := by
  cases f <;> decide

theorem nodup_order : order.Nodup := by
  decide

theorem size_pos (f : SavedField) : 0 < f.size := by
  cases f <;> decide

end SavedField

/-- Where a field of record `i` begins. -/
def place (i : Nat) (f : SavedField) : Nat := 196 * i + f.pos

theorem place_disjoint (i : Nat) {f g : SavedField} (h : f ≠ g) :
    place i f + f.size ≤ place i g ∨ place i g + g.size ≤ place i f := by
  have hpos : f.pos + f.size ≤ g.pos ∨ g.pos + g.size ≤ f.pos := by
    revert h
    cases f <;> cases g <;> decide
  unfold place
  omega

/-- Everything the store writes lies in the field `f` of record `i`. -/
def InField (i : Nat) (f : SavedField) (s : Store UInt8) : Prop :=
  s.Inside (place i f) (place i f + f.size)

/-! ## The conversions of the ssid -/

/-- Where `spec_char_convers` keeps to its buffers, this is the decoding of the records. -/
theorem decodeZeroed_eq {gbk : List GbkEntry} {str o : List UInt8}
    (h : decodeSsid gbk str = some o) : decodeZeroed gbk str = o := by
  rw [decodeSsid] at h
  split_ifs at h
  exact Option.some.inj h

/-- A name from the list is short; any other is no longer than its column and has no NUL. -/
theorem decodeZeroed_cases {gbk : List GbkEntry} (hgbk : Inserted gbk) (str : List UInt8) :
    (decodeZeroed gbk str).length < 128 ∨
      (decodeZeroed gbk str).length ≤ str.length ∧ 0 ∉ decodeZeroed gbk str := by
  rw [decodeZeroed]
  rcases hgbk.getEncodeGbkUtf8_cases (zeroedName str) with h | h
  · exact .inl h.2
  · rw [h]
    refine .inr ⟨?_, zero_not_mem_cstr _⟩
    calc (zeroedName str).length
        ≤ (specCharZeroed (removeEscapeCharacter str)).length := (cstr_sublist _).length_le
      _ ≤ (removeEscapeCharacter str).length := specCharZeroed_length_le _
      _ ≤ str.length := (removeEscape_sublist str).length_le

/-- The name is the decoding of some captured text, unless the bssid is not found. -/
theorem ssidWith_cases {decode : List UInt8 → Option (List UInt8)} {file state bssid o : List UInt8}
    {row : Nat} {id columns : Int} (h : ssidWith decode file row id state bssid columns = some o) :
    o = [] ∨ ∃ str, str.length ≤ 255 ∧ decode str = some o := by
  have hcap : ∀ t, (execCommand t 256).length ≤ 255 := by
    intro t
    rw [execCommand_eq]
    exact List.length_take_le 255 t
  unfold ssidWith at h
  split at h
  · refine .inr ⟨_, ?_, h⟩
    have := hcap (sedLine (row - 1) (awkPrint (awkField 2) file))
    unfold captureRow
    rw [List.length_dropLast]
    omega
  · have hlen := hcap (sedLine (row - 1) file)
    revert h
    generalize execCommand (sedLine (row - 1) file) 256 = str at hlen
    intro h
    cases hfin : strstr bssid str with
    | none =>
      simp only [hfin] at h
      exact .inl (Option.some.inj h).symm
    | some fin =>
      simp only [hfin] at h
      split_ifs at h
      refine .inr ⟨_, ?_, h⟩
      refine (rkPropertyTrim_sublist _).length_le.trans ?_
      rw [List.length_take, List.length_drop]
      omega

theorem ssidWith_mono {decode decode' : List UInt8 → Option (List UInt8)}
    (hdecode : ∀ str o, decode str = some o → decode' str = some o) {file state bssid o : List UInt8}
    {row : Nat} {id columns : Int} (h : ssidWith decode file row id state bssid columns = some o) :
    ssidWith decode' file row id state bssid columns = some o := by
  unfold ssidWith at h ⊢
  split
  · next hdirect =>
    rw [if_pos hdirect] at h
    exact hdecode _ _ h
  · next hdirect =>
    rw [if_neg hdirect] at h
    cases hfin : strstr bssid (execCommand (sedLine (row - 1) file) 256) with
    | none =>
      simp only [hfin] at h ⊢
      exact h
    | some fin =>
      simp only [hfin] at h ⊢
      split_ifs at h ⊢
      exact hdecode _ _ h

/-! ## The stores of one row -/

/-- What `strncpy(buf, str, ((strlen(str) - 1) > len) ? len : (strlen(str) - 1))` writes; the
subtraction wraps around for an empty `str`, and `strncpy` pads. -/
def copyFieldBytes (str : List UInt8) (len : Nat) : List UInt8 :=
  if str = [] then List.replicate len 0 else copyField str len

theorem copyFieldBytes_eq (str : List UInt8) (len : Nat) : ∃ k,
    copyFieldBytes str len = copyField str len ++ List.replicate k 0 ∧
      (copyFieldBytes str len).length ≤ len := by
  unfold copyFieldBytes
  split_ifs with hnil
  · exact ⟨len, by simp [hnil, copyField], by simp⟩
  · refine ⟨0, by simp, ?_⟩
    unfold copyField
    rw [List.length_take]
    omega

/-- The bytes of an `int`, the lowest first. -/
def intBytes (z : Int) : List UInt8 :=
  (List.range 4).map fun k => UInt8.ofNat ((z % 2 ^ 32).toNat / 2 ^ (8 * k))

/-- The bytes of a record's fields. -/
def SavedInfo.field (info : SavedInfo) : SavedField → List UInt8
  | .id => intBytes info.id
  | .bssid => info.bssid
  | .ssid => info.ssid
  | .state => info.state
  | .keyMgmt => info.keyMgmt

section

variable (file : List UInt8) (gbk : List GbkEntry) (replies : NetworkReplies) (i : Nat)

/-- Row `i + 2` of the file, whose record is `i`: the number of its words. -/
def rowColumns : Int := getColumnsFromListNetwork file (i + 2)

/-- The id in row `i`. -/
def rowId : Int := getIdFromListNetwork file (i + 2)

/-- The flags in row `i`. -/
def rowState : List UInt8 := getFlagsFromListNetwork file (i + 2) (rowColumns file i)

/-- The bssid in row `i`. -/
def rowBssid : List UInt8 :=
  getBssidFromListNetwork file (i + 2) (rowState file i) (rowColumns file i)

/-- The name that is copied into `info->ssid`; `none` if the length of the column is negative. -/
def rowSsid : Option (List UInt8) :=
  ssidWith (fun str => some (decodeZeroed gbk str)) file (i + 2) (rowId file i) (rowState file i)
    (rowBssid file i) (rowColumns file i)

/-- What is captured of the answer for `key_mgmt`. -/
def rowKey : List UInt8 := execCommand (replies.keyMgmt (rowId file i)) 128

/-- The stores into one field of record `i`. -/
def fieldStores (ssid : List UInt8) : SavedField → List (Store UInt8)
  | .id => [⟨place i .id, intBytes (rowId file i)⟩]
  | .state =>
    let str := captureRow file (i + 2) (awkField (rowColumns file i).toNat) 128
    memset (place i .state) 0 20 ::
      if chars "[CURRENT]" <+: str ∨ chars "[DISABLED]" <+: str ∨ chars "[TEMP-DISABLED]" <+: str
      then [⟨place i .state, copyFieldBytes str 20⟩]
      else []
  | .bssid =>
    let column := if 0 < (rowState file i).length then rowColumns file i - 1 else rowColumns file i
    [memset (place i .bssid) 0 20,
      ⟨place i .bssid, copyFieldBytes (captureRow file (i + 2) (awkField column.toNat) 128) 20⟩]
  | .ssid => [memset (place i .ssid) 0 129, ⟨place i .ssid, ssid⟩]
  | .keyMgmt =>
    let wep := execCommand (replies.wepKey0 (rowId file i)) 128
    ⟨place i .keyMgmt, rowKey file replies i⟩ ::
      if wep ≠ [] ∧ ¬ chars "FAIL" <+: wep then [⟨place i .keyMgmt, chars "WEP"⟩] else []

/-- The stores of one round of the loop. -/
def rowStores (ssid : List UInt8) : List (Store UInt8) :=
  SavedField.order.flatMap (fieldStores file replies i ssid)

/-- The record that a row stands for. -/
def rowInfo (ssid : List UInt8) : SavedInfo :=
  ⟨rowId file i, rowBssid file i, ssid, rowState file i, keyMgmtText replies (rowId file i)⟩

/-- The text a row is to leave in a field. -/
def fieldText (ssid : List UInt8) (f : SavedField) : List UInt8 :=
  (rowInfo file replies i ssid).field f

/-- `key_mgmt` of record `i` is still as the `memset` of the array has left it. -/
def KeyClear (m : Nat → UInt8) : Prop := Padded 0 m (place i .keyMgmt) 20 []

/-- The row writes only inside the fields of its record, and leaves a NUL in each of the four
character fields. -/
def RowConfined : Prop :=
  ∃ ssid, rowSsid file gbk i = some ssid ∧
    (∀ s ∈ rowStores file replies i ssid, ∃ f, InField i f s) ∧
    ∀ m, KeyClear i m → ∀ f, f ≠ .id →
      ∃ j, j < f.size ∧ run (rowStores file replies i ssid) m (place i f + j) = 0

/-- The four texts, each with a NUL, are no longer than their fields. -/
structure FitsRecord (ssid : List UInt8) : Prop where
  state : (rowState file i).length < 20
  bssid : (rowBssid file i).length < 20
  ssid : ssid.length < 129
  keyMgmt : (rowKey file replies i).length < 20

end

/-! ## Each field -/

section

variable {file : List UInt8} {gbk : List GbkEntry} {replies : NetworkReplies} {i : Nat}
  {ssid : List UInt8}

theorem fieldStores_pos (f : SavedField) :
    ∀ s ∈ fieldStores file replies i ssid f, s.pos = place i f := by
  cases f with
  | id => simp [fieldStores]
  | state =>
    simp only [fieldStores, List.forall_mem_cons]
    refine ⟨rfl, ?_⟩
    split <;> simp
  | bssid => simp [fieldStores, memset]
  | ssid => simp [fieldStores, memset]
  | keyMgmt =>
    simp only [fieldStores, List.forall_mem_cons]
    refine ⟨trivial, ?_⟩
    split <;> simp

/-- A store at the start of a field is in the field if it is not longer. -/
theorem inField_iff {f : SavedField} {s : Store UInt8} (hpos : s.pos = place i f) :
    InField i f s ↔ s.bytes.length ≤ f.size := by
  unfold InField Store.Inside
  rw [hpos]
  constructor
  · rintro (hnil | ⟨-, hend⟩)
    · rw [hnil]
      exact Nat.zero_le _
    · omega
  · exact fun h => .inr ⟨Nat.le_refl _, by omega⟩

/-- A store at the start of a field is in no other field. -/
theorem inField_of_any {f g : SavedField} {s : Store UInt8} (hpos : s.pos = place i f)
    (h : InField i g s) : InField i f s := by
  by_cases hfg : f = g
  · rwa [hfg]
  rcases h with hnil | ⟨hlo, hhi⟩
  · exact .inl hnil
  · have := place_disjoint i hfg
    have := f.size_pos
    by_cases hlen : s.bytes.length = 0
    · exact .inl (List.length_eq_zero_iff.mp hlen)
    · omega

/-- Only the name and the key can be longer than their fields. -/
theorem fieldStores_bytes (f : SavedField) : ∀ s ∈ fieldStores file replies i ssid f,
    s.bytes.length ≤ f.size ∨ (f = .ssid ∧ s.bytes = ssid) ∨
      (f = .keyMgmt ∧ s.bytes = rowKey file replies i) := by
  have hcopy : ∀ str, (copyFieldBytes str 20).length ≤ 20 := fun str =>
    (copyFieldBytes_eq str 20).choose_spec.2
  have hclear : ∀ p n, (memset p (0 : UInt8) n).bytes.length ≤ n := fun p n =>
    (List.length_replicate).le
  cases f with
  | id => exact List.forall_mem_singleton.mpr (.inl (by simp [intBytes, SavedField.size]))
  | state =>
    refine List.forall_mem_cons.mpr ⟨.inl (hclear _ 20), ?_⟩
    split
    · exact List.forall_mem_singleton.mpr (.inl (hcopy _))
    · exact fun s hs => nomatch hs
  | bssid =>
    exact List.forall_mem_cons.mpr
      ⟨.inl (hclear _ 20), List.forall_mem_singleton.mpr (.inl (hcopy _))⟩
  | ssid =>
    exact List.forall_mem_cons.mpr
      ⟨.inl (hclear _ 129), List.forall_mem_singleton.mpr (.inr (.inl ⟨rfl, rfl⟩))⟩
  | keyMgmt =>
    refine List.forall_mem_cons.mpr ⟨.inr (.inr ⟨rfl, rfl⟩), ?_⟩
    split
    · exact List.forall_mem_singleton.mpr (.inl (by show (chars "WEP").length ≤ 20; decide))
    · exact fun s hs => nomatch hs

theorem inField_stores_iff : (∀ f, ∀ s ∈ fieldStores file replies i ssid f, InField i f s) ↔
    ssid.length ≤ 129 ∧ (rowKey file replies i).length ≤ 20 := by
  constructor
  · intro h
    constructor
    · exact (inField_iff rfl).mp (h .ssid ⟨place i .ssid, ssid⟩ (by simp [fieldStores]))
    · exact (inField_iff rfl).mp
        (h .keyMgmt ⟨place i .keyMgmt, rowKey file replies i⟩ List.mem_cons_self)
  · rintro ⟨hssid, hkey⟩ f s hs
    rw [inField_iff (fieldStores_pos f s hs)]
    rcases fieldStores_bytes f s hs with hsize | ⟨rfl, hbytes⟩ | ⟨rfl, hbytes⟩
    · exact hsize
    · rw [hbytes]
      exact hssid
    · rw [hbytes]
      exact hkey

/-- `strncpy` into a field that was cleared right before. -/
theorem padded_copyField {m : Nat → UInt8} {p : Nat} (str : List UInt8)
    (h : Padded 0 m p 20 []) :
    Padded 0 ((Store.mk p (copyFieldBytes str 20)).apply m) p 20 (copyField str 20) := by
  obtain ⟨k, heq, hlen⟩ := copyFieldBytes_eq str 20
  have hover := h.overwrite hlen
  rw [List.drop_nil, List.append_nil, heq] at hover
  rw [heq]
  exact hover.trim

/-- **One field.** Its own stores leave its text in it. -/
theorem field_padded (hssid : ssid.length ≤ 129) (hkey : (rowKey file replies i).length ≤ 20)
    {m : Nat → UInt8} (hm : KeyClear i m) {f : SavedField} (hf : f ≠ .id) :
    Padded 0 (run (fieldStores file replies i ssid f) m) (place i f) f.size
      (fieldText file replies i ssid f) := by
  cases f with
  | id => exact absurd rfl hf
  | state =>
    have hclear := Padded.of_memset 0 m (place i .state) 20
    simp only [fieldStores, fieldText, SavedInfo.field, rowInfo, rowState, getFlagsFromListNetwork]
    split
    · exact padded_copyField _ hclear
    · exact hclear
  | bssid => exact padded_copyField _ (Padded.of_memset 0 m (place i .bssid) 20)
  | ssid =>
    have hover := (Padded.of_memset 0 m (place i .ssid) 129).overwrite hssid
    rwa [List.drop_nil, List.append_nil] at hover
  | keyMgmt =>
    have hover := Padded.overwrite hm hkey
    rw [List.drop_nil, List.append_nil] at hover
    simp only [fieldStores, fieldText, SavedInfo.field, rowInfo, keyMgmtText]
    split
    · exact hover.overwrite (by decide : (chars "WEP").length ≤ 20)
    · exact hover

/-- **One row.** If the name and the key are not longer than their fields, each field holds its
text, and zeros behind it. -/
theorem row_padded (hssid : ssid.length ≤ 129) (hkey : (rowKey file replies i).length ≤ 20)
    {m : Nat → UInt8} (hm : KeyClear i m) {f : SavedField} (hf : f ≠ .id) :
    Padded 0 (run (rowStores file replies i ssid) m) (place i f) f.size
      (fieldText file replies i ssid f) := by
  have hin := inField_stores_iff.mpr ⟨hssid, hkey⟩
  refine (field_padded hssid hkey hm hf).congr fun j hj => ?_
  refine run_groups SavedField.nodup_order f.mem_order (fun g _ _ => hin g) (fun g _ hg => ?_) m
  have := place_disjoint i hg
  omega

/-- **Refinement.** In memory the row leaves the record that `savedRecord` returns. -/
theorem row_record {info : SavedInfo} (h : savedRecord file (i + 2) gbk replies = some info)
    (hssid : info.ssid.length ≤ 129) (hkey : (rowKey file replies i).length ≤ 20)
    {m : Nat → UInt8} (hm : KeyClear i m) :
    ∃ ssid, rowSsid file gbk i = some ssid ∧ ∀ f, f ≠ .id →
      Padded 0 (run (rowStores file replies i ssid) m) (place i f) f.size (info.field f) := by
  obtain ⟨ssid, hrow, rfl⟩ := Option.map_eq_some_iff.mp h
  rw [getSsid_eq_with] at hrow
  exact ⟨ssid, ssidWith_mono (fun str o ho => congrArg some (decodeZeroed_eq ho)) hrow,
    fun f hf => row_padded hssid hkey hm hf⟩

/-! ## Which rows are confined -/

theorem keyMgmtText_length_lt_iff (id : Int) : (keyMgmtText replies id).length < 20 ↔
    (execCommand (replies.keyMgmt id) 128).length < 20 := by
  have hwep : (chars "WEP").length = 3 := by decide
  unfold keyMgmtText
  simp only
  split_ifs
  · rw [List.length_append, List.length_drop, hwep]
    omega
  · exact Iff.rfl

theorem fitsRecord_iff : FitsRecord file replies i ssid ↔
    ∀ f, f ≠ .id → (fieldText file replies i ssid f).length < f.size := by
  have hkey := @keyMgmtText_length_lt_iff replies (rowId file i)
  constructor
  · rintro ⟨hstate, hbssid, hssid, hkeyMgmt⟩ f hf
    cases f with
    | id => exact absurd rfl hf
    | state => exact hstate
    | bssid => exact hbssid
    | ssid => exact hssid
    | keyMgmt => exact hkey.mpr hkeyMgmt
  · intro h
    exact ⟨h .state (by decide), h .bssid (by decide), h .ssid (by decide),
      hkey.mp (h .keyMgmt (by decide))⟩

theorem FitsRecord.confined (hssid : rowSsid file gbk i = some ssid)
    (h : FitsRecord file replies i ssid) : RowConfined file gbk replies i := by
  have hlen : ssid.length ≤ 129 ∧ (rowKey file replies i).length ≤ 20 :=
    ⟨h.ssid.le, h.keyMgmt.le⟩
  refine ⟨ssid, hssid, fun s hs => ?_, fun m hm f hf => ?_⟩
  · obtain ⟨f, -, hs⟩ := List.mem_flatMap.mp hs
    exact ⟨f, inField_stores_iff.mpr hlen f s hs⟩
  · have hlt := fitsRecord_iff.mp h f hf
    exact ⟨_, hlt, (row_padded hlen.1 hlen.2 hm hf).rest _ (Nat.le_refl _) hlt⟩

/-- In a confined row a text without NUL is shorter than its field. -/
theorem RowConfined.lengths (h : RowConfined file gbk replies i) :
    ∃ ssid, rowSsid file gbk i = some ssid ∧
      ∀ f, f ≠ .id → 0 ∉ fieldText file replies i ssid f →
        (fieldText file replies i ssid f).length < f.size := by
  obtain ⟨ssid, hssid, hin, hend⟩ := h
  have hlen : ssid.length ≤ 129 ∧ (rowKey file replies i).length ≤ 20 := by
    refine inField_stores_iff.mp fun f s hs => ?_
    obtain ⟨g, hg⟩ := hin s (List.mem_flatMap.mpr ⟨f, f.mem_order, hs⟩)
    exact inField_of_any (fieldStores_pos f s hs) hg
  refine ⟨ssid, hssid, fun f hf hnul => ?_⟩
  have hclear : KeyClear i fun _ => 0 := ⟨Nat.zero_le _, shows_nil _ _, fun _ _ _ => rfl⟩
  exact ((row_padded hlen.1 hlen.2 hclear hf).ends_iff hnul).mp (hend _ hclear f hf)

theorem zero_not_mem_captureRow (hfile : 0 ∉ file) (row k len : Nat) :
    0 ∉ captureRow file row (awkField k) len := by
  intro h0
  rw [captureRow, execCommand_eq] at h0
  rcases mem_of_mem_sedLine (List.mem_of_mem_take h0) with h | h
  · cases h
  · rcases mem_of_mem_awkPrint h with h | h
    · cases h
    · exact hfile h

theorem zero_not_mem_key (hreply : ∀ id, 0 ∉ replies.keyMgmt id) (id : Int) :
    0 ∉ keyMgmtText replies id := by
  have hstr : 0 ∉ execCommand (replies.keyMgmt id) 128 := by
    rw [execCommand_eq]
    exact fun h0 => hreply id (List.mem_of_mem_take h0)
  unfold keyMgmtText
  simp only
  split_ifs
  · rw [List.mem_append, not_or]
    exact ⟨by decide, fun h0 => hstr (List.mem_of_mem_drop h0)⟩
  · exact hstr

theorem rowSsid_cases (hgbk : Inserted gbk) (h : rowSsid file gbk i = some ssid) :
    ssid.length < 128 ∨ ssid.length ≤ 255 ∧ 0 ∉ ssid := by
  rcases ssidWith_cases h with rfl | ⟨str, hstr, hdecode⟩
  · exact .inl (by decide)
  · obtain rfl := Option.some.inj hdecode
    rcases decodeZeroed_cases hgbk str with hshort | ⟨hlen, hnul⟩
    · exact .inl hshort
    · exact .inr ⟨hlen.trans hstr, hnul⟩

/-- **Any file.** -/
theorem row_confined_iff (hfile : 0 ∉ file) (hgbk : Inserted gbk)
    (hreply : ∀ id, 0 ∉ replies.keyMgmt id) :
    RowConfined file gbk replies i ↔
      ∃ ssid, rowSsid file gbk i = some ssid ∧ FitsRecord file replies i ssid := by
  constructor
  · intro h
    obtain ⟨ssid, hssid, hlt⟩ := h.lengths
    refine ⟨ssid, hssid, fitsRecord_iff.mpr fun f hf => ?_⟩
    have hcopy : ∀ k, 0 ∉ copyField (captureRow file (i + 2) (awkField k) 128) 20 := fun k h0 =>
      zero_not_mem_captureRow hfile (i + 2) k 128 (List.mem_of_mem_take h0)
    cases f with
    | id => exact absurd rfl hf
    | state =>
      refine hlt _ hf ?_
      show 0 ∉ getFlagsFromListNetwork file (i + 2) (rowColumns file i)
      unfold getFlagsFromListNetwork
      simp only
      split_ifs
      · exact hcopy _
      · exact List.not_mem_nil
    | bssid => exact hlt _ hf (hcopy _)
    | ssid =>
      rcases rowSsid_cases hgbk hssid with hshort | ⟨-, hnul⟩
      · exact Nat.lt_succ_of_lt hshort
      · exact hlt .ssid hf hnul
    | keyMgmt => exact hlt _ hf (zero_not_mem_key hreply _)
  · rintro ⟨ssid, hssid, hfits⟩
    exact hfits.confined hssid

end

/-! ## Lists of networks -/

section

variable {L : SavedList} {n : SavedNet} {i : Nat} {gbk : List GbkEntry} {replies : NetworkReplies}

/-- The three columns of a row fit into their fields. -/
theorem fitsRecord_net (hi : L.nets[i]? = some n) (hgbk : Inserted gbk)
    (hkey : (execCommand (replies.keyMgmt n.id) 128).length < 20) :
    FitsRecord L.text replies i (decodeZeroed gbk n.shown) := by
  have hflags : n.flags.text.length < 20 := by cases n.flags <;> decide
  have hbssid := n.bssid.text_length
  have hshown := n.shown_length
  constructor
  · rw [rowState, rowColumns, getColumns_eq hi, getFlags_eq hi]
    exact hflags
  · rw [rowBssid, rowState, rowColumns, getColumns_eq hi, getFlags_eq hi, getBssid_eq hi]
    omega
  · rcases decodeZeroed_cases hgbk n.shown with h | ⟨h, -⟩ <;> omega
  · rw [rowKey, rowId, getId_eq hi]
    exact hkey

/-- **A row of a list** is confined exactly if its key management is short enough. -/
theorem row_confined_net_iff (hi : L.nets[i]? = some n) (hgbk : Inserted gbk)
    (hreply : ∀ id, 0 ∉ replies.keyMgmt id) :
    RowConfined L.text gbk replies i ↔ (execCommand (replies.keyMgmt n.id) 128).length < 20 := by
  have hid : rowId L.text i = n.id := getId_eq hi
  constructor
  · intro h
    obtain ⟨ssid, -, hlt⟩ := h.lengths
    have hkey := hlt .keyMgmt (by decide) (zero_not_mem_key hreply _)
    rw [← hid]
    exact (keyMgmtText_length_lt_iff _).mp hkey
  · intro hkey
    refine (fitsRecord_net hi hgbk hkey).confined ?_
    rw [rowSsid, rowBssid, rowState, rowColumns, hid, getColumns_eq hi, getFlags_eq hi,
      getBssid_eq hi, ssidWith_eq hi]

end

/-! ## Earlier rows -/

/-- What is written to the array up to row `k`, the `memset` of all records first. -/
def savedStores (file : List UInt8) (gbk : List GbkEntry) (replies : NetworkReplies)
    (cnt k : Nat) : Option (List (Store UInt8)) :=
  ((List.range k).mapM fun j => (rowSsid file gbk j).map (rowStores file replies j)).map fun rows =>
    memset 0 0 (196 * cnt) :: rows.flatten

theorem exists_of_mapM {α β : Type} {f : α → Option β} {l : List α} {bs : List β}
    (h : l.mapM f = some bs) {b : β} (hb : b ∈ bs) : ∃ a ∈ l, f a = some b := by
  have hall := forall₂_of_mapM h
  obtain ⟨k, hk, rfl⟩ := List.getElem_of_mem hb
  have hkl : k < l.length := hall.length_eq ▸ hk
  exact ⟨l[k], List.getElem_mem hkl, hall.get hkl hk⟩

/-- A row can run over the end of its record, but not as far as the next `key_mgmt`. -/
theorem rowStores_inside {file : List UInt8} {gbk : List GbkEntry} {replies : NetworkReplies}
    (hgbk : Inserted gbk) {j : Nat} {ssid : List UInt8} (hssid : rowSsid file gbk j = some ssid) :
    ∀ s ∈ rowStores file replies j ssid, s.Inside 0 (place (j + 1) .keyMgmt) := by
  have hlen : ssid.length ≤ 255 := by
    rcases rowSsid_cases hgbk hssid with h | ⟨h, -⟩ <;> omega
  have hkey : (rowKey file replies j).length ≤ 127 := by
    rw [rowKey, execCommand_eq]
    exact List.length_take_le 127 _
  intro s hs
  obtain ⟨f, -, hs⟩ := List.mem_flatMap.mp hs
  have hpos := fieldStores_pos f s hs
  refine .inr ⟨Nat.zero_le _, ?_⟩
  rw [hpos]
  rcases fieldStores_bytes f s hs with hsize | ⟨rfl, hbytes⟩ | ⟨rfl, hbytes⟩
  · have hend : f.pos + f.size ≤ 193 := by cases f <;> decide
    show 196 * j + f.pos + s.bytes.length ≤ 196 * (j + 1) + 173
    omega
  · rw [hbytes]
    simp only [place, SavedField.pos]
    omega
  · rw [hbytes]
    simp only [place, SavedField.pos]
    omega

/-- **Earlier rows** leave the `key_mgmt` of a record clear, also those that are not confined. -/
theorem keyClear_before {file : List UInt8} {gbk : List GbkEntry} {replies : NetworkReplies}
    (hgbk : Inserted gbk) {cnt i : Nat} (hi : i < cnt) {ss : List (Store UInt8)}
    (h : savedStores file gbk replies cnt i = some ss) (m : Nat → UInt8) : KeyClear i (run ss m) := by
  obtain ⟨rows, hrows, rfl⟩ := Option.map_eq_some_iff.mp h
  have hinside : ∀ s ∈ rows.flatten, s.Inside 0 (place i .keyMgmt) := by
    intro s hs
    obtain ⟨row, hrow, hs⟩ := List.mem_flatten.mp hs
    obtain ⟨j, hj, hmap⟩ := exists_of_mapM hrows hrow
    obtain ⟨ssid, hssid, rfl⟩ := Option.map_eq_some_iff.mp hmap
    have hji : j < i := List.mem_range.mp hj
    refine (rowStores_inside hgbk hssid s hs).mono (Nat.le_refl _) ?_
    simp only [place]
    omega
  refine ⟨Nat.zero_le _, shows_nil _ _, fun j _ hj => ?_⟩
  rw [run_cons, run_of_outside hinside (.inr (Nat.le_add_right _ _))]
  -- the place lies in the part of the array that the `memset` has cleared
  have hlt : place i .keyMgmt + j < 196 * cnt := by
    simp only [place, SavedField.pos]
    omega
  have hclear := @memset_apply UInt8 0 _ _ hlt 0 m
  rwa [Nat.zero_add] at hclear

/-! ## All rows -/

/-- **Confined rows.** Whatever the earlier rows did, a row finds its `key_mgmt` clear. For a list
of networks with at most one flag it is confined exactly if the captured key management has less
than 20 bytes; for any other file, if and only if all four texts do not fill their fields. -/
theorem saved_rows_confined {gbk : List GbkEntry} (hgbk : Inserted gbk) {replies : NetworkReplies}
    (hreply : ∀ id, 0 ∉ replies.keyMgmt id) :
    (∀ (L : SavedList) (i : Nat) (n : SavedNet), L.nets[i]? = some n →
      (RowConfined L.text gbk replies i ↔
        (execCommand (replies.keyMgmt n.id) 128).length < 20)) ∧
    (∀ (file : List UInt8) (i : Nat), 0 ∉ file →
      (RowConfined file gbk replies i ↔
        ∃ ssid, rowSsid file gbk i = some ssid ∧ FitsRecord file replies i ssid)) ∧
    ∀ (file : List UInt8) (cnt i : Nat) (ss : List (Store UInt8)) (m : Nat → UInt8), i < cnt →
      savedStores file gbk replies cnt i = some ss → KeyClear i (run ss m) :=
  ⟨fun _ _ _ hi => row_confined_net_iff hi hgbk hreply,
    fun _ _ hfile => row_confined_iff hfile hgbk hreply,
    fun _ _ _ _ m hi h => keyClear_before hgbk hi h m⟩

/-- The answers of a supplicant that has the same key management for every network. -/
def sameKey (text : List UInt8) : NetworkReplies := ⟨fun _ => text, fun _ => chars "FAIL\n"⟩

theorem saved_row_confined_psk : RowConfined manyNets.text [] (sameKey (chars "WPA-PSK\n")) 0 :=
  have hnul : (0 : UInt8) ∉ chars "WPA-PSK\n" := by decide
  ((saved_rows_confined .nil fun _ => hnul).1 manyNets 0 _ rfl).mpr (by decide)

/-- Three key managements are 26 bytes, and run over `key_mgmt[20]` and the end of the record. -/
theorem key_mgmt_overruns : ¬ ∀ (L : SavedList) (gbk : List GbkEntry) (replies : NetworkReplies)
    (i : Nat) (n : SavedNet), Inserted gbk →
    (∀ id, 0 ∉ replies.keyMgmt id ∧ (replies.keyMgmt id).length ≤ 127) →
    L.nets[i]? = some n → RowConfined L.text gbk replies i := by
  intro h
  have hnul : (0 : UInt8) ∉ chars "WPA-PSK WPA-PSK-SHA256 SAE" := by decide
  have hlen : (chars "WPA-PSK WPA-PSK-SHA256 SAE").length ≤ 127 := by decide
  have hrow := h manyNets [] (sameKey (chars "WPA-PSK WPA-PSK-SHA256 SAE")) 0 _ .nil
    (fun _ => ⟨hnul, hlen⟩) rfl
  exact absurd ((row_confined_net_iff rfl .nil fun _ => hnul).mp hrow) (by decide)

end ConnectApp.Wifi
