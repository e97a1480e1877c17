import ConnectApp.Lib.TextTools
import ConnectApp.Utility.Exec
import ConnectApp.Wifi.EscapeBounds
import ConnectApp.Wifi.Scan

/-!
# The saved networks (Rk_wifi.c:325-878)

`RK_wifi_getSavedInfo` and its private copy `_RK_wifi_getSavedInfo` print
`wpa_cli list_network` into a file and pick the columns of every row apart with awk
and sed, `exec_command` by `exec_command`. The two functions do the same on their own
files, so there is one model. The texts of the awk and sed pipelines come from
`TextTools`. `spec_char_convers` works on a zeroed buffer here: it may step over the end of its
text and then finds zeros (`specCharZeroed`). The result is `none` if it leaves its buffers, or if
the text in front of the bssid has a negative length.
-/

namespace ConnectApp.Wifi

open CString TextTools ConnectApp.Utility

/-- `RK_WIFI_SAVED_INFO_s`. -/
structure SavedInfo where
  id : Int
  bssid : List UInt8
  ssid : List UInt8
  state : List UInt8
  keyMgmt : List UInt8
  deriving DecidableEq

/-- What `wpa_cli get_network <id>` prints for `key_mgmt` and for `wep_key0`. -/
structure NetworkReplies where
  keyMgmt : Int → List UInt8
  wepKey0 : Int → List UInt8

/-- `get_encode_gbk_utf8` (Rk_wifi.c:132-151) into a zeroed buffer. -/
def getEncodeGbkUtf8 (head : List GbkEntry) (str : List UInt8) : List UInt8 :=
  match head.find? fun gbk => gbk.ori == str with
  | some gbk => gbk.utf8
  | none => str

/-- A list that `encode_gbk_insert` has built. -/
inductive Inserted : List GbkEntry → Prop
  | nil : Inserted []
  | insert {head : List GbkEntry} (ori utf8 : List UInt8) : Inserted head →
      Inserted (encodeGbkInsert head ori utf8)

/-- The entries of the list: two texts, the UTF-8 one short. -/
theorem Inserted.entry {head : List GbkEntry} (h : Inserted head) :
    ∀ e ∈ head, e.ori ≠ [] ∧ e.utf8 ≠ [] ∧ e.utf8.length < 128 := by
  induction h with
  | nil => exact fun e he => nomatch he
  | insert ori utf8 _ ih =>
    unfold encodeGbkInsert
    split_ifs with hempty hlong
    · exact ih
    · exact ih
    · rw [not_or] at hempty
      exact List.forall_mem_cons.mpr ⟨⟨hempty.1, hempty.2, by show utf8.length < 128; omega⟩, ih⟩

/-- A name is one of the list, which is short, or stays as it is. -/
theorem Inserted.getEncodeGbkUtf8_cases {gbk : List GbkEntry} (h : Inserted gbk)
    (str : List UInt8) :
    (getEncodeGbkUtf8 gbk str ≠ [] ∧ (getEncodeGbkUtf8 gbk str).length < 128) ∨
      getEncodeGbkUtf8 gbk str = str := by
  unfold getEncodeGbkUtf8
  split
  · next e he => exact .inl (h.entry e (List.mem_of_find?_eq_some he)).2
  · exact .inr rfl

/-- The list has no entry for the empty text. -/
theorem Inserted.getEncodeGbkUtf8_nil {gbk : List GbkEntry} (h : Inserted gbk) :
    getEncodeGbkUtf8 gbk [] = [] := by
  unfold getEncodeGbkUtf8
  split
  · next e he =>
    have hori : e.ori = [] := by simpa using List.find?_some he
    exact absurd hori (h.entry e (List.mem_of_find?_eq_some he)).1
  · rfl

/-- `get_ssid_directly` (Rk_wifi.c:397-405). -/
def getSsidDirectly (flags : List UInt8) (columns : Int) : Bool :=
  columns ≤ 3 || (columns == 4 && 0 < flags.length)

/-- `RK_property_trim` (Rk_wifi.c:407-445). -/
def rkPropertyTrim (str : List UInt8) : List UInt8 := ltrim (rtrim str)

/-- The name in `sname`: `spec_char_convers` after `remove_escape_character`, on zeroed buffers. -/
def zeroedName (str : List UInt8) : List UInt8 := cstr (specCharZeroed (removeEscapeCharacter str))

/-- The three conversions at the end of `get_ssid_from_list_network`. -/
def decodeZeroed (gbk : List GbkEntry) (str : List UInt8) : List UInt8 :=
  getEncodeGbkUtf8 gbk (zeroedName str)

/-- The same, if `spec_char_convers` keeps to its buffers. -/
def decodeSsid (gbk : List GbkEntry) (str : List UInt8) : Option (List UInt8) :=
  if ConversDefined (removeEscapeCharacter str) then some (decodeZeroed gbk str) else none

/-- `strncpy(buf, str, min(strlen(str) - 1, len))`: the text without its newline. -/
def copyField (str : List UInt8) (len : Nat) : List UInt8 := str.take (min (str.length - 1) len)

section

variable (file : List UInt8) (row : Nat)

/-- `cat file | awk '{print f}' | sed -n <row>p` captured in a buffer of `len` bytes. -/
def captureRow (f : List UInt8 → List UInt8) (len : Nat) : List UInt8 :=
  execCommand (sedLine (row - 1) (awkPrint f file)) len

/-- `get_columns_from_list_network` (Rk_wifi.c:560-574). -/
def getColumnsFromListNetwork : Int := atoi (captureRow file row awkNF 128)

/-- `get_id_from_list_network` (Rk_wifi.c:545-558). -/
def getIdFromListNetwork : Int := atoi (captureRow file row (awkField 1) 128)

/-- `get_flags_from_list_network` (Rk_wifi.c:576-593) into a zeroed buffer. -/
def getFlagsFromListNetwork (columns : Int) : List UInt8 :=
  let str := captureRow file row (awkField columns.toNat) 128
  if chars "[CURRENT]" <+: str ∨ chars "[DISABLED]" <+: str ∨ chars "[TEMP-DISABLED]" <+: str then
    copyField str 20
  else []

/-- `get_bssid_from_list_network` (Rk_wifi.c:520-543). -/
def getBssidFromListNetwork (state : List UInt8) (columns : Int) : List UInt8 :=
  let bssidColumn := if 0 < state.length then columns - 1 else columns
  copyField (captureRow file row (awkField bssidColumn.toNat) 128) 20

/-- `get_ssid_from_list_network` (Rk_wifi.c:455-518): the text left in `info->ssid`,
which is empty when the function returns -1. -/
def getSsidFromListNetwork (gbk : List GbkEntry) (id : Int) (state bssid : List UInt8)
    (columns : Int) : Option (List UInt8) :=
  if getSsidDirectly state columns then
    decodeSsid gbk (captureRow file row (awkField 2) 256).dropLast
  else
    let str := execCommand (sedLine (row - 1) file) 256
    let start := (decimal id).length
    match strstr bssid str with
    | none => some []
    | some fin =>
      if fin < start then none
      else decodeSsid gbk (rkPropertyTrim ((str.drop start).take (fin - start)))

/-- The text of `key_mgmt`, with the workaround for WEP. -/
def keyMgmtText (replies : NetworkReplies) (id : Int) : List UInt8 :=
  let str := execCommand (replies.keyMgmt id) 128
  let wep := execCommand (replies.wepKey0 id) 128
  if wep ≠ [] ∧ ¬ chars "FAIL" <+: wep then chars "WEP" ++ str.drop 3 else str

/-- One round of the loop over the rows. -/
def savedRecord (gbk : List GbkEntry) (replies : NetworkReplies) : Option SavedInfo :=
  let columns := getColumnsFromListNetwork file row
  let id := getIdFromListNetwork file row
  let state := getFlagsFromListNetwork file row columns
  let bssid := getBssidFromListNetwork file row state columns
  (getSsidFromListNetwork file row gbk id state bssid columns).map fun ssid =>
    ⟨id, bssid, ssid, state, keyMgmtText replies id⟩

end

/-- `RK_wifi_getSavedInfo` (Rk_wifi.c:607-669): its result and the records. -/
def rkWifiGetSavedInfo (gbk : List GbkEntry) (replies : NetworkReplies) (file : List UInt8) :
    Option (Int × List SavedInfo) :=
  let cnt := atoi (execCommand (wcLines file) 128) - 1
  if cnt ≤ 0 then some (-1, [])
  else ((List.range cnt.toNat).mapM fun i => savedRecord file (i + 2) gbk replies).map (0, ·)

/-! ## What `list_network` prints -/

/-- A MAC address: six pairs of hex digits. -/
structure Mac where
  first : UInt8 × UInt8
  others : List (UInt8 × UInt8)
  six : others.length = 5
  hex : ∀ p ∈ first :: others, (hexValue p.1).isSome ∧ (hexValue p.2).isSome

/-- The address as the supplicant prints it. -/
def Mac.text (m : Mac) : List UInt8 :=
  m.first.1 :: m.first.2 :: m.others.flatMap fun p => [58, p.1, p.2]

/-- The bssid column of a saved network. -/
inductive SavedBssid
  | any
  | mac (m : Mac)

/-- The bssid column. -/
def SavedBssid.text : SavedBssid → List UInt8
  | .any => chars "any"
  | .mac m => m.text

/-- The flags column of a saved network. -/
inductive SavedFlags
  | none
  | current
  | disabled
  | tempDisabled
  deriving DecidableEq

/-- The flags column. -/
def SavedFlags.text : SavedFlags → List UInt8
  | .none => []
  | .current => chars "[CURRENT]"
  | .disabled => chars "[DISABLED]"
  | .tempDisabled => chars "[TEMP-DISABLED]"

/-- A network in wpa_supplicant's configuration. -/
structure SavedNet where
  id : Nat
  id_int : id < 2 ^ 31
  ssid : List UInt8
  ssid_nonempty : 0 < ssid.length
  ssid_short : ssid.length ≤ 32
  bssid : SavedBssid
  flags : SavedFlags

namespace SavedNet

/-- The ssid column. -/
def column (n : SavedNet) : List UInt8 := printfEncode n.ssid

/-- The row `list_network` prints, without its newline. -/
def row (n : SavedNet) : List UInt8 :=
  decimal n.id ++ 9 :: (n.column ++ 9 :: (n.bssid.text ++ 9 :: n.flags.text))

end SavedNet

/-- The saved networks; their number is an `int` in the code. -/
structure SavedList where
  header : List UInt8
  header_line : (10 : UInt8) ∉ header
  nets : List SavedNet
  nets_int : nets.length < 2 ^ 31 - 1

/-- What `wpa_cli list_network` prints. -/
def SavedList.text (L : SavedList) : List UInt8 := unlines (L.header :: L.nets.map SavedNet.row)

/-! ## The characters of a row -/

/-- The characters of the bssid column. -/
def bssidByte (b : UInt8) : Bool := (hexValue b).isSome || b = 58 || b = 110 || b = 121

/-- The characters of a bssid are no separators, brackets or escapes. -/
theorem bssidByte_ne : ∀ b, bssidByte b = true → isBlank b = false ∧ isSpace b = false ∧ b ≠ 9 ∧
    b ≠ 10 ∧ b ≠ 91 ∧ b ≠ bslash ∧ b ≠ quote ∧ b ≠ lowerX ∧ b ≠ 0 := by decide +kernel

namespace SavedBssid

variable (b : SavedBssid)

/-- The bssid column consists of such characters. -/
theorem text_byte : ∀ c ∈ b.text, bssidByte c = true := by
  cases b with
  | any =>
    exact List.all_eq_true.mp (show (chars "any").all bssidByte = true by decide)
  | mac m =>
    have hhex : ∀ c, (hexValue c).isSome → bssidByte c = true := fun c h => by
      simp [bssidByte, h]
    intro c hc
    rcases List.mem_cons.mp hc with rfl | hc
    · exact hhex _ (m.hex m.first (List.mem_cons_self ..)).1
    rcases List.mem_cons.mp hc with rfl | hc
    · exact hhex _ (m.hex m.first (List.mem_cons_self ..)).2
    obtain ⟨p, hp, hc⟩ := List.mem_flatMap.mp hc
    have hpair := m.hex p (List.mem_cons_of_mem _ hp)
    simp only [List.mem_cons, List.not_mem_nil, or_false] at hc
    rcases hc with rfl | rfl | rfl
    · rfl
    · exact hhex _ hpair.1
    · exact hhex _ hpair.2

theorem text_ne_nil : b.text ≠ [] := by
  cases b with
  | any => decide
  | mac m => exact List.cons_ne_nil _ _

/-- `bssid[20]` has room for it. -/
theorem text_length : b.text.length ≤ 17 := by
  cases b with
  | any => decide
  | mac m =>
    have hflat : ∀ ps : List (UInt8 × UInt8),
        (ps.flatMap fun p => [58, p.1, p.2]).length = 3 * ps.length := by
      intro ps
      induction ps with
      | nil => rfl
      | cons p ps ih =>
        rw [List.flatMap_cons, List.length_append, ih]
        simp only [List.length_cons, List.length_nil]
        omega
    show (m.others.flatMap fun p => [58, p.1, p.2]).length + 2 ≤ 17
    rw [hflat, m.six]

/-- Not all of the text is digits. -/
theorem text_not_digits : ∃ c ∈ b.text, isDigit c = false := by
  cases b with
  | any => exact ⟨97, by decide, by decide⟩
  | mac m =>
    obtain ⟨p, ps, hps⟩ : ∃ p ps, m.others = p :: ps := by
      have := m.six
      match h : m.others with
      | [] => rw [h] at this; cases this
      | p :: ps => exact ⟨p, ps, rfl⟩
    refine ⟨58, ?_, rfl⟩
    show 58 ∈ m.first.1 :: m.first.2 :: m.others.flatMap fun p => [58, p.1, p.2]
    rw [hps]
    simp

end SavedBssid

/-- The flags are one word. -/
theorem flags_byte (f : SavedFlags) :
    ∀ b ∈ f.text, isBlank b = false ∧ b ≠ 10 := by
  cases f <;> exact (by decide +kernel)

/-- The fields awk finds in the flags column. -/
def SavedFlags.fields (f : SavedFlags) : List (List UInt8) :=
  if f.text = [] then [] else [f.text]

/-- The words of the flags column. -/
theorem fields_flags (f : SavedFlags) : CString.fields isBlank f.text = f.fields := by
  cases f <;> decide

namespace SavedNet

variable (n : SavedNet)

/-- The ssid column is printable, so tabs and newlines are between the columns only. -/
theorem column_printable : ∀ b ∈ n.column, printable b = true :=
  printfEncode_printable n.ssid

theorem column_ne_nil : n.column ≠ [] := by
  have hpos := n.ssid_nonempty
  obtain ⟨b, s, hs⟩ := List.exists_cons_of_length_pos hpos
  obtain ⟨c, r, hc, -⟩ := encByte_head b
  show printfEncode n.ssid ≠ []
  rw [hs]
  show encByte b ++ _ ≠ []
  rw [hc]
  simp

/-- Each of 32 bytes is printed in four characters at most. -/
theorem column_length : n.column.length ≤ 128 := by
  have hlen := printfEncode_length_le n.ssid
  have hshort := n.ssid_short
  show (printfEncode n.ssid).length ≤ 128
  omega

/-- The id is printed in digits. -/
theorem id_digits : ∀ b ∈ decimal n.id, isDigit b = true := by
  intro b hb
  unfold decimal at hb
  rw [if_neg (by omega)] at hb
  exact (natDec_digits _).digits b hb

/-- The id is an `int`. -/
theorem id_range : -2 ^ 31 ≤ (n.id : Int) ∧ (n.id : Int) < 2 ^ 31 := by
  have := n.id_int
  omega

/-- A row is one line. -/
theorem newline_row : (10 : UInt8) ∉ n.row := by
  have hid : (10 : UInt8) ∉ decimal n.id := newline_not_mem_decimal _
  have hcol : (10 : UInt8) ∉ n.column := fun h => by
    have := n.column_printable 10 h
    cases this
  have hbssid : (10 : UInt8) ∉ n.bssid.text := fun h =>
    (bssidByte_ne 10 (n.bssid.text_byte 10 h)).2.2.2.1 rfl
  have hflags : (10 : UInt8) ∉ n.flags.text := fun h => (flags_byte n.flags 10 h).2 rfl
  unfold row
  simp [hid, hcol, hbssid, hflags]

/-- The words awk finds in a row. -/
theorem fields_row : fields isBlank n.row =
    decimal n.id :: (fields isBlank n.column ++ n.bssid.text :: n.flags.fields) := by
  have htab : isBlank 9 = true := rfl
  have hdigit : ∀ b, isDigit b = true → isBlank b = false := by
    intro b hb
    simp [isDigit, isBlank, UInt8.le_iff_toNat_le, ← UInt8.toNat_inj] at hb ⊢
    omega
  have hid : ∀ b ∈ decimal n.id, isBlank b = false := fun b hb => hdigit b (n.id_digits b hb)
  have hne : decimal n.id ≠ [] := by
    obtain ⟨d, rest, hds, -⟩ := (natDec_digits ((n.id : Int).natAbs)).head
    unfold decimal
    rw [if_neg (by omega), hds]
    simp
  have hbssid : ∀ b ∈ n.bssid.text, isBlank b = false := fun b hb =>
    (bssidByte_ne b (n.bssid.text_byte b hb)).1
  unfold row
  rw [fields_append htab, fields_append htab, fields_append htab, fields_of_none hid hne,
    fields_of_none hbssid n.bssid.text_ne_nil, fields_flags]
  rfl

/-- The number of words in a row. -/
def columns : Nat := (fields isBlank n.row).length

/-- The words of a row, as awk counts them. -/
theorem columns_eq : n.columns =
    (fields isBlank n.column).length + 2 + n.flags.fields.length := by
  unfold columns
  rw [n.fields_row]
  simp only [List.length_cons, List.length_append]
  omega

/-- The most words a row can have. -/
theorem columns_le : n.columns ≤ 131 := by
  have hwords := (length_fields_le isBlank n.column).trans n.column_length
  have hflags : n.flags.fields.length ≤ 1 := by cases n.flags <;> decide
  rw [columns_eq]
  omega

/-- The longest row: an ssid of 128 characters, a MAC address and flags. -/
theorem row_length : n.row.length ≤ 174 := by
  have hid := decimal_length_le n.id_range
  have hcol := n.column_length
  have hbssid := n.bssid.text_length
  have hflags : n.flags.text.length ≤ 15 := by cases n.flags <;> decide
  unfold row
  simp only [List.length_append, List.length_cons]
  omega

end SavedNet

/-! ## Reading one row back -/

/-- The word at a place is awk's field of that number. -/
theorem awkField_eq {l f : List UInt8} {fs gs : List (List UInt8)} {k : Nat}
    (h : fields isBlank l = fs ++ f :: gs) (hk : k = fs.length + 1) : awkField k l = f := by
  rw [hk, awkField, h, List.getD_eq_getElem?_getD, List.getElem?_append_right (Nat.le_refl _)]
  simp

theorem newline_head : ∀ b ∈ ([10] : List UInt8).head?, isDigit b = false :=
  head_not_digit rfl []

/-- A short field is copied without its newline. -/
theorem copyField_eq {f : List UInt8} (h : f.length ≤ 20) : copyField (f ++ [10]) 20 = f := by
  unfold copyField
  rw [List.length_append, List.length_singleton, Nat.add_sub_cancel, Nat.min_eq_left h,
    List.take_left]

section

variable {L : SavedList} {n : SavedNet} {i : Nat} (hi : L.nets[i]? = some n)

/-- The header and the rows are lines. -/
theorem SavedList.lines_ok (L : SavedList) :
    ∀ l ∈ L.header :: L.nets.map SavedNet.row, (10 : UInt8) ∉ l := by
  refine List.forall_mem_cons.mpr ⟨L.header_line, fun l hl => ?_⟩
  obtain ⟨n, -, rfl⟩ := List.mem_map.mp hl
  exact n.newline_row

include hi

/-- Network `i` is on line `i + 2`, counted from 1. -/
theorem line_eq : (L.header :: L.nets.map SavedNet.row)[i + 1]? = some n.row := by
  rw [List.getElem?_cons_succ, List.getElem?_map, hi]
  rfl

/-- What one pipeline leaves of the row of a network. -/
theorem captureRow_eq {f : List UInt8 → List UInt8} {len : Nat}
    (hf : ∀ l, (10 : UInt8) ∉ l → (10 : UInt8) ∉ f l) (hlen : (f n.row).length + 1 < len) :
    captureRow L.text (i + 2) f len = f n.row ++ [10] := by
  have hsed : sedLine (i + 1) (awkPrint f L.text) = f n.row ++ [10] :=
    sedLine_awkPrint L.lines_ok (fun l hl => hf l (L.lines_ok l hl)) (line_eq hi)
  unfold captureRow
  rw [show i + 2 - 1 = i + 1 from rfl, hsed]
  refine execCommand_short ?_
  rw [List.length_append]
  exact hlen

/-- A field of the row comes back with a newline behind it. -/
theorem captureRow_field {f : List UInt8} {fs gs : List (List UInt8)} {k len : Nat}
    (h : fields isBlank n.row = fs ++ f :: gs) (hk : k = fs.length + 1)
    (hlen : f.length + 1 < len) :
    captureRow L.text (i + 2) (awkField k) len = f ++ [10] := by
  have hfield := awkField_eq h hk
  have hcap : captureRow L.text (i + 2) (awkField k) len = awkField k n.row ++ [10] :=
    captureRow_eq hi (fun l hl => newline_not_mem_awkField _ hl) (by rw [hfield]; exact hlen)
  rwa [hfield] at hcap

/-- The number of columns is the number of words. -/
theorem getColumns_eq : getColumnsFromListNetwork L.text (i + 2) = n.columns := by
  have hle := n.columns_le
  have hrange : -2 ^ 31 ≤ (n.columns : Int) ∧ (n.columns : Int) < 2 ^ 31 := by omega
  have hlen := decimal_length_le hrange
  have hcap : captureRow L.text (i + 2) awkNF 128 = decimal n.columns ++ [10] := by
    refine captureRow_eq hi (fun l _ => newline_not_mem_decimal _) ?_
    show (decimal n.columns).length + 1 < 128
    omega
  unfold getColumnsFromListNetwork
  rw [hcap]
  exact atoi_decimal_append hrange newline_head

/-- The id is recovered. -/
theorem getId_eq : getIdFromListNetwork L.text (i + 2) = n.id := by
  have hlen := decimal_length_le n.id_range
  unfold getIdFromListNetwork
  have hsplit : fields isBlank n.row =
      [] ++ decimal n.id :: (fields isBlank n.column ++ n.bssid.text :: n.flags.fields) :=
    n.fields_row
  have hcap : captureRow L.text (i + 2) (awkField 1) 128 = decimal n.id ++ [10] :=
    captureRow_field hi hsplit rfl (by omega)
  rw [hcap]
  exact atoi_decimal_append n.id_range newline_head

/-- The flags column is told from the bssid column by its text. -/
theorem getFlags_eq : getFlagsFromListNetwork L.text (i + 2) n.columns = n.flags.text := by
  have hrow := n.fields_row
  have hcols := n.columns_eq
  have hbssid := n.bssid.text_length
  unfold getFlagsFromListNetwork
  rw [Int.toNat_natCast]
  by_cases hf : n.flags.text = []
  · -- the last word is the bssid, which starts like none of the flags
    have hfields : n.flags.fields = [] := if_pos hf
    have hcap : captureRow L.text (i + 2) (awkField n.columns) 128 = n.bssid.text ++ [10] := by
      have hsplit : fields isBlank n.row =
          (decimal n.id :: fields isBlank n.column) ++ n.bssid.text :: [] := by
        rw [hrow, hfields]
        rfl
      refine captureRow_field hi hsplit ?_ (by omega)
      rw [hcols, hfields]
      rfl
    obtain ⟨b, r, hb⟩ := List.exists_cons_of_ne_nil n.bssid.text_ne_nil
    have hne : 91 ≠ b := fun h =>
      (bssidByte_ne b (n.bssid.text_byte b (by rw [hb]; simp))).2.2.2.2.1 h.symm
    have hpre : ∀ w : List UInt8, ¬ 91 :: w <+: n.bssid.text ++ [10] := by
      intro w hw
      rw [hb, List.cons_append, List.cons_prefix_cons] at hw
      exact hne hw.1
    rw [hcap, hf]
    exact if_neg (by rintro (h | h | h) <;> exact hpre _ h)
  · have hfields : n.flags.fields = [n.flags.text] := if_neg hf
    have hcap : captureRow L.text (i + 2) (awkField n.columns) 128 = n.flags.text ++ [10] := by
      have hsplit : fields isBlank n.row =
          (decimal n.id :: (fields isBlank n.column ++ [n.bssid.text])) ++ n.flags.text :: [] := by
        rw [hrow, hfields]
        simp
      refine captureRow_field hi hsplit ?_ ?_
      · rw [hcols, hfields]
        simp
      · cases n.flags <;> decide
    rw [hcap]
    have hflag : ∀ f : SavedFlags, f.text ≠ [] → chars "[CURRENT]" <+: f.text ++ [10] ∨
        chars "[DISABLED]" <+: f.text ++ [10] ∨ chars "[TEMP-DISABLED]" <+: f.text ++ [10] := by
      intro f
      cases f <;> decide
    simp only [if_pos (hflag n.flags hf)]
    exact copyField_eq (by cases n.flags <;> decide)

/-- The bssid is recovered. -/
theorem getBssid_eq :
    getBssidFromListNetwork L.text (i + 2) n.flags.text n.columns = n.bssid.text := by
  have hrow := n.fields_row
  have hcols := n.columns_eq
  have hbssid := n.bssid.text_length
  have hcap : captureRow L.text (i + 2)
      (awkField (fields isBlank n.column).length.succ.succ) 128 = n.bssid.text ++ [10] := by
    have hsplit : fields isBlank n.row =
        (decimal n.id :: fields isBlank n.column) ++ n.bssid.text :: n.flags.fields := hrow
    exact captureRow_field hi hsplit rfl (by omega)
  have hcol : (if 0 < n.flags.text.length then (n.columns : Int) - 1 else n.columns).toNat =
      (fields isBlank n.column).length.succ.succ := by
    by_cases hf : n.flags.text = []
    · rw [hcols, show n.flags.fields = [] from if_pos hf, hf]
      rfl
    · rw [if_pos (List.length_pos_iff.mpr hf), hcols,
        show n.flags.fields = [n.flags.text] from if_neg hf]
      simp only [List.length_singleton]
      omega
  unfold getBssidFromListNetwork
  simp only [hcol, hcap]
  exact copyField_eq (by omega)

end

/-- An ssid of one word is read by awk. -/
theorem getSsidDirectly_eq (n : SavedNet) : getSsidDirectly n.flags.text n.columns =
    decide ((fields isBlank n.column).length ≤ 1) := by
  have hcols := n.columns_eq
  unfold getSsidDirectly
  by_cases hf : n.flags.text = []
  · have hfields : n.flags.fields.length = 0 := by rw [show n.flags.fields = [] from if_pos hf]; rfl
    rw [hf, Bool.eq_iff_iff]
    simp
    omega
  · have hpos := List.length_pos_iff.mpr hf
    have hfields : n.flags.fields.length = 1 := by
      rw [show n.flags.fields = [n.flags.text] from if_neg hf]
      rfl
    rw [Bool.eq_iff_iff]
    simp [hpos]
    omega

end ConnectApp.Wifi
