import ConnectApp.Lib.FirstMatch
import ConnectApp.Wifi.SavedInfo
import ConnectApp.Wifi.SocketBuffer
import Mathlib.Logic.Function.Basic

/-!
# The status of the connection (Rk_wifi.c:906-1123)

`_RK_wifi_running_getConnectionInfo` and its public copy `RK_wifi_running_getConnectionInfo`
read `wpa_cli status` line by line. A line belongs to the first of ten words that it starts with,
and the value behind its `=` goes into the record. The two functions differ only in the name of
their file, so there is one model.

The words are compared with the start of the line, not with its key. wpa_supplicant prints both
`id` and `id_str`, and the second is taken for an `id`.

- `infoOf`: the record as a function of the ten values, in which the order of the lines does not
  occur. `run_infoOf`: if no other key starts with one of the words, this is what the loop
  computes, line by line.
- `status_right_iff`: then the record is right in every order of the lines, unless the ssid
  makes `spec_char_convers` leave its text.
- `keys_apart_iff`: a set of keys is read right for all values exactly if no other key starts
  with one of the words.

The record's `reason` is not written here.
-/

namespace ConnectApp.Wifi

open CString

/-! ## The functions -/

/-- The part of `RK_WIFI_INFO_Connection_s` that the status fills. -/
structure ConnectionInfo where
  id : Int
  bssid : List UInt8
  ssid : List UInt8
  freq : Int
  mode : List UInt8
  wpaState : List UInt8
  ipAddress : List UInt8
  macAddress : List UInt8
  keyMgmt : List UInt8
  deriving DecidableEq

/-- The record after the `memset`. -/
def ConnectionInfo.zero : ConnectionInfo := ⟨0, [], [], 0, [], [], [], [], []⟩

/-- The words that a line can start with. -/
inductive StatusKey
  | bssid
  | freq
  | ssid
  | id
  | mode
  | wpaState
  | ipAddress
  | address
  | keyMgmt
  | pairwiseCipher
  deriving DecidableEq

namespace StatusKey

/-- The key as it is printed. -/
def text : StatusKey → List UInt8
  | bssid => chars "bssid"
  | freq => chars "freq"
  | ssid => chars "ssid"
  | id => chars "id"
  | mode => chars "mode"
  | wpaState => chars "wpa_state"
  | ipAddress => chars "ip_address"
  | address => chars "address"
  | keyMgmt => chars "key_mgmt"
  | pairwiseCipher => chars "pairwise_cipher"

/-- The order of the tests. -/
def order : List StatusKey :=
  [bssid, freq, ssid, id, mode, wpaState, ipAddress, address, keyMgmt, pairwiseCipher]

/-- The size of the character field that the value is copied to. -/
def fieldSize : StatusKey → Option Nat
  | ssid => some 129
  | freq => none
  | id => none
  | pairwiseCipher => none
  | _ => some 20

end StatusKey

/-- The word that a text starts with. -/
def classify (t : List UInt8) : Option StatusKey :=
  StatusKey.order.find? fun w => decide (w.text <+: t)

section

variable (gbk : List GbkEntry)

/-- The conversions of an ssid, each into a buffer of 256 bytes, and the `strncpy` over the
field's 129 bytes; `none` if one of them is overrun or a text is left. -/
def statusSsid (value old : List UInt8) : Option (List UInt8) :=
  (specCharConvers value).bind fun sname =>
    let utf8 := getEncodeGbkUtf8 gbk (removeEscapeCharacter (cstr sname))
    if sname.length < 256 ∧ utf8.length ≤ 129 then some (overwrite utf8 old) else none

/-- What a line that starts with the word `w` does to the record; `value` is the text behind its
first `=`. The ssid and the cipher do not check whether there is one. -/
def statusStore (w : StatusKey) (value : Option (List UInt8)) (info : ConnectionInfo) :
    Option ConnectionInfo :=
  match w, value with
  | .ssid, none => none
  | .pairwiseCipher, none => none
  | _, none => some info
  | .bssid, some v => some { info with bssid := v.take 20 }
  | .freq, some v => some (if v = [] then info else { info with freq := atoi v })
  | .ssid, some v => (statusSsid gbk v info.ssid).map fun ssid => { info with ssid := ssid }
  | .id, some v => some (if v = [] then info else { info with id := atoi v })
  | .mode, some v => some { info with mode := v.take 20 }
  | .wpaState, some v => some { info with wpaState := v.take 20 }
  | .ipAddress, some v => some { info with ipAddress := v.take 20 }
  | .address, some v => some { info with macAddress := v.take 20 }
  | .keyMgmt, some v =>
    some (if chars "WEP" <+: info.keyMgmt then info else { info with keyMgmt := v.take 20 })
  | .pairwiseCipher, some v =>
    some (if contains (chars "WEP") (61 :: v) then { info with keyMgmt := chars "WEP" } else info)

/-- One line, without its newline. -/
def statusLine (line : List UInt8) (info : ConnectionInfo) : Option ConnectionInfo :=
  match classify line with
  | none => some info
  | some w => statusStore gbk w ((strchr 61 line).map fun n => line.drop (n + 1)) info

/-- The loop over the lines that `fgets` returns. -/
def statusLoop (lines : List (List UInt8)) (info : ConnectionInfo) : Option ConnectionInfo :=
  lines.foldlM (fun info line => statusLine gbk (dropTrailing 10 line) info) info

/-- `RK_wifi_running_getConnectionInfo`: its result and the record; `none` for a read or write
outside a buffer. -/
def rkWifiRunningGetConnectionInfo (pInfo : ConnectionInfo) (file : Option (List UInt8)) :
    Option (Int × ConnectionInfo) :=
  match file with
  | none => some (-1, pInfo)
  | some fp => (statusLoop gbk (readLines 511 fp.length fp) .zero).map (0, ·)

end

/-! ## What `wpa_cli status` prints -/

/-- A line `key=value`. The value is shorter than the field for its key. -/
structure StatusLine where
  key : List UInt8
  value : List UInt8
  key_text : ∀ b ∈ key, b ≠ 0 ∧ b ≠ 10 ∧ b ≠ 61
  value_text : ∀ b ∈ value, b ≠ 0 ∧ b ≠ 10
  short : key.length + 1 + value.length < 511
  fits : ∀ (w : StatusKey) (n : Nat), key = w.text → w.fieldSize = some n → value.length < n

/-- The line as it is printed. -/
def StatusLine.text (l : StatusLine) : List UInt8 := l.key ++ 61 :: l.value

/-- The output: lines with distinct keys. -/
structure StatusOutput where
  lines : List StatusLine
  distinct : (lines.map StatusLine.key).Nodup

/-- What `status` prints. -/
def StatusOutput.text (out : StatusOutput) : List UInt8 :=
  (out.lines.map StatusLine.text).flatMap (· ++ [10])

/-- The value for a key. -/
def statusValue (lines : List StatusLine) (w : StatusKey) : Option (List UInt8) :=
  (lines.find? fun l => l.key = w.text).map StatusLine.value

/-- No key starts with one of the words but the word itself. -/
def KeysApart (lines : List StatusLine) : Prop :=
  ∀ l ∈ lines, ∀ w : StatusKey, w.text <+: l.key → l.key = w.text

/-- The record has the values of the keys, and zeros for those that are absent. -/
structure Matches (gbk : List GbkEntry) (f : StatusKey → Option (List UInt8))
    (info : ConnectionInfo) : Prop where
  id : info.id = (f .id).elim 0 atoi
  bssid : info.bssid = (f .bssid).getD []
  ssid : (f .ssid).elim (some []) (fun v => (statusName v).map (getEncodeGbkUtf8 gbk)) =
    some info.ssid
  freq : info.freq = (f .freq).elim 0 atoi
  mode : info.mode = (f .mode).getD []
  wpaState : info.wpaState = (f .wpaState).getD []
  ipAddress : info.ipAddress = (f .ipAddress).getD []
  macAddress : info.macAddress = (f .address).getD []
  keyMgmt : info.keyMgmt =
    if (f .pairwiseCipher).any (contains (chars "WEP")) then chars "WEP" else (f .keyMgmt).getD []

/-- The function returns one and the same record for every order of the lines, and it is the
right one. -/
def StatusRight (gbk : List GbkEntry) (out : StatusOutput) : Prop :=
  ∃ info, Matches gbk (statusValue out.lines) info ∧
    ∀ (out' : StatusOutput) (pInfo : ConnectionInfo), out'.lines.Perm out.lines →
      rkWifiRunningGetConnectionInfo gbk pInfo (some out'.text) = some (0, info)

/-- `spec_char_convers` stays inside the value for the ssid. -/
def Decodes (lines : List StatusLine) : Prop :=
  ∀ v, statusValue lines .ssid = some v → (specCharConvers v).isSome

/-! ## The words -/

namespace StatusKey

theorem mem_order (w : StatusKey) : w ∈ order := by
  cases w <;> decide

theorem text_plain (w : StatusKey) : (61 : UInt8) ∉ w.text := by
  cases w <;> decide

/-- No word starts with another one. -/
theorem eq_of_prefix {w w' : StatusKey} (h : w.text <+: w'.text) : w = w' := by
  revert h
  cases w <;> cases w' <;> decide

theorem text_injective {w w' : StatusKey} (h : w.text = w'.text) : w = w' :=
  eq_of_prefix (h ▸ List.prefix_rfl)

end StatusKey

theorem prefix_of_classify {t : List UInt8} {w : StatusKey} (h : classify t = some w) :
    w.text <+: t := by
  simpa using List.find?_some h

/-- A text starts with at most one of the words, so the order of the tests does not matter. -/
theorem classify_eq_some_iff {t : List UInt8} {w : StatusKey} :
    classify t = some w ↔ w.text <+: t := by
  refine ⟨prefix_of_classify, fun h => ?_⟩
  cases hc : classify t with
  | none =>
    rw [classify, List.find?_eq_none] at hc
    exact absurd (decide_eq_true h) (hc w w.mem_order)
  | some w' =>
    rcases List.prefix_or_prefix_of_prefix (prefix_of_classify hc) h with hpre | hpre
    · rw [StatusKey.eq_of_prefix hpre]
    · rw [StatusKey.eq_of_prefix hpre]

/-- A word has no `=`, so it is found in the key or not at all. -/
theorem prefix_line_iff {w key value : List UInt8} (hw : (61 : UInt8) ∉ w) :
    w <+: key ++ 61 :: value ↔ w <+: key := by
  constructor
  · intro h
    rcases List.prefix_or_prefix_of_prefix h (List.prefix_append key (61 :: value)) with hpre | hpre
    · exact hpre
    · obtain ⟨z, rfl⟩ := hpre
      obtain ⟨u, hu⟩ := h
      rw [List.append_assoc] at hu
      cases z with
      | nil => simp
      | cons b z =>
        obtain ⟨rfl, -⟩ := List.cons.inj (List.append_cancel_left hu)
        exact absurd (by simp) hw
  · exact fun h => h.trans (List.prefix_append _ _)

theorem classify_text (l : StatusLine) : classify l.text = classify l.key := by
  refine Option.ext fun w => ?_
  rw [classify_eq_some_iff, classify_eq_some_iff]
  exact prefix_line_iff w.text_plain

theorem statusLine_text (gbk : List GbkEntry) (l : StatusLine) (info : ConnectionInfo) :
    statusLine gbk l.text info = match classify l.key with
      | none => some info
      | some w => statusStore gbk w (some l.value) info := by
  have hkey : (61 : UInt8) ∉ l.key := fun h => (l.key_text 61 h).2.2 rfl
  have hvalue : ((strchr 61 l.text).map fun n => l.text.drop (n + 1)) = some l.value := by
    rw [StatusLine.text, strchr_append hkey, Option.map_some, ← List.drop_drop, List.drop_left]
    rfl
  rw [statusLine, classify_text, hvalue]

/-! ## The record as a function of the values -/

/-- The record for given values of the keys, and a given ssid. -/
def recordOf (f : StatusKey → Option (List UInt8)) (ssid : List UInt8) : ConnectionInfo where
  id := (f .id).elim 0 atoi
  bssid := (f .bssid).getD []
  ssid := ssid
  freq := (f .freq).elim 0 atoi
  mode := (f .mode).getD []
  wpaState := (f .wpaState).getD []
  ipAddress := (f .ipAddress).getD []
  macAddress := (f .address).getD []
  keyMgmt :=
    if (f .pairwiseCipher).any (contains (chars "WEP")) then chars "WEP" else (f .keyMgmt).getD []

/-- The record for given values of the ten keys. -/
def infoOf (gbk : List GbkEntry) (f : StatusKey → Option (List UInt8)) : Option ConnectionInfo :=
  ((f .ssid).elim (some []) fun v => statusSsid gbk v []).map (recordOf f)

theorem contains_wep (v : List UInt8) :
    contains (chars "WEP") (61 :: v) = contains (chars "WEP") v := by
  have hnot : ¬ chars "WEP" <+: 61 :: v := by
    rintro ⟨u, hu⟩
    have hhead : some (87 : UInt8) = some 61 := congrArg List.head? hu
    exact absurd hhead (by decide)
  refine decide_eq_decide.mpr ?_
  rw [List.infix_cons_iff]
  exact or_iff_right hnot

/-- A value other than the ssid, for a key that had none before. -/
theorem statusStore_recordOf {gbk : List GbkEntry} {f : StatusKey → Option (List UInt8)}
    {w : StatusKey} (hssid : w ≠ .ssid) (hw : f w = none) {v : List UInt8}
    (hfits : ∀ n, w.fieldSize = some n → v.length < n) (ssid : List UInt8) :
    statusStore gbk w (some v) (recordOf f ssid) =
      some (recordOf (Function.update f w (some v)) ssid) := by
  have htake : ∀ n, w.fieldSize = some n → v.take n = v := fun n hn =>
    List.take_of_length_le (hfits n hn).le
  have hatoi : atoi [] = 0 := rfl
  have hnil : ¬ chars "WEP" <+: [] := by decide
  cases w with
  | ssid => exact absurd rfl hssid
  | freq => by_cases hv : v = [] <;> simp [statusStore, recordOf, hw, hv, hatoi]
  | id => by_cases hv : v = [] <;> simp [statusStore, recordOf, hw, hv, hatoi]
  | keyMgmt =>
    -- a cipher with WEP has been read before, or will be
    by_cases hc : (f .pairwiseCipher).any (contains (chars "WEP")) = true <;>
      simp [statusStore, recordOf, hw, hc, hnil, htake 20 rfl]
  | pairwiseCipher =>
    by_cases hc : contains (chars "WEP") v = true <;>
      simp [statusStore, recordOf, hw, hc, contains_wep]
  | bssid => simp [statusStore, recordOf, htake 20 rfl]
  | mode => simp [statusStore, recordOf, htake 20 rfl]
  | wpaState => simp [statusStore, recordOf, htake 20 rfl]
  | ipAddress => simp [statusStore, recordOf, htake 20 rfl]
  | address => simp [statusStore, recordOf, htake 20 rfl]

/-- **One value.** -/
theorem infoOf_update {gbk : List GbkEntry} {f : StatusKey → Option (List UInt8)} {w : StatusKey}
    (hw : f w = none) {v : List UInt8} (hfits : ∀ n, w.fieldSize = some n → v.length < n) :
    infoOf gbk (Function.update f w (some v)) =
      (infoOf gbk f).bind (statusStore gbk w (some v)) := by
  unfold infoOf
  by_cases hssid : w = .ssid
  · subst hssid
    rw [hw, Function.update_self]
    show (statusSsid gbk v []).map _ = (statusSsid gbk v []).map _
    rfl
  · rw [Function.update_of_ne (Ne.symm hssid), Option.bind_map]
    cases (f .ssid).elim (some []) fun v => statusSsid gbk v [] with
    | none => rfl
    | some ssid => exact (statusStore_recordOf hssid hw hfits ssid).symm

/-! ## The loop -/

section

variable {gbk : List GbkEntry} {ls : List StatusLine}

theorem statusValue_concat (l : StatusLine) (w : StatusKey) : statusValue (ls ++ [l]) w =
    (statusValue ls w).or (if l.key = w.text then some l.value else none) := by
  unfold statusValue
  rw [List.find?_append, Option.map_or]
  by_cases hkey : l.key = w.text <;> simp [hkey]

theorem statusValue_eq_none {l : StatusLine} (hfresh : l.key ∉ ls.map StatusLine.key)
    {w : StatusKey} (hw : l.key = w.text) : statusValue ls w = none := by
  unfold statusValue
  rw [Option.map_eq_none_iff, List.find?_eq_none]
  intro k hk hkey
  exact hfresh (List.mem_map.mpr ⟨k, hk, (of_decide_eq_true hkey).trans hw.symm⟩)

/-- **One line**, with a key that has not been seen before. -/
theorem infoOf_concat {l : StatusLine} (hfresh : l.key ∉ ls.map StatusLine.key)
    (hapart : ∀ w : StatusKey, w.text <+: l.key → l.key = w.text) :
    infoOf gbk (statusValue (ls ++ [l])) =
      (infoOf gbk (statusValue ls)).bind (statusLine gbk l.text) := by
  have hline := fun info => statusLine_text gbk l info
  cases hc : classify l.key with
  | none =>
    have hkey : ∀ w : StatusKey, l.key ≠ w.text := by
      intro w hw
      have hsome := classify_eq_some_iff.mpr (hw ▸ List.prefix_rfl : w.text <+: l.key)
      rw [hc] at hsome
      cases hsome
    have hvalue : statusValue (ls ++ [l]) = statusValue ls := by
      funext w
      rw [statusValue_concat, if_neg (hkey w), Option.or_none]
    have hkeep : statusLine gbk l.text = some := funext fun info => by rw [hline, hc]
    rw [hvalue, hkeep, Option.bind_fun_some]
  | some w =>
    have hkey : l.key = w.text := hapart w (prefix_of_classify hc)
    have hvalue : statusValue (ls ++ [l]) = Function.update (statusValue ls) w (some l.value) := by
      funext w'
      rw [statusValue_concat]
      by_cases hw : w' = w
      · rw [hw, Function.update_self, statusValue_eq_none hfresh hkey, if_pos hkey, Option.none_or]
      · have hne : l.key ≠ w'.text := fun h => hw (StatusKey.text_injective (h.symm.trans hkey))
        rw [Function.update_of_ne hw, if_neg hne, Option.or_none]
    have hstore : statusLine gbk l.text = statusStore gbk w (some l.value) :=
      funext fun info => by rw [hline, hc]
    rw [hvalue, infoOf_update (statusValue_eq_none hfresh hkey) fun n => l.fits w n hkey, hstore]

/-- **All lines.** -/
theorem run_infoOf (hdistinct : (ls.map StatusLine.key).Nodup) (hapart : KeysApart ls) :
    ls.foldlM (fun info l => statusLine gbk l.text info) .zero = infoOf gbk (statusValue ls) := by
  induction ls using List.reverseRecOn with
  | nil => rfl
  | append_singleton ls l ih =>
    rw [List.map_append, List.map_singleton, List.nodup_append] at hdistinct
    have hfresh : l.key ∉ ls.map StatusLine.key := fun h =>
      hdistinct.2.2 l.key h l.key (List.mem_singleton_self _) rfl
    rw [List.foldlM_append, ih hdistinct.1 fun k hk => hapart k (List.mem_append_left _ hk),
      infoOf_concat hfresh (hapart l (by simp))]
    simp

end

/-! ## The file -/

theorem statusLine_nil (gbk : List GbkEntry) (info : ConnectionInfo) :
    statusLine gbk [] info = some info := by
  have hnone : classify [] = none := by decide
  rw [statusLine, hnone]

theorem statusLoop_cons (gbk : List GbkEntry) (line : List UInt8) (lines : List (List UInt8))
    (info : ConnectionInfo) : statusLoop gbk (line :: lines) info =
      (statusLine gbk (dropTrailing 10 line) info).bind (statusLoop gbk lines) :=
  List.foldlM_cons

theorem StatusLine.newline_text (l : StatusLine) : (10 : UInt8) ∉ l.text := by
  rw [StatusLine.text, List.mem_append, List.mem_cons]
  rintro (h | h | h)
  · exact (l.key_text 10 h).2.1 rfl
  · cases h
  · exact (l.value_text 10 h).2 rfl

/-- The loop sees the lines one by one; behind a line of 510 bytes it sees an empty one. -/
theorem statusLoop_text (gbk : List GbkEntry) (ls : List StatusLine) {n : Nat}
    (hn : ((ls.map StatusLine.text).flatMap (· ++ [10])).length ≤ n) (info : ConnectionInfo) :
    statusLoop gbk (readLines 511 n ((ls.map StatusLine.text).flatMap (· ++ [10]))) info =
      ls.foldlM (fun info l => statusLine gbk l.text info) info := by
  induction ls generalizing n info with
  | nil => cases n <;> rfl
  | cons l ls ih =>
    have hnl := l.newline_text
    have hshort : l.text.length < 511 := by
      have := l.short
      simp only [StatusLine.text, List.length_append, List.length_cons]
      omega
    rw [List.map_cons, List.flatMap_cons, List.append_assoc, List.singleton_append] at hn ⊢
    simp only [List.length_append, List.length_cons] at hn
    generalize hrest : (ls.map StatusLine.text).flatMap (· ++ [10]) = rest at hn ih
    have ih := fun k hk => funext fun info => @ih k hk info
    obtain ⟨n, rfl⟩ : ∃ k, n = k + 1 := ⟨n - 1, by omega⟩
    rw [List.foldlM_cons]
    by_cases hlen : l.text.length < 510
    · have hread : readLines 511 (n + 1) (l.text ++ 10 :: rest) =
          (l.text ++ [10]) :: readLines 511 n rest := by
        rw [readLines, fgets_newline hnl hlen]
      rw [hread, statusLoop_cons, dropTrailing_concat, ih n (by omega)]
      rfl
    · -- the newline is left for the next call
      have hfull : 511 - 1 = l.text.length := by omega
      obtain ⟨n, rfl⟩ : ∃ k, n = k + 1 := ⟨n - 1, by omega⟩
      have hline : fgets 511 (l.text ++ 10 :: rest) = some (l.text, 10 :: rest) := by
        rw [fgets, if_neg (by simp), hfull, takeLine_full hnl]
      have hempty : fgets 511 (10 :: rest) = some ([10], rest) :=
        @fgets_newline 511 [] (by simp) (by decide) rest
      have hread : readLines 511 (n + 1 + 1) (l.text ++ 10 :: rest) =
          l.text :: [10] :: readLines 511 n rest := by
        rw [readLines, hline]
        show l.text :: readLines 511 (n + 1) (10 :: rest) = _
        rw [readLines, hempty]
      have hskip : statusLoop gbk ([10] :: readLines 511 n rest) =
          statusLoop gbk (readLines 511 n rest) := by
        funext info
        rw [statusLoop_cons, show dropTrailing 10 [10] = [] from rfl, statusLine_nil,
          Option.bind_some]
      rw [hread, statusLoop_cons, dropTrailing_of_not_mem hnl, hskip, ih n (by omega)]
      rfl

/-- **The file.** -/
theorem getConnectionInfo_eq (gbk : List GbkEntry) (out : StatusOutput) (pInfo : ConnectionInfo)
    (hapart : KeysApart out.lines) : rkWifiRunningGetConnectionInfo gbk pInfo (some out.text) =
      (infoOf gbk (statusValue out.lines)).map (0, ·) := by
  show (statusLoop gbk (readLines 511 out.text.length out.text) .zero).map _ = _
  rw [StatusOutput.text, statusLoop_text gbk out.lines (Nat.le_refl _),
    run_infoOf out.distinct hapart]

theorem statusValue_perm {out out' : StatusOutput} (h : out'.lines.Perm out.lines) :
    statusValue out'.lines = statusValue out.lines := by
  funext w
  unfold statusValue
  rw [FirstMatch.find?_key_perm h out'.distinct]

theorem statusValue_short {lines : List StatusLine} {w : StatusKey} {v : List UInt8} {n : Nat}
    (h : statusValue lines w = some v) (hn : w.fieldSize = some n) : v.length < n := by
  obtain ⟨l, hl, rfl⟩ := Option.map_eq_some_iff.mp h
  exact l.fits w n (by simpa using List.find?_some hl) hn

/-- An ssid that is shorter than its field overruns nothing. -/
theorem statusSsid_eq {gbk : List GbkEntry} (hgbk : Inserted gbk) {v : List UInt8}
    (hv : v.length < 129) :
    statusSsid gbk v [] = (statusName v).map (getEncodeGbkUtf8 gbk) := by
  unfold statusSsid statusName
  cases h : specCharConvers v with
  | none => rfl
  | some sname =>
    have hlen := specChar_length_le h
    have hname := ((removeEscape_sublist (cstr sname)).trans (cstr_sublist sname)).length_le
    simp only [Option.bind_some, Option.map_some, overwrite, List.drop_nil, List.append_nil]
    rw [if_pos]
    rcases hgbk.getEncodeGbkUtf8_cases (removeEscapeCharacter (cstr sname)) with h | h
    · omega
    · rw [h]
      omega

/-- Only the ssid can fail. -/
theorem infoOf_isSome_iff {gbk : List GbkEntry} (hgbk : Inserted gbk) (lines : List StatusLine) :
    (infoOf gbk (statusValue lines)).isSome ↔ Decodes lines := by
  unfold infoOf Decodes
  rw [Option.isSome_map]
  cases h : statusValue lines .ssid with
  | none => simp
  | some v =>
    show (statusSsid gbk v []).isSome ↔ _
    rw [statusSsid_eq hgbk (statusValue_short h rfl), Option.isSome_map, statusName,
      Option.isSome_map]
    simp

theorem infoOf_matches {gbk : List GbkEntry} (hgbk : Inserted gbk) {lines : List StatusLine}
    {info : ConnectionInfo} (h : infoOf gbk (statusValue lines) = some info) :
    Matches gbk (statusValue lines) info := by
  obtain ⟨ssid, hssid, rfl⟩ := Option.map_eq_some_iff.mp h
  refine ⟨rfl, rfl, ?_, rfl, rfl, rfl, rfl, rfl, rfl⟩
  rw [show (recordOf (statusValue lines) ssid).ssid = ssid from rfl, ← hssid]
  cases hv : statusValue lines .ssid with
  | none => rfl
  | some v => exact (statusSsid_eq hgbk (statusValue_short hv rfl)).symm

/-- **Any order.** If no other key starts with one of the words, the record is right exactly if
the ssid can be decoded. -/
theorem status_right_iff {gbk : List GbkEntry} (hgbk : Inserted gbk) {out : StatusOutput}
    (hapart : KeysApart out.lines) : StatusRight gbk out ↔ Decodes out.lines := by
  rw [← infoOf_isSome_iff hgbk]
  constructor
  · rintro ⟨info, -, hrun⟩
    have heq := hrun out .zero (List.Perm.refl _)
    rw [getConnectionInfo_eq gbk out _ hapart] at heq
    rw [← Option.isSome_map, heq]
    rfl
  · intro h
    obtain ⟨info, hinfo⟩ := Option.isSome_iff_exists.mp h
    refine ⟨info, infoOf_matches hgbk hinfo, fun out' pInfo hperm => ?_⟩
    have hapart' : KeysApart out'.lines := fun l hl => hapart l (hperm.mem_iff.mp hl)
    rw [getConnectionInfo_eq gbk out' pInfo hapart', statusValue_perm hperm, hinfo]
    rfl

/-! ## Which sets of keys are safe -/

/-- The line without its value. -/
def StatusLine.blank (l : StatusLine) : StatusLine where
  key := l.key
  value := []
  key_text := l.key_text
  value_text := fun b hb => nomatch hb
  short := by
    have := l.short
    simp only [List.length_nil]
    omega
  fits := fun w n _ hn => by
    cases w <;> cases hn <;> decide

/-- The line with another value, for a key that is none of the words. -/
def StatusLine.withValue (l : StatusLine) (v : List UInt8) (hv : ∀ b ∈ v, b ≠ 0 ∧ b ≠ 10)
    (hlen : l.key.length + 1 + v.length < 511) (hkey : ∀ w : StatusKey, l.key ≠ w.text) :
    StatusLine where
  key := l.key
  value := v
  key_text := l.key_text
  value_text := hv
  short := hlen
  fits := fun w _ hw => absurd hw (hkey w)

/-- A value that changes the record when it is taken for the value of `w`. -/
def probe : StatusKey → List UInt8
  | .pairwiseCipher => chars "WEP"
  | _ => chars "1"

theorem probe_text (w : StatusKey) : ∀ b ∈ probe w, b ≠ 0 ∧ b ≠ 10 := by
  have hall : (probe w).all (fun b => b != 0 && b != 10) = true := by cases w <;> decide
  intro b hb
  simpa using List.all_eq_true.mp hall b hb

theorem probe_length (w : StatusKey) : (probe w).length ≤ 3 := by
  cases w <;> decide

section

variable {gbk : List GbkEntry} (hgbk : Inserted gbk)

include hgbk

theorem statusStore_blank (w : StatusKey) : statusStore gbk w (some []) .zero = some .zero := by
  cases w with
  | ssid =>
    show (statusSsid gbk [] []).map _ = _
    rw [statusSsid_eq hgbk (by decide)]
    show some { ConnectionInfo.zero with ssid := getEncodeGbkUtf8 gbk [] } = _
    rw [hgbk.getEncodeGbkUtf8_nil]
    rfl
  | pairwiseCipher => exact congrArg some (if_neg (by decide))
  | keyMgmt => exact congrArg some (if_neg (by decide))
  | _ => rfl

theorem run_blank (ls : List StatusLine) :
    (ls.map StatusLine.blank).foldlM (fun info l => statusLine gbk l.text info) .zero =
      some .zero := by
  induction ls with
  | nil => rfl
  | cons l ls ih =>
    have hline : statusLine gbk l.blank.text .zero = some .zero := by
      rw [statusLine_text]
      cases classify l.blank.key with
      | none => rfl
      | some w => exact statusStore_blank hgbk w
    rw [List.map_cons, List.foldlM_cons, hline]
    exact ih

theorem statusStore_probe (w : StatusKey) :
    ∃ info, statusStore gbk w (some (probe w)) .zero = some info ∧ info ≠ .zero := by
  cases w with
  | ssid =>
    refine ⟨{ ConnectionInfo.zero with ssid := getEncodeGbkUtf8 gbk (chars "1") }, ?_, ?_⟩
    · show (statusSsid gbk (chars "1") []).map _ = _
      rw [statusSsid_eq hgbk (by decide)]
      rfl
    · intro h
      have hssid : getEncodeGbkUtf8 gbk (chars "1") = [] := congrArg ConnectionInfo.ssid h
      rcases hgbk.getEncodeGbkUtf8_cases (chars "1") with hne | heq
      · exact hne.1 hssid
      · rw [heq] at hssid
        exact absurd hssid (by decide)
  | _ => exact ⟨_, rfl, by decide⟩

/-- A record that matches only empty values is empty. -/
theorem Matches.eq_zero {f : StatusKey → Option (List UInt8)} {info : ConnectionInfo}
    (h : Matches gbk f info) (hf : ∀ w, f w = none ∨ f w = some []) : info = .zero := by
  have hgetD : ∀ w, (f w).getD [] = [] := fun w => by rcases hf w with h | h <;> rw [h] <;> rfl
  have helim : ∀ w, (f w).elim 0 atoi = 0 := fun w => by rcases hf w with h | h <;> rw [h] <;> rfl
  have hcipher : (f .pairwiseCipher).any (contains (chars "WEP")) = false := by
    rcases hf .pairwiseCipher with h | h <;> rw [h] <;> rfl
  have hssid : info.ssid = [] := by
    have hs := h.ssid
    rcases hf .ssid with h | h
    · rw [h] at hs
      exact (Option.some.inj hs).symm
    · rw [h] at hs
      exact (Option.some.inj hs).symm.trans hgbk.getEncodeGbkUtf8_nil
  obtain ⟨id, bssid, ssid, freq, mode, wpaState, ipAddress, macAddress, keyMgmt⟩ := info
  have hkey := h.keyMgmt
  rw [hcipher] at hkey
  simp only [ConnectionInfo.zero, ConnectionInfo.mk.injEq]
  exact ⟨h.id.trans (helim _), h.bssid.trans (hgetD _), hssid, h.freq.trans (helim _),
    h.mode.trans (hgetD _), h.wpaState.trans (hgetD _), h.ipAddress.trans (hgetD _),
    h.macAddress.trans (hgetD _), hkey.trans (hgetD _)⟩

/-- A key that starts with a word spoils the record: all other values are empty, and its line
comes last. -/
theorem not_right_of_prefix {out : StatusOutput} {l : StatusLine} (hl : l ∈ out.lines)
    (hshort : l.key.length ≤ 500) {w : StatusKey} (hpre : w.text <+: l.key)
    (hne : l.key ≠ w.text) : ∃ out' : StatusOutput,
      out'.lines.map StatusLine.key = out.lines.map StatusLine.key ∧ Decodes out'.lines ∧
        ¬ StatusRight gbk out' := by
  have hkey : ∀ w' : StatusKey, l.key ≠ w'.text := by
    intro w' hw'
    obtain rfl := StatusKey.eq_of_prefix (hw' ▸ hpre : w.text <+: w'.text)
    exact hne hw'
  have hlen := probe_length w
  obtain ⟨before, after, hlines⟩ := List.append_of_mem hl
  let p := l.withValue (probe w) (probe_text w) (by omega) hkey
  have hkeys : (before.map StatusLine.blank ++ p :: after.map StatusLine.blank).map StatusLine.key
      = out.lines.map StatusLine.key := by
    rw [hlines]
    simp only [List.map_append, List.map_cons, List.map_map]
    rfl
  let out' : StatusOutput := ⟨_, hkeys ▸ out.distinct⟩
  have hperm : ((before ++ after).map StatusLine.blank ++ [p]).Perm out'.lines := by
    rw [List.map_append]
    exact (List.perm_append_singleton p _).trans List.perm_middle.symm
  have hvalue : ∀ w', statusValue out'.lines w' = none ∨ statusValue out'.lines w' = some [] := by
    intro w'
    unfold statusValue
    cases hfind : out'.lines.find? fun k => k.key = w'.text with
    | none => exact .inl rfl
    | some k =>
      have hk : k.key = w'.text := by simpa using List.find?_some hfind
      have hmem := hperm.mem_iff.mpr (List.mem_of_find?_eq_some hfind)
      rcases List.mem_append.mp hmem with hblank | hp
      · obtain ⟨k', -, rfl⟩ := List.mem_map.mp hblank
        exact .inr rfl
      · rw [List.mem_singleton.mp hp] at hk
        exact absurd hk (hkey w')
  refine ⟨out', hkeys, fun v hv => ?_, ?_⟩
  · rcases hvalue .ssid with h | h <;> rw [h] at hv <;> cases hv
    rfl
  · rintro ⟨info, hmatches, hrun⟩
    obtain rfl := hmatches.eq_zero hgbk hvalue
    obtain ⟨info, hstore, hinfo⟩ := statusStore_probe hgbk w
    let last : StatusOutput := ⟨_, (hperm.map StatusLine.key).nodup_iff.mpr out'.distinct⟩
    have hlast : rkWifiRunningGetConnectionInfo gbk .zero (some last.text) = some (0, info) := by
      show (statusLoop gbk (readLines 511 last.text.length last.text) .zero).map _ = _
      rw [StatusOutput.text, statusLoop_text gbk last.lines (Nat.le_refl _), List.foldlM_append,
        run_blank hgbk]
      show ((statusLine gbk p.text .zero).bind some).map _ = _
      rw [statusLine_text, show classify p.key = some w from classify_eq_some_iff.mpr hpre]
      show ((statusStore gbk w (some (probe w)) .zero).bind some).map _ = _
      rw [hstore]
      rfl
    rw [hrun last .zero hperm] at hlast
    exact hinfo (Prod.mk.inj (Option.some.inj hlast)).2.symm

/-- **Safe keys.** A set of short keys is read right for all values that can be decoded, in every
order, exactly if no other key starts with one of the words. -/
theorem keys_apart_iff {out : StatusOutput} (hshort : ∀ l ∈ out.lines, l.key.length ≤ 500) :
    (∀ out' : StatusOutput, out'.lines.map StatusLine.key = out.lines.map StatusLine.key →
      Decodes out'.lines → StatusRight gbk out') ↔ KeysApart out.lines := by
  constructor
  · intro h l hl w hpre
    by_contra hne
    obtain ⟨out', hkeys, hdecodes, hnot⟩ := not_right_of_prefix hgbk hl (hshort l hl) hpre hne
    exact hnot (h out' hkeys hdecodes)
  · intro h out' hkeys hdecodes
    refine (status_right_iff hgbk fun l hl w hpre => ?_).mpr hdecodes
    have hkey : l.key ∈ out.lines.map StatusLine.key := hkeys ▸ List.mem_map_of_mem hl
    obtain ⟨l', hl', heq⟩ := List.mem_map.mp hkey
    rw [← heq] at hpre ⊢
    exact h l' hl' w hpre

end

/-- A line from two texts that are checked to be a key and a value. -/
def StatusLine.ofTexts (key value : List UInt8)
    (h : (key.all (fun b => b != 0 && b != 10 && b != 61) &&
      value.all (fun b => b != 0 && b != 10) && key.length + 1 + value.length < 511 &&
      StatusKey.order.all fun w => key != w.text || w.fieldSize.all (value.length < ·)) = true) :
    StatusLine where
  key := key
  value := value
  key_text := fun b hb => by
    simp only [Bool.and_eq_true, List.all_eq_true] at h
    simpa [and_assoc] using h.1.1.1 b hb
  value_text := fun b hb => by
    simp only [Bool.and_eq_true, List.all_eq_true] at h
    simpa using h.1.1.2 b hb
  short := by
    simp only [Bool.and_eq_true] at h
    simpa using h.1.2
  fits := fun w n hw hn => by
    simp only [Bool.and_eq_true, List.all_eq_true] at h
    have := h.2 w w.mem_order
    simpa [hw, hn] using this

/-- The status of a network that has an `id_str`. -/
def namedStatus : StatusOutput where
  lines := [.ofTexts (chars "id") (chars "5") (by decide),
    .ofTexts (chars "id_str") (chars "home") (by decide)]
  distinct := by decide

/-- The status of a network without one. -/
def plainStatus : StatusOutput where
  lines := [.ofTexts (chars "ssid") (chars "cafe") (by decide),
    .ofTexts (chars "id") (chars "5") (by decide),
    .ofTexts (chars "group_cipher") (chars "CCMP") (by decide)]
  distinct := by decide

end ConnectApp.Wifi
