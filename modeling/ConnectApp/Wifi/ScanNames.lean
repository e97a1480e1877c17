import ConnectApp.Wifi.Connect
import ConnectApp.Wifi.ScanJson

/-!
# Names after a scan (Rk_wifi.c:71-151, 1427-1494, 2153-2173)

A scan rebuilds two lists, from which `RK_wifi_connect1` takes the bytes to send for the name
it is given: `m_gbk_head` with the names that are not UTF-8, `m_nonpsk_head` with the networks
without a key. `scan_lists` says what the lists are after a scan, and that they do not depend
on the lists before it. `names_reached_iff` says for which listings each displayed name leads
back to the bytes it was made of.

A line with an empty flags column has no fourth token for `strtok`, so its SSID is taken for
the flags and is in no list. Such a network is only found if its name is UTF-8, or stands in
the listing once more.
-/

namespace ConnectApp.Wifi

open CString ConnectApp.Encode

/-! ## Listings -/

/-- One access point. Any text can be in the flags column, also none; the SSID is any 1 to 32
bytes without a backslash in front of an `x`. -/
structure ScanAp where
  bssid : List UInt8
  freq : Int
  signal : Int
  flags : List UInt8
  ssid : List UInt8
  bssid_length : bssid.length = 17
  bssid_mac : ∀ b ∈ bssid, macByte b = true
  flags_byte : ∀ b ∈ flags, printable b = true ∧ b ≠ bslash
  ssid_length : 1 ≤ ssid.length ∧ ssid.length ≤ 32
  ssid_noHex : ¬ [bslash, lowerX] <:+: ssid
  short : (apColumns bssid freq signal flags ssid).length < 254

/-- `!strstr(flags, "WPA") && !strstr(flags, "WEP")`. -/
def openFlags (tok : List UInt8) : Bool :=
  !contains (chars "WPA") tok && !contains (chars "WEP") tok

namespace ScanAp

/-- The row of the access point. -/
def columns (ap : ScanAp) : List UInt8 := apColumns ap.bssid ap.freq ap.signal ap.flags ap.ssid

/-- The line of the access point. -/
def line (ap : ScanAp) : List UInt8 := ap.columns ++ [10]

/-- The SSID column. -/
def column (ap : ScanAp) : List UInt8 := printfEncode ap.ssid

/-- The flags contain neither `WPA` nor `WEP`. -/
def isOpen (ap : ScanAp) : Bool := openFlags ap.flags

/-- `dst_noescape`: the unescaped bytes of the SSID. -/
def bytes (ap : ScanAp) : List UInt8 := (statusName ap.column).getD []

/-- `utf8_noescape`: the unescaped UTF-8 text of the SSID. -/
def shown (tbl : Fin 24080 → UInt16) (ap : ScanAp) : List UInt8 :=
  removeEscapeCharacter (ssidUtf8 tbl ap.column)

/-- The SSID is UTF-8, up to its first NUL. -/
def isUtf8 (ap : ScanAp) : Bool := rkEncodeIsUtf8 (cstr ap.ssid)

end ScanAp

/-- What `wpa_cli scan_r` prints. -/
structure ScanListing where
  header : List UInt8
  header_line : (10 : UInt8) ∉ header
  header_short : header.length < 254
  aps : List ScanAp

/-- What `scan_results` prints. -/
def ScanListing.text (L : ScanListing) : List UInt8 := L.header ++ 10 :: L.aps.flatMap ScanAp.line

/-! ## The tokens of a line -/

theorem escapesFit_of_noHex (text : UInt8 → List UInt8) {s : List UInt8}
    (h : ¬ [bslash, lowerX] <:+: s) : escapesFit text s = true := by
  induction s with
  | nil => rfl
  | cons b s ih =>
    rw [List.infix_cons_iff, pair_prefix_iff, not_or] at h
    rw [escapesFit.eq_def]
    exact (if_neg h.1).trans (ih h.2)

namespace ScanAp

variable (ap : ScanAp)

theorem tokOk_column : TokOk ap.column :=
  ⟨printfEncode_printable _, (isSome_flatMap_iff encByte_textView ap.ssid).mpr
    (escapesFit_of_noHex encByte ap.ssid_noHex)⟩

/-- The three columns in front of the flags. -/
theorem front_byte : ∀ t ∈ [ap.bssid, decimal ap.freq, decimal ap.signal],
    t ≠ [] ∧ ∀ b ∈ t, printable b = true ∧ b ≠ bslash :=
  front_plain ap.bssid_length ap.bssid_mac ap.freq ap.signal

/-- `strtok` sees no token in an empty flags column. -/
def flagsToken : List (List UInt8) := if ap.flags = [] then [] else [ap.flags]

/-- The tokens in front of the SSID. -/
def frontTokens : List (List UInt8) :=
  [ap.bssid, decimal ap.freq, decimal ap.signal] ++ ap.flagsToken

theorem frontTokens_byte : ∀ t ∈ ap.frontTokens, ∀ b ∈ t, printable b = true ∧ b ≠ bslash := by
  intro t ht
  rcases List.mem_append.mp ht with ht | ht
  · exact (ap.front_byte t ht).2
  · unfold flagsToken at ht
    split_ifs at ht
    · cases ht
    · rw [List.mem_singleton.mp ht]
      exact ap.flags_byte

theorem fields_line : fields isTab ap.line = ap.frontTokens ++ [ap.column ++ [10]] :=
  fields_apColumns ap.front_byte (fun b hb => (ap.flags_byte b hb).1) ap.ssid

theorem newline_columns : (10 : UInt8) ∉ ap.columns :=
  newline_apColumns ap.front_byte (fun b hb => (ap.flags_byte b hb).1) ap.ssid

/-- A line is processed to its end, whatever the lists are. -/
theorem lineInv_line (heads : Heads) : LineInv (fields isTab ap.line) (.start heads) := by
  have hshort : ap.columns.length < 254 := ap.short
  have hline : ap.line.length = ap.columns.length + 1 := List.length_append
  refine lineInv_of_toks (by omega) (fun t ht => ?_) heads
  rw [ap.fields_line] at ht
  rcases List.mem_append.mp ht with ht | ht
  · have hbytes := ap.frontTokens_byte t ht
    rw [dropTrailing_of_not_mem (newline_printable fun b hb => (hbytes b hb).1)]
    exact tokOk_plain hbytes
  · rw [List.mem_singleton.mp ht, dropTrailing_concat]
    exact ap.tokOk_column

end ScanAp

theorem ScanListing.scanLines_text (L : ScanListing) :
    scanLines L.text = L.aps.map ScanAp.line := by
  have hlines : L.aps.flatMap ScanAp.line = (L.aps.map ScanAp.columns).flatMap (· ++ [10]) := by
    rw [List.flatMap_map]
    rfl
  rw [ScanListing.text, hlines, scanLines_header L.header_line L.header_short, List.map_map]
  · rfl
  · intro l hl
    obtain ⟨ap, -, rfl⟩ := List.mem_map.mp hl
    exact ⟨ap.newline_columns, ap.short⟩

/-! ## What a scan leaves in the lists -/

section

variable (tbl : Fin 24080 → UInt16) (cols : Nat)

/-- The lists after the SSID column. -/
def ssidHeads (tok : List UInt8) (isNonpsk : Bool) (heads : Heads) : Heads :=
  let bytes := removeEscapeCharacter (listedBytes tok)
  let shown := removeEscapeCharacter (ssidUtf8 tbl tok)
  { gbk :=
      if rkEncodeIsUtf8 (listedBytes tok) then heads.gbk
      else encodeGbkInsert heads.gbk bytes shown
    nonpsk := if isNonpsk then encodeGbkInsert heads.nonpsk bytes shown else heads.nonpsk }

/-- The key flag and the lists after the column `index`. -/
def columnLists (index : Nat) (tok : List UInt8) (p : Bool × Heads) : Bool × Heads :=
  if index = 3 then (openFlags tok || p.1, p.2)
  else if index = 4 ∧ cols.testBit 4 = true then (p.1, ssidHeads tbl tok p.1 p.2)
  else p

/-- The key flag and the lists after the tokens from `index` on. -/
def lineLists : Nat → List (List UInt8) → Bool × Heads → Bool × Heads
  | _, [], p => p
  | index, tok :: toks, p =>
    lineLists (index + 1) toks (columnLists tbl cols index (dropTrailing 10 tok) p)

theorem ssidColumn_heads {tok : List UInt8} (h : TokOk tok) (isNonpsk : Bool) (heads : Heads) :
    ssidColumn tbl tok isNonpsk heads =
      .next (ssidUtf8 tbl tok, ssidHeads tbl tok isNonpsk heads) := by
  obtain ⟨heads', hnext⟩ := ssidColumn_next tbl h isNonpsk heads
  by_cases hnil : tok = []
  · subst hnil
    cases isNonpsk <;> rfl
  obtain ⟨buf, hbuf⟩ := Option.isSome_iff_exists.mp h.expands
  have hnul : 0 ∉ tok := fun h0 => nomatch h.printable 0 h0
  have hdst := listed_of_specChar hnul hbuf
  have hutf8 : (if rkEncodeIsUtf8 (cstr buf) then cstr buf else gbkToUtf8 tbl (cstr buf))
      = ssidUtf8 tbl tok := by
    unfold ssidUtf8
    rw [hbuf]
  have hlen := ssidUtf8_length_le tbl h
  -- the call is known not to take the `continue`, so only the lists are left to compare
  unfold ssidColumn at hnext ⊢
  rw [if_neg hnil] at hnext ⊢
  simp only [hbuf, hutf8, if_neg (Nat.not_lt.mpr hlen)] at hnext ⊢
  unfold ssidHeads
  rw [← hdst]
  split_ifs at hnext ⊢ <;> rfl

variable {level : List UInt8}

theorem catColumn_lists {st st' : LineState} {col : List UInt8}
    (h : catColumn st col = .next st') : st'.isNonpsk = st.isNonpsk ∧ st'.heads = st.heads := by
  unfold catColumn at h
  split_ifs at h
  cases h
  exact ⟨rfl, rfl⟩

/-- **One token.** -/
theorem columnStep_lists {tok : List UInt8} (htok : TokOk tok) {st st' : LineState}
    (h : columnStep tbl level cols tok st = .next st') :
    (st'.isNonpsk, st'.heads) = columnLists tbl cols st.index tok (st.isNonpsk, st.heads) := by
  unfold columnStep at h
  unfold columnLists
  by_cases h3 : st.index = 3
  · rw [h3] at h
    rw [if_pos h3]
    simp only [beq_self_eq_true, Bool.or_true, if_true] at h
    obtain ⟨hflag, hheads⟩ := catColumn_lists h
    rw [hflag, hheads]
    show (if openFlags tok = true then true else st.isNonpsk, st.heads) = _
    cases openFlags tok <;> rfl
  have h3' : (st.index == 3) = false := by simpa using h3
  rw [if_neg h3]
  by_cases h4 : st.index = 4
  · simp only [h4, ssidColumn_heads tbl htok] at h ⊢
    split_ifs at h with hbit
    · obtain ⟨hflag, hheads⟩ := catColumn_lists h
      rw [if_pos ⟨trivial, by simpa using hbit⟩, hflag, hheads]
    · obtain rfl := Pass.next.inj h
      rw [if_neg fun hc => hbit (by simp [hc.2])]
  · rw [if_neg fun hc => h4 hc.1]
    simp only [h3', Bool.or_false, if_neg h4, if_neg h3] at h
    split_ifs at h
    · obtain ⟨hflag, hheads⟩ := catColumn_lists h
      rw [hflag, hheads]
    · obtain rfl := Pass.next.inj h
      rfl

/-- The tokens of a line. -/
theorem lineLoop_lists (hlevel : level.length ≤ 14) {toks : List (List UInt8)} {st st' : LineState}
    {fuel : Nat} (hinv : LineInv toks st)
    (h : lineLoop tbl level cols fuel toks st = .done st') :
    (st'.isNonpsk, st'.heads) = lineLists tbl cols st.index toks (st.isNonpsk, st.heads) := by
  induction toks generalizing st fuel with
  | nil =>
    cases fuel <;> (cases h; rfl)
  | cons tok toks ih =>
    cases fuel with
    | zero => cases h
    | succ fuel =>
      obtain ⟨st₁, hstep, hindex, -, hinv₁⟩ := lineInv_next tbl cols hlevel hinv
      have hlists := columnStep_lists tbl cols (hinv.toksOk tok List.mem_cons_self) hstep
      rw [lineLoop, hstep] at h
      rw [ih hinv₁ h, hlists, hindex]
      rfl

theorem Outcome.bind_done {α β : Type} {o : Outcome α} {f : α → Outcome β} {b : β}
    (h : o.bind f = .done b) : ∃ a, o = .done a ∧ f a = .done b := by
  cases o with
  | done a => exact ⟨a, rfl, h⟩
  | fault => cases h
  | outOfFuel => cases h

theorem appendItem_heads {st st' : ScanState} {ls : LineState}
    (h : appendItem st ls = .done st') : st'.heads = ls.heads := by
  unfold appendItem at h
  simp only at h
  split_ifs at h
  all_goals
    cases h
    rfl

/-- The lists after a line. -/
def lineHeads (heads : Heads) (line : List UInt8) : Heads :=
  (lineLists tbl cols 0 (fields isTab line) (false, heads)).2

/-- The lines of a file. -/
theorem scanLoop_heads (hlevel : level.length ≤ 14) {lineFuel fuel : Nat} {fp : List UInt8}
    {st st' : ScanState}
    (hok : ∀ line ∈ readLines 255 fuel fp, ∀ heads, LineInv (fields isTab line) (.start heads))
    (h : scanLoop tbl level cols lineFuel fuel fp st = .done st') :
    st'.heads = (readLines 255 fuel fp).foldl (lineHeads tbl cols) st.heads := by
  induction fuel generalizing fp st with
  | zero => cases h
  | succ fuel ih =>
    rw [readLines] at hok ⊢
    rw [scanLoop] at h
    cases hf : fgets 255 fp with
    | none =>
      rw [hf] at h
      cases h
      rfl
    | some p =>
      rw [hf] at h hok
      obtain ⟨ls, hline, h⟩ := Outcome.bind_done h
      obtain ⟨st₁, hitem, h⟩ := Outcome.bind_done h
      have hlists := lineLoop_lists tbl cols hlevel (hok p.1 List.mem_cons_self st.heads) hline
      have hheads : st₁.heads = lineHeads tbl cols st.heads p.1 :=
        (appendItem_heads hitem).trans (congrArg Prod.snd hlists)
      rw [ih (fun l hl => hok l (List.mem_cons_of_mem _ hl)) h, hheads]
      rfl

/-- The text and the lists after a file. -/
theorem scanFile_heads (hlevel : level.length ≤ 14) {fuel : Nat} {file : List UInt8}
    (heads : Heads) (hcols : cols &&& 0x1F ≠ 0) (hfuel : file.length < fuel)
    (hok : ∀ line ∈ scanLines file, ∀ heads, LineInv (fields isTab line) (.start heads)) :
    scanFile tbl level cols fuel heads (some file) = .done (some (scanText tbl cols level file),
      (scanLines file).foldl (lineHeads tbl cols) ⟨[], []⟩) := by
  obtain ⟨heads', hdone⟩ := scanFile_done tbl cols hlevel heads hcols hfuel hok
  refine hdone.trans ?_
  have hlen := afterHeader_length_le file
  have hlines : readLines 255 fuel (afterHeader file) = scanLines file :=
    readLines_fuel (by omega) (by omega) hlen
  -- the lists are those of the outer loop, which starts with empty ones
  unfold scanFile at hdone
  rw [if_neg hcols] at hdone
  obtain ⟨st, hloop, hclose⟩ := Outcome.bind_done hdone
  have hst := scanLoop_heads tbl cols hlevel (by rwa [hlines]) hloop
  rw [hlines] at hst
  have hheads : heads' = st.heads := by
    split_ifs at hclose
    exact (congrArg Prod.snd (Outcome.done.inj hclose)).symm
  rw [hheads, hst]

end

namespace ScanAp

/-- The SSID column of the line is read as such. -/
def listed (cols : Nat) (ap : ScanAp) : Bool := cols.testBit 4 && ap.flags ≠ []

/-- **One access point.** -/
theorem lineHeads_line (tbl : Fin 24080 → UInt16) (cols : Nat) (ap : ScanAp) (heads : Heads) :
    lineHeads tbl cols heads ap.line =
      if ap.listed cols then ssidHeads tbl ap.column ap.isOpen heads else heads := by
  unfold lineHeads
  rw [ap.fields_line]
  unfold frontTokens flagsToken
  by_cases hflags : ap.flags = []
  · -- four tokens: the SSID is looked at as the flags
    have hlisted : ap.listed cols = false := by simp [listed, hflags]
    rw [if_pos hflags, hlisted]
    rfl
  · have hstrip : dropTrailing 10 ap.flags = ap.flags :=
      dropTrailing_of_not_mem (newline_printable fun b hb => (ap.flags_byte b hb).1)
    have hlisted : ap.listed cols = cols.testBit 4 := by simp [listed, hflags]
    rw [if_neg hflags, hlisted]
    show (columnLists tbl cols 4 (dropTrailing 10 (ap.column ++ [10]))
      (openFlags (dropTrailing 10 ap.flags) || false, heads)).2 = _
    rw [hstrip, dropTrailing_concat, Bool.or_false]
    unfold columnLists
    rw [if_neg (by decide)]
    by_cases hbit : cols.testBit 4 = true
    · rw [if_pos ⟨rfl, hbit⟩, if_pos hbit]
      rfl
    · rw [if_neg fun hc => hbit hc.2, if_neg hbit]

end ScanAp

/-- The lists after a scan of the listing. -/
def ScanListing.heads (tbl : Fin 24080 → UInt16) (cols : Nat) (L : ScanListing) : Heads :=
  L.aps.foldl
    (fun heads ap => if ap.listed cols then ssidHeads tbl ap.column ap.isOpen heads else heads)
    ⟨[], []⟩

/-- **After a scan.** The call returns, and leaves lists that are made of this listing only. -/
theorem scan_lists (tbl : Fin 24080 → UInt16) {cols : Nat} (hcols : cols &&& 0x1F ≠ 0)
    (L : ScanListing) (heads : Heads) {fuel : Nat} (hfuel : L.text.length < fuel) :
    ∃ r, rkWifiScanRSec tbl cols fuel heads (some L.text) = .done (r, L.heads tbl cols) := by
  have hlevel : rssiLabel.length ≤ 14 := by decide
  have hok : ∀ line ∈ scanLines L.text, ∀ heads, LineInv (fields isTab line) (.start heads) := by
    intro line hline heads
    rw [L.scanLines_text] at hline
    obtain ⟨ap, -, rfl⟩ := List.mem_map.mp hline
    exact ap.lineInv_line heads
  have hdone := scanFile_heads tbl cols hlevel heads hcols hfuel hok
  rw [L.scanLines_text, List.foldl_map] at hdone
  simp only [ScanAp.lineHeads_line] at hdone
  exact ⟨_, hdone⟩

/-! ## The two texts of a name -/

theorem removeEscape_eq_nil_iff {t : List UInt8} : removeEscapeCharacter t = [] ↔ t = [] := by
  match t with
  | [] => exact Iff.rfl
  | [b] => simp [removeEscapeCharacter]
  | b :: c :: rest =>
    rw [removeEscapeCharacter]
    split_ifs <;> simp

/-- Unescaping does not change whether a text is UTF-8. -/
theorem utf8Loop_removeEscape (n : Nat) (t : List UInt8) :
    utf8Loop n (removeEscapeCharacter t) = utf8Loop n t := by
  induction t using removeEscapeCharacter.induct generalizing n with
  | case1 => rfl
  | case2 b => rfl
  | case3 b c rest hbc ih =>
    obtain ⟨rfl, hc⟩ := hbc
    have hc80 : c &&& 0x80 = 0 := by rcases hc with rfl | rfl <;> decide
    rw [removeEscapeCharacter, if_pos ⟨rfl, hc⟩, utf8Loop_ascii_cons hc80,
      utf8Loop_ascii_cons (by decide), utf8Loop_ascii_cons hc80, ih]
    simp
  | case4 b c rest hbc ih =>
    rw [removeEscapeCharacter, if_neg hbc]
    simp only [utf8Loop, ih]

theorem gbkToUtf8_ne_nil {tbl : Fin 24080 → UInt16} (htbl : TableOk tbl) {t : List UInt8}
    (hne : t ≠ []) (hnul : 0 ∉ t) : gbkToUtf8 tbl t ≠ [] := by
  have hself : ∀ b : UInt8, b < 0x80 → b ∈ t → unicodeToUtf8 b.toNat ≠ [] := by
    intro b hb hmem
    rw [unicodeToUtf8_self hb fun h0 => hnul (h0 ▸ hmem)]
    exact List.cons_ne_nil b []
  have hwide : ∀ ch cl, unicodeToUtf8 (gbkToUnicode tbl ch cl).toNat ≠ [] := by
    intro ch cl
    obtain ⟨b, u, hu, -⟩ := unicodeToUtf8_inert (gbkToUnicode_ok htbl ch cl)
    rw [hu]
    exact List.cons_ne_nil b u
  match t, hne with
  | [b], _ =>
    rw [gbkToUtf8]
    split_ifs with hb
    · exact hself b hb List.mem_cons_self
    · exact hwide b 0
  | b :: c :: rest, _ =>
    rw [gbkToUtf8]
    split_ifs with hb
    · exact List.append_ne_nil_of_left_ne_nil (hself b hb List.mem_cons_self) _
    · exact List.append_ne_nil_of_left_ne_nil (hwide b c) _

namespace ScanAp

variable (tbl : Fin 24080 → UInt16) (ap : ScanAp)

theorem noNul_column : 0 ∉ ap.column := fun h0 => nomatch ap.tokOk_column.printable 0 h0

theorem noNul_listed : 0 ∉ listedBytes ap.column := listed_ne_zero ap.noNul_column

theorem listed_column : listedBytes ap.column = (cstr ap.ssid).flatMap escapedByte :=
  listed_printfEncode ap.ssid_noHex

theorem bytes_eq : ap.bytes = removeEscapeCharacter (listedBytes ap.column) := by
  obtain ⟨buf, hbuf⟩ := Option.isSome_iff_exists.mp ap.tokOk_column.expands
  unfold bytes statusName
  rw [hbuf, ← listed_of_specChar ap.noNul_column hbuf]
  rfl

theorem isUtf8_listed : rkEncodeIsUtf8 (listedBytes ap.column) = ap.isUtf8 := by
  rw [isUtf8_eq_loop ap.noNul_listed, ap.listed_column, utf8Loop_escaped,
    ← isUtf8_eq_loop (zero_not_mem_cstr ap.ssid)]
  rfl

theorem utf8Loop_bytes : utf8Loop 0 ap.bytes = ap.isUtf8 := by
  rw [ap.bytes_eq, utf8Loop_removeEscape, ← isUtf8_eq_loop ap.noNul_listed, ap.isUtf8_listed]

theorem shown_eq : ap.shown tbl =
    if ap.isUtf8 then ap.bytes else removeEscapeCharacter (gbkToUtf8 tbl (listedBytes ap.column)) := by
  unfold shown
  rw [ssidUtf8_eq tbl ap.tokOk_column, ap.isUtf8_listed, ap.bytes_eq]
  split_ifs <;> rfl

/-- The name of an SSID that is not UTF-8 differs from its bytes. -/
theorem shown_eq_bytes_iff : ap.shown tbl = ap.bytes ↔ ap.isUtf8 = true := by
  constructor
  · intro h
    by_contra hutf8
    have hloop := ap.utf8Loop_bytes
    rw [← h, ap.shown_eq, if_neg hutf8, utf8Loop_removeEscape, utf8Loop_gbk] at hloop
    exact hutf8 hloop.symm
  · intro h
    rw [ap.shown_eq, if_pos h]

theorem bytes_length : ap.bytes.length < 128 := by
  have hsub := (removeEscape_sublist (listedBytes ap.column)).length_le
  have hwidth := shownWidth_encoded_le ap.ssid_length.2
  have hle : (listedBytes ap.column).length ≤ shownWidth (listedBytes ap.column) :=
    Nat.le_add_right _ _
  have hcol : shownWidth (listedBytes ap.column) ≤ 112 := hwidth
  rw [ap.bytes_eq]
  omega

theorem shown_length : (ap.shown tbl).length < 128 := by
  have hsub := (removeEscape_sublist (ssidUtf8 tbl ap.column)).length_le
  have hlen := ssidUtf8_encoded_length_le tbl ap.ssid_length.2 ap.tokOk_column
  have hcol : (ssidUtf8 tbl ap.column).length ≤ 112 := hlen
  unfold shown
  omega

theorem bytes_ne_nil (h : ap.isUtf8 = false) : ap.bytes ≠ [] := by
  intro hnil
  have hloop := ap.utf8Loop_bytes
  rw [hnil, h] at hloop
  cases hloop

theorem shown_ne_nil {tbl : Fin 24080 → UInt16} (htbl : TableOk tbl) (h : ap.bytes ≠ []) :
    ap.shown tbl ≠ [] := by
  rw [ap.shown_eq]
  split_ifs
  · exact h
  · rw [ap.bytes_eq] at h
    have hne : listedBytes ap.column ≠ [] := mt removeEscape_eq_nil_iff.mpr h
    exact mt removeEscape_eq_nil_iff.mp (gbkToUtf8_ne_nil htbl hne ap.noNul_listed)

end ScanAp

/-! ## What the lists contain -/

theorem mem_encodeGbkInsert {head : List GbkEntry} {e : GbkEntry} {ori utf8 : List UInt8}
    (hori : ori.length < 128) (hutf8 : utf8.length < 128) :
    e ∈ encodeGbkInsert head ori utf8 ↔
      (ori ≠ [] ∧ utf8 ≠ [] ∧ e = ⟨ori, utf8⟩) ∨ e ∈ head := by
  unfold encodeGbkInsert
  rw [if_neg (c := 128 ≤ ori.length ∨ 128 ≤ utf8.length) (by omega)]
  split_ifs with hnil
  · tauto
  · rw [not_or] at hnil
    rw [List.mem_cons]
    tauto

/-- The entry for an access point. -/
def ScanAp.entry (tbl : Fin 24080 → UInt16) (ap : ScanAp) : GbkEntry := ⟨ap.bytes, ap.shown tbl⟩

section

variable {tbl : Fin 24080 → UInt16} (htbl : TableOk tbl) {cols : Nat} {e : GbkEntry}

include htbl

theorem mem_gbk_ssidHeads {ap : ScanAp} {isNonpsk : Bool} {heads : Heads} :
    e ∈ (ssidHeads tbl ap.column isNonpsk heads).gbk ↔
      (ap.isUtf8 = false ∧ e = ap.entry tbl) ∨ e ∈ heads.gbk := by
  unfold ssidHeads
  simp only [ap.isUtf8_listed, ← ap.bytes_eq]
  split_ifs with hutf8
  · simp [hutf8]
  · have hfalse := Bool.eq_false_iff.mpr hutf8
    have hbytes := ap.bytes_ne_nil hfalse
    refine (mem_encodeGbkInsert ap.bytes_length (ap.shown_length tbl)).trans ?_
    have hshown := ap.shown_ne_nil htbl hbytes
    exact or_congr_left ⟨fun h => ⟨hfalse, h.2.2⟩, fun h => ⟨hbytes, hshown, h.2⟩⟩

theorem mem_nonpsk_ssidHeads {ap : ScanAp} {isNonpsk : Bool} {heads : Heads} :
    e ∈ (ssidHeads tbl ap.column isNonpsk heads).nonpsk ↔
      (isNonpsk = true ∧ ap.bytes ≠ [] ∧ e = ap.entry tbl) ∨ e ∈ heads.nonpsk := by
  unfold ssidHeads
  simp only [← ap.bytes_eq]
  split_ifs with hopen
  · refine (mem_encodeGbkInsert ap.bytes_length (ap.shown_length tbl)).trans ?_
    exact or_congr_left ⟨fun h => ⟨hopen, h.1, h.2.2⟩,
      fun h => ⟨h.2.1, ap.shown_ne_nil htbl h.2.1, h.2.2⟩⟩
  · simp [hopen]

/-- `m_gbk_head` has the names that are not UTF-8. -/
theorem mem_gbk_heads {L : ScanListing} : e ∈ (L.heads tbl cols).gbk ↔
    ∃ ap ∈ L.aps, ap.listed cols = true ∧ ap.isUtf8 = false ∧ e = ap.entry tbl := by
  unfold ScanListing.heads
  induction L.aps using List.reverseRecOn with
  | nil => simp
  | append_singleton aps ap ih =>
    rw [List.foldl_append, List.foldl_cons, List.foldl_nil]
    split_ifs with hlisted
    · rw [mem_gbk_ssidHeads htbl, ih]
      simp [hlisted, or_and_right, exists_or, or_comm]
    · rw [ih]
      simp [hlisted, or_and_right, exists_or]

/-- `m_nonpsk_head` has the networks without a key. -/
theorem mem_nonpsk_heads {L : ScanListing} : e ∈ (L.heads tbl cols).nonpsk ↔
    ∃ ap ∈ L.aps, ap.listed cols = true ∧ ap.isOpen = true ∧ ap.bytes ≠ [] ∧ e = ap.entry tbl := by
  unfold ScanListing.heads
  induction L.aps using List.reverseRecOn with
  | nil => simp
  | append_singleton aps ap ih =>
    rw [List.foldl_append, List.foldl_cons, List.foldl_nil]
    split_ifs with hlisted
    · rw [mem_nonpsk_ssidHeads htbl, ih]
      simp [hlisted, or_and_right, exists_or, or_comm]
    · rw [ih]
      simp [hlisted, or_and_right, exists_or]

end

/-! ## Looking names up -/

/-- Both lookups: the first entry with the given key, or the text itself. -/
def translate (key value : GbkEntry → List UInt8) (head : List GbkEntry) (str : List UInt8) :
    List UInt8 :=
  match head.find? fun gbk => key gbk == str with
  | some gbk => value gbk
  | none => str

section

variable (key value : GbkEntry → List UInt8) {head : List GbkEntry} {str : List UInt8}

/-- A lookup gives an entry's value, or the text itself if no entry has it as its key. -/
theorem translate_cases (head : List GbkEntry) (str : List UInt8) :
    (∃ e ∈ head, key e = str ∧ translate key value head str = value e) ∨
      ((∀ e ∈ head, key e ≠ str) ∧ translate key value head str = str) := by
  unfold translate
  cases hfind : head.find? fun gbk => key gbk == str with
  | some e =>
    have hkey := List.find?_some hfind
    exact .inl ⟨e, List.mem_of_find?_eq_some hfind, by simpa using hkey, rfl⟩
  | none =>
    refine .inr ⟨fun e he => ?_, rfl⟩
    have hno := List.find?_eq_none.mp hfind e he
    simpa using hno

/-- A key that stands for one value is translated into it. -/
theorem translate_eq {r : List UInt8} (hvalue : ∀ e ∈ head, key e = str → value e = r)
    (habsent : (∀ e ∈ head, key e ≠ str) → str = r) : translate key value head str = r := by
  rcases translate_cases key value head str with ⟨e, he, hkey, h⟩ | ⟨hno, h⟩
  · exact h.trans (hvalue e he hkey)
  · exact h.trans (habsent hno)

end

/-! ## Which names are reached -/

/-- With the lists left by a scan, every displayed name leads to the bytes of its SSID, and
back. -/
structure NamesReached (tbl : Fin 24080 → UInt16) (L : ScanListing) (heads : Heads) : Prop where
  secured : ∀ ap ∈ L.aps, ap.isOpen = false → getEncodeGbkOri heads.gbk (ap.shown tbl) = ap.bytes
  keyless : ∀ ap ∈ L.aps, ap.isOpen = true →
    getEncodeGbkOri heads.nonpsk (ap.shown tbl) = ap.bytes
  back : ∀ ap ∈ L.aps, getEncodeGbkUtf8 heads.gbk ap.bytes = ap.shown tbl

/-- The scan leaves such lists, whatever the lists were before it. -/
def ScanReaches (tbl : Fin 24080 → UInt16) (cols : Nat) (L : ScanListing) : Prop :=
  ∃ heads, (∀ before fuel, L.text.length < fuel →
    ∃ r, rkWifiScanRSec tbl cols fuel before (some L.text) = .done (r, heads)) ∧
    NamesReached tbl L heads

/-- The SSID is UTF-8, or it is read from a line of the listing. -/
def ScanAp.Findable (cols : Nat) (L : ScanListing) (ap : ScanAp) : Prop :=
  ap.isUtf8 = true ∨
    ∃ ap' ∈ L.aps, ap'.listed cols = true ∧ ap'.isOpen = ap.isOpen ∧ ap'.bytes = ap.bytes

section

variable {tbl : Fin 24080 → UInt16} {cols : Nat} {L : ScanListing}

theorem isUtf8_of_bytes {ap ap' : ScanAp} (h : ap'.bytes = ap.bytes) : ap'.isUtf8 = ap.isUtf8 := by
  rw [← ap'.utf8Loop_bytes, h, ap.utf8Loop_bytes]

/-- A secured network has a flags column. -/
theorem listed_of_secured {ap : ScanAp} (h : ap.isOpen = false) :
    ap.listed cols = cols.testBit 4 := by
  have hflags : ap.flags ≠ [] := by
    intro hnil
    unfold ScanAp.isOpen at h
    rw [hnil] at h
    revert h
    decide
  simp [ScanAp.listed, hflags]

variable (htbl : TableOk tbl)
  (hnames : ∀ ap ∈ L.aps, ∀ ap' ∈ L.aps, ap.shown tbl = ap'.shown tbl ↔ ap.bytes = ap'.bytes)

include htbl hnames

theorem namesReached_of_findable (h : ∀ ap ∈ L.aps, ap.Findable cols L) :
    NamesReached tbl L (L.heads tbl cols) := by
  -- a name that is not UTF-8 has an entry under both of its keys
  have hentry : ∀ ap ∈ L.aps, ap.isUtf8 = false → ∃ ap' ∈ L.aps, ap'.listed cols = true ∧
      ap'.isOpen = ap.isOpen ∧ ap'.bytes = ap.bytes ∧ ap'.shown tbl = ap.shown tbl := by
    intro ap hap hutf8
    rcases h ap hap with hc | ⟨ap', hap', hlisted, hopen, hbytes⟩
    · rw [hutf8] at hc
      cases hc
    · exact ⟨ap', hap', hlisted, hopen, hbytes, (hnames ap' hap' ap hap).mpr hbytes⟩
  have hgbk : ∀ ap ∈ L.aps, ap.isUtf8 = false →
      ∃ e ∈ (L.heads tbl cols).gbk, e.utf8 = ap.shown tbl ∧ e.ori = ap.bytes := by
    intro ap hap hutf8
    obtain ⟨ap', hap', hlisted, -, hbytes, hshown⟩ := hentry ap hap hutf8
    refine ⟨ap'.entry tbl, (mem_gbk_heads htbl).mpr ⟨ap', hap', hlisted, ?_, rfl⟩, hshown, hbytes⟩
    exact (isUtf8_of_bytes hbytes).trans hutf8
  constructor
  · intro ap hap _
    refine translate_eq GbkEntry.utf8 GbkEntry.ori ?_ fun hno => ?_
    · rintro e he hkey
      obtain ⟨ap', hap', -, -, rfl⟩ := (mem_gbk_heads htbl).mp he
      exact (hnames ap' hap' ap hap).mp hkey
    · rw [ap.shown_eq_bytes_iff]
      by_contra hutf8
      obtain ⟨e, he, hkey, -⟩ := hgbk ap hap (Bool.eq_false_iff.mpr hutf8)
      exact hno e he hkey
  · intro ap hap hopen
    refine translate_eq GbkEntry.utf8 GbkEntry.ori ?_ fun hno => ?_
    · rintro e he hkey
      obtain ⟨ap', hap', -, -, -, rfl⟩ := (mem_nonpsk_heads htbl).mp he
      exact (hnames ap' hap' ap hap).mp hkey
    · rw [ap.shown_eq_bytes_iff]
      by_contra hutf8
      have hfalse := Bool.eq_false_iff.mpr hutf8
      obtain ⟨ap', hap', hlisted, hopen', hbytes, hshown⟩ := hentry ap hap hfalse
      have hne : ap'.bytes ≠ [] := hbytes ▸ ap.bytes_ne_nil hfalse
      exact hno (ap'.entry tbl)
        ((mem_nonpsk_heads htbl).mpr ⟨ap', hap', hlisted, hopen'.trans hopen, hne, rfl⟩) hshown
  · intro ap hap
    refine translate_eq GbkEntry.ori GbkEntry.utf8 ?_ fun hno => ?_
    · rintro e he hkey
      obtain ⟨ap', hap', -, -, rfl⟩ := (mem_gbk_heads htbl).mp he
      exact (hnames ap' hap' ap hap).mpr hkey
    · rw [eq_comm, ap.shown_eq_bytes_iff]
      by_contra hutf8
      obtain ⟨e, he, -, hkey⟩ := hgbk ap hap (Bool.eq_false_iff.mpr hutf8)
      exact hno e he hkey

omit hnames in
theorem findable_of_namesReached (h : NamesReached tbl L (L.heads tbl cols)) :
    ∀ ap ∈ L.aps, ap.Findable cols L := by
  intro ap hap
  by_cases hutf8 : ap.isUtf8 = true
  · exact .inl hutf8
  have hne : ap.shown tbl ≠ ap.bytes := mt (ap.shown_eq_bytes_iff tbl).mp hutf8
  refine .inr ?_
  cases hopen : ap.isOpen with
  | false =>
    have hfound := h.secured ap hap hopen
    rcases translate_cases GbkEntry.utf8 GbkEntry.ori (L.heads tbl cols).gbk (ap.shown tbl) with
      ⟨e, he, -, -⟩ | ⟨-, hself⟩
    · obtain ⟨ap', -, hlisted, -⟩ := (mem_gbk_heads htbl).mp he
      have hbit : cols.testBit 4 = true := by
        unfold ScanAp.listed at hlisted
        exact ((Bool.and_eq_true _ _).mp hlisted).1
      exact ⟨ap, hap, (listed_of_secured hopen).trans hbit, hopen, rfl⟩
    · exact absurd (hself.symm.trans hfound) hne
  | true =>
    have hfound := h.keyless ap hap hopen
    rcases translate_cases GbkEntry.utf8 GbkEntry.ori (L.heads tbl cols).nonpsk (ap.shown tbl) with
      ⟨e, he, -, hvalue⟩ | ⟨-, hself⟩
    · obtain ⟨ap', hap', hlisted, hopen', -, rfl⟩ := (mem_nonpsk_heads htbl).mp he
      exact ⟨ap', hap', hlisted, hopen', hvalue.symm.trans hfound⟩
    · exact absurd (hself.symm.trans hfound) hne

end

theorem scanReaches_iff {tbl : Fin 24080 → UInt16} {cols : Nat} (hcols : cols &&& 0x1F ≠ 0)
    (L : ScanListing) : ScanReaches tbl cols L ↔ NamesReached tbl L (L.heads tbl cols) := by
  constructor
  · rintro ⟨heads, hscan, h⟩
    obtain ⟨r, hr⟩ := hscan ⟨[], []⟩ (L.text.length + 1) (Nat.lt_succ_self _)
    obtain ⟨r', hr'⟩ := scan_lists tbl hcols L ⟨[], []⟩ (Nat.lt_succ_self L.text.length)
    have heq := Outcome.done.inj (hr.symm.trans hr')
    rwa [show heads = L.heads tbl cols from congrArg Prod.snd heq] at h
  · exact fun h => ⟨_, fun before fuel hfuel => scan_lists tbl hcols L before hfuel, h⟩

theorem escapedByte_quoted {b : UInt8} (h : b = quote ∨ b = bslash) :
    escapedByte b = [bslash, b] := by
  rcases h with rfl | rfl <;> rfl

theorem escapedByte_self {b : UInt8} (hq : ¬ (b = quote ∨ b = bslash))
    (hl : letterEscaped b = false) : escapedByte b = [b] := by
  refine if_neg ?_
  rw [hl, ← or_assoc]
  simpa using hq

/-- Unescaping leaves the four letter escapes as they are. -/
theorem removeEscape_escaped_length (s : List UInt8) :
    (removeEscapeCharacter (s.flatMap escapedByte)).length = s.length + s.countP letterEscaped := by
  have hkept : ∀ b, (b = quote ∨ b = bslash) → letterEscaped b = false := by
    rintro _ (rfl | rfl) <;> rfl
  have hletter : ∀ b, letterEscaped b = true →
      ∃ c ∈ ([101, 110, 114, 116] : List UInt8), escapedByte b = [bslash, c] := by
    intro b hb
    simp only [letterEscaped, Bool.or_eq_true, decide_eq_true_eq] at hb
    rcases hb with ((rfl | rfl) | rfl) | rfl <;> exact ⟨_, by simp, rfl⟩
  induction s with
  | nil => rfl
  | cons b s ih =>
    rw [List.flatMap_cons, List.countP_cons, List.length_cons]
    by_cases hq : b = quote ∨ b = bslash
    · rw [escapedByte_quoted hq, hkept b hq]
      show (removeEscapeCharacter (bslash :: b :: s.flatMap escapedByte)).length = _
      rw [removeEscape_pair hq, List.length_cons, ih, if_neg Bool.false_ne_true]
      omega
    cases hl : letterEscaped b with
    | true =>
      obtain ⟨c, hc, hesc⟩ := hletter b hl
      obtain ⟨h1, h2, -⟩ := letter_ne c hc
      rw [hesc]
      show (removeEscapeCharacter (bslash :: c :: s.flatMap escapedByte)).length = _
      rw [removeEscape_bslash h1 h2, List.length_cons, List.length_cons, ih, if_pos rfl]
      omega
    | false =>
      have hb : b ≠ bslash := fun h => hq (.inr h)
      rw [escapedByte_self hq hl]
      show (removeEscapeCharacter (b :: s.flatMap escapedByte)).length = _
      rw [removeEscape_cons hb, List.length_cons, ih, if_neg Bool.false_ne_true]
      omega

/-- The unescaped bytes are the SSID itself if it has neither NUL nor one of the four control
bytes with a letter escape. -/
theorem ScanAp.bytes_eq_ssid_iff (ap : ScanAp) :
    ap.bytes = ap.ssid ↔ 0 ∉ ap.ssid ∧ ∀ b ∈ ap.ssid, letterEscaped b = false := by
  constructor
  · intro h
    have hnul : 0 ∉ ap.ssid := by
      rw [← h, ap.bytes_eq]
      exact fun h0 => ap.noNul_listed ((removeEscape_sublist _).subset h0)
    have hlen := removeEscape_escaped_length ap.ssid
    rw [← cstr_eq_self hnul, ← ap.listed_column, ← ap.bytes_eq, h, cstr_eq_self hnul] at hlen
    have hcount : ap.ssid.countP letterEscaped = 0 := by omega
    refine ⟨hnul, fun b hb => ?_⟩
    simpa using List.countP_eq_zero.mp hcount b hb
  · rintro ⟨hnul, hletters⟩
    rw [ap.bytes_eq, ap.listed_column, cstr_eq_self hnul]
    have hsame : ap.ssid.flatMap escapedByte = ap.ssid.flatMap expandedByte := by
      refine List.flatMap_congr fun b hb => ?_
      unfold expandedByte
      split_ifs with hq
      · exact escapedByte_quoted hq
      · exact escapedByte_self hq (hletters b hb)
    rw [hsame, removeEscape_expanded]

/-- **Connecting by name.** If different names stand for different SSIDs, a scan that reads the
listing leads every name to its bytes exactly if each SSID is UTF-8 or is read from a line with
flags. The bytes are those of the SSID unless it has a NUL, ESC, LF, CR or TAB. -/
theorem names_reached_iff {tbl : Fin 24080 → UInt16} (htbl : TableOk tbl) {cols : Nat}
    (hcols : cols &&& 0x1F ≠ 0) (L : ScanListing)
    (hnames : ∀ ap ∈ L.aps, ∀ ap' ∈ L.aps, ap.shown tbl = ap'.shown tbl ↔ ap.bytes = ap'.bytes) :
    (ScanReaches tbl cols L ↔ ∀ ap ∈ L.aps, ap.Findable cols L) ∧
      ∀ ap ∈ L.aps, ap.bytes = ap.ssid ↔ 0 ∉ ap.ssid ∧ ∀ b ∈ ap.ssid, letterEscaped b = false := by
  rw [scanReaches_iff hcols]
  refine ⟨⟨findable_of_namesReached htbl, namesReached_of_findable htbl hnames⟩, fun ap _ => ?_⟩
  exact ap.bytes_eq_ssid_iff

theorem gbkAp_short {flags : List UInt8} (hshort : flags.length < 200) :
    (apColumns (chars "02:00:00:00:00:01") 2412 (-40) flags [0xC4, 0xE3]).length < 254 := by
  have hfreq : (decimal 2412).length = 4 := by decide
  have hsignal : (decimal (-40)).length = 3 := by decide
  have hssid : (printfEncode [0xC4, 0xE3]).length = 8 := by decide
  simp only [apColumns, List.length_append, List.length_cons, sampleBssid_length, hfreq, hsignal,
    hssid]
  omega

/-- An access point whose SSID is the double byte `C4E3`. -/
def gbkAp (flags : List UInt8) (hbyte : ∀ b ∈ flags, printable b = true ∧ b ≠ bslash)
    (hshort : flags.length < 200) : ScanAp where
  bssid := chars "02:00:00:00:00:01"
  freq := 2412
  signal := -40
  flags := flags
  ssid := [0xC4, 0xE3]
  bssid_length := sampleBssid_length
  bssid_mac := sampleBssid_mac
  flags_byte := hbyte
  ssid_length := by decide
  ssid_noHex := by decide
  short := gbkAp_short hshort

/-- A listing of one access point. -/
def oneAp (ap : ScanAp) : ScanListing where
  header := chars "bssid / frequency / signal level / flags / ssid"
  header_line := sampleHeader_line
  header_short := sampleHeader_short
  aps := [ap]

/-- A secured network with a double-byte name is reached. -/
theorem names_reached_secured :
    ScanReaches mbGb2uniTable 0x1F
      (oneAp (gbkAp (chars "[WPA2-PSK-CCMP][ESS]") (by decide +kernel) (by decide))) := by
  refine (names_reached_iff gapsAtDel_mbGb2uniTable.tableOk (by decide) _ ?_).1.mpr ?_
  · intro ap hap ap' hap'
    rw [List.mem_singleton.mp hap, List.mem_singleton.mp hap']
    exact iff_of_true rfl rfl
  · intro ap hap
    rw [List.mem_singleton.mp hap]
    exact .inr ⟨_, List.mem_singleton.mpr rfl, by decide, rfl, rfl⟩

/-- With an empty flags column the same SSID is in neither list, and connecting to its name
sends the name. -/
theorem empty_flags_lost : ¬ ∀ tbl, TableOk tbl → ∀ L : ScanListing,
    (∀ ap ∈ L.aps, ∀ ap' ∈ L.aps, ap.shown tbl = ap'.shown tbl ↔ ap.bytes = ap'.bytes) →
      ScanReaches tbl 0x1F L := by
  intro h
  have hreach := h mbGb2uniTable gapsAtDel_mbGb2uniTable.tableOk
    (oneAp (gbkAp [] (fun b hb => nomatch hb) (by decide))) ?_
  · have hnames := (scanReaches_iff (by decide) _).mp hreach
    have hlost := hnames.keyless _ (List.mem_singleton.mpr rfl) (by decide)
    revert hlost
    decide +kernel
  · intro ap hap ap' hap'
    rw [List.mem_singleton.mp hap, List.mem_singleton.mp hap']
    exact iff_of_true rfl rfl

end ConnectApp.Wifi
