import ConnectApp.Wifi.ScanColumn

/-!
# The scan result as a JSON text (Rk_wifi.c:1254, 1392-1520)

`Listing` is what `wpa_cli scan_r` prints. `scan_json_iff` says for which listings
`RK_wifi_scan_r` returns a JSON array with one object for each access point: those in
which every flags column fits into `col[128]` and every SSID column is a JSON string
body as it stands. An SSID with an ESC byte, whose `\e` JSON does not know, makes the
whole result unreadable (`escape_byte_not_json`).
-/

namespace ConnectApp.Wifi

open CString ConnectApp.Encode

/-! ## Listings -/

/-- A character of a MAC address. -/
def macByte (b : UInt8) : Bool := Json.isHex b || b = 58

/-- A character of a word in the flags column. -/
def wordByte (b : UInt8) : Bool :=
  printable b && b ≠ 32 && b ≠ quote && b ≠ bslash && b ≠ 91 && b ≠ 93

/-- The words of a flags column, each in brackets. -/
def bracketed (words : List (List UInt8)) : List UInt8 := words.flatMap fun w => 91 :: w ++ [93]

/-- The columns of an access point before its newline. -/
def apColumns (bssid : List UInt8) (freq signal : Int) (flags ssid : List UInt8) : List UInt8 :=
  bssid ++ 9 :: (decimal freq ++ 9 :: (decimal signal ++ 9 :: (flags ++ 9 :: printfEncode ssid)))

/-- One access point of a listing. -/
structure Ap where
  bssid : List UInt8
  freq : Int
  signal : Int
  words : List (List UInt8)
  ssid : List UInt8
  bssid_length : bssid.length = 17
  bssid_mac : ∀ b ∈ bssid, macByte b = true
  freq_int : -2 ^ 31 ≤ freq ∧ freq < 2 ^ 31
  signal_int : -2 ^ 31 ≤ signal ∧ signal < 2 ^ 31
  words_ne : words ≠ []
  words_byte : ∀ w ∈ words, ∀ b ∈ w, wordByte b = true
  ssid_short : ssid.length ≤ 32
  ssid_noNul : 0 ∉ ssid
  short : (apColumns bssid freq signal (bracketed words) ssid).length < 254

namespace Ap

/-- The flags column. -/
def flags (ap : Ap) : List UInt8 := bracketed ap.words

/-- The row of the access point. -/
def columns (ap : Ap) : List UInt8 := apColumns ap.bssid ap.freq ap.signal ap.flags ap.ssid

/-- The line of the access point. -/
def line (ap : Ap) : List UInt8 := ap.columns ++ [10]

end Ap

/-- What `wpa_cli scan_r` prints: a header line and one line for each access point. -/
structure Listing where
  header : List UInt8
  header_line : (10 : UInt8) ∉ header
  header_short : header.length < 254
  aps : List Ap

/-- What `scan_results` prints. -/
def Listing.text (L : Listing) : List UInt8 := L.header ++ 10 :: L.aps.flatMap Ap.line

/-! ## The bytes of a line -/

/-- The bytes of the columns before the SSID. -/
theorem columnByte_plain : ∀ b,
    macByte b = true ∨ wordByte b = true ∨ isDigit b = true ∨ b = 45 →
      printable b = true ∧ b ≠ quote ∧ b ≠ bslash := by
  decide +kernel

/-- The three columns in front of the flags. -/
theorem front_plain {bssid : List UInt8} (hlen : bssid.length = 17)
    (hmac : ∀ b ∈ bssid, macByte b = true) (freq signal : Int) :
    ∀ t ∈ [bssid, decimal freq, decimal signal],
      t ≠ [] ∧ ∀ b ∈ t, printable b = true ∧ b ≠ bslash := by
  have hne : bssid ≠ [] := by
    rintro rfl
    cases hlen
  have hdec : ∀ z, ∀ b ∈ decimal z, printable b = true ∧ b ≠ bslash := by
    intro z b hb
    obtain ⟨hp, -, hs⟩ := columnByte_plain b (.inr (.inr (decimal_byte z b hb)))
    exact ⟨hp, hs⟩
  simp only [List.forall_mem_cons]
  refine ⟨⟨hne, fun b hb => ?_⟩, ⟨decimal_ne_nil _, hdec _⟩, ⟨decimal_ne_nil _, hdec _⟩, by simp⟩
  obtain ⟨hp, -, hs⟩ := columnByte_plain b (.inl (hmac b hb))
  exact ⟨hp, hs⟩

theorem printable_ne (b : UInt8) (h : printable b = true) : isTab b = false ∧ b ≠ 10 := by
  simp [printable, isTab, UInt8.le_iff_toNat_le, ← UInt8.toNat_inj] at h ⊢
  omega

theorem newline_printable {t : List UInt8} (h : ∀ b ∈ t, printable b = true) :
    (10 : UInt8) ∉ t :=
  fun h10 => (printable_ne 10 (h 10 h10)).2 rfl

/-- A column without tabs is one token, or none if it is empty. -/
theorem fields_printable {t : List UInt8} (h : ∀ b ∈ t, printable b = true) :
    fields isTab t = if t = [] then [] else [t] := by
  split_ifs with hnil
  · rw [hnil]
    rfl
  · exact fields_of_none (fun b hb => (printable_ne b (h b hb)).1) hnil

section

variable {bssid flags : List UInt8} {freq signal : Int}
  (hfront : ∀ t ∈ [bssid, decimal freq, decimal signal],
    t ≠ [] ∧ ∀ b ∈ t, printable b = true ∧ b ≠ bslash)

include hfront

/-- The tokens of a line; the flags are one of them unless they are empty. -/
theorem fields_apColumns (hflags : ∀ b ∈ flags, printable b = true) (ssid : List UInt8) :
    fields isTab (apColumns bssid freq signal flags ssid ++ [10]) =
      [bssid, decimal freq, decimal signal] ++ (if flags = [] then [] else [flags]) ++
        [printfEncode ssid ++ [10]] := by
  have htoken : ∀ t ∈ [bssid, decimal freq, decimal signal], fields isTab t = [t] := by
    intro t ht
    rw [fields_printable fun b hb => ((hfront t ht).2 b hb).1, if_neg (hfront t ht).1]
  have hlast : fields isTab (printfEncode ssid ++ [10]) = [printfEncode ssid ++ [10]] := by
    refine fields_of_none (fun b hb => ?_) (by simp)
    rcases List.mem_append.mp hb with hb | hb
    · exact (printable_ne b (printfEncode_printable _ b hb)).1
    · rw [List.mem_singleton.mp hb]
      rfl
  simp only [List.forall_mem_cons] at htoken
  obtain ⟨hbssid, hfreq, hsignal, -⟩ := htoken
  have htab : isTab 9 = true := rfl
  rw [apColumns]
  simp only [List.append_assoc, List.cons_append, fields_append htab, hbssid, hfreq, hsignal,
    fields_printable hflags, hlast, List.nil_append]

theorem newline_apColumns (hflags : ∀ b ∈ flags, printable b = true) (ssid : List UInt8) :
    (10 : UInt8) ∉ apColumns bssid freq signal flags ssid := by
  have hno : ∀ t ∈ [bssid, decimal freq, decimal signal], (10 : UInt8) ∉ t :=
    fun t ht => newline_printable fun b hb => ((hfront t ht).2 b hb).1
  have hno' := newline_printable hflags
  have hssid := newline_printable (printfEncode_printable ssid)
  simp only [List.forall_mem_cons] at hno
  obtain ⟨hbssid, hfreq, hsignal, -⟩ := hno
  simp [apColumns, hbssid, hfreq, hsignal, hno', hssid]

end

namespace Ap

variable (ap : Ap)

theorem flags_byte : ∀ b ∈ ap.flags, printable b = true ∧ b ≠ quote ∧ b ≠ bslash := by
  intro b hb
  obtain ⟨w, hw, hb⟩ := List.mem_flatMap.mp hb
  rcases List.mem_append.mp hb with hb | hb
  · rcases List.mem_cons.mp hb with rfl | hb
    · decide
    · exact columnByte_plain b (.inr (.inl (ap.words_byte w hw b hb)))
  · rw [List.mem_singleton.mp hb]
    decide

theorem flags_ne_nil : ap.flags ≠ [] := by
  obtain ⟨w, ws, hws⟩ := List.exists_cons_of_ne_nil ap.words_ne
  show bracketed ap.words ≠ []
  rw [hws]
  simp [bracketed]

/-- The tokens before the SSID. -/
def frontTokens : List (List UInt8) := [ap.bssid, decimal ap.freq, decimal ap.signal, ap.flags]

/-- They are printable and hold no backslash. -/
theorem frontTokens_byte : ∀ t ∈ ap.frontTokens, ∀ b ∈ t, printable b = true ∧ b ≠ bslash := by
  have hfront := front_plain ap.bssid_length ap.bssid_mac ap.freq ap.signal
  rw [frontTokens]
  simp only [List.forall_mem_cons] at hfront ⊢
  obtain ⟨hbssid, hfreq, hsignal, -⟩ := hfront
  refine ⟨hbssid.2, hfreq.2, hsignal.2, fun b hb => ?_, by simp⟩
  exact ⟨(ap.flags_byte b hb).1, (ap.flags_byte b hb).2.2⟩

theorem dropTrailing_front : ∀ t ∈ ap.frontTokens, dropTrailing 10 t = t := fun t ht =>
  dropTrailing_of_not_mem (newline_printable fun b hb => (ap.frontTokens_byte t ht b hb).1)

theorem fields_line : fields isTab ap.line = ap.frontTokens ++ [printfEncode ap.ssid ++ [10]] := by
  have hfields := fields_apColumns (front_plain ap.bssid_length ap.bssid_mac ap.freq ap.signal)
    (fun b hb => (ap.flags_byte b hb).1) ap.ssid
  rw [if_neg ap.flags_ne_nil] at hfields
  exact hfields

theorem newline_columns : (10 : UInt8) ∉ ap.columns :=
  newline_apColumns (front_plain ap.bssid_length ap.bssid_mac ap.freq ap.signal)
    (fun b hb => (ap.flags_byte b hb).1) ap.ssid

theorem line_length_le : ap.line.length ≤ 254 := by
  have hshort : ap.columns.length < 254 := ap.short
  rw [line, List.length_append, List.length_singleton]
  omega

end Ap

/-! ## The text of an object -/

/-- A text between two quotes. -/
def strText (u : List UInt8) : List UInt8 := 34 :: u ++ [34]

/-- The flags member as printed into `col[128]`. -/
def flagsColumn (ap : Ap) : List UInt8 :=
  snprintf 128 (strText (chars "flags") ++ [58] ++ strText ap.flags ++ [44])

/-- The object `RK_wifi_scan_r` prints for an access point. -/
def objectText (tbl : Fin 24080 → UInt16) (ap : Ap) : List UInt8 :=
  [123] ++ (strText (chars "bssid") ++ [58]) ++ strText ap.bssid ++ [44] ++
    (strText (chars "frequency") ++ [58]) ++ (decimal ap.freq ++ [44]) ++
    (strText (chars "rssi") ++ [58]) ++ (decimal ap.signal ++ [44]) ++ flagsColumn ap ++
    (strText (chars "ssid") ++ [58]) ++ strText (ssidUtf8 tbl (printfEncode ap.ssid)) ++ [125]

section

variable (tbl : Fin 24080 → UInt16) (ap : Ap)

theorem quoteComma : chars "\"," = [34, 44] := by decide

theorem columnText_bssid (u : List UInt8) : columnText rssiLabel 0x1F 0 ap.bssid u =
    strText (chars "bssid") ++ [58] ++ strText ap.bssid ++ [44] := by
  have hlen := ap.bssid_length
  have hfull : columnText rssiLabel 0x1F 0 ap.bssid u =
      snprintf 128 (chars "\"bssid\":\"" ++ ap.bssid ++ chars "\",") := rfl
  have hlabel : chars "\"bssid\":\"" = strText (chars "bssid") ++ [58, 34] := by decide
  rw [hfull, snprintf_eq_self (by simp [chars]; omega), hlabel, quoteComma]
  simp [strText]

theorem columnText_number (label : List UInt8) (hlabel : label.length ≤ 12) {z : Int}
    (hz : -2 ^ 31 ≤ z ∧ z < 2 ^ 31) :
    snprintf 128 (label ++ decimal (atoi (decimal z)) ++ chars ",") = label ++ decimal z ++ [44] := by
  have hlen := decimal_length_le hz
  rw [atoi_decimal hz, snprintf_eq_self (by simp [chars]; omega)]
  rfl

theorem columnText_flags (u : List UInt8) :
    columnText rssiLabel 0x1F 3 ap.flags u = flagsColumn ap := by
  have hfull : columnText rssiLabel 0x1F 3 ap.flags u =
      snprintf 128 (chars "\"flags\":\"" ++ ap.flags ++ chars "\",") := rfl
  have hlabel : chars "\"flags\":\"" = strText (chars "flags") ++ [58, 34] := by decide
  rw [hfull, hlabel, quoteComma]
  unfold flagsColumn
  simp [strText]

theorem columnText_ssid (tok : List UInt8) {u : List UInt8} (hu : u.length ≤ 112) :
    columnText rssiLabel 0x1F 4 tok u = strText (chars "ssid") ++ [58] ++ strText u ++ [44] := by
  have hfull : columnText rssiLabel 0x1F 4 tok u =
      snprintf 128 (chars "\"ssid\":\"" ++ u ++ chars "\",") := rfl
  have hlabel : chars "\"ssid\":\"" = strText (chars "ssid") ++ [58, 34] := by decide
  rw [hfull, snprintf_eq_self (by simp [chars]; omega), hlabel, quoteComma]
  simp [strText]

/-- The SSID column of an access point that `spec_char_convers` can expand. -/
theorem tokOk_ssid (h : escapesFit encByte ap.ssid = true) : TokOk (printfEncode ap.ssid) :=
  ⟨printfEncode_printable _, (isSome_flatMap_iff encByte_textView ap.ssid).mpr h⟩

/-- **One access point, one object.** -/
theorem lineItem_line (h : escapesFit encByte ap.ssid = true) :
    lineItem tbl rssiLabel 0x1F ap.line = objectText tbl ap ++ [44] := by
  have hnl := ap.dropTrailing_front
  rw [Ap.frontTokens] at hnl
  simp only [List.forall_mem_cons] at hnl
  obtain ⟨h1, h2, h3, h4, -⟩ := hnl
  have hssid := ssidUtf8_encoded_length_le tbl ap.ssid_short (tokOk_ssid ap h)
  have hcols : columns tbl rssiLabel 0x1F 0 (fields isTab ap.line) =
      columnText rssiLabel 0x1F 0 ap.bssid (ssidUtf8 tbl ap.bssid) ++
      (columnText rssiLabel 0x1F 1 (decimal ap.freq) (ssidUtf8 tbl (decimal ap.freq)) ++
      (columnText rssiLabel 0x1F 2 (decimal ap.signal) (ssidUtf8 tbl (decimal ap.signal)) ++
      (columnText rssiLabel 0x1F 3 ap.flags (ssidUtf8 tbl ap.flags) ++
      columnText rssiLabel 0x1F 4 (printfEncode ap.ssid) (ssidUtf8 tbl (printfEncode ap.ssid))))) := by
    rw [ap.fields_line, Ap.frontTokens]
    simp only [List.cons_append, List.nil_append, columns, h1, h2, h3, h4, dropTrailing_concat,
      List.append_nil]
    rfl
  have hfreq : columnText rssiLabel 0x1F 1 (decimal ap.freq) (ssidUtf8 tbl (decimal ap.freq)) =
      strText (chars "frequency") ++ [58] ++ decimal ap.freq ++ [44] :=
    columnText_number (chars "\"frequency\":") (by decide) ap.freq_int
  have hsig : columnText rssiLabel 0x1F 2 (decimal ap.signal) (ssidUtf8 tbl (decimal ap.signal)) =
      strText (chars "rssi") ++ [58] ++ decimal ap.signal ++ [44] :=
    columnText_number rssiLabel (by decide) ap.signal_int
  unfold lineItem closeItem
  rw [hcols, columnText_bssid, hfreq, hsig, columnText_flags, columnText_ssid _ hssid]
  have hopen : chars "\x7b" = [123] := by decide
  have hclose : chars "\x7d," = [125, 44] := by decide
  unfold objectText
  rw [hopen, hclose]
  simp only [← List.append_assoc]
  rw [dropTrailing_concat]
  simp

/-! ## The loops on a listing -/

theorem fgets_line (rest : List UInt8) : fgets 255 (ap.line ++ rest) = some (ap.line, rest) := by
  unfold Ap.line
  rw [List.append_assoc, List.singleton_append]
  exact fgets_newline ap.newline_columns ap.short rest

theorem tokOk_plain {t : List UInt8} (h : ∀ b ∈ t, printable b = true ∧ b ≠ bslash) : TokOk t := by
  refine ⟨fun b hb => (h b hb).1, ?_⟩
  have hsome := isSome_append (d := t) (fun hb => (h _ hb).2 rfl) []
  rw [List.append_nil] at hsome
  rw [hsome]
  rfl

/-- The tokens before the SSID are processed without further conditions. -/
theorem lineInv_columns (heads : Heads) : LineInv ap.frontTokens (.start heads) := by
  refine ⟨fun t ht => ?_, ?_⟩
  · rw [ap.dropTrailing_front t ht]
    exact tokOk_plain (ap.frontTokens_byte t ht)
  · have hflat := (flatten_fields_sublist isTab ap.line).length_le
    have hlen := ap.line_length_le
    rw [ap.fields_line, List.flatten_append, List.length_append] at hflat
    show 1 + _ + 82 ≤ 337
    omega

theorem lineInv_line (h : escapesFit encByte ap.ssid = true) (heads : Heads) :
    LineInv (fields isTab ap.line) (.start heads) := by
  refine lineInv_of_toks ap.line_length_le (fun t ht => ?_) heads
  rw [ap.fields_line] at ht
  rcases List.mem_append.mp ht with ht | ht
  · exact (lineInv_columns ap heads).toksOk t ht
  · rw [List.mem_singleton.mp ht, dropTrailing_concat]
    exact tokOk_ssid ap h

/-- An SSID whose escapes do not fit makes the call read past its text. -/
theorem lineLoop_fault (h : escapesFit encByte ap.ssid = false) (heads : Heads) (fuel : Nat) :
    lineLoop tbl rssiLabel 0x1F (5 + fuel) (fields isTab ap.line) (.start heads) = .fault := by
  have hnone : specCharConvers (printfEncode ap.ssid) = none := by
    rw [← Option.not_isSome_iff_eq_none]
    intro hsome
    rw [(isSome_flatMap_iff encByte_textView ap.ssid).mp hsome] at h
    cases h
  have hne : printfEncode ap.ssid ≠ [] := by
    intro hnil
    rw [hnil] at hnone
    cases hnone
  obtain ⟨st, hloop, hindex, -⟩ := lineLoop_append tbl 0x1F (by decide : rssiLabel.length ≤ 14)
    (lineInv_columns ap heads) (1 + fuel) [printfEncode ap.ssid ++ [10]]
  have hindex : st.index = 4 := hindex
  have hssid : ssidColumn tbl (printfEncode ap.ssid) st.isNonpsk st.heads = .fault := by
    unfold ssidColumn
    rw [if_neg hne, hnone]
  have hstep : columnStep tbl rssiLabel 0x1F (printfEncode ap.ssid) st = .fault := by
    unfold columnStep
    rw [hindex, hssid]
    rfl
  rw [ap.fields_line]
  rw [show 5 + fuel = 4 + (1 + fuel) by omega]
  refine hloop.trans ?_
  rw [Nat.add_comm 1 fuel, lineLoop, dropTrailing_concat, hstep]

end

section

variable (tbl : Fin 24080 → UInt16)

theorem scanLoop_fault {aps : List Ap} {lineFuel fuel : Nat} {st : ScanState}
    (hfuel : (aps.flatMap Ap.line).length < fuel) (hline : (aps.flatMap Ap.line).length < lineFuel)
    (hsize : st.scanR.length + 3 < st.size)
    (hbad : ∃ ap ∈ aps, escapesFit encByte ap.ssid = false) :
    scanLoop tbl rssiLabel 0x1F lineFuel fuel (aps.flatMap Ap.line) st = .fault := by
  have hlevel : rssiLabel.length ≤ 14 := by decide
  induction aps generalizing fuel st with
  | nil => simp at hbad
  | cons ap aps ih =>
    obtain ⟨fuel, rfl⟩ : ∃ n, fuel = n + 1 := ⟨fuel - 1, by omega⟩
    rw [List.flatMap_cons] at hfuel hline ⊢
    rw [List.length_append] at hfuel hline
    have htoks : (fields isTab ap.line).length = 5 := by rw [ap.fields_line]; rfl
    have hlen : (fields isTab ap.line).length ≤ ap.line.length := length_fields_le _ _
    rw [scanLoop, fgets_line]
    by_cases hap : escapesFit encByte ap.ssid = true
    · have hfive : (fields isTab ap.line).length ≤ lineFuel := by omega
      obtain ⟨ls, hls, -, hitem⟩ :=
        lineLoop_done tbl 0x1F hlevel (lineInv_line ap hap st.heads) hfive
      obtain ⟨size, happ, hsize'⟩ := appendItem_done hitem hsize
      simp only [hls, Outcome.bind, happ]
      refine ih (by omega) (by omega) hsize' ?_
      obtain ⟨bad, hmem, hbad⟩ := hbad
      rcases List.mem_cons.mp hmem with rfl | hmem
      · rw [hap] at hbad
        cases hbad
      · exact ⟨bad, hmem, hbad⟩
    · obtain ⟨n, rfl⟩ : ∃ n, lineFuel = 5 + n := ⟨lineFuel - 5, by omega⟩
      simp only [lineLoop_fault tbl ap (by simpa using hap), Outcome.bind]

theorem afterHeader_text (L : Listing) : afterHeader L.text = L.aps.flatMap Ap.line := by
  have hshort := L.header_short
  unfold afterHeader Listing.text
  rw [takeLine_line L.header_line (by omega)]

theorem scanLines_text (L : Listing) : scanLines L.text = L.aps.map Ap.line := by
  have hlines : L.aps.flatMap Ap.line = (L.aps.map Ap.columns).flatMap (· ++ [10]) := by
    rw [List.flatMap_map]
    rfl
  rw [Listing.text, hlines, scanLines_header L.header_line L.header_short, List.map_map]
  · rfl
  · intro l hl
    obtain ⟨ap, -, rfl⟩ := List.mem_map.mp hl
    exact ⟨ap.newline_columns, ap.short⟩

/-- What follows the bracket of the array. -/
def objectsText : List Ap → List UInt8
  | [] => [93]
  | [ap] => objectText tbl ap ++ [93]
  | ap :: ap' :: aps => objectText tbl ap ++ 44 :: objectsText (ap' :: aps)

theorem objectsText_cons (ap : Ap) (aps : List Ap) :
    ∃ x, ((ap :: aps).flatMap fun ap => objectText tbl ap ++ [44]) = x ++ [44] ∧
      objectsText tbl (ap :: aps) = x ++ [93] := by
  induction aps generalizing ap with
  | nil => exact ⟨objectText tbl ap, by simp, rfl⟩
  | cons ap' aps ih =>
    obtain ⟨x, hflat, htext⟩ := ih ap'
    refine ⟨objectText tbl ap ++ [44] ++ x, ?_, ?_⟩
    · rw [List.flatMap_cons, hflat, List.append_assoc _ x]
    · rw [objectsText, htext]
      simp

/-- The last comma is cut off, so the objects stand between brackets. -/
theorem closeArray_objects (aps : List Ap) :
    closeArray (chars "[" ++ aps.flatMap fun ap => objectText tbl ap ++ [44])
      = 91 :: objectsText tbl aps := by
  have hopen : chars "[" = [91] := by decide
  have hend : chars "]" = [93] := by decide
  unfold closeArray
  rw [hopen, hend]
  cases aps with
  | nil => rfl
  | cons ap aps =>
    obtain ⟨x, hflat, htext⟩ := objectsText_cons tbl ap aps
    rw [hflat, htext, ← List.append_assoc, dropTrailing_concat]
    rfl

/-- The text returned for a listing whose SSIDs can be expanded. -/
theorem scan_text {L : Listing} (h : ∀ ap ∈ L.aps, escapesFit encByte ap.ssid = true)
    (heads : Heads) {fuel : Nat} (hfuel : L.text.length < fuel) :
    ∃ heads', rkWifiScanR tbl fuel heads (some L.text)
      = .done (some (91 :: objectsText tbl L.aps), heads') := by
  have hlines := scanLines_text L
  have hok : ∀ line ∈ scanLines L.text, ∀ heads, LineInv (fields isTab line) (.start heads) := by
    rw [hlines]
    intro line hline heads
    obtain ⟨ap, hap, rfl⟩ := List.mem_map.mp hline
    exact lineInv_line ap (h ap hap) heads
  have htext : scanText tbl 0x1F rssiLabel L.text = 91 :: objectsText tbl L.aps := by
    unfold scanText
    rw [hlines, List.flatMap_map, ← closeArray_objects]
    have hitems : (L.aps.flatMap fun ap => lineItem tbl rssiLabel 0x1F ap.line) =
        L.aps.flatMap fun ap => objectText tbl ap ++ [44] :=
      List.flatMap_congr fun ap hap => lineItem_line tbl ap (h ap hap)
    rw [hitems]
  rw [← htext]
  exact scanFile_done tbl 0x1F (by decide) heads (by decide) hfuel hok

/-- Otherwise the call reads past the text of an SSID. -/
theorem scan_fault {L : Listing} (h : ∃ ap ∈ L.aps, escapesFit encByte ap.ssid = false)
    (heads : Heads) {fuel : Nat} (hfuel : L.text.length < fuel) :
    rkWifiScanR tbl fuel heads (some L.text) = .fault := by
  have hlen := afterHeader_length_le L.text
  rw [afterHeader_text] at hlen
  have hloop := @scanLoop_fault tbl L.aps fuel fuel ⟨chars "[", 512, ⟨[], []⟩⟩ (by omega)
    (by omega) (show 1 + 3 < 512 by omega) h
  show scanFile tbl rssiLabel 0x1F fuel heads (some L.text) = .fault
  unfold scanFile
  rw [if_neg (by decide)]
  simp only [afterHeader_text, hloop, Outcome.bind]

/-! ## Reading the result -/

/-- The tokens of an object. -/
def objectTokens (ap : Ap) : List Json.Token :=
  [.openObj, .str (chars "bssid"), .colon, .str ap.bssid, .comma,
    .str (chars "frequency"), .colon, .num (decimal ap.freq), .comma,
    .str (chars "rssi"), .colon, .num (decimal ap.signal), .comma,
    .str (chars "flags"), .colon, .str ap.flags, .comma,
    .str (chars "ssid"), .colon, .str (ssidUtf8 tbl (printfEncode ap.ssid)), .closeObj]

/-- The tokens before the flags. -/
def headTokens (ap : Ap) : List Json.Token :=
  [.openObj, .str (chars "bssid"), .colon, .str ap.bssid, .comma,
    .str (chars "frequency"), .colon, .num (decimal ap.freq), .comma,
    .str (chars "rssi"), .colon, .num (decimal ap.signal), .comma]

/-- The text before the flags. -/
def headText (ap : Ap) : List UInt8 :=
  [123] ++ (strText (chars "bssid") ++ [58]) ++ strText ap.bssid ++ [44] ++
    (strText (chars "frequency") ++ [58]) ++ (decimal ap.freq ++ [44]) ++
    (strText (chars "rssi") ++ [58]) ++ (decimal ap.signal ++ [44])

theorem objectText_eq (ap : Ap) : objectText tbl ap = headText ap ++ (flagsColumn ap ++
    ((strText (chars "ssid") ++ [58]) ++
      (34 :: (ssidUtf8 tbl (printfEncode ap.ssid) ++ [34, 125])))) := by
  unfold objectText headText strText
  simp

theorem punct_comma : Json.punct 44 = some .comma := by decide

theorem run_key {key : List UInt8} (h : Json.isBody key = true) (toks : List Json.Token) :
    Json.run ⟨.top, toks⟩ (strText key ++ [58]) =
      some ⟨.top, toks ++ [Json.Token.str key, .colon]⟩ := by
  have hstr : Json.run ⟨.top, toks⟩ (strText key) = some ⟨.top, toks ++ [Json.Token.str key]⟩ :=
    Json.run_string h toks
  rw [Json.run_trans hstr (@Json.run_punct 58 .colon (by decide) _), List.append_assoc]
  rfl

/-- Printable text without quotes and backslashes is a string body. -/
theorem isBody_plain {u : List UInt8}
    (h : ∀ b ∈ u, printable b = true ∧ b ≠ quote ∧ b ≠ bslash) : Json.isBody u = true := by
  have hstep : ∀ b, printable b = true ∧ b ≠ quote ∧ b ≠ bslash →
      Json.strStep .plain b = some .plain := by
    rintro b ⟨hp, hq, hs⟩
    have hlow : ¬ b < 32 := UInt8.not_lt.mpr (of_decide_eq_true (Bool.and_eq_true_iff.mp hp).1)
    rw [Json.strStep, if_neg hs, if_neg (not_or.mpr ⟨hq, hlow⟩)]
  have hrun : Json.bodyRun .plain u = some .plain := by
    induction u with
    | nil => rfl
    | cons b u ih =>
      rw [Json.bodyRun, hstep b (h b (List.mem_cons_self ..))]
      exact ih fun c hc => h c (List.mem_cons_of_mem _ hc)
  exact decide_eq_true hrun

theorem isBody_bssid (ap : Ap) : Json.isBody ap.bssid = true := by
  exact isBody_plain fun b hb => columnByte_plain b (.inl (ap.bssid_mac b hb))

theorem run_head (ap : Ap) (toks : List Json.Token) :
    Json.run ⟨.top, toks⟩ (headText ap) = some ⟨.top, toks ++ headTokens ap⟩ := by
  have hopen := @Json.run_punct 123 .openObj (by decide) toks
  have hbssid : ∀ toks, Json.run ⟨.top, toks⟩ (strText ap.bssid)
      = some ⟨.top, toks ++ [Json.Token.str ap.bssid]⟩ := Json.run_string (isBody_bssid ap)
  have hkey : ∀ key ∈ [chars "bssid", chars "frequency", chars "rssi"],
      Json.isBody key = true := by decide
  simp only [List.forall_mem_cons] at hkey
  obtain ⟨hk1, hk2, hk3, -⟩ := hkey
  have h1 := Json.run_trans (Json.run_trans hopen (run_key hk1 _)) (hbssid _)
  have h2 := Json.run_trans (Json.run_trans h1 (Json.run_punct punct_comma _)) (run_key hk2 _)
  have h3 := Json.run_trans (Json.run_trans h2 (Json.run_decimal ap.freq _)) (run_key hk3 _)
  have h4 := Json.run_trans h3 (Json.run_decimal ap.signal _)
  unfold headText
  rw [h4]
  simp [headTokens]

/-- The condition on an access point: its flags fit into `col[128]`, and its SSID
column can be expanded and is a JSON string body. -/
structure ApShown (ap : Ap) : Prop where
  flagsFit : ap.flags.length ≤ 116
  expands : escapesFit encByte ap.ssid = true
  body : Json.isBody (shownChars (listedBytes (printfEncode ap.ssid))) = true

theorem isBody_ssid {tbl : Fin 24080 → UInt16} (htbl : TableOk tbl) {ap : Ap}
    (h : escapesFit encByte ap.ssid = true) :
    Json.isBody (ssidUtf8 tbl (printfEncode ap.ssid)) =
      Json.isBody (shownChars (listedBytes (printfEncode ap.ssid))) := by
  have hnul := zero_not_mem_printfEncode ap.ssid
  rw [ssidUtf8_eq tbl (tokOk_ssid ap h)]
  unfold shownChars
  split_ifs
  · rfl
  · unfold Json.isBody
    rw [bodyRun_gbk htbl (listed_ne_zero hnul)]

theorem apart_ssid {tbl : Fin 24080 → UInt16} (htbl : TableOk tbl) {ap : Ap}
    (h : escapesFit encByte ap.ssid = true) :
    Json.apart false (ssidUtf8 tbl (printfEncode ap.ssid)) = true := by
  have hnul := zero_not_mem_printfEncode ap.ssid
  have hlisted : Json.apart false (listedBytes (printfEncode ap.ssid)) = true :=
    apart_listed (escText_printfEncode ap.ssid false) id
  rw [ssidUtf8_eq tbl (tokOk_ssid ap h)]
  split_ifs
  · exact hlisted
  · exact apart_gbk htbl (listed_ne_zero hnul) hlisted

theorem isBody_flags (ap : Ap) : Json.isBody ap.flags = true :=
  isBody_plain ap.flags_byte

theorem flags_key : Json.isBody (chars "flags") = true := by decide

theorem ssid_key : Json.isBody (chars "ssid") = true := by decide

/-- The flags column as the lexer reads it, by its length. -/
theorem flagsColumn_fit {ap : Ap} (h : ap.flags.length ≤ 116) :
    flagsColumn ap = (strText (chars "flags") ++ [58]) ++ strText ap.flags ++ [44] := by
  unfold flagsColumn
  refine snprintf_eq_self ?_
  simp [strText, chars]
  omega

theorem flagsColumn_noComma {ap : Ap} (h : ap.flags.length = 117) :
    flagsColumn ap = (strText (chars "flags") ++ [58]) ++ strText ap.flags := by
  unfold flagsColumn snprintf
  refine List.take_left' ?_
  simp [strText, chars, h]

theorem flagsColumn_cut {ap : Ap} (h : 118 ≤ ap.flags.length) :
    flagsColumn ap = (strText (chars "flags") ++ [58]) ++ (34 :: ap.flags.take 118) := by
  have hlen : (strText (chars "flags") ++ [58] ++ [34]).length = 9 := by decide
  have hsplit : strText (chars "flags") ++ [58] ++ strText ap.flags ++ [44]
      = (strText (chars "flags") ++ [58] ++ [34]) ++ (ap.flags ++ [34, 44]) := by
    unfold strText
    simp
  unfold flagsColumn snprintf
  rw [hsplit, List.take_append, List.take_of_length_le (by rw [hlen]; omega), hlen,
    List.take_append_of_le_length (by omega), List.append_assoc]
  rfl

theorem run_flags {ap : Ap} (h : ap.flags.length ≤ 116) (toks : List Json.Token) :
    Json.run ⟨.top, toks⟩ (flagsColumn ap) =
      some ⟨.top, toks ++ [Json.Token.str (chars "flags"), .colon] ++ [Json.Token.str ap.flags] ++
        [Json.Token.comma]⟩ := by
  rw [flagsColumn_fit h]
  exact Json.run_trans (Json.run_trans (run_key flags_key toks)
    (Json.run_string (isBody_flags ap) _)) (Json.run_punct punct_comma _)

/-- A good object is read to its end. -/
theorem run_object {tbl : Fin 24080 → UInt16} (htbl : TableOk tbl) {ap : Ap} (h : ApShown ap)
    (toks : List Json.Token) :
    Json.run ⟨.top, toks⟩ (objectText tbl ap) = some ⟨.top, toks ++ objectTokens tbl ap⟩ := by
  have hbody : Json.isBody (ssidUtf8 tbl (printfEncode ap.ssid)) = true := by
    rw [isBody_ssid htbl h.expands]
    exact h.body
  have hssid : ∀ toks, Json.run ⟨.top, toks⟩
      (34 :: (ssidUtf8 tbl (printfEncode ap.ssid) ++ [34, 125]))
      = some ⟨.top, toks ++ [Json.Token.str (ssidUtf8 tbl (printfEncode ap.ssid))] ++
        [Json.Token.closeObj]⟩ := by
    intro toks
    rw [show 34 :: (ssidUtf8 tbl (printfEncode ap.ssid) ++ [34, 125])
      = 34 :: ssidUtf8 tbl (printfEncode ap.ssid) ++ [34] ++ [125] by simp]
    exact Json.run_trans (Json.run_string hbody toks)
      (@Json.run_punct 125 .closeObj (by decide) _)
  have hrun := Json.run_trans (run_head ap toks)
    (Json.run_trans (run_flags h.flagsFit _) (Json.run_trans (run_key ssid_key _) (hssid _)))
  rw [objectText_eq, hrun]
  simp [headTokens, objectTokens]

/-! ## Texts that are not JSON -/

/-- From inside a string the text behind an object cannot be read. -/
theorem lexFrom_tail (aps : List Ap) (body : List UInt8) (toks : List Json.Token) :
    Json.lexFrom ⟨.str .plain body, toks⟩ (125 :: 93 :: []) = none ∧
      ∀ ap, Json.lexFrom ⟨.str .plain body, toks⟩
        (125 :: 44 :: objectsText tbl (ap :: aps)) = none := by
  refine ⟨rfl, fun ap => ?_⟩
  have hstart : ∃ r, objectsText tbl (ap :: aps) = 123 :: 34 :: 98 :: r := by
    cases aps with
    | nil => exact ⟨_, rfl⟩
    | cons ap' aps => exact ⟨_, rfl⟩
  obtain ⟨r, hr⟩ := hstart
  rw [hr]
  rfl

/-- The flags of 118 characters and more lose their closing quote. -/
theorem lexFrom_cut {ap : Ap} (h : 118 ≤ ap.flags.length) (toks : List Json.Token)
    (t : List UInt8) : Json.lexFrom ⟨.top, toks⟩ (objectText tbl ap ++ t) = none := by
  have hbody : Json.isBody (ap.flags.take 118) = true :=
    isBody_plain fun b hb => ap.flags_byte b (List.mem_of_mem_take hb)
  have hrun : ∀ toks, Json.run ⟨.top, toks⟩ (34 :: ap.flags.take 118 ++ [34])
      = some ⟨.top, toks ++ [Json.Token.str (ap.flags.take 118)]⟩ := Json.run_string hbody
  have hsplit : ∃ r, objectText tbl ap ++ t = headText ap ++ ((strText (chars "flags") ++ [58]) ++
      ((34 :: ap.flags.take 118 ++ [34]) ++ 115 :: r)) := by
    have hssid : strText (chars "ssid") = 34 :: 115 :: [115, 105, 100, 34] := by decide
    rw [objectText_eq, flagsColumn_cut h, hssid]
    refine ⟨115 :: 105 :: 100 :: 34 :: 58 ::
      (34 :: (ssidUtf8 tbl (printfEncode ap.ssid) ++ [34, 125])) ++ t, ?_⟩
    simp
  obtain ⟨r, hr⟩ := hsplit
  rw [hr, Json.lexFrom_of_run (run_head ap toks), Json.lexFrom_of_run (run_key flags_key _),
    Json.lexFrom_of_run (hrun _)]
  rfl

/-- The flags of 117 characters lose their comma, so two strings follow each other. -/
theorem lexFrom_noComma {ap : Ap} (h : ap.flags.length = 117) {toks ts : List Json.Token}
    {t : List UInt8} (hlex : Json.lexFrom ⟨.top, toks⟩ (objectText tbl ap ++ t) = some ts) :
    ∃ more, ts = toks ++ (headTokens ap ++ [Json.Token.str (chars "flags"), .colon, .str ap.flags,
      .str (chars "ssid"), .colon] ++ more) := by
  have hrun : ∀ toks, Json.run ⟨.top, toks⟩ (strText ap.flags)
      = some ⟨.top, toks ++ [Json.Token.str ap.flags]⟩ := Json.run_string (isBody_flags ap)
  rw [objectText_eq, flagsColumn_noComma h] at hlex
  simp only [List.append_assoc] at hlex
  rw [Json.lexFrom_of_run (run_head ap toks), ← List.append_assoc (strText (chars "flags")),
    Json.lexFrom_of_run (run_key flags_key _), Json.lexFrom_of_run (hrun _),
    ← List.append_assoc (strText (chars "ssid")), Json.lexFrom_of_run (run_key ssid_key _)] at hlex
  obtain ⟨more, hmore⟩ := Json.lexFrom_toks hlex
  refine ⟨more, ?_⟩
  rw [← hmore]
  simp

/-- An SSID that is no string body ends the reading. -/
theorem lexFrom_badSsid {tbl : Fin 24080 → UInt16} (htbl : TableOk tbl) {ap : Ap}
    (hflags : ap.flags.length ≤ 116) (hexp : escapesFit encByte ap.ssid = true)
    (hbad : Json.isBody (shownChars (listedBytes (printfEncode ap.ssid))) = false)
    {t : List UInt8}
    (ht : ∀ body toks, Json.lexFrom ⟨.str .plain body, toks⟩ (125 :: t) = none)
    (toks : List Json.Token) : Json.lexFrom ⟨.top, toks⟩ (objectText tbl ap ++ t) = none := by
  have hbody : Json.isBody (ssidUtf8 tbl (printfEncode ap.ssid)) = false := by
    rw [isBody_ssid htbl hexp]
    exact hbad
  have htext : ssidUtf8 tbl (printfEncode ap.ssid) ++ [34, 125] ++ t
      = ssidUtf8 tbl (printfEncode ap.ssid) ++ 34 :: 125 :: t := by simp
  rw [objectText_eq]
  simp only [List.append_assoc]
  rw [Json.lexFrom_of_run (run_head ap toks), Json.lexFrom_of_run (run_flags hflags _),
    ← List.append_assoc (strText (chars "ssid")), Json.lexFrom_of_run (run_key ssid_key _),
    List.cons_append, htext, Json.lexFrom_cons]
  exact Json.lexFrom_stuck hbody (apart_ssid htbl hexp) ht [] _

/-! ## Parsing the tokens -/

/-- The value of an access point. -/
def apValue (ap : Ap) : Json.Value :=
  .obj [(chars "bssid", .str ap.bssid), (chars "frequency", .num (decimal ap.freq)),
    (chars "rssi", .num (decimal ap.signal)), (chars "flags", .str ap.flags),
    (chars "ssid", .str (ssidUtf8 tbl (printfEncode ap.ssid)))]

theorem value_object (ap : Ap) (n : Nat) (ts : List Json.Token) :
    Json.value (n + 7) (objectTokens tbl ap ++ ts) = some (apValue tbl ap, ts) := rfl

/-- Two strings in a row are no JSON. -/
theorem value_noComma (ap : Ap) (n : Nat) (more : List Json.Token) :
    Json.value n (headTokens ap ++ [Json.Token.str (chars "flags"), .colon, .str ap.flags,
      .str (chars "ssid"), .colon] ++ more) = none := by
  have hnone : ∀ m, Json.value (m + 6) (headTokens ap ++ [Json.Token.str (chars "flags"), .colon,
      .str ap.flags, .str (chars "ssid"), .colon] ++ more) = none := fun _ => rfl
  exact (Json.value_none_or hnone n).elim id id

/-- The tokens behind the bracket of the array. -/
def objectsTokens : List Ap → List Json.Token
  | [] => [.closeArr]
  | [ap] => objectTokens tbl ap ++ [.closeArr]
  | ap :: ap' :: aps => objectTokens tbl ap ++ .comma :: objectsTokens (ap' :: aps)

theorem lexFrom_objects {tbl : Fin 24080 → UInt16} (htbl : TableOk tbl) {aps : List Ap}
    (h : ∀ ap ∈ aps, ApShown ap) (toks : List Json.Token) :
    Json.lexFrom ⟨.top, toks⟩ (objectsText tbl aps) = some (toks ++ objectsTokens tbl aps) := by
  induction aps generalizing toks with
  | nil => rfl
  | cons ap aps ih =>
    have hap := run_object htbl (h ap (List.mem_cons_self ..)) toks
    cases aps with
    | nil =>
      rw [objectsText, Json.lexFrom_of_run hap, @Json.lexFrom_punct 93 .closeArr (by decide),
        List.append_assoc]
      rfl
    | cons ap' aps =>
      have htail := ih (fun a ha => h a (List.mem_cons_of_mem _ ha))
        (toks ++ objectTokens tbl ap ++ [Json.Token.comma])
      rw [objectsText, Json.lexFrom_of_run hap, Json.lexFrom_punct punct_comma, htail]
      simp [objectsTokens]

theorem elements_objects (ap : Ap) (aps : List Ap) {n : Nat} (hn : aps.length + 8 ≤ n) :
    Json.elements n (objectsTokens tbl (ap :: aps)) = some ((ap :: aps).map (apValue tbl), []) := by
  induction aps generalizing ap n with
  | nil =>
    obtain ⟨n, rfl⟩ := Nat.exists_eq_add_of_le' hn
    show Json.elements (n + 7 + 1) (objectTokens tbl ap ++ [Json.Token.closeArr]) = _
    rw [Json.elements, value_object]
    rfl
  | cons ap' aps ih =>
    obtain ⟨n, rfl⟩ : ∃ k, n = k + 7 + 1 := ⟨n - 8, by simp at hn; omega⟩
    rw [objectsTokens, Json.elements, value_object]
    show (Json.elements (n + 7) (objectsTokens tbl (ap' :: aps))).map _ = _
    rw [ih ap' (by simp at hn; omega)]
    rfl

theorem length_objectsTokens (aps : List Ap) : 22 * aps.length ≤ (objectsTokens tbl aps).length := by
  induction aps with
  | nil => exact Nat.zero_le _
  | cons ap aps ih =>
    have hobj : (objectTokens tbl ap).length = 21 := rfl
    cases aps with
    | nil =>
      rw [objectsTokens, List.length_append, hobj]
      rfl
    | cons ap' aps =>
      rw [objectsTokens, List.length_append, hobj, List.length_cons]
      simp only [List.length_cons] at ih ⊢
      omega

theorem parse_objects {tbl : Fin 24080 → UInt16} (htbl : TableOk tbl) {aps : List Ap}
    (h : ∀ ap ∈ aps, ApShown ap) :
    Json.parse (91 :: objectsText tbl aps) = some (.arr (aps.map (apValue tbl))) := by
  have hlex : Json.lex (91 :: objectsText tbl aps) = some (.openArr :: objectsTokens tbl aps) := by
    rw [Json.lex, @Json.lexFrom_punct 91 .openArr (by decide)]
    exact lexFrom_objects htbl h [.openArr]
  unfold Json.parse
  rw [hlex, Option.bind_some]
  cases aps with
  | nil => rfl
  | cons ap aps =>
    have hlen := length_objectsTokens tbl (ap :: aps)
    obtain ⟨n, hn⟩ : ∃ n, 2 * (Json.Token.openArr :: objectsTokens tbl (ap :: aps)).length + 2
        = n + 1 := ⟨_, rfl⟩
    have hels := elements_objects tbl ap aps (n := n) (by simp at hlen hn; omega)
    have hopen : (objectsTokens tbl (ap :: aps)).head? ≠ some .closeArr := by
      cases aps <;> exact fun h => nomatch h
    rw [Json.parseTokens, hn, Json.value_arr hopen, hels]
    rfl

/-- A bad access point spoils everything: the text does not lex, or its tokens are
no list of elements. -/
theorem objects_bad {tbl : Fin 24080 → UInt16} (htbl : TableOk tbl) {aps : List Ap}
    (hexp : ∀ ap ∈ aps, escapesFit encByte ap.ssid = true) (hbad : ∃ ap ∈ aps, ¬ ApShown ap)
    {toks ts : List Json.Token}
    (hlex : Json.lexFrom ⟨.top, toks⟩ (objectsText tbl aps) = some ts) :
    ∃ suf, ts = toks ++ .openObj :: suf ∧ ∀ n, Json.elements n (.openObj :: suf) = none := by
  induction aps generalizing toks with
  | nil => simp at hbad
  | cons ap aps ih =>
    -- the object is followed by a bracket or by the next object
    obtain ⟨t, htext, htail⟩ : ∃ t, objectsText tbl (ap :: aps) = objectText tbl ap ++ t ∧
        ∀ body toks, Json.lexFrom ⟨.str .plain body, toks⟩ (125 :: t) = none := by
      cases aps with
      | nil => exact ⟨[93], rfl, fun body toks => (lexFrom_tail tbl [] body toks).1⟩
      | cons ap' aps =>
        exact ⟨_, rfl, fun body toks => (lexFrom_tail tbl aps body toks).2 ap'⟩
    have hexp' := hexp ap (List.mem_cons_self ..)
    by_cases hap : ApShown ap
    · have hrun := run_object htbl hap toks
      cases aps with
      | nil =>
        obtain ⟨bad, hmem, hbad⟩ := hbad
        rw [List.mem_singleton.mp hmem] at hbad
        exact absurd hap hbad
      | cons ap' aps =>
        rw [objectsText, Json.lexFrom_of_run hrun, Json.lexFrom_punct punct_comma] at hlex
        have hrest : ∃ bad ∈ ap' :: aps, ¬ ApShown bad := by
          obtain ⟨bad, hmem, hbad⟩ := hbad
          rcases List.mem_cons.mp hmem with rfl | hmem
          · exact absurd hap hbad
          · exact ⟨bad, hmem, hbad⟩
        obtain ⟨suf, rfl, hsuf⟩ :=
          ih (fun a ha => hexp a (List.mem_cons_of_mem _ ha)) hrest hlex
        refine ⟨(objectTokens tbl ap).tail ++ Json.Token.comma :: .openObj :: suf, ?_, fun n => ?_⟩
        · simp [objectTokens]
        · show Json.elements n (objectTokens tbl ap ++ Json.Token.comma :: .openObj :: suf) = none
          cases n with
          | zero => rfl
          | succ n =>
            rw [Json.elements]
            rcases Json.value_none_or (fun m => value_object tbl ap m (.comma :: .openObj :: suf)) n
              with hv | hv
            · rw [hv]
            · rw [hv]
              show (Json.elements n (.openObj :: suf)).map _ = none
              rw [hsuf]
              rfl
    · rw [htext] at hlex
      rcases Nat.lt_trichotomy ap.flags.length 117 with hlen | hlen | hlen
      · have hbody : Json.isBody (shownChars (listedBytes (printfEncode ap.ssid))) = false := by
          by_contra hb
          exact hap ⟨by omega, hexp', by simpa using hb⟩
        rw [lexFrom_badSsid htbl (by omega) hexp' hbody htail] at hlex
        cases hlex
      · obtain ⟨more, rfl⟩ := lexFrom_noComma tbl hlen hlex
        refine ⟨_, rfl, fun n => ?_⟩
        cases n with
        | zero => rfl
        | succ n =>
          exact Json.elements_of_none (value_noComma ap n more)
      · rw [lexFrom_cut tbl (by omega)] at hlex
        cases hlex

theorem parse_bad {tbl : Fin 24080 → UInt16} (htbl : TableOk tbl) {aps : List Ap}
    (hexp : ∀ ap ∈ aps, escapesFit encByte ap.ssid = true) (hbad : ∃ ap ∈ aps, ¬ ApShown ap) :
    Json.parse (91 :: objectsText tbl aps) = none := by
  rw [Json.parse, Json.lex, @Json.lexFrom_punct 91 .openArr (by decide), List.nil_append]
  cases hlex : Json.lexFrom ⟨.top, [.openArr]⟩ (objectsText tbl aps) with
  | none => rfl
  | some ts =>
    obtain ⟨suf, rfl, hsuf⟩ := objects_bad htbl hexp hbad hlex
    have hvalue : ∀ n, Json.value n (.openArr :: .openObj :: suf) = none := by
      intro n
      cases n with
      | zero => rfl
      | succ n =>
        show (Json.elements n (.openObj :: suf)).map _ = none
        rw [hsuf]
        rfl
    show Json.parseTokens (.openArr :: .openObj :: suf) = none
    unfold Json.parseTokens
    rw [hvalue]

end

/-! ## The result -/

/-- The object for an access point: its listed values and some string for its SSID. -/
def ApObject (ap : Ap) (v : Json.Value) : Prop :=
  ∃ u, v = .obj [(chars "bssid", .str ap.bssid), (chars "frequency", .num (decimal ap.freq)),
    (chars "rssi", .num (decimal ap.signal)), (chars "flags", .str ap.flags),
    (chars "ssid", .str u)]

/-- `RK_wifi_scan_r` returns a JSON array with one object for each access point. -/
def ReturnsJson (tbl : Fin 24080 → UInt16) (L : Listing) : Prop :=
  ∀ heads fuel, L.text.length < fuel →
    ∃ text heads' vs, rkWifiScanR tbl fuel heads (some L.text) = .done (some text, heads') ∧
      Json.parse text = some (.arr vs) ∧ List.Forall₂ ApObject L.aps vs

theorem returnsJson_of_shown {tbl : Fin 24080 → UInt16} (htbl : TableOk tbl) {L : Listing}
    (h : ∀ ap ∈ L.aps, ApShown ap) : ReturnsJson tbl L := by
  intro heads fuel hfuel
  obtain ⟨heads', hscan⟩ := scan_text tbl (fun ap hap => (h ap hap).expands) heads hfuel
  refine ⟨_, heads', _, hscan, parse_objects htbl h, ?_⟩
  rw [List.forall₂_map_right_iff]
  exact List.forall₂_same.mpr fun ap _ => ⟨_, rfl⟩

theorem shown_of_returnsJson {tbl : Fin 24080 → UInt16} (htbl : TableOk tbl) {L : Listing}
    (h : ReturnsJson tbl L) : ∀ ap ∈ L.aps, ApShown ap := by
  obtain ⟨text, heads', vs, hscan, hparse, -⟩ := h ⟨[], []⟩ (L.text.length + 1) (by omega)
  have hexp : ∀ ap ∈ L.aps, escapesFit encByte ap.ssid = true := by
    by_contra hno
    push Not at hno
    obtain ⟨ap, hap, hbad⟩ := hno
    have hfault := @scan_fault tbl L ⟨ap, hap, by simpa using hbad⟩ ⟨[], []⟩ _ (Nat.lt_succ_self _)
    rw [hfault] at hscan
    cases hscan
  by_contra hno
  push Not at hno
  obtain ⟨heads'', hdone⟩ := @scan_text tbl L hexp ⟨[], []⟩ _ (Nat.lt_succ_self _)
  rw [hdone] at hscan
  have htext : some (91 :: objectsText tbl L.aps) = some text :=
    congrArg Prod.fst (Outcome.done.inj hscan)
  rw [← Option.some.inj htext, parse_bad htbl hexp hno] at hparse
  cases hparse

/-- The address of the access points below has the length of an address. -/
theorem sampleBssid_length : (chars "02:00:00:00:00:01").length = 17 := by decide

/-- It has the bytes of one. -/
theorem sampleBssid_mac : ∀ b ∈ chars "02:00:00:00:00:01", macByte b = true := by decide +kernel

/-- The header of the listings below is one line. -/
theorem sampleHeader_line :
    (10 : UInt8) ∉ chars "bssid / frequency / signal level / flags / ssid" := by decide

/-- It fits into the line buffer. -/
theorem sampleHeader_short :
    (chars "bssid / frequency / signal level / flags / ssid").length < 254 := by decide

/-- An access point that differs from others only in its SSID. -/
def sampleAp (ssid : List UInt8) (hshort : ssid.length ≤ 32) (hnul : 0 ∉ ssid)
    (hline : (apColumns (chars "02:00:00:00:00:01") 2412 (-40) (chars "[WPA2-PSK-CCMP][ESS]")
      ssid).length < 254) : Ap where
  bssid := chars "02:00:00:00:00:01"
  freq := 2412
  signal := -40
  words := [chars "WPA2-PSK-CCMP", chars "ESS"]
  ssid := ssid
  bssid_length := sampleBssid_length
  bssid_mac := sampleBssid_mac
  freq_int := by decide
  signal_int := by decide
  words_ne := by decide
  words_byte := by decide +kernel
  ssid_short := hshort
  ssid_noNul := hnul
  short := hline

/-- A listing with a quoted UTF-8 name and a GBK name. -/
def cafeListing : Listing where
  header := chars "bssid / frequency / signal level / flags / ssid"
  header_line := sampleHeader_line
  header_short := sampleHeader_short
  aps := [sampleAp (chars "Caf" ++ [0xc3, 0xa9] ++ chars " \"1\"") (by decide) (by decide)
      (by decide),
    sampleAp [0xc4, 0xe3, 0xba, 0xc3] (by decide) (by decide) (by decide)]

/-- The access point whose SSID is the single byte ESC. -/
def escapeListing : Listing where
  header := chars "bssid / frequency / signal level / flags / ssid"
  header_line := by decide
  header_short := by decide
  aps := [sampleAp [0x1b] (by decide) (by decide) (by decide)]

end ConnectApp.Wifi
