import ConnectApp.Lib.Shell
import ConnectApp.Wifi.ConnectFailure
import ConnectApp.Wifi.ScanJson

/-!
# The command lines of `set_network` (Rk_wifi.c:1535-1622, 1816-1862)

`set_network` prints each of its commands into `cmd[600]` and hands the text to a shell
(`exec_command` is a `popen`). The caller's strings go into it in three ways: the ssid in hex,
the passphrase with a backslash in front of every character, the bssid and the WEP key as
they are. `carried_iff` says that a command of `set_network` is the one command it is meant
to be exactly if its value is one shell word; `shell_safe_iff` says for which arguments of
`RK_wifi_connect` this holds of every command.
-/

namespace ConnectApp.Wifi

open CString Script Shell

/-! ## The text of a command -/

/-- The name of a parameter in the command line. -/
def Param.text : Param → List UInt8
  | .bssid => chars "bssid"
  | .ssid => chars "ssid"
  | .keyMgmt => chars "key_mgmt"
  | .wepKey0 => chars "wep_key0"
  | .authAlg => chars "auth_alg"
  | .psk => chars "psk"
  | .ieee80211w => chars "ieee80211w"
  | .priority => chars "priority"
  | .scanSsid => chars "scan_ssid"

/-- `snprintf(cmd, sizeof(cmd), "wpa_cli -iwlan0 set_network %d ... %s", id, ...)`. -/
def setNetworkText (id : Int) (param : Param) (value : List UInt8) : List UInt8 :=
  snprintf 600 <| chars "wpa_cli -iwlan0 set_network " ++ decimal id ++ chars " " ++ param.text ++
    chars " " ++ value

/-- The words in front of the value. -/
def commandWords (id : Int) (param : Param) : List (List UInt8) :=
  [chars "wpa_cli", chars "-iwlan0", chars "set_network", decimal id, param.text]

/-- The value of a network id is an `int`. -/
def IsInt (id : Int) : Prop := -2 ^ 31 ≤ id ∧ id < 2 ^ 31

/-- The command for a value is one simple command, and the value is carried by its last word,
which is the same for every network. -/
def Carried (param : Param) (value : List UInt8) : Prop :=
  ∃ word, ∀ id, IsInt id →
    shellWords (setNetworkText id param value) = some (commandWords id param ++ [word])

theorem plainWord_text (param : Param) : PlainWord param.text := by
  cases param <;> exact .of_wordChars (by decide) (List.all_eq_true.mp (by decide))

theorem plainWord_decimal (id : Int) : PlainWord (decimal id) := by
  have hbyte : ∀ b, isDigit b = true ∨ b = 45 → isWordChar b = true := by
    rintro b (hb | rfl)
    · simp [isWordChar, isDigit] at hb ⊢
      tauto
    · rfl
  exact .of_wordChars (decimal_ne_nil id) fun b hb => hbyte b (decimal_byte id b hb)

/-- `cmd[600]` holds the whole line. -/
theorem setNetworkText_whole {id : Int} (hid : IsInt id) (param : Param) {value : List UInt8}
    (h : value.length ≤ 548) :
    setNetworkText id param value = chars "wpa_cli -iwlan0 set_network " ++ decimal id ++
      chars " " ++ param.text ++ chars " " ++ value := by
  have hlen := decimal_length_le hid
  have htext : param.text.length ≤ 10 := by cases param <;> decide
  have hfront : (chars "wpa_cli -iwlan0 set_network ").length = 28 := by decide
  have hblank : (chars " ").length = 1 := by decide
  refine snprintf_eq_self ?_
  simp only [List.length_append, hfront, hblank]
  omega

theorem setNetworkText_eq {id : Int} (hid : IsInt id) (param : Param) {value : List UInt8}
    (h : value.length ≤ 548) :
    setNetworkText id param value = chars "wpa_cli" ++ 32 :: (chars "-iwlan0" ++ 32 ::
      (chars "set_network" ++ 32 :: (decimal id ++ 32 :: (param.text ++ 32 :: value)))) := by
  have hfront : chars "wpa_cli -iwlan0 set_network " =
      chars "wpa_cli" ++ 32 :: (chars "-iwlan0" ++ 32 :: (chars "set_network" ++ [32])) := by decide
  have hblank : chars " " = [32] := by decide
  rw [setNetworkText_whole hid param h, hfront, hblank]
  simp

/-- The words of a command are the words in front of the value and those of the value. -/
theorem shellWords_setNetworkText {id : Int} (hid : IsInt id) (param : Param) {value : List UInt8}
    (h : value.length ≤ 548) :
    shellWords (setNetworkText id param value) =
      (shellWords value).map (commandWords id param ++ ·) := by
  have hcli : PlainWord (chars "wpa_cli") :=
    .of_wordChars (by decide) (List.all_eq_true.mp (by decide))
  have hdev : PlainWord (chars "-iwlan0") :=
    .of_wordChars (by decide) (List.all_eq_true.mp (by decide))
  have hset : PlainWord (chars "set_network") :=
    .of_wordChars (by decide) (List.all_eq_true.mp (by decide))
  rw [setNetworkText_eq hid param h]
  unfold shellWords
  rw [hcli.wordsFrom, hdev.wordsFrom, hset.wordsFrom, (plainWord_decimal id).wordsFrom,
    (plainWord_text param).wordsFrom]
  exact wordsFrom_after (commandWords id param) ⟨.between, []⟩ value

theorem oneWord_iff_shellWords {value : List UInt8} :
    OneWord value ↔ ∃ word, shellWords value = some [word] := by
  rw [← isWord_iff]
  constructor
  · rintro ⟨ws, hws, hlen⟩
    obtain ⟨word, rfl⟩ := List.length_eq_one_iff.mp hlen
    exact ⟨word, hws⟩
  · rintro ⟨word, hword⟩
    exact ⟨[word], hword, rfl⟩

/-- **One word.** A value that fits into the command is carried exactly if it is one shell
word. -/
theorem carried_iff (param : Param) {value : List UInt8} (h : value.length ≤ 548) :
    Carried param value ↔ OneWord value := by
  rw [oneWord_iff_shellWords]
  constructor
  · rintro ⟨word, hword⟩
    have hzero := hword 0 ⟨by decide, by decide⟩
    rw [shellWords_setNetworkText ⟨by decide, by decide⟩ param h] at hzero
    obtain ⟨ws, hws, heq⟩ := Option.map_eq_some_iff.mp hzero
    rw [List.append_cancel_left heq] at hws
    exact ⟨word, hws⟩
  · rintro ⟨word, hword⟩
    refine ⟨word, fun id hid => ?_⟩
    rw [shellWords_setNetworkText hid param h, hword]
    rfl

/-! ## The three kinds of values -/

/-- A text between `\"` and `\"` is one word exactly if it does not leave the word. -/
theorem oneWord_quoted_iff {t : List UInt8} : OneWord (quoted t) ↔ InsideWord t := by
  have hopen : read ⟨.between, []⟩ [92, 34] = some ⟨.word [34], []⟩ := rfl
  rw [← isWord_iff, ← @gives_inside t [34] []]
  exact gives_append hopen (t ++ [92, 34]) 1

theorem oneWord_formatPsk (psk : List UInt8) : OneWord (quoted (formatPsk psk)) :=
  oneWord_quoted_iff.mpr (.units (units_escaped psk))

theorem formatSsid_wordChars (ssid : List UInt8) : ∀ b ∈ formatSsid ssid, isWordChar b = true := by
  have hdigits : ∀ b : UInt8, isWordChar (hexDigit (b / 16)) = true ∧
      isWordChar (hexDigit (b % 16)) = true := by decide +kernel
  intro d hd
  obtain ⟨b, -, hb⟩ := List.mem_flatMap.mp hd
  simp only [List.mem_cons, List.not_mem_nil, or_false] at hb
  rcases hb with rfl | rfl
  · exact (hdigits b).1
  · exact (hdigits b).2

theorem formatSsid_eq_nil_iff {ssid : List UInt8} : formatSsid ssid = [] ↔ ssid = [] := by
  cases ssid <;> simp [formatSsid]

theorem formatSsid_length (ssid : List UInt8) : (formatSsid ssid).length = 2 * ssid.length := by
  unfold formatSsid
  rw [List.length_flatMap]
  simp [Nat.mul_comm]

theorem formatPsk_length (psk : List UInt8) : (formatPsk psk).length = 2 * psk.length := by
  unfold formatPsk
  rw [List.length_flatMap]
  simp [Nat.mul_comm]

theorem quoted_length (t : List UInt8) : (quoted t).length = t.length + 4 := by
  simp [quoted]

/-- The hex digits of a name are one word, unless the name is empty. -/
theorem oneWord_formatSsid_iff {ssid : List UInt8} : OneWord (formatSsid ssid) ↔ ssid ≠ [] := by
  constructor
  · rintro h rfl
    obtain ⟨ws, hws, hlen⟩ := isWord_iff.mpr h
    obtain rfl := Option.some.inj hws
    cases hlen
  · intro h
    have hwords := formatSsid_wordChars ssid
    exact PlainWord.oneWord (.of_wordChars (mt formatSsid_eq_nil_iff.mp h) hwords)

/-! ## Which arguments are safe -/

/-- `wifi_ssid[512]` and `wifi_psk[512]` hold what `set_network` copies and
`format_wifiinfo` writes into them. -/
structure BuffersHold (ssid psk : List UInt8) (encryp : KeyMgmt) : Prop where
  name : (formatSsid ssid).length < 512
  key : psk.length < 512
  escapedKey : encryp = .wpa ∨ encryp = .wpa3 → (formatPsk psk).length < 512

/-- The name that `RK_wifi_connect1` hands to `set_network`. -/
def nameFor (w : World) (keyMgmt : KeyMgmt) (ssid : List UInt8) : List UInt8 :=
  getEncodeGbkOri (if keyMgmt = .none then w.nonpskHead else w.gbkHead) ssid

/-- No string of the caller changes a command: the buffers of `set_network` hold, and whatever
is answered, each command it sends is one `set_network` command whose last word carries the
value. -/
structure ShellSafe (w : World) (ssid psk : List UInt8) (keyMgmt : KeyMgmt) : Prop where
  buffers : BuffersHold (nameFor w keyMgmt ssid) psk keyMgmt
  carried : ∀ env id, ∀ c ∈ issued (machine env) (configureScript w id ssid psk keyMgmt),
    ∃ param value, c = .setNetwork id param value ∧ Carried param value

/-- What the strings have to be like, in the state before the call. -/
structure SafeStrings (w : World) (ssid psk : List UInt8) (keyMgmt : KeyMgmt)
    (bssid : Option (List UInt8)) : Prop where
  named : nameFor w keyMgmt ssid ≠ []
  short : (nameFor w keyMgmt ssid).length ≤ 255
  given : ∀ b, bssid = some b → OneWord (b.take 17)
  left : bssid = none → w.gbssidFlag = true → OneWord w.gbssid
  wep : keyMgmt = .wep → psk.length ≤ 511 ∧
    if psk.length = 5 ∨ psk.length = 13 ∨ psk.length = 16 then InsideWord psk else OneWord psk
  wpa : keyMgmt = .wpa ∨ keyMgmt = .wpa3 → psk.length ≤ 255

theorem argsOk_iff {ssid psk : List UInt8} {keyMgmt : KeyMgmt} :
    argsOk (some ssid) (some psk) keyMgmt = true ↔ (psk = [] ↔ keyMgmt = .none) := by
  by_cases hpsk : psk = [] <;> cases keyMgmt <;> simp [argsOk, hpsk]

theorem configureScript_eq {psk : List UInt8} {keyMgmt : KeyMgmt} (h : psk = [] ↔ keyMgmt = .none)
    (w : World) (id : Int) (ssid : List UInt8) :
    configureScript w id ssid psk keyMgmt =
      setNetworkScript w id (nameFor w keyMgmt ssid) psk keyMgmt := by
  unfold configureScript nameFor
  by_cases hnone : keyMgmt = .none
  · obtain rfl := h.mpr hnone
    rw [if_pos (.inl hnone), if_pos hnone, hnone]
  · rw [if_neg (not_or.mpr ⟨hnone, mt h.mp hnone⟩), if_neg hnone]

/-- The parameters that step 2 of `set_network` sets. -/
def securitySettings (psk : List UInt8) : KeyMgmt → List (Param × List UInt8)
  | .none => [(.keyMgmt, chars "NONE")]
  | .wep => [(.keyMgmt, chars "NONE"), (.wepKey0, wepKey psk), (.authAlg, chars "SHARED")]
  | .wpa => [(.psk, quoted (formatPsk psk))]
  | .wpa3 => [(.psk, quoted (formatPsk psk)), (.keyMgmt, chars "SAE"), (.ieee80211w, chars "2")]

/-- The parameters that `set_network` sets. -/
def settings (w : World) (ssid psk : List UInt8) (encryp : KeyMgmt) : List (Param × List UInt8) :=
  (if w.gbssidFlag then [(.bssid, w.gbssid)] else []) ++
    (.ssid, formatSsid ssid) :: securitySettings psk encryp

theorem commands_setNetworkScript {psk : List UInt8} {encryp : KeyMgmt}
    (h : psk = [] ↔ encryp = .none) (w : World) (id : Int) (ssid : List UInt8) :
    commands (setNetworkScript w id ssid psk encryp) =
      (settings w ssid psk encryp).map fun p => .setNetwork id p.1 p.2 := by
  have hsec : commands (securityScript id psk encryp) =
      (securitySettings psk encryp).map fun p => .setNetwork id p.1 p.2 := by
    cases encryp with
    | none =>
      obtain rfl := h.mpr rfl
      rfl
    | wep => simp [securityScript, securitySettings, commands]
    | wpa =>
      have hpsk : psk ≠ [] := fun hnil => nomatch h.mp hnil
      simp [securityScript, securitySettings, hpsk, commands]
    | wpa3 =>
      have hpsk : psk ≠ [] := fun hnil => nomatch h.mp hnil
      simp [securityScript, securitySettings, hpsk, commands]
  unfold setNetworkScript settings
  rw [commands_append, commands, hsec, List.map_append, List.map_cons]
  split_ifs <;> rfl

/-- Every command of `set_network` can be sent, so all of its values have to be carried. -/
theorem issued_carried_iff {psk : List UInt8} {keyMgmt : KeyMgmt}
    (h : psk = [] ↔ keyMgmt = .none) (w : World) (ssid : List UInt8) :
    (∀ env id, ∀ c ∈ issued (machine env) (configureScript w id ssid psk keyMgmt),
      ∃ param value, c = .setNetwork id param value ∧ Carried param value) ↔
    ∀ p ∈ settings w (nameFor w keyMgmt ssid) psk keyMgmt, Carried p.1 p.2 := by
  constructor
  · intro hall p hp
    have hpass : passes (machine (.accepting [])) (configureScript w 0 ssid psk keyMgmt) = true := by
      refine @passes_of_ok _ w 0 _ ?_ fun c hc => accepting_ok [] hc
      rw [configureScript_eq h]
      exact setNetworkScript_lines w 0 _ psk keyMgmt
    have hmem : Cmd.setNetwork 0 p.1 p.2 ∈
        issued (machine (.accepting [])) (configureScript w 0 ssid psk keyMgmt) := by
      rw [issued_of_passes _ hpass, configureScript_eq h, commands_setNetworkScript h]
      exact List.mem_map.mpr ⟨p, hp, rfl⟩
    obtain ⟨param, value, hc, hcarried⟩ := hall _ 0 _ hmem
    obtain ⟨-, hparam, hvalue⟩ := Cmd.setNetwork.inj hc
    rw [hparam, hvalue]
    exact hcarried
  · intro hall env id c hc
    have hcmd := issued_subset _ _ hc
    rw [configureScript_eq h, commands_setNetworkScript h] at hcmd
    obtain ⟨p, hp, rfl⟩ := List.mem_map.mp hcmd
    exact ⟨p.1, p.2, rfl, hall p hp⟩

/-- Values that the buffers hold fit into `cmd[600]`. -/
theorem settings_length {w : World} {ssid psk : List UInt8} {encryp : KeyMgmt}
    (hw : w.gbssid.length ≤ 17) (hbuf : BuffersHold ssid psk encryp) :
    ∀ p ∈ settings w ssid psk encryp, p.2.length ≤ 548 := by
  have hname := hbuf.name
  have hkey := hbuf.key
  have hwep : (wepKey psk).length ≤ psk.length + 4 := by
    unfold wepKey
    split_ifs
    · rw [quoted_length]
    · omega
  have hpsk := quoted_length (formatPsk psk)
  have hconst : ∀ t ∈ [chars "NONE", chars "SHARED", chars "SAE", chars "2"], t.length ≤ 548 := by
    decide
  simp only [List.forall_mem_cons] at hconst
  intro p hp
  rcases List.mem_append.mp hp with hp | hp
  · split_ifs at hp
    · rw [List.mem_singleton.mp hp]
      exact hw.trans (by decide)
    · cases hp
  rcases List.mem_cons.mp hp with rfl | hp
  · exact hname.le.trans (by decide)
  cases encryp with
  | none =>
    rw [List.mem_singleton.mp hp]
    exact hconst.1
  | wep =>
    simp only [securitySettings, List.mem_cons, List.not_mem_nil, or_false] at hp
    rcases hp with rfl | rfl | rfl
    · exact hconst.1
    · show (wepKey psk).length ≤ 548
      omega
    · exact hconst.2.1
  | wpa =>
    have hesc := hbuf.escapedKey (.inl rfl)
    rw [List.mem_singleton.mp hp]
    show (quoted (formatPsk psk)).length ≤ 548
    omega
  | wpa3 =>
    have hesc := hbuf.escapedKey (.inr rfl)
    simp only [securitySettings, List.mem_cons, List.not_mem_nil, or_false] at hp
    rcases hp with rfl | rfl | rfl
    · show (quoted (formatPsk psk)).length ≤ 548
      omega
    · exact hconst.2.2.1
    · exact hconst.2.2.2.1

theorem oneWord_wepKey_iff {psk : List UInt8} : OneWord (wepKey psk) ↔
    if psk.length = 5 ∨ psk.length = 13 ∨ psk.length = 16 then InsideWord psk else OneWord psk := by
  unfold wepKey
  split_ifs
  · exact oneWord_quoted_iff
  · exact Iff.rfl

/-- Only the bssid and the WEP key are passed on as they are. -/
theorem settings_oneWord_iff (w : World) (ssid psk : List UInt8) (encryp : KeyMgmt) :
    (∀ p ∈ settings w ssid psk encryp, OneWord p.2) ↔
      (w.gbssidFlag = true → OneWord w.gbssid) ∧ ssid ≠ [] ∧
        (encryp = .wep → OneWord (wepKey psk)) := by
  have hconst : ∀ t ∈ [chars "NONE", chars "SHARED", chars "SAE", chars "2"], OneWord t := by
    have hchars : ∀ t ∈ [chars "NONE", chars "SHARED", chars "SAE", chars "2"],
        t ≠ [] ∧ t.all isWordChar = true := by
      decide
    exact fun t ht =>
      PlainWord.oneWord (.of_wordChars (hchars t ht).1 (List.all_eq_true.mp (hchars t ht).2))
  simp only [List.forall_mem_cons] at hconst
  obtain ⟨hnone, hshared, hsae, htwo, -⟩ := hconst
  have hpsk := oneWord_formatPsk psk
  have hsec : (∀ p ∈ securitySettings psk encryp, OneWord p.2) ↔
      (encryp = .wep → OneWord (wepKey psk)) := by
    cases encryp <;> simp [securitySettings, hnone, hshared, hsae, htwo, hpsk]
  unfold settings
  rw [List.forall_mem_append, List.forall_mem_cons, hsec, oneWord_formatSsid_iff]
  refine and_congr_left fun _ => ?_
  split_ifs with hflag <;> simp [hflag]

theorem buffersHold_iff {ssid psk : List UInt8} {keyMgmt : KeyMgmt}
    (h : psk = [] ↔ keyMgmt = .none) :
    BuffersHold ssid psk keyMgmt ↔ ssid.length ≤ 255 ∧ (keyMgmt = .wep → psk.length ≤ 511) ∧
      (keyMgmt = .wpa ∨ keyMgmt = .wpa3 → psk.length ≤ 255) := by
  constructor
  · rintro ⟨hname, hkey, hesc⟩
    rw [formatSsid_length] at hname
    rw [formatPsk_length] at hesc
    exact ⟨by omega, fun _ => Nat.le_of_lt_succ hkey, fun hwpa => by have := hesc hwpa; omega⟩
  · rintro ⟨hname, hwep, hwpa⟩
    constructor
    · rw [formatSsid_length]
      omega
    · cases keyMgmt with
      | none =>
        rw [h.mpr rfl]
        decide
      | wep => exact Nat.lt_succ_of_le (hwep rfl)
      | wpa => exact (hwpa (.inl rfl)).trans_lt (by decide)
      | wpa3 => exact (hwpa (.inr rfl)).trans_lt (by decide)
    · intro hkey
      have hlen := hwpa hkey
      rw [formatPsk_length]
      omega

/-- The bssid that is used is the given one, or one that an earlier call left. -/
theorem prepare_bssid_iff (keyMgmt : KeyMgmt) (bssid : Option (List UInt8)) (w : World) :
    ((prepare keyMgmt bssid w).gbssidFlag = true → OneWord (prepare keyMgmt bssid w).gbssid) ↔
      (∀ b, bssid = some b → OneWord (b.take 17)) ∧
        (bssid = none → w.gbssidFlag = true → OneWord w.gbssid) := by
  cases bssid with
  | none =>
    unfold prepare
    split_ifs <;> simp
  | some b => simp [prepare]

theorem prepare_bssid_length {w : World} (hw : w.gbssid.length ≤ 17) (keyMgmt : KeyMgmt)
    (bssid : Option (List UInt8)) : (prepare keyMgmt bssid w).gbssid.length ≤ 17 := by
  cases bssid with
  | none =>
    unfold prepare
    split_ifs <;> exact hw
  | some b => exact List.length_take_le 17 b

end ConnectApp.Wifi
