import ConnectApp.Lib.Memory
import ConnectApp.Wifi.ShellCommand

/-!
# Credentials on their way to wpa_cli (Rk_wifi.c:1535-1619, 1803-1862)

`set_network` copies the ssid and the passphrase into two buffers, rewrites them there with
`format_wifiinfo` and prints each into a command line. `credentials_arrive` says what wpa_cli
gets after the shell has split the lines: the hex digits of exactly the ssid, and the passphrase
between double quotes. A backslash in front of a newline would be dropped together with it; the
characters of a passphrase are from 32 on, so there is none.
-/

namespace ConnectApp.Wifi

open CString Memory Script Shell

/-! ## The buffers -/

/-- What is written to `wifi_ssid`: the `strcpy` of the name, then that of its hex digits by
`format_wifiinfo(0, wifi_ssid)`. -/
def wifiSsidStores (ssid : List UInt8) : List (Store UInt8) :=
  [⟨0, ssid ++ [0]⟩, ⟨0, formatSsid ssid ++ [0]⟩]

/-- What is written to `wifi_psk`. -/
def wifiPskStores (psk : List UInt8) : List (Store UInt8) :=
  [⟨0, psk ++ [0]⟩, ⟨0, formatPsk psk ++ [0]⟩]

/-- A text and its rewriting of twice the length fit into 512 bytes. -/
theorem stores_inside {t u : List UInt8} (hu : u.length = 2 * t.length) (ht : t.length ≤ 255) :
    ∀ s ∈ [Store.mk 0 (t ++ [0]), Store.mk 0 (u ++ [0])], s.Inside 0 512 := by
  simp only [List.forall_mem_cons]
  refine ⟨.inr ⟨Nat.le_refl _, ?_⟩, .inr ⟨Nat.le_refl _, ?_⟩, by simp⟩
  all_goals
    simp only [List.length_append, List.length_singleton]
    omega

/-! ## The command lines -/

/-- The format of a command line, filled in. -/
def commandLine (id : Int) (param : Param) (value : List UInt8) : List UInt8 :=
  chars "wpa_cli -iwlan0 set_network " ++ decimal id ++ chars " " ++ param.text ++ chars " " ++ value

/-- The values in the commands of `set_network` for one parameter. -/
def sentValues (w : World) (id : Int) (ssid psk : List UInt8) (encryp : KeyMgmt) (param : Param) :
    List (List UInt8) :=
  (commands (setNetworkScript w id ssid psk encryp)).filterMap fun
    | .setNetwork _ p value => if p = param then some value else none
    | _ => none

theorem sentValues_eq {psk : List UInt8} {encryp : KeyMgmt} (h : psk = [] ↔ encryp = .none)
    (w : World) (id : Int) (ssid : List UInt8) (param : Param) :
    sentValues w id ssid psk encryp param =
      (settings w ssid psk encryp).filterMap fun p => if p.1 = param then some p.2 else none := by
  rw [sentValues, commands_setNetworkScript h, List.filterMap_map]
  rfl

/-! ## The name -/

/-- Lower-case hex digits. -/
def isLowerHex (b : UInt8) : Bool := 48 ≤ b && b ≤ 57 || 97 ≤ b && b ≤ 102

/-- The bytes that a text of two hex digits per byte stands for. -/
def unhex : List UInt8 → Option (List UInt8)
  | [] => some []
  | [_] => none
  | h :: l :: t =>
    if (hexValue h).isSome ∧ (hexValue l).isSome then (unhex t).map (strtoul16 h l :: ·) else none

theorem isLowerHex_hexDigit {d : UInt8} (h : d < 16) : isLowerHex (hexDigit d) = true := by
  have hd : d.toNat < 16 := h
  unfold hexDigit
  split_ifs with h10
  · have hd10 : d.toNat < 10 := h10
    simp [isLowerHex, UInt8.le_iff_toNat_le]
    omega
  · have hd10 : ¬ d.toNat < 10 := h10
    simp [isLowerHex, UInt8.le_iff_toNat_le]
    omega

theorem formatSsid_lowerHex (ssid : List UInt8) : ∀ b ∈ formatSsid ssid, isLowerHex b = true := by
  have hdiv : ∀ b : UInt8, b / 16 < 16 := by
    intro b
    have := b.toNat_lt
    rw [UInt8.lt_iff_toNat_lt, UInt8.toNat_div]
    show b.toNat / 16 < 16
    omega
  have hmod : ∀ b : UInt8, b % 16 < 16 := by
    intro b
    rw [UInt8.lt_iff_toNat_lt, UInt8.toNat_mod]
    exact Nat.mod_lt _ (by decide)
  intro d hd
  obtain ⟨b, -, hb⟩ := List.mem_flatMap.mp hd
  simp only [List.mem_cons, List.not_mem_nil, or_false] at hb
  rcases hb with rfl | rfl
  · exact isLowerHex_hexDigit (hdiv b)
  · exact isLowerHex_hexDigit (hmod b)

theorem unhex_formatSsid (ssid : List UInt8) : unhex (formatSsid ssid) = some ssid := by
  induction ssid with
  | nil => rfl
  | cons b ssid ih =>
    obtain ⟨hvalue, hhigh, hlow⟩ := hexDigits b
    show unhex (hexDigit (b / 16) :: hexDigit (b % 16) :: formatSsid ssid) = _
    rw [unhex, if_pos ⟨hhigh, hlow⟩, ih, hvalue]
    rfl

/-- The ssid command for a name. -/
structure NameArrives (id : Int) (ssid value : List UInt8) : Prop where
  whole : setNetworkText id .ssid value = commandLine id .ssid value
  words : shellWords (setNetworkText id .ssid value) = some (commandWords id .ssid ++ [value])
  lower : ∀ b ∈ value, isLowerHex b = true
  decodes : unhex value = some ssid

theorem nameArrives {id : Int} (hid : IsInt id) {ssid : List UInt8}
    (hlen : 1 ≤ ssid.length ∧ ssid.length ≤ 255) : NameArrives id ssid (formatSsid ssid) := by
  have hvalue : (formatSsid ssid).length ≤ 548 := by
    rw [formatSsid_length]
    omega
  have hne : formatSsid ssid ≠ [] :=
    mt formatSsid_eq_nil_iff.mp (List.ne_nil_of_length_pos hlen.1)
  have hword := PlainWord.of_wordChars hne (formatSsid_wordChars ssid)
  refine ⟨setNetworkText_whole hid .ssid hvalue, ?_, formatSsid_lowerHex ssid,
    unhex_formatSsid ssid⟩
  rw [shellWords_setNetworkText hid .ssid hvalue, hword.shellWords]
  rfl

/-! ## The passphrase -/

/-- The shell takes the backslashes away, and nothing else. -/
theorem shellWords_quoted {psk : List UInt8} (h : 10 ∉ psk) :
    shellWords (quoted (formatPsk psk)) = some [quote :: psk ++ [quote]] := by
  have hopen : read ⟨.between, []⟩ [bslash, quote] = some ⟨.word [quote], []⟩ := rfl
  unfold shellWords quoted
  rw [List.append_assoc, wordsFrom_append hopen, formatPsk, wordsFrom_append (read_escaped h [quote] [])]
  rfl

/-- The psk command for a passphrase. -/
structure KeyArrives (id : Int) (psk value : List UInt8) : Prop where
  whole : setNetworkText id .psk value = commandLine id .psk value
  words : shellWords (setNetworkText id .psk value) =
    some (commandWords id .psk ++ [quote :: psk ++ [quote]])

theorem keyArrives {id : Int} (hid : IsInt id) {psk : List UInt8} (hlen : psk.length ≤ 255)
    (h : 10 ∉ psk) : KeyArrives id psk (quoted (formatPsk psk)) := by
  have hvalue : (quoted (formatPsk psk)).length ≤ 548 := by
    rw [quoted_length, formatPsk_length]
    omega
  refine ⟨setNetworkText_whole hid .psk hvalue, ?_⟩
  rw [shellWords_setNetworkText hid .psk hvalue, shellWords_quoted h]
  rfl

/-- **Credentials arrive.** For WPA and WPA3, one command carries the hex digits of the ssid and
one the quoted passphrase; both are whole, and the two buffers hold what they are made of. -/
theorem credentials_arrive (w : World) {id : Int} (hid : IsInt id) {ssid psk : List UInt8}
    {encryp : KeyMgmt} (hwpa : encryp = .wpa ∨ encryp = .wpa3)
    (hssid : 1 ≤ ssid.length ∧ ssid.length ≤ 255) (hlen : 8 ≤ psk.length ∧ psk.length ≤ 63)
    (hpsk : ∀ b ∈ psk, printable b = true) :
    (∃ value, sentValues w id ssid psk encryp .ssid = [value] ∧ NameArrives id ssid value) ∧
      (∃ value, sentValues w id ssid psk encryp .psk = [value] ∧ KeyArrives id psk value) ∧
      (∀ s ∈ wifiSsidStores ssid, s.Inside 0 512) ∧ ∀ s ∈ wifiPskStores psk, s.Inside 0 512 := by
  have hnewline : (10 : UInt8) ∉ psk := fun h10 => nomatch hpsk 10 h10
  have hnone : psk = [] ↔ encryp = .none := by
    constructor
    · rintro rfl
      exact absurd hlen.1 (by decide)
    · rintro rfl
      rcases hwpa with h | h <;> cases h
  have hsent := sentValues_eq hnone w id ssid
  refine ⟨⟨formatSsid ssid, ?_, nameArrives hid hssid⟩,
    ⟨quoted (formatPsk psk), ?_, keyArrives hid (by omega) hnewline⟩,
    stores_inside (formatSsid_length ssid) hssid.2,
    stores_inside (formatPsk_length psk) (by omega)⟩
  -- the bssid command, if there is one, and the commands behind the psk set other parameters
  · rw [hsent, settings]
    rcases hwpa with rfl | rfl <;> cases w.gbssidFlag <;> rfl
  · rw [hsent, settings]
    rcases hwpa with rfl | rfl <;> cases w.gbssidFlag <;> rfl

/-- A passphrase with blanks, quotes, backslashes and other shell characters. -/
theorem credentials_arrive_shell :
    (∃ value, sentValues .boot 3 (chars "caf\n") (chars "a \"b\\;$(c)") .wpa3 .ssid = [value] ∧
      NameArrives 3 (chars "caf\n") value) ∧
    (∃ value, sentValues .boot 3 (chars "caf\n") (chars "a \"b\\;$(c)") .wpa3 .psk = [value] ∧
      KeyArrives 3 (chars "a \"b\\;$(c)") value) ∧
    (∀ s ∈ wifiSsidStores (chars "caf\n"), s.Inside 0 512) ∧
    ∀ s ∈ wifiPskStores (chars "a \"b\\;$(c)"), s.Inside 0 512 :=
  credentials_arrive .boot ⟨by decide, by decide⟩ (.inr rfl) (by decide) (by decide)
    (List.all_eq_true.mp (by decide))

end ConnectApp.Wifi
