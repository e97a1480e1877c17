import ConnectApp.Wifi.EventInfo
import ConnectApp.Wifi.SavedColumn

/-!
# The calls of `spec_char_convers` (Rk_wifi.c:476-515, 1453-1488, 2703-2726)

Only the status hands over the whole text of an SSID. The other callers can cut it, also inside an
escape:

* the scan reads 254 characters of a row, whose last column is the SSID (`takeLine_row`)
* the saved list hands over what it takes for the ssid column (`ssidWith_eq`)
* a wrong-key event hands over what stands in front of the first `" auth_failures`
  (`keyText_tempDisabled`)

`convers_safe_iff` says for which SSIDs all calls stay in bounds.
-/

namespace ConnectApp.Wifi

open CString

/-- The line that `fgets` reads of a row: what stands in front of the SSID, and as much of the SSID
as there is room for. -/
theorem takeLine_row {front : List UInt8} (hline : 10 ∉ front) (hlen : front.length ≤ 254)
    (s rest : List UInt8) : ∃ newline, (newline = [] ∨ newline = [10]) ∧
      (takeLine 254 (front ++ (printfEncode s ++ 10 :: rest))).1 =
        front ++ (printfEncode s).take (254 - front.length) ++ newline := by
  have hrow : 10 ∉ front ++ printfEncode s := by
    have hssid : 10 ∉ printfEncode s := fun h => absurd (printfEncode_printable s 10 h) (by decide)
    rw [List.mem_append, not_or]
    exact ⟨hline, hssid⟩
  rw [← List.append_assoc]
  by_cases hshort : (front ++ printfEncode s).length < 254
  · -- the whole row with its newline
    refine ⟨[10], .inr rfl, ?_⟩
    rw [takeLine_line hrow hshort, List.take_of_length_le]
    rw [List.length_append] at hshort
    omega
  · refine ⟨[], .inl rfl, ?_⟩
    have hcut : front ++ printfEncode s ++ 10 :: rest = (front ++ printfEncode s).take 254 ++
        ((front ++ printfEncode s).drop 254 ++ 10 :: rest) := by
      rw [← List.append_assoc, List.take_append_drop]
    have hfull := takeLine_full (l := (front ++ printfEncode s).take 254)
      (fun h => hrow (List.mem_of_mem_take h)) ((front ++ printfEncode s).drop 254 ++ 10 :: rest)
    rw [List.length_take_of_le (by omega), ← hcut] at hfull
    rw [hfull, List.take_append, List.take_of_length_le hlen, List.append_nil]

/-- The texts that `spec_char_convers` is called on for the SSID `s`, with `front` characters in
front of it in the row of the scan. -/
inductive PassedText (s : List UInt8) (front : Nat) : List UInt8 → Prop
  /-- `RK_wifi_scan_r_sec` and `RK_wifi_scan_softap`. -/
  | scan : PassedText s front ((printfEncode s).take (254 - front))
  /-- `RK_wifi_running_getConnectionInfo` and its private copy. -/
  | status : PassedText s front (printfEncode s)
  /-- `get_wifi_info_by_event`, unless the tag is found in front of the name. -/
  | wrongKey : ¬ endTag <+: quote :: printfEncode s →
      PassedText s front (cutAt endTag (printfEncode s))
  /-- `get_ssid_from_list_network`, for a saved network with any bssid and flags. -/
  | saved (n : SavedNet) : n.ssid = s → PassedText s front (removeEscapeCharacter n.shown)

/-- In each of the texts, read from the left, every backslash followed by `x` has two more
characters behind it. -/
structure EscapesEnd (s : List UInt8) (front : Nat) : Prop where
  scan : escapesFit (fun b => [b]) ((printfEncode s).take (254 - front)) = true
  status : escapesFit encByte s = true
  wrongKey : ¬ endTag <+: quote :: printfEncode s →
    escapesFit (fun b => [b]) (cutAt endTag (printfEncode s)) = true
  saved : ∀ n : SavedNet, n.ssid = s →
    escapesFit (fun b => [b]) (removeEscapeCharacter n.shown) = true

end ConnectApp.Wifi
