import ConnectApp.Utility.Exec

/-!
# wpa_supplicant's network table

The part of wpa_supplicant that the connect functions drive through `wpa_cli`: a table of
networks, each with an id, an enabled flag and the parameters set on it. A command that is
answered well is applied, any other is ignored (`Cmd.apply`). The answer to `add_network`
is the new network's id.
-/

namespace ConnectApp.Wifi

open CString ConnectApp.Utility

/-- The network parameters the code sets. -/
inductive Param
  | bssid
  | ssid
  | keyMgmt
  | wepKey0
  | authAlg
  | psk
  | ieee80211w
  | priority
  | scanSsid
  deriving DecidableEq

/-- The commands the code sends. -/
inductive Cmd
  | disableAll
  | addNetwork
  | setNetwork (id : Int) (param : Param) (value : List UInt8)
  | clearBssid (id : Int)
  | selectNetwork (id : Int)
  | enableNetwork (id : Int)
  | disableNetwork (id : Int)
  | removeNetwork (id : Int)
  | saveConfig
  | enableAll
  | reconnect
  deriving DecidableEq

/-- A configured network. -/
structure Net where
  id : Int
  enabled : Bool
  params : List (Param × List UInt8)
  deriving DecidableEq

/-- What a table is compared by: the ids and the enabled flags. -/
def Net.key (n : Net) : Int × Bool := (n.id, n.enabled)

/-- `0 != strlen(str) && 0 == strncmp(str, "OK", 2)` after `exec_command(cmd, str, 8)`. -/
def answersOk (reply : List UInt8) : Bool := decide (chars "OK" <+: execCommand reply 8)

/-- The id in the answer to `add_network`. -/
def addedId (reply : List UInt8) : Int := atoi (execCommand reply 8)

/-- Sets a parameter. -/
def Net.set (param : Param) (value : List UInt8) (n : Net) : Net :=
  { n with params := (param, value) :: n.params }

/-- What a command does to the network it names. -/
def onNet (id : Int) (f : Net → Net) (table : List Net) : List Net :=
  table.map fun n => if n.id = id then f n else n

/-- The effect of a command that is answered well. -/
def Cmd.act : Cmd → List Net → List Net
  | .disableAll, t => t.map fun n => { n with enabled := false }
  | .addNetwork, t => t
  | .setNetwork id param value, t => onNet id (Net.set param value) t
  | .clearBssid id, t => onNet id (Net.set .bssid (chars "00:00:00:00:00:00")) t
  | .selectNetwork id, t => t.map fun n => { n with enabled := decide (n.id = id) }
  | .enableNetwork id, t => onNet id (fun n => { n with enabled := true }) t
  | .disableNetwork id, t => onNet id (fun n => { n with enabled := false }) t
  | .removeNetwork id, t => t.filter fun n => n.id ≠ id
  | .saveConfig, t => t
  | .enableAll, t => t.map fun n => { n with enabled := true }
  | .reconnect, t => t

/-- `add_network` made a network: the answer is a number. -/
def adds (reply : List UInt8) : Bool := reply.head?.any isDigit

/-- A command with its answer. -/
def Cmd.apply (c : Cmd) (reply : List UInt8) (t : List Net) : List Net :=
  match c with
  | .addNetwork => if adds reply then t ++ [⟨addedId reply, false, []⟩] else t
  | c => if answersOk reply then c.act t else t

/-! ## What the commands leave alone -/

theorem onNet_set_keys (id : Int) (param : Param) (value : List UInt8) (t : List Net) :
    (onNet id (Net.set param value) t).map Net.key = t.map Net.key := by
  unfold onNet
  rw [List.map_map]
  refine List.map_congr_left fun n _ => ?_
  show Net.key (if n.id = id then _ else _) = n.key
  split_ifs <;> rfl

/-- The commands that only set parameters. -/
def Cmd.setsParam : Cmd → Bool
  | .setNetwork _ _ _ => true
  | .clearBssid _ => true
  | _ => false

/-- Setting parameters changes neither the ids nor the enabled flags. -/
theorem apply_keys {c : Cmd} (h : c.setsParam = true) (reply : List UInt8) (t : List Net) :
    (c.apply reply t).map Net.key = t.map Net.key := by
  cases c with
  | setNetwork id param value =>
    show (if answersOk reply then onNet id (Net.set param value) t else t).map Net.key = _
    split_ifs
    · exact onNet_set_keys id param value t
    · rfl
  | clearBssid id =>
    show (if answersOk reply then onNet id (Net.set .bssid _) t else t).map Net.key = _
    split_ifs
    · exact onNet_set_keys id .bssid _ t
    · rfl
  | _ => cases h

/-- The commands that remove no network. -/
def Cmd.removes (c : Cmd) (id : Int) : Bool := c = .removeNetwork id

/-- A network stays in the table under any command but its own removal. -/
theorem mem_ids_apply {c : Cmd} {t : List Net} {id : Int} (hc : c.removes id = false)
    (reply : List UInt8) (h : id ∈ t.map Net.id) : id ∈ (c.apply reply t).map Net.id := by
  have hmap : ∀ f : Net → Net, (∀ n, (f n).id = n.id) → id ∈ (t.map f).map Net.id := by
    intro f hf
    rwa [List.map_map, show Net.id ∘ f = Net.id from funext hf]
  have hon : ∀ (k : Int) (f : Net → Net), (∀ n, (f n).id = n.id) →
      id ∈ (onNet k f t).map Net.id := by
    intro k f hf
    refine hmap _ fun n => ?_
    show Net.id (if n.id = k then _ else _) = _
    split_ifs
    · exact hf n
    · rfl
  have hif : ∀ u : List Net, id ∈ u.map Net.id →
      id ∈ (if answersOk reply then u else t).map Net.id := by
    intro u hu
    split_ifs
    · exact hu
    · exact h
  cases c with
  | disableAll => exact hif _ (hmap _ fun _ => rfl)
  | addNetwork =>
    show id ∈ (if adds reply then t ++ _ else t).map Net.id
    split_ifs
    · rw [List.map_append]
      exact List.mem_append_left _ h
    · exact h
  | setNetwork k param value => exact hif _ (hon k _ fun _ => rfl)
  | clearBssid k => exact hif _ (hon k _ fun _ => rfl)
  | selectNetwork k => exact hif _ (hmap _ fun _ => rfl)
  | enableNetwork k => exact hif _ (hon k _ fun _ => rfl)
  | disableNetwork k => exact hif _ (hon k _ fun _ => rfl)
  | removeNetwork k =>
    refine hif _ ?_
    obtain ⟨n, hn, rfl⟩ := List.mem_map.mp h
    have hk : n.id ≠ k := by
      rintro rfl
      simp [Cmd.removes] at hc
    exact List.mem_map.mpr ⟨n, List.mem_filter.mpr ⟨hn, decide_eq_true hk⟩, rfl⟩
  | saveConfig => exact hif _ h
  | enableAll => exact hif _ (hmap _ fun _ => rfl)
  | reconnect => exact hif _ h

end ConnectApp.Wifi
