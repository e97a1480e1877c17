import ConnectApp.Lib.Script
import ConnectApp.Wifi.SavedInfo
import ConnectApp.Wifi.Supplicant

/-!
# Connecting to a network (Rk_wifi.c:325-395, 1522-1695, 1853-2207, 2301-2425)

The three entry points `RK_wifi_connect`, `RK_wifi_connect_with_ssid` and
`RK_wifi_connect_with_bssid`, the functions below them that drive wpa_supplicant, and the
thread `wifi_connect_state_check` that ends an attempt. The file-scope variables are
fields of `World`, next to the supplicant's table and the log of the commands sent.

What a call reads is in its `Env`: the answer to each command (no checked command is sent
twice in one call), the records of the saved list, the ids the priority loop lists.
Each call is an `enter`, up to taking `wifi_connect_lock`, and a `body`.
-/

namespace ConnectApp.Wifi

open CString ConnectApp.Utility

/-- `RK_WIFI_KEY_MGMT`. -/
inductive KeyMgmt
  | none
  | wpa
  | wep
  | wpa3
  deriving DecidableEq

/-- `RK_WIFI_RUNNING_State_e`. -/
inductive RunningState
  | idle
  | connecting
  | connectFailed
  | connectFailedWrongKey
  | connected
  | disconnected
  | opened
  | off
  | scanResults
  | dhcpOk
  deriving DecidableEq

/-- A call of the registered callback; `info` are the ssid and bssid reported. -/
structure Report where
  state : RunningState
  info : Option (List UInt8 × List UInt8)
  deriving DecidableEq

/-- The variables the connect functions share, and the supplicant they drive. -/
structure World where
  wifiConnectLock : Bool
  wifiIsExist : Bool
  isWep : Bool
  wifiWrongKey : Bool
  wifiCancel : Bool
  gbssid : List UInt8
  gbssidFlag : Bool
  connectingId : Int
  wepId : Int
  connectSsid : List UInt8
  connectBssid : List UInt8
  gbkHead : List GbkEntry
  nonpskHead : List GbkEntry
  callback : Bool
  table : List Net
  sent : List Cmd
  reports : List Report
  deriving DecidableEq

/-- What the outside answers to one call. -/
structure Env where
  reply : Cmd → List UInt8
  saved : List SavedInfo
  rows : List Int

/-- The supplicant, driven by commands. -/
def machine (env : Env) : Script.Machine World Cmd where
  exec c w := { w with table := c.apply (env.reply c) w.table, sent := w.sent ++ [c] }
  ok c := answersOk (env.reply c)

/-- A line of a function that talks to the supplicant. -/
abbrev Line := Script.Step World Cmd

/-! ## The functions below the entry points -/

/-- `wifi_state_send` (Rk_wifi.c:193-221) without connection information. -/
def wifiStateSend (state : RunningState) (w : World) : World :=
  if w.callback then
    if state = .connectFailed ∨ (w.wifiConnectLock = true ∧ state = .connecting) then
      { w with reports := w.reports ++
          [⟨state, some (w.connectSsid.take 128, w.connectBssid.take 19)⟩] }
    else { w with reports := w.reports ++ [⟨state, none⟩] }
  else w

/-- `save_connect_info` (Rk_wifi.c:2051-2066). -/
def saveConnectInfo (ssid bssid : Option (List UInt8)) (w : World) : World :=
  { w with
    connectSsid := (ssid.getD []).take 129
    connectBssid := (bssid.getD []).take 20 }

/-- `get_encode_gbk_ori` (Rk_wifi.c:110-130). -/
def getEncodeGbkOri (head : List GbkEntry) (str : List UInt8) : List UInt8 :=
  match head.find? fun gbk => gbk.utf8 == str with
  | some gbk => gbk.ori
  | none => str

/-- The security a saved record stands for (Rk_wifi.c:371-379). -/
def keyClass (keyMgmt : List UInt8) : KeyMgmt :=
  if contains (chars "SAE") keyMgmt then .wpa3
  else if contains (chars "NONE") keyMgmt then .none
  else if contains (chars "WPA-PSK") keyMgmt then .wpa
  else .wep

/-- The id of the first record that is looked for, or -1. -/
def searchSaved (p : SavedInfo → Bool) (saved : List SavedInfo) : Int :=
  match saved.find? p with
  | some info => info.id
  | none => -1

/-- `RK_wifi_search_with_ssid` (Rk_wifi.c:350-395). -/
def rkWifiSearchWithSsid (saved : List SavedInfo) (ssid : List UInt8) (keyMgmt : KeyMgmt) : Int :=
  searchSaved (fun info => info.ssid == ssid && keyClass info.keyMgmt == keyMgmt) saved

/-- `RK_wifi_search_with_bssid` (Rk_wifi.c:325-348). -/
def rkWifiSearchWithBssid (saved : List SavedInfo) (bssid : List UInt8) : Int :=
  searchSaved (fun info => decide (bssid <+: info.bssid)) saved

/-- `format_wifiinfo(0, info)`: the bytes in hex. -/
def formatSsid (info : List UInt8) : List UInt8 :=
  info.flatMap fun b => [hexDigit (b / 16), hexDigit (b % 16)]

/-- `format_wifiinfo(1, info)`: a backslash in front of every character. -/
def formatPsk (info : List UInt8) : List UInt8 := info.flatMap fun b => [bslash, b]

/-- The text between `\"` and `\"`. -/
def quoted (value : List UInt8) : List UInt8 := [bslash, quote] ++ value ++ [bslash, quote]

/-- `add_network` (Rk_wifi.c:1522-1533). -/
def addNetwork (env : Env) (w : World) : Int × World :=
  (if env.reply .addNetwork = [] then -1 else addedId (env.reply .addNetwork),
    (machine env).exec .addNetwork w)

/-- The WEP key as `set_network` writes it: an ASCII key is quoted. -/
def wepKey (psk : List UInt8) : List UInt8 :=
  if psk.length = 5 ∨ psk.length = 13 ∨ psk.length = 16 then quoted psk else psk

/-- Step 2 of `set_network`: the psk and the key management. -/
def securityScript (id : Int) (psk : List UInt8) (encryp : KeyMgmt) : List Line :=
  if psk = [] ∧ encryp = .none then
    [.check (.setNetwork id .keyMgmt (chars "NONE")) (-2)]
  else if encryp = .wep then
    [.check (.setNetwork id .keyMgmt (chars "NONE")) (-41),
      .assign fun w => { w with wepId := id },
      .check (.setNetwork id .wepKey0 (wepKey psk)) (-42),
      .check (.setNetwork id .authAlg (chars "SHARED")) (-42)]
  else if psk ≠ [] ∧ encryp = .wpa then
    [.check (.setNetwork id .psk (quoted (formatPsk psk))) (-3)]
  else if psk ≠ [] ∧ encryp = .wpa3 then
    [.check (.setNetwork id .psk (quoted (formatPsk psk))) (-3),
      .check (.setNetwork id .keyMgmt (chars "SAE")) (-3),
      .check (.setNetwork id .ieee80211w (chars "2")) (-3)]
  else []

/-- The commands of `set_network`. -/
def setNetworkScript (w : World) (id : Int) (ssid psk : List UInt8) (encryp : KeyMgmt) :
    List Line :=
  (if w.gbssidFlag then [.check (.setNetwork id .bssid w.gbssid) (-1)] else []) ++
    .check (.setNetwork id .ssid (formatSsid ssid)) (-1) :: securityScript id psk encryp

/-- `set_network` (Rk_wifi.c:1535-1622). -/
def setNetwork (env : Env) (id : Int) (ssid psk : List UInt8) (encryp : KeyMgmt) (w : World) :
    Option Int × World :=
  Script.run (machine env) (setNetworkScript w id ssid psk encryp) w

/-- The commands for the priorities: one for each row of the list. -/
def priorityScript (env : Env) (id : Int) : List Line :=
  env.rows.map fun row =>
    .send (.setNetwork row .priority (decimal (if row = id then env.rows.length else 1)))

/-- `set_network_highest_priority` (Rk_wifi.c:1880-1900). -/
def setNetworkHighestPriority (env : Env) (id : Int) (w : World) : World :=
  (Script.run (machine env) (priorityScript env id) w).2

/-- `set_hide_network` (Rk_wifi.c:1624-1638). -/
def setHideNetwork (env : Env) (id : Int) (w : World) : Option Int × World :=
  Script.run (machine env) [.check (.setNetwork id .scanSsid (chars "1")) (-1)] w

/-- The commands of `select_network`. -/
def selectScript (w : World) (id : Int) : List Line :=
  (if w.gbssidFlag then [.assign fun w => { w with gbssidFlag := false }]
    else [.send (.clearBssid id)]) ++ [.check (.selectNetwork id) (-1)]

/-- `select_network` (Rk_wifi.c:1658-1679). -/
def selectNetwork (env : Env) (id : Int) (w : World) : Option Int × World :=
  Script.run (machine env) (selectScript w id) w

/-- `enable_network` (Rk_wifi.c:1681-1695). -/
def enableNetwork (env : Env) (id : Int) (w : World) : Option Int × World :=
  Script.run (machine env) [.check (.enableNetwork id) (-1)] w

/-- `if (0 != ret) goto fail;`. -/
def orFail (fail : World → Int × World) (r : Option Int × World) (k : World → Int × World) :
    Int × World :=
  match r with
  | (none, w) => k w
  | (some _, w) => fail w

/-! ## The entry points -/

/-- The fail exit of `RK_wifi_connect1`. -/
def connectFail (w : World) : Int × World :=
  (-1, { wifiStateSend .connectFailed w with wifiConnectLock := false, isWep := false })

/-- The fail exit of the other two functions. -/
def existFail (w : World) : Int × World :=
  (-1, { wifiStateSend .connectFailed w with wifiIsExist := false, wifiConnectLock := false })

/-- The start of an attempt: it is reported and all networks are disabled. -/
def announce (env : Env) (ssid bssid : Option (List UInt8)) (w : World) : World :=
  (machine env).exec .disableAll (wifiStateSend .connecting (saveConnectInfo ssid bssid w))

/-- The network `RK_wifi_connect1` configures: a saved one, or a new one. -/
def findOrAdd (env : Env) (ssid : List UInt8) (encryp : KeyMgmt) (w : World) : Int × World :=
  let id := rkWifiSearchWithSsid env.saved ssid encryp
  if id < 0 then addNetwork env w else (id, w)

/-- The call of `set_network` in `RK_wifi_connect1`. -/
def configure (env : Env) (id : Int) (ssid psk : List UInt8) (encryp : KeyMgmt) (w : World) :
    Option Int × World :=
  if encryp = .none ∨ psk = [] then
    setNetwork env id (getEncodeGbkOri w.nonpskHead ssid) [] .none w
  else setNetwork env id (getEncodeGbkOri w.gbkHead ssid) psk encryp w

/-- `RK_wifi_connect1` from `connecting_id = id` on. -/
def connectNetwork (env : Env) (id : Int) (ssid psk : List UInt8) (encryp : KeyMgmt) (w : World) :
    Int × World :=
  orFail connectFail (configure env id ssid psk encryp { w with connectingId := id }) fun w =>
    orFail connectFail (setHideNetwork env id (setNetworkHighestPriority env id w)) fun w =>
      orFail connectFail (selectNetwork env id w) fun w =>
        orFail connectFail (enableNetwork env id w) fun w => (0, w)

/-- `RK_wifi_connect1` (Rk_wifi.c:2121-2207). -/
def rkWifiConnect1 (env : Env) (ssid psk : List UInt8) (encryp : KeyMgmt) (w : World) :
    Int × World :=
  let w := announce env (some ssid) none { w with wifiWrongKey := false }
  let (id, w) := findOrAdd env ssid encryp w
  if id < 0 then connectFail w else connectNetwork env id ssid psk encryp w

/-- The common rest of the other two functions, from `connecting_id = id` on. -/
def connectSaved (env : Env) (id : Int) (text : List UInt8) (w : World) : Int × World :=
  let w := announce env none (some text) { w with connectingId := id }
  orFail existFail (selectNetwork env id w) fun w =>
    orFail existFail (enableNetwork env id (setNetworkHighestPriority env id w)) fun w => (0, w)

/-- A call of one of the three entry points; `none` is a NULL argument. -/
inductive Call
  | connect (ssid psk : Option (List UInt8)) (keyMgmt : KeyMgmt) (bssid : Option (List UInt8))
  | connectWithSsid (ssid : Option (List UInt8)) (keyMgmt : KeyMgmt)
  | connectWithBssid (bssid : Option (List UInt8))
  deriving DecidableEq

/-- Up to the test-and-set of `wifi_connect_lock`: the call has returned -1, or it holds
the lock. -/
inductive Entered
  | returned (w : World)
  | holds (w : World)

/-- The argument checks of `RK_wifi_connect`. -/
def argsOk (ssid psk : Option (List UInt8)) (keyMgmt : KeyMgmt) : Bool :=
  ssid.isSome && !(psk.getD [] ≠ [] && keyMgmt = .none) && !(psk.getD [] = [] && keyMgmt ≠ .none)

/-- The first part of a call. `RK_wifi_connect_with_bssid` leaves through its fail exit
when the lock is held. -/
def Call.enter (call : Call) (w : World) : Entered :=
  let take := Entered.holds { w with wifiConnectLock := true }
  match call with
  | .connect ssid psk keyMgmt _ =>
    if argsOk ssid psk keyMgmt = false then .returned w
    else if w.wifiConnectLock then .returned w else take
  | .connectWithSsid _ _ => if w.wifiConnectLock then .returned w else take
  | .connectWithBssid _ => if w.wifiConnectLock then .returned (existFail w).2 else take

/-- The variables `RK_wifi_connect` sets for `RK_wifi_connect1`. -/
def prepare (keyMgmt : KeyMgmt) (bssid : Option (List UInt8)) (w : World) : World :=
  let w := if keyMgmt = .wep then { w with isWep := true } else w
  match bssid with
  | some b => { w with gbssid := b.take 17, gbssidFlag := true }
  | none => w

/-- `RK_wifi_connect` (Rk_wifi.c:2069-2119) behind the lock. -/
def connectBody (env : Env) (ssid psk : List UInt8) (keyMgmt : KeyMgmt)
    (bssid : Option (List UInt8)) (w : World) : Int × World :=
  rkWifiConnect1 env ssid psk keyMgmt (prepare keyMgmt bssid w)

/-- `RK_wifi_connect_with_ssid` (Rk_wifi.c:2301-2359) behind the lock. -/
def connectWithSsidBody (env : Env) (ssid : Option (List UInt8)) (keyMgmt : KeyMgmt) (w : World) :
    Int × World :=
  let w := { w with wifiWrongKey := false, wifiIsExist := true }
  match ssid with
  | none => existFail w
  | some ssid =>
    let id := rkWifiSearchWithSsid env.saved ssid keyMgmt
    if id < 0 then existFail w else connectSaved env id ssid w

/-- `RK_wifi_connect_with_bssid` (Rk_wifi.c:2362-2425) behind the lock. -/
def connectWithBssidBody (env : Env) (bssid : Option (List UInt8)) (w : World) : Int × World :=
  let w := { w with wifiWrongKey := false, wifiIsExist := true }
  match bssid with
  | none => existFail w
  | some bssid =>
    if bssid.length < 17 then existFail w
    else
      let id := rkWifiSearchWithBssid env.saved bssid
      if id < 0 then existFail w else connectSaved env id bssid w

/-- The rest of a call that holds the lock. -/
def Call.body (env : Env) : Call → World → Int × World
  | .connect ssid psk keyMgmt bssid, w =>
    connectBody env (ssid.getD []) (psk.getD []) keyMgmt bssid w
  | .connectWithSsid ssid keyMgmt, w => connectWithSsidBody env ssid keyMgmt w
  | .connectWithBssid bssid, w => connectWithBssidBody env bssid w

/-- A whole call: what it returns and what it leaves. -/
def Call.run (env : Env) (call : Call) (w : World) : Int × World :=
  match call.enter w with
  | .returned w => (-1, w)
  | .holds w => call.body env w

/-! ## The end of an attempt -/

/-- `wifi_connectfail_process` (Rk_wifi.c:1965-1989). -/
def wifiConnectfailProcess (env : Env) (id : Int) (w : World) : World :=
  let cmd := if w.wifiIsExist then Cmd.disableNetwork id else .removeNetwork id
  (machine env).exec .saveConfig ((machine env).exec cmd w)

/-- How `check_wifi_isconnected` and the monitor left the attempt. -/
structure Ending where
  isConnected : Bool
  wrongKey : Bool

/-- What `wifi_connect_state_check` does with the outcome before it resets the flags. -/
def concludeAttempt (env : Env) (ending : Ending) (id : Int) (w : World) : World :=
  if ending.isConnected then wifiStateSend .dhcpOk ((machine env).exec .saveConfig w)
  else if ending.wrongKey then wifiConnectfailProcess env id w
  else wifiStateSend .connectFailed (wifiConnectfailProcess env id w)

/-- `wifi_connect_state_check` (Rk_wifi.c:1991-2049) of the network `id`. -/
def wifiConnectStateCheck (env : Env) (ending : Ending) (id : Int) (w : World) : World :=
  let w := concludeAttempt env ending id { w with wifiWrongKey := ending.wrongKey }
  let w := { w with
    wifiIsExist := false, wifiConnectLock := false, isWep := false, wifiCancel := false }
  if ending.isConnected then w
  else (machine env).exec .reconnect ((machine env).exec .enableAll w)

/-- A call with what the supplicant answers to it, and the end of the attempt it starts. -/
structure Attempt where
  call : Call
  env : Env
  endEnv : Env
  ending : Ending

/-- A call whose attempt is finished before the next one. -/
def Attempt.run (a : Attempt) (w : World) : World :=
  if (a.call.run a.env w).1 = 0 then
    wifiConnectStateCheck a.endEnv a.ending (a.call.run a.env w).2.connectingId
      (a.call.run a.env w).2
  else (a.call.run a.env w).2

/-- The variables before the first call, with an empty table. -/
def World.boot : World where
  wifiConnectLock := false
  wifiIsExist := false
  isWep := false
  wifiWrongKey := false
  wifiCancel := false
  gbssid := []
  gbssidFlag := false
  connectingId := -1
  wepId := -1
  connectSsid := []
  connectBssid := []
  gbkHead := []
  nonpskHead := []
  callback := true
  table := []
  sent := []
  reports := []

/-- A supplicant that does everything it is asked for, and lists no network. -/
def Env.allOk : Env where
  reply
    | .addNetwork => chars "0\n"
    | _ => chars "OK\n"
  saved := []
  rows := []

end ConnectApp.Wifi
