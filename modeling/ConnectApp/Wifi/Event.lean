import ConnectApp.Wifi.Connect

/-!
# Events of wpa_supplicant (Rk_wifi.c:1696-1733, 1903-1935, 2668-2830)

`dispatch_event` receives the text of an event from the monitor loop. It first drops some
events, then compares the text with the known ones in order, and reports what it finds
through the callback. `handlerOf` is the chain of comparisons, `getWifiInfoByEvent` takes
ssid, bssid, id and reason out of the text, and `dispatchEvent` is the whole function.

The texts `WPA_EVENT_…` are those of `wpa_ctrl.h`; each of them ends in a blank. A text that
makes `get_wifi_info_by_event` read through a null pointer or write past one of its buffers
has no result.
-/

namespace ConnectApp.Wifi

open CString ConnectApp.Utility

def wpaEventDisconnected : List UInt8 := chars "CTRL-EVENT-DISCONNECTED "
def wpaEventConnected : List UInt8 := chars "CTRL-EVENT-CONNECTED "
def wpaEventScanResults : List UInt8 := chars "CTRL-EVENT-SCAN-RESULTS "
def wpaEventTerminating : List UInt8 := chars "CTRL-EVENT-TERMINATING "

/-- `str_starts_with` (Rk_wifi.c:2668-2673): `strstr` finds the text at the start. -/
def strStartsWith (str search : List UInt8) : Bool := strstr search str = some 0

/-- The branches of `dispatch_event`. -/
inductive Handler
  | filtered
  | disconnected
  | connected
  | scanResults
  | wrongKey
  | terminating
  | associating
  | other
  deriving DecidableEq

/-- The branch an event takes. -/
def handlerOf (event : List UInt8) : Handler :=
  if contains (chars "CTRL-EVENT-BSS") event || contains (chars "CTRL-EVENT-TERMINATING") event then
    .filtered
  else if strStartsWith event wpaEventDisconnected then .disconnected
  else if strStartsWith event wpaEventConnected then .connected
  else if strStartsWith event wpaEventScanResults then .scanResults
  else if contains (chars "reason=WRONG_KEY") event then .wrongKey
  else if strStartsWith event wpaEventTerminating then .terminating
  else if contains (chars "Trying to associate with SSID") event then .associating
  else .other

/-! ## What an event says -/

/-- The part of `RK_WIFI_INFO_Connection_s` that events fill. -/
structure ConnInfo where
  id : Int
  ssid : List UInt8
  bssid : List UInt8
  reason : Int
  deriving DecidableEq

/-- `strncpy` of `text`, without a terminator, over the text that is there. -/
def overwrite (text old : List UInt8) : List UInt8 := text ++ old.drop text.length

/-- `strncpy` of 17 bytes: a shorter text is padded with zeros. -/
def copyBssid (text old : List UInt8) : List UInt8 :=
  if text.length < 17 then text else overwrite (text.take 17) old

/-- The `RK_WIFI_State_DISCONNECTED` case of `get_wifi_info_by_event`. -/
def disconnectedInfo (event : List UInt8) (info : ConnInfo) : ConnInfo :=
  let info := match strstr (chars "bssid=") event with
    | some n => { info with bssid := copyBssid (event.drop (n + 6)) info.bssid }
    | none => info
  match strstr (chars "reason=") event with
  | some n => { info with reason := atoi ((event.drop (n + 7)).take 2) }
  | none => info

/-- The name in `sname1`: `remove_escape_character` after `spec_char_convers`, on zeroed buffers. -/
def eventName (value : List UInt8) : List UInt8 :=
  removeEscapeCharacter (cstr (specCharZeroed value))

/-- The name of a wrong-key event: the text from `ssid="` (at `start`) to `" auth_failures` (at
`stop`), which has to fit `value[256]`, decoded. -/
def wrongKeyName (event : List UInt8) (start stop : Nat) : Option (List UInt8) :=
  let value := (event.drop (start + 6)).take (stop - (start + 6))
  if start + 6 ≤ stop ∧ stop - (start + 6) < 256 ∧ ConversDefined value then some (eventName value)
  else none

/-- The id of a wrong-key event: the text between `id=` (at `idTag`) and ` ssid="`, which has
to fit `buf[10]`. -/
def wrongKeyId (event : List UInt8) (start idTag : Nat) : Option Int :=
  if idTag + 4 ≤ start ∧ start - (idTag + 4) < 10 then
    some (atoi ((event.drop (idTag + 3)).take (start - (idTag + 4))))
  else none

/-- What a wrong-key event says. -/
inductive KeyText
  /-- A text does not fit its buffer, or an `id=` without an `ssid="` is measured with a null
  pointer. -/
  | faulty
  /-- There is no `" auth_failures`. -/
  | unfinished
  | nameless
  | named (name : List UInt8) (id : Option Int)
  deriving DecidableEq

/-- The name and the id that are found in a wrong-key event. -/
def keyText (event : List UInt8) : KeyText :=
  match strstr (chars "ssid=\"") event, strstr (chars "id=") event with
  | none, none => .nameless
  | none, some _ => .faulty
  | some start, idTag =>
    match strstr (chars "\" auth_failures") event with
    | none => .unfinished
    | some stop =>
      match wrongKeyName event start stop, idTag.map (wrongKeyId event start) with
      | some name, none => .named name none
      | some name, some (some id) => .named name (some id)
      | _, _ => .faulty

/-- The `RK_WIFI_State_CONNECTFAILED_WRONG_KEY` case of `get_wifi_info_by_event`: the name, which
has to fit `info->ssid`, is copied over the one of the status. -/
def wrongKeyInfo (gbk : List GbkEntry) (connectBssid event : List UInt8) (info : ConnInfo) :
    Option ConnInfo :=
  match keyText event with
  | .faulty => none
  | .unfinished => some info
  | .nameless => some { info with bssid := connectBssid }
  | .named name id =>
    let utf8 := getEncodeGbkUtf8 gbk name
    if utf8.length ≤ 129 then
      some ⟨id.getD info.id, overwrite utf8 info.ssid, connectBssid, info.reason⟩
    else none

/-- A format of `sscanf` without conversions: a blank stands for any white space. -/
def matchFormat : List UInt8 → List UInt8 → Option (List UInt8)
  | [], t => some t
  | c :: format, t =>
    if isSpace c then matchFormat format (ltrim t)
    else
      match t with
      | b :: rest => if b = c then matchFormat format rest else none
      | [] => none

/-- The name in an association event, `%[^']` behind its text. -/
def associatingSsid (event : List UInt8) : Option (List UInt8) := do
  let rest ← matchFormat (chars "Trying to associate with SSID '") event
  let name := rest.takeWhile (· ≠ 39)
  if name = [] then none else some name

/-! ## `dispatch_event` -/

/-- What the outside answers while one event is handled: the supplicant, the status it
shows, what stood in the local variable `info`, and the address `rkwifi_check_ip` waits for. -/
structure EventEnv where
  env : Env
  connection : ConnInfo
  leftover : ConnInfo
  address : Option ConnInfo

/-- `wifi_state_send` (Rk_wifi.c:193-221) with connection information. -/
def wifiStateSendInfo (state : RunningState) (info : ConnInfo) (w : World) : World :=
  if state = .connectFailed ∨ (w.wifiConnectLock = true ∧ state = .connecting) then
    wifiStateSend state w
  else if w.callback then
    { w with reports := w.reports ++ [⟨state, some (info.ssid.take 128, info.bssid.take 19)⟩] }
  else w

/-- `disable_no_connected_ssid` (Rk_wifi.c:1903-1935). -/
def disableNoConnectedSsid (e : EventEnv) (w : World) : World :=
  (e.env.rows.filter (· ≠ e.connection.id)).foldl
    (fun w id => (machine e.env).exec (.disableNetwork id) w) w

/-- `rkwifi_check_ip` (Rk_wifi.c:1696-1733), once it has stopped waiting. -/
def rkwifiCheckIp (e : EventEnv) (w : World) : World :=
  match e.address with
  | some info => wifiStateSendInfo .dhcpOk info w
  | none => wifiStateSendInfo .connectFailed e.connection w

/-- `enable_network all` and `reconnect`. -/
def reconnectAll (env : Env) (w : World) : World :=
  (machine env).exec .reconnect ((machine env).exec .enableAll w)

/-- The result of a branch: the value returned and whether the sockets were closed. -/
structure Handled where
  ret : Int
  closed : Bool
  world : World

/-- The retry of a WEP attempt with open authentication. -/
def retryWep (e : EventEnv) (event : List UInt8) (w : World) : World :=
  if w.isWep && contains (chars "CTRL-EVENT-ASSOC-REJECT") event &&
      contains (chars "status_code=13") event then
    (machine e.env).exec (.selectNetwork w.wepId)
      ((machine e.env).exec (.setNetwork w.wepId .authAlg (chars "OPEN")) w)
  else w

/-- The report of a wrong key, behind `wifi_wrong_key = true`. -/
def reportWrongKey (e : EventEnv) (event : List UInt8) (w : World) : Option World :=
  (wrongKeyInfo w.gbkHead w.connectBssid event e.connection).map fun info =>
    wifiStateSendInfo .connectFailedWrongKey info w

/-- The connected branch up to the test of the lock. -/
def reportConnected (e : EventEnv) (w : World) : World :=
  disableNoConnectedSsid e (wifiStateSendInfo .connected e.connection w)

/-- The branches that neither report a wrong key nor wait for an address. -/
def handlePlain (e : EventEnv) (event : List UInt8) (w : World) : Handler → World
  | .disconnected =>
    let w := wifiStateSendInfo .disconnected (disconnectedInfo event e.connection) w
    if w.wifiConnectLock then w else reconnectAll e.env w
  | .scanResults => wifiStateSend .scanResults w
  | .associating =>
    let info := match associatingSsid event with
      | some ssid => { e.leftover with ssid := ssid }
      | none => e.leftover
    if w.wifiConnectLock then w else wifiStateSendInfo .connecting info w
  | _ => w

/-- `dispatch_event` (Rk_wifi.c:2768-2830). -/
def dispatchEvent (e : EventEnv) (event : List UInt8) (w : World) : Option Handled :=
  match handlerOf event with
  | .filtered => some ⟨0, false, w⟩
  | .terminating => some ⟨-1, true, w⟩
  | .wrongKey => do
    let w ← reportWrongKey e event { w with wifiWrongKey := true }
    some ⟨0, false, retryWep e event w⟩
  | .connected =>
    let w := reportConnected e w
    let w := if w.wifiConnectLock then w else rkwifiCheckIp e w
    some ⟨0, false, retryWep e event w⟩
  | handler => some ⟨0, false, retryWep e event (handlePlain e event w handler)⟩

end ConnectApp.Wifi
