import ConnectApp.Wifi.Escape
import ConnectApp.Wifi.EscapeBounds
import ConnectApp.Encode.Utf8
import ConnectApp.Wifi.Scan
import ConnectApp.Lib.Json
import ConnectApp.Wifi.ScanColumn
import ConnectApp.Wifi.ScanJson
import ConnectApp.Lib.TextTools
import ConnectApp.Utility.Exec
import ConnectApp.Wifi.SavedInfo
import ConnectApp.Wifi.SavedColumn
import ConnectApp.Lib.Script
import ConnectApp.Lib.Transition
import ConnectApp.Wifi.Connect
import ConnectApp.Wifi.ConnectScript
import ConnectApp.Wifi.ConnectLock
import ConnectApp.Wifi.ConnectBssid
import ConnectApp.Wifi.ConnectFailure
import ConnectApp.Wifi.ConnectRollback
import ConnectApp.Wifi.ConnectFlags
import ConnectApp.Wifi.Event
import ConnectApp.Wifi.MonitorLoop
import ConnectApp.Wifi.Enable
import ConnectApp.Wifi.FinalReport
import ConnectApp.Lib.Shell
import ConnectApp.Wifi.ShellCommand
import ConnectApp.Wifi.ScanNames
import ConnectApp.Bluez.Device
import ConnectApp.Bluez.Bus
import ConnectApp.Bluez.DeviceList
import ConnectApp.Bluez.ConnectedState
import ConnectApp.Bluez.GattClient
import ConnectApp.Lib.IdleQueue
import ConnectApp.Bluez.Request
import ConnectApp.Bluez.Handler
import ConnectApp.Bluez.RequestQueue
import ConnectApp.Bluez.Audio
import ConnectApp.Lib.Latest
import ConnectApp.Bluez.MediaIndependence
import ConnectApp.Bluez.Outline
import ConnectApp.Bluez.LateReply
import ConnectApp.Lib.Mutex
import ConnectApp.Bluez.DeviceMutex
import ConnectApp.Bluez.Advertising
import ConnectApp.Bluez.Notify
import ConnectApp.Bluez.Spp
import ConnectApp.Bluez.SppRoles
import ConnectApp.Bluez.Startup
import ConnectApp.Lib.Ledger
import ConnectApp.Bluez.GattServer
import ConnectApp.Bluez.GattBalance
import ConnectApp.Lib.Memory
import ConnectApp.Utility.Capture
import ConnectApp.Wifi.SocketBuffer
import ConnectApp.Wifi.EventPrefix
import ConnectApp.Wifi.EventInfo
import ConnectApp.Wifi.EscapeCalls
import ConnectApp.Wifi.OriBuffer
import ConnectApp.Wifi.Credentials
import ConnectApp.Wifi.SavedBuffer
import ConnectApp.Wifi.ScanBuffer
import ConnectApp.Wifi.Status
import ConnectApp.Encode.GbkTables
import ConnectApp.Encode.Grammar
import ConnectApp.Encode.Utf8ToGbk
import ConnectApp.Bluez.AdvContent
import ConnectApp.Bluez.DeviceBuffers
import ConnectApp.Bluez.GattMethods
import ConnectApp.Bluez.PostedData
import ConnectApp.Encode.GbkToUtf8
import ConnectApp.Wifi.Unescape
import ConnectApp.Bluez.GattPaths
import ConnectApp.Bluez.SppDescriptors
import ConnectApp.Lib.Checked
import ConnectApp.Bluez.ServiceInfo
import ConnectApp.Bluez.ServiceTree
import ConnectApp.Lib.Buffer
import ConnectApp.Bluez.TrackInfo
import ConnectApp.Bluez.TrackOrder
import ConnectApp.Lib.Follow
import ConnectApp.Lib.DBus
import ConnectApp.Lib.ObjectManager
import ConnectApp.Gdbus.Client
import ConnectApp.Gdbus.Mirror
import ConnectApp.App.BleWifi
import ConnectApp.Bluez.ProxyEvents
