import NodeBridge.Reasoning.Runs
import NodeBridge.Reasoning.SequentialObject
import NodeBridge.Reasoning.Simulation
import NodeBridge.Reasoning.FixedBuffer
import NodeBridge.Reasoning.Lines
import NodeBridge.Reasoning.BlockFeed
import NodeBridge.Reasoning.CString
import NodeBridge.Reasoning.HeapBlock
import NodeBridge.Reasoning.Paths
import NodeBridge.Reasoning.Json
import NodeBridge.Reasoning.JsonEdit
import NodeBridge.Reasoning.JsonAlike
import NodeBridge.Reasoning.JsValue
import NodeBridge.Reasoning.Outcome
import NodeBridge.Reasoning.Shell
import NodeBridge.Reasoning.ShellQuoting
import NodeBridge.Usb.KeyboardLayout
import NodeBridge.Usb.Hid
import NodeBridge.Usb.HidLines
import NodeBridge.Usb.HidDecode
import NodeBridge.Usb.HidBounds
import NodeBridge.Usb.Typing
import NodeBridge.Tcp.Forwarder
import NodeBridge.Tcp.FlushSchedule
import NodeBridge.Tcp.FlushLoad
import NodeBridge.Tcp.FlushPeriod
import NodeBridge.Tcp.Server
import NodeBridge.Tcp.ClientTable
import NodeBridge.Tcp.FailedThreads
import NodeBridge.Tcp.SlotAccounts
import NodeBridge.Tcp.Broadcast
import NodeBridge.Tcp.BrokenPeers
import NodeBridge.Tcp.PartialSends
import NodeBridge.Tcp.ClientMutex
import NodeBridge.Tcp.MutexProgress
import NodeBridge.Tcp.Client
import NodeBridge.Tcp.Reconnect
import NodeBridge.Utils.Files
import NodeBridge.Utils.ReadFile
import NodeBridge.Utils.Strings
import NodeBridge.Utils.Config
import NodeBridge.Utils.ConfigSafety
import NodeBridge.Utils.ConfigNames
import NodeBridge.Utils.DeviceSettings
import NodeBridge.Usb.Com
import NodeBridge.Utils.ShellSafety
import NodeBridge.Utils.CommandLengths
import NodeBridge.Utils.NetworkProfiles
import NodeBridge.Utils.SecureConfig
import NodeBridge.Web.Mime
import NodeBridge.Web.SetConfig
import NodeBridge.Web.ConfigRequests
import NodeBridge.Web.StaticFiles
import NodeBridge.Web.Script
import NodeBridge.Web.FormConfig
import NodeBridge.Web.RoundTrip
import NodeBridge.Web.Reload
import NodeBridge.EndToEnd.ServerMode
import NodeBridge.EndToEnd.ClientMode
import NodeBridge.EndToEnd.Host
import NodeBridge.EndToEnd.Program
import NodeBridge.EndToEnd.Delivery
import NodeBridge.EndToEnd.Threads
import NodeBridge.EndToEnd.ThreadRuns
import NodeBridge.EndToEnd.ThreadProgress
import NodeBridge.EndToEnd.Device
import NodeBridge.EndToEnd.Settings
import NodeBridge.EndToEnd.Page
