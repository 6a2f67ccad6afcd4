import BatteryManager.Notify.Delivery
import BatteryManager.Notify.Level
import BatteryManager.Notify.Statistics
import BatteryManager.Notify.Uevents
import BatteryManager.CapacityLevel.Theorems
import BatteryManager.ChargeTime.Arithmetic
import BatteryManager.ChargeTime.Theorems
import BatteryManager.Startup.Race.Theorems
import BatteryManager.Service.Callback
import BatteryManager.Service.Hibernate
import BatteryManager.Service.Mock
import BatteryManager.Service.PowerOff
import BatteryManager.Service.Reports
import BatteryManager.Service.Shutdown
import BatteryManager.Service.Snapshot
import BatteryManager.Service.Subscriber
import BatteryManager.Client
import BatteryManager.Lifecycle.Theorems
import BatteryManager.Locking
import BatteryManager.ConfigParser.Lookup
import BatteryManager.ConfigParser.Notifications
import BatteryManager.ConfigParser.RoundTrip
import BatteryManager.Charger.LightPolicy
import BatteryManager.Charger.Scenes
import BatteryManager.Charger.Readings
import BatteryManager.Charger.Loop.Deadlines
import BatteryManager.Charger.Loop.ChargeStates
import BatteryManager.Charger.Loop.Screen
import BatteryManager.Charger.Loop.Boot
import BatteryManager.Charger.Loop.PowerOff
import BatteryManager.Charger.Loop.Fresh
import BatteryManager.Charger.Loop.Lamp
import BatteryManager.Charger.PowerKey
import BatteryManager.Charger.Uevent.Theorems
import BatteryManager.Charger.Provider.Safety
import BatteryManager.Charger.Nodes.Mock.Theorems
import BatteryManager.Charger.Nodes.Theorems
import BatteryManager.Charger.DrmDriver.Theorems
import BatteryManager.Charger.AnimationConfig.Theorems
import BatteryManager.Charger.Widgets.RoundTrip
import BatteryManager.Charger.Widgets.Theorems
import BatteryManager.Charger.GraphicEngine
import BatteryManager.Notification.Buttons
import BatteryManager.Notification.Live
import BatteryManager.Notification.Locale
import BatteryManager.Protected.Theorems
import BatteryManager.Dump.Theorems
import BatteryManager.SystemBattery.Theorems
import BatteryManager.Notification.Panel
import BatteryManager.Notification.Resources
import BatteryManager.FrontEnds.Cli
