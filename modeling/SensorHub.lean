import SensorHub.Header
import SensorHub.Event
import SensorHub.Driver
import SensorHub.Format
import SensorHub.Control
import SensorHub.Decode
import SensorHub.Dispatch
import SensorHub.System
import SensorHub.Threads
import SensorHub.Enable
import SensorHub.Frame
import SensorHub.Sync
import SensorHub.Calibration
import SensorHub.Discovery
import SensorHub.Labels
import SensorHub.Lifecycle
import SensorHub.Protocol
import SensorHub.Firmware
