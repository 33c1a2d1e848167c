import GpsdJson.Basic
import GpsdJson.Json.Token
import GpsdJson.Json.Record
import GpsdJson.Json.Number
import GpsdJson.Json.Tree
import GpsdJson.Json.Walk
import GpsdJson.Receive
import GpsdJson.Unit.State
import GpsdJson.Unit.Process
import GpsdJson.Unit.Run
import GpsdJson.Unit.Feed
import GpsdJson.Unit.Fix
import GpsdJson.Unit.Auto
import GpsdJson.Unit.Path
import GpsdJson.Unit.Samples
import GpsdJson.Lifecycle
import GpsdJson.UnitList
import GpsdJson.Sockets
import GpsdJson.Secondary
import GpsdJson.Stats
import GpsdJson.Watchdog
import GpsdJson.LogData
