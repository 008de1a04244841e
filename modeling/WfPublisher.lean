import WfPublisher.Lib.SlotRing
import WfPublisher.CJson.Parse
import WfPublisher.Clock
import WfPublisher.Rainfall
import WfPublisher.Rainfall.Totals
import WfPublisher.Rainfall.RollingHour
import WfPublisher.Rainfall.Restart
import WfPublisher.Rainfall.Nesting
import WfPublisher.Util
import WfPublisher.Weather
import WfPublisher.Messages
import WfPublisher.Observations
import WfPublisher.Dispatch
import WfPublisher.Hostile
import WfPublisher.Receive
import WfPublisher.Receive.Gating
import WfPublisher.Receive.Extremes
import WfPublisher.Receive.DailyHighLow
import WfPublisher.Receive.Derived
import WfPublisher.Receive.Buffers
import WfPublisher.Receive.Gust
import WfPublisher.Convert
import WfPublisher.Publish.Batch
import WfPublisher.Lib.Folded
import WfPublisher.Publish.Averages
import WfPublisher.Publish.Conservation
import WfPublisher.Lib.Transition
import WfPublisher.Publish.InFlight
import WfPublisher.Lib.Memory
import WfPublisher.Publish.Copies
import WfPublisher.Publish.Isolation
import WfPublisher.Publish.Wakeup
import WfPublisher.Publish.Snapshot
import WfPublisher.Publish.Delivery
import WfPublisher.Publish.Requests
import WfPublisher.Publish.Independence
import WfPublisher.Rainfall.RollingDay
import WfPublisher.Publish.PwsReport
import WfPublisher.Lib.Handles
import WfPublisher.Publish.Release
import WfPublisher.Publish.SendUrl
import WfPublisher.Lib.Printf
import WfPublisher.Publish.Agreement
import WfPublisher.Lib.FixedWidth
import WfPublisher.Publish.Packet
import WfPublisher.Lib.Assignments
import WfPublisher.Publish.Statement
import WfPublisher.Publish.SendBuffers
import WfPublisher.Lib.Compass
import WfPublisher.Publish.Direction
import WfPublisher.Config
import WfPublisher.Publish.Strings
import WfPublisher.Publish.Callable
import WfPublisher.Comfort
import WfPublisher.Lib.DoublyLinked
import WfPublisher.Trend.Queue
import WfPublisher.Receive.Registry
import WfPublisher.Trend.Horizon
import WfPublisher.Receive.WindDirection
import WfPublisher.Rainfall.File
import WfPublisher.Lib.Decimal
import WfPublisher.CJson.Accepted
import WfPublisher.CJson.PrintBuffer
import WfPublisher.CJson.PrintSafe
import WfPublisher.CJson.StringBuffer
import WfPublisher.Rainfall.Text
import WfPublisher.Receive.Truncation
import WfPublisher.CJson.Lists
import WfPublisher.CJson.Lookups
import WfPublisher.Receive.Heap
