import TickTock.Page.Layout
import TickTock.Page.PageInfo
import TickTock.Page.PageManager
import TickTock.Page.Store
import TickTock.Page.Counters
import TickTock.Page.Allocation
import TickTock.Page.Packing
import TickTock.Page.Width
import TickTock.Page.Recovery
import TickTock.Page.RoundTrip
import TickTock.Rollup.Manager
import TickTock.Rollup.Steps
import TickTock.Rollup.Bucketing
import TickTock.Rollup.Interleaving
import TickTock.Rollup.OpenBucket
import TickTock.Config.Properties
import TickTock.Config.Reload
import TickTock.Config.Dump
import TickTock.Config.DumpText
import TickTock.Config.Paths
