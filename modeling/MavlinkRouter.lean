import MavlinkRouter.Build.Checksum
import MavlinkRouter.Build.EndToEnd
import MavlinkRouter.Build.Script
import MavlinkRouter.Build.WireOrder
import MavlinkRouter.Config.Bodies
import MavlinkRouter.Config.FilterMeaning
import MavlinkRouter.Config.Merge
import MavlinkRouter.Config.OptionOrder
import MavlinkRouter.Config.Toml
import MavlinkRouter.Endpoint.Accounting
import MavlinkRouter.Endpoint.Backoff
import MavlinkRouter.Endpoint.Ingress
import MavlinkRouter.Endpoint.LossEstimate
import MavlinkRouter.Endpoint.Wakeup
import MavlinkRouter.Mavlink.Detection
import MavlinkRouter.Mavlink.RoundTrip
import MavlinkRouter.Router.Dedup
import MavlinkRouter.Router.Isolation
import MavlinkRouter.Router.LearnEntries
import MavlinkRouter.Router.Learned
import MavlinkRouter.Router.Redundancy
import MavlinkRouter.Router.Reply
import MavlinkRouter.Router.Ties
import MavlinkRouter.Router.ZeroTrim
import MavlinkRouter.Stats.FinalLines
import MavlinkRouter.System.Chain
import MavlinkRouter.System.Duplex
import MavlinkRouter.System.FinalLine
import MavlinkRouter.System.Lifecycle
import MavlinkRouter.System.Ordering
import MavlinkRouter.System.Policy
import MavlinkRouter.System.Refinement
import MavlinkRouter.System.Shutdown
import MavlinkRouter.System.Transparency
import MavlinkRouter.Udp.Family
import MavlinkRouter.Udp.Isolation
import MavlinkRouter.Udp.Sources
