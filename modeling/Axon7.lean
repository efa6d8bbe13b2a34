import Axon7.IpaNat.Run
import Axon7.IpaNat.Hitless
import Axon7.GpsUtils.Armed
import Axon7.GpsUtils.Removed
import Axon7.LanToLan.Membership
import Axon7.GpsUtils.PriorityQueue
import Axon7.GpsUtils.Stray
import Axon7.GpsUtils.MsgQ
import Axon7.Amplifier.InCall
import Axon7.Amplifier.NoLostUpdate
import Axon7.OsObserver.Inverse
import Axon7.OsObserver.Framework
import Axon7.OsObserver.Action
import Axon7.Gnss.Mode
import Axon7.Agps.Machine
import Axon7.Agps.Manager
import Axon7.Agps.Event
import Axon7.Agps.Agree
import Axon7.Agps.Status
import Axon7.Agps.Restart
import Axon7.Agps.Handle
import Axon7.Agps.Home
import Axon7.Agps.Released
import Axon7.RmDepend.Released
import Axon7.Conntrack.NatApp
import Axon7.Conntrack.WanAlone
import Axon7.Conntrack.PublicAddr
import Axon7.Offload.Manager
import Axon7.Offload.Cancel
import Axon7.Offload.Cache
import Axon7.ModemConfig.Kept
import Axon7.LocationApi.Bijection
import Axon7.LocationApi.Attributed
import Axon7.LocationApi.Retry
import Axon7.LocationApi.RemoveAll
import Axon7.LocationApi.Instances
import Axon7.LocApi.Adapters
import Axon7.Gnss.NiAnswered
import Axon7.Tether.Balanced
import Axon7.Tether.Follows
import Axon7.Clients.PowerSave
import Axon7.Clients.Lan
import Axon7.Wan.Handover
import Axon7.Conntrack.Asleep
import Axon7.Conntrack.StaClients
import Axon7.Config.PrivateSubnet
import Axon7.Config.NatIfaces
import Axon7.Config.LocCfg
import Axon7.Neighbor.Cache
import Axon7.IpaNat.Atomic
import Axon7.IpaNat.DeadHandle
import Axon7.Netlink.Batch
import Axon7.Wan.NatAddr
import Axon7.Wan.StaRoutes
import Axon7.Wan.ModemRun
import Axon7.IpaNat.Checksum
import Axon7.IpaNat.Offsets
import Axon7.IpaNat.TblCache
import Axon7.Offload.Replay
import Axon7.Conntrack.Flush
import Axon7.Conntrack.NoTable
import Axon7.Conntrack.FullNatApp
import Axon7.Conntrack.Timestamps
import Axon7.Status.History
import Axon7.Status.DataItem
import Axon7.Clients.DelIpv6
import Axon7.Tether.UplinkRule
import Axon7.Netlink.Route
import Axon7.Clients.HeaderNames
import Axon7.Config.CfgFaithful
import Axon7.Config.FwFaithful
import Axon7.Config.TrimSpace
import Axon7.Wan.PolicyMet
import Axon7.Wan.StaFirewallRun
import Axon7.Wan.Overrun
import Axon7.Clients.Switch
import Axon7.Clients.FailedSetup
import Axon7.ModemConfig.PerItem
import Axon7.Gnss.SvMarks
import Axon7.Status.Malformed
import Axon7.Hal.Cidr
import Axon7.OsObserver.Notify
import Axon7.Nmea.UsedInFix
import Axon7.Nmea.Checksum
import Axon7.Dispatch.SelfRemoval
import Axon7.Dispatch.CmdQueueOrder
import Axon7.Recovery.Search
import Axon7.Tether.SoftwareRouting
