import KubevirtMetrics.Bpf.Bits
import KubevirtMetrics.Bpf.Block
import KubevirtMetrics.Bpf.Histogram
import KubevirtMetrics.Bpf.Kprobe
import KubevirtMetrics.Bpf.Nfs
import KubevirtMetrics.Bpf.Tracer
import KubevirtMetrics.Cgroup.Buddyinfo
import KubevirtMetrics.Cgroup.CgroupPath
import KubevirtMetrics.Cgroup.Collector
import KubevirtMetrics.Cgroup.Excluded
import KubevirtMetrics.Cgroup.FreeMemory
import KubevirtMetrics.Cgroup.KernelThreads
import KubevirtMetrics.Cgroup.Memory
import KubevirtMetrics.Cgroup.Pagetypeinfo
import KubevirtMetrics.Cgroup.ProcFile
import KubevirtMetrics.Cgroup.Series
import KubevirtMetrics.Cgroup.Zoneinfo
import KubevirtMetrics.Cluster.Objects
import KubevirtMetrics.Cri.Client
import KubevirtMetrics.Cri.Polls
import KubevirtMetrics.Data.Base64
import KubevirtMetrics.Data.Binary64
import KubevirtMetrics.Data.Counting
import KubevirtMetrics.Data.Csv
import KubevirtMetrics.Data.Deadline
import KubevirtMetrics.Data.Exposition
import KubevirtMetrics.Data.FileTree
import KubevirtMetrics.Data.Flow
import KubevirtMetrics.Data.Json
import KubevirtMetrics.Data.Listing
import KubevirtMetrics.Data.Lists
import KubevirtMetrics.Data.Marshal
import KubevirtMetrics.Data.Nested
import KubevirtMetrics.Data.ParseFloat
import KubevirtMetrics.Data.Path
import KubevirtMetrics.Data.Pool
import KubevirtMetrics.Data.Regexp
import KubevirtMetrics.Data.Run
import KubevirtMetrics.Data.Slots
import KubevirtMetrics.Data.Spans
import KubevirtMetrics.Data.Table
import KubevirtMetrics.Data.Text
import KubevirtMetrics.Device.ClaimNames
import KubevirtMetrics.Device.DeviceNumbers
import KubevirtMetrics.Device.KubeletPaths
import KubevirtMetrics.Device.MountInfo
import KubevirtMetrics.Device.ProcMounts
import KubevirtMetrics.Device.Resolver
import KubevirtMetrics.Ebpf.Attribution
import KubevirtMetrics.Ebpf.Collector
import KubevirtMetrics.Ebpf.Histogram
import KubevirtMetrics.Ebpf.Increments
import KubevirtMetrics.Ebpf.Loader
import KubevirtMetrics.Ebpf.Samples
import KubevirtMetrics.Exporter.Config
import KubevirtMetrics.Exporter.ErrorCount
import KubevirtMetrics.Exporter.Fanout
import KubevirtMetrics.Exporter.Pollers
import KubevirtMetrics.Exporter.Shutdown
import KubevirtMetrics.Kvm.Attribution
import KubevirtMetrics.Kvm.Collector
import KubevirtMetrics.Prometheus.Metric
import KubevirtMetrics.Qga.Backing
import KubevirtMetrics.Qga.Claims
import KubevirtMetrics.Qga.Collect
import KubevirtMetrics.Qga.DiskMap
import KubevirtMetrics.Qga.Drives
import KubevirtMetrics.Qga.Errors
import KubevirtMetrics.Qga.Guest
import KubevirtMetrics.Qga.Intervals
import KubevirtMetrics.Qga.Passive
import KubevirtMetrics.Qga.Poll
import KubevirtMetrics.Qga.Rates
import KubevirtMetrics.Qga.Scrape
import KubevirtMetrics.Qga.Types
import KubevirtMetrics.Qga.Wire
import KubevirtMetrics.Qga.WmiCsv
import KubevirtMetrics.Qmp.Arming
import KubevirtMetrics.Qmp.Calls
import KubevirtMetrics.Qmp.Claims
import KubevirtMetrics.Qmp.Client
import KubevirtMetrics.Qmp.Collect
import KubevirtMetrics.Qmp.DomainXML
import KubevirtMetrics.Qmp.Poll
import KubevirtMetrics.Qmp.Queues
import KubevirtMetrics.Qmp.Scrape
import KubevirtMetrics.Qmp.Types
import KubevirtMetrics.Qmp.Wire
import KubevirtMetrics.Script.OpenMetrics
import KubevirtMetrics.Script.RoundTrip
import KubevirtMetrics.Tls.Access
import KubevirtMetrics.Tls.Policy
import KubevirtMetrics.Virt.Claims
import KubevirtMetrics.Virt.Connect
import KubevirtMetrics.Virt.Domain
import KubevirtMetrics.Virt.Pods
import KubevirtMetrics.Virt.Selectors
import KubevirtMetrics.Virt.Shutdown
