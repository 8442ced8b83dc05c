import Collectd.Basic
import Collectd.Signal
import Collectd.Loop.Step
import Collectd.Loop.Cadence
import Collectd.Loop.Stop
import Collectd.Keepalive
import Collectd.Notify
import Collectd.Files
import Collectd.Main
import Collectd.Lifecycle
import Collectd.Hostname
