import Chassisd.Bpdu.Bounds
import Chassisd.Bpdu.PortRoles
import Chassisd.Bpdu.Inert
import Chassisd.Bpdu.Handover
import Chassisd.Bpdu.Bystander
import Chassisd.Bpdu.RoundTrip
import Chassisd.Bpdu.Leak
import Chassisd.Bpdu.Dispatch
import Chassisd.Bpdu.Reelection
import Chassisd.Bpdu.Merge
import Chassisd.Bpdu.Adoption
import Chassisd.Bpdu.Supervision
import Chassisd.Config.Parse
import Chassisd.Network.Storm
import Chassisd.Election.Recovery
import Chassisd.Election.Joining
import Chassisd.Udp.Shutdown
import Chassisd.Udp.Results
import Chassisd.Tcp.Presence
import Chassisd.Tcp.Checksum
import Chassisd.Epoll.Deadline
import Chassisd.Spi.Argument
import Chassisd.Spi.Transfer
import Chassisd.Udp.Master
import Chassisd.Thermal.Streaks
import Chassisd.Network.Tiers
import Chassisd.Spi.Commands
import Chassisd.Spi.Vlan
import Chassisd.Tcp.Session
