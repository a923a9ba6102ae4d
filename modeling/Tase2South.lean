import Tase2South.Base.Run
import Tase2South.Base.Ledger
import Tase2South.Base.Numeral
import Tase2South.Base.Pairing
import Tase2South.Json.Traverse
import Tase2South.Config.Types
import Tase2South.Config.Osi
import Tase2South.Config.TypeGate
import Tase2South.Config.Exchange
import Tase2South.Config.Coverage
import Tase2South.Config.Index
import Tase2South.Config.Foreign
import Tase2South.Connection.Flags
import Tase2South.Connection.Handles
import Tase2South.Connection.TransferSets
import Tase2South.Connection.Addressing
import Tase2South.Client.DataObject
import Tase2South.Client.Monitoring
import Tase2South.Client.Commands
import Tase2South.Plugin.Operation
import Tase2South.Plugin.Lifecycle
import Tase2South.Plugin.Parameters
import Tase2South.Plugin.Running
import Tase2South.Failover.Exclusion
import Tase2South.Failover.Polling
import Tase2South.Failover.Requests
import Tase2South.Failover.Recovery
import Tase2South.Connection.Calls
import Tase2South.Connection.ClientHandle
import Tase2South.Connection.Tls
import Tase2South.Connection.OptionalOsi
import Tase2South.Base.BitField
import Tase2South.Client.Quality
import Tase2South.Config.Selector
import Tase2South.Connection.Groups
import Tase2South.Config.LastDefinition
import Tase2South.Base.Lifetime
import Tase2South.Client.Ownership
import Tase2South.Config.EntryFormat
import Tase2South.Connection.DataSetNames
import Tase2South.Connection.Preparation
import Tase2South.Connection.Certificates
import Tase2South.Config.OsiSection
import Tase2South.Failover.Scan
import Tase2South.Connection.PollingRate
import Tase2South.Base.Automaton
import Tase2South.Connection.Protocol
import Tase2South.Failover.Teardown
import Tase2South.Failover.Recoverable
import Tase2South.Client.Format
import Tase2South.Client.Gateway
import Tase2South.Failover.Stability
import Tase2South.Failover.PeerAddresses
import Tase2South.Config.Document
import Tase2South.Plugin.Threads
import Tase2South.Plugin.Served
