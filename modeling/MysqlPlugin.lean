import MysqlPlugin.Lib.Prog
import MysqlPlugin.Lib.Machine
import MysqlPlugin.Base
import MysqlPlugin.Mysql
import MysqlPlugin.Natives
import MysqlPlugin.Thread
import MysqlPlugin.Effect
import MysqlPlugin.Statement
import MysqlPlugin.Slot
import MysqlPlugin.Lib.Mailbox
import MysqlPlugin.Lib.Pipeline
import MysqlPlugin.Iteration
import MysqlPlugin.Handshake
import MysqlPlugin.Life
import MysqlPlugin.Conservation
import MysqlPlugin.Closing
import MysqlPlugin.Reentrancy
import MysqlPlugin.Handover
import MysqlPlugin.Clients
import MysqlPlugin.Exclusive
import MysqlPlugin.Lib.Scan
import MysqlPlugin.Scans
import MysqlPlugin.BadHandle
import MysqlPlugin.Coherence
import MysqlPlugin.Deeds
import MysqlPlugin.ResultSets
import MysqlPlugin.Accounts
import MysqlPlugin.Split
import MysqlPlugin.Delivery
import MysqlPlugin.ExtraVars
import MysqlPlugin.Sync
import MysqlPlugin.OneMessage
import MysqlPlugin.Buffers
import MysqlPlugin.Ownership
import MysqlPlugin.Calls
import MysqlPlugin.Lib.Cursor
import MysqlPlugin.Fetching
import MysqlPlugin.RowOrder
import MysqlPlugin.Lib.Stores
import MysqlPlugin.ScriptStrings
import MysqlPlugin.Messages
import MysqlPlugin.Lookup
import MysqlPlugin.Lib.CString
import MysqlPlugin.Outcomes
import MysqlPlugin.RowBuffer
import MysqlPlugin.Lib.Registry
import MysqlPlugin.Dispatch
import MysqlPlugin.Guards
import MysqlPlugin.Destinations
import MysqlPlugin.Lib.Schedule
import MysqlPlugin.Passes
import MysqlPlugin.Response
import MysqlPlugin.Lib.Server
import MysqlPlugin.Service
import MysqlPlugin.Turnaround
import MysqlPlugin.Faults
import MysqlPlugin.Rules
import MysqlPlugin.Lib.Relate
import MysqlPlugin.Views
import MysqlPlugin.Locality
import MysqlPlugin.Isolation
import MysqlPlugin.Readback
import MysqlPlugin.Roundtrip
import MysqlPlugin.Direct
import MysqlPlugin.Fairness
import MysqlPlugin.Logging
