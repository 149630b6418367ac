import MysqlSync.Checkpoint.Merge
import MysqlSync.Checkpoint.Text
import MysqlSync.Checkpoint.GtidSet
import MysqlSync.Applier.ExactlyOnce
import MysqlSync.Applier.Batch
import MysqlSync.Applier.Limits
import MysqlSync.Applier.Abandon
import MysqlSync.Applier.Destinations
import MysqlSync.Applier.Filtering
import MysqlSync.Applier.Lifetimes
import MysqlSync.Applier.Positions
import MysqlSync.Applier.Rewritten
import MysqlSync.Extract.Grammar
import MysqlSync.Rows.Integers
import MysqlSync.Rows.Replace
import MysqlSync.Rows.Transport
import MysqlSync.Transfer.Delivery
import MysqlSync.Transfer.FetchCount
import MysqlSync.Transfer.Registration
import MysqlSync.Transfer.Progress
import MysqlSync.Python.Ahead
import MysqlSync.Python.Atomicity
import MysqlSync.System.Cuts
import MysqlSync.System.Pipeline
import MysqlSync.System.EndToEnd
import MysqlSync.System.Recovery
import MysqlSync.Python.Gtid
import MysqlSync.Python.GtidSet
import MysqlSync.Python.GtidText
import MysqlSync.Python.GtidWire
import MysqlSync.Python.Dump
import MysqlSync.Python.Start
import MysqlSync.Applier.Touched
