import Sofaload.Objects.Config
import Sofaload.Objects.Client
import Sofaload.Objects.Worker
import Sofaload.Execution.Context
import Sofaload.Execution.Client
import Sofaload.Execution.Worker
import Sofaload.Execution.System
import Sofaload.Execution.Theorems.Basic
import Sofaload.Execution.Theorems.Quiet
import Sofaload.Execution.Theorems.Phase
import Sofaload.Execution.Theorems.Streams
import Sofaload.Execution.Theorems.CountInv
import Sofaload.Execution.Theorems.Counting
import Sofaload.Execution.Theorems.Accounting
import Sofaload.Execution.Theorems.Tokens
import Sofaload.Execution.Theorems.Qps
import Sofaload.Execution.Theorems.Status
import Sofaload.Execution.Theorems.Shares
import Sofaload.Report.Stats
import Sofaload.Report.Theorems.TimeStat
import Sofaload.Report.Theorems.Latency
import Sofaload.Execution.Theorems.Failure
import Sofaload.Execution.Theorems.Advances
import Sofaload.Execution.Theorems.Addresses
import Sofaload.Execution.Theorems.Ledger
import Sofaload.Execution.Theorems.Threads
import Sofaload.Execution.Theorems.Clock
import Sofaload.Execution.Theorems.Atomic
import Sofaload.Report.Samples
import Sofaload.Report.Theorems.Samples
import Sofaload.Request.Header
import Sofaload.Request.Build
import Sofaload.Request.Theorems.Header
import Sofaload.Request.Theorems.Text
import Sofaload.Execution.Options
import Sofaload.Execution.Theorems.Options
