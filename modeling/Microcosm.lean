import Microcosm.GoMap
import Microcosm.JobFsm.Basic
import Microcosm.JobFsm.Step
import Microcosm.JobFsm.Invariant
import Microcosm.JobFsm.Records
import Microcosm.JobFsm.Passes
import Microcosm.JobFsm.Transitions
import Microcosm.JobFsm.Dispatch
import Microcosm.JobFsm.Query
import Microcosm.Orm.Epoch
import Microcosm.CvsTask.Basic
import Microcosm.CvsTask.Pipeline
import Microcosm.CvsTask.Progress
import Microcosm.CvsTask.Limiter
import Microcosm.CvsTask.Tick
import Microcosm.Meta.MetaClient
import Microcosm.Meta.MetaMock
import Microcosm.Meta.KvClient
import Microcosm.Executor.Runtime
import Microcosm.Lib.Topics
import Microcosm.Fake.DummyWorker
