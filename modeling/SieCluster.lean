import SieCluster.Gateway.SseClosing
import SieCluster.Gateway.StreamLoss
import SieCluster.Gateway.StreamTap
import SieCluster.Gateway.KeyedWorkerPool
import SieCluster.Gateway.RepublishRollback
import SieCluster.Gateway.RepublishSafety
import SieCluster.Sidecar.SubjectParity
import SieCluster.Gateway.ResultLedger
import SieCluster.Gateway.ResultFallback
import SieCluster.Gateway.WorkerPick
import SieCluster.Sidecar.Settlement
import SieCluster.Server.StreamAttempt
import SieCluster.Server.WorkerParity
import SieCluster.Server.InputIsolation
import SieCluster.Server.KvAdmission
import SieCluster.Sidecar.MuxInterleavings
import SieCluster.Config.EpochContent
import SieCluster.Gateway.LaneAdmission
import SieCluster.Sidecar.BatchSelection
import SieCluster.Sidecar.ControllerParity
import SieCluster.Sidecar.LimitPropagation
import SieCluster.Sidecar.PoolInvariants
import SieCluster.Config.IdempotentWrites
import SieCluster.Config.NameResolution
import SieCluster.Gateway.FallbackRate
import SieCluster.Sidecar.FanoutAnswers
import SieCluster.Sidecar.FilterOverlap
import SieCluster.Sidecar.BatchCancel
