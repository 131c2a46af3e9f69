import TplinkDeco.Lib.Prog
import TplinkDeco.Lib.Segments
import TplinkDeco.Lib.Bytes
import TplinkDeco.Lib.Dict
import TplinkDeco.Exceptions
import TplinkDeco.TmpProtocol.Frame
import TplinkDeco.TmpProtocol.FrameSpecs
import TplinkDeco.TmpProtocol.FrameCodec
import TplinkDeco.TmpProtocol.Message
import TplinkDeco.TmpProtocol.Session
import TplinkDeco.TmpProtocol.Chunks
import TplinkDeco.TmpProtocol.MessageSpecs
import TplinkDeco.TmpProtocol.SessionSpecs
import TplinkDeco.TmpProtocol.ExchangeSafety
import TplinkDeco.TmpProtocol.Reassembly
import TplinkDeco.TmpProtocol.Timeouts
import TplinkDeco.TmpProtocol.Isolation
import TplinkDeco.Lib.Threads
import TplinkDeco.Rest.IdempotencyStore
import TplinkDeco.Rest.IdempotencySafety
import TplinkDeco.Lib.Json
import TplinkDeco.Lib.Text
import TplinkDeco.TmpClient.Client
import TplinkDeco.TmpClient.BooleanNoop
import TplinkDeco.TmpClient.ClientSpecs
import TplinkDeco.TmpClient.NoopSafety
import TplinkDeco.Lib.Sha256
import TplinkDeco.Service.Devices
import TplinkDeco.Service.HttpNoop
import TplinkDeco.Service.HttpNoopSpecs
import TplinkDeco.Service.DecoService
import TplinkDeco.Service.Calls
import TplinkDeco.Service.SectionSpecs
import TplinkDeco.Service.Turns
import TplinkDeco.Service.Latch
import TplinkDeco.Service.PlanBinding
import TplinkDeco.Service.PlanUse
import TplinkDeco.Lib.Census
import TplinkDeco.Rest.RequestCapacity
import TplinkDeco.Rest.CapacityAccounting
import TplinkDeco.TmpClient.Streams
import TplinkDeco.Lib.Script
import TplinkDeco.TmpClient.Batches
import TplinkDeco.TmpClient.Probes
import TplinkDeco.TmpClient.BatchSafety
import TplinkDeco.Service.CacheInvariant
import TplinkDeco.Service.Eligibility
import TplinkDeco.Http.EndpointCatalog
import TplinkDeco.Lib.Dialogue
import TplinkDeco.Service.CapabilityRouting
import TplinkDeco.Service.Routing
import TplinkDeco.Surface.Requests
import TplinkDeco.Surface.SingleSource
import TplinkDeco.Surface.Endpoints
import TplinkDeco.Surface.Overviews
import TplinkDeco.Lib.JsonText
import TplinkDeco.Surface.SemanticReads
import TplinkDeco.Surface.Mutations
import TplinkDeco.Surface.TmpReads
import TplinkDeco.Surface.Methods
import TplinkDeco.Surface.Permitted
import TplinkDeco.Surface.MethodReads
import TplinkDeco.Surface.WriteGate
import TplinkDeco.Surface.ReadGate
import TplinkDeco.Service.NoopTrace
import TplinkDeco.TmpProtocol.PullDiscipline
import TplinkDeco.TmpProtocol.Assembly
import TplinkDeco.Surface.Reservations
import TplinkDeco.Surface.Confirmation
import TplinkDeco.Models.Accessors
import TplinkDeco.Surface.ClientMerge
import TplinkDeco.Lib.Ordered
import TplinkDeco.Service.FirmwareNormalization
import TplinkDeco.Models.CompatibilityManifest
import TplinkDeco.Lib.Base64
import TplinkDeco.Models.WlanConfig
import TplinkDeco.Service.WlanNormalization
import TplinkDeco.Auth.Protocol
import TplinkDeco.Models.Schemas
import TplinkDeco.Auth.Redaction
import TplinkDeco.Service.WlanPrivacy
import TplinkDeco.Service.FirmwareOrder
import TplinkDeco.Models.Fuzzy
import TplinkDeco.Models.CompatibilityDelta
import TplinkDeco.Auth.NumericLiterals
import TplinkDeco.Lib.Delimited
import TplinkDeco.TmpClient.MutationPlanner
import TplinkDeco.TmpClient.ResultKeys
import TplinkDeco.Http.SecureChannel
import TplinkDeco.TmpClient.SshCleanup
import TplinkDeco.Rest.BoundarySafety
import TplinkDeco.TmpClient.OpcodeCatalog
import TplinkDeco.TmpClient.VerificationQueue
import TplinkDeco.TmpClient.CatalogSoundness
import TplinkDeco.Surface.StatePreflights
