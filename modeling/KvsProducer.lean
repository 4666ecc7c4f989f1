import KvsProducer.Lib.TransitionSystem
import KvsProducer.StreamingEndpoint
import KvsProducer.CurlApi.Silence
import KvsProducer.CurlApi.EndpointCache
import KvsProducer.CurlApi.ClientShutdown
import KvsProducer.CurlApi.RejectedCall
import KvsProducer.CurlSession.Step
import KvsProducer.CurlSession.Termination
import KvsProducer.CurlSession.WakeUp
import KvsProducer.ContinuousRetry.Call
import KvsProducer.ContinuousRetry.Reset
import KvsProducer.ContinuousRetry.Coherence
import KvsProducer.ContinuousRetry.ResetBookkeeping
import KvsProducer.CurlApi.EndpointHandler
import KvsProducer.ContinuousRetry.Deadlock
import KvsProducer.Common.RequestInfo
import KvsProducer.Common.RequestHeaders
import KvsProducer.Common.CanonicalHeaders
import KvsProducer.Common.UriCodec
import KvsProducer.Common.Auth
import KvsProducer.Common.AwsV4Signer
import KvsProducer.Common.SignatureRefinement
import KvsProducer.Common.QueryParams
import KvsProducer.Common.ResponseData
import KvsProducer.JsmnTokens
import KvsProducer.Common.ApiRequest
import KvsProducer.DescribeStream
import KvsProducer.TokenAccess
import KvsProducer.Common.CredentialsObject
import KvsProducer.Common.Timestamp
import KvsProducer.Common.CredentialProviders
import KvsProducer.Common.FailedRefresh
import KvsProducer.Common.CredentialFreshness
import KvsProducer.CurlApi.EmulatedCalls
import KvsProducer.CurlApi.UploadRegistry
import KvsProducer.CallbacksProvider.Objects
import KvsProducer.CallbacksProvider.Chains
import KvsProducer.Lib.Dispatch
import KvsProducer.CallbacksProvider.Aggregates
import KvsProducer.CallbacksProvider.Teardown
import KvsProducer.CallbacksProvider.Construction
import KvsProducer.Fmsp.Framing
import KvsProducer.Fmsp.Streaming
import KvsProducer.Fmsp.Step
import KvsProducer.Fmsp.WakeUp
import KvsProducer.Fmsp.CurrentConfig
import KvsProducer.Common.CodecSizing
import KvsProducer.Lib.TwoRuns
import KvsProducer.Common.HeaderCase
import KvsProducer.Common.UrlSplitting
import KvsProducer.Common.QueryBuffer
import KvsProducer.Common.QueryJoin
import KvsProducer.Common.QueryParamSigner
import KvsProducer.Common.HostHeader
import KvsProducer.Common.CanonicalLength
import KvsProducer.Common.SigningParams
import KvsProducer.Common.SignedUrl
import KvsProducer.Common.SizingPasses
import KvsProducer.Common.AppendedParams
import KvsProducer.Common.ResponseHeaders
import KvsProducer.Common.CredentialFile
import KvsProducer.Common.TimestampGrammar
import KvsProducer.ContinuousRetry.LatencyMachine
import KvsProducer.ContinuousRetry.StaleMachine
import KvsProducer.CurlSession.UploadData
import KvsProducer.JsonDocument
import KvsProducer.Common.ApiCalls
import KvsProducer.Common.RequestUrl
import KvsProducer.Common.StartTimestamp
import KvsProducer.Common.RequestBodies
import KvsProducer.Fmsp.SegmentSelection
import KvsProducer.StreamInfoProvider.ContentTypes
import KvsProducer.StreamInfoProvider.StorageSize
import KvsProducer.Common.HeaderList
import KvsProducer.JsmnGrammar
import KvsProducer.JsmnForest
import KvsProducer.JsmnDocument
import KvsProducer.Lib.SeparatedKeys
import KvsProducer.ResponseDocument
import KvsProducer.Common.IotDocument
import KvsProducer.CreateStream
import KvsProducer.DescribeDocument
import KvsProducer.Lib.Overlay
import KvsProducer.DescribeReport
import KvsProducer.ServiceBase.MethodThread
import KvsProducer.ServiceBase.Delivery
import KvsProducer.ServiceBase.Drain
import KvsProducer.AuthCallbacks
import KvsProducer.StreamInfoProvider.DeviceStorage
