import Viridity.LabelledRuns
import Viridity.PaintedCanvas
import Viridity.TileOperations
import Viridity.MoveAnalysis
import Viridity.OperationParts
import Viridity.FullUpdate
import Viridity.FrameFlow
import Viridity.FrameNumbers
import Viridity.DisplayClient
import Viridity.ProtocolProgress
import Viridity.FrameCompletion
import Viridity.SessionExpiry
import Viridity.FileUpload
import Viridity.FormBody
import Viridity.UploadSteps
import Viridity.UploadPieces
import Viridity.UploadChunks
import Viridity.SessionHoldings
import Viridity.ChannelHandlers
import Viridity.ChannelAccounting
import Viridity.SessionRegistry
import Viridity.ChannelExclusion
import Viridity.PendingMessages
import Viridity.MessageDispatch
import Viridity.TextEncoding
import Viridity.TextScanning
import Viridity.ClientMessages
import Viridity.ServerMessages
import Viridity.EventStream
import Viridity.MessageTransports
import Viridity.NumberText
import Viridity.DataBridge
import Viridity.BridgeMessages
import Viridity.BridgeAnswers
import Viridity.InputEvents
import Viridity.ListReplication
import Viridity.RepeaterUpdates
import Viridity.LeastIndex
import Viridity.ColumnSearch
import Viridity.ChangedRect
import Viridity.FingerPrintUpdates
import Viridity.FingerPrintStrips
import Viridity.MoveSearches
import Viridity.OptimizedOperations
import Viridity.DamageRecording
import Viridity.DamageBookkeeping
import Viridity.RequestTargets
import Viridity.PatchRequests
import Viridity.RequestDispatch
import Viridity.Base64
import Viridity.DisplayMessageText
import Viridity.PlayerPainting
import Viridity.DisplayDumps
import Viridity.ReplayedFrames
import Viridity.DumpReplay
import Viridity.HandlerDispatch
import Viridity.HeaderParameters
import Viridity.SessionAttachment
import Viridity.SubscriberBroadcast
import Viridity.RewriteRules
import Viridity.RedirectDecisions
import Viridity.CaptureSubstitution
import Viridity.BoundedWalks
import Viridity.PngChunks
import Viridity.ExhaustiveSearch
import Viridity.UploadIndexes
import Viridity.Compositing
import Viridity.PatchEncoding
import Viridity.PatchGeometry
import Viridity.DocumentDependencies
import Viridity.ExactTiles
import Viridity.ResumedParsing
import Viridity.WebSocketFrames
import Viridity.WebSocketLink
import Viridity.InputCommands
import Viridity.TypedText
import Viridity.CanvasPainting
import Viridity.CanvasPhases
import Viridity.PictureStream
import Viridity.ScreenMirror
import Viridity.RendererMessages
import Viridity.WireCallbacks
import Viridity.WireScreen
