import ProtoRu.UplinkReplyCoverage
import ProtoRu.PrachPeeking
import ProtoRu.PrachReplyBounds
import ProtoRu.FramePadding
import ProtoRu.DownlinkRadioPushRuns
import ProtoRu.IdleGuardCommands
import ProtoRu.DynamicCompressionMismatch
import ProtoRu.UplinkNotificationOrder
import ProtoRu.BfpCompression
import ProtoRu.PrachUplaneFiltering
import ProtoRu.RlcPollingRuns
import ProtoRu.RlcLink
import ProtoRu.PdcpTxReordering
import ProtoRu.PdcpDiscardRuns
import ProtoRu.PdcpKeyFreshness
import ProtoRu.PdcpRxOrder
import ProtoRu.PdcpRxForgery
import ProtoRu.MacUlSchDecoding
import ProtoRu.MacDlSchContents
import ProtoRu.MacDlRetransmissions
import ProtoRu.GtpuTeidPool
import ProtoRu.RxWindowCheckers
import ProtoRu.FramePoolConservation
import ProtoRu.FramePoolClearing
import ProtoRu.GtpuReorderingRuns
import ProtoRu.GtpuRoundTrip
import ProtoRu.DrbLimits
import ProtoRu.SequenceIdAccounting
import ProtoRu.GpsSlotAligner
import ProtoRu.UplaneFragmentLoop
import ProtoRu.PrachWindowRaces
import ProtoRu.DownlinkGridSharing
import ProtoRu.GridCompletion
import ProtoRu.SymbolTiming
import ProtoRu.F1uBearer
import ProtoRu.PdcpTxFailures
import ProtoRu.RlcSegmentMerging
import ProtoRu.F1uDiscards
import ProtoRu.RlcStatusExchange
import ProtoRu.PdcpStatusReports
import ProtoRu.PrbSearch
import ProtoRu.TimerMailbox
import ProtoRu.TokenBucket
import ProtoRu.BitsetPacking
import ProtoRu.RbgConversion
