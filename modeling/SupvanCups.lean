import SupvanCups.FamilyResolution
import SupvanCups.RasterJob
import SupvanCups.TransferExclusion
import SupvanCups.PagePipeline
import SupvanCups.PrintProtocol
import SupvanCups.WireRoundTrip
import SupvanCups.MediaGate
import SupvanCups.BlockPacking
import SupvanCups.TwoColourPage
import SupvanCups.NodeOwnership
import SupvanCups.UsbReplies
import SupvanCups.MaterialCommit
import SupvanCups.FaultReport
import SupvanCups.HeldJobs
import SupvanCups.PageIndependence
import SupvanCups.MisfitPages
import SupvanCups.ConnectionCache
import SupvanCups.LongestPrefix
import SupvanCups.UsbFamily
import SupvanCups.TableLoading
import SupvanCups.MediaIdempotence
import SupvanCups.BlockAcknowledgement
import SupvanCups.ErrorPlane
import SupvanCups.TonePreservation
import SupvanCups.FirmwareFrames
import SupvanCups.BufferHeaders
import SupvanCups.DensityOrder
import SupvanCups.PrintSpeed
import SupvanCups.ShortLabels
import SupvanCups.PageTruncation
import SupvanCups.PageRows
import SupvanCups.LabelSizes
import SupvanCups.GreyLines
import SupvanCups.SwatchLadder
import SupvanCups.GreyTestImages
import SupvanCups.PrintheadDump
import SupvanCups.ReplyParsers
import SupvanCups.SlugLaws
import SupvanCups.PrinterInbox
import SupvanCups.PrintedPages
import SupvanCups.SocketPipes
import SupvanCups.TwoColourCards
import SupvanCups.CliArguments
import SupvanCups.CliSafety
import SupvanCups.BleReplies
import SupvanCups.SharedConnections
import SupvanCups.BluezDiscovery
import SupvanCups.BleConnection
import SupvanCups.RollCache
import SupvanCups.RfcommReplies
import SupvanCups.PrintedDocuments
import SupvanCups.BayerHalftones
import SupvanCups.ServerProgress
