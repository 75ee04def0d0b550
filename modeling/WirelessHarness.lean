import WirelessHarness.Slave.RowBounds
import WirelessHarness.Slave.Reception
import WirelessHarness.Slave.Scan
import WirelessHarness.Master.Partition
import WirelessHarness.Master.CommandReply
import WirelessHarness.Uwb.Segmentation
import WirelessHarness.Uwb.CommandStatus
import WirelessHarness.Uwb.Notifications
import WirelessHarness.Uwb.DataTransmit
import WirelessHarness.Master.ReadCond
import WirelessHarness.Transfer.HandOver
import WirelessHarness.Transfer.FailedSend
import WirelessHarness.Transfer.Wedge
import WirelessHarness.Slave.ReportSize
import WirelessHarness.Master.ShareMem
import WirelessHarness.Master.Publication
import WirelessHarness.Master.Datagrams
import WirelessHarness.Master.Dispatch
import WirelessHarness.Master.Links
import WirelessHarness.Master.Acknowledge
import WirelessHarness.Master.TestCycle
import WirelessHarness.Master.Registry
import WirelessHarness.Protocol.FrameLayer
import WirelessHarness.Protocol.RecordLists
import WirelessHarness.Master.Echo
import WirelessHarness.Master.ConfigAck
import WirelessHarness.Master.ConfigHandshake
import WirelessHarness.Master.Upload
import WirelessHarness.Slave.Bystander
import WirelessHarness.Slave.BitPacking
import WirelessHarness.Slave.DrivenPins
import WirelessHarness.Master.SyncPeriod
import WirelessHarness.Protocol.Document
import WirelessHarness.Uwb.TagPacket
import WirelessHarness.Uwb.Delivery
import WirelessHarness.Master.JsonConfig
import WirelessHarness.System.Bench
import WirelessHarness.System.EndToEnd
import WirelessHarness.Slave.ScanCycles
import WirelessHarness.Slave.RegisterRuns
import WirelessHarness.Uwb.Recovery
