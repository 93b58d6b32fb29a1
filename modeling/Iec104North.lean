import Iec104North.Runs
import Iec104North.CommandPaths
import Iec104North.CommandOutcomes
import Iec104North.CommandLedger
import Iec104North.LedgerRefinement
import Iec104North.CommandProcedure
import Iec104North.ConnectionLoss
import Iec104North.FeedbackQueue
import Iec104North.FeedbackDelivery
import Iec104North.TableReads
import Iec104North.TableFrame
import Iec104North.InterrogationResponse
import Iec104North.Authorisation
import Iec104North.LastValue
import Iec104North.ImportProtocol
import Iec104North.ClockSync
import Iec104North.Library.Holding
import Iec104North.RedundancyImport
import Iec104North.Slots
import Iec104North.SlotRuns
import Iec104North.Audits
import Iec104North.AuditTrail
import Iec104North.ServerAudits
import Iec104North.SlotAudits
import Iec104North.ImportExchange
import Iec104North.SpontaneousDelivery
import Iec104North.MonitoringData
import Iec104North.InvalidUntilReceived
import Iec104North.AsduSize
import Iec104North.Library.Periods
import Iec104North.MonitoringLoop
import Iec104North.SlaveControl
import Iec104North.SouthNotification
import Iec104North.GiGroups
import Iec104North.ExchangeDocument
import Iec104North.DocumentPoints
import Iec104North.OriginatorFilter
import Iec104North.CommandTimes
import Iec104North.CommandDeadlines
import Iec104North.AttributeReading
import Iec104North.SpontaneousAsdus
import Iec104North.ValueRanges
import Iec104North.StepPositionTexts
import Iec104North.Library.VectorLoop
import Iec104North.CommandLoops
import Iec104North.TlsConfiguration
import Iec104North.ActiveSlots
import Iec104North.AddressFormat
import Iec104North.Library.Simulation
import Iec104North.InterrogationReplies
import Iec104North.StepEffects
import Iec104North.Provenance
import Iec104North.ProcessImage
import Iec104North.StationRefinement
import Iec104North.ControlIndependence
import Iec104North.BroadcastResponse
import Iec104North.Library.Typestate
import Iec104North.LifeCycle
import Iec104North.ResourceProtocol
import Iec104North.SlaveSettings
import Iec104North.SouthGating
import Iec104North.SecureSlave
import Iec104North.Mailboxes
import Iec104North.CommandRoundTrip
import Iec104North.SupervisionIndependence
import Iec104North.Library.Lock
import Iec104North.CommandsLock
import Iec104North.LockedRuns
import Iec104North.Library.Replica
import Iec104North.MasterCopy
