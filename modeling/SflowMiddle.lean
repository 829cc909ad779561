import SflowMiddle.Foundation.TransitionSystem
import SflowMiddle.Foundation.Suffix
import SflowMiddle.Foundation.OrderedMap
import SflowMiddle.Calibration.Runs
import SflowMiddle.Clock.ResetRecovery
import SflowMiddle.Clock.Uncertainty
import SflowMiddle.Calibration.Agreement
import SflowMiddle.Exporter.Batches
import SflowMiddle.Exporter.Shutdown
import SflowMiddle.Card.Exclusivity
import SflowMiddle.Card.ReadErrors
import SflowMiddle.Card.Redelivery
import SflowMiddle.Calibration.ConstantRates
import SflowMiddle.Calibration.RobustFit
import SflowMiddle.Exporter.SampleChain
import SflowMiddle.Exporter.Settings
import SflowMiddle.Exporter.Wakeup
import SflowMiddle.Clock.HostSteps
import SflowMiddle.Clock.RawRead
import SflowMiddle.Exporter.Grouping
import SflowMiddle.Card.ExactDrain
import SflowMiddle.Calibration.OptimalLine
import SflowMiddle.Calibration.Startup
import SflowMiddle.Calibration.SampleCounts
import SflowMiddle.Calibration.Epochs
import SflowMiddle.Calibration.IntegerRange
import SflowMiddle.Clock.Accounting
import SflowMiddle.Card.AreaDiscipline
import SflowMiddle.Card.StopRequest
import SflowMiddle.Exporter.Datagrams
import SflowMiddle.Exporter.CriticalSections
import SflowMiddle.Exporter.Sending
import SflowMiddle.Exporter.Decoding
import SflowMiddle.Card.SteadyTicks
import SflowMiddle.Exporter.ExportLoop
import SflowMiddle.Calibration.Accuracy
import SflowMiddle.Exporter.Main
import SflowMiddle.Exporter.Pipeline
import SflowMiddle.Clock.Realtime
import SflowMiddle.Exporter.DatedExports
