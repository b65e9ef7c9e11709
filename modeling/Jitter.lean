import Jitter.Clock.Scripted
import Jitter.Host.Simulated
import Jitter.InstrumentFailure
import Jitter.Main
import Jitter.Proofs.CalibrationPasses
import Jitter.Proofs.HistogramHistory
import Jitter.Proofs.PercentileShares
import Jitter.Proofs.PlotFile
import Jitter.Proofs.Refusal
import Jitter.Proofs.ReportFormats
import Jitter.Proofs.Reporting
import Jitter.Proofs.TrueDurations
import Jitter.Proofs.RunComposition
import Jitter.Proofs.MeterHistory
import Jitter.Proofs.PacedRuns
import Jitter.Proofs.PlotScripts
import Jitter.Proofs.CounterWaits
import Jitter.Proofs.FrequencyEstimate
import Jitter.Proofs.CounterReadiness
import Jitter.Proofs.ArithmeticSafety
import Jitter.Proofs.ConversionLosses
import Jitter.Proofs.PercentileOrder
import Jitter.Proofs.WaitReadings
import Jitter.Proofs.ListedBuckets
import Jitter.Proofs.HistogramFigures
import Jitter.Proofs.WaysToCalibrate
import Jitter.Proofs.SteadyCalibration
import Jitter.Proofs.QuotedTitles
import Jitter.Proofs.SteppedRequests
import Jitter.Proofs.PlotBars
import Jitter.Proofs.ArgumentOrder
