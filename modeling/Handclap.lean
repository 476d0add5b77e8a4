import Handclap.Fault
import Handclap.Word
import Handclap.Adc
import Handclap.Config
import Handclap.Tracker
import Handclap.Series.Event
import Handclap.Series.Ledger
import Handclap.Series.Session
import Handclap.Bench
import Handclap.Timer
import Handclap.Uart
import Handclap.Console
import Handclap.Led
import Handclap.Text.Ranges
import Handclap.Text.WhiteSpace
import Handclap.Text.GraphemeExtend
import Handclap.Text.Printable
import Handclap.Text.Quoted
import Handclap.BuildStep
import Handclap.Firmware
import Handclap.Host
import Handclap.Main
import Handclap.Proofs.ClockDrift
import Handclap.Proofs.PollerBounds
import Handclap.Proofs.ClapAccounting
import Handclap.Proofs.EventGrammar
import Handclap.Proofs.SeriesTimeout
import Handclap.Proofs.ConfigResolution
import Handclap.Proofs.TrackerRuns
import Handclap.Proofs.ClapRecognition
import Handclap.Proofs.PollDrain
import Handclap.Proofs.LedWrites
import Handclap.Proofs.ConsoleTranscript
import Handclap.Proofs.TrackerBounds
