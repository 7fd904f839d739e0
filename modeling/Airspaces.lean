import Airspaces.Airspace.Field
import Airspaces.CommandLine.Report
import Airspaces.Main
import Airspaces.Proofs.Altitude.Spaces
import Airspaces.Proofs.Atomicity
import Airspaces.Proofs.CommandLine.Files
import Airspaces.Proofs.File.Detection
import Airspaces.Proofs.File.Faults
import Airspaces.Proofs.File.Ignoring
import Airspaces.Proofs.File.Interruption
import Airspaces.Proofs.File.Pipeline
import Airspaces.Proofs.File.Progress
import Airspaces.Proofs.File.Reading
import Airspaces.Proofs.File.Result
import Airspaces.Proofs.File.Skipping
import Airspaces.Proofs.File.Titles
import Airspaces.Proofs.File.Waiting
import Airspaces.Proofs.LetterCase
import Airspaces.Proofs.Looking.Line
import Airspaces.Proofs.Number.Longest
import Airspaces.Proofs.OpenAir.Spacing
import Airspaces.Proofs.Position.Hemisphere
import Airspaces.Proofs.Position.RoundTrip
import Airspaces.Proofs.Position.Whole
import Airspaces.Proofs.Position.Written
import Airspaces.Proofs.Stepping
import Airspaces.Proofs.Tnp.Courses
