import TapeAdmin.Command.Script
import TapeAdmin.Command.Words
import TapeAdmin.Device.Document
import TapeAdmin.Main
import TapeAdmin.Proofs.Cartridge.Records
import TapeAdmin.Proofs.Text.BigEndian
import TapeAdmin.Proofs.Text.Utf8
import TapeAdmin.Shell.Launch
import TapeAdmin.Proofs.Cartridge.Exactness
import TapeAdmin.Proofs.Cartridge.RoundTrip
import TapeAdmin.Proofs.Host.Procedures
import TapeAdmin.Proofs.Console.Handlers
import TapeAdmin.Proofs.Host.Trace
import TapeAdmin.Proofs.Console.Consent
import TapeAdmin.Proofs.Device.Name
import TapeAdmin.Proofs.Device.Scan
import TapeAdmin.Proofs.Device.Grouping
import TapeAdmin.Proofs.Device.Admission
import TapeAdmin.Proofs.Device.Refinement
import TapeAdmin.Proofs.Device.Resolution
import TapeAdmin.Proofs.Mount.History
import TapeAdmin.Proofs.Mount.Session
import TapeAdmin.Proofs.Cartridge.Sending
import TapeAdmin.Proofs.Device.Enumeration
import TapeAdmin.Proofs.Host.Replay
import TapeAdmin.Proofs.Console.Reporting
import TapeAdmin.Proofs.Console.Printing
import TapeAdmin.Proofs.Command.Chain
import TapeAdmin.Proofs.Command.Process
import TapeAdmin.Proofs.Command.Script
import TapeAdmin.Proofs.Mount.Chain
import TapeAdmin.Proofs.Console.Diagnosing
import TapeAdmin.Proofs.Command.Rendering
import TapeAdmin.Proofs.Mount.Listing
import TapeAdmin.Proofs.Volume.Format
import TapeAdmin.Proofs.Device.Ranking
import TapeAdmin.Proofs.Device.Preference
import TapeAdmin.Proofs.Cartridge.Acceptance
import TapeAdmin.Proofs.Cartridge.Reading
import TapeAdmin.Proofs.Device.Spelling
import TapeAdmin.Proofs.Status
import TapeAdmin.Proofs.Duration
import TapeAdmin.Proofs.Configuration.Document
import TapeAdmin.Proofs.Cartridge.Identifier
import TapeAdmin.Proofs.Cartridge.Display
import TapeAdmin.Proofs.Console.Confirmation
import TapeAdmin.Proofs.Console.HeldDrive
import TapeAdmin.Proofs.Console.RoundTrip
