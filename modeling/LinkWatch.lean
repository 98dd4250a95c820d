import LinkWatch.Host.Answers
import LinkWatch.Inventory.Codec
import LinkWatch.Main
import LinkWatch.Rehearsal.Exchange
import LinkWatch.Rehearsal.Monitor
import LinkWatch.Rehearsal.Scanner
import LinkWatch.Rehearsal.Serial
import LinkWatch.Proofs.Run
import LinkWatch.Proofs.Scanner.Start
import LinkWatch.Proofs.Scanner.Announcements
import LinkWatch.Proofs.Intake
import LinkWatch.Proofs.Monitor
import LinkWatch.Proofs.Watch.Accounts
import LinkWatch.Proofs.Endpoint.Grammar
import LinkWatch.Proofs.Endpoint.Parse
import LinkWatch.Proofs.Exclusion.Codec
import LinkWatch.Proofs.Exclusion.Keep
import LinkWatch.Proofs.Settings.RoundTrip
import LinkWatch.Proofs.Intake.Buffer
import LinkWatch.Proofs.Intake.Drain
import LinkWatch.Proofs.Channel.Drain
import LinkWatch.Proofs.Channel.Handles
import LinkWatch.Proofs.Channel.Turns
import LinkWatch.Proofs.Channel.Closing
import LinkWatch.Proofs.Monitor.Inputs
import LinkWatch.Proofs.Watch.Inputs
import LinkWatch.Proofs.Monitor.Sessions
import LinkWatch.Proofs.Scanner.Course
import LinkWatch.Proofs.Scanner.LifeCycle
import LinkWatch.Proofs.Scanner.Registering
import LinkWatch.Proofs.Scanner.Audience
import LinkWatch.Proofs.Scanner.Hearing
import LinkWatch.Proofs.Scanner.Steady
import LinkWatch.Proofs.Watch.Agreement
import LinkWatch.Proofs.Monitor.OnlyWatching
import LinkWatch.Proofs.Endpoint.Display
import LinkWatch.Proofs.Survey.Listing
import LinkWatch.Proofs.Survey.Containment
import LinkWatch.Proofs.Survey.Marker
import LinkWatch.Proofs.Survey.Order
import LinkWatch.Proofs.Survey.Choice
import LinkWatch.Proofs.Survey.Identifiers
import LinkWatch.Proofs.Survey.Devices
import LinkWatch.Proofs.Survey.Presence
import LinkWatch.Proofs.Endpoint.NormalForm
import LinkWatch.Proofs.Monitor.Undisturbed
import LinkWatch.Proofs.Monitor.Recognition
import LinkWatch.Proofs.Settings.Numbers
import LinkWatch.Proofs.Settings.Forms
import LinkWatch.Proofs.Intake.Stream
import LinkWatch.Proofs.Inventory.Codec
import LinkWatch.Proofs.Survey.UsbDevices
import LinkWatch.Proofs.Scanner.Refusal
