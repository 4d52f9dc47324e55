import ServiceProbe.Main
import ServiceProbe.Probe.Sample
import ServiceProbe.Settings.Printer
import ServiceProbe.Proofs.Text.Utf8
import ServiceProbe.Proofs.Line.Grammar
import ServiceProbe.Proofs.Parser.Schema
import ServiceProbe.Proofs.Parser.Sentences
import ServiceProbe.Proofs.Source.Lines
import ServiceProbe.Proofs.Source.Tests
import ServiceProbe.Proofs.Source.Numbering
import ServiceProbe.Proofs.Source.Endings
import ServiceProbe.Proofs.Enqueue.Offers
import ServiceProbe.Proofs.Enqueue.Run
import ServiceProbe.Proofs.Flight
import ServiceProbe.Proofs.Run
import ServiceProbe.Proofs.Imap.Lines
import ServiceProbe.Proofs.Imap.Sent
import ServiceProbe.Proofs.Imap.Verdict
import ServiceProbe.Proofs.Parser.Arguments
import ServiceProbe.Proofs.Imap.Login
import ServiceProbe.Proofs.Text.Numeral
import ServiceProbe.Proofs.Net.Literals
import ServiceProbe.Proofs.Text.Order
import ServiceProbe.Proofs.Tls.Settings
import ServiceProbe.Proofs.Dns.Verdict
import ServiceProbe.Proofs.Dns.Wire
import ServiceProbe.Proofs.Dns.Answers
import ServiceProbe.Proofs.Imap.Waits
import ServiceProbe.Proofs.Imap.Deadline
import ServiceProbe.Proofs.Probe.Traces
import ServiceProbe.Proofs.Settings.RoundTrip
import ServiceProbe.Proofs.Settings.Layers
import ServiceProbe.Proofs.Settings.Endpoint
import ServiceProbe.Proofs.Registry
import ServiceProbe.Proofs.Parser.History
import ServiceProbe.Proofs.Program.Readers
import ServiceProbe.Proofs.Program.Exit
import ServiceProbe.Proofs.Parser.Faults
import ServiceProbe.Proofs.Net.Texts
import ServiceProbe.Proofs.Dns.Comparison
import ServiceProbe.Proofs.Probe.Dialling
import ServiceProbe.Proofs.Duration.Notation
import ServiceProbe.Proofs.Probe.Validation
import ServiceProbe.Proofs.Imap.Failures
import ServiceProbe.Proofs.Program.Overflow
import ServiceProbe.Proofs.Imap.Arrival
