import LightHub.Main
import LightHub.Script
import LightHub.Settings.Desk
import LightHub.Proofs.Text.Ends
import LightHub.Proofs.Text.Trim
import LightHub.Proofs.Text.Control
import LightHub.Proofs.Text.Numeral
import LightHub.Proofs.Json.Token
import LightHub.Proofs.Json.Value
import LightHub.Proofs.Json.Text
import LightHub.Proofs.Json.Exact
import LightHub.Proofs.Net.Ipv4
import LightHub.Proofs.Net.Ipv6
import LightHub.Proofs.Wire.Version
import LightHub.Proofs.Wire.DeviceType
import LightHub.Proofs.Wire.Request
import LightHub.Proofs.Wire.Checks
import LightHub.Proofs.Wire.Line
import LightHub.Proofs.Wire.Decode
import LightHub.Proofs.Wire.Layout
import LightHub.Proofs.Wire.Fields
import LightHub.Proofs.Wire.Message
import LightHub.Proofs.Wire.Reply
import LightHub.Proofs.Stream.Lines
import LightHub.Proofs.Stream.Reading
import LightHub.Proofs.Stream.Body
import LightHub.Proofs.Stream.Partition
import LightHub.Proofs.Settings.Version
import LightHub.Proofs.Settings.Members
import LightHub.Proofs.Settings.Object
import LightHub.Proofs.Settings.Text
import LightHub.Proofs.Settings.Content
import LightHub.Proofs.Settings.File
import LightHub.Proofs.Settings.Save
import LightHub.Proofs.Settings.Desk
import LightHub.Proofs.Remote.Code
import LightHub.Proofs.Remote.Registration
import LightHub.Proofs.Remote.Capture
import LightHub.Proofs.Remote.Progress
import LightHub.Proofs.Remote.Learning
import LightHub.Proofs.Client.Pipeline
import LightHub.Proofs.Client.Remote
import LightHub.Proofs.Client.Agreement
import LightHub.Proofs.Client.Answer
import LightHub.Proofs.Client.Capture
import LightHub.Proofs.Client.Refusal
import LightHub.Proofs.Client.Plain
import LightHub.Proofs.Client.Outcome
import LightHub.Proofs.Client.Message
import LightHub.Proofs.Session.Exchange
import LightHub.Proofs.Session.Transcript
import LightHub.Proofs.Session.Quit
import LightHub.Proofs.Session.LineWise
import LightHub.Proofs.Session.Ahead
import LightHub.Proofs.Session.Cut
import LightHub.Proofs.Session.Faults
import LightHub.Proofs.Session.Writer
import LightHub.Proofs.CommandLine.Arguments
import LightHub.Proofs.CommandLine.Plan
import LightHub.Proofs.CommandLine.Blame
import LightHub.Proofs.CommandLine.Dialogue
import LightHub.Proofs.CommandLine.Edits
import LightHub.Proofs.CommandLine.Button
import LightHub.Proofs.CommandLine.Connect
