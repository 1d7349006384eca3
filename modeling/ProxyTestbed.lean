import ProxyTestbed.Backend.Basic
import ProxyTestbed.Backend.Launch
import ProxyTestbed.Calendar
import ProxyTestbed.Certificate.Command
import ProxyTestbed.Certificate.Hostname
import ProxyTestbed.Certificate.Issue
import ProxyTestbed.Check
import ProxyTestbed.Cleanup.Coordinator
import ProxyTestbed.Cleanup.Step
import ProxyTestbed.Container.Inspection
import ProxyTestbed.Datum
import ProxyTestbed.Declaration.BasicAuth
import ProxyTestbed.Declaration.Problem
import ProxyTestbed.Declaration.Redirect
import ProxyTestbed.Declaration.Variables
import ProxyTestbed.Declaration.VirtualHost
import ProxyTestbed.Diagnostics
import ProxyTestbed.Dictionary
import ProxyTestbed.Environment.Basic
import ProxyTestbed.Environment.Release
import ProxyTestbed.Environment.SetUp
import ProxyTestbed.Environment.Use
import ProxyTestbed.Fault
import ProxyTestbed.Fault.Foreign
import ProxyTestbed.Fault.Problem
import ProxyTestbed.File.Path
import ProxyTestbed.File.Tree
import ProxyTestbed.Fleet
import ProxyTestbed.Lifecycle
import ProxyTestbed.Log.Console
import ProxyTestbed.Log.Level
import ProxyTestbed.Number.Binary
import ProxyTestbed.Number.Decimal
import ProxyTestbed.Number.Read
import ProxyTestbed.Outside.Files
import ProxyTestbed.Outside.Request
import ProxyTestbed.Outside.Socket
import ProxyTestbed.Outside.World
import ProxyTestbed.Probe.Http
import ProxyTestbed.Probe.Target
import ProxyTestbed.Probe.WebSocket
import ProxyTestbed.Proofs.Act.After
import ProxyTestbed.Proofs.Act.Outcome
import ProxyTestbed.Proofs.Act.Raises
import ProxyTestbed.Proofs.Backend.Held
import ProxyTestbed.Proofs.Backend.Launched
import ProxyTestbed.Proofs.Backend.Leak
import ProxyTestbed.Proofs.Backend.Listening
import ProxyTestbed.Proofs.Backend.Look
import ProxyTestbed.Proofs.Backend.Requests
import ProxyTestbed.Proofs.Backend.States
import ProxyTestbed.Proofs.Certificate.Accepted
import ProxyTestbed.Proofs.Certificate.Grammar
import ProxyTestbed.Proofs.Certificate.Hostname
import ProxyTestbed.Proofs.Certificate.Issue
import ProxyTestbed.Proofs.Certificate.Places
import ProxyTestbed.Proofs.Certificate.Promise
import ProxyTestbed.Proofs.Cleanup.Calls
import ProxyTestbed.Proofs.Cleanup.Groups
import ProxyTestbed.Proofs.Cleanup.Requests
import ProxyTestbed.Proofs.Cleanup.Silent
import ProxyTestbed.Proofs.Cleanup.Steps
import ProxyTestbed.Proofs.Cleanup.Trail
import ProxyTestbed.Proofs.Declaration.Assembly
import ProxyTestbed.Proofs.Declaration.BasicAuth
import ProxyTestbed.Proofs.Declaration.Canonical
import ProxyTestbed.Proofs.Declaration.Grammar
import ProxyTestbed.Proofs.Declaration.Numbered
import ProxyTestbed.Proofs.Declaration.Path
import ProxyTestbed.Proofs.Declaration.Redirect
import ProxyTestbed.Proofs.Declaration.Rejected
import ProxyTestbed.Proofs.Declaration.RoundTrip
import ProxyTestbed.Proofs.Declaration.Sides
import ProxyTestbed.Proofs.Declaration.Target
import ProxyTestbed.Proofs.Declaration.Variables
import ProxyTestbed.Proofs.Diagnostics.Report
import ProxyTestbed.Proofs.Environment.Acquired
import ProxyTestbed.Proofs.Environment.Certificates
import ProxyTestbed.Proofs.Environment.Endings
import ProxyTestbed.Proofs.Environment.Evidence
import ProxyTestbed.Proofs.Environment.Extras
import ProxyTestbed.Proofs.Environment.Faults
import ProxyTestbed.Proofs.Environment.Scratch
import ProxyTestbed.Proofs.Environment.SetUp
import ProxyTestbed.Proofs.Environment.Status
import ProxyTestbed.Proofs.Environment.Use
import ProxyTestbed.Proofs.File.Denied
import ProxyTestbed.Proofs.File.Grown
import ProxyTestbed.Proofs.File.Listed
import ProxyTestbed.Proofs.File.Spared
import ProxyTestbed.Proofs.Fleet.Course
import ProxyTestbed.Proofs.Fleet.Frame
import ProxyTestbed.Proofs.Fleet.Holdings
import ProxyTestbed.Proofs.Fleet.Interrupted
import ProxyTestbed.Proofs.Fleet.Operations
import ProxyTestbed.Proofs.Fleet.Provision
import ProxyTestbed.Proofs.Fleet.Registry
import ProxyTestbed.Proofs.Fleet.Releases
import ProxyTestbed.Proofs.Fleet.Reports
import ProxyTestbed.Proofs.Number.Digits
import ProxyTestbed.Proofs.Number.Range
import ProxyTestbed.Proofs.Probe.Closing
import ProxyTestbed.Proofs.Probe.WebSocket
import ProxyTestbed.Proofs.Settings.Coerced
import ProxyTestbed.Proofs.Settings.Document
import ProxyTestbed.Proofs.Settings.Escapes
import ProxyTestbed.Proofs.Settings.Precedence
import ProxyTestbed.Proofs.Text.Blank
import ProxyTestbed.Proofs.Text.Pieces
import ProxyTestbed.Proofs.Wait.Accepted
import ProxyTestbed.Proofs.Wait.Bounds
import ProxyTestbed.Proofs.Wait.Constant
import ProxyTestbed.Proofs.Wait.Decisive
import ProxyTestbed.Proofs.Wait.Faults
import ProxyTestbed.Proofs.Wait.Intervals
import ProxyTestbed.Proofs.Wait.Line
import ProxyTestbed.Proofs.Wait.Loops
import ProxyTestbed.Proofs.Wait.Overrun
import ProxyTestbed.Proofs.Wait.Rounds
import ProxyTestbed.Proofs.Wait.Seen
import ProxyTestbed.Proofs.Wait.Steady
import ProxyTestbed.Proofs.Wait.Timetable
import ProxyTestbed.Proofs.World.Asks
import ProxyTestbed.Proofs.World.Requests
import ProxyTestbed.Proofs.World.Tells
import ProxyTestbed.Response
import ProxyTestbed.Scenario.Answer
import ProxyTestbed.Scenario.Run
import ProxyTestbed.Scenario.Session
import ProxyTestbed.Scenario.Step
import ProxyTestbed.Scenario.Trace
import ProxyTestbed.Scenario.Use
import ProxyTestbed.Scripted.Script
import ProxyTestbed.Scripted.Stage
import ProxyTestbed.Seconds
import ProxyTestbed.Settings.Basic
import ProxyTestbed.Settings.Load
import ProxyTestbed.Text.Blank
import ProxyTestbed.Text.Digit
import ProxyTestbed.Text.Lines
import ProxyTestbed.Text.Pieces
import ProxyTestbed.Text.Printable
import ProxyTestbed.Text.Quoted
import ProxyTestbed.Text.Utf8
import ProxyTestbed.Wait.Policy
import ProxyTestbed.Wait.Poll
import ProxyTestbed.Wait.Waits
import ProxyTestbed.Yaml.Cursor
import ProxyTestbed.Yaml.Node
import ProxyTestbed.Yaml.Problem
import ProxyTestbed.Yaml.Scalar
import ProxyTestbed.Yaml.Tag
import ProxyTestbed.Yaml.Token
import ProxyTestbed.Yaml.Value
import ProxyTestbed.Proofs.Diagnostics.Report
import ProxyTestbed.Proofs.Text.Lines
