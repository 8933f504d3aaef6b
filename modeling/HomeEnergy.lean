import HomeEnergy.Backoff
import HomeEnergy.Bench.Controller
import HomeEnergy.Bench.Fault
import HomeEnergy.Bench.Operation
import HomeEnergy.Bench.Polling
import HomeEnergy.Bench.Session
import HomeEnergy.Bench.Worker
import HomeEnergy.Bench.World
import HomeEnergy.Cache
import HomeEnergy.Cache.Sharing
import HomeEnergy.Catalog
import HomeEnergy.Collector
import HomeEnergy.Collector.Query
import HomeEnergy.Collector.Receiver
import HomeEnergy.Decimal.Binary64
import HomeEnergy.Decimal.Numeral
import HomeEnergy.Decimal.Shortest
import HomeEnergy.Decimal.Single
import HomeEnergy.Device.Battery
import HomeEnergy.Device.Heating
import HomeEnergy.Device.Inverter
import HomeEnergy.Device.Sources
import HomeEnergy.Device.Stove
import HomeEnergy.Device.Weather
import HomeEnergy.Document
import HomeEnergy.Document.Exact
import HomeEnergy.Document.Fields
import HomeEnergy.Document.Json
import HomeEnergy.Document.Json.Reader
import HomeEnergy.Document.Yaml
import HomeEnergy.Document.Yaml.Cursor
import HomeEnergy.Document.Yaml.Node
import HomeEnergy.Document.Yaml.Scalar
import HomeEnergy.Document.Yaml.Token
import HomeEnergy.Fault
import HomeEnergy.Http.Message
import HomeEnergy.Link.Http
import HomeEnergy.Link.Http.Settings
import HomeEnergy.Link.Modbus
import HomeEnergy.Link.Modbus.Settings
import HomeEnergy.Link.State
import HomeEnergy.Listener
import HomeEnergy.Log.Entry
import HomeEnergy.Log.Filter
import HomeEnergy.Log.Level
import HomeEnergy.Main
import HomeEnergy.Metrics
import HomeEnergy.Module
import HomeEnergy.Module.Poller
import HomeEnergy.Module.Worker
import HomeEnergy.Proofs.Backoff.Doubling
import HomeEnergy.Proofs.Battery.Answer
import HomeEnergy.Proofs.Battery.Digits
import HomeEnergy.Proofs.Battery.Values
import HomeEnergy.Proofs.Cache.Handles
import HomeEnergy.Proofs.Collector.Entries
import HomeEnergy.Proofs.Collector.Laws
import HomeEnergy.Proofs.Collector.Records
import HomeEnergy.Proofs.Decimal.Digits
import HomeEnergy.Proofs.Decimal.Literal
import HomeEnergy.Proofs.Decimal.Nearest
import HomeEnergy.Proofs.Decimal.Rounding
import HomeEnergy.Proofs.Decimal.Scaled
import HomeEnergy.Proofs.Decimal.Shortest
import HomeEnergy.Proofs.Decimal.Single
import HomeEnergy.Proofs.Decimal.Whole
import HomeEnergy.Proofs.Document.Double
import HomeEnergy.Proofs.Document.Normal
import HomeEnergy.Proofs.Document.Numeral
import HomeEnergy.Proofs.Document.Reordered
import HomeEnergy.Proofs.Document.RoundTrip
import HomeEnergy.Proofs.Document.Tokens
import HomeEnergy.Proofs.Fault.First
import HomeEnergy.Proofs.Heating.Query
import HomeEnergy.Proofs.Heating.Rooms
import HomeEnergy.Proofs.Heating.Watch
import HomeEnergy.Proofs.House.Course
import HomeEnergy.Proofs.House.Devices
import HomeEnergy.Proofs.House.Life
import HomeEnergy.Proofs.House.Watch
import HomeEnergy.Proofs.Http.Course
import HomeEnergy.Proofs.Http.Life
import HomeEnergy.Proofs.Http.Watch
import HomeEnergy.Proofs.Inverter.PowerFlow
import HomeEnergy.Proofs.Link.Laws
import HomeEnergy.Proofs.Link.Signals
import HomeEnergy.Proofs.Modbus.Course
import HomeEnergy.Proofs.Modbus.Life
import HomeEnergy.Proofs.Modbus.Together
import HomeEnergy.Proofs.Modbus.Use
import HomeEnergy.Proofs.Modbus.Watch
import HomeEnergy.Proofs.Polling.Cycles
import HomeEnergy.Proofs.Polling.Fleet
import HomeEnergy.Proofs.Polling.Kept
import HomeEnergy.Proofs.Polling.Laws
import HomeEnergy.Proofs.Polling.Stop
import HomeEnergy.Proofs.Polling.Ticks
import HomeEnergy.Proofs.Polling.Together
import HomeEnergy.Proofs.Polling.Watch
import HomeEnergy.Proofs.Routine.Amid
import HomeEnergy.Proofs.Routine.Attempts
import HomeEnergy.Proofs.Routine.Crowd
import HomeEnergy.Proofs.Routine.Ends
import HomeEnergy.Proofs.Routine.Grid
import HomeEnergy.Proofs.Routine.Keeps
import HomeEnergy.Proofs.Routine.Laws
import HomeEnergy.Proofs.Routine.Loop
import HomeEnergy.Proofs.Routine.Minds
import HomeEnergy.Proofs.Routine.Open
import HomeEnergy.Proofs.Routine.Phases
import HomeEnergy.Proofs.Routine.Rely
import HomeEnergy.Proofs.Routine.Retry
import HomeEnergy.Proofs.Routine.Rounds
import HomeEnergy.Proofs.Routine.Shown
import HomeEnergy.Proofs.Routine.Turns
import HomeEnergy.Proofs.Routine.Unhindered
import HomeEnergy.Proofs.Routine.Uses
import HomeEnergy.Proofs.Routine.Waits
import HomeEnergy.Proofs.Settings.Address
import HomeEnergy.Proofs.Settings.Overriding
import HomeEnergy.Proofs.Settings.Sensible
import HomeEnergy.Proofs.Settings.Verbatim
import HomeEnergy.Proofs.Span.Words
import HomeEnergy.Proofs.StatusPage.Listing
import HomeEnergy.Proofs.StatusPage.Views
import HomeEnergy.Proofs.StatusPage.Watch
import HomeEnergy.Proofs.Stove.Number
import HomeEnergy.Proofs.Stove.Page
import HomeEnergy.Proofs.Timestamp.Calendar
import HomeEnergy.Proofs.Timestamp.Reading
import HomeEnergy.Proofs.Weather.Entry
import HomeEnergy.Proofs.Weather.Observation
import HomeEnergy.Proofs.Weather.Upload
import HomeEnergy.Proofs.Worker.Course
import HomeEnergy.Proofs.Worker.Life
import HomeEnergy.Proofs.Worker.Stop
import HomeEnergy.Proofs.Worker.Watch
import HomeEnergy.Register
import HomeEnergy.Routine
import HomeEnergy.Routine.Retry
import HomeEnergy.Routine.Schedule
import HomeEnergy.Routine.Ticker
import HomeEnergy.Service
import HomeEnergy.Service.Help
import HomeEnergy.Service.Report
import HomeEnergy.Settings
import HomeEnergy.Settings.Arguments
import HomeEnergy.Settings.Environment
import HomeEnergy.Settings.Loading
import HomeEnergy.Settings.Override
import HomeEnergy.Settings.Validation
import HomeEnergy.Span
import HomeEnergy.Span.Text
import HomeEnergy.StatusPage
import HomeEnergy.Store
import HomeEnergy.Store.Record
import HomeEnergy.Store.Table
import HomeEnergy.Text.Blank
import HomeEnergy.Text.Bytes
import HomeEnergy.Text.Percent
import HomeEnergy.Text.Quoted
import HomeEnergy.Text.Unseen
import HomeEnergy.Text.Word
import HomeEnergy.Timestamp
import HomeEnergy.Url
import HomeEnergy.Proofs.Register.Agreement
