import Overseer.Text.Utf8
import Overseer.Text.Blank
import Overseer.Text.Numeral
import Overseer.Text.Shapeless
import Overseer.Text.Quoted
import Overseer.Text.WordChar
import Overseer.Json.Value
import Overseer.Json.Magnitude
import Overseer.Json.Reading
import Overseer.Json.NumberReader
import Overseer.Json.StringReader
import Overseer.Json.Reader
import Overseer.Json.Printer
import Overseer.SystemError
import Overseer.Duration
import Overseer.Fault
import Overseer.Notice
import Overseer.Signal
import Overseer.Event
import Overseer.Path
import Overseer.Environment
import Overseer.Settings
import Overseer.Schedule
import Overseer.Lifecycle.Job
import Overseer.Lifecycle.WaitCall
import Overseer.Lifecycle.StopCall
import Overseer.Control.Command
import Overseer.Control.FrameReader
import Overseer.Control.FrameWriter
import Overseer.Control.Gate
import Overseer.Control.Channel
import Overseer.Host.FileTree
import Overseer.Host.Socket
import Overseer.Host.Process
import Overseer.Host.Host
import Overseer.Application
import Overseer.Supervision.Supervisor
import Overseer.Supervision.Site
import Overseer.Supervision.Bodies
import Overseer.Supervision.Traffic
import Overseer.Supervision.Run
import Overseer.Supervision.Activity
import Overseer.CommandLine.Arguments
import Overseer.CommandLine.DotEnv
import Overseer.CommandLine.Program
import Overseer.Rehearsal.Reading
import Overseer.Rehearsal.Writing
import Overseer.Rehearsal.Workshop
import Overseer.Rehearsal.Working
import Overseer.Rehearsal.Play
import Overseer.Rehearsal.Channelling
import Overseer.Rehearsal.Applying
import Overseer.Rehearsal.Supervising
import Overseer.Rehearsal.Commanding
import Overseer.Main
import Overseer.Proofs.Framing.Conservation
import Overseer.Proofs.Framing.Delivery
import Overseer.Proofs.Framing.Transparency
import Overseer.Proofs.Channel.Connections
import Overseer.Proofs.Channel.Visit
import Overseer.Proofs.Supervision.Posts
import Overseer.Proofs.Channel.Books
import Overseer.Proofs.Channel.Rendezvous
import Overseer.Proofs.Channel.Service
import Overseer.Proofs.Lifecycle.Life
import Overseer.Proofs.Lifecycle.Timing
import Overseer.Proofs.Lifecycle.Escalation
import Overseer.Proofs.Lifecycle.Punctuality
import Overseer.Proofs.Lifecycle.Endurance
import Overseer.Proofs.Lifecycle.Teardown
import Overseer.Proofs.Lifecycle.Departure
import Overseer.Proofs.Lifecycle.Stillbirth
import Overseer.Proofs.Lifecycle.Vigil
import Overseer.Proofs.Lifecycle.Abandonment
import Overseer.Proofs.Lifecycle.Overflow
import Overseer.Proofs.Supervision.Tending
import Overseer.Proofs.Supervision.Deeds
import Overseer.Proofs.Supervision.Runs
import Overseer.Proofs.Supervision.Course
import Overseer.Proofs.Supervision.Precedence
import Overseer.Proofs.Supervision.Rounds
import Overseer.Proofs.Supervision.Succession
import Overseer.Proofs.Supervision.Chronicle
import Overseer.Proofs.Supervision.Renewal
import Overseer.Proofs.Supervision.Exclusion
import Overseer.Proofs.Supervision.Charge
import Overseer.Proofs.Supervision.Ladder
import Overseer.Proofs.Supervision.Patience
import Overseer.Proofs.Supervision.Peace
import Overseer.Proofs.Json.Grammar
import Overseer.Proofs.Json.Numerals
import Overseer.Proofs.Json.Spelling
import Overseer.Proofs.Json.Recognition
import Overseer.Proofs.Json.Nesting
import Overseer.Proofs.Control.Classification
import Overseer.Proofs.Framing.Recovery
import Overseer.Proofs.Host.Positions
import Overseer.Proofs.Host.Listening
import Overseer.Proofs.Host.Furnishing
import Overseer.Proofs.Channel.Turns
import Overseer.Proofs.Channel.Diary
import Overseer.Proofs.Channel.Partings
import Overseer.Proofs.Supervision.Bookkeeping
import Overseer.Proofs.Supervision.Writing
import Overseer.Proofs.Supervision.Annals
import Overseer.Proofs.Supervision.Journal
import Overseer.Proofs.Channel.Streams
import Overseer.Proofs.Channel.Occurrences
import Overseer.Proofs.Channel.Tenancy
import Overseer.Proofs.Channel.Sessions
import Overseer.Proofs.Framing.Emission
import Overseer.Proofs.Framing.Draining
import Overseer.Proofs.Supervision.Forewarning
import Overseer.Proofs.Text.Numerals
import Overseer.Proofs.Settings.Timeouts
import Overseer.Proofs.Supervision.Tenure
import Overseer.Proofs.Supervision.Targets
import Overseer.Proofs.Supervision.Obituaries
import Overseer.Proofs.Supervision.Orphans
import Overseer.Proofs.Supervision.Verdicts
import Overseer.Proofs.CommandLine.ExitCode
