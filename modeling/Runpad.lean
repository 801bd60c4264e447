import Runpad.CommandLine.Parse
import Runpad.CommandLine.Refusal
import Runpad.CommandLine.Similar
import Runpad.CommandLine.Spec
import Runpad.CommandLine.Usage
import Runpad.Disk.Basic
import Runpad.Disk.Path
import Runpad.Editor.Basic
import Runpad.Editor.Commands
import Runpad.Editor.Event
import Runpad.Editor.Picture
import Runpad.Editor.Session
import Runpad.Environment
import Runpad.Gateway.Address
import Runpad.Gateway.Call
import Runpad.Gateway.Client
import Runpad.Gateway.Escape
import Runpad.Gateway.Fault
import Runpad.Gateway.Reply
import Runpad.Gateway.Transcript
import Runpad.Headless
import Runpad.Log
import Runpad.Main
import Runpad.Number.Double
import Runpad.Number.Integer
import Runpad.Program
import Runpad.Prompt
import Runpad.Remote
import Runpad.Proofs.Gateway.Alignment
import Runpad.Proofs.Gateway.Codec
import Runpad.Proofs.Gateway.Evaluation
import Runpad.Proofs.Gateway.Framing
import Runpad.Proofs.Gateway.Stream
import Runpad.Proofs.Text.Trim
import Runpad.Proofs.Text.Utf8
import Runpad.Proofs.TextArea.Flat
import Runpad.Proofs.TextArea.Operation
import Runpad.Report
import Runpad.Screen.Canvas
import Runpad.Screen.Layout
import Runpad.Screen.Rect
import Runpad.Screen.Strip
import Runpad.Settings
import Runpad.Store
import Runpad.Terminal.Keys
import Runpad.Terminal.Paint
import Runpad.Text.Blank
import Runpad.Text.Cluster
import Runpad.Text.Lines
import Runpad.Text.Parts
import Runpad.Text.Property.Cluster
import Runpad.Text.Property.Emoji
import Runpad.Text.Property.Extending
import Runpad.Text.Property.Unprintable
import Runpad.Text.Property.Width
import Runpad.Text.Quoted
import Runpad.Text.Ranges
import Runpad.Text.Truncate
import Runpad.Text.Utf8
import Runpad.Text.Width
import Runpad.TextArea.Basic
import Runpad.TextArea.Motion
import Runpad.TextArea.Viewport
import Runpad.Proofs.Editor.Play
import Runpad.Proofs.Editor.Texts
import Runpad.Proofs.Disk.Write
import Runpad.Proofs.Editor.Saving
import Runpad.Proofs.Editor.Unsaved
import Runpad.Proofs.Editor.Cancel
import Runpad.Proofs.Disk.Read
import Runpad.Proofs.Headless.Agreement
import Runpad.Proofs.Editor.Unedited
import Runpad.Proofs.Editor.Modes
import Runpad.Proofs.Text.Boundary
import Runpad.Proofs.TextArea.Grid
import Runpad.Proofs.TextArea.Built
import Runpad.Proofs.Editor.PromptLine
import Runpad.Proofs.Editor.Touches
import Runpad.Proofs.Editor.Drawing
import Runpad.Proofs.Editor.InRange
import Runpad.Proofs.Editor.Help
import Runpad.Proofs.Gateway.Submission
import Runpad.Proofs.Number.Decimal
import Runpad.Proofs.Editor.SavingAgain
import Runpad.Proofs.Disk.Target
import Runpad.Proofs.Disk.Extension
import Runpad.Proofs.Editor.Running
import Runpad.Proofs.Editor.Filing
import Runpad.Proofs.Disk.RoundTrip
import Runpad.Proofs.Editor.Directories
import Runpad.Proofs.Editor.PathEntry
import Runpad.Proofs.Text.Breaks
import Runpad.Proofs.Editor.Pasting
import Runpad.Proofs.Editor.StatusBar
import Runpad.Proofs.Editor.Redrawing
import Runpad.Proofs.Editor.DrawnTexts
import Runpad.Proofs.Editor.CursorCell
import Runpad.Proofs.Editor.CursorField
import Runpad.Proofs.Screen.Tiling
import Runpad.Proofs.Editor.DrawnSessions
import Runpad.Proofs.Editor.Pointing
import Runpad.Proofs.Editor.Ending
import Runpad.Proofs.Settings.Entries
import Runpad.Proofs.Settings.File
import Runpad.Proofs.Settings.Sources
import Runpad.Proofs.Settings.Precedence
import Runpad.Proofs.Settings.Listing
import Runpad.Proofs.Gateway.Escaping
import Runpad.Proofs.Gateway.Integers
import Runpad.Proofs.Number.Signed
