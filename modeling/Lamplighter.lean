import Lamplighter.Animation
import Lamplighter.Animation.Codec
import Lamplighter.Binary32
import Lamplighter.Binary32.Circular
import Lamplighter.Clock
import Lamplighter.Editor
import Lamplighter.Editor.Codec
import Lamplighter.Engine
import Lamplighter.FileTree
import Lamplighter.Geometry
import Lamplighter.Grid
import Lamplighter.Grid.Codec
import Lamplighter.Headless
import Lamplighter.Journal
import Lamplighter.Journal.Editor
import Lamplighter.Journal.Log
import Lamplighter.Journal.Session
import Lamplighter.Journal.World
import Lamplighter.Json.Codec
import Lamplighter.Json.Diagnosis
import Lamplighter.Json.Double
import Lamplighter.Json.Fault
import Lamplighter.Json.Lexeme
import Lamplighter.Json.Numeral
import Lamplighter.Json.Printing
import Lamplighter.Json.Quotation
import Lamplighter.Json.Reading
import Lamplighter.Json.Token
import Lamplighter.Json.Value
import Lamplighter.Level
import Lamplighter.Level.Codec
import Lamplighter.LevelPack
import Lamplighter.Main
import Lamplighter.Medal
import Lamplighter.Medal.Codec
import Lamplighter.Polygon
import Lamplighter.Pose
import Lamplighter.Pose.Codec
import Lamplighter.Program
import Lamplighter.Program.Codec
import Lamplighter.Program.Cursor
import Lamplighter.Program.Diagnosis
import Lamplighter.Projection
import Lamplighter.Scene
import Lamplighter.Scene.Painter
import Lamplighter.Scene.Tessellation
import Lamplighter.Session
import Lamplighter.Session.Codec
import Lamplighter.Session.View
import Lamplighter.Settings
import Lamplighter.Settings.Codec
import Lamplighter.Surface
import Lamplighter.Terminal
import Lamplighter.Unicode.Combining
import Lamplighter.Unicode.Invisible
import Lamplighter.Unicode.Range
import Lamplighter.Unicode.Unassigned
import Lamplighter.World
import Lamplighter.Proofs.Cursor.Unrolling
import Lamplighter.Proofs.Engine.Tick
import Lamplighter.Proofs.Engine.Run
import Lamplighter.Proofs.Grid.Light
import Lamplighter.Proofs.World.Load
import Lamplighter.Proofs.World.Play
import Lamplighter.Proofs.Medal.Keeping
import Lamplighter.Proofs.Session.Tick
import Lamplighter.Proofs.Session.History
import Lamplighter.Proofs.Session.Scoring
import Lamplighter.Proofs.Session.Checked
import Lamplighter.Overflow
import Lamplighter.Proofs.Session.Protocol
import Lamplighter.Proofs.Session.Replay
import Lamplighter.Proofs.World.Climb
import Lamplighter.Proofs.Session.Counting
import Lamplighter.Proofs.Json.Numeral
import Lamplighter.Proofs.Json.Scanning
import Lamplighter.Proofs.Json.Quotation
import Lamplighter.Proofs.Json.RoundTrip
import Lamplighter.Proofs.Program.RoundTrip
import Lamplighter.Proofs.Grid.Cells
import Lamplighter.Proofs.Grid.Export
import Lamplighter.Proofs.Editor.Editing
import Lamplighter.Proofs.Scene.Sections
import Lamplighter.Proofs.Scene.Painting
import Lamplighter.Proofs.Engine.Progress
import Lamplighter.Proofs.World.Showing
import Lamplighter.Proofs.Session.Showing
import Lamplighter.Proofs.Level.Playable
import Lamplighter.Proofs.World.Export
import Lamplighter.Proofs.Editor.Copying
import Lamplighter.Proofs.Editor.Loading
import Lamplighter.Proofs.Engine.Checked
import Lamplighter.Proofs.Engine.Clock
import Lamplighter.Proofs.Engine.Schedule
import Lamplighter.Proofs.Engine.Timetable
import Lamplighter.Proofs.Headless.Playing
import Lamplighter.Proofs.Headless.Report
import Lamplighter.Proofs.Unicode.ByteOrder
import Lamplighter.Proofs.Json.Codec
import Lamplighter.Proofs.Json.Layout
import Lamplighter.Proofs.Medal.RoundTrip
import Lamplighter.Proofs.Editor.Exporting
import Lamplighter.Proofs.Level.RoundTrip
import Lamplighter.Proofs.Scene.Anchoring
import Lamplighter.Proofs.Session.Painting
import Lamplighter.Proofs.Cursor.Settling
import Lamplighter.Proofs.Medal.Recording
import Lamplighter.Proofs.Editor.Picking
import Lamplighter.Proofs.Cursor.Nesting
import Lamplighter.Proofs.Scene.Slicing
import Lamplighter.Proofs.Scene.Layering
import Lamplighter.Proofs.Binary32.TotalOrder
import Lamplighter.Proofs.Scene.Ordering
import Lamplighter.Proofs.Polygon.Crossing
import Lamplighter.Proofs.Binary32.Negation
import Lamplighter.Proofs.Projection.Turning
