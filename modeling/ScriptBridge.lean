import ScriptBridge.Bridge.Api
import ScriptBridge.Bridge.Echo
import ScriptBridge.Bridge.Evaluate
import ScriptBridge.Bridge.Host
import ScriptBridge.Bridge.Render
import ScriptBridge.Bridge.State
import ScriptBridge.Bridge.System
import ScriptBridge.Callback.Names
import ScriptBridge.Callback.Registry
import ScriptBridge.Case.Basic
import ScriptBridge.Case.Error
import ScriptBridge.Case.Run
import ScriptBridge.Class.Method
import ScriptBridge.Class.Registry
import ScriptBridge.CommandLine.Arguments
import ScriptBridge.CommandLine.Run
import ScriptBridge.Data.Assoc
import ScriptBridge.Data.Comparison
import ScriptBridge.Descriptor.Basic
import ScriptBridge.Descriptor.Reader
import ScriptBridge.Error
import ScriptBridge.Files.Path
import ScriptBridge.Files.Tree
import ScriptBridge.Handle.Table
import ScriptBridge.Interaction
import ScriptBridge.Json.Basic
import ScriptBridge.Json.Printer
import ScriptBridge.Json.Reader
import ScriptBridge.Json.Record
import ScriptBridge.Json.Value
import ScriptBridge.Layout.Geometry
import ScriptBridge.Layout.Stack
import ScriptBridge.Main
import ScriptBridge.Number.Double
import ScriptBridge.Number.Notation
import ScriptBridge.Number.Shortest
import ScriptBridge.Number.Tolerance
import ScriptBridge.Number.Word
import ScriptBridge.Platform.Basic
import ScriptBridge.Platform.Event
import ScriptBridge.Platform.EventReader
import ScriptBridge.Platform.Normal
import ScriptBridge.Platform.Recorder
import ScriptBridge.Rehearsal.Class
import ScriptBridge.Rehearsal.Host
import ScriptBridge.Rehearsal.Logic
import ScriptBridge.Rehearsal.Platform
import ScriptBridge.Script.Builtin
import ScriptBridge.Script.Data
import ScriptBridge.Script.Engine
import ScriptBridge.Script.Eval
import ScriptBridge.Script.Marshal
import ScriptBridge.Script.Native
import ScriptBridge.Script.Operator
import ScriptBridge.Script.Parser
import ScriptBridge.Script.Place
import ScriptBridge.Script.Purity
import ScriptBridge.Script.Run
import ScriptBridge.Script.Simplify
import ScriptBridge.Script.Source
import ScriptBridge.Script.Text
import ScriptBridge.Script.Token
import ScriptBridge.Script.Tree
import ScriptBridge.Script.Vocabulary
import ScriptBridge.Text.Blank
import ScriptBridge.Text.Parts
import ScriptBridge.Text.Printable
import ScriptBridge.Text.Quoted
import ScriptBridge.Text.Utf8
import ScriptBridge.Value.Args
import ScriptBridge.Value.Basic
import ScriptBridge.Value.Kind
import ScriptBridge.Value.Program
import ScriptBridge.Value.Text
import ScriptBridge.Widget.Lifecycle
import ScriptBridge.Widget.Table
import ScriptBridge.Proofs.Bridge.Alike
import ScriptBridge.Proofs.Bridge.Arrangement
import ScriptBridge.Proofs.Bridge.Balance
import ScriptBridge.Proofs.Bridge.Build
import ScriptBridge.Proofs.Bridge.Callbacks
import ScriptBridge.Proofs.Bridge.Chronicle
import ScriptBridge.Proofs.Bridge.Comparison
import ScriptBridge.Proofs.Bridge.Conduct
import ScriptBridge.Proofs.Bridge.Course
import ScriptBridge.Proofs.Bridge.DispatchScope
import ScriptBridge.Proofs.Bridge.Effect
import ScriptBridge.Proofs.Bridge.ExposedName
import ScriptBridge.Proofs.Bridge.Failure
import ScriptBridge.Proofs.Bridge.FreshBuild
import ScriptBridge.Proofs.Bridge.Handout
import ScriptBridge.Proofs.Bridge.Helpers
import ScriptBridge.Proofs.Bridge.Lifecycle
import ScriptBridge.Proofs.Bridge.Log
import ScriptBridge.Proofs.Bridge.MethodCalls
import ScriptBridge.Proofs.Bridge.Mirror
import ScriptBridge.Proofs.Bridge.Naming
import ScriptBridge.Proofs.Bridge.Nesting
import ScriptBridge.Proofs.Bridge.Numbering
import ScriptBridge.Proofs.Bridge.PinAccount
import ScriptBridge.Proofs.Bridge.Pins
import ScriptBridge.Proofs.Bridge.Process
import ScriptBridge.Proofs.Bridge.Purpose
import ScriptBridge.Proofs.Bridge.Recast
import ScriptBridge.Proofs.Bridge.Refusal
import ScriptBridge.Proofs.Bridge.Rendered
import ScriptBridge.Proofs.Bridge.ReservedNames
import ScriptBridge.Proofs.Bridge.ScopeAccount
import ScriptBridge.Proofs.Bridge.Shift
import ScriptBridge.Proofs.Bridge.ShippedPrograms
import ScriptBridge.Proofs.Bridge.Sketch
import ScriptBridge.Proofs.Bridge.Skipping
import ScriptBridge.Proofs.Bridge.Startable
import ScriptBridge.Proofs.Bridge.Steady
import ScriptBridge.Proofs.Bridge.Tour
import ScriptBridge.Proofs.Bridge.Trace
import ScriptBridge.Proofs.Callback.Mentions
import ScriptBridge.Proofs.Case.Independence
import ScriptBridge.Proofs.Class.Arities
import ScriptBridge.Proofs.Class.Binding
import ScriptBridge.Proofs.Class.Discovery
import ScriptBridge.Proofs.Class.Resolution
import ScriptBridge.Proofs.Class.Seen
import ScriptBridge.Proofs.CommandLine.Line
import ScriptBridge.Proofs.CommandLine.Transcript
import ScriptBridge.Proofs.Data.Sorted
import ScriptBridge.Proofs.Descriptor.Canonical
import ScriptBridge.Proofs.Descriptor.Logic
import ScriptBridge.Proofs.Descriptor.Shipping
import ScriptBridge.Proofs.Files.Path
import ScriptBridge.Proofs.Handle.Account
import ScriptBridge.Proofs.Handle.History
import ScriptBridge.Proofs.Handle.Lifetime
import ScriptBridge.Proofs.Handle.Lookup
import ScriptBridge.Proofs.Handle.Shift
import ScriptBridge.Proofs.Handle.Steady
import ScriptBridge.Proofs.Json.Reading
import ScriptBridge.Proofs.Json.ValueForm
import ScriptBridge.Proofs.Layout.Block
import ScriptBridge.Proofs.Layout.Extent
import ScriptBridge.Proofs.Layout.Offsets
import ScriptBridge.Proofs.Layout.Stack
import ScriptBridge.Proofs.Platform.Assets
import ScriptBridge.Proofs.Platform.EventForm
import ScriptBridge.Proofs.Platform.NormalForm
import ScriptBridge.Proofs.Platform.Recorder
import ScriptBridge.Proofs.Platform.Recording
import ScriptBridge.Proofs.Platform.Shift
import ScriptBridge.Proofs.Script.Marshal
import ScriptBridge.Proofs.Script.Words
import ScriptBridge.Proofs.Text.Utf8
import ScriptBridge.Proofs.Widget.Fresh
import ScriptBridge.Proofs.Widget.History
import ScriptBridge.Proofs.Widget.Lookup
import ScriptBridge.Proofs.Widget.Naming
import ScriptBridge.Proofs.Widget.Shift
