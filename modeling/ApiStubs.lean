import ApiStubs.Batch
import ApiStubs.Calendar
import ApiStubs.Command.Options
import ApiStubs.Command.Request
import ApiStubs.Command.Run
import ApiStubs.Compile
import ApiStubs.ConfigKey
import ApiStubs.Configuration
import ApiStubs.Decimal.Binary64
import ApiStubs.Decimal.Digits
import ApiStubs.Decimal.Literal
import ApiStubs.Decimal.Shortest
import ApiStubs.Description
import ApiStubs.Draw
import ApiStubs.Error
import ApiStubs.Host
import ApiStubs.Job
import ApiStubs.Journal
import ApiStubs.Json.Reader
import ApiStubs.Json.Writer
import ApiStubs.Log
import ApiStubs.Main
import ApiStubs.Parameter
import ApiStubs.Path
import ApiStubs.PathTemplate
import ApiStubs.Pointer
import ApiStubs.Proofs.Batch.Attempt
import ApiStubs.Proofs.Batch.Directory
import ApiStubs.Proofs.Batch.Found
import ApiStubs.Proofs.Batch.Isolation
import ApiStubs.Proofs.Batch.Outputs
import ApiStubs.Proofs.Below
import ApiStubs.Proofs.Comparison
import ApiStubs.Proofs.Compile.Bounds
import ApiStubs.Proofs.Compile.Chance
import ApiStubs.Proofs.Compile.FileNames
import ApiStubs.Proofs.Compile.Identifiers
import ApiStubs.Proofs.Compile.Inlining
import ApiStubs.Proofs.Compile.Location
import ApiStubs.Proofs.Compile.Nulls
import ApiStubs.Proofs.Compile.Output
import ApiStubs.Proofs.Compile.Reading
import ApiStubs.Proofs.Compile.Refusal
import ApiStubs.Proofs.Compile.Run
import ApiStubs.Proofs.Compile.Simulation
import ApiStubs.Proofs.Compile.Slots
import ApiStubs.Proofs.Compile.Stubs
import ApiStubs.Proofs.Components
import ApiStubs.Proofs.ConfigFields
import ApiStubs.Proofs.Configuration.Layers
import ApiStubs.Proofs.Configuration.Loaded
import ApiStubs.Proofs.Description
import ApiStubs.Proofs.Digits
import ApiStubs.Proofs.Drawing
import ApiStubs.Proofs.Ends
import ApiStubs.Proofs.Entries
import ApiStubs.Proofs.Fields
import ApiStubs.Proofs.Headers
import ApiStubs.Proofs.JsonCharacters
import ApiStubs.Proofs.JsonConsumed
import ApiStubs.Proofs.JsonContent
import ApiStubs.Proofs.JsonNumber
import ApiStubs.Proofs.JsonRoundTrip
import ApiStubs.Proofs.JsonText
import ApiStubs.Proofs.Location
import ApiStubs.Proofs.Origin
import ApiStubs.Proofs.Parameter
import ApiStubs.Proofs.Part
import ApiStubs.Proofs.Path
import ApiStubs.Proofs.Pointer
import ApiStubs.Proofs.Publication
import ApiStubs.Proofs.Publish
import ApiStubs.Proofs.Ran
import ApiStubs.Proofs.Reading
import ApiStubs.Proofs.Reference
import ApiStubs.Proofs.Response
import ApiStubs.Proofs.Returns
import ApiStubs.Proofs.Role
import ApiStubs.Proofs.Schema.Chance
import ApiStubs.Proofs.Schema.Conformance
import ApiStubs.Proofs.Schema.Drawn
import ApiStubs.Proofs.Schema.Expansion
import ApiStubs.Proofs.Schema.Form
import ApiStubs.Proofs.Schema.Inlining
import ApiStubs.Proofs.Schema.Unfolding
import ApiStubs.Proofs.Simulation.Basic
import ApiStubs.Proofs.Simulation.Body
import ApiStubs.Proofs.Simulation.Edited
import ApiStubs.Proofs.Simulation.Parameter
import ApiStubs.Proofs.StatusText
import ApiStubs.Proofs.Store.Overlay
import ApiStubs.Proofs.Store.Replace
import ApiStubs.Proofs.Store.Tree
import ApiStubs.Proofs.StubDocument
import ApiStubs.Proofs.Written
import ApiStubs.Proofs.WrittenNumber
import ApiStubs.Proofs.Yaml.Node
import ApiStubs.Proofs.Yaml.Value
import ApiStubs.Publish
import ApiStubs.Response
import ApiStubs.Settings
import ApiStubs.Source
import ApiStubs.Store.Basic
import ApiStubs.Store.Replace
import ApiStubs.Stub
import ApiStubs.Synthesis
import ApiStubs.Terminal
import ApiStubs.Text.Character
import ApiStubs.Text.Case
import ApiStubs.Text.Cased
import ApiStubs.Text.Hex
import ApiStubs.Text.Printable
import ApiStubs.Text.Quoted
import ApiStubs.Text.Split
import ApiStubs.Url
import ApiStubs.Value.Basic
import ApiStubs.Value.Display
import ApiStubs.Value.Entries
import ApiStubs.Yaml.Cursor
import ApiStubs.Yaml.Document
import ApiStubs.Yaml.Node
import ApiStubs.Yaml.Scalar
import ApiStubs.Yaml.Tag
import ApiStubs.Yaml.Text
import ApiStubs.Yaml.Token
import ApiStubs.Proofs.Configuration.Stored
import ApiStubs.Proofs.Configuration.Change
import ApiStubs.Proofs.Command.Run
import ApiStubs.Proofs.Command.SetConfig
import ApiStubs.Proofs.Command.ResetConfig
import ApiStubs.Proofs.Walk
import ApiStubs.Proofs.Merge
import ApiStubs.Proofs.BodyFile
import ApiStubs.Proofs.PathTemplate.Cut
import ApiStubs.Proofs.PathTemplate.Fill
import ApiStubs.Proofs.ExampleText
import ApiStubs.Proofs.Store.Atomic
import ApiStubs.Proofs.Schema.Skeleton
import ApiStubs.Proofs.Compile.Examples
import ApiStubs.Proofs.Store.Asked
import ApiStubs.Proofs.OutputPlaces
import ApiStubs.Proofs.ServerUrl
import ApiStubs.Proofs.ServerPath
import ApiStubs.Proofs.Store.Repeat
import ApiStubs.Proofs.Configuration.Accepted
import ApiStubs.Proofs.Command.RepeatConfig
import ApiStubs.Proofs.Compile.Failures
import ApiStubs.Proofs.Command.Opening
import ApiStubs.Proofs.Command.Preview
import ApiStubs.Proofs.Compile.Naming
import ApiStubs.Proofs.IntegerText
import ApiStubs.Proofs.ItemPlace
import ApiStubs.Proofs.Compile.Status
