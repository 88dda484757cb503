import PanelMenu.CommandLine.Options
import PanelMenu.CommandLine.Reading
import PanelMenu.Config.Decoding
import PanelMenu.Config.Lookup
import PanelMenu.Config.Settings
import PanelMenu.Config.Warning
import PanelMenu.Console.View
import PanelMenu.Decoding.Mismatch
import PanelMenu.Error
import PanelMenu.Files.Basic
import PanelMenu.Files.Fault
import PanelMenu.Files.Path
import PanelMenu.Files.Writing
import PanelMenu.Json.Value
import PanelMenu.Main
import PanelMenu.Menu.Build
import PanelMenu.Menu.Document
import PanelMenu.Menu.Fault
import PanelMenu.Menu.Hook
import PanelMenu.Menu.Record
import PanelMenu.Menu.Registry
import PanelMenu.Menu.Spec
import PanelMenu.Menu.Tree
import PanelMenu.Menu.View
import PanelMenu.Navigation.Event
import PanelMenu.Navigation.Input
import PanelMenu.Navigation.Key
import PanelMenu.Navigation.Navigator
import PanelMenu.Number.Binary64
import PanelMenu.Number.Decimal
import PanelMenu.Number.Fraction
import PanelMenu.Panel.Bitmap
import PanelMenu.Panel.Framebuffer
import PanelMenu.Panel.Geometry
import PanelMenu.Panel.Renderer
import PanelMenu.Program
import PanelMenu.Report.Line
import PanelMenu.Report.Record
import PanelMenu.Report.Verbosity
import PanelMenu.Session.Journal
import PanelMenu.Session.Observer
import PanelMenu.Session.Renderer
import PanelMenu.Session.Run
import PanelMenu.Session.World
import PanelMenu.Text.Blank
import PanelMenu.Text.Columns
import PanelMenu.Text.Columns.Table
import PanelMenu.Text.EditDistance
import PanelMenu.Text.Lines
import PanelMenu.Text.Printable
import PanelMenu.Text.Quoted
import PanelMenu.Text.Truncate
import PanelMenu.Toml.Document
import PanelMenu.Toml.Fault
import PanelMenu.Toml.Item
import PanelMenu.Toml.Letter
import PanelMenu.Toml.Scalar
import PanelMenu.Toml.Table
import PanelMenu.Toml.Text
import PanelMenu.Toml.Value
import PanelMenu.Yaml.Composition
import PanelMenu.Yaml.Fold
import PanelMenu.Yaml.Layout
import PanelMenu.Yaml.Mark
import PanelMenu.Yaml.Node
import PanelMenu.Yaml.Property
import PanelMenu.Yaml.Resolution
import PanelMenu.Yaml.Scalar
import PanelMenu.Yaml.Spot
import PanelMenu.Yaml.Token
import PanelMenu.Proofs.NavigatorStep
import PanelMenu.Proofs.CursorChain
import PanelMenu.Proofs.MenuPath
import PanelMenu.Proofs.TreeLayout
import PanelMenu.Proofs.StackMachine
import PanelMenu.Proofs.StackSimulation
import PanelMenu.Proofs.SessionFold
import PanelMenu.Proofs.SessionTranscript
import PanelMenu.Proofs.SessionProtocol
import PanelMenu.Proofs.MenuPlaces
import PanelMenu.Proofs.BuildGrowth
import PanelMenu.Proofs.EventJournal
import PanelMenu.Proofs.TreeMirror
import PanelMenu.Proofs.HookBrackets
import PanelMenu.Proofs.FileWriting
import PanelMenu.Proofs.PanelPicture
import PanelMenu.Proofs.SessionInvariant
import PanelMenu.Proofs.PanelSession
import PanelMenu.Proofs.Painting
import PanelMenu.Proofs.PanelPixels
import PanelMenu.Proofs.BitmapReading
import PanelMenu.Proofs.JsonReading
import PanelMenu.Proofs.RecordStream
import PanelMenu.Proofs.Registrations
import PanelMenu.Proofs.HandlerRuns
import PanelMenu.Proofs.MenuNodes
import PanelMenu.Proofs.MenuReading
import PanelMenu.Proofs.SessionOutput
import PanelMenu.Proofs.ScriptedProgram
import PanelMenu.Proofs.SettingsFile
import PanelMenu.Proofs.SettingsLayers
import PanelMenu.Proofs.ResumedSession
import PanelMenu.Proofs.BareNavigation
import PanelMenu.Proofs.Forest
import PanelMenu.Proofs.TreeCalls
import PanelMenu.Proofs.SettingsFallback
import PanelMenu.Proofs.Reachable
import PanelMenu.Proofs.SignedSteps
import PanelMenu.Proofs.Excursion
import PanelMenu.Proofs.SelectionCircle
import PanelMenu.Proofs.WayOut
import PanelMenu.Proofs.EveryEntry
import PanelMenu.Proofs.RefusedNames
import PanelMenu.Proofs.ColumnCount
import PanelMenu.Proofs.Truncation
import PanelMenu.Proofs.Edits
import PanelMenu.Proofs.EditTable
import PanelMenu.Proofs.SuggestedKey
import PanelMenu.Proofs.LettersLeft
import PanelMenu.Proofs.WrittenKeys
import PanelMenu.Proofs.KeyedTables
import PanelMenu.Proofs.IgnoredKeys
import PanelMenu.Proofs.BareItems
import PanelMenu.Proofs.ExtendedSettings
import PanelMenu.Proofs.KeyPlaces
import PanelMenu.Proofs.WarningPlaces
import PanelMenu.Proofs.LineFeeds
import PanelMenu.Proofs.IdleVariables
import PanelMenu.Proofs.PanelLifecycle
import PanelMenu.Proofs.MenuRecords
