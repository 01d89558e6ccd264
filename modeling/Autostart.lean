import Autostart.CommandLine.Arguments
import Autostart.CommandLine.Invocation
import Autostart.CommandLine.Run
import Autostart.CommandWords
import Autostart.Document.Basic
import Autostart.Document.Fields
import Autostart.Document.Parse
import Autostart.Document.Storage
import Autostart.Document.Value
import Autostart.Entry.Basic
import Autostart.Entry.FieldSet
import Autostart.Environment
import Autostart.Error
import Autostart.Event
import Autostart.FileStore.Basic
import Autostart.FileStore.Change
import Autostart.FileStore.Lemmas
import Autostart.FileStore.OsError
import Autostart.Locale
import Autostart.Main
import Autostart.Path
import Autostart.Proofs.CommandLine.Lasting
import Autostart.Proofs.CommandLine.Layers
import Autostart.Proofs.CommandLine.LineByLine
import Autostart.Proofs.CommandLine.Quoting
import Autostart.Proofs.Document.Delays
import Autostart.Proofs.Document.Escaping
import Autostart.Proofs.Document.Grammar
import Autostart.Proofs.Document.Lens
import Autostart.Proofs.Document.Lists
import Autostart.Proofs.Document.Reloading
import Autostart.Proofs.Document.Rereading
import Autostart.Proofs.Document.SameValues
import Autostart.Proofs.Document.StoredTexts
import Autostart.Proofs.Document.Storing
import Autostart.Proofs.Document.Translations
import Autostart.Proofs.Document.Values
import Autostart.Proofs.Document.Writing
import Autostart.Proofs.Entry.Comparing
import Autostart.Proofs.Entry.MergedReading
import Autostart.Proofs.Entry.Merging
import Autostart.Proofs.Entry.Overwriting
import Autostart.Proofs.Entry.Preserving
import Autostart.Proofs.FileStore.Clear
import Autostart.Proofs.FileStore.Keeping
import Autostart.Proofs.FileStore.Listing
import Autostart.Proofs.FileStore.Locality
import Autostart.Proofs.FileStore.Locating
import Autostart.Proofs.FileStore.Making
import Autostart.Proofs.FileStore.Reaching
import Autostart.Proofs.FileStore.Touching
import Autostart.Proofs.FileStore.Walking
import Autostart.Proofs.Locale.Identifiers
import Autostart.Proofs.Path.Components
import Autostart.Proofs.Path.Ranks
import Autostart.Proofs.Registry.Announcing
import Autostart.Proofs.Registry.Arriving
import Autostart.Proofs.Registry.Backing
import Autostart.Proofs.Registry.Changes
import Autostart.Proofs.Registry.Confinement
import Autostart.Proofs.Registry.Debouncing
import Autostart.Proofs.Registry.Display
import Autostart.Proofs.Registry.DueSaves
import Autostart.Proofs.Registry.Failures
import Autostart.Proofs.Registry.Flushing
import Autostart.Proofs.Registry.FreeNames
import Autostart.Proofs.Registry.InStep
import Autostart.Proofs.Registry.Loading
import Autostart.Proofs.Registry.Naming
import Autostart.Proofs.Registry.NewFiles
import Autostart.Proofs.Registry.OwnWrites
import Autostart.Proofs.Registry.RankOrder
import Autostart.Proofs.Registry.Reports
import Autostart.Proofs.Registry.Rescan
import Autostart.Proofs.Registry.Restart
import Autostart.Proofs.Registry.Restoring
import Autostart.Proofs.Registry.Run
import Autostart.Proofs.Registry.SaveOrder
import Autostart.Proofs.Registry.SavePlans
import Autostart.Proofs.Registry.Scan
import Autostart.Proofs.Registry.ShadowRanks
import Autostart.Proofs.Registry.ShadowRemoval
import Autostart.Proofs.Registry.Shadows
import Autostart.Proofs.Registry.Shielding
import Autostart.Proofs.Registry.Storable
import Autostart.Proofs.Registry.SyncState
import Autostart.Proofs.Registry.Tidiness
import Autostart.Proofs.Registry.Updating
import Autostart.Proofs.Registry.UserCopies
import Autostart.Proofs.Registry.UserFiles
import Autostart.Proofs.Registry.VanishedBase
import Autostart.Proofs.Registry.VendorLines
import Autostart.Proofs.Text.Digits
import Autostart.Proofs.Text.Lines
import Autostart.Proofs.Text.Markup
import Autostart.Proofs.Text.Splitting
import Autostart.Proofs.Text.Trimming
import Autostart.Registry.Arrivals
import Autostart.Registry.Basic
import Autostart.Registry.Editing
import Autostart.Registry.Precedence
import Autostart.Registry.Saving
import Autostart.SearchPath
import Autostart.Settings.Basic
import Autostart.Settings.File
import Autostart.SortedMap
import Autostart.SortedMap.Lemmas
import Autostart.Text.CaseTable
import Autostart.Text.Chars
import Autostart.Text.Composition
import Autostart.Text.CompositionTable
import Autostart.Text.Digits
import Autostart.Text.Lowercase
import Autostart.Text.Markup
import Autostart.Text.RangeTable
import Autostart.Text.Utf8
import Autostart.Url.Basic
import Autostart.Url.Domain
import Autostart.Url.DomainTable
import Autostart.Url.Fault
import Autostart.Url.Host
import Autostart.Url.LabelTable
import Autostart.Url.Percent
import Autostart.Url.Punycode
import Autostart.Url.Segments
import Autostart.Yaml.Document
import Autostart.Yaml.Layout
import Autostart.Yaml.Node
import Autostart.Yaml.Place
import Autostart.Yaml.Scalar
import Autostart.Yaml.Tag
import Autostart.Yaml.Token
