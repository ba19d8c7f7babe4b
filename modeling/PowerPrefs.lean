import PowerPrefs.Text
import PowerPrefs.Text.Newline
import PowerPrefs.Text.Blank
import PowerPrefs.Text.Everywhere
import PowerPrefs.Text.Run
import PowerPrefs.Text.Glyphless
import PowerPrefs.Text.CharSet
import PowerPrefs.Text.Category
import PowerPrefs.Text.Alphanumeric
import PowerPrefs.Text.Number
import PowerPrefs.Text.Pattern
import PowerPrefs.Text.Pattern.Search
import PowerPrefs.Text.Pattern.Manner
import PowerPrefs.Text.Pattern.Escape
import PowerPrefs.Text.Pattern.Bracket
import PowerPrefs.Text.Pattern.Reader
import PowerPrefs.Text.Quoted
import PowerPrefs.Text.Sorted
import PowerPrefs.Declaration
import PowerPrefs.Listing
import PowerPrefs.DefaultValue
import PowerPrefs.Document
import PowerPrefs.Schema
import PowerPrefs.Path
import PowerPrefs.Inputs
import PowerPrefs.FileSystem.NameTree
import PowerPrefs.FileSystem
import PowerPrefs.FileSystem.Walk
import PowerPrefs.FileSystem.Access
import PowerPrefs.Event
import PowerPrefs.Event.Directive
import PowerPrefs.Event.Filter
import PowerPrefs.Event.Line
import PowerPrefs.Failure
import PowerPrefs.Generation
import PowerPrefs.Output
import PowerPrefs.CommandLine
import PowerPrefs.CommandLine.Wording
import PowerPrefs.Command
import PowerPrefs.Text.Terminal
import PowerPrefs.Main
import PowerPrefs.Proofs.Text.Cut
import PowerPrefs.Proofs.Declaration.Greedy
import PowerPrefs.Proofs.Listing.Leftmost
import PowerPrefs.Proofs.Declaration.Front
import PowerPrefs.Proofs.Listing.Items
import PowerPrefs.Proofs.FileSystem.Leads
import PowerPrefs.Proofs.Generation.Entries
import PowerPrefs.Proofs.Path.Joined
import PowerPrefs.Proofs.Generation.Outcome
import PowerPrefs.Proofs.Schema.Reading
import PowerPrefs.Proofs.Command.Delivery
import PowerPrefs.Proofs.Command.Again
import PowerPrefs.Proofs.FileSystem.Alike
import PowerPrefs.Proofs.Generation.Endings
import PowerPrefs.Proofs.Schema.Structure
import PowerPrefs.Proofs.DefaultValue.Tidy
import PowerPrefs.Proofs.Schema.Tidy
import PowerPrefs.Proofs.Listing.Separation
import PowerPrefs.Proofs.Listing.Lines
import PowerPrefs.Proofs.Schema.Quoting
import PowerPrefs.Proofs.Text.ByteOrder
import PowerPrefs.Proofs.Text.Sorted
import PowerPrefs.Proofs.Document.Tally
import PowerPrefs.Proofs.Document.Collisions
import PowerPrefs.Proofs.Document.Hyphenation
import PowerPrefs.Proofs.DefaultValue.Folding
import PowerPrefs.Proofs.Output.Replacing
import PowerPrefs.Proofs.Generation.Events
import PowerPrefs.Proofs.CommandLine.Language
import PowerPrefs.Proofs.Path.Sameness
import PowerPrefs.Proofs.Schema.PlainKey
import PowerPrefs.Proofs.Text.OnePass
import PowerPrefs.Proofs.Schema.Scanning
import PowerPrefs.Proofs.Text.Pattern.Meaning
import PowerPrefs.Proofs.Text.Pattern.Search
