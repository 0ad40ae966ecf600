import Phrasebook.Main
import Phrasebook.Engine.Step
import Phrasebook.Proofs.Template.Rendering
import Phrasebook.Proofs.Engine.Actions
import Phrasebook.Proofs.Engine.RuleCache
import Phrasebook.Proofs.Engine.AuditTrail
import Phrasebook.Proofs.Engine.MissReports
import Phrasebook.Proofs.Engine.Shortcuts
import Phrasebook.Proofs.Template.Grammar
import Phrasebook.Proofs.Json.Sequences
import Phrasebook.Proofs.Template.Parsing
import Phrasebook.Proofs.Template.Filling
import Phrasebook.Proofs.Catalog.Duplicates
import Phrasebook.Proofs.Store.Isolation
import Phrasebook.Proofs.Store.LastWrite
import Phrasebook.Proofs.CommandLine.TranslationReport
import Phrasebook.Proofs.CommandLine.SectionOption
import Phrasebook.Proofs.Catalog.RoundTrip
import Phrasebook.Proofs.Number.IntegerText
import Phrasebook.Proofs.Plural.Slots
import Phrasebook.Proofs.Template.Selection
import Phrasebook.Proofs.CommandLine.PluralSlot
import Phrasebook.Proofs.Catalog.Inspection
import Phrasebook.Proofs.Engine.CleanCatalog
import Phrasebook.Proofs.Engine.Parameters
import Phrasebook.Proofs.Plural.Forms
import Phrasebook.Proofs.Catalog.Coverage
import Phrasebook.Proofs.Catalog.MarkedByte
import Phrasebook.Proofs.Plural.LastDigits
import Phrasebook.Proofs.Number.Display
import Phrasebook.Proofs.Plural.VisibleDigits
import Phrasebook.Proofs.Template.Openings
import Phrasebook.Proofs.Number.Positional
import Phrasebook.Proofs.Engine.NamedParameters
import Phrasebook.Proofs.Registry.Registrations
import Phrasebook.Proofs.Catalog.Findings
import Phrasebook.Proofs.Catalog.EntryShape
import Phrasebook.Proofs.Number.ReadBack
import Phrasebook.Proofs.Plural.Signs
