import SearchBox.Connection.Engine
import SearchBox.Journal.Recorder
import SearchBox.Main
import SearchBox.Placeholders
import SearchBox.Proofs.RecordedWork
import SearchBox.Proofs.SearchComposition
import SearchBox.Proofs.ShapeChoice
import SearchBox.Proofs.TokenLayout
import SearchBox.Proofs.WrittenSearch
import SearchBox.Service
import SearchBox.Proofs.FilterGroups
import SearchBox.Proofs.FilterMeaning
import SearchBox.Proofs.FlatFilters
import SearchBox.Proofs.CompiledForm
import SearchBox.Proofs.PredicateRuns
import SearchBox.Proofs.SearchRefusal
import SearchBox.FilterMethod
import SearchBox.Proofs.FilterRuns
import SearchBox.Proofs.QuotedParts
import SearchBox.Proofs.SearchKeys
import SearchBox.GridMethod
import SearchBox.FilteringWork
import SearchBox.Proofs.ShapeExtents
import SearchBox.Proofs.RefusedRuns
import SearchBox.Proofs.GridSetup
import SearchBox.Proofs.AdvertisedKey
import SearchBox.Proofs.PairedRuns
import SearchBox.Proofs.Numerals
import SearchBox.Proofs.FilterRefusals
import SearchBox.Proofs.TokenLists
import SearchBox.Proofs.ContainedText
import SearchBox.Proofs.SetMembership
import SearchBox.Proofs.SpelledValues
import SearchBox.Proofs.Debugging
import SearchBox.Proofs.SearchRecords
import SearchBox.Proofs.SearchForms
import SearchBox.Proofs.QuotedTexts
import SearchBox.Proofs.Descriptions
import SearchBox.Proofs.ConnectionParts
import SearchBox.Proofs.PercentCodes
import SearchBox.Proofs.WrittenAddress
import SearchBox.Proofs.ConfiguredKey
import SearchBox.Proofs.ExpressionMatches
