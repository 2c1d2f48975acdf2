import ResourceBundle.Main
import ResourceBundle.Manifest.Writer
import ResourceBundle.Sink.Memory
import ResourceBundle.Text.Digits
import ResourceBundle.Proofs.ManifestParts
import ResourceBundle.Proofs.DecimalText
import ResourceBundle.Proofs.MessageKeys
import ResourceBundle.Proofs.KeyDerivation
import ResourceBundle.Proofs.JsonLimits
import ResourceBundle.Proofs.JsonRereading
import ResourceBundle.Proofs.ManifestRereading
import ResourceBundle.Proofs.ActionRuns
import ResourceBundle.Proofs.NormalControls
import ResourceBundle.Proofs.Reporting
import ResourceBundle.Proofs.Recording
import ResourceBundle.Proofs.BundlePaths
import ResourceBundle.Proofs.WriteSchedule
import ResourceBundle.Proofs.StoreViews
import ResourceBundle.Proofs.FirstInsertion
import ResourceBundle.Proofs.BundleLines
import ResourceBundle.Proofs.BundleReading
import ResourceBundle.Proofs.WrittenKeys
import ResourceBundle.Proofs.NaturalLines
import ResourceBundle.Proofs.Contribution
import ResourceBundle.Proofs.AdditionalTextShape
import ResourceBundle.Proofs.AdditionalTextReplay
import ResourceBundle.Proofs.AdditionalTextMerge
import ResourceBundle.Proofs.CollectionSteps
import ResourceBundle.Proofs.CollectionOutcome
import ResourceBundle.Proofs.ActionAgreement
import ResourceBundle.Proofs.MergeAgreement
import ResourceBundle.Proofs.ProcessingAgreement
import ResourceBundle.Proofs.Preparation
import ResourceBundle.Proofs.WritingLast
import ResourceBundle.Proofs.Delivery
import ResourceBundle.Proofs.DiscoveryOrder
import ResourceBundle.Proofs.ReportedOnce
import ResourceBundle.Proofs.WholeFiles
import ResourceBundle.Proofs.PathContainment
import ResourceBundle.Proofs.LocaleParts
import ResourceBundle.Proofs.StoredLocales
import ResourceBundle.Proofs.OutputContainment
import ResourceBundle.Proofs.ModelLanguage
import ResourceBundle.Proofs.TaglessScans
import ResourceBundle.Proofs.ResolvedNames
import ResourceBundle.Proofs.ValidTrees
import ResourceBundle.Proofs.AdditionalTextValidity
import ResourceBundle.Proofs.BundlesApart
import ResourceBundle.Proofs.Utf8Text
import ResourceBundle.Proofs.ManifestLoading
import ResourceBundle.Proofs.ParserReuse
import ResourceBundle.Proofs.EscapeReading
import ResourceBundle.Proofs.AtomicWrites
import ResourceBundle.Proofs.PlainTrees
import ResourceBundle.Proofs.LookupOrder
import ResourceBundle.Proofs.LookupFailures
import ResourceBundle.Proofs.ReadableKeys
import ResourceBundle.Proofs.TranslationText
import ResourceBundle.Proofs.LocaleSpelling
import ResourceBundle.Proofs.LocaleRereading
