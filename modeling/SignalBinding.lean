import SignalBinding.Fragment.Shelf
import SignalBinding.Log.Message
import SignalBinding.Main
import SignalBinding.Proofs.TypeGrammar
import SignalBinding.Proofs.TypeSoundness
import SignalBinding.Proofs.TypeReaders
import SignalBinding.Proofs.TypeCompleteness
import SignalBinding.Proofs.BuiltinText
import SignalBinding.Proofs.ParameterLists
import SignalBinding.Proofs.SignalFate
import SignalBinding.Proofs.DeclaredAsDefined
import SignalBinding.Proofs.BridgeReport
import SignalBinding.Proofs.FailureIsolation
import SignalBinding.Proofs.NamesOnly
import SignalBinding.Proofs.DescriptionForm
import SignalBinding.Proofs.DescriptionReading
import SignalBinding.Proofs.NullEntries
import SignalBinding.Proofs.SignalBatch
import SignalBinding.Proofs.NestedText
import SignalBinding.Proofs.FileTrees
import SignalBinding.Proofs.FileContents
import SignalBinding.Proofs.RunParts
import SignalBinding.Proofs.CommandSteps
import SignalBinding.Proofs.LogFiles
import SignalBinding.Proofs.RunRecords
import SignalBinding.Proofs.OutputsLast
import SignalBinding.Proofs.OutputTexts
import SignalBinding.Proofs.CommandAgreement
import SignalBinding.Proofs.StandardOutput
import SignalBinding.Proofs.BlankLines
import SignalBinding.Proofs.RecoveredDefinitions
import SignalBinding.Proofs.OverridingTemplates
import SignalBinding.Proofs.PureTemplates
import SignalBinding.Proofs.AlikeTrees
import SignalBinding.Proofs.AlikeWorkspaces
import SignalBinding.Proofs.ToldRecords
import SignalBinding.Proofs.AgreeingRuns
import SignalBinding.Proofs.VerboseFlag
import SignalBinding.Proofs.Verbosity
import SignalBinding.Proofs.UsedTemplates
import SignalBinding.Proofs.KeptSettings
import SignalBinding.Proofs.PreparedRuns
import SignalBinding.Proofs.ProjectHistory
import SignalBinding.Proofs.DescriptionChecks
import SignalBinding.Proofs.FirstViolation
import SignalBinding.Proofs.LambdaNames
import SignalBinding.Proofs.LogHistory
import SignalBinding.Proofs.RepeatedRuns
import SignalBinding.Proofs.TypeFormers
import SignalBinding.Proofs.ArrayLengths
import SignalBinding.Proofs.DistinctTypes
import SignalBinding.Proofs.LayeredTables
import SignalBinding.Proofs.GenerationRecords
import SignalBinding.Proofs.ParameterTexts
import SignalBinding.Proofs.LoadedSettings
import SignalBinding.Proofs.LoadedBridges
import SignalBinding.Proofs.HelperNames
import SignalBinding.Proofs.BlockTexts
import SignalBinding.Proofs.RespacedTexts
import SignalBinding.Proofs.ReadingOrder
