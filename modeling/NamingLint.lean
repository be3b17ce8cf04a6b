import NamingLint.Main
import NamingLint.Proofs.NamingReports
import NamingLint.Proofs.Assembly
import NamingLint.Proofs.KeptNodes
import NamingLint.Proofs.Entries
import NamingLint.Proofs.PathNames
import NamingLint.Proofs.DirectoryWalk
import NamingLint.Proofs.CollectedFiles
import NamingLint.Proofs.RepeatedFiles
import NamingLint.Proofs.CheckReport
import NamingLint.Proofs.SelectedFiles
import NamingLint.Proofs.Arrangement
import NamingLint.Proofs.AddedImports
import NamingLint.Proofs.RootLists
import NamingLint.Proofs.JsonGrammar
import NamingLint.Proofs.JsonLexemes
import NamingLint.Proofs.JsonDecoding
import NamingLint.Proofs.JsonLayout
import NamingLint.Proofs.ReportRoundTrip
import NamingLint.Proofs.DisabledRules
import NamingLint.Proofs.PrintedLines
import NamingLint.Proofs.PlainLines
import NamingLint.Proofs.RuleLines
import NamingLint.Proofs.TextualOrder
import NamingLint.Proofs.DeclarationParts
import NamingLint.Proofs.NamelessFunctions
import NamingLint.Proofs.GrammarInvariants
import NamingLint.Proofs.ImportLayout
import NamingLint.Proofs.PathRuns
import NamingLint.Proofs.LineColumns
import NamingLint.Proofs.ReportedNames
import NamingLint.Proofs.LogSettings
import NamingLint.Proofs.LastLines
import NamingLint.Proofs.RuleNames
import NamingLint.Proofs.NameGrammars
import NamingLint.Proofs.FunctionNodes
import NamingLint.Proofs.ShownNames
import NamingLint.Proofs.DocumentOrder
import NamingLint.Proofs.WrittenCommands
import NamingLint.Proofs.SettingTables
