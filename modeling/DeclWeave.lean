import DeclWeave.Body.Mention
import DeclWeave.Body.Scope
import DeclWeave.Body.Substitution
import DeclWeave.Body.TailReturn
import DeclWeave.CommandLine.Basic
import DeclWeave.CommandLine.Log
import DeclWeave.CommandLine.Program
import DeclWeave.CommandLine.Run
import DeclWeave.Decimal.Binary64
import DeclWeave.Decimal.Notation
import DeclWeave.Decimal.Shortest
import DeclWeave.Decl.Member
import DeclWeave.Decl.Printer
import DeclWeave.Decl.Reader
import DeclWeave.Decl.TypeDecl
import DeclWeave.Decl.TypeRef
import DeclWeave.Diagnostic.Fault
import DeclWeave.Diagnostic.Stream
import DeclWeave.Document.Basic
import DeclWeave.Document.Expansion
import DeclWeave.Document.Printer
import DeclWeave.Donor.Bank
import DeclWeave.Donor.Chain
import DeclWeave.Donor.Inclusion
import DeclWeave.Expansion.Ancestry
import DeclWeave.Expansion.Basic
import DeclWeave.Expansion.Emit
import DeclWeave.Expansion.Order
import DeclWeave.Expansion.Synthesis
import DeclWeave.Filter.Basic
import DeclWeave.Filter.Glob
import DeclWeave.Form.Basic
import DeclWeave.Form.Lexer
import DeclWeave.Form.Printer
import DeclWeave.Form.Reader
import DeclWeave.Form.Span
import DeclWeave.Form.Token
import DeclWeave.Form.Walk
import DeclWeave.Forward.Basic
import DeclWeave.Forward.Delegate
import DeclWeave.Forward.Lineage
import DeclWeave.Graph.DepthFirst
import DeclWeave.Graph.Fresh
import DeclWeave.Main
import DeclWeave.Pattern.Assembly
import DeclWeave.Pattern.Automaton
import DeclWeave.Pattern.Basic
import DeclWeave.Pattern.Bracket
import DeclWeave.Pattern.Escape
import DeclWeave.Pattern.Flags
import DeclWeave.Pattern.Normal
import DeclWeave.Pattern.Property
import DeclWeave.Pattern.Reader
import DeclWeave.Pattern.Search
import DeclWeave.Proofs.AttributedFindings
import DeclWeave.Proofs.ClassSurroundings
import DeclWeave.Proofs.ComputedFields
import DeclWeave.Proofs.ConstructorLayout
import DeclWeave.Proofs.DeclarationLayouts
import DeclWeave.Proofs.DemandCircles
import DeclWeave.Proofs.DepthFirstOrder
import DeclWeave.Proofs.DerivedConstructors
import DeclWeave.Proofs.DonatedAccessors
import DeclWeave.Proofs.DonorChains
import DeclWeave.Proofs.DonorInclusion
import DeclWeave.Proofs.ExpansionOrder
import DeclWeave.Proofs.ExpansionPass
import DeclWeave.Proofs.FailureAccounts
import DeclWeave.Proofs.FilterMeaning
import DeclWeave.Proofs.FinishedTypes
import DeclWeave.Proofs.FormPlaces
import DeclWeave.Proofs.ForwardedMembers
import DeclWeave.Proofs.ForwardedTypes
import DeclWeave.Proofs.GlobMatches
import DeclWeave.Proofs.HandWrittenMembers
import DeclWeave.Proofs.IgnoredDirectives
import DeclWeave.Proofs.InheritanceCircles
import DeclWeave.Proofs.InitializedStorage
import DeclWeave.Proofs.InstantiatedTypes
import DeclWeave.Proofs.InterleavedWeaves
import DeclWeave.Proofs.Isolation
import DeclWeave.Proofs.KeptDirectives
import DeclWeave.Proofs.LegibleMembers
import DeclWeave.Proofs.LinesOfDescent
import DeclWeave.Proofs.Marks
import DeclWeave.Proofs.NameClaims
import DeclWeave.Proofs.NamesInPlace
import DeclWeave.Proofs.NestedBrackets
import DeclWeave.Proofs.NoClobber
import DeclWeave.Proofs.OpenScopes
import DeclWeave.Proofs.Outcome
import DeclWeave.Proofs.PlanMembers
import DeclWeave.Proofs.PlannedConstructors
import DeclWeave.Proofs.ReadDeclarations
import DeclWeave.Proofs.ReadableExpansions
import DeclWeave.Proofs.ReadableSources
import DeclWeave.Proofs.RefusedDirectives
import DeclWeave.Proofs.RemainingShields
import DeclWeave.Proofs.ScannedBodies
import DeclWeave.Proofs.ScannedDeclarations
import DeclWeave.Proofs.ScannedMembers
import DeclWeave.Proofs.ScannedPlans
import DeclWeave.Proofs.ScopeStretches
import DeclWeave.Proofs.SecondExpansion
import DeclWeave.Proofs.SettledMembers
import DeclWeave.Proofs.ShedDirectives
import DeclWeave.Proofs.ShieldedScopes
import DeclWeave.Proofs.SpelledAtoms
import DeclWeave.Proofs.SplicedScopes
import DeclWeave.Proofs.SynthesisLocality
import DeclWeave.Proofs.SynthesizedNames
import DeclWeave.Proofs.TailPositions
import DeclWeave.Proofs.TokenSpans
import DeclWeave.Proofs.TokenStretches
import DeclWeave.Proofs.WeaveContents
import DeclWeave.Proofs.WriteAccess
import DeclWeave.Proofs.WrittenDeclarations
import DeclWeave.Proofs.WrittenForms
import DeclWeave.Proofs.WrittenLines
import DeclWeave.Proofs.WrittenNumbers
import DeclWeave.Synthesis.Accessor
import DeclWeave.Synthesis.Capability
import DeclWeave.Synthesis.Constructor
import DeclWeave.Synthesis.Registry
import DeclWeave.Synthesis.Settings
import DeclWeave.Synthesis.Signal
import DeclWeave.Text.Blank
import DeclWeave.Text.CharRange
import DeclWeave.Text.CharSet
import DeclWeave.Text.Letter
import DeclWeave.Text.Lines
import DeclWeave.Text.Numeral
import DeclWeave.Text.Shown
import DeclWeave.Text.Utf8
import DeclWeave.Text.Visible
import DeclWeave.Unicode.Age
import DeclWeave.Unicode.Case
import DeclWeave.Unicode.Category
import DeclWeave.Unicode.Partition
import DeclWeave.Unicode.Script
import DeclWeave.Unicode.Segmentation
import DeclWeave.Unicode.Trait
import DeclWeave.Weave.Basic
import DeclWeave.Weave.Splice
