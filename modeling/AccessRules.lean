import AccessRules.Main
import AccessRules.Proofs.Engine.Decisions
import AccessRules.Proofs.Engine.Names
import AccessRules.Proofs.Engine.Coherence
import AccessRules.Proofs.Engine.Log
import AccessRules.Proofs.Json.Sorting
import AccessRules.Proofs.Schema.Meaning
import AccessRules.Proofs.Schema.Compilation
import AccessRules.Proofs.Schema.Satisfaction
import AccessRules.Proofs.Schema.Places
import AccessRules.Proofs.Schema.Assertions
import AccessRules.Proofs.Schema.Correctness
import AccessRules.Proofs.Schema.References
import AccessRules.Proofs.Schema.MetaSchema
import AccessRules.Proofs.Schema.Siblings
import AccessRules.Proofs.Schema.Comparisons
import AccessRules.Proofs.Schema.KeyOrder
import AccessRules.Proofs.Schema.Orderless
import AccessRules.Proofs.Schema.Recompilation
import AccessRules.Proofs.Attribute.Chains
import AccessRules.Proofs.Attribute.Layers
import AccessRules.Proofs.Attribute.Distribution
import AccessRules.Proofs.Attribute.KeyOrder
import AccessRules.Proofs.Attribute.Extraction
import AccessRules.Proofs.Attribute.Pointers
import AccessRules.Proofs.Attribute.Strictness
import AccessRules.Proofs.Attribute.Refinement
import AccessRules.Proofs.Rule.Lowering
import AccessRules.Proofs.Rule.Positions
import AccessRules.Proofs.Rule.Defaults
import AccessRules.Proofs.Rule.LoweredMeaning
import AccessRules.Proofs.Rule.Contract
import AccessRules.Proofs.Rule.Extension
import AccessRules.Proofs.Rule.Merging
import AccessRules.Proofs.Rule.BareNamespaces
import AccessRules.Proofs.Rule.Conjunction
import AccessRules.Proofs.Rule.KeyOrder
import AccessRules.Proofs.Rule.Agreement
import AccessRules.Proofs.Rule.Sufficiency
import AccessRules.Proofs.Rule.Omission
import AccessRules.Proofs.Exchange.Requests
import AccessRules.Proofs.Config.RuleFiles
import AccessRules.Proofs.CommandLine.Check
import AccessRules.Proofs.Config.Layers
import AccessRules.Proofs.Calendar.Dates
import AccessRules.Proofs.Calendar.Digits
import AccessRules.Proofs.Calendar.Environment
import AccessRules.Proofs.Json.Strings
import AccessRules.Proofs.Calendar.Exchange
import AccessRules.Proofs.Decimal.Numerals
import AccessRules.Proofs.Config.Resolution
import AccessRules.Proofs.Config.Spelling
import AccessRules.Proofs.Config.Variables
import AccessRules.Proofs.Text.Utf8
import AccessRules.Proofs.Toml.Strings
import AccessRules.Proofs.Toml.Documents
import AccessRules.Proofs.Config.Rendering
