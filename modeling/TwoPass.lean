import TwoPass.Main
import TwoPass.Proofs.Success
import TwoPass.Proofs.Failure
import TwoPass.Proofs.Text.Glyphs
import TwoPass.Proofs.Text.Words
import TwoPass.Proofs.Text.Trimming
import TwoPass.Proofs.Text.Numerals
import TwoPass.Proofs.Source.References
import TwoPass.Proofs.Source.Directives
import TwoPass.Proofs.Source.Mnemonics
import TwoPass.Proofs.Source.Operands
import TwoPass.Proofs.Source.Statements
import TwoPass.Proofs.Source.Faults
import TwoPass.Proofs.Source.Names
import TwoPass.Proofs.Machine.Legality
import TwoPass.Proofs.Machine.Stream
import TwoPass.Proofs.Program.Chains
import TwoPass.Proofs.Program.Image
import TwoPass.Proofs.Program.Memory
import TwoPass.Proofs.Program.Marker
import TwoPass.Proofs.Passes.Emissions
import TwoPass.Proofs.Passes.Lockstep
import TwoPass.Proofs.Passes.Labels
import TwoPass.Proofs.Passes.Declarations
import TwoPass.Proofs.Passes.Addresses
import TwoPass.Proofs.Passes.Appending
import TwoPass.Proofs.Passes.Locations
import TwoPass.Proofs.Passes.Refusals
import TwoPass.Proofs.Passes.Renaming
import TwoPass.Proofs.Passes.Kinds
import TwoPass.Proofs.Session
import TwoPass.Proofs.Source.Lines
import TwoPass.Proofs.Passes.Numbering
import TwoPass.Proofs.Command.Files
import TwoPass.Proofs.Command.Outcome
import TwoPass.Proofs.Machine.Registers
import TwoPass.Proofs.Machine.Rules
import TwoPass.Proofs.Machine.Collisions
import TwoPass.Proofs.Source.Printing
import TwoPass.Proofs.Source.Substitution
import TwoPass.Proofs.Source.Values
import TwoPass.Proofs.Passes.Strings
import TwoPass.Proofs.Source.Grammar
import TwoPass.Proofs.Program.Outputs
import TwoPass.Proofs.Text.Hex
import TwoPass.Proofs.Program.Listing
import TwoPass.Proofs.Passes.Translation
import TwoPass.Proofs.Configuration
import TwoPass.Proofs.Symbols.Map
import TwoPass.Proofs.Symbols.Order
import TwoPass.Proofs.Strict.Steps
import TwoPass.Proofs.Strict.Reading
import TwoPass.Proofs.Strict.Assembly
import TwoPass.Proofs.Traversals
