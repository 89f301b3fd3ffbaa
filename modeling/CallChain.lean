import CallChain.Main
import CallChain.Proofs.Faithful
import CallChain.Proofs.Identity
import CallChain.Proofs.References
import CallChain.Proofs.Sessions
import CallChain.Value.Conversion
import CallChain.Value.Spelled
import CallChain.Proofs.Delivery
import CallChain.Json.Reader
import CallChain.Proofs.Numerals
import CallChain.Proofs.Lossless
import CallChain.Proofs.Brackets
import CallChain.Proofs.Nesting
import CallChain.Proofs.Balance
import CallChain.Proofs.Invisible
import CallChain.Proofs.LayoutRules
import CallChain.Proofs.Refusals
import CallChain.Proofs.DemoChain
import CallChain.Proofs.Lockstep
import CallChain.Proofs.Unplaced
import CallChain.Proofs.Renaming
import CallChain.Proofs.Sharing
import CallChain.Proofs.SideBySide
import CallChain.Proofs.Signatures
import CallChain.Proofs.ByName
import CallChain.Proofs.Ledger
import CallChain.Proofs.Askings
import CallChain.Proofs.Keys
import CallChain.Proofs.Numbering
import CallChain.Proofs.Containment
import CallChain.Proofs.Emission
