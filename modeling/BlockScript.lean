import BlockScript.Asset.Shelf
import BlockScript.Demonstration
import BlockScript.Main
import BlockScript.Proofs.ProcedureCalls
import BlockScript.Proofs.ListScopes
import BlockScript.Proofs.Declarations
import BlockScript.Proofs.UnbrokenScripts
import BlockScript.Proofs.DeclaredSettings
import BlockScript.Proofs.Loops
import BlockScript.Proofs.Changes
import BlockScript.Proofs.Chunks
import BlockScript.Proofs.LoopCounts
import BlockScript.Proofs.SharedNames
import BlockScript.Proofs.Mentions
import BlockScript.Proofs.MutedSprites
import BlockScript.Proofs.References
import BlockScript.Proofs.Quotation
import BlockScript.Proofs.Messages
import BlockScript.Proofs.DeclaredAssets
import BlockScript.Proofs.ListedProcedures
import BlockScript.Proofs.UsedSounds
import BlockScript.Proofs.Saving
