import SwiftStubs.Main
import SwiftStubs.Proofs.Adapter
import SwiftStubs.Proofs.AllOrNothing
import SwiftStubs.Proofs.Documentation
import SwiftStubs.Proofs.Forwarding
import SwiftStubs.Proofs.Header
import SwiftStubs.Proofs.References
import SwiftStubs.Proofs.Rejection
import SwiftStubs.Proofs.Rendering
import SwiftStubs.Proofs.Reporting
import SwiftStubs.Proofs.WireNames
import SwiftStubs.Proofs.Wiring
import SwiftStubs.Proofs.Occurrences
import SwiftStubs.Proofs.Recasting
import SwiftStubs.Proofs.Reordering
import SwiftStubs.Proofs.AccessLevels
import SwiftStubs.Proofs.Availability
import SwiftStubs.Proofs.Casing
import SwiftStubs.Proofs.Headings
import SwiftStubs.Proofs.Initializers
import SwiftStubs.Proofs.NeededModules
import SwiftStubs.Proofs.FileOrder
import SwiftStubs.Proofs.AliasGroups
import SwiftStubs.Proofs.SavedFiles
import SwiftStubs.Proofs.OutputPlaces
import SwiftStubs.Proofs.Nodes
import SwiftStubs.Proofs.Recovery
import SwiftStubs.Proofs.Brackets
import SwiftStubs.Proofs.MessageNames
import SwiftStubs.Proofs.Imports
import SwiftStubs.Proofs.CamelCase
import SwiftStubs.Proofs.ModuleMaps
import SwiftStubs.Proofs.Parameters
import SwiftStubs.Proofs.Drafts
import SwiftStubs.Proofs.OptionSpelling
import SwiftStubs.Proofs.Choices
import SwiftStubs.Proofs.Prefixes
