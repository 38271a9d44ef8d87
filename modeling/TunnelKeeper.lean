import TunnelKeeper.Bus.Session
import TunnelKeeper.Main
import TunnelKeeper.Proofs.Keeper.Acceptance
import TunnelKeeper.Proofs.Provisioning.Separation
import TunnelKeeper.Proofs.Keeper.Confidential
import TunnelKeeper.Proofs.Keeper.EmptyBlocks
import TunnelKeeper.Proofs.Keeper.FilesInStep
import TunnelKeeper.Proofs.Keeper.NameLine
import TunnelKeeper.Proofs.ConfigText.Layout
import TunnelKeeper.Proofs.Keeper.FilesApart
import TunnelKeeper.Proofs.Link.RoundTrip
import TunnelKeeper.Proofs.LinkCommand
import TunnelKeeper.Proofs.Store.Invariant
import TunnelKeeper.Proofs.Store.Refinement
import TunnelKeeper.Proofs.Bus.Session
import TunnelKeeper.Proofs.Keeper.StoreCalls
import TunnelKeeper.Proofs.Keeper.BootstrapFiles
import TunnelKeeper.Proofs.Keeper.WellFormed
import TunnelKeeper.Proofs.Files.Confined
import TunnelKeeper.Proofs.Keeper.Cancellation
import TunnelKeeper.Proofs.Settings.Precedence
import TunnelKeeper.Proofs.Provisioning.Agreement
import TunnelKeeper.Proofs.Allocator.History
import TunnelKeeper.Proofs.Allocator.Ports
import TunnelKeeper.Proofs.Allocator.Blocks
import TunnelKeeper.Proofs.Store.Snapshot
import TunnelKeeper.Proofs.Obfuscation.Header
import TunnelKeeper.Proofs.Link.Blocks
import TunnelKeeper.Proofs.Store.Row
import TunnelKeeper.Proofs.Net.Endpoint
import TunnelKeeper.Proofs.Net.Listing
import TunnelKeeper.Proofs.Link.Inherited
import TunnelKeeper.Proofs.Settings.Merge
import TunnelKeeper.Proofs.Database.Prepared
import TunnelKeeper.Proofs.Database.Target
import TunnelKeeper.Proofs.Allocator.Search
import TunnelKeeper.Proofs.Data.Member
import TunnelKeeper.Proofs.Settings.Document
import TunnelKeeper.Proofs.Settings.Load
