import InterfaceMocks.Extraction.Reconstruction
import InterfaceMocks.Main
import InterfaceMocks.Proofs.Comments.Contents
import InterfaceMocks.Proofs.Descriptor.Dump
import InterfaceMocks.Proofs.Extraction.Rendering
import InterfaceMocks.Proofs.Extraction.RoundTrip
import InterfaceMocks.Proofs.Grammar.Operations
import InterfaceMocks.Proofs.Layout.Descriptors
import InterfaceMocks.Proofs.Layout.Idempotence
import InterfaceMocks.Proofs.Loading.Environment
import InterfaceMocks.Proofs.Mock.Distinctness
import InterfaceMocks.Proofs.Mock.Hygiene
import InterfaceMocks.Proofs.Mock.Surfacing
import InterfaceMocks.Proofs.Preservation.Fixed
import InterfaceMocks.Proofs.Pruning.Editing
import InterfaceMocks.Proofs.Pruning.Kept
import InterfaceMocks.Proofs.Run.Regeneration
import InterfaceMocks.Proofs.Text.Searching
import InterfaceMocks.Proofs.Text.Swapping
import InterfaceMocks.Run
