import IndexedMesh.Main
import IndexedMesh.Proofs.Index
import IndexedMesh.Proofs.Usage
import IndexedMesh.Proofs.ExactUsage
import IndexedMesh.Proofs.Compaction
import IndexedMesh.Proofs.OrderedSelection
import IndexedMesh.Proofs.Equality
import IndexedMesh.Proofs.Duplicates
import IndexedMesh.Proofs.CanonicalVertices
import IndexedMesh.Proofs.Strip
import IndexedMesh.Proofs.InPlace
import IndexedMesh.Proofs.Composition
import IndexedMesh.Proofs.Narrowing
import IndexedMesh.Proofs.Links
import IndexedMesh.Proofs.Run
import IndexedMesh.Proofs.Removal
import IndexedMesh.Proofs.Perform
import IndexedMesh.Proofs.UnusedVertices
import IndexedMesh.Proofs.DuplicateVertices
import IndexedMesh.Proofs.StalePartition
import IndexedMesh.Proofs.Effects
import IndexedMesh.Proofs.Consistency
import IndexedMesh.Proofs.Atomicity
import IndexedMesh.Proofs.SavedDocument
import IndexedMesh.Proofs.EditRuns
import IndexedMesh.Proofs.Pruning
import IndexedMesh.Proofs.Transplant
import IndexedMesh.Proofs.CopyPaste
import IndexedMesh.Proofs.TransplantReport
import IndexedMesh.Proofs.Shuffles
import IndexedMesh.Proofs.Influences
import IndexedMesh.Proofs.RepeatedRemoval
import IndexedMesh.Proofs.Footprint
import IndexedMesh.Proofs.Handles
import IndexedMesh.Proofs.Failures
import IndexedMesh.Proofs.Selections
import IndexedMesh.Proofs.FlippedFaces
import IndexedMesh.Proofs.BatchBounds
import IndexedMesh.Proofs.NumberOrder
import IndexedMesh.Proofs.Enclosure
