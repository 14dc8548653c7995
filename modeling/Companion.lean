import Companion.FileTree.Basic
import Companion.Main
import Companion.Publisher.Faulty
import Companion.Publisher.Session
import Companion.ShapeTable
import Companion.TypeModel.Facts
import Companion.Proofs.Catalog
import Companion.Proofs.Naming
import Companion.Proofs.Ancestry
import Companion.Proofs.Recall
import Companion.Proofs.Collection
import Companion.Proofs.Group
import Companion.Proofs.Template
import Companion.Proofs.Utf8
import Companion.Proofs.Lineage
import Companion.Proofs.Forest
import Companion.Proofs.Source
import Companion.Proofs.Execution
import Companion.Proofs.Transfer
import Companion.Proofs.Restore
import Companion.Proofs.Completeness
import Companion.Proofs.Reordering
import Companion.Proofs.Denotation
import Companion.Proofs.Protocols
import Companion.Proofs.Reports
import Companion.Proofs.DryRun
import Companion.Proofs.Inspections
import Companion.Proofs.ShapeTable
import Companion.Proofs.ContainerKeys
import Companion.Proofs.Placement
import Companion.Proofs.Acceptance
import Companion.Proofs.Addition
import Companion.Proofs.Shapes
import Companion.Proofs.Breakdown
import Companion.Proofs.Assignability
import Companion.Proofs.Classification
import Companion.Proofs.Rendering
import Companion.Proofs.Documents
import Companion.Proofs.Partition
import Companion.Proofs.Substitution
import Companion.Proofs.WriteOnce
import Companion.Proofs.DirectorySession
import Companion.Proofs.Enclosure
import Companion.Proofs.SourceName
import Companion.Proofs.PrintedShapes
import Companion.Proofs.Passes
import Companion.Proofs.Exclusion
