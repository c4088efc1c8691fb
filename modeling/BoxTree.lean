import BoxTree.Main
import BoxTree.Log.Call
import BoxTree.Proofs.BuildExact
import BoxTree.Proofs.CompileReports
import BoxTree.Proofs.CompiledTrees
import BoxTree.Proofs.CanonicalIdentity
import BoxTree.Proofs.CanonicalLetters
import BoxTree.Proofs.ChildSlots
import BoxTree.Proofs.ComponentFrames
import BoxTree.Proofs.ComponentOrders
import BoxTree.Proofs.CycleWitness
import BoxTree.Proofs.DeliveredTrees
import BoxTree.Proofs.EdgeListing
import BoxTree.Proofs.GivenNames
import BoxTree.Proofs.LoggerLevels
import BoxTree.Proofs.NameClasses
import BoxTree.Proofs.RelabeledCompile
import BoxTree.Proofs.Reproduction
import BoxTree.Proofs.StageLookups
import BoxTree.Proofs.TreePaths
import BoxTree.Proofs.TreeReading
import BoxTree.Proofs.VariableNames
import BoxTree.Proofs.WholeGates
import BoxTree.Proofs.WorkEnds
