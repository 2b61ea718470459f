import I2cTopology.Bus.Simulation
import I2cTopology.Artifact.Tables
import I2cTopology.Main
import I2cTopology.Proofs.Routing.Belief
import I2cTopology.Proofs.Bus.FlatStore
import I2cTopology.Proofs.Resolution.Validity
import I2cTopology.Proofs.Bus.Reachable
import I2cTopology.Proofs.Bus.Calls
import I2cTopology.Proofs.Bus.ControlBytes
import I2cTopology.Proofs.Bus.Recovery
import I2cTopology.Proofs.Bus.Independence
import I2cTopology.Proofs.Resolution.Wiring
import I2cTopology.Proofs.Artifact.Setup
import I2cTopology.Proofs.Artifact.Handles
import I2cTopology.Proofs.Artifact.Confusion
import I2cTopology.Proofs.Resolution.Faithful
import I2cTopology.Proofs.Resolution.SensorIds
import I2cTopology.Proofs.Resolution.Growth
import I2cTopology.Proofs.Artifact.Comments
import I2cTopology.Proofs.Resolution.Groups
import I2cTopology.Proofs.Artifact.Rows
import I2cTopology.Proofs.Artifact.Validation
import I2cTopology.Proofs.Artifact.Expressions
import I2cTopology.Proofs.Artifact.Failures
import I2cTopology.Proofs.Artifact.Spelling
import I2cTopology.Proofs.Document.Conformance
import I2cTopology.Proofs.Artifact.Names
import I2cTopology.Proofs.Artifact.CaseFolding
import I2cTopology.Proofs.Bus.Traffic
import I2cTopology.Proofs.Resolution.Lookups
import I2cTopology.Proofs.Resolution.Rails
import I2cTopology.Proofs.Artifact.Accessors
import I2cTopology.Proofs.Artifact.SensorTables
import I2cTopology.Proofs.Artifact.MissingRows
import I2cTopology.Proofs.Artifact.Composition
import I2cTopology.Proofs.Artifact.InRange
import I2cTopology.Proofs.Files.Delivery
import I2cTopology.Proofs.Bus.ReadAfterWrite
