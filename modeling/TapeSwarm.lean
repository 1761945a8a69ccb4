import TapeSwarm.Command.Invocation
import TapeSwarm.Machine.Displaced
import TapeSwarm.Machine.Request
import TapeSwarm.Main
import TapeSwarm.Random.Permuted
import TapeSwarm.Random.Scripted
import TapeSwarm.Report.Benchmark
import TapeSwarm.Report.Census
import TapeSwarm.Settings.Stored
import TapeSwarm.Storage.Directory
import TapeSwarm.Swarm.Stats
import TapeSwarm.Proofs.Machine.Steps
import TapeSwarm.Proofs.Outline.Basic
import TapeSwarm.Proofs.Outline.Table
import TapeSwarm.Proofs.Outline.Meaning
import TapeSwarm.Proofs.Machine.Budget
import TapeSwarm.Proofs.Machine.Reachable
import TapeSwarm.Proofs.Machine.History
import TapeSwarm.Proofs.Machine.Intake
import TapeSwarm.Proofs.Brackets.Code
import TapeSwarm.Proofs.Machine.Filler
import TapeSwarm.Proofs.Machine.Ribbon
import TapeSwarm.Proofs.Entity.Coherence
import TapeSwarm.Proofs.Swarm.Population
import TapeSwarm.Proofs.Settings.Cache
import TapeSwarm.Proofs.Swarm.Heredity
import TapeSwarm.Proofs.Swarm.Founding
import TapeSwarm.Proofs.Swarm.Ticks
import TapeSwarm.Proofs.Threshold
import TapeSwarm.Proofs.Tape.Lineage
import TapeSwarm.Proofs.Entity.Settings
import TapeSwarm.Proofs.Swarm.Places
import TapeSwarm.Proofs.Swarm.Settings
import TapeSwarm.Proofs.Swarm.Schedule
import TapeSwarm.Proofs.Swarm.Steady
import TapeSwarm.Proofs.Machine.Endurance
import TapeSwarm.Proofs.Brackets.Matching
import TapeSwarm.Proofs.Command.Program
import TapeSwarm.Proofs.Command.Report
import TapeSwarm.Proofs.Machine.Ring
import TapeSwarm.Proofs.Machine.Locality
import TapeSwarm.Proofs.Machine.Symmetry
import TapeSwarm.Proofs.Machine.Effort
import TapeSwarm.Proofs.Tape.Mutation
import TapeSwarm.Proofs.Tape.Ratio
import TapeSwarm.Proofs.Phenotype.Range
import TapeSwarm.Proofs.Phenotype.Repetition
import TapeSwarm.Proofs.Phenotype.Hash
import TapeSwarm.Proofs.Phenotype.Residues
import TapeSwarm.Proofs.Tape.Writing
import TapeSwarm.Proofs.Refusal
import TapeSwarm.Proofs.Outline.Counting
import TapeSwarm.Proofs.Text.Lines
import TapeSwarm.Proofs.Command.Run
