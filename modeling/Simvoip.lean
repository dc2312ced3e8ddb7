import Simvoip.Semantics.Loop
import Simvoip.Semantics.Peak
import Simvoip.Data.Matching
import Simvoip.Observador.Conservation
import Simvoip.Observador.Average
import Simvoip.Observador.Matching
import Simvoip.Observador.Quality
import Simvoip.Observador.Loss
import Simvoip.Observador.Jitter
import Simvoip.Observador.Reset
import Simvoip.Semantics.Since
import Simvoip.Observador.Readings
import Simvoip.Observador.Ocupacion
import Simvoip.Central
import Simvoip.Central.OneCall
import Simvoip.Voip
import Simvoip.Voip.Step
import Simvoip.Voip.Registry
import Simvoip.Voip.Calls
import Simvoip.Voip.HangUps
import Simvoip.Voip.Peak
import Simvoip.Voip.Attempts
import Simvoip.Voip.Activity
import Simvoip.Voip.Legs
import Simvoip.Voip.Agreement
import Simvoip.Voip.Mirror
import Simvoip.Voip.Traffic
import Simvoip.Main.Codec
import Simvoip.Voip.Silence
import Simvoip.Main.Lectura
import Simvoip.Main
import Simvoip.Main.Places
import Simvoip.Main.Reparto
import Simvoip.Main.Descent
import Simvoip.Main.Landing
import Simvoip.Main.Prediction
import Simvoip.Main.Slope
import Simvoip.Main.Validity
import Simvoip.Main.Progress
import Simvoip.Main.Distribution
import Simvoip.Main.Optimality
import Simvoip.Main.Pairing
import Simvoip.Net.Forwarding
import Simvoip.Net.Subnet
import Simvoip.Topology
import Simvoip.Topology.Addresses
import Simvoip.Topology.Isolation
import Simvoip.Topology.CambiaEnlace
import Simvoip.Topology.Routes
import Simvoip.Topology.Subnets
import Simvoip.Topology.Registration
import Simvoip.Semantics.Rank
import Simvoip.Voip.Finishing
import Simvoip.Semantics.Tally
import Simvoip.Voip.Ownership
import Simvoip.Voip.Threads
import Simvoip.Voip.Senders
import Simvoip.Semantics.Trace
import Simvoip.Voip.History
import Simvoip.Voip.Entries
import Simvoip.Semantics.Interleave
import Simvoip.Voip.Interleaving
import Simvoip.Main.Outcome
import Simvoip.Data.Deviation
import Simvoip.Observador.Calculator
import Simvoip.Semantics.Commute
import Simvoip.Observador.Order
import Simvoip.Net.Reach
import Simvoip.Topology.Reach
import Simvoip.Topology.Delivery
import Simvoip.Topology.Unheard
import Simvoip.Voip.Switchboard
import Simvoip.Voip.Settings
import Simvoip.Topology.Settling
