import FaultTreeExchange.Main
import FaultTreeExchange.MemorySources
import FaultTreeExchange.Proofs.AddedLine
import FaultTreeExchange.Proofs.ElementTree
import FaultTreeExchange.Proofs.InputsKept
import FaultTreeExchange.Proofs.JsonReports
import FaultTreeExchange.Proofs.Layout
import FaultTreeExchange.Proofs.Meaning
import FaultTreeExchange.Proofs.NameOwners
import FaultTreeExchange.Proofs.NameViolations
import FaultTreeExchange.Proofs.NumberTokens
import FaultTreeExchange.Proofs.OperandCounts
import FaultTreeExchange.Proofs.Orphans
import FaultTreeExchange.Proofs.Redefinitions
import FaultTreeExchange.Proofs.Respelling
import FaultTreeExchange.Proofs.SourceLookup
import FaultTreeExchange.Proofs.SuppliedProbabilities
import FaultTreeExchange.Proofs.Tally
import FaultTreeExchange.Proofs.TopGates
