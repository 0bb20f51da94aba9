import DecimalComputer.Main
import DecimalComputer.Microcode.Listing
import DecimalComputer.Microcode.OpcodeTable
import DecimalComputer.Proofs.Calls
import DecimalComputer.Proofs.DigitBudget
import DecimalComputer.Proofs.InstructionReference
import DecimalComputer.Proofs.Rereading
import DecimalComputer.Proofs.Lockstep
import DecimalComputer.Proofs.LimitedRuns
import DecimalComputer.Proofs.MicroSteps
import DecimalComputer.Proofs.MixedCalls
import DecimalComputer.Proofs.CleanBlocks
import DecimalComputer.Proofs.SavedSets
import DecimalComputer.Proofs.BonsaiTranslation
import DecimalComputer.Proofs.StopReports
import DecimalComputer.Proofs.UntouchedCells
import DecimalComputer.Proofs.ImageReading
import DecimalComputer.Proofs.BlockVerdicts
import DecimalComputer.Proofs.SingleDispatch
import DecimalComputer.Proofs.DescriptionReading
import DecimalComputer.Proofs.FrontPanel
import DecimalComputer.Proofs.Edits
import DecimalComputer.Proofs.ImageLayouts
import DecimalComputer.Proofs.StepEffects
import DecimalComputer.Proofs.AccumulatorRange
import DecimalComputer.Proofs.InstructionTrace
import DecimalComputer.Proofs.NamedBlocks
import DecimalComputer.Proofs.CellParts
import DecimalComputer.Proofs.StrictReading
import DecimalComputer.Proofs.PaddedNumerals
import DecimalComputer.Proofs.OpcodeKeys
import DecimalComputer.Proofs.MicrocodeFiles
