import Tileboard.BoardFile.Load
import Tileboard.BoardFile.Printer
import Tileboard.Journal
import Tileboard.Labels
import Tileboard.Machine
import Tileboard.Main
import Tileboard.Proofs.CommandGrammar
import Tileboard.Proofs.CursorWalk
import Tileboard.Proofs.BoardCells
import Tileboard.Proofs.BoardViews
import Tileboard.Proofs.WriteHistory
import Tileboard.Proofs.ScriptLines
import Tileboard.Proofs.Packing
import Tileboard.Proofs.CommandText
import Tileboard.Proofs.NearestMarker
import Tileboard.Proofs.Reachable
import Tileboard.Proofs.Regroup
import Tileboard.Proofs.EarliestCells
import Tileboard.Proofs.BlockRows
import Tileboard.Proofs.RegroupLayout
import Tileboard.Proofs.FileReading
import Tileboard.Proofs.FileRoundTrip
import Tileboard.Proofs.Formatting
import Tileboard.Proofs.ReaderWaits
import Tileboard.Proofs.StrictViews
import Tileboard.Proofs.CutFiles
import Tileboard.Proofs.CommandRuns
import Tileboard.Proofs.CommandCycle
import Tileboard.Proofs.BlockCells
import Tileboard.Proofs.FileFaults
import Tileboard.Proofs.LowercaseLines
import Tileboard.Proofs.Respelling
import Tileboard.Proofs.ScriptStyle
import Tileboard.Proofs.BlankScripts
import Tileboard.Proofs.LaneTexts
import Tileboard.Proofs.PackingsAgree
import Tileboard.Proofs.LargerBoards
import Tileboard.Proofs.AddedLines
import Tileboard.Proofs.CheckedWalk
import Tileboard.Proofs.LabelTable
import Tileboard.Proofs.EncodeFaults
import Tileboard.Proofs.PlainFiles
import Tileboard.Proofs.DecodeFiles
