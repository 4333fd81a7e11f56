import Scratchpad.Main
import Scratchpad.Note.Replace
import Scratchpad.Proofs.Rule.RoundTrip
import Scratchpad.Proofs.Rule.Segments
import Scratchpad.Proofs.Rule.Grammar
import Scratchpad.Proofs.Pattern.Backtrack
import Scratchpad.Proofs.Pattern.Successive
import Scratchpad.Proofs.Replace.LogReplay
import Scratchpad.Proofs.Replace.Compose
import Scratchpad.Proofs.Replace.Record
import Scratchpad.Proofs.Replace.Refusal
import Scratchpad.Proofs.Replace.PreserveCase
import Scratchpad.Proofs.Replace.Gaps
import Scratchpad.Proofs.Replace.WholeWord
import Scratchpad.Proofs.Replace.BackReference
import Scratchpad.Proofs.Replace.NamedReference
import Scratchpad.Proofs.Replace.EmptyPattern
import Scratchpad.Proofs.Replace.FlagLetters
import Scratchpad.Proofs.German
import Scratchpad.Proofs.Text.Utf16
import Scratchpad.Proofs.Note.Span
import Scratchpad.Proofs.Note.Replace
import Scratchpad.Proofs.Note.Cut
import Scratchpad.Proofs.Note.Conservation
import Scratchpad.Proofs.Note.Agreement
import Scratchpad.Proofs.Note.Monotone
import Scratchpad.Proofs.Note.Delete
import Scratchpad.Proofs.Sentence.Capitalize
import Scratchpad.Proofs.CommandLine.Output
import Scratchpad.Proofs.CommandLine.Failure
import Scratchpad.Proofs.Rule.Comments
import Scratchpad.Proofs.Rule.Extension
import Scratchpad.Proofs.Sentence.Beginnings
import Scratchpad.Proofs.Sentence.Writes
