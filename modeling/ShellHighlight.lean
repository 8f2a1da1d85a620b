import ShellHighlight.Document
import ShellHighlight.Main
import ShellHighlight.Proofs.Arguments
import ShellHighlight.Proofs.Document
import ShellHighlight.Proofs.Lossless
import ShellHighlight.Proofs.Routing
import ShellHighlight.Proofs.Session
import ShellHighlight.Proofs.Align.Placement
import ShellHighlight.Proofs.Color.Spelling
import ShellHighlight.Proofs.Path.Missing
import ShellHighlight.Proofs.Word.Escape
