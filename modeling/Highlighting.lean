import Highlighting.Main
import Highlighting.Proofs.Regex.Frame
import Highlighting.Proofs.Regex.Upright
import Highlighting.Proofs.Ansi.Insertion
import Highlighting.Proofs.Ansi.Rendition
import Highlighting.Proofs.Grammar.Acceptance
import Highlighting.Proofs.Grammar.Built
import Highlighting.Proofs.Grammar.Nesting
import Highlighting.Proofs.Grammar.Search
import Highlighting.Proofs.Grammar.Failure
import Highlighting.Proofs.Grammar.Semantics
import Highlighting.Proofs.Grammar.Stages
import Highlighting.Proofs.Grammar.Unstyled
import Highlighting.Proofs.Highlighter.Lossless
import Highlighting.Proofs.Highlighter.Resolution
import Highlighting.Proofs.Highlighter.Restore
import Highlighting.Proofs.Pattern.Search
import Highlighting.Proofs.Highlighter.Composition
import Highlighting.Proofs.Pattern.Matches
import Highlighting.Proofs.Pattern.Replace
import Highlighting.Proofs.Grammar.FirstRule
import Highlighting.Proofs.Regex.Allowed
import Highlighting.Proofs.Regex.Wrapped
import Highlighting.Proofs.Rule.Joined
import Highlighting.Proofs.Grammar.Joined
import Highlighting.Proofs.Pattern.Scanner
import Highlighting.Proofs.Ansi.Partition
import Highlighting.Proofs.Ansi.Active
import Highlighting.Proofs.Ansi.Strip
import Highlighting.Proofs.Ansi.Visible
import Highlighting.Proofs.Pattern.Captures
import Highlighting.Proofs.Pattern.Flags
import Highlighting.Proofs.Grammar.Escapes
import Highlighting.Proofs.Highlighter.Failure
import Highlighting.Proofs.Rule.Faults
import Highlighting.Proofs.Ansi.Parameters
import Highlighting.Proofs.Ansi.Fragments
import Highlighting.Proofs.Ansi.Displayed
import Highlighting.Proofs.Console.Shown
import Highlighting.Proofs.Command.Inputs
