import Mailroom.Filter.Matching
import Mailroom.Pattern.Program
import Mailroom.Pattern.Reader

/-!
# The engine that rules are run with

It reads the pattern language of rules but for the properties of characters that tables here do not
have: the age of a character and where texts break into words, sentences and graphemes. Patterns
that ask for these are not read. Nothing that is proved of rules depends on this engine.
-/

namespace Mailroom.Pattern

instance engine : Filter.PatternEngine := ⟨fun pattern => (Term.ofText? pattern).map Term.matchesIn⟩

end Mailroom.Pattern
