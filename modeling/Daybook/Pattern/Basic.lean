import Daybook.Pattern.Syntax
import Daybook.Pattern.Wildcard

/-!
# Compiled regular expressions

A `RegexPattern` is a regular expression that could be read, together with the text it was read from.
The text decides everything else, so two of them are equal if their texts are.
-/

namespace Daybook

/-- A regular expression and its text. -/
structure RegexPattern where
  source : String
  regex : Regex
  regex_eq : Regex.parse? source = some regex

namespace RegexPattern

theorem ext_source {p q : RegexPattern} (h : p.source = q.source) : p = q := by
  obtain ⟨s, r, hr⟩ := p
  obtain ⟨t, u, hu⟩ := q
  subst h
  cases Option.some.inj (hr.symm.trans hu)
  rfl

instance : DecidableEq RegexPattern := fun p q =>
  if h : p.source = q.source then isTrue (ext_source h)
  else isFalse fun e => h (congrArg RegexPattern.source e)

/-- The regular expression with a text, if that is one. -/
def compile? (source : String) : Option RegexPattern :=
  match h : Regex.parse? source with
  | some regex => some ⟨source, regex, h⟩
  | none       => none

/-- Whether some part of a text matches. -/
def isMatch (p : RegexPattern) (text : String) : Bool := p.regex.isMatch text

end RegexPattern

end Daybook
