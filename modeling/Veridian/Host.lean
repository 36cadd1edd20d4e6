/-
What the code takes from the JavaScript host it runs in.

Regular expressions, the URL parser and Unicode case mapping are not written in
this repository.  They enter as one record, and every result holds for whatever
the record does: the only law it carries is that lower-casing touches nothing but
A to Z in an ASCII string.
-/
import Veridian.Lib.Text

namespace Veridian

/-- What is read off a parsed `URL`. -/
structure Url where
  hostname : String
  pathname : String
  /-- `url.searchParams.get(name)` -/
  searchParam : String → Option String

structure Host where
  /-- `new RegExp(pattern)`: `none` when it throws, else what `test` answers. -/
  regExp : String → Option (String → Bool)
  /-- `new URL(s)`: `none` when it throws. -/
  parseUrl : String → Option Url
  toLowerCase : String → String
  toLowerCase_ascii : ∀ s, Text.isAscii s = true → toLowerCase s = Text.asciiLower s

/-- A host for inputs without patterns and URLs: on every other input it throws. -/
def Host.bare : Host where
  regExp := fun _ => none
  parseUrl := fun _ => none
  toLowerCase := Text.asciiLower
  toLowerCase_ascii := fun _ _ => rfl

/-- `new RegExp(pattern).test(s)`, an invalid pattern matching nothing. -/
def Host.regexTest (host : Host) (pattern s : String) : Bool :=
  match host.regExp pattern with
  | some test => test s
  | none => false

end Veridian
