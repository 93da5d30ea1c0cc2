/-
Sending calls in code elsewhere.

A redirect looks for one call, in either style of quotes and in any case of its
letters, and puts a call of the local resolver in its place.  It looks at text, not at
the syntax of the code: a call inside a string or a comment is redirected like any
other.

The call is written as a pattern and read like any other pattern, so there is no redirect
for a specifier that makes it too large.
-/
import AppBuild.Pattern.Basic
import AppBuild.Pattern.Replace

namespace AppBuild

/-- A call to look for and what takes its place. -/
structure Redirect where
  call : Pattern
  replacement : String

namespace Redirect

/-- The name of the local resolver. -/
def resolver : String := "$cjs_require$"

/-- The call of a specifier, written as a pattern. -/
def callPattern (specifier : String) : String :=
  "(?i)require\\(['\"]" ++ Pattern.escape specifier ++ "['\"]\\)"

/-- The call of the resolver that takes the place of a load. -/
def replacementFor (specifier : String) : String := resolver ++ "('" ++ specifier ++ "')"

/-- The redirect of loads of a specifier to the local resolver. -/
def ofSpecifier (specifier : String) : Except Pattern.Error Redirect := do
  let call ← Pattern.compile (callPattern specifier)
  .ok ⟨call, replacementFor specifier⟩

/-- The code with each call replaced. -/
def apply (r : Redirect) (code : String) : String :=
  String.ofList (r.call.node.replaceAll r.replacement.toList code.toList)

/-- Applies redirects one after the other, each over the whole code. -/
def applyAll (redirects : List Redirect) (code : String) : String :=
  redirects.foldl (fun code r => r.apply code) code

end Redirect
end AppBuild
