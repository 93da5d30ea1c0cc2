/-
Replacement templates.

A dollar sign in a template stands for something of the match: `$1` to `$99` for a
remembered group, `$&` for the match, and a dollar with a grave accent or an apostrophe
for the text before or after it.  Two dollars are one; any other dollar, and a
reference to a group that the pattern does not have, is literal.
-/
import AppBuild.Pattern.Machine

namespace AppBuild

/-- A part of a template. -/
inductive ReplacementPart where
  | literal (text : List Char)
  | group (index : Nat)
  | before
  | after
  deriving DecidableEq, Repr

/-- What takes the place of a match. -/
structure Replacement where
  parts : List ReplacementPart
  deriving DecidableEq, Repr

namespace Replacement

/-- A text as it is. -/
def literal (text : String) : Replacement := ⟨[.literal text.toList]⟩

/-- The value of a decimal digit. -/
def digit? (c : Char) : Option Nat := if c.isDigit then some (c.toNat - 48) else none

/-- The group that one or two digits refer to, of those that there are, and how many digits. -/
def groupReference? (groups : Nat) (a : Nat) (b : Option Nat) : Option (Nat × Nat) :=
  let one := if 1 ≤ a ∧ a ≤ groups then some (a, 1) else none
  match b with
  | none => one
  | some b => if 1 ≤ a * 10 + b ∧ a * 10 + b ≤ groups then some (a * 10 + b, 2) else one

/-- What a dollar sign stands for by what follows it, and how many characters of that belong to it.
None is a literal dollar. -/
def reference (groups : Nat) : List Char → Option ReplacementPart × Nat
  | [] => (none, 0)
  | c :: rest =>
    if c = '$' then (none, 1)
    else if c = '&' then (some (.group 0), 1)
    else if c = '\x60' then (some .before, 1)
    else if c = '\'' then (some .after, 1)
    else match digit? c with
      | none => (none, 0)
      | some a =>
        match groupReference? groups a (rest.head?.bind digit?) with
        | some (index, n) => (some (.group index), n)
        | none => (none, 0)

/-- A literal part, if there is any text for it; the text comes last character first. -/
def flush (text : List Char) : List ReplacementPart :=
  if text.isEmpty then [] else [.literal text.reverse]

/-- The parts of a template.  `skip` characters belong to the part before; `text` is the literal
text at hand, last character first. -/
def parseFrom (groups : Nat) : Nat → List Char → List Char → List ReplacementPart
  | _, text, [] => flush text
  | skip + 1, text, _ :: rest => parseFrom groups skip text rest
  | 0, text, c :: rest =>
    if c = '$' then
      match reference groups rest with
      | (none, n) => parseFrom groups n ('$' :: text) rest
      | (some part, n) => flush text ++ part :: parseFrom groups n [] rest
    else parseFrom groups 0 (c :: text) rest

/-- Reads a template for a pattern with so many groups. -/
def parse (template : String) (groups : Nat) : Replacement :=
  ⟨parseFrom groups 0 [] template.toList⟩

/-- The characters of a text from one place to another. -/
def slice (text : List Char) (span : Nat × Nat) : List Char :=
  (text.take span.2).drop span.1

/-- What a part stands for.  A group that took no part in the match stands for nothing. -/
def expandPart (m : Pattern.Match) (text : List Char) : ReplacementPart → List Char
  | .literal cs => cs
  | .group index => ((m.group? index).map (slice text)).getD []
  | .before => text.take m.start
  | .after => text.drop m.stop

/-- What takes the place of a match in a text. -/
def expand (r : Replacement) (m : Pattern.Match) (text : List Char) : List Char :=
  r.parts.flatMap (expandPart m text)

end Replacement
end AppBuild
