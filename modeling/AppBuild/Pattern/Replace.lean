/-
Replacing matches.

A text is gone over once, from left to right.  Each match is replaced and passed over,
so what was put in is not looked at, and an empty match does not count right after
another one.
-/
import AppBuild.Pattern.Machine

namespace AppBuild.Pattern.Node

/-- The text with each match replaced, from a place in it on.  `skip` characters are still part of
the last match; where `after` is set a match has just ended. -/
def replaceFrom (n : Node) (budget : Nat) (new : List Char) :
    Nat → Bool → Option Char → List Char → List Char
  | _, after, before, [] =>
    if !after && (n.matchAt budget ∅ before [] 0).1.isSome then new else []
  | skip + 1, _, _, c :: rest => replaceFrom n budget new skip true (some c) rest
  | 0, after, before, c :: rest =>
    match (n.matchAt budget ∅ before (c :: rest) 0).1 with
    | none => c :: replaceFrom n budget new 0 false (some c) rest
    | some t =>
      match t.pos with
      | 0 =>
        if after then c :: replaceFrom n budget new 0 false (some c) rest
        else new ++ c :: replaceFrom n budget new 0 false (some c) rest
      | skip + 1 => new ++ replaceFrom n budget new skip true (some c) rest

/-- The text with each match replaced. -/
def replaceAll (n : Node) (new text : List Char) : List Char :=
  n.replaceFrom (n.budget text.length) new 0 false none text

end AppBuild.Pattern.Node
