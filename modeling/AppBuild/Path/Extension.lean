/-
The extensions of names.
-/
import AppBuild.Unicode.Property

namespace AppBuild

/-- Is the character one that extensions are made of? -/
def isExtensionChar (c : Char) : Bool :=
  if c.toNat < 128 then c.isAlphanum || c == '_' else Unicode.Property.word.contains c

/-- A text without the dot and the word that it ends in, if it ends so. -/
def dropWordExtension (cs : List Char) : List Char :=
  let reversed := cs.reverse
  let word := reversed.takeWhile isExtensionChar
  match reversed.drop word.length with
  | '.' :: stem => if word.isEmpty then cs else stem.reverse
  | _ => cs

/-- A text without a given ending, if it has it. -/
def dropEnding (ending cs : List Char) : List Char :=
  if ending.isSuffixOf cs then cs.take (cs.length - ending.length) else cs

/-- A text without an extension: the given ending, or else a dot and any word. -/
def removeExtension (extension : Option String) (s : String) : String :=
  match extension with
  | some ending => String.ofList (dropEnding ending.toList s.toList)
  | none => String.ofList (dropWordExtension s.toList)

end AppBuild
