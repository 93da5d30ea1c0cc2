/-
The meaning of a written pattern.

Flags hold from where they are switched to the end of the group around them, so they
are passed from part to part.  Case is folded before a class is negated, and before
two classes are combined.  Without the Unicode flag a class must stay within ASCII:
a pattern matches text, never single bytes of it.
-/
import AppBuild.Pattern.Node
import AppBuild.Pattern.Property
import AppBuild.Unicode.Folding

namespace AppBuild.Pattern

/-- The flags in force at a place of a pattern. -/
structure Flags where
  caseless : Bool := false
  multiLine : Bool := false
  dotAll : Bool := false
  swapGreed : Bool := false
  unicode : Bool := true
  crlf : Bool := false

namespace Flags

/-- Switches one flag. -/
def set (f : Flags) : Flag × Bool → Flags
  | (.caseless, on) => { f with caseless := on }
  | (.multiLine, on) => { f with multiLine := on }
  | (.dotAll, on) => { f with dotAll := on }
  | (.swapGreed, on) => { f with swapGreed := on }
  | (.unicode, on) => { f with unicode := on }
  | (.crlf, on) => { f with crlf := on }
  | (.verbose, _) => f

/-- Switches flags as written. -/
def apply (f : Flags) (flags : FlagList) : Flags := flags.foldl set f

/-- Adds the other cases of letters, where the flags ask for it. -/
def fold (f : Flags) (s : CharSet) : CharSet :=
  if !f.caseless then s
  else if f.unicode then Unicode.Folding.closure s
  else Unicode.Folding.asciiClosure s

/-- The set of a class whose members are given: cases are added, and then it may be negated. -/
def close (f : Flags) (negated : Bool) (s : CharSet) : Except Error CharSet :=
  let s := f.fold s
  let s := if negated then s.compl else s
  if f.unicode || (s.diff asciiSet).isEmpty then .ok s else .error .invalidText

/-- The character that a literal stands for. -/
def char (f : Flags) (l : Lit) : Except Error Char :=
  if !f.unicode && l.byte && 127 < l.char.toNat then .error .invalidText else .ok l.char

/-- The character that a literal stands for in a class. -/
def classChar (f : Flags) (l : Lit) : Except Error Char := do
  let c ← f.char l
  if f.unicode || c.toNat < 128 then .ok c else .error .unicodeNotAllowed

/-- The set of a class with a name. -/
def namedSet (f : Flags) : NamedClass → Except Error CharSet
  | .letter kind negated =>
    let s := kind.set f.unicode
    if !negated then .ok s
    else if f.unicode then .ok s.compl
    else .error .invalidText
  | .ascii kind negated => f.close negated kind.set
  | .property query negated => do
    if !f.unicode then .error .unicodeNotAllowed
    else f.close negated (← query.set)

/-- The combination of two classes. -/
def combine (f : Flags) (kind : ClassOp) (left right : CharSet) : CharSet :=
  match kind with
  | .inter => (f.fold left).inter (f.fold right)
  | .diff => (f.fold left).diff (f.fold right)
  | .symmDiff => (f.fold left).symmDiff (f.fold right)

mutual

/-- The set of what stands between the brackets of a class. -/
def classSet (f : Flags) : ClassSet → Except Error CharSet
  | .empty => .ok .empty
  | .lit l => do .ok (.singleton (← f.classChar l))
  | .range lo hi => do
    let lo ← f.classChar lo
    let hi ← f.classChar hi
    .ok (.range lo.toNat hi.toNat)
  | .named c => f.namedSet c
  | .bracket negated set => do f.close negated (← f.classSet set)
  | .union items => f.classUnion items
  | .op kind left right => do
    let left ← f.classSet left
    let right ← f.classSet right
    .ok (f.combine kind left right)

/-- The union of the sets of items. -/
def classUnion (f : Flags) : List ClassSet → Except Error CharSet
  | [] => .ok .empty
  | item :: items => do
    let s ← f.classSet item
    .ok (s.union (← f.classUnion items))

end

/-- The node of one literal character. -/
def charNode (f : Flags) (l : Lit) : Except Error Node := do
  let c ← f.char l
  .ok (.ofSet (f.fold (.singleton c)))

/-- What the dot stands for: any character, or any that does not end a line. -/
def dotNode (f : Flags) : Except Error Node :=
  if !f.unicode then .error .invalidText
  else if f.dotAll then .ok (.set .all)
  else if f.crlf then .ok (.set (CharSet.compl (.ofList ['\n', '\r'])))
  else .ok (.set (CharSet.compl (.singleton '\n')))

/-- The condition on a place. -/
def look (f : Flags) : Place → Look
  | .lineStart => if f.multiLine then .lineStart f.crlf else .textStart
  | .lineEnd => if f.multiLine then .lineEnd f.crlf else .textEnd
  | .textStart => .textStart
  | .textEnd => .textEnd
  | .wordBoundary => .boundary f.unicode
  | .notWordBoundary => .notBoundary f.unicode
  | .wordStart => .wordStart f.unicode
  | .wordEnd => .wordEnd f.unicode
  | .wordStartHalf => .wordStartHalf f.unicode
  | .wordEndHalf => .wordEndHalf f.unicode

end Flags

mutual

/-- The meaning of an expression under flags, and the flags after it. -/
def Node.ofExpr (f : Flags) : Expr → Except Error (Node × Flags)
  | .empty => .ok (.empty, f)
  | .flags flags => .ok (.empty, f.apply flags)
  | .lit l => do .ok (← f.charNode l, f)
  | .dot => do .ok (← f.dotNode, f)
  | .place p => .ok (.look (f.look p), f)
  | .named c => do .ok (.ofSet (← f.namedSet c), f)
  | .bracket negated inside => do .ok (.ofSet (← f.close negated (← f.classSet inside)), f)
  | .repeat min max greedy body => do
    let (body, after) ← Node.ofExpr f body
    .ok (.ofRepeat min max (greedy != after.swapGreed) body, after)
  | .group (.capture index) body => do
    let (body, _) ← Node.ofExpr f body
    .ok (.capture index body, f)
  | .group (.plain flags) body => do
    let (body, _) ← Node.ofExpr (f.apply flags) body
    .ok (body, f)
  | .alt branches => do
    let (ns, f) ← Node.ofExprs f branches
    .ok (.ofBranches ns, f)
  | .concat parts => do
    let (ns, f) ← Node.ofExprs f parts
    .ok (.ofParts ns, f)

/-- The meanings of expressions, each under the flags that those before it leave. -/
def Node.ofExprs (f : Flags) : List Expr → Except Error (List Node × Flags)
  | [] => .ok ([], f)
  | e :: es => do
    let (n, f) ← Node.ofExpr f e
    let (ns, f) ← Node.ofExprs f es
    .ok (n :: ns, f)

end

end AppBuild.Pattern
