/-
Where a path leads, and how to get from one place to another.

Both are questions about the text of paths alone: no directory is looked at, and a step
up takes back the step before it even where that is a link.  A relative path counts
from the working directory, if there is one.
-/
import AppBuild.Path.Basic

namespace AppBuild.Path

/-- Where `path` leads from `base`, in a working directory.  Without one, a path that is relative to
a relative base stays relative. -/
def resolve (cwd : Option Path) (base path : Path) : Path :=
  let joined := base.join path
  let whole := if joined.isAbsolute then joined else match cwd with
    | some cwd => cwd.join joined
    | none => joined
  whole.route.clean.toPath

/-- The path of the working directory. -/
def here : Path := ⟨[dot]⟩

/-- The number of steps that two routes start with alike. -/
def commonLength : List Step → List Step → Nat
  | a :: as, b :: bs => if a = b then commonLength as bs + 1 else 0
  | _, _ => 0

/-- The path from one resolved place to another: up as far as needed, and then down. -/
def between (source target : Route) : Path :=
  if source.rooted = target.rooted then
    let n := commonLength source.steps target.steps
    Route.toPath ⟨false, (source.steps.drop n).map (fun _ => .up) ++ target.steps.drop n⟩
  else if target.rooted then target.toPath
  else Route.toPath ⟨false, .up :: source.steps.map (fun _ => .up) ++ target.steps⟩

/-- The path of `target` as seen from `source`, as text. -/
def relative (cwd : Option Path) (source target : Path) : String :=
  (between (resolve cwd here source).route (resolve cwd here target).route).toText

/-- Is `p` at or below `q`, both resolved? -/
def isWithin (p q : Path) : Bool :=
  p.route.rooted == q.route.rooted && q.route.steps.isPrefixOf p.route.steps

end AppBuild.Path
