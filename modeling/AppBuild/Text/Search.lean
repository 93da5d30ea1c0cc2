/-
Finding one text in another, and cutting texts at marks.
-/
namespace AppBuild

/-- Does a sequence occur in another? -/
def occursIn {α : Type} [BEq α] (needle : List α) : List α → Bool
  | [] => needle.isEmpty
  | a :: as => needle.isPrefixOf (a :: as) || occursIn needle as

/-- The parts before and after the first mark; without a mark all is before it. -/
def cutAt {α : Type} [BEq α] (mark : α) (as : List α) : List α × Option (List α) :=
  let before := as.takeWhile (· != mark)
  match as.drop before.length with
  | [] => (before, none)
  | _ :: after => (before, some after)

/-- The parts between marks; there is always at least one. -/
def splitAll {α : Type} [BEq α] (mark : α) : List α → List (List α)
  | [] => [[]]
  | a :: as =>
    if a == mark then [] :: splitAll mark as
    else match splitAll mark as with
      | [] => [[a]]
      | part :: parts => (a :: part) :: parts

end AppBuild
