/-
File trees.

A tree says for each place below the root whether there is a directory, a file or a
link there.  It is a list of places with their entries, so that two trees can be
compared place by place; what is at a place that has no directory above it is out of
reach, since every walk goes from directory to directory.  The names in it are such as
a directory can hold, so that each of them leads one step down and nowhere else.
-/
import AppBuild.Path.Basic

namespace AppBuild

/-- A place in a tree: the names on the way from the root. -/
abbrev Location := List FileName

/-- What can be at a place. -/
inductive Entry where
  | directory
  | file (content : List UInt8)
  | link (target : Path)
  deriving DecidableEq, Repr

/-- Can a directory hold the name?  It is not empty, has no slash, and is not one of the dots. -/
def IsName (name : FileName) : Prop :=
  name ≠ [] ∧ Path.slash ∉ name ∧ name ≠ [Path.dot] ∧ name ≠ [Path.dot, Path.dot]

instance (name : FileName) : Decidable (IsName name) :=
  inferInstanceAs (Decidable (_ ∧ _ ∧ _ ∧ _))

/-- A file tree. -/
structure Tree where
  entries : List (Location × Entry)
  named : ∀ e ∈ entries, ∀ name ∈ e.1, IsName name

namespace Tree

/-- The tree with an empty root. -/
def empty : Tree := ⟨[], by simp⟩

instance : Inhabited Tree := ⟨empty⟩

/-- What is at a place.  The root is a directory. -/
def get? (t : Tree) (at_ : Location) : Option Entry :=
  if at_ = [] then some .directory else t.entries.lookup at_

/-- Is the name before the other in the order of bytes? -/
def nameBefore : FileName → FileName → Bool
  | [], _ => true
  | _ :: _, [] => false
  | a :: as, b :: bs => if a = b then nameBefore as bs else decide (a < b)

/-- The last name of a place that is directly below another. -/
def nameBelow? (above at_ : Location) : Option FileName :=
  match at_.getLast? with
  | some name => if at_.dropLast = above then some name else none
  | none => none

/-- The names in a directory, in the order of their bytes. -/
def names (t : Tree) (at_ : Location) : List FileName :=
  ((t.entries.filterMap fun e => nameBelow? at_ e.1).eraseDups).mergeSort nameBefore

/-- Puts an entry at a place, if there can be such a place. -/
def insert (t : Tree) (at_ : Location) (e : Entry) : Tree :=
  if h : ∀ name ∈ at_, IsName name then
    ⟨(at_, e) :: t.entries.filter fun old => old.1 ≠ at_, by
      intro old hold
      rcases List.mem_cons.1 hold with rfl | hold
      · exact h
      · exact t.named old (List.mem_filter.1 hold).1⟩
  else t

/-- Takes away what is at a place and below it. -/
def remove (t : Tree) (at_ : Location) : Tree :=
  ⟨t.entries.filter fun old => !at_.isPrefixOf old.1,
    fun old hold => t.named old (List.mem_filter.1 hold).1⟩

theorem get?_insert_self (t : Tree) {at_ : Location} (e : Entry) (h : at_ ≠ [])
    (hnames : ∀ name ∈ at_, IsName name) : (t.insert at_ e).get? at_ = some e := by
  rw [insert, dif_pos hnames]
  simp [get?, h]

end Tree
end AppBuild
