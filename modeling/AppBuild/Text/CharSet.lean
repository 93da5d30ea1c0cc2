/-
Sets of characters.

A set is held as the increasing list of the code points at which membership
changes: `[97, 123]` is the lower case ASCII letters.  Written so, a set has one
form only, equal sets are equal lists, and every operation on sets is one walk
over two lists (`combine`) with a truth table for the result.  Surrogate code
points are in no set: a range that spans them is cut in two.

`containsCode_combine` says that the walk does what the truth table says.
-/
namespace AppBuild

/-- A set of characters: the code points at which membership changes, in increasing order. -/
structure CharSet where
  bounds : List Nat
  deriving DecidableEq, Repr, Inhabited

namespace CharSet

/-- Is `n` inside, walking the bounds from a point at which membership was `inside`? -/
def inside (now : Bool) : List Nat → Nat → Bool
  | [], _ => now
  | b :: bs, n => if n < b then now else inside (!now) bs n

/-- Membership by code point. -/
def containsCode (s : CharSet) (n : Nat) : Bool := inside false s.bounds n

/-- Membership. -/
def contains (s : CharSet) (c : Char) : Bool := s.containsCode c.toNat

/-- Puts a bound before others, if membership differs before and after it. -/
def emit (before after : Bool) (n : Nat) (bs : List Nat) : List Nat :=
  if after == before then bs else n :: bs

/-- The bounds of the combination of two sets by a truth table.  `a` and `b` are the memberships in
the two sets just before the next bound; the fuel is the number of bounds left. -/
def combineBounds (table : Bool → Bool → Bool) :
    Nat → Bool → Bool → List Nat → List Nat → List Nat
  | 0, _, _, _, _ => []
  | _ + 1, _, _, [], [] => []
  | fuel + 1, a, b, x :: xs, [] =>
    emit (table a b) (table (!a) b) x (combineBounds table fuel (!a) b xs [])
  | fuel + 1, a, b, [], y :: ys =>
    emit (table a b) (table a (!b)) y (combineBounds table fuel a (!b) [] ys)
  | fuel + 1, a, b, x :: xs, y :: ys =>
    if x < y then
      emit (table a b) (table (!a) b) x (combineBounds table fuel (!a) b xs (y :: ys))
    else if y < x then
      emit (table a b) (table a (!b)) y (combineBounds table fuel a (!b) (x :: xs) ys)
    else emit (table a b) (table (!a) (!b)) x (combineBounds table fuel (!a) (!b) xs ys)

/-- The characters whose memberships in two sets satisfy a truth table; a character in neither set
must not satisfy it. -/
def combine (table : Bool → Bool → Bool) (s t : CharSet) : CharSet :=
  ⟨combineBounds table (s.bounds.length + t.bounds.length) false false s.bounds t.bounds⟩

/-- The set of no characters. -/
def empty : CharSet := ⟨[]⟩

/-- All characters: the code points below `0x110000` but for the surrogates. -/
def all : CharSet := ⟨[0, 0xD800, 0xE000, 0x110000]⟩

/-- The characters in either set. -/
def union : CharSet → CharSet → CharSet := combine (· || ·)

/-- The characters in both sets. -/
def inter : CharSet → CharSet → CharSet := combine (· && ·)

/-- The characters in the first set only. -/
def diff : CharSet → CharSet → CharSet := combine fun a b => a && !b

/-- The characters in exactly one of two sets. -/
def symmDiff : CharSet → CharSet → CharSet := combine Bool.xor

/-- The characters that are not in the set. -/
def compl (s : CharSet) : CharSet := all.diff s

/-- The characters between two bounds, both included. -/
def range (lo hi : Nat) : CharSet := inter ⟨[lo, hi + 1]⟩ all

/-- The set of one character. -/
def singleton (c : Char) : CharSet := ⟨[c.toNat, c.toNat + 1]⟩

/-- The characters of a list. -/
def ofList (cs : List Char) : CharSet := cs.foldl (fun s c => s.union (singleton c)) empty

/-- The union of a list of sets. -/
def unions (ss : List CharSet) : CharSet := ss.foldl union empty

/-- Does the set hold no character? -/
def isEmpty (s : CharSet) : Bool := s.bounds.isEmpty

/-- The one character of a set of one. -/
def single? (s : CharSet) : Option Char :=
  match s.bounds with
  | [lo, hi] => if hi = lo + 1 then some (Char.ofNat lo) else none
  | _ => none

/-- The numbers written as hexadecimal digits with spaces between them. -/
def hexNumbers (cs : List Char) : List Nat :=
  let digit (c : Char) : Nat := if c.toNat < 58 then c.toNat - 48 else c.toNat - 87
  let step : List Nat × Option Nat → Char → List Nat × Option Nat
    | (done, none), c => if c = ' ' then (done, none) else (done, some (digit c))
    | (done, some n), c => if c = ' ' then (n :: done, none) else (done, some (n * 16 + digit c))
  match cs.foldl step ([], none) with
  | (done, none) => done.reverse
  | (done, some n) => (n :: done).reverse

/-- The numbers written in a line. -/
def lineNumbers (line : String) : List Nat := hexNumbers line.toList

/-- The numbers written in the lines of a table. -/
def numbers (table : List String) : List Nat := table.flatMap lineNumbers

/-- The set whose bounds are written as steps, each from the bound before it. -/
def ofSteps (table : List String) : CharSet :=
  ⟨((numbers table).foldl (fun (bs, at_) d => ((at_ + d) :: bs, at_ + d)) ([], 0)).1.reverse⟩

/-! ### The walk computes the truth table

Both lists may start anywhere: the statement is about the memberships at the start of the walk,
which is what makes the induction go through. -/

theorem inside_of_lt {n : Nat} {bs : List Nat} (now : Bool) (h : ∀ b ∈ bs, n < b) :
    inside now bs n = now := by
  cases bs with
  | nil => rfl
  | cons b bs => simp [inside, h b (by simp)]

theorem mem_of_mem_emit {before after : Bool} {n z : Nat} {bs : List Nat}
    (h : z ∈ emit before after n bs) : z = n ∨ z ∈ bs := by
  unfold emit at h
  split at h
  · exact .inr h
  · exact List.mem_cons.1 h

/-- A bound that changes nothing may be left out. -/
theorem inside_emit {n : Nat} {bs : List Nat} (before after : Bool) (h : ∀ b ∈ bs, n < b)
    (m : Nat) :
    inside before (emit before after n bs) m = if m < n then before else inside after bs m := by
  by_cases hb : after = before
  · subst hb
    by_cases hm : m < n
    · simp [emit, hm, inside_of_lt after fun b hb => Nat.lt_trans hm (h b hb)]
    · simp [emit, hm]
  · have : (!before) = after := by cases before <;> cases after <;> simp_all
    simp [emit, hb, inside, this]

/-- The walk makes no bounds of its own. -/
theorem mem_of_mem_combineBounds {table : Bool → Bool → Bool} {z fuel : Nat} {a b : Bool}
    {xs ys : List Nat} : z ∈ combineBounds table fuel a b xs ys → z ∈ xs ∨ z ∈ ys := by
  fun_induction combineBounds table fuel a b xs ys <;> grind [mem_of_mem_emit]

theorem inside_combineBounds (table : Bool → Bool → Bool) (n : Nat) {fuel : Nat} {a b : Bool}
    {xs ys : List Nat} (hf : xs.length + ys.length ≤ fuel) (hx : xs.Pairwise (· < ·))
    (hy : ys.Pairwise (· < ·)) :
    inside (table a b) (combineBounds table fuel a b xs ys) n =
      table (inside a xs n) (inside b ys n) := by
  fun_induction combineBounds table fuel a b xs ys with
  | case1 => simp_all [inside]
  | case2 => simp [inside]
  | case3 fuel a b x xs ih =>
    have hx := List.pairwise_cons.1 hx
    rw [inside_emit _ _ fun z hz => by grind [mem_of_mem_combineBounds hz]]
    grind [inside]
  | case4 fuel a b y ys ih =>
    have hy := List.pairwise_cons.1 hy
    rw [inside_emit _ _ fun z hz => by grind [mem_of_mem_combineBounds hz]]
    grind [inside]
  | case5 fuel a b x xs y ys h ih =>
    have hx := List.pairwise_cons.1 hx
    have hy := List.pairwise_cons.1 hy
    rw [inside_emit _ _ fun z hz => by grind [mem_of_mem_combineBounds hz]]
    grind [inside]
  | case6 fuel a b x xs y ys h h' ih =>
    have hx := List.pairwise_cons.1 hx
    have hy := List.pairwise_cons.1 hy
    rw [inside_emit _ _ fun z hz => by grind [mem_of_mem_combineBounds hz]]
    grind [inside]
  | case7 fuel a b x xs y ys h h' ih =>
    have hx := List.pairwise_cons.1 hx
    have hy := List.pairwise_cons.1 hy
    rw [inside_emit _ _ fun z hz => by grind [mem_of_mem_combineBounds hz]]
    grind [inside]

/-- A set whose bounds increase. -/
def Ordered (s : CharSet) : Prop := s.bounds.Pairwise (· < ·)

/-- A code point is in a combination as the truth table says of the two sets. -/
theorem containsCode_combine {table : Bool → Bool → Bool} (h : table false false = false)
    {s t : CharSet} (hs : s.Ordered) (ht : t.Ordered) (n : Nat) :
    (combine table s t).containsCode n = table (s.containsCode n) (t.containsCode n) := by
  have := inside_combineBounds table n (Nat.le_refl _) hs ht (a := false) (b := false)
  rwa [h] at this

end CharSet
end AppBuild
