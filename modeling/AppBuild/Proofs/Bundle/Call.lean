/-
The call that a redirect looks for.

The call of a specifier is written as a pattern, with the specifier escaped.  Read as a
pattern it is that call again, letter by letter: no character of the specifier has a
meaning of its own (`read_callPattern`).  Its letters become sets of the letters that fold
alike, and those that have no other case become words; such nodes pass what the nodes of
a load pass (`passAll_mergedNodes`).

So a redirect replaces the loads that a scanner meets (`apply_asRead`), and there is one for
a specifier unless its call is too large for a pattern (`ofSpecifier_eq_asRead`).  The call
of a short specifier is not too large, since no character takes more than the whole table
of letters asks for, and that of a very long one is.
-/
import Mathlib.Algebra.Group.Action.Defs
import Mathlib.Algebra.Order.BigOperators.Group.List
import Mathlib.Algebra.Order.Ring.Nat
import AppBuild.Proofs.Bundle.Load
import AppBuild.Proofs.Pattern.Caseless

namespace AppBuild.Redirect

open Pattern Unicode.Folding

/-! ### The call, written as a pattern -/

/-- The class of the quotes, as it is read. -/
def quoteClass : Expr := .bracket false (.union [.lit ⟨'\'', false⟩, .lit ⟨'"', false⟩])

/-- The parts of the call, as they are read. -/
def callParts (specifier : String) : List Expr :=
  .flags [(.caseless, true)] :: ("require(".toList.map litExpr ++ quoteClass ::
    (specifier.toList.map litExpr ++ quoteClass :: ")".toList.map litExpr))

section

variable (r : Reading) (hv : r.verbose = false) (rest : List Char)

include hv

theorem readStep_flag :
    readStep r '(' ('?' :: 'i' :: ')' :: rest) =
      .ok (r.push (.flags [(.caseless, true)]), rest) := by
  obtain ⟨verbose, groups, names, parts, stack⟩ := r
  subst hv
  rfl

theorem readStep_quotes :
    readStep r '[' ('\'' :: '"' :: ']' :: rest) = .ok (r.push quoteClass, rest) := by
  unfold readStep
  rw [hv]
  rfl

end

theorem toList_callPattern (specifier : String) :
    (callPattern specifier).toList =
      '(' :: '?' :: 'i' :: ')' :: ((escape "require(").toList ++
        '[' :: '\'' :: '"' :: ']' :: ((escape specifier).toList ++
          '[' :: '\'' :: '"' :: ']' :: (escape ")").toList)) := by
  have hstart : "(?i)require\\(['\"]".toList
      = '(' :: '?' :: 'i' :: ')' :: ((escape "require(").toList ++ ['[', '\'', '"', ']']) := by
    decide
  have hend : "['\"]\\)".toList = '[' :: '\'' :: '"' :: ']' :: (escape ")").toList := by
    decide
  unfold callPattern
  rw [String.toList_append, String.toList_append, hstart, hend]
  simp

theorem depth_callParts (specifier : String) :
    (Expr.concat (callParts specifier)).depth = 3 := by
  unfold callParts
  simp only [Expr.depth, Expr.depths, depths_append, depths_letters]
  rfl

/-- **The call is read letter by letter**, whatever the specifier holds. -/
theorem read_callPattern (specifier : String) :
    Expr.read (callPattern specifier) = .ok (.concat (callParts specifier)) := by
  have hword := spells_escape "require("
  have hname := spells_escape specifier
  have hclose := spells_escape ")"
  obtain ⟨fuel, hfuel⟩ : ∃ fuel, (callPattern specifier).toList.length + 1
      = fuel + ")".toList.length + 1 + specifier.toList.length + 1 + "require(".toList.length + 1 := by
    refine ⟨(callPattern specifier).toList.length + 1 - (")".toList.length + 1 +
      specifier.toList.length + 1 + "require(".toList.length + 1), ?_⟩
    have hlength := congrArg List.length (toList_callPattern specifier)
    have hword := hword.length_le
    have hname := hname.length_le
    have hclose := hclose.length_le
    simp only [List.length_cons, List.length_append] at hlength
    omega
  have hread : readParts ((callPattern specifier).toList.length + 1) {} (callPattern specifier).toList
      = .ok (.concat (callParts specifier)) := by
    rw [hfuel, toList_callPattern, readParts_cons rfl (readStep_flag _ rfl _),
      readParts_spells hword _ _ rfl, readParts_cons rfl (readStep_quotes _ rfl _),
      readParts_spells hname _ _ rfl, readParts_cons rfl (readStep_quotes _ rfl _)]
    -- The last part reaches to the end of the pattern.
    rw [← List.append_nil (escape ")").toList, readParts_spells hclose _ _ rfl,
      readParts_nil _ rfl]
    simp [Reading.finish, Reading.body, Reading.sequence, Reading.push, Expr.ofParts,
      callParts]
  unfold Expr.read
  simp only [hread]
  show (if (Expr.concat (callParts specifier)).depth ≤ nestLimit then _ else _) = _
  rw [depth_callParts, if_pos (by decide)]

/-! ### What the call means -/

/-- The set of the quotes, as it is put together from the class. -/
def quoteSet : CharSet := .union (.singleton '\'') (.union (.singleton '"') .empty)

/-- The node of either quote. -/
def quoteNode : Node := .ofSet (closure quoteSet)

/-- The nodes of the call, one for each character. -/
def readNodes (specifier : String) : List Node :=
  "require(".toList.map letterNode ++ quoteNode ::
    (specifier.toList.map letterNode ++ quoteNode :: ")".toList.map letterNode)

/-- The parts of the call, with words for neighbouring characters that have one case. -/
def mergedNodes (specifier : String) : List Node := (readNodes specifier).foldr Node.prepend []

theorem ofExpr_quoteClass :
    Node.ofExpr caselessFlags quoteClass = .ok (quoteNode, caselessFlags) := rfl

theorem ofExprs_cons {f f' : Flags} {e : Expr} {es : List Expr} {n : Node}
    (h : Node.ofExpr f e = .ok (n, f')) :
    Node.ofExprs f (e :: es) = (Node.ofExprs f' es).map fun (ns, f) => (n :: ns, f) := by
  rw [Node.ofExprs]
  simp only [bind, Except.bind, h]
  cases Node.ofExprs f' es <;> rfl

theorem ofExprs_letters (w : List Char) (es : List Expr) :
    Node.ofExprs caselessFlags (w.map litExpr ++ es) =
      (Node.ofExprs caselessFlags es).map fun (ns, f) => (w.map letterNode ++ ns, f) := by
  induction w with
  | nil =>
      rw [List.map_nil, List.nil_append]
      cases Node.ofExprs caselessFlags es <;> rfl
  | cons c w ih =>
      have hletter : Node.ofExpr caselessFlags (litExpr c) = .ok (letterNode c, caselessFlags) := rfl
      rw [List.map_cons, List.cons_append, ofExprs_cons hletter, ih]
      cases Node.ofExprs caselessFlags es <;> rfl

theorem ofExprs_callParts (specifier : String) :
    Node.ofExprs {} (callParts specifier) =
      .ok (.empty :: readNodes specifier, caselessFlags) := by
  have hflags : Node.ofExpr {} (.flags [(.caseless, true)]) = .ok (.empty, caselessFlags) := rfl
  have hlast : Node.ofExprs caselessFlags (")".toList.map litExpr)
      = .ok (")".toList.map letterNode, caselessFlags) := rfl
  unfold callParts
  rw [ofExprs_cons hflags, ofExprs_letters, ofExprs_cons ofExpr_quoteClass, ofExprs_letters,
    ofExprs_cons ofExpr_quoteClass, hlast]
  rfl

/-- Each character is read as a small set together with the letters that fold alike. -/
theorem mem_readNodes {specifier : String} {n : Node} (h : n ∈ readNodes specifier) :
    ∃ s : CharSet, s.bounds.length ≤ 4 ∧ n = .ofSet (closure s) := by
  have hletter : ∀ c, ∃ s : CharSet, s.bounds.length ≤ 4 ∧ letterNode c = .ofSet (closure s) :=
    fun c => ⟨.singleton c, by simp [CharSet.singleton], rfl⟩
  have hquote : ∃ s : CharSet, s.bounds.length ≤ 4 ∧ quoteNode = .ofSet (closure s) :=
    ⟨quoteSet, by decide, rfl⟩
  unfold readNodes at h
  simp only [List.mem_append, List.mem_cons, List.mem_map] at h
  rcases h with ⟨c, -, rfl⟩ | rfl | ⟨c, -, rfl⟩ | rfl | ⟨c, -, rfl⟩
  · exact hletter c
  · exact hquote
  · exact hletter c
  · exact hquote
  · exact hletter c

theorem isStraight_mergedNodes (specifier : String) :
    ∀ n ∈ mergedNodes specifier, n.IsStraight := by
  refine isStraight_foldr_prepend ?_
  intro n hn
  obtain ⟨s, -, rfl⟩ := mem_readNodes hn
  exact isStraight_ofSet _

theorem ofExpr_callPattern (specifier : String) :
    Node.ofExpr {} (.concat (callParts specifier)) =
      .ok (.sequence (mergedNodes specifier), caselessFlags) := by
  have hparts : (readNodes specifier).flatMap Node.parts = readNodes specifier := by
    have hone : ∀ n ∈ readNodes specifier, n.parts = [n] := by
      intro n hn
      obtain ⟨s, -, rfl⟩ := mem_readNodes hn
      exact parts_ofSet _
    rw [List.flatMap_congr hone, List.flatMap_singleton']
  rw [Node.ofExpr]
  simp only [bind, Except.bind, ofExprs_callParts]
  unfold Node.ofParts mergedNodes
  rw [List.flatMap_cons, Node.parts, List.nil_append, hparts]

/-- The redirect of a specifier with its call as it is read, however large that is. -/
def asRead (specifier : String) : Redirect where
  call := ⟨callPattern specifier, .sequence (mergedNodes specifier)⟩
  replacement := replacementFor specifier

/-- **The call can be read**, whatever the specifier holds. -/
theorem parse_callPattern (specifier : String) :
    parse (callPattern specifier) = .ok (asRead specifier).call := by
  unfold parse
  simp only [read_callPattern, bind, Except.bind, ofExpr_callPattern,
    number_sequence (isStraight_mergedNodes specifier)]
  rfl

theorem containsCode_quoteSet {n : Nat} :
    quoteSet.containsCode n = true ↔ n = '\''.toNat ∨ n = '"'.toNat := by
  have hempty : CharSet.empty.Ordered := List.Pairwise.nil
  have hnone : CharSet.empty.containsCode n = false := rfl
  unfold quoteSet
  rw [CharSet.containsCode_union (CharSet.ordered_singleton _)
      (CharSet.ordered_union (CharSet.ordered_singleton _) hempty),
    CharSet.containsCode_union (CharSet.ordered_singleton _) hempty,
    CharSet.containsCode_singleton, CharSet.containsCode_singleton, hnone]
  simp

/-- Quotes have no case. -/
theorem contains_closure_quoteSet (c : Char) :
    (closure quoteSet).contains c = quotes.contains c := by
  have hordered : quoteSet.Ordered :=
    CharSet.ordered_union (CharSet.ordered_singleton _)
      (CharSet.ordered_union (CharSet.ordered_singleton _) List.Pairwise.nil)
  have hfold : ∀ quote, IsQuote quote → fold c = fold quote → c = quote := by
    intro quote hquote hsame
    have hself : 0 < quote.toNat ∧ quote.toNat < 65 ∧ fold quote = quote := by
      rcases hquote with rfl | rfl <;> decide
    exact eq_of_fold_eq hself.1 hself.2.1 (hsame.trans hself.2.2)
  rw [Bool.eq_iff_iff, contains_quotes_iff]
  unfold CharSet.contains
  rw [containsCode_closure hordered]
  constructor
  · rintro ⟨m, hm, hsame⟩
    rcases containsCode_quoteSet.mp hm with rfl | rfl
    · exact Or.inl (hfold _ (Or.inl rfl) (fold_eq_iff.mpr hsame.symm))
    · exact Or.inr (hfold _ (Or.inr rfl) (fold_eq_iff.mpr hsame.symm))
  · intro hc
    refine ⟨c.toNat, containsCode_quoteSet.mpr ?_, rfl⟩
    rcases hc with rfl | rfl
    · exact Or.inl rfl
    · exact Or.inr rfl

theorem pass_quoteNode (t : Thread) : t.pass quoteNode = t.pass (.set quotes) := by
  have hself : (closure quoteSet).contains '"' = true := by
    rw [contains_closure_quoteSet]
    decide
  unfold quoteNode
  rw [Thread.pass_ofSet hself, funext contains_closure_quoteSet]
  rfl

theorem passAll_mergedNodes (specifier : String) (t : Thread) :
    t.passAll (mergedNodes specifier) = t.passAll (callNodes specifier) := by
  have hletters : ∀ w : List Char, List.Forall₂
      (fun n m => ∀ t : Thread, t.pass n = t.pass m) (w.map letterNode) (w.map .caseless) := by
    intro w
    rw [List.forall₂_map_left_iff, List.forall₂_map_right_iff]
    exact List.forall₂_same.mpr fun c _ => Thread.pass_letterNode c
  unfold mergedNodes
  rw [Thread.passAll_foldr_prepend]
  refine Thread.passAll_congr ?_ t
  unfold readNodes callNodes anyCase
  simp only [List.append_assoc, List.singleton_append]
  refine List.rel_append (hletters _) (List.Forall₂.cons pass_quoteNode ?_)
  exact List.rel_append (hletters _) (List.Forall₂.cons pass_quoteNode (hletters _))

/-! ### What a redirect does -/

theorem isStraight_callNodes (specifier : String) : ∀ n ∈ callNodes specifier, n.IsStraight :=
  fun n hn => (isSingle_callNodes specifier n hn).isStraight

/-- A redirect replaces what the nodes of a load match. -/
theorem apply_eq_replaceAll (specifier code : String) :
    (asRead specifier).apply code = String.ofList ((Node.sequence (callNodes specifier)).replaceAll
      (replacementFor specifier).toList code.toList) := by
  show String.ofList ((Node.sequence (mergedNodes specifier)).replaceAll _ _) = _
  rw [replaceAll_congr (isStraight_mergedNodes specifier) (isStraight_callNodes specifier)
    (passAll_mergedNodes specifier)]
  rfl

/-- **A redirect replaces the loads that a scanner meets.** -/
theorem apply_asRead (specifier code : String) :
    (asRead specifier).apply code = String.ofList (route [specifier] code.toList) := by
  rw [apply_eq_replaceAll, replaceAll_callNodes]

/-- A call is found nowhere exactly where there is no load of the specifier. -/
theorem find?_call_eq_none_iff {specifier : String} {text : List Char} :
    (asRead specifier).call.find? text = none ↔
      ∀ load, IsLoad specifier load → ¬ load <:+: text := by
  rw [← find?_callNodes_eq_none_iff]
  show (Node.sequence (mergedNodes specifier)).find? text = none ↔ _
  unfold Node.find?
  rw [findFrom_eq_none_iff (isStraight_mergedNodes specifier) (le_budget_straight _ _),
    findFrom_eq_none_iff (isStraight_callNodes specifier) (le_budget_straight _ _)]
  unfold passFrom
  simp only [passAll_mergedNodes]

/-- The code with the loads of each specifier replaced, one specifier after the other. -/
def replaceLoads (specifiers : List String) (code : String) : String :=
  specifiers.foldl (fun code s => String.ofList ((Node.sequence (callNodes s)).replaceAll
    (replacementFor s).toList code.toList)) code

theorem applyAll_eq_replaceLoads (specifiers : List String) (code : String) :
    applyAll (specifiers.map asRead) code = replaceLoads specifiers code := by
  unfold applyAll replaceLoads
  rw [List.foldl_map]
  simp only [apply_eq_replaceAll]

/-! ### Specifiers that are refused -/

section

variable {specifier : String}

/-- **There is a redirect for each specifier**, unless its call is too large for a pattern. -/
theorem ofSpecifier_eq_asRead (h : ¬ IsTooLarge (callPattern specifier)) :
    ofSpecifier specifier = .ok (asRead specifier) := by
  unfold ofSpecifier
  rw [compile_eq_of_not_isTooLarge (parse_callPattern specifier) h]
  rfl

theorem ofSpecifier_of_isTooLarge (h : IsTooLarge (callPattern specifier)) :
    ofSpecifier specifier = .error .tooLarge := by
  unfold ofSpecifier
  rw [h]
  rfl

/-- Several specifiers have redirects if none of their calls is too large. -/
theorem mapM_ofSpecifier_eq_ok_iff {specifiers : List String} {redirects : List Redirect} :
    specifiers.mapM ofSpecifier = .ok redirects ↔
      (∀ s ∈ specifiers, ¬ IsTooLarge (callPattern s)) ∧ redirects = specifiers.map asRead := by
  induction specifiers generalizing redirects with
  | nil =>
      show Except.ok [] = Except.ok redirects ↔ _
      simp [eq_comm]
  | cons s specifiers ih =>
      rw [List.mapM_cons, List.forall_mem_cons, List.map_cons]
      by_cases hs : IsTooLarge (callPattern s)
      · rw [ofSpecifier_of_isTooLarge hs]
        exact iff_of_false (fun h => nomatch h) (fun h => h.1.1 hs)
      · rw [ofSpecifier_eq_asRead hs]
        constructor
        · intro h
          cases hrest : specifiers.mapM ofSpecifier with
          | error e =>
              rw [hrest] at h
              cases h
          | ok rest =>
              rw [hrest] at h
              obtain ⟨hsizes, hrest⟩ := ih.mp hrest
              exact ⟨⟨hs, hsizes⟩, by rw [← Except.ok.inj h, hrest]⟩
        · rintro ⟨⟨-, hsizes⟩, rfl⟩
          rw [ih.mpr ⟨hsizes, rfl⟩]
          rfl

end

/-! ### The size of a call -/

theorem bytes_sequence {ns : List Node} (h : ns ≠ []) :
    (Node.sequence ns).bytes = (ns.map Node.bytes).sum := by
  induction ns with
  | nil => exact absurd rfl h
  | cons n ns ih =>
      cases ns with
      | nil => simp [Node.sequence]
      | cons m rest =>
          show n.bytes + (Node.sequence (m :: rest)).bytes = _
          rw [ih (by simp), List.map_cons (a := n), List.sum_cons]

/-- Two words are as large as the one that they make. -/
theorem sum_bytes_prepend (n : Node) (ns : List Node) :
    ((Node.prepend n ns).map Node.bytes).sum = n.bytes + (ns.map Node.bytes).sum := by
  unfold Node.prepend
  split
  · next cs ds ns =>
      simp only [List.map_cons, List.sum_cons, Node.bytes, String.ofList_append,
        String.utf8ByteSize_append]
      omega
  · rw [List.map_cons, List.sum_cons]

theorem sum_bytes_foldr_prepend (ns : List Node) :
    ((ns.foldr Node.prepend []).map Node.bytes).sum = (ns.map Node.bytes).sum := by
  induction ns with
  | nil => rfl
  | cons n ns ih => rw [List.foldr_cons, sum_bytes_prepend, ih, List.map_cons, List.sum_cons]

/-- A call is as large as its characters are together. -/
theorem bytes_call (specifier : String) :
    (asRead specifier).call.node.bytes = ((readNodes specifier).map Node.bytes).sum := by
  have hne : mergedNodes specifier ≠ [] := by
    intro hnil
    have hpass := passAll_mergedNodes specifier ⟨[], none, [], 0, []⟩
    rw [hnil] at hpass
    exact absurd hpass (by simp [Thread.passAll, callNodes, anyCase, Thread.pass, Thread.eatIf])
  exact (bytes_sequence hne).trans (sum_bytes_foldr_prepend _)

theorem length_readNodes (specifier : String) :
    (readNodes specifier).length = specifier.length + 11 := by
  unfold readNodes
  simp only [List.length_append, List.length_cons, List.length_map, String.length_toList]
  show "require(".length + (specifier.length + (")".length + 1) + 1) = _
  have hword : "require(".length = 8 := by decide
  have hclose : ")".length = 1 := by decide
  omega

theorem bytes_ofSet_le (s : CharSet) : (Node.ofSet s).bytes ≤ 320 + 16 * s.bounds.length := by
  unfold Node.ofSet
  split
  · next c _ =>
      have hsize : (String.ofList [c]).utf8ByteSize ≤ 4 := by
        rw [← String.singleton_eq_ofList, String.utf8ByteSize_singleton]
        exact c.utf8Size_le_four
      simp only [Node.bytes]
      omega
  · simp only [Node.bytes, setBytes]
    split <;> omega

/-- No character of a call takes more than this, for the table of letters is of this size. -/
theorem bytes_readNodes_le {specifier : String} {n : Node} (h : n ∈ readNodes specifier) :
    n.bytes ≤ 100000 := by
  obtain ⟨s, hs, rfl⟩ := mem_readNodes h
  have hset := bytes_ofSet_le (closure s)
  have hbounds := length_bounds_closure s
  have hpairs := length_pairs
  omega

/-- **The call of a short specifier is not too large.** -/
theorem not_isTooLarge_of_length_le {specifier : String} (h : specifier.length ≤ 90) :
    ¬ IsTooLarge (callPattern specifier) := by
  have hsum := List.sum_le_card_nsmul ((readNodes specifier).map Node.bytes) 100000 (by
    intro k hk
    obtain ⟨n, hn, rfl⟩ := List.mem_map.mp hk
    exact bytes_readNodes_le hn)
  rw [List.length_map, length_readNodes, smul_eq_mul] at hsum
  rw [isTooLarge_iff_of_parse (parse_callPattern specifier), not_not, bytes_call, sizeLimit]
  omega

/-- A letter with another case takes at least this. -/
theorem le_bytes_letterNode {c d : Char} (hne : d ≠ c) (h : fold d = fold c) :
    64 ≤ (letterNode c).bytes := by
  have hnone : (closure (.singleton c)).single? = none := by
    cases hsingle : (closure (.singleton c)).single? with
    | none => rfl
    | some e =>
        have hself := (contains_closure_singleton c c).mpr rfl
        have hother := (contains_closure_singleton c d).mpr h
        have hone := contains_of_single? hsingle hself
        rw [hone, beq_iff_eq] at hself hother
        exact absurd (hother.trans hself.symm) hne
  unfold letterNode Node.ofSet
  rw [hnone]
  simp only [Node.bytes, setBytes]
  split <;> omega

/-- The letters of a specifier are a part of its call. -/
theorem sum_bytes_letters_le (specifier : String) :
    ((specifier.toList.map letterNode).map Node.bytes).sum ≤
      (asRead specifier).call.node.bytes := by
  rw [bytes_call]
  unfold readNodes
  rw [List.map_append, List.sum_append, List.map_cons, List.sum_cons, List.map_append,
    List.sum_append]
  exact Nat.le_add_left_of_le (Nat.le_add_left_of_le (Nat.le_add_right _ _))

/-- **The call of many such letters is too large.** -/
theorem isTooLarge_replicate {c d : Char} (hne : d ≠ c) (h : fold d = fold c) {count : Nat}
    (hcount : sizeLimit < 64 * count) :
    IsTooLarge (callPattern (String.ofList (List.replicate count c))) := by
  have hletters := sum_bytes_letters_le (String.ofList (List.replicate count c))
  rw [String.toList_ofList, List.map_replicate, List.map_replicate, List.sum_replicate,
    smul_eq_mul] at hletters
  have hletter := Nat.mul_le_mul_left count (le_bytes_letterNode hne h)
  rw [isTooLarge_iff_of_parse (parse_callPattern _)]
  omega

end AppBuild.Redirect
