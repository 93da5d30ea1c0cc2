/-
Where walks lead.

At each part of a path a walk either ends, with a fault or at nothing, or turns to
another place with fewer links to spare (`turn`).  What it does there does not hang on
the parts that come later.  So a walk along a path that is a part of another either
spoils the whole, or arrives at a place from which the rest is walked as if it were all
(`walk_ends_or_arrives`).  From a directory that a path leads to, paths can therefore be
followed by what stands below it alone (`locate_join`).

Links are a resource: a walk that did not run out of them does the same with more
(`walk_of_le`).
-/
import AppBuild.Proofs.Path.Route

namespace AppBuild

namespace Tree

variable {t : Tree}

/-! ### Names in directories -/

theorem get?_eq_lookup (t : Tree) {at_ : Location} (h : at_ ≠ []) :
    t.get? at_ = t.entries.lookup at_ := by
  unfold get?
  rw [if_neg h]

theorem mem_entries_of_get? {at_ : Location} {e : Entry} (hne : at_ ≠ [])
    (h : t.get? at_ = some e) : (at_, e) ∈ t.entries := by
  rw [get?_eq_lookup t hne] at h
  obtain ⟨before, after, hentries, -⟩ := List.lookup_eq_some_iff.mp h
  rw [hentries]
  simp

/-- A name in a directory is a name. -/
theorem isName_of_get? {at_ : Location} {name : FileName} {e : Entry}
    (h : t.get? (at_ ++ [name]) = some e) : IsName name :=
  t.named _ (mem_entries_of_get? (by simp) h) name (by simp)

theorem nameBelow?_append (at_ : Location) (name : FileName) :
    nameBelow? at_ (at_ ++ [name]) = some name := by
  simp [nameBelow?]

/-- What stands directly below a place is among the names there. -/
theorem mem_names {at_ : Location} {name : FileName} {e : Entry}
    (h : t.get? (at_ ++ [name]) = some e) : name ∈ t.names at_ := by
  unfold names
  rw [List.mem_mergeSort, List.mem_eraseDups]
  exact List.mem_filterMap.mpr
    ⟨_, mem_entries_of_get? (by simp) h, nameBelow?_append at_ name⟩

/-- The names in a directory with what is there. -/
def listing (t : Tree) (at_ : Location) : List (FileName × Entry) :=
  (t.names at_).filterMap fun name => (t.get? (at_ ++ [name])).map (name, ·)

/-- The listing of a directory holds what is there. -/
theorem mem_listing {at_ : Location} {name : FileName} {e : Entry} :
    (name, e) ∈ t.listing at_ ↔ t.get? (at_ ++ [name]) = some e := by
  unfold listing
  rw [List.mem_filterMap]
  constructor
  · rintro ⟨other, -, hother⟩
    obtain ⟨e', he', hpair⟩ := Option.map_eq_some_iff.mp hother
    obtain ⟨rfl, rfl⟩ := Prod.mk.inj hpair
    exact he'
  · intro hget
    exact ⟨name, mem_names hget, by rw [hget]; rfl⟩

/-! ### One part of a path -/

/-- What a walk that follows all links comes to at one part. -/
inductive Turn where
  | ends (result : Except Fault (Option (Location × Entry)))
  /-- It goes on at a place, with so many links to spare, and first through these parts. -/
  | goesOn (links : Nat) (at_ : Location) (first : List FileName)

/-- What a walk that follows all links comes to at one part. -/
def turn (t : Tree) (links : Nat) (at_ : Location) (part : FileName) : Turn :=
  match t.get? at_ with
  | none => .ends (.ok none)
  | some (.file _) => .ends (.error .notADirectory)
  | some (.link _) => .ends (.error .notADirectory)
  | some .directory =>
    if part = [Path.dot] then .goesOn links at_ []
    else if part = [Path.dot, Path.dot] then .goesOn links at_.dropLast []
    else if nameLimit < part.length then .ends (.error .nameTooLong)
    else
      match t.get? (at_ ++ [part]) with
      | none => .ends (.ok none)
      | some (.link target) =>
        match links with
        | 0 => .ends (.error .linkLoop)
        | links + 1 => .goesOn links (if target.isAbsolute then [] else at_) target.segments
      | some _ => .goesOn links (at_ ++ [part]) []

theorem walk_nil (t : Tree) (links : Nat) (at_ : Location) :
    t.walk true links at_ [] = .ok ((t.get? at_).map (at_, ·)) := by
  rw [walk]

theorem walk_cons (t : Tree) (links : Nat) (at_ : Location) (part : FileName)
    (rest : List FileName) :
    t.walk true links at_ (part :: rest) =
      match t.turn links at_ part with
      | .ends result => result
      | .goesOn links at_ first => t.walk true links at_ (first ++ rest) := by
  rw [walk, turn]
  cases t.get? at_ with
  | none => rfl
  | some e =>
      cases e with
      | file content => rfl
      | link target => rfl
      | directory =>
          simp only
          split
          · rfl
          split
          · rfl
          split
          · rfl
          simp only [Bool.not_true, Bool.and_false, Bool.false_eq_true, if_false]
          cases t.get? (at_ ++ [part]) with
          | none => rfl
          | some e =>
              cases e with
              | directory => rfl
              | file content => rfl
              | link target => cases links <;> rfl

/-- A turn that ends the walk has not found anything. -/
theorem turn_ends_ne {links : Nat} {at_ : Location} {part : FileName}
    {result : Except Fault (Option (Location × Entry))}
    (h : t.turn links at_ part = .ends result) (x : Location × Entry) :
    result ≠ .ok (some x) := by
  unfold turn at h
  repeat' split at h
  all_goals cases h
  all_goals simp

/-- A turn takes a link away or the part itself. -/
theorem turn_goesOn {links links' : Nat} {at_ at' : Location} {part : FileName}
    {first : List FileName} (h : t.turn links at_ part = .goesOn links' at' first) :
    links' < links ∨ links' = links ∧ first = [] := by
  unfold turn at h
  repeat' split at h
  all_goals cases h
  all_goals simp

/-- With more links a turn is the same, unless there were none to spare. -/
theorem turn_of_le {links more : Nat} (hle : links ≤ more) (at_ : Location) (part : FileName) :
    t.turn links at_ part = .ends (.error .linkLoop) ∨
      t.turn more at_ part =
        match t.turn links at_ part with
        | .ends result => .ends result
        | .goesOn links' at' first => .goesOn (links' + (more - links)) at' first := by
  obtain ⟨extra, rfl⟩ := Nat.exists_eq_add_of_le hle
  rw [Nat.add_sub_cancel_left]
  unfold turn
  repeat' split
  all_goals first
    | exact .inl rfl
    | exact .inr rfl
    | skip
  all_goals simp_all
  all_goals omega

/-! ### Whole walks -/

/-- A walk along the parts gets to a place, with so many links to spare, whatever comes after. -/
structure Arrives (t : Tree) (links : Nat) (at_ : Location) (along : List FileName)
    (links' : Nat) (at' : Location) : Prop where
  le : links' ≤ links
  walk_append : ∀ rest, t.walk true links at_ (along ++ rest) = t.walk true links' at' rest

theorem Arrives.cons {links links' links'' : Nat} {at_ at' at'' : Location} {part : FileName}
    {first along : List FileName} (hturn : t.turn links at_ part = .goesOn links' at' first)
    (h : t.Arrives links' at' (first ++ along) links'' at'') :
    t.Arrives links at_ (part :: along) links'' at'' := by
  have hle : links' ≤ links := by
    rcases turn_goesOn hturn with hlt | ⟨heq, -⟩ <;> omega
  refine ⟨Nat.le_trans h.le hle, fun rest => ?_⟩
  rw [List.cons_append, walk_cons, hturn]
  simp only
  rw [← List.append_assoc, h.walk_append]

/-- A walk along a part of a path ends there, or arrives somewhere. -/
theorem walk_ends_or_arrives (t : Tree) (links : Nat) (at_ : Location)
    (along : List FileName) :
    (∃ result, (∀ x, result ≠ .ok (some x)) ∧
      ∀ rest, t.walk true links at_ (along ++ rest) = result) ∨
    ∃ links' at', t.Arrives links at_ along links' at' := by
  cases along with
  | nil => exact .inr ⟨links, at_, Nat.le_refl _, fun rest => rfl⟩
  | cons part along =>
      cases hturn : t.turn links at_ part with
      | ends result =>
          refine .inl ⟨result, turn_ends_ne hturn, fun rest => ?_⟩
          rw [List.cons_append, walk_cons, hturn]
      | goesOn links' at' first =>
          have hmeasure := turn_goesOn hturn
          rcases walk_ends_or_arrives t links' at' (first ++ along) with
            ⟨result, hnothing, hends⟩ | ⟨links'', at'', harrives⟩
          · refine .inl ⟨result, hnothing, fun rest => ?_⟩
            rw [List.cons_append, walk_cons, hturn]
            simp only
            rw [← List.append_assoc, hends]
          · exact .inr ⟨links'', at'', harrives.cons hturn⟩
  termination_by (links, along.length)
  decreasing_by
    rcases hmeasure with hlt | ⟨rfl, rfl⟩
    · exact Prod.Lex.left _ _ hlt
    · exact Prod.Lex.right _ (by simp)

/-- A walk that finds something on the way arrives there. -/
theorem arrives_of_walk {links : Nat} {at_ : Location} {along rest : List FileName}
    {x : Location × Entry} (h : t.walk true links at_ (along ++ rest) = .ok (some x)) :
    ∃ links' at', t.Arrives links at_ along links' at' := by
  rcases walk_ends_or_arrives t links at_ along with ⟨result, hnothing, hends⟩ | harrives
  · exact absurd ((hends rest).symm.trans h) (hnothing x)
  · exact harrives

/-- A walk that did not run out of links does the same with more. -/
theorem walk_of_le {links more : Nat} (hle : links ≤ more) (at_ : Location)
    (along : List FileName) (h : t.walk true links at_ along ≠ .error .linkLoop) :
    t.walk true more at_ along = t.walk true links at_ along := by
  cases along with
  | nil => rw [walk_nil, walk_nil]
  | cons part along =>
      rw [walk_cons] at h ⊢
      rw [walk_cons t links]
      rcases turn_of_le hle at_ part with hloop | hturn
      · rw [hloop] at h
        exact absurd rfl h
      · rw [hturn]
        cases hthis : t.turn links at_ part with
        | ends result => rfl
        | goesOn links' at' first =>
            rw [hthis] at h
            have hmeasure := turn_goesOn hthis
            exact walk_of_le (by omega) at' (first ++ along) h
  termination_by (links, along.length)
  decreasing_by
    rcases hmeasure with hlt | ⟨rfl, rfl⟩
    · exact Prod.Lex.left _ _ hlt
    · exact Prod.Lex.right _ (by subst_vars; simp)

theorem walk_nil_directory {links : Nat} {at_ at' : Location}
    (h : t.walk true links at_ [] = .ok (some (at', .directory))) :
    at_ = at' ∧ t.get? at' = some .directory := by
  rw [walk_nil, Except.ok.injEq, Option.map_eq_some_iff] at h
  obtain ⟨e, he, hpair⟩ := h
  obtain ⟨rfl, rfl⟩ := Prod.mk.inj hpair
  exact ⟨rfl, he⟩

/-- A walk that ends at a directory, with or without a dot after it, arrives there. -/
theorem arrives_of_directory {links : Nat} {at_ at' : Location} {along : List FileName}
    (h : t.walk true links at_ along = .ok (some (at', .directory)) ∨
      t.walk true links at_ (along ++ [[Path.dot]]) = .ok (some (at', .directory))) :
    t.get? at' = some .directory ∧ ∃ links', t.Arrives links at_ along links' at' := by
  rcases h with h | h
  · rw [← List.append_nil along] at h
    obtain ⟨links', at'', harrives⟩ := arrives_of_walk h
    rw [harrives.walk_append] at h
    obtain ⟨rfl, hdir⟩ := walk_nil_directory h
    exact ⟨hdir, links', harrives⟩
  · obtain ⟨links', at'', harrives⟩ := arrives_of_walk h
    rw [harrives.walk_append, walk_cons] at h
    cases hget : t.get? at'' with
    | none => simp [turn, hget] at h
    | some e =>
        cases e with
        | file content => simp [turn, hget] at h
        | link target => simp [turn, hget] at h
        | directory =>
            simp only [turn, hget, if_true, List.nil_append] at h
            obtain ⟨rfl, hdir⟩ := walk_nil_directory h
            exact ⟨hdir, links', harrives⟩

/-- From a directory a name leads to what is there, unless it is too long or a link. -/
theorem walk_name {links : Nat} {at_ : Location} {name : FileName}
    (hdir : t.get? at_ = some .directory) (hname : IsName name)
    (hsub : t.get? (at_ ++ [name]) = some .directory) :
    t.walk true links at_ [name] =
      if nameLimit < name.length then .error .nameTooLong
      else .ok (some (at_ ++ [name], .directory)) := by
  have hturn : t.turn links at_ name =
      if nameLimit < name.length then .ends (.error .nameTooLong)
      else .goesOn links (at_ ++ [name]) [] := by
    simp only [turn, hdir, hname.2.2.1, hname.2.2.2, if_false, hsub]
  rw [walk_cons, hturn]
  by_cases hlong : nameLimit < name.length
  · rw [if_pos hlong, if_pos hlong]
  · rw [if_neg hlong, if_neg hlong]
    simp [walk_nil, hsub]

/-- A walk goes to a file, and cannot go on from there. -/
theorem walk_past_file {links : Nat} {at_ : Location} {name next : FileName}
    {content : List UInt8} (hdir : t.get? at_ = some .directory)
    (hfile : t.get? (at_ ++ [name]) = some (.file content)) (rest : List FileName) :
    t.walk true links at_ (name :: next :: rest) =
      if nameLimit < name.length then .error .nameTooLong else .error .notADirectory := by
  have hname := isName_of_get? hfile
  have hturn : t.turn links at_ name =
      if nameLimit < name.length then .ends (.error .nameTooLong)
      else .goesOn links (at_ ++ [name]) [] := by
    simp only [turn, hdir, hname.2.2.1, hname.2.2.2, if_false, hfile]
  rw [walk_cons, hturn]
  by_cases hlong : nameLimit < name.length
  · rw [if_pos hlong, if_pos hlong]
  · rw [if_neg hlong, if_neg hlong]
    simp only [List.nil_append]
    rw [walk_cons, turn, hfile]

end Tree

/-! ### Paths on a disk -/

namespace Disk

variable {d : Disk}

theorem origin?_join (d : Disk) (p : Path) {q : Path} (hq : q.isAbsolute = false) :
    d.origin? (p.join q) = d.origin? p := by
  unfold origin?
  rw [Path.isAbsolute_join, hq, Bool.false_or]

/-- A path that leads to a directory is walked there part by part. -/
theorem arrives_of_locate {dir : Path} {at_ : Location}
    (h : d.locate dir = .ok (some (at_, .directory))) :
    d.tree.get? at_ = some .directory ∧ ∃ start links, d.origin? dir = some start ∧
      d.tree.Arrives linkLimit start dir.parts links at_ := by
  unfold locate at h
  split at h
  · exact absurd h (by simp)
  split at h
  · exact absurd h (by simp)
  cases hstart : d.origin? dir with
  | none => simp [hstart] at h
  | some start =>
      simp only [hstart] at h
      have hwalk : d.tree.walk true linkLimit start dir.parts = .ok (some (at_, .directory)) ∨
          d.tree.walk true linkLimit start (dir.parts ++ [[Path.dot]])
            = .ok (some (at_, .directory)) := by
        rw [Path.segments_eq] at h
        split at h
        · exact .inr h
        · exact .inl h
      obtain ⟨hdir, links, harrives⟩ := Tree.arrives_of_directory hwalk
      exact ⟨hdir, start, links, rfl, harrives⟩

/-- **From a directory that a path leads to, the parts that follow are walked.** -/
theorem locate_join {dir : Path} {at_ : Location}
    (h : d.locate dir = .ok (some (at_, .directory))) :
    d.tree.get? at_ = some .directory ∧ ∃ links ≤ linkLimit, ∀ q : Path, q.IsBelow →
      d.locate (dir.join q) =
        if pathLimit < (dir.join q).bytes.length then .error .nameTooLong
        else d.tree.walk true links at_ q.parts := by
  obtain ⟨hdir, start, links, hstart, harrives⟩ := arrives_of_locate h
  refine ⟨hdir, links, harrives.le, fun q hq => ?_⟩
  have hjoin : (dir.join q).bytes.isEmpty = false := by
    rw [Path.bytes_join dir hq.relative]
    simp [hq.ne_nil]
  unfold locate
  simp only [hjoin, Bool.false_eq_true, if_false, origin?_join d dir hq.relative, hstart,
    Path.segments_join dir hq, harrives.walk_append]

/-- Short of the limits, what stands below a directory is found by a walk from there. -/
theorem locate_join_eq_walk {dir : Path} {at_ : Location}
    (h : d.locate dir = .ok (some (at_, .directory))) {q : Path} (hq : q.IsBelow)
    (hlong : d.locate (dir.join q) ≠ .error .nameTooLong)
    (hloop : d.locate (dir.join q) ≠ .error .linkLoop) :
    d.locate (dir.join q) = d.tree.walk true linkLimit at_ q.parts := by
  obtain ⟨-, links, hle, hjoin⟩ := locate_join h
  have hshort : ¬ pathLimit < (dir.join q).bytes.length := by
    intro hover
    rw [hjoin q hq, if_pos hover] at hlong
    exact hlong rfl
  rw [hjoin q hq, if_neg hshort] at hloop ⊢
  exact (Tree.walk_of_le hle at_ q.parts hloop).symm

/-- A directory below one that a path leads to is found by its name, unless the name or the path is
too long. -/
theorem locate_name {dir : Path} {at_ : Location} {name : FileName}
    (h : d.locate dir = .ok (some (at_, .directory)))
    (hsub : d.tree.get? (at_ ++ [name]) = some .directory) :
    d.locate (dir.join ⟨name⟩) = .ok (some (at_ ++ [name], .directory)) ∨
      d.locate (dir.join ⟨name⟩) = .error .nameTooLong := by
  obtain ⟨hdir, links, -, hjoin⟩ := locate_join h
  have hname := Tree.isName_of_get? hsub
  rw [hjoin ⟨name⟩ (Path.isBelow_name hname), Path.parts_name hname,
    Tree.walk_name hdir hname hsub]
  split
  · exact .inr rfl
  split
  · exact .inr rfl
  · exact .inl rfl

theorem list_eq_listing {p : Path} {at_ : Location}
    (h : d.locate p = .ok (some (at_, .directory))) : d.list p = .ok (d.tree.listing at_) := by
  unfold list
  rw [h]
  rfl

/-- What is no directory has an empty listing. -/
theorem list_eq_nil {p : Path} {found : Option (Location × Entry)} (h : d.locate p = .ok found)
    (hno : ∀ at_, found ≠ some (at_, .directory)) : d.list p = .ok [] := by
  unfold list
  rw [h]
  rcases found with _ | ⟨at_, _ | content | target⟩
  · rfl
  · exact absurd rfl (hno at_)
  · rfl
  · rfl

end Disk
end AppBuild
