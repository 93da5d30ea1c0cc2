/-
What two trees that differ in one file have in common.

Without links a walk is a matter of the parts alone: at each it goes on to one place or
ends (`walk_cons_of_linkFree`).  So of two trees that are the same but for one file, both
walks go through the same places, and what they come to differs at most when it is the
file itself that they lead to (`walk_agrees`).

A listing is in the order of the names, and so it is determined by what stands below the
directory.  The two trees list the same directories everywhere (`directories_eq`), and
the same entries wherever neither has a file (`listing_eq`).
-/
import Mathlib.Data.List.Basic
import AppBuild.OrderedMap
import AppBuild.Proofs.Path.Place
import AppBuild.Proofs.Tree.Walk

namespace AppBuild

namespace Tree

variable {t t₁ t₂ : Tree} {links : Nat} {at_ place : Location} {part : FileName}
  {parts : List FileName}

/-! ### Walks without links -/

/-- No link stands anywhere. -/
def LinkFree (t : Tree) : Prop := ∀ at_ target, t.get? at_ ≠ some (.link target)

theorem linkFree_of_entries (h : ∀ e ∈ t.entries, ∀ target, e.2 ≠ .link target) : t.LinkFree := by
  intro at_ target hlink
  have hne : at_ ≠ [] := by
    rintro rfl
    exact absurd hlink (by simp [get?])
  exact h _ (mem_entries_of_get? hne hlink) target rfl

theorem walk_of_none (h : t.get? at_ = none) (links : Nat) (parts : List FileName) :
    t.walk true links at_ parts = .ok none := by
  cases parts with
  | nil => rw [walk_nil, h]; rfl
  | cons part rest =>
      rw [walk_cons, turn, h]

/-- At each part a walk without links goes on to one place, or ends. -/
theorem walk_cons_of_linkFree (ht : t.LinkFree) (links : Nat) (at_ : Location) (part : FileName)
    (rest : List FileName) :
    t.walk true links at_ (part :: rest) =
      match t.get? at_ with
      | none => .ok none
      | some .directory =>
        if nameLimit < part.length then .error .nameTooLong
        else t.walk true links (Path.onward at_ part) rest
      | some _ => .error .notADirectory := by
  rw [walk_cons, turn]
  cases hget : t.get? at_ with
  | none => rfl
  | some e =>
      cases e with
      | file content => rfl
      | link target => rfl
      | directory =>
          simp only
          unfold Path.onward
          by_cases hdot : part = [Path.dot]
          · simp [hdot, nameLimit]
          by_cases hup : part = [Path.dot, Path.dot]
          · simp [hup, nameLimit]
          rw [if_neg hdot, if_neg hup, if_neg hdot, if_neg hup]
          by_cases hlong : nameLimit < part.length
          · rw [if_pos hlong, if_pos hlong]
          rw [if_neg hlong, if_neg hlong]
          cases hnext : t.get? (at_ ++ [part]) with
          | none => exact (walk_of_none hnext links rest).symm
          | some e =>
              cases e with
              | directory => rfl
              | file content => rfl
              | link target => exact absurd hnext (ht _ target)

/-- What a walk without links finds is at the place that the parts lead to. -/
theorem place_of_walk (ht : t.LinkFree) {at' : Location} {e : Entry}
    (h : t.walk true links at_ parts = .ok (some (at', e))) :
    at' = parts.foldl Path.onward at_ ∧ t.get? at' = some e := by
  induction parts generalizing at_ with
  | nil =>
      rw [walk_nil, Except.ok.injEq, Option.map_eq_some_iff] at h
      obtain ⟨e', he', hpair⟩ := h
      obtain ⟨rfl, rfl⟩ := Prod.mk.inj hpair
      exact ⟨rfl, he'⟩
  | cons part rest ih =>
      rw [walk_cons_of_linkFree ht] at h
      split at h
      · exact absurd h (by simp)
      · split at h
        · exact absurd h (by simp)
        · exact ih h
      · exact absurd h (by simp)

/-! ### Trees that differ in one file -/

/-- At a place there is nothing or a file. -/
def NothingOrFile (found : Option Entry) : Prop :=
  found = none ∨ ∃ content, found = some (.file content)

theorem NothingOrFile.ne_directory {found : Option Entry} (h : NothingOrFile found) :
    found ≠ some .directory := by
  rcases h with rfl | ⟨content, rfl⟩ <;> simp

/-- The trees have no links, and they are the same but for a place where each has nothing or a
file. -/
structure DifferInFile (t₁ t₂ : Tree) (place : Location) : Prop where
  linkFree₁ : t₁.LinkFree
  linkFree₂ : t₂.LinkFree
  elsewhere : ∀ at_, at_ ≠ place → t₁.get? at_ = t₂.get? at_
  first : NothingOrFile (t₁.get? place)
  second : NothingOrFile (t₂.get? place)

theorem DifferInFile.symm (h : DifferInFile t₁ t₂ place) : DifferInFile t₂ t₁ place where
  linkFree₁ := h.linkFree₂
  linkFree₂ := h.linkFree₁
  elsewhere at_ hne := (h.elsewhere at_ hne).symm
  first := h.second
  second := h.first

theorem get?_insert_of_ne (t : Tree) (e : Entry) (hne : at_ ≠ place) :
    (t.insert place e).get? at_ = t.get? at_ := by
  unfold insert
  split
  · have hbeq : (at_ == place) = false := by simpa using hne
    unfold get?
    rw [List.lookup_cons, hbeq, OrderedMap.lookup_filter_ne, if_neg hne]
  · rfl

/-- Writing a file where there is nothing or a file makes that difference. -/
theorem differInFile_insert (ht : t.LinkFree) (hplace : NothingOrFile (t.get? place))
    (content : List UInt8) : t.DifferInFile (t.insert place (.file content)) place := by
  have hsecond : NothingOrFile ((t.insert place (.file content)).get? place) := by
    by_cases hnames : ∀ name ∈ place, IsName name
    · have hne : place ≠ [] := by
        rintro rfl
        exact hplace.ne_directory rfl
      exact .inr ⟨content, get?_insert_self t _ hne hnames⟩
    · rw [insert, dif_neg hnames]
      exact hplace
  refine ⟨ht, fun at_ target hlink => ?_, fun at_ hne => (get?_insert_of_ne t _ hne).symm, hplace,
    hsecond⟩
  by_cases hat : at_ = place
  · rw [hat] at hlink
    rcases hsecond with hnone | ⟨content, hfile⟩
    · rw [hnone] at hlink
      exact absurd hlink (by simp)
    · rw [hfile] at hlink
      exact absurd hlink (by simp)
  · rw [get?_insert_of_ne t _ hat] at hlink
    exact ht at_ target hlink

/-- What was found is nothing, or a file at the place. -/
def AtMostFile (place : Location) (found : Option (Location × Entry)) : Prop :=
  found = none ∨ ∃ content, found = some (place, .file content)

/-- What was found is the same, or at most the file at the place in either. -/
def FoundAlike (place : Location) (found₁ found₂ : Option (Location × Entry)) : Prop :=
  found₁ = found₂ ∨ AtMostFile place found₁ ∧ AtMostFile place found₂

theorem AtMostFile.ne_directory {found : Option (Location × Entry)} (h : AtMostFile place found)
    (at_ : Location) : found ≠ some (at_, .directory) := by
  rcases h with rfl | ⟨content, rfl⟩ <;> simp

/-- A directory is found in both or in neither. -/
theorem FoundAlike.directory_iff {found₁ found₂ : Option (Location × Entry)}
    (h : FoundAlike place found₁ found₂) (at_ : Location) :
    found₁ = some (at_, .directory) ↔ found₂ = some (at_, .directory) := by
  rcases h with rfl | ⟨hfile₁, hfile₂⟩
  · exact Iff.rfl
  · exact iff_of_false (hfile₁.ne_directory at_) (hfile₂.ne_directory at_)

theorem AtMostFile.of_walk (h : NothingOrFile (t.get? place))
    {found : Option (Location × Entry)} (hwalk : t.walk true links place parts = .ok found) :
    AtMostFile place found := by
  cases parts with
  | nil =>
      rw [walk_nil, Except.ok.injEq] at hwalk
      rw [← hwalk]
      rcases h with hnone | ⟨content, hfile⟩
      · exact .inl (by rw [hnone]; rfl)
      · exact .inr ⟨content, by rw [hfile]; rfl⟩
  | cons part rest =>
      rcases h with hnone | ⟨content, hfile⟩
      · rw [walk_of_none hnone, Except.ok.injEq] at hwalk
        exact .inl hwalk.symm
      · rw [walk_cons, turn, hfile] at hwalk
        exact absurd hwalk (by simp)

/-- **Walks in trees that differ in one file find the same, or at most the file.** -/
theorem walk_agrees (h : DifferInFile t₁ t₂ place) {found₁ found₂ : Option (Location × Entry)}
    (hwalk₁ : t₁.walk true links at_ parts = .ok found₁)
    (hwalk₂ : t₂.walk true links at_ parts = .ok found₂) : FoundAlike place found₁ found₂ := by
  -- Until it gets to the place a walk sees the same in both trees, and from there none goes on.
  induction parts generalizing at_ with
  | nil =>
      by_cases hat : at_ = place
      · subst hat
        exact .inr ⟨.of_walk h.first hwalk₁, .of_walk h.second hwalk₂⟩
      · rw [walk_nil, Except.ok.injEq] at hwalk₁ hwalk₂
        rw [h.elsewhere at_ hat] at hwalk₁
        exact .inl (hwalk₁.symm.trans hwalk₂)
  | cons part rest ih =>
      by_cases hat : at_ = place
      · subst hat
        exact .inr ⟨.of_walk h.first hwalk₁, .of_walk h.second hwalk₂⟩
      rw [walk_cons_of_linkFree h.linkFree₁, h.elsewhere at_ hat] at hwalk₁
      rw [walk_cons_of_linkFree h.linkFree₂] at hwalk₂
      cases hget : t₂.get? at_ with
      | none =>
          rw [hget] at hwalk₁ hwalk₂
          exact .inl (Except.ok.inj (hwalk₁.symm.trans hwalk₂))
      | some e =>
          cases e with
          | file content =>
              rw [hget] at hwalk₁
              exact absurd hwalk₁ (by simp)
          | link target => exact absurd hget (h.linkFree₂ at_ target)
          | directory =>
              simp only [hget] at hwalk₁ hwalk₂
              by_cases hlong : nameLimit < part.length
              · rw [if_pos hlong] at hwalk₁
                exact absurd hwalk₁ (by simp)
              · rw [if_neg hlong] at hwalk₁ hwalk₂
                exact ih hwalk₁ hwalk₂

/-! ### Listings -/

/-- Names are in the order of their bytes. -/
theorem nameBefore_iff (a b : FileName) : nameBefore a b = true ↔ a ≤ b := by
  induction a generalizing b with
  | nil => simp [nameBefore]
  | cons x a ih =>
      cases b with
      | nil => simp [nameBefore]
      | cons y b =>
          unfold nameBefore
          rw [List.cons_le_cons_iff]
          split
          · next hxy => simp [hxy, ih]
          · next hxy => simp [hxy]

theorem nodup_eraseDups {α : Type} [BEq α] [LawfulBEq α] (as : List α) : as.eraseDups.Nodup := by
  match as with
  | [] => simp
  | a :: as =>
      rw [List.eraseDups_cons, List.nodup_cons]
      refine ⟨?_, nodup_eraseDups (as.filter fun b => !b == a)⟩
      simp [List.mem_eraseDups]
  termination_by as.length
  decreasing_by exact Nat.lt_succ_of_le (List.length_filter_le _ _)

/-- A listing is in the order of the names, and has each of them once. -/
theorem pairwise_listing (t : Tree) (at_ : Location) :
    (t.listing at_).Pairwise fun a b => a.1 ≤ b.1 ∧ a.1 ≠ b.1 := by
  have htrans : ∀ a b c, nameBefore a b = true → nameBefore b c = true → nameBefore a c = true := by
    intro a b c hab hbc
    rw [nameBefore_iff] at hab hbc ⊢
    exact List.le_trans hab hbc
  have htotal : ∀ a b, (nameBefore a b || nameBefore b a) = true := by
    intro a b
    rw [Bool.or_eq_true, nameBefore_iff, nameBefore_iff]
    exact List.le_total a b
  have hnames : (t.names at_).Pairwise fun a b => a ≤ b ∧ a ≠ b := by
    refine List.Pairwise.and ?_ ((List.mergeSort_perm _ _).nodup_iff.mpr (nodup_eraseDups _))
    exact (List.pairwise_mergeSort htrans htotal _).imp fun {a b} h => (nameBefore_iff a b).mp h
  refine List.Pairwise.filterMap _ (fun a b hab x hx y hy => ?_) hnames
  obtain ⟨e, -, rfl⟩ := Option.map_eq_some_iff.mp hx
  obtain ⟨e', -, rfl⟩ := Option.map_eq_some_iff.mp hy
  exact hab

/-- **Two listings in which the same stands that counts are the same as far as it counts.** -/
theorem filter_listing_eq {at₁ at₂ : Location} (keep : FileName × Entry → Bool)
    (h : ∀ x, keep x = true → (x ∈ t₁.listing at₁ ↔ x ∈ t₂.listing at₂)) :
    (t₁.listing at₁).filter keep = (t₂.listing at₂).filter keep := by
  have hpairwise : ∀ (t : Tree) (at_ : Location), ((t.listing at_).filter keep).Pairwise
      fun a b => a.1 ≤ b.1 ∧ a.1 ≠ b.1 := fun t at_ => (t.pairwise_listing at_).filter _
  have hnodup : ∀ (t : Tree) (at_ : Location), ((t.listing at_).filter keep).Nodup := by
    intro t at_
    refine (hpairwise t at_).imp (fun {a b} hab heq => hab.2 (by rw [heq]))
  have hperm : ((t₁.listing at₁).filter keep).Perm ((t₂.listing at₂).filter keep) := by
    rw [List.perm_ext_iff_of_nodup (hnodup t₁ at₁) (hnodup t₂ at₂)]
    intro x
    rw [List.mem_filter, List.mem_filter]
    exact and_congr_left fun hx => h x hx
  refine List.Perm.eq_of_pairwise (fun a b _ _ hab hba => ?_) (hpairwise t₁ at₁)
    (hpairwise t₂ at₂) hperm
  exact absurd (List.le_antisymm hab.1 hba.1) hab.2

/-- Where the same stands below two places, they have one listing. -/
theorem listing_congr {at₁ at₂ : Location}
    (h : ∀ name, t₁.get? (at₁ ++ [name]) = t₂.get? (at₂ ++ [name])) :
    t₁.listing at₁ = t₂.listing at₂ := by
  have hall : (t₁.listing at₁).filter (fun _ => true) = (t₂.listing at₂).filter (fun _ => true) :=
    filter_listing_eq _ fun x _ => by rw [mem_listing, mem_listing, h]
  rwa [List.filter_true, List.filter_true] at hall

/-- **Trees that differ in one file list the same directories.** -/
theorem DifferInFile.directories_eq (h : DifferInFile t₁ t₂ place) (at_ : Location) :
    (t₁.listing at_).filter (fun x => x.2 = .directory) =
      (t₂.listing at_).filter (fun x => x.2 = .directory) := by
  refine filter_listing_eq _ (fun x hx => ?_)
  obtain ⟨name, e⟩ := x
  have he : e = .directory := by simpa using hx
  subst he
  rw [mem_listing, mem_listing]
  by_cases hat : at_ ++ [name] = place
  · rw [hat]
    exact iff_of_false h.first.ne_directory h.second.ne_directory
  · rw [h.elsewhere _ hat]

/-- Where neither has a file in a directory, they list the same there. -/
theorem DifferInFile.listing_eq (h : DifferInFile t₁ t₂ place)
    (hno₁ : ∀ name content, t₁.get? (at_ ++ [name]) ≠ some (.file content))
    (hno₂ : ∀ name content, t₂.get? (at_ ++ [name]) ≠ some (.file content)) :
    t₁.listing at_ = t₂.listing at_ := by
  refine listing_congr fun name => ?_
  by_cases hat : at_ ++ [name] = place
  · have hfirst := h.first
    have hsecond := h.second
    rw [← hat] at hfirst hsecond
    rcases hfirst with hnone₁ | ⟨content, hfile⟩
    · rcases hsecond with hnone₂ | ⟨content, hfile⟩
      · rw [hnone₁, hnone₂]
      · exact absurd hfile (hno₂ name content)
    · exact absurd hfile (hno₁ name content)
  · exact h.elsewhere _ hat

end Tree

/-! ### Paths on disks -/

namespace Disk

variable {t t₁ t₂ : Tree} {cwd : Option Path} {p : Path} {place : Location}

theorem locate_of_absolute (d : Disk) (h : p.isAbsolute = true) :
    d.locate p = if pathLimit < p.bytes.length then .error .nameTooLong
      else d.tree.walk true linkLimit [] p.segments := by
  have hne : p.bytes.isEmpty = false := by
    cases hbytes : p.bytes with
    | nil =>
        unfold Path.isAbsolute at h
        rw [hbytes] at h
        exact absurd h (by decide)
    | cons b bs => rfl
  unfold locate origin?
  simp only [hne, h, Bool.false_eq_true, if_false, if_true]

/-- Without links a path leads to the place that it names. -/
theorem place_of_locate (ht : t.LinkFree) (habs : p.isAbsolute = true) {at_ : Location} {e : Entry}
    (h : (⟨t, cwd⟩ : Disk).locate p = .ok (some (at_, e))) :
    at_ = p.place ∧ t.get? at_ = some e := by
  rw [locate_of_absolute _ habs] at h
  split at h
  · exact absurd h (by simp)
  have hplace : p.segments.foldl Path.onward [] = p.place := by
    rw [Path.segments_eq]
    split
    · rw [List.foldl_append]
      simp [Path.onward, Path.place]
    · rfl
  rw [← hplace]
  exact Tree.place_of_walk ht h

/-- **On disks that differ in one file a path leads to the same, or at most to the file.** -/
theorem locate_agrees (h : t₁.DifferInFile t₂ place) (habs : p.isAbsolute = true)
    {found₁ found₂ : Option (Location × Entry)}
    (hlocate₁ : (⟨t₁, cwd⟩ : Disk).locate p = .ok found₁)
    (hlocate₂ : (⟨t₂, cwd⟩ : Disk).locate p = .ok found₂) :
    Tree.FoundAlike place found₁ found₂ := by
  rw [locate_of_absolute _ habs] at hlocate₁ hlocate₂
  split at hlocate₁
  · exact absurd hlocate₁ (by simp)
  next hshort =>
    rw [if_neg hshort] at hlocate₂
    exact Tree.walk_agrees h hlocate₁ hlocate₂

end Disk
end AppBuild
