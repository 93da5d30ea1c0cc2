/-
The places that paths name.

Where no link is on the way, a path from the root leads to one place, or to nothing,
and which place that is can be read off the path (`place`).  It is also the place of
what the path is resolved to, in whatever working directory (`place_resolve`).  So of
resolved paths nothing but their places matters: one is within another when its place
is (`isWithin_resolve`), and the text of a path as seen from another is that of the
names in between (`relative_eq`).  It is spelled by the names of its place (`bytes_resolve`),
and those are parts of what it was resolved from.
-/
import AppBuild.Proofs.Path.Route
import AppBuild.Proofs.Text.Lossy
import Mathlib.Data.List.Induction

namespace AppBuild

/-! ### What a path names -/

namespace Path

/-- Where a part of a path leads from a place if it is no link there. -/
def onward (at_ : Location) (part : FileName) : Location :=
  if part = [dot] then at_
  else if part = [dot, dot] then at_.dropLast
  else at_ ++ [part]

/-- The place that a path from the root names. -/
def place (p : Path) : Location := p.parts.foldl onward []

theorem onward_name {name : FileName} (h : IsName name) (at_ : Location) :
    onward at_ name = at_ ++ [name] := by
  unfold onward
  rw [if_neg h.2.2.1, if_neg h.2.2.2]

/-- Names lead straight down. -/
theorem foldl_onward_names {names : List FileName} (h : ∀ name ∈ names, IsName name)
    (at_ : Location) : names.foldl onward at_ = at_ ++ names := by
  induction names generalizing at_ with
  | nil => simp
  | cons name names ih =>
      rw [List.foldl_cons, onward_name (h name (by simp)), ih (fun n hn => h n (by simp [hn])),
        List.append_assoc, List.singleton_append]

theorem place_join (p : Path) {q : Path} (hq : q.isAbsolute = false) :
    (p.join q).place = q.parts.foldl onward p.place := by
  unfold place
  rw [parts_join p hq, List.foldl_append]

theorem place_join_name (p : Path) {name : FileName} (h : IsName name) :
    (p.join ⟨name⟩).place = p.place ++ [name] := by
  rw [place_join p (isAbsolute_name h), parts_name h, List.foldl_cons, onward_name h,
    List.foldl_nil]

/-- There is no way up from the root, and none is taken. -/
theorem advance_up (at_ : Location) :
    Route.advance true (at_.map Step.into).reverse .up = (at_.dropLast.map Step.into).reverse := by
  rcases List.eq_nil_or_concat at_ with rfl | ⟨above, last, rfl⟩
  · rfl
  · simp [Route.advance]

/-- The parts of a path lead to a place as its steps do. -/
theorem map_into_foldl_onward {parts : List FileName} (h : ∀ part ∈ parts, part ≠ [])
    (at_ : Location) :
    (parts.foldl onward at_).map Step.into =
      ((parts.filterMap Step.ofPart?).foldl (Route.advance true)
        (at_.map Step.into).reverse).reverse := by
  induction parts generalizing at_ with
  | nil => simp
  | cons part parts ih =>
      have hne : part.isEmpty = false := by simpa using h part (by simp)
      rw [List.foldl_cons, ih (fun p hp => h p (by simp [hp]))]
      by_cases hdot : part = [dot]
      · have hstep : Step.ofPart? part = none := by simp [Step.ofPart?, hdot]
        rw [List.filterMap_cons_none hstep, onward, if_pos hdot]
      by_cases hup : part = [dot, dot]
      · have hstep : Step.ofPart? part = some .up := by
          simp [Step.ofPart?, hup, show [dot, dot] ≠ [dot] by decide]
        rw [List.filterMap_cons_some hstep, List.foldl_cons, onward, if_neg hdot, if_pos hup,
          advance_up]
      · have hstep : Step.ofPart? part = some (.into part) := by
          simp [Step.ofPart?, hne, hdot, hup]
        rw [List.filterMap_cons_some hstep, List.foldl_cons, onward, if_neg hdot, if_neg hup]
        simp [Route.advance]

theorem ne_nil_of_mem_parts {p : Path} {part : FileName} (h : part ∈ p.parts) : part ≠ [] := by
  simpa using (List.mem_filter.mp h).2

/-- **The place that a path names is what its steps come to.** -/
theorem map_into_place (p : Path) :
    p.place.map Step.into = (Route.clean ⟨true, p.route.steps⟩).steps := by
  unfold place
  rw [map_into_foldl_onward (fun _ => ne_nil_of_mem_parts), steps_eq_parts]
  rfl

theorem into_injective : Function.Injective Step.into := fun _ _ h => Step.into.inj h

theorem map_bytes_into (names : List FileName) :
    (names.map Step.into).map Step.bytes = names := by
  rw [List.map_map]
  exact List.map_id _

/-- The names on the way to a place are names. -/
theorem isName_of_mem_place {p : Path} {name : FileName} (h : name ∈ p.place) : IsName name := by
  have hmem : Step.into name ∈ p.place.map Step.into := List.mem_map_of_mem h
  rw [map_into_place] at hmem
  exact isName_of_mem_steps (Route.mem_clean hmem).1

/-- Parts that are followed from a place leave the first of its names, and then come names of
theirs. -/
theorem exists_kept (parts : List FileName) (start : Location) :
    ∃ kept names, parts.foldl onward start = kept ++ names ∧ kept <+: start ∧ names ⊆ parts := by
  induction parts using List.reverseRecOn with
  | nil => exact ⟨start, [], by simp, List.prefix_rfl, by simp⟩
  | append_singleton parts part ih =>
      obtain ⟨kept, names, hplace, hkept, hnames⟩ := ih
      have hmore : names ⊆ parts ++ [part] := fun name hname => List.mem_append_left _ (hnames hname)
      rw [List.foldl_append, List.foldl_cons, List.foldl_nil, hplace]
      unfold onward
      by_cases hdot : part = [dot]
      · rw [if_pos hdot]
        exact ⟨kept, names, rfl, hkept, hmore⟩
      rw [if_neg hdot]
      by_cases hup : part = [dot, dot]
      · rw [if_pos hup]
        cases names using List.reverseRecOn with
        | nil =>
            refine ⟨kept.dropLast, [], by simp, ?_, by simp⟩
            exact (List.dropLast_prefix kept).trans hkept
        | append_singleton names name _ =>
            refine ⟨kept, names, ?_, hkept, ?_⟩
            · rw [← List.append_assoc, List.dropLast_concat]
            · exact fun n hn => hmore (List.mem_append_left _ hn)
      · rw [if_neg hup]
        refine ⟨kept, names ++ [part], by simp, hkept, ?_⟩
        intro name hname
        rcases List.mem_append.mp hname with hname | hname
        · exact hmore hname
        · exact List.mem_append_right _ hname

/-- The names of a place are parts of the path that names it. -/
theorem mem_parts_of_mem_place {p : Path} {name : FileName} (h : name ∈ p.place) :
    name ∈ p.parts := by
  obtain ⟨kept, names, hplace, hkept, hnames⟩ := exists_kept p.parts []
  have hsame : p.place = names := by
    unfold place
    rw [hplace, List.prefix_nil.mp hkept, List.nil_append]
  rw [hsame] at h
  exact hnames h

/-! ### What is resolved -/

section

variable (cwd : Option Path) {base base' path path' : Path}

/-- What is resolved says the place that it names. -/
theorem route_resolve_of_absolute (h : (base.join path).isAbsolute = true) :
    (resolve cwd base path).route = ⟨true, (base.join path).place.map Step.into⟩ := by
  have hroute : (base.join path).route = ⟨true, (base.join path).route.steps⟩ := by
    rw [← h]
    rfl
  unfold resolve
  simp only [h, if_true]
  rw [hroute, map_into_place]
  refine Route.route_toPath (fun s hs => (Route.mem_clean hs).2) (fun name hname => ?_)
  exact isName_of_mem_steps (Route.mem_clean hname).1

theorem isAbsolute_resolve_of_absolute (h : (base.join path).isAbsolute = true) :
    (resolve cwd base path).isAbsolute = true := by
  show (resolve cwd base path).route.rooted = true
  rw [route_resolve_of_absolute cwd h]

/-- **Resolving a path keeps the place that it names.** -/
theorem place_resolve (h : (base.join path).isAbsolute = true) :
    (resolve cwd base path).place = (base.join path).place := by
  refine into_injective.list_map ?_
  rw [map_into_place, route_resolve_of_absolute cwd h, map_into_place, Route.clean_clean]

/-- **Within a directory is what has its place there.** -/
theorem isWithin_resolve (h : (base.join path).isAbsolute = true)
    (h' : (base'.join path').isAbsolute = true) :
    (resolve cwd base path).isWithin (resolve cwd base' path') = true ↔
      (base'.join path').place <+: (base.join path).place := by
  unfold isWithin
  rw [route_resolve_of_absolute cwd h, route_resolve_of_absolute cwd h', beq_self_eq_true,
    Bool.true_and, List.isPrefixOf_iff_prefix, List.prefix_map_iff_of_injective into_injective]

theorem commonLength_append (steps more : List Step) :
    commonLength steps (steps ++ more) = steps.length := by
  induction steps with
  | nil => simp [commonLength]
  | cons s steps ih => simp [commonLength, ih]

/-- **What has its place in a directory is seen from there by the names on the way.** -/
theorem relative_eq {source target : Path} (hsource : source.isAbsolute = true)
    (htarget : target.isAbsolute = true) {names : List FileName}
    (h : target.place = source.place ++ names) :
    relative cwd source target = Utf8.decodeLossy (Route.joinSlash names) := by
  have hroute : ∀ p : Path, p.isAbsolute = true →
      (resolve cwd here p).route = ⟨true, p.place.map Step.into⟩ := by
    intro p hp
    rw [route_resolve_of_absolute cwd (isAbsolute_join_right here hp), join_of_absolute here hp]
  unfold relative between
  rw [hroute source hsource, hroute target htarget, h]
  simp only [if_true, List.map_append, commonLength_append, List.drop_length, List.map_nil,
    List.drop_left, List.nil_append]
  unfold Route.toPath toText
  simp only [Bool.false_eq_true, if_false, map_bytes_into]

end

/-! ### The bytes of a resolved path -/

variable {b : UInt8}

theorem mem_of_mem_splitSlash {bs : List UInt8} {part : FileName} (hpart : part ∈ splitSlash bs)
    (hb : b ∈ part) : b ∈ bs := by
  induction bs generalizing part with
  | nil =>
      rw [List.mem_singleton.mp hpart] at hb
      exact hb
  | cons c bs ih =>
      rw [splitSlash] at hpart
      split at hpart
      · rcases List.mem_cons.mp hpart with rfl | hpart
        · exact absurd hb (by simp)
        · exact List.mem_cons_of_mem _ (ih hpart hb)
      · split at hpart
        · next hnil => exact absurd hnil (splitSlash_ne_nil bs)
        · next first parts hparts =>
            rcases List.mem_cons.mp hpart with rfl | hpart
            · rcases List.mem_cons.mp hb with rfl | hb
              · simp
              · exact List.mem_cons_of_mem _ (ih (hparts ▸ List.mem_cons_self) hb)
            · exact List.mem_cons_of_mem _ (ih (hparts ▸ List.mem_cons_of_mem _ hpart) hb)

theorem mem_of_mem_joinSlash {parts : List (List UInt8)} (h : b ∈ Route.joinSlash parts) :
    b = slash ∨ ∃ part ∈ parts, b ∈ part := by
  induction parts with
  | nil => exact absurd h (by simp [Route.joinSlash])
  | cons part parts ih =>
      cases parts with
      | nil => exact .inr ⟨part, by simp, h⟩
      | cons next parts =>
          rw [Route.joinSlash, List.mem_append, List.mem_cons] at h
          · rcases h with h | rfl | h
            · exact .inr ⟨part, by simp, h⟩
            · exact .inl rfl
            · rcases ih h with hslash | ⟨other, hother, hb⟩
              · exact .inl hslash
              · exact .inr ⟨other, List.mem_cons_of_mem _ hother, hb⟩
          · simp

theorem mem_of_mem_join {p q : Path} (h : b ∈ (p.join q).bytes) :
    b = slash ∨ b ∈ p.bytes ∨ b ∈ q.bytes := by
  unfold join at h
  repeat' split at h
  · exact .inr (.inr h)
  · exact .inr (List.mem_append.mp h)
  · rcases List.mem_append.mp h with h | h
    · exact .inr (.inl h)
    · exact (List.mem_cons.mp h).imp_right .inr

/-- What is resolved is spelled by the names of its place. -/
theorem bytes_resolve (cwd : Option Path) {base path : Path}
    (habs : (base.join path).isAbsolute = true) :
    (resolve cwd base path).bytes = slash :: Route.joinSlash (base.join path).place := by
  have hroute : (base.join path).route = ⟨true, (base.join path).route.steps⟩ := by
    rw [← habs]
    rfl
  unfold resolve Route.toPath
  simp only [habs, if_true]
  rw [hroute]
  show slash :: Route.joinSlash ((Route.clean ⟨true, _⟩).steps.map Step.bytes) = _
  rw [← map_into_place, map_bytes_into]

/-- A path from an absolute one is resolved to slashes and bytes of the two. -/
theorem mem_resolve (cwd : Option Path) {base path : Path} (hbase : base.isAbsolute = true)
    (h : b ∈ (resolve cwd base path).bytes) : b = slash ∨ b ∈ base.bytes ∨ b ∈ path.bytes := by
  rw [bytes_resolve cwd (isAbsolute_join_left hbase path)] at h
  rcases List.mem_cons.mp h with rfl | h
  · exact .inl rfl
  rcases mem_of_mem_joinSlash h with hslash | ⟨name, hname, hb⟩
  · exact .inl hslash
  have hpart := List.mem_filter.mp (mem_parts_of_mem_place hname)
  exact mem_of_mem_join (mem_of_mem_splitSlash hpart.1 hb)

/-- So is its text: a mark in it is a slash or comes from one of the two. -/
theorem not_mem_toText_resolve (cwd : Option Path) {base path : Path}
    (hbase : base.isAbsolute = true) {mark : UInt8} (hmark : Utf8.IsMark mark)
    (hslash : mark ≠ slash) (hfirst : mark ∉ base.bytes) (hsecond : mark ∉ path.bytes) :
    Char.ofNat mark.toNat ∉ (resolve cwd base path).toText.toList := by
  rw [toText, Utf8.mem_decodeLossy_iff hmark]
  intro hmem
  rcases mem_resolve cwd hbase hmem with h | h | h
  · exact hslash h
  · exact hfirst h
  · exact hsecond h

end Path

/-! ### The text of the names on the way -/

/-- **The text of names with slashes between them is cut into the texts of the names.** -/
theorem splitAll_decodeLossy_joinSlash {names : List FileName} (hne : names ≠ [])
    (h : ∀ name ∈ names, Path.slash ∉ name) :
    splitAll '/' (Utf8.decodeLossy (Route.joinSlash names)).toList =
      names.map fun name => (Utf8.decodeLossy name).toList := by
  induction names with
  | nil => exact absurd rfl hne
  | cons name rest ih =>
      have hname := Utf8.slash_not_mem_decodeLossy (h name (by simp))
      cases rest with
      | nil => exact splitAll_of_not_mem hname
      | cons next rest =>
          show splitAll '/' (Utf8.decodeLossy
            (name ++ Path.slash :: Route.joinSlash (next :: rest))).toList = _
          have htext : (Utf8.decodeLossy
              (name ++ Path.slash :: Route.joinSlash (next :: rest))).toList
              = (Utf8.decodeLossy name).toList ++
                '/' :: (Utf8.decodeLossy (Route.joinSlash (next :: rest))).toList := by
            rw [Utf8.decodeLossy_append_slash]
            simp
          rw [htext, splitAll_append hname,
            ih (by simp) (fun n hn => h n (List.mem_cons_of_mem _ hn))]
          rfl

end AppBuild
