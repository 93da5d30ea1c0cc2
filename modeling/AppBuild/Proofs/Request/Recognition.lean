/-
When the text of an id and its parameters say the same.

A sandboxed module is recognized by a text in its id, wherever that stands, and its request
is read by parameters.  The two differ when the text stands in the filename, when the flag
`vue` does not come right before the type, when the type only begins with the name of a
kind, when it is not the first type and when it is written with escapes.  In the ids that
a bundler writes nothing of the kind occurs (`IsDirect`), and there the two agree
(`isAskedBy_iff_means`).
-/
import AppBuild.Proofs.Request.Query

namespace AppBuild

namespace Request

/-- The parameters of a request mean a kind: it has the flag `vue`, and its type is the name of the
kind. -/
def Means (r : Request) (kind : FilterKind) : Prop :=
  r.has "vue" = true ∧ r.get? "type" = some kind.name

/-- A parameter is a type that begins with the name of a kind. -/
def NamesKind (p : String × String) : Prop :=
  p.1 = "type" ∧ ∃ kind : FilterKind, kind.name.toList <+: p.2.toList

/-- The text of no kind can stand in the filename.  What names a kind in the query is written in
full and without escapes, comes right after the flag `vue` and is the first type. -/
structure IsDirect (id : String) : Prop where
  filename : ¬ "vue&type=".toList <:+: (parse id).filename.toList
  query : ∀ {before piece after}, pieces id = before ++ piece :: after →
    NamesKind (Form.pairOf piece) →
      (∃ kind : FilterKind, piece = "type=".toList ++ kind.name.toList) ∧
        before.getLast? = some "vue".toList ∧ ∀ other ∈ before, (Form.pairOf other).1 ≠ "type"

theorem name_injective {kind other : FilterKind} (h : kind.name.toList <+: other.name.toList) :
    kind = other := by
  revert h
  cases kind <;> cases other <;> decide

theorem pairOf_vue : Form.pairOf "vue".toList = ("vue", "") := rfl

/-- An id that begins its query with the flag and a kind is direct if no other type follows. -/
theorem isDirect_of_pieces {id : String} {kind : FilterKind} {rest : List (List Char)}
    (hfilename : ¬ "vue&type=".toList <:+: (parse id).filename.toList)
    (hpieces : pieces id = "vue".toList :: ("type=".toList ++ kind.name.toList) :: rest)
    (hrest : ∀ piece ∈ rest, (Form.pairOf piece).1 ≠ "type") : IsDirect id := by
  refine ⟨hfilename, ?_⟩
  intro before piece after hcut hnames
  rw [hpieces] at hcut
  rcases List.cons_eq_append_iff.mp hcut with ⟨-, hhead⟩ | ⟨later, rfl, hlater⟩
  · obtain ⟨rfl, -⟩ := List.cons.inj hhead
    rw [pairOf_vue] at hnames
    exact absurd hnames.1 (by decide)
  rcases List.cons_eq_append_iff.mp hlater with ⟨rfl, hhead⟩ | ⟨last, rfl, hlast⟩
  · obtain ⟨rfl, -⟩ := List.cons.inj hhead
    refine ⟨⟨kind, rfl⟩, rfl, ?_⟩
    intro other hother
    rw [List.mem_singleton.mp hother, pairOf_vue]
    decide
  · have hmem : piece ∈ rest := by simp [hlast]
    exact absurd hnames.1 (hrest piece hmem)

section

variable {id : String} (hid : IsDirect id) {kind : FilterKind}
include hid

theorem IsDirect.means_of_asksIn (h : kind.AsksIn (pieces id)) : (parse id).Means kind := by
  obtain ⟨before, first, second, after, hpieces, -, ⟨rest, rfl⟩⟩ := h
  have hcut : pieces id =
      (before ++ [first]) ++ ("type=".toList ++ kind.name.toList ++ rest) :: after := by
    rw [hpieces]
    simp
  have hpercent : '%' ∉ kind.name.toList := by cases kind <;> decide
  have hplus : '+' ∉ kind.name.toList := by cases kind <;> decide
  have hpair : Form.pairOf ("type=".toList ++ kind.name.toList ++ rest) =
      ("type", kind.name ++ Form.decodeChars rest) := by
    rw [List.append_assoc, Form.pairOf_type, Form.decodeChars_append hpercent hplus,
      String.ofList_toList]
  have hnames : NamesKind (Form.pairOf ("type=".toList ++ kind.name.toList ++ rest)) := by
    rw [hpair]
    exact ⟨rfl, kind, by simp⟩
  obtain ⟨⟨other, hspelled⟩, hflag, hfirst⟩ := hid.query hcut hnames
  rw [List.getLast?_concat, Option.some.injEq] at hflag
  -- The type has no more to it than the name, as no kind's name begins another's.
  have hkind : kind = other := by
    refine name_injective ⟨rest, ?_⟩
    rw [List.append_assoc] at hspelled
    exact List.append_cancel_left hspelled
  subst hkind hflag
  rw [hspelled] at hcut
  constructor
  · have hmem : "vue".toList ∈ (pieces id).filter (!·.isEmpty) :=
      List.mem_filter.mpr ⟨by simp [hcut], by decide⟩
    rw [has_parse_iff, pairs, List.map_map]
    exact List.mem_map.mpr ⟨_, hmem, rfl⟩
  · have hnone : (((before ++ ["vue".toList]).filter (!·.isEmpty)).map Form.pairOf).lookup "type" =
        none := by
      rw [OrderedMap.lookup_eq_none_iff_not_mem, List.map_map, List.mem_map]
      rintro ⟨other, hother, htype⟩
      exact hfirst other (List.mem_filter.mp hother).1 htype
    rw [get?_parse, pairs, hcut, List.filter_append, List.map_append, List.lookup_append, hnone,
      Option.none_or, List.filter_cons_of_pos (by simp), List.map_cons, Form.pairOf_kind,
      List.lookup_cons_self]

theorem IsDirect.asksIn_of_means (h : (parse id).Means kind) : kind.AsksIn (pieces id) := by
  have hmem : ("type", kind.name) ∈ pairs id := by
    have hvalue := h.2
    rw [get?_parse] at hvalue
    obtain ⟨before, after, hpairs, -⟩ := List.lookup_eq_some_iff.mp hvalue
    rw [hpairs]
    simp
  obtain ⟨piece, hpiece, hpair⟩ := List.mem_map.mp hmem
  obtain ⟨before, after, hcut⟩ := List.append_of_mem (List.mem_filter.mp hpiece).1
  have hnames : NamesKind (Form.pairOf piece) := by
    rw [hpair]
    exact ⟨rfl, kind, List.prefix_refl _⟩
  obtain ⟨⟨other, rfl⟩, hflag, -⟩ := hid.query hcut hnames
  rw [Form.pairOf_kind] at hpair
  have hkind : kind = other := by
    refine name_injective ?_
    rw [(Prod.mk.inj hpair).2]
  subst hkind
  obtain ⟨earlier, rfl⟩ := List.getLast?_eq_some_iff.mp hflag
  refine ⟨earlier, _, _, after, ?_, List.suffix_refl _, List.prefix_refl _⟩
  rw [hcut, List.append_assoc, List.singleton_append]

/-- **On direct ids the text says what the parameters say.** -/
theorem isAskedBy_iff_means : kind.isAskedBy id = true ↔ (parse id).Means kind := by
  rw [FilterKind.isAskedBy_iff]
  constructor
  · intro h
    rcases h with hinfix | hasks
    · have hmarker : "vue&type=".toList <+: kind.marker.toList := by cases kind <;> decide
      exact absurd (hmarker.isInfix.trans hinfix) hid.filename
    · exact hid.means_of_asksIn hasks
  · intro h
    exact .inr (hid.asksIn_of_means h)

theorem exists_ofId?_iff_means :
    (∃ m, SandboxedModule.ofId? id = some m ∧ m.kind = kind) ↔ (parse id).Means kind := by
  rw [SandboxedModule.exists_ofId?_iff, isAskedBy_iff_means hid, and_iff_left_iff_imp]
  rintro hmeans rfl
  -- The type cannot have the names of both kinds.
  rw [← Bool.not_eq_true, isAskedBy_iff_means hid]
  intro hwxs
  exact absurd (hwxs.2.symm.trans hmeans.2) (by decide)

end

end Request

/-- **What is recognized.**  A module of a kind is recognized by the text of the kind, and data is
looked for first.  On direct ids this is what the parameters of the request mean. -/
theorem recognition (id : String) (kind : FilterKind) :
    ((∃ m, SandboxedModule.ofId? id = some m ∧ m.kind = kind) ↔
        kind.StandsIn id ∧ (kind = .renderjs → ¬ FilterKind.wxs.StandsIn id)) ∧
      (Request.IsDirect id →
        ((∃ m, SandboxedModule.ofId? id = some m ∧ m.kind = kind) ↔
          (Request.parse id).Means kind)) := by
  refine ⟨?_, fun hid => Request.exists_ofId?_iff_means hid⟩
  rw [SandboxedModule.exists_ofId?_iff, ← FilterKind.isAskedBy_iff, ← FilterKind.isAskedBy_iff,
    Bool.not_eq_true]

/-- An id with its parameters in order is recognized as what they mean. -/
theorem utils_recognized :
    Request.IsDirect "/src/pages/index.vue?vue&type=wxs&index=0&name=utils" ∧
      ((∃ m, SandboxedModule.ofId? "/src/pages/index.vue?vue&type=wxs&index=0&name=utils" = some m ∧
          m.kind = .wxs) ↔
        (Request.parse "/src/pages/index.vue?vue&type=wxs&index=0&name=utils").Means .wxs) := by
  have hpieces : Request.pieces "/src/pages/index.vue?vue&type=wxs&index=0&name=utils" =
      "vue".toList :: ("type=".toList ++ FilterKind.wxs.name.toList) ::
        ["index=0".toList, "name=utils".toList] := by decide
  have hdirect := Request.isDirect_of_pieces (by decide) hpieces (by decide)
  exact ⟨hdirect, (recognition _ .wxs).2 hdirect⟩

/-- **Text and parameters differ on other ids.**  The flag after the type is not seen, and what only
begins with the name of a kind is taken for it. -/
theorem text_differs_from_parameters :
    (SandboxedModule.ofId? "/src/a.vue?type=wxs&vue" = none ∧
        (Request.parse "/src/a.vue?type=wxs&vue").Means .wxs) ∧
      (SandboxedModule.ofId? "/src/a.vue?vue&type=wxs2" = some ⟨.wxs, "", "/src/a.vue"⟩ ∧
        ¬ (Request.parse "/src/a.vue?vue&type=wxs2").Means .wxs) := by
  unfold Request.Means
  decide

end AppBuild
