/-
Ways from one place to another.

A way goes up a number of times and then down by names.  Of all the ways that lead from one
place to another one has the fewest steps: it turns where the two places part, as late as
it can and no later (`isShortestWay_iff`).  So there is exactly one (`existsUnique_shortestWay`),
and it is the path that is taken between resolved paths.

The names that it goes down by are names of the path that was resolved, as whatever came
from the base is passed on the way up.  So it is a text if that path is, even where the
base is none, and the text says all there is to it (`isShortestWay_relative`).
-/
import AppBuild.Proofs.Path.Place

namespace AppBuild

namespace Path

open Utf8 (IsText isText_encode)

/-! ### Texts cut at slashes -/

theorem splitSlash_append_of_not_mem {as : List UInt8} (h : slash ∉ as) {bs : List UInt8}
    {part : FileName} {parts : List FileName} (hbs : splitSlash bs = part :: parts) :
    splitSlash (as ++ bs) = (as ++ part) :: parts := by
  induction as with
  | nil => exact hbs
  | cons a as ih =>
      rw [List.mem_cons, not_or] at h
      exact splitSlash_cons_of_ne (Ne.symm h.1) (ih h.2)

/-- The parts of a text are texts. -/
theorem isText_of_mem_splitSlash {bs : List UInt8} (h : IsText bs) {part : FileName}
    (hpart : part ∈ splitSlash bs) : IsText part := by
  obtain ⟨s, rfl⟩ := h
  unfold Utf8.encode at hpart
  generalize s.toList = cs at hpart
  induction cs generalizing part with
  | nil =>
      rw [List.mem_singleton.mp hpart]
      exact isText_encode ""
  | cons c cs ih =>
      obtain ⟨first, rest, hsplit⟩ :=
        List.exists_cons_of_ne_nil (splitSlash_ne_nil (cs.flatMap String.utf8EncodeChar))
      rw [List.flatMap_cons] at hpart
      by_cases hc : c = '/'
      · subst hc
        -- The one byte of the slash ends an empty part.
        change part ∈ splitSlash (slash :: cs.flatMap String.utf8EncodeChar) at hpart
        rw [splitSlash, if_pos rfl] at hpart
        rcases List.mem_cons.mp hpart with rfl | hpart
        · exact isText_encode ""
        · exact ih hpart
      · have hbyte := Utf8.mark_not_mem_utf8EncodeChar (by decide : Utf8.IsMark slash) hc
        rw [splitSlash_append_of_not_mem hbyte hsplit] at hpart
        rcases List.mem_cons.mp hpart with rfl | hpart
        · obtain ⟨t, rfl⟩ : IsText first := ih (by rw [hsplit]; simp)
          refine ⟨String.singleton c ++ t, ?_⟩
          rw [Utf8.encode_append]
          simp [Utf8.encode]
        · exact ih (by rw [hsplit]; simp [hpart])

theorem isText_of_mem_parts {p : Path} (h : IsText p.bytes) {part : FileName}
    (hpart : part ∈ p.parts) : IsText part :=
  isText_of_mem_splitSlash h (List.mem_filter.mp hpart).1

theorem isText_joinSlash {parts : List FileName} (h : ∀ part ∈ parts, IsText part) :
    IsText (Route.joinSlash parts) := by
  induction parts with
  | nil => exact isText_encode ""
  | cons part rest ih =>
      have hpart := h part (by simp)
      have hrest := ih fun p hp => h p (by simp [hp])
      cases rest with
      | nil => exact hpart
      | cons next rest => exact hpart.append hrest.slash_cons

theorem isText_join {p q : Path} (hp : IsText p.bytes) (hq : IsText q.bytes) :
    IsText (p.join q).bytes := by
  unfold join
  split
  · exact hq
  split
  · exact hp.append hq
  · exact hp.append hq.slash_cons

theorem ofText_injective : Function.Injective ofText := by
  intro s t h
  have hbytes : Utf8.encode s = Utf8.encode t := congrArg bytes h
  rw [← Utf8.decodeLossy_encode s, hbytes, Utf8.decodeLossy_encode]

/-- A path that is a text is what its text writes. -/
theorem ofText_toText {p : Path} (h : IsText p.bytes) : ofText p.toText = p := by
  obtain ⟨bytes⟩ := p
  exact congrArg mk h.encode_decodeLossy

theorem isAbsolute_ofText_toText {p : Path} (h : p.isAbsolute = true) :
    (ofText p.toText).isAbsolute = true := by
  obtain ⟨bytes⟩ := p
  obtain ⟨rest, rfl⟩ := List.head?_eq_some_iff.mp (beq_iff_eq.mp h)
  have htext : toText ⟨slash :: rest⟩ = "/" ++ Utf8.decodeLossy rest :=
    Utf8.decodeLossy_append_slash [] rest
  rw [htext, ofText, Utf8.encode_append]
  rfl

/-! ### Where two places part -/

theorem take_commonLength (as bs : List Step) :
    as.take (commonLength as bs) = bs.take (commonLength as bs) := by
  induction as generalizing bs with
  | nil => cases bs <;> rfl
  | cons a as ih =>
      cases bs with
      | nil => rfl
      | cons b bs =>
          by_cases hab : a = b
          · rw [commonLength, if_pos hab, List.take_succ_cons, List.take_succ_cons, ih, hab]
          · rw [commonLength, if_neg hab]
            rfl

theorem commonLength_le (as bs : List Step) : commonLength as bs ≤ as.length := by
  induction as generalizing bs with
  | nil => cases bs <;> exact Nat.le_refl _
  | cons a as ih =>
      cases bs with
      | nil => exact Nat.zero_le _
      | cons b bs =>
          by_cases hab : a = b
          · rw [commonLength, if_pos hab, List.length_cons]
            exact Nat.succ_le_succ (ih bs)
          · rw [commonLength, if_neg hab]
            exact Nat.zero_le _

/-- What two routes both start with is no longer than what they have in common. -/
theorem length_le_commonLength {steps as bs : List Step} (ha : steps <+: as)
    (hb : steps <+: bs) : steps.length ≤ commonLength as bs := by
  induction steps generalizing as bs with
  | nil => exact Nat.zero_le _
  | cons s steps ih =>
      obtain ⟨as', rfl, ha'⟩ := List.cons_prefix_iff.mp ha
      obtain ⟨bs', rfl, hb'⟩ := List.cons_prefix_iff.mp hb
      rw [commonLength, if_pos rfl, List.length_cons]
      exact Nat.succ_le_succ (ih ha' hb')

/-- How far two places go alike. -/
def sharedDepth (source target : Location) : Nat :=
  commonLength (source.map .into) (target.map .into)

section

variable (source target : Location)

theorem sharedDepth_le_source : sharedDepth source target ≤ source.length := by
  have h := commonLength_le (source.map .into) (target.map .into)
  rwa [List.length_map] at h

theorem take_sharedDepth :
    source.take (sharedDepth source target) = target.take (sharedDepth source target) := by
  refine into_injective.list_map ?_
  rw [List.map_take, List.map_take]
  exact take_commonLength _ _

end

theorem length_le_sharedDepth {above source target : Location} (hsource : above <+: source)
    (htarget : above <+: target) : above.length ≤ sharedDepth source target := by
  have h := length_le_commonLength (List.IsPrefix.map Step.into hsource)
    (List.IsPrefix.map Step.into htarget)
  rwa [List.length_map] at h

/-! ### Ways -/

/-- The path that goes up a number of times and then down by names. -/
def way (ups : Nat) (names : List FileName) : Path :=
  ⟨Route.joinSlash (List.replicate ups [dot, dot] ++ names)⟩

/-- The parts of a way are steps up and names. -/
theorem eq_up_or_mem {ups : Nat} {names : List FileName} {part : FileName}
    (h : part ∈ List.replicate ups [dot, dot] ++ names) : part = [dot, dot] ∨ part ∈ names :=
  (List.mem_append.mp h).imp_left List.eq_of_mem_replicate

/-- A way leads from one place to another. -/
structure Leads (source target : Location) (ups : Nat) (names : List FileName) : Prop where
  isName : ∀ name ∈ names, IsName name
  ups_le : ups ≤ source.length
  reaches : source.take (source.length - ups) ++ names = target

/-- The path is the way of the fewest steps from one place to another. -/
def IsShortestWay (source target : Location) (p : Path) : Prop :=
  ∃ ups names, p = way ups names ∧ Leads source target ups names ∧
    ∀ ups' names', Leads source target ups' names' →
      ups + names.length ≤ ups' + names'.length

variable {source target : Location}

theorem Leads.length {ups : Nat} {names : List FileName} (h : Leads source target ups names) :
    target.length = source.length - ups + names.length := by
  have hlength := congrArg List.length h.reaches
  rw [List.length_append, List.length_take] at hlength
  omega

/-- A way turns no later than where the places part. -/
theorem Leads.le_sharedDepth {ups : Nat} {names : List FileName}
    (h : Leads source target ups names) : source.length - ups ≤ sharedDepth source target := by
  have htarget : source.take (source.length - ups) <+: target := ⟨names, h.reaches⟩
  have hle := length_le_sharedDepth (List.take_prefix _ _) htarget
  rw [List.length_take] at hle
  omega

theorem Leads.names_eq {ups : Nat} {names : List FileName} (h : Leads source target ups names) :
    names = target.drop (source.length - ups) := by
  rw [← h.reaches, List.drop_left']
  rw [List.length_take]
  omega

/-- There is a way that turns where the places part. -/
theorem leads_sharedDepth (hnames : ∀ name ∈ target, IsName name) :
    Leads source target (source.length - sharedDepth source target)
      (target.drop (sharedDepth source target)) where
  isName name hname := hnames name (List.mem_of_mem_drop hname)
  ups_le := Nat.sub_le _ _
  reaches := by
    rw [Nat.sub_sub_self (sharedDepth_le_source source target), take_sharedDepth,
      List.take_append_drop]

/-- The way that turns where the places part. -/
def shortestWay (source target : Location) : Path :=
  way (source.length - sharedDepth source target) (target.drop (sharedDepth source target))

/-- **The shortest way turns where the places part.** -/
theorem isShortestWay_iff (hnames : ∀ name ∈ target, IsName name) {p : Path} :
    IsShortestWay source target p ↔ p = shortestWay source target := by
  have hlead : Leads source target _ _ := leads_sharedDepth hnames
  have hsource := sharedDepth_le_source source target
  constructor
  · rintro ⟨ups, names, rfl, h, hfewest⟩
    have hle := hfewest _ _ hlead
    have hturn := h.le_sharedDepth
    have hups := h.ups_le
    have hlength := h.length
    have hlength' := hlead.length
    have hdepth : source.length - ups = sharedDepth source target := by omega
    have hups' : ups = source.length - sharedDepth source target := by omega
    rw [h.names_eq, hdepth, hups', shortestWay]
  · rintro rfl
    refine ⟨_, _, rfl, hlead, ?_⟩
    intro ups names h
    have hturn := h.le_sharedDepth
    have hups := h.ups_le
    have hlength := h.length
    have hlength' := hlead.length
    omega

/-- **There is exactly one.** -/
theorem existsUnique_shortestWay (hnames : ∀ name ∈ target, IsName name) :
    ∃! p, IsShortestWay source target p :=
  ⟨_, (isShortestWay_iff hnames).mpr rfl, fun _ h => (isShortestWay_iff hnames).mp h⟩

/-- Names alone are the shortest way to what is below. -/
theorem isShortestWay_names (source : Location) {names : List FileName}
    (h : ∀ name ∈ names, IsName name) : IsShortestWay source (source ++ names) (way 0 names) := by
  refine ⟨0, names, rfl, ⟨h, Nat.zero_le _, by simp⟩, ?_⟩
  intro ups names' hlead
  have hlength := hlead.length
  rw [List.length_append] at hlength
  omega

section

variable (ups : Nat) {names : List FileName} (h : ∀ name ∈ names, IsName name)

include h

theorem ne_nil_of_mem_way {part : FileName} (hpart : part ∈ List.replicate ups [dot, dot] ++ names) :
    part ≠ [] ∧ slash ∉ part := by
  rcases eq_up_or_mem hpart with rfl | hpart
  · decide
  · exact ⟨(h part hpart).1, (h part hpart).2.1⟩

theorem parts_way : (way ups names).parts = List.replicate ups [dot, dot] ++ names :=
  parts_joinSlash fun _ => ne_nil_of_mem_way ups h

theorem isAbsolute_way : (way ups names).isAbsolute = false :=
  isAbsolute_joinSlash fun _ => ne_nil_of_mem_way ups h

end

theorem foldl_onward_up (ups : Nat) (at_ : Location) :
    (List.replicate ups [dot, dot]).foldl onward at_ = at_.take (at_.length - ups) := by
  induction ups generalizing at_ with
  | zero => simp
  | succ ups ih =>
      have hup : onward at_ [dot, dot] = at_.take (at_.length - 1) := List.dropLast_eq_take
      rw [List.replicate_succ, List.foldl_cons, ih, hup, List.take_take, List.length_take]
      congr 1
      omega

/-- A way leads up from where it starts, to the root at the most, and then down by its names. -/
theorem foldl_onward_way (ups : Nat) {names : List FileName} (h : ∀ name ∈ names, IsName name)
    (at_ : Location) :
    (way ups names).parts.foldl onward at_ = at_.take (at_.length - ups) ++ names := by
  rw [parts_way ups h, List.foldl_append, foldl_onward_up, foldl_onward_names h]

/-- **A path of names is the shortest way to where it leads.** -/
theorem isShortestWay_join_names (p : Path) {names : List FileName}
    (h : ∀ name ∈ names, IsName name) :
    IsShortestWay p.place (p.join (way 0 names)).place (way 0 names) := by
  have hplace : (p.join (way 0 names)).place = p.place ++ names := by
    rw [place_join p (isAbsolute_way 0 h), foldl_onward_way 0 h, Nat.sub_zero, List.take_length]
  rw [hplace]
  exact isShortestWay_names p.place h

/-- It does not begin by staying where it is. -/
theorem IsShortestWay.bytes_ne {p : Path} (h : IsShortestWay source target p)
    (rest : List UInt8) : p.bytes ≠ dot :: slash :: rest := by
  obtain ⟨ups, names, rfl, hlead, -⟩ := h
  intro hbytes
  have hparts : (way ups names).parts = parts ⟨[dot]⟩ ++ parts ⟨rest⟩ := by
    rw [← parts_append_slash]
    exact congrArg (parts ⟨·⟩) hbytes
  have hdot : [dot] ∈ (way ups names).parts := by
    rw [hparts]
    exact List.mem_append_left _ (by decide)
  rw [parts_way ups hlead.isName] at hdot
  rcases eq_up_or_mem hdot with hdot | hdot
  · exact absurd hdot (by decide)
  · exact (hlead.isName _ hdot).2.2.1 rfl

/-- Between places the shortest way is taken. -/
theorem between_eq (source target : Location) :
    between ⟨true, source.map .into⟩ ⟨true, target.map .into⟩ = shortestWay source target := by
  unfold between
  rw [if_pos rfl]
  show Route.toPath ⟨false, ((source.map Step.into).drop (sharedDepth source target)).map
    (fun _ => .up) ++ (target.map Step.into).drop (sharedDepth source target)⟩ = _
  rw [List.map_const', List.length_drop, List.length_map, ← List.map_drop]
  unfold shortestWay way Route.toPath
  simp only [Bool.false_eq_true, if_false, List.map_append, List.map_replicate, map_bytes_into]
  rfl

/-! ### The way to what was resolved -/

/-- What is resolved from texts is a text. -/
theorem isText_resolve (cwd : Option Path) {base path : Path}
    (habs : (base.join path).isAbsolute = true) (hbase : IsText base.bytes)
    (hpath : IsText path.bytes) : IsText (resolve cwd base path).bytes := by
  rw [bytes_resolve cwd habs]
  refine (isText_joinSlash ?_).slash_cons
  intro name hname
  exact isText_of_mem_parts (isText_join hbase hpath) (mem_parts_of_mem_place hname)

section

variable {w : Path} (hw : w.isAbsolute = true) (base path : Path)

include hw

/-- In a working directory every path is one from the root. -/
theorem resolve_eq_resolve (cwd : Option Path) :
    resolve (some w) base path = resolve cwd w (base.join path) := by
  have hjoin := isAbsolute_join_left hw (base.join path)
  unfold resolve
  simp only [hjoin, if_true]
  cases h : (base.join path).isAbsolute with
  | true => rw [if_pos rfl, join_of_absolute w h]
  | false => rfl

theorem place_resolve_in : (resolve (some w) base path).place = (w.join (base.join path)).place := by
  have hjoin := isAbsolute_join_left hw (base.join path)
  rw [resolve_eq_resolve hw base path none, place_resolve none hjoin]

/-- What is resolved says the place that it names. -/
theorem route_resolve_in :
    (resolve (some w) base path).route =
      ⟨true, (resolve (some w) base path).place.map .into⟩ := by
  have hjoin := isAbsolute_join_left hw (base.join path)
  rw [place_resolve_in hw, resolve_eq_resolve hw base path none,
    route_resolve_of_absolute none hjoin]

/-- A relative path is followed from where its base leads. -/
theorem place_resolve_of_relative {path : Path} (hpath : path.isAbsolute = false) :
    (resolve (some w) base path).place =
      path.parts.foldl onward (resolve (some w) here base).place := by
  rw [place_resolve_in hw, place_resolve_in hw]
  cases hbase : base.isAbsolute with
  | true =>
      rw [join_of_absolute w (isAbsolute_join_left hbase path), join_of_absolute here hbase,
        join_of_absolute w hbase, place_join base hpath]
  | false =>
      have hrel := isAbsolute_join_false hbase hpath
      have hhere : (here.join base).isAbsolute = false := isAbsolute_join_false rfl hbase
      rw [place_join w hrel, place_join w hhere, parts_join base hpath, parts_join here hbase,
        List.foldl_append]
      rfl

/-- A path is followed from where its base leads, or from the root. -/
theorem exists_start : ∃ start, start <+: (resolve (some w) here base).place ∧
    (resolve (some w) base path).place = path.parts.foldl onward start := by
  cases hpath : path.isAbsolute with
  | true =>
      refine ⟨[], List.nil_prefix, ?_⟩
      rw [place_resolve_in hw, join_of_absolute base hpath, join_of_absolute w hpath]
      rfl
  | false => exact ⟨_, List.prefix_rfl, place_resolve_of_relative hw base hpath⟩

/-- The names on the way down to what was resolved are its own. -/
theorem mem_parts_of_mem_drop {name : FileName}
    (h : name ∈ (resolve (some w) base path).place.drop
      (sharedDepth (resolve (some w) here base).place (resolve (some w) base path).place)) :
    name ∈ path.parts := by
  obtain ⟨start, hstart, hplace⟩ := exists_start hw base path
  obtain ⟨kept, names, hsplit, hkept, hnames⟩ := exists_kept path.parts start
  have htarget : (resolve (some w) base path).place = kept ++ names := hplace.trans hsplit
  have hdepth := length_le_sharedDepth (hkept.trans hstart) ⟨names, htarget.symm⟩
  rw [htarget] at h hdepth
  rw [List.drop_append, List.drop_of_length_le hdepth, List.nil_append] at h
  exact hnames (List.mem_of_mem_drop h)

/-- The way to what a text leads to is a text, whatever the base is. -/
theorem isText_shortestWay (s : String) :
    IsText (shortestWay (resolve (some w) here base).place
      (resolve (some w) base (ofText s)).place).bytes := by
  refine isText_joinSlash ?_
  intro part hpart
  rcases eq_up_or_mem hpart with rfl | hpart
  · exact isText_encode ".."
  · exact isText_of_mem_parts (isText_encode s) (mem_parts_of_mem_drop hw base (ofText s) hpart)

/-- What is seen from a place is the text of the shortest way. -/
theorem relative_eq_toText (target : Path) :
    relative (some w) base target =
      (shortestWay (resolve (some w) here base).place
        (resolve (some w) here target).place).toText := by
  unfold relative
  rw [route_resolve_in hw here base, route_resolve_in hw here target, between_eq]

/-- **Seen from a base, a text is shown as the shortest way to what it leads to.** -/
theorem isShortestWay_relative (s : String) :
    IsShortestWay (resolve (some w) here base).place (resolve (some w) base (ofText s)).place
      (ofText (relative (some w) base (resolve (some w) base (ofText s)))) := by
  have htext := isText_shortestWay hw base s
  rw [isShortestWay_iff fun name hname => isName_of_mem_place hname, relative_eq_toText hw,
    resolve_here_resolve hw]
  exact ofText_toText htext

end

end Path
end AppBuild
