/-
There and back between resolving and being seen.

What is seen from a place is the way to it: up to what the two places share, and then down
by names (`relative_eq_toText`).  Taken from where it was seen, the way leads there again.
It is shown as a text, though, and a name that is no text is shown as another, so the text
leads back exactly when the names on the way down are texts (`resolve_relative_iff`).  They
are names of the target, or of the working directory that a relative target counts from; so
if that directory has a name that is no text, the way can be lost (`undecodable_not_undone`).

In the other direction nothing can be lost: a text of plain names, with one slash between
two, is shown as it is (`relative_resolve_names`).
-/
import AppBuild.Proofs.Path.Climb

namespace AppBuild.Path

open Utf8 (IsText isText_encode)

/-! ### Names as they are shown -/

/-- The name that the text of a name writes. -/
def shown (name : FileName) : FileName := Utf8.encode (Utf8.decodeLossy name)

theorem shown_eq_self_iff {name : FileName} : shown name = name ↔ IsText name :=
  ⟨fun h => ⟨_, h⟩, fun h => h.encode_decodeLossy⟩

theorem eq_of_shown_eq {name part : FileName} (h : shown name = part)
    (hpart : '\uFFFD' ∉ (Utf8.decodeLossy part).toList) : name = part := by
  have htext : IsText name := by
    refine Utf8.isText_of_replacement_not_mem ?_
    rwa [← h, shown, Utf8.decodeLossy_encode] at hpart
  rw [← h, shown_eq_self_iff.mpr htext]

/-- What is shown of a name is a name. -/
theorem isName_shown {name : FileName} (h : IsName name) : IsName (shown name) := by
  obtain ⟨hne, hslash, hdot, hup⟩ := h
  have hmark : Utf8.IsMark slash := by decide
  refine ⟨fun hs => hne (eq_of_shown_eq hs (by decide)), ?_,
    fun hs => hdot (eq_of_shown_eq hs (by decide)), fun hs => hup (eq_of_shown_eq hs (by decide))⟩
  rw [← Utf8.mem_decodeLossy_iff hmark, shown, Utf8.decodeLossy_encode,
    Utf8.mem_decodeLossy_iff hmark]
  exact hslash

/-- Between slashes each part is shown by itself. -/
theorem encode_decodeLossy_joinSlash (parts : List FileName) :
    Utf8.encode (Utf8.decodeLossy (Route.joinSlash parts)) =
      Route.joinSlash (parts.map shown) := by
  induction parts with
  | nil => rfl
  | cons part rest ih =>
      cases rest with
      | nil => rfl
      | cons next rest =>
          show Utf8.encode (Utf8.decodeLossy
            (part ++ slash :: Route.joinSlash (next :: rest))) = _
          rw [Utf8.decodeLossy_append_slash, Utf8.encode_append, Utf8.encode_append, ih,
            show Utf8.encode "/" = [slash] from rfl, List.append_assoc]
          rfl

theorem ofText_toText_way (ups : Nat) (names : List FileName) :
    ofText (way ups names).toText = way ups (names.map shown) := by
  have hup : shown [dot, dot] = [dot, dot] := shown_eq_self_iff.mpr (isText_encode "..")
  refine congrArg mk ((encode_decodeLossy_joinSlash _).trans ?_)
  rw [List.map_append, List.map_replicate, hup]

/-! ### Where two places part -/

/-- The longest way that two places share, and what is left of each. -/
structure Parting (source target shared up down : Location) : Prop where
  source_eq : source = shared ++ up
  target_eq : target = shared ++ down
  longest : ∀ other, other <+: source → other <+: target → other <+: shared

theorem parting_sharedDepth (source target : Location) :
    Parting source target (source.take (sharedDepth source target))
      (source.drop (sharedDepth source target)) (target.drop (sharedDepth source target)) where
  source_eq := (List.take_append_drop _ _).symm
  target_eq := by rw [take_sharedDepth, List.take_append_drop]
  longest other hsource htarget := by
    refine List.prefix_of_prefix_length_le hsource (List.take_prefix _ _) ?_
    rw [List.length_take]
    exact Nat.le_min.mpr ⟨length_le_sharedDepth hsource htarget, hsource.length_le⟩

/-- However far a way goes up to where another place is, it does not turn below where they part. -/
theorem Parting.length_up_le {source target shared up down : Location}
    (h : Parting source target shared up down) {ups : Nat} {names : List FileName}
    (hreaches : source.take (source.length - ups) ++ names = target) : up.length ≤ ups := by
  have hshared := h.longest _ (List.take_prefix _ _) ⟨names, hreaches⟩
  have hle := hshared.length_le
  have hlength := congrArg List.length h.source_eq
  rw [List.length_append] at hlength
  rw [List.length_take] at hle
  omega

section

variable {w : Path} (hw : w.isAbsolute = true) (source : Path)

include hw

theorem place_resolve_way (ups : Nat) {names : List FileName} (h : ∀ name ∈ names, IsName name) :
    (resolve (some w) source (way ups names)).place =
      (resolve (some w) here source).place.take
        ((resolve (some w) here source).place.length - ups) ++ names := by
  rw [place_resolve_of_relative hw source (isAbsolute_way ups h), foldl_onward_way ups h]

/-- **A text of names is seen as it is.** -/
theorem relative_resolve_names {names : List FileName} (h : ∀ name ∈ names, IsName name)
    {r : String} (hr : ofText r = way 0 names) :
    relative (some w) source (resolve (some w) source (ofText r)) = r := by
  have hplace : (resolve (some w) source (ofText r)).place =
      (resolve (some w) here source).place ++ names := by
    rw [hr, place_resolve_way hw source 0 h, Nat.sub_zero, List.take_length]
  have hseen := isShortestWay_relative hw source r
  rw [hplace] at hseen
  have hnames : ∀ name ∈ (resolve (some w) here source).place ++ names, IsName name := by
    rw [← hplace]
    exact fun name hname => isName_of_mem_place hname
  refine ofText_injective (((existsUnique_shortestWay hnames).unique hseen ?_).trans hr.symm)
  exact isShortestWay_names _ h

variable (target : Path)

/-- What is seen goes up to where the places part, and down by names as they are shown. -/
theorem exists_parting :
    ∃ shared up down,
      Parting (resolve (some w) here source).place (resolve (some w) here target).place
        shared up down ∧
      ofText (relative (some w) source target) = way up.length (down.map shown) ∧
      ∀ name ∈ down.map shown, IsName name := by
  refine ⟨_, _, _, parting_sharedDepth _ _, ?_, ?_⟩
  · rw [relative_eq_toText hw, shortestWay, ofText_toText_way, List.length_drop]
  · intro name hname
    obtain ⟨below, hbelow, rfl⟩ := List.mem_map.mp hname
    exact isName_shown (isName_of_mem_place (List.mem_of_mem_drop hbelow))

/-- **It leads back if the names on the way down are shown as they are.** -/
theorem resolve_relative_iff {shared up down : Location}
    (h : Parting (resolve (some w) here source).place (resolve (some w) here target).place
      shared up down)
    (hseen : ofText (relative (some w) source target) = way up.length (down.map shown))
    (hnames : ∀ name ∈ down.map shown, IsName name) :
    resolve (some w) source (ofText (relative (some w) source target)) =
        resolve (some w) here target ↔
      ∀ name ∈ down, IsText name := by
  have hplace : (resolve (some w) source (way up.length (down.map shown))).place =
      shared ++ down.map shown := by
    rw [place_resolve_way hw source up.length hnames, h.source_eq, List.length_append,
      Nat.add_sub_cancel, List.take_left]
  have hsame : down.map shown = down ↔ ∀ name ∈ down, shown name = name := by
    rw [← List.map_inj_left, List.map_id']
  rw [hseen, resolve_eq_iff hw, hplace, h.target_eq, List.append_cancel_left_eq, hsame]
  exact forall₂_congr fun name _ => shown_eq_self_iff

/-- The names of what a text leads to are texts, from a directory that is one or from the root. -/
theorem isText_of_mem_place {target : Path} (htarget : IsText target.bytes)
    (hfrom : target.isAbsolute = true ∨ IsText w.bytes) {name : FileName}
    (hname : name ∈ (resolve (some w) here target).place) : IsText name := by
  have hbytes : IsText (w.join (here.join target)).bytes := by
    rcases hfrom with habs | hwtext
    · rwa [join_of_absolute here habs, join_of_absolute w habs]
    · exact isText_join hwtext (isText_join (isText_encode ".") htarget)
  rw [place_resolve_in hw] at hname
  exact isText_of_mem_parts hbytes (mem_parts_of_mem_place hname)

theorem resolve_relative_of_isText (htext : IsText target.bytes)
    (hfrom : target.isAbsolute = true ∨ IsText w.bytes) :
    resolve (some w) source (ofText (relative (some w) source target)) =
      resolve (some w) here target := by
  obtain ⟨shared, up, down, hpart, hseen, hnames⟩ := exists_parting hw source target
  refine (resolve_relative_iff hw source target hpart hseen hnames).mpr fun name hname => ?_
  refine isText_of_mem_place hw htext hfrom ?_
  rw [hpart.target_eq]
  exact List.mem_append_right shared hname

/--
**Seeing a path and resolving it undo each other.**  A path that is a text is seen, from
wherever it is, as a text that leads there again; for a relative one the working directory
must be a text, too.  What is seen goes up to where the two places part, which no way to the
other place can do without, and then down by names.  It leads back exactly if these are
texts, since it shows all others differently.  And a text of names that is resolved from
somewhere is seen from there as it is.
-/
theorem relative_inverse :
    (IsText target.bytes → target.isAbsolute = true ∨ IsText w.bytes →
      resolve (some w) source (ofText (relative (some w) source target)) =
        resolve (some w) here target) ∧
    (∃ shared up down,
      Parting (resolve (some w) here source).place (resolve (some w) here target).place
        shared up down ∧
      ofText (relative (some w) source target) = way up.length (down.map shown) ∧
      (∀ name ∈ down.map shown, IsName name) ∧
      (∀ ups names, (∀ name ∈ names, IsName name) →
        resolve (some w) source (way ups names) = resolve (some w) here target →
        up.length ≤ ups) ∧
      (resolve (some w) source (ofText (relative (some w) source target)) =
          resolve (some w) here target ↔
        ∀ name ∈ down, IsText name)) ∧
    ∀ (r : String) (names : List FileName), (∀ name ∈ names, IsName name) →
      ofText r = way 0 names →
      relative (some w) source (resolve (some w) source (ofText r)) = r := by
  obtain ⟨shared, up, down, hpart, hseen, hnames⟩ := exists_parting hw source target
  have hback := resolve_relative_iff hw source target hpart hseen hnames
  refine ⟨resolve_relative_of_isText hw source target,
    ⟨shared, up, down, hpart, hseen, hnames, ?_, hback⟩, ?_⟩
  · intro ups names hdown hreaches
    have hplace := place_resolve_way hw source ups hdown
    rw [hreaches] at hplace
    exact hpart.length_up_le hplace.symm
  · intro r names hdown hr
    exact relative_resolve_names hw source hdown hr

end

/-- Seen from outside the working directory, a relative path goes by the name of that directory, and
leads back by it. -/
theorem sibling_leads_back :
    (ofText "/home/zoë").isAbsolute = true ∧ Utf8.IsText (ofText "/home/zoë").bytes ∧
    relative (some (ofText "/home/zoë")) (ofText "../lib//x/.") (ofText "c/../d/") =
      "../../zoë/d" ∧
    resolve (some (ofText "/home/zoë")) (ofText "../lib//x/.") (ofText "../../zoë/d") =
      resolve (some (ofText "/home/zoë")) here (ofText "c/../d/") ∧
    relative (some (ofText "/home/zoë")) (ofText "../lib//x/.")
      (resolve (some (ofText "/home/zoë")) (ofText "../lib//x/.") (ofText "a/b.c")) = "a/b.c" := by
  have hw : (ofText "/home/zoë").isAbsolute = true := by decide
  have htext : IsText (ofText "/home/zoë").bytes := isText_encode _
  have hseen : relative (some (ofText "/home/zoë")) (ofText "../lib//x/.") (ofText "c/../d/") =
      "../../zoë/d" := by decide +kernel
  have hnames : ∀ name ∈ [Utf8.encode "a", Utf8.encode "b.c"], IsName name := by decide
  obtain ⟨hback, -, hnamed⟩ := relative_inverse hw (ofText "../lib//x/.") (ofText "c/../d/")
  refine ⟨hw, htext, hseen, ?_, hnamed "a/b.c" _ hnames (by decide)⟩
  rw [← hback (isText_encode _) (.inr htext), hseen]

/-- A working directory whose name is no text. -/
def undecodable : Path := ⟨[slash, 0xFF]⟩

/-- If the name of the working directory is no text, a relative path does not lead back where it
goes by that name.  And of two slashes between names one alone is seen. -/
theorem undecodable_not_undone :
    undecodable.isAbsolute = true ∧ IsText (ofText "/a").bytes ∧ IsText (ofText "b").bytes ∧
    resolve (some undecodable) (ofText "/a")
        (ofText (relative (some undecodable) (ofText "/a") (ofText "b"))) ≠
      resolve (some undecodable) here (ofText "b") ∧
    relative (some undecodable) (ofText "/p")
      (resolve (some undecodable) (ofText "/p") (ofText "a//b")) = "a/b" :=
  ⟨by decide, isText_encode _, isText_encode _, by decide +kernel, by decide +kernel⟩

/-- **A canonical text leads back from wherever it was seen**, with or without a working directory. -/
theorem resolve_relative_of_isCanonical {cwd : Option Path}
    (hcwd : ∀ w, cwd = some w → w.isAbsolute = true) (source : Path) {p : Path}
    (hp : p.IsCanonical) (htext : IsText p.bytes) :
    resolve cwd source (ofText (relative cwd source p)) = p := by
  have hin : ∀ {w : Path}, w.isAbsolute = true →
      resolve (some w) source (ofText (relative (some w) source p)) = p := by
    intro w hw
    rw [resolve_relative_of_isText hw source p htext (.inl hp.absolute),
      resolve_of_isCanonical (some w) here hp]
  cases cwd with
  | some w => exact hin (hcwd w rfl)
  | none =>
      cases hsource : source.isAbsolute with
      | true =>
          -- Nothing hangs on the working directory, so it may as well be the root.
          have hroot : (ofText "/").isAbsolute = true := by decide
          have hseen : relative none source p = relative (some (ofText "/")) source p := by
            unfold relative
            rw [resolve_cwd none (some (ofText "/")) (isAbsolute_join_right here hsource),
              resolve_cwd none (some (ofText "/")) (isAbsolute_join_right here hp.absolute)]
          rw [hseen, resolve_cwd none (some (ofText "/")) (isAbsolute_join_left hsource _)]
          exact hin hroot
      | false =>
          -- From nowhere it is seen as it is.
          have hrooted : (resolve none here source).route.rooted = false :=
            isAbsolute_resolve_none (by decide) hsource
          have hseen : relative none source p = p.toText := by
            unfold relative between
            rw [resolve_of_isCanonical none here hp, hrooted,
              show p.route.rooted = true from hp.absolute, if_neg (by decide), if_pos rfl,
              hp.toPath_route]
          rw [hseen, ofText_toText htext, resolve_of_isCanonical none source hp]

end AppBuild.Path
