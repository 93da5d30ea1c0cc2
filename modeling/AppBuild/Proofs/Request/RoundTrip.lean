/-
Ids that are written and read again.

What form encoding writes has no ampersand and no equals sign in it, and it is read as
what was written (`pairOf_encodePair`).  So a query of encoded pairs has one piece for each
of them, and an id with such a query gives back its filename and the pairs, whatever texts
they are.

Nor can the text by which a sandboxed module is recognized come from an encoded pair,
unless the pair is named `type`: a piece that begins with `type=` has that name.
-/
import Mathlib
import AppBuild.Proofs.Request.Recognition

namespace AppBuild

/-! ### Form encoding -/

namespace Form

/-- Letters, digits and four signs are written as they are. -/
def isKept (c : Char) : Bool := c.isAlphanum || ['*', '-', '.', '_'].contains c

/-- The digit for a value below sixteen. -/
def hexDigit (n : Nat) : Char := (Nat.digitChar n).toUpper

/-- A byte as it is written.  A blank becomes a plus sign, and what is not kept a percent sign with
two digits. -/
def encodeByte (b : UInt8) : List Char :=
  let c := Char.ofNat b.toNat
  if isKept c then [c]
  else if c = ' ' then ['+']
  else ['%', hexDigit (b.toNat / 16), hexDigit (b.toNat % 16)]

/-- A name or value as it is written. -/
def encode (s : String) : String := String.ofList ((Utf8.encode s).flatMap encodeByte)

/-- A pair as it is written. -/
def encodePair (p : String × String) : String := encode p.1 ++ "=" ++ encode p.2

/-- A query as it is written. -/
def encodePairs (ps : List (String × String)) : String := "&".intercalate (ps.map encodePair)

/-! What is kept is none of the marks. -/

theorem bounds_of_isKept {c : Char} (h : isKept c = true) :
    42 ≤ c.toNat ∧ c.toNat < 0x80 ∧ c.toNat ≠ 43 ∧ c.toNat ≠ 61 := by
  have hval : c.toNat = c.val.toNat := rfl
  simp only [isKept, Char.isAlphanum, Char.isAlpha, Char.isUpper, Char.isLower, Char.isDigit,
    UInt32.le_iff_toNat_le, Bool.or_eq_true, Bool.and_eq_true, decide_eq_true_eq,
    List.contains_iff_mem, List.mem_cons, List.not_mem_nil, or_false] at h
  rcases h with ((h | h) | h) | (rfl | rfl | rfl | rfl)
  all_goals simp_all
  all_goals omega

/-- What can be read of a digit that was written. -/
def ReadsBack (n : Nat) : Prop :=
  String.utf8EncodeChar (hexDigit n) = [UInt8.ofNat (hexDigit n).toNat] ∧
    hexDigit? (UInt8.ofNat (hexDigit n).toNat) = some (UInt8.ofNat n) ∧ isKept (hexDigit n) = true

instance (n : Nat) : Decidable (ReadsBack n) := inferInstanceAs (Decidable (_ ∧ _))

theorem readsBack_of_lt : ∀ n < 16, ReadsBack n := by decide

theorem marks_not_mem_encodeByte (b : UInt8) : '&' ∉ encodeByte b ∧ '=' ∉ encodeByte b := by
  have hkept : ∀ {c}, isKept c = true → '&' ≠ c ∧ '=' ≠ c := by
    intro c hc
    have hbounds := bounds_of_isKept hc
    refine ⟨?_, ?_⟩
    all_goals
      rintro rfl
      exact absurd hbounds (by decide)
  have hfirst := hkept (readsBack_of_lt (b.toNat / 16) (by have := b.toNat_lt; omega)).2.2
  have hsecond := hkept (readsBack_of_lt (b.toNat % 16) (by omega)).2.2
  unfold encodeByte
  simp only
  split
  · next h => simpa using hkept h
  · split
    · decide
    · simp [hfirst, hsecond]

theorem marks_not_mem_encode (s : String) : '&' ∉ (encode s).toList ∧ '=' ∉ (encode s).toList := by
  unfold encode
  simp only [String.toList_ofList, List.mem_flatMap, not_exists, not_and]
  exact ⟨fun b _ => (marks_not_mem_encodeByte b).1, fun b _ => (marks_not_mem_encodeByte b).2⟩

/-! What is written is read again. -/

theorem escaped?_hexDigits (b : UInt8) :
    escaped? (UInt8.ofNat (hexDigit (b.toNat / 16)).toNat)
      (UInt8.ofNat (hexDigit (b.toNat % 16)).toNat) = some b := by
  have hb := b.toNat_lt
  have hfirst := readsBack_of_lt (b.toNat / 16) (by omega)
  have hsecond := readsBack_of_lt (b.toNat % 16) (by omega)
  unfold escaped?
  rw [hfirst.2.1, hsecond.2.1]
  refine congrArg some (UInt8.toNat_inj.mp ?_)
  simp
  omega

theorem decodeBytes_encodeByte (b : UInt8) (rest : List UInt8) :
    decodeBytes (Utf8.encodeChars (encodeByte b) ++ rest) = b :: decodeBytes rest := by
  have hb := b.toNat_lt
  have hchar : (Char.ofNat b.toNat).toNat = b.toNat :=
    Utf8.toNat_ofNat_char (.inl (by omega))
  unfold encodeByte
  simp only
  split
  · next h =>
    have hbounds := bounds_of_isKept h
    rw [hchar] at hbounds
    have hbytes : Utf8.encodeChars [Char.ofNat b.toNat] = [b] := by
      rw [Utf8.encodeChars, List.flatMap_singleton]
      exact Utf8.utf8EncodeChar_mark ⟨by omega, by omega⟩
    rw [hbytes, List.singleton_append, decodeBytes_kept]
    · rintro rfl
      exact absurd hbounds (by decide)
    · rintro rfl
      exact absurd hbounds (by decide)
  · split
    · next h =>
      have hblank : b = 32 := by
        rw [h] at hchar
        exact UInt8.toNat_inj.mp hchar.symm
      rw [hblank]
      show decodeBytes (43 :: rest) = 32 :: decodeBytes rest
      rw [decodeBytes]
    · have hfirst := readsBack_of_lt (b.toNat / 16) (by omega)
      have hsecond := readsBack_of_lt (b.toNat % 16) (by omega)
      have hbytes : Utf8.encodeChars ['%', hexDigit (b.toNat / 16), hexDigit (b.toNat % 16)] =
          [37, UInt8.ofNat (hexDigit (b.toNat / 16)).toNat,
            UInt8.ofNat (hexDigit (b.toNat % 16)).toNat] := by
        simp only [Utf8.encodeChars, List.flatMap_cons, List.flatMap_nil, hfirst.1, hsecond.1]
        rfl
      rw [hbytes]
      exact decodeBytes_escape (escaped?_hexDigits b) rest

theorem decodeBytes_encodeBytes (bs : List UInt8) :
    decodeBytes (Utf8.encodeChars (bs.flatMap encodeByte)) = bs := by
  induction bs with
  | nil => rfl
  | cons b bs ih => rw [List.flatMap_cons, Utf8.encodeChars_append, decodeBytes_encodeByte, ih]

/-- **Reading undoes writing, for every text.** -/
theorem decodeChars_encode (s : String) : decodeChars (encode s).toList = s := by
  unfold decodeChars decode encode
  rw [String.toList_ofList, decodeBytes_encodeBytes, Utf8.decodeLossy_encode]

/-! ### Encoded queries -/

theorem toList_encodePair (p : String × String) :
    (encodePair p).toList = (encode p.1).toList ++ '=' :: (encode p.2).toList := by
  unfold encodePair
  simp

theorem pairOf_encodePair (p : String × String) : pairOf (encodePair p).toList = p := by
  rw [toList_encodePair, pairOf_append (marks_not_mem_encode p.1).2, decodeChars_encode,
    decodeChars_encode]

theorem ampersand_not_mem_encodePair (p : String × String) : '&' ∉ (encodePair p).toList := by
  rw [toList_encodePair]
  simp [marks_not_mem_encode]

/-- **The pieces of an encoded query are the encoded pairs.** -/
theorem pieces_encodePairs (ps : List (String × String)) :
    (splitAll '&' (encodePairs ps).toList).filter (!·.isEmpty) =
      ps.map fun p => (encodePair p).toList := by
  cases ps with
  | nil => rfl
  | cons p ps =>
      have htext : (encodePairs (p :: ps)).toList =
          ['&'].intercalate ((p :: ps).map fun q => (encodePair q).toList) := by
        unfold encodePairs
        rw [String.toList_intercalate, List.map_map]
        rfl
      have hmarks : ∀ part ∈ (p :: ps).map fun q => (encodePair q).toList, '&' ∉ part := by
        intro part hpart
        obtain ⟨q, -, rfl⟩ := List.mem_map.mp hpart
        exact ampersand_not_mem_encodePair q
      rw [htext, splitAll_intercalate hmarks (by simp), List.filter_eq_self]
      intro part hpart
      obtain ⟨q, -, rfl⟩ := List.mem_map.mp hpart
      simp [toList_encodePair]

theorem pairs_encodePairs (ps : List (String × String)) :
    ((splitAll '&' (encodePairs ps).toList).filter (!·.isEmpty)).map pairOf = ps := by
  rw [pieces_encodePairs, List.map_map]
  refine (List.map_congr_left fun p _ => ?_).trans (List.map_id ps)
  exact pairOf_encodePair p

end Form

/-! ### Ids with encoded queries -/

namespace Request

variable {filename : String} (hfilename : '?' ∉ filename.toList)
include hfilename

theorem cutAt_id (query : String) :
    cutAt '?' (filename ++ "?" ++ query).toList = (filename.toList, some query.toList) := by
  have hid : (filename ++ "?" ++ query).toList = filename.toList ++ '?' :: query.toList := by simp
  rw [hid, cutAt_append hfilename]

theorem filename_id (query : String) : (parse (filename ++ "?" ++ query)).filename = filename := by
  rw [← String.toList_inj, toList_filename_parse, cutAt_id hfilename]

theorem pieces_id (query : String) :
    pieces (filename ++ "?" ++ query) = splitAll '&' query.toList := by
  unfold pieces
  rw [cutAt_id hfilename, Option.getD_some]

theorem pairs_id (ps : List (String × String)) :
    pairs (filename ++ "?" ++ Form.encodePairs ps) = ps := by
  unfold pairs
  rw [pieces_id hfilename, Form.pairs_encodePairs]

/-! ### Ids of sandboxed modules -/

/-- The id of a sandboxed module. -/
def moduleId (filename : String) (kind : FilterKind) (ps : List (String × String)) : String :=
  filename ++ "?vue&type=" ++ kind.name ++ "&" ++ Form.encodePairs ps

omit hfilename in
theorem moduleId_eq (kind : FilterKind) (ps : List (String × String)) :
    moduleId filename kind ps =
      filename ++ "?" ++ (kind.marker ++ "&" ++ Form.encodePairs ps) := by
  unfold moduleId FilterKind.marker
  rw [← String.toList_inj]
  simp

theorem pieces_moduleId (kind : FilterKind) (ps : List (String × String)) :
    pieces (moduleId filename kind ps) =
      "vue".toList :: ("type=".toList ++ kind.name.toList) ::
        splitAll '&' (Form.encodePairs ps).toList := by
  have hquery : (kind.marker ++ "&" ++ Form.encodePairs ps).toList =
      "vue".toList ++ '&' :: (("type=".toList ++ kind.name.toList) ++
        '&' :: (Form.encodePairs ps).toList) := by
    rw [String.toList_append, String.toList_append, FilterKind.toList_marker]
    simp
  have hname : '&' ∉ "type=".toList ++ kind.name.toList := by cases kind <;> decide
  rw [moduleId_eq, pieces_id hfilename, hquery, splitAll_append (by decide), splitAll_append hname]

theorem pairs_moduleId (kind : FilterKind) (ps : List (String × String)) :
    pairs (moduleId filename kind ps) = ("vue", "") :: ("type", kind.name) :: ps := by
  unfold pairs
  rw [pieces_moduleId hfilename, List.filter_cons_of_pos (by decide),
    List.filter_cons_of_pos (by simp), List.map_cons, List.map_cons, pairOf_vue, Form.pairOf_kind,
    Form.pairs_encodePairs]

theorem means_moduleId (kind : FilterKind) (ps : List (String × String)) :
    (parse (moduleId filename kind ps)).Means kind := by
  have hpairs := pairs_moduleId hfilename kind ps
  constructor
  · rw [has_parse_iff, hpairs]
    simp
  · rw [get?_parse, hpairs]
    rfl

theorem filename_moduleId (kind : FilterKind) (ps : List (String × String)) :
    (parse (moduleId filename kind ps)).filename = filename := by
  rw [moduleId_eq, filename_id hfilename]

/-- **The id of a sandboxed module is direct.** -/
theorem isDirect_moduleId (hplain : ¬ "vue&type=".toList <:+: filename.toList) (kind : FilterKind)
    {ps : List (String × String)} (htype : "type" ∉ ps.map Prod.fst) :
    IsDirect (moduleId filename kind ps) := by
  refine isDirect_of_pieces ?_ (pieces_moduleId hfilename kind ps) ?_
  · rw [filename_moduleId hfilename]
    exact hplain
  · intro piece hpiece hname
    cases hempty : piece.isEmpty with
    | true =>
        rw [List.isEmpty_iff.mp hempty] at hname
        exact absurd hname (by decide)
    | false =>
        have hpair : Form.pairOf piece ∈ ps := by
          rw [← Form.pairs_encodePairs ps]
          exact List.mem_map_of_mem (List.mem_filter.mpr ⟨hpiece, by rw [hempty]; rfl⟩)
        exact htype (List.mem_map.mpr ⟨_, hpair, hname⟩)

end Request

/-- **Ids round-trip.**  The filename and the pairs that an id was written with are read again, of
a repeated name the first value.  The id of a sandboxed module asks for that module. -/
theorem module_id_roundtrip {filename : String} (hfilename : '?' ∉ filename.toList)
    (ps : List (String × String)) :
    (Request.parse (filename ++ "?" ++ Form.encodePairs ps)).filename = filename ∧
      (Request.parse (filename ++ "?" ++ Form.encodePairs ps)).query.keys =
        (ps.map Prod.fst).eraseDups ∧
      (∀ name, (Request.parse (filename ++ "?" ++ Form.encodePairs ps)).get? name =
        ps.lookup name) ∧
      (¬ "vue&type=".toList <:+: filename.toList → "type" ∉ ps.map Prod.fst →
        ∀ kind : FilterKind, SandboxedModule.ofId?
          (filename ++ "?vue&type=" ++ kind.name ++ "&" ++ Form.encodePairs ps) =
            some ⟨kind, (ps.lookup "name").getD "", filename⟩) := by
  refine ⟨Request.filename_id hfilename _, ?_, ?_, ?_⟩
  · rw [Request.keys_parse, Request.pairs_id hfilename]
  · intro name
    rw [Request.get?_parse, Request.pairs_id hfilename]
  · intro hplain htype kind
    have hdirect := Request.isDirect_moduleId hfilename hplain kind htype
    obtain ⟨hasked, hwxs⟩ := SandboxedModule.exists_ofId?_iff.mp
      ((Request.exists_ofId?_iff_means hdirect).mpr (Request.means_moduleId hfilename kind ps))
    refine SandboxedModule.ofId?_eq_some_iff.mpr ⟨hasked, hwxs, ?_, ?_⟩
    · show (ps.lookup "name").getD "" =
        ((Request.parse (Request.moduleId filename kind ps)).get? "name").getD ""
      rw [Request.get?_parse, Request.pairs_moduleId hfilename]
      rfl
    · exact (Request.filename_moduleId hfilename kind ps).symm

theorem echarts_view_roundtrip :
    Form.encodePairs [("name", "echarts & é"), ("name", ""), ("", "?")] =
        "name=echarts+%26+%C3%A9&name=&=%3F" ∧
      SandboxedModule.ofId? ("/src/a.vue" ++ "?vue&type=" ++ "renderjs" ++ "&" ++
          Form.encodePairs [("name", "echarts & é"), ("name", ""), ("", "?")]) =
        some ⟨.renderjs, "echarts & é", "/src/a.vue"⟩ :=
  ⟨by decide, (module_id_roundtrip (by decide) _).2.2.2 (by decide) (by decide) .renderjs⟩

end AppBuild
