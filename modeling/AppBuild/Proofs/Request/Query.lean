/-
What an id says, read off its text.

The query of an id is taken apart as bytes.  Its marks are ASCII, so the bytes are cut
where the text is, and the pairs of the query are those of its pieces between ampersands,
each read for itself (`parse_encodeChars`).  Of these pairs a request keeps the names in
order and for each name the first value (`keys_parse`, `get?_parse`).

The text by which a sandboxed module is recognized has an ampersand in it and no question
mark.  So it stands in the filename, or the query has two pieces next to each other that
end and begin with its halves (`isAskedBy_iff`).
-/
import AppBuild.Proofs.Text.Lossy
import AppBuild.Request.Module
import Mathlib.Data.List.Basic

namespace AppBuild

/-! ### The pairs of a query -/

namespace Form

/-- The text that a written name or value stands for. -/
def decodeChars (written : List Char) : String := decode (Utf8.encodeChars written)

/-- The name and the value that a piece of a query stands for. -/
def pairOf (piece : List Char) : String × String :=
  (decodeChars (cutAt '=' piece).1, decodeChars ((cutAt '=' piece).2.getD []))

theorem decodeBytes_kept {b : UInt8} (hpercent : b ≠ 37) (hplus : b ≠ 43) (rest : List UInt8) :
    decodeBytes (b :: rest) = b :: decodeBytes rest := by
  rw [decodeBytes]
  · intro _ _ _ hb _
    exact hpercent hb
  · exact hplus

theorem decodeBytes_escape {b c byte : UInt8} (h : escaped? b c = some byte) (rest : List UInt8) :
    decodeBytes (37 :: b :: c :: rest) = byte :: decodeBytes rest := by
  simp only [decodeBytes, h]

theorem decodeBytes_append_of_not_mem {bs : List UInt8} (hpercent : 37 ∉ bs) (hplus : 43 ∉ bs)
    (rest : List UInt8) : decodeBytes (bs ++ rest) = bs ++ decodeBytes rest := by
  induction bs with
  | nil => rfl
  | cons b bs ih =>
      rw [List.mem_cons, not_or] at hpercent hplus
      rw [List.cons_append, decodeBytes_kept (Ne.symm hpercent.1) (Ne.symm hplus.1),
        ih hpercent.2 hplus.2, List.cons_append]

/-- **What has no percent and plus signs is written as it is.** -/
theorem decodeChars_append {plain : List Char} (hpercent : '%' ∉ plain) (hplus : '+' ∉ plain)
    (rest : List Char) : decodeChars (plain ++ rest) = String.ofList plain ++ decodeChars rest := by
  have hpercent' : 37 ∉ Utf8.encodeChars plain :=
    mt (Utf8.mark_mem_encodeChars_iff (by decide)).mp hpercent
  have hplus' : 43 ∉ Utf8.encodeChars plain :=
    mt (Utf8.mark_mem_encodeChars_iff (by decide)).mp hplus
  unfold decodeChars decode
  rw [Utf8.encodeChars_append, decodeBytes_append_of_not_mem hpercent' hplus',
    Utf8.decodeLossy_encodeChars_append]

theorem decodeChars_plain {plain : List Char} (hpercent : '%' ∉ plain) (hplus : '+' ∉ plain) :
    decodeChars plain = String.ofList plain := by
  have happend := decodeChars_append hpercent hplus []
  rwa [List.append_nil, show decodeChars [] = "" from rfl, String.append_empty] at happend

theorem pairOf_append {name : List Char} (h : '=' ∉ name) (value : List Char) :
    pairOf (name ++ '=' :: value) = (decodeChars name, decodeChars value) := by
  unfold pairOf
  rw [cutAt_append h, Option.getD_some]

/-- What begins with the name `type` and its equals sign is a pair of this name. -/
theorem pairOf_type (written : List Char) :
    pairOf ("type=".toList ++ written) = ("type", decodeChars written) := by
  have hpiece : "type=".toList ++ written = "type".toList ++ '=' :: written := by simp
  rw [hpiece, pairOf_append (by decide), decodeChars_plain (by decide) (by decide),
    String.ofList_toList]

/-- The pair of a kind. -/
theorem pairOf_kind (kind : FilterKind) :
    pairOf ("type=".toList ++ kind.name.toList) = ("type", kind.name) := by
  have hpercent : '%' ∉ kind.name.toList := by cases kind <;> decide
  have hplus : '+' ∉ kind.name.toList := by cases kind <;> decide
  rw [pairOf_type, decodeChars_plain hpercent hplus, String.ofList_toList]

theorem isEmpty_encodeChars (cs : List Char) :
    (Utf8.encodeChars cs).isEmpty = cs.isEmpty := by
  have htext := Utf8.decodeLossy_encodeChars cs
  cases cs with
  | nil => rfl
  | cons c cs =>
      cases hbytes : Utf8.encodeChars (c :: cs) with
      | nil =>
          rw [hbytes, ← String.toList_inj, String.toList_ofList] at htext
          exact absurd htext (by simp [Utf8.toList_decodeLossy, Utf8.scan])
      | cons b bs => rfl

/-- **The pairs of a query are those of its pieces.** -/
theorem parse_encodeChars (query : List Char) :
    parse (Utf8.encodeChars query) =
      ((splitAll '&' query).filter (!·.isEmpty)).map pairOf := by
  have hsplit : splitAll 38 (Utf8.encodeChars query) =
      (splitAll '&' query).map Utf8.encodeChars := Utf8.splitAll_encodeChars (by decide) query
  have hcut : ∀ piece, cutAt 61 (Utf8.encodeChars piece) =
      (Utf8.encodeChars (cutAt '=' piece).1, (cutAt '=' piece).2.map Utf8.encodeChars) :=
    Utf8.cutAt_encodeChars (by decide)
  unfold parse
  rw [hsplit, List.filter_map, List.map_map]
  have hfilter : ((!·.isEmpty) ∘ Utf8.encodeChars : List Char → Bool) = (!·.isEmpty) := by
    funext cs
    simp only [Function.comp_apply, isEmpty_encodeChars]
  rw [hfilter]
  refine List.map_congr_left fun piece _ => ?_
  simp only [Function.comp_apply, hcut]
  unfold pairOf decodeChars
  cases (cutAt '=' piece).2 with
  | none => rfl
  | some value => rfl

end Form

/-! ### Requests -/

namespace Request

/-- The pieces of an id's query between ampersands, as they are written. -/
def pieces (id : String) : List (List Char) :=
  splitAll '&' ((cutAt '?' id.toList).2.getD [])

/-- The names and values that these stand for. -/
def pairs (id : String) : List (String × String) :=
  ((pieces id).filter (!·.isEmpty)).map Form.pairOf

theorem firstValues_concat (ps : List (String × String)) (p : String × String) :
    firstValues (ps ++ [p]) =
      if (firstValues ps).contains p.1 then firstValues ps
      else (firstValues ps).insert p.1 p.2 := by
  unfold firstValues
  rw [List.foldl_append]
  rfl

theorem keys_firstValues (ps : List (String × String)) :
    (firstValues ps).keys = (ps.map Prod.fst).eraseDups := by
  induction ps using List.reverseRecOn with
  | nil => rfl
  | append_singleton ps p ih =>
      rw [firstValues_concat, List.map_append, List.eraseDups_append]
      unfold OrderedMap.contains
      by_cases hseen : p.1 ∈ ps.map Prod.fst
      · rw [ih, if_pos (by simpa using hseen), ih]
        simp [List.removeAll, hseen]
      · rw [ih, if_neg (by simpa using hseen), OrderedMap.keys_insert, ih,
          if_neg (mt List.mem_eraseDups.mp hseen)]
        simp [List.removeAll, hseen, List.eraseDups_cons]

theorem get?_firstValues (ps : List (String × String)) (name : String) :
    (firstValues ps).get? name = ps.lookup name := by
  induction ps using List.reverseRecOn with
  | nil => rfl
  | append_singleton ps p ih =>
      rw [firstValues_concat, List.lookup_append]
      unfold OrderedMap.contains
      rw [keys_firstValues]
      by_cases hname : name = p.1
      · subst hname
        by_cases hseen : p.1 ∈ ps.map Prod.fst
        · obtain ⟨value, hvalue⟩ := Option.ne_none_iff_exists'.mp
            (mt OrderedMap.lookup_eq_none_iff_not_mem.mp (not_not.mpr hseen))
          rw [if_pos (by simpa using hseen), ih, hvalue, Option.some_or]
        · rw [if_neg (by simpa using hseen), OrderedMap.get?_insert, if_pos rfl,
            OrderedMap.lookup_eq_none_iff_not_mem.mpr hseen, Option.none_or, List.lookup_cons_self]
      · have hother : [p].lookup name = none :=
          OrderedMap.lookup_eq_none_iff_not_mem.mpr (by simpa using hname)
        rw [hother, Option.or_none, ← ih]
        split
        · rfl
        · rw [OrderedMap.get?_insert, if_neg hname]

theorem parse_query (id : String) : (parse id).query = firstValues (pairs id) := by
  unfold parse pairs pieces
  obtain ⟨filename, query⟩ := cutAt '?' id.toList
  rw [← Form.parse_encodeChars]
  show firstValues (Form.parse (Utf8.encode (String.ofList (query.getD [])))) = _
  rw [← Utf8.encodeChars_toList, String.toList_ofList]

theorem toList_filename_parse (id : String) :
    (parse id).filename.toList = (cutAt '?' id.toList).1 := by
  unfold parse
  obtain ⟨filename, query⟩ := cutAt '?' id.toList
  exact String.toList_ofList

/-- **Every name of a query is there, and none other.** -/
theorem keys_parse (id : String) :
    (parse id).query.keys = ((pairs id).map Prod.fst).eraseDups := by
  rw [parse_query, keys_firstValues]

theorem has_parse_iff {id name : String} :
    (parse id).has name = true ↔ name ∈ (pairs id).map Prod.fst := by
  unfold has OrderedMap.contains
  rw [keys_parse, List.contains_iff_mem, List.mem_eraseDups]

/-- **Of a repeated name the first value counts.** -/
theorem get?_parse (id name : String) : (parse id).get? name = (pairs id).lookup name := by
  unfold get?
  rw [parse_query, get?_firstValues]

end Request

/-! ### Recognition -/

namespace FilterKind

/-- Two pieces of a query next to each other that end and begin with the halves of the text of a
kind. -/
def AsksIn (kind : FilterKind) (pieces : List (List Char)) : Prop :=
  ∃ before first second after, pieces = before ++ first :: second :: after ∧
    "vue".toList <:+ first ∧ "type=".toList ++ kind.name.toList <+: second

/-- The text of a kind stands in an id: in its filename or between two pieces of its query. -/
def StandsIn (kind : FilterKind) (id : String) : Prop :=
  kind.marker.toList <:+: (Request.parse id).filename.toList ∨ kind.AsksIn (Request.pieces id)

theorem toList_marker (kind : FilterKind) :
    kind.marker.toList = "vue".toList ++ '&' :: ("type=".toList ++ kind.name.toList) := by
  unfold marker
  rw [String.toList_append]
  rfl

/-- **A sandboxed module is asked for in the filename or between two pieces of the query.** -/
theorem isAskedBy_iff {kind : FilterKind} {id : String} :
    kind.isAskedBy id = true ↔ kind.StandsIn id := by
  have hquestion : '?' ∉ kind.marker.toList := by cases kind <;> decide
  have hname : '&' ∉ "type=".toList ++ kind.name.toList := by cases kind <;> decide
  have hpieces : ∀ cs, kind.marker.toList <:+: cs ↔ kind.AsksIn (splitAll '&' cs) := by
    intro cs
    rw [toList_marker, infix_around_iff (by decide) hname]
    rfl
  unfold isAskedBy StandsIn Request.pieces
  rw [occursIn_iff, Request.toList_filename_parse, ← hpieces]
  rcases cutAt_cases '?' id.toList with ⟨-, hcut⟩ | ⟨before, after, -, hid, hcut⟩
  · rw [hcut]
    simp [toList_marker]
  · rw [hcut, hid, infix_append_cons_iff hquestion]
    rfl

end FilterKind

namespace SandboxedModule

/-- **What an id asks for.**  Data comes before rendering, and the rest is what the request says. -/
theorem ofId?_eq_some_iff {id : String} {m : SandboxedModule} :
    ofId? id = some m ↔
      m.kind.isAskedBy id = true ∧
        (m.kind = .renderjs → FilterKind.wxs.isAskedBy id = false) ∧
        m.name = ((Request.parse id).get? "name").getD "" ∧
        m.filename = (Request.parse id).filename := by
  obtain ⟨kind, name, filename⟩ := m
  unfold ofId?
  by_cases hwxs : FilterKind.wxs.isAskedBy id = true
  · cases kind <;> simp [hwxs, eq_comm (a := name), eq_comm (a := filename)]
  · by_cases hrenderjs : FilterKind.renderjs.isAskedBy id = true
    · cases kind <;> simp [hwxs, hrenderjs, eq_comm (a := name), eq_comm (a := filename)]
    · cases kind <;> simp [hwxs, hrenderjs]

theorem exists_ofId?_iff {id : String} {kind : FilterKind} :
    (∃ m, ofId? id = some m ∧ m.kind = kind) ↔
      kind.isAskedBy id = true ∧
        (kind = .renderjs → FilterKind.wxs.isAskedBy id = false) := by
  constructor
  · rintro ⟨m, hm, rfl⟩
    obtain ⟨hasked, hwxs, -, -⟩ := ofId?_eq_some_iff.mp hm
    exact ⟨hasked, hwxs⟩
  · rintro ⟨hasked, hwxs⟩
    obtain ⟨name, hname⟩ : ∃ name, name = ((Request.parse id).get? "name").getD "" := ⟨_, rfl⟩
    obtain ⟨file, hfile⟩ : ∃ file, file = (Request.parse id).filename := ⟨_, rfl⟩
    exact ⟨⟨kind, name, file⟩, ofId?_eq_some_iff.mpr ⟨hasked, hwxs, hname, hfile⟩, rfl⟩

end SandboxedModule
end AppBuild
