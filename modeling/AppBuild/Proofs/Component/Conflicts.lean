/-
The books of a scan.

What the scanned directories provide comes as a list of candidates, in the order of the
directories and of the folders in them.  A name can have several.  How a candidate fares
is decided by its rank, the number of earlier candidates of its name: rank zero is kept,
and every other loses (`ranked`).

The conflict record is filed under paths, not names.  That it does not mix up two names
rests on how paths are made: the folder in a path is the name itself, and what comes
after the folder has no slash in it, so no two names have one path
(`name_eq_of_path_eq`).  `Accounts` says what the record holds, one candidate more keeps
it (`Accounts.add`), and so it holds of the whole scan.

The warning is written from the record, and comes to one line for each name that is
provided more than once, with the paths of all its candidates in order.  Custom entries
have no part in any of this.
-/
import Mathlib
import AppBuild.Component.Registry
import AppBuild.Proofs.Component.Provides
import AppBuild.Proofs.Registry.Plan
import AppBuild.Proofs.Text.Lossy

namespace AppBuild

/-! ### Paths tell names apart -/

section

variable {d : Disk} {rootDir : Path} {extensions : List String}

/-- A list is cut at the last place of an element in one way. -/
theorem parts_of_last_eq {α : Type} {x : α} {before before' after after' : List α}
    (h : x ∉ after) (h' : x ∉ after') (heq : before ++ x :: after = before' ++ x :: after') :
    before = before' ∧ after = after' := by
  rcases List.append_eq_append_iff.mp heq with ⟨more, hbefore, hrest⟩ | ⟨more, hbefore, hrest⟩
  · cases more with
    | nil => exact ⟨by simpa using hbefore.symm, (List.cons.inj hrest).2⟩
    | cons y more =>
        obtain ⟨-, hafter⟩ := List.cons.inj hrest
        exact absurd (show x ∈ after by rw [hafter]; simp) h
  · cases more with
    | nil => exact ⟨by simpa using hbefore, (List.cons.inj hrest).2.symm⟩
    | cons y more =>
        obtain ⟨-, hafter⟩ := List.cons.inj hrest
        exact absurd (show x ∈ after' by rw [hafter]; simp) h'

theorem Disk.ne_nil_of_locate {p : Path} {x : Location × Entry}
    (h : d.locate p = .ok (some x)) : p.bytes ≠ [] := by
  intro hnil
  have hnone : d.locate p = .ok none := by
    unfold locate
    rw [hnil]
    rfl
  rw [hnone] at h
  exact absurd h (by simp)

/-- Before the name of a child there is a slash. -/
theorem Path.exists_bytes_child {p : Path} (hp : p.bytes ≠ []) {name : String}
    (hname : IsName (Utf8.encode name)) :
    ∃ above, (p.child name).bytes = above ++ slash :: Utf8.encode name := by
  have hrelative : (ofText name).isAbsolute = false := isAbsolute_name hname
  unfold child
  rw [bytes_join p hrelative]
  split
  · next hslash =>
      have hempty : p.bytes.isEmpty = false := by simpa using hp
      rw [hempty, Bool.false_or, beq_iff_eq, List.getLast?_eq_some_iff] at hslash
      obtain ⟨above, habove⟩ := hslash
      refine ⟨above, ?_⟩
      rw [habove, List.append_assoc]
      rfl
  · refine ⟨p.bytes, ?_⟩
    rw [List.append_assoc]
    rfl

/-- The path of a component ends in its folder, which has its name, and a file. -/
theorem Provides.toList_path {dir : Path} {name path : String}
    (h : Provides d rootDir extensions dir name path) :
    '/' ∉ name.toList ∧ ∃ above file, '/' ∉ file ∧
      path.toList = above ++ '/' :: (name.toList ++ '/' :: file) := by
  obtain ⟨at_, ext, hlocate, hfolder, hheld, hpath⟩ := h
  have hname : IsName (Utf8.encode name) := Tree.isName_of_get? hfolder
  obtain ⟨file, e, hfile, htext⟩ := hheld.1
  have hslash : '/' ∉ name.toList := by
    rw [← Utf8.decodeLossy_encode name]
    exact Utf8.slash_not_mem_decodeLossy hname.2.1
  have hfileSlash : '/' ∉ (name ++ ext).toList := by
    rw [← htext]
    exact Utf8.slash_not_mem_decodeLossy (Tree.isName_of_get? hfile).2.1
  obtain ⟨above, habove⟩ := Path.exists_bytes_child (Disk.ne_nil_of_locate hlocate) hname
  have hfolderText : ((Path.resolve d.cwd rootDir dir).child name).toText
      = Utf8.decodeLossy above ++ "/" ++ name := by
    unfold Path.toText
    rw [habove, Utf8.decodeLossy_append_slash, Utf8.decodeLossy_encode]
  refine ⟨hslash, (Utf8.decodeLossy above).toList, (name ++ ext).toList, hfileSlash, ?_⟩
  rw [hpath, hfolderText]
  simp [String.toList_append]

/-- Directories give one path to one name only. -/
theorem Provides.name_eq {dir dir' : Path} {name name' path : String}
    (h : Provides d rootDir extensions dir name path)
    (h' : Provides d rootDir extensions dir' name' path) : name = name' := by
  obtain ⟨hname, above, file, hfile, hpath⟩ := h.toList_path
  obtain ⟨hname', above', file', hfile', hpath'⟩ := h'.toList_path
  have heq : (above ++ '/' :: name.toList) ++ '/' :: file
      = (above' ++ '/' :: name'.toList) ++ '/' :: file' := by
    simpa using hpath.symm.trans hpath'
  -- The last slash stands before the file, the one before it before the folder.
  obtain ⟨hfolder, -⟩ := parts_of_last_eq hfile hfile' heq
  obtain ⟨-, hnames⟩ := parts_of_last_eq hname hname' hfolder
  exact String.toList_inj.mp hnames

theorem mem_scanDirs {dirs : List Path} {cs : List Component}
    (h : scanDirs d rootDir extensions dirs = .ok cs) (name path : String) :
    (name, path) ∈ cs ↔ ∃ dir ∈ dirs, Provides d rootDir extensions dir name path := by
  induction dirs generalizing cs with
  | nil =>
      rw [← Except.ok.inj h]
      simp
  | cons dir dirs ih =>
      obtain ⟨here, later, hhere, hlater, rfl⟩ := parts_of_scanDirs h
      rw [List.mem_append, mem_scanDir hhere, ih hlater]
      simp

/-- No two names among the candidates have one path. -/
def PathsTellNames (cs : List Component) : Prop := ∀ a ∈ cs, ∀ b ∈ cs, a.2 = b.2 → a.1 = b.1

/-- **What directories provide under two names has two paths.** -/
theorem pathsTellNames_scanDirs {dirs : List Path} {cs : List Component}
    (h : scanDirs d rootDir extensions dirs = .ok cs) : PathsTellNames cs := by
  intro a ha b hb hpath
  obtain ⟨dir, -, hprovides⟩ := (mem_scanDirs h a.1 a.2).mp ha
  obtain ⟨dir', -, hprovides'⟩ := (mem_scanDirs h b.1 b.2).mp hb
  rw [← hpath] at hprovides'
  exact hprovides.name_eq hprovides'

end

/-! ### Ranks -/

/-- The candidates of a name, in order. -/
def ofName (name : String) (cs : List Component) : List Component := cs.filter (·.1 == name)

/-- The candidates, after those before them, of whose name there were so many. -/
def rankedFrom (rank : Nat) (before : List Component) : List Component → List Component
  | [] => []
  | c :: cs =>
    if (ofName c.1 before).length = rank then c :: rankedFrom rank (before ++ [c]) cs
    else rankedFrom rank (before ++ [c]) cs

/-- The candidates that have exactly so many of their name before them: the first of each name for
rank zero, the second of each that has two for rank one. -/
def ranked (rank : Nat) (cs : List Component) : List Component := rankedFrom rank [] cs

/-- The names that have more than one candidate, in the order of their second ones. -/
def repeated (cs : List Component) : List String := (ranked 1 cs).map Prod.fst

section

variable {rank : Nat} {name : String} {cs : List Component} {c : Component}

theorem ofName_concat_self : ofName c.1 (cs ++ [c]) = ofName c.1 cs ++ [c] := by
  simp [ofName]

theorem ofName_concat_of_ne (h : c.1 ≠ name) : ofName name (cs ++ [c]) = ofName name cs := by
  simp [ofName, h]

theorem mem_of_mem_ofName (h : c ∈ ofName name cs) : c ∈ cs ∧ c.1 = name := by
  simpa [ofName] using h

/-- The first candidate of a name decides what is found under it. -/
theorem lookup_eq_head?_ofName (name : String) (cs : List Component) :
    cs.lookup name = (ofName name cs).head?.map Prod.snd := by
  induction cs with
  | nil => rfl
  | cons c cs ih =>
      obtain ⟨other, path⟩ := c
      by_cases hname : other = name
      · subst hname
        simp [ofName]
      · have hbeq : (name == other) = false := by simpa using Ne.symm hname
        rw [List.lookup_cons, hbeq, ih]
        simp [ofName, hname]

theorem rankedFrom_concat (rank : Nat) (before cs : List Component) (c : Component) :
    rankedFrom rank before (cs ++ [c]) =
      rankedFrom rank before cs ++
        if (ofName c.1 (before ++ cs)).length = rank then [c] else [] := by
  induction cs generalizing before with
  | nil => simp [rankedFrom]
  | cons first cs ih =>
      rw [List.cons_append, rankedFrom, rankedFrom, ih, List.append_assoc, List.singleton_append]
      split
      · rw [List.cons_append]
      · rfl

/-- One candidate more stands at the end of those of its rank. -/
theorem ranked_concat (rank : Nat) (cs : List Component) (c : Component) :
    ranked rank (cs ++ [c]) =
      ranked rank cs ++ if (ofName c.1 cs).length = rank then [c] else [] :=
  rankedFrom_concat rank [] cs c

theorem lookup_ranked_zero (name : String) (cs : List Component) :
    (ranked 0 cs).lookup name = cs.lookup name := by
  induction cs using List.reverseRecOn with
  | nil => rfl
  | append_singleton cs c ih =>
      rw [ranked_concat, List.lookup_append, List.lookup_append, ih]
      split
      · rfl
      · next hrank =>
          by_cases hname : name = c.1
          · obtain ⟨first, hfirst⟩ := List.exists_mem_of_length_pos (Nat.pos_of_ne_zero hrank)
            cases hlookup : cs.lookup name with
            | some path => rfl
            | none =>
                obtain ⟨hmem, hsame⟩ := mem_of_mem_ofName hfirst
                have hne := List.lookup_eq_none_iff.mp hlookup first hmem
                exact absurd (hname.trans hsame.symm) (by simpa using hne)
          · have hbeq : (name == c.1) = false := by simpa using hname
            rw [List.lookup_nil, List.lookup_cons, hbeq, List.lookup_nil]

/-- A name has a candidate of a rank when it has more candidates than the rank says. -/
theorem mem_map_ranked : name ∈ (ranked rank cs).map Prod.fst ↔ rank < (ofName name cs).length := by
  induction cs using List.reverseRecOn with
  | nil => simp [ranked, rankedFrom, ofName]
  | append_singleton cs c ih =>
      rw [ranked_concat, List.map_append, List.mem_append, ih]
      by_cases hname : c.1 = name
      · subst hname
        rw [ofName_concat_self, List.length_append, List.length_singleton]
        split
        · next hrank => simp [hrank]
        · next hrank =>
            simp only [List.map_nil, List.not_mem_nil, or_false]
            omega
      · rw [ofName_concat_of_ne hname]
        split
        · simp [Ne.symm hname]
        · simp

/-- No name has two candidates of one rank. -/
theorem nodup_map_ranked (rank : Nat) (cs : List Component) :
    ((ranked rank cs).map Prod.fst).Nodup := by
  induction cs using List.reverseRecOn with
  | nil => exact List.nodup_nil
  | append_singleton cs c ih =>
      rw [ranked_concat]
      split
      · next hrank =>
          have hfree : c.1 ∉ (ranked rank cs).map Prod.fst := by
            rw [mem_map_ranked]
            omega
          rw [List.map_append, List.map_singleton, List.nodup_append]
          refine ⟨ih, List.nodup_singleton _, fun a ha b hb hab => hfree ?_⟩
          rw [← List.mem_singleton.mp hb, ← hab]
          exact ha
      · rw [List.append_nil]
        exact ih

end

/-- **The names that repeat are those with two candidates or more.** -/
theorem mem_repeated {name : String} {cs : List Component} :
    name ∈ repeated cs ↔ 2 ≤ (ofName name cs).length :=
  mem_map_ranked

theorem nodup_repeated (cs : List Component) : (repeated cs).Nodup := nodup_map_ranked 1 cs

/-! ### Entries of an ordered map, one changed -/

section

variable {R R' : String → String × List String → Prop} {names : List String}
  {es : List (String × List String)} {name key : String}

/-- Entries that stand for names do so after one of them was put in, in its place or at the end. -/
theorem forall₂_insertEntries (h : List.Forall₂ R names es) (hdistinct : names.Nodup)
    (value : List String) (hkey : ∀ other e, R other e → (e.1 = key ↔ other = name))
    (hnew : R' name (key, value)) (hold : ∀ other e, other ≠ name → R other e → R' other e) :
    List.Forall₂ R' (if name ∈ names then names else names ++ [name])
      (OrderedMap.insertEntries key value es) := by
  have hrest : ∀ {names es}, List.Forall₂ R names es → name ∉ names →
      List.Forall₂ R' names es := by
    intro names es h hnot
    induction h with
    | nil => exact .nil
    | cons he _ ih =>
        rw [List.mem_cons, not_or] at hnot
        exact .cons (hold _ _ (Ne.symm hnot.1) he) (ih hnot.2)
  induction h with
  | nil => exact .cons hnew .nil
  | @cons other e names es he hes ih =>
      rw [List.nodup_cons] at hdistinct
      unfold OrderedMap.insertEntries
      by_cases hname : other = name
      · rw [if_pos ((hkey other e he).mpr hname), if_pos (by simp [hname]), hname]
        exact .cons hnew (hrest hes (hname ▸ hdistinct.1))
      · have hiff : name ∈ other :: names ↔ name ∈ names := by simp [Ne.symm hname]
        rw [if_neg (fun hat => hname ((hkey other e he).mp hat))]
        have hlater := ih hdistinct.2
        by_cases hmem : name ∈ names
        · rw [if_pos (hiff.mpr hmem)]
          rw [if_pos hmem] at hlater
          exact .cons (hold other e hname he) hlater
        · rw [if_neg (fun h => hmem (hiff.mp h)), List.cons_append]
          rw [if_neg hmem] at hlater
          exact .cons (hold other e hname he) hlater

theorem lookup_of_forall₂ (h : List.Forall₂ R names es)
    (hkey : ∀ other e, R other e → (e.1 = key ↔ other = name)) :
    name ∉ names ∧ es.lookup key = none ∨ ∃ value, R name (key, value) ∧
      es.lookup key = some value := by
  induction h with
  | nil => exact .inl ⟨by simp, rfl⟩
  | @cons other e names es he _ ih =>
      obtain ⟨k, value⟩ := e
      by_cases hname : other = name
      · have hk : k = key := (hkey other (k, value) he).mpr hname
        subst hname hk
        exact .inr ⟨value, he, by simp⟩
      · have hbeq : (key == k) = false := by
          rw [beq_eq_false_iff_ne]
          exact fun hk => hname ((hkey other (k, value) he).mp hk.symm)
        rw [List.lookup_cons, hbeq, List.mem_cons, not_or]
        rcases ih with ⟨hnot, hnone⟩ | hfound
        · exact .inl ⟨⟨Ne.symm hname, hnot⟩, hnone⟩
        · exact .inr hfound

end

/-- Putting an entry in takes the length of the old value away and adds that of the new. -/
theorem sum_insertEntries (key : String) (value : List String)
    (es : List (String × List String)) :
    ((OrderedMap.insertEntries key value es).map (·.2.length)).sum
        + ((es.lookup key).getD []).length
      = (es.map (·.2.length)).sum + value.length := by
  induction es with
  | nil => simp [OrderedMap.insertEntries]
  | cons e es ih =>
      obtain ⟨k, old⟩ := e
      unfold OrderedMap.insertEntries
      by_cases hk : k = key
      · subst hk
        simp only [if_true, List.map_cons, List.sum_cons, List.lookup_cons, beq_self_eq_true,
          Option.getD_some]
        omega
      · have hbeq : (key == k) = false := by simpa using Ne.symm hk
        simp only [hk, if_false, List.map_cons, List.sum_cons, List.lookup_cons, hbeq]
        omega

theorem insertEntries_of_not_mem {κ ν : Type} [DecidableEq κ] {key : κ} {es : List (κ × ν)}
    (h : key ∉ es.map Prod.fst) (value : ν) :
    OrderedMap.insertEntries key value es = es ++ [(key, value)] := by
  induction es with
  | nil => rfl
  | cons e es ih =>
      rw [List.map_cons, List.mem_cons, not_or] at h
      rw [OrderedMap.insertEntries, if_neg (Ne.symm h.1), ih h.2, List.cons_append]

/-! ### The books -/

/-- The path of a candidate as seen from the root. -/
def fromRoot (cwd : Option Path) (rootDir : Path) (c : Component) : String :=
  Path.relative cwd rootDir (.ofText c.2)

/-- The entry is the one of a name: under the path of its first candidate the paths of all others,
as seen from the root, in order. -/
def Recorded (cwd : Option Path) (rootDir : Path) (cs : List Component) (name : String)
    (e : String × List String) : Prop :=
  ∃ first later, ofName name cs = first :: later ∧
    e = (first.2, later.map (fromRoot cwd rootDir))

/-- What a scan holds accounts for the candidates. -/
structure Scan.Accounts (cwd : Option Path) (rootDir : Path) (cs : List Component) (s : Scan) :
    Prop where
  /-- The first candidate of each name is kept. -/
  kept : s.kept.entries = ranked 0 cs
  /-- For each name that repeats there is its entry, in the order in which the names came to. -/
  recorded : List.Forall₂ (Recorded cwd rootDir cs) (repeated cs) s.conflicts.entries
  /-- What is kept and what lost is all there was. -/
  total : s.kept.size + (s.conflicts.entries.map (·.2.length)).sum = cs.length

section

variable {cwd : Option Path} {rootDir : Path} {cs : List Component} {c : Component} {s : Scan}

theorem Recorded.concat {name : String} {e : String × List String} (hne : name ≠ c.1)
    (h : Recorded cwd rootDir cs name e) : Recorded cwd rootDir (cs ++ [c]) name e := by
  obtain ⟨first, later, hof, he⟩ := h
  exact ⟨first, later, by rw [ofName_concat_of_ne (Ne.symm hne), hof], he⟩

/-- The key of an entry tells its name. -/
theorem Recorded.key_iff (hpaths : PathsTellNames cs) {first : Component}
    {later : List Component} (hfirst : ofName c.1 cs = first :: later) {name : String}
    {e : String × List String} (h : Recorded cwd rootDir cs name e) :
    e.1 = first.2 ↔ name = c.1 := by
  obtain ⟨kept, losers, hof, rfl⟩ := h
  obtain ⟨hmem, hname⟩ := mem_of_mem_ofName (c := first) (by rw [hfirst]; simp)
  obtain ⟨hmem', hname'⟩ := mem_of_mem_ofName (c := kept) (by rw [hof]; simp)
  constructor
  · intro hpath
    rw [← hname, ← hname']
    exact hpaths kept hmem' first hmem hpath
  · rintro rfl
    rw [hof] at hfirst
    rw [(List.cons.inj hfirst).1]

/-- The first candidate of a name is taken in under the name. -/
theorem Scan.Accounts.add_first (h : s.Accounts cwd rootDir cs) (hno : ofName c.1 cs = []) :
    (s.add cwd rootDir c).Accounts cwd rootDir (cs ++ [c]) := by
  have hget : s.kept.get? c.1 = none := by
    unfold OrderedMap.get?
    rw [h.kept, lookup_ranked_zero, lookup_eq_head?_ofName, hno]
    rfl
  have hfree : c.1 ∉ s.kept.entries.map Prod.fst := by
    rw [h.kept, mem_map_ranked, hno]
    simp
  have hadd : s.add cwd rootDir c = { s with kept := s.kept.insert c.1 c.2 } := by
    unfold add
    rw [hget]
  have hentries : (s.kept.insert c.1 c.2).entries = s.kept.entries ++ [c] :=
    insertEntries_of_not_mem hfree c.2
  have hrepeated : repeated (cs ++ [c]) = repeated cs := by
    unfold repeated
    rw [ranked_concat, hno, if_neg (by simp), List.append_nil]
  rw [hadd]
  refine ⟨?_, ?_, ?_⟩
  · rw [hentries, h.kept, ranked_concat, hno, List.length_nil, if_pos rfl]
  · rw [hrepeated]
    refine h.recorded.imp fun name e he => he.concat ?_
    rintro rfl
    obtain ⟨first, later, hof, -⟩ := he
    rw [hno] at hof
    exact absurd hof (by simp)
  · have htotal := h.total
    unfold OrderedMap.size at htotal ⊢
    simp only [hentries, List.length_append, List.length_singleton]
    omega

/-- A later candidate of a name is noted under the path of the first. -/
theorem Scan.Accounts.add_later (h : s.Accounts cwd rootDir cs) (hpaths : PathsTellNames cs)
    {first : Component} {later : List Component} (hsome : ofName c.1 cs = first :: later) :
    (s.add cwd rootDir c).Accounts cwd rootDir (cs ++ [c]) := by
  have hget : s.kept.get? c.1 = some first.2 := by
    unfold OrderedMap.get?
    rw [h.kept, lookup_ranked_zero, lookup_eq_head?_ofName, hsome]
    rfl
  -- What the name has lost so far, be it nothing, are its candidates after the first.
  have hlosers : (s.conflicts.get? first.2).getD [] = later.map (fromRoot cwd rootDir) := by
    unfold OrderedMap.get?
    rcases lookup_of_forall₂ h.recorded fun _ _ he => he.key_iff hpaths hsome with
      ⟨hnot, hnone⟩ | ⟨value, ⟨first', later', hof, hvalue⟩, hlookup⟩
    · rw [mem_repeated, hsome, List.length_cons] at hnot
      have hlater : later = [] := List.length_eq_zero_iff.mp (by omega)
      rw [hnone, hlater]
      rfl
    · rw [hsome] at hof
      obtain ⟨rfl, rfl⟩ := List.cons.inj hof
      rw [hlookup, (Prod.mk.inj hvalue).2]
      rfl
  have hadd : s.add cwd rootDir c = { s with
      conflicts := s.conflicts.insert first.2 ((later ++ [c]).map (fromRoot cwd rootDir)) } := by
    unfold add
    simp only [hget, hlosers, List.map_append, List.map_singleton, fromRoot]
  have hkept : ranked 0 (cs ++ [c]) = ranked 0 cs := by
    rw [ranked_concat, hsome, if_neg (by simp), List.append_nil]
  have hrepeated : repeated (cs ++ [c]) =
      if c.1 ∈ repeated cs then repeated cs else repeated cs ++ [c.1] := by
    have hmem : c.1 ∈ repeated cs ↔ 1 ≤ later.length := by
      rw [mem_repeated, hsome, List.length_cons]
      omega
    unfold repeated at hmem ⊢
    rw [ranked_concat, List.map_append, hsome, List.length_cons]
    by_cases hlater : later.length = 0
    · rw [if_pos (by omega), if_neg (by rw [hmem]; omega), List.map_singleton]
    · rw [if_neg (by omega), if_pos (by rw [hmem]; omega), List.map_nil, List.append_nil]
  rw [hadd]
  refine ⟨?_, ?_, ?_⟩
  · rw [hkept]
    exact h.kept
  · rw [hrepeated]
    refine forall₂_insertEntries h.recorded (nodup_repeated cs) _
      (fun _ _ he => he.key_iff hpaths hsome) ?_ fun _ _ hne he => he.concat hne
    exact ⟨first, later ++ [c], by rw [ofName_concat_self, hsome, List.cons_append], rfl⟩
  · have htotal := h.total
    have hsum := sum_insertEntries first.2 ((later ++ [c]).map (fromRoot cwd rootDir))
      s.conflicts.entries
    unfold OrderedMap.get? at hlosers
    rw [hlosers, List.length_map, List.length_map, List.length_append,
      List.length_singleton] at hsum
    show s.kept.size + ((OrderedMap.insertEntries first.2 _ _).map _).sum = _
    rw [List.length_append, List.length_singleton]
    omega

/-- **One candidate more keeps the books.** -/
theorem Scan.Accounts.add (h : s.Accounts cwd rootDir cs) (hpaths : PathsTellNames cs)
    (c : Component) : (s.add cwd rootDir c).Accounts cwd rootDir (cs ++ [c]) := by
  cases hof : ofName c.1 cs with
  | nil => exact h.add_first hof
  | cons first later => exact h.add_later hpaths hof

/-- **A scan accounts for all its candidates.** -/
theorem Scan.accounts_ofComponents (hpaths : PathsTellNames cs) :
    (ofComponents cwd rootDir cs).Accounts cwd rootDir cs := by
  induction cs using List.reverseRecOn with
  | nil => exact ⟨rfl, .nil, rfl⟩
  | append_singleton cs c ih =>
      have hearlier : PathsTellNames cs := fun a ha b hb =>
        hpaths a (List.mem_append_left _ ha) b (List.mem_append_left _ hb)
      unfold ofComponents at ih ⊢
      rw [List.foldl_append]
      exact (ih hearlier).add hearlier c

/-- What is on record lost to the first candidate of a name. -/
theorem Scan.Accounts.exists_recorded (h : s.Accounts cwd rootDir cs)
    {e : String × List String} (he : e ∈ s.conflicts.entries) :
    ∃ name, Recorded cwd rootDir cs name e := by
  obtain ⟨i, hi, rfl⟩ := List.mem_iff_getElem.mp he
  obtain ⟨hlength, hrecorded⟩ := List.forall₂_iff_get.mp h.recorded
  exact ⟨_, hrecorded i (by omega) hi⟩

end

/-! ### The warning -/

section

variable {cwd : Option Path} {rootDir : Path} {cs : List Component} {s : Scan}

/-- The candidates of all names that repeat, one line for each name. -/
def conflictText (cwd : Option Path) (rootDir : Path) (cs : List Component) : String :=
  "easycom component conflict:" ++ String.join ((repeated cs).map fun name =>
    "\n" ++ ",".intercalate ((ofName name cs).map (fromRoot cwd rootDir)))

theorem map_lines_of_recorded {names : List String} {es : List (String × List String)}
    (h : List.Forall₂ (Recorded cwd rootDir cs) names es) :
    (es.map fun e => "\n" ++ ",".intercalate (Path.relative cwd rootDir (.ofText e.1) :: e.2)) =
      names.map fun name => "\n" ++ ",".intercalate ((ofName name cs).map
        (fromRoot cwd rootDir)) := by
  induction h with
  | nil => rfl
  | cons he _ ih =>
      obtain ⟨first, later, hof, rfl⟩ := he
      rw [List.map_cons, List.map_cons, ih, hof, List.map_cons, fromRoot]

/-- There is a warning when names repeat, and it has all their candidates. -/
theorem conflictWarning?_of_accounts (h : s.Accounts cwd rootDir cs) :
    conflictWarning? cwd rootDir s.conflicts =
      if repeated cs = [] then none else some (conflictText cwd rootDir cs) := by
  have hlines := map_lines_of_recorded h.recorded
  have hlength := h.recorded.length_eq
  unfold conflictWarning? conflictText
  cases hrepeated : repeated cs with
  | nil =>
      rw [hrepeated] at hlength
      rw [List.length_eq_zero_iff.mp hlength.symm]
      rfl
  | cons name names =>
      rw [hrepeated] at hlength hlines
      have hsome : s.conflicts.entries.isEmpty = false := by
        cases hentries : s.conflicts.entries with
        | nil =>
            rw [hentries] at hlength
            exact absurd hlength (by simp)
        | cons e es => rfl
      rw [← hlines, if_neg (by simp [hsome]), if_neg (by simp)]

end

namespace Registry

/--
**No candidate is lost and none is counted twice.**  Where the directories can be
scanned, the first candidate of each name is kept, and the conflict record has one
entry for each name that repeats: under the path that is kept, the paths of all other
candidates of the name, in order.  No two names share an entry.  Whatever the custom
entries, and even where they make the configuration fail, there is one warning with all
these candidates, and none if no name repeats.
-/
theorem configure_accounts (r : Registry) (d : Disk) (c : ScanConfig) {cs : List Component}
    (h : scanDirs d c.rootDir c.extensions c.scanned = .ok cs) :
    (Scan.ofComponents d.cwd c.rootDir cs).Accounts d.cwd c.rootDir cs ∧
    (∀ name, name ∈ repeated cs ↔ 2 ≤ (ofName name cs).length) ∧ (repeated cs).Nodup ∧
    PathsTellNames cs ∧
    ∀ custom : OrderedMap String String,
      (r.configure d { c with custom }).warnings =
        (if repeated cs = [] then [] else [conflictText d.cwd c.rootDir cs]) ∧
      ∀ report, (r.configure d { c with custom }).outcome = .ok report →
        report.conflicts = (Scan.ofComponents d.cwd c.rootDir cs).conflicts := by
  have hpaths : PathsTellNames cs := pathsTellNames_scanDirs h
  have haccounts : (Scan.ofComponents d.cwd c.rootDir cs).Accounts d.cwd c.rootDir cs :=
    Scan.accounts_ofComponents hpaths
  refine ⟨haccounts, fun name => mem_repeated, nodup_repeated cs, hpaths, fun custom => ?_⟩
  constructor
  · rw [configure_warnings, plan_of_scan (c := { c with custom }) h,
      conflictWarning?_of_accounts haccounts]
    split <;> rfl
  · intro report hreport
    exact conflicts_of_report hreport h

/-! ### Three directories with two names between them -/

/-- Both names are in two of the directories or more. -/
def crowdedDisk : Disk :=
  let file (dir name : String) : List (Location × Entry) :=
    [([Utf8.encode dir, Utf8.encode name], .directory),
      ([Utf8.encode dir, Utf8.encode name, Utf8.encode (name ++ ".vue")], .file [])]
  ⟨⟨[([Utf8.encode "a"], .directory), ([Utf8.encode "b"], .directory),
      ([Utf8.encode "c"], .directory)] ++
      file "a" "Foo" ++ file "b" "Bar" ++ file "b" "Foo" ++ file "c" "Bar" ++ file "c" "Foo",
    by decide⟩, none⟩

/-- The three directories are scanned, and there is a custom entry whose pattern is none. -/
def crowdedConfig : ScanConfig where
  dirs := [.ofText "/a", .ofText "/b", .ofText "/c"]
  rootDir := .ofText "/"
  extensions := [".vue"]
  autoscan := true
  custom := ⟨[("(", "broken.vue")], by decide⟩

/-- What the scan finds. -/
def crowdedFound : List Component :=
  [("Foo", "/a/Foo/Foo.vue"), ("Bar", "/b/Bar/Bar.vue"), ("Foo", "/b/Foo/Foo.vue"),
    ("Bar", "/c/Bar/Bar.vue"), ("Foo", "/c/Foo/Foo.vue")]

/-- Although the configuration fails, all candidates are in the warning. -/
theorem crowded_accounts :
    scanDirs crowdedDisk crowdedConfig.rootDir crowdedConfig.extensions crowdedConfig.scanned
      = .ok crowdedFound ∧
    (new.configure crowdedDisk crowdedConfig).outcome.isOk = false ∧
    (new.configure crowdedDisk crowdedConfig).warnings = ["easycom component conflict:" ++
      "\na/Foo/Foo.vue,b/Foo/Foo.vue,c/Foo/Foo.vue\nb/Bar/Bar.vue,c/Bar/Bar.vue"] := by
  have hscan : scanDirs crowdedDisk crowdedConfig.rootDir crowdedConfig.extensions
      crowdedConfig.scanned = .ok crowdedFound := by cbv
  obtain ⟨-, -, -, -, hcustom⟩ := configure_accounts new crowdedDisk crowdedConfig hscan
  have hfails : (new.configure crowdedDisk crowdedConfig).outcome.isOk = false := by
    unfold configure
    rw [plan_of_scan hscan]
    decide +kernel
  refine ⟨hscan, hfails, (hcustom crowdedConfig.custom).1.trans ?_⟩
  decide +kernel

end Registry
end AppBuild
