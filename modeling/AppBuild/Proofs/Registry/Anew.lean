/-
Configuring a registry starts from nothing.

What a configuration comes to is planned from the disk and the settings alone, and the
registry is emptied before anything else happens.  So nothing of its history can be told
afterwards, neither at once nor by what it answers later: answers are what the first
match among the matchers comes to, and these are the same (`resolve_run_congr`).  Only
the count of lookups goes on.

A configuration has two kinds of obstacles (`Obstacle`): a directory that cannot be
scanned, and a custom entry without a valid pattern.  The patterns of scanned components
are none, whatever the names of these are, since folders have short names.  With an
obstacle of either kind the configuration fails, and however far it got the registry is
left as invalidating it leaves it.
-/
import Mathlib
import AppBuild.Proofs.Registry.Override

namespace AppBuild

/-! ### Steps of which one fails -/

section

variable {ε α β γ : Type} {f : α → Except ε β}

theorem error_of_map {x : Except ε β} {g : β → γ} {e : ε} (h : x.map g = .error e) :
    x = .error e := by
  cases x with
  | error e' => exact congrArg _ (Except.error.inj h)
  | ok y => exact absurd h (by simp [Except.map])

theorem mapM_cons_ok {x : α} {y : β} (hx : f x = .ok y) (xs : List α) :
    (x :: xs).mapM f = (xs.mapM f).map (y :: ·) := by
  rw [List.mapM_cons, hx]
  cases xs.mapM f <;> rfl

/-- If all succeed then each does. -/
theorem exists_ok_of_mapM {xs : List α} {ys : List β} (h : xs.mapM f = .ok ys) {x : α}
    (hx : x ∈ xs) : ∃ y, f x = .ok y := by
  induction xs generalizing ys with
  | nil => exact absurd hx (by simp)
  | cons x' xs ih =>
      rw [List.mapM_cons] at h
      obtain ⟨y, hy, h⟩ := parts_of_bind h
      obtain ⟨ys, hys, -⟩ := parts_of_bind h
      rcases List.mem_cons.mp hx with rfl | hx
      · exact ⟨y, hy⟩
      · exact ih hys hx

/-- If they fail it is with the failure of one. -/
theorem exists_error_of_mapM {xs : List α} {e : ε} (h : xs.mapM f = .error e) :
    ∃ x ∈ xs, f x = .error e := by
  induction xs with
  | nil => exact absurd h (by simp [pure, Except.pure])
  | cons x xs ih =>
      cases hx : f x with
      | error e' =>
          rw [List.mapM_cons, hx] at h
          obtain rfl : e' = e := Except.error.inj h
          exact ⟨x, by simp, hx⟩
      | ok y =>
          rw [mapM_cons_ok hx] at h
          obtain ⟨other, hother, hfails⟩ := ih (error_of_map h)
          exact ⟨other, List.mem_cons_of_mem _ hother, hfails⟩

end

/-- Directories are scanned one after the other. -/
theorem scanDirs_eq_mapM (d : Disk) (rootDir : Path) (extensions : List String)
    (dirs : List Path) :
    scanDirs d rootDir extensions dirs =
      (dirs.mapM (scanDir d rootDir extensions)).map List.flatten := by
  induction dirs with
  | nil => rfl
  | cons dir dirs ih =>
      cases hhere : scanDir d rootDir extensions dir with
      | error e =>
          rw [scanDirs, List.mapM_cons, hhere]
          rfl
      | ok here =>
          rw [scanDirs, mapM_cons_ok hhere, hhere, ih]
          cases dirs.mapM (scanDir d rootDir extensions) <;> rfl

theorem exists_error_of_scanDirs {d : Disk} {rootDir : Path} {extensions : List String}
    {dirs : List Path} {e : BuildError} (h : scanDirs d rootDir extensions dirs = .error e) :
    ∃ dir ∈ dirs, scanDir d rootDir extensions dir = .error e := by
  rw [scanDirs_eq_mapM] at h
  exact exists_error_of_mapM (error_of_map h)

/-! ### The slots of a configuration -/

namespace Slot

theorem mem_place_self (name : String) (slot : Slot) (slots : List Slot) :
    slot ∈ place name slot slots := by
  induction slots with
  | nil => simp [place]
  | cons s slots ih =>
      unfold place
      split
      · simp
      · exact List.mem_cons_of_mem _ ih

/-- Only the slot of a scanned component is given up. -/
theorem mem_place_of_mem {name : String} {slot s : Slot} {slots : List Slot} (h : s ∈ slots)
    (hcustom : s.scanned = none) : s ∈ place name slot slots := by
  induction slots with
  | nil => exact absurd h (by simp)
  | cons s' slots ih =>
      unfold place
      rcases List.mem_cons.mp h with rfl | h
      · rw [if_neg (by simp [hcustom])]
        simp
      · split
        · exact List.mem_cons_of_mem _ h
        · exact List.mem_cons_of_mem _ (ih h)

theorem mem_of_mem_place {name : String} {slot s : Slot} {slots : List Slot}
    (h : s ∈ place name slot slots) : s = slot ∨ s ∈ slots := by
  induction slots with
  | nil => exact .inl (by simpa [place] using h)
  | cons s' slots ih =>
      unfold place at h
      split at h
      · exact (List.mem_cons.mp h).imp_right (List.mem_cons_of_mem _)
      · rcases List.mem_cons.mp h with rfl | h
        · exact .inr (by simp)
        · exact (ih h).imp_right (List.mem_cons_of_mem _)

end Slot

section

variable {cwd : Option Path} {rootDir : Path} {kept custom : List (String × String)}

/-- Every custom entry has a slot. -/
theorem ofCustom_mem_layOut {entry : String × String} (h : entry ∈ custom) :
    Slot.ofCustom cwd rootDir entry ∈ layOut cwd rootDir kept custom := by
  unfold layOut
  induction custom using List.reverseRecOn with
  | nil => exact absurd h (by simp)
  | append_singleton custom last ih =>
      rw [List.foldl_append]
      rcases List.mem_append.mp h with h | h
      · exact Slot.mem_place_of_mem (ih h) rfl
      · rw [List.mem_singleton.mp h]
        exact Slot.mem_place_self _ _ _

/-- Every slot is that of a scanned component or of a custom entry. -/
theorem of_mem_layOut {s : Slot} (h : s ∈ layOut cwd rootDir kept custom) :
    (∃ c ∈ kept, s = .ofComponent c) ∨ ∃ entry ∈ custom, s = .ofCustom cwd rootDir entry := by
  unfold layOut at h
  induction custom using List.reverseRecOn with
  | nil =>
      obtain ⟨c, hc, hs⟩ := List.mem_map.mp h
      exact .inl ⟨c, hc, hs.symm⟩
  | append_singleton custom last ih =>
      rw [List.foldl_append] at h
      rcases Slot.mem_of_mem_place h with rfl | h
      · exact .inr ⟨last, by simp, rfl⟩
      · exact (ih h).imp_right fun ⟨entry, hentry, hs⟩ => ⟨entry, by simp [hentry], hs⟩

end

/-- The pattern of a scanned component is valid, whatever its name is. -/
theorem exists_compile_ofComponent {d : Disk} {rootDir : Path} {extensions : List String}
    {dirs : List Path} {cs : List Component} (hscan : scanDirs d rootDir extensions dirs = .ok cs)
    {c : Component} (hc : c ∈ (Scan.ofComponents d.cwd rootDir cs).kept.entries) :
    ∃ m, (Slot.ofComponent c).compile = .ok m := by
  rw [(Scan.accounts_ofComponents (pathsTellNames_scanDirs hscan)).kept] at hc
  obtain ⟨found, hfound, hname⟩ :=
    List.mem_map.mp (mem_map_ranked_zero.mp (List.mem_map_of_mem hc))
  refine (Slot.stands_ofComponent c).exists_compile ?_
  rw [← hname]
  exact Pattern.bytes_anchored_le (length_le_of_mem_scanDirs hscan hfound)

/-- The slot of a custom entry is refused with the pattern of the entry. -/
theorem compile_ofCustom_eq_error_iff {cwd : Option Path} {rootDir : Path}
    {entry : String × String} {e : BuildError} :
    (Slot.ofCustom cwd rootDir entry).compile = .error e ↔
      ∃ cause, Pattern.compile entry.1 = .error cause ∧ e = .invalidPattern entry.1 cause := by
  have hpattern : (Slot.ofCustom cwd rootDir entry).pattern = entry.1 := rfl
  unfold Slot.compile
  rw [hpattern]
  cases Pattern.compile entry.1 with
  | error cause => simp [eq_comm]
  | ok pattern => simp

namespace Registry

variable {d : Disk} {c : ScanConfig} {r s : Registry}

/-! ### What a configuration can fail of -/

/-- There is something that a configuration cannot get past, with the error that it makes. -/
inductive Obstacle (d : Disk) (c : ScanConfig) : BuildError → Prop
  /-- One of the directories cannot be scanned. -/
  | directory {dir : Path} {e : BuildError} (hdir : dir ∈ c.scanned)
      (hfault : scanDir d c.rootDir c.extensions dir = .error e) : Obstacle d c e
  /-- One of the custom entries has no valid pattern. -/
  | pattern {entry : String × String} {cause : Pattern.Error} (hentry : entry ∈ c.custom.entries)
      (hinvalid : Pattern.compile entry.1 = .error cause) :
      Obstacle d c (.invalidPattern entry.1 cause)

/-- The outcome is that of the plan. -/
theorem configure_outcome (r : Registry) (d : Disk) (c : ScanConfig) :
    (r.configure d c).outcome =
      (plan d c).1.map fun found => ⟨found.1.length, found.2⟩ := by
  unfold configure
  rcases plan d c with ⟨outcome, warnings⟩
  cases outcome <;> rfl

theorem plan_of_scan_error {e : BuildError}
    (h : scanDirs d c.rootDir c.extensions c.scanned = .error e) : plan d c = (.error e, []) := by
  unfold plan
  rw [h]

/-- A configuration fails of an obstacle. -/
theorem obstacle_of_error {e : BuildError} (h : (r.configure d c).outcome = .error e) :
    Obstacle d c e := by
  rw [configure_outcome] at h
  have hplan : (plan d c).1 = .error e := error_of_map h
  cases hscan : scanDirs d c.rootDir c.extensions c.scanned with
  | error e' =>
      rw [plan_of_scan_error hscan] at hplan
      obtain rfl : e' = e := Except.error.inj hplan
      obtain ⟨dir, hdir, hfault⟩ := exists_error_of_scanDirs hscan
      exact .directory hdir hfault
  | ok cs =>
      rw [plan_of_scan hscan] at hplan
      obtain ⟨slot, hslot, hrefused⟩ := exists_error_of_mapM (error_of_map hplan)
      rcases of_mem_layOut hslot with ⟨component, hkept, rfl⟩ | ⟨entry, hentry, rfl⟩
      · obtain ⟨m, hm⟩ := exists_compile_ofComponent hscan hkept
        exact absurd (hm.symm.trans hrefused) (by simp)
      · obtain ⟨cause, hinvalid, rfl⟩ := compile_ofCustom_eq_error_iff.mp hrefused
        exact .pattern hentry hinvalid

/-- With an obstacle a configuration fails, if not of this one then of another. -/
theorem exists_error_of_obstacle {e : BuildError} (h : Obstacle d c e) (r : Registry) :
    ∃ e', (r.configure d c).outcome = .error e' := by
  cases hout : (r.configure d c).outcome with
  | error e' => exact ⟨e', rfl⟩
  | ok report =>
      exfalso
      have hok : (r.configure d c).outcome.isOk = true := by rw [hout]; rfl
      obtain ⟨cs, hscan⟩ := scanned_of_isOk hok
      cases h with
      | directory hdir hfault =>
          obtain ⟨here, hhere⟩ := exists_ok_of_scanDirs hscan hdir
          exact absurd (hhere.symm.trans hfault) (by simp)
      | pattern hentry hinvalid =>
          obtain ⟨m, hm⟩ := exists_ok_of_mapM (matchersOf_of_isOk hscan hok)
            (ofCustom_mem_layOut hentry)
          exact absurd (hm.symm.trans (compile_ofCustom_eq_error_iff.mpr ⟨_, hinvalid, rfl⟩))
            (by simp)

/-- **A configuration succeeds when there is no obstacle.** -/
theorem isOk_iff_no_obstacle (r : Registry) (d : Disk) (c : ScanConfig) :
    (r.configure d c).outcome.isOk = true ↔ ∀ e, ¬ Obstacle d c e := by
  constructor
  · intro hok e hobstacle
    obtain ⟨e', herror⟩ := exists_error_of_obstacle hobstacle r
    exact ne_error_of_isOk hok e' herror
  · intro hnone
    cases hout : (r.configure d c).outcome with
    | error e => exact absurd (obstacle_of_error hout) (hnone e)
    | ok report => rfl

/-- A configuration that fails leaves what invalidating leaves. -/
theorem registry_of_error {e : BuildError} (h : (r.configure d c).outcome = .error e) :
    (r.configure d c).registry = r.invalidate := by
  unfold configure at h ⊢
  rcases hplan : plan d c with ⟨outcome, warnings⟩
  rw [hplan] at h
  cases outcome with
  | error e' => rfl
  | ok found => exact absurd h (by simp)

/-! ### What can be told of the history -/

theorem matchers_run_congr (h : r.matchers = s.matchers) (history : List Event) :
    (r.run history).matchers = (s.run history).matchers := by
  induction history generalizing r s with
  | nil => exact h
  | cons e rest ih =>
      refine ih ?_
      rw [matchers_after, matchers_after, h]

/-- **Registries with the same matchers answer alike, now and later.** -/
theorem resolve_run_congr (hr : Coherent r) (hs : Coherent s) (h : r.matchers = s.matchers)
    (history : List Event) (tag : String) :
    ((r.run history).resolve tag).1 = ((s.run history).resolve tag).1 := by
  rw [(coherent_run hr history).resolve_eq, (coherent_run hs history).resolve_eq,
    matchers_run_congr h history]

/--
**A configuration is as good as the first one.**  Whatever a registry went through, when
it is configured it comes to the same as a new registry: the same report or error, the
same warnings and the same matchers, and the same answer to every tag after anything
that may follow.  The configuration fails exactly when a directory cannot be scanned or
a custom entry has no valid pattern, with the error of one of these; then there are no
matchers and nothing is remembered, as if the registry had been invalidated, and the
count of lookups is what it was.
-/
theorem configure_anew (r : Registry) (d : Disk) (c : ScanConfig) :
    (r.configure d c).outcome = (new.configure d c).outcome ∧
    (r.configure d c).warnings = (new.configure d c).warnings ∧
    (r.configure d c).registry.matchers = (new.configure d c).registry.matchers ∧
    (∀ (later : List Event) (tag : String),
      (((r.configure d c).registry.run later).resolve tag).1 =
        (((new.configure d c).registry.run later).resolve tag).1) ∧
    (∀ e, Obstacle d c e → ∃ e', (r.configure d c).outcome = .error e') ∧
    ∀ e, (r.configure d c).outcome = .error e →
      Obstacle d c e ∧ (r.configure d c).registry = r.invalidate ∧
        r.invalidate = ⟨[], .empty, [], false, r.lookups⟩ := by
  have hmatchers : (r.configure d c).registry.matchers = (new.configure d c).registry.matchers := by
    rw [configure_matchers, configure_matchers]
  refine ⟨?_, ?_, hmatchers, ?_, ?_, ?_⟩
  · rw [configure_outcome, configure_outcome]
  · rw [configure_warnings, configure_warnings]
  · exact resolve_run_congr (coherent_configure r d c) (coherent_configure new d c) hmatchers
  · exact fun e hobstacle => exists_error_of_obstacle hobstacle r
  · exact fun e herror => ⟨obstacle_of_error herror, registry_of_error herror, rfl⟩

/-! ### A pattern that is not closed -/

/-- The nested components with a custom entry that has no valid pattern. -/
def unclosedConfig : ScanConfig :=
  { nestedConfig with custom := ⟨[("Foo", "foo.vue"), ("(", "open.vue")], by decide⟩ }

theorem obstacle_unclosed :
    Obstacle nestedDisk unclosedConfig (.invalidPattern "(" .groupUnclosed) := by
  have hentry : ("(", "open.vue") ∈ unclosedConfig.custom.entries := by decide
  exact .pattern hentry (by cbv)

/-- A registry that was configured and asked. -/
def askedRegistry : Registry := new.run [.configure nestedDisk nestedConfig, .resolve "FooBar"]

theorem lookups_askedRegistry : askedRegistry.lookups = 1 := by
  show ((new.configure nestedDisk nestedConfig).registry.resolve "FooBar").2.lookups = 1
  unfold configure
  rw [plan_of_scan scanDirs_nested]
  decide +kernel

/-- Where the configuration fails the registry loses what it had, but not its count. -/
theorem unclosed_empties :
    Obstacle nestedDisk unclosedConfig (.invalidPattern "(" .groupUnclosed) ∧
    (askedRegistry.configure nestedDisk unclosedConfig).registry
      = ⟨[], .empty, [], false, 1⟩ := by
  refine ⟨obstacle_unclosed, ?_⟩
  obtain ⟨-, -, -, -, hfails, hleft⟩ := configure_anew askedRegistry nestedDisk unclosedConfig
  obtain ⟨e, herror⟩ := hfails _ obstacle_unclosed
  obtain ⟨-, hregistry, hempty⟩ := hleft e herror
  rw [hregistry, hempty, lookups_askedRegistry]

end Registry
end AppBuild
