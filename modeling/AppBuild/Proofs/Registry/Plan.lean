/-
What a configuration comes to before anything is asked.

Configuring a registry is a plan put into effect: directories are scanned, the conflicts
and the warning are settled by what was found, and the matchers are compiled.  A scan
that succeeds leaves nothing open but whether the patterns can be compiled
(`plan_of_scan`), and a configuration that succeeds has gone through all of it.
-/
import AppBuild.Component.Registry

namespace AppBuild

/-- What succeeds does not fail. -/
theorem ne_error_of_isOk {ε α : Type} {x : Except ε α} (h : x.isOk = true) (e : ε) :
    x ≠ .error e := by
  rintro rfl
  exact absurd h (by simp [Except.isOk, Except.toBool])

namespace Registry

/-- After a scan that succeeds the conflicts and the warning are settled; what can still fail is to
compile the patterns. -/
theorem plan_of_scan {d : Disk} {c : ScanConfig} {cs : List Component}
    (h : scanDirs d c.rootDir c.extensions c.scanned = .ok cs) :
    let scan := Scan.ofComponents d.cwd c.rootDir cs
    plan d c =
      (((layOut d.cwd c.rootDir scan.kept.entries c.custom.entries).mapM Slot.compile).map
          (·, scan.conflicts),
        (conflictWarning? d.cwd c.rootDir scan.conflicts).toList) := by
  unfold plan
  simp only [h]
  split
  · next e he =>
      rw [he]
      rfl
  · next matchers hmatchers =>
      rw [hmatchers]
      rfl

/-- **Where the same is found, the same is planned.** -/
theorem plan_eq_of_scan {d₁ d₂ : Disk} {c₁ c₂ : ScanConfig} (hcwd : d₁.cwd = d₂.cwd)
    (hroot : c₁.rootDir = c₂.rootDir) (hcustom : c₁.custom = c₂.custom) {cs : List Component}
    (h₁ : scanDirs d₁ c₁.rootDir c₁.extensions c₁.scanned = .ok cs)
    (h₂ : scanDirs d₂ c₂.rootDir c₂.extensions c₂.scanned = .ok cs) : plan d₁ c₁ = plan d₂ c₂ := by
  rw [plan_of_scan h₁, plan_of_scan h₂, hcwd, hroot, hcustom]

theorem configure_warnings (r : Registry) (d : Disk) (c : ScanConfig) :
    (r.configure d c).warnings = (plan d c).2 := by
  unfold configure
  rcases plan d c with ⟨outcome, warnings⟩
  cases outcome <;> rfl

/-- A configuration succeeds when its plan does. -/
theorem isOk_configure (r : Registry) (d : Disk) (c : ScanConfig) :
    (r.configure d c).outcome.isOk = (plan d c).1.isOk := by
  unfold configure
  rcases plan d c with ⟨outcome, warnings⟩
  cases outcome <;> rfl

theorem isOk_of_report {r : Registry} {d : Disk} {c : ScanConfig} {report : Report}
    (h : (r.configure d c).outcome = .ok report) :
    (r.configure d c).outcome.isOk = true := by
  rw [h]
  rfl

theorem exists_report {r : Registry} {d : Disk} {c : ScanConfig}
    (h : (r.configure d c).outcome.isOk = true) :
    ∃ report, (r.configure d c).outcome = .ok report := by
  cases houtcome : (r.configure d c).outcome with
  | ok report => exact ⟨report, rfl⟩
  | error e => exact absurd houtcome (ne_error_of_isOk h e)

theorem plan_of_report {r : Registry} {d : Disk} {c : ScanConfig} {report : Report}
    (h : (r.configure d c).outcome = .ok report) :
    ∃ matchers, (plan d c).1 = .ok (matchers, report.conflicts) := by
  unfold configure at h
  rcases hplan : plan d c with ⟨outcome, warnings⟩
  rw [hplan] at h
  cases outcome with
  | error e => exact absurd h (by simp)
  | ok found =>
      rw [← Except.ok.inj h]
      exact ⟨found.1, rfl⟩

/-- The conflicts that are reported are those of the scan. -/
theorem conflicts_of_report {r : Registry} {d : Disk} {c : ScanConfig} {report : Report}
    (hreport : (r.configure d c).outcome = .ok report) {cs : List Component}
    (h : scanDirs d c.rootDir c.extensions c.scanned = .ok cs) :
    report.conflicts = (Scan.ofComponents d.cwd c.rootDir cs).conflicts := by
  obtain ⟨matchers, hfound⟩ := plan_of_report hreport
  rw [plan_of_scan h] at hfound
  cases hcompiled : (layOut d.cwd c.rootDir (Scan.ofComponents d.cwd c.rootDir cs).kept.entries
      c.custom.entries).mapM Slot.compile with
  | error e => simp [hcompiled, Except.map] at hfound
  | ok ms =>
      simp only [hcompiled, Except.map, Except.ok.injEq, Prod.mk.injEq] at hfound
      exact hfound.2.symm

/-- A configuration that succeeds has scanned its directories. -/
theorem scanned_of_isOk {r : Registry} {d : Disk} {c : ScanConfig}
    (hok : (r.configure d c).outcome.isOk = true) :
    ∃ cs, scanDirs d c.rootDir c.extensions c.scanned = .ok cs := by
  cases hscan : scanDirs d c.rootDir c.extensions c.scanned with
  | ok cs => exact ⟨cs, rfl⟩
  | error e =>
      have hplan : plan d c = (.error e, []) := by
        unfold plan
        rw [hscan]
      unfold configure at hok
      rw [hplan] at hok
      exact absurd rfl (ne_error_of_isOk hok e)

end Registry
end AppBuild
