/-
The components of one project.

A project is configured once, by the first `init` that succeeds; `refresh` configures
it again.  As long as it is not configured, the next `init` tries again.  A change to a
file matters to it only where the file could be a component (`watches`).
-/
import AppBuild.Component.Registry
import AppBuild.Text.Search

namespace AppBuild

/-- The components of a project: where it is, its registry, and its configuration if it has one. -/
structure Project where
  layout : Layout
  registry : Registry
  config : Option ScanConfig

namespace Project

/-- A project that was never configured. -/
def new (layout : Layout) : Project := ⟨layout, .new, none⟩

/-- What is scanned for the project. -/
def scanConfig (p : Project) (d : Disk) (options : ComponentOptions) :
    Except BuildError ScanConfig :=
  ScanConfig.forProject d p.layout options

/-- What a refresh leads to. -/
structure Refreshed where
  project : Project
  outcome : Except BuildError Report
  warnings : List String

/-- Configures the project again. -/
def refresh (p : Project) (d : Disk) (options : ComponentOptions) : Refreshed :=
  let p := { p with config := none }
  match p.scanConfig d options with
  | .error e => ⟨p, .error e, []⟩
  | .ok config =>
    let c := p.registry.invalidate.configure d config
    match c.outcome with
    | .error e => ⟨{ p with registry := c.registry }, .error e, c.warnings⟩
    | .ok report =>
      ⟨{ p with registry := c.registry, config := some config }, .ok report, c.warnings⟩

section

variable {p : Project} {d : Disk} {options : ComponentOptions}

/-- A refresh that cannot tell what to scan ends there. -/
theorem refresh_of_error {e : BuildError} (h : p.scanConfig d options = .error e) :
    p.refresh d options = ⟨{ p with config := none }, .error e, []⟩ := by
  have hfresh : ({ p with config := none } : Project).scanConfig d options = .error e := h
  unfold refresh
  simp only [hfresh]

/-- A refresh that can tell configures the registry, and keeps the settings if that succeeds. -/
theorem refresh_of_ok {config : ScanConfig} (h : p.scanConfig d options = .ok config) :
    p.refresh d options =
      let c := p.registry.invalidate.configure d config
      ⟨⟨p.layout, c.registry, if c.outcome.isOk then some config else none⟩, c.outcome,
        c.warnings⟩ := by
  have hfresh : ({ p with config := none } : Project).scanConfig d options = .ok config := h
  unfold refresh
  simp only [hfresh]
  cases (p.registry.invalidate.configure d config).outcome <;> rfl

end

/-- Configures the project unless it is configured: then nothing is done. -/
def init (p : Project) (d : Disk) (options : ComponentOptions) : Option Refreshed :=
  if p.config.isSome then none else some (p.refresh d options)

/-- The path that a tag stands for, if it is a component. -/
def resolve (p : Project) (tag : String) : Option String × Project :=
  let (answer, registry) := p.registry.resolve tag
  (answer, { p with registry })

/-- Is the name that of a component file? -/
def isComponentFile (name : List Char) : Bool :=
  ['.', 'v', 'u', 'e'].isSuffixOf name && 4 < name.length

/-- Do the names on the way from the root of the sources lead to where a component can be? -/
def isComponentPlace : List (List Char) → Bool
  | [top, folder, file] =>
    top == "components".toList && !folder.isEmpty && isComponentFile file
  | [top, module_, inside, folder, file] =>
    top == "uni_modules".toList && !module_.isEmpty && inside == "components".toList &&
      !folder.isEmpty && isComponentFile file
  | _ => false

/-- Can a change to a file change what a scan comes to? -/
def watches (p : Project) (cwd : Option Path) (path : Path) : Bool :=
  let absolute := Path.resolve cwd p.layout.inputDir path
  let inputDir := Path.resolve cwd .here p.layout.inputDir
  absolute.isWithin inputDir &&
    isComponentPlace (splitAll '/' (Path.relative cwd inputDir absolute).toList)

end Project
end AppBuild
