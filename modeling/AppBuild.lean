import AppBuild.Bundle.Obfuscator
import AppBuild.Component.Project
import AppBuild.Request.Module
import AppBuild.Template.Assembler
import AppBuild.Tree.Edit
import AppBuild.Proofs.Registry.Cache
import AppBuild.Proofs.Project.History
import AppBuild.Proofs.Component.Provides
import AppBuild.Proofs.Component.Slots
import AppBuild.Proofs.Project.Spelling
import AppBuild.Proofs.Pattern.Word
import AppBuild.Proofs.Component.Conflicts
import AppBuild.Proofs.Registry.Override
import AppBuild.Proofs.Bundle.Load
import AppBuild.Proofs.Bundle.Settled
import AppBuild.Proofs.Unicode.Folding
import AppBuild.Proofs.Path.Place
import AppBuild.Proofs.Tree.Agreement
import AppBuild.Proofs.Component.Agreement
import AppBuild.Proofs.Project.Watching
import AppBuild.Proofs.Template.Replay
import AppBuild.Proofs.Bundle.Frame
import AppBuild.Proofs.Registry.Anew
import AppBuild.Proofs.Project.Guard
import AppBuild.Proofs.Component.Substitution
import AppBuild.Proofs.Registry.Order
import AppBuild.Proofs.Registry.Alias
import AppBuild.Proofs.Project.Stray
import AppBuild.Proofs.Bundle.Quoting
import AppBuild.Proofs.Unicode.Closure
import AppBuild.Proofs.Pattern.Caseless
import AppBuild.Proofs.Bundle.Scanner
import AppBuild.Proofs.Path.Way
import AppBuild.Proofs.Bundle.Routing
import AppBuild.Proofs.Path.Canonical
import AppBuild.Proofs.Path.RoundTrip
import AppBuild.Proofs.Path.Climb
import AppBuild.Proofs.Template.Emission
import AppBuild.Proofs.Request.Recognition
import AppBuild.Proofs.Request.RoundTrip
import AppBuild.Proofs.Component.Presence
import AppBuild.Proofs.Registry.Substring
import AppBuild.Proofs.Registry.Lookups
import AppBuild.Proofs.Registry.Extension
import AppBuild.Proofs.Project.Grammar
import AppBuild.Proofs.Project.Isolation
