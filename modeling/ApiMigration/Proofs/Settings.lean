import ApiMigration.Proofs.Stub.Place
import ApiMigration.Proofs.Stub.ReadBack
import ApiMigration.Target.Corpus

/-!
Settings whose skeletons can be read back: the namespaces are dotted words, the extension is one
word, and the texts that go into skeletons stand on one line each.
-/

namespace ApiMigration

open Text

namespace Settings

structure WellFormed (settings : Settings) : Prop where
  rootNamespace : IsDotted settings.routing.rootNamespace.toList
  defaultNamespace : IsDotted settings.routing.defaultNamespace.toList
  rules : ∀ rule ∈ settings.routing.rules, IsDotted rule.destination.toList
  extension : '.' ∉ settings.target.extension.toList
  oneLined : settings.renderer.OneLined

theorem wellFormed_default : ({} : Settings).WellFormed where
  rootNamespace := by decide
  defaultNamespace := by decide
  rules := by decide +kernel
  extension := by decide
  oneLined :=
    ⟨by decide, by decide, by decide, by decide, by decide, by decide, by decide +kernel, by decide⟩

namespace WellFormed

variable {settings : Settings} {declaration : SourceDeclaration}

theorem dotted (wellFormed : settings.WellFormed) : settings.routing.Dotted :=
  ⟨wellFormed.rootNamespace, wellFormed.defaultNamespace, wellFormed.rules⟩

theorem slashFree (wellFormed : settings.WellFormed) : settings.scaffold.routing.SlashFree :=
  wellFormed.dotted.slashFree

theorem declarations_planned (wellFormed : settings.WellFormed)
    (extracted : Source.Extracted declaration) (root origin : Path) :
    Target.declarations origin (settings.scaffold.planned root declaration).contents =
      [⟨settings.routing.targetPackage declaration, declaration.kind.counterpart,
        declaration.name, origin⟩] := by
  have solid : (settings.routing.targetPackage declaration).toList ≠ [] := by
    simp [Routing.targetPackage]
  have named := wellFormed.dotted.isPackageChar_targetPackage extracted
  show Target.declarations origin (settings.renderer.render declaration _) = _
  rw [Stub.Renderer.render_eq_feedLines]
  apply Target.declarations_oneType extracted.isIdentifier solid named
  exact wellFormed.oneLined.oneType extracted.isIdentifier extracted.oneLined _

theorem accepts_names (wellFormed : settings.WellFormed)
    (extracted : Source.Extracted declaration) (unfiltered : settings.target.excludedPaths = []) :
    (Target.selection settings.target).accepts (settings.scaffold.names declaration) = true := by
  have ending : Path.extensionOf? (settings.scaffold.fileName declaration) =
      some settings.target.extension :=
    Stub.Scaffold.extensionOf?_fileName extracted wellFormed.extension
  simp [Selection.accepts, Target.selection, Stub.Scaffold.names, ending, unfiltered, Filter.isActive]

end WellFormed

end Settings

end ApiMigration
