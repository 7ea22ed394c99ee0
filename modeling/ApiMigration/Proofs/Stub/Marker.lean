import ApiMigration.Proofs.Stub.ReadBack
import ApiMigration.Proofs.Target.Placeholder
import ApiMigration.Settings.Basic

/-!
The skeleton of a class is found again. Its text holds the marker, so the class counts as planned
whatever it is matched with; its placeholder line is found unless the marker is broken over lines.
-/

namespace ApiMigration

open Text

theorem Text.infix_feedLines {line : String} {lines : List String} (listed : line ∈ lines) :
    line.toList <:+: feedLines lines := by
  have whole : line.toList ++ ['\n'] ∈ lines.map fun line => line.toList ++ ['\n'] :=
    List.mem_map_of_mem listed
  rw [feedLines, List.flatMap_def]
  exact (List.prefix_append _ _).isInfix.trans (List.infix_of_mem_flatten whole)

namespace Stub.Renderer

variable (renderer : Renderer) {declaration : SourceDeclaration}

theorem marker_infix_render (kind : declaration.kind = .classType)
    (ordinary : endsWith declaration.name renderer.style.exceptionSuffix = false)
    (package : String) :
    renderer.marker.toList ++ ['"', ')'] <:+: (renderer.render declaration package).toList := by
  have listed : "        throw " ++ renderer.style.notImplementedException ++ "(\"" ++
        declaration.name ++ " " ++ renderer.marker ++ "\")" ∈
      ["package " ++ package, ""] ++ renderer.bodyLines declaration package := by
    simp [bodyLines, kind, ordinary, classLines]
  rw [render_eq_feedLines, String.toList_ofList]
  refine List.IsInfix.trans ?_ (infix_feedLines listed)
  have closing : "\")".toList = ['"', ')'] := by decide
  rw [String.toList_append, String.toList_append, closing, List.append_assoc]
  exact (List.suffix_append _ _).isInfix

theorem holds_render (kind : declaration.kind = .classType)
    (ordinary : endsWith declaration.name renderer.style.exceptionSuffix = false)
    (package : String) : holds (renderer.render declaration package) renderer.marker = true := by
  rw [holds, contains_iff_isInfix]
  exact (List.prefix_append _ _).isInfix.trans (marker_infix_render renderer kind ordinary package)

theorem placeholders_render_ne_nil_iff (kind : declaration.kind = .classType)
    (ordinary : endsWith declaration.name renderer.style.exceptionSuffix = false)
    (package : String) (path : Path) :
    Target.placeholders path (renderer.render declaration package) renderer.marker ≠ [] ↔
      '\n' ∉ renderer.marker.toList := by
  constructor
  · intro found feed
    exact found (Target.placeholders_eq_nil_of_feed feed)
  · intro single
    have closed : '\n' ∉ renderer.marker.toList ++ ['"', ')'] := by
      rw [List.mem_append, not_or]
      exact ⟨single, by decide⟩
    have ends : (renderer.marker.toList ++ ['"', ')']).getLast? ≠ some '\r' := by
      simp
    have inside := contains_iff_isInfix.mpr (marker_infix_render renderer kind ordinary package)
    obtain ⟨line, shown, marked⟩ :=
      (contains_iff_exists_shownLine (by simp) closed ends).mp inside
    rw [Target.placeholders_ne_nil_iff]
    refine ⟨line, shown, ?_⟩
    rw [contains_iff_isInfix] at marked ⊢
    exact (List.prefix_append _ _).isInfix.trans marked

end Stub.Renderer

namespace Settings

/-- Every class skeleton counts as planned, and its placeholder line is found exactly when the
marker has no line feed. -/
theorem class_skeleton_found_iff (settings : Settings) {declaration : SourceDeclaration}
    (kind : declaration.kind = .classType)
    (ordinary : endsWith declaration.name settings.style.exceptionSuffix = false)
    (supported : settings.classification.isUnsupported declaration = false) (package : String) :
    (∀ best, settings.classification.status declaration best
        (some (settings.renderer.render declaration package)) = .planned) ∧
      ∀ path, Target.placeholders path (settings.renderer.render declaration package)
          settings.classification.placeholderMarker ≠ [] ↔
        '\n' ∉ settings.classification.placeholderMarker.toList := by
  refine ⟨?_, settings.renderer.placeholders_render_ne_nil_iff kind ordinary package⟩
  intro best
  have marked : holds (settings.renderer.render declaration package)
      settings.classification.placeholderMarker = true :=
    settings.renderer.holds_render kind ordinary package
  unfold Match.Classification.status
  rw [supported, if_neg Bool.false_ne_true]
  cases best with
  | none => rfl
  | some target => simp only [marked, if_true]

/-- A marker that ends with a carriage return is found all the same. -/
theorem class_skeleton_found_before_quote :
    let settings : Settings :=
      { classification := { placeholderMarker := " to do\r" },
        style := { notImplementedException := "a\n  Missing" } }
    let declaration : SourceDeclaration :=
      { package := "p", kind := .classType, name := "BitField", group := "", origin := ⟨"B.java"⟩ }
    let text := settings.renderer.render declaration "commons_lang4cj.exception"
    settings.fault? = none ∧
      endsWith declaration.name settings.style.exceptionSuffix = false ∧
      settings.classification.isUnsupported declaration = false ∧
      settings.classification.status declaration none (some text) = .planned ∧
      Target.placeholders ⟨"b.cj"⟩ text settings.classification.placeholderMarker ≠ [] := by
  intro settings declaration text
  have ordinary : endsWith declaration.name settings.style.exceptionSuffix = false := by decide
  have supported : settings.classification.isUnsupported declaration = false := by decide
  have accepted : settings.fault? = none := by decide +kernel
  obtain ⟨planned, found⟩ :=
    class_skeleton_found_iff settings rfl ordinary supported "commons_lang4cj.exception"
  exact ⟨accepted, ordinary, supported, planned none, (found ⟨"b.cj"⟩).mpr (by decide)⟩

/-- A marker over two lines is accepted, and no line of the skeleton has it. -/
theorem class_skeleton_missed_over_lines :
    let settings : Settings := { classification := { placeholderMarker := "is not\nimplemented" } }
    let declaration : SourceDeclaration :=
      { package := "p", kind := .classType, name := "BitField", group := "", origin := ⟨"B.java"⟩ }
    let text := settings.renderer.render declaration "commons_lang4cj.utils"
    settings.fault? = none ∧
      endsWith declaration.name settings.style.exceptionSuffix = false ∧
      settings.classification.isUnsupported declaration = false ∧
      settings.classification.status declaration none (some text) = .planned ∧
      Target.placeholders ⟨"b.cj"⟩ text settings.classification.placeholderMarker = [] := by
  intro settings declaration text
  have accepted : settings.fault? = none := by decide +kernel
  have feed : '\n' ∈ settings.classification.placeholderMarker.toList := by decide
  exact ⟨accepted, by decide, by decide, by rfl, Target.placeholders_eq_nil_of_feed feed⟩

end Settings

end ApiMigration
