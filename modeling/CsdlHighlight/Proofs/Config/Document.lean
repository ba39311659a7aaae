import CsdlHighlight.Config.Basic
import CsdlHighlight.Proofs.Text.Utf8
import CsdlHighlight.Proofs.Toml.Document

/-!
Contract: the document of a configuration is read as this configuration.

Owns:
- the entries of a document, with the texts of the paths;
- the reading of a written document.

Does not own: the expansion of paths, or the file of the document.
-/

namespace CsdlHighlight

/-- A path that has a text is written by it. -/
theorem Path.eq_ofText_of_text? {path : Path} {text : Text}
    (hasText : path.text? = some text) : path = Path.ofText text := by
  rw [Path.ofText, Utf8.encode_of_decode? hasText]

namespace Config

def entries (config : Config) (snippets : Text) (template : Option Text) :
    List (Text × Toml.Plain) :=
  ("snippets_path".toList, .text snippets) ::
    (template.toList.map fun text => ("template_path".toList, .text text)) ++
      [("escape_text".toList, .flag config.escaping),
        ("attribution_name".toList, .text config.attributionName),
        ("attribution_url".toList, .text config.attributionUrl)]

/-- A document has the lines of these entries. -/
theorem exists_entries_of_toToml? {config : Config} {document : Text}
    (written : config.toToml? = some document) :
    ∃ snippets template,
      config.snippetsPath = Path.ofText snippets ∧
      config.templatePath = template.map Path.ofText ∧
      document = (config.entries snippets template).flatMap Toml.plainLine := by
  obtain ⟨snippetsLine, snippetsWritten, rest⟩ :=
    Option.bind_eq_some_iff.mp written
  obtain ⟨templateLine, templateWritten, rfl⟩ := Option.map_eq_some_iff.mp rest
  obtain ⟨snippets, snippetsText, rfl⟩ :=
    Option.map_eq_some_iff.mp snippetsWritten
  refine ⟨snippets, ?_⟩
  have snippetsPath := Path.eq_ofText_of_text? snippetsText
  unfold templateLine? at templateWritten
  split at templateWritten
  · next path is =>
    obtain ⟨text, hasText, rfl⟩ := Option.map_eq_some_iff.mp templateWritten
    refine ⟨some text, snippetsPath, ?_, ?_⟩
    · rw [is, Path.eq_ofText_of_text? hasText]
      rfl
    · simp [entries, plainLines, line, Toml.plainLine, Toml.Plain.write]
  · next is =>
    cases templateWritten
    refine ⟨none, snippetsPath, is, ?_⟩
    simp [entries, plainLines, line, Toml.plainLine, Toml.Plain.write]

def keys (hasTemplate : Bool) : List Text :=
  "snippets_path".toList ::
    (if hasTemplate then ["template_path".toList] else []) ++
      ["escape_text".toList, "attribution_name".toList,
        "attribution_url".toList]

theorem map_fst_entries (config : Config) (snippets : Text)
    (template : Option Text) :
    (config.entries snippets template).map Prod.fst =
      keys template.isSome := by
  cases template <;> rfl

theorem keys_nodup (hasTemplate : Bool) : (keys hasTemplate).Nodup := by
  cases hasTemplate <;> decide

theorem isBareKey_of_mem_keys {hasTemplate : Bool} {key : Text}
    (member : key ∈ keys hasTemplate) : Toml.IsBareKey key := by
  have bare : (keys hasTemplate).all (fun known =>
      !known.isEmpty && known.all Toml.isBareChar) = true := by
    cases hasTemplate <;> decide
  have here := List.all_eq_true.mp bare key member
  obtain ⟨nonempty, all⟩ := Bool.and_eq_true_iff.mp here
  exact ⟨by simpa using nonempty, List.all_eq_true.mp all⟩

/-- The entries of a configuration are read back as that configuration. -/
theorem ofPairs?_entries {config : Config} {snippets : Text}
    {template : Option Text}
    (snippetsPath : config.snippetsPath = Path.ofText snippets)
    (templatePath : config.templatePath = template.map Path.ofText) :
    ofPairs? (Toml.plainPairs (config.entries snippets template)) =
      some config := by
  obtain ⟨_, _, escaping, name, url⟩ := config
  subst snippetsPath templatePath
  cases template <;> rfl

/-- A written document is read as the configuration that was written. -/
theorem ofToml_of_toToml? {config : Config} {document : Text}
    (written : config.toToml? = some document) :
    ofToml document = .ok config := by
  obtain ⟨snippets, template, snippetsPath, templatePath, rfl⟩ :=
    exists_entries_of_toToml? written
  have bare : ∀ entry ∈ config.entries snippets template,
      Toml.IsBareKey entry.1 := by
    intro entry member
    have key : entry.1 ∈ (config.entries snippets template).map Prod.fst :=
      List.mem_map_of_mem member
    rw [map_fst_entries] at key
    exact isBareKey_of_mem_keys key
  have distinct : ((config.entries snippets template).map Prod.fst).Nodup := by
    rw [map_fst_entries]
    exact keys_nodup template.isSome
  rw [ofToml, Toml.readDocument_plainLines bare distinct]
  simp only [Except.bind, ofPairs?_entries snippetsPath templatePath]
  rfl

end Config

end CsdlHighlight
