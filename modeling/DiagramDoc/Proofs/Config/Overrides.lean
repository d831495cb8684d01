import DiagramDoc.Config.Loading
import Mathlib.Data.List.Basic

/-! # Valid configurations and their overriding

Whether a configuration comes from a file that is named, from one that is found or from none, it is
checked once more when settings of the command line replace some of its own. So what is loaded is
always valid, and with settings of the command line it is what is loaded without them, with each of
these settings in its place and nothing else changed.
-/

namespace DiagramDoc

open Unicode

/-! ### Validity -/

/-- The server is an address on the web, and each extra reserved word is one word. -/
structure Config.IsValid (c : Config) : Prop where
  server : "http://".toList <+: c.server.toList ∨ "https://".toList <+: c.server.toList
  words : ∀ word ∈ c.extraReserved,
    word ≠ "" ∧ ∀ ch ∈ word.toList, isAlphanumeric ch = true ∨ ch = '_'

namespace Config

theorem serverFault?_eq_none_iff {server : String} : serverFault? server = none ↔
    "http://".toList <+: server.toList ∨ "https://".toList <+: server.toList := by
  have hweb : isWebAddress server = true ↔
      "http://".toList <+: server.toList ∨ "https://".toList <+: server.toList := by
    rw [isWebAddress, Bool.or_eq_true, List.isPrefixOf_iff_prefix, List.isPrefixOf_iff_prefix]
  rw [serverFault?, ← hweb]
  by_cases hempty : server = ""
  · subst hempty
    decide
  · rw [if_neg hempty]
    split <;> simp_all

theorem wordFault?_eq_none_iff {word : String} : wordFault? word = none ↔
    word ≠ "" ∧ ∀ ch ∈ word.toList, isAlphanumeric ch = true ∨ ch = '_' := by
  have hword : isIdentifier word = true ↔
      ∀ ch ∈ word.toList, isAlphanumeric ch = true ∨ ch = '_' := by
    simp [isIdentifier]
  rw [wordFault?, ← hword]
  by_cases hempty : word = ""
  · simp [hempty]
  · rw [if_neg hempty]
    split <;> simp_all

/-- **A configuration without a fault is a valid one.** -/
theorem fault?_eq_none_iff {c : Config} : c.fault? = none ↔ c.IsValid := by
  rw [fault?, Option.or_eq_none_iff, List.findSome?_eq_none_iff, serverFault?_eq_none_iff]
  simp only [wordFault?_eq_none_iff]
  exact ⟨fun ⟨hserver, hwords⟩ => ⟨hserver, hwords⟩, fun h => ⟨h.server, h.words⟩⟩

theorem isValid_of_checked {c d : Config} (h : c.checked = .ok d) : d.IsValid := by
  obtain ⟨hfault, rfl⟩ := checked_eq_ok_iff.1 h
  exact fault?_eq_none_iff.1 hfault

theorem isValid_standard : standard.IsValid := fault?_eq_none_iff.1 (by decide +kernel)

/-! ### Loading -/

theorem isValid_of_ofText {environment : Environment} {file text : String} {c : Config}
    (h : ofText environment file text = .ok c) : c.IsValid := by
  rw [ofText] at h
  split at h
  · cases h
  · split at h
    · cases h
    · exact isValid_of_checked h

theorem isValid_of_ofFiles {w : Workspace} {named : Option String} {c : Config}
    (h : ofFiles w named = .ok c) : c.IsValid := by
  rw [ofFiles] at h
  split at h
  · cases h
  · cases h
    exact isValid_standard
  · exact isValid_of_ofText h

theorem load_none (w : Workspace) (named : Option String) : load w named none = ofFiles w named := by
  unfold load
  cases ofFiles w named <;> rfl

variable {w : Workspace} {named : Option String} {e : ConfigError} {base : Config}

theorem load_some_of_error (h : load w named none = .error e) (o : Overrides) :
    load w named (some o) = .error e := by
  rw [load_none] at h
  unfold load
  rw [h]

theorem load_some_of_ok (h : load w named none = .ok base) (o : Overrides) :
    load w named (some o) = (base.override o).checked := by
  rw [load_none] at h
  unfold load
  rw [h]

/-- Of the settings of a command line only the server can make a configuration invalid. -/
theorem checked_override {o o' : Overrides} (hserver : o.server = o'.server) (base : Config) :
    (base.override o).checked = .ok (base.override o) ∧
        (base.override o').checked = .ok (base.override o') ∨
      ∃ fault, (base.override o).checked = .error (.invalid fault) ∧
        (base.override o').checked = .error (.invalid fault) := by
  have hfault : (base.override o').fault? = (base.override o).fault? := by
    rw [fault?, fault?, override, override, hserver]
  rw [checked, checked, hfault]
  cases (base.override o).fault? with
  | none => exact .inl ⟨rfl, rfl⟩
  | some fault => exact .inr ⟨fault, rfl, rfl⟩

/-- **Settings with the same server are loaded in the same way**: from the same base, or with the
same error. -/
theorem load_of_same_server (w : Workspace) (named : Option String) {o o' : Overrides}
    (hserver : o.server = o'.server) :
    (∃ base, load w named none = .ok base ∧ load w named (some o) = .ok (base.override o) ∧
        load w named (some o') = .ok (base.override o')) ∨
      ∃ e, load w named (some o) = .error e ∧ load w named (some o') = .error e := by
  cases h : load w named none with
  | error e => exact .inr ⟨e, load_some_of_error h o, load_some_of_error h o'⟩
  | ok base =>
    rw [load_some_of_ok h, load_some_of_ok h]
    obtain ⟨hok, hok'⟩ | ⟨fault, herror, herror'⟩ := checked_override hserver base
    · exact .inl ⟨base, rfl, hok, hok'⟩
    · exact .inr ⟨_, herror, herror'⟩

theorem isValid_of_load {overrides : Option Overrides} {c : Config}
    (h : load w named overrides = .ok c) : c.IsValid := by
  cases overrides with
  | none => exact isValid_of_ofFiles (load_none w named ▸ h)
  | some o =>
    cases hbase : load w named none with
    | error e =>
      rw [load_some_of_error hbase] at h
      cases h
    | ok base =>
      rw [load_some_of_ok hbase] at h
      exact isValid_of_checked h

end Config

/-! ### Overriding -/

/-- The settings turn a configuration into another: each setting that is given replaces its own, and
everything else stays. -/
structure Overrides.Turns (o : Overrides) (base merged : Config) : Prop where
  server : merged.server = o.server.getD base.server
  format : merged.format = o.format.getD base.format
  encoder : merged.encoder = o.encoder.getD base.encoder
  repair : merged.repair = o.repair.getD base.repair
  breaks : merged.markdown.breaks = o.breaks.getD base.markdown.breaks
  gfm : merged.markdown.gfm = base.markdown.gfm
  extractTitle : merged.markdown.extractTitle = base.markdown.extractTitle
  extraReserved : merged.extraReserved = base.extraReserved
  file : merged.file = base.file

theorem Overrides.turns_override (o : Overrides) (base : Config) :
    o.Turns base (base.override o) := by
  constructor <;> rfl

namespace Config

/-- **What is loaded is valid, and settings of the command line replace single settings.** A load
that fails without them fails with them in the same way. Otherwise it gives the merged configuration
if that is valid, and the fault of the merged configuration if it is not. Settings of which none is
given change nothing. -/
theorem load_valid_and_overridden :
    (∀ (w : Workspace) (named : Option String) (overrides : Option Overrides) (c : Config),
      load w named overrides = .ok c → c.fault? = none ∧ c.IsValid) ∧
    ∀ (w : Workspace) (named : Option String),
      (∀ (o : Overrides) (e : ConfigError), load w named none = .error e →
        load w named (some o) = .error e) ∧
      (∀ (o : Overrides) (base : Config), load w named none = .ok base →
        ∃ merged, o.Turns base merged ∧
          (merged.IsValid ∧ load w named (some o) = .ok merged ∨
            ∃ fault, merged.fault? = some fault ∧ ¬ merged.IsValid ∧
              load w named (some o) = .error (.invalid fault))) ∧
      load w named (some .none) = load w named none := by
  refine ⟨fun w named overrides c h => ?_, fun w named => ⟨fun o e h => load_some_of_error h o,
    fun o base h => ?_, ?_⟩⟩
  · have hvalid := isValid_of_load h
    exact ⟨fault?_eq_none_iff.2 hvalid, hvalid⟩
  · refine ⟨base.override o, o.turns_override base, ?_⟩
    rw [load_some_of_ok h, checked]
    cases hfault : (base.override o).fault? with
    | none => exact Or.inl ⟨fault?_eq_none_iff.1 hfault, rfl⟩
    | some fault =>
      refine Or.inr ⟨fault, rfl, fun hvalid => ?_, rfl⟩
      rw [fault?_eq_none_iff.2 hvalid] at hfault
      cases hfault
  · cases h : load w named none with
    | error e => exact load_some_of_error h .none
    | ok base =>
      rw [load_some_of_ok h, override_none]
      exact checked_eq_ok_iff.2 ⟨fault?_eq_none_iff.2 (isValid_of_load h), rfl⟩

/-- A configuration in the root, seen from a directory below. -/
def nestedWorkspace : Workspace :=
  ⟨⟨[(["mdv.toml"], .file (Text.bytes "[plantuml]\nserver_url = \"http://a\"\n"))]⟩, ["docs"], []⟩

theorem load_valid_and_overridden_nestedWorkspace :
    ∃ base merged, load nestedWorkspace none none = .ok base ∧ base.IsValid ∧
      Overrides.Turns ⟨some "ftp://b", none, none, none, some false⟩ base merged ∧
      merged.fault? = some .serverScheme ∧
      load nestedWorkspace none (some ⟨some "ftp://b", none, none, none, some false⟩) =
        .error (.invalid .serverScheme) ∧
      load nestedWorkspace (some "x.toml") none = .error (.notFound "x.toml") ∧
      load nestedWorkspace (some "x.toml") (some .none) = .error (.notFound "x.toml") := by
  have hbase : load nestedWorkspace none none =
      .ok { standard with server := "http://a", file := some "/mdv.toml" } := by
    have hsome : (load nestedWorkspace none none).toOption =
        some { standard with server := "http://a", file := some "/mdv.toml" } := by
      decide +kernel
    generalize load nestedWorkspace none none = loaded at hsome
    cases loaded with
    | error e => cases hsome
    | ok c => rw [Option.some.inj hsome]
  have hmissing : load nestedWorkspace (some "x.toml") none = .error (.notFound "x.toml") := by
    have hpath : nestedWorkspace.files.hasPath nestedWorkspace.directory "x.toml" = false := by
      decide +kernel
    rw [load_none, ofFiles, findText, hpath]
    rfl
  obtain ⟨-, hok, -⟩ := load_valid_and_overridden.2 nestedWorkspace none
  obtain ⟨merged, hturns, hmerged⟩ := hok ⟨some "ftp://b", none, none, none, some false⟩ _ hbase
  have hfault : merged.fault? = some .serverScheme := by
    rw [fault?, hturns.server]
    rfl
  refine ⟨_, merged, hbase, (load_valid_and_overridden.1 _ _ _ _ hbase).2, hturns, hfault, ?_,
    hmissing, (load_valid_and_overridden.2 nestedWorkspace (some "x.toml")).1 .none _ hmissing⟩
  rcases hmerged with ⟨hvalid, -⟩ | ⟨fault, hfault', -, hload⟩
  · rw [fault?_eq_none_iff.2 hvalid] at hfault
    cases hfault
  · rw [hfault] at hfault'
    rw [hload, ← Option.some.inj hfault']

end Config

end DiagramDoc
