import DiagramDoc.Proofs.Config.Overrides

/-! # The nearest configuration

Without a path the configuration is searched from the working directory outwards. The search looks
into one directory after the other and ends at the first that has an entry of the usual name, or
behind the root. Every directory that it has left lacks the name, so what it finds is the nearest,
and a load reads that entry and no other.
-/

namespace DiagramDoc.Config

/-! ### The search -/

/-- The search that starts in a directory ends with `found` after it has looked `rounds` times. -/
inductive Search (files : FileTree) : Location → Nat → Option Location → Prop
  | found {here : Location} (hhas : files.has (fileName :: here) = true) :
      Search files here 1 (some (fileName :: here))
  | root (hnot : files.has [fileName] = false) : Search files [] 1 none
  | outward {name : String} {outer : Location} {rounds : Nat} {found : Option Location}
      (hnot : files.has (fileName :: name :: outer) = false)
      (hmore : Search files outer rounds found) : Search files (name :: outer) (rounds + 1) found

variable {files : FileTree} {start level location : Location}

theorem discover?_nil (files : FileTree) :
    discover? files [] = if files.has [fileName] then some [fileName] else none := by
  rw [discover?, candidates, Location.around, List.map_singleton, List.find?_singleton]

theorem discover?_cons (files : FileTree) (name : String) (outer : Location) :
    discover? files (name :: outer) =
      if files.has (fileName :: name :: outer) then some (fileName :: name :: outer)
      else discover? files outer := by
  rw [discover?, candidates, Location.around, List.map_cons, List.find?_cons, ← candidates,
    ← discover?]
  cases files.has (fileName :: name :: outer) <;> rfl

theorem Search.unique {rounds rounds' : Nat} {found found' : Option Location}
    (h : Search files start rounds found) (h' : Search files start rounds' found') :
    rounds' = rounds ∧ found' = found := by
  induction h generalizing rounds' with
  | found hhas =>
    cases h' with
    | found => exact ⟨rfl, rfl⟩
    | root hnot => rw [hnot] at hhas; cases hhas
    | outward hnot => rw [hnot] at hhas; cases hhas
  | root hnot =>
    cases h' with
    | found hhas => rw [hnot] at hhas; cases hhas
    | root => exact ⟨rfl, rfl⟩
  | outward hnot _ ih =>
    cases h' with
    | found hhas => rw [hnot] at hhas; cases hhas
    | outward _ hmore =>
      obtain ⟨rfl, rfl⟩ := ih hmore
      exact ⟨rfl, rfl⟩

/-- The way to the root gets shorter with each round. -/
theorem exists_search (files : FileTree) (start : Location) :
    ∃ rounds ≤ start.length + 1, Search files start rounds (discover? files start) := by
  induction start with
  | nil =>
    refine ⟨1, Nat.le_refl _, ?_⟩
    rw [discover?_nil]
    split
    · next hhas => exact .found hhas
    · next hnot => exact .root (Bool.eq_false_iff.2 hnot)
  | cons name outer ih =>
    rw [discover?_cons]
    split
    · next hhas => exact ⟨1, Nat.le_add_left _ _, .found hhas⟩
    · next hnot =>
      obtain ⟨rounds, hrounds, hsearch⟩ := ih
      exact ⟨rounds + 1, Nat.succ_le_succ hrounds,
        .outward (Bool.eq_false_iff.2 hnot) hsearch⟩

/-! ### The nearest entry -/

/-- Among the directories around `start`, and `start` itself, `level` is the innermost that has a
file or a directory of the usual name. -/
structure IsNearest (files : FileTree) (start level : Location) : Prop where
  around : level <:+ start
  entry : ∃ node, files.node? (fileName :: level) = some node
  nearest : ∀ inner, inner <:+ start → level.length < inner.length →
    files.node? (fileName :: inner) = none

theorem node?_eq_none_iff : files.node? location = none ↔ files.has location = false := by
  rw [FileTree.has, Option.isSome_eq_false_iff, Option.isNone_iff_eq_none]

theorem exists_node?_iff :
    (∃ node, files.node? location = some node) ↔ files.has location = true := by
  rw [FileTree.has, Option.isSome_iff_exists]

theorem isNearest_self (hhas : files.has (fileName :: start) = true) :
    IsNearest files start start := by
  refine ⟨List.suffix_rfl, exists_node?_iff.2 hhas, fun inner hinner hlonger => ?_⟩
  exact absurd hinner.length_le (Nat.not_le.2 hlonger)

theorem IsNearest.outward {name : String} (hnot : files.has (fileName :: name :: start) = false)
    (h : IsNearest files start level) : IsNearest files (name :: start) level := by
  refine ⟨h.around.trans (List.suffix_cons name start), h.entry, fun inner hinner hlonger => ?_⟩
  obtain rfl | hinner := List.suffix_cons_iff.1 hinner
  · exact node?_eq_none_iff.2 hnot
  · exact h.nearest inner hinner hlonger

theorem IsNearest.unique {level' : Location} (h : IsNearest files start level)
    (h' : IsNearest files start level') : level' = level := by
  obtain ⟨node, hnode⟩ := h.entry
  obtain ⟨node', hnode'⟩ := h'.entry
  rcases Nat.lt_trichotomy level.length level'.length with hlonger | hsame | hshorter
  · rw [h.nearest level' h'.around hlonger] at hnode'
    cases hnode'
  · have hsuffix : level' <:+ level :=
      List.suffix_of_suffix_length_le h'.around h.around (Nat.le_of_eq hsame.symm)
    exact hsuffix.eq_of_length hsame.symm
  · rw [h'.nearest level h.around hshorter] at hnode
    cases hnode

/-- What the search finds is the nearest entry, and it finds nothing only if there is none: the
directories that it has left lack the name. -/
theorem Search.isNearest {rounds : Nat} {found : Option Location}
    (h : Search files start rounds found) :
    (∃ level, found = some (fileName :: level) ∧ IsNearest files start level) ∨
      found = none ∧ ∀ level, level <:+ start → files.node? (fileName :: level) = none := by
  induction h with
  | found hhas => exact .inl ⟨_, rfl, isNearest_self hhas⟩
  | root hnot =>
    refine .inr ⟨rfl, fun level hlevel => ?_⟩
    rw [List.suffix_nil.1 hlevel]
    exact node?_eq_none_iff.2 hnot
  | outward hnot _ ih =>
    obtain ⟨level, hfound, hnearest⟩ | ⟨hfound, hnone⟩ := ih
    · exact .inl ⟨level, hfound, hnearest.outward hnot⟩
    · refine .inr ⟨hfound, fun level hlevel => ?_⟩
      obtain rfl | hlevel := List.suffix_cons_iff.1 hlevel
      · exact node?_eq_none_iff.2 hnot
      · exact hnone level hlevel

theorem discover?_cases (files : FileTree) (start : Location) :
    (∃ level, discover? files start = some (fileName :: level) ∧ IsNearest files start level) ∨
      discover? files start = none ∧
        ∀ level, level <:+ start → files.node? (fileName :: level) = none := by
  obtain ⟨rounds, -, hsearch⟩ := exists_search files start
  exact hsearch.isNearest

theorem discover?_eq_some_iff : discover? files start = some location ↔
    ∃ level, location = fileName :: level ∧ IsNearest files start level := by
  obtain ⟨level, hfound, hnearest⟩ | ⟨hfound, hnone⟩ := discover?_cases files start
  · rw [hfound, Option.some.injEq]
    constructor
    · rintro rfl
      exact ⟨level, rfl, hnearest⟩
    · rintro ⟨level', rfl, hnearest'⟩
      rw [hnearest.unique hnearest']
  · rw [hfound]
    refine iff_of_false (Option.some_ne_none location).symm ?_
    rintro ⟨level, rfl, hnearest⟩
    obtain ⟨node, hnode⟩ := hnearest.entry
    rw [hnone level hnearest.around] at hnode
    cases hnode

theorem discover?_eq_none_iff : discover? files start = none ↔
    ∀ level, level <:+ start → files.node? (fileName :: level) = none := by
  obtain ⟨level, hfound, hnearest⟩ | ⟨hfound, hnone⟩ := discover?_cases files start
  · rw [hfound]
    refine iff_of_false (Option.some_ne_none _) fun hnone => ?_
    obtain ⟨node, hnode⟩ := hnearest.entry
    rw [hnone level hnearest.around] at hnode
    cases hnode
  · exact iff_of_true hfound hnone

/-! ### Loading without a path -/

/-- The configuration in the file at a location. -/
def ofLocation (w : Workspace) (location : Location) : Except ConfigError Config :=
  match w.files.readAt location with
  | .error e => .error (.unreadable e)
  | .ok text => ofText w.environment location.path text

/-- A configuration with the settings of the command line, if there are any. -/
def settled (overrides : Option Overrides) (c : Config) : Except ConfigError Config :=
  match overrides with
  | none => .ok c
  | some o => (c.override o).checked

variable {w : Workspace} {overrides : Option Overrides} {c d : Config}

theorem load_eq_bind (w : Workspace) (named : Option String) (overrides : Option Overrides) :
    load w named overrides = (ofFiles w named).bind (settled overrides) := by
  unfold load
  cases ofFiles w named with
  | error e => rfl
  | ok c => cases overrides <;> rfl

theorem ofFiles_of_found (h : discover? w.files w.directory = some location) :
    ofFiles w none = ofLocation w location := by
  simp only [ofFiles, findText, h, ofLocation]
  cases w.files.readAt location <;> rfl

theorem ofFiles_of_none (h : discover? w.files w.directory = none) :
    ofFiles w none = .ok standard := by
  simp only [ofFiles, findText, h]

theorem file_of_ofText {environment : Environment} {file text : String}
    (h : ofText environment file text = .ok c) : c.file = some file := by
  rw [ofText] at h
  split at h
  · cases h
  · split at h
    · cases h
    · obtain ⟨-, rfl⟩ := checked_eq_ok_iff.1 h
      rfl

theorem file_of_ofLocation (h : ofLocation w location = .ok c) : c.file = some location.path := by
  rw [ofLocation] at h
  split at h
  · cases h
  · exact file_of_ofText h

theorem file_of_settled (h : settled overrides c = .ok d) : d.file = c.file := by
  cases overrides with
  | none =>
    cases h
    rfl
  | some o =>
    obtain ⟨-, rfl⟩ := checked_eq_ok_iff.1 h
    rfl

/-- What is loaded without a path names the file that was found, and none if none was found. -/
theorem file_of_load (h : load w none overrides = .ok c) :
    c.file = (discover? w.files w.directory).map Location.path := by
  rw [load_eq_bind] at h
  cases hbase : ofFiles w none with
  | error e =>
    rw [hbase] at h
    cases h
  | ok base =>
    rw [hbase] at h
    rw [file_of_settled h]
    cases hfound : discover? w.files w.directory with
    | none =>
      rw [ofFiles_of_none hfound] at hbase
      cases hbase
      rfl
    | some location =>
      rw [ofFiles_of_found hfound] at hbase
      exact file_of_ofLocation hbase

/-- The search ends, at the latest behind the root, and has one result: the entry of the usual name
in the innermost directory that has one, and none exactly if no directory around has one. -/
structure FindsNearest (files : FileTree) (start : Location) : Prop where
  ends : ∃ rounds ≤ start.length + 1, ∀ rounds' found, Search files start rounds' found ↔
    rounds' = rounds ∧ found = discover? files start
  some_iff : ∀ location, discover? files start = some location ↔
    ∃ level, location = fileName :: level ∧ IsNearest files start level
  none_iff : discover? files start = none ↔
    ∀ level, level <:+ start → files.node? (fileName :: level) = none

/-- An entry that is found is read, whatever else the tree holds, and the standard configuration is
used only if none is found. What is loaded names the entry that was found. -/
structure LoadsFound (w : Workspace) (overrides : Option Overrides) : Prop where
  found : ∀ location, discover? w.files w.directory = some location →
    load w none overrides = (ofLocation w location).bind (settled overrides)
  only : ∀ location, discover? w.files w.directory = some location →
    ∀ files : FileTree, discover? files w.directory = some location →
      files.node? location = w.files.node? location →
        load { w with files := files } none overrides = load w none overrides
  standard : discover? w.files w.directory = none →
    load w none overrides = settled overrides standard
  file : ∀ c, load w none overrides = .ok c →
    c.file = (discover? w.files w.directory).map Location.path

/-- **Without a path the nearest configuration is loaded.** -/
theorem loads_nearest :
    (∀ (files : FileTree) (start : Location), FindsNearest files start) ∧
      ∀ (w : Workspace) (overrides : Option Overrides), LoadsFound w overrides := by
  refine ⟨fun files start => ?_, fun w overrides => ?_⟩
  · constructor
    case ends =>
      obtain ⟨rounds, hrounds, hsearch⟩ := exists_search files start
      refine ⟨rounds, hrounds, fun rounds' found => ⟨hsearch.unique, ?_⟩⟩
      rintro ⟨rfl, rfl⟩
      exact hsearch
    case some_iff => exact fun location => discover?_eq_some_iff
    case none_iff => exact discover?_eq_none_iff
  · have hfound (w : Workspace) (location : Location)
        (h : discover? w.files w.directory = some location) :
        load w none overrides = (ofLocation w location).bind (settled overrides) := by
      rw [load_eq_bind, ofFiles_of_found h]
    constructor
    case found => exact hfound w
    case only =>
      intro location h files h' hnode
      have hread : ofLocation { w with files := files } location = ofLocation w location := by
        rw [ofLocation, ofLocation, FileTree.readAt, FileTree.readAt, hnode]
      rw [hfound w location h, hfound { w with files := files } location h', hread]
    case standard =>
      intro h
      rw [load_eq_bind, ofFiles_of_none h]
      rfl
    case file => exact fun c => file_of_load

/-- A configuration in the root and one in a directory that the working directory lies in. -/
def nestedConfigurations : Workspace where
  files := ⟨[(["mdv.toml"], .file (Text.bytes "[mermaid]\nrepair = true\n")),
    (["mdv.toml", "docs"], .file (Text.bytes "[mermaid]\nrepair = false\n")),
    (["index.md", "guide", "docs"], .file [])]⟩
  directory := ["guide", "docs"]
  environment := []

/-- The same inner configuration, and a directory in the place of the outer one. -/
def otherOuter : FileTree :=
  ⟨[(["mdv.toml", "docs"], .file (Text.bytes "[mermaid]\nrepair = false\n")),
    (["a", "mdv.toml"], .directory)]⟩

theorem loads_nearest_nestedConfigurations :
    IsNearest nestedConfigurations.files ["guide", "docs"] ["docs"] ∧
      load nestedConfigurations none none =
        .ok { standard with repair := false, file := some "/docs/mdv.toml" } ∧
      (some "/docs/mdv.toml" : Option String) =
        (discover? nestedConfigurations.files nestedConfigurations.directory).map Location.path ∧
      load { nestedConfigurations with files := otherOuter } none none =
        load nestedConfigurations none none ∧
      discover? otherOuter ["guide"] = some ["mdv.toml"] ∧
      load ⟨otherOuter, ["guide"], []⟩ none none = .error (.unreadable .isDirectory) ∧
      load ⟨⟨[]⟩, ["docs"], []⟩ none none = .ok standard := by
  obtain ⟨hsearch, hload⟩ := loads_nearest
  have hfound : discover? nestedConfigurations.files nestedConfigurations.directory =
      some ["mdv.toml", "docs"] := by decide +kernel
  have hother : discover? otherOuter nestedConfigurations.directory =
      some ["mdv.toml", "docs"] := by decide +kernel
  have hdirectory : discover? otherOuter ["guide"] = some ["mdv.toml"] := by decide +kernel
  have hnone : discover? ⟨[]⟩ ["docs"] = none := by decide +kernel
  have hok : load nestedConfigurations none none =
      .ok { standard with repair := false, file := some "/docs/mdv.toml" } := by decide +kernel
  obtain ⟨level, hlevel, hnearest⟩ := ((hsearch _ _).some_iff _).1 hfound
  obtain rfl : ["docs"] = level := List.tail_eq_of_cons_eq hlevel
  refine ⟨hnearest, hok, (hload _ none).file _ hok, ?_, hdirectory, ?_, ?_⟩
  · exact (hload nestedConfigurations none).only _ hfound otherOuter hother (by decide +kernel)
  · rw [(hload ⟨otherOuter, ["guide"], []⟩ none).found _ hdirectory]
    decide +kernel
  · rw [(hload ⟨⟨[]⟩, ["docs"], []⟩ none).standard hnone]
    rfl

end DiagramDoc.Config
