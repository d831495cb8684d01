import DiagramDoc.Proofs.Cli.Results
import DiagramDoc.Proofs.Config.Overrides
import DiagramDoc.Proofs.Diagram.Placeholders

/-! # Commands that agree with a document

A diagram may be drawn in a document, or its source may be encoded or repaired by itself. Each
command loads a configuration of its own, from its own options. With the same options these differ
in nothing that the diagram depends on, so what the command prints is what stands in the document.
-/

namespace DiagramDoc

open PlantUml

/-! ### Places in a document -/

/-- In the document that is written of `markdown`, the placeholder stands in the place of the code
block at `index`, between the texts that are around the code blocks if none is replaced. -/
def Config.Places (config : Config) (markdown : String) (index : Nat)
    (placeholder : Placeholder) : Prop :=
  let blocks := codeBlocks (Markdown.events config.markdown.gfm markdown)
  ∃ (layout : Layout) (answers : List (Option String)),
    layout.behind.length = blocks.length ∧
    (render config.markdown none () markdown).html =
      layout.fill (blocks.map fun block => block.code.html) ∧
    (renderDiagrams config.markdown (config.processor 1) markdown).html =
      layout.fill (List.zipWith CodeBlock.shown blocks answers) ∧
    answers[index]? = some (some placeholder.html)

namespace Config

variable {config : Config} {markdown : String} {fence : Fence}

theorem places_placeholder {language : Language} {placeholder : Placeholder}
    (hfence : fence ∈ fences (Markdown.events config.markdown.gfm markdown))
    (hlanguage : Language.ofFence? fence.language = some language)
    (hplaceholder : ((config.processor 1).placeholder
      ⟨language, fence.source, Placeholder.idOf language 1 fence.index⟩ fence.attrs
      fence.index).1 = placeholder) :
    config.Places markdown fence.index placeholder := by
  obtain ⟨layout, title, toc, hlength, hrender⟩ :=
    exists_layout_renderEvents config.markdown.breaks config.markdown.extractTitle
      (Markdown.events config.markdown.gfm markdown)
  refine ⟨layout, _, hlength, ?_, congrArg Rendering.html
    (hrender _ (some (config.processor 1).handler) []), ?_⟩
  · have hplain := congrArg Rendering.html (hrender _ none ())
    rw [offerAll_none, zipWith_shown_none] at hplain
    exact hplain
  · have hplace := (config.processor 1).getElem?_offerAll [] 0 hfence
    rw [Nat.sub_zero, Processor.answer?, hlanguage] at hplace
    rw [← hplaceholder]
    exact hplace

theorem places_plantUml {encoder : Encoder}
    (hfence : fence ∈ fences (Markdown.events config.markdown.gfm markdown))
    (hlanguage : Language.ofFence? fence.language = some .plantUml)
    (hencoder : (config.processor 1).encoder = some encoder) :
    config.Places markdown fence.index
      (.plantUml (Placeholder.idOf .plantUml 1 fence.index) fence.source
        (imageUrl config.server ((config.processor 1).chooseFormat fence.attrs fence.index).1
          (encodeSource encoder fence.source))) := by
  apply places_placeholder hfence hlanguage
  simp only [Processor.placeholder, Processor.plantUml, hencoder]
  rfl

theorem places_unavailable
    (hfence : fence ∈ fences (Markdown.events config.markdown.gfm markdown))
    (hlanguage : Language.ofFence? fence.language = some .plantUml)
    (hencoder : (config.processor 1).encoder = none) :
    config.Places markdown fence.index
      (.unavailable (Placeholder.idOf .plantUml 1 fence.index) fence.source) := by
  apply places_placeholder hfence hlanguage
  simp only [Processor.placeholder, Processor.plantUml, hencoder]

theorem places_mermaid (hfence : fence ∈ fences (Markdown.events config.markdown.gfm markdown))
    (hlanguage : Language.ofFence? fence.language = some .mermaid) :
    config.Places markdown fence.index
      (.mermaid (Placeholder.idOf .mermaid 1 fence.index)
        (DiagramDoc.repair config.repairOptions fence.source)) :=
  places_placeholder hfence hlanguage rfl

end Config

namespace Cli

/-! ### Commands and their options -/

variable {environment : Environment} {a b : Arguments}

/-- The settings that options override are the options, read one by one. -/
theorem eq_of_overrides? {o : Overrides} (h : a.overrides? environment = some o) :
    o.server = (a.value? "plantuml-server").or (environment.value? serverVariable) ∧
      a.decode? "plantuml-format" ImageFormat.ofName? = some o.format ∧
      a.decode? "plantuml-encoding" encoderOfName? = some o.encoder := by
  obtain ⟨format, hformat, hmore⟩ := Option.bind_eq_some_iff.1 h
  obtain ⟨encoder, hencoder, hsome⟩ := Option.bind_eq_some_iff.1 hmore
  cases hsome
  exact ⟨rfl, hformat, hencoder⟩

/-- The command is what the command line asks for with the options of `a`, and reads `source`. -/
structure Command.IsAsked (command : Command) (context : Context) (line : List String)
    (a : Arguments) (source : String) : Prop where
  accepted : Command.ofArguments? context.workspace.environment line = some command
  standIn : a.StandIn line
  reads : ∃ input, command.source? = some input ∧ input.read context = .ok source

/-- Two command lines choose the same configuration, server and encoding. -/
structure Arguments.Shares (a b : Arguments) : Prop where
  config : a.value? "config" = b.value? "config"
  server : a.value? "plantuml-server" = b.value? "plantuml-server"
  encoding : a.value? "plantuml-encoding" = b.value? "plantuml-encoding"

section Asked

variable {context : Context} {line : List String} {source : String}

theorem Command.IsAsked.isMadeOf {command : Command} (h : command.IsAsked context line a source) :
    command.IsMadeOf context.workspace.environment a := by
  obtain ⟨input, hinput, -⟩ := h.reads
  exact isMadeOf_of_standIn (by rw [hinput]; rfl) h.accepted h.standIn

theorem Command.IsAsked.run_eq {command : Command} (h : command.IsAsked context line a source) :
    runArguments context line = command.run context := by
  rw [runArguments, h.accepted]

theorem Command.IsAsked.render {d : RenderCommand}
    (h : (Command.render d).IsAsked context line b source) :
    b.overrides? context.workspace.environment = some d.overrides ∧
      d.configFile = b.value? "config" ∧ d.source.read context = .ok source := by
  obtain ⟨_, hinput, hread⟩ := h.reads
  cases hinput
  obtain ⟨overrides, hoverrides, hcommand⟩ := Option.bind_eq_some_iff.1 h.isMadeOf.made
  cases hcommand
  exact ⟨hoverrides, rfl, hread⟩

theorem Command.IsAsked.encode {c : EncodeCommand}
    (h : (Command.encode c).IsAsked context line a source) :
    a.overrides? context.workspace.environment = some c.overrides ∧
      c.configFile = a.value? "config" ∧ c.url = a.has "url" ∧
      c.source.read context = .ok source := by
  obtain ⟨_, hinput, hread⟩ := h.reads
  cases hinput
  obtain ⟨overrides, hoverrides, hcommand⟩ := Option.bind_eq_some_iff.1 h.isMadeOf.made
  cases hcommand
  exact ⟨hoverrides, rfl, rfl, hread⟩

theorem Command.IsAsked.repair {c : RepairCommand}
    (h : (Command.repair c).IsAsked context line a source) :
    a.decode? "dialect" dialect? = some c.dialect ∧ c.configFile = a.value? "config" ∧
      c.check = a.has "check" ∧ c.target = a.value? "output" ∧
      c.source.read context = .ok source := by
  obtain ⟨_, hinput, hread⟩ := h.reads
  cases hinput
  obtain ⟨dialect, hdialect, hcommand⟩ := Option.bind_eq_some_iff.1 h.isMadeOf.made
  cases hcommand
  exact ⟨hdialect, rfl, rfl, rfl, hread⟩

end Asked

/-! ### Configurations that agree -/

/-- The format that a fence chooses is the one that its attribute, given as an option, chooses. -/
theorem chooseFormat_eq {o o' : Overrides} {attrs : Attributes}
    (ho : b.decode? "plantuml-format" ImageFormat.ofName? = some o.format)
    (ho' : a.decode? "plantuml-format" ImageFormat.ofName? = some o'.format)
    (hformat : a.value? "plantuml-format" =
      (attrs.get? "format").or (b.value? "plantuml-format")) (base : Config) (index : Nat) :
    (((base.override o).processor 1).chooseFormat attrs index).1 =
      (base.override o').format := by
  rw [Arguments.decode?, hformat] at ho'
  cases hattr : attrs.get? "format" with
  | none =>
    rw [hattr, Option.none_or, ← Arguments.decode?, ho] at ho'
    have hsame : o.format = o'.format := Option.some.inj ho'
    rw [Processor.chooseFormat, hattr, Config.override, Config.override, hsame]
    rfl
  | some value =>
    rw [hattr, Option.some_or] at ho'
    obtain ⟨format, hvalue, hchosen⟩ := Option.map_eq_some_iff.1 ho'
    rw [Processor.chooseFormat, hattr, Config.override, Config.override, ← hchosen]
    simp only [hvalue]
    rfl

variable (w : Workspace) (input input' : List UInt8) (file : Option String)

theorem loadConfig_of_same_server {o o' : Overrides} (hserver : o.server = o'.server) :
    (∃ base : Config, loadConfig ⟨w, input⟩ file o = .ok (base.override o) ∧
        loadConfig ⟨w, input'⟩ file o' = .ok (base.override o')) ∨
      ∃ failure, loadConfig ⟨w, input⟩ file o = .error failure ∧
        loadConfig ⟨w, input'⟩ file o' = .error failure := by
  rw [loadConfig, loadConfig]
  obtain ⟨base, -, hload, hload'⟩ | ⟨e, herror, herror'⟩ :=
    Config.load_of_same_server w file hserver
  · exact .inl ⟨base, by rw [hload]; rfl, by rw [hload']; rfl⟩
  · exact .inr ⟨.config e, by rw [herror]; rfl, by rw [herror']; rfl⟩

/-- What is loaded for a document that is repaired repairs as what is loaded for a repair. -/
theorem exists_loadConfig_repair {o : Overrides} {config : Config}
    (hload : loadConfig ⟨w, input⟩ file o = .ok config) (hrepair : config.repair = true) :
    ∃ config', loadConfig ⟨w, input'⟩ file repairOverrides = .ok config' ∧
      config'.repairOptions = config.repairOptions := by
  cases hbase : Config.load w file none with
  | error e =>
    rw [loadConfig, Config.load_some_of_error hbase] at hload
    cases hload
  | ok base =>
    -- to repair is no setting that could make the configuration invalid
    have hvalid : base.fault? = none := Config.fault?_eq_none_iff.2 (Config.isValid_of_load hbase)
    have hchecked : (base.override repairOverrides).checked = .ok (base.override repairOverrides) :=
      Config.checked_eq_ok_iff.2 ⟨hvalid, rfl⟩
    refine ⟨base.override repairOverrides, ?_, ?_⟩
    · rw [loadConfig, Config.load_some_of_ok hbase, hchecked]
      rfl
    · rw [loadConfig, Config.load_some_of_ok hbase] at hload
      cases hmerged : (base.override o).checked with
      | error e =>
        rw [hmerged] at hload
        cases hload
      | ok merged =>
        rw [hmerged] at hload
        cases hload
        obtain ⟨-, rfl⟩ := Config.checked_eq_ok_iff.1 hmerged
        rw [Config.repairOptions, Config.repairOptions, hrepair]
        rfl

/-! ### Runs -/

section Runs

variable {context : Context} {source : String} {config : Config}

theorem run_render {d : RenderCommand}
    (hload : loadConfig context d.configFile d.overrides = .ok config)
    (hread : d.source.read context = .ok source) :
    ∃ warnings reports, (Command.render d).run context =
      Product.deliver ⟨some (documentHtml d
        (renderDiagrams config.markdown (config.processor 1) source)), d.target, warnings, reports⟩
        context.workspace := by
  obtain ⟨warnings, reports, hproduct⟩ : ∃ warnings reports, (Command.render d).product context =
      .ok ⟨some (documentHtml d (renderDiagrams config.markdown (config.processor 1) source)),
        d.target, warnings, reports⟩ := by
    simp only [Command.product, RenderCommand.product, hload, hread, ok_bind]
    exact ⟨_, _, rfl⟩
  exact ⟨warnings, reports, Command.run_of_ok hproduct⟩

theorem run_encode {c : EncodeCommand} {encoder : Encoder}
    (hload : loadConfig context c.configFile c.overrides = .ok config)
    (hread : c.source.read context = .ok source) (hurl : c.url = true)
    (hencoder : config.encoder = some encoder) :
    (Command.encode c).run context =
      ⟨0, Page.endLine (imageUrl config.server config.format (encodeSource encoder source)), [],
        none⟩ := by
  have hproduct : (Command.encode c).product context =
      .ok (.plain (imageUrl config.server config.format (encodeSource encoder source))) := by
    simp only [Command.product, EncodeCommand.product, hload, hread, ok_bind, hencoder, hurl]
    rfl
  rw [Command.run_of_ok hproduct, Product.deliver_toOutput rfl rfl]
  rfl

theorem run_encode_of_no_encoder {c : EncodeCommand}
    (hload : loadConfig context c.configFile c.overrides = .ok config)
    (hread : c.source.read context = .ok source) (hencoder : config.encoder = none) :
    (Command.encode c).run context = Failure.noEncoder.outcome [] := by
  apply Command.run_of_error
  simp only [Command.product, EncodeCommand.product, hload, hread, ok_bind, hencoder]
  rfl

theorem run_repair {c : RepairCommand}
    (hload : loadConfig context c.configFile repairOverrides = .ok config)
    (hread : c.source.read context = .ok source) (hdialect : c.dialect = none)
    (hcheck : c.check = false) :
    (Command.repair c).run context =
      Product.deliver ⟨some (repair config.repairOptions source), c.target, [], []⟩
        context.workspace := by
  apply Command.run_of_ok
  rw [Command.product, repair_product_of_makes (.repair hload hread), hcheck,
    RepairCommand.dialectOf, hdialect]
  rfl

end Runs

/-! ### Agreement -/

/-- The run, which encodes the source of a fence as a URL, agrees with what stands in the document
in the place of the fence: an image with that URL, or a message if there is no encoder. -/
structure Outcome.AgreesOnPlantUml (o : Outcome) (config : Config) (markdown : String)
    (fence : Fence) : Prop where
  drawn : config.encoder.isSome = true → ∃ url, o = ⟨0, Page.endLine url, [], none⟩ ∧
    config.Places markdown fence.index
      (.plantUml (Placeholder.idOf .plantUml 1 fence.index) fence.source url)
  unavailable : config.encoder = none → o = Failure.noEncoder.outcome [] ∧
    config.Places markdown fence.index
      (.unavailable (Placeholder.idOf .plantUml 1 fence.index) fence.source)

/-- The run, which repairs the source of a fence, delivers the source that stands in the document in
the place of the fence. -/
def Outcome.AgreesOnMermaid (o : Outcome) (w : Workspace) (target : Option String)
    (config : Config) (markdown : String) (fence : Fence) : Prop :=
  ∃ repaired, o = Product.deliver ⟨some repaired, target, [], []⟩ w ∧
    config.Places markdown fence.index
      (.mermaid (Placeholder.idOf .mermaid 1 fence.index) repaired)

section Agreement

variable {w : Workspace} {input input' : List UInt8} {line line' : List String}
  {markdown source : String} {d : RenderCommand} {fence : Fence}

theorem loadConfig_of_shares {c : EncodeCommand}
    (hd : (Command.render d).IsAsked ⟨w, input⟩ line b markdown)
    (hc : (Command.encode c).IsAsked ⟨w, input'⟩ line' a source) (hshares : a.Shares b) :
    (∃ base : Config,
        loadConfig ⟨w, input⟩ d.configFile d.overrides = .ok (base.override d.overrides) ∧
        loadConfig ⟨w, input'⟩ c.configFile c.overrides = .ok (base.override c.overrides)) ∨
      ∃ failure, loadConfig ⟨w, input⟩ d.configFile d.overrides = .error failure ∧
        loadConfig ⟨w, input'⟩ c.configFile c.overrides = .error failure := by
  obtain ⟨ho, hfile, -⟩ := hd.render
  obtain ⟨ho', hfile', -⟩ := hc.encode
  have hserver : d.overrides.server = c.overrides.server := by
    rw [(eq_of_overrides? ho).1, (eq_of_overrides? ho').1, hshares.server]
  rw [hfile, hfile', hshares.config]
  exact loadConfig_of_same_server w input input' _ hserver

theorem agreesOnPlantUml {c : EncodeCommand} {config : Config}
    (hd : (Command.render d).IsAsked ⟨w, input⟩ line b markdown)
    (hc : (Command.encode c).IsAsked ⟨w, input'⟩ line' a fence.source) (hshares : a.Shares b)
    (hload : loadConfig ⟨w, input⟩ d.configFile d.overrides = .ok config)
    (hfence : fence ∈ fences (Markdown.events config.markdown.gfm markdown))
    (hlanguage : Language.ofFence? fence.language = some .plantUml) (hurl : a.has "url" = true)
    (hformat : a.value? "plantuml-format" =
      (fence.attrs.get? "format").or (b.value? "plantuml-format")) :
    (runArguments ⟨w, input'⟩ line').AgreesOnPlantUml config markdown fence := by
  obtain ⟨ho, -, -⟩ := hd.render
  obtain ⟨ho', -, hcurl, hread⟩ := hc.encode
  obtain ⟨hserver, hchosen, hencoding⟩ := eq_of_overrides? ho
  obtain ⟨hserver', hchosen', hencoding'⟩ := eq_of_overrides? ho'
  obtain ⟨base, hrender, hencode⟩ | ⟨failure, herror, -⟩ := loadConfig_of_shares hd hc hshares
  · obtain rfl := Except.ok.inj (hload.symm.trans hrender)
    have hencoder : (base.override c.overrides).encoder = (base.override d.overrides).encoder := by
      rw [Arguments.decode?, hshares.encoding, ← Arguments.decode?, hencoding] at hencoding'
      rw [Config.override, Config.override, Option.some.inj hencoding']
    have hsame : (base.override c.overrides).server = (base.override d.overrides).server := by
      rw [Config.override, Config.override, hserver, hserver', hshares.server]
    rw [hc.run_eq]
    constructor
    · intro hsome
      obtain ⟨encoder, hencoder'⟩ := Option.isSome_iff_exists.1 hsome
      refine ⟨_, run_encode hencode hread (hcurl.trans hurl) (hencoder.trans hencoder'), ?_⟩
      rw [← chooseFormat_eq hchosen hchosen' hformat base fence.index, hsame]
      exact Config.places_plantUml hfence hlanguage hencoder'
    · intro hnone
      exact ⟨run_encode_of_no_encoder hencode hread (hencoder.trans hnone),
        Config.places_unavailable hfence hlanguage hnone⟩
  · rw [hload] at herror
    cases herror

theorem agreesOnMermaid {c : RepairCommand} {config : Config}
    (hd : (Command.render d).IsAsked ⟨w, input⟩ line b markdown)
    (hc : (Command.repair c).IsAsked ⟨w, input'⟩ line' a fence.source)
    (hload : loadConfig ⟨w, input⟩ d.configFile d.overrides = .ok config)
    (hrepair : config.repair = true)
    (hfence : fence ∈ fences (Markdown.events config.markdown.gfm markdown))
    (hlanguage : Language.ofFence? fence.language = some .mermaid)
    (hconfig : a.value? "config" = b.value? "config") (hdialect : a.value? "dialect" = none)
    (hcheck : a.has "check" = false) :
    (runArguments ⟨w, input'⟩ line').AgreesOnMermaid w (a.value? "output") config markdown
      fence := by
  obtain ⟨-, hfile, -⟩ := hd.render
  obtain ⟨hchosen, hfile', hchecks, htarget, hread⟩ := hc.repair
  obtain ⟨config', hload', hoptions⟩ :=
    exists_loadConfig_repair w input input' d.configFile hload hrepair
  have hfiles : c.configFile = d.configFile := by rw [hfile', hfile, hconfig]
  have hnone : c.dialect = none := by
    rw [Arguments.decode?, hdialect] at hchosen
    exact (Option.some.inj hchosen).symm
  rw [← hfiles] at hload'
  refine ⟨repair config.repairOptions fence.source, ?_,
    Config.places_mermaid hfence hlanguage⟩
  rw [hc.run_eq, run_repair hload' hread hnone (hchecks.trans hcheck), htarget, hoptions]

end Agreement

/-- **What a command makes of a diagram is what stands for the diagram in a document.** A document
is rendered by one command line, and its diagrams are encoded or repaired by others in the same
workspace. If the configuration cannot be loaded, the commands fail alike. Otherwise, with the same
configuration, server and encoding, and with the format of the fence or else the same format, the
URL that is printed is the address of the image in the document, and without an encoder both say so.
If the configuration asks for repair, the repaired text is the source in the document. -/
theorem commands_agree {w : Workspace} {input : List UInt8} {line : List String} {b : Arguments}
    {d : RenderCommand} {markdown : String}
    (hd : (Command.render d).IsAsked ⟨w, input⟩ line b markdown) :
    (∀ failure, loadConfig ⟨w, input⟩ d.configFile d.overrides = .error failure →
      runArguments ⟨w, input⟩ line = failure.outcome [] ∧
        ∀ input' line' a c source, (Command.encode c).IsAsked ⟨w, input'⟩ line' a source →
          a.Shares b → runArguments ⟨w, input'⟩ line' = failure.outcome []) ∧
    ∀ config, loadConfig ⟨w, input⟩ d.configFile d.overrides = .ok config →
      (∃ warnings reports, runArguments ⟨w, input⟩ line = Product.deliver ⟨some (documentHtml d
        (renderDiagrams config.markdown (config.processor 1) markdown)), d.target, warnings,
          reports⟩ w) ∧
      ∀ fence ∈ fences (Markdown.events config.markdown.gfm markdown),
        (Language.ofFence? fence.language = some .plantUml →
          ∀ input' line' a c, (Command.encode c).IsAsked ⟨w, input'⟩ line' a fence.source →
            a.Shares b → a.has "url" = true →
            a.value? "plantuml-format" =
              (fence.attrs.get? "format").or (b.value? "plantuml-format") →
            (runArguments ⟨w, input'⟩ line').AgreesOnPlantUml config markdown fence) ∧
        (Language.ofFence? fence.language = some .mermaid → config.repair = true →
          ∀ input' line' a c, (Command.repair c).IsAsked ⟨w, input'⟩ line' a fence.source →
            a.value? "config" = b.value? "config" → a.value? "dialect" = none →
            a.has "check" = false →
            (runArguments ⟨w, input'⟩ line').AgreesOnMermaid w (a.value? "output") config markdown
              fence) := by
  refine ⟨fun failure hfails => ⟨?_, ?_⟩, fun config hload => ⟨?_, fun fence hfence => ⟨?_, ?_⟩⟩⟩
  · rw [hd.run_eq]
    apply Command.run_of_error
    simp only [Command.product, RenderCommand.product, hfails, error_bind]
  · intro input' line' a c source hc hshares
    obtain ⟨base, hload, -⟩ | ⟨failure', herror, herror'⟩ := loadConfig_of_shares hd hc hshares
    · rw [hload] at hfails
      cases hfails
    · rw [herror] at hfails
      cases hfails
      rw [hc.run_eq]
      apply Command.run_of_error
      simp only [Command.product, EncodeCommand.product, herror', error_bind]
  · rw [hd.run_eq]
    exact run_render hload hd.render.2.2
  · intro hlanguage input' line' a c hc hshares hurl hformat
    exact agreesOnPlantUml hd hc hshares hload hfence hlanguage hurl hformat
  · intro hlanguage hrepair input' line' a c hc hconfig hdialect hcheck
    exact agreesOnMermaid hd hc hload hrepair hfence hlanguage hconfig hdialect hcheck

def diagramDocument : String :=
  "```puml format=png\nA -> B\n```\n\n~~~mermaid\nflowchart\nA[x (y)]\n~~~\n"

/-- A document with a diagram of each language, and the diagrams by themselves. -/
def diagramWorkspace : Workspace :=
  ⟨⟨[(["doc.md"], .file (Text.bytes diagramDocument)),
    (["a.puml"], .file (Text.bytes "A -> B\n")),
    (["b.mmd"], .file (Text.bytes "flowchart\nA[x (y)]\n"))]⟩, [], []⟩

theorem eq_ok_of_toOption {ε α : Type} {result : Except ε α} {value : α}
    (h : result.toOption = some value) : result = .ok value := by
  cases result with
  | error e => cases h
  | ok found => exact congrArg Except.ok (Option.some.inj h)

theorem isAsked_of_file {command : Command} {rest : List String} {name path source : String}
    (haccepted : Command.ofArguments? diagramWorkspace.environment (name :: rest) = some command)
    (hname : ArgumentKind.of name = .plain)
    (hsort : sortArguments? (formsOf name) .empty none rest = some a)
    (hsource : command.source? = some (.file path))
    (hread : ((Source.file path).read ⟨diagramWorkspace, []⟩).toOption = some source) :
    command.IsAsked ⟨diagramWorkspace, []⟩ (name :: rest) a source := by
  exact ⟨haccepted, ⟨[], name, rest, rfl, List.forall_mem_nil _, hname, hsort⟩, _, hsource,
    eq_ok_of_toOption hread⟩

theorem commands_agree_diagramWorkspace :
    (runArguments ⟨diagramWorkspace, []⟩
      ["encode", "--url", "--plantuml-format", "png", "a.puml"]).AgreesOnPlantUml .standard
        diagramDocument ⟨"puml", [("format", "png")], "A -> B\n", 0⟩ ∧
    (runArguments ⟨diagramWorkspace, []⟩ ["repair", "b.mmd"]).AgreesOnMermaid diagramWorkspace
      none .standard diagramDocument ⟨"mermaid", [], "flowchart\nA[x (y)]\n", 1⟩ := by
  have hrender : (Command.render ⟨.file "doc.md", none, false, none, .none⟩).IsAsked
      ⟨diagramWorkspace, []⟩ ["render", "doc.md"] ⟨[], some "doc.md"⟩ diagramDocument :=
    isAsked_of_file (by decide +kernel) (by decide +kernel) (by decide +kernel) rfl
      (by decide +kernel)
  have hencode : (Command.encode ⟨.file "a.puml", true, none, ⟨none, some .png, none, none, none⟩⟩
      ).IsAsked ⟨diagramWorkspace, []⟩ ["encode", "--url", "--plantuml-format", "png", "a.puml"]
        ⟨[("url", ""), ("plantuml-format", "png")], some "a.puml"⟩ "A -> B\n" :=
    isAsked_of_file (by decide +kernel) (by decide +kernel) (by decide +kernel) rfl
      (by decide +kernel)
  have hrepair : (Command.repair ⟨.file "b.mmd", none, none, false, none⟩).IsAsked
      ⟨diagramWorkspace, []⟩ ["repair", "b.mmd"] ⟨[], some "b.mmd"⟩ "flowchart\nA[x (y)]\n" :=
    isAsked_of_file (by decide +kernel) (by decide +kernel) (by decide +kernel) rfl
      (by decide +kernel)
  have hload : loadConfig ⟨diagramWorkspace, []⟩ none .none = .ok .standard :=
    eq_ok_of_toOption (by decide +kernel)
  have hdrawn := ((commands_agree hrender).2 _ hload).2
    ⟨"puml", [("format", "png")], "A -> B\n", 0⟩ (by decide +kernel)
  have hrepaired := ((commands_agree hrender).2 _ hload).2
    ⟨"mermaid", [], "flowchart\nA[x (y)]\n", 1⟩ (by decide +kernel)
  exact ⟨hdrawn.1 (by decide +kernel) _ _ _ _ hencode ⟨rfl, rfl, rfl⟩ (by decide +kernel)
      (by decide +kernel),
    hrepaired.2 (by decide +kernel) rfl _ _ _ _ hrepair rfl rfl rfl⟩

end Cli

end DiagramDoc
