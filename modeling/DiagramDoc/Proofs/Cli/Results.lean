import DiagramDoc.Cli.Run
import DiagramDoc.Proofs.Cli.Options
import DiagramDoc.Proofs.Files.Writing

/-! # What a run leaves behind

A command makes a text of its configuration and its source, or it fails before anything is written.
Only then is the text delivered, in one piece and to one place. So a run that fails leaves nothing
behind, and one that succeeds leaves the whole text.
-/

namespace DiagramDoc.Cli

open Text PlantUml

/-! ### Texts -/

def RepairCommand.dialectOf (c : RepairCommand) (source : String) : Dialect :=
  c.dialect.getD (Dialect.ofSource source.toList)

/-- The command, which reads `source`, makes `text` of it. -/
inductive Command.Makes (context : Context) : Command → String → String → Prop
  | render {c : RenderCommand} {config : Config} {source : String}
      (hconfig : loadConfig context c.configFile c.overrides = .ok config)
      (hsource : c.source.read context = .ok source) :
      Makes context (.render c) source
        (documentHtml c (renderDiagrams config.markdown (config.processor 1) source))
  | repair {c : RepairCommand} {config : Config} {source : String}
      (hconfig : loadConfig context c.configFile repairOverrides = .ok config)
      (hsource : c.source.read context = .ok source) :
      Makes context (.repair c) source (repairAs (c.dialectOf source) config.repairOptions source)
  | classify {input : Source} {source : String} (hsource : input.read context = .ok source) :
      Makes context (.classify input) source (Dialect.ofSource source.toList).name
  | encode {c : EncodeCommand} {config : Config} {source : String} {encoder : Encoder}
      (hconfig : loadConfig context c.configFile c.overrides = .ok config)
      (hsource : c.source.read context = .ok source) (hencoder : config.encoder = some encoder) :
      Makes context (.encode c) source
        (if c.url then imageUrl config.server config.format (encodeSource encoder source)
          else encodeSource encoder source)

variable {context : Context} {command : Command} {source text source' text' : String}

/-- There is at most one text that a command makes. -/
theorem Command.Makes.unique (h : command.Makes context source text)
    (h' : command.Makes context source' text') : source = source' ∧ text = text' := by
  cases h with
  | render hconfig hsource =>
    cases h' with
    | render hconfig' hsource' =>
      cases hconfig.symm.trans hconfig'
      cases hsource.symm.trans hsource'
      exact ⟨rfl, rfl⟩
  | repair hconfig hsource =>
    cases h' with
    | repair hconfig' hsource' =>
      cases hconfig.symm.trans hconfig'
      cases hsource.symm.trans hsource'
      exact ⟨rfl, rfl⟩
  | classify hsource =>
    cases h' with
    | classify hsource' =>
      cases hsource.symm.trans hsource'
      exact ⟨rfl, rfl⟩
  | encode hconfig hsource hencoder =>
    cases h' with
    | encode hconfig' hsource' hencoder' =>
      cases hconfig.symm.trans hconfig'
      cases hsource.symm.trans hsource'
      cases hencoder.symm.trans hencoder'
      exact ⟨rfl, rfl⟩

/-! ### Products -/

@[simp]
theorem ok_bind {α β : Type} (a : α) (f : α → Except Failure β) :
    (Except.ok a >>= f) = f a := rfl

@[simp]
theorem error_bind {α β : Type} (failure : Failure) (f : α → Except Failure β) :
    (Except.error failure >>= f) = .error failure := rfl

theorem loadConfig_ne_needsRepair (context : Context) (file : Option String) (o : Overrides)
    (d : Dialect) : loadConfig context file o ≠ .error (.needsRepair d) := by
  intro h
  rw [loadConfig] at h
  cases hload : Config.load context.workspace file (some o) <;> rw [hload] at h <;> cases h

theorem Source.read_ne_needsRepair (input : Source) (context : Context) (d : Dialect) :
    input.read context ≠ .error (.needsRepair d) := by
  intro h
  cases input with
  | standardInput =>
    rw [read] at h
    cases htext : textOf context.input <;> rw [htext] at h <;> cases h
  | file path =>
    rw [read] at h
    cases htext : context.workspace.files.read context.workspace.directory path <;>
      rw [htext] at h <;> cases h

/-- How every command with a configuration starts: it has its configuration and its source, or it
fails whatever it is about to do with them. -/
theorem starts_or_fails (context : Context) (file : Option String) (o : Overrides)
    (input : Source) :
    (∃ config source, loadConfig context file o = .ok config ∧ input.read context = .ok source) ∨
      ∃ failure, (∀ d, failure ≠ Failure.needsRepair d) ∧
        ∀ make : Config → String → Except Failure Product,
          (loadConfig context file o >>= fun config =>
            input.read context >>= fun source => make config source) = .error failure := by
  cases hconfig : loadConfig context file o with
  | error failure =>
    refine .inr ⟨failure, fun d hd => ?_, fun make => rfl⟩
    exact loadConfig_ne_needsRepair context file o d (hd ▸ hconfig)
  | ok config =>
    cases hsource : input.read context with
    | error failure =>
      refine .inr ⟨failure, fun d hd => ?_, fun make => rfl⟩
      exact input.read_ne_needsRepair context d (hd ▸ hsource)
    | ok source => exact .inl ⟨config, source, rfl, rfl⟩

/-- A command that makes no text fails, and not because its source needs repair. -/
theorem Command.makes_or_fails (context : Context) (hsource : command.source?.isSome) :
    (∃ source text, command.Makes context source text) ∨
      ∃ failure, command.product context = .error failure ∧
        ∀ d, failure ≠ Failure.needsRepair d := by
  cases command with
  | version => cases hsource
  | help => cases hsource
  | render c =>
    obtain ⟨config, source, hconfig, hsource⟩ | ⟨failure, hne, hfails⟩ :=
      starts_or_fails context c.configFile c.overrides c.source
    · exact .inl ⟨source, _, .render hconfig hsource⟩
    · exact .inr ⟨failure, hfails _, hne⟩
  | repair c =>
    obtain ⟨config, source, hconfig, hsource⟩ | ⟨failure, hne, hfails⟩ :=
      starts_or_fails context c.configFile repairOverrides c.source
    · exact .inl ⟨source, _, .repair hconfig hsource⟩
    · exact .inr ⟨failure, hfails _, hne⟩
  | classify input =>
    cases hread : input.read context with
    | ok source => exact .inl ⟨source, _, .classify hread⟩
    | error failure =>
      refine .inr ⟨failure, ?_, fun d hd => input.read_ne_needsRepair context d (hd ▸ hread)⟩
      rw [product, classifyProduct, hread, error_bind]
  | encode c =>
    obtain ⟨config, source, hconfig, hsource⟩ | ⟨failure, hne, hfails⟩ :=
      starts_or_fails context c.configFile c.overrides c.source
    · cases hencoder : config.encoder with
      | some encoder => exact .inl ⟨source, _, .encode hconfig hsource hencoder⟩
      | none =>
        refine .inr ⟨.noEncoder, ?_, fun d => by simp⟩
        simp only [product, EncodeCommand.product, hconfig, hsource, ok_bind, hencoder]
        rfl
    · exact .inr ⟨failure, hfails _, hne⟩

theorem repair_product_of_makes {c : RepairCommand}
    (h : (Command.repair c).Makes context source text) :
    c.product context =
      if c.check then
        if text = source then .ok ⟨none, none, [], []⟩
        else .error (.needsRepair (c.dialectOf source))
      else .ok ⟨some text, c.target, [], []⟩ := by
  cases h with
  | repair hconfig hsource =>
    simp only [RepairCommand.product, hconfig, hsource, ok_bind]
    rfl

theorem product_of_makes (h : command.Makes context source text) (hcheck : command.checks = false) :
    ∃ p, command.product context = .ok p ∧ p.text = some text ∧ p.target = command.target? := by
  cases h with
  | render hconfig hsource =>
    simp only [Command.product, RenderCommand.product, hconfig, hsource, ok_bind]
    exact ⟨_, rfl, rfl, rfl⟩
  | @repair c config source hconfig hsource =>
    have hnot : c.check = false := hcheck
    rw [Command.product, repair_product_of_makes (.repair hconfig hsource), hnot]
    exact ⟨_, rfl, rfl, rfl⟩
  | classify hsource =>
    simp only [Command.product, classifyProduct, hsource, ok_bind]
    exact ⟨_, rfl, rfl, rfl⟩
  | encode hconfig hsource hencoder =>
    simp only [Command.product, EncodeCommand.product, hconfig, hsource, ok_bind, hencoder]
    exact ⟨_, rfl, rfl, rfl⟩

/-! ### Delivery -/

def Command.CanDeliver (command : Command) (w : Workspace) : Prop :=
  ∀ path, command.target? = some path →
    ∃ location, w.files.locateFile w.directory path = .ok location

/-- The run brings `text` to its target: to the file of that path and nowhere else, or, without a
path, to the standard output, where a line feed ends it. -/
inductive Outcome.Delivers (w : Workspace) (text : String) (o : Outcome) : Option String → Prop
  | toFile {path : String} {location : Location}
      (hlocation : w.files.locateFile w.directory path = .ok location)
      (houtput : o.output = "")
      (hfile : (o.filesAfter w.files).file? location = some (bytes text))
      (hread : (o.filesAfter w.files).read w.directory path = .ok text)
      (hothers : ∀ other ≠ location, (o.filesAfter w.files).file? other = w.files.file? other) :
      Delivers w text o (some path)
  | toOutput (hfiles : o.filesAfter w.files = w.files)
      (houtput : o.output = if text.toList.getLast? = some '\n' then text else text ++ "\n") :
      Delivers w text o none

/-- Nothing of the run is left but its messages. -/
def Outcome.LeavesNothing (w : Workspace) (o : Outcome) : Prop :=
  o.output = "" ∧ o.filesAfter w.files = w.files

variable {w : Workspace} {p : Product} {failure : Failure}

theorem Failure.leavesNothing_outcome (failure : Failure) (messages : List String) :
    (failure.outcome messages).LeavesNothing w := ⟨rfl, rfl⟩

theorem Product.deliver_of_text_eq_none (h : p.text = none) :
    p.deliver w = ⟨0, "", p.warnings ++ p.reports, none⟩ := by
  rw [deliver, h]

theorem Product.deliver_toOutput (htext : p.text = some text) (htarget : p.target = none) :
    p.deliver w = ⟨0, Page.endLine text, p.warnings ++ p.reports, none⟩ := by
  rw [deliver, htext, htarget]

section ToFile

variable {path : String} (htext : p.text = some text) (htarget : p.target = some path)
include htext htarget

theorem Product.deliver_toFile {location : Location}
    (hlocation : w.files.locateFile w.directory path = .ok location) :
    p.deliver w = ⟨0, "", p.warnings ++ p.reports, some (location, text)⟩ := by
  simp only [deliver, htext, htarget, hlocation]

theorem Product.deliver_unwritable {e : FileError}
    (herror : w.files.locateFile w.directory path = .error e) :
    p.deliver w = (Failure.unwritable path e).outcome p.warnings := by
  simp only [deliver, htext, htarget, herror]

end ToFile

/-- A product is delivered as a whole, or the run fails and nothing is left of it. -/
theorem Product.deliver_spec (htext : p.text = some text) :
    (p.deliver w).status = 0 ∧ (p.deliver w).Delivers w text p.target ∨
      (p.deliver w).status = 1 ∧ (p.deliver w).LeavesNothing w ∧
        ∃ path e, p.target = some path ∧ w.files.locateFile w.directory path = .error e := by
  cases htarget : p.target with
  | none =>
    rw [deliver_toOutput htext htarget]
    exact .inl ⟨rfl, .toOutput rfl rfl⟩
  | some path =>
    cases hlocate : w.files.locateFile w.directory path with
    | error e =>
      rw [deliver_unwritable htext htarget hlocate]
      exact .inr ⟨rfl, Failure.leavesNothing_outcome _ _, path, e, rfl, hlocate⟩
    | ok location =>
      rw [deliver_toFile htext htarget hlocate]
      obtain ⟨-, hnot, -⟩ := FileTree.locateFile_eq_ok_iff.1 hlocate
      have hroot : location ≠ [] := fun heq => hnot (heq ▸ FileTree.node?_root w.files)
      exact .inl ⟨rfl, .toFile hlocate rfl (FileTree.file?_put hroot) (FileTree.read_put hlocate)
        fun other hother => FileTree.file?_put_of_ne hother⟩

theorem Outcome.Delivers.exists_location {o : Outcome} {target : Option String} {path : String}
    (h : o.Delivers w text target) (htarget : target = some path) :
    ∃ location, w.files.locateFile w.directory path = .ok location := by
  cases h with
  | toFile hlocation => cases htarget; exact ⟨_, hlocation⟩
  | toOutput => cases htarget

/-! ### Failures -/

theorem first_append {a b : String} {c : Char} (h : a.toList.head? = some c) :
    (a ++ b).toList.head? = some c := by
  rw [String.toList_append, List.head?_append, h, Option.some_or]

theorem first_configError (error : ConfigError) :
    ∃ c ∈ ['C', 'I', 'T', 'E'], error.message.toList.head? = some c := by
  cases error with
  | notFound path => exact ⟨'C', by decide, first_append (by decide)⟩
  | unreadable e => exact ⟨'I', by decide, first_append (by decide)⟩
  | notToml => exact ⟨'T', by decide, by decide⟩
  | invalid fault => exact ⟨'C', by decide, first_append (by decide)⟩
  | unset field name =>
    exact ⟨'E', by decide, first_append (first_append (first_append (first_append (by decide))))⟩

/-- Any other message starts with a letter with which no dialect's name starts, as the message that
a source needs repair does. -/
theorem Failure.first_message (failure : Failure) (h : ∀ d, failure ≠ needsRepair d) :
    ∃ c ∈ ['C', 'I', 'T', 'E', 'c', 'P'], failure.message.toList.head? = some c := by
  cases failure with
  | config error =>
    obtain ⟨c, hc, hfirst⟩ := first_configError error
    exact ⟨c, List.mem_append_left ['c', 'P'] hc, hfirst⟩
  | unreadable path e =>
    exact ⟨'c', by decide, first_append (first_append (first_append (by decide)))⟩
  | unreadableInput e => exact ⟨'c', by decide, first_append (by decide)⟩
  | unwritable path e =>
    exact ⟨'c', by decide, first_append (first_append (first_append (by decide)))⟩
  | noEncoder => exact ⟨'P', by decide, by decide⟩
  | needsRepair d => exact absurd rfl (h d)

theorem Failure.needsRepair_message_injective {d d' : Dialect}
    (h : (needsRepair d).message = (needsRepair d').message) : d = d' := by
  cases d <;> cases d'
  all_goals first | rfl | exact absurd h (by decide)

theorem Failure.message_eq_needsRepair_iff {d : Dialect} :
    failure.message = (needsRepair d).message ↔ failure = needsRepair d := by
  refine ⟨fun h => ?_, fun h => h ▸ rfl⟩
  by_cases hrepair : ∃ d', failure = needsRepair d'
  · obtain ⟨d', rfl⟩ := hrepair
    rw [needsRepair_message_injective h]
  · obtain ⟨c, hc, hfirst⟩ := failure.first_message (not_exists.1 hrepair)
    have hname : ∃ c' ∈ ['s', 'f'], (needsRepair d).message.toList.head? = some c' := by
      cases d
      · exact ⟨'s', by decide, by decide⟩
      · exact ⟨'f', by decide, by decide⟩
    obtain ⟨c', hc', hfirst'⟩ := hname
    rw [h, hfirst', Option.some.injEq] at hfirst
    subst hfirst
    simp only [List.mem_cons, List.not_mem_nil, or_false] at hc hc'
    rcases hc' with rfl | rfl <;> exact absurd hc (by decide)

/-! ### Runs -/

/-- What a check tells: whether the source is in order, or that it needs repair. -/
structure Outcome.IsVerdict (context : Context) (c : RepairCommand) (o : Outcome) : Prop where
  leavesNothing : o.LeavesNothing context.workspace
  inOrder_iff : o.status = 0 ↔ ∃ source, (Command.repair c).Makes context source source
  needsRepair_iff : ∀ d, o.messages = ["Error: " ++ (Failure.needsRepair d).message] ↔
    ∃ source text, (Command.repair c).Makes context source text ∧ text ≠ source ∧
      c.dialectOf source = d

/-- What any other run does: it succeeds if its command makes a text and can deliver it, and then
the text is delivered. -/
structure Outcome.IsDelivery (context : Context) (command : Command) (o : Outcome) : Prop where
  done_iff : o.status = 0 ↔
    (∃ source text, command.Makes context source text) ∧ command.CanDeliver context.workspace
  delivered : o.status = 0 → ∃ source text, command.Makes context source text ∧
    o.Delivers context.workspace text command.target?

theorem Failure.messages_outcome_iff {d : Dialect} :
    (failure.outcome []).messages = ["Error: " ++ (needsRepair d).message] ↔
      failure = needsRepair d := by
  rw [outcome, List.nil_append, List.singleton_inj, String.append_right_inj,
    message_eq_needsRepair_iff]

namespace Command

theorem run_of_ok (h : command.product context = .ok p) :
    command.run context = p.deliver context.workspace := by
  rw [run, h]

theorem run_of_error (h : command.product context = .error failure) :
    command.run context = failure.outcome [] := by
  rw [run, h]

/-- A run succeeds, or it fails and leaves nothing behind. -/
theorem run_spec (command : Command) (context : Context) :
    (command.run context).status = 0 ∨
      (command.run context).status = 1 ∧ (command.run context).LeavesNothing context.workspace := by
  cases hproduct : command.product context with
  | error failure =>
    rw [run_of_error hproduct]
    exact .inr ⟨rfl, failure.leavesNothing_outcome []⟩
  | ok p =>
    rw [run_of_ok hproduct]
    cases htext : p.text with
    | none =>
      rw [Product.deliver_of_text_eq_none htext]
      exact .inl rfl
    | some text =>
      obtain ⟨hstatus, -⟩ | ⟨hstatus, hnothing, -⟩ := Product.deliver_spec htext
      · exact .inl hstatus
      · exact .inr ⟨hstatus, hnothing⟩

theorem isVerdict_run {c : RepairCommand} (hcheck : c.check = true) :
    ((repair c).run context).IsVerdict context c := by
  -- there is only one text to compare with its source, so a check that passes cannot also complain
  by_cases h : ∃ source text, (repair c).Makes context source text
  · obtain ⟨source, text, hmakes⟩ := h
    have hproduct : (repair c).product context = _ := repair_product_of_makes hmakes
    rw [if_pos hcheck] at hproduct
    by_cases hsame : text = source
    · subst hsame
      rw [if_pos rfl] at hproduct
      rw [run_of_ok hproduct]
      refine ⟨⟨rfl, rfl⟩, iff_of_true rfl ⟨text, hmakes⟩, fun d => ?_⟩
      refine iff_of_false (by simp [Product.deliver]) ?_
      rintro ⟨source', text', hmakes', hne, -⟩
      obtain ⟨rfl, rfl⟩ := hmakes.unique hmakes'
      exact hne rfl
    · rw [if_neg hsame] at hproduct
      rw [run_of_error hproduct]
      refine ⟨Failure.leavesNothing_outcome _ _, iff_of_false Nat.one_ne_zero ?_, fun d => ?_⟩
      · rintro ⟨source', hmakes'⟩
        obtain ⟨rfl, rfl⟩ := hmakes.unique hmakes'
        exact hsame rfl
      · rw [Failure.messages_outcome_iff, Failure.needsRepair.injEq]
        refine ⟨fun hd => ⟨source, text, hmakes, hsame, hd⟩, ?_⟩
        rintro ⟨source', text', hmakes', -, hd⟩
        obtain ⟨rfl, rfl⟩ := hmakes.unique hmakes'
        exact hd
  · obtain ⟨failure, hproduct, hfailure⟩ := (makes_or_fails context rfl).resolve_left h
    rw [run_of_error hproduct]
    refine ⟨Failure.leavesNothing_outcome _ _, iff_of_false Nat.one_ne_zero ?_, fun d => ?_⟩
    · rintro ⟨source, hmakes⟩
      exact h ⟨source, source, hmakes⟩
    · rw [Failure.messages_outcome_iff]
      refine iff_of_false (hfailure d) ?_
      rintro ⟨source, text, hmakes, -⟩
      exact h ⟨source, text, hmakes⟩

theorem isDelivery_run (hsource : command.source?.isSome) (hcheck : command.checks = false) :
    (command.run context).IsDelivery context command := by
  by_cases h : ∃ source text, command.Makes context source text
  · obtain ⟨source, text, hmakes⟩ := h
    obtain ⟨p, hproduct, htext, htarget⟩ := product_of_makes hmakes hcheck
    rw [run_of_ok hproduct]
    obtain ⟨hstatus, hdelivers⟩ | ⟨hstatus, -, path, e, hpath, herror⟩ :=
      p.deliver_spec (w := context.workspace) htext
    · rw [htarget] at hdelivers
      have hcan : command.CanDeliver context.workspace :=
        fun path hpath => hdelivers.exists_location hpath
      exact ⟨iff_of_true hstatus ⟨⟨source, text, hmakes⟩, hcan⟩,
        fun _ => ⟨source, text, hmakes, hdelivers⟩⟩
    · have hfailed : (p.deliver context.workspace).status ≠ 0 := hstatus ▸ Nat.one_ne_zero
      have hcannot : ¬command.CanDeliver context.workspace := by
        intro hcan
        obtain ⟨location, hlocation⟩ := hcan path (htarget ▸ hpath)
        rw [herror] at hlocation
        cases hlocation
      exact ⟨iff_of_false hfailed fun hdone => hcannot hdone.2, fun hzero => absurd hzero hfailed⟩
  · obtain ⟨failure, hproduct, -⟩ := (makes_or_fails context hsource).resolve_left h
    rw [run_of_error hproduct]
    exact ⟨iff_of_false Nat.one_ne_zero fun hdone => h hdone.1,
      fun hzero => absurd hzero Nat.one_ne_zero⟩

end Command

/-- **No command line leaves half a result.** A run of a command that reads a source succeeds, or it
fails and leaves nothing behind but its messages. A check leaves nothing behind in any case, and
tells by its status and its message whether the text that it makes is its source. Any other run
succeeds exactly if there is a text and a place for it, and then the whole text is in the file that
the option for the output names, or else on the standard output, and nothing else has changed. -/
theorem runArguments_whole_or_nothing {context : Context} {arguments : List String}
    {command : Command}
    (haccepted : Command.ofArguments? context.workspace.environment arguments = some command)
    (hsource : command.source?.isSome) :
    (∃ a : Arguments, a.StandIn arguments ∧ command.IsGivenBy a) ∧
      let o := runArguments context arguments
      (o.status = 0 ∨ o.status = 1 ∧ o.LeavesNothing context.workspace) ∧
        (∀ c, command = .repair c → c.check = true → o.IsVerdict context c) ∧
        (command.checks = false → o.IsDelivery context command) := by
  have hrun : runArguments context arguments = command.run context := by
    rw [runArguments, haccepted]
  refine ⟨exists_standIn_of_ofArguments? hsource haccepted, ?_⟩
  rw [hrun]
  refine ⟨command.run_spec context, ?_, Command.isDelivery_run hsource⟩
  rintro c rfl hcheck
  exact Command.isVerdict_run hcheck

/-- A flowchart that needs repair, in the working directory. -/
def flowContext : Context :=
  ⟨⟨⟨[(["a.mmd", "docs"], .file (bytes "flowchart\nA[x (y)]"))]⟩, ["docs"], []⟩, []⟩

def flowCommand (target : Option String) (check : Bool) : RepairCommand :=
  ⟨.file "a.mmd", target, none, check, none⟩

theorem runArguments_whole_or_nothing_flow :
    (∃ source text,
      (Command.repair (flowCommand (some "b.mmd") false)).Makes flowContext source text ∧
      (runArguments flowContext ["repair", "-o", "b.mmd", "a.mmd"]).Delivers flowContext.workspace
        text (some "b.mmd")) ∧
    (runArguments flowContext ["repair", "-o", "c/b.mmd", "a.mmd"]).status = 1 ∧
    (runArguments flowContext ["repair", "-o", "c/b.mmd", "a.mmd"]).LeavesNothing
      flowContext.workspace ∧
    (∃ source text, (Command.repair (flowCommand none true)).Makes flowContext source text ∧
      text ≠ source) ∧
    (runArguments flowContext ["repair", "--check", "a.mmd"]).LeavesNothing
      flowContext.workspace := by
  have hwrites : Command.ofArguments? flowContext.workspace.environment
      ["repair", "-o", "b.mmd", "a.mmd"] =
        some (.repair (flowCommand (some "b.mmd") false)) := by decide +kernel
  have hfails : Command.ofArguments? flowContext.workspace.environment
      ["repair", "-o", "c/b.mmd", "a.mmd"] =
        some (.repair (flowCommand (some "c/b.mmd") false)) := by decide +kernel
  have hchecks : Command.ofArguments? flowContext.workspace.environment
      ["repair", "--check", "a.mmd"] =
        some (.repair (flowCommand none true)) := by decide +kernel
  have hstatus : (runArguments flowContext ["repair", "-o", "c/b.mmd", "a.mmd"]).status = 1 := by
    decide +kernel
  obtain ⟨-, -, -, hdelivery⟩ := runArguments_whole_or_nothing hwrites rfl
  obtain ⟨-, hnothing, -⟩ := runArguments_whole_or_nothing hfails rfl
  obtain ⟨-, -, hverdict, -⟩ := runArguments_whole_or_nothing hchecks rfl
  have hcheck := hverdict _ rfl rfl
  obtain ⟨source, text, hmakes, hne, -⟩ := (hcheck.needsRepair_iff .flow).1 (by decide +kernel)
  refine ⟨(hdelivery rfl).delivered (by decide +kernel), hstatus, ?_, ⟨source, text, hmakes, hne⟩,
    hcheck.leavesNothing⟩
  obtain hzero | ⟨-, hnothing⟩ := hnothing
  · rw [hstatus] at hzero
    cases hzero
  · exact hnothing

end DiagramDoc.Cli
