import DiagramDoc.Cli.Command
import Mathlib.Data.List.Basic

/-! # Commands and their options

Behind its name a command is given only options that it has. So what an accepted command line asks
for is what its options say: the file that the option for the output names is the target, and
without that option there is none.
-/

namespace DiagramDoc.Cli

variable {forms : List OptionForm} {form : OptionForm} {a a' : Arguments} {value : String}

namespace Arguments

def AreOf (forms : List OptionForm) (a : Arguments) : Prop :=
  ∀ option ∈ a.options, ∃ form ∈ forms, form.name = option.1

theorem areOf_empty (forms : List OptionForm) : empty.AreOf forms :=
  fun _ hoption => absurd hoption List.not_mem_nil

theorem AreOf.give (h : a.AreOf forms) (hform : form ∈ forms)
    (hgive : a.give? form value = some a') : a'.AreOf forms := by
  rw [give?] at hgive
  split at hgive
  · cases hgive
    intro option hoption
    rcases List.mem_append.1 hoption with hold | hnew
    · exact h option hold
    · rw [List.mem_singleton.1 hnew]
      exact ⟨form, hform, rfl⟩
  · cases hgive

theorem AreOf.addOperand {operand : String} (h : a.AreOf forms)
    (hadd : a.addOperand? operand = some a') : a'.AreOf forms := by
  rw [addOperand?] at hadd
  split at hadd
  · cases hadd
    exact h
  · cases hadd

theorem AreOf.addOperands {operands : List String} (h : a.AreOf forms)
    (hadd : operands.foldlM addOperand? a = some a') : a'.AreOf forms := by
  induction operands generalizing a with
  | nil =>
    cases hadd
    exact h
  | cons operand operands ih =>
    obtain ⟨b, hfirst, hrest⟩ := Option.bind_eq_some_iff.1 hadd
    exact ih (h.addOperand hfirst) hrest

variable {open? : Option OptionForm}

/-- The option that still needs a value is one of the command's too. -/
def Reads (forms : List OptionForm) (read : Arguments × Option OptionForm) : Prop :=
  read.1.AreOf forms ∧ ∀ form, read.2 = some form → form ∈ forms

theorem AreOf.give_map {read : Arguments × Option OptionForm} (h : a.AreOf forms)
    (hform : form ∈ forms) (hgive : (a.give? form value).map (·, none) = some read) :
    Reads forms read := by
  obtain ⟨b, hb, rfl⟩ := Option.map_eq_some_iff.1 hgive
  exact ⟨h.give hform hb, fun _ hopen => nomatch hopen⟩

theorem AreOf.readLong {name : String} {value : Option String}
    {read : Arguments × Option OptionForm} (h : a.AreOf forms)
    (hread : readLong? forms a name value = some read) : Reads forms read := by
  rw [readLong?] at hread
  cases hfind : forms.find? (·.name = name) with
  | none => simp [hfind] at hread
  | some form =>
    have hform := List.mem_of_find?_eq_some hfind
    simp only [hfind] at hread
    split at hread
    · exact h.give_map hform hread
    · cases hread
      exact ⟨h, fun _ hopen => Option.some.inj hopen ▸ hform⟩
    · exact h.give_map hform hread
    · cases hread

theorem AreOf.readLetters {letters : List Char} {read : Arguments × Option OptionForm}
    (h : a.AreOf forms) (hread : readLetters? forms a letters = some read) : Reads forms read := by
  induction letters generalizing a with
  | nil =>
    cases hread
    exact ⟨h, fun _ hopen => nomatch hopen⟩
  | cons c cs ih =>
    rw [readLetters?] at hread
    cases hfind : forms.find? (·.letter = some c) with
    | none => simp [hfind] at hread
    | some form =>
      have hform := List.mem_of_find?_eq_some hfind
      simp only [hfind] at hread
      split at hread
      · cases hread
        exact ⟨h, fun _ hopen => Option.some.inj hopen ▸ hform⟩
      · exact h.give_map hform hread
      · exact h.give_map hform hread
      · cases hgive : a.give? form "" with
        | none => simp [hgive] at hread
        | some b =>
          have hb := h.give hform hgive
          simp only [hgive] at hread
          split at hread
          · cases hread
            exact ⟨hb, fun _ hopen => nomatch hopen⟩
          · exact ih hb hread

theorem mem_of_none_eq_some (forms : List OptionForm) :
    ∀ form, (none : Option OptionForm) = some form → form ∈ forms :=
  fun _ hopen => nomatch hopen

theorem AreOf.sort {open? : Option OptionForm} {arguments : List String} (h : a.AreOf forms)
    (hopen : ∀ form, open? = some form → form ∈ forms)
    (hsort : sortArguments? forms a open? arguments = some a') : a'.AreOf forms := by
  induction arguments generalizing a open? with
  | nil =>
    rw [sortArguments?.eq_def] at hsort
    simp only at hsort
    split at hsort
    · cases hsort
    · cases hsort
      exact h
  | cons argument rest ih =>
    have hnone := mem_of_none_eq_some forms
    rw [sortArguments?.eq_def] at hsort
    simp only at hsort
    split at hsort
    · cases hsort
      exact h
    · split at hsort
      · obtain ⟨b, hgive, hrest⟩ := Option.bind_eq_some_iff.1 hsort
        exact ih (h.give (hopen _ rfl) hgive) hnone hrest
      · cases hsort
      · obtain ⟨b, hadd, hrest⟩ := Option.bind_eq_some_iff.1 hsort
        exact ih (h.addOperand hadd) hnone hrest
      · exact h.addOperands hsort
      · obtain ⟨read, hread, hrest⟩ := Option.bind_eq_some_iff.1 hsort
        obtain ⟨hb, hopen⟩ := h.readLong hread
        exact ih hb hopen hrest
      · obtain ⟨read, hread, hrest⟩ := Option.bind_eq_some_iff.1 hsort
        obtain ⟨hb, hopen⟩ := h.readLetters hread
        exact ih hb hopen hrest

/-- **Only the options of a command are given to it.** -/
theorem areOf_of_sort {arguments : List String}
    (hsort : sortArguments? forms .empty none arguments = some a) : a.AreOf forms :=
  (areOf_empty forms).sort (mem_of_none_eq_some forms) hsort

variable {name : String}

theorem AreOf.has_eq_false (h : a.AreOf forms) (hname : ∀ form ∈ forms, form.name ≠ name) :
    a.has name = false := by
  rw [has, List.any_eq_false]
  intro option hoption
  obtain ⟨form, hform, heq⟩ := h option hoption
  simpa [← heq] using hname form hform

theorem AreOf.value?_eq_none (h : a.AreOf forms) (hname : ∀ form ∈ forms, form.name ≠ name) :
    a.value? name = none := by
  rw [value?, Option.map_eq_none_iff, List.find?_eq_none]
  intro option hoption
  obtain ⟨form, hform, heq⟩ := h option hoption
  simpa [← heq] using hname form hform

end Arguments

/-! ### Command lines -/

def formsOf : String → List OptionForm
  | "render" => renderForms
  | "repair" => repairForms
  | "classify" => commonForms
  | "encode" => encodeForms
  | _ => []

/-- What stands behind the name of a command on a command line, sorted by the options of the
command. The name is the first argument that does not look like an option. -/
def Arguments.StandIn (a : Arguments) (line : List String) : Prop :=
  ∃ front name rest, line = front ++ name :: rest ∧
    (∀ argument ∈ front, ArgumentKind.of argument ≠ .plain) ∧ ArgumentKind.of name = .plain ∧
      sortArguments? (formsOf name) .empty none rest = some a

theorem Arguments.StandIn.cons {line : List String} {argument : String} (h : a.StandIn line)
    (hargument : ArgumentKind.of argument ≠ .plain) : a.StandIn (argument :: line) := by
  obtain ⟨front, name, rest, rfl, hfront, hgiven⟩ := h
  exact ⟨argument :: front, name, rest, rfl, List.forall_mem_cons.2 ⟨hargument, hfront⟩, hgiven⟩

def Command.checks : Command → Bool
  | repair c => c.check
  | _ => false

theorem Arguments.StandIn.unique {line : List String} (h : a.StandIn line) (h' : a'.StandIn line) :
    a = a' := by
  obtain ⟨front, name, rest, hline, hfront, hname, hsort⟩ := h
  obtain ⟨front', name', rest', hline', hfront', hname', hsort'⟩ := h'
  have hcut {front rest : List String} {name : String} (hline : line = front ++ name :: rest)
      (hfront : ∀ argument ∈ front, ArgumentKind.of argument ≠ .plain)
      (hname : ArgumentKind.of name = .plain) :
      line.dropWhile (ArgumentKind.of · ≠ .plain) = name :: rest := by
    rw [hline, List.dropWhile_append_of_pos (by simpa using hfront),
      List.dropWhile_cons_of_neg (by simpa using hname)]
  have hsame := (hcut hline hfront hname).symm.trans (hcut hline' hfront' hname')
  obtain ⟨rfl, rfl⟩ := List.cons.inj hsame
  rw [hsort] at hsort'
  exact Option.some.inj hsort'

/-- The command does with its source and its text what the arguments behind its name say. -/
structure Command.IsGivenBy (command : Command) (a : Arguments) : Prop where
  source : command.source? = some a.source
  target : command.target? = a.value? outputForm.name
  checks : command.checks = a.has "check"

def Command.ownForms : Command → List OptionForm
  | render _ => renderForms
  | repair _ => repairForms
  | classify _ => commonForms
  | encode _ => encodeForms
  | version | help => []

/-- The command of the same name that is made of arguments. -/
def Command.made? (environment : Environment) (a : Arguments) : Command → Option Command
  | render _ => renderCommand? environment a
  | repair _ => repairCommand? a
  | classify _ => some (.classify a.source)
  | encode _ => encodeCommand? environment a
  | version | help => none

structure Command.IsMadeOf (environment : Environment) (command : Command) (a : Arguments) :
    Prop where
  areOf : a.AreOf command.ownForms
  made : command.made? environment a = some command

variable {environment : Environment} {command : Command}

theorem isMadeOf_render (ha : a.AreOf renderForms)
    (h : renderCommand? environment a = some command) : command.IsMadeOf environment a := by
  obtain ⟨overrides, -, hcommand⟩ := Option.bind_eq_some_iff.1 h
  cases hcommand
  exact ⟨ha, h⟩

theorem isMadeOf_repair (ha : a.AreOf repairForms) (h : repairCommand? a = some command) :
    command.IsMadeOf environment a := by
  obtain ⟨dialect, -, hcommand⟩ := Option.bind_eq_some_iff.1 h
  cases hcommand
  exact ⟨ha, h⟩

theorem isMadeOf_encode (ha : a.AreOf encodeForms)
    (h : encodeCommand? environment a = some command) : command.IsMadeOf environment a := by
  obtain ⟨overrides, -, hcommand⟩ := Option.bind_eq_some_iff.1 h
  cases hcommand
  exact ⟨ha, h⟩

theorem Command.IsMadeOf.isGivenBy (h : command.IsMadeOf environment a) : command.IsGivenBy a := by
  obtain ⟨ha, hmade⟩ := h
  cases command with
  | version | help => cases hmade
  | render d =>
    replace ha : a.AreOf renderForms := ha
    obtain ⟨overrides, -, hcommand⟩ := Option.bind_eq_some_iff.1 hmade
    cases hcommand
    exact ⟨rfl, rfl, (ha.has_eq_false (by decide)).symm⟩
  | repair c =>
    obtain ⟨dialect, -, hcommand⟩ := Option.bind_eq_some_iff.1 hmade
    cases hcommand
    exact ⟨rfl, rfl, rfl⟩
  | classify source =>
    replace ha : a.AreOf commonForms := ha
    cases hmade
    exact ⟨rfl, (ha.value?_eq_none (by decide)).symm, (ha.has_eq_false (by decide)).symm⟩
  | encode c =>
    replace ha : a.AreOf encodeForms := ha
    obtain ⟨overrides, -, hcommand⟩ := Option.bind_eq_some_iff.1 hmade
    cases hcommand
    exact ⟨rfl, (ha.value?_eq_none (by decide)).symm, (ha.has_eq_false (by decide)).symm⟩

variable {arguments : List String}

/-- A command line that does not ask for help is one of which the command is made. -/
theorem exists_sorted {make : Arguments → Option Command} (hsource : command.source?.isSome)
    (h : ((sortArguments? forms .empty none arguments).bind fun a =>
      if a.asksForHelp then some .help else make a) = some command) :
    ∃ a, sortArguments? forms .empty none arguments = some a ∧ a.AreOf forms ∧
      make a = some command := by
  obtain ⟨a, hsort, hmake⟩ := Option.bind_eq_some_iff.1 h
  refine ⟨a, hsort, Arguments.areOf_of_sort hsort, ?_⟩
  split at hmake
  · cases hmake
    cases hsource
  · exact hmake

theorem isMadeOf_of_namedCommand? {name : String} (hsource : command.source?.isSome)
    (h : namedCommand? environment name arguments = some command) :
    ∃ a, sortArguments? (formsOf name) .empty none arguments = some a ∧
      command.IsMadeOf environment a := by
  unfold namedCommand? at h
  split at h
  · obtain ⟨a, hsort, ha, hmake⟩ := exists_sorted hsource h
    exact ⟨a, hsort, isMadeOf_render ha hmake⟩
  · obtain ⟨a, hsort, ha, hmake⟩ := exists_sorted hsource h
    exact ⟨a, hsort, isMadeOf_repair ha hmake⟩
  · obtain ⟨a, hsort, ha, hmake⟩ := exists_sorted hsource h
    cases hmake
    exact ⟨a, hsort, ha, rfl⟩
  · obtain ⟨a, hsort, ha, hmake⟩ := exists_sorted hsource h
    exact ⟨a, hsort, isMadeOf_encode ha hmake⟩
  · split at h
    · cases h
      cases hsource
    · cases h
  · cases h

theorem source?_of_leadingLetters? {verbose : Bool} {letters : List Char}
    (h : leadingLetters? verbose letters = some (.inl command)) : command.source? = none := by
  fun_induction leadingLetters? verbose letters with
  | case1 => cases h
  | case2 => cases h; rfl
  | case3 => cases h; rfl
  | case4 => cases h
  | case5 _ _ _ ih => exact ih h
  | case6 => cases h

theorem exists_standIn_of_commandFrom? {verbose : Bool} (hsource : command.source?.isSome)
    (h : commandFrom? environment verbose arguments = some command) :
    ∃ a, a.StandIn arguments ∧ command.IsMadeOf environment a := by
  induction arguments generalizing verbose with
  | nil => cases h
  | cons argument rest ih =>
    -- an option in front of the name asks for something else, or the rest names the command
    have hrest (verbose : Bool) (hargument : ArgumentKind.of argument ≠ .plain)
        (h : commandFrom? environment verbose rest = some command) :
        ∃ a, a.StandIn (argument :: rest) ∧ command.IsMadeOf environment a := by
      obtain ⟨a, ha, hmade⟩ := ih h
      exact ⟨a, ha.cons hargument, hmade⟩
    rw [commandFrom?.eq_def] at h
    cases hkind : ArgumentKind.of argument with
    | endOfOptions => simp [hkind] at h
    | plain =>
      simp only [hkind] at h
      obtain ⟨a, hsort, hmade⟩ := isMadeOf_of_namedCommand? hsource h
      exact ⟨a, ⟨[], argument, rest, rfl, fun _ hmem => absurd hmem List.not_mem_nil, hkind, hsort⟩,
        hmade⟩
    | long name value =>
      cases value with
      | some value => simp [hkind] at h
      | none =>
        simp only [hkind] at h
        split at h
        · cases h
          cases hsource
        · split at h
          · cases h
            cases hsource
          · split at h
            · exact hrest true (by simp [hkind]) h
            · cases h
    | letters letters =>
      simp only [hkind] at h
      split at h
      · next asked hletters =>
        cases h
        rw [source?_of_leadingLetters? hletters] at hsource
        cases hsource
      · next still hletters => exact hrest still (by simp [hkind]) h
      · cases h

theorem isMadeOf_of_standIn (hsource : command.source?.isSome)
    (h : Command.ofArguments? environment arguments = some command) (ha : a.StandIn arguments) :
    command.IsMadeOf environment a := by
  obtain ⟨a', ha', hmade⟩ := exists_standIn_of_commandFrom? hsource h
  rwa [ha.unique ha']

/-- **A command that reads a source is the one that its arguments give.** -/
theorem exists_standIn_of_ofArguments? (hsource : command.source?.isSome)
    (h : Command.ofArguments? environment arguments = some command) :
    ∃ a, a.StandIn arguments ∧ command.IsGivenBy a := by
  obtain ⟨a, ha, hmade⟩ := exists_standIn_of_commandFrom? hsource h
  exact ⟨a, ha, hmade.isGivenBy⟩

end DiagramDoc.Cli
