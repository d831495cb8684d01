import DiagramDoc.Proofs.Diagram.Sequence.Rewriting

/-! # Participants and the messages that name them

A participant is named where it is declared, with an alias or without one, and in each message that
it sends or receives. The readers here find the names by what separates them: the first arrow, a
sign, a colon. They allow any name on the other side of the arrow. The passes are narrower: only a
declaration with an alias is renamed, and a receiver only behind a sender of one word.
-/

namespace DiagramDoc.Sequence

open Text Unicode

/-! ### Readers -/

/-- A declared participant, and whether the diagram shows it under an alias. -/
structure Declared where
  name : List Char
  aliased : Bool
  deriving DecidableEq, Repr

def showsAlias (rest : List Char) : Bool :=
  match takeGap? rest with
  | some (_, cs) => (dropAs? cs).any fun cs => (takeGap? cs).isSome
  | none => false

def declaredName? (line : List Char) : Option (List Char × List Char) := do
  let (_, cs) := takeBlanks line
  let cs ← dropOneOf? ["participant", "actor"] cs
  let (_, cs) ← takeGap? cs
  takeName? cs

/-- Reads a declaration. Behind the name stands an alias or nothing. -/
def Declared.parse? (line : List Char) : Option Declared := do
  let (name, rest) ← declaredName? line
  if showsAlias rest then some ⟨name, true⟩
  else if rest.all Body.isTrail then some ⟨name, false⟩
  else none

/-- The names on both sides of a message. -/
structure Exchange where
  sender : List Char
  receiver : List Char
  deriving DecidableEq, Repr

def stripBlanks (cs : List Char) : List Char := dropEndWhile isBlank (cs.dropWhile isBlank)

/-- What stands in front of the first arrow, and what stands behind it. -/
def cutAtArrow? : List Char → Option (List Char × List Char)
  | [] => none
  | c :: cs =>
    match takeArrow? (c :: cs) with
    | some (_, rest) => some ([], rest)
    | none => (cutAtArrow? cs).map fun (front, rest) => (c :: front, rest)

/-- The name behind an arrow and a sign, up to the colon. -/
def receiver? (rest : List Char) : Option (List Char) :=
  let (_, cs) := takeBlanks rest
  let (_, cs) := takeSign cs
  let name := cs.takeWhile (· ≠ ':')
  if ':' ∈ cs ∧ cutAtArrow? name = none then some (stripBlanks name) else none

/-- Reads a message. A name may be anything without a colon, a line break or an arrow. -/
def Exchange.parse? (line : List Char) : Option Exchange := do
  let (front, rest) ← cutAtArrow? line
  let receiver ← receiver? rest
  if ':' ∈ front then none else some ⟨stripBlanks front, receiver⟩

example : Exchange.parse? "  My Service -->>+ end : hi (1)".toList =
    some ⟨"My Service".toList, "end".toList⟩ := by decide +kernel

/-! ### Declarations -/

def IsDeclarationHead (head : List Char) : Prop :=
  ∃ indent keyword gap, head = indent ++ keyword ++ gap ∧ IsBlanks indent ∧
    (∃ k ∈ ["participant", "actor"], asciiLower keyword = k.toList) ∧ IsGap gap

theorem showsAlias_iff {rest : List Char} : showsAlias rest = true ↔ HasAlias rest := by
  rw [showsAlias]
  constructor
  · intro h
    split at h
    · next gap cs hgap =>
      obtain ⟨after, hafter, hspace⟩ := (Option.any_eq_true _ _).1 h
      exact ⟨gap, cs, after, hgap, hafter, hspace⟩
    · cases h
  · rintro ⟨gap, cs, after, hgap, hafter, hspace⟩
    rw [hgap]
    simp [hafter, hspace]

theorem declaredName?_eq_some_iff {line name rest : List Char} :
    declaredName? line = some (name, rest) ↔
      ∃ head, line = head ++ name ++ rest ∧ IsDeclarationHead head ∧ IsName name ∧
        Stops isWord rest := by
  rw [declaredName?]
  constructor
  · intro h
    obtain ⟨indent, afterIndent, hindent⟩ : ∃ a b, takeBlanks line = (a, b) := ⟨_, _, rfl⟩
    rw [hindent] at h
    obtain ⟨afterKeyword, hkeyword, hmore⟩ := Option.bind_eq_some_iff.1 h
    obtain ⟨⟨gap, afterGap⟩, hgap, hname⟩ := Option.bind_eq_some_iff.1 hmore
    obtain ⟨rfl, hblanks, -⟩ := takeBlanks_eq_iff.1 hindent
    obtain ⟨keyword, rfl, hk⟩ := dropDeclarationKeyword_eq_some_iff.1 hkeyword
    obtain ⟨rfl, hgap', -⟩ := takeGap?_eq_some_iff.1 hgap
    obtain ⟨rfl, hname', hstops⟩ := takeName?_eq_some_iff.1 hname
    exact ⟨indent ++ keyword ++ gap, by simp, ⟨indent, keyword, gap, rfl, hblanks, hk, hgap'⟩,
      hname', hstops⟩
  · rintro ⟨head, rfl, ⟨indent, keyword, gap, rfl, hindent, hkeyword, hgap⟩, hname, hstops⟩
    have hword : IsName keyword := isName_of_mem_keywords (by decide) hkeyword
    have htoKeyword := takeBlanks_eq_iff.2 ⟨rfl, hindent,
      hword.stops_isBlank (gap ++ (name ++ rest))⟩
    have htoGap : dropOneOf? ["participant", "actor"] (keyword ++ (gap ++ (name ++ rest))) =
        some (gap ++ (name ++ rest)) :=
      dropDeclarationKeyword_eq_some_iff.2 ⟨keyword, rfl, hkeyword⟩
    have htoName := takeGap?_eq_some_iff.2 ⟨rfl, hgap, hname.stops_isBlank rest⟩
    have htoRest := takeName?_eq_some_iff.2 ⟨rfl, hname, hstops⟩
    simp only [List.append_assoc, htoKeyword, htoGap, htoName, htoRest, Option.bind_eq_bind,
      Option.bind_some]

theorem IsDeclarationHead.isWord_or_isBlank {head : List Char} (h : IsDeclarationHead head)
    {c : Char} (hc : c ∈ head) : isWord c = true ∨ isBlank c = true := by
  obtain ⟨indent, keyword, gap, rfl, hindent, hkeyword, hgap⟩ := h
  have hword : IsName keyword := isName_of_mem_keywords (by decide) hkeyword
  rcases List.mem_append.1 hc with hc | hc
  · rcases List.mem_append.1 hc with hc | hc
    · exact Or.inr (hindent c hc)
    · exact Or.inl (hword.2 c hc)
  · exact Or.inr (hgap.2 c hc)

theorem Declared.exists_pieces {line : List Char} {d : Declared}
    (h : Declared.parse? line = some d) :
    ∃ head rest, line = head ++ d.name ++ rest ∧ IsDeclarationHead head ∧ IsName d.name ∧
      Stops isWord rest ∧ showsAlias rest = d.aliased ∧
      (d.aliased = false → ∀ c ∈ rest, Body.isTrail c = true) := by
  obtain ⟨⟨name, rest⟩, hread, hend⟩ := Option.bind_eq_some_iff.1 h
  obtain ⟨head, rfl, hhead, hname, hstops⟩ := declaredName?_eq_some_iff.1 hread
  refine ⟨head, rest, ?_⟩
  dsimp only at hend
  split at hend
  · next halias =>
    obtain rfl := Option.some.inj hend
    exact ⟨rfl, hhead, hname, hstops, halias, by simp⟩
  · next halias =>
    split at hend
    · next htrail =>
      obtain rfl := Option.some.inj hend
      exact ⟨rfl, hhead, hname, hstops, by simpa using halias, fun _ => List.all_eq_true.1 htrail⟩
    · cases hend

theorem Declaration.IsShape.declared {d : Declaration} (h : d.IsShape) :
    Declared.parse? d.text = some ⟨d.name, true⟩ := by
  have hname : declaredName? d.text = some (d.name, d.displayed) :=
    declaredName?_eq_some_iff.2 ⟨d.head, rfl, h.head, h.name, h.stops⟩
  rw [Declared.parse?, hname]
  exact if_pos (showsAlias_iff.2 h.hasAlias)

theorem opening_parse?_declared {head name : List Char} (hhead : IsDeclarationHead head)
    (hname : IsName name) (rest : List Char) : Opening.parse? (head ++ name ++ rest) = none := by
  obtain ⟨indent, keyword, gap, rfl, hindent, hkeyword, hgap⟩ := hhead
  have hword : IsName keyword := isName_of_mem_keywords (by decide) hkeyword
  simp only [List.append_assoc]
  exact Opening.parse?_words rest hindent hword hgap hname

/-- A declaration without an alias is a line of no other kind. -/
theorem Line.eq_other_of_declared {l : Line} (hl : l.IsShape) {d : Declared}
    (h : Declared.parse? l.text = some d) (hbare : d.aliased = false) :
    ∃ chars, l = .other chars := by
  obtain ⟨head, rest, htext, hhead, hname, -, -, htrail⟩ := Declared.exists_pieces h
  have hopening : l.opening? = none := by
    rw [← Line.opening_parse? hl, htext]
    exact opening_parse?_declared hhead hname rest
  cases l with
  | declaration d' =>
    rw [Line.text, Declaration.IsShape.declared hl] at h
    obtain rfl := Option.some.inj h
    cases hbare
  | message m => cases hopening
  | opening o => cases hopening
  | note n =>
    -- a note has a colon
    obtain ⟨indent, keyword, gap, side, place, hnote, -⟩ := hl.head
    have hcolon : ':' ∈ n.text := by simp [Note.text, hnote]
    rw [show n.text = _ from htext, List.mem_append, List.mem_append] at hcolon
    rcases hcolon with (hcolon | hcolon) | hcolon
    · exact absurd (hhead.isWord_or_isBlank hcolon) (by decide)
    · exact absurd (hname.2 _ hcolon) (by decide)
    · exact absurd (htrail hbare _ hcolon) (by decide)
  | other chars => exact ⟨chars, rfl⟩

/-- The name is renamed if it has an alias, and kept if not. -/
structure Declared.IsRenamed (reserved : ReservedWords) (d d' : Declared) : Prop where
  name : IsName d.name
  aliased : d.aliased = true → d'.name = rename reserved d.name
  kept : d.aliased = false → d'.name = d.name

theorem Declared.exists_parse?_repairLine (reserved : ReservedWords) {line : List Char}
    {d : Declared} (h : Declared.parse? line = some d) :
    ∃ d', Declared.parse? (repairLine reserved line) = some d' ∧ d.IsRenamed reserved d' := by
  obtain ⟨head, rest, hline, hhead, hname, hstops, hshows, -⟩ := Declared.exists_pieces h
  cases halias : d.aliased with
  | true =>
    have hshape : Declaration.IsShape ⟨head, d.name, rest⟩ :=
      ⟨hhead, hname, hstops, showsAlias_iff.1 (hshows.trans halias)⟩
    have hrepaired : repairLine reserved line =
        Declaration.text ⟨head, rename reserved d.name, rest⟩ := by
      rw [hline]
      exact repairLine_text reserved (l := .declaration ⟨head, d.name, rest⟩) hshape
    have hshape' : Declaration.IsShape ⟨head, rename reserved d.name, rest⟩ :=
      Line.IsShape.repair reserved (l := .declaration ⟨head, d.name, rest⟩) hshape
    refine ⟨⟨rename reserved d.name, true⟩, ?_, hname, fun _ => rfl,
      fun hbare => absurd (halias.symm.trans hbare) (by decide)⟩
    rw [hrepaired]
    exact hshape'.declared
  | false =>
    obtain ⟨l, rfl, hl⟩ := Line.exists_isShape line
    obtain ⟨chars, rfl⟩ := Line.eq_other_of_declared hl h halias
    rw [repairLine_text reserved hl]
    exact ⟨d, h, hname, fun haliased => absurd (halias.symm.trans haliased) (by decide),
      fun _ => rfl⟩

/-! ### Arrows -/

theorem cutAtArrow?_of_takeArrow? {cs arrow rest : List Char}
    (h : takeArrow? cs = some (arrow, rest)) : cutAtArrow? cs = some ([], rest) := by
  cases cs with
  | nil => cases h
  | cons c cs => rw [cutAtArrow?, h]

theorem cutAtArrow?_append {run : List Char} (hrun : ∀ c ∈ run, c ∉ ['<', '-']) (cs : List Char) :
    cutAtArrow? (run ++ cs) = (cutAtArrow? cs).map fun (front, rest) => (run ++ front, rest) := by
  induction run with
  | nil =>
    rw [List.nil_append]
    cases cutAtArrow? cs <;> rfl
  | cons c run ih =>
    obtain ⟨hc, hrun⟩ := List.forall_mem_cons.1 hrun
    rw [List.cons_append, cutAtArrow?, takeArrow?_cons hc, ih hrun]
    cases cutAtArrow? cs <;> rfl

theorem cutAtArrow?_of_forall {run : List Char} (hrun : ∀ c ∈ run, c ∉ ['<', '-']) :
    cutAtArrow? run = none := by
  have hall := cutAtArrow?_append hrun []
  rwa [List.append_nil] at hall

theorem exists_arrow_of_cutAtArrow? {cs front rest : List Char}
    (h : cutAtArrow? cs = some (front, rest)) :
    ∃ arrow, cs = front ++ (arrow ++ rest) ∧ takeArrow? (arrow ++ rest) = some (arrow, rest) := by
  induction cs generalizing front with
  | nil => cases h
  | cons c cs ih =>
    rw [cutAtArrow?] at h
    split at h
    · next arrow after harrow =>
      obtain ⟨rfl, rfl⟩ := Prod.mk.inj (Option.some.inj h)
      have hcs := (takeArrow?_eq_some harrow).1
      exact ⟨arrow, hcs, hcs ▸ harrow⟩
    · obtain ⟨⟨front', rest'⟩, hcut, heq⟩ := Option.map_eq_some_iff.1 h
      obtain ⟨rfl, rfl⟩ := Prod.mk.inj heq
      obtain ⟨arrow, rfl, harrow⟩ := ih hcut
      exact ⟨arrow, rfl, harrow⟩

theorem notMem_arrowHeads_of_isBlank {c : Char} (h : isBlank c = true) : c ∉ ['<', '-'] := by
  rw [List.mem_cons, List.mem_singleton]
  rintro (rfl | rfl) <;> exact absurd h (by decide)

/-! ### Names without the blanks around them -/

theorem stripBlanks_append {lead name trail : List Char} (hlead : IsBlanks lead)
    (hname : IsName name) (htrail : IsBlanks trail) :
    stripBlanks (lead ++ name ++ trail) = name := by
  obtain ⟨init, c, heq⟩ : ∃ init c, name = init ++ [c] :=
    ⟨_, _, (List.dropLast_append_getLast hname.1).symm⟩
  have hlast : isBlank c = false := isBlank_of_isWord (hname.2 c (by simp [heq]))
  rw [stripBlanks, List.append_assoc, dropWhile_append hlead (hname.stops_isBlank trail), heq,
    List.append_assoc, List.singleton_append, dropEndWhile_append init hlast htrail]

theorem exists_stripBlanks_eq (cs : List Char) :
    ∃ lead trail, cs = lead ++ stripBlanks cs ++ trail ∧ IsBlanks lead ∧ IsBlanks trail := by
  refine ⟨cs.takeWhile isBlank, takeEndWhile isBlank (cs.dropWhile isBlank), ?_,
    fun c hc => of_mem_takeWhile hc, fun c hc => of_mem_takeEndWhile hc⟩
  rw [stripBlanks, List.append_assoc, dropEndWhile_append_takeEndWhile,
    List.takeWhile_append_dropWhile]

/-! ### Messages -/

/-- A sign and a name behind an arrow, up to the colon. -/
structure IsReceived (rest receiver : List Char) : Prop where
  name : IsName receiver
  pieces : ∃ next sign lead space body,
    rest = next ++ (sign ++ (lead ++ (receiver ++ (space ++ ':' :: body)))) ∧ IsBlanks next ∧
      (sign = [] ∧ lead = [] ∨ sign = ['+'] ∨ sign = ['-']) ∧ IsBlanks lead ∧ IsBlanks space

theorem takeWhile_toColon {run : List Char} (h : ':' ∉ run) (body : List Char) :
    (run ++ ':' :: body).takeWhile (· ≠ ':') = run := by
  apply takeWhile_append
  · intro c hc
    rw [decide_eq_true_eq]
    rintro rfl
    exact h hc
  · exact stops_cons.2 (by decide)

theorem isReceived_of_receiver? {rest receiver : List Char}
    (h : receiver? rest = some receiver) (hname : IsName receiver) :
    IsReceived rest receiver := by
  obtain ⟨next, afterNext, hnext⟩ : ∃ a b, takeBlanks rest = (a, b) := ⟨_, _, rfl⟩
  obtain ⟨sign, afterSign, hsign⟩ : ∃ a b, takeSign afterNext = (a, b) := ⟨_, _, rfl⟩
  rw [receiver?] at h
  simp only [hnext, hsign] at h
  split at h
  · next hcolon =>
    obtain ⟨before, body, rfl, hbefore⟩ := List.eq_append_cons_of_mem hcolon.1
    rw [takeWhile_toColon hbefore] at h
    obtain ⟨lead, space, hcut, hlead, hspace⟩ := exists_stripBlanks_eq before
    rw [Option.some.inj h] at hcut
    obtain ⟨rfl, hblanks, hstops⟩ := takeBlanks_eq_iff.1 hnext
    obtain ⟨rfl, hsigns⟩ := takeSign_eq_iff.1 hsign
    refine ⟨hname, next, sign, lead, space, body, by simp [hcut], hblanks, ?_, hlead, hspace⟩
    refine hsigns.imp_left fun hnone => ⟨hnone.1, ?_⟩
    -- without a sign the blanks behind the arrow are one run
    by_contra hne
    obtain ⟨c, lead, rfl⟩ := List.exists_cons_of_ne_nil hne
    rw [hnone.1, hcut, List.nil_append, List.cons_append, List.cons_append, List.cons_append,
      stops_cons, hlead c List.mem_cons_self] at hstops
    cases hstops
  · cases h

theorem notMem_arrowHeads {run : List Char}
    (h : ∀ c ∈ run, isWord c = true ∨ isBlank c = true) : ∀ c ∈ run, c ∉ ['<', '-'] := by
  intro c hc
  rcases h c hc with hword | hblank
  · exact notMem_arrowHeads_of_isWord hword
  · exact notMem_arrowHeads_of_isBlank hblank

theorem colon_notMem {run : List Char} (h : ∀ c ∈ run, isWord c = true ∨ isBlank c = true) :
    ':' ∉ run := fun hmem => absurd (h ':' hmem) (by decide)

theorem isWord_or_isBlank_of_mem {lead name trail : List Char} (hlead : IsBlanks lead)
    (hname : IsName name) (htrail : IsBlanks trail) :
    ∀ c ∈ lead ++ name ++ trail, isWord c = true ∨ isBlank c = true := by
  intro c hc
  rcases List.mem_append.1 hc with hc | hc
  · rcases List.mem_append.1 hc with hc | hc
    · exact Or.inr (hlead c hc)
    · exact Or.inl (hname.2 c hc)
  · exact Or.inr (htrail c hc)

theorem IsReceived.receiver?_eq {rest receiver : List Char} (h : IsReceived rest receiver) :
    receiver? rest = some receiver := by
  obtain ⟨hname, next, sign, lead, space, body, rfl, hnext, hsign, hlead, hspace⟩ := h
  obtain ⟨htoSign, htoLead, -⟩ := take_sign hnext hsign hlead hname (space ++ ':' :: body)
  have hpieces := isWord_or_isBlank_of_mem hlead hname hspace
  have hcut : lead ++ (receiver ++ (space ++ ':' :: body)) =
      lead ++ receiver ++ space ++ ':' :: body := by simp
  rw [receiver?]
  simp only [htoSign, htoLead]
  rw [hcut, takeWhile_toColon (colon_notMem hpieces), if_pos, stripBlanks_append hlead hname hspace]
  exact ⟨by simp, cutAtArrow?_of_forall (notMem_arrowHeads hpieces)⟩

theorem exchange_parse?_opening {indent sender gap arrow more : List Char}
    (hindent : IsBlanks indent) (hsender : IsName sender) (hgap : IsBlanks gap)
    (harrow : takeArrow? (arrow ++ more) = some (arrow, more)) :
    Exchange.parse? (indent ++ sender ++ gap ++ (arrow ++ more)) =
      (receiver? more).map fun receiver => ⟨sender, receiver⟩ := by
  have hpieces := isWord_or_isBlank_of_mem hindent hsender hgap
  rw [Exchange.parse?, cutAtArrow?_append (notMem_arrowHeads hpieces),
    cutAtArrow?_of_takeArrow? harrow]
  simp only [Option.map_some, List.append_nil, Option.bind_eq_bind, Option.bind_some,
    if_neg (colon_notMem hpieces), stripBlanks_append hindent hsender hgap]
  cases receiver? more <;> rfl

theorem Message.IsShape.exchange {m : Message} (h : m.IsShape) :
    Exchange.parse? m.text = some ⟨m.sender, m.receiver⟩ := by
  obtain ⟨gap, arrow, next, sign, lead, hlink, hgap, harrow, hnext, hsign, hlead⟩ := h.link
  obtain ⟨space, hspace, hcolon⟩ := h.colon
  have htext : m.text = m.indent ++ m.sender ++ gap ++ (arrow ++ (next ++ (sign ++ (lead ++
      (m.receiver ++ (space ++ ':' :: m.body)))))) := by
    simp [Message.text, Message.head, hlink, hcolon]
  obtain ⟨-, -, -, hshort⟩ := take_sign hnext hsign hlead h.receiver (space ++ ':' :: m.body)
  have hreceived : IsReceived (next ++ (sign ++ (lead ++ (m.receiver ++
      (space ++ ':' :: m.body))))) m.receiver :=
    ⟨h.receiver, next, sign, lead, space, m.body, rfl, hnext, hsign, hlead, hspace⟩
  rw [htext, exchange_parse?_opening h.indent h.sender hgap (takeArrow?_append harrow hshort),
    hreceived.receiver?_eq, Option.map_some]

/-- A sender and a receiver of one word each make a message. -/
theorem IsReceived.exists_message {o : Opening} (ho : o.IsShape)
    {gap arrow more receiver : List Char}
    (hrest : o.rest = gap ++ (arrow ++ more)) (hgap : IsBlanks gap) (harrow : arrow ∈ arrows)
    (h : IsReceived more receiver) : ∃ m : Message, m.IsShape ∧ m.text = o.text := by
  obtain ⟨hname, next, sign, lead, space, body, rfl, hnext, hsign, hlead, hspace⟩ := h
  refine ⟨⟨o.indent, o.sender, gap ++ arrow ++ next ++ sign ++ lead, receiver, space ++ [':'],
    body⟩, ⟨ho.indent, ho.sender, ?_, hname, space, hspace, rfl⟩, ?_⟩
  · exact ⟨gap, arrow, next, sign, lead, rfl, hgap, harrow, hnext, hsign, hlead⟩
  · simp [Message.text, Message.head, Opening.text, hrest]

theorem Exchange.exists_cut {line : List Char} {e : Exchange} (h : Exchange.parse? line = some e) :
    ∃ front rest, cutAtArrow? line = some (front, rest) ∧ receiver? rest = some e.receiver ∧
      ':' ∉ front ∧ stripBlanks front = e.sender := by
  obtain ⟨⟨front, rest⟩, hcut, hmore⟩ := Option.bind_eq_some_iff.1 h
  obtain ⟨receiver, hreceiver, hend⟩ := Option.bind_eq_some_iff.1 hmore
  split at hend
  · cases hend
  · next hcolon =>
    obtain rfl := Option.some.inj hend
    exact ⟨front, rest, hcut, hreceiver, hcolon, rfl⟩

theorem Exchange.parse?_of_cut {line front rest receiver : List Char}
    (hcut : cutAtArrow? line = some (front, rest)) (hreceiver : receiver? rest = some receiver)
    (hcolon : ':' ∉ front) : Exchange.parse? line = some ⟨stripBlanks front, receiver⟩ := by
  rw [Exchange.parse?, hcut]
  simp only [hreceiver, Option.bind_eq_bind, Option.bind_some, if_neg hcolon]

theorem Exchange.exists_opening {line : List Char} {e : Exchange}
    (h : Exchange.parse? line = some e) (hname : IsName e.sender) :
    ∃ o : Opening, o.IsShape ∧ line = o.text := by
  obtain ⟨front, rest, hcut, -, -, hsender⟩ := Exchange.exists_cut h
  obtain ⟨arrow, rfl, harrow⟩ := exists_arrow_of_cutAtArrow? hcut
  obtain ⟨lead, trail, hfront, hlead, htrail⟩ := exists_stripBlanks_eq front
  rw [hsender] at hfront
  refine ⟨⟨lead, e.sender, trail ++ arrow ++ rest⟩, Opening.isWritten_iff.1 ⟨hlead, hname, ?_⟩, ?_⟩
  · exact ⟨trail, arrow, rest, rfl, htrail, (takeArrow?_eq_some harrow).2⟩
  · rw [Opening.text, hfront]
    simp

theorem Note.IsShape.notMem_arrowHeads {n : Note} (h : n.IsShape) :
    ∀ c ∈ n.head, c ∉ ['<', '-'] := by
  obtain ⟨indent, keyword, gap, side, place, hhead, hindent, hkeyword, hgap, hside, hplace, -⟩ :=
    h.head
  have hword : IsName keyword := isName_of_mem_keywords (by decide) hkeyword
  have hside' : IsName side := isName_of_mem_keywords (by decide) hside
  have hplaced {c : Char} (hc : isWord c = true ∨ isBlank c = true) : Note.isPlace c = true := by
    rw [isBlank, Bool.or_eq_true, beq_iff_eq, beq_iff_eq] at hc
    rcases hc with hc | rfl | rfl <;> simp [Note.isPlace, *]
  have hhead' : ∀ c ∈ n.head, Note.isPlace c = true ∨ c = ':' := by
    intro c hc
    simp only [hhead, List.mem_append, List.mem_singleton] at hc
    rcases hc with ((((hc | hc) | hc) | hc) | hc) | hc
    · exact Or.inl (hplaced (Or.inr (hindent c hc)))
    · exact Or.inl (hplaced (Or.inl (hword.2 c hc)))
    · exact Or.inl (hplaced (Or.inr (hgap.2 c hc)))
    · exact Or.inl (hplaced (Or.inl (hside'.2 c hc)))
    · exact Or.inl (hplace c hc)
    · exact Or.inr hc
  intro c hc
  rw [List.mem_cons, List.mem_singleton]
  rintro (rfl | rfl) <;> exact absurd (hhead' _ hc) (by decide)

/-! ### Messages under repair -/

/-- The sender is renamed if it is one word, and then the receiver, too. -/
structure Exchange.IsRenamed (reserved : ReservedWords) (e e' : Exchange) : Prop where
  sender : IsName e.sender → e'.sender = rename reserved e.sender
  receiver : IsName e.sender → IsName e.receiver → e'.receiver = rename reserved e.receiver
  kept : ¬ IsName e.sender → e'.receiver = e.receiver

variable {reserved : ReservedWords} {e e' : Exchange}

theorem Exchange.IsRenamed.of_not_isName (hnot : ¬ IsName e.sender)
    (hreceiver : e'.receiver = e.receiver) : e.IsRenamed reserved e' :=
  ⟨fun hname => absurd hname hnot, fun hname => absurd hname hnot, fun _ => hreceiver⟩

/-- The arrow is behind the declared name, so a new name only takes the place of the old one. -/
theorem Exchange.exists_parse?_declaration {d : Declaration} (hd : d.IsShape)
    (h : Exchange.parse? d.text = some e) (hnot : ¬ IsName e.sender) :
    ∃ e', Exchange.parse? { d with name := rename reserved d.name }.text = some e' ∧
      e.IsRenamed reserved e' := by
  have hhead : IsDeclarationHead d.head := hd.head
  have hpieces {name : List Char} (hname : IsName name) :
      ∀ c ∈ d.head ++ name, isWord c = true ∨ isBlank c = true := by
    intro c hc
    exact (List.mem_append.1 hc).elim hhead.isWord_or_isBlank fun hc => Or.inl (hname.2 c hc)
  have hrenamed := isName_rename reserved hd.name
  obtain ⟨front, rest, hcut, hreceiver, hcolon, -⟩ := Exchange.exists_cut h
  rw [Declaration.text, cutAtArrow?_append (notMem_arrowHeads (hpieces hd.name))] at hcut
  obtain ⟨⟨front', rest'⟩, hbehind, heq⟩ := Option.map_eq_some_iff.1 hcut
  obtain ⟨rfl, rfl⟩ := Prod.mk.inj heq
  rw [List.mem_append, not_or] at hcolon
  have hcut' := cutAtArrow?_append (notMem_arrowHeads (hpieces hrenamed)) d.displayed
  rw [hbehind, Option.map_some] at hcut'
  have hcolon' : ':' ∉ d.head ++ rename reserved d.name ++ front' := by
    rw [List.mem_append, not_or]
    exact ⟨colon_notMem (hpieces hrenamed), hcolon.2⟩
  exact ⟨_, Exchange.parse?_of_cut hcut' hreceiver hcolon', .of_not_isName hnot rfl⟩

theorem Exchange.exists_parse?_opening {o : Opening} (ho : (Line.opening o).IsShape)
    (h : Exchange.parse? o.text = some e) :
    ∃ e', Exchange.parse? { o with sender := rename reserved o.sender }.text = some e' ∧
      e.IsRenamed reserved e' := by
  obtain ⟨hshape, hnone⟩ := ho
  obtain ⟨gap, arrow, more, hrest, hgap, harrow⟩ := hshape.exists_arrow
  have hparse {sender : List Char} (hsender : IsName sender) :
      Exchange.parse? { o with sender := sender }.text =
        (receiver? more).map fun receiver => ⟨sender, receiver⟩ := by
    rw [Opening.text, hrest, ← List.append_assoc]
    exact exchange_parse?_opening hshape.indent hsender hgap harrow
  rw [hparse hshape.sender] at h
  obtain ⟨receiver, hreceiver, rfl⟩ := Option.map_eq_some_iff.1 h
  refine ⟨⟨rename reserved o.sender, receiver⟩, ?_, fun _ => rfl, ?_, fun _ => rfl⟩
  · rw [hparse (isName_rename reserved hshape.sender), hreceiver, Option.map_some]
  · -- with a receiver of one word the line would be a message
    intro _ hname
    obtain ⟨m, hm, htext⟩ := IsReceived.exists_message hshape hrest hgap
      (takeArrow?_eq_some harrow).2 (isReceived_of_receiver? hreceiver hname)
    rw [← htext, Message.parse?_text hm] at hnone
    cases hnone

/-- In a note the colon comes before any arrow. -/
theorem Note.IsShape.exchange {n : Note} (h : n.IsShape) : Exchange.parse? n.text = none := by
  rw [Option.eq_none_iff_forall_ne_some]
  intro e he
  obtain ⟨front, rest, hcut, -, hcolon, -⟩ := Exchange.exists_cut he
  rw [Note.text, cutAtArrow?_append h.notMem_arrowHeads] at hcut
  obtain ⟨⟨front', rest'⟩, -, heq⟩ := Option.map_eq_some_iff.1 hcut
  obtain ⟨rfl, rfl⟩ := Prod.mk.inj heq
  obtain ⟨indent, keyword, gap, side, place, hhead, -⟩ := h.head
  exact absurd (by simp [hhead]) hcolon

theorem Exchange.exists_parse?_repairLine (reserved : ReservedWords) {line : List Char}
    (h : Exchange.parse? line = some e) :
    ∃ e', Exchange.parse? (repairLine reserved line) = some e' ∧ e.IsRenamed reserved e' := by
  obtain ⟨l, rfl, hl⟩ := Line.exists_isShape line
  have hopening (hname : IsName e.sender) : l.opening? ≠ none := by
    obtain ⟨o, ho, htext⟩ := Exchange.exists_opening h hname
    rw [← Line.opening_parse? hl, htext, Opening.parse?_text ho]
    exact Option.some_ne_none o
  rw [repairLine_text reserved hl]
  cases l with
  | declaration d => exact Exchange.exists_parse?_declaration hl h fun hname => hopening hname rfl
  | message m =>
    rw [Line.text, Message.IsShape.exchange hl] at h
    obtain rfl := Option.some.inj h
    have hrepaired := Message.IsShape.exchange (Line.IsShape.repair reserved (l := .message m) hl)
    exact ⟨_, hrepaired, fun _ => rfl, fun _ _ => rfl, fun hnot => absurd hl.sender hnot⟩
  | opening o => exact Exchange.exists_parse?_opening hl h
  | note n =>
    rw [Line.text, Note.IsShape.exchange hl] at h
    cases h
  | other chars => exact ⟨e, h, .of_not_isName (fun hname => hopening hname rfl) rfl⟩

/-! ### Names that are spelled alike -/

theorem rename_eq_self_iff {reserved : ReservedWords} {name : List Char} :
    rename reserved name = name ↔ reserved.contains (String.ofList name) = false := by
  rw [rename]
  split
  · next hcontains => simp [hcontains]
  · next hcontains => simp [hcontains]

theorem exists_readAt?_repair {α : Type} {parse? : List Char → Option α} {R : α → α → Prop}
    {reserved : ReservedWords} {source : List Char} {i : Nat} {a : α}
    (h : readAt? parse? source i = some a) (hline : ∀ line a, parse? line = some a →
      ∃ a', parse? (repairLine reserved line) = some a' ∧ R a a') :
    ∃ a', readAt? parse? (repair reserved source) i = some a' ∧ R a a' := by
  obtain ⟨line, hget, hparse⟩ := readAt?_eq_some_iff.1 h
  obtain ⟨a', hparse', hR⟩ := hline line a hparse
  rw [readAt?_repair]
  exact ⟨a', readAt?_eq_some_iff.2 ⟨line, hget, hparse'⟩, hR⟩

/-- **A participant has one name where it is declared and where it sends and receives.** The
exceptions are reserved names: a declaration without an alias keeps the name, and so does a
receiver behind a sender that is more than one word. -/
theorem names_agree_iff (reserved : ReservedWords) {source : List Char} {i j : Nat}
    {d : Declared} {e : Exchange} (hd : readAt? Declared.parse? source i = some d)
    (he : readAt? Exchange.parse? source j = some e) :
    ∃ d' e', readAt? Declared.parse? (repair reserved source) i = some d' ∧
      readAt? Exchange.parse? (repair reserved source) j = some e' ∧
      (d.name = e.sender → (d'.name = e'.sender ↔
        (reserved.contains (String.ofList d.name) = true → d.aliased = true))) ∧
      (d.name = e.receiver → (d'.name = e'.receiver ↔
        (reserved.contains (String.ofList d.name) = true →
          (d.aliased = true ↔ IsName e.sender)))) := by
  obtain ⟨d', hd', hdeclared⟩ := exists_readAt?_repair hd
    fun _ _ => Declared.exists_parse?_repairLine reserved
  obtain ⟨e', he', hrenamed⟩ := exists_readAt?_repair he
    fun _ _ => Exchange.exists_parse?_repairLine reserved
  have hname := hdeclared.name
  have hsame : d.name = rename reserved d.name ↔
      reserved.contains (String.ofList d.name) = false := eq_comm.trans rename_eq_self_iff
  have hself : rename reserved d.name = d.name ↔
      reserved.contains (String.ofList d.name) = false := rename_eq_self_iff
  refine ⟨d', e', hd', he', ?_, ?_⟩
  · intro heq
    rw [hrenamed.sender (heq ▸ hname), ← heq]
    cases halias : d.aliased with
    | true => simp [hdeclared.aliased halias]
    | false => simp [hdeclared.kept halias, hsame]
  · intro heq
    by_cases hsender : IsName e.sender
    · rw [hrenamed.receiver hsender (heq ▸ hname), ← heq]
      cases halias : d.aliased with
      | true => simp [hdeclared.aliased halias, hsender]
      | false => simp [hdeclared.kept halias, hsame, hsender]
    · rw [hrenamed.kept hsender, ← heq]
      cases halias : d.aliased with
      | true => simp [hdeclared.aliased halias, hself, hsender]
      | false => simp [hdeclared.kept halias, hsender]

def aliasedLoop : List Char := "actor Loop AS Checker\n A ->>+ Loop : run".toList

theorem names_agree_aliased :
    readAt? Declared.parse? aliasedLoop 0 = some ⟨"Loop".toList, true⟩ ∧
      readAt? Exchange.parse? aliasedLoop 1 = some ⟨"A".toList, "Loop".toList⟩ ∧
      ∃ d' e', readAt? Declared.parse? (repair .standard aliasedLoop) 0 = some d' ∧
        readAt? Exchange.parse? (repair .standard aliasedLoop) 1 = some e' ∧
        d'.name = e'.receiver := by
  have hd : readAt? Declared.parse? aliasedLoop 0 = some ⟨"Loop".toList, true⟩ := by decide +kernel
  have he : readAt? Exchange.parse? aliasedLoop 1 = some ⟨"A".toList, "Loop".toList⟩ := by
    decide +kernel
  obtain ⟨d', e', hd', he', -, hreceiver⟩ := names_agree_iff .standard hd he
  have hsender : IsName "A".toList := ⟨by decide, List.all_eq_true.1 (by decide)⟩
  exact ⟨hd, he, d', e', hd', he', (hreceiver rfl).2 fun _ => iff_of_true rfl hsender⟩

def bareEnd : List Char := "participant end\nend->>A: hi".toList

def twoWordSender : List Char := "participant end as End\nMy Service->>end: hi".toList

/-- Without an alias the declaration keeps the name that its message loses, and behind a sender of
two words the receiver keeps the name that its declaration loses. -/
theorem names_differ_reserved :
    (∃ d e d' e', readAt? Declared.parse? bareEnd 0 = some d ∧
      readAt? Exchange.parse? bareEnd 1 = some e ∧
      readAt? Declared.parse? (repair .standard bareEnd) 0 = some d' ∧
      readAt? Exchange.parse? (repair .standard bareEnd) 1 = some e' ∧
      d.name = e.sender ∧ d'.name ≠ e'.sender) ∧
    ∃ d e d' e', readAt? Declared.parse? twoWordSender 0 = some d ∧
      readAt? Exchange.parse? twoWordSender 1 = some e ∧
      readAt? Declared.parse? (repair .standard twoWordSender) 0 = some d' ∧
      readAt? Exchange.parse? (repair .standard twoWordSender) 1 = some e' ∧
      d.name = e.receiver ∧ d'.name ≠ e'.receiver := by
  constructor
  · exact ⟨⟨"end".toList, false⟩, ⟨"end".toList, "A".toList⟩, ⟨"end".toList, false⟩,
      ⟨"end_".toList, "A".toList⟩, by decide +kernel⟩
  · exact ⟨⟨"end".toList, true⟩, ⟨"My Service".toList, "end".toList⟩, ⟨"end_".toList, true⟩,
      ⟨"My Service".toList, "end".toList⟩, by decide +kernel⟩

end DiagramDoc.Sequence
