import DiagramDoc.Proofs.Diagram.Sequence.Pieces

/-! # Lines and their pieces

A line is read as a record of pieces exactly if it is the text of the record and the pieces have
the shape of their kind. The shape says nothing of what may be replaced: other names and another
body in the places of the old ones are read again.
-/

namespace DiagramDoc.Sequence

open Text Unicode

/-! ### Messages -/

/-- An arrow with blanks around it and at most one activation sign. -/
def IsLink (link : List Char) : Prop :=
  ∃ gap arrow next sign lead, link = gap ++ arrow ++ next ++ sign ++ lead ∧ IsBlanks gap ∧
    arrow ∈ arrows ∧ IsBlanks next ∧ (sign = [] ∧ lead = [] ∨ sign = ['+'] ∨ sign = ['-']) ∧
    IsBlanks lead

structure Message.IsShape (m : Message) : Prop where
  indent : IsBlanks m.indent
  sender : IsName m.sender
  link : IsLink m.link
  receiver : IsName m.receiver
  colon : ∃ space, IsBlanks space ∧ m.colon = space ++ [':']

theorem Message.isShape_of_parse? {line : List Char} {m : Message}
    (h : Message.parse? line = some m) : line = m.text ∧ m.IsShape := by
  rw [Message.parse?] at h
  obtain ⟨indent, afterIndent, hindent⟩ : ∃ a b, takeBlanks line = (a, b) := ⟨_, _, rfl⟩
  rw [hindent] at h
  obtain ⟨⟨sender, afterSender⟩, hsender, hmore⟩ := Option.bind_eq_some_iff.1 h
  obtain ⟨gap, afterGap, hgap⟩ : ∃ a b, takeBlanks afterSender = (a, b) := ⟨_, _, rfl⟩
  simp only [hgap] at hmore
  obtain ⟨⟨arrow, afterArrow⟩, harrow, hmore⟩ := Option.bind_eq_some_iff.1 hmore
  obtain ⟨next, afterNext, hnext⟩ : ∃ a b, takeBlanks afterArrow = (a, b) := ⟨_, _, rfl⟩
  obtain ⟨sign, afterSign, hsign⟩ : ∃ a b, takeSign afterNext = (a, b) := ⟨_, _, rfl⟩
  obtain ⟨lead, afterLead, hlead⟩ : ∃ a b, takeBlanks afterSign = (a, b) := ⟨_, _, rfl⟩
  simp only [hnext, hsign, hlead] at hmore
  obtain ⟨⟨receiver, afterReceiver⟩, hreceiver, hbody⟩ := Option.bind_eq_some_iff.1 hmore
  obtain ⟨space, afterSpace, hspace⟩ : ∃ a b, takeBlanks afterReceiver = (a, b) := ⟨_, _, rfl⟩
  simp only [hspace] at hbody
  clear h hmore
  rw [takeBlanks_eq_iff] at hindent hgap hnext hlead hspace
  rw [takeName?_eq_some_iff] at hsender hreceiver
  rw [takeSign_eq_iff] at hsign
  obtain ⟨rfl, hindent, -⟩ := hindent
  obtain ⟨rfl, hsender, -⟩ := hsender
  obtain ⟨rfl, hgap, -⟩ := hgap
  obtain ⟨rfl, hknown⟩ := takeArrow?_eq_some harrow
  obtain ⟨rfl, hnext, hstop⟩ := hnext
  obtain ⟨rfl, hsign⟩ := hsign
  obtain ⟨rfl, hlead, -⟩ := hlead
  obtain ⟨rfl, hreceiver, -⟩ := hreceiver
  obtain ⟨rfl, hspace, -⟩ := hspace
  split at hbody
  · next body =>
    obtain rfl := Option.some.inj hbody
    refine ⟨by simp [Message.text, Message.head], hindent, hsender, ?_, hreceiver,
      space, hspace, rfl⟩
    refine ⟨gap, arrow, next, sign, lead, rfl, hgap, hknown, hnext, ?_, hlead⟩
    rcases hsign with ⟨rfl, -⟩ | hsign
    · -- without a sign the blanks behind the arrow are one run
      refine Or.inl ⟨rfl, ?_⟩
      by_contra hne
      obtain ⟨c, lead, rfl⟩ := List.exists_cons_of_ne_nil hne
      rw [List.nil_append, List.cons_append, stops_cons, hlead c List.mem_cons_self] at hstop
      cases hstop
    · exact Or.inr hsign
  · cases hbody

/-- A sign, and blanks in front of it, end the arrow before them. -/
theorem stops_of_sign {next sign more : List Char} (hnext : IsBlanks next)
    (hsign : sign = [] ∧ Stops isBlank more ∧ Stops (· == '>') more ∨ sign = ['+'] ∨ sign = ['-']) :
    Stops isBlank (sign ++ more) ∧ Stops (· == '>') (next ++ (sign ++ more)) := by
  have hsigned : Stops isBlank (sign ++ more) ∧ Stops (· == '>') (sign ++ more) := by
    rcases hsign with ⟨rfl, hmore⟩ | rfl | rfl
    · exact hmore
    · rw [List.singleton_append, stops_cons, stops_cons]
      decide
    · rw [List.singleton_append, stops_cons, stops_cons]
      decide
  refine ⟨hsigned.1, ?_⟩
  cases next with
  | nil => exact hsigned.2
  | cons c next =>
    rw [List.cons_append, stops_cons, beq_eq_false_iff_ne]
    rintro rfl
    exact absurd (hnext _ List.mem_cons_self) (by decide)

theorem IsName.stops_point {name : List Char} (h : IsName name) (more : List Char) :
    Stops (· == '>') (name ++ more) := by
  apply h.stops
  intro c hc
  rw [beq_eq_false_iff_ne]
  rintro rfl
  exact absurd hc (by decide)

/-- What stands between an arrow and a name is read piece by piece, and the arrow ends before it. -/
theorem take_sign {next sign lead name : List Char} (hnext : IsBlanks next)
    (hsign : sign = [] ∧ lead = [] ∨ sign = ['+'] ∨ sign = ['-']) (hlead : IsBlanks lead)
    (hname : IsName name) (more : List Char) :
    takeBlanks (next ++ (sign ++ (lead ++ (name ++ more)))) =
        (next, sign ++ (lead ++ (name ++ more))) ∧
      takeSign (sign ++ (lead ++ (name ++ more))) = (sign, lead ++ (name ++ more)) ∧
      takeBlanks (lead ++ (name ++ more)) = (lead, name ++ more) ∧
      Stops (· == '>') (next ++ (sign ++ (lead ++ (name ++ more)))) := by
  have hblank : Stops isBlank (name ++ more) := hname.stops_isBlank more
  have hplain : Stops isSign (name ++ more) := hname.stops isSign_of_isWord more
  have hends : sign = [] ∧ Stops isBlank (lead ++ (name ++ more)) ∧
      Stops (· == '>') (lead ++ (name ++ more)) ∨ sign = ['+'] ∨ sign = ['-'] := by
    rcases hsign with ⟨rfl, rfl⟩ | hsign
    · exact Or.inl ⟨rfl, hblank, IsName.stops_point hname more⟩
    · exact Or.inr hsign
  obtain ⟨hsigned, hshort⟩ := stops_of_sign hnext hends
  refine ⟨takeBlanks_eq_iff.2 ⟨rfl, hnext, hsigned⟩, takeSign_eq_iff.2 ⟨rfl, ?_⟩,
    takeBlanks_eq_iff.2 ⟨rfl, hlead, hblank⟩, hshort⟩
  rcases hsign with ⟨rfl, rfl⟩ | hsign
  · exact Or.inl ⟨rfl, hplain⟩
  · exact Or.inr hsign

theorem Message.parse?_text {m : Message} (h : m.IsShape) : Message.parse? m.text = some m := by
  obtain ⟨indent, sender, link, receiver, colon, body⟩ := m
  obtain ⟨hindent, hsender, ⟨gap, arrow, next, sign, lead, hlink, hgap, harrow, hnext, hsign, hlead⟩,
    hreceiver, space, hspace, hcolon⟩ := h
  dsimp only at *
  subst hlink hcolon
  have hline : Message.text ⟨indent, sender, gap ++ arrow ++ next ++ sign ++ lead, receiver,
      space ++ [':'], body⟩ = indent ++ (sender ++ (gap ++ (arrow ++ (next ++ (sign ++ (lead ++
        (receiver ++ (space ++ (':' :: body))))))))) := by
    simp [Message.text, Message.head]
  -- the readers from the last piece to the first, each with what stops it
  obtain ⟨afterSpace, heq⟩ : ∃ cs, cs = ':' :: body := ⟨_, rfl⟩
  have hend : Stops isWord afterSpace ∧ Stops isBlank afterSpace := by
    rw [heq, stops_cons, stops_cons]
    decide
  rw [← heq] at hline
  have htoColon : takeBlanks (space ++ afterSpace) = (space, afterSpace) :=
    takeBlanks_eq_iff.2 ⟨rfl, hspace, hend.2⟩
  have htoSpace : takeName? (receiver ++ (space ++ afterSpace)) =
      some (receiver, space ++ afterSpace) :=
    takeName?_eq_some_iff.2 ⟨rfl, hreceiver, hspace.stops_isWord hend.1⟩
  obtain ⟨htoSign, htoLead, htoReceiver, hshort⟩ :=
    take_sign hnext hsign hlead hreceiver (space ++ afterSpace)
  have htoNext := takeArrow?_append harrow hshort
  obtain ⟨afterArrow, hafter⟩ : ∃ cs, cs =
    next ++ (sign ++ (lead ++ (receiver ++ (space ++ afterSpace)))) := ⟨_, rfl⟩
  rw [← hafter] at hline htoSign htoNext
  have htoArrow : takeBlanks (gap ++ (arrow ++ afterArrow)) = (gap, arrow ++ afterArrow) :=
    takeBlanks_eq_iff.2 ⟨rfl, hgap, (stops_of_mem_arrows harrow _).2⟩
  have htoGap : takeName? (sender ++ (gap ++ (arrow ++ afterArrow))) =
      some (sender, gap ++ (arrow ++ afterArrow)) :=
    takeName?_eq_some_iff.2 ⟨rfl, hsender, hgap.stops_isWord (stops_of_mem_arrows harrow _).1⟩
  have htoSender := takeBlanks_eq_iff.2 ⟨rfl, hindent,
    hsender.stops_isBlank (gap ++ (arrow ++ afterArrow))⟩
  rw [hline, parse?]
  simp only [htoSender, htoGap, htoArrow, htoNext, htoSign, htoLead, htoReceiver, htoSpace, htoColon,
    Option.bind_eq_bind, Option.bind_some]
  rw [heq]
  rfl

/-! ### Openings -/

structure Opening.IsShape (o : Opening) : Prop where
  indent : IsBlanks o.indent
  sender : IsName o.sender
  stops : Stops isWord o.rest
  arrow : (takeArrow? (takeBlanks o.rest).2).isSome = true

theorem Opening.IsShape.exists_arrow {o : Opening} (h : o.IsShape) :
    ∃ gap arrow more, o.rest = gap ++ (arrow ++ more) ∧ IsBlanks gap ∧
      takeArrow? (arrow ++ more) = some (arrow, more) := by
  obtain ⟨gap, after, hgap⟩ : ∃ gap after, takeBlanks o.rest = (gap, after) := ⟨_, _, rfl⟩
  obtain ⟨⟨arrow, more⟩, harrow⟩ := Option.isSome_iff_exists.1 h.arrow
  rw [hgap] at harrow
  obtain ⟨rfl, -⟩ := takeArrow?_eq_some harrow
  obtain ⟨hrest, hblanks, -⟩ := takeBlanks_eq_iff.1 hgap
  exact ⟨gap, arrow, more, hrest, hblanks, harrow⟩

theorem Opening.isShape_of_parse? {line : List Char} {o : Opening}
    (h : Opening.parse? line = some o) : line = o.text ∧ o.IsShape := by
  rw [Opening.parse?] at h
  obtain ⟨indent, afterIndent, hindent⟩ : ∃ a b, takeBlanks line = (a, b) := ⟨_, _, rfl⟩
  rw [hindent] at h
  obtain ⟨⟨sender, rest⟩, hsender, hmore⟩ := Option.bind_eq_some_iff.1 h
  obtain ⟨arrow, harrow, heq⟩ := Option.bind_eq_some_iff.1 hmore
  obtain rfl := Option.some.inj heq
  obtain ⟨rfl, hblanks, -⟩ := takeBlanks_eq_iff.1 hindent
  obtain ⟨rfl, hname, hstops⟩ := takeName?_eq_some_iff.1 hsender
  refine ⟨(List.append_assoc ..).symm, hblanks, hname, hstops, ?_⟩
  exact Option.isSome_iff_exists.2 ⟨arrow, harrow⟩

theorem Opening.parse?_text {o : Opening} (h : o.IsShape) : Opening.parse? o.text = some o := by
  have hindent := takeBlanks_eq_iff.2 ⟨rfl, h.indent, h.sender.stops_isBlank o.rest⟩
  have hsender := takeName?_eq_some_iff.2 ⟨rfl, h.sender, h.stops⟩
  obtain ⟨arrow, harrow⟩ := Option.isSome_iff_exists.1 h.arrow
  rw [Opening.text, List.append_assoc, Opening.parse?]
  simp only [hindent, hsender, harrow, Option.bind_eq_bind, Option.bind_some]

def Message.opening (m : Message) : Opening :=
  ⟨m.indent, m.sender, m.link ++ m.receiver ++ m.colon ++ m.body⟩

theorem Message.text_opening (m : Message) : m.opening.text = m.text := by
  simp [Message.opening, Opening.text, Message.text, Message.head]

theorem Message.IsShape.opening {m : Message} (h : m.IsShape) : m.opening.IsShape := by
  obtain ⟨gap, arrow, next, sign, lead, hlink, hgap, harrow, -⟩ := h.link
  have hrest : m.opening.rest =
      gap ++ (arrow ++ (next ++ sign ++ lead ++ m.receiver ++ m.colon ++ m.body)) := by
    simp [Message.opening, hlink]
  have hstops := stops_of_mem_arrows harrow
    (next ++ sign ++ lead ++ m.receiver ++ m.colon ++ m.body)
  refine ⟨h.indent, h.sender, ?_, ?_⟩
  · rw [hrest]
    exact hgap.stops_isWord hstops.1
  · rw [hrest, takeBlanks_eq_iff.2 ⟨rfl, hgap, hstops.2⟩]
    exact isSome_takeArrow? harrow _

/-! ### Declarations -/

def HasAlias (displayed : List Char) : Prop :=
  ∃ gap afterGap afterAs, takeGap? displayed = some (gap, afterGap) ∧
    dropAs? afterGap = some afterAs ∧ (takeGap? afterAs).isSome = true

structure Declaration.IsShape (d : Declaration) : Prop where
  head : ∃ indent keyword gap, d.head = indent ++ keyword ++ gap ∧ IsBlanks indent ∧
    (∃ k ∈ ["participant", "actor"], asciiLower keyword = k.toList) ∧ IsGap gap
  name : IsName d.name
  stops : Stops isWord d.displayed
  hasAlias : HasAlias d.displayed

theorem dropDeclarationKeyword_eq_some_iff {cs rest : List Char} :
    dropOneOf? ["participant", "actor"] cs = some rest ↔
      ∃ start, cs = start ++ rest ∧
        ∃ k ∈ ["participant", "actor"], asciiLower start = k.toList :=
  dropOneOf?_eq_some_iff (by decide)

theorem take_length_sub (xs ys : List Char) :
    (xs ++ ys).take ((xs ++ ys).length - ys.length) = xs := by
  rw [List.length_append, Nat.add_sub_cancel, List.take_left]

theorem Declaration.isShape_of_parse? {line : List Char} {d : Declaration}
    (h : Declaration.parse? line = some d) : line = d.text ∧ d.IsShape := by
  rw [Declaration.parse?] at h
  obtain ⟨indent, afterIndent, hindent⟩ : ∃ a b, takeBlanks line = (a, b) := ⟨_, _, rfl⟩
  rw [hindent] at h
  obtain ⟨afterKeyword, hkeyword, hmore⟩ := Option.bind_eq_some_iff.1 h
  obtain ⟨⟨gap, afterGap⟩, hgap, hmore⟩ := Option.bind_eq_some_iff.1 hmore
  obtain ⟨⟨name, rest⟩, hname, hmore⟩ := Option.bind_eq_some_iff.1 hmore
  obtain ⟨⟨space, afterSpace⟩, hspace, hmore⟩ := Option.bind_eq_some_iff.1 hmore
  obtain ⟨afterAs, has, hmore⟩ := Option.bind_eq_some_iff.1 hmore
  obtain ⟨last, hlast, heq⟩ := Option.bind_eq_some_iff.1 hmore
  obtain rfl := Option.some.inj heq
  have halias : HasAlias rest :=
    ⟨space, afterSpace, afterAs, hspace, has, Option.isSome_iff_exists.2 ⟨last, hlast⟩⟩
  rw [takeBlanks_eq_iff] at hindent
  rw [dropDeclarationKeyword_eq_some_iff] at hkeyword
  rw [takeGap?_eq_some_iff] at hgap
  rw [takeName?_eq_some_iff] at hname
  obtain ⟨rfl, hindent, -⟩ := hindent
  obtain ⟨keyword, rfl, hkeyword⟩ := hkeyword
  obtain ⟨rfl, hgap, -⟩ := hgap
  obtain ⟨rfl, hname, hstops⟩ := hname
  have hline : indent ++ (keyword ++ (gap ++ (name ++ rest))) =
      indent ++ keyword ++ gap ++ (name ++ rest) := by
    simp only [List.append_assoc]
  rw [hline, take_length_sub]
  refine ⟨(List.append_assoc ..).symm, ⟨indent, keyword, gap, rfl, hindent, hkeyword, hgap⟩, hname,
    hstops, halias⟩

theorem isName_of_mem_keywords {keywords : List String} {keyword : List Char}
    (hkeywords : ∀ k ∈ keywords, k.toList ≠ [] ∧ k.toList.all isWord = true)
    (h : ∃ k ∈ keywords, asciiLower keyword = k.toList) : IsName keyword := by
  obtain ⟨k, hk, heq⟩ := h
  rw [← isName_asciiLower_iff, heq]
  exact ⟨(hkeywords k hk).1, List.all_eq_true.1 (hkeywords k hk).2⟩

theorem Declaration.parse?_text {d : Declaration} (h : d.IsShape) :
    Declaration.parse? d.text = some d := by
  obtain ⟨head, name, displayed⟩ := d
  obtain ⟨⟨indent, keyword, gap, hhead, hindent, hkeyword, hgap⟩, hname, hstops, halias⟩ := h
  dsimp only at *
  subst hhead
  have hword : IsName keyword := isName_of_mem_keywords (by decide) hkeyword
  have htoKeyword := takeBlanks_eq_iff.2 ⟨rfl, hindent,
    hword.stops_isBlank (gap ++ (name ++ displayed))⟩
  have htoGap : dropOneOf? ["participant", "actor"] (keyword ++ (gap ++ (name ++ displayed))) =
      some (gap ++ (name ++ displayed)) :=
    dropDeclarationKeyword_eq_some_iff.2 ⟨keyword, rfl, hkeyword⟩
  have htoName := takeGap?_eq_some_iff.2 ⟨rfl, hgap, hname.stops_isBlank displayed⟩
  have htoDisplayed := takeName?_eq_some_iff.2 ⟨rfl, hname, hstops⟩
  obtain ⟨space, afterSpace, afterAs, hspace, has, hlast⟩ := halias
  obtain ⟨last, hlast⟩ := Option.isSome_iff_exists.1 hlast
  have hline : Declaration.text ⟨indent ++ keyword ++ gap, name, displayed⟩ =
      indent ++ (keyword ++ (gap ++ (name ++ displayed))) := by
    simp [Declaration.text]
  have hfront := take_length_sub (indent ++ keyword ++ gap) (name ++ displayed)
  simp only [List.append_assoc] at hfront
  rw [hline, Declaration.parse?]
  simp only [htoKeyword, htoGap, htoName, htoDisplayed, hspace, has, hlast, Option.bind_eq_bind,
    Option.bind_some, hfront, List.append_assoc]

/-! ### Notes -/

structure Note.IsShape (n : Note) : Prop where
  head : ∃ indent keyword gap side place,
    n.head = indent ++ keyword ++ gap ++ side ++ place ++ [':'] ∧ IsBlanks indent ∧
      (∃ k ∈ ["note"], asciiLower keyword = k.toList) ∧ IsGap gap ∧
      (∃ k ∈ ["left", "right", "over"], asciiLower side = k.toList) ∧
      (∀ c ∈ place, Note.isPlace c = true) ∧ 2 ≤ place.length ∧ place.head?.any isBlank = true

theorem dropNoteKeyword_eq_some_iff {cs rest : List Char} :
    dropOneOf? ["note"] cs = some rest ↔
      ∃ start, cs = start ++ rest ∧ ∃ k ∈ ["note"], asciiLower start = k.toList :=
  dropOneOf?_eq_some_iff (by decide)

theorem dropSide_eq_some_iff {cs rest : List Char} :
    dropOneOf? ["left", "right", "over"] cs = some rest ↔
      ∃ start, cs = start ++ rest ∧
        ∃ k ∈ ["left", "right", "over"], asciiLower start = k.toList :=
  dropOneOf?_eq_some_iff (by decide)

theorem Note.isShape_of_parse? {line : List Char} {n : Note} (h : Note.parse? line = some n) :
    line = n.text ∧ n.IsShape := by
  rw [Note.parse?] at h
  obtain ⟨indent, afterIndent, hindent⟩ : ∃ a b, takeBlanks line = (a, b) := ⟨_, _, rfl⟩
  rw [hindent] at h
  obtain ⟨afterKeyword, hkeyword, hmore⟩ := Option.bind_eq_some_iff.1 h
  obtain ⟨⟨gap, afterGap⟩, hgap, hmore⟩ := Option.bind_eq_some_iff.1 hmore
  obtain ⟨afterSide, hside, hbody⟩ := Option.bind_eq_some_iff.1 hmore
  clear h hmore
  rw [takeBlanks_eq_iff] at hindent
  rw [dropNoteKeyword_eq_some_iff] at hkeyword
  rw [takeGap?_eq_some_iff] at hgap
  rw [dropSide_eq_some_iff] at hside
  obtain ⟨rfl, hindent, -⟩ := hindent
  obtain ⟨keyword, rfl, hkeyword⟩ := hkeyword
  obtain ⟨rfl, hgap, -⟩ := hgap
  obtain ⟨side, rfl, hside⟩ := hside
  have hcut := List.takeWhile_append_dropWhile (p := Note.isPlace) (l := afterSide)
  have hplace : ∀ c ∈ afterSide.takeWhile Note.isPlace, Note.isPlace c = true :=
    fun c hc => of_mem_takeWhile hc
  obtain ⟨place, heq⟩ : ∃ place, place = afterSide.takeWhile Note.isPlace := ⟨_, rfl⟩
  rw [← heq] at hbody hcut hplace
  split at hbody
  · next body hdrop =>
    dsimp only at hbody
    split at hbody
    · next hlong =>
      obtain rfl := Option.some.inj hbody
      rw [hdrop] at hcut
      have hline : indent ++ (keyword ++ (gap ++ (side ++ afterSide))) =
          indent ++ keyword ++ gap ++ side ++ place ++ [':'] ++ body := by
        simp [← hcut]
      rw [hline, take_length_sub]
      exact ⟨rfl, indent, keyword, gap, side, place, rfl, hindent, hkeyword, hgap, hside, hplace,
        hlong⟩
    · cases hbody
  · cases hbody

theorem Note.parse?_text {n : Note} (h : n.IsShape) : Note.parse? n.text = some n := by
  obtain ⟨head, body⟩ := n
  obtain ⟨indent, keyword, gap, side, place, hhead, hindent, hkeyword, hgap, hside, hplace,
    hlong⟩ := h
  dsimp only at hhead
  subst hhead
  have hword : IsName keyword := isName_of_mem_keywords (by decide) hkeyword
  have hside' : IsName side := isName_of_mem_keywords (by decide) hside
  have hstops : Stops Note.isPlace (':' :: body) := stops_cons.2 (by decide)
  obtain ⟨afterSide, hafter⟩ : ∃ cs, cs = place ++ ':' :: body := ⟨_, rfl⟩
  have htakePlace : afterSide.takeWhile Note.isPlace = place := by
    rw [hafter, takeWhile_append hplace hstops]
  have hdropPlace : afterSide.dropWhile Note.isPlace = ':' :: body := by
    rw [hafter, dropWhile_append hplace hstops]
  have htoKeyword := takeBlanks_eq_iff.2 ⟨rfl, hindent,
    hword.stops_isBlank (gap ++ (side ++ afterSide))⟩
  have htoGap : dropOneOf? ["note"] (keyword ++ (gap ++ (side ++ afterSide))) =
      some (gap ++ (side ++ afterSide)) :=
    dropNoteKeyword_eq_some_iff.2 ⟨keyword, rfl, hkeyword⟩
  have htoSide := takeGap?_eq_some_iff.2 ⟨rfl, hgap, hside'.stops_isBlank afterSide⟩
  have htoPlace : dropOneOf? ["left", "right", "over"] (side ++ afterSide) = some afterSide :=
    dropSide_eq_some_iff.2 ⟨side, rfl, hside⟩
  have hline : Note.text ⟨indent ++ keyword ++ gap ++ side ++ place ++ [':'], body⟩ =
      indent ++ (keyword ++ (gap ++ (side ++ afterSide))) := by
    simp [Note.text, hafter]
  have hfront := take_length_sub (indent ++ keyword ++ gap ++ side ++ place ++ [':']) body
  have hwhole : indent ++ (keyword ++ (gap ++ (side ++ afterSide))) =
      indent ++ keyword ++ gap ++ side ++ place ++ [':'] ++ body := by
    simp [hafter]
  rw [hline, Note.parse?]
  simp only [htoKeyword, htoGap, htoSide, htoPlace, Option.bind_eq_bind, Option.bind_some,
    htakePlace, hdropPlace]
  rw [if_pos hlong, hwhole, hfront]

/-! ### Declarations and openings, piece by piece -/

/-- The word `as` in letters of either case; a long s is an s, too. -/
def IsAs (word : List Char) : Prop :=
  ∃ a s, word = [a, s] ∧ a.toLower = 'a' ∧ (s.toLower = 's' ∨ s = 'ſ')

structure Declaration.IsWritten (d : Declaration) : Prop where
  head : ∃ indent keyword gap, d.head = indent ++ keyword ++ gap ∧ IsBlanks indent ∧
    (∃ k ∈ ["participant", "actor"], asciiLower keyword = k.toList) ∧ IsGap gap
  name : IsName d.name
  displayed : ∃ gap word space shown, d.displayed = gap ++ word ++ space ++ shown ∧ IsGap gap ∧
    IsAs word ∧ IsGap space

structure Opening.IsWritten (o : Opening) : Prop where
  indent : IsBlanks o.indent
  sender : IsName o.sender
  rest : ∃ gap arrow more, o.rest = gap ++ arrow ++ more ∧ IsBlanks gap ∧ arrow ∈ arrows

theorem dropAs?_eq_some_iff {cs rest : List Char} :
    dropAs? cs = some rest ↔ ∃ word, cs = word ++ rest ∧ IsAs word := by
  constructor
  · intro h
    unfold dropAs? at h
    split at h
    · next a s tail =>
      split at h
      · next has =>
        obtain rfl := Option.some.inj h
        exact ⟨[a, s], rfl, a, s, rfl, has⟩
      · cases h
    · cases h
  · rintro ⟨word, rfl, a, s, rfl, has⟩
    exact if_pos has

theorem hasAlias_iff {displayed : List Char} :
    HasAlias displayed ↔ ∃ gap word space shown, displayed = gap ++ word ++ space ++ shown ∧
      IsGap gap ∧ IsAs word ∧ IsGap space := by
  constructor
  · rintro ⟨gap, afterGap, afterAs, hgap, has, hspace⟩
    obtain ⟨⟨space, shown⟩, hspace⟩ := Option.isSome_iff_exists.1 hspace
    obtain ⟨rfl, hblanks, -⟩ := takeGap?_eq_some_iff.1 hgap
    obtain ⟨word, rfl, hword⟩ := dropAs?_eq_some_iff.1 has
    obtain ⟨rfl, hmore, -⟩ := takeGap?_eq_some_iff.1 hspace
    exact ⟨gap, word, space, shown, by simp, hblanks, hword, hmore⟩
  · rintro ⟨gap, word, space, shown, rfl, hgap, hword, hspace⟩
    have hstops : Stops isBlank (word ++ (space ++ shown)) := by
      obtain ⟨a, s, rfl, ha, -⟩ := hword
      apply stops_cons.2
      by_contra hblank
      rw [isBlank, Bool.not_eq_false, Bool.or_eq_true, beq_iff_eq, beq_iff_eq] at hblank
      rcases hblank with rfl | rfl <;> exact absurd ha (by decide)
    refine ⟨gap, word ++ (space ++ shown), space ++ shown,
      takeGap?_eq_some_iff.2 ⟨by simp, hgap, hstops⟩, dropAs?_eq_some_iff.2 ⟨word, rfl, hword⟩, ?_⟩
    -- the alias may go on with blanks
    obtain ⟨c, space, rfl⟩ := List.exists_cons_of_ne_nil hspace.1
    rw [takeGap?, List.cons_append, List.takeWhile_cons_of_pos (hspace.2 c List.mem_cons_self)]
    rfl

theorem Declaration.isWritten_iff {d : Declaration} : d.IsWritten ↔ d.IsShape := by
  constructor
  · intro h
    refine ⟨h.head, h.name, ?_, hasAlias_iff.2 h.displayed⟩
    obtain ⟨gap, word, space, shown, hdisplayed, hgap, -⟩ := h.displayed
    rw [hdisplayed, List.append_assoc, List.append_assoc]
    exact hgap.stops_isWord _
  · intro h
    exact ⟨h.head, h.name, hasAlias_iff.1 h.hasAlias⟩

theorem Opening.isWritten_iff {o : Opening} : o.IsWritten ↔ o.IsShape := by
  constructor
  · intro h
    obtain ⟨gap, arrow, more, hrest, hgap, harrow⟩ := h.rest
    have hstops := stops_of_mem_arrows harrow more
    rw [List.append_assoc] at hrest
    refine ⟨h.indent, h.sender, ?_, ?_⟩
    · rw [hrest]
      exact hgap.stops_isWord hstops.1
    · rw [hrest, takeBlanks_eq_iff.2 ⟨rfl, hgap, hstops.2⟩]
      exact isSome_takeArrow? harrow more
  · intro h
    obtain ⟨gap, arrow, more, hrest, hgap, harrow⟩ := h.exists_arrow
    exact ⟨h.indent, h.sender, gap, arrow, more, by rw [hrest, List.append_assoc], hgap,
      (takeArrow?_eq_some harrow).2⟩

end DiagramDoc.Sequence
