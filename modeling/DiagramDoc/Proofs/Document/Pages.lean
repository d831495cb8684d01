import DiagramDoc.Page
import DiagramDoc.Proofs.Html.Entities
import DiagramDoc.Proofs.Text.Numbered

/-! # Reading pages

A page shows a title, the entries of the table of contents with their indents, and the content, and
all of them can be told from the page. The title and the entries are escaped, so each ends at the
next mark, and what is behind the last entry is the start of no entry; the content is all that
stands between the table of contents and an end that every page has. So whatever titles and anchors
spell, the tags in front of the content depend on the number of the entries alone.
-/

namespace DiagramDoc.Page

open Html Text

/-! ### The parts of a page -/

/-- What a page shows of an entry. -/
structure Item where
  indent : Nat
  id : String
  title : String
  deriving DecidableEq, Repr

/-- The entries of levels 1 and 2 are not indented. -/
def item (entry : TocEntry) : Item := ⟨entry.level - 2, entry.id, entry.title⟩

def Item.html (i : Item) : String :=
  "<li style=\"margin-left: " ++ toString i.indent ++ "rem\"><a href=\"#" ++ escape i.id ++ "\">" ++
    escape i.title ++ "</a></li>\n"

/-- What is in front of the title. -/
def beforeTitle : String :=
  "<!DOCTYPE html>\n<html lang=\"en\">\n<head>\n" ++
    "<meta charset=\"utf-8\">\n" ++
    "<meta name=\"viewport\" content=\"width=device-width, initial-scale=1\">\n" ++
    "<title>"

/-- What is between the title's element and the table of contents. -/
def behindTitle : String :=
  "<link rel=\"stylesheet\" href=\"" ++ highlightStyle ++ "\">\n" ++
    "<style>\n" ++ pageStyle ++ "</style>\n" ++
    "<script src=\"" ++ mermaidScript ++ "\"></script>\n" ++
    "<script src=\"" ++ highlightScript ++ "\"></script>\n" ++
    "</head>\n<body>\n"

variable {s t title title' : String} {toc toc' : List TocEntry} {p q : Page} {i j : Item}
  {xs ys : List Char}

theorem opening_eq (title : String) (toc : List TocEntry) :
    opening title toc = beforeTitle ++ (escape title ++ ("</title>\n" ++ (behindTitle ++
      (tocHtml toc ++ "<article class=\"markdown-body\">\n")))) := by
  unfold opening beforeTitle behindTitle
  simp only [String.append_assoc]

theorem toList_opening (title : String) (toc : List TocEntry) :
    (opening title toc).toList =
      beforeTitle.toList ++ ((escape title).toList ++ ("</title>\n".toList ++
        (behindTitle.toList ++ ((tocHtml toc).toList ++
          "<article class=\"markdown-body\">\n".toList)))) := by
  simp only [opening_eq, String.toList_append]

theorem toList_html (p : Page) :
    p.html.toList =
      (opening p.title p.toc).toList ++ ((endLine p.content).toList ++ closing.toList) := by
  rw [html, String.toList_append, String.toList_append, List.append_assoc]

theorem toList_itemHtml (i : Item) :
    i.html.toList = "<li style=\"margin-left: ".toList ++ ((toString i.indent).toList ++
      ("rem\"><a href=\"#".toList ++ ((escape i.id).toList ++ ("\">".toList ++
        ((escape i.title).toList ++ "</a></li>\n".toList))))) := by
  unfold Item.html
  simp only [String.toList_append, List.append_assoc]

theorem tocHtml_eq (toc : List TocEntry) :
    tocHtml toc = if (toc.map item).isEmpty then ""
      else "<nav class=\"toc\">\n<ul>\n" ++ String.join ((toc.map item).map Item.html) ++
        "</ul>\n</nav>\n" := by
  have hitems : toc.map tocItem = (toc.map item).map Item.html := by
    rw [List.map_map]
    rfl
  rw [tocHtml, hitems, List.isEmpty_map]

theorem toList_tocHtml (h : toc ≠ []) :
    (tocHtml toc).toList = "<nav class=\"toc\">\n<ul>\n".toList ++
      ((toc.map item).flatMap (fun i => i.html.toList) ++ "</ul>\n</nav>\n".toList) := by
  rw [tocHtml_eq, if_neg (by simpa using h), String.toList_append, String.toList_append,
    List.append_assoc, String.toList_join, List.flatMap_map]

/-! ### Reading a page -/

theorem toString_append_inj {m n : Nat} (hxs : Stops Char.isDigit xs) (hys : Stops Char.isDigit ys)
    (h : (toString m).toList ++ xs = (toString n).toList ++ ys) : m = n ∧ xs = ys := by
  have hdigits (k : Nat) : ∀ c ∈ (toString k).toList, c.isDigit = true :=
    fun c => isDigit_of_mem_toString
  have hnumber := congrArg (List.takeWhile Char.isDigit) h
  rw [takeWhile_append (hdigits m) hxs, takeWhile_append (hdigits n) hys] at hnumber
  have hrest := congrArg (List.dropWhile Char.isDigit) h
  rw [dropWhile_append (hdigits m) hxs, dropWhile_append (hdigits n) hys] at hrest
  exact ⟨toString_nat_injective (String.toList_inj.1 hnumber), hrest⟩

theorem less_mem_delimiters : '<' ∈ delimiters := by decide

/-- Where an entry ends, its text tells. -/
theorem itemHtml_append_inj (h : i.html.toList ++ xs = j.html.toList ++ ys) :
    i = j ∧ xs = ys := by
  have hrem (cs : List Char) : Stops Char.isDigit ("rem\"><a href=\"#".toList ++ cs) :=
    stops_cons.2 (by decide)
  have hquote : '"' ∈ delimiters := by decide
  rw [toList_itemHtml, toList_itemHtml] at h
  simp only [List.append_assoc] at h
  obtain ⟨hindent, h⟩ := toString_append_inj (hrem _) (hrem _) (List.append_cancel_left h)
  obtain ⟨hid, h⟩ := escape_append_inj hquote rfl rfl (List.append_cancel_left h)
  obtain ⟨htitle, h⟩ := escape_append_inj less_mem_delimiters rfl rfl (List.append_cancel_left h)
  refine ⟨?_, List.append_cancel_left h⟩
  rw [Item.mk.injEq]
  exact ⟨hindent, hid, htitle⟩

/-- What is behind the last entry is the start of no entry. -/
theorem end_ne_itemHtml_append : "</ul>\n</nav>\n".toList ++ xs ≠ i.html.toList ++ ys := by
  intro h
  rw [toList_itemHtml] at h
  have hsecond := congrArg (·[1]?) h
  cases hsecond

theorem items_append_inj {is js : List Item}
    (h : is.flatMap (fun i => i.html.toList) ++ ("</ul>\n</nav>\n".toList ++ xs) =
      js.flatMap (fun i => i.html.toList) ++ ("</ul>\n</nav>\n".toList ++ ys)) :
    is = js ∧ xs = ys := by
  induction is generalizing js with
  | nil =>
    cases js with
    | nil => exact ⟨rfl, List.append_cancel_left h⟩
    | cons j js =>
      rw [List.flatMap_cons, List.append_assoc] at h
      exact absurd h end_ne_itemHtml_append
  | cons i is ih =>
    rw [List.flatMap_cons, List.append_assoc] at h
    cases js with
    | nil => exact absurd h.symm end_ne_itemHtml_append
    | cons j js =>
      rw [List.flatMap_cons, List.append_assoc] at h
      obtain ⟨hfirst, h⟩ := itemHtml_append_inj h
      obtain ⟨hmore, hrest⟩ := ih h
      exact ⟨by rw [hfirst, hmore], hrest⟩

/-- A table of contents does not start like the content. -/
theorem article_ne_tocHtml_append (h : toc ≠ []) :
    "<article class=\"markdown-body\">\n".toList ++ xs ≠ (tocHtml toc).toList ++ ys := by
  intro heq
  rw [toList_tocHtml h] at heq
  have hsecond := congrArg (·[1]?) heq
  cases hsecond

theorem tocHtml_append_inj
    (h : (tocHtml toc).toList ++ ("<article class=\"markdown-body\">\n".toList ++ xs) =
      (tocHtml toc').toList ++ ("<article class=\"markdown-body\">\n".toList ++ ys)) :
    toc.map item = toc'.map item ∧ xs = ys := by
  by_cases hempty : toc = []
  · subst hempty
    by_cases hempty' : toc' = []
    · subst hempty'
      exact ⟨rfl, List.append_cancel_left (List.append_cancel_left h)⟩
    · exact absurd h (article_ne_tocHtml_append hempty')
  · by_cases hempty' : toc' = []
    · subst hempty'
      exact absurd h.symm (article_ne_tocHtml_append hempty)
    · rw [toList_tocHtml hempty, toList_tocHtml hempty'] at h
      simp only [List.append_assoc] at h
      obtain ⟨hitems, h⟩ := items_append_inj (List.append_cancel_left h)
      exact ⟨hitems, List.append_cancel_left h⟩

theorem opening_append_inj
    (h : (opening title toc).toList ++ xs = (opening title' toc').toList ++ ys) :
    title = title' ∧ toc.map item = toc'.map item ∧ xs = ys := by
  rw [toList_opening, toList_opening] at h
  simp only [List.append_assoc] at h
  obtain ⟨htitle, h⟩ := escape_append_inj less_mem_delimiters rfl rfl (List.append_cancel_left h)
  have htoc := List.append_cancel_left (List.append_cancel_left h)
  exact ⟨htitle, tocHtml_append_inj htoc⟩

/-! ### The end of the content -/

/-- The texts are equal, or the one is the other with a line feed that it lacks at its end. -/
def EqualUpToFeed (s t : String) : Prop :=
  s = t ∨ (t.toList.getLast? ≠ some '\n' ∧ s = t ++ "\n") ∨
    (s.toList.getLast? ≠ some '\n' ∧ t = s ++ "\n")

theorem endLine_of_feed (h : s.toList.getLast? = some '\n') : endLine s = s := if_pos h

theorem endLine_of_ne (h : s.toList.getLast? ≠ some '\n') : endLine s = s ++ "\n" := if_neg h

theorem getLast?_append_feed (s : String) : (s ++ "\n").toList.getLast? = some '\n' := by
  rw [String.toList_append]
  exact List.getLast?_concat

theorem endLine_eq_iff : endLine s = endLine t ↔ EqualUpToFeed s t := by
  by_cases hs : s.toList.getLast? = some '\n'
  · by_cases ht : t.toList.getLast? = some '\n'
    · simp [endLine_of_feed, EqualUpToFeed, hs, ht]
    · rw [endLine_of_feed hs, endLine_of_ne ht, EqualUpToFeed]
      refine ⟨fun h => .inr (.inl ⟨ht, h⟩), ?_⟩
      rintro (rfl | ⟨-, h⟩ | ⟨hs', -⟩)
      · exact absurd hs ht
      · exact h
      · exact absurd hs hs'
  · by_cases ht : t.toList.getLast? = some '\n'
    · rw [endLine_of_ne hs, endLine_of_feed ht, EqualUpToFeed]
      refine ⟨fun h => .inr (.inr ⟨hs, h.symm⟩), ?_⟩
      rintro (rfl | ⟨ht', -⟩ | ⟨-, h⟩)
      · exact absurd ht hs
      · exact absurd ht ht'
      · exact h.symm
    · rw [endLine_of_ne hs, endLine_of_ne ht, String.append_left_inj, EqualUpToFeed]
      refine ⟨.inl, ?_⟩
      rintro (h | ⟨-, rfl⟩ | ⟨-, rfl⟩)
      · exact h
      · exact absurd (getLast?_append_feed t) hs
      · exact absurd (getLast?_append_feed s) ht

theorem html_eq_iff : p.html = q.html ↔
    p.title = q.title ∧ p.toc.map item = q.toc.map item ∧ EqualUpToFeed p.content q.content := by
  rw [← endLine_eq_iff]
  constructor
  · intro h
    have hchars := congrArg String.toList h
    rw [toList_html, toList_html] at hchars
    obtain ⟨htitle, htoc, hrest⟩ := opening_append_inj hchars
    exact ⟨htitle, htoc, String.toList_inj.1 (List.append_cancel_right hrest)⟩
  · rintro ⟨htitle, htoc, hcontent⟩
    have htocHtml : tocHtml p.toc = tocHtml q.toc := by rw [tocHtml_eq, htoc, ← tocHtml_eq]
    rw [← String.toList_inj, toList_html, toList_html, toList_opening, toList_opening, htitle,
      htocHtml, hcontent]

/-! ### The tags of a table of contents -/

/-- The tags of an entry, without the values of their attributes. -/
def itemTags : List String := ["li style=\"\"", "a href=\"\"", "/a", "/li"]

def tocTags (entries : Nat) : List String :=
  if entries = 0 then []
  else ["nav class=\"\"", "ul"] ++ (List.replicate entries itemTags).flatten ++ ["/ul", "/nav"]

theorem isUnmarked_toString (n : Nat) : IsUnmarked (toString n).toList := by
  intro c hc
  have hdigit := isDigit_of_mem_toString hc
  by_contra hmark
  rw [Bool.not_eq_false, isMark, Bool.or_eq_true, Bool.or_eq_true, beq_iff_eq, beq_iff_eq,
    beq_iff_eq] at hmark
  rcases hmark with (rfl | rfl) | rfl <;> exact absurd hdigit (by decide)

theorem reads_itemHtml (i : Item) : Reads i.html.toList (itemTags.map String.toList) := by
  intro tags
  have hstyle : "<li style=\"margin-left: ".toList.foldl Reading.step (.text tags) =
      .value tags "li style=\"".toList := rfl
  have hhref : "rem\"><a href=\"#".toList.foldl Reading.step (.value tags "li style=\"".toList) =
      .value (tags ++ ["li style=\"\"".toList]) "a href=\"".toList := rfl
  have hopened (tags : List (List Char)) :
      "\">".toList.foldl Reading.step (.value tags "a href=\"".toList) =
        .text (tags ++ ["a href=\"\"".toList]) := rfl
  have hclosed : Reads "</a></li>\n".toList (["/a", "/li"].map String.toList) :=
    tags?_eq_some_iff.1 (by decide)
  rw [toList_itemHtml, List.foldl_append, hstyle, List.foldl_append,
    Reading.foldl_step_value (isUnmarked_toString i.indent), List.foldl_append, hhref,
    List.foldl_append, Reading.foldl_step_value (isUnmarked_escape i.id), List.foldl_append,
    hopened, List.foldl_append, reads_escape i.title, hclosed]
  simp only [itemTags, List.map_cons, List.map_nil, List.append_assoc, List.cons_append,
    List.nil_append]

theorem reads_tocHtml (toc : List TocEntry) :
    Reads (tocHtml toc).toList ((tocTags toc.length).map String.toList) := by
  by_cases hempty : toc = []
  · subst hempty
    exact reads_nil
  · have hnav : Reads "<nav class=\"toc\">\n<ul>\n".toList
        (["nav class=\"\"", "ul"].map String.toList) := tags?_eq_some_iff.1 (by decide)
    have hend : Reads "</ul>\n</nav>\n".toList (["/ul", "/nav"].map String.toList) :=
      tags?_eq_some_iff.1 (by decide)
    have hitems := Reads.flatMap reads_itemHtml (toc.map item)
    have hne : toc.length ≠ 0 := fun hlength => hempty (List.length_eq_zero_iff.1 hlength)
    rw [toList_tocHtml hempty, tocTags, if_neg hne, List.map_append, List.map_append,
      List.map_flatten, List.map_replicate, List.append_assoc]
    rw [List.length_map] at hitems
    exact hnav.append (hitems.append hend)

/-- **A page can be read in one way only.** Two pages are equal exactly if they have the same title,
the same entries with the same indents in the same order, and the same content but for a line feed
at its end. The content stands as it is, and with a line feed behind it if it lacks one, between a
part that depends on the title and the entries, and an end that every page has. The escaped title
has no tags, and those of the table of contents depend on the number of its entries alone, so that
no text in them can change what is around. -/
theorem html_unambiguous :
    (∀ p q : Page, p.html = q.html ↔ p.title = q.title ∧ p.toc.map item = q.toc.map item ∧
      EqualUpToFeed p.content q.content) ∧
    (∀ p : Page, p.html = opening p.title p.toc ++ p.content ++
      (if p.content.toList.getLast? = some '\n' then "" else "\n") ++ closing) ∧
    ∀ (title : String) (toc : List TocEntry),
      opening title toc = beforeTitle ++ escape title ++ "</title>\n" ++ behindTitle ++
        tocHtml toc ++ "<article class=\"markdown-body\">\n" ∧
      tags? (escape title).toList = some [] ∧
      tags? (tocHtml toc).toList = some ((tocTags toc.length).map String.toList) := by
  refine ⟨fun p q => html_eq_iff, fun p => ?_, fun title toc => ⟨?_,
    tags?_eq_some_iff.2 (reads_escape title), tags?_eq_some_iff.2 (reads_tocHtml toc)⟩⟩
  · by_cases hfeed : p.content.toList.getLast? = some '\n'
    · rw [html, endLine_of_feed hfeed, if_pos hfeed, String.append_empty]
    · rw [html, endLine_of_ne hfeed, if_neg hfeed]
      simp only [String.append_assoc]
  · rw [opening_eq]
    simp only [String.append_assoc]

end DiagramDoc.Page
