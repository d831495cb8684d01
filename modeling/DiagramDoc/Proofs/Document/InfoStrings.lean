import DiagramDoc.Proofs.Document.Attributes
import DiagramDoc.Proofs.Text.Words

/-! # Info strings read back

An info string is written as a language and items behind it, each behind white space: bare words,
and attributes whose values stand alone or between quotes of either kind. No piece has white space
in it, so the words of the info string are the language and the items, and a word gives its
attribute back: the key ends at the first equals sign, and the quotes at the ends of what follows
are those that the value was written in. Bare words and quotes leave no trace in what is read.
-/

namespace DiagramDoc

open Text

/-! ### Items -/

/-- What the value of an attribute is written in. -/
inductive Quotes where
  | absent
  | double
  | single
  deriving DecidableEq, Repr

def Quotes.marks : Quotes → List Char
  | absent => []
  | double => ['"']
  | single => ['\'']

theorem Quotes.isQuote_of_mem_marks {quotes : Quotes} {c : Char} (hc : c ∈ quotes.marks) :
    isQuote c = true := by
  cases quotes with
  | absent => cases hc
  | double | single => rw [List.mem_singleton.1 hc]; rfl

/-- What may stand behind the language. -/
inductive InfoItem where
  | bare (text : String)
  | attr (key value : String) (quotes : Quotes)
  deriving DecidableEq, Repr

namespace InfoItem

def text : InfoItem → List Char
  | bare text => text.toList
  | attr key value quotes =>
    key.toList ++ '=' :: (quotes.marks ++ (value.toList ++ quotes.marks))

def pair? : InfoItem → Option (String × String)
  | bare _ => none
  | attr key value _ => some (key, value)

/-- A key, or a bare word: without white space and equals signs. -/
def IsKey (cs : List Char) : Prop := ∀ c ∈ cs, isSpace c = false ∧ c ≠ '='

/-- A value may be empty, and it may have quotes and equals signs, but it has no white space and no
quote at its ends. -/
structure IsValue (cs : List Char) : Prop where
  solid : ∀ c ∈ cs, isSpace c = false
  first : ∀ c ∈ cs.head?, isQuote c = false
  last : ∀ c ∈ cs.getLast?, isQuote c = false

def IsShape : InfoItem → Prop
  | bare text => text ≠ "" ∧ IsKey text.toList
  | attr key value _ => IsKey key.toList ∧ IsValue value.toList

-- Each is decided over its own text, not over all characters.
instance (cs : List Char) : Decidable (IsKey cs) := List.decidableBAll _ cs

instance (cs : List Char) : Decidable (IsValue cs) :=
  haveI : Decidable (∀ c ∈ cs, isSpace c = false) := List.decidableBAll _ cs
  haveI (o : Option Char) : Decidable (∀ c ∈ o, isQuote c = false) := o.decidableForallMem
  decidable_of_iff
    ((∀ c ∈ cs, isSpace c = false) ∧ (∀ c ∈ cs.head?, isQuote c = false) ∧
      ∀ c ∈ cs.getLast?, isQuote c = false)
    ⟨fun h => ⟨h.1, h.2.1, h.2.2⟩, fun h => ⟨h.solid, h.first, h.last⟩⟩

instance : DecidablePred IsShape
  | bare text => inferInstanceAs (Decidable (text ≠ "" ∧ IsKey text.toList))
  | attr key value _ => inferInstanceAs (Decidable (IsKey key.toList ∧ IsValue value.toList))

variable {item : InfoItem}

theorem IsShape.isOneWord (h : item.IsShape) : IsOneWord item.text := by
  cases item with
  | bare text =>
    obtain ⟨hne, hplain⟩ := h
    exact ⟨fun hnil => hne (String.toList_eq_nil_iff.1 hnil), fun c hc => (hplain c hc).1⟩
  | attr key value quotes =>
    obtain ⟨hkey, hvalue⟩ := h
    have hmarks : ∀ c ∈ quotes.marks, isSpace c = false := by
      cases quotes with
      | absent => exact List.forall_mem_nil _
      | double | single => exact List.forall_mem_singleton.2 (by decide)
    refine ⟨List.append_ne_nil_of_right_ne_nil _ (List.cons_ne_nil _ _), ?_⟩
    rw [text, List.forall_mem_append, List.forall_mem_cons, List.forall_mem_append,
      List.forall_mem_append]
    exact ⟨fun c hc => (hkey c hc).1, by decide, hmarks, hvalue.solid, hmarks⟩

theorem takeWhile_dropWhile_key (rest : List Char) {key : List Char} (hkey : ∀ c ∈ key, c ≠ '=') :
    (key ++ '=' :: rest).takeWhile (· ≠ '=') = key ∧
      (key ++ '=' :: rest).dropWhile (· ≠ '=') = '=' :: rest := by
  have hplain : ∀ c ∈ key, decide (c ≠ '=') = true := fun c hc => decide_eq_true (hkey c hc)
  have hstops : Stops (fun c => decide (c ≠ '=')) ('=' :: rest) := stops_cons.2 (by decide)
  exact ⟨takeWhile_append hplain hstops, dropWhile_append hplain hstops⟩

/-- **A word gives its attribute back.** -/
theorem IsShape.attribute?_text (h : item.IsShape) : attribute? item.text = item.pair? := by
  cases item with
  | bare text =>
    have hdrop : text.toList.dropWhile (· ≠ '=') = [] :=
      List.dropWhile_eq_nil_iff.2 fun c hc => decide_eq_true (h.2 c hc).2
    rw [attribute?, InfoItem.text, hdrop, pair?]
  | attr key value quotes =>
    obtain ⟨hkey, hvalue⟩ := h
    have hmarks : ∀ c ∈ quotes.marks, isQuote c = true := fun c => quotes.isQuote_of_mem_marks
    obtain ⟨htake, hdrop⟩ := takeWhile_dropWhile_key
      (quotes.marks ++ (value.toList ++ quotes.marks)) fun c hc => (hkey c hc).2
    have hunquoted := dropEndWhile_dropWhile hmarks hmarks hvalue.first hvalue.last
    simp only [attribute?, text, pair?, htake, hdrop, hunquoted, String.ofList_toList]

end InfoItem

/-! ### Layouts -/

/-- An info string in its pieces: the language, and items with the white space in front of each.
There may be white space at both ends, too. -/
structure InfoLayout where
  before : List Char
  language : String
  items : List (List Char × InfoItem)
  behind : List Char

namespace InfoLayout

def text (l : InfoLayout) : String :=
  String.ofList (l.before ++ (l.language.toList ++
    (l.items.flatMap (fun piece => piece.1 ++ piece.2.text) ++ l.behind)))

/-- The keys and values of the attributes, in order. -/
def pairs (l : InfoLayout) : List (String × String) := l.items.filterMap (·.2.pair?)

/-- White space, or nothing. -/
def IsGap (cs : List Char) : Prop := ∀ c ∈ cs, isSpace c = true

instance (cs : List Char) : Decidable (IsGap cs) := List.decidableBAll _ cs

structure IsShape (l : InfoLayout) : Prop where
  before : IsGap l.before
  language : IsOneWord l.language.toList
  gaps : ∀ piece ∈ l.items, piece.1 ≠ [] ∧ IsGap piece.1
  items : ∀ piece ∈ l.items, piece.2.IsShape
  behind : IsGap l.behind

/-- Behind a piece there is white space or nothing, and then the words are the items. -/
theorem words_items {items : List (List Char × InfoItem)} {behind : List Char}
    (hgaps : ∀ piece ∈ items, piece.1 ≠ [] ∧ IsGap piece.1)
    (hitems : ∀ piece ∈ items, piece.2.IsShape) (hbehind : IsGap behind) :
    (∀ c ∈ (items.flatMap (fun piece => piece.1 ++ piece.2.text) ++ behind).head?,
        isSpace c = true) ∧
      words (items.flatMap (fun piece => piece.1 ++ piece.2.text) ++ behind) =
        items.map (·.2.text) := by
  induction items with
  | nil =>
    rw [List.flatMap_nil, List.nil_append]
    exact ⟨fun c hc => hbehind c (List.mem_of_head? hc), words_of_forall hbehind⟩
  | cons piece items ih =>
    obtain ⟨⟨hne, hspace⟩, hgaps⟩ := List.forall_mem_cons.1 hgaps
    obtain ⟨hitem, hitems⟩ := List.forall_mem_cons.1 hitems
    obtain ⟨hhead, hwords⟩ := ih hgaps hitems
    rw [List.flatMap_cons, List.append_assoc, List.append_assoc]
    constructor
    · rw [List.head?_append_of_ne_nil _ hne]
      exact fun c hc => hspace c (List.mem_of_head? hc)
    · rw [words_of_append hspace, hitem.isOneWord.words_append hhead, hwords, List.map_cons]

variable {l : InfoLayout}

theorem IsShape.words_text (h : l.IsShape) :
    words l.text.toList = l.language.toList :: l.items.map (·.2.text) := by
  obtain ⟨hhead, hwords⟩ := words_items h.gaps h.items h.behind
  rw [text, String.toList_ofList, words_of_append h.before, h.language.words_append hhead, hwords]

/-- **An info string is read as its language and its attributes**, each set in its turn. -/
theorem IsShape.parse_text (h : l.IsShape) : InfoString.parse l.text =
    ⟨l.language, l.pairs.foldl (fun attrs pair => attrs.set pair.1 pair.2) []⟩ := by
  have hpairs : (l.items.map (·.2.text)).filterMap attribute? = l.pairs := by
    rw [List.filterMap_map, pairs]
    exact List.filterMap_congr fun piece hpiece => (h.items piece hpiece).attribute?_text
  rw [InfoString.parse, h.words_text]
  dsimp only
  rw [hpairs, String.ofList_toList]

end InfoLayout

/-- **Info strings read back.** Of a language and items, written with any white space around them
and with any quotes, the language is read and, as a map, the last value of each key. Info strings
whose attributes are the same in the same order are read as the same, whatever bare words and quotes
they have. -/
theorem InfoString.parse_reads_back :
    (∀ l : InfoLayout, l.IsShape →
      (parse l.text).language = l.language ∧ (parse l.text).attrs.keys.Nodup ∧
        ∀ key, (parse l.text).attrs.get? key = (valuesOf key l.pairs).getLast?) ∧
    ∀ l l' : InfoLayout, l.IsShape → l'.IsShape → l.language = l'.language → l.pairs = l'.pairs →
      parse l.text = parse l'.text := by
  refine ⟨fun l h => ⟨?_, nodup_keys_parse l.text, fun key => ?_⟩,
    fun l l' h h' hlanguage hpairs => ?_⟩
  · rw [h.parse_text]
  · rw [h.parse_text, Attributes.get?_foldl_set]
    exact Option.or_none
  · rw [h.parse_text, h'.parse_text, hlanguage, hpairs]

/-- A language with an equals sign, a key that is there twice, and a key that is empty. -/
def quotedLayout : InfoLayout where
  before := ['\u00a0']
  language := "a=b"
  items := [(['\u3000'], .attr "k" "x=y" .double), ([' '], .bare "lazy"),
    (['\t'], .attr "k" "" .single), ([' ', ' '], .attr "" "it's" .absent)]
  behind := ['\n']

/-- The same attributes in other quotes. -/
def plainLayout : InfoLayout where
  before := []
  language := "a=b"
  items := [([' '], .attr "k" "x=y" .absent), ([' '], .attr "k" "" .absent),
    ([' '], .attr "" "it's" .double)]
  behind := []

theorem InfoString.parse_reads_back_quotedLayout :
    quotedLayout.text = "\u00a0a=b\u3000k=\"x=y\" lazy\tk=''  =it's\n" ∧
      plainLayout.text = "a=b k=x=y k= =\"it's\"" ∧
      (parse quotedLayout.text).language = "a=b" ∧
      (parse quotedLayout.text).attrs.get? "k" = some "" ∧
      (parse quotedLayout.text).attrs.get? "" = some "it's" ∧
      (parse quotedLayout.text).attrs.get? "lazy" = none ∧
      parse quotedLayout.text = parse plainLayout.text := by
  obtain ⟨hread, hsame⟩ := parse_reads_back
  have hquoted : quotedLayout.IsShape := by
    constructor <;> decide +kernel
  have hplain : plainLayout.IsShape := by
    constructor <;> decide +kernel
  obtain ⟨hlanguage, -, hlast⟩ := hread quotedLayout hquoted
  refine ⟨by decide +kernel, by decide +kernel, hlanguage, ?_, ?_, ?_,
    hsame quotedLayout plainLayout hquoted hplain rfl rfl⟩
  · rw [hlast]
    decide
  · rw [hlast]
    decide
  · rw [hlast]
    decide

end DiagramDoc
