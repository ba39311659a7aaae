import CsdlHighlight.Page
import CsdlHighlight.Proofs.Markup.Reading

/-!
Contract: a page with escaping is read back as what was put on it.

Owns:
- the tokens of an event, of a widget and of a page, said without markup;
- the reading of every page with escaping as its tokens;
- the number of style elements and of widgets on it.

Does not own: pages with verbatim words, on which a word can be any markup.
-/

namespace CsdlHighlight

open Markup

/-! ## Events -/

namespace Event

/-- What a reader of markup sees of an event: a word inside a pair of tags with
the class of its category, a tag for each line break, and the characters of the
other delimiters. -/
def tokens : Event → List Token
  | .word category text =>
      .tag ["span class=".toList, category.styleClass, []] ::
        (text.map .char ++ [.tag ["/span".toList]])
  | .delimiter .newline => [.tag ["br/".toList]]
  | .escapedLineBreak => [.tag ["br/".toList]]
  | .delimiter .space => [.char nonBreakingBlank]
  | .delimiter .tab => [.char nonBreakingBlank, .char nonBreakingBlank]
  | .escapedTab => [.char nonBreakingBlank, .char nonBreakingBlank]
  | .delimiter mark => [.char mark.character]

def opened : Event → List Text
  | .word category _ =>
      ["span class=\"".toList ++ category.styleClass ++ ['"'], "/span".toList]
  | .delimiter .newline => ["br/".toList]
  | .escapedLineBreak => ["br/".toList]
  | _ => []

end Event

namespace Markup

theorem readsAs_character {character : Char} (noTag : character ≠ '<')
    (noEntity : character ≠ '&') :
    ReadsAs [character] [.char character] [] :=
  @ReadsAs.text [character] [character]
    (showsAs_self (by simpa using noTag.symm) (by simpa using noEntity.symm))

/-- Tags without attributes from outside, one behind the other. -/
theorem readsAs_tags {insides : List Text}
    (plain : ∀ inside ∈ insides, '<' ∉ inside ∧ '>' ∉ inside) :
    ReadsAs (insides.flatMap tagMarkup)
      (insides.map fun inside => .tag (tagParts inside)) insides := by
  induction insides with
  | nil => exact .nil
  | cons inside rest inductionHypothesis =>
      obtain ⟨⟨noStart, noEnd⟩, plainBehind⟩ := List.forall_mem_cons.mp plain
      exact (ReadsAs.tag noStart noEnd).append
        (inductionHypothesis plainBehind)

theorem readsAs_word (category : Category) (text : Text) :
    ReadsAs (ofEvent true (.word category text))
      (Event.word category text).tokens (Event.word category text).opened := by
  let start := "span class=\"".toList ++ category.styleClass ++ ['"']
  have shape : ofEvent true (.word category text) =
      tagMarkup start ++ (escapeText text ++ tagMarkup "/span".toList) := by
    cases category <;> rfl
  have parts : tagParts start =
      ["span class=".toList, category.styleClass, []] := by
    cases category <;> rfl
  have begins : ReadsAs (tagMarkup start) [.tag (tagParts start)] [start] :=
    .tag (by cases category <;> decide) (by cases category <;> decide)
  have ends : ReadsAs (tagMarkup "/span".toList) _ _ :=
    .tag (by decide) (by decide)
  rw [shape]
  rw [parts] at begins
  exact begins.append ((ReadsAs.text (showsAs_escapeText text)).append ends)

theorem readsAs_ofEvent (event : Event) :
    ReadsAs (ofEvent true event) event.tokens event.opened := by
  have lineBreak : ReadsAs lineBreak [.tag ["br/".toList]] ["br/".toList] :=
    @ReadsAs.tag "br/".toList (by decide) (by decide)
  have blank : ReadsAs blank [.char nonBreakingBlank] [] :=
    @ReadsAs.text blank [nonBreakingBlank] ⟨by decide, fun _ => rfl⟩
  have indent : ReadsAs indent
      [.char nonBreakingBlank, .char nonBreakingBlank] [] :=
    blank.append blank
  cases event with
  | word category text => exact readsAs_word category text
  | escapedLineBreak => exact lineBreak
  | escapedTab => exact indent
  | delimiter mark =>
      cases mark with
      | space => exact blank
      | newline => exact lineBreak
      | tab => exact indent
      | openBrace => exact readsAs_character (by decide) (by decide)
      | closeBrace => exact readsAs_character (by decide) (by decide)
      | openParen => exact readsAs_character (by decide) (by decide)
      | closeParen => exact readsAs_character (by decide) (by decide)

/-! ## Links -/

/-- The inside of a link tag: the address, and the attributes behind it. -/
def linkInside (url attributes : Text) : Text :=
  "a href=".toList ++ '"' :: (escapeAttribute url ++ '"' :: attributes)

theorem tagMarkup_linkInside (url attributes : Text) :
    tagMarkup (linkInside url attributes) =
      '<' :: ("a href=".toList ++
        '"' :: (escapeAttribute url ++ '"' :: (attributes ++ ['>']))) := by
  unfold tagMarkup linkInside
  rw [List.append_assoc, List.cons_append, List.append_assoc, List.cons_append]

theorem not_mem_linkInside {bracket : Char}
    (isBracket : bracket = '<' ∨ bracket = '>') (url : Text) {attributes : Text}
    (plain : bracket ∉ attributes) : bracket ∉ linkInside url attributes := by
  have notInName : bracket ∉ "a href=".toList := by
    rcases isBracket with rfl | rfl <;> decide
  have notQuote : bracket ≠ '"' := by
    rcases isBracket with rfl | rfl <;> decide
  have notInUrl := not_mem_escapeAttribute (.inr isBracket) url
  unfold linkInside
  simp only [List.mem_append, List.mem_cons, not_or]
  exact ⟨notInName, notQuote, notInUrl, notQuote, plain⟩

theorem readsAs_link (url : Text) {attributes : Text}
    (plain : '<' ∉ attributes ∧ '>' ∉ attributes) :
    ReadsAs (tagMarkup (linkInside url attributes))
      [.tag ("a href=".toList :: url :: tagParts attributes)]
      [linkInside url attributes] := by
  have parts : tagParts (linkInside url attributes) =
      "a href=".toList :: url :: tagParts attributes :=
    @tagParts_attribute "a href=".toList (by decide) url attributes
  rw [← parts]
  exact .tag (not_mem_linkInside (.inl rfl) url plain.1)
    (not_mem_linkInside (.inr rfl) url plain.2)

end Markup

/-! ## Widgets -/

namespace Snippet

/-- What a reader of markup sees of a widget.  The fields of the snippet and of
the options stand in it as they are. -/
def tokens (options : RenderOptions) (snippet : Snippet) : List Token :=
  [Token.tag ["div class=".toList, "csdl-embed".toList, []],
    .tag ["code class=".toList, "csdl-embed".toList, []]] ++
  (classify snippet.content).flatMap Event.tokens ++
  [Token.tag ["/code".toList],
    .tag ["div class=".toList, "csdl-embed-footer".toList, []]] ++
  [Token.tag ["a href=".toList, snippet.url, " target=".toList, "_blank".toList,
    []]] ++
  [Token.tag ["strong".toList]] ++
  snippet.filename.map Token.char ++
  [Token.tag ["/strong".toList], .tag ["/a".toList],
    .tag ["strong class=".toList, "name".toList, []]] ++
  snippet.username.map Token.char ++
  [Token.tag ["/strong".toList]] ++
  [Token.tag ["a href=".toList, options.attributionUrl, " class=".toList,
    "logo".toList, " target=".toList, "_blank".toList, []]] ++
  options.attributionName.map Token.char ++
  [Token.tag ["/a".toList],
    .tag ["br style=".toList, "clear:both;".toList, " /".toList],
    .tag ["/div".toList], .tag ["/div".toList]]

def startTags : List Text :=
  ["div class=\"csdl-embed\"".toList, "code class=\"csdl-embed\"".toList]

def footerTags : List Text :=
  ["/code".toList, "div class=\"csdl-embed-footer\"".toList]

def ownerTags : List Text :=
  ["/strong".toList, "/a".toList, "strong class=\"name\"".toList]

def endTags : List Text :=
  ["/a".toList, "br style=\"clear:both;\" /".toList, "/div".toList,
    "/div".toList]

def fileAttributes : Text := " target=\"_blank\"".toList

def creditAttributes : Text := " class=\"logo\" target=\"_blank\"".toList

def opened (options : RenderOptions) (snippet : Snippet) : List Text :=
  startTags ++ (classify snippet.content).flatMap Event.opened ++ footerTags ++
    [linkInside snippet.url fileAttributes] ++ ["strong".toList] ++ [] ++
    ownerTags ++ [] ++ ["/strong".toList] ++
    [linkInside options.attributionUrl creditAttributes] ++ [] ++ endTags

end Snippet

open Snippet in
/-- A widget is made of whole tags and of the texts between them. -/
theorem widget_eq (options : RenderOptions) (snippet : Snippet) :
    widget options snippet =
      startTags.flatMap tagMarkup ++
        highlight options.escaping snippet.content ++
        footerTags.flatMap tagMarkup ++
        tagMarkup (linkInside snippet.url fileAttributes) ++
        tagMarkup "strong".toList ++ escapeText snippet.filename ++
        ownerTags.flatMap tagMarkup ++ escapeText snippet.username ++
        tagMarkup "/strong".toList ++
        tagMarkup (linkInside options.attributionUrl creditAttributes) ++
        escapeText options.attributionName ++ endTags.flatMap tagMarkup := by
  have start : "<div class=\"csdl-embed\"><code class=\"csdl-embed\">".toList =
      startTags.flatMap tagMarkup := by
    rfl
  have footer : "</code><div class=\"csdl-embed-footer\"><a href=\"".toList =
      footerTags.flatMap tagMarkup ++ '<' :: ("a href=".toList ++ ['"']) := by
    rfl
  have behindUrl : "\" target=\"_blank\"><strong>".toList =
      '"' :: (fileAttributes ++ '>' :: tagMarkup "strong".toList) := by
    rfl
  have owner : "</strong></a><strong class=\"name\">".toList =
      ownerTags.flatMap tagMarkup := by
    rfl
  have behindUsername : "</strong><a href=\"".toList =
      tagMarkup "/strong".toList ++ '<' :: ("a href=".toList ++ ['"']) := by
    rfl
  have behindCreditUrl : "\" class=\"logo\" target=\"_blank\">".toList =
      '"' :: (creditAttributes ++ ['>']) := by
    rfl
  have closing : "</a><br style=\"clear:both;\" /></div></div>".toList =
      endTags.flatMap tagMarkup := by
    rfl
  unfold widget
  simp only [start, footer, behindUrl, owner, behindUsername, behindCreditUrl,
    closing, tagMarkup_linkInside, List.append_assoc, List.cons_append,
    List.nil_append]

/-- A widget is read as its tags, its events, and the fields of its footer as
they are. -/
theorem readsAs_widget {options : RenderOptions}
    (escaping : options.escaping = true) (snippet : Snippet) :
    ReadsAs (widget options snippet) (snippet.tokens options)
      (snippet.opened options) := by
  have start : ReadsAs (Snippet.startTags.flatMap tagMarkup)
      [.tag ["div class=".toList, "csdl-embed".toList, []],
        .tag ["code class=".toList, "csdl-embed".toList, []]]
      Snippet.startTags := readsAs_tags (by decide)
  have content : ReadsAs (highlight true snippet.content) _ _ :=
    ReadsAs.flatMap readsAs_ofEvent (classify snippet.content)
  have footer : ReadsAs (Snippet.footerTags.flatMap tagMarkup)
      [.tag ["/code".toList],
        .tag ["div class=".toList, "csdl-embed-footer".toList, []]]
      Snippet.footerTags := readsAs_tags (by decide)
  have fileLink : ReadsAs
      (tagMarkup (linkInside snippet.url Snippet.fileAttributes)) _ _ :=
    readsAs_link snippet.url (by decide)
  have strong : ReadsAs (tagMarkup "strong".toList) _ _ :=
    .tag (by decide) (by decide)
  have filename := ReadsAs.text (showsAs_escapeText snippet.filename)
  have owner : ReadsAs (Snippet.ownerTags.flatMap tagMarkup)
      [.tag ["/strong".toList], .tag ["/a".toList],
        .tag ["strong class=".toList, "name".toList, []]]
      Snippet.ownerTags := readsAs_tags (by decide)
  have username := ReadsAs.text (showsAs_escapeText snippet.username)
  have strongEnd : ReadsAs (tagMarkup "/strong".toList) _ _ :=
    .tag (by decide) (by decide)
  have creditLink : ReadsAs
      (tagMarkup (linkInside options.attributionUrl Snippet.creditAttributes))
      _ _ :=
    readsAs_link options.attributionUrl (by decide)
  have credit := ReadsAs.text (showsAs_escapeText options.attributionName)
  have closing : ReadsAs (Snippet.endTags.flatMap tagMarkup)
      [.tag ["/a".toList],
        .tag ["br style=".toList, "clear:both;".toList, " /".toList],
        .tag ["/div".toList], .tag ["/div".toList]]
      Snippet.endTags := readsAs_tags (by decide)
  rw [widget_eq, escaping]
  exact start.append content |>.append footer |>.append fileLink
    |>.append strong |>.append filename |>.append owner |>.append username
    |>.append strongEnd |>.append creditLink |>.append credit
    |>.append closing

/-! ## Pages -/

/-- A test of every character of a literal. -/
theorem Text.all_literal {characters : List Char} {test : Char → Bool}
    (holds : characters.all test = true) :
    (String.ofList characters).toList.all test = true := by
  rwa [String.toList_ofList]

inductive PageEntry where
  | snippet (shown : Snippet)
  | failure
deriving DecidableEq, Repr

namespace PageEntry

def addTo (page : Page) : PageEntry → Page
  | .snippet shown => page.addSnippet shown
  | .failure => page.addFailure

def isSnippet : PageEntry → Bool
  | .snippet _ => true
  | .failure => false

def markup (options : RenderOptions) : PageEntry → Text
  | .snippet shown => widget options shown
  | .failure => failureMessage

def tokens (options : RenderOptions) : PageEntry → List Token
  | .snippet shown => shown.tokens options
  | .failure =>
      [.tag ["em".toList]] ++
        "-- Failed to embed CSDL --".toList.map .char ++ [.tag ["/em".toList]]

def opened (options : RenderOptions) : PageEntry → List Text
  | .snippet shown => shown.opened options
  | .failure => ["em".toList, "/em".toList]

end PageEntry

namespace Page

def ofEntries (options : RenderOptions) (entries : List PageEntry) : Page :=
  entries.foldl PageEntry.addTo (empty options)

theorem foldl_addTo (page : Page) (entries : List PageEntry) :
    entries.foldl PageEntry.addTo page =
      { page with
        body := page.body ++ entries.flatMap (PageEntry.markup page.options) } := by
  induction entries generalizing page with
  | nil => rw [List.flatMap_nil, List.append_nil]; rfl
  | cons entry rest inductionHypothesis =>
      rw [List.foldl_cons, inductionHypothesis, List.flatMap_cons]
      cases entry with
      | snippet shown =>
          simp only [PageEntry.addTo, addSnippet, PageEntry.markup,
            List.append_assoc]
      | failure =>
          simp only [PageEntry.addTo, addFailure, PageEntry.markup,
            List.append_assoc]

theorem finish_ofEntries (options : RenderOptions) (entries : List PageEntry) :
    (ofEntries options entries).finish =
      head ++ entries.flatMap (PageEntry.markup options) := by
  rw [ofEntries, foldl_addTo]
  rfl

def headTokens : List Token :=
  [.tag ["style type=".toList, "text/css".toList, []]] ++
    styleSheet.map .char ++ [.tag ["/style".toList]]

def headOpened : List Text :=
  ["style type=\"text/css\"".toList, "/style".toList]

theorem showsAs_styleSheet : ShowsAs styleSheet styleSheet := by
  have plain : styleSheet.all (fun c => c != '<' && c != '&') = true := by
    unfold styleSheet
    simp only [List.all_append, Bool.and_eq_true]
    and_intros <;> exact Text.all_literal (by decide)
  have each := List.all_eq_true.mp plain
  refine showsAs_self (fun member => ?_) (fun member => ?_)
  · exact absurd (each _ member) (by decide)
  · exact absurd (each _ member) (by decide)

theorem readsAs_head : ReadsAs head headTokens headOpened := by
  have start : ReadsAs (tagMarkup "style type=\"text/css\"".toList) _ _ :=
    .tag (by decide) (by decide)
  have sheet := ReadsAs.text showsAs_styleSheet
  have closing : ReadsAs (tagMarkup "/style".toList) _ _ :=
    .tag (by decide) (by decide)
  exact start.append sheet |>.append closing

theorem readsAs_entry {options : RenderOptions}
    (escaping : options.escaping = true) (entry : PageEntry) :
    ReadsAs (entry.markup options) (entry.tokens options)
      (entry.opened options) := by
  cases entry with
  | snippet shown => exact readsAs_widget escaping shown
  | failure =>
      have start : ReadsAs (tagMarkup "em".toList) _ _ :=
        .tag (by decide) (by decide)
      have message := ReadsAs.text
        (@showsAs_self "-- Failed to embed CSDL --".toList (by decide)
          (by decide))
      have closing : ReadsAs (tagMarkup "/em".toList) _ _ :=
        .tag (by decide) (by decide)
      exact start.append message |>.append closing

/-- A page is read as the style sheet, and behind it the entries in their
order. -/
theorem readsAs_finish {options : RenderOptions}
    (escaping : options.escaping = true) (entries : List PageEntry) :
    ReadsAs (ofEntries options entries).finish
      (headTokens ++ entries.flatMap (PageEntry.tokens options))
      (headOpened ++ entries.flatMap (PageEntry.opened options)) := by
  rw [finish_ofEntries]
  exact readsAs_head.append (.flatMap (readsAs_entry escaping) entries)

end Page

/-! ## Counting elements -/

def styleStart : Text := "style".toList

def widgetStart : Text := "div class=\"csdl-embed\">".toList

def startsWith (start inside : Text) : Bool :=
  start.isPrefixOf (inside ++ ['>'])

/-- No event opens a style element or a widget. -/
theorem countP_event {start : Text}
    (isStart : start = styleStart ∨ start = widgetStart) (event : Event) :
    event.opened.countP (startsWith start) = 0 := by
  cases event with
  | word category text =>
      rcases isStart with rfl | rfl <;> cases category <;> rfl
  | delimiter mark =>
      rcases isStart with rfl | rfl <;> cases mark <;> rfl
  | escapedLineBreak => rcases isStart with rfl | rfl <;> rfl
  | escapedTab => rfl

/-- No event opens a style element or a widget, whatever its text. -/
theorem countP_events {start : Text}
    (isStart : start = styleStart ∨ start = widgetStart)
    (events : List Event) :
    (events.flatMap Event.opened).countP (startsWith start) = 0 := by
  rw [List.countP_eq_zero]
  intro inside member
  obtain ⟨event, _, inEvent⟩ := List.mem_flatMap.mp member
  exact List.countP_eq_zero.mp (countP_event isStart event) inside inEvent

/-- No entry opens a style element. -/
theorem countP_style_entry (options : RenderOptions) (entry : PageEntry) :
    (entry.opened options).countP (startsWith styleStart) = 0 := by
  cases entry with
  | snippet shown =>
      simp only [PageEntry.opened, Snippet.opened, List.countP_append,
        countP_events (.inl rfl)]
      rfl
  | failure => rfl

/-- A snippet opens one widget, and a failure none. -/
theorem countP_widget_entry (options : RenderOptions) (entry : PageEntry) :
    (entry.opened options).countP (startsWith widgetStart) =
      if entry.isSnippet then 1 else 0 := by
  cases entry with
  | snippet shown =>
      simp only [PageEntry.opened, Snippet.opened, List.countP_append,
        countP_events (.inr rfl)]
      rfl
  | failure => rfl

theorem countP_style_entries (options : RenderOptions)
    (entries : List PageEntry) :
    (entries.flatMap (PageEntry.opened options)).countP
      (startsWith styleStart) = 0 := by
  rw [List.countP_eq_zero]
  intro inside member
  obtain ⟨entry, _, inEntry⟩ := List.mem_flatMap.mp member
  exact List.countP_eq_zero.mp (countP_style_entry options entry) inside inEntry

theorem countP_widget_entries (options : RenderOptions)
    (entries : List PageEntry) :
    (entries.flatMap (PageEntry.opened options)).countP
      (startsWith widgetStart) = entries.countP PageEntry.isSnippet := by
  induction entries with
  | nil => rfl
  | cons entry rest inductionHypothesis =>
      rw [List.flatMap_cons, List.countP_append, List.countP_cons,
        inductionHypothesis, countP_widget_entry, Nat.add_comm]

/-- With escaping, a page is read back as the style sheet and what was put on
the page, in order: no field of a snippet and no option adds a tag, takes one
away or changes one, and each stands where it belongs, as it is.  There is one
style element, and one widget for each snippet. -/
theorem Page.tokens_finish {options : RenderOptions}
    (escaping : options.escaping = true) (entries : List PageEntry) :
    let markup := (Page.ofEntries options entries).finish
    tokens markup =
        Page.headTokens ++ entries.flatMap (PageEntry.tokens options) ∧
      Text.occurrences "<style".toList markup = 1 ∧
      Text.occurrences "<div class=\"csdl-embed\">".toList markup =
        entries.countP PageEntry.isSnippet := by
  have reads := Page.readsAs_finish escaping entries
  refine ⟨reads.tokens_eq, ?_, ?_⟩
  · calc
      Text.occurrences ('<' :: styleStart)
            (Page.ofEntries options entries).finish =
          (Page.headOpened ++ entries.flatMap (PageEntry.opened options)).countP
            (startsWith styleStart) := reads.occurrences_eq (by decide)
      _ = 1 := by
        rw [List.countP_append, countP_style_entries]
        rfl
  · calc
      Text.occurrences ('<' :: widgetStart)
            (Page.ofEntries options entries).finish =
          (Page.headOpened ++ entries.flatMap (PageEntry.opened options)).countP
            (startsWith widgetStart) := reads.occurrences_eq (by decide)
      _ = entries.countP PageEntry.isSnippet := by
        rw [List.countP_append, countP_widget_entries]
        exact Nat.zero_add _

/-- Markup in every field stays text: the address with a quote and a style tag in
it adds no style element, and the comment with the tag of a widget no widget. -/
theorem Page.tokens_finish_with_markup_in_fields :
    let options : RenderOptions :=
      ⟨true, "</a><style>".toList, "\" onclick=\"x".toList⟩
    let snippet : Snippet :=
      { content := "a // <div class=\"csdl-embed\">".toList
        filename := "<script>".toList
        username := "&amp;".toList
        url := "x\"><style".toList }
    let markup :=
      (Page.ofEntries options [.snippet snippet, .failure]).finish
    options.escaping = true ∧
      tokens markup =
        Page.headTokens ++
          (snippet.tokens options ++ PageEntry.failure.tokens options) ∧
      Text.occurrences "<style".toList markup = 1 ∧
      Text.occurrences "<div class=\"csdl-embed\">".toList markup = 1 := by
  intro options snippet markup
  have escaping : options.escaping = true := rfl
  obtain ⟨read, styles, widgets⟩ :=
    Page.tokens_finish escaping [.snippet snippet, .failure]
  refine ⟨escaping, ?_, styles, widgets⟩
  rw [read, List.flatMap_cons, List.flatMap_singleton]
  rfl

end CsdlHighlight
