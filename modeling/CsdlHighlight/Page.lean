import CsdlHighlight.Gist
import CsdlHighlight.Markup.Fragment

/-!
Contract: pages of highlighted snippets.

Owns:
- `RenderOptions`, what all widgets of a page have in common;
- the widget of a snippet;
- `Page`, which collects widgets and failure messages under one style sheet.

Does not own: the script that carries a page.
-/

namespace CsdlHighlight

def failureMessage : Text :=
  "<em>-- Failed to embed CSDL --</em>".toList

def styleSheet : Text :=
  ".csdl-embed\x7bmargin-top:4px;font-family:Helvetica,Arial,sans-serif;".toList ++
  "font-size:12px;overflow:hidden;font-style:normal;font-weight:normal;".toList ++
  "text-transform:none;letter-spacing:normal;line-height:1.5em\x7d".toList ++
  ".csdl-embed code\x7bfont-family:\"courier new\";background:#EFEFEF;".toList ++
  "padding:10px 15px;border:1px solid #DCDCDC;border-bottom:0px;".toList ++
  "display:block;border-top-left-radius:3px;".toList ++
  "border-top-right-radius:3px\x7d".toList ++
  ".csdl-embed code .category-keyword\x7bcolor:black\x7d".toList ++
  ".csdl-embed code .category-operator\x7bcolor:red\x7d".toList ++
  ".csdl-embed code .category-string\x7bcolor:green;white-space:nowrap\x7d".toList ++
  ".csdl-embed code .category-predicate\x7bcolor:blue\x7d".toList ++
  ".csdl-embed code .category-int\x7bcolor:darkgreen\x7d".toList ++
  ".csdl-embed code .category-comment\x7bcolor:grey\x7d".toList ++
  ".csdl-embed .csdl-embed-footer\x7bmargin-bottom:4px;background:#2C2B33;".toList ++
  "border:1px solid #0B0B0D;padding:10px 10px;overflow:hidden;".toList ++
  "border-bottom-left-radius:3px;border-bottom-right-radius:3px\x7d".toList ++
  ".csdl-embed .csdl-embed-footer a\x7bcolor:#FFF;text-decoration:none;".toList ++
  "display:block;float:left;margin-right:5px\x7d".toList ++
  ".csdl-embed .csdl-embed-footer a.logo\x7bmargin-right:0px;float:right\x7d".toList ++
  ".csdl-embed .csdl-embed-footer strong.name\x7bfloat:left;".toList ++
  "margin-right:5px;color:#FFF\x7d".toList

def defaultAttributionName : Text := "DataSift".toList

def defaultAttributionUrl : Text := "http://datasift.com".toList

/-- What all widgets of a page have in common. -/
structure RenderOptions where
  escaping : Bool
  attributionName : Text
  attributionUrl : Text
deriving DecidableEq, Repr

namespace RenderOptions

/-- Words verbatim and credit to the default name. -/
def standard : RenderOptions :=
  ⟨false, defaultAttributionName, defaultAttributionUrl⟩

end RenderOptions

/-- The widget of a snippet: the highlighted content over a footer with the
file, its owner and the credit.  The footer is always escaped. -/
def widget (options : RenderOptions) (snippet : Snippet) : Text :=
  "<div class=\"csdl-embed\"><code class=\"csdl-embed\">".toList ++
    Markup.highlight options.escaping snippet.content ++
  "</code><div class=\"csdl-embed-footer\"><a href=\"".toList ++
    Markup.escapeAttribute snippet.url ++
  "\" target=\"_blank\"><strong>".toList ++
    Markup.escapeText snippet.filename ++
  "</strong></a><strong class=\"name\">".toList ++
    Markup.escapeText snippet.username ++
  "</strong><a href=\"".toList ++
    Markup.escapeAttribute options.attributionUrl ++
  "\" class=\"logo\" target=\"_blank\">".toList ++
    Markup.escapeText options.attributionName ++
  "</a><br style=\"clear:both;\" /></div></div>".toList

structure Page where
  options : RenderOptions
  body : Text
deriving DecidableEq, Repr

namespace Page

def empty (options : RenderOptions) : Page :=
  ⟨options, []⟩

def addSnippet (page : Page) (snippet : Snippet) : Page :=
  { page with body := page.body ++ widget page.options snippet }

def addFailure (page : Page) : Page :=
  { page with body := page.body ++ failureMessage }

def head : Text :=
  "<style type=\"text/css\">".toList ++ styleSheet ++ "</style>".toList

def finish (page : Page) : Text :=
  head ++ page.body

end Page

def renderPage (options : RenderOptions) (lookup : Option (List Snippet)) :
    Text :=
  match lookup with
  | some snippets =>
      (snippets.foldl Page.addSnippet (Page.empty options)).finish
  | none => (Page.empty options).addFailure.finish

/-- The records that the page of a lookup leaves: those of each snippet's
classification, in order. -/
def pageLog (lookup : Option (List Snippet)) : List LogRecord :=
  match lookup with
  | some snippets =>
      snippets.flatMap fun snippet => classificationLog snippet.content
  | none => []

end CsdlHighlight
