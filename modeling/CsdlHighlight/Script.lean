import CsdlHighlight.Log
import CsdlHighlight.Snippet.Record

/-!
Contract: the scripts that bring a page or its records to another site.

Owns:
- `ScriptTemplate`, a script with one place for the records;
- the default template;
- the script that writes a finished page.

Does not own: the lookup of the records.
-/

namespace CsdlHighlight

/-- The place in a template where the records go. -/
def placeholder : Text := "%%CSDL%%".toList

def scriptContentType : Text := "application/javascript".toList

/-- A script with a place for the records.  A template without the placeholder
is allowed: it drops the records. -/
structure ScriptTemplate where
  script : Text
deriving DecidableEq, Repr

namespace ScriptTemplate

def standard : ScriptTemplate :=
  { script :=
      "(function() \x7b\n".toList ++
      "\n".toList ++
      "\tvar csdl = %%CSDL%%;\n".toList ++
      "\n".toList ++
      "\tvar escape = function(text) \x7b\n".toList ++
      "\t\treturn String(text)\n".toList ++
      "\t\t\t.replace(/&/g, '&amp;')\n".toList ++
      "\t\t\t.replace(/</g, '&lt;')\n".toList ++
      "\t\t\t.replace(/>/g, '&gt;')\n".toList ++
      "\t\t\t.replace(/\"/g, '&quot;');\n".toList ++
      "\t\x7d;\n".toList ++
      "\n".toList ++
      "\tif (!csdl) \x7b\n".toList ++
      "\t\tdocument.write('<em>-- Failed to embed CSDL --</em>');\n".toList ++
      "\t\treturn;\n".toList ++
      "\t\x7d\n".toList ++
      "\n".toList ++
      "\tfor (var i = 0; i < csdl.length; ++i) \x7b\n".toList ++
      "\t\tdocument.write(\n".toList ++
      "\t\t\t'<div class=\"csdl-embed\"><code class=\"csdl-embed\">' + escape(csdl[i].content) + '</code>' +\n".toList ++
      "\t\t\t'<div class=\"csdl-embed-footer\">' +\n".toList ++
      "\t\t\t'<a href=\"' + escape(csdl[i].url) + '\" target=\"_blank\"><strong>' + escape(csdl[i].filename) + '</strong></a>' +\n".toList ++
      "\t\t\t'<strong class=\"name\">' + escape(csdl[i].username) + '</strong>' +\n".toList ++
      "\t\t\t'<a href=\"http://datasift.com\" class=\"logo\" target=\"_blank\">DataSift</a>' +\n".toList ++
      "\t\t\t'<br style=\"clear:both;\" /></div></div>');\n".toList ++
      "\t\x7d\n".toList ++
      "\n".toList ++
      "\x7d)();\n".toList }

/-- A warning for a template that has no place for the records. -/
def log (template : ScriptTemplate) : List LogRecord :=
  if Text.occurs placeholder template.script then
    []
  else
    [⟨.warn, "csdl_embed_engine::embed".toList,
      "Embed template has no %%CSDL%% placeholder, payload will be dropped".toList⟩]

/-- What goes into the place: the array of the records, or `null` when the
lookup failed. -/
def payload (lookup : Option (List Snippet)) : Text :=
  match lookup with
  | some snippets => Snippet.arrayToJson snippets
  | none => "null".toList

/-- Fill the first place of a template. -/
def render (template : ScriptTemplate) (lookup : Option (List Snippet)) :
    Text :=
  Text.replaceFirst placeholder (payload lookup) template.script

end ScriptTemplate

/-- The script that writes some markup into the page that loads it.  A string
literal of JSON is also one of the script's language. -/
def writingScript (markup : Text) : Text :=
  "document.write(".toList ++ Json.literal markup ++ ");\n".toList

end CsdlHighlight
