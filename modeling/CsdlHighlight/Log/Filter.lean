import CsdlHighlight.Log.Line
import CsdlHighlight.Pattern.Admission
import CsdlHighlight.Pattern.Search

/-!
Contract: the choice of the log records that the user of a command sees.

Owns:
- `LogFilter`, with rules by source and a pattern for the messages;
- `LogWish`, the filter that a user asks for in writing, with what could not be
  understood of it.

Does not own: where the wish is written, and the form of a line.
-/

namespace CsdlHighlight

/-- A rule for the records of all sources that begin with a text, or of all
sources.  They are shown from a level on, or not at all. -/
structure LogRule where
  source : Option Text
  least : Option LogLevel
deriving DecidableEq, Repr

namespace LogRule

def covers (rule : LogRule) (source : Text) : Bool :=
  match rule.source with
  | some start => start.isPrefixOf source
  | none => true

/-- How closely a rule describes its sources: by so many bytes. -/
def weight (rule : LogRule) : Nat :=
  match rule.source with
  | some start => (Utf8.encode start).length
  | none => 0

def admits (rule : LogRule) (level : LogLevel) : Bool :=
  match rule.least with
  | some least => least.severity ≤ level.severity
  | none => false

end LogRule

/-- The rules in force, and a pattern that has to occur in every message. -/
structure LogFilter where
  rules : List LogRule
  pattern : Option Pattern
deriving DecidableEq, Repr

namespace LogFilter

/-- The rule of a source: the one that describes it most closely, and of two
equally close ones the later. -/
def ruleFor? (filter : LogFilter) (source : Text) : Option LogRule :=
  filter.rules.foldl
    (fun best rule =>
      if rule.covers source && best.all fun found => found.weight ≤ rule.weight
      then some rule
      else best)
    none

def admits (filter : LogFilter) (entry : LogRecord) : Bool :=
  match filter.ruleFor? entry.source with
  | some rule => rule.admits entry.level
  | none => false

def passes (filter : LogFilter) (entry : LogRecord) : Bool :=
  filter.admits entry &&
    filter.pattern.all fun pattern => pattern.occursIn entry.message

def lines (filter : LogFilter) (log : List LogRecord) : List Text :=
  (log.filter filter.passes).map LogRecord.line

def setRule (rule : LogRule) : List LogRule → List LogRule
  | [] => [rule]
  | first :: rest =>
      if first.source = rule.source then rule :: rest
      else first :: setRule rule rest

end LogFilter

/-! ## Wishes -/

/-- What a user has asked for: rules and a pattern, and complaints about the
rest. -/
structure LogWish where
  rules : List LogRule
  pattern : Option Pattern
  complaints : List Text
deriving DecidableEq, Repr

namespace LogWish

def nothing : LogWish :=
  ⟨[], none, []⟩

/-- The level from which on records are shown, by its name in any letter case;
there is a name for none at all. -/
def least? (name : Text) : Option (Option LogLevel) :=
  let capitals := name.map Char.toUpper
  if capitals = "OFF".toList then
    some none
  else
    ([.error, .warn, .info, .debug, .trace].find? fun level : LogLevel =>
      level.name = capitals).map some

def invalid (written : Text) : Text :=
  "invalid logging spec '".toList ++ written ++ ['\'']

/-- The rule of one item, or the complaint about it: a level for all sources, a
source with its level, or a source of which everything is shown. -/
def rule (item : Text) : Except Text LogRule :=
  match Text.cutAt '=' item with
  | [only] =>
      match least? only with
      | some least => .ok ⟨none, least⟩
      | none => .ok ⟨some only, some .trace⟩
  | [source, written] =>
      if (Text.trim written).isEmpty then
        .ok ⟨some source, some .trace⟩
      else
        match least? (Text.trim written) with
        | some least => .ok ⟨some source, least⟩
        | none => .error (invalid (Text.trim written))
  | _ => .error (invalid item)

def complain (wish : LogWish) (complaint : Text) : LogWish :=
  { wish with complaints := wish.complaints ++ [complaint] }

def addItem (wish : LogWish) (item : Text) : LogWish :=
  match rule item with
  | .ok rule => { wish with rules := LogFilter.setRule rule wish.rules }
  | .error complaint => wish.complain complaint

def addPattern (wish : LogWish) (written : Text) : LogWish :=
  match Pattern.read written with
  | .ok pattern => { wish with pattern := some pattern }
  | .error refusal =>
      wish.complain ("invalid regex filter - ".toList ++ refusal.message written)

def ofItems (text : Text) : LogWish :=
  (((Text.cutAt ',' text).map Text.trim).filter fun item =>
    !item.isEmpty).foldl addItem nothing

/-- The wish written by a text: items, and perhaps a pattern behind a slash. -/
def ofText (text : Text) : LogWish :=
  match Text.cutAt '/' text with
  | [items] => ofItems items
  | [items, pattern] => (ofItems items).addPattern pattern
  | _ => nothing.complain (invalid text ++ " (too many '/'s)".toList)

/-- The filter of a wish.  The rule for all sources cannot be changed: it shows
records from `info` on. -/
def filter (wish : LogWish) : LogFilter :=
  ⟨LogFilter.setRule ⟨none, some .info⟩ wish.rules, wish.pattern⟩

def warnings (wish : LogWish) : List Text :=
  wish.complaints.map fun complaint =>
    "warning: ".toList ++ complaint ++ ", ignoring it\n".toList

end LogWish

end CsdlHighlight
