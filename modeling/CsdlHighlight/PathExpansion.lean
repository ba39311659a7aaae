import CsdlHighlight.Environment
import CsdlHighlight.Text.Alphanumeric

/-!
Contract: expansion of variables and of the home directory in paths.

Owns:
- the five forms in which a dollar sign can stand;
- the tilde at the head of a path;
- `expand`, the two together, which fails when a variable is unset.

Does not own: what is done with a path that cannot be expanded.
-/

namespace CsdlHighlight.PathExpansion

def isNameChar (character : Char) : Bool :=
  Text.isAlphanumeric character || character == '_'

def nameAndDefault (inside : Text) : Text × Option Text :=
  match Text.splitFirst? [':', '-'] inside with
  | some (first :: name, fallback) => (first :: name, some fallback)
  | _ => (inside, none)

def bracedValue? (environment : Environment) (inside : Text) : Option Text :=
  match nameAndDefault inside with
  | (name, fallback) => (environment.value? name).or fallback

/-- Expand the variables of a text, from left to right; values and defaults
are not expanded again.  Every step takes at least one character, so the length
of the text is enough `fuel`. -/
def expandVariablesIn (environment : Environment) : Nat → Text → Option Text
  | _, [] => some []
  | 0, _ :: _ => none
  | fuel + 1, '$' :: rest =>
      match rest with
      | '$' :: behind =>
          (expandVariablesIn environment fuel behind).map ('$' :: ·)
      | '{' :: opened =>
          match Text.splitFirst? ['}'] opened with
          | some (inside, behind) =>
              (bracedValue? environment inside).bind fun value =>
                (expandVariablesIn environment fuel behind).map (value ++ ·)
          | none =>
              (expandVariablesIn environment fuel opened).map (['$', '{'] ++ ·)
      | _ =>
          if (rest.takeWhile isNameChar).isEmpty then
            (expandVariablesIn environment fuel rest).map ('$' :: ·)
          else
            (environment.value? (rest.takeWhile isNameChar)).bind fun value =>
              (expandVariablesIn environment fuel
                (rest.dropWhile isNameChar)).map (value ++ ·)
  | fuel + 1, character :: rest =>
      (expandVariablesIn environment fuel rest).map (character :: ·)

/-- Expand the variables of a text, unless one of them is unset and has no
default. -/
def expandVariables (environment : Environment) (text : Text) : Option Text :=
  expandVariablesIn environment text.length text

/-- Put the home directory in the place of a tilde that stands alone or before
a slash.  Without a home directory the tilde stays. -/
def expandHome (environment : Environment) (text : Text) : Text :=
  match text with
  | '~' :: rest =>
      if rest.isEmpty || rest.head? == some '/' then
        match environment.home? with
        | some home => home ++ rest
        | none => text
      else
        text
  | _ => text

/-- Expand a text.  A tilde that only came with the value of a variable is not
expanded. -/
def expand (environment : Environment) (text : Text) : Option Text :=
  (expandVariables environment text).map fun expanded =>
    if expanded.head? == some '~' && text.head? != some '~' then
      expanded
    else
      expandHome environment expanded

/-- Expand a path, or keep it as it is where that fails. -/
def expandPath (environment : Environment) (path : Path) : Path :=
  match expand environment path.display with
  | some expanded => Path.ofText expanded
  | none => path

end CsdlHighlight.PathExpansion
