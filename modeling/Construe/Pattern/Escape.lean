import Construe.Unicode.Property
import Construe.Pattern.Ast
import Construe.Pattern.Fault

/-! # Single items and escapes

Readers take the rest of the pattern and give back what they leave. In verbose mode white space
and comments stand between the parts of an escape as well. -/
namespace Construe.Pattern

def isBlank (c : Char) : Bool := Unicode.space.contains c

/-- Drops white space and comments, starting inside a comment if told so. -/
def skipBlanks : (inComment : Bool) → List Char → List Char
  | _, [] => []
  | true, c :: cs => skipBlanks (c != '\n') cs
  | false, c :: cs =>
    if isBlank c then skipBlanks false cs
    else if c == '#' then skipBlanks true cs
    else c :: cs

/-- Verbose mode ignores white space and comments; otherwise they count. -/
def skip (verbose : Bool) (cs : List Char) : List Char :=
  if verbose then skipBlanks false cs else cs

/-- What a single item can be. -/
inductive Item where
  | letter (c : Letter)
  | dot
  | assertion (kind : Assertion)
  | shorthand (negated : Bool) (kind : Shorthand)
  | property (negated : Bool) (name : PropertyName)

def Item.toAst : Item → Ast
  | .letter c => .letter c
  | .dot => .dot
  | .assertion kind => .assertion kind
  | .shorthand negated kind => .shorthand negated kind
  | .property negated name => .property negated name

/-- Characters with a meaning of their own somewhere in a pattern. -/
def isMeta (c : Char) : Bool := "\\.+*?()|[]\x7b\x7d^$#&-~".contains c

/-- Characters that a backslash leaves as they are. -/
def isEscapable (c : Char) : Bool :=
  isMeta c || (c.toNat < 0x80 && !c.isAlphanum && c != '<' && c != '>')

def hexDigit? (c : Char) : Option Nat :=
  if '0' ≤ c ∧ c ≤ '9' then some (c.toNat - '0'.toNat)
  else if 'a' ≤ c ∧ c ≤ 'f' then some (c.toNat - 'a'.toNat + 10)
  else if 'A' ≤ c ∧ c ≤ 'F' then some (c.toNat - 'A'.toNat + 10)
  else none

def charOfCode (n : Nat) : Except Fault Char :=
  if n.isValidChar then .ok (Char.ofNat n) else .error .badEscape

/-- Exactly `count` hexadecimal digits. -/
def readHexDigits (verbose : Bool) : (count : Nat) → (value : Nat) → List Char →
    Except Fault (Nat × List Char)
  | 0, value, cs => .ok (value, cs)
  | _ + 1, _, [] => .error .badEscape
  | count + 1, value, c :: cs =>
    match hexDigit? c with
    | none => .error .badEscape
    | some d => readHexDigits verbose count (value * 16 + d) (skip verbose cs)

/-- Text up to a closing brace. `inComment` is set while a verbose-mode comment is passed over. -/
def readBraced (verbose : Bool) : (inComment : Bool) → (text : List Char) → List Char →
    Except Fault (List Char × List Char)
  | _, _, [] => .error .badEscape
  | inComment, text, c :: cs =>
    if inComment then readBraced verbose (c != '\n') text cs
    else if verbose && isBlank c then readBraced verbose false text cs
    else if verbose && c == '#' then readBraced verbose true text cs
    else if c == '\x7d' then .ok (text.reverse, cs)
    else readBraced verbose false (c :: text) cs

def hexValue? : List Char → Option Nat
  | [] => none
  | cs => cs.foldlM (fun value c => (hexDigit? c).map (value * 16 + ·)) 0

/-- A character by its code, after `x`, `u` or `U`. -/
def readHex (verbose : Bool) (digits : Nat) (cs : List Char) : Except Fault (Item × List Char) :=
  match skip verbose cs with
  | [] => .error .badEscape
  | '\x7b' :: rest => do
    let (text, rest) ← readBraced verbose false [] rest
    match hexValue? text with
    | none => .error .badEscape
    | some value => return (.letter ⟨← charOfCode value, false⟩, skip verbose rest)
  | rest => do
    let (value, rest) ← readHexDigits verbose digits 0 rest
    return (.letter ⟨← charOfCode value, digits == 2⟩, rest)

/-- Splits at the first occurrence of a separator. -/
def splitAtFirst (sep : List Char) : (before : List Char) → List Char → Option (String × String)
  | _, [] => none
  | before, c :: cs =>
    if sep.isPrefixOf (c :: cs) then
      some (String.ofList before.reverse, String.ofList ((c :: cs).drop sep.length))
    else splitAtFirst sep (c :: before) cs

/-- A property by its text, and whether `!=` asks for the characters without it. -/
def PropertyName.ofText (text : List Char) : PropertyName × Bool :=
  match splitAtFirst ['!', '='] [] text with
  | some (name, value) => (⟨name, some value⟩, true)
  | none =>
    match splitAtFirst [':'] [] text <|> splitAtFirst ['='] [] text with
    | some (name, value) => (⟨name, some value⟩, false)
    | none => (⟨String.ofList text, none⟩, false)

/-- A property, after `p` or `P`. -/
def readProperty (verbose : Bool) (negated : Bool) (cs : List Char) :
    Except Fault (Item × List Char) :=
  match skip verbose cs with
  | [] => .error .badEscape
  | '\x7b' :: rest => do
    let (text, rest) ← readBraced verbose false [] rest
    let (name, without) := PropertyName.ofText text
    return (.property (negated != without) name, rest)
  | '\\' :: _ => .error .badEscape
  | c :: rest => .ok (.property negated ⟨c.toString, none⟩, skip verbose rest)

def isBoundaryChar (c : Char) : Bool := c.isAlpha || c == '-'

/-- The name of a special word boundary, in verbose mode with blanks between its letters. -/
def readBoundaryName (verbose : Bool) : (inComment : Bool) → (name : List Char) → List Char →
    Except Fault (String × List Char)
  | _, _, [] => .error .badEscape
  | inComment, name, c :: cs =>
    if inComment then readBoundaryName verbose (c != '\n') name cs
    else if verbose && isBlank c then readBoundaryName verbose false name cs
    else if verbose && c == '#' then readBoundaryName verbose true name cs
    else if c == '\x7d' then .ok (String.ofList name.reverse, cs)
    else if isBoundaryChar c then readBoundaryName verbose false (c :: name) cs
    else .error .badEscape

def Assertion.ofBoundaryName? : String → Option Assertion
  | "start" => some .wordStart
  | "end" => some .wordEnd
  | "start-half" => some .wordStartHalf
  | "end-half" => some .wordEndHalf
  | _ => none

/-- After `\b`: a name in braces makes a special boundary; any other brace is left for a
repetition count. -/
def readBoundary (verbose : Bool) (cs : List Char) : Except Fault (Item × List Char) :=
  match cs with
  | '\x7b' :: rest =>
    match skip verbose rest with
    | [] => .error .badEscape
    | c :: inner =>
      if isBoundaryChar c then do
        let (name, rest) ← readBoundaryName verbose false [] (c :: inner)
        match Assertion.ofBoundaryName? name with
        | some kind => return (.assertion kind, rest)
        | none => .error .badEscape
      else .ok (.assertion .wordBoundary, cs)
  | _ => .ok (.assertion .wordBoundary, cs)

def plainLetter (c : Char) (rest : List Char) : Except Fault (Item × List Char) :=
  .ok (.letter ⟨c, false⟩, rest)

/-- What follows a backslash. -/
def readEscape (verbose : Bool) : List Char → Except Fault (Item × List Char)
  | [] => .error .badEscape
  | c :: rest =>
    match c with
    | 'x' => readHex verbose 2 rest
    | 'u' => readHex verbose 4 rest
    | 'U' => readHex verbose 8 rest
    | 'p' => readProperty verbose false rest
    | 'P' => readProperty verbose true rest
    | 'd' => .ok (.shorthand false .digit, rest)
    | 's' => .ok (.shorthand false .space, rest)
    | 'w' => .ok (.shorthand false .word, rest)
    | 'D' => .ok (.shorthand true .digit, rest)
    | 'S' => .ok (.shorthand true .space, rest)
    | 'W' => .ok (.shorthand true .word, rest)
    | 'a' => plainLetter '\x07' rest
    | 'f' => plainLetter '\x0c' rest
    | 't' => plainLetter '\t' rest
    | 'n' => plainLetter '\n' rest
    | 'r' => plainLetter '\r' rest
    | 'v' => plainLetter '\x0b' rest
    | 'A' => .ok (.assertion .textStart, rest)
    | 'z' => .ok (.assertion .textEnd, rest)
    | 'b' => readBoundary verbose rest
    | 'B' => .ok (.assertion .notWordBoundary, rest)
    | '<' => .ok (.assertion .wordStart, rest)
    | '>' => .ok (.assertion .wordEnd, rest)
    | c => if isEscapable c then plainLetter c rest else .error .badEscape

/-- A single item outside brackets. -/
def readItem (verbose : Bool) : List Char → Except Fault (Item × List Char)
  | [] => .error .badEscape
  | '\\' :: rest => readEscape verbose rest
  | '.' :: rest => .ok (.dot, rest)
  | '^' :: rest => .ok (.assertion .lineStart, rest)
  | '$' :: rest => .ok (.assertion .lineEnd, rest)
  | c :: rest => plainLetter c rest

end Construe.Pattern
