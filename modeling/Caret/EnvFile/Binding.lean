import Caret.Text.Quoted
import Caret.Text.Space

/-!
# Bindings of an environment file

A file of lines `key=value`. A value may be quoted, and then it may hold line breaks and escapes.
What cannot be read is skipped up to the end of its line.
-/

namespace Caret.EnvFile

open CodePoint (singleQuote doubleQuote backslash)

def newline : CodePoint := CodePoint.ofChar '\n'

def hash : CodePoint := CodePoint.ofChar '#'

def equals : CodePoint := CodePoint.ofChar '='

/-- Space within a line. -/
def isGap (c : CodePoint) : Bool := c.isSpace && c != newline

/-! ### Lines -/

/-- Writes every line break as a line feed; a line feed right after a return adds none. -/
def unifyBreaks (afterReturn : Bool) : Text → Text
  | [] => []
  | c :: rest =>
    if c = CodePoint.ofChar '\r' then newline :: unifyBreaks true rest
    else if afterReturn && c == newline then unifyBreaks false rest
    else c :: unifyBreaks false rest

/-- The code point that may stand first to mark a text as one. -/
def byteOrderMark : CodePoint := ⟨0xFEFF, by decide⟩

def normalize (t : Text) : Text :=
  match t with
  | c :: rest => if c = byteOrderMark then unifyBreaks false rest else unifyBreaks false t
  | [] => []

/-- The text after the line in which `t` begins. -/
def nextLine (t : Text) : Text := (t.dropWhile (· != newline)).drop 1

/-! ### Reading a binding

A reader takes what it needs from the front of a text and gives the rest. One that fails gives the
text at the place where it stopped.
-/

structure Binding where
  key : Option Text
  value : Option Text

def skipExport (t : Text) : Text :=
  match Text.after? (text "export") t with
  | some (c :: rest) => if isGap c then rest.dropWhile isGap else t
  | _ => t

def isKeyCode (c : CodePoint) : Bool := c != equals && c != hash && !c.isSpace

/-- A comment line has no key. -/
def readKey (t : Text) : Except Text (Option Text × Text) :=
  match t with
  | [] => .error t
  | c :: rest =>
    if c = hash then .ok (none, t)
    else if c = singleQuote then
      match rest.takeWhile (· != singleQuote), rest.dropWhile (· != singleQuote) with
      | [], _ => .error t
      | _, [] => .error t
      | key, _ :: more => .ok (some key, more)
    else
      match t.takeWhile isKeyCode with
      | [] => .error t
      | key => .ok (some key, t.dropWhile isKeyCode)

/-- The text up to a quote that no backslash escapes, and the text after it. -/
def splitQuoted (quote : CodePoint) : Text → Option (Text × Text)
  | [] => none
  | c :: rest =>
    if c = quote then some ([], rest)
    else if c = backslash then
      match rest with
      | [] => none
      | d :: more => (splitQuoted quote more).map fun p => (c :: d :: p.1, p.2)
    else (splitQuoted quote rest).map fun p => (c :: p.1, p.2)

/-- The code points that a backslash and another one stand for within quotes. -/
def escapes (quote : CodePoint) : List (CodePoint × CodePoint) :=
  [(backslash, backslash), (singleQuote, singleQuote)] ++
  if quote = doubleQuote then
    [(doubleQuote, doubleQuote), (CodePoint.ofChar 'a', CodePoint.ofNat 7),
      (CodePoint.ofChar 'b', CodePoint.ofNat 8), (CodePoint.ofChar 'f', CodePoint.ofNat 12),
      (CodePoint.ofChar 'n', CodePoint.ofNat 10), (CodePoint.ofChar 'r', CodePoint.ofNat 13),
      (CodePoint.ofChar 't', CodePoint.ofNat 9), (CodePoint.ofChar 'v', CodePoint.ofNat 11)]
  else []

def unescape (quote : CodePoint) : Text → Text
  | [] => []
  | c :: rest =>
    if c = backslash then
      match rest with
      | [] => [c]
      | d :: more =>
        match (escapes quote).lookup d with
        | some e => e :: unescape quote more
        | none => c :: d :: unescape quote more
    else c :: unescape quote rest

/-- Ends a value where space followed by a comment begins. -/
def cutComment : Text → Text
  | [] => []
  | c :: rest =>
    if c.isSpace && ((c :: rest).dropWhile CodePoint.isSpace).head? == some hash then []
    else c :: cutComment rest

def trimEnd (t : Text) : Text := (t.reverse.dropWhile CodePoint.isSpace).reverse

/-- Reads a value; `gap` tells whether space stands before it. -/
def readValue (gap : Bool) (t : Text) : Except Text (Text × Text) :=
  match t with
  | [] => .ok ([], t)
  | c :: rest =>
    if gap && c == hash then .ok ([], t)
    else if c = singleQuote ∨ c = doubleQuote then
      match splitQuoted c rest with
      | some (body, more) => .ok (unescape c body, more)
      | none => .error t
    else
      .ok (trimEnd (cutComment (t.takeWhile (· != newline))), t.dropWhile (· != newline))

def readAssigned (t : Text) : Except Text (Option Text × Text) :=
  match t with
  | [] => .ok (none, t)
  | c :: rest =>
    if c = equals then
      (readValue (rest.head?.any isGap) (rest.dropWhile isGap)).map fun p => (some p.1, p.2)
    else .ok (none, t)

/-- Nothing but a comment may follow on the line. -/
def readLineEnd (t : Text) : Except Text Text :=
  match t.dropWhile isGap with
  | [] => .ok []
  | c :: rest =>
    if c = hash then .ok (nextLine rest)
    else if c = newline then .ok rest
    else .error t

def readBinding (t : Text) : Except Text (Binding × Text) := do
  let (key, t) ← readKey (skipExport t)
  let (value, t) ← readAssigned (t.dropWhile isGap)
  let t ← readLineEnd t
  pure (⟨key, value⟩, t)

/-- The bindings of a text that has at most `n` of them. -/
def readBindings : Nat → Text → List Binding
  | 0, _ => []
  | n + 1, t =>
    match t.dropWhile CodePoint.isSpace with
    | [] => []
    | t =>
      match readBinding t with
      | .ok (b, rest) => b :: readBindings n rest
      | .error rest => readBindings n (nextLine rest)

/-- A binding takes at least one code point, so there are no more of them than code points. -/
def parse (t : Text) : List Binding := readBindings (normalize t).length (normalize t)

end Caret.EnvFile
