/-!
# Outlines

An outline is a value laid out as nested brackets. It is written on one line, or with one part a
line, indented by its depth.
-/

namespace ContentPolicy

namespace Text

/-- Brackets around the parts of an outline. -/
structure Brackets where
  opening : String
  closing : String
  /-- What stands inside the brackets on one line, next to them. -/
  padding : String
deriving DecidableEq, Repr

/-- A value laid out as nested brackets. -/
inductive Outline where
  | leaf (text : String)
  | group (brackets : Brackets) (parts : List Outline)
  | labelled (label : String) (part : Outline)

namespace Outline

def list (parts : List Outline) : Outline := .group ⟨"[", "]", ""⟩ parts

def set (parts : List Outline) : Outline := .group ⟨"\x7b", "\x7d", ""⟩ parts

/-- Parts in round brackets behind a name. -/
def call (name : String) (parts : List Outline) : Outline := .group ⟨name ++ "(", ")", ""⟩ parts

/-- Labelled parts in braces behind a name. -/
def record (name : String) (parts : List (String × Outline)) : Outline :=
  .group ⟨name ++ " \x7b", "\x7d", " "⟩ (parts.map fun part => .labelled part.1 part.2)

mutual

def line : Outline → String
  | .leaf text => text
  | .group brackets parts =>
    if parts.isEmpty then brackets.opening ++ brackets.closing
    else
      brackets.opening ++ brackets.padding ++ ", ".intercalate (lines parts) ++
        brackets.padding ++ brackets.closing
  | .labelled label part => label ++ ": " ++ line part

def lines : List Outline → List String
  | [] => []
  | part :: parts => line part :: lines parts

end

/-- A line break, with the indentation of a depth behind it. -/
def lineBreak (depth : Nat) : String := "\n" ++ String.join (List.replicate depth "    ")

mutual

/-- An outline with one part a line. -/
def indented (depth : Nat) : Outline → String
  | .leaf text => text
  | .group brackets parts =>
    if parts.isEmpty then brackets.opening ++ brackets.closing
    else
      brackets.opening ++ indentedParts (depth + 1) parts ++ lineBreak depth ++ brackets.closing
  | .labelled label part => label ++ ": " ++ indented depth part

/-- Parts on a line each, with a comma behind each. -/
def indentedParts (depth : Nat) : List Outline → String
  | [] => ""
  | part :: parts => lineBreak depth ++ indented depth part ++ "," ++ indentedParts depth parts

end

def block (outline : Outline) : String := indented 0 outline

end Outline

end Text

end ContentPolicy
