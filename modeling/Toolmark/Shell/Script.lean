import Toolmark.Shell.Octets

/-!
# Scripts

The commands of the shell language in which small tools are written.
-/

namespace Toolmark.Shell

mutual

/-- A part of a word. -/
inductive Piece where
  /-- Text that stands for itself. -/
  | bare (text : Octets)
  /-- Text within quotes. -/
  | quoted (text : Octets)
  /-- The value of a parameter, possibly changed. -/
  | parameter (name : Octets) (change : Change) (isQuoted : Bool)
  /-- The output of commands. -/
  | output (body : Command) (isQuoted : Bool)
  /-- The value of an arithmetic expression. -/
  | number (pieces : List Piece) (isQuoted : Bool)

/-- What happens to the value of a parameter. -/
inductive Change where
  /-- Nothing. -/
  | keep
  /-- Its length is taken. -/
  | length
  /-- A word stands in for a missing value. -/
  | orElse (alsoEmpty : Bool) (word : List Piece)
  /-- A word stands in for a missing value and becomes the value. -/
  | orAssign (alsoEmpty : Bool) (word : List Piece)
  /-- A missing value ends the script. -/
  | orFail (alsoEmpty : Bool)
  /-- A word replaces a value that is there. -/
  | instead (alsoEmpty : Bool) (word : List Piece)
  /-- What a pattern matches is cut off at the beginning. -/
  | withoutStart (longest : Bool) (pattern : List Piece)
  /-- What a pattern matches is cut off at the end. -/
  | withoutEnd (longest : Bool) (pattern : List Piece)

/-- What a redirection does to a descriptor. -/
inductive Target where
  /-- It is opened for writing to a file. -/
  | output (path : List Piece)
  /-- It is opened for writing behind what a file holds. -/
  | append (path : List Piece)
  /-- It is opened for reading from a file. -/
  | input (path : List Piece)
  /-- It becomes another descriptor, or it is closed. -/
  | copy (source : List Piece)

/-- A redirection. -/
inductive Redirection where
  /-- A descriptor gets a target. -/
  | of (descriptor : Nat) (target : Target)

/-- A command. -/
inductive Command where
  /-- Nothing. -/
  | nothing
  /-- Assignments to variables, and words of which the first names what is run. -/
  | simple (assignments : List (Octets × List Piece)) (words : List (List Piece))
      (redirections : List Redirection)
  /-- Two commands at the same time, the output of the first being the input of the second. -/
  | pipe (first second : Command)
  /-- A command with the opposite status. -/
  | negated (command : Command)
  /-- The second command only after success of the first. -/
  | both (first second : Command)
  /-- The second command only after failure of the first. -/
  | either (first second : Command)
  /-- Two commands in turn. -/
  | sequence (first second : Command)
  /-- A command that is not waited for. -/
  | background (command : Command)
  /-- A command whose changes to variables are lost. -/
  | apart (command : Command)
  /-- A command with redirections. -/
  | redirected (command : Command) (redirections : List Redirection)
  /-- A choice by a status. -/
  | choice (condition yes no : Command)
  /-- A repetition while a status is success, or until it is. -/
  | repetition (whileSuccess : Bool) (condition body : Command)
  /-- A repetition for each of some words, or for each argument. -/
  | each (name : Octets) (words : Option (List (List Piece))) (body : Command)
  /-- A choice by a pattern. -/
  | cases (subject : List Piece) (clauses : List (List (List Piece) × Command))
  /-- The definition of a function. -/
  | definition (name : Octets) (body : Command)

end

/-- A word. -/
abbrev Word := List Piece

end Toolmark.Shell
