/-!
# Detection techniques

The five ways of looking for traces of the compiler in a binary, in the order in which they are
registered and reported.
-/

namespace Toolmark

/-- A way of looking for traces of the compiler. -/
inductive Technique where
  /-- Texts in the data of the binary. -/
  | strings
  /-- Mangled names in the symbol table. -/
  | symbols
  /-- Headers and sections of the file. -/
  | sections
  /-- Allocator entry points in the dynamic symbol table. -/
  | allocator
  /-- Panic machinery in the code. -/
  | panics
deriving DecidableEq, Repr, Inhabited

namespace Technique

/-- All techniques in the order of registration. -/
def all : List Technique := [strings, symbols, sections, allocator, panics]

/-- The identifier of a technique in configurations, events and machine-readable reports. -/
def id : Technique → String
  | strings => "strings"
  | symbols => "symbols"
  | sections => "sections"
  | allocator => "allocator"
  | panics => "panics"

/-- The name of a technique in reports for people. -/
def name : Technique → String
  | strings => "Rust-specific strings"
  | symbols => "Rust symbol names"
  | sections => "ELF headers and sections"
  | allocator => "Rust memory allocator"
  | panics => "Rust panic handlers"

/-- The technique with a given identifier. -/
def ofId? (id : String) : Option Technique := all.find? fun technique => technique.id = id

end Technique

end Toolmark
