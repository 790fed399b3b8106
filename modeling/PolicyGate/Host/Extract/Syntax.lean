import PolicyGate.Host.Extract.Value

/-!
# Extraction scripts as trees

A script is a row of statements over variables of three kinds: those that hold one value, rows of values,
and tables that find values by texts. Patterns are looked for in texts, and what fits can be changed.
-/

namespace PolicyGate

namespace Host.Extract

mutual

inductive Expr where
  | value (v : Value)
  /-- A text that values are put into. -/
  | quoted (parts : List Expr)
  | scalar (name : Raw)
  | row (name : Raw)
  | table (name : Raw)
  /-- A value of a row by its number, and of a table by its key. -/
  | item (name : Raw) (index : Expr)
  | entry (name : Raw) (key : Expr)
  /-- Several values of a row or of a table. -/
  | items (name : Raw) (indices : Expr)
  | entries (name : Raw) (keys : Expr)
  /-- The number of the last value of a row. -/
  | last (name : Raw)
  /-- Variables of the block that runs. -/
  | own (vars : List Expr) (isList : Bool)
  /-- Variables that get their values back where the block ends. -/
  | lent (vars : List Expr)
  | list (es : List Expr)
  /-- Some values of a list, by their numbers. -/
  | pick (e : Expr) (indices : Expr)
  | unary (op : String) (a : Expr)
  | binary (op : String) (a b : Expr)
  | choice (c a b : Expr)
  /-- The values from one to another, or the rounds from one condition to another. The place in the script
  tells several of them apart. -/
  | range (place : Nat) (a b : Expr)
  /-- An assignment, which may work on what there is. -/
  | assigned (op : String) (target value : Expr)
  /-- A step up or down, whose value is the one behind it or before it. -/
  | stepped (after up : Bool) (target : Expr)
  /-- A search in a text, or a change of it. -/
  | searched (target : Option Expr) (negated : Bool) (s : Seeking)
  | call (line : Nat) (name : Raw) (args : List Expr)
  /-- A line, or all lines, of an open file. -/
  | line (handle : Expr)
  | body (block : List Stmt)
  /-- A command with a block for each value of a list. -/
  | mapped (name : Raw) (block : List Stmt) (values : Expr)

/-- What is done with a text. -/
inductive Seeking where
  | find (pattern : Expr) (letters : Raw)
  | change (pattern put : Expr) (letters : Raw)
  /-- Other characters for some. -/
  | turn (from_ to_ : List Char) (letters : Raw)

inductive Stmt where
  | run (line : Nat) (e : Expr)
  | branch (condition : Expr) (yes no : List Stmt)
  /-- A loop as long as a condition holds, with a step behind each round. -/
  | loop (label : Raw) (condition : Option Expr) (body : List Stmt) (step : Option Expr)
  /-- A loop whose body runs before the condition is looked at. -/
  | again (body : List Stmt) (condition : Expr)
  | each (label : Raw) (isOwn : Bool) (name : Raw) (values : Expr) (body : List Stmt)
  | block (label : Raw) (body : List Stmt)
  | define (name : Raw) (body : List Stmt)

end

mutual

/-- The functions that a statement defines, in whatever block. -/
def Stmt.definitions : Stmt → List (Raw × List Stmt)
  | .define name body => (name, body) :: definitionsIn body
  | .branch _ yes no => definitionsIn yes ++ definitionsIn no
  | .loop _ _ body _ | .again body _ | .each _ _ _ _ body | .block _ body => definitionsIn body
  | .run _ _ => []

def definitionsIn : List Stmt → List (Raw × List Stmt)
  | [] => []
  | s :: ss => s.definitions ++ definitionsIn ss

end

instance : Inhabited Expr := ⟨.value .absent⟩

/-- Why a script cannot be read. -/
inductive Fault where
  /-- Something that cannot stand where it does, with the text from there on. -/
  | misplaced (rest : List Char)
  /-- A text without its end, by its kind. -/
  | unended (what : Raw) (rest : List Char)
  /-- A block without its end. -/
  | unclosed (rest : List Char)
  /-- A pattern that cannot be read. -/
  | badPattern (what : Raw)

end Host.Extract

end PolicyGate
