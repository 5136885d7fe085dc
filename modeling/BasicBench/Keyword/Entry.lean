/-!
What is known about one keyword of the language: how it is written, what it does, which dialect
introduced it and which other names it answers to.
-/

set_option autoImplicit false

namespace BasicBench.Keyword

inductive Kind where
  | statement | function | operator | metacommand | opengl | type | constant | legacy
  deriving DecidableEq, Repr

def Kind.all : List Kind :=
  [.statement, .function, .operator, .metacommand, .opengl, .type, .constant, .legacy]

def Kind.label : Kind → String
  | .statement => "statement"
  | .function => "function"
  | .operator => "operator"
  | .metacommand => "metacommand"
  | .opengl => "opengl"
  | .type => "type"
  | .constant => "constant"
  | .legacy => "legacy"

/-- The dialect that introduced a keyword. -/
inductive Dialect where
  | qbasic | qb64 | qb64pe
  deriving DecidableEq, Repr

def Dialect.all : List Dialect := [.qbasic, .qb64, .qb64pe]

def Dialect.label : Dialect → String
  | .qbasic => "QBasic"
  | .qb64 => "QB64"
  | .qb64pe => "QB64PE"

structure Parameter where
  name : String
  type : String := "any"
  description : String := ""
  optional : Bool := false
  deriving DecidableEq, Repr

structure Entry where
  name : String
  kind : Kind
  category : String
  description : String
  usage : String := ""
  parameters : List Parameter := []
  returns : Option String := none
  sample : String := ""
  related : List String := []
  dialect : Dialect := .qbasic
  availability : String := "All platforms"
  deprecated : Bool := false
  aliases : List String := []
  tags : List String := []
  deriving DecidableEq, Repr

end BasicBench.Keyword
