import ServiceDispatch.Source.Grammar.Declaration

/-!
# The whole grammar

The table of readers is tied up level by level. Trees cannot nest deeper than they have tokens, so a
number of levels in proportion to the tokens is enough for all of them.
-/

namespace ServiceDispatch.Source

namespace Grammar

/-- The table whose readers read one more level of nesting than those of another. -/
def step (g : Grammar) : Grammar where
  type := typeRule g
  bound := boundRule g .ofParameter
  pattern := patternRule g
  expression := expressionRule g
  scrutinee := scrutineeRule g
  branch := branchRule g
  block := blockRule g
  declaration := declarationRule g

/-- The table that reads a given number of levels of nesting. -/
def level : Nat → Grammar
  | 0 => bottom
  | depth + 1 => step (level depth)

/-- The table for some trees. -/
def forTrees (trees : List Tree) : Grammar := level (3 * Tree.sizeOfAll trees + 3)

end Grammar

/-- Reads a type from all of some trees. -/
def readType? (trees : List Tree) : Option Ty := ((Grammar.forTrees trees).type true).run? trees

/-- Reads a path from all of some trees, as its tokens. -/
def readPath? (trees : List Tree) : Option (List Lexeme) :=
  (Reader.captured (discard ((Grammar.forTrees trees).path false))).run? trees

/-- Reads a trait declaration from all of some trees. -/
def readTrait? (trees : List Tree) : Option TraitDecl :=
  (Grammar.forTrees trees).trait.run? trees

/-- Reads an implementation block from all of some trees. -/
def readImpl? (trees : List Tree) : Option ImplBlock :=
  (Grammar.forTrees trees).implBlock.run? trees

end ServiceDispatch.Source
