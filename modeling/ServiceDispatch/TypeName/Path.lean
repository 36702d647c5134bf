import ServiceDispatch.TypeName.Token

/-!
# Paths inside a type name

Words joined by separators are one path. Besides reading maximal paths this module holds the
well-known library paths that are known by a short name.
-/

namespace ServiceDispatch.TypeName

/-- Whether a path may go on at this place with a word or only with a separator. -/
inductive Awaited where
  /-- A word or a separator continues the path. -/
  | word
  /-- Only a separator continues the path. -/
  | separator

/-- Reads words joined by separators. The answer is the words in order and the tokens left over;
separators before, between and after the words are skipped. -/
def readPath : Awaited → List Token → List (List Char) × List Token
  | .word, .word text :: rest =>
    let (segments, left) := readPath .separator rest
    (text :: segments, left)
  | _, .separator :: rest => readPath .word rest
  | _, tokens => ([], tokens)

/-- Reading a path leaves no more tokens than there were. -/
theorem readPath_length_le (awaited : Awaited) (tokens : List Token) :
    (readPath awaited tokens).2.length ≤ tokens.length := by
  fun_induction readPath awaited tokens with
  | case1 text rest segments left h ih => simp_all; omega
  | case2 awaited rest ih => simp_all; omega
  | case3 awaited tokens => simp

/-- Library paths and the short names that stand for them. -/
def wellKnown : List (List String × String) :=
  [(["std", "string", "String"], "String"),
   (["alloc", "string", "String"], "String"),
   (["std", "vec", "Vec"], "Vec"),
   (["alloc", "vec", "Vec"], "Vec"),
   (["std", "option", "Option"], "Option"),
   (["core", "option", "Option"], "Option"),
   (["std", "result", "Result"], "Result"),
   (["core", "result", "Result"], "Result"),
   (["std", "boxed", "Box"], "Box"),
   (["alloc", "boxed", "Box"], "Box"),
   (["std", "sync", "Arc"], "Arc"),
   (["alloc", "sync", "Arc"], "Arc"),
   (["std", "rc", "Rc"], "Rc"),
   (["alloc", "rc", "Rc"], "Rc"),
   (["std", "collections", "HashMap"], "HashMap"),
   (["std", "collections", "hash_map", "HashMap"], "HashMap"),
   (["std", "collections", "hash", "map", "HashMap"], "HashMap"),
   (["std", "collections", "HashSet"], "HashSet"),
   (["std", "collections", "hash_set", "HashSet"], "HashSet"),
   (["std", "collections", "hash", "set", "HashSet"], "HashSet"),
   (["std", "collections", "BTreeMap"], "BTreeMap"),
   (["alloc", "collections", "btree", "map", "BTreeMap"], "BTreeMap"),
   (["std", "time", "Duration"], "Duration"),
   (["core", "time", "Duration"], "Duration")]

/-- Types that are reachable through the `primitive` module of a core library. -/
def primitives : List String :=
  ["bool", "char", "str", "i8", "i16", "i32", "i64", "i128", "isize", "u8", "u16", "u32", "u64",
   "u128", "usize", "f32", "f64"]

/-- Core libraries with a `primitive` module. -/
def coreLibraries : List String := ["core", "std"]

/-- Every path with a short name: the library paths and the primitives of both core libraries. -/
def aliases : List (List String × String) :=
  wellKnown ++
    coreLibraries.flatMap fun root => primitives.map fun name => ([root, "primitive", name], name)

/-- The short name of a path, if it has one. -/
def shortName? (segments : List (List Char)) : Option (List Char) :=
  (aliases.find? fun row => row.1.map String.toList = segments).map fun row => row.2.toList

/-- The words that stand for a path: its short name, or its own words. -/
def shorten (segments : List (List Char)) : List (List Char) :=
  match shortName? segments with
  | some short => [short]
  | none => segments

end ServiceDispatch.TypeName
