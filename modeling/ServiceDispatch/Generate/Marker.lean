import ServiceDispatch.Generate.Delegation

/-!
# Declarations as they are written again

Markers are for the generator only, so they are removed from what is written again; a trait also
gets the supertraits and the attribute that its adapters rely on.
-/

namespace ServiceDispatch.Generate

open Source

/-- Name of the facade through which generated code refers to the library. -/
def facadeName : String := "opbind"

/-- Name of the attribute that lets a trait have asynchronous methods. -/
def asyncTraitName : String := "async_trait"

/-- Tokens of a path with a leading separator that stands nowhere. -/
def globalNames (names : List String) : NamePath :=
  ⟨some .nowhere, names.map fun text => ⟨text, .nowhere⟩⟩

/-- The attribute that lets a trait have asynchronous methods. -/
def asyncTraitAttribute : Attribute :=
  ⟨false, globalNames [facadeName, asyncTraitName], .absent, .nowhere⟩

/-- Keeps the attributes that are none of the given markers. -/
def withoutMarkers (markers : List String) (attrs : List Attribute) : List Attribute :=
  attrs.filter fun attr => !(markers.any fun marker => attr.isMarker marker)

/-- Removes markers from the parameters of a method, its receiver excepted. -/
def stripInputs (markers : List String) (head : MethodHead) : MethodHead :=
  head.mapTypedInputs fun input =>
    { input with attributes := withoutMarkers markers input.attributes }

/-- The bound to a marker trait of the core library. -/
def markerBound (name : String) : Bound :=
  ⟨some name, (globalNames ["core", "marker", name]).lexemes⟩

/-- Adds a marker trait to the supertraits of a trait that has none of its name. -/
def ensureSupertrait (decl : TraitDecl) (name : String) : TraitDecl :=
  if decl.supertraits.any fun bound => bound.traitName = some name then decl
  else
    { decl with supertraits := decl.supertraits ++ [markerBound name], trailingPlus := false }

/-- Adds the attribute for asynchronous methods to a trait that has none of its name. -/
def ensureAsync (decl : TraitDecl) : TraitDecl :=
  if decl.attributes.any fun attr => attr.path.endsIn asyncTraitName then decl
  else { decl with attributes := decl.attributes ++ [asyncTraitAttribute] }

/-- Removes the markers of outputs from an item of a trait. -/
def stripTraitItem : TraitItem → TraitItem
  | .method found => .method { found with head := stripInputs [outMarker] found.head }
  | item => item

/-- A contract trait as it is written again. -/
def prepareTrait (decl : TraitDecl) (hasAsync : Bool) : TraitDecl :=
  let stripped := { decl with items := decl.items.map stripTraitItem }
  let bounded := ensureSupertrait (ensureSupertrait stripped "Send") "Sync"
  if hasAsync then ensureAsync bounded else bounded

/-- Removes the markers of operations and parameters from an item of a block. -/
def stripImplItem : ImplItem → ImplItem
  | .method found =>
    .method
      { found with
        attributes := withoutMarkers [operationMarker] found.attributes
        head := stripInputs [injectMarker, outMarker] found.head }
  | item => item

/-- An implementation block as it is written again. -/
def stripMarkers (block : ImplBlock) : ImplBlock :=
  { block with items := block.items.map stripImplItem }

end ServiceDispatch.Generate
