import ServiceDispatch.Generate.ContractCode
import ServiceDispatch.Generate.WrapperCode
import ServiceDispatch.Proofs.Generate.Injections

/-!
# Declarations written again

Traits and implementation blocks are written again without the markers of the generator, and traits
with the supertraits and the attribute that they lack. Nothing else of them changes, and a second
time nothing changes at all. An item that the grammar keeps as it stands is no method here, and
further parameters of any number are no parameter; neither is looked into.
-/

namespace ServiceDispatch.Generate

open Source

/-- The second attributes are the first ones without the markers of some names. -/
inductive RemovesMarkers (markers : List String) : List Attribute → List Attribute → Prop where
  /-- There is nothing to remove from nothing. -/
  | nil : RemovesMarkers markers [] []
  /-- What is no marker is kept in its place. -/
  | kept {attr : Attribute} {attrs others : List Attribute}
      (other : ∀ marker ∈ markers, attr.isMarker marker = false)
      (removes : RemovesMarkers markers attrs others) :
      RemovesMarkers markers (attr :: attrs) (attr :: others)
  /-- A marker is removed. -/
  | removed {attr : Attribute} {attrs others : List Attribute} {marker : String}
      (listed : marker ∈ markers) (marked : attr.isMarker marker = true)
      (removes : RemovesMarkers markers attrs others) :
      RemovesMarkers markers (attr :: attrs) others

/-- A parameter is written again. -/
inductive RewritesInput (markers : List String) : Input → Input → Prop where
  /-- The object stays as it is, with all its attributes. -/
  | receiver (receiver : Receiver) : RewritesInput markers (.receiver receiver) (.receiver receiver)
  /-- Any other parameter loses its markers. -/
  | typed {input : TypedInput} {attributes : List Attribute}
      (removes : RemovesMarkers markers input.attributes attributes) :
      RewritesInput markers (.typed input) (.typed { input with attributes })

/-- A method is written again without some markers of its own and some of its parameters. -/
structure RewritesMethod (own ofInputs : List String) (method rewritten : MethodItem) : Prop where
  /-- It loses its own markers, -/
  attributes : RemovesMarkers own method.attributes rewritten.attributes
  /-- and its parameters lose theirs. -/
  inputs : List.Forall₂ (RewritesInput ofInputs) method.head.inputs rewritten.head.inputs
  /-- Nothing else changes. -/
  others : rewritten =
    { method with
      attributes := rewritten.attributes
      head := { method.head with inputs := rewritten.head.inputs } }

/-- An item of a trait is written again. -/
inductive RewritesTraitItem : TraitItem → TraitItem → Prop where
  /-- The parameters of a method lose the markers of outputs. -/
  | method {method rewritten : MethodItem}
      (rewrites : RewritesMethod [] [outMarker] method rewritten) :
      RewritesTraitItem (.method method) (.method rewritten)
  /-- A constant or an associated type stays as it is, -/
  | declaration (lexemes : List Lexeme) :
      RewritesTraitItem (.declaration lexemes) (.declaration lexemes)
  /-- and so does what is not understood. -/
  | uninterpreted (lexemes : List Lexeme) :
      RewritesTraitItem (.uninterpreted lexemes) (.uninterpreted lexemes)

/-- An item of an implementation block is written again. -/
inductive RewritesImplItem : ImplItem → ImplItem → Prop where
  /-- A method and its parameters lose all markers. -/
  | method {method rewritten : MethodItem}
      (rewrites : RewritesMethod [operationMarker] [injectMarker, outMarker] method rewritten) :
      RewritesImplItem (.method method) (.method rewritten)
  /-- Anything else stays as it is. -/
  | other (lexemes : List Lexeme) : RewritesImplItem (.other lexemes) (.other lexemes)

/-- The bound that some supertraits lack. -/
def missingBound (supertraits : List Bound) (name : String) : List Bound :=
  if ∃ bound ∈ supertraits, bound.traitName = some name then [] else [markerBound name]

/-- The bounds that a trait lacks. -/
def missingBounds (decl : TraitDecl) : List Bound :=
  missingBound decl.supertraits "Send" ++ missingBound decl.supertraits "Sync"

/-- The attribute that a trait lacks, if it has asynchronous methods. -/
def missingAttribute (decl : TraitDecl) (hasAsync : Bool) : List Attribute :=
  if hasAsync = true ∧ ∀ attr ∈ decl.attributes, attr.path.endsIn asyncTraitName = false then
    [asyncTraitAttribute]
  else []

/-- A trait is written again. -/
structure RewritesTrait (decl : TraitDecl) (hasAsync : Bool) (rewritten : TraitDecl) : Prop where
  /-- Its items lose the markers of outputs, -/
  items : List.Forall₂ RewritesTraitItem decl.items rewritten.items
  /-- so that none is left on a parameter. -/
  unmarked : ∀ method ∈ rewritten.methods, ∀ input ∈ method.head.typedInputs, ¬ IsMarkedOut input
  /-- Its supertraits are followed by those that it lacks, -/
  supertraits : rewritten.supertraits = decl.supertraits ++ missingBounds decl
  /-- which are written after all that is written of its own. -/
  written : ∃ added, TraitDecl.boundLexemes rewritten.trailingPlus rewritten.supertraits =
    TraitDecl.boundLexemes decl.trailingPlus decl.supertraits ++ added
  /-- If it lacks none, a last plus sign stays. -/
  trailingPlus : missingBounds decl = [] → rewritten.trailingPlus = decl.trailingPlus
  /-- Its attributes are followed by the one that it lacks. -/
  attributes : rewritten.attributes = decl.attributes ++ missingAttribute decl hasAsync
  /-- Nothing else changes. -/
  others : rewritten =
    { decl with
      attributes := rewritten.attributes
      supertraits := rewritten.supertraits
      trailingPlus := rewritten.trailingPlus
      items := rewritten.items }
  /-- A second time nothing changes. -/
  again : prepareTrait rewritten hasAsync = rewritten

/-- An implementation block is written again. -/
structure RewritesBlock (block rewritten : ImplBlock) : Prop where
  /-- Its items lose all markers, -/
  items : List.Forall₂ RewritesImplItem block.items rewritten.items
  /-- so that none is left on a method -/
  operations : ∀ method ∈ rewritten.methods, ¬ IsOperation method
  /-- or on a parameter. -/
  inputs : ∀ method ∈ rewritten.methods, ∀ input ∈ method.head.typedInputs,
    ¬ IsInjected input ∧ ¬ IsMarkedOut input
  /-- Nothing else changes. -/
  others : rewritten = { block with items := rewritten.items }
  /-- A second time nothing changes. -/
  again : stripMarkers rewritten = rewritten

/-- How declarations are written again. -/
structure RewritesDeclarations (decl : TraitDecl) (hasAsync : Bool) (block : ImplBlock) :
    Prop where
  /-- A trait, whether or not it has asynchronous methods, -/
  rewritesTrait : RewritesTrait decl hasAsync (prepareTrait decl hasAsync)
  /-- and an implementation block. -/
  rewritesBlock : RewritesBlock block (stripMarkers block)
  /-- So is the trait before all that is generated for it, -/
  traitCode : ∀ contract, ∃ generated, contractCode decl contract =
    Lexeme.tokens (prepareTrait decl contract.hasAsync).lexemes ++ generated
  /-- and the block, whatever its analysis found. -/
  blockCode : ∀ contract analysis, ∃ generated, implCode contract block analysis =
    Lexeme.tokens (stripMarkers block).lexemes ++ generated

variable {markers : List String} {attrs : List Attribute}

theorem removesMarkers_withoutMarkers (markers : List String) (attrs : List Attribute) :
    RemovesMarkers markers attrs (withoutMarkers markers attrs) := by
  induction attrs with
  | nil => exact .nil
  | cons attr rest ih =>
    rw [withoutMarkers]
    by_cases marked : ∃ marker ∈ markers, attr.isMarker marker = true
    · obtain ⟨marker, listed, found⟩ := marked
      rw [List.filter_cons_of_neg (by simpa using ⟨marker, listed, found⟩)]
      exact .removed listed found ih
    · have other : ∀ marker ∈ markers, attr.isMarker marker = false := by simpa using marked
      rw [List.filter_cons_of_pos (by simpa using other)]
      exact .kept other ih

theorem removesMarkers_nil (attrs : List Attribute) : RemovesMarkers [] attrs attrs := by
  induction attrs with
  | nil => exact .nil
  | cons attr rest ih => exact .kept nofun ih

theorem not_isMarker_of_mem {marker : String} {attr : Attribute} (listed : marker ∈ markers)
    (mem : attr ∈ withoutMarkers markers attrs) : attr.isMarker marker = false := by
  have free := (List.mem_filter.mp mem).2
  simp only [Bool.not_eq_true', List.any_eq_false, Bool.not_eq_true] at free
  exact free marker listed

@[simp] theorem withoutMarkers_twice (markers : List String) (attrs : List Attribute) :
    withoutMarkers markers (withoutMarkers markers attrs) = withoutMarkers markers attrs := by
  rw [withoutMarkers, withoutMarkers, List.filter_filter]
  simp only [Bool.and_self]

/-- The parameters of a method without markers. -/
theorem forall₂_stripInputs (markers : List String) (head : MethodHead) :
    List.Forall₂ (RewritesInput markers) head.inputs (stripInputs markers head).inputs := by
  rw [stripInputs, MethodHead.mapTypedInputs, List.forall₂_map_right_iff, List.forall₂_same]
  intro input _
  cases input with
  | receiver receiver => exact .receiver receiver
  | typed input => exact .typed (removesMarkers_withoutMarkers markers input.attributes)

@[simp] theorem stripInputs_twice (markers : List String) (head : MethodHead) :
    stripInputs markers (stripInputs markers head) = stripInputs markers head := by
  simp only [stripInputs, MethodHead.mapTypedInputs, List.map_map]
  congr 1
  refine List.map_congr_left fun input _ => ?_
  cases input with
  | receiver receiver => rfl
  | typed input => simp

/-- A parameter of a method without markers has none. -/
theorem not_isMarker_of_mem_stripInputs {head : MethodHead} {input : TypedInput}
    (mem : input ∈ (stripInputs markers head).typedInputs) {marker : String}
    (listed : marker ∈ markers) : ∀ attr ∈ input.attributes, attr.isMarker marker = false := by
  rw [MethodHead.typedInputs, stripInputs, MethodHead.mapTypedInputs] at mem
  obtain ⟨changed, among, found⟩ := List.mem_filterMap.mp mem
  obtain ⟨original, -, rfl⟩ := List.mem_map.mp among
  cases original with
  | receiver receiver => cases found
  | typed original =>
    obtain rfl := Option.some.inj found
    exact fun attr kept => not_isMarker_of_mem listed kept

theorem not_isMarkedOut_of_mem {head : MethodHead} {input : TypedInput}
    (mem : input ∈ (stripInputs markers head).typedInputs) (listed : outMarker ∈ markers) :
    ¬ IsMarkedOut input := by
  rw [← any_isMarker_iff, List.any_eq_true]
  rintro ⟨attr, kept, marked⟩
  rw [not_isMarker_of_mem_stripInputs mem listed attr kept] at marked
  cases marked

theorem not_isInjected_of_mem {head : MethodHead} {input : TypedInput}
    (mem : input ∈ (stripInputs markers head).typedInputs) (listed : injectMarker ∈ markers) :
    ¬ IsInjected input := by
  rintro ⟨attr, kept, marked⟩
  rw [not_isMarker_of_mem_stripInputs mem listed attr kept] at marked
  cases marked

theorem rewritesTraitItem (item : TraitItem) : RewritesTraitItem item (stripTraitItem item) := by
  cases item with
  | method method =>
    exact .method
      { attributes := removesMarkers_nil method.attributes
        inputs := forall₂_stripInputs [outMarker] method.head
        others := rfl }
  | declaration lexemes => exact .declaration lexemes
  | uninterpreted lexemes => exact .uninterpreted lexemes

theorem stripTraitItem_twice (item : TraitItem) :
    stripTraitItem (stripTraitItem item) = stripTraitItem item := by
  cases item <;> simp [stripTraitItem]

theorem missingBound_eq_nil_iff {supertraits : List Bound} {name : String} :
    missingBound supertraits name = [] ↔ ∃ bound ∈ supertraits, bound.traitName = some name := by
  rw [missingBound]
  split <;> simp_all

/-- What was missing is not missing any more once it is added. -/
theorem missingBound_added (supertraits : List Bound) (name : String) :
    missingBound (supertraits ++ missingBound supertraits name) name = [] := by
  rw [missingBound_eq_nil_iff]
  by_cases present : ∃ bound ∈ supertraits, bound.traitName = some name
  · obtain ⟨bound, mem, named⟩ := present
    exact ⟨bound, List.mem_append_left _ mem, named⟩
  · refine ⟨markerBound name, List.mem_append_right _ ?_, rfl⟩
    rw [missingBound, if_neg present]
    exact List.mem_singleton_self _

/-- Adding one marker trait does not make up for the other one. -/
theorem missingBound_append (supertraits : List Bound) {name other : String}
    (apart : name ≠ other) :
    missingBound (supertraits ++ missingBound supertraits name) other =
      missingBound supertraits other := by
  have added : ∀ bound ∈ missingBound supertraits name, bound.traitName ≠ some other := by
    intro bound mem
    rw [missingBound] at mem
    split at mem
    · cases mem
    · obtain rfl := List.mem_singleton.mp mem
      simpa [markerBound] using apart
  have same : (∃ bound ∈ supertraits ++ missingBound supertraits name,
        bound.traitName = some other) ↔
      ∃ bound ∈ supertraits, bound.traitName = some other := by
    simp only [List.mem_append]
    constructor
    · rintro ⟨bound, own | mem, named⟩
      · exact ⟨bound, own, named⟩
      · exact absurd named (added bound mem)
    · rintro ⟨bound, own, named⟩
      exact ⟨bound, .inl own, named⟩
  simp only [missingBound] at same ⊢
  simp only [same]

/-- A supertrait is added if it is missing. -/
theorem ensureSupertrait_eq (decl : TraitDecl) (name : String) :
    ensureSupertrait decl name =
      { decl with
        supertraits := decl.supertraits ++ missingBound decl.supertraits name
        trailingPlus := decl.trailingPlus && (missingBound decl.supertraits name).isEmpty } := by
  rw [ensureSupertrait]
  by_cases present : ∃ bound ∈ decl.supertraits, bound.traitName = some name
  · rw [if_pos (by simpa using present), missingBound_eq_nil_iff.mpr present]
    simp
  · rw [if_neg (by simpa using present), missingBound, if_neg present]
    simp

theorem send_ne_sync : "Send" ≠ "Sync" := by decide

/-- Both supertraits are added if they are missing. -/
theorem ensureSupertraits_eq (decl : TraitDecl) :
    ensureSupertrait (ensureSupertrait decl "Send") "Sync" =
      { decl with
        supertraits := decl.supertraits ++ missingBounds decl
        trailingPlus := decl.trailingPlus && (missingBounds decl).isEmpty } := by
  rw [ensureSupertrait_eq, ensureSupertrait_eq]
  simp only [missingBound_append decl.supertraits send_ne_sync, missingBounds, List.append_assoc]
  cases missingBound decl.supertraits "Send" <;> simp

/-- Once they are added, none of the supertraits is missing. -/
theorem missingBounds_added {decl other : TraitDecl}
    (added : other.supertraits = decl.supertraits ++ missingBounds decl) :
    missingBounds other = [] := by
  have afterSend : missingBound decl.supertraits "Sync" =
      missingBound (decl.supertraits ++ missingBound decl.supertraits "Send") "Sync" :=
    (missingBound_append decl.supertraits send_ne_sync).symm
  rw [missingBounds, added, missingBounds, afterSend, ← List.append_assoc, missingBound_added,
    missingBound_append _ send_ne_sync.symm, missingBound_added, List.append_nil]

/-- What is added to bounds is written after them. A last plus sign then stands before it. -/
theorem boundLexemes_append (trailing : Bool) (bounds added : List Bound) :
    ∃ rest, TraitDecl.boundLexemes (trailing && added.isEmpty) (bounds ++ added) =
      TraitDecl.boundLexemes trailing bounds ++ rest := by
  cases added with
  | nil => exact ⟨[], by simp⟩
  | cons first others =>
    rw [List.isEmpty_cons, Bool.and_false]
    induction bounds with
    | nil => exact ⟨_, rfl⟩
    | cons bound bounds ih =>
      cases bounds with
      | nil => cases trailing <;> simp [TraitDecl.boundLexemes]
      | cons next bounds =>
        obtain ⟨rest, written⟩ := ih
        refine ⟨rest, ?_⟩
        simpa [TraitDecl.boundLexemes] using written

example (sync : Bound) (named : sync = ⟨some "Sync", [⟨.word "Sync", .nowhere⟩]⟩) :
    Token.spaced (Lexeme.tokens (TraitDecl.boundLexemes false
      ([sync] ++ missingBound [sync] "Send"))) =
      "Sync + :: core :: marker :: Send" := by
  subst named
  decide +kernel

/-- The attribute is added if it is missing. -/
theorem ensureAsync_eq (decl : TraitDecl) :
    ensureAsync decl =
      { decl with attributes := decl.attributes ++ missingAttribute decl true } := by
  rw [ensureAsync, missingAttribute]
  by_cases present : ∃ attr ∈ decl.attributes, attr.path.endsIn asyncTraitName = true
  · rw [if_pos (by simpa using present), if_neg (by simpa using present), List.append_nil]
  · rw [if_neg (by simpa using present), if_pos (by simpa using present)]

/-- Once it is added, the attribute is not missing. -/
theorem missingAttribute_added {decl other : TraitDecl} {hasAsync : Bool}
    (added : other.attributes = decl.attributes ++ missingAttribute decl hasAsync) :
    missingAttribute other hasAsync = [] := by
  rw [missingAttribute, if_neg]
  rintro ⟨needed, lacks⟩
  rw [added, missingAttribute] at lacks
  split at lacks
  · have named : asyncTraitAttribute.path.endsIn asyncTraitName = true := by decide
    rw [lacks asyncTraitAttribute (by simp)] at named
    cases named
  · rename_i complete
    exact complete ⟨needed, fun attr mem => lacks attr (List.mem_append_left _ mem)⟩

/-- A trait that is written again, part by part. -/
theorem prepareTrait_eq (decl : TraitDecl) (hasAsync : Bool) :
    prepareTrait decl hasAsync =
      { decl with
        attributes := decl.attributes ++ missingAttribute decl hasAsync
        supertraits := decl.supertraits ++ missingBounds decl
        trailingPlus := decl.trailingPlus && (missingBounds decl).isEmpty
        items := decl.items.map stripTraitItem } := by
  rw [prepareTrait, ensureSupertraits_eq]
  cases hasAsync with
  | true => exact ensureAsync_eq _
  | false => simp [missingAttribute, missingBounds]

/-- A trait to which nothing is missing, with no markers in its items, is written as it is. -/
theorem prepareTrait_of_complete {decl : TraitDecl} {hasAsync : Bool}
    (attributes : missingAttribute decl hasAsync = []) (supertraits : missingBounds decl = [])
    (items : decl.items.map stripTraitItem = decl.items) : prepareTrait decl hasAsync = decl := by
  rw [prepareTrait_eq, attributes, supertraits, items]
  simp

/-- No parameter of a trait is marked as an output once its items are written again. -/
theorem not_isMarkedOut_of_mem_methods {decl : TraitDecl} {items : List TraitItem}
    (stripped : decl.items = items.map stripTraitItem) {method : MethodItem}
    (mem : method ∈ decl.methods) :
    ∀ input ∈ method.head.typedInputs, ¬ IsMarkedOut input := by
  rw [TraitDecl.methods, stripped] at mem
  obtain ⟨changed, among, found⟩ := List.mem_filterMap.mp mem
  obtain ⟨original, -, rfl⟩ := List.mem_map.mp among
  cases original with
  | method original =>
    obtain rfl := Option.some.inj found
    exact fun input listed => not_isMarkedOut_of_mem listed (List.mem_singleton_self outMarker)
  | declaration lexemes | uninterpreted lexemes => cases found

/-- Every trait is written again as it should be. -/
theorem rewritesTrait (decl : TraitDecl) (hasAsync : Bool) :
    RewritesTrait decl hasAsync (prepareTrait decl hasAsync) := by
  have parts := prepareTrait_eq decl hasAsync
  have attributes : (prepareTrait decl hasAsync).attributes =
      decl.attributes ++ missingAttribute decl hasAsync := by rw [parts]
  have supertraits : (prepareTrait decl hasAsync).supertraits =
      decl.supertraits ++ missingBounds decl := by rw [parts]
  have items : (prepareTrait decl hasAsync).items = decl.items.map stripTraitItem := by rw [parts]
  have trailing : (prepareTrait decl hasAsync).trailingPlus =
      (decl.trailingPlus && (missingBounds decl).isEmpty) := by rw [parts]
  exact
    { items := by
        rw [items, List.forall₂_map_right_iff, List.forall₂_same]
        exact fun item _ => rewritesTraitItem item
      unmarked := fun method mem => not_isMarkedOut_of_mem_methods items mem
      supertraits
      written := by
        rw [supertraits, trailing]
        exact boundLexemes_append decl.trailingPlus decl.supertraits (missingBounds decl)
      trailingPlus := by
        intro complete
        rw [trailing, complete, List.isEmpty_nil, Bool.and_true]
      attributes
      others := by rw [attributes, supertraits, items, trailing, parts]
      again := by
        refine prepareTrait_of_complete (missingAttribute_added attributes)
          (missingBounds_added supertraits) ?_
        rw [items, List.map_map]
        exact List.map_congr_left fun item _ => stripTraitItem_twice item }

theorem rewritesImplItem (item : ImplItem) : RewritesImplItem item (stripImplItem item) := by
  cases item with
  | method method =>
    exact .method
      { attributes := removesMarkers_withoutMarkers [operationMarker] method.attributes
        inputs := forall₂_stripInputs [injectMarker, outMarker] method.head
        others := rfl }
  | other lexemes => exact .other lexemes

theorem stripImplItem_twice (item : ImplItem) :
    stripImplItem (stripImplItem item) = stripImplItem item := by
  cases item <;> simp [stripImplItem]

/-- A method of a block that is written again was one before. -/
theorem exists_of_mem_methods {block : ImplBlock} {method : MethodItem}
    (mem : method ∈ (stripMarkers block).methods) :
    ∃ original ∈ block.methods, .method method = stripImplItem (.method original) := by
  rw [ImplBlock.methods, stripMarkers] at mem
  obtain ⟨changed, among, found⟩ := List.mem_filterMap.mp mem
  obtain ⟨item, listed, rfl⟩ := List.mem_map.mp among
  cases item with
  | method original =>
    obtain rfl := Option.some.inj found
    exact ⟨original, List.mem_filterMap.mpr ⟨_, listed, rfl⟩, rfl⟩
  | other lexemes => cases found

/-- Every block is written again as it should be. -/
theorem rewritesBlock (block : ImplBlock) : RewritesBlock block (stripMarkers block) where
  items := by
    rw [stripMarkers, List.forall₂_map_right_iff, List.forall₂_same]
    exact fun item _ => rewritesImplItem item
  operations := by
    intro method mem marked
    obtain ⟨original, -, same⟩ := exists_of_mem_methods mem
    obtain rfl := ImplItem.method.inj same
    obtain ⟨attr, kept, found⟩ := List.any_eq_true.mp marked
    rw [not_isMarker_of_mem (List.mem_singleton_self _) kept] at found
    cases found
  inputs := by
    intro method mem input listed
    obtain ⟨original, -, same⟩ := exists_of_mem_methods mem
    obtain rfl := ImplItem.method.inj same
    exact ⟨not_isInjected_of_mem listed (by simp), not_isMarkedOut_of_mem listed (by simp)⟩
  others := rfl
  again := by
    simp only [stripMarkers, List.map_map]
    congr 1
    exact List.map_congr_left fun item _ => stripImplItem_twice item

/-- Whatever is written again loses markers, gets what is missing and stays as it is beyond that. -/
theorem declarations_rewritten (decl : TraitDecl) (hasAsync : Bool) (block : ImplBlock) :
    RewritesDeclarations decl hasAsync block where
  rewritesTrait := rewritesTrait decl hasAsync
  rewritesBlock := rewritesBlock block
  traitCode contract := by
    rw [contractCode, List.append_assoc]
    exact ⟨_, rfl⟩
  blockCode contract analysis := by
    rw [implCode, List.append_assoc]
    exact ⟨_, rfl⟩

end ServiceDispatch.Generate
