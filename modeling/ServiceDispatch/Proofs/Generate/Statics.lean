import Mathlib.Data.List.Nodup
import ServiceDispatch.Proofs.Generate.Adapter
import ServiceDispatch.Proofs.Generate.Emission
import ServiceDispatch.Proofs.TypeName.ModulePath

/-!
# Generated statics say what analysis found

The items that are generated for a contract are read back from the code alone and compared with the
analysed contract: signatures, the table of them, and the adapter and the entry of each operation.
The key of an operation is the same on both sides, but for the path of the module that stands in
place of `self`. Module names that start or end with a character that no word of a type name has are
left out: there the keys differ.
-/

namespace ServiceDispatch.Generate

open Source Code

namespace OperationItems

/-- The names of the items of an operation in the order in which they stand. -/
def names (items : OperationItems) : List String :=
  [items.parameters.name, items.signature.name, items.adapter.name, items.factory.name,
    items.entry.name]

/-- The signature that the items of an operation hold, in a module. -/
def signatureIn (modulePath : String) (items : OperationItems) : Signature where
  declaringType := items.signature.declaring.value modulePath
  method := items.signature.method
  parameters := items.parameters.rows
  shape := items.signature.shape

/-- The items of an operation refer to each other: the signature to its parameters, the adapter and
the entry to the signature, the entry to the factory and the factory to the adapter. -/
structure IsPaired (items : OperationItems) : Prop where
  parameters : items.signature.parameters = items.parameters.name
  implements : items.adapter.target = items.adapter.name
  answers : items.adapter.signature = items.signature.name
  makes : items.factory.adapter = items.adapter.name
  registers : items.entry.signature = items.signature.name
  through : items.entry.factory = items.factory.name

end OperationItems

namespace ContractItems

/-- The names of all items of a contract in the order in which they stand. -/
def names (items : ContractItems) : List String :=
  items.table.name :: items.operations.flatMap OperationItems.names

/-- The full names of the contract as its items spell them. -/
def spellings (items : ContractItems) : List Declaring :=
  items.table.declaring :: items.operations.map (·.signature.declaring)

/-- The signature that a name refers to, in a module, with the parameters that it refers to. -/
def signatureNamed? (items : ContractItems) (modulePath name : String) : Option Signature :=
  (items.operations.find? (·.signature.name = name)).bind fun held =>
    (items.operations.find? (·.parameters.name = held.signature.parameters)).map fun described =>
      { held.signatureIn modulePath with parameters := described.parameters.rows }

end ContractItems

/-- The signature of an operation of a contract whose items stand in a module. -/
def Contract.signatureIn (contract : Contract) (modulePath : String)
    (operation : ContractOperation) : Signature :=
  { operation.signature with
    declaringType := contract.givenNamespace.getD modulePath ++ "::" ++ contract.name.plain }

/-- Items say what the analysis of a contract found. -/
structure ContractItems.Tell (items : ContractItems) (contract : Contract) : Prop where
  /-- The items of the contract are there, each once, and those of its operations in order. -/
  names : items.names = contractItemNames contract.name (contract.operations.map (·.name))
  /-- With a namespace the full name of the contract is a text, without one it is built. -/
  spelling : ∀ spelling ∈ items.spellings, spelling =
    match contract.givenNamespace with
    | some given => .literal (given ++ "::" ++ contract.name.plain)
    | none => .inModule ("::" ++ contract.name.plain)
  /-- The signatures are those of the operations, in order. -/
  signatures : ∀ modulePath,
    items.operations.map (·.signatureIn modulePath) =
      contract.operations.map (contract.signatureIn modulePath)
  /-- Parameters are numbered from zero. -/
  positions : ∀ operation ∈ items.operations,
    operation.parameters.rows.map (·.position) = List.range operation.parameters.rows.length
  /-- The lengths of arrays are the numbers of their elements. -/
  lengths : items.table.length = items.table.rows.length ∧
    ∀ operation ∈ items.operations, operation.parameters.length = operation.parameters.rows.length
  /-- The table lists the signatures in order, and the implementation hands it out. -/
  table : items.table.rows = items.operations.map (·.signature.name) ∧
    items.table.table = items.table.name ∧ items.table.contract = contract.name.text
  /-- Every operation has its own parameters, signature, adapter, factory and entry. -/
  paired : ∀ operation ∈ items.operations, operation.IsPaired
  /-- Where no two items share a name, the names in the table lead to the signatures. -/
  resolved : items.names.Nodup → ∀ modulePath,
    items.table.rows.map (items.signatureNamed? modulePath) =
      contract.operations.map fun operation => some (contract.signatureIn modulePath operation)
  /-- Where no two items share a name, one adapter answers a signature, and one entry registers it.
  -/
  unique : items.names.Nodup → ∀ operation ∈ items.operations,
    items.operations.filter (·.adapter.signature = operation.signature.name) = [operation] ∧
      items.operations.filter (·.entry.signature = operation.signature.name) = [operation]

/-- The keys that the items of a contract give its operations are those that analysis gives them,
with the path of the module in place of the namespace that stands for it. Every name of that path
starts and ends with a character of words, and no path of the full name has a short name. -/
structure ContractItems.GiveKeys (items : ContractItems) (contract : Contract) : Prop where
  given : ∀ given, contract.givenNamespace = some given → ∀ modulePath,
    items.operations.map (fun operation => (operation.signatureIn modulePath).key) =
      contract.operations.map (·.key)
  inModule : contract.givenNamespace = none → ∀ names : List String, names ≠ [] →
    (∀ name ∈ names, TypeName.IsModuleName name.toList) →
    (∀ path ∈ TypeName.paths ("::".intercalate names ++ "::" ++ contract.name.plain),
      TypeName.shortName? path = none) →
    ∃ tails : List String,
      contract.operations.map (·.key.text) = tails.map (moduleNamespace ++ ·) ∧
      items.operations.map
          (fun operation => (operation.signatureIn ("::".intercalate names)).key.text) =
        tails.map (".".intercalate names ++ ·)

theorem mem_operations_ofItems {ι : Type} {contribution : ι → Contribution ContractOperation}
    {items : List ι} {operation : ContractOperation}
    (mem : operation ∈ (Contribution.ofItems contribution items).operations) :
    ∃ item ∈ items, operation ∈ (contribution item).operations := by
  induction items with
  | nil => cases mem
  | cons item rest ih =>
    obtain here | later := List.mem_append.mp mem
    · exact ⟨item, List.mem_cons_self, here⟩
    · obtain ⟨found, inRest, mem⟩ := ih later
      exact ⟨found, List.mem_cons_of_mem _ inRest, mem⟩

/-- Every operation of a contract is that of a method with parameters. -/
theorem exists_operationOf {decl : TraitDecl} {givenNamespace : Option String}
    {operation : ContractOperation}
    (mem : operation ∈ (analyzeContract decl givenNamespace).operations) :
    ∃ head parameters,
      operation = operationOf (declaringType givenNamespace decl.name) head parameters := by
  obtain ⟨item, -, mem⟩ := mem_operations_ofItems mem
  cases item with
  | method method =>
    rw [contractContribution] at mem
    split at mem
    · cases result : analyzeOperation (declaringType givenNamespace decl.name) method.head with
      | error faults =>
        rw [result] at mem
        cases mem
      | ok found =>
        rw [result] at mem
        obtain rfl := List.mem_singleton.mp mem
        obtain ⟨parameters, -, rfl⟩ := analyzeOperation_ok result
        exact ⟨_, parameters, rfl⟩
    · cases mem
  | declaration lexemes => cases mem
  | uninterpreted lexemes => cases mem

theorem map_position_signatureParameters (parameters : List ContractParameter) :
    (signatureParameters parameters).map (·.position) =
      List.range (signatureParameters parameters).length := by
  apply List.ext_getElem <;> simp [signatureParameters]

section

/-- Of some items with distinct names, one has the name of a given one. -/
theorem filter_eq_singleton {α : Type} [DecidableEq α] {items : List α} {name : α → String}
    (distinct : (items.map name).Nodup) {item : α} (mem : item ∈ items) :
    items.filter (name · = name item) = [item] := by
  have same : items.filter (name · = name item) = items.filter (· = item) := by
    refine List.filter_congr fun other inside => ?_
    have injective := List.inj_on_of_nodup_map distinct inside mem
    by_cases equal : other = item
    · simp [equal]
    · have differs : name other ≠ name item := fun same => equal (injective same)
      simp [equal, differs]
  rw [same, List.filter_eq, List.count_eq_one_of_mem (List.Nodup.of_map _ distinct) mem]
  rfl

theorem find?_eq_some_of_nodup {α : Type} {items : List α} {name : α → String}
    (distinct : (items.map name).Nodup) {item : α} (mem : item ∈ items) :
    items.find? (name · = name item) = some item := by
  obtain ⟨found, first⟩ : ∃ found, items.find? (name · = name item) = some found := by
    rw [← Option.isSome_iff_exists, List.find?_isSome]
    exact ⟨item, mem, by simp⟩
  have same : name found = name item := by simpa using List.find?_some first
  rw [first, List.inj_on_of_nodup_map distinct (List.mem_of_find?_eq_some first) mem same]

/-- Where no two items share a name, no two operations do, by any of their items. -/
theorem nodup_map_name {items : ContractItems} (distinct : items.names.Nodup)
    {name : OperationItems → String} (own : ∀ operation, name operation ∈ operation.names) :
    (items.operations.map name).Nodup := by
  refine List.Nodup.sublist (.cons _ ?_) distinct
  induction items.operations with
  | nil => exact .slnil
  | cons operation rest ih =>
    rw [List.flatMap_cons]
    exact (List.singleton_sublist.mpr (own operation)).append ih

end

section

variable (decl : TraitDecl) (givenNamespace : Option String)

theorem names_contractItems (contract : Contract) :
    (contractItems contract).names =
      contractItemNames contract.name (contract.operations.map (·.name)) := by
  simp only [ContractItems.names, contractItems, contractItemNames, List.flatMap_map]
  rfl

theorem declared_analyzeContract : (analyzeContract decl givenNamespace).declared =
    match givenNamespace with
    | some given => .literal (given ++ "::" ++ decl.name.plain)
    | none => .inModule ("::" ++ decl.name.plain) := by
  cases givenNamespace <;> rfl

theorem signatureIn_operationItems (modulePath : String) (operation : ContractOperation) :
    (operationItems (analyzeContract decl givenNamespace) operation).signatureIn modulePath =
      (analyzeContract decl givenNamespace).signatureIn modulePath operation := by
  have spelled : (analyzeContract decl givenNamespace).declared.value modulePath =
      givenNamespace.getD modulePath ++ "::" ++ decl.name.plain := by
    rw [declared_analyzeContract]
    cases givenNamespace with
    | some given => rfl
    | none => exact (String.append_assoc).symm
  exact congrArg
    (fun declaringType => ({ operation.signature with declaringType } : Signature)) spelled

variable {contract : Contract} {items : OperationItems}

theorem isPaired_of_mem (mem : items ∈ (contractItems contract).operations) : items.IsPaired := by
  obtain ⟨operation, -, rfl⟩ := List.mem_map.mp mem
  exact ⟨rfl, rfl, rfl, rfl, rfl, rfl⟩

theorem rows_table_contractItems (contract : Contract) :
    (contractItems contract).table.rows =
      (contractItems contract).operations.map (·.signature.name) := by
  rw [contractItems, List.map_map]
  rfl

theorem spelling_contractItems {spelling : Declaring}
    (mem : spelling ∈ (contractItems contract).spellings) : spelling = contract.declared := by
  obtain rfl | mem := List.mem_cons.mp mem
  · rfl
  · obtain ⟨items, inside, rfl⟩ := List.mem_map.mp mem
    obtain ⟨operation, -, rfl⟩ := List.mem_map.mp inside
    rfl

theorem signatures_contractItems (modulePath : String) :
    (contractItems (analyzeContract decl givenNamespace)).operations.map
        (·.signatureIn modulePath) =
      (analyzeContract decl givenNamespace).operations.map
        ((analyzeContract decl givenNamespace).signatureIn modulePath) := by
  rw [contractItems, List.map_map]
  exact List.map_congr_left fun operation _ =>
    signatureIn_operationItems decl givenNamespace modulePath operation

/-- The name of a signature leads to it, where no two items share a name. -/
theorem signatureNamed?_of_mem {contractItems : ContractItems}
    (distinct : contractItems.names.Nodup) (modulePath : String)
    (mem : items ∈ contractItems.operations) (paired : items.IsPaired) :
    contractItems.signatureNamed? modulePath items.signature.name =
      some (items.signatureIn modulePath) := by
  have held := find?_eq_some_of_nodup
    (@nodup_map_name _ distinct (·.signature.name) (by simp [OperationItems.names])) mem
  have described := find?_eq_some_of_nodup
    (@nodup_map_name _ distinct (·.parameters.name) (by simp [OperationItems.names])) mem
  rw [ContractItems.signatureNamed?, held, Option.bind_some, paired.parameters, described]
  rfl

/-- The names in the table lead to the signatures, where no two items share a name. -/
theorem signatureNamed?_rows (distinct : (contractItems contract).names.Nodup)
    (modulePath : String) :
    (contractItems contract).table.rows.map
        ((contractItems contract).signatureNamed? modulePath) =
      (contractItems contract).operations.map fun items => some (items.signatureIn modulePath) := by
  rw [rows_table_contractItems, List.map_map]
  exact List.map_congr_left fun items mem =>
    signatureNamed?_of_mem distinct modulePath mem (isPaired_of_mem mem)

/-- Items that refer to a signature by its name belong to the same operation, where no two items
share a name. -/
theorem filter_refers (distinct : (contractItems contract).names.Nodup)
    (mem : items ∈ (contractItems contract).operations) {refers : OperationItems → String}
    (own : ∀ items : OperationItems, items.IsPaired → refers items = items.signature.name) :
    (contractItems contract).operations.filter (refers · = items.signature.name) = [items] := by
  have named : ((contractItems contract).operations.map (·.signature.name)).Nodup :=
    nodup_map_name distinct (by simp [OperationItems.names])
  rw [← filter_eq_singleton named mem]
  exact List.filter_congr fun other inside => by rw [own other (isPaired_of_mem inside)]

/-- The items of a contract say what its analysis found. -/
theorem contractItems_tell :
    (contractItems (analyzeContract decl givenNamespace)).Tell
      (analyzeContract decl givenNamespace) := by
  constructor
  case names => exact names_contractItems _
  case spelling =>
    intro spelling mem
    rw [spelling_contractItems mem]
    exact declared_analyzeContract decl givenNamespace
  case signatures => exact signatures_contractItems decl givenNamespace
  case positions =>
    intro items mem
    obtain ⟨operation, found, rfl⟩ := List.mem_map.mp mem
    obtain ⟨head, parameters, rfl⟩ := exists_operationOf found
    exact map_position_signatureParameters parameters
  case lengths =>
    refine ⟨(List.length_map _).symm, fun items mem => ?_⟩
    obtain ⟨operation, -, rfl⟩ := List.mem_map.mp mem
    rfl
  case table => exact ⟨rows_table_contractItems _, rfl, rfl⟩
  case paired => exact fun _ => isPaired_of_mem
  case resolved =>
    intro distinct modulePath
    have signatures := congrArg (List.map some)
      (signatures_contractItems decl givenNamespace modulePath)
    rw [List.map_map, List.map_map] at signatures
    rw [signatureNamed?_rows distinct]
    exact signatures
  case unique =>
    intro distinct items mem
    exact ⟨filter_refers distinct mem fun _ paired => paired.answers,
      filter_refers distinct mem fun _ paired => paired.registers⟩

/-- The key of a signature apart from the normal form of the declaring type. -/
def keyEnd (signature : Signature) : String :=
  "." ++ signature.method ++ "(" ++
    String.intercalate ", " (signature.parameters.map CanonicalKey.parameterEntry) ++ ")"

theorem key_text (signature : Signature) :
    signature.key.text = TypeName.normalize signature.declaringType ++ keyEnd signature := by
  simp [Signature.key, CanonicalKey.ofSignature, keyEnd, String.append_assoc]

/-- Every operation of a contract is declared by the contract. -/
theorem declaringType_of_mem {operation : ContractOperation}
    (mem : operation ∈ (analyzeContract decl givenNamespace).operations) :
    operation.signature.declaringType = declaringType givenNamespace decl.name := by
  obtain ⟨head, parameters, rfl⟩ := exists_operationOf mem
  rfl

theorem keys_contractItems (modulePath : String) :
    (contractItems (analyzeContract decl givenNamespace)).operations.map
        (fun items => (items.signatureIn modulePath).key) =
      (analyzeContract decl givenNamespace).operations.map fun operation =>
        ((analyzeContract decl givenNamespace).signatureIn modulePath operation).key := by
  have signatures := congrArg (List.map Signature.key)
    (signatures_contractItems decl givenNamespace modulePath)
  rw [List.map_map, List.map_map] at signatures
  exact signatures

/-- The key that analysis gives an operation of a contract without a namespace. -/
theorem key_text_of_mem {operation : ContractOperation}
    (mem : operation ∈ (analyzeContract decl none).operations) :
    operation.key.text = moduleNamespace ++
      (String.ofList (TypeName.tailForm decl.name.plain.toList) ++
        keyEnd operation.signature) := by
  have declared : operation.signature.declaringType =
      moduleNamespace ++ "::" ++ decl.name.plain := declaringType_of_mem decl none mem
  rw [ContractOperation.key, key_text, declared,
    show moduleNamespace = "self" from rfl, TypeName.normalize_self, String.append_assoc]

theorem contractItems_giveKeys :
    (contractItems (analyzeContract decl givenNamespace)).GiveKeys
      (analyzeContract decl givenNamespace) := by
  constructor
  case given =>
    intro given isGiven modulePath
    obtain rfl : givenNamespace = some given := isGiven
    rw [keys_contractItems]
    refine List.map_congr_left fun operation mem => ?_
    have declared : operation.signature.declaringType = given ++ "::" ++ decl.name.plain :=
      declaringType_of_mem decl (some given) mem
    have same : (analyzeContract decl (some given)).signatureIn modulePath operation =
        operation.signature := by
      rw [Contract.signatureIn,
        show (analyzeContract decl (some given)).givenNamespace = some given from rfl,
        show (analyzeContract decl (some given)).name = decl.name from rfl, Option.getD_some,
        ← declared]
    rw [same, ContractOperation.key]
  case inModule =>
    intro isNone names nonempty each long
    obtain rfl : givenNamespace = none := isNone
    refine ⟨(analyzeContract decl none).operations.map fun operation =>
      String.ofList (TypeName.tailForm decl.name.plain.toList) ++ keyEnd operation.signature,
      ?_, ?_⟩
    · rw [List.map_map]
      exact List.map_congr_left fun operation mem => key_text_of_mem decl mem
    · have texts := congrArg (List.map CanonicalKey.text)
        (keys_contractItems decl none ("::".intercalate names))
      rw [List.map_map, List.map_map] at texts
      refine texts.trans ?_
      rw [List.map_map]
      refine List.map_congr_left fun operation _ => ?_
      rw [Function.comp_apply, Function.comp_apply, key_text, Contract.signatureIn,
        show (analyzeContract decl none).givenNamespace = none from rfl, Option.getD_none,
        TypeName.normalize_inModule each nonempty long, String.append_assoc]
      rfl

/-- The code that is generated for a contract after its trait says what analysis found. The brackets
of the types in it match, as those of tokens always do. -/
theorem contractCode_tells
    (supported : (analyzeContract decl givenNamespace).supported = true)
    (balanced : ∀ operation ∈ (analyzeContract decl givenNamespace).operations,
      ∀ parameter ∈ operation.parameters, Balanced parameter.type.tokens) :
    ∃ generated items,
      contractCode decl (analyzeContract decl givenNamespace) =
        Lexeme.tokens
          (prepareTrait decl (analyzeContract decl givenNamespace).hasAsync).lexemes ++
          generated ∧
      Reader.contract generated =
        some (items, diagnostics (analyzeContract decl givenNamespace).diagnostics) ∧
      items.Tell (analyzeContract decl givenNamespace) ∧
      items.GiveKeys (analyzeContract decl givenNamespace) := by
  have stops : ∀ found : List Diagnostic, (mark "#").isPrefixOf (diagnostics found) = false := by
    intro found
    cases found with
    | nil => rfl
    | cons problem rest => rfl
  refine ⟨_, _, ?_, Reader.run_contract _ balanced (stops _), contractItems_tell _ _,
    contractItems_giveKeys _ _⟩
  rw [contractCode, if_pos supported, List.append_assoc]

end

namespace Recording

/-- `fn total(&self)` -/
def totalHead : MethodHead :=
  { head with
    qualifiers := [⟨.word "fn", .nowhere⟩]
    name := name "total"
    inputs := [.receiver ⟨[], true, false, false, []⟩]
    output := none }

/-- The contract `Ledger` with the methods `record` and `total`. -/
def ledger : TraitDecl where
  attributes := []
  modifiers := [⟨.word "trait", .nowhere⟩]
  name := name "Ledger"
  generics := .absent
  supertraits := []
  trailingPlus := false
  conditions := []
  items := [.method ⟨[], [], head, none⟩, .method ⟨[], [], totalHead, none⟩]

end Recording

open Recording in
/-- The contract in a module with a raw name. -/
theorem contractCode_tells_ledger :
    (analyzeContract ledger none).supported = true ∧
      (analyzeContract ledger none).operations.map (·.parameters.length) = [3, 0] ∧
      ∃ generated items,
        contractCode ledger (analyzeContract ledger none) =
          Lexeme.tokens
            (prepareTrait ledger (analyzeContract ledger none).hasAsync).lexemes ++ generated ∧
        Reader.contract generated =
          some (items, diagnostics (analyzeContract ledger none).diagnostics) ∧
        items.Tell (analyzeContract ledger none) ∧
        ∃ tails : List String,
          (analyzeContract ledger none).operations.map (·.key.text) = tails.map ("self" ++ ·) ∧
          items.operations.map
              (fun operation => (operation.signatureIn "demo::r#type").key.text) =
            tails.map ("demo.r#type" ++ ·) := by
  have balanced : ∀ operation ∈ (analyzeContract ledger none).operations,
      ∀ parameter ∈ operation.parameters, Balanced parameter.type.tokens := by
    intro operation mem parameter inside
    refine Balanced.of_plain ?_
    revert operation parameter
    decide +kernel
  have moduleNames : ∀ name ∈ ["demo", "r#type"], TypeName.IsModuleName name.toList := by
    decide +kernel
  obtain ⟨generated, items, code, read, tell, keys⟩ :=
    contractCode_tells ledger none (by decide) balanced
  exact ⟨by decide, by decide +kernel, generated, items, code, read, tell,
    keys.inModule rfl ["demo", "r#type"] (by decide) moduleNames (by decide +kernel)⟩

open Recording in
/-- In a module whose name ends in a character that no word has, the separator after the name is
lost, so the keys are not those that analysis gives with the path of the module for `self`. -/
theorem keys_ledger_in_marked_module :
    (analyzeContract ledger none).operations.map
        (fun operation =>
          ((analyzeContract ledger none).signatureIn "demo::a·" operation).key.text) =
      ["demo.a·Ledger.record(out String, u64, inout u64)", "demo.a·Ledger.total()"] ∧
    (analyzeContract ledger none).operations.map (·.key.text) =
      ["self.Ledger.record(out String, u64, inout u64)", "self.Ledger.total()"] := by
  decide +kernel

end ServiceDispatch.Generate
