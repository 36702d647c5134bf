import Mathlib.Data.List.Nodup
import Mathlib.Data.List.Perm.Basic
import ServiceDispatch.Proofs.Generate.Statics

/-!
# Names of generated items

When the items that are generated for the contracts of one module have distinct names. Statics are
named in upper case, adapters and factories with the letters of the source, and all of them join the
names of a contract and an operation with underscores. So the names of statics do not keep letters
apart by case, and no name keeps underscores of the source apart from those of the joint. Names in
the source of the module itself are not looked at.
-/

namespace ServiceDispatch.Text

/-- No upper-case form outside ASCII holds an underscore. -/
theorem underscore_not_mem_upper_tables :
    upperLong.all (fun row => row.2.all fun code => Char.ofNat code != '_') = true ∧
      upperRuns.all (fun run =>
        0x5F < run.image || run.image + (run.last - run.first) < 0x5F) = true := by
  decide +kernel

theorem eq_of_ofNat_eq_underscore {code : Nat} (same : Char.ofNat code = '_') : code = 0x5F := by
  have codes := congrArg Char.toNat same
  unfold Char.ofNat at codes
  by_cases valid : code.isValidChar
  · rw [dif_pos valid] at codes
    exact codes
  · rw [dif_neg valid] at codes
    contradiction

/-- Letters of ASCII become letters. -/
theorem toUpper_ne_underscore {c : Char} (other : c ≠ '_') : c.toUpper ≠ '_' := by
  unfold Char.toUpper
  split
  case isTrue small =>
    intro same
    have values := congrArg Char.val same
    dsimp only at values
    have codes := congrArg UInt32.toNat values
    have low : 0x61 ≤ c.val.toNat := small.1
    have high : c.val.toNat ≤ 0x7A := small.2
    have back : ('A'.val - 'a'.val).toNat = 0xFFFFFFE0 := by decide +kernel
    have underscore : '_'.val.toNat = 0x5F := by decide +kernel
    rw [UInt32.toNat_add, back, underscore] at codes
    omega
  case isFalse => exact other

/-- The upper-case form of another character holds no underscore. -/
theorem underscore_not_mem_upperChar {c : Char} (other : c ≠ '_') : '_' ∉ upperChar c := by
  obtain ⟨long, runs⟩ := underscore_not_mem_upper_tables
  intro inside
  unfold upperChar at inside
  split at inside
  case isFalse => exact toUpper_ne_underscore other (List.mem_singleton.mp inside).symm
  case isTrue =>
    unfold mapCase at inside
    split at inside
    case h_1 codes image =>
      obtain ⟨row, found, rfl⟩ := Option.map_eq_some_iff.mp image
      obtain ⟨code, mem, underscore⟩ := List.mem_map.mp inside
      have apart := List.all_eq_true.mp
        (List.all_eq_true.mp long row (List.mem_of_find?_eq_some found)) code mem
      simp [underscore] at apart
    case h_2 =>
      split at inside
      case h_1 code image =>
        obtain ⟨run, found, rfl⟩ := Option.map_eq_some_iff.mp image
        have underscore := eq_of_ofNat_eq_underscore (List.mem_singleton.mp inside).symm
        have apart := List.all_eq_true.mp runs run (List.mem_of_find?_eq_some found)
        have within := List.find?_some found
        simp only [Bool.or_eq_true, Bool.and_eq_true, decide_eq_true_eq] at apart within
        omega
      case h_2 => exact other (List.mem_singleton.mp inside).symm

/-- A text without underscores has none in upper case. -/
theorem underscore_not_mem_toUpper {text : String} (without : '_' ∉ text.toList) :
    '_' ∉ (toUpper text).toList := by
  intro inside
  rw [toUpper, String.toList_ofList] at inside
  obtain ⟨c, mem, image⟩ := List.mem_flatMap.mp inside
  have other : c ≠ '_' := by
    rintro rfl
    exact without mem
  exact underscore_not_mem_upperChar other image

end ServiceDispatch.Text

namespace ServiceDispatch.Generate

open Source Code

/-- What the name of a generated item says: its kind, and the joined names that it is for. -/
inductive ItemKey where
  /-- The table of operations of a contract. -/
  | table (contract : String)
  /-- The parameters of an operation. -/
  | params (joint : String)
  /-- The signature of an operation. -/
  | signature (joint : String)
  /-- The entry of an operation. -/
  | entry (joint : String)
  /-- The adapter of an operation. -/
  | adapter (joint : String)
  /-- The factory of the adapter of an operation. -/
  | factory (joint : String)

namespace ItemKey

/-- The name that says it. -/
def text : ItemKey → String
  | table contract => staticStart ++ "OPERATIONS__" ++ contract
  | params joint => staticStart ++ "PARAMS" ++ "__" ++ joint
  | signature joint => staticStart ++ "SIG" ++ "__" ++ joint
  | entry joint => staticStart ++ "ENTRY" ++ "__" ++ joint
  | adapter joint => "__OpbindAdapter_" ++ joint
  | factory joint => "__opbind_factory_" ++ joint

/-- Its kind, as a number. -/
def kind : ItemKey → Fin 6
  | table _ => 0
  | params _ => 1
  | signature _ => 2
  | entry _ => 3
  | adapter _ => 4
  | factory _ => 5

/-- The joined names that it is for. -/
def joint : ItemKey → String
  | table joint | params joint | signature joint | entry joint | adapter joint
  | factory joint => joint

/-- What the names of a kind start with. -/
def start : Fin 6 → String
  | 0 => staticStart ++ "OPERATIONS__"
  | 1 => staticStart ++ "PARAMS" ++ "__"
  | 2 => staticStart ++ "SIG" ++ "__"
  | 3 => staticStart ++ "ENTRY" ++ "__"
  | 4 => "__OpbindAdapter_"
  | 5 => "__opbind_factory_"

theorem text_eq (key : ItemKey) : key.text = start key.kind ++ key.joint := by
  cases key <;> rfl

/-- What a name of a kind says for joined names. -/
def ofKind : Fin 6 → String → ItemKey
  | 0 => table
  | 1 => params
  | 2 => signature
  | 3 => entry
  | 4 => adapter
  | 5 => factory

theorem ofKind_kind (key : ItemKey) : ofKind key.kind key.joint = key := by
  cases key <;> rfl

/-- Names of items of different kinds differ in what they start with. -/
theorem eq_of_start (kind kind' : Fin 6)
    (prefixed : (start kind).toList <+: (start kind').toList) : kind = kind' := by
  have apart : ∀ kind kind' : Fin 6,
      (start kind).toList.isPrefixOf (start kind').toList = true → kind = kind' := by
    decide +kernel
  exact apart kind kind' (List.isPrefixOf_iff_prefix.mpr prefixed)

theorem text_injective : text.Injective := by
  intro first second same
  rw [text_eq, text_eq] at same
  have letters := congrArg String.toList same
  rw [String.toList_append, String.toList_append] at letters
  have kinds : first.kind = second.kind := by
    obtain shorter | longer := List.prefix_or_prefix_of_prefix
      (List.prefix_append (start first.kind).toList first.joint.toList)
      (letters ▸ List.prefix_append (start second.kind).toList second.joint.toList)
    · exact eq_of_start _ _ shorter
    · exact (eq_of_start _ _ longer).symm
  rw [kinds] at letters
  have joints := String.toList_inj.mp (List.append_cancel_left letters)
  rw [← ofKind_kind first, kinds, joints, ofKind_kind]

end ItemKey

/-- Up to the first underscore a joint is the name of the contract. -/
theorem joint_inj {before before' after after' : List Char} (without : '_' ∉ before)
    (without' : '_' ∉ before') (same : before ++ '_' :: after = before' ++ '_' :: after') :
    before = before' ∧ after = after' := by
  induction before generalizing before' with
  | nil =>
    cases before' with
    | nil => exact ⟨rfl, List.tail_eq_of_cons_eq same⟩
    | cons c rest =>
      have first := List.head_eq_of_cons_eq same
      simp [← first] at without'
  | cons c rest ih =>
    cases before' with
    | nil =>
      have first := List.head_eq_of_cons_eq same
      simp [first] at without
    | cons c' rest' =>
      have first : c = c' := List.head_eq_of_cons_eq same
      obtain ⟨equal, later⟩ := ih (fun mem => without (List.mem_cons_of_mem _ mem))
        (fun mem => without' (List.mem_cons_of_mem _ mem)) (List.tail_eq_of_cons_eq same)
      exact ⟨by rw [first, equal], later⟩

/-- What the names of statics of an operation share. -/
def staticJoint (operation : Name × Name) : String :=
  Text.toUpper operation.1.plain ++ "__" ++ Text.toUpper operation.2.plain

/-- What the names of the adapter of an operation and of its factory share. -/
def adapterJoint (operation : Name × Name) : String :=
  operation.1.plain ++ "_" ++ operation.2.plain

/-- The names of all items that are generated for contracts. -/
def moduleItemNames (contracts : List Contract) : List String :=
  contracts.flatMap fun contract =>
    contractItemNames contract.name (contract.operations.map (·.name))

/-- The operations of contracts, each by the names of its contract and its method. -/
def moduleOperations (contracts : List Contract) : List (Name × Name) :=
  contracts.flatMap fun contract =>
    contract.operations.map fun operation => (contract.name, operation.name)

/-- The names that are built for contracts and their operations are apart. -/
structure AreApart (contracts : List Contract) : Prop where
  /-- No two contracts have one name in upper case. -/
  tables : (contracts.map (Text.toUpper ·.name.plain)).Nodup
  /-- No two operations have one name for their statics. -/
  statics : ((moduleOperations contracts).map staticJoint).Nodup
  /-- No two operations have one name for their adapters. -/
  adapters : ((moduleOperations contracts).map adapterJoint).Nodup

/-- What the names of the items of an operation say, in the order in which the items stand. -/
def operationKeys : List (Name × Name → ItemKey) :=
  [fun operation => .params (staticJoint operation),
    fun operation => .signature (staticJoint operation),
    fun operation => .adapter (adapterJoint operation),
    fun operation => .factory (adapterJoint operation),
    fun operation => .entry (staticJoint operation)]

/-- What the name of the table of a contract says. -/
def tableKey (contract : Contract) : ItemKey := .table (Text.toUpper contract.name.plain)

theorem append_joint (start former between latter : String) :
    start ++ former ++ between ++ latter = start ++ (former ++ between ++ latter) := by
  simp only [String.append_assoc]

theorem operationItemNames_eq (contract method : Name) :
    operationItemNames contract method =
      (operationKeys.map (· (contract, method))).map ItemKey.text := by
  have static : ∀ kind, staticName kind contract method =
      staticStart ++ kind ++ "__" ++ staticJoint (contract, method) :=
    fun kind => append_joint _ _ _ _
  have adapter : adapterName contract method =
      "__OpbindAdapter_" ++ adapterJoint (contract, method) := append_joint _ _ _ _
  have factory : factoryName contract method =
      "__opbind_factory_" ++ adapterJoint (contract, method) := append_joint _ _ _ _
  unfold operationItemNames
  rw [static, static, static, adapter, factory]
  rfl

theorem contractItemNames_eq (contract : Contract) :
    contractItemNames contract.name (contract.operations.map (·.name)) =
      (tableKey contract :: contract.operations.flatMap fun operation =>
        operationKeys.map (· (contract.name, operation.name))).map ItemKey.text := by
  unfold contractItemNames
  rw [List.map_cons, List.map_flatMap, List.flatMap_map]
  simp only [operationItemNames_eq]
  rfl

/-- What is listed for one thing after another may be listed for one aspect after another. -/
theorem flatMap_map_perm {α β : Type} (aspects : List (α → β)) (things : List α) :
    (things.flatMap fun thing => aspects.map (· thing)).Perm
      (aspects.flatMap fun aspect => things.map aspect) := by
  induction aspects with
  | nil => simp
  | cons aspect rest ih =>
    have sorted := List.map_append_flatMap_perm things aspect fun thing => rest.map (· thing)
    exact sorted.symm.trans (ih.append_left _)

/-- The items of contracts by kinds: the tables, and each kind of item of an operation. -/
theorem moduleItemNames_perm (contracts : List Contract) :
    (moduleItemNames contracts).Perm
      ((contracts.map tableKey ++ operationKeys.flatMap fun key =>
        (moduleOperations contracts).map key).map ItemKey.text) := by
  have keys : moduleItemNames contracts = (contracts.flatMap fun contract =>
      tableKey contract :: contract.operations.flatMap fun operation =>
        operationKeys.map (· (contract.name, operation.name))).map ItemKey.text := by
    rw [moduleItemNames, List.map_flatMap]
    exact List.flatMap_congr fun contract _ => contractItemNames_eq contract
  have operations : (contracts.flatMap fun contract =>
      contract.operations.flatMap fun operation =>
        operationKeys.map (· (contract.name, operation.name))) =
      (moduleOperations contracts).flatMap fun operation => operationKeys.map (· operation) := by
    simp only [moduleOperations, List.flatMap_assoc, List.flatMap_map]
  rw [keys]
  refine List.Perm.map _ ?_
  refine (List.map_append_flatMap_perm contracts tableKey _).symm.trans ?_
  rw [operations]
  exact (flatMap_map_perm operationKeys _).append_left _

/-- Saying of what kind things are keeps distinct things distinct. -/
theorem nodup_map_wrap {α : Type} {wrap : String → ItemKey} (injective : wrap.Injective)
    (joint : α → String) (things : List α) :
    (things.map fun thing => wrap (joint thing)).Nodup ↔ (things.map joint).Nodup := by
  rw [← List.nodup_map_iff injective, List.map_map]
  rfl

/-- Only items of one kind can have one key. -/
theorem nodup_operationKeys_iff (operations : List (Name × Name)) :
    (operationKeys.flatMap fun key => operations.map key).Nodup ↔
      (operations.map staticJoint).Nodup ∧ (operations.map adapterJoint).Nodup := by
  have kinds : operationKeys.Pairwise fun first second =>
      ∀ operation other, first operation ≠ second other := by
    simp [operationKeys]
  have disjoint : operationKeys.Pairwise
      (Function.onFun List.Disjoint fun key => operations.map key) := by
    refine kinds.imp fun {first second} apart => ?_
    refine List.disjoint_left.mpr fun key here there => ?_
    obtain ⟨operation, _, rfl⟩ := List.mem_map.mp here
    obtain ⟨other, _, same⟩ := List.mem_map.mp there
    exact apart operation other same.symm
  have params := nodup_map_wrap (fun _ _ => ItemKey.params.inj) staticJoint operations
  have signatures := nodup_map_wrap (fun _ _ => ItemKey.signature.inj) staticJoint operations
  have adapters := nodup_map_wrap (fun _ _ => ItemKey.adapter.inj) adapterJoint operations
  have factories := nodup_map_wrap (fun _ _ => ItemKey.factory.inj) adapterJoint operations
  have entries := nodup_map_wrap (fun _ _ => ItemKey.entry.inj) staticJoint operations
  rw [List.nodup_flatMap]
  simp only [operationKeys, List.forall_mem_cons, params, signatures, adapters, factories,
    entries]
  constructor
  · intro ⟨⟨statics, _, adapters, _⟩, _⟩
    exact ⟨statics, adapters⟩
  · intro ⟨statics, adapters⟩
    exact ⟨⟨statics, statics, adapters, adapters, statics, nofun⟩, disjoint⟩

/-- Items have distinct names exactly if what is built from the names of contracts and operations is
apart. -/
theorem nodup_moduleItemNames_iff (contracts : List Contract) :
    (moduleItemNames contracts).Nodup ↔ AreApart contracts := by
  have tables : (contracts.map tableKey).Nodup ↔
      (contracts.map (Text.toUpper ·.name.plain)).Nodup := by
    have injective : (ItemKey.table).Injective := fun _ _ same => ItemKey.table.inj same
    have wrapped := nodup_map_wrap injective
      (fun contract : Contract => Text.toUpper contract.name.plain) contracts
    unfold tableKey
    exact wrapped
  have kinds : ∀ key ∈ operationKeys, ∀ contract operation,
      tableKey contract ≠ key operation := by
    intro key mem contract operation
    unfold tableKey
    simp only [operationKeys, List.mem_cons, List.not_mem_nil, or_false] at mem
    obtain rfl | rfl | rfl | rfl | rfl := mem <;> exact nofun
  have apart : ∀ table ∈ contracts.map tableKey,
      ∀ other ∈ operationKeys.flatMap fun key => (moduleOperations contracts).map key,
        table ≠ other := by
    intro table here other there
    obtain ⟨contract, _, rfl⟩ := List.mem_map.mp here
    obtain ⟨key, kind, listed⟩ := List.mem_flatMap.mp there
    obtain ⟨operation, _, rfl⟩ := List.mem_map.mp listed
    exact kinds key kind contract operation
  rw [(moduleItemNames_perm contracts).nodup_iff, List.nodup_map_iff ItemKey.text_injective,
    List.nodup_append, tables, nodup_operationKeys_iff]
  constructor
  · intro ⟨tables, ⟨statics, adapters⟩, _⟩
    exact ⟨tables, statics, adapters⟩
  · intro distinct
    exact ⟨distinct.tables, ⟨distinct.statics, distinct.adapters⟩, apart⟩

/-- Names differ without regard to case. -/
structure DifferInUpperCase (contracts : List Contract) : Prop where
  /-- Those of any two contracts. -/
  traits : (contracts.map (Text.toUpper ·.name.plain)).Nodup
  /-- Those of any two operations of one contract. -/
  methods : ∀ contract ∈ contracts,
    (contract.operations.map (Text.toUpper ·.name.plain)).Nodup

/-- Names that are apart differ without regard to case. -/
theorem AreApart.differInUpperCase {contracts : List Contract} (apart : AreApart contracts) :
    DifferInUpperCase contracts where
  traits := apart.tables
  methods := by
    intro contract mem
    have statics := apart.statics
    rw [moduleOperations, List.map_flatMap, List.nodup_flatMap] at statics
    have distinct := statics.1 contract mem
    rw [List.map_map] at distinct
    refine List.pairwise_map.mpr ((List.pairwise_map.mp distinct).imp ?_)
    intro first second differs same
    apply differs
    simp only [Function.comp_apply, staticJoint, same]

/-- Joints that tell the names of contracts and methods apart but for their case are distinct where
these names differ without regard to case. -/
theorem nodup_map_joint {contracts : List Contract} {joint : Name × Name → String}
    (tells : ∀ first ∈ contracts, ∀ second ∈ contracts, ∀ method other,
      joint (first.name, method) = joint (second.name, other) →
        Text.toUpper first.name.plain = Text.toUpper second.name.plain ∧
          Text.toUpper method.plain = Text.toUpper other.plain)
    (differ : DifferInUpperCase contracts) :
    ((moduleOperations contracts).map joint).Nodup := by
  rw [moduleOperations, List.map_flatMap, List.nodup_flatMap]
  constructor
  · intro contract mem
    have distinct := List.pairwise_map.mp (differ.methods contract mem)
    rw [List.map_map]
    refine List.pairwise_map.mpr (distinct.imp fun {first second} differs same => ?_)
    exact differs (tells contract mem contract mem _ _ same).2
  · have distinct := List.pairwise_map.mp differ.traits
    refine distinct.imp_of_mem fun {first second} here there differs => ?_
    refine List.disjoint_left.mpr fun name mine others => ?_
    simp only [List.map_map, List.mem_map, Function.comp_apply] at mine others
    obtain ⟨operation, _, rfl⟩ := mine
    obtain ⟨other, _, same⟩ := others
    exact differs (tells second there first here _ _ same).1.symm

/-- Where no contract has an underscore in its name, names that differ without regard to case are
apart. -/
theorem areApart_iff {contracts : List Contract}
    (without : ∀ contract ∈ contracts, '_' ∉ contract.name.plain.toList) :
    AreApart contracts ↔ DifferInUpperCase contracts := by
  constructor
  · exact AreApart.differInUpperCase
  · intro differ
    refine ⟨differ.traits, nodup_map_joint ?_ differ, nodup_map_joint ?_ differ⟩
    · intro first here second there method other same
      have letters := congrArg String.toList same
      simp only [staticJoint, String.toList_append, List.append_assoc] at letters
      have parts := joint_inj (Text.underscore_not_mem_toUpper (without first here))
        (Text.underscore_not_mem_toUpper (without second there)) letters
      have after := List.tail_eq_of_cons_eq parts.2
      exact ⟨String.toList_inj.mp parts.1, String.toList_inj.mp after⟩
    · intro first here second there method other same
      have letters := congrArg String.toList same
      simp only [adapterJoint, String.toList_append, List.append_assoc] at letters
      have parts := joint_inj (without first here) (without second there) letters
      have traits := String.toList_inj.mp parts.1
      have methods := String.toList_inj.mp parts.2
      rw [traits, methods]
      exact ⟨rfl, rfl⟩

/-- A trait that is declared as a contract, with the namespace that is given for it. -/
abbrev Declaration := TraitDecl × Option String

/-- The analysed contract. -/
def Declaration.contract (declared : Declaration) : Contract :=
  analyzeContract declared.1 declared.2

/-- The code that is generated for a contract after its trait is that of items, and nothing follows
them but the report of problems. -/
def Declaration.Emits (declared : Declaration) (items : ContractItems) : Prop :=
  ∃ generated,
    contractCode declared.1 declared.contract =
      Lexeme.tokens (prepareTrait declared.1 declared.contract.hasAsync).lexemes ++ generated ∧
    Reader.contract generated = some (items, diagnostics declared.contract.diagnostics)

theorem emits_contractItems {declared : Declaration}
    (supported : declared.contract.supported = true)
    (balanced : ∀ operation ∈ declared.contract.operations,
      ∀ parameter ∈ operation.parameters, Balanced parameter.type.tokens) :
    declared.Emits (contractItems declared.contract) := by
  have stops : ∀ found : List Diagnostic, (mark "#").isPrefixOf (diagnostics found) = false := by
    intro found
    cases found with
    | nil => rfl
    | cons problem rest => rfl
  refine ⟨_, ?_, Reader.run_contract _ balanced (stops _)⟩
  rw [contractCode, if_pos supported, List.append_assoc]

/-- The items that are generated for the contracts of a module have distinct names exactly if what
is built from the names of contracts and operations is apart; and if no contract has an underscore
in its name, exactly if the names of contracts, and of the operations of each, differ without regard
to case. The brackets of the types in the code match, as those of tokens always do. -/
theorem emitted_names_nodup_iff (declarations : List Declaration)
    (supported : ∀ declared ∈ declarations, declared.contract.supported = true)
    (balanced : ∀ declared ∈ declarations, ∀ operation ∈ declared.contract.operations,
      ∀ parameter ∈ operation.parameters, Balanced parameter.type.tokens) :
    ∃ emitted : List ContractItems,
      List.Forall₂ Declaration.Emits declarations emitted ∧
      ((emitted.flatMap (·.names)).Nodup ↔ AreApart (declarations.map (·.contract))) ∧
      ((∀ declared ∈ declarations, '_' ∉ declared.1.name.plain.toList) →
        ((emitted.flatMap (·.names)).Nodup ↔
          DifferInUpperCase (declarations.map (·.contract)))) := by
  have emits : List.Forall₂ Declaration.Emits declarations
      (declarations.map fun declared => contractItems declared.contract) := by
    rw [List.forall₂_map_right_iff, List.forall₂_same]
    exact fun declared mem => emits_contractItems (supported declared mem) (balanced declared mem)
  have names :
      (declarations.map fun declared => contractItems declared.contract).flatMap (·.names) =
        moduleItemNames (declarations.map (·.contract)) := by
    simp only [moduleItemNames, List.flatMap_map, names_contractItems]
  refine ⟨_, emits, ?_, fun without => ?_⟩
  · rw [names]
    exact nodup_moduleItemNames_iff _
  · have plain : ∀ contract ∈ declarations.map (·.contract), '_' ∉ contract.name.plain.toList := by
      intro contract mem
      obtain ⟨declared, inside, rfl⟩ := List.mem_map.mp mem
      exact without declared inside
    rw [names, nodup_moduleItemNames_iff, areApart_iff plain]

namespace Recording

/-- The contracts `Ledger` and `Journal` with the same methods. -/
def books : List Declaration :=
  [(ledger, some "books"), ({ ledger with name := name "Journal" }, none)]

/-- A contract with the methods `get` and `GET`. -/
def twice : TraitDecl :=
  { ledger with
    items :=
      [.method ⟨[], [], { totalHead with name := name "get" }, none⟩,
        .method ⟨[], [], { totalHead with name := name "GET" }, none⟩] }

end Recording

open Recording in
theorem emitted_names_nodup_iff_books :
    (∀ declared ∈ books, declared.contract.supported = true) ∧
      (∀ declared ∈ books, '_' ∉ declared.1.name.plain.toList) ∧
      DifferInUpperCase (books.map (·.contract)) ∧
      ∃ emitted : List ContractItems,
        List.Forall₂ Declaration.Emits books emitted ∧ (emitted.flatMap (·.names)).Nodup := by
  have supported : ∀ declared ∈ books, declared.contract.supported = true := by decide
  have balanced : ∀ declared ∈ books, ∀ operation ∈ declared.contract.operations,
      ∀ parameter ∈ operation.parameters, Balanced parameter.type.tokens := by
    intro declared listed operation mem parameter inside
    refine Balanced.of_plain ?_
    revert declared operation parameter
    decide +kernel
  have without : ∀ declared ∈ books, '_' ∉ declared.1.name.plain.toList := by decide +kernel
  have differ : DifferInUpperCase (books.map (·.contract)) :=
    ⟨by decide +kernel, by decide +kernel⟩
  obtain ⟨emitted, emits, _, distinct⟩ := emitted_names_nodup_iff books supported balanced
  exact ⟨supported, without, differ, emitted, emits, (distinct without).mpr differ⟩

open Recording in
/-- Methods whose names differ in case alone have one name for their statics, while their adapters
keep the letters of the source. -/
theorem emitted_names_clash_twice :
    (twice.methods.map (·.head.name.plain)).Nodup ∧
      ∃ items : ContractItems, Declaration.Emits (twice, some "books") items ∧
        items.operations.map (·.adapter.name) =
          ["__OpbindAdapter_Ledger_get", "__OpbindAdapter_Ledger_GET"] ∧
        items.operations.map (·.signature.name) =
          ["__OPBIND_SIG__LEDGER__GET", "__OPBIND_SIG__LEDGER__GET"] ∧
        ¬ items.names.Nodup := by
  have balanced : ∀ operation ∈ (Declaration.contract (twice, some "books")).operations,
      ∀ parameter ∈ operation.parameters, Balanced parameter.type.tokens := by
    intro operation mem parameter inside
    refine Balanced.of_plain ?_
    revert operation parameter
    decide +kernel
  have supported : (Declaration.contract (twice, some "books")).supported = true := by decide
  have emits := emits_contractItems supported balanced
  exact ⟨by decide +kernel, _, emits, by decide +kernel, by decide +kernel, by decide +kernel⟩

end ServiceDispatch.Generate
