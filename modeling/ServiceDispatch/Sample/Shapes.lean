import ServiceDispatch.Sample.Content

/-!
# Sample: shapes

One operation for each form of parameters and returns.
-/

namespace ServiceDispatch.Sample.Shapes

/-- Counts a touch. -/
def touch : Method Content := fun object _ => do
  change object .increment
  pure .done

/-- Doubles a number. -/
def double : Method Content
  | _, [.i32 value] => pure (.value (.i32 (value * 2)))
  | _, _ => misfit

/-- Forgets all touches. -/
def reset : Method Content := fun object _ => do
  change object fun _ => .counter 0
  pure .done

/-- Shows a label with the number of touches. -/
def describe : Method Content
  | object, [.string label] => do
    let content ← contentOf object
    pure (.value (.string ("<" ++ label ++ ":" ++ toString content.count ++ ">")))
  | _, _ => misfit

/-- Adds two numbers to a third, and one to a fourth. -/
def mix : Method Content
  | _, [.i32 a, .i32 b, .i32 c, .i32 d] =>
    pure ⟨.unit, [(1, .i32 (b + (a + d))), (2, .i32 (c + 1))]⟩
  | _, _ => misfit

/-- Divides with a remainder, toward zero. -/
def divide : Method Content
  | _, [.i32 a, .i32 b, .i32 _] =>
    if b = 0 then throw (.foreign divisionByZero)
    else pure ⟨.i32 (a / b), [(2, .i32 (a % b))]⟩
  | _, _ => misfit

/-- Exchanges two texts. -/
def swap : Method Content
  | _, [.string left, .string right] => pure ⟨.unit, [(0, .string right), (1, .string left)]⟩
  | _, _ => misfit

/-- Fills two outputs and tells whether they were as initialized. -/
def seed : Method Content
  | _, [.u64 number, .string text] =>
    pure ⟨.bool (number = 0 && text.isEmpty), [(0, .u64 42), (1, .string (text ++ "seeded"))]⟩
  | _, _ => misfit

/-- Takes an amount from a balance, which must not become negative. -/
def settle : Method Content
  | _, [.i64 amount, .i64 balance] =>
    let rest := balance - amount
    if rest < 0 then throw (.foreign (insufficientFunds (toString (-rest))))
    else pure ⟨.i64 amount, [(1, .i64 rest)]⟩
  | _, _ => misfit

/-- Counts bytes and adds them up. -/
def sum : Method Content
  | _, [.bytes items, .u64 _] =>
    pure ⟨.usize (.ofNat items.length),
      [(1, .u64 (items.foldl (fun total item => total + item.toUInt64) 0))]⟩
  | _, _ => misfit

/-- Fails in a chosen way. -/
def fail : Method Content
  | _, [.u32 which] =>
    if which = 0 then pure .done
    else if which = 1 then throw (.own (.internal "boom"))
    else if which = 2 then throw (.own .noOperationContext)
    else throw (.own (.operation (insufficientFunds (toString which))))
  | _, _ => misfit

/-- The operations in declared order. -/
def operations : List (OperationDeclaration × Method Content) :=
  [(⟨"touch", [], false, false, false⟩, touch),
   (⟨"double", [("value", .i32, .input)], false, true, false⟩, double),
   (⟨"reset", [], true, false, false⟩, reset),
   (⟨"describe", [("label", .string, .input)], true, true, false⟩, describe),
   (⟨"mix",
      [("a", .i32, .input), ("b", .i32, .output), ("c", .i32, .inout), ("d", .i32, .input)],
      false, false, false⟩, mix),
   (⟨"divide", [("a", .i32, .input), ("b", .i32, .input), ("remainder", .i32, .output)],
      false, true, true⟩, divide),
   (⟨"clear", [], false, false, true⟩, reset),
   (⟨"swap", [("left", .string, .inout), ("right", .string, .inout)], false, false, false⟩, swap),
   (⟨"seed", [("number", .u64, .output), ("text", .string, .output)], false, true, false⟩, seed),
   (⟨"settle", [("amount", .i64, .input), ("balance", .i64, .inout)], true, true, true⟩, settle),
   (⟨"sum", [("items", .bytes, .input), ("total", .u64, .output)], false, true, false⟩, sum),
   (⟨"fail", [("which", .u32, .input)], false, false, true⟩, fail)]

/-- The contract. -/
def contract : ServedContract Content :=
  .ofOperations "shapes::Shapes" "dyn driver::fixtures::Shapes" operations

end ServiceDispatch.Sample.Shapes
