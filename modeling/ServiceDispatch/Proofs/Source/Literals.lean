import Mathlib.Algebra.Group.Nat.Defs
import ServiceDispatch.Source.Literal
import ServiceDispatch.Text.Quoted

/-!
# Literals that are written and read

The literal of a text denotes that text, whatever characters it has: those that are escaped are read
back from their escapes, the others as they are. Other kinds of literals are not covered.
-/

namespace ServiceDispatch

open Text (hexDigit? isCodePoint escapeChar escapeCode escapeLiteral)

theorem Text.hexDigit?_digitChar {digit : Nat} (small : digit < 16) :
    hexDigit? digit.digitChar = some digit := by
  have all : ∀ digit : Fin 16, hexDigit? digit.val.digitChar = some digit.val := by decide
  exact all ⟨digit, small⟩

namespace Source

theorem codePoint?_digitChar {digit digits : Nat} (small : digit < 16) (room : digits < 6)
    (value : Nat) (rest : List Char) :
    codePoint? value digits (digit.digitChar :: rest) =
      codePoint? (value * 16 + digit) (digits + 1) rest := by
  have noBrace : ∀ digit : Fin 16, digit.val.digitChar ≠ '\x7d' := by decide
  have noScore : ∀ digit : Fin 16, digit.val.digitChar ≠ '_' := by decide
  rw [codePoint?.eq_3]
  · rw [Text.hexDigit?_digitChar small]
    simp [room]
  · exact noBrace ⟨digit, small⟩
  · exact noScore ⟨digit, small⟩

/-- The digits of a number are read as that number. -/
theorem codePoint?_toDigits (n value digits : Nat) (rest : List Char)
    (room : digits + (Nat.toDigits 16 n).length ≤ 6) :
    codePoint? value digits (Nat.toDigits 16 n ++ rest) =
      codePoint? (value * 16 ^ (Nat.toDigits 16 n).length + n)
        (digits + (Nat.toDigits 16 n).length) rest := by
  induction n using Nat.strongRecOn generalizing rest with
  | ind n ih =>
    by_cases small : n < 16
    · rw [Nat.toDigits_of_lt_base small] at room ⊢
      exact codePoint?_digitChar small room value rest
    · have split := Nat.toDigits_of_base_le (b := 16) (n := n) (by omega) (by omega)
      have fewer : digits + (Nat.toDigits 16 (n / 16)).length < 6 := by
        rw [split, List.length_append, List.length_singleton] at room
        omega
      rw [split, List.append_assoc, ih (n / 16) (by omega) _ (by omega), List.singleton_append,
        codePoint?_digitChar (Nat.mod_lt n (by omega)) fewer, List.length_append,
        List.length_singleton]
      congr 1
      rw [Nat.pow_succ]
      have whole := Nat.div_add_mod n 16
      rw [Nat.add_mul, Nat.mul_assoc]
      omega

/-- In a string an image is read as a character, whatever follows. -/
def Denotes (image : List Char) (c : Char) : Prop :=
  ∀ fuel rest, cooked? .text (fuel + 1) (image ++ rest) =
    (cooked? .text fuel rest).map fun found => (c.toNat :: found.1, found.2)

theorem denotes_of_escape {c mark : Char} {tail : List Char}
    (noLine : mark ≠ '\n') (noReturn : mark ≠ '\r')
    (reads : ∀ rest, escape? .text (mark :: (tail ++ rest)) = some (c.toNat, rest)) :
    Denotes ('\\' :: mark :: tail) c := by
  intro fuel rest
  rw [List.cons_append, List.cons_append, cooked?.eq_7]
  · rw [reads]
  · exact fun _ same => noLine (List.cons.inj same).1
  · exact fun _ same => noReturn (List.cons.inj same).1

theorem denotes_self {c : Char} (noQuote : c ≠ '"') (noEscape : c ≠ '\\') (noReturn : c ≠ '\r') :
    Denotes [c] c := by
  intro fuel rest
  rw [List.singleton_append, cooked?.eq_8]
  · simp [noReturn, LiteralKind.admits]
  · exact noQuote
  · exact fun _ here => absurd here noReturn
  · exact fun _ here => absurd here noEscape
  · exact fun _ here => absurd here noEscape
  · exact noEscape

/-- A character that is escaped by its code point is read back. -/
theorem denotes_escapeCode (c : Char) : Denotes (escapeCode c) c := by
  have point : isCodePoint c.toNat = true := by
    have valid : c.toNat < 0xD800 ∨ 0xDFFF < c.toNat ∧ c.toNat < 0x110000 := c.valid
    simp only [isCodePoint, Bool.or_eq_true, Bool.and_eq_true, decide_eq_true_eq]
    omega
  have length : (Nat.toDigits 16 c.toNat).length ≤ 6 := by
    refine (Nat.length_toDigits_le_iff (by omega) (by omega)).mpr ?_
    simp only [isCodePoint, Bool.or_eq_true, Bool.and_eq_true, decide_eq_true_eq] at point
    omega
  have written : escapeCode c =
      '\\' :: 'u' :: '\x7b' :: (Nat.toDigits 16 c.toNat ++ ['\x7d']) := rfl
  rw [written]
  refine denotes_of_escape (by decide) (by decide) fun rest => ?_
  rw [List.cons_append, List.append_assoc]
  change codePoint? 0 0 _ = _
  rw [codePoint?_toDigits _ _ _ _ (by omega), Nat.zero_mul, Nat.zero_add, Nat.zero_add,
    List.singleton_append, codePoint?]
  simp [point, Nat.length_toDigits_pos]

/-- Every character but the null character is read back from how it is written in a string. -/
theorem denotes_escapeChar {c : Char} (noNull : c ≠ '\x00') : Denotes (escapeChar c) c := by
  have simple : ∀ {mark : Char}, mark ≠ '\n' → mark ≠ '\r' →
      (∀ rest, escape? .text (mark :: rest) = some (c.toNat, rest)) →
      Denotes ['\\', mark] c := fun noLine noReturn reads =>
    denotes_of_escape noLine noReturn fun rest => by rw [List.nil_append, reads]
  rw [escapeChar, if_neg noNull]
  split
  · rename_i tab
    subst tab
    exact simple (by decide) (by decide) fun _ => rfl
  split
  · rename_i noTab isReturn
    subst isReturn
    exact simple (by decide) (by decide) fun _ => rfl
  split
  · rename_i noTab noReturn isLine
    subst isLine
    exact simple (by decide) (by decide) fun _ => rfl
  split
  · rename_i noTab noReturn noLine special
    simp only [Bool.or_eq_true, decide_eq_true_eq] at special
    obtain rfl | rfl := special
    · exact simple (by decide) (by decide) fun _ => rfl
    · exact simple (by decide) (by decide) fun _ => rfl
  split
  · exact denotes_escapeCode c
  split
  · rename_i noTab noReturn noLine plain _ _
    simp only [Bool.or_eq_true, decide_eq_true_eq, not_or] at plain
    exact denotes_self plain.2 plain.1 noReturn
  · exact denotes_escapeCode c

theorem escapeChar_ne_nil (c : Char) : escapeChar c ≠ [] := by
  have coded : escapeCode c ≠ [] := List.cons_ne_nil _ _
  rw [escapeChar]
  repeat' split
  all_goals first | exact coded | exact List.cons_ne_nil _ _

/-- The literal of a text is that of its first character and that of the others. -/
theorem escapeLiteral_cons (c : Char) (text : List Char) :
    ∃ image, escapeLiteral (c :: text) = image ++ escapeLiteral text ∧ image ≠ [] ∧
      Denotes image c := by
  by_cases null : c = '\x00'
  · subst null
    have short : Denotes ['\\', '0'] '\x00' :=
      denotes_of_escape (by decide) (by decide) fun _ => rfl
    have long : Denotes ['\\', 'x', '0', '0'] '\x00' :=
      denotes_of_escape (by decide) (by decide) fun _ => rfl
    cases text with
    | nil => exact ⟨_, rfl, List.cons_ne_nil _ _, short⟩
    | cons next rest =>
      by_cases octal : ('0' ≤ next && next ≤ '7') = true
      · refine ⟨['\\', 'x', '0', '0'], ?_, List.cons_ne_nil _ _, long⟩
        rw [Text.escapeLiteral.eq_def]
        simp [octal]
      · refine ⟨['\\', '0'], ?_, List.cons_ne_nil _ _, short⟩
        rw [Text.escapeLiteral.eq_def]
        simp [octal]
  · refine ⟨escapeChar c, ?_, escapeChar_ne_nil c, denotes_escapeChar null⟩
    rw [Text.escapeLiteral.eq_def]
    simp [null]

/-- The characters of a text are read back from its literal. -/
theorem cooked?_escapeLiteral (text rest : List Char) {fuel : Nat}
    (enough : (escapeLiteral text).length < fuel) :
    cooked? .text fuel (escapeLiteral text ++ '"' :: rest) =
      some (text.map Char.toNat, rest) := by
  induction text generalizing fuel with
  | nil =>
    obtain ⟨fuel, rfl⟩ := Nat.exists_eq_succ_of_ne_zero (Nat.ne_of_gt enough)
    rfl
  | cons c text ih =>
    obtain ⟨image, written, visible, denotes⟩ := escapeLiteral_cons c text
    have shorter : 0 < image.length := List.length_pos_iff.mpr visible
    rw [written, List.length_append] at enough
    obtain ⟨fuel, rfl⟩ := Nat.exists_eq_succ_of_ne_zero (n := fuel) (by omega)
    rw [written, List.append_assoc, denotes, ih (by omega)]
    rfl

/-- The literal of a text denotes the text. -/
theorem stringValue?_literal (text : String) : stringValue? (Text.literal text) = some text := by
  have whole : (Text.literal text).toList = '"' :: (escapeLiteral text.toList ++ ['"']) := by
    simp [Text.literal]
  have enough : (escapeLiteral text.toList).length <
      (escapeLiteral text.toList ++ ['"']).length + 1 := by
    rw [List.length_append]
    omega
  rw [stringValue?, whole]
  change (cooked? .text _ (escapeLiteral text.toList ++ ['"'])).map _ = some text
  rw [cooked?_escapeLiteral text.toList [] enough]
  simp [Function.comp_def]

end Source

end ServiceDispatch
