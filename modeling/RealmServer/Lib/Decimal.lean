import Mathlib.Data.List.Basic

/-!
# Decimal numbers in texts

Integers as they are printed, and the number at the beginning of a text: blanks,
a sign and digits up to the first other character.  A number which has been
printed is found again, whatever follows it but a digit.
-/

namespace RealmServer.Decimal

def decimal (value : Int) : List Char :=
  if value < 0 then '-' :: Nat.toDigits 10 value.natAbs else Nat.toDigits 10 value.natAbs

def isSpace (character : Char) : Bool :=
  character = ' ' || 9 ≤ character.toNat && character.toNat ≤ 13

def leadingNat (text : List Char) : Nat := Nat.ofDigitChars 10 (text.takeWhile Char.isDigit) 0

def leadingInt (text : List Char) : Int :=
  match text.dropWhile isSpace with
  | '-' :: rest => -(leadingNat rest : Int)
  | '+' :: rest => leadingNat rest
  | rest => leadingNat rest

theorem isDigit_of_mem {value : Nat} {character : Char}
    (member : character ∈ Nat.toDigits 10 value) : character.isDigit = true :=
  Nat.isDigit_of_mem_toDigits (by decide) (by decide) member

theorem mem_decimal {value : Int} {character : Char} (member : character ∈ decimal value) :
    character = '-' ∨ character.isDigit = true := by
  rw [decimal] at member
  split at member
  · exact (List.mem_cons.1 member).imp_right isDigit_of_mem
  · exact .inr (isDigit_of_mem member)

/-- The text does not go on with a digit. -/
def NoDigit (text : List Char) : Prop := ∀ character ∈ text.head?, character.isDigit = false

theorem leadingNat_append (value : Nat) {rest : List Char} (stops : NoDigit rest) :
    leadingNat (Nat.toDigits 10 value ++ rest) = value := by
  have none : rest.takeWhile Char.isDigit = [] := by
    cases rest with
    | nil => rfl
    | cons character rest =>
        have noDigit : character.isDigit = false := stops character rfl
        exact List.takeWhile_cons_of_neg (by rw [noDigit]; exact Bool.false_ne_true)
  rw [leadingNat, List.takeWhile_append_of_pos fun character => isDigit_of_mem, none,
    List.append_nil, Nat.ofDigitChars_ten_toDigits]

theorem not_space_of_isDigit {character : Char} (digit : character.isDigit = true) :
    isSpace character = false ∧ character ≠ '-' ∧ character ≠ '+' := by
  refine ⟨?_, ?_, ?_⟩
  · rw [Char.isDigit, Bool.and_eq_true, decide_eq_true_eq] at digit
    have large : 48 ≤ character.toNat := digit.1
    have notBlank : character ≠ ' ' := by
      intro blank
      rw [blank] at large
      exact absurd large (by decide)
    simp only [isSpace, notBlank, decide_false, Bool.false_or, Bool.and_eq_false_imp,
      decide_eq_true_eq, decide_eq_false_iff_not]
    omega
  · rintro rfl
    exact Bool.false_ne_true digit
  · rintro rfl
    exact Bool.false_ne_true digit

/-- What has been printed is read. -/
theorem leadingInt_append (value : Int) {rest : List Char} (stops : NoDigit rest) :
    leadingInt (decimal value ++ rest) = value := by
  rw [decimal]
  split
  · rename_i negative
    have blanks : ('-' :: Nat.toDigits 10 value.natAbs ++ rest).dropWhile isSpace =
        '-' :: (Nat.toDigits 10 value.natAbs ++ rest) := rfl
    rw [leadingInt, blanks]
    simp only
    rw [leadingNat_append _ stops]
    omega
  · rename_i positive
    have found := leadingNat_append value.natAbs stops
    cases printed : Nat.toDigits 10 value.natAbs with
    | nil => exact absurd printed Nat.toDigits_ne_nil
    | cons first digits =>
        obtain ⟨noBlank, noMinus, noPlus⟩ :=
          not_space_of_isDigit (isDigit_of_mem (printed ▸ List.mem_cons_self))
        have blanks : (first :: digits ++ rest).dropWhile isSpace = first :: (digits ++ rest) :=
          List.dropWhile_cons_of_neg (by rw [noBlank]; exact Bool.false_ne_true)
        rw [printed] at found
        rw [leadingInt, blanks]
        split
        · rename_i same
          exact absurd (List.cons.inj same).1 noMinus
        · rename_i same
          exact absurd (List.cons.inj same).1 noPlus
        · rw [← List.cons_append, found]
          omega

end RealmServer.Decimal
