import Mathlib
import RealmServer.Lib.Decimal

/-!
# Money in texts

An amount of copper is printed in gold, silver and copper and read from such a
text.  The printer narrows the whole amount to eight bits before it takes the
gold and the silver off; the reader adds up in 32 bits without a sign.

Numbers of the source are integers here.  Where one gets another type it is
brought into the range of that type, and an operation on `int` is only defined
if its result is an `int`.
-/

namespace RealmServer.Utilities

open Decimal

/-! ## Numbers of the source -/

def int8 (value : Int) : Int := (value + 2 ^ 7) % 2 ^ 8 - 2 ^ 7

def int32 (value : Int) : Int := (value + 2 ^ 31) % 2 ^ 32 - 2 ^ 31

def uint32 (value : Int) : Int := value % 2 ^ 32

/-- The result of an operation on `int`. -/
def int (value : Int) : Option Int :=
  if -2 ^ 31 ≤ value ∧ value < 2 ^ 31 then some value else none

/-- `strtol` stays in the range of `long`, `atoi` narrows what it returns. -/
def atoi (text : List Char) : Int := int32 (max (-2 ^ 63) (min (2 ^ 63 - 1) (leadingInt text)))

/-! ## Tokens -/

/-- The loop of `Tokenizer`, with the characters between `posold` and `posnew`. -/
def scanTokens (sep : Char) (keepEmptyStrings : Bool) : List Char → List Char → List (List Char)
  | token, [] => lastToken token
  | token, next :: rest =>
      if next = sep then
        if keepEmptyStrings = true ∨ token ≠ [] then
          token :: scanTokens sep keepEmptyStrings [] rest
        else scanTokens sep keepEmptyStrings [] rest
      else if next = '\x00' then lastToken token
      else scanTokens sep keepEmptyStrings (token ++ [next]) rest
where
  /-- An empty token is never the last one. -/
  lastToken (token : List Char) : List (List Char) := if token ≠ [] then [token] else []

def tokenizer (src : List Char) (sep : Char) : List (List Char) := scanTokens sep true [] src

theorem scanTokens_word {sep : Char} {word : List Char}
    (plain : ∀ character ∈ word, character ≠ sep ∧ character ≠ '\x00') (keepEmptyStrings : Bool)
    (token rest : List Char) :
    scanTokens sep keepEmptyStrings token (word ++ rest) =
      scanTokens sep keepEmptyStrings (token ++ word) rest := by
  induction word generalizing token with
  | nil => rw [List.nil_append, List.append_nil]
  | cons first word induction =>
      obtain ⟨noSep, noEnd⟩ := plain first List.mem_cons_self
      rw [List.cons_append, scanTokens, if_neg noSep, if_neg noEnd,
        induction fun character member => plain character (List.mem_cons_of_mem _ member),
        List.append_assoc, List.singleton_append]

/-- Words with a separator after each but the last. -/
def joined (sep : Char) : List (List Char) → List Char
  | [] => []
  | [word] => word
  | word :: words => word ++ sep :: joined sep words

theorem joined_cons_cons (sep : Char) (word second : List Char) (words : List (List Char)) :
    joined sep (word :: second :: words) = word ++ sep :: joined sep (second :: words) := rfl

/-- A token is a word of other characters than the separator. -/
def IsWord (sep : Char) (word : List Char) : Prop :=
  word ≠ [] ∧ ∀ character ∈ word, character ≠ sep ∧ character ≠ '\x00'

theorem tokenizer_joined {sep : Char} {words : List (List Char)}
    (plain : ∀ word ∈ words, IsWord sep word) : tokenizer (joined sep words) sep = words := by
  rw [tokenizer]
  induction words with
  | nil => rfl
  | cons word words induction =>
      obtain ⟨nonempty, characters⟩ := plain word List.mem_cons_self
      have later := induction fun other member => plain other (List.mem_cons_of_mem _ member)
      cases words with
      | nil =>
          have whole := scanTokens_word characters true [] []
          rw [List.append_nil, List.nil_append] at whole
          rw [joined, whole, scanTokens, scanTokens.lastToken, if_pos nonempty]
      | cons second words =>
          rw [joined_cons_cons, scanTokens_word characters, List.nil_append, scanTokens, if_pos rfl,
            if_pos (.inl rfl), later]

/-! ## Reading -/

/-- The loop over the tokens. -/
def addTokens : List (List Char) → Int → Int
  | [], money => money
  | token :: tokens, money =>
      if token.count 'g' + token.count 's' + token.count 'c' ≠ 1 then 0
      else if token.count 'g' = 1 then
        addTokens tokens
          (int32 (uint32 money + uint32 (uint32 (uint32 (atoi token) * 100) * 100)))
      else if token.count 's' = 1 then
        addTokens tokens (int32 (uint32 money + uint32 (uint32 (atoi token) * 100)))
      else if token.count 'c' = 1 then
        addTokens tokens (int32 (uint32 money + uint32 (atoi token)))
      else addTokens tokens money

def moneyStringToMoney (moneyString : List Char) : Int :=
  if ¬(moneyString.count 'g' = 1 ∨ moneyString.count 's' = 1 ∨ moneyString.count 'c' = 1) then 0
  else addTokens (tokenizer moneyString ' ') 0

/-! ## Printing -/

/-- `(int8)money - sum`, which is an `int`, as an `int8`. -/
def copperOf (money sum : Int) : Option Int := (int (int8 money - sum)).map int8

/-- The amount is at least 100 where it is divided. -/
def moneyToMoneyString (money : Int) : Option (List Char) :=
  if money < 100 then some (decimal money ++ ['c'])
  else if money < 10000 then do
    let silver ← int (int8 (money.tdiv 100) * 100)
    let k ← copperOf money silver
    return decimal (int8 (money.tdiv 100)) ++ ['s', ' '] ++ decimal k ++ ['c']
  else do
    let gold ← int (int32 (money.tdiv 10000) * 10000)
    let rest ← int (money - gold)
    let silver ← int (int8 (rest.tdiv 100) * 100)
    let sum ← int (gold + silver)
    let k ← copperOf money sum
    return decimal (int32 (money.tdiv 10000)) ++ ['g', ' '] ++ decimal (int8 (rest.tdiv 100)) ++
      ['s', ' '] ++ decimal k ++ ['c']

example : moneyToMoneyString 2147483647 = some "214748g 36s 47c".toList := by decide +kernel

example : moneyStringToMoney "-2147483648c".toList = -2147483648 := by decide +kernel

/-! ## Coins -/

/-- What is printed. -/
structure Coins where
  gold : Option Int
  silver : Option Int
  copper : Int

/-- A number with its unit. -/
def part (value : Int) (unit : Char) : List Char := decimal value ++ [unit]

namespace Coins

def parts (coins : Coins) : List (List Char) :=
  coins.gold.toList.map (part · 'g') ++ coins.silver.toList.map (part · 's') ++
    [part coins.copper 'c']

def text (coins : Coins) : List Char := joined ' ' coins.parts

/-- What the coins are worth. -/
def value (coins : Coins) : Int :=
  coins.gold.getD 0 * 10000 + coins.silver.getD 0 * 100 + coins.copper

/-- All numbers are of type `int`. -/
structure Small (coins : Coins) : Prop where
  gold : ∀ value ∈ coins.gold, int value = some value
  silver : ∀ value ∈ coins.silver, int value = some value
  copper : int coins.copper = some coins.copper

end Coins

theorem int_of_bounds {value : Int} (above : -2 ^ 31 ≤ value) (below : value < 2 ^ 31) :
    int value = some value := if_pos ⟨above, below⟩

theorem bounds_of_int {value : Int} (small : int value = some value) :
    -2 ^ 31 ≤ value ∧ value < 2 ^ 31 := by
  by_contra outside
  rw [int, if_neg outside] at small
  cases small

/-! ### What a reader finds in a part -/

theorem not_mem_decimal {character : Char} (noDigit : character.isDigit = false)
    (noMinus : character ≠ '-') (value : Int) : character ∉ decimal value := by
  intro member
  rcases mem_decimal member with minus | digit
  · exact noMinus minus
  · rw [noDigit] at digit
    exact Bool.false_ne_true digit

theorem count_part (value : Int) {character : Char} (noDigit : character.isDigit = false)
    (noMinus : character ≠ '-') (unit : Char) :
    (part value unit).count character = if unit = character then 1 else 0 := by
  rw [part, List.count_append, List.count_eq_zero.2 (not_mem_decimal noDigit noMinus value),
    List.count_singleton, Nat.zero_add]
  simp only [beq_iff_eq]

theorem part_isWord (value : Int) {unit : Char} (noBlank : unit ≠ ' ') (noEnd : unit ≠ '\x00') :
    IsWord ' ' (part value unit) := by
  refine ⟨by simp [part], fun character member => ?_⟩
  rcases List.mem_append.1 member with printed | last
  · constructor
    · rintro rfl
      exact not_mem_decimal rfl (by decide) value printed
    · rintro rfl
      exact not_mem_decimal rfl (by decide) value printed
  · rw [List.mem_singleton] at last
    rw [last]
    exact ⟨noBlank, noEnd⟩

theorem atoi_part {value : Int} (small : int value = some value) {unit : Char}
    (noDigit : unit.isDigit = false) : atoi (part value unit) = value := by
  have stops : NoDigit [unit] := by
    intro character member
    rw [← Option.some.inj member, noDigit]
  obtain ⟨above, below⟩ := bounds_of_int small
  rw [atoi, part, leadingInt_append value stops, int32]
  omega

/-! ### Adding up -/

section Adding

variable {value : Int} (small : int value = some value) (tokens : List (List Char)) (money : Int)
include small

theorem addTokens_gold :
    addTokens (part value 'g' :: tokens) money =
      addTokens tokens (int32 (money + value * 10000)) := by
  obtain ⟨above, below⟩ := bounds_of_int small
  have same : int32 (uint32 money + uint32 (uint32 (uint32 value * 100) * 100)) =
      int32 (money + value * 10000) := by
    unfold int32 uint32
    omega
  rw [addTokens, count_part value rfl (by decide), count_part value rfl (by decide),
    count_part value rfl (by decide), atoi_part small rfl, same]
  rfl

theorem addTokens_silver :
    addTokens (part value 's' :: tokens) money =
      addTokens tokens (int32 (money + value * 100)) := by
  have same : int32 (uint32 money + uint32 (uint32 value * 100)) =
      int32 (money + value * 100) := by
    unfold int32 uint32
    omega
  rw [addTokens, count_part value rfl (by decide), count_part value rfl (by decide),
    count_part value rfl (by decide), atoi_part small rfl, same]
  rfl

theorem addTokens_copper :
    addTokens (part value 'c' :: tokens) money = addTokens tokens (int32 (money + value)) := by
  have same : int32 (uint32 money + uint32 value) = int32 (money + value) := by
    unfold int32 uint32
    omega
  rw [addTokens, count_part value rfl (by decide), count_part value rfl (by decide),
    count_part value rfl (by decide), atoi_part small rfl, same]
  rfl

end Adding

theorem count_joined {sep character : Char} (other : sep ≠ character)
    (words : List (List Char)) :
    (joined sep words).count character = (words.map fun word => word.count character).sum := by
  induction words with
  | nil => rfl
  | cons word words induction =>
      cases words with
      | nil => rw [joined, List.map_singleton, List.sum_singleton]
      | cons second words =>
          rw [joined_cons_cons, List.count_append, List.count_cons_of_ne other, induction]
          rfl

namespace Coins

theorem parts_plain (coins : Coins) : ∀ word ∈ coins.parts, IsWord ' ' word := by
  intro word member
  rw [parts, List.mem_append, List.mem_append, List.mem_map, List.mem_map,
    List.mem_singleton] at member
  rcases member with (⟨value, _, rfl⟩ | ⟨value, _, rfl⟩) | rfl
  · exact part_isWord value (by decide) (by decide)
  · exact part_isWord value (by decide) (by decide)
  · exact part_isWord coins.copper (by decide) (by decide)

theorem count_copper (coins : Coins) : coins.text.count 'c' = 1 := by
  have none (unit : Char) (other : unit ≠ 'c') (values : List Int) :
      ((values.map (part · unit)).map fun word => word.count 'c').sum = 0 := by
    induction values with
    | nil => rfl
    | cons value values induction =>
        rw [List.map_cons, List.map_cons, List.sum_cons, induction,
          count_part value rfl (by decide), if_neg other]
  rw [text, count_joined (by decide), parts, List.map_append, List.map_append, List.sum_append,
    List.sum_append, none 'g' (by decide), none 's' (by decide), List.map_singleton,
    List.sum_singleton, count_part coins.copper rfl (by decide), if_pos rfl]

theorem addTokens_parts {coins : Coins} (small : coins.Small) :
    addTokens coins.parts 0 = int32 coins.value := by
  obtain ⟨gold, silver, copper⟩ := coins
  have golden : ∀ value ∈ gold, int value = some value := small.gold
  have silvern : ∀ value ∈ silver, int value = some value := small.silver
  have coppern : int copper = some copper := small.copper
  have around (first second : Int) : int32 (int32 first + second) = int32 (first + second) := by
    unfold int32
    omega
  cases gold with
  | none =>
      cases silver with
      | none =>
          show addTokens [part copper 'c'] 0 = int32 (0 * 10000 + 0 * 100 + copper)
          rw [addTokens_copper coppern, addTokens, Int.zero_mul, Int.zero_mul]
          rfl
      | some silver =>
          show addTokens [part silver 's', part copper 'c'] 0 =
            int32 (0 * 10000 + silver * 100 + copper)
          rw [addTokens_silver (silvern silver rfl), addTokens_copper coppern, addTokens, around,
            Int.zero_mul]
  | some gold =>
      cases silver with
      | none =>
          show addTokens [part gold 'g', part copper 'c'] 0 =
            int32 (gold * 10000 + 0 * 100 + copper)
          rw [addTokens_gold (golden gold rfl), addTokens_copper coppern, addTokens, around,
            Int.zero_mul, Int.zero_add, Int.add_zero]
      | some silver =>
          show addTokens [part gold 'g', part silver 's', part copper 'c'] 0 =
            int32 (gold * 10000 + silver * 100 + copper)
          rw [addTokens_gold (golden gold rfl), addTokens_silver (silvern silver rfl),
            addTokens_copper coppern, addTokens, Int.zero_add, around, Int.add_assoc, around,
            ← Int.add_assoc]

theorem moneyStringToMoney_text {coins : Coins} (small : coins.Small) :
    moneyStringToMoney coins.text = int32 coins.value := by
  have format : coins.text.count 'g' = 1 ∨ coins.text.count 's' = 1 ∨ coins.text.count 'c' = 1 :=
    .inr (.inr coins.count_copper)
  rw [moneyStringToMoney, if_neg (not_not_intro format), text, tokenizer_joined coins.parts_plain,
    addTokens_parts small]

end Coins

/-! ### What is printed -/

/-- The coins of an amount; from 100 copper on with silver, from 10000 on with gold. -/
def coinsOf (money : Int) : Coins :=
  if money < 100 then ⟨none, none, money⟩
  else if money < 10000 then ⟨none, some (money / 100), money % 100⟩
  else ⟨some (money / 10000), some (money / 100 % 100), money % 100⟩

theorem coinsOf_value (money : Int) : (coinsOf money).value = money := by
  rw [coinsOf]
  split_ifs <;> simp only [Coins.value, Option.getD_none, Option.getD_some] <;> omega

theorem coinsOf_small {money : Int} (small : int money = some money) : (coinsOf money).Small := by
  obtain ⟨above, below⟩ := bounds_of_int small
  have within {value : Int} (low : 0 ≤ value) (high : value ≤ money) : int value = some value :=
    int_of_bounds (by omega) (by omega)
  rw [coinsOf]
  split_ifs with few more
  · exact ⟨fun _ member => by simp at member, fun _ member => by simp at member, small⟩
  · have copper : int (money % 100) = some (money % 100) := within (by omega) (by omega)
    refine ⟨fun _ member => by simp at member, fun silver member => ?_, copper⟩
    rw [← Option.some.inj member]
    exact within (by omega) (by omega)
  · have copper : int (money % 100) = some (money % 100) := within (by omega) (by omega)
    refine ⟨fun gold member => ?_, fun silver member => ?_, copper⟩
    · rw [← Option.some.inj member]
      exact within (by omega) (by omega)
    · rw [← Option.some.inj member]
      exact within (by omega) (by omega)

/-- Narrowing the whole amount to eight bits does no harm to the last two digits. -/
theorem copperOf_eq {money sum : Int} (positive : 0 ≤ money) (small : int money = some money)
    (hundreds : sum = money - money % 100) : copperOf money sum = some (money % 100) := by
  obtain ⟨above, below⟩ := bounds_of_int small
  -- the difference is an `int` for the largest amount by a hair: it is `-2 ^ 31` there
  have fits : int (int8 money - sum) = some (int8 money - sum) := by
    apply int_of_bounds
    · unfold int8
      omega
    · unfold int8
      omega
  have narrow : int8 (int8 money - sum) = money % 100 := by
    unfold int8
    omega
  rw [copperOf, fits, Option.map_some, narrow]

theorem moneyToMoneyString_eq {money : Int} (small : int money = some money) :
    moneyToMoneyString money = some (coinsOf money).text := by
  obtain ⟨above, below⟩ := bounds_of_int small
  rw [moneyToMoneyString, coinsOf]
  split_ifs with few more
  · rfl
  · have quotient : int8 (money.tdiv 100) = money / 100 := by
      rw [Int.tdiv_eq_ediv_of_nonneg (by omega)]
      unfold int8
      omega
    have product : int (money / 100 * 100) = some (money / 100 * 100) :=
      int_of_bounds (by omega) (by omega)
    rw [quotient, product]
    simp only [Option.bind_eq_bind, Option.bind_some]
    rw [copperOf_eq (by omega) small (by omega)]
    simp [Coins.text, Coins.parts, joined, part]
  · have golden : int32 (money.tdiv 10000) = money / 10000 := by
      rw [Int.tdiv_eq_ediv_of_nonneg (by omega)]
      unfold int32
      omega
    have goldProduct : int (money / 10000 * 10000) = some (money / 10000 * 10000) :=
      int_of_bounds (by omega) (by omega)
    have difference : int (money - money / 10000 * 10000) = some (money % 10000) := by
      rw [int_of_bounds (by omega) (by omega), Option.some_inj]
      omega
    have silvern : int8 ((money % 10000).tdiv 100) = money / 100 % 100 := by
      rw [Int.tdiv_eq_ediv_of_nonneg (by omega)]
      unfold int8
      omega
    have silverProduct : int (money / 100 % 100 * 100) = some (money / 100 % 100 * 100) :=
      int_of_bounds (by omega) (by omega)
    have sum : int (money / 10000 * 10000 + money / 100 % 100 * 100) =
        some (money - money % 100) := by
      rw [int_of_bounds (by omega) (by omega), Option.some_inj]
      omega
    rw [golden, goldProduct]
    simp only [Option.bind_eq_bind, Option.bind_some, difference]
    rw [silvern, silverProduct, Option.bind_some, sum, Option.bind_some,
      copperOf_eq (by omega) small rfl]
    simp [Coins.text, Coins.parts, joined, part]

/-- All amounts of an `int32`, the least and the largest ones too, survive printing and reading. -/
theorem money_round_trip (money : Int32) :
    ∃ coins : Coins, moneyToMoneyString money.toInt = some coins.text ∧
      moneyStringToMoney coins.text = money.toInt ∧ coins.value = money.toInt ∧
      (0 ≤ money.toInt → (∀ silver ∈ coins.silver, 0 ≤ silver ∧ silver ≤ 99) ∧
        0 ≤ coins.copper ∧ coins.copper ≤ 99) := by
  have small : int money.toInt = some money.toInt :=
    int_of_bounds money.le_toInt money.toInt_lt
  have value := coinsOf_value money.toInt
  refine ⟨coinsOf money.toInt, moneyToMoneyString_eq small, ?_, value, fun positive => ?_⟩
  · obtain ⟨above, below⟩ := bounds_of_int small
    rw [Coins.moneyStringToMoney_text (coinsOf_small small), value, int32]
    omega
  · have last : 0 ≤ money.toInt % 100 ∧ money.toInt % 100 ≤ 99 := by omega
    rw [coinsOf]
    split_ifs with few more
    · exact ⟨fun _ member => by simp at member, positive, Int.le_of_lt_add_one few⟩
    · refine ⟨fun silver member => ?_, last⟩
      rw [← Option.some.inj member]
      omega
    · refine ⟨fun silver member => ?_, last⟩
      rw [← Option.some.inj member]
      omega

end RealmServer.Utilities
