import Mathlib

/-!
# Codes which tell where a value ends

Values are written one behind the other without marks between them.  A way to
write them is a prefix code if nothing can be read as two different values, or
as one value with two different ends.  Fixed width gives such codes, and the
ways in which files are put together keep the property: one value behind
another, whose shape may depend on the first, and a list whose length is known.
-/

namespace RealmServer

universe u v w

variable {Symbol : Type u} {Value : Type v} {Other : Type w}

/-- The values in question are read in one way only. -/
structure PrefixCode (valid : Value → Prop) (encode : Value → List Symbol) : Prop where
  unique : ∀ {first second : Value} {rest other : List Symbol},
    valid first → valid second → encode first ++ rest = encode second ++ other →
      first = second ∧ rest = other

namespace PrefixCode

variable {valid : Value → Prop} {encode : Value → List Symbol}

/-- Values are told apart by words which are all of one length. -/
theorem of_width (width : Nat)
    (length : ∀ value, valid value → (encode value).length = width)
    (injective : ∀ first second, valid first → valid second →
      encode first = encode second → first = second) :
    PrefixCode valid encode := by
  constructor
  intro first second rest other validFirst validSecond same
  have lengths : (encode first).length = (encode second).length := by
    rw [length first validFirst, length second validSecond]
  obtain ⟨words, rests⟩ := List.append_inj same lengths
  exact ⟨injective first second validFirst validSecond words, rests⟩

theorem mono {fewer : Value → Prop} (code : PrefixCode valid encode)
    (implies : ∀ value, fewer value → valid value) : PrefixCode fewer encode := by
  constructor
  intro first second rest other validFirst validSecond same
  exact code.unique (implies first validFirst) (implies second validSecond) same

/-- What decides the value may be written instead of it. -/
theorem comap (code : PrefixCode valid encode) (shown : Other → Value)
    (injective : Function.Injective shown) :
    PrefixCode (fun value => valid (shown value)) fun value => encode (shown value) := by
  constructor
  intro first second rest other validFirst validSecond same
  obtain ⟨shownSame, rests⟩ := code.unique validFirst validSecond same
  exact ⟨injective shownSame, rests⟩

/-- A second value follows, in a code which the first one chooses. -/
theorem andThen {validNext : Value → Other → Prop} {encodeNext : Value → Other → List Symbol}
    (code : PrefixCode valid encode)
    (next : ∀ value, valid value → PrefixCode (validNext value) (encodeNext value)) :
    PrefixCode (fun pair : Value × Other => valid pair.1 ∧ validNext pair.1 pair.2)
      fun pair => encode pair.1 ++ encodeNext pair.1 pair.2 := by
  constructor
  rintro ⟨first, firstNext⟩ ⟨second, secondNext⟩ rest other ⟨validFirst, validFirstNext⟩
    ⟨validSecond, validSecondNext⟩ same
  simp only [List.append_assoc] at same
  obtain ⟨rfl, behind⟩ := code.unique validFirst validSecond same
  obtain ⟨rfl, rests⟩ := (next first validFirst).unique validFirstNext validSecondNext behind
  exact ⟨rfl, rests⟩

/-- As many values as one has agreed upon are written one after the other. -/
theorem repeated (code : PrefixCode valid encode) (count : Nat) :
    PrefixCode (fun values : List Value => values.length = count ∧ ∀ value ∈ values, valid value)
      fun values => values.flatMap encode := by
  induction count with
  | zero =>
      constructor
      rintro first second rest other ⟨noFirst, -⟩ ⟨noSecond, -⟩ same
      obtain rfl := List.length_eq_zero_iff.mp noFirst
      obtain rfl := List.length_eq_zero_iff.mp noSecond
      exact ⟨rfl, same⟩
  | succ count induction =>
      constructor
      rintro (_ | ⟨head, tail⟩) (_ | ⟨head', tail'⟩) rest other ⟨length, valids⟩
        ⟨length', valids'⟩ same
      · cases length
      · cases length
      · cases length'
      · simp only [List.flatMap_cons, List.append_assoc] at same
        rw [List.forall_mem_cons] at valids valids'
        obtain ⟨rfl, behind⟩ := code.unique valids.1 valids'.1 same
        obtain ⟨rfl, rests⟩ := induction.unique ⟨Nat.succ.inj length, valids.2⟩
          ⟨Nat.succ.inj length', valids'.2⟩ behind
        exact ⟨rfl, rests⟩

/-- A word with something behind it does not begin another word. -/
theorem eq_of_begins (code : PrefixCode valid encode) {first second : Value}
    (validFirst : valid first) (validSecond : valid second)
    (begins : encode first <+: encode second) : first = second := by
  obtain ⟨rest, same⟩ := begins
  exact (code.unique validFirst validSecond (by rw [same, List.append_nil])).1

end PrefixCode

end RealmServer
