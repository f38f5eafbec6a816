import RealmServer.Network.MessageBuffer

/-!
# Big numbers of the auth server

`BigNumber` wraps an OpenSSL number; every number the auth server handles is
nonnegative, so its value is a `Nat`.  The byte conversions are little endian,
as `SetBinary` and `AsByteArray` make them by reversing OpenSSL's order.
-/

namespace RealmServer.Auth

open Network (Bytes)

/-- A SHA1 digest, `SHA_DIGEST_LENGTH` bytes. -/
abbrev Digest := Vector UInt8 20

namespace BigNumber

/-- `SetBinary`: the little-endian value of a byte string. -/
def setBinary : Bytes → Nat
  | [] => 0
  | byte :: rest => byte.toNat + 256 * setBinary rest

/-- `AsByteArray`: little-endian digits, padded with zeros to `minSize`. -/
def asByteArray (minSize value : Nat) : Bytes :=
  let digits := (Nat.digits 256 value).map UInt8.ofNat
  digits ++ List.replicate (minSize - digits.length) 0

/-- `GetNumBytes`. -/
def getNumBytes (value : Nat) : Nat := (Nat.digits 256 value).length

/-- The value of one hexadecimal digit. -/
def hexDigit (char : Char) : Option Nat :=
  if '0' ≤ char ∧ char ≤ '9' then some (char.toNat - '0'.toNat)
  else if 'a' ≤ char ∧ char ≤ 'f' then some (char.toNat - 'a'.toNat + 10)
  else if 'A' ≤ char ∧ char ≤ 'F' then some (char.toNat - 'A'.toNat + 10)
  else none

/-- The value of the longest prefix of hexadecimal digits. -/
def hexPrefix (value : Nat) : List Char → Nat
  | [] => value
  | char :: rest =>
      match hexDigit char with
      | some digit => hexPrefix (16 * value + digit) rest
      | none => value

/--
`SetHexStr`: the library leaves the number as it was when the string is
empty, and reads the leading hexadecimal digits otherwise.
-/
def setHexStr (old : Nat) (text : String) : Nat :=
  if text = "" then old else hexPrefix 0 text.toList

/-- `ModExp` by repeated squaring. -/
def modExp (base exponent modulus : Nat) : Nat :=
  if exponent = 0 then 1 % modulus
  else
    let half := modExp (base * base % modulus) (exponent / 2) modulus
    if exponent % 2 = 1 then half * base % modulus else half
termination_by exponent

@[simp]
theorem getNumBytes_eq_zero_iff {value : Nat} :
    getNumBytes value = 0 ↔ value = 0 := by
  simp [getNumBytes, Nat.digits_eq_nil_iff_eq_zero]

theorem asByteArray_length_ge (minSize value : Nat) :
    minSize ≤ (asByteArray minSize value).length := by
  simp only [asByteArray, List.length_append, List.length_map,
    List.length_replicate]
  omega

end BigNumber

end RealmServer.Auth
