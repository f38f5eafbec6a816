import RealmServer.Lib.Table

/-!
# The gold of the players

A purse is a `uint32`, and `Player::ModifyMoney` takes an `int32`.  Callers
convert between the two without a check; within `maxMoneyAmount` nothing is
lost, which is what the lemmas here say.
-/

namespace RealmServer.Players

open Table

/-! ## Numbers of the machine -/

/-- Subtraction of `uint32`. -/
def sub32 (left right : Nat) : Nat := (left + (2 ^ 32 - right % 2 ^ 32)) % 2 ^ 32

/-- The value of a `uint32` as an `int32`. -/
def toInt32 (value : Nat) : Int := Int.bmod value (2 ^ 32)

def maxMoneyAmount : Nat := 0x7FFFFFFF - 1

/-! ## Purses -/

/-- `Player::ModifyMoney`: the new purse, unless there would be too much gold. -/
def modifyMoney (money : Nat) (amount : Int) : Option Nat :=
  if amount = 0 then some money
  else if amount < 0 then
    some (if (-amount).toNat < money then money - (-amount).toNat else 0)
  else if (money : Int) ≤ (maxMoneyAmount - amount) % 2 ^ 32 then
    some ((money + amount.toNat) % 2 ^ 32)
  else none

structure PlayerMoney where
  guid : Nat
  money : Nat
deriving DecidableEq, Repr

def moneyIn (players : List PlayerMoney) (player : Nat) : Nat :=
  ((find PlayerMoney.guid players player).map PlayerMoney.money).getD 0

/-- `ModifyMoney` on the purse of a player. -/
def modifyPurse (players : List PlayerMoney) (player : Nat) (amount : Int) :
    List PlayerMoney :=
  modify PlayerMoney.guid players player fun purse =>
    { purse with money := (modifyMoney purse.money amount).getD purse.money }

/-- Purses have one owner each, no owner is the empty guid, and none overflows. -/
structure SoundPurses (players : List PlayerMoney) : Prop where
  guids : (players.map PlayerMoney.guid).Nodup
  real : ∀ purse ∈ players, purse.guid ≠ 0
  wealth : ∀ purse ∈ players, purse.money ≤ maxMoneyAmount

def goldIn (players : List PlayerMoney) : Nat := (players.map PlayerMoney.money).sum

theorem sub32_of_le {left right : Nat} (le : right ≤ left) (small : left < 2 ^ 32) :
    sub32 left right = left - right := by
  unfold sub32
  omega

theorem toInt32_of_le {value : Nat} (small : value ≤ maxMoneyAmount) :
    toInt32 value = value := by
  unfold toInt32
  rw [Int.bmod_eq_of_le] <;> unfold maxMoneyAmount at small <;> omega

/-- A player is charged what he can pay: nothing is lost to the type of the amount. -/
theorem modifyMoney_charge {money amount : Nat} (affordable : amount ≤ money)
    (wealth : money ≤ maxMoneyAmount) :
    modifyMoney money (-toInt32 amount) = some (money - amount) := by
  rw [toInt32_of_le (affordable.trans wealth)]
  unfold modifyMoney
  split_ifs with zero negative cheap
  · simp only [Option.some.injEq]
    omega
  · simp only [Option.some.injEq]
    omega
  · simp only [Option.some.injEq]
    omega
  · omega
  · omega

section Charges

variable {players : List PlayerMoney} (sound : SoundPurses players)
  {purse : PlayerMoney} (member : purse ∈ players)

include sound member

theorem moneyIn_of_mem : moneyIn players purse.guid = purse.money := by
  unfold moneyIn
  rw [find_of_mem sound.guids member]
  rfl

theorem goldIn_modifyPurse {amount : Int} {money : Nat}
    (modified : modifyMoney purse.money amount = some money) :
    goldIn (modifyPurse players purse.guid amount) + purse.money =
      goldIn players + money := by
  have sum := sum_modify sound.guids member
    (fun purse => { purse with money := (modifyMoney purse.money amount).getD purse.money })
    PlayerMoney.money
  dsimp only at sum
  rw [modified] at sum
  exact sum

theorem mem_modifyPurse {amount : Int} {money : Nat}
    (modified : modifyMoney purse.money amount = some money) {other : PlayerMoney}
    (otherMember : other ∈ modifyPurse players purse.guid amount) :
    other ∈ players ∨ other = { guid := purse.guid, money } := by
  rcases mem_modify.mp otherMember with ⟨old, _⟩ | ⟨old, oldMember, same, rfl⟩
  · exact .inl old
  · right
    have isPurse : old = purse := List.inj_on_of_nodup_map sound.guids oldMember member same
    subst isPurse
    rw [modified]
    rfl

theorem SoundPurses.modifyPurse {amount : Int} {money : Nat}
    (modified : modifyMoney purse.money amount = some money)
    (wealth : money ≤ maxMoneyAmount) :
    SoundPurses (modifyPurse players purse.guid amount) := by
  constructor
  · exact modify_keys sound.guids _ fun _ => rfl
  · intro other otherMember
    rcases mem_modifyPurse sound member modified otherMember with old | rfl
    · exact sound.real other old
    · exact sound.real purse member
  · intro other otherMember
    rcases mem_modifyPurse sound member modified otherMember with old | rfl
    · exact sound.wealth other old
    · exact wealth

theorem moneyIn_modifyPurse {amount : Int} {money : Nat}
    (modified : modifyMoney purse.money amount = some money) :
    moneyIn (Players.modifyPurse players purse.guid amount) purse.guid = money := by
  have after : ((Players.modifyPurse players purse.guid amount).map
      PlayerMoney.guid).Nodup := modify_keys sound.guids _ fun _ => rfl
  have changed : ({ guid := purse.guid, money } : PlayerMoney) ∈
      Players.modifyPurse players purse.guid amount := by
    refine mem_modify.mpr (.inr ⟨purse, member, rfl, ?_⟩)
    rw [modified]
    rfl
  unfold moneyIn
  rw [find_of_mem after changed]
  rfl

end Charges

end RealmServer.Players
