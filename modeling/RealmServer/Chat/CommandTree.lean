import RealmServer.Lib.Ownership

/-!
# The command tree

The rows of the command table become commands, and each command is given to
its parent, in the order of a hash map.  The parent then owns it; the map keeps
a pointer.  A parent which has a subcommand of the name already destroys the
newcomer at once, with all that it owns by then; a command without a parent
that can own it is destroyed when the tree is finished.
-/

namespace RealmServer.Chat

open Ownership

/-! ## Names -/

/-- `is_iless`. -/
def isIless (first second : String) : Bool := first.toUpper < second.toUpper

/-- `is_iequal`. -/
def isIequal (first second : String) : Bool := first.toUpper = second.toUpper

/-! ## Commands -/

structure CommandRow where
  id : Nat
  sortingKey : ℤ
  name : String
  parentId : Nat
  scriptName : String
deriving DecidableEq, Repr

/-- What a script makes of a row. -/
inductive CommandKind where
  | simple
  | metaCommand
deriving DecidableEq, Repr

structure Command where
  id : Nat
  sortingKey : ℤ
  name : String
  /-- It is kept with the definition. -/
  parentId : Nat
  kind : CommandKind
deriving DecidableEq, Repr

def CommandRow.command (row : CommandRow) (kind : CommandKind) : Command where
  id := row.id
  sortingKey := row.sortingKey
  name := row.name
  parentId := row.parentId
  kind := kind

/-- Whether the order index or the name index has no place for the command beside the other. -/
def Command.excludes (other command : Command) : Bool :=
  (other.sortingKey = command.sortingKey &&
    !isIless other.name command.name && !isIless command.name other.name) ||
    isIequal other.name command.name

theorem Command.excludes_iff (other command : Command) :
    other.excludes command = true ↔ isIequal other.name command.name = true := by
  unfold Command.excludes
  rw [Bool.or_eq_true, or_iff_right_iff_imp]
  intro sameOrder
  simp only [Bool.and_eq_true, Bool.not_eq_true', isIless, decide_eq_false_iff_not,
    not_lt] at sameOrder
  exact decide_eq_true (le_antisymm sameOrder.2 sameOrder.1.2)

/-- A table of commands, what the scripts make of it, and the orders of the hash maps. -/
structure Loading where
  rows : List CommandRow
  ids_nodup : (rows.map CommandRow.id).Nodup
  ids_ne_zero : ∀ row ∈ rows, row.id ≠ 0
  parents : ∀ row ∈ rows, row.parentId = 0 ∨ ∃ parent ∈ rows, parent.id = row.parentId
  /-- None where the script is missing or returns no command. -/
  createCommand : CommandRow → Option CommandKind
  /-- `commandStorage` without the root, in the order it is iterated. -/
  commandStorage : List Command
  created : commandStorage.Perm
    (rows.filterMap fun row => (createCommand row).map row.command)
  /-- The order of `unusedCommands`. -/
  cleanupOrder : List Nat → List Nat
  cleanupOrder_perm : ∀ ids, (cleanupOrder ids).Perm ids

/-! ## Building -/

/-- The commands so far, by their ids. -/
structure CommandForest where
  /-- The owners' ids and what they own, as it was added. -/
  subCommands : List (Nat × Command)
  unusedCommands : List Nat
  destroyed : List Nat
  /-- The commands whose parent was destroyed when it was asked to take them.  What the program
  does then is undefined; only that it happened is kept. -/
  stray : List Nat
deriving DecidableEq, Repr

namespace CommandForest

def empty : CommandForest := ⟨[], [], [], []⟩

def container (forest : CommandForest) (id : Nat) : List Command :=
  (forest.subCommands.filter fun owned => owned.1 = id).map Prod.snd

def owned (forest : CommandForest) (id : Nat) : List Nat :=
  (forest.container id).map Command.id

/-- The destructor, with the destructors of what is owned. -/
def destroy (turns : Nat) (forest : CommandForest) (id : Nat) : Option CommandForest :=
  (subtree forest.owned turns id).map fun freed =>
    { forest with destroyed := forest.destroyed ++ freed }

/-- A command which is not inserted is destroyed with the pointer that brought it. -/
def addSubCommand (turns : Nat) (forest : CommandForest) (parentId : Nat) (command : Command) :
    Option CommandForest :=
  if (forest.container parentId).any fun other => other.excludes command then
    forest.destroy turns command.id
  else some { forest with subCommands := forest.subCommands ++ [(parentId, command)] }

def addUnused (forest : CommandForest) (command : Command) : CommandForest :=
  { forest with unusedCommands := forest.unusedCommands ++ [command.id] }

def addStray (forest : CommandForest) (command : Command) : CommandForest :=
  { forest with stray := forest.stray ++ [command.id] }

/-- One round of the loop which builds the tree. -/
def attach (commandStorage : List Command) (turns : Nat) (forest : CommandForest)
    (command : Command) : Option CommandForest :=
  if command.parentId = 0 then forest.addSubCommand turns 0 command
  else
    match commandStorage.find? fun parent => parent.id = command.parentId with
    | none => some (forest.addUnused command)
    | some parent =>
        if parent.id ∈ forest.destroyed then some (forest.addStray command)
        else
          match parent.kind with
          | .simple => some (forest.addUnused command)
          | .metaCommand => forest.addSubCommand turns parent.id command

end CommandForest

/-- What is left in the end. -/
structure Loaded where
  /-- The commands which the initialization of the root comes to. -/
  tree : List Nat
  destroyed : List Nat
  stray : List Nat
deriving DecidableEq, Repr

def Loading.build (loading : Loading) (turns : Nat) : Option CommandForest :=
  loading.commandStorage.foldlM (CommandForest.attach loading.commandStorage turns)
    CommandForest.empty

/-- The initialization of the root, and the cleanup. -/
def Loading.finish (loading : Loading) (turns : Nat) (forest : CommandForest) : Option Loaded :=
  (subtree forest.owned turns 0).bind fun tree =>
    ((loading.cleanupOrder forest.unusedCommands).foldlM (CommandForest.destroy turns)
      forest).map fun cleaned => ⟨tree, cleaned.destroyed, cleaned.stray⟩

def Loading.loadCommands (loading : Loading) (turns : Nat) : Option Loaded :=
  (loading.build turns).bind (loading.finish turns)

/-! ## Places -/

namespace Loading

variable (loading : Loading)

/-- The parent was created and can have subcommands. -/
def Usable (command : Command) : Prop :=
  command.parentId = 0 ∨ ∃ parent ∈ loading.commandStorage,
    parent.id = command.parentId ∧ parent.kind = .metaCommand

def Before (first second : Command) : Prop :=
  ∃ before later, loading.commandStorage = before ++ second :: later ∧ first ∈ before

/-- A sibling of the same name comes first. -/
def Loses (command : Command) : Prop :=
  loading.Usable command ∧ ∃ sibling, loading.Before sibling command ∧
    sibling.parentId = command.parentId ∧ isIequal sibling.name command.name = true

def Placed (command : Command) : Prop := loading.Usable command ∧ ¬ loading.Loses command

/-- All the commands on the way to the root have their place. -/
inductive Chained : Nat → Prop where
  | root : Chained 0
  | sub {command : Command} (created : command ∈ loading.commandStorage)
      (placed : loading.Placed command) (parent : Chained command.parentId) :
      Chained command.id

/-- The tree has what it should, nothing destroyed is used, and all else is destroyed once. -/
def TreeIsExact : Prop :=
  ∃ loaded, Recursion.EndsWith loading.loadCommands loaded ∧ loaded.stray = [] ∧
    (∀ row ∈ loading.rows, row.id ∈ loaded.tree ↔ loading.Chained row.id) ∧
    ∀ command ∈ loading.commandStorage,
      loaded.destroyed.count command.id = if command.id ∈ loaded.tree then 0 else 1

/-! ## When it is exact -/

/-- A command which its parent could own. -/
def Below (owner id : Nat) : Prop :=
  ∃ command ∈ loading.commandStorage, command.id = id ∧ command.parentId = owner ∧
    loading.Usable command

/-- What hangs below a command that loses its place comes before it. -/
def LosersLast : Prop :=
  ∀ loser ∈ loading.commandStorage, loading.Loses loser →
    ∀ parent, Relation.ReflTransGen loading.Below loser.id parent →
      ∀ command ∈ loading.commandStorage, command.parentId = parent →
        ¬ loading.Before loser command

/-- A command which its parent owns, in the end or before it is destroyed. -/
def Owns (owner id : Nat) : Prop :=
  ∃ command ∈ loading.commandStorage, command.id = id ∧ command.parentId = owner ∧
    loading.Placed command

/-- No commands own each other. -/
def NoCircle : Prop := ∀ id, ¬ Relation.TransGen loading.Owns id id

end Loading

end RealmServer.Chat
