import Mathlib.Data.List.Nodup
import RealmServer.Database.Connection

/-!
# All or nothing

A transaction is applied as a whole or not at all only as long as the connection
holds: a statement that is sent again after a loss is no longer in a transaction,
and neither is any after it.  A loss is harmless where it loses nothing, or where
the statement is refused in the end.  That `COMMIT` failed goes unnoticed.
-/

namespace RealmServer.Database

open TransactionLog

/-! ## When a transaction keeps its promise -/

namespace Attempts

/-- Outside of a transaction: accepted in the end, with one effect in all. -/
def Settled (attempts : Attempts) : Prop := attempts.refusal = none ∧ attempts.effects = 1

/-- Outside of a transaction: refused in the end, with no effect. -/
def Withdrawn (attempts : Attempts) : Prop := attempts.refusal ≠ none ∧ attempts.effects = 0

/-- In a transaction: refused in the end, with no effect after a loss. -/
def Withdraws : Attempts → Prop
  | answered => False
  | refused _ _ => True
  | lost _ _ next => next.Withdrawn

/-- In a transaction: the connection is lost, and the rest settles it. -/
def Restarts : Attempts → Prop
  | answered => False
  | refused _ _ => False
  | lost _ _ next => next.Settled

/-- The first attempt has an effect. -/
def Lands : Attempts → Prop
  | answered => True
  | refused _ _ => False
  | lost _ applied _ => applied = true

/-- What is accepted has had an effect. -/
theorem effects_pos {attempts : Attempts} (accepted : attempts.refusal = none) :
    0 < attempts.effects := by
  induction attempts with
  | answered => exact Nat.one_pos
  | refused errno rolledBack => cases accepted
  | lost errno applied next hypothesis =>
      exact Nat.add_pos_right _ (hypothesis accepted)

end Attempts

/--
If `START TRANSACTION` is accepted, the statements are accepted at once up to one
that is refused, or up to `COMMIT`, which has an effect when it is first sent, or
the connection is lost over the first and each has one effect from there on.  If
it is refused, so is the first statement, or each statement has one effect.
-/
def Pattern.Keeps (pattern : Pattern) (count : Nat) : Prop :=
  (pattern.beginTransaction.refusal = none ∧
    ((∃ position < count, (∀ earlier < position, pattern.query earlier = .answered) ∧
        (pattern.query position).Withdraws) ∨
      ((∀ position < count, pattern.query position = .answered) ∧ pattern.finish.Lands) ∨
      ((pattern.query 0).Restarts ∧
        ∀ position < count, 0 < position → (pattern.query position).Settled))) ∨
  (pattern.beginTransaction.refusal ≠ none ∧
    ((pattern.query 0).Withdrawn ∨ ∀ position < count, (pattern.query position).Settled))

/-- The first error that comes back from so many statements. -/
def firstRefusal : (Nat → Attempts) → Nat → Option OrdinaryErrno
  | _, 0 => none
  | attempts, count + 1 =>
      match (attempts 0).refusal with
      | some errno => some errno
      | none => firstRefusal (fun position => attempts (position + 1)) count

/-- A statement in the transaction is refused, and so is `ROLLBACK`: it stays open. -/
def Pattern.LeavesOpen (pattern : Pattern) (count : Nat) : Prop :=
  pattern.beginTransaction.refusal = none ∧
    (∃ position < count, (∀ earlier < position, pattern.query earlier = .answered) ∧
      ∃ errno, pattern.query position = .refused errno false) ∧
    ∃ errno, pattern.finish = .refused errno false

/-- The task comes to this round: the first met a deadlock, and the later ones some error. -/
def Reaches (patterns : Nat → Pattern) (count round : Nat) : Prop :=
  round ≤ 5 ∧
    (0 < round → (firstRefusal (patterns 0).query count).map OrdinaryErrno.code =
      some ER_LOCK_DEADLOCK) ∧
    ∀ earlier < round, firstRefusal (patterns earlier).query count ≠ none

/-- All statements are applied and there is no error code, or none is and there is one. -/
def AllOrNothing {Statement : Type*} (queries durable : List Statement)
    (result : Int × TransactionLog Statement) : Prop :=
  (result.1 = 0 ∧ result.2.durable = durable ++ queries) ∨
    (result.1 ≠ 0 ∧ result.2.durable = durable)

/-- The promise says whether all statements are applied; otherwise none is. -/
structure TellsTruth {Statement : Type*} (queries durable : List Statement)
    (result : Bool × TransactionLog Statement) : Prop where
  promise : result.1 = true ↔ result.2.durable = durable ++ queries
  failure : result.1 = false → result.2.durable = durable

section Execute

variable {Statement : Type*} (durable writes : List Statement) (statement : Statement)
  (attempts : Attempts) (log : TransactionLog Statement)

/-! ## One request -/

theorem execute_fst (request : Request Statement) :
    (execute request attempts log).1 = attempts.refusal := by
  induction attempts generalizing log with
  | answered => rfl
  | refused errno rolledBack => rfl
  | lost errno applied next hypothesis => exact hypothesis _

theorem execute_write_closed :
    execute (.write statement) attempts (closed durable) =
      (attempts.refusal, closed (durable ++ List.replicate attempts.effects statement)) := by
  induction attempts generalizing durable with
  | answered => rfl
  | refused errno rolledBack => simp [execute, Attempts.refusal, Attempts.effects]
  | lost errno applied next hypothesis =>
      cases applied with
      | false => simp [execute, Attempts.refusal, Attempts.effects, hypothesis]
      | true =>
          simp [execute, Attempts.refusal, Attempts.effects, hypothesis, Nat.add_comm 1,
            List.replicate_succ]

theorem execute_start_of_accepted (accepted : attempts.refusal = none) :
    (execute .start attempts (closed durable)).2 = opened durable [] := by
  induction attempts with
  | answered => simp [execute]
  | refused errno rolledBack => cases accepted
  | lost errno applied next hypothesis =>
      rw [execute]
      cases applied with
      | false => exact hypothesis accepted
      | true => simpa using hypothesis accepted

theorem execute_start_of_refused (refused : attempts.refusal ≠ none) :
    (execute .start attempts (closed durable)).2 = closed durable := by
  induction attempts with
  | answered => exact absurd rfl refused
  | refused errno rolledBack => simp [execute]
  | lost errno applied next hypothesis =>
      rw [execute]
      cases applied with
      | false => exact hypothesis refused
      | true => simpa using hypothesis refused

theorem execute_commit_closed :
    (execute .commit attempts (closed durable)).2 = closed durable := by
  induction attempts with
  | answered => simp [execute]
  | refused errno rolledBack => simp [execute]
  | lost errno applied next hypothesis => simpa [execute] using hypothesis

theorem execute_rollback_closed :
    (execute .rollback attempts (closed durable)).2 = closed durable := by
  induction attempts with
  | answered => simp [execute]
  | refused errno rolledBack => simp [execute]
  | lost errno applied next hypothesis => simpa [execute] using hypothesis

theorem durable_execute_rollback :
    (execute .rollback attempts log).2.durable = log.durable := by
  induction attempts generalizing log with
  | answered => rfl
  | refused errno rolledBack => cases rolledBack <;> rfl
  | lost errno applied next hypothesis =>
      rw [execute, hypothesis]
      cases applied <;> rfl

theorem durable_execute_commit_opened (filled : writes ≠ []) :
    (execute .commit attempts (opened durable writes)).2.durable = durable ++ writes ↔
      attempts.Lands := by
  cases attempts with
  | answered => simp [execute, Attempts.Lands]
  | refused errno rolledBack => cases rolledBack <;> simp [execute, Attempts.Lands, filled]
  | lost errno applied next =>
      cases applied with
      | false => simp [execute, Attempts.Lands, execute_commit_closed, filled]
      | true => simp [execute, Attempts.Lands, execute_commit_closed]

/-! ## The statements -/

/-- What the statements leave where no transaction is open. -/
def directly : (Nat → Attempts) → List Statement → List Statement
  | _, [] => []
  | attempts, query :: queries =>
      List.replicate (attempts 0).effects query ++
        match (attempts 0).refusal with
        | some _ => []
        | none => directly (fun position => attempts (position + 1)) queries

theorem executeQueries_fst (attempts : Nat → Attempts) (queries : List Statement) :
    (executeQueries attempts queries log).1 = firstRefusal attempts queries.length := by
  induction queries generalizing attempts log with
  | nil => rfl
  | cons query queries hypothesis =>
      have first := execute_fst (attempts 0) log (.write query)
      rw [executeQueries, List.length_cons, firstRefusal, ← first]
      cases execute (.write query) (attempts 0) log with
      | mk answer rest =>
          cases answer with
          | none => exact hypothesis rest _
          | some errno => rfl

theorem executeQueries_closed (attempts : Nat → Attempts) (queries : List Statement) :
    executeQueries attempts queries (closed durable) =
      (firstRefusal attempts queries.length, closed (durable ++ directly attempts queries)) := by
  induction queries generalizing attempts durable with
  | nil => simp [executeQueries, firstRefusal, directly]
  | cons query queries hypothesis =>
      rw [executeQueries, List.length_cons, firstRefusal, directly, execute_write_closed]
      cases (attempts 0).refusal with
      | none => simp only [hypothesis, List.append_assoc]
      | some errno => simp only [List.append_nil]

theorem mem_of_mem_directly {attempts : Nat → Attempts} {queries : List Statement}
    (member : statement ∈ directly attempts queries) : statement ∈ queries := by
  induction queries generalizing attempts with
  | nil => cases member
  | cons query queries hypothesis =>
      rw [directly, List.mem_append] at member
      cases member with
      | inl here =>
          rw [List.eq_of_mem_replicate here]
          exact List.mem_cons_self
      | inr later =>
          cases accepted : (attempts 0).refusal with
          | none =>
              rw [accepted] at later
              exact List.mem_cons_of_mem _ (hypothesis later)
          | some errno =>
              rw [accepted] at later
              cases later

theorem eq_one_of_replicate_append {statement : Statement} {count : Nat}
    {others rest : List Statement} (absent : statement ∉ others) (absentRest : statement ∉ rest)
    (same : List.replicate count statement ++ rest = statement :: others) : count = 1 := by
  cases count with
  | zero =>
      rw [List.replicate_zero, List.nil_append] at same
      exact absurd (same ▸ List.mem_cons_self) absentRest
  | succ fewer =>
      cases fewer with
      | zero => rfl
      | succ more =>
          rw [List.replicate_succ, List.cons_append] at same
          have others_eq := (List.cons.inj same).2
          rw [List.replicate_succ, List.cons_append] at others_eq
          exact absurd (others_eq ▸ List.mem_cons_self) absent

/-- Without a transaction each statement is applied once if it is so by itself. -/
theorem directly_eq_self_iff (attempts : Nat → Attempts) {queries : List Statement}
    (distinct : queries.Nodup) :
    firstRefusal attempts queries.length = none ∧ directly attempts queries = queries ↔
      ∀ position < queries.length, (attempts position).Settled := by
  induction queries generalizing attempts with
  | nil => simp [firstRefusal, directly]
  | cons query queries hypothesis =>
      have rest := hypothesis (fun position => attempts (position + 1)) distinct.of_cons
      rw [List.length_cons, Nat.forall_lt_succ_left, ← rest, firstRefusal, directly,
        Attempts.Settled]
      cases (attempts 0).refusal with
      | some errno => simp
      | none =>
          simp only [true_and]
          constructor
          · intro both
            obtain ⟨accepted, same⟩ := both
            have once : (attempts 0).effects = 1 :=
              eq_one_of_replicate_append distinct.notMem
                (fun member => distinct.notMem (mem_of_mem_directly query member)) same
            rw [once] at same
            exact ⟨once, accepted, List.cons.inj same |>.2⟩
          · intro both
            obtain ⟨once, accepted, same⟩ := both
            rw [once, same]
            exact ⟨accepted, rfl⟩

theorem directly_eq_nil_iff (attempts : Nat → Attempts) {queries : List Statement}
    (filled : queries ≠ []) :
    firstRefusal attempts queries.length ≠ none ∧ directly attempts queries = [] ↔
      (attempts 0).Withdrawn := by
  cases queries with
  | nil => exact absurd rfl filled
  | cons query queries =>
      rw [List.length_cons, firstRefusal, directly, Attempts.Withdrawn]
      cases accepted : (attempts 0).refusal with
      | some errno => simp
      | none =>
          -- What is accepted is applied at least once.
          simp only [ne_eq, not_true_eq_false, false_and, iff_false, not_and]
          intro refused none
          have applied := Attempts.effects_pos accepted
          rw [List.append_eq_nil_iff, List.replicate_eq_nil_iff] at none
          omega

/-! ## The transaction -/

/-- How `executeTransaction` ends. -/
def conclude (finish : Attempts) :
    Option OrdinaryErrno × TransactionLog Statement → Int × TransactionLog Statement
  | (some errorCode, log) => (errorCode.code, (execute .rollback finish log).2)
  | (none, log) => (0, (execute .commit finish log).2)

theorem executeTransaction_eq {queries : List Statement} (filled : queries ≠ [])
    (pattern : Pattern) :
    executeTransaction pattern queries log =
      conclude pattern.finish (executeQueries pattern.query queries
        (execute .start pattern.beginTransaction log).2) := by
  rw [executeTransaction, if_neg filled]
  rfl

theorem allOrNothing_conclude_closed (finish : Attempts) (answer : Option OrdinaryErrno)
    (queries result : List Statement) :
    AllOrNothing queries durable (conclude finish (answer, closed result)) ↔
      (answer = none ∧ result = durable ++ queries) ∨ (answer ≠ none ∧ result = durable) := by
  cases answer with
  | none => simp [AllOrNothing, conclude, execute_commit_closed]
  | some errno => simp [AllOrNothing, conclude, execute_rollback_closed, errno.isError]

/-- From a statement on that is not in a transaction, the ones before it being lost. -/
theorem allOrNothing_closed (attempts : Nat → Attempts) (finish : Attempts)
    {queries : List Statement} (filled : queries ≠ []) (distinct : (writes ++ queries).Nodup) :
    AllOrNothing (writes ++ queries) durable
        (conclude finish (executeQueries attempts queries (closed durable))) ↔
      (attempts 0).Withdrawn ∨
        (writes = [] ∧ ∀ position < queries.length, (attempts position).Settled) := by
  rw [executeQueries_closed, allOrNothing_conclude_closed, List.append_cancel_left_eq,
    List.append_right_eq_self, directly_eq_nil_iff attempts filled, or_comm,
    ← directly_eq_self_iff attempts distinct.of_append_right]
  apply or_congr_right
  constructor
  · intro both
    obtain ⟨accepted, same⟩ := both
    -- A write from before the loss would be among the statements after it.
    have lost : writes = [] := by
      apply List.eq_nil_iff_forall_not_mem.2
      intro write member
      have later : write ∈ queries := by
        apply mem_of_mem_directly
        rw [same]
        exact List.mem_append_left _ member
      exact (List.disjoint_of_nodup_append distinct) member later
    rw [lost, List.nil_append] at same
    exact ⟨lost, accepted, same⟩
  · intro both
    obtain ⟨lost, accepted, same⟩ := both
    rw [lost, List.nil_append]
    exact ⟨accepted, same⟩

/-- What is left of the attempts after a loss over the first statement. -/
def afterLoss (next : Attempts) (attempts : Nat → Attempts) : Nat → Attempts
  | 0 => next
  | position + 1 => attempts (position + 1)

theorem executeQueries_lost {attempts : Nat → Attempts} {errno : LossErrno} {applied : Bool}
    {next : Attempts} (loses : attempts 0 = .lost errno applied next)
    (query : Statement) (queries : List Statement) :
    executeQueries attempts (query :: queries) (opened durable writes) =
      executeQueries (afterLoss next attempts) (query :: queries) (closed durable) := by
  have discarded : (if applied then serve (.write query) (opened durable writes)
      else opened durable writes).discard = closed durable := by
    cases applied with
    | false => rfl
    | true => rfl
  rw [executeQueries, loses, execute, discarded, executeQueries]
  rfl

/-- The condition on the statements that are in the transaction, the first being its first. -/
def KeptInside (attempts : Nat → Attempts) (count : Nat) (finish : Attempts)
    (isFirst : Prop) : Prop :=
  (∃ position < count, (∀ earlier < position, attempts earlier = .answered) ∧
      (attempts position).Withdraws) ∨
    ((∀ position < count, attempts position = .answered) ∧ finish.Lands) ∨
    (isFirst ∧ (attempts 0).Restarts ∧
      ∀ position < count, 0 < position → (attempts position).Settled)

section KeptInside

variable {first : Nat → Attempts} {count : Nat} {finish : Attempts} {isFirst : Prop}

theorem keptInside_of_answered (answered : first 0 = .answered) :
    KeptInside first (count + 1) finish isFirst ↔
      KeptInside (fun position => first (position + 1)) count finish False := by
  simp only [KeptInside, false_and, or_false, answered, Attempts.Restarts, and_false]
  apply or_congr
  · constructor
    · rintro ⟨position, below, before, withdraws⟩
      cases position with
      | zero =>
          rw [answered] at withdraws
          exact withdraws.elim
      | succ position =>
          exact ⟨position, Nat.lt_of_succ_lt_succ below,
            fun earlier small => before (earlier + 1) (Nat.succ_lt_succ small), withdraws⟩
    · rintro ⟨position, below, before, withdraws⟩
      refine ⟨position + 1, Nat.succ_lt_succ below, fun earlier small => ?_, withdraws⟩
      cases earlier with
      | zero => exact answered
      | succ earlier => exact before earlier (Nat.lt_of_succ_lt_succ small)
  · rw [Nat.forall_lt_succ_left, answered, eq_self_iff_true, true_and]

theorem keptInside_of_withdraws (withdraws : (first 0).Withdraws) :
    KeptInside first (count + 1) finish isFirst :=
  Or.inl ⟨0, Nat.succ_pos count, fun _ below => absurd below (Nat.not_lt_zero _), withdraws⟩

theorem keptInside_of_lost {errno : LossErrno} {applied : Bool} {next : Attempts}
    (loses : first 0 = .lost errno applied next) :
    KeptInside first (count + 1) finish isFirst ↔
      next.Withdrawn ∨
        (isFirst ∧ ∀ position < count + 1, (afterLoss next first position).Settled) := by
  have notAnswered : first 0 ≠ .answered := by rw [loses]; simp
  constructor
  · rintro (⟨position, below, before, withdraws⟩ | ⟨answered, -⟩ | ⟨start, restarts, settled⟩)
    · cases position with
      | zero =>
          rw [loses] at withdraws
          exact Or.inl withdraws
      | succ position => exact absurd (before 0 (Nat.succ_pos _)) notAnswered
    · exact absurd (answered 0 (Nat.succ_pos _)) notAnswered
    · rw [loses] at restarts
      refine Or.inr ⟨start, fun position below => ?_⟩
      cases position with
      | zero => exact restarts
      | succ position => exact settled (position + 1) below (Nat.succ_pos _)
  · rintro (withdrawn | ⟨start, settled⟩)
    · apply keptInside_of_withdraws
      rw [loses]
      exact withdrawn
    · refine Or.inr (Or.inr ⟨start, ?_, fun position below positive => ?_⟩)
      · rw [loses]
        exact settled 0 (Nat.succ_pos _)
      · cases position with
        | zero => exact absurd positive (Nat.lt_irrefl 0)
        | succ position => exact settled (position + 1) below

end KeptInside

/-- From a statement on that is in the transaction, with the ones before it. -/
theorem allOrNothing_opened (attempts : Nat → Attempts) (finish : Attempts)
    {queries : List Statement} (filled : writes ++ queries ≠ [])
    (distinct : (writes ++ queries).Nodup) :
    AllOrNothing (writes ++ queries) durable
        (conclude finish (executeQueries attempts queries (opened durable writes))) ↔
      KeptInside attempts queries.length finish (writes = []) := by
  induction queries generalizing attempts writes with
  | nil =>
      rw [List.append_nil] at filled ⊢
      simp [AllOrNothing, conclude, executeQueries, filled, KeptInside,
        durable_execute_commit_opened durable writes finish filled]
  | cons query queries hypothesis =>
      cases first : attempts 0 with
      | answered =>
          have rest := hypothesis (writes ++ [query]) (fun position => attempts (position + 1))
            (by simp) (by simpa using distinct)
          rw [List.append_assoc, List.singleton_append, List.append_eq_nil_iff] at rest
          rw [executeQueries, first, execute, serve_write_opened, List.length_cons,
            keptInside_of_answered first]
          simpa using rest
      | refused errno rolledBack =>
          rw [executeQueries, first, execute, List.length_cons]
          have withdraws : (attempts 0).Withdraws := by
            rw [first]
            trivial
          refine iff_of_true (Or.inr ?_) (keptInside_of_withdraws withdraws)
          refine ⟨by simp [conclude, errno.isError], ?_⟩
          rw [conclude, durable_execute_rollback]
          cases rolledBack with
          | false => rfl
          | true => rfl
      | lost errno applied next =>
          rw [executeQueries_lost durable writes first, List.length_cons,
            keptInside_of_lost first]
          exact allOrNothing_closed durable writes (afterLoss next attempts) finish
            (List.cons_ne_nil query queries) distinct

/-- Exactly when a transaction of distinct statements is all or nothing. -/
theorem allOrNothing_iff_keeps {queries : List Statement} (filled : queries ≠ [])
    (distinct : queries.Nodup) (pattern : Pattern) :
    AllOrNothing queries durable (executeTransaction pattern queries (closed durable)) ↔
      pattern.Keeps queries.length := by
  rw [executeTransaction_eq _ filled, Pattern.Keeps]
  by_cases accepted : pattern.beginTransaction.refusal = none
  · have opens := @allOrNothing_opened _ durable [] pattern.query pattern.finish queries filled
      distinct
    rw [execute_start_of_accepted durable _ accepted]
    simpa [accepted, KeptInside] using opens
  · have closes := allOrNothing_closed durable [] pattern.query pattern.finish filled distinct
    rw [execute_start_of_refused durable _ accepted]
    simpa [accepted] using closes

/-! ## The task -/

/-- A transaction is only left open where a statement in it is refused. -/
theorem pending_executeQueries (attempts : Nat → Attempts) (queries : List Statement)
    (refused : firstRefusal attempts queries.length ≠ none) :
    (executeQueries attempts queries (opened durable writes)).2.pending = none ∨
      ∃ position < queries.length, (∀ earlier < position, attempts earlier = .answered) ∧
        ∃ errno, attempts position = .refused errno false := by
  induction queries generalizing attempts writes with
  | nil => exact absurd rfl refused
  | cons query queries hypothesis =>
      cases first : attempts 0 with
      | answered =>
          rw [List.length_cons, firstRefusal, first, Attempts.refusal] at refused
          rw [executeQueries, first, execute, serve_write_opened]
          have rest := hypothesis (writes ++ [query]) _ refused
          cases rest with
          | inl closes => exact Or.inl closes
          | inr stays =>
              obtain ⟨position, below, before, stays⟩ := stays
              refine Or.inr ⟨position + 1, Nat.succ_lt_succ below, fun earlier small => ?_, stays⟩
              cases earlier with
              | zero => exact first
              | succ earlier => exact before earlier (Nat.lt_of_succ_lt_succ small)
      | refused errno rolledBack =>
          cases rolledBack with
          | true =>
              rw [executeQueries, first, execute]
              exact Or.inl rfl
          | false =>
              exact Or.inr ⟨0, Nat.succ_pos _, fun _ below => absurd below (Nat.not_lt_zero _),
                errno, first⟩
      | lost errno applied next =>
          rw [executeQueries_lost durable writes first, executeQueries_closed]
          exact Or.inl rfl

theorem pending_execute_rollback
    (closes : log.pending = none ∨ ∀ errno, attempts ≠ .refused errno false) :
    (execute .rollback attempts log).2.pending = none := by
  cases attempts with
  | answered => rfl
  | refused errno rolledBack =>
      cases rolledBack with
      | true => rfl
      | false =>
          cases closes with
          | inl closes => exact closes
          | inr never => exact absurd rfl (never errno)
  | lost errno applied next =>
      rw [execute]
      cases applied with
      | false => exact congrArg pending (execute_rollback_closed log.durable next)
      | true => exact congrArg pending (execute_rollback_closed log.durable next)

section Task

variable {queries : List Statement} (filled : queries ≠ [])

include filled

theorem executeTransaction_fst (pattern : Pattern) :
    (executeTransaction pattern queries log).1 =
      match firstRefusal pattern.query queries.length with
      | some errno => (errno.code : Int)
      | none => 0 := by
  rw [executeTransaction_eq log filled, ← executeQueries_fst]
  cases executeQueries pattern.query queries (execute .start pattern.beginTransaction log).2 with
  | mk answer rest =>
      cases answer with
      | none => rfl
      | some errno => rfl

theorem executeTransaction_closes (pattern : Pattern)
    (refused : firstRefusal pattern.query queries.length ≠ none)
    (closes : ¬ pattern.LeavesOpen queries.length) :
    (executeTransaction pattern queries (closed durable)).2.pending = none := by
  rw [executeTransaction_eq _ filled]
  have answers := executeQueries_fst
    (execute .start pattern.beginTransaction (closed durable)).2 pattern.query queries
  have ends : (executeQueries pattern.query queries
      (execute .start pattern.beginTransaction (closed durable)).2).2.pending = none ∨
      ∀ errno, pattern.finish ≠ .refused errno false := by
    by_cases accepted : pattern.beginTransaction.refusal = none
    · rw [execute_start_of_accepted durable _ accepted]
      cases pending_executeQueries durable [] pattern.query queries refused with
      | inl closed => exact Or.inl closed
      | inr stays =>
          exact Or.inr fun errno finishes => closes ⟨accepted, stays, errno, finishes⟩
    · rw [execute_start_of_refused durable _ accepted, executeQueries_closed]
      exact Or.inl rfl
  cases result : executeQueries pattern.query queries
      (execute .start pattern.beginTransaction (closed durable)).2 with
  | mk answer rest =>
      rw [result] at answers ends
      cases answer with
      | none => exact absurd answers.symm refused
      | some errno => exact pending_execute_rollback pattern.finish rest ends

theorem tellsTruth_of_or {result : Bool × TransactionLog Statement}
    (outcome : (result.1 = true ∧ result.2.durable = durable ++ queries) ∨
      (result.1 = false ∧ result.2.durable = durable)) : TellsTruth queries durable result := by
  cases outcome with
  | inl all => exact ⟨by simp [all.1, all.2], by simp [all.1]⟩
  | inr nothing => exact ⟨by simp [nothing.1, nothing.2, filled], fun _ => nothing.2⟩

variable (distinct : queries.Nodup)

include distinct

/-- What one round of the task does. -/
theorem round_of_keeps {pattern : Pattern} (keeps : pattern.Keeps queries.length)
    (closes : ¬ pattern.LeavesOpen queries.length) :
    (firstRefusal pattern.query queries.length = none ∧
        (executeTransaction pattern queries (closed durable)).1 = 0 ∧
        (executeTransaction pattern queries (closed durable)).2.durable = durable ++ queries) ∨
      ∃ errno, firstRefusal pattern.query queries.length = some errno ∧
        executeTransaction pattern queries (closed durable) =
          ((errno.code : Int), closed durable) := by
  have code := executeTransaction_fst (closed durable) filled pattern
  have promise := (allOrNothing_iff_keeps durable filled distinct pattern).2 keeps
  cases refusal : firstRefusal pattern.query queries.length with
  | none =>
      rw [refusal] at code
      cases promise with
      | inl all => exact Or.inl ⟨rfl, all⟩
      | inr nothing => exact absurd code nothing.1
  | some errno =>
      rw [refusal] at code
      have pending := executeTransaction_closes durable filled pattern (by simp [refusal]) closes
      cases promise with
      | inl all => exact absurd (code.symm.trans all.1) (by simpa using errno.isError)
      | inr nothing =>
          refine Or.inr ⟨errno, rfl, Prod.ext code ?_⟩
          cases result : (executeTransaction pattern queries (closed durable)).2 with
          | mk kept left =>
              rw [result] at pending nothing
              rw [closed, ← nothing.2, ← pending]

/-- The rounds after a deadlock, by induction on how many are left. -/
theorem retry_of_keeps (rounds : Nat) (patterns : Nat → Pattern)
    (keeps : ∀ round < rounds,
      (∀ earlier < round, firstRefusal (patterns earlier).query queries.length ≠ none) →
        (patterns round).Keeps queries.length ∧ ¬ (patterns round).LeavesOpen queries.length) :
    ((retry rounds patterns queries (closed durable)).1 = true ∧
        (retry rounds patterns queries (closed durable)).2.durable = durable ++ queries) ∨
      ((retry rounds patterns queries (closed durable)).1 = false ∧
        (retry rounds patterns queries (closed durable)).2.durable = durable) := by
  induction rounds generalizing patterns with
  | zero => exact Or.inr ⟨rfl, rfl⟩
  | succ rounds hypothesis =>
      have first := keeps 0 (Nat.succ_pos _) fun _ below => absurd below (Nat.not_lt_zero _)
      cases round_of_keeps durable filled distinct first.1 first.2 with
      | inl all =>
          obtain ⟨-, code, applied⟩ := all
          simp only [retry, code, if_true]
          exact Or.inl ⟨trivial, applied⟩
      | inr nothing =>
          obtain ⟨errno, refusal, result⟩ := nothing
          have failed : ¬ (errno.code : Int) = 0 := by simpa using errno.isError
          simp only [retry, result, if_neg failed]
          apply hypothesis
          intro round below earlierRefused
          apply keeps (round + 1) (Nat.succ_lt_succ below)
          intro earlier small
          cases earlier with
          | zero => simp [refusal]
          | succ earlier => exact earlierRefused earlier (Nat.lt_of_succ_lt_succ small)

theorem executeTask_of_keeps (patterns : Nat → Pattern)
    (keeps : ∀ round, Reaches patterns queries.length round →
      (patterns round).Keeps queries.length ∧ ¬ (patterns round).LeavesOpen queries.length) :
    TellsTruth queries durable (executeTask patterns queries (closed durable)) := by
  apply tellsTruth_of_or durable filled
  have first := keeps 0 ⟨Nat.zero_le _, fun positive => absurd positive (Nat.lt_irrefl 0),
    fun _ below => absurd below (Nat.not_lt_zero _)⟩
  cases round_of_keeps durable filled distinct first.1 first.2 with
  | inl all =>
      obtain ⟨-, code, applied⟩ := all
      rw [executeTask]
      simp only [code, if_true]
      exact Or.inl ⟨trivial, applied⟩
  | inr nothing =>
      obtain ⟨errno, refusal, result⟩ := nothing
      have failed : ¬ (errno.code : Int) = 0 := by simpa using errno.isError
      rw [executeTask, result]
      simp only [if_neg failed]
      split_ifs with deadlock
      · apply retry_of_keeps durable filled distinct
        intro round below earlierRefused
        apply keeps (round + 1)
        refine ⟨below, fun _ => ?_, fun earlier small => ?_⟩
        · rw [refusal, Option.map_some, Int.ofNat_inj.1 deadlock]
        · cases earlier with
          | zero => simp [refusal]
          | succ earlier => exact earlierRefused earlier (Nat.lt_of_succ_lt_succ small)
      · exact Or.inr ⟨rfl, rfl⟩

end Task

end Execute

/-! ## Which statement it is -/

/-- A transaction's elements are told apart by their positions, equal ones too. -/
theorem zipIdx_nodup {Statement : Type*} (queries : List Statement) : queries.zipIdx.Nodup := by
  apply List.Nodup.of_map Prod.snd
  rw [List.zipIdx_map_snd]
  exact List.nodup_range'

/-- For a transaction exactly, and for a task over the rounds it comes to. -/
theorem transaction_exact {Statement : Type*} (queries : List Statement)
    (filled : queries ≠ []) (durable : List (Statement × Nat)) :
    (∀ pattern, AllOrNothing queries.zipIdx durable
        (executeTransaction pattern queries.zipIdx (closed durable)) ↔
      pattern.Keeps queries.length) ∧
    ∀ patterns, (∀ round, Reaches patterns queries.length round →
        (patterns round).Keeps queries.length ∧ ¬ (patterns round).LeavesOpen queries.length) →
      TellsTruth queries.zipIdx durable (executeTask patterns queries.zipIdx (closed durable)) := by
  have filledIdx : queries.zipIdx ≠ [] := by simpa using filled
  have distinct := zipIdx_nodup queries
  have count : queries.zipIdx.length = queries.length := List.length_zipIdx
  rw [← count]
  exact ⟨allOrNothing_iff_keeps durable filledIdx distinct,
    executeTask_of_keeps durable filledIdx distinct⟩

theorem lockDeadlock_ne_zero : ER_LOCK_DEADLOCK ≠ 0 := by decide

/-- `CR_SERVER_LOST`. -/
def serverLost : LossErrno := ⟨CR_SERVER_LOST, rfl⟩

/-- `ER_LOCK_DEADLOCK`. -/
def lockDeadlock : OrdinaryErrno := ⟨ER_LOCK_DEADLOCK, lockDeadlock_ne_zero, rfl⟩

/-- Nothing goes wrong. -/
def smooth : Pattern := ⟨.answered, fun _ => .answered, .answered⟩

/-- The first statement meets a deadlock. -/
def deadlocked : Pattern := ⟨.answered, fun _ => .refused lockDeadlock true, .answered⟩

theorem transaction_exact_two :
    AllOrNothing (["a", "b"].zipIdx) []
        (executeTransaction smooth (["a", "b"].zipIdx) (closed [])) ∧
      TellsTruth (["a", "b"].zipIdx) []
        (executeTask (fun round => if round = 0 then deadlocked else smooth)
          (["a", "b"].zipIdx) (closed [])) := by
  have exact := transaction_exact ["a", "b"] (by simp) []
  have smoothKeeps : smooth.Keeps 2 :=
    Or.inl ⟨rfl, Or.inr (Or.inl ⟨fun _ _ => rfl, trivial⟩)⟩
  refine ⟨(exact.1 smooth).2 smoothKeeps, exact.2 _ fun round _ => ?_⟩
  by_cases first : round = 0
  · rw [if_pos first]
    refine ⟨Or.inl ⟨rfl, Or.inl ⟨0, by decide, by simp, trivial⟩⟩, fun open_ => ?_⟩
    obtain ⟨errno, finishes⟩ := open_.2.2
    cases finishes
  · rw [if_neg first]
    refine ⟨smoothKeeps, fun open_ => ?_⟩
    obtain ⟨errno, finishes⟩ := open_.2.2
    cases finishes

/-- The connection is lost over the second statement, before it has an effect. -/
def lostInside : Pattern where
  beginTransaction := .answered
  query
    | 1 => .lost serverLost false .answered
    | _ => .answered
  finish := .answered

/-- The first statement is gone, the second is applied, and the promise says that both are. -/
theorem lostInside_loses_first :
    executeTransaction lostInside (["a", "b"].zipIdx) (closed []) = (0, closed [("b", 1)]) ∧
      executeTask (fun _ => lostInside) (["a", "b"].zipIdx) (closed []) =
        (true, closed [("b", 1)]) ∧
      ¬ AllOrNothing (["a", "b"].zipIdx) []
        (executeTransaction lostInside (["a", "b"].zipIdx) (closed [])) := by
  refine ⟨rfl, rfl, ?_⟩
  have result : executeTransaction lostInside (["a", "b"].zipIdx) (closed []) =
      (0, closed [("b", 1)]) := rfl
  rw [result]
  simp [AllOrNothing]

end RealmServer.Database
