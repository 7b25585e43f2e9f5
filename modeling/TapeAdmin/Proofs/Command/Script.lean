import Mathlib.Data.List.Forall2
import TapeAdmin.Command.Script
import TapeAdmin.Proofs.Host.Replay

/-!
# What scripted runners answer

A script answers a command by the first of its rules that is for the text of the command and has a
use left; only this rule is used. So over a run the rules lose nothing but uses: a rule that has
none left stays silent, and a script without limits answers each command as if it were the first.
-/

namespace TapeAdmin

namespace ScriptRule

variable {text : String} {rule picked : ScriptRule} {rules rest : List ScriptRule}

/-- A rule is for its own words, and for what continues them behind a space. -/
inductive IsFor (rule : ScriptRule) : (text : String) → Prop where
  | words : IsFor rule rule.words
  | continued (behind : String) : IsFor rule (rule.words ++ " " ++ behind)

/-- A rule applies to a text that it is for, as long as it has a use left. -/
structure Applies (rule : ScriptRule) (text : String) : Prop where
  has_use : rule.uses ≠ some 0
  is_for : rule.IsFor text

theorem answers_iff : rule.answers text = true ↔ rule.IsFor text := by
  rw [answers]
  constructor
  · intro answered
    split at answered
    · next whole =>
        have text_eq : text = rule.words := by
          rw [← String.toList_inj, Text.eq_append_of_afterWord? whole, List.append_nil]
        exact text_eq ▸ .words
    · next char behind continued =>
        have is_space : char = ' ' := by simpa using answered
        have text_eq : text = rule.words ++ " " ++ String.ofList behind := by
          rw [← String.toList_inj, Text.eq_append_of_afterWord? continued, is_space]
          simp
        exact text_eq ▸ .continued _
    · cases answered
  · rintro (_ | behind)
    · have whole := Text.afterWord?_append rule.words.toList []
      rw [List.append_nil] at whole
      rw [whole]
    · have continued := Text.afterWord?_append rule.words.toList (' ' :: behind.toList)
      have toList_eq : (rule.words ++ " " ++ behind).toList =
          rule.words.toList ++ ' ' :: behind.toList := by
        simp
      rw [toList_eq, continued]
      rfl

theorem applies_iff : (rule.isAvailable && rule.answers text) = true ↔ rule.Applies text := by
  rw [Bool.and_eq_true, answers_iff, isAvailable, bne_iff_ne]
  exact ⟨fun ⟨has_use, is_for⟩ => ⟨has_use, is_for⟩, fun ⟨has_use, is_for⟩ => ⟨has_use, is_for⟩⟩

/-- The first rule that applies is picked, and no other rule is used. -/
inductive Picks (text : String) : List ScriptRule → ScriptRule → List ScriptRule → Prop where
  | first {before after : List ScriptRule} {picked : ScriptRule}
      (none_before : ∀ rule ∈ before, ¬rule.Applies text) (applies : picked.Applies text) :
      Picks text (before ++ picked :: after) picked (before ++ picked.used :: after)

theorem picks_of_pick? (found : pick? text rules = some (picked, rest)) :
    Picks text rules picked rest := by
  induction rules generalizing rest with
  | nil => cases found
  | cons rule rules ih =>
      rw [pick?] at found
      by_cases applies : rule.Applies text
      · rw [if_pos (applies_iff.mpr applies)] at found
        cases found
        exact .first (List.forall_mem_nil _) applies
      · rw [if_neg (applies_iff.not.mpr applies)] at found
        rcases Option.map_eq_some_iff.mp found with ⟨⟨other, others_rest⟩, later, pair_eq⟩
        cases pair_eq
        cases ih later with
        | @first before after _ none_before picked_applies =>
            have none_earlier : ∀ earlier ∈ rule :: before, ¬earlier.Applies text :=
              List.forall_mem_cons.mpr ⟨applies, none_before⟩
            exact .first none_earlier picked_applies

theorem pick?_eq_none_iff : pick? text rules = none ↔ ∀ rule ∈ rules, ¬rule.Applies text := by
  induction rules with
  | nil => simp [pick?]
  | cons rule rules ih =>
      rw [List.forall_mem_cons, ← ih, pick?, ← applies_iff]
      cases rule.isAvailable && rule.answers text <;> simp

/-- What may be left of a rule: all of it but for uses, of which none is gained. -/
inductive LeftOver (rule : ScriptRule) : ScriptRule → Prop where
  | unlimited (no_limit : rule.uses = none) : LeftOver rule rule
  | limited {limit left : Nat} (has_limit : rule.uses = some limit) (fewer : left ≤ limit) :
      LeftOver rule { rule with uses := some left }

theorem LeftOver.refl (rule : ScriptRule) : rule.LeftOver rule := by
  rcases rule with ⟨words, output, _ | limit, response⟩
  · exact .unlimited rfl
  · exact .limited rfl (Nat.le_refl limit)

theorem LeftOver.trans {first second third : ScriptRule} (earlier : first.LeftOver second)
    (later : second.LeftOver third) : first.LeftOver third := by
  cases earlier with
  | unlimited _ => exact later
  | limited has_limit fewer =>
      cases later with
      | unlimited no_limit => cases no_limit
      | limited same fewer_still =>
          cases same
          exact .limited has_limit (Nat.le_trans fewer_still fewer)

theorem leftOver_used (rule : ScriptRule) : rule.LeftOver rule.used := by
  rcases rule with ⟨words, output, _ | limit, response⟩
  · exact .unlimited rfl
  · exact .limited rfl (Nat.sub_le limit 1)

/-- Nothing but the rule itself is left of a rule without a limit. -/
theorem LeftOver.eq_of_unlimited {left : ScriptRule} (leftOver : rule.LeftOver left)
    (no_limit : rule.uses = none) : rule = left := by
  cases leftOver with
  | unlimited _ => rfl
  | limited has_limit _ => simp [no_limit] at has_limit

theorem forall₂_leftOver_trans {first second third : List ScriptRule}
    (earlier : List.Forall₂ LeftOver first second) (later : List.Forall₂ LeftOver second third) :
    List.Forall₂ LeftOver first third := by
  induction earlier generalizing third with
  | nil => exact later
  | cons head tail ih =>
      cases later with
      | cons later_head later_tail => exact .cons (head.trans later_head) (ih later_tail)

/-- A rule without a use left does not apply to anything, whatever is left of it. -/
theorem LeftOver.not_applies {left : ScriptRule} (leftOver : rule.LeftOver left)
    (spent : rule.uses = some 0) (text : String) : ¬left.Applies text := by
  intro applies
  cases leftOver with
  | unlimited no_limit => simp [spent] at no_limit
  | limited has_limit fewer =>
      rw [spent, Option.some.injEq] at has_limit
      exact applies.has_use (by rw [← has_limit, Nat.le_zero] at fewer; rw [fewer])

theorem Picks.leftOver (picks : Picks text rules picked rest) :
    List.Forall₂ LeftOver rules rest := by
  cases picks with
  | @first before after picked _ _ =>
      have before_kept : List.Forall₂ LeftOver before before :=
        List.forall₂_same.mpr fun rule _ => .refl rule
      have after_kept : List.Forall₂ LeftOver after after :=
        List.forall₂_same.mpr fun rule _ => .refl rule
      exact List.rel_append before_kept (.cons picked.leftOver_used after_kept)

end ScriptRule

namespace Script

variable {script : Script}

/-- How a script answers a command of a program, and the script afterwards. -/
inductive Answers (script : Script) (program text : String) : Reply → Script → Prop where
  | missing (is_missing : program ∈ script.missing) :
      Answers script program text { output := .failure SystemError.notFound.message } script
  | rule {picked : ScriptRule} {rest : List ScriptRule} (present : program ∉ script.missing)
      (picks : ScriptRule.Picks text script.rules picked rest) :
      Answers script program text { output := picked.output, response := picked.response }
        { script with rules := rest }
  | fallback (present : program ∉ script.missing)
      (none_applies : ∀ rule ∈ script.rules, ¬rule.Applies text) :
      Answers script program text { output := script.fallback } script

theorem answers_runner (view : CommandLine → String) (script : Script) (execution : Execution) :
    let (reply, after) := (Script.runner view).answer script execution
    script.Answers execution.command.program (view execution.command) reply after := by
  dsimp only [runner]
  split
  · next is_missing => exact .missing (by simpa using is_missing)
  · next present =>
      replace present : execution.command.program ∉ script.missing := by simpa using present
      split
      · next found => exact .rule present (ScriptRule.picks_of_pick? found)
      · next none_found => exact .fallback present (ScriptRule.pick?_eq_none_iff.mp none_found)

/-- What may be left of a script: its rules in their order, but for uses. -/
structure LeftOver (script after : Script) : Prop where
  rules : List.Forall₂ ScriptRule.LeftOver script.rules after.rules
  fallback : after.fallback = script.fallback
  missing : after.missing = script.missing

theorem LeftOver.refl (script : Script) : script.LeftOver script where
  rules := List.forall₂_same.mpr fun rule _ => .refl rule
  fallback := rfl
  missing := rfl

theorem LeftOver.trans {first second third : Script} (earlier : first.LeftOver second)
    (later : second.LeftOver third) : first.LeftOver third where
  rules := ScriptRule.forall₂_leftOver_trans earlier.rules later.rules
  fallback := later.fallback.trans earlier.fallback
  missing := later.missing.trans earlier.missing

theorem Answers.leftOver {program text : String} {reply : Reply} {after : Script}
    (answers : script.Answers program text reply after) : script.LeftOver after := by
  cases answers with
  | missing _ => exact .refl script
  | fallback _ _ => exact .refl script
  | rule _ picks => exact ⟨picks.leftOver, rfl, rfl⟩

/-- Over a run the rules of a script lose nothing but uses. -/
theorem leftOver_replay (view : CommandLine → String) (script : Script)
    (executions : List Execution) :
    script.LeftOver ((Script.runner view).replay script executions).2 := by
  induction executions generalizing script with
  | nil => exact .refl script
  | cons execution executions ih =>
      exact (answers_runner view script execution).leftOver.trans (ih _)

/-- From when its uses are over, a rule applies to nothing for the rest of a run. -/
theorem not_applies_of_spent (view : CommandLine → String) (executions : List Execution)
    {index : Nat} {rule left : ScriptRule} (rule_at : script.rules[index]? = some rule)
    (spent : rule.uses = some 0)
    (left_at : ((Script.runner view).replay script executions).2.rules[index]? = some left)
    (text : String) : ¬left.Applies text := by
  rcases List.getElem?_eq_some_iff.mp rule_at with ⟨rule_lt, rfl⟩
  rcases List.getElem?_eq_some_iff.mp left_at with ⟨left_lt, rfl⟩
  exact ((leftOver_replay view script executions).rules.get rule_lt left_lt).not_applies spent text

/-- A script without limits stays as it is. -/
theorem LeftOver.eq_of_unlimited {after : Script} (leftOver : script.LeftOver after)
    (no_limits : ∀ rule ∈ script.rules, rule.uses = none) : after = script := by
  rcases script with ⟨rules, fallback, missing⟩
  rcases after with ⟨rules_after, _, _⟩
  rcases leftOver with ⟨left, rfl, rfl⟩
  have same : List.Forall₂ Eq rules rules_after :=
    ((List.forall₂_and_left _ _).mpr ⟨no_limits, left⟩).imp fun _ _ ⟨no_limit, rule_left⟩ =>
      rule_left.eq_of_unlimited no_limit
  rw [List.forall₂_eq_eq_eq] at same
  rw [same]

/-- Without limits, each command of a run is answered as if it were the first. -/
theorem replay_of_unlimited (view : CommandLine → String)
    (no_limits : ∀ rule ∈ script.rules, rule.uses = none) (executions : List Execution) :
    (Script.runner view).replay script executions =
      (executions.map fun execution => ((Script.runner view).answer script execution).1.output,
        script) := by
  induction executions with
  | nil => rfl
  | cons execution executions ih =>
      have same := (answers_runner view script execution).leftOver.eq_of_unlimited no_limits
      rw [Runner.replay, same, ih]
      rfl

end Script

end TapeAdmin
