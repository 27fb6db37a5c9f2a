import WorkflowScript.Proofs.Shell.Arithmetic
import WorkflowScript.Proofs.Shell.Execution
import WorkflowScript.Shell.Parameter

namespace WorkflowScript.Shell

namespace Arithmetic

def Expr.AllFit : Expr → Prop
  | .number value => Fits value
  | .place _ => True
  | .unary _ operand => operand.AllFit
  | .binary _ left right _ => left.AllFit ∧ right.AllFit
  | .conditional condition yes no => condition.AllFit ∧ yes.AllFit ∧ no.AllFit
  | .assign _ _ value _ => value.AllFit
  | .change _ _ _ => True
  | .failing before _ => before.AllFit

def AllFit (read : List Placed → Parsed) : Prop :=
  ∀ tokens expr rest, read tokens = .ok (expr, rest) → expr.AllFit

section Reading

variable {operators : List String} {operand : List Placed → Parsed} {n : Nat}

theorem allFit_levelFrom (h : AllFit operand) {left : Expr} (hleft : left.AllFit) :
    AllFit (levelFrom operators operand n left) := by
  intro tokens expr rest hlevel
  fun_induction levelFrom operators operand n left tokens with
  | case1 n left mark text tokens hmark ih =>
    obtain ⟨⟨right, more⟩, hright, hfrom⟩ := Outcome.bind_eq_ok_iff.mp hlevel
    exact ih right more ⟨hleft, h _ _ _ hright⟩ hfrom
  | case2 => cases hlevel; exact hleft
  | case3 => cases hlevel; exact hleft

theorem allFit_level (h : AllFit operand) : AllFit (level operators operand) := by
  intro tokens expr rest hlevel
  obtain ⟨⟨left, more⟩, hleft, hfrom⟩ := Outcome.bind_eq_ok_iff.mp hlevel
  exact allFit_levelFrom h (h _ _ _ hleft) _ _ _ hfrom

theorem allFit_levels (levels : List (List String)) (h : AllFit operand) :
    AllFit (levels.foldr (fun operators operand => level operators operand) operand) := by
  induction levels with
  | nil => exact h
  | cons operators levels ih => exact allFit_level ih

structure ReadsFitting (n : Nat) : Prop where
  comma : AllFit (comma n)
  assignment : AllFit (assignment n)
  conditional : AllFit (conditional n)
  power : AllFit (power n)
  unary : AllFit (unary n)

namespace ReadsFitting

theorem assignment_succ (h : ReadsFitting n) : AllFit (Arithmetic.assignment (n + 1)) := by
  intro tokens expr rest hread
  unfold Arithmetic.assignment at hread
  split at hread
  · split at hread
    · obtain ⟨⟨value, after⟩, hvalue, hassign⟩ := Outcome.bind_eq_ok_iff.mp hread
      cases hassign
      have hfit := h.assignment _ _ _ hvalue
      exact hfit
    · exact h.conditional _ _ _ hread
  · exact h.conditional _ _ _ hread

theorem conditional_succ (h : ReadsFitting n) : AllFit (Arithmetic.conditional (n + 1)) := by
  intro tokens expr rest hread
  unfold Arithmetic.conditional at hread
  obtain ⟨⟨condition, more⟩, hcondition, hread⟩ := Outcome.bind_eq_ok_iff.mp hread
  have hfit := allFit_levels levels h.power _ _ _ hcondition
  dsimp only at hread
  split at hread
  · split at hread
    · cases hread
    · obtain ⟨⟨yes, later⟩, hyes, hread⟩ := Outcome.bind_eq_ok_iff.mp hread
      dsimp only at hread
      split at hread
      · split at hread
        · cases hread
        · obtain ⟨⟨no, final⟩, hno, hread⟩ := Outcome.bind_eq_ok_iff.mp hread
          cases hread
          exact ⟨hfit, h.comma _ _ _ hyes, h.assignment _ _ _ hno⟩
      · cases hread
  · cases hread
    exact hfit

theorem power_succ (h : ReadsFitting n) : AllFit (Arithmetic.power (n + 1)) := by
  intro tokens expr rest hread
  unfold Arithmetic.power at hread
  obtain ⟨⟨base, more⟩, hbase, hread⟩ := Outcome.bind_eq_ok_iff.mp hread
  dsimp only at hread
  split at hread
  · obtain ⟨⟨exponent, after⟩, hexponent, hread⟩ := Outcome.bind_eq_ok_iff.mp hread
    cases hread
    exact ⟨h.unary _ _ _ hbase, h.power _ _ _ hexponent⟩
  · cases hread
    exact h.unary _ _ _ hbase

theorem unary_succ (h : ReadsFitting n) : AllFit (Arithmetic.unary (n + 1)) := by
  intro tokens expr rest hread
  unfold Arithmetic.unary at hread
  split at hread
  · cases hread; trivial
  · cases hread; trivial
  · cases hread; trivial
  · cases hread; trivial
  · cases hread; trivial
  · split at hread
    · next value hnumber =>
      cases hread
      exact number_fits hnumber
    · cases hread
  · obtain ⟨⟨inner, more⟩, hinner, hread⟩ := Outcome.bind_eq_ok_iff.mp hread
    dsimp only at hread
    split at hread
    · cases hread
      exact h.comma _ _ _ hinner
    · cases hread
  · split at hread
    · obtain ⟨⟨operand, more⟩, hoperand, hread⟩ := Outcome.bind_eq_ok_iff.mp hread
      cases hread
      have hfit := h.unary _ _ _ hoperand
      exact hfit
    · cases hread
  · cases hread

end ReadsFitting

theorem readsFitting (n : Nat) : ReadsFitting n := by
  induction n with
  | zero => exact ⟨nofun, nofun, nofun, nofun, nofun⟩
  | succ n ih =>
    exact ⟨allFit_level ih.assignment, ih.assignment_succ, ih.conditional_succ, ih.power_succ, ih.unary_succ⟩

theorem parse_allFit {text : Chars} {expr : Expr} (h : parse text = .ok expr) : expr.AllFit := by
  obtain ⟨tokens, -, h⟩ := Outcome.bind_eq_ok_iff.mp h
  split at h
  · cases h
    exact ⟨by decide, by decide⟩
  · obtain ⟨⟨found, rest⟩, hfound, h⟩ := Outcome.bind_eq_ok_iff.mp h
    have hfit := (readsFitting _).comma _ _ _ hfound
    dsimp only at h
    split at h <;> cases h <;> exact hfit

end Reading

end Arithmetic

namespace Execution

variable {α β : Type} {P : α → Prop} {s left : State}

theorem Gives.exists_of_bind {action : Execution α} {next : α → Execution β} {value : β}
    (h : Gives (action >>= next) s value left) :
    ∃ first mid, Gives action s first mid ∧ Gives (next first) mid value left := by
  rw [Gives, ExceptT.run_bind, StateT.run_bind] at h
  cases hrun : StateT.run (ExceptT.run action) s with
  | mk result mid =>
    rw [hrun] at h
    cases result with
    | error signal => cases h
    | ok first => exact ⟨first, mid, hrun, h⟩

theorem Gives.eq_of_pure {value found : α} (h : Gives (Pure.pure value) s found left) : found = value := by
  cases h
  rfl

def Yields (P : α → Prop) (action : Execution α) : Prop := ∀ s value left, Gives action s value left → P value

namespace Evaluation

open Arithmetic (Fits)

variable {Q : β → Prop}

def Yields (P : α → Prop) (action : Evaluation α) : Prop :=
  ∀ s found left, Gives (ExceptT.run action) s found left → ∀ value, found = .ok value → P value

namespace Yields

theorem pure {value : α} (h : P value) : Yields P (Pure.pure value) := by
  intro s found left hgives other hother
  cases hgives
  cases hother
  exact h

theorem bind {action : Evaluation α} {next : α → Evaluation β} (h : Yields P action)
    (hnext : ∀ value, P value → Yields Q (next value)) : Yields Q (action >>= next) := by
  intro s found left hgives value hvalue
  rw [ExceptT.run_bind] at hgives
  obtain ⟨result, mid, hresult, hlater⟩ := hgives.exists_of_bind
  cases result with
  | error fault =>
    cases hlater.eq_of_pure
    cases hvalue
  | ok first => exact hnext first (h s _ mid hresult first rfl) mid found left hlater value hvalue

theorem after {action : Evaluation α} {next : α → Evaluation β} (hnext : ∀ value, Yields Q (next value)) :
    Yields Q (action >>= next) :=
  bind (P := fun _ => True) (fun _ _ _ _ _ _ => trivial) fun value _ => hnext value

theorem throw (fault : Arithmetic.Fault) : Yields P (MonadExcept.throw fault) := by
  intro s found left hgives value hvalue
  cases hgives
  cases hvalue

theorem adapt {action : Evaluation α} (change : Arithmetic.Fault → Arithmetic.Fault) (h : Yields P action) :
    Yields P (ExceptT.adapt change action) := by
  intro s found left hgives value hvalue
  obtain ⟨result, mid, hresult, hlater⟩ := Gives.exists_of_bind hgives
  cases hlater.eq_of_pure
  cases result with
  | error fault => cases hvalue
  | ok first => exact h s _ mid hresult value hvalue

theorem ite {c : Prop} [Decidable c] {yes no : Evaluation α} (hyes : Yields P yes) (hno : Yields P no) :
    Yields P (if c then yes else no) := by
  split
  · exact hyes
  · exact hno

theorem stop (signal : Signal) : Yields P (liftM (MonadExcept.throw signal : Execution α)) := by
  intro s found left hgives
  cases hgives

end Yields

theorem lift_fits {access : Arithmetic.Access Evaluation} {result : Except Arithmetic.Fault Int}
    (hresult : ∀ value, result = .ok value → Fits value) (hfail : ∀ fault, Yields Fits (access.fail fault)) :
    Yields Fits (Arithmetic.lift access result) := by
  cases result with
  | error fault => exact hfail fault
  | ok value => exact .pure (hresult value rfl)

theorem eval_fits {access : Arithmetic.Access Evaluation} {expr : Arithmetic.Expr} (hexpr : expr.AllFit)
    (hget : ∀ place, Yields Fits (access.get place)) (hfail : ∀ fault, Yields Fits (access.fail fault)) :
    Yields Fits (Arithmetic.eval access expr) := by
  fun_induction Arithmetic.eval access expr with
  | case1 value => exact .pure hexpr
  | case2 place => exact hget place
  | case3 operator operand ih =>
    exact .bind (ih hexpr) fun value hvalue => .pure (Arithmetic.applyUnary_fits hvalue operator)
  | case4 left right rest ihleft ihright =>
    refine .after fun value => .ite (.pure (Arithmetic.fits_truth false)) ?_
    exact .after fun other => .pure (Arithmetic.fits_truth _)
  | case5 left right rest ihleft ihright =>
    refine .after fun value => .ite (.pure (Arithmetic.fits_truth true)) ?_
    exact .after fun other => .pure (Arithmetic.fits_truth _)
  | case6 operator left right rest hand hor ihleft ihright =>
    exact .bind (ihleft hexpr.1) fun a ha => .bind (ihright hexpr.2) fun b hb =>
      lift_fits (fun value hvalue => Arithmetic.applyBinary_fits ha hb hvalue) hfail
  | case7 condition yes no ihcondition ihyes ihno =>
    exact .after fun value => .ite (ihyes hexpr.2.1) (ihno hexpr.2.2)
  | case8 operator place value rest ih =>
    have hset {result : Int} (hresult : Fits result) :
        Yields Fits (do access.set place result; return result : Evaluation Int) :=
      .after fun _ => .pure hresult
    refine .bind (ih hexpr) fun new hnew => .ite (hset hnew) ?_
    refine .bind (hget place) fun old hold => .bind (lift_fits ?_ hfail) fun result hresult => hset hresult
    exact fun result hresult => Arithmetic.applyBinary_fits hold hnew hresult
  | case9 step isAfter place =>
    refine .bind (hget place) fun old hold => .after fun _ => .pure ?_
    split
    · exact Arithmetic.fits_wrap _
    · exact hold
  | case10 before fault ih => exact .after fun _ => hfail fault

theorem evaluateFrom_fits (n : Nat) (text : Chars) : Yields Fits (evaluateFrom n text) := by
  induction n generalizing text with
  | zero => exact .throw _
  | succ n ih =>
    unfold evaluateFrom
    refine .adapt _ ?_
    have hparse : Yields Arithmetic.Expr.AllFit
        (liftM (Arithmetic.parse text : Except Arithmetic.Fault Arithmetic.Expr)) := by
      cases hparsed : Arithmetic.parse text with
      | error fault => exact .throw fault
      | ok expr => exact .pure (Arithmetic.parse_allFit hparsed)
    refine .bind hparse fun expr hexpr => ?_
    refine eval_fits hexpr (fun place => ?_) .throw
    have hunset : Yields Fits (do
        if (← hasOption "nounset") then
          (complainHere (place.name ++ ": unbound variable".toList) : Execution Unit)
          (MonadExcept.throw (.exit 1) : Execution Int)
        else return 0 : Evaluation Int) :=
      .after fun refuses => .ite (.after fun _ => .stop _) (.pure (Arithmetic.fits_truth false))
    refine .ite (.after fun special => ?_) (.after fun special => ?_)
    all_goals
      cases special with
      | some text => exact .after (Option.forall.mpr ⟨hunset, ih⟩)
      | none =>
        refine .after fun slot => ?_
        cases slot with
        | some slot => exact .after fun v => .after (Option.forall.mpr ⟨hunset, ih⟩)
        | none => exact .after fun _ => .after (Option.forall.mpr ⟨hunset, ih⟩)

end Evaluation

theorem evaluate_fits (text : Chars) : Yields Arithmetic.Fits (evaluate text) := by
  intro s value left hgives
  obtain ⟨found, mid, hfound, hlater⟩ := hgives.exists_of_bind
  cases found with
  | ok number =>
    cases hlater.eq_of_pure
    exact Evaluation.evaluateFrom_fits _ text s _ mid hfound _ rfl
  | error fault =>
    obtain ⟨-, after, -, hgiven⟩ := hlater.exists_of_bind
    cases hgiven

end Execution

end WorkflowScript.Shell
