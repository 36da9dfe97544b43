import SigmaMedia.Base.Exec

/-!
# Runs of a Panicking Machine

A machine is a step function `σ → ι → Exec (σ × ω)`: an input taken in a
state either panics or gives the next state and an output. A run feeds a list
of inputs one after another.

The inputs of a step carry everything the step does not decide itself, so a
statement over all input lists is a statement over all interleavings and all
choices made outside the machine.

Conditions on a run come in two shapes. `Reachable` collects the states met by
runs whose every input was admitted where it was taken, and
`Reachable.invariant` is the induction rule for it. `Along` says the same of
one given list, so that it can stand on one side of an equivalence:
`feed_returns_iff` turns an exact condition for one step to return into an
exact condition for a whole run to return.

## Main definitions

* `feed`: Feeding a list of inputs, collecting the outputs.
* `Along`: Every input is admitted in the state it is taken in.
* `Throughout`: A property holds in every state a list of inputs leads
  through.
* `Reachable`: The states met by admitted runs.
* `observed`: What is seen of a run, input by input.
* `Shares`: A part of a machine that runs on its own.

## Theorems

* `feed_append`: A run of two lists is a run of each in turn, also as
  `feed_append_of_ok` and `feed_append_eq_ok`.
* `feed_returns_iff`: An exact step condition is an exact run condition.
* `along_congr`: Conditions that agree on steps agree on runs.
* `along_append`, `along_and`: A run of two lists is admitted if each is, and
  two conditions are one.
* `feed_along`: What every admitted step keeps, an admitted run keeps.
* `throughout_iff_along`: The same for a property of states.
* `feed_history`, `feed_history_along`: What a step, or an admitted step, keeps
  of the inputs before it holds along every run.
* `feed_past`, `feed_outputs`: What a step keeps of the inputs, or of the
  outputs, so far holds after every run.
* `outputs_of_along`: What an admitted step says of its output holds of every
  output of an admitted run.
* `observed_append`, `observed_split`: What is seen of the parts of a run.
* `forall_observed_iff_along`: A property of everything seen is a condition on
  every input.
* `feed_shares`, `observed_sublist`: What is a run of the part in every step is
  one in every run, and what it sees of the inputs keeps their order.
* `Reachable.invariant`: What every admitted step preserves holds of every
  reachable state.
-/

namespace SigmaMedia

namespace Trace

open Exec

variable {σ ι ω : Type}

/-- Feed the inputs in order, stopping at the first panic. -/
def feed (step : σ → ι → Exec (σ × ω)) : σ → List ι → Exec (σ × List ω)
  | s, [] => .ok (s, [])
  | s, i :: is => do
      let (s₁, o) ← step s i
      let (s₂, os) ← feed step s₁ is
      return (s₂, o :: os)

/-- Every input of the list is admitted in the state it is taken in. -/
def Along (step : σ → ι → Exec (σ × ω)) (adm : σ → ι → Prop) : σ → List ι → Prop
  | _, [] => True
  | s, i :: is => adm s i ∧ ∀ s₁ o, step s i = .ok (s₁, o) → Along step adm s₁ is

/-- A property holds in every state the list leads through. -/
def Throughout (step : σ → ι → Exec (σ × ω)) (P : σ → Prop) : σ → List ι → Prop
  | s, [] => P s
  | s, i :: is => P s ∧ ∀ s₁ o, step s i = .ok (s₁, o) → Throughout step P s₁ is

/-- The states met from `s₀` by runs whose every input is admitted. -/
inductive Reachable (step : σ → ι → Exec (σ × ω)) (adm : σ → ι → Prop) (s₀ : σ) : σ → Prop
  | init : Reachable step adm s₀ s₀
  | next {s s₁ : σ} {i : ι} {o : ω} : Reachable step adm s₀ s → adm s i →
      step s i = .ok (s₁, o) → Reachable step adm s₀ s₁

theorem feed_cons_eq_ok {step : σ → ι → Exec (σ × ω)} {s t : σ} {i : ι} {is : List ι}
    {os : List ω} :
    feed step s (i :: is) = .ok (t, os) ↔
      ∃ s₁ o os', step s i = .ok (s₁, o) ∧ feed step s₁ is = .ok (t, os') ∧ os = o :: os' := by
  simp only [feed, bind_eq_ok, Prod.exists, pure_eq_ok, Except.ok.injEq, Prod.mk.injEq]
  constructor
  · intro h
    rcases h with ⟨s₁, o, hs, s₂, os', hf, rfl, rfl⟩
    exact ⟨s₁, o, os', hs, hf, rfl⟩
  · intro h
    rcases h with ⟨s₁, o, os', hs, hf, rfl⟩
    exact ⟨s₁, o, hs, t, os', hf, rfl, rfl⟩

/-- An exact condition for one step to return is an exact condition for a
    whole run to return, read along the run. -/
theorem feed_returns_iff {step : σ → ι → Exec (σ × ω)} {adm : σ → ι → Prop}
    (hstep : ∀ s i, Returns (step s i) ↔ adm s i) (s : σ) (is : List ι) :
    Returns (feed step s is) ↔ Along step adm s is := by
  -- Over the inputs, from any state.
  induction is generalizing s with
  | nil => exact ⟨fun _ => trivial, fun _ => returns_ok _⟩
  | cons i is ih =>
      simp only [feed, Along, returns_bind, Prod.exists, pure_eq_ok, returns_ok, and_true]
      constructor
      · intro h
        rcases h with ⟨s₁, o, hs, s₂, os, hf⟩
        refine ⟨(hstep s i).mp ⟨_, hs⟩, fun s₁' o' hs' => ?_⟩
        rw [hs] at hs'
        cases hs'
        exact (ih s₁).mp ⟨_, hf⟩
      · intro h
        rcases h with ⟨hadm, hrest⟩
        rcases (hstep s i).mpr hadm with ⟨⟨s₁, o⟩, hs⟩
        rcases (ih s₁).mpr (hrest s₁ o hs) with ⟨⟨s₂, os⟩, hf⟩
        exact ⟨s₁, o, hs, s₂, os, hf⟩

/-- Conditions that say the same of one step say the same of a run. -/
theorem along_congr {step : σ → ι → Exec (σ × ω)} {adm adm' : σ → ι → Prop}
    (h : ∀ s i, adm s i ↔ adm' s i) (s : σ) (is : List ι) :
    Along step adm s is ↔ Along step adm' s is := by
  induction is generalizing s with
  | nil => exact Iff.rfl
  | cons i is ih => simp only [Along, h, ih]

/-- A run of two lists is admitted if each is, where it is taken. -/
theorem along_append {step : σ → ι → Exec (σ × ω)} {adm : σ → ι → Prop} {s s₁ : σ}
    {is : List ι} {os : List ω} (h : feed step s is = .ok (s₁, os)) (js : List ι) :
    Along step adm s (is ++ js) ↔ Along step adm s is ∧ Along step adm s₁ js := by
  induction is generalizing s os with
  | nil =>
      cases h
      simp only [List.nil_append, Along, true_and]
  | cons i is ih =>
      rcases feed_cons_eq_ok.mp h with ⟨s₂, o, os', hone, hrest, rfl⟩
      -- The step has one result.
      have hnext : ∀ {Q : σ → Prop}, (∀ s₃ o₃, step s i = .ok (s₃, o₃) → Q s₃) ↔ Q s₂ := by
        intro Q
        refine ⟨fun h => h s₂ o hone, ?_⟩
        intro h s₃ o₃ hs₃
        rw [hone] at hs₃
        cases hs₃
        exact h
      simp only [List.cons_append, Along, hnext, ih hrest, and_assoc]

/-- What every admitted step keeps, an admitted run keeps. -/
theorem feed_along {step : σ → ι → Exec (σ × ω)} {adm : σ → ι → Prop} {Inv : σ → Prop}
    (hstep : ∀ s i s₁ o, Inv s → adm s i → step s i = .ok (s₁, o) → Inv s₁) {s t : σ}
    {is : List ι} {os : List ω} (hs : Inv s) (hadm : Along step adm s is)
    (h : feed step s is = .ok (t, os)) : Inv t := by
  induction is generalizing s os with
  | nil =>
      cases h
      exact hs
  | cons i is ih =>
      rcases feed_cons_eq_ok.mp h with ⟨s₁, o, os', hone, hrest, _⟩
      exact ih (hstep s i s₁ o hs hadm.1 hone) (hadm.2 s₁ o hone) hrest

theorem Throughout.head {step : σ → ι → Exec (σ × ω)} {P : σ → Prop} {s : σ} {is : List ι}
    (h : Throughout step P s is) : P s := by
  cases is with
  | nil => exact h
  | cons i is => exact h.1

theorem Throughout.last {step : σ → ι → Exec (σ × ω)} {P : σ → Prop} {s t : σ} {is : List ι}
    {os : List ω} (h : Throughout step P s is) (hrun : feed step s is = .ok (t, os)) : P t := by
  induction is generalizing s os with
  | nil =>
      cases hrun
      exact h
  | cons i is ih =>
      rcases feed_cons_eq_ok.mp hrun with ⟨s₁, o, os', hone, hrest, _⟩
      exact ih (h.2 s₁ o hone) hrest

/-- If a step keeps a property exactly when its input is admitted, a run that
    returns keeps it throughout exactly when every input is. What the step
    needs of the state besides may be an invariant. -/
theorem throughout_iff_along {step : σ → ι → Exec (σ × ω)} {adm : σ → ι → Prop}
    {P : σ → Prop} (Inv : σ → Prop) (hinv : ∀ s i s₁ o, Inv s → step s i = .ok (s₁, o) → Inv s₁)
    (hstep : ∀ s i s₁ o, Inv s → P s → step s i = .ok (s₁, o) → (P s₁ ↔ adm s i))
    {s : σ} {is : List ι} (hs : Inv s) (hP : P s) (hrun : Returns (feed step s is)) :
    Throughout step P s is ↔ Along step adm s is := by
  induction is generalizing s with
  | nil => exact ⟨fun _ => trivial, fun _ => hP⟩
  | cons i is ih =>
      rcases hrun with ⟨⟨t, os⟩, hfeed⟩
      rcases feed_cons_eq_ok.mp hfeed with ⟨s₁, o, os', hone, hrest, _⟩
      -- The step has one result, so both sides are about the same next state.
      have hnext : ∀ {Q : σ → Prop}, (∀ s₂ o₂, step s i = .ok (s₂, o₂) → Q s₂) ↔ Q s₁ := by
        intro Q
        refine ⟨fun h => h s₁ o hone, ?_⟩
        intro h s₂ o₂ hs₂
        rw [hone] at hs₂
        cases hs₂
        exact h
      have hadm := hstep s i s₁ o hs hP hone
      simp only [Throughout, Along, hnext, hP, true_and]
      constructor
      · intro h
        have hP₁ := h.head
        exact ⟨hadm.mp hP₁, (ih (hinv s i s₁ o hs hone) hP₁ ⟨_, hrest⟩).mp h⟩
      · intro h
        rcases h with ⟨ha, h⟩
        exact (ih (hinv s i s₁ o hs hone) (hadm.mpr ha) ⟨_, hrest⟩).mpr h

/-- A run of two lists is a run of the first and then of the second. -/
theorem feed_append {step : σ → ι → Exec (σ × ω)} {s s₁ : σ} {is : List ι} {os : List ω}
    (h : feed step s is = .ok (s₁, os)) (js : List ι) :
    feed step s (is ++ js)
      = (do
          let (t, os') ← feed step s₁ js
          return (t, os ++ os')) := by
  -- Over the inputs in front.
  induction is generalizing s os with
  | nil =>
      simp only [feed, Except.ok.injEq, Prod.mk.injEq] at h
      rcases h with ⟨rfl, rfl⟩
      simp only [List.nil_append]
      cases feed step s js with
      | error p => rfl
      | ok r => rfl
  | cons i is ih =>
      rcases feed_cons_eq_ok.mp h with ⟨s₂, o, os', hs, hf, rfl⟩
      simp only [List.cons_append, feed, hs, ok_bind, ih hf]
      cases feed step s₁ js with
      | error p => rfl
      | ok r => rfl

theorem feed_nil (step : σ → ι → Exec (σ × ω)) (s : σ) : feed step s [] = .ok (s, []) := rfl

theorem feed_cons {step : σ → ι → Exec (σ × ω)} {s s₁ t : σ} {i : ι} {is : List ι} {o : ω}
    {os : List ω} (hs : step s i = .ok (s₁, o)) (hf : feed step s₁ is = .ok (t, os)) :
    feed step s (i :: is) = .ok (t, o :: os) :=
  feed_cons_eq_ok.mpr ⟨s₁, o, os, hs, hf, rfl⟩

theorem feed_length {step : σ → ι → Exec (σ × ω)} {s t : σ} {is : List ι} {os : List ω}
    (h : feed step s is = .ok (t, os)) : is.length = os.length := by
  induction is generalizing s os with
  | nil =>
      cases h
      rfl
  | cons i is ih =>
      rcases feed_cons_eq_ok.mp h with ⟨s₁, o, os', _, hrest, rfl⟩
      rw [List.length_cons, List.length_cons, ih hrest]

theorem feed_append_of_ok {step : σ → ι → Exec (σ × ω)} {s s₁ t : σ} {is js : List ι}
    {os os' : List ω} (h : feed step s is = .ok (s₁, os)) (h' : feed step s₁ js = .ok (t, os')) :
    feed step s (is ++ js) = .ok (t, os ++ os') := by
  rw [feed_append h, h']
  rfl

/-- What comes out of a run behind a known first part. -/
theorem feed_append_eq_ok {step : σ → ι → Exec (σ × ω)} {s s₁ t : σ} {is js : List ι}
    {os outs : List ω} (h : feed step s is = .ok (s₁, os))
    (hrun : feed step s (is ++ js) = .ok (t, outs)) :
    ∃ os', feed step s₁ js = .ok (t, os') ∧ outs = os ++ os' := by
  rw [feed_append h, bind_eq_ok] at hrun
  rcases hrun with ⟨⟨t', os'⟩, hrest, hout⟩
  cases hout
  exact ⟨os', hrest, rfl⟩

/-- What a step keeps of everything taken so far holds of every prefix of a
    run, and so does what it says of the output. -/
theorem feed_history {step : σ → ι → Exec (σ × ω)} {s₀ : σ} (Inv : List ι → σ → Prop)
    (Out : List ι → ι → ω → Prop) (h0 : Inv [] s₀)
    (hstep : ∀ past s os i s₁ o, feed step s₀ past = .ok (s, os) → Inv past s →
      step s i = .ok (s₁, o) → Inv (past ++ [i]) s₁ ∧ Out past i o)
    {is : List ι} {t : σ} {os : List ω} (h : feed step s₀ is = .ok (t, os)) {k : Nat} {o : ω}
    (ho : os[k]? = some o) : ∃ i, is[k]? = some i ∧ Out (is.take k) i o := by
  -- The inputs already taken move from the list to the history one by one.
  have hrun : ∀ (is past : List ι) (s : σ) (before os : List ω) (k : Nat),
      feed step s₀ past = .ok (s, before) → Inv past s → feed step s is = .ok (t, os) →
      os[k]? = some o → ∃ i, is[k]? = some i ∧ Out (past ++ is.take k) i o := by
    intro is
    induction is with
    | nil =>
        intro past s before os k _ _ hfeed ho
        cases hfeed
        cases ho
    | cons j is ih =>
        intro past s before os k hpast hinv hfeed ho
        rcases feed_cons_eq_ok.mp hfeed with ⟨s₁, o₁, os', hone, hrest, rfl⟩
        rcases hstep past s before j s₁ o₁ hpast hinv hone with ⟨hinv₁, hout⟩
        rcases k with _ | k
        · cases ho
          refine ⟨j, rfl, ?_⟩
          rw [List.take_zero, List.append_nil]
          exact hout
        · have hpast₁ := feed_append_of_ok hpast (feed_cons hone (feed_nil step s₁))
          rcases ih (past ++ [j]) s₁ _ os' k hpast₁ hinv₁ hrest ho with ⟨i, hi, hlater⟩
          rw [List.append_assoc] at hlater
          exact ⟨i, hi, hlater⟩
  exact hrun is [] s₀ [] os k rfl h0 h ho

/-- A run of two lists has a run of the first. -/
theorem exists_feed_of_append {step : σ → ι → Exec (σ × ω)} {s t : σ} {is js : List ι}
    {os : List ω} (h : feed step s (is ++ js) = .ok (t, os)) :
    ∃ s₁ os₁, feed step s is = .ok (s₁, os₁) := by
  induction is generalizing s os with
  | nil => exact ⟨s, [], rfl⟩
  | cons i is ih =>
      rcases feed_cons_eq_ok.mp h with ⟨s₁, o, os', hone, hrest, _⟩
      rcases ih hrest with ⟨s₂, os₂, hfirst⟩
      exact ⟨s₂, o :: os₂, feed_cons hone hfirst⟩

/-- The same for admitted runs: the step may use that its input was. -/
theorem feed_history_along {step : σ → ι → Exec (σ × ω)} {adm : σ → ι → Prop} {s₀ : σ}
    (Inv : List ι → σ → Prop) (Out : List ι → ι → ω → Prop) (h0 : Inv [] s₀)
    (hstep : ∀ past s os i s₁ o, feed step s₀ past = .ok (s, os) → Inv past s → adm s i →
      step s i = .ok (s₁, o) → Inv (past ++ [i]) s₁ ∧ Out past i o)
    {is : List ι} {t : σ} {os : List ω} (hadm : Along step adm s₀ is)
    (h : feed step s₀ is = .ok (t, os)) {k : Nat} {o : ω} (ho : os[k]? = some o) :
    ∃ i, is[k]? = some i ∧ Out (is.take k) i o := by
  have hhistory := feed_history (fun past s => Along step adm s₀ past → Inv past s)
    (fun past i o => Along step adm s₀ (past ++ [i]) → Out past i o) (fun _ => h0) ?_ h ho
  · rcases hhistory with ⟨i, hi, hout⟩
    refine ⟨i, hi, hout ?_⟩
    -- What was taken up to here is the first part of an admitted run.
    have htake : is.take (k + 1) = is.take k ++ [i] := by
      rw [List.take_add_one, hi, Option.toList_some]
    have hsplit : is = (is.take k ++ [i]) ++ is.drop (k + 1) := by
      rw [← htake, List.take_append_drop]
    rw [hsplit] at hadm h
    rcases exists_feed_of_append h with ⟨s₁, os₁, hfirst⟩
    exact ((along_append hfirst _).mp hadm).1
  · intro past s os i s₁ o hpast hinv hone
    have hlast : Along step adm s₀ (past ++ [i]) → Along step adm s₀ past ∧ adm s i := by
      intro hadm
      rcases (along_append hpast [i]).mp hadm with ⟨hbefore, hlast⟩
      exact ⟨hbefore, hlast.1⟩
    refine ⟨?_, ?_⟩
    · intro hadm
      rcases hlast hadm with ⟨hbefore, hi⟩
      exact (hstep past s os i s₁ o hpast (hinv hbefore) hi hone).1
    · intro hadm
      rcases hlast hadm with ⟨hbefore, hi⟩
      exact (hstep past s os i s₁ o hpast (hinv hbefore) hi hone).2

/-- What a step keeps of everything taken so far holds after every run. -/
theorem feed_past {step : σ → ι → Exec (σ × ω)} {s₀ : σ} (Inv : List ι → σ → Prop)
    (h0 : Inv [] s₀)
    (hstep : ∀ past s os i s₁ o, feed step s₀ past = .ok (s, os) → Inv past s →
      step s i = .ok (s₁, o) → Inv (past ++ [i]) s₁)
    {is : List ι} {t : σ} {os : List ω} (h : feed step s₀ is = .ok (t, os)) : Inv is t := by
  -- Generalized over what was already fed, which is what the invariant speaks
  -- of.
  have hrun : ∀ (is past : List ι) (s : σ) (before os : List ω),
      feed step s₀ past = .ok (s, before) → Inv past s → feed step s is = .ok (t, os) →
      Inv (past ++ is) t := by
    intro is
    induction is with
    | nil =>
        intro past s before os _ hinv hfeed
        cases hfeed
        rwa [List.append_nil]
    | cons i is ih =>
        intro past s before os hpast hinv hfeed
        rcases feed_cons_eq_ok.mp hfeed with ⟨s₁, o, os', hone, hrest, rfl⟩
        have hpast₁ := feed_append_of_ok hpast (feed_cons hone (feed_nil step s₁))
        have hinv₁ := hstep past s before i s₁ o hpast hinv hone
        have hlater := ih (past ++ [i]) s₁ _ os' hpast₁ hinv₁ hrest
        rwa [List.append_assoc, List.singleton_append] at hlater
  exact hrun is [] s₀ [] os rfl h0 h

/-- What a step keeps of everything put out so far holds after every run. -/
theorem feed_outputs {step : σ → ι → Exec (σ × ω)} (Inv : List ω → σ → Prop)
    (hstep : ∀ past s i s₁ o, Inv past s → step s i = .ok (s₁, o) → Inv (past ++ [o]) s₁)
    {s t : σ} {is : List ι} {os : List ω} (hs : Inv [] s) (h : feed step s is = .ok (t, os)) :
    Inv os t := by
  -- The outputs already made move from the list to the past one by one.
  have hrun : ∀ (is : List ι) (past : List ω) (s : σ) (os : List ω), Inv past s →
      feed step s is = .ok (t, os) → Inv (past ++ os) t := by
    intro is
    induction is with
    | nil =>
        intro past s os hs h
        cases h
        rwa [List.append_nil]
    | cons i is ih =>
        intro past s os hs h
        rcases feed_cons_eq_ok.mp h with ⟨s₁, o, os', hone, hrest, rfl⟩
        have hlater := ih (past ++ [o]) s₁ os' (hstep past s i s₁ o hs hone) hrest
        rwa [List.append_assoc, List.singleton_append] at hlater
  exact hrun is [] s os hs h

/-- What an admitted step keeps of the state, and says of its output, holds of
    every output of an admitted run. -/
theorem outputs_of_along {step : σ → ι → Exec (σ × ω)} {adm : σ → ι → Prop} (Inv : σ → Prop)
    (Out : ω → Prop)
    (hstep : ∀ s i s₁ o, Inv s → adm s i → step s i = .ok (s₁, o) → Inv s₁ ∧ Out o)
    {s t : σ} {is : List ι} {os : List ω} (hs : Inv s) (hadm : Along step adm s is)
    (hrun : feed step s is = .ok (t, os)) : ∀ o ∈ os, Out o := by
  -- The invariant is carried along, and each step shows its output.
  induction is generalizing s os with
  | nil =>
      cases hrun
      intro o ho
      cases ho
  | cons i is ih =>
      rcases feed_cons_eq_ok.mp hrun with ⟨s₁, o₁, os', hone, hrest, rfl⟩
      rcases hadm with ⟨ha, hlater⟩
      rcases hstep s i s₁ o₁ hs ha hone with ⟨hs₁, hout⟩
      intro o ho
      rcases List.mem_cons.mp ho with rfl | ho
      · exact hout
      · exact ih hs₁ (hlater s₁ o₁ hone) hrest o ho

section Observed

variable {β : Type} {f : σ → ι → β} {step : σ → ι → Exec (σ × ω)}

/-- What is seen of every input in the state it is taken in. -/
def observed (f : σ → ι → β) (step : σ → ι → Exec (σ × ω)) : σ → List ι → List β
  | _, [] => []
  | s, i :: is => f s i ::
      match step s i with
      | .ok (s₁, _) => observed f step s₁ is
      | .error _ => []

theorem observed_cons {s s₁ : σ} {i : ι} {o : ω} (h : step s i = .ok (s₁, o)) (is : List ι) :
    observed f step s (i :: is) = f s i :: observed f step s₁ is := by
  rw [observed, h]

theorem observed_append {s s₁ : σ} {is : List ι} {os : List ω}
    (h : feed step s is = .ok (s₁, os)) (js : List ι) :
    observed f step s (is ++ js) = observed f step s is ++ observed f step s₁ js := by
  induction is generalizing s os with
  | nil =>
      cases h
      rfl
  | cons i is ih =>
      rcases feed_cons_eq_ok.mp h with ⟨s₂, o, os', hone, hrest, rfl⟩
      rw [List.cons_append, observed_cons hone, observed_cons hone, ih hrest, List.cons_append]

/-- What is seen at one place of a run is seen of the input there. -/
theorem observed_split {s t : σ} {is : List ι} {os : List ω} (hrun : feed step s is = .ok (t, os))
    {bs cs : List β} {b : β} (h : observed f step s is = bs ++ b :: cs) :
    ∃ before i after s₁ os₁ s₂ o, is = before ++ i :: after ∧
      feed step s before = .ok (s₁, os₁) ∧ step s₁ i = .ok (s₂, o) ∧ f s₁ i = b ∧
      observed f step s₂ after = cs := by
  -- Over what was observed before.
  induction bs generalizing s is os with
  | nil =>
      rcases is with _ | ⟨i, is⟩
      · cases h
      · rcases feed_cons_eq_ok.mp hrun with ⟨s₁, o, os', hone, _, _⟩
        rw [observed_cons hone, List.nil_append, List.cons.injEq] at h
        exact ⟨[], i, is, s, [], s₁, o, rfl, rfl, hone, h.1, h.2⟩
  | cons b' bs ih =>
      rcases is with _ | ⟨j, is⟩
      · cases h
      · rcases feed_cons_eq_ok.mp hrun with ⟨s₁, o₁, os', hone, hrest, _⟩
        rw [observed_cons hone, List.cons_append, List.cons.injEq] at h
        rcases ih hrest h.2 with ⟨before, i, after, s₂, os₂, s₃, o, rfl, hbefore, hrun⟩
        exact ⟨j :: before, i, after, s₂, _, s₃, o, rfl, feed_cons hone hbefore, hrun⟩

/-- What is seen somewhere in a run is seen of one of its inputs. -/
theorem mem_observed {s t : σ} {is : List ι} {os : List ω} (hrun : feed step s is = .ok (t, os))
    {b : β} (h : b ∈ observed f step s is) :
    ∃ before i after s₁ os₁, is = before ++ i :: after ∧ feed step s before = .ok (s₁, os₁) ∧
      f s₁ i = b := by
  rcases List.append_of_mem h with ⟨bs, cs, hsplit⟩
  rcases observed_split hrun hsplit with ⟨before, i, after, s₁, os₁, _, _, heq, hbefore, _, hb, _⟩
  exact ⟨before, i, after, s₁, os₁, heq, hbefore, hb⟩

/-- Everything seen of a run has a property exactly when every input, where it
    is taken, does. -/
theorem forall_observed_iff_along {P : β → Prop} (s : σ) (is : List ι) :
    (∀ b ∈ observed f step s is, P b) ↔ Along step (fun s i => P (f s i)) s is := by
  induction is generalizing s with
  | nil => exact ⟨fun _ => trivial, fun _ => List.forall_mem_nil _⟩
  | cons i is ih =>
      cases hone : step s i with
      | error p =>
          simp only [observed, Along, hone, List.forall_mem_singleton, reduceCtorEq,
            false_implies, implies_true, and_true]
      | ok result =>
          rcases result with ⟨s₁, o⟩
          simp only [observed, Along, hone, List.forall_mem_cons, ih, Except.ok.injEq,
            Prod.mk.injEq, and_imp, forall_eq', forall_apply_eq_imp_iff]

end Observed

section Parts

variable {τ κ δ : Type} {part : τ → κ → Exec (τ × List δ)} {step : σ → ι → Exec (σ × ω)}

/-- A part of a machine goes from one state to another on its own, by what it
    sees, and all that it puts out is put out by the whole, in the same
    order. -/
def Shares (part : τ → κ → Exec (τ × List δ)) (t : τ) (seen : List κ) (t' : τ)
    (shown : List δ) : Prop :=
  ∃ outs, feed part t seen = .ok (t', outs) ∧ outs.flatten.Sublist shown

/-- A part that sees nothing stays. -/
theorem shares_nil (part : τ → κ → Exec (τ × List δ)) (t : τ) (shown : List δ) :
    Shares part t [] t shown :=
  ⟨[], rfl, List.nil_sublist shown⟩

theorem shares_one {t t' : τ} {seen : κ} {out shown : List δ} (h : part t seen = .ok (t', out))
    (hout : out.Sublist shown) : Shares part t [seen] t' shown := by
  refine ⟨[out], feed_cons h (feed_nil part t'), ?_⟩
  rw [List.flatten_singleton]
  exact hout

theorem Shares.append {t t₁ t₂ : τ} {seen seen' : List κ} {shown shown' : List δ}
    (h : Shares part t seen t₁ shown) (h' : Shares part t₁ seen' t₂ shown') :
    Shares part t (seen ++ seen') t₂ (shown ++ shown') := by
  rcases h with ⟨outs, hfeed, hshown⟩
  rcases h' with ⟨outs', hfeed', hshown'⟩
  refine ⟨outs ++ outs', feed_append_of_ok hfeed hfeed', ?_⟩
  rw [List.flatten_append]
  exact hshown.append hshown'

/-- What is a run of the part in every step is one in every run. The part may
    be gone after some steps; one that is there at the end was there before. -/
theorem feed_shares (view : σ → τ) (There : σ → Prop) {seen : σ → ι → List κ}
    {shown : ω → List δ} {adm : σ → ι → Prop} {Inv : σ → Prop}
    (hinv : ∀ s i s₁ o, Inv s → adm s i → step s i = .ok (s₁, o) → Inv s₁)
    (hstep : ∀ s i s₁ o, Inv s → adm s i → step s i = .ok (s₁, o) → There s₁ →
      There s ∧ Shares part (view s) (seen s i) (view s₁) (shown o))
    {s t : σ} {is : List ι} {os : List ω} (hs : Inv s) (hadm : Along step adm s is)
    (h : feed step s is = .ok (t, os)) (ht : There t) :
    There s ∧ Shares part (view s) (observed seen step s is).flatten (view t)
      (os.flatMap shown) := by
  induction is generalizing s os with
  | nil =>
      cases h
      exact ⟨ht, shares_nil part _ _⟩
  | cons i is ih =>
      rcases feed_cons_eq_ok.mp h with ⟨s₁, o, os', hone, hrest, rfl⟩
      rcases ih (hinv s i s₁ o hs hadm.1 hone) (hadm.2 s₁ o hone) hrest with ⟨hs₁, hlater⟩
      rcases hstep s i s₁ o hs hadm.1 hone hs₁ with ⟨hthere, hnow⟩
      refine ⟨hthere, ?_⟩
      rw [observed_cons hone, List.flatten_cons, List.flatMap_cons]
      exact hnow.append hlater

end Parts

theorem Reachable.invariant {step : σ → ι → Exec (σ × ω)} {adm : σ → ι → Prop} {s₀ : σ}
    (Inv : σ → Prop) (h0 : Inv s₀)
    (hstep : ∀ s i s₁ o, Inv s → adm s i → step s i = .ok (s₁, o) → Inv s₁)
    {s : σ} (hr : Reachable step adm s₀ s) : Inv s := by
  induction hr with
  | init => exact h0
  | next _ hadm hs ih => exact hstep _ _ _ _ ih hadm hs

end Trace

end SigmaMedia
