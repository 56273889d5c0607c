import Mathlib.Data.List.Induction

/-!
# Runs of a transition system

A transition system has initial states and a total step under each label.
A guard restricts the labels a run may take in a state; the unguarded runs are
those under the trivial guard.
-/

namespace Library

/-- States of type `σ` changed by labels of type `ι`. -/
structure TransitionSystem (σ ι : Type) where
  initial : σ → Prop
  step : σ → ι → σ

namespace TransitionSystem

variable {σ ι : Type}

/-- The states of the runs in which every step satisfies `guard`. -/
inductive ReachableUnder (system : TransitionSystem σ ι)
    (guard : σ → ι → Prop) : σ → Prop where
  | start {state : σ} (initial : system.initial state) :
      ReachableUnder system guard state
  | next {state : σ} (label : ι)
      (before : ReachableUnder system guard state)
      (allowed : guard state label) :
      ReachableUnder system guard (system.step state label)

/-- The states of all runs. -/
abbrev Reachable (system : TransitionSystem σ ι) : σ → Prop :=
  system.ReachableUnder (fun _ _ => True)

variable {system : TransitionSystem σ ι} {guard : σ → ι → Prop}

theorem ReachableUnder.next_eq {state after : σ} {label : ι}
    (before : system.ReachableUnder guard state) (allowed : guard state label)
    (stepped : system.step state label = after) :
    system.ReachableUnder guard after := by
  rw [← stepped]
  exact .next label before allowed

theorem ReachableUnder.invariant {motive : σ → Prop}
    (base : ∀ state, system.initial state → motive state)
    (kept : ∀ state label, system.ReachableUnder guard state →
      guard state label → motive state → motive (system.step state label))
    {state : σ} (run : system.ReachableUnder guard state) :
    motive state := by
  induction run with
  | start initial => exact base _ initial
  | next label before allowed holds => exact kept _ label before allowed holds

/-- The state after taking a list of labels one after another. -/
def run (system : TransitionSystem σ ι) (state : σ) (labels : List ι) : σ :=
  labels.foldl system.step state

theorem run_concat (system : TransitionSystem σ ι) (state : σ)
    (labels : List ι) (label : ι) :
    system.run state (labels ++ [label]) =
      system.step (system.run state labels) label := by
  simp [run]

def Follows (system : TransitionSystem σ ι) (guard : σ → ι → Prop) :
    σ → List ι → Prop
  | _, [] => True
  | state, label :: labels =>
      guard state label ∧ Follows system guard (system.step state label) labels

instance Follows.decidable [∀ state label, Decidable (guard state label)] :
    ∀ state labels, Decidable (system.Follows guard state labels)
  | _, [] => inferInstanceAs (Decidable True)
  | state, label :: labels =>
      have := Follows.decidable (system.step state label) labels
      inferInstanceAs (Decidable (_ ∧ _))

theorem ReachableUnder.run {state : σ}
    (before : system.ReachableUnder guard state) {labels : List ι}
    (follows : system.Follows guard state labels) :
    system.ReachableUnder guard (system.run state labels) := by
  induction labels generalizing state with
  | nil => exact before
  | cons label labels induction =>
      exact induction (.next label before follows.1) follows.2

theorem run_append (system : TransitionSystem σ ι) (state : σ)
    (first rest : List ι) :
    system.run state (first ++ rest) =
      system.run (system.run state first) rest :=
  List.foldl_append

theorem follows_append_iff {state : σ} {first rest : List ι} :
    system.Follows guard state (first ++ rest) ↔
      system.Follows guard state first ∧
        system.Follows guard (system.run state first) rest := by
  induction first generalizing state with
  | nil => simp [Follows, run]
  | cons label labels induction =>
      change (_ ∧ system.Follows guard (system.step state label)
        (labels ++ rest)) ↔ (_ ∧ system.Follows guard _ labels) ∧ _
      rw [induction, and_assoc]
      exact Iff.rfl

theorem follows_iff {state : σ} {labels : List ι} :
    system.Follows guard state labels ↔
      ∀ early label late, labels = early ++ label :: late →
        guard (system.run state early) label := by
  constructor
  · rintro follows early label late rfl
    exact (follows_append_iff.mp follows).2.1
  · intro each
    induction labels generalizing state with
    | nil => trivial
    | cons label labels induction =>
        refine ⟨each [] label labels rfl, induction ?_⟩
        rintro early later late rfl
        exact each (label :: early) later late rfl

theorem Follows.mono {weaker : σ → ι → Prop}
    (weakens : ∀ state label, guard state label → weaker state label)
    {state : σ} {labels : List ι}
    (follows : system.Follows guard state labels) :
    system.Follows weaker state labels := by
  induction labels generalizing state with
  | nil => trivial
  | cons label labels induction =>
      exact ⟨weakens state label follows.1, induction follows.2⟩

theorem ReachableUnder.mono {weaker : σ → ι → Prop}
    (weakens : ∀ state label, guard state label → weaker state label)
    {state : σ} (run : system.ReachableUnder guard state) :
    system.ReachableUnder weaker state := by
  induction run with
  | start initial => exact .start initial
  | next label _ allowed before =>
      exact .next label before (weakens _ label allowed)

theorem ReachableUnder.reachable {state : σ}
    (run : system.ReachableUnder guard state) : system.Reachable state :=
  run.mono fun _ _ _ => trivial

theorem ReachableUnder.related {relation : σ → σ → Prop}
    (reflexive : ∀ state, relation state state)
    (transitive : ∀ first middle last, relation first middle →
      relation middle last → relation first last)
    (kept : ∀ state label, system.ReachableUnder guard state →
      guard state label → relation state (system.step state label))
    {state : σ} (before : system.ReachableUnder guard state) {labels : List ι}
    (follows : system.Follows guard state labels) :
    relation state (system.run state labels) := by
  induction labels generalizing state with
  | nil => exact reflexive state
  | cons label labels induction =>
      have first := kept state label before follows.1
      have rest := induction (.next label before follows.1) follows.2
      exact transitive _ _ _ first rest

theorem follows_true (state : σ) (labels : List ι) :
    system.Follows (fun _ _ => True) state labels := by
  induction labels generalizing state with
  | nil => trivial
  | cons label labels induction =>
      exact ⟨trivial, induction (system.step state label)⟩

theorem Reachable.run {state : σ} (before : system.Reachable state)
    (labels : List ι) : system.Reachable (system.run state labels) :=
  ReachableUnder.run before (follows_true state labels)

/-- Where each step keeps a property exactly when it is allowed, a run keeps it
exactly when all its steps are. -/
theorem run_iff_follows {holds assumed : σ → Prop}
    (earlier : ∀ state label, assumed (system.step state label) →
      assumed state)
    (exact : ∀ state label, system.Reachable state →
      assumed (system.step state label) →
      (holds (system.step state label) ↔ holds state ∧ guard state label))
    {state : σ} (before : system.Reachable state) (initially : holds state)
    (labels : List ι) (assumes : assumed (system.run state labels)) :
    holds (system.run state labels) ↔ system.Follows guard state labels := by
  induction labels using List.reverseRecOn with
  | nil => exact ⟨fun _ => trivial, fun _ => initially⟩
  | append_singleton labels label induction =>
      rw [run_concat] at assumes ⊢
      rw [exact _ label (before.run labels) assumes,
        induction (earlier _ label assumes), follows_append_iff]
      simp [Follows]

/-- A property that each step keeps exactly when it is allowed holds in every
state of a run exactly when all its steps are. -/
theorem always_iff_follows {holds invariant : σ → Prop}
    (kept : ∀ state label, invariant state → holds state →
      invariant (system.step state label))
    (exact : ∀ state label, invariant state → holds state →
      (holds (system.step state label) ↔ guard state label))
    {state : σ} (before : invariant state) (initially : holds state)
    (labels : List ι) :
    (∀ early late, labels = early ++ late → holds (system.run state early)) ↔
      system.Follows guard state labels := by
  induction labels generalizing state with
  | nil =>
      refine iff_of_true ?_ trivial
      intro early late split
      obtain rfl := (List.append_eq_nil_iff.mp split.symm).1
      exact initially
  | cons label labels induction =>
      have step := exact state label before initially
      constructor
      · intro always
        have stepped := always [label] labels rfl
        refine ⟨step.mp stepped, ?_⟩
        apply (induction (kept state label before initially) stepped).mp
        intro early late split
        exact always (label :: early) late (by rw [split]; rfl)
      · rintro ⟨allowed, follows⟩ early late split
        have rest := (induction (kept state label before initially)
          (step.mpr allowed)).mpr follows
        cases early with
        | nil => exact initially
        | cons first early =>
            obtain ⟨rfl, others⟩ := List.cons.inj split
            exact rest early late others

end TransitionSystem

end Library
