import ControlRelay.Proofs.Process.Keeping

/-!
# What processes come to

A process is carried out among others: before each of its steps they may change the state by a
relation `outside`.  `Completes` says how it may end, and `Comes` that whatever the others do it
comes to one of some ends.  A program yields a result of which something holds if every process that
it is the beginning of comes to its continuation with such a result.  Processes that it starts count
among the others.
-/

namespace ControlRelay

variable {σ ι π α β : Type} {outside : σ → σ → Prop} {s s' : σ}

/-- How a process that begins in a state may end: it is over or goes on by name. -/
inductive Process.Completes (outside : σ → σ → Prop) :
    σ → Process σ ι π → σ → Process σ ι π → Prop where
  | done (s : σ) : Completes outside s .done s .done
  | enter (s : σ) (program : π) : Completes outside s (.enter program) s (.enter program)
  | step {s s₁ s' : σ} {run : σ → σ × Process σ ι π} {last : Process σ ι π}
      (before : outside s s₁) (after : Completes outside (run s₁).1 (run s₁).2 s' last) :
      Completes outside s (.step run) s' last
  | wait {s s' : σ} {signals : List ι} {deadline : Option Nat} {next last : Process σ ι π}
      (after : Completes outside s next s' last) :
      Completes outside s (.wait signals deadline next) s' last
  | fork {s s' : σ} {child next last : Process σ ι π}
      (after : Completes outside s next s' last) :
      Completes outside s (.fork child next) s' last

theorem Process.Completes.mono {outside' : σ → σ → Prop} {p last : Process σ ι π}
    (completes : Completes outside s p s' last)
    (implies : ∀ {s₁ s₂}, outside s₁ s₂ → outside' s₁ s₂) :
    Completes outside' s p s' last
  := by
  induction completes with
  | done s => exact .done s
  | enter s program => exact .enter s program
  | step before _ ih => exact .step (implies before) ih
  | wait _ ih => exact .wait ih
  | fork _ ih => exact .fork ih

/-- What becomes of a process that nobody else acts beside, after a number of steps at most. -/
def Process.alone : Nat → σ → Process σ ι π → σ × Process σ ι π
  | 0, s, p => (s, p)
  | n + 1, s, .step run => (run s).2.alone n (run s).1
  | n + 1, s, .wait _ _ next => next.alone n s
  | n + 1, s, .fork _ next => next.alone n s
  | _ + 1, s, p => (s, p)

/-- Whether a process is over or goes on by name. -/
def Process.isOver : Process σ ι π → Bool
  | .done => true
  | .enter _ => true
  | _ => false

/-- A process may be carried out without others. -/
theorem Process.completes_alone (refl : ∀ s, outside s s) {n : Nat} {p : Process σ ι π}
    (stops : (p.alone n s).2.isOver = true) :
    Completes outside s p (p.alone n s).1 (p.alone n s).2
  := by
  induction n generalizing s p with
  | zero =>
    cases p with
    | done => apply Completes.done
    | enter program => apply Completes.enter
    | _ => cases stops
  | succ n ih =>
    cases p with
    | done => apply Completes.done
    | enter program => apply Completes.enter
    | step run => exact .step (refl s) (ih stops)
    | wait signals deadline next => exact .wait (ih stops)
    | fork child next => exact .fork (ih stops)

/-- Whatever others do, the process comes to one of the ends. -/
inductive Process.Comes (outside : σ → σ → Prop) (ends : σ → Process σ ι π → Prop) :
    σ → Process σ ι π → Prop where
  | here {s : σ} {p : Process σ ι π} (ended : ends s p) : Comes outside ends s p
  | step {s : σ} {run : σ → σ × Process σ ι π}
      (next : ∀ s₁, outside s s₁ → Comes outside ends (run s₁).1 (run s₁).2) :
      Comes outside ends s (.step run)
  | wait {s : σ} {signals : List ι} {deadline : Option Nat} {p : Process σ ι π}
      (next : Comes outside ends s p) :
      Comes outside ends s (.wait signals deadline p)
  | fork {s : σ} {child p : Process σ ι π} (next : Comes outside ends s p) :
      Comes outside ends s (.fork child p)

namespace Process.Comes

variable {ends ends' : σ → Process σ ι π → Prop} {p last : Process σ ι π}

/-- What goes on from the ends goes on from the whole. -/
theorem trans (comes : Comes outside ends s p)
    (goesOn : ∀ s q, ends s q → Comes outside ends' s q) :
    Comes outside ends' s p
  := by
  induction comes with
  | here ended => apply goesOn _ _ ended
  | step _ ih => exact .step ih
  | wait _ ih => exact .wait ih
  | fork _ ih => exact .fork ih

/-- What others do before the process begins makes no difference where its ends allow for it. -/
theorem of_outside {s₁ : σ} (comes : Comes outside ends s p)
    (trans : ∀ {s₁ s₂ s₃}, outside s₁ s₂ → outside s₂ s₃ → outside s₁ s₃)
    (stable : ∀ {s₁ s₂ q}, ends s₁ q → outside s₁ s₂ → ends s₂ q) (others : outside s s₁) :
    Comes outside ends s₁ p
  := by
  induction comes with
  | here ended => exact .here (stable ended others)
  | step next _ => exact .step fun s₂ before => next s₂ (trans others before)
  | wait _ ih => exact .wait (ih others)
  | fork _ ih => exact .fork (ih others)

/-- A process that comes to ends where it is over ends at one of them. -/
theorem of_completes (comes : Comes outside ends s p) (completes : Completes outside s p s' last)
    (stops : ∀ s q, ends s q → q = .done ∨ ∃ program, q = .enter program) :
    ends s' last
  := by
  induction comes with
  | here ended =>
    obtain rfl | ⟨program, rfl⟩ := stops _ _ ended
    · cases completes
      apply ended
    · cases completes
      apply ended
  | step _ ih =>
    cases completes with
    | step before after => apply ih _ before after
  | wait _ ih =>
    cases completes with
    | wait after => apply ih after
  | fork _ ih =>
    cases completes with
    | fork after => apply ih after

end Process.Comes

namespace Program

/-- Begun in a state, the program yields a result, and something holds of it and the state then. -/
def Yields (outside : σ → σ → Prop) (s : σ) (p : Program σ ι π α) (post : σ → α → Prop) : Prop :=
  ∀ k, Process.Comes outside (fun s' q => ∃ a, q = k a ∧ post s' a) s (p k)

namespace Yields

variable {post post' : σ → α → Prop}

theorem mono {p : Program σ ι π α} (yields : Yields outside s p post)
    (implies : ∀ s' a, post s' a → post' s' a) :
    Yields outside s p post'
  := by
  intro k
  apply (yields k).trans
  rintro s' q ⟨a, rfl, holds⟩
  exact .here ⟨a, rfl, implies s' a holds⟩

/-- What others do before the program begins makes no difference to a result that allows for it. -/
theorem of_outside {s₁ : σ} {p : Program σ ι π α} (yields : Yields outside s p post)
    (trans : ∀ {s₁ s₂ s₃}, outside s₁ s₂ → outside s₂ s₃ → outside s₁ s₃)
    (stable : ∀ {s₁ s₂ a}, post s₁ a → outside s₁ s₂ → post s₂ a) (others : outside s s₁) :
    Yields outside s₁ p post
  := by
  intro k
  apply (yields k).of_outside trans _ others
  rintro s₁ s₂ q ⟨a, same, holds⟩ after
  exact ⟨a, same, stable holds after⟩

/-- A process that is over with the result of a program ends with what the program yields. -/
theorem of_completes {p : Program σ ι π α} {k : α → Process σ ι π} {last : Process σ ι π}
    (yields : Yields outside s p post) (completes : Process.Completes outside s (p k) s' last)
    (stops : ∀ a, k a = .done ∨ ∃ program, k a = .enter program) :
    ∃ a, last = k a ∧ post s' a
  := by
  apply (yields k).of_completes completes
  rintro s q ⟨a, rfl, -⟩
  apply stops

theorem pure {a : α} (holds : post s a) :
    Yields outside s (Pure.pure a : Program σ ι π α) post
  := fun _ => .here ⟨a, rfl, holds⟩

theorem bind {p : Program σ ι π α} {f : α → Program σ ι π β} {post : σ → β → Prop}
    (first : Yields outside s p fun s' a => Yields outside s' (f a) post) :
    Yields outside s (p >>= f) post
  := by
  intro k
  apply (first fun a => f a k).trans
  rintro s' q ⟨a, rfl, after⟩
  apply after k

theorem atomically {f : σ → σ × α} (holds : ∀ s', outside s s' → post (f s').1 (f s').2) :
    Yields outside s (Program.atomically f : Program σ ι π α) post
  := fun _ => .step fun s' before => .here ⟨(f s').2, rfl, holds s' before⟩

theorem update {f : σ → σ} {post : σ → Unit → Prop} (holds : ∀ s', outside s s' → post (f s') ()) :
    Yields outside s (Program.update f : Program σ ι π Unit) post
  := atomically holds

theorem inspect {f : σ → α} (holds : ∀ s', outside s s' → post s' (f s')) :
    Yields outside s (Program.inspect f : Program σ ι π α) post
  := atomically holds

theorem await (signals : List ι) (deadline : Option Nat) {post : σ → Unit → Prop}
    (holds : post s ()) :
    Yields outside s (Program.await signals deadline : Program σ ι π Unit) post
  := fun _ => .wait (.here ⟨(), rfl, holds⟩)

/-- All steps of a program, and all that others do before them, are of a relation that holds of
what they come to. -/
theorem of_keeps {steps relation : σ → σ → Prop} {rest : Process σ ι π → Prop}
    {p : Program σ ι π α} (keeps : Keeps steps rest p) (refl : ∀ s, relation s s)
    (trans : ∀ {s₁ s₂ s₃}, relation s₁ s₂ → relation s₂ s₃ → relation s₁ s₃)
    (others : ∀ {s₁ s₂}, outside s₁ s₂ → relation s₁ s₂)
    (own : ∀ {s₁ s₂}, steps s₁ s₂ → relation s₁ s₂) :
    Yields outside s p fun s' _ => relation s s'
  := by
  intro k
  have comes (q : Process σ ι π) (keeps : Process.Keeps steps rest (fun q => ∃ a, q = k a) q) :
      ∀ s', relation s s' →
        Process.Comes outside (fun s' q => ∃ a, q = k a ∧ relation s s') s' q
    := by
    generalize ends_eq : (fun q => ∃ a, q = k a) = ends at keeps
    induction keeps with
    | ended here =>
      intro s' related
      rw [← ends_eq] at here
      obtain ⟨a, rfl⟩ := here
      exact .here ⟨a, rfl, related⟩
    | step steps_run _ ih =>
      intro s' related
      apply Process.Comes.step
      intro s₁ before
      apply ih s₁ ends_eq
      apply trans (trans related (others before)) (own (steps_run s₁))
    | wait _ ih => exact fun s' related => .wait (ih ends_eq s' related)
    | fork _ _ _ ih => exact fun s' related => .fork (ih ends_eq s' related)
  apply comes _ (keeps k) s (refl s)

end Yields

end Program

end ControlRelay
