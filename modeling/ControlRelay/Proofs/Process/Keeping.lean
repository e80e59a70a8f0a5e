import ControlRelay.Process.Basic
import Mathlib.Tactic.Common

/-!
# Processes that keep to a relation

A process keeps to a relation when every atomic step of it, and of every process that it starts, is
one of the relation, whatever the others have done before.  Where it goes on by name is not looked
at: it keeps to the relation until it comes to one of its ends, and those that it starts until they
rest.  A program keeps to a relation when its ends are the continuations.
-/

namespace ControlRelay

variable {σ ι π α β : Type} {steps : σ → σ → Prop} {rest : Process σ ι π → Prop}

/-- The process takes steps of a relation until it is at one of its ends, and those that it starts
do until they rest. -/
inductive Process.Keeps (steps : σ → σ → Prop) (rest : Process σ ι π → Prop) :
    (Process σ ι π → Prop) → Process σ ι π → Prop where
  | ended {ends : Process σ ι π → Prop} {p : Process σ ι π} (here : ends p) : Keeps steps rest ends p
  | step {ends : Process σ ι π → Prop} {run : σ → σ × Process σ ι π}
      (steps_run : ∀ s, steps s (run s).1) (next : ∀ s, Keeps steps rest ends (run s).2) :
      Keeps steps rest ends (.step run)
  | wait {ends : Process σ ι π → Prop} {signals : List ι} {deadline : Option Nat}
      {p : Process σ ι π} (next : Keeps steps rest ends p) :
      Keeps steps rest ends (.wait signals deadline p)
  | fork {ends : Process σ ι π → Prop} {child p : Process σ ι π}
      (started : Keeps steps rest rest child) (next : Keeps steps rest ends p) :
      Keeps steps rest ends (.fork child p)

/-- What goes on from the ends goes on from the whole. -/
theorem Process.Keeps.trans {ends ends' : Process σ ι π → Prop} {p : Process σ ι π}
    (keeps : Keeps steps rest ends p) (goesOn : ∀ q, ends q → Keeps steps rest ends' q) :
    Keeps steps rest ends' p
  := by
  induction keeps with
  | ended here => apply goesOn _ here
  | step steps_run _ ih => exact .step steps_run fun s => ih s goesOn
  | wait _ ih => exact .wait (ih goesOn)
  | fork started _ _ ih => exact .fork started (ih goesOn)

/-- What keeps to a relation keeps to a wider one. -/
theorem Process.Keeps.mono {steps' : σ → σ → Prop} {rest' ends ends' : Process σ ι π → Prop}
    {p : Process σ ι π} (keeps : Keeps steps rest ends p)
    (steps_mono : ∀ s s', steps s s' → steps' s s') (rest_mono : ∀ q, rest q → rest' q)
    (ends_mono : ∀ q, ends q → ends' q) :
    Keeps steps' rest' ends' p
  := by
  induction keeps generalizing ends' with
  | ended here => exact .ended (ends_mono _ here)
  | step steps_run _ ih =>
    exact .step (fun s => steps_mono _ _ (steps_run s)) fun s => ih s ends_mono
  | wait _ ih => exact .wait (ih ends_mono)
  | fork _ _ started next => exact .fork (started rest_mono) (next ends_mono)

namespace Program

/-- The program takes steps of a relation, and the processes that it starts do until they rest. -/
def Keeps (steps : σ → σ → Prop) (rest : Process σ ι π → Prop) (p : Program σ ι π α) : Prop :=
  ∀ k, Process.Keeps steps rest (fun q => ∃ a, q = k a) (p k)

namespace Keeps

/-- A process made of a program that keeps to the relation, and of continuations that do, does. -/
theorem process {ends : Process σ ι π → Prop} {p : Program σ ι π α} (keeps : Keeps steps rest p)
    {k : α → Process σ ι π} (goesOn : ∀ a, Process.Keeps steps rest ends (k a)) :
    Process.Keeps steps rest ends (p k)
  := by
  apply (keeps k).trans
  rintro q ⟨a, rfl⟩
  apply goesOn a

theorem mono {steps' : σ → σ → Prop} {rest' : Process σ ι π → Prop} {p : Program σ ι π α}
    (keeps : Keeps steps rest p) (steps_mono : ∀ s s', steps s s' → steps' s s')
    (rest_mono : ∀ q, rest q → rest' q) :
    Keeps steps' rest' p
  := fun k => (keeps k).mono steps_mono rest_mono fun _ => id

theorem pure (a : α) :
    Keeps steps rest (Pure.pure a : Program σ ι π α)
  := fun _ => .ended ⟨a, rfl⟩

theorem bind {p : Program σ ι π α} {f : α → Program σ ι π β} (first : Keeps steps rest p)
    (after : ∀ a, Keeps steps rest (f a)) :
    Keeps steps rest (p >>= f)
  := by
  intro k
  apply process first
  intro a
  apply after a k

/-- What is done after a part of a program decides whether the process keeps to the relation. -/
theorem process_bind {ends : Process σ ι π → Prop} {p : Program σ ι π α}
    {f : α → Program σ ι π β} {k : β → Process σ ι π} (first : Keeps steps rest p)
    (after : ∀ a, Process.Keeps steps rest ends (f a k)) :
    Process.Keeps steps rest ends ((p >>= f) k)
  := first.process after

theorem atomically {f : σ → σ × α} (steps_f : ∀ s, steps s (f s).1) :
    Keeps steps rest (Program.atomically f)
  := fun _ => .step steps_f fun s => .ended ⟨(f s).2, rfl⟩

theorem update {f : σ → σ} (steps_f : ∀ s, steps s (f s)) :
    Keeps steps rest (Program.update f)
  := atomically steps_f

theorem inspect (refl : ∀ s, steps s s) (f : σ → α) :
    Keeps steps rest (Program.inspect f)
  := atomically refl

theorem await (signals : List ι) (deadline : Option Nat) :
    Keeps steps rest (Program.await signals deadline)
  := fun _ => .wait (.ended ⟨(), rfl⟩)

theorem fork {child : Process σ ι π} (started : Process.Keeps steps rest rest child) :
    Keeps steps rest (Program.fork child)
  := fun _ => .fork started (.ended ⟨(), rfl⟩)

theorem forM {p : α → Program σ ι π Unit} (items : List α)
    (each : ∀ item ∈ items, Keeps steps rest (p item)) :
    Keeps steps rest (items.forM p)
  := by
  induction items with
  | nil => apply pure
  | cons item items ih =>
    apply bind (each item List.mem_cons_self)
    intro
    apply ih
    intro other mem
    apply each other (List.mem_cons_of_mem _ mem)

end Keeps

end Program

end ControlRelay
