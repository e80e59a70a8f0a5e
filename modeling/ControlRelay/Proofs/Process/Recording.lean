import ControlRelay.Proofs.Process.Keeping

/-!
# What programs do and what they give

The deeds of a process are its atomic steps and the processes that it starts.  A program `Gives` a
result after a list of deeds, while others act in between; `Ensures` tells of all its results what
deeds they come after, and is shown by the parts of the program.
-/

namespace ControlRelay

variable {σ ι π α β : Type} {outside : σ → σ → Prop} {s s' : σ}

/-- What a process does. -/
inductive Deed (σ ι π : Type) where
  /-- It took an atomic step. -/
  | stepped (before after : σ)
  /-- It started another process. -/
  | started (child : Process σ ι π)

/-- Whether nothing came of it. -/
def Deed.IsIdle : Deed σ ι π → Prop
  | stepped before after => after = before
  | started _ => False

/-- All steps among the deeds are of a relation. -/
def Deed.Within (steps : σ → σ → Prop) (deeds : List (Deed σ ι π)) : Prop :=
  ∀ s s', .stepped s s' ∈ deeds → steps s s'

section

variable {steps steps' : σ → σ → Prop} {deeds more : List (Deed σ ι π)}

theorem Deed.within_nil :
    Within steps ([] : List (Deed σ ι π))
  := by
  rintro _ _ ⟨⟩

theorem Deed.within_step (step : steps s s') :
    Within steps ([.stepped s s'] : List (Deed σ ι π))
  := by
  intro s₁ s₂ mem
  obtain ⟨rfl, rfl⟩ := Deed.stepped.inj (List.mem_singleton.1 mem)
  exact step

theorem Deed.within_start (child : Process σ ι π) :
    Within steps [.started child]
  := by
  intro s₁ s₂ mem
  cases List.mem_singleton.1 mem

theorem Deed.Within.append (first : Within steps deeds) (second : Within steps more) :
    Within steps (deeds ++ more)
  := fun s s' mem => (List.mem_append.1 mem).elim (first s s') (second s s')

theorem Deed.Within.mono (within : Within steps deeds)
    (implies : ∀ s s', steps s s' → steps' s s') :
    Within steps' deeds
  := fun s s' mem => implies s s' (within s s' mem)

end

/-- A process comes to another one by these deeds, while others act in between. -/
inductive Process.Goes (outside : σ → σ → Prop) :
    σ → Process σ ι π → List (Deed σ ι π) → σ → Process σ ι π → Prop where
  | here (s : σ) (p : Process σ ι π) : Goes outside s p [] s p
  | step {s s₁ s' : σ} {run : σ → σ × Process σ ι π} {deeds : List (Deed σ ι π)}
      {last : Process σ ι π} (before : outside s s₁)
      (after : Goes outside (run s₁).1 (run s₁).2 deeds s' last) :
      Goes outside s (.step run) (.stepped s₁ (run s₁).1 :: deeds) s' last
  | wait {s s' : σ} {signals : List ι} {deadline : Option Nat} {deeds : List (Deed σ ι π)}
      {next last : Process σ ι π} (after : Goes outside s next deeds s' last) :
      Goes outside s (.wait signals deadline next) deeds s' last
  | fork {s s' : σ} {deeds : List (Deed σ ι π)} {child next last : Process σ ι π}
      (after : Goes outside s next deeds s' last) :
      Goes outside s (.fork child next) (.started child :: deeds) s' last

/-- Whatever others do, the process comes to one of the ends; which ones these are depends on its
deeds. -/
inductive Process.Ends (outside : σ → σ → Prop)
    (ends : List (Deed σ ι π) → σ → Process σ ι π → Prop) :
    List (Deed σ ι π) → σ → Process σ ι π → Prop where
  | here {deeds : List (Deed σ ι π)} {s : σ} {p : Process σ ι π} (ended : ends deeds s p) :
      Ends outside ends deeds s p
  | step {deeds : List (Deed σ ι π)} {s : σ} {run : σ → σ × Process σ ι π}
      (next : ∀ s₁, outside s s₁ →
        Ends outside ends (deeds ++ [.stepped s₁ (run s₁).1]) (run s₁).1 (run s₁).2) :
      Ends outside ends deeds s (.step run)
  | wait {deeds : List (Deed σ ι π)} {s : σ} {signals : List ι} {deadline : Option Nat}
      {p : Process σ ι π} (next : Ends outside ends deeds s p) :
      Ends outside ends deeds s (.wait signals deadline p)
  | fork {deeds : List (Deed σ ι π)} {s : σ} {child p : Process σ ι π}
      (next : Ends outside ends (deeds ++ [.started child]) s p) :
      Ends outside ends deeds s (.fork child p)

namespace Process.Ends

variable {ends ends' : List (Deed σ ι π) → σ → Process σ ι π → Prop}
  {deeds more : List (Deed σ ι π)} {p last : Process σ ι π}

/-- What goes on from the ends goes on from the whole. -/
theorem trans (ended : Ends outside ends deeds s p)
    (goesOn : ∀ deeds s q, ends deeds s q → Ends outside ends' deeds s q) :
    Ends outside ends' deeds s p
  := by
  induction ended with
  | here ended => exact goesOn _ _ _ ended
  | step _ ih => exact .step ih
  | wait _ ih => exact .wait ih
  | fork _ ih => exact .fork ih

/-- A process that comes to where it is over has come to one of its ends. -/
theorem of_goes (ended : Ends outside ends deeds s p) (goes : Goes outside s p more s' last)
    (stops : ∀ deeds s q, ends deeds s q → q = .done ∨ ∃ program, q = .enter program)
    (done : last = .done) :
    ends (deeds ++ more) s' last
  := by
  induction ended generalizing more with
  | here ended =>
    obtain rfl | ⟨program, rfl⟩ := stops _ _ _ ended
    · cases goes
      rw [List.append_nil]
      exact ended
    · cases goes
      cases done
  | step _ ih =>
    cases goes with
    | here => cases done
    | step before after => simpa using ih _ before after
  | wait _ ih =>
    cases goes with
    | here => cases done
    | wait after => exact ih after
  | fork _ ih =>
    cases goes with
    | here => cases done
    | fork after => simpa using ih after

end Process.Ends

namespace Program

/-- Begun in a state, the program gives a result after these deeds, whatever is to be done with the
result. -/
def Gives (outside : σ → σ → Prop) (s : σ) (p : Program σ ι π α) (deeds : List (Deed σ ι π))
    (s' : σ) (a : α) : Prop :=
  ∀ k, Process.Goes outside s (p k) deeds s' (k a)

/-- Begun in a state, the program comes to a result, and something holds of its deeds, the state
then and the result. -/
def Ensures (outside : σ → σ → Prop) (s : σ) (p : Program σ ι π α)
    (post : List (Deed σ ι π) → σ → α → Prop) : Prop :=
  ∀ k deeds, Process.Ends outside
    (fun deeds' s' q => ∃ a own, q = k a ∧ deeds' = deeds ++ own ∧ post own s' a) deeds s (p k)

namespace Ensures

variable {post post' : List (Deed σ ι π) → σ → α → Prop}

/-- What the program ensures holds of all that it gives. -/
theorem of_gives [Nonempty π] {p : Program σ ι π α} {deeds : List (Deed σ ι π)} {a : α}
    (ensures : Ensures outside s p post) (gives : Gives outside s p deeds s' a) :
    post deeds s' a
  := by
  classical
  obtain ⟨program⟩ := ‹Nonempty π›
  -- this continuation tells the result from all others
  let k (b : α) : Process σ ι π := if b = a then .done else .enter program
  have done : k a = .done := if_pos rfl
  have ended := (ensures k []).of_goes (gives k) (fun _ _ q ends => ?_) done
  · obtain ⟨b, own, same, rfl, holds⟩ := ended
    by_cases equal : b = a
    · rwa [equal] at holds
    · have other : k b = .enter program := if_neg equal
      cases done.symm.trans (same.trans other)
  · obtain ⟨b, _, rfl, -⟩ := ends
    by_cases equal : b = a
    · exact .inl (if_pos equal)
    · exact .inr ⟨program, if_neg equal⟩

theorem mono {p : Program σ ι π α} (ensures : Ensures outside s p post)
    (implies : ∀ deeds s' a, post deeds s' a → post' deeds s' a) :
    Ensures outside s p post'
  := by
  intro k deeds
  apply (ensures k deeds).trans
  rintro _ s' q ⟨a, own, rfl, rfl, holds⟩
  exact .here ⟨a, own, rfl, rfl, implies own s' a holds⟩

theorem pure {a : α} (holds : post [] s a) :
    Ensures outside s (Pure.pure a : Program σ ι π α) post
  := fun _ deeds => .here ⟨a, [], rfl, (List.append_nil deeds).symm, holds⟩

theorem bind {p : Program σ ι π α} {f : α → Program σ ι π β}
    {post : List (Deed σ ι π) → σ → β → Prop}
    (first : Ensures outside s p fun own s' a =>
      Ensures outside s' (f a) fun more => post (own ++ more)) :
    Ensures outside s (p >>= f) post
  := by
  intro k deeds
  apply (first (fun a => f a k) deeds).trans
  rintro _ s' q ⟨a, own, rfl, rfl, after⟩
  apply (after k (deeds ++ own)).trans
  rintro _ s'' q ⟨b, more, rfl, rfl, holds⟩
  exact .here ⟨b, own ++ more, rfl, List.append_assoc .., holds⟩

theorem atomically {f : σ → σ × α}
    (holds : ∀ s', outside s s' → post [.stepped s' (f s').1] (f s').1 (f s').2) :
    Ensures outside s (Program.atomically f : Program σ ι π α) post
  := fun _ _ => .step fun s' before => .here ⟨(f s').2, _, rfl, rfl, holds s' before⟩

theorem update {f : σ → σ} {post : List (Deed σ ι π) → σ → Unit → Prop}
    (holds : ∀ s', outside s s' → post [.stepped s' (f s')] (f s') ()) :
    Ensures outside s (Program.update f : Program σ ι π Unit) post
  := atomically holds

theorem inspect {f : σ → α}
    (holds : ∀ s', outside s s' → post [.stepped s' s'] s' (f s')) :
    Ensures outside s (Program.inspect f : Program σ ι π α) post
  := atomically holds

theorem await (signals : List ι) (deadline : Option Nat)
    {post : List (Deed σ ι π) → σ → Unit → Prop} (holds : post [] s ()) :
    Ensures outside s (Program.await signals deadline : Program σ ι π Unit) post
  := fun _ deeds => .wait (.here ⟨(), [], rfl, (List.append_nil deeds).symm, holds⟩)

theorem fork (child : Process σ ι π) {post : List (Deed σ ι π) → σ → Unit → Prop}
    (holds : post [.started child] s ()) :
    Ensures outside s (Program.fork child : Program σ ι π Unit) post
  := fun _ _ => .fork (.here ⟨(), _, rfl, rfl, holds⟩)

/-- All steps of a program that keeps to a relation are of it. -/
theorem of_keeps {steps : σ → σ → Prop} {rest : Process σ ι π → Prop} {p : Program σ ι π α}
    (keeps : Keeps steps rest p) :
    Ensures outside s p fun deeds _ _ => Deed.Within steps deeds
  := by
  intro k deeds
  have comes (q : Process σ ι π) (keeps : Process.Keeps steps rest (fun q => ∃ a, q = k a) q) :
      ∀ own s', Deed.Within steps own →
        Process.Ends outside (fun deeds' _ q => ∃ a own, q = k a ∧ deeds' = deeds ++ own ∧
          Deed.Within steps own) (deeds ++ own) s' q
    := by
    generalize ends_eq : (fun q => ∃ a, q = k a) = ends at keeps
    induction keeps with
    | ended here =>
      intro own s' within
      rw [← ends_eq] at here
      obtain ⟨a, rfl⟩ := here
      exact .here ⟨a, own, rfl, rfl, within⟩
    | step steps_run _ ih =>
      intro own s' within
      apply Process.Ends.step
      intro s₁ _
      rw [List.append_assoc]
      exact ih s₁ ends_eq _ _ (within.append (Deed.within_step (steps_run s₁)))
    | wait _ ih => exact fun own s' within => .wait (ih ends_eq own s' within)
    | fork _ _ _ ih =>
      intro own s' within
      apply Process.Ends.fork
      rw [List.append_assoc]
      exact ih ends_eq _ _ (within.append (Deed.within_start _))
  have started := comes (p k) (keeps k) [] s Deed.within_nil
  rwa [List.append_nil] at started

end Ensures

end Program

end ControlRelay
