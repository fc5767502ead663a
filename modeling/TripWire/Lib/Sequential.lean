import TripWire.Lib.Machine

/-!
# Sequential histories of an object

An object is given by `perform : A → Q → A × R`: in the state `a` it answers the request `q` by
`(perform a q).2` and goes on in the state `(perform a q).1`.  A history is a list of requests with
the replies that were given to them, and it is `Legal` when the object, started in some state, gives
just these replies.

`legal_of_simulation` is the rule for a machine whose operations take several steps each: if every
step either leaves the abstract state alone or completes one operation, and then changes the
abstract state and answers as the object would, then the history of every run is legal.  The step at
which an operation is completed is its linearization point.
-/

namespace Sequential

variable {A Q R : Type*} (perform : A → Q → A × R)

/-- The state of the object after the requests of a history. -/
def after (a : A) (h : List (Q × R)) : A := h.foldl (fun a e => (perform a e.1).1) a

/-- The replies of a history are those that the object gives, started in `a`. -/
def Legal : A → List (Q × R) → Prop
  | _, [] => True
  | a, e :: h => (perform a e.1).2 = e.2 ∧ Legal (perform a e.1).1 h

@[simp]
theorem after_cons (a : A) (e : Q × R) (h : List (Q × R)) :
    after perform a (e :: h) = after perform (perform a e.1).1 h := rfl

theorem after_append (a : A) (h h' : List (Q × R)) :
    after perform a (h ++ h') = after perform (after perform a h) h' :=
  List.foldl_append

variable {perform}

theorem legal_append {a : A} {h h' : List (Q × R)} :
    Legal perform a (h ++ h') ↔ Legal perform a h ∧ Legal perform (after perform a h) h' := by
  induction h generalizing a with
  | nil => simp [Legal, after]
  | cons e h ih =>
    rw [List.cons_append, Legal, Legal, ih, after_cons, and_assoc]

/-- **The simulation rule.** -/
theorem legal_of_simulation {S α : Type*} {step : S → α → S} {I : S → Prop} (abs : S → A)
    (history : S → List (Q × R)) {a₀ : A}
    (hstep : ∀ s x, I s → I (step s x) ∧
      ((abs (step s x) = abs s ∧ history (step s x) = history s) ∨
        ∃ e, history (step s x) = history s ++ [e] ∧ perform (abs s) e.1 = (abs (step s x), e.2)))
    {s : S} (hs : I s) (hlegal : Legal perform a₀ (history s))
    (hafter : after perform a₀ (history s) = abs s) (xs : List α) :
    Legal perform a₀ (history (Machine.run step s xs)) := by
  -- the invariant of the run: the history so far is legal and leads to the abstract state
  have hinv : ∀ s x,
      (I s ∧ Legal perform a₀ (history s) ∧ after perform a₀ (history s) = abs s) →
        I (step s x) ∧ Legal perform a₀ (history (step s x)) ∧
          after perform a₀ (history (step s x)) = abs (step s x) := by
    rintro s x ⟨hI, hleg, haft⟩
    obtain ⟨hI', ⟨habs, hhist⟩ | ⟨e, hhist, hperform⟩⟩ := hstep s x hI
    · rw [hhist, habs]
      exact ⟨hI', hleg, haft⟩
    · refine ⟨hI', ?_, ?_⟩
      · rw [hhist, legal_append, haft]
        exact ⟨hleg, by rw [hperform], trivial⟩
      · rw [hhist, after_append, haft, after_cons, hperform]
        rfl
  exact (Machine.run_invariant hinv xs ⟨hs, hlegal, hafter⟩).2.1

end Sequential
