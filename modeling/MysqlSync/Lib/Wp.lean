import MysqlSync.Lib.Prog

/-!
# Pre- and postconditions of programs that may stop

`wp x Q E s` says how the program `x` ends when it is run from the state `s`: it returns a value
and a state that satisfy `Q`, or it stops for a reason and in a state that satisfy `E`. For each
way of putting programs together a lemma says what it comes down to for the parts, so that a
specification is proved by rewriting with these and by citing the specifications of the parts
through `wp_mono`. `catchWith` is the handler of an exception: the program goes on from the state
the exception left.
-/

universe u

namespace Prog

variable {σ ε α β : Type u}

/-- Run `x`, and if it stops, go on with the handler `h`. -/
def catchWith (x : Prog σ ε α) (h : ε → Prog σ ε α) : Prog σ ε α := fun s =>
  match x s with
  | (.ok a, s') => (.ok a, s')
  | (.error e, s') => h e s'

/-- From `s`, the program returns in `Q` or stops in `E`. -/
def wp (x : Prog σ ε α) (Q : α → σ → Prop) (E : ε → σ → Prop) (s : σ) : Prop :=
  match x s with
  | (.ok a, s') => Q a s'
  | (.error e, s') => E e s'

/-- Whether the program returns from `s`. -/
def returns (x : Prog σ ε α) (s : σ) : Bool :=
  match x s with
  | (.ok _, _) => true
  | (.error _, _) => false

variable {x : Prog σ ε α} {f : α → Prog σ ε β} {Q Q' : α → σ → Prop} {R : β → σ → Prop}
  {E E' : ε → σ → Prop} {s s' : σ}

lemma wp.of_ok {a : α} (h : wp x Q E s) (hx : x s = (.ok a, s')) : Q a s' := by
  rwa [wp, hx] at h

lemma wp.of_error {e : ε} (h : wp x Q E s) (hx : x s = (.error e, s')) : E e s' := by
  rwa [wp, hx] at h

lemma wp_mono (h : wp x Q E s) (hQ : ∀ a s', Q a s' → Q' a s') (hE : ∀ e s', E e s' → E' e s') :
    wp x Q' E' s := by
  rcases hx : x s with ⟨e | a, s'⟩
  · rw [wp, hx]
    exact hE e s' (h.of_error hx)
  · rw [wp, hx]
    exact hQ a s' (h.of_ok hx)

/-- What holds however the program ends holds of the state it leaves. -/
lemma wp.state {P : σ → Prop} (h : wp x (fun _ s' => P s') (fun _ s' => P s') s) : P (x s).2 := by
  rcases hx : x s with ⟨e | a, s'⟩
  · exact h.of_error hx
  · exact h.of_ok hx

/-- The ends of a program are those it is run to. -/
lemma wp.run_eq (h : wp x Q E s) :
    wp x (fun a s' => Q a s' ∧ x s = (.ok a, s')) (fun e s' => E e s' ∧ x s = (.error e, s')) s := by
  rcases hx : x s with ⟨e | a, s'⟩
  · rw [wp, hx]
    exact ⟨h.of_error hx, rfl⟩
  · rw [wp, hx]
    exact ⟨h.of_ok hx, rfl⟩

lemma returns_of_error {e : ε} (hx : x s = (.error e, s')) : x.returns s = false := by
  rw [returns, hx]

@[simp] lemma wp_pure {a : α} : wp (pure a : Prog σ ε α) Q E s ↔ Q a s := Iff.rfl

@[simp] lemma wp_get {Q : σ → σ → Prop} : wp (get : Prog σ ε σ) Q E s ↔ Q s s := Iff.rfl

@[simp] lemma wp_modify {g : σ → σ} {Q : PUnit → σ → Prop} :
    wp (modify g : Prog σ ε PUnit) Q E s ↔ Q ⟨⟩ (g s) := Iff.rfl

@[simp] lemma wp_stop {e : ε} : wp (stop e : Prog σ ε α) Q E s ↔ E e s := Iff.rfl

@[simp] lemma wp_bind : wp (x >>= f) R E s ↔ wp x (fun a s' => wp (f a) R E s') E s := by
  rcases hx : x s with ⟨e | a, s'⟩
  · rw [wp, wp, bind_of_error hx, hx]
  · rw [wp, wp, bind_of_ok hx, hx]
    rfl

@[simp] lemma wp_ite {c : Prop} [Decidable c] {y : Prog σ ε α} :
    wp (if c then x else y) Q E s ↔ if c then wp x Q E s else wp y Q E s := by
  split_ifs <;> exact Iff.rfl

@[simp] lemma wp_catchWith {h : ε → Prog σ ε α} :
    wp (catchWith x h) Q E s ↔ wp x Q (fun e s' => wp (h e) Q E s') s := by
  rcases hx : x s with ⟨e | a, s'⟩
  · rw [wp, wp, catchWith, hx]
    rfl
  · rw [wp, wp, catchWith, hx]

end Prog
